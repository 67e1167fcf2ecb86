import NexsKernel.Bitfield.Access

/-!
# The laws of a block

The constructor, the readers and the writers of a block are those of a record: what has been written to a field is read
from it, as far as the field can hold it, and the other fields stay. The assertions are to stop values that a field cannot
hold; the one of the constructor does, the one of a writer does not look at all bits.
-/

namespace NexsKernel.Bitfield

variable {b : Base} {f g : Field} {i : Nat}

/-- The fields of `field_high` have not more than the significant bits. The generator does not check this. -/
def Block.Placeable (blk : Block b) : Prop :=
  ∀ f ∈ blk.fields, f.high = true → f.size ≤ b.baseBits

instance (blk : Block b) : Decidable blk.Placeable :=
  inferInstanceAs (Decidable (∀ f ∈ blk.fields, f.high = true → f.size ≤ b.baseBits))

lemma Block.ok (blk : Block b) (hp : blk.Placeable) (hf : f ∈ blk.fields) : f.Ok b :=
  ⟨blk.pos f hf, blk.start_add_size_le hf, hp f hf⟩

/-- A bit of one field is not one of another field of the same word. -/
lemma Block.not_inWord (blk : Block b) (hf : f ∈ blk.fields) (hg : g ∈ blk.fields) (hne : f ≠ g)
    (hindex : f.index b = g.index b) {k : Nat} (hk : k < g.size) : ¬ f.InWord b (g.start b + k) := by
  rintro ⟨h1, h2⟩
  rcases blk.apart hf hg hne hindex with h | h <;> omega

/-- The other fields are as before. -/
lemma read_write_of_ne (blk : Block b) (hp : blk.Placeable) (hf : f ∈ blk.fields) (hg : g ∈ blk.fields) (hne : f ≠ g)
    (words : Words b) (v : BitVec b.base) : read b g (write b f words v) = read b g words := by
  have okf := blk.ok hp hf
  have okg := blk.ok hp hg
  have hpos := okg.pos
  have hstart := okg.start_le
  have hbit : ∀ k < g.size, (write b f words v (g.index b)).getLsbD (g.start b + k) =
      (words (g.index b)).getLsbD (g.start b + k) := by
    intro k hk
    by_cases hindex : g.index b = f.index b
    · rw [hindex, getLsbD_write okf _ _ (by omega), if_neg (blk.not_inWord hf hg hne hindex.symm hk)]
    · rw [write_of_ne _ _ hindex]
  refine BitVec.eq_of_getLsbD_eq fun i hi => ?_
  rw [getLsbD_read okg _ hi, getLsbD_read okg _ hi, hbit (g.size - 1) (by omega)]
  congr 1
  by_cases h : g.Has b i
  · rw [hbit _ h.2]
  · simp [h]

/-! ## The constructor -/

lemma testBit_foldl_or (ts : List Nat) (a : Nat) :
    (ts.foldl (· ||| ·) a).testBit i = (a.testBit i || ts.any (·.testBit i)) := by
  induction ts generalizing a with
  | nil => simp
  | cons t ts ih => rw [List.foldl_cons, ih, Nat.testBit_or, List.any_cons, Bool.or_assoc]

/-- What the constructor puts into a word for a field, bit by bit. -/
lemma testBit_fieldUpdate (ok : f.Ok b) (v : BitVec b.base) (hi : i < b.base) :
    (fieldUpdate b f v).testBit i = (decide (f.InWord b i) && v.getLsbD (f.position b + (i - f.start b))) := by
  have hle := ok.start_le
  have hle' := ok.position_le
  by_cases h : f.InWord b i
  · have hmask : ((2 ^ f.size - 1) <<< f.position b).testBit (f.position b + (i - f.start b)) = true := by
      rw [testBit_mask, Nat.add_sub_cancel_left, decide_eq_true h.2, decide_eq_true (Nat.le_add_right ..)]
      rfl
    unfold fieldUpdate
    rw [decide_eq_true h, Bool.true_and]
    split
    · rw [testBit_shifted ok _ h, Nat.testBit_and, valueMask_eq, hmask, Bool.and_true]
      rfl
    · rw [testBit_shifted ok _ h]
      rfl
  · rw [decide_eq_false h, Bool.false_and]
    unfold Field.InWord at h
    have hsize : f.size < b.base := by omega
    unfold fieldUpdate
    rw [if_pos hsize, valueMask_eq]
    rcases ok.subs_shift with ⟨-, hw, hs⟩ | ⟨-, hw, hs⟩
    · rw [hw, testBit_left, Nat.testBit_and, testBit_mask]
      simp only [Bool.and_eq_false_iff, decide_eq_false_iff_not]
      omega
    · rw [hw, testBit_right, Nat.testBit_and, testBit_mask]
      simp only [Bool.and_eq_false_iff, decide_eq_false_iff_not]
      omega

section New

variable (blk : Block b) (hp : blk.Placeable) {fields : List Field} (hsub : ∀ g ∈ fields, g ∈ blk.fields)
  (hf : f ∈ fields) (vals : String → BitVec b.base)
include hp hsub hf

/-- The bits of a field in what a constructor makes. -/
lemma getLsbD_new {k : Nat} (hk : k < f.size) :
    (newWords b fields vals (f.index b)).getLsbD (f.start b + k) = (vals f.name).getLsbD (f.position b + k) := by
  have ok := blk.ok hp (hsub f hf)
  have hle := ok.start_le
  have hin : f.InWord b (f.start b + k) := ⟨Nat.le_add_right .., by omega⟩
  have hself : (fieldUpdate b f (vals f.name)).testBit (f.start b + k) = (vals f.name).getLsbD (f.position b + k) := by
    rw [testBit_fieldUpdate ok _ (by omega), decide_eq_true hin, Bool.true_and, Nat.add_sub_cancel_left]
  unfold newWords
  rw [BitVec.getLsbD_ofNat, decide_eq_true (show f.start b + k < b.base by omega), Bool.true_and, testBit_foldl_or,
    Nat.zero_testBit, Bool.false_or, Bool.eq_iff_iff, List.any_eq_true]
  constructor
  · rintro ⟨t, ht, hbit⟩
    obtain ⟨g, hg, rfl⟩ := List.mem_map.mp ht
    obtain ⟨hg, hindex⟩ := List.mem_filter.mp hg
    by_cases hfg : g = f
    · rw [hfg, hself] at hbit
      exact hbit
    · have hno := blk.not_inWord (hsub g hg) (hsub f hf) hfg (of_decide_eq_true hindex) hk
      rw [testBit_fieldUpdate (blk.ok hp (hsub g hg)) _ (by omega), decide_eq_false hno] at hbit
      cases hbit
  · intro h
    refine ⟨_, List.mem_map.mpr ⟨f, List.mem_filter.mpr ⟨hf, decide_eq_true rfl⟩, rfl⟩, ?_⟩
    rw [hself, h]

/-- What is read from what a constructor makes. -/
lemma read_new : read b f (newWords b fields vals) = cutOff b f (vals f.name) := by
  have ok := blk.ok hp (hsub f hf)
  have hpos := ok.pos
  refine BitVec.eq_of_getLsbD_eq fun i hi => ?_
  rw [getLsbD_read ok _ hi, getLsbD_cutOff ok _ hi, getLsbD_new blk hp hsub hf vals (k := f.size - 1) (by omega)]
  congr 1
  · by_cases h : f.Has b i
    · have e : f.position b + (i - f.position b) = i := Nat.add_sub_cancel' h.1
      rw [getLsbD_new blk hp hsub hf _ h.2, e]
    · simp [h]
  · cases h : f.high
    · simp
    · have hhigh := ok.position_high h
      have e : f.position b + (f.size - 1) = b.baseBits - 1 := by omega
      rw [e]

end New

/-! ## The assertions -/

lemma testBit_ite_zero (c : Prop) [Decidable c] (x : Nat) :
    (if c then x else 0).testBit i = (decide c && x.testBit i) := by
  split <;> simp [*]

/-- A value is kept as a whole when the bits outside of the field are what the field restores. -/
lemma cutOff_eq_iff (ok : f.Ok b) (v : BitVec b.base) : cutOff b f v = v ↔
    ∀ i < b.base, ¬ f.Has b i → v.getLsbD i =
      ((f.high && b.baseSignExtend) && decide (b.baseBits ≤ i) && v.getLsbD (b.baseBits - 1)) := by
  constructor
  · intro e i hi hno
    have h := getLsbD_cutOff ok v hi
    rw [e, decide_eq_false hno, Bool.false_and, Bool.false_or] at h
    exact h
  · intro h
    refine BitVec.eq_of_getLsbD_eq fun i hi => ?_
    rw [getLsbD_cutOff ok v hi]
    by_cases hhas : f.Has b i
    · rw [decide_eq_true hhas, Bool.true_and]
      cases hh : f.high
      · simp
      · have hlt : ¬ b.baseBits ≤ i := by
          have := ok.position_high hh
          have := hhas.1
          have := hhas.2
          omega
        simp [hlt]
    · rw [decide_eq_false hhas, Bool.false_and, Bool.false_or, h i hi hhas]

/-- What the assertions ask for above the significant bits. -/
lemma testBit_sign (v : BitVec b.base) (hi : i < b.base) :
    (if b.baseSignExtend ∧ v.toNat &&& 1 <<< (b.baseBits - 1) ≠ 0 then (subs b f).highBits else 0).testBit i =
      ((f.high && b.baseSignExtend) && decide (b.baseBits ≤ i) && v.getLsbD (b.baseBits - 1)) := by
  rw [testBit_ite_zero, subs_highBits]
  simp only [and_bit_ne_zero]
  cases f.high
  · simp
  · rw [if_pos rfl, testBit_highBits, decide_eq_true hi]
    cases b.baseSignExtend <;> simp [BitVec.getLsbD, Bool.and_comm]

/-- Above the word the assertions compare nothing. -/
lemma testBit_sign_of_le (hi : b.base ≤ i) (c : Prop) [Decidable c] :
    (if c then (subs b f).highBits else 0).testBit i = false := by
  rw [testBit_ite_zero, subs_highBits]
  split
  · rw [testBit_highBits, decide_eq_false (Nat.not_lt_of_le hi)]
    simp
  · simp

/-- The bits that a mask does not cover. -/
lemma testBit_compl_mask {width size start : Nat} (hi : i < width) :
    (compl width ((2 ^ size - 1) <<< start)).testBit i = !decide (start ≤ i ∧ i - start < size) := by
  rw [testBit_compl, testBit_mask, decide_eq_true hi, Bool.true_xor, Bool.decide_and]

/-- The assertion of the constructor holds of the values that the field can hold. -/
lemma newAssert_iff (ok : f.Ok b) (v : BitVec b.base) : newAssert b f v = true ↔ cutOff b f v = v := by
  have hwidth := b.base_le_width
  rw [cutOff_eq_iff ok]
  unfold newAssert
  split
  · have hbit : ∀ i < b.base, (v.toNat &&& compl b.width (valueMask b f)).testBit i =
        (v.getLsbD i && !decide (f.Has b i)) := by
      intro i hi
      rw [Nat.testBit_and, valueMask_eq, testBit_compl_mask (by omega)]
      rfl
    rw [decide_eq_true_eq]
    constructor
    · intro e i hi hno
      have h := hbit i hi
      rw [e, testBit_sign v hi, decide_eq_false hno, Bool.not_false, Bool.and_true] at h
      exact h.symm
    · intro h
      refine Nat.eq_of_testBit_eq fun i => ?_
      by_cases hi : i < b.base
      · rw [hbit i hi, testBit_sign v hi]
        by_cases hhas : f.Has b i
        · have hlt : f.high = true → ¬ b.baseBits ≤ i := by
            intro hh
            have := ok.position_high hh
            have := hhas.1
            have := hhas.2
            omega
          cases hh : f.high
          · simp [hhas]
          · simp [hhas, hlt hh]
        · rw [decide_eq_false hhas, Bool.not_false, Bool.and_true, h i hi hhas]
      · rw [Nat.testBit_and, testBit_sign_of_le (Nat.le_of_not_lt hi), testBit_toNat_of_le v (Nat.le_of_not_lt hi),
          Bool.false_and]
  · refine iff_of_true rfl fun i hi hno => absurd ?_ hno
    have hle := ok.start_le
    have hle' := ok.position_le
    exact ⟨by omega, by omega⟩

/-- A bit that the assertion of a writer looks at. -/
def Field.Checked (b : Base) (f : Field) (i : Nat) : Prop :=
  f.position b ≤ i + f.start b ∧ i + f.start b < b.width + f.position b ∨
    f.high = true ∧ b.baseSignExtend = true ∧ b.baseBits ≤ i

/-- The bits that the assertion of a writer looks at. -/
lemma testBit_checked (ok : f.Ok b) (hi : i < b.base) :
    ((subs b f).rShiftOp.eval b.width (compl b.width (subs b f).mask) (subs b f).shift |||
      (subs b f).highBits).testBit i = true ↔ f.Checked b i ∧ ¬ f.Has b i := by
  have hwidth := b.base_le_width
  have hle := ok.start_le
  have hle' := ok.position_le
  rw [Nat.testBit_or, Bool.or_eq_true, subs_highBits, subs_mask]
  have hhigh : (if f.high then b.highBits else 0).testBit i = true ↔
      f.high = true ∧ b.baseSignExtend = true ∧ b.baseBits ≤ i := by
    cases f.high
    · simp
    · rw [if_pos rfl, testBit_highBits, decide_eq_true hi]
      simp
  rw [hhigh]
  have hshift : ((subs b f).rShiftOp.eval b.width (compl b.width ((2 ^ f.size - 1) <<< f.start b))
    (subs b f).shift).testBit
      i = true ↔ (f.position b ≤ i + f.start b ∧ i + f.start b < b.width + f.position b) ∧ ¬ f.Has b i := by
    unfold Field.Has
    rcases ok.subs_shift with ⟨hr, -, hs⟩ | ⟨hr, -, hs⟩
    · rw [hr, testBit_right]
      by_cases hlt : (subs b f).shift + i < b.width
      · rw [testBit_compl_mask hlt, Bool.not_eq_true', decide_eq_false_iff_not]
        omega
      · rw [testBit_compl, testBit_mask, decide_eq_false hlt]
        simp only [Bool.false_xor, Bool.and_eq_true, decide_eq_true_eq]
        omega
    · rw [hr, testBit_left, Bool.and_eq_true, Bool.and_eq_true, decide_eq_true_eq, decide_eq_true_eq,
        testBit_compl_mask (by omega), Bool.not_eq_true', decide_eq_false_iff_not]
      omega
  rw [hshift]
  unfold Field.Checked
  constructor
  · rintro (⟨h1, h2⟩ | h)
    · exact ⟨.inl h1, h2⟩
    · refine ⟨.inr h, fun hhas => ?_⟩
      have := ok.position_high h.1
      have := hhas.1
      have := hhas.2
      omega
  · rintro ⟨h1 | h, h2⟩
    · exact .inl ⟨h1, h2⟩
    · exact .inr h

/-- The assertion of a writer asks the bits outside of the field that it looks at to be what the field restores. -/
lemma writeAssert_iff (ok : f.Ok b) (v : BitVec b.base) : writeAssert b f v = true ↔
    ∀ i < b.base, f.Checked b i → ¬ f.Has b i → v.getLsbD i =
      ((f.high && b.baseSignExtend) && decide (b.baseBits ≤ i) && v.getLsbD (b.baseBits - 1)) := by
  have hsign : ∀ i < b.base, (if (subs b f).signExtend ∧ v.toNat &&& 1 <<< (subs b f).extendBit ≠ 0 then
      (subs b f).highBits else 0).testBit i =
      ((f.high && b.baseSignExtend) && decide (b.baseBits ≤ i) && v.getLsbD (b.baseBits - 1)) := by
    intro i hi
    rw [← testBit_sign v hi, testBit_ite_zero, testBit_ite_zero, subs_signExtend, subs_extendBit, subs_highBits]
    cases f.high <;> simp
  unfold writeAssert
  simp only [decide_eq_true_eq]
  constructor
  · intro e i hi hc hno
    have h := hsign i hi
    rw [← e, Nat.testBit_and, (testBit_checked ok hi).mpr ⟨hc, hno⟩, Bool.true_and] at h
    exact h
  · intro h
    refine Nat.eq_of_testBit_eq fun i => ?_
    by_cases hi : i < b.base
    · rw [hsign i hi, Nat.testBit_and]
      by_cases hc : f.Checked b i ∧ ¬ f.Has b i
      · rw [(testBit_checked ok hi).mpr hc, Bool.true_and]
        exact h i hi hc.1 hc.2
      · rw [Bool.eq_false_iff.mpr fun e => hc ((testBit_checked ok hi).mp e), Bool.false_and]
        refine (Bool.eq_false_iff.mpr fun e => hc ?_).symm
        simp only [Bool.and_eq_true, decide_eq_true_eq] at e
        obtain ⟨⟨⟨hhigh, hse⟩, hle⟩, -⟩ := e
        refine ⟨.inr ⟨hhigh, hse, hle⟩, fun hhas => ?_⟩
        have := ok.position_high hhigh
        have := hhas.1
        have := hhas.2
        omega
    · rw [testBit_sign_of_le (Nat.le_of_not_lt hi), Nat.testBit_and, testBit_toNat_of_le v (Nat.le_of_not_lt hi),
        Bool.and_false]

/-- The assertion lets no other value through when it looks at all bits outside of the field. -/
lemma writeAssert_exact_iff (ok : f.Ok b) :
    (∀ v, writeAssert b f v = true ↔ cutOff b f v = v) ↔ ∀ i < b.base, f.Checked b i ∨ f.Has b i := by
  constructor
  · intro h i hi
    by_contra hn
    push Not at hn
    -- the value that has only this bit passes, and the bit is cut off
    have hbit : ∀ j, (BitVec.twoPow b.base i).getLsbD j = true ↔ i = j := by
      intro j
      rw [BitVec.getLsbD_twoPow, Bool.and_eq_true, decide_eq_true_eq, decide_eq_true_eq]
      exact and_iff_right hi
    have hsign : ∀ j, ((f.high && b.baseSignExtend) && decide (b.baseBits ≤ j) &&
        (BitVec.twoPow b.base i).getLsbD (b.baseBits - 1)) = false := by
      refine fun j => Bool.eq_false_iff.mpr fun e => hn.2 ?_
      simp only [Bool.and_eq_true, hbit] at e
      have := ok.position_high e.1.1.1
      have := ok.pos
      exact ⟨by omega, by omega⟩
    have hpass : writeAssert b f (BitVec.twoPow b.base i) = true := by
      refine (writeAssert_iff ok _).mpr fun j hj hc hno => ?_
      rw [hsign j, Bool.eq_false_iff]
      rintro e
      exact hn.1 ((hbit j).mp e ▸ hc)
    have hcut := (cutOff_eq_iff ok _).mp ((h _).mp hpass) i hi hn.2
    rw [hsign i, (hbit i).mpr rfl] at hcut
    cases hcut
  · intro h v
    rw [writeAssert_iff ok, cutOff_eq_iff ok]
    refine forall₂_congr fun i hi => ⟨fun e hno => e ((h i hi).resolve_right hno) hno, fun e _ => e⟩

/-- What is generated for a block is a record: each field has its place in the words of the block, the readers give what
the constructor or a writer has been given, cut off to the field, and a writer leaves the other fields as they are. The
assertion of the constructor holds of the values that are not cut off. -/
theorem block_laws (blk : Block b) (hp : blk.Placeable) :
    (∀ f ∈ blk.fields, f.index b < blk.multiple ∧ (subs b f).shift < b.base) ∧
    (∀ f ∈ blk.fields, ∀ vals, read b f (blk.new vals) = cutOff b f (vals f.name)) ∧
    (∀ f ∈ blk.fields, ∀ words v, read b f (write b f words v) = cutOff b f v) ∧
    (∀ f ∈ blk.fields, ∀ g ∈ blk.fields, f ≠ g → ∀ words v, read b g (write b f words v) = read b g words) ∧
    ∀ f ∈ blk.fields, ∀ v, newAssert b f v = true ↔ cutOff b f v = v := by
  refine ⟨fun f hf => ⟨blk.index_lt hf, ?_⟩, fun f hf vals => read_new blk hp (fun _ hg => hg) hf vals,
    fun f hf words v => read_write (blk.ok hp hf) words v,
    fun f hf g hg hne words v => read_write_of_ne blk hp hf hg hne words v,
    fun f hf v => newAssert_iff (blk.ok hp hf) v⟩
  have ok := blk.ok hp hf
  have := ok.pos
  have := ok.start_le
  have := ok.position_le
  rcases ok.subs_shift with ⟨-, -, hs⟩ | ⟨-, -, hs⟩ <;> omega

/-- `base 64(48,1)`. -/
def base64Signed : Base :=
  ⟨64, 48, true, by decide, by decide, by decide⟩

/-- `mdb_node`. -/
def mdbNode : BlockSpec where
  name := "mdb_node"
  fields := fieldPtrAlign (.lit 2) "mdbNext" (.binOp .minus (.const "word_size") (.lit 2)) ++
    [⟨some "mdbRevocable", .lit 1, false⟩, ⟨some "mdbFirstBadged", .lit 1, false⟩,
      ⟨some "mdbPrev", .const "word_size", false⟩]
  visibleOrder := none

/-- The node of the derivation tree. -/
theorem block_laws_mdb_node : ∃ blk : Block base64Signed, checks base64Signed mdbNode = .ok blk ∧ blk.fields ≠ [] ∧
    (∀ f ∈ blk.fields, f.index base64Signed < blk.multiple ∧ (subs base64Signed f).shift < base64Signed.base) ∧
    (∀ f ∈ blk.fields, ∀ vals, read base64Signed f (blk.new vals) = cutOff base64Signed f (vals f.name)) ∧
    (∀ f ∈ blk.fields, ∀ words v, read base64Signed f (write base64Signed f words v) = cutOff base64Signed f v) ∧
    (∀ f ∈ blk.fields, ∀ g ∈ blk.fields, f ≠ g → ∀ words v,
      read base64Signed g (write base64Signed f words v) = read base64Signed g words) ∧
    ∀ f ∈ blk.fields, ∀ v, newAssert base64Signed f v = true ↔ cutOff base64Signed f v = v :=
  ⟨_, rfl, by decide, block_laws _ (by decide)⟩

/-- On words of at least 32 bits, the assertion of a writer holds just of the values that are not cut off when the field
lies in the word where it lies in its value, or, for pointers with a sign, not below. -/
theorem writeAssert_exact (blk : Block b) (hp : blk.Placeable) (hb : 32 ≤ b.base) (hf : f ∈ blk.fields) :
    (∀ v, writeAssert b f v = true ↔ cutOff b f v = v) ↔
      f.start b = f.position b ∨ (f.high = true ∧ b.baseSignExtend = true) ∧ f.position b ≤ f.start b := by
  have ok := blk.ok hp hf
  have hpos := ok.pos
  have hstart := ok.start_le
  have hposition := ok.position_le
  have hwidth : b.width = b.base := max_eq_right hb
  have hbits := b.baseBits_le
  rw [writeAssert_exact_iff ok]
  unfold Field.Checked Field.Has
  rw [hwidth]
  constructor
  · intro h
    -- the lowest bit and the highest one of those that may not be looked at
    have h0 := h 0 (by omega)
    have h1 := h (b.base - 1) (by omega)
    have h0 : f.position b ≤ f.start b := by
      rcases h0 with (h0 | h0) | h0
      · omega
      · exact absurd h0.2.2 (Nat.not_le_of_lt b.baseBits_pos)
      · omega
    by_cases hse : f.high = true ∧ b.baseSignExtend = true
    · exact .inr ⟨hse, h0⟩
    · left
      rcases h1 with (h1 | h1) | h1
      · omega
      · exact absurd ⟨h1.1, h1.2.1⟩ hse
      · omega
  · rintro (e | ⟨hse, hle⟩) i hi
    · exact .inl (.inl ⟨by omega, by omega⟩)
    · have hhigh := ok.position_high hse.1
      by_cases hbi : b.baseBits ≤ i
      · exact .inl (.inr ⟨hse.1, hse.2, hbi⟩)
      · by_cases hhas : f.position b ≤ i
        · exact .inr ⟨hhas, by omega⟩
        · exact .inl (.inl ⟨by omega, by omega⟩)

/-- `mdbRevocable` lies at bit 1 of its word, and its writer takes a value that has the highest bit set. -/
theorem writeAssert_exact_mdb_node : ∃ blk : Block base64Signed, checks base64Signed mdbNode = .ok blk ∧
    ∃ f ∈ blk.fields, f.name = "mdbRevocable" ∧
      ((∀ v, writeAssert base64Signed f v = true ↔ cutOff base64Signed f v = v) ↔
        f.start base64Signed = f.position base64Signed ∨
          (f.high = true ∧ base64Signed.baseSignExtend = true) ∧ f.position base64Signed ≤ f.start base64Signed) := by
  have hblk : ∃ blk : Block base64Signed, checks base64Signed mdbNode = .ok blk ∧ blk.Placeable ∧
      ⟨"mdbRevocable", 65, 1, false⟩ ∈ blk.fields := ⟨_, rfl, by decide, by decide⟩
  obtain ⟨blk, hc, hp, hf⟩ := hblk
  exact ⟨blk, hc, _, hf, rfl, writeAssert_exact blk hp (by decide) hf⟩

end NexsKernel.Bitfield
