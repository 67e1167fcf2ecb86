import NexsKernel.Bitfield.Spec

/-!
# The functions of a block

The functions that are generated for a block, as C evaluates them: expressions are computed with the number of bits of an
unsigned integer or of the word, whichever is more, and cut off when they are stored. A field of `field_high` takes the
high ones of the significant bits of a pointer; what is above these is restored from the sign when the field is read.
-/

namespace NexsKernel.Bitfield

variable {b : Base} {f g : Field} {x n i : Nat}

/-! ## Expressions in C -/

inductive ShiftOp where
  | left
  | right
  deriving DecidableEq, Repr

/-- `<<` and `>>`. -/
def ShiftOp.eval (width : Nat) : ShiftOp → Nat → Nat → Nat
  | left, x, n => (x <<< n) % 2 ^ width
  | right, x, n => x >>> n

/-- `~`. -/
def compl (width x : Nat) : Nat :=
  (2 ^ width - 1) ^^^ x

/-- What the generator fills into the templates of the functions for a field. -/
structure Subs where
  index : Nat
  shift : Nat
  rShiftOp : ShiftOp
  wShiftOp : ShiftOp
  mask : Nat
  highBits : Nat
  signExtend : Bool
  extendBit : Nat
  deriving DecidableEq, Repr

/-- `high_bits` of a field of `field_high`. -/
def Base.highBits (b : Base) : Nat :=
  if b.baseSignExtend then (2 ^ (b.base - b.baseBits) - 1) <<< b.baseBits else 0

/-- The loop of `generate` over the accessors. -/
def subs (b : Base) (f : Field) : Subs :=
  let mask := (2 ^ f.size - 1) <<< (f.offset % b.base)
  if f.high then
    let shift : Int := b.baseBits - f.size - (f.offset % b.base : Nat)
    { index := f.offset / b.base
      shift := shift.natAbs
      rShiftOp := if shift < 0 then .right else .left
      wShiftOp := if shift < 0 then .left else .right
      mask
      highBits := b.highBits
      signExtend := b.baseSignExtend
      extendBit := b.baseBits - 1 }
  else
    { index := f.offset / b.base
      shift := f.offset % b.base
      rShiftOp := .right
      wShiftOp := .left
      mask
      highBits := 0
      signExtend := false
      extendBit := b.baseBits - 1 }

/-- The words of a block. -/
abbrev Words (b : Base) : Type :=
  Nat → BitVec b.base

/-- `reader_template`. -/
def read (b : Base) (f : Field) (words : Words b) : BitVec b.base :=
  let s := subs b f
  let ret := s.rShiftOp.eval b.width ((words s.index).toNat &&& s.mask) s.shift % 2 ^ b.base
  .ofNat b.base (if s.signExtend ∧ ret &&& 1 <<< s.extendBit ≠ 0 then ret ||| s.highBits else ret)

/-- `writer_template`. -/
def write (b : Base) (f : Field) (words : Words b) (v : BitVec b.base) : Words b :=
  let s := subs b f
  let word := (words s.index).toNat &&& compl b.width s.mask
  Function.update words s.index
    (.ofNat b.base (word ||| s.wShiftOp.eval b.width v.toNat s.shift &&& s.mask))

/-- The assertion of `writer_template`. -/
def writeAssert (b : Base) (f : Field) (v : BitVec b.base) : Bool :=
  let s := subs b f
  (s.rShiftOp.eval b.width (compl b.width s.mask) s.shift ||| s.highBits) &&& v.toNat =
    if s.signExtend ∧ v.toNat &&& 1 <<< s.extendBit ≠ 0 then s.highBits else 0

/-- The mask of a value in the constructor. -/
def valueMask (b : Base) (f : Field) : Nat :=
  if f.high then (2 ^ f.size - 1) <<< (b.baseBits - f.size) else 2 ^ f.size - 1

/-- What the constructor puts into a word for a field. -/
def fieldUpdate (b : Base) (f : Field) (v : BitVec b.base) : Nat :=
  let s := subs b f
  if f.size < b.base then s.wShiftOp.eval b.width (v.toNat &&& valueMask b f) s.shift
  else s.wShiftOp.eval b.width v.toNat s.shift

/-- The assertion of the constructor for a field. -/
def newAssert (b : Base) (f : Field) (v : BitVec b.base) : Bool :=
  if f.size < b.base then
    v.toNat &&& compl b.width (valueMask b f) =
      if b.baseSignExtend ∧ v.toNat &&& 1 <<< (b.baseBits - 1) ≠ 0 then (subs b f).highBits else 0
  else true

/-- The words that a constructor makes of some fields. -/
def newWords (b : Base) (fields : List Field) (vals : String → BitVec b.base) : Words b := fun i =>
  .ofNat b.base (((fields.filter fun f => f.index b = i).map fun f => fieldUpdate b f (vals f.name)).foldl (· ||| ·) 0)

/-- `generator_template`. -/
def Block.new (blk : Block b) (vals : String → BitVec b.base) : Words b :=
  newWords b blk.fields vals

/-! ## Bits -/

lemma testBit_left (width : Nat) :
    (ShiftOp.left.eval width x n).testBit i = (decide (i < width) && (decide (n ≤ i) && x.testBit (i - n))) := by
  rw [ShiftOp.eval, Nat.testBit_mod_two_pow, Nat.testBit_shiftLeft]

lemma testBit_right (width : Nat) : (ShiftOp.right.eval width x n).testBit i = x.testBit (n + i) :=
  Nat.testBit_shiftRight x

lemma testBit_compl (width : Nat) : (compl width x).testBit i = (decide (i < width) ^^ x.testBit i) := by
  rw [compl, Nat.testBit_xor, Nat.testBit_two_pow_sub_one]

lemma testBit_mask (size start : Nat) :
    ((2 ^ size - 1) <<< start).testBit i = (decide (start ≤ i) && decide (i - start < size)) := by
  rw [Nat.testBit_shiftLeft, Nat.testBit_two_pow_sub_one]

lemma testBit_toNat_of_le {w : Nat} (v : BitVec w) (h : w ≤ i) : v.toNat.testBit i = false :=
  BitVec.getLsbD_of_ge v i h

/-- `x & (1 << n)` asks for one bit. -/
lemma and_bit_ne_zero : x &&& 1 <<< n ≠ 0 ↔ x.testBit n = true := by
  rw [Nat.one_shiftLeft]
  constructor
  · intro h
    by_contra hn
    refine h (Nat.eq_of_testBit_eq fun i => ?_)
    rw [Nat.testBit_and, Nat.testBit_two_pow, Nat.zero_testBit]
    by_cases hi : n = i
    · subst hi
      simpa using hn
    · simp [hi]
  · intro h e
    have := congrArg (Nat.testBit · n) e
    simp [Nat.testBit_and, h] at this

/-! ## Where the bits of a field go -/

/-- The bit is one of the bits of the field in its value. -/
def Field.Has (b : Base) (f : Field) (i : Nat) : Prop :=
  f.position b ≤ i ∧ i - f.position b < f.size

instance : Decidable (f.Has b i) :=
  inferInstanceAs (Decidable (_ ∧ _))

/-- The bit is one of the bits of the field in its word. -/
def Field.InWord (b : Base) (f : Field) (i : Nat) : Prop :=
  f.start b ≤ i ∧ i - f.start b < f.size

instance : Decidable (f.InWord b i) :=
  inferInstanceAs (Decidable (_ ∧ _))

/-- A field that the generator can place: it lies within a word, and `field_high` has not more than the significant
bits. -/
structure Field.Ok (b : Base) (f : Field) : Prop where
  pos : 0 < f.size
  start_le : f.start b + f.size ≤ b.base
  high_le : f.high = true → f.size ≤ b.baseBits

namespace Field.Ok

variable (ok : f.Ok b)
include ok

lemma position_le : f.position b + f.size ≤ b.base := by
  have := ok.start_le
  have := b.baseBits_le
  unfold position
  split
  · rename_i h
    have := ok.high_le h
    omega
  · omega

/-- A field of `field_high` ends with the last significant bit. -/
lemma position_high (h : f.high = true) : f.position b + f.size = b.baseBits := by
  have := ok.high_le h
  rw [position, if_pos h]
  omega

/-- The shifts move the bits from the word to the value and back. -/
lemma subs_shift :
    (subs b f).rShiftOp = .right ∧ (subs b f).wShiftOp = .left ∧ (subs b f).shift + f.position b = f.start b ∨
      (subs b f).rShiftOp = .left ∧ (subs b f).wShiftOp = .right ∧ (subs b f).shift + f.start b = f.position b := by
  unfold subs position start
  cases h : f.high
  · exact .inl ⟨rfl, rfl, rfl⟩
  · have hle := ok.high_le h
    simp only [if_true]
    split
    · exact .inl ⟨rfl, rfl, by omega⟩
    · exact .inr ⟨rfl, rfl, by omega⟩

end Field.Ok

lemma subs_mask : (subs b f).mask = (2 ^ f.size - 1) <<< f.start b := by
  unfold subs
  split <;> rfl

lemma subs_index : (subs b f).index = f.index b := by
  unfold subs
  split <;> rfl

lemma subs_signExtend : (subs b f).signExtend = (f.high && b.baseSignExtend) := by
  unfold subs
  cases f.high <;> rfl

lemma subs_extendBit : (subs b f).extendBit = b.baseBits - 1 := by
  unfold subs
  split <;> rfl

lemma subs_highBits : (subs b f).highBits = if f.high then b.highBits else 0 := by
  unfold subs
  split <;> rfl

lemma valueMask_eq : valueMask b f = (2 ^ f.size - 1) <<< f.position b := by
  unfold valueMask Field.position
  split <;> rfl

lemma testBit_highBits : b.highBits.testBit i =
    (b.baseSignExtend && decide (b.baseBits ≤ i) && decide (i < b.base)) := by
  have := b.baseBits_le
  unfold Base.highBits
  cases b.baseSignExtend
  · simp
  · rw [if_pos rfl, testBit_mask, Bool.true_and]
    by_cases h : b.baseBits ≤ i
    · simp only [h, decide_true, Bool.true_and]
      exact decide_eq_decide.mpr (by omega)
    · simp [h]

/-- The bits of a field that are read from a word. -/
lemma testBit_field (ok : f.Ok b) (word : BitVec b.base) :
    ((subs b f).rShiftOp.eval b.width (word.toNat &&& (subs b f).mask) (subs b f).shift % 2 ^ b.base).testBit i =
      (decide (f.Has b i) && word.getLsbD (f.start b + (i - f.position b))) := by
  have hle := ok.position_le
  have hwidth := b.base_le_width
  rw [Nat.testBit_mod_two_pow, subs_mask]
  by_cases hi : f.Has b i
  · have hi' := hi
    obtain ⟨h1, h2⟩ := hi
    have hib : i < b.base := by omega
    rw [decide_eq_true hi', decide_eq_true hib, Bool.true_and, Bool.true_and]
    rcases ok.subs_shift with ⟨hr, -, hs⟩ | ⟨hr, -, hs⟩
    · have e : (subs b f).shift + i = f.start b + (i - f.position b) := by omega
      rw [hr, testBit_right, Nat.testBit_and, testBit_mask, e]
      simp [h2, BitVec.getLsbD]
    · have e : i - (subs b f).shift = f.start b + (i - f.position b) := by omega
      have hiw : i < b.width := by omega
      have hsi : (subs b f).shift ≤ i := by omega
      rw [hr, testBit_left, Nat.testBit_and, testBit_mask, e]
      simp [h2, hiw, hsi, BitVec.getLsbD]
  · rw [decide_eq_false hi, Bool.false_and, Bool.and_eq_false_iff]
    unfold Field.Has at hi
    right
    rcases ok.subs_shift with ⟨hr, -, hs⟩ | ⟨hr, -, hs⟩
    · rw [hr, testBit_right, Nat.testBit_and, testBit_mask]
      simp only [Bool.and_eq_false_iff, decide_eq_false_iff_not]
      omega
    · rw [hr, testBit_left, Nat.testBit_and, testBit_mask]
      simp only [Bool.and_eq_false_iff, decide_eq_false_iff_not]
      omega

/-- The bits of a value that are written to a word. -/
lemma testBit_shifted (ok : f.Ok b) (v : Nat) (hi : f.InWord b i) :
    ((subs b f).wShiftOp.eval b.width v (subs b f).shift).testBit i = v.testBit (f.position b + (i - f.start b)) := by
  have hle := ok.start_le
  have hwidth := b.base_le_width
  obtain ⟨h1, h2⟩ := hi
  rcases ok.subs_shift with ⟨-, hw, hs⟩ | ⟨-, hw, hs⟩
  · have e : i - (subs b f).shift = f.position b + (i - f.start b) := by omega
    have hiw : i < b.width := by omega
    have hsi : (subs b f).shift ≤ i := by omega
    rw [hw, testBit_left, e]
    simp [hiw, hsi]
  · have e : (subs b f).shift + i = f.position b + (i - f.start b) := by omega
    rw [hw, testBit_right, e]

/-! ## Reading what has been written -/

/-- What a field keeps of a value: its low bits, or for `field_high` the high ones of the significant bits, with the
bits above as the sign has them. -/
def cutOff (b : Base) (f : Field) (v : BitVec b.base) : BitVec b.base :=
  if f.high then
    let p := v.setWidth b.baseBits >>> (b.baseBits - f.size) <<< (b.baseBits - f.size)
    if b.baseSignExtend then p.signExtend b.base else p.setWidth b.base
  else (v.setWidth f.size).setWidth b.base

lemma getLsbD_clearLow {w : Nat} (p : BitVec w) (k : Nat) :
    (p >>> k <<< k).getLsbD i = (decide (k ≤ i) && p.getLsbD i) := by
  rw [BitVec.getLsbD_shiftLeft, BitVec.getLsbD_ushiftRight]
  by_cases hk : k ≤ i
  · have e : k + (i - k) = i := by omega
    by_cases hi : i < w
    · simp [hk, hi, e]
    · simp [hi, BitVec.getLsbD_of_ge p i (by omega)]
  · simp [hk, Nat.lt_of_not_le hk]

/-- The bits of a value that a field keeps. -/
lemma getLsbD_cutOff (ok : f.Ok b) (v : BitVec b.base) (hi : i < b.base) :
    (cutOff b f v).getLsbD i = (decide (f.Has b i) && v.getLsbD i ||
      (f.high && b.baseSignExtend) && decide (b.baseBits ≤ i) && v.getLsbD (b.baseBits - 1)) := by
  have hpos := ok.pos
  have hbits := b.baseBits_pos
  have hle := b.baseBits_le
  unfold cutOff
  cases h : f.high
  · have hhas : f.Has b i ↔ i < f.size := by
      unfold Field.Has Field.position
      simp [h]
    simp [hhas, hi, BitVec.getLsbD_setWidth]
  · have hhigh := ok.position_high h
    have hp : f.position b = b.baseBits - f.size := by omega
    have hhas : f.Has b i ↔ b.baseBits - f.size ≤ i ∧ i < b.baseBits := by
      unfold Field.Has
      omega
    have hsign : b.baseBits - f.size ≤ b.baseBits - 1 := by omega
    have hlt : b.baseBits - 1 < b.baseBits := by omega
    cases b.baseSignExtend
    · simp only [if_true, Bool.false_eq_true, if_false, BitVec.getLsbD_setWidth, getLsbD_clearLow,
        decide_eq_decide.mpr hhas]
      simp [hi, Bool.decide_and, Bool.and_assoc]
    · simp only [if_true, BitVec.getLsbD_signExtend, BitVec.msb_eq_getLsbD_last, getLsbD_clearLow,
        BitVec.getLsbD_setWidth, decide_eq_decide.mpr hhas]
      by_cases hib : i < b.baseBits
      · simp [hi, hib, Nat.not_le_of_lt hib]
      · simp [hi, hib, Nat.le_of_not_lt hib, hsign, hlt]

lemma testBit_extend (ret high k : Nat) (signExtend : Bool) :
    (if signExtend ∧ ret &&& 1 <<< k ≠ 0 then ret ||| high else ret).testBit i =
      (ret.testBit i || signExtend && ret.testBit k && high.testBit i) := by
  simp only [and_bit_ne_zero]
  cases signExtend <;> cases h : ret.testBit k <;> simp

/-- A value that is read, bit by bit. -/
lemma getLsbD_read (ok : f.Ok b) (words : Words b) (hi : i < b.base) :
    (read b f words).getLsbD i = (decide (f.Has b i) && (words (f.index b)).getLsbD (f.start b + (i - f.position b)) ||
      (f.high && b.baseSignExtend) && decide (b.baseBits ≤ i) &&
        (words (f.index b)).getLsbD (f.start b + (f.size - 1))) := by
  have hpos := ok.pos
  have hraw := fun j => testBit_field (i := j) ok (words (f.index b))
  simp only [read, subs_index] at hraw ⊢
  rw [BitVec.getLsbD_ofNat, decide_eq_true hi, Bool.true_and, testBit_extend, subs_signExtend, subs_extendBit,
    subs_highBits, hraw i, hraw (b.baseBits - 1)]
  congr 1
  cases h : f.high
  · simp
  · have hhigh := ok.position_high h
    have hhas : f.Has b (b.baseBits - 1) := ⟨by omega, by omega⟩
    have e : b.baseBits - 1 - f.position b = f.size - 1 := by omega
    rw [if_pos rfl, testBit_highBits, decide_eq_true hhas, decide_eq_true hi, e]
    cases b.baseSignExtend <;> simp [Bool.and_comm]

/-- A word after a field has been written, bit by bit. -/
lemma getLsbD_write (ok : f.Ok b) (words : Words b) (v : BitVec b.base) (hi : i < b.base) :
    (write b f words v (f.index b)).getLsbD i =
      if f.InWord b i then v.getLsbD (f.position b + (i - f.start b)) else (words (f.index b)).getLsbD i := by
  have hwidth := b.base_le_width
  have hiw : i < b.width := by omega
  have hmask : ((2 ^ f.size - 1) <<< f.start b).testBit i = decide (f.InWord b i) := by
    rw [testBit_mask, ← Bool.decide_and]
    rfl
  simp only [write, subs_index, Function.update_self]
  rw [BitVec.getLsbD_ofNat, decide_eq_true hi, Bool.true_and, subs_mask, Nat.testBit_or, Nat.testBit_and, testBit_compl,
    Nat.testBit_and, hmask, decide_eq_true hiw]
  split
  · rename_i h
    rw [testBit_shifted ok _ h]
    simp [h, BitVec.getLsbD]
  · rename_i h
    simp [h, BitVec.getLsbD]

lemma write_of_ne (words : Words b) (v : BitVec b.base) {k : Nat} (hk : k ≠ f.index b) : write b f words v k =
    words k := by
  simp only [write, subs_index]
  exact Function.update_of_ne hk ..

/-- What is read after a write is what the field keeps of the value. -/
lemma read_write (ok : f.Ok b) (words : Words b) (v : BitVec b.base) : read b f (write b f words v) = cutOff b f v := by
  have hpos := ok.pos
  have hstart := ok.start_le
  refine BitVec.eq_of_getLsbD_eq fun i hi => ?_
  rw [getLsbD_read ok _ hi, getLsbD_cutOff ok v hi]
  congr 1
  · by_cases h : f.Has b i
    · have hi' := h
      obtain ⟨h1, h2⟩ := h
      have hin : f.InWord b (f.start b + (i - f.position b)) := ⟨by omega, by omega⟩
      have e : f.position b + (f.start b + (i - f.position b) - f.start b) = i := by omega
      rw [getLsbD_write ok _ _ (by omega), if_pos hin, e]
    · simp [h]
  · cases h : f.high
    · simp
    · have hhigh := ok.position_high h
      have hin : f.InWord b (f.start b + (f.size - 1)) := ⟨by omega, by omega⟩
      have e : f.position b + (f.start b + (f.size - 1) - f.start b) = b.baseBits - 1 := by omega
      rw [getLsbD_write ok _ _ (by omega), if_pos hin, e]

end NexsKernel.Bitfield
