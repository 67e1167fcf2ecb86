import NexsKernel.Bitfield.Union

/-!
# The functions of a tagged union

The tag reader finds the width of the tag field in the tag itself. What the constructor of an element makes is read as this
element and as no other, and the accessors of an element, which check the tag, keep it.
-/

namespace NexsKernel.Bitfield

variable {b : Base}

/-- The entries of the tag reader: the first width whose mask does not match, or else the last one. -/
def tagWidth (hit : Nat → Bool) : List Nat → Nat
  | [] => 0
  | [w] => w
  | w :: w' :: ws => if hit w then tagWidth hit (w' :: ws) else w

namespace TaggedUnion

variable (u : TaggedUnion b)

/-- `word_classmask`. -/
def wordClassmask (width : Nat) : Nat :=
  u.classes.mask width <<< (u.classes.classOffset % b.base)

/-- What an entry of the tag reader returns. -/
def tagField (words : Words b) (width : Nat) : Nat :=
  (words (u.classes.offset width / b.base)).toNat >>> (u.classes.offset width % b.base) &&& (2 ^ width - 1)

/-- The tag reader. -/
def getTag (words : Words b) : Nat :=
  u.tagField words (tagWidth (fun w => (words (u.classes.offset w / b.base)).toNat &&& u.wordClassmask w =
    u.wordClassmask w)
    u.classes.widths)

/-- The reader that compares the tag. It looks for the width in the tag that is given. -/
def tagEquals (words : Words b) (typeTag : Nat) : Bool :=
  u.tagField words (tagWidth (fun w => typeTag &&& u.wordClassmask w = u.wordClassmask w) u.classes.widths) = typeTag

/-- The assertion of the accessors of an element: the union has the tag of the element. -/
def Tagged (t : Variant b Nat) (words : Words b) : Prop :=
  (words u.tagIndex).toNat >>> (t.field.offset % b.base) &&& (2 ^ t.field.size - 1) = t.value

instance (t : Variant b Nat) (words : Words b) : Decidable (u.Tagged t words) :=
  inferInstanceAs (Decidable (_ = _))

/-- `union_generator_template`. -/
def new (t : Variant b Nat) (vals : String → BitVec b.base) : Words b :=
  newWords b (t.block.visibleOrder.filterMap t.block.fieldMap) fun name =>
    if name = u.tagname then .ofNat b.base t.value else vals name

/-- `union_reader_template`; nothing when the assertion fails. -/
def get (t : Variant b Nat) (f : Field) (words : Words b) : Option (BitVec b.base) :=
  if u.Tagged t words then some (read b f words) else none

/-- `union_writer_template`; nothing when an assertion fails. -/
def set (t : Variant b Nat) (f : Field) (words : Words b) (v : BitVec b.base) : Option (Words b) :=
  if u.Tagged t words ∧ writeAssert b f v = true then some (write b f words v) else none

end TaggedUnion

/-! ## The width of a tag -/

lemma tagWidth_cons {hit : Nat → Bool} {w : Nat} {ws : List Nat} (h : ws ≠ []) :
    tagWidth hit (w :: ws) = if hit w then tagWidth hit ws else w := by
  cases ws with
  | nil => exact absurd rfl h
  | cons w' ws => rw [tagWidth]

/-- The reader stops at the width whose lesser ones match and that does not match itself. -/
lemma tagWidth_eq {hit : Nat → Bool} {widths : List Nat} {w : Nat} (hw : w ∈ widths) (hsorted : widths.Pairwise (· < ·))
    (hearlier : ∀ l ∈ widths, l < w → hit l = true) (hown : widths.idxOf w + 1 < widths.length → hit w = false) :
    tagWidth hit widths = w := by
  induction widths with
  | nil => cases hw
  | cons l ws ih =>
    obtain ⟨hl, hsorted⟩ := List.pairwise_cons.mp hsorted
    by_cases hlast : ws = []
    · subst hlast
      exact (List.mem_singleton.mp hw).symm
    · have hpos := List.length_pos_of_ne_nil hlast
      rw [tagWidth_cons hlast]
      by_cases e : w = l
      · subst e
        rw [List.idxOf_cons_self, List.length_cons] at hown
        rw [hown (by omega)]
        rfl
      · have hw := (List.mem_cons.mp hw).resolve_left e
        rw [hearlier l List.mem_cons_self (hl w hw), if_pos rfl]
        refine ih hw hsorted (fun l' hl' => hearlier l' (List.mem_cons_of_mem _ hl')) fun h => hown ?_
        rw [List.idxOf_cons_ne _ (Ne.symm e), List.length_cons]
        omega

/-- Where the reader stops, the lesser widths match, and the width itself does not unless it is the last. -/
lemma tagWidth_spec {hit : Nat → Bool} {widths : List Nat} (hne : widths ≠ []) (hsorted : widths.Pairwise (· < ·)) :
    tagWidth hit widths ∈ widths ∧ (∀ l ∈ widths, l < tagWidth hit widths → hit l = true) ∧
      ((∃ l ∈ widths, tagWidth hit widths < l) → hit (tagWidth hit widths) = false) := by
  induction widths with
  | nil => exact absurd rfl hne
  | cons l ws ih =>
    obtain ⟨hl, hsorted⟩ := List.pairwise_cons.mp hsorted
    by_cases hlast : ws = []
    · subst hlast
      simp [tagWidth]
    · rw [tagWidth_cons hlast]
      obtain ⟨hmem, hearlier, hown⟩ := ih hlast hsorted
      cases h : hit l
      · rw [if_neg Bool.false_ne_true]
        refine ⟨List.mem_cons_self, List.forall_mem_cons.mpr ⟨fun h => absurd h (lt_irrefl _), fun l' hl' h =>
          ?_⟩, fun _ => h⟩
        exact absurd (hl l' hl') (Nat.lt_asymm h)
      · rw [if_pos rfl]
        refine ⟨List.mem_cons_of_mem _ hmem, List.forall_mem_cons.mpr ⟨fun _ => h, hearlier⟩, ?_⟩
        rintro ⟨l', hl', hlt⟩
        refine hown ⟨l', (List.mem_cons.mp hl').resolve_left ?_, hlt⟩
        rintro rfl
        exact Nat.lt_asymm hlt (hl _ hmem)

/-- A width that is not the last has one behind it. -/
lemma idxOf_lt_of_lt {widths : List Nat} (hsorted : widths.Pairwise (· < ·)) {w l : Nat} (hw : w ∈ widths)
    (hl : l ∈ widths) (hlt : w < l) : widths.idxOf w + 1 < widths.length := by
  induction widths with
  | nil => cases hw
  | cons x ws ih =>
    obtain ⟨hx, hsorted⟩ := List.pairwise_cons.mp hsorted
    by_cases e : w = x
    · subst e
      have hl := (List.mem_cons.mp hl).resolve_left hlt.ne'
      have := List.length_pos_of_mem hl
      rw [List.idxOf_cons_self, List.length_cons]
      omega
    · have hmem := (List.mem_cons.mp hw).resolve_left e
      have hl : l ∈ ws := by
        refine (List.mem_cons.mp hl).resolve_left ?_
        rintro rfl
        exact Nat.lt_asymm hlt (hx w hmem)
      have := ih hsorted hmem hl
      rw [List.idxOf_cons_ne _ (Ne.symm e), List.length_cons]
      omega

/-! ## Masks -/

/-- `x & m == m`: the number has all bits of the mask. -/
lemma and_eq_mask_iff {x m : Nat} : x &&& m = m ↔ ∀ i, m.testBit i = true → x.testBit i = true := by
  constructor
  · intro h i hi
    rw [← h, Nat.testBit_and, Bool.and_eq_true] at hi
    exact hi.1
  · intro h
    refine Nat.eq_of_testBit_eq fun i => ?_
    rw [Nat.testBit_and]
    cases hm : m.testBit i
    · exact Bool.and_false _
    · rw [h i hm]
      rfl

/-- Both may be shifted. -/
lemma and_eq_mask_shiftLeft {x m : Nat} (k : Nat) : x <<< k &&& m <<< k = m <<< k ↔ x &&& m = m := by
  rw [and_eq_mask_iff, and_eq_mask_iff]
  simp only [Nat.testBit_shiftLeft, Bool.and_eq_true, decide_eq_true_eq]
  constructor
  · intro h i hi
    have := (h (k + i) ⟨Nat.le_add_right .., by rwa [Nat.add_sub_cancel_left]⟩).2
    rwa [Nat.add_sub_cancel_left] at this
  · rintro h i ⟨hk, hi⟩
    exact ⟨hk, h _ hi⟩

/-- A field of a word, without a shift. -/
lemma field_eq_iff {x v start size : Nat} (hv : v < 2 ^ size) :
    x >>> start &&& (2 ^ size - 1) = v ↔ ∀ i < size, x.testBit (start + i) = v.testBit i := by
  have hbit : ∀ i, (x >>> start &&& (2 ^ size - 1)).testBit i =
    (x.testBit (start + i) && decide (i < size)) := fun i => by
    rw [Nat.testBit_and, Nat.testBit_shiftRight, Nat.testBit_two_pow_sub_one]
  constructor
  · intro h i hi
    rw [← h, hbit, decide_eq_true hi, Bool.and_true]
  · intro h
    refine Nat.eq_of_testBit_eq fun i => ?_
    rw [hbit]
    by_cases hi : i < size
    · rw [decide_eq_true hi, Bool.and_true, h i hi]
    · rw [decide_eq_false hi, Bool.and_false]
      exact (Nat.testBit_lt_two_pow (hv.trans_le (Nat.pow_le_pow_right Nat.two_pos (Nat.le_of_not_lt hi)))).symm

/-- A word has the bits of a mask that lie in a field when the value of the field has them. -/
lemma mask_iff_of_field {x v m start size : Nat} (h : ∀ i < size, x.testBit (start + i) = v.testBit i)
    (hmask : ∀ i, m.testBit i = true → start ≤ i ∧ i - start < size) : x &&& m = m ↔ v <<< start &&& m = m := by
  rw [and_eq_mask_iff, and_eq_mask_iff]
  refine forall₂_congr fun i hi => ?_
  obtain ⟨hle, hlt⟩ := hmask i hi
  have hbit := h _ hlt
  rw [Nat.add_sub_cancel' hle] at hbit
  rw [hbit, Nat.testBit_shiftLeft, decide_eq_true hle, Bool.true_and]

/-- What is read from a field that is not of `field_high`. -/
lemma read_low {f : Field} (ok : f.Ok b) (hlow : f.high = false) (words : Words b) :
    (read b f words).toNat = (words (f.index b)).toNat >>> f.start b &&& (2 ^ f.size - 1) := by
  have hle := ok.start_le
  refine Nat.eq_of_testBit_eq fun i => ?_
  rw [Nat.testBit_and, Nat.testBit_shiftRight, Nat.testBit_two_pow_sub_one]
  have hhas : f.Has b i ↔ i < f.size := by
    simp [Field.Has, Field.position, hlow]
  by_cases hi : i < b.base
  · have hread := getLsbD_read ok words hi
    rw [hlow] at hread
    simp only [hhas, Field.position, hlow, Bool.false_and, Bool.or_false] at hread
    rw [← BitVec.getLsbD, hread, Bool.and_comm]
    rfl
  · rw [testBit_toNat_of_le _ (Nat.le_of_not_lt hi), decide_eq_false (by omega : ¬ i < f.size), Bool.and_false]

lemma Block.fieldMap_eq {blk : Block b} {name : String} {f : Field} (h : blk.fieldMap name = some f) :
    f ∈ blk.fields ∧ f.name = name := by
  have hname := List.find?_some h
  exact ⟨List.mem_reverse.mp (List.mem_of_find?_eq_some h), of_decide_eq_true hname⟩

namespace TaggedUnion

variable {u : TaggedUnion b} {t : Variant b Nat} {w : Nat} {words : Words b}

/-- The tag field of each width lies in the word of the tag, not below the lowest one. -/
lemma index_offset (hw : w ∈ u.classes.widths) : u.classes.offset w / b.base = u.tagIndex := by
  obtain ⟨f, hf, -, hoffset⟩ := u.ok.classes_ok.exists_field w hw
  obtain ⟨t, ht, rfl⟩ := List.mem_map.mp hf
  rw [← hoffset]
  exact u.ok.index_eq t ht

lemma start_offset (hw : w ∈ u.classes.widths) : u.classes.offset w % b.base =
    u.classes.offset w - u.classes.classOffset + u.classes.classOffset % b.base := by
  obtain ⟨f, hf, hoffset⟩ := u.ok.classes_ok.classOffset_mem
  obtain ⟨t, ht, rfl⟩ := List.mem_map.mp hf
  have hclass := u.ok.index_eq t ht
  rw [Field.index, hoffset, ← index_offset hw] at hclass
  have hle := u.ok.classes_ok.classOffset_le w hw
  have h1 := Nat.div_add_mod (u.classes.offset w) b.base
  have h2 := Nat.div_add_mod u.classes.classOffset b.base
  rw [hclass] at h2
  omega

variable (ht : t ∈ u.tags)
include ht

lemma width_mem : t.field.size ∈ u.classes.widths :=
  u.ok.classes_ok.width_mem _ (List.mem_map_of_mem ht)

/-- The value of a tag where the tag lies in the word. -/
lemma classValue_shiftLeft : u.classes.classValue t <<< (u.classes.classOffset % b.base) =
    t.value <<< (t.field.offset % b.base) := by
  rw [TagClasses.classValue, ← Nat.shiftLeft_add, (u.ok.tag_ok t ht).offset_eq, start_offset (width_mem ht)]

/-- A tag has the bits of the masks of the lesser widths. -/
lemma earlier (hw : w ∈ u.classes.widths) (hlt : w < t.field.size) :
    t.value <<< (t.field.offset % b.base) &&& u.wordClassmask w = u.wordClassmask w := by
  rw [← classValue_shiftLeft ht]
  exact (and_eq_mask_shiftLeft _).mpr ((u.ok.tag_ok t ht).earlier w hw hlt)

/-- Where there are greater widths, a tag has not all bits of the mask of its own. -/
lemma own (hlast : u.classes.widths.idxOf t.field.size + 1 < u.classes.widths.length) :
    t.value <<< (t.field.offset % b.base) &&& u.wordClassmask t.field.size ≠ u.wordClassmask t.field.size := by
  rw [← classValue_shiftLeft ht]
  exact fun h => (u.ok.tag_ok t ht).own hlast ((and_eq_mask_shiftLeft _).mp h)

omit ht in
/-- The bits of a mask lie in the tag field of its width. -/
lemma mask_in_field (hw : w ∈ u.classes.widths) {i : Nat} (hi : (u.wordClassmask w).testBit i = true) :
    u.classes.offset w % b.base ≤ i ∧ i - u.classes.offset w % b.base < w := by
  rw [wordClassmask, Nat.testBit_shiftLeft, Bool.and_eq_true, decide_eq_true_eq] at hi
  have hbit := congrArg (Nat.testBit · (u.classes.classOffset + (i - u.classes.classOffset % b.base)))
    (u.ok.classes_ok.mask_le w hw)
  simp only [Nat.testBit_or, Nat.testBit_shiftLeft, Nat.add_sub_cancel_left, Nat.le_add_right, decide_true,
    Bool.true_and, hi.2, Bool.true_or] at hbit
  have := start_offset hw
  have := u.ok.classes_ok.classOffset_le w hw
  have hbit := hbit.symm
  simp only [Nat.testBit_two_pow_sub_one, Bool.and_eq_true, decide_eq_true_eq] at hbit
  omega

lemma tagField_eq_iff : u.tagField words t.field.size = t.value ↔ u.Tagged t words := by
  rw [tagField, Tagged, index_offset (width_mem ht), ← (u.ok.tag_ok t ht).offset_eq]

/-- The bits of the tag in its word. -/
lemma Tagged.testBit (h : u.Tagged t words) {i : Nat} (hi : i < t.field.size) :
    (words u.tagIndex).toNat.testBit (t.field.offset % b.base + i) = t.value.testBit i :=
  (field_eq_iff (u.ok.tag_ok t ht).value_lt).mp h i hi

/-- A union that has the tag of an element is read as this element. -/
lemma getTag_of_tagged (h : u.Tagged t words) : u.getTag words = t.value := by
  have hsize := width_mem ht
  have hindex : ∀ w ∈ u.classes.widths, words (u.classes.offset w / b.base) = words u.tagIndex := fun w hw => by
    rw [index_offset hw]
  refine (congrArg (u.tagField words) (tagWidth_eq hsize u.ok.classes_ok.sorted (fun w hw hlt =>
    ?_) fun hlast => ?_)).trans
    ((tagField_eq_iff ht).mpr h)
  · have hmask := earlier ht hw hlt
    rw [decide_eq_true_eq, hindex w hw, mask_iff_of_field (fun i => Tagged.testBit ht h) fun i hi => ?_]
    · exact hmask
    · -- the tag has the bits of the mask, and no others than those of its field
      have hbit := and_eq_mask_iff.mp hmask i hi
      rw [Nat.testBit_shiftLeft, Bool.and_eq_true, decide_eq_true_eq] at hbit
      refine ⟨hbit.1, Nat.lt_of_not_le fun hge => ?_⟩
      have hv := (u.ok.tag_ok t ht).value_lt.trans_le (Nat.pow_le_pow_right Nat.two_pos hge)
      rw [Nat.testBit_lt_two_pow hv] at hbit
      cases hbit.2
  · rw [decide_eq_false_iff_not, hindex _ hsize, mask_iff_of_field (fun i => Tagged.testBit ht h) fun i hi => ?_]
    · exact own ht hlast
    · rw [(u.ok.tag_ok t ht).offset_eq]
      exact mask_in_field hsize hi

/-- A union has the tag of one element at most. -/
lemma Tagged.unique {t' : Variant b Nat} (ht' : t' ∈ u.tags) (h : u.Tagged t words)
    (h' : u.Tagged t' words) : t = t' := by
  have hvalue := (getTag_of_tagged ht h).symm.trans (getTag_of_tagged ht' h')
  exact List.inj_on_of_nodup_map u.ok.values_nodup ht ht' hvalue

/-! ## The constructor and the accessors -/

variable (hp : t.block.Placeable)
include hp

/-- The assertion of the accessors asks what is read from the tag field. -/
lemma tagged_iff_read : u.Tagged t words ↔ (read b t.field words).toNat = t.value := by
  have htag := u.ok.tag_ok t ht
  rw [read_low (t.block.ok hp (Block.fieldMap_eq htag.fieldMap_eq).1) htag.low, u.ok.index_eq t ht]
  rfl

omit hp in
lemma ne_field {f : Field} (hname : f.name ≠ u.tagname) : f ≠ t.field := by
  rintro rfl
  exact hname (Block.fieldMap_eq (u.ok.tag_ok t ht).fieldMap_eq).2

omit ht in
/-- What is read from what the constructor makes. -/
lemma read_new_of_fieldMap {f : Field} (hf : t.block.fieldMap f.name = some f) (vals : String → BitVec b.base) :
    read b f (u.new t vals) = cutOff b f (if f.name = u.tagname then .ofNat b.base t.value else vals f.name) := by
  have hmem := (Block.fieldMap_eq hf).1
  refine read_new t.block hp (fun g hg => ?_) ?_ _
  · obtain ⟨name, -, hname⟩ := List.mem_filterMap.mp hg
    exact (Block.fieldMap_eq hname).1
  · exact List.mem_filterMap.mpr ⟨f.name, (t.block.mem_order f.name).mpr (List.mem_map_of_mem hmem), hf⟩

/-- What the constructor of an element makes has the tag of the element. -/
lemma tagged_new (vals : String → BitVec b.base) : u.Tagged t (u.new t vals) := by
  have htag := u.ok.tag_ok t ht
  obtain ⟨hmem, hname⟩ := Block.fieldMap_eq htag.fieldMap_eq
  have hfield : t.block.fieldMap t.field.name = some t.field := by
    rw [hname]
    exact htag.fieldMap_eq
  have hle := (t.block.ok hp hmem).start_le
  have hlt : t.value < 2 ^ b.base := htag.value_lt.trans_le (Nat.pow_le_pow_right Nat.two_pos (by omega))
  rw [tagged_iff_read ht hp, read_new_of_fieldMap hp hfield, if_pos hname, cutOff, htag.low]
  simp only [Bool.false_eq_true, if_false, BitVec.toNat_setWidth, BitVec.toNat_ofNat]
  rw [Nat.mod_eq_of_lt hlt, Nat.mod_eq_of_lt htag.value_lt, Nat.mod_eq_of_lt hlt]

/-- A field that is not the tag field may be written. -/
lemma tagged_write {f : Field} (hf : f ∈ t.block.fields) (hname : f.name ≠ u.tagname) (h : u.Tagged t words)
    (v : BitVec b.base) : u.Tagged t (write b f words v) := by
  rw [tagged_iff_read ht hp] at h ⊢
  rw [read_write_of_ne t.block hp hf (Block.fieldMap_eq (u.ok.tag_ok t ht).fieldMap_eq).1 (ne_field ht hname), h]

omit ht hp

lemma get_eq_some {f : Field} {value : BitVec b.base} :
    u.get t f words = some value ↔ u.Tagged t words ∧ read b f words = value := by
  unfold get
  split
  · rename_i h
    simp [h]
  · rename_i h
    simp [h]

end TaggedUnion

/-- A tagged union is a sum of its blocks. What the constructor of an element makes has the tag of the element and holds the
fields that were given. The writers of an element keep the tag and the other fields. The readers of an element and those of
another one do not both read. -/
theorem union_laws (u : TaggedUnion b) (hp : ∀ t ∈ u.tags, t.block.Placeable) :
    (∀ t ∈ u.tags, ∀ vals, u.getTag (u.new t vals) = t.value ∧ ∀ f, t.block.fieldMap f.name = some f →
      f.name ≠ u.tagname → u.get t f (u.new t vals) = some (cutOff b f (vals f.name))) ∧
    (∀ t ∈ u.tags, ∀ f ∈ t.block.fields, f.name ≠ u.tagname → ∀ words v words', u.set t f words v = some words' →
      u.getTag words' = t.value ∧ u.get t f words' = some (cutOff b f v) ∧
        ∀ g ∈ t.block.fields, g ≠ f → u.get t g words' = u.get t g words) ∧
    ∀ t ∈ u.tags, ∀ t' ∈ u.tags, ∀ words, (∃ f value, u.get t f words = some value) →
      u.getTag words = t.value ∧ (t' ≠ t → ∀ f, u.get t' f words = none) := by
  refine ⟨fun t ht vals => ?_, fun t ht f hf hname words v words' hset => ?_, fun t ht t' ht' words hget => ?_⟩
  · have htag := TaggedUnion.tagged_new ht (hp t ht) vals
    refine ⟨TaggedUnion.getTag_of_tagged ht htag, fun f hf hname => TaggedUnion.get_eq_some.mpr ⟨htag, ?_⟩⟩
    rw [TaggedUnion.read_new_of_fieldMap (hp t ht) hf, if_neg hname]
  · unfold TaggedUnion.set at hset
    split at hset
    · rename_i h
      cases hset
      have htag := TaggedUnion.tagged_write ht (hp t ht) hf hname h.1 v
      refine ⟨TaggedUnion.getTag_of_tagged ht htag, TaggedUnion.get_eq_some.mpr ⟨htag, ?_⟩, fun g hg hne => ?_⟩
      · exact read_write (t.block.ok (hp t ht) hf) words v
      · rw [TaggedUnion.get, TaggedUnion.get, if_pos htag, if_pos h.1,
          read_write_of_ne t.block (hp t ht) hf hg (Ne.symm hne)]
    · cases hset
  · obtain ⟨f, value, hget⟩ := hget
    have htag := (TaggedUnion.get_eq_some.mp hget).1
    refine ⟨TaggedUnion.getTag_of_tagged ht htag, fun hne f => ?_⟩
    rw [TaggedUnion.get, if_neg]
    exact fun h => hne (TaggedUnion.Tagged.unique ht' ht h htag)

/-- `base 32`. -/
def base32 : Base :=
  ⟨32, 32, false, by decide, by decide, by decide⟩

/-- `thread_cap` and `irq_control_cap`, with tags of four and of eight bits. -/
def capBlocks : List BlockSpec :=
  [{ name := "thread_cap"
     fields := [⟨none, .lit 32, false⟩, ⟨some "capTCBPtr", .lit 28, true⟩, ⟨some "capType", .lit 4, false⟩]
     visibleOrder := none },
    { name := "irq_control_cap"
      fields := [⟨none, .lit 32, false⟩, ⟨none, .lit 24, false⟩, ⟨some "capType", .lit 8, false⟩]
      visibleOrder := none }]

/-- Two elements of `cap`. -/
def capUnion : UnionSpec where
  name := "cap"
  tagname := "capType"
  classes := [(4, 0xe), (8, 0x0e)]
  tags := [("thread_cap", [12]), ("irq_control_cap", [0x0e])]

/-- `symtab`, of the blocks that pass their checks. -/
def capSymtab (name : String) : Option (Block base32) :=
  (capBlocks.find? (·.name = name)).bind fun spec => (checks base32 spec).toOption

/-- Capabilities with tags of four and of eight bits. -/
theorem union_laws_cap : ∃ u : TaggedUnion base32, resolve capSymtab capUnion = .ok u ∧ u.classes.widths = [4, 8] ∧
    ((∀ t ∈ u.tags, ∀ vals, u.getTag (u.new t vals) = t.value ∧ ∀ f, t.block.fieldMap f.name = some f →
      f.name ≠ u.tagname → u.get t f (u.new t vals) = some (cutOff base32 f (vals f.name))) ∧
    (∀ t ∈ u.tags, ∀ f ∈ t.block.fields, f.name ≠ u.tagname → ∀ words v words', u.set t f words v = some words' →
      u.getTag words' = t.value ∧ u.get t f words' = some (cutOff base32 f v) ∧
        ∀ g ∈ t.block.fields, g ≠ f → u.get t g words' = u.get t g words) ∧
    ∀ t ∈ u.tags, ∀ t' ∈ u.tags, ∀ words, (∃ f value, u.get t f words = some value) →
      u.getTag words = t.value ∧ (t' ≠ t → ∀ f, u.get t' f words = none)) :=
  ⟨_, rfl, by decide, union_laws _ (by decide)⟩

/-- When the tag fields of all widths start at one bit, the tag reader gives the tag of an element just when the accessors
of the element find it; and so does the comparing reader, when this is the lowest bit of a word. -/
theorem getTag_iff (u : TaggedUnion b) (halign : ∀ t ∈ u.tags, ∀ t' ∈ u.tags, t.field.offset = t'.field.offset)
    {t : Variant b Nat} (ht : t ∈ u.tags) (words : Words b) :
    (u.getTag words = t.value ↔ u.Tagged t words) ∧
      (t.field.offset % b.base = 0 → (u.tagEquals words t.value = true ↔ u.Tagged t words)) := by
  have hsize := TaggedUnion.width_mem ht
  have hsorted := u.ok.classes_ok.sorted
  have hoffset : ∀ w ∈ u.classes.widths, u.classes.offset w % b.base = t.field.offset % b.base := by
    intro w hw
    obtain ⟨f, hf, -, hoffset⟩ := u.ok.classes_ok.exists_field w hw
    obtain ⟨t', ht', rfl⟩ := List.mem_map.mp hf
    rw [← hoffset, halign t' ht' t ht]
  refine ⟨⟨fun hget => ?_, TaggedUnion.getTag_of_tagged ht⟩, fun hzero => ?_⟩
  · unfold TaggedUnion.getTag at hget
    obtain ⟨hw, hearlier, hown⟩ := @tagWidth_spec
      (fun w => (words (u.classes.offset w / b.base)).toNat &&& u.wordClassmask w = u.wordClassmask w) u.classes.widths
      (List.ne_nil_of_mem hsize) hsorted
    set w := tagWidth _ u.classes.widths with hwdef
    have hlt : t.value < 2 ^ w := by
      rw [← hget]
      exact Nat.and_lt_two_pow _ (Nat.sub_lt (Nat.two_pow_pos w) Nat.one_pos)
    have hbit := (field_eq_iff hlt).mp hget
    rw [TaggedUnion.index_offset hw, hoffset w hw] at hbit
    rcases lt_trichotomy w t.field.size with hws | hws | hws
    · -- the tag has all bits of the mask, and they were read
      have hno := of_decide_eq_false (hown ⟨_, hsize, hws⟩)
      rw [TaggedUnion.index_offset hw, mask_iff_of_field hbit fun i hi => ?_] at hno
      · exact absurd (TaggedUnion.earlier ht hw hws) hno
      · rw [← hoffset w hw]
        exact TaggedUnion.mask_in_field hw hi
    · rw [hws] at hget
      exact (TaggedUnion.tagField_eq_iff ht).mp hget
    · -- the mask has bits of the tag field only, and the tag has not all of them
      have hyes := of_decide_eq_true (hearlier _ hsize hws)
      rw [TaggedUnion.index_offset hsize, mask_iff_of_field hbit fun i hi => ?_] at hyes
      · exact absurd hyes (TaggedUnion.own ht (idxOf_lt_of_lt hsorted hsize hw hws))
      · rw [← hoffset _ hsize]
        obtain ⟨hle, hlt⟩ := TaggedUnion.mask_in_field hsize hi
        exact ⟨hle, hlt.trans hws⟩
  · have hearlier := fun w hw hlt => TaggedUnion.earlier (w := w) ht hw hlt
    have hown := TaggedUnion.own ht
    rw [hzero] at hearlier hown
    have hwidth : tagWidth (fun w => t.value &&& u.wordClassmask w = u.wordClassmask w) u.classes.widths =
      t.field.size :=
      tagWidth_eq hsize hsorted (fun w hw hlt => decide_eq_true (hearlier w hw hlt)) fun hlast =>
        decide_eq_false (hown hlast)
    rw [TaggedUnion.tagEquals, hwidth, decide_eq_true_eq]
    exact TaggedUnion.tagField_eq_iff ht

/-- The tags 12 and 14. -/
theorem getTag_iff_cap : ∃ u : TaggedUnion base32, resolve capSymtab capUnion = .ok u ∧
    u.tags.map Variant.value = [12, 14] ∧ ∀ t ∈ u.tags, ∀ words, (u.getTag words = t.value ↔ u.Tagged t words) ∧
      (t.field.offset % base32.base = 0 → (u.tagEquals words t.value = true ↔ u.Tagged t words)) :=
  ⟨_, rfl, rfl, fun _ ht words => getTag_iff _ (by decide) ht words⟩

end NexsKernel.Bitfield
