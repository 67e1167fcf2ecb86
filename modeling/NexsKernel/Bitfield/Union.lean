import NexsKernel.Bitfield.Laws

/-!
# Tagged unions

A tagged union is one type for several blocks of one size, which a tag field tells apart. The tag field may be wider in
some of the blocks; a mask for each width then says which tags belong to wider fields, and what reads the tag goes
through the widths from the least one on. Tags in slices are not treated here.
-/

namespace NexsKernel.Bitfield

open Checks

variable {b : Base} {α : Type}

/-! ## Dictionaries -/

/-- An assignment to a key of a dictionary, which keeps its keys in the order in which they came. -/
def dictSet {κ ν : Type} [DecidableEq κ] : List (κ × ν) → κ → ν → List (κ × ν)
  | [], k, v => [(k, v)]
  | (k', v') :: d, k, v => if k' = k then (k, v) :: d else (k', v') :: dictSet d k v

/-- `dict`. -/
def dictOf {κ ν : Type} [DecidableEq κ] (entries : List (κ × ν)) : List (κ × ν) :=
  entries.foldl (fun d e => dictSet d e.1 e.2) []

lemma mem_keys_dictSet {κ ν : Type} [DecidableEq κ] (d : List (κ × ν)) (k : κ) (v : ν) (k' : κ) :
    k' ∈ (dictSet d k v).map Prod.fst ↔ k' = k ∨ k' ∈ d.map Prod.fst := by
  induction d with
  | nil => simp [dictSet]
  | cons e d ih =>
    rw [dictSet]
    split
    · rename_i h
      simp [h]
    · simp only [List.map_cons, List.mem_cons, ih]
      tauto

lemma nodup_dictSet {κ ν : Type} [DecidableEq κ] {d : List (κ × ν)} (h : (d.map Prod.fst).Nodup) (k : κ) (v : ν) :
    ((dictSet d k v).map Prod.fst).Nodup := by
  induction d with
  | nil => simp [dictSet]
  | cons e d ih =>
    rw [List.map_cons, List.nodup_cons] at h
    rw [dictSet]
    split
    · rename_i he
      exact List.nodup_cons.mpr ⟨he ▸ h.1, h.2⟩
    · rename_i he
      refine List.nodup_cons.mpr ⟨fun hm => ?_, ih h.2⟩
      rcases (mem_keys_dictSet d k v e.1).mp hm with e' | hm
      · exact he e'
      · exact h.1 hm

/-- The keys are those that have been assigned to, each once. -/
lemma keys_foldl_dictSet {κ ν : Type} [DecidableEq κ] (key : α → κ) (value : α → ν) (xs : List α) {d : List (κ × ν)}
    (hd : (d.map Prod.fst).Nodup) : ((xs.foldl (fun d x => dictSet d (key x) (value x)) d).map Prod.fst).Nodup ∧
      ∀ k, k ∈ (xs.foldl (fun d x => dictSet d (key x) (value x)) d).map Prod.fst ↔ k ∈ d.map Prod.fst ∨
      k ∈ xs.map key := by
  induction xs generalizing d with
  | nil => exact ⟨hd, fun k => by simp⟩
  | cons x xs ih =>
    obtain ⟨hnodup, hmem⟩ := ih (nodup_dictSet hd (key x) (value x))
    refine ⟨hnodup, fun k => ?_⟩
    rw [List.foldl_cons, hmem, mem_keys_dictSet, List.map_cons, List.mem_cons]
    tauto

lemma mem_dictSet {κ ν : Type} [DecidableEq κ] {d : List (κ × ν)} {k : κ} {v : ν} {e : κ × ν} (h : e ∈ dictSet d k v) :
    e = (k, v) ∨ e ∈ d := by
  induction d with
  | nil => exact .inl (List.mem_singleton.mp h)
  | cons e' d ih =>
    rw [dictSet] at h
    split at h
    · exact (List.mem_cons.mp h).imp_right (List.mem_cons_of_mem _)
    · rcases List.mem_cons.mp h with h | h
      · exact .inr (h ▸ List.mem_cons_self)
      · exact (ih h).imp_right (List.mem_cons_of_mem _)

lemma mem_of_lookup {κ ν : Type} [DecidableEq κ] {d : List (κ × ν)} {k : κ} (h : k ∈ d.map Prod.fst) :
    ∃ v, d.lookup k = some v ∧ (k, v) ∈ d := by
  induction d with
  | nil => cases h
  | cons e d ih =>
    by_cases hk : k = e.1
    · exact ⟨e.2, by rw [List.lookup_cons, hk, beq_self_eq_true], by rw [hk]; exact List.mem_cons_self⟩
    · obtain ⟨v, hv, hmem⟩ := ih ((List.mem_cons.mp h).resolve_left hk)
      refine ⟨v, ?_, List.mem_cons_of_mem _ hmem⟩
      rw [List.lookup_cons, beq_false_of_ne hk]
      exact hv

/-! ## The specification -/

/-- `tagged_union`, with the masks and the parts of the tags as numbers. -/
structure UnionSpec where
  name : String
  tagname : String
  classes : List (Int × Int)
  tags : List (String × List Int)
  deriving DecidableEq, Repr

/-- `field_map`: the last field of the name. -/
def Block.fieldMap (blk : Block b) (name : String) : Option Field :=
  blk.fields.reverse.find? (·.name = name)

/-- An element of a union: the block, and its tag field. -/
structure Variant (b : Base) (α : Type) where
  name : String
  value : α
  block : Block b
  field : Field

/-- What `make_classes` leaves: the offset of the tag field for each width, the least one of them, and a mask for each
width. The widths go up. -/
structure TagClasses where
  tagOffset : List (Nat × Nat)
  classOffset : Nat
  masks : List (Nat × Nat)
  deriving DecidableEq, Repr

namespace TagClasses

variable (c : TagClasses)

def widths : List Nat :=
  c.masks.map Prod.fst

def offset (w : Nat) : Nat :=
  (c.tagOffset.lookup w).getD 0

def mask (w : Nat) : Nat :=
  (c.masks.lookup w).getD 0

end TagClasses

/-! ## Messages -/

/-- `"{:0{}b}".format`. -/
def formatBin (n : Int) (width : Nat) : String :=
  let sign := if n < 0 then "-" else ""
  let digits := String.ofList (Nat.toDigits 2 n.natAbs)
  sign ++ "".pushn '0' (width - sign.length - digits.length) ++ digits

/-- `hex`. -/
def hex (n : Int) : String :=
  (if n < 0 then "-" else "") ++ "0x" ++ String.ofList (Nat.toDigits 16 n.natAbs)

/-- `represent_class`. -/
def representClass (maxWidth : Nat) (mask : Int) : String :=
  (formatBin mask maxWidth).replace "0" "-" ++ s!" ({hex mask})"

/-- `represent_field`. -/
def representField (maxWidth width offset : Nat) : String :=
  ((formatBin ((2 ^ width - 1) <<< offset : Nat) maxWidth).replace "0" "-").replace "1" "#"

/-- `represent_value`. -/
def representValue (c : TagClasses) (value : Int) (width : Nat) : String :=
  let maxWidth := c.widths.foldl max 0
  let tail := formatBin value width ++ "".pushn '_' (c.offset width - c.classOffset)
  "".pushn '_' (maxWidth + c.offset maxWidth - c.classOffset - tail.length) ++ tail

/-! ## Classes -/

/-- A number, moved up by `shift`, lies within a field. A negative one has bits above each field. -/
def inField (shift width offset : Nat) : Int → Option Nat
  | .ofNat n =>
    let field := (2 ^ width - 1) <<< offset
    if n <<< shift ||| field = field then some n else none
  | .negSucc _ => none

/-- The masks that are declared, from the lowest tag field on. -/
def shiftClasses (tagOffset : List (Nat × Nat)) (classOffset : Nat) (declared : List (Int × Int)) :
    Except PyError (List (Nat × Int)) :=
  (dictOf declared).mapM fun d =>
    match tagOffset.find? fun e => (e.1 : Int) = d.1 with
    | some e => .ok (e.1, d.2 * 2 ^ (e.2 - classOffset))
    | none => .error (.keyError (toString d.1))

/-- `make_classes`. -/
def makeClasses (name tagname : String) (declared : List (Int × Int)) (fields : List Field) :
    Except PyError TagClasses := do
  let tagOffset := fields.foldl (fun d f => dictSet d f.size f.offset) []
  let classOffset ← orFail (tagOffset.map Prod.snd).min? (.valueError "min() arg is an empty sequence")
  let shifted ← shiftClasses tagOffset classOffset declared
  let usedWidths := (tagOffset.map Prod.fst).insertionSort (· ≤ ·)
  let classes := if shifted = [] then (usedWidths.take 1).map fun w => (w, 0) else shifted
  let context := s!"masks for {name}.{tagname}"
  let widths := (classes.map Prod.fst).insertionSort (· ≤ ·)
  usedWidths.forM fun w =>
    failIf (w ∉ widths) (.valueError s!"{context}: none defined for a field of {w} bits.")
  widths.forM fun w =>
    failIf (w ∉ usedWidths) (.valueError s!"{context}: there is a mask with {w} bits but no corresponding fields.")
  let maxWidth := widths.foldl max 0
  let masks ← widths.mapM fun w => do
    let mask := (classes.lookup w).getD 0
    let offset := (tagOffset.lookup w).getD 0
    let mask ← orFail (inField classOffset w offset mask) (.valueError
      (s!"{context}: the mask for {w} bits:\n  {representClass maxWidth mask}\n" ++
        s!"exceeds the field bounds:\n  {representField maxWidth w (offset - classOffset)}."))
    return (w, mask)
  failIf (1 < masks.length ∧ (masks.head?.map Prod.snd) = some 0) (.valueError
    s!"{context}: the first (width {widths.headD 0}) is zero.")
  failIf ((masks.dropLast.zip masks.dropLast.tail).any fun p => p.1.2 = p.2.2) (.valueError
    s!"{context}: there is a non-final duplicate!")
  (masks.zip masks.tail).forM fun p =>
    failIf (p.2.2 &&& p.1.2 ≠ p.1.2) (.valueError
      (s!"{context}: the mask\n  0b{formatBin p.2.2 0} for width {p.2.1} " ++
        s!"does not include the mask\n  0b{formatBin p.1.2 0} for width {p.1.1}."))
  return { tagOffset, classOffset, masks }

namespace TagClasses

/-- The widths go up, those of the fields are among them, and each mask lies within the tag field of its width. -/
structure Ok (c : TagClasses) (fields : List Field) : Prop where
  sorted : c.widths.Pairwise (· < ·)
  width_mem : ∀ f ∈ fields, f.size ∈ c.widths
  offset_mem : ∀ w ∈ c.widths, (w, c.offset w) ∈ c.tagOffset
  exists_field : ∀ w ∈ c.widths, ∃ f ∈ fields, f.size = w ∧ f.offset = c.offset w
  classOffset_le : ∀ w ∈ c.widths, c.classOffset ≤ c.offset w
  classOffset_mem : ∃ f ∈ fields, f.offset = c.classOffset
  mask_le : ∀ w ∈ c.widths, c.mask w <<< c.classOffset ||| (2 ^ w - 1) <<< c.offset w = (2 ^ w - 1) <<< c.offset w

end TagClasses

/-- The entries of the dictionary of the offsets are tag fields. -/
lemma mem_tagOffset {fields : List Field} {d : List (Nat × Nat)} {e : Nat × Nat}
    (he : e ∈ fields.foldl (fun d f => dictSet d f.size f.offset) d) :
    e ∈ d ∨ ∃ f ∈ fields, f.size = e.1 ∧ f.offset = e.2 := by
  induction fields generalizing d with
  | nil => exact .inl he
  | cons f fields ih =>
    rcases ih he with he | ⟨g, hg, h⟩
    · rcases mem_dictSet he with rfl | he
      · exact .inr ⟨f, List.mem_cons_self, rfl, rfl⟩
      · exact .inl he
    · exact .inr ⟨g, List.mem_cons_of_mem _ hg, h⟩

lemma inField_spec {shift width offset m : Nat} {n : Int} (h : inField shift width offset n = some m) :
    n = m ∧ m <<< shift ||| (2 ^ width - 1) <<< offset = (2 ^ width - 1) <<< offset := by
  unfold inField at h
  split at h
  · simp only at h
    split at h
    · rename_i hle
      cases h
      exact ⟨rfl, hle⟩
    · cases h
  · cases h

/-- The masks are those of the widths. -/
lemma masks_spec {f : Nat → Except PyError (Nat × Nat)} {widths : List Nat} {masks : List (Nat × Nat)}
    (hf : ∀ w p, f w = .ok p → p.1 = w) (h : widths.mapM f = .ok masks) : masks.map Prod.fst = widths := by
  have hmap := mapM_ok.mp h
  clear h
  induction hmap with
  | nil => rfl
  | cons hx _ ih => rw [List.map_cons, ih, hf _ _ hx]

/-- The masks are those of keys of the dictionary. -/
lemma shiftClasses_keys {tagOffset : List (Nat × Nat)} {classOffset : Nat} {declared : List (Int × Int)}
    {shifted : List (Nat × Int)} (h : shiftClasses tagOffset classOffset declared = .ok shifted) :
    (shifted.map Prod.fst).Nodup ∧ ∀ w ∈ shifted.map Prod.fst, w ∈ tagOffset.map Prod.fst := by
  have hstep := mapM_ok.mp h
  have hnodup := (keys_foldl_dictSet (fun e : Int × Int => e.1) (fun e => e.2) declared (d := []) .nil).1
  have hkeys : List.Forall₂ (fun d s => (s.1 : Int) = d.1 ∧ s.1 ∈ tagOffset.map Prod.fst) (dictOf declared)
    shifted := by
    refine hstep.imp fun d s hd => ?_
    split at hd
    · rename_i e he
      cases hd
      have heq := List.find?_some he
      exact ⟨of_decide_eq_true heq, List.mem_map_of_mem (List.mem_of_find?_eq_some he)⟩
    · cases hd
  have hmap : (shifted.map Prod.fst).map Int.ofNat = (dictOf declared).map Prod.fst := by
    clear hstep hnodup h
    generalize dictOf declared = d at hkeys
    induction hkeys with
    | nil => rfl
    | cons hx _ ih =>
      rw [List.map_cons, List.map_cons, List.map_cons, ih, ← hx.1]
      rfl
  refine ⟨List.Nodup.of_map _ (hmap ▸ hnodup), fun w hw => ?_⟩
  obtain ⟨s, hs, rfl⟩ := List.mem_map.mp hw
  obtain ⟨d, -, hd⟩ := exists_of_forall₂ hkeys hs
  exact hd.2

/-- What has passed the checks of `make_classes`. -/
lemma makeClasses_spec {name tagname : String} {declared : List (Int × Int)} {fields : List Field} {c : TagClasses}
    (h : makeClasses name tagname declared fields = .ok c) : c.Ok fields := by
  unfold makeClasses at h
  obtain ⟨classOffset, hmin, h⟩ := bind_ok.mp h
  obtain ⟨shifted, hshifted, h⟩ := bind_ok.mp h
  obtain ⟨_, hused, h⟩ := bind_ok.mp h
  obtain ⟨-, -, h⟩ := bind_ok.mp h
  obtain ⟨masks, hmasks, h⟩ := bind_ok.mp h
  obtain ⟨-, h⟩ := failIf_bind.mp h
  obtain ⟨-, h⟩ := failIf_bind.mp h
  obtain ⟨-, -, h⟩ := bind_ok.mp h
  cases h
  obtain ⟨hnodup, hkeys⟩ := keys_foldl_dictSet Field.size Field.offset fields (d := []) .nil
  set tagOffset := fields.foldl (fun d f => dictSet d f.size f.offset) [] with htag
  set usedWidths := (tagOffset.map Prod.fst).insertionSort (· ≤ ·) with husedWidths
  set classes := if shifted = [] then (usedWidths.take 1).map fun w => (w, (0 : Int)) else shifted with hclasses
  set widths := (classes.map Prod.fst).insertionSort (· ≤ ·) with hwidths
  have hclass : (classes.map Prod.fst).Nodup ∧ ∀ w ∈ classes.map Prod.fst, w ∈ tagOffset.map Prod.fst := by
    rw [hclasses]
    split
    · rw [List.map_map, Function.comp_def, List.map_id']
      refine ⟨((List.perm_insertionSort _ _).nodup_iff.mpr hnodup).sublist (List.take_sublist ..), fun w hw => ?_⟩
      exact (List.mem_insertionSort _).mp (List.mem_of_mem_take hw)
    · exact shiftClasses_keys hshifted
  have hmap : masks.map Prod.fst = widths := by
    refine masks_spec (fun w p hp => ?_) hmasks
    obtain ⟨m, -, hp⟩ := bind_ok.mp hp
    cases hp
    rfl
  have hlookup : ∀ w ∈ widths, ∃ o, tagOffset.lookup w = some o ∧ (w, o) ∈ tagOffset := fun w hw =>
    mem_of_lookup (hclass.2 w ((List.mem_insertionSort _).mp hw))
  obtain ⟨hmem, hle⟩ := List.min?_eq_some_iff.mp (orFail_ok.mp hmin)
  have hfield : ∀ e ∈ tagOffset, ∃ f ∈ fields, f.size = e.1 ∧ f.offset = e.2 := fun e he =>
    (mem_tagOffset he).resolve_left List.not_mem_nil
  constructor
  case sorted =>
    have hle := List.pairwise_insertionSort (· ≤ ·) (classes.map Prod.fst)
    have hne := (List.perm_insertionSort (· ≤ ·) (classes.map Prod.fst)).nodup_iff.mpr hclass.1
    show (masks.map Prod.fst).Pairwise (· < ·)
    rw [hmap]
    exact (hle.and hne).imp fun h => lt_of_le_of_ne h.1 h.2
  case width_mem =>
    intro f hf
    have hw : f.size ∈ usedWidths := (List.mem_insertionSort _).mpr ((hkeys f.size).mpr (.inr (List.mem_map_of_mem hf)))
    show f.size ∈ masks.map Prod.fst
    rw [hmap]
    exact not_not.mp (failIf_ok.mp (forM_ok.mp hused _ hw))
  case offset_mem =>
    intro w hw
    obtain ⟨o, ho, hmem⟩ := hlookup w (hmap ▸ hw)
    rw [TagClasses.offset, ho]
    exact hmem
  case exists_field =>
    intro w hw
    obtain ⟨o, ho, hmem⟩ := hlookup w (hmap ▸ hw)
    obtain ⟨f, hf, hsize, hoffset⟩ := hfield _ hmem
    exact ⟨f, hf, hsize, by rw [hoffset, TagClasses.offset, ho]; rfl⟩
  case classOffset_le =>
    intro w hw
    obtain ⟨o, ho, hmem⟩ := hlookup w (hmap ▸ hw)
    rw [TagClasses.offset, ho]
    exact hle o (List.mem_map_of_mem hmem)
  case classOffset_mem =>
    obtain ⟨e, he, heq⟩ := List.mem_map.mp hmem
    obtain ⟨f, hf, -, hoffset⟩ := hfield e he
    exact ⟨f, hf, hoffset.trans heq⟩
  case mask_le =>
    intro w hw
    obtain ⟨m, hm, hmem⟩ := mem_of_lookup hw
    obtain ⟨w', -, hw'⟩ := exists_of_forall₂ (mapM_ok.mp hmasks) hmem
    obtain ⟨m', hm', hw'⟩ := bind_ok.mp hw'
    cases hw'
    rw [TagClasses.mask, hm]
    exact (inField_spec (orFail_ok.mp hm')).2

/-! ## Resolving a union -/

/-- `assert_value_in_class`. -/
def assertValueInClass (union name : String) (c : TagClasses) (value : Int) (width : Nat) : Except PyError Nat := do
  let offset := c.offset width
  let maxWidth := c.widths.foldl max 0
  let context := s!"The value for element {name} of tagged union {union},"
  let repr := representValue c value width
  let value ← orFail (inField offset width offset value) (.valueError
    (s!"{context}\n    {repr}\nexceeds the field bounds\n" ++
      s!"    {representField maxWidth width (offset - c.classOffset)}."))
  let cvalue := value <<< (offset - c.classOffset)
  (c.widths.filter (· < width)).forM fun w =>
    failIf (cvalue &&& c.mask w ≠ c.mask w) (.valueError
      (s!"{context}\n    {repr}\nis invalid: it has {width} bits but fails to match the earlier mask at {w} bits,\n" ++
        s!"    {representClass maxWidth (c.mask w)}."))
  failIf (c.widths.idxOf width + 1 < c.widths.length ∧ cvalue &&& c.mask width = c.mask width) (.valueError
    (s!"{context}\n    {formatBin cvalue width} ({value}/{hex value})\nis invalid: it must not match the " ++
      s!"mask for {width} bits,\n    {representClass maxWidth (c.mask width)}."))
  return value

/-- The end of `resolve_tag_values`. -/
def checkDuplicates : List (String × Int) → List String → List Int → Except PyError Unit
  | [], _, _ => .ok ()
  | (name, value) :: tags, usedNames, usedValues => do
    failIf (name ∈ usedNames) (.valueError s!"Duplicate tag name {name}")
    failIf (value ∈ usedValues) (.valueError s!"Duplicate tag value {value}")
    checkDuplicates tags (name :: usedNames) (value :: usedValues)

/-- The loop of `resolve` over the tags. -/
def resolveTag (union : String) (c : TagClasses) (size : Nat) (t : Variant b Int) : Except PyError (Variant b Nat) := do
  failIf (t.block.size ≠ size) (.valueError s!"Size mismatch for element {t.name} of tagged union {union}")
  failIf (t.field.offset ≠ c.offset t.field.size)
    (.valueError s!"Tag offset mismatch for element {t.name} of tagged union {union}")
  let value ← assertValueInClass union t.name c t.value t.field.size
  failIf t.field.high (.valueError s!"Tag field is high-aligned for element {t.name} of tagged union {union}")
  return { name := t.name, value, block := t.block, field := t.field }

/-- The value of a tag, from the lowest tag field on. -/
def TagClasses.classValue (c : TagClasses) (t : Variant b Nat) : Nat :=
  t.value <<< (t.field.offset - c.classOffset)

/-- An element that has passed the checks: its tag fits the field, has all bits of the masks of the lesser widths, and,
where there are greater ones, not all bits of the mask of its own. -/
structure Variant.Ok (tagname : String) (c : TagClasses) (size : Nat) (t : Variant b Nat) : Prop where
  fieldMap_eq : t.block.fieldMap tagname = some t.field
  size_eq : t.block.size = size
  offset_eq : t.field.offset = c.offset t.field.size
  low : t.field.high = false
  value_lt : t.value < 2 ^ t.field.size
  earlier : ∀ w ∈ c.widths, w < t.field.size → c.classValue t &&& c.mask w = c.mask w
  own : c.widths.idxOf t.field.size + 1 < c.widths.length → c.classValue t &&& c.mask t.field.size ≠ c.mask t.field.size

/-- The value that is given is that of the tag. -/
lemma assertValueInClass_spec {union name : String} {c : TagClasses} {value : Int} {width n : Nat}
    (h : assertValueInClass union name c value width = .ok n) :
    value = n ∧ n <<< c.offset width ||| (2 ^ width - 1) <<< c.offset width = (2 ^ width - 1) <<< c.offset width ∧
      (∀ w ∈ c.widths, w < width → n <<< (c.offset width - c.classOffset) &&& c.mask w = c.mask w) ∧
      (c.widths.idxOf width + 1 < c.widths.length →
        n <<< (c.offset width - c.classOffset) &&& c.mask width ≠ c.mask width) := by
  unfold assertValueInClass at h
  obtain ⟨m, hm, h⟩ := bind_ok.mp h
  obtain ⟨_, hearlier, h⟩ := bind_ok.mp h
  obtain ⟨hown, h⟩ := failIf_bind.mp h
  cases h
  obtain ⟨hvalue, hle⟩ := inField_spec (orFail_ok.mp hm)
  refine ⟨hvalue, hle, fun w hw hlt => ?_, fun hlast heq => hown ⟨hlast, heq⟩⟩
  exact not_not.mp (failIf_ok.mp (forM_ok.mp hearlier w (List.mem_filter.mpr ⟨hw, decide_eq_true hlt⟩)))

/-- No name and no value is used twice. -/
lemma checkDuplicates_spec {tags : List (String × Int)} {usedNames : List String} {usedValues : List Int}
    (h : checkDuplicates tags usedNames usedValues = .ok ()) :
    ((tags.map Prod.fst).Nodup ∧ ∀ name ∈ usedNames, name ∉ tags.map Prod.fst) ∧
      (tags.map Prod.snd).Nodup ∧ ∀ value ∈ usedValues, value ∉ tags.map Prod.snd := by
  induction tags generalizing usedNames usedValues with
  | nil => simp
  | cons t tags ih =>
    obtain ⟨hname, h⟩ := failIf_bind.mp h
    obtain ⟨hvalue, h⟩ := failIf_bind.mp h
    obtain ⟨⟨hnames, hname'⟩, hvalues, hvalue'⟩ := ih h
    simp only [List.map_cons, List.nodup_cons, List.mem_cons, not_or]
    refine ⟨⟨⟨hname' _ List.mem_cons_self, hnames⟩, fun name hn => ⟨fun e => hname (e ▸ hn), hname' _ ?_⟩⟩,
      ⟨hvalue' _ List.mem_cons_self, hvalues⟩, fun value hv => ⟨fun e => hvalue (e ▸ hv), hvalue' _ ?_⟩⟩
    · exact List.mem_cons_of_mem _ hn
    · exact List.mem_cons_of_mem _ hv

/-- A number that lies within a field is less than the power of its width. -/
lemma lt_of_inField {n width offset : Nat}
    (h : n <<< offset ||| (2 ^ width - 1) <<< offset = (2 ^ width - 1) <<< offset) :
    n < 2 ^ width := by
  refine Nat.lt_pow_two_of_testBit n fun i hi => ?_
  have hbit := congrArg (Nat.testBit · (offset + i)) h
  simp only [Nat.testBit_or, Nat.testBit_shiftLeft, Nat.testBit_two_pow_sub_one, Nat.add_sub_cancel_left,
    Nat.le_add_right, decide_true, Bool.true_and, decide_eq_false (Nat.not_lt_of_le hi), Bool.or_false] at hbit
  exact hbit

/-- What is resolved is the tag that was given, and it has passed the checks. -/
lemma resolveTag_spec {union : String} {c : TagClasses} {size : Nat} {t : Variant b Int} {t' : Variant b Nat}
    (h : resolveTag union c size t = .ok t') :
    (t'.name = t.name ∧ (t'.value : Int) = t.value ∧ t'.block = t.block ∧ t'.field = t.field) ∧
      ∀ tagname, t.block.fieldMap tagname = some t.field → t'.Ok tagname c size := by
  unfold resolveTag at h
  obtain ⟨hsize, h⟩ := failIf_bind.mp h
  obtain ⟨hoffset, h⟩ := failIf_bind.mp h
  obtain ⟨n, hn, h⟩ := bind_ok.mp h
  obtain ⟨hhigh, h⟩ := failIf_bind.mp h
  cases h
  obtain ⟨hvalue, hle, hearlier, hown⟩ := assertValueInClass_spec hn
  have hoffset := not_not.mp hoffset
  refine ⟨⟨rfl, hvalue.symm, rfl, rfl⟩, fun tagname hfield =>
    ⟨hfield, not_not.mp hsize, hoffset, Bool.eq_false_iff.mpr hhigh,
    lt_of_inField hle, fun w hw hlt => ?_, fun hlast => ?_⟩⟩
  · rw [TagClasses.classValue, hoffset]
    exact hearlier w hw hlt
  · rw [TagClasses.classValue, hoffset]
    exact hown hlast

/-- The tag fields of the blocks. -/
def tagFields (symtab : String → Option (Block b)) (spec : UnionSpec) :
    Except PyError (List (Variant b (List Int))) := do
  let tags ← spec.tags.mapM fun t => do
    let block ← orFail (symtab t.1) (.keyError t.1)
    return (t, block)
  tags.mapM fun (t, block) => do
    let field ← orFail (block.fieldMap spec.tagname) (.keyError spec.tagname)
    return { name := t.1, value := t.2, block, field }

/-- `resolve_tag_values`, for a tag. -/
def resolveTagValue (union : String) (t : Variant b (List Int)) : Except PyError (Variant b Int) :=
  match t.value with
  | [value] => .ok { name := t.name, value, block := t.block, field := t.field }
  | value =>
    .error (.valueError s!"Tag value {value} for element {t.name} of tagged union{union} must be a single value")

/-- What `resolve` and `set_base` find out about a union. -/
structure Resolved (b : Base) where
  tags : List (Variant b Nat)
  classes : TagClasses
  size : Nat
  tagIndex : Nat

/-- `resolve`, and the check of `set_base`. -/
def resolveTags (symtab : String → Option (Block b)) (spec : UnionSpec) : Except PyError (Resolved b) := do
  let tags ← tagFields symtab spec
  let classes ← makeClasses spec.name spec.tagname spec.classes (tags.map Variant.field)
  let tags ← tags.mapM (resolveTagValue spec.name)
  checkDuplicates (tags.map fun t => (t.name, t.value)) [] []
  let size := (tags.head?.map fun t => t.block.size).getD 0
  let tags ← tags.mapM (resolveTag spec.name classes size)
  let tagIndex := (classes.tagOffset.head?.map fun e => e.2 / b.base).getD 0
  classes.tagOffset.forM fun e =>
    failIf (e.2 / b.base ≠ tagIndex) (.valueError
      (s!"The tag field of tagged union {spec.name} is in a different word ({hex (e.2 / b.base : Nat)}) " ++
        s!"to the others ({hex tagIndex})."))
  return { tags, classes, size, tagIndex }

/-- The fields that are looked up are those of the blocks. -/
lemma tagFields_spec {symtab : String → Option (Block b)} {spec : UnionSpec} {tags : List (Variant b (List Int))}
    (h : tagFields symtab spec = .ok tags) : ∀ t ∈ tags, t.block.fieldMap spec.tagname = some t.field := by
  obtain ⟨blocks, -, h⟩ := bind_ok.mp h
  intro t ht
  obtain ⟨p, -, hp⟩ := exists_of_forall₂ (mapM_ok.mp h) ht
  obtain ⟨field, hfield, hp⟩ := bind_ok.mp hp
  cases hp
  exact orFail_ok.mp hfield

lemma resolveTagValue_spec {union : String} {t : Variant b (List Int)} {t' : Variant b Int}
    (h : resolveTagValue union t = .ok t') : t'.name = t.name ∧ t'.block = t.block ∧ t'.field = t.field := by
  unfold resolveTagValue at h
  split at h
  · cases h
    exact ⟨rfl, rfl, rfl⟩
  · cases h

/-- Two lists that go together have the same images. -/
lemma map_eq_of_forall₂ {β γ : Type} {f : α → γ} {g : β → γ} {xs : List α} {ys : List β}
    (h : List.Forall₂ (fun x y => f x = g y) xs ys) : xs.map f = ys.map g := by
  induction h with
  | nil => rfl
  | cons hx _ ih => rw [List.map_cons, List.map_cons, hx, ih]

/-- What has passed all checks. -/
structure Resolved.Ok (r : Resolved b) (tagname : String) : Prop where
  names_nodup : (r.tags.map Variant.name).Nodup
  values_nodup : (r.tags.map Variant.value).Nodup
  classes_ok : r.classes.Ok (r.tags.map Variant.field)
  tag_ok : ∀ t ∈ r.tags, t.Ok tagname r.classes r.size
  index_eq : ∀ t ∈ r.tags, t.field.index b = r.tagIndex

/-- What has been checked when the tags are resolved. -/
lemma resolveTags_spec {symtab : String → Option (Block b)} {spec : UnionSpec} {r : Resolved b}
    (h : resolveTags symtab spec = .ok r) : r.Ok spec.tagname := by
  unfold resolveTags at h
  obtain ⟨tags1, htags1, h⟩ := bind_ok.mp h
  obtain ⟨classes, hclasses, h⟩ := bind_ok.mp h
  obtain ⟨tags2, htags2, h⟩ := bind_ok.mp h
  obtain ⟨_, hdup, h⟩ := bind_ok.mp h
  obtain ⟨tags3, htags3, h⟩ := bind_ok.mp h
  obtain ⟨_, hindex, h⟩ := bind_ok.mp h
  cases h
  have h1 := mapM_ok.mp htags2
  have h2 := mapM_ok.mp htags3
  have hfields1 : tags1.map Variant.field = tags2.map Variant.field :=
    map_eq_of_forall₂ (h1.imp fun t t' h => (resolveTagValue_spec h).2.2.symm)
  have hfields2 : tags2.map Variant.field = tags3.map Variant.field :=
    map_eq_of_forall₂ (h2.imp fun t t' h => (resolveTag_spec h).1.2.2.2.symm)
  have hok : classes.Ok (tags3.map Variant.field) := hfields2 ▸ hfields1 ▸ makeClasses_spec hclasses
  have hnames : tags2.map Variant.name = tags3.map Variant.name :=
    map_eq_of_forall₂ (h2.imp fun t t' h => (resolveTag_spec h).1.1.symm)
  have hvalues : tags2.map Variant.value = tags3.map fun t => (t.value : Int) :=
    map_eq_of_forall₂ (h2.imp fun t t' h => (resolveTag_spec h).1.2.1.symm)
  obtain ⟨⟨hn, -⟩, hv, -⟩ := checkDuplicates_spec hdup
  rw [List.map_map] at hn hv
  have htag : ∀ t ∈ tags3, t.Ok spec.tagname classes ((tags2.head?.map fun t => t.block.size).getD 0) := by
    intro t ht
    obtain ⟨t2, ht2, h⟩ := exists_of_forall₂ h2 ht
    obtain ⟨t1, ht1, h'⟩ := exists_of_forall₂ h1 ht2
    refine (resolveTag_spec h).2 _ ?_
    rw [(resolveTagValue_spec h').2.1, (resolveTagValue_spec h').2.2]
    exact tagFields_spec htags1 t1 ht1
  constructor
  case names_nodup => exact hnames ▸ hn
  case values_nodup =>
    refine List.Nodup.of_map Int.ofNat ?_
    rw [List.map_map]
    exact hvalues ▸ hv
  case classes_ok => exact hok
  case tag_ok => exact htag
  case index_eq =>
    intro t ht
    have hmem := hok.offset_mem _ (hok.width_mem _ (List.mem_map_of_mem ht))
    rw [Field.index, (htag t ht).offset_eq]
    exact not_not.mp (failIf_ok.mp (forM_ok.mp hindex _ hmem))

/-- A tagged union that has passed its checks. -/
structure TaggedUnion (b : Base) extends Resolved b where
  name : String
  tagname : String
  multiple : Nat
  ok : toResolved.Ok tagname

/-- `resolve` and `set_base`. -/
def resolve (symtab : String → Option (Block b)) (spec : UnionSpec) : Except PyError (TaggedUnion b) :=
  match h : resolveTags symtab spec with
  | .error e => .error e
  | .ok r => .ok { r with
      name := spec.name
      tagname := spec.tagname
      multiple := r.size / b.base
      ok := resolveTags_spec h }

end NexsKernel.Bitfield
