import NexsKernel.Lib.Bytes
import NexsKernel.Lib.Checks

/-!
# Structures in a file

A packed structure is its fields one after the other, and a file is pieces one after the other, which lie at running
offsets. What is read where a piece lies is what was written (`take_drop_piece`); for the entries of a table, which all
have one size, this is `take_drop_entry`. `patch` writes elements over those at a position; steps of which any two may be
swapped, such as patches that do not overlap, may be made in any order (`foldlM_perm`).
-/

namespace NexsKernel.Layout

open Bytes

variable {α β : Type*}

/-! ## Pieces -/

/-- What lies between two other parts. -/
lemma take_drop_middle (before xs behind : List α) :
    ((before ++ (xs ++ behind)).drop before.length).take xs.length = xs := by
  rw [List.drop_left, List.take_left]

/-- Where a piece lies behind the pieces before it. -/
def pieceOffset (f : α → List β) (xs : List α) (i : Nat) : Nat :=
  ((xs.take i).map fun x => (f x).length).sum

lemma length_flatMap_take (f : α → List β) (xs : List α) (i : Nat) : ((xs.take i).flatMap f).length =
    pieceOffset f xs i :=
  List.length_flatMap

lemma pieceOffset_zero (f : α → List β) (xs : List α) : pieceOffset f xs 0 = 0 :=
  rfl

lemma pieceOffset_succ (f : α → List β) (x : α) (xs : List α) (i : Nat) :
    pieceOffset f (x :: xs) (i + 1) = (f x).length + pieceOffset f xs i :=
  rfl

/-- A piece is read where it lies. -/
lemma take_drop_piece (f : α → List β) (before : List β) {xs : List α} (behind : List β) {i : Nat} (h : i < xs.length) :
    ((before ++ (xs.flatMap f ++ behind)).drop (before.length + pieceOffset f xs i)).take (f xs[i]).length =
    f xs[i] := by
  have hsplit : xs.flatMap f = (xs.take i).flatMap f ++ (f xs[i] ++ (xs.drop (i + 1)).flatMap f) := by
    rw [← List.flatMap_cons, List.getElem_cons_drop, ← List.flatMap_append, List.take_append_drop]
  have hlength : before.length + pieceOffset f xs i = (before ++ (xs.take i).flatMap f).length := by
    rw [List.length_append, length_flatMap_take]
  rw [hsplit, hlength, List.append_assoc, List.append_assoc, ← List.append_assoc before]
  exact take_drop_middle _ _ _

lemma pieceOffset_le (f : α → List β) {xs : List α} {i : Nat} (h : i < xs.length) :
    pieceOffset f xs i + (f xs[i]).length ≤ (xs.flatMap f).length := by
  induction xs generalizing i with
  | nil => exact absurd h (Nat.not_lt_zero i)
  | cons x xs ih =>
    rw [List.flatMap_cons, List.length_append]
    cases i with
    | zero =>
      rw [pieceOffset_zero, List.getElem_cons_zero]
      omega
    | succ i =>
      have hle := ih (Nat.lt_of_succ_lt_succ h)
      rw [pieceOffset_succ, List.getElem_cons_succ]
      omega

/-- The pieces of a table. -/
lemma pieceOffset_table {f : α → List β} {size : Nat} {xs : List α} (hf : ∀ x, (f x).length = size) {i : Nat}
    (h : i ≤ xs.length) :
    pieceOffset f xs i = i * size := by
  have hconst : (fun x => (f x).length) = fun _ => size := funext hf
  unfold pieceOffset
  rw [hconst, List.map_const', List.sum_replicate, List.length_take, Nat.min_eq_left h, smul_eq_mul]

lemma take_drop_entry {f : α → List β} {size : Nat} (hf : ∀ x, (f x).length = size) (before : List β) {xs : List α}
    (behind : List β) {i : Nat} (h : i < xs.length) :
    ((before ++ (xs.flatMap f ++ behind)).drop (before.length + i * size)).take size = f xs[i] := by
  rw [← pieceOffset_table hf (Nat.le_of_lt h)]
  have hpiece := take_drop_piece f before behind h
  rwa [hf] at hpiece

/-! ## Packed structures -/

/-- The bytes of a structure whose fields have the given sizes and values. -/
def packed (fields : List (Nat × Nat)) : List (BitVec 8) :=
  fields.flatMap fun field => encode field.1 field.2

/-- Where a field lies. -/
def fieldOffset (fields : List (Nat × Nat)) (i : Nat) : Nat :=
  ((fields.take i).map Prod.fst).sum

lemma packed_length (fields : List (Nat × Nat)) : (packed fields).length = (fields.map Prod.fst).sum := by
  induction fields with
  | nil => rfl
  | cons field fields ih =>
    rw [packed, List.flatMap_cons, List.length_append, encode_length, List.map_cons, List.sum_cons]
    exact congrArg _ ih

/-- A field is read as it was written. -/
lemma decode_field {fields : List (Nat × Nat)} (behind : List (BitVec 8)) {i : Nat} (h : i < fields.length) :
    decode (((packed fields ++ behind).drop (fieldOffset fields i)).take fields[i].1) =
    fields[i].2 % 256 ^ fields[i].1 := by
  have hoffset : fieldOffset fields i = pieceOffset (fun field => encode field.1 field.2) fields i := by
    unfold fieldOffset pieceOffset
    congr 1
    exact List.map_congr_left fun field _ => (encode_length field.1 field.2).symm
  have hpiece := take_drop_piece (fun field => encode field.1 field.2) [] behind h
  rw [encode_length, List.nil_append, List.length_nil, Nat.zero_add] at hpiece
  rw [hoffset, packed, hpiece, decode_encode]

lemma decode_packed {fields : List (Nat × Nat)} {offset size value : Nat} (i : Nat)
    (hi : fields[i]? = some (size, value))
    (hoffset : fieldOffset fields i = offset) : decode (((packed fields).drop offset).take size) =
    value % 256 ^ size := by
  obtain ⟨h, hvalue⟩ := List.getElem?_eq_some_iff.mp hi
  have hfield := decode_field [] h
  rwa [List.append_nil, hoffset, hvalue] at hfield

/-! ## Patches -/

/-- Writes `ys` over what is at a position. -/
def patch (xs : List α) (start : Nat) (ys : List α) : List α :=
  xs.take start ++ (ys ++ xs.drop (start + ys.length))

section patches

variable {xs ys zs : List α} {start : Nat}

lemma patch_length (h : start + ys.length ≤ xs.length) : (patch xs start ys).length = xs.length := by
  unfold patch
  rw [List.length_append, List.length_append, List.length_take, List.length_drop]
  omega

lemma getElem?_patch (h : start + ys.length ≤ xs.length) (p : Nat) :
    (patch xs start ys)[p]? = if start ≤ p ∧ p < start + ys.length then ys[p - start]? else xs[p]? := by
  have hstart : (xs.take start).length = start := List.length_take_of_le (by omega)
  unfold patch
  by_cases hbelow : p < start
  · rw [List.getElem?_append_left (by omega), List.getElem?_take_of_lt hbelow, if_neg (by omega)]
  · rw [List.getElem?_append_right (by omega), hstart]
    by_cases hinside : p < start + ys.length
    · rw [List.getElem?_append_left (by omega), if_pos (by omega)]
    · rw [List.getElem?_append_right (by omega), List.getElem?_drop, if_neg (by omega)]
      congr 1
      omega

/-- What was written is read back. -/
lemma prefix_patch (h : start + ys.length ≤ xs.length) {n : Nat} (hn : ys.length ≤ n) :
    ys <+: ((patch xs start ys).drop start).take n := by
  have hstart : (xs.take start).length = start := List.length_take_of_le (by omega)
  unfold patch
  rw [List.drop_left' hstart]
  exact List.prefix_take_iff.mpr ⟨List.prefix_append _ _, hn⟩

/-- Two patches that do not overlap may be made in any order. -/
lemma patch_comm {start' : Nat} (hy : start + ys.length ≤ xs.length) (hz : start' + zs.length ≤ xs.length)
    (hapart : start + ys.length ≤ start' ∨ start' + zs.length ≤ start) :
    patch (patch xs start ys) start' zs = patch (patch xs start' zs) start ys := by
  apply List.ext_getElem?
  intro p
  rw [getElem?_patch (by rwa [patch_length hy]), getElem?_patch hy, getElem?_patch (by rwa [patch_length hz]),
    getElem?_patch hz]
  by_cases hp : start ≤ p ∧ p < start + ys.length
  · rw [if_pos hp, if_neg (by omega), if_pos hp]
  · rw [if_neg hp, if_neg hp]

end patches

/-! ## Any order -/

section order

variable {ε : Type} {α β : Type} {R : α → α → Prop} {P : β → Prop} {f : β → α → Except ε β}

/-- Two steps that may be swapped wherever they are made one after the other. -/
lemma foldlM_perm (hsymm : ∀ {x y}, R x y → R y x) (hkeep : ∀ b x b', P b → f b x = .ok b' → P b')
    (hswap : ∀ b x y r, P b → R x y → (f b x >>= (f · y)) = .ok r → (f b y >>= (f · x)) = .ok r) {xs ys : List α}
    (hperm : xs.Perm ys) (hpair : xs.Pairwise R) {b : β} (hb : P b) (r : β) :
    xs.foldlM f b = .ok r ↔ ys.foldlM f b = .ok r := by
  induction hperm generalizing b with
  | nil => exact Iff.rfl
  | cons x _ ih =>
    rw [List.foldlM_cons, List.foldlM_cons, Checks.bind_ok, Checks.bind_ok]
    exact exists_congr fun b' => and_congr_right fun hx => ih hpair.of_cons (hkeep b x b' hb hx)
  | swap x y xs =>
    have hyx : R y x := List.rel_of_pairwise_cons hpair List.mem_cons_self
    have htwo : ∀ z w, ((z :: w :: xs).foldlM f b = .ok r ↔ ∃ b', (f b z >>= (f · w)) = .ok b' ∧
      xs.foldlM f b' = .ok r) := by
      intro z w
      rw [List.foldlM_cons, ← Checks.bind_ok, bind_assoc]
      simp only [List.foldlM_cons]
    rw [htwo, htwo]
    exact exists_congr fun b' => and_congr_left' ⟨hswap b y x b' hb hyx, hswap b x y b' hb (hsymm hyx)⟩
  | trans hperm _ ih1 ih2 => exact (ih1 hpair hb).trans (ih2 ((hperm.pairwise_iff hsymm).mp hpair) hb)

end order

end NexsKernel.Layout
