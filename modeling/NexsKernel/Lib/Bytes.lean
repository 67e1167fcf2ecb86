import Mathlib.Tactic

/-!
# Bytes in a memory with modular addresses

A memory is a function on the addresses, whose arithmetic wraps around. `Holds` says that a list of bytes lies at an
address, `Apart` that two ranges have no address in common, and `copyUp` copies a range byte by byte from its start,
whatever it overlaps. Numbers are laid out with their least significant byte first.
-/

namespace NexsKernel.Bytes

variable {w : Nat} {β : Type*}

/-! ## What lies where -/

/-- The bytes lie at an address and those after it. -/
def Holds (mem : BitVec w → β) (a : BitVec w) (bs : List β) : Prop :=
  ∀ k (h : k < bs.length), mem (a + BitVec.ofNat w k) = bs[k]

lemma add_ofNat_add (a : BitVec w) (i j : Nat) : a + BitVec.ofNat w i + BitVec.ofNat w j =
    a + BitVec.ofNat w (i + j) := by
  rw [BitVec.ofNat_add, BitVec.add_assoc]

lemma Holds.nil (mem : BitVec w → β) (a : BitVec w) : Holds mem a [] :=
  fun _ h => absurd h (Nat.not_lt_zero _)

lemma holds_append {mem : BitVec w → β} {a : BitVec w} {xs ys : List β} :
    Holds mem a (xs ++ ys) ↔ Holds mem a xs ∧ Holds mem (a + BitVec.ofNat w xs.length) ys := by
  constructor
  · refine fun h => ⟨fun k hk => ?_, fun k hk => ?_⟩
    · exact (h k (by rw [List.length_append]; omega)).trans (List.getElem_append_left hk)
    · rw [add_ofNat_add, h (xs.length + k) (by rw [List.length_append]; omega)]
      rw [List.getElem_append_right (Nat.le_add_right _ _)]
      simp only [Nat.add_sub_cancel_left]
  · rintro ⟨hx, hy⟩ k hk
    rcases Nat.lt_or_ge k xs.length with h | h
    · rw [List.getElem_append_left h]
      exact hx k h
    · rw [List.length_append] at hk
      have e := hy (k - xs.length) (by omega)
      rw [add_ofNat_add, Nat.add_sub_cancel' h] at e
      rw [List.getElem_append_right h]
      exact e

/-- A table whose entries all have one size. -/
lemma holds_flatMap {α : Type*} {f : α → List β} {size : Nat} {mem : BitVec w → β} {a : BitVec w} {xs : List α}
    (hf : ∀ x ∈ xs, (f x).length = size) :
    Holds mem a (xs.flatMap f) ↔ ∀ i (h : i < xs.length), Holds mem (a + BitVec.ofNat w (size * i)) (f xs[i]) := by
  induction xs generalizing a with
  | nil => exact ⟨fun _ i h => absurd h (Nat.not_lt_zero i), fun _ => .nil mem a⟩
  | cons x xs ih =>
    have hx := hf x List.mem_cons_self
    rw [List.flatMap_cons, holds_append, hx, ih fun y hy => hf y (List.mem_cons_of_mem _ hy)]
    constructor
    · rintro ⟨h0, h⟩ i hi
      cases i with
      | zero => simpa using h0
      | succ i =>
        have e := h i (Nat.lt_of_succ_lt_succ hi)
        rw [add_ofNat_add, show size + size * i = size * (i + 1) by ring] at e
        exact e
    · refine fun h => ⟨by simpa using h 0 (Nat.succ_pos _), fun i hi => ?_⟩
      rw [add_ofNat_add, show size + size * i = size * (i + 1) by ring]
      exact h (i + 1) (Nat.succ_lt_succ hi)

lemma length_flatMap_const {α : Type*} {f : α → List β} {size : Nat} {xs : List α}
    (hf : ∀ x ∈ xs, (f x).length = size) :
    (xs.flatMap f).length = size * xs.length := by
  induction xs with
  | nil => rfl
  | cons x xs ih =>
    rw [List.flatMap_cons, List.length_append, hf x List.mem_cons_self, ih fun y hy => hf y (List.mem_cons_of_mem _ hy),
      List.length_cons]
    ring

/-! ## Ranges -/

/-- The ranges of `n` addresses from `a` and of `m` addresses from `b` have none in common. -/
def Apart (a : BitVec w) (n : Nat) (b : BitVec w) (m : Nat) : Prop :=
  ∀ i < n, ∀ j < m, a + BitVec.ofNat w i ≠ b + BitVec.ofNat w j

instance (a : BitVec w) (n : Nat) (b : BitVec w) (m : Nat) : Decidable (Apart a n b m) :=
  inferInstanceAs (Decidable (∀ i < n, ∀ j < m, a + BitVec.ofNat w i ≠ b + BitVec.ofNat w j))

/-- A range that does not wrap around is an interval. -/
lemma toNat_add_ofNat {a : BitVec w} {n i : Nat} (h : a.toNat + n ≤ 2 ^ w) (hi : i < n) :
    (a + BitVec.ofNat w i).toNat = a.toNat + i := by
  rw [BitVec.toNat_add, BitVec.toNat_ofNat, Nat.add_mod_mod, Nat.mod_eq_of_lt (by omega)]

lemma apart_of_le {a b : BitVec w} {n m : Nat} (ha : a.toNat + n ≤ 2 ^ w) (hb : b.toNat + m ≤ 2 ^ w)
    (h : a.toNat + n ≤ b.toNat ∨ b.toNat + m ≤ a.toNat) : Apart a n b m := by
  intro i hi j hj e
  have e' := congrArg BitVec.toNat e
  rw [toNat_add_ofNat ha hi, toNat_add_ofNat hb hj] at e'
  omega

/-- The parts of a range. -/
lemma apart_append {a : BitVec w} {n : Nat} {b : BitVec w} {m m' : Nat} :
    Apart a n b (m + m') ↔ Apart a n b m ∧ Apart a n (b + BitVec.ofNat w m) m' := by
  constructor
  · refine fun h => ⟨fun i hi j hj => h i hi j (by omega), fun i hi j hj => ?_⟩
    rw [add_ofNat_add]
    exact h i hi (m + j) (by omega)
  · rintro ⟨h, h'⟩ i hi j hj
    rcases Nat.lt_or_ge j m with hlt | hge
    · exact h i hi j hlt
    · have e := h' i hi (j - m) (by omega)
      rw [add_ofNat_add, Nat.add_sub_cancel' hge] at e
      exact e

/-! ## Copying -/

/-- Byte by byte, from the first one. -/
def copyUp (mem : BitVec w → β) (dst src : BitVec w) : Nat → BitVec w → β
  | 0 => mem
  | n + 1 => copyUp (Function.update mem dst (mem src)) (dst + 1) (src + 1) n

/-- The last byte last. -/
lemma copyUp_succ (mem : BitVec w → β) (dst src : BitVec w) (n : Nat) :
    copyUp mem dst src (n + 1) =
      Function.update (copyUp mem dst src n) (dst + BitVec.ofNat w n)
      (copyUp mem dst src n (src + BitVec.ofNat w n)) := by
  have hone : ∀ a : BitVec w, a + 1 = a + BitVec.ofNat w 1 := fun _ => rfl
  induction n generalizing mem dst src with
  | zero => simp [copyUp]
  | succ n ih =>
    rw [copyUp, ih, hone, hone, add_ofNat_add, add_ofNat_add, Nat.add_comm 1 n]
    rfl

lemma copyUp_of_apart {mem : BitVec w → β} {dst src a : BitVec w} {n : Nat}
    (h : ∀ i < n, dst + BitVec.ofNat w i ≠ a) : copyUp mem dst src n a = mem a := by
  induction n with
  | zero => rfl
  | succ n ih =>
    rw [copyUp_succ, Function.update_of_ne (h n (Nat.lt_succ_self n)).symm]
    exact ih fun i hi => h i (Nat.lt_succ_of_lt hi)

lemma Holds.copyUp {mem : BitVec w → β} {dst src a : BitVec w} {n : Nat} {bs : List β} (h : Holds mem a bs)
    (hd : Apart dst n a bs.length) : Holds (copyUp mem dst src n) a bs := by
  intro k hk
  rw [copyUp_of_apart fun i hi => hd i hi k hk]
  exact h k hk

lemma ofNat_inj_of_lt {i j : Nat} (hi : i < 2 ^ w) (hj : j < 2 ^ w) (a : BitVec w)
    (h : a + BitVec.ofNat w i = a + BitVec.ofNat w j) : i = j := by
  have e := congrArg BitVec.toNat (BitVec.add_right_inj a |>.mp h)
  rwa [BitVec.toNat_ofNat, BitVec.toNat_ofNat, Nat.mod_eq_of_lt hi, Nat.mod_eq_of_lt hj] at e

/-- What was copied: the bytes of the source, and where the destination begins inside the source, those before it
again and again. -/
lemma copyUp_apply {mem : BitVec w → β} {dst src : BitVec w} {n k : Nat} (hn : n ≤ 2 ^ w) (hk : k < n) :
    copyUp mem dst src n (dst + BitVec.ofNat w k) = mem (src + BitVec.ofNat w (k % (dst - src).toNat)) := by
  induction n generalizing k with
  | zero => exact absurd hk (Nat.not_lt_zero k)
  | succ n ih =>
    have hlast : dst + BitVec.ofNat w k = dst + BitVec.ofNat w n → k = n :=
      ofNat_inj_of_lt (by omega) (by omega) dst
    rw [copyUp_succ]
    rcases Nat.lt_or_ge k n with hlt | hge
    · rw [Function.update_of_ne fun e => by have := hlast e; omega]
      exact ih (by omega) hlt
    obtain rfl : k = n := by omega
    rw [Function.update_self]
    -- the last byte that is read may have been written
    set d := (dst - src).toNat with hd
    have hsrc : src + BitVec.ofNat w d = dst := by
      rw [hd, BitVec.ofNat_toNat, BitVec.setWidth_eq, BitVec.add_comm, BitVec.sub_add_cancel]
    by_cases h : d = 0 ∨ k < d
    · have hmod : k % d = k := by
        rcases h with h | h
        · rw [h, Nat.mod_zero]
        · exact Nat.mod_eq_of_lt h
      rw [hmod]
      refine copyUp_of_apart fun i hi e => ?_
      rw [← hsrc, add_ofNat_add] at e
      have hdlt : d < 2 ^ w := BitVec.isLt _
      have e' := congrArg BitVec.toNat (BitVec.add_right_inj src |>.mp e)
      rw [BitVec.toNat_ofNat, BitVec.toNat_ofNat, Nat.mod_eq_of_lt (a := k) (by omega)] at e'
      rcases Nat.lt_or_ge (d + i) (2 ^ w) with hw | hw
      · rw [Nat.mod_eq_of_lt hw] at e'
        omega
      · rw [Nat.mod_eq_sub_mod hw, Nat.mod_eq_of_lt (by omega)] at e'
        omega
    · have hback : src + BitVec.ofNat w k = dst + BitVec.ofNat w (k - d) := by
        rw [← hsrc, add_ofNat_add]
        congr 2
        omega
      rw [hback, ih (by omega) (by omega), ← Nat.mod_eq_sub_mod (by omega)]

/-! ## Numbers -/

/-- The bytes of a number. -/
def encode : Nat → Nat → List (BitVec 8)
  | 0, _ => []
  | n + 1, v => BitVec.ofNat 8 v :: encode n (v / 256)

def decode : List (BitVec 8) → Nat
  | [] => 0
  | b :: bs => b.toNat + 256 * decode bs

@[simp] lemma encode_length (n v : Nat) : (encode n v).length = n := by
  induction n generalizing v with
  | zero => rfl
  | succ n ih => exact congrArg (· + 1) (ih _)

lemma decode_encode (n v : Nat) : decode (encode n v) = v % 256 ^ n := by
  induction n generalizing v with
  | zero => exact (Nat.mod_one v).symm
  | succ n ih =>
    rw [encode, decode, ih, BitVec.toNat_ofNat, show 2 ^ 8 = 256 from rfl, pow_succ', Nat.mod_mul]

/-- The number that lies at an address. -/
def read (mem : BitVec w → BitVec 8) (a : BitVec w) (n : Nat) : Nat :=
  decode ((List.range n).map fun k => mem (a + BitVec.ofNat w k))

lemma Holds.read {mem : BitVec w → BitVec 8} {a : BitVec w} {n v : Nat} (h : Holds mem a (encode n v)) :
    read mem a n = v % 256 ^ n := by
  have e : ((List.range n).map fun k => mem (a + BitVec.ofNat w k)) = encode n v := by
    refine List.ext_getElem (by simp) fun k h1 h2 => ?_
    rw [List.getElem_map, List.getElem_range]
    exact h k h2
  rw [Bytes.read, e, decode_encode]

end NexsKernel.Bytes
