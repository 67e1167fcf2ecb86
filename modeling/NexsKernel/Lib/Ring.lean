import Mathlib.Tactic

/-!
# Ring buffers

A ring buffer of capacity `max` is a function from indices to items together with the index of its
first and of its last item; it always holds at least one item. `Ring.toList` reads the items from the
first to the last. The lemmas relate a step of the indices, or a write to one cell, to the list.
-/

namespace NexsKernel.Ring

variable {α : Type*}

/-- The index after `i`, wrapping from the last cell to the first. -/
def next (max i : Nat) : Nat :=
  if i = max - 1 then 0 else i + 1

/-- The index `k` cells after `head`. -/
def index (max head k : Nat) : Nat :=
  (head + k) % max

/-- The number of items between two indices, both included. -/
def size (max head tail : Nat) : Nat :=
  if head ≤ tail then tail - head + 1 else tail + 1 + (max - head)

/-- The `n` items that start at `head`. -/
def toList (f : Nat → α) (max : Nat) : Nat → Nat → List α
  | _, 0 => []
  | head, n + 1 => f head :: toList f max (next max head) n

lemma next_lt {max i} (h : i < max) : next max i < max := by
  unfold next
  split <;> omega

lemma next_eq_index {max i} (h : i < max) : next max i = index max i 1 := by
  unfold next index
  split
  · rw [show i + 1 = max by omega, Nat.mod_self]
  · rw [Nat.mod_eq_of_lt (by omega)]

lemma index_lt {max head k} (h : head < max) : index max head k < max :=
  Nat.mod_lt _ (by omega)

lemma index_zero {max head} (h : head < max) : index max head 0 = head :=
  Nat.mod_eq_of_lt h

/-- Moving the first index by one shifts every later index. -/
lemma index_next {max head} (k) (h : head < max) :
    index max (next max head) k = index max head (k + 1) := by
  rw [next_eq_index h]
  unfold index
  rw [Nat.mod_add_mod]
  congr 1
  omega

/-- The cell after the one at distance `k` is the one at distance `k + 1`. -/
lemma next_index {max head} (k) (h : head < max) :
    next max (index max head k) = index max head (k + 1) := by
  rw [next_eq_index (index_lt h)]
  unfold index
  rw [Nat.mod_add_mod]
  congr 1

/-- Two cells at different distances below the capacity are different. -/
lemma index_inj {max head j k} (hj : j < max) (hk : k < max)
    (e : index max head j = index max head k) : j = k := by
  have h : head + j ≡ head + k [MOD max] := e
  have h' := Nat.ModEq.add_left_cancel' head h
  unfold Nat.ModEq at h'
  rwa [Nat.mod_eq_of_lt hj, Nat.mod_eq_of_lt hk] at h'

lemma size_pos {max head tail} : 0 < size max head tail := by
  unfold size
  split <;> omega

lemma size_le {max head tail} (hh : head < max) (ht : tail < max) : size max head tail ≤ max := by
  unfold size
  split <;> omega

/-- The size determines the last index. -/
lemma tail_eq_index {max head tail} (hh : head < max) (ht : tail < max) :
    tail = index max head (size max head tail - 1) := by
  unfold size index
  split
  · rw [Nat.mod_eq_of_lt (by omega)]
    omega
  · rw [show head + (tail + 1 + (max - head) - 1) = tail + max by omega, Nat.add_mod_right,
      Nat.mod_eq_of_lt ht]

/-- Dropping the first item shrinks the size by one. -/
lemma size_next_head {max head tail} (hh : head < max) (ht : tail < max) (hne : head ≠ tail) :
    size max (next max head) tail + 1 = size max head tail := by
  unfold size next
  split <;> split <;> split <;> omega

/-- Adding a cell behind the last one grows the size by one. -/
lemma size_next_tail {max head tail} (hh : head < max) (ht : tail < max)
    (hlt : size max head tail < max) :
    size max head (next max tail) = size max head tail + 1 := by
  unfold size next at *
  split at hlt <;> split <;> split <;> omega

/-- There is exactly one item when both indices agree. -/
lemma size_eq_one {max head tail} (hh : head < max) :
    size max head tail = 1 ↔ head = tail := by
  unfold size
  split <;> omega

@[simp] lemma toList_length (f : Nat → α) (max head n) : (toList f max head n).length = n := by
  induction n generalizing head with
  | zero => rfl
  | succ n ih => simp [toList, ih]

/-- The items in index order, the last one written separately. -/
lemma toList_concat (f : Nat → α) {max head} (n) (h : head < max) :
    toList f max head (n + 1) = toList f max head n ++ [f (index max head n)] := by
  induction n generalizing head with
  | zero => simp [toList, index_zero h]
  | succ n ih =>
    rw [toList, ih (next_lt h), toList, index_next n h]
    rfl

/-- Two buffers that agree on the occupied cells have the same items. -/
lemma toList_congr {f g : Nat → α} {max head n} (h : head < max)
    (e : ∀ k < n, f (index max head k) = g (index max head k)) :
    toList f max head n = toList g max head n := by
  induction n with
  | zero => rfl
  | succ n ih =>
    rw [toList_concat f n h, toList_concat g n h, ih (fun k hk => e k (by omega)), e n (by omega)]

/-- A write to a cell that is not occupied leaves the items alone. -/
lemma toList_update_free (f : Nat → α) {max head n m} (v : α) (h : head < max)
    (hn : n ≤ m) (hm : m < max) :
    toList (Function.update f (index max head m) v) max head n = toList f max head n := by
  apply toList_congr h
  intro k hk
  rw [Function.update_of_ne]
  intro e
  have := index_inj (by omega) hm e
  omega

/-- A write to the last cell replaces the last item. -/
lemma toList_update_last (f : Nat → α) {max head n} (v : α) (h : head < max) (hn : n < max) :
    toList (Function.update f (index max head n) v) max head (n + 1) =
      toList f max head n ++ [v] := by
  rw [toList_concat _ n h, toList_update_free f v h le_rfl hn, Function.update_self]

/-- A write to the first cell replaces the first item. -/
lemma toList_update_first (f : Nat → α) {max head n} (v : α) (h : head < max) (hn : n < max) :
    toList (Function.update f head v) max head (n + 1) =
      v :: toList f max (next max head) n := by
  rw [toList, Function.update_self]
  congr 1
  apply toList_congr (next_lt h)
  intro k hk
  rw [Function.update_of_ne]
  rw [index_next k h]
  intro e
  have := index_inj (j := k + 1) (k := 0) (by omega) (by omega) (e.trans (index_zero h).symm)
  omega

end NexsKernel.Ring
