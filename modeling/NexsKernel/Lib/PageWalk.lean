import NexsKernel.Lib.Bytes

/-!
# Walks through page tables in memory

A page table has 512 entries of eight bytes. On each level a part of the address selects an entry, which points to a
table of the next level, or to the memory that the address is translated to. What the entries say is a parameter of the
level.

Where a table lies in memory its entries are read as they were put there (`entryAt_table`), so walks go through tables
one by one (`walk_table`, `walk_leaf`). Consecutive entries that point to consecutive memory translate addresses by one
offset (`block_offset`).
-/

namespace NexsKernel.PageWalk

open Bytes

/-! ## Memories with given contents -/

/-- A memory with lists of bytes at addresses. -/
def memoryOf : List (BitVec 64 × List (BitVec 8)) → BitVec 64 → BitVec 8
  | [], _ => 0
  | (start, bytes) :: pieces, a => bytes.getD (a - start).toNat (memoryOf pieces a)

/-- The memory holds the pieces that it is made of. -/
lemma memoryOf_holds {pieces : List (BitVec 64 × List (BitVec 8))} (hlt : ∀ p ∈ pieces, p.2.length < 2 ^ 64)
    (hapart : pieces.Pairwise fun p q => Apart p.1 p.2.length q.1 q.2.length) :
    ∀ p ∈ pieces, Holds (memoryOf pieces) p.1 p.2 := by
  induction pieces with
  | nil => exact nofun
  | cons piece pieces ih =>
    obtain ⟨hhead, htail⟩ := List.pairwise_cons.mp hapart
    have hrest := ih (fun p hp => hlt p (List.mem_cons_of_mem _ hp)) htail
    intro p hp k hk
    unfold memoryOf
    rw [List.getD_eq_getElem?_getD]
    obtain rfl | hp := List.mem_cons.mp hp
    · have hlength := hlt p List.mem_cons_self
      have hindex : (p.1 + BitVec.ofNat 64 k - p.1).toNat = k := by
        rw [BitVec.add_comm, BitVec.add_sub_cancel, BitVec.toNat_ofNat, Nat.mod_eq_of_lt (by omega)]
      rw [hindex, List.getElem?_eq_getElem hk, Option.getD_some]
    · have hbehind : piece.2.length ≤ (p.1 + BitVec.ofNat 64 k - piece.1).toNat := by
        by_contra hlt
        refine hhead p hp _ (Nat.lt_of_not_le hlt) k hk ?_
        rw [BitVec.ofNat_toNat, BitVec.setWidth_eq, BitVec.add_comm, BitVec.sub_add_cancel]
      rw [List.getElem?_eq_none hbehind]
      exact hrest p hp k hk

/-! ## Tables -/

/-- The entries of a table, by their indices below 512. -/
abbrev PageTable := Nat → BitVec 64

namespace PageTable

def zero : PageTable :=
  fun _ => 0

def put (t : PageTable) (i : Nat) (entry : BitVec 64) : PageTable :=
  Function.update t i entry

/-- The table with other entries from an index on. -/
def fill (t : PageTable) (first count : Nat) (entry : Nat → BitVec 64) : PageTable :=
  fun i => if first ≤ i ∧ i < first + count then entry (i - first) else t i

/-- The bytes of a table. -/
def bytes (t : PageTable) : List (BitVec 8) :=
  (List.range 512).flatMap fun i => encode 8 (t i).toNat

variable {t : PageTable} {i j first count : Nat} {entry : BitVec 64} {entries : Nat → BitVec 64}

@[simp] lemma zero_apply : zero i = 0 :=
  rfl

lemma put_self : t.put i entry i = entry := by
  rw [put, Function.update_self]

lemma put_ne (h : j ≠ i) : t.put i entry j = t j := by
  rw [put, Function.update_of_ne h]

lemma fill_inside (h : first ≤ i) (h' : i < first + count) : t.fill first count entries i = entries (i - first) :=
  if_pos ⟨h, h'⟩

lemma fill_outside (h : ¬ (first ≤ i ∧ i < first + count)) : t.fill first count entries i = t i :=
  if_neg h

lemma fill_zero : t.fill first 0 entries = t := by
  funext i
  exact fill_outside (by omega)

lemma fill_succ : t.fill first (count + 1) entries =
    (t.fill first count entries).put (first + count) (entries count) := by
  funext i
  by_cases hi : i = first + count
  · rw [hi, put_self, fill_inside (by omega) (by omega), Nat.add_sub_cancel_left]
  · rw [put_ne hi]
    by_cases h : first ≤ i ∧ i < first + count
    · rw [fill_inside h.1 h.2, fill_inside h.1 (by omega)]
    · rw [fill_outside h, fill_outside (by omega)]

/-- A loop that puts one entry after the other. -/
lemma foldl_put : (List.range count).foldl (fun t k => t.put (first + k) (entries k)) t =
    t.fill first count entries := by
  induction count with
  | zero => rw [List.range_zero, List.foldl_nil, fill_zero]
  | succ count ih => rw [List.range_succ, List.foldl_append, ih, List.foldl_cons, List.foldl_nil, fill_succ]

lemma bytes_length (t : PageTable) : t.bytes.length = 4096 := by
  rw [bytes, length_flatMap_const fun i _ => encode_length 8 _, List.length_range]

end PageTable

/-! ## Walks -/

/-- What an entry of a table says. -/
inductive Entry (α : Type*) where
  | invalid
  | table (next : BitVec 64)
  | leaf (base : Nat) (attr : α)

/-- A level of tables, whose entries stand for `2 ^ shift` bytes each. -/
structure Level (α : Type*) where
  shift : Nat
  decode : BitVec 64 → Entry α

variable {α : Type*} {mem mem' : BitVec 64 → BitVec 8} {level : Level α} {levels : List (Level α)}
  {root next : BitVec 64} {t : PageTable} {va i : Nat}

/-- The entry of an address. -/
def Level.index (level : Level α) (va : Nat) : Nat :=
  va / 2 ^ level.shift % 512

/-- The entry of a table that is read from memory. -/
def entryAt (mem : BitVec 64 → BitVec 8) (table : BitVec 64) (i : Nat) : BitVec 64 :=
  BitVec.ofNat 64 (read mem (table + BitVec.ofNat 64 (8 * i)) 8)

/-- The translation of an address, and what is said about it. -/
def walk (mem : BitVec 64 → BitVec 8) : List (Level α) → BitVec 64 → Nat → Option (Nat × α)
  | [], _, _ => none
  | level :: levels, table, va =>
    match level.decode (entryAt mem table (level.index va)) with
    | .invalid => none
    | .table next => walk mem levels next va
    | .leaf base attr => some (base + va % 2 ^ level.shift, attr)

lemma Level.index_lt : level.index va < 512 :=
  Nat.mod_lt _ (by decide)

/-- An entry is read as it was put. -/
lemma entryAt_table (h : Holds mem root t.bytes) (hi : i < 512) : entryAt mem root i = t i := by
  have hlength : ∀ k ∈ List.range 512, (encode 8 (t k).toNat).length = 8 := fun k _ => encode_length 8 _
  have hentry := (holds_flatMap hlength).mp h i (by rwa [List.length_range])
  rw [List.getElem_range] at hentry
  rw [entryAt, hentry.read, show 256 ^ 8 = 2 ^ 64 from rfl, Nat.mod_eq_of_lt (t i).isLt, BitVec.ofNat_toNat,
    BitVec.setWidth_eq]

lemma walk_invalid (h : Holds mem root t.bytes) (hd : level.decode (t (level.index va)) = .invalid) :
    walk mem (level :: levels) root va = none := by
  rw [walk, entryAt_table h Level.index_lt, hd]

lemma walk_table (h : Holds mem root t.bytes) (hd : level.decode (t (level.index va)) = .table next) :
    walk mem (level :: levels) root va = walk mem levels next va := by
  rw [walk, entryAt_table h Level.index_lt, hd]

lemma walk_leaf (h : Holds mem root t.bytes) {base : Nat} {attr : α}
    (hd : level.decode (t (level.index va)) = .leaf base attr) :
    walk mem (level :: levels) root va = some (base + va % 2 ^ level.shift, attr) := by
  rw [walk, entryAt_table h Level.index_lt, hd]

/-! ## Consecutive memory -/

/-- The entries from that of `va0` on point to the memory from `pa0` on, each to what is aligned to its size. Addresses
are translated by the offset between the two, if these are equally aligned. -/
lemma block_offset {s va0 pa0 va : Nat} (halign : pa0 % 2 ^ s = va0 % 2 ^ s) (hle : va0 ≤ va) :
    (pa0 + (va / 2 ^ s - va0 / 2 ^ s) * 2 ^ s) / 2 ^ s * 2 ^ s + va % 2 ^ s = pa0 + (va - va0) := by
  have hdiv : va0 / 2 ^ s ≤ va / 2 ^ s := Nat.div_le_div_right hle
  have hva := Nat.div_add_mod va (2 ^ s)
  have hva0 := Nat.div_add_mod va0 (2 ^ s)
  have hpa0 := Nat.div_add_mod pa0 (2 ^ s)
  rw [Nat.add_mul_div_right _ _ (Nat.two_pow_pos s), Nat.add_mul, Nat.sub_mul]
  have hmul : va0 / 2 ^ s * 2 ^ s ≤ va / 2 ^ s * 2 ^ s := Nat.mul_le_mul_right _ hdiv
  rw [Nat.mul_comm] at hva hva0 hpa0
  omega

/-- Two addresses of one entry of the level above have the indices that their difference says. -/
lemma index_sub {s va0 va : Nat} (hsame : va / 2 ^ (s + 9) = va0 / 2 ^ (s + 9)) (hle : va0 ≤ va) :
    va / 2 ^ s % 512 - va0 / 2 ^ s % 512 = va / 2 ^ s - va0 / 2 ^ s ∧ va0 / 2 ^ s % 512 ≤ va / 2 ^ s % 512 := by
  have hdiv : va0 / 2 ^ s ≤ va / 2 ^ s := Nat.div_le_div_right hle
  rw [pow_add, ← Nat.div_div_eq_div_mul, ← Nat.div_div_eq_div_mul, show 2 ^ 9 = 512 from rfl] at hsame
  omega

end NexsKernel.PageWalk
