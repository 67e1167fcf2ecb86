import Mathlib.Tactic

/-!
# Chunks

A list that is cut into chunks of one size is the chunks one after the other. Chunks of a list that has been padded are
what the list has there, and then padding.
-/

namespace NexsKernel.Chunks

variable {α : Type*}

/-- The elements from `i * size` on. -/
def chunk (size i : Nat) (xs : List α) : List α :=
  (xs.drop (i * size)).take size

/-- Padding up to a length. -/
def padTo (length : Nat) (a : α) (xs : List α) : List α :=
  xs ++ List.replicate (length - xs.length) a

lemma padTo_length {length : Nat} {a : α} {xs : List α} (h : xs.length ≤ length) :
    (padTo length a xs).length = length := by
  rw [padTo, List.length_append, List.length_replicate]
  omega

lemma flatten_chunks (size n : Nat) (xs : List α) :
    ((List.range n).map fun i => chunk size i xs).flatten = xs.take (n * size) := by
  induction n with
  | zero => rw [Nat.zero_mul, List.take_zero]; rfl
  | succ n ih =>
    rw [List.range_succ, List.map_append, List.flatten_append, ih, Nat.succ_mul, List.take_add]
    rw [List.map_singleton, List.flatten_singleton]
    rfl

/-- A chunk that starts within the list is padded by itself. -/
lemma chunk_padTo {length size i : Nat} {a : α} {xs : List α} (hstart : i * size ≤ xs.length)
    (hstop : (i + 1) * size ≤ length) : chunk size i (padTo length a xs) = padTo size a (chunk size i xs) := by
  have hlength : (xs.drop (i * size)).length = xs.length - i * size := List.length_drop
  have hstop' : i * size + size ≤ length := by rwa [Nat.succ_mul] at hstop
  rw [chunk, padTo, List.drop_append_of_le_length hstart, List.take_append, List.take_replicate, hlength, padTo, chunk,
    List.length_take, hlength]
  congr 2
  omega

end NexsKernel.Chunks
