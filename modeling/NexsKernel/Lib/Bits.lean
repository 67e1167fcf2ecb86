import Mathlib.Tactic

/-!
# Sequences of bits

A number is read as a sequence of bits, the most significant first. `lowBits a n` are the lowest `n` bits of `a`, and
`bitsValue` is the number that a sequence stands for.
-/

namespace NexsKernel.Bits

/-- The lowest `n` bits of a number. -/
def lowBits (a : Nat) : Nat → List Bool
  | 0 => []
  | n + 1 => a.testBit n :: lowBits a n

/-- The number that a sequence of bits stands for. -/
def bitsValue : List Bool → Nat
  | [] => 0
  | b :: bs => b.toNat * 2 ^ bs.length + bitsValue bs

variable {a n k : Nat}

@[simp] lemma length_lowBits : (lowBits a n).length = n := by
  induction n with
  | zero => rfl
  | succ n ih => rw [lowBits, List.length_cons, ih]

/-- The bits of a number, split at a position. -/
lemma lowBits_add (a k n : Nat) : lowBits a (k + n) = lowBits (a / 2 ^ n) k ++ lowBits a n := by
  induction k with
  | zero => rw [Nat.zero_add, lowBits, List.nil_append]
  | succ k ih =>
    have e : k + 1 + n = k + n + 1 := by omega
    rw [e, lowBits, lowBits, ih, List.cons_append, Nat.testBit_div_two_pow]

lemma bitsValue_lowBits (a n : Nat) : bitsValue (lowBits a n) = a % 2 ^ n := by
  induction n with
  | zero => rw [lowBits, bitsValue, pow_zero, Nat.mod_one]
  | succ n ih =>
    rw [lowBits, bitsValue, length_lowBits, ih, Nat.toNat_testBit, pow_succ, Nat.mod_mul, Nat.mul_comm, Nat.add_comm]

/-- The first bits of a number, and those that remain. -/
lemma split_lowBits (h : k ≤ n) (a : Nat) :
    (lowBits a n).take k = lowBits (a / 2 ^ (n - k)) k ∧ (lowBits a n).drop k = lowBits a (n - k) := by
  obtain ⟨m, rfl⟩ := Nat.exists_eq_add_of_le h
  rw [Nat.add_sub_cancel_left, lowBits_add]
  constructor
  · exact List.take_left' length_lowBits
  · exact List.drop_left' length_lowBits

lemma take_lowBits (h : k ≤ n) : bitsValue ((lowBits a n).take k) = a / 2 ^ (n - k) % 2 ^ k := by
  rw [(split_lowBits h a).1, bitsValue_lowBits]

lemma drop_lowBits (h : k ≤ n) : (lowBits a n).drop k = lowBits a (n - k) :=
  (split_lowBits h a).2

end NexsKernel.Bits
