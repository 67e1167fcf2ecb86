import Mathlib.Tactic

/-!
# Machine words

The kernel's `word_t` and `ticks_t` are unsigned 64-bit integers. They are modelled as natural numbers
below `2 ^ 64` with the wrap-around written out: `add64` and `sub64` are the C operators, and the
lemmas below say when they agree with the operators on `Nat`.
-/

namespace NexsKernel

/-- Unsigned 64-bit addition. -/
def add64 (a b : Nat) : Nat :=
  (a + b) % 2 ^ 64

/-- Unsigned 64-bit subtraction. -/
def sub64 (a b : Nat) : Nat :=
  (a + (2 ^ 64 - b % 2 ^ 64)) % 2 ^ 64

/-- Unsigned 64-bit multiplication. -/
def mul64 (a b : Nat) : Nat :=
  (a * b) % 2 ^ 64

/-- The largest 64-bit value. -/
def uint64Max : Nat :=
  2 ^ 64 - 1

/-- Addition does not wrap below the word size. -/
lemma add64_eq {a b} (h : a + b < 2 ^ 64) : add64 a b = a + b :=
  Nat.mod_eq_of_lt h

/-- Subtraction does not wrap when the subtrahend is the smaller one. -/
lemma sub64_eq {a b} (h : b ≤ a) (ha : a < 2 ^ 64) : sub64 a b = a - b := by
  unfold sub64
  omega

/-- Multiplication does not wrap below the word size. -/
lemma mul64_eq {a b} (h : a * b < 2 ^ 64) : mul64 a b = a * b :=
  Nat.mod_eq_of_lt h

end NexsKernel
