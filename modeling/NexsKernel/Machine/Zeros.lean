import Mathlib.Data.Nat.Size
import Mathlib.Tactic

/-!
# Counting zeros

`clz32`, `clz64`, `ctz32` and `ctz64` (`util.c`) are used where the compiler has no instruction for counting the
leading or the trailing zeros of a word. Each of them is a binary search without branches: an iteration looks at the
upper or at the lower half of the bits that are left, and shifts the other half into its place. They count what
`BitVec.clz` and `BitVec.ctz` count (`zeros_counted`).
-/

namespace NexsKernel

variable {w i : Nat}

/-- The local variables of the searches. `count` is an `unsigned`. -/
structure Scan (w : Nat) where
  mask : BitVec w
  x : BitVec w
  count : BitVec 32
  deriving DecidableEq, Repr

namespace Scan

/-- `// iteration i` of `clz32` and `clz64`. -/
def clzIteration (s : Scan w) (i : Nat) : Scan w :=
  let mask := s.mask >>> (1 <<< i)
  let bits : BitVec 32 := (if mask < s.x then 1#32 else 0#32) <<< i
  ⟨mask, s.x >>> bits.toNat, s.count - bits⟩

/-- `// iteration i` of `ctz32` and `ctz64`. -/
def ctzIteration (s : Scan w) (i : Nat) : Scan w :=
  let mask := s.mask >>> (1 <<< i)
  let bits : BitVec 32 := (if s.x &&& mask = 0 then 1#32 else 0#32) <<< i
  ⟨mask, s.x >>> bits.toNat, s.count + bits⟩

/-- The iterations below `n`, counting backwards. -/
def clzIterations : Nat → Scan w → Scan w
  | 0, s => s
  | n + 1, s => clzIterations n (s.clzIteration n)

def ctzIterations : Nat → Scan w → Scan w
  | 0, s => s
  | n + 1, s => ctzIterations n (s.ctzIteration n)

end Scan

/-! ## The routines -/

def clz32 (x : BitVec 32) : BitVec 32 :=
  let s := Scan.clzIterations 5 ⟨BitVec.allOnes 32, x, 32⟩
  s.count - s.x

def clz64 (x : BitVec 64) : BitVec 32 :=
  let s := Scan.clzIterations 6 ⟨BitVec.allOnes 64, x, 64⟩
  -- the difference is a `uint64_t`, and what is returned an `unsigned`
  (s.count.setWidth 64 - s.x).setWidth 32

def ctz32 (x : BitVec 32) : BitVec 32 :=
  (Scan.ctzIterations 5 ⟨BitVec.allOnes 32, x, if x = 0 then 1 else 0⟩).count

def ctz64 (x : BitVec 64) : BitVec 32 :=
  (Scan.ctzIterations 6 ⟨BitVec.allOnes 64, x, if x = 0 then 1 else 0⟩).count

/-! ## One iteration -/

namespace Scan

/-- Half of a mask of ones. -/
lemma mask_half {mask : BitVec w} (h : mask.toNat = 2 ^ 2 ^ (i + 1) - 1) :
    (mask >>> (1 <<< i)).toNat = 2 ^ 2 ^ i - 1 := by
  have hpow : 2 ^ 2 ^ (i + 1) = 2 ^ 2 ^ i * 2 ^ 2 ^ i := by
    rw [pow_succ, Nat.mul_two, pow_add]
  have hpos : 0 < 2 ^ 2 ^ i := Nat.two_pow_pos _
  rw [BitVec.toNat_ushiftRight, Nat.shiftRight_eq_div_pow, Nat.one_shiftLeft, h, hpow]
  rw [Nat.div_eq_iff hpos]
  constructor
  · rw [Nat.sub_mul, Nat.one_mul]
    omega
  · rw [Nat.sub_mul, Nat.one_mul]
    have hle : 2 ^ 2 ^ i ≤ 2 ^ 2 ^ i * 2 ^ 2 ^ i := Nat.le_mul_of_pos_left _ hpos
    omega

/-- The width of the half, or none of it. -/
lemma bits_toNat (hi : i < 6) (p : Prop) [Decidable p] :
    ((if p then 1#32 else 0#32) <<< i).toNat = if p then 2 ^ i else 0 := by
  split
  · interval_cases i <;> rfl
  · rw [BitVec.zero_shiftLeft]
    rfl

/-- Before iteration `i - 1` of a search for the first one in `x₀`, it is among the lowest `2 ^ i` bits. -/
structure Leading (x₀ : Nat) (i : Nat) (s : Scan w) : Prop where
  mask : s.mask.toNat = 2 ^ 2 ^ i - 1
  focus : s.x.toNat < 2 ^ 2 ^ i
  count : s.count.toNat + Nat.size x₀ = w + Nat.size s.x.toNat

/-- Before iteration `i - 1` of a search for the last one in `x₀`, it is among the lowest `2 ^ i` bits. -/
structure Trailing (x₀ : Nat) (i : Nat) (s : Scan w) : Prop where
  mask : s.mask.toNat = 2 ^ 2 ^ i - 1
  focus : s.x.toNat % 2 ^ 2 ^ i ≠ 0
  count : x₀ = s.x.toNat * 2 ^ s.count.toNat
  count_le : s.count.toNat + 2 ^ i ≤ w

variable {x0 : Nat} {s : Scan w}

lemma size_div_two_pow (y h : Nat) : Nat.size (y / 2 ^ h) = Nat.size y - h := by
  refine eq_of_forall_ge_iff fun c => ?_
  rw [Nat.size_le, Nat.div_lt_iff_lt_mul (Nat.two_pow_pos h), ← pow_add, ← Nat.size_le]
  omega

lemma two_pow_succ (i : Nat) : 2 ^ (i + 1) = 2 ^ i + 2 ^ i := by
  rw [pow_succ, Nat.mul_two]

lemma Leading.step (h : Leading x0 (i + 1) s) (hi : i < 6) (hx : Nat.size x0 ≤ w) :
    Leading x0 i (s.clzIteration i) := by
  have hmask := mask_half h.mask
  have hbits := bits_toNat hi (s.mask >>> (1 <<< i) < s.x)
  have hcount := h.count
  refine ⟨hmask, ?_, ?_⟩
  · change (s.x >>> BitVec.toNat _).toNat < _
    rw [hbits, BitVec.toNat_ushiftRight, Nat.shiftRight_eq_div_pow]
    split
    · rw [Nat.div_lt_iff_lt_mul (Nat.two_pow_pos _), ← pow_add, ← two_pow_succ]
      exact h.focus
    · next hlt =>
      rw [BitVec.lt_def, hmask] at hlt
      have hpos := Nat.two_pow_pos (2 ^ i)
      rw [pow_zero, Nat.div_one]
      omega
  · change (s.count - _).toNat + _ = w + Nat.size (s.x >>> BitVec.toNat _).toNat
    rw [BitVec.toNat_sub, hbits, BitVec.toNat_ushiftRight, Nat.shiftRight_eq_div_pow, size_div_two_pow]
    split
    · next hlt =>
      rw [BitVec.lt_def, hmask] at hlt
      have hsize : 2 ^ i < Nat.size s.x.toNat := Nat.lt_size.mpr (by omega)
      have hpow : 2 ^ i ≤ 2 ^ 5 := Nat.pow_le_pow_right (by decide) (Nat.le_of_lt_succ hi)
      have hpos := Nat.two_pow_pos i
      have hsmall := s.count.isLt
      omega
    · have hsmall := s.count.isLt
      omega

lemma Leading.run {n : Nat} (hn : n ≤ 6) (h : Leading x0 n s) (hx : Nat.size x0 ≤ w) :
    Leading x0 0 (clzIterations n s) := by
  induction n generalizing s with
  | zero => exact h
  | succ n ih => exact ih (Nat.le_of_lt hn) (h.step hn hx)

lemma Trailing.step (h : Trailing x0 (i + 1) s) (hi : i < 6) (hw : w < 2 ^ 32) : Trailing x0 i (s.ctzIteration i) := by
  have hmask := mask_half h.mask
  have hbits := bits_toNat hi (s.x &&& s.mask >>> (1 <<< i) = 0)
  have hand : (s.x &&& s.mask >>> (1 <<< i)).toNat = s.x.toNat % 2 ^ 2 ^ i := by
    rw [BitVec.toNat_and, hmask, Nat.and_two_pow_sub_one_eq_mod]
  have hle := h.count_le
  have hcount : (s.ctzIteration i).count.toNat =
      s.count.toNat + if s.x &&& s.mask >>> (1 <<< i) = 0 then 2 ^ i else 0 := by
    change (s.count + _).toNat = _
    rw [BitVec.toNat_add, hbits, Nat.mod_eq_of_lt]
    rw [two_pow_succ] at hle
    split <;> omega
  have hshift : (s.ctzIteration i).x.toNat = s.x.toNat / 2 ^ if s.x &&& s.mask >>> (1 <<< i) = 0 then 2 ^ i else 0 := by
    change (s.x >>> BitVec.toNat _).toNat = _
    rw [hbits, BitVec.toNat_ushiftRight, Nat.shiftRight_eq_div_pow]
  rw [two_pow_succ] at hle
  have hpos := Nat.two_pow_pos i
  by_cases hzero : s.x &&& s.mask >>> (1 <<< i) = 0
  · rw [if_pos hzero] at hcount hshift
    have hmod : s.x.toNat % 2 ^ 2 ^ i = 0 := by
      rw [← hand, hzero]
      rfl
    have hmul := Nat.div_mul_cancel (Nat.dvd_of_mod_eq_zero hmod)
    refine ⟨hmask, fun hfocus => h.focus ?_, ?_, by omega⟩
    · rw [hshift] at hfocus
      rw [two_pow_succ, pow_add, ← hmul, Nat.mul_mod_mul_right, hfocus, Nat.zero_mul]
    · rw [hshift, hcount, Nat.add_comm, pow_add, ← Nat.mul_assoc, hmul]
      exact h.count
  · rw [if_neg hzero] at hcount hshift
    rw [pow_zero, Nat.div_one] at hshift
    refine ⟨hmask, fun hfocus => hzero (BitVec.eq_of_toNat_eq ?_), ?_, by omega⟩
    · rw [hand, ← hshift, hfocus]
      rfl
    · rw [hshift, hcount, Nat.add_zero]
      exact h.count

lemma Trailing.run {n : Nat} (hn : n ≤ 6) (h : Trailing x0 n s) (hw : w < 2 ^ 32) :
    Trailing x0 0 (ctzIterations n s) := by
  induction n generalizing s with
  | zero => exact h
  | succ n ih => exact ih (Nat.le_of_lt hn) (h.step hn hw)

end Scan

/-! ## The whole search -/

lemma clz_toNat (x : BitVec w) : x.clz.toNat = w - Nat.size x.toNat := by
  have hle : x.clz.toNat ≤ w := by
    simpa [BitVec.le_def] using BitVec.clz_le (x := x)
  have hsize : Nat.size x.toNat ≤ w - x.clz.toNat := Nat.size_le.mpr BitVec.toNat_lt_two_pow_sub_clz
  by_cases hx : x = 0#w
  · subst hx
    rw [BitVec.toNat_zero, Nat.size_zero, BitVec.clz_eq_iff_eq_zero.mpr rfl]
    simp
  · have hlt : x.clz.toNat < w := by
      simpa [BitVec.lt_def] using BitVec.clz_lt_iff_ne_zero.mpr hx
    have := Nat.lt_size.mpr (BitVec.two_pow_sub_clz_le_toNat_of_ne_zero (Nat.zero_lt_of_lt hlt) hx)
    omega

lemma ctz_toNat {x : BitVec w} {y n : Nat} (h : x.toNat = y * 2 ^ n) (hy : y % 2 ≠ 0) : x.ctz.toNat = n := by
  have hbit : ∀ k, x.getLsbD k = (decide (n ≤ k) && y.testBit (k - n)) := by
    intro k
    rw [BitVec.getLsbD, h, Nat.testBit_mul_two_pow]
  have hset : x.getLsbD n = true := by
    rw [hbit, Nat.sub_self, Nat.testBit_zero]
    simpa using hy
  have hne : x ≠ 0#w := by
    rintro rfl
    simp at hset
  rcases Nat.lt_trichotomy x.ctz.toNat n with hlt | heq | hgt
  · have htrue := BitVec.getLsbD_true_ctz_of_ne_zero hne
    rw [hbit, decide_eq_false (Nat.not_le.mpr hlt)] at htrue
    cases htrue
  · exact heq
  · rw [BitVec.getLsbD_false_of_lt_ctz hgt] at hset
    cases hset

lemma ctz_zero : (0#w).ctz.toNat = w := by
  rw [BitVec.ctz_eq_reverse_clz, BitVec.reverse_eq_zero_iff.mpr rfl, BitVec.clz_eq_iff_eq_zero.mpr rfl,
    BitVec.natCast_eq_ofNat, BitVec.toNat_ofNat, Nat.mod_two_pow_self]

namespace Scan

variable {x0 : Nat}

lemma Leading.size_x {s : Scan w} (h : Leading x0 0 s) : Nat.size s.x.toNat = s.x.toNat := by
  have hfocus : s.x.toNat < 2 := h.focus
  interval_cases s.x.toNat <;> rfl

/-- The result of `clz32`, and with wider words of `clz64`. -/
lemma Leading.result {s : Scan w} {x : BitVec w} (h : Leading x.toNat 0 s) : s.count.toNat - s.x.toNat =
    x.clz.toNat := by
  have hcount := h.count
  rw [h.size_x] at hcount
  rw [clz_toNat]
  omega

lemma Leading.x_le {s : Scan w} (h : Leading x0 0 s) (hx : Nat.size x0 ≤ w) : s.x.toNat ≤ s.count.toNat := by
  have hcount := h.count
  rw [h.size_x] at hcount
  omega

lemma Leading.start (n : Nat) (x : BitVec (2 ^ n)) (hn : 2 ^ n < 2 ^ 32) :
    Leading x.toNat n ⟨BitVec.allOnes _, x, BitVec.ofNat 32 (2 ^ n)⟩ := by
  refine ⟨BitVec.toNat_allOnes, x.isLt, ?_⟩
  rw [BitVec.toNat_ofNat, Nat.mod_eq_of_lt hn]

lemma Trailing.result {s : Scan w} {x : BitVec w} (h : Trailing x.toNat 0 s) : s.count.toNat = x.ctz.toNat :=
  (ctz_toNat h.count h.focus).symm

lemma Trailing.start (n : Nat) (x : BitVec (2 ^ n)) (hx : x ≠ 0) : Trailing x.toNat n ⟨BitVec.allOnes _, x, 0⟩ := by
  refine ⟨BitVec.toNat_allOnes, ?_, ?_, ?_⟩
  · rw [Nat.mod_eq_of_lt x.isLt]
    exact fun e => hx (BitVec.eq_of_toNat_eq e)
  · exact (Nat.mul_one _).symm
  · exact (Nat.zero_add _).le

end Scan

lemma clz32_toNat (x : BitVec 32) : (clz32 x).toNat = x.clz.toNat := by
  have h := (Scan.Leading.start 5 x (by decide)).run (by decide) (Nat.size_le.mpr x.isLt)
  have hle := h.x_le (Nat.size_le.mpr x.isLt)
  exact (BitVec.toNat_sub_of_le (BitVec.le_def.mpr hle)).trans h.result

lemma clz64_toNat (x : BitVec 64) : (clz64 x).toNat = x.clz.toNat := by
  have h := (Scan.Leading.start 6 x (by decide)).run (by decide) (Nat.size_le.mpr x.isLt)
  have hle := h.x_le (Nat.size_le.mpr x.isLt)
  rw [clz64, BitVec.toNat_setWidth, BitVec.toNat_sub_of_le, BitVec.toNat_setWidth_of_le (by decide)]
  · rw [← h.result]
    exact Nat.mod_eq_of_lt (lt_of_le_of_lt (Nat.sub_le _ _) (BitVec.isLt _))
  · rw [BitVec.le_def, BitVec.toNat_setWidth_of_le (by decide)]
    exact hle

lemma ctz32_toNat (x : BitVec 32) : (ctz32 x).toNat = x.ctz.toNat := by
  by_cases hx : x = 0
  · subst hx
    exact (show (ctz32 0).toNat = 32 by decide).trans ctz_zero.symm
  · rw [ctz32, if_neg hx]
    exact ((Scan.Trailing.start 5 x hx).run (by decide) (by decide)).result

lemma ctz64_toNat (x : BitVec 64) : (ctz64 x).toNat = x.ctz.toNat := by
  by_cases hx : x = 0
  · subst hx
    exact (show (ctz64 0).toNat = 64 by decide).trans ctz_zero.symm
  · rw [ctz64, if_neg hx]
    exact ((Scan.Trailing.start 6 x hx).run (by decide) (by decide)).result

/-- The routines count the zeros of every word; of 0 they are as many as it has bits. -/
theorem zeros_counted :
    (∀ x : BitVec 32, (clz32 x).toNat = x.clz.toNat ∧ (ctz32 x).toNat = x.ctz.toNat) ∧
      (∀ x : BitVec 64, (clz64 x).toNat = x.clz.toNat ∧ (ctz64 x).toNat = x.ctz.toNat) ∧
      clz32 0 = 32 ∧ ctz32 0 = 32 ∧ clz64 0 = 64 ∧ ctz64 0 = 64 := by
  refine ⟨fun x => ⟨clz32_toNat x, ctz32_toNat x⟩, fun x => ⟨clz64_toNat x, ctz64_toNat x⟩, ?_⟩
  decide

end NexsKernel
