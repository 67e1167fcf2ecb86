import NexsKernel.Machine.Zeros
import NexsKernel.Mcs.Queues

/-!
# The bits of the bitmap

The bits of a word after one of them has been cleared, and the bit that `clzl` finds.
-/

namespace NexsKernel.Mcs

lemma getLsbD_bitWord {i j : Nat} (hi : i < 64) : (bitWord i).getLsbD j = decide (i = j) := by
  unfold bitWord
  rw [BitVec.getLsbD_shiftLeft]
  grind

lemma getLsbD_clearBit {w : Word} {i j : Nat} (hi : i < 64) :
    (w &&& ~~~(bitWord i)).getLsbD j = true ↔ w.getLsbD j = true ∧ i ≠ j := by
  rw [BitVec.getLsbD_and, BitVec.getLsbD_not, getLsbD_bitWord hi]
  constructor
  · intro h
    simp only [Bool.and_eq_true, decide_eq_true_eq, Bool.not_eq_eq_eq_not, Bool.not_true,
      decide_eq_false_iff_not] at h
    exact ⟨h.1, h.2.2⟩
  · rintro ⟨hw, hij⟩
    simp [hw, hij, BitVec.lt_of_getLsbD hw]

/-- The position that `clzl` finds is that of the highest bit. -/
lemma clzl_spec {w : Word} (hw : w ≠ 0) : w.getLsbD (wordBits - 1 - clzl w) = true ∧
    ∀ i, w.getLsbD i = true → i ≤ wordBits - 1 - clzl w := by
  have hne : w.toNat ≠ 0 := fun e => hw (BitVec.eq_of_toNat_eq e)
  have hlt : w.toNat.log2 < 64 := (Nat.log2_lt hne).mpr w.isLt
  have e : wordBits - 1 - clzl w = w.toNat.log2 := by
    unfold clzl wordBits
    omega
  rw [e]
  refine ⟨Nat.testBit_log2 hne, fun i hi => ?_⟩
  by_contra h
  have hpow : w.toNat < 2 ^ i := (Nat.log2_lt hne).mp (Nat.lt_of_not_le h)
  have := Nat.testBit_lt_two_pow hpow
  rw [BitVec.getLsbD, this] at hi
  cases hi

end NexsKernel.Mcs
