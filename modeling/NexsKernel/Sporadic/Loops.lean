import NexsKernel.Sporadic.Run

/-!
# The loops of the sporadic server end

`refill_pop_head` on a queue with a single refill and `refill_add_tail` on a full one fail an assertion, and so does
whatever calls them (`refillPopHead_single`, `refillAddTail_full`). On a queue with the invariant none of this happens:
the loops return, `handle_overrun` after at most as many rounds as there are ticks to charge.
-/

namespace NexsKernel

namespace SchedContext

variable {sc : SchedContext}

lemma refillPopHead_single (h : sc.refillSingle = true) : sc.refillPopHead = .error .assertion := by
  unfold refillPopHead
  rw [h]
  rfl

lemma refillAddTail_full (h : sc.scRefillMax ≤ sc.refillSize) (refill) :
    sc.refillAddTail refill = .error .assertion := by
  unfold refillAddTail
  rw [decide_eq_false (Nat.not_lt_of_le h)]
  rfl

end SchedContext

open SchedContext

/-- On a queue with the invariant every loop returns. -/
theorem loops_return {cfg : Timer} {max budget now : Nat} {sc : SchedContext} (a : Active cfg max budget now sc)
    (hnow : now < cfg.maxReleaseTime) :
    (∃ sc', sc.refillUnblockCheck cfg.toTimerConfig now = .ok sc') ∧
      (sc.isRoundRobin = false → ∀ usage < 2 ^ 64,
        (∃ sc', sc.refillBudgetCheck cfg.toTimerConfig usage = .ok sc') ∧
        ∀ fuel > usage, ∃ usage' sc', handleOverrun cfg.toTimerConfig fuel sc usage = .ok (usage', sc') ∧
          (sc'.refillHead.rTime < cfg.maxReleaseTime → usage' < sc'.refillHead.rAmount)) := by
  rcases a.kind with ⟨h, q, s⟩ | ⟨h, t, r⟩
  · obtain ⟨sc1, -, -, e1, -⟩ := s.refillUnblockCheck hnow
    refine ⟨⟨sc1, e1⟩, fun _ usage husage => ?_⟩
    obtain ⟨sc2, -, -, e2, -⟩ := s.refillBudgetCheck husage
    refine ⟨⟨sc2, e2⟩, fun fuel hfuel => ?_⟩
    obtain ⟨usage', sc3, h', q', e3, s3, -, -, hd, -⟩ := s.toServing.handleOverrun s.timely husage hfuel
    refine ⟨usage', sc3, e3, ?_⟩
    rw [s3.rep.refillHead_eq]
    exact hd
  · -- the round-robin context has nothing to merge
    have hr := r.isRoundRobin
    refine ⟨⟨sc, ?_⟩, fun h => by rw [hr] at h; cases h⟩
    unfold SchedContext.refillUnblockCheck
    rw [if_pos hr]
    rfl

/-- A budget of 62500 ticks every 625000, with room for six refills. -/
theorem loops_return_qemu :
    ∃ sc : SchedContext, sc.scRefillMax = 6 ∧ (∃ sc', sc.refillUnblockCheck qemuTimer.toTimerConfig 0 = .ok sc') ∧
      ∀ usage < 2 ^ 64, ∃ sc', sc.refillBudgetCheck qemuTimer.toTimerConfig usage = .ok sc' := by
  have hnow : 0 < qemuTimer.maxReleaseTime := by decide
  obtain ⟨sc, h, -, s, hm⟩ : ∃ sc h, Refills.newSchedContext.refillNew qemuTimer.toTimerConfig 0 6 62500
    625000 = .ok sc ∧ Settled qemuTimer 62500 sc [h] ∧ sc.scRefillMax = 6 :=
    refillNew_settled _ (by decide) (by decide) (by decide) (by decide) (by decide) hnow
  obtain ⟨hunblock, hcheck⟩ := loops_return (⟨hm.le, .inl ⟨h, [], s⟩⟩ : Active qemuTimer 6 62500 0 sc) hnow
  exact ⟨sc, hm, hunblock, fun usage husage => (hcheck s.not_isRoundRobin usage husage).1⟩

end NexsKernel
