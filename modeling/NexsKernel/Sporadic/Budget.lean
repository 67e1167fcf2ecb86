import NexsKernel.Sporadic.Serving

/-!
# Accounting for consumed time

What `commitTime`, `chargeBudget` and `checkBudget` do to the refill queue of the current scheduling
context. A context without a period is served round robin: it has exactly two refills, the head that is
being consumed and the tail that collects what has been consumed, and `refill_budget_check` is not used.

`Active` covers both kinds of contexts. It is the invariant between operations of a context that has
been configured with a given budget.
-/

namespace NexsKernel

namespace SchedContext

variable (sc : SchedContext) (cfg : TimerConfig) (ksCurTime : Nat)

/-- The refills from the head to the tail. -/
def queue : List Refill :=
  Ring.toList sc.refills sc.scRefillMax sc.scRefillHead sc.refillSize

/-- The two branches of `commitTime` that charge the consumed time. -/
def chargeConsumed (ksConsumed : Nat) : Except Halt SchedContext :=
  if sc.isRoundRobin then do
    assert (sc.refillSize == minRefills)
    let sc := sc.setRefillHead
      { sc.refillHead with rAmount := sub64 sc.refillHead.rAmount ksConsumed }
    return sc.setRefillTail { sc.refillTail with rAmount := add64 sc.refillTail.rAmount ksConsumed }
  else
    sc.refillBudgetCheck cfg ksConsumed

/-- The part of `commitTime` for a positive `ksConsumed`. -/
def commitConsumed (ksConsumed : Nat) : Except Halt SchedContext := do
  assert (sc.refillSufficient cfg ksConsumed)
  assert (sc.refillReady ksCurTime)
  let sc ← sc.chargeConsumed cfg ksConsumed
  assert (sc.refillSufficient cfg 0)
  assert (sc.refillReady ksCurTime)
  return { sc with scConsumed := add64 sc.scConsumed ksConsumed }

/-- `commitTime` on the current scheduling context, which is not the idle thread's. -/
def commitTime (ksConsumed : Nat) : Except Halt SchedContext :=
  if sc.scActive then
    if ksConsumed > 0 then
      sc.commitConsumed cfg ksCurTime ksConsumed
    else
      return { sc with scConsumed := add64 sc.scConsumed ksConsumed }
  else
    return sc

/-- The two branches of `chargeBudget`. -/
def chargeSlice (consumed : Nat) : Except Halt SchedContext :=
  if sc.isRoundRobin then do
    assert (sc.refillSize == minRefills)
    let head := sc.refillHead
    let tail := sc.refillTail
    let sc := sc.setRefillHead { sc.refillHead with rAmount := add64 head.rAmount tail.rAmount }
    return sc.setRefillTail { sc.refillTail with rAmount := 0 }
  else
    sc.refillBudgetCheck cfg consumed

/-- `chargeBudget` on the current scheduling context, which is not the idle thread's. -/
def chargeBudget (consumed : Nat) : Except Halt SchedContext := do
  let sc ← sc.chargeSlice cfg consumed
  assert (decide (sc.refillHead.rAmount ≥ cfg.minBudget))
  return { sc with scConsumed := add64 sc.scConsumed consumed }

/-- `checkBudget`; `expired` is `isCurDomainExpired()`. -/
def checkBudget (ksConsumed : Nat) (expired : Bool) : Except Halt (Bool × SchedContext) := do
  assert (sc.refillReady ksCurTime)
  if sc.refillSufficient cfg ksConsumed then
    return (!expired, sc)
  else
    let sc ← sc.chargeBudget cfg ksConsumed
    return (false, sc)

end SchedContext

open SchedContext

/-- The invariant of a round-robin context. -/
structure RoundRobin (cfg : Timer) (budget now : Nat) (sc : SchedContext) (h t : Refill) : Prop where
  rep : Rep sc [h, t]
  period_zero : sc.scPeriod = 0
  max_two : sc.scRefillMax = minRefills
  sum : h.rAmount + t.rAmount = budget
  budget_le : budget ≤ cfg.maxPeriodTicks
  sufficient : cfg.minBudget ≤ h.rAmount
  released : h.rTime ≤ now
  head_le : h.rTime ≤ cfg.maxReleaseTime + cfg.maxPeriodTicks
  tail_time : t.rTime = h.rTime

/-- The invariant of a configured scheduling context at time `now`, in an object that has room for `max`
refills. -/
structure Active (cfg : Timer) (max budget now : Nat) (sc : SchedContext) : Prop where
  max_le : sc.scRefillMax ≤ max
  kind : (∃ h q, Settled cfg budget sc (h :: q)) ∨ ∃ h t, RoundRobin cfg budget now sc h t

/-- Fields other than the queue may change freely. -/
structure SameQueue (sc sc' : SchedContext) : Prop where
  scPeriod : sc'.scPeriod = sc.scPeriod
  scRefillMax : sc'.scRefillMax = sc.scRefillMax
  scRefillHead : sc'.scRefillHead = sc.scRefillHead
  scRefillTail : sc'.scRefillTail = sc.scRefillTail
  refills : sc'.refills = sc.refills

lemma Rep.sameQueue {sc sc' : SchedContext} {q} (rep : Rep sc q) (e : SameQueue sc sc') : Rep sc' q := by
  refine ⟨?_, ?_, ?_, ?_⟩
  · rw [e.scRefillHead, e.scRefillMax]
    exact rep.head_lt
  · rw [e.scRefillTail, e.scRefillMax]
    exact rep.tail_lt
  · rw [e.scRefillMax]
    exact rep.max_lt
  · have := rep.queue_eq
    unfold refillSize at this ⊢
    rw [e.scRefillHead, e.scRefillTail, e.scRefillMax, e.refills]
    exact this

lemma Settled.sameQueue {cfg budget} {sc sc' : SchedContext} {q} (s : Settled cfg budget sc q)
    (e : SameQueue sc sc') : Settled cfg budget sc' q := by
  refine ⟨⟨s.rep.sameQueue e, ?_, ?_, ?_, ?_, s.minBudget_le, s.head_le⟩, s.sufficient⟩
  · exact e.scPeriod.symm ▸ s.valid
  · exact e.scPeriod.symm ▸ s.budget_lt
  · exact e.scPeriod.symm ▸ s.period_le
  · exact e.scRefillMax.symm ▸ s.two_le_max

lemma RoundRobin.sameQueue {cfg budget now} {sc sc' : SchedContext} {h t}
    (r : RoundRobin cfg budget now sc h t) (e : SameQueue sc sc') :
    RoundRobin cfg budget now sc' h t :=
  { r with
    rep := r.rep.sameQueue e
    period_zero := e.scPeriod.trans r.period_zero
    max_two := e.scRefillMax.trans r.max_two }

lemma RoundRobin.isRoundRobin {cfg budget now sc h t} (r : RoundRobin cfg budget now sc h t) :
    sc.isRoundRobin = true := by
  simp [SchedContext.isRoundRobin, r.period_zero]

namespace Active

variable {cfg : Timer} {max budget now : Nat} {sc sc' : SchedContext}

lemma sameQueue (a : Active cfg max budget now sc) (e : SameQueue sc sc') :
    Active cfg max budget now sc' := by
  refine ⟨e.scRefillMax.symm ▸ a.max_le, ?_⟩
  rcases a.kind with ⟨h, q, s⟩ | ⟨h, t, r⟩
  · exact .inl ⟨h, q, s.sameQueue e⟩
  · exact .inr ⟨h, t, r.sameQueue e⟩

/-- Time passes. -/
lemma mono {now'} (a : Active cfg max budget now sc) (hle : now ≤ now') :
    Active cfg max budget now' sc := by
  refine ⟨a.max_le, ?_⟩
  rcases a.kind with s | ⟨h, t, r⟩
  · exact .inl s
  · exact .inr ⟨h, t, { r with released := r.released.trans hle }⟩

/-- A step of a context with a period. -/
lemma of_settled (a : Active cfg max budget now sc) (f : Frame sc sc') {h q}
    (s : Settled cfg budget sc' (h :: q)) : Active cfg max budget now sc' :=
  ⟨f.scRefillMax.symm ▸ a.max_le, .inl ⟨h, q, s⟩⟩

/-- A step of a round-robin context. -/
lemma of_roundRobin (a : Active cfg max budget now sc) {h t h' t'}
    (r : RoundRobin cfg budget now sc h t) (r' : RoundRobin cfg budget now sc' h' t') :
    Active cfg max budget now sc' :=
  ⟨(r'.max_two.trans r.max_two.symm) ▸ a.max_le, .inr ⟨h', t', r'⟩⟩

/-- The buffer of a configured context holds a queue with a sufficient head. -/
lemma exists_rep (a : Active cfg max budget now sc) :
    ∃ h q, Rep sc (h :: q) ∧ cfg.minBudget ≤ h.rAmount ∧
      h.rTime ≤ cfg.maxReleaseTime + cfg.maxPeriodTicks := by
  rcases a.kind with ⟨h, q, s⟩ | ⟨h, t, r⟩
  · exact ⟨h, q, s.rep, s.sufficient h (by simp), s.head_le h (by simp)⟩
  · exact ⟨h, [t], r.rep, r.sufficient, r.head_le⟩

lemma scActive (a : Active cfg max budget now sc) : sc.scActive = true := by
  obtain ⟨h, q, rep, -⟩ := a.exists_rep
  have := rep.head_lt
  unfold SchedContext.scActive
  rw [decide_eq_true_eq]
  omega

end Active

namespace RoundRobin

variable {cfg : Timer} {budget now : Nat} {sc : SchedContext} {h t : Refill}

/-- Moving an amount from one refill to the other. -/
lemma setAmounts (r : RoundRobin cfg budget now sc h t) {a b} (hsum : a + b = budget)
    (ha : cfg.minBudget ≤ a) :
    RoundRobin cfg budget now
      ((sc.setRefillHead { h with rAmount := a }).setRefillTail { t with rAmount := b })
      { h with rAmount := a } { t with rAmount := b } := by
  have rep1 := r.rep.setRefillHead { h with rAmount := a }
  have rep2 := Rep.setRefillTail (q := [{ h with rAmount := a }]) rep1 { t with rAmount := b }
  exact ⟨rep2, r.period_zero, r.max_two, hsum, r.budget_le, ha, r.released, r.head_le, r.tail_time⟩

lemma refillTail_setHead (r : RoundRobin cfg budget now sc h t) (a) :
    (sc.setRefillHead a).refillTail = t :=
  Rep.refillTail_eq (q := [a]) (r.rep.setRefillHead a)

lemma refillSize_eq (r : RoundRobin cfg budget now sc h t) : sc.refillSize = minRefills :=
  r.rep.size_eq

/-- The round-robin branch of `commitTime`. -/
lemma chargeConsumed {consumed} (r : RoundRobin cfg budget now sc h t)
    (hle : consumed + cfg.minBudget ≤ h.rAmount) :
    ∃ sc' h' t', sc.chargeConsumed cfg.toTimerConfig consumed = .ok sc' ∧
      RoundRobin cfg budget now sc' h' t' := by
  have hsum := r.sum
  have hb := r.budget_le
  have hmax := cfg.eight_maxPeriodTicks_le
  unfold uint64Max at hmax
  refine ⟨_, _, _, ?_, r.setAmounts (a := h.rAmount - consumed) (b := t.rAmount + consumed)
    (by omega) (by omega)⟩
  unfold SchedContext.chargeConsumed
  have hsub : sub64 h.rAmount consumed = h.rAmount - consumed := sub64_eq (by omega) (by omega)
  have hadd : add64 t.rAmount consumed = t.rAmount + consumed := add64_eq (by omega)
  rw [if_pos r.isRoundRobin, assert_ok (by simp [r.refillSize_eq])]
  simp only [r.rep.refillHead_eq, hsub, r.refillTail_setHead, hadd]
  rfl

/-- The round-robin branch of `chargeBudget`. -/
lemma chargeSlice (r : RoundRobin cfg budget now sc h t) (consumed) :
    ∃ sc' h' t', sc.chargeSlice cfg.toTimerConfig consumed = .ok sc' ∧
      RoundRobin cfg budget now sc' h' t' := by
  have hsum := r.sum
  have hb := r.budget_le
  have hs := r.sufficient
  have hmax := cfg.eight_maxPeriodTicks_le
  unfold uint64Max at hmax
  refine ⟨_, _, _, ?_, r.setAmounts (a := h.rAmount + t.rAmount) (b := 0) (by omega) (by omega)⟩
  unfold SchedContext.chargeSlice
  have htail : sc.refillTail = t := Rep.refillTail_eq (q := [h]) r.rep
  have hadd : add64 h.rAmount t.rAmount = h.rAmount + t.rAmount := add64_eq (by omega)
  rw [if_pos r.isRoundRobin, assert_ok (by simp [r.refillSize_eq])]
  simp only [r.rep.refillHead_eq, htail, hadd, r.refillTail_setHead]
  rfl

end RoundRobin

/-- What `commitTime` expects of its callers: the head covers what was consumed, since its release. -/
structure Committable (cfg : Timer) (now : Nat) (sc : SchedContext) (consumed : Nat) : Prop where
  sufficient : sc.refillSufficient cfg.toTimerConfig consumed = true
  elapsed : sc.isRoundRobin = false → sc.refillHead.rTime + consumed ≤ now

lemma Committable.le {cfg now sc consumed h q} (c : Committable cfg now sc consumed) (rep : Rep sc (h :: q)) :
    consumed + cfg.minBudget ≤ h.rAmount := by
  have hs := c.sufficient
  have hm := cfg.minBudget_pos
  simp only [refillSufficient, refillCapacity, rep.refillHead_eq, decide_eq_true_eq] at hs
  split at hs <;> omega

namespace Active

variable {cfg : Timer} {max budget now : Nat} {sc : SchedContext}

/-- `chargeBudget` returns, whatever amount is charged. -/
lemma chargeBudget {consumed} (a : Active cfg max budget now sc) (hc : consumed < 2 ^ 64) :
    ∃ sc', sc.chargeBudget cfg.toTimerConfig consumed = .ok sc' ∧ Active cfg max budget now sc' := by
  obtain ⟨sc1, e1, a1⟩ : ∃ sc1, sc.chargeSlice cfg.toTimerConfig consumed = .ok sc1 ∧
      Active cfg max budget now sc1 := by
    rcases a.kind with ⟨h, q, s⟩ | ⟨h, t, r⟩
    · obtain ⟨sc1, h1, q1, e1, s1, f1, -⟩ := s.refillBudgetCheck hc
      refine ⟨sc1, ?_, a.of_settled f1 s1⟩
      unfold SchedContext.chargeSlice
      rw [if_neg (by simp [s.not_isRoundRobin])]
      exact e1
    · obtain ⟨sc1, h1, t1, e1, r1⟩ := r.chargeSlice consumed
      exact ⟨sc1, e1, a.of_roundRobin r r1⟩
  obtain ⟨h1, q1, rep1, hs, -⟩ := a1.exists_rep
  refine ⟨{ sc1 with scConsumed := add64 sc1.scConsumed consumed }, ?_,
    a1.sameQueue ⟨rfl, rfl, rfl, rfl, rfl⟩⟩
  unfold SchedContext.chargeBudget
  rw [e1]
  show (do assert (decide (sc1.refillHead.rAmount ≥ cfg.minBudget))
           return { sc1 with scConsumed := add64 sc1.scConsumed consumed }) = _
  rw [rep1.refillHead_eq, assert_ok (by simpa using hs)]
  rfl

/-- A context that can be committed to is ready. -/
lemma refillReady {consumed} (a : Active cfg max budget now sc)
    (c : Committable cfg now sc consumed) : sc.refillReady now = true := by
  rcases a.kind with ⟨h, q, s⟩ | ⟨h, t, r⟩
  · have hel := c.elapsed s.not_isRoundRobin
    simp only [SchedContext.refillReady, decide_eq_true_eq]
    omega
  · simpa only [SchedContext.refillReady, r.rep.refillHead_eq, decide_eq_true_eq] using r.released

/-- The charge in `commitTime`, and the head it leaves. -/
lemma chargeConsumed {consumed} (a : Active cfg max budget now sc) (c : Committable cfg now sc consumed)
    (hc : consumed < 2 ^ 64) :
    ∃ sc', sc.chargeConsumed cfg.toTimerConfig consumed = .ok sc' ∧ Active cfg max budget now sc' ∧
      sc'.refillReady now = true := by
  rcases a.kind with ⟨h, q, s⟩ | ⟨h, t, r⟩
  · obtain ⟨sc1, h1, q1, e1, s1, f1, ht⟩ := s.refillBudgetCheck hc
    have hle := ht (c.le s.rep)
    have hel := c.elapsed s.not_isRoundRobin
    rw [s.rep.refillHead_eq] at hel
    refine ⟨sc1, ?_, a.of_settled f1 s1, ?_⟩
    · unfold SchedContext.chargeConsumed
      rw [if_neg (by simp [s.not_isRoundRobin])]
      exact e1
    · simp only [SchedContext.refillReady, s1.rep.refillHead_eq, decide_eq_true_eq]
      omega
  · obtain ⟨sc1, h1, t1, e1, r1⟩ := r.chargeConsumed (c.le r.rep)
    refine ⟨sc1, e1, a.of_roundRobin r r1, ?_⟩
    · simpa only [SchedContext.refillReady, r1.rep.refillHead_eq, decide_eq_true_eq] using r1.released

/-- `commitTime` returns when its callers' promise holds. -/
lemma commitTime {consumed} (a : Active cfg max budget now sc) (c : Committable cfg now sc consumed)
    (hc : consumed < 2 ^ 64) :
    ∃ sc', sc.commitTime cfg.toTimerConfig now consumed = .ok sc' ∧ Active cfg max budget now sc' := by
  unfold SchedContext.commitTime
  rw [if_pos a.scActive]
  split
  · obtain ⟨sc1, e1, a1, hr1⟩ := a.chargeConsumed c hc
    obtain ⟨h1, q1, rep1, hs, -⟩ := a1.exists_rep
    refine ⟨{ sc1 with scConsumed := add64 sc1.scConsumed consumed }, ?_,
      a1.sameQueue ⟨rfl, rfl, rfl, rfl, rfl⟩⟩
    unfold commitConsumed
    rw [assert_ok c.sufficient, assert_ok (a.refillReady c), e1]
    show (do assert (sc1.refillSufficient cfg.toTimerConfig 0)
             assert (sc1.refillReady now)
             return { sc1 with scConsumed := add64 sc1.scConsumed consumed }) = _
    rw [rep1.refillSufficient_zero, assert_ok (by simpa using hs), assert_ok hr1]
    rfl
  · exact ⟨_, rfl, a.sameQueue ⟨rfl, rfl, rfl, rfl, rfl⟩⟩

end Active

end NexsKernel
