import NexsKernel.Sporadic.Clock

/-!
# Where the clock can wrap

In every run the consumed time of a context and what is still to be charged are no more than the time that has passed.
With this and the invariant of the refill queue no operation wraps but `setNextInterrupt`, and that one exactly when the
end of the domain does not fit into a word, or the timer's precision is more than the time of the next interrupt.
-/

namespace NexsKernel.Clock

open SchedContext

/-- The invariant of runs. -/
structure Inv (p : PlatformTimer) (sizeBits : Nat) (s : Node) : Prop where
  refills : Refills.Inv p.toTimer sizeBits s.refills
  accounted : s.sc.scConsumed + s.ksConsumed ≤ s.ksCurTime
  domain_le : s.ksDomainTime ≤ dschedMaxDuration

/-- When `setNextInterrupt` does not wrap. -/
def InterruptFits (p : PlatformTimer) (numDomains : Nat) (s : Node) (rlqHead : Option Nat) : Prop :=
  p.getTimerPrecision ≤ s.ksCurTime + s.sc.refillHead.rAmount ∧
    (1 < numDomains →
      s.ksCurTime + s.ksDomainTime < 2 ^ 64 ∧ p.getTimerPrecision ≤ s.ksCurTime + s.ksDomainTime) ∧
    ∀ time ∈ rlqHead, p.getTimerPrecision ≤ time

/-- The operations that do not wrap. -/
def Fits (p : PlatformTimer) (numDomains : Nat) (s : Node) : Op → Prop
  | .setNextInterrupt rlqHead => InterruptFits p numDomains s rlqHead
  | _ => True

lemma maxReleaseTime_lt (p : PlatformTimer) : p.maxReleaseTime + 5 * p.maxPeriodTicks < 2 ^ 64 := by
  have h := p.maxReleaseTime_add
  unfold uint64Max at h
  omega

section Consumed

variable {p : PlatformTimer} {max budget now : Nat} {sc sc' : SchedContext}

lemma chargeBudget_scConsumed {consumed} (a : Active p.toTimer max budget now sc) (hc : consumed < 2 ^ 64)
    (e : sc.chargeBudget p.toTimerConfig consumed = .ok sc') : sc'.scConsumed = add64 sc.scConsumed consumed := by
  obtain ⟨sc1, e1, e⟩ := bind_eq_ok.mp e
  obtain ⟨-, -, e⟩ := bind_eq_ok.mp e
  obtain rfl := Except.ok.inj e
  exact congrArg (add64 · consumed) (a.chargeSlice_scConsumed hc e1)

lemma chargeConsumed_scConsumed {consumed} (a : Active p.toTimer max budget now sc) (hc : consumed < 2 ^ 64)
    (e : sc.chargeConsumed p.toTimerConfig consumed = .ok sc') : sc'.scConsumed = sc.scConsumed := by
  unfold SchedContext.chargeConsumed at e
  rcases a.kind with ⟨h, q, s⟩ | ⟨h, t, r⟩
  · rw [s.not_isRoundRobin, if_neg Bool.false_ne_true] at e
    obtain ⟨sc1, h1, q1, e1, -, f, -⟩ := s.refillBudgetCheck hc
    obtain rfl := Except.ok.inj (e1.symm.trans e)
    exact f.scConsumed
  · rw [if_pos r.isRoundRobin] at e
    obtain ⟨-, -, e⟩ := bind_eq_ok.mp e
    obtain rfl := Except.ok.inj e
    rfl

lemma commitTime_scConsumed {consumed} (a : Active p.toTimer max budget now sc) (hc : consumed < 2 ^ 64)
    (e : sc.commitTime p.toTimerConfig now consumed = .ok sc') : sc'.scConsumed = add64 sc.scConsumed consumed := by
  unfold SchedContext.commitTime at e
  rw [if_pos a.scActive] at e
  split at e
  · obtain ⟨-, -, e⟩ := bind_eq_ok.mp e
    obtain ⟨-, -, e⟩ := bind_eq_ok.mp e
    obtain ⟨sc1, e1, e⟩ := bind_eq_ok.mp e
    obtain ⟨-, -, e⟩ := bind_eq_ok.mp e
    obtain ⟨-, -, e⟩ := bind_eq_ok.mp e
    obtain rfl := Except.ok.inj e
    exact congrArg (add64 · consumed) (chargeConsumed_scConsumed a hc e1)
  · obtain rfl := Except.ok.inj e
    rfl

lemma refillAddTail_scConsumed {r} (e : sc.refillAddTail r = .ok sc') : sc'.scConsumed = sc.scConsumed := by
  obtain ⟨-, -, e⟩ := bind_eq_ok.mp e
  obtain ⟨-, -, e⟩ := bind_eq_ok.mp e
  obtain rfl := Except.ok.inj e
  rfl

lemma maybeAddEmptyTail_scConsumed (e : sc.maybeAddEmptyTail = .ok sc') : sc'.scConsumed = sc.scConsumed := by
  unfold SchedContext.maybeAddEmptyTail at e
  split at e
  · obtain ⟨sc1, e1, e⟩ := bind_eq_ok.mp e
    obtain ⟨-, -, e⟩ := bind_eq_ok.mp e
    obtain rfl := Except.ok.inj e
    exact refillAddTail_scConsumed e1
  · obtain rfl := Except.ok.inj e
    rfl

lemma refillNew_scConsumed {cfg : TimerConfig} {maxRefills budget period}
    (e : sc.refillNew cfg now maxRefills budget period = .ok sc') : sc'.scConsumed = sc.scConsumed := by
  obtain ⟨-, -, e⟩ := bind_eq_ok.mp e
  have h := maybeAddEmptyTail_scConsumed e
  exact h

lemma releaseHead_scConsumed (sc : SchedContext) (now) : (sc.releaseHead now).scConsumed = sc.scConsumed := by
  unfold SchedContext.releaseHead
  split <;> rfl

lemma refillUpdate_scConsumed {maxRefills budget period}
    (e : sc.refillUpdate now period budget maxRefills = .ok sc') : sc'.scConsumed = sc.scConsumed := by
  obtain ⟨-, -, e⟩ := bind_eq_ok.mp e
  unfold SchedContext.trimOrSchedule at e
  have h := releaseHead_scConsumed (sc.truncateToHead period maxRefills) now
  split at e
  · exact (maybeAddEmptyTail_scConsumed e).trans h
  · exact (refillAddTail_scConsumed e).trans h

lemma refillConfigure_scConsumed {cfg : TimerConfig} {runnable args}
    (e : sc.refillConfigure cfg now runnable args = .ok sc') : sc'.scConsumed = sc.scConsumed := by
  unfold SchedContext.refillConfigure at e
  split at e
  · exact refillNew_scConsumed e
  · split at e
    · exact refillUpdate_scConsumed e
    · exact refillNew_scConsumed e

end Consumed

/-- `refill_new` and `refill_update` as `SchedControl_ConfigureFlags` calls them. -/
lemma checked_refillConfigure {p : PlatformTimer} {sizeBits now sc} {args : ConfigureFlags} (runnable : Bool)
    (ok : Accepted p.toTimer sizeBits args) (hbits : SchedContextBits sizeBits) (hnow : now < p.maxReleaseTime)
    (hsc : sc.scActive = true → ∃ max budget, Active p.toTimer max budget now sc) :
    Checked.refillConfigure p.toTimerConfig now sc runnable args =
      sc.refillConfigure p.toTimerConfig now runnable args := by
  obtain ⟨h1, h2⟩ := hbits.refillAbsoluteMax
  have h3 := ok.two_le_max
  have h4 := ok.max_le
  have h5 := ok.budget_le
  have h6 := ok.period_le
  have h7 := maxReleaseTime_lt p
  unfold minRefills at h3
  unfold Checked.refillConfigure SchedContext.refillConfigure
  split
  · exact checked_refillNew sc (by decide) (by decide)
  · split
    · rename_i hact
      rw [Bool.and_eq_true] at hact
      obtain ⟨max, budget, a⟩ := hsc hact.1
      obtain ⟨h, q, rep, -, hh⟩ := a.exists_rep
      exact checked_refillUpdate rep (by omega) (by omega) (by omega) (by omega) (by omega)
    · exact checked_refillNew sc (by omega) (by omega)

namespace Inv

variable {p : PlatformTimer} {numDomains sizeBits : Nat} {s : Node}

lemma now_lt (inv : Inv p sizeBits s) : s.ksCurTime < p.maxReleaseTime :=
  inv.refills.now_lt

/-- A configured context. -/
lemma exists_active (inv : Inv p sizeBits s) (ha : s.sc.scActive = true) :
    ∃ budget, s.budget = some budget ∧ Active p.toTimer (refillAbsoluteMax sizeBits) budget s.ksCurTime s.sc :=
  inv.refills.exists_budget ha

/-- A new queue with the same budget. -/
lemma of_active {sc' budget ksConsumed} (inv : Inv p sizeBits s) (hb : s.budget = some budget)
    (a : Active p.toTimer (refillAbsoluteMax sizeBits) budget s.ksCurTime sc')
    (hc : sc'.scConsumed + ksConsumed ≤ s.ksCurTime) : Inv p sizeBits { s with sc := sc', ksConsumed } :=
  ⟨inv.refills.of_active hb a, hc, inv.domain_le⟩

/-- The head of a configured context ends before the word does, whenever it is started. -/
lemma add_head_lt (inv : Inv p sizeBits s) (ha : s.sc.scActive = true) :
    s.ksCurTime + s.sc.refillHead.rAmount < 2 ^ 64 := by
  have h1 := inv.now_lt
  have h2 := maxReleaseTime_lt p
  obtain ⟨budget, -, a⟩ := inv.exists_active ha
  rcases a.kind with ⟨h, q, st⟩ | ⟨h, t, r⟩
  · have := st.amount_lt (r := h) (by simp)
    rw [st.rep.refillHead_eq]
    omega
  · have h3 := r.sum
    have h4 := r.budget_le
    rw [r.rep.refillHead_eq]
    omega

lemma updateTimestamp {now} (inv : Inv p sizeBits s) (hle : s.ksCurTime ≤ now) (hlt : now < p.maxReleaseTime) :
    ∃ s', s.updateTimestamp p numDomains now = .ok s' ∧ Checked.updateTimestamp p numDomains s now = .ok s' ∧
      Inv p sizeBits s' := by
  have h1 := maxReleaseTime_lt p
  have h2 := inv.accounted
  have h3 := p.minBudget_le
  have hadd : s.ksConsumed + (now - s.ksCurTime) < 2 ^ 64 := by omega
  have hmin : now - s.ksCurTime + p.minBudget < 2 ^ 64 := by omega
  -- whatever is left of the domain
  have keeps : ∀ ksDomainTime ≤ dschedMaxDuration, Inv p sizeBits
      { s with ksCurTime := now, ksConsumed := s.ksConsumed + (now - s.ksCurTime), ksDomainTime } := by
    intro ksDomainTime hdom
    refine ⟨⟨hlt, inv.refills.inactive, fun budget e => (inv.refills.active budget e).mono hle⟩, ?_, hdom⟩
    dsimp only
    omega
  have hdom := inv.domain_le
  unfold Node.updateTimestamp Checked.updateTimestamp
  rw [Checked.maxReleaseTime_ok, Checked.ok_bind, assert_ok (decide_eq_true hlt), Checked.ok_bind, Checked.ok_bind,
    Checked.sub_ok hle, sub64_eq hle (by omega), Checked.ok_bind, Checked.minBudget_ok]
  simp only [Checked.add_ok hadd, add64_eq hadd, Checked.add_ok hmin, add64_eq hmin, Checked.ok_bind]
  split
  · split
    · exact ⟨_, rfl, rfl, keeps 0 (Nat.zero_le _)⟩
    · rename_i hleft
      have hle' : now - s.ksCurTime ≤ s.ksDomainTime := by omega
      have hword : s.ksDomainTime < 2 ^ 64 := hdom.trans_lt (by decide)
      rw [Checked.sub_ok hle', sub64_eq hle' hword]
      exact ⟨_, rfl, rfl, keeps _ ((Nat.sub_le _ _).trans hdom)⟩
  · exact ⟨_, rfl, rfl, keeps _ hdom⟩

lemma checkBudget (inv : Inv p sizeBits s) (ha : s.sc.scActive = true) (hr : s.sc.refillReady s.ksCurTime = true) :
    ∃ s', s.checkBudget p numDomains = .ok s' ∧ Checked.checkBudgetNode p numDomains s = .ok s' ∧
      Inv p sizeBits s' := by
  have h1 := maxReleaseTime_lt p
  have h2 := inv.now_lt
  have h3 := inv.accounted
  obtain ⟨budget, hb, a⟩ := inv.exists_active ha
  have hc : s.sc.scConsumed + s.ksConsumed < 2 ^ 64 := by omega
  have hlt : s.ksConsumed < 2 ^ 64 := by omega
  unfold Node.checkBudget Checked.checkBudgetNode
  rw [a.checked_checkBudget hc, checked_refillSufficient]
  by_cases hs : s.sc.refillSufficient p.toTimerConfig s.ksConsumed = true
  · have e : s.sc.checkBudget p.toTimerConfig s.ksCurTime s.ksConsumed (s.isCurDomainExpired numDomains) =
        .ok (!s.isCurDomainExpired numDomains, s.sc) := by
      unfold SchedContext.checkBudget
      rw [assert_ok hr, Checked.ok_bind, if_pos hs]
      rfl
    rw [e]
    simp only [Checked.ok_bind, if_pos hs]
    exact ⟨s, rfl, rfl, inv⟩
  · obtain ⟨sc', e', a'⟩ := a.chargeBudget hlt
    have hconsumed := chargeBudget_scConsumed a hlt e'
    rw [add64_eq hc] at hconsumed
    have e : s.sc.checkBudget p.toTimerConfig s.ksCurTime s.ksConsumed (s.isCurDomainExpired numDomains) =
        .ok (false, sc') := by
      unfold SchedContext.checkBudget
      rw [assert_ok hr, Checked.ok_bind, if_neg hs, e']
      rfl
    rw [e]
    simp only [Checked.ok_bind, if_neg hs]
    exact ⟨_, rfl, rfl, inv.of_active hb a' (by omega)⟩

lemma commitTime (inv : Inv p sizeBits s)
    (hc : s.sc.scActive = true → Committable p.toTimer s.ksCurTime s.sc s.ksConsumed) :
    ∃ s', s.commitTime p = .ok s' ∧ Inv p sizeBits s' := by
  have h1 := maxReleaseTime_lt p
  have h2 := inv.now_lt
  have h3 := inv.accounted
  unfold Node.commitTime
  by_cases ha : s.sc.scActive = true
  · obtain ⟨budget, hb, a⟩ := inv.exists_active ha
    obtain ⟨sc', e, a'⟩ := a.commitTime (hc ha) (by omega)
    have hconsumed := commitTime_scConsumed a (by omega) e
    rw [add64_eq (by omega)] at hconsumed
    rw [e]
    exact ⟨_, rfl, inv.of_active hb a' (by omega)⟩
  · unfold SchedContext.commitTime
    rw [if_neg ha]
    exact ⟨_, rfl, inv.refills, (by dsimp only; omega), inv.domain_le⟩

lemma handleYield (inv : Inv p sizeBits s) (ha : s.sc.scActive = true) :
    ∃ s', s.handleYield p = .ok s' ∧ Checked.handleYield p s = .ok s' ∧ Inv p sizeBits s' := by
  have h1 := maxReleaseTime_lt p
  have h2 := inv.now_lt
  have h3 := inv.accounted
  have h4 := inv.add_head_lt ha
  obtain ⟨budget, hb, a⟩ := inv.exists_active ha
  have hc : s.sc.scConsumed + s.ksConsumed < 2 ^ 64 := by omega
  obtain ⟨sc', e, a'⟩ := a.chargeBudget (by omega : s.sc.refillHead.rAmount < 2 ^ 64)
  have a'' := a'.sameQueue (⟨rfl, rfl, rfl, rfl, rfl⟩ :
    SameQueue sc' { sc' with scConsumed := s.sc.scConsumed + s.ksConsumed })
  unfold Node.handleYield Checked.handleYield
  rw [add64_eq hc, Checked.add_ok hc, Checked.ok_bind, a.checked_chargeBudget (by omega), e]
  exact ⟨_, rfl, rfl, inv.of_active hb a'' h3⟩

/-- A new budget keeps all times in range. -/
lemma configureFlags {core length args extraCap thread} (inv : Inv p sizeBits s) (hbits : SchedContextBits sizeBits)
    (hcap : ∀ target bits, extraCap = some (.schedContext target bits) → bits = sizeBits) :
    ∃ s', exec p numDomains s (.configureFlags core length args extraCap thread) = .ok s' ∧
      Checked.exec p numDomains s (.configureFlags core length args extraCap thread) = .ok s' ∧ Inv p sizeBits s' := by
  unfold exec Checked.exec
  dsimp only
  cases hd : decodeSchedControlConfigureFlags p.toTimerConfig core length args extraCap with
  | error => exact ⟨s, rfl, rfl, inv⟩
  | ok c =>
    obtain ⟨target, bits, ecap, hok⟩ := decodeSchedControlConfigureFlags_accepted hd
    obtain rfl := hcap target bits ecap
    have hsc := fun ha => (inv.exists_active ha).imp fun _ h => h.2
    obtain ⟨sc1, e1, a1⟩ := refillConfigure_active (thread == some true) (hok hbits) hbits inv.now_lt hsc
    have hc := checked_refillConfigure (thread == some true) (hok hbits) hbits inv.now_lt fun ha => ⟨_, hsc ha⟩
    have hconsumed := refillConfigure_scConsumed e1
    have h3 := inv.accounted
    have hcfg : s.sc.invokeSchedControlConfigureFlags p.toTimerConfig s.ksCurTime thread none c =
        .ok { sc1 with scBadge := c.badge, scSporadic := c.flags.testBit 0 } := by
      unfold SchedContext.invokeSchedControlConfigureFlags SchedContext.billCurrent
      cases thread <;>
      · change (do
          let sc ← s.sc.refillConfigure p.toTimerConfig s.ksCurTime _ c
          assert sc.scActive
          return { sc with scBadge := c.badge, scSporadic := c.flags.testBit 0 }) = _
        rw [e1, Checked.ok_bind, assert_ok a1.scActive]
        rfl
    have hcfg' : Checked.configure p s thread c =
        .ok { sc1 with scBadge := c.badge, scSporadic := c.flags.testBit 0 } := by
      unfold Checked.configure
      rw [hc, e1, Checked.ok_bind, assert_ok a1.scActive]
      rfl
    dsimp only
    rw [hcfg, hcfg']
    refine ⟨_, rfl, rfl, ⟨inv.now_lt, nofun, ?_⟩, ?_, inv.domain_le⟩
    · rintro budget ⟨⟩
      exact a1.sameQueue ⟨rfl, rfl, rfl, rfl, rfl⟩
    · dsimp only
      omega

lemma refillBudgetCheck {usage} (inv : Inv p sizeBits s) (ha : s.sc.scActive = true)
    (hr : s.sc.isRoundRobin = false) (hu : usage < 2 ^ 64) :
    ∃ s', exec p numDomains s (.refillBudgetCheck usage) = .ok s' ∧
      Checked.exec p numDomains s (.refillBudgetCheck usage) = .ok s' ∧ Inv p sizeBits s' := by
  obtain ⟨budget, hb, a⟩ := inv.exists_active ha
  have h3 := inv.accounted
  unfold exec Checked.exec
  dsimp only
  rw [a.checked_refillBudgetCheck hr hu]
  rcases a.kind with ⟨h, q, st⟩ | ⟨h, t, r⟩
  · obtain ⟨sc', h', q', e, st', f, -⟩ := st.refillBudgetCheck hu
    have hc := f.scConsumed
    rw [e]
    exact ⟨_, rfl, rfl, inv.of_active hb (a.of_settled f st') (by omega)⟩
  · rw [r.isRoundRobin] at hr
    cases hr

lemma refillUnblockCheck (inv : Inv p sizeBits s) :
    ∃ s', exec p numDomains s .refillUnblockCheck = .ok s' ∧
      Checked.exec p numDomains s .refillUnblockCheck = .ok s' ∧ Inv p sizeBits s' := by
  unfold exec Checked.exec
  dsimp only
  by_cases hr : s.sc.isRoundRobin = true
  · unfold SchedContext.refillUnblockCheck Checked.refillUnblockCheck
    rw [if_pos hr, if_pos hr]
    exact ⟨s, rfl, rfl, inv⟩
  · have ha : s.sc.scActive = true := by
      cases hb : s.budget with
      | none => exact absurd (beq_iff_eq.mpr (inv.refills.inactive hb).2) hr
      | some budget => exact (inv.refills.active budget hb).scActive
    obtain ⟨budget, hb, a⟩ := inv.exists_active ha
    have h3 := inv.accounted
    rw [a.checked_refillUnblockCheck inv.now_lt]
    rcases a.kind with ⟨h, q, st⟩ | ⟨h, t, r⟩
    · obtain ⟨sc', h', q', e, st', f⟩ := st.refillUnblockCheck inv.now_lt
      have hc := f.scConsumed
      rw [e]
      exact ⟨_, rfl, rfl, inv.of_active hb (a.of_settled f st') (by omega)⟩
    · exact absurd r.isRoundRobin hr

/-- The next interrupt, when the end of the domain fits into a word. -/
def interruptTime (numDomains : Nat) (s : Node) (rlqHead : Option Nat) : Nat :=
  let nextInterrupt := s.ksCurTime + s.sc.refillHead.rAmount
  let nextInterrupt := if 1 < numDomains then min nextInterrupt (s.ksCurTime + s.ksDomainTime) else nextInterrupt
  match rlqHead with
    | some rTime => min rTime nextInterrupt
    | none => nextInterrupt

lemma le_interruptTime {t rlqHead} :
    t ≤ interruptTime numDomains s rlqHead ↔ t ≤ s.ksCurTime + s.sc.refillHead.rAmount ∧
      (1 < numDomains → t ≤ s.ksCurTime + s.ksDomainTime) ∧ ∀ time ∈ rlqHead, t ≤ time := by
  unfold interruptTime
  cases rlqHead <;> by_cases hn : 1 < numDomains <;> simp [hn] <;> omega

/-- `setNextInterrupt` does not wrap when its sums fit. -/
lemma setNextInterrupt {rlqHead} (inv : Inv p sizeBits s) (ha : s.sc.scActive = true)
    (hq : ∀ time ∈ rlqHead, s.ksCurTime ≤ time) (hf : InterruptFits p numDomains s rlqHead) :
    ∃ s', s.setNextInterrupt p numDomains rlqHead = .ok s' ∧ Checked.setNextInterrupt p numDomains s rlqHead = .ok s' ∧
      Inv p sizeBits s' := by
  have hadd := inv.add_head_lt ha
  obtain ⟨h1, h2, h3⟩ := hf
  have hnow : s.ksCurTime ≤ interruptTime numDomains s rlqHead :=
    le_interruptTime.mpr ⟨Nat.le_add_right _ _, fun _ => Nat.le_add_right _ _, hq⟩
  have hprec : p.getTimerPrecision ≤ interruptTime numDomains s rlqHead :=
    le_interruptTime.mpr ⟨h1, fun h => (h2 h).2, h3⟩
  have hword : interruptTime numDomains s rlqHead < 2 ^ 64 := (le_interruptTime.mp le_rfl).1.trans_lt hadd
  have hdom : Checked.domainInterrupt numDomains s (s.ksCurTime + s.sc.refillHead.rAmount) = .ok
      (if 1 < numDomains then min (s.ksCurTime + s.sc.refillHead.rAmount) (s.ksCurTime + s.ksDomainTime)
        else s.ksCurTime + s.sc.refillHead.rAmount) := by
    unfold Checked.domainInterrupt
    split
    · rename_i hn
      rw [Checked.add_ok (h2 hn).1]
      rfl
    · rfl
  have hdom' : (if 1 < numDomains then min (s.ksCurTime + s.sc.refillHead.rAmount) (add64 s.ksCurTime s.ksDomainTime)
      else s.ksCurTime + s.sc.refillHead.rAmount) = if 1 < numDomains then
        min (s.ksCurTime + s.sc.refillHead.rAmount) (s.ksCurTime + s.ksDomainTime)
        else s.ksCurTime + s.sc.refillHead.rAmount := by
    split
    · rename_i hn
      rw [add64_eq (h2 hn).1]
    · rfl
  unfold Node.setNextInterrupt Checked.setNextInterrupt
  rw [Checked.add_ok hadd, Checked.ok_bind, hdom, Checked.ok_bind, add64_eq hadd]
  dsimp only
  rw [hdom']
  change ∃ s', (do assert (decide (interruptTime numDomains s rlqHead ≥ s.ksCurTime))
                   return { s with deadline := sub64 (interruptTime numDomains s rlqHead) p.getTimerPrecision }) = .ok s' ∧
    (do assert (decide (interruptTime numDomains s rlqHead ≥ s.ksCurTime))
        return { s with
          deadline := ← Checked.sub (interruptTime numDomains s rlqHead) (← Checked.getTimerPrecision p) }) = .ok s' ∧ _
  rw [assert_ok (decide_eq_true hnow), Checked.getTimerPrecision_ok, sub64_eq hprec hword]
  simp only [Checked.ok_bind, Checked.sub_ok hprec]
  exact ⟨_, rfl, rfl, inv.refills, inv.accounted, inv.domain_le⟩

/-- `setNextInterrupt` only sets the deadline. -/
lemma setNextInterrupt_inv {rlqHead s'} (inv : Inv p sizeBits s)
    (e : s.setNextInterrupt p numDomains rlqHead = .ok s') : Inv p sizeBits s' := by
  obtain ⟨-, -, e⟩ := bind_eq_ok.mp e
  obtain rfl := Except.ok.inj e
  exact ⟨inv.refills, inv.accounted, inv.domain_le⟩

/-- A legal operation whose sums fit returns, and nothing wraps in it. -/
lemma exec_fits (inv : Inv p sizeBits s) (hbits : SchedContextBits sizeBits) {op} (legal : Legal p sizeBits s op)
    (hf : Fits p numDomains s op) :
    ∃ s', exec p numDomains s op = .ok s' ∧ Checked.exec p numDomains s op = .ok s' ∧ Inv p sizeBits s' := by
  cases op with
  | updateTimestamp now => exact inv.updateTimestamp legal.1 legal.2
  | setNextInterrupt rlqHead => exact inv.setNextInterrupt legal.1 legal.2 hf
  | checkBudget => exact inv.checkBudget legal.1 legal.2
  | commitTime =>
    obtain ⟨s', e, inv'⟩ := inv.commitTime legal
    exact ⟨s', e, e, inv'⟩
  | handleYield => exact inv.handleYield legal
  | configureFlags core length args extraCap thread => exact inv.configureFlags hbits legal
  | refillBudgetCheck usage => exact inv.refillBudgetCheck legal.1 legal.2.1 legal.2.2
  | refillUnblockCheck => exact inv.refillUnblockCheck
  | updateConsumed scConsumed =>
    have hle : scConsumed ≤ s.sc.scConsumed := legal
    have h3 := inv.accounted
    refine ⟨_, rfl, rfl, ⟨inv.now_lt, inv.refills.inactive, fun budget e => ?_⟩, ?_, inv.domain_le⟩
    · exact (inv.refills.active budget e).sameQueue ⟨rfl, rfl, rfl, rfl, rfl⟩
    · dsimp only
      omega
  | charged => exact ⟨_, rfl, rfl, inv.refills, (Nat.le_add_right _ _).trans inv.accounted, inv.domain_le⟩
  | nextDomain duration => exact ⟨_, rfl, rfl, inv.refills, inv.accounted, legal⟩
  | scheduleSetStart => exact ⟨_, rfl, rfl, inv.refills, inv.accounted, Nat.zero_le _⟩

lemma exec (inv : Inv p sizeBits s) (hbits : SchedContextBits sizeBits) {op s'} (legal : Legal p sizeBits s op)
    (e : exec p numDomains s op = .ok s') : Inv p sizeBits s' := by
  by_cases hf : Fits p numDomains s op
  · obtain ⟨s1, e1, -, inv1⟩ := inv.exec_fits hbits legal hf
    obtain rfl := Except.ok.inj (e1.symm.trans e)
    exact inv1
  · cases op with
    | setNextInterrupt => exact inv.setNextInterrupt_inv e
    | _ => exact absurd trivial hf

end Inv

/-- What `setNextInterrupt` needs in order not to wrap. -/
lemma interruptFits_of_checked {p : PlatformTimer} {numDomains s rlqHead s'}
    (e : Checked.setNextInterrupt p numDomains s rlqHead = .ok s') : InterruptFits p numDomains s rlqHead := by
  obtain ⟨next, e1, e⟩ := bind_eq_ok.mp e
  obtain ⟨-, rfl⟩ := Checked.add_eq_ok.mp e1
  obtain ⟨next, e2, e⟩ := bind_eq_ok.mp e
  obtain ⟨-, -, e⟩ := bind_eq_ok.mp e
  rw [Checked.getTimerPrecision_ok, Checked.ok_bind] at e
  obtain ⟨deadline, e3, -⟩ := bind_eq_ok.mp e
  obtain ⟨hle, -⟩ := Checked.sub_eq_ok.mp e3
  have hdom : next ≤ s.ksCurTime + s.sc.refillHead.rAmount ∧
      (1 < numDomains → s.ksCurTime + s.ksDomainTime < 2 ^ 64 ∧ next ≤ s.ksCurTime + s.ksDomainTime) := by
    unfold Checked.domainInterrupt at e2
    split at e2
    · obtain ⟨sum, e4, e2⟩ := bind_eq_ok.mp e2
      obtain ⟨hlt, rfl⟩ := Checked.add_eq_ok.mp e4
      obtain rfl := Except.ok.inj e2
      exact ⟨Nat.min_le_left _ _, fun _ => ⟨hlt, Nat.min_le_right _ _⟩⟩
    · rename_i hn
      obtain rfl := Except.ok.inj e2
      exact ⟨le_rfl, fun h => absurd h hn⟩
  cases rlqHead with
  | none => exact ⟨hle.trans hdom.1, fun h => ⟨(hdom.2 h).1, hle.trans (hdom.2 h).2⟩, nofun⟩
  | some time =>
    obtain ⟨h1, h2⟩ := le_min_iff.mp hle
    refine ⟨h2.trans hdom.1, fun h => ⟨(hdom.2 h).1, h2.trans (hdom.2 h).2⟩, ?_⟩
    rintro _ ⟨⟩
    exact h1

/-- The invariant holds in every run. -/
lemma reachable_inv {p numDomains sizeBits s} (hbits : SchedContextBits sizeBits)
    (h : Reachable p numDomains sizeBits s) : Inv p sizeBits s := by
  induction h with
  | init hnow => exact ⟨⟨hnow, fun _ => ⟨rfl, rfl⟩, nofun⟩, Nat.zero_le _, le_rfl⟩
  | step _ legal e ih => exact ih.exec hbits legal e

/-- The refills of a configured context are released a period before the end of the word. -/
lemma Inv.refill_time_le {p sizeBits s budget} (inv : Inv p sizeBits s) (hb : s.budget = some budget) :
    ∀ r ∈ s.sc.queue, r.rTime ≤ uint64Max - p.maxPeriodTicks := by
  have h := p.maxReleaseTime_add
  intro r hr
  rcases (inv.refills.active budget hb).kind with ⟨x, q, st⟩ | ⟨x, t, rr⟩
  · have hq : s.sc.queue = x :: q := st.rep.queue_eq
    rw [hq] at hr
    have := st.time_le hr
    omega
  · have hq : s.sc.queue = [x, t] := rr.rep.queue_eq
    have h1 := rr.head_le
    have h2 := rr.tail_time
    rw [hq] at hr
    simp only [List.mem_cons, List.not_mem_nil, or_false] at hr
    rcases hr with rfl | rfl <;> omega

/-- In every run an operation wraps exactly if it is a `setNextInterrupt` whose sums do not fit, and no refill is
released later than a period before the end of the word. -/
theorem checked_iff_fits {p : PlatformTimer} {numDomains sizeBits : Nat} (hbits : SchedContextBits sizeBits) {s : Node}
    (h : Reachable p numDomains sizeBits s) :
    (∀ op, Legal p sizeBits s op →
      ((∃ s', Checked.exec p numDomains s op = .ok s') ↔ Fits p numDomains s op) ∧
        (Fits p numDomains s op → Checked.exec p numDomains s op = exec p numDomains s op)) ∧
      ∀ budget, s.budget = some budget → ∀ r ∈ s.sc.queue, r.rTime ≤ uint64Max - p.maxPeriodTicks := by
  have inv := reachable_inv hbits h
  refine ⟨fun op legal => ⟨⟨?_, ?_⟩, ?_⟩, fun budget hb => inv.refill_time_le hb⟩
  · rintro ⟨s', e⟩
    cases op with
    | setNextInterrupt rlqHead => exact interruptFits_of_checked e
    | _ => trivial
  · intro hf
    obtain ⟨s', -, e, -⟩ := inv.exec_fits hbits legal hf
    exact ⟨s', e⟩
  · intro hf
    obtain ⟨s', e, e', -⟩ := inv.exec_fits hbits legal hf
    exact e'.trans e.symm

/-- When the end of the domain wraps, the assertion of `setNextInterrupt` fails. -/
lemma setNextInterrupt_assertion {p : PlatformTimer} {numDomains : Nat} {s : Node} {rlqHead} (hn : 1 < numDomains)
    (hnow : s.ksCurTime < 2 ^ 64) (hdom : s.ksDomainTime < 2 ^ 64) (hwrap : 2 ^ 64 ≤ s.ksCurTime + s.ksDomainTime) :
    s.setNextInterrupt p numDomains rlqHead = .error .assertion := by
  have hlt : add64 s.ksCurTime s.ksDomainTime < s.ksCurTime := by
    unfold add64
    omega
  have hmin : min (add64 s.ksCurTime s.sc.refillHead.rAmount) (add64 s.ksCurTime s.ksDomainTime) < s.ksCurTime :=
    (Nat.min_le_right _ _).trans_lt hlt
  unfold Node.setNextInterrupt
  dsimp only
  rw [if_pos hn]
  cases rlqHead with
  | none =>
    dsimp only
    rw [decide_eq_false (Nat.not_le_of_lt hmin)]
    rfl
  | some time =>
    dsimp only
    rw [decide_eq_false (Nat.not_le_of_lt ((Nat.min_le_right _ _).trans_lt hmin))]
    rfl

/-- `updateTimestamp` leaves the context alone. -/
lemma updateTimestamp_eq {p : PlatformTimer} {numDomains : Nat} {s : Node} {now} (hlt : now < p.maxReleaseTime) :
    ∃ s', s.updateTimestamp p numDomains now = .ok s' ∧ s'.ksCurTime = now ∧ s'.sc = s.sc := by
  unfold Node.updateTimestamp
  rw [assert_ok (decide_eq_true hlt), Checked.ok_bind]
  dsimp only
  split
  · split <;> exact ⟨_, rfl, rfl, rfl⟩
  · exact ⟨_, rfl, rfl, rfl⟩

/-- The QEMU `virt` board. -/
def qemuPlatform : PlatformTimer where
  toTimer := qemuTimer
  timerPrecision := 0
  timerOverheadTicks := 0
  wcet_lt := by decide
  minBudget_le := by decide
  minBudget_lt := by decide
  precision_lt := by decide
  overhead_lt := by decide

/-- A context with a budget of 1 ms every 10 ms, which is configured at the time 0. -/
def configured : Op :=
  .configureFlags 0 5 Refills.exampleArgs (some (.schedContext 0 8)) none

lemma configured_legal (s : Node) : Legal qemuPlatform 8 s configured := by
  rintro target bits ⟨⟩
  rfl

/-- The first interrupt of a new context. -/
theorem checked_iff_fits_qemu :
    ∃ s, Reachable qemuPlatform 2 8 s ∧ s.budget = some 62500 ∧
      (∃ s', Checked.exec qemuPlatform 2 s (.setNextInterrupt none) = .ok s') ∧
      ∀ r ∈ s.sc.queue, r.rTime ≤ uint64Max - qemuPlatform.maxPeriodTicks := by
  have hbits : SchedContextBits 8 := ⟨by decide, by decide⟩
  have h1 := Reachable.step (@Reachable.init qemuPlatform 2 8 0 (by decide)) (configured_legal _) rfl
  obtain ⟨hop, htime⟩ := checked_iff_fits hbits h1
  have hfits : (∃ s', Checked.exec qemuPlatform 2 _ (.setNextInterrupt none) = .ok s') :=
    (hop (.setNextInterrupt none) ⟨rfl, nofun⟩).1.mpr ⟨by decide, fun _ => by decide, nofun⟩
  exact ⟨_, h1, rfl, hfits, htime 62500 rfl⟩

/-- Just before `MAX_RELEASE_TIME` the end of a domain of the longest duration does not fit into a word, and the assertion
of `setNextInterrupt` fails. -/
theorem checked_wraps_qemu :
    ∃ s, Reachable qemuPlatform 2 8 s ∧ Legal qemuPlatform 8 s (.setNextInterrupt none) ∧
      s.ksCurTime = qemuPlatform.maxReleaseTime - 1 ∧ s.ksDomainTime = dschedMaxDuration ∧
      (¬ ∃ s', Checked.exec qemuPlatform 2 s (.setNextInterrupt none) = .ok s') ∧
      exec qemuPlatform 2 s (.setNextInterrupt none) = .error .assertion := by
  have hword : qemuPlatform.maxReleaseTime - 1 < 2 ^ 64 := by decide
  have hwrap : 2 ^ 64 ≤ qemuPlatform.maxReleaseTime - 1 + dschedMaxDuration := by decide
  obtain ⟨s, h, ha, hnow, hdom⟩ : ∃ s, Reachable qemuPlatform 2 8 s ∧ s.sc.scActive = true ∧
      s.ksCurTime = qemuPlatform.maxReleaseTime - 1 ∧ s.ksDomainTime = dschedMaxDuration := by
    have h1 := Reachable.step (@Reachable.init qemuPlatform 2 8 0 (by decide)) (configured_legal _) rfl
    have hlt : qemuPlatform.maxReleaseTime - 1 < qemuPlatform.maxReleaseTime := by decide
    obtain ⟨s2, e2, hnow, hsc⟩ := updateTimestamp_eq hlt
    have h2 := @Reachable.step _ _ _ _ _ (.updateTimestamp (qemuPlatform.maxReleaseTime - 1)) h1
      ⟨Nat.zero_le _, hlt⟩ e2
    have h3 := @Reachable.step _ _ _ _ _ (.nextDomain dschedMaxDuration) h2 le_rfl rfl
    refine ⟨_, h3, ?_, hnow, rfl⟩
    change s2.sc.scActive = true
    rw [hsc]
    rfl
  rw [← hnow] at hword hwrap
  rw [← hdom] at hwrap
  refine ⟨s, h, ⟨ha, nofun⟩, hnow, hdom, ?_, ?_⟩
  · rintro ⟨s', e⟩
    exact ((@interruptFits_of_checked qemuPlatform 2 s none s' e).2.1 Nat.one_lt_two).1.not_ge hwrap
  · exact @setNextInterrupt_assertion qemuPlatform 2 s none Nat.one_lt_two hword
      (hdom ▸ (by decide : dschedMaxDuration < 2 ^ 64)) hwrap

end NexsKernel.Clock
