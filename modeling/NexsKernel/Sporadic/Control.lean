import NexsKernel.Object.Cap
import NexsKernel.Sporadic.Budget

/-!
# Configuring scheduling contexts

`SchedControl_ConfigureFlags` (`schedcontrol.c`): the checks on its arguments, and the new refill queue it
gives to a scheduling context. Of `invokeSchedControl_ConfigureFlags` the model keeps what touches the
scheduling context; moving the bound thread between the scheduler's queues does not.
-/

namespace NexsKernel

/-- `sizeof(sched_context_t)`. -/
def schedContextSize : Nat := 96

/-- `sizeof(refill_t)`. -/
def refillStructSize : Nat := 16

/-- `TIME_ARG_SIZE`. -/
def timeArgSize : Nat := 1

/-- `refill_absolute_max` for a capability with the given `capSCSizeBits`. -/
def refillAbsoluteMax (capSCSizeBits : Nat) : Nat :=
  sub64 (bit capSCSizeBits) schedContextSize / refillStructSize

/-- The arguments of `invokeSchedControl_ConfigureFlags`. -/
structure ConfigureFlags where
  target : Nat
  core : Nat
  budget : Nat
  period : Nat
  maxRefills : Nat
  badge : Nat
  flags : Nat
  deriving DecidableEq, Repr

/-- `decodeSchedControl_ConfigureFlags`; `args` is the message buffer and `core` the field of the
invoked `sched_control` capability. -/
def decodeSchedControlConfigureFlags (cfg : TimerConfig) (core length : Nat) (args : Nat → Nat)
    (extraCap : Option Cap) : Except SyscallError ConfigureFlags := do
  let some targetCap := extraCap | .error .truncatedMessage
  refuseIf (length < timeArgSize * 2 + 3) .truncatedMessage
  let budgetUs := args 0
  refuseIf (budgetUs > cfg.maxPeriodUs) (.rangeError cfg.minBudgetUs cfg.maxPeriodUs)
  let budgetTicks := cfg.usToTicks budgetUs
  let periodUs := args timeArgSize
  refuseIf (periodUs > cfg.maxPeriodUs) (.rangeError cfg.minBudgetUs cfg.maxPeriodUs)
  let periodTicks := cfg.usToTicks periodUs
  refuseIf (budgetTicks < cfg.minBudget) (.rangeError cfg.minBudgetUs cfg.maxPeriodUs)
  refuseIf (periodTicks < cfg.minBudget) (.rangeError cfg.minBudgetUs cfg.maxPeriodUs)
  refuseIf (budgetTicks > periodTicks) (.rangeError cfg.minBudgetUs periodUs)
  let .schedContext target sizeBits := targetCap | .error (.invalidCapability 1)
  let extraRefills := args (timeArgSize * 2)
  let maxRefills := refillAbsoluteMax sizeBits
  refuseIf (extraRefills > sub64 maxRefills minRefills)
    (.rangeError 0 (sub64 maxRefills minRefills))
  return {
    target, core, budget := budgetTicks, period := periodTicks
    maxRefills := add64 extraRefills minRefills
    badge := args (timeArgSize * 2 + 1), flags := args (timeArgSize * 2 + 2) }

/-- The time billed to the target before its parameters change, when it is the current context. -/
structure Billing where
  ksConsumed : Nat
  isCurDomainExpired : Bool
  deriving DecidableEq, Repr

namespace SchedContext

variable (sc : SchedContext) (cfg : TimerConfig) (ksCurTime : Nat)

/-- Bill the current consumed amount: `assert(checkBudget()); commitTime();`. -/
def bill (billing : Billing) : Except Halt SchedContext := do
  let (ok, sc) ← sc.checkBudget cfg ksCurTime billing.ksConsumed billing.isCurDomainExpired
  assert ok
  sc.commitTime cfg ksCurTime billing.ksConsumed

/-- The start of `invokeSchedControl_ConfigureFlags`: the current context of a thread is billed. -/
def billCurrent (thread : Option Bool) (billing : Option Billing) : Except Halt SchedContext :=
  match thread, billing with
  | some _, some billing => sc.bill cfg ksCurTime billing
  | _, _ => return sc

/-- The choice between `refill_new` and `refill_update`; `runnable` is `thread && isRunnable(thread)`. -/
def refillConfigure (runnable : Bool) (args : ConfigureFlags) : Except Halt SchedContext :=
  if args.budget = args.period then
    sc.refillNew cfg ksCurTime minRefills args.budget 0
  else if sc.scActive && runnable then
    sc.refillUpdate ksCurTime args.period args.budget args.maxRefills
  else
    sc.refillNew cfg ksCurTime args.maxRefills args.budget args.period

/-- `invokeSchedControl_ConfigureFlags`. `thread` is whether the bound thread is runnable, if there is
one, and `billing` is given when the target is the current scheduling context. -/
def invokeSchedControlConfigureFlags (thread : Option Bool) (billing : Option Billing)
    (args : ConfigureFlags) : Except Halt SchedContext := do
  let sc ← sc.billCurrent cfg ksCurTime thread billing
  let sc ← sc.refillConfigure cfg ksCurTime (thread == some true) args
  assert sc.scActive
  return { sc with scBadge := args.badge, scSporadic := args.flags.testBit 0 }

end SchedContext

open SchedContext

/-- What `decodeSchedControl_ConfigureFlags` guarantees of the arguments it accepts. -/
structure Accepted (cfg : Timer) (sizeBits : Nat) (args : ConfigureFlags) : Prop where
  minBudget_le : cfg.minBudget ≤ args.budget
  budget_le : args.budget ≤ args.period
  period_le : args.period ≤ cfg.maxPeriodTicks
  two_le_max : minRefills ≤ args.maxRefills
  max_le : args.maxRefills ≤ refillAbsoluteMax sizeBits

/-- The sizes that a scheduling context object can have. -/
structure SchedContextBits (sizeBits : Nat) : Prop where
  min_le : minSchedContextBits ≤ sizeBits
  le_max : sizeBits ≤ maxUntypedBits

/-- A scheduling context has room for two refills, and their number fits into a word. -/
lemma SchedContextBits.refillAbsoluteMax {sizeBits} (h : SchedContextBits sizeBits) :
    minRefills ≤ refillAbsoluteMax sizeBits ∧ refillAbsoluteMax sizeBits < 2 ^ 64 := by
  have h1 : 2 ^ minSchedContextBits ≤ 2 ^ sizeBits := Nat.pow_le_pow_right (by simp) h.min_le
  have h2 : 2 ^ sizeBits ≤ 2 ^ maxUntypedBits := Nat.pow_le_pow_right (by simp) h.le_max
  unfold minSchedContextBits at h1
  unfold maxUntypedBits at h2
  unfold NexsKernel.refillAbsoluteMax bit schedContextSize refillStructSize minRefills
  rw [sub64_eq (by omega) (by omega)]
  omega

/-- `decodeSchedControl_ConfigureFlags` checks what its callee relies on. -/
lemma decodeSchedControlConfigureFlags_accepted {cfg : Timer} {core length args extraCap c}
    (h : decodeSchedControlConfigureFlags cfg.toTimerConfig core length args extraCap = .ok c) :
    ∃ target sizeBits, extraCap = some (.schedContext target sizeBits) ∧
      (SchedContextBits sizeBits → Accepted cfg sizeBits c) := by
  cases extraCap with
  | none => cases h
  | some targetCap =>
    simp only [decodeSchedControlConfigureFlags, refuseIf_bind] at h
    obtain ⟨-, hb, hp, hmin, -, hle, h⟩ := h
    cases targetCap with
    | schedContext target sizeBits =>
      simp only [refuseIf_bind] at h
      obtain ⟨hx, h⟩ := h
      refine ⟨target, sizeBits, rfl, fun hbits => ?_⟩
      obtain ⟨h1, h2⟩ := hbits.refillAbsoluteMax
      rw [sub64_eq h1 h2] at hx
      cases h
      have hadd : add64 (args (timeArgSize * 2)) minRefills = args (timeArgSize * 2) + minRefills :=
        add64_eq (by omega)
      refine ⟨?_, ?_, cfg.usToTicks_mono (by omega), ?_, ?_⟩
      · show cfg.minBudget ≤ cfg.usToTicks (args 0)
        omega
      · show cfg.usToTicks (args 0) ≤ cfg.usToTicks (args timeArgSize)
        omega
      · show minRefills ≤ add64 (args (timeArgSize * 2)) minRefills
        omega
      · show add64 (args (timeArgSize * 2)) minRefills ≤ NexsKernel.refillAbsoluteMax sizeBits
        omega
    | _ => cases h

/-- A buffer whose head and tail are its first cell holds one refill. -/
lemma Rep.single {sc : SchedContext} (hh : sc.scRefillHead = 0) (ht : sc.scRefillTail = 0)
    (hm : 0 < sc.scRefillMax) (hlt : sc.scRefillMax < 2 ^ 64) : Rep sc [sc.refillHead] := by
  refine ⟨hh ▸ hm, ht ▸ hm, hlt, ?_⟩
  have hs : sc.refillSize = 1 := by simp [refillSize, hh, ht]
  rw [hs]
  rfl

/-- `maybe_add_empty_tail` on a round-robin context with one refill. -/
lemma Rep.maybeAddEmptyTail {sc : SchedContext} {h} (rep : Rep sc [h]) (hp : sc.scPeriod = 0)
    (hm : sc.scRefillMax = minRefills) :
    ∃ sc', sc.maybeAddEmptyTail = .ok sc' ∧ Rep sc' [h, { rTime := h.rTime, rAmount := 0 }] ∧
      Frame sc sc' := by
  obtain ⟨sc', e, rep', f⟩ := rep.refillAddTail { rTime := h.rTime, rAmount := 0 }
    (by rw [hm]; exact Nat.one_lt_two)
  refine ⟨sc', ?_, rep', f⟩
  unfold SchedContext.maybeAddEmptyTail
  rw [if_pos (by simp [SchedContext.isRoundRobin, hp]), rep.refillHead_eq, e]
  show (do assert (sc'.refillSize == minRefills); return sc') = _
  rw [rep'.size_eq, assert_ok (by simp [minRefills])]
  rfl

section Configure

variable {cfg : Timer} {budget period max now : Nat} {sc : SchedContext}

/-- The writes of `refill_new` before the empty tail is added. -/
lemma refillNew_eq (sc : SchedContext) (period now) (hb : cfg.minBudget ≤ budget) (hm : 0 < max) (hlt : max < 2 ^ 64) :
    ∃ sc1 : SchedContext,
      sc.refillNew cfg.toTimerConfig now max budget period = sc1.maybeAddEmptyTail ∧
      Rep sc1 [{ rTime := now, rAmount := budget }] ∧ sc1.scPeriod = period ∧
      sc1.scRefillMax = max := by
  let sc0 := { sc with scPeriod := period, scRefillHead := 0, scRefillTail := 0, scRefillMax := max }
  have rep0 : Rep sc0 [sc0.refillHead] := Rep.single rfl rfl hm hlt
  have rep1 := rep0.setRefillHead { sc0.refillHead with rAmount := budget }
  have rep2 := rep1.setRefillHead { rTime := now, rAmount := budget }
  refine ⟨_, ?_, rep2, rfl, rfl⟩
  unfold SchedContext.refillNew
  rw [assert_ok (by simpa using hb)]
  show ((sc0.setRefillHead { sc0.refillHead with rAmount := budget }).setRefillHead
    { (sc0.setRefillHead { sc0.refillHead with rAmount := budget }).refillHead with
      rTime := now }).maybeAddEmptyTail = _
  rw [rep1.refillHead_eq]

/-- A server with a single refill that holds the whole budget. -/
lemma Settled.single {h : Refill} (rep : Rep sc [h]) (ha : h.rAmount = budget)
    (hb : cfg.minBudget ≤ budget) (hlt : budget < sc.scPeriod) (hp : sc.scPeriod ≤ cfg.maxPeriodTicks)
    (hm : 2 ≤ sc.scRefillMax) (ht : h.rTime ≤ cfg.maxReleaseTime + cfg.maxPeriodTicks) :
    Settled cfg budget sc [h] := by
  have hpos := cfg.minBudget_pos
  refine ⟨⟨rep, ⟨by simp, ?_, .singleton _, ?_, ?_⟩, hlt, hp, hm, hb, ?_⟩, ?_⟩
  · simp only [List.mem_singleton, forall_eq]
    omega
  · simpa using ha
  · simp
  · simpa using ht
  · simpa [ha] using hb

/-- `refill_new` with a period. -/
lemma refillNew_settled (sc : SchedContext) (hb : cfg.minBudget ≤ budget) (hlt : budget < period)
    (hp : period ≤ cfg.maxPeriodTicks) (hm : 2 ≤ max) (hmax : max < 2 ^ 64)
    (hnow : now < cfg.maxReleaseTime) :
    ∃ sc' h, sc.refillNew cfg.toTimerConfig now max budget period = .ok sc' ∧
      Settled cfg budget sc' [h] ∧ sc'.scRefillMax = max := by
  obtain ⟨sc1, e, rep, e1, e2⟩ := refillNew_eq sc period now hb
    (by omega : 0 < max) hmax
  refine ⟨sc1, _, ?_, Settled.single rep rfl hb ?_ ?_ ?_ ?_, e2⟩
  · rw [e]
    unfold SchedContext.maybeAddEmptyTail
    rw [if_neg]
    · rfl
    · simp only [SchedContext.isRoundRobin, e1, beq_iff_eq]
      omega
  · exact e1.symm ▸ hlt
  · exact e1.symm ▸ hp
  · exact e2.symm ▸ hm
  · show now ≤ _
    omega

/-- `refill_new` for round robin. -/
lemma refillNew_roundRobin (sc : SchedContext) (hb : cfg.minBudget ≤ budget) (hp : budget ≤ cfg.maxPeriodTicks)
    (hnow : now < cfg.maxReleaseTime) :
    ∃ sc' h t, sc.refillNew cfg.toTimerConfig now minRefills budget 0 = .ok sc' ∧
      RoundRobin cfg budget now sc' h t := by
  obtain ⟨sc1, e, rep, e1, e2⟩ := refillNew_eq sc 0 now hb
    (by decide : 0 < minRefills) (by decide)
  obtain ⟨sc2, e3, rep2, f⟩ := rep.maybeAddEmptyTail e1 e2
  refine ⟨sc2, _, _, e.trans e3, rep2, f.scPeriod.trans e1, f.scRefillMax.trans e2, ?_, hp, hb,
    le_rfl, ?_, rfl⟩
  · rfl
  · show now ≤ _
    omega

/-- The first half of `refill_update` keeps only the head, which is released now if it was ready. -/
lemma Rep.truncateToHead {h q} (rep : Rep sc (h :: q)) (period now) (hm : 0 < max)
    (hlt : max < 2 ^ 64) :
    ∃ (sc1 : SchedContext) (time : Nat), (sc.truncateToHead period max).releaseHead now = sc1 ∧
      Rep sc1 [{ rTime := time, rAmount := h.rAmount }] ∧ sc1.scPeriod = period ∧
      sc1.scRefillMax = max ∧ (time = now ∨ time = h.rTime) := by
  have hh : (sc.truncateToHead period max).refillHead = h := by
    show Function.update sc.refills 0 sc.refillHead 0 = h
    rw [Function.update_self, rep.refillHead_eq]
  have rep0 : Rep (sc.truncateToHead period max) [h] := hh ▸ Rep.single rfl rfl hm hlt
  unfold releaseHead
  rw [hh]
  split
  · exact ⟨_, now, rfl, rep0.setRefillHead _, rfl, rfl, .inl rfl⟩
  · exact ⟨_, h.rTime, rfl, rep0, rfl, rfl, .inr rfl⟩

/-- `refill_update` keeps the head's amount, up to the new budget, and schedules the rest one new period
later. -/
lemma refillUpdate_settled {h q} (rep : Rep sc (h :: q)) (hs : cfg.minBudget ≤ h.rAmount)
    (hh : h.rTime ≤ cfg.maxReleaseTime + cfg.maxPeriodTicks) (hb : cfg.minBudget ≤ budget)
    (hlt : budget < period) (hp : period ≤ cfg.maxPeriodTicks) (hm : 2 ≤ max) (hmax : max < 2 ^ 64)
    (hnow : now < cfg.maxReleaseTime) :
    ∃ sc' h' q', sc.refillUpdate now period budget max = .ok sc' ∧
      Settled cfg budget sc' (h' :: q') ∧ sc'.scRefillMax = max := by
  obtain ⟨sc1, time, e, rep1, e1, e2, ht⟩ := rep.truncateToHead period now (by omega) hmax
  have hpos' : sc.scRefillMax > 0 := Nat.lt_of_le_of_lt (Nat.zero_le _) rep.head_lt
  have htime : time ≤ cfg.maxReleaseTime + cfg.maxPeriodTicks := by omega
  have hpos := cfg.minBudget_pos
  unfold SchedContext.refillUpdate
  rw [assert_ok (by simpa using hpos'), e]
  show ∃ sc' h' q', sc1.trimOrSchedule period budget = .ok sc' ∧ _
  simp only [trimOrSchedule, rep1.refillHead_eq]
  split
  · have rep2 := rep1.setRefillHead { rTime := time, rAmount := budget }
    refine ⟨_, _, _, ?_, Settled.single rep2 rfl hb ?_ ?_ ?_ htime, e2⟩
    · unfold SchedContext.maybeAddEmptyTail
      rw [if_neg]
      · rfl
      · show ¬ (sc1.scPeriod == 0) = true
        rw [e1, beq_iff_eq]
        omega
    · exact e1.symm ▸ hlt
    · exact e1.symm ▸ hp
    · exact e2.symm ▸ hm
  · rename_i hlt'
    have h1 := cfg.maxReleaseTime_add
    unfold uint64Max at h1
    simp only [ge_iff_le, not_le] at hlt'
    rw [sub64_eq (by omega) (by omega), add64_eq (by omega)]
    obtain ⟨sc2, e3, rep2, f⟩ := rep1.refillAddTail
      { rAmount := budget - h.rAmount, rTime := time + period } (by rw [e2]; exact hm)
    have rep3 : Rep sc2 [{ rTime := time, rAmount := h.rAmount },
      { rTime := time + period, rAmount := budget - h.rAmount }] := rep2
    refine ⟨sc2, _, _, e3, ⟨⟨rep3, ⟨by simp, ?_, ?_, ?_, ?_⟩, ?_, ?_, ?_, hb, ?_⟩, ?_⟩,
      f.scRefillMax.trans e2⟩
    · simp only [List.mem_cons, List.not_mem_nil, or_false, forall_eq_or_imp, forall_eq]
      omega
    · simp only [List.isChain_cons_cons, List.isChain_singleton, and_true]
      show time + h.rAmount ≤ time + period
      omega
    · simp only [Server.total_cons, Server.total_nil]
      omega
    · simp [f.scPeriod, e1]
    · exact (f.scPeriod.trans e1).symm ▸ hlt
    · exact (f.scPeriod.trans e1).symm ▸ hp
    · exact (f.scRefillMax.trans e2).symm ▸ hm
    · simpa using htime
    · simpa using hs

end Configure

/-- The choice of `invokeSchedControl_ConfigureFlags` yields a configured context. -/
lemma refillConfigure_active {cfg : Timer} {sizeBits now sc} {args : ConfigureFlags} (runnable : Bool)
    (ok : Accepted cfg sizeBits args) (hbits : SchedContextBits sizeBits)
    (hnow : now < cfg.maxReleaseTime)
    (hsc : sc.scActive = true →
      ∃ budget, Active cfg (refillAbsoluteMax sizeBits) budget now sc) :
    ∃ sc', sc.refillConfigure cfg.toTimerConfig now runnable args = .ok sc' ∧
      Active cfg (refillAbsoluteMax sizeBits) args.budget now sc' := by
  obtain ⟨h1, h2⟩ := hbits.refillAbsoluteMax
  have hmax := ok.max_le
  unfold refillConfigure
  split
  · rename_i heq
    obtain ⟨sc', h, t, e, r⟩ := refillNew_roundRobin sc ok.minBudget_le
      (ok.budget_le.trans ok.period_le) hnow
    exact ⟨sc', e, r.max_two.symm ▸ h1, .inr ⟨h, t, r⟩⟩
  · rename_i hne
    have hlt : args.budget < args.period := lt_of_le_of_ne ok.budget_le hne
    split
    · rename_i hact
      simp only [Bool.and_eq_true] at hact
      obtain ⟨budget, a⟩ := hsc hact.1
      obtain ⟨h, q, rep, hs, hh⟩ := a.exists_rep
      obtain ⟨sc', h', q', e, s, em⟩ := refillUpdate_settled rep hs hh ok.minBudget_le hlt
        ok.period_le ok.two_le_max (by omega) hnow
      exact ⟨sc', e, em.symm ▸ hmax, .inl ⟨h', q', s⟩⟩
    · obtain ⟨sc', h, e, s, em⟩ := refillNew_settled sc ok.minBudget_le hlt ok.period_le
        ok.two_le_max (by omega) hnow
      exact ⟨sc', e, em.symm ▸ hmax, .inl ⟨h, [], s⟩⟩

/-- Billing the current context before it is configured. -/
lemma Active.billCurrent {cfg : Timer} {max budget now sc} (a : Active cfg max budget now sc)
    (thread : Option Bool) {billing : Option Billing}
    (hb : ∀ b ∈ billing, Committable cfg now sc b.ksConsumed ∧ b.ksConsumed < 2 ^ 64 ∧
      b.isCurDomainExpired = false) :
    ∃ sc', sc.billCurrent cfg.toTimerConfig now thread billing = .ok sc' ∧
      Active cfg max budget now sc' := by
  unfold SchedContext.billCurrent
  split
  · rename_i b
    obtain ⟨c, hlt, hexp⟩ := hb b rfl
    obtain ⟨sc', e, a'⟩ := a.commitTime c hlt
    refine ⟨sc', ?_, a'⟩
    unfold bill checkBudget
    rw [assert_ok (a.refillReady c), c.sufficient, hexp]
    exact e
  · exact ⟨sc, rfl, a⟩

/-- `invokeSchedControl_ConfigureFlags` returns a context configured with the new budget. -/
lemma invokeSchedControlConfigureFlags_active {cfg : Timer} {sizeBits now sc billing}
    {args : ConfigureFlags} (thread : Option Bool) (ok : Accepted cfg sizeBits args) (hbits : SchedContextBits sizeBits)
    (hnow : now < cfg.maxReleaseTime)
    (hsc : sc.scActive = true → ∃ budget, Active cfg (refillAbsoluteMax sizeBits) budget now sc)
    (hb : ∀ b ∈ billing, sc.scActive = true ∧ Committable cfg now sc b.ksConsumed ∧
      b.ksConsumed < 2 ^ 64 ∧ b.isCurDomainExpired = false) :
    ∃ sc', sc.invokeSchedControlConfigureFlags cfg.toTimerConfig now thread billing args = .ok sc' ∧
      Active cfg (refillAbsoluteMax sizeBits) args.budget now sc' := by
  obtain ⟨sc1, e1, h1⟩ : ∃ sc1, sc.billCurrent cfg.toTimerConfig now thread billing = .ok sc1 ∧
      (sc1.scActive = true → ∃ budget, Active cfg (refillAbsoluteMax sizeBits) budget now sc1) := by
    cases billing with
    | none =>
      refine ⟨sc, ?_, hsc⟩
      unfold SchedContext.billCurrent
      split
      · contradiction
      · rfl
    | some b =>
      obtain ⟨budget, a⟩ := hsc (hb b rfl).1
      obtain ⟨sc1, e1, a1⟩ := a.billCurrent thread (fun b' hb' => (hb b' hb').2)
      exact ⟨sc1, e1, fun _ => ⟨budget, a1⟩⟩
  obtain ⟨sc2, e2, a2⟩ := refillConfigure_active (thread == some true) ok hbits hnow h1
  refine ⟨{ sc2 with scBadge := args.badge, scSporadic := args.flags.testBit 0 }, ?_,
    a2.sameQueue ⟨rfl, rfl, rfl, rfl, rfl⟩⟩
  unfold SchedContext.invokeSchedControlConfigureFlags
  rw [e1]
  show (do let sc ← sc1.refillConfigure cfg.toTimerConfig now (thread == some true) args
           assert sc.scActive
           return { sc with scBadge := args.badge, scSporadic := args.flags.testBit 0 }) = _
  rw [e2]
  show (do assert sc2.scActive
           return { sc2 with scBadge := args.badge, scSporadic := args.flags.testBit 0 }) = _
  rw [assert_ok a2.scActive]
  rfl

end NexsKernel
