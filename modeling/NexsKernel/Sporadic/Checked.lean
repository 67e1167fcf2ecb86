import NexsKernel.Sporadic.Run

/-!
# The sporadic server without wrap-around

The functions of `sporadic.c` once more, each addition, subtraction and multiplication of words being one that must not
wrap: it fails an assertion where the operator of the code would wrap. For a queue with the invariant every function
computes what it computes with wrap-around, so that nothing wraps.
-/

namespace NexsKernel

/-- A platform whose constants fit into a word, and on which some budget is accepted. -/
structure PlatformTimer extends Timer where
  /-- `TIMER_PRECISION`. -/
  timerPrecision : Nat
  /-- `TIMER_OVERHEAD_TICKS`. -/
  timerOverheadTicks : Nat
  wcet_lt : toTimerConfig.kernelWcetUs * toTimerConfig.ticksFactor < 2 ^ 64
  minBudget_le : toTimerConfig.minBudget ≤ toTimerConfig.maxPeriodTicks
  minBudget_lt : 2 * toTimerConfig.getKernelWcetTicks * toTimerConfig.kernelWcetScale < 2 ^ 64
  precision_lt : timerPrecision * toTimerConfig.ticksFactor < 2 ^ 64
  overhead_lt : toTimerConfig.usToTicks timerPrecision + timerOverheadTicks < 2 ^ 64

/-- `getTimerPrecision`. -/
def PlatformTimer.getTimerPrecision (p : PlatformTimer) : Nat :=
  add64 (p.usToTicks p.timerPrecision) p.timerOverheadTicks

namespace Checked

/-- Addition that does not wrap. -/
def add (a b : Nat) : Except Halt Nat := do
  assert (decide (a + b < 2 ^ 64))
  return a + b

/-- Subtraction that does not wrap. -/
def sub (a b : Nat) : Except Halt Nat := do
  assert (decide (b ≤ a))
  return a - b

/-- Multiplication that does not wrap. -/
def mul (a b : Nat) : Except Halt Nat := do
  assert (decide (a * b < 2 ^ 64))
  return a * b

lemma ok_bind {α β : Type} (a : α) (f : α → Except Halt β) : (Except.ok a >>= f) = f a := rfl

lemma add_ok {a b} (h : a + b < 2 ^ 64) : add a b = .ok (a + b) := by
  unfold add
  rw [assert_ok (decide_eq_true h)]
  rfl

lemma sub_ok {a b} (h : b ≤ a) : sub a b = .ok (a - b) := by
  unfold sub
  rw [assert_ok (decide_eq_true h)]
  rfl

lemma mul_ok {a b} (h : a * b < 2 ^ 64) : mul a b = .ok (a * b) := by
  unfold mul
  rw [assert_ok (decide_eq_true h)]
  rfl

lemma add_eq_ok {a b c} : add a b = .ok c ↔ a + b < 2 ^ 64 ∧ a + b = c := by
  unfold add
  by_cases h : a + b < 2 ^ 64
  · rw [assert_ok (decide_eq_true h)]
    exact ⟨fun e => ⟨h, Except.ok.inj e⟩, fun e => congrArg Except.ok e.2⟩
  · rw [decide_eq_false h]
    exact ⟨nofun, fun e => absurd e.1 h⟩

lemma sub_eq_ok {a b c} : sub a b = .ok c ↔ b ≤ a ∧ a - b = c := by
  unfold sub
  by_cases h : b ≤ a
  · rw [assert_ok (decide_eq_true h)]
    exact ⟨fun e => ⟨h, Except.ok.inj e⟩, fun e => congrArg Except.ok e.2⟩
  · rw [decide_eq_false h]
    exact ⟨nofun, fun e => absurd e.1 h⟩

section Constants

variable (cfg : TimerConfig)

/-- `usToTicks`. -/
def usToTicks (us : Nat) : Except Halt Nat := do
  if cfg.useKhz then
    return (← mul us cfg.timerClockKhz) / 1000
  else
    mul us cfg.timerClockMhz

/-- `MIN_BUDGET`. -/
def minBudget : Except Halt Nat := do
  mul (← mul 2 (← usToTicks cfg cfg.kernelWcetUs)) cfg.kernelWcetScale

/-- `MAX_RELEASE_TIME`. -/
def maxReleaseTime : Except Halt Nat := do
  sub uint64Max (← mul 5 (← usToTicks cfg cfg.maxPeriodUs))

/-- `getTimerPrecision`. -/
def getTimerPrecision (p : PlatformTimer) : Except Halt Nat := do
  add (← usToTicks p.toTimerConfig p.timerPrecision) p.timerOverheadTicks

variable {cfg}

lemma usToTicks_ok {us} (h : us * cfg.ticksFactor < 2 ^ 64) : usToTicks cfg us = .ok (cfg.usToTicks us) := by
  unfold usToTicks TimerConfig.usToTicks
  unfold TimerConfig.ticksFactor at h
  split
  · rename_i hk
    rw [if_pos hk] at h
    rw [mul_ok h, mul64_eq h]
    rfl
  · rename_i hk
    rw [if_neg hk] at h
    rw [mul_ok h, mul64_eq h]

lemma maxReleaseTime_ok (cfg : Timer) : maxReleaseTime cfg.toTimerConfig = .ok cfg.maxReleaseTime := by
  have h := cfg.mul_ticksFactor_le cfg.maxPeriodUs_le
  have h8 := cfg.eight_maxPeriodTicks_le
  unfold uint64Max at h h8
  have e : usToTicks cfg.toTimerConfig cfg.maxPeriodUs = .ok cfg.maxPeriodTicks := usToTicks_ok (by omega)
  have h5 : 5 * cfg.maxPeriodTicks < 2 ^ 64 := by omega
  have hle : 5 * cfg.maxPeriodTicks ≤ uint64Max := by
    unfold uint64Max
    omega
  unfold maxReleaseTime TimerConfig.maxReleaseTime
  rw [e, ok_bind, mul_ok h5, ok_bind, sub_ok hle, mul64_eq h5, sub64_eq hle (by decide)]

lemma minBudget_ok (p : PlatformTimer) : minBudget p.toTimerConfig = .ok p.minBudget := by
  have e : usToTicks p.toTimerConfig p.kernelWcetUs = .ok p.getKernelWcetTicks := usToTicks_ok p.wcet_lt
  have h := p.minBudget_lt
  have hscale : 0 < p.kernelWcetScale := by
    apply Nat.pos_of_ne_zero
    intro h0
    have hpos := p.minBudget_pos
    simp [TimerConfig.minBudget, h0, mul64] at hpos
  have h2 : 2 * p.getKernelWcetTicks < 2 ^ 64 := (Nat.le_mul_of_pos_right _ hscale).trans_lt h
  unfold minBudget TimerConfig.minBudget
  rw [e, ok_bind, mul_ok h2, ok_bind, mul_ok h, mul64_eq h2, mul64_eq h]

lemma getTimerPrecision_ok (p : PlatformTimer) : getTimerPrecision p = .ok p.getTimerPrecision := by
  unfold getTimerPrecision PlatformTimer.getTimerPrecision
  rw [usToTicks_ok p.precision_lt, ok_bind, add_ok p.overhead_lt, add64_eq p.overhead_lt]

end Constants

section Functions

variable (cfg : TimerConfig) (ksCurTime : Nat) (sc : SchedContext)

/-- `refill_next`. -/
def refillNext (index : Nat) : Except Halt Nat := do
  if index = (← sub sc.scRefillMax 1) then return 0 else add index 1

/-- `refill_size`. -/
def refillSize : Except Halt Nat := do
  if sc.scRefillHead ≤ sc.scRefillTail then
    add (← sub sc.scRefillTail sc.scRefillHead) 1
  else
    add (← add sc.scRefillTail 1) (← sub sc.scRefillMax sc.scRefillHead)

/-- `refill_capacity`. -/
def refillCapacity (usage : Nat) : Except Halt Nat :=
  if usage > sc.refillHead.rAmount then return 0 else sub sc.refillHead.rAmount usage

/-- `refill_sufficient`. -/
def refillSufficient (usage : Nat) : Except Halt Bool := do
  return decide ((← minBudget cfg) ≤ (← refillCapacity sc usage))

/-- `refill_pop_head`. -/
def refillPopHead : Except Halt (Refill × SchedContext) := do
  assert (!sc.refillSingle)
  let prevSize ← refillSize sc
  let refill := sc.refillHead
  let sc' := { sc with scRefillHead := ← refillNext sc sc.scRefillHead }
  assert (prevSize == (← add (← refillSize sc') 1))
  assert (decide (sc'.scRefillHead < sc'.scRefillMax))
  return (refill, sc')

/-- `refill_add_tail`. -/
def refillAddTail (refill : Refill) : Except Halt SchedContext := do
  assert (decide ((← refillSize sc) < sc.scRefillMax))
  let newTail ← refillNext sc sc.scRefillTail
  let sc' := { sc with scRefillTail := newTail }
  let sc' := sc'.setRefillTail refill
  assert (decide (newTail < sc.scRefillMax))
  return sc'

/-- `maybe_add_empty_tail`. -/
def maybeAddEmptyTail : Except Halt SchedContext := do
  if sc.isRoundRobin then
    let sc' ← refillAddTail sc { rTime := sc.refillHead.rTime, rAmount := 0 }
    assert ((← refillSize sc') == minRefills)
    return sc'
  else
    return sc

/-- `refill_new`. -/
def refillNew (maxRefills budget period : Nat) : Except Halt SchedContext := do
  let sc := { sc with
    scPeriod := period, scRefillHead := 0, scRefillTail := 0, scRefillMax := maxRefills }
  assert (decide ((← minBudget cfg) ≤ budget))
  let sc := sc.setRefillHead { sc.refillHead with rAmount := budget }
  let sc := sc.setRefillHead { sc.refillHead with rTime := ksCurTime }
  maybeAddEmptyTail sc

/-- The end of `refill_update`. -/
def trimOrSchedule (newPeriod newBudget : Nat) : Except Halt SchedContext := do
  if sc.refillHead.rAmount ≥ newBudget then
    maybeAddEmptyTail (sc.setRefillHead { sc.refillHead with rAmount := newBudget })
  else
    let rAmount ← sub newBudget sc.refillHead.rAmount
    let rTime ← add sc.refillHead.rTime newPeriod
    refillAddTail sc { rAmount, rTime }

/-- `refill_update`. -/
def refillUpdate (newPeriod newBudget newMaxRefills : Nat) : Except Halt SchedContext := do
  assert (decide (sc.scRefillMax > 0))
  trimOrSchedule ((sc.truncateToHead newPeriod newMaxRefills).releaseHead ksCurTime) newPeriod newBudget

/-- `schedule_used`. -/
def scheduleUsed (new : Refill) : Except Halt SchedContext := do
  let tail := sc.refillTail
  if (← add tail.rTime tail.rAmount) ≥ new.rTime then
    return sc.setRefillTail { tail with rAmount := ← add tail.rAmount new.rAmount }
  else if !((← refillSize sc) == sc.scRefillMax) then
    refillAddTail sc new
  else
    let sc := sc.setRefillTail { tail with rTime := ← sub new.rTime tail.rAmount }
    return sc.setRefillTail { sc.refillTail with rAmount := ← add tail.rAmount new.rAmount }

/-- `refill_head_overlapping`. -/
def refillHeadOverlapping : Except Halt Bool := do
  if !sc.refillSingle then
    let head := sc.refillHead
    let tail ← add head.rTime head.rAmount
    return decide ((sc.refillIndex (← refillNext sc sc.scRefillHead)).rTime ≤ tail)
  else
    return false

/-- `head_refill_overrun`. -/
def headRefillOverrun (usage : Nat) : Except Halt Bool := do
  return decide (sc.refillHead.rAmount ≤ usage) && decide (sc.refillHead.rTime < (← maxReleaseTime cfg))

/-- `charge_entire_head_refill`. -/
def chargeEntireHeadRefill (usage : Nat) : Except Halt (Nat × SchedContext) := do
  let head := sc.refillHead
  let sc' ←
    if sc.refillSingle then do
      pure (sc.setRefillHead { head with rTime := ← add head.rTime sc.scPeriod })
    else do
      let (oldHead, sc') ← refillPopHead sc
      scheduleUsed sc' { oldHead with rTime := ← add oldHead.rTime sc'.scPeriod }
  return (← sub usage head.rAmount, sc')

/-- `handle_overrun`. -/
def handleOverrun : Nat → SchedContext → Nat → Except Halt (Nat × SchedContext)
  | 0, _, _ => .error .outOfFuel
  | fuel + 1, sc, usage => do
    if ← headRefillOverrun cfg sc usage then
      let (usage', sc') ← chargeEntireHeadRefill sc usage
      handleOverrun fuel sc' usage'
    else
      return (usage, sc)

/-- `merge_nonoverlapping_head_refill`. -/
def mergeNonoverlappingHeadRefill : Except Halt SchedContext := do
  let (head, sc) ← refillPopHead sc
  let sc := sc.setRefillHead { sc.refillHead with rAmount := ← add sc.refillHead.rAmount head.rAmount }
  return sc.setRefillHead { sc.refillHead with rTime := ← sub sc.refillHead.rTime head.rAmount }

/-- The loop at the end of `refill_budget_check`. -/
def mergeInsufficient : Nat → SchedContext → Except Halt SchedContext
  | 0, _ => .error .outOfFuel
  | fuel + 1, sc => do
    if sc.refillHead.rAmount < (← minBudget cfg) then
      let sc' ← mergeNonoverlappingHeadRefill sc
      mergeInsufficient fuel sc'
    else
      return sc

/-- The partial charge of `refill_budget_check`. -/
def chargePartialHeadRefill (usage : Nat) : Except Halt SchedContext := do
  let head := sc.refillHead
  assert (decide (head.rAmount > usage))
  let used : Refill := { rAmount := usage, rTime := ← add head.rTime sc.scPeriod }
  let sc := sc.setRefillHead { sc.refillHead with rAmount := ← sub head.rAmount usage }
  let sc := sc.setRefillHead { sc.refillHead with rTime := ← add head.rTime usage }
  scheduleUsed sc used

/-- The `if` of `refill_budget_check`. -/
def chargeRemainingUsage (usage : Nat) : Except Halt SchedContext := do
  if usage > 0 ∧ sc.refillHead.rTime < (← maxReleaseTime cfg) then
    chargePartialHeadRefill sc usage
  else
    return sc

/-- `refill_budget_check`. -/
def refillBudgetCheck (usage : Nat) : Except Halt SchedContext := do
  assert (!sc.isRoundRobin)
  let (usage, sc) ← handleOverrun cfg (usage + 1) sc usage
  let sc ← chargeRemainingUsage cfg sc usage
  mergeInsufficient cfg sc.refillSize sc

/-- `merge_overlapping_head_refill`. -/
def mergeOverlappingHeadRefill : Except Halt SchedContext := do
  let (oldHead, sc) ← refillPopHead sc
  let sc := sc.setRefillHead { sc.refillHead with rTime := oldHead.rTime }
  return sc.setRefillHead { sc.refillHead with rAmount := ← add sc.refillHead.rAmount oldHead.rAmount }

/-- The loop of `refill_unblock_check`. -/
def mergeOverlapping : Nat → SchedContext → Except Halt SchedContext
  | 0, _ => .error .outOfFuel
  | fuel + 1, sc => do
    if ← refillHeadOverlapping sc then
      let sc' ← mergeOverlappingHeadRefill sc
      mergeOverlapping fuel sc'
    else
      return sc

/-- `refill_unblock_check`. -/
def refillUnblockCheck : Except Halt SchedContext := do
  if sc.isRoundRobin then
    return sc
  else if sc.refillReady ksCurTime then
    let sc := sc.setRefillHead { sc.refillHead with rTime := ksCurTime }
    let sc ← mergeOverlapping sc.refillSize sc
    assert (← refillSufficient cfg sc 0)
    return sc
  else
    return sc

/-- The choice between `refill_new` and `refill_update`. -/
def refillConfigure (runnable : Bool) (args : ConfigureFlags) : Except Halt SchedContext :=
  if args.budget = args.period then
    refillNew cfg ksCurTime sc minRefills args.budget 0
  else if sc.scActive && runnable then
    refillUpdate ksCurTime sc args.period args.budget args.maxRefills
  else
    refillNew cfg ksCurTime sc args.maxRefills args.budget args.period

/-- The two branches of `chargeBudget`. -/
def chargeSlice (consumed : Nat) : Except Halt SchedContext :=
  if sc.isRoundRobin then do
    assert ((← refillSize sc) == minRefills)
    let head := sc.refillHead
    let tail := sc.refillTail
    let sc := sc.setRefillHead { sc.refillHead with rAmount := ← add head.rAmount tail.rAmount }
    return sc.setRefillTail { sc.refillTail with rAmount := 0 }
  else
    refillBudgetCheck cfg sc consumed

/-- `chargeBudget`. -/
def chargeBudget (consumed : Nat) : Except Halt SchedContext := do
  let sc ← chargeSlice cfg sc consumed
  assert (decide (sc.refillHead.rAmount ≥ (← minBudget cfg)))
  return { sc with scConsumed := ← add sc.scConsumed consumed }

/-- `checkBudget`. -/
def checkBudget (ksConsumed : Nat) (expired : Bool) : Except Halt (Bool × SchedContext) := do
  assert (sc.refillReady ksCurTime)
  if ← refillSufficient cfg sc ksConsumed then
    return (!expired, sc)
  else
    let sc ← chargeBudget cfg sc ksConsumed
    return (false, sc)

end Functions

end Checked

end NexsKernel
