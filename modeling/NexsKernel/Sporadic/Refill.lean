import NexsKernel.Lib.Ring
import NexsKernel.Api.Failures
import NexsKernel.Sporadic.Timer

/-!
# Sporadic servers

The refill queue of a scheduling context, translated from `sporadic.h` and `sporadic.c`. A scheduling
context object is a `sched_context_t` followed by an array of refills; the array is the function
`refills`, of which the cells below `scRefillMax` are used as a circular buffer from `scRefillHead` to
`scRefillTail`.

The functions run in `Except Halt`: an assertion of `sporadic.c` that fails stops the kernel with
`Halt.assertion`, and a loop that has not ended within its fuel stops with `Halt.outOfFuel`. The fuel
given to each loop is shown to be enough in `NexsKernel.Sporadic.Refinement`.
-/

namespace NexsKernel

/-- `refill_t`. -/
structure Refill where
  rTime : Nat
  rAmount : Nat
  deriving DecidableEq, Repr

/-- `MIN_REFILLS`. -/
def minRefills : Nat := 2

/-- The part of `sched_context_t` that the sporadic server works on, and the refill array behind it. -/
structure SchedContext where
  scPeriod : Nat
  scConsumed : Nat
  scBadge : Nat
  scRefillMax : Nat
  scRefillHead : Nat
  scRefillTail : Nat
  scSporadic : Bool
  refills : Nat → Refill

namespace SchedContext

variable (sc : SchedContext)

/-- `refill_index`. -/
def refillIndex (index : Nat) : Refill :=
  sc.refills index

/-- `refill_head`. -/
def refillHead : Refill :=
  sc.refillIndex sc.scRefillHead

/-- `refill_tail`. -/
def refillTail : Refill :=
  sc.refillIndex sc.scRefillTail

/-- A store through `refill_index`. -/
def setRefillIndex (index : Nat) (refill : Refill) : SchedContext :=
  { sc with refills := Function.update sc.refills index refill }

/-- A store through `refill_head`. -/
def setRefillHead (refill : Refill) : SchedContext :=
  sc.setRefillIndex sc.scRefillHead refill

/-- A store through `refill_tail`. -/
def setRefillTail (refill : Refill) : SchedContext :=
  sc.setRefillIndex sc.scRefillTail refill

/-- `refill_next`. -/
def refillNext (index : Nat) : Nat :=
  if index = sub64 sc.scRefillMax 1 then 0 else index + 1

/-- `refill_size`. -/
def refillSize : Nat :=
  if sc.scRefillHead ≤ sc.scRefillTail then
    sc.scRefillTail - sc.scRefillHead + 1
  else
    sc.scRefillTail + 1 + (sc.scRefillMax - sc.scRefillHead)

/-- `refill_full`. -/
def refillFull : Bool :=
  sc.refillSize == sc.scRefillMax

/-- `refill_single`. -/
def refillSingle : Bool :=
  sc.scRefillHead == sc.scRefillTail

/-- `refill_capacity`. -/
def refillCapacity (usage : Nat) : Nat :=
  if usage > sc.refillHead.rAmount then 0 else sc.refillHead.rAmount - usage

/-- `refill_sufficient`. -/
def refillSufficient (cfg : TimerConfig) (usage : Nat) : Bool :=
  decide (cfg.minBudget ≤ sc.refillCapacity usage)

/-- `refill_ready`. -/
def refillReady (ksCurTime : Nat) : Bool :=
  decide (sc.refillHead.rTime ≤ ksCurTime)

/-- `sc_active`. -/
def scActive : Bool :=
  decide (sc.scRefillMax > 0)

/-- `isRoundRobin`. -/
def isRoundRobin : Bool :=
  sc.scPeriod == 0

/-- `refill_pop_head`. -/
def refillPopHead : Except Halt (Refill × SchedContext) := do
  assert (!sc.refillSingle)
  let refill := sc.refillHead
  let sc' := { sc with scRefillHead := sc.refillNext sc.scRefillHead }
  assert (sc.refillSize == sc'.refillSize + 1)
  assert (decide (sc'.scRefillHead < sc'.scRefillMax))
  return (refill, sc')

/-- `refill_add_tail`. -/
def refillAddTail (refill : Refill) : Except Halt SchedContext := do
  assert (decide (sc.refillSize < sc.scRefillMax))
  let newTail := sc.refillNext sc.scRefillTail
  let sc' := { sc with scRefillTail := newTail }
  let sc' := sc'.setRefillTail refill
  assert (decide (newTail < sc.scRefillMax))
  return sc'

/-- `maybe_add_empty_tail`. -/
def maybeAddEmptyTail : Except Halt SchedContext := do
  if sc.isRoundRobin then
    let sc' ← sc.refillAddTail { rTime := sc.refillHead.rTime, rAmount := 0 }
    assert (sc'.refillSize == minRefills)
    return sc'
  else
    return sc

/-- `refill_new`. -/
def refillNew (cfg : TimerConfig) (ksCurTime maxRefills budget period : Nat) :
    Except Halt SchedContext := do
  let sc := { sc with
    scPeriod := period, scRefillHead := 0, scRefillTail := 0, scRefillMax := maxRefills }
  assert (decide (cfg.minBudget ≤ budget))
  let sc := sc.setRefillHead { sc.refillHead with rAmount := budget }
  let sc := sc.setRefillHead { sc.refillHead with rTime := ksCurTime }
  sc.maybeAddEmptyTail

/-- The start of `refill_update`: the head moves to the first cell and the queue is truncated to it. -/
def truncateToHead (newPeriod newMaxRefills : Nat) : SchedContext :=
  { sc.setRefillIndex 0 sc.refillHead with
    scRefillHead := 0, scRefillTail := 0, scRefillMax := newMaxRefills, scPeriod := newPeriod }

/-- The middle of `refill_update`: a head that is ready is released now. -/
def releaseHead (ksCurTime : Nat) : SchedContext :=
  if sc.refillReady ksCurTime then sc.setRefillHead { sc.refillHead with rTime := ksCurTime } else sc

/-- The end of `refill_update`: trim the head to the new budget, or schedule the rest. -/
def trimOrSchedule (newPeriod newBudget : Nat) : Except Halt SchedContext :=
  if sc.refillHead.rAmount ≥ newBudget then
    (sc.setRefillHead { sc.refillHead with rAmount := newBudget }).maybeAddEmptyTail
  else
    sc.refillAddTail
      { rAmount := sub64 newBudget sc.refillHead.rAmount
        rTime := add64 sc.refillHead.rTime newPeriod }

/-- `refill_update`. -/
def refillUpdate (ksCurTime newPeriod newBudget newMaxRefills : Nat) :
    Except Halt SchedContext := do
  assert (decide (sc.scRefillMax > 0))
  ((sc.truncateToHead newPeriod newMaxRefills).releaseHead ksCurTime).trimOrSchedule
    newPeriod newBudget

/-- `schedule_used`. -/
def scheduleUsed (new : Refill) : Except Halt SchedContext :=
  let tail := sc.refillTail
  if add64 tail.rTime tail.rAmount ≥ new.rTime then
    return sc.setRefillTail { tail with rAmount := add64 tail.rAmount new.rAmount }
  else if !sc.refillFull then
    sc.refillAddTail new
  else
    let sc := sc.setRefillTail { tail with rTime := sub64 new.rTime tail.rAmount }
    return sc.setRefillTail { sc.refillTail with rAmount := add64 tail.rAmount new.rAmount }

/-- `refill_head_overlapping`. -/
def refillHeadOverlapping : Bool :=
  if !sc.refillSingle then
    let head := sc.refillHead
    let tail := add64 head.rTime head.rAmount
    decide ((sc.refillIndex (sc.refillNext sc.scRefillHead)).rTime ≤ tail)
  else
    false

/-- `head_refill_overrun`. -/
def headRefillOverrun (cfg : TimerConfig) (usage : Nat) : Bool :=
  decide (sc.refillHead.rAmount ≤ usage) && decide (sc.refillHead.rTime < cfg.maxReleaseTime)

/-- `charge_entire_head_refill`. -/
def chargeEntireHeadRefill (usage : Nat) : Except Halt (Nat × SchedContext) := do
  let head := sc.refillHead
  let sc' ←
    if sc.refillSingle then
      pure (sc.setRefillHead { head with rTime := add64 head.rTime sc.scPeriod })
    else do
      let (oldHead, sc') ← sc.refillPopHead
      sc'.scheduleUsed { oldHead with rTime := add64 oldHead.rTime sc'.scPeriod }
  return (sub64 usage head.rAmount, sc')

/-- `handle_overrun`, for at most `fuel` rounds of its loop. -/
def handleOverrun (cfg : TimerConfig) : Nat → SchedContext → Nat → Except Halt (Nat × SchedContext)
  | 0, _, _ => .error .outOfFuel
  | fuel + 1, sc, usage =>
    if sc.headRefillOverrun cfg usage then do
      let (usage', sc') ← sc.chargeEntireHeadRefill usage
      handleOverrun cfg fuel sc' usage'
    else
      return (usage, sc)

/-- `head_refill_insufficient`. -/
def headRefillInsufficient (cfg : TimerConfig) : Bool :=
  decide (sc.refillHead.rAmount < cfg.minBudget)

/-- `merge_nonoverlapping_head_refill`. -/
def mergeNonoverlappingHeadRefill : Except Halt SchedContext := do
  let (head, sc) ← sc.refillPopHead
  let sc := sc.setRefillHead
    { sc.refillHead with rAmount := add64 sc.refillHead.rAmount head.rAmount }
  return sc.setRefillHead { sc.refillHead with rTime := sub64 sc.refillHead.rTime head.rAmount }

/-- The loop at the end of `refill_budget_check`, for at most `fuel` rounds. -/
def mergeInsufficient (cfg : TimerConfig) : Nat → SchedContext → Except Halt SchedContext
  | 0, _ => .error .outOfFuel
  | fuel + 1, sc =>
    if sc.headRefillInsufficient cfg then do
      let sc' ← sc.mergeNonoverlappingHeadRefill
      mergeInsufficient cfg fuel sc'
    else
      return sc

/-- The body of the `if` in `refill_budget_check`: charge a part of the head refill. -/
def chargePartialHeadRefill (usage : Nat) : Except Halt SchedContext := do
  let head := sc.refillHead
  assert (decide (head.rAmount > usage))
  let used : Refill := { rAmount := usage, rTime := add64 head.rTime sc.scPeriod }
  let sc := sc.setRefillHead { sc.refillHead with rAmount := sub64 head.rAmount usage }
  let sc := sc.setRefillHead { sc.refillHead with rTime := add64 head.rTime usage }
  sc.scheduleUsed used

/-- The `if` of `refill_budget_check`, on the usage that `handle_overrun` left over. -/
def chargeRemainingUsage (cfg : TimerConfig) (usage : Nat) : Except Halt SchedContext :=
  if usage > 0 ∧ sc.refillHead.rTime < cfg.maxReleaseTime then
    sc.chargePartialHeadRefill usage
  else
    return sc

/-- `refill_budget_check`. -/
def refillBudgetCheck (cfg : TimerConfig) (usage : Nat) : Except Halt SchedContext := do
  assert (!sc.isRoundRobin)
  let (usage, sc) ← handleOverrun cfg (usage + 1) sc usage
  let sc ← sc.chargeRemainingUsage cfg usage
  mergeInsufficient cfg sc.refillSize sc

/-- `merge_overlapping_head_refill`. -/
def mergeOverlappingHeadRefill : Except Halt SchedContext := do
  let (oldHead, sc) ← sc.refillPopHead
  let sc := sc.setRefillHead { sc.refillHead with rTime := oldHead.rTime }
  return sc.setRefillHead
    { sc.refillHead with rAmount := add64 sc.refillHead.rAmount oldHead.rAmount }

/-- The loop of `refill_unblock_check`, for at most `fuel` rounds. -/
def mergeOverlapping : Nat → SchedContext → Except Halt SchedContext
  | 0, _ => .error .outOfFuel
  | fuel + 1, sc =>
    if sc.refillHeadOverlapping then do
      let sc' ← sc.mergeOverlappingHeadRefill
      mergeOverlapping fuel sc'
    else
      return sc

/-- `refill_unblock_check`; it also sets `ksReprogram` when the head refill is ready. -/
def refillUnblockCheck (cfg : TimerConfig) (ksCurTime : Nat) : Except Halt SchedContext :=
  if sc.isRoundRobin then
    return sc
  else if sc.refillReady ksCurTime then do
    let sc := sc.setRefillHead { sc.refillHead with rTime := ksCurTime }
    let sc ← mergeOverlapping sc.refillSize sc
    assert (sc.refillSufficient cfg 0)
    return sc
  else
    return sc

end SchedContext

end NexsKernel
