import NexsKernel.Sporadic.NoWrap

/-!
# The clock of a node

What the kernel does with the current time on a core: `updateTimestamp`, `setNextInterrupt` (`thread.h`, `thread.c`)
and the operations on the current scheduling context, in any order. While another scheduling context runs, its time
is charged to it (`Op.charged`).

`setNextInterrupt` adds the time of the domain to the current time, and subtracts the precision of the timer. These two
are the operations that can wrap (`Fits`). All others never do.
-/

namespace NexsKernel.Clock

open SchedContext

/-- The part of the node state that the current time is accounted in, and the budget of the context. -/
structure Node where
  /-- `ksCurSC`. -/
  sc : SchedContext
  ksCurTime : Nat
  ksConsumed : Nat
  ksDomainTime : Nat
  /-- The last deadline of the timer. -/
  deadline : Nat
  budget : Option Nat

namespace Node

variable (p : PlatformTimer) (numDomains : Nat) (s : Node)

/-- The state of the scheduling context alone. -/
def refills : Refills.State :=
  { sc := s.sc, ksCurTime := s.ksCurTime, budget := s.budget }

/-- `isCurDomainExpired`. -/
def isCurDomainExpired : Bool :=
  decide (1 < numDomains) && s.ksDomainTime == 0

/-- `updateTimestamp`; `now` is what the timer returns. -/
def updateTimestamp (now : Nat) : Except Halt Node := do
  assert (decide (now < p.maxReleaseTime))
  let consumed := sub64 now s.ksCurTime
  let s := { s with ksCurTime := now, ksConsumed := add64 s.ksConsumed consumed }
  if 1 < numDomains then
    if add64 consumed p.minBudget ≥ s.ksDomainTime then
      return { s with ksDomainTime := 0 }
    else
      return { s with ksDomainTime := sub64 s.ksDomainTime consumed }
  else
    return s

/-- `setNextInterrupt`; `rlqHead` is the time of the first refill in the release queue. -/
def setNextInterrupt (rlqHead : Option Nat) : Except Halt Node := do
  let nextInterrupt := add64 s.ksCurTime s.sc.refillHead.rAmount
  let nextInterrupt := if 1 < numDomains then min nextInterrupt (add64 s.ksCurTime s.ksDomainTime) else nextInterrupt
  let nextInterrupt := match rlqHead with
    | some rTime => min rTime nextInterrupt
    | none => nextInterrupt
  assert (decide (nextInterrupt ≥ s.ksCurTime))
  return { s with deadline := sub64 nextInterrupt p.getTimerPrecision }

/-- `checkBudget`. -/
def checkBudget : Except Halt Node := do
  let (_, sc) ← s.sc.checkBudget p.toTimerConfig s.ksCurTime s.ksConsumed (s.isCurDomainExpired numDomains)
  -- `chargeBudget` leaves nothing to be charged
  if s.sc.refillSufficient p.toTimerConfig s.ksConsumed then
    return { s with sc }
  else
    return { s with sc, ksConsumed := 0 }

/-- `commitTime`. -/
def commitTime : Except Halt Node := do
  let sc ← s.sc.commitTime p.toTimerConfig s.ksCurTime s.ksConsumed
  return { s with sc, ksConsumed := 0 }

/-- `handleYield`. -/
def handleYield : Except Halt Node := do
  let consumed := add64 s.sc.scConsumed s.ksConsumed
  let sc ← s.sc.chargeBudget p.toTimerConfig s.sc.refillHead.rAmount
  return { s with sc := { sc with scConsumed := consumed }, ksConsumed := 0 }

end Node

/-- What a node does with its current time. -/
inductive Op where
  | updateTimestamp (now : Nat)
  | setNextInterrupt (rlqHead : Option Nat)
  | checkBudget
  | commitTime
  | handleYield
  /-- `SchedControl_ConfigureFlags` of this context, not while it is running. -/
  | configureFlags (core length : Nat) (args : Nat → Nat) (extraCap : Option Cap) (thread : Option Bool)
  | refillBudgetCheck (usage : Nat)
  | refillUnblockCheck
  /-- `schedContext_updateConsumed` leaves a part of the consumed time. -/
  | updateConsumed (scConsumed : Nat)
  /-- What was consumed has been charged to another context. -/
  | charged
  /-- `nextDomain`. -/
  | nextDomain (duration : Nat)
  /-- `invokeDomainScheduleSetStart` ends the current domain. -/
  | scheduleSetStart

/-- An operation on the node; a request that is refused changes nothing. -/
def exec (p : PlatformTimer) (numDomains : Nat) (s : Node) : Op → Except Halt Node
  | .updateTimestamp now => s.updateTimestamp p numDomains now
  | .setNextInterrupt rlqHead => s.setNextInterrupt p numDomains rlqHead
  | .checkBudget => s.checkBudget p numDomains
  | .commitTime => s.commitTime p
  | .handleYield => s.handleYield p
  | .configureFlags core length args extraCap thread =>
    match decodeSchedControlConfigureFlags p.toTimerConfig core length args extraCap with
    | .error _ => return s
    | .ok c => do
      let sc ← s.sc.invokeSchedControlConfigureFlags p.toTimerConfig s.ksCurTime thread none c
      return { s with sc, budget := some c.budget }
  | .refillBudgetCheck usage => do
    return { s with sc := ← s.sc.refillBudgetCheck p.toTimerConfig usage }
  | .refillUnblockCheck => do
    return { s with sc := ← s.sc.refillUnblockCheck p.toTimerConfig s.ksCurTime }
  | .updateConsumed scConsumed => return { s with sc := { s.sc with scConsumed } }
  | .charged => return { s with ksConsumed := 0 }
  | .nextDomain duration => return { s with ksDomainTime := duration }
  | .scheduleSetStart => return { s with ksDomainTime := 0 }

/-- `DSCHED_MAX_DURATION`. -/
def dschedMaxDuration : Nat := 2 ^ 56 - 1

/-- What the callers of an operation promise. -/
def Legal (p : PlatformTimer) (sizeBits : Nat) (s : Node) : Op → Prop
  | .updateTimestamp now => s.ksCurTime ≤ now ∧ now < p.maxReleaseTime
  | .setNextInterrupt rlqHead => s.sc.scActive = true ∧ ∀ time ∈ rlqHead, s.ksCurTime ≤ time
  | .checkBudget => s.sc.scActive = true ∧ s.sc.refillReady s.ksCurTime = true
  | .commitTime => s.sc.scActive = true → Committable p.toTimer s.ksCurTime s.sc s.ksConsumed
  | .handleYield => s.sc.scActive = true
  | .configureFlags _ _ _ extraCap _ => ∀ target bits, extraCap = some (.schedContext target bits) → bits = sizeBits
  | .refillBudgetCheck usage => s.sc.scActive = true ∧ s.sc.isRoundRobin = false ∧ usage < 2 ^ 64
  | .refillUnblockCheck => True
  | .updateConsumed scConsumed => scConsumed ≤ s.sc.scConsumed
  | .charged => True
  | .nextDomain duration => duration ≤ dschedMaxDuration
  | .scheduleSetStart => True

/-- The states of all runs. -/
inductive Reachable (p : PlatformTimer) (numDomains sizeBits : Nat) : Node → Prop
  | init {now} : now < p.maxReleaseTime →
      Reachable p numDomains sizeBits {
        sc := Refills.newSchedContext, ksCurTime := now, ksConsumed := 0, ksDomainTime := dschedMaxDuration
        deadline := 0, budget := none }
  | step {s s' op} : Reachable p numDomains sizeBits s → Legal p sizeBits s op → exec p numDomains s op = .ok s' →
      Reachable p numDomains sizeBits s'

end NexsKernel.Clock

namespace NexsKernel.Checked

open Clock

section

variable (p : PlatformTimer) (numDomains : Nat) (s : Node)

/-- `updateTimestamp`. -/
def updateTimestamp (now : Nat) : Except Halt Node := do
  assert (decide (now < (← maxReleaseTime p.toTimerConfig)))
  let consumed ← sub now s.ksCurTime
  let s := { s with ksCurTime := now, ksConsumed := ← add s.ksConsumed consumed }
  if 1 < numDomains then
    if (← add consumed (← minBudget p.toTimerConfig)) ≥ s.ksDomainTime then
      return { s with ksDomainTime := 0 }
    else
      return { s with ksDomainTime := ← sub s.ksDomainTime consumed }
  else
    return s

/-- The minimum with the end of the domain in `setNextInterrupt`. -/
def domainInterrupt (nextInterrupt : Nat) : Except Halt Nat := do
  if 1 < numDomains then
    return min nextInterrupt (← add s.ksCurTime s.ksDomainTime)
  else
    return nextInterrupt

/-- `setNextInterrupt`. -/
def setNextInterrupt (rlqHead : Option Nat) : Except Halt Node := do
  let nextInterrupt ← add s.ksCurTime s.sc.refillHead.rAmount
  let nextInterrupt ← domainInterrupt numDomains s nextInterrupt
  let nextInterrupt := match rlqHead with
    | some rTime => min rTime nextInterrupt
    | none => nextInterrupt
  assert (decide (nextInterrupt ≥ s.ksCurTime))
  return { s with deadline := ← sub nextInterrupt (← getTimerPrecision p) }

/-- `checkBudget` of the node. -/
def checkBudgetNode : Except Halt Node := do
  let (_, sc) ← checkBudget p.toTimerConfig s.ksCurTime s.sc s.ksConsumed (s.isCurDomainExpired numDomains)
  if ← refillSufficient p.toTimerConfig s.sc s.ksConsumed then
    return { s with sc }
  else
    return { s with sc, ksConsumed := 0 }

/-- `handleYield`. -/
def handleYield : Except Halt Node := do
  let consumed ← add s.sc.scConsumed s.ksConsumed
  let sc ← chargeBudget p.toTimerConfig s.sc s.sc.refillHead.rAmount
  return { s with sc := { sc with scConsumed := consumed }, ksConsumed := 0 }

/-- The part of `invokeSchedControl_ConfigureFlags` that sets the refills. -/
def configure (thread : Option Bool) (args : ConfigureFlags) : Except Halt SchedContext := do
  let sc ← refillConfigure p.toTimerConfig s.ksCurTime s.sc (thread == some true) args
  assert sc.scActive
  return { sc with scBadge := args.badge, scSporadic := args.flags.testBit 0 }

/-- The operations in which nothing may wrap. -/
def exec : Op → Except Halt Node
  | .updateTimestamp now => updateTimestamp p numDomains s now
  | .setNextInterrupt rlqHead => setNextInterrupt p numDomains s rlqHead
  | .checkBudget => checkBudgetNode p numDomains s
  | .handleYield => handleYield p s
  | .configureFlags core length args extraCap thread =>
    match decodeSchedControlConfigureFlags p.toTimerConfig core length args extraCap with
    | .error _ => return s
    | .ok c => do
      return { s with sc := ← configure p s thread c, budget := some c.budget }
  | .refillBudgetCheck usage => do
    return { s with sc := ← refillBudgetCheck p.toTimerConfig s.sc usage }
  | .refillUnblockCheck => do
    return { s with sc := ← refillUnblockCheck p.toTimerConfig s.ksCurTime s.sc }
  | op => Clock.exec p numDomains s op

end

end NexsKernel.Checked
