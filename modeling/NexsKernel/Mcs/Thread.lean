import NexsKernel.Mcs.Ipc

/-!
# Threads, faults, budgets and the scheduler

What happens to a thread from outside (`suspend`, `restart`, `setPriority`, `setDomain`), faults, replies,
the accounting of consumed time, and the scheduler itself (`kernel/thread.c`, `kernel/thread.h`,
`kernel/faulthandler.c`).
-/

namespace NexsKernel.Mcs

namespace Kernel

variable (cfg : KernelConfig) (s : Kernel)

/-- `suspend`. -/
def suspend (target : TcbPtr) : Kernel :=
  let s := s.cancelIPC target
  let s := s.tcbSchedDequeue cfg target
  let s := s.tcbReleaseRemove target
  let s := s.schedContextCancelYieldTo target
  s.setThreadState target .inactive

/-- `restart`. -/
def restart (target : TcbPtr) : Kernel :=
  if (s.tsType target).isStopped then
    let s := s.cancelIPC target
    let s := s.setThreadState target .restart
    let sc := s.tcbSchedContext target
    let s := s.unblockSporadic cfg sc
    let s := s.schedContextResume cfg sc
    if s.isSchedulable target then s.possibleSwitchTo cfg target else s
  else
    s

/-- `setDomain`. -/
def setDomain (t : TcbPtr) (dom : Nat) : Kernel :=
  let s := s.tcbSchedDequeue cfg t
  let s := { s with tcbDomain := Function.update s.tcbDomain t dom }
  let s := if s.isSchedulable t then s.tcbSchedEnqueue cfg t else s
  if t = s.ksCurThread then s.rescheduleRequired cfg else s

/-- `setMCPriority`. -/
def setMCPriority (t : TcbPtr) (mcp : Nat) : Kernel :=
  { s with tcbMCP := Function.update s.tcbMCP t mcp }

/-- A store to `tcbPriority`. -/
def setTcbPriority (t : TcbPtr) (prio : Nat) : Kernel :=
  { s with tcbPriority := Function.update s.tcbPriority t prio }

/-- `setPriority`. -/
def setPriority (t : TcbPtr) (prio : Nat) : Kernel :=
  match s.tsType t with
  | .running | .restart =>
    if s.tcbQueued t = true ∨ t = s.ksCurThread then
      let s := s.tcbSchedDequeue cfg t
      let s := s.setTcbPriority t prio
      let s := s.tcbSchedEnqueue cfg t
      s.rescheduleRequired cfg
    else
      s.setTcbPriority t prio
  | .blockedOnReceive | .blockedOnSend =>
    let s := s.setTcbPriority t prio
    s.reorderEP (s.blockingObject t) t
  | .blockedOnNotification =>
    let s := s.setTcbPriority t prio
    s.reorderNTFN (s.blockingObject t) t
  | _ => s.setTcbPriority t prio

/-- `sendFaultIPC` with the fault in `current_fault`; it returns whether there is a handler. -/
def sendFaultIPC (t : TcbPtr) (handlerCap : Option EndpointCap) (canDonate : Bool) (fault : Fault) :
    Kernel × Bool :=
  match handlerCap with
  | some cap =>
    let s := s.assert cap.capCanSend
    let s := s.assert (cap.capCanGrant || cap.capCanGrantReply)
    let s := s.setTcbFault t fault
    (s.sendIPC cfg true false cap.capEPBadge cap.capCanGrant cap.capCanGrantReply canDonate t
      cap.capEPPtr, true)
  | none => (s, false)

/-- `handleFault`, with `handleNoFaultHandler`. -/
def handleFault (t : TcbPtr) (fault : Fault) : Kernel :=
  let r := s.sendFaultIPC cfg t (s.tcbFaultHandler t) (s.tcbSchedContext t != none) fault
  if r.2 then r.1 else r.1.setThreadState t .inactive

/-- `validTimeoutHandler`. -/
def validTimeoutHandler (t : TcbPtr) : Bool :=
  s.tcbTimeoutHandler t != none

/-- `handleTimeout`. -/
def handleTimeout (t : TcbPtr) : Kernel :=
  let s := s.assert (s.validTimeoutHandler t)
  (s.sendFaultIPC cfg t (s.tcbTimeoutHandler t) false .timeout).1

/-- The end of `doReplyTransfer`: a receiver without time is given to its timeout handler or waits for its
next refill. -/
def resumeReceiver (receiver : TcbPtr) (faultType : Fault) : Kernel :=
  match s.tcbSchedContext receiver with
  | some sc =>
    if s.isRunnable receiver then
      if s.refillReady receiver && s.refillSufficient cfg receiver then
        s.possibleSwitchTo cfg receiver
      else if s.validTimeoutHandler receiver && faultType != .timeout then
        s.handleTimeout cfg receiver
      else
        s.postpone cfg sc
    else
      s
  | none => s

/-- The state of the receiver after the transfer in `doReplyTransfer`; `restart` is the result of
`handleFaultReply`, which depends on the message. -/
def replyToThread (receiver : TcbPtr) (restart : Bool) : Kernel :=
  if s.tcbFault receiver = .nullFault then
    (s.doIPCTransfer receiver 0).setThreadState receiver .running
  else
    let s := s.setTcbFault receiver .nullFault
    s.setThreadState receiver (if restart then .restart else .inactive)

/-- `doReplyTransfer`. -/
def doReplyTransfer (reply : ReplyPtr) (restart : Bool) : Kernel :=
  match s.replyTCB reply with
  | some receiver =>
    if s.tsType receiver = .blockedOnReply then
      let s := s.replyRemove cfg reply receiver
      let s := s.assert (s.tsType receiver == .inactive)
      let s := s.assert (s.replyTCB reply == none)
      let s := s.unblockSporadic cfg (s.tcbSchedContext receiver)
      let faultType := s.tcbFault receiver
      let s := s.replyToThread receiver restart
      s.resumeReceiver cfg receiver faultType
    else
      s
  | none => s

/-- `isRoundRobin` for the current scheduling context. -/
def curScRoundRobin : Bool :=
  (s.schedContext s.ksCurSC).isRoundRobin

/-- `endTimeslice`. -/
def endTimeslice (canTimeoutFault : Bool) : Kernel :=
  if canTimeoutFault && !s.curScRoundRobin && s.validTimeoutHandler s.ksCurThread then
    s.handleTimeout cfg s.ksCurThread
  else if (s.schedContext s.ksCurSC).refillReady s.ksCurTime &&
      (s.schedContext s.ksCurSC).refillSufficient cfg.toTimerConfig 0 then
    (s.assert (!s.tcbQueued s.ksCurThread)).tcbSchedAppend cfg s.ksCurThread
  else
    s.postpone cfg s.ksCurSC

/-- `chargeBudget`. -/
def chargeBudget (consumed : Nat) (canTimeoutFault : Bool) : Kernel :=
  let s :=
    if s.ksCurSC ≠ s.ksIdleSC then
      s.setSchedContext s.ksCurSC ((s.schedContext s.ksCurSC).chargeBudget cfg.toTimerConfig consumed)
    else
      s
  let s := { s with ksConsumed := 0 }
  if s.isSchedulable s.ksCurThread then
    let s := s.assert (s.tcbSchedContext s.ksCurThread == some s.ksCurSC)
    let s := s.endTimeslice cfg canTimeoutFault
    let s := s.rescheduleRequired cfg
    { s with ksReprogram := true }
  else
    s

/-- `updateTimestamp`, when the timer reads `now`. -/
def updateTimestamp (now : Nat) : Kernel :=
  let consumed := sub64 now s.ksCurTime
  let s := { s with ksCurTime := now }
  let s := s.assert (decide (now < cfg.maxReleaseTime))
  { s with
    ksConsumed := add64 s.ksConsumed consumed
    ksDomainTime :=
      if cfg.numDomains > 1 then
        if add64 consumed cfg.minBudget ≥ s.ksDomainTime then 0 else sub64 s.ksDomainTime consumed
      else
        s.ksDomainTime }

/-- `checkDomainTime`. -/
def checkDomainTime : Kernel :=
  if s.isCurDomainExpired cfg then
    { s with ksReprogram := true }.rescheduleRequired cfg
  else
    s

/-- `checkBudget`. -/
def checkBudget : Kernel × Bool :=
  let s := s.assert ((s.schedContext s.ksCurSC).refillReady s.ksCurTime)
  if (s.schedContext s.ksCurSC).refillSufficient cfg.toTimerConfig s.ksConsumed then
    (s, !s.isCurDomainExpired cfg)
  else
    (s.chargeBudget cfg s.ksConsumed true, false)

/-- `checkBudgetRestart`. -/
def checkBudgetRestart : Kernel × Bool :=
  let s := s.assert (s.isRunnable s.ksCurThread)
  let r := s.checkBudget cfg
  let s := r.1
  if !r.2 && s.isRunnable s.ksCurThread then
    (s.setThreadState s.ksCurThread .restart, r.2)
  else
    (s, r.2)

/-- `mcsPreemptionPoint`. -/
def mcsPreemptionPoint : Kernel :=
  if s.isSchedulable s.ksCurThread then
    (s.checkBudget cfg).1
  else if (s.schedContext s.ksCurSC).scActive then
    s.chargeBudget cfg s.ksConsumed false
  else
    { s with ksConsumed := 0 }

/-- `commitTime`. -/
def commitTime : Kernel :=
  let s :=
    if s.ksCurSC ≠ s.ksIdleSC then
      s.setSchedContext s.ksCurSC
        ((s.schedContext s.ksCurSC).commitTime cfg.toTimerConfig s.ksCurTime s.ksConsumed)
    else
      s
  { s with ksConsumed := 0 }

/-- `nextDomain`. -/
def nextDomain : Kernel :=
  let idx := s.ksDomScheduleIdx + 1
  let idx := if s.ksDomSchedule idx = ⟨0, 0⟩ then s.ksDomScheduleStart else idx
  { s with
    ksDomScheduleIdx := idx
    ksReprogram := true
    ksCurDomain := (s.ksDomSchedule idx).domain
    ksDomainTime := (s.ksDomSchedule idx).duration }

/-- `switchToThread`. -/
def switchToThread (t : TcbPtr) : Kernel :=
  let s := s.assert (s.tcbSchedContext t != none)
  let s := s.assert (!s.tcbInReleaseQueue t)
  let s := s.assert (s.refillSufficient cfg t)
  let s := s.assert (s.refillReady t)
  let s := s.tcbSchedDequeue cfg t
  { s with ksCurThread := t }

/-- `switchToIdleThread`. -/
def switchToIdleThread : Kernel :=
  { s with ksCurThread := s.ksIdleThread }

/-- `chooseThread`. -/
def chooseThread : Kernel :=
  let dom := if cfg.numDomains > 1 then s.ksCurDomain else 0
  if s.ksReadyQueuesL1Bitmap dom ≠ 0 then
    let prio := s.toRunQueues.getHighestPrio cfg dom
    match (s.ksReadyQueues (readyQueuesIndex cfg dom prio)).head with
    | some t =>
      let s := s.assert (s.isSchedulable t)
      let s := s.assert (s.refillSufficient cfg t)
      let s := s.assert (s.refillReady t)
      s.switchToThread cfg t
    | none => s.fail
  else
    s.switchToIdleThread

/-- `scheduleChooseNewThread`. -/
def scheduleChooseNewThread : Kernel :=
  let s := if s.ksDomainTime = 0 then s.nextDomain else s
  s.chooseThread cfg

/-- `tcbReleaseDequeue`. -/
def tcbReleaseDequeue (awakened : TcbPtr) : Kernel :=
  let s := s.assert (s.schedLinks.prev awakened == none)
  let s := s.assert (awakened != s.ksCurThread)
  let s := s.tcbReleaseRemove awakened
  let s := s.assert (s.scTest awakened fun sc => !sc.isRoundRobin)
  let s := s.assert (s.refillSufficient cfg awakened)
  s.possibleSwitchTo cfg awakened

/-- The loop of `awaken`. -/
def awakenLoop : Nat → Kernel → Kernel
  | 0, s => s.fail
  | fuel + 1, s =>
    match s.ksReleaseQueue.head with
    | some t => if s.refillReady t then awakenLoop fuel (s.tcbReleaseDequeue cfg t) else s
    | none => s

/-- `awaken`. -/
def awaken : Kernel :=
  awakenLoop cfg walkFuel s

/-- `switchSchedContext`. -/
def switchSchedContext : Kernel :=
  match s.tcbSchedContext s.ksCurThread with
  | none => s.fail
  | some sc =>
    let s :=
      if s.ksCurSC ≠ sc then
        let s := { s with ksReprogram := true }
        let s := if (s.schedContext sc).scSporadic then s else s.refillUnblockCheck cfg sc
        let s := s.assert ((s.schedContext sc).refillReady s.ksCurTime)
        s.assert ((s.schedContext sc).refillSufficient cfg.toTimerConfig 0)
      else
        s
    let s := if s.ksReprogram then s.commitTime cfg else s
    { s with ksCurSC := sc }

/-- The time for which `setNextInterrupt` programs the timer, before the precision is subtracted. -/
def nextInterrupt : Nat :=
  let amount :=
    match s.tcbSchedContext s.ksCurThread with
    | some sc => (s.schedContext sc).refillHead.rAmount
    | none => 0
  let next := add64 s.ksCurTime amount
  let next := if cfg.numDomains > 1 then min next (add64 s.ksCurTime s.ksDomainTime) else next
  match s.ksReleaseQueue.head with
  | some t => min (s.tcbReadyTime t) next
  | none => next

/-- `setNextInterrupt`. -/
def setNextInterrupt : Kernel :=
  s.assert (decide (s.nextInterrupt cfg ≥ s.ksCurTime))

/-- The part of `schedule` for a candidate. -/
def scheduleCandidate (wasRunnable : Bool) (candidate : TcbPtr) : Kernel :=
  let s := s.assert (s.isSchedulable candidate)
  let fastfail := s.ksCurThread = s.ksIdleThread ∨ s.tcbPriority candidate < s.tcbPriority s.ksCurThread
  if fastfail ∧ s.toRunQueues.isHighestPrio cfg s.ksCurDomain (s.tcbPriority candidate) = false then
    let s := s.tcbSchedEnqueue cfg candidate
    let s := { s with ksSchedulerAction := .chooseNewThread }
    s.scheduleChooseNewThread cfg
  else if wasRunnable = true ∧ s.tcbPriority candidate = s.tcbPriority s.ksCurThread then
    let s := s.tcbSchedAppend cfg candidate
    let s := { s with ksSchedulerAction := .chooseNewThread }
    s.scheduleChooseNewThread cfg
  else
    let s := s.assert (candidate != s.ksCurThread)
    s.switchToThread cfg candidate

/-- The part of `schedule` that chooses the thread. -/
def scheduleThread : Kernel :=
  match s.ksSchedulerAction with
  | .resumeCurrentThread => s
  | action =>
    let wasRunnable := s.isSchedulable s.ksCurThread
    let s := if wasRunnable then s.tcbSchedEnqueue cfg s.ksCurThread else s
    match action with
    | .switchTo candidate => s.scheduleCandidate cfg wasRunnable candidate
    | _ => s.scheduleChooseNewThread cfg

/-- `schedule`. -/
def schedule : Kernel :=
  let s := s.awaken cfg
  let s := s.checkDomainTime cfg
  let s := s.scheduleThread cfg
  let s := { s with ksSchedulerAction := .resumeCurrentThread }
  let s := s.switchSchedContext cfg
  if s.ksReprogram then
    { s.setNextInterrupt cfg with ksReprogram := false }
  else
    s

/-- `activateThread`. -/
def activateThread : Kernel :=
  let s :=
    if s.tcbYieldTo s.ksCurThread ≠ none then
      let s := s.schedContextCompleteYieldTo cfg s.ksCurThread
      s.assert (s.tsType s.ksCurThread == .running)
    else
      s
  match s.tsType s.ksCurThread with
  | .running | .idleThreadState => s
  | .restart => s.setThreadState s.ksCurThread .running
  | _ => s.fail

end Kernel

end NexsKernel.Mcs
