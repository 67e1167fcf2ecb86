import NexsKernel.Mcs.Queues

/-!
# Scheduling primitives

Which threads can run, how a thread is put into a queue of the scheduler, and how a scheduling context
moves between threads (`kernel/thread.h`, `kernel/thread.c`, `object/tcb.c`, `object/schedcontext.c`).
-/

namespace NexsKernel.Mcs

open Function (update)

/-- `isRunnable`. -/
def ThreadState.isRunnable : ThreadState → Bool
  | running | restart => true
  | _ => false

/-- `isBlocked`. -/
def ThreadState.isBlocked : ThreadState → Bool
  | blockedOnReceive | blockedOnSend | blockedOnNotification | blockedOnReply => true
  | _ => false

/-- `isStopped`. -/
def ThreadState.isStopped : ThreadState → Bool
  | inactive | blockedOnReceive | blockedOnSend | blockedOnNotification | blockedOnReply => true
  | _ => false

namespace Kernel

variable (cfg : KernelConfig) (s : Kernel)

/-- `isRunnable`. -/
def isRunnable (t : TcbPtr) : Bool :=
  (s.tsType t).isRunnable

/-- A test of the scheduling context of a thread; without one the test fails. -/
def scTest (t : TcbPtr) (p : SchedContext → Bool) : Bool :=
  match s.tcbSchedContext t with
  | some sc => p (s.schedContext sc)
  | none => false

/-- `refill_sufficient` for the scheduling context of a thread. -/
def refillSufficient (t : TcbPtr) : Bool :=
  s.scTest t fun sc => sc.refillSufficient cfg.toTimerConfig 0

/-- `refill_ready` for the scheduling context of a thread. -/
def refillReady (t : TcbPtr) : Bool :=
  s.scTest t fun sc => sc.refillReady s.ksCurTime

/-- `isSchedulable`. -/
def isSchedulable (t : TcbPtr) : Bool :=
  s.isRunnable t && s.scTest t SchedContext.scActive && !s.tcbInReleaseQueue t

/-- `sc_released`. -/
def scReleased (sc : ScPtr) : Bool :=
  (s.schedContext sc).scActive && (s.schedContext sc).refillReady s.ksCurTime

/-- `sc_sporadic`. -/
def scSporadic (sc : Option ScPtr) : Bool :=
  match sc with
  | some sc => (s.schedContext sc).scSporadic
  | none => false

/-- The assertion of `sc_sporadic`. -/
def assertSporadic (sc : Option ScPtr) : Kernel :=
  match sc with
  | some sc => s.assert (!(s.schedContext sc).scSporadic || (s.schedContext sc).scActive)
  | none => s

/-- `isCurDomainExpired`. -/
def isCurDomainExpired : Bool :=
  decide (cfg.numDomains > 1) && s.ksDomainTime == 0

/-- `tcbReadyTime`; a thread without a scheduling context has none. -/
def tcbReadyTime (t : TcbPtr) : Nat :=
  match s.tcbSchedContext t with
  | some sc => (s.schedContext sc).refillHead.rTime
  | none => 0

/-- `tcbSchedEnqueue`. -/
def tcbSchedEnqueue (t : TcbPtr) : Kernel :=
  let s := s.assert (s.isSchedulable t)
  let s := s.assert (s.refillSufficient cfg t)
  { s with toRunQueues := s.toRunQueues.schedEnqueue cfg (s.tcbDomain t) (s.tcbPriority t) t }

/-- `tcbSchedAppend`. -/
def tcbSchedAppend (t : TcbPtr) : Kernel :=
  let s := s.assert (s.isSchedulable t)
  let s := s.assert (s.refillSufficient cfg t)
  let s := s.assert (s.refillReady t)
  { s with toRunQueues := s.toRunQueues.schedAppend cfg (s.tcbDomain t) (s.tcbPriority t) t }

/-- `tcbSchedDequeue`. -/
def tcbSchedDequeue (t : TcbPtr) : Kernel :=
  { s with toRunQueues := s.toRunQueues.schedDequeue cfg (s.tcbDomain t) (s.tcbPriority t) t }

/-- `tcbReleaseRemove`. -/
def tcbReleaseRemove (t : TcbPtr) : Kernel :=
  { s with
    toRunQueues := s.toRunQueues.releaseRemove t
    ksReprogram := s.ksReprogram || (s.tcbInReleaseQueue t && s.ksReleaseQueue.head == some t) }

/-- `tcbReleaseEnqueue`. -/
def tcbReleaseEnqueue (t : TcbPtr) : Kernel :=
  let s := s.assert (!s.tcbInReleaseQueue t)
  let s := s.assert (!s.tcbQueued t)
  let s := s.assert (s.toRunQueues.releasePlaced s.tcbReadyTime t)
  let r := s.toRunQueues.releaseEnqueue s.tcbReadyTime t
  { s with
    toRunQueues := r
    ksReprogram := s.ksReprogram || s.ksReleaseQueue.head != r.ksReleaseQueue.head }

/-- The result of a refill operation on a scheduling context. -/
def setSchedContext (sc : ScPtr) (result : Except Halt SchedContext) : Kernel :=
  match result with
  | .ok c => { s with schedContext := update s.schedContext sc c }
  | .error _ => s.fail

/-- `refill_unblock_check`. -/
def refillUnblockCheck (sc : ScPtr) : Kernel :=
  let c := s.schedContext sc
  let s := s.setSchedContext sc (c.refillUnblockCheck cfg.toTimerConfig s.ksCurTime)
  { s with ksReprogram := s.ksReprogram || (!c.isRoundRobin && c.refillReady s.ksCurTime) }

/-- The pattern `if (sc_sporadic(sc) && sc != ksCurSC) refill_unblock_check(sc);`. -/
def unblockSporadic (sc : Option ScPtr) : Kernel :=
  let s := s.assertSporadic sc
  match sc with
  | some c => if s.scSporadic sc && c != s.ksCurSC then s.refillUnblockCheck cfg c else s
  | none => s

/-- The same pattern where the code also asserts that `sc` is not the current one. -/
def unblockSporadicAssert (sc : Option ScPtr) : Kernel :=
  match sc with
  | some c => (s.assert (!s.scSporadic sc || c != s.ksCurSC)).unblockSporadic cfg sc
  | none => s

/-- `rescheduleRequired`. -/
def rescheduleRequired : Kernel :=
  let s :=
    match s.ksSchedulerAction with
    | .switchTo t =>
      if s.isSchedulable t then
        let s := s.assert (s.refillSufficient cfg t)
        let s := s.assert (s.refillReady t)
        s.tcbSchedEnqueue cfg t
      else
        s
    | _ => s
  { s with ksSchedulerAction := .chooseNewThread }

/-- `possibleSwitchTo`. -/
def possibleSwitchTo (target : TcbPtr) : Kernel :=
  if s.tcbSchedContext target ≠ none ∧ s.tcbInReleaseQueue target = false then
    if s.ksCurDomain ≠ s.tcbDomain target then
      s.tcbSchedEnqueue cfg target
    else if s.ksSchedulerAction ≠ .resumeCurrentThread then
      (s.rescheduleRequired cfg).tcbSchedEnqueue cfg target
    else
      { s with ksSchedulerAction := .switchTo target }
  else
    s

/-- `scheduleTCB`. -/
def scheduleTCB (t : TcbPtr) : Kernel :=
  if t = s.ksCurThread ∧ s.ksSchedulerAction = .resumeCurrentThread ∧ s.isSchedulable t = false then
    { s with ksSchedulerAction := .chooseNewThread }
  else
    s

/-- `setThreadState`. -/
def setThreadState (t : TcbPtr) (ts : ThreadState) : Kernel :=
  (s.setTsType t ts).scheduleTCB t

/-- `postpone`. -/
def postpone (sc : ScPtr) : Kernel :=
  match s.scTcb sc with
  | none => s.fail
  | some t => { (s.tcbSchedDequeue cfg t).tcbReleaseEnqueue t with ksReprogram := true }

/-- `schedContext_resume`. -/
def schedContextResume (sc : Option ScPtr) : Kernel :=
  match sc with
  | none => s
  | some c =>
    match s.scTcb c with
    | none => s.fail
    | some t =>
      if s.isSchedulable t then
        if (s.schedContext c).refillReady s.ksCurTime &&
            (s.schedContext c).refillSufficient cfg.toTimerConfig 0 then
          s
        else
          (s.assert (!s.tcbQueued t)).postpone cfg c
      else
        s

/-- `schedContext_bindTCB`. -/
def schedContextBindTCB (sc : ScPtr) (t : TcbPtr) : Kernel :=
  let s := s.assert (s.scTcb sc == none)
  let s := s.assert (s.tcbSchedContext t == none)
  let s := s.setTcbSchedContext t (some sc)
  let s := s.setScTcb sc (some t)
  let s := s.assertSporadic (some sc)
  let s :=
    if s.scSporadic (some sc) && (s.schedContext sc).scActive && sc != s.ksCurSC then
      s.refillUnblockCheck cfg sc
    else
      s
  let s := s.schedContextResume cfg (some sc)
  if s.isSchedulable t then
    (s.tcbSchedEnqueue cfg t).rescheduleRequired cfg
  else
    s

/-- `schedContext_unbindTCB`. -/
def schedContextUnbindTCB (sc : ScPtr) : Kernel :=
  match s.scTcb sc with
  | none => s.fail
  | some t =>
    let s := if t = s.ksCurThread then s.rescheduleRequired cfg else s
    let s := s.tcbSchedDequeue cfg t
    let s := s.tcbReleaseRemove t
    let s := s.setTcbSchedContext t none
    s.setScTcb sc none

/-- `schedContext_unbindAllTCBs`. -/
def schedContextUnbindAllTCBs (sc : ScPtr) : Kernel :=
  if s.scTcb sc ≠ none then s.schedContextUnbindTCB cfg sc else s

/-- The part of `schedContext_donate` that takes the context away from its thread. -/
def takeFromDonor (sc : ScPtr) : Kernel :=
  match s.scTcb sc with
  | none => s
  | some donor =>
    let s := s.tcbSchedDequeue cfg donor
    let s := s.tcbReleaseRemove donor
    let s := s.setTcbSchedContext donor none
    if donor = s.ksCurThread ∨ s.ksSchedulerAction = .switchTo donor then
      s.rescheduleRequired cfg
    else
      s

/-- `schedContext_donate`. -/
def schedContextDonate (sc : Option ScPtr) (dest : TcbPtr) : Kernel :=
  match sc with
  | none => s.fail
  | some sc =>
    let s := s.assert (s.tcbSchedContext dest == none)
    let s := s.takeFromDonor cfg sc
    let s := s.setScTcb sc (some dest)
    s.setTcbSchedContext dest (some sc)

/-- `schedContext_bindNtfn`. -/
def schedContextBindNtfn (sc : ScPtr) (ntfn : NtfnPtr) : Kernel :=
  { s with
    ntfnSchedContext := update s.ntfnSchedContext ntfn (some sc)
    scNotification := update s.scNotification sc (some ntfn) }

/-- `schedContext_unbindNtfn`. -/
def schedContextUnbindNtfn (sc : ScPtr) : Kernel :=
  match s.scNotification sc with
  | some ntfn =>
    { s with
      ntfnSchedContext := update s.ntfnSchedContext ntfn none
      scNotification := update s.scNotification sc none }
  | none => s

/-- `schedContextMaybeUnbindNtfn`. -/
def schedContextMaybeUnbindNtfn (ntfn : NtfnPtr) : Kernel :=
  match s.ntfnSchedContext ntfn with
  | some sc => s.schedContextUnbindNtfn sc
  | none => s

/-- `schedContext_unbindReply`. -/
def schedContextUnbindReply (sc : ScPtr) : Kernel :=
  match s.scReply sc with
  | some r =>
    let s := s.assert (match s.replyNext r with | .head _ => true | _ => false)
    { s with
      replyNext := update s.replyNext r .null
      scReply := update s.scReply sc none }
  | none => s

/-- `getMaxTicksToUs`. -/
def getMaxTicksToUs : Nat :=
  if cfg.useKhz then uint64Max / cfg.timerClockKhz else uint64Max

/-- `schedContext_updateConsumed`, without the value that is reported. -/
def schedContextUpdateConsumed (sc : ScPtr) : Kernel :=
  let c := s.schedContext sc
  let limit := getMaxTicksToUs cfg
  let consumed := if c.scConsumed ≥ limit then c.scConsumed - limit else 0
  { s with schedContext := update s.schedContext sc { c with scConsumed := consumed } }

/-- `setConsumed`; the message it writes sets the badge register to zero. -/
def setConsumed (sc : ScPtr) (t : TcbPtr) (writeMsg : Bool) : Kernel :=
  let s := s.schedContextUpdateConsumed cfg sc
  if writeMsg then s.setBadgeRegister t 0 else s

/-- `schedContext_cancelYieldTo`. -/
def schedContextCancelYieldTo (t : TcbPtr) : Kernel :=
  match s.tcbYieldTo t with
  | some sc =>
    { s with
      scYieldFrom := update s.scYieldFrom sc none
      tcbYieldTo := update s.tcbYieldTo t none }
  | none => s

/-- `schedContext_completeYieldTo`. -/
def schedContextCompleteYieldTo (yielder : TcbPtr) : Kernel :=
  match s.tcbYieldTo yielder with
  | some sc => (s.setConsumed cfg sc yielder true).schedContextCancelYieldTo yielder
  | none => s

/-- The pattern `if (sc->scYieldFrom) schedContext_completeYieldTo(sc->scYieldFrom);`. -/
def completeYieldFrom (sc : ScPtr) : Kernel :=
  match s.scYieldFrom sc with
  | some t => s.schedContextCompleteYieldTo cfg t
  | none => s

/-- `maybeReturnSchedContext`. -/
def maybeReturnSchedContext (ntfn : NtfnPtr) (t : TcbPtr) : Kernel :=
  match s.ntfnSchedContext ntfn with
  | some sc =>
    if s.tcbSchedContext t = some sc then
      let s := s.setTcbSchedContext t none
      let s := s.setScTcb sc none
      if t = s.ksCurThread then s.rescheduleRequired cfg else s
    else
      s
  | none => s

/-- `maybeDonateSchedContext`. -/
def maybeDonateSchedContext (t : TcbPtr) (ntfn : NtfnPtr) : Kernel :=
  if s.tcbSchedContext t = none then
    match s.ntfnSchedContext ntfn with
    | some sc =>
      if s.scTcb sc = none then
        (s.schedContextDonate cfg (some sc) t).schedContextResume cfg (some sc)
      else
        s
    | none => s
  else
    s

end Kernel

end NexsKernel.Mcs
