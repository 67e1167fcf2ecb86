import NexsKernel.Mcs.Thread
import NexsKernel.Sporadic.Run

/-!
# Invocations

The decode and invoke functions of the objects of this model (`object/tcb.c`, `object/schedcontext.c`,
`object/schedcontrol.c`, `object/domain.c`, `object/objecttype.c`). The capabilities in a message have been
looked up: an invocation names the objects they refer to, and a message that a decode function refuses for
its form alone is `Invocation.refused`.

Operations on capabilities change the objects of this model in few ways: the last capability to an object
is deleted, a handler slot of a thread is emptied, objects are created, and time passes at a preemption
point. `CapEffect` lists them, and an operation on capabilities is any sequence of them.
-/

namespace NexsKernel.Mcs

open Function (update)

/-- An object of this model. -/
inductive ObjRef where
  | tcb (t : TcbPtr)
  | endpoint (ep : EpPtr)
  | notification (ntfn : NtfnPtr)
  | reply (r : ReplyPtr)
  | schedContext (sc : ScPtr)
  deriving DecidableEq, Repr

/-- What an operation on capabilities does to the objects of this model. -/
inductive CapEffect where
  /-- The last capability to an object is deleted. -/
  | finalise (o : ObjRef)
  /-- The fault handler slot of a thread is emptied. -/
  | clearFaultHandler (t : TcbPtr)
  /-- The timeout handler slot of a thread is emptied. -/
  | clearTimeoutHandler (t : TcbPtr)
  /-- A fault handler is installed. -/
  | setFaultHandler (t : TcbPtr) (cap : EndpointCap)
  /-- A timeout handler is installed. -/
  | setTimeoutHandler (t : TcbPtr) (cap : EndpointCap)
  /-- `createObject`; the size is that of a scheduling context. -/
  | create (o : ObjRef) (sizeBits : Nat)
  /-- `preemptionPoint` reads the time and does not preempt. -/
  | preemptionPoint (now : Nat)

/-- How an operation on capabilities ends. -/
inductive CapOutcome where
  | done
  /-- `preemptionPoint` reads the time and preempts the operation. -/
  | preempted (now : Nat)

/-- The invocations of a thread. -/
inductive TcbInvocation where
  | readRegisters (suspendSource : Bool)
  | writeRegisters (resumeTarget : Bool)
  | copyRegisters (src : TcbPtr) (suspendSource resumeTarget : Bool)
  | suspend
  | resume
  | setPriority (auth : TcbPtr) (prio : Nat)
  | setMCPriority (auth : TcbPtr) (mcp : Nat)
  /-- `final` says whether the old fault handler is the last capability to its endpoint. -/
  | setSchedParams (auth : TcbPtr) (mcp prio : Nat) (sc : Option ScPtr) (fh : Option EndpointCap)
      (final : Bool)
  /-- `invokeTCB_ThreadControlCaps`, for the capabilities it installs and the IPC buffer. -/
  | threadControlCaps (effects : List CapEffect) (outcome : CapOutcome) (updateIpcBuffer : Bool)
  | bindNotification (cap : NotificationCap)
  | unbindNotification

/-- The invocations of a scheduling context. -/
inductive ScInvocation where
  | consumed
  | bindTcb (t : TcbPtr)
  | bindNtfn (ntfn : NtfnPtr)
  | unbindTcb (t : TcbPtr)
  | unbindNtfn (ntfn : NtfnPtr)
  | unbind
  | yieldTo

/-- The invocations of the domain capability. -/
inductive DomainInvocation where
  | set (t : TcbPtr) (dom : Nat)
  | scheduleConfigure (index domain duration : Nat)
  | scheduleSetStart (index : Nat)

/-- An invocation of a capability, with the objects that its message names. -/
inductive Invocation where
  | refused (e : SyscallError)
  | endpoint (cap : EndpointCap)
  | notification (cap : NotificationCap)
  /-- `restart` is what `handleFaultReply` makes of the message. -/
  | reply (cap : ReplyCap) (restart : Bool)
  | tcb (t : TcbPtr) (inv : TcbInvocation)
  | domain (inv : DomainInvocation)
  | schedControl (core length : Nat) (args : Nat → Nat) (target : Option ScPtr)
  | schedContext (sc : ScPtr) (inv : ScInvocation)
  /-- `seL4_CNode_CancelBadgedSends`. -/
  | cancelBadgedSends (cap : EndpointCap)
  /-- Operations on capabilities; `phase` says whether the capability can be invoked in the first phase of
  a combined system call. -/
  | capOperation (phase : Bool) (effects : List CapEffect) (outcome : CapOutcome)

namespace Kernel

variable (cfg : KernelConfig) (s : Kernel)

/-- `finaliseCap` for the last capability to an endpoint. -/
def finaliseEndpoint (ep : EpPtr) : Kernel :=
  let s := s.cancelAllIPC cfg ep
  { s with epExists := update s.epExists ep false }

/-- `finaliseCap` for the last capability to a notification. -/
def finaliseNotification (ntfn : NtfnPtr) : Kernel :=
  let s := s.schedContextMaybeUnbindNtfn ntfn
  let s := s.unbindMaybeNotification ntfn
  let s := s.cancelAllSignals cfg ntfn
  { s with ntfnExists := update s.ntfnExists ntfn false }

/-- `finaliseCap` for the last capability to a reply object. -/
def finaliseReply (r : ReplyPtr) : Kernel :=
  let s :=
    match s.replyTCB r with
    | some t =>
      match s.tsType t with
      | .blockedOnReply => s.replyRemove cfg r t
      | .blockedOnReceive => s.cancelIPC t
      | _ => s.fail
    | none => s
  { s with replyExists := update s.replyExists r false }

/-- `finaliseCap` for the last capability to a thread. -/
def finaliseTcb (t : TcbPtr) : Kernel :=
  let s := s.unbindNotification t
  let s :=
    match s.tcbSchedContext t with
    | some sc => (s.schedContextUnbindTCB cfg sc).completeYieldFrom cfg sc
    | none => s
  let s := s.suspend cfg t
  { s with tcbExists := update s.tcbExists t false }

/-- `finaliseCap` for the last capability to a scheduling context. -/
def finaliseSchedContext (sc : ScPtr) : Kernel :=
  let s := s.schedContextUnbindAllTCBs cfg sc
  let s := s.schedContextUnbindNtfn sc
  let s := s.schedContextUnbindReply sc
  let s := s.completeYieldFrom cfg sc
  { s with
    schedContext := update s.schedContext sc
      { s.schedContext sc with scRefillMax := 0, scSporadic := false }
    scExists := update s.scExists sc false }

/-- `finaliseCap` with `final`. -/
def finaliseCap : ObjRef → Kernel
  | .tcb t => s.finaliseTcb cfg t
  | .endpoint ep => s.finaliseEndpoint cfg ep
  | .notification ntfn => s.finaliseNotification cfg ntfn
  | .reply r => s.finaliseReply cfg r
  | .schedContext sc => s.finaliseSchedContext cfg sc

/-- `createObject` for a thread, in memory that is all zero. -/
def createTcb (t : TcbPtr) : Kernel :=
  { s with
    tsType := update s.tsType t .inactive
    blockingObject := update s.blockingObject t 0
    blockingIPCBadge := update s.blockingIPCBadge t 0
    blockingIPCCanGrant := update s.blockingIPCCanGrant t false
    blockingIPCCanGrantReply := update s.blockingIPCCanGrantReply t false
    blockingIPCIsCall := update s.blockingIPCIsCall t false
    replyObject := update s.replyObject t none
    tcbFault := update s.tcbFault t .nullFault
    badgeRegister := update s.badgeRegister t 0
    epLinks := ⟨update s.epLinks.next t none, update s.epLinks.prev t none⟩
    tcbSchedContext := update s.tcbSchedContext t none
    tcbBoundNotification := update s.tcbBoundNotification t none
    tcbYieldTo := update s.tcbYieldTo t none
    schedLinks := ⟨update s.schedLinks.next t none, update s.schedLinks.prev t none⟩
    tcbQueued := update s.tcbQueued t false
    tcbInReleaseQueue := update s.tcbInReleaseQueue t false
    tcbPriority := update s.tcbPriority t 0
    tcbMCP := update s.tcbMCP t 0
    tcbDomain := update s.tcbDomain t s.ksCurDomain
    tcbFaultHandler := update s.tcbFaultHandler t none
    tcbTimeoutHandler := update s.tcbTimeoutHandler t none
    tcbExists := update s.tcbExists t true }

/-- `createObject` for an endpoint. -/
def createEndpoint (ep : EpPtr) : Kernel :=
  { s with
    epState := update s.epState ep .idle
    epQueue := update s.epQueue ep Queue.empty
    epExists := update s.epExists ep true }

/-- `createObject` for a notification; its history starts here. -/
def createNotification (ntfn : NtfnPtr) : Kernel :=
  { s with
    ntfnState := update s.ntfnState ntfn .idle
    ntfnQueue := update s.ntfnQueue ntfn Queue.empty
    ntfnMsgIdentifier := update s.ntfnMsgIdentifier ntfn 0
    ntfnBoundTCB := update s.ntfnBoundTCB ntfn none
    ntfnSchedContext := update s.ntfnSchedContext ntfn none
    ntfnExists := update s.ntfnExists ntfn true
    signals := s.signals.filter fun e => e.ntfn ≠ ntfn }

/-- `createObject` for a reply object. -/
def createReply (r : ReplyPtr) : Kernel :=
  { s with
    replyTCB := update s.replyTCB r none
    replyPrev := update s.replyPrev r none
    replyNext := update s.replyNext r .null
    replyExists := update s.replyExists r true }

/-- `createObject` for a scheduling context. -/
def createSchedContext (sc : ScPtr) (sizeBits : Nat) : Kernel :=
  { s with
    scTcb := update s.scTcb sc none
    scReply := update s.scReply sc none
    scNotification := update s.scNotification sc none
    scYieldFrom := update s.scYieldFrom sc none
    schedContext := update s.schedContext sc Refills.newSchedContext
    scExists := update s.scExists sc true
    scSizeBits := update s.scSizeBits sc sizeBits }

/-- `createObject`. -/
def createObject (o : ObjRef) (sizeBits : Nat) : Kernel :=
  match o with
  | .tcb t => s.createTcb t
  | .endpoint ep => s.createEndpoint ep
  | .notification ntfn => s.createNotification ntfn
  | .reply r => s.createReply r
  | .schedContext sc => s.createSchedContext sc sizeBits

/-- A store to the fault handler slot. -/
def setFaultHandler (t : TcbPtr) (cap : Option EndpointCap) : Kernel :=
  { s with tcbFaultHandler := update s.tcbFaultHandler t cap }

/-- A store to the timeout handler slot. -/
def setTimeoutHandler (t : TcbPtr) (cap : Option EndpointCap) : Kernel :=
  { s with tcbTimeoutHandler := update s.tcbTimeoutHandler t cap }

/-- One step of an operation on capabilities. -/
def capEffect : CapEffect → Kernel
  | .finalise o => s.finaliseCap cfg o
  | .clearFaultHandler t => s.setFaultHandler t none
  | .clearTimeoutHandler t => s.setTimeoutHandler t none
  | .setFaultHandler t cap => s.setFaultHandler t (some cap)
  | .setTimeoutHandler t cap => s.setTimeoutHandler t (some cap)
  | .create o sizeBits => s.createObject o sizeBits
  | .preemptionPoint now => s.updateTimestamp cfg now

/-- The steps of an operation on capabilities. -/
def capEffects : List CapEffect → Kernel → Kernel
  | [], s => s
  | e :: es, s => capEffects es (s.capEffect cfg e)

/-- The end of an operation on capabilities, and whether it was preempted. -/
def capOutcome : CapOutcome → Kernel × Bool
  | .done => (s, false)
  | .preempted now => (s.updateTimestamp cfg now, true)

/-- `checkPrio`. -/
def checkPrio (prio : Nat) (auth : TcbPtr) : Except SyscallError Unit :=
  refuseIf (prio > s.tcbMCP auth) (.rangeError 0 (s.tcbMCP auth))

/-- `setThreadState(NODE_STATE(ksCurThread), ThreadState_Restart)`, before an invocation is performed. -/
def restartCurrent : Kernel :=
  s.setThreadState s.ksCurThread .restart

/-- `validFaultHandler`. -/
def validFaultHandler (cap : Option EndpointCap) : Bool :=
  match cap with
  | some c => c.capCanSend && (c.capCanGrant || c.capCanGrantReply)
  | none => true

/-- `installTCBCap` for the fault handler of a thread. -/
def installFaultHandler (t : TcbPtr) (fh : Option EndpointCap) (final : Bool) : Kernel :=
  let s :=
    match s.tcbFaultHandler t with
    | some old =>
      let s := s.setFaultHandler t none
      if final then s.finaliseEndpoint cfg old.capEPPtr else s
    | none => s
  match fh with
  | some _ => s.setFaultHandler t fh
  | none => s

/-- The end of `invokeTCB_ThreadControlSched`: the scheduling context is bound or unbound when it
changes. -/
def threadControlSchedContext (t : TcbPtr) (sc : Option ScPtr) : Kernel :=
  match sc with
  | some c => s.schedContextBindTCB cfg c t
  | none =>
    match s.tcbSchedContext t with
    | some c => s.schedContextUnbindTCB cfg c
    | none => s.fail

/-- `decodeSetSchedParams` and `invokeTCB_ThreadControlSched`. -/
def decodeSetSchedParams (t auth : TcbPtr) (mcp prio : Nat) (sc : Option ScPtr) (fh : Option EndpointCap)
    (final : Bool) : Except SyscallError Kernel := do
  s.checkPrio mcp auth
  s.checkPrio prio auth
  match sc with
  | some c =>
    refuseIf (s.tcbSchedContext t ≠ some c ∧ s.tcbSchedContext t ≠ none) .illegalOperation
    refuseIf (s.tcbSchedContext t ≠ some c ∧ s.scTcb c ≠ none) .illegalOperation
    refuseIf ((s.tsType t).isBlocked = true ∧ s.scReleased c = false) .illegalOperation
  | none => refuseIf (t = s.ksCurThread) .illegalOperation
  refuseIf (validFaultHandler fh = false) (.invalidCapability 3)
  let update := decide (s.tcbSchedContext t ≠ sc)
  let s := s.restartCurrent
  let s := s.installFaultHandler cfg t fh final
  let s := s.setMCPriority t mcp
  let s := s.setPriority cfg t prio
  return if update then s.threadControlSchedContext cfg t sc else s

/-- `decodeBindNotification`. -/
def decodeBindNotification (t : TcbPtr) (cap : NotificationCap) : Except SyscallError Kernel := do
  refuseIf (s.tcbBoundNotification t ≠ none) .illegalOperation
  refuseIf (cap.capNtfnCanReceive = false) .illegalOperation
  refuseIf ((s.ntfnQueue cap.capNtfnPtr).head ≠ none ∨ s.ntfnBoundTCB cap.capNtfnPtr ≠ none)
    .illegalOperation
  return s.restartCurrent.bindNotification t cap.capNtfnPtr

/-- `decodeUnbindNotification`. -/
def decodeUnbindNotification (t : TcbPtr) : Except SyscallError Kernel := do
  refuseIf (s.tcbBoundNotification t = none) .illegalOperation
  return s.restartCurrent.unbindNotification t

/-- `invokeTCB_CopyRegisters`. -/
def invokeCopyRegisters (dest src : TcbPtr) (suspendSource resumeTarget : Bool) : Kernel :=
  let s := if suspendSource then s.suspend cfg src else s
  let s := if resumeTarget then s.restart cfg dest else s
  if dest = s.ksCurThread then s.rescheduleRequired cfg else s

/-- `invokeTCB_ThreadControlCaps`. -/
def invokeThreadControlCaps (t : TcbPtr) (effects : List CapEffect) (outcome : CapOutcome)
    (updateIpcBuffer : Bool) : Kernel × Bool :=
  let r := (capEffects cfg effects s).capOutcome cfg outcome
  if !r.2 && updateIpcBuffer && t == r.1.ksCurThread then
    (r.1.rescheduleRequired cfg, r.2)
  else
    r

/-- `decodeTCBInvocation`; the result says whether the invocation was preempted. -/
def decodeTCBInvocation (t : TcbPtr) : TcbInvocation → Except SyscallError (Kernel × Bool)
  | .readRegisters suspendSource => do
    refuseIf (t = s.ksCurThread) .illegalOperation
    let s := s.restartCurrent
    let s := if suspendSource then s.suspend cfg t else s
    return (s.setThreadState s.ksCurThread .running, false)
  | .writeRegisters resumeTarget => do
    refuseIf (t = s.ksCurThread) .illegalOperation
    let s := s.restartCurrent
    let s := if resumeTarget then s.restart cfg t else s
    return (if t = s.ksCurThread then s.rescheduleRequired cfg else s, false)
  | .copyRegisters src suspendSource resumeTarget =>
    return (s.restartCurrent.invokeCopyRegisters cfg t src suspendSource resumeTarget, false)
  | .suspend => return (s.restartCurrent.suspend cfg t, false)
  | .resume => return (s.restartCurrent.restart cfg t, false)
  | .setPriority auth prio => do
    s.checkPrio prio auth
    return (s.restartCurrent.setPriority cfg t prio, false)
  | .setMCPriority auth mcp => do
    s.checkPrio mcp auth
    return (s.restartCurrent.setMCPriority t mcp, false)
  | .setSchedParams auth mcp prio sc fh final => do
    let s ← s.decodeSetSchedParams cfg t auth mcp prio sc fh final
    return (s, false)
  | .threadControlCaps effects outcome updateIpcBuffer =>
    return s.restartCurrent.invokeThreadControlCaps cfg t effects outcome updateIpcBuffer
  | .bindNotification cap => do
    let s ← s.decodeBindNotification t cap
    return (s, false)
  | .unbindNotification => do
    let s ← s.decodeUnbindNotification t
    return (s, false)

/-- The two branches of `invokeSchedContext_YieldTo` for a thread that can run; the result says whether the
caller returns at once. -/
def yieldToThread (sc : ScPtr) (t : TcbPtr) : Kernel × Bool :=
  if s.tcbPriority t < s.tcbPriority s.ksCurThread then
    ((s.tcbSchedDequeue cfg t).tcbSchedEnqueue cfg t, true)
  else
    let s := { s with
      tcbYieldTo := update s.tcbYieldTo s.ksCurThread (some sc)
      scYieldFrom := update s.scYieldFrom sc (some s.ksCurThread) }
    let s := s.tcbSchedDequeue cfg t
    let s := s.tcbSchedEnqueue cfg s.ksCurThread
    let s := s.tcbSchedEnqueue cfg t
    (s.rescheduleRequired cfg, false)

/-- `invokeSchedContext_YieldTo`. -/
def invokeYieldTo (sc : ScPtr) (t : TcbPtr) (call : Bool) : Kernel :=
  let s := s.completeYieldFrom cfg sc
  let s := s.assert (s.scYieldFrom sc == none)
  let s := s.schedContextResume cfg (some sc)
  let r := if s.isSchedulable t then s.yieldToThread cfg sc t else (s, true)
  let s := r.1
  if r.2 then
    (s.setConsumed cfg sc s.ksCurThread call).setThreadState s.ksCurThread .running
  else
    s

/-- `decodeSchedContext_YieldTo`. -/
def decodeYieldTo (sc : ScPtr) (call : Bool) : Except SyscallError Kernel := do
  match s.scTcb sc with
  | none => .error .illegalOperation
  | some t =>
    refuseIf (t = s.ksCurThread) .illegalOperation
    refuseIf (s.tcbPriority t > s.tcbMCP s.ksCurThread) .illegalOperation
    refuseIf (s.tcbYieldTo s.ksCurThread ≠ none) .illegalOperation
    return s.restartCurrent.invokeYieldTo cfg sc t call

/-- `decodeSchedContext_Bind` for a thread. -/
def decodeBindTcb (sc : ScPtr) (t : TcbPtr) : Except SyscallError Kernel := do
  refuseIf (s.scTcb sc ≠ none) .illegalOperation
  refuseIf (s.tcbSchedContext t ≠ none) .illegalOperation
  refuseIf ((s.tsType t).isBlocked = true ∧ s.scReleased sc = false) .illegalOperation
  return s.restartCurrent.schedContextBindTCB cfg sc t

/-- `decodeSchedContext_Bind` for a notification. -/
def decodeBindNtfn (sc : ScPtr) (ntfn : NtfnPtr) : Except SyscallError Kernel := do
  refuseIf (s.scNotification sc ≠ none) .illegalOperation
  refuseIf (s.ntfnSchedContext ntfn ≠ none) .illegalOperation
  return s.restartCurrent.schedContextBindNtfn sc ntfn

/-- `decodeSchedContext_UnbindObject` for a thread. -/
def decodeUnbindTcb (sc : ScPtr) (t : TcbPtr) : Except SyscallError Kernel := do
  refuseIf (s.scTcb sc ≠ some t) .illegalOperation
  refuseIf (s.scTcb sc = some s.ksCurThread) .illegalOperation
  return s.restartCurrent.schedContextUnbindTCB cfg sc

/-- `decodeSchedContext_UnbindObject` for a notification. -/
def decodeUnbindNtfn (sc : ScPtr) (ntfn : NtfnPtr) : Except SyscallError Kernel := do
  refuseIf (s.scNotification sc ≠ some ntfn) .illegalOperation
  return s.restartCurrent.schedContextUnbindNtfn sc

/-- `invokeSchedContext_Unbind`. -/
def invokeUnbind (sc : ScPtr) : Kernel :=
  let s := s.schedContextUnbindAllTCBs cfg sc
  let s := s.schedContextUnbindNtfn sc
  s.schedContextUnbindReply sc

/-- `decodeSchedContextInvocation`. -/
def decodeSchedContextInvocation (sc : ScPtr) (call : Bool) :
    ScInvocation → Except SyscallError Kernel
  | .consumed =>
    let s := s.restartCurrent
    return (s.setConsumed cfg sc s.ksCurThread call).setThreadState s.ksCurThread .running
  | .bindTcb t => s.decodeBindTcb cfg sc t
  | .bindNtfn ntfn => s.decodeBindNtfn sc ntfn
  | .unbindTcb t => s.decodeUnbindTcb cfg sc t
  | .unbindNtfn ntfn => s.decodeUnbindNtfn sc ntfn
  | .unbind => do
    refuseIf (s.scTcb sc = some s.ksCurThread) .illegalOperation
    return s.restartCurrent.invokeUnbind cfg sc
  | .yieldTo => s.decodeYieldTo cfg sc call

/-- The start of `invokeSchedControl_ConfigureFlags`: the thread leaves the scheduler and the consumed time
is billed. -/
def stopForConfigure (target : ScPtr) (t : TcbPtr) : Kernel :=
  let s := s.tcbReleaseRemove t
  let s := s.tcbSchedDequeue cfg t
  if s.ksCurSC = target then
    let r := s.checkBudget cfg
    (r.1.assert r.2).commitTime cfg
  else
    s

/-- The end of `invokeSchedControl_ConfigureFlags`: the thread goes back to the scheduler. -/
def resumeAfterConfigure (target : ScPtr) (t : TcbPtr) : Kernel :=
  let s := s.schedContextResume cfg (some target)
  let s := if s.isRunnable t ∧ t ≠ s.ksCurThread then s.possibleSwitchTo cfg t else s
  if t = s.ksCurThread then s.rescheduleRequired cfg else s

/-- `invokeSchedControl_ConfigureFlags`. -/
def invokeConfigureFlags (target : ScPtr) (args : ConfigureFlags) : Kernel :=
  let thread := s.scTcb target
  let s := match thread with | some t => s.stopForConfigure cfg target t | none => s
  let runnable := match thread with | some t => s.isRunnable t | none => false
  let s := s.setSchedContext target
    ((s.schedContext target).refillConfigure cfg.toTimerConfig s.ksCurTime runnable args)
  let s := s.assert (s.schedContext target).scActive
  let s := match thread with | some t => s.resumeAfterConfigure cfg target t | none => s
  { s with
    schedContext := update s.schedContext target
      { s.schedContext target with scBadge := args.badge, scSporadic := args.flags.testBit 0 } }

/-- `decodeSchedControlInvocation`. -/
def decodeSchedControlInvocation (core length : Nat) (args : Nat → Nat) (target : Option ScPtr) :
    Except SyscallError Kernel := do
  let extraCap := target.map fun sc => Cap.schedContext sc.val (s.scSizeBits sc)
  let c ← decodeSchedControlConfigureFlags cfg.toTimerConfig core length args extraCap
  match target with
  | some sc => return s.restartCurrent.invokeConfigureFlags cfg sc c
  | none => .error .truncatedMessage

/-- `DSCHED_MAX_DURATION`. -/
def dschedMaxDuration : Nat := 2 ^ 56 - 1

/-- `decodeDomainInvocation`. -/
def decodeDomainInvocation : DomainInvocation → Except SyscallError Kernel
  | .set t dom => do
    refuseIf (dom ≥ cfg.numDomains) (.invalidArgument 0)
    return s.restartCurrent.setDomain cfg t dom
  | .scheduleConfigure index domain duration => do
    refuseIf (index ≥ cfg.domScheduleLength - 1) (.rangeError 0 (cfg.domScheduleLength - 2))
    refuseIf (domain ≥ cfg.numDomains) (.rangeError 0 (cfg.numDomains - 1))
    refuseIf (duration > dschedMaxDuration) (.invalidArgument 2)
    refuseIf (duration = 0 ∧ domain ≠ 0) (.invalidArgument 1)
    refuseIf (index = s.ksDomScheduleStart ∧ duration = 0) (.invalidArgument 2)
    let s := s.restartCurrent
    return { s with ksDomSchedule := update s.ksDomSchedule index ⟨domain, duration⟩ }
  | .scheduleSetStart index => do
    refuseIf (index ≥ cfg.domScheduleLength) (.rangeError 0 (cfg.domScheduleLength - 1))
    refuseIf (s.ksDomSchedule index = ⟨0, 0⟩) (.invalidArgument 0)
    let s := s.restartCurrent
    let s := { s with
      ksDomScheduleStart := index
      ksDomainTime := 0
      ksDomScheduleIdx := cfg.domScheduleLength - 2 }
    return s.rescheduleRequired cfg

/-- `hasCancelSendRights`. -/
def hasCancelSendRights (cap : EndpointCap) : Bool :=
  cap.capCanSend && cap.capCanReceive && cap.capCanGrant && cap.capCanGrantReply

/-- `decodeInvocation`; the result says whether the invocation was preempted. -/
def decodeInvocation (block call canDonate firstPhase : Bool) :
    Invocation → Except SyscallError (Kernel × Bool)
  | .refused e => .error e
  | .endpoint cap => do
    refuseIf (cap.capCanSend = false) (.invalidCapability 0)
    let s := s.restartCurrent
    return (s.sendIPC cfg block call cap.capEPBadge cap.capCanGrant cap.capCanGrantReply canDonate
      s.ksCurThread cap.capEPPtr, false)
  | .notification cap => do
    refuseIf (cap.capNtfnCanSend = false) (.invalidCapability 0)
    return (s.restartCurrent.sendSignal cfg cap.capNtfnPtr cap.capNtfnBadge, false)
  | .reply cap restart => return (s.restartCurrent.doReplyTransfer cfg cap.capReplyPtr restart, false)
  | .tcb t inv => do
    refuseIf (firstPhase = true) (.invalidCapability 0)
    s.decodeTCBInvocation cfg t inv
  | .domain inv => do
    refuseIf (firstPhase = true) (.invalidCapability 0)
    let s ← s.decodeDomainInvocation cfg inv
    return (s, false)
  | .schedControl core length args target => do
    refuseIf (firstPhase = true) (.invalidCapability 0)
    let s ← s.decodeSchedControlInvocation cfg core length args target
    return (s, false)
  | .schedContext sc inv => do
    refuseIf (firstPhase = true) (.invalidCapability 0)
    let s ← s.decodeSchedContextInvocation cfg sc call inv
    return (s, false)
  | .cancelBadgedSends cap => do
    refuseIf (firstPhase = true) (.invalidCapability 0)
    refuseIf (hasCancelSendRights cap = false) .illegalOperation
    let s := s.restartCurrent
    return (if cap.capEPBadge ≠ 0 then s.cancelBadgedSends cfg cap.capEPPtr cap.capEPBadge else s, false)
  | .capOperation phase effects outcome => do
    refuseIf (firstPhase = true ∧ phase = false) (.invalidCapability 0)
    return (capEffects cfg effects s.restartCurrent).capOutcome cfg outcome

end Kernel

end NexsKernel.Mcs
