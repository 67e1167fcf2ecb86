import NexsKernel.Mcs.Invocation

/-!
# Kernel entries

System calls, faults and interrupts, from the entry of the kernel to its exit (`api/syscall.c`,
`object/interrupt.c`), the state at the end of booting (`kernel/boot.c`), and the runs of the kernel.

An event carries what the kernel reads from outside of this model: the time, the capabilities that its
lookups find, and the active interrupt. `Event.Legal` says what such an event can be: time does not run
backwards and stays below `MAX_RELEASE_TIME`, the idle thread makes no system calls, and the capabilities
refer to objects that exist at that moment.
-/

namespace NexsKernel.Mcs

/-- What `lookupCapAndSlot` and `lookupExtraCaps` find for an invocation. -/
inductive InvokeLookup where
  | failed
  | found (inv : Invocation)

/-- What `lookupReply` finds. -/
inductive ReplyLookup where
  | failed
  | found (cap : ReplyCap)

/-- What `handleRecv` finds. -/
inductive RecvLookup where
  /-- No capability, or one that cannot be received from. -/
  | failed
  | endpoint (cap : EndpointCap) (reply : ReplyLookup)
  | notification (cap : NotificationCap)

/-- The active interrupt. -/
inductive Irq where
  /-- There is none, or it is reserved, disabled or out of range. -/
  | ignored
  /-- `IRQSignal`, with the capability in the interrupt's slot. -/
  | signal (cap : Option NotificationCap)
  /-- `IRQTimer`. -/
  | timer

/-- `syscall_t`. -/
inductive Syscall where
  | send (l : InvokeLookup)
  | nbSend (l : InvokeLookup)
  | call (l : InvokeLookup)
  | recv (r : RecvLookup)
  | nbRecv (r : RecvLookup)
  | wait (r : RecvLookup)
  | nbWait (r : RecvLookup)
  | replyRecv (l : InvokeLookup) (r : RecvLookup)
  | nbSendRecv (l : InvokeLookup) (r : RecvLookup)
  | nbSendWait (l : InvokeLookup) (r : RecvLookup)
  | yield

/-- A kernel entry; `now` is the time at its start. -/
inductive Event where
  /-- `handleSyscall`; `irq` is the interrupt that is active after a preemption. -/
  | syscall (now : Nat) (sys : Syscall) (irq : Irq)
  /-- `handleUnknownSyscall`, `handleUserLevelFault` and `handleVMFaultEvent`; a fault of the virtual
  memory may be resolved in the kernel. -/
  | fault (now : Nat) (fault : Option Fault)
  /-- `SysSetTLSBase`, which returns without calling the scheduler. -/
  | setTLSBase (now : Nat)
  /-- `handleInterruptEntry`. -/
  | interrupt (now : Nat) (irq : Irq)

namespace Kernel

variable (cfg : KernelConfig) (s : Kernel)

/-- `handleInterrupt`. -/
def handleInterrupt : Irq → Kernel
  | .ignored => s
  | .signal cap =>
    match cap with
    | some c => if c.capNtfnCanSend then s.sendSignal cfg c.capNtfnPtr c.capNtfnBadge else s
    | none => s
  | .timer => { s with ksReprogram := true }

/-- The end of `handleInvocation`: a thread that is still in `Restart` continues. -/
def finishInvocation (thread : TcbPtr) (isCall : Bool) : Kernel :=
  if s.tsType thread = .restart then
    let s := if isCall then s.setBadgeRegister thread 0 else s
    s.setThreadState thread .running
  else
    s

/-- `handleInvocation`; the result says whether it was preempted. -/
def handleInvocation (isCall isBlocking canDonate firstPhase : Bool) : InvokeLookup → Kernel × Bool
  | .failed => (if isBlocking then s.handleFault cfg s.ksCurThread .capFault else s, false)
  | .found inv =>
    match s.decodeInvocation cfg isBlocking isCall canDonate firstPhase inv with
    | .error _ => (if isCall then s.setBadgeRegister s.ksCurThread 0 else s, false)
    | .ok (s', preempted) =>
      if preempted then (s', true) else (s'.finishInvocation s.ksCurThread isCall, false)

/-- `handleRecv`. -/
def handleRecv (isBlocking canReply : Bool) : RecvLookup → Kernel
  | .failed => s.handleFault cfg s.ksCurThread .capFault
  | .endpoint cap reply =>
    if cap.capCanReceive then
      if canReply then
        match reply with
        | .failed => s.handleFault cfg s.ksCurThread .capFault
        | .found r => s.receiveIPC cfg s.ksCurThread cap.capEPPtr isBlocking (some r.capReplyPtr)
      else
        s.receiveIPC cfg s.ksCurThread cap.capEPPtr isBlocking none
    else
      s.handleFault cfg s.ksCurThread .capFault
  | .notification cap =>
    if cap.capNtfnCanReceive = true ∧ (s.ntfnBoundTCB cap.capNtfnPtr = none ∨
        s.ntfnBoundTCB cap.capNtfnPtr = some s.ksCurThread) then
      s.receiveSignal cfg s.ksCurThread cap.capNtfnPtr isBlocking
    else
      s.handleFault cfg s.ksCurThread .capFault

/-- `handleYield`. -/
def handleYield : Kernel :=
  let sc := s.ksCurSC
  let consumed := add64 (s.schedContext sc).scConsumed s.ksConsumed
  let s := s.chargeBudget cfg (s.schedContext sc).refillHead.rAmount false
  { s with
    schedContext := Function.update s.schedContext s.ksCurSC
      { s.schedContext s.ksCurSC with scConsumed := consumed } }

/-- What follows an invocation that was preempted. -/
def afterPreemption (irq : Irq) : Kernel :=
  (s.mcsPreemptionPoint cfg).handleInterrupt cfg irq

/-- An invocation alone. -/
def invokeOnly (isCall isBlocking canDonate : Bool) (l : InvokeLookup) (irq : Irq) : Kernel :=
  let r := s.handleInvocation cfg isCall isBlocking canDonate false l
  if r.2 then r.1.afterPreemption cfg irq else r.1

/-- An invocation followed by a receive. -/
def invokeThenRecv (canReply : Bool) (l : InvokeLookup) (rl : RecvLookup) (irq : Irq) : Kernel :=
  let r := s.handleInvocation cfg false false true true l
  if r.2 then r.1.afterPreemption cfg irq else r.1.handleRecv cfg true canReply rl

/-- `SysReplyRecv`, which relies on the first phase not being preempted. -/
def replyThenRecv (l : InvokeLookup) (rl : RecvLookup) : Kernel :=
  let r := s.handleInvocation cfg false false true true l
  (r.1.assert (!r.2)).handleRecv cfg true true rl

/-- The `switch` of `handleSyscall`. -/
def performSyscall (irq : Irq) : Syscall → Kernel
  | .send l => s.invokeOnly cfg false true false l irq
  | .nbSend l => s.invokeOnly cfg false false false l irq
  | .call l => s.invokeOnly cfg true true true l irq
  | .recv r => s.handleRecv cfg true true r
  | .nbRecv r => s.handleRecv cfg false true r
  | .wait r => s.handleRecv cfg true false r
  | .nbWait r => s.handleRecv cfg false false r
  | .replyRecv l r => s.replyThenRecv cfg l r
  | .nbSendRecv l r => s.invokeThenRecv cfg true l r irq
  | .nbSendWait l r => s.invokeThenRecv cfg false l r irq
  | .yield => s.handleYield cfg

/-- `MCS_DO_IF_BUDGET`. -/
def ifBudget (now : Nat) (block : Kernel → Kernel) : Kernel :=
  let s := s.updateTimestamp cfg now
  let r := s.checkBudgetRestart cfg
  if r.2 then block r.1 else r.1

/-- `schedule(); activateThread();`. -/
def exitKernel : Kernel :=
  (s.schedule cfg).activateThread cfg

/-- A kernel entry. -/
def handleEvent : Event → Kernel
  | .syscall now sys irq => (s.ifBudget cfg now fun s => s.performSyscall cfg irq sys).exitKernel cfg
  | .fault now f =>
    (s.ifBudget cfg now fun s =>
      match f with
      | some f => s.handleFault cfg s.ksCurThread f
      | none => s).exitKernel cfg
  | .setTLSBase now =>
    let s := s.updateTimestamp cfg now
    let r := s.checkBudgetRestart cfg
    if r.2 then r.1 else r.1.exitKernel cfg
  | .interrupt now irq =>
    let s := s.updateTimestamp cfg now
    let s := (s.checkBudget cfg).1
    (s.handleInterrupt cfg irq).exitKernel cfg

end Kernel

/-- The object exists. -/
def ObjRef.Exists (s : Kernel) : ObjRef → Prop
  | .tcb t => s.tcbExists t = true
  | .endpoint ep => s.epExists ep = true
  | .notification ntfn => s.ntfnExists ntfn = true
  | .reply r => s.replyExists r = true
  | .schedContext sc => s.scExists sc = true

/-- The time read from the timer. -/
def TimeLegal (cfg : KernelConfig) (s : Kernel) (now : Nat) : Prop :=
  s.ksCurTime ≤ now ∧ now < cfg.maxReleaseTime

/-- A capability that may be a handler: to an endpoint that exists, with the rights that the decode
functions ask for. -/
def HandlerLegal (s : Kernel) (cap : EndpointCap) : Prop :=
  s.epExists cap.capEPPtr = true ∧ Kernel.validFaultHandler (some cap) = true

/-- No handler slot refers to the endpoint. -/
def NoHandler (s : Kernel) (ep : EpPtr) : Prop :=
  ∀ t cap, s.tcbFaultHandler t = some cap ∨ s.tcbTimeoutHandler t = some cap → cap.capEPPtr ≠ ep

/-- When a step of an operation on capabilities can happen: the last capability to an object is deleted
only once, and after the handler slots that refer to it have been emptied; objects are created in memory
that holds none, where the idle thread and its scheduling context never are. -/
def CapEffect.Legal (cfg : KernelConfig) (s : Kernel) : CapEffect → Prop
  | .finalise o => o.Exists s ∧ ∀ ep, o = .endpoint ep → NoHandler s ep
  | .clearFaultHandler _ => True
  | .clearTimeoutHandler _ => True
  | .setFaultHandler t cap => s.tcbExists t = true ∧ HandlerLegal s cap
  | .setTimeoutHandler t cap => s.tcbExists t = true ∧ HandlerLegal s cap
  | .create o sizeBits => ¬ o.Exists s ∧ o ≠ .tcb s.ksIdleThread ∧ o ≠ .schedContext s.ksIdleSC ∧
      SchedContextBits sizeBits
  | .preemptionPoint now => TimeLegal cfg s now ∧
      (s.updateTimestamp cfg now).isCurDomainExpired cfg = false ∧
      ((s.updateTimestamp cfg now).schedContext s.ksCurSC).scActive = true ∧
      ((s.updateTimestamp cfg now).schedContext s.ksCurSC).refillSufficient cfg.toTimerConfig
        (s.updateTimestamp cfg now).ksConsumed = true

/-- Each step can happen when its turn comes. -/
def effectsLegal (cfg : KernelConfig) : List CapEffect → Kernel → Prop
  | [], _ => True
  | e :: es, s => e.Legal cfg s ∧ effectsLegal cfg es (s.capEffect cfg e)

/-- The steps of the operations that can be the first phase of a combined system call: those on untyped,
interrupt and architecture capabilities. -/
def CapEffect.InFirstPhase : CapEffect → Prop
  | .finalise (.notification _) | .create _ _ | .preemptionPoint _ => True
  | _ => False

/-- The time of a preemption. -/
def CapOutcome.Legal (cfg : KernelConfig) (s : Kernel) : CapOutcome → Prop
  | .done => True
  | .preempted now => TimeLegal cfg s now

/-- An operation on capabilities that starts in the given state. -/
def capLegal (cfg : KernelConfig) (s : Kernel) (effects : List CapEffect) (outcome : CapOutcome) : Prop :=
  effectsLegal cfg effects s ∧ outcome.Legal cfg (Kernel.capEffects cfg effects s)

/-- The old fault handler is the last capability to its endpoint: no other slot refers to it, and the new
handler is to another endpoint. -/
def FinalHandler (s : Kernel) (t : TcbPtr) (fh : Option EndpointCap) : Prop :=
  ∀ old, s.tcbFaultHandler t = some old → NoHandler (s.setFaultHandler t none) old.capEPPtr ∧
    ∀ cap, fh = some cap → cap.capEPPtr ≠ old.capEPPtr

/-- The objects of an invocation of a thread exist. -/
def TcbInvocation.Legal (cfg : KernelConfig) (s : Kernel) (t : TcbPtr) : TcbInvocation → Prop
  | .copyRegisters src _ _ => s.tcbExists src = true
  | .setPriority auth _ => s.tcbExists auth = true
  | .setMCPriority auth _ => s.tcbExists auth = true
  | .setSchedParams auth _ _ sc fh final => s.tcbExists auth = true ∧
      (∀ c, sc = some c → s.scExists c = true) ∧ (∀ cap, fh = some cap → s.epExists cap.capEPPtr = true) ∧
      (final = true → FinalHandler s t fh)
  | .threadControlCaps effects outcome _ => capLegal cfg s.restartCurrent effects outcome
  | .bindNotification cap => s.ntfnExists cap.capNtfnPtr = true
  | _ => True

/-- The objects of an invocation of a scheduling context exist. -/
def ScInvocation.Legal (s : Kernel) : ScInvocation → Prop
  | .bindTcb t => s.tcbExists t = true
  | .bindNtfn ntfn => s.ntfnExists ntfn = true
  | _ => True

/-- The objects of an invocation exist. -/
def Invocation.Legal (cfg : KernelConfig) (s : Kernel) : Invocation → Prop
  | .refused _ => True
  | .endpoint cap => s.epExists cap.capEPPtr = true
  | .notification cap => s.ntfnExists cap.capNtfnPtr = true
  | .reply cap _ => s.replyExists cap.capReplyPtr = true
  | .tcb t inv => s.tcbExists t = true ∧ inv.Legal cfg s t
  | .domain inv => ∀ t dom, inv = .set t dom → s.tcbExists t = true
  | .schedControl _ _ _ target => ∀ sc, target = some sc → s.scExists sc = true
  | .schedContext sc inv => s.scExists sc = true ∧ inv.Legal s
  | .cancelBadgedSends cap => s.epExists cap.capEPPtr = true
  | .capOperation phase effects outcome => capLegal cfg s.restartCurrent effects outcome ∧
      (phase = true → ∀ e ∈ effects, e.InFirstPhase)

/-- The objects that a lookup for an invocation finds exist. -/
def InvokeLookup.Legal (cfg : KernelConfig) (s : Kernel) (l : InvokeLookup) : Prop :=
  ∀ inv, l = .found inv → inv.Legal cfg s

/-- The objects that a lookup for a receive finds exist. -/
def RecvLookup.Legal (s : Kernel) : RecvLookup → Prop
  | .failed => True
  | .endpoint cap reply => s.epExists cap.capEPPtr = true ∧
      ∀ r, reply = .found r → s.replyExists r.capReplyPtr = true
  | .notification cap => s.ntfnExists cap.capNtfnPtr = true

/-- The notification of an interrupt exists. -/
def Irq.Legal (s : Kernel) (irq : Irq) : Prop :=
  ∀ cap, irq = .signal (some cap) → s.ntfnExists cap.capNtfnPtr = true

/-- What a system call finds exists when it is looked up. -/
def Syscall.Legal (cfg : KernelConfig) (s : Kernel) (irq : Irq) : Syscall → Prop
  | .send l => invoke l false true false false fun _ => True
  | .nbSend l => invoke l false false false false fun _ => True
  | .call l => invoke l true true true false fun _ => True
  | .recv r | .nbRecv r | .wait r | .nbWait r => r.Legal s
  | .replyRecv l r => l.Legal cfg s ∧ r.Legal (s.handleInvocation cfg false false true true l).1
  | .nbSendRecv l r | .nbSendWait l r => invoke l false false true true r.Legal
  | .yield => True
where
  /-- A lookup in the state before the invocation, an interrupt or another lookup after it. -/
  invoke (l : InvokeLookup) (isCall isBlocking canDonate firstPhase : Bool) (after : Kernel → Prop) :
      Prop :=
    l.Legal cfg s ∧
      let r := s.handleInvocation cfg isCall isBlocking canDonate firstPhase l
      if r.2 then irq.Legal r.1 else after r.1

/-- What a kernel entry can be. -/
def Event.Legal (cfg : KernelConfig) (s : Kernel) : Event → Prop
  | .syscall now sys irq => TimeLegal cfg s now ∧ s.ksCurThread ≠ s.ksIdleThread ∧
      let r := (s.updateTimestamp cfg now).checkBudgetRestart cfg
      (r.2 = true → sys.Legal cfg r.1 irq)
  | .fault now f => TimeLegal cfg s now ∧ s.ksCurThread ≠ s.ksIdleThread ∧
      f ≠ some .nullFault ∧ f ≠ some .timeout
  | .setTLSBase now => TimeLegal cfg s now ∧ s.ksCurThread ≠ s.ksIdleThread
  | .interrupt now irq => TimeLegal cfg s now ∧
      irq.Legal ((s.updateTimestamp cfg now).checkBudget cfg).1

/-- The kernel's memory before it is booted. -/
def zeroKernel (idle root : TcbPtr) (idleSC rootSC : ScPtr) : Kernel where
  tsType _ := .inactive
  blockingObject _ := 0
  blockingIPCBadge _ := 0
  blockingIPCCanGrant _ := false
  blockingIPCCanGrantReply _ := false
  blockingIPCIsCall _ := false
  replyObject _ := none
  tcbFault _ := .nullFault
  badgeRegister _ := 0
  epLinks := ⟨fun _ => none, fun _ => none⟩
  epState _ := .idle
  epQueue _ := Queue.empty
  ntfnState _ := .idle
  ntfnQueue _ := Queue.empty
  ntfnMsgIdentifier _ := 0
  replyTCB _ := none
  replyPrev _ := none
  replyNext _ := .null
  scReply _ := none
  tcbSchedContext _ := none
  scTcb _ := none
  tcbBoundNotification _ := none
  ntfnBoundTCB _ := none
  scNotification _ := none
  ntfnSchedContext _ := none
  tcbYieldTo _ := none
  scYieldFrom _ := none
  schedLinks := ⟨fun _ => none, fun _ => none⟩
  tcbQueued _ := false
  tcbInReleaseQueue _ := false
  ksReadyQueues _ := Queue.empty
  ksReadyQueuesL1Bitmap _ := 0
  ksReadyQueuesL2Bitmap _ _ := 0
  ksReleaseQueue := Queue.empty
  tcbPriority _ := 0
  tcbMCP _ := 0
  tcbDomain _ := 0
  tcbFaultHandler _ := none
  tcbTimeoutHandler _ := none
  schedContext _ := Refills.newSchedContext
  ksCurThread := idle
  ksIdleThread := idle
  ksSchedulerAction := .switchTo root
  ksCurSC := idleSC
  ksIdleSC := idleSC
  ksCurTime := 0
  ksConsumed := 0
  ksReprogram := true
  ksCurDomain := 0
  ksDomainTime := Kernel.dschedMaxDuration
  ksDomScheduleIdx := 0
  ksDomScheduleStart := 0
  ksDomSchedule i := if i = 0 then ⟨0, Kernel.dschedMaxDuration⟩ else ⟨0, 0⟩
  tcbExists t := t == root
  epExists _ := false
  ntfnExists _ := false
  replyExists _ := false
  scExists sc := sc == rootSC
  scSizeBits _ := minSchedContextBits
  failed := false
  halted := false
  signals := []
  epArrival _ := 0
  epClock := 0

/-- `configure_sched_context`. -/
def Kernel.configureSchedContext (cfg : KernelConfig) (s : Kernel) (t : TcbPtr) (sc : ScPtr) : Kernel :=
  let s := s.setTcbSchedContext t (some sc)
  let s := s.setSchedContext sc
    ((s.schedContext sc).refillNew cfg.toTimerConfig s.ksCurTime minRefills cfg.bootTimeSlice 0)
  s.setScTcb sc (some t)

/-- `create_idle_thread`. -/
def Kernel.createIdleThread (cfg : KernelConfig) (s : Kernel) : Kernel :=
  (s.setTsType s.ksIdleThread .idleThreadState).configureSchedContext cfg s.ksIdleThread s.ksIdleSC

/-- `create_initial_thread`. -/
def Kernel.createInitialThread (cfg : KernelConfig) (s : Kernel) (root : TcbPtr) (rootSC : ScPtr) :
    Kernel :=
  let s := s.configureSchedContext cfg root rootSC
  { s with
    tcbPriority := Function.update s.tcbPriority root cfg.maxPrio
    tcbMCP := Function.update s.tcbMCP root cfg.maxPrio
    tcbDomain := Function.update s.tcbDomain root 0
    tsType := Function.update s.tsType root .running }

/-- The state after booting, when the timer reads `now` in `init_core_state`. -/
def Kernel.boot (cfg : KernelConfig) (idle root : TcbPtr) (idleSC rootSC : ScPtr) (now : Nat) : Kernel :=
  let s := (zeroKernel idle root idleSC rootSC).createIdleThread cfg
  let s := s.createInitialThread cfg root rootSC
  { s with ksCurTime := now }

/-- The states of the kernel at its exits. -/
inductive Reachable (cfg : KernelConfig) : Kernel → Prop
  | boot {idle root : TcbPtr} {idleSC rootSC : ScPtr} {now : Nat} :
      idle ≠ root → idleSC ≠ rootSC → now < cfg.maxReleaseTime →
      Reachable cfg ((Kernel.boot cfg idle root idleSC rootSC now).exitKernel cfg)
  | step {s : Kernel} {e : Event} : Reachable cfg s → s.halted = false → e.Legal cfg s →
      Reachable cfg (s.handleEvent cfg e)

/-- The states at the exits of a run whose entries all meet a condition. -/
inductive ReachableIf (cfg : KernelConfig) (ok : Kernel → Event → Prop) : Kernel → Prop
  | boot {idle root : TcbPtr} {idleSC rootSC : ScPtr} {now : Nat} :
      idle ≠ root → idleSC ≠ rootSC → now < cfg.maxReleaseTime →
      ReachableIf cfg ok ((Kernel.boot cfg idle root idleSC rootSC now).exitKernel cfg)
  | step {s : Kernel} {e : Event} : ReachableIf cfg ok s → s.halted = false → e.Legal cfg s → ok s e →
      ReachableIf cfg ok (s.handleEvent cfg e)

lemma ReachableIf.reachable {cfg : KernelConfig} {ok : Kernel → Event → Prop} {s : Kernel}
    (h : ReachableIf cfg ok s) : Reachable cfg s := by
  induction h with
  | boot ht hsc hnow => exact .boot ht hsc hnow
  | step _ hh he _ ih => exact .step ih hh he

end NexsKernel.Mcs
