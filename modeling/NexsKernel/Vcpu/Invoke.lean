import NexsKernel.Api.Failures
import NexsKernel.Vcpu.Switch

/-!
# Virtual CPUs and threads

The functions of `arch/object/vcpu.c` that bind a virtual CPU to a thread, the invocations of a VCPU capability, the
handlers of the two interrupts that the kernel takes for a virtual CPU, and the functions that switch threads. What
is kept of the scheduler is the current thread, the scheduler action, and which threads exist and are runnable; what
it reads besides is handed to it as a `Choice`.
-/

namespace NexsKernel.Vcpu

open Mcs (Ptr TcbPtr Word ThreadState SchedulerAction)
open Function (update)

/-- The faults that the handlers of this file raise, with their fields. -/
inductive VcpuFault where
  | vppiEvent (irq : Nat)
  | vgicMaintenance (idx : Nat) (idxValid : Bool)
  deriving DecidableEq, Repr

/-- The threads, as far as virtual CPUs depend on them. -/
structure Threads where
  tcbExists : TcbPtr → Bool
  tcbVCPU : TcbPtr → Option VcpuPtr
  tsType : TcbPtr → ThreadState
  /-- On MCS: the thread has an active scheduling context and is not in the release queue. -/
  tcbReady : TcbPtr → Bool
  tcbDomain : TcbPtr → Nat
  /-- The saved `SPSR_EL1`. -/
  tcbSPSR : TcbPtr → Word
  ksCurThread : TcbPtr
  ksIdleThread : TcbPtr
  ksSchedulerAction : SchedulerAction
  ksCurDomain : Nat
  currentFault : Option VcpuFault

/-- The state of the core. -/
structure Core extends VcpuState, Threads where
  vcpuExists : VcpuPtr → Bool

/-- What `schedule` finds in the queues and in the domain schedule. -/
structure Choice where
  /-- `isCurDomainExpired`, on MCS. -/
  expired : Bool
  /-- `ksDomainTime` is zero. -/
  domainDone : Bool
  /-- The domain of the next entry. -/
  nextDomain : Nat
  /-- The candidate is queued, and the thread is chosen from the queues. -/
  queueCandidate : Bool
  /-- The thread that `chooseThread` finds. -/
  thread : Option TcbPtr

/-- `PSTATE_USER`, of a kernel without `CONFIG_DEBUG_BUILD`. -/
def pstateUser : Word := 1 <<< 6 ||| 1 <<< 8

/-- `sanitiseRegister` of `SPSR_EL1`. -/
def sanitiseSPSR (v : Word) (archInfo : Bool) : Word :=
  if archInfo ∧ (v &&& 0x1f = 0 ∨ v &&& 0x1f = 4 ∨ v &&& 0x1f = 5) then v else v &&& 0xf0000000 ||| pstateUser

namespace Core

variable (cfg : VcpuConfig) (s : Core)

/-- A function on the virtual CPUs, as one on the core. -/
def onVcpus (f : VcpuState → VcpuState) : Core :=
  { s with toVcpuState := f s.toVcpuState }

/-- `isRunnable`. -/
def isRunnable (t : TcbPtr) : Bool :=
  s.tsType t = .running ∨ s.tsType t = .restart

/-- `isSchedulable`. -/
def isSchedulable (t : TcbPtr) : Bool :=
  s.isRunnable t ∧ (cfg.mcs → s.tcbReady t)

/-- `rescheduleRequired`, less the queue of the candidate. -/
def rescheduleRequired : Core :=
  { s with ksSchedulerAction := .chooseNewThread }

/-- `scheduleTCB`. -/
def scheduleTCB (t : TcbPtr) : Core :=
  if t = s.ksCurThread ∧ s.ksSchedulerAction = .resumeCurrentThread ∧ s.isSchedulable cfg t = false then
    s.rescheduleRequired
  else
    s

/-- `setThreadState`. -/
def setThreadState (t : TcbPtr) (ts : ThreadState) : Core :=
  { s with tsType := update s.tsType t ts }.scheduleTCB cfg t

/-! ## Binding -/

/-- `dissociateVCPUTCB`. -/
def dissociateVCPUTCB (v : VcpuPtr) (t : TcbPtr) : Except Halt Core := do
  assert (s.tcbVCPU t = some v ∧ (s.vcpu v).vcpuTCB = some t)
  let s := s.onVcpus (·.invalidateIfCurrent v)
  let s := { s with tcbVCPU := update s.tcbVCPU t none }
  let s := { s with vcpu := update s.vcpu v { s.vcpu v with vcpuTCB := none } }
  .ok { s with tcbSPSR := update s.tcbSPSR t (sanitiseSPSR (s.tcbSPSR t) false) }

/-- `Arch_prepareThreadDelete`, less the FPU. -/
def archPrepareThreadDelete (t : TcbPtr) : Except Halt Core :=
  match s.tcbVCPU t with
  | some v => s.dissociateVCPUTCB v t
  | none => .ok s

/-- `vcpu_finalise`. -/
def vcpuFinalise (v : VcpuPtr) : Except Halt Core :=
  match (s.vcpu v).vcpuTCB with
  | some t => s.dissociateVCPUTCB v t
  | none => .ok s

/-- The two stores of `associateVCPUTCB`, and the switch. -/
def bindVCPUTCB (v : VcpuPtr) (t : TcbPtr) : Core :=
  let s := { s with tcbVCPU := update s.tcbVCPU t (some v) }
  let s := { s with vcpu := update s.vcpu v { s.vcpu v with vcpuTCB := some t } }
  if t = s.ksCurThread then s.onVcpus (·.vcpuSwitch cfg (some v)) else s

/-- `associateVCPUTCB`, whose first two branches are those of the two functions above. -/
def associateVCPUTCB (v : VcpuPtr) (t : TcbPtr) : Except Halt Core := do
  let s ← s.archPrepareThreadDelete t
  let s ← s.vcpuFinalise v
  .ok (s.bindVCPUTCB cfg v t)

/-! ## Interrupts -/

/-- `handleFault` of the current thread, which blocks or stops it in the state `ts`. -/
def handleFault (ts : ThreadState) : Core :=
  s.setThreadState cfg s.ksCurThread ts

/-- The end of both handlers. -/
def raise (fault : VcpuFault) (ts : ThreadState) : Except Halt Core := do
  let s := { s with currentFault := some fault }
  assert (s.isRunnable s.ksCurThread)
  .ok (if s.isRunnable s.ksCurThread then s.handleFault cfg ts else s)

/-- `VPPIEvent`, of the one interrupt with a `VPPIEventIRQ`. -/
def vppiEvent (ts : ThreadState) : Except Halt Core :=
  if cfg.mcs ∧ s.isSchedulable cfg s.ksCurThread = false then
    .ok s
  else if s.armHSVCPUActive then
    match s.armHSCurVCPU with
    | some cur =>
      let s := s.onVcpus fun s => { s with hw := s.hw.maskVtimer true }
      let s := s.onVcpus (·.onVcpu cur fun b => { b with vcpu.vppiMasked := true })
      s.raise cfg (.vppiEvent cfg.interruptVtimerEvent) ts
    -- a null pointer is followed
    | none => .error .outOfBounds
  else
    .ok s

/-- `irq_idx`. -/
def irqIdx (eisr0 eisr1 : BitVec 32) : Option Nat :=
  if eisr0 ≠ 0 then
    some eisr0.ctz.toNat
  else if eisr1 ≠ 0 then
    some (eisr1.ctz.toNat + 32)
  else
    none

/-- The list register, whose EOI interrupt is turned off in the hardware and in the object. -/
def clearEoi (idx : Nat) : Except Halt Core := do
  let virq := (s.hw.gic.lr idx).clearEOIIRQEN
  let s := s.onVcpus fun s => { s with hw := s.hw.setGicLr idx virq }
  assert (s.armHSCurVCPU.isSome ∧ s.armHSVCPUActive)
  match s.armHSCurVCPU with
  | some cur =>
    .ok (s.onVcpus (·.onVcpu cur fun b =>
      { b with vcpu.vgic.lr := update b.vcpu.vgic.lr idx virq }))
  | none => .ok s

/-- `VGICMaintenance`, with what the hardware reports. -/
def vgicMaintenance (eisr0 eisr1 misr : BitVec 32) (ts : ThreadState) : Except Halt Core :=
  if cfg.mcs ∧ s.isSchedulable cfg s.ksCurThread = false then
    .ok s
  else if s.armHSVCPUActive = false then
    .ok s
  else if misr &&& vgicMisrEoi ≠ 0 then
    match irqIdx eisr0 eisr1 with
    | some idx =>
      if cfg.gicVcpuNumListRegs ≤ idx then
        s.raise cfg (.vgicMaintenance 0 false) ts
      else do
        let s ← s.clearEoi idx
        s.raise cfg (.vgicMaintenance idx true) ts
    | none => s.raise cfg (.vgicMaintenance 0 false) ts
  else
    s.raise cfg (.vgicMaintenance 0 false) ts

/-! ## Threads -/

/-- `prepareSetDomain`, less the FPU. -/
def prepareSetDomain (t : TcbPtr) (dom : Nat) : Core :=
  if s.ksCurDomain ≠ dom then s.onVcpus (·.vcpuFlushIfCurrent cfg (s.tcbVCPU t)) else s

/-- `setDomain`, less the queues. -/
def setDomain (t : TcbPtr) (dom : Nat) : Core :=
  let s := { s with tcbDomain := update s.tcbDomain t dom }
  if t = s.ksCurThread then s.rescheduleRequired else s

/-- `possibleSwitchTo`, less the queues. -/
def possibleSwitchTo (t : TcbPtr) : Core :=
  if s.ksCurDomain ≠ s.tcbDomain t then
    s
  else if s.ksSchedulerAction ≠ .resumeCurrentThread then
    s.rescheduleRequired
  else
    { s with ksSchedulerAction := .switchTo t }

/-- `switchToThread`, less the queues. -/
def switchToThread (t : TcbPtr) : Core :=
  { s.onVcpus (·.vcpuSwitch cfg (s.tcbVCPU t)) with ksCurThread := t }

/-- `switchToIdleThread`. -/
def switchToIdleThread : Core :=
  { s.onVcpus (·.vcpuSwitch cfg none) with ksCurThread := s.ksIdleThread }

/-- `chooseThread`. -/
def chooseThread : Option TcbPtr → Core
  | some t => s.switchToThread cfg t
  | none => s.switchToIdleThread cfg

/-- `prepareNextDomain` and `nextDomain`, less the FPU and the domain's time. -/
def nextDomain (dom : Nat) : Core :=
  { s.onVcpus (·.vcpuFlush cfg) with ksCurDomain := dom }

/-- `scheduleChooseNewThread`. -/
def scheduleChooseNewThread (c : Choice) : Core :=
  let s := if c.domainDone then s.nextDomain cfg c.nextDomain else s
  s.chooseThread cfg c.thread

/-- `checkDomainTime`, on MCS. -/
def checkDomainTime (c : Choice) : Core :=
  if cfg.mcs ∧ c.expired then s.rescheduleRequired else s

/-- `schedule`, less the queues and the budgets. -/
def schedule (c : Choice) : Core :=
  let s := s.checkDomainTime cfg c
  let s := match s.ksSchedulerAction with
    | .resumeCurrentThread => s
    | .chooseNewThread => s.scheduleChooseNewThread cfg c
    | .switchTo candidate =>
      if c.queueCandidate then s.scheduleChooseNewThread cfg c else s.switchToThread cfg candidate
  { s with ksSchedulerAction := .resumeCurrentThread }

/-- The threads that `schedule` and `chooseThread` switch to are schedulable, as they assert. -/
def ChoiceLegal (c : Choice) : Prop :=
  (∀ t, c.thread = some t → s.isSchedulable cfg t = true) ∧
    ∀ t, (s.checkDomainTime cfg c).ksSchedulerAction = .switchTo t → s.isSchedulable cfg t = true

/-- `activateThread`. -/
def activateThread : Except Halt Core :=
  match s.tsType s.ksCurThread with
  | .running => .ok s
  | .restart => .ok (s.setThreadState cfg s.ksCurThread .running)
  | .idleThreadState => .ok s
  | _ => .error .assertion

/-- The end of a fast path: the current thread blocks in the state `ts`, and `switchToThread_fp` switches to one
that was waiting. -/
def fastpathSwitch (ts : ThreadState) (t : TcbPtr) : Core :=
  { s with tsType := update (update s.tsType s.ksCurThread ts) t .running }.switchToThread cfg t

/-- The deletion of a thread in `finaliseCap`. -/
def deleteThread (t : TcbPtr) : Except Halt Core := do
  let s := s.setThreadState cfg t .inactive
  let s ← s.archPrepareThreadDelete t
  .ok { s with tcbExists := update s.tcbExists t false }

/-- The deletion of a virtual CPU in `Arch_finaliseCap`. -/
def deleteVcpu (v : VcpuPtr) : Except Halt Core := do
  let s ← s.vcpuFinalise v
  .ok { s with vcpuExists := update s.vcpuExists v false }

/-- The creation of a thread in cleared memory. -/
def createThread (t : TcbPtr) : Core :=
  { s with
    tcbExists := update s.tcbExists t true
    tcbVCPU := update s.tcbVCPU t none
    tsType := update s.tsType t .inactive
    tcbReady := update s.tcbReady t false
    tcbDomain := update s.tcbDomain t s.ksCurDomain
    tcbSPSR := update s.tcbSPSR t pstateUser }

/-- The creation of a virtual CPU in cleared memory. -/
def createVcpu (v : VcpuPtr) : Core :=
  { s with
    vcpuExists := update s.vcpuExists v true
    vcpu := update s.vcpu v .init }

end Core

/-! ## Invocations -/

/-- `current_extra_caps.excaprefs[0]`: a thread capability or another. -/
inductive ExtraCap where
  | thread (t : TcbPtr)
  | other
  deriving DecidableEq, Repr

/-- The labels of VCPU invocations, and all others. -/
inductive VcpuLabel where
  | setTCB
  | injectIRQ
  | readReg
  | writeReg
  | ackVPPI
  | other
  deriving DecidableEq, Repr

/-- The message of an invocation. -/
structure Request where
  label : VcpuLabel
  mrs : List Word
  extraCap : Option ExtraCap

/-- What an accepted invocation does. -/
inductive VcpuInvocation where
  | setTCB (t : TcbPtr)
  | injectIRQ (index : Nat) (virq : Virq)
  | readReg (field : VCPUReg)
  | writeReg (field : VCPUReg) (value : Word)
  | ackVPPI
  deriving DecidableEq, Repr

namespace Core

variable (cfg : VcpuConfig) (s : Core)

/-- `decodeVCPUSetTCB`. -/
def decodeVCPUSetTCB (extraCap : Option ExtraCap) : Except SyscallError VcpuInvocation :=
  match extraCap with
  | none => .error .truncatedMessage
  | some .other => .error .illegalOperation
  | some (.thread t) => .ok (.setTCB t)

/-- The check of a register number. -/
def decodeField (field : Word) : Except SyscallError VCPUReg :=
  match VCPUReg.all[field.toNat]? with
  | some r => .ok r
  | none => .error (.invalidArgument 1)

/-- `decodeVCPUReadReg`. -/
def decodeVCPUReadReg : List Word → Except SyscallError VcpuInvocation
  | field :: _ => do
    let r ← decodeField field
    .ok (.readReg r)
  | [] => .error .truncatedMessage

/-- `decodeVCPUWriteReg`. -/
def decodeVCPUWriteReg : List Word → Except SyscallError VcpuInvocation
  | field :: value :: _ => do
    let r ← decodeField field
    .ok (.writeReg r value)
  | _ => .error .truncatedMessage

/-- The virtual interrupt, its priority and group, and the list register, in the message word. -/
def irqVid (mr0 : Word) : Nat := mr0.toNat % 2 ^ 16
def irqPriority (mr0 : Word) : Nat := mr0.toNat / 2 ^ 16 % 2 ^ 8
def irqGroup (mr0 : Word) : Nat := mr0.toNat / 2 ^ 24 % 2 ^ 8
def irqIndex (mr0 : Word) : Nat := mr0.toNat / 2 ^ 32 % 2 ^ 8

/-- `decodeVCPUInjectIRQ`. -/
def decodeVCPUInjectIRQ (v : VcpuPtr) : List Word → Except SyscallError VcpuInvocation
  | mr0 :: _ => do
    refuseIf (2 ^ 10 - 1 < irqVid mr0) (.rangeError 0 (2 ^ 10 - 1))
    refuseIf (31 < irqPriority mr0) (.rangeError 0 31)
    refuseIf (1 < irqGroup mr0) (.rangeError 0 1)
    refuseIf (cfg.gicVcpuNumListRegs ≤ irqIndex mr0) (.rangeError 0 (cfg.gicVcpuNumListRegs - 1))
    -- the list register is in use, as the object has it
    refuseIf (((s.vcpu v).vgic.lr (irqIndex mr0)).virqType = .active) .deleteFirst
    .ok (.injectIRQ (irqIndex mr0) (virqPendingNew (irqGroup mr0) (irqPriority mr0) 1 (irqVid mr0)))
  | [] => .error .truncatedMessage

/-- `decodeVCPUAckVPPI`, with `Arch_checkIRQ`. -/
def decodeVCPUAckVPPI : List Word → Except SyscallError VcpuInvocation
  | irq :: _ => do
    refuseIf (cfg.maxIRQ < irq.toNat) (.rangeError 0 cfg.maxIRQ)
    refuseIf (irq.toNat ≠ cfg.interruptVtimerEvent) (.invalidArgument 0)
    .ok .ackVPPI
  | [] => .error .truncatedMessage

/-- `decodeARMVCPUInvocation`, up to the invocation. -/
def decodeARMVCPUInvocation (v : VcpuPtr) (q : Request) : Except SyscallError VcpuInvocation :=
  match q.label with
  | .setTCB => decodeVCPUSetTCB q.extraCap
  | .readReg => decodeVCPUReadReg q.mrs
  | .writeReg => decodeVCPUWriteReg q.mrs
  | .injectIRQ => s.decodeVCPUInjectIRQ cfg v q.mrs
  | .ackVPPI => decodeVCPUAckVPPI cfg q.mrs
  | .other => .error .illegalOperation

/-- `invokeVCPUInjectIRQ`. -/
def invokeVCPUInjectIRQ (v : VcpuPtr) (index : Nat) (virq : Virq) : Core :=
  if s.armHSCurVCPU = some v then
    s.onVcpus fun s => { s with hw := s.hw.setGicLr index virq }
  else
    s.onVcpus (·.onVcpu v fun b => { b with vcpu.vgic.lr := update b.vcpu.vgic.lr index virq })

/-- `invokeVCPUAckVPPI`. -/
def invokeVCPUAckVPPI (v : VcpuPtr) : Core :=
  s.onVcpus (·.onVcpu v fun b => { b with vcpu.vppiMasked := false })

/-- The invocation, with the caller restarted before it; a read leaves it running. The value is the one that goes
into the message of a caller that waits for it. -/
def performVCPUInvocation (v : VcpuPtr) (i : VcpuInvocation) : Except Halt (Core × Option Word) :=
  let s := s.setThreadState cfg s.ksCurThread .restart
  match i with
  | .setTCB t => do
    let s ← s.associateVCPUTCB cfg v t
    .ok (s, none)
  | .injectIRQ index virq => .ok (s.invokeVCPUInjectIRQ v index virq, none)
  | .readReg field => .ok (s.setThreadState cfg s.ksCurThread .running, some (s.readVCPUReg v field))
  | .writeReg field value => .ok (s.onVcpus (·.writeVCPUReg v field value), none)
  | .ackVPPI => .ok (s.invokeVCPUAckVPPI v, none)

end Core

end NexsKernel.Vcpu
