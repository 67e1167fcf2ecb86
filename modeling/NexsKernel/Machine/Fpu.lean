import NexsKernel.Mcs.State

/-!
# The floating point unit

The FPU of one core and the functions that switch it between threads (`machine/fpu.h`, `machine/fpu.c`,
`kernel/thread.c`, `object/tcb.c`). The state of the FPU is of an arbitrary type `F`. What is kept of the
scheduler is what the FPU depends on: the current thread, the scheduler action, and which threads exist and are
schedulable. What the scheduler reads besides (queues, priorities, time) is handed to it as a `Choice`.
-/

namespace NexsKernel.Fpu

open Mcs (TcbPtr Word SchedulerAction DSchedule)
open Function (update)

/-- `seL4_TCBFlag_fpuDisabled`. -/
def tcbFlagFpuDisabled : Word := 1

/-- `seL4_TCBFlag_MASK`. -/
def tcbFlagMask : Word := tcbFlagFpuDisabled

/-- The FPU and the parts of the threads that belong to it. -/
structure FpuState (F : Type) where
  /-- What `enableFpu` and `disableFpu` set. -/
  fpuEnabled : Bool
  fpuRegisters : F
  ksCurFPUOwner : Option TcbPtr
  /-- `tcbArch.tcbContext.fpuState`. -/
  tcbFpuState : TcbPtr → F
  tcbFlags : TcbPtr → Word

/-- What the scheduler decides with. -/
structure SchedState where
  ksCurThread : TcbPtr
  ksIdleThread : TcbPtr
  ksSchedulerAction : SchedulerAction
  ksCurDomain : Nat
  ksDomainTime : Nat
  tcbDomain : TcbPtr → Nat
  tcbExists : TcbPtr → Bool
  isSchedulable : TcbPtr → Bool

/-- The state of the core, and the FPU state that each thread had when it last ran. -/
structure Core (F : Type) extends FpuState F, SchedState where
  lastState : TcbPtr → F

/-- What `schedule` finds in the queues and in the domain schedule. -/
structure Choice where
  /-- `isCurDomainExpired`. -/
  expired : Bool
  /-- The candidate is queued, and the thread is chosen from the queues. -/
  queueCandidate : Bool
  /-- The thread that `chooseThread` finds. -/
  thread : Option TcbPtr
  /-- The next entry of the domain schedule. -/
  entry : DSchedule

variable {F : Type}

namespace FpuState

variable (s : FpuState F)

/-- `thread->tcbFlags & seL4_TCBFlag_fpuDisabled`. -/
def fpuDisabled (t : TcbPtr) : Bool :=
  s.tcbFlags t &&& tcbFlagFpuDisabled ≠ 0

/-- `enableFpu`. -/
def enableFpu : FpuState F :=
  { s with fpuEnabled := true }

/-- `disableFpu`. -/
def disableFpu : FpuState F :=
  { s with fpuEnabled := false }

/-- `saveFpuState`. -/
def saveFpuState (t : TcbPtr) : FpuState F :=
  { s with tcbFpuState := update s.tcbFpuState t s.fpuRegisters }

/-- `loadFpuState`. -/
def loadFpuState (t : TcbPtr) : FpuState F :=
  { s with fpuRegisters := s.tcbFpuState t }

/-- `switchLocalFpuOwner`. -/
def switchLocalFpuOwner (newOwner : Option TcbPtr) : FpuState F :=
  let s := s.enableFpu
  let s := match s.ksCurFPUOwner with
    | some owner => s.saveFpuState owner
    | none => s
  let s := match newOwner with
    | some t => s.loadFpuState t
    | none => s.disableFpu
  { s with ksCurFPUOwner := newOwner }

/-- `nativeThreadUsingFPU`. -/
def nativeThreadUsingFPU (t : TcbPtr) : Bool :=
  s.ksCurFPUOwner = some t

/-- `fpuRelease`. -/
def fpuRelease (t : TcbPtr) : FpuState F :=
  if s.nativeThreadUsingFPU t then s.switchLocalFpuOwner none else s

/-- `lazyFPURestore`. -/
def lazyFPURestore (t : TcbPtr) : FpuState F :=
  if s.fpuDisabled t then
    s.disableFpu
  else if s.nativeThreadUsingFPU t then
    s.enableFpu
  else
    s.switchLocalFpuOwner (some t)

end FpuState

namespace Core

variable (s : Core F)

/-- A function on the FPU, as one on the core. -/
def onFpu (f : FpuState F → FpuState F) : Core F :=
  { s with toFpuState := f s.toFpuState }

/-- `rescheduleRequired`, less the queue of the candidate. -/
def rescheduleRequired : Core F :=
  { s with ksSchedulerAction := .chooseNewThread }

/-- `scheduleTCB`. -/
def scheduleTCB (t : TcbPtr) : Core F :=
  if t = s.ksCurThread ∧ s.ksSchedulerAction = .resumeCurrentThread ∧ s.isSchedulable t = false then
    s.rescheduleRequired
  else
    s

/-- `setThreadState`, by which the thread becomes schedulable or ceases to be. -/
def setThreadState (t : TcbPtr) (schedulable : Bool) : Core F :=
  { s with isSchedulable := update s.isSchedulable t schedulable }.scheduleTCB t

/-- `possibleSwitchTo`, less the queues. -/
def possibleSwitchTo (t : TcbPtr) : Core F :=
  if s.ksCurDomain ≠ s.tcbDomain t then
    s
  else if s.ksSchedulerAction ≠ .resumeCurrentThread then
    s.rescheduleRequired
  else
    { s with ksSchedulerAction := .switchTo t }

/-- `prepareSetDomain`. -/
def prepareSetDomain (t : TcbPtr) (dom : Nat) : Core F :=
  if s.ksCurDomain ≠ dom then s.onFpu (·.fpuRelease t) else s

/-- `setDomain`, less the queues. -/
def setDomain (t : TcbPtr) (dom : Nat) : Core F :=
  let s := { s with tcbDomain := update s.tcbDomain t dom }
  if t = s.ksCurThread then s.rescheduleRequired else s

/-- `invokeDomainSetSet`. -/
def invokeDomainSetSet (t : TcbPtr) (dom : Nat) : Core F :=
  (s.prepareSetDomain t dom).setDomain t dom

/-- `invokeSetFlags`, less the message for the caller. -/
def invokeSetFlags (t : TcbPtr) (clear set : Word) : Core F :=
  let flags := s.tcbFlags t &&& ~~~clear ||| (set &&& tcbFlagMask)
  let s := { s with tcbFlags := update s.tcbFlags t flags }
  let s :=
    if flags &&& tcbFlagFpuDisabled ≠ 0 then
      s.onFpu (·.fpuRelease t)
    else if t = s.ksCurThread then
      s.onFpu (·.lazyFPURestore t)
    else
      s
  s.setThreadState s.ksCurThread (s.isSchedulable s.ksCurThread)

/-- `prepareNextDomain`. -/
def prepareNextDomain : Core F :=
  s.onFpu (·.switchLocalFpuOwner none)

/-- `nextDomain`. -/
def nextDomain (entry : DSchedule) : Core F :=
  { s with ksCurDomain := entry.domain, ksDomainTime := entry.duration }

/-- `switchToThread`, less the queues. -/
def switchToThread (t : TcbPtr) : Core F :=
  { s.onFpu (·.lazyFPURestore t) with ksCurThread := t }

/-- `switchToIdleThread`. -/
def switchToIdleThread : Core F :=
  { s with ksCurThread := s.ksIdleThread }

/-- `chooseThread`. -/
def chooseThread : Option TcbPtr → Core F
  | some t => s.switchToThread t
  | none => s.switchToIdleThread

/-- `scheduleChooseNewThread`. -/
def scheduleChooseNewThread (c : Choice) : Core F :=
  let s := if s.ksDomainTime = 0 then s.prepareNextDomain.nextDomain c.entry else s
  s.chooseThread c.thread

/-- `checkDomainTime`. -/
def checkDomainTime (c : Choice) : Core F :=
  if c.expired then s.rescheduleRequired else s

/-- `schedule`, less the queues and the budgets. -/
def schedule (c : Choice) : Core F :=
  let s := s.checkDomainTime c
  let s := match s.ksSchedulerAction with
    | .resumeCurrentThread => s
    | .chooseNewThread => s.scheduleChooseNewThread c
    | .switchTo candidate =>
      if c.queueCandidate then s.scheduleChooseNewThread c else s.switchToThread candidate
  { s with ksSchedulerAction := .resumeCurrentThread }

/-- The threads that `schedule` and `chooseThread` switch to are schedulable, as they assert. -/
def ChoiceLegal (c : Choice) : Prop :=
  (∀ t, c.thread = some t → s.isSchedulable t = true) ∧
    ∀ t, (s.checkDomainTime c).ksSchedulerAction = .switchTo t → s.isSchedulable t = true

/-- The end of a fast path that blocks the current thread and switches to one that was waiting
(`switchToThread_fp`). -/
def fastpathSwitch (t : TcbPtr) : Core F :=
  { s with
    isSchedulable := update (update s.isSchedulable s.ksCurThread false) t true }.switchToThread t

/-- The deletion of a thread in `finaliseCap`: `suspend` and `Arch_prepareThreadDelete`. -/
def deleteThread (t : TcbPtr) : Core F :=
  let s := s.setThreadState t false
  let s := s.onFpu (·.fpuRelease t)
  { s with tcbExists := update s.tcbExists t false }

/-- The creation of a thread in cleared memory, with `Arch_initContext`. -/
def createThread (init : F) (t : TcbPtr) : Core F :=
  { s with
    tcbFlags := update s.tcbFlags t 0
    tcbFpuState := update s.tcbFpuState t init
    tcbDomain := update s.tcbDomain t s.ksCurDomain
    tcbExists := update s.tcbExists t true
    isSchedulable := update s.isSchedulable t false
    lastState := update s.lastState t init }

/-- The user runs, and leaves something in the registers if it may use them. -/
def run (regs : F) : Core F :=
  if s.ksCurThread ≠ s.ksIdleThread ∧ s.fpuEnabled = true then
    { s with fpuRegisters := regs, lastState := update s.lastState s.ksCurThread regs }
  else
    s

end Core

/-- The state after `create_initial_thread`, `init_core_state` and `Arch_initFpu`, with whatever the FPU holds. -/
def Core.boot (init regs : F) (enabled : Bool) (idle root : TcbPtr) : Core F where
  fpuEnabled := enabled
  fpuRegisters := regs
  ksCurFPUOwner := none
  tcbFpuState := fun _ => init
  tcbFlags := update (fun _ => 0) idle tcbFlagFpuDisabled
  ksCurThread := idle
  ksIdleThread := idle
  ksSchedulerAction := .switchTo root
  ksCurDomain := 0
  ksDomainTime := 2 ^ 56 - 1
  tcbDomain := fun _ => 0
  tcbExists := fun t => t == root
  isSchedulable := fun t => t == root
  lastState := fun _ => init

/-- Where the core is. -/
inductive Mode where
  | user
  | kernel
  deriving DecidableEq, Repr

/-- The runs of the core: user level, kernel entries, whatever the kernel does to threads in them, and the ways
back to user level. -/
inductive Reachable (init : F) : Mode → Core F → Prop
  | boot {regs : F} {enabled : Bool} {idle root : TcbPtr} : idle ≠ root →
      Reachable init .kernel (Core.boot init regs enabled idle root)
  | run {s : Core F} {regs : F} : Reachable init .user s → Reachable init .user (s.run regs)
  | enter {s : Core F} : Reachable init .user s → Reachable init .kernel s
  | setThreadState {s : Core F} {t : TcbPtr} {schedulable : Bool} : Reachable init .kernel s →
      s.tcbExists t = true → Reachable init .kernel (s.setThreadState t schedulable)
  | possibleSwitchTo {s : Core F} {t : TcbPtr} : Reachable init .kernel s → s.tcbExists t = true →
      Reachable init .kernel (s.possibleSwitchTo t)
  | rescheduleRequired {s : Core F} : Reachable init .kernel s → Reachable init .kernel s.rescheduleRequired
  | time {s : Core F} {n : Nat} : Reachable init .kernel s → Reachable init .kernel { s with ksDomainTime := n }
  | setFlags {s : Core F} {t : TcbPtr} {clear set : Word} : Reachable init .kernel s → s.tcbExists t = true →
      Reachable init .kernel (s.invokeSetFlags t clear set)
  | domainSet {s : Core F} {t : TcbPtr} {dom : Nat} : Reachable init .kernel s → s.tcbExists t = true →
      Reachable init .kernel (s.invokeDomainSetSet t dom)
  | create {s : Core F} {t : TcbPtr} : Reachable init .kernel s → s.tcbExists t = false → t ≠ s.ksIdleThread →
      Reachable init .kernel (s.createThread init t)
  | delete {s : Core F} {t : TcbPtr} : Reachable init .kernel s → s.tcbExists t = true →
      Reachable init .kernel (s.deleteThread t)
  | schedule {s : Core F} {c : Choice} : Reachable init .kernel s → s.ChoiceLegal c →
      Reachable init .user (s.schedule c)
  | resume {s : Core F} : Reachable init .kernel s → s.ksSchedulerAction = .resumeCurrentThread →
      Reachable init .user s
  | fastpath {s : Core F} {t : TcbPtr} : Reachable init .kernel s → s.ksSchedulerAction = .resumeCurrentThread →
      s.tcbExists t = true → Reachable init .user (s.fastpathSwitch t)

end NexsKernel.Fpu
