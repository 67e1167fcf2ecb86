import NexsKernel.Vcpu.Invoke

/-!
# Runs with virtual CPUs

The runs of one core: guests and native threads at user level, kernel entries, and what the kernel does in them that
virtual CPUs depend on. An entry that is preempted while it deletes objects goes on to the interrupt, as an entry
by an interrupt does; no other entry does.
-/

namespace NexsKernel.Vcpu

open Mcs (TcbPtr Word ThreadState SchedulerAction)

/-- Where the core is. -/
inductive Phase where
  /-- At user level. -/
  | user
  /-- Before `checkInterrupt`. -/
  | interrupt
  /-- In an invocation that deletes objects and can be preempted. -/
  | deletion
  /-- In any other part of an entry. -/
  | work
  deriving DecidableEq, Repr

/-- What happens in a step. -/
inductive Action where
  | guestReg (r : VCPUReg) (x : Word)
  | guestAck (i : Nat)
  | guestEoi (i : Nat)
  | guestApr (x : BitVec 32)
  | guestVmcr (x : BitVec 32)
  | nativeTimer (r : VCPUReg) (x : Word)
  | hardwareIsr (x : Word)
  | tick (x : Word)
  | enterInterrupt
  | enterDeletion
  | enterWork
  | preempt
  | finish
  | deleteThread (t : TcbPtr)
  | deleteVcpu (v : VcpuPtr)
  | wake (t : TcbPtr) (ts : ThreadState)
  | setReady (t : TcbPtr) (b : Bool)
  | timeout (t : TcbPtr) (ts : ThreadState)
  | vppiEvent (ts : ThreadState)
  | vgicMaintenance (eisr0 eisr1 misr : BitVec 32) (ts : ThreadState)
  | otherInterrupt
  | invoke (v : VcpuPtr) (i : VcpuInvocation)
  | setThreadState (t : TcbPtr) (ts : ThreadState)
  | possibleSwitchTo (t : TcbPtr)
  | rescheduleRequired
  | setDomain (t : TcbPtr) (dom : Nat)
  | createThread (t : TcbPtr)
  | createVcpu (v : VcpuPtr)
  | schedule (c : Choice)
  | fastpath (ts : ThreadState) (t : TcbPtr)

/-- The invocation is one that a thread can make: a message decodes to it, and the objects that its capabilities
are to exist. -/
def Core.Accepts (cfg : VcpuConfig) (s : Core) (v : VcpuPtr) (i : VcpuInvocation) : Prop :=
  s.vcpuExists v = true ∧ (∃ q, s.decodeARMVCPUInvocation cfg v q = .ok i) ∧
    ∀ t, i = .setTCB t → s.tcbExists t = true

/-- The steps. -/
inductive Step (cfg : VcpuConfig) : Phase → Core → Action → Phase → Core → Prop
  -- the guest of the active virtual CPU
  | guestReg {s : Core} {r : VCPUReg} {x : Word} : s.armHSVCPUActive = true → r ≠ .isr →
      Step cfg .user s (.guestReg r x) .user (s.onVcpus (·.setReg r x))
  | guestAck {s : Core} {i : Nat} : s.armHSVCPUActive = true → i < cfg.gicVcpuNumListRegs →
      (s.hw.gic.lr i).virqType = .pending →
      Step cfg .user s (.guestAck i) .user
        (s.onVcpus fun s => { s with hw := s.hw.setGicLr i { s.hw.gic.lr i with virqType := .active } })
  | guestEoi {s : Core} {i : Nat} : s.armHSVCPUActive = true → i < cfg.gicVcpuNumListRegs →
      (s.hw.gic.lr i).virqType = .active →
      Step cfg .user s (.guestEoi i) .user
        (s.onVcpus fun s => { s with hw := s.hw.setGicLr i { s.hw.gic.lr i with virqType := .invalid } })
  | guestApr {s : Core} {x : BitVec 32} : s.armHSVCPUActive = true →
      Step cfg .user s (.guestApr x) .user (s.onVcpus fun s => { s with hw.gic.apr := x })
  | guestVmcr {s : Core} {x : BitVec 32} : s.armHSVCPUActive = true →
      Step cfg .user s (.guestVmcr x) .user (s.onVcpus fun s => { s with hw.gic.vmcr := x })
  -- a native thread, which may have access to the timer
  | nativeTimer {s : Core} {r : VCPUReg} {x : Word} : s.armHSVCPUActive = false → r = .cntvCtl ∨ r = .cntvCval →
      Step cfg .user s (.nativeTimer r x) .user (s.onVcpus (·.setReg r x))
  -- the hardware
  | hardwareIsr {p : Phase} {s : Core} {x : Word} :
      Step cfg p s (.hardwareIsr x) p (s.onVcpus (·.setReg .isr x))
  | tick {p : Phase} {s : Core} {x : Word} :
      Step cfg p s (.tick x) p (s.onVcpus fun s => { s with hw.cntpct := x })
  -- kernel entries
  | enterInterrupt {s : Core} : Step cfg .user s .enterInterrupt .interrupt s
  | enterDeletion {s : Core} : s.ksCurThread ≠ s.ksIdleThread →
      Step cfg .user s .enterDeletion .deletion (s.setThreadState cfg s.ksCurThread .restart)
  | enterWork {s : Core} : Step cfg .user s .enterWork .work s
  -- deletion; the finalisation of other objects changes only threads that wait for something
  | deleteThread {s s' : Core} {t : TcbPtr} : s.tcbExists t = true → s.deleteThread cfg t = .ok s' →
      Step cfg .deletion s (.deleteThread t) .deletion s'
  | deleteVcpu {s s' : Core} {v : VcpuPtr} : s.vcpuExists v = true → s.deleteVcpu v = .ok s' →
      Step cfg .deletion s (.deleteVcpu v) .deletion s'
  | wake {s : Core} {t : TcbPtr} {ts : ThreadState} : s.tcbExists t = true → s.isRunnable t = false →
      ts ≠ .idleThreadState →
      Step cfg .deletion s (.wake t ts) .deletion (s.setThreadState cfg t ts)
  | preempt {s : Core} : Step cfg .deletion s .preempt .interrupt s
  | finish {s : Core} : Step cfg .deletion s .finish .work s
  -- scheduling contexts and budgets, on MCS
  | setReady {p : Phase} {s : Core} {t : TcbPtr} {b : Bool} : cfg.mcs = true → p ≠ .user →
      Step cfg p s (.setReady t b) p { s with tcbReady := Function.update s.tcbReady t b }
  | timeout {s : Core} {t : TcbPtr} {ts : ThreadState} : cfg.mcs = true → s.tcbExists t = true →
      ts ≠ .idleThreadState →
      Step cfg .interrupt s (.timeout t ts) .interrupt (s.setThreadState cfg t ts)
  -- interrupts
  | vppiEvent {s s' : Core} {ts : ThreadState} : ts ≠ .idleThreadState → s.vppiEvent cfg ts = .ok s' →
      Step cfg .interrupt s (.vppiEvent ts) .work s'
  | vgicMaintenance {s s' : Core} {eisr0 eisr1 misr : BitVec 32} {ts : ThreadState} : ts ≠ .idleThreadState →
      s.vgicMaintenance cfg eisr0 eisr1 misr ts = .ok s' →
      Step cfg .interrupt s (.vgicMaintenance eisr0 eisr1 misr ts) .work s'
  | otherInterrupt {s : Core} : Step cfg .interrupt s .otherInterrupt .work s
  -- the rest of an entry
  | invoke {s s' : Core} {v : VcpuPtr} {i : VcpuInvocation} {x : Option Word} : s.Accepts cfg v i →
      s.ksCurThread ≠ s.ksIdleThread → s.tcbExists s.ksCurThread = true →
      s.performVCPUInvocation cfg v i = .ok (s', x) →
      Step cfg .work s (.invoke v i) .work s'
  | setThreadState {s : Core} {t : TcbPtr} {ts : ThreadState} : s.tcbExists t = true → ts ≠ .idleThreadState →
      Step cfg .work s (.setThreadState t ts) .work (s.setThreadState cfg t ts)
  | possibleSwitchTo {s : Core} {t : TcbPtr} : s.tcbExists t = true →
      Step cfg .work s (.possibleSwitchTo t) .work (s.possibleSwitchTo t)
  | rescheduleRequired {s : Core} : Step cfg .work s .rescheduleRequired .work s.rescheduleRequired
  | setDomain {s : Core} {t : TcbPtr} {dom : Nat} : s.tcbExists t = true →
      Step cfg .work s (.setDomain t dom) .work ((s.prepareSetDomain cfg t dom).setDomain t dom)
  | createThread {s : Core} {t : TcbPtr} : s.tcbExists t = false → t ≠ s.ksIdleThread →
      Step cfg .work s (.createThread t) .work (s.createThread t)
  | createVcpu {s : Core} {v : VcpuPtr} : s.vcpuExists v = false →
      Step cfg .work s (.createVcpu v) .work (s.createVcpu v)
  -- the ways back
  | schedule {s s' : Core} {c : Choice} : s.ChoiceLegal cfg c → (s.schedule cfg c).activateThread cfg = .ok s' →
      Step cfg .work s (.schedule c) .user s'
  | fastpath {s : Core} {t : TcbPtr} {ts : ThreadState} : s.ksCurThread ≠ s.ksIdleThread → s.tcbExists t = true →
      ts ≠ .idleThreadState → Step cfg .user s (.fastpath ts t) .user (s.fastpathSwitch cfg ts t)

/-- The state after `vcpu_boot_init` and the creation of the initial thread. -/
def Core.boot (hw : Hardware) (idle root : TcbPtr) : Core where
  vcpu := fun _ => .init
  hw := Bank.native hw
  armHSCurVCPU := none
  armHSVCPUActive := false
  vcpuExists := fun _ => false
  tcbExists := fun t => t == root
  tcbVCPU := fun _ => none
  tsType := fun t => if t = idle then .idleThreadState else if t = root then .running else .inactive
  tcbReady := fun t => t == root
  tcbDomain := fun _ => 0
  tcbSPSR := fun _ => pstateUser
  ksCurThread := idle
  ksIdleThread := idle
  ksSchedulerAction := .switchTo root
  ksCurDomain := 0
  currentFault := none

/-- The states of the runs from boot. -/
inductive Reachable (cfg : VcpuConfig) : Phase → Core → Prop
  | boot {hw : Hardware} {idle root : TcbPtr} : idle ≠ root → Reachable cfg .work (Core.boot hw idle root)
  | step {p p' : Phase} {s s' : Core} {a : Action} : Reachable cfg p s → Step cfg p s a p' s' → Reachable cfg p' s'

end NexsKernel.Vcpu
