import NexsKernel.Vcpu.Bound

/-!
# Every run keeps the bindings

One lemma for each step, the invariant of all runs, and what the handlers of the two interrupts rely on.
-/

namespace NexsKernel.Vcpu

open Mcs (TcbPtr Word ThreadState SchedulerAction)
open Function (update update_self update_of_ne update_eq_self_iff)

variable {cfg : VcpuConfig}

namespace Core

open VcpuState (invalidateIfCurrent_active vcpuFlush_tcb vcpuFlush_cur vcpuFlush_active)

variable {s s' : Core} {v w : VcpuPtr} {t u : TcbPtr} {ts : ThreadState} {p : Phase}

lemma Inv.sound (h : s.Inv cfg p) : s.Sound :=
  ⟨h.bindings, h.running, h.active⟩

lemma Sound.inv (h : s.Sound) : s.Inv cfg .work :=
  .work h.bindings h.running h.active

lemma Sound.inv_user (h : s.Sound) (hr : s.CurrentRuns) : s.Inv cfg .user :=
  ⟨h.bindings, h.running, h.active, fun _ => hr, by rintro (e | e) <;> cases e⟩

lemma Sound.inv_of (h : s.Sound) (hp : p ≠ .user) (hr : s.ActiveRunnable cfg) : s.Inv cfg p :=
  ⟨h.bindings, h.running, h.active, fun e => absurd e hp, fun _ => hr⟩

/-- The registers and the hardware can change in any phase. -/
lemma Inv.onVcpus (h : s.Inv cfg p) {f : VcpuState → VcpuState} (hf : OnlyContents s.toVcpuState (f s.toVcpuState)) :
    (s.onVcpus f).Inv cfg p where
  bindings := (h.sound.onVcpus hf).bindings
  running := (h.sound.onVcpus hf).running
  active := (h.sound.onVcpus hf).active
  user e := h.user e
  interrupt e hm ha := h.interrupt e hm (hf.active.symm.trans ha)

/-- Budgets do not matter. -/
lemma Inv.setReady (h : s.Inv cfg p) {f : TcbPtr → Bool} : Inv cfg p { s with tcbReady := f } where
  bindings := ⟨h.bindings.bound, h.bindings.exist, h.bindings.loaded⟩
  running := ⟨h.running.idle, h.running.idleState, h.running.exist, h.running.resume⟩
  active := h.active
  user e := h.user e
  interrupt e := h.interrupt e

/-- The thread of an active virtual CPU is not the idle thread. -/
lemma Sound.active_ne_idle (h : s.Sound) (ha : s.armHSVCPUActive = true) : s.ksCurThread ≠ s.ksIdleThread := by
  obtain ⟨v, -, hv⟩ := h.active ha
  exact h.running.ne_idle (h.bindings.exist v _ hv).1

lemma Inv.activeRunnable (h : s.Inv cfg .user) : s.ActiveRunnable cfg := fun _ ha =>
  (h.user rfl).resolve_left (h.sound.active_ne_idle ha)

/-! ## Deletion -/

lemma dissociateVCPUTCB_active (hd : s.dissociateVCPUTCB v t = .ok s') (ha : s'.armHSVCPUActive = true) :
    s.armHSVCPUActive = true := by
  obtain ⟨ht, hv, spsr, rfl⟩ := dissociateVCPUTCB_cases hd
  exact (invalidateIfCurrent_active ha).1

lemma SameThreads.isRunnable (h : SameThreads s s') (t : TcbPtr) : s'.isRunnable t = s.isRunnable t := by
  unfold Core.isRunnable
  rw [h.tsType]

lemma archPrepareThreadDelete_active (hd : s.archPrepareThreadDelete t = .ok s') (ha : s'.armHSVCPUActive = true) :
    s.armHSVCPUActive = true := by
  obtain ⟨-, rfl⟩ | ⟨v, -, hd⟩ := archPrepareThreadDelete_cases hd
  · exact ha
  · exact dissociateVCPUTCB_active hd ha

lemma vcpuFinalise_active (hd : s.vcpuFinalise v = .ok s') (ha : s'.armHSVCPUActive = true) :
    s.armHSVCPUActive = true := by
  obtain ⟨-, rfl⟩ | ⟨t, -, hd⟩ := vcpuFinalise_cases hd
  · exact ha
  · exact dissociateVCPUTCB_active hd ha

/-- Nothing is active once the current thread has no virtual CPU. -/
lemma ActiveCurrent.none (h : s.ActiveCurrent) (hc : s.tcbVCPU s.ksCurThread = none) : s.armHSVCPUActive = false := by
  apply Bool.eq_false_of_not_eq_true
  intro ha
  obtain ⟨v, -, hv⟩ := h ha
  rw [hc] at hv
  cases hv

lemma setThreadState_tsType : (s.setThreadState cfg t ts).tsType = update s.tsType t ts := by
  obtain ⟨a, e, -⟩ := setThreadState_cases cfg s t ts
  rw [e]

lemma setThreadState_vcpus : (s.setThreadState cfg t ts).toVcpuState = s.toVcpuState := by
  obtain ⟨a, e, -⟩ := setThreadState_cases cfg s t ts
  rw [e]

lemma Inv.deleteThread (h : s.Inv cfg .deletion) (ht : s.tcbExists t = true) (hs : s.deleteThread cfg t = .ok s') :
    s'.Inv cfg .deletion := by
  obtain ⟨s1, h1, hs⟩ := bind_eq_ok.mp hs
  obtain rfl := Except.ok.inj hs
  have e := archPrepareThreadDelete_same h1
  have hn := archPrepareThreadDelete_tcbVCPU h1
  have h0 : (s.setThreadState cfg t .inactive).Sound := h.sound.setThreadState ht
  have hb := h0.archPrepareThreadDelete h1
  have hts : s1.isRunnable t = false := by
    rw [e.isRunnable]
    unfold Core.isRunnable
    rw [setThreadState_tsType]
    simp
  refine Sound.inv_of ⟨⟨hb.bindings.bound, fun w u hu => ⟨?_, (hb.bindings.exist w u hu).2⟩, hb.bindings.loaded⟩,
    ⟨?_, hb.running.idleState, fun u hu => ?_, hb.running.resume⟩, hb.active⟩ nofun fun hm ha => ?_
  · refine (update_of_ne ?_ _ _).trans (hb.bindings.exist w u hu).1
    rintro rfl
    exact absurd (hn.symm.trans hu) nofun
  · dsimp only
    by_cases hi : s1.ksIdleThread = t
    · rw [hi, update_self]
    · rw [update_of_ne hi]
      exact hb.running.idle
  · refine (update_of_ne ?_ _ _).trans (hb.running.exist u hu)
    rintro rfl
    exact absurd (hts.symm.trans hu) nofun
  · show s1.isRunnable s1.ksCurThread = true
    have ha : s1.armHSVCPUActive = true := ha
    -- a current thread that is deleted has lost its virtual CPU
    have hne : s1.ksCurThread ≠ t := by
      intro hc
      rw [hb.active.none (hc ▸ hn)] at ha
      cases ha
    have ha' : s.armHSVCPUActive = true := by
      have := archPrepareThreadDelete_active h1 ha
      rwa [setThreadState_vcpus] at this
    have hcur : s1.ksCurThread = s.ksCurThread := e.cur.trans setThreadState_ksCurThread
    rw [e.isRunnable]
    unfold Core.isRunnable
    rw [setThreadState_tsType, update_of_ne hne, hcur]
    exact h.interrupt (.inr rfl) hm ha'

lemma Inv.deleteVcpu (h : s.Inv cfg .deletion) (hs : s.deleteVcpu v = .ok s') : s'.Inv cfg .deletion := by
  obtain ⟨s1, h1, hs⟩ := bind_eq_ok.mp hs
  obtain rfl := Except.ok.inj hs
  have e := vcpuFinalise_same h1
  have hb := h.sound.vcpuFinalise h1
  refine Sound.inv_of ⟨⟨hb.bindings.bound, fun w u hu => ⟨(hb.bindings.exist w u hu).1, ?_⟩, hb.bindings.loaded⟩,
    ⟨hb.running.idle, hb.running.idleState, hb.running.exist, hb.running.resume⟩, hb.active⟩ nofun fun hm ha => ?_
  · refine (update_of_ne ?_ _ _).trans (hb.bindings.exist w u hu).2
    rintro rfl
    exact absurd ((vcpuFinalise_vcpuTCB h1).symm.trans ((hb.bindings.bound w u).mpr hu)) nofun
  · show s1.isRunnable s1.ksCurThread = true
    rw [e.isRunnable, e.cur]
    exact h.interrupt (.inr rfl) hm (vcpuFinalise_active h1 ha)

/-! ## Domains and creation -/

lemma Sound.vcpuFlush (h : s.Sound) : (s.onVcpus (·.vcpuFlush cfg)).Sound := by
  refine ⟨⟨fun w u => ?_, h.bindings.exist, fun w hc => ?_⟩,
    ⟨h.running.idle, h.running.idleState, h.running.exist, h.running.resume⟩, fun ha => ?_⟩
  · exact (iff_of_eq (congrArg (· = some u) (vcpuFlush_tcb w))).trans (h.bindings.bound w u)
  · exact absurd (vcpuFlush_cur.symm.trans hc) nofun
  · exact absurd ((vcpuFlush_active h.active.loaded).symm.trans ha) nofun

lemma Sound.prepareSetDomain (h : s.Sound) (dom : Nat) : (s.prepareSetDomain cfg t dom).Sound := by
  unfold Core.prepareSetDomain
  split
  · by_cases hc : s.tcbVCPU t = s.armHSCurVCPU
    · have e : s.vcpuFlushIfCurrent cfg (s.tcbVCPU t) = s.vcpuFlush cfg := if_pos hc
      unfold Core.onVcpus
      dsimp only
      rw [e]
      exact h.vcpuFlush
    · have e : s.vcpuFlushIfCurrent cfg (s.tcbVCPU t) = s.toVcpuState := if_neg hc
      unfold Core.onVcpus
      dsimp only
      rw [e]
      exact h
  · exact h

lemma Sound.setDomain (h : s.Sound) (dom : Nat) : (s.setDomain t dom).Sound := by
  unfold Core.setDomain
  dsimp only
  have hs : Sound { s with tcbDomain := update s.tcbDomain t dom } :=
    ⟨⟨h.bindings.bound, h.bindings.exist, h.bindings.loaded⟩,
      ⟨h.running.idle, h.running.idleState, h.running.exist, h.running.resume⟩, h.active⟩
  split
  · exact hs.rescheduleRequired
  · exact hs

lemma Sound.possibleSwitchTo (h : s.Sound) : (s.possibleSwitchTo t).Sound := by
  unfold Core.possibleSwitchTo
  split
  · exact h
  · split
    · exact h.rescheduleRequired
    · exact ⟨⟨h.bindings.bound, h.bindings.exist, h.bindings.loaded⟩,
        ⟨h.running.idle, h.running.idleState, h.running.exist, nofun⟩, h.active⟩

lemma Bindings.none_of_not_exists (h : s.Bindings) (ht : s.tcbExists t = false) : s.tcbVCPU t = none := by
  cases hv : s.tcbVCPU t with
  | none => rfl
  | some v => exact absurd (ht.symm.trans (h.exist v t hv).1) nofun

lemma Sound.createThread (h : s.Sound) (ht : s.tcbExists t = false) (hi : t ≠ s.ksIdleThread) :
    (s.createThread t).Sound := by
  have hn : update s.tcbVCPU t none = s.tcbVCPU :=
    update_eq_self_iff.mpr (h.bindings.none_of_not_exists ht).symm
  have hx : ∀ u, s.tcbExists u = true → update s.tcbExists t true u = true := fun u hu => by
    by_cases hut : u = t
    · rw [hut, update_self]
    · rw [update_of_ne hut, hu]
  unfold Core.createThread
  rw [hn]
  refine ⟨⟨h.bindings.bound, fun w u hu => ?_, h.bindings.loaded⟩, ⟨?_, ?_, fun u hu => ?_, fun hr => ?_⟩, h.active⟩
  · exact (h.bindings.exist w u hu).imp_left (hx u)
  · exact (update_of_ne hi.symm _ _).trans h.running.idle
  · exact (update_of_ne hi.symm _ _).trans h.running.idleState
  · by_cases hut : u = t
    · exact hut ▸ update_self ..
    · apply hx
      apply h.running.exist
      rw [isRunnable_iff] at hu ⊢
      dsimp only at hu
      rwa [update_of_ne hut] at hu
  · refine (h.running.resume hr).imp_right fun hu => ?_
    have hc : s.ksCurThread ≠ t := by
      intro e
      have hx := h.running.exist _ hu
      rw [e, ht] at hx
      cases hx
    rw [isRunnable_iff] at hu ⊢
    dsimp only
    rwa [update_of_ne hc]

lemma Sound.createVcpu (h : s.Sound) (hv : s.vcpuExists v = false) : (s.createVcpu v).Sound := by
  have hn : ∀ u, s.tcbVCPU u ≠ some v := fun u hu => absurd (hv.symm.trans (h.bindings.exist v u hu).2) nofun
  refine ⟨⟨fun w u => ?_, fun w u hu => ⟨(h.bindings.exist w u hu).1, ?_⟩, h.bindings.loaded⟩,
    ⟨h.running.idle, h.running.idleState, h.running.exist, h.running.resume⟩, h.active⟩
  · show (update s.vcpu v .init w).vcpuTCB = some u ↔ s.tcbVCPU u = some w
    by_cases hw : w = v
    · subst hw
      rw [update_self]
      exact ⟨nofun, fun e => absurd e (hn u)⟩
    · rw [update_of_ne hw]
      exact h.bindings.bound w u
  · refine (update_of_ne ?_ _ _).trans (h.bindings.exist w u hu).2
    rintro rfl
    exact hn u hu

/-! ## Steps -/

/-- Each step keeps the invariant of the phase that it leads to. -/
lemma Inv.step {a : Action} {p' : Phase} (h : s.Inv cfg p) (st : Step cfg p s a p' s') : s'.Inv cfg p' := by
  cases st with
  | guestReg | nativeTimer | hardwareIsr => exact h.onVcpus (f := (·.setReg _ _)) .hw
  | guestAck | guestEoi | guestApr | guestVmcr | tick => exact h.onVcpus .hw
  | enterInterrupt => exact h.sound.inv_of nofun h.activeRunnable
  | enterDeletion hc =>
    have he := h.running.exist _ ((h.user rfl).resolve_left hc)
    exact (h.sound.setThreadState he).inv_of nofun (h.activeRunnable.setThreadState fun _ => .inr rfl)
  | enterWork => exact h.sound.inv
  | deleteThread ht hs => exact h.deleteThread ht hs
  | deleteVcpu hv hs => exact h.deleteVcpu hs
  | @wake _ t ts ht hr hts =>
    refine ⟨h.bindings.setThreadState, h.running.setThreadState ht, h.active.setThreadState, nofun, fun _ hm ha => ?_⟩
    have ha' : s.armHSVCPUActive = true := by rwa [setThreadState_vcpus] at ha
    have hc := h.interrupt (.inr rfl) hm ha'
    -- the thread that waits is not the current one
    have hne : s.ksCurThread ≠ t := by
      rintro e
      rw [e, hr] at hc
      cases hc
    rw [setThreadState_ksCurThread]
    unfold Core.isRunnable
    rw [setThreadState_tsType, update_of_ne hne]
    exact hc
  | preempt => exact h.sound.inv_of nofun (h.interrupt (.inr rfl))
  | finish => exact h.sound.inv
  | setReady => exact h.setReady
  | timeout hm ht hts =>
    exact (h.sound.setThreadState ht).inv_of nofun fun hm' => absurd (hm.symm.trans hm') nofun
  | vppiEvent _ hs => exact (h.sound.vppiEvent hs).inv
  | vgicMaintenance _ hs => exact (h.sound.vgicMaintenance hs).inv
  | otherInterrupt => exact h.sound.inv
  | invoke hi _ hc hs => exact (h.sound.performVCPUInvocation hc hi hs).inv
  | setThreadState ht => exact (h.sound.setThreadState ht).inv
  | possibleSwitchTo => exact h.sound.possibleSwitchTo.inv
  | rescheduleRequired => exact h.sound.rescheduleRequired.inv
  | setDomain => exact ((h.sound.prepareSetDomain _).setDomain _).inv
  | createThread ht hi => exact (h.sound.createThread ht hi).inv
  | createVcpu hv => exact (h.sound.createVcpu hv).inv
  | schedule hc hs =>
    obtain ⟨hb, hr⟩ := h.sound.schedule hc
    obtain ⟨hb, hr⟩ := hb.activateThread hr hs
    exact hb.inv_user hr
  | fastpath hc ht =>
    obtain ⟨hb, hr⟩ := h.sound.fastpathSwitch hc ht ((h.user rfl).resolve_left hc)
    exact hb.inv_user hr

end Core

open Core

variable {p : Phase} {s : Core}

lemma Core.boot_inv {hw : Hardware} {idle root : TcbPtr} (hne : idle ≠ root) :
    (Core.boot hw idle root).Inv cfg .work := by
  refine Sound.inv ⟨⟨fun v t => ⟨nofun, nofun⟩, nofun, nofun⟩, ⟨?_, if_pos rfl, fun t ht => ?_, nofun⟩, nofun⟩
  · exact beq_eq_false_iff_ne.mpr hne
  · rw [isRunnable_iff] at ht
    unfold Core.boot at ht ⊢
    dsimp only at ht ⊢
    split at ht
    · simp at ht
    · split at ht
      · rename_i e
        exact beq_iff_eq.mpr e
      · simp at ht

/-- The invariant of all runs. -/
lemma Reachable.inv (h : Reachable cfg p s) : s.Inv cfg p := by
  induction h with
  | boot hne => exact boot_inv hne
  | step _ st ih => exact ih.step st

/-! ## The handlers -/

namespace Core

variable {t : TcbPtr} {v : VcpuPtr} {ts : ThreadState}

/-- At an interrupt, the thread of an active virtual CPU is runnable, and the virtual CPU is its own. -/
lemma Inv.runnable (h : s.Inv cfg .interrupt) (ha : s.armHSVCPUActive = true)
    (hm : cfg.mcs = true → s.isSchedulable cfg s.ksCurThread = true) : s.isRunnable s.ksCurThread = true := by
  cases e : cfg.mcs with
  | true => exact isSchedulable_runnable (hm e)
  | false => exact h.interrupt (.inl rfl) e ha

lemma raise_ok {fault : VcpuFault} (h : s.isRunnable s.ksCurThread = true) : ∃ s', s.raise cfg fault ts = .ok s' := by
  have h : isRunnable { s with currentFault := some fault } s.ksCurThread = true := h
  unfold raise
  dsimp only
  rw [assert_ok h]
  exact ⟨_, rfl⟩

/-- The first check of the handlers, on MCS. -/
lemma schedulable_of_not (h : ¬ (cfg.mcs = true ∧ s.isSchedulable cfg s.ksCurThread = false)) (hm : cfg.mcs = true) :
    s.isSchedulable cfg s.ksCurThread = true := by
  by_contra hs
  exact h ⟨hm, Bool.eq_false_of_not_eq_true hs⟩

lemma Inv.vppiEvent (h : s.Inv cfg .interrupt) (ts : ThreadState) : ∃ s', s.vppiEvent cfg ts = .ok s' := by
  unfold Core.vppiEvent
  split
  · exact ⟨_, rfl⟩
  · rename_i hm
    split
    · rename_i ha
      obtain ⟨v, hc, -⟩ := h.active ha
      rw [hc]
      exact raise_ok (h.runnable ha (schedulable_of_not hm))
    · exact ⟨_, rfl⟩

/-- The list register is written, and the threads are as before. -/
lemma clearEoi_ok (hc : s.armHSCurVCPU = some v) (ha : s.armHSVCPUActive = true) (idx : Nat) :
    ∃ vs, s.clearEoi idx = .ok { s with toVcpuState := vs } := by
  unfold clearEoi
  dsimp only
  rw [assert_ok (by simp [onVcpus, hc, ha])]
  have hc' : (s.onVcpus fun vs => { vs with hw := vs.hw.setGicLr idx (s.hw.gic.lr idx).clearEOIIRQEN }).armHSCurVCPU
      = some v := hc
  exact ⟨_, by rw [hc']; rfl⟩

lemma Inv.vgicMaintenance (h : s.Inv cfg .interrupt) (eisr0 eisr1 misr : BitVec 32) (ts : ThreadState) :
    ∃ s', s.vgicMaintenance cfg eisr0 eisr1 misr ts = .ok s' := by
  unfold Core.vgicMaintenance
  split
  · exact ⟨_, rfl⟩
  · rename_i hm
    split
    · exact ⟨_, rfl⟩
    · rename_i ha
      have ha : s.armHSVCPUActive = true := Bool.eq_true_of_not_eq_false ha
      have hr := h.runnable ha (schedulable_of_not hm)
      split
      · split
        · split
          · exact raise_ok hr
          · rename_i idx _ _
            obtain ⟨v, hc, -⟩ := h.active ha
            obtain ⟨vs, e⟩ := clearEoi_ok hc ha idx
            rw [e]
            exact raise_ok hr
        · exact raise_ok hr
      · exact raise_ok hr

end Core

/-- In every state of every run, threads and virtual CPUs point at each other, and an active virtual CPU is loaded
and is the one of the current thread. Where an interrupt is handled, the thread of an active virtual CPU is
runnable, so that no check of the two handlers fails. -/
theorem reachable_current (h : Reachable cfg p s) :
    (∀ v t, (s.vcpu v).vcpuTCB = some t ↔ s.tcbVCPU t = some v) ∧
    (s.armHSVCPUActive = true → ∃ v, s.armHSCurVCPU = some v ∧ s.tcbVCPU s.ksCurThread = some v) ∧
    (p = .interrupt →
      (s.armHSVCPUActive = true → (cfg.mcs = true → s.isSchedulable cfg s.ksCurThread = true) →
        s.isRunnable s.ksCurThread = true ∧
          ∃ v, s.armHSCurVCPU = some v ∧ s.tcbVCPU s.ksCurThread = some v) ∧
      (∀ ts, ∃ s', s.vppiEvent cfg ts = .ok s') ∧
      ∀ eisr0 eisr1 misr ts, ∃ s', s.vgicMaintenance cfg eisr0 eisr1 misr ts = .ok s') := by
  have hi := h.inv
  refine ⟨hi.bindings.bound, hi.active, ?_⟩
  rintro rfl
  exact ⟨fun ha hm => ⟨hi.runnable ha hm, hi.active ha⟩, hi.vppiEvent, hi.vgicMaintenance⟩

/-! ## A guest -/

/-- A kernel without MCS and with four list registers, that moves the offset of the virtual timer or not. -/
def plainConfig (moves : Bool) : VcpuConfig where
  mcs := false
  vtimerUpdateVoffset := moves
  gicVcpuNumListRegs := 4
  maxIRQ := 255
  interruptVtimerEvent := 27
  vtimerIRQActive := true

/-- Hardware with cleared registers. -/
def clearedHardware : Hardware where
  reg := fun _ => 0
  gic := { hcr := 0, vmcr := 0, apr := 0, lr := fun _ => .null }
  hcrEL2 := .native
  cntpct := 0
  vtimerMasked := true

/-- The scheduler finds nothing to do. -/
def noChoice : Choice where
  expired := false
  domainDone := false
  nextDomain := 0
  queueCandidate := false
  thread := none

variable (moves : Bool)

/-- The initial thread runs. -/
def rootState : Core :=
  (Core.boot clearedHardware 0 1).schedule (plainConfig moves) noChoice

/-- The initial thread is in a system call, and has made a virtual CPU. -/
def vcpuMade : Core :=
  (rootState moves).createVcpu 2

/-- It has bound the virtual CPU to itself. -/
def vcpuBound : Core :=
  ((vcpuMade moves).setThreadState (plainConfig moves) 1 .restart).bindVCPUTCB (plainConfig moves) 2 1

/-- It is back at user level, as a guest. -/
def guestState : Core :=
  ((vcpuBound moves).schedule (plainConfig moves) noChoice).setThreadState (plainConfig moves) 1 .running

lemma reachable_rootState : Reachable (plainConfig moves) .user (rootState moves) := by
  have h : Reachable (plainConfig moves) .work (Core.boot clearedHardware 0 1) := .boot (by decide)
  refine h.step (.schedule (c := noChoice) ⟨nofun, fun t e => ?_⟩ rfl)
  obtain rfl : 1 = t := by
    have e : SchedulerAction.switchTo 1 = .switchTo t := e
    injection e
  rfl

lemma reachable_vcpuBound : Reachable (plainConfig moves) .work (vcpuBound moves) := by
  refine (((reachable_rootState moves).step .enterWork).step (.createVcpu (v := 2) rfl)).step
    (.invoke (v := 2) (i := .setTCB 1) (x := none) ⟨rfl, ⟨⟨.setTCB, [], some (.thread 1)⟩, rfl⟩, ?_⟩ nofun rfl rfl)
  rintro t e
  injection e with e
  subst e
  rfl

lemma reachable_guestState : Reachable (plainConfig moves) .user (guestState moves) :=
  (reachable_vcpuBound moves).step (.schedule (c := noChoice) ⟨nofun, fun t e => by cases e⟩ rfl)

/-- A guest is interrupted. -/
theorem reachable_current_guest :
    (guestState false).armHSVCPUActive = true ∧ (guestState false).isRunnable (guestState false).ksCurThread = true ∧
      ∃ v, (guestState false).armHSCurVCPU = some v ∧
        (guestState false).tcbVCPU (guestState false).ksCurThread = some v := by
  have h := (reachable_current ((reachable_guestState false).step .enterInterrupt)).2.2 rfl
  exact ⟨rfl, h.1 rfl nofun⟩

end NexsKernel.Vcpu
