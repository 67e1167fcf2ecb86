import NexsKernel.Vcpu.Views
import NexsKernel.Vcpu.Run

/-!
# The virtual CPU of the current thread

A thread and a virtual CPU point at each other or not at all. While a virtual CPU is active, it is the one of the
current thread, and where an interrupt may be handled the current thread is then runnable.
-/

namespace NexsKernel.Vcpu

open Mcs (TcbPtr Word ThreadState SchedulerAction)
open Function (update update_self update_of_ne)

variable {cfg : VcpuConfig}

/-! ## The bindings are not moved with the registers -/

namespace Bank

variable (b : Bank)

lemma foldl_vcpuSaveReg_tcb (l : List VCPUReg) : (l.foldl vcpuSaveReg b).vcpu.vcpuTCB = b.vcpu.vcpuTCB := by
  induction l generalizing b with
  | nil => rfl
  | cons r l ih => exact ih (b.vcpuSaveReg r)

lemma foldl_vcpuRestoreReg_vcpu (l : List VCPUReg) : (l.foldl vcpuRestoreReg b).vcpu = b.vcpu := by
  induction l generalizing b with
  | nil => rfl
  | cons r l ih => exact ih (b.vcpuRestoreReg r)

lemma saveVirtTimer_tcb : (b.saveVirtTimer cfg).vcpu.vcpuTCB = b.vcpu.vcpuTCB := by
  unfold saveVirtTimer
  cases cfg.vtimerUpdateVoffset <;> rfl

lemma vcpuSave_tcb (active : Bool) : (b.vcpuSave cfg active).vcpu.vcpuTCB = b.vcpu.vcpuTCB := by
  unfold vcpuSave armvVcpuSave vcpuSaveRegRange saveActive
  simp only [foldl_saveLr, foldl_vcpuSaveReg_tcb]
  cases active with
  | false => rfl
  | true => exact saveVirtTimer_tcb _

lemma vcpuEnable_tcb : (b.vcpuEnable cfg).vcpu.vcpuTCB = b.vcpu.vcpuTCB := by
  unfold vcpuEnable restoreVirtTimer
  cases cfg.vtimerUpdateVoffset <;> cases cfg.vtimerIRQActive <;> rfl

lemma vcpuRestore_tcb : (b.vcpuRestore cfg).vcpu.vcpuTCB = b.vcpu.vcpuTCB := by
  unfold vcpuRestore vcpuRestoreRegRange
  simp only [foldl_restoreLr, vcpuEnable_tcb, foldl_vcpuRestoreReg_vcpu]

lemma vcpuDisable_tcb : (b.vcpuDisable cfg).vcpu.vcpuTCB = b.vcpu.vcpuTCB :=
  saveVirtTimer_tcb _

end Bank

namespace VcpuState

variable {s : VcpuState} {v w : VcpuPtr}

lemma onVcpu_tcb {f : Bank → Bank} (hf : ∀ b, (f b).vcpu.vcpuTCB = b.vcpu.vcpuTCB) (w : VcpuPtr) :
    ((s.onVcpu v f).vcpu w).vcpuTCB = (s.vcpu w).vcpuTCB := by
  by_cases hw : w = v
  · subst hw
    rw [onVcpu_vcpu, hf]
  · rw [onVcpu_vcpu_of_ne f hw]

lemma saveCurrent_tcb (w : VcpuPtr) : ((s.saveCurrent cfg).vcpu w).vcpuTCB = (s.vcpu w).vcpuTCB := by
  unfold saveCurrent
  split
  · exact onVcpu_tcb (fun b => b.vcpuSave_tcb _) w
  · rfl

/-- The switch to a virtual CPU. -/
lemma vcpuSwitch_some (v : VcpuPtr) :
    (s.vcpuSwitch cfg (some v)).armHSCurVCPU = some v ∧ (s.vcpuSwitch cfg (some v)).armHSVCPUActive = true := by
  unfold vcpuSwitch
  split
  · exact ⟨rfl, rfl⟩
  · rename_i hc
    have hc := not_ne_iff.mp hc
    dsimp only
    split
    · rename_i ha
      exact ⟨hc, ha⟩
    · exact ⟨hc, rfl⟩

/-- The switch to a thread without a virtual CPU. -/
lemma vcpuSwitch_none :
    (s.vcpuSwitch cfg none).armHSCurVCPU = s.armHSCurVCPU ∧
      ((s.vcpuSwitch cfg none).armHSVCPUActive = true → s.armHSCurVCPU = none ∧ s.armHSVCPUActive = true) := by
  unfold vcpuSwitch
  split
  · dsimp only
    split
    · cases hc : s.armHSCurVCPU with
      | some cur => exact ⟨hc, nofun⟩
      | none => exact ⟨rfl, nofun⟩
    · rename_i ha
      exact ⟨rfl, fun h => absurd h ha⟩
  · rename_i hc
    exact ⟨rfl, fun ha => ⟨not_ne_iff.mp hc, ha⟩⟩

lemma vcpuSwitch_tcb (new : Option VcpuPtr) (w : VcpuPtr) :
    ((s.vcpuSwitch cfg new).vcpu w).vcpuTCB = (s.vcpu w).vcpuTCB := by
  unfold vcpuSwitch
  split
  · cases new with
    | some new => exact (onVcpu_tcb (fun b => b.vcpuRestore_tcb) w).trans (saveCurrent_tcb w)
    | none =>
      dsimp only
      split
      · cases s.armHSCurVCPU with
        | some cur => exact onVcpu_tcb (fun b => b.vcpuDisable_tcb) w
        | none => rfl
      · rfl
  · cases new with
    | some new =>
      dsimp only
      split
      · rfl
      · exact onVcpu_tcb (fun b => b.vcpuEnable_tcb) w
    | none => rfl

lemma invalidateIfCurrent_vcpu (v : VcpuPtr) : (s.invalidateIfCurrent v).vcpu = s.vcpu := by
  unfold invalidateIfCurrent
  split
  · exact vcpuInvalidateActive_vcpu
  · rfl

lemma invalidateIfCurrent_cur (h : (s.invalidateIfCurrent v).armHSCurVCPU = some w) :
    s.armHSCurVCPU = some w ∧ w ≠ v := by
  unfold invalidateIfCurrent at h
  split at h
  · cases h
  · rename_i hne
    exact ⟨h, fun e => hne (e ▸ h)⟩

lemma invalidateIfCurrent_active (h : (s.invalidateIfCurrent v).armHSVCPUActive = true) :
    s.armHSVCPUActive = true ∧ s.armHSCurVCPU ≠ some v := by
  unfold invalidateIfCurrent at h
  split at h
  · rw [vcpuInvalidateActive_active] at h
    cases h
  · rename_i hne
    exact ⟨h, hne⟩

lemma vcpuFlush_tcb (w : VcpuPtr) : ((s.vcpuFlush cfg).vcpu w).vcpuTCB = (s.vcpu w).vcpuTCB := by
  unfold vcpuFlush
  split
  · rw [vcpuInvalidateActive_vcpu]
    exact saveCurrent_tcb w
  · rfl

/-- After a flush nothing is loaded. -/
lemma vcpuFlush_cur : (s.vcpuFlush cfg).armHSCurVCPU = none := by
  unfold vcpuFlush
  split
  · rfl
  · assumption

lemma vcpuFlush_active (h : s.armHSVCPUActive = true → s.armHSCurVCPU ≠ none) :
    (s.vcpuFlush cfg).armHSVCPUActive = false := by
  unfold vcpuFlush
  split
  · exact vcpuInvalidateActive_active
  · rename_i hc
    exact Bool.eq_false_of_not_eq_true fun ha => h ha hc

end VcpuState

/-! ## The invariant -/

namespace Core

open VcpuState (invalidateIfCurrent_vcpu invalidateIfCurrent_cur invalidateIfCurrent_active vcpuSwitch_some
  vcpuSwitch_none vcpuSwitch_tcb vcpuFlush_tcb vcpuFlush_cur vcpuFlush_active onVcpu_tcb)

variable {s s' : Core} {v w : VcpuPtr} {t u : TcbPtr} {ts : ThreadState}

/-- The bindings, and the loaded virtual CPU, which has one. -/
structure Bindings (s : Core) : Prop where
  bound : ∀ v t, (s.vcpu v).vcpuTCB = some t ↔ s.tcbVCPU t = some v
  exist : ∀ v t, s.tcbVCPU t = some v → s.tcbExists t = true ∧ s.vcpuExists v = true
  loaded : ∀ v, s.armHSCurVCPU = some v → ∃ t, s.tcbVCPU t = some v

/-- The threads that run. -/
structure Running (s : Core) : Prop where
  idle : s.tcbExists s.ksIdleThread = false
  idleState : s.tsType s.ksIdleThread = .idleThreadState
  exist : ∀ t, s.isRunnable t = true → s.tcbExists t = true
  resume : s.ksSchedulerAction = .resumeCurrentThread → s.ksCurThread = s.ksIdleThread ∨
    s.isRunnable s.ksCurThread = true

/-- An active virtual CPU is the one of the current thread. -/
def ActiveCurrent (s : Core) : Prop :=
  s.armHSVCPUActive = true → ∃ v, s.armHSCurVCPU = some v ∧ s.tcbVCPU s.ksCurThread = some v

/-- Without scheduling contexts, the thread of an active virtual CPU is runnable. -/
def ActiveRunnable (cfg : VcpuConfig) (s : Core) : Prop :=
  cfg.mcs = false → s.armHSVCPUActive = true → s.isRunnable s.ksCurThread = true

/-- The current thread can run. -/
def CurrentRuns (s : Core) : Prop :=
  s.ksCurThread = s.ksIdleThread ∨ s.isRunnable s.ksCurThread = true

/-- What holds in every state of a run. -/
structure Inv (cfg : VcpuConfig) (p : Phase) (s : Core) : Prop where
  bindings : s.Bindings
  running : s.Running
  active : s.ActiveCurrent
  user : p = .user → s.CurrentRuns
  interrupt : p = .interrupt ∨ p = .deletion → s.ActiveRunnable cfg

lemma Inv.work (hb : s.Bindings) (hr : s.Running) (ha : s.ActiveCurrent) : s.Inv cfg .work :=
  ⟨hb, hr, ha, nofun, by rintro (h | h) <;> cases h⟩

/-! ## Thread states -/

lemma isRunnable_iff : s.isRunnable t = true ↔ s.tsType t = .running ∨ s.tsType t = .restart := by
  simp [isRunnable]

/-- The current thread is rescheduled if it stops being runnable. -/
lemma setThreadState_cases (cfg : VcpuConfig) (s : Core) (t : TcbPtr) (ts : ThreadState) :
    ∃ a, s.setThreadState cfg t ts = { s with tsType := update s.tsType t ts, ksSchedulerAction := a } ∧
      (a = .resumeCurrentThread → s.ksSchedulerAction = .resumeCurrentThread ∧
        (t = s.ksCurThread → ts = .running ∨ ts = .restart)) := by
  unfold setThreadState scheduleTCB
  split
  · exact ⟨.chooseNewThread, rfl, nofun⟩
  · rename_i hn
    refine ⟨s.ksSchedulerAction, rfl, fun ha => ⟨ha, fun hc => ?_⟩⟩
    by_contra hts
    refine hn ⟨hc, ha, ?_⟩
    simp [isSchedulable, isRunnable, hts]

lemma Bindings.setThreadState (h : s.Bindings) : (s.setThreadState cfg t ts).Bindings := by
  obtain ⟨a, e, -⟩ := setThreadState_cases cfg s t ts
  rw [e]
  exact ⟨h.bound, h.exist, h.loaded⟩

lemma ActiveCurrent.setThreadState (h : s.ActiveCurrent) : (s.setThreadState cfg t ts).ActiveCurrent := by
  obtain ⟨a, e, -⟩ := setThreadState_cases cfg s t ts
  rw [e]
  exact h

lemma isRunnable_update {f : TcbPtr → ThreadState} {a : SchedulerAction} (hu : u ≠ t) :
    isRunnable { s with tsType := update f t ts, ksSchedulerAction := a } u =
      isRunnable { s with tsType := f } u := by
  unfold isRunnable
  simp only [update_of_ne hu]

lemma Running.ne_idle (h : s.Running) (ht : s.tcbExists t = true) : t ≠ s.ksIdleThread := by
  rintro rfl
  rw [h.idle] at ht
  cases ht

lemma Running.setThreadState (h : s.Running) (ht : s.tcbExists t = true) :
    (s.setThreadState cfg t ts).Running := by
  obtain ⟨a, e, ha⟩ := setThreadState_cases cfg s t ts
  rw [e]
  refine ⟨h.idle, ?_, fun u hu => ?_, fun hr => ?_⟩
  · exact (update_of_ne (h.ne_idle ht).symm _ _).trans h.idleState
  · by_cases hut : u = t
    · exact hut ▸ ht
    · rw [isRunnable_update hut] at hu
      exact h.exist u hu
  · obtain ⟨hr, hc⟩ := ha hr
    refine (h.resume hr).imp_right fun hrun => ?_
    by_cases hct : s.ksCurThread = t
    · rw [isRunnable_iff]
      dsimp only
      rw [hct, update_self]
      exact hc hct.symm
    · rw [isRunnable_update hct]
      exact hrun

/-- The state of another thread, or of one that stays runnable. -/
lemma ActiveRunnable.setThreadState (h : s.ActiveRunnable cfg)
    (hc : t = s.ksCurThread → ts = .running ∨ ts = .restart) : (s.setThreadState cfg t ts).ActiveRunnable cfg := by
  obtain ⟨a, e, -⟩ := setThreadState_cases cfg s t ts
  rw [e]
  intro hm ha
  by_cases hct : s.ksCurThread = t
  · rw [isRunnable_iff]
    dsimp only
    rw [hct, update_self]
    exact hc hct.symm
  · rw [isRunnable_update hct]
    exact h hm ha

/-! ## Bindings -/

/-- What a dissociation does. -/
lemma dissociateVCPUTCB_cases (h : s.dissociateVCPUTCB v t = .ok s') :
    s.tcbVCPU t = some v ∧ (s.vcpu v).vcpuTCB = some t ∧ ∃ spsr, s' =
      { s with
        toVcpuState :=
          { s.toVcpuState.invalidateIfCurrent v with
            vcpu := update s.vcpu v { s.vcpu v with vcpuTCB := none } }
        tcbVCPU := update s.tcbVCPU t none
        tcbSPSR := spsr } := by
  obtain ⟨u, h1, h⟩ := bind_eq_ok.mp h
  have hb := of_decide_eq_true (assert_eq_ok.mp h1)
  refine ⟨hb.1, hb.2, update s.tcbSPSR t (sanitiseSPSR (s.tcbSPSR t) false), ?_⟩
  obtain rfl := Except.ok.inj h
  unfold onVcpus
  dsimp only
  rw [invalidateIfCurrent_vcpu]

/-- A dissociation does not fail. -/
lemma Bindings.dissociateVCPUTCB (h : s.Bindings) (hv : s.tcbVCPU t = some v) :
    ∃ s', s.dissociateVCPUTCB v t = .ok s' := by
  unfold Core.dissociateVCPUTCB
  rw [assert_ok (decide_eq_true ⟨hv, (h.bound v t).mpr hv⟩)]
  exact ⟨_, rfl⟩

lemma Bindings.dissociate (h : s.Bindings) (hd : s.dissociateVCPUTCB v t = .ok s') : s'.Bindings := by
  obtain ⟨ht, hv, spsr, rfl⟩ := dissociateVCPUTCB_cases hd
  refine ⟨fun w u => ?_, fun w u e => ?_, fun w hc => ?_⟩
  · dsimp only
    by_cases hw : w = v
    · subst hw
      rw [update_self]
      by_cases hu : u = t
      · rw [hu, update_self]
        exact ⟨nofun, nofun⟩
      · rw [update_of_ne hu]
        exact ⟨nofun, fun e => absurd (Option.some.inj (((h.bound w u).mpr e).symm.trans hv)) hu⟩
    · rw [update_of_ne hw, h.bound]
      by_cases hu : u = t
      · rw [hu, update_self, ht]
        exact ⟨fun e => absurd (Option.some.inj e).symm hw, nofun⟩
      · rw [update_of_ne hu]
  · dsimp only at e
    by_cases hu : u = t
    · rw [hu, update_self] at e
      cases e
    · rw [update_of_ne hu] at e
      exact h.exist w u e
  · obtain ⟨hc, hw⟩ := invalidateIfCurrent_cur hc
    obtain ⟨u, hu⟩ := h.loaded w hc
    refine ⟨u, ?_⟩
    dsimp only
    rwa [update_of_ne]
    rintro rfl
    exact hw (Option.some.inj (hu.symm.trans ht))

lemma ActiveCurrent.dissociate (h : s.ActiveCurrent) (hd : s.dissociateVCPUTCB v t = .ok s') : s'.ActiveCurrent := by
  obtain ⟨ht, hv, spsr, rfl⟩ := dissociateVCPUTCB_cases hd
  intro ha
  obtain ⟨ha, hne⟩ := invalidateIfCurrent_active ha
  obtain ⟨w, hc, hw⟩ := h ha
  refine ⟨w, (congrArg VcpuState.armHSCurVCPU (if_neg hne)).trans hc, ?_⟩
  dsimp only
  rwa [update_of_ne]
  intro e
  exact hne (hc.trans (hw.symm.trans (e ▸ ht)))

lemma Running.dissociate (h : s.Running) (hd : s.dissociateVCPUTCB v t = .ok s') : s'.Running := by
  obtain ⟨ht, hv, spsr, rfl⟩ := dissociateVCPUTCB_cases hd
  exact ⟨h.idle, h.idleState, h.exist, h.resume⟩

/-- The three parts that do not depend on where the kernel is. -/
structure Sound (s : Core) : Prop where
  bindings : s.Bindings
  running : s.Running
  active : s.ActiveCurrent

lemma Sound.dissociate (h : s.Sound) (hd : s.dissociateVCPUTCB v t = .ok s') : s'.Sound :=
  ⟨h.bindings.dissociate hd, h.running.dissociate hd, h.active.dissociate hd⟩

lemma Sound.setThreadState (h : s.Sound) (ht : s.tcbExists t = true) : (s.setThreadState cfg t ts).Sound :=
  ⟨h.bindings.setThreadState, h.running.setThreadState ht, h.active.setThreadState⟩

/-- The parts of the state that dissociations leave alone. -/
structure SameThreads (s s' : Core) : Prop where
  cur : s'.ksCurThread = s.ksCurThread
  tcbExists : s'.tcbExists = s.tcbExists
  vcpuExists : s'.vcpuExists = s.vcpuExists
  tsType : s'.tsType = s.tsType
  idle : s'.ksIdleThread = s.ksIdleThread
  action : s'.ksSchedulerAction = s.ksSchedulerAction

lemma SameThreads.refl (s : Core) : SameThreads s s :=
  ⟨rfl, rfl, rfl, rfl, rfl, rfl⟩

lemma dissociateVCPUTCB_same (hd : s.dissociateVCPUTCB v t = .ok s') : SameThreads s s' := by
  obtain ⟨ht, hv, spsr, rfl⟩ := dissociateVCPUTCB_cases hd
  exact ⟨rfl, rfl, rfl, rfl, rfl, rfl⟩

/-- What `Arch_prepareThreadDelete` does. -/
lemma archPrepareThreadDelete_cases (h : s.archPrepareThreadDelete t = .ok s') :
    s.tcbVCPU t = none ∧ s' = s ∨ ∃ v, s.tcbVCPU t = some v ∧ s.dissociateVCPUTCB v t = .ok s' := by
  unfold archPrepareThreadDelete at h
  split at h
  · rename_i v hv
    exact .inr ⟨v, hv, h⟩
  · rename_i hv
    exact .inl ⟨hv, (Except.ok.inj h).symm⟩

/-- What `vcpu_finalise` does. -/
lemma vcpuFinalise_cases (h : s.vcpuFinalise v = .ok s') :
    (s.vcpu v).vcpuTCB = none ∧ s' = s ∨ ∃ t, (s.vcpu v).vcpuTCB = some t ∧ s.dissociateVCPUTCB v t = .ok s' := by
  unfold vcpuFinalise at h
  split at h
  · rename_i t ht
    exact .inr ⟨t, ht, h⟩
  · rename_i ht
    exact .inl ⟨ht, (Except.ok.inj h).symm⟩

lemma archPrepareThreadDelete_same (h : s.archPrepareThreadDelete t = .ok s') : SameThreads s s' := by
  obtain ⟨-, rfl⟩ | ⟨v, -, hd⟩ := archPrepareThreadDelete_cases h
  · exact .refl _
  · exact dissociateVCPUTCB_same hd

lemma vcpuFinalise_same (h : s.vcpuFinalise v = .ok s') : SameThreads s s' := by
  obtain ⟨-, rfl⟩ | ⟨t, -, hd⟩ := vcpuFinalise_cases h
  · exact .refl _
  · exact dissociateVCPUTCB_same hd

/-- Afterwards the thread has no virtual CPU. -/
lemma archPrepareThreadDelete_tcbVCPU (h : s.archPrepareThreadDelete t = .ok s') : s'.tcbVCPU t = none := by
  obtain ⟨hv, rfl⟩ | ⟨v, -, hd⟩ := archPrepareThreadDelete_cases h
  · exact hv
  · obtain ⟨ht, hv, spsr, rfl⟩ := dissociateVCPUTCB_cases hd
    exact update_self ..

/-- No thread gets a virtual CPU. -/
lemma dissociateVCPUTCB_none (hd : s.dissociateVCPUTCB v t = .ok s') (hu : s.tcbVCPU u = none) :
    s'.tcbVCPU u = none := by
  obtain ⟨ht, hv, spsr, rfl⟩ := dissociateVCPUTCB_cases hd
  dsimp only
  rw [update_of_ne, hu]
  rintro rfl
  rw [ht] at hu
  cases hu

lemma vcpuFinalise_none (h : s.vcpuFinalise v = .ok s') (hu : s.tcbVCPU u = none) : s'.tcbVCPU u = none := by
  obtain ⟨-, rfl⟩ | ⟨t, -, hd⟩ := vcpuFinalise_cases h
  · exact hu
  · exact dissociateVCPUTCB_none hd hu

/-- Afterwards the virtual CPU has no thread. -/
lemma vcpuFinalise_vcpuTCB (h : s.vcpuFinalise v = .ok s') : (s'.vcpu v).vcpuTCB = none := by
  obtain ⟨ht, rfl⟩ | ⟨t, -, hd⟩ := vcpuFinalise_cases h
  · exact ht
  · obtain ⟨ht, hv, spsr, rfl⟩ := dissociateVCPUTCB_cases hd
    dsimp only
    rw [update_self]

lemma Sound.archPrepareThreadDelete (h : s.Sound) (hd : s.archPrepareThreadDelete t = .ok s') : s'.Sound := by
  obtain ⟨-, rfl⟩ | ⟨v, -, hd⟩ := archPrepareThreadDelete_cases hd
  · exact h
  · exact h.dissociate hd

lemma Sound.vcpuFinalise (h : s.Sound) (hd : s.vcpuFinalise v = .ok s') : s'.Sound := by
  obtain ⟨-, rfl⟩ | ⟨t, -, hd⟩ := vcpuFinalise_cases hd
  · exact h
  · exact h.dissociate hd

/-! ## Switching -/

/-- A change of what the virtual CPUs hold, not of which is loaded or bound. -/
structure OnlyContents (vs vs' : VcpuState) : Prop where
  tcb : ∀ w, (vs'.vcpu w).vcpuTCB = (vs.vcpu w).vcpuTCB
  cur : vs'.armHSCurVCPU = vs.armHSCurVCPU
  active : vs'.armHSVCPUActive = vs.armHSVCPUActive

lemma Sound.onVcpus (h : s.Sound) {f : VcpuState → VcpuState} (hf : OnlyContents s.toVcpuState (f s.toVcpuState)) :
    (s.onVcpus f).Sound where
  bindings := by
    refine ⟨fun w u => ?_, h.bindings.exist, fun w hc => h.bindings.loaded w (hf.cur.symm.trans hc)⟩
    exact (iff_of_eq (congrArg (· = some u) (hf.tcb w))).trans (h.bindings.bound w u)
  running := ⟨h.running.idle, h.running.idleState, h.running.exist, h.running.resume⟩
  active ha := by
    obtain ⟨w, hc, hw⟩ := h.active (hf.active.symm.trans ha)
    exact ⟨w, hf.cur.trans hc, hw⟩

lemma Bindings.switchToThread (h : s.Bindings) : (s.switchToThread cfg t).Bindings := by
  refine ⟨fun w u => ?_, h.exist, fun w hc => ?_⟩
  · exact (iff_of_eq (congrArg (· = some u) (vcpuSwitch_tcb _ w))).trans (h.bound w u)
  · cases ht : s.tcbVCPU t with
    | some v =>
      have e : (s.vcpuSwitch cfg (some v)).armHSCurVCPU = some w := ht ▸ hc
      rw [(vcpuSwitch_some v).1] at e
      exact ⟨t, ht.trans e⟩
    | none =>
      have e : (s.vcpuSwitch cfg none).armHSCurVCPU = some w := ht ▸ hc
      rw [vcpuSwitch_none.1] at e
      exact h.loaded w e

/-- A virtual CPU that is active is loaded. -/
lemma ActiveCurrent.loaded (h : s.ActiveCurrent) (ha : s.armHSVCPUActive = true) : s.armHSCurVCPU ≠ none := by
  obtain ⟨w, hc, -⟩ := h ha
  rw [hc]
  nofun

lemma switchToThread_active (h : s.armHSVCPUActive = true → s.armHSCurVCPU ≠ none) :
    (s.switchToThread cfg t).ActiveCurrent := by
  intro ha
  cases ht : s.tcbVCPU t with
  | some v =>
    refine ⟨v, ?_, ht⟩
    show (s.vcpuSwitch cfg (s.tcbVCPU t)).armHSCurVCPU = some v
    rw [ht]
    exact (vcpuSwitch_some v).1
  | none =>
    have e : (s.vcpuSwitch cfg none).armHSVCPUActive = true := ht ▸ ha
    obtain ⟨hc, ha⟩ := vcpuSwitch_none.2 e
    exact absurd hc (h ha)

lemma Bindings.switchToIdleThread (h : s.Bindings) : (s.switchToIdleThread cfg).Bindings := by
  refine ⟨fun w u => ?_, h.exist, fun w hc => ?_⟩
  · exact (iff_of_eq (congrArg (· = some u) (vcpuSwitch_tcb _ w))).trans (h.bound w u)
  · exact h.loaded w (vcpuSwitch_none.1.symm.trans hc)

lemma switchToIdleThread_active (h : s.armHSVCPUActive = true → s.armHSCurVCPU ≠ none) :
    (s.switchToIdleThread cfg).ActiveCurrent := by
  intro ha
  obtain ⟨hc, ha⟩ := vcpuSwitch_none.2 ha
  exact absurd hc (h ha)

/-! ## Scheduling -/

/-- The bindings, and an active virtual CPU is loaded; whose it is does not matter before a switch. -/
structure Switchable (s : Core) : Prop where
  bindings : s.Bindings
  idle : s.tcbExists s.ksIdleThread = false
  idleState : s.tsType s.ksIdleThread = .idleThreadState
  exist : ∀ t, s.isRunnable t = true → s.tcbExists t = true
  loaded : s.armHSVCPUActive = true → s.armHSCurVCPU ≠ none

lemma Sound.switchable (h : s.Sound) : s.Switchable :=
  ⟨h.bindings, h.running.idle, h.running.idleState, h.running.exist, h.active.loaded⟩

lemma isSchedulable_runnable (h : s.isSchedulable cfg t = true) : s.isRunnable t = true :=
  (of_decide_eq_true h).1

lemma Switchable.switchToThread (h : s.Switchable) (ht : s.isRunnable t = true) : (s.switchToThread cfg t).Sound :=
  ⟨h.bindings.switchToThread, ⟨h.idle, h.idleState, h.exist, fun _ => .inr ht⟩, switchToThread_active h.loaded⟩

lemma Switchable.switchToIdleThread (h : s.Switchable) : (s.switchToIdleThread cfg).Sound :=
  ⟨h.bindings.switchToIdleThread, ⟨h.idle, h.idleState, h.exist, fun _ => .inl rfl⟩,
    switchToIdleThread_active h.loaded⟩

lemma Switchable.chooseThread (h : s.Switchable) {o : Option TcbPtr} (ho : ∀ t, o = some t → s.isRunnable t = true) :
    (s.chooseThread cfg o).Sound := by
  cases o with
  | some t => exact h.switchToThread (ho t rfl)
  | none => exact h.switchToIdleThread

lemma Switchable.nextDomain (h : s.Switchable) (dom : Nat) : (s.nextDomain cfg dom).Switchable where
  bindings := by
    refine ⟨fun w u => ?_, h.bindings.exist, fun w hc => ?_⟩
    · exact (iff_of_eq (congrArg (· = some u) (vcpuFlush_tcb w))).trans (h.bindings.bound w u)
    · exact absurd (vcpuFlush_cur.symm.trans hc) nofun
  idle := h.idle
  idleState := h.idleState
  exist := h.exist
  loaded ha := absurd ((vcpuFlush_active h.loaded).symm.trans ha) nofun

lemma Switchable.scheduleChooseNewThread (h : s.Switchable) {c : Choice}
    (hc : ∀ t, c.thread = some t → s.isRunnable t = true) : (s.scheduleChooseNewThread cfg c).Sound := by
  unfold Core.scheduleChooseNewThread
  split
  · exact (h.nextDomain c.nextDomain).chooseThread hc
  · exact h.chooseThread hc

lemma Sound.rescheduleRequired (h : s.Sound) : s.rescheduleRequired.Sound :=
  ⟨⟨h.bindings.bound, h.bindings.exist, h.bindings.loaded⟩,
    ⟨h.running.idle, h.running.idleState, h.running.exist, nofun⟩, h.active⟩

lemma Sound.checkDomainTime (h : s.Sound) (cfg : VcpuConfig) (c : Choice) : (s.checkDomainTime cfg c).Sound := by
  unfold Core.checkDomainTime
  split
  · exact h.rescheduleRequired
  · exact h

lemma checkDomainTime_isRunnable (cfg : VcpuConfig) (c : Choice) (t : TcbPtr) :
    (s.checkDomainTime cfg c).isRunnable t = s.isRunnable t := by
  unfold checkDomainTime
  split <;> rfl

lemma Sound.resume (h : s.Sound) (hr : s.CurrentRuns) : Sound { s with ksSchedulerAction := .resumeCurrentThread } :=
  ⟨⟨h.bindings.bound, h.bindings.exist, h.bindings.loaded⟩,
    ⟨h.running.idle, h.running.idleState, h.running.exist, fun _ => hr⟩, h.active⟩

/-- After a switch the current thread can run. -/
lemma chooseThread_runs {o : Option TcbPtr} (ho : ∀ t, o = some t → s.isRunnable t = true) :
    (s.chooseThread cfg o).CurrentRuns := by
  cases o with
  | some t => exact .inr (ho t rfl)
  | none => exact .inl rfl

lemma scheduleChooseNewThread_runs {c : Choice} (hc : ∀ t, c.thread = some t → s.isRunnable t = true) :
    (s.scheduleChooseNewThread cfg c).CurrentRuns := by
  unfold scheduleChooseNewThread
  split
  · exact chooseThread_runs hc
  · exact chooseThread_runs hc

lemma Sound.schedule (h : s.Sound) {c : Choice} (hc : s.ChoiceLegal cfg c) :
    (s.schedule cfg c).Sound ∧ (s.schedule cfg c).CurrentRuns := by
  have hd := h.checkDomainTime cfg c
  have ht : ∀ t, c.thread = some t → (s.checkDomainTime cfg c).isRunnable t = true := fun t e =>
    (checkDomainTime_isRunnable cfg c t).trans (isSchedulable_runnable (hc.1 t e))
  have hs : ((s.checkDomainTime cfg c).scheduleChooseNewThread cfg c).Sound := hd.switchable.scheduleChooseNewThread ht
  have hn := hs.resume (scheduleChooseNewThread_runs ht)
  unfold Core.schedule
  cases ha : (s.checkDomainTime cfg c).ksSchedulerAction with
  | resumeCurrentThread =>
    simp only [ha]
    exact ⟨hd.resume (hd.running.resume ha), hd.running.resume ha⟩
  | chooseNewThread =>
    simp only [ha]
    exact ⟨hn, scheduleChooseNewThread_runs ht⟩
  | switchTo candidate =>
    simp only [ha]
    have hr := (checkDomainTime_isRunnable cfg c candidate).trans (isSchedulable_runnable (hc.2 candidate ha))
    split
    · exact ⟨hn, scheduleChooseNewThread_runs ht⟩
    · exact ⟨(hd.switchable.switchToThread hr).resume (.inr hr), .inr hr⟩

/-- A thread that is set running can run. -/
lemma setThreadState_runs : (s.setThreadState cfg s.ksCurThread .running).CurrentRuns := by
  obtain ⟨a, e, -⟩ := setThreadState_cases cfg s s.ksCurThread .running
  rw [e]
  exact .inr (isRunnable_iff.mpr (.inl (update_self ..)))

lemma Sound.activateThread (h : s.Sound) (hr : s.CurrentRuns) (hs : s.activateThread cfg = .ok s') :
    s'.Sound ∧ s'.CurrentRuns := by
  unfold Core.activateThread at hs
  split at hs
  · obtain rfl := Except.ok.inj hs
    exact ⟨h, hr⟩
  · rename_i hts
    obtain rfl := Except.ok.inj hs
    exact ⟨h.setThreadState (h.running.exist _ (isRunnable_iff.mpr (.inr hts))), setThreadState_runs⟩
  · obtain rfl := Except.ok.inj hs
    exact ⟨h, hr⟩
  · cases hs

lemma Sound.fastpathSwitch (h : s.Sound) (hc : s.ksCurThread ≠ s.ksIdleThread) (ht : s.tcbExists t = true)
    (hr : s.isRunnable s.ksCurThread = true) :
    (s.fastpathSwitch cfg ts t).Sound ∧ (s.fastpathSwitch cfg ts t).CurrentRuns := by
  have hrt : isRunnable { s with tsType := update (update s.tsType s.ksCurThread ts) t .running } t
      = true := isRunnable_iff.mpr (.inl (update_self ..))
  refine ⟨Switchable.switchToThread ⟨⟨h.bindings.bound, h.bindings.exist, h.bindings.loaded⟩, h.running.idle, ?_, ?_,
    h.active.loaded⟩ hrt, .inr hrt⟩
  · dsimp only
    rw [update_of_ne (h.running.ne_idle ht).symm, update_of_ne hc.symm]
    exact h.running.idleState
  · intro u hu
    by_cases hut : u = t
    · exact hut ▸ ht
    · by_cases huc : u = s.ksCurThread
      · rw [huc]
        exact h.running.exist _ hr
      · apply h.running.exist u
        rw [isRunnable_iff] at hu ⊢
        dsimp only at hu
        rwa [update_of_ne hut, update_of_ne huc] at hu

/-! ## Interrupts -/

lemma OnlyContents.hw {vs : VcpuState} {hw : Hardware} : OnlyContents vs { vs with hw } :=
  ⟨fun _ => rfl, rfl, rfl⟩

lemma OnlyContents.onVcpu {vs : VcpuState} {f : Bank → Bank} (hf : ∀ b, (f b).vcpu.vcpuTCB = b.vcpu.vcpuTCB) :
    OnlyContents vs (vs.onVcpu v f) :=
  ⟨onVcpu_tcb hf, rfl, rfl⟩

lemma Sound.onVcpu (h : s.Sound) {f : Bank → Bank} (hf : ∀ b, (f b).vcpu.vcpuTCB = b.vcpu.vcpuTCB) :
    (s.onVcpus (·.onVcpu v f)).Sound :=
  h.onVcpus (f := (·.onVcpu v f)) (.onVcpu hf)

/-- The end of a handler. -/
lemma Sound.raise (h : s.Sound) {fault : VcpuFault} (hr : s.raise cfg fault ts = .ok s') : s'.Sound := by
  obtain ⟨u, h1, hr⟩ := bind_eq_ok.mp hr
  have hrun : s.isRunnable s.ksCurThread = true := assert_eq_ok.mp h1
  obtain rfl := Except.ok.inj hr
  have hs : Sound { s with currentFault := some fault } :=
    ⟨⟨h.bindings.bound, h.bindings.exist, h.bindings.loaded⟩,
      ⟨h.running.idle, h.running.idleState, h.running.exist, h.running.resume⟩, h.active⟩
  split
  · exact hs.setThreadState (h.running.exist _ hrun)
  · exact hs

lemma Sound.vppiEvent (h : s.Sound) (hs : s.vppiEvent cfg ts = .ok s') : s'.Sound := by
  unfold Core.vppiEvent at hs
  split at hs
  · obtain rfl := Except.ok.inj hs
    exact h
  · split at hs
    · split at hs
      · have h1 := h.onVcpus (f := fun vs => { vs with hw := vs.hw.maskVtimer true }) .hw
        exact (h1.onVcpu fun b => by rfl).raise hs
      · cases hs
    · obtain rfl := Except.ok.inj hs
      exact h

lemma Sound.clearEoi (h : s.Sound) {idx : Nat} (hs : s.clearEoi idx = .ok s') : s'.Sound := by
  obtain ⟨u, -, hs⟩ := bind_eq_ok.mp hs
  have h1 := h.onVcpus (f := fun vs => { vs with hw := vs.hw.setGicLr idx (s.hw.gic.lr idx).clearEOIIRQEN }) .hw
  split at hs
  · obtain rfl := Except.ok.inj hs
    exact h1.onVcpu fun b => by rfl
  · obtain rfl := Except.ok.inj hs
    exact h1

lemma Sound.vgicMaintenance (h : s.Sound) {eisr0 eisr1 misr : BitVec 32}
    (hs : s.vgicMaintenance cfg eisr0 eisr1 misr ts = .ok s') : s'.Sound := by
  unfold Core.vgicMaintenance at hs
  split at hs
  · obtain rfl := Except.ok.inj hs
    exact h
  · split at hs
    · obtain rfl := Except.ok.inj hs
      exact h
    · split at hs
      · split at hs
        · split at hs
          · exact h.raise hs
          · obtain ⟨s1, h1, hs⟩ := bind_eq_ok.mp hs
            exact (h.clearEoi h1).raise hs
        · exact h.raise hs
      · exact h.raise hs

/-! ## Invocations -/

/-- A virtual CPU without a thread is bound to a thread without one. -/
lemma Sound.bindVCPUTCB (h : s.Sound) (ht : s.tcbVCPU t = none) (hv : (s.vcpu v).vcpuTCB = none)
    (het : s.tcbExists t = true) (hev : s.vcpuExists v = true) : (s.bindVCPUTCB cfg v t).Sound := by
  -- the two stores
  have hb : Bindings { s with
      tcbVCPU := update s.tcbVCPU t (some v)
      vcpu := update s.vcpu v { s.vcpu v with vcpuTCB := some t } } := by
    refine ⟨fun w u => ?_, fun w u e => ?_, fun w hc => ?_⟩
    · dsimp only
      by_cases hw : w = v
      · subst hw
        rw [update_self]
        by_cases hu : u = t
        · rw [hu, update_self]
          exact ⟨fun _ => rfl, fun _ => rfl⟩
        · rw [update_of_ne hu]
          refine ⟨fun e => absurd (Option.some.inj e).symm hu, fun e => ?_⟩
          rw [← h.bindings.bound, hv] at e
          cases e
      · rw [update_of_ne hw, h.bindings.bound]
        by_cases hu : u = t
        · rw [hu, update_self, ht]
          exact ⟨nofun, fun e => absurd (Option.some.inj e).symm hw⟩
        · rw [update_of_ne hu]
    · dsimp only at e
      by_cases hu : u = t
      · rw [hu, update_self] at e
        exact ⟨hu ▸ het, Option.some.inj e ▸ hev⟩
      · rw [update_of_ne hu] at e
        exact h.bindings.exist w u e
    · obtain ⟨u, hu⟩ := h.bindings.loaded w hc
      refine ⟨u, ?_⟩
      dsimp only
      rwa [update_of_ne]
      rintro rfl
      rw [ht] at hu
      cases hu
  unfold Core.bindVCPUTCB
  dsimp only
  split
  · rename_i hc
    refine ⟨⟨fun w u => ?_, hb.exist, fun w hw => ⟨t, ?_⟩⟩,
      ⟨h.running.idle, h.running.idleState, h.running.exist, h.running.resume⟩, fun _ => ⟨v, (vcpuSwitch_some v).1, ?_⟩⟩
    · exact (iff_of_eq (congrArg (· = some u) (vcpuSwitch_tcb _ w))).trans (hb.bound w u)
    · exact (update_self ..).trans ((vcpuSwitch_some v).1.symm.trans hw)
    · exact hc ▸ update_self ..
  · rename_i hc
    refine ⟨hb, ⟨h.running.idle, h.running.idleState, h.running.exist, h.running.resume⟩, fun ha => ?_⟩
    obtain ⟨w, hw, hcur⟩ := h.active ha
    exact ⟨w, hw, (update_of_ne (Ne.symm hc) _ _).trans hcur⟩

lemma Sound.associateVCPUTCB (h : s.Sound) (het : s.tcbExists t = true) (hev : s.vcpuExists v = true)
    (hs : s.associateVCPUTCB cfg v t = .ok s') : s'.Sound := by
  obtain ⟨s1, h1, hs⟩ := bind_eq_ok.mp hs
  obtain ⟨s2, h2, hs⟩ := bind_eq_ok.mp hs
  obtain rfl := Except.ok.inj hs
  have e1 := archPrepareThreadDelete_same h1
  have e2 := vcpuFinalise_same h2
  refine ((h.archPrepareThreadDelete h1).vcpuFinalise h2).bindVCPUTCB
    (vcpuFinalise_none h2 (archPrepareThreadDelete_tcbVCPU h1)) (vcpuFinalise_vcpuTCB h2) ?_ ?_
  · rw [e2.tcbExists, e1.tcbExists, het]
  · rw [e2.vcpuExists, e1.vcpuExists, hev]

lemma OnlyContents.writeVCPUReg {vs : VcpuState} (r : VCPUReg) (x : Word) :
    OnlyContents vs (vs.writeVCPUReg v r x) := by
  unfold VcpuState.writeVCPUReg
  split
  · split
    · exact .onVcpu fun _ => rfl
    · exact .hw
  · exact .onVcpu fun _ => rfl

lemma Sound.invokeVCPUInjectIRQ (h : s.Sound) (index : Nat) (virq : Virq) :
    (s.invokeVCPUInjectIRQ v index virq).Sound := by
  unfold Core.invokeVCPUInjectIRQ
  split
  · exact h.onVcpus .hw
  · exact h.onVcpu fun b => by rfl

lemma setThreadState_exists : (s.setThreadState cfg t ts).tcbExists = s.tcbExists := by
  obtain ⟨a, e, -⟩ := setThreadState_cases cfg s t ts
  rw [e]

lemma setThreadState_vcpuExists : (s.setThreadState cfg t ts).vcpuExists = s.vcpuExists := by
  obtain ⟨a, e, -⟩ := setThreadState_cases cfg s t ts
  rw [e]

lemma setThreadState_ksCurThread : (s.setThreadState cfg t ts).ksCurThread = s.ksCurThread := by
  obtain ⟨a, e, -⟩ := setThreadState_cases cfg s t ts
  rw [e]

lemma Sound.performVCPUInvocation (h : s.Sound) {i : VcpuInvocation} {x : Option Word}
    (hc : s.tcbExists s.ksCurThread = true) (hi : s.Accepts cfg v i)
    (hs : s.performVCPUInvocation cfg v i = .ok (s', x)) : s'.Sound := by
  have h0 : (s.setThreadState cfg s.ksCurThread .restart).Sound := h.setThreadState hc
  unfold Core.performVCPUInvocation at hs
  cases i with
  | setTCB t =>
    obtain ⟨s1, h1, hs⟩ := bind_eq_ok.mp hs
    obtain rfl := (Prod.ext_iff.mp (Except.ok.inj hs)).1
    refine h0.associateVCPUTCB ?_ ?_ h1
    · rw [setThreadState_exists]
      exact hi.2.2 t rfl
    · rw [setThreadState_vcpuExists]
      exact hi.1
  | injectIRQ index virq =>
    obtain rfl := (Prod.ext_iff.mp (Except.ok.inj hs)).1
    exact h0.invokeVCPUInjectIRQ index virq
  | readReg field =>
    obtain rfl := (Prod.ext_iff.mp (Except.ok.inj hs)).1
    refine h0.setThreadState ?_
    rw [setThreadState_exists, setThreadState_ksCurThread, hc]
  | writeReg field value =>
    obtain rfl := (Prod.ext_iff.mp (Except.ok.inj hs)).1
    exact h0.onVcpus (f := (·.writeVCPUReg v field value)) (.writeVCPUReg field value)
  | ackVPPI =>
    obtain rfl := (Prod.ext_iff.mp (Except.ok.inj hs)).1
    exact h0.onVcpu fun b => by rfl

end Core

end NexsKernel.Vcpu
