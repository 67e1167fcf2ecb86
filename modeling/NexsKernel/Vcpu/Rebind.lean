import NexsKernel.Vcpu.Preserved

/-!
# Giving a virtual CPU to another thread

`associateVCPUTCB` takes the virtual CPU from its thread first, and a dissociation invalidates a virtual CPU that is
loaded where `vcpu_flush` saves it before. What the object does not have by then is lost. If the new thread is the
current one, the virtual CPU is loaded again from its object.
-/

namespace NexsKernel.Vcpu

open Mcs (TcbPtr Word ThreadState)

variable {cfg : VcpuConfig}

namespace Bank

variable (b : Bank)

/-! ## Loading -/

lemma readReg_vcpuRestore {r : VCPUReg} (hr : Owned cfg r) : (b.vcpuRestore cfg).hw.readReg r =
    r.cut (b.vcpu.regs r) := by
  unfold Hardware.readReg
  rw [vcpuRestore_reg cfg b hr, VCPUReg.cut_cut]

lemma vcpuRestore_isr : (b.vcpuRestore cfg).hw.reg .isr = b.hw.reg .isr := by
  unfold vcpuRestore vcpuEnable restoreVirtTimer
  simp only [foldl_restoreLr]
  cases cfg.vtimerUpdateVoffset <;> cases cfg.vtimerIRQActive <;> rfl

lemma vcpuRestore_cntvoff (h : cfg.vtimerUpdateVoffset = true) :
    (b.vcpuRestore cfg).hw.reg .cntvoff = b.vcpu.regs .cntvoff + (b.hw.cntpct - b.vcpu.lastPcount) := by
  unfold vcpuRestore vcpuEnable restoreVirtTimer
  simp only [foldl_restoreLr]
  rw [h]
  cases cfg.vtimerIRQActive <;> rfl

/-- Saving another virtual CPU leaves the hardware's `ISR` and the time alone. -/
lemma vcpuSave_hw (cfg : VcpuConfig) (active : Bool) :
    (b.vcpuSave cfg active).hw.reg .isr = b.hw.reg .isr ∧ (b.vcpuSave cfg active).hw.cntpct = b.hw.cntpct := by
  unfold vcpuSave saveActive saveVirtTimer
  simp only [foldl_saveLr]
  cases cfg.vtimerUpdateVoffset <;> cases active <;> exact ⟨rfl, rfl⟩

end Bank

namespace VcpuState

variable {s s' s'' : VcpuState} {v w : VcpuPtr}

/-- The state has the same values in the object, and the same `ISR` and time in the hardware. -/
structure SameObject (v : VcpuPtr) (s s' : VcpuState) : Prop where
  regs : (s'.vcpu v).regs = (s.vcpu v).regs
  lr : (s'.vcpu v).vgic.lr = (s.vcpu v).vgic.lr
  lastPcount : (s'.vcpu v).lastPcount = (s.vcpu v).lastPcount
  isr : s'.hw.reg .isr = s.hw.reg .isr
  cntpct : s'.hw.cntpct = s.hw.cntpct

lemma SameObject.refl (v : VcpuPtr) (s : VcpuState) : SameObject v s s :=
  ⟨rfl, rfl, rfl, rfl, rfl⟩

lemma SameObject.trans (h : SameObject v s s') (h' : SameObject v s' s'') : SameObject v s s'' :=
  ⟨h'.regs.trans h.regs, h'.lr.trans h.lr, h'.lastPcount.trans h.lastPcount, h'.isr.trans h.isr,
    h'.cntpct.trans h.cntpct⟩

lemma SameObject.invalidateIfCurrent : SameObject v s (s.invalidateIfCurrent w) := by
  unfold VcpuState.invalidateIfCurrent
  split
  · unfold vcpuInvalidateActive
    dsimp only
    split <;> exact ⟨rfl, rfl, rfl, rfl, rfl⟩
  · exact .refl v s

lemma SameObject.saveCurrent (cfg : VcpuConfig) (hc : s.armHSCurVCPU ≠ some v) :
    SameObject v s (s.saveCurrent cfg) := by
  unfold VcpuState.saveCurrent
  split
  · rename_i cur hcur
    have hv : v ≠ cur := fun e => hc (hcur.trans (congrArg some e.symm))
    have e := onVcpu_vcpu_of_ne (s := s) (Bank.vcpuSave cfg · s.armHSVCPUActive) hv
    obtain ⟨hi, ht⟩ := Bank.vcpuSave_hw ⟨s.vcpu cur, s.hw⟩ cfg s.armHSVCPUActive
    exact ⟨congrArg VCPU.regs e, congrArg (·.vgic.lr) e, congrArg VCPU.lastPcount e, hi, ht⟩
  · exact .refl v s

/-- The list registers of a virtual CPU that is not loaded. -/
lemma view_lr_of_ne (hc : s.armHSCurVCPU ≠ some v) : (s.view cfg v).lr = (s.vcpu v).vgic.lr :=
  congrArg View.lr (view_of_ne hc)

lemma readVCPUReg_of_ne (hc : s.armHSCurVCPU ≠ some v) (q : VCPUReg) : s.readVCPUReg v q = (s.vcpu v).regs q :=
  if_neg hc

end VcpuState

namespace Core

variable {s s' : Core} {v w : VcpuPtr} {t t' : TcbPtr} {p : Phase}

/-! ## Dissociation -/

lemma dissociateVCPUTCB_object (hd : s.dissociateVCPUTCB w t = .ok s') :
    VcpuState.SameObject v s.toVcpuState s'.toVcpuState := by
  obtain ⟨-, -, spsr, rfl⟩ := dissociateVCPUTCB_cases hd
  have hi : VcpuState.SameObject v s.toVcpuState (s.toVcpuState.invalidateIfCurrent w) := .invalidateIfCurrent
  refine ⟨?_, ?_, ?_, hi.isr, hi.cntpct⟩ <;> dsimp only <;> by_cases hv : v = w
  all_goals first | rw [hv, Function.update_self] | rw [Function.update_of_ne hv]

lemma archPrepareThreadDelete_object (hd : s.archPrepareThreadDelete t = .ok s') :
    VcpuState.SameObject v s.toVcpuState s'.toVcpuState := by
  obtain ⟨-, rfl⟩ | ⟨w, -, hd⟩ := archPrepareThreadDelete_cases hd
  · exact .refl v _
  · exact dissociateVCPUTCB_object hd

lemma vcpuFinalise_object (hd : s.vcpuFinalise w = .ok s') : VcpuState.SameObject v s.toVcpuState s'.toVcpuState := by
  obtain ⟨-, rfl⟩ | ⟨t, -, hd⟩ := vcpuFinalise_cases hd
  · exact .refl v _
  · exact dissociateVCPUTCB_object hd

/-- A virtual CPU that had a thread is not loaded when it is finalised. -/
lemma vcpuFinalise_cur (hb : s.Bindings) (hd : s.vcpuFinalise v = .ok s') : s'.armHSCurVCPU ≠ some v := by
  intro hc
  obtain ⟨hv, rfl⟩ | ⟨t, -, hd⟩ := vcpuFinalise_cases hd
  · obtain ⟨t, ht⟩ := hb.loaded v hc
    exact absurd (hv.symm.trans ((hb.bound v t).mpr ht)) nofun
  · obtain ⟨-, -, spsr, rfl⟩ := dissociateVCPUTCB_cases hd
    exact (VcpuState.invalidateIfCurrent_cur hc).2 rfl

lemma Bindings.archPrepareThreadDelete (h : s.Bindings) (t : TcbPtr) :
    ∃ s', s.archPrepareThreadDelete t = .ok s' ∧ s'.Bindings := by
  unfold Core.archPrepareThreadDelete
  split
  · rename_i v hv
    obtain ⟨s', hs⟩ := h.dissociateVCPUTCB hv
    exact ⟨s', hs, h.dissociate hs⟩
  · exact ⟨s, rfl, h⟩

lemma Bindings.vcpuFinalise (h : s.Bindings) (v : VcpuPtr) : ∃ s', s.vcpuFinalise v = .ok s' := by
  unfold Core.vcpuFinalise
  split
  · rename_i t ht
    exact h.dissociateVCPUTCB ((h.bound v t).mp ht)
  · exact ⟨s, rfl⟩

/-! ## Binding -/

/-- A thread that is not current gets what the object has. -/
lemma bindVCPUTCB_other (cfg : VcpuConfig) (hc : s.armHSCurVCPU ≠ some v) (ht : t ≠ s.ksCurThread) :
    (∀ q, (s.bindVCPUTCB cfg v t).readVCPUReg v q = (s.vcpu v).regs q) ∧
      ((s.bindVCPUTCB cfg v t).view cfg v).lr = (s.vcpu v).vgic.lr := by
  let s1 : VcpuState :=
    { s.toVcpuState with vcpu := Function.update s.vcpu v { s.vcpu v with vcpuTCB := some t } }
  have hc1 : s1.armHSCurVCPU ≠ some v := hc
  have e : (s.bindVCPUTCB cfg v t).toVcpuState = s1 := by
    unfold bindVCPUTCB
    dsimp only
    rw [if_neg ht]
  have hv : s1.vcpu v = { s.vcpu v with vcpuTCB := some t } := Function.update_self ..
  rw [e]
  refine ⟨fun q => ?_, ?_⟩
  · rw [VcpuState.readVCPUReg_of_ne hc1, hv]
  · rw [VcpuState.view_lr_of_ne hc1, hv]

/-- The current thread gets what the hardware has after the load. -/
lemma bindVCPUTCB_current (cfg : VcpuConfig) (hc : s.armHSCurVCPU ≠ some v) (ht : t = s.ksCurThread) :
    ∃ b : Bank, b.vcpu.regs = (s.vcpu v).regs ∧ b.vcpu.lastPcount = (s.vcpu v).lastPcount ∧
      b.hw.reg .isr = s.hw.reg .isr ∧ b.hw.cntpct = s.hw.cntpct ∧
      (∀ q, (s.bindVCPUTCB cfg v t).readVCPUReg v q = (b.vcpuRestore cfg).hw.readReg q) ∧
      ((s.bindVCPUTCB cfg v t).view cfg v).lr = (s.vcpu v).vgic.lr := by
  let s1 : VcpuState :=
    { s.toVcpuState with vcpu := Function.update s.vcpu v { s.vcpu v with vcpuTCB := some t } }
  have hc1 : s1.armHSCurVCPU ≠ some v := hc
  have e : (s.bindVCPUTCB cfg v t).toVcpuState = s1.vcpuSwitch cfg (some v) := by
    unfold bindVCPUTCB
    dsimp only
    rw [if_pos ht]
    rfl
  have hv : s1.vcpu v = { s.vcpu v with vcpuTCB := some t } := Function.update_self ..
  have h1 : VcpuState.SameObject v s.toVcpuState s1 := by
    refine ⟨?_, ?_, ?_, rfl, rfl⟩ <;> rw [hv]
  have h := h1.trans (VcpuState.SameObject.saveCurrent cfg hc1)
  refine ⟨⟨(s1.saveCurrent cfg).vcpu v, (s1.saveCurrent cfg).hw⟩, h.regs, h.lastPcount, h.isr, h.cntpct, ?_, ?_⟩
  · intro q
    rw [e]
    unfold VcpuState.vcpuSwitch
    rw [if_pos hc1]
    unfold VcpuState.readVCPUReg
    simp [VcpuState.onVcpu]
  · have hs : ((s1.vcpuSwitch cfg (some v)).view cfg v).lr = (s1.view cfg v).lr :=
      (VcpuState.vcpuSwitch_view (some v)).lr
    rw [e, hs, VcpuState.view_lr_of_ne hc1, h1.lr]

end Core

/-- The object has everything that `VCPUReadReg` and the list registers report. If the virtual CPU is going to be
loaded again at once, this is said of what is loaded: a register as wide as it is, `ISR` from the hardware, and the
offset of the virtual timer, which moves by the time since it was saved. -/
structure Settled (cfg : VcpuConfig) (s : Core) (v : VcpuPtr) (t : TcbPtr) : Prop where
  lr : s.armHSCurVCPU = some v → ∀ i < cfg.gicVcpuNumListRegs, (s.vcpu v).vgic.lr i = s.hw.gic.lr i
  object : t ≠ s.ksCurThread → ∀ q, (s.vcpu v).regs q = s.readVCPUReg v q
  owned : t = s.ksCurThread → ∀ q, Owned cfg q → q.cut ((s.vcpu v).regs q) = s.readVCPUReg v q
  isr : t = s.ksCurThread → s.hw.readReg .isr = s.readVCPUReg v .isr
  cntvoff : t = s.ksCurThread → cfg.vtimerUpdateVoffset = true →
    (s.vcpu v).regs .cntvoff + (s.hw.cntpct - (s.vcpu v).lastPcount) = s.readVCPUReg v .cntvoff

namespace Core

variable {s s' : Core} {v : VcpuPtr} {t t' : TcbPtr}

/-- The list registers of the object are those of the view. -/
lemma lr_stored_iff : (s.vcpu v).vgic.lr = (s.view cfg v).lr ↔
    (s.armHSCurVCPU = some v → ∀ i < cfg.gicVcpuNumListRegs, (s.vcpu v).vgic.lr i = s.hw.gic.lr i) := by
  by_cases hc : s.armHSCurVCPU = some v
  · rw [VcpuState.view_cur hc, funext_iff]
    unfold Bank.loaded
    dsimp only
    refine ⟨fun h _ i hi => ?_, fun h i => ?_⟩
    · have e := h i
      rwa [if_pos hi] at e
    · split
      · rename_i hi
        exact h hc i hi
      · rfl
  · rw [VcpuState.view_lr_of_ne hc]
    exact ⟨fun _ h => absurd h hc, fun _ => rfl⟩

/-- What the hardware has after a load, register by register. -/
lemma vcpuRestore_regs_iff {b : Bank} (f : VCPUReg → Word) :
    (∀ q, (b.vcpuRestore cfg).hw.readReg q = f q) ↔
      (∀ q, Owned cfg q → q.cut (b.vcpu.regs q) = f q) ∧ b.hw.readReg .isr = f .isr ∧
        (cfg.vtimerUpdateVoffset = true → b.vcpu.regs .cntvoff + (b.hw.cntpct - b.vcpu.lastPcount) = f .cntvoff) := by
  have hi : (b.vcpuRestore cfg).hw.readReg .isr = b.hw.readReg .isr := congrArg _ b.vcpuRestore_isr
  have hv : cfg.vtimerUpdateVoffset = true → (b.vcpuRestore cfg).hw.readReg .cntvoff =
      b.vcpu.regs .cntvoff + (b.hw.cntpct - b.vcpu.lastPcount) := fun h => b.vcpuRestore_cntvoff h
  constructor
  · intro h
    refine ⟨fun q hq => ?_, ?_, fun hm => ?_⟩
    · rw [← h q, Bank.readReg_vcpuRestore _ hq]
    · rw [← h .isr, hi]
    · rw [← h .cntvoff, hv hm]
  · rintro ⟨ho, his, hoff⟩ q
    by_cases hq : Owned cfg q
    · rw [Bank.readReg_vcpuRestore _ hq, ho q hq]
    · by_cases he : q = .isr
      · rw [he, hi, his]
      · -- the offset of the virtual timer, where the kernel moves it
        have ho : q = .cntvoff ∧ cfg.vtimerUpdateVoffset = true := by
          by_contra hn
          exact hq ⟨he, fun e => Bool.eq_false_of_not_eq_true fun h => hn ⟨e, h⟩⟩
        rw [ho.1, hv ho.2, hoff ho.2]

end Core

/-- `VCPUSetTCB` succeeds, and leaves the registers and the list registers of the virtual CPU as they were exactly if
they were settled in its object. -/
theorem setTCB_kept_iff {p : Phase} {s : Core} (h : Reachable cfg p s) (v : VcpuPtr) (t : TcbPtr) :
    ∃ s', s.performVCPUInvocation cfg v (.setTCB t) = .ok (s', none) ∧
      ((∀ q, s'.readVCPUReg v q = s.readVCPUReg v q) ∧ (s'.view cfg v).lr = (s.view cfg v).lr ↔ Settled cfg s v t) := by
  have hb : (s.setThreadState cfg s.ksCurThread .restart).Bindings := h.inv.sound.bindings.setThreadState
  obtain ⟨s1, h1, hb1⟩ := hb.archPrepareThreadDelete t
  obtain ⟨s2, h2⟩ := hb1.vcpuFinalise v
  refine ⟨s2.bindVCPUTCB cfg v t, ?_, ?_⟩
  · unfold Core.performVCPUInvocation Core.associateVCPUTCB
    dsimp only
    rw [h1]
    show (s1.vcpuFinalise v >>= fun s => Except.ok (s.bindVCPUTCB cfg v t)) >>= _ = _
    rw [h2]
    rfl
  · have ho := (Core.archPrepareThreadDelete_object (v := v) h1).trans (Core.vcpuFinalise_object h2)
    rw [Core.setThreadState_vcpus] at ho
    have hc := Core.vcpuFinalise_cur hb1 h2
    have hcur : s2.ksCurThread = s.ksCurThread := by
      rw [(Core.vcpuFinalise_same h2).cur, (Core.archPrepareThreadDelete_same h1).cur, Core.setThreadState_ksCurThread]
    by_cases ht : t = s.ksCurThread
    · obtain ⟨b, hr, hl, hi, hp, hq, hlr⟩ := Core.bindVCPUTCB_current cfg hc (ht.trans hcur.symm)
      have hisr : b.hw.readReg .isr = s.hw.readReg .isr := congrArg _ (hi.trans ho.isr)
      rw [hlr, ho.lr, Core.lr_stored_iff]
      simp only [hq]
      rw [Core.vcpuRestore_regs_iff, hr, hl, hp, hisr, ho.regs, ho.lastPcount, ho.cntpct]
      constructor
      · rintro ⟨⟨hown, his, hoff⟩, hlr⟩
        exact ⟨hlr, fun hn => absurd ht hn, fun _ => hown, fun _ => his, fun _ => hoff⟩
      · intro hs
        exact ⟨⟨hs.owned ht, hs.isr ht, hs.cntvoff ht⟩, hs.lr⟩
    · obtain ⟨hq, hlr⟩ := Core.bindVCPUTCB_other cfg hc fun e => ht (e.trans hcur)
      rw [hlr, ho.lr, Core.lr_stored_iff]
      simp only [hq]
      rw [ho.regs]
      constructor
      · rintro ⟨hobj, hlr⟩
        exact ⟨hlr, fun _ => hobj, fun e => absurd e ht, fun e => absurd e ht, fun e => absurd e ht⟩
      · intro hs
        exact ⟨hs.object ht, hs.lr⟩

/-- The guest has stored to a register, and its thread has made another thread. -/
def threadMade : Core :=
  guestWrote.createThread 3

/-- What the invocation below meets. -/
lemma threadMade_facts :
    (guestWrote.tcbExists 3 = false ∧ 3 ≠ guestWrote.ksIdleThread) ∧
    (3 ≠ threadMade.ksCurThread ∧ (threadMade.vcpu 2).regs .ttbr0 ≠ threadMade.readVCPUReg 2 .ttbr0) ∧
    (threadMade.vcpuExists 2 = true ∧ threadMade.tcbExists 3 = true ∧ threadMade.ksCurThread ≠ threadMade.ksIdleThread ∧
      threadMade.tcbExists threadMade.ksCurThread = true ∧ (threadMade.vcpu 2).vcpuTCB = some 1 ∧
      threadMade.readVCPUReg 2 .ttbr0 = 7) ∧
    (threadMade.performVCPUInvocation (plainConfig false) 2 (.setTCB 3)).isOk = true ∧
      (threadMade.performVCPUInvocation (plainConfig false) 2 (.setTCB 3)).toOption.map
        (·.1.readVCPUReg 2 .ttbr0) = some 0 := by
  decide +kernel

lemma reachable_threadMade : Reachable (plainConfig false) .work threadMade := by
  obtain ⟨-, -, -, -, ha⟩ := guestState_facts false
  obtain ⟨⟨hx, hi⟩, -⟩ := threadMade_facts
  have h : Reachable (plainConfig false) .user guestWrote := (reachable_guestState false).step (.guestReg ha nofun)
  exact (h.step .enterWork).step (.createThread hx hi)

/-- The loaded registers are lost when another thread is bound. -/
theorem setTCB_kept_iff_threadMade :
    ∃ s, threadMade.performVCPUInvocation (plainConfig false) 2 (.setTCB 3) = .ok (s, none) ∧
      ¬ ((∀ q, s.readVCPUReg 2 q = threadMade.readVCPUReg 2 q) ∧
        (s.view (plainConfig false) 2).lr = (threadMade.view (plainConfig false) 2).lr) := by
  obtain ⟨s, hs, h⟩ := setTCB_kept_iff reachable_threadMade 2 3
  refine ⟨s, hs, fun hk => ?_⟩
  obtain ⟨-, ⟨hne, hr⟩, -⟩ := threadMade_facts
  exact hr ((h.mp hk).object hne .ttbr0)

/-- A step of a run loses what the guest has stored. -/
theorem setTCB_loses :
    ∃ s s', Reachable (plainConfig false) .work s ∧ (s.vcpu 2).vcpuTCB = some 1 ∧
      Step (plainConfig false) .work s (.invoke 2 (.setTCB 3)) .work s' ∧
      s.readVCPUReg 2 .ttbr0 = 7 ∧ s'.readVCPUReg 2 .ttbr0 = 0 := by
  obtain ⟨-, -, ⟨hv, ht, hi, hc, hb, hold⟩, hok, hread⟩ := threadMade_facts
  have hq : threadMade.decodeARMVCPUInvocation (plainConfig false) 2 ⟨.setTCB, [], some (.thread 3)⟩ =
    .ok (.setTCB 3) :=
    rfl
  cases hs : threadMade.performVCPUInvocation (plainConfig false) 2 (.setTCB 3) with
  | error e =>
    rw [hs] at hok
    cases hok
  | ok y =>
    rw [hs] at hread
    refine ⟨threadMade, y.1, reachable_threadMade, hb, ?_, hold, Option.some.inj hread⟩
    exact .invoke ⟨hv, ⟨_, hq⟩, fun t e => VcpuInvocation.setTCB.inj e ▸ ht⟩ hi hc hs

end NexsKernel.Vcpu
