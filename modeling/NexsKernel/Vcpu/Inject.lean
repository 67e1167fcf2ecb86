import NexsKernel.Vcpu.Rebind

/-!
# Injecting into a list register

`decodeVCPUInjectIRQ` looks at the list register in the object, and `invokeVCPUInjectIRQ` writes the one in the
hardware if the virtual CPU is loaded. The two differ once the guest has acknowledged an interrupt, until the virtual
CPU is saved or `VGICMaintenance` reports that register.
-/

namespace NexsKernel.Vcpu

open Observed
open Mcs (TcbPtr Word ThreadState)
open Function (update update_self update_of_ne)

variable {cfg : VcpuConfig}

/-- The list registers of the object are those that the virtual CPU has. -/
def Synced (cfg : VcpuConfig) (s : VcpuState) (v : VcpuPtr) (i : Nat) : Prop :=
  (s.vcpu v).vgic.lr i = (s.view cfg v).lr i

namespace VcpuState

variable {s : VcpuState} {v w : VcpuPtr} {i : Nat}

lemma synced_of_ne (hc : s.armHSCurVCPU ≠ some v) : Synced cfg s v i :=
  (congrFun (view_lr_of_ne hc) i).symm

lemma onVcpu_vgic {f : Bank → Bank} (hf : ∀ b, (f b).vcpu.vgic = b.vcpu.vgic) :
    ((s.onVcpu w f).vcpu v).vgic = (s.vcpu v).vgic := by
  by_cases hv : v = w
  · subst hv
    rw [onVcpu_vcpu, hf]
  · rw [onVcpu_vcpu_of_ne f hv]

/-- A virtual CPU that stays loaded over a switch keeps the list registers of its object. -/
lemma vcpuSwitch_synced {new : Option VcpuPtr} (hc : (s.vcpuSwitch cfg new).armHSCurVCPU = some v) :
    Synced cfg (s.vcpuSwitch cfg new) v i ∨
      s.armHSCurVCPU = some v ∧ ((s.vcpuSwitch cfg new).vcpu v).vgic.lr i = (s.vcpu v).vgic.lr i := by
  cases new with
  | none =>
    have hs : s.armHSCurVCPU = some v := vcpuSwitch_none.1.symm.trans hc
    refine .inr ⟨hs, ?_⟩
    unfold vcpuSwitch
    rw [if_pos (by simp [hs])]
    dsimp only
    split
    · rw [hs]
      dsimp only
      rw [onVcpu_vcpu]
      unfold Bank.vcpuDisable Bank.saveVirtTimer
      cases cfg.vtimerUpdateVoffset <;> rfl
    · rfl
  | some u =>
    obtain rfl : u = v := Option.some.inj ((vcpuSwitch_some u).1.symm.trans hc)
    by_cases hs : s.armHSCurVCPU = some u
    · refine .inr ⟨hs, ?_⟩
      unfold vcpuSwitch
      rw [if_neg (by simp [hs])]
      dsimp only
      split
      · rfl
      · rw [onVcpu_vcpu]
        unfold Bank.vcpuEnable Bank.restoreVirtTimer
        cases cfg.vtimerUpdateVoffset <;> cases cfg.vtimerIRQActive <;> rfl
    · -- the registers come from the object
      refine .inl ?_
      unfold vcpuSwitch
      rw [if_pos hs]
      unfold Synced
      rw [view_cur rfl]
      dsimp only
      rw [onVcpu_vcpu]
      have e := congrFun (Bank.vcpuRestore_loaded cfg ⟨(s.saveCurrent cfg).vcpu u, (s.saveCurrent cfg).hw⟩).lr i
      refine Eq.trans ?_ e.symm
      rw [Bank.vcpuRestore_vgic]
      rfl

end VcpuState

namespace Core

variable {s s' : Core} {v w : VcpuPtr} {t : TcbPtr} {ts : ThreadState} {p p' : Phase} {a : Action} {i : Nat}

/-! ## Detachments -/

/-- A virtual CPU that is loaded after a dissociation was not the one. -/
lemma dissociateVCPUTCB_cur (hd : s.dissociateVCPUTCB w t = .ok s') (hc : s'.armHSCurVCPU = some v) :
    s.armHSCurVCPU = some v ∧ v ≠ w ∧ (s'.vcpu v).vgic = (s.vcpu v).vgic := by
  obtain ⟨-, -, spsr, rfl⟩ := dissociateVCPUTCB_cases hd
  obtain ⟨hs, hv⟩ := VcpuState.invalidateIfCurrent_cur hc
  refine ⟨hs, hv, ?_⟩
  dsimp only
  rw [update_of_ne hv]

lemma archPrepareThreadDelete_loaded (hd : s.archPrepareThreadDelete t = .ok s') (hc : s'.armHSCurVCPU = some v) :
    s.armHSCurVCPU = some v ∧ s.tcbVCPU t ≠ some v ∧ (s'.vcpu v).vgic = (s.vcpu v).vgic := by
  obtain ⟨hn, rfl⟩ | ⟨w, hw, hd⟩ := archPrepareThreadDelete_cases hd
  · exact ⟨hc, by simp [hn], rfl⟩
  · obtain ⟨hs, hv, e⟩ := dissociateVCPUTCB_cur hd hc
    exact ⟨hs, fun h => hv (Option.some.inj (hw.symm.trans h)).symm, e⟩

lemma vcpuFinalise_loaded (hb : s.Bindings) (hd : s.vcpuFinalise w = .ok s') (hc : s'.armHSCurVCPU = some v) :
    s.armHSCurVCPU = some v ∧ v ≠ w ∧ (s'.vcpu v).vgic = (s.vcpu v).vgic := by
  have hw : v ≠ w := by
    rintro rfl
    exact vcpuFinalise_cur hb hd hc
  obtain ⟨-, rfl⟩ | ⟨t, -, hd⟩ := vcpuFinalise_cases hd
  · exact ⟨hc, hw, rfl⟩
  · obtain ⟨hs, -, e⟩ := dissociateVCPUTCB_cur hd hc
    exact ⟨hs, hw, e⟩

/-- The virtual CPU keeps the list registers of its object while it stays loaded. -/
def Stays (v : VcpuPtr) (i : Nat) (s s' : VcpuState) : Prop :=
  s.armHSCurVCPU = some v ∧ (s'.vcpu v).vgic.lr i = (s.vcpu v).vgic.lr i

lemma bindVCPUTCB_synced (hc : (s.bindVCPUTCB cfg w t).armHSCurVCPU = some v) :
    Synced cfg (s.bindVCPUTCB cfg w t).toVcpuState v i ∨
      Stays v i s.toVcpuState (s.bindVCPUTCB cfg w t).toVcpuState := by
  let s1 : VcpuState :=
    { s.toVcpuState with vcpu := update s.vcpu w { s.vcpu w with vcpuTCB := some t } }
  have hv : (s1.vcpu v).vgic = (s.vcpu v).vgic := by
    by_cases h : v = w
    · subst h
      have e : s1.vcpu v = { s.vcpu v with vcpuTCB := some t } := update_self ..
      rw [e]
    · exact congrArg VCPU.vgic (update_of_ne h _ _)
  have e : (s.bindVCPUTCB cfg w t).toVcpuState = if t = s.ksCurThread then s1.vcpuSwitch cfg (some w) else s1 := by
    unfold bindVCPUTCB
    dsimp only
    split <;> rfl
  rw [e] at hc ⊢
  split
  · rename_i ht
    rw [if_pos ht] at hc
    refine (VcpuState.vcpuSwitch_synced hc).imp_right fun h => ⟨h.1, ?_⟩
    rw [h.2, hv]
  · rename_i ht
    rw [if_neg ht] at hc
    exact .inr ⟨hc, by rw [hv]⟩

lemma bindVCPUTCB_cur (hc : (s.bindVCPUTCB cfg w t).armHSCurVCPU = some v) : w = v ∨ s.armHSCurVCPU = some v := by
  unfold bindVCPUTCB at hc
  dsimp only at hc
  split at hc
  · exact .inl (Option.some.inj ((VcpuState.vcpuSwitch_some w).1.symm.trans hc))
  · exact .inr hc

/-- A virtual CPU that is loaded after a binding is the one that was bound, or was not taken from its thread. -/
lemma associateVCPUTCB_synced (hb : s.Bindings) (hs : s.associateVCPUTCB cfg w t = .ok s')
    (hc : s'.armHSCurVCPU = some v) :
    (Synced cfg s'.toVcpuState v i ∨ Stays v i s.toVcpuState s'.toVcpuState ∧ w ≠ v) ∧
      (w = v ∨ s.tcbVCPU t ≠ some v) := by
  obtain ⟨s1, h1, hs⟩ := bind_eq_ok.mp hs
  obtain ⟨s2, h2, hs⟩ := bind_eq_ok.mp hs
  obtain rfl := Except.ok.inj hs
  obtain ⟨s1', e1, hb1⟩ := hb.archPrepareThreadDelete t
  obtain rfl : s1 = s1' := Except.ok.inj (h1.symm.trans e1)
  constructor
  · refine (bindVCPUTCB_synced hc).imp_right fun h => ?_
    obtain ⟨hc1, hw, e2⟩ := vcpuFinalise_loaded hb1 h2 h.1
    obtain ⟨hc0, -, e1⟩ := archPrepareThreadDelete_loaded h1 hc1
    exact ⟨⟨hc0, by rw [h.2, e2, e1]⟩, Ne.symm hw⟩
  · refine (bindVCPUTCB_cur hc).imp_right fun h => ?_
    obtain ⟨hc1, -, -⟩ := vcpuFinalise_loaded hb1 h2 h
    exact (archPrepareThreadDelete_loaded h1 hc1).2.1

/-! ## Steps -/

/-- Nothing happens to the object of the virtual CPU. -/
lemma Stays.of_eq {s s' : VcpuState} (hc : s'.armHSCurVCPU = some v) (h : s'.armHSCurVCPU = s.armHSCurVCPU)
    (e : (s'.vcpu v).vgic.lr i = (s.vcpu v).vgic.lr i) : Stays v i s s' :=
  ⟨h.symm.trans hc, e⟩

lemma schedule_synced {c : Choice} (hc : (s.schedule cfg c).armHSCurVCPU = some v) :
    Synced cfg (s.schedule cfg c).toVcpuState v i ∨ Stays v i s.toVcpuState (s.schedule cfg c).toVcpuState := by
  have hd : (s.checkDomainTime cfg c).toVcpuState = s.toVcpuState := by
    unfold checkDomainTime
    split <;> rfl
  have hn (o : Option TcbPtr) (s : Core) (hc : (s.chooseThread cfg o).armHSCurVCPU = some v) :
      Synced cfg (s.chooseThread cfg o).toVcpuState v i ∨
        Stays v i s.toVcpuState (s.chooseThread cfg o).toVcpuState := by
    cases o with
    | some t | none => exact VcpuState.vcpuSwitch_synced hc
  have hs (s : Core) (hc : (s.scheduleChooseNewThread cfg c).armHSCurVCPU = some v) :
      Synced cfg (s.scheduleChooseNewThread cfg c).toVcpuState v i ∨
        Stays v i s.toVcpuState (s.scheduleChooseNewThread cfg c).toVcpuState := by
    unfold scheduleChooseNewThread at hc ⊢
    split at hc
    · rename_i hdone
      rw [if_pos hdone]
      -- nothing is loaded after the flush
      refine (hn _ _ hc).imp_right fun h => ?_
      have h : (s.vcpuFlush cfg).armHSCurVCPU = some v := h.1
      rw [VcpuState.vcpuFlush_cur] at h
      cases h
    · rename_i hdone
      rw [if_neg hdone]
      exact hn _ _ hc
  rw [← hd]
  unfold schedule at hc ⊢
  cases ha : (s.checkDomainTime cfg c).ksSchedulerAction with
  | resumeCurrentThread =>
    simp only [ha] at hc ⊢
    exact .inr (.of_eq hc rfl rfl)
  | chooseNewThread =>
    simp only [ha] at hc ⊢
    exact hs _ hc
  | switchTo candidate =>
    simp only [ha] at hc ⊢
    split at hc
    · rename_i hq
      rw [if_pos hq]
      exact hs _ hc
    · rename_i hq
      rw [if_neg hq]
      exact VcpuState.vcpuSwitch_synced hc

lemma vppiEvent_stays (hs : s.vppiEvent cfg ts = .ok s') (hc : s'.armHSCurVCPU = some v) :
    Stays v i s.toVcpuState s'.toVcpuState := by
  unfold vppiEvent at hs
  split at hs
  · obtain rfl := Except.ok.inj hs
    exact .of_eq hc rfl rfl
  · split at hs
    · split at hs
      · rename_i cur _
        have e := raise_vcpus hs
        rw [e] at hc ⊢
        exact .of_eq hc rfl (congrArg (·.lr i)
          (VcpuState.onVcpu_vgic (f := fun b => { b with vcpu.vppiMasked := true }) fun _ => rfl))
      · cases hs
    · obtain rfl := Except.ok.inj hs
      exact .of_eq hc rfl rfl

/-- The register that is maintained is the same in the object and in the hardware. -/
lemma clearEoi_synced {j : Nat} (hj : j < cfg.gicVcpuNumListRegs) (hs : s.clearEoi j = .ok s')
    (hc : s'.armHSCurVCPU = some v) :
    Synced cfg s'.toVcpuState v i ∨ Stays v i s.toVcpuState s'.toVcpuState := by
  obtain ⟨u, -, hs⟩ := bind_eq_ok.mp hs
  split at hs
  · rename_i cur hcur
    obtain rfl := Except.ok.inj hs
    obtain rfl : cur = v := Option.some.inj (hcur.symm.trans hc)
    have e := VcpuState.onVcpu_vcpu (v := cur)
      (s := { s.toVcpuState with hw := s.hw.setGicLr j (s.hw.gic.lr j).clearEOIIRQEN })
      (fun b => { b with vcpu.vgic.lr := update b.vcpu.vgic.lr j (s.hw.gic.lr j).clearEOIIRQEN })
    by_cases hi : i = j
    · subst hi
      refine .inl ?_
      unfold Synced
      rw [VcpuState.view_cur hc]
      refine (congrArg (·.vgic.lr i) e).trans ?_
      unfold Bank.loaded
      dsimp only
      rw [if_pos hj]
      refine (update_self ..).trans ?_
      exact (update_self i (s.hw.gic.lr i).clearEOIIRQEN s.hw.gic.lr).symm
    · refine .inr (.of_eq hc rfl ?_)
      refine (congrArg (·.vgic.lr i) e).trans ?_
      exact update_of_ne hi _ _
  · obtain rfl := Except.ok.inj hs
    exact .inr (.of_eq hc rfl rfl)

/-- After an invocation the loaded registers agree, or the virtual CPU is as it was. -/
lemma performVCPUInvocation_synced {j : VcpuInvocation} {x : Option Word} (hb : s.Bindings)
    (hs : s.performVCPUInvocation cfg w j = .ok (s', x)) (hc : s'.armHSCurVCPU = some v) :
    Synced cfg s'.toVcpuState v i ∨
      Stays v i s.toVcpuState s'.toVcpuState ∧ ¬ Detaches v ((p, s), .invoke w j) := by
  have e0 : (s.setThreadState cfg s.ksCurThread .restart).toVcpuState = s.toVcpuState := setThreadState_vcpus
  have ht0 : (s.setThreadState cfg s.ksCurThread .restart).tcbVCPU = s.tcbVCPU := by
    obtain ⟨a, e, -⟩ := setThreadState_cases cfg s s.ksCurThread .restart
    rw [e]
  unfold performVCPUInvocation at hs
  cases j with
  | setTCB t =>
    obtain ⟨s1, h1, hs⟩ := bind_eq_ok.mp hs
    obtain rfl := (Prod.ext_iff.mp (Except.ok.inj hs)).1
    obtain ⟨h, ht⟩ := associateVCPUTCB_synced (i := i) hb.setThreadState h1 hc
    rw [e0] at h
    rw [ht0] at ht
    refine h.imp_right fun h => ⟨h.1, fun hd => ?_⟩
    obtain hw | hw := hd.2
    · exact h.2 hw
    · exact ht.elim h.2 fun hn => hn hw
  | injectIRQ k virq =>
    obtain rfl := (Prod.ext_iff.mp (Except.ok.inj hs)).1
    refine .inr ⟨?_, id⟩
    rw [← e0]
    unfold invokeVCPUInjectIRQ at hc ⊢
    split at hc
    · rename_i hw
      rw [if_pos hw]
      exact .of_eq hc rfl rfl
    · rename_i hw
      rw [if_neg hw]
      have hv : v ≠ w := fun e => hw (hc.trans (congrArg some e))
      have e := VcpuState.onVcpu_vcpu_of_ne (s := (s.setThreadState cfg s.ksCurThread .restart).toVcpuState)
        (fun b => { b with vcpu.vgic.lr := update b.vcpu.vgic.lr k virq }) hv
      exact .of_eq hc rfl (congrArg (fun x : VCPU => x.vgic.lr i) e)
  | readReg field =>
    obtain rfl := (Prod.ext_iff.mp (Except.ok.inj hs)).1
    rw [setThreadState_vcpus, e0] at hc ⊢
    exact .inr ⟨.of_eq hc rfl rfl, id⟩
  | writeReg field value =>
    obtain rfl := (Prod.ext_iff.mp (Except.ok.inj hs)).1
    refine .inr ⟨?_, id⟩
    rw [← e0]
    unfold onVcpus VcpuState.writeVCPUReg at hc ⊢
    have ho (s : VcpuState) : ((s.onVcpu w (·.vcpuWriteReg field value)).vcpu v).vgic = (s.vcpu v).vgic :=
      VcpuState.onVcpu_vgic fun _ => rfl
    dsimp only at hc ⊢
    split at hc
    · rename_i hw
      rw [if_pos hw]
      split at hc
      · rename_i hd
        rw [if_pos hd]
        exact .of_eq hc rfl (by rw [ho])
      · rename_i hd
        rw [if_neg hd]
        exact .of_eq hc rfl rfl
    · rename_i hw
      rw [if_neg hw]
      exact .of_eq hc rfl (by rw [ho])
  | ackVPPI =>
    obtain rfl := (Prod.ext_iff.mp (Except.ok.inj hs)).1
    refine .inr ⟨?_, id⟩
    rw [← e0]
    exact .of_eq hc rfl (congrArg (·.lr i)
      (VcpuState.onVcpu_vgic (f := fun b => { b with vcpu.vppiMasked := false }) fun _ => rfl))

/-- A step that leaves a virtual CPU loaded has its list registers from the object, or leaves the object alone. -/
lemma step_synced (h : s.Inv cfg p) (st : Step cfg p s a p' s') (hc : s'.armHSCurVCPU = some v) :
    Synced cfg s'.toVcpuState v i ∨ Stays v i s.toVcpuState s'.toVcpuState ∧ ¬ Detaches v ((p, s), a) := by
  cases st with
  | guestReg | guestAck | guestEoi | guestApr | guestVmcr | nativeTimer | hardwareIsr | tick | enterInterrupt | enterWork
  | preempt | finish | setReady | otherInterrupt | rescheduleRequired | createThread =>
    exact .inr ⟨.of_eq hc rfl rfl, id⟩
  | enterDeletion | wake | timeout | setThreadState =>
    rw [setThreadState_vcpus] at hc ⊢
    exact .inr ⟨.of_eq hc rfl rfl, id⟩
  | @deleteThread _ _ t _ hs =>
    obtain ⟨s1, h1, hs⟩ := bind_eq_ok.mp hs
    obtain rfl := Except.ok.inj hs
    obtain ⟨hc, ht, e⟩ := archPrepareThreadDelete_loaded h1 hc
    have ht0 : (s.setThreadState cfg t .inactive).tcbVCPU = s.tcbVCPU := by
      obtain ⟨a, e, -⟩ := setThreadState_cases cfg s t .inactive
      rw [e]
    rw [ht0] at ht
    rw [setThreadState_vcpus] at hc e
    exact .inr ⟨⟨hc, by rw [e]⟩, fun hd => ht hd.2⟩
  | deleteVcpu _ hs =>
    obtain ⟨s1, h1, hs⟩ := bind_eq_ok.mp hs
    obtain rfl := Except.ok.inj hs
    obtain ⟨hc, hw, e⟩ := vcpuFinalise_loaded h.bindings h1 hc
    exact .inr ⟨⟨hc, by rw [e]⟩, fun hd => hw (Eq.symm hd)⟩
  | vppiEvent _ hs => exact .inr ⟨vppiEvent_stays hs hc, id⟩
  | vgicMaintenance _ hs =>
    obtain ⟨-, e⟩ | ⟨j, s1, -, hj, h1, e⟩ := vgicMaintenance_cases hs
    · rw [e] at hc ⊢
      exact .inr ⟨.of_eq hc rfl rfl, id⟩
    · rw [e] at hc ⊢
      exact (clearEoi_synced hj h1 hc).imp_right fun h => ⟨h, id⟩
  | invoke _ _ _ hs => exact performVCPUInvocation_synced h.bindings hs hc
  | possibleSwitchTo =>
    rw [possibleSwitchTo_vcpus] at hc ⊢
    exact .inr ⟨.of_eq hc rfl rfl, id⟩
  | setDomain =>
    rw [setDomain_vcpus] at hc ⊢
    refine .inr ⟨?_, id⟩
    unfold prepareSetDomain onVcpus VcpuState.vcpuFlushIfCurrent at hc ⊢
    split at hc
    · rename_i hd
      rw [if_pos hd]
      dsimp only at hc ⊢
      split at hc
      · rw [VcpuState.vcpuFlush_cur] at hc
        cases hc
      · rename_i hf
        rw [if_neg hf]
        exact .of_eq hc rfl rfl
    · rename_i hd
      rw [if_neg hd]
      exact .of_eq hc rfl rfl
  | @createVcpu _ w hw =>
    obtain ⟨t, ht⟩ := h.bindings.loaded v hc
    have hx := (h.bindings.exist v t ht).2
    have hv : v ≠ w := by
      rintro rfl
      rw [hw] at hx
      cases hx
    exact .inr ⟨.of_eq hc rfl (congrArg (fun x : VCPU => x.vgic.lr i) (update_of_ne hv _ _)), id⟩
  | schedule _ hs =>
    have e := activateThread_vcpus hs
    rw [e] at hc ⊢
    exact (schedule_synced hc).imp_right fun h => ⟨h, id⟩
  | fastpath => exact (VcpuState.vcpuSwitch_synced hc).imp_right fun h => ⟨h, id⟩

end Core

/-! ## Interrupts in service -/

/-- The interrupt in a list register is in service after a step, given whether it was before: the guest has
acknowledged it and not ended it, and the virtual CPU has stayed loaded since. -/
def InService (v : VcpuPtr) (i : Nat) (P : Prop) (e : (Phase × Core) × Action) : Prop :=
  e.1.2.armHSCurVCPU = some v ∧
    match e.2 with
    | .guestAck j => j = i ∨ P
    | .guestEoi j => j ≠ i ∧ P
    | .invoke w (.injectIRQ j _) => ¬ (w = v ∧ j = i) ∧ P
    | .invoke w (.setTCB _) => w ≠ v ∧ P
    | _ => P

lemma InService.imp {v : VcpuPtr} {i : Nat} {P Q : Prop} {e : (Phase × Core) × Action} (hpq : P → Q)
    (h : InService v i P e) : InService v i Q e := by
  obtain ⟨hc, h⟩ := h
  refine ⟨hc, ?_⟩
  split at h
  · exact h.imp_right hpq
  · exact ⟨h.1, hpq h.2⟩
  · exact ⟨h.1, hpq h.2⟩
  · exact ⟨h.1, hpq h.2⟩
  · exact hpq h

lemma virqType_clearEOIIRQEN (virq : Virq) : virq.clearEOIIRQEN.virqType = virq.virqType := by
  unfold Virq.clearEOIIRQEN
  split <;> rfl

namespace Core

variable {s s' : Core} {v : VcpuPtr} {p p' : Phase} {a : Action} {i : Nat} {P : Prop}

/-- What an accepted message says. -/
lemma decode_injectIRQ_pending {q : Request} {virq : Virq}
    (h : s.decodeARMVCPUInvocation cfg v q = .ok (.injectIRQ i virq)) :
    virq.virqType = .pending ∧ ((s.vcpu v).vgic.lr i).virqType ≠ .active := by
  unfold decodeARMVCPUInvocation at h
  split at h
  · unfold decodeVCPUSetTCB at h
    split at h <;> cases h
  · unfold decodeVCPUReadReg at h
    split at h
    · obtain ⟨r, -, h⟩ := bind_eq_ok.mp h
      cases h
    · cases h
  · unfold decodeVCPUWriteReg at h
    split at h
    · obtain ⟨r, -, h⟩ := bind_eq_ok.mp h
      cases h
    · cases h
  · unfold decodeVCPUInjectIRQ at h
    split at h
    · obtain ⟨-, h⟩ := refuseIf_bind.mp h
      obtain ⟨-, h⟩ := refuseIf_bind.mp h
      obtain ⟨-, h⟩ := refuseIf_bind.mp h
      obtain ⟨-, h⟩ := refuseIf_bind.mp h
      obtain ⟨ha, h⟩ := refuseIf_bind.mp h
      injection h with h
      injection h with hi hv
      rw [← hi, ← hv]
      exact ⟨rfl, ha⟩
    · cases h
  · unfold decodeVCPUAckVPPI at h
    split at h
    · obtain ⟨-, h⟩ := refuseIf_bind.mp h
      obtain ⟨-, h⟩ := refuseIf_bind.mp h
      cases h
    · cases h
  · cases h

/-- The list registers follow the interrupts in service. -/
lemma changeLr_active (lr : Nat → Virq) (hc : s.armHSCurVCPU = some v)
    (hi : ∀ j virq, a = .invoke v (.injectIRQ j virq) → virq.virqType = .pending)
    (ht : ∀ t, a ≠ .invoke v (.setTCB t)) :
    (changeLr cfg v lr ((p, s), a) i).virqType = .active ↔ InService v i ((lr i).virqType = .active) ((p, s), a) := by
  unfold InService
  rw [and_iff_right hc]
  cases a with
  | guestAck j =>
    unfold changeLr
    dsimp only
    rw [if_pos hc]
    by_cases hj : j = i
    · subst hj
      rw [update_self]
      exact ⟨fun _ => .inl rfl, fun _ => rfl⟩
    · rw [update_of_ne (Ne.symm hj)]
      exact ⟨.inr, fun h => h.resolve_left hj⟩
  | guestEoi j =>
    unfold changeLr
    dsimp only
    rw [if_pos hc]
    by_cases hj : j = i
    · subst hj
      rw [update_self]
      exact ⟨nofun, fun h => absurd rfl h.1⟩
    · rw [update_of_ne (Ne.symm hj)]
      exact ⟨fun h => ⟨hj, h⟩, fun h => h.2⟩
  | vgicMaintenance eisr0 eisr1 misr ts =>
    unfold changeLr
    dsimp only
    cases s.maintained cfg eisr0 eisr1 misr with
    | some j =>
      dsimp only
      rw [if_pos hc]
      by_cases hj : i = j
      · subst hj
        rw [update_self, virqType_clearEOIIRQEN]
      · rw [update_of_ne hj]
    | none => rfl
  | invoke w j =>
    cases j with
    | injectIRQ j virq =>
      unfold changeLr
      dsimp only
      by_cases hw : w = v
      · subst hw
        rw [if_pos rfl]
        by_cases hj : j = i
        · subst hj
          rw [update_self, hi j virq rfl]
          exact ⟨nofun, fun h => absurd ⟨rfl, rfl⟩ h.1⟩
        · rw [update_of_ne (Ne.symm hj)]
          exact ⟨fun h => ⟨fun e => hj e.2, h⟩, fun h => h.2⟩
      · rw [if_neg hw]
        exact ⟨fun h => ⟨fun e => hw e.1, h⟩, fun h => h.2⟩
    | setTCB t =>
      have hw : w ≠ v := fun e => ht t (e ▸ rfl)
      exact ⟨fun h => ⟨hw, h⟩, fun h => h.2⟩
    | _ => rfl
  | _ => rfl

/-- A virtual CPU that is taken from its thread and is loaded afterwards was bound again. -/
lemma detaches_setTCB (h : s.Inv cfg p) (st : Step cfg p s a p' s') (hd : Detaches v ((p, s), a))
    (hc : s'.armHSCurVCPU = some v) : ∃ t, a = .invoke v (.setTCB t) := by
  cases st with
  | @deleteThread _ _ t _ hs =>
    obtain ⟨s1, h1, hs⟩ := bind_eq_ok.mp hs
    obtain rfl := Except.ok.inj hs
    obtain ⟨-, ht, -⟩ := archPrepareThreadDelete_loaded h1 hc
    obtain ⟨a, e, -⟩ := setThreadState_cases cfg s t .inactive
    rw [e] at ht
    exact absurd hd.2 ht
  | deleteVcpu _ hs =>
    obtain ⟨s1, h1, hs⟩ := bind_eq_ok.mp hs
    obtain rfl := Except.ok.inj hs
    exact absurd (Eq.symm hd) (vcpuFinalise_loaded h.bindings h1 hc).2.1
  | @invoke _ _ w j _ _ _ _ hs =>
    cases j with
    | setTCB t =>
      obtain ⟨s1, h1, hs⟩ := bind_eq_ok.mp hs
      obtain rfl := (Prod.ext_iff.mp (Except.ok.inj hs)).1
      have ht := (associateVCPUTCB_synced (i := 0) h.bindings.setThreadState h1 hc).2
      obtain ⟨a, e, -⟩ := setThreadState_cases cfg s s.ksCurThread .restart
      rw [e] at ht
      by_cases hw : w = v
      · exact ⟨t, by rw [hw]⟩
      · exact absurd (hd.2.resolve_left hw) (ht.resolve_left hw)
    | _ => exact absurd hd id
  | _ => exact absurd hd id

/-- A step keeps track of the interrupts in service: one that is in service is active, and an active one whose object
does not have it so is in service. -/
lemma step_inService (h : s.Inv cfg p) (st : Step cfg p s a p' s')
    (h1 : P → s.armHSCurVCPU = some v → ((s.view cfg v).lr i).virqType = .active)
    (h2 : s.armHSCurVCPU = some v → ((s.view cfg v).lr i).virqType = .active →
      ((s.vcpu v).vgic.lr i).virqType ≠ .active → P) (hc : s'.armHSCurVCPU = some v) :
    (InService v i P ((p, s), a) → ((s'.view cfg v).lr i).virqType = .active) ∧
      (((s'.view cfg v).lr i).virqType = .active → ((s'.vcpu v).vgic.lr i).virqType ≠ .active →
        InService v i P ((p, s), a)) := by
  have hx (hs : s.armHSCurVCPU = some v) : s.vcpuExists v = true := by
    obtain ⟨t, ht⟩ := h.bindings.loaded v hs
    exact (h.bindings.exist v t ht).2
  have hi : ∀ j virq, a = .invoke v (.injectIRQ j virq) → virq.virqType = .pending := by
    rintro j virq rfl
    cases st with
    | invoke hi _ _ _ =>
      obtain ⟨q, hq⟩ := hi.2.1
      exact (decode_injectIRQ_pending hq).1
  have hlr (hs : s.armHSCurVCPU = some v) (hd : ¬ Detaches v ((p, s), a)) (ht : ∀ t, a ≠ .invoke v (.setTCB t)) :
      ((s'.view cfg v).lr i).virqType = .active ↔
        InService v i (((s.view cfg v).lr i).virqType = .active) ((p, s), a) := by
    rw [(step_view (hx hs) hd st).lr]
    exact changeLr_active _ hs hi ht
  constructor
  · intro hp
    have ht : ∀ t, a ≠ .invoke v (.setTCB t) := by
      rintro t rfl
      exact hp.2.1 rfl
    have hd : ¬ Detaches v ((p, s), a) := fun hd => by
      obtain ⟨t, e⟩ := detaches_setTCB h st hd hc
      exact ht t e
    exact (hlr hp.1 hd ht).mpr (hp.imp fun hp' => h1 hp' hp.1)
  · intro ha hn
    obtain hs | ⟨hs, hd⟩ := step_synced (i := i) h st hc
    · exact absurd ((congrArg Virq.virqType hs).trans ha) hn
    · have ht : ∀ t, a ≠ .invoke v (.setTCB t) := by
        rintro t rfl
        exact hd ⟨hs.1, .inl rfl⟩
      rw [hs.2] at hn
      exact ((hlr hs.1 hd ht).mp ha).imp fun ha' => h2 hs.1 ha' hn

end Core

/-! ## Runs -/

/-- The states of a run from boot are reachable. -/
lemma reachable_of_run {x y : Phase × Core} {h : List ((Phase × Core) × Action)} (r : Run (VcpuStep cfg) x h y)
    (hx : Reachable cfg x.1 x.2) : Reachable cfg y.1 y.2 := by
  induction r with
  | refl => exact hx
  | tail _ st ih => exact ih.step st

/-- What is in service at the end of a run from boot is active, and what is active and not so in its object is in
service. -/
lemma run_inService {hw : Hardware} {idle root : TcbPtr} (hne : idle ≠ root) {h : List ((Phase × Core) × Action)}
    {y : Phase × Core} (r : Run (VcpuStep cfg) (.work, Core.boot hw idle root) h y) (v : VcpuPtr) (i : Nat)
    (hc : y.2.armHSCurVCPU = some v) :
    (h.foldl (InService v i) False → ((y.2.view cfg v).lr i).virqType = .active) ∧
      (((y.2.view cfg v).lr i).virqType = .active → ((y.2.vcpu v).vgic.lr i).virqType ≠ .active →
        h.foldl (InService v i) False) := by
  induction r with
  | refl => cases hc
  | @tail _ _ h a r st ih =>
    have hi := (reachable_of_run r (.boot hne)).inv
    rw [List.foldl_append, List.foldl_cons, List.foldl_nil]
    exact Core.step_inService hi st (fun hp hs => (ih hs).1 hp) (fun hs => (ih hs).2) hc

/-- A list register that an accepted injection writes is not active exactly if the virtual CPU is not loaded, or the
interrupt in that register is not in service: since the virtual CPU was loaded, its guest has not acknowledged it, or
has ended it. -/
theorem injectIRQ_inactive_iff {hw : Hardware} {idle root : TcbPtr} {h : List ((Phase × Core) × Action)} {p : Phase}
    {s : Core} {v : VcpuPtr} {q : Request} {i : Nat} {virq : Virq} (hne : idle ≠ root)
    (r : Run (VcpuStep cfg) (.work, Core.boot hw idle root) h (p, s))
    (hq : s.decodeARMVCPUInvocation cfg v q = .ok (.injectIRQ i virq)) :
    ((s.view cfg v).lr i).virqType ≠ .active ↔ (s.armHSCurVCPU = some v → ¬ h.foldl (InService v i) False) := by
  have hn := (Core.decode_injectIRQ_pending hq).2
  by_cases hc : s.armHSCurVCPU = some v
  · obtain ⟨h1, h2⟩ := run_inService hne r v i hc
    exact ⟨fun ha _ hp => ha (h1 hp), fun hp ha => hp hc (h2 ha hn)⟩
  · -- what the message was checked against is what the virtual CPU has
    have hs : Synced cfg s.toVcpuState v i := VcpuState.synced_of_ne hc
    rw [← hs]
    exact ⟨fun _ e => absurd e hc, fun _ => hn⟩

/-! ## A guest that is interrupted again -/

/-- The interrupt that is injected, and its message. -/
def firstVirq : Virq :=
  virqPendingNew 0 0 1 0

/-- The guest's thread has injected an interrupt into the first list register. -/
def virqInjected (s : Core) : Core :=
  (s.setThreadState (plainConfig false) 1 .restart).invokeVCPUInjectIRQ 2 0 firstVirq

/-- The kernel returns to the guest. -/
def guestResumed : Core :=
  ((virqInjected (guestState false)).schedule (plainConfig false) noChoice).setThreadState
    (plainConfig false) 1 .running

/-- The guest acknowledges the interrupt. -/
def guestAcked : Core :=
  guestResumed.onVcpus fun s => { s with hw := s.hw.setGicLr 0 { s.hw.gic.lr 0 with virqType := .active } }

lemma decode_firstVirq (s : Core) (h : ((s.vcpu 2).vgic.lr 0).virqType ≠ .active) :
    s.decodeARMVCPUInvocation (plainConfig false) 2 ⟨.injectIRQ, [0], none⟩ = .ok (.injectIRQ 0 firstVirq) := by
  show (refuseIf (((s.vcpu 2).vgic.lr 0).virqType = .active) SyscallError.deleteFirst >>= fun _ =>
    Except.ok (VcpuInvocation.injectIRQ 0 firstVirq)) = _
  exact refuseIf_bind.mpr ⟨h, rfl⟩

lemma step_virqInjected {s : Core} (hc : s.ksCurThread = 1) (hi : s.ksIdleThread = 0) (ht : s.tcbExists 1 = true)
    (hv : s.vcpuExists 2 = true) (hn : ((s.vcpu 2).vgic.lr 0).virqType ≠ .active) :
    Step (plainConfig false) .work s (.invoke 2 (.injectIRQ 0 firstVirq)) .work (virqInjected s) := by
  have hs : s.performVCPUInvocation (plainConfig false) 2 (.injectIRQ 0 firstVirq) =
      .ok ((s.setThreadState (plainConfig false) s.ksCurThread .restart).invokeVCPUInjectIRQ 2 0 firstVirq, none) := rfl
  rw [hc] at hs
  exact .invoke ⟨hv, ⟨_, decode_firstVirq s hn⟩, nofun⟩ (by rw [hc, hi]; decide) (hc ▸ ht) hs

/-- What the run below meets. -/
lemma guestAcked_facts :
    ((virqInjected (guestState false)).ksSchedulerAction = .resumeCurrentThread ∧
      ((virqInjected (guestState false)).schedule (plainConfig false) noChoice).ksCurThread = 1 ∧
      ((virqInjected (guestState false)).schedule (plainConfig false) noChoice).tsType 1 = .restart) ∧
    (((guestState false).vcpu 2).vgic.lr 0).virqType ≠ .active ∧
    (guestResumed.armHSVCPUActive = true ∧ (guestResumed.hw.gic.lr 0).virqType = .pending) ∧
    ((guestAcked.vcpu 2).vgic.lr 0).virqType ≠ .active ∧
    ((guestAcked.view (plainConfig false) 2).lr 0).virqType = .active ∧
    ((((virqInjected guestAcked).view (plainConfig false) 2).lr 0).virqType = .pending ∧ guestAcked.ksCurThread = 1 ∧
      guestAcked.ksIdleThread = 0 ∧ guestAcked.tcbExists 1 = true ∧ guestAcked.vcpuExists 2 = true) := by
  decide +kernel

lemma step_guestResumed :
    Step (plainConfig false) .work (virqInjected (guestState false)) (.schedule noChoice) .user guestResumed := by
  obtain ⟨⟨ha, hc, ht⟩, -⟩ := guestAcked_facts
  refine .schedule ⟨nofun, fun t e => ?_⟩ ?_
  · exact absurd (ha.symm.trans e) nofun
  · unfold Core.activateThread
    rw [hc, ht]
    rfl

lemma reachable_guestAcked : Reachable (plainConfig false) .work guestAcked := by
  obtain ⟨hc, hidle, ht, hv, -⟩ := guestState_facts false
  obtain ⟨-, hn, ⟨ha, hp⟩, -⟩ := guestAcked_facts
  have hi : Step (plainConfig false) .work (guestState false) (.invoke 2 (.injectIRQ 0 firstVirq)) .work
      (virqInjected (guestState false)) :=
    step_virqInjected hc hidle ht hv hn
  have hr := ((reachable_guestState false).step .enterWork).step hi
  have hs : Step (plainConfig false) .user guestResumed (.guestAck 0) .user guestAcked := .guestAck ha (by decide) hp
  exact ((hr.step step_guestResumed).step hs).step .enterWork

/-- Every reachable state is at the end of a run from boot. -/
lemma Reachable.run {p : Phase} {s : Core} (h : Reachable cfg p s) :
    ∃ hw idle root h, idle ≠ root ∧ Run (VcpuStep cfg) (.work, Core.boot hw idle root) h (p, s) := by
  induction h with
  | @boot hw idle root hne => exact ⟨hw, idle, root, [], hne, .refl _⟩
  | step _ st ih =>
    obtain ⟨hw, idle, root, h, hne, r⟩ := ih
    exact ⟨hw, idle, root, _, hne, run_step r st⟩

lemma decode_guestAcked :
    guestAcked.decodeARMVCPUInvocation (plainConfig false) 2 ⟨.injectIRQ, [0], none⟩ = .ok (.injectIRQ 0 firstVirq) :=
  decode_firstVirq guestAcked guestAcked_facts.2.2.2.1

/-- The guest has acknowledged the injection. -/
theorem injectIRQ_inactive_iff_guestAcked :
    ∃ hw idle root h, Run (VcpuStep (plainConfig false)) (.work, Core.boot hw idle root) h (.work, guestAcked) ∧
      h.foldl (InService 2 0) False := by
  obtain ⟨hw, idle, root, h, hne, r⟩ := reachable_guestAcked.run
  refine ⟨hw, idle, root, h, r, ?_⟩
  have hi := injectIRQ_inactive_iff hne r decode_guestAcked
  obtain ⟨-, -, -, -, ha, -⟩ := guestAcked_facts
  by_contra hn
  exact hi.mpr (fun _ => hn) ha

/-- An interrupt that the guest is handling is pending again. -/
theorem injectIRQ_overwrites :
    ∃ s s', Reachable (plainConfig false) .work s ∧
      s.decodeARMVCPUInvocation (plainConfig false) 2 ⟨.injectIRQ, [0], none⟩ = .ok (.injectIRQ 0 firstVirq) ∧
      ((s.view (plainConfig false) 2).lr 0).virqType = .active ∧
      Step (plainConfig false) .work s (.invoke 2 (.injectIRQ 0 firstVirq)) .work s' ∧
      ((s'.view (plainConfig false) 2).lr 0).virqType = .pending := by
  obtain ⟨-, -, -, hn, ha, hp, hc, hi, ht, hv⟩ := guestAcked_facts
  exact ⟨guestAcked, virqInjected guestAcked, reachable_guestAcked, decode_guestAcked, ha,
    step_virqInjected hc hi ht hv hn, hp⟩

end NexsKernel.Vcpu
