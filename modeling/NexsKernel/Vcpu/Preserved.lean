import Mathlib.Data.BitVec
import NexsKernel.Lib.Observed
import NexsKernel.Vcpu.Current

/-!
# What a virtual CPU holds is its own

Seen through its view, a virtual CPU is a private register file: a step changes it only by a store of the kernel or
of its own guest. The exception is a dissociation while it is loaded, which throws away what is in the hardware.
-/

namespace NexsKernel.Vcpu

open Observed
open Mcs (TcbPtr Word ThreadState SchedulerAction)
open Function (update update_self update_of_ne)

variable {cfg : VcpuConfig}

namespace VcpuState

variable {s s' : VcpuState} {v w : VcpuPtr}

/-- What the view of a virtual CPU depends on. -/
structure Agree (cfg : VcpuConfig) (s s' : VcpuState) (v : VcpuPtr) : Prop where
  cur : s'.armHSCurVCPU = s.armHSCurVCPU
  active : s'.armHSVCPUActive = s.armHSVCPUActive
  stored : Bank.stored ⟨s'.vcpu v, s'.hw⟩ = Bank.stored ⟨s.vcpu v, s.hw⟩
  loaded : ∀ active, Bank.loaded cfg ⟨s'.vcpu v, s'.hw⟩ active = Bank.loaded cfg ⟨s.vcpu v, s.hw⟩ active

lemma Agree.view (h : Agree cfg s s' v) : s'.view cfg v = s.view cfg v := by
  unfold VcpuState.view
  rw [h.cur, h.active, h.stored, h.loaded]

/-- A change of other fields of one object. -/
lemma onVcpu_agree {f : Bank → Bank} (hr : ∀ b, (f b).vcpu.regs = b.vcpu.regs) (hg : ∀ b, (f b).vcpu.vgic = b.vcpu.vgic)
    (hh : ∀ b, (f b).hw = b.hw) : Agree cfg s (s.onVcpu w f) v := by
  have e : (s.onVcpu w f).hw = s.hw := hh _
  have er : ((s.onVcpu w f).vcpu v).regs = (s.vcpu v).regs := by
    by_cases hv : v = w
    · subst hv
      rw [onVcpu_vcpu, hr]
    · rw [onVcpu_vcpu_of_ne f hv]
  have eg : ((s.onVcpu w f).vcpu v).vgic = (s.vcpu v).vgic := by
    by_cases hv : v = w
    · subst hv
      rw [onVcpu_vcpu, hg]
    · rw [onVcpu_vcpu_of_ne f hv]
  refine ⟨rfl, rfl, ?_, fun active => ?_⟩
  · unfold Bank.stored
    dsimp only
    rw [er, eg]
  · unfold Bank.loaded
    dsimp only
    rw [e, er, eg]

end VcpuState

/-! ## Stores -/

/-- The register that a step stores to. -/
def storedReg (v : VcpuPtr) (r : VCPUReg) : (Phase × Core) × Action → Option Word
  | (_, .invoke w (.writeReg r' x)) => if w = v ∧ r' = r then some x else none
  | ((_, s), .guestReg r' x) => if s.armHSCurVCPU = some v ∧ r' = r then some x else none
  | _ => none

def storedApr (v : VcpuPtr) : (Phase × Core) × Action → Option (BitVec 32)
  | ((_, s), .guestApr x) => if s.armHSCurVCPU = some v then some x else none
  | _ => none

def storedVmcr (v : VcpuPtr) : (Phase × Core) × Action → Option (BitVec 32)
  | ((_, s), .guestVmcr x) => if s.armHSCurVCPU = some v then some x else none
  | _ => none

/-- The list register whose EOI interrupt `VGICMaintenance` turns off. -/
def Core.maintained (cfg : VcpuConfig) (s : Core) (eisr0 eisr1 misr : BitVec 32) : Option Nat :=
  if cfg.mcs ∧ s.isSchedulable cfg s.ksCurThread = false then
    none
  else if s.armHSVCPUActive = false then
    none
  else if misr &&& vgicMisrEoi ≠ 0 then
    (irqIdx eisr0 eisr1).filter (· < cfg.gicVcpuNumListRegs)
  else
    none

/-- What a step does to the list registers: an injection, an acknowledgement or an end of interrupt by the guest,
and the maintenance of the interface. -/
def changeLr (cfg : VcpuConfig) (v : VcpuPtr) (lr : Nat → Virq) : (Phase × Core) × Action → Nat → Virq
  | (_, .invoke w (.injectIRQ i virq)) => if w = v then update lr i virq else lr
  | ((_, s), .guestAck i) =>
    if s.armHSCurVCPU = some v then update lr i { lr i with virqType := .active } else lr
  | ((_, s), .guestEoi i) =>
    if s.armHSCurVCPU = some v then update lr i { lr i with virqType := .invalid } else lr
  | ((_, s), .vgicMaintenance eisr0 eisr1 misr _) =>
    match s.maintained cfg eisr0 eisr1 misr with
    | some i => if s.armHSCurVCPU = some v then update lr i (lr i).clearEOIIRQEN else lr
    | none => lr
  | _ => lr

/-- What a step does to a virtual CPU. -/
def effect (cfg : VcpuConfig) (v : VcpuPtr) (e : (Phase × Core) × Action) (x : View) : View where
  regs r := (storedReg v r e).getD (x.regs r)
  lr := changeLr cfg v x.lr e
  apr := (storedApr v e).getD x.apr
  vmcr := (storedVmcr v e).getD x.vmcr

/-- The step takes the virtual CPU from its thread while it is loaded, or deletes it. -/
def Detaches (v : VcpuPtr) : (Phase × Core) × Action → Prop
  | ((_, s), .invoke w (.setTCB t)) => s.armHSCurVCPU = some v ∧ (w = v ∨ s.tcbVCPU t = some v)
  | ((_, s), .deleteThread t) => s.armHSCurVCPU = some v ∧ s.tcbVCPU t = some v
  | (_, .deleteVcpu w) => w = v
  | _ => False

lemma View.Same.effect {x y : View} (h : x.Same cfg y) (v : VcpuPtr) (e : (Phase × Core) × Action) :
    (effect cfg v e x).Same cfg (effect cfg v e y) where
  regs r hr := by
    unfold Vcpu.effect
    dsimp only
    cases storedReg v r e with
    | none => exact h.regs r hr
    | some _ => rfl
  lr := by
    unfold Vcpu.effect
    rw [h.lr]
  apr := by
    unfold Vcpu.effect
    rw [h.apr]
  vmcr := by
    unfold Vcpu.effect
    rw [h.vmcr]

namespace Core

variable {s s' : Core} {v w : VcpuPtr} {t : TcbPtr} {ts : ThreadState} {p : Phase}

/-! ## Dissociation -/

/-- A virtual CPU that is not loaded keeps everything when it is dissociated, and so do all others. -/
lemma dissociateVCPUTCB_view (hd : s.dissociateVCPUTCB w t = .ok s') (hv : s.armHSCurVCPU = some v → w ≠ v) :
    s'.view cfg v = s.view cfg v := by
  obtain ⟨-, -, spsr, rfl⟩ := dissociateVCPUTCB_cases hd
  -- the binding is not in the view
  have e : ∀ {hw cur active}, VcpuState.view cfg
        ⟨update s.vcpu w { s.vcpu w with vcpuTCB := none }, hw, cur, active⟩ v =
      VcpuState.view cfg ⟨s.vcpu, hw, cur, active⟩ v := fun {hw cur active} =>
    (VcpuState.onVcpu_agree (s := ⟨s.vcpu, hw, cur, active⟩) (f := fun b => { b with vcpu.vcpuTCB := none })
      (fun _ => rfl) (fun _ => rfl) (fun _ => rfl)).view
  refine e.trans ?_
  unfold VcpuState.invalidateIfCurrent
  split
  · rename_i hc
    have hn : s.armHSCurVCPU ≠ some v := fun h => hv h (Option.some.inj (hc.symm.trans h))
    exact VcpuState.view_congr hn nofun rfl
  · rfl

lemma archPrepareThreadDelete_view (hd : s.archPrepareThreadDelete t = .ok s')
    (hv : s.armHSCurVCPU = some v → s.tcbVCPU t ≠ some v) : s'.view cfg v = s.view cfg v := by
  obtain ⟨-, rfl⟩ | ⟨w, hw, hd⟩ := archPrepareThreadDelete_cases hd
  · rfl
  · exact dissociateVCPUTCB_view hd fun hc e => hv hc (hw.trans (congrArg some e))

lemma vcpuFinalise_view (hd : s.vcpuFinalise w = .ok s') (hv : s.armHSCurVCPU = some v → w ≠ v) :
    s'.view cfg v = s.view cfg v := by
  obtain ⟨-, rfl⟩ | ⟨t, -, hd⟩ := vcpuFinalise_cases hd
  · rfl
  · exact dissociateVCPUTCB_view hd hv

/-- Nothing is loaded by a dissociation. -/
lemma archPrepareThreadDelete_cur (hd : s.archPrepareThreadDelete t = .ok s') (hc : s'.armHSCurVCPU = some v) :
    s.armHSCurVCPU = some v := by
  obtain ⟨-, rfl⟩ | ⟨w, -, hd⟩ := archPrepareThreadDelete_cases hd
  · exact hc
  · obtain ⟨-, -, spsr, rfl⟩ := dissociateVCPUTCB_cases hd
    exact (VcpuState.invalidateIfCurrent_cur hc).1

lemma setThreadState_view : (s.setThreadState cfg t ts).view cfg v = s.view cfg v := by
  rw [setThreadState_vcpus]

end Core

namespace VcpuState

variable {s : VcpuState} {v w : VcpuPtr} {r q : VCPUReg}

/-! ## Stores to registers -/

/-- The register of the virtual CPU is in the hardware. -/
def InHardware (s : VcpuState) (v : VcpuPtr) (r : VCPUReg) : Prop :=
  s.armHSCurVCPU = some v ∧ ¬ (r.savedWhenDisabled = true ∧ s.armHSVCPUActive = false)

lemma readVCPUReg_hw (h : s.InHardware v r) : s.readVCPUReg v r = s.hw.readReg r := by
  unfold readVCPUReg
  rw [if_pos h.1, if_neg h.2]

lemma readVCPUReg_object (h : ¬ s.InHardware v r) : s.readVCPUReg v r = (s.vcpu v).regs r := by
  unfold readVCPUReg
  by_cases hc : s.armHSCurVCPU = some v
  · rw [if_pos hc, if_pos (by by_contra hs; exact h ⟨hc, hs⟩)]
  · rw [if_neg hc]

lemma writeVCPUReg_hw (h : s.InHardware v r) (x : Word) :
    s.writeVCPUReg v r x = { s with hw := s.hw.writeReg r x } := by
  unfold writeVCPUReg
  rw [if_pos h.1, if_neg h.2]

lemma writeVCPUReg_object (h : ¬ s.InHardware v r) (x : Word) :
    s.writeVCPUReg v r x = s.onVcpu v (·.vcpuWriteReg r x) := by
  unfold writeVCPUReg
  by_cases hc : s.armHSCurVCPU = some v
  · rw [if_pos hc, if_pos (by by_contra hs; exact h ⟨hc, hs⟩)]
  · rw [if_neg hc]

/-- A change of the hardware outside the kernel is seen in the registers that are there. -/
lemma readVCPUReg_setReg (x : Word) :
    (s.setReg r x).readVCPUReg v q = s.readVCPUReg v q ∨
      s.InHardware v q ∧ r = q ∧ (s.setReg r x).readVCPUReg v q = q.cut x := by
  by_cases h : s.InHardware v q
  · have h' : (s.setReg r x).InHardware v q := h
    by_cases hr : r = q
    · refine .inr ⟨h, hr, (readVCPUReg_hw h').trans (congrArg q.cut ?_)⟩
      subst hr
      exact update_self ..
    · refine .inl ((readVCPUReg_hw h').trans (Eq.trans ?_ (readVCPUReg_hw h).symm))
      exact congrArg q.cut (update_of_ne (Ne.symm hr) _ _)
  · have h' : ¬ (s.setReg r x).InHardware v q := h
    exact .inl ((readVCPUReg_object h').trans (readVCPUReg_object h).symm)

/-- A guest's store. -/
lemma guestReg_regs (ha : s.armHSVCPUActive = true) (x : Word) :
    q.cut ((s.setReg r x).readVCPUReg v q) =
      q.cut ((if s.armHSCurVCPU = some v ∧ r = q then some x else none).getD (s.readVCPUReg v q)) := by
  have hi : s.InHardware v q ↔ s.armHSCurVCPU = some v :=
    ⟨fun h => h.1, fun h => ⟨h, fun hs => absurd (ha.symm.trans hs.2) nofun⟩⟩
  by_cases h : s.InHardware v q ∧ r = q
  · have h' : (s.setReg r x).InHardware v q := h.1
    obtain ⟨h, rfl⟩ := h
    rw [if_pos ⟨hi.mp h, rfl⟩, readVCPUReg_hw h']
    refine (VCPUReg.cut_cut _ _).trans (congrArg r.cut ?_)
    exact update_self ..
  · rw [if_neg (by rwa [← hi])]
    obtain e | ⟨h', hr, -⟩ := readVCPUReg_setReg (s := s) (v := v) (r := r) (q := q) x
    · rw [e]
      rfl
    · exact absurd ⟨h', hr⟩ h

/-- A store of the kernel. -/
lemma writeVCPUReg_regs (x : Word) (hq : q ≠ .isr) :
    q.cut ((s.writeVCPUReg w r x).readVCPUReg v q) =
      q.cut ((if w = v ∧ r = q then some x else none).getD (s.readVCPUReg v q)) := by
  by_cases hr : s.InHardware w r
  · rw [writeVCPUReg_hw hr]
    by_cases h : s.InHardware v q
    · -- the virtual CPU that is loaded
      have hw : w = v := Option.some.inj (hr.1.symm.trans h.1)
      have h' : InHardware { s with hw := s.hw.writeReg r x } v q := h
      rw [readVCPUReg_hw h', readVCPUReg_hw h]
      by_cases e : r = q
      · subst e
        rw [if_pos ⟨hw, rfl⟩, Hardware.readReg_writeReg _ hq, VCPUReg.cut_cut]
        rfl
      · rw [if_neg fun h => e h.2, Hardware.readReg_writeReg_of_ne _ (Ne.symm e)]
        rfl
    · have h' : ¬ InHardware { s with hw := s.hw.writeReg r x } v q := h
      rw [readVCPUReg_object h', readVCPUReg_object h, if_neg]
      · rfl
      · rintro ⟨rfl, rfl⟩
        exact h hr
  · rw [writeVCPUReg_object hr]
    by_cases h : s.InHardware v q
    · have h' : (s.onVcpu w (·.vcpuWriteReg r x)).InHardware v q := h
      rw [readVCPUReg_hw h', readVCPUReg_hw h, if_neg]
      · rfl
      · rintro ⟨rfl, rfl⟩
        exact hr h
    · have h' : ¬ (s.onVcpu w (·.vcpuWriteReg r x)).InHardware v q := h
      rw [readVCPUReg_object h', readVCPUReg_object h]
      by_cases hv : w = v
      · subst hv
        rw [onVcpu_vcpu]
        by_cases e : r = q
        · subst e
          rw [if_pos ⟨rfl, rfl⟩]
          exact congrArg _ (update_self ..)
        · rw [if_neg fun h => e h.2]
          exact congrArg _ (update_of_ne (Ne.symm e) _ _)
      · rw [if_neg fun h => hv h.1, onVcpu_vcpu_of_ne _ (Ne.symm hv)]
        rfl

lemma view_regs (cfg : VcpuConfig) (s : VcpuState) : (s.view cfg v).regs = s.readVCPUReg v :=
  funext fun r => (readVCPUReg_eq r).symm

/-! ## Stores to the interface -/

/-- The parts of the interface that are not registers of the processor. -/
structure SameIface (x y : View) : Prop where
  lr : x.lr = y.lr
  apr : x.apr = y.apr
  vmcr : x.vmcr = y.vmcr

lemma view_iface {s s' : VcpuState} (hc : s'.armHSCurVCPU = s.armHSCurVCPU) (hh : s'.hw.gic = s.hw.gic)
    (hg : (s'.vcpu v).vgic = (s.vcpu v).vgic) : SameIface (s'.view cfg v) (s.view cfg v) := by
  by_cases h : s.armHSCurVCPU = some v
  · rw [view_cur h, view_cur (hc.trans h)]
    unfold Bank.loaded
    dsimp only
    rw [hh, hg]
    exact ⟨rfl, rfl, rfl⟩
  · rw [view_of_ne h, view_of_ne (hc ▸ h)]
    unfold Bank.stored
    dsimp only
    rw [hg]
    exact ⟨rfl, rfl, rfl⟩

lemma setReg_iface (cfg : VcpuConfig) (s : VcpuState) (v : VcpuPtr) (r : VCPUReg) (x : Word) :
    SameIface ((s.setReg r x).view cfg v) (s.view cfg v) :=
  view_iface rfl rfl rfl

lemma writeVCPUReg_iface (x : Word) : SameIface ((s.writeVCPUReg w r x).view cfg v) (s.view cfg v) := by
  by_cases hr : s.InHardware w r
  · rw [writeVCPUReg_hw hr]
    exact view_iface rfl (Hardware.gic_writeReg ..) rfl
  · rw [writeVCPUReg_object hr]
    refine view_iface rfl rfl ?_
    by_cases hv : v = w
    · subst hv
      rw [onVcpu_vcpu]
      rfl
    · rw [onVcpu_vcpu_of_ne _ hv]

/-- A list register of the hardware is written. -/
lemma setGicLr_view {i : Nat} (hi : i < cfg.gicVcpuNumListRegs) (virq : Virq) :
    view cfg { s with hw := s.hw.setGicLr i virq } v =
      { s.view cfg v with
        lr := if s.armHSCurVCPU = some v then update (s.view cfg v).lr i virq else (s.view cfg v).lr } := by
  by_cases h : s.armHSCurVCPU = some v
  · rw [if_pos h, view_cur h, view_cur (s := { s with hw := s.hw.setGicLr i virq }) h]
    unfold Bank.loaded Hardware.setGicLr
    ext1
    · rfl
    · funext j
      dsimp only
      by_cases hj : j = i
      · subst hj
        rw [if_pos hi, update_self, update_self]
      · rw [update_of_ne hj, update_of_ne hj]
    · rfl
    · rfl
  · rw [if_neg h, view_of_ne h, view_of_ne (s := { s with hw := s.hw.setGicLr i virq }) h]
    rfl

/-- A list register of an object is written, of the virtual CPU that is loaded or of another. -/
lemma objectLr_view {i : Nat} (hi : i < cfg.gicVcpuNumListRegs) (virq : Virq) :
    (s.onVcpu w fun b => { b with vcpu.vgic.lr := update b.vcpu.vgic.lr i virq }).view cfg v =
      { s.view cfg v with
        lr := if w = v ∧ s.armHSCurVCPU ≠ some v then update (s.view cfg v).lr i virq
          else (s.view cfg v).lr } := by
  by_cases hv : w = v
  · subst hv
    by_cases h : s.armHSCurVCPU = some w
    · rw [if_neg (fun e => e.2 h), view_cur h, view_cur (s := s.onVcpu w _) h, onVcpu_vcpu]
      unfold Bank.loaded
      ext1
      · rfl
      · funext j
        dsimp only
        by_cases hj : j < cfg.gicVcpuNumListRegs
        · rw [if_pos hj, if_pos hj]
          rfl
        · rw [if_neg hj, if_neg hj, update_of_ne (by rintro rfl; exact hj hi)]
      · rfl
      · rfl
    · rw [if_pos ⟨rfl, h⟩, view_of_ne h, view_of_ne (s := s.onVcpu w _) h, onVcpu_vcpu]
      rfl
  · rw [if_neg fun e => hv e.1]
    have hr : ((s.onVcpu w fun b => { b with vcpu.vgic.lr := update b.vcpu.vgic.lr i virq }).vcpu v)
        = s.vcpu v := onVcpu_vcpu_of_ne _ (Ne.symm hv)
    have hh : (s.onVcpu w fun b => { b with vcpu.vgic.lr := update b.vcpu.vgic.lr i virq }).hw
        = s.hw := rfl
    unfold view
    rw [hr, hh]
    rfl

end VcpuState

/-! ## Steps -/

namespace Core

variable {s s' : Core} {v w : VcpuPtr} {t : TcbPtr} {ts : ThreadState} {p p' : Phase} {a : Action}

/-- The end of a handler does not touch the virtual CPUs. -/
lemma raise_vcpus {fault : VcpuFault} (h : s.raise cfg fault ts = .ok s') : s'.toVcpuState = s.toVcpuState := by
  obtain ⟨u, -, h⟩ := bind_eq_ok.mp h
  obtain rfl := Except.ok.inj h
  split
  · exact setThreadState_vcpus
  · rfl

lemma vppiEvent_view (h : s.vppiEvent cfg ts = .ok s') : s'.view cfg v = s.view cfg v := by
  unfold vppiEvent at h
  split at h
  · obtain rfl := Except.ok.inj h
    rfl
  · split at h
    · split at h
      · rename_i cur hc
        have hv := raise_vcpus h
        rw [hv]
        refine (VcpuState.onVcpu_agree (w := cur) (s := { s.toVcpuState with hw := s.hw.maskVtimer true })
          (f := fun b => { b with vcpu.vppiMasked := true })
          (fun _ => rfl) (fun _ => rfl) (fun _ => rfl)).view.trans ?_
        exact VcpuState.Agree.view ⟨rfl, rfl, rfl, fun _ => rfl⟩
      · cases h
    · obtain rfl := Except.ok.inj h
      rfl

/-- What `VGICMaintenance` does to the virtual CPUs. -/
lemma vgicMaintenance_cases {eisr0 eisr1 misr : BitVec 32} (h : s.vgicMaintenance cfg eisr0 eisr1 misr ts = .ok s') :
    s.maintained cfg eisr0 eisr1 misr = none ∧ s'.toVcpuState = s.toVcpuState ∨
      ∃ i s1, s.maintained cfg eisr0 eisr1 misr = some i ∧ i < cfg.gicVcpuNumListRegs ∧ s.clearEoi i = .ok s1 ∧
        s'.toVcpuState = s1.toVcpuState := by
  unfold vgicMaintenance at h
  unfold maintained
  split at h
  · rename_i h1
    rw [if_pos h1]
    exact .inl ⟨rfl, (congrArg Core.toVcpuState (Except.ok.inj h)).symm⟩
  · rename_i h1
    rw [if_neg h1]
    split at h
    · rename_i h2
      rw [if_pos h2]
      exact .inl ⟨rfl, (congrArg Core.toVcpuState (Except.ok.inj h)).symm⟩
    · rename_i h2
      rw [if_neg h2]
      split at h
      · rename_i h3
        rw [if_pos h3]
        split at h
        · rename_i i hi
          rw [hi]
          split at h
          · rename_i hn
            exact .inl ⟨by simp [hn], raise_vcpus h⟩
          · rename_i hn
            obtain ⟨s1, h4, h⟩ := bind_eq_ok.mp h
            exact .inr ⟨i, s1, by simp [Nat.lt_of_not_le hn], Nat.lt_of_not_le hn, h4, raise_vcpus h⟩
        · rename_i hi
          rw [hi]
          exact .inl ⟨rfl, raise_vcpus h⟩
      · rename_i h3
        rw [if_neg h3]
        exact .inl ⟨rfl, raise_vcpus h⟩

lemma clearEoi_view {i : Nat} (hi : i < cfg.gicVcpuNumListRegs) (h : s.clearEoi i = .ok s') :
    s'.view cfg v =
      { s.view cfg v with
        lr := if s.armHSCurVCPU = some v then update (s.view cfg v).lr i ((s.view cfg v).lr i).clearEOIIRQEN
          else (s.view cfg v).lr } := by
  obtain ⟨u, -, h⟩ := bind_eq_ok.mp h
  have hs := VcpuState.setGicLr_view (v := v) (s := s.toVcpuState) hi (s.hw.gic.lr i).clearEOIIRQEN
  have e : (if s.armHSCurVCPU = some v then
        update (s.view cfg v).lr i (s.hw.gic.lr i).clearEOIIRQEN else (s.view cfg v).lr) =
      if s.armHSCurVCPU = some v then
        update (s.view cfg v).lr i ((s.view cfg v).lr i).clearEOIIRQEN else (s.view cfg v).lr := by
    split
    · rename_i hc
      rw [VcpuState.view_cur hc]
      unfold Bank.loaded
      dsimp only
      rw [if_pos hi]
    · rfl
  rw [e] at hs
  split at h
  · rename_i cur hc
    obtain rfl := Except.ok.inj h
    have hc : s.armHSCurVCPU = some cur := hc
    refine (VcpuState.objectLr_view (s := { s.toVcpuState with hw := s.hw.setGicLr i _ }) hi _).trans ?_
    rw [if_neg fun e => e.2 (hc.trans (congrArg some e.1)), hs]
  · obtain rfl := Except.ok.inj h
    exact hs

/-- A list register that is injected into exists. -/
lemma decode_injectIRQ {q : Request} {i : Nat} {virq : Virq}
    (h : s.decodeARMVCPUInvocation cfg v q = .ok (.injectIRQ i virq)) : i < cfg.gicVcpuNumListRegs := by
  unfold decodeARMVCPUInvocation at h
  split at h
  · unfold decodeVCPUSetTCB at h
    split at h <;> cases h
  · unfold decodeVCPUReadReg at h
    split at h
    · obtain ⟨r, -, h⟩ := bind_eq_ok.mp h
      cases h
    · cases h
  · unfold decodeVCPUWriteReg at h
    split at h
    · obtain ⟨r, -, h⟩ := bind_eq_ok.mp h
      cases h
    · cases h
  · unfold decodeVCPUInjectIRQ at h
    split at h
    · obtain ⟨-, h⟩ := refuseIf_bind.mp h
      obtain ⟨-, h⟩ := refuseIf_bind.mp h
      obtain ⟨-, h⟩ := refuseIf_bind.mp h
      obtain ⟨hi, h⟩ := refuseIf_bind.mp h
      obtain ⟨-, h⟩ := refuseIf_bind.mp h
      injection h with h
      injection h with h
      exact h ▸ Nat.lt_of_not_le hi
    · cases h
  · unfold decodeVCPUAckVPPI at h
    split at h
    · obtain ⟨-, h⟩ := refuseIf_bind.mp h
      obtain ⟨-, h⟩ := refuseIf_bind.mp h
      cases h
    · cases h
  · cases h

lemma invokeVCPUInjectIRQ_view {i : Nat} (hi : i < cfg.gicVcpuNumListRegs) (virq : Virq) :
    (s.invokeVCPUInjectIRQ w i virq).view cfg v =
      { s.view cfg v with
        lr := if w = v then update (s.view cfg v).lr i virq else (s.view cfg v).lr } := by
  unfold invokeVCPUInjectIRQ
  split
  · rename_i hc
    refine (VcpuState.setGicLr_view hi virq).trans ?_
    rw [hc]
    by_cases hv : w = v
    · rw [if_pos hv, if_pos (congrArg some hv)]
    · rw [if_neg hv, if_neg fun e => hv (Option.some.inj e)]
  · rename_i hc
    refine (VcpuState.objectLr_view hi virq).trans ?_
    by_cases hv : w = v
    · rw [if_pos hv, if_pos ⟨hv, fun e => hc (e.trans (congrArg some hv.symm))⟩]
    · rw [if_neg hv, if_neg fun e => hv e.1]

/-- A binding. -/
lemma bindVCPUTCB_view : ((s.bindVCPUTCB cfg w t).view cfg v).Same cfg (s.view cfg v) := by
  have e : VcpuState.view cfg { s.toVcpuState with
      vcpu := update s.vcpu w { s.vcpu w with vcpuTCB := some t } } v = s.view cfg v :=
    (VcpuState.onVcpu_agree (s := s.toVcpuState) (f := fun b => { b with vcpu.vcpuTCB := some t })
      (fun _ => rfl) (fun _ => rfl) (fun _ => rfl)).view
  unfold bindVCPUTCB
  dsimp only
  split
  · exact (VcpuState.vcpuSwitch_view _).trans (.of_eq e)
  · exact .of_eq e

/-- The virtual CPU is not loaded, or is not one of those that change their threads. -/
lemma associateVCPUTCB_view (hs : s.associateVCPUTCB cfg w t = .ok s')
    (hv : s.armHSCurVCPU = some v → ¬ (w = v ∨ s.tcbVCPU t = some v)) : (s'.view cfg v).Same cfg (s.view cfg v) := by
  obtain ⟨s1, h1, hs⟩ := bind_eq_ok.mp hs
  obtain ⟨s2, h2, hs⟩ := bind_eq_ok.mp hs
  obtain rfl := Except.ok.inj hs
  refine bindVCPUTCB_view.trans (.of_eq ?_)
  refine (vcpuFinalise_view h2 fun hc e => ?_).trans (archPrepareThreadDelete_view h1 fun hc e => hv hc (.inr e))
  exact hv (archPrepareThreadDelete_cur h1 hc) (.inl e)

/-- What an invocation does to the registers of a virtual CPU. -/
lemma performVCPUInvocation_view {i : VcpuInvocation} {x : Option Word} (hi : s.Accepts cfg w i)
    (hd : ¬ Detaches v ((p, s), .invoke w i)) (hs : s.performVCPUInvocation cfg w i = .ok (s', x)) :
    (s'.view cfg v).Same cfg (effect cfg v ((p, s), .invoke w i) (s.view cfg v)) := by
  have e0 : (s.setThreadState cfg s.ksCurThread .restart).view cfg v = s.view cfg v := setThreadState_view
  unfold performVCPUInvocation at hs
  cases i with
  | setTCB t =>
    obtain ⟨s1, h1, hs⟩ := bind_eq_ok.mp hs
    obtain rfl := (Prod.ext_iff.mp (Except.ok.inj hs)).1
    refine (associateVCPUTCB_view h1 fun hc hv => hd ?_).trans (.of_eq e0)
    obtain ⟨a, e, -⟩ := setThreadState_cases cfg s s.ksCurThread .restart
    rw [e] at hc hv
    exact ⟨hc, hv⟩
  | injectIRQ index virq =>
    obtain rfl := (Prod.ext_iff.mp (Except.ok.inj hs)).1
    obtain ⟨q, hq⟩ := hi.2.1
    have e := invokeVCPUInjectIRQ_view (s := s.setThreadState cfg s.ksCurThread .restart) (v := v) (w := w)
      (decode_injectIRQ hq) virq
    rw [e0] at e
    exact .of_eq e
  | readReg field =>
    obtain rfl := (Prod.ext_iff.mp (Except.ok.inj hs)).1
    exact .of_eq (setThreadState_view.trans e0)
  | writeReg field value =>
    obtain rfl := (Prod.ext_iff.mp (Except.ok.inj hs)).1
    have hf : VcpuState.SameIface (((s.setThreadState cfg s.ksCurThread .restart).writeVCPUReg w field
      value).view cfg v)
        (s.view cfg v) := e0 ▸ VcpuState.writeVCPUReg_iface value
    refine ⟨fun r hr => ?_, hf.lr, hf.apr, hf.vmcr⟩
    have h := VcpuState.writeVCPUReg_regs (s := (s.setThreadState cfg s.ksCurThread .restart).toVcpuState)
      (w := w) (v := v) (r := field) value hr.1
    rw [← VcpuState.view_regs cfg, ← VcpuState.view_regs cfg, e0] at h
    exact h
  | ackVPPI =>
    obtain rfl := (Prod.ext_iff.mp (Except.ok.inj hs)).1
    refine .of_eq (Eq.trans ?_ e0)
    exact (VcpuState.onVcpu_agree (f := fun b => { b with vcpu.vppiMasked := false })
      (fun _ => rfl) (fun _ => rfl) (fun _ => rfl)).view

/-! ## Scheduling -/

lemma chooseThread_view (o : Option TcbPtr) : ((s.chooseThread cfg o).view cfg v).Same cfg (s.view cfg v) := by
  cases o with
  | some t | none => exact VcpuState.vcpuSwitch_view _

lemma scheduleChooseNewThread_view (c : Choice) :
    ((s.scheduleChooseNewThread cfg c).view cfg v).Same cfg (s.view cfg v) := by
  unfold scheduleChooseNewThread
  split
  · exact (chooseThread_view _).trans (.of_eq VcpuState.vcpuFlush_view)
  · exact chooseThread_view _

lemma schedule_view (c : Choice) : ((s.schedule cfg c).view cfg v).Same cfg (s.view cfg v) := by
  have hd : (s.checkDomainTime cfg c).toVcpuState = s.toVcpuState := by
    unfold checkDomainTime
    split <;> rfl
  rw [← hd]
  unfold schedule
  cases ha : (s.checkDomainTime cfg c).ksSchedulerAction with
  | resumeCurrentThread =>
    simp only [ha]
    exact .refl _
  | chooseNewThread =>
    simp only [ha]
    exact scheduleChooseNewThread_view c
  | switchTo candidate =>
    simp only [ha]
    split
    · exact scheduleChooseNewThread_view c
    · exact VcpuState.vcpuSwitch_view _

lemma activateThread_vcpus (h : s.activateThread cfg = .ok s') : s'.toVcpuState = s.toVcpuState := by
  unfold activateThread at h
  split at h
  · exact (congrArg Core.toVcpuState (Except.ok.inj h)).symm
  · obtain rfl := Except.ok.inj h
    exact setThreadState_vcpus
  · exact (congrArg Core.toVcpuState (Except.ok.inj h)).symm
  · cases h

lemma prepareSetDomain_view (dom : Nat) : (s.prepareSetDomain cfg t dom).view cfg v = s.view cfg v := by
  unfold prepareSetDomain onVcpus VcpuState.vcpuFlushIfCurrent
  split
  · dsimp only
    split
    · exact VcpuState.vcpuFlush_view
    · rfl
  · rfl

lemma possibleSwitchTo_vcpus : (s.possibleSwitchTo t).toVcpuState = s.toVcpuState := by
  unfold possibleSwitchTo
  split
  · rfl
  · split <;> rfl

lemma setDomain_vcpus (dom : Nat) : (s.setDomain t dom).toVcpuState = s.toVcpuState := by
  unfold setDomain
  dsimp only
  split <;> rfl

lemma deleteThread_view (hs : s.deleteThread cfg t = .ok s')
    (hv : s.armHSCurVCPU = some v → s.tcbVCPU t ≠ some v) : s'.view cfg v = s.view cfg v := by
  obtain ⟨s1, h1, hs⟩ := bind_eq_ok.mp hs
  obtain rfl := Except.ok.inj hs
  refine (archPrepareThreadDelete_view h1 fun hc => ?_).trans setThreadState_view
  obtain ⟨a, e, -⟩ := setThreadState_cases cfg s t .inactive
  rw [e] at hc ⊢
  exact hv hc

lemma deleteVcpu_view (hs : s.deleteVcpu w = .ok s') (hv : w ≠ v) : s'.view cfg v = s.view cfg v := by
  obtain ⟨s1, h1, hs⟩ := bind_eq_ok.mp hs
  obtain rfl := Except.ok.inj hs
  have e : s1.view cfg v = s.view cfg v := vcpuFinalise_view h1 fun _ => hv
  exact e

lemma createVcpu_view (hv : w ≠ v) : (s.createVcpu w).view cfg v = s.view cfg v := by
  have e : (s.createVcpu w).vcpu v = s.vcpu v := update_of_ne (Ne.symm hv) _ _
  have hh : (s.createVcpu w).hw = s.hw := rfl
  unfold VcpuState.view
  rw [e, hh]
  rfl

/-- A step of the guest of the active virtual CPU, on a list register that has the type `ty`. -/
lemma guestLr_view {i : Nat} (hi : i < cfg.gicVcpuNumListRegs) (ty : VirqType) :
    VcpuState.view cfg { s.toVcpuState with hw := s.hw.setGicLr i { s.hw.gic.lr i with virqType := ty } } v =
      { s.view cfg v with
        lr := if s.armHSCurVCPU = some v then
            update (s.view cfg v).lr i { (s.view cfg v).lr i with virqType := ty }
          else (s.view cfg v).lr } := by
  rw [VcpuState.setGicLr_view hi]
  split
  · rename_i hc
    have e : (s.view cfg v).lr i = s.hw.gic.lr i := by
      rw [VcpuState.view_cur hc]
      exact if_pos hi
    rw [e]
  · rfl

lemma guestApr_view (x : BitVec 32) :
    VcpuState.view cfg { s.toVcpuState with hw.gic.apr := x } v =
      { s.view cfg v with apr := (if s.armHSCurVCPU = some v then some x else none).getD (s.view cfg v).apr } := by
  by_cases hc : s.armHSCurVCPU = some v
  · rw [if_pos hc, VcpuState.view_cur hc, VcpuState.view_cur (s := { s.toVcpuState with hw.gic.apr := x }) hc]
    rfl
  · rw [if_neg hc, VcpuState.view_of_ne hc, VcpuState.view_of_ne (s := { s.toVcpuState with hw.gic.apr := x }) hc]
    rfl

lemma guestVmcr_view (x : BitVec 32) :
    VcpuState.view cfg { s.toVcpuState with hw.gic.vmcr := x } v =
      { s.view cfg v with vmcr := (if s.armHSCurVCPU = some v then some x else none).getD (s.view cfg v).vmcr } := by
  by_cases hc : s.armHSCurVCPU = some v
  · rw [if_pos hc, VcpuState.view_cur hc, VcpuState.view_cur (s := { s.toVcpuState with hw.gic.vmcr := x }) hc]
    rfl
  · rw [if_neg hc, VcpuState.view_of_ne hc, VcpuState.view_of_ne (s := { s.toVcpuState with hw.gic.vmcr := x }) hc]
    rfl

/-- Every step changes a virtual CPU by its effect. -/
lemma step_view (hx : s.vcpuExists v = true) (hd : ¬ Detaches v ((p, s), a)) (st : Step cfg p s a p' s') :
    (s'.view cfg v).Same cfg (effect cfg v ((p, s), a) (s.view cfg v)) := by
  cases st with
  | @guestReg _ r x ha hr =>
    have hf := VcpuState.setReg_iface cfg s.toVcpuState v r x
    refine ⟨fun q _ => ?_, hf.lr, hf.apr, hf.vmcr⟩
    have h := VcpuState.guestReg_regs (v := v) (r := r) (q := q) ha x
    rw [← VcpuState.view_regs cfg, ← VcpuState.view_regs cfg] at h
    exact h
  | guestAck ha hi hp => exact .of_eq (guestLr_view hi .active)
  | guestEoi ha hi hp => exact .of_eq (guestLr_view hi .invalid)
  | @guestApr _ x => exact .of_eq (guestApr_view x)
  | @guestVmcr _ x => exact .of_eq (guestVmcr_view x)
  | @nativeTimer _ r x ha hr =>
    have hf := VcpuState.setReg_iface cfg s.toVcpuState v r x
    refine ⟨fun q _ => ?_, hf.lr, hf.apr, hf.vmcr⟩
    show q.cut ((VcpuState.view cfg (s.setReg r x) v).regs q) = q.cut ((s.view cfg v).regs q)
    rw [VcpuState.view_regs, VcpuState.view_regs]
    obtain e | ⟨hi, e, -⟩ := VcpuState.readVCPUReg_setReg (s := s.toVcpuState) (v := v) (r := r) (q := q) x
    · rw [e]
    · -- the timer is saved while the virtual CPU is not active
      refine absurd ⟨?_, ha⟩ hi.2
      obtain rfl | rfl := hr <;> exact e ▸ rfl
  | @hardwareIsr _ _ x =>
    have hf := VcpuState.setReg_iface cfg s.toVcpuState v .isr x
    refine ⟨fun q hq => ?_, hf.lr, hf.apr, hf.vmcr⟩
    show q.cut ((VcpuState.view cfg (s.setReg .isr x) v).regs q) = q.cut ((s.view cfg v).regs q)
    rw [VcpuState.view_regs, VcpuState.view_regs]
    obtain e | ⟨-, e, -⟩ := VcpuState.readVCPUReg_setReg (s := s.toVcpuState) (v := v) (r := .isr) (q := q) x
    · rw [e]
    · exact absurd e.symm hq.1
  | tick => exact .of_eq (VcpuState.Agree.view ⟨rfl, rfl, rfl, fun _ => rfl⟩)
  | enterInterrupt | enterWork | preempt | finish | setReady | otherInterrupt | rescheduleRequired | createThread =>
    exact .refl _
  | enterDeletion | wake | timeout | setThreadState => exact .of_eq setThreadState_view
  | deleteThread ht hs => exact .of_eq (deleteThread_view hs fun hc e => hd ⟨hc, e⟩)
  | deleteVcpu hv hs => exact .of_eq (deleteVcpu_view hs hd)
  | vppiEvent _ hs => exact .of_eq (vppiEvent_view hs)
  | @vgicMaintenance _ _ eisr0 eisr1 misr ts _ hs =>
    obtain ⟨hm, e⟩ | ⟨i, s1, hm, hi, h1, e⟩ := vgicMaintenance_cases hs
    · refine .of_eq ?_
      rw [e]
      unfold effect changeLr
      dsimp only
      rw [hm]
      rfl
    · refine .of_eq ?_
      rw [e, clearEoi_view hi h1]
      unfold effect changeLr
      dsimp only
      rw [hm]
      rfl
  | invoke hi _ _ hs => exact performVCPUInvocation_view hi hd hs
  | possibleSwitchTo =>
    rw [possibleSwitchTo_vcpus]
    exact .refl _
  | setDomain =>
    rw [setDomain_vcpus]
    exact .of_eq (prepareSetDomain_view _)
  | createVcpu hv =>
    refine .of_eq (createVcpu_view fun e => ?_)
    rw [e, hx] at hv
    cases hv
  | schedule _ hs =>
    rw [activateThread_vcpus hs]
    exact schedule_view _
  | fastpath => exact VcpuState.vcpuSwitch_view _

/-! ## Existence -/

end Core

/-! ## Runs -/

/-- The steps, as a transition system. -/
def VcpuStep (cfg : VcpuConfig) (x : Phase × Core) (a : Action) (y : Phase × Core) : Prop :=
  Step cfg x.1 x.2 a y.1 y.2

/-- A run goes on. -/
lemma run_step {x : Phase × Core} {h : List ((Phase × Core) × Action)} {p p' : Phase} {s s' : Core} {a : Action}
    (r : Run (VcpuStep cfg) x h (p, s)) (st : Step cfg p s a p' s') :
    Run (VcpuStep cfg) x (h ++ [((p, s), a)]) (p', s') :=
  r.tail st

variable (moves : Bool)

/-- What the runs below use of the guest's state. -/
lemma guestState_facts :
    (guestState moves).ksCurThread = 1 ∧ (guestState moves).ksIdleThread = 0 ∧
      (guestState moves).tcbExists 1 = true ∧ (guestState moves).vcpuExists 2 = true ∧
      (guestState moves).armHSVCPUActive = true := by
  cases moves <;> decide +kernel

/-- The guest stores to a register. -/
def guestWrote : Core :=
  (guestState false).onVcpus (·.setReg .ttbr0 7)

end NexsKernel.Vcpu
