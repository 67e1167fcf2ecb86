import NexsKernel.Vcpu.Switch

/-!
# What a virtual CPU holds

The registers, list registers and interface registers of a virtual CPU as the kernel reports them, wherever they are.
Moving them between the hardware and the object changes nothing, up to the width of a register and to `ISR`, which
the hardware alone decides.
-/

namespace NexsKernel.Vcpu

open Mcs (Word)

/-- The state of a virtual CPU. -/
@[ext]
structure View where
  regs : VCPUReg → Word
  lr : Nat → Virq
  apr : BitVec 32
  vmcr : BitVec 32

/-- The register stays in its virtual CPU: `ISR` does not, and the offset of the virtual timer only when the kernel
does not move it. -/
def Owned (cfg : VcpuConfig) (r : VCPUReg) : Prop :=
  r ≠ .isr ∧ (r = .cntvoff → cfg.vtimerUpdateVoffset = false)

/-- Two states of a virtual CPU that agree as far as the registers reach. -/
structure View.Same (cfg : VcpuConfig) (x y : View) : Prop where
  regs : ∀ r, Owned cfg r → r.cut (x.regs r) = r.cut (y.regs r)
  lr : x.lr = y.lr
  apr : x.apr = y.apr
  vmcr : x.vmcr = y.vmcr

namespace View.Same

variable {cfg : VcpuConfig} {x y z : View}

lemma refl (x : View) : x.Same cfg x :=
  ⟨fun _ _ => rfl, rfl, rfl, rfl⟩

lemma of_eq (h : x = y) : x.Same cfg y :=
  h ▸ refl x

lemma trans (h : x.Same cfg y) (h' : y.Same cfg z) : x.Same cfg z where
  regs r hr := (h.regs r hr).trans (h'.regs r hr)
  lr := h.lr.trans h'.lr
  apr := h.apr.trans h'.apr
  vmcr := h.vmcr.trans h'.vmcr

end View.Same

namespace Bank

variable (cfg : VcpuConfig) (b : Bank)

/-- The state of a virtual CPU that is not loaded. -/
def stored : View where
  regs := b.vcpu.regs
  lr := b.vcpu.vgic.lr
  apr := b.vcpu.vgic.apr
  vmcr := b.vcpu.vgic.vmcr

/-- The state of the virtual CPU that is loaded. -/
def loaded (active : Bool) : View where
  regs r := if r.savedWhenDisabled ∧ active = false then b.vcpu.regs r else b.hw.readReg r
  lr i := if i < cfg.gicVcpuNumListRegs then b.hw.gic.lr i else b.vcpu.vgic.lr i
  apr := b.hw.gic.apr
  vmcr := b.hw.gic.vmcr

/-! ## The loops over the list registers -/

lemma foldl_saveLr (l : List Nat) :
    l.foldl saveLr b = { b with vcpu.vgic.lr := fun i => if i ∈ l then b.hw.gic.lr i else b.vcpu.vgic.lr i } := by
  induction l generalizing b with
  | nil => rfl
  | cons j l ih =>
    rw [List.foldl_cons, ih]
    unfold saveLr
    dsimp only
    congr 3
    funext i
    by_cases hi : i ∈ l
    · rw [if_pos hi, if_pos (List.mem_cons_of_mem _ hi)]
    · rw [if_neg hi]
      by_cases hj : i = j
      · subst hj
        rw [if_pos List.mem_cons_self, Function.update_self]
      · rw [if_neg (by simp [hi, hj]), Function.update_of_ne hj]

lemma foldl_restoreLr (l : List Nat) :
    l.foldl restoreLr b = { b with hw.gic.lr := fun i => if i ∈ l then b.vcpu.vgic.lr i else b.hw.gic.lr i } := by
  induction l generalizing b with
  | nil => rfl
  | cons j l ih =>
    rw [List.foldl_cons, ih]
    unfold restoreLr Hardware.setGicLr
    dsimp only
    congr 3
    funext i
    by_cases hi : i ∈ l
    · rw [if_pos hi, if_pos (List.mem_cons_of_mem _ hi)]
    · rw [if_neg hi]
      by_cases hj : i = j
      · subst hj
        rw [if_pos List.mem_cons_self, Function.update_self]
      · rw [if_neg (by simp [hi, hj]), Function.update_of_ne hj]

/-! ## The moves -/

/-- Saving stores what is loaded. -/
lemma vcpuSave_stored (active : Bool) : (b.vcpuSave cfg active).stored = b.loaded cfg active := by
  unfold vcpuSave saveActive saveVirtTimer
  ext r
  · cases cfg.vtimerUpdateVoffset <;> cases active <;> simp only [foldl_saveLr] <;> cases r <;> rfl
  · cases cfg.vtimerUpdateVoffset <;> cases active <;> simp only [foldl_saveLr, List.mem_range] <;> rfl
  · cases cfg.vtimerUpdateVoffset <;> cases active <;> simp only [foldl_saveLr] <;> rfl
  · cases cfg.vtimerUpdateVoffset <;> cases active <;> simp only [foldl_saveLr] <;> rfl

lemma vcpuRestore_reg {r : VCPUReg} (hr : Owned cfg r) : (b.vcpuRestore cfg).hw.reg r = r.cut (b.vcpu.regs r) := by
  unfold vcpuRestore vcpuEnable restoreVirtTimer
  simp only [foldl_restoreLr]
  cases r with
  | isr => exact absurd rfl hr.1
  | cntvoff =>
    rw [hr.2 rfl]
    cases cfg.vtimerIRQActive <;> rfl
  | _ => cases cfg.vtimerUpdateVoffset <;> cases cfg.vtimerIRQActive <;> rfl

lemma vcpuEnable_reg {r : VCPUReg} (hr : Owned cfg r) (hs : r.savedWhenDisabled = true) :
    (b.vcpuEnable cfg).hw.reg r = r.cut (b.vcpu.regs r) := by
  unfold vcpuEnable restoreVirtTimer
  cases r with
  | cntvoff =>
    rw [hr.2 rfl]
    cases cfg.vtimerIRQActive <;> rfl
  | sctlr | cntvCtl | cntvCval | cntkctlEL1 | cpacr =>
    cases cfg.vtimerUpdateVoffset <;> cases cfg.vtimerIRQActive <;> rfl
  | _ => cases hs

lemma vcpuEnable_reg_of_not {r : VCPUReg} (hs : r.savedWhenDisabled = false) :
    (b.vcpuEnable cfg).hw.reg r = b.hw.reg r := by
  unfold vcpuEnable restoreVirtTimer
  cases r with
  | sctlr | cntvCtl | cntvCval | cntkctlEL1 | cpacr | cntvoff => cases hs
  | _ => cases cfg.vtimerUpdateVoffset <;> cases cfg.vtimerIRQActive <;> rfl

lemma vcpuRestore_lr {i : Nat} (hi : i < cfg.gicVcpuNumListRegs) :
    (b.vcpuRestore cfg).hw.gic.lr i = b.vcpu.vgic.lr i := by
  have e : (b.vcpuRestore cfg).hw.gic.lr i =
      if i ∈ List.range cfg.gicVcpuNumListRegs then b.vcpu.vgic.lr i else b.hw.gic.lr i := by
    unfold vcpuRestore vcpuEnable restoreVirtTimer
    simp only [foldl_restoreLr]
    cases cfg.vtimerUpdateVoffset <;> cases cfg.vtimerIRQActive <;> rfl
  rw [e, if_pos (List.mem_range.mpr hi)]

lemma vcpuRestore_vgic : (b.vcpuRestore cfg).vcpu.vgic = b.vcpu.vgic := by
  unfold vcpuRestore vcpuEnable restoreVirtTimer
  simp only [foldl_restoreLr]
  cases cfg.vtimerUpdateVoffset <;> cases cfg.vtimerIRQActive <;> rfl

/-- Restoring loads what is stored. -/
lemma vcpuRestore_loaded : ((b.vcpuRestore cfg).loaded cfg true).Same cfg b.stored where
  regs r hr := by
    have e : ((b.vcpuRestore cfg).loaded cfg true).regs r = r.cut ((b.vcpuRestore cfg).hw.reg r) := if_neg (by simp)
    rw [e, vcpuRestore_reg cfg b hr]
    simp only [VCPUReg.cut_cut]
    rfl
  lr := by
    funext i
    unfold loaded
    dsimp only
    split
    · rename_i hi
      exact vcpuRestore_lr cfg b hi
    · rw [vcpuRestore_vgic]
      rfl
  apr := by
    unfold loaded vcpuRestore vcpuEnable restoreVirtTimer
    simp only [foldl_restoreLr]
    cases cfg.vtimerUpdateVoffset <;> cases cfg.vtimerIRQActive <;> rfl
  vmcr := by
    unfold loaded vcpuRestore vcpuEnable restoreVirtTimer
    simp only [foldl_restoreLr]
    cases cfg.vtimerUpdateVoffset <;> cases cfg.vtimerIRQActive <;> rfl

/-- Enabling loads the part that disabling has stored. -/
lemma vcpuEnable_loaded : ((b.vcpuEnable cfg).loaded cfg true).Same cfg (b.loaded cfg false) where
  regs r hr := by
    have e : ((b.vcpuEnable cfg).loaded cfg true).regs r = r.cut ((b.vcpuEnable cfg).hw.reg r) := if_neg (by simp)
    rw [e]
    cases hs : r.savedWhenDisabled with
    | true =>
      rw [vcpuEnable_reg cfg b hr hs]
      have e' : (b.loaded cfg false).regs r = b.vcpu.regs r := if_pos ⟨hs, rfl⟩
      rw [e']
      simp only [VCPUReg.cut_cut]
    | false =>
      rw [vcpuEnable_reg_of_not cfg b hs]
      have e' : (b.loaded cfg false).regs r = b.hw.readReg r := if_neg (by simp [hs])
      rw [e']
      rfl
  lr := by
    unfold loaded vcpuEnable restoreVirtTimer
    cases cfg.vtimerUpdateVoffset <;> cases cfg.vtimerIRQActive <;> rfl
  apr := by
    unfold loaded vcpuEnable restoreVirtTimer
    cases cfg.vtimerUpdateVoffset <;> cases cfg.vtimerIRQActive <;> rfl
  vmcr := by
    unfold loaded vcpuEnable restoreVirtTimer
    cases cfg.vtimerUpdateVoffset <;> cases cfg.vtimerIRQActive <;> rfl

/-- Disabling stores a part of what is loaded. -/
lemma vcpuDisable_loaded : (b.vcpuDisable cfg).loaded cfg false = b.loaded cfg true := by
  unfold loaded vcpuDisable saveVirtTimer
  cases cfg.vtimerUpdateVoffset <;> congr 1 <;> funext r <;> cases r <;> rfl

end Bank

namespace VcpuState

variable (cfg : VcpuConfig) (s : VcpuState)

/-- The state of a virtual CPU, as the kernel reports it. -/
def view (v : VcpuPtr) : View :=
  if s.armHSCurVCPU = some v then
    Bank.loaded cfg ⟨s.vcpu v, s.hw⟩ s.armHSVCPUActive
  else
    Bank.stored ⟨s.vcpu v, s.hw⟩

variable {cfg s} {v w : VcpuPtr}

lemma view_cur (h : s.armHSCurVCPU = some v) :
    s.view cfg v = Bank.loaded cfg ⟨s.vcpu v, s.hw⟩ s.armHSVCPUActive :=
  if_pos h

lemma view_of_ne (h : s.armHSCurVCPU ≠ some v) : s.view cfg v = Bank.stored ⟨s.vcpu v, s.hw⟩ :=
  if_neg h

/-- `VCPUReadReg` reports a register of the view. -/
lemma readVCPUReg_eq (r : VCPUReg) : s.readVCPUReg v r = (s.view cfg v).regs r := by
  unfold readVCPUReg view
  split <;> rfl

/-- The view of a virtual CPU that is not loaded depends on its object alone. -/
lemma view_congr {s' : VcpuState} (h : s.armHSCurVCPU ≠ some v) (h' : s'.armHSCurVCPU ≠ some v)
    (e : s'.vcpu v = s.vcpu v) : s'.view cfg v = s.view cfg v := by
  rw [view_of_ne h, view_of_ne h', e]
  rfl

lemma onVcpu_vcpu (f : Bank → Bank) : (s.onVcpu v f).vcpu v = (f ⟨s.vcpu v, s.hw⟩).vcpu :=
  Function.update_self ..

lemma onVcpu_vcpu_of_ne (f : Bank → Bank) (h : w ≠ v) : (s.onVcpu v f).vcpu w = s.vcpu w :=
  Function.update_of_ne h _ _

/-! ## Switching -/

/-- Once the current virtual CPU is saved, all objects are up to date. -/
lemma saveCurrent_stored : Bank.stored ⟨(s.saveCurrent cfg).vcpu v, (s.saveCurrent cfg).hw⟩ = s.view cfg v := by
  unfold saveCurrent
  split
  · rename_i cur hc
    by_cases hv : v = cur
    · subst hv
      rw [view_cur hc, onVcpu_vcpu]
      exact Bank.vcpuSave_stored cfg ⟨s.vcpu v, s.hw⟩ s.armHSVCPUActive
    · rw [onVcpu_vcpu_of_ne _ hv, view_of_ne fun e => hv (Option.some.inj (hc.symm.trans e)).symm]
      rfl
  · rename_i hc
    rw [view_of_ne (by simp [hc])]

/-- Switching to a virtual CPU that is not loaded. -/
lemma view_load (new : VcpuPtr) :
    View.Same cfg (view cfg { (s.saveCurrent cfg).onVcpu new (·.vcpuRestore cfg) with
      armHSCurVCPU := some new, armHSVCPUActive := true } v) (s.view cfg v) := by
  rw [← saveCurrent_stored (s := s)]
  by_cases hv : v = new
  · subst hv
    rw [view_cur rfl]
    dsimp only
    rw [onVcpu_vcpu]
    exact Bank.vcpuRestore_loaded cfg _
  · rw [view_of_ne fun e => hv (Option.some.inj e).symm]
    dsimp only
    rw [onVcpu_vcpu_of_ne _ hv]
    exact .refl _

/-- No switch changes what a virtual CPU holds. -/
lemma vcpuSwitch_view (new : Option VcpuPtr) : ((s.vcpuSwitch cfg new).view cfg v).Same cfg (s.view cfg v) := by
  unfold vcpuSwitch
  split
  · rename_i hne
    cases new with
    | some new => exact view_load new
    | none =>
      dsimp only
      split
      · rename_i ha
        cases hc : s.armHSCurVCPU with
        | none => exact absurd hc hne
        | some cur =>
          dsimp only
          by_cases hv : v = cur
          · subst hv
            rw [view_cur hc, view_cur (s := { s.onVcpu v _ with armHSVCPUActive := false }) hc]
            dsimp only
            rw [onVcpu_vcpu, ha]
            exact .of_eq (Bank.vcpuDisable_loaded cfg _)
          · have hn : s.armHSCurVCPU ≠ some v := fun e => hv (Option.some.inj (hc.symm.trans e)).symm
            exact .of_eq (view_congr hn hn (onVcpu_vcpu_of_ne _ hv))
      · exact .refl _
  · rename_i hc
    have hc := not_ne_iff.mp hc
    cases new with
    | none => exact .refl _
    | some new =>
      dsimp only
      split
      · exact .refl _
      · rename_i ha
        have ha := Bool.eq_false_of_not_eq_true ha
        by_cases hv : v = new
        · subst hv
          rw [view_cur hc, view_cur (s := { s.onVcpu v _ with armHSVCPUActive := true }) hc]
          dsimp only
          rw [onVcpu_vcpu, ha]
          exact Bank.vcpuEnable_loaded cfg _
        · have hn : s.armHSCurVCPU ≠ some v := fun e => hv (Option.some.inj (hc.symm.trans e)).symm
          exact .of_eq (view_congr hn hn (onVcpu_vcpu_of_ne _ hv))

lemma vcpuInvalidateActive_cur : s.vcpuInvalidateActive.armHSCurVCPU = none := rfl

lemma vcpuInvalidateActive_vcpu : s.vcpuInvalidateActive.vcpu = s.vcpu := by
  unfold vcpuInvalidateActive
  split <;> rfl

lemma vcpuInvalidateActive_active : s.vcpuInvalidateActive.armHSVCPUActive = false := by
  unfold vcpuInvalidateActive
  split
  · rfl
  · rename_i ha
    exact Bool.eq_false_of_not_eq_true ha

/-- Flushing changes nothing. -/
lemma vcpuFlush_view : (s.vcpuFlush cfg).view cfg v = s.view cfg v := by
  unfold vcpuFlush
  split
  · rw [← saveCurrent_stored (s := s), view_of_ne (by simp [vcpuInvalidateActive_cur]), vcpuInvalidateActive_vcpu]
    rfl
  · rfl

end VcpuState

end NexsKernel.Vcpu
