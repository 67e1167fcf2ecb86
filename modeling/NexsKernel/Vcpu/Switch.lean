import NexsKernel.Vcpu.State

/-!
# Saving, restoring and switching

`vcpu_save`, `vcpu_restore`, `vcpu_enable` and `vcpu_disable` move registers between the hardware and one object;
`vcpu_switch`, `vcpu_flush` and `vcpu_invalidate_active` decide which object that is (`arch/object/vcpu.c`,
`armv/vcpu.h`, `drivers/timer/generic_timer.c`).
-/

namespace NexsKernel.Vcpu

open Mcs (Word)

namespace Bank

variable (cfg : VcpuConfig) (b : Bank)

/-- `vcpu_read_reg`. -/
def vcpuReadReg (r : VCPUReg) : Word :=
  b.vcpu.regs r

/-- `vcpu_write_reg`. -/
def vcpuWriteReg (r : VCPUReg) (x : Word) : Bank :=
  { b with vcpu := { b.vcpu with regs := Function.update b.vcpu.regs r x } }

/-- `vcpu_save_reg`. -/
def vcpuSaveReg (r : VCPUReg) : Bank :=
  b.vcpuWriteReg r (b.hw.readReg r)

/-- `vcpu_restore_reg`. -/
def vcpuRestoreReg (r : VCPUReg) : Bank :=
  { b with hw := b.hw.writeReg r (b.vcpuReadReg r) }

/-- `vcpu_save_reg_range`, from `seL4_VCPURegSaveRange_start` to `seL4_VCPURegSaveRange_end`. -/
def vcpuSaveRegRange : Bank :=
  VCPUReg.saveRange.foldl vcpuSaveReg b

/-- `vcpu_restore_reg_range`, from `seL4_VCPURegSaveRange_start` to `seL4_VCPURegSaveRange_end`. -/
def vcpuRestoreRegRange : Bank :=
  VCPUReg.saveRange.foldl vcpuRestoreReg b

/-- `save_virt_timer`. -/
def saveVirtTimer : Bank :=
  let b := b.vcpuSaveReg .cntvCtl
  let b := { b with hw := b.hw.writeReg .cntvCtl 0 }
  let b := b.vcpuSaveReg .cntvCval
  let b := b.vcpuSaveReg .cntvoff
  let b := b.vcpuSaveReg .cntkctlEL1
  if cfg.vtimerUpdateVoffset then { b with vcpu.lastPcount := b.hw.cntpct } else b

/-- The virtual timer offset, moved by the time that has passed since it was saved. -/
def moveVoffset : Bank :=
  b.vcpuWriteReg .cntvoff (b.vcpuReadReg .cntvoff + (b.hw.cntpct - b.vcpu.lastPcount))

/-- `restore_virt_timer`. -/
def restoreVirtTimer : Bank :=
  let b := b.vcpuRestoreReg .cntvCval
  let b := b.vcpuRestoreReg .cntkctlEL1
  let b := if cfg.vtimerUpdateVoffset then b.moveVoffset else b
  let b := b.vcpuRestoreReg .cntvoff
  let b := if cfg.vtimerIRQActive then { b with hw := b.hw.maskVtimer b.vcpu.vppiMasked } else b
  b.vcpuRestoreReg .cntvCtl

/-- `vcpu_enable`. -/
def vcpuEnable : Bank :=
  let b := b.vcpuRestoreReg .sctlr
  let b := { b with hw.hcrEL2 := .vcpu }
  let b := { b with hw := b.hw.setGicHcr b.vcpu.vgic.hcr }
  let b := b.vcpuRestoreReg .cpacr
  b.restoreVirtTimer cfg

/-- The hardware after `vcpu_disable`, less what it does for the virtual CPU. -/
def native (hw : Hardware) : Hardware :=
  let hw := hw.setGicHcr 0
  let hw := hw.writeReg .sctlr sctlrDefault
  let hw := { hw with hcrEL2 := .native }
  hw.enableFpuEL01

/-- `vcpu_disable` of a virtual CPU. -/
def vcpuDisable : Bank :=
  let b := { b with vcpu.vgic.hcr := b.hw.gic.hcr }
  let b := b.vcpuSaveReg .sctlr
  let b := b.vcpuSaveReg .cpacr
  let b := { b with hw := native b.hw }
  let b := b.saveVirtTimer cfg
  { b with hw := b.hw.maskVtimer true }

/-- A round of the loop of `vcpu_save`. -/
def saveLr (b : Bank) (i : Nat) : Bank :=
  { b with vcpu.vgic.lr := Function.update b.vcpu.vgic.lr i (b.hw.gic.lr i) }

/-- A round of the loop of `vcpu_restore`. -/
def restoreLr (b : Bank) (i : Nat) : Bank :=
  { b with hw := b.hw.setGicLr i (b.vcpu.vgic.lr i) }

/-- The state that a virtual CPU that is not active has stored when it was disabled. -/
def saveActive : Bank :=
  let b := b.vcpuSaveReg .sctlr
  let b := { b with vcpu.vgic.hcr := b.hw.gic.hcr }
  b.saveVirtTimer cfg

/-- `armv_vcpu_save`. -/
def armvVcpuSave (active : Bool) : Bank :=
  let b := if active then b.vcpuSaveReg .cpacr else b
  b.vcpuSaveRegRange

/-- `vcpu_save`. -/
def vcpuSave (active : Bool) : Bank :=
  let b := if active then b.saveActive cfg else b
  let b := { b with vcpu.vgic.vmcr := b.hw.gic.vmcr }
  let b := { b with vcpu.vgic.apr := b.hw.gic.apr }
  let b := (List.range cfg.gicVcpuNumListRegs).foldl saveLr b
  b.armvVcpuSave active

/-- `vcpu_restore`. -/
def vcpuRestore : Bank :=
  let b := { b with hw := b.hw.setGicHcr 0 }
  let b := { b with hw.gic.vmcr := b.vcpu.vgic.vmcr }
  let b := { b with hw.gic.apr := b.vcpu.vgic.apr }
  let b := (List.range cfg.gicVcpuNumListRegs).foldl restoreLr b
  let b := b.vcpuRestoreRegRange
  b.vcpuEnable cfg

end Bank

namespace VcpuState

variable (cfg : VcpuConfig) (s : VcpuState)

/-- A function that is given the virtual CPU. -/
def onVcpu (v : VcpuPtr) (f : Bank → Bank) : VcpuState :=
  let b := f ⟨s.vcpu v, s.hw⟩
  { s with vcpu := Function.update s.vcpu v b.vcpu, hw := b.hw }

/-- A register of the hardware changes outside the kernel. -/
def setReg (r : VCPUReg) (x : Word) : VcpuState :=
  { s with hw.reg := Function.update s.hw.reg r x }

/-- `readVCPUReg`. -/
def readVCPUReg (v : VcpuPtr) (field : VCPUReg) : Word :=
  if s.armHSCurVCPU = some v then
    if field.savedWhenDisabled ∧ s.armHSVCPUActive = false then
      (s.vcpu v).regs field
    else
      s.hw.readReg field
  else
    (s.vcpu v).regs field

/-- `writeVCPUReg`. -/
def writeVCPUReg (v : VcpuPtr) (field : VCPUReg) (value : Word) : VcpuState :=
  if s.armHSCurVCPU = some v then
    if field.savedWhenDisabled ∧ s.armHSVCPUActive = false then
      s.onVcpu v (·.vcpuWriteReg field value)
    else
      { s with hw := s.hw.writeReg field value }
  else
    s.onVcpu v (·.vcpuWriteReg field value)

/-- `vcpu_save` of the current virtual CPU, if there is one. -/
def saveCurrent : VcpuState :=
  match s.armHSCurVCPU with
  | some cur => s.onVcpu cur (·.vcpuSave cfg s.armHSVCPUActive)
  | none => s

/-- `vcpu_switch`. -/
def vcpuSwitch (new : Option VcpuPtr) : VcpuState :=
  if s.armHSCurVCPU ≠ new then
    match new with
    | some v =>
      let s := s.saveCurrent cfg
      let s := s.onVcpu v (·.vcpuRestore cfg)
      { s with armHSCurVCPU := some v, armHSVCPUActive := true }
    | none =>
      if s.armHSVCPUActive then
        -- the registers stay loaded
        let s := match s.armHSCurVCPU with
          | some cur => s.onVcpu cur (·.vcpuDisable cfg)
          | none => { s with hw := Bank.native s.hw }
        { s with armHSVCPUActive := false }
      else
        s
  else
    match new with
    | some v =>
      if s.armHSVCPUActive then
        s
      else
        { s.onVcpu v (·.vcpuEnable cfg) with armHSVCPUActive := true }
    | none => s

/-- `vcpu_invalidate_active`. -/
def vcpuInvalidateActive : VcpuState :=
  let s := if s.armHSVCPUActive then { s with hw := Bank.native s.hw, armHSVCPUActive := false } else s
  { s with armHSCurVCPU := none }

/-- `vcpu_invalidate_active`, when the virtual CPU is the current one. -/
def invalidateIfCurrent (v : VcpuPtr) : VcpuState :=
  if s.armHSCurVCPU = some v then s.vcpuInvalidateActive else s

/-- `vcpu_flush`. -/
def vcpuFlush : VcpuState :=
  match s.armHSCurVCPU with
  | some _ => (s.saveCurrent cfg).vcpuInvalidateActive
  | none => s

/-- `vcpu_flush_if_current` of a thread with the virtual CPU. -/
def vcpuFlushIfCurrent (tcbVCPU : Option VcpuPtr) : VcpuState :=
  if tcbVCPU = s.armHSCurVCPU then s.vcpuFlush cfg else s

end VcpuState

end NexsKernel.Vcpu
