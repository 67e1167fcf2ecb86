import NexsKernel.Mcs.State

/-!
# Virtual CPUs

The registers of a virtual CPU, the object that keeps them while they are not in the hardware, and the part of the
hardware that is switched between virtual CPUs (`arch/object/vcpu.h`, `armv/vcpu.h` of AArch64, `gic_v3.h`). The
hardware holds the registers of at most one virtual CPU, the one that `armHSCurVCPU` points to. While
`armHSVCPUActive` is clear, some of that virtual CPU's registers are in its object and the others still in the
hardware.
-/

namespace NexsKernel.Vcpu

open Mcs (Ptr TcbPtr Word)

abbrev VcpuPtr := Ptr

/-- `seL4_VCPUReg`. -/
inductive VCPUReg where
  | sctlr
  | cpacr
  | ttbr0
  | ttbr1
  | tcr
  | mair
  | amair
  | cidr
  | actlr
  | afsr0
  | afsr1
  | esr
  | far
  | isr
  | vbar
  | tpidrEL1
  | vmpidrEL2
  | spEL1
  | elrEL1
  | spsrEL1
  | cntvCtl
  | cntvCval
  | cntvoff
  | cntkctlEL1
  deriving DecidableEq, Repr

namespace VCPUReg

/-- `seL4_VCPURegSaveRange_start` to `seL4_VCPURegSaveRange_end`. -/
def saveRange : List VCPUReg :=
  [ttbr0, ttbr1, tcr, mair, amair, cidr, actlr, afsr0, afsr1, esr, far, isr, vbar, tpidrEL1, vmpidrEL2, spEL1, elrEL1,
    spsrEL1]

/-- The registers below `seL4_VCPUReg_Num`, by their numbers. -/
def all : List VCPUReg :=
  sctlr :: cpacr :: saveRange ++ [cntvCtl, cntvCval, cntvoff, cntkctlEL1]

/-- `vcpu_reg_saved_when_disabled`. -/
def savedWhenDisabled : VCPUReg → Bool
  | sctlr | cntvCtl | cntvCval | cntvoff | cntkctlEL1 | cpacr => true
  | _ => false

/-- The registers that the kernel reads and writes through a `uint32_t`. -/
def is32 : VCPUReg → Bool
  | cidr | afsr0 | afsr1 | esr | isr => true
  | _ => false

/-- What is left of a value that goes through the register. -/
def cut (r : VCPUReg) (x : Word) : Word :=
  if r.is32 then (x.setWidth 32).setWidth 64 else x

@[simp] lemma cut_cut (r : VCPUReg) (x : Word) : r.cut (r.cut x) = r.cut x := by
  unfold cut
  split
  · simp
  · rfl

end VCPUReg

/-- The type of a `virq_t`, with the value that the hardware has besides the three tags. -/
inductive VirqType where
  | invalid
  | pending
  | active
  | pendingActive
  deriving DecidableEq, Repr

/-- `virq_t`. -/
structure Virq where
  virqType : VirqType
  virqGroup : Nat
  virqPriority : Nat
  virqEOIIRQEN : Nat
  virqIRQ : Nat
  deriving DecidableEq, Repr

/-- Cleared memory. -/
def Virq.null : Virq where
  virqType := .invalid
  virqGroup := 0
  virqPriority := 0
  virqEOIIRQEN := 0
  virqIRQ := 0

/-- `virq_virq_pending_new`. -/
def virqPendingNew (group priority eoi irq : Nat) : Virq where
  virqType := .pending
  virqGroup := group
  virqPriority := priority
  virqEOIIRQEN := eoi
  virqIRQ := irq

/-- The `switch` of `VGICMaintenance`, which knows the three tags. -/
def Virq.clearEOIIRQEN (virq : Virq) : Virq :=
  match virq.virqType with
  | .active | .pending | .invalid => { virq with virqEOIIRQEN := 0 }
  | .pendingActive => virq

/-- `struct gicVCpuIface`, and the registers of the interface itself. -/
structure GicVCpuIface where
  hcr : BitVec 32
  vmcr : BitVec 32
  apr : BitVec 32
  lr : Nat → Virq

/-- `struct vcpu`. -/
structure VCPU where
  vcpuTCB : Option TcbPtr
  vgic : GicVCpuIface
  regs : VCPUReg → Word
  vppiMasked : Bool
  /-- `virtTimer.last_pcount`. -/
  lastPcount : Word

/-- What `HCR_EL2` is set to. -/
inductive HcrEL2 where
  | native
  | vcpu
  deriving DecidableEq, Repr

/-- The hardware. -/
structure Hardware where
  reg : VCPUReg → Word
  gic : GicVCpuIface
  hcrEL2 : HcrEL2
  /-- `CNTPCT`. -/
  cntpct : Word
  /-- The interrupt of the virtual timer is masked. -/
  vtimerMasked : Bool

/-- The configuration. -/
structure VcpuConfig where
  /-- `CONFIG_KERNEL_MCS`. -/
  mcs : Bool
  /-- `CONFIG_VTIMER_UPDATE_VOFFSET`. -/
  vtimerUpdateVoffset : Bool
  /-- `gic_vcpu_num_list_regs`. -/
  gicVcpuNumListRegs : Nat
  maxIRQ : Nat
  /-- `INTERRUPT_VTIMER_EVENT`. -/
  interruptVtimerEvent : Nat
  /-- `isIRQActive` of that interrupt, whose state the boot sets for good. -/
  vtimerIRQActive : Bool

/-- `SCTLR_EL1`. -/
def sctlrEL1 : Word := 0x30d00800 ||| 1 <<< 5 ||| 1 <<< 16 ||| 1 <<< 18

/-- `SCTLR_DEFAULT`, which is `SCTLR_EL1_NATIVE` with `CONFIG_AARCH64_USER_CACHE_ENABLE`. -/
def sctlrDefault : Word := sctlrEL1 ||| 1 <<< 2 ||| 1 <<< 12 ||| 1 <<< 26 ||| 1 <<< 15

/-- `SCTLR_EL1_VM`. -/
def sctlrEL1VM : Word := sctlrEL1 ||| 1 <<< 15 ||| 1 <<< 26

/-- `VGIC_HCR_EN`. -/
def vgicHcrEn : BitVec 32 := 1

/-- `VGIC_MISR_EOI`. -/
def vgicMisrEoi : BitVec 32 := vgicHcrEn

/-- `vcpu_init`, in cleared memory. -/
def VCPU.init : VCPU where
  vcpuTCB := none
  vgic := { hcr := vgicHcrEn, vmcr := 0, apr := 0, lr := fun _ => .null }
  regs := Function.update (fun _ => 0) .sctlr sctlrEL1VM
  vppiMasked := false
  lastPcount := 0

namespace Hardware

variable (hw : Hardware)

/-- `vcpu_hw_read_reg`. -/
def readReg (r : VCPUReg) : Word :=
  r.cut (hw.reg r)

/-- `vcpu_hw_write_reg`. -/
def writeReg (r : VCPUReg) (x : Word) : Hardware :=
  -- `ISR` is read-only
  if r = .isr then hw else { hw with reg := Function.update hw.reg r (r.cut x) }

/-- `enableFpuEL01`. -/
def enableFpuEL01 : Hardware :=
  { hw with reg := Function.update hw.reg .cpacr (hw.reg .cpacr ||| 3 <<< 20) }

/-- `set_gic_vcpu_ctrl_hcr`. -/
def setGicHcr (hcr : BitVec 32) : Hardware :=
  { hw with gic := { hw.gic with hcr } }

/-- `set_gic_vcpu_ctrl_lr`. -/
def setGicLr (i : Nat) (virq : Virq) : Hardware :=
  { hw with gic := { hw.gic with lr := Function.update hw.gic.lr i virq } }

/-- `maskInterrupt` of the virtual timer's interrupt. -/
def maskVtimer (disable : Bool) : Hardware :=
  { hw with vtimerMasked := disable }

lemma readReg_writeReg_of_ne {r r' : VCPUReg} (h : r' ≠ r) (x : Word) : (hw.writeReg r x).readReg r' =
    hw.readReg r' := by
  unfold writeReg
  split
  · rfl
  · exact congrArg r'.cut (Function.update_of_ne h _ _)

lemma readReg_writeReg {r : VCPUReg} (h : r ≠ .isr) (x : Word) : (hw.writeReg r x).readReg r = r.cut x := by
  unfold writeReg readReg
  rw [if_neg h]
  dsimp only
  rw [Function.update_self, VCPUReg.cut_cut]

@[simp] lemma gic_writeReg (r : VCPUReg) (x : Word) : (hw.writeReg r x).gic = hw.gic := by
  unfold writeReg
  split <;> rfl

end Hardware

/-- A virtual CPU and the hardware, which the functions that are given a `vcpu_t *` work on. -/
structure Bank where
  vcpu : VCPU
  hw : Hardware

/-- The virtual CPUs and the hardware that they share. -/
structure VcpuState where
  vcpu : VcpuPtr → VCPU
  hw : Hardware
  armHSCurVCPU : Option VcpuPtr
  armHSVCPUActive : Bool

end NexsKernel.Vcpu
