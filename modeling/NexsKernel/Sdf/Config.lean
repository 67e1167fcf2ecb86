import Mathlib.Tactic

/-!
# The kernel configuration

`Config` of the tool (`sel4.rs`), as far as the parser of system descriptions and the builder of the CapDL spec read
it. `main.rs` makes it from the configuration of the kernel.
-/

namespace NexsKernel.Sdf

/-- `u64`. The tool is built without overflow checks. -/
abbrev Word := BitVec 64

/-- `{:x}`. -/
def hex (v : Word) : String :=
  String.ofList (Nat.toDigits 16 v.toNat)

/-- How a function of the tool fails: with an `Err`, or by a panic. -/
inductive Failure where
  | err (reason : String)
  | panicked (message : String)
  deriving DecidableEq, Repr

inductive Arch where
  | aarch64
  | riscv64
  | x86_64
  deriving DecidableEq, Repr

/-- `ObjectSizes`, in bits. -/
structure ObjectSizes where
  tcb : Nat
  endpoint : Nat
  notification : Nat
  reply : Nat
  vspace : Nat
  pageTable : Nat
  largePage : Nat
  smallPage : Nat
  vcpu : Nat
  deriving DecidableEq, Repr

/-- `riscv_pt_levels` is always `Sv39`, and `cap_address_bits` is always 64. -/
structure Config where
  arch : Arch
  hypervisor : Bool
  benchmark : Bool
  numCores : Nat
  armPaSizeBits : Option Nat
  armSmc : Option Bool
  objectSizes : ObjectSizes
  /-- On AArch64 the kernel is configured with 40 or 44 physical address bits. -/
  pa_size : arch = .aarch64 → armPaSizeBits = some 40 ∨ armPaSizeBits = some 44
  deriving Repr

lemma paSize_forty {arch : Arch} (_ : arch = .aarch64) : some 40 = some 40 ∨ some 40 = some 44 :=
  .inl rfl

lemma paSize_fortyFour {arch : Arch} (_ : arch = .aarch64) : some 44 = some 40 ∨ some 44 = some 44 :=
  .inr rfl

lemma riscv_paSize (h : Arch.riscv64 = .aarch64) : none = some 40 ∨ none = some 44 := by
  cases h

lemma x86_paSize (h : Arch.x86_64 = .aarch64) : none = some 40 ∨ none = some 44 := by
  cases h

inductive PageSize where
  | small
  | large
  deriving DecidableEq, Repr

def PageSize.bytes : PageSize → Word
  | .small => 0x1000
  | .large => 0x200000

namespace Config

variable (config : Config)

/-- `seL4_UserTop`. -/
def userTop : Word :=
  match config.arch with
  | .aarch64 =>
    if config.hypervisor then
      if config.armPaSizeBits = some 40 then 0x10000000000 else 0x100000000000
    else
      0x800000000000
  | .riscv64 => 0x3ffffff000
  | .x86_64 => 0x7ffffffff000

/-- `page_sizes`. -/
def pageSizes : List Word :=
  [PageSize.small.bytes, PageSize.large.bytes]

def pdStackTop : Word :=
  config.userTop

def pdStackBottom (stackSize : Word) : Word :=
  config.pdStackTop - stackSize

/-- The stack has the highest addresses. -/
def pdMapMaxVaddr (stackSize : Word) : Word :=
  config.pdStackBottom stackSize

def vmMapMaxVaddr : Word :=
  config.userTop

/-- The first level of a stage 2 table with 40 bits is left out. -/
def aarch64VspaceS2StartL1 : Bool :=
  config.hypervisor && config.armPaSizeBits == some 40

def numPageTableLevels : Nat :=
  match config.arch with
  | .aarch64 => 4
  | .riscv64 => 3
  | .x86_64 => 4

end Config

end NexsKernel.Sdf
