import NexsKernel.CSpace.Safety
import NexsKernel.Vspace.Walk

/-!
# Runs with address spaces

The address space of the initial thread as the boot code makes it, and the runs from there: mapping and unmapping,
copies, moves and deletions of capabilities in any order, new objects, and the switches to the address spaces of
threads. Memory that is no table and no ASID pool may become anything.

Two facts about the CSpace are premises of the steps, and hold of it in all runs: a new object is at no address of
another one, and a capability counts as final if and only if no other slot holds one to its object.
-/

namespace NexsKernel.Vspace

/-- A capability that mappings do not depend on. -/
def Plain : Cap → Prop
  | .arch (.frame ..) | .arch (.pageTable ..) | .arch (.vspace ..) | .arch (.asidPool ..) => False
  | _ => True

/-- A new object of Retype, and its table if it has one. -/
inductive Created : Cap → Option Ptr → Prop
  | frame (base : Ptr) (size : PageSize) (rights : VmRights) (dev : Bool) :
    Created (.arch (.frame asidInvalid base size 0 rights dev)) none
  | pageTable (base : Ptr) : Created (.arch (.pageTable asidInvalid base false 0)) (some base)
  | vspace (base : Ptr) : Created (.arch (.vspace asidInvalid base false)) (some base)

/-- The address of a table to which this is a capability. -/
def tableBase : Cap → Option Ptr
  | .arch (.pageTable _ base _ _) | .arch (.vspace _ base _) => some base
  | _ => none

/-- The address of an ASID pool to which this is a capability. -/
def poolBase : Cap → Option Ptr
  | .arch (.asidPool _ pool) => some pool
  | _ => none

namespace State

variable (cfg : VspaceConfig) (s : State)

/-- No object that mappings depend on is at this address. -/
def Fresh (base : Ptr) : Prop :=
  ∀ t, ¬Plain (s.cap t) → capPtr (s.cap t) ≠ base

/-- The answer of `isFinalCapability`. -/
def FinalAt (slot : Slot) (final : Bool) : Prop :=
  sameObjectAs (s.cap slot) (s.cap slot) = true →
    (final = true ↔ ∀ t, t ≠ slot → sameObjectAs (s.cap slot) (s.cap t) = false)

/-- The memory of a new table. -/
def clearTable : Option Ptr → State
  | some base => s.clearMemoryPT base
  | none => s

/-- The VSpace and the ASID pool of the initial thread, with the entry of `write_it_asid_pool`. That is written last
in the source, but nothing before reads it. The kernel has invalidated the whole TLB before. -/
def boot (root pool : Ptr) (rootSlot poolSlot : Slot) : State where
  cap := Function.update (Function.update (fun _ => .null) rootSlot (.arch (.vspace 1 root true))) poolSlot
    (.arch (.asidPool 0 pool))
  pte := fun _ _ => .invalid
  asidPool := fun p i => if p = pool ∧ i = 1 then .vspace root 0 false else .none
  armKSASIDTable := fun i => if i = 0 then some pool else none
  armKSHWASIDTable := fun _ => asidInvalid
  armKSNextASID := 0
  curVTable := none
  tlb := []

/-- The states while the boot code creates the address space of the initial thread. The table above a new one, and
the one of a frame, is found with an assertion on every level. -/
inductive Booted (root : Ptr) : State → Prop
  | root {pool : Ptr} {rootSlot poolSlot : Slot} : rootSlot ≠ poolSlot → root ≠ pool →
      Booted root (boot root pool rootSlot poolSlot)
  /-- `create_it_pud_cap`, `create_it_pd_cap` and `create_it_pt_cap`. -/
  | table {s : State} {slot : Slot} {base pt : Ptr} {vptr l : Nat} : Booted root s → s.cap slot = .null →
      s.Fresh base → vptr ≤ cfg.userTop → vptr % 2 ^ ptBitsLeft (l + 1) = 0 → s.Walk cfg root vptr (l + 1) pt →
      Booted root (s.performMap (.arch (.pageTable 1 base true vptr)) slot (.table base)
        (pt, uptIndex cfg vptr (l + 1)))
  /-- `create_mapped_it_frame_cap`. -/
  | frame {s : State} {slot : Slot} {base pt : Ptr} {vptr : Nat} : Booted root s → s.cap slot = .null →
      s.Fresh base → vptr ≤ cfg.userTop → vptr % 2 ^ pageBitsForSize .small = 0 → s.Walk cfg root vptr 0 pt →
      Booted root (s.performMap (.arch (.frame 1 base .small vptr .readWrite false)) slot (.page4k base)
        (pt, uptIndex cfg vptr 0))
  /-- `create_unmapped_it_frame_cap`. -/
  | unmapped {s : State} {slot : Slot} {base : Ptr} {size : PageSize} : Booted root s → s.cap slot = .null →
      s.Fresh base → Booted root (s.setCap slot (.arch (.frame asidInvalid base size 0 .readWrite false)))
  | other {s : State} {slot : Slot} {c : Cap} : Booted root s → s.cap slot = .null → Plain c →
      Booted root (s.setCap slot c)

/-- The steps. -/
inductive Step (s : State) : State → Prop
  | invoke {final : Bool} {dest : Except SyscallError Slot} {noChildren : Except SyscallError Unit} {cte : Slot}
      {q : Request} {i : Invocation} {s' : State} :
      s.FinalAt cte final → s.decodeARMMMUInvocation cfg final dest noChildren cte q = .ok i →
      (∀ frame slot parent base, i = .makePool frame slot parent base → s.Fresh frame) →
      s.perform cfg i = .ok s' → Step s s'
  | copy {src dest : Slot} {rights : CapRights} {a : ArchCap} {c : Cap} : s.cap dest = .null →
      maskCapRights rights (s.cap src) = .arch a → CSpace.archDeriveCap a = .ok c → Step s (s.setCap dest c)
  | move {src dest : Slot} : s.cap dest = .null → Step s ((s.setCap dest (s.cap src)).setCap src .null)
  | swap {slot₁ slot₂ : Slot} : Step s ((s.setCap slot₁ (s.cap slot₂)).setCap slot₂ (s.cap slot₁))
  | delete {slot : Slot} {final : Bool} {s' : State} : s.FinalAt slot final → s.deleteSlot cfg slot final = .ok s' →
      Step s s'
  | retype {slot : Slot} {c : Cap} {table : Option Ptr} : s.cap slot = .null → Created c table →
      s.Fresh (capPtr c) → Step s ((s.setCap slot c).clearTable table)
  /-- Other capabilities are made, changed and deleted. -/
  | other {slot : Slot} {c : Cap} : Plain (s.cap slot) → Plain c → Step s (s.setCap slot c)
  | scribbleTable {p : Ptr} {f : Nat → Pte} : (∀ t, tableBase (s.cap t) ≠ some p) →
      Step s { s with pte := Function.update s.pte p f }
  | scribblePool {p : Ptr} {f : Nat → AsidMap} : (∀ t, poolBase (s.cap t) ≠ some p) →
      Step s { s with asidPool := Function.update s.asidPool p f }
  /-- A switch to a thread with this `tcbVTable` slot. -/
  | switch {slot : Slot} {s' : State} : setVMRoot cfg { s with curVTable := some slot } = .ok s' → Step s s'
  | fastpath {slot : Slot} {s' : State} : s.fastpathSwitch cfg slot = some s' → Step s s'
  | idle : Step s (setGlobalUserVSpace { s with curVTable := none })

/-- The states of the runs from boot. -/
inductive Reachable : State → Prop
  | boot {root : Ptr} {s : State} : Booted cfg root s → Reachable s
  | step {s s' : State} : Reachable s → Step cfg s s' → Reachable s'

/-! ## The CSpace -/

variable {s}

end State

end NexsKernel.Vspace
