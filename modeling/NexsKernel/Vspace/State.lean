import NexsKernel.Object.Cap
import NexsKernel.Api.Failures

/-!
# Address spaces

Page tables and ASIDs of AArch64 (`arch/kernel/vspace.c`, `mode/object/structures.bf`): the entries of tables, the
ASID map with its pools, the hardware VMIDs that stand for ASIDs under a hypervisor, and the slots whose
capabilities repeat what is mapped. A table is known by its address, and an entry by its table and index. Levels
are counted from the leaves: the tables of level 0 hold small pages, and a VSpace root is a table of level `top`.
-/

namespace NexsKernel.Vspace

abbrev Ptr := Nat

/-- The address of a capability slot. -/
abbrev Slot := Nat

/-- `PT_INDEX_BITS`. -/
def ptIndexBits : Nat := 9

/-- `asidLowBits`. -/
def asidLowBits : Nat := 9

/-- `nASIDPools`. -/
def nASIDPools : Nat := 128

/-- The number of hardware VMIDs, `BIT(hwASIDBits)`. -/
def nHwASIDs : Nat := 256

/-- `ptBitsLeft` at a level: the bits of an address that its tables leave to an entry. -/
def ptBitsLeft (l : Nat) : Nat :=
  ptIndexBits * l + 12

/-- The configuration. -/
structure VspaceConfig where
  /-- `CONFIG_ARM_HYPERVISOR_SUPPORT`. -/
  hypervisor : Bool
  /-- `UPT_LEVELS - 1`. -/
  top : Nat
  /-- `seL4_VSpaceIndexBits`. -/
  vspaceIndexBits : Nat
  /-- `USER_TOP`. -/
  userTop : Nat
  userTop_lt : userTop < 2 ^ (ptBitsLeft top + vspaceIndexBits)

/-- `pte_t`, less rights and attributes. The address is a physical one in the source. -/
inductive Pte where
  | invalid
  | table (ptBaseAddress : Ptr)
  | page (pageBaseAddress : Ptr)
  | page4k (pageBaseAddress : Ptr)
  deriving DecidableEq, Repr

/-- `pte_get_page_base_address`, of an entry for which `pte_is_page_type` holds. -/
def Pte.pageBase : Pte → Option Ptr
  | page base | page4k base => some base
  | invalid | table _ => none

/-- `asid_map_t`. -/
inductive AsidMap where
  | none
  | vspace (vspaceRoot : Ptr) (storedHwVmid : Nat) (storedVmidValid : Bool)
  deriving DecidableEq, Repr

/-- What is done to the TLB and to its tags: a root becomes the current one, with `none` for
`armKSGlobalUserVSpace`, or the translations of a tag are invalidated. -/
inductive TlbEvent where
  | setRoot (hwASID : Nat) (root : Option Ptr)
  | invalidateTranslationASID (hwASID : Nat)
  deriving DecidableEq, Repr

/-- The state. -/
structure State where
  cap : Slot → Cap
  pte : Ptr → Nat → Pte
  /-- `array` of an `asid_pool_t`. -/
  asidPool : Ptr → Nat → AsidMap
  armKSASIDTable : Nat → Option Ptr
  armKSHWASIDTable : Nat → Nat
  armKSNextASID : Nat
  /-- The `tcbVTable` slot of `ksCurThread`, if it is not the idle thread. -/
  curVTable : Option Slot
  /-- What has been done to the TLB, the last first. -/
  tlb : List TlbEvent

/-- `ASID_HIGH`. -/
def asidHigh (asid : Nat) : Nat :=
  asid / 2 ^ asidLowBits

/-- `ASID_LOW`. -/
def asidLow (asid : Nat) : Nat :=
  asid % 2 ^ asidLowBits

namespace State

variable (cfg : VspaceConfig) (s : State)

/-! ## Entries and slots -/

def setCap (slot : Slot) (c : Cap) : State :=
  { s with cap := Function.update s.cap slot c }

/-- A store to an entry. -/
def setPte (ptSlot : Ptr × Nat) (pte : Pte) : State :=
  { s with pte := Function.update s.pte ptSlot.1 (Function.update (s.pte ptSlot.1) ptSlot.2 pte) }

/-- `clearMemory_PT`. -/
def clearMemoryPT (pt : Ptr) : State :=
  { s with pte := Function.update s.pte pt fun _ => .invalid }

def logTlb (e : TlbEvent) : State :=
  { s with tlb := e :: s.tlb }

/-! ## ASIDs -/

/-- `findMapForASID`. -/
def findMapForASID (asid : Nat) : AsidMap :=
  match s.armKSASIDTable (asidHigh asid) with
  | some pool => s.asidPool pool (asidLow asid)
  | none => .none

/-- `findVSpaceForASID`. -/
def findVSpaceForASID (asid : Nat) : Option Ptr :=
  match s.findMapForASID asid with
  | .vspace root _ _ => some root
  | .none => none

/-- A store to an entry of a pool. -/
def setPoolEntry (pool : Ptr) (i : Nat) (map : AsidMap) : State :=
  { s with asidPool := Function.update s.asidPool pool (Function.update (s.asidPool pool) i map) }

/-! ## Walks -/

/-- The index of an address in a table of a level, `GET_UPT_INDEX`. -/
def uptIndex (v l : Nat) : Nat :=
  v / 2 ^ ptBitsLeft l % 2 ^ (if l = cfg.top then cfg.vspaceIndexBits else ptIndexBits)

/-- The loop of `lookupPTSlot`, from a table of a level. -/
def lookupFrom (vptr : Nat) : Nat → Ptr → (Ptr × Nat) × Nat
  | 0, pt => ((pt, uptIndex cfg vptr 0), ptBitsLeft 0)
  | l + 1, pt =>
    match s.pte pt (uptIndex cfg vptr (l + 1)) with
    | .table pt' => lookupFrom vptr l pt'
    | _ => ((pt, uptIndex cfg vptr (l + 1)), ptBitsLeft (l + 1))

/-- `lookupPTSlot`: the entry, and `ptBitsLeft`. -/
def lookupPTSlot (vspace : Ptr) (vptr : Nat) : (Ptr × Nat) × Nat :=
  s.lookupFrom cfg vptr cfg.top vspace

/-- The loop of `unmapPageTable`: `none` when the table is not found, and else the entry that points to it, which
there is none of for the root. -/
def findTable (vptr : Nat) (targetPt : Ptr) : Nat → Ptr → Option (Ptr × Nat) → Option (Option (Ptr × Nat))
  | 0, pt, ptSlot => if pt = targetPt then some ptSlot else none
  | l + 1, pt, ptSlot =>
    if pt = targetPt then
      some ptSlot
    else
      match s.pte pt (uptIndex cfg vptr (l + 1)) with
      | .table pt' => findTable vptr targetPt l pt' (some (pt, uptIndex cfg vptr (l + 1)))
      | _ => none

end State

end NexsKernel.Vspace
