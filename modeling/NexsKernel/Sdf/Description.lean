import NexsKernel.Sdf.Xml

/-!
# System descriptions

What the parser makes of a document: the protection domains with what they contain, the memory regions, and the
channels. A protection domain is parsed with its children as a tree (`PdTree`), which is then flattened.
-/

namespace NexsKernel.Sdf

/-- `SysMap`. The bits of `perms` are those of `SysMapPerms`. -/
structure SysMap where
  mr : String
  vaddr : Word
  perms : BitVec 8
  cached : Bool
  textPos : TextPos
  deriving DecidableEq, Repr

/-- `SysMapPerms`. -/
def permRead : BitVec 8 := 1
def permWrite : BitVec 8 := 2
def permExecute : BitVec 8 := 4

inductive SysMemoryRegionPaddr where
  | unspecified
  | toolAllocated (paddr : Option Word)
  | specified (paddr : Word)
  deriving DecidableEq, Repr

structure SysMemoryRegion where
  name : String
  size : Word
  pageSizeSpecifiedByUser : Bool
  pageSize : PageSize
  pageCount : Word
  physAddr : SysMemoryRegionPaddr
  textPos : TextPos
  prefillBytes : Option (List (BitVec 8))
  deriving DecidableEq, Repr

namespace SysMemoryRegion

/-- `page_size_bytes`. -/
def pageSizeBytes (mr : SysMemoryRegion) : Word :=
  mr.pageSize.bytes

/-- `paddr`. -/
def paddr (mr : SysMemoryRegion) : Option Word :=
  match mr.physAddr with
  | .unspecified => none
  | .toolAllocated paddr => paddr
  | .specified paddr => some paddr

end SysMemoryRegion

inductive ArmRiscvIrqTrigger where
  | level
  | edge
  deriving DecidableEq, Repr

inductive X86IoapicIrqTrigger where
  | level
  | edge
  deriving DecidableEq, Repr

inductive X86IoapicIrqPolarity where
  | highTriggered
  | lowTriggered
  deriving DecidableEq, Repr

inductive SysIrqKind where
  | conventional (irq : Word) (trigger : ArmRiscvIrqTrigger)
  | ioapic (ioapic pin : Word) (trigger : X86IoapicIrqTrigger) (polarity : X86IoapicIrqPolarity) (vector : Word)
  | msi (pciBus pciDev pciFunc handle vector : Word)
  deriving DecidableEq, Repr

structure SysIrq where
  id : Word
  kind : SysIrqKind
  deriving DecidableEq, Repr

/-- `irq_num`. -/
def SysIrq.irqNum (irq : SysIrq) : Word :=
  match irq.kind with
  | .conventional irq _ => irq
  | .ioapic _ _ _ _ vector => vector
  | .msi _ _ _ _ vector => vector

structure IOPort where
  id : Word
  addr : Word
  size : Word
  textPos : TextPos
  deriving DecidableEq, Repr

inductive SysSetVarKind where
  | size (mr : String)
  | vaddr (address : Word)
  | paddr (region : String)
  | id (id : Word)
  | x86IoPortAddr (address : Word)
  | prefillSize (mr : String)
  deriving DecidableEq, Repr

structure SysSetVar where
  symbol : String
  kind : SysSetVarKind
  deriving DecidableEq, Repr

/-- `pd` is an index in the list of all protection domains. -/
structure ChannelEnd where
  pd : Nat
  id : Word
  notify : Bool
  pp : Bool
  setvarId : Option String
  deriving DecidableEq, Repr

structure Channel where
  endA : ChannelEnd
  endB : ChannelEnd
  deriving DecidableEq, Repr

/-- `cpu` is a `u8`. -/
structure VirtualCpu where
  id : Word
  setvarId : Option String
  cpu : Option Nat
  deriving DecidableEq, Repr

structure VirtualMachine where
  vcpus : List VirtualCpu
  name : String
  maps : List SysMap
  priority : BitVec 8
  budget : Word
  period : Word
  deriving DecidableEq, Repr

/-- `ProtectionDomain`, less `child_pds`. `id` and `setvarId` are those of a child, and `parent` is an index in the
list of all protection domains. -/
structure ProtectionDomain where
  id : Option Word
  name : String
  priority : BitVec 8
  budget : Word
  period : Word
  passive : Bool
  stackSize : Word
  smc : Bool
  cpu : Nat
  programImage : String
  programImageForSymbols : Option String
  fpu : Bool
  maps : List SysMap
  irqs : List SysIrq
  ioports : List IOPort
  setvars : List SysSetVar
  virtualMachine : Option VirtualMachine
  hasChildren : Bool
  parent : Option Nat
  setvarId : Option String
  textPos : TextPos
  deriving DecidableEq, Repr

/-- A protection domain and its `child_pds`. -/
inductive PdTree where
  | node (pd : ProtectionDomain) (childPds : List PdTree)

def PdTree.pd : PdTree → ProtectionDomain
  | node pd _ => pd

def PdTree.childPds : PdTree → List PdTree
  | node _ childPds => childPds

structure SystemDescription where
  protectionDomains : List ProtectionDomain
  memoryRegions : List SysMemoryRegion
  channels : List Channel
  deriving DecidableEq, Repr

/-- `needs_ep`. -/
def ProtectionDomain.needsEp (pd : ProtectionDomain) (selfId : Nat) (channels : List Channel) : Bool :=
  pd.hasChildren || pd.virtualMachine.isSome ||
    channels.any fun channel =>
      (channel.endA.pp && channel.endB.pd == selfId) || (channel.endB.pp && channel.endA.pd == selfId)

end NexsKernel.Sdf
