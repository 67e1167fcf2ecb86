import NexsKernel.Machine.Word

/-!
# Capabilities

The capability words of `structures_64.bf` and of the AArch64 `structures.bf`, as one inductive type,
and the functions of `objecttype.c` (generic and AArch64) that only look at a capability. The
configuration is MCS on AArch64 with hypervisor support and SMC calls and without an SMMU; the TCB
object has `seL4_TCBBits = 11`, the VSpace root `seL4_VSpaceBits = 13`.

A zombie is kept decoded: `Cap.zombie type number ptr` stands for `Zombie_new(number, type, ptr)`.
Object references and slot addresses are kernel addresses, hence plain words.
-/

namespace NexsKernel

/-- `seL4_SlotBits`: a capability table entry has 32 bytes. -/
def slotBits : Nat := 5
/-- `seL4_TCBBits`. -/
def tcbBits : Nat := 11
/-- `seL4_EndpointBits`. -/
def endpointBits : Nat := 4
/-- `seL4_NotificationBits` of the MCS kernel. -/
def notificationBits : Nat := 6
/-- `seL4_ReplyBits`. -/
def replyBits : Nat := 5
/-- `seL4_PageTableBits`. -/
def pageTableBits : Nat := 12
/-- `seL4_VSpaceBits` with a 40-bit physical address space. -/
def vspaceBits : Nat := 13
/-- `seL4_ASIDPoolBits`. -/
def asidPoolBits : Nat := 12
/-- `seL4_VCPUBits`. -/
def vcpuBits : Nat := 12
/-- `seL4_MinUntypedBits`. -/
def minUntypedBits : Nat := 4
/-- `seL4_MaxUntypedBits`. -/
def maxUntypedBits : Nat := 47
/-- `seL4_MinSchedContextBits`. -/
def minSchedContextBits : Nat := 7
/-- `wordBits`. -/
def wordBits : Nat := 64
/-- `tcbArchCNodeEntries` of the MCS kernel on ARM. -/
def tcbArchCNodeEntries : Nat := 5
/-- `asidInvalid`. -/
def asidInvalid : Nat := 0

/-- `BIT(n)`. -/
def bit (n : Nat) : Nat := 2 ^ n

/-- `MASK(n)`. -/
def mask (n : Nat) : Nat := 2 ^ n - 1

/-- What a zombie used to be (`ZombieType_ZombieTCB`, `ZombieType_ZombieCNode`). -/
inductive ZombieType where
  | tcb
  | cnode (radix : Nat)
  deriving DecidableEq, Repr

/-- `seL4_CapRights_t`. -/
structure CapRights where
  capAllowGrantReply : Bool
  capAllowGrant : Bool
  capAllowRead : Bool
  capAllowWrite : Bool
  deriving DecidableEq, Repr

/-- `vm_rights_t` of AArch64. -/
inductive VmRights where
  | kernelOnly
  | readWrite
  | readOnly
  deriving DecidableEq, Repr

/-- `vm_page_size_t` of AArch64. -/
inductive PageSize where
  | small
  | large
  | huge
  deriving DecidableEq, Repr

/-- `pageBitsForSize`. -/
def pageBitsForSize : PageSize → Nat
  | .small => 12
  | .large => 21
  | .huge => 30

/-- The capability kinds of AArch64. -/
inductive ArchCap where
  | frame (capFMappedASID capFBasePtr : Nat) (capFSize : PageSize) (capFMappedAddress : Nat)
      (capFVMRights : VmRights) (capFIsDevice : Bool)
  | pageTable (capPTMappedASID capPTBasePtr : Nat) (capPTIsMapped : Bool)
      (capPTMappedAddress : Nat)
  | vspace (capVSMappedASID capVSBasePtr : Nat) (capVSIsMapped : Bool)
  | asidControl
  | asidPool (capASIDBase capASIDPool : Nat)
  | vcpu (capVCPUPtr : Nat)
  | smc (capSMCBadge : Nat)
  | sgiSignal (capSGIIRQ capSGITarget : Nat)
  deriving DecidableEq, Repr

/-- `cap_t`. -/
inductive Cap where
  | null
  | untyped (capFreeIndex : Nat) (capIsDevice : Bool) (capBlockSize capPtr : Nat)
  | endpoint (capEPBadge : Nat) (capCanGrantReply capCanGrant capCanSend capCanReceive : Bool)
      (capEPPtr : Nat)
  | notification (capNtfnBadge : Nat) (capNtfnCanSend capNtfnCanReceive : Bool) (capNtfnPtr : Nat)
  | reply (capReplyPtr : Nat) (capReplyCanGrant : Bool)
  | cnode (capCNodeRadix capCNodeGuardSize capCNodeGuard capCNodePtr : Nat)
  | thread (capTCBPtr : Nat)
  | irqControl
  | irqHandler (capIRQ : Nat)
  | zombie (capZombieType : ZombieType) (capZombieNumber capZombiePtr : Nat)
  | domain
  | schedContext (capSCPtr capSCSizeBits : Nat)
  | schedControl (core : Nat)
  | arch (cap : ArchCap)
  deriving DecidableEq, Repr

/-- `TCB_PTR_CTE_PTR(p, 0)`: the slots of a TCB start at the base of its object. -/
def tcbPtrCtePtr (p : Nat) : Nat :=
  p - p % 2 ^ tcbBits

namespace ArchCap

/-- `cap_get_archCapSizeBits`. -/
def capSizeBits : ArchCap → Nat
  | frame _ _ size _ _ _ => pageBitsForSize size
  | pageTable .. => pageTableBits
  | vspace .. => vspaceBits
  | asidPool .. => asidPoolBits
  | vcpu _ => vcpuBits
  | asidControl | smc _ | sgiSignal _ _ => 0

/-- `cap_get_archCapIsPhysical`. -/
def capIsPhysical : ArchCap → Bool
  | frame .. | pageTable .. | vspace .. | asidPool .. | vcpu _ => true
  | asidControl | smc _ | sgiSignal _ _ => false

/-- `cap_get_archCapPtr`. -/
def capPtr : ArchCap → Nat
  | frame _ base _ _ _ _ => base
  | pageTable _ base _ _ => base
  | vspace _ base _ => base
  | asidPool _ pool => pool
  | vcpu ptr => ptr
  | asidControl | smc _ | sgiSignal _ _ => 0

/-- `Arch_sameRegionAs`. -/
def sameRegionAs : ArchCap → ArchCap → Bool
  | frame _ botA sizeA _ _ _, frame _ botB sizeB _ _ _ =>
    let topA := add64 botA (mask (pageBitsForSize sizeA))
    let topB := add64 botB (mask (pageBitsForSize sizeB))
    decide (botA ≤ botB) && decide (topB ≤ topA) && decide (botB ≤ topB)
  | pageTable _ a _ _, pageTable _ b _ _ => a == b
  | vspace _ a _, vspace _ b _ => a == b
  | asidControl, asidControl => true
  | asidPool _ a, asidPool _ b => a == b
  | vcpu a, vcpu b => a == b
  | sgiSignal irqA targetA, sgiSignal irqB targetB => irqA == irqB && targetA == targetB
  | smc _, smc _ => true
  | _, _ => false

/-- `Arch_sameObjectAs`. -/
def sameObjectAs : ArchCap → ArchCap → Bool
  | frame _ baseA sizeA _ _ devA, frame _ baseB sizeB _ _ devB =>
    baseA == baseB && sizeA == sizeB && devA == devB
  | sgiSignal _ _, _ => false
  | a, b => a.sameRegionAs b

end ArchCap

/-- `isArchCap`. -/
def isArchCap : Cap → Bool
  | .arch _ => true
  | _ => false

/-- `cap_get_capSizeBits`. -/
def capSizeBits : Cap → Nat
  | .untyped _ _ blockSize _ => blockSize
  | .endpoint .. => endpointBits
  | .notification .. => notificationBits
  | .cnode radix _ _ _ => radix + slotBits
  | .thread _ => tcbBits
  | .zombie .tcb _ _ => tcbBits
  | .zombie (.cnode radix) _ _ => radix + slotBits
  | .reply .. => replyBits
  | .schedContext _ sizeBits => sizeBits
  | .arch a => a.capSizeBits
  | .null | .domain | .irqControl | .schedControl _ | .irqHandler _ => 0

/-- `cap_get_capIsPhysical`. -/
def capIsPhysical : Cap → Bool
  | .untyped .. | .endpoint .. | .notification .. | .cnode .. | .thread _ | .schedContext ..
  | .zombie .. | .reply .. => true
  | .arch a => a.capIsPhysical
  | .null | .domain | .irqControl | .schedControl _ | .irqHandler _ => false

/-- `cap_get_capPtr`. -/
def capPtr : Cap → Nat
  | .untyped _ _ _ ptr => ptr
  | .endpoint _ _ _ _ _ ptr => ptr
  | .notification _ _ _ ptr => ptr
  | .cnode _ _ _ ptr => ptr
  | .thread ptr => tcbPtrCtePtr ptr
  | .zombie _ _ ptr => ptr
  | .reply ptr _ => ptr
  | .schedContext ptr _ => ptr
  | .arch a => a.capPtr
  | .null | .domain | .irqControl | .schedControl _ | .irqHandler _ => 0

/-- `Arch_isIRQControlDescendant`. -/
def archIsIRQControlDescendant : Cap → Bool
  | .arch (.sgiSignal _ _) => true
  | _ => false

/-- `sameRegionAs`. -/
def sameRegionAs (capA capB : Cap) : Bool :=
  match capA with
  | .untyped _ _ blockSize aBase =>
    capIsPhysical capB &&
      (let bBase := capPtr capB
       let aTop := add64 aBase (mask blockSize)
       let bTop := add64 bBase (mask (capSizeBits capB))
       decide (aBase ≤ bBase) && decide (bTop ≤ aTop) && decide (bBase ≤ bTop))
  | .endpoint _ _ _ _ _ a =>
    match capB with
    | .endpoint _ _ _ _ _ b => a == b
    | _ => false
  | .notification _ _ _ a =>
    match capB with
    | .notification _ _ _ b => a == b
    | _ => false
  | .cnode radixA _ _ a =>
    match capB with
    | .cnode radixB _ _ b => a == b && radixA == radixB
    | _ => false
  | .thread a =>
    match capB with
    | .thread b => a == b
    | _ => false
  | .reply a _ =>
    match capB with
    | .reply b _ => a == b
    | _ => false
  | .domain =>
    match capB with
    | .domain => true
    | _ => false
  | .irqControl =>
    match capB with
    | .irqControl | .irqHandler _ => true
    | b => archIsIRQControlDescendant b
  | .irqHandler a =>
    match capB with
    | .irqHandler b => a == b
    | _ => false
  | .schedContext a sizeA =>
    match capB with
    | .schedContext b sizeB => a == b && sizeA == sizeB
    | _ => false
  | .schedControl _ =>
    match capB with
    | .schedControl _ => true
    | _ => false
  | .arch a =>
    match capB with
    | .arch b => a.sameRegionAs b
    | _ => false
  | .null | .zombie .. => false

/-- `sameObjectAs`. -/
def sameObjectAs (capA capB : Cap) : Bool :=
  match capA, capB with
  | .untyped .., _ => false
  | .irqControl, _ => false
  | .arch a, .arch b => a.sameObjectAs b
  | _, _ => sameRegionAs capA capB

/-- `maskVMRights`. -/
def maskVMRights (vmRights : VmRights) (rights : CapRights) : VmRights :=
  if vmRights = .readOnly ∧ rights.capAllowRead then
    .readOnly
  else if vmRights = .readWrite ∧ rights.capAllowRead then
    if rights.capAllowWrite then .readWrite else .readOnly
  else
    .kernelOnly

/-- `maskCapRights`. -/
def maskCapRights (rights : CapRights) : Cap → Cap
  | .endpoint badge canGrantReply canGrant canSend canReceive ptr =>
    .endpoint badge (canGrantReply && rights.capAllowGrantReply) (canGrant && rights.capAllowGrant)
      (canSend && rights.capAllowWrite) (canReceive && rights.capAllowRead) ptr
  | .notification badge canSend canReceive ptr =>
    .notification badge (canSend && rights.capAllowWrite) (canReceive && rights.capAllowRead) ptr
  | .reply ptr canGrant => .reply ptr (canGrant && rights.capAllowGrant)
  | .arch (.frame asid base size addr vmRights dev) =>
    .arch (.frame asid base size addr (maskVMRights vmRights rights) dev)
  | cap => cap

/-- `seL4_CNode_CapData_get_guardSize`. -/
def capDataGuardSize (data : Nat) : Nat :=
  data % 2 ^ 6

/-- `seL4_CNode_CapData_get_guard`. -/
def capDataGuard (data : Nat) : Nat :=
  data % 2 ^ 64 / 2 ^ 6

/-- `updateCapData`. -/
def updateCapData (preserve : Bool) (newData : Nat) : Cap → Cap
  | .endpoint badge canGrantReply canGrant canSend canReceive ptr =>
    if !preserve && badge == 0 then
      .endpoint newData canGrantReply canGrant canSend canReceive ptr
    else
      .null
  | .notification badge canSend canReceive ptr =>
    if !preserve && badge == 0 then .notification newData canSend canReceive ptr else .null
  | .cnode radix _ _ ptr =>
    let guardSize := capDataGuardSize newData
    if guardSize + radix > wordBits then
      .null
    else
      .cnode radix guardSize (capDataGuard newData % 2 ^ guardSize) ptr
  | .arch (.smc badge) => if !preserve && badge == 0 then .arch (.smc newData) else .null
  | cap => cap

/-- `isCapRevocable`, with `Arch_isCapRevocable`. -/
def isCapRevocable (derivedCap srcCap : Cap) : Bool :=
  match derivedCap with
  | .endpoint badge _ _ _ _ _ =>
    match srcCap with
    | .endpoint srcBadge _ _ _ _ _ => badge != srcBadge
    | _ => true
  | .notification badge _ _ _ =>
    match srcCap with
    | .notification srcBadge _ _ _ => badge != srcBadge
    | _ => true
  | .irqHandler _ => srcCap == .irqControl
  | .untyped .. => true
  | .arch (.sgiSignal _ _) => srcCap == .irqControl
  | .arch (.smc badge) =>
    match srcCap with
    | .arch (.smc srcBadge) => badge != srcBadge
    | _ => true
  | _ => false

end NexsKernel
