import NexsKernel.CSpace.Delete

/-!
# Untyped memory

`untyped.c`, with the functions of `objecttype.c` that it uses. The message of a Retype invocation is taken
as decoded into words, and the destination CNode as looked up; all other checks of
`decodeUntypedInvocation` are here. Of the memory that is cleared and of the objects that are created, only
slots are part of the CSpace.
-/

namespace NexsKernel

/-- `CONFIG_RETYPE_FAN_OUT_LIMIT`. -/
def retypeFanOutLimit : Nat := 256

/-- `CONFIG_RESET_CHUNK_BITS`. -/
def resetChunkBits : Nat := 8

/-- `TCB_OFFSET`: the TCB proper follows the slots. -/
def tcbOffset : Nat := bit (tcbBits - 1)

/-- The object types of `objecttype.h`: generic, AArch64 and ARM. -/
inductive ObjectType where
  | untyped
  | tcb
  | endpoint
  | notification
  | capTable
  | schedContext
  | reply
  | hugePage
  | vspace
  | smallPage
  | largePage
  | pageTable
  | vcpu
  deriving DecidableEq, Repr

/-- The object type with a number below `seL4_ObjectTypeCount`. -/
def objectTypeOf : Nat → Option ObjectType
  | 0 => some .untyped
  | 1 => some .tcb
  | 2 => some .endpoint
  | 3 => some .notification
  | 4 => some .capTable
  | 5 => some .schedContext
  | 6 => some .reply
  | 7 => some .hugePage
  | 8 => some .vspace
  | 9 => some .smallPage
  | 10 => some .largePage
  | 11 => some .pageTable
  | 12 => some .vcpu
  | _ => none

/-- `getObjectSize`, with `Arch_getObjectSize`. -/
def getObjectSize (t : ObjectType) (userObjSize : Nat) : Nat :=
  match t with
  | .tcb => tcbBits
  | .endpoint => endpointBits
  | .notification => notificationBits
  | .capTable => add64 slotBits userObjSize
  | .untyped => userObjSize
  | .schedContext => userObjSize
  | .reply => replyBits
  | .smallPage => pageBitsForSize .small
  | .largePage => pageBitsForSize .large
  | .hugePage => pageBitsForSize .huge
  | .pageTable => pageTableBits
  | .vspace => vspaceBits
  | .vcpu => vcpuBits

/-- `Arch_isFrameType`. -/
def isFrameType : ObjectType → Bool
  | .smallPage | .largePage | .hugePage => true
  | _ => false

/-- `createObject`, with `Arch_createObject`. -/
def createObject (t : ObjectType) (regionBase userSize : Nat) (deviceMemory : Bool) : Cap :=
  match t with
  | .tcb => .thread (add64 regionBase tcbOffset)
  | .endpoint => .endpoint 0 true true true true regionBase
  | .notification => .notification 0 true true regionBase
  | .capTable => .cnode userSize 0 0 regionBase
  | .untyped => .untyped 0 deviceMemory userSize regionBase
  | .schedContext => .schedContext regionBase userSize
  | .reply => .reply regionBase true
  | .smallPage => .arch (.frame asidInvalid regionBase .small 0 .readWrite deviceMemory)
  | .largePage => .arch (.frame asidInvalid regionBase .large 0 .readWrite deviceMemory)
  | .hugePage => .arch (.frame asidInvalid regionBase .huge 0 .readWrite deviceMemory)
  | .vspace => .arch (.vspace asidInvalid regionBase false)
  | .pageTable => .arch (.pageTable asidInvalid regionBase false 0)
  | .vcpu => .arch (.vcpu regionBase)

/-- `alignUp`. -/
def alignUp (baseValue alignment : Nat) : Nat :=
  let x := add64 baseValue (bit alignment - 1)
  x - x % 2 ^ alignment

/-- `FREE_INDEX_TO_OFFSET`. -/
def freeIndexToOffset (freeIndex : Nat) : Nat :=
  freeIndex * 2 ^ minUntypedBits % 2 ^ 64

/-- `OFFSET_TO_FREE_INDEX`. -/
def offsetToFreeIndex (offset : Nat) : Nat :=
  offset / 2 ^ minUntypedBits

/-- `GET_FREE_REF`. -/
def getFreeRef (base freeIndex : Nat) : Nat :=
  add64 base (freeIndexToOffset freeIndex)

/-- `GET_FREE_INDEX`. -/
def getFreeIndex (base free : Nat) : Nat :=
  sub64 free base / 2 ^ minUntypedBits

/-- The arguments of `invokeUntyped_Retype` that `decodeUntypedInvocation` has computed. -/
structure RetypeArgs where
  reset : Bool
  retypeBase : Nat
  newType : ObjectType
  userSize : Nat
  destCNode : Nat
  destOffset : Nat
  destLength : Nat
  deviceMemory : Bool
  deriving DecidableEq, Repr

namespace CSpace

variable (cs : CSpace)

/-- The checks that the slots of a window of a CNode are empty, in order. -/
def ensureEmptySlots (destCNode : Nat) : List Nat → Except SyscallError Unit
  | [] => .ok ()
  | i :: is => do
    cs.ensureEmptySlot (slotAt destCNode i)
    ensureEmptySlots destCNode is

/-- The part of `decodeUntypedInvocation` that looks at the type and the size of the objects. -/
def decodeObjectType (newType userObjSize : Nat) : Except SyscallError ObjectType :=
  match objectTypeOf newType with
  | none => .error (.invalidArgument 0)
  | some t => do
    refuseIf (wordBits ≤ userObjSize ∨ maxUntypedBits < getObjectSize t userObjSize)
      (.rangeError 0 maxUntypedBits)
    refuseIf (t = .capTable ∧ userObjSize = 0) (.invalidArgument 1)
    refuseIf (t = .untyped ∧ userObjSize < minUntypedBits) (.invalidArgument 1)
    refuseIf (t = .schedContext ∧ userObjSize < minSchedContextBits) (.invalidArgument 1)
    return t

/-- The part that looks at the destination: the address of the CNode. -/
def decodeDestination (nodeCap : Cap) (nodeOffset nodeWindow : Nat) : Except SyscallError Nat :=
  match nodeCap with
  | .cnode radix _ _ ptr => do
    let nodeSize := 2 ^ radix
    refuseIf (nodeSize - 1 < nodeOffset) (.rangeError 0 (nodeSize - 1))
    refuseIf (nodeWindow < 1 ∨ retypeFanOutLimit < nodeWindow) (.rangeError 1 retypeFanOutLimit)
    refuseIf (nodeSize - nodeOffset < nodeWindow) (.rangeError 1 (nodeSize - nodeOffset))
    cs.ensureEmptySlots ptr (List.range' nodeOffset nodeWindow)
    return ptr
  | _ => .error (.failedLookup false)

/-- Whether an untyped capability is reset, because it has no children. -/
def resets (slot : Slot) : Bool :=
  match cs.ensureNoChildren slot with
  | .ok _ => true
  | .error _ => false

/-- `decodeUntypedInvocation` for Retype, on a slot with an untyped capability. -/
def decodeUntypedInvocation (slot : Slot) (newType userObjSize : Nat) (nodeCap : Cap)
    (nodeOffset nodeWindow : Nat) : Except SyscallError RetypeArgs :=
  match cs.cap slot with
  | .untyped capFreeIndex deviceMemory blockSize ptr => do
    let t ← decodeObjectType newType userObjSize
    let destCNode ← cs.decodeDestination nodeCap nodeOffset nodeWindow
    let reset := cs.resets slot
    let freeIndex := if reset then 0 else capFreeIndex
    let freeRef := getFreeRef ptr freeIndex
    let objectSize := getObjectSize t userObjSize
    let untypedFreeBytes := sub64 (bit blockSize) (freeIndexToOffset freeIndex)
    refuseIf (untypedFreeBytes / 2 ^ objectSize < nodeWindow) (.notEnoughMemory untypedFreeBytes)
    refuseIf (deviceMemory = true ∧ isFrameType t = false ∧ t ≠ .untyped) (.invalidArgument 1)
    return ⟨reset, alignUp freeRef objectSize, t, userObjSize, destCNode, nodeOffset, nodeWindow,
      deviceMemory⟩
  | _ => .error .illegalOperation

/-- `clearMemory`: a slot in the cleared region is empty. -/
def clearMemory (ptr bits : Nat) : CSpace :=
  let cleared := fun s : Slot => ptr ≤ s ∧ s < ptr + 2 ^ bits
  { cs with
    cap := fun s => if cleared s then .null else cs.cap s
    mdbNext := fun s => if cleared s then none else cs.mdbNext s
    mdbRevocable := fun s => if cleared s then false else cs.mdbRevocable s
    mdbFirstBadged := fun s => if cleared s then false else cs.mdbFirstBadged s
    mdbPrev := fun s => if cleared s then none else cs.mdbPrev s
    history := fun s => if cleared s then [] else cs.history s }

end CSpace

namespace CSpace

variable (preempt : Nat → Bool)

/-- The loop of `resetUntypedCap` over the given number of chunks, the last one first. -/
def resetChunks (slot : Slot) (prevCap : Cap) : Nat → CSpace → Status × CSpace
  | 0, cs => (.none, cs)
  | j + 1, cs =>
    let offset := j * 2 ^ resetChunkBits
    let cs := cs.clearMemory (add64 (capPtr prevCap) offset) resetChunkBits
    let cs := cs.setCap slot (setFreeIndex (offsetToFreeIndex offset) prevCap)
    match cs.preemptionPoint preempt with
    | (.none, cs) => resetChunks slot prevCap j cs
    | (.preempted, cs) => (.preempted, cs)

/-- `resetUntypedCap`. -/
def resetUntypedCap (slot : Slot) (cs : CSpace) : Status × CSpace :=
  match cs.cap slot with
  | .untyped freeIndex deviceMemory blockSize ptr =>
    let prevCap := cs.cap slot
    let offset := freeIndexToOffset freeIndex
    if offset = 0 then
      (.none, cs)
    else if deviceMemory || blockSize < resetChunkBits then
      let cs := if deviceMemory then cs else cs.clearMemory ptr blockSize
      (.none, cs.setCap slot (setFreeIndex 0 prevCap))
    else
      resetChunks preempt slot prevCap ((offset - 1) / 2 ^ resetChunkBits + 1) cs
  | _ => (.none, cs)

/-- `createNewObjects`. -/
def createNewObjects (t : ObjectType) (parent : Slot) (destCNode destOffset destLength regionBase userSize : Nat)
    (deviceMemory : Bool) (cs : CSpace) : CSpace :=
  (List.range destLength).foldl
    (fun cs i =>
      let cap := createObject t (add64 regionBase (i * 2 ^ getObjectSize t userSize % 2 ^ 64)) userSize
        deviceMemory
      cs.insertNewCap parent (slotAt destCNode (destOffset + i)) cap)
    cs

/-- `invokeUntyped_Retype`. -/
def invokeUntypedRetype (slot : Slot) (args : RetypeArgs) (cs : CSpace) : Status × CSpace :=
  let regionBase := capPtr (cs.cap slot)
  let (status, cs) := if args.reset then resetUntypedCap preempt slot cs else (.none, cs)
  if status ≠ .none then
    (status, cs)
  else
    let totalObjectSize := args.destLength * 2 ^ getObjectSize args.newType args.userSize % 2 ^ 64
    let freeRef := add64 args.retypeBase totalObjectSize
    let cs := cs.setCap slot (setFreeIndex (getFreeIndex regionBase freeRef) (cs.cap slot))
    (.none, createNewObjects args.newType slot args.destCNode args.destOffset args.destLength
      args.retypeBase args.userSize args.deviceMemory cs)

end CSpace

end NexsKernel
