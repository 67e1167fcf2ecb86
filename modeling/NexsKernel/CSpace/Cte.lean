import NexsKernel.Api.Failures
import NexsKernel.Object.Cap
import NexsKernel.Lib.Links

/-!
# Capability table entries

The state that `cnode.c` works on: every slot of every CNode and TCB holds a capability and a node of the
mapping database (MDB), and slots are named by their address. The fields of a `cte_t` are functions of the
slot, and a null pointer is `none`.

`history` is a history variable that the C code does not have: it identifies the capability in a slot and
all capabilities that it was derived from, the youngest first. No function of the kernel reads it.
-/

namespace NexsKernel

open Function (update)

/-- The address of a `cte_t`. -/
abbrev Slot := Nat

/-- `mdb_node_t`. -/
structure MdbNode where
  mdbNext : Option Slot
  mdbRevocable : Bool
  mdbFirstBadged : Bool
  mdbPrev : Option Slot
  deriving DecidableEq, Repr

/-- `nullMDBNode`. -/
def nullMDBNode : MdbNode where
  mdbNext := none
  mdbRevocable := false
  mdbFirstBadged := false
  mdbPrev := none

/-- `irq_state_t`. -/
inductive IRQState where
  | inactive
  | signal
  | timer
  | ipi
  | reserved
  deriving DecidableEq, Repr

/-- The slots, the states of the interrupts, and the number of preemption points passed. -/
@[ext]
structure CSpace where
  cap : Slot → Cap
  mdbNext : Slot → Option Slot
  mdbRevocable : Slot → Bool
  mdbFirstBadged : Slot → Bool
  mdbPrev : Slot → Option Slot
  history : Slot → List Nat
  /-- The next unused name of a capability in `history`. -/
  fresh : Nat
  intStateIRQTable : Nat → IRQState
  /-- The interrupts that the interrupt controller holds back. -/
  irqMasked : Nat → Bool
  /-- `ksWorkUnitsCompleted`, counted from boot. -/
  ksWorkUnitsCompleted : Nat

/-- A CSpace without capabilities, before the interrupts are set up. -/
def CSpace.empty : CSpace where
  cap := fun _ => .null
  mdbNext := fun _ => none
  mdbRevocable := fun _ => false
  mdbFirstBadged := fun _ => false
  mdbPrev := fun _ => none
  history := fun _ => []
  fresh := 0
  intStateIRQTable := fun _ => .inactive
  irqMasked := fun _ => false
  ksWorkUnitsCompleted := 0

/-- `MAX_FREE_INDEX`. -/
def maxFreeIndex (sizeBits : Nat) : Nat :=
  bit (sizeBits - minUntypedBits)

namespace CSpace

variable (cs : CSpace)

/-- The MDB node of a slot. -/
def cteMDBNode (slot : Slot) : MdbNode where
  mdbNext := cs.mdbNext slot
  mdbRevocable := cs.mdbRevocable slot
  mdbFirstBadged := cs.mdbFirstBadged slot
  mdbPrev := cs.mdbPrev slot

/-- `slot->cap = cap`. -/
def setCap (slot : Slot) (cap : Cap) : CSpace :=
  { cs with cap := update cs.cap slot cap }

/-- `slot->cteMDBNode = node`. -/
def setCteMDBNode (slot : Slot) (node : MdbNode) : CSpace :=
  { cs with
    mdbNext := update cs.mdbNext slot node.mdbNext
    mdbRevocable := update cs.mdbRevocable slot node.mdbRevocable
    mdbFirstBadged := update cs.mdbFirstBadged slot node.mdbFirstBadged
    mdbPrev := update cs.mdbPrev slot node.mdbPrev }

/-- `mdb_node_ptr_set_mdbNext`, unless the pointer is null. -/
def setMdbNext (slot next : Option Slot) : CSpace :=
  match slot with
  | none => cs
  | some slot => { cs with mdbNext := update cs.mdbNext slot next }

/-- `mdb_node_ptr_set_mdbPrev`, unless the pointer is null. -/
def setMdbPrev (slot prev : Option Slot) : CSpace :=
  match slot with
  | none => cs
  | some slot => { cs with mdbPrev := update cs.mdbPrev slot prev }

/-- `mdb_node_ptr_set_mdbFirstBadged` to the disjunction with the old value, unless the pointer is null. -/
def orMdbFirstBadged (slot : Option Slot) (firstBadged : Bool) : CSpace :=
  match slot with
  | none => cs
  | some slot =>
    { cs with
      mdbFirstBadged :=
        update cs.mdbFirstBadged slot (cs.mdbFirstBadged slot || firstBadged) }

/-- Record that the capability in `dest` was derived from the one in `src`. -/
def recordDerived (src dest : Slot) : CSpace :=
  { cs with
    history := update cs.history dest (cs.fresh :: cs.history src), fresh := cs.fresh + 1 }

/-- Record that the capabilities of two slots changed places. -/
def recordSwap (slot1 slot2 : Slot) : CSpace :=
  { cs with history := cs.history ∘ Equiv.swap slot1 slot2 }

/-- Record that the capability of a slot is gone. -/
def recordDeleted (slot : Slot) : CSpace :=
  { cs with history := update cs.history slot [] }

/-- `cap_untyped_cap_set_capFreeIndex`, on a capability that may not be untyped. -/
def setFreeIndex (freeIndex : Nat) : Cap → Cap
  | .untyped _ isDevice blockSize ptr => .untyped freeIndex isDevice blockSize ptr
  | cap => cap

/-- `setUntypedCapAsFull`. -/
def setUntypedCapAsFull (srcCap newCap : Cap) (srcSlot : Slot) : CSpace :=
  match srcCap, newCap with
  | .untyped _ _ srcSize srcPtr, .untyped _ _ newSize newPtr =>
    if srcPtr = newPtr ∧ newSize = srcSize then
      cs.setCap srcSlot (setFreeIndex (maxFreeIndex srcSize) (cs.cap srcSlot))
    else
      cs
  | _, _ => cs

/-- The assertions that a destination slot is empty. -/
def assertEmpty (slot : Slot) : Except Halt Unit := do
  assert (cs.cap slot == .null)
  assert (cs.mdbNext slot == none && cs.mdbPrev slot == none)

/-- `cteInsert`. -/
def cteInsert (newCap : Cap) (srcSlot destSlot : Slot) : Except Halt CSpace := do
  let srcMDB := cs.cteMDBNode srcSlot
  let srcCap := cs.cap srcSlot
  let newCapIsRevocable := isCapRevocable newCap srcCap
  let newMDB := { srcMDB with
    mdbPrev := some srcSlot
    mdbRevocable := newCapIsRevocable
    mdbFirstBadged := newCapIsRevocable }
  cs.assertEmpty destSlot
  let cs := cs.setUntypedCapAsFull srcCap newCap srcSlot
  let cs := cs.setCap destSlot newCap
  let cs := cs.setCteMDBNode destSlot newMDB
  let cs := cs.setMdbNext (some srcSlot) (some destSlot)
  let cs := cs.setMdbPrev newMDB.mdbNext (some destSlot)
  return cs.recordDerived srcSlot destSlot

/-- `cteMove`. -/
def cteMove (newCap : Cap) (srcSlot destSlot : Slot) : Except Halt CSpace := do
  cs.assertEmpty destSlot
  let mdb := cs.cteMDBNode srcSlot
  let cs := cs.setCap destSlot newCap
  let cs := cs.setCap srcSlot .null
  let cs := cs.setCteMDBNode destSlot mdb
  let cs := cs.setCteMDBNode srcSlot nullMDBNode
  let cs := cs.setMdbNext mdb.mdbPrev (some destSlot)
  let cs := cs.setMdbPrev mdb.mdbNext (some destSlot)
  return cs.recordSwap srcSlot destSlot

/-- `cteSwap`. -/
def cteSwap (cap1 : Cap) (slot1 : Slot) (cap2 : Cap) (slot2 : Slot) : CSpace :=
  let cs := cs.setCap slot1 cap2
  let cs := cs.setCap slot2 cap1
  let mdb1 := cs.cteMDBNode slot1
  let cs := cs.setMdbNext mdb1.mdbPrev (some slot2)
  let cs := cs.setMdbPrev mdb1.mdbNext (some slot2)
  -- read again: the two slots may be neighbours
  let mdb2 := cs.cteMDBNode slot2
  let cs := cs.setCteMDBNode slot1 mdb2
  let cs := cs.setCteMDBNode slot2 mdb1
  let cs := cs.setMdbNext mdb2.mdbPrev (some slot1)
  let cs := cs.setMdbPrev mdb2.mdbNext (some slot1)
  cs.recordSwap slot1 slot2

/-- `capSwapForDelete`. -/
def capSwapForDelete (slot1 slot2 : Slot) : CSpace :=
  if slot1 = slot2 then cs else cs.cteSwap (cs.cap slot1) slot1 (cs.cap slot2) slot2

/-- `invokeCNodeRotate`. -/
def invokeCNodeRotate (cap1 cap2 : Cap) (slot1 slot2 slot3 : Slot) : Except Halt CSpace :=
  if slot1 = slot3 then
    return cs.cteSwap cap1 slot1 cap2 slot2
  else do
    let cs ← cs.cteMove cap2 slot2 slot3
    cs.cteMove cap1 slot1 slot2

/-- `isIRQActive`. -/
def isIRQActive (irq : Nat) : Bool :=
  cs.intStateIRQTable irq ≠ .inactive

/-- `maskInterrupt`. -/
def maskInterrupt (disable : Bool) (irq : Nat) : CSpace :=
  { cs with irqMasked := update cs.irqMasked irq disable }

/-- `setIRQState`. -/
def setIRQState (irqState : IRQState) (irq : Nat) : CSpace :=
  let cs := { cs with intStateIRQTable := update cs.intStateIRQTable irq irqState }
  cs.maskInterrupt (irqState = .inactive) irq

/-- `deletedIRQHandler`. -/
def deletedIRQHandler (irq : Nat) : CSpace :=
  cs.setIRQState .inactive irq

/-- `postCapDeletion`. -/
def postCapDeletion : Cap → CSpace
  | .irqHandler irq => cs.deletedIRQHandler irq
  | _ => cs

/-- `emptySlot`. -/
def emptySlot (slot : Slot) (cleanupInfo : Cap) : CSpace :=
  if cs.cap slot = .null then
    cs
  else
    let mdbNode := cs.cteMDBNode slot
    let prev := mdbNode.mdbPrev
    let next := mdbNode.mdbNext
    let cs := cs.setMdbNext prev next
    let cs := cs.setMdbPrev next prev
    let cs := cs.orMdbFirstBadged next mdbNode.mdbFirstBadged
    let cs := cs.setCap slot .null
    let cs := cs.setCteMDBNode slot nullMDBNode
    (cs.recordDeleted slot).postCapDeletion cleanupInfo

/-- `insertNewCap`. -/
def insertNewCap (parent slot : Slot) (cap : Cap) : CSpace :=
  let next := cs.mdbNext parent
  let cs := cs.setCap slot cap
  let cs := cs.setCteMDBNode slot
    { mdbNext := next, mdbRevocable := true, mdbFirstBadged := true, mdbPrev := some parent }
  let cs := cs.setMdbPrev next (some slot)
  let cs := cs.setMdbNext (some parent) (some slot)
  cs.recordDerived parent slot

/-- `write_slot`, with which the kernel creates the capabilities of the initial thread. -/
def writeSlot (slot : Slot) (cap : Cap) : CSpace :=
  let cs := cs.setCap slot cap
  let cs := cs.setCteMDBNode slot { nullMDBNode with mdbRevocable := true, mdbFirstBadged := true }
  { cs with history := update cs.history slot [cs.fresh], fresh := cs.fresh + 1 }

/-- `Arch_isMDBParentOf`. -/
def archIsMDBParentOf (capA capB : Cap) (firstBadged : Bool) : Bool :=
  match capA with
  | .arch (.sgiSignal _ _) => !firstBadged
  | .arch (.smc badge) =>
    badge == 0 ||
      match capB with
      | .arch (.smc badgeB) => badge == badgeB && !firstBadged
      | _ => false
  | _ => true

/-- The badge part of `isMDBParentOf`. -/
def badgeIsMDBParentOf (capA capB : Cap) (firstBadged : Bool) : Bool :=
  match capA with
  | .endpoint badge _ _ _ _ _ =>
    badge == 0 ||
      match capB with
      | .endpoint badgeB _ _ _ _ _ => badge == badgeB && !firstBadged
      | _ => false
  | .notification badge _ _ _ =>
    badge == 0 ||
      match capB with
      | .notification badgeB _ _ _ => badge == badgeB && !firstBadged
      | _ => false
  | _ => true

/-- `isMDBParentOf`. -/
def isMDBParentOf (a b : Slot) : Bool :=
  cs.mdbRevocable a && sameRegionAs (cs.cap a) (cs.cap b) &&
    archIsMDBParentOf (cs.cap a) (cs.cap b) (cs.mdbFirstBadged b) &&
    badgeIsMDBParentOf (cs.cap a) (cs.cap b) (cs.mdbFirstBadged b)

/-- `ensureNoChildren`. -/
def ensureNoChildren (slot : Slot) : Except SyscallError Unit :=
  match cs.mdbNext slot with
  | some next => refuseIf (cs.isMDBParentOf slot next) .revokeFirst
  | none => return ()

/-- `ensureEmptySlot`. -/
def ensureEmptySlot (slot : Slot) : Except SyscallError Unit :=
  refuseIf (cs.cap slot ≠ .null) .deleteFirst

/-- `isFinalCapability`. -/
def isFinalCapability (slot : Slot) : Bool :=
  let prevIsSameObject :=
    match cs.mdbPrev slot with
    | none => false
    | some prev => sameObjectAs (cs.cap prev) (cs.cap slot)
  if prevIsSameObject then
    false
  else
    match cs.mdbNext slot with
    | none => true
    | some next => !sameObjectAs (cs.cap slot) (cs.cap next)

end CSpace

end NexsKernel
