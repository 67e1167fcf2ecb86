import NexsKernel.Sdf.Config

/-!
# CapDL specs

The objects and capabilities of the spec that the tool builds for the initialiser, and the container that they are
collected in (`CapDLSpecContainer` of `builder.rs`). An object is known by its index, a capability by the object that
it refers to.
-/

namespace NexsKernel.Capdl

open Sdf

abbrev ObjectId := Nat

structure Rights where
  read : Bool
  write : Bool
  grant : Bool
  grantReply : Bool
  deriving DecidableEq, Repr

/-- `cap::Frame`. -/
structure FrameCap where
  object : ObjectId
  rights : Rights
  cached : Bool
  executable : Bool
  deriving DecidableEq, Repr

inductive Cap where
  | endpoint (object : ObjectId) (badge : Word) (rights : Rights)
  | notification (object : ObjectId) (badge : Word) (rights : Rights)
  | cnode (object : ObjectId) (guard : Word) (guardSize : Nat)
  | tcb (object : ObjectId)
  | frame (cap : FrameCap)
  | pageTable (object : ObjectId)
  | vcpu (object : ObjectId)
  | schedContext (object : ObjectId)
  | reply (object : ObjectId)
  | armIrqHandler (object : ObjectId)
  | riscvIrqHandler (object : ObjectId)
  | irqIOApicHandler (object : ObjectId)
  | irqMsiHandler (object : ObjectId)
  | ioPorts (object : ObjectId)
  | armSmc (object : ObjectId)
  deriving DecidableEq, Repr

/-- The object that a capability refers to. -/
def Cap.obj : Cap → ObjectId
  | .endpoint o _ _ | .notification o _ _ | .cnode o _ _ | .tcb o | .pageTable o | .vcpu o | .schedContext o | .reply o
  | .armIrqHandler o | .riscvIrqHandler o | .irqIOApicHandler o | .irqMsiHandler o | .ioPorts o | .armSmc o => o
  | .frame cap => cap.object

def Cap.setObj (o : ObjectId) : Cap → Cap
  | .endpoint _ badge rights => .endpoint o badge rights
  | .notification _ badge rights => .notification o badge rights
  | .cnode _ guard guardSize => .cnode o guard guardSize
  | .tcb _ => .tcb o
  | .frame cap => .frame { cap with object := o }
  | .pageTable _ => .pageTable o
  | .vcpu _ => .vcpu o
  | .schedContext _ => .schedContext o
  | .reply _ => .reply o
  | .armIrqHandler _ => .armIrqHandler o
  | .riscvIrqHandler _ => .riscvIrqHandler o
  | .irqIOApicHandler _ => .irqIOApicHandler o
  | .irqMsiHandler _ => .irqMsiHandler o
  | .ioPorts _ => .ioPorts o
  | .armSmc _ => .armSmc o

/-- The slot is a `u32`. -/
structure CapTableEntry where
  slot : Nat
  cap : Cap
  deriving DecidableEq, Repr

/-- What a part of a frame is filled with. -/
inductive FillContent where
  | elfContent (elfId elfSegIdx : Nat) (start stop : Word)
  | bytesContent (bytes : List (BitVec 8))
  deriving DecidableEq, Repr

structure FillEntry where
  start : Word
  stop : Word
  content : FillContent
  deriving DecidableEq, Repr

/-- `object::TcbExtraInfo`, less the fields that are always empty. -/
structure TcbExtraInfo where
  ipcBufferAddr : Word
  affinity : Nat
  prio : Nat
  maxPrio : Nat
  resume : Bool
  fpuDisabled : Bool
  ip : Word
  sp : Word
  deriving DecidableEq, Repr

/-- `object::PageTable`. -/
structure PageTable where
  x86Ept : Bool
  isRoot : Bool
  level : Nat
  slots : List CapTableEntry
  deriving DecidableEq, Repr

inductive Object where
  | endpoint
  | notification
  | cnode (sizeBits : Nat) (slots : List CapTableEntry)
  | tcb (slots : List CapTableEntry) (extra : TcbExtraInfo)
  | vcpu
  | frame (sizeBits : Nat) (paddr : Option Word) (init : List FillEntry)
  | pageTable (table : PageTable)
  | schedContext (sizeBits : Nat) (period budget badge : Word)
  | reply
  | armIrq (slots : List CapTableEntry) (trigger : Nat) (target : Nat)
  | riscvIrq (slots : List CapTableEntry) (trigger : Nat)
  | irqIOApic (slots : List CapTableEntry) (ioapic pin : Word) (level polarity : Nat)
  | irqMsi (slots : List CapTableEntry) (handle pciBus pciDev pciFunc : Word)
  | ioPorts (startPort endPort : Word)
  | armSmc
  deriving DecidableEq, Repr

/-- `CapDLNamedObject`. Every object is given a name. -/
structure NamedObject where
  name : String
  object : Object
  deriving DecidableEq, Repr

structure IrqEntry where
  irq : Word
  handler : ObjectId
  deriving DecidableEq, Repr

/-- `CapDLSpecContainer`. Every object is a root object. -/
structure Container where
  objects : List NamedObject
  irqs : List IrqEntry
  deriving DecidableEq, Repr

/-- The builder works on a container, which keeps what was done to it before a failure. -/
abbrev M := EStateM Failure Container

/-- `unreachable!`, `assert!` and `unwrap`. -/
def panicWith {α : Type} (message : String) : M α :=
  throw (.panicked message)

def fail {α : Type} (reason : String) : M α :=
  throw (.err reason)

/-- `add_root_object`. -/
def addRootObject (obj : NamedObject) : M ObjectId :=
  modifyGet fun c => (c.objects.length, { c with objects := c.objects ++ [obj] })

/-- `get_root_object(obj_id).unwrap()`. -/
def getRootObject (id : ObjectId) : M NamedObject := do
  match (← get).objects[id]? with
  | some obj => return obj
  | none => panicWith "called Option::unwrap() on a None value"

/-- What is done through `get_root_object_mut`. -/
def setObject (id : ObjectId) (obj : Object) : M Unit :=
  modify fun c => { c with objects := c.objects.modify id fun o => { o with object := obj } }

end NexsKernel.Capdl
