import NexsKernel.Capdl.Builder

/-!
# Sorting the objects

Step 5 of `build_capdl_spec`: the objects are sorted, those at a fixed address first and then by size, and every
reference is replaced by the new index. The indices before and after are related by the names of the objects.
-/

namespace NexsKernel.Capdl

open Sdf

/-! ## `spec.rs` -/

/-- `capdl_obj_physical_size_bits`. `SLOT_BITS` is 5. -/
def physicalSizeBits (config : Config) : Object → Nat
  | .endpoint => config.objectSizes.endpoint
  | .notification => config.objectSizes.notification
  | .cnode sizeBits _ => sizeBits + 5
  | .tcb _ _ => config.objectSizes.tcb
  | .vcpu => config.objectSizes.vcpu
  | .frame sizeBits _ _ => sizeBits
  | .pageTable table => if table.isRoot then config.objectSizes.vspace else config.objectSizes.pageTable
  | .schedContext sizeBits _ _ _ => sizeBits
  | .reply => config.objectSizes.reply
  | _ => 0

namespace Object

/-- `paddr`. -/
def paddr : Object → Option Word
  | .frame _ paddr _ => paddr
  | _ => none

/-- `slots`. -/
def slots : Object → Option (List CapTableEntry)
  | .cnode _ slots | .tcb slots _ | .armIrq slots _ _ | .riscvIrq slots _ | .irqIOApic slots _ _ _ _
  | .irqMsi slots _ _ _ _ => some slots
  | .pageTable table => some table.slots
  | _ => none

/-- What is done through `slots_mut`. -/
def setSlots (slots : List CapTableEntry) : Object → Object
  | .cnode sizeBits _ => .cnode sizeBits slots
  | .tcb _ extra => .tcb slots extra
  | .armIrq _ trigger target => .armIrq slots trigger target
  | .riscvIrq _ trigger => .riscvIrq slots trigger
  | .irqIOApic _ ioapic pin level polarity => .irqIOApic slots ioapic pin level polarity
  | .irqMsi _ handle pciBus pciDev pciFunc => .irqMsi slots handle pciBus pciDev pciFunc
  | .pageTable table => .pageTable { table with slots }
  | o => o

end Object

/-! ## Order -/

/-- The order of the objects by size, the larger first, and then by name. -/
def compareSize (config : Config) (a b : NamedObject) : Ordering :=
  (compare (physicalSizeBits config b.object) (physicalSizeBits config a.object)).then (compare a.name b.name)

/-- The closure of `sort_by`. -/
def compareObjects (config : Config) (a b : NamedObject) : Ordering :=
  match a.object.paddr, b.object.paddr with
  | none, some _ => .gt
  | some _, none => .lt
  | some p, some q => (compare p.toNat q.toNat).then (compareSize config a b)
  | none, none => compareSize config a b

/-- An object that is equal in order to a later one. -/
def findEqual (config : Config) : List NamedObject → Option NamedObject
  | [] => none
  | a :: objects => if objects.any (compareObjects config a · == .eq) then some a else findEqual config objects

/-- `sort_by`. Objects that are equal in order become neighbours, so that they are compared, and then it panics. -/
def sortObjects (config : Config) (objects : List NamedObject) : M (List NamedObject) :=
  match findEqual config objects with
  | some a => panicWith s!"internal error: entered unreachable code: internal bug: object names must be unique! {a.name}"
  | none => pure (objects.mergeSort fun a b => (compareObjects config a b).isLE)

/-! ## Indices -/

/-- The last element with a property. -/
def findLastIdx? {α : Type} (p : α → Bool) (xs : List α) : Option Nat :=
  (xs.zipIdx.reverse.find? (p ·.1)).map (·.2)

/-- `obj_name_to_old_id`: a name stands for the last object that has it. -/
def oldIdOf (objects : List NamedObject) (name : String) : Option ObjectId :=
  findLastIdx? (·.name == name) objects

/-- `obj_old_id_to_new_id`. -/
def newIdOf (objects sorted : List NamedObject) (id : ObjectId) : Option ObjectId :=
  findLastIdx? (fun obj => oldIdOf objects obj.name == some id) sorted

/-- An index is replaced. -/
def renumber (objects sorted : List NamedObject) (id : ObjectId) : M ObjectId :=
  match newIdOf objects sorted id with
  | some new => pure new
  | none => panicWith "no entry found for key"

def renumberEntry (objects sorted : List NamedObject) (cte : CapTableEntry) : M CapTableEntry := do
  let new ← renumber objects sorted cte.cap.obj
  return { cte with cap := cte.cap.setObj new }

def renumberObject (objects sorted : List NamedObject) (obj : NamedObject) : M NamedObject :=
  match obj.object.slots with
  | some slots => do
    let slots ← slots.mapM (renumberEntry objects sorted)
    return { obj with object := obj.object.setSlots slots }
  | none => pure obj

def renumberIrq (objects sorted : List NamedObject) (irq : IrqEntry) : M IrqEntry := do
  let handler ← renumber objects sorted irq.handler
  return { irq with handler }

/-- The entries of a CNode are sorted by their index. -/
def sortCnode (obj : NamedObject) : NamedObject :=
  match obj.object with
  | .cnode sizeBits slots => { obj with object := .cnode sizeBits (slots.mergeSort fun a b => a.slot ≤ b.slot) }
  | _ => obj

/-- Step 5. -/
def finishSpec (config : Config) : M Unit := do
  let c ← get
  let sorted ← sortObjects config c.objects
  let objects ← sorted.mapM (renumberObject c.objects sorted)
  let irqs ← c.irqs.mapM (renumberIrq c.objects sorted)
  set (⟨objects.map sortCnode, irqs.mergeSort fun a b => a.irq.toNat ≤ b.irq.toNat⟩ : Container)

/-- `build_capdl_spec`. -/
def buildCapdlSpec (config : Config) (elfs : List Elf) (system : SystemDescription) : M Unit := do
  buildObjects config elfs system
  finishSpec config

end NexsKernel.Capdl
