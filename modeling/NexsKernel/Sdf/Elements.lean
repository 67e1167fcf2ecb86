import NexsKernel.Sdf.Description

/-!
# Parsing elements

The functions `from_xml`: each parses one element and the elements in it. An element is checked by itself; what is
checked between elements comes afterwards (`Parse`).
-/

namespace NexsKernel.Sdf

open Checks

/-- `PD_MAX_ID` and `VCPU_MAX_ID`. -/
def pdMaxId : Nat := 61

/-- `PD_MAX_PRIORITY`. -/
def pdMaxPriority : Nat := 254

/-- `BUDGET_DEFAULT`. -/
def budgetDefault : Word := 1000

/-- `PD_DEFAULT_STACK_SIZE`. -/
def pdDefaultStackSize : Word := 0x2000

/-- `PD_MIN_STACK_SIZE`. -/
def pdMinStackSize : Word := 0x1000

/-- `PD_MAX_STACK_SIZE`. -/
def pdMaxStackSize : Word := 0x1000000

/-- `X86_IRQ_VECTOR_MAX`. -/
def x86IrqVectorMax : Int := 107

/-- `PCI_BUS_MAX`, `PCI_DEV_MAX` and `PCI_FUNC_MAX`. -/
def pciBusMax : Int := 255
def pciDevMax : Int := 31
def pciFuncMax : Int := 7

section elements

variable (filename : String) (config : Config)

/-- `checked_add_setvar`. -/
def checkedAddSetvar (setvars : List SysSetVar) (setvar : SysSetVar) (node : Node) : Parse (List SysSetVar) := do
  failIf (setvars.any (·.symbol == setvar.symbol))
    (valueError filename node s!"setvar on symbol '{setvar.symbol}' already exists")
  return setvars ++ [setvar]

/-- The setvar that an attribute asks for. -/
def setvarOf (setvars : List SysSetVar) (symbol : Option String) (kind : SysSetVarKind) (node : Node) :
    Parse (List SysSetVar) :=
  match symbol with
  | some symbol => checkedAddSetvar filename setvars ⟨symbol, kind⟩ node
  | none => pure setvars

/-- An `id` of a channel end, an interrupt or an I/O port. -/
def parseId (node : Node) : Parse Word := do
  let id ← parseI64 filename node "id"
  failIf (pdMaxId < id) (valueError filename node s!"id must be < {pdMaxId + 1}")
  failIf (id < 0) (valueError filename node "id must be >= 0")
  return BitVec.ofInt 64 id

/-! ## `SysMap` -/

/-- `SysMapPerms::from_str`. -/
def permsFromStr (s : String) : Option (BitVec 8) :=
  s.toList.foldlM (fun perms c =>
    match c with
    | 'r' => some (perms ||| permRead)
    | 'w' => some (perms ||| permWrite)
    | 'x' => some (perms ||| permExecute)
    | _ => none) 0

/-- `SysMap::from_xml`. -/
def SysMap.fromXml (node : Node) (allowSetvar : Bool) (maxVaddr : Word) : Parse SysMap := do
  let setvarAttrs := if allowSetvar then ["setvar_vaddr", "setvar_size", "setvar_prefill_size"] else []
  checkAttributes filename node (["mr", "vaddr", "perms", "cached"] ++ setvarAttrs)
  let mr ← checkedLookup filename node "mr"
  let vaddr ← sdfParseNumber (← checkedLookup filename node "vaddr") node
  failIf (maxVaddr ≤ vaddr)
    (valueError filename node s!"vaddr (0x{hex vaddr}) must be less than 0x{hex maxVaddr}")
  let perms ←
    match node.attr "perms" with
    | some s =>
      orFail (permsFromStr s) (valueError filename node "perms must only be a combination of 'r', 'w', and 'x'")
    | none => pure (permRead ||| permWrite)
  -- the kernel does not allow them on any architecture
  failIf (perms = permWrite)
    (valueError filename node "perms must not be 'w', write-only mappings are not allowed")
  let cached ← flagOr filename node "cached" true
  return ⟨mr, vaddr, perms, cached, node.pos⟩

/-! ## Interrupts -/

/-- A number that may not be negative. -/
def nonNegative (node : Node) (name : String) (v : Int) : Parse Word := do
  failIf (v < 0) (valueError filename node s!"{name} must be >= 0")
  return BitVec.ofInt 64 v

/-- The `vector` of an interrupt on x86. -/
def parseVector (node : Node) : Parse Word := do
  let vector ← parseI64 filename node "vector"
  failIf (¬ (0 ≤ vector ∧ vector ≤ x86IrqVectorMax))
    (valueError filename node s!"vector must be within [0..{x86IrqVectorMax}]")
  return BitVec.ofInt 64 vector

/-- A part of a PCI address, which is hexadecimal. -/
def pciPart (node : Node) (address : String) (part : List Char) (what shortName : String) (max : Int) : Parse Word :=
  match fromStrI64 16 part with
  | .ok v => do
    failIf (¬ (0 ≤ v ∧ v ≤ max)) (valueError filename node s!"{what} must be within [0..{max}]")
    return BitVec.ofInt 64 v
  | .error _ => err s!"Error: failed to parse PCI {shortName} of '{address}' on element '{node.tag}'"

/-- The three branches of an interrupt, by the attribute that it has. -/
def SysIrqKind.fromXml (node : Node) : Parse (Option SysIrqKind) :=
  match node.attr "irq", node.attr "pin", node.attr "pcidev" with
  | some irq, _, _ => do
    failIf (config.arch = .x86_64) (valueError filename node "ARM and RISC-V IRQs are not supported on x86")
    checkAttributes filename node ["irq", "id", "setvar_id", "trigger"]
    let irq ← unwrapInt (fromStrU64 10 irq.toList)
    let trigger ←
      match node.attr "trigger" with
      | some "level" => pure .level
      | some "edge" => pure .edge
      | some _ => .error (valueError filename node "trigger must be either 'level' or 'edge'")
      | none => pure .level
    return some (.conventional (BitVec.ofInt 64 irq) trigger)
  | none, some pin, _ => do
    failIf (config.arch ≠ .x86_64) (valueError filename node "x86 I/O APIC IRQ isn't supported on ARM and RISC-V")
    checkAttributes filename node ["id", "setvar_id", "ioapic", "pin", "trigger", "polarity", "vector"]
    let ioapic ←
      match node.attr "ioapic" with
      | some s => unwrapInt (fromStrI64 10 s.toList)
      | none => pure 0
    let ioapic ← nonNegative filename node "ioapic" ioapic
    let pin ← nonNegative filename node "pin" (← unwrapInt (fromStrI64 10 pin.toList))
    let trigger ←
      match node.attr "trigger" with
      | some "level" => pure .level
      | some "edge" => pure .edge
      | some _ => .error (valueError filename node "trigger must be either 'level' or 'edge'")
      | none => pure .level
    let polarity ←
      match node.attr "polarity" with
      | some "low" => pure .lowTriggered
      | some "high" => pure .highTriggered
      | some _ => .error (valueError filename node "polarity must be either 'low' or 'high'")
      | none => pure .highTriggered
    let vector ← parseVector filename node
    return some (.ioapic ioapic pin trigger polarity vector)
  | none, none, some pcidev => do
    failIf (config.arch ≠ .x86_64) (valueError filename node "x86 MSI IRQ isn't supported on ARM and RISC-V")
    checkAttributes filename node ["id", "setvar_id", "pcidev", "handle", "vector"]
    let malformed := Failure.err s!"Error: failed to parse PCI address '{pcidev}' on element '{node.tag}'"
    -- bus:dev.func
    match (pcidev.toList.splitOn ':').map trim with
    | [bus, devFunc] =>
      match (devFunc.splitOn '.').map trim with
      | [dev, func] =>
        let bus ← pciPart filename node pcidev bus "PCI bus" "bus" pciBusMax
        let dev ← pciPart filename node pcidev dev "PCI device" "device" pciDevMax
        let func ← pciPart filename node pcidev func "PCI function" "function" pciFuncMax
        let handle ← nonNegative filename node "handle" (← parseI64 filename node "handle")
        let vector ← parseVector filename node
        return some (.msi bus dev func handle vector)
      | _ => .error malformed
    | _ => .error malformed
  | none, none, none => do
    -- one of the attributes is missing
    match config.arch with
    | .aarch64 | .riscv64 => let _ ← checkedLookup filename node "irq"
    | .x86_64 =>
      let _ ← checkedLookup filename node "pin"
      let _ ← checkedLookup filename node "pcidev"
    return none

/-! ## `VirtualMachine` -/

/-- `sdf_parse_number(..)?.try_into().expect(..)`, for a `u8`. -/
def parseCpu (s : String) (node : Node) (expected : String) : Parse Nat := do
  let cpu ← sdfParseNumber s node
  if cpu.toNat < 256 then pure cpu.toNat else panicked s!"{expected}: TryFromIntError(())"

/-- `budget` and `period` of a protection domain or a virtual machine. -/
def parseBudget (node : Node) : Parse (Word × Word) := do
  let budget ← numberOr node "budget" budgetDefault
  let period ← numberOr node "period" budget
  failIf (period < budget)
    (valueError filename node s!"budget ({budget.toNat}) must be less than, or equal to, period ({period.toNat})")
  return (budget, period)

/-- A `vcpu` in a virtual machine. -/
def VirtualCpu.fromXml (node child : Node) (vmName : String) (vcpus : List VirtualCpu) : Parse VirtualCpu := do
  checkAttributes filename child ["id", "setvar_id", "cpu"]
  let id ← unwrapInt (fromStrU64 10 (← checkedLookup filename child "id").toList)
  let id := BitVec.ofInt 64 id
  failIf (pdMaxId < id.toNat) (valueError filename child s!"id must be < {pdMaxId + 1}")
  failIf (vcpus.any (·.id == id))
    (.err s!"Error: duplicate vcpu id {id.toNat} in virtual machine '{vmName}' @ {locString filename child.pos}")
  -- of the virtual machine, not of the vcpu
  let setvarId := node.attr "setvar_id"
  let cpu ←
    match child.attr "cpu" with
    | some s => do
      let cpu ← parseCpu s node "cpu # fits in u8"
      failIf (config.numCores ≤ cpu)
        (valueError filename child s!"cpu core must be less than {config.numCores}, got {cpu}")
      pure (some cpu)
    | none => pure none
  return ⟨id, setvarId, cpu⟩

/-- One element in a virtual machine. -/
def VirtualMachine.addChild (node : Node) (vmName : String) (acc : List VirtualCpu × List SysMap) (child : Node) :
    Parse (List VirtualCpu × List SysMap) := do
  let (vcpus, maps) := acc
  if child.tag = "vcpu" then
    let vcpu ← VirtualCpu.fromXml filename config node child vmName vcpus
    return (vcpus ++ [vcpu], maps)
  else if child.tag = "map" then
    let map ← SysMap.fromXml filename child false config.vmMapMaxVaddr
    return (vcpus, maps ++ [map])
  else
    err s!"Error: invalid XML element '{child.tag}': {locString filename node.pos}"

/-- `VirtualMachine::from_xml`. -/
def VirtualMachine.fromXml (node : Node) : Parse VirtualMachine := do
  checkAttributes filename node ["name", "budget", "period", "priority"]
  let name ← checkedLookup filename node "name"
  let (budget, period) ← parseBudget filename node
  let priority ← numberOr node "priority" 0
  let (vcpus, maps) ← node.elements.foldlM (VirtualMachine.addChild filename config node name) ([], [])
  failIf (vcpus = []) (.err s!"Error: missing 'vcpu' element on virtual_machine: '{name}'")
  return ⟨vcpus, name, maps, priority.setWidth 8, budget, period⟩

/-! ## `ProtectionDomain` -/

/-- An I/O port of the protection domain `node`. -/
def IOPort.fromXml (node child : Node) (setvars : List SysSetVar) : Parse (IOPort × List SysSetVar) := do
  failIf (config.arch ≠ .x86_64) (valueError filename node "I/O Ports are only available on x86")
  checkAttributes filename child ["id", "setvar_id", "setvar_addr", "addr", "size"]
  let id ← parseId filename child
  let setvars ← setvarOf filename setvars (child.attr "setvar_id") (.id id) child
  let addr ← sdfParseNumber (← checkedLookup filename child "addr") child
  let setvars ← setvarOf filename setvars (child.attr "setvar_addr") (.x86IoPortAddr addr) child
  let size ← parseI64 filename child "size"
  failIf (size ≤ 0) (valueError filename child "size must be > 0")
  return (⟨id, addr, BitVec.ofInt 64 size, node.pos⟩, setvars)

/-- What has been parsed in a protection domain. -/
structure PdBody where
  maps : List SysMap
  irqs : List SysIrq
  ioports : List IOPort
  setvars : List SysSetVar
  childPds : List PdTree
  programImage : Option String
  programImageForSymbols : Option String
  virtualMachine : Option VirtualMachine

/-- One element in a protection domain, other than a `protection_domain`. -/
def PdBody.addElement (node : Node) (stackSize : Word) (body : PdBody) (child : Node) : Parse PdBody := do
  if child.tag = "program_image" then
    checkAttributes filename child ["path", "path_for_symbols"]
    failIf body.programImage.isSome (valueError filename node "program_image must only be specified once")
    let path ← checkedLookup filename child "path"
    return { body with programImage := some path, programImageForSymbols := child.attr "path_for_symbols" }
  else if child.tag = "map" then
    let map ← SysMap.fromXml filename child true (config.pdMapMaxVaddr stackSize)
    let setvars ← setvarOf filename body.setvars (child.attr "setvar_vaddr") (.vaddr map.vaddr) child
    let setvars ← setvarOf filename setvars (child.attr "setvar_size") (.size map.mr) child
    let setvars ← setvarOf filename setvars (child.attr "setvar_prefill_size") (.prefillSize map.mr) child
    return { body with maps := body.maps ++ [map], setvars }
  else if child.tag = "irq" then
    let id ← parseId filename child
    let setvars ← setvarOf filename body.setvars (child.attr "setvar_id") (.id id) child
    let kind ← SysIrqKind.fromXml filename config child
    return { body with irqs := body.irqs ++ (kind.map (⟨id, ·⟩)).toList, setvars }
  else if child.tag = "ioport" then
    let (ioport, setvars) ← IOPort.fromXml filename config node child body.setvars
    return { body with ioports := body.ioports ++ [ioport], setvars }
  else if child.tag = "setvar" then
    checkAttributes filename child ["symbol", "region_paddr"]
    let symbol ← checkedLookup filename child "symbol"
    let region ← checkedLookup filename child "region_paddr"
    let setvars ← checkedAddSetvar filename body.setvars ⟨symbol, .paddr region⟩ child
    return { body with setvars }
  else if child.tag = "virtual_machine" then
    failIf (config.hypervisor = false)
      (valueError filename node "seL4 has not been built as a hypervisor, virtual machines are disabled")
    failIf body.virtualMachine.isSome (valueError filename node "virtual_machine must only be specified once")
    let vm ← VirtualMachine.fromXml filename config child
    let setvars ← vm.vcpus.foldlM (fun setvars vcpu =>
      setvarOf filename setvars vcpu.setvarId (.id vcpu.id) child) body.setvars
    return { body with virtualMachine := some vm, setvars }
  else
    err s!"Invalid XML element '{child.tag}': {locString filename child.pos}"

/-- A child protection domain has been parsed. -/
def PdBody.addChildPd (body : PdBody) (childPd : PdTree) (child : Node) : Parse PdBody := do
  let setvars ← setvarOf filename body.setvars childPd.pd.setvarId (.id (childPd.pd.id.getD 0)) child
  return { body with childPds := body.childPds ++ [childPd], setvars }

/-- The attributes of a protection domain. -/
def ProtectionDomain.header (node : Node) (isChild : Bool) : Parse ProtectionDomain := do
  let childAttrs := if isChild then ["id", "setvar_id"] else []
  checkAttributes filename node
    (["name", "priority", "budget", "period", "passive", "stack_size", "smc", "cpu", "fpu"] ++ childAttrs)
  let name ← checkedLookup filename node "name"
  let id ←
    if isChild then do
      let id ← sdfParseNumber (← checkedLookup filename node "id") node
      pure (some id)
    else pure none
  let setvarId := if isChild then node.attr "setvar_id" else none
  let (budget, period) ← parseBudget filename node
  let passive ← flagOr filename node "passive" false
  let stackSize ← numberOr node "stack_size" pdDefaultStackSize
  let smc ← flagOr filename node "smc" false
  if smc then
    match config.armSmc with
    | some allowed =>
      failIf (allowed = false)
        (valueError filename node
          "Using SMC support without ARM SMC forwarding support enabled in the kernel for this platform")
    | none => err "ARM SMC forwarding support is not available for this architecture"
  let cpu ← parseCpu ((node.attr "cpu").getD "0") node "cpu core must be between 0 and 255"
  failIf (config.numCores ≤ cpu) (valueError filename node s!"cpu core must be less than {config.numCores}, got {cpu}")
  failIf (stackSize < pdMinStackSize ∨ pdMaxStackSize < stackSize)
    (valueError filename node
      s!"stack size must be between 0x{hex pdMinStackSize} bytes and 0x{hex pdMaxStackSize} bytes")
  failIf (stackSize % PageSize.small.bytes ≠ 0)
    (valueError filename node
      s!"stack size must be aligned to the smallest page size, {PageSize.small.bytes.toNat} bytes")
  let priority ← numberOr node "priority" 0
  failIf (pdMaxPriority < priority.toNat)
    (valueError filename node s!"priority must be between 0 and {pdMaxPriority}")
  let fpu ← flagOr filename node "fpu" true
  return {
    id, name, priority := priority.setWidth 8, budget, period, passive, stackSize, smc, cpu
    programImage := "", programImageForSymbols := none, fpu
    maps := [], irqs := [], ioports := [], setvars := [], virtualMachine := none, hasChildren := false
    parent := none, setvarId, textPos := node.pos }

/-- What was parsed in the protection domain goes into it. -/
def PdBody.finish (body : PdBody) (pd : ProtectionDomain) : Parse PdTree := do
  let programImage ←
    orFail body.programImage (.err s!"Error: missing 'program_image' element on protection_domain: '{pd.name}'")
  return .node
    { pd with
      programImage, programImageForSymbols := body.programImageForSymbols
      maps := body.maps, irqs := body.irqs, ioports := body.ioports, setvars := body.setvars
      virtualMachine := body.virtualMachine, hasChildren := !body.childPds.isEmpty }
    body.childPds

mutual

/-- `ProtectionDomain::from_xml`. -/
def ProtectionDomain.fromXml (isChild : Bool) (node : Node) : Parse PdTree := do
  let pd ← ProtectionDomain.header filename config node isChild
  let body ←
    match node with
    | .element tag attributes pos children =>
      PdBody.addChildren (.element tag attributes pos children) pd.stackSize ⟨[], [], [], [], [], none, none,
        none⟩ children
    | _ => pure ⟨[], [], [], [], [], none, none, none⟩
  body.finish pd

/-- The loop over the children of the protection domain `node`. -/
def PdBody.addChildren (node : Node) (stackSize : Word) (body : PdBody) : List Node → Parse PdBody
  | [] => pure body
  | child :: rest => do
    let body ←
      if child.isElement = false then pure body
      else if child.tag = "protection_domain" then do
        let childPd ← ProtectionDomain.fromXml true child
        body.addChildPd filename childPd child
      else body.addElement filename config node stackSize child
    PdBody.addChildren node stackSize body rest

end

end elements

end NexsKernel.Sdf
