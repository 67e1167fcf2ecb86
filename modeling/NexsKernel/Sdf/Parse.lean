import NexsKernel.Sdf.Elements

/-!
# Parsing system descriptions

`parse`: the elements of the document are parsed one by one, the trees of protection domains are flattened to one
list, channels are resolved to indices of that list, and then everything is checked that concerns more than one
element. Last, memory regions get the largest pages that their addresses allow.
-/

namespace NexsKernel.Sdf

open Checks

/-- What reading the file of a `prefill_path` on the search paths yields. -/
inductive PrefillFile where
  | notFound
  | unreadable
  | content (bytes : List (BitVec 8))

/-- `MAX_PDS`. -/
def maxPds : Nat := 63

/-- `MONITOR_PD_NAME`. -/
def monitorPdName : String := "monitor"

/-- `round_up`. -/
def roundUp (n x : Word) : Word :=
  if n % x = 0 then n else n + x - n % x

/-- `From<u64>` of a `PageSize`. -/
def PageSize.ofBytes (size : Word) : Parse PageSize :=
  if size = 0x1000 then pure .small
  else if size = 0x200000 then pure .large
  else panicked s!"Unknown page size {hex size}"

section parse

variable (filename : String) (config : Config) (files : String → PrefillFile)

/-! ## `SysMemoryRegion` -/

/-- `determine_size`. -/
def SysMemoryRegion.determineSize (node : Node) (prefillBytes : Option (List (BitVec 8))) (pageSize : Word) :
    Parse Word :=
  match node.attr "size" with
  | some s => do
    let size ← sdfParseNumber s node
    failIf (size % pageSize ≠ 0) (valueError filename node "size is not a multiple of the page size")
    match prefillBytes with
    | some bytes => do
      let length := BitVec.ofNat 64 bytes.length
      failIf (size < length)
        (valueError filename node s!"size of prefill file exceeds memory region size: {hex length} > {hex size}")
      return size
    | none => return size
  | none =>
    match prefillBytes with
    | some bytes => pure (roundUp (BitVec.ofNat 64 bytes.length) pageSize)
    | none => .error (valueError filename node "size must be specified if memory region is not prefilled")

/-- The bytes of a `prefill_path`. -/
def SysMemoryRegion.prefill (node : Node) : Parse (Option (List (BitVec 8))) :=
  match node.attr "prefill_path" with
  | none => pure none
  | some path =>
    match files path with
    | .notFound => .error (valueError filename node s!"unable to find prefill file: '{path}'")
    | .unreadable => .error (valueError filename node s!"failed to read file '{path}' at prefill_path")
    | .content [] => .error (valueError filename node s!"prefill file '{path}' is empty")
    | .content bytes => pure (some bytes)

/-- `SysMemoryRegion::from_xml`. -/
def SysMemoryRegion.fromXml (node : Node) : Parse SysMemoryRegion := do
  checkAttributes filename node ["name", "size", "page_size", "phys_addr", "prefill_path"]
  let name ← checkedLookup filename node "name"
  let pageSize ← numberOr node "page_size" PageSize.small.bytes
  failIf (¬ Config.pageSizes.contains pageSize) (valueError filename node s!"page size 0x{hex pageSize} not supported")
  let prefillBytes ← SysMemoryRegion.prefill filename files node
  let size ← SysMemoryRegion.determineSize filename node prefillBytes pageSize
  let physAddr ←
    match node.attr "phys_addr" with
    | some s => do
      let paddr ← sdfParseNumber s node
      failIf (paddr % pageSize ≠ 0) (valueError filename node "phys_addr is not aligned to the page size")
      pure (.specified paddr)
    | none => pure .unspecified
  let pageCount := size / pageSize
  let pageSize ← PageSize.ofBytes pageSize
  return ⟨name, size, (node.attr "page_size").isSome, pageSize, pageCount, physAddr, node.pos, prefillBytes⟩

/-! ## `Channel` -/

/-- `ChannelEnd::from_xml`. -/
def ChannelEnd.fromXml (pds : List ProtectionDomain) (node : Node) : Parse ChannelEnd := do
  failIf (node.tag ≠ "end") (.err s!"Error: invalid XML element '{node.tag}': {locString filename node.pos}")
  checkAttributes filename node ["pd", "id", "pp", "notify", "setvar_id"]
  let endPd ← checkedLookup filename node "pd"
  let id ← parseId filename node
  let notify ← flagOr filename node "notify" true
  let pp ← flagOr filename node "pp" false
  let pd ← orFail (pds.findIdx? (·.name == endPd)) (valueError filename node s!"invalid PD name '{endPd}'")
  return ⟨pd, id, notify, pp, node.attr "setvar_id"⟩

/-- `Channel::from_xml`. -/
def Channel.fromXml (pds : List ProtectionDomain) (node : Node) : Parse Channel := do
  checkAttributes filename node []
  let ends ← node.elements.mapM (ChannelEnd.fromXml filename pds)
  match ends with
  | [endA, endB] =>
    failIf (endA.pp ∧ endB.pp) (valueError filename node "cannot ppc bidirectionally")
    return ⟨endA, endB⟩
  | _ => .error (valueError filename node "exactly two end elements must be specified")

/-! ## Flattening -/

/-- The keys of a list are new, and those of its elements differ. `seen` are the keys so far. -/
def checkUnique {α κ : Type} [BEq κ] (key : α → κ) (duplicate : α → Failure) (seen : List κ) :
    List α → Parse (List κ)
  | [] => pure seen
  | x :: xs => do
    failIf (seen.contains (key x)) (duplicate x)
    checkUnique key duplicate (seen ++ [key x]) xs

/-- The ids of the children of a protection domain. -/
def checkChildIds (pd : ProtectionDomain) (seen : List Word) : List PdTree → Parse Unit
  | [] => pure ()
  | child :: children => do
    let id := child.pd.id.getD 0
    let place := locString filename child.pd.textPos
    failIf (seen.contains id) (.err s!"Error: duplicate id: {id.toNat} in protection domain: '{pd.name}' @ {place}")
    failIf (pd.virtualMachine.any fun vm => vm.vcpus.any (·.id == id))
      (.err s!"Error: duplicate id: {id.toNat} clashes with virtual machine vcpu id in protection domain: '{pd.name}' @ {place}")
    checkChildIds pd (seen ++ [id]) children

mutual

/-- `pd_tree_to_list`: the tree from index `idx` on. -/
def pdTreeToList (parent : Option Nat) (idx : Nat) : PdTree → Parse (List ProtectionDomain)
  | .node pd childPds => do
    checkChildIds filename pd [] childPds
    let newChildPds ← childPdsToList idx [] childPds
    return { pd with parent } :: newChildPds

/-- The loop over the children of the protection domain at `parent`, with those before. -/
def childPdsToList (parent : Nat) (newChildPds : List ProtectionDomain) :
    List PdTree → Parse (List ProtectionDomain)
  | [] => pure newChildPds
  | child :: children => do
    let pds ← pdTreeToList (some parent) (parent + newChildPds.length + 1) child
    childPdsToList parent (newChildPds ++ pds) children

end

/-- `pd_flatten`. -/
def pdFlatten (pds : List PdTree) : Parse (List ProtectionDomain) :=
  pds.foldlM (fun allPds pd => do
    let list ← pdTreeToList filename none allPds.length pd
    pure (allPds ++ list)) []

/-! ## Checks -/

/-- There is nothing but whitespace in a text. -/
def checkBlank (content name : String) (pos : TextPos) : Parse Unit :=
  failIf (trim content.toList ≠ [])
    (.err s!"Error: unexpected text found in element '{name}' @ {locString filename pos}")

/-- `check_no_text`, of the element at the top. -/
def checkNoText (system : Node) : Parse Unit := do
  match system.children with
  | .text content _ :: _ => checkBlank filename content system.tag system.pos
  | _ => pure ()
  system.children.forM fun child =>
    match child with
    | .text content pos => checkBlank filename content "" pos
    | _ => pure ()

/-- Where a protection domain is in the file. -/
def pdPlace (pd : ProtectionDomain) : String :=
  s!"protection domain: '{pd.name}' @ {filename}:{pd.textPos.row}:{pd.textPos.col}"

/-- The protection domains of the description have different names. -/
def checkPds (pds : List ProtectionDomain) : Parse Unit := do
  failIf (pds = []) (.err "Error: at least one protection domain must be defined")
  failIf (maxPds < pds.length)
    (.err s!"Error: too many protection domains ({pds.length}) defined. Maximum is {maxPds}.")
  pds.forM fun pd => do
    failIf (1 < pds.countP (pd.name == ·.name)) (.err s!"Error: duplicate protection domain name '{pd.name}'.")
    failIf (pd.name = monitorPdName) (.err "Error: the PD name 'monitor' is reserved for the Microkit Monitor.")

def checkMrs (mrs : List SysMemoryRegion) : Parse Unit :=
  mrs.forM fun mr =>
    failIf (1 < mrs.countP (mr.name == ·.name)) (.err s!"Error: duplicate memory region name '{mr.name}'.")

def checkVms (pds : List ProtectionDomain) : Parse (List String) :=
  checkUnique (·.name) (fun vm => .err s!"Error: duplicate virtual machine name '{vm.name}'.") []
    (pds.filterMap (·.virtualMachine))

def checkIrqs (pds : List ProtectionDomain) : Parse (List Word) :=
  checkUnique (fun p => p.2.irqNum)
    (fun p => .err s!"Error: duplicate irq: {p.2.irqNum.toNat} in {pdPlace filename p.1}") []
    (pds.flatMap fun pd => pd.irqs.map (pd, ·))

/-- A channel id that a protection domain has already. -/
def duplicateId (pd : ProtectionDomain) (id : Word) : Failure :=
  .err s!"Error: duplicate channel id: {id.toNat} in {pdPlace filename pd}"

/-- The ids of interrupts, each with the index of its protection domain. -/
def checkIrqIds (pds : List ProtectionDomain) : Parse (List (Nat × Word)) :=
  checkUnique (fun p => (p.1, p.2.2.id)) (fun p => duplicateId filename p.2.1 p.2.2.id) []
    (pds.zipIdx.flatMap fun p => p.1.irqs.map fun irq => (p.2, p.1, irq))

/-- A protected procedure goes to a higher priority. -/
def checkPriority (source target : ProtectionDomain) : Parse Unit :=
  failIf (target.priority ≤ source.priority)
    (.err s!"Error: PPCs must be to protection domains of strictly higher priorities; channel with PPC exists from pd {source.name} (priority: {source.priority.toNat}) to pd {target.name} (priority: {target.priority.toNat})")

/-- One channel. `ids` are the ids so far, each with the index of its protection domain. -/
def checkChannel (pds : List ProtectionDomain) (ids : List (Nat × Word)) (ch : Channel) : Parse (List (Nat × Word)) :=
  match pds[ch.endA.pd]?, pds[ch.endB.pd]? with
  | some pdA, some pdB => do
    failIf (ids.contains (ch.endA.pd, ch.endA.id)) (duplicateId filename pdA ch.endA.id)
    failIf (ids.contains (ch.endB.pd, ch.endB.id)) (duplicateId filename pdB ch.endB.id)
    if ch.endA.pp ∧ pdB.priority ≤ pdA.priority then checkPriority pdA pdB
    else if ch.endB.pp then checkPriority pdB pdA
    return ids ++ [(ch.endA.pd, ch.endA.id), (ch.endB.pd, ch.endB.id)]
  | _, _ => panicked "index out of bounds"

def checkIoportIds (pds : List ProtectionDomain) : Parse Unit :=
  pds.forM fun pd => do
    let _ ← checkUnique (·.id)
      (fun ioport => .err s!"Error: duplicate I/O port id: {ioport.id.toNat} in {pdPlace filename pd}") [] pd.ioports

/-- A list of ranges, none of which overlaps one before it. `checked` are those so far. -/
def checkRanges {α : Type} (range : α → Word × Word) (overlap : α → α → Failure) (checked : List α) :
    List α → Parse (List α)
  | [] => pure checked
  | x :: xs =>
    match checked.find? fun y => ¬ ((range y).2 ≤ (range x).1 ∨ (range x).2 ≤ (range y).1) with
    | some y => .error (overlap x y)
    | none => checkRanges range overlap (checked ++ [x]) xs

/-- The ports of an I/O port, which are a range. -/
def ioportText (p : ProtectionDomain × IOPort) : String :=
  let place := s!"{p.1.name}' @ {filename}:{p.2.textPos.row}:{p.2.textPos.col}"
  s!"I/O port id: {p.2.id.toNat}, half-open range: [0x{hex p.2.addr}, 0x{hex (p.2.addr + p.2.size)}) in protection domain: '{place}"

def checkIoportRanges (pds : List ProtectionDomain) : Parse (List (ProtectionDomain × IOPort)) :=
  checkRanges (fun p => (p.2.addr, p.2.addr + p.2.size))
    (fun p seen => .err s!"Error: {ioportText filename p} overlaps with {ioportText filename seen}") []
    (pds.flatMap fun pd => pd.ioports.map (pd, ·))

/-- The memory region of a map. -/
def findMr (mrs : List SysMemoryRegion) (map : SysMap) : Option SysMemoryRegion :=
  mrs.find? (·.name == map.mr)

/-- The loop of `check_maps`. `kind` and `name` are those of the protection domain or virtual machine, and `checked`
are the maps so far, with their ends. -/
def checkMaps (mrs : List SysMemoryRegion) (kind name : String) (checked : List (SysMap × Word)) :
    List SysMap → Parse Unit
  | [] => pure ()
  | map :: maps =>
    match findMr mrs map with
    | some mr => do
      failIf (map.vaddr % mr.pageSizeBytes ≠ 0)
        (.err s!"Error: invalid vaddr alignment on 'map' @ {locString filename map.textPos}")
      let mapEnd := map.vaddr + mr.size
      match checked.find? fun c => ¬ (c.2 ≤ map.vaddr ∨ mapEnd ≤ c.1.vaddr) with
      | some c =>
        err s!"Error: map for '{map.mr}' has virtual address range [0x{hex map.vaddr}..0x{hex mapEnd}) which overlaps with map for '{c.1.mr}' [0x{hex c.1.vaddr}..0x{hex c.2}) in {kind} '{name}' @ {locString filename map.textPos}"
      | none => checkMaps mrs kind name (checked ++ [(map, mapEnd)]) maps
    | none => err s!"Error: invalid memory region name '{map.mr}' on 'map' @ {locString filename map.textPos}"

def checkAllMaps (mrs : List SysMemoryRegion) (pds : List ProtectionDomain) : Parse Unit :=
  pds.forM fun pd => do
    checkMaps filename mrs "protection domain" pd.name [] pd.maps
    match pd.virtualMachine with
    | some vm => checkMaps filename mrs "virtual machine" vm.name [] vm.maps
    | none => pure ()

/-- The physical address of a memory region that the description specifies. -/
def SysMemoryRegion.specifiedPaddr (mr : SysMemoryRegion) : Option Word :=
  match mr.physAddr with
  | .specified paddr => some paddr
  | _ => none

/-- A memory region and its physical range. -/
def regionText (mr : SysMemoryRegion) (paddr : Word) : String :=
  s!"memory region '{mr.name}' physical address range [0x{hex paddr}..0x{hex (paddr + mr.size)})"

def checkPaddrs (mrs : List SysMemoryRegion) : Parse (List (SysMemoryRegion × Word)) :=
  checkRanges (fun p => (p.2, p.2 + p.1.size))
    (fun p seen => .err s!"Error: {regionText p.1 p.2} overlaps with another memory region '{seen.1.name}' [0x{hex seen.2}..0x{hex (seen.2 + seen.1.size)}) @ {locString filename p.1.textPos}")
    [] (mrs.filterMap fun mr => mr.specifiedPaddr.map (mr, ·))

/-! ## Page sizes -/

/-- `optimal_page_size`. -/
def SysMemoryRegion.optimalPageSize (mr : SysMemoryRegion) : Parse Word :=
  match Config.pageSizes.reverse.find? (mr.size % · == 0) with
  | some size => pure size
  | none => panicked "Internal error: size is not aligned to minimum page size"

def allMaps (pds : List ProtectionDomain) : List SysMap :=
  pds.flatMap fun pd => pd.maps ++ (pd.virtualMachine.map (·.maps)).getD []

/-- The addresses that a memory region will have. -/
def SysMemoryRegion.addrs (mr : SysMemoryRegion) (maps : List SysMap) : List Word :=
  (maps.filter (·.mr == mr.name)).map (·.vaddr) ++ mr.specifiedPaddr.toList

/-- Pages are made as large as all the addresses allow, where the description does not say. -/
def SysMemoryRegion.optimisePageSize (maps : List SysMap) (mr : SysMemoryRegion) : Parse SysMemoryRegion := do
  if mr.pageSizeSpecifiedByUser then return mr
  let largest ← mr.optimalPageSize
  if mr.pageSizeBytes = largest then return mr
  let larger := (Config.pageSizes.filter (mr.pageSizeBytes < ·)).reverse
  larger.foldlM (fun mr' size => do
    if (mr.addrs maps).any (· % size != 0) then return mr'
    let pageSize ← PageSize.ofBytes size
    return { mr' with pageSize, pageCount := mr'.size / pageSize.bytes }) mr

/-! ## Setvars -/

def checkPrefillSetvars (mrs : List SysMemoryRegion) (pds : List ProtectionDomain) : Parse Unit :=
  pds.forM fun pd => pd.setvars.forM fun setvar =>
    match setvar.kind with
    | .prefillSize name => mrs.forM fun mr =>
      failIf (mr.name = name ∧ mr.prefillBytes = none)
        (.err s!"Error: 'setvar_prefill_size' used for MR without a `prefill_path` @ '{mr.name}' {locString filename mr.textPos}")
    | _ => pure ()

/-- The memory regions whose physical address is asked for. -/
def paddrSetvars (pds : List ProtectionDomain) : List String :=
  pds.flatMap fun pd => pd.setvars.filterMap fun setvar =>
    match setvar.kind with
    | .paddr region => some region
    | _ => none

/-- The tool allocates the physical address of a memory region if it is asked for and not specified. -/
def SysMemoryRegion.toolAllocate (names : List String) (mr : SysMemoryRegion) : Parse SysMemoryRegion := do
  if names.contains mr.name ∧ mr.physAddr = .unspecified then
    match config.arch with
    | .aarch64 | .riscv64 => return { mr with physAddr := .toolAllocated none }
    | .x86_64 =>
      err s!"Error: setvar with 'region_paddr' for MR without a specified paddr is unsupported on x86-64 @ '{mr.name}' {locString filename mr.textPos}"
  else return mr

/-! ## `parse` -/

/-- What has been parsed at the top: the trees of protection domains, the memory regions, and the channels, which
are resolved later. -/
structure SystemBody where
  rootPds : List PdTree
  mrs : List SysMemoryRegion
  channelNodes : List Node

/-- One element at the top. -/
def SystemBody.addElement (body : SystemBody) (child : Node) : Parse SystemBody := do
  if child.tag = "protection_domain" then
    let pd ← ProtectionDomain.fromXml filename config false child
    return { body with rootPds := body.rootPds ++ [pd] }
  else if child.tag = "channel" then
    return { body with channelNodes := body.channelNodes ++ [child] }
  else if child.tag = "memory_region" then
    let mr ← SysMemoryRegion.fromXml filename files child
    return { body with mrs := body.mrs ++ [mr] }
  else if child.tag = "virtual_machine" then
    err s!"Error: virtual machine must be a child of a protection domain: {locString filename child.pos}"
  else
    err s!"Error: invalid XML element '{child.tag}': {locString filename child.pos}"

/-- The setvar of a channel end goes to its protection domain. -/
def addEndSetvar (pds : List ProtectionDomain) (channelEnd : ChannelEnd) (node : Node) :
    Parse (List ProtectionDomain) :=
  match channelEnd.setvarId, pds[channelEnd.pd]? with
  | some symbol, some pd => do
    let setvars ← checkedAddSetvar filename pd.setvars ⟨symbol, .id channelEnd.id⟩ node
    return pds.set channelEnd.pd { pd with setvars }
  | _, _ => pure pds

/-- One channel. -/
def addChannel (acc : List ProtectionDomain × List Channel) (node : Node) :
    Parse (List ProtectionDomain × List Channel) := do
  let (pds, channels) := acc
  let ch ← Channel.fromXml filename pds node
  let pds ← addEndSetvar filename pds ch.endA node
  let pds ← addEndSetvar filename pds ch.endB node
  return (pds, channels ++ [ch])

/-- The checks between elements. -/
def checkSystem (pds : List ProtectionDomain) (mrs : List SysMemoryRegion) (channels : List Channel) : Parse Unit := do
  checkPds pds
  checkMrs mrs
  let _ ← checkVms pds
  let _ ← checkIrqs filename pds
  let ids ← checkIrqIds filename pds
  let _ ← channels.foldlM (checkChannel filename pds) ids
  checkIoportIds filename pds
  let _ ← checkIoportRanges filename pds
  checkAllMaps filename mrs pds
  let _ ← checkPaddrs filename mrs

/-- `parse`. `doc` are the nodes of the document, or why it is none. -/
def parse (doc : Except String (List Node)) : Parse SystemDescription :=
  match doc with
  | .error reason => err s!"Could not parse '{filename}': {reason}"
  | .ok nodes =>
    match nodes.find? (·.tag == "system") with
    | none => panicked "called `Option::unwrap()` on a `None` value"
    | some system => do
      checkNoText filename system
      let body ← system.elements.foldlM (SystemBody.addElement filename config files) ⟨[], [], []⟩
      let pds ← pdFlatten filename body.rootPds
      let (pds, channels) ← body.channelNodes.foldlM (addChannel filename) (pds, [])
      checkSystem filename pds body.mrs channels
      let mrs ← body.mrs.mapM (SysMemoryRegion.optimisePageSize (allMaps pds))
      checkPrefillSetvars filename mrs pds
      let mrs ← mrs.mapM (SysMemoryRegion.toolAllocate filename config (paddrSetvars pds))
      return ⟨pds, mrs, channels⟩

end parse

end NexsKernel.Sdf
