import NexsKernel.Sdf.Parse
import NexsKernel.Capdl.Memory

/-!
# Building the spec

Steps 1 to 4 of `build_capdl_spec` (`builder.rs`), with the functions of `util.rs` and `irq.rs` that it is made of: the
objects of the monitor, the frames of the memory regions, the objects of each protection domain with its virtual
machine, and the channels.
-/

namespace NexsKernel.Capdl

open Sdf

/-! ## `util.rs` -/

/-- `fixed_size_bits` of a page. -/
def fixedSizeBits (config : Config) : Sdf.PageSize → Nat
  | .small => config.objectSizes.smallPage
  | .large => config.objectSizes.largePage

/-- `{:09}`. -/
def pad9 (n : Nat) : String :=
  let digits := Nat.toDigits 10 n
  String.ofList (List.replicate (9 - digits.length) '0' ++ digits)

/-- `min`. -/
def wordMin (a b : Word) : Word :=
  if a ≤ b then a else b

/-- The rights of a capability to an endpoint or a notification. -/
def rwg (grant : Bool) : Rights := ⟨true, true, grant, false⟩

def makeFrameObj (init : List FillEntry) (name : String) (paddr : Option Word) (sizeBits : Nat) : M ObjectId :=
  addRootObject ⟨s!"frame_{name}", .frame sizeBits paddr init⟩

def makeFrameCap (frame : ObjectId) (read write executable cached : Bool) : Cap :=
  .frame ⟨frame, ⟨read, write, false, false⟩, cached, executable⟩

def makeEndpointObj (pdName : String) (isFault : Bool) : M ObjectId :=
  let kind := if isFault then "fault_" else ""
  addRootObject ⟨s!"ep_{kind}{pdName}", .endpoint⟩

def makeEndpointCap (ep : ObjectId) (badge : Word) : Cap :=
  .endpoint ep badge (rwg true)

def makeNtfnObj (pdName : String) : M ObjectId :=
  addRootObject ⟨s!"ntfn_{pdName}", .notification⟩

def makeNtfnCap (ntfn : ObjectId) (badge : Word) : Cap :=
  .notification ntfn badge (rwg false)

def makeReplyObj (pdName : String) : M ObjectId :=
  addRootObject ⟨s!"reply_{pdName}", .reply⟩

def makeScObj (pdName : String) (sizeBits : Nat) (period budget badge : Word) : M ObjectId :=
  addRootObject ⟨s!"sched_context_{pdName}", .schedContext sizeBits period budget badge⟩

def makeCnodeObj (pdName : String) (sizeBits : Nat) (slots : List CapTableEntry) : M ObjectId :=
  addRootObject ⟨s!"cnode_{pdName}", .cnode sizeBits slots⟩

def makeIoportObj (pdName : String) (startAddr size : Word) : M ObjectId :=
  addRootObject ⟨s!"ioports_0x{hex startAddr}_{pdName}", .ioPorts startAddr (startAddr + size - 1)⟩

def makeVcpuObj (name : String) : M ObjectId :=
  addRootObject ⟨s!"vcpu_{name}", .vcpu⟩

/-- `capdl_util_get_vspace_id_from_tcb_id`. -/
def getVspaceIdFromTcbId (tcb : ObjectId) : M ObjectId := do
  let obj ← getRootObject tcb
  match obj.object with
  | .tcb slots _ =>
    match slots.find? fun cte => match cte.cap with | .pageTable _ => true | _ => false with
    | some cte => return cte.cap.obj
    | none => panicWith "called `Option::unwrap()` on a `None` value"
  | _ =>
    panicWith s!"get_vspace_id_from_tcb_id(): internal bug: got a non TCB object id {tcb} with name '{obj.name}'"

/-- `capdl_util_get_frame_size_bits`. -/
def getFrameSizeBits (frame : ObjectId) : M Nat := do
  match (← getRootObject frame).object with
  | .frame sizeBits _ _ => return sizeBits
  | _ => panicWith "internal bug: capdl_util_get_frame_size_bits() received a non Frame object ID"

/-! ## Layout -/

/-- `PD_CAP_BITS`. -/
def pdCapBits : Nat := 9

/-- `PD_CAP_SIZE`. -/
def pdCapSize : Nat := 512

/-- `MON_FAULT_EP_CAP_IDX` and so on: where capabilities are in the CSpace of the monitor. -/
def monFaultEpCapIdx : Nat := 1
def monReplyCapIdx : Nat := 2
def monBasePdTcbCap : Nat := 10
def monBaseVmTcbCap : Nat := monBasePdTcbCap + 64
def monBaseSchedContextCap : Nat := monBaseVmTcbCap + 64
def monBaseNotificationCap : Nat := monBaseSchedContextCap + 64

/-- `PD_INPUT_CAP_IDX` and so on: where they are in the CSpace of a protection domain. -/
def pdInputCapIdx : Nat := 1
def pdFaultEpCapIdx : Nat := 2
def pdVspaceCapIdx : Nat := 3
def pdReplyCapIdx : Nat := 4
def pdMonitorEpCapIdx : Nat := 5
def pdTcbCapIdx : Nat := 6
def pdArmSmcCapIdx : Nat := 7
def pdBaseOutputNotificationCap : Nat := 10
def pdBaseOutputEndpointCap : Nat := pdBaseOutputNotificationCap + 64
def pdBaseIrqCap : Nat := pdBaseOutputEndpointCap + 64
def pdBasePdTcbCap : Nat := pdBaseIrqCap + 64
def pdBaseVmTcbCap : Nat := pdBasePdTcbCap + 64
def pdBaseVcpuCap : Nat := pdBaseVmTcbCap + 64
def pdBaseIoportCap : Nat := pdBaseVcpuCap + 64

/-- `TcbBoundSlot`. -/
inductive TcbBoundSlot where
  | cspace
  | vspace
  | ipcBuffer
  | faultEp
  | schedContext
  | boundNotification
  | vcpu
  | x86Eptpml4

def TcbBoundSlot.idx : TcbBoundSlot → Nat
  | cspace => 0
  | vspace => 1
  | ipcBuffer => 4
  | faultEp => 5
  | schedContext => 6
  | boundNotification => 8
  | vcpu => 9
  | x86Eptpml4 => 10

/-- `FAULT_BADGE` and `PPC_BADGE`. -/
def faultBadge : Word := 0x4000000000000000
def ppcBadge : Word := 0x8000000000000000

/-- `PD_SCHEDCONTEXT_EXTRA_SIZE_BITS`. -/
def pdSchedcontextExtraSizeBits : Nat := 8

/-- `(base + id) as u32`. -/
def slotOf (base : Nat) (id : Word) : Nat :=
  (BitVec.ofNat 64 base + id).toNat % 2 ^ 32

/-- `1 << id`. -/
def bit (id : Word) : Word :=
  1 <<< (id.toNat % 64)

/-- `capdl_util_insert_cap_into_cspace`. -/
def insertCapIntoCspace (cspace : ObjectId) (idx : Nat) (cap : Cap) : M Unit := do
  if pdCapSize ≤ idx then panicWith "assertion failed: idx < PD_CAP_SIZE"
  let obj ← getRootObject cspace
  match obj.object with
  | .cnode sizeBits slots => setObject cspace (.cnode sizeBits (slots ++ [⟨idx, cap⟩]))
  | _ =>
    panicWith s!"capdl_util_insert_cap_into_cspace(): internal bug: got a non CNode object id {cspace} with name '{obj.name}'"

/-- `unwrap()` of what the builder has computed. -/
def unwrapResult {α : Type} (m : M α) : M α := fun c =>
  match m c with
  | .error (.err reason) c' => .error (.panicked s!"called `Result::unwrap()` on an `Err` value: {reason}") c'
  | r => r

def unwrapOption {α : Type} : Option α → M α
  | some a => pure a
  | none => panicWith "called `Option::unwrap()` on a `None` value"

/-- The index of a `HashMap`. -/
def lookupKey {κ α : Type} [BEq κ] (table : List (κ × α)) (key : κ) : M α :=
  match table.lookup key with
  | some a => pure a
  | none => panicWith "no entry found for key"

/-! ## `irq.rs` -/

/-- The `u8` of an `ArmRiscvIrqTrigger`. -/
def armTrigger : ArmRiscvIrqTrigger → Nat
  | .level => 0
  | .edge => 1

def x86Trigger : X86IoapicIrqTrigger → Nat
  | .level => 1
  | .edge => 0

def x86Polarity : X86IoapicIrqPolarity → Nat
  | .highTriggered => 0
  | .lowTriggered => 1

/-- The object of an interrupt, bound to the notification, and the capability to its handler. -/
def irqParts (config : Config) (cpu : Nat) (slots : List CapTableEntry) (kind : SysIrqKind) :
    Option (Object × (ObjectId → Cap)) :=
  match kind with
  | .conventional _ trigger =>
    match config.arch with
    | .aarch64 => some (.armIrq slots (armTrigger trigger) cpu, .armIrqHandler)
    | .riscv64 => some (.riscvIrq slots (armTrigger trigger), .riscvIrqHandler)
    | .x86_64 => none
  | .ioapic ioapic pin trigger polarity _ =>
    some (.irqIOApic slots ioapic pin (x86Trigger trigger) (x86Polarity polarity), .irqIOApicHandler)
  | .msi pciBus pciDev pciFunc handle _ => some (.irqMsi slots handle pciBus pciDev pciFunc, .irqMsiHandler)

/-- `create_irq_obj`. -/
def createIrqObj (config : Config) (pdName : String) (pdCpu : Nat) (irq : SysIrq) : M ObjectId :=
  match irqParts config pdCpu [] irq.kind with
  | some (obj, _) => addRootObject ⟨s!"irq_{irq.irqNum.toNat}_{pdName}", obj⟩
  | none => panicWith "create_irq_obj(): internal bug: ARM and RISC-V IRQs not supported on x86."

/-- `bind_irq_to_ntfn`. -/
def bindIrqToNtfn (irqObj : ObjectId) (ntfnCap : Cap) : M Unit := do
  let obj ← getRootObject irqObj
  match obj.object with
  | .armIrq slots trigger target => setObject irqObj (.armIrq (slots ++ [⟨0, ntfnCap⟩]) trigger target)
  | .irqMsi slots handle pciBus pciDev pciFunc =>
    setObject irqObj (.irqMsi (slots ++ [⟨0, ntfnCap⟩]) handle pciBus pciDev pciFunc)
  | .irqIOApic slots ioapic pin level polarity =>
    setObject irqObj (.irqIOApic (slots ++ [⟨0, ntfnCap⟩]) ioapic pin level polarity)
  | .riscvIrq slots trigger => setObject irqObj (.riscvIrq (slots ++ [⟨0, ntfnCap⟩]) trigger)
  | _ => panicWith s!"bind_irq_to_ntfn(): internal bug: got non irq object id {irqObj} with name '{obj.name}'"

/-- `make_irq_handler_cap`. -/
def makeIrqHandlerCap (config : Config) (irqObj : ObjectId) (kind : SysIrqKind) : M Cap :=
  match irqParts config 0 [] kind with
  | some (_, cap) => pure (cap irqObj)
  | none => panicWith "make_irq_handler_cap(): internal bug: ARM and RISC-V IRQs not supported on x86."

/-- `create_irq_handler_cap`. -/
def createIrqHandlerCap (config : Config) (pdName : String) (pdCpu : Nat) (pdNtfn : ObjectId)
    (irq : SysIrq) : M Cap := do
  let irqObj ← createIrqObj config pdName pdCpu irq
  modify fun c => { c with irqs := c.irqs ++ [⟨irq.irqNum, irqObj⟩] }
  bindIrqToNtfn irqObj (makeNtfnCap pdNtfn (bit irq.id))
  makeIrqHandlerCap config irqObj irq.kind

/-! ## ELF files -/

/-- A loadable segment, as far as the builder reads it. The data of a segment that is initialised has its size. -/
structure Segment where
  virtAddr : Word
  memSize : Word
  uninitialised : Bool
  readable : Bool
  writable : Bool
  executable : Bool
  deriving DecidableEq, Repr

/-- An `ElfFile`: the entry point, the loadable segments, and the address of the IPC buffer symbol. -/
structure Elf where
  entry : Word
  segments : List Segment
  ipcBuffer : Option Word
  deriving DecidableEq, Repr

/-- The frame at an address of a segment. -/
def segmentFill (elfId segIdx : Nat) (seg : Segment) (curVaddr : Word) : List FillEntry :=
  let pageSize := Sdf.PageSize.small.bytes
  let destOffset := if curVaddr < seg.virtAddr then seg.virtAddr - curVaddr else 0
  let sectionOffset := curVaddr + destOffset - seg.virtAddr
  if sectionOffset < seg.memSize then
    let len := wordMin (pageSize - destOffset) (seg.memSize - sectionOffset)
    [⟨destOffset, destOffset + len, .elfContent elfId segIdx sectionOffset (sectionOffset + len)⟩]
  else []

/-- The loop over the pages of a segment. There are 2 ^ 52 addresses of pages, and none is mapped twice. -/
def mapSegment (config : Config) (pdName : String) (vspace : ObjectId) (elfId segIdx : Nat) (seg : Segment) :
    Nat → Word → Nat → M Nat
  | 0, _, _ => panicWith "unreachable"
  | n + 1, curVaddr, frameSequence =>
    if seg.virtAddr + seg.memSize ≤ curVaddr then return frameSequence
    else do
      let frame ← makeFrameObj (segmentFill elfId segIdx seg curVaddr) s!"elf_{pdName}_{pad9 frameSequence}" none
        (fixedSizeBits config .small)
      let cap := makeFrameCap frame seg.readable seg.writable seg.executable true
      fun c =>
        match mapPage config pdName vspace cap .small curVaddr c with
        | .ok _ c' =>
          mapSegment config pdName vspace elfId segIdx seg n (curVaddr + Sdf.PageSize.small.bytes)
            (frameSequence + 1) c'
        | .error (.err reason) c' =>
          .error (.err s!"add_elf_to_spec(): failed to map segment page to ELF because: {reason}") c'
        | .error e c' => .error e c'

/-- The loop over the segments. -/
def mapSegments (config : Config) (pdName : String) (vspace : ObjectId) (elfId : Nat) :
    Nat → Nat → List Segment → M Unit
  | _, _, [] => pure ()
  | segIdx, frameSequence, seg :: segs => do
    if seg.uninitialised then panicWith "internal bug: data() called on an uninitialised ELF segment."
    if seg.memSize = 0 then mapSegments config pdName vspace elfId (segIdx + 1) frameSequence segs
    else do
      let start := seg.virtAddr - seg.virtAddr % Sdf.PageSize.small.bytes
      let frameSequence ← mapSegment config pdName vspace elfId segIdx seg (2 ^ 52 + 1) start frameSequence
      mapSegments config pdName vspace elfId (segIdx + 1) frameSequence segs

/-- `add_elf_to_spec`. -/
def addElfToSpec (config : Config) (pdName : String) (pdCpu elfId : Nat) (elf : Elf) : M ObjectId := do
  let vspace ← createVspace config pdName
  mapSegments config pdName vspace elfId 0 0 elf.segments
  let ipcbufFrame ← makeFrameObj [] s!"ipcbuf_{pdName}" none (fixedSizeBits config .small)
  let ipcbufCap := makeFrameCap ipcbufFrame true true false true
  let ipcbufVaddr ←
    match elf.ipcBuffer with
    | some vaddr => pure vaddr
    | none => panicWith "Could not find __sel4_ipc_buffer_obj"
  (fun c =>
    match mapPage config pdName vspace ipcbufCap .small ipcbufVaddr c with
    | .error (.err reason) c' =>
      .error (.err s!"build_capdl_spec(): failed to map ipc buffer frame to {pdName} because: {reason}") c'
    | r => r : M Unit)
  addRootObject ⟨s!"tcb_{pdName}",
    .tcb [⟨TcbBoundSlot.vspace.idx, .pageTable vspace⟩, ⟨TcbBoundSlot.ipcBuffer.idx, ipcbufCap⟩]
      ⟨ipcbufVaddr, pdCpu, 0, 0, false, false, elf.entry, 0⟩⟩

/-! ## The monitor -/

/-- What is done to a TCB through `get_root_object_mut`: the parameters and the capabilities that are bound. -/
def setTcb (tcb : ObjectId) (update : TcbExtraInfo → TcbExtraInfo) (bind : List CapTableEntry → List CapTableEntry) :
    M Unit := do
  let obj ← getRootObject tcb
  match obj.object with
  | .tcb slots extra => setObject tcb (.tcb (bind slots) (update extra))
  | _ => panicWith "internal bug: build_capdl_spec() got a non TCB object ID when trying to set TCB parameters for the monitor."

/-- `cap_address_bits` is 64. -/
def makeCnodeCap (cnode : ObjectId) : Cap :=
  .cnode cnode 0 (64 - pdCapBits)

/-- The objects of the monitor that others refer to. -/
structure Monitor where
  faultEp : ObjectId
  cnode : ObjectId

/-- Step 1. -/
def buildMonitor (config : Config) (elfId : Nat) (elf : Elf) : M Monitor := do
  let tcb ← unwrapResult (addElfToSpec config monitorPdName 0 elfId elf)
  let faultEp ← makeEndpointObj monitorPdName true
  let reply ← makeReplyObj monitorPdName
  let sc ← makeScObj monitorPdName pdSchedcontextExtraSizeBits budgetDefault budgetDefault 0
  let cnode ← makeCnodeObj monitorPdName pdCapBits
    [⟨monFaultEpCapIdx, makeEndpointCap faultEp 0⟩, ⟨monReplyCapIdx, .reply reply⟩]
  let stackFrame ← makeFrameObj [] s!"{monitorPdName}_stack" none (fixedSizeBits config .small)
  let vspace ← getVspaceIdFromTcbId tcb
  unwrapResult (mapPage config monitorPdName vspace (makeFrameCap stackFrame true true false true) .small
    (config.pdStackBottom 0x1000))
  setTcb tcb
    (fun extra => { extra with sp := config.pdStackTop, prio := 255, maxPrio := 255, resume := true })
    (· ++ [⟨TcbBoundSlot.cspace.idx, makeCnodeCap cnode⟩, ⟨TcbBoundSlot.schedContext.idx, .schedContext sc⟩])
  return ⟨faultEp, cnode⟩

/-! ## Memory regions -/

/-- What a frame of a memory region is filled with. -/
def regionFill (mr : SysMemoryRegion) (frameSequence : Nat) : M (List FillEntry) :=
  match mr.prefillBytes with
  | none => pure []
  | some bytes =>
    let start := BitVec.ofNat 64 frameSequence * mr.pageSizeBytes
    let num := wordMin mr.pageSizeBytes (BitVec.ofNat 64 bytes.length - start)
    if bytes.length < (start + num).toNat then
      panicWith s!"range end index {(start + num).toNat} out of range for slice of length {bytes.length}"
    else pure [⟨0, num, .bytesContent ((bytes.drop start.toNat).take num.toNat)⟩]

/-- The frame of a memory region. -/
def makeRegionFrame (config : Config) (mr : SysMemoryRegion) (frameSequence : Nat) : M ObjectId := do
  let paddr := mr.paddr.map (· + BitVec.ofNat 64 frameSequence * mr.pageSizeBytes)
  let fill ← regionFill mr frameSequence
  makeFrameObj fill s!"mr_{mr.name}_{pad9 frameSequence}" paddr (fixedSizeBits config mr.pageSize)

/-- Step 2. The frames of each memory region, by its name. -/
def buildRegions (config : Config) (mrs : List SysMemoryRegion) : M (List (String × List ObjectId)) :=
  mrs.foldlM (fun frames mr => do
    let ids ← (List.range mr.pageCount.toNat).mapM (makeRegionFrame config mr)
    return (mr.name, ids) :: frames) []

/-- `get_pt_level_to_insert` knows two sizes. -/
def pageSizeOf (sizeBits : Nat) : M Sdf.PageSize :=
  if (1 : Word) <<< sizeBits = 0x1000 then pure .small
  else if (1 : Word) <<< sizeBits = 0x200000 then pure .large
  else panicWith "internal error: entered unreachable code"

/-- `map_memory_region`. -/
def mapMemoryRegion (config : Config) (pdName : String) (map : SysMap) (sizeBits : Nat) (vspace : ObjectId) :
    Word → List ObjectId → M Unit
  | _, [] => pure ()
  | curVaddr, frame :: frames => do
    let cap := makeFrameCap frame (map.perms &&& permRead != 0) (map.perms &&& permWrite != 0)
      (map.perms &&& permExecute != 0) map.cached
    let pageSize ← pageSizeOf sizeBits
    unwrapResult (mapPage config pdName vspace cap pageSize curVaddr)
    mapMemoryRegion config pdName map sizeBits vspace (curVaddr + 1 <<< sizeBits) frames

/-- `ranges_overlap`. -/
def rangesOverlap (left right : Word × Word) : Bool :=
  !(left.2 ≤ right.1 || right.2 ≤ left.1)

/-- A map of a protection domain must not overlap with its stack or its program. -/
def checkMapRange (config : Config) (pd : ProtectionDomain) (elf : Elf) (map : SysMap)
    (range : Word × Word) : M Unit := do
  let stack := (config.pdStackBottom pd.stackSize, config.pdStackTop)
  if rangesOverlap range stack then
    fail s!"ERROR: mapping MR '{map.mr}' to PD '{pd.name}' with vaddr [0x{hex range.1}..0x{hex range.2}) will overlap with the stack at [0x{hex stack.1}..0x{hex stack.2})"
  match elf.segments.find? fun seg => rangesOverlap range (seg.virtAddr, seg.virtAddr + roundUp seg.memSize 0x1000) with
  | some seg =>
    fail s!"ERROR: mapping MR '{map.mr}' to PD '{pd.name}' with vaddr [0x{hex range.1}..0x{hex range.2}) will overlap with an ELF segment at [0x{hex seg.virtAddr}..0x{hex (seg.virtAddr + roundUp seg.memSize 0x1000)})"
  | none => pure ()

/-- The frames of a map, and the size of the first of them. -/
def mapFrames (frames : List (String × List ObjectId)) (map : SysMap) : M (List ObjectId × Nat) := do
  let ids ← lookupKey frames map.mr
  let first ← unwrapOption ids.head?
  let sizeBits ← getFrameSizeBits first
  return (ids, sizeBits)

/-- Step 3-2, for one map. -/
def mapInPd (config : Config) (frames : List (String × List ObjectId)) (pd : ProtectionDomain) (elf : Elf)
    (vspace : ObjectId) (map : SysMap) : M Unit := do
  let (ids, sizeBits) ← mapFrames frames map
  checkMapRange config pd elf map (map.vaddr, map.vaddr + 1 <<< sizeBits * BitVec.ofNat 64 ids.length)
  mapMemoryRegion config pd.name map sizeBits vspace map.vaddr ids

/-- Step 3-3, for one frame of the stack. -/
def mapStackFrame (config : Config) (pd : ProtectionDomain) (vspace : ObjectId) (stackFrameSeq : Nat) : M Unit := do
  let frame ← makeFrameObj [] s!"{pd.name}_stack_{pad9 stackFrameSeq}" none (fixedSizeBits config .small)
  unwrapResult (mapPage config pd.name vspace (makeFrameCap frame true true false true) .small
    (config.pdStackBottom pd.stackSize + BitVec.ofNat 64 stackFrameSeq * Sdf.PageSize.small.bytes))

/-! ## Virtual machines -/

/-- What a virtual machine adds: capabilities for its protection domain, and capabilities to bind to the TCB of it. -/
structure VmCaps where
  cspace : List CapTableEntry
  tcb : List CapTableEntry

/-- A virtual CPU on AArch64 and RISC-V, the `vcpuIdx`-th of its virtual machine. -/
def buildVcpu (config : Config) (monitor : Monitor) (pd : ProtectionDomain) (pdEp : Option ObjectId)
    (vm : VirtualMachine) (vspace : ObjectId) (acc : List CapTableEntry × Nat) (vcpuIdx : VirtualCpu × Nat) :
    M (List CapTableEntry × Nat) := do
  let (caps, monitorVcpuIdx) := acc
  let (vcpu, idx) := vcpuIdx
  let name := s!"{vm.name}_{vcpu.id.toNat}"
  let cnode ← makeCnodeObj name pdCapBits []
  let ipcbufFrame ← makeFrameObj [] s!"ipcbuf_{name}" none (fixedSizeBits config .small)
  let ep ← unwrapOption pdEp
  let sc ← makeScObj name pdSchedcontextExtraSizeBits vm.period vm.budget (BitVec.ofNat 64 (0x100 + idx))
  let vcpuObj ← makeVcpuObj name
  let tcb ← addRootObject ⟨s!"tcb_{name}", .tcb
    [⟨TcbBoundSlot.vspace.idx, .pageTable vspace⟩, ⟨TcbBoundSlot.cspace.idx, makeCnodeCap cnode⟩,
      ⟨TcbBoundSlot.ipcBuffer.idx, makeFrameCap ipcbufFrame true true false true⟩,
      ⟨TcbBoundSlot.faultEp.idx, makeEndpointCap ep (faultBadge ||| vcpu.id)⟩,
      ⟨TcbBoundSlot.schedContext.idx, .schedContext sc⟩, ⟨TcbBoundSlot.vcpu.idx, .vcpu vcpuObj⟩]
    ⟨0, vcpu.cpu.getD pd.cpu, vm.priority.toNat, vm.priority.toNat, false, false, 0, 0⟩⟩
  insertCapIntoCspace monitor.cnode ((monBaseVmTcbCap + monitorVcpuIdx) % 2 ^ 32) (.tcb tcb)
  return (caps ++ [⟨slotOf pdBaseVcpuCap vcpu.id, .vcpu vcpuObj⟩, ⟨slotOf pdBaseVmTcbCap vcpu.id, .tcb tcb⟩],
    monitorVcpuIdx + 1)

/-- The one virtual CPU on x86, which runs on the TCB of the protection domain. -/
def buildX86Vcpu (vm : VirtualMachine) (vspace : ObjectId) : M VmCaps := do
  if vm.vcpus.length ≠ 1 then panicWith "assertion failed: vcpus.len() == 1"
  let vcpu ← unwrapOption vm.vcpus.head?
  let vcpuObj ← makeVcpuObj s!"{vm.name}_{vcpu.id.toNat}"
  return ⟨[⟨slotOf pdBaseVcpuCap vcpu.id, .vcpu vcpuObj⟩],
    [⟨TcbBoundSlot.vcpu.idx, .vcpu vcpuObj⟩, ⟨TcbBoundSlot.x86Eptpml4.idx, .pageTable vspace⟩]⟩

/-- Step 3-11. -/
def buildVm (config : Config) (monitor : Monitor) (frames : List (String × List ObjectId)) (pd : ProtectionDomain)
    (pdEp : Option ObjectId) (monitorVcpuIdx : Nat) (vm : VirtualMachine) : M (VmCaps × Nat) := do
  let vspace ← if config.arch = .x86_64 then createVspaceEpt config vm.name else createVspace config vm.name
  vm.maps.forM fun map => do
    let (ids, sizeBits) ← mapFrames frames map
    mapMemoryRegion config vm.name map sizeBits vspace map.vaddr ids
  if config.arch = .x86_64 then
    let caps ← buildX86Vcpu vm vspace
    return (caps, monitorVcpuIdx)
  else
    let (caps, monitorVcpuIdx) ←
      vm.vcpus.zipIdx.foldlM (buildVcpu config monitor pd pdEp vm vspace) ([], monitorVcpuIdx)
    return (⟨caps, []⟩, monitorVcpuIdx)

/-! ## Protection domains -/

/-- The objects of the protection domains so far, by their index, and `monitor_vcpu_idx`. -/
structure PdTables where
  cspaces : List (Nat × ObjectId)
  ntfns : List (Nat × ObjectId)
  eps : List (Nat × ObjectId)
  monitorVcpuIdx : Nat

/-- Step 3-5. The fault endpoint is that of the parent, or of the monitor. -/
def buildFaultEp (monitor : Monitor) (tables : PdTables) (pd : ProtectionDomain) (idx : Nat) (tcb : ObjectId) : M Cap :=
  match pd.parent with
  | some parent => do
    if idx ≤ parent then panicWith "assertion failed: pd_global_idx > pd_parent"
    let id ← unwrapOption pd.id
    let ep ← lookupKey tables.eps parent
    let cspace ← lookupKey tables.cspaces parent
    insertCapIntoCspace cspace (slotOf pdBasePdTcbCap id) (.tcb tcb)
    return makeEndpointCap ep (faultBadge ||| id)
  | none => return makeEndpointCap monitor.faultEp (BitVec.ofNat 64 (idx + 1))

/-- Step 3-7. The endpoint of a protection domain that needs one, and the capability that it receives with. -/
def buildInput (channels : List Channel) (pd : ProtectionDomain) (idx : Nat) (ntfn : ObjectId) :
    M (Option ObjectId × Cap) := do
  if pd.needsEp idx channels then
    let ep ← makeEndpointObj pd.name false
    return (some ep, makeEndpointCap ep 0)
  else
    return (none, makeNtfnCap ntfn 0)

/-- Step 3-9. -/
def buildIrqs (config : Config) (pd : ProtectionDomain) (ntfn : ObjectId) : M (List CapTableEntry) :=
  pd.irqs.mapM fun irq => do
    let cap ← createIrqHandlerCap config pd.name pd.cpu ntfn irq
    return ⟨slotOf pdBaseIrqCap irq.id, cap⟩

/-- Step 3-10. -/
def buildIoports (pd : ProtectionDomain) : M (List CapTableEntry) :=
  pd.ioports.mapM fun ioport => do
    let obj ← makeIoportObj pd.name ioport.addr ioport.size
    return ⟨slotOf pdBaseIoportCap ioport.id, .ioPorts obj⟩

/-- Step 3-15. -/
def bindToMonitor (monitor : Monitor) (pd : ProtectionDomain) (idx : Nat) (tcb sc ntfn : ObjectId) : M Unit := do
  insertCapIntoCspace monitor.cnode ((monBasePdTcbCap + idx) % 2 ^ 32) (.tcb tcb)
  if pd.passive then
    insertCapIntoCspace monitor.cnode ((monBaseSchedContextCap + idx) % 2 ^ 32) (.schedContext sc)
    insertCapIntoCspace monitor.cnode ((monBaseNotificationCap + idx) % 2 ^ 32) (makeNtfnCap ntfn 0)

/-- `caps_to_insert_to_pd_cspace`, in the order of the steps. -/
def pdCspaceCaps (config : Config) (monitor : Monitor) (pd : ProtectionDomain) (idx : Nat)
    (tcb vspace reply : ObjectId) (faultEpCap inputCap : Cap) (irqCaps ioportCaps vmCaps smcCaps : List CapTableEntry) :
    List CapTableEntry :=
  (if config.benchmark then [⟨pdTcbCapIdx, .tcb tcb⟩] else []) ++
    [⟨pdVspaceCapIdx, .pageTable vspace⟩, ⟨pdFaultEpCapIdx, faultEpCap⟩] ++
    (if pd.passive then [⟨pdMonitorEpCapIdx, makeEndpointCap monitor.faultEp (BitVec.ofNat 64 (idx + 1))⟩] else []) ++
    [⟨pdInputCapIdx, inputCap⟩, ⟨pdReplyCapIdx, .reply reply⟩] ++ irqCaps ++ ioportCaps ++ vmCaps ++ smcCaps

/-- `caps_to_bind_to_tcb`. -/
def pdTcbCaps (sc ntfn cnode : ObjectId) (faultEpCap : Cap) (vmCaps : List CapTableEntry) : List CapTableEntry :=
  [⟨TcbBoundSlot.schedContext.idx, .schedContext sc⟩, ⟨TcbBoundSlot.faultEp.idx, faultEpCap⟩,
    ⟨TcbBoundSlot.boundNotification.idx, makeNtfnCap ntfn 0⟩] ++ vmCaps ++
    [⟨TcbBoundSlot.cspace.idx, makeCnodeCap cnode⟩]

/-- Step 3-12. -/
def buildSmc (pd : ProtectionDomain) (armSmc : Option ObjectId) : M (List CapTableEntry) := do
  if pd.smc then
    let smc ← unwrapOption armSmc
    return [⟨pdArmSmcCapIdx, .armSmc smc⟩]
  else
    return []

/-- Step 3, for the protection domain at `idx`. -/
def buildPd (config : Config) (elfs : List Elf) (channels : List Channel) (monitor : Monitor)
    (frames : List (String × List ObjectId)) (armSmc : Option ObjectId) (tables : PdTables)
    (pdIdx : ProtectionDomain × Nat) : M PdTables := do
  let (pd, idx) := pdIdx
  let elf ← unwrapOption elfs[idx]?
  let tcb ← unwrapResult (addElfToSpec config pd.name pd.cpu idx elf)
  let vspace ← getVspaceIdFromTcbId tcb
  pd.maps.forM (mapInPd config frames pd elf vspace)
  (List.range (pd.stackSize / Sdf.PageSize.small.bytes).toNat).forM (mapStackFrame config pd vspace)
  let sc ← makeScObj pd.name pdSchedcontextExtraSizeBits pd.period pd.budget (BitVec.ofNat 64 (0x100 + idx))
  let faultEpCap ← buildFaultEp monitor tables pd idx tcb
  let ntfn ← makeNtfnObj pd.name
  let (ep, inputCap) ← buildInput channels pd idx ntfn
  let reply ← makeReplyObj pd.name
  let irqCaps ← buildIrqs config pd ntfn
  let ioportCaps ← buildIoports pd
  let (vmCaps, monitorVcpuIdx) ←
    match pd.virtualMachine with
    | some vm => buildVm config monitor frames pd ep tables.monitorVcpuIdx vm
    | none => pure (⟨[], []⟩, tables.monitorVcpuIdx)
  let smcCaps ← buildSmc pd armSmc
  let cnode ← makeCnodeObj pd.name pdCapBits
    (pdCspaceCaps config monitor pd idx tcb vspace reply faultEpCap inputCap irqCaps ioportCaps vmCaps.cspace smcCaps)
  setTcb tcb
    (fun extra => { extra with
      sp := config.pdStackTop, prio := pd.priority.toNat, maxPrio := pd.priority.toNat, fpuDisabled := !pd.fpu
      resume := true })
    (fun slots => (slots ++ pdTcbCaps sc ntfn cnode faultEpCap vmCaps.tcb).mergeSort fun a b => a.slot ≤ b.slot)
  bindToMonitor monitor pd idx tcb sc ntfn
  return {
    cspaces := (idx, cnode) :: tables.cspaces
    ntfns := (idx, ntfn) :: tables.ntfns
    eps := (ep.map (idx, ·)).toList ++ tables.eps
    monitorVcpuIdx }

/-- The SMC object, if it is needed. -/
def buildArmSmc (config : Config) (pds : List ProtectionDomain) : M (Option ObjectId) := do
  if config.arch = .aarch64 ∧ config.armSmc.getD false = true ∧ pds.any (·.smc) then
    let smc ← addRootObject ⟨"arm_smc", .armSmc⟩
    return some smc
  else
    return none

/-! ## Channels -/

/-- One direction of a channel: what the protection domain of `source` can do to that of `target`. -/
def connectNotify (tables : PdTables) (source target : ChannelEnd) : M Unit := do
  if source.notify then
    let cspace ← lookupKey tables.cspaces source.pd
    let ntfn ← lookupKey tables.ntfns target.pd
    insertCapIntoCspace cspace (slotOf pdBaseOutputNotificationCap source.id) (makeNtfnCap ntfn (bit target.id))

def connectPp (tables : PdTables) (source target : ChannelEnd) : M Unit := do
  if source.pp then
    let cspace ← lookupKey tables.cspaces source.pd
    let ep ← lookupKey tables.eps target.pd
    insertCapIntoCspace cspace (slotOf pdBaseOutputEndpointCap source.id) (makeEndpointCap ep (ppcBadge ||| target.id))

/-- Step 4, for one channel. -/
def buildChannel (tables : PdTables) (ch : Channel) : M Unit := do
  let _ ← lookupKey tables.cspaces ch.endA.pd
  let _ ← lookupKey tables.cspaces ch.endB.pd
  let _ ← lookupKey tables.ntfns ch.endA.pd
  let _ ← lookupKey tables.ntfns ch.endB.pd
  connectNotify tables ch.endA ch.endB
  connectNotify tables ch.endB ch.endA
  connectPp tables ch.endA ch.endB
  connectPp tables ch.endB ch.endA

/-- Steps 1 to 4. The programs of the protection domains come first, and that of the monitor is the last. -/
def buildObjects (config : Config) (elfs : List Elf) (system : SystemDescription) : M Unit := do
  if elfs.length ≠ system.protectionDomains.length + 1 then
    panicWith "assertion failed: elfs.len() == system.protection_domains.len() + 1"
  let monitorElf ← unwrapOption elfs[elfs.length - 1]?
  let monitor ← buildMonitor config (elfs.length - 1) monitorElf
  let frames ← buildRegions config system.memoryRegions
  let armSmc ← buildArmSmc config system.protectionDomains
  let tables ← system.protectionDomains.zipIdx.foldlM
    (buildPd config elfs system.channels monitor frames armSmc) ⟨[], [], [], 0⟩
  system.channels.forM (buildChannel tables)

end NexsKernel.Capdl
