import NexsKernel.Vspace.Vmid

/-!
# Mapping

Unmapping, the invocations of page tables, frames, ASID pools and of the ASID control, and what the deletion of their
capabilities does. An invocation is given the capability of its slot; the check of `isFinalCapability`, the target
slot of a new pool and the check of the children of an untyped object are given as results.
-/

namespace NexsKernel.Vspace

/-- The labels of invocations that change mappings, and all others. -/
inductive Label where
  | pageTableMap
  | pageTableUnmap
  | pageMap
  | pageUnmap
  | asidControlMakePool
  | asidPoolAssign
  | other
  deriving DecidableEq, Repr

/-- The message of an invocation, with the capabilities of `current_extra_caps` and their slots. -/
structure Request where
  label : Label
  mrs : List Nat
  extraCaps : List Slot

/-- What an accepted invocation does. -/
inductive Invocation where
  | pageTableMap (cap : Cap) (ctSlot : Slot) (pte : Pte) (ptSlot : Ptr × Nat)
  | pageTableUnmap (cap : Cap) (ctSlot : Slot)
  | pageMap (cap : Cap) (ctSlot : Slot) (pte : Pte) (ptSlot : Ptr × Nat)
  | pageUnmap (cap : Cap) (ctSlot : Slot)
  | makePool (frame : Ptr) (slot parent : Slot) (asidBase : Nat)
  | assign (asid : Nat) (pool : Ptr) (vspaceCapSlot : Slot)
  deriving DecidableEq, Repr

/-- `makeUserPagePTE`. -/
def makeUserPagePTE (base : Ptr) : PageSize → Pte
  | .small => .page4k base
  | .large | .huge => .page base

/-- `isValidNativeRoot`: the ASID and the root of the capability. -/
def isValidNativeRoot : Cap → Option (Nat × Ptr)
  | .arch (.vspace asid base true) => some (asid, base)
  | _ => none

/-- `v` without its lower bits. -/
def roundDown (v bits : Nat) : Nat :=
  v / 2 ^ bits * 2 ^ bits

namespace State

variable (cfg : VspaceConfig) (s : State)

/-! ## Unmapping -/

/-- `unmapPageTable`. -/
def unmapPageTable (asid vptr : Nat) (targetPt : Ptr) : Except Halt State :=
  match s.findVSpaceForASID asid with
  | some root =>
    match s.findTable cfg vptr targetPt cfg.top root none with
    | some (some ptSlot) => .ok ((s.setPte ptSlot .invalid).invalidateTLBByASID cfg asid)
    | some none => .error .assertion
    | none => .ok s
  | none => .ok s

/-- `unmapPage`. -/
def unmapPage (size : PageSize) (asid vptr : Nat) (pptr : Ptr) : State :=
  match s.findVSpaceForASID asid with
  | some root =>
    let (ptSlot, bits) := s.lookupPTSlot cfg root vptr
    if bits ≠ pageBitsForSize size then
      s
    else if (s.pte ptSlot.1 ptSlot.2).pageBase = some pptr then
      s.setPte ptSlot .invalid
    else
      s
  | none => s

/-- `Arch_finaliseCap`. -/
def archFinaliseCap (cap : Cap) (final : Bool) : Except Halt State :=
  match cap with
  | .arch (.asidPool base pool) => if final then s.deleteASIDPool cfg base pool else .ok s
  | .arch (.vspace asid base isMapped) => if final ∧ isMapped then s.deleteASID cfg asid base else .ok s
  | .arch (.pageTable asid base isMapped addr) =>
    if final ∧ isMapped then s.unmapPageTable cfg asid addr base else .ok s
  | .arch (.frame asid base size addr _ _) =>
    if asid ≠ asidInvalid then .ok (s.unmapPage cfg size asid addr base) else .ok s
  | _ => .ok s

/-- The deletion of a slot: `finaliseCap` and `emptySlot`. -/
def deleteSlot (slot : Slot) (final : Bool) : Except Halt State := do
  let s' ← s.archFinaliseCap cfg (s.cap slot) final
  .ok (s'.setCap slot .null)

/-! ## Decoding -/

/-- The check of the VSpace capability of a mapping: the root and its ASID. -/
def decodeRoot (slot : Slot) : Except SyscallError (Nat × Ptr) :=
  match isValidNativeRoot (s.cap slot) with
  | some (asid, vspaceRoot) =>
    match s.findVSpaceForASID asid with
    | none => .error (.failedLookup false)
    | some root => if root ≠ vspaceRoot then .error (.invalidCapability 1) else .ok (asid, root)
  | none => .error (.invalidCapability 1)

/-- `decodeARMPageTableInvocation`; `final` is `isFinalCapability(cte)`. -/
def decodeARMPageTableInvocation (final : Bool) (cte : Slot) (asid : Nat) (base : Ptr) (isMapped : Bool) (addr : Nat)
    (q : Request) : Except SyscallError Invocation :=
  match q.label with
  | .pageTableUnmap => do
    refuseIf (final = false) .revokeFirst
    .ok (.pageTableUnmap (.arch (.pageTable asid base isMapped addr)) cte)
  | .pageTableMap =>
    match q.mrs, q.extraCaps with
    | vaddr :: _ :: _, rootSlot :: _ => do
      refuseIf (isMapped = true) (.invalidCapability 0)
      match isValidNativeRoot (s.cap rootSlot) with
      | none => .error (.invalidCapability 1)
      | some _ =>
        refuseIf (cfg.userTop < vaddr) (.invalidArgument 0)
        let (asid, vspaceRoot) ← s.decodeRoot rootSlot
        let (ptSlot, bits) := s.lookupPTSlot cfg vspaceRoot vaddr
        refuseIf (bits = ptBitsLeft 0 ∨ s.pte ptSlot.1 ptSlot.2 ≠ .invalid) .deleteFirst
        .ok (.pageTableMap (.arch (.pageTable asid base true (roundDown vaddr bits))) cte (.table base) ptSlot)
    | _, _ => .error .truncatedMessage
  | _ => .error .illegalOperation

/-- `decodeARMFrameInvocation`, for the labels that change a mapping. -/
def decodeARMFrameInvocation (cte : Slot) (frameAsid : Nat) (base : Ptr) (size : PageSize) (addr : Nat)
    (rights : VmRights) (dev : Bool) (q : Request) : Except SyscallError Invocation :=
  match q.label with
  | .pageUnmap => .ok (.pageUnmap (.arch (.frame frameAsid base size addr rights dev)) cte)
  | .pageMap =>
    match q.mrs, q.extraCaps with
    | vaddr :: _ :: _ :: _, rootSlot :: _ => do
      let (asid, vspaceRoot) ← s.decodeRoot rootSlot
      refuseIf (vaddr % 2 ^ pageBitsForSize size ≠ 0) .alignmentError
      -- a mapped capability can only be mapped again where it is
      if frameAsid ≠ asidInvalid then
        refuseIf (frameAsid ≠ asid) (.invalidCapability 1)
        refuseIf (addr ≠ vaddr) (.invalidArgument 0)
      else
        refuseIf (cfg.userTop < vaddr + 2 ^ pageBitsForSize size - 1) (.invalidArgument 0)
      let (ptSlot, bits) := s.lookupPTSlot cfg vspaceRoot vaddr
      refuseIf (bits ≠ pageBitsForSize size) (.failedLookup false)
      .ok (.pageMap (.arch (.frame asid base size vaddr rights dev)) cte (makeUserPagePTE base size) ptSlot)
    | _, _ => .error .truncatedMessage
  | _ => .error .illegalOperation

/-- The ASID control in `decodeARMMMUInvocation`; `dest` is what `lookupTargetSlot` finds, and `noChildren` what
`ensureNoChildren` says of the untyped object. -/
def decodeASIDControl (dest : Except SyscallError Slot) (noChildren : Except SyscallError Unit) (q : Request) :
    Except SyscallError Invocation :=
  match q.label with
  | .asidControlMakePool =>
    match q.mrs, q.extraCaps with
    | _ :: _ :: _, parentSlot :: _ :: _ =>
      match (List.range nASIDPools).find? fun i => s.armKSASIDTable i = none with
      | none => .error .deleteFirst
      | some i =>
        match s.cap parentSlot with
        | .untyped _ isDevice blockSize ptr => do
          refuseIf (blockSize ≠ asidPoolBits ∨ isDevice = true) (.invalidCapability 1)
          noChildren
          let destSlot ← dest
          refuseIf (s.cap destSlot ≠ .null) .deleteFirst
          .ok (.makePool ptr destSlot parentSlot (i * 2 ^ asidLowBits))
        | _ => .error (.invalidCapability 1)
    | _, _ => .error .truncatedMessage
  | _ => .error .illegalOperation

/-- The ASID pools in `decodeARMMMUInvocation`. -/
def decodeASIDPool (asidBase : Nat) (capPool : Ptr) (q : Request) : Except SyscallError Invocation :=
  match q.label with
  | .asidPoolAssign =>
    match q.extraCaps with
    | vspaceCapSlot :: _ =>
      match s.cap vspaceCapSlot with
      | .arch (.vspace _ _ false) =>
        match s.armKSASIDTable (asidHigh asidBase) with
        | none => .error (.failedLookup false)
        | some pool => do
          refuseIf (pool ≠ capPool) (.invalidCapability 0)
          match (List.range (2 ^ asidLowBits)).find? fun i => asidBase + i ≠ 0 ∧ s.asidPool pool i = .none with
          | none => .error .deleteFirst
          | some i => .ok (.assign (asidBase + i) pool vspaceCapSlot)
      | _ => .error (.invalidCapability 1)
    | [] => .error .truncatedMessage
  | _ => .error .illegalOperation

/-- `decodeARMMMUInvocation`, for the invocations that change a mapping. -/
def decodeARMMMUInvocation (final : Bool) (dest : Except SyscallError Slot) (noChildren : Except SyscallError Unit)
    (cte : Slot) (q : Request) : Except SyscallError Invocation :=
  match s.cap cte with
  | .arch (.pageTable asid base isMapped addr) =>
    s.decodeARMPageTableInvocation cfg final cte asid base isMapped addr q
  | .arch (.frame asid base size addr rights dev) =>
    s.decodeARMFrameInvocation cfg cte asid base size addr rights dev q
  | .arch .asidControl => s.decodeASIDControl dest noChildren q
  | .arch (.asidPool base pool) => s.decodeASIDPool base pool q
  | _ => .error .illegalOperation

/-! ## Performing -/

/-- `performPageTableInvocationMap` and `performPageInvocationMap`. -/
def performMap (cap : Cap) (ctSlot : Slot) (pte : Pte) (ptSlot : Ptr × Nat) : State :=
  (s.setCap ctSlot cap).setPte ptSlot pte

/-- `performPageTableInvocationUnmap`. -/
def performPageTableInvocationUnmap (cap : Cap) (ctSlot : Slot) : Except Halt State :=
  match cap with
  | .arch (.pageTable asid base isMapped addr) => do
    let s ← if isMapped then (s.unmapPageTable cfg asid addr base).map (·.clearMemoryPT base) else .ok s
    .ok (s.setCap ctSlot (.arch (.pageTable asid base false addr)))
  | _ => .ok s

/-- `performPageInvocationUnmap`. -/
def performPageInvocationUnmap (cap : Cap) (ctSlot : Slot) : State :=
  match cap with
  | .arch (.frame asid base size addr rights dev) =>
    let s := if asid ≠ asidInvalid then s.unmapPage cfg size asid addr base else s
    s.setCap ctSlot (.arch (.frame asidInvalid base size 0 rights dev))
  | _ => s

/-- The untyped object is used up. -/
def fillUntyped : Cap → Cap
  | .untyped _ isDevice blockSize ptr => .untyped (2 ^ (blockSize - minUntypedBits)) isDevice blockSize ptr
  | c => c

/-- `performASIDControlInvocation`. -/
def performASIDControlInvocation (frame : Ptr) (slot parent : Slot) (asidBase : Nat) : Except Halt State := do
  let s := s.setCap parent (fillUntyped (s.cap parent))
  let s := { s with asidPool := Function.update s.asidPool frame fun _ => .none }
  let s := s.setCap slot (.arch (.asidPool asidBase frame))
  assert (asidLow asidBase = 0)
  .ok { s with armKSASIDTable := Function.update s.armKSASIDTable (asidHigh asidBase) (some frame) }

/-- `performASIDPoolInvocation`. -/
def performASIDPoolInvocation (asid : Nat) (pool : Ptr) (vspaceCapSlot : Slot) : State :=
  match s.cap vspaceCapSlot with
  | .arch (.vspace _ base _) =>
    (s.setCap vspaceCapSlot (.arch (.vspace asid base true))).setPoolEntry pool (asidLow asid) (.vspace base 0 false)
  | _ => s

/-- What an invocation does. -/
def perform : Invocation → Except Halt State
  | .pageTableMap cap ctSlot pte ptSlot => .ok (s.performMap cap ctSlot pte ptSlot)
  | .pageTableUnmap cap ctSlot => s.performPageTableInvocationUnmap cfg cap ctSlot
  | .pageMap cap ctSlot pte ptSlot => .ok (s.performMap cap ctSlot pte ptSlot)
  | .pageUnmap cap ctSlot => .ok (s.performPageInvocationUnmap cfg cap ctSlot)
  | .makePool frame slot parent asidBase => s.performASIDControlInvocation frame slot parent asidBase
  | .assign asid pool vspaceCapSlot => .ok (s.performASIDPoolInvocation asid pool vspaceCapSlot)

end State

end NexsKernel.Vspace
