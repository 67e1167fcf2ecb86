import NexsKernel.System.State

/-!
# Decode functions

`decodeCNodeInvocation`, `decodeUntypedInvocation`, `decodeSchedControlInvocation`,
`decodeSchedContextInvocation` and `decodeDomainInvocation`, from the label of a message to the invocation.
-/

namespace NexsKernel

/-- The labels that these functions know. -/
inductive InvocationLabel where
  | untypedRetype
  | cnodeRevoke
  | cnodeDelete
  | cnodeCancelBadgedSends
  | cnodeCopy
  | cnodeMint
  | cnodeMove
  | cnodeMutate
  | cnodeRotate
  | domainSetSet
  | domainScheduleConfigure
  | domainScheduleSetStart
  | schedControlConfigureFlags
  | schedContextBind
  | schedContextUnbind
  | schedContextUnbindObject
  | schedContextConsumed
  | schedContextYieldTo
  | other (label : Nat)
  deriving DecidableEq, Repr

/-- `rightsFromWord`. -/
def rightsFromWord (w : Nat) : CapRights where
  capAllowGrantReply := w.testBit 3
  capAllowGrant := w.testBit 2
  capAllowRead := w.testBit 1
  capAllowWrite := w.testBit 0

/-- The endpoint that a capability names, with its rights and badge. -/
def toEndpointCap : Cap → Option Mcs.EndpointCap
  | .endpoint badge canGrantReply canGrant canSend canReceive ptr =>
    some ⟨toPtr ptr, .ofNat 64 badge, canSend, canReceive, canGrant, canGrantReply⟩
  | _ => none

namespace Decode

variable (env : Env) (msg : Message)

/-! ## CNodes -/

/-- `invokeCNodeRevoke`, with what happens to the objects. -/
def invokeCNodeRevoke (slot : Slot) : Decode Unit := do
  onKernel (Mcs.Kernel.capEffects env.cfg env.effects)
  onCSpace (CSpace.cteRevoke env.pf env.preempt env.fuel slot)

/-- `invokeCNodeDelete`, with what happens to the objects. -/
def invokeCNodeDelete (slot : Slot) : Decode Unit := do
  onKernel (Mcs.Kernel.capEffects env.cfg env.effects)
  onCSpace (CSpace.cteDelete env.pf env.preempt env.fuel slot true)

/-- `invokeCNodeCancelBadgedSends`. -/
def invokeCNodeCancelBadgedSends (cap : Mcs.EndpointCap) : Decode Unit :=
  if cap.capEPBadge ≠ 0 then
    onKernel fun k => k.cancelBadgedSends env.cfg cap.capEPPtr cap.capEPBadge
  else
    pure ()

/-- The arguments of Copy, Mint, Move and Mutate that follow those for the slots. -/
def decodeCopyOp : InvocationLabel → Decode CSpace.CopyOp
  | .cnodeCopy => do
    refuse (msg.length < 5) .truncatedMessage
    return .copy (rightsFromWord (msg.arg 4))
  | .cnodeMint => do
    refuse (msg.length < 6) .truncatedMessage
    return .mint (rightsFromWord (msg.arg 4)) (msg.arg 5)
  | .cnodeMove => return .move
  | _ => do
    refuse (msg.length < 5) .truncatedMessage
    return .mutate (msg.arg 4)

/-- `decodeCNodeInvocation` for Copy, Mint, Move and Mutate. -/
def decodeCNodeCopy (label : InvocationLabel) (destSlot : Slot) : Decode Unit := do
  refuse (msg.length < 4) .truncatedMessage
  let rootSlot ← extraSlot msg 0
  let srcDepth := msg.arg 3
  let srcRoot ← capOf rootSlot
  check fun s => s.cspace.ensureEmptySlot destSlot
  let srcSlot ← lookupSourceSlot srcRoot (msg.arg 2) srcDepth
  if (← capOf srcSlot) = .null then
    setLookupFault (.missingCapability srcDepth)
    syscallError (.failedLookup true)
  else
    let op ← decodeCopyOp msg label
    let newCap ← check fun s => s.cspace.newCap srcSlot op
    refuse (newCap = .null) .illegalOperation
    restartCurrent
    onCSpaceAtOnce (CSpace.invokeCNodeCopy op newCap srcSlot destSlot)

/-- The destination of Rotate is empty, unless it is the source. -/
def ensureRotateSlot (srcSlot destSlot : Slot) : Decode Unit :=
  if srcSlot ≠ destSlot then check fun s => s.cspace.ensureEmptySlot destSlot else pure ()

/-- `decodeCNodeInvocation` for Rotate. -/
def decodeCNodeRotate (destSlot : Slot) : Decode Unit := do
  refuse (msg.length < 8) .truncatedMessage
  let pivotRootSlot ← extraSlot msg 0
  let srcRootSlot ← extraSlot msg 1
  let pivotDepth := msg.arg 4
  let srcDepth := msg.arg 7
  let pivotRoot ← capOf pivotRootSlot
  let srcRoot ← capOf srcRootSlot
  let srcSlot ← lookupSourceSlot srcRoot (msg.arg 6) srcDepth
  let pivotSlot ← lookupPivotSlot pivotRoot (msg.arg 3) pivotDepth
  refuse (pivotSlot = srcSlot ∨ pivotSlot = destSlot) .illegalOperation
  ensureRotateSlot srcSlot destSlot
  let srcCap ← capOf srcSlot
  let pivotCap ← capOf pivotSlot
  if srcCap = .null then
    setLookupFault (.missingCapability srcDepth)
    syscallError (.failedLookup true)
  else if pivotCap = .null then
    setLookupFault (.missingCapability pivotDepth)
    syscallError (.failedLookup false)
  else
    let newSrcCap := updateCapData true (msg.arg 5) srcCap
    let newPivotCap := updateCapData true (msg.arg 2) pivotCap
    refuse (newSrcCap = .null) .illegalOperation
    refuse (newPivotCap = .null) .illegalOperation
    restartCurrent
    onCSpaceAtOnce fun cs => cs.invokeCNodeRotate newSrcCap newPivotCap srcSlot pivotSlot destSlot

/-- `decodeCNodeInvocation`. -/
def decodeCNodeInvocation (label : InvocationLabel) (cap : Cap) : Decode Unit := do
  refuse (label ∉ [.cnodeRevoke, .cnodeDelete, .cnodeCancelBadgedSends, .cnodeCopy, .cnodeMint, .cnodeMove,
    .cnodeMutate, .cnodeRotate]) .illegalOperation
  refuse (msg.length < 2) .truncatedMessage
  let destSlot ← lookupTargetSlot cap (msg.arg 0) (msg.arg 1)
  match label with
  | .cnodeRevoke => do
    restartCurrent
    invokeCNodeRevoke env destSlot
  | .cnodeDelete => do
    restartCurrent
    invokeCNodeDelete env destSlot
  | .cnodeCancelBadgedSends => do
    match toEndpointCap (← capOf destSlot) with
    | some destCap => do
      refuse (Mcs.Kernel.hasCancelSendRights destCap = false) .illegalOperation
      restartCurrent
      invokeCNodeCancelBadgedSends env destCap
    | none => syscallError .illegalOperation
  | .cnodeRotate => decodeCNodeRotate msg destSlot
  | label => decodeCNodeCopy msg label destSlot

/-! ## Untyped memory -/

/-- `nodeCap` of `decodeUntypedInvocation`. -/
def decodeNodeCap (rootSlot : Slot) : Decode Cap := do
  let rootCap ← capOf rootSlot
  if msg.arg 3 = 0 then
    return rootCap
  else
    let slot ← lookupTargetSlot rootCap (msg.arg 2) (msg.arg 3)
    capOf slot

/-- `ensureNoChildren`, where it only decides whether the untyped capability is reset. -/
def ensureNoChildren (slot : Slot) : Decode Bool := do
  match (← get).cspace.ensureNoChildren slot with
  | .ok _ => return true
  | .error e => do
    modify fun s => { s with currentSyscallError := s.currentSyscallError.report e }
    return false

/-- `invokeUntyped_Retype`, with what happens to the objects. -/
def invokeUntypedRetype (slot : Slot) (args : RetypeArgs) : Decode Unit := do
  onKernel (Mcs.Kernel.capEffects env.cfg env.effects)
  onCSpace fun cs => return CSpace.invokeUntypedRetype env.preempt slot args cs

/-- `decodeUntypedInvocation`, from where the destination is known to be a CNode. -/
def decodeRetypeInto (slot : Slot) (t : ObjectType) (capFreeIndex : Nat) (deviceMemory : Bool)
    (capBlockSize capPtr radix destCNode : Nat) : Decode Unit := do
  let userObjSize := msg.arg 1
  let nodeOffset := msg.arg 4
  let nodeWindow := msg.arg 5
  let objectSize := getObjectSize t userObjSize
  let nodeSize := 2 ^ radix
  refuse (nodeSize - 1 < nodeOffset) (.rangeError 0 (nodeSize - 1))
  refuse (nodeWindow < 1 ∨ retypeFanOutLimit < nodeWindow) (.rangeError 1 retypeFanOutLimit)
  refuse (nodeSize - nodeOffset < nodeWindow) (.rangeError 1 (nodeSize - nodeOffset))
  check fun s => s.cspace.ensureEmptySlots destCNode (List.range' nodeOffset nodeWindow)
  let reset ← ensureNoChildren slot
  let freeIndex := if reset then 0 else capFreeIndex
  let freeRef := getFreeRef capPtr freeIndex
  let untypedFreeBytes := sub64 (bit capBlockSize) (freeIndexToOffset freeIndex)
  refuse (untypedFreeBytes / 2 ^ objectSize < nodeWindow) (.notEnoughMemory untypedFreeBytes)
  refuse (deviceMemory = true ∧ isFrameType t = false ∧ t ≠ .untyped) (.invalidArgument 1)
  restartCurrent
  invokeUntypedRetype env slot ⟨reset, alignUp freeRef objectSize, t, userObjSize, destCNode, nodeOffset, nodeWindow,
    deviceMemory⟩

/-- `decodeUntypedInvocation`. -/
def decodeUntypedInvocation (label : InvocationLabel) (slot : Slot) : Cap → Decode Unit
  | .untyped capFreeIndex capIsDevice capBlockSize capPtr => do
    refuse (label ≠ .untypedRetype) .illegalOperation
    refuse (msg.length < 6) .truncatedMessage
    let rootSlot ← extraSlot msg 0
    let t ← check fun _ => CSpace.decodeObjectType (msg.arg 0) (msg.arg 1)
    match ← decodeNodeCap msg rootSlot with
    | .cnode radix _ _ destCNode =>
      decodeRetypeInto env msg slot t capFreeIndex capIsDevice capBlockSize capPtr radix destCNode
    | _ => do
      setLookupFault (.missingCapability (msg.arg 3))
      syscallError (.failedLookup false)
  | _ => throw (.halt .assertion)

/-! ## Scheduling contexts -/

/-- `decodeSchedControl_ConfigureFlags`, with the core of the invoked capability. -/
def decodeSchedControlConfigureFlags (core : Nat) : Decode Unit := do
  let targetSlot ← extraSlot msg 0
  refuse (msg.length < timeArgSize * 2 + 3) .truncatedMessage
  let timer := env.cfg.toTimerConfig
  let budgetUs := msg.arg 0
  refuse (budgetUs > timer.maxPeriodUs) (.rangeError timer.minBudgetUs timer.maxPeriodUs)
  let budgetTicks := timer.usToTicks budgetUs
  let periodUs := msg.arg timeArgSize
  refuse (periodUs > timer.maxPeriodUs) (.rangeError timer.minBudgetUs timer.maxPeriodUs)
  let periodTicks := timer.usToTicks periodUs
  refuse (budgetTicks < timer.minBudget) (.rangeError timer.minBudgetUs timer.maxPeriodUs)
  refuse (periodTicks < timer.minBudget) (.rangeError timer.minBudgetUs timer.maxPeriodUs)
  refuse (budgetTicks > periodTicks) (.rangeError timer.minBudgetUs periodUs)
  match ← capOf targetSlot with
  | .schedContext target sizeBits => do
    let extraRefills := msg.arg (timeArgSize * 2)
    let maxRefills := refillAbsoluteMax sizeBits
    refuse (extraRefills > sub64 maxRefills minRefills) (.rangeError 0 (sub64 maxRefills minRefills))
    restartCurrent
    onKernel fun k => k.invokeConfigureFlags env.cfg (toPtr target) {
      target, core, budget := budgetTicks, period := periodTicks
      maxRefills := add64 extraRefills minRefills
      badge := msg.arg (timeArgSize * 2 + 1), flags := msg.arg (timeArgSize * 2 + 2) }
  | _ => syscallError (.invalidCapability 1)

/-- `decodeSchedControlInvocation`. -/
def decodeSchedControlInvocation (label : InvocationLabel) (core : Nat) : Decode Unit :=
  match label with
  | .schedControlConfigureFlags => decodeSchedControlConfigureFlags env msg core
  | _ => syscallError .illegalOperation

/-- A check on the objects. -/
def refuseOn (c : Mcs.Kernel → Prop) [DecidablePred c] (e : SyscallError) : Decode Unit := do
  refuse (c (← get).kernel) e

/-- `decodeSchedContext_Bind`. -/
def decodeSchedContextBind (sc : Mcs.ScPtr) : Decode Unit := do
  let slot ← extraSlot msg 0
  match ← capOf slot with
  | .thread ptr => do
    let t := toPtr ptr
    refuseOn (fun k => k.scTcb sc ≠ none) .illegalOperation
    refuseOn (fun k => k.tcbSchedContext t ≠ none) .illegalOperation
    refuseOn (fun k => (k.tsType t).isBlocked = true ∧ k.scReleased sc = false) .illegalOperation
    restartCurrent
    onKernel fun k => k.schedContextBindTCB env.cfg sc t
  | .notification _ _ _ ptr => do
    let ntfn := toPtr ptr
    refuseOn (fun k => k.scNotification sc ≠ none) .illegalOperation
    refuseOn (fun k => k.ntfnSchedContext ntfn ≠ none) .illegalOperation
    restartCurrent
    onKernel fun k => k.schedContextBindNtfn sc ntfn
  | _ => syscallError (.invalidCapability 1)

/-- `decodeSchedContext_UnbindObject`. -/
def decodeSchedContextUnbindObject (sc : Mcs.ScPtr) : Decode Unit := do
  let slot ← extraSlot msg 0
  match ← capOf slot with
  | .thread ptr => do
    refuseOn (fun k => k.scTcb sc ≠ some (toPtr ptr)) .illegalOperation
    refuseOn (fun k => k.scTcb sc = some k.ksCurThread) .illegalOperation
    restartCurrent
    onKernel fun k => k.schedContextUnbindTCB env.cfg sc
  | .notification _ _ _ ptr => do
    refuseOn (fun k => k.scNotification sc ≠ some (toPtr ptr)) .illegalOperation
    restartCurrent
    onKernel fun k => k.schedContextUnbindNtfn sc
  | _ => syscallError (.invalidCapability 1)

/-- `decodeSchedContext_YieldTo`; its assertion stops the kernel only where the check that follows refuses. -/
def decodeSchedContextYieldTo (sc : Mcs.ScPtr) (call : Bool) : Decode Unit := do
  match (← get).kernel.scTcb sc with
  | none => syscallError .illegalOperation
  | some t => do
    refuseOn (fun k => t = k.ksCurThread) .illegalOperation
    refuseOn (fun k => k.tcbPriority t > k.tcbMCP k.ksCurThread) .illegalOperation
    refuseOn (fun k => k.tcbYieldTo k.ksCurThread ≠ none) .illegalOperation
    restartCurrent
    onKernel fun k => k.invokeYieldTo env.cfg sc t call

/-- The labels of `decodeSchedContextInvocation`. -/
def decodeSchedContextLabel (label : InvocationLabel) (sc : Mcs.ScPtr) (call : Bool) : Decode Unit :=
  match label with
  | .schedContextConsumed => do
    restartCurrent
    onKernel fun k => (k.setConsumed env.cfg sc k.ksCurThread call).setThreadState k.ksCurThread .running
  | .schedContextBind => decodeSchedContextBind env msg sc
  | .schedContextUnbindObject => decodeSchedContextUnbindObject env msg sc
  | .schedContextUnbind => do
    refuseOn (fun k => k.scTcb sc = some k.ksCurThread) .illegalOperation
    restartCurrent
    onKernel fun k => k.invokeUnbind env.cfg sc
  | .schedContextYieldTo => decodeSchedContextYieldTo env sc call
  | _ => syscallError .illegalOperation

/-- `decodeSchedContextInvocation`. The core that runs the thread of the context is stalled before anything is checked. -/
def decodeSchedContextInvocation (label : InvocationLabel) (sc : Mcs.ScPtr) (call : Bool) : Decode Unit := do
  modify fun s => if env.smp then s.maybeStallSC env sc else s
  decodeSchedContextLabel env msg label sc call

/-! ## Domains -/

/-- `decodeDomainSetSetInvocation`. -/
def decodeDomainSetSetInvocation : Decode Unit := do
  refuse (msg.length = 0) .truncatedMessage
  let domain := msg.arg 0
  refuse (domain ≥ env.cfg.numDomains) (.invalidArgument 0)
  let slot ← extraSlot msg 0
  match ← capOf slot with
  | .thread ptr => do
    restartCurrent
    onKernel fun k => k.setDomain env.cfg (toPtr ptr) domain
  | _ => syscallError (.invalidArgument 1)

/-- `decodeDomainScheduleConfigure`. -/
def decodeDomainScheduleConfigure : Decode Unit := do
  refuse (msg.length < 2 + timeArgSize) .truncatedMessage
  let index := msg.arg 0
  let domain := msg.arg 1
  let duration := msg.arg 2
  let length := env.cfg.domScheduleLength
  refuse (index ≥ length - 1) (.rangeError 0 (length - 2))
  refuse (domain ≥ env.cfg.numDomains) (.rangeError 0 (env.cfg.numDomains - 1))
  refuse (duration > Mcs.Kernel.dschedMaxDuration) (.invalidArgument 2)
  refuse (duration = 0 ∧ domain ≠ 0) (.invalidArgument 1)
  refuseOn (fun k => index = k.ksDomScheduleStart ∧ duration = 0) (.invalidArgument 2)
  restartCurrent
  onKernel fun k => { k with ksDomSchedule := Function.update k.ksDomSchedule index ⟨domain, duration⟩ }

/-- `decodeDomainScheduleSetStart`. -/
def decodeDomainScheduleSetStart : Decode Unit := do
  refuse (msg.length < 1) .truncatedMessage
  let index := msg.arg 0
  let length := env.cfg.domScheduleLength
  refuse (index ≥ length) (.rangeError 0 (length - 1))
  refuseOn (fun k => k.ksDomSchedule index = ⟨0, 0⟩) (.invalidArgument 0)
  restartCurrent
  onKernel fun k => { k with
    ksDomScheduleStart := index
    ksDomainTime := 0
    ksDomScheduleIdx := length - 2 }.rescheduleRequired env.cfg

/-- `decodeDomainInvocation`. -/
def decodeDomainInvocation : InvocationLabel → Decode Unit
  | .domainSetSet => decodeDomainSetSetInvocation env msg
  | .domainScheduleConfigure => decodeDomainScheduleConfigure env msg
  | .domainScheduleSetStart => decodeDomainScheduleSetStart env msg
  | _ => syscallError .illegalOperation

end Decode

end NexsKernel
