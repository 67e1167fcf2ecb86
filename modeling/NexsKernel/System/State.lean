import NexsKernel.CSpace.Invoke
import NexsKernel.Mcs.Entry

/-!
# The whole kernel, as an invocation sees it

Decode functions look at the CSpace and at the objects, and tell the caller about errors through globals
(`api/failures.h`, `kernel/cspace.c`). `Decode` is what they are written in: a function returns `EXCEPTION_NONE`, or
stops with an exception in whatever state it has reached.

A CNode or untyped invocation also finalises and creates objects; which, in which order, is `Env.effects`. Of the other
cores there is what `remoteTCBStall` (`object/tcb.c`, `smp/ipi.c`) reads and changes, which is all that happens to them
before an invocation starts.
-/

namespace NexsKernel

/-- `enum exception`, less `EXCEPTION_NONE`. -/
inductive Exception where
  | fault
  | lookupFault
  | syscallError
  | preempted
  deriving DecidableEq, Repr

/-- Why a function has not returned `EXCEPTION_NONE`. -/
inductive Stop where
  | exception (e : Exception)
  | halt (h : Halt)
  deriving DecidableEq, Repr

/-- `seL4_Error`. -/
inductive SyscallErrorType where
  | noError
  | invalidArgument
  | invalidCapability
  | illegalOperation
  | rangeError
  | alignmentError
  | failedLookup
  | truncatedMessage
  | deleteFirst
  | revokeFirst
  | notEnoughMemory
  deriving DecidableEq, Repr

/-- `struct syscall_error`; a field keeps its value until it is written. -/
structure SyscallErrorInfo where
  invalidArgumentNumber : Nat
  invalidCapNumber : Nat
  rangeErrorMin : Nat
  rangeErrorMax : Nat
  memoryLeft : Nat
  failedLookupWasSource : Bool
  type : SyscallErrorType
  deriving DecidableEq, Repr

/-- The stores that report an error. -/
def SyscallErrorInfo.report (i : SyscallErrorInfo) : SyscallError → SyscallErrorInfo
  | .invalidArgument n => { i with type := .invalidArgument, invalidArgumentNumber := n }
  | .invalidCapability n => { i with type := .invalidCapability, invalidCapNumber := n }
  | .illegalOperation => { i with type := .illegalOperation }
  | .rangeError lo hi => { i with type := .rangeError, rangeErrorMin := lo, rangeErrorMax := hi }
  | .alignmentError => { i with type := .alignmentError }
  | .failedLookup source => { i with type := .failedLookup, failedLookupWasSource := source }
  | .truncatedMessage => { i with type := .truncatedMessage }
  | .deleteFirst => { i with type := .deleteFirst }
  | .revokeFirst => { i with type := .revokeFirst }
  | .notEnoughMemory left => { i with type := .notEnoughMemory, memoryLeft := left }

/-- `lookup_fault_t`. -/
inductive LookupFault where
  | invalidRoot
  | missingCapability (bitsLeft : Nat)
  | depthMismatch (bitsFound bitsLeft : Nat)
  | guardMismatch (guardFound bitsLeft bitsFound : Nat)
  deriving DecidableEq, Repr

/-- The part of the state that every core has for itself (`NODE_STATE`). -/
structure SmpNode where
  ksReadyQueues : Nat → Queue Mcs.TcbPtr
  ksReadyQueuesL1Bitmap : Nat → Mcs.Word
  ksReadyQueuesL2Bitmap : Nat → Nat → Mcs.Word
  ksCurThread : Mcs.TcbPtr
  ksIdleThread : Mcs.TcbPtr
  ksSchedulerAction : Mcs.SchedulerAction
  ksReleaseQueue : Queue Mcs.TcbPtr
  ksConsumed : Nat
  ksCurTime : Nat
  ksReprogram : Bool
  ksCurSC : Mcs.ScPtr
  ksIdleSC : Mcs.ScPtr

/-- The slots, the objects and the scheduler, the other cores, and the globals for errors. -/
structure System where
  cspace : CSpace
  /-- The objects, and the state of the core that runs the kernel. -/
  kernel : Mcs.Kernel
  /-- The other cores. -/
  nodes : Nat → SmpNode
  tcbAffinity : Mcs.TcbPtr → Nat
  /-- The bits of `ipiReschedulePending`. -/
  ipiReschedulePending : Nat → Bool
  currentSyscallError : SyscallErrorInfo
  currentLookupFault : LookupFault

/-- The state but for the globals for errors. -/
def System.core (s : System) : CSpace × Mcs.Kernel × (Nat → SmpNode) × (Mcs.TcbPtr → Nat) × (Nat → Bool) :=
  (s.cspace, s.kernel, s.nodes, s.tcbAffinity, s.ipiReschedulePending)

/-- What the kernel is built for, and what an invocation meets outside of the state. -/
structure Env where
  pf : Platform
  cfg : Mcs.KernelConfig
  preempt : Nat → Bool
  fuel : Nat
  effects : List Mcs.CapEffect
  /-- `ENABLE_SMP_SUPPORT`. -/
  smp : Bool
  /-- `getCurrentCPUIndex`. -/
  currentCPUIndex : Nat
  /-- Another core waits for the lock, and not on the path of an interrupt. -/
  selfInQueue : Nat → Bool

namespace Mcs.Kernel

variable (k : Kernel)

/-- What the core that runs the kernel has for itself. -/
def node : SmpNode where
  ksReadyQueues := k.ksReadyQueues
  ksReadyQueuesL1Bitmap := k.ksReadyQueuesL1Bitmap
  ksReadyQueuesL2Bitmap := k.ksReadyQueuesL2Bitmap
  ksCurThread := k.ksCurThread
  ksIdleThread := k.ksIdleThread
  ksSchedulerAction := k.ksSchedulerAction
  ksReleaseQueue := k.ksReleaseQueue
  ksConsumed := k.ksConsumed
  ksCurTime := k.ksCurTime
  ksReprogram := k.ksReprogram
  ksCurSC := k.ksCurSC
  ksIdleSC := k.ksIdleSC

/-- The kernel on another core. -/
def onNode (n : SmpNode) : Kernel :=
  { k with
    ksReadyQueues := n.ksReadyQueues
    ksReadyQueuesL1Bitmap := n.ksReadyQueuesL1Bitmap
    ksReadyQueuesL2Bitmap := n.ksReadyQueuesL2Bitmap
    ksCurThread := n.ksCurThread
    ksIdleThread := n.ksIdleThread
    ksSchedulerAction := n.ksSchedulerAction
    ksReleaseQueue := n.ksReleaseQueue
    ksConsumed := n.ksConsumed
    ksCurTime := n.ksCurTime
    ksReprogram := n.ksReprogram
    ksCurSC := n.ksCurSC
    ksIdleSC := n.ksIdleSC }

/-- `ipiStallCoreCallback`, up to where the core waits again. -/
def ipiStallCoreCallback (cfg : KernelConfig) (selfInQueue : Bool) : Kernel :=
  let k :=
    if selfInQueue ∧ k.tsType k.ksCurThread = .running then k.setThreadState k.ksCurThread .restart else k
  let k := ((k.tcbSchedEnqueue cfg k.ksCurThread).switchToIdleThread).commitTime cfg
  { k with ksCurSC := k.ksIdleSC, ksSchedulerAction := .resumeCurrentThread }

end Mcs.Kernel

namespace System

variable (env : Env) (s : System)

/-- `doRemoteStall`, which returns when the other core has been stalled. -/
def doRemoteStall (cpu : Nat) : System :=
  let k := (s.kernel.onNode (s.nodes cpu)).ipiStallCoreCallback env.cfg (env.selfInQueue cpu)
  { s with kernel := k.onNode s.kernel.node, nodes := Function.update s.nodes cpu k.node }

/-- Another core runs the thread. -/
def RunsRemotely (t : Mcs.TcbPtr) : Prop :=
  s.kernel.tcbSchedContext t ≠ none ∧ s.tcbAffinity t ≠ env.currentCPUIndex ∧
    (s.nodes (s.tcbAffinity t)).ksCurThread = t

instance (t : Mcs.TcbPtr) : Decidable (s.RunsRemotely env t) :=
  inferInstanceAs (Decidable (_ ∧ _ ∧ _))

/-- `remoteTCBStall`. -/
def remoteTCBStall (t : Mcs.TcbPtr) : System :=
  if s.RunsRemotely env t then
    { s.doRemoteStall env (s.tcbAffinity t) with
      ipiReschedulePending := Function.update s.ipiReschedulePending (s.tcbAffinity t) true }
  else s

/-- `maybeStallSC`. -/
def maybeStallSC (sc : Mcs.ScPtr) : System :=
  match s.kernel.scTcb sc with
  | some t => s.remoteTCBStall env t
  | none => s

end System

/-- A message: its length, its words and the slots of its capabilities (`current_extra_caps`). -/
structure Message where
  length : Nat
  arg : Nat → Nat
  excaprefs : Nat → Option Slot

/-- The functions that return an `exception_t`. -/
abbrev Decode (α : Type) := EStateM Stop System α

/-- The object at an address in a capability. -/
def toPtr (ptr : Nat) : Mcs.Ptr :=
  Fin.ofNat (2 ^ 64) ptr

namespace Decode

variable {α : Type}

/-- `return EXCEPTION_SYSCALL_ERROR`, after the stores that report the error. -/
def syscallError (e : SyscallError) : Decode α := do
  modify fun s => { s with currentSyscallError := s.currentSyscallError.report e }
  throw (.exception .syscallError)

/-- A check. -/
def refuse (c : Prop) [Decidable c] (e : SyscallError) : Decode Unit :=
  if c then syscallError e else pure ()

/-- A function that reads the state and may report an error. -/
def check (f : System → Except SyscallError α) : Decode α := do
  match f (← get) with
  | .ok a => return a
  | .error e => syscallError e

/-- A store to `current_lookup_fault`. -/
def setLookupFault (fault : LookupFault) : Decode Unit :=
  modify fun s => { s with currentLookupFault := fault }

/-- `slot->cap`. -/
def capOf (slot : Slot) : Decode Cap := do
  return (← get).cspace.cap slot

/-- `current_extra_caps.excaprefs[i]`, which must not be null. -/
def extraSlot (msg : Message) (i : Nat) : Decode Slot :=
  match msg.excaprefs i with
  | some slot => pure slot
  | none => syscallError .truncatedMessage

/-- A function on the objects that always succeeds. -/
def onKernel (f : Mcs.Kernel → Mcs.Kernel) : Decode Unit :=
  modify fun s => { s with kernel := f s.kernel }

/-- A function on the CSpace that may be preempted. -/
def onCSpace (f : CSpace → Except Halt (Status × CSpace)) : Decode Unit := do
  match f (← get).cspace with
  | .ok (status, cs) =>
    modify fun s => { s with cspace := cs }
    if status = .preempted then throw (.exception .preempted) else pure ()
  | .error h => throw (.halt h)

/-- A function on the CSpace that is not preempted. -/
def onCSpaceAtOnce (f : CSpace → Except Halt CSpace) : Decode Unit :=
  onCSpace fun cs => do return (.none, ← f cs)

/-- `setThreadState(NODE_STATE(ksCurThread), ThreadState_Restart)`. -/
def restartCurrent : Decode Unit :=
  onKernel fun k => k.restartCurrent

/-! ## Lookups -/

/-- `wordRadix`. -/
def wordRadix : Nat := 6

/-- The loop of `resolveAddressBits`; one unit of fuel is one level, and every level resolves a bit. -/
def resolveLevels (capptr : Nat) : Nat → Cap → Nat → Decode (Slot × Nat)
  | 0, _, _ => throw (.halt .outOfFuel)
  | fuel + 1, .cnode radixBits guardBits capGuard ptr, nBits => do
    let levelBits := radixBits + guardBits
    if levelBits = 0 then
      throw (.halt .assertion)
    else
      let guard := capptr / 2 ^ (sub64 nBits guardBits % 2 ^ wordRadix) % 2 ^ guardBits
      if guardBits > nBits ∨ guard ≠ capGuard then do
        setLookupFault (.guardMismatch capGuard nBits guardBits)
        throw (.exception .lookupFault)
      else if levelBits > nBits then do
        setLookupFault (.depthMismatch levelBits nBits)
        throw (.exception .lookupFault)
      else
        let offset := capptr / 2 ^ (nBits - levelBits) % 2 ^ radixBits
        let slot := slotAt ptr offset
        if nBits = levelBits then
          return (slot, 0)
        else do
          match ← capOf slot with
          | .cnode radix size guard ptr => resolveLevels capptr fuel (.cnode radix size guard ptr) (nBits - levelBits)
          | _ => return (slot, nBits - levelBits)
  | _, _, nBits => return (0, nBits)

/-- `resolveAddressBits`: the slot and the bits that remain. -/
def resolveAddressBits (nodeCap : Cap) (capptr nBits : Nat) : Decode (Slot × Nat) :=
  match nodeCap with
  | .cnode radix size guard ptr => resolveLevels capptr (nBits + 1) (.cnode radix size guard ptr) nBits
  | _ => do
    setLookupFault .invalidRoot
    throw (.exception .lookupFault)

/-- The return of `lookupSlotForCNodeOp` when the lookup fails. -/
def orFailedLookup (source : Bool) (m : Decode α) : Decode α := fun s =>
  match m s with
  | .error (.exception .lookupFault) s' => syscallError (.failedLookup source) s'
  | r => r

/-- `lookupSlotForCNodeOp`. -/
def lookupSlotForCNodeOp (source : Bool) (root : Cap) (capptr depth : Nat) : Decode Slot := do
  match root with
  | .cnode .. =>
    refuse (depth < 1 ∨ depth > wordBits) (.rangeError 1 wordBits)
    let (slot, bitsRemaining) ← orFailedLookup source (resolveAddressBits root capptr depth)
    if bitsRemaining ≠ 0 then do
      setLookupFault (.depthMismatch 0 bitsRemaining)
      syscallError (.failedLookup source)
    else
      return slot
  | _ =>
    setLookupFault .invalidRoot
    syscallError (.failedLookup source)

/-- `lookupSourceSlot`. -/
def lookupSourceSlot (root : Cap) (capptr depth : Nat) : Decode Slot :=
  lookupSlotForCNodeOp true root capptr depth

/-- `lookupTargetSlot`. -/
def lookupTargetSlot (root : Cap) (capptr depth : Nat) : Decode Slot :=
  lookupSlotForCNodeOp false root capptr depth

/-- `lookupPivotSlot`. -/
def lookupPivotSlot (root : Cap) (capptr depth : Nat) : Decode Slot :=
  lookupSlotForCNodeOp true root capptr depth

end Decode

end NexsKernel
