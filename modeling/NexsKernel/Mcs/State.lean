import NexsKernel.Lib.Queue
import NexsKernel.Sporadic.Budget

/-!
# The state of the MCS kernel

The objects that threads run on and meet at, and the state of the scheduler, for one core with
`CONFIG_KERNEL_MCS` (`object/structures.h`, `model/statedata.h`). A pointer is a 64-bit word; one that may
be `NULL` is an option. Each field of a C structure is a map from the address of the object, so that a
store through a pointer is an update of one map, and the fields that are written together are kept in one
part of the state.

Some parts are not in the memory of the kernel. `Ghost.failed` records that an assertion has failed; a kernel
without assertions goes on from there, and so does the model. `Ghost.halted` records that `fail` was called or
that a null pointer was followed, after which no kernel goes on. `Ghost.signals` is the history of the
signals, and `IpcState.epArrival` the order in which threads were put into endpoint and notification queues.
`Objects` says which objects exist: an object exists from its creation to the deletion of its last capability.
-/

namespace NexsKernel.Mcs

open Function (update)

/-- An address of a kernel object. -/
abbrev Ptr := Fin (2 ^ 64)

instance instNeZeroWords : NeZero (2 ^ 64) := ⟨by decide⟩

abbrev TcbPtr := Ptr

abbrev EpPtr := Ptr

abbrev NtfnPtr := Ptr

abbrev ReplyPtr := Ptr

abbrev ScPtr := Ptr

/-- `word_t`, where its bits matter. -/
abbrev Word := BitVec 64

/-- The constants of a configuration, beside those of the timer. -/
structure KernelConfig extends Timer where
  /-- `CONFIG_NUM_DOMAINS`. -/
  numDomains : Nat
  /-- `CONFIG_NUM_PRIORITIES`. -/
  numPriorities : Nat
  /-- `CONFIG_NUM_DOMAIN_SCHEDULES`. -/
  domScheduleLength : Nat
  /-- `usToTicks(CONFIG_BOOT_THREAD_TIME_SLICE * US_IN_MS)`. -/
  bootTimeSlice : Nat
  numDomains_pos : 1 ≤ numDomains
  numDomains_le : numDomains ≤ 256
  numPriorities_pos : 1 ≤ numPriorities
  numPriorities_le : numPriorities ≤ 256
  two_le_domScheduleLength : 2 ≤ domScheduleLength
  minBudget_le_bootTimeSlice : toTimer.minBudget ≤ bootTimeSlice
  bootTimeSlice_le : bootTimeSlice ≤ toTimer.maxPeriodTicks

/-- `seL4_MaxPrio`. -/
def KernelConfig.maxPrio (cfg : KernelConfig) : Nat :=
  cfg.numPriorities - 1

/-- `enum _thread_state`. -/
inductive ThreadState where
  | inactive
  | running
  | restart
  | blockedOnReceive
  | blockedOnSend
  | blockedOnReply
  | blockedOnNotification
  | idleThreadState
  deriving DecidableEq, Repr

/-- `enum endpoint_state`. -/
inductive EpState where
  | idle
  | send
  | recv
  deriving DecidableEq, Repr

/-- `enum notification_state`. -/
inductive NtfnState where
  | idle
  | waiting
  | active
  deriving DecidableEq, Repr

/-- `seL4_FaultType`. -/
inductive Fault where
  | nullFault
  | capFault
  | unknownSyscall
  | userException
  | vmFault
  | debugException
  | timeout
  deriving DecidableEq, Repr

/-- `call_stack_t`: nothing, a reply object, or with `isHead` a scheduling context. -/
inductive CallStack where
  | null
  | reply (r : ReplyPtr)
  | head (sc : ScPtr)
  deriving DecidableEq, Repr

/-- `ksSchedulerAction`. -/
inductive SchedulerAction where
  | resumeCurrentThread
  | chooseNewThread
  | switchTo (t : TcbPtr)
  deriving DecidableEq, Repr

/-- `cap_endpoint_cap`. -/
structure EndpointCap where
  capEPPtr : EpPtr
  capEPBadge : Word
  capCanSend : Bool
  capCanReceive : Bool
  capCanGrant : Bool
  capCanGrantReply : Bool
  deriving DecidableEq, Repr

/-- `cap_notification_cap`. -/
structure NotificationCap where
  capNtfnPtr : NtfnPtr
  capNtfnBadge : Word
  capNtfnCanSend : Bool
  capNtfnCanReceive : Bool
  deriving DecidableEq, Repr

/-- `cap_reply_cap`. -/
structure ReplyCap where
  capReplyPtr : ReplyPtr
  capReplyCanGrant : Bool
  deriving DecidableEq, Repr

/-- An entry of `ksDomSchedule`. -/
structure DSchedule where
  domain : Nat
  duration : Nat
  deriving DecidableEq, Repr

/-- An entry in the history of a notification. -/
inductive SignalEvent where
  /-- `sendSignal` was called. -/
  | sent (ntfn : NtfnPtr) (badge : Word)
  /-- The notification wrote its word to the badge register of a thread. -/
  | delivered (ntfn : NtfnPtr) (tcb : TcbPtr) (badge : Word)
  deriving DecidableEq, Repr

/-- The notification of an entry. -/
def SignalEvent.ntfn : SignalEvent → NtfnPtr
  | sent ntfn _ | delivered ntfn _ _ => ntfn

/-- Thread states, endpoints, notifications and the threads of reply objects. -/
structure IpcState where
  tsType : TcbPtr → ThreadState
  blockingObject : TcbPtr → Ptr
  blockingIPCBadge : TcbPtr → Word
  blockingIPCCanGrant : TcbPtr → Bool
  blockingIPCCanGrantReply : TcbPtr → Bool
  blockingIPCIsCall : TcbPtr → Bool
  replyObject : TcbPtr → Option ReplyPtr
  tcbFault : TcbPtr → Fault
  tcbPriority : TcbPtr → Nat
  /-- `tcbEPNext` and `tcbEPPrev`. -/
  epLinks : Queue.Links TcbPtr
  /-- When a thread was put into its queue, by a clock that counts these events. -/
  epArrival : TcbPtr → Nat
  epClock : Nat
  epState : EpPtr → EpState
  epQueue : EpPtr → Queue TcbPtr
  ntfnState : NtfnPtr → NtfnState
  ntfnQueue : NtfnPtr → Queue TcbPtr
  ntfnMsgIdentifier : NtfnPtr → Word
  replyTCB : ReplyPtr → Option TcbPtr

/-- The call stacks. -/
structure CallStacks where
  replyPrev : ReplyPtr → Option ReplyPtr
  replyNext : ReplyPtr → CallStack
  scReply : ScPtr → Option ReplyPtr

/-- The pointers between threads, scheduling contexts and notifications. -/
structure Bindings where
  tcbSchedContext : TcbPtr → Option ScPtr
  scTcb : ScPtr → Option TcbPtr
  tcbBoundNotification : TcbPtr → Option NtfnPtr
  ntfnBoundTCB : NtfnPtr → Option TcbPtr
  scNotification : ScPtr → Option NtfnPtr
  ntfnSchedContext : NtfnPtr → Option ScPtr
  tcbYieldTo : TcbPtr → Option ScPtr
  scYieldFrom : ScPtr → Option TcbPtr

/-- The objects that capabilities refer to, and the two that exist without. -/
structure Objects where
  tcbExists : TcbPtr → Bool
  epExists : EpPtr → Bool
  ntfnExists : NtfnPtr → Bool
  replyExists : ReplyPtr → Bool
  scExists : ScPtr → Bool
  /-- `capSCSizeBits` of the capabilities to a scheduling context. -/
  scSizeBits : ScPtr → Nat
  ksIdleThread : TcbPtr
  ksIdleSC : ScPtr

/-- All that the operations on objects change. -/
structure ObjState extends IpcState, CallStacks, Bindings, Objects

/-- The ready queues with their bitmaps, and the release queue. -/
structure RunQueues where
  /-- `tcbSchedNext` and `tcbSchedPrev`. -/
  schedLinks : Queue.Links TcbPtr
  tcbQueued : TcbPtr → Bool
  tcbInReleaseQueue : TcbPtr → Bool
  ksReadyQueues : Nat → Queue TcbPtr
  ksReadyQueuesL1Bitmap : Nat → Word
  ksReadyQueuesL2Bitmap : Nat → Nat → Word
  ksReleaseQueue : Queue TcbPtr

/-- The parameters of threads that only invocations change. -/
structure ThreadParams where
  tcbMCP : TcbPtr → Nat
  tcbDomain : TcbPtr → Nat
  tcbFaultHandler : TcbPtr → Option EndpointCap
  tcbTimeoutHandler : TcbPtr → Option EndpointCap

/-- The refill queues of the scheduling contexts. -/
structure ScStates where
  schedContext : ScPtr → SchedContext

/-- What the core runs and when it is interrupted. -/
structure NodeState where
  ksCurThread : TcbPtr
  ksSchedulerAction : SchedulerAction
  ksCurSC : ScPtr
  ksCurTime : Nat
  ksConsumed : Nat
  ksReprogram : Bool
  ksCurDomain : Nat
  ksDomainTime : Nat
  ksDomScheduleIdx : Nat
  ksDomScheduleStart : Nat
  ksDomSchedule : Nat → DSchedule

/-- The registers of the threads that the kernel writes. -/
structure UserContexts where
  badgeRegister : TcbPtr → Word

/-- What the proofs remember of a run. -/
structure Ghost where
  /-- An assertion has failed. -/
  failed : Bool
  /-- The kernel has halted. -/
  halted : Bool
  signals : List SignalEvent

/-- The state of the kernel. -/
structure Kernel extends ObjState, RunQueues, ThreadParams, ScStates, NodeState, UserContexts, Ghost

namespace Kernel

variable (s : Kernel)

/-- `fail`, which halts the kernel, and the use of a null pointer. -/
def fail : Kernel :=
  { s with failed := true, halted := true }

/-- `assert`. -/
def assert (b : Bool) : Kernel :=
  { s with failed := s.failed || !b }

/-- `thread_state_ptr_set_tsType`. -/
def setTsType (t : TcbPtr) (ts : ThreadState) : Kernel :=
  { s with tsType := update s.tsType t ts }

/-- `setRegister` for the badge register. -/
def setBadgeRegister (t : TcbPtr) (badge : Word) : Kernel :=
  { s with badgeRegister := update s.badgeRegister t badge }

/-- `endpoint_ptr_set_state`. -/
def setEpState (ep : EpPtr) (st : EpState) : Kernel :=
  { s with epState := update s.epState ep st }

/-- `ep_ptr_set_queue`. -/
def setEpQueue (ep : EpPtr) (q : Queue TcbPtr) : Kernel :=
  { s with epQueue := update s.epQueue ep q }

/-- `notification_ptr_set_state`. -/
def setNtfnState (ntfn : NtfnPtr) (st : NtfnState) : Kernel :=
  { s with ntfnState := update s.ntfnState ntfn st }

/-- `ntfn_ptr_set_queue`. -/
def setNtfnQueue (ntfn : NtfnPtr) (q : Queue TcbPtr) : Kernel :=
  { s with ntfnQueue := update s.ntfnQueue ntfn q }

/-- `notification_ptr_set_ntfnMsgIdentifier`. -/
def setNtfnMsgIdentifier (ntfn : NtfnPtr) (badge : Word) : Kernel :=
  { s with ntfnMsgIdentifier := update s.ntfnMsgIdentifier ntfn badge }

/-- An entry in the history of the signals. -/
def logSignal (e : SignalEvent) : Kernel :=
  { s with signals := e :: s.signals }

/-- A store to `replyTCB`. -/
def setReplyTCB (r : ReplyPtr) (t : Option TcbPtr) : Kernel :=
  { s with replyTCB := update s.replyTCB r t }

/-- A store to `tcbFault`. -/
def setTcbFault (t : TcbPtr) (f : Fault) : Kernel :=
  { s with tcbFault := update s.tcbFault t f }

/-- A store to `tcbSchedContext`. -/
def setTcbSchedContext (t : TcbPtr) (sc : Option ScPtr) : Kernel :=
  { s with tcbSchedContext := update s.tcbSchedContext t sc }

/-- A store to `scTcb`. -/
def setScTcb (sc : ScPtr) (t : Option TcbPtr) : Kernel :=
  { s with scTcb := update s.scTcb sc t }

end Kernel

end NexsKernel.Mcs
