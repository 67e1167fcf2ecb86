import NexsKernel.Mcs.Bitmap

/-!
# The big kernel lock and remote calls

`big_kernel_lock` and the cores that use it (`smp/lock.h`, `smp/lock.c`, `smp/ipi.c`, `aarch/smp/ipi.c`). A core
enters the kernel through a CLH lock, and the core that holds the lock can make the others perform a call: it
writes the call, sets a flag for each target and waits with them at a barrier. A core that waits for the lock
polls its flag; one that runs a thread is interrupted.

A step of a core is one access to memory that the cores share, and the steps of the cores are interleaved in any
order. What the fences and the orders of the atomic accesses are for is thus taken as given: all cores see the
accesses in one order. The interrupt that announces a remote call may arrive at any time, also when there is no
call, since one that was handled in the loop of the lock still arrives later.
-/

namespace NexsKernel.Smp

open Mcs (Word clzl bitWord)

/-- `clh_req_state_t`. -/
inductive ReqState where
  | granted
  | pending
  deriving DecidableEq, Repr

/-- `IpiRemoteCall_t`. -/
inductive RemoteCall where
  | stall
  | invalidateTranslationSingle
  | invalidateTranslationASID
  | invalidateTranslationAll
  | switchFpuOwner
  | maskPrivateInterrupt
  | deactivatePrivateInterrupt
  | vcpuInjectInterrupt
  deriving DecidableEq, Repr

/-- The remote function with its three arguments. -/
structure Call where
  remoteCall : RemoteCall
  arg0 : Word
  arg1 : Word
  arg2 : Word
  deriving DecidableEq, Repr

/-- The loop of `popcountl`, which has at most as many rounds as the word has bits. -/
def popcountLoop : Nat → Word → Nat → Nat
  | 0, _, count => count
  | n + 1, mask, count => if mask = 0 then count else popcountLoop n (mask &&& (mask - 1)) (count + 1)

/-- `popcountl`. -/
def popcountl (mask : Word) : Nat :=
  popcountLoop Mcs.wordBits mask 0

/-- Where `handleIPI` and `ipi_wait` return to. -/
inductive Return where
  /-- The loop of `clh_lock_acquire`, or with `stalled` the one of `ipiStallCoreCallback`. -/
  | loop (irqPath stalled : Bool)
  /-- The handler of an interrupt that has come from a thread. -/
  | interrupt
  /-- The code that holds the lock. -/
  | kernel
  deriving DecidableEq, Repr

/-- The parameter `irqPath`, with which `handleInterrupt` always calls `handleIPI`. -/
def Return.irqPath : Return → Bool
  | loop irqPath _ => irqPath
  | interrupt | kernel => true

/-- What a core does next. -/
inductive Pc where
  /-- A thread runs. -/
  | user
  /-- `clh_lock_acquire`: the store to `myreq->state`. -/
  | pend (irqPath : Bool)
  /-- The exchange of `tail`. -/
  | enqueue (irqPath : Bool)
  /-- The load of `watch->state`. -/
  | spin (irqPath stalled : Bool)
  /-- `clh_is_ipi_pending` in the loop. -/
  | poll (irqPath stalled : Bool)
  /-- `handleIPI`: the load of the function. `fresh` is only for the proofs: the flag was set at that time. -/
  | loadCall (ret : Return)
  | loadArg0 (ret : Return) (fresh : Bool) (f : RemoteCall)
  | loadArg1 (ret : Return) (fresh : Bool) (f : RemoteCall) (arg0 : Word)
  | loadArg2 (ret : Return) (fresh : Bool) (f : RemoteCall) (arg0 arg1 : Word)
  /-- `handleRemoteCall`: the load of the flag. -/
  | check (ret : Return) (fresh : Bool) (call : Call)
  | perform (ret : Return) (fresh : Bool) (call : Call)
  /-- The store of zero to the flag. -/
  | clear (ret : Return)
  /-- `ipi_wait`: the loads of `totalCoreBarrier` and of `globalsense`. -/
  | loadCores (ret : Return)
  | loadSense (ret : Return) (cores : Word)
  /-- The increment of `count`. -/
  | arrive (ret : Return) (cores localsense : Word)
  | resetCount (ret : Return) (localsense : Word)
  | advance (ret : Return) (localsense : Word)
  /-- The load of `globalsense` in the loop. -/
  | await (ret : Return) (localsense : Word)
  /-- The core has the lock. -/
  | kernel
  /-- `init_ipi_args`. -/
  | setCall (call : Call) (mask : Word)
  | setArg0 (call : Call) (mask : Word)
  | setArg1 (call : Call) (mask : Word)
  | setArg2 (call : Call) (mask : Word)
  | setCores (mask : Word)
  /-- The loop of `generic_ipi_send_mask`. -/
  | send (mask : Word)
  /-- `clh_is_self_in_queue` in `restore_user_context`. -/
  | exit
  /-- `clh_lock_release`: the store to `myreq->state`. -/
  | grant
  | reclaim
  deriving DecidableEq, Repr

/-- A call that a core has performed. -/
structure Performed where
  core : Nat
  ret : Return
  fresh : Bool
  call : Call
  deriving DecidableEq, Repr

/-- `clh_lock_t` with `ipi_state_t`, and what the cores do. -/
structure State where
  /-- The states of the requests, which are numbered. -/
  request : Nat → ReqState
  watch : Nat → Nat
  myreq : Nat → Nat
  /-- `node[i].ipi`. -/
  ipi : Nat → Bool
  tail : Nat
  count : Word
  globalsense : Word
  totalCoreBarrier : Word
  call : Call
  pc : Nat → Pc
  /-- The cores in the order in which they have exchanged `tail`. -/
  arrived : List Nat
  /-- The cores in the order in which they have left the loop of the lock. -/
  served : List Nat
  /-- The remote call that was made last, its mask, and which cores have performed a call since then. -/
  made : Call
  targets : Word
  performed : List Performed

namespace State

variable (s : State) (i : Nat)

/-- The next step of the core is another one. -/
def goto (pc : Pc) : State :=
  { s with pc := Function.update s.pc i pc }

def setRequest (r : Nat) (st : ReqState) : State :=
  { s with request := Function.update s.request r st }

/-- `clh_lock_init`; the requests are zero. -/
def init (maxNumNodes : Nat) (s : State) : State :=
  { s with
    request := fun _ => .granted
    myreq := id
    tail := maxNumNodes
    ipi := fun _ => false
    count := 0
    pc := fun _ => .user
    arrived := []
    served := []
    performed := [] }

end State

/-- The lock in memory that has been set to zero. -/
def State.zero : State where
  request _ := .granted
  watch _ := 0
  myreq _ := 0
  ipi _ := false
  tail := 0
  count := 0
  globalsense := 0
  totalCoreBarrier := 0
  call := ⟨.stall, 0, 0, 0⟩
  pc _ := .user
  arrived := []
  served := []
  made := ⟨.stall, 0, 0, 0⟩
  targets := 0
  performed := []

/-- Where a core goes on after `handleIPI` or `ipi_wait`. -/
def Return.resume : Return → Pc
  | loop irqPath stalled => .spin irqPath stalled
  | interrupt => .exit
  | kernel => .kernel

/-- Where a core goes on when it has the lock. After `ipiStallCoreCallback` only the idle thread is left to run. -/
def afterLock (stalled : Bool) : Pc :=
  if stalled then .exit else .kernel

/-- Where a core goes on after the call. `ipiStallCoreCallback` itself waits at the barrier and then for the lock,
if the core is in the queue of the lock for anything but an interrupt. -/
def State.afterCall (s : State) (i : Nat) (ret : Return) (f : RemoteCall) : Return :=
  if f = .stall ∧ s.request (s.myreq i) = .pending ∧ ret.irqPath = false then .loop ret.irqPath true else ret

/-- The steps of core `i`. -/
inductive CoreStep (maxNumNodes i : Nat) : State → State → Prop where
  /-- A system call, a fault or an interrupt. -/
  | enter {s} (irqPath : Bool) (h : s.pc i = .user) : CoreStep maxNumNodes i s (s.goto i (.pend irqPath))
  /-- The interrupt of a remote call, for which the lock is not acquired. -/
  | interrupt {s} (h : s.pc i = .user) : CoreStep maxNumNodes i s (s.goto i (.loadCall .interrupt))
  | pend {s irqPath} (h : s.pc i = .pend irqPath) :
      CoreStep maxNumNodes i s ((s.setRequest (s.myreq i) .pending).goto i (.enqueue irqPath))
  | enqueue {s irqPath} (h : s.pc i = .enqueue irqPath) :
      CoreStep maxNumNodes i s ({ s with
        watch := Function.update s.watch i s.tail
        tail := s.myreq i
        arrived := s.arrived ++ [i] }.goto i (.spin irqPath false))
  | lock {s irqPath stalled} (h : s.pc i = .spin irqPath stalled) (hg : s.request (s.watch i) = .granted) :
      CoreStep maxNumNodes i s ({ s with served := s.served ++ [i] }.goto i (afterLock stalled))
  | spin {s irqPath stalled} (h : s.pc i = .spin irqPath stalled) (hg : s.request (s.watch i) ≠ .granted) :
      CoreStep maxNumNodes i s (s.goto i (.poll irqPath stalled))
  | poll {s irqPath stalled} (h : s.pc i = .poll irqPath stalled) :
      CoreStep maxNumNodes i s
        (s.goto i (if s.ipi i then .loadCall (.loop irqPath stalled) else .spin irqPath stalled))
  | loadCall {s ret} (h : s.pc i = .loadCall ret) :
      CoreStep maxNumNodes i s (s.goto i (.loadArg0 ret (s.ipi i) s.call.remoteCall))
  | loadArg0 {s ret fresh f} (h : s.pc i = .loadArg0 ret fresh f) :
      CoreStep maxNumNodes i s (s.goto i (.loadArg1 ret fresh f s.call.arg0))
  | loadArg1 {s ret fresh f arg0} (h : s.pc i = .loadArg1 ret fresh f arg0) :
      CoreStep maxNumNodes i s (s.goto i (.loadArg2 ret fresh f arg0 s.call.arg1))
  | loadArg2 {s ret fresh f arg0 arg1} (h : s.pc i = .loadArg2 ret fresh f arg0 arg1) :
      CoreStep maxNumNodes i s (s.goto i (.check ret fresh ⟨f, arg0, arg1, s.call.arg2⟩))
  | check {s ret fresh call} (h : s.pc i = .check ret fresh call) :
      CoreStep maxNumNodes i s (s.goto i (if s.ipi i then .perform ret fresh call else ret.resume))
  | perform {s ret fresh call} (h : s.pc i = .perform ret fresh call) :
      CoreStep maxNumNodes i s ({ s with performed := s.performed ++ [Performed.mk i ret fresh call] }.goto i
        (.clear (s.afterCall i ret call.remoteCall)))
  | clear {s ret} (h : s.pc i = .clear ret) :
      CoreStep maxNumNodes i s ({ s with ipi := Function.update s.ipi i false }.goto i (.loadCores ret))
  | loadCores {s ret} (h : s.pc i = .loadCores ret) :
      CoreStep maxNumNodes i s (s.goto i (.loadSense ret s.totalCoreBarrier))
  | loadSense {s ret cores} (h : s.pc i = .loadSense ret cores) :
      CoreStep maxNumNodes i s (s.goto i (.arrive ret cores s.globalsense))
  | arrive {s ret cores localsense} (h : s.pc i = .arrive ret cores localsense) :
      CoreStep maxNumNodes i s ({ s with count := s.count + 1 }.goto i
        (if s.count = cores then .resetCount ret localsense else .await ret localsense))
  | resetCount {s ret localsense} (h : s.pc i = .resetCount ret localsense) :
      CoreStep maxNumNodes i s ({ s with count := 0 }.goto i (.advance ret localsense))
  | advance {s ret localsense} (h : s.pc i = .advance ret localsense) :
      CoreStep maxNumNodes i s ({ s with globalsense := s.globalsense + 1 }.goto i (.await ret localsense))
  | await {s ret localsense} (h : s.pc i = .await ret localsense) :
      CoreStep maxNumNodes i s
        (s.goto i (if localsense = s.globalsense then .await ret localsense else ret.resume))
  /-- `doRemoteMaskOp`. The bits of the mask are cores. -/
  | remote {s} (call : Call) (mask : Word) (h : s.pc i = .kernel)
      (hmask : ∀ j, mask.getLsbD j = true → j < maxNumNodes) :
      CoreStep maxNumNodes i s
        (if mask &&& ~~~bitWord i ≠ 0 then
          { s with made := call, targets := mask &&& ~~~bitWord i, performed := [] }.goto i
            (.setCall call (mask &&& ~~~bitWord i))
        else s)
  | setCall {s call mask} (h : s.pc i = .setCall call mask) :
      CoreStep maxNumNodes i s
        ({ s with call := { s.call with remoteCall := call.remoteCall } }.goto i (.setArg0 call mask))
  | setArg0 {s call mask} (h : s.pc i = .setArg0 call mask) :
      CoreStep maxNumNodes i s ({ s with call := { s.call with arg0 := call.arg0 } }.goto i (.setArg1 call mask))
  | setArg1 {s call mask} (h : s.pc i = .setArg1 call mask) :
      CoreStep maxNumNodes i s ({ s with call := { s.call with arg1 := call.arg1 } }.goto i (.setArg2 call mask))
  | setArg2 {s call mask} (h : s.pc i = .setArg2 call mask) :
      CoreStep maxNumNodes i s ({ s with call := { s.call with arg2 := call.arg2 } }.goto i (.setCores mask))
  | setCores {s mask} (h : s.pc i = .setCores mask) :
      CoreStep maxNumNodes i s
        ({ s with totalCoreBarrier := BitVec.ofNat 64 (popcountl mask) }.goto i (.send mask))
  | send {s mask} (h : s.pc i = .send mask) (hm : mask ≠ 0) :
      CoreStep maxNumNodes i s
        ({ s with ipi := Function.update s.ipi (Mcs.wordBits - 1 - clzl mask) true }.goto i
          (.send (mask &&& ~~~bitWord (Mcs.wordBits - 1 - clzl mask))))
  | sent {s} (h : s.pc i = .send 0) : CoreStep maxNumNodes i s (s.goto i (.loadCores .kernel))
  /-- `handleInterrupt` from a preemption point, when the interrupt of a remote call is there. -/
  | preempted {s} (h : s.pc i = .kernel) : CoreStep maxNumNodes i s (s.goto i (.loadCall .kernel))
  | leave {s} (h : s.pc i = .kernel) : CoreStep maxNumNodes i s (s.goto i .exit)
  | exit {s} (h : s.pc i = .exit) :
      CoreStep maxNumNodes i s (s.goto i (if s.request (s.myreq i) = .pending then .grant else .user))
  | grant {s} (h : s.pc i = .grant) :
      CoreStep maxNumNodes i s ((s.setRequest (s.myreq i) .granted).goto i .reclaim)
  | reclaim {s} (h : s.pc i = .reclaim) :
      CoreStep maxNumNodes i s ({ s with myreq := Function.update s.myreq i (s.watch i) }.goto i .user)

/-- A step of some core. -/
def Step (maxNumNodes : Nat) (s s' : State) : Prop :=
  ∃ i < maxNumNodes, CoreStep maxNumNodes i s s'

/-- The states that are reached from the initial ones. -/
def Reachable (maxNumNodes : Nat) (s : State) : Prop :=
  ∃ s₀ : State, Relation.ReflTransGen (Step maxNumNodes) (s₀.init maxNumNodes) s

lemma Reachable.step {maxNumNodes i : Nat} {s s' : State} (h : Reachable maxNumNodes s) (hi : i < maxNumNodes)
    (st : CoreStep maxNumNodes i s s') : Reachable maxNumNodes s' :=
  h.imp fun _ hrun => hrun.tail ⟨i, hi, st⟩

end NexsKernel.Smp
