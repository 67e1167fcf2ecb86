import NexsKernel.Mcs.State

/-!
# Scheduler queues and endpoint queues

The ready queues with their two-level bitmap, the release queue, and the priority-ordered queues of
endpoints and notifications (`object/tcb.h`, `object/tcb.c`, `kernel/thread.h`). The functions that only
touch the scheduler queues are functions on `RunQueues`; the domain, the priority and the release time of
the thread are handed to them. Those on the queues of endpoints and notifications are functions on
`IpcState`.

A loop along a queue is given more rounds than there are addresses, which is enough because a queue holds
a thread at most once.
-/

namespace NexsKernel.Mcs

open Function (update)

/-- More than the number of addresses. -/
def walkFuel : Nat := 2 ^ 64 + 1

lemma length_lt_walkFuel {xs : List Ptr} (nd : xs.Nodup) : xs.length < walkFuel := by
  have h := nd.length_le_card
  rw [Fintype.card_fin] at h
  unfold walkFuel
  omega

/-- `wordBits`. -/
def wordBits : Nat := 64

/-- `BIT`. -/
def bitWord (i : Nat) : Word :=
  1#64 <<< i

/-- `clzl`, which is undefined on zero. -/
def clzl (w : Word) : Nat :=
  wordBits - 1 - w.toNat.log2

/-- `prio_to_l1index`. -/
def prioToL1index (prio : Nat) : Nat :=
  prio / wordBits

/-- `l1index_to_prio`. -/
def l1indexToPrio (l1index : Nat) : Nat :=
  l1index * wordBits

/-- `L2_BITMAP_SIZE`. -/
def l2BitmapSize (cfg : KernelConfig) : Nat :=
  (cfg.numPriorities + wordBits - 1) / wordBits

/-- `invert_l1index`. -/
def invertL1index (cfg : KernelConfig) (l1index : Nat) : Nat :=
  l2BitmapSize cfg - 1 - l1index

/-- `ready_queues_index`. -/
def readyQueuesIndex (cfg : KernelConfig) (dom prio : Nat) : Nat :=
  if cfg.numDomains > 1 then dom * cfg.numPriorities + prio else prio

namespace RunQueues

variable (cfg : KernelConfig) (r : RunQueues)

/-- `addToBitmap`. -/
def addToBitmap (dom prio : Nat) : RunQueues :=
  let l1index := prioToL1index prio
  let inverted := invertL1index cfg l1index
  { r with
    ksReadyQueuesL1Bitmap := update r.ksReadyQueuesL1Bitmap dom
      (r.ksReadyQueuesL1Bitmap dom ||| bitWord l1index)
    ksReadyQueuesL2Bitmap := update r.ksReadyQueuesL2Bitmap dom
      (update (r.ksReadyQueuesL2Bitmap dom) inverted
        (r.ksReadyQueuesL2Bitmap dom inverted ||| bitWord (prio % wordBits))) }

/-- `removeFromBitmap`. -/
def removeFromBitmap (dom prio : Nat) : RunQueues :=
  let l1index := prioToL1index prio
  let inverted := invertL1index cfg l1index
  let word := r.ksReadyQueuesL2Bitmap dom inverted &&& ~~~(bitWord (prio % wordBits))
  { r with
    ksReadyQueuesL2Bitmap := update r.ksReadyQueuesL2Bitmap dom
      (update (r.ksReadyQueuesL2Bitmap dom) inverted word)
    ksReadyQueuesL1Bitmap :=
      if word = 0 then
        update r.ksReadyQueuesL1Bitmap dom (r.ksReadyQueuesL1Bitmap dom &&& ~~~(bitWord l1index))
      else
        r.ksReadyQueuesL1Bitmap }

/-- `getHighestPrio`. -/
def getHighestPrio (dom : Nat) : Nat :=
  let l1index := wordBits - 1 - clzl (r.ksReadyQueuesL1Bitmap dom)
  let inverted := invertL1index cfg l1index
  let l2index := wordBits - 1 - clzl (r.ksReadyQueuesL2Bitmap dom inverted)
  l1indexToPrio l1index ||| l2index

/-- `isHighestPrio`. -/
def isHighestPrio (dom prio : Nat) : Bool :=
  decide (r.ksReadyQueuesL1Bitmap dom = 0 ∨ prio ≥ r.getHighestPrio cfg dom)

/-- The common part of `tcbSchedEnqueue` and `tcbSchedAppend`; `add` is `tcb_queue_prepend` or
`tcb_queue_append`. -/
def addToReady (add : Queue.Links TcbPtr → Queue TcbPtr → TcbPtr → Queue.Links TcbPtr × Queue TcbPtr)
    (dom prio : Nat) (t : TcbPtr) : RunQueues :=
  if r.tcbQueued t then
    r
  else
    let idx := readyQueuesIndex cfg dom prio
    let queue := r.ksReadyQueues idx
    let r := if queue.head = none then r.addToBitmap cfg dom prio else r
    let added := add r.schedLinks queue t
    { r with
      schedLinks := added.1
      ksReadyQueues := update r.ksReadyQueues idx added.2
      tcbQueued := update r.tcbQueued t true }

/-- The queues after `tcbSchedEnqueue`. -/
def schedEnqueue (dom prio : Nat) (t : TcbPtr) : RunQueues :=
  r.addToReady cfg Queue.prepend dom prio t

/-- The queues after `tcbSchedAppend`. -/
def schedAppend (dom prio : Nat) (t : TcbPtr) : RunQueues :=
  r.addToReady cfg Queue.append dom prio t

/-- The queues after `tcbSchedDequeue`. -/
def schedDequeue (dom prio : Nat) (t : TcbPtr) : RunQueues :=
  if r.tcbQueued t then
    let idx := readyQueuesIndex cfg dom prio
    let removed := Queue.remove r.schedLinks (r.ksReadyQueues idx) t
    let r := { r with
      schedLinks := removed.1
      ksReadyQueues := update r.ksReadyQueues idx removed.2
      tcbQueued := update r.tcbQueued t false }
    if removed.2.head = none then r.removeFromBitmap cfg dom prio else r
  else
    r

/-- The queues after `tcbReleaseRemove`. -/
def releaseRemove (t : TcbPtr) : RunQueues :=
  if r.tcbInReleaseQueue t then
    let removed := Queue.remove r.schedLinks r.ksReleaseQueue t
    { r with
      schedLinks := removed.1
      ksReleaseQueue := removed.2
      tcbInReleaseQueue := update r.tcbInReleaseQueue t false }
  else
    r

/-- `find_time_after`, where `time` is `tcbReadyTime`. -/
def findTimeAfter (time : TcbPtr → Nat) (t : Option TcbPtr) (newTime : Nat) : Option TcbPtr :=
  Queue.scanForward r.schedLinks (fun u => decide (newTime ≥ time u)) walkFuel t

/-- The assertions of `tcb_queue_insert`, for a thread that `tcbReleaseEnqueue` puts in the middle. -/
def releasePlaced (time : TcbPtr → Nat) (t : TcbPtr) : Bool :=
  match r.ksReleaseQueue.head, r.ksReleaseQueue.last with
  | some h, some e =>
    if time t < time h ∨ time e ≤ time t then
      true
    else
      match r.findTimeAfter time (some h) (time t) with
      | some after => r.schedLinks.prev after ≠ none && r.schedLinks.prev after ≠ some after
      | none => false
  | _, _ => true

/-- The choice of `tcbReleaseEnqueue` between the head, the end and the middle of the queue. -/
def releaseInsert (time : TcbPtr → Nat) (t : TcbPtr) : Queue.Links TcbPtr × Queue TcbPtr :=
  let queue := r.ksReleaseQueue
  match queue.head, queue.last with
  | some h, some e =>
    if time t < time h then
      Queue.prepend r.schedLinks queue t
    else if time e ≤ time t then
      Queue.append r.schedLinks queue t
    else
      match r.findTimeAfter time (some h) (time t) with
      | some after =>
        (Queue.insertBetween r.schedLinks (r.schedLinks.prev after) t (some after), queue)
      | none => (r.schedLinks, queue)
  | _, _ => Queue.prepend r.schedLinks queue t

/-- The queues after `tcbReleaseEnqueue`. -/
def releaseEnqueue (time : TcbPtr → Nat) (t : TcbPtr) : RunQueues :=
  let added := r.releaseInsert time t
  { r with
    schedLinks := added.1
    ksReleaseQueue := added.2
    tcbInReleaseQueue := update r.tcbInReleaseQueue t true }

end RunQueues

namespace IpcState

variable (i : IpcState)

/-- `tcbEPAppend`. -/
def tcbEPAppend (tcb : TcbPtr) (queue : Queue TcbPtr) : IpcState × Queue TcbPtr :=
  let place := Queue.scanBack i.epLinks (fun b => decide (i.tcbPriority tcb > i.tcbPriority b)) walkFuel
    queue.last none
  ({ i with
      epLinks := Queue.insertBetween i.epLinks place.1 tcb place.2
      epArrival := update i.epArrival tcb i.epClock
      epClock := i.epClock + 1 },
    { head := if place.1 = none then some tcb else queue.head
      last := if place.2 = none then some tcb else queue.last })

/-- `tcbEPDequeue`. -/
def tcbEPDequeue (tcb : TcbPtr) (queue : Queue TcbPtr) : IpcState × Queue TcbPtr :=
  let unlinked := Queue.unlink i.epLinks queue tcb
  ({ i with epLinks := unlinked.1 }, unlinked.2)

end IpcState

namespace Kernel

variable (s : Kernel)

/-- `tcbEPAppend`. -/
def tcbEPAppend (tcb : TcbPtr) (queue : Queue TcbPtr) : Kernel × Queue TcbPtr :=
  let r := s.toIpcState.tcbEPAppend tcb queue
  ({ s with toIpcState := r.1 }, r.2)

/-- `tcbEPDequeue`. -/
def tcbEPDequeue (tcb : TcbPtr) (queue : Queue TcbPtr) : Kernel × Queue TcbPtr :=
  let r := s.toIpcState.tcbEPDequeue tcb queue
  ({ s with toIpcState := r.1 }, r.2)

end Kernel

end NexsKernel.Mcs
