import NexsKernel.Mcs.Sched

/-!
# Replies, notifications and endpoints

The operations on the objects that threads block on (`object/reply.c`, `object/notification.c`,
`object/endpoint.c`). What a message carries besides its badge (registers, capabilities) is not part of
the state: `doIPCTransfer` only writes the badge register of the receiver.
-/

namespace NexsKernel.Mcs

open Function (update)

namespace CallStacks

variable (c : CallStacks)

/-- A store to `replyPrev`. -/
def setReplyPrev (r : ReplyPtr) (p : Option ReplyPtr) : CallStacks :=
  { c with replyPrev := update c.replyPrev r p }

/-- A store to `replyNext`. -/
def setReplyNext (r : ReplyPtr) (n : CallStack) : CallStacks :=
  { c with replyNext := update c.replyNext r n }

/-- A store to `scReply`. -/
def setScReply (sc : ScPtr) (r : Option ReplyPtr) : CallStacks :=
  { c with scReply := update c.scReply sc r }

/-- The stores of `reply_push`: the reply becomes the top of the call stack of the context. -/
def push (reply : ReplyPtr) (sc : ScPtr) : CallStacks :=
  let oldCaller := c.scReply sc
  let c := match oldCaller with | none => c | some old => c.setReplyNext old (.reply reply)
  let c := c.setReplyPrev reply oldCaller
  let c := c.setScReply sc (some reply)
  c.setReplyNext reply (.head sc)

/-- The stores of `reply_pop` before the donation. -/
def pop (reply : ReplyPtr) (sc : ScPtr) : CallStacks :=
  let prev := c.replyPrev reply
  let c := c.setScReply sc prev
  let c := match prev with | none => c | some p => c.setReplyNext p (.head sc)
  c.setReplyNext reply .null

/-- The end of `reply_remove` and `reply_remove_tcb`: a reply that is not the head leaves its call stack,
which falls apart there. -/
def breakChain (reply : ReplyPtr) : CallStacks :=
  let next := c.replyNext reply
  let prev := c.replyPrev reply
  let c := match next with | .reply n => c.setReplyPrev n none | _ => c
  let c := match prev with | some p => c.setReplyNext p .null | none => c
  let c := c.setReplyPrev reply none
  c.setReplyNext reply .null

/-- The same for the head, where `reply_remove_tcb` also clears `scReply`. -/
def breakHead (reply : ReplyPtr) : CallStacks :=
  let c := match c.replyNext reply with | .head sc => c.setScReply sc none | _ => c
  c.breakChain reply

end CallStacks

namespace IpcState

variable (i : IpcState)

/-- Take a thread out of the queue of an endpoint, which becomes idle with its last thread. -/
def epDequeue (ep : EpPtr) (t : TcbPtr) : IpcState :=
  let r := i.tcbEPDequeue t (i.epQueue ep)
  { r.1 with
    epQueue := update i.epQueue ep r.2
    epState := if r.2.head = none then update i.epState ep .idle else i.epState }

/-- Take a thread out of the queue of a notification, which becomes idle with its last thread. -/
def ntfnDequeue (ntfn : NtfnPtr) (t : TcbPtr) : IpcState :=
  let r := i.tcbEPDequeue t (i.ntfnQueue ntfn)
  { r.1 with
    ntfnQueue := update i.ntfnQueue ntfn r.2
    ntfnState := if r.2.head = none then update i.ntfnState ntfn .idle else i.ntfnState }

end IpcState

namespace Kernel

variable (cfg : KernelConfig) (s : Kernel)

/-- `reply_unlink`. -/
def replyUnlink (reply : ReplyPtr) (t : TcbPtr) : Kernel :=
  let s := s.assert (s.tsType t == .blockedOnReceive || s.tsType t == .blockedOnReply)
  let s := s.assert (s.replyTCB reply == some t)
  let s := s.assert (s.replyObject t == some reply)
  let s := s.setReplyTCB reply none
  s.setThreadState t .inactive

/-- `setThreadStateBlockedOnReply`. -/
def setThreadStateBlockedOnReply (t : TcbPtr) (reply : ReplyPtr) : Kernel :=
  let s := s.setTsType t .blockedOnReply
  let s := { s with replyObject := update s.replyObject t (some reply) }
  s.scheduleTCB t

/-- The donation in `reply_push`: the reply becomes the top of the call stack of the context. -/
def replyPushDonate (callee : TcbPtr) (reply : ReplyPtr) (sc : ScPtr) : Kernel :=
  let s := s.assert (match s.scReply sc with | none => true | some old => s.replyNext old == .head sc)
  let s := { s with toCallStacks := s.toCallStacks.push reply sc }
  s.schedContextDonate cfg (some sc) callee

/-- `reply_push`. -/
def replyPush (caller callee : TcbPtr) (reply : ReplyPtr) (canDonate : Bool) : Kernel :=
  let scDonated := s.tcbSchedContext caller
  let s := s.assert (s.replyTCB reply == none)
  let s := s.assert (s.replyPrev reply == none)
  let s := s.assert (s.replyNext reply == .null)
  let s := s.assert (s.tsType caller == .blockedOnSend || (s.tsType caller).isRunnable)
  let s := s.assert (s.tsType callee == .inactive || (s.tsType callee).isRunnable)
  let s := s.setReplyTCB reply (some caller)
  let s := s.setThreadStateBlockedOnReply caller reply
  match scDonated with
  | some sc =>
    if s.tcbSchedContext callee = none ∧ canDonate = true then
      s.replyPushDonate cfg callee reply sc
    else
      s
  | none => s

/-- The assertions of `reply_pop` and `reply_remove`. -/
def assertReply (reply : ReplyPtr) (t : TcbPtr) : Kernel :=
  let s := s.assert (s.replyTCB reply == some t)
  let s := s.assert (s.tsType t == .blockedOnReply)
  s.assert (s.replyObject t == some reply)

/-- `reply_pop`. -/
def replyPop (reply : ReplyPtr) (t : TcbPtr) : Kernel :=
  let s := s.assertReply reply t
  match s.replyNext reply with
  | .head sc =>
    let s := { s with toCallStacks := s.toCallStacks.pop reply sc }
    let s := if s.tcbSchedContext t = none then s.schedContextDonate cfg (some sc) t else s
    let s := { s with toCallStacks := s.toCallStacks.setReplyPrev reply none }
    s.replyUnlink reply t
  | _ => s.fail

/-- `reply_remove`. -/
def replyRemove (reply : ReplyPtr) (t : TcbPtr) : Kernel :=
  let s := s.assertReply reply t
  match s.replyNext reply with
  | .head _ => s.replyPop cfg reply t
  | _ => { s with toCallStacks := s.toCallStacks.breakChain reply }.replyUnlink reply t

/-- `reply_remove_tcb`. -/
def replyRemoveTcb (t : TcbPtr) : Kernel :=
  let s := s.assert (s.tsType t == .blockedOnReply)
  match s.replyObject t with
  | none => s.fail
  | some reply =>
    { s with toCallStacks := s.toCallStacks.breakHead reply }.replyUnlink reply t

/-- The common part of `cancelIPC`, `sendIPC` and `receiveIPC`: take a thread out of the queue of an
endpoint. -/
def epDequeue (ep : EpPtr) (t : TcbPtr) : Kernel :=
  { s with toIpcState := s.toIpcState.epDequeue ep t }

/-- The same for a notification. -/
def ntfnDequeue (ntfn : NtfnPtr) (t : TcbPtr) : Kernel :=
  { s with toIpcState := s.toIpcState.ntfnDequeue ntfn t }

/-- `cancelSignal`. -/
def cancelSignal (t : TcbPtr) (ntfn : NtfnPtr) : Kernel :=
  let s := s.assert (s.ntfnState ntfn == .waiting)
  (s.ntfnDequeue ntfn t).setThreadState t .inactive

/-- `cancelIPC` of a thread that is blocked on an endpoint. -/
def cancelEpIPC (t : TcbPtr) : Kernel :=
  let ep := s.blockingObject t
  let s := s.assert (s.epState ep != .idle)
  let s := s.epDequeue ep t
  let s :=
    if s.tsType t = .blockedOnReceive then
      match s.replyObject t with
      | some reply => s.replyUnlink reply t
      | none => s
    else
      s
  s.setThreadState t .inactive

/-- `cancelIPC`. -/
def cancelIPC (t : TcbPtr) : Kernel :=
  let s := s.setTcbFault t .nullFault
  match s.tsType t with
  | .blockedOnSend | .blockedOnReceive => s.cancelEpIPC t
  | .blockedOnNotification => s.cancelSignal t (s.blockingObject t)
  | .blockedOnReply => s.replyRemoveTcb t
  | _ => s

/-- `ntfn_set_active`. -/
def ntfnSetActive (ntfn : NtfnPtr) (badge : Word) : Kernel :=
  (s.setNtfnState ntfn .active).setNtfnMsgIdentifier ntfn badge

/-- `setRegister(tcb, badgeRegister, badge)` with the word of a notification; the history gets what is in the register
then. -/
def deliverSignal (ntfn : NtfnPtr) (t : TcbPtr) (badge : Word) : Kernel :=
  let s := s.setBadgeRegister t badge
  s.logSignal (.delivered ntfn t (s.badgeRegister t))

/-- The end of `sendSignal` for the thread that it wakes. -/
def signalThread (ntfn : NtfnPtr) (t : TcbPtr) (badge : Word) : Kernel :=
  let s := s.setThreadState t .running
  let s := s.deliverSignal ntfn t badge
  let s := s.maybeDonateSchedContext cfg t ntfn
  let s := if s.isSchedulable t then s.possibleSwitchTo cfg t else s
  s.unblockSporadicAssert cfg (s.tcbSchedContext t)

/-- `sendSignal`. -/
def sendSignal (ntfn : NtfnPtr) (badge : Word) : Kernel :=
  let s := s.logSignal (.sent ntfn badge)
  match s.ntfnState ntfn with
  | .idle =>
    match s.ntfnBoundTCB ntfn with
    | some t =>
      if s.tsType t = .blockedOnReceive then
        (s.cancelIPC t).signalThread cfg ntfn t badge
      else
        s.ntfnSetActive ntfn badge
    | none => s.ntfnSetActive ntfn badge
  | .waiting =>
    match (s.ntfnQueue ntfn).head with
    | some dest => (s.ntfnDequeue ntfn dest).signalThread cfg ntfn dest badge
    | none => s.fail
  | .active => s.setNtfnMsgIdentifier ntfn (s.ntfnMsgIdentifier ntfn ||| badge)

/-- `doNBRecvFailedTransfer`. -/
def doNBRecvFailedTransfer (t : TcbPtr) : Kernel :=
  s.setBadgeRegister t 0

/-- The delivery of a pending word, in `receiveSignal` and `completeSignal`. -/
def takeSignal (ntfn : NtfnPtr) (t : TcbPtr) : Kernel :=
  let s := s.deliverSignal ntfn t (s.ntfnMsgIdentifier ntfn)
  let s := s.setNtfnState ntfn .idle
  s.maybeDonateSchedContext cfg t ntfn

/-- The part of `receiveSignal` that puts the thread into the queue of the notification. -/
def blockOnNtfn (ntfn : NtfnPtr) (t : TcbPtr) : Kernel :=
  let s := s.setTsType t .blockedOnNotification
  let s := { s with blockingObject := update s.blockingObject t ntfn }
  let s := s.scheduleTCB t
  let r := s.tcbEPAppend t (s.ntfnQueue ntfn)
  let s := r.1.setNtfnState ntfn .waiting
  s.setNtfnQueue ntfn r.2

/-- `receiveSignal`. -/
def receiveSignal (t : TcbPtr) (ntfn : NtfnPtr) (isBlocking : Bool) : Kernel :=
  match s.ntfnState ntfn with
  | .idle | .waiting =>
    if isBlocking then
      (s.blockOnNtfn ntfn t).maybeReturnSchedContext cfg ntfn t
    else
      s.doNBRecvFailedTransfer t
  | .active =>
    let s := s.takeSignal cfg ntfn t
    s.unblockSporadic cfg (s.tcbSchedContext t)

/-- `completeSignal`. -/
def completeSignal (ntfn : NtfnPtr) (t : TcbPtr) : Kernel :=
  if s.ntfnState ntfn = .active then
    let s := s.takeSignal cfg ntfn t
    if s.scSporadic (s.tcbSchedContext t) ∧ s.tcbSchedContext t = s.ntfnSchedContext ntfn then
      s.unblockSporadic cfg (s.tcbSchedContext t)
    else
      s.assertSporadic (s.tcbSchedContext t)
  else
    s.fail

/-- The body of the loop of `cancelAllSignals`. -/
def restartWaiter (t : TcbPtr) : Kernel :=
  let s := s.setThreadState t .restart
  let s := s.unblockSporadicAssert cfg (s.tcbSchedContext t)
  s.possibleSwitchTo cfg t

/-- The loop of `cancelAllSignals`. -/
def restartWaiters : Nat → Kernel → Option TcbPtr → Kernel
  | 0, s, _ => s.fail
  | _ + 1, s, none => s
  | fuel + 1, s, some t =>
    let s := s.restartWaiter cfg t
    restartWaiters fuel s (s.epLinks.next t)

/-- `cancelAllSignals`. -/
def cancelAllSignals (ntfn : NtfnPtr) : Kernel :=
  if s.ntfnState ntfn = .waiting then
    let head := (s.ntfnQueue ntfn).head
    let s := s.setNtfnState ntfn .idle
    let s := s.setNtfnQueue ntfn Queue.empty
    (restartWaiters cfg walkFuel s head).rescheduleRequired cfg
  else
    s

/-- `doUnbindNotification`. -/
def doUnbindNotification (ntfn : NtfnPtr) (t : TcbPtr) : Kernel :=
  { s with
    ntfnBoundTCB := update s.ntfnBoundTCB ntfn none
    tcbBoundNotification := update s.tcbBoundNotification t none }

/-- `unbindMaybeNotification`. -/
def unbindMaybeNotification (ntfn : NtfnPtr) : Kernel :=
  match s.ntfnBoundTCB ntfn with
  | some t => s.doUnbindNotification ntfn t
  | none => s

/-- `unbindNotification`. -/
def unbindNotification (t : TcbPtr) : Kernel :=
  match s.tcbBoundNotification t with
  | some ntfn => s.doUnbindNotification ntfn t
  | none => s

/-- `bindNotification`. -/
def bindNotification (t : TcbPtr) (ntfn : NtfnPtr) : Kernel :=
  { s with
    ntfnBoundTCB := update s.ntfnBoundTCB ntfn (some t)
    tcbBoundNotification := update s.tcbBoundNotification t (some ntfn) }

/-- `reorderNTFN`. -/
def reorderNTFN (ntfn : NtfnPtr) (t : TcbPtr) : Kernel :=
  let r := s.tcbEPDequeue t (s.ntfnQueue ntfn)
  let r := r.1.tcbEPAppend t r.2
  r.1.setNtfnQueue ntfn r.2

/-- `reorderEP`. -/
def reorderEP (ep : EpPtr) (t : TcbPtr) : Kernel :=
  let r := s.tcbEPDequeue t (s.epQueue ep)
  let r := r.1.tcbEPAppend t r.2
  r.1.setEpQueue ep r.2

/-- `doIPCTransfer`. -/
def doIPCTransfer (receiver : TcbPtr) (badge : Word) : Kernel :=
  s.setBadgeRegister receiver badge

/-- The part of `sendIPC` that puts the thread into the queue of the endpoint. -/
def blockOnSend (t : TcbPtr) (ep : EpPtr) (badge : Word) (canGrant canGrantReply doCall : Bool) :
    Kernel :=
  let s := s.setTsType t .blockedOnSend
  let s := { s with
    blockingObject := update s.blockingObject t ep
    blockingIPCBadge := update s.blockingIPCBadge t badge
    blockingIPCCanGrant := update s.blockingIPCCanGrant t canGrant
    blockingIPCCanGrantReply := update s.blockingIPCCanGrantReply t canGrantReply
    blockingIPCIsCall := update s.blockingIPCIsCall t doCall }
  let s := s.scheduleTCB t
  let r := s.tcbEPAppend t (s.epQueue ep)
  let s := r.1.setEpState ep .send
  s.setEpQueue ep r.2

/-- The part of `receiveIPC` that puts the thread into the queue of the endpoint. -/
def blockOnReceive (t : TcbPtr) (ep : EpPtr) (reply : Option ReplyPtr) : Kernel :=
  let s := s.setTsType t .blockedOnReceive
  let s := { s with
    blockingObject := update s.blockingObject t ep
    replyObject := update s.replyObject t reply }
  let s := s.scheduleTCB t
  let s := match reply with | some r => s.setReplyTCB r (some t) | none => s
  let r := s.tcbEPAppend t (s.epQueue ep)
  let s := r.1.setEpState ep .recv
  s.setEpQueue ep r.2

/-- The state of the two threads after a transfer in `sendIPC`: the sender of a call or a fault waits for
a reply or stops, and another sender may donate its scheduling context. -/
def linkSender (thread dest : TcbPtr) (reply : Option ReplyPtr) (doCall canGrant canGrantReply canDonate : Bool) :
    Kernel :=
  if doCall = true ∨ s.tcbFault thread ≠ .nullFault then
    match reply with
    | some r =>
      if canGrant || canGrantReply then
        s.replyPush cfg thread dest r canDonate
      else
        s.setThreadState thread .inactive
    | none => s.setThreadState thread .inactive
  else if canDonate = true ∧ s.tcbSchedContext dest = none then
    s.schedContextDonate cfg (s.tcbSchedContext thread) dest
  else
    s

/-- The end of `sendIPC`: the receiver runs. -/
def wakeReceiver (dest : TcbPtr) : Kernel :=
  let s := s.setThreadState dest .running
  let s := s.assert (s.tcbSchedContext dest == none || s.refillSufficient cfg dest)
  let s := s.assert (s.tcbSchedContext dest == none || s.refillReady dest)
  let s := s.unblockSporadic cfg (s.tcbSchedContext dest)
  s.possibleSwitchTo cfg dest

/-- `sendIPC` to a thread that waits. -/
def sendToReceiver (doCall : Bool) (badge : Word) (canGrant canGrantReply canDonate : Bool)
    (thread : TcbPtr) (ep : EpPtr) (dest : TcbPtr) : Kernel :=
  let s := s.epDequeue ep dest
  let s := s.doIPCTransfer dest badge
  let reply := s.replyObject dest
  let s := match reply with | some r => s.replyUnlink r dest | none => s
  let s := s.linkSender cfg thread dest reply doCall canGrant canGrantReply canDonate
  s.wakeReceiver cfg dest

/-- `sendIPC`. -/
def sendIPC (blocking doCall : Bool) (badge : Word) (canGrant canGrantReply canDonate : Bool)
    (thread : TcbPtr) (ep : EpPtr) : Kernel :=
  match s.epState ep with
  | .idle | .send =>
    if blocking then s.blockOnSend thread ep badge canGrant canGrantReply doCall else s
  | .recv =>
    match (s.epQueue ep).head with
    | some dest => s.sendToReceiver cfg doCall badge canGrant canGrantReply canDonate thread ep dest
    | none => s.fail

/-- The end of `receiveIPC` for the sender of the message. -/
def linkCaller (sender thread : TcbPtr) (reply : Option ReplyPtr) : Kernel :=
  let canGrant := s.blockingIPCCanGrant sender
  let canGrantReply := s.blockingIPCCanGrantReply sender
  if s.blockingIPCIsCall sender = true ∨ s.tcbFault sender ≠ .nullFault then
    match reply with
    | some r =>
      if canGrant || canGrantReply then
        s.replyPush cfg sender thread r
          (s.tcbSchedContext sender != none && s.tcbFault sender != .timeout)
      else
        s.setThreadState sender .inactive
    | none => s.setThreadState sender .inactive
  else
    let s := (s.setThreadState sender .running).possibleSwitchTo cfg sender
    s.assert (s.tcbSchedContext sender == none || s.refillSufficient cfg sender)

/-- `receiveIPC` from a thread that waits. -/
def receiveFromSender (thread : TcbPtr) (ep : EpPtr) (reply : Option ReplyPtr) (sender : TcbPtr) :
    Kernel :=
  let s := s.epDequeue ep sender
  let s := s.doIPCTransfer thread (s.blockingIPCBadge sender)
  let s := s.unblockSporadicAssert cfg (s.tcbSchedContext sender)
  s.linkCaller cfg sender thread reply

/-- The start of `receiveIPC`: a thread that the reply object was given to before is cancelled. -/
def freeReply (thread : TcbPtr) (reply : Option ReplyPtr) : Kernel :=
  match reply with
  | none => s
  | some r =>
    match s.replyTCB r with
    | some t => if t ≠ thread then s.cancelIPC t else s
    | none => s

/-- `receiveIPC` when no signal is pending. -/
def receiveOnEndpoint (thread : TcbPtr) (ep : EpPtr) (isBlocking : Bool) (reply : Option ReplyPtr) :
    Kernel :=
  match s.epState ep with
  | .idle | .recv =>
    if isBlocking then s.blockOnReceive thread ep reply else s.doNBRecvFailedTransfer thread
  | .send =>
    match (s.epQueue ep).head with
    | some sender => s.receiveFromSender cfg thread ep reply sender
    | none => s.fail

/-- `receiveIPC`. -/
def receiveIPC (thread : TcbPtr) (ep : EpPtr) (isBlocking : Bool) (reply : Option ReplyPtr) : Kernel :=
  let s := s.freeReply thread reply
  match s.tcbBoundNotification thread with
  | some ntfn =>
    if s.ntfnState ntfn = .active then
      s.completeSignal cfg ntfn thread
    else
      let s := if isBlocking then s.maybeReturnSchedContext cfg ntfn thread else s
      s.receiveOnEndpoint cfg thread ep isBlocking reply
  | none => s.receiveOnEndpoint cfg thread ep isBlocking reply

/-- `restart_thread_if_no_fault`. -/
def restartThreadIfNoFault (t : TcbPtr) : Kernel :=
  if s.tcbFault t = .nullFault then
    s.restartWaiter cfg t
  else
    s.setThreadState t .inactive

/-- The body of the loop of `cancelAllIPC`. -/
def cancelOneIPC (t : TcbPtr) : Kernel :=
  let s :=
    if s.tsType t = .blockedOnReceive then
      match s.replyObject t with
      | some reply => s.replyUnlink reply t
      | none => s
    else
      s
  s.restartThreadIfNoFault cfg t

/-- The loop of `cancelAllIPC`. -/
def cancelEachIPC : Nat → Kernel → Option TcbPtr → Kernel
  | 0, s, _ => s.fail
  | _ + 1, s, none => s
  | fuel + 1, s, some t =>
    let s := s.cancelOneIPC cfg t
    cancelEachIPC fuel s (s.epLinks.next t)

/-- `cancelAllIPC`. -/
def cancelAllIPC (ep : EpPtr) : Kernel :=
  match s.epState ep with
  | .idle => s
  | _ =>
    let head := (s.epQueue ep).head
    let s := s.setEpState ep .idle
    let s := s.setEpQueue ep Queue.empty
    (cancelEachIPC cfg walkFuel s head).rescheduleRequired cfg

/-- The loop of `cancelBadgedSends`, with the queue that it takes threads out of. -/
def cancelEachBadged (badge : Word) : Nat → Kernel → Queue TcbPtr → Option TcbPtr → Kernel × Queue TcbPtr
  | 0, s, q, _ => (s.fail, q)
  | _ + 1, s, q, none => (s, q)
  | fuel + 1, s, q, some t =>
    let b := s.blockingIPCBadge t
    let next := s.epLinks.next t
    let s := s.assert (s.tsType t == .blockedOnSend)
    if b = badge then
      let r := (s.restartThreadIfNoFault cfg t).tcbEPDequeue t q
      cancelEachBadged badge fuel r.1 r.2 next
    else
      cancelEachBadged badge fuel s q next

/-- `cancelBadgedSends`. -/
def cancelBadgedSends (ep : EpPtr) (badge : Word) : Kernel :=
  match s.epState ep with
  | .idle | .recv => s
  | .send =>
    let q := s.epQueue ep
    let s := s.setEpState ep .idle
    let s := s.setEpQueue ep Queue.empty
    let r := cancelEachBadged cfg badge walkFuel s q q.head
    let s := r.1.setEpQueue ep r.2
    let s := if r.2.head ≠ none then s.setEpState ep .send else s
    s.rescheduleRequired cfg

end Kernel

end NexsKernel.Mcs
