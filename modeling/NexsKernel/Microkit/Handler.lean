import Mathlib.Tactic

/-!
# The event handler of a protection domain

`main.c` of libmicrokit: `init`, then a loop that waits for a message and calls the entry point that its badge
stands for. The entry points are the program's own, so what they do in a run is an input: the deferred calls that
they make and the replies that they give. A run is recorded as a list of events, the system calls and the calls of
entry points in order.
-/

namespace NexsKernel.Microkit

/-- `seL4_Word`. -/
abbrev Word := BitVec 64

/-- `MONITOR_EP`. -/
def monitorEp : Nat := 5

/-- `BASE_OUTPUT_NOTIFICATION_CAP`. -/
def baseOutputNotificationCap : Nat := 10

/-- `BASE_IRQ_CAP`. -/
def baseIrqCap : Nat := 138

/-- `MICROKIT_MAX_CHANNEL_ID`. -/
def microkitMaxChannelId : Nat := 61

/-- `PD_MASK`. -/
def pdMask : Word := 0xff

/-- `CHANNEL_MASK`. -/
def channelMask : Word := 0x3f

/-- The labels of the messages that are sent here: none, and `IRQAckIRQ`. -/
inductive Label where
  | zero
  | irqAckIrq
  deriving DecidableEq, Repr

/-- A signal as the library holds it back: `microkit_signal_cap`, and the label of `microkit_signal_msg`. -/
structure Signal where
  cap : Nat
  msg : Label
  deriving DecidableEq, Repr

/-- A deferred call of an entry point. -/
inductive DeferredCall where
  | notify (ch : Nat)
  | irqAck (ch : Nat)
  deriving DecidableEq, Repr

/-- The call of an entry point. -/
inductive EntryCall where
  | notified (ch : Nat)
  | protectedEntry (ch : Word) (tag : Word)
  | fault (child : Word) (tag : Word)
  deriving DecidableEq, Repr

/-- What happens in a run. -/
inductive Event where
  /-- A signal is held back. -/
  | defer (s : Signal)
  /-- It is sent. -/
  | send (s : Signal)
  | reply (tag : Word)
  /-- The domain waits for a message. -/
  | wait
  | call (e : EntryCall)
  /-- An interrupt is acknowledged. -/
  | ack (cap : Nat)
  deriving DecidableEq, Repr

/-- The variables that the tool patches. -/
structure Pd where
  microkitPassive : Bool
  microkitIrqs : Word
  microkitNotifications : Word
  deriving Repr

/-- A message, and what the entry points do that it leads to: the deferred calls of each, the reply of `protected`,
and the reply of `fault` if it gives one. -/
structure Message where
  badge : Word
  tag : Word
  notified : Nat → List DeferredCall
  protectedEntry : List DeferredCall × Word
  fault : List DeferredCall × Option Word

/-- The variables of the library, and the events so far. -/
structure State where
  microkitHaveSignal : Bool
  microkitSignal : Signal
  haveReply : Bool
  replyTag : Word
  events : List Event
  deriving Repr

/-- `ch > MICROKIT_MAX_CHANNEL_ID || (mask & (1ULL << ch)) == 0`. -/
def invalidChannel (mask : Word) (ch : Nat) : Bool :=
  decide (microkitMaxChannelId < ch) || mask &&& (1 <<< ch) == 0

/-- The signal that a deferred call holds back. -/
def deferredSignal (pd : Pd) : DeferredCall → Option Signal
  | .notify ch =>
    if invalidChannel pd.microkitNotifications ch then none else some ⟨baseOutputNotificationCap + ch, .zero⟩
  | .irqAck ch => if invalidChannel pd.microkitIrqs ch then none else some ⟨baseIrqCap + ch, .irqAckIrq⟩

namespace State

def emit (s : State) (e : Event) : State :=
  { s with events := s.events ++ [e] }

/-- The assignments to `microkit_have_signal`, `microkit_signal_cap` and `microkit_signal_msg`. -/
def holdBack (s : State) (sig : Signal) : State :=
  { s.emit (.defer sig) with microkitHaveSignal := true, microkitSignal := sig }

/-- `microkit_deferred_notify` and `microkit_deferred_irq_ack`. -/
def deferred (pd : Pd) (s : State) (c : DeferredCall) : State :=
  match deferredSignal pd c with
  | none => s
  | some sig => s.holdBack sig

/-- An entry point is called, and makes deferred calls. -/
def enter (pd : Pd) (s : State) (e : EntryCall) (calls : List DeferredCall) : State :=
  calls.foldl (deferred pd) (s.emit (.call e))

/-- The system call at the head of the loop. -/
def receive (s : State) : State :=
  if s.haveReply then
    (s.emit (.reply s.replyTag)).emit .wait
  else if s.microkitHaveSignal then
    { (s.emit (.send s.microkitSignal)).emit .wait with microkitHaveSignal := false }
  else
    s.emit .wait

/-- The loop over the bits of the badge of a notification. -/
def notifiedLoop (pd : Pd) (m : Message) (badge : Word) (idx : Nat) (s : State) : State :=
  let s := if badge &&& 1 ≠ 0 then s.enter pd (.notified idx) (m.notified idx) else s
  if badge >>> 1 ≠ 0 then notifiedLoop pd m (badge >>> 1) (idx + 1) s else s
termination_by badge.toNat
decreasing_by
  rename_i h
  rw [BitVec.toNat_ushiftRight, Nat.shiftRight_eq_div_pow]
  have : badge.toNat / 2 ^ 1 ≠ 0 := by
    rw [← Nat.shiftRight_eq_div_pow, ← BitVec.toNat_ushiftRight]
    exact fun e => h (BitVec.eq_of_toNat_eq e)
  omega

/-- The body of the loop, after a message was received. -/
def handle (pd : Pd) (m : Message) (s : State) : State :=
  let isEndpoint := m.badge >>> 63
  let isFault := (m.badge >>> 62) &&& 1
  let s := { s with haveReply := false }
  if isFault ≠ 0 then
    let s := s.enter pd (.fault (m.badge &&& pdMask) m.tag) m.fault.1
    match m.fault.2 with
    | some replyTag => { s with haveReply := true, replyTag := replyTag }
    | none => s
  else if isEndpoint ≠ 0 then
    let s := s.enter pd (.protectedEntry (m.badge &&& channelMask) m.tag) m.protectedEntry.1
    { s with haveReply := true, replyTag := m.protectedEntry.2 }
  else
    s.notifiedLoop pd m m.badge 0

/-- The loop that acknowledges all interrupts. -/
def ackLoop (pd : Pd) (irqsToAck : Word) (idx : Nat) (s : State) : State :=
  let s := if irqsToAck &&& 1 ≠ 0 ∧ invalidChannel pd.microkitIrqs idx =
    false then s.emit (.ack (baseIrqCap + idx)) else s
  if irqsToAck >>> 1 ≠ 0 then ackLoop pd (irqsToAck >>> 1) (idx + 1) s else s
termination_by irqsToAck.toNat
decreasing_by
  rename_i h
  rw [BitVec.toNat_ushiftRight, Nat.shiftRight_eq_div_pow]
  have : irqsToAck.toNat / 2 ^ 1 ≠ 0 := by
    rw [← Nat.shiftRight_eq_div_pow, ← BitVec.toNat_ushiftRight]
    exact fun e => h (BitVec.eq_of_toNat_eq e)
  omega

/-- `main`, up to the loop over the messages: `init` with its deferred calls, and the signal to the monitor. -/
def start (pd : Pd) (init : List DeferredCall) : State :=
  let s := init.foldl (deferred pd) ⟨false, ⟨0, .zero⟩, false, 0, []⟩
  let s := if pd.microkitPassive then s.holdBack ⟨monitorEp, .zero⟩ else s
  s.ackLoop pd pd.microkitIrqs 0

/-- `handler_loop` over a number of messages. -/
def run (pd : Pd) (init : List DeferredCall) (msgs : List Message) : State :=
  msgs.foldl (fun s m => s.receive.handle pd m) (start pd init)

end State

/-- The events of a run, up to the system call after the last message. -/
def trace (pd : Pd) (init : List DeferredCall) (msgs : List Message) : List Event :=
  (State.run pd init msgs).receive.events

end NexsKernel.Microkit
