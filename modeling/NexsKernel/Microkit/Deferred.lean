import NexsKernel.Microkit.Handler

/-!
# Deferred signals

The library has one place for a signal that it holds back. What is held back is sent with the next system call,
unless that call is a reply; so a deferred signal is lost or waits too long when an entry point that replies makes
one, when two calls of `notified` for one message make one each, or when `init` of a passive domain makes one, whose
place is then taken by the signal to the monitor. Otherwise every signal is sent, once and in order
(`deferred_iff`).
-/

namespace NexsKernel.Microkit

/-- The signals that were held back so far. -/
def heldBack (tr : List Event) : List Signal :=
  tr.filterMap fun | .defer s => some s | _ => none

/-- The signals that were sent so far. -/
def sent (tr : List Event) : List Signal :=
  tr.filterMap fun | .send s => some s | _ => none

/-- Each deferred signal is sent once and in order: nothing is held back when the domain waits for a message, and
nothing is overwritten. -/
structure Lawful (tr : List Event) : Prop where
  wait : ∀ p, p ++ [.wait] <+: tr → sent p = heldBack p
  defer : ∀ p s, p ++ [.defer s] <+: tr → sent p = heldBack p

/-- Whether the badge is that of a fault, and of a protected procedure call. -/
def Message.isFault (m : Message) : Prop := (m.badge >>> 62) &&& 1 ≠ 0

instance (m : Message) : Decidable m.isFault := inferInstanceAs (Decidable (_ ≠ _))

def Message.isEndpoint (m : Message) : Prop := m.badge >>> 63 ≠ 0

instance (m : Message) : Decidable m.isEndpoint := inferInstanceAs (Decidable (_ ≠ _))

/-- The bits that are set in a badge, from some index on. -/
def bitsOf (badge : Word) : List Nat :=
  (List.range 64).filter badge.getLsbD

/-- The deferred calls of the entry points that a message leads to. -/
def Message.calls (m : Message) : List DeferredCall :=
  if m.isFault then m.fault.1
  else if m.isEndpoint then m.protectedEntry.1
  else (bitsOf m.badge).flatMap m.notified

/-- An entry point replies to the message. -/
def Message.replies (m : Message) : Prop :=
  if m.isFault then m.fault.2 ≠ none else m.isEndpoint

/-- `init` and each entry point make at most one deferred call. -/
structure AtMostOne (init : List DeferredCall) (msgs : List Message) : Prop where
  init : init.length ≤ 1
  notified : ∀ m ∈ msgs, ∀ ch, (m.notified ch).length ≤ 1
  protectedEntry : ∀ m ∈ msgs, m.protectedEntry.1.length ≤ 1
  fault : ∀ m ∈ msgs, m.fault.1.length ≤ 1

/-- The place for a signal is free whenever it is needed: `init` of a passive domain holds nothing back, and for a
message at most one signal is held back, and none if there is a reply. -/
structure PlaceFree (pd : Pd) (init : List DeferredCall) (msgs : List Message) : Prop where
  passive : pd.microkitPassive = true → init.filterMap (deferredSignal pd) = []
  one : ∀ m ∈ msgs, (m.calls.filterMap (deferredSignal pd)).length ≤ 1
  reply : ∀ m ∈ msgs, m.replies → m.calls.filterMap (deferredSignal pd) = []

/-! ## Traces -/

lemma heldBack_append (tr tr' : List Event) : heldBack (tr ++ tr') = heldBack tr ++ heldBack tr' :=
  List.filterMap_append

lemma sent_append (tr tr' : List Event) : sent (tr ++ tr') = sent tr ++ sent tr' :=
  List.filterMap_append

lemma Lawful.nil : Lawful [] where
  wait := fun _ h => by simp at h
  defer := fun _ _ h => by simp at h

lemma Lawful.mono {tr tr' : List Event} (h : Lawful tr') (hp : tr <+: tr') : Lawful tr where
  wait := fun p hpre => h.wait p (hpre.trans hp)
  defer := fun p s hpre => h.defer p s (hpre.trans hp)

/-- One more event. -/
lemma lawful_append {tr : List Event} {e : Event} :
    Lawful (tr ++ [e]) ↔ Lawful tr ∧ ((e = .wait ∨ ∃ s, e = .defer s) → sent tr = heldBack tr) := by
  constructor
  · refine fun h => ⟨h.mono (List.prefix_append _ _), ?_⟩
    rintro (rfl | ⟨s, rfl⟩)
    · exact h.wait tr List.prefix_rfl
    · exact h.defer tr s List.prefix_rfl
  · rintro ⟨h, he⟩
    have hsplit : ∀ {p e'}, p ++ [e'] <+: tr ++ [e] → p ++ [e'] <+: tr ∨ p = tr ∧ e' = e := by
      intro p e' hp
      rcases List.prefix_concat_iff.mp hp with hp | hp
      · obtain ⟨rfl, hlast⟩ := List.append_inj' hp rfl
        exact .inr ⟨rfl, List.singleton_inj.mp hlast⟩
      · exact .inl hp
    refine ⟨fun p hp => ?_, fun p s hp => ?_⟩
    · rcases hsplit hp with hp | ⟨rfl, rfl⟩
      · exact h.wait p hp
      · exact he (.inl rfl)
    · rcases hsplit hp with hp | ⟨rfl, rfl⟩
      · exact h.defer p s hp
      · exact he (.inr ⟨s, rfl⟩)

/-- An event that neither holds back nor sends changes nothing. -/
lemma heldBack_neutral {tr : List Event} {e : Event} (h : heldBack [e] = []) : heldBack (tr ++ [e]) = heldBack tr := by
  rw [heldBack_append, h, List.append_nil]

lemma sent_neutral {tr : List Event} {e : Event} (h : sent [e] = []) : sent (tr ++ [e]) = sent tr := by
  rw [sent_append, h, List.append_nil]

/-! ## The bits of a badge -/

lemma and_one_ne_zero {b : Word} : b &&& 1 ≠ 0 ↔ b.getLsbD 0 = true := by
  have h : (b &&& 1).toNat = b.toNat % 2 := by
    rw [BitVec.toNat_and]
    exact Nat.and_one_is_mod _
  have hb : b.getLsbD 0 = decide (b.toNat % 2 = 1) := by
    rw [BitVec.getLsbD, Nat.testBit_zero]
  rw [hb, decide_eq_true_eq, ne_eq, ← BitVec.toNat_inj, h]
  change ¬ b.toNat % 2 = 0 ↔ _
  omega

/-- The lowest bit, and those above it. -/
lemma bitsOf_eq (b : Word) :
    bitsOf b = (if b &&& 1 ≠ 0 then [0] else []) ++ (bitsOf (b >>> 1)).map (· + 1) := by
  have hshift : ∀ i, (b >>> 1).getLsbD i = b.getLsbD (i + 1) := by
    intro i
    rw [BitVec.getLsbD_ushiftRight, Nat.add_comm]
  have htop : (b >>> 1).getLsbD 63 = false := by
    rw [hshift]
    exact BitVec.getLsbD_of_ge b _ le_rfl
  have hlow : bitsOf (b >>> 1) = (List.range 63).filter fun i => b.getLsbD (i + 1) := by
    unfold bitsOf
    rw [List.range_succ, List.filter_append, List.filter_singleton, htop]
    simp only [cond_false, List.append_nil]
    exact List.filter_congr fun i _ => hshift i
  rw [hlow]
  unfold bitsOf
  rw [List.range_succ_eq_map, List.filter_cons, List.filter_map]
  by_cases h : b &&& 1 ≠ 0
  · rw [if_pos h, if_pos (and_one_ne_zero.mp h)]
    rfl
  · rw [if_neg h, if_neg fun hb => h (and_one_ne_zero.mpr hb)]
    rfl

lemma bitsOf_zero : bitsOf 0 = [] := by
  decide

/-! ## One message -/

namespace State

variable {pd : Pd} {s : State} {m : Message}

/-- The signal that is held back, if there is one. -/
def pending (s : State) : List Signal :=
  if s.microkitHaveSignal then [s.microkitSignal] else []

/-- What holds at the head of the loop: all but the signal that is held back was sent, and that is not behind a
reply. -/
structure Ready (s : State) : Prop where
  lawful : Lawful s.events
  heldBack : heldBack s.events = sent s.events ++ s.pending
  reply : s.haveReply = true → s.pending = []

/-- What holds when a message was received. -/
structure Clear (s : State) : Prop where
  lawful : Lawful s.events
  heldBack : heldBack s.events = sent s.events
  free : s.microkitHaveSignal = false

lemma pending_eq_nil : s.pending = [] ↔ s.microkitHaveSignal = false := by
  unfold pending
  cases s.microkitHaveSignal <;> simp

/-- The system call sends what is held back, if it can. -/
lemma Ready.receive (h : s.Ready) : s.receive.Clear := by
  have hl := h.lawful
  have hh := h.heldBack
  unfold State.receive
  by_cases hr : s.haveReply = true
  · rw [if_pos hr]
    have hp := h.reply hr
    rw [hp, List.append_nil] at hh
    have hl' : Lawful (s.events ++ [.reply s.replyTag]) := lawful_append.mpr ⟨hl, by simp⟩
    have e1 : Microkit.heldBack (s.events ++ [.reply s.replyTag]) = sent (s.events ++ [.reply s.replyTag]) := by
      rw [heldBack_neutral rfl, sent_neutral rfl, hh]
    refine ⟨lawful_append.mpr ⟨hl', fun _ => e1.symm⟩, ?_, pending_eq_nil.mp hp⟩
    exact (heldBack_neutral rfl).trans (e1.trans (sent_neutral rfl).symm)
  · rw [if_neg hr]
    by_cases hs : s.microkitHaveSignal = true
    · rw [if_pos hs]
      have hp : s.pending = [s.microkitSignal] := if_pos hs
      rw [hp] at hh
      have hl' : Lawful (s.events ++ [.send s.microkitSignal]) := lawful_append.mpr ⟨hl, by simp⟩
      have e1 : Microkit.heldBack (s.events ++ [.send s.microkitSignal]) =
        sent (s.events ++ [.send s.microkitSignal]) := by
        rw [heldBack_neutral rfl, hh, sent_append]
        rfl
      refine ⟨lawful_append.mpr ⟨hl', fun _ => e1.symm⟩, ?_, rfl⟩
      exact (heldBack_neutral rfl).trans (e1.trans (sent_neutral rfl).symm)
    · rw [if_neg hs]
      rw [Bool.not_eq_true] at hs
      rw [pending_eq_nil.mpr hs, List.append_nil] at hh
      refine ⟨lawful_append.mpr ⟨hl, fun _ => hh.symm⟩, ?_, hs⟩
      exact (heldBack_neutral rfl).trans (hh.trans (sent_neutral rfl).symm)

/-- From `s` to `s'` the signals `sigs` were held back, one after the other, and none was sent. -/
structure Adds (sigs : List Signal) (s s' : State) : Prop where
  grows : s.events <+: s'.events
  heldBack : heldBack s'.events = heldBack s.events ++ sigs
  sent : sent s'.events = sent s.events
  lawful : Lawful s'.events ↔
    Lawful s.events ∧ (sigs ≠ [] → Microkit.sent s.events = Microkit.heldBack s.events) ∧ sigs.length ≤ 1
  pending : s'.pending = if h : sigs = [] then s.pending else [sigs.getLast h]

lemma Adds.refl (s : State) : Adds [] s s where
  grows := List.prefix_rfl
  heldBack := (List.append_nil _).symm
  sent := rfl
  lawful := by simp
  pending := rfl

/-- The reply is no part of the trace. -/
lemma Adds.setReply {sigs : List Signal} {s s' : State} (h : Adds sigs s s') (haveReply : Bool) (replyTag : Word) :
    Adds sigs s { s' with haveReply := haveReply, replyTag := replyTag } where
  grows := h.grows
  heldBack := h.heldBack
  sent := h.sent
  lawful := h.lawful
  pending := h.pending

lemma Adds.trans {sigs sigs' : List Signal} {s s' s'' : State} (h : Adds sigs s s') (h' : Adds sigs' s' s'') :
    Adds (sigs ++ sigs') s s'' where
  grows := h.grows.trans h'.grows
  heldBack := by rw [h'.heldBack, h.heldBack, List.append_assoc]
  sent := h'.sent.trans h.sent
  lawful := by
    rw [h'.lawful, h.lawful, h'.sent.symm.trans h'.sent, h.sent, h.heldBack, List.length_append]
    cases sigs with
    | nil => simp
    | cons a sigs =>
      cases sigs' with
      | nil => simp
      | cons b sigs' =>
        -- the second signal meets the first one
        simp only [ne_eq, reduceCtorEq, not_false_eq_true, forall_const, List.length_cons]
        constructor
        · rintro ⟨⟨-, h1, -⟩, h2, -⟩
          rw [h1] at h2
          exact absurd (List.self_eq_append_right.mp h2) nofun
        · rintro ⟨-, -, hlen⟩
          omega
  pending := by
    rw [h'.pending]
    by_cases e : sigs' = []
    · subst e
      rw [dif_pos rfl, h.pending]
      simp
    · rw [dif_neg e, dif_neg (by simp [e]), List.getLast_append_of_ne_nil _ e]

lemma Adds.emit (s : State) {e : Event} (h : Microkit.heldBack [e] = []) (hs : Microkit.sent [e] = []) (hw : e ≠ .wait)
    (hd : ∀ sig, e ≠ .defer sig) : Adds [] s (s.emit e) where
  grows := List.prefix_append _ _
  heldBack := (heldBack_neutral h).trans (List.append_nil _).symm
  sent := sent_neutral hs
  lawful := by
    refine lawful_append.trans ?_
    simp [hw, hd]
  pending := rfl

lemma Adds.holdBack (s : State) (sig : Signal) : Adds [sig] s (s.holdBack sig) where
  grows := List.prefix_append _ _
  heldBack := heldBack_append _ _
  sent := sent_neutral rfl
  lawful := by
    refine lawful_append.trans ?_
    simp
  pending := rfl

lemma Adds.deferred (pd : Pd) (s : State) (calls : List DeferredCall) :
    Adds (calls.filterMap (deferredSignal pd)) s (calls.foldl (State.deferred pd) s) := by
  induction calls generalizing s with
  | nil => exact .refl s
  | cons c calls ih =>
    rw [List.foldl_cons]
    unfold State.deferred
    cases hc : deferredSignal pd c with
    | none =>
      rw [List.filterMap_cons_none hc]
      exact ih s
    | some sig =>
      rw [List.filterMap_cons_some hc]
      exact (Adds.holdBack s sig).trans (ih _)

lemma Adds.enter (pd : Pd) (s : State) (e : EntryCall) (calls : List DeferredCall) :
    Adds (calls.filterMap (deferredSignal pd)) s (s.enter pd e calls) :=
  (Adds.emit s (e := .call e) rfl rfl nofun nofun).trans (.deferred pd _ calls)

/-- One bit of the badge. -/
private lemma Adds.bit (pd : Pd) (m : Message) (badge : Word) (idx : Nat) (s : State) :
    Adds (((if badge &&& 1 ≠ 0 then [0] else []).map (· + idx)).flatMap
        fun ch => (m.notified ch).filterMap (deferredSignal pd)) s
      (if badge &&& 1 ≠ 0 then s.enter pd (.notified idx) (m.notified idx) else s) := by
  by_cases h : badge &&& 1 ≠ 0
  · rw [if_pos h, if_pos h, List.map_singleton, Nat.zero_add, List.flatMap_singleton]
    exact .enter pd s _ _
  · rw [if_neg h, if_neg h]
    exact .refl s

/-- The loop calls `notified` for each bit that is set, in order. -/
lemma Adds.notifiedLoop (pd : Pd) (m : Message) (badge : Word) (idx : Nat) (s : State) :
    Adds (((bitsOf badge).map (· + idx)).flatMap fun ch => (m.notified ch).filterMap (deferredSignal pd)) s
      (s.notifiedLoop pd m badge idx) := by
  have hshift : ∀ idx : Nat, (fun i => i + idx) ∘ (fun i => i + 1) = fun i => i + (idx + 1) := by
    intro idx
    funext i
    exact (Nat.add_right_comm i 1 idx).trans (Nat.add_assoc i idx 1)
  fun_induction State.notifiedLoop pd m badge idx s with
  | case1 badge idx s s' hmore ih =>
    rw [bitsOf_eq, List.map_append, List.flatMap_append, List.map_map, hshift]
    exact (Adds.bit pd m badge idx s).trans ih
  | case2 badge idx s s' hdone =>
    rw [bitsOf_eq, not_not.mp hdone, bitsOf_zero, List.map_nil, List.append_nil]
    exact .bit pd m badge idx s

lemma deferred_haveReply (pd : Pd) (s : State) (c : DeferredCall) : (s.deferred pd c).haveReply = s.haveReply := by
  unfold State.deferred
  cases deferredSignal pd c <;> rfl

lemma foldl_deferred_haveReply (pd : Pd) (s : State) (calls : List DeferredCall) :
    (calls.foldl (State.deferred pd) s).haveReply = s.haveReply := by
  induction calls generalizing s with
  | nil => rfl
  | cons c calls ih => exact (ih _).trans (deferred_haveReply pd s c)

lemma enter_haveReply (pd : Pd) (s : State) (e : EntryCall) (calls : List DeferredCall) :
    (s.enter pd e calls).haveReply = s.haveReply :=
  foldl_deferred_haveReply pd _ calls

lemma notifiedLoop_haveReply (pd : Pd) (m : Message) (badge : Word) (idx : Nat) (s : State) :
    (s.notifiedLoop pd m badge idx).haveReply = s.haveReply := by
  have hbit : ∀ (badge : Word) idx (s : State),
      (if badge &&& 1 ≠ 0 then s.enter pd (.notified idx) (m.notified idx) else s).haveReply = s.haveReply := by
    intro badge idx s
    split
    · exact enter_haveReply pd s _ _
    · rfl
  fun_induction State.notifiedLoop pd m badge idx s with
  | case1 badge idx s s' hmore ih => exact ih.trans (hbit badge idx s)
  | case2 badge idx s s' hdone => exact hbit badge idx s

/-- The signals that are held back for a message. -/
lemma Adds.handle (pd : Pd) (m : Message) (s : State) :
    Adds (m.calls.filterMap (deferredSignal pd)) s (s.handle pd m) ∧
      ((s.handle pd m).haveReply = true ↔ m.replies) := by
  have hstart : Adds [] s { s with haveReply := false } := (Adds.refl s).setReply _ _
  unfold Message.calls Message.replies State.handle
  extract_lets isEndpoint isFault s0 sf sp
  by_cases hf : m.isFault
  · have hf' : isFault ≠ 0 := hf
    rw [if_pos hf, if_pos hf, if_pos hf']
    have h : Adds (m.fault.1.filterMap (deferredSignal pd)) s sf := hstart.trans (.enter pd s0 _ _)
    cases hr : m.fault.2 with
    | none => exact ⟨h, by simp [sf, enter_haveReply, s0]⟩
    | some tag => exact ⟨h.setReply _ _, by simp⟩
  · have hf' : ¬ isFault ≠ 0 := hf
    rw [if_neg hf, if_neg hf, if_neg hf']
    by_cases he : m.isEndpoint
    · have he' : isEndpoint ≠ 0 := he
      rw [if_pos he, if_pos he']
      have h : Adds (m.protectedEntry.1.filterMap (deferredSignal pd)) s sp := hstart.trans (.enter pd s0 _ _)
      exact ⟨h.setReply _ _, by simp [he]⟩
    · have he' : ¬ isEndpoint ≠ 0 := he
      rw [if_neg he, if_neg he', List.filterMap_flatMap]
      have h := hstart.trans (.notifiedLoop pd m m.badge 0 s0)
      simp only [Nat.add_zero, List.map_id'] at h
      refine ⟨h, ?_⟩
      rw [notifiedLoop_haveReply]
      simp [s0, he]

/-! ## The head of the loop -/

/-- What the next system call sends, and what it waits behind. -/
lemma Adds.ready {sigs : List Signal} {s s' : State} (h : Adds sigs s s') (hs : s.Clear) (hlen : sigs.length ≤ 1)
    (hr : s'.haveReply = true → sigs = []) : s'.Ready := by
  have hp : s'.pending = sigs := by
    rw [h.pending]
    cases sigs with
    | nil => exact pending_eq_nil.mpr hs.free
    | cons a sigs =>
      obtain rfl : sigs = [] := by simpa using hlen
      rfl
  refine ⟨h.lawful.mpr ⟨hs.lawful, fun _ => hs.heldBack.symm, hlen⟩, ?_, fun e => hp.trans (hr e)⟩
  rw [h.heldBack, h.sent, hp, hs.heldBack]

lemma receive_grows (s : State) : s.events <+: s.receive.events := by
  unfold State.receive
  split
  · exact (List.prefix_append _ _).trans (List.prefix_append _ _)
  · split
    · exact (List.prefix_append _ _).trans (List.prefix_append _ _)
    · exact List.prefix_append _ _

/-- Behind a reply nothing is sent. -/
lemma lawful_receive_reply (h : Lawful s.receive.events) (hr : s.haveReply = true) :
    sent s.events = Microkit.heldBack s.events := by
  have e : s.receive = (s.emit (.reply s.replyTag)).emit .wait := if_pos hr
  rw [e] at h
  have h' := (lawful_append.mp h).2 (.inl rfl)
  rw [show (s.emit (.reply s.replyTag)).events = s.events ++ [.reply s.replyTag] from rfl, sent_neutral rfl,
    heldBack_neutral rfl] at h'
  exact h'

/-- The trace stays lawful only if the place for a signal is free. -/
lemma Adds.of_lawful {sigs : List Signal} {s s' : State} (h : Adds sigs s s') (hl : Lawful s'.receive.events)
    (hs : s.Clear) : sigs.length ≤ 1 ∧ (s'.haveReply = true → sigs = []) := by
  refine ⟨(h.lawful.mp (hl.mono (receive_grows s'))).2.2, fun hr => ?_⟩
  have e := lawful_receive_reply hl hr
  rw [h.heldBack, h.sent, hs.heldBack] at e
  exact List.self_eq_append_right.mp e

lemma Adds.ackLoop (pd : Pd) (irqsToAck : Word) (idx : Nat) (s : State) :
    Adds [] s (s.ackLoop pd irqsToAck idx) ∧ (s.ackLoop pd irqsToAck idx).haveReply = s.haveReply := by
  have hbit : ∀ (irqs : Word) idx (s : State),
      let s' := if irqs &&& 1 ≠ 0 ∧ invalidChannel pd.microkitIrqs idx =
        false then s.emit (.ack (baseIrqCap + idx)) else s
      Adds [] s s' ∧ s'.haveReply = s.haveReply := by
    intro irqs idx s
    dsimp only
    split
    · exact ⟨.emit s rfl rfl nofun nofun, rfl⟩
    · exact ⟨.refl s, rfl⟩
  fun_induction State.ackLoop pd irqsToAck idx s with
  | case1 irqs idx s s' hmore ih =>
    obtain ⟨h, hr⟩ := hbit irqs idx s
    exact ⟨h.trans ih.1, ih.2.trans hr⟩
  | case2 irqs idx s s' hdone => exact hbit irqs idx s

/-- The state in which `init` is called. -/
def initial : State := ⟨false, ⟨0, .zero⟩, false, 0, []⟩

lemma Clear.initial : initial.Clear where
  lawful := .nil
  heldBack := rfl
  free := rfl

/-- The signals that are held back before the first message: those of `init`, and the one to the monitor. -/
def startSignals (pd : Pd) (init : List DeferredCall) : List Signal :=
  init.filterMap (deferredSignal pd) ++ if pd.microkitPassive then [⟨monitorEp, .zero⟩] else []

lemma Adds.start (pd : Pd) (init : List DeferredCall) :
    Adds (startSignals pd init) initial (State.start pd init) ∧ (State.start pd init).haveReply = false := by
  unfold State.start startSignals
  have hinit := Adds.deferred pd initial init
  have hreply := foldl_deferred_haveReply pd initial init
  cases pd.microkitPassive with
  | true =>
    obtain ⟨hack, e⟩ := Adds.ackLoop pd pd.microkitIrqs 0
      ((init.foldl (State.deferred pd) initial).holdBack ⟨monitorEp, .zero⟩)
    have h := (hinit.trans (.holdBack _ ⟨monitorEp, .zero⟩)).trans hack
    rw [List.append_nil] at h
    exact ⟨h, e.trans hreply⟩
  | false =>
    obtain ⟨hack, e⟩ := Adds.ackLoop pd pd.microkitIrqs 0 (init.foldl (State.deferred pd) initial)
    exact ⟨hinit.trans hack, e.trans hreply⟩

lemma startSignals_length {init : List DeferredCall} (h : init.length ≤ 1) :
    (startSignals pd init).length ≤ 1 ↔ (pd.microkitPassive = true → init.filterMap (deferredSignal pd) = []) := by
  have hle := (List.length_filterMap_le (deferredSignal pd) init).trans h
  unfold startSignals
  cases pd.microkitPassive with
  | true => simp
  | false => simpa using hle

/-! ## A run -/

lemma run_append (pd : Pd) (init : List DeferredCall) (msgs : List Message) (m : Message) :
    State.run pd init (msgs ++ [m]) = (State.run pd init msgs).receive.handle pd m := by
  unfold State.run
  rw [List.foldl_append]
  rfl

end State

lemma AtMostOne.append {init : List DeferredCall} {msgs : List Message} {m : Message}
    (h : AtMostOne init (msgs ++ [m])) : AtMostOne init msgs where
  init := h.init
  notified := fun m hm => h.notified m (List.mem_append_left _ hm)
  protectedEntry := fun m hm => h.protectedEntry m (List.mem_append_left _ hm)
  fault := fun m hm => h.fault m (List.mem_append_left _ hm)

lemma placeFree_append {pd : Pd} {init : List DeferredCall} {msgs : List Message} {m : Message} :
    PlaceFree pd init (msgs ++ [m]) ↔ PlaceFree pd init msgs ∧ (m.calls.filterMap (deferredSignal pd)).length ≤ 1 ∧
      (m.replies → m.calls.filterMap (deferredSignal pd) = []) := by
  constructor
  · refine fun h => ⟨⟨h.passive, fun m hm => h.one m ?_, fun m hm => h.reply m ?_⟩, h.one m ?_, h.reply m ?_⟩
    all_goals simp_all
  · rintro ⟨h, hone, hreply⟩
    refine ⟨h.passive, fun m' hm => ?_, fun m' hm => ?_⟩
    all_goals
      rcases List.mem_append.mp hm with hm | hm
      · first | exact h.one m' hm | exact h.reply m' hm
      · obtain rfl := List.mem_singleton.mp hm
        assumption

/-- The state at the head of the loop, and the trace up to there. -/
lemma run_lawful {pd : Pd} {init : List DeferredCall} {msgs : List Message} (h : AtMostOne init msgs) :
    (PlaceFree pd init msgs → (State.run pd init msgs).Ready) ∧
      (Lawful (trace pd init msgs) → PlaceFree pd init msgs) := by
  induction msgs using List.reverseRecOn with
  | nil =>
    obtain ⟨hadds, hreply⟩ := State.Adds.start pd init
    constructor
    · refine fun hp => hadds.ready .initial ((State.startSignals_length h.init).mpr hp.passive) fun e => ?_
      exact absurd (e.symm.trans hreply) nofun
    · intro hl
      refine ⟨(State.startSignals_length h.init).mp (hadds.of_lawful hl .initial).1, nofun, nofun⟩
  | append_singleton msgs m ih =>
    obtain ⟨hready, hlawful⟩ := ih h.append
    obtain ⟨hadds, hreply⟩ := State.Adds.handle pd m (State.run pd init msgs).receive
    rw [placeFree_append]
    unfold trace
    rw [State.run_append]
    constructor
    · rintro ⟨hp, hone, hrep⟩
      exact hadds.ready (hready hp).receive hone fun e => hrep (hreply.mp e)
    · intro hl
      -- what was lawful so far stays so
      have hp := hlawful (hl.mono (hadds.grows.trans (State.receive_grows _)))
      obtain ⟨hone, hrep⟩ := hadds.of_lawful hl (hready hp).receive
      exact ⟨hp, hone, fun e => hrep (hreply.mpr e)⟩

/-- Each deferred signal of a run is sent once, and none is lost or waits, exactly if the place for it is free. -/
theorem deferred_iff {pd : Pd} {init : List DeferredCall} {msgs : List Message} (h : AtMostOne init msgs) :
    Lawful (trace pd init msgs) ↔ PlaceFree pd init msgs :=
  ⟨(run_lawful h).2, fun hp => ((run_lawful h).1 hp).receive.lawful⟩

/-- A domain that is signalled once, and whose `notified` defers a signal. -/
theorem deferred_iff_notify :
    Lawful (trace ⟨false, 0, 1⟩ [] [⟨1, 0, fun _ => [.notify 0], ([], 0), ([], none)⟩]) ↔
      PlaceFree ⟨false, 0, 1⟩ [] [⟨1, 0, fun _ => [.notify 0], ([], 0), ([], none)⟩] :=
  deferred_iff ⟨by decide, by simp, by simp, by simp⟩

/-- The signal that `init` of a passive domain holds back is overwritten by the one to the monitor. -/
theorem deferred_init_overwritten :
    AtMostOne [.notify 0] [] ∧ ¬ Lawful (trace ⟨true, 0, 1⟩ [.notify 0] []) := by
  refine ⟨⟨by decide, nofun, nofun, nofun⟩, fun h => ?_⟩
  have htrace : trace ⟨true, 0, 1⟩ [.notify 0] [] =
      [.defer ⟨10, .zero⟩, .defer ⟨5, .zero⟩, .send ⟨5, .zero⟩, .wait] := by
    unfold trace State.run State.start State.ackLoop
    rfl
  rw [htrace] at h
  exact absurd (h.defer [.defer ⟨10, .zero⟩] ⟨5, .zero⟩ ⟨[.send ⟨5, .zero⟩, .wait], rfl⟩) (by decide)

end NexsKernel.Microkit
