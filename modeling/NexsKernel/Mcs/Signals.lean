import NexsKernel.Mcs.ObjEntry

/-!
# Signals

A notification delivers exactly the bits that were sent since its last delivery: the pending word is their
bitwise or, and a notification that is not active has none. This holds of the history of the signals over any
sequence of operations, and so does that a pending signal is not left behind by a thread that is bound to the
notification and receives, as long as none is bound to an active notification while it already waits.
-/

namespace NexsKernel.Mcs

/-- The badges sent since the last delivery; the newest event is first. -/
def sentSince (ntfn : NtfnPtr) : List SignalEvent → Word
  | [] => 0
  | .sent n badge :: l => if n = ntfn then badge ||| sentSince ntfn l else sentSince ntfn l
  | .delivered n _ _ :: l => if n = ntfn then 0 else sentSince ntfn l

/-- All badges sent to a notification. -/
def sentBadges (ntfn : NtfnPtr) : List SignalEvent → Word
  | [] => 0
  | .sent n badge :: l => if n = ntfn then badge ||| sentBadges ntfn l else sentBadges ntfn l
  | .delivered _ _ _ :: l => sentBadges ntfn l

/-- All badges that a notification wrote to the badge registers of threads. -/
def deliveredBadges (ntfn : NtfnPtr) : List SignalEvent → Word
  | [] => 0
  | .sent _ _ :: l => deliveredBadges ntfn l
  | .delivered n _ badge :: l => if n = ntfn then badge ||| deliveredBadges ntfn l else deliveredBadges ntfn l

/-- Each delivery is of the badges sent since the one before. -/
def Prompt (ntfn : NtfnPtr) : List SignalEvent → Prop
  | [] => True
  | .sent _ _ :: l => Prompt ntfn l
  | .delivered n _ badge :: l => (n = ntfn → badge = sentSince ntfn l) ∧ Prompt ntfn l

/-- What was sent has been delivered or is still to be. -/
lemma Prompt.balance {ntfn : NtfnPtr} {l : List SignalEvent} (h : Prompt ntfn l) :
    sentBadges ntfn l = deliveredBadges ntfn l ||| sentSince ntfn l := by
  induction l with
  | nil => simp [sentBadges, deliveredBadges, sentSince]
  | cons e l ih =>
    cases e with
    | sent n badge =>
      simp only [sentBadges, deliveredBadges, sentSince]
      split
      · rw [ih h, ← BitVec.or_assoc, ← BitVec.or_assoc, BitVec.or_comm badge]
      · exact ih h
    | delivered n t badge =>
      simp only [sentBadges, deliveredBadges, sentSince]
      split
      · rename_i e
        rw [h.1 e, ih h.2, BitVec.or_comm (deliveredBadges ntfn l)]
        simp
      · exact ih h.2

/-- A delivery anywhere in the history. -/
lemma Prompt.delivered {ntfn : NtfnPtr} {t : TcbPtr} {badge : Word} {pre l : List SignalEvent}
    (h : Prompt ntfn (pre ++ .delivered ntfn t badge :: l)) : badge = sentSince ntfn l := by
  induction pre with
  | nil => exact h.1 rfl
  | cons e pre ih =>
    cases e with
    | sent n b => exact ih h
    | delivered n u b => exact ih h.2

/-- A new notification has no history. -/
lemma sentSince_filter (ntfn n : NtfnPtr) (l : List SignalEvent) :
    sentSince ntfn (l.filter fun e => e.ntfn ≠ n) = if ntfn = n then 0 else sentSince ntfn l := by
  induction l with
  | nil => simp [sentSince]
  | cons e l ih =>
    rw [List.filter_cons]
    by_cases hn : e.ntfn = n
    · rw [if_neg (by simpa using hn), ih]
      cases e <;> grind [sentSince, SignalEvent.ntfn]
    · rw [if_pos (by simpa using hn)]
      cases e <;> grind [sentSince, SignalEvent.ntfn]

lemma Prompt.filter {ntfn : NtfnPtr} (n : NtfnPtr) {l : List SignalEvent} (h : Prompt ntfn l) :
    Prompt ntfn (l.filter fun e => e.ntfn ≠ n) := by
  induction l with
  | nil => trivial
  | cons e l ih =>
    rw [List.filter_cons]
    cases e with
    | sent m badge =>
      split
      · exact ih h
      · exact ih h
    | delivered m t badge =>
      split
      · rename_i hm
        refine ⟨fun e => ?_, ih h.2⟩
        have hne : ntfn ≠ n := by simpa [SignalEvent.ntfn, e] using hm
        rw [sentSince_filter, if_neg hne]
        exact h.1 e
      · exact ih h.2

namespace Kernel

/-- The history of a notification agrees with its state. -/
structure Recorded (s : Kernel) (ntfn : NtfnPtr) : Prop where
  prompt : Prompt ntfn s.signals
  active : s.ntfnState ntfn = .active → s.ntfnMsgIdentifier ntfn = sentSince ntfn s.signals
  inactive : s.ntfnState ntfn ≠ .active → sentSince ntfn s.signals = 0

/-- No thread waits for a message while a signal is pending on the notification that is bound to it. -/
def Heard (s : Kernel) : Prop :=
  ∀ ntfn t, s.ntfnState ntfn = .active → s.ntfnBoundTCB ntfn = some t → s.tsType t ≠ .blockedOnReceive

/-- An operation that handles signals correctly; under the condition `P` it leaves none behind. -/
structure Tame (P : Prop) (s s' : Kernel) : Prop where
  recorded : (∀ ntfn, s.Recorded ntfn) → ∀ ntfn, s'.Recorded ntfn
  heard : P → s.Heard → s'.Heard

lemma Tame.refl {P} (s : Kernel) : Tame P s s :=
  ⟨id, fun _ => id⟩

lemma Tame.trans {P} {s s' s'' : Kernel} (h : Tame P s s') (h' : Tame P s' s'') : Tame P s s'' :=
  ⟨h'.recorded ∘ h.recorded, fun hP => h'.heard hP ∘ h.heard hP⟩

lemma Quiet.tame {P} {s s' : Kernel} (h : Quiet s s') : Tame P s s' := by
  refine ⟨fun hr n => ⟨?_, fun hn => ?_, fun hn => ?_⟩, fun _ hh n t hn hb ht => ?_⟩
  · rw [h.signals]
    exact (hr n).prompt
  · rw [h.signals, h.msg]
    exact (hr n).active ((h.active n).mp hn)
  · rw [h.signals]
    exact (hr n).inactive fun e => hn ((h.active n).mpr e)
  · exact hh n t ((h.active n).mp hn) (h.bound n t hb) (h.receive t ht)

lemma Quiet.refl (s : Kernel) : Quiet s s :=
  ⟨rfl, rfl, fun _ => .rfl, fun _ h => h, fun _ _ h => h⟩

lemma SameObj.quiet {s s' : Kernel} (h : SameObj s s') : Quiet s s' := by
  obtain ⟨r, c, n, u, f, rfl⟩ := h.exists_eq
  exact ⟨rfl, rfl, fun _ => .rfl, fun _ h => h, fun _ _ h => h⟩

end Kernel

end NexsKernel.Mcs
