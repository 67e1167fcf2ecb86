import NexsKernel.Microkit.Deferred

/-!
# The entry points that a message leads to

`handle` calls one entry point for a fault or a protected procedure call, and for a notification one for each bit of its
badge.
-/

namespace NexsKernel.Microkit

/-- `BASE_ENDPOINT_CAP`. -/
def baseEndpointCap : Nat := 74

/-- The calls of entry points in a run. -/
def entered (tr : List Event) : List EntryCall :=
  tr.filterMap fun e => match e with
    | .call e => some e
    | _ => none

/-- What a message stands for. -/
def Message.entries (m : Message) : List EntryCall :=
  if m.isFault then [.fault (m.badge &&& pdMask) m.tag]
  else if m.isEndpoint then [.protectedEntry (m.badge &&& channelMask) m.tag]
  else (bitsOf m.badge).map .notified

lemma entered_append (tr tr' : List Event) : entered (tr ++ tr') = entered tr ++ entered tr' :=
  List.filterMap_append

lemma isFault_iff {m : Message} : m.isFault ↔ m.badge.getLsbD 62 = true := by
  unfold Message.isFault
  rw [and_one_ne_zero, BitVec.getLsbD_ushiftRight]

lemma isEndpoint_iff {m : Message} : m.isEndpoint ↔ m.badge.getLsbD 63 = true := by
  have hlt := m.badge.isLt
  unfold Message.isEndpoint
  rw [ne_eq, ← BitVec.toNat_inj, BitVec.toNat_ushiftRight, Nat.shiftRight_eq_div_pow, BitVec.getLsbD,
    Nat.testBit_eq_decide_div_mod_eq, decide_eq_true_eq]
  change ¬ _ = 0 ↔ _
  omega

namespace State

variable {pd : Pd} {s : State} {m : Message}

lemma foldl_deferred_entered (calls : List DeferredCall) :
    entered (calls.foldl (deferred pd) s).events = entered s.events := by
  induction calls generalizing s with
  | nil => rfl
  | cons c calls ih =>
    rw [List.foldl_cons, ih]
    unfold deferred
    cases deferredSignal pd c with
    | none => rfl
    | some sig => exact (entered_append ..).trans (List.append_nil _)

lemma enter_entered (e : EntryCall) (calls : List DeferredCall) :
    entered (s.enter pd e calls).events = entered s.events ++ [e] :=
  (foldl_deferred_entered calls).trans (entered_append ..)

/-- The loop calls `notified` for each bit that is set, in order. -/
lemma notifiedLoop_entered (badge : Word) (idx : Nat) : entered (s.notifiedLoop pd m badge idx).events =
    entered s.events ++ (bitsOf badge).map fun i => .notified (i + idx) := by
  have hbit : ∀ (badge : Word) idx (s : State),
      entered (if badge &&& 1 ≠ 0 then s.enter pd (.notified idx) (m.notified idx) else s).events =
        entered s.events ++ (if badge &&& 1 ≠ 0 then [0] else []).map fun i => .notified (i + idx) := by
    intro badge idx s
    by_cases h : badge &&& 1 ≠ 0
    · rw [if_pos h, if_pos h, enter_entered, List.map_singleton, Nat.zero_add]
    · rw [if_neg h, if_neg h, List.map_nil, List.append_nil]
  fun_induction State.notifiedLoop pd m badge idx s with
  | case1 badge idx s s' hmore ih =>
    have hs' : entered s'.events = _ := hbit badge idx s
    rw [ih, hs', bitsOf_eq badge, List.map_append, List.map_map, List.append_assoc]
    simp only [Function.comp_def, Nat.add_assoc, Nat.add_comm 1]
  | case2 badge idx s s' hdone =>
    rw [bitsOf_eq, not_not.mp hdone, bitsOf_zero, List.map_nil, List.append_nil]
    exact hbit badge idx s

/-- A message leads to the calls that it stands for, and to no others. -/
lemma handle_entered : entered (s.handle pd m).events = entered s.events ++ m.entries := by
  unfold State.handle Message.entries
  extract_lets isEndpoint isFault s0 sf sp
  by_cases hf : m.isFault
  · have hf' : isFault ≠ 0 := hf
    rw [if_pos hf, if_pos hf']
    have hsf : entered sf.events = entered s.events ++ [.fault (m.badge &&& pdMask) m.tag] := enter_entered _ _
    split <;> exact hsf
  · have hf' : ¬ isFault ≠ 0 := hf
    rw [if_neg hf, if_neg hf']
    by_cases he : m.isEndpoint
    · have he' : isEndpoint ≠ 0 := he
      rw [if_pos he, if_pos he']
      exact enter_entered _ _
    · have he' : ¬ isEndpoint ≠ 0 := he
      rw [if_neg he, if_neg he']
      exact notifiedLoop_entered _ _

end State

end NexsKernel.Microkit
