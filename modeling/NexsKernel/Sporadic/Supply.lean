import NexsKernel.Sporadic.Run

/-!
# The supply of a server

The budget that a list of refills has released by a time. `schedule_used` releases at most what its queue and the new
refill release on their own, and the merges of `refill_budget_check` and `refill_unblock_check` release nothing early:
at no time is the supply after them above the supply before.
-/

namespace NexsKernel

namespace Server

/-- What a refill has released by the time `t`, if it is released tick by tick from its time on. -/
def released (t : Nat) (r : Refill) : Nat :=
  min r.rAmount (t - r.rTime)

/-- The supply of a list of refills. -/
def supply (q : List Refill) (t : Nat) : Nat :=
  (q.map (released t)).sum

@[simp] lemma supply_nil (t) : supply [] t = 0 := rfl

@[simp] lemma supply_cons (r q t) : supply (r :: q) t = released t r + supply q t := by
  simp [supply]

@[simp] lemma supply_append (p q t) : supply (p ++ q) t = supply p t + supply q t := by
  simp [supply]

/-- A refill that starts before the other has ended may be added to it. -/
lemma released_merge {a b : Refill} (h : b.rTime ≤ endTime a) (t) :
    released t { rTime := a.rTime, rAmount := a.rAmount + b.rAmount } ≤ released t a + released t b := by
  unfold released endTime at *
  dsimp only
  omega

/-- A refill that ends before the other starts may be delayed until they touch. -/
lemma released_delay {a b : Refill} (h : endTime a ≤ b.rTime) (t) :
    released t { rTime := b.rTime - a.rAmount, rAmount := a.rAmount + b.rAmount } ≤ released t a + released t b := by
  unfold released endTime at *
  dsimp only
  omega

/-- A later release. -/
lemma released_mono {a : Refill} {time} (h : a.rTime ≤ time) (t) : released t { a with rTime := time } ≤
    released t a := by
  unfold released
  dsimp only
  omega

/-- `scheduleUsed` releases at most what the queue and the new refill do. -/
lemma supply_scheduleUsed (max q new t) : supply (scheduleUsed max q new) t ≤ supply (new :: q) t := by
  rcases List.eq_nil_or_concat' q with rfl | ⟨p, tail, rfl⟩
  · exact le_rfl
  rw [scheduleUsed_concat, supply_cons, supply_append, supply_cons, supply_nil]
  split
  · rename_i h
    have := released_merge h t
    rw [supply_append, supply_cons, supply_nil]
    omega
  · rename_i h
    split
    · rw [supply_append, supply_cons, supply_cons, supply_nil]
      omega
    · have := released_delay (Nat.le_of_not_le h) t
      rw [supply_append, supply_cons, supply_nil]
      omega

lemma supply_mergeNonoverlapping {q} (ord : q.IsChain Before) (t) : supply (mergeNonoverlapping q) t ≤ supply q t := by
  rcases q with _ | ⟨h, _ | ⟨n, q⟩⟩
  · exact le_rfl
  · exact le_rfl
  have := released_delay (List.isChain_cons_cons.mp ord).1 t
  rw [Nat.add_comm h.rAmount] at this
  rw [mergeNonoverlapping, supply_cons, supply_cons, supply_cons]
  omega

lemma supply_mergeOverlapping {h n q} (hov : n.rTime ≤ endTime h) (t) :
    supply (mergeOverlapping (h :: n :: q)) t ≤ supply (h :: n :: q) t := by
  have := released_merge hov t
  rw [Nat.add_comm h.rAmount] at this
  rw [mergeOverlapping, supply_cons, supply_cons, supply_cons]
  omega

/-- A queue whose times and amounts can be added in a word. -/
structure Fits (q : List Refill) : Prop where
  ends : ∀ r ∈ q, endTime r < 2 ^ 64
  total_lt : total q < 2 ^ 64

namespace Fits

variable {q : List Refill} {r r' : Refill}

lemma tail (f : Fits (r :: q)) : Fits q :=
  ⟨fun x hx => f.ends x (.tail _ hx), lt_of_le_of_lt (by rw [total_cons]; omega) f.total_lt⟩

lemma time_lt (f : Fits q) (h : r ∈ q) : r.rTime < 2 ^ 64 :=
  lt_of_le_of_lt (Nat.le_add_right _ _) (f.ends r h)

lemma add_lt (f : Fits (r :: q)) (h : r' ∈ q) : r'.rAmount + r.rAmount < 2 ^ 64 := by
  have h1 := f.total_lt
  have h2 := rAmount_le_total h
  rw [total_cons] at h1
  omega

end Fits

end Server

open SchedContext

namespace Rep

variable {sc : SchedContext} {q : List Refill}

lemma exists_two (rep : Rep sc q) (hs : sc.refillSingle = false) : ∃ h n q', q = h :: n :: q' := by
  have hne : q.length ≠ 1 := fun h => by simp [rep.refillSingle_iff.mpr h] at hs
  rcases q with _ | ⟨h, _ | ⟨n, q⟩⟩
  · exact absurd rep.length_pos (Nat.lt_irrefl 0)
  · exact absurd rfl hne
  · exact ⟨h, n, q, rfl⟩

/-- A head that overlaps has a successor that starts before the head has ended. -/
lemma exists_overlapping (rep : Rep sc q) (fits : ∀ h ∈ q.head?, Server.endTime h < 2 ^ 64)
    (hov : sc.refillHeadOverlapping = true) : ∃ h n q', q = h :: n :: q' ∧ n.rTime ≤ Server.endTime h := by
  have hs : sc.refillSingle = false := by
    rw [Bool.eq_false_iff]
    intro hs
    simp [refillHeadOverlapping, hs] at hov
  obtain ⟨h, n, q, rfl⟩ := rep.exists_two hs
  have hend : h.rTime + h.rAmount < 2 ^ 64 := fits h rfl
  refine ⟨h, n, q, rfl, ?_⟩
  unfold Server.endTime
  simpa [refillHeadOverlapping, hs, rep.refillHead_eq, rep.refillIndex_next_eq, add64_eq hend] using hov

/-- `schedule_used` never grants budget early. -/
lemma scheduleUsed_supply {new} (rep : Rep sc q) (fits : Server.Fits (new :: q)) :
    ∃ sc' q', sc.scheduleUsed new = .ok sc' ∧ Rep sc' q' ∧ ∀ t, Server.supply q' t ≤ Server.supply (new :: q) t := by
  obtain ⟨p, tail, rfl⟩ := (List.eq_nil_or_concat' q).resolve_left (List.ne_nil_of_length_pos rep.length_pos)
  have htail : tail ∈ p ++ [tail] := by simp
  obtain ⟨sc', e, rep', -⟩ := rep.scheduleUsed (fits.tail.ends tail htail) (fits.add_lt htail) (fits.time_lt (.head _))
  exact ⟨sc', _, e, rep', fun t => Server.supply_scheduleUsed _ _ _ t⟩

lemma mergeNonoverlappingHeadRefill_supply (rep : Rep sc q) (ord : q.IsChain Server.Before) (fits : Server.Fits q)
    (hs : sc.refillSingle = false) :
    ∃ sc' q', sc.mergeNonoverlappingHeadRefill = .ok sc' ∧ Rep sc' q' ∧
      ∀ t, Server.supply q' t ≤ Server.supply q t := by
  obtain ⟨h, n, q, rfl⟩ := rep.exists_two hs
  have hend : Server.endTime h ≤ n.rTime := (List.isChain_cons_cons.mp ord).1
  have hle : h.rAmount ≤ n.rTime := (Nat.le_add_left _ _).trans hend
  obtain ⟨sc', e, rep', -⟩ := rep.mergeNonoverlappingHeadRefill (fits.add_lt (.head _)) hle
    (fits.time_lt (.tail _ (.head _)))
  exact ⟨sc', _, e, rep', fun t => Server.supply_mergeNonoverlapping ord t⟩

lemma mergeOverlappingHeadRefill_supply (rep : Rep sc q) (fits : ∀ h ∈ q.head?, Server.endTime h < 2 ^ 64)
    (htotal : Server.total q < 2 ^ 64) (hov : sc.refillHeadOverlapping = true) :
    ∃ sc' q', sc.mergeOverlappingHeadRefill = .ok sc' ∧ Rep sc' q' ∧
      ∀ t, Server.supply q' t ≤ Server.supply q t := by
  obtain ⟨h, n, q, rfl, hle⟩ := rep.exists_overlapping fits hov
  simp only [Server.total_cons] at htotal
  obtain ⟨sc', e, rep', -⟩ := rep.mergeOverlappingHeadRefill (by omega)
  exact ⟨sc', _, e, rep', fun t => Server.supply_mergeOverlapping hle t⟩

/-- The loop of `refill_unblock_check`: the head may only grow. -/
lemma mergeOverlapping_supply (fuel) {h} (rep : Rep sc (h :: q)) (hend : h.rTime + Server.total (h :: q) < 2 ^ 64)
    (hfuel : q.length < fuel) :
    ∃ sc' h' q', SchedContext.mergeOverlapping fuel sc = .ok sc' ∧ Rep sc' (h' :: q') ∧ h.rAmount ≤ h'.rAmount ∧
      ∀ t, Server.supply (h' :: q') t ≤ Server.supply (h :: q) t := by
  -- each round removes one refill
  induction fuel generalizing sc h q with
  | zero => omega
  | succ fuel ih =>
    unfold SchedContext.mergeOverlapping
    split
    · rename_i hov
      have fits : ∀ x ∈ (h :: q).head?, Server.endTime x < 2 ^ 64 := by
        rintro x ⟨⟩
        rw [Server.total_cons] at hend
        unfold Server.endTime
        omega
      obtain ⟨h, n, q, ⟨⟩, hle⟩ := rep.exists_overlapping fits hov
      simp only [Server.total_cons] at hend
      obtain ⟨sc1, e1, rep1, -⟩ := rep.mergeOverlappingHeadRefill (by omega)
      obtain ⟨sc2, h2, q2, e2, rep2, ha, hsupply⟩ := ih rep1 (by simp only [Server.total_cons]; omega)
        (by rw [List.length_cons] at hfuel; omega)
      refine ⟨sc2, h2, q2, ?_, rep2, (Nat.le_add_left _ _).trans ha, fun t => ?_⟩
      · rw [e1]
        exact e2
      · exact (hsupply t).trans (Server.supply_mergeOverlapping hle t)
    · exact ⟨sc, h, q, rfl, rep, le_rfl, fun _ => le_rfl⟩

/-- `refill_unblock_check` fails only if the head is less than the minimum budget. -/
lemma refillUnblockCheck_supply {cfg : TimerConfig} {now} (rep : Rep sc q) (hnow : now + Server.total q < 2 ^ 64) :
    (∀ sc', sc.refillUnblockCheck cfg now = .ok sc' →
      ∃ q', Rep sc' q' ∧ ∀ t, Server.supply q' t ≤ Server.supply q t) ∧
    (cfg.minBudget ≤ sc.refillHead.rAmount → ∃ sc', sc.refillUnblockCheck cfg now = .ok sc') := by
  have hsame : (∀ sc', (.ok sc : Except Halt SchedContext) = .ok sc' →
      ∃ q', Rep sc' q' ∧ ∀ t, Server.supply q' t ≤ Server.supply q t) := by
    rintro _ ⟨⟩
    exact ⟨q, rep, fun _ => le_rfl⟩
  obtain ⟨h, q, rfl⟩ := List.exists_cons_of_length_pos rep.length_pos
  rw [rep.refillHead_eq]
  unfold SchedContext.refillUnblockCheck
  split
  · exact ⟨hsame, fun _ => ⟨sc, rfl⟩⟩
  split
  · rename_i hready
    simp only [refillReady, rep.refillHead_eq, decide_eq_true_eq] at hready
    rw [rep.refillHead_eq]
    have rep1 := rep.setRefillHead { h with rTime := now }
    obtain ⟨sc2, h2, q2, e2, rep2, ha, hsupply⟩ := rep1.mergeOverlapping_supply
      (sc.setRefillHead { h with rTime := now }).refillSize (by simpa using hnow) (by rw [rep1.size_eq]; simp)
    dsimp only
    rw [e2]
    change (∀ sc', (do assert (sc2.refillSufficient cfg 0); return sc2) = _ → _) ∧
      (_ → ∃ sc', (do assert (sc2.refillSufficient cfg 0); return sc2) = _)
    constructor
    · intro sc' e
      obtain ⟨_, -, e⟩ := bind_eq_ok.mp e
      obtain rfl := Except.ok.inj e
      refine ⟨_, rep2, fun t => (hsupply t).trans ?_⟩
      -- the head is released later than before
      rw [Server.supply_cons, Server.supply_cons]
      exact Nat.add_le_add_right (Server.released_mono hready t) _
    · intro hs
      rw [rep2.refillSufficient_zero, assert_ok (by simpa using hs.trans ha)]
      exact ⟨sc2, rfl⟩
  · exact ⟨hsame, fun _ => ⟨sc, rfl⟩⟩

end Rep

/-- Budget is never granted early: the supply after each operation on a refill queue. -/
theorem supply_never_early (cfg : TimerConfig) {sc : SchedContext} {q : List Refill} (rep : Rep sc q)
    (fits : Server.Fits q) :
    (∀ new, Server.Fits (new :: q) → ∃ sc' q', sc.scheduleUsed new = .ok sc' ∧ Rep sc' q' ∧
      ∀ t, Server.supply q' t ≤ Server.supply (new :: q) t) ∧
    (q.IsChain Server.Before → sc.refillSingle = false →
      ∃ sc' q', sc.mergeNonoverlappingHeadRefill = .ok sc' ∧ Rep sc' q' ∧
        ∀ t, Server.supply q' t ≤ Server.supply q t) ∧
    (sc.refillHeadOverlapping = true → ∃ sc' q', sc.mergeOverlappingHeadRefill = .ok sc' ∧ Rep sc' q' ∧
      ∀ t, Server.supply q' t ≤ Server.supply q t) ∧
    ∀ now, now + Server.total q < 2 ^ 64 →
      (∀ sc', sc.refillUnblockCheck cfg now = .ok sc' →
        ∃ q', Rep sc' q' ∧ ∀ t, Server.supply q' t ≤ Server.supply q t) ∧
      (cfg.minBudget ≤ sc.refillHead.rAmount → ∃ sc', sc.refillUnblockCheck cfg now = .ok sc') := by
  have hends : ∀ h ∈ q.head?, Server.endTime h < 2 ^ 64 := fun h hh => fits.ends h (List.mem_of_head? hh)
  refine ⟨fun new hnew => rep.scheduleUsed_supply hnew,
    fun ord hs => rep.mergeNonoverlappingHeadRefill_supply ord fits hs,
    rep.mergeOverlappingHeadRefill_supply hends fits.total_lt,
    fun now hnow => rep.refillUnblockCheck_supply hnow⟩

/-- A full queue of two refills. -/
def fullQueue : SchedContext where
  scPeriod := 100
  scConsumed := 0
  scBadge := 0
  scRefillMax := 2
  scRefillHead := 0
  scRefillTail := 1
  scSporadic := false
  refills i := if i = 0 then { rTime := 0, rAmount := 10 } else { rTime := 20, rAmount := 30 }

/-- Its tail is delayed by 75 ticks, so that it ends where the new refill begins. -/
theorem supply_never_early_fullQueue :
    ∃ sc' q', fullQueue.scheduleUsed ⟨125, 5⟩ = .ok sc' ∧ Rep sc' q' ∧
      ∀ t, Server.supply q' t ≤ Server.supply [⟨125, 5⟩, ⟨0, 10⟩, ⟨20, 30⟩] t := by
  have rep : Rep fullQueue [⟨0, 10⟩, ⟨20, 30⟩] := ⟨by decide, by decide, by decide, rfl⟩
  exact (supply_never_early qemuTimer.toTimerConfig rep ⟨by decide, by decide⟩).1 ⟨125, 5⟩ ⟨by decide, by decide⟩

end NexsKernel
