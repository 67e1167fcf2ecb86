import NexsKernel.Sporadic.Server

/-!
# The circular buffer refines the list

`Rep sc q` says that the refills of `sc` from `scRefillHead` to `scRefillTail` are the list `q`. For
each step on the buffer there is one lemma that runs it on a represented queue: it returns (no
assertion fails), and the result represents the list that `NexsKernel.Sporadic.Server` computes.
-/

namespace NexsKernel

open SchedContext

/-- The refills of `sc`, in order, are `q`. -/
structure Rep (sc : SchedContext) (q : List Refill) : Prop where
  head_lt : sc.scRefillHead < sc.scRefillMax
  tail_lt : sc.scRefillTail < sc.scRefillMax
  max_lt : sc.scRefillMax < 2 ^ 64
  queue_eq : Ring.toList sc.refills sc.scRefillMax sc.scRefillHead sc.refillSize = q

/-- The fields that the operations on the refill queue leave alone. -/
structure Frame (sc sc' : SchedContext) : Prop where
  scPeriod : sc'.scPeriod = sc.scPeriod
  scConsumed : sc'.scConsumed = sc.scConsumed
  scBadge : sc'.scBadge = sc.scBadge
  scRefillMax : sc'.scRefillMax = sc.scRefillMax
  scSporadic : sc'.scSporadic = sc.scSporadic

lemma Frame.refl (sc) : Frame sc sc :=
  ⟨rfl, rfl, rfl, rfl, rfl⟩

lemma Frame.trans {sc sc' sc''} (f : Frame sc sc') (g : Frame sc' sc'') : Frame sc sc'' :=
  ⟨g.1.trans f.1, g.2.trans f.2, g.3.trans f.3, g.4.trans f.4, g.5.trans f.5⟩

lemma Frame.setRefillIndex (sc : SchedContext) (i r) : Frame sc (sc.setRefillIndex i r) :=
  ⟨rfl, rfl, rfl, rfl, rfl⟩

namespace Rep

variable {sc : SchedContext} {q : List Refill}

lemma size_eq (rep : Rep sc q) : sc.refillSize = q.length := by
  rw [← rep.queue_eq, Ring.toList_length]

lemma length_pos (rep : Rep sc q) : 0 < q.length :=
  rep.size_eq ▸ Ring.size_pos

lemma length_le (rep : Rep sc q) : q.length ≤ sc.scRefillMax :=
  rep.size_eq ▸ Ring.size_le rep.head_lt rep.tail_lt

lemma refillNext_eq (rep : Rep sc q) (i) : sc.refillNext i = Ring.next sc.scRefillMax i := by
  have := rep.head_lt
  unfold refillNext Ring.next
  rw [sub64_eq (by omega) rep.max_lt]

lemma tail_eq (rep : Rep sc q) :
    sc.scRefillTail = Ring.index sc.scRefillMax sc.scRefillHead (q.length - 1) := by
  rw [← rep.size_eq]
  exact Ring.tail_eq_index rep.head_lt rep.tail_lt

/-- `refill_head` is the first refill. -/
lemma refillHead_eq {h} (rep : Rep sc (h :: q)) : sc.refillHead = h := by
  have e := rep.queue_eq
  rw [rep.size_eq, List.length_cons, Ring.toList] at e
  exact (List.cons.inj e).1

/-- `refill_tail` is the last refill. -/
lemma refillTail_eq {t} (rep : Rep sc (q ++ [t])) : sc.refillTail = t := by
  have e := rep.queue_eq
  have ht := rep.tail_eq
  rw [rep.size_eq, List.length_append, List.length_singleton, Ring.toList_concat _ _ rep.head_lt] at e
  rw [List.length_append, List.length_singleton, Nat.add_sub_cancel] at ht
  have := (List.append_inj' e rfl).2
  unfold refillTail refillIndex
  rw [ht]
  exact (List.cons.inj this).1

lemma refillSingle_iff (rep : Rep sc q) : sc.refillSingle = true ↔ q.length = 1 := by
  rw [← rep.size_eq]
  unfold refillSingle
  rw [beq_iff_eq]
  exact (Ring.size_eq_one rep.head_lt).symm

lemma not_refillSingle {h n} (rep : Rep sc (h :: n :: q)) : ¬ sc.refillSingle = true := by
  rw [rep.refillSingle_iff]
  simp

lemma refillFull_iff (rep : Rep sc q) : sc.refillFull = true ↔ q.length = sc.scRefillMax := by
  unfold refillFull
  rw [rep.size_eq, beq_iff_eq]

/-- The second refill is the one at the index after the head. -/
lemma refillIndex_next_eq {h n} (rep : Rep sc (h :: n :: q)) :
    sc.refillIndex (sc.refillNext sc.scRefillHead) = n := by
  have e := rep.queue_eq
  rw [rep.size_eq, List.length_cons, List.length_cons, Ring.toList, Ring.toList] at e
  rw [rep.refillNext_eq]
  exact (List.cons.inj (List.cons.inj e).2).1

/-- A store to the head replaces the first refill. -/
lemma setRefillHead {h} (rep : Rep sc (h :: q)) (r) : Rep (sc.setRefillHead r) (r :: q) := by
  have hl := rep.length_le
  refine ⟨rep.head_lt, rep.tail_lt, rep.max_lt, ?_⟩
  show Ring.toList (Function.update sc.refills sc.scRefillHead r) sc.scRefillMax sc.scRefillHead
    sc.refillSize = r :: q
  have e := rep.queue_eq
  rw [rep.size_eq, List.length_cons] at e ⊢
  rw [Ring.toList_update_first _ _ rep.head_lt (by simp only [List.length_cons] at hl; omega)]
  rw [Ring.toList] at e
  rw [(List.cons.inj e).2]

/-- A store to the tail replaces the last refill. -/
lemma setRefillTail {t} (rep : Rep sc (q ++ [t])) (r) : Rep (sc.setRefillTail r) (q ++ [r]) := by
  have hl := rep.length_le
  have ht := rep.tail_eq
  have e := rep.queue_eq
  refine ⟨rep.head_lt, rep.tail_lt, rep.max_lt, ?_⟩
  show Ring.toList (Function.update sc.refills sc.scRefillTail r) sc.scRefillMax sc.scRefillHead
    sc.refillSize = q ++ [r]
  rw [List.length_append, List.length_singleton] at hl
  rw [List.length_append, List.length_singleton, Nat.add_sub_cancel] at ht
  rw [rep.size_eq, List.length_append, List.length_singleton] at e ⊢
  rw [ht, Ring.toList_update_last _ _ rep.head_lt (by omega)]
  rw [Ring.toList_concat _ _ rep.head_lt] at e
  rw [(List.append_inj' e rfl).1]

/-- The buffer that is left when the head goes on by one cell. -/
lemma refillNext_head {h n} (rep : Rep sc (h :: n :: q)) : sc.refillNext sc.scRefillHead < sc.scRefillMax ∧
    ({ sc with scRefillHead := sc.refillNext sc.scRefillHead } : SchedContext).refillSize + 1 = sc.refillSize := by
  have hne : sc.scRefillHead ≠ sc.scRefillTail := by
    simpa [refillSingle] using rep.not_refillSingle
  unfold refillSize
  dsimp only
  rw [rep.refillNext_eq]
  exact ⟨Ring.next_lt rep.head_lt, Ring.size_next_head rep.head_lt rep.tail_lt hne⟩

/-- `refill_pop_head` on a queue of at least two refills. -/
lemma refillPopHead {h n} (rep : Rep sc (h :: n :: q)) :
    ∃ sc', sc.refillPopHead = .ok (h, sc') ∧ Rep sc' (n :: q) ∧ Frame sc sc' := by
  have hs := rep.size_eq
  let sc' := { sc with scRefillHead := sc.refillNext sc.scRefillHead }
  obtain ⟨hlt, hsize⟩ : sc'.scRefillHead < sc'.scRefillMax ∧ sc'.refillSize + 1 = sc.refillSize := rep.refillNext_head
  refine ⟨sc', ?_, ⟨hlt, rep.tail_lt, rep.max_lt, ?_⟩, ⟨rfl, rfl, rfl, rfl, rfl⟩⟩
  · unfold SchedContext.refillPopHead
    rw [assert_ok (by simpa using rep.not_refillSingle), rep.refillHead_eq]
    show (do
      assert (sc.refillSize == sc'.refillSize + 1)
      assert (decide (sc'.scRefillHead < sc'.scRefillMax))
      return (h, sc')) = _
    rw [assert_ok (by simpa using hsize.symm), assert_ok (by simpa using hlt)]
    rfl
  · have e := rep.queue_eq
    rw [hs, List.length_cons, Ring.toList] at e
    have hq : sc'.refillSize = (n :: q).length := by
      rw [hs, List.length_cons] at hsize
      omega
    show Ring.toList sc.refills sc.scRefillMax (sc.refillNext sc.scRefillHead) sc'.refillSize = _
    rw [hq, rep.refillNext_eq]
    exact (List.cons.inj e).2

/-- `refill_add_tail` on a queue with a free cell. -/
lemma refillAddTail (rep : Rep sc q) (r) (hlt : q.length < sc.scRefillMax) :
    ∃ sc', sc.refillAddTail r = .ok sc' ∧ Rep sc' (q ++ [r]) ∧ Frame sc sc' := by
  have hs := rep.size_eq
  have hp := rep.length_pos
  have hnt : sc.refillNext sc.scRefillTail =
      Ring.index sc.scRefillMax sc.scRefillHead q.length := by
    rw [rep.refillNext_eq, rep.tail_eq, Ring.next_index _ rep.head_lt]
    congr 1
    omega
  have htl : sc.refillNext sc.scRefillTail < sc.scRefillMax := by
    rw [hnt]
    exact Ring.index_lt rep.head_lt
  let sc' := ({ sc with scRefillTail := sc.refillNext sc.scRefillTail } : SchedContext).setRefillTail r
  refine ⟨sc', ?_, ⟨rep.head_lt, htl, rep.max_lt, ?_⟩, ⟨rfl, rfl, rfl, rfl, rfl⟩⟩
  · unfold SchedContext.refillAddTail
    rw [assert_ok (by simpa [hs] using hlt)]
    show (do assert (decide (sc.refillNext sc.scRefillTail < sc.scRefillMax)); return sc') = _
    rw [assert_ok (by simpa using htl)]
    rfl
  · have hsize : sc'.refillSize = q.length + 1 := by
      show Ring.size sc.scRefillMax sc.scRefillHead (sc.refillNext sc.scRefillTail) = _
      rw [rep.refillNext_eq, Ring.size_next_tail rep.head_lt rep.tail_lt]
      · exact congrArg (· + 1) hs
      · exact lt_of_eq_of_lt hs hlt
    show Ring.toList (Function.update sc.refills (sc.refillNext sc.scRefillTail) r) sc.scRefillMax
      sc.scRefillHead sc'.refillSize = _
    rw [hsize, hnt, Ring.toList_update_last _ _ rep.head_lt hlt, ← hs, rep.queue_eq]

/-- `schedule_used`, when no addition wraps. -/
lemma scheduleUsed {t new} (rep : Rep sc (q ++ [t])) (hend : Server.endTime t < 2 ^ 64)
    (hsum : t.rAmount + new.rAmount < 2 ^ 64) (htime : new.rTime < 2 ^ 64) :
    ∃ sc', sc.scheduleUsed new = .ok sc' ∧
      Rep sc' (Server.scheduleUsed sc.scRefillMax (q ++ [t]) new) ∧ Frame sc sc' := by
  unfold Server.endTime at hend
  unfold SchedContext.scheduleUsed
  simp only [rep.refillTail_eq, add64_eq hend, add64_eq hsum]
  rw [Server.scheduleUsed_concat]
  unfold Server.endTime
  split
  · exact ⟨_, rfl, rep.setRefillTail _, Frame.setRefillIndex _ _ _⟩
  · rename_i hgap
    have hlen : (q ++ [t]).length = q.length + 1 := by simp
    by_cases hf : q.length + 1 = sc.scRefillMax
    · have hfull : sc.refillFull = true := rep.refillFull_iff.mpr (hlen.trans hf)
      rw [hfull, if_neg (by simp), if_neg (by simpa using hf), sub64_eq (by omega) htime]
      refine ⟨_, rfl, ?_, (Frame.setRefillIndex _ _ _).trans (Frame.setRefillIndex _ _ _)⟩
      have rep' := rep.setRefillTail { rTime := new.rTime - t.rAmount, rAmount := t.rAmount }
      rw [rep'.refillTail_eq]
      exact rep'.setRefillTail _
    · have hfull : sc.refillFull = false := by
        rw [Bool.eq_false_iff]
        intro h
        exact hf (hlen ▸ rep.refillFull_iff.mp h)
      rw [hfull, if_pos (by simp), if_pos hf, show q ++ [t, new] = q ++ [t] ++ [new] by simp]
      exact rep.refillAddTail new (lt_of_le_of_ne rep.length_le (hlen ▸ hf))

/-- `merge_nonoverlapping_head_refill` on a queue of at least two refills. -/
lemma mergeNonoverlappingHeadRefill {h n} (rep : Rep sc (h :: n :: q))
    (hsum : n.rAmount + h.rAmount < 2 ^ 64) (hle : h.rAmount ≤ n.rTime) (htime : n.rTime < 2 ^ 64) :
    ∃ sc', sc.mergeNonoverlappingHeadRefill = .ok sc' ∧
      Rep sc' (Server.mergeNonoverlapping (h :: n :: q)) ∧ Frame sc sc' := by
  obtain ⟨sc1, e, rep1, f⟩ := rep.refillPopHead
  unfold SchedContext.mergeNonoverlappingHeadRefill
  rw [e]
  have rep2 := rep1.setRefillHead { n with rAmount := n.rAmount + h.rAmount }
  refine ⟨_, rfl, ?_, f.trans ((Frame.setRefillIndex _ _ _).trans (Frame.setRefillIndex _ _ _))⟩
  simp only [rep1.refillHead_eq, add64_eq hsum, rep2.refillHead_eq, sub64_eq hle htime]
  exact rep2.setRefillHead _

/-- `merge_overlapping_head_refill` on a queue of at least two refills. -/
lemma mergeOverlappingHeadRefill {h n} (rep : Rep sc (h :: n :: q))
    (hsum : n.rAmount + h.rAmount < 2 ^ 64) :
    ∃ sc', sc.mergeOverlappingHeadRefill = .ok sc' ∧
      Rep sc' (Server.mergeOverlapping (h :: n :: q)) ∧ Frame sc sc' := by
  obtain ⟨sc1, e, rep1, f⟩ := rep.refillPopHead
  unfold SchedContext.mergeOverlappingHeadRefill
  rw [e]
  have rep2 := rep1.setRefillHead { n with rTime := h.rTime }
  refine ⟨_, rfl, ?_, f.trans ((Frame.setRefillIndex _ _ _).trans (Frame.setRefillIndex _ _ _))⟩
  simp only [rep1.refillHead_eq, rep2.refillHead_eq, add64_eq hsum]
  exact rep2.setRefillHead _

/-- `charge_entire_head_refill`, when no addition wraps. -/
lemma chargeEntireHeadRefill {h usage} (rep : Rep sc (h :: q)) (hu : h.rAmount ≤ usage)
    (husage : usage < 2 ^ 64) (htime : h.rTime + sc.scPeriod < 2 ^ 64)
    (hend : ∀ t ∈ q.getLast?, Server.endTime t < 2 ^ 64 ∧ t.rAmount + h.rAmount < 2 ^ 64) :
    ∃ sc', sc.chargeEntireHeadRefill usage = .ok (usage - h.rAmount, sc') ∧
      Rep sc' (Server.chargeHead sc.scPeriod sc.scRefillMax (h :: q)) ∧ Frame sc sc' := by
  unfold SchedContext.chargeEntireHeadRefill
  simp only [rep.refillHead_eq, sub64_eq hu husage]
  cases q with
  | nil =>
    rw [if_pos (rep.refillSingle_iff.mpr rfl), add64_eq htime]
    exact ⟨_, rfl, rep.setRefillHead _, Frame.setRefillIndex _ _ _⟩
  | cons n q =>
    obtain ⟨sc1, e, rep1, f⟩ := rep.refillPopHead
    obtain ⟨p, t, hp⟩ := (List.eq_nil_or_concat' (n :: q)).resolve_left (by simp)
    rw [hp] at rep1 hend
    obtain ⟨h1, h2⟩ := hend t (by simp)
    obtain ⟨sc2, e2, rep2, f2⟩ :=
      @Rep.scheduleUsed sc1 p t { h with rTime := h.rTime + sc.scPeriod } rep1 h1 h2 htime
    refine ⟨sc2, ?_, ?_, f.trans f2⟩
    · rw [if_neg rep.not_refillSingle, e]
      show (do let sc' ← sc1.scheduleUsed { h with rTime := add64 h.rTime sc1.scPeriod }
               return (usage - h.rAmount, sc')) = _
      rw [f.scPeriod, add64_eq htime, e2]
      rfl
    · rw [f.scRefillMax, ← hp] at rep2
      exact rep2

/-- The last refill after a part of the first one was taken away. -/
lemma exists_last {h : Refill} {usage} (hu : usage ≤ h.rAmount)
    (hend : ∀ r ∈ h :: q, Server.endTime r < 2 ^ 64 ∧ r.rAmount + usage < 2 ^ 64) :
    ∃ p t, ({ rTime := h.rTime + usage, rAmount := h.rAmount - usage } : Refill) :: q = p ++ [t] ∧
      Server.endTime t < 2 ^ 64 ∧ t.rAmount + usage < 2 ^ 64 := by
  obtain ⟨hh, hh'⟩ := hend h (by simp)
  obtain ⟨p, t, hp⟩ := (List.eq_nil_or_concat'
    (({ rTime := h.rTime + usage, rAmount := h.rAmount - usage } : Refill) :: q)).resolve_left (by simp)
  have hm : t ∈ ({ rTime := h.rTime + usage, rAmount := h.rAmount - usage } : Refill) :: q := by
    rw [hp]
    simp
  refine ⟨p, t, hp, ?_⟩
  rcases List.mem_cons.mp hm with rfl | hm
  · unfold Server.endTime at hh ⊢
    dsimp only
    omega
  · exact hend t (by simp [hm])

/-- The partial charge in `refill_budget_check`, when no addition wraps. -/
lemma chargePartialHeadRefill {h usage} (rep : Rep sc (h :: q)) (hu : usage < h.rAmount)
    (hend : ∀ r ∈ h :: q, Server.endTime r < 2 ^ 64 ∧ r.rAmount + usage < 2 ^ 64)
    (htime : h.rTime + sc.scPeriod < 2 ^ 64) :
    ∃ sc', sc.chargePartialHeadRefill usage = .ok sc' ∧
      Rep sc' (Server.chargePart sc.scPeriod sc.scRefillMax usage (h :: q)) ∧ Frame sc sc' := by
  obtain ⟨hh, hh'⟩ := hend h (by simp)
  have hsum : h.rTime + usage < 2 ^ 64 := by
    unfold Server.endTime at hh
    omega
  have rep1 := rep.setRefillHead { h with rAmount := h.rAmount - usage }
  have rep2 := rep1.setRefillHead { rTime := h.rTime + usage, rAmount := h.rAmount - usage }
  obtain ⟨p, t, hp, ht⟩ := exists_last hu.le hend
  rw [hp] at rep2
  obtain ⟨sc2, e2, rep3, f2⟩ := @Rep.scheduleUsed _ p t
    { rTime := h.rTime + sc.scPeriod, rAmount := usage } rep2 ht.1 ht.2 htime
  refine ⟨sc2, ?_, ?_, ((Frame.setRefillIndex _ _ _).trans (Frame.setRefillIndex _ _ _)).trans f2⟩
  · unfold SchedContext.chargePartialHeadRefill
    simp only [rep.refillHead_eq, sub64_eq hu.le (by omega : h.rAmount < 2 ^ 64), add64_eq hsum,
      add64_eq htime, rep1.refillHead_eq]
    rw [assert_ok (by simpa using hu)]
    exact e2
  · rw [← hp] at rep3
    exact rep3

end Rep

end NexsKernel
