import NexsKernel.Sporadic.Refinement

/-!
# Charging and unblocking a server

`Serving` is the invariant of a scheduling context with a period: its buffer represents a valid server,
its parameters are within the limits of `decodeSchedControl_ConfigureFlags`, and its head is released
early enough that no addition of the code wraps. `Settled` adds that the head refill is sufficient,
which holds between operations but not inside the loops of `refill_budget_check`.

For `handle_overrun`, `refill_budget_check` and `refill_unblock_check` there is one lemma each: the
function returns, its loops end within their fuel, and the result is settled.
-/

namespace NexsKernel

open SchedContext

/-- The invariant of a scheduling context with a period. -/
structure Serving (cfg : Timer) (budget : Nat) (sc : SchedContext) (q : List Refill) : Prop where
  rep : Rep sc q
  valid : Server.Valid sc.scPeriod budget q
  budget_lt : budget < sc.scPeriod
  period_le : sc.scPeriod ≤ cfg.maxPeriodTicks
  two_le_max : 2 ≤ sc.scRefillMax
  minBudget_le : cfg.minBudget ≤ budget
  head_le : ∀ h ∈ q.head?, h.rTime ≤ cfg.maxReleaseTime + cfg.maxPeriodTicks

/-- A server between two operations: its head refill is sufficient. -/
structure Settled (cfg : Timer) (budget : Nat) (sc : SchedContext) (q : List Refill) : Prop
    extends Serving cfg budget sc q where
  sufficient : ∀ h ∈ q.head?, cfg.minBudget ≤ h.rAmount

/-- Either every refill was scheduled in time, or the head cannot be charged and stays as it is. -/
def Timely (cfg : Timer) (q : List Refill) : Prop :=
  (∀ r ∈ q, r.rTime ≤ cfg.maxReleaseTime + cfg.maxPeriodTicks) ∨
    ∀ h ∈ q.head?, cfg.maxReleaseTime ≤ h.rTime ∧ cfg.minBudget ≤ h.rAmount

namespace Serving

variable {cfg : Timer} {budget : Nat} {sc sc' : SchedContext} {q q' : List Refill}

/-- A queue operation that keeps the server valid keeps the invariant. -/
lemma of_frame (s : Serving cfg budget sc q) (f : Frame sc sc') (rep : Rep sc' q')
    (valid : Server.Valid sc.scPeriod budget q')
    (head_le : ∀ h ∈ q'.head?, h.rTime ≤ cfg.maxReleaseTime + cfg.maxPeriodTicks) :
    Serving cfg budget sc' q' := by
  refine ⟨rep, f.scPeriod.symm ▸ valid, ?_, ?_, ?_, s.minBudget_le, head_le⟩
  · exact f.scPeriod.symm ▸ s.budget_lt
  · exact f.scPeriod.symm ▸ s.period_le
  · exact f.scRefillMax.symm ▸ s.two_le_max

/-- No refill is scheduled so late that adding two periods to its time would wrap. -/
lemma time_le {h} (s : Serving cfg budget sc (h :: q)) {r} (hr : r ∈ h :: q) :
    r.rTime ≤ cfg.maxReleaseTime + 2 * cfg.maxPeriodTicks := by
  have h1 := s.valid.time_le hr
  have h2 := s.head_le h (by simp)
  have h3 := s.period_le
  omega

lemma amount_lt (s : Serving cfg budget sc q) {r} (hr : r ∈ q) :
    r.rAmount < cfg.maxPeriodTicks := by
  have h1 := s.valid.amount_le hr
  have h2 := s.budget_lt
  have h3 := s.period_le
  omega

/-- The end of a refill fits into a word. -/
lemma endTime_lt {h} (s : Serving cfg budget sc (h :: q)) {r} (hr : r ∈ h :: q) :
    Server.endTime r < 2 ^ 64 := by
  have h1 := s.time_le hr
  have h2 := s.amount_lt hr
  have h3 := cfg.maxReleaseTime_add
  unfold uint64Max at h3
  unfold Server.endTime
  omega

/-- The sum of two amounts fits into a word. -/
lemma add_amount_lt (s : Serving cfg budget sc q) {r r'} (hr : r ∈ q) (hr' : r' ∈ q) :
    r.rAmount + r'.rAmount < 2 ^ 64 := by
  have h1 := s.amount_lt hr
  have h2 := s.amount_lt hr'
  have h3 := cfg.maxReleaseTime_add
  unfold uint64Max at h3
  omega

/-- One more period fits behind the head. -/
lemma head_add_period_lt {h} (s : Serving cfg budget sc (h :: q)) :
    h.rTime + sc.scPeriod < 2 ^ 64 := by
  have h1 := s.head_le h (by simp)
  have h2 := s.period_le
  have h3 := cfg.maxReleaseTime_add
  have h4 := s.budget_lt
  unfold uint64Max at h3
  omega

/-- A server whose head is released before the limit has all its refills in time. -/
lemma timely_of_lt {h} (s : Serving cfg budget sc (h :: q)) (hlt : h.rTime < cfg.maxReleaseTime) :
    ∀ r ∈ h :: q, r.rTime ≤ cfg.maxReleaseTime + cfg.maxPeriodTicks := by
  intro r hr
  have h1 := s.valid.time_le hr
  have h2 := s.period_le
  omega

/-- One round of `handle_overrun`. -/
lemma chargeEntireHeadRefill {h usage} (s : Serving cfg budget sc (h :: q))
    (hu : h.rAmount ≤ usage) (husage : usage < 2 ^ 64) (hlt : h.rTime < cfg.maxReleaseTime) :
    ∃ sc' h' q', sc.chargeEntireHeadRefill usage = .ok (usage - h.rAmount, sc') ∧
      Serving cfg budget sc' (h' :: q') ∧ Timely cfg (h' :: q') ∧ Frame sc sc' := by
  obtain ⟨sc', e, rep, f⟩ := s.rep.chargeEntireHeadRefill hu husage s.head_add_period_lt (by
    intro t ht
    have hm : t ∈ h :: q := by simp [List.mem_of_getLast? ht]
    exact ⟨s.endTime_lt hm, s.add_amount_lt hm (by simp)⟩)
  obtain ⟨h', q', e', v, ht⟩ := s.valid.chargeHead s.two_le_max
  rw [e'] at rep
  have hin : ∀ r ∈ h' :: q', r.rTime ≤ cfg.maxReleaseTime + cfg.maxPeriodTicks := by
    intro r hr
    have h1 := ht r hr
    have h2 := s.period_le
    omega
  refine ⟨sc', h', q', e, s.of_frame f rep v ?_, .inl hin, f⟩
  intro x hx
  exact hin x (List.mem_of_head? hx)

/-- `handle_overrun` returns, and what it leaves over is less than the head or cannot be charged. -/
lemma handleOverrun {h usage} (s : Serving cfg budget sc (h :: q)) (ht : Timely cfg (h :: q))
    (husage : usage < 2 ^ 64) {fuel} (hfuel : usage < fuel) :
    ∃ usage' sc' h' q', SchedContext.handleOverrun cfg.toTimerConfig fuel sc usage = .ok (usage', sc') ∧
      Serving cfg budget sc' (h' :: q') ∧ Timely cfg (h' :: q') ∧ Frame sc sc' ∧
      (h'.rTime < cfg.maxReleaseTime → usage' < h'.rAmount) ∧
      (usage < h.rAmount → usage' = usage ∧ sc' = sc ∧ h' = h ∧ q' = q) := by
  -- each round uses up the head's amount, which is positive
  induction fuel generalizing sc h q usage with
  | zero => omega
  | succ fuel ih =>
    unfold SchedContext.handleOverrun
    split
    · rename_i hover
      simp only [headRefillOverrun, s.rep.refillHead_eq, Bool.and_eq_true, decide_eq_true_eq] at hover
      obtain ⟨sc1, h1, q1, e1, s1, t1, f1⟩ := s.chargeEntireHeadRefill hover.1 husage hover.2
      have hpos := s.valid.pos h (by simp)
      obtain ⟨u', sc2, h2, q2, e2, s2, t2, f2, hd, -⟩ :=
        ih s1 t1 (lt_of_le_of_lt (Nat.sub_le usage h.rAmount) husage) (by omega)
      refine ⟨u', sc2, h2, q2, ?_, s2, t2, f1.trans f2, hd, ?_⟩
      · rw [e1]
        exact e2
      · intro hlt
        omega
    · rename_i hover
      simp only [headRefillOverrun, s.rep.refillHead_eq, Bool.and_eq_true, decide_eq_true_eq,
        not_and, not_lt] at hover
      refine ⟨usage, sc, h, q, rfl, s, ht, Frame.refl sc, ?_, fun _ => ⟨rfl, rfl, rfl, rfl⟩⟩
      intro hlt
      by_contra hle
      exact absurd (hover (by omega)) (by omega)

/-- The partial charge of `refill_budget_check`. -/
lemma chargePartialHeadRefill {h usage} (s : Serving cfg budget sc (h :: q)) (hu : 0 < usage)
    (hlt : usage < h.rAmount) (hrel : h.rTime < cfg.maxReleaseTime) :
    ∃ sc' h' q', sc.chargePartialHeadRefill usage = .ok sc' ∧
      Serving cfg budget sc' (h' :: q') ∧ Timely cfg (h' :: q') ∧ Frame sc sc' ∧
      h'.rTime = h.rTime + usage ∧ h.rAmount - usage ≤ h'.rAmount := by
  obtain ⟨sc', e, rep, f⟩ := s.rep.chargePartialHeadRefill hlt (by
    intro r hr
    have : r.rAmount + h.rAmount < 2 ^ 64 := s.add_amount_lt hr (by simp)
    exact ⟨s.endTime_lt hr, by omega⟩) s.head_add_period_lt
  obtain ⟨h', q', e', v, ht, htime, hamt⟩ := s.valid.chargePart s.two_le_max s.budget_lt hu hlt
  rw [e'] at rep
  have hin : ∀ r ∈ h' :: q', r.rTime ≤ cfg.maxReleaseTime + cfg.maxPeriodTicks := by
    intro r hr
    have h1 := ht r hr
    have h2 := s.period_le
    omega
  refine ⟨sc', h', q', e, s.of_frame f rep v ?_, .inl hin, f, htime, hamt⟩
  intro x hx
  exact hin x (List.mem_of_head? hx)

/-- A head that is not sufficient has a successor: alone it would hold the whole budget. -/
lemma exists_next {h} (s : Serving cfg budget sc (h :: q)) (hlt : h.rAmount < cfg.minBudget) :
    ∃ n q', q = n :: q' := by
  cases q with
  | nil =>
    have h1 := s.valid.sum
    have h2 := s.minBudget_le
    simp only [Server.total_cons, Server.total_nil] at h1
    omega
  | cons n q' => exact ⟨n, q', rfl⟩

/-- The `if` of `refill_budget_check`. -/
lemma chargeRemainingUsage {h usage} (s : Serving cfg budget sc (h :: q)) (ht : Timely cfg (h :: q))
    (hu : h.rTime < cfg.maxReleaseTime → usage < h.rAmount) :
    ∃ sc' h' q', sc.chargeRemainingUsage cfg.toTimerConfig usage = .ok sc' ∧
      Serving cfg budget sc' (h' :: q') ∧ Timely cfg (h' :: q') ∧ Frame sc sc' ∧
      h'.rTime ≤ h.rTime + usage ∧ h.rAmount - usage ≤ h'.rAmount := by
  unfold SchedContext.chargeRemainingUsage
  rw [s.rep.refillHead_eq]
  split
  · rename_i hpart
    obtain ⟨sc', h', q', e, s', t', f, htime, ha⟩ := s.chargePartialHeadRefill hpart.1 (hu hpart.2) hpart.2
    exact ⟨sc', h', q', e, s', t', f, htime.le, ha⟩
  · exact ⟨sc, h, q, rfl, s, ht, Frame.refl sc, Nat.le_add_right _ _, Nat.sub_le _ _⟩

/-- One round of the loop at the end of `refill_budget_check`. -/
lemma mergeNonoverlappingHeadRefill {h n} (s : Serving cfg budget sc (h :: n :: q)) (ht : Timely cfg (h :: n :: q))
    (hins : h.rAmount < cfg.minBudget) :
    ∃ sc', sc.mergeNonoverlappingHeadRefill = .ok sc' ∧
      Serving cfg budget sc' (Server.mergeNonoverlapping (h :: n :: q)) ∧
      Timely cfg (Server.mergeNonoverlapping (h :: n :: q)) ∧ Frame sc sc' := by
  have hin : ∀ r ∈ h :: n :: q, r.rTime ≤ cfg.maxReleaseTime + cfg.maxPeriodTicks := by
    rcases ht with ht | ht
    · exact ht
    · have := (ht h (by simp)).2
      omega
  have hend : Server.endTime h ≤ n.rTime := (List.isChain_cons_cons.mp s.valid.ordered).1
  obtain ⟨sc1, e1, rep1, f1⟩ := s.rep.mergeNonoverlappingHeadRefill
    (s.add_amount_lt (by simp) (by simp))
    (by unfold Server.endTime at hend; omega)
    (lt_of_le_of_lt (Nat.le_add_right _ _) (s.endTime_lt (r := n) (by simp)))
  have hin1 : ∀ r ∈ Server.mergeNonoverlapping (h :: n :: q),
      r.rTime ≤ cfg.maxReleaseTime + cfg.maxPeriodTicks := by
    intro r hr
    rcases List.mem_cons.mp hr with e | hr
    · subst e
      exact (Nat.sub_le _ _).trans (hin n (by simp))
    · exact hin r (by simp [hr])
  have s1 := s.of_frame f1 rep1 s.valid.mergeNonoverlapping (fun x hx => hin1 x (List.mem_of_head? hx))
  exact ⟨sc1, e1, s1, .inl hin1, f1⟩

/-- The loop at the end of `refill_budget_check` leaves a sufficient head. -/
lemma mergeInsufficient {h} (s : Serving cfg budget sc (h :: q)) (ht : Timely cfg (h :: q)) (fuel)
    (hfuel : q.length < fuel) :
    ∃ sc' h' q', SchedContext.mergeInsufficient cfg.toTimerConfig fuel sc = .ok sc' ∧
      Settled cfg budget sc' (h' :: q') ∧ Frame sc sc' ∧
      (cfg.minBudget ≤ h.rAmount → sc' = sc ∧ h' = h ∧ q' = q) := by
  -- each round removes one refill
  induction fuel generalizing sc h q with
  | zero => omega
  | succ fuel ih =>
    unfold SchedContext.mergeInsufficient
    split
    · rename_i hins
      simp only [headRefillInsufficient, s.rep.refillHead_eq, decide_eq_true_eq] at hins
      obtain ⟨n, q', rfl⟩ := s.exists_next hins
      obtain ⟨sc1, e1, s1, t1, f1⟩ := s.mergeNonoverlappingHeadRefill ht hins
      obtain ⟨sc2, h2, q2, e2, s2, f2, -⟩ := ih s1 t1 (by
        simp only [List.length_cons] at hfuel
        omega)
      refine ⟨sc2, h2, q2, ?_, s2, f1.trans f2, fun hle => by omega⟩
      rw [e1]
      exact e2
    · rename_i hins
      simp only [headRefillInsufficient, s.rep.refillHead_eq, decide_eq_true_eq, not_lt] at hins
      refine ⟨sc, h, q, rfl, ⟨s, ?_⟩, Frame.refl sc, fun _ => ⟨rfl, rfl, rfl⟩⟩
      intro x hx
      simp only [List.head?_cons, Option.mem_some_iff] at hx
      subst hx
      exact hins

end Serving

namespace Settled

variable {cfg : Timer} {budget : Nat} {sc sc' : SchedContext} {q q' : List Refill}

lemma not_isRoundRobin (s : Settled cfg budget sc q) : sc.isRoundRobin = false := by
  have := s.budget_lt
  unfold isRoundRobin
  rw [beq_eq_false_iff_ne]
  omega

lemma timely {h} (s : Settled cfg budget sc (h :: q)) : Timely cfg (h :: q) := by
  by_cases hlt : h.rTime < cfg.maxReleaseTime
  · exact .inl (s.timely_of_lt hlt)
  · right
    intro x hx
    have := s.sufficient x hx
    simp only [List.head?_cons, Option.mem_some_iff] at hx
    subst hx
    exact ⟨by omega, this⟩

/-- `refill_budget_check` returns a settled server, whatever amount is charged. -/
lemma refillBudgetCheck {h usage} (s : Settled cfg budget sc (h :: q)) (husage : usage < 2 ^ 64) :
    ∃ sc' h' q', sc.refillBudgetCheck cfg.toTimerConfig usage = .ok sc' ∧
      Settled cfg budget sc' (h' :: q') ∧ Frame sc sc' ∧
      (usage + cfg.minBudget ≤ h.rAmount → h'.rTime ≤ h.rTime + usage) := by
  obtain ⟨u1, sc1, h1, q1, e1, s1, t1, f1, hd1, hk1⟩ :=
    s.toServing.handleOverrun s.timely husage (Nat.lt_succ_self usage)
  obtain ⟨sc2, h2, q2, e2, s2, t2, f2, ht, ha⟩ := s1.chargeRemainingUsage t1 hd1
  obtain ⟨sc3, h3, q3, e3, s3, f3, hk3⟩ := s2.mergeInsufficient t2 sc2.refillSize
    (by rw [s2.rep.size_eq]; simp)
  refine ⟨sc3, h3, q3, ?_, s3, f1.trans (f2.trans f3), ?_⟩
  · unfold SchedContext.refillBudgetCheck
    rw [assert_ok (by simp [s.not_isRoundRobin]), e1]
    show (do let sc ← sc1.chargeRemainingUsage cfg.toTimerConfig u1
             SchedContext.mergeInsufficient cfg.toTimerConfig sc.refillSize sc) = _
    rw [e2]
    exact e3
  · -- a usage that leaves a sufficient head only delays the head by that usage
    intro hle
    have hmin := cfg.minBudget_pos
    obtain ⟨rfl, rfl, rfl, rfl⟩ := hk1 (by omega)
    obtain ⟨rfl, rfl, rfl⟩ := hk3 (by omega)
    exact ht

end Settled

/-- The loop of `refill_unblock_check` returns a valid server with the same head time. -/
lemma mergeOverlapping_unblocking {period budget} (fuel) {sc : SchedContext} {h q}
    (rep : Rep sc (h :: q)) (u : Server.Unblocking period budget h q)
    (hend : h.rTime + budget < 2 ^ 64) (hbudget : 2 * budget < 2 ^ 64) (hfuel : q.length < fuel) :
    ∃ sc' h' q', SchedContext.mergeOverlapping fuel sc = .ok sc' ∧ Rep sc' (h' :: q') ∧
      Server.Valid period budget (h' :: q') ∧ Frame sc sc' ∧
      h'.rTime = h.rTime ∧ h.rAmount ≤ h'.rAmount := by
  have hsum := u.sum
  simp only [Server.total_cons] at hsum
  -- each round removes one refill
  induction fuel generalizing sc h q with
  | zero => omega
  | succ fuel ih =>
    unfold SchedContext.mergeOverlapping
    have hh : h.rTime + h.rAmount < 2 ^ 64 := by omega
    cases q with
    | nil =>
      have hs : sc.refillSingle = true := rep.refillSingle_iff.mpr rfl
      rw [if_neg (by simp [refillHeadOverlapping, hs])]
      exact ⟨sc, h, [], rfl, rep, u.valid (by simp), Frame.refl sc, rfl, le_rfl⟩
    | cons n q =>
      have hs : sc.refillSingle = false := by
        rw [Bool.eq_false_iff]
        intro hs
        simpa using rep.refillSingle_iff.mp hs
      split
      · obtain ⟨sc1, e1, rep1, f1⟩ := rep.mergeOverlappingHeadRefill (by
          simp only [Server.total_cons] at hsum
          omega)
        obtain ⟨sc2, h2, q2, e2, rep2, v2, f2, ht, ha⟩ := ih rep1 u.merge hend
          (by simp only [List.length_cons] at hfuel; omega)
          (by simpa using u.merge.sum)
        refine ⟨sc2, h2, q2, ?_, rep2, v2, f1.trans f2, ht, (Nat.le_add_left _ _).trans ha⟩
        rw [e1]
        exact e2
      · rename_i hov
        simp only [refillHeadOverlapping, hs, Bool.not_false, if_true, rep.refillHead_eq,
          rep.refillIndex_next_eq, add64_eq hh, decide_eq_true_eq, not_le] at hov
        refine ⟨sc, h, n :: q, rfl, rep, u.valid ?_, Frame.refl sc, rfl, le_rfl⟩
        intro x hx
        simp only [List.head?_cons, Option.mem_some_iff] at hx
        subst hx
        exact hov.le

/-- `refill_sufficient` without usage looks at the head refill alone. -/
lemma Rep.refillSufficient_zero {sc : SchedContext} {h q} (rep : Rep sc (h :: q)) (cfg : TimerConfig) :
    sc.refillSufficient cfg 0 = decide (cfg.minBudget ≤ h.rAmount) := by
  simp [refillSufficient, refillCapacity, rep.refillHead_eq]

/-- `refill_unblock_check` returns a settled server. -/
lemma Settled.refillUnblockCheck {cfg : Timer} {budget sc h q now}
    (s : Settled cfg budget sc (h :: q)) (hnow : now < cfg.maxReleaseTime) :
    ∃ sc' h' q', sc.refillUnblockCheck cfg.toTimerConfig now = .ok sc' ∧
      Settled cfg budget sc' (h' :: q') ∧ Frame sc sc' := by
  unfold SchedContext.refillUnblockCheck
  rw [s.not_isRoundRobin, if_neg (by simp)]
  simp only [refillReady, s.rep.refillHead_eq, decide_eq_true_eq]
  split
  · rename_i hready
    have h1 := cfg.maxReleaseTime_add
    have h2 := s.budget_lt
    have h3 := s.period_le
    unfold uint64Max at h1
    have rep1 := s.rep.setRefillHead { h with rTime := now }
    obtain ⟨sc2, h2, q2, e2, rep2, v2, f2, ht, ha⟩ :=
      mergeOverlapping_unblocking (sc.setRefillHead { h with rTime := now }).refillSize rep1
        (s.valid.unblocking hready)
        (by show now + budget < 2 ^ 64; omega) (by omega) (by rw [rep1.size_eq]; simp)
    have hamt : cfg.minBudget ≤ h2.rAmount := (s.sufficient h (by simp)).trans ha
    have f := (Frame.setRefillIndex sc sc.scRefillHead { h with rTime := now }).trans f2
    refine ⟨sc2, h2, q2, ?_, ⟨s.of_frame f rep2 v2 ?_, ?_⟩, f⟩
    · show (do let sc ← SchedContext.mergeOverlapping (sc.setRefillHead { h with rTime := now }).refillSize
                  (sc.setRefillHead { h with rTime := now })
               assert (sc.refillSufficient cfg.toTimerConfig 0)
               return sc) = _
      rw [e2]
      show (do assert (sc2.refillSufficient cfg.toTimerConfig 0); return sc2) = _
      rw [rep2.refillSufficient_zero, assert_ok (by simpa using hamt)]
      rfl
    · intro x hx
      simp only [List.head?_cons, Option.mem_some_iff] at hx
      subst hx
      rw [ht]
      show now ≤ _
      omega
    · intro x hx
      simp only [List.head?_cons, Option.mem_some_iff] at hx
      subst hx
      exact hamt
  · exact ⟨sc, h, q, rfl, s, Frame.refl sc⟩

end NexsKernel
