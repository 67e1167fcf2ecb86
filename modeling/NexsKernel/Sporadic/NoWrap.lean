import NexsKernel.Sporadic.Checked
import NexsKernel.Sporadic.Supply

/-!
# Nothing wraps in the sporadic server

Each function agrees with its version that must not wrap: on a represented queue where the sums fit into a word, and
then on every queue with the invariant.
-/

namespace NexsKernel

open SchedContext Checked

namespace Rep

variable {sc : SchedContext} {q : List Refill}

lemma checked_refillNext (rep : Rep sc q) {i} (hi : i < sc.scRefillMax) :
    Checked.refillNext sc i = .ok (sc.refillNext i) := by
  have hm := rep.max_lt
  have hpos : 1 ≤ sc.scRefillMax := Nat.one_le_of_lt hi
  unfold Checked.refillNext SchedContext.refillNext
  rw [sub_ok hpos, ok_bind, sub64_eq hpos hm]
  split
  · rfl
  · exact add_ok (by omega)

/-- The number of refills of a buffer whose indices are in range. -/
lemma checked_refillSize' (hh : sc.scRefillHead < sc.scRefillMax) (ht : sc.scRefillTail < sc.scRefillMax)
    (hm : sc.scRefillMax < 2 ^ 64) : Checked.refillSize sc = .ok sc.refillSize := by
  unfold Checked.refillSize SchedContext.refillSize
  split
  · rename_i hle
    rw [sub_ok hle, ok_bind, add_ok (by omega)]
  · rename_i hgt
    rw [add_ok (by omega), ok_bind, sub_ok hh.le, ok_bind, add_ok (by omega)]

lemma checked_refillSize (rep : Rep sc q) : Checked.refillSize sc = .ok sc.refillSize :=
  checked_refillSize' rep.head_lt rep.tail_lt rep.max_lt

lemma checked_refillPopHead {h n} (rep : Rep sc (h :: n :: q)) :
    Checked.refillPopHead sc = sc.refillPopHead := by
  let sc' := { sc with scRefillHead := sc.refillNext sc.scRefillHead }
  obtain ⟨hnext, hsize⟩ : _ ∧ sc'.refillSize + 1 = sc.refillSize := rep.refillNext_head
  have hle : sc.refillSize ≤ sc.scRefillMax := Ring.size_le rep.head_lt rep.tail_lt
  have hm := rep.max_lt
  have e : Checked.refillSize sc' = .ok sc'.refillSize := checked_refillSize' hnext rep.tail_lt rep.max_lt
  unfold Checked.refillPopHead SchedContext.refillPopHead
  rw [rep.checked_refillSize, rep.checked_refillNext rep.head_lt]
  simp only [ok_bind]
  rw [e, ok_bind, add_ok (by omega)]
  rfl

lemma checked_refillAddTail (rep : Rep sc q) (r) : Checked.refillAddTail sc r = sc.refillAddTail r := by
  unfold Checked.refillAddTail SchedContext.refillAddTail
  rw [rep.checked_refillSize, ok_bind, rep.checked_refillNext rep.tail_lt]
  rfl

lemma checked_maybeAddEmptyTail (rep : Rep sc q) : Checked.maybeAddEmptyTail sc = sc.maybeAddEmptyTail := by
  unfold Checked.maybeAddEmptyTail SchedContext.maybeAddEmptyTail
  split
  · rw [rep.checked_refillAddTail]
    by_cases hlt : q.length < sc.scRefillMax
    · obtain ⟨sc', e, rep', -⟩ := rep.refillAddTail { rTime := sc.refillHead.rTime, rAmount := 0 } hlt
      rw [e, ok_bind, ok_bind, rep'.checked_refillSize]
      rfl
    · -- the buffer is full
      have hfull : sc.refillAddTail { rTime := sc.refillHead.rTime, rAmount := 0 } = .error .assertion := by
        unfold SchedContext.refillAddTail
        rw [rep.size_eq, decide_eq_false hlt]
        rfl
      rw [hfull]
      rfl
  · rfl

lemma checked_scheduleUsed {t new} (rep : Rep sc (q ++ [t])) (hend : Server.endTime t < 2 ^ 64)
    (hsum : t.rAmount + new.rAmount < 2 ^ 64) (htime : new.rTime < 2 ^ 64) :
    Checked.scheduleUsed sc new = sc.scheduleUsed new := by
  unfold Server.endTime at hend
  unfold Checked.scheduleUsed SchedContext.scheduleUsed
  simp only [rep.refillTail_eq, add_ok hend, add_ok hsum, add64_eq hend, add64_eq hsum, ok_bind]
  split
  · rfl
  · rename_i hgap
    have hle : t.rAmount ≤ new.rTime := by omega
    rw [rep.checked_refillSize, ok_bind, sub_ok hle, sub64_eq hle htime]
    change (if (!sc.refillFull) = true then Checked.refillAddTail sc new else _) = _
    split
    · exact rep.checked_refillAddTail new
    · rfl

lemma checked_mergeNonoverlappingHeadRefill {h n} (rep : Rep sc (h :: n :: q))
    (hsum : n.rAmount + h.rAmount < 2 ^ 64) (hle : h.rAmount ≤ n.rTime) (htime : n.rTime < 2 ^ 64) :
    Checked.mergeNonoverlappingHeadRefill sc = sc.mergeNonoverlappingHeadRefill := by
  obtain ⟨sc1, e, rep1, -⟩ := rep.refillPopHead
  have rep2 := rep1.setRefillHead { n with rAmount := n.rAmount + h.rAmount }
  unfold Checked.mergeNonoverlappingHeadRefill SchedContext.mergeNonoverlappingHeadRefill
  rw [rep.checked_refillPopHead, e]
  simp only [ok_bind, rep1.refillHead_eq, add_ok hsum, add64_eq hsum, rep2.refillHead_eq, sub_ok hle,
    sub64_eq hle htime]

lemma checked_mergeOverlappingHeadRefill {h n} (rep : Rep sc (h :: n :: q))
    (hsum : n.rAmount + h.rAmount < 2 ^ 64) :
    Checked.mergeOverlappingHeadRefill sc = sc.mergeOverlappingHeadRefill := by
  obtain ⟨sc1, e, rep1, -⟩ := rep.refillPopHead
  have rep2 := rep1.setRefillHead { n with rTime := h.rTime }
  unfold Checked.mergeOverlappingHeadRefill SchedContext.mergeOverlappingHeadRefill
  rw [rep.checked_refillPopHead, e]
  simp only [ok_bind, rep1.refillHead_eq, rep2.refillHead_eq, add_ok hsum, add64_eq hsum]

lemma checked_refillHeadOverlapping {h} (rep : Rep sc (h :: q)) (hend : Server.endTime h < 2 ^ 64) :
    Checked.refillHeadOverlapping sc = .ok sc.refillHeadOverlapping := by
  unfold Server.endTime at hend
  unfold Checked.refillHeadOverlapping SchedContext.refillHeadOverlapping
  rw [rep.checked_refillNext rep.head_lt]
  simp only [rep.refillHead_eq, add_ok hend, add64_eq hend, ok_bind]
  split <;> rfl

lemma checked_chargeEntireHeadRefill {h usage} (rep : Rep sc (h :: q)) (hu : h.rAmount ≤ usage)
    (husage : usage < 2 ^ 64) (htime : h.rTime + sc.scPeriod < 2 ^ 64)
    (hend : ∀ t ∈ q.getLast?, Server.endTime t < 2 ^ 64 ∧ t.rAmount + h.rAmount < 2 ^ 64) :
    Checked.chargeEntireHeadRefill sc usage = sc.chargeEntireHeadRefill usage := by
  unfold Checked.chargeEntireHeadRefill SchedContext.chargeEntireHeadRefill
  simp only [rep.refillHead_eq, sub_ok hu, sub64_eq hu husage, add_ok htime, add64_eq htime, ok_bind]
  cases q with
  | nil =>
    rw [if_pos (rep.refillSingle_iff.mpr rfl), if_pos (rep.refillSingle_iff.mpr rfl)]
  | cons n q =>
    have hs := rep.not_refillSingle
    obtain ⟨sc1, e, rep1, f⟩ := rep.refillPopHead
    obtain ⟨p, t, hp⟩ := (List.eq_nil_or_concat' (n :: q)).resolve_left (by simp)
    rw [hp] at rep1 hend
    obtain ⟨h1, h2⟩ := hend t (by simp)
    have e2 := @checked_scheduleUsed sc1 p t { h with rTime := h.rTime + sc.scPeriod } rep1 h1 h2 htime
    rw [if_neg hs, if_neg hs, rep.checked_refillPopHead, e]
    simp only [ok_bind, f.scPeriod, add_ok htime, add64_eq htime, e2]

lemma checked_chargePartialHeadRefill {h usage} (rep : Rep sc (h :: q)) (hu : usage < h.rAmount)
    (hend : ∀ r ∈ h :: q, Server.endTime r < 2 ^ 64 ∧ r.rAmount + usage < 2 ^ 64)
    (htime : h.rTime + sc.scPeriod < 2 ^ 64) :
    Checked.chargePartialHeadRefill sc usage = sc.chargePartialHeadRefill usage := by
  obtain ⟨hh, hh'⟩ := hend h (by simp)
  have hsum : h.rTime + usage < 2 ^ 64 := by
    unfold Server.endTime at hh
    omega
  have hlt : h.rAmount < 2 ^ 64 := by omega
  have rep1 := rep.setRefillHead { h with rAmount := h.rAmount - usage }
  have rep2 := rep1.setRefillHead { rTime := h.rTime + usage, rAmount := h.rAmount - usage }
  obtain ⟨p, t, hp, ht⟩ := exists_last hu.le hend
  rw [hp] at rep2
  have e := @checked_scheduleUsed _ p t { rTime := h.rTime + sc.scPeriod, rAmount := usage } rep2 ht.1 ht.2 htime
  unfold Checked.chargePartialHeadRefill SchedContext.chargePartialHeadRefill
  simp only [rep.refillHead_eq, add_ok htime, add64_eq htime, sub_ok hu.le, sub64_eq hu.le hlt, add_ok hsum,
    add64_eq hsum, ok_bind, rep1.refillHead_eq]
  rw [e]

end Rep

lemma checked_refillSufficient (p : PlatformTimer) (sc : SchedContext) (usage) :
    Checked.refillSufficient p.toTimerConfig sc usage = .ok (sc.refillSufficient p.toTimerConfig usage) := by
  unfold Checked.refillSufficient Checked.refillCapacity SchedContext.refillSufficient SchedContext.refillCapacity
  rw [minBudget_ok, ok_bind]
  split
  · rfl
  · rename_i hle
    rw [sub_ok (Nat.le_of_not_lt hle)]
    rfl

namespace Serving

variable {p : PlatformTimer} {budget : Nat} {sc : SchedContext} {q : List Refill}

lemma checked_handleOverrun {h usage} (s : Serving p.toTimer budget sc (h :: q)) (husage : usage < 2 ^ 64) (fuel) :
    Checked.handleOverrun p.toTimerConfig fuel sc usage = SchedContext.handleOverrun p.toTimerConfig fuel sc usage := by
  induction fuel generalizing sc h q usage with
  | zero => rfl
  | succ fuel ih =>
    have e : Checked.headRefillOverrun p.toTimerConfig sc usage = .ok (sc.headRefillOverrun p.toTimerConfig usage) := by
      unfold Checked.headRefillOverrun SchedContext.headRefillOverrun
      rw [maxReleaseTime_ok]
      rfl
    unfold Checked.handleOverrun SchedContext.handleOverrun
    rw [e, ok_bind]
    split
    · rename_i hover
      simp only [SchedContext.headRefillOverrun, s.rep.refillHead_eq, Bool.and_eq_true, decide_eq_true_eq] at hover
      obtain ⟨sc1, h1, q1, e1, s1, -, -⟩ := s.chargeEntireHeadRefill hover.1 husage hover.2
      have e2 := s.rep.checked_chargeEntireHeadRefill hover.1 husage s.head_add_period_lt (by
        intro t ht
        have hm : t ∈ h :: q := by simp [List.mem_of_getLast? ht]
        exact ⟨s.endTime_lt hm, s.add_amount_lt hm (by simp)⟩)
      rw [e2, e1, ok_bind, ok_bind]
      exact ih s1 ((Nat.sub_le _ _).trans_lt husage)
    · rfl

lemma checked_chargeRemainingUsage {h usage} (s : Serving p.toTimer budget sc (h :: q))
    (hu : h.rTime < p.maxReleaseTime → usage < h.rAmount) :
    Checked.chargeRemainingUsage p.toTimerConfig sc usage = sc.chargeRemainingUsage p.toTimerConfig usage := by
  unfold Checked.chargeRemainingUsage SchedContext.chargeRemainingUsage
  rw [maxReleaseTime_ok, ok_bind]
  split
  · rename_i hpart
    rw [s.rep.refillHead_eq] at hpart
    apply s.rep.checked_chargePartialHeadRefill (hu hpart.2) _ s.head_add_period_lt
    intro r hr
    have hlt := hu hpart.2
    have : r.rAmount + h.rAmount < 2 ^ 64 := s.add_amount_lt hr (by simp)
    exact ⟨s.endTime_lt hr, by omega⟩
  · rfl

lemma checked_mergeInsufficient {h} (s : Serving p.toTimer budget sc (h :: q)) (ht : Timely p.toTimer (h :: q)) (fuel) :
    Checked.mergeInsufficient p.toTimerConfig fuel sc = SchedContext.mergeInsufficient p.toTimerConfig fuel sc := by
  induction fuel generalizing sc h q with
  | zero => rfl
  | succ fuel ih =>
    unfold Checked.mergeInsufficient SchedContext.mergeInsufficient
    rw [minBudget_ok, ok_bind]
    simp only [headRefillInsufficient, decide_eq_true_eq]
    split
    · rename_i hins
      rw [s.rep.refillHead_eq] at hins
      obtain ⟨n, q', rfl⟩ := s.exists_next hins
      obtain ⟨sc1, e1, s1, t1, -⟩ := s.mergeNonoverlappingHeadRefill ht hins
      have hend : Server.endTime h ≤ n.rTime := (List.isChain_cons_cons.mp s.valid.ordered).1
      have e2 := s.rep.checked_mergeNonoverlappingHeadRefill (s.add_amount_lt (by simp) (by simp))
        ((Nat.le_add_left _ _).trans hend)
        (lt_of_le_of_lt (Nat.le_add_right _ _) (s.endTime_lt (r := n) (by simp)))
      rw [e2, e1, ok_bind, ok_bind]
      exact ih s1 t1
    · rfl

end Serving

namespace Settled

variable {p : PlatformTimer} {budget : Nat} {sc : SchedContext} {q : List Refill}

lemma checked_refillBudgetCheck {h usage} (s : Settled p.toTimer budget sc (h :: q)) (husage : usage < 2 ^ 64) :
    Checked.refillBudgetCheck p.toTimerConfig sc usage = sc.refillBudgetCheck p.toTimerConfig usage := by
  obtain ⟨u1, sc1, h1, q1, e1, s1, t1, -, hd1, -⟩ :=
    s.toServing.handleOverrun s.timely husage (Nat.lt_succ_self usage)
  have e2 := s.toServing.checked_handleOverrun husage (usage + 1)
  have e3 := s1.checked_chargeRemainingUsage hd1
  unfold Checked.refillBudgetCheck SchedContext.refillBudgetCheck
  rw [assert_ok (by simp [s.not_isRoundRobin]), ok_bind, ok_bind, e2, e1, ok_bind, ok_bind]
  dsimp only
  rw [e3]
  obtain ⟨sc2, h2, q2, e4, s2, t2, -⟩ := s1.chargeRemainingUsage t1 hd1
  rw [e4, ok_bind, ok_bind]
  exact s2.checked_mergeInsufficient t2 _

end Settled

/-- The loop of `refill_unblock_check`. -/
lemma checked_mergeOverlapping {period budget} (fuel) {sc : SchedContext} {h q} (rep : Rep sc (h :: q))
    (u : Server.Unblocking period budget h q) (hend : h.rTime + budget < 2 ^ 64) :
    Checked.mergeOverlapping fuel sc = SchedContext.mergeOverlapping fuel sc := by
  have hsum := u.sum
  rw [Server.total_cons] at hsum
  induction fuel generalizing sc h q with
  | zero => rfl
  | succ fuel ih =>
    have hh : Server.endTime h < 2 ^ 64 := by
      unfold Server.endTime
      omega
    unfold Checked.mergeOverlapping SchedContext.mergeOverlapping
    rw [rep.checked_refillHeadOverlapping hh, ok_bind]
    split
    · rename_i hov
      obtain ⟨h, n, q, ⟨⟩, hle⟩ := rep.exists_overlapping (by rintro x ⟨⟩; exact hh) hov
      have hadd : n.rAmount + h.rAmount < 2 ^ 64 := by
        rw [Server.total_cons] at hsum
        omega
      obtain ⟨sc1, e1, rep1, -⟩ := rep.mergeOverlappingHeadRefill hadd
      rw [rep.checked_mergeOverlappingHeadRefill hadd, e1, ok_bind, ok_bind]
      exact ih rep1 u.merge hend (by simpa using u.merge.sum)
    · rfl

lemma Settled.checked_refillUnblockCheck {p : PlatformTimer} {budget sc h q now}
    (s : Settled p.toTimer budget sc (h :: q)) (hnow : now < p.maxReleaseTime) :
    Checked.refillUnblockCheck p.toTimerConfig now sc = sc.refillUnblockCheck p.toTimerConfig now := by
  unfold Checked.refillUnblockCheck SchedContext.refillUnblockCheck
  rw [s.not_isRoundRobin, if_neg Bool.false_ne_true, if_neg Bool.false_ne_true]
  split
  · rename_i hready
    simp only [refillReady, s.rep.refillHead_eq, decide_eq_true_eq] at hready
    have h1 := p.maxReleaseTime_add
    have h2 := s.budget_lt
    have h3 := s.period_le
    unfold uint64Max at h1
    rw [s.rep.refillHead_eq]
    dsimp only
    have e := checked_mergeOverlapping (sc.setRefillHead { h with rTime := now }).refillSize (s.rep.setRefillHead _)
      (s.valid.unblocking hready) (by dsimp only; omega)
    rw [e]
    cases SchedContext.mergeOverlapping (sc.setRefillHead { h with rTime := now }).refillSize
      (sc.setRefillHead { h with rTime := now }) with
    | error => rfl
    | ok sc1 => rw [ok_bind, ok_bind, checked_refillSufficient, ok_bind]
  · rfl

section Configure

variable {p : PlatformTimer} {now : Nat} {sc : SchedContext}

lemma checked_refillNew (sc : SchedContext) {max budget period} (hm : 0 < max) (hlt : max < 2 ^ 64) :
    Checked.refillNew p.toTimerConfig now sc max budget period =
    sc.refillNew p.toTimerConfig now max budget period := by
  let sc0 := { sc with scPeriod := period, scRefillHead := 0, scRefillTail := 0, scRefillMax := max }
  have rep0 : Rep sc0 [sc0.refillHead] := Rep.single rfl rfl hm hlt
  have rep1 := rep0.setRefillHead { sc0.refillHead with rAmount := budget }
  have rep2 := rep1.setRefillHead
    { (sc0.setRefillHead { sc0.refillHead with rAmount := budget }).refillHead with rTime := now }
  unfold Checked.refillNew SchedContext.refillNew
  rw [minBudget_ok, ok_bind, rep2.checked_maybeAddEmptyTail]

lemma checked_refillUpdate {h q max budget period} (rep : Rep sc (h :: q)) (hm : 0 < max) (hlt : max < 2 ^ 64)
    (hbudget : budget < 2 ^ 64) (htime : h.rTime + period < 2 ^ 64) (hnow : now + period < 2 ^ 64) :
    Checked.refillUpdate now sc period budget max = sc.refillUpdate now period budget max := by
  obtain ⟨sc1, time, e, rep1, -, -, ht⟩ := rep.truncateToHead period now hm hlt
  have hadd : time + period < 2 ^ 64 := by
    rcases ht with rfl | rfl
    · exact hnow
    · exact htime
  unfold Checked.refillUpdate SchedContext.refillUpdate Checked.trimOrSchedule SchedContext.trimOrSchedule
  rw [e, rep1.refillHead_eq]
  dsimp only
  split
  · rw [(rep1.setRefillHead _).checked_maybeAddEmptyTail]
  · rename_i hlt'
    have hle : h.rAmount ≤ budget := by omega
    rw [sub_ok hle, sub64_eq hle hbudget, ok_bind, add_ok hadd, add64_eq hadd, ok_bind, rep1.checked_refillAddTail]

end Configure

namespace Active

variable {p : PlatformTimer} {max budget now : Nat} {sc : SchedContext}

lemma checked_refillBudgetCheck {usage} (a : Active p.toTimer max budget now sc) (hr : sc.isRoundRobin = false)
    (husage : usage < 2 ^ 64) :
    Checked.refillBudgetCheck p.toTimerConfig sc usage = sc.refillBudgetCheck p.toTimerConfig usage := by
  rcases a.kind with ⟨h, q, s⟩ | ⟨h, t, r⟩
  · exact s.checked_refillBudgetCheck husage
  · rw [r.isRoundRobin] at hr
    cases hr

lemma checked_refillUnblockCheck (a : Active p.toTimer max budget now sc) (hnow : now < p.maxReleaseTime) :
    Checked.refillUnblockCheck p.toTimerConfig now sc = sc.refillUnblockCheck p.toTimerConfig now := by
  rcases a.kind with ⟨h, q, s⟩ | ⟨h, t, r⟩
  · exact s.checked_refillUnblockCheck hnow
  · unfold Checked.refillUnblockCheck SchedContext.refillUnblockCheck
    rw [if_pos r.isRoundRobin, if_pos r.isRoundRobin]

lemma checked_chargeSlice {consumed} (a : Active p.toTimer max budget now sc) (hc : consumed < 2 ^ 64) :
    Checked.chargeSlice p.toTimerConfig sc consumed = sc.chargeSlice p.toTimerConfig consumed := by
  unfold Checked.chargeSlice SchedContext.chargeSlice
  split
  · rename_i hr
    rcases a.kind with ⟨h, q, s⟩ | ⟨h, t, r⟩
    · rw [s.not_isRoundRobin] at hr
      cases hr
    · have hsum := r.sum
      have hb := r.budget_le
      have hmax := p.eight_maxPeriodTicks_le
      unfold uint64Max at hmax
      have hadd : h.rAmount + t.rAmount < 2 ^ 64 := by omega
      have htail : sc.refillTail = t := Rep.refillTail_eq (q := [h]) r.rep
      rw [r.rep.checked_refillSize, ok_bind, r.rep.refillHead_eq, htail]
      simp only [add_ok hadd, add64_eq hadd, ok_bind]
  · rename_i hr
    exact a.checked_refillBudgetCheck (by simpa using hr) hc

/-- Charging a slice only moves amounts and times. -/
lemma chargeSlice_scConsumed {consumed sc'} (a : Active p.toTimer max budget now sc) (hc : consumed < 2 ^ 64)
    (e : sc.chargeSlice p.toTimerConfig consumed = .ok sc') : sc'.scConsumed = sc.scConsumed := by
  unfold SchedContext.chargeSlice at e
  rcases a.kind with ⟨h, q, s⟩ | ⟨h, t, r⟩
  · rw [s.not_isRoundRobin, if_neg Bool.false_ne_true] at e
    obtain ⟨sc1, h1, q1, e1, -, f, -⟩ := s.refillBudgetCheck hc
    obtain rfl := Except.ok.inj (e1.symm.trans e)
    exact f.scConsumed
  · rw [if_pos r.isRoundRobin] at e
    obtain ⟨-, -, e⟩ := bind_eq_ok.mp e
    obtain rfl := Except.ok.inj e
    rfl

/-- `chargeBudget`, when the time that is consumed can be added up. -/
lemma checked_chargeBudget {consumed} (a : Active p.toTimer max budget now sc)
    (hc : sc.scConsumed + consumed < 2 ^ 64) :
    Checked.chargeBudget p.toTimerConfig sc consumed = sc.chargeBudget p.toTimerConfig consumed := by
  have hlt : consumed < 2 ^ 64 := (Nat.le_add_left _ _).trans_lt hc
  unfold Checked.chargeBudget SchedContext.chargeBudget
  rw [a.checked_chargeSlice hlt]
  cases e : sc.chargeSlice p.toTimerConfig consumed with
  | error => rfl
  | ok sc1 =>
    rw [ok_bind, ok_bind, minBudget_ok, ok_bind, a.chargeSlice_scConsumed hlt e, add_ok hc, add64_eq hc]
    rfl

lemma checked_checkBudget {consumed} (a : Active p.toTimer max budget now sc) (hc : sc.scConsumed + consumed < 2 ^ 64)
    (expired) :
    Checked.checkBudget p.toTimerConfig now sc consumed expired =
      sc.checkBudget p.toTimerConfig now consumed expired := by
  unfold Checked.checkBudget SchedContext.checkBudget
  rw [checked_refillSufficient, ok_bind, a.checked_chargeBudget hc]

end Active

end NexsKernel
