import NexsKernel.Sporadic.Refill

/-!
# The sporadic server on lists

What the refill queue is for, without the circular buffer: a sporadic server is the list of its refills
from the head to the tail, and each operation of `sporadic.c` is a function on that list. Times are
plain natural numbers here; that none of the additions of the code wraps is part of the refinement in
`NexsKernel.Sporadic.Refinement`.

`Server.Valid` is the invariant of a server with a period: the amounts are positive and add up to the
budget, no refill starts before its predecessor has ended, and the last refill starts at most one
period after the first.
-/

namespace NexsKernel.Server

/-- The time at which a refill is used up when it is consumed from its start. -/
def endTime (r : Refill) : Nat :=
  r.rTime + r.rAmount

/-- The sum of the amounts (`refill_sum`). -/
def total (q : List Refill) : Nat :=
  (q.map Refill.rAmount).sum

/-- Two neighbouring refills do not overlap (`refill_ordered`). -/
def Before (a b : Refill) : Prop :=
  endTime a ≤ b.rTime

/-- `schedule_used` on a queue of at most `max` refills. -/
def scheduleUsed (max : Nat) (q : List Refill) (new : Refill) : List Refill :=
  match q.getLast? with
  | none => [new]
  | some tail =>
    if endTime tail ≥ new.rTime then
      q.dropLast ++ [{ tail with rAmount := tail.rAmount + new.rAmount }]
    else if q.length ≠ max then
      q ++ [new]
    else
      q.dropLast ++ [{ rTime := new.rTime - tail.rAmount, rAmount := tail.rAmount + new.rAmount }]

/-- `charge_entire_head_refill`. -/
def chargeHead (period max : Nat) : List Refill → List Refill
  | [] => []
  | [head] => [{ head with rTime := head.rTime + period }]
  | head :: q => scheduleUsed max q { head with rTime := head.rTime + period }

/-- The partial charge in `refill_budget_check`. -/
def chargePart (period max usage : Nat) : List Refill → List Refill
  | [] => []
  | head :: q =>
    scheduleUsed max ({ rTime := head.rTime + usage, rAmount := head.rAmount - usage } :: q)
      { rTime := head.rTime + period, rAmount := usage }

/-- `merge_nonoverlapping_head_refill`. -/
def mergeNonoverlapping : List Refill → List Refill
  | head :: next :: q =>
    { rTime := next.rTime - head.rAmount, rAmount := next.rAmount + head.rAmount } :: q
  | q => q

/-- `merge_overlapping_head_refill`. -/
def mergeOverlapping : List Refill → List Refill
  | head :: next :: q => { rTime := head.rTime, rAmount := next.rAmount + head.rAmount } :: q
  | q => q

/-- The invariant of a server with a period. -/
structure Valid (period budget : Nat) (q : List Refill) : Prop where
  ne : q ≠ []
  pos : ∀ r ∈ q, 0 < r.rAmount
  ordered : q.IsChain Before
  sum : total q = budget
  window : ∀ h ∈ q.head?, ∀ t ∈ q.getLast?, t.rTime ≤ h.rTime + period

@[simp] lemma total_nil : total [] = 0 := rfl

@[simp] lemma total_cons (r q) : total (r :: q) = r.rAmount + total q := by
  simp [total]

@[simp] lemma total_append (p q) : total (p ++ q) = total p + total q := by
  simp [total]

lemma rAmount_le_total {r : Refill} {q} (h : r ∈ q) : r.rAmount ≤ total q :=
  List.le_sum_of_mem (List.mem_map_of_mem h)

instance : Trans Before Before Before where
  trans := by
    intro a b c hab hbc
    unfold Before endTime at *
    omega

/-- In an ordered queue the tail starts last. -/
lemma time_le_last {p : List Refill} {t r} (ord : (p ++ [t]).IsChain Before) (h : r ∈ p) :
    endTime r ≤ t.rTime := by
  have hp := List.isChain_iff_pairwise.mp ord
  exact (List.pairwise_append.mp hp).2.2 r h t (by simp)

/-- Every refill of a valid server starts within one period of the head. -/
lemma Valid.time_le {period budget h q} (v : Valid period budget (h :: q)) {r} (hr : r ∈ h :: q) :
    r.rTime ≤ h.rTime + period := by
  obtain ⟨p, t, e⟩ := (List.eq_nil_or_concat' (h :: q)).resolve_left (by simp)
  have hw := v.window h (by simp) t (by rw [e]; simp)
  have ho := v.ordered
  rw [e] at hr ho
  rcases List.mem_append.mp hr with hp | ht
  · have := time_le_last ho hp
    unfold endTime at this
    omega
  · rw [List.mem_singleton.mp ht]
    exact hw

/-- In an ordered queue a bound on the tail's time bounds all times. -/
lemma time_le_of_last {q : List Refill} {T} (ord : q.IsChain Before)
    (hl : ∀ t ∈ q.getLast?, t.rTime ≤ T) : ∀ r ∈ q, r.rTime ≤ T := by
  intro r hr
  obtain ⟨p, t, rfl⟩ := (List.eq_nil_or_concat' q).resolve_left (List.ne_nil_of_mem hr)
  have ht := hl t (by simp)
  rcases List.mem_append.mp hr with hp | hr
  · have := time_le_last ord hp
    unfold endTime at this
    omega
  · rw [List.mem_singleton.mp hr]
    exact ht

lemma Valid.amount_le {period budget q} (v : Valid period budget q) {r} (hr : r ∈ q) :
    r.rAmount ≤ budget :=
  v.sum ▸ rAmount_le_total hr

/-- `scheduleUsed` on a queue whose tail is written out. -/
lemma scheduleUsed_concat (max p t new) :
    scheduleUsed max (p ++ [t]) new =
      if endTime t ≥ new.rTime then p ++ [{ t with rAmount := t.rAmount + new.rAmount }]
      else if p.length + 1 ≠ max then p ++ [t, new]
      else p ++ [{ rTime := new.rTime - t.rAmount, rAmount := t.rAmount + new.rAmount }] := by
  simp [scheduleUsed]

/-- A queue that ends with `t`, and a refill that starts after every predecessor of `t`. -/
lemma isChain_replace_last {p : List Refill} {t t'} (ord : (p ++ [t]).IsChain Before)
    (h : t.rTime ≤ t'.rTime) : (p ++ [t']).IsChain Before := by
  rw [List.isChain_append] at ord ⊢
  refine ⟨ord.1, .singleton _, ?_⟩
  intro x hx y hy
  have := ord.2.2 x hx t (by simp)
  simp only [List.head?_cons, Option.mem_some_iff] at hy
  subst hy
  exact le_trans this h

/-- What `scheduleUsed` keeps: the first refill's time, the order and positivity of the queue. -/
structure Scheduled (q : List Refill) (new : Refill) (q' : List Refill) : Prop where
  head : ∀ h ∈ q.head?, ∃ h' ∈ q'.head?, h'.rTime = h.rTime ∧ h.rAmount ≤ h'.rAmount
  last : ∀ t ∈ q'.getLast?, t.rTime ≤ new.rTime
  pos : ∀ r ∈ q', 0 < r.rAmount
  ordered : q'.IsChain Before
  sum : total q' = total q + new.rAmount

/-- `scheduleUsed` adds a refill that starts no earlier than the tail. -/
lemma scheduleUsed_scheduled {max p t new} (hmax : 2 ≤ max) (ord : (p ++ [t]).IsChain Before)
    (pos : ∀ r ∈ p ++ [t], 0 < r.rAmount) (hnew : 0 < new.rAmount) (hle : t.rTime ≤ new.rTime) :
    Scheduled (p ++ [t]) new (scheduleUsed max (p ++ [t]) new) := by
  rw [scheduleUsed_concat]
  have ht : 0 < t.rAmount := pos t (by simp)
  have hp : ∀ r ∈ p, 0 < r.rAmount := fun r hr => pos r (by simp [hr])
  split
  · -- the new refill overlaps the tail and is merged into it
    refine ⟨?_, ?_, ?_, ?_, ?_⟩
    · intro h hh
      cases p with
      | nil =>
        simp only [List.nil_append, List.head?_cons, Option.mem_some_iff] at hh
        subst hh
        exact ⟨{ t with rAmount := t.rAmount + new.rAmount }, by simp, rfl, Nat.le_add_right _ _⟩
      | cons a p =>
        simp only [List.cons_append, List.head?_cons, Option.mem_some_iff] at hh
        subst hh
        exact ⟨_, by simp, rfl, le_rfl⟩
    · simp [hle]
    · intro r hr
      rcases List.mem_append.mp hr with h | h
      · exact hp r h
      · rw [List.mem_singleton.mp h]
        exact Nat.add_pos_left ht _
    · exact isChain_replace_last ord le_rfl
    · simp [Nat.add_assoc]
  · rename_i hgap
    split
    · -- there is room: the new refill becomes the tail
      rename_i hfull
      refine ⟨?_, ?_, ?_, ?_, ?_⟩
      · intro h hh
        refine ⟨h, ?_, rfl, le_rfl⟩
        cases p <;> simpa using hh
      · simp
      · intro r hr
        simp only [List.mem_append, List.mem_cons, List.not_mem_nil, or_false] at hr
        rcases hr with h | h | h
        · exact hp r h
        · exact h ▸ ht
        · exact h ▸ hnew
      · rw [show p ++ [t, new] = p ++ [t] ++ [new] by simp, List.isChain_append]
        refine ⟨ord, .singleton _, ?_⟩
        intro x hx y hy
        simp only [List.getLast?_append, List.getLast?_singleton, Option.some_or,
          Option.mem_some_iff, List.head?_cons] at hx hy
        subst hx hy
        unfold Before
        omega
      · simp [Nat.add_assoc]
    · -- the queue is full: the tail is delayed until it touches the new refill
      rename_i hfull
      have hlen : p.length + 1 = max := by omega
      unfold endTime at hgap
      refine ⟨?_, ?_, ?_, ?_, ?_⟩
      · intro h hh
        cases p with
        | nil => simp only [List.length_nil] at hlen; omega
        | cons a p =>
          simp only [List.cons_append, List.head?_cons, Option.mem_some_iff] at hh
          subst hh
          exact ⟨_, by simp, rfl, le_rfl⟩
      · simp
      · intro r hr
        rcases List.mem_append.mp hr with h | h
        · exact hp r h
        · rw [List.mem_singleton.mp h]
          exact Nat.add_pos_left ht _
      · apply isChain_replace_last ord
        show t.rTime ≤ new.rTime - t.rAmount
        omega
      · simp [Nat.add_assoc]

/-- A queue with a tail that is at most as late as a new refill. -/
lemma Valid.scheduleUsed {period budget max q new} (hmax : 2 ≤ max) (ne : q ≠ [])
    (ord : q.IsChain Before) (pos : ∀ r ∈ q, 0 < r.rAmount) (hnew : 0 < new.rAmount)
    (hsum : total q + new.rAmount = budget)
    (hlast : ∀ t ∈ q.getLast?, t.rTime ≤ new.rTime)
    (hhead : ∀ h ∈ q.head?, new.rTime ≤ h.rTime + period) :
    Valid period budget (scheduleUsed max q new) ∧ Scheduled q new (scheduleUsed max q new) := by
  obtain ⟨p, t, rfl⟩ := (List.eq_nil_or_concat' q).resolve_left ne
  have s := scheduleUsed_scheduled hmax ord pos hnew (hlast t (by simp))
  obtain ⟨h, hh⟩ : ∃ h, h ∈ (p ++ [t]).head? := by
    cases p with
    | nil => exact ⟨t, by simp⟩
    | cons a p => exact ⟨a, by simp⟩
  obtain ⟨h', hh', he, -⟩ := s.head h hh
  refine ⟨⟨?_, s.pos, s.ordered, s.sum.trans hsum, ?_⟩, s⟩
  · intro e
    simp [e] at hh'
  · intro x hx y hy
    have e : h' = x := Option.mem_unique hh' hx
    have h1 := s.last y hy
    have h2 := hhead h hh
    rw [← e, he]
    exact h1.trans h2

/-- Charging the whole head refill keeps the invariant and schedules nothing past one period. -/
lemma Valid.chargeHead {period budget max h q} (v : Valid period budget (h :: q)) (hmax : 2 ≤ max) :
    ∃ h' q', Server.chargeHead period max (h :: q) = h' :: q' ∧ Valid period budget (h' :: q') ∧
      ∀ r ∈ h' :: q', r.rTime ≤ h.rTime + period := by
  cases q with
  | nil =>
    refine ⟨{ h with rTime := h.rTime + period }, [], rfl, ?_, by simp⟩
    refine ⟨by simp, ?_, .singleton _, ?_, by simp⟩
    · simpa using v.pos h (by simp)
    · simpa using v.sum
  | cons n q =>
    have hhn : Before h n := (List.isChain_cons_cons.mp v.ordered).1
    have hsum := v.sum
    have hn := v.time_le (r := n) (by simp)
    obtain ⟨hv, hs⟩ := @Valid.scheduleUsed period budget max (n :: q)
      { h with rTime := h.rTime + period } hmax (by simp)
      (List.isChain_cons_cons.mp v.ordered).2 (fun r hr => v.pos r (by simp [hr]))
      (v.pos h (by simp)) (by simpa [Nat.add_comm] using hsum)
      (fun t ht => v.window h (by simp) t (by simpa using ht))
      (by
        intro x hx
        simp only [List.head?_cons, Option.mem_some_iff] at hx
        subst hx
        unfold Before endTime at hhn
        show h.rTime + period ≤ n.rTime + period
        omega)
    obtain ⟨h', hh', he, -⟩ := hs.head n (by simp)
    obtain ⟨q', hq'⟩ : ∃ q', Server.scheduleUsed max (n :: q) { h with rTime := h.rTime + period } =
        h' :: q' := by
      cases e : Server.scheduleUsed max (n :: q) { h with rTime := h.rTime + period } with
      | nil => rw [e] at hh'; simp at hh'
      | cons a q' =>
        rw [e] at hh'
        simp only [List.head?_cons, Option.mem_some_iff] at hh'
        exact ⟨q', by rw [hh']⟩
    refine ⟨h', q', hq', hq' ▸ hv, hq' ▸ time_le_of_last hs.ordered hs.last⟩

/-- Charging a part of the head refill keeps the invariant and schedules nothing past one period. -/
lemma Valid.chargePart {period budget max usage h q} (v : Valid period budget (h :: q))
    (hmax : 2 ≤ max) (hb : budget < period) (hu : 0 < usage)
    (hlt : usage < h.rAmount) :
    ∃ h' q', Server.chargePart period max usage (h :: q) = h' :: q' ∧
      Valid period budget (h' :: q') ∧ (∀ r ∈ h' :: q', r.rTime ≤ h.rTime + period) ∧
      h'.rTime = h.rTime + usage ∧ h.rAmount - usage ≤ h'.rAmount := by
  have hsum := v.sum
  have hamt := v.amount_le (r := h) (by simp)
  simp only [total_cons] at hsum
  obtain ⟨hv, hs⟩ := @Valid.scheduleUsed period budget max
    ({ rTime := h.rTime + usage, rAmount := h.rAmount - usage } :: q)
    { rTime := h.rTime + period, rAmount := usage } hmax (by simp)
    (by
      refine List.IsChain.imp_head ?_ v.ordered
      intro z hz
      unfold Before endTime at *
      show h.rTime + usage + (h.rAmount - usage) ≤ z.rTime
      omega)
    (by
      intro r hr
      rcases List.mem_cons.mp hr with e | hr
      · subst e
        exact Nat.sub_pos_of_lt hlt
      · exact v.pos r (by simp [hr]))
    hu
    (by
      simp only [total_cons]
      omega)
    (by
      intro t ht
      cases q with
      | nil =>
        simp only [List.getLast?_singleton, Option.mem_some_iff] at ht
        subst ht
        show h.rTime + usage ≤ h.rTime + period
        omega
      | cons n q => exact v.window h (by simp) t (by simpa using ht))
    (by
      intro x hx
      simp only [List.head?_cons, Option.mem_some_iff] at hx
      subst hx
      show h.rTime + period ≤ h.rTime + usage + period
      omega)
  obtain ⟨h', hh', he, ha⟩ :=
    hs.head { rTime := h.rTime + usage, rAmount := h.rAmount - usage } (by simp)
  have hdef : Server.chargePart period max usage (h :: q) = Server.scheduleUsed max
    ({ rTime := h.rTime + usage, rAmount := h.rAmount - usage } :: q)
    { rTime := h.rTime + period, rAmount := usage } := rfl
  rw [← hdef] at hv hs hh'
  cases e : Server.chargePart period max usage (h :: q) with
  | nil => rw [e] at hh'; simp at hh'
  | cons a q' =>
    rw [e] at hh' hv hs
    simp only [List.head?_cons, Option.mem_some_iff] at hh'
    subst hh'
    exact ⟨a, q', rfl, hv, time_le_of_last hs.ordered hs.last, he, ha⟩

/-- Merging an insufficient head with its successor keeps the invariant. -/
lemma Valid.mergeNonoverlapping {period budget h n q} (v : Valid period budget (h :: n :: q)) :
    Valid period budget
      ({ rTime := n.rTime - h.rAmount, rAmount := n.rAmount + h.rAmount } :: q) := by
  have hhn : Before h n := (List.isChain_cons_cons.mp v.ordered).1
  have hn := v.time_le (r := n) (by simp)
  have hsum := v.sum
  simp only [total_cons] at hsum
  unfold Before endTime at hhn
  refine ⟨by simp, ?_, ?_, ?_, ?_⟩
  · intro r hr
    rcases List.mem_cons.mp hr with e | hr
    · subst e
      exact Nat.add_pos_left (v.pos n (by simp)) _
    · exact v.pos r (by simp [hr])
  · refine List.IsChain.imp_head ?_ (List.isChain_cons_cons.mp v.ordered).2
    intro z hz
    unfold Before endTime at *
    show n.rTime - h.rAmount + (n.rAmount + h.rAmount) ≤ z.rTime
    omega
  · simp only [total_cons]
    omega
  · intro x hx t ht
    simp only [List.head?_cons, Option.mem_some_iff] at hx
    subst hx
    cases q with
    | nil =>
      simp only [List.getLast?_singleton, Option.mem_some_iff] at ht
      subst ht
      exact Nat.le_add_right _ _
    | cons m q =>
      have := v.window h (by simp) t (by simpa using ht)
      show t.rTime ≤ n.rTime - h.rAmount + period
      omega

/-- A valid server whose head may have been moved forward into its successors. -/
structure Unblocking (period budget : Nat) (h : Refill) (q : List Refill) : Prop where
  pos : ∀ r ∈ h :: q, 0 < r.rAmount
  ordered : q.IsChain Before
  sum : total (h :: q) = budget
  times : ∀ r ∈ q, r.rTime ≤ h.rTime + period

/-- Advancing the head's time to `now`. -/
lemma Valid.unblocking {period budget h q now} (v : Valid period budget (h :: q))
    (hnow : h.rTime ≤ now) : Unblocking period budget { h with rTime := now } q := by
  refine ⟨?_, v.ordered.tail, ?_, ?_⟩
  · intro r hr
    rcases List.mem_cons.mp hr with e | hr
    · subst e
      exact v.pos h (by simp)
    · exact v.pos r (by simp [hr])
  · simpa using v.sum
  · intro r hr
    have := v.time_le (r := r) (by simp [hr])
    show r.rTime ≤ now + period
    omega

/-- Merging an overlapping head with its successor. -/
lemma Unblocking.merge {period budget h n q} (u : Unblocking period budget h (n :: q)) :
    Unblocking period budget { rTime := h.rTime, rAmount := n.rAmount + h.rAmount } q := by
  refine ⟨?_, u.ordered.tail, ?_, fun r hr => u.times r (by simp [hr])⟩
  · intro r hr
    rcases List.mem_cons.mp hr with e | hr
    · subst e
      exact Nat.add_pos_left (u.pos n (by simp)) _
    · exact u.pos r (by simp [hr])
  · have := u.sum
    simp only [total_cons] at this ⊢
    omega

/-- Once the head no longer overlaps its successor the server is valid again. -/
lemma Unblocking.valid {period budget h q} (u : Unblocking period budget h q)
    (hd : ∀ n ∈ q.head?, endTime h ≤ n.rTime) : Valid period budget (h :: q) := by
  refine ⟨by simp, u.pos, List.isChain_cons.mpr ⟨hd, u.ordered⟩, u.sum, ?_⟩
  intro x hx t ht
  simp only [List.head?_cons, Option.mem_some_iff] at hx
  subst hx
  cases q with
  | nil =>
    simp only [List.getLast?_singleton, Option.mem_some_iff] at ht
    subst ht
    exact Nat.le_add_right _ _
  | cons n q => exact u.times t (List.mem_of_getLast? (by simpa using ht))

end NexsKernel.Server
