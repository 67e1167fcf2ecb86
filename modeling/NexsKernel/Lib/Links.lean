import Mathlib.Tactic
import Mathlib.Data.Rat.Defs
import Mathlib.Algebra.Order.Ring.Rat
import Mathlib.Logic.Equiv.Basic

/-!
# Doubly linked lists

A family of doubly linked lists over the nodes of a type is a successor function and a predecessor
function that are inverse to each other and free of cycles. Each list operation is a change of these
functions: a node is inserted behind another one, removed, or the nodes are renamed.

`Run next P a b` says that `b` is reached from `a` by following successors through nodes that satisfy
`P`. A statement about a contiguous part of a list is a `Run`, and the lemmas say when a `Run` survives
an operation.
-/

namespace NexsKernel.Links

open Function (update update_self update_of_ne)

variable {α : Type*} {next prev : α → Option α} {P P' : α → Prop} {a b n p : α}

/-- Successor and predecessor are inverse, and some order of the nodes explains the successors. -/
structure Coherent (next prev : α → Option α) : Prop where
  next_iff : ∀ a b, next a = some b ↔ prev b = some a
  ranked : ∃ rank : α → ℚ, ∀ a b, next a = some b → rank a < rank b

/-- `b` comes after `a`, and it and all nodes between them satisfy `P`. -/
inductive Run (next : α → Option α) (P : α → Prop) : α → α → Prop where
  | single {a b : α} : next a = some b → P b → Run next P a b
  | snoc {a b c : α} : Run next P a b → next b = some c → P c → Run next P a c

/-- `b` comes after `a` in the same list. -/
def Before (next : α → Option α) : α → α → Prop :=
  Run next fun _ => True

/-- The successors when `n` is inserted behind `p`. -/
def insertAfter [DecidableEq α] (next : α → Option α) (p n : α) : α → Option α :=
  update (update next n (next p)) p (some n)

/-- The predecessors when `n` is inserted behind `p`, which has the successor `q`. -/
def insertBefore [DecidableEq α] (prev : α → Option α) (p n : α) (q : Option α) (a : α) : Option α :=
  if a = n then some p else if q = some a then some n else prev a

/-- The successors, or the predecessors, without `n`. -/
def remove [DecidableEq α] (next : α → Option α) (n a : α) : Option α :=
  if a = n then none else if next a = some n then next n else next a

/-- The successors, or the predecessors, after renaming the nodes. -/
def relabel (σ : Equiv.Perm α) (next : α → Option α) (a : α) : Option α :=
  (next (σ.symm a)).map σ

namespace Coherent

lemma inj (c : Coherent next prev) {x y} (hx : next x = some b) (hy : next y = some b) : x = y := by
  rw [c.next_iff] at hx hy
  exact Option.some.inj (hx.symm.trans hy)

lemma ne_next (c : Coherent next prev) : next a ≠ some a := by
  intro h
  obtain ⟨rank, hr⟩ := c.ranked
  exact lt_irrefl _ (hr a a h)

/-- The same lists read backwards. -/
lemma symm (c : Coherent next prev) : Coherent prev next := by
  refine ⟨fun a b => (c.next_iff b a).symm, ?_⟩
  obtain ⟨rank, hr⟩ := c.ranked
  exact ⟨fun x => -rank x, fun a b h => neg_lt_neg (hr b a ((c.next_iff b a).mpr h))⟩

/-- A node never comes after itself. -/
lemma ne_of_run (c : Coherent next prev) (r : Run next P a b) : a ≠ b := by
  obtain ⟨rank, hr⟩ := c.ranked
  have hlt : rank a < rank b := by
    induction r with
    | single h => exact hr _ _ h
    | snoc _ h _ ih => exact ih.trans (hr _ _ h)
  intro e
  rw [e] at hlt
  exact lt_irrefl _ hlt

/-- A run does not come back to its start. -/
lemma run_ne (c : Coherent next prev) (r : Run next P a b) : Run next (fun x => x ≠ a ∧ P x) a b := by
  induction r with
  | single h hb =>
    have r : Run next P a _ := .single h hb
    exact .single h ⟨(c.ne_of_run r).symm, hb⟩
  | snoc r h hb ih => exact ih.snoc h ⟨(c.ne_of_run (r.snoc h hb)).symm, hb⟩

/-- The lists have no cycles. -/
lemma not_before_self (c : Coherent next prev) : ¬ Before next a a :=
  fun r => c.ne_of_run r rfl

end Coherent

namespace Run

lemma trans {c} (r : Run next P a b) (r' : Run next P b c) : Run next P a c := by
  induction r' with
  | single h hc => exact r.snoc h hc
  | snoc _ h hc ih => exact ih.snoc h hc

/-- A run whose steps are runs in other lists, after renaming the nodes. -/
lemma lift {β : Type*} {next' : β → Option β} {Q : β → Prop} (f : α → β)
    (h : ∀ x y, next x = some y → P y → Run next' Q (f x) (f y)) (r : Run next P a b) :
    Run next' Q (f a) (f b) := by
  induction r with
  | single hs hb => exact h _ _ hs hb
  | snoc _ hs hc ih => exact ih.trans (h _ _ hs hc)

lemma mono (h : ∀ x, P x → P' x) (r : Run next P a b) : Run next P' a b := by
  induction r with
  | single hs hb => exact .single hs (h _ hb)
  | snoc _ hs hc ih => exact ih.snoc hs (h _ hc)

/-- The last node satisfies the property. -/
lemma last (r : Run next P a b) : P b := by
  cases r with
  | single _ h => exact h
  | snoc _ _ h => exact h

/-- The first step of a run. -/
lemma first (r : Run next P a b) : ∃ c, next a = some c ∧ P c := by
  induction r with
  | single hs h => exact ⟨_, hs, h⟩
  | snoc _ _ _ ih => exact ih

/-- The last step of a run. -/
lemma pred (r : Run next P a b) : ∃ c, next c = some b ∧ (c = a ∨ P c) := by
  cases r with
  | single hs _ => exact ⟨a, hs, .inl rfl⟩
  | snoc r hs _ => exact ⟨_, hs, .inr r.last⟩

end Run

section Insert

variable [DecidableEq α]

lemma insertAfter_self : insertAfter next p n p = some n := by
  simp [insertAfter]

lemma insertAfter_new (h : n ≠ p) : insertAfter next p n n = next p := by
  simp [insertAfter, h]

lemma insertAfter_of_ne (h : a ≠ p) (h' : a ≠ n) : insertAfter next p n a = next a := by
  simp [insertAfter, h, h']

/-- Inserting an isolated node keeps the lists. -/
lemma Coherent.insertAfter (c : Coherent next prev) (hne : n ≠ p) (hn : next n = none)
    (hp : prev n = none) :
    Coherent (Links.insertAfter next p n) (insertBefore prev p n (next p)) := by
  have hno : ∀ x, next x ≠ some n := by
    intro x h
    rw [c.next_iff, hp] at h
    cases h
  refine ⟨fun x y => ?_, ?_⟩
  · unfold insertBefore
    by_cases hxp : x = p
    · subst hxp
      rw [insertAfter_self]
      split
      · rename_i e
        simp [e]
      · rename_i hy
        split
        · simp [Ne.symm hy, hne]
        · rename_i hq
          rw [← c.next_iff]
          simp [Ne.symm hy, hq]
    by_cases hxn : x = n
    · subst hxn
      rw [insertAfter_new hne]
      split
      · rename_i e
        simp [hno, Ne.symm hne, e]
      · split
        · simp_all
        · rename_i hq
          rw [← c.next_iff, hn]
          simp [hq]
    · rw [insertAfter_of_ne hxp hxn]
      split
      · rename_i e
        simp [e, hno, Ne.symm hxp]
      · split
        · rename_i hq
          simp only [Option.some.injEq, Ne.symm hxn, iff_false]
          intro h
          exact hxp (c.inj h hq)
        · exact c.next_iff x y
  · obtain ⟨rank, hr⟩ := c.ranked
    -- the new node gets a rank between its neighbours
    obtain ⟨r, hr1, hr2⟩ : ∃ r : ℚ, rank p < r ∧ ∀ q, next p = some q → r < rank q := by
      cases hq : next p with
      | none => exact ⟨rank p + 1, by linarith, nofun⟩
      | some q =>
        obtain ⟨r, h1, h2⟩ := exists_between (hr p q hq)
        exact ⟨r, h1, fun q' e => by cases e; exact h2⟩
    refine ⟨update rank n r, fun x y h => ?_⟩
    by_cases hxp : x = p
    · subst hxp
      rw [insertAfter_self] at h
      cases h
      rw [update_self, update_of_ne hne.symm]
      exact hr1
    by_cases hxn : x = n
    · subst hxn
      rw [insertAfter_new hne] at h
      have hy : y ≠ x := by
        rintro rfl
        exact hno p h
      rw [update_self, update_of_ne hy]
      exact hr2 y h
    · rw [insertAfter_of_ne hxp hxn] at h
      have hy : y ≠ n := by
        rintro rfl
        exact hno x h
      rw [update_of_ne hxn, update_of_ne hy]
      exact hr x y h

/-- A run survives an insertion if the new node fits into it. -/
lemma Run.insertAfter (hn : next n = none) (hP : ∀ x, P x → P' x) (hnew : a = p ∨ P p → P' n)
    (r : Run next P a b) : Run (Links.insertAfter next p n) P' a b := by
  -- a step from `p` now takes the detour over the new node
  have hstep : ∀ {x y}, next x = some y → P y → (x = p → P' n) →
      Run (Links.insertAfter next p n) P' x y := by
    intro x y h hy hx
    have hxn : x ≠ n := by
      rintro rfl
      rw [hn] at h
      cases h
    by_cases hxp : x = p
    · subst hxp
      exact (Run.single insertAfter_self (hx rfl)).snoc ((insertAfter_new hxn.symm).trans h) (hP y hy)
    · exact Run.single ((insertAfter_of_ne hxp hxn).trans h) (hP y hy)
  induction r with
  | single h hb => exact hstep h hb fun e => hnew (.inl e)
  | snoc r h hc ih => exact ih.trans (hstep h hc fun e => hnew (.inr (e ▸ r.last)))

/-- The part of a run behind an insertion starts at the new node, too. -/
lemma Run.insertAfter_new (c : Coherent next prev) (hne : n ≠ p) (hn : next n = none)
    (hP : ∀ x, P x → P' x) (r : Run next P p b) : Run (Links.insertAfter next p n) P' n b := by
  induction r with
  | single h hb => exact .single ((Links.insertAfter_new hne).trans h) (hP _ hb)
  | @snoc x y r h hy ih =>
    have hxn : x ≠ n := by
      rintro rfl
      rw [hn] at h
      cases h
    exact ih.snoc ((insertAfter_of_ne (c.ne_of_run r).symm hxn).trans h) (hP _ hy)

end Insert

section Remove

variable [DecidableEq α]

lemma remove_self : remove next n n = none := by
  simp [remove]

lemma remove_of_ne (h : a ≠ n) (h' : next a ≠ some n) : remove next n a = next a := by
  simp [remove, h, h']

lemma remove_pred (h : a ≠ n) (h' : next a = some n) : remove next n a = next n := by
  simp [remove, h, h']

/-- Removing a node that was just inserted. -/
lemma remove_insertAfter (hne : n ≠ p) (hn : next n = none) (hno : ∀ x, next x ≠ some n) :
    remove (insertAfter next p n) n = next := by
  funext x
  unfold remove
  by_cases hxn : x = n
  · subst hxn
    simp [hn]
  by_cases hxp : x = p
  · subst hxp
    simp [hxn, insertAfter_self, insertAfter_new hne]
  · simp [hxn, insertAfter_of_ne hxp hxn, hno]

private lemma remove_iff (c : Coherent next prev) {x y} :
    remove next n x = some y → remove prev n y = some x := by
  intro h
  unfold remove at h
  split at h
  · cases h
  · rename_i hxn
    split at h
    · rename_i hx
      have hyn : y ≠ n := by
        rintro rfl
        exact c.ne_next h
      rw [remove_pred hyn ((c.next_iff _ _).mp h)]
      exact (c.next_iff _ _).mp hx
    · rename_i hx
      have hyn : y ≠ n := by
        rintro rfl
        exact hx h
      rw [remove_of_ne hyn]
      · exact (c.next_iff _ _).mp h
      · rw [(c.next_iff _ _).mp h]
        simpa using hxn

/-- Removing a node keeps the lists. -/
lemma Coherent.remove (c : Coherent next prev) : Coherent (remove next n) (remove prev n) := by
  refine ⟨fun x y => ⟨remove_iff c, remove_iff c.symm⟩, ?_⟩
  obtain ⟨rank, hr⟩ := c.ranked
  refine ⟨rank, fun x y h => ?_⟩
  unfold Links.remove at h
  split at h
  · cases h
  · split at h
    · rename_i hx
      exact (hr _ _ hx).trans (hr _ _ h)
    · exact hr _ _ h

/-- A run survives the removal of a node other than its ends. What `P` said about the removed node may
be used for its successor. -/
lemma Run.remove (c : Coherent next prev) (ha : a ≠ n) (hb : b ≠ n)
    (hP : ∀ x, x ≠ n → P x → (next n = some x → P n) → P' x) (r : Run next P a b) :
    Run (Links.remove next n) P' a b := by
  -- when the run has reached the removed node, remember the node before it
  suffices h : (b ≠ n → Run (Links.remove next n) P' a b) ∧
      (b = n → P n ∧ ∃ x, x ≠ n ∧ next x = some n ∧ (x = a ∨ Run (Links.remove next n) P' a x)) from
    h.1 hb
  clear hb
  induction r with
  | @single y h hy' =>
    refine ⟨fun hy => ?_, fun hy => ?_⟩
    · refine .single ?_ (hP y hy hy' fun hn => absurd (c.inj h hn) ha)
      rw [remove_of_ne ha, h]
      rw [h]
      simpa using hy
    · subst hy
      exact ⟨hy', a, ha, h, .inl rfl⟩
  | @snoc x y r h hy' ih =>
    by_cases hx : x = n
    · subst hx
      obtain ⟨hPx, z, hz, hzx, hr⟩ := ih.2 rfl
      have hyx : y ≠ x := by
        rintro rfl
        exact c.ne_next h
      refine ⟨fun _ => ?_, fun e => absurd e hyx⟩
      have hstep : Links.remove next x z = some y := by
        rw [remove_pred hz hzx]
        exact h
      have hPy := hP y hyx hy' fun _ => hPx
      rcases hr with rfl | hr
      · exact .single hstep hPy
      · exact hr.snoc hstep hPy
    · have hr := ih.1 hx
      refine ⟨fun hy => ?_, fun hy => ?_⟩
      · refine hr.snoc ?_ (hP y hy hy' fun hn => absurd (c.inj h hn) hx)
        rw [remove_of_ne hx, h]
        rw [h]
        simpa using hy
      · subst hy
        exact ⟨hy', x, hx, h, .inr hr⟩

/-- Removing a node keeps the order of all other nodes. -/
lemma before_remove_iff (c : Coherent next prev) (ha : a ≠ n) (hb : b ≠ n) :
    Before (remove next n) a b ↔ Before next a b := by
  refine ⟨fun r => ?_, fun r => r.remove c ha hb fun _ _ _ _ => trivial⟩
  refine r.lift id fun x y h _ => ?_
  unfold remove at h
  split at h
  · cases h
  · split at h
    · rename_i hx
      exact (Run.single hx trivial).snoc h trivial
    · exact Run.single h trivial

/-- Inserting a node keeps the order of all other nodes. -/
lemma before_insertAfter_iff (c : Coherent next prev) (hne : n ≠ p) (hn : next n = none)
    (hp : prev n = none) (ha : a ≠ n) (hb : b ≠ n) :
    Before (insertAfter next p n) a b ↔ Before next a b := by
  have hno : ∀ x, next x ≠ some n := by
    intro x h
    rw [c.next_iff, hp] at h
    cases h
  have h := before_remove_iff (c.insertAfter hne hn hp) ha hb
  rw [remove_insertAfter hne hn hno] at h
  exact h.symm

end Remove

section Relabel

variable (σ : Equiv.Perm α)

lemma relabel_eq_some {x y} : relabel σ next x = some y ↔ next (σ.symm x) = some (σ.symm y) := by
  unfold relabel
  rw [Option.map_eq_some_iff]
  constructor
  · rintro ⟨z, hz, rfl⟩
    simpa using hz
  · intro h
    exact ⟨σ.symm y, h, by simp⟩

/-- Renaming the nodes keeps the lists. -/
lemma Coherent.relabel (c : Coherent next prev) : Coherent (relabel σ next) (relabel σ prev) := by
  refine ⟨fun x y => ?_, ?_⟩
  · rw [relabel_eq_some, relabel_eq_some]
    exact c.next_iff _ _
  · obtain ⟨rank, hr⟩ := c.ranked
    refine ⟨rank ∘ σ.symm, fun x y h => ?_⟩
    rw [relabel_eq_some] at h
    exact hr _ _ h

/-- A run is renamed together with its nodes. -/
lemma Run.relabel (hP : ∀ x, P x → P' (σ x)) (r : Run next P a b) :
    Run (relabel σ next) P' (σ a) (σ b) := by
  refine r.lift σ fun x y h hy => .single ?_ (hP y hy)
  rw [relabel_eq_some]
  simpa using h

/-- The successors after two nodes have changed places, neighbours or not. -/
lemma eq_relabel_swap [DecidableEq α] (c : Coherent next prev) {s t : α} {next' : α → Option α}
    (hs : next' s = if prev s = some t then some t else next t)
    (ht : next' t = if next s = some t then some s else next s)
    (h : ∀ a, a ≠ s → a ≠ t →
      next' a = if prev t = some a then some s else if prev s = some a then some t else next a) :
    next' = relabel (Equiv.swap s t) next := by
  have hns : next s ≠ some s := c.ne_next
  have hnt : next t ≠ some t := c.ne_next
  have hi := c.next_iff
  funext a
  unfold relabel
  rw [Equiv.symm_swap]
  by_cases has : a = s
  · subst has
    rw [hs, Equiv.swap_apply_left]
    cases hn : next t with
    | none => grind
    | some x => grind
  by_cases hat : a = t
  · subst hat
    rw [ht, Equiv.swap_apply_right]
    cases hn : next s with
    | none => grind
    | some x => grind
  · rw [h a has hat, Equiv.swap_apply_of_ne_of_ne has hat]
    simp only [← hi]
    cases hn : next a with
    | none => rfl
    | some x =>
      simp only [Option.some.injEq, Option.map_some]
      split
      · rename_i e
        rw [e, Equiv.swap_apply_right]
      · rename_i hxt
        split
        · rename_i e
          rw [e, Equiv.swap_apply_left]
        · rename_i hxs
          rw [Equiv.swap_apply_of_ne_of_ne hxs hxt]

/-- Renaming keeps the order. -/
lemma before_relabel_iff : Before (relabel σ next) (σ a) (σ b) ↔ Before next a b := by
  refine ⟨fun r => ?_, fun r => r.relabel σ fun _ _ => trivial⟩
  have h : Before (Links.relabel σ.symm (Links.relabel σ next)) (σ.symm (σ a)) (σ.symm (σ b)) :=
    r.relabel σ.symm fun _ _ => trivial
  have e : Links.relabel σ.symm (Links.relabel σ next) = next := by
    funext x
    simp [Links.relabel, Function.comp_def]
  rw [e] at h
  simpa using h

end Relabel

end NexsKernel.Links
