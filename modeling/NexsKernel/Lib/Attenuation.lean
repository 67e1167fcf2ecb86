import Mathlib.Tactic

/-!
# Attenuation

A table maps places to values, and values are handed from place to place: copied, amended where they are, or
moved. `Attenuation` is the discipline under which that happens: an order in which no step goes up, values that
mean nothing, and values of which no copy is made.

`Flow A f f' origin` says of two tables that every value in `f'` is at most the value that `f` has at its origin,
and that what cannot be copied has an origin of its own. Flows compose, so what one step keeps, a run keeps.
-/

namespace NexsKernel

open Function (update update_self update_of_ne update_apply)

/-- `le a b`: from `a`, `b` can be made. -/
structure Attenuation (V : Type*) where
  le : V → V → Prop
  Empty : V → Prop
  Single : V → Prop
  refl : ∀ a, le a a
  trans : ∀ {a b c}, le a b → le b c → le a c
  single_of_le : ∀ {a b}, le a b → Single b → Single a
  not_empty : ∀ {a}, Single a → ¬ Empty a

/-- The values of `f'` come from those of `f`. -/
structure Flow {S V : Type*} (A : Attenuation V) (f f' : S → V) (origin : S → S) : Prop where
  le : ∀ s, ¬ A.Empty (f' s) → ¬ A.Empty (f (origin s)) ∧ A.le (f (origin s)) (f' s)
  single : ∀ s t, A.Single (f' s) → A.Single (f' t) → origin s = origin t → s = t

namespace Flow

variable {S V : Type*} {A : Attenuation V} {f f' f'' : S → V} {origin origin' : S → S}

lemma refl (f : S → V) : Flow A f f id where
  le _ h := ⟨h, A.refl _⟩
  single _ _ _ _ h := h

lemma trans (h : Flow A f f' origin) (h' : Flow A f' f'' origin') : Flow A f f'' (origin ∘ origin') where
  le s hs := by
    obtain ⟨hs', le'⟩ := h'.le s hs
    obtain ⟨hs0, le⟩ := h.le _ hs'
    exact ⟨hs0, A.trans le le'⟩
  single s t hs ht e := by
    have single_of : ∀ s, A.Single (f'' s) → A.Single (f' (origin' s)) := fun s hs =>
      A.single_of_le (h'.le s (A.not_empty hs)).2 hs
    exact h'.single s t hs ht (h.single _ _ (single_of s hs) (single_of t ht) e)

/-- An origin only matters where there is something. -/
lemma congr (h : Flow A f f' origin) (e : ∀ s, ¬ A.Empty (f' s) → origin' s = origin s) : Flow A f f' origin' where
  le s hs := by
    rw [e s hs]
    exact h.le s hs
  single s t hs ht := by
    rw [e s (A.not_empty hs), e t (A.not_empty ht)]
    exact h.single s t hs ht

/-- Moving values around. -/
lemma permute (f : S → V) (σ : Equiv.Perm S) : Flow A f (f ∘ σ) σ where
  le _ h := ⟨h, A.refl _⟩
  single _ _ _ _ e := σ.injective e

variable [DecidableEq S]

/-- A value is amended where it is. -/
lemma amend {s : S} {v : V} (hs : ¬ A.Empty (f s)) (h : A.le (f s) v) : Flow A f (update f s v) id where
  le t ht := by
    rw [update_apply] at ht ⊢
    split at ht
    · rename_i e
      rw [if_pos e, e]
      exact ⟨hs, h⟩
    · rename_i e
      rw [if_neg e]
      exact ⟨ht, A.refl _⟩
  single _ _ _ _ e := e

/-- What is not single is copied to another place. -/
lemma copy {src dest : S} {v : V} (hs : ¬ A.Empty (f src)) (h : A.le (f src) v) (hv : ¬ A.Single v) :
    Flow A f (update f dest v) (update id dest src) where
  le t ht := by
    by_cases e : t = dest
    · subst e
      rw [update_self, update_self]
      exact ⟨hs, h⟩
    · rw [update_of_ne e] at ht
      rw [update_of_ne e, update_of_ne e]
      exact ⟨ht, A.refl _⟩
  single s t hs ht e := by
    have ne_dest : ∀ s, A.Single (update f dest v s) → s ≠ dest := by
      rintro s hs rfl
      rw [update_self] at hs
      exact hv hs
    rwa [update_of_ne (ne_dest s hs), update_of_ne (ne_dest t ht)] at e

/-- A value is moved to a place where there is nothing, and amended there. -/
lemma move {src dest : S} {v : V} (hs : ¬ A.Empty (f src)) (hd : A.Empty (f dest)) (h : A.le (f src) v) :
    Flow A f (update (f ∘ Equiv.swap src dest) dest v) (update id dest src) := by
  have hdest : (f ∘ Equiv.swap src dest) dest = f src := by
    rw [Function.comp_apply, Equiv.swap_apply_right]
  have amended : Flow A (f ∘ Equiv.swap src dest) (update (f ∘ Equiv.swap src dest) dest v) id := by
    refine .amend ?_ ?_
    · rwa [hdest]
    · rwa [hdest]
  refine ((Flow.permute f (Equiv.swap src dest)).trans amended).congr fun t ht => ?_
  by_cases e : t = dest
  · subst e
    rw [update_self]
    exact (Equiv.swap_apply_right _ _).symm
  · rw [update_of_ne e] at ht ⊢
    refine (Equiv.swap_apply_of_ne_of_ne (fun e' => ht ?_) e).symm
    rwa [Function.comp_apply, e', Equiv.swap_apply_left]

end Flow

end NexsKernel
