import Mathlib.Tactic

/-!
# Observing a run

A run of a labelled transition system with its history, the list of the states that it left and the labels by which
it left them. A part of the state that is looked at through `view` and that every step changes by a known `effect`,
up to a relation, is changed by a run as the effects of its history compose; if the effects are stores to a cell,
the cell holds what was stored last.
-/

namespace NexsKernel.Observed

variable {σ α β : Type*}

/-- The runs of a transition system. -/
inductive Run (step : σ → α → σ → Prop) : σ → List (σ × α) → σ → Prop
  | refl (s : σ) : Run step s [] s
  | tail {s t u : σ} {h : List (σ × α)} {a : α} : Run step s h t → step t a u → Run step s (h ++ [(t, a)]) u

namespace Run

variable {step : σ → α → σ → Prop} {s t : σ} {h : List (σ × α)}

/-- What every step of a kind keeps, a run of such steps keeps. -/
lemma keeps {P : σ → Prop} {ok : σ × α → Prop} (hstep : ∀ {s a t}, P s → ok (s, a) → step s a t → P t)
    (r : Run step s h t) (hok : ∀ e ∈ h, ok e) (hs : P s) : P t := by
  induction r with
  | refl => exact hs
  | tail r st ih =>
    have ht := ih fun e he => hok e (List.mem_append_left _ he)
    exact hstep ht (hok _ (List.mem_append_right _ List.mem_cons_self)) st

/-- What is seen at the end of a run is what was seen at its start, with the effects of its steps. -/
lemma view {P : σ → Prop} {Q : σ × α → Prop} {f : σ → β} {effect : σ × α → β → β} {R : β → β → Prop}
    (hrefl : ∀ x, R x x) (htrans : ∀ {x y z}, R x y → R y z → R x z)
    (hmono : ∀ {e x y}, R x y → R (effect e x) (effect e y))
    (hP : ∀ {s a t}, P s → Q (s, a) → step s a t → P t)
    (hstep : ∀ {s a t}, P s → Q (s, a) → step s a t → R (f t) (effect (s, a) (f s)))
    (r : Run step s h t) (hok : ∀ e ∈ h, Q e) (hs : P s) :
    R (f t) (h.foldl (fun x e => effect e x) (f s)) := by
  induction r with
  | refl => exact hrefl _
  | tail r st ih =>
    have hok' := fun e he => hok e (List.mem_append_left _ he)
    have hlast := hok _ (List.mem_append_right _ List.mem_cons_self)
    rw [List.foldl_append]
    exact htrans (hstep (r.keeps hP hok' hs) hlast st) (hmono (ih hok'))

end Run

end NexsKernel.Observed
