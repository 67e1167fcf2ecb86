import Mathlib.Tactic

/-!
# Checks

Rules for `Except`, in which a computation stops at its first error: what a computation that has returned must have
passed.
-/

namespace NexsKernel.Checks

variable {ε α β : Type}

/-- The computation stops with `e` when `c` holds. -/
def failIf (c : Prop) [Decidable c] (e : ε) : Except ε Unit :=
  if c then .error e else .ok ()

/-- The value, or an error where there is none. -/
def orFail (o : Option α) (e : ε) : Except ε α :=
  match o with
  | some a => .ok a
  | none => .error e

/-- A sequence returns when both parts do. -/
lemma bind_ok {x : Except ε α} {f : α → Except ε β} {r : β} :
    (x >>= f) = .ok r ↔ ∃ a, x = .ok a ∧ f a = .ok r := by
  cases x with
  | error e => exact ⟨nofun, nofun⟩
  | ok a => exact ⟨fun h => ⟨a, rfl, h⟩, fun ⟨_, e, h⟩ => by cases e; exact h⟩

lemma pure_ok {a r : α} : (pure a : Except ε α) = .ok r ↔ a = r :=
  ⟨Except.ok.inj, congrArg _⟩

/-- What is behind a check has passed it. -/
lemma failIf_bind {c : Prop} [Decidable c] {e : ε} {f : Unit → Except ε β} {r : β} :
    (failIf c e >>= f) = .ok r ↔ ¬ c ∧ f () = .ok r := by
  unfold failIf
  by_cases h : c
  · rw [if_pos h]
    exact ⟨nofun, fun h' => absurd h h'.1⟩
  · rw [if_neg h]
    exact ⟨fun h' => ⟨h, h'⟩, fun h' => h'.2⟩

lemma failIf_ok {c : Prop} [Decidable c] {e : ε} {u : Unit} : failIf c e = .ok u ↔ ¬ c := by
  unfold failIf
  by_cases h : c <;> simp [h]

lemma orFail_ok {o : Option α} {e : ε} {a : α} : orFail o e = .ok a ↔ o = some a := by
  cases o <;> simp [orFail]

/-- What each step of a loop keeps, the loop keeps. -/
lemma foldlM_ok {P : β → Prop} {f : β → α → Except ε β} {xs : List α}
    (hf : ∀ x ∈ xs, ∀ b b', P b → f b x = .ok b' → P b') {b b' : β} (hb : P b) (h : xs.foldlM f b = .ok b') : P b' := by
  induction xs generalizing b with
  | nil =>
    obtain rfl := Except.ok.inj h
    exact hb
  | cons x xs ih =>
    rw [List.foldlM_cons] at h
    obtain ⟨b1, h1, h2⟩ := bind_ok.mp h
    exact ih (fun y hy => hf y (List.mem_cons_of_mem x hy)) (hf x List.mem_cons_self b b1 hb h1) h2

/-- What each step keeps of the elements so far and the value after them, holds of all of them and the result. -/
lemma foldlM_prefix {P : List α → β → Prop} {f : β → α → Except ε β}
    (hf : ∀ before x b b', P before b → f b x = .ok b' → P (before ++ [x]) b') {b b' : β} {xs : List α}
    (hb : P [] b) (h : xs.foldlM f b = .ok b') : P xs b' := by
  suffices hrun : ∀ {before b}, P before b → xs.foldlM f b = .ok b' → P (before ++ xs) b' from hrun hb h
  clear hb h
  induction xs with
  | nil =>
    intro before b hb h
    obtain rfl := Except.ok.inj h
    rwa [List.append_nil]
  | cons x xs ih =>
    intro before b hb h
    rw [List.foldlM_cons] at h
    obtain ⟨b1, h1, h2⟩ := bind_ok.mp h
    rw [List.append_cons]
    exact ih (hf before x b b1 hb h1) h2

lemma forM_ok {f : α → Except ε Unit} {xs : List α} : xs.forM f = .ok () ↔ ∀ x ∈ xs, f x = .ok () := by
  induction xs with
  | nil => exact ⟨fun _ _ => nofun, fun _ => rfl⟩
  | cons x xs ih =>
    rw [List.forM, bind_ok, List.forall_mem_cons]
    constructor
    · rintro ⟨⟨⟩, hx, hxs⟩
      exact ⟨hx, ih.mp hxs⟩
    · rintro ⟨hx, hxs⟩
      exact ⟨⟨⟩, hx, ih.mpr hxs⟩

lemma mapM_ok {f : α → Except ε β} {xs : List α} {ys : List β} :
    xs.mapM f = .ok ys ↔ List.Forall₂ (fun x y => f x = .ok y) xs ys := by
  induction xs generalizing ys with
  | nil =>
    rw [List.mapM_nil, pure_ok, List.forall₂_nil_left_iff, eq_comm]
  | cons x xs ih =>
    rw [List.mapM_cons, bind_ok, List.forall₂_cons_left_iff]
    constructor
    · rintro ⟨y, hy, h⟩
      obtain ⟨ys', hys, e⟩ := bind_ok.mp h
      exact ⟨y, ys', hy, ih.mp hys, (pure_ok.mp e).symm⟩
    · rintro ⟨y, ys', hy, hys, rfl⟩
      exact ⟨y, hy, bind_ok.mpr ⟨ys', ih.mpr hys, rfl⟩⟩

lemma mapM_ok_of {f : α → Except ε β} {g : α → β} {xs : List α} (h : ∀ x ∈ xs, f x = .ok (g x)) :
    xs.mapM f = .ok (xs.map g) :=
  mapM_ok.mpr (List.forall₂_map_right_iff.mpr (List.forall₂_same.mpr h))

/-! ## Lists that go together -/

variable {γ : Type} {R : α → β → Prop}

lemma exists_of_forall₂_left {xs : List α} {ys : List β} (h : List.Forall₂ R xs ys) {x : α} (hx : x ∈ xs) :
    ∃ y ∈ ys, R x y := by
  induction h with
  | nil => cases hx
  | cons hfirst _ ih =>
    rcases List.mem_cons.mp hx with rfl | hx
    · exact ⟨_, List.mem_cons_self, hfirst⟩
    · obtain ⟨y, hmem, hy⟩ := ih hx
      exact ⟨y, List.mem_cons_of_mem _ hmem, hy⟩

lemma exists_of_forall₂ {xs : List α} {ys : List β} (h : List.Forall₂ R xs ys) {y : β} (hy : y ∈ ys) :
    ∃ x ∈ xs, R x y :=
  exists_of_forall₂_left h.flip hy

/-- Two passes over a list are one. -/
lemma forall₂_comp {S : β → γ → Prop} {T : α → γ → Prop} {xs : List α} {ys : List β} {zs : List γ}
    (hRS : ∀ x y z, R x y → S y z → T x z) (hR : List.Forall₂ R xs ys) (hS : List.Forall₂ S ys zs) :
    List.Forall₂ T xs zs := by
  induction hR generalizing zs with
  | nil =>
    cases hS
    exact .nil
  | cons hx _ ih =>
    cases hS with
    | cons hy hys => exact .cons (hRS _ _ _ hx hy) (ih hys)

end NexsKernel.Checks
