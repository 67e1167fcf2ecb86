import Mathlib.Tactic

/-!
# Computations that fail

Rules for `EStateM`, in which a computation that fails leaves behind the state it has reached. `f` reads a part of
the state, and `P` is a kind of error. `Keeps f m` says that `m` leaves that part as it is, `Avoids P m` that `m`
does not fail in this way, and `FailsClean f P m` that `m` has left the part as it was when it fails so. `Moves R m` says
that `R` relates the states before and after `m`, if it succeeds.

A computation that first checks and then acts fails clean: the checks keep the part, and the action does not fail
(`FailsClean.bind`, `Avoids.failsClean`).
-/

namespace NexsKernel.Failing

variable {ε σ φ α β : Type} {f : σ → φ} {P : ε → Prop}

/-- The state in which a computation ends. -/
def finalState : EStateM.Result ε σ α → σ
  | .ok _ s => s
  | .error _ s => s

/-- `m` does not change what `f` reads. -/
def Keeps (f : σ → φ) (m : EStateM ε σ α) : Prop :=
  ∀ s, f (finalState (m s)) = f s

/-- `m` does not fail with an error of the kind. -/
def Avoids (P : ε → Prop) (m : EStateM ε σ α) : Prop :=
  ∀ s e s', m s = .error e s' → ¬ P e

/-- Whenever `m` fails with an error of the kind, it has not changed what `f` reads. -/
def FailsClean (f : σ → φ) (P : ε → Prop) (m : EStateM ε σ α) : Prop :=
  ∀ s e s', m s = .error e s' → P e → f s' = f s

/-- A bind goes on from where its first part has succeeded. -/
lemma bind_ok {m : EStateM ε σ α} {k : α → EStateM ε σ β} {s s1 : σ} {a : α} (h : m s = .ok a s1) :
    (m >>= k) s = k a s1 := by
  show EStateM.bind m k s = _
  unfold EStateM.bind
  rw [h]

lemma bind_error {m : EStateM ε σ α} {k : α → EStateM ε σ β} {s s1 : σ} {e : ε} (h : m s = .error e s1) :
    (m >>= k) s = .error e s1 := by
  show EStateM.bind m k s = _
  unfold EStateM.bind
  rw [h]

lemma error_bind {m : EStateM ε σ α} {k : α → EStateM ε σ β} {s s' : σ} {e : ε} (h : (m >>= k) s = .error e s') :
    m s = .error e s' ∨ ∃ a s1, m s = .ok a s1 ∧ k a s1 = .error e s' := by
  cases hr : m s with
  | ok a s1 =>
    rw [bind_ok hr] at h
    exact .inr ⟨a, s1, rfl, h⟩
  | error e1 s1 =>
    rw [bind_error hr] at h
    cases h
    exact .inl rfl

/-! ## Parts that are kept -/

lemma Keeps.of_error {m : EStateM ε σ α} (h : Keeps f m) {s s1 : σ} {e : ε} (he : m s = .error e s1) :
    f s1 = f s := by
  have := h s
  rwa [he] at this

lemma Keeps.of_ok {m : EStateM ε σ α} (h : Keeps f m) {s s1 : σ} {a : α} (he : m s = .ok a s1) :
    f s1 = f s := by
  have := h s
  rwa [he] at this

lemma Keeps.pure (a : α) : Keeps f (Pure.pure a : EStateM ε σ α) := fun _ => rfl

lemma Keeps.throw (e : ε) : Keeps f (MonadExcept.throw e : EStateM ε σ α) := fun _ => rfl

lemma Keeps.get : Keeps f (MonadState.get : EStateM ε σ σ) := fun _ => rfl

lemma Keeps.modify {g : σ → σ} (h : ∀ s, f (g s) = f s) : Keeps f (modify g : EStateM ε σ PUnit) := h

lemma Keeps.bind {m : EStateM ε σ α} {k : α → EStateM ε σ β} (hm : Keeps f m) (hk : ∀ a, Keeps f (k a)) :
    Keeps f (m >>= k) := by
  intro s
  cases hr : m s with
  | ok a s1 =>
    rw [bind_ok hr, hk a s1]
    exact hm.of_ok hr
  | error e s1 =>
    rw [bind_error hr]
    exact hm.of_error hr

/-! ## Errors that are avoided -/

lemma Avoids.pure (a : α) : Avoids P (Pure.pure a : EStateM ε σ α) := nofun

lemma Avoids.get : Avoids P (MonadState.get : EStateM ε σ σ) := nofun

lemma Avoids.modify (g : σ → σ) : Avoids P (modify g : EStateM ε σ PUnit) := nofun

lemma Avoids.throw {e : ε} (h : ¬ P e) : Avoids P (MonadExcept.throw e : EStateM ε σ α) := by
  intro s e' s' he
  cases he
  exact h

lemma Avoids.bind {m : EStateM ε σ α} {k : α → EStateM ε σ β} (hm : Avoids P m) (hk : ∀ a, Avoids P (k a)) :
    Avoids P (m >>= k) := by
  intro s e s' he
  cases hr : m s with
  | ok a s1 =>
    rw [bind_ok hr] at he
    exact hk a s1 e s' he
  | error e1 s1 =>
    rw [bind_error hr] at he
    cases he
    exact hm s e s' hr

/-! ## Failing clean -/

lemma Keeps.failsClean {m : EStateM ε σ α} (h : Keeps f m) : FailsClean f P m :=
  fun _ _ _ he _ => h.of_error he

lemma Avoids.failsClean {m : EStateM ε σ α} (h : Avoids P m) : FailsClean f P m :=
  fun s e s' he hp => absurd hp (h s e s' he)

/-- What only reads comes first. -/
lemma FailsClean.bind {m : EStateM ε σ α} {k : α → EStateM ε σ β} (hm : Keeps f m)
    (hk : ∀ a, FailsClean f P (k a)) : FailsClean f P (m >>= k) := by
  intro s e s' he hp
  cases hr : m s with
  | ok a s1 =>
    rw [bind_ok hr] at he
    exact (hk a s1 e s' he hp).trans (hm.of_ok hr)
  | error e1 s1 =>
    rw [bind_error hr] at he
    cases he
    exact hm.of_error hr

/-! ## Computations that succeed -/

/-- The parts of a computation that succeeds have succeeded. -/
lemma ok_bind {m : EStateM ε σ α} {k : α → EStateM ε σ β} {s s' : σ} {b : β} (h : (m >>= k) s = .ok b s') :
    ∃ a s1, m s = .ok a s1 ∧ k a s1 = .ok b s' := by
  cases hr : m s with
  | ok a s1 =>
    rw [bind_ok hr] at h
    exact ⟨a, s1, rfl, h⟩
  | error e s1 =>
    rw [bind_error hr] at h
    cases h

lemma ok_pure {a b : α} {s s' : σ} (h : (Pure.pure a : EStateM ε σ α) s = .ok b s') : a = b ∧ s = s' := by
  cases h
  exact ⟨rfl, rfl⟩

/-- The first part only reads. -/
lemma ok_read {m : EStateM ε σ α} {k : α → EStateM ε σ β} {s s' : σ} {b : β} {P : α → Prop}
    (hm : ∀ {a s1}, m s = .ok a s1 → P a ∧ s1 = s) (h : (m >>= k) s = .ok b s') : ∃ a, P a ∧ k a s = .ok b s' := by
  obtain ⟨a, s1, h1, h2⟩ := ok_bind h
  obtain ⟨hp, rfl⟩ := hm h1
  exact ⟨a, hp, h2⟩

/-- What holds before a loop and is kept by each turn holds after it. -/
lemma foldlM_ok {f : β → α → EStateM ε σ β} {xs : List α} {P : List α → β → σ → Prop} {b b' : β} {s s' : σ}
    (h : xs.foldlM f b s = .ok b' s') (hstart : P [] b s)
    (hstep : ∀ {pre x b s b' s'}, pre ++ [x] <+: xs → P pre b s → f b x s = .ok b' s' → P (pre ++ [x]) b' s') :
    P xs b' s' := by
  have hrest : ∀ (ys : List α) {pre b s}, pre ++ ys = xs → P pre b s → ys.foldlM f b s = .ok b' s' → P xs b' s' := by
    intro ys
    induction ys with
    | nil =>
      intro pre b s e hp h
      obtain ⟨rfl, rfl⟩ := ok_pure h
      rwa [← e, List.append_nil]
    | cons y ys ih =>
      intro pre b s e hp h
      rw [List.foldlM_cons] at h
      obtain ⟨b1, s1, h1, h⟩ := ok_bind h
      rw [List.append_cons] at e
      exact ih e (hstep ⟨ys, e⟩ hp h1) h
  exact hrest xs (List.nil_append xs) hstart h

lemma forM_ok {f : α → EStateM ε σ PUnit} {xs : List α} {P : List α → σ → Prop} {u : PUnit} {s s' : σ}
    (h : xs.forM f s = .ok u s') (hstart : P [] s)
    (hstep : ∀ {pre x s s'}, pre ++ [x] <+: xs → P pre s → f x s = .ok ⟨⟩ s' → P (pre ++ [x]) s') : P xs s' := by
  have hrest : ∀ (ys : List α) {pre s}, pre ++ ys = xs → P pre s → ys.forM f s = .ok u s' → P xs s' := by
    intro ys
    induction ys with
    | nil =>
      intro pre s e hp h
      obtain ⟨-, rfl⟩ := ok_pure h
      rwa [← e, List.append_nil]
    | cons y ys ih =>
      intro pre s e hp h
      obtain ⟨⟨⟩, s1, h1, h⟩ := ok_bind h
      rw [List.append_cons] at e
      exact ih e (hstep ⟨ys, e⟩ hp h1) h
  exact hrest xs (List.nil_append xs) hstart h

/-- The same for a loop that collects what its turns return. -/
lemma mapM_ok {f : α → EStateM ε σ β} {xs : List α} {P : List α → List β → σ → Prop} {ys : List β} {s s' : σ}
    (h : xs.mapM f s = .ok ys s') (hstart : P [] [] s)
    (hstep : ∀ {pre x ys s y s'}, pre ++ [x] <+: xs → P pre ys s → f x s = .ok y s' → P (pre ++ [x]) (ys ++ [y]) s') :
    P xs ys s' := by
  have hrest : ∀ (zs : List α) {pre done rest s}, pre ++ zs = xs → P pre done s → zs.mapM f s = .ok rest s' →
      P xs (done ++ rest) s' := by
    intro zs
    induction zs with
    | nil =>
      intro pre done rest s e hp h
      rw [List.mapM_nil] at h
      obtain ⟨rfl, rfl⟩ := ok_pure h
      rwa [← e, List.append_nil, List.append_nil]
    | cons z zs ih =>
      intro pre done rest s e hp h
      rw [List.mapM_cons] at h
      obtain ⟨y, s1, h1, h⟩ := ok_bind h
      obtain ⟨rest', s2, h2, h⟩ := ok_bind h
      obtain ⟨rfl, rfl⟩ := ok_pure h
      rw [List.append_cons] at e
      rw [List.append_cons]
      exact ih e (hstep ⟨zs, e⟩ hp h1) h2
  exact hrest xs (List.nil_append xs) hstart h

/-! ## Steps -/

/-- Whenever `m` succeeds, `R` relates the state before it to the one after it. -/
structure Moves (R : σ → σ → Prop) (m : EStateM ε σ α) : Prop where
  step : ∀ {s a s'}, m s = .ok a s' → R s s'

section moves

variable {R : σ → σ → Prop} {m m' : EStateM ε σ α}

lemma Moves.throw (e : ε) : Moves R (MonadExcept.throw e : EStateM ε σ α) := ⟨nofun⟩

lemma Moves.ite {p : Prop} [Decidable p] (h : Moves R m) (h' : Moves R m') : Moves R (if p then m else m') := by
  split
  · exact h
  · exact h'

lemma Moves.pure [Std.Refl R] (a : α) : Moves R (Pure.pure a : EStateM ε σ α) := by
  refine ⟨fun h => ?_⟩
  obtain ⟨-, rfl⟩ := ok_pure h
  exact refl _

lemma Moves.bind [IsTrans σ R] {k : α → EStateM ε σ β} (hm : Moves R m) (hk : ∀ a, Moves R (k a)) :
    Moves R (m >>= k) := by
  refine ⟨fun h => ?_⟩
  obtain ⟨a, s1, h1, h2⟩ := ok_bind h
  exact trans_of R (hm.step h1) ((hk a).step h2)

lemma Moves.foldlM [IsPreorder σ R] {f : β → α → EStateM ε σ β} (hf : ∀ b a, Moves R (f b a)) (b : β) (xs : List α) :
    Moves R (xs.foldlM f b) :=
  ⟨fun h => Failing.foldlM_ok (P := fun _ _ s1 => R _ s1) h (refl _) fun _ hs h1 => trans_of R hs ((hf _ _).step h1)⟩

lemma Moves.forM [IsPreorder σ R] {f : α → EStateM ε σ PUnit} (hf : ∀ a, Moves R (f a)) (xs : List α) :
    Moves R (xs.forM f) :=
  ⟨fun h => Failing.forM_ok (P := fun _ s1 => R _ s1) h (refl _) fun _ hs h1 => trans_of R hs ((hf _).step h1)⟩

lemma Moves.mapM [IsPreorder σ R] {f : α → EStateM ε σ β} (hf : ∀ a, Moves R (f a)) (xs : List α) :
    Moves R (xs.mapM f) :=
  ⟨fun h => Failing.mapM_ok (P := fun _ _ s1 => R _ s1) h (refl _) fun _ hs h1 => trans_of R hs ((hf _).step h1)⟩

end moves

end NexsKernel.Failing
