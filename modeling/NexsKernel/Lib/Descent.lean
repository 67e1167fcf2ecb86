import Mathlib.Tactic

/-!
# Descents

A descent starts at a root on the top level and goes down one level at a time, to the child that the key selects on
the level. The structure below the roots may be any graph; it is stored in entries, and a store to one entry changes
the descents as the lemmas of the last section say.
-/

namespace NexsKernel

variable {N K I : Type*}

/-- A descent for a key, to a node on a level. -/
inductive Descent (child : N → I → Option N) (index : K → Nat → I) (top : Nat) (r : N) (k : K) : Nat → N → Prop
  | root : Descent child index top r k top r
  | down {l : Nat} {n n' : N} : Descent child index top r k (l + 1) n → child n (index k (l + 1)) = some n' →
      Descent child index top r k l n'

namespace Descent

variable {child child' : N → I → Option N} {index : K → Nat → I} {top l : Nat} {r n n' : N} {k k' : K}

lemma le_top (d : Descent child index top r k l n) : l ≤ top := by
  induction d with
  | root => exact le_rfl
  | down _ _ ih => exact Nat.le_of_succ_le ih

/-- The last step. -/
lemma up (d : Descent child index top r k l n) (h : l < top) :
    ∃ m, Descent child index top r k (l + 1) m ∧ child m (index k (l + 1)) = some n := by
  cases d with
  | root => exact absurd h (lt_irrefl _)
  | down d e => exact ⟨_, d, e⟩

lemma eq_root (d : Descent child index top r k top n) : n = r := by
  cases d with
  | root => rfl
  | down d _ => exact absurd d.le_top (Nat.not_succ_le_self _)

/-- A descent comes to one node on each level. -/
lemma det (d : Descent child index top r k l n) (d' : Descent child index top r k l n') : n = n' := by
  induction d generalizing n' with
  | root => exact d'.eq_root.symm
  | down d e ih =>
    obtain ⟨m, hm, em⟩ := d'.up d.le_top
    rw [← ih hm, e] at em
    exact Option.some.inj em

/-- A descent looks at the key on the levels above the node only. -/
lemma congr (d : Descent child index top r k l n) (h : ∀ j, l < j → j ≤ top → index k j = index k' j) :
    Descent child index top r k' l n := by
  induction d with
  | root => exact root
  | down d e ih =>
    refine down (ih fun j hj => h j (Nat.lt_of_succ_lt hj)) ?_
    rw [← h _ (Nat.lt_succ_self _) d.le_top]
    exact e

lemma mono (d : Descent child index top r k l n) (h : ∀ n i m, child n i = some m → child' n i = some m) :
    Descent child' index top r k l n := by
  induction d with
  | root => exact root
  | down _ e ih => exact down ih (h _ _ _ e)

/-- A descent that passes a level has come to a node there. -/
lemma passes (d : Descent child index top r k l n) {j : Nat} (hl : l ≤ j) (hj : j ≤ top) :
    ∃ m, Descent child index top r k j m := by
  induction d with
  | root => exact ⟨r, (le_antisymm hl hj) ▸ root⟩
  | @down l n n' d e ih =>
    rcases Nat.eq_or_lt_of_le hl with rfl | h
    · exact ⟨n', d.down e⟩
    · exact ih h

end Descent

/-! ## Levels -/

/-- No descent from a root comes to a node on two levels. -/
def Leveled (child : N → I → Option N) (index : K → Nat → I) (top : Nat) (r : N) : Prop :=
  ∀ {k k' : K} {l l' : Nat} {n : N}, Descent child index top r k l n → Descent child index top r k' l' n → l = l'

/-! ## A store to an entry -/

section Stores

variable {child child' : N → I → Option N} {index : K → Nat → I} {top l : Nat} {r n p c : N} {i : I} {k : K}

/-- After a store of a node without children, the new descents are those to that node. -/
lemma Descent.of_store (hold : ∀ n j m, child' n j = some m → child n j = some m ∨ n = p ∧ j = i ∧ m = c)
    (hc : ∀ j, child' c j = none) (d : Descent child' index top r k l n) :
    Descent child index top r k l n ∨
      n = c ∧ Descent child index top r k (l + 1) p ∧ index k (l + 1) = i := by
  induction d with
  | root => exact .inl .root
  | @down l n n' d e ih =>
    rcases ih with hn | ⟨rfl, -, -⟩
    · rcases hold _ _ _ e with e' | ⟨rfl, hi, rfl⟩
      · exact .inl (.down hn e')
      · exact .inr ⟨rfl, hn, hi⟩
    · rw [hc] at e
      cases e

/-- A node without children that no descent came to keeps the levels apart. -/
lemma Leveled.of_store (h : Leveled child index top r)
    (hold : ∀ n j m, child' n j = some m → child n j = some m ∨ n = p ∧ j = i ∧ m = c)
    (hc : ∀ j, child' c j = none) (hnew : ∀ k l, ¬Descent child index top r k l c) :
    Leveled child' index top r := by
  intro k k' l l' n d d'
  rcases d.of_store hold hc with d | ⟨rfl, d, -⟩ <;> rcases d'.of_store hold hc with d' | ⟨e, d', -⟩
  · exact h d d'
  · exact absurd (e ▸ d) (hnew _ _)
  · exact absurd d' (hnew _ _)
  · exact Nat.succ.inj (h d d')

end Stores

end NexsKernel
