import NexsKernel.Lib.Descent
import NexsKernel.Vspace.Invoke

/-!
# Page-table walks

The walk from a VSpace root at an address is a descent along table entries. The addresses that share an entry on a
level are those that agree above `ptBitsLeft`, and `lookupPTSlot` and `unmapPageTable` find the tables that walks
come to.
-/

namespace NexsKernel.Vspace

/-- The table that an entry points to. -/
def Pte.child : Pte → Option Ptr
  | table pt => some pt
  | invalid | page _ | page4k _ => none

/-- The bits of an address that a VSpace translates. -/
def VspaceConfig.vaddrBits (cfg : VspaceConfig) : Nat :=
  ptBitsLeft cfg.top + cfg.vspaceIndexBits

/-- The walk at an address comes to a table, on a level. -/
abbrev State.Walk (cfg : VspaceConfig) (s : State) (root : Ptr) (v : Nat) : Nat → Ptr → Prop :=
  Descent (fun pt i => (s.pte pt i).child) (State.uptIndex cfg) cfg.top root v

lemma Pte.child_of_pageBase {e : Pte} {f : Ptr} (h : e.pageBase = some f) : e.child = none := by
  cases e with
  | table pt => cases h
  | _ => rfl

/-! ## Addresses -/

section Addresses

variable {cfg : VspaceConfig} {v v' l j : Nat}

/-- The addresses have the same entry, in tables of the level that both have. -/
def SameEntry (v v' l : Nat) : Prop :=
  v / 2 ^ ptBitsLeft l = v' / 2 ^ ptBitsLeft l

lemma ptBitsLeft_succ (l : Nat) : ptBitsLeft (l + 1) = ptBitsLeft l + ptIndexBits := by
  unfold ptBitsLeft
  ring

lemma SameEntry.symm (h : SameEntry v v' l) : SameEntry v' v l :=
  Eq.symm h

lemma SameEntry.trans {u : Nat} (h : SameEntry v v' l) (h' : SameEntry v' u l) : SameEntry v u l :=
  Eq.trans h h'

lemma SameEntry.succ (h : SameEntry v v' l) : SameEntry v v' (l + 1) := by
  unfold SameEntry
  rw [ptBitsLeft_succ, pow_add, ← Nat.div_div_eq_div_mul, ← Nat.div_div_eq_div_mul, h]

lemma SameEntry.mono (h : SameEntry v v' l) (hj : l ≤ j) : SameEntry v v' j := by
  induction hj with
  | refl => exact h
  | step _ ih => exact ih.succ

lemma SameEntry.index (h : SameEntry v v' l) (hj : l ≤ j) : State.uptIndex cfg v j = State.uptIndex cfg v' j := by
  unfold State.uptIndex
  rw [h.mono hj]

/-- Addresses that come to one table on a level share the entry if the index is the same. -/
lemma sameEntry_of_index (hv : v < 2 ^ cfg.vaddrBits) (hv' : v' < 2 ^ cfg.vaddrBits) (hl : l ≤ cfg.top)
    (h : l < cfg.top → SameEntry v v' (l + 1)) (hi : State.uptIndex cfg v l = State.uptIndex cfg v' l) :
    SameEntry v v' l := by
  unfold State.uptIndex at hi
  rcases Nat.eq_or_lt_of_le hl with rfl | hlt
  · -- the index has all the bits there are
    have hdiv : ∀ x, x < 2 ^ cfg.vaddrBits → x / 2 ^ ptBitsLeft cfg.top < 2 ^ cfg.vspaceIndexBits := by
      intro x hx
      apply Nat.div_lt_of_lt_mul
      rwa [← pow_add]
    rw [if_pos rfl, Nat.mod_eq_of_lt (hdiv v hv), Nat.mod_eq_of_lt (hdiv v' hv')] at hi
    exact hi
  · have hup : v / 2 ^ ptBitsLeft l / 2 ^ ptIndexBits = v' / 2 ^ ptBitsLeft l / 2 ^ ptIndexBits := by
      rw [Nat.div_div_eq_div_mul, Nat.div_div_eq_div_mul, ← pow_add, ← ptBitsLeft_succ]
      exact h hlt
    rw [if_neg hlt.ne] at hi
    calc v / 2 ^ ptBitsLeft l
        = 2 ^ ptIndexBits * (v / 2 ^ ptBitsLeft l / 2 ^ ptIndexBits) + v / 2 ^ ptBitsLeft l % 2 ^ ptIndexBits :=
          (Nat.div_add_mod _ _).symm
      _ = 2 ^ ptIndexBits * (v' / 2 ^ ptBitsLeft l / 2 ^ ptIndexBits) + v' / 2 ^ ptBitsLeft l % 2 ^ ptIndexBits := by
          rw [hup, hi]
      _ = v' / 2 ^ ptBitsLeft l := Nat.div_add_mod _ _

/-- The bits of an address above those that a VSpace translates are not looked at. -/
lemma uptIndex_mod (h : j ≤ cfg.top) : State.uptIndex cfg (v % 2 ^ cfg.vaddrBits) j = State.uptIndex cfg v j := by
  have hpos : 1 ≤ ptIndexBits := by decide
  have hle : ptBitsLeft j + (if j = cfg.top then cfg.vspaceIndexBits else ptIndexBits) ≤ cfg.vaddrBits := by
    unfold VspaceConfig.vaddrBits
    split
    · rename_i e
      rw [e]
    · rename_i hne
      have : ptIndexBits * (j + 1) ≤ ptIndexBits * cfg.top :=
        Nat.mul_le_mul_left _ (Nat.lt_of_le_of_ne h hne)
      unfold ptBitsLeft
      rw [Nat.mul_succ] at this
      omega
  obtain ⟨k, hk⟩ := Nat.exists_eq_add_of_le hle
  unfold State.uptIndex
  rw [hk, Nat.add_assoc, pow_add, Nat.mod_mul_right_div_self]
  exact Nat.mod_mod_of_dvd _ (Nat.pow_dvd_pow 2 (Nat.le_add_right _ _))

lemma sameEntry_roundDown : SameEntry (roundDown v (ptBitsLeft l)) v l :=
  Nat.mul_div_cancel _ (Nat.two_pow_pos _)

lemma SameEntry.roundDown_eq (h : SameEntry v v' l) :
    roundDown v (ptBitsLeft l) = roundDown v' (ptBitsLeft l) := by
  unfold roundDown
  rw [h]

lemma sameEntry_of_roundDown (h : roundDown v (ptBitsLeft l) = roundDown v' (ptBitsLeft l)) : SameEntry v v' l :=
  sameEntry_roundDown.symm.trans ((congrArg (· / 2 ^ ptBitsLeft l) h).trans sameEntry_roundDown)

lemma roundDown_of_aligned {bits : Nat} (h : v % 2 ^ bits = 0) : roundDown v bits = v :=
  Nat.div_mul_cancel (Nat.dvd_of_mod_eq_zero h)

lemma VspaceConfig.lt_of_le_userTop (h : v ≤ cfg.userTop) : v < 2 ^ cfg.vaddrBits :=
  h.trans_lt cfg.userTop_lt

end Addresses

/-! ## Stores -/

section Stores

variable {s : State} {pt q p : Ptr} {i j : Nat} {e : Pte}

lemma setPte_pte : (s.setPte (pt, i) e).pte q j = if q = pt ∧ j = i then e else s.pte q j := by
  unfold State.setPte
  by_cases hq : q = pt
  · subst hq
    by_cases hj : j = i
    · subst hj
      simp
    · simp [hj]
  · simp [hq]

lemma clearMemoryPT_pte : (s.clearMemoryPT p).pte q j = if q = p then .invalid else s.pte q j := by
  unfold State.clearMemoryPT
  by_cases hq : q = p
  · subst hq
    simp
  · simp [hq]

/-- A store makes one child at most. -/
lemma child_setPte {m : Ptr} (h : ((s.setPte (pt, i) e).pte q j).child = some m) :
    (s.pte q j).child = some m ∨ q = pt ∧ j = i ∧ e.child = some m := by
  rw [setPte_pte] at h
  split at h
  · rename_i hq
    exact .inr ⟨hq.1, hq.2, h⟩
  · exact .inl h

end Stores

/-! ## Walks -/

section Walks

variable {cfg : VspaceConfig} {s s' : State} {root pt p : Ptr} {v v' l : Nat}

lemma State.Walk.congr (w : s.Walk cfg root v l pt) (h : l < cfg.top → SameEntry v v' (l + 1)) :
    s.Walk cfg root v' l pt := by
  rcases Nat.eq_or_lt_of_le w.le_top with rfl | hlt
  · rw [w.eq_root]
    exact .root
  · exact Descent.congr w fun j hj _ => (h hlt).index hj

lemma State.Walk.mod (w : s.Walk cfg root v l pt) : s.Walk cfg root (v % 2 ^ cfg.vaddrBits) l pt :=
  Descent.congr w fun _ _ hj => (uptIndex_mod hj).symm

/-- The loop of `lookupPTSlot` stops at an entry that the walk comes to. -/
lemma lookupFrom_walk (w : s.Walk cfg root v l pt) :
    ∃ j m, s.Walk cfg root v j m ∧ s.lookupFrom cfg v l pt = ((m, State.uptIndex cfg v j), ptBitsLeft j) := by
  induction l generalizing pt with
  | zero => exact ⟨0, pt, w, rfl⟩
  | succ l ih =>
    unfold State.lookupFrom
    cases he : s.pte pt (State.uptIndex cfg v (l + 1)) with
    | table pt' => exact ih (w.down (congrArg Pte.child he))
    | _ => exact ⟨l + 1, pt, w, rfl⟩

lemma lookupPTSlot_walk (s : State) (cfg : VspaceConfig) (root : Ptr) (v : Nat) :
    ∃ j m, s.Walk cfg root v j m ∧ s.lookupPTSlot cfg root v = ((m, State.uptIndex cfg v j), ptBitsLeft j) :=
  lookupFrom_walk .root

/-- `lookupPTSlot` finds the entry that a walk ends in. -/
lemma lookupPTSlot_eq (w : s.Walk cfg root v l pt)
    (h : l = 0 ∨ (s.pte pt (State.uptIndex cfg v l)).child = none) :
    s.lookupPTSlot cfg root v = ((pt, State.uptIndex cfg v l), ptBitsLeft l) := by
  have stop : s.lookupFrom cfg v l pt = ((pt, State.uptIndex cfg v l), ptBitsLeft l) := by
    cases l with
    | zero => rfl
    | succ l =>
      unfold State.lookupFrom
      have hc := h.resolve_left (Nat.succ_ne_zero l)
      cases he : s.pte pt (State.uptIndex cfg v (l + 1)) with
      | table pt' =>
        rw [he] at hc
        cases hc
      | _ => rfl
  rw [← stop]
  clear h stop
  -- the loop passes the tables of the walk
  induction w with
  | root => rfl
  | @down l n n' w e ih =>
    rw [ih]
    cases he : s.pte n (State.uptIndex cfg v (l + 1)) with
    | table pt' =>
      rw [he] at e
      rw [State.lookupFrom, he, Option.some.inj e]
    | _ =>
      rw [he] at e
      cases e

/-- What `unmapPageTable` finds is a table of the walk, with the entry above it. -/
lemma findTable_walk (w : s.Walk cfg root v l pt) {x ptSlot : Option (Ptr × Nat)}
    (h : State.findTable cfg s v p l pt ptSlot = some x) :
    pt = p ∧ x = ptSlot ∨
      ∃ j m, s.Walk cfg root v (j + 1) m ∧ x = some (m, State.uptIndex cfg v (j + 1)) ∧
        (s.pte m (State.uptIndex cfg v (j + 1))).child = some p := by
  induction l generalizing pt ptSlot with
  | zero =>
    unfold State.findTable at h
    split at h
    · rename_i hp
      exact .inl ⟨hp, (Option.some.inj h).symm⟩
    · cases h
  | succ l ih =>
    unfold State.findTable at h
    split at h
    · rename_i hp
      exact .inl ⟨hp, (Option.some.inj h).symm⟩
    · cases he : s.pte pt (State.uptIndex cfg v (l + 1)) with
      | table pt' =>
        rw [he] at h
        rcases ih (w.down (congrArg Pte.child he)) h with ⟨rfl, hx⟩ | ⟨j, m, wm, hx, hm⟩
        · exact .inr ⟨l, pt, w, hx, congrArg Pte.child he⟩
        · exact .inr ⟨j, m, wm, hx, hm⟩
      | _ =>
        rw [he] at h
        cases h

/-- What `unmapPageTable` does not find is no table of the walk. -/
lemma findTable_none (w : s.Walk cfg root v l pt) {ptSlot : Option (Ptr × Nat)}
    (h : State.findTable cfg s v p l pt ptSlot = none) {j : Nat} (hj : j ≤ l) : ¬s.Walk cfg root v j p := by
  intro wp
  induction l generalizing pt ptSlot with
  | zero =>
    obtain rfl : j = 0 := Nat.le_zero.mp hj
    unfold State.findTable at h
    rw [if_pos (w.det wp)] at h
    cases h
  | succ l ih =>
    unfold State.findTable at h
    split at h
    · cases h
    · rename_i hne
      rcases Nat.eq_or_lt_of_le hj with rfl | hlt
      · exact hne (w.det wp)
      · -- the walk goes on below this table, hence the entry is a table
        obtain ⟨n, wn⟩ := wp.passes (Nat.le_of_lt_succ hlt) (Nat.le_of_succ_le w.le_top)
        obtain ⟨m, wm, hm⟩ := wn.up w.le_top
        rw [← w.det wm] at hm
        cases he : s.pte pt (State.uptIndex cfg v (l + 1)) with
        | table pt' =>
          rw [he] at h
          exact ih (w.down (congrArg Pte.child he)) h (Nat.le_of_lt_succ hlt)
        | _ =>
          rw [he] at hm
          cases hm

end Walks

end NexsKernel.Vspace
