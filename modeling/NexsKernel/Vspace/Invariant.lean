import NexsKernel.Vspace.Run

/-!
# The invariant of address spaces

Capabilities repeat what tables and ASID pools say. What is reachable from a live VSpace is backed by a capability
that names it: a table by one to that table and the address where it is, a page by one to the frame. The converse
does not hold, as capabilities outlive their mappings. A capability to a table that is not mapped is the only one to
it, and the table is empty.

Most steps only take mappings and capabilities away; what they must not take is the subject of `Inv.of_sub`.
-/

namespace NexsKernel.Vspace

/-- Different slots may hold these capabilities to one object. -/
inductive Coherent : Cap → Cap → Prop
  | frame (asid addr asid' addr' base : Nat) (size size' : PageSize) (rights rights' : VmRights) (dev dev' : Bool) :
    Coherent (.arch (.frame asid base size addr rights dev)) (.arch (.frame asid' base size' addr' rights' dev'))
  | pageTable (asid base addr : Nat) :
    Coherent (.arch (.pageTable asid base true addr)) (.arch (.pageTable asid base true addr))
  | vspace (asid base : Nat) : Coherent (.arch (.vspace asid base true)) (.arch (.vspace asid base true))
  | asidPool (base pool : Nat) : Coherent (.arch (.asidPool base pool)) (.arch (.asidPool base pool))

lemma Coherent.symm {c c' : Cap} (h : Coherent c c') : Coherent c' c := by
  cases h with
  | frame => exact .frame ..
  | pageTable => exact .pageTable ..
  | vspace => exact .vspace ..
  | asidPool => exact .asidPool ..

/-- A capability to a table that is not mapped. -/
def Unmapped : Cap → Ptr → Prop
  | .arch (.pageTable _ base false _), p | .arch (.vspace _ base false), p => base = p
  | _, _ => False

namespace State

variable (cfg : VspaceConfig) (s : State)

/-- The ASID resolves to the VSpace. -/
def Live (asid : Nat) (root : Ptr) : Prop :=
  s.findVSpaceForASID asid = some root

/-- A walk in a live VSpace comes to the table. -/
def Reached (pt : Ptr) : Prop :=
  ∃ asid root v l, s.Live asid root ∧ s.Walk cfg root v l pt

def Holds (c : Cap) : Prop :=
  ∃ t, s.cap t = c

/-- The capabilities of different slots agree, and those to tables that are not mapped say that the table is empty. -/
structure CapsInv : Prop where
  coherent : ∀ t t', t ≠ t' → ¬Plain (s.cap t) → ¬Plain (s.cap t') → capPtr (s.cap t) = capPtr (s.cap t') →
    Coherent (s.cap t) (s.cap t')
  clear : ∀ t p, Unmapped (s.cap t) p → ∀ i, s.pte p i = .invalid
  bounded : ∀ t asid base size addr rights dev, s.cap t = .arch (.frame asid base size addr rights dev) →
    asid ≠ asidInvalid → addr < 2 ^ cfg.vaddrBits

/-- The invariant. -/
structure Inv : Prop extends CapsInv cfg s where
  pool : ∀ i p, s.armKSASIDTable i = some p → s.Holds (.arch (.asidPool (i * 2 ^ asidLowBits) p))
  live : ∀ asid root, s.Live asid root → asid ≠ asidInvalid ∧ s.Holds (.arch (.vspace asid root true))
  leveled : ∀ asid root, s.Live asid root →
    Leveled (fun pt i => (s.pte pt i).child) (uptIndex cfg) cfg.top root
  tables : ∀ asid root v l pt, s.Live asid root → v < 2 ^ cfg.vaddrBits → s.Walk cfg root v l pt → l < cfg.top →
    s.Holds (.arch (.pageTable asid pt true (roundDown v (ptBitsLeft (l + 1)))))
  leaves : ∀ asid root v pt, s.Live asid root → v < 2 ^ cfg.vaddrBits → s.Walk cfg root v 0 pt →
    (s.pte pt (uptIndex cfg v 0)).child = none
  pages : ∀ asid root v l pt base, s.Live asid root → v < 2 ^ cfg.vaddrBits → s.Walk cfg root v l pt →
    (s.pte pt (uptIndex cfg v l)).pageBase = some base →
    ∃ size rights dev, pageBitsForSize size = ptBitsLeft l ∧
      s.Holds (.arch (.frame asid base size (roundDown v (ptBitsLeft l)) rights dev))

end State

/-! ## Capabilities -/

section Caps

variable {cfg : VspaceConfig} {s : State} {t t' : Slot} {asid asid' : Nat} {root root' p : Ptr}

lemma Coherent.not_unmapped {c c' : Cap} (h : Coherent c c') : ¬Unmapped c p := by
  cases h <;> exact id

lemma Unmapped.not_plain {c : Cap} (h : Unmapped c p) : ¬Plain c ∧ capPtr c = p := by
  unfold Unmapped at h
  split at h
  · exact ⟨id, h⟩
  · exact ⟨id, h⟩
  · exact h.elim

variable (i : s.Inv cfg)
include i

/-- A capability to a table that is not mapped is the only one. -/
lemma State.Inv.unmapped_unique (hu : Unmapped (s.cap t) p) (ht : ¬Plain (s.cap t')) (hp : capPtr (s.cap t') = p) :
    t' = t := by
  by_contra hne
  have hco := i.coherent t t' (Ne.symm hne) hu.not_plain.1 ht (hu.not_plain.2.trans hp.symm)
  exact hco.not_unmapped hu

lemma State.Inv.vspace_asid (ht : s.cap t = .arch (.vspace asid root true))
    (ht' : s.cap t' = .arch (.vspace asid' root true)) : asid = asid' := by
  by_cases e : t = t'
  · subst e
    rw [ht] at ht'
    cases ht'
    rfl
  · have hco := i.coherent t t' e (by rw [ht]; exact id) (by rw [ht']; exact id) (by rw [ht, ht']; rfl)
    rw [ht, ht'] at hco
    cases hco
    rfl

/-- A VSpace is the value of one ASID. -/
lemma State.Inv.live_asid (h : s.Live asid root) (h' : s.Live asid' root) : asid = asid' := by
  obtain ⟨-, t, ht⟩ := i.live asid root h
  obtain ⟨-, t', ht'⟩ := i.live asid' root h'
  exact i.vspace_asid ht ht'

lemma State.Inv.pageTable_eq {m m' : Bool} {addr addr' : Nat} (ht : s.cap t = .arch (.pageTable asid p m addr))
    (ht' : s.cap t' = .arch (.pageTable asid' p m' addr')) :
    t = t' ∨ asid = asid' ∧ m = true ∧ m' = true ∧ addr = addr' := by
  by_cases e : t = t'
  · exact .inl e
  · have hco := i.coherent t t' e (by rw [ht]; exact id) (by rw [ht']; exact id) (by rw [ht, ht']; rfl)
    rw [ht, ht'] at hco
    cases hco
    exact .inr ⟨rfl, rfl, rfl, rfl⟩

lemma State.Inv.pageTable_ne_vspace {m m' : Bool} {addr : Nat} (ht : s.cap t = .arch (.pageTable asid p m addr))
    (ht' : s.cap t' = .arch (.vspace asid' root m')) : p ≠ root := by
  rintro rfl
  have hne : t ≠ t' := by
    rintro rfl
    rw [ht] at ht'
    cases ht'
  have hco := i.coherent t t' hne (by rw [ht]; exact id) (by rw [ht']; exact id) (by rw [ht, ht']; rfl)
  rw [ht, ht'] at hco
  cases hco

lemma State.Inv.pool_base {base base' : Nat} (ht : s.cap t = .arch (.asidPool base p))
    (ht' : s.cap t' = .arch (.asidPool base' p)) : base = base' := by
  by_cases e : t = t'
  · subst e
    rw [ht] at ht'
    cases ht'
    rfl
  · have hco := i.coherent t t' e (by rw [ht]; exact id) (by rw [ht']; exact id) (by rw [ht, ht']; rfl)
    rw [ht, ht'] at hco
    cases hco
    rfl

/-- An ASID pool has one place in the table of pools. -/
lemma State.Inv.pool_index {j k : Nat} (h : s.armKSASIDTable j = some p) (h' : s.armKSASIDTable k = some p) :
    j = k := by
  obtain ⟨t, ht⟩ := i.pool j p h
  obtain ⟨t', ht'⟩ := i.pool k p h'
  exact Nat.eq_of_mul_eq_mul_right (Nat.two_pow_pos _) (i.pool_base ht ht')

/-! ## Walks -/

/-- A table that is reached has a capability that says so. -/
lemma State.Inv.reached_cap (h : s.Reached cfg p) : ∃ t, ¬Plain (s.cap t) ∧ tableBase (s.cap t) = some p ∧
    capPtr (s.cap t) = p ∧ ∀ q, ¬Unmapped (s.cap t) q := by
  obtain ⟨asid, root, v, l, hlive, w⟩ := h
  rcases Nat.eq_or_lt_of_le w.le_top with rfl | hlt
  · obtain ⟨-, t, ht⟩ := i.live asid root hlive
    rw [w.eq_root]
    refine ⟨t, ?_⟩
    rw [ht]
    exact ⟨id, rfl, rfl, fun _ => id⟩
  · -- the walk does not look at the other bits of the address
    obtain ⟨t, ht⟩ := i.tables asid root _ l p hlive (Nat.mod_lt _ (Nat.two_pow_pos _)) w.mod hlt
    refine ⟨t, ?_⟩
    rw [ht]
    exact ⟨id, rfl, rfl, fun _ => id⟩

lemma State.Inv.not_unmapped_of_reached (h : s.Reached cfg p) : ¬Unmapped (s.cap t) p := by
  intro hu
  obtain ⟨t', hp, -, hptr, hm⟩ := i.reached_cap h
  rw [← i.unmapped_unique hu hp hptr] at hu
  exact hm p hu

lemma State.Inv.not_fresh_of_reached (h : s.Reached cfg p) : ¬s.Fresh p := by
  intro hf
  obtain ⟨t', hp, -, hptr, -⟩ := i.reached_cap h
  exact hf t' hp hptr

/-- A table is reached in one VSpace, on one level and at the addresses of one region. -/
lemma State.Inv.walk_unique {v v' l l' : Nat} (hl : s.Live asid root) (hl' : s.Live asid' root')
    (hv : v < 2 ^ cfg.vaddrBits) (hv' : v' < 2 ^ cfg.vaddrBits) (w : s.Walk cfg root v l p)
    (w' : s.Walk cfg root' v' l' p) :
    asid = asid' ∧ root = root' ∧ l = l' ∧ (l < cfg.top → SameEntry v v' (l + 1)) := by
  have hsame : ∀ {asid root v l asid' root' v' l'}, s.Live asid root → s.Live asid' root' →
      v < 2 ^ cfg.vaddrBits → s.Walk cfg root v l p → s.Walk cfg root' v' l' p → l < cfg.top → l' ≠ cfg.top := by
    rintro asid root v l asid' root' v' l' hl hl' hv w w' hlt rfl
    obtain ⟨t, ht⟩ := i.tables asid root v l p hl hv w hlt
    obtain ⟨-, t', ht'⟩ := i.live asid' root' hl'
    exact i.pageTable_ne_vspace ht ht' w'.eq_root
  rcases Nat.eq_or_lt_of_le w.le_top with rfl | hlt
  · rcases Nat.eq_or_lt_of_le w'.le_top with rfl | hlt'
    · obtain rfl : root = root' := w.eq_root.symm.trans w'.eq_root
      exact ⟨i.live_asid hl hl', rfl, rfl, fun h => absurd h (lt_irrefl _)⟩
    · exact absurd rfl (hsame hl' hl hv' w' w hlt')
  · have hlt' : l' < cfg.top := Nat.lt_of_le_of_ne w'.le_top (hsame hl hl' hv w w' hlt)
    obtain ⟨t, ht⟩ := i.tables asid root v l p hl hv w hlt
    obtain ⟨t', ht'⟩ := i.tables asid' root' v' l' p hl' hv' w' hlt'
    -- the two capabilities have the same mapping
    have heq : asid = asid' ∧ roundDown v (ptBitsLeft (l + 1)) = roundDown v' (ptBitsLeft (l' + 1)) := by
      rcases i.pageTable_eq ht ht' with rfl | ⟨ha, -, -, haddr⟩
      · rw [ht] at ht'
        injection ht' with h
        injection h with h1 h2 h3 h4
        exact ⟨h1, h4⟩
      · exact ⟨ha, haddr⟩
    obtain ⟨rfl, haddr⟩ := heq
    obtain rfl : root = root' := Option.some.inj (hl.symm.trans hl')
    obtain rfl : l = l' := i.leveled asid root hl w w'
    exact ⟨rfl, rfl, rfl, fun _ => sameEntry_of_roundDown haddr⟩

/-- So is an entry. -/
lemma State.Inv.entry_unique {v v' l l' : Nat} (hl : s.Live asid root) (hl' : s.Live asid' root')
    (hv : v < 2 ^ cfg.vaddrBits) (hv' : v' < 2 ^ cfg.vaddrBits) (w : s.Walk cfg root v l p)
    (w' : s.Walk cfg root' v' l' p) (hi : State.uptIndex cfg v l = State.uptIndex cfg v' l') :
    asid = asid' ∧ root = root' ∧ l = l' ∧ SameEntry v v' l := by
  obtain ⟨rfl, rfl, rfl, hup⟩ := i.walk_unique hl hl' hv hv' w w'
  exact ⟨rfl, rfl, rfl, sameEntry_of_index hv hv' w.le_top hup hi⟩

end Caps

/-! ## Steps that take away -/

section Sub

variable {cfg : VspaceConfig} {s s' : State}

/-- Every capability of the new state that matters is one of the old, in a slot of its own. -/
lemma State.CapsInv.of_rename (i : s.CapsInv cfg) {f : Slot → Slot} (hpte : s'.pte = s.pte)
    (hcap : ∀ t, ¬Plain (s'.cap t) → s'.cap t = s.cap (f t))
    (hinj : ∀ t t', ¬Plain (s'.cap t) → ¬Plain (s'.cap t') → f t = f t' → t = t') : s'.CapsInv cfg where
  coherent t t' hne hp hp' hptr := by
    have e := hcap t hp
    have e' := hcap t' hp'
    rw [e] at hp hptr ⊢
    rw [e'] at hp' hptr ⊢
    exact i.coherent (f t) (f t') (fun h => hne (hinj t t' (e ▸ hp) (e' ▸ hp') h)) hp hp' hptr
  clear t p hu := by
    rw [hcap t hu.not_plain.1] at hu
    rw [hpte]
    exact i.clear (f t) p hu
  bounded t asid base size addr rights dev ht := by
    rw [hcap t (by rw [ht]; exact id)] at ht
    exact i.bounded (f t) asid base size addr rights dev ht

/-- A capability is stored that agrees with the others. -/
lemma State.CapsInv.setCap (i : s.CapsInv cfg) {slot : Slot} {c : Cap}
    (hco : ¬Plain c → ∀ t, t ≠ slot → ¬Plain (s.cap t) → capPtr (s.cap t) = capPtr c → Coherent c (s.cap t))
    (hclear : ∀ p, Unmapped c p → ∀ j, s.pte p j = .invalid)
    (hbound : ∀ asid base size addr rights dev, c = .arch (.frame asid base size addr rights dev) →
      asid ≠ asidInvalid → addr < 2 ^ cfg.vaddrBits) : (s.setCap slot c).CapsInv cfg where
  coherent t t' hne hp hp' hptr := by
    have hcap : ∀ t, (s.setCap slot c).cap t = if t = slot then c else s.cap t := fun t =>
      Function.update_apply s.cap slot c t
    rw [hcap t] at hp hptr ⊢
    rw [hcap t'] at hp' hptr ⊢
    split at hp <;> split at hp'
    · rename_i e e'
      exact absurd (e.trans e'.symm) hne
    · rename_i e e'
      rw [if_pos e, if_neg e'] at hptr ⊢
      exact hco hp t' e' hp' hptr.symm
    · rename_i e e'
      rw [if_neg e, if_pos e'] at hptr ⊢
      exact (hco hp' t e hp hptr).symm
    · rename_i e e'
      rw [if_neg e, if_neg e'] at hptr ⊢
      exact i.coherent t t' hne hp hp' hptr
  clear t p hu := by
    by_cases e : t = slot
    · subst e
      rw [show (s.setCap t c).cap t = c from Function.update_self ..] at hu
      exact hclear p hu
    · rw [show (s.setCap slot c).cap t = s.cap t from Function.update_of_ne e ..] at hu
      exact i.clear t p hu
  bounded t asid base size addr rights dev ht := by
    by_cases e : t = slot
    · subst e
      rw [show (s.setCap t c).cap t = c from Function.update_self ..] at ht
      exact hbound asid base size addr rights dev ht
    · rw [show (s.setCap slot c).cap t = s.cap t from Function.update_of_ne e ..] at ht
      exact i.bounded t asid base size addr rights dev ht

/-- No table changes that a capability says to be empty. -/
lemma State.CapsInv.of_pte (i : s.CapsInv cfg) (hcap : s'.cap = s.cap)
    (hpte : ∀ t p, Unmapped (s.cap t) p → ∀ j, s.pte p j = .invalid → s'.pte p j = .invalid) :
    s'.CapsInv cfg where
  coherent := by
    rw [hcap]
    exact i.coherent
  clear t p hu j := by
    rw [hcap] at hu
    exact hpte t p hu j (i.clear t p hu j)
  bounded := by
    rw [hcap]
    exact i.bounded

/-- What is reached is reached as before if entries are only removed. -/
lemma State.walk_of_sub {asid : Nat} {root : Ptr} {v l : Nat} {pt : Ptr} (hl : s.Live asid root)
    (hpte : ∀ p, s.Reached cfg p → ∀ j, s'.pte p j = s.pte p j ∨ s'.pte p j = .invalid)
    (w : s'.Walk cfg root v l pt) : s.Walk cfg root v l pt := by
  induction w with
  | root => exact .root
  | @down l n n' w e ih =>
    rcases hpte n ⟨asid, root, v, l + 1, hl, ih⟩ (State.uptIndex cfg v (l + 1)) with h | h
    · exact .down ih (h ▸ e)
    · rw [h] at e
      cases e

/-- Mappings and capabilities are taken away, but no capability that is still needed. -/
lemma State.Inv.of_sub (i : s.Inv cfg) (hcaps : s'.CapsInv cfg)
    (hlive : ∀ asid root, s'.Live asid root → s.Live asid root)
    (hpte : ∀ p, s.Reached cfg p → ∀ j, s'.pte p j = s.pte p j ∨ s'.pte p j = .invalid)
    (hpool : ∀ j p, s'.armKSASIDTable j = some p → s'.Holds (.arch (.asidPool (j * 2 ^ asidLowBits) p)))
    (hroot : ∀ asid root, s'.Live asid root → s.Holds (.arch (.vspace asid root true)) →
      s'.Holds (.arch (.vspace asid root true)))
    (htable : ∀ asid root v l pt, s'.Live asid root → v < 2 ^ cfg.vaddrBits → s'.Walk cfg root v l pt →
      l < cfg.top → s.Holds (.arch (.pageTable asid pt true (roundDown v (ptBitsLeft (l + 1))))) →
      s'.Holds (.arch (.pageTable asid pt true (roundDown v (ptBitsLeft (l + 1))))))
    (hpage : ∀ asid root v l pt base size rights dev, s'.Live asid root → v < 2 ^ cfg.vaddrBits →
      s'.Walk cfg root v l pt → (s'.pte pt (uptIndex cfg v l)).pageBase = some base →
      pageBitsForSize size = ptBitsLeft l →
      s.Holds (.arch (.frame asid base size (roundDown v (ptBitsLeft l)) rights dev)) →
      ∃ rights, s'.Holds (.arch (.frame asid base size (roundDown v (ptBitsLeft l)) rights dev))) :
    s'.Inv cfg where
  toCapsInv := hcaps
  pool := hpool
  live asid root h := by
    obtain ⟨hne, hc⟩ := i.live asid root (hlive asid root h)
    exact ⟨hne, hroot asid root h hc⟩
  leveled asid root h := by
    have hl := hlive asid root h
    intro k k' l l' n w w'
    exact i.leveled asid root hl (State.walk_of_sub hl hpte w) (State.walk_of_sub hl hpte w')
  tables asid root v l pt h hv w hlt := by
    have hl := hlive asid root h
    exact htable asid root v l pt h hv w hlt (i.tables asid root v l pt hl hv (State.walk_of_sub hl hpte w) hlt)
  leaves asid root v pt h hv w := by
    have hl := hlive asid root h
    have w' := State.walk_of_sub hl hpte w
    rcases hpte pt ⟨asid, root, v, 0, hl, w'⟩ (uptIndex cfg v 0) with e | e
    · rw [e]
      exact i.leaves asid root v pt hl hv w'
    · rw [e]
      rfl
  pages asid root v l pt base h hv w hb := by
    have hl := hlive asid root h
    have w' := State.walk_of_sub hl hpte w
    have hold : (s.pte pt (uptIndex cfg v l)).pageBase = some base := by
      rcases hpte pt ⟨asid, root, v, l, hl, w'⟩ (uptIndex cfg v l) with e | e
      · rwa [e] at hb
      · rw [e] at hb
        cases hb
    obtain ⟨size, rights, dev, hsize, hc⟩ := i.pages asid root v l pt base hl hv w' hold
    obtain ⟨rights', hc'⟩ := hpage asid root v l pt base size rights dev h hv w hb hsize hc
    exact ⟨size, rights', dev, hsize, hc'⟩

/-- Only capabilities change, and none that matters goes away. -/
lemma State.Inv.of_caps (i : s.Inv cfg) (hcaps : s'.CapsInv cfg)
    (hpte : s'.pte = s.pte) (hpool : s'.asidPool = s.asidPool) (htable : s'.armKSASIDTable = s.armKSASIDTable)
    (hold : ∀ c, ¬Plain c → s.Holds c → s'.Holds c) : s'.Inv cfg := by
  have hlive : ∀ asid root, s'.Live asid root → s.Live asid root := by
    intro asid root h
    unfold State.Live State.findVSpaceForASID State.findMapForASID at h ⊢
    rwa [hpool, htable] at h
  refine i.of_sub hcaps hlive (fun p _ j => .inl (by rw [hpte])) ?_ (fun _ _ _ => hold _ id)
    (fun _ _ _ _ _ _ _ _ _ => hold _ id) fun _ _ _ _ _ _ _ rights _ _ _ _ _ _ hc => ⟨rights, hold _ id hc⟩
  intro j p h
  rw [htable] at h
  exact hold _ id (i.pool j p h)

lemma State.holds_setCap {slot : Slot} {c c' : Cap} (h : s.Holds c) (hne : s.cap slot ≠ c) :
    (s.setCap slot c').Holds c := by
  obtain ⟨t, ht⟩ := h
  refine ⟨t, (Function.update_of_ne ?_ ..).trans ht⟩
  rintro rfl
  exact hne ht

/-- A capability is taken away, or loses its mapping, that is not needed any more. -/
lemma State.Inv.of_remove (i : s.Inv cfg) {slot : Slot} {c : Cap} (hcap : s'.cap = s.cap)
    (hcaps : (s'.setCap slot c).CapsInv cfg)
    (hlive : ∀ asid root, s'.Live asid root → s.Live asid root ∧ s.cap slot ≠ .arch (.vspace asid root true))
    (hpte : ∀ p, s.Reached cfg p → ∀ j, s'.pte p j = s.pte p j ∨ s'.pte p j = .invalid)
    (hpool : ∀ j p, s'.armKSASIDTable j = some p → s.armKSASIDTable j = some p ∧ poolBase (s.cap slot) ≠ some p)
    (htable : ∀ asid root v l pt, s'.Live asid root → v < 2 ^ cfg.vaddrBits → s'.Walk cfg root v l pt →
      l < cfg.top → s.cap slot ≠ .arch (.pageTable asid pt true (roundDown v (ptBitsLeft (l + 1)))))
    (hpage : ∀ asid root v l pt base size rights dev, s'.Live asid root → v < 2 ^ cfg.vaddrBits →
      s'.Walk cfg root v l pt → (s'.pte pt (uptIndex cfg v l)).pageBase = some base →
      pageBitsForSize size = ptBitsLeft l →
      s.cap slot ≠ .arch (.frame asid base size (roundDown v (ptBitsLeft l)) rights dev)) :
    (s'.setCap slot c).Inv cfg := by
  have hold : ∀ {c'}, s.Holds c' → s.cap slot ≠ c' → (s'.setCap slot c).Holds c' := by
    intro c' h hne
    refine State.holds_setCap ?_ (hcap ▸ hne)
    obtain ⟨t, ht⟩ := h
    exact ⟨t, hcap ▸ ht⟩
  refine i.of_sub hcaps (fun asid root h => (hlive asid root h).1) hpte ?_ ?_ ?_ ?_
  · intro j p h
    obtain ⟨h', hne⟩ := hpool j p h
    exact hold (i.pool j p h') fun e => hne (congrArg poolBase e)
  · exact fun asid root h hh => hold hh (hlive asid root h).2
  · exact fun asid root v l pt h hv w hlt hh => hold hh (htable asid root v l pt h hv w hlt)
  · exact fun asid root v l pt base size rights dev h hv w hb hsize hh =>
      ⟨rights, hold hh (hpage asid root v l pt base size rights dev h hv w hb hsize)⟩

end Sub

end NexsKernel.Vspace
