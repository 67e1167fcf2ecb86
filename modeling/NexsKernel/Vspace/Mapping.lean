import NexsKernel.Vspace.Unmap

/-!
# Mapping

A page or a table is entered where a walk in a live VSpace has come to, and its capability is told where that is; the
ASIDs of a new pool and the tables of a new VSpace are empty. So the steps that add mappings keep the invariant.
-/

namespace NexsKernel.Vspace

open Function (update update_self update_of_ne)

section Map

variable {cfg : VspaceConfig} {s : State} {slot : Slot} {asid v l : Nat} {base root pt : Ptr}

lemma performMap_cap {c : Cap} {pte : Pte} {ptSlot : Ptr × Nat} :
    (s.performMap c slot pte ptSlot).cap = update s.cap slot c :=
  rfl

lemma performMap_pte {c : Cap} {pte : Pte} {i : Nat} {q : Ptr} {j : Nat} :
    (s.performMap c slot pte (pt, i)).pte q j = if q = pt ∧ j = i then pte else s.pte q j :=
  setPte_pte

/-- Of the capabilities only that in the slot changes. -/
lemma performMap_holds {c c' : Cap} {pte : Pte} {ptSlot : Ptr × Nat} (h : s.Holds c') (hne : s.cap slot ≠ c') :
    (s.performMap c slot pte ptSlot).Holds c' :=
  State.holds_setCap h hne

lemma performMap_self {c : Cap} {pte : Pte} {ptSlot : Ptr × Nat} : (s.performMap c slot pte ptSlot).Holds c :=
  ⟨slot, update_self ..⟩

/-- The entry is in a table that is reached, hence in no table that a capability says to be empty. -/
lemma State.Inv.performMap_caps (i : s.Inv cfg) (hr : s.Reached cfg pt) {c : Cap} {pte : Pte} {j : Nat}
    (hcaps : (s.setCap slot c).CapsInv cfg) (hc : ∀ p, ¬Unmapped c p) :
    (s.performMap c slot pte (pt, j)).CapsInv cfg := by
  refine hcaps.of_pte rfl fun t p hu k hk => ?_
  have hne : p ≠ pt := by
    rintro rfl
    by_cases ht : t = slot
    · subst ht
      rw [show (s.setCap t c).cap t = c from update_self ..] at hu
      exact hc p hu
    · rw [show (s.setCap slot c).cap t = s.cap t from update_of_ne ht ..] at hu
      exact i.not_unmapped_of_reached hr hu
  rw [performMap_pte, if_neg fun h => hne h.1]
  exact hk

/-- The slot for a mapped frame: it is empty and the frame is new, or the capability is not mapped elsewhere. -/
def FrameSlot (s : State) (slot : Slot) (asid base v : Nat) (size : PageSize) (dev : Bool) : Prop :=
  s.cap slot = .null ∧ s.Fresh base ∨
    ∃ asid' addr rights, s.cap slot = .arch (.frame asid' base size addr rights dev) ∧
      (asid' ≠ asidInvalid → asid' = asid ∧ addr = v)

/-- A page is mapped. -/
lemma State.Inv.mapPage (i : s.Inv cfg) {size : PageSize} {rights : VmRights} {dev : Bool} {pte : Pte}
    (hslot : FrameSlot s slot asid base v size dev) (hl : s.Live asid root) (hv : v < 2 ^ cfg.vaddrBits)
    (halign : v % 2 ^ pageBitsForSize size = 0) (w : s.Walk cfg root v l pt)
    (hsize : pageBitsForSize size = ptBitsLeft l) (hpte : pte.pageBase = some base) :
    (s.performMap (.arch (.frame asid base size v rights dev)) slot pte (pt, uptIndex cfg v l)).Inv cfg := by
  obtain ⟨s', hs'⟩ : ∃ s', s.performMap (.arch (.frame asid base size v rights dev)) slot pte
    (pt, uptIndex cfg v l) = s' := ⟨_, rfl⟩
  have hround : roundDown v (ptBitsLeft l) = v := roundDown_of_aligned (hsize ▸ halign)
  have hr : s.Reached cfg pt := ⟨asid, root, v, l, hl, w⟩
  -- only frame capabilities change
  have hold : ∀ {c}, s.Holds c → (∀ a b z d r e, c ≠ .arch (.frame a b z d r e)) → c ≠ .null →
      s'.Holds c := by
    intro c hc hframe hnull
    rw [← hs']
    refine performMap_holds hc ?_
    rcases hslot with ⟨e, -⟩ | ⟨_, _, _, e, -⟩
    · rw [e]
      exact hnull.symm
    · rw [e]
      exact (hframe _ _ _ _ _ _).symm
  have hcaps : s'.CapsInv cfg := by
    rw [← hs']
    refine i.performMap_caps hr (i.toCapsInv.setCap (fun _ t hne hp hptr => ?_) (fun _ h => h.elim) ?_) fun _ => id
    · rcases hslot with ⟨-, hf⟩ | ⟨_, _, _, e, -⟩
      · exact absurd hptr (hf t hp)
      · have hco := i.coherent slot t (Ne.symm hne) (by rw [e]; exact id) hp (by rw [e]; exact hptr.symm)
        rw [e] at hco
        generalize s.cap t = c at hco
        cases hco
        exact .frame ..
    · intro _ _ _ _ _ _ e _
      injection e with e
      injection e with h1 h2 h3 h4
      exact h4 ▸ hv
  -- there are no new walks
  have hwalk : ∀ {r u k p}, s'.Walk cfg r u k p → s.Walk cfg r u k p := by
    intro r u k p w'
    refine Descent.mono w' fun n j m e => ?_
    rw [← hs'] at e
    rcases child_setPte e with e | ⟨-, -, e⟩
    · exact e
    · rw [Pte.child_of_pageBase hpte] at e
      cases e
  have hlive : ∀ {a r}, s'.Live a r → s.Live a r := by
    intro a r h
    rw [← hs'] at h
    exact h
  rw [hs']
  refine ⟨hcaps, ?_, ?_, ?_, ?_, ?_, ?_⟩
  · intro j p h
    rw [← hs'] at h
    exact hold (i.pool j p h) nofun nofun
  · intro a r h
    have := i.live a r (hlive h)
    exact ⟨this.1, hold this.2 nofun nofun⟩
  · intro a r h k k' l l' n w w'
    exact i.leveled a r (hlive h) (hwalk w) (hwalk w')
  · intro a r u k p h hu w' hlt
    exact hold (i.tables a r u k p (hlive h) hu (hwalk w') hlt) nofun nofun
  · intro a r u p h hu w'
    rw [← hs', performMap_pte]
    split
    · exact Pte.child_of_pageBase hpte
    · exact i.leaves a r u p (hlive h) hu (hwalk w')
  · intro a r u k p b h hu w' hb
    rw [← hs', performMap_pte] at hb
    split at hb
    · -- the entry that was written
      rename_i he
      obtain ⟨rfl, hi⟩ := he
      obtain ⟨rfl, rfl, rfl, hsame⟩ := i.entry_unique (hlive h) hl hu hv (hwalk w') w hi
      obtain rfl := Option.some.inj (hpte.symm.trans hb)
      refine ⟨size, rights, dev, hsize, ?_⟩
      rw [hsame.roundDown_eq, hround, ← hs']
      exact performMap_self
    · obtain ⟨z, r', d, hz, t, ht⟩ := i.pages a r u k p b (hlive h) hu (hwalk w') hb
      by_cases e : t = slot
      · -- the same page is mapped again
        subst e
        rcases hslot with ⟨hn, -⟩ | ⟨asid', addr, r'', e, hmap⟩
        · rw [hn] at ht
          cases ht
        · rw [e] at ht
          injection ht with ht
          injection ht with h1 h2 h3 h4 h5 h6
          obtain ⟨ha, hv'⟩ := hmap (h1 ▸ (i.live a r (hlive h)).1)
          refine ⟨size, rights, dev, h3 ▸ hz, ?_⟩
          rw [← h1, ← h2, ← h4, ha, hv', ← hs']
          exact performMap_self
      · refine ⟨z, r', d, hz, t, ?_⟩
        rw [← hs', performMap_cap, update_of_ne e]
        exact ht

/-- The slot for a mapped table: it is empty and the table is new, or the capability is not mapped. -/
def TableSlot (s : State) (slot : Slot) (base : Ptr) : Prop :=
  s.cap slot = .null ∧ s.Fresh base ∧ (∀ j, s.pte base j = .invalid) ∨
    ∃ asid addr, s.cap slot = .arch (.pageTable asid base false addr)

/-- A table is mapped. -/
lemma State.Inv.mapTable (i : s.Inv cfg) (hslot : TableSlot s slot base) (hl : s.Live asid root)
    (hv : v < 2 ^ cfg.vaddrBits) (w : s.Walk cfg root v (l + 1) pt) :
    (s.performMap (.arch (.pageTable asid base true (roundDown v (ptBitsLeft (l + 1))))) slot (.table base)
      (pt, uptIndex cfg v (l + 1))).Inv cfg := by
  obtain ⟨s', hs'⟩ : ∃ s', s.performMap (.arch (.pageTable asid base true (roundDown v (ptBitsLeft (l + 1))))) slot
    (.table base) (pt, uptIndex cfg v (l + 1)) = s' := ⟨_, rfl⟩
  have hr : s.Reached cfg pt := ⟨asid, root, v, l + 1, hl, w⟩
  -- nothing has come to the table so far, and it is empty
  have hnew : ¬s.Reached cfg base := by
    rcases hslot with ⟨-, hf, -⟩ | ⟨_, _, e⟩
    · exact fun h => i.not_fresh_of_reached h hf
    · exact fun h => i.not_unmapped_of_reached h (t := slot) (by rw [e]; rfl)
  have hempty : ∀ j, s.pte base j = .invalid := by
    rcases hslot with ⟨-, -, h⟩ | ⟨_, _, e⟩
    · exact h
    · exact i.clear slot base (by rw [e]; rfl)
  have hne : base ≠ pt := by
    rintro rfl
    exact hnew hr
  have hempty' : ∀ j, s'.pte base j = .invalid := by
    intro j
    rw [← hs', performMap_pte, if_neg fun h => hne h.1]
    exact hempty j
  have hold : ∀ {c}, s.Holds c → (∀ a b d, c ≠ .arch (.pageTable a b false d)) → c ≠ .null → s'.Holds c := by
    intro c hc htable hnull
    rw [← hs']
    refine performMap_holds hc ?_
    rcases hslot with ⟨e, -⟩ | ⟨_, _, e⟩
    · rw [e]
      exact hnull.symm
    · rw [e]
      exact (htable _ _ _).symm
  have hcaps : s'.CapsInv cfg := by
    rw [← hs']
    refine i.performMap_caps hr (i.toCapsInv.setCap (fun _ t hne hp hptr => ?_) (fun _ h => h.elim) nofun)
      fun _ => id
    rcases hslot with ⟨-, hf, -⟩ | ⟨_, _, e⟩
    · exact absurd hptr (hf t hp)
    · exact absurd (i.unmapped_unique (t := slot) (by rw [e]; rfl) hp hptr) hne
  -- the new walks are those to the table
  have hchild : ∀ n j m, (s'.pte n j).child = some m →
      (s.pte n j).child = some m ∨ n = pt ∧ j = uptIndex cfg v (l + 1) ∧ m = base := by
    intro n j m e
    rw [← hs'] at e
    rcases child_setPte e with e | ⟨h1, h2, e⟩
    · exact .inl e
    · exact .inr ⟨h1, h2, (Option.some.inj e).symm⟩
  have hnone : ∀ j, (s'.pte base j).child = none := by
    intro j
    rw [hempty' j]
    rfl
  have hlive : ∀ {a r}, s'.Live a r → s.Live a r := by
    intro a r h
    rw [← hs'] at h
    exact h
  rw [hs']
  refine ⟨hcaps, ?_, ?_, ?_, ?_, ?_, ?_⟩
  · intro j p h
    rw [← hs'] at h
    exact hold (i.pool j p h) nofun nofun
  · intro a r h
    have := i.live a r (hlive h)
    exact ⟨this.1, hold this.2 nofun nofun⟩
  · intro a r h
    refine Leveled.of_store (i.leveled a r (hlive h)) hchild hnone fun k j wb => ?_
    exact hnew ⟨a, r, k, j, hlive h, wb⟩
  · intro a r u k p h hu w' hlt
    rcases Descent.of_store hchild hnone w' with w' | ⟨rfl, w', hi⟩
    · exact hold (i.tables a r u k p (hlive h) hu w' hlt) nofun nofun
    · obtain ⟨rfl, rfl, hk, hsame⟩ := i.entry_unique (hlive h) hl hu hv w' w hi
      rw [hsame.roundDown_eq, hk, ← hs']
      exact performMap_self
  · intro a r u p h hu w'
    rcases Descent.of_store hchild hnone w' with w' | ⟨rfl, -, -⟩
    · rw [← hs', performMap_pte]
      split
      · -- the entry is in a table on a higher level
        rename_i he
        obtain ⟨rfl, hi⟩ := he
        obtain ⟨-, -, hk, -⟩ := i.entry_unique (hlive h) hl hu hv w' w hi
        exact absurd hk.symm (Nat.succ_ne_zero l)
      · exact i.leaves a r u p (hlive h) hu w'
    · exact hnone _
  · intro a r u k p b h hu w' hb
    rcases Descent.of_store hchild hnone w' with w' | ⟨rfl, -, -⟩
    · rw [← hs', performMap_pte] at hb
      split at hb
      · cases hb
      · obtain ⟨z, r', d, hz, hh⟩ := i.pages a r u k p b (hlive h) hu w' hb
        exact ⟨z, r', d, hz, hold hh nofun nofun⟩
    · rw [hempty'] at hb
      cases hb

end Map

/-! ## ASIDs -/

section Asids

variable {cfg : VspaceConfig} {s s' : State} {slot : Slot} {asid : Nat} {root pool : Ptr}

/-- From an empty root nothing else is reached. -/
lemma State.Walk.of_clear {r p : Ptr} {v l : Nat} (h : ∀ j, s.pte r j = .invalid) (w : s.Walk cfg r v l p) :
    l = cfg.top ∧ p = r := by
  induction w with
  | root => exact ⟨rfl, rfl⟩
  | down _ e ih =>
    rw [ih.2, h] at e
    cases e

/-- One ASID is new. -/
lemma State.Inv.assign_live (i : s.Inv cfg) {a b : Nat} {r : Ptr} (hc : s.cap slot = .arch (.vspace a root false))
    (hp : s.armKSASIDTable (asidHigh asid) = some pool) (h : (s.performASIDPoolInvocation asid pool slot).Live b r) :
    s.Live b r ∨ b = asid ∧ r = root := by
  unfold State.performASIDPoolInvocation at h
  rw [hc] at h
  obtain ⟨p, ht, hr⟩ := live_iff.mp h
  unfold State.setPoolEntry at ht hr
  by_cases e : p = pool
  · subst e
    by_cases e' : asidLow b = asidLow asid
    · have hhigh : asidHigh b = asidHigh asid := i.pool_index ht hp
      simp only [update_self, e', AsidMap.root] at hr
      refine .inr ⟨?_, (Option.some.inj hr).symm⟩
      unfold asidHigh at hhigh
      unfold asidLow at e'
      rw [← Nat.div_add_mod b (2 ^ asidLowBits), hhigh, e', Nat.div_add_mod]
    · simp only [update_self, ne_eq, e', not_false_eq_true, update_of_ne] at hr
      exact .inl (live_iff.mpr ⟨p, ht, hr⟩)
  · simp only [ne_eq, e, not_false_eq_true, update_of_ne] at hr
    exact .inl (live_iff.mpr ⟨p, ht, hr⟩)

/-- A VSpace gets an ASID. -/
lemma State.Inv.assign (i : s.Inv cfg) {a : Nat} (hc : s.cap slot = .arch (.vspace a root false))
    (hp : s.armKSASIDTable (asidHigh asid) = some pool) (hne : asid ≠ asidInvalid) :
    (s.performASIDPoolInvocation asid pool slot).Inv cfg := by
  have hlive : ∀ {b r}, (s.performASIDPoolInvocation asid pool slot).Live b r → s.Live b r ∨ b = asid ∧ r = root :=
    fun h => i.assign_live hc hp h
  have heq : s.performASIDPoolInvocation asid pool slot =
      (s.setCap slot (.arch (.vspace asid root true))).setPoolEntry pool (asidLow asid) (.vspace root 0 false) := by
    unfold State.performASIDPoolInvocation
    rw [hc]
  obtain ⟨s', hs'⟩ : ∃ s', s.performASIDPoolInvocation asid pool slot = s' := ⟨_, rfl⟩
  rw [hs'] at hlive ⊢
  rw [heq] at hs'
  have hcap : s'.cap = update s.cap slot (.arch (.vspace asid root true)) := by
    rw [← hs']
    rfl
  have hpte : s'.pte = s.pte := by
    rw [← hs']
    rfl
  have htable : s'.armKSASIDTable = s.armKSASIDTable := by
    rw [← hs']
    rfl
  have hself : s'.Holds (.arch (.vspace asid root true)) := ⟨slot, by rw [hcap, update_self]⟩
  have hold : ∀ {c}, s.Holds c → (∀ b r, c ≠ .arch (.vspace b r false)) → s'.Holds c := by
    rintro c ⟨t, ht⟩ hv
    refine ⟨t, ?_⟩
    rw [hcap, update_of_ne, ht]
    rintro rfl
    rw [hc] at ht
    exact hv _ _ ht.symm
  have hclear : ∀ j, s.pte root j = .invalid := i.clear slot root (by rw [hc]; rfl)
  have hwalk : ∀ {r u k p}, s'.Walk cfg r u k p → s.Walk cfg r u k p := by
    intro r u k p w
    unfold State.Walk at w
    rwa [hpte] at w
  have hcaps : s'.CapsInv cfg := by
    have hset : (s.setCap slot (.arch (.vspace asid root true))).CapsInv cfg := by
      refine i.toCapsInv.setCap (fun _ t hne hpl hptr => ?_) (fun _ h => h.elim) nofun
      exact absurd (i.unmapped_unique (t := slot) (by rw [hc]; rfl) hpl hptr) hne
    refine hset.of_pte hcap fun t p _ j hj => ?_
    rw [hpte]
    exact hj
  refine ⟨hcaps, ?_, ?_, ?_, ?_, ?_, ?_⟩
  · intro j p h
    rw [htable] at h
    exact hold (i.pool j p h) nofun
  · intro b r h
    rcases hlive h with h | ⟨rfl, rfl⟩
    · have := i.live b r h
      exact ⟨this.1, hold this.2 nofun⟩
    · exact ⟨hne, hself⟩
  · intro b r h k k' l l' n w w'
    rcases hlive h with h | ⟨-, rfl⟩
    · exact i.leveled b r h (hwalk w) (hwalk w')
    · exact ((hwalk w).of_clear hclear).1.trans ((hwalk w').of_clear hclear).1.symm
  · intro b r u k p h hu w hlt
    rcases hlive h with h | ⟨-, rfl⟩
    · exact hold (i.tables b r u k p h hu (hwalk w) hlt) nofun
    · exact absurd ((hwalk w).of_clear hclear).1 hlt.ne
  · intro b r u p h hu w
    rw [hpte]
    rcases hlive h with h | ⟨-, rfl⟩
    · exact i.leaves b r u p h hu (hwalk w)
    · rw [((hwalk w).of_clear hclear).2, hclear]
      rfl
  · intro b r u k p f h hu w hb
    rw [hpte] at hb
    rcases hlive h with h | ⟨-, rfl⟩
    · obtain ⟨z, rights, d, hz, hh⟩ := i.pages b r u k p f h hu (hwalk w) hb
      exact ⟨z, rights, d, hz, hold hh nofun⟩
    · rw [((hwalk w).of_clear hclear).2, hclear] at hb
      cases hb

/-- A new pool has no ASIDs. -/
lemma makePool_live {frame : Ptr} {j b : Nat} {r : Ptr}
    (hpool : s'.asidPool = update s.asidPool frame fun _ => .none)
    (htable : s'.armKSASIDTable = update s.armKSASIDTable j (some frame)) (h : s'.Live b r) :
    s.Live b r := by
  obtain ⟨p, ht, hr⟩ := live_iff.mp h
  rw [hpool] at hr
  rw [htable] at ht
  by_cases e : p = frame
  · subst e
    simp [AsidMap.root] at hr
  · rw [update_of_ne e] at hr
    refine live_iff.mpr ⟨p, ?_, hr⟩
    by_cases e' : asidHigh b = j
    · rw [e', update_self] at ht
      exact absurd (Option.some.inj ht).symm e
    · rwa [update_of_ne e'] at ht

/-- A new pool takes the place of none. -/
lemma State.Inv.makePool (i : s.Inv cfg) {frame : Ptr} {parent : Slot} {j : Nat} (hfresh : s.Fresh frame)
    (hparent : Plain (s.cap parent)) (hslot : s.cap slot = .null)
    (h : s.performASIDControlInvocation frame slot parent (j * 2 ^ asidLowBits) = .ok s') : s'.Inv cfg := by
  have hhigh : asidHigh (j * 2 ^ asidLowBits) = j := Nat.mul_div_cancel _ (Nat.two_pow_pos _)
  unfold State.performASIDControlInvocation at h
  obtain ⟨u, -, h⟩ := bind_eq_ok.mp h
  obtain rfl := Except.ok.inj h
  obtain ⟨s1, hs1⟩ : ∃ s1, s.setCap parent (fillUntyped (s.cap parent)) = s1 := ⟨_, rfl⟩
  -- the untyped capability is changed
  have hfill : Plain (fillUntyped (s.cap parent)) := by
    unfold fillUntyped
    split
    · trivial
    · exact hparent
  have hold1 : ∀ {c}, ¬Plain c → s.Holds c → s1.Holds c := by
    intro c hc hh
    rw [← hs1]
    refine State.holds_setCap hh ?_
    rintro rfl
    exact hc hparent
  have i1 : s1.Inv cfg := by
    refine i.of_caps ?_ ?_ ?_ ?_ fun c => hold1 <;> rw [← hs1] <;> first | rfl | skip
    exact i.toCapsInv.setPlain parent hfill
  have hfresh1 : s1.Fresh frame := by
    intro t ht
    rw [← hs1] at ht ⊢
    by_cases e : t = parent
    · subst e
      rw [show (s.setCap t (fillUntyped (s.cap t))).cap t = fillUntyped (s.cap t) from update_self ..] at ht
      exact absurd hfill ht
    · rw [show (s.setCap parent (fillUntyped (s.cap parent))).cap t = s.cap t from update_of_ne e ..] at ht ⊢
      exact hfresh t ht
  have hslot1 : Plain (s1.cap slot) := by
    rw [← hs1]
    by_cases e : slot = parent
    · subst e
      rw [show (s.setCap slot (fillUntyped (s.cap slot))).cap slot = fillUntyped (s.cap slot) from
        update_self ..]
      exact hfill
    · rw [show (s.setCap parent (fillUntyped (s.cap parent))).cap slot = s.cap slot from update_of_ne e ..,
        hslot]
      trivial
  have htable1 : s1.armKSASIDTable = s.armKSASIDTable := by
    rw [← hs1]
    rfl
  rw [hs1]
  clear hs1
  -- and then the pool is made
  obtain ⟨s', hs'⟩ : ∃ s', ({ ({ s1 with asidPool := update s1.asidPool frame fun _ => .none } : State).setCap
    slot (.arch (.asidPool (j * 2 ^ asidLowBits) frame)) with
      armKSASIDTable := update s1.armKSASIDTable (asidHigh (j * 2 ^ asidLowBits)) (some frame) } : State) =
    s' := ⟨_, rfl⟩
  have hcap : s'.cap = update s1.cap slot (.arch (.asidPool (j * 2 ^ asidLowBits) frame)) := by
    rw [← hs']
    rfl
  have hpte : s'.pte = s1.pte := by
    rw [← hs']
    rfl
  have hold : ∀ {c}, ¬Plain c → s1.Holds c → s'.Holds c := by
    rintro c hc ⟨t, ht⟩
    refine ⟨t, ?_⟩
    rw [hcap, update_of_ne, ht]
    rintro rfl
    rw [ht] at hslot1
    exact hc hslot1
  have htable : s'.armKSASIDTable = update s1.armKSASIDTable j (some frame) := by
    rw [← hs', hhigh]
  have hpool : s'.asidPool = update s1.asidPool frame fun _ => .none := by
    rw [← hs']
    rfl
  have hlive : ∀ {b r}, s'.Live b r → s1.Live b r := makePool_live hpool htable
  have hcaps : s'.CapsInv cfg := by
    have hset : (s1.setCap slot (.arch (.asidPool (j * 2 ^ asidLowBits) frame))).CapsInv cfg := by
      refine i1.toCapsInv.setCap (fun _ t _ hpl hptr => ?_) (fun _ h => h.elim) nofun
      exact absurd hptr (hfresh1 t hpl)
    refine hset.of_pte hcap fun t p _ k hk => ?_
    rw [hpte]
    exact hk
  refine (hs' ▸ i1.of_sub hcaps (fun _ _ => hlive) (fun p _ k => .inl (by rw [hpte])) ?_ (fun _ _ _ => hold id)
    (fun _ _ _ _ _ _ _ _ _ => hold id) fun _ _ _ _ _ _ _ rights _ _ _ _ _ _ hc => ⟨rights, hold id hc⟩ :)
  intro k p h
  rw [htable] at h
  by_cases e : k = j
  · subst e
    rw [update_self] at h
    obtain rfl := Option.some.inj h
    exact ⟨slot, by rw [hcap, update_self]⟩
  · rw [update_of_ne e] at h
    exact hold id (i1.pool k p h)

end Asids

end NexsKernel.Vspace
