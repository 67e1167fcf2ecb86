import NexsKernel.Vspace.Maps

/-!
# Unmapping

What is unmapped is found again by the address in the capability: the entry of a page, and the entry above a table.
So the deletion of the last capability to a frame, to a table, to a VSpace or to an ASID pool leaves no mapping that
it stood for, and the invariant holds after it.
-/

namespace NexsKernel.Vspace

section Unmap

variable {cfg : VspaceConfig} {s s' : State} {asid addr : Nat} {base root pt : Ptr} {v l : Nat}

/-! ## Pages -/

lemma unmapPage_loses (size : PageSize) : Loses s (s.unmapPage cfg size asid addr base) := by
  unfold State.unmapPage
  split
  · dsimp only
    split
    · exact .refl _
    · split
      · exact .setPte _ _
      · exact .refl _
  · exact .refl _

/-- The entry of a page is found by any address in it. -/
lemma unmapPage_entry {size : PageSize} (hl : s.Live asid root) (w : s.Walk cfg root v l pt)
    (hsize : pageBitsForSize size = ptBitsLeft l) (haddr : SameEntry v addr l)
    (he : (s.pte pt (State.uptIndex cfg v l)).pageBase = some base) :
    (s.unmapPage cfg size asid addr base).pte pt (State.uptIndex cfg v l) = .invalid := by
  have hi : State.uptIndex cfg v l = State.uptIndex cfg addr l := haddr.index le_rfl
  rw [hi] at he ⊢
  have hw : s.Walk cfg root addr l pt := w.congr fun _ => haddr.succ
  have hlookup := lookupPTSlot_eq hw (.inr (Pte.child_of_pageBase he))
  have hfind : s.findVSpaceForASID asid = some root := hl
  unfold State.unmapPage
  simp only [hfind, hlookup, hsize, he, ne_eq, not_true_eq_false, if_false, if_true]
  rw [setPte_pte, if_pos ⟨rfl, rfl⟩]

/-! ## Tables -/

lemma unmapPageTable_loses (h : s.unmapPageTable cfg asid addr base = .ok s') : Loses s s' := by
  unfold State.unmapPageTable at h
  split at h
  · split at h
    · obtain rfl := Except.ok.inj h
      exact (Loses.setPte _ _).trans (invalidateTLBByASID_sameMaps _ _).loses
    · cases h
    · obtain rfl := Except.ok.inj h
      exact .refl _
  · obtain rfl := Except.ok.inj h
    exact .refl _

/-- The table is not reached any more at the addresses for which it was mapped. -/
lemma unmapPageTable_walk (i : s.Inv cfg) (h : s.unmapPageTable cfg asid addr base = .ok s')
    (hl : s.Live asid root) (haddr : SameEntry v addr (l + 1)) (hlt : l < cfg.top) :
    ¬s'.Walk cfg root v l base := by
  intro w'
  have hloses := unmapPageTable_loses h
  have hfind : s.findVSpaceForASID asid = some root := hl
  have haddr' : s.Walk cfg root addr l base := (hloses.walk w').congr fun _ => haddr
  -- the entry above the table is still there
  obtain ⟨m, wm, hm⟩ := Descent.up w' hlt
  have wm' : s.Walk cfg root addr (l + 1) m := (hloses.walk wm).congr fun _ => haddr.succ
  unfold State.unmapPageTable at h
  rw [hfind] at h
  dsimp only at h
  split at h
  · rename_i ptSlot hx
    rcases findTable_walk .root hx with ⟨-, hnone⟩ | ⟨j, m', wj, hslot, hchild⟩
    · cases hnone
    · obtain rfl := Except.ok.inj h
      obtain rfl : j = l := i.leveled asid root hl (.down wj hchild) haddr'
      obtain rfl : m = m' := wm'.det wj
      obtain rfl := Option.some.inj hslot
      -- but it was the one to be removed
      rw [(invalidateTLBByASID_sameMaps _ _).pte, haddr.index le_rfl, setPte_pte, if_pos ⟨rfl, rfl⟩] at hm
      cases hm
  · cases h
  · rename_i hx
    exact findTable_none .root hx hlt.le haddr'

end Unmap

/-! ## Deletion -/

section Delete

variable {cfg : VspaceConfig} {s s' : State} {slot : Slot} {asid addr : Nat} {base : Ptr}

/-- A slot with a capability that others do not depend on. -/
lemma State.CapsInv.setPlain (i : s.CapsInv cfg) (slot : Slot) {c : Cap} (hc : Plain c) :
    (s.setCap slot c).CapsInv cfg := by
  refine i.setCap (fun h => absurd hc h) (fun p hu => absurd hc hu.not_plain.1) ?_
  rintro _ _ _ _ _ _ rfl
  exact hc.elim

/-- The mapping of a frame capability goes away, with the capability or without it. -/
lemma State.Inv.unmapFrame (i : s.Inv cfg) {size : PageSize} {rights : VmRights} {dev : Bool} {c : Cap}
    (hc : s.cap slot = .arch (.frame asid base size addr rights dev))
    (hc' : c = .null ∨ c = .arch (.frame asidInvalid base size 0 rights dev)) :
    ((if asid ≠ asidInvalid then s.unmapPage cfg size asid addr base else s).setCap slot c).Inv cfg := by
  -- the state in which the page is unmapped
  obtain ⟨s1, hs1⟩ : ∃ s1, (if asid ≠ asidInvalid then s.unmapPage cfg size asid addr base else s) = s1 := ⟨_, rfl⟩
  rw [hs1]
  have hloses : Loses s s1 := by
    rw [← hs1]
    split
    · exact unmapPage_loses size
    · exact .refl _
  have hcap : s1.cap slot = .arch (.frame asid base size addr rights dev) := hloses.cap ▸ hc
  refine i.of_remove hloses.cap ?_ ?_ (fun p _ => hloses.pte p) ?_ ?_ ?_
  · have hcaps := hloses.capsInv i.toCapsInv
    rcases hc' with rfl | rfl
    · exact hcaps.setPlain slot trivial
    · refine hcaps.setCap (fun _ t hne hp hptr => ?_) (fun _ h => h.elim) ?_
      · -- the others are coherent with a frame at that address
        have hco := hcaps.coherent slot t (Ne.symm hne) (by rw [hcap]; exact id) hp (by rw [hcap]; exact hptr.symm)
        rw [hcap] at hco
        cases ht : s1.cap t with
        | arch a =>
          rw [ht] at hco
          cases hco
          exact .frame ..
        | _ =>
          rw [ht] at hco
          cases hco
      · intro asid' _ _ _ _ _ e hne
        injection e with e
        injection e with e
        exact absurd e.symm hne
  · intro asid' root h
    refine ⟨hloses.live.mp h, ?_⟩
    rw [hc]
    nofun
  · intro j p h
    rw [hloses.table] at h
    rw [hc]
    exact ⟨h, nofun⟩
  · intro _ _ _ _ _ _ _ _ _
    rw [hc]
    nofun
  · intro asid' root v l pt base' size' rights' dev' h hv w hb hsize e
    rw [hc] at e
    injection e with e
    injection e with h1 h2 h3 h4 h5 h6
    subst h1 h2 h3 h4
    have hlive := hloses.live.mp h
    have hne := (i.live asid root hlive).1
    rw [if_pos hne] at hs1
    have hgone := unmapPage_entry hlive (hloses.walk w) hsize sameEntry_roundDown.symm (hloses.pageBase hb)
    rw [hs1] at hgone
    rw [hgone] at hb
    cases hb

/-- The capability that counts as final is the only one to its object. -/
lemma State.Inv.final_unique (i : s.Inv cfg) (hf : s.FinalAt slot true) (hp : ¬Plain (s.cap slot))
    (hframe : ∀ asid base size addr rights dev, s.cap slot ≠ .arch (.frame asid base size addr rights dev))
    {t : Slot} (ht : ¬Plain (s.cap t)) (hptr : capPtr (s.cap t) = capPtr (s.cap slot)) : t = slot := by
  by_contra hne
  have hco := i.coherent slot t (Ne.symm hne) hp ht hptr.symm
  have hsame : sameObjectAs (s.cap slot) (s.cap slot) = true ∧ sameObjectAs (s.cap slot) (s.cap t) = true := by
    cases hs : s.cap slot with
    | arch a =>
      rw [hs] at hco
      cases a with
      | frame => exact absurd hs (hframe _ _ _ _ _ _)
      | _ =>
        generalize s.cap t = c at hco
        cases hco <;> exact ⟨beq_self_eq_true _, beq_self_eq_true _⟩
    | _ => exact absurd (by rw [hs]; trivial) hp
  rw [((hf hsame.1).mp rfl) t hne] at hsame
  cases hsame.2

/-- A capability that is not final has an equal in another slot. -/
lemma State.Inv.holds_of_not_final (i : s.Inv cfg) (hf : s.FinalAt slot false)
    (hself : sameObjectAs (s.cap slot) (s.cap slot) = true) (hp : ¬Plain (s.cap slot))
    (hframe : ∀ asid base size addr rights dev, s.cap slot ≠ .arch (.frame asid base size addr rights dev)) :
    ∃ t, t ≠ slot ∧ s.cap t = s.cap slot := by
  by_contra hno
  have hall : ∀ t, t ≠ slot → sameObjectAs (s.cap slot) (s.cap t) = false := by
    intro t hne
    by_contra hs
    have hobj := sameObjectAs_iff.mp (Bool.not_eq_false _ ▸ hs)
    have hptr := (sameRegion_of_objectOf hobj.1 hobj.2).ptr
    have hpt : ¬Plain (s.cap t) := by
      intro hpt
      rw [Bool.not_eq_false] at hs
      cases hc : s.cap slot with
      | arch a =>
        rw [hc] at hs hp
        cases ht : s.cap t with
        | arch b =>
          rw [ht] at hs hpt
          cases a <;> cases b <;> first | exact hp trivial | exact hpt | cases hs
        | _ =>
          rw [ht] at hs
          cases hs
      | _ => exact hp (by rw [hc]; trivial)
    have hco := i.coherent slot t (Ne.symm hne) hp hpt hptr
    refine hno ⟨t, hne, ?_⟩
    cases hc : s.cap slot with
    | arch a =>
      rw [hc] at hco
      cases a with
      | frame => exact absurd hc (hframe _ _ _ _ _ _)
      | _ =>
        generalize s.cap t = c at hco ⊢
        cases hco <;> rfl
    | _ => exact absurd (by rw [hc]; trivial) hp
  have := (hf hself).mpr hall
  cases this

/-- A capability is deleted that has an equal in another slot. -/
lemma State.Inv.of_copy (i : s.Inv cfg) {t : Slot} (hne : t ≠ slot) (ht : s.cap t = s.cap slot) :
    (s.setCap slot .null).Inv cfg := by
  refine i.of_caps (i.toCapsInv.setPlain slot trivial) rfl rfl rfl ?_
  rintro c hc ⟨u, hu⟩
  by_cases e : u = slot
  · subst e
    exact ⟨t, (Function.update_of_ne hne ..).trans (ht.trans hu)⟩
  · exact ⟨u, (Function.update_of_ne e ..).trans hu⟩

/-- The final capability to a table goes away, and the table with it. -/
lemma State.Inv.unmapTable (i : s.Inv cfg) {m : Bool} {c : Cap} {s1 : State}
    (hc : s.cap slot = .arch (.pageTable asid base m addr)) (hf : s.FinalAt slot true)
    (h : (if m then s.unmapPageTable cfg asid addr base else .ok s) = .ok s1) (hloses : Loses s1 s')
    (hc' : c = .null ∨ c = .arch (.pageTable asid base false addr) ∧ ∀ j, s'.pte base j = .invalid) :
    (s'.setCap slot c).Inv cfg := by
  have hloses1 : Loses s s1 := by
    split at h
    · exact unmapPageTable_loses h
    · obtain rfl := Except.ok.inj h
      exact .refl _
  have hl := hloses1.trans hloses
  have huniq : ∀ t, ¬Plain (s.cap t) → capPtr (s.cap t) = base → t = slot := by
    intro t hp hptr
    refine i.final_unique hf (by rw [hc]; exact id) (by rw [hc]; nofun) hp ?_
    rw [hptr, hc]
    rfl
  refine i.of_remove hl.cap ?_ ?_ (fun p _ => hl.pte p) ?_ ?_ ?_
  · have hcaps := hl.capsInv i.toCapsInv
    rcases hc' with rfl | ⟨rfl, hclear⟩
    · exact hcaps.setPlain slot trivial
    · refine hcaps.setCap (fun _ t hne hp hptr => ?_) ?_ nofun
      · rw [hl.cap] at hp hptr
        exact absurd (huniq t hp hptr) hne
      · rintro p rfl
        exact hclear
  · intro asid' root h
    refine ⟨hl.live.mp h, ?_⟩
    rw [hc]
    nofun
  · intro j p h
    rw [hl.table] at h
    rw [hc]
    exact ⟨h, nofun⟩
  · intro asid' root v l pt hlive hv w hlt e
    rw [hc] at e
    injection e with e
    injection e with h1 h2 h3 h4
    have haddr : SameEntry v addr (l + 1) := by
      rw [h4]
      exact sameEntry_roundDown.symm
    clear h4
    subst h1 h2 h3
    simp only [if_true] at h
    exact unmapPageTable_walk i h (hl.live.mp hlive) haddr hlt (hloses.walk w)
  · intro _ _ _ _ _ _ _ _ _ _ _ _ _ _
    rw [hc]
    nofun

/-- The ASIDs that are left when the final capability to a VSpace is deleted. -/
lemma deleteVSpace_spec {m : Bool} (h : (if m then s.deleteASID cfg asid base else .ok s) = .ok s') :
    (s'.cap = s.cap ∧ s'.pte = s.pte ∧ s'.armKSASIDTable = s.armKSASIDTable) ∧
      ∀ asid' root, s'.Live asid' root → s.Live asid' root ∧ (m = true → asid' = asid → root ≠ base) := by
  cases m with
  | false =>
    obtain rfl := Except.ok.inj h
    exact ⟨⟨rfl, rfl, rfl⟩, fun _ _ hl => ⟨hl, nofun⟩⟩
  | true =>
    rcases deleteASID_spec h with ⟨rfl, hno⟩ | ⟨-, pool, ht, hs⟩
    · refine ⟨⟨rfl, rfl, rfl⟩, fun asid' root hl => ⟨hl, ?_⟩⟩
      rintro - rfl rfl
      exact hno hl
    · refine ⟨⟨hs.cap, hs.pte, hs.table⟩, fun asid' root hl => ?_⟩
      obtain ⟨pool', ht', hroot⟩ := live_iff.mp (hs.live.mp hl)
      unfold State.setPoolEntry at ht' hroot
      by_cases hp : pool' = pool
      · subst hp
        by_cases hlow : asidLow asid' = asidLow asid
        · simp [hlow, AsidMap.root] at hroot
        · simp only [Function.update_self, ne_eq, hlow, not_false_eq_true, Function.update_of_ne] at hroot
          refine ⟨live_iff.mpr ⟨pool', ht', hroot⟩, ?_⟩
          rintro - rfl
          exact absurd rfl hlow
      · simp only [ne_eq, hp, not_false_eq_true, Function.update_of_ne] at hroot
        refine ⟨live_iff.mpr ⟨pool', ht', hroot⟩, ?_⟩
        rintro - rfl
        exact absurd (Option.some.inj (ht'.symm.trans ht)) hp

/-- The final capability to a VSpace goes away, and the ASID with it. -/
lemma State.Inv.deleteVSpace (i : s.Inv cfg) {m : Bool} (hc : s.cap slot = .arch (.vspace asid base m))
    (h : (if m then s.deleteASID cfg asid base else .ok s) = .ok s') : (s'.setCap slot .null).Inv cfg := by
  obtain ⟨⟨hcap, hpte, htable⟩, hlive⟩ := deleteVSpace_spec h
  have hcaps : s'.CapsInv cfg := i.toCapsInv.of_pte hcap fun t p _ j hj => by rw [hpte, hj]
  refine i.of_remove hcap (hcaps.setPlain slot trivial) ?_ (fun p _ j => .inl (by rw [hpte])) ?_ ?_ ?_
  · intro asid' root hl
    obtain ⟨hl', hno⟩ := hlive asid' root hl
    refine ⟨hl', fun e => ?_⟩
    rw [hc] at e
    injection e with e
    injection e with h1 h2 h3
    exact hno h3 h1.symm h2.symm
  · intro j p hp
    rw [htable] at hp
    rw [hc]
    exact ⟨hp, nofun⟩
  · intro _ _ _ _ _ _ _ _ _
    rw [hc]
    nofun
  · intro _ _ _ _ _ _ _ _ _ _ _ _ _ _
    rw [hc]
    nofun

/-- The pools that are left when the final capability to one is deleted. -/
lemma deletePool_spec {pool : Ptr} (h : s.deleteASIDPool cfg base pool = .ok s') :
    (s'.cap = s.cap ∧ s'.pte = s.pte ∧ ∀ p k, (s'.asidPool p k).root = (s.asidPool p k).root) ∧
      ∀ j p, s'.armKSASIDTable j = some p → s.armKSASIDTable j = some p ∧ (j = asidHigh base → p ≠ pool) := by
  rcases deleteASIDPool_spec h with ⟨rfl, hno⟩ | ⟨-, hs⟩
  · refine ⟨⟨rfl, rfl, fun _ _ => rfl⟩, fun j p hp => ⟨hp, ?_⟩⟩
    rintro rfl rfl
    exact hno hp
  · refine ⟨⟨hs.cap, hs.pte, hs.root⟩, fun j p hp => ?_⟩
    rw [hs.table] at hp
    by_cases hj : j = asidHigh base
    · simp [hj] at hp
    · exact ⟨(Function.update_of_ne hj ..).symm.trans hp, fun e => absurd e hj⟩

lemma deletePool_live {pool : Ptr} (h : s.deleteASIDPool cfg base pool = .ok s') {b r : Nat} (hl : s'.Live b r) :
    s.Live b r := by
  obtain ⟨⟨-, -, hroot⟩, htable⟩ := deletePool_spec h
  obtain ⟨pool', hp, hr⟩ := live_iff.mp hl
  rw [hroot] at hr
  exact live_iff.mpr ⟨pool', (htable _ _ hp).1, hr⟩

/-- The final capability to an ASID pool goes away, and all its ASIDs with it. -/
lemma State.Inv.deletePool (i : s.Inv cfg) {pool : Ptr} (hc : s.cap slot = .arch (.asidPool base pool))
    (h : s.deleteASIDPool cfg base pool = .ok s') : (s'.setCap slot .null).Inv cfg := by
  obtain ⟨⟨hcap, hpte, hroot⟩, htable⟩ := deletePool_spec h
  have hcaps : s'.CapsInv cfg := i.toCapsInv.of_pte hcap fun t p _ j hj => by rw [hpte, hj]
  refine i.of_remove hcap (hcaps.setPlain slot trivial) ?_ (fun p _ j => .inl (by rw [hpte])) ?_ ?_ ?_
  · intro asid' root hl
    rw [hc]
    exact ⟨deletePool_live h hl, nofun⟩
  · intro j p hp
    obtain ⟨hp', hne⟩ := htable j p hp
    refine ⟨hp', fun e => ?_⟩
    rw [hc] at e
    obtain rfl := Option.some.inj e
    -- the capability says where the pool is
    obtain ⟨t, ht⟩ := i.pool j pool hp'
    refine hne ?_ rfl
    rw [← i.pool_base ht hc]
    exact (Nat.mul_div_cancel _ (Nat.two_pow_pos _)).symm
  · intro _ _ _ _ _ _ _ _ _
    rw [hc]
    nofun
  · intro _ _ _ _ _ _ _ _ _ _ _ _ _ _
    rw [hc]
    nofun

/-- No ASID comes back by a deletion. -/
lemma deleteSlot_live {final : Bool} (h : s.deleteSlot cfg slot final = .ok s') {b r : Nat} (hl : s'.Live b r) :
    s.Live b r := by
  unfold State.deleteSlot at h
  obtain ⟨s1, h1, h⟩ := bind_eq_ok.mp h
  obtain rfl := Except.ok.inj h
  have hl1 : s1.Live b r := hl
  unfold State.archFinaliseCap at h1
  split at h1
  · split at h1
    · exact deletePool_live h1 hl1
    · exact (Except.ok.inj h1) ▸ hl1
  · split at h1
    · exact ((deleteVSpace_spec (m := true) (by simpa using h1)).2 b r hl1).1
    · exact (Except.ok.inj h1) ▸ hl1
  · split at h1
    · exact (unmapPageTable_loses h1).live.mp hl1
    · exact (Except.ok.inj h1) ▸ hl1
  · split at h1
    · obtain rfl := Except.ok.inj h1
      exact (unmapPage_loses _).live.mp hl1
    · exact (Except.ok.inj h1) ▸ hl1
  · exact (Except.ok.inj h1) ▸ hl1

/-- Deletion keeps the invariant. -/
lemma State.Inv.deleteSlot (i : s.Inv cfg) {final : Bool} (hf : s.FinalAt slot final)
    (h : s.deleteSlot cfg slot final = .ok s') : s'.Inv cfg := by
  unfold State.deleteSlot at h
  obtain ⟨s1, h1, h⟩ := bind_eq_ok.mp h
  obtain rfl := Except.ok.inj h
  have hplain : Plain (s.cap slot) → s1 = s → (s1.setCap slot .null).Inv cfg := by
    rintro hp rfl
    refine i.of_caps (i.toCapsInv.setPlain slot trivial) rfl rfl rfl fun c hc hh => State.holds_setCap hh ?_
    rintro rfl
    exact hc hp
  -- what is not final has an equal
  have hcopy : final = false → sameObjectAs (s.cap slot) (s.cap slot) = true → ¬Plain (s.cap slot) →
      (∀ asid base size addr rights dev, s.cap slot ≠ .arch (.frame asid base size addr rights dev)) → s1 = s →
      (s1.setCap slot .null).Inv cfg := by
    rintro rfl hself hp hframe rfl
    obtain ⟨t, hne, ht⟩ := i.holds_of_not_final hf hself hp hframe
    exact i.of_copy hne ht
  unfold State.archFinaliseCap at h1
  split at h1
  · rename_i asidBase pool hc
    cases final with
    | true => exact i.deletePool hc h1
    | false =>
      refine hcopy rfl ?_ (by rw [hc]; exact id) (by rw [hc]; nofun) (Except.ok.inj h1).symm
      rw [hc]
      exact beq_self_eq_true _
  · rename_i asid base m hc
    cases final with
    | true => exact i.deleteVSpace hc (by simpa using h1)
    | false =>
      refine hcopy rfl ?_ (by rw [hc]; exact id) (by rw [hc]; nofun) (by simpa using h1.symm)
      rw [hc]
      exact beq_self_eq_true _
  · rename_i asid base m addr hc
    cases final with
    | true => exact i.unmapTable hc hf (by simpa using h1) (.refl _) (.inl rfl)
    | false =>
      refine hcopy rfl ?_ (by rw [hc]; exact id) (by rw [hc]; nofun) (by simpa using h1.symm)
      rw [hc]
      exact beq_self_eq_true _
  · rename_i asid base size addr rights dev hc
    have := i.unmapFrame hc (.inl rfl)
    by_cases hne : asid ≠ asidInvalid
    · rw [if_pos hne] at this h1
      obtain rfl := Except.ok.inj h1
      exact this
    · rw [if_neg hne] at this h1
      obtain rfl := Except.ok.inj h1
      exact this
  · rename_i hpool hvspace htable hframe
    refine hplain ?_ (Except.ok.inj h1).symm
    cases hc : s.cap slot with
    | arch a =>
      cases a with
      | frame => exact absurd hc (hframe _ _ _ _ _ _)
      | pageTable => exact absurd hc (htable _ _ _ _)
      | vspace => exact absurd hc (hvspace _ _ _)
      | asidPool => exact absurd hc (hpool _ _)
      | _ => trivial
    | _ => trivial

end Delete

end NexsKernel.Vspace
