import NexsKernel.Vspace.Safety

/-!
# Translations

What the walk at an address translates it to, and how the walk of the kernel, the mapping of a page and its
unmapping act on the translations: the entry that `lookupPTSlot` finds is the one that the walk ends in, and a page
that is entered or removed is one at the addresses of the page only, as a table is reached in one place.
-/

namespace NexsKernel.Vspace

namespace State

variable (cfg : VspaceConfig) (s : State)

/-- The walk at an address ends in an entry of a table: it is on the last level or it points to no table. -/
def Ends (root : Ptr) (v l : Nat) (pt : Ptr) : Prop :=
  s.Walk cfg root v l pt ∧ (l = 0 ∨ (s.pte pt (uptIndex cfg v l)).child = none)

/-- The walk at an address comes to a page, on a level, that is mapped to a frame. -/
def Translation (root : Ptr) (v : Nat) (base : Ptr) (l : Nat) : Prop :=
  ∃ pt, s.Walk cfg root v l pt ∧ (s.pte pt (uptIndex cfg v l)).pageBase = some base

/-- The address is in the page of another one, as far as a VSpace translates it. -/
def InPage (v l u : Nat) : Prop :=
  SameEntry (u % 2 ^ cfg.vaddrBits) (v % 2 ^ cfg.vaddrBits) l

/-- Outside of a page of a VSpace, all VSpaces translate as before. -/
def SameOutside (s' : State) (root : Ptr) (v l : Nat) : Prop :=
  ∀ asid' root' u, s.Live asid' root' → ¬(root' = root ∧ InPage cfg v l u) →
    ∀ base k, s'.Translation cfg root' u base k ↔ s.Translation cfg root' u base k

end State

section Walks

variable {cfg : VspaceConfig} {s : State} {root pt pt' base base' : Ptr} {v u l l' : Nat}

/-- A walk that goes on below a level comes to a table through its entry there. -/
lemma State.Walk.child_ne (w : s.Walk cfg root v l pt) (w' : s.Walk cfg root v l' pt') (h : l' < l) :
    (s.pte pt (State.uptIndex cfg v l)).child ≠ none := by
  obtain ⟨n, wn⟩ := w'.passes (Nat.le_pred_of_lt h) ((Nat.pred_le l).trans w.le_top)
  obtain ⟨m, wm, hm⟩ := wn.up (Nat.lt_of_lt_of_le (Nat.pred_lt (Nat.ne_of_gt (Nat.zero_lt_of_lt h))) w.le_top)
  have hl : l.pred + 1 = l := Nat.succ_pred (Nat.ne_of_gt (Nat.zero_lt_of_lt h))
  rw [hl] at wm hm
  rw [← w.det wm] at hm
  rw [hm]
  exact Option.some_ne_none n

/-- A walk ends in one entry. -/
lemma State.Ends.unique (e : s.Ends cfg root v l pt) (e' : s.Ends cfg root v l' pt') : l = l' ∧ pt = pt' := by
  have hle : ∀ {l l' pt pt'}, s.Ends cfg root v l pt → s.Ends cfg root v l' pt' → l ≤ l' := by
    rintro l l' pt pt' e e'
    by_contra hlt
    rw [Nat.not_le] at hlt
    rcases e.2 with rfl | hc
    · exact Nat.not_lt_zero _ hlt
    · exact e.1.child_ne e'.1 hlt hc
  obtain rfl : l = l' := le_antisymm (hle e e') (hle e' e)
  exact ⟨rfl, e.1.det e'.1⟩

lemma State.Ends.lookup (e : s.Ends cfg root v l pt) :
    s.lookupPTSlot cfg root v = ((pt, State.uptIndex cfg v l), ptBitsLeft l) :=
  lookupPTSlot_eq e.1 e.2

/-- Every walk ends. -/
lemma State.exists_ends (s : State) (cfg : VspaceConfig) (root : Ptr) (v : Nat) :
    ∃ l pt, s.Ends cfg root v l pt := by
  have aux : ∀ l pt, s.Walk cfg root v l pt → ∃ l pt, s.Ends cfg root v l pt := by
    intro l
    induction l with
    | zero => exact fun pt w => ⟨0, pt, w, .inl rfl⟩
    | succ l ih =>
      intro pt w
      cases hc : (s.pte pt (State.uptIndex cfg v (l + 1))).child with
      | none => exact ⟨l + 1, pt, w, .inr hc⟩
      | some pt' => exact ih pt' (.down w hc)
  exact aux cfg.top root .root

lemma State.Translation.ends (t : s.Translation cfg root v base l) : ∃ pt, s.Ends cfg root v l pt ∧
    (s.pte pt (State.uptIndex cfg v l)).pageBase = some base := by
  obtain ⟨pt, w, hb⟩ := t
  exact ⟨pt, ⟨w, .inr (Pte.child_of_pageBase hb)⟩, hb⟩

/-- The bits that a VSpace does not translate do not matter. -/
lemma State.walk_mod : s.Walk cfg root (v % 2 ^ cfg.vaddrBits) l pt ↔ s.Walk cfg root v l pt :=
  ⟨fun w => Descent.congr w fun _ _ hj => uptIndex_mod hj, fun w => w.mod⟩

/-- In one page, walks and entries are the same. -/
lemma State.InPage.walk (h : State.InPage cfg v l u) (w : s.Walk cfg root v l pt) :
    s.Walk cfg root u l pt ∧ State.uptIndex cfg u l = State.uptIndex cfg v l := by
  refine ⟨State.walk_mod.mp (w.mod.congr fun _ => h.symm.succ), ?_⟩
  rw [← uptIndex_mod w.le_top, ← uptIndex_mod (v := v) w.le_top]
  exact h.index le_rfl

end Walks

section Stores

variable {cfg : VspaceConfig} {s s' : State} {asid asid' : Nat} {root root' pt base : Ptr} {v u l k : Nat} {e : Pte}

/-- An entry that points to no table is replaced by one that does not either: in the page the new entry is found,
and all other addresses of all VSpaces are translated as before. -/
lemma State.Inv.translation_store (i : s.Inv cfg) (hl : s.Live asid root) (w : s.Walk cfg root v l pt)
    (hold : (s.pte pt (uptIndex cfg v l)).child = none) (hnew : e.child = none)
    (hpte : s'.pte = (s.setPte (pt, uptIndex cfg v l) e).pte) :
    (∀ u, InPage cfg v l u → ∀ b k, s'.Translation cfg root u b k ↔ k = l ∧ e.pageBase = some b) ∧
    s.SameOutside cfg s' root v l := by
  -- no walk changes
  have hchild : (fun pt i => (s'.pte pt i).child) = fun pt i => (s.pte pt i).child := by
    funext q j
    rw [hpte, setPte_pte]
    split
    · rename_i h
      rw [hnew, h.1, h.2, hold]
    · rfl
  have hwalk : ∀ {r u k p}, s'.Walk cfg r u k p ↔ s.Walk cfg r u k p := by
    intro r u k p
    unfold State.Walk
    rw [hchild]
  have hself : s'.pte pt (uptIndex cfg v l) = e := by
    rw [hpte, setPte_pte, if_pos ⟨rfl, rfl⟩]
  constructor
  · intro u hu b k
    obtain ⟨wu, hi⟩ := hu.walk w
    constructor
    · rintro ⟨pt', w', hb⟩
      have e1 : s'.Ends cfg root u k pt' := ⟨w', .inr (Pte.child_of_pageBase hb)⟩
      have e2 : s'.Ends cfg root u l pt := by
        refine ⟨hwalk.mpr wu, .inr ?_⟩
        rw [hi, hself]
        exact hnew
      obtain ⟨rfl, rfl⟩ := e1.unique e2
      rw [hi, hself] at hb
      exact ⟨rfl, hb⟩
    · rintro ⟨rfl, hb⟩
      refine ⟨pt, hwalk.mpr wu, ?_⟩
      rw [hi, hself]
      exact hb
  · intro asid' root' u hl' hne b k
    have hentry : ∀ {pt'}, s.Walk cfg root' u k pt' → s'.pte pt' (uptIndex cfg u k) = s.pte pt' (uptIndex cfg u k) := by
      intro pt' w'
      rw [hpte, setPte_pte, if_neg]
      -- the entry is in one place
      rintro ⟨rfl, hi⟩
      rw [← uptIndex_mod w'.le_top, ← uptIndex_mod (v := v) w.le_top] at hi
      obtain ⟨-, hroot, rfl, hsame⟩ := i.entry_unique hl' hl (Nat.mod_lt _ (Nat.two_pow_pos _))
        (Nat.mod_lt _ (Nat.two_pow_pos _)) w'.mod w.mod hi
      exact hne ⟨hroot, hsame⟩
    constructor
    · rintro ⟨pt', w', hb⟩
      rw [hwalk] at w'
      rw [hentry w'] at hb
      exact ⟨pt', w', hb⟩
    · rintro ⟨pt', w', hb⟩
      refine ⟨pt', hwalk.mpr w', ?_⟩
      rw [hentry w']
      exact hb

/-- The entry that a walk in a live VSpace ends in points to no table. -/
lemma State.Inv.ends_child (i : s.Inv cfg) (hl : s.Live asid root) (e : s.Ends cfg root v l pt) :
    (s.pte pt (uptIndex cfg v l)).child = none := by
  rcases e.2 with rfl | hc
  · rw [← uptIndex_mod (Nat.zero_le _)]
    exact i.leaves asid root _ pt hl (Nat.mod_lt _ (Nat.two_pow_pos _)) e.1.mod
  · exact hc

end Stores

/-! ## Pages -/

section Pages

variable {cfg : VspaceConfig} {s s' : State}

/-- The VSpace and the address that a frame is mapped at are those of the request. -/
lemma decodeFrame_request {cte : Slot} {asid0 : Nat} {base : Ptr} {size : PageSize} {addr : Nat} {rights : VmRights}
    {dev : Bool} {q : Request} {inv : Invocation} (hq : q.label = .pageMap)
    (h : s.decodeARMFrameInvocation cfg cte asid0 base size addr rights dev q = .ok inv) :
    ∃ v rootSlot asid root l pt, q.mrs.head? = some v ∧ q.extraCaps.head? = some rootSlot ∧
      s.cap rootSlot = .arch (.vspace asid root true) ∧ s.Live asid root ∧ s.Ends cfg root v l pt ∧
      pageBitsForSize size = ptBitsLeft l ∧
      inv = .pageMap (.arch (.frame asid base size v rights dev)) cte (makeUserPagePTE base size)
        (pt, State.uptIndex cfg v l) := by
  unfold State.decodeARMFrameInvocation at h
  rw [hq] at h
  dsimp only at h
  split at h
  · rename_i v _ _ _ rootSlot _ hmrs hcaps
    obtain ⟨⟨asid, root⟩, hroot, h⟩ := bind_eq_ok.mp h
    dsimp only at h
    obtain ⟨-, h⟩ := refuseIf_bind.mp h
    obtain ⟨l, pt, e⟩ := s.exists_ends cfg root v
    rw [e.lookup] at h
    -- the capability of the VSpace
    have hcap : s.cap rootSlot = .arch (.vspace asid root true) := by
      unfold State.decodeRoot at hroot
      split at hroot
      · rename_i asid' root' hvalid
        split at hroot
        · cases hroot
        · split at hroot
          · cases hroot
          · rename_i hne
            obtain ⟨rfl, rfl⟩ := Prod.ext_iff.mp (Except.ok.inj hroot)
            rw [not_not.mp hne]
            unfold isValidNativeRoot at hvalid
            split at hvalid
            · rename_i hc
              obtain ⟨rfl, rfl⟩ := Prod.ext_iff.mp (Option.some.inj hvalid)
              exact hc
            · cases hvalid
      · cases hroot
    have hbits : ∀ {x : Except SyscallError Invocation},
        (refuseIf (ptBitsLeft l ≠ pageBitsForSize size) (.failedLookup false) >>= fun _ => x) = .ok inv →
          pageBitsForSize size = ptBitsLeft l ∧ x = .ok inv := by
      intro x hx
      obtain ⟨hb, hx⟩ := refuseIf_bind.mp hx
      exact ⟨(not_not.mp hb).symm, hx⟩
    refine ⟨v, rootSlot, asid, root, l, pt, by rw [hmrs]; rfl, by rw [hcaps]; rfl, hcap, decodeRoot_ok hroot, e, ?_⟩
    split at h
    · obtain ⟨-, h⟩ := refuseIf_bind.mp h
      obtain ⟨-, h⟩ := refuseIf_bind.mp h
      obtain ⟨hb, h⟩ := hbits h
      exact ⟨hb, (Except.ok.inj h).symm⟩
    · obtain ⟨-, h⟩ := refuseIf_bind.mp h
      obtain ⟨hb, h⟩ := hbits h
      exact ⟨hb, (Except.ok.inj h).symm⟩
  · cases h

lemma makeUserPagePTE_pageBase (base : Ptr) (size : PageSize) : (makeUserPagePTE base size).pageBase = some base := by
  cases size <;> rfl

/-- `unmapPage` when the entry at the address maps the frame at the size. -/
lemma unmapPage_of_translation {asid vptr l : Nat} {root pptr : Ptr} {size : PageSize} (hl : s.Live asid root)
    (hsize : pageBitsForSize size = ptBitsLeft l) (t : s.Translation cfg root vptr pptr l) :
    ∃ pt, s.Ends cfg root vptr l pt ∧ (s.pte pt (State.uptIndex cfg vptr l)).child = none ∧
      s.unmapPage cfg size asid vptr pptr = s.setPte (pt, State.uptIndex cfg vptr l) .invalid := by
  obtain ⟨pt, e, hb⟩ := t.ends
  refine ⟨pt, e, Pte.child_of_pageBase hb, ?_⟩
  have hfind : s.findVSpaceForASID asid = some root := hl
  unfold State.unmapPage
  rw [hfind]
  dsimp only
  rw [e.lookup, if_neg (not_not.mpr hsize.symm), if_pos hb]

/-- `unmapPage` when it does not. -/
lemma unmapPage_of_not {asid vptr : Nat} {pptr : Ptr} {size : PageSize}
    (h : ∀ root l, s.Live asid root → pageBitsForSize size = ptBitsLeft l → ¬s.Translation cfg root vptr pptr l) :
    s.unmapPage cfg size asid vptr pptr = s := by
  unfold State.unmapPage
  split
  · rename_i root hfind
    obtain ⟨l, pt, e⟩ := s.exists_ends cfg root vptr
    rw [e.lookup]
    dsimp only
    by_cases hsize : ptBitsLeft l = pageBitsForSize size
    · rw [if_neg (not_not.mpr hsize), if_neg]
      exact fun hb => h root l hfind hsize.symm ⟨pt, e.1, hb⟩
    · rw [if_pos hsize]
  · rfl

end Pages

/-- `lookupPTSlot` finds the entry and the bits left where the walk at the address ends; a page that is mapped is found
at all its addresses and changes no other translation; and `unmapPage` removes the page at an address if it is mapped
to the frame at the size, and else changes nothing. -/
theorem inv_translations {cfg : VspaceConfig} {s : State} (i : s.Inv cfg) :
    (∀ root v, ∃ l pt, s.Ends cfg root v l pt ∧ (∀ l' pt', s.Ends cfg root v l' pt' → l' = l ∧ pt' = pt) ∧
      s.lookupPTSlot cfg root v =
        ((pt, v / 2 ^ (9 * l + 12) % 2 ^ (if l = cfg.top then cfg.vspaceIndexBits else 9)), 9 * l + 12)) ∧
    (∀ cte asid0 base size addr rights dev q inv s', q.label = .pageMap →
      s.decodeARMFrameInvocation cfg cte asid0 base size addr rights dev q = .ok inv → s.perform cfg inv = .ok s' →
      ∃ v rootSlot asid root l, q.mrs.head? = some v ∧ q.extraCaps.head? = some rootSlot ∧
        s.cap rootSlot = .arch (.vspace asid root true) ∧ s.Live asid root ∧ s'.findVSpaceForASID =
        s.findVSpaceForASID ∧ pageBitsForSize size = ptBitsLeft l ∧
        (∀ u, State.InPage cfg v l u → s'.Translation cfg root u base l) ∧ s.SameOutside cfg s' root v l) ∧
    ∀ size asid vptr pptr,
      (∀ root l, s.Live asid root → pageBitsForSize size = ptBitsLeft l → s.Translation cfg root vptr pptr l →
        (∀ u, State.InPage cfg vptr l u → ∀ b k, ¬(s.unmapPage cfg size asid vptr pptr).Translation cfg root u b k) ∧
        s.SameOutside cfg (s.unmapPage cfg size asid vptr pptr) root vptr l ∧
        ∃ ptSlot, s.unmapPage cfg size asid vptr pptr = s.setPte ptSlot .invalid) ∧
      ((∀ root l, s.Live asid root → pageBitsForSize size = ptBitsLeft l → ¬s.Translation cfg root vptr pptr l) →
        s.unmapPage cfg size asid vptr pptr = s) := by
  refine ⟨fun root v => ?_, fun cte asid0 base size addr rights dev q inv s' hq hd hp => ?_, fun size asid vptr pptr =>
    ⟨fun root l hl hsize t => ?_, unmapPage_of_not⟩⟩
  · obtain ⟨l, pt, e⟩ := s.exists_ends cfg root v
    refine ⟨l, pt, e, fun l' pt' e' => ?_, e.lookup⟩
    obtain ⟨rfl, rfl⟩ := e.unique e'
    exact ⟨rfl, rfl⟩
  · obtain ⟨v, rootSlot, asid, root, l, pt, hv, hroot, hcap, hl, e, hsize, rfl⟩ := decodeFrame_request hq hd
    obtain rfl := Except.ok.inj hp
    have hb := makeUserPagePTE_pageBase base size
    obtain ⟨hin, hout⟩ := i.translation_store hl e.1 (i.ends_child hl e) (Pte.child_of_pageBase hb)
      (show (s.performMap (.arch (.frame asid base size v rights dev)) cte (makeUserPagePTE base size)
        (pt, State.uptIndex cfg v l)).pte = _ from rfl)
    exact ⟨v, rootSlot, asid, root, l, hv, hroot, hcap, hl, rfl, hsize, fun u hu =>
      (hin u hu base l).mpr ⟨rfl, hb⟩, hout⟩
  · obtain ⟨pt, e, hc, heq⟩ := unmapPage_of_translation hl hsize t
    have hpte : (s.unmapPage cfg size asid vptr pptr).pte =
      (s.setPte (pt, State.uptIndex cfg vptr l) .invalid).pte := by
      rw [heq]
    obtain ⟨hin, hout⟩ := i.translation_store hl e.1 hc (e := .invalid) rfl hpte
    refine ⟨fun u hu b k t' => ?_, hout, _, heq⟩
    have := ((hin u hu b k).mp t').2
    cases this

/-- A page that is unmapped. -/
theorem inv_translations_onePage :
    ¬∃ b k, (onePage.unmapPage armHyp40 .small 1 0x400000 0x8060005000).Translation armHyp40 0x8060000000 0x400123 b k := by
  have i : onePage.Inv armHyp40 := State.Reachable.inv (.boot onePage_booted)
  rintro ⟨b, k, t⟩
  refine (((inv_translations i).2.2 .small 1 0x400000 0x8060005000).1 0x8060000000 0 rfl rfl ?_).1 0x400123 rfl b k t
  exact ⟨0x8060004000, .down (.down .root rfl) rfl, rfl⟩

end NexsKernel.Vspace
