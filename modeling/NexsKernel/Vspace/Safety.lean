import NexsKernel.Vspace.Steps

/-!
# Mappings and ASIDs in every run

The address space of the initial thread satisfies the invariant, hence every state of a run does. So whatever a walk in
a live VSpace comes to has a capability, and a VSpace that gets an ASID is empty.
-/

namespace NexsKernel.Vspace

open Function (update update_self update_of_ne)

variable {cfg : VspaceConfig} {s s' : State}

/-! ## Booting -/

lemma Fresh.of_setCap {slot : Slot} {c : Cap} (hslot : s.cap slot = .null) {p : Ptr}
    (h : (s.setCap slot c).Fresh p) : s.Fresh p := by
  intro t ht
  have hne : t ≠ slot := by
    rintro rfl
    rw [hslot] at ht
    exact ht trivial
  have e : (s.setCap slot c).cap t = s.cap t := update_of_ne hne ..
  have := h t
  rw [e] at this
  exact this ht

/-- A table with an entry has a capability. -/
lemma State.Inv.clear_of_fresh (i : s.Inv cfg) {slot : Slot} {c : Cap} {pte : Pte} {pt : Ptr} {j : Nat}
    (hclear : ∀ p, s.Fresh p → ∀ k, s.pte p k = .invalid) (hslot : s.cap slot = .null) (hr : s.Reached cfg pt)
    {p : Ptr} (hf : (s.performMap c slot pte (pt, j)).Fresh p) (k : Nat) :
    (s.performMap c slot pte (pt, j)).pte p k = .invalid := by
  have hf' : s.Fresh p := Fresh.of_setCap hslot hf
  rw [performMap_pte, if_neg]
  · exact hclear p hf' k
  · rintro ⟨rfl, -⟩
    exact i.not_fresh_of_reached hr hf'

lemma boot_live {root pool : Ptr} {rootSlot poolSlot : Slot} {asid : Nat} {r : Ptr} :
    (State.boot root pool rootSlot poolSlot).Live asid r ↔ asid = 1 ∧ r = root := by
  have harith : asid / 2 ^ asidLowBits = 0 ∧ asid % 2 ^ asidLowBits = 1 ↔ asid = 1 := by
    unfold asidLowBits
    omega
  rw [live_iff, ← harith]
  unfold State.boot asidHigh asidLow
  constructor
  · rintro ⟨p, ht, hr⟩
    dsimp only at ht hr
    split at ht
    · rename_i hz
      obtain rfl := Option.some.inj ht
      split at hr
      · rename_i h
        exact ⟨⟨hz, h.2⟩, (Option.some.inj hr).symm⟩
      · cases hr
    · cases ht
  · rintro ⟨⟨hz, ho⟩, rfl⟩
    refine ⟨pool, by simp [hz], ?_⟩
    simp [ho, AsidMap.root]

lemma boot_cap {root pool : Ptr} {rootSlot poolSlot : Slot} (hne : rootSlot ≠ poolSlot) {t : Slot}
    (ht : ¬Plain ((State.boot root pool rootSlot poolSlot).cap t)) :
    t = rootSlot ∧ (State.boot root pool rootSlot poolSlot).cap t = .arch (.vspace 1 root true) ∨
      t = poolSlot ∧ (State.boot root pool rootSlot poolSlot).cap t = .arch (.asidPool 0 pool) := by
  unfold State.boot at ht ⊢
  by_cases e : t = poolSlot
  · subst e
    exact .inr ⟨rfl, update_self ..⟩
  · by_cases e' : t = rootSlot
    · subst e'
      exact .inl ⟨rfl, (update_of_ne e ..).trans (update_self ..)⟩
    · dsimp only at ht
      rw [update_of_ne e, update_of_ne e'] at ht
      exact absurd trivial ht

/-- At the start only the root and the pool are there. -/
lemma boot_inv {root pool : Ptr} {rootSlot poolSlot : Slot} (hslot : rootSlot ≠ poolSlot) (hptr : root ≠ pool) :
    (State.boot root pool rootSlot poolSlot).Inv cfg := by
  obtain ⟨b, hb⟩ : ∃ b, State.boot root pool rootSlot poolSlot = b := ⟨_, rfl⟩
  have hcap : ∀ t, ¬Plain (b.cap t) → t = rootSlot ∧ b.cap t = .arch (.vspace 1 root true) ∨
      t = poolSlot ∧ b.cap t = .arch (.asidPool 0 pool) := by
    rw [← hb]
    exact fun t => boot_cap hslot
  have hpte : ∀ p j, b.pte p j = .invalid := by
    rw [← hb]
    exact fun _ _ => rfl
  have hroot : b.cap rootSlot = .arch (.vspace 1 root true) := by
    rw [← hb]
    exact (update_of_ne hslot ..).trans (update_self ..)
  have hpool : b.cap poolSlot = .arch (.asidPool 0 pool) := by
    rw [← hb]
    exact update_self ..
  have hlive : ∀ {a r}, b.Live a r → a = 1 ∧ r = root := by
    rw [← hb]
    exact boot_live.mp
  have hwalk : ∀ {r u k p}, b.Walk cfg r u k p → k = cfg.top ∧ p = r := fun w => w.of_clear (hpte _)
  rw [hb]
  refine ⟨⟨?_, fun _ p _ j => hpte p j, ?_⟩, ?_, ?_, ?_, ?_, ?_, ?_⟩
  · intro t t' hne ht ht' e
    rcases hcap t ht with ⟨rfl, h⟩ | ⟨rfl, h⟩ <;> rcases hcap t' ht' with ⟨rfl, h'⟩ | ⟨rfl, h'⟩
    · exact absurd rfl hne
    · rw [h, h'] at e
      exact absurd e hptr
    · rw [h, h'] at e
      exact absurd e.symm hptr
    · exact absurd rfl hne
  · intro t asid base size addr rights dev ht
    rcases hcap t (by rw [ht]; exact id) with ⟨-, h⟩ | ⟨-, h⟩ <;> rw [h] at ht <;> cases ht
  · intro j p h
    rw [← hb] at h
    unfold State.boot at h
    dsimp only at h
    split at h
    · rename_i hj
      obtain rfl := Option.some.inj h
      exact ⟨poolSlot, by rw [hpool, hj, Nat.zero_mul]⟩
    · cases h
  · intro a r h
    obtain ⟨rfl, rfl⟩ := hlive h
    exact ⟨Nat.one_ne_zero, rootSlot, hroot⟩
  · intro a r h k k' l l' n w w'
    exact (hwalk w).1.trans (hwalk w').1.symm
  · intro a r u k p h hu w hlt
    exact absurd (hwalk w).1 hlt.ne
  · intro a r u p h hu w
    rw [hpte]
    rfl
  · intro a r u k p f h hu w hf
    rw [hpte] at hf
    cases hf

/-- The boot code keeps the invariant, and uses only tables with a capability. -/
lemma booted_inv {root : Ptr} (h : State.Booted cfg root s) :
    s.Inv cfg ∧ s.Live 1 root ∧ ∀ p, s.Fresh p → ∀ j, s.pte p j = .invalid := by
  induction h with
  | root hslot hptr => exact ⟨boot_inv hslot hptr, boot_live.mpr ⟨rfl, rfl⟩, fun _ _ _ => rfl⟩
  | @table s slot base pt vptr l _ hslot hf htop halign w ih =>
    obtain ⟨i, hl, hclear⟩ := ih
    have hr : s.Reached cfg pt := ⟨1, root, vptr, l + 1, hl, w⟩
    have := i.mapTable (.inl ⟨hslot, hf, hclear base hf⟩) hl (cfg.lt_of_le_userTop htop) w
    rw [roundDown_of_aligned halign] at this
    exact ⟨this, hl, fun p hp j => i.clear_of_fresh hclear hslot hr hp j⟩
  | @frame s slot base pt vptr _ hslot hf htop halign w ih =>
    obtain ⟨i, hl, hclear⟩ := ih
    have hr : s.Reached cfg pt := ⟨1, root, vptr, 0, hl, w⟩
    refine ⟨i.mapPage (.inl ⟨hslot, hf⟩) hl (cfg.lt_of_le_userTop htop) halign w rfl rfl, hl, fun p hp j => ?_⟩
    exact i.clear_of_fresh hclear hslot hr hp j
  | @unmapped s slot base size _ hslot hf ih =>
    obtain ⟨i, hl, hclear⟩ := ih
    exact ⟨i.retype hslot (.frame base size .readWrite false) hf, hl, fun p hp => hclear p (Fresh.of_setCap hslot hp)⟩
  | @other s slot c _ hslot hc ih =>
    obtain ⟨i, hl, hclear⟩ := ih
    have hnull : Plain (s.cap slot) := by
      rw [hslot]
      trivial
    exact ⟨i.other hnull hc, hl, fun p hp => hclear p (Fresh.of_setCap hslot hp)⟩

lemma State.Reachable.inv (h : State.Reachable cfg s) : s.Inv cfg := by
  induction h with
  | boot h => exact (booted_inv h).1
  | step _ h ih => exact ih.step h

/-! ## New ASIDs -/

/-- Only a VSpace without an ASID gets one. -/
lemma live_of_step (i : s.Inv cfg) (h : State.Step cfg s s') {asid : Nat} {root : Ptr} (hl : s'.Live asid root)
    (hn : ¬s.Live asid root) : ∃ slot, Unmapped (s.cap slot) root ∧ s'.pte = s.pte := by
  cases h with
  | @invoke final dest noChildren cte q inv _ hf hd hfresh hp =>
    unfold State.decodeARMMMUInvocation at hd
    split at hd
    · rename_i asid' base m addr hc
      rcases decodePageTable_ok hd with ⟨-, rfl⟩ | ⟨-, _, _, _, _, _, -, -, -, rfl⟩
      · -- unmapping changes no ASID
        refine absurd ?_ hn
        unfold State.perform State.performPageTableInvocationUnmap at hp
        dsimp only at hp
        split at hp
        · obtain ⟨s1, h1, hp⟩ := bind_eq_ok.mp hp
          obtain rfl := Except.ok.inj hp
          cases hu : s.unmapPageTable cfg asid' addr base with
          | error e =>
            rw [hu] at h1
            cases h1
          | ok s0 =>
            rw [hu] at h1
            obtain rfl := Except.ok.inj h1
            exact (unmapPageTable_loses hu).live.mp hl
        · obtain rfl := Except.ok.inj hp
          exact hl
      · obtain rfl := Except.ok.inj hp
        exact absurd hl hn
    · rename_i asid' base size addr rights dev hc
      rcases decodeFrame_ok hd with rfl | ⟨_, _, _, _, _, -, -, -, -, -, -, rfl⟩
      · obtain rfl := Except.ok.inj hp
        refine absurd ?_ hn
        have hl' : (if asid' ≠ asidInvalid then s.unmapPage cfg size asid' addr base else s).Live asid root := hl
        split at hl'
        · exact (unmapPage_loses size).live.mp hl'
        · exact hl'
      · obtain rfl := Except.ok.inj hp
        exact absurd hl hn
    · obtain ⟨frame, slot, parent, j, rfl, -, -, -⟩ := decodeASIDControl_ok hd
      obtain ⟨u, -, hp⟩ := bind_eq_ok.mp hp
      obtain rfl := Except.ok.inj hp
      exact absurd (makePool_live (s := s) rfl rfl hl) hn
    · rename_i base pool hc
      obtain ⟨j, slot, asid', root', rfl, hj, hne, hpool, -, hslot⟩ := decodeASIDPool_ok hd
      obtain rfl := Except.ok.inj hp
      obtain ⟨t, ht⟩ := i.pool _ pool hpool
      have hhigh := asidHigh_add (i.pool_base ht hc) hj
      rcases i.assign_live hslot (hhigh ▸ hpool) hl with h | ⟨-, rfl⟩
      · exact absurd h hn
      · refine ⟨slot, by rw [hslot]; rfl, ?_⟩
        unfold State.performASIDPoolInvocation
        rw [hslot]
        rfl
    · cases hd
  | delete hf h => exact absurd (deleteSlot_live h hl) hn
  | @retype slot c table _ _ _ => exact absurd ((clearTable_loses _ table).live.mp hl) hn
  | @scribblePool p f h =>
    refine absurd ?_ hn
    obtain ⟨pool, hp, hr⟩ := live_iff.mp hl
    refine live_iff.mpr ⟨pool, hp, ?_⟩
    have hne : pool ≠ p := by
      rintro rfl
      obtain ⟨t, ht⟩ := i.pool _ pool hp
      exact h t (by rw [ht]; rfl)
    have e : ({ s with asidPool := update s.asidPool p f } : State).asidPool pool = s.asidPool pool :=
      update_of_ne hne ..
    rwa [e] at hr
  | @switch slot _ h =>
    have hcur : SameMaps s { s with curVTable := some slot } := ⟨rfl, rfl, rfl, fun _ _ => rfl⟩
    exact absurd ((hcur.trans (setVMRoot_sameMaps h)).live.mp hl) hn
  | fastpath h => exact absurd ((fastpathSwitch_sameMaps h).live.mp hl) hn
  | _ => exact absurd hl hn

/-! ## The results -/

/-- What a walk in a live VSpace comes to, in any run: a page has a frame capability with its address, its size, the
ASID and the place of the page; a table has a page-table capability with the ASID and its place. Of a frame to which
there is no capability there is no page. -/
theorem reachable_mapped (h : State.Reachable cfg s) :
    (∀ asid root v l pt f, s.findVSpaceForASID asid = some root → s.Walk cfg root v l pt →
      (s.pte pt (State.uptIndex cfg v l)).pageBase = some f →
      ∃ slot size rights dev, pageBitsForSize size = ptBitsLeft l ∧
        s.cap slot = .arch (.frame asid f size (roundDown (v % 2 ^ cfg.vaddrBits) (ptBitsLeft l)) rights dev)) ∧
    (∀ asid root v l pt pt', s.findVSpaceForASID asid = some root → s.Walk cfg root v l pt →
      s.pte pt (State.uptIndex cfg v l) = .table pt' →
      ∃ slot, s.cap slot = .arch (.pageTable asid pt' true (roundDown (v % 2 ^ cfg.vaddrBits) (ptBitsLeft l)))) ∧
    ∀ f, (∀ slot asid size addr rights dev, s.cap slot ≠ .arch (.frame asid f size addr rights dev)) →
      ∀ asid root v l pt, s.findVSpaceForASID asid = some root → s.Walk cfg root v l pt →
        (s.pte pt (State.uptIndex cfg v l)).pageBase ≠ some f := by
  have i := h.inv
  have hlt : ∀ v, v % 2 ^ cfg.vaddrBits < 2 ^ cfg.vaddrBits := fun v => Nat.mod_lt _ (Nat.two_pow_pos _)
  have hpages : ∀ asid root v l pt f, s.findVSpaceForASID asid = some root → s.Walk cfg root v l pt →
      (s.pte pt (State.uptIndex cfg v l)).pageBase = some f →
      ∃ slot size rights dev, pageBitsForSize size = ptBitsLeft l ∧
        s.cap slot = .arch (.frame asid f size (roundDown (v % 2 ^ cfg.vaddrBits) (ptBitsLeft l)) rights dev) := by
    intro asid root v l pt f hl w hf
    rw [← uptIndex_mod w.le_top] at hf
    obtain ⟨size, rights, dev, hsize, slot, hc⟩ := i.pages asid root _ l pt f hl (hlt v) w.mod hf
    exact ⟨slot, size, rights, dev, hsize, hc⟩
  refine ⟨hpages, fun asid root v l pt pt' hl w he => ?_, fun f hno asid root v l pt hl w hf => ?_⟩
  · have hchild : (s.pte pt (State.uptIndex cfg (v % 2 ^ cfg.vaddrBits) l)).child = some pt' := by
      rw [uptIndex_mod w.le_top, he]
      rfl
    cases l with
    | zero =>
      rw [i.leaves asid root _ pt hl (hlt v) w.mod] at hchild
      cases hchild
    | succ l => exact i.tables asid root _ l pt' hl (hlt v) (.down w.mod hchild) w.le_top
  · obtain ⟨slot, size, rights, dev, -, hc⟩ := hpages asid root v l pt f hl w hf
    exact hno slot _ _ _ _ _ hc

/-- A hypervisor with 40-bit addresses, on which the root has the place of two concatenated tables. -/
def armHyp40 : VspaceConfig := ⟨true, 2, 10, 2 ^ 40 - 1, by decide⟩

/-- The initial thread with its VSpace and its ASID pool. -/
def rootOnly : State :=
  State.boot 0x8060000000 0x8060002000 3 6

def oneDirectory : State :=
  rootOnly.performMap (.arch (.pageTable 1 0x8060003000 true 0)) 20 (.table 0x8060003000) (0x8060000000, 0)

def oneTable : State :=
  oneDirectory.performMap (.arch (.pageTable 1 0x8060004000 true 0x400000)) 21 (.table 0x8060004000)
    (0x8060003000, 2)

/-- It has one page, at `0x400000`. -/
def onePage : State :=
  oneTable.performMap (.arch (.frame 1 0x8060005000 .small 0x400000 .readWrite false)) 22 (.page4k 0x8060005000)
    (0x8060004000, 0)

/-- Only slots that were used hold capabilities. -/
lemma fresh_of_slots {slots : List Slot} {p : Ptr} (hnull : ∀ t, t ∉ slots → Plain (s.cap t))
    (h : ∀ t ∈ slots, capPtr (s.cap t) ≠ p) : s.Fresh p := by
  intro t ht
  by_cases hm : t ∈ slots
  · exact h t hm
  · exact absurd (hnull t hm) ht

lemma plain_performMap {slots : List Slot} {slot : Slot} {c : Cap} {pte : Pte} {ptSlot : Ptr × Nat}
    (h : ∀ t, t ∉ slots → Plain (s.cap t)) (t : Slot) (ht : t ∉ slot :: slots) :
    Plain ((s.performMap c slot pte ptSlot).cap t) := by
  obtain ⟨hne, hm⟩ := not_or.mp (mt List.mem_cons.mpr ht)
  rw [performMap_cap, update_of_ne hne]
  exact h t hm

lemma rootOnly_plain (t : Slot) (ht : t ∉ [3, 6]) : Plain (rootOnly.cap t) := by
  by_contra hp
  rcases boot_cap (by decide) hp with ⟨rfl, -⟩ | ⟨rfl, -⟩ <;> exact ht (by decide)

lemma oneTable_plain : ∀ t, t ∉ [21, 20, 3, 6] → Plain (oneTable.cap t) :=
  plain_performMap (plain_performMap rootOnly_plain)

lemma onePage_booted : State.Booted armHyp40 0x8060000000 onePage := by
  have p0 := rootOnly_plain
  have p1 : ∀ t, t ∉ [20, 3, 6] → Plain (oneDirectory.cap t) := plain_performMap p0
  have p2 := oneTable_plain
  have b0 : State.Booted armHyp40 0x8060000000 rootOnly := .root (by decide) (by decide)
  have b1 : State.Booted armHyp40 0x8060000000 oneDirectory :=
    @State.Booted.table _ _ _ 20 _ _ 0 1 b0 rfl (fresh_of_slots p0 (by decide)) (by decide) (by decide) .root
  have b2 : State.Booted armHyp40 0x8060000000 oneTable :=
    @State.Booted.table _ _ _ 21 _ _ 0x400000 0 b1 rfl (fresh_of_slots p1 (by decide)) (by decide) (by decide)
      (.down .root rfl)
  exact @State.Booted.frame _ _ _ 22 _ _ 0x400000 b2 rfl (fresh_of_slots p2 (by decide)) (by decide) (by decide)
    (.down (.down .root rfl) rfl)

/-- The page that the boot code maps. -/
theorem reachable_mapped_onePage : ∃ slot size rights dev, pageBitsForSize size = 12 ∧
    onePage.cap slot = .arch (.frame 1 0x8060005000 size 0x400000 rights dev) :=
  (reachable_mapped (.boot onePage_booted)).1 1 0x8060000000 0x400123 0 0x8060004000 _ rfl
    (.down (.down .root rfl) rfl) rfl

/-- ASIDs in any run: 0 is not assigned, an ASID resolves to one VSpace at most and a VSpace is the value of one ASID
at most; and a VSpace that gets an ASID contains no mapping. -/
theorem reachable_asids (h : State.Reachable cfg s) :
    s.findMapForASID asidInvalid = .none ∧
    (∀ asid root root', s.findVSpaceForASID asid = some root → s.findVSpaceForASID asid = some root' → root = root') ∧
    (∀ asid asid' root, s.findVSpaceForASID asid = some root → s.findVSpaceForASID asid' = some root → asid = asid') ∧
    ∀ s' asid root, State.Step cfg s s' → s'.findVSpaceForASID asid = some root →
      s.findVSpaceForASID asid ≠ some root → ∀ j, s.pte root j = .invalid ∧ s'.pte root j = .invalid := by
  have i := h.inv
  refine ⟨?_, fun asid root root' h h' => ?_, fun _ _ _ => i.live_asid, fun s' asid root hs hl hn j => ?_⟩
  · cases hm : s.findMapForASID asidInvalid with
    | none => rfl
    | vspace root vmid valid =>
      have hl : s.Live asidInvalid root := by
        unfold State.Live State.findVSpaceForASID
        rw [hm]
      exact absurd rfl (i.live _ _ hl).1
  · exact Option.some.inj (h.symm.trans h')
  · obtain ⟨slot, hu, hpte⟩ := live_of_step i hs hl hn
    rw [hpte]
    exact ⟨i.clear slot root hu j, i.clear slot root hu j⟩

/-- There is a second VSpace, without an ASID. -/
def newVspace : State :=
  (onePage.setCap 30 (.arch (.vspace asidInvalid 0x8060006000 false))).clearTable (some 0x8060006000)

/-- It gets ASID 2. -/
def twoVspaces : State :=
  newVspace.performASIDPoolInvocation 2 0x8060002000 30

lemma newVspace_step : State.Step armHyp40 onePage newVspace := by
  have hplain : ∀ t, t ∉ [22, 21, 20, 3, 6] → Plain (onePage.cap t) := plain_performMap oneTable_plain
  exact @State.Step.retype _ _ 30 _ _ rfl (.vspace 0x8060006000) (fresh_of_slots hplain (by decide))

lemma twoVspaces_step : State.Step armHyp40 newVspace twoVspaces := by
  have hfinal : ∃ final, newVspace.FinalAt 6 final := by
    classical exact ⟨decide _, fun _ => decide_eq_true_iff⟩
  obtain ⟨final, hfinal⟩ := hfinal
  have hdecode : newVspace.decodeARMMMUInvocation armHyp40 final (.ok 0) (.ok ()) 6 ⟨.asidPoolAssign, [], [30]⟩ =
      .ok (.assign 2 0x8060002000 30) := by
    cases final <;> decide +kernel
  exact .invoke hfinal hdecode nofun rfl

/-- The root with the second ASID has no other. -/
theorem reachable_asids_twoVspaces :
    twoVspaces.findVSpaceForASID 1 = some 0x8060000000 ∧ twoVspaces.findVSpaceForASID 2 = some 0x8060006000 ∧
      ∀ asid, twoVspaces.findVSpaceForASID asid = some 0x8060006000 → asid = 2 :=
  ⟨rfl, rfl, fun asid h =>
    (reachable_asids (.step (.step (.boot onePage_booted) newVspace_step) twoVspaces_step)).2.2.1 asid 2 _ h rfl⟩

end NexsKernel.Vspace
