import NexsKernel.Vspace.Safety

/-!
# VMIDs in every run

The table of VMIDs and the tags of the ASIDs are inverse to each other, and the last VSpace that used a VMID since its
translations were invalidated still has it. So a VMID only passes from one VSpace to another with an invalidation in
between, as long as the empty root of threads without a VSpace is not loaded: that is loaded with VMID 0, which the first
VSpace gets, and without an invalidation.
-/

namespace NexsKernel.Vspace

open Function (update update_self update_of_ne)

/-- The root that was loaded last with a VMID, unless the translations have been invalidated since; it is `none` for
`armKSGlobalUserVSpace`. -/
def lastUser (h : Nat) : List TlbEvent → Option (Option Ptr)
  | [] => none
  | .setRoot h' root :: es => if h' = h then some root else lastUser h es
  | .invalidateTranslationASID h' :: es => if h' = h then none else lastUser h es

/-- Every use of a VMID follows an invalidation, or a use with the same root. -/
def Separate : List TlbEvent → Prop
  | [] => True
  | e :: es => Separate es ∧ ∀ h root root', e = .setRoot h root' → lastUser h es = some root → root = root'

/-- How often `armKSGlobalUserVSpace` was loaded. -/
def emptyRootLoads : List TlbEvent → Nat
  | [] => 0
  | .setRoot _ none :: es => emptyRootLoads es + 1
  | _ :: es => emptyRootLoads es

/-- The invariant of VMIDs. -/
structure VmidInv (s : State) : Prop where
  next : s.armKSNextASID < nHwASIDs
  table : ∀ h a, a ≠ asidInvalid →
    (s.armKSHWASIDTable h = a ↔ ∃ root, s.findMapForASID a = .vspace root h true)
  user : ∀ h root, lastUser h s.tlb = some (some root) →
    ∃ a, a ≠ asidInvalid ∧ s.findMapForASID a = .vspace root h true
  separate : emptyRootLoads s.tlb = 0 → Separate s.tlb

/-- The places of the pools, and ASID 0. -/
structure Pools (s : State) : Prop where
  inj : ∀ j k p, s.armKSASIDTable j = some p → s.armKSASIDTable k = some p → j = k
  zero : ∀ root, ¬s.Live asidInvalid root

/-! ## The TLB -/

section Log

variable {h : Nat} {es es' : List TlbEvent} {root root' : Option Ptr}

lemma lastUser_invalidate {h' : Nat} (hl : lastUser h (.invalidateTranslationASID h' :: es) = some root) :
    h' ≠ h ∧ lastUser h es = some root := by
  unfold lastUser at hl
  split at hl
  · cases hl
  · rename_i hne
    exact ⟨hne, hl⟩

lemma Separate.invalidate {h' : Nat} (hs : Separate es) : Separate (.invalidateTranslationASID h' :: es) :=
  ⟨hs, nofun⟩

/-- Without a load of the empty root, the last user is a VSpace. -/
lemma lastUser_ne_empty (hempty : emptyRootLoads es = 0) : lastUser h es ≠ some none := by
  induction es with
  | nil => nofun
  | cons e es ih =>
    cases e with
    | setRoot h' r =>
      cases r with
      | none => cases hempty
      | some x =>
        unfold lastUser
        split
        · nofun
        · exact ih hempty
    | invalidateTranslationASID h' =>
      unfold lastUser
      split
      · nofun
      · exact ih hempty

end Log

/-! ## The ASID map -/

section Map

variable {s s' : State} {asid b h : Nat} {root pool : Ptr}

lemma SameMaps.pools (m : SameMaps s s') (p : Pools s) : Pools s' := by
  refine ⟨?_, fun root hl => p.zero root (m.live.mp hl)⟩
  rw [m.table]
  exact p.inj

lemma State.Inv.pools {cfg : VspaceConfig} (i : s.Inv cfg) : Pools s :=
  ⟨fun _ _ _ => i.pool_index, fun root hl => (i.live _ root hl).1 rfl⟩

lemma live_of_map {vmid : Nat} {valid : Bool} (hm : s.findMapForASID asid = .vspace root vmid valid) :
    s.Live asid root := by
  unfold State.Live State.findVSpaceForASID
  rw [hm]

lemma map_of_live (hl : s.Live asid root) : ∃ vmid valid, s.findMapForASID asid = .vspace root vmid valid := by
  unfold State.Live State.findVSpaceForASID at hl
  split at hl
  · rename_i root' vmid valid hm
    obtain rfl := Option.some.inj hl
    exact ⟨vmid, valid, hm⟩
  · cases hl

lemma Pools.ne_zero (p : Pools s) {vmid : Nat} {valid : Bool}
    (hm : s.findMapForASID asid = .vspace root vmid valid) : asid ≠ asidInvalid := by
  rintro rfl
  exact p.zero root (live_of_map hm)

/-- A store to the entry of an ASID changes the map there only. -/
lemma Pools.map_set (p : Pools s) (ht : s.armKSASIDTable (asidHigh asid) = some pool) (m : AsidMap) (b : Nat) :
    (s.setPoolEntry pool (asidLow asid) m).findMapForASID b = if b = asid then m else s.findMapForASID b := by
  unfold State.findMapForASID State.setPoolEntry
  dsimp only
  by_cases e : b = asid
  · subst e
    rw [ht, if_pos rfl]
    simp
  · rw [if_neg e]
    cases hb : s.armKSASIDTable (asidHigh b) with
    | none => rfl
    | some pool' =>
      dsimp only
      by_cases hp : pool' = pool
      · subst hp
        have hhigh := p.inj _ _ _ hb ht
        have hlow : asidLow b ≠ asidLow asid := by
          intro hlow
          unfold asidHigh at hhigh
          unfold asidLow at hlow
          exact e (by rw [← Nat.div_add_mod b (2 ^ asidLowBits), hhigh, hlow, Nat.div_add_mod])
        simp [hlow]
      · simp [hp]

/-- The invariant does not look at entries that are not valid. -/
lemma VmidInv.congr (i : VmidInv s) (hnext : s'.armKSNextASID = s.armKSNextASID)
    (htable : s'.armKSHWASIDTable = s.armKSHWASIDTable) (htlb : s'.tlb = s.tlb)
    (hmap : ∀ a root h, s'.findMapForASID a = .vspace root h true ↔ s.findMapForASID a = .vspace root h true) :
    VmidInv s' where
  next := hnext ▸ i.next
  table h a ha := by
    rw [htable, i.table h a ha]
    simp only [hmap]
  user h root hu := by
    rw [htlb] at hu
    obtain ⟨a, ha, hm⟩ := i.user h root hu
    exact ⟨a, ha, (hmap a root h).mpr hm⟩
  separate := htlb ▸ i.separate

lemma VmidInv.invalidate (i : VmidInv s) (h : Nat) : VmidInv (s.logTlb (.invalidateTranslationASID h)) where
  next := i.next
  table := i.table
  user h' root hu := i.user h' root (lastUser_invalidate hu).2
  separate hempty := (i.separate hempty).invalidate

lemma VmidInv.global (i : VmidInv s) : VmidInv s.setGlobalUserVSpace where
  next := i.next
  table := i.table
  user h root hu := by
    have hu' : (if 0 = h then some none else lastUser h s.tlb) = some (some root) := hu
    split at hu'
    · cases hu'
    · exact i.user h root hu'
  separate := nofun

/-- A VSpace with a VMID is switched to. -/
lemma VmidInv.use (i : VmidInv s) (p : Pools s) (hm : s.findMapForASID asid = .vspace root h true) :
    VmidInv (s.logTlb (.setRoot h (some root))) where
  next := i.next
  table := i.table
  user h' root' hu := by
    have hu' : (if h = h' then some (some root) else lastUser h' s.tlb) = some (some root') := hu
    split at hu'
    · rename_i e
      subst e
      obtain rfl := Option.some.inj (Option.some.inj hu')
      exact ⟨asid, p.ne_zero hm, hm⟩
    · exact i.user h' root' hu'
  separate hempty := by
    refine ⟨i.separate hempty, fun h' r1 r2 e hu => ?_⟩
    injection e with e1 e2
    subst e1 e2
    cases r1 with
    | none => exact absurd hu (lastUser_ne_empty hempty)
    | some root1 =>
      -- the last user is the VSpace that the table names
      obtain ⟨a, ha, hm'⟩ := i.user _ root1 hu
      have h1 := (i.table h a ha).mpr ⟨root1, hm'⟩
      have h2 := (i.table h asid (p.ne_zero hm)).mpr ⟨root, hm⟩
      obtain rfl : a = asid := h1.symm.trans h2
      rw [hm] at hm'
      injection hm' with e
      rw [e]

/-- A VMID is taken from its ASID, after its translations were invalidated. -/
lemma VmidInv.free (i : VmidInv s) (hm : s.findMapForASID asid = .vspace root h true) (ha : asid ≠ asidInvalid)
    (hu : lastUser h s.tlb = none) (hnext : s'.armKSNextASID < nHwASIDs)
    (htable : s'.armKSHWASIDTable = update s.armKSHWASIDTable h asidInvalid) (htlb : s'.tlb = s.tlb)
    (hmap : ∀ b, s'.findMapForASID b = if b = asid then .vspace root 0 false else s.findMapForASID b) :
    VmidInv s' where
  next := hnext
  table h' b hb := by
    rw [htable, hmap]
    by_cases e : h' = h
    · subst e
      rw [update_self]
      refine iff_of_false hb.symm ?_
      rintro ⟨r, hr⟩
      split at hr
      · cases hr
      · rename_i hne
        -- the VMID was that of the ASID
        have h1 := (i.table h' b hb).mpr ⟨r, hr⟩
        have h2 := (i.table h' asid ha).mpr ⟨root, hm⟩
        exact hne (h1.symm.trans h2)
    · rw [update_of_ne e, i.table h' b hb]
      split
      · rename_i hb'
        subst hb'
        rw [hm]
        refine iff_of_false ?_ ?_
        · rintro ⟨r, hr⟩
          injection hr with _ hr
          exact e hr.symm
        · rintro ⟨r, hr⟩
          cases hr
      · rfl
  user h' r hr := by
    rw [htlb] at hr
    obtain ⟨b, hb, hmb⟩ := i.user h' r hr
    refine ⟨b, hb, ?_⟩
    rw [hmap, if_neg]
    · exact hmb
    · rintro rfl
      rw [hm] at hmb
      injection hmb with _ e
      subst e
      rw [hu] at hr
      cases hr
  separate := htlb ▸ i.separate

/-- An ASID without a VMID gets a free one. -/
lemma VmidInv.store (i : VmidInv s) {vmid : Nat} {valid : Bool}
    (hm : s.findMapForASID asid = .vspace root vmid valid) (hno : ∀ r h', s.findMapForASID asid ≠ .vspace r h' true)
    (hfree : s.armKSHWASIDTable h = asidInvalid) (hnext : s'.armKSNextASID = s.armKSNextASID)
    (htable : s'.armKSHWASIDTable = update s.armKSHWASIDTable h asid) (htlb : s'.tlb = s.tlb)
    (hmap : ∀ b, s'.findMapForASID b = if b = asid then .vspace root h true else s.findMapForASID b) :
    VmidInv s' where
  next := hnext ▸ i.next
  table h' b hb := by
    rw [htable, hmap]
    by_cases e : h' = h
    · subst e
      rw [update_self]
      split
      · rename_i hb'
        exact iff_of_true hb'.symm ⟨root, rfl⟩
      · rename_i hb'
        refine iff_of_false (Ne.symm hb') ?_
        rintro ⟨r, hr⟩
        have := (i.table h' b hb).mpr ⟨r, hr⟩
        exact hb (this.symm.trans hfree)
    · rw [update_of_ne e, i.table h' b hb]
      split
      · rename_i hb'
        subst hb'
        refine iff_of_false ?_ ?_
        · rintro ⟨r, hr⟩
          exact hno r h' hr
        · rintro ⟨r, hr⟩
          injection hr with _ hr
          exact e hr.symm
      · rfl
  user h' r hr := by
    rw [htlb] at hr
    obtain ⟨b, hb, hmb⟩ := i.user h' r hr
    refine ⟨b, hb, ?_⟩
    rw [hmap, if_neg]
    · exact hmb
    · rintro rfl
      exact hno r h' hmb
  separate := htlb ▸ i.separate

end Map

/-! ## What is done with VMIDs -/

section Ops

variable {cfg : VspaceConfig} {s s' : State} {asid h : Nat} {root pool : Ptr}

lemma invalidateASID_ok (he : s.invalidateASID asid = .ok s') :
    ∃ pool root vmid valid, s.armKSASIDTable (asidHigh asid) = some pool ∧
      s.findMapForASID asid = .vspace root vmid valid ∧
      s' = s.setPoolEntry pool (asidLow asid) (.vspace root 0 false) := by
  unfold State.invalidateASID at he
  obtain ⟨⟨pool, root⟩, h1, he⟩ := bind_eq_ok.mp he
  obtain ⟨ht, vmid, valid, hm⟩ := vspaceEntry_ok h1
  refine ⟨pool, root, vmid, valid, ht, ?_, (Except.ok.inj he).symm⟩
  unfold State.findMapForASID
  rw [ht]
  exact hm

lemma invalidateTLBByASID_map (b : Nat) :
    (s.invalidateTLBByASID cfg asid).findMapForASID b = s.findMapForASID b := by
  unfold State.invalidateTLBByASID
  split
  · split <;> rfl
  · rfl

lemma VmidInv.invalidateTLBByASID (i : VmidInv s) : VmidInv (s.invalidateTLBByASID cfg asid) := by
  unfold State.invalidateTLBByASID
  split
  · split
    · exact i.invalidate _
    · exact i
  · exact i.invalidate _

/-- The VMID of the ASID has no user then. -/
lemma lastUser_invalidateTLBByASID (hyp : cfg.hypervisor = true) (hm : s.findMapForASID asid = .vspace root h true) :
    lastUser h (s.invalidateTLBByASID cfg asid).tlb = none := by
  unfold State.invalidateTLBByASID
  rw [if_pos hyp, hm]
  exact if_pos rfl

/-- An ASID gives up its VMID. -/
lemma VmidInv.invalidateASIDEntry (i : VmidInv s) (p : Pools s)
    (hu : ∀ root h, s.findMapForASID asid = .vspace root h true → lastUser h s.tlb = none)
    (he : s.invalidateASIDEntry asid = .ok s') :
    VmidInv s' ∧ ∀ b root h, s'.findMapForASID b = .vspace root h true →
      b ≠ asid ∧ s.findMapForASID b = .vspace root h true := by
  have hback : ∀ {s0 : State} {root : Ptr}, (∀ b, s0.findMapForASID b =
      if b = asid then .vspace root 0 false else s.findMapForASID b) → ∀ b root h,
      s0.findMapForASID b = .vspace root h true → b ≠ asid ∧ s.findMapForASID b = .vspace root h true := by
    intro s0 root' hmap b r v hb
    rw [hmap] at hb
    split at hb
    · cases hb
    · rename_i hne
      exact ⟨hne, hb⟩
  unfold State.invalidateASIDEntry at he
  split at he
  · rename_i root vmid hm
    obtain ⟨pool, root', vmid', valid', ht, hm', rfl⟩ := invalidateASID_ok he
    have hm0 : s.findMapForASID asid = .vspace root' vmid' valid' := hm'
    rw [hm] at hm0
    injection hm0 with e1 e2 e3
    subst e1
    have hmap := p.map_set ht (.vspace root 0 false)
    exact ⟨i.free hm (p.ne_zero hm) (hu root vmid hm) i.next rfl rfl hmap, hback hmap⟩
  · rename_i hno
    obtain ⟨pool, root, vmid, valid, ht, hm, rfl⟩ := invalidateASID_ok he
    have hmap := p.map_set ht (.vspace root 0 false)
    refine ⟨i.congr rfl rfl rfl fun b r v => ⟨fun hb => (hback hmap b r v hb).2, fun hb => ?_⟩, hback hmap⟩
    rw [hmap, if_neg]
    · exact hb
    · rintro rfl
      exact hno r v hb

/-- A VMID is found that has no user, from another ASID if all are taken. -/
lemma VmidInv.findFreeHWASID (i : VmidInv s) (p : Pools s) (he : s.findFreeHWASID = .ok (s', h)) :
    VmidInv s' ∧ s'.armKSHWASIDTable h = asidInvalid ∧
      ∀ b root v, s'.findMapForASID b = .vspace root v true → s.findMapForASID b = .vspace root v true := by
  unfold State.findFreeHWASID at he
  split at he
  · rename_i offset hfind
    obtain ⟨rfl, rfl⟩ := Prod.ext_iff.mp (Except.ok.inj he)
    exact ⟨i, of_decide_eq_true (p := s.armKSHWASIDTable (s.hwASIDAt offset) = asidInvalid) (List.find?_some hfind :),
      fun _ _ _ hb => hb⟩
  · rename_i hfind
    obtain ⟨s1, h1, he⟩ := bind_eq_ok.mp he
    obtain ⟨rfl, rfl⟩ := Prod.ext_iff.mp (Except.ok.inj he)
    obtain ⟨pool, root, vmid, valid, ht, hm, rfl⟩ := invalidateASID_ok h1
    -- the next VMID is taken by an ASID
    have hne : s.armKSHWASIDTable s.armKSNextASID ≠ asidInvalid := by
      have := List.find?_eq_none.mp hfind 0 (List.mem_range.mpr (by decide))
      rwa [decide_eq_true_eq, State.hwASIDAt, Nat.add_zero, Nat.mod_eq_of_lt i.next] at this
    obtain ⟨root', hm'⟩ := (i.table _ _ hne).mp rfl
    rw [hm] at hm'
    injection hm' with e1 e2 e3
    subst e1 e2 e3
    have hmap := p.map_set ht (.vspace root 0 false)
    refine ⟨(i.invalidate s.armKSNextASID).free hm hne (if_pos rfl) (Nat.mod_lt _ (by decide)) rfl rfl hmap,
      update_self .., fun b r v hb => ?_⟩
    have hb' := (hmap b).symm.trans hb
    split at hb'
    · cases hb'
    · exact hb'

/-- The ASID has the VMID then. -/
lemma VmidInv.getHWASID (i : VmidInv s) (p : Pools s) (hl : s.Live asid root) (he : s.getHWASID asid = .ok (s', h)) :
    VmidInv s' ∧ s'.findMapForASID asid = .vspace root h true := by
  obtain ⟨vmid, valid, hm⟩ := map_of_live hl
  unfold State.getHWASID at he
  split at he
  · rename_i root' h' hm'
    obtain ⟨rfl, rfl⟩ := Prod.ext_iff.mp (Except.ok.inj he)
    rw [hm] at hm'
    injection hm' with e1 e2 e3
    subst e1 e2 e3
    exact ⟨i, hm⟩
  · rename_i hno
    obtain ⟨⟨s1, h1⟩, hf, he⟩ := bind_eq_ok.mp he
    obtain ⟨s2, hs, he⟩ := bind_eq_ok.mp he
    obtain ⟨rfl, rfl⟩ := Prod.ext_iff.mp (Except.ok.inj he)
    obtain ⟨i1, hfree, hback⟩ := i.findFreeHWASID p hf
    have p1 := (findFreeHWASID_sameMaps hf).pools p
    have hl1 := (findFreeHWASID_sameMaps hf).live.mpr hl
    -- and is stored in its entry
    unfold State.storeHWASID at hs
    obtain ⟨⟨pool, root'⟩, hv, hs⟩ := bind_eq_ok.mp hs
    obtain ⟨ht, vmid', valid', hm'⟩ := vspaceEntry_ok hv
    have hm1 : s1.findMapForASID asid = .vspace root' vmid' valid' := by
      unfold State.findMapForASID
      rw [ht]
      exact hm'
    obtain rfl : root' = root := Option.some.inj ((live_of_map hm1).symm.trans hl1)
    obtain rfl := Except.ok.inj hs
    have hmap := p1.map_set ht (.vspace root' h1 true)
    exact ⟨i1.store hm1 (fun r v hv => hno r v (hback _ _ _ hv)) hfree rfl rfl rfl hmap,
      (hmap asid).trans (if_pos rfl)⟩

lemma VmidInv.armvContextSwitch (i : VmidInv s) (p : Pools s) (hyp : cfg.hypervisor = true) (hl : s.Live asid root)
    (he : s.armvContextSwitch cfg root asid = .ok s') : VmidInv s' := by
  unfold State.armvContextSwitch at he
  rw [if_pos hyp] at he
  obtain ⟨⟨s1, h1⟩, hg, he⟩ := bind_eq_ok.mp he
  obtain rfl := Except.ok.inj he
  obtain ⟨i1, hm⟩ := i.getHWASID p hl hg
  exact i1.use ((getHWASID_sameMaps hg).pools p) hm

lemma VmidInv.setVMRoot (i : VmidInv s) (p : Pools s) (hyp : cfg.hypervisor = true) (he : s.setVMRoot cfg = .ok s') :
    VmidInv s' := by
  unfold State.setVMRoot at he
  split at he
  · split at he
    · rename_i hl
      exact i.armvContextSwitch p hyp hl he
    · obtain rfl := Except.ok.inj he
      exact i.global
  · obtain rfl := Except.ok.inj he
    exact i.global

lemma VmidInv.fastpathSwitch (i : VmidInv s) (p : Pools s) (hyp : cfg.hypervisor = true) {slot : Slot}
    (he : s.fastpathSwitch cfg slot = some s') : VmidInv s' := by
  unfold State.fastpathSwitch at he
  split at he
  · rename_i asid vspace _
    split at he
    · rename_i root vmid valid hm
      split at he
      · cases he
      · rename_i hroot
        split at he
        · rename_i hvalid
          obtain rfl := Option.some.inj he
          have hcur : VmidInv { s with curVTable := some slot } := i.congr rfl rfl rfl fun _ _ _ => Iff.rfl
          have pcur : Pools { s with curVTable := some slot } := ⟨p.inj, p.zero⟩
          have hm' : State.findMapForASID { s with curVTable := some slot } asid = .vspace vspace vmid true := by
            rw [← not_not.mp hroot, ← hvalid]
            exact hm
          exact hcur.use pcur hm'
        · cases he
    · cases he
  · cases he

/-- The translations of a deleted ASID are invalidated before it gives up its VMID. -/
lemma VmidInv.dropASID (i : VmidInv s) (p : Pools s) (hyp : cfg.hypervisor = true)
    (he : (s.invalidateTLBByASID cfg asid).invalidateASIDEntry asid = .ok s') :
    VmidInv s' ∧ ∀ b root h, s'.findMapForASID b = .vspace root h true →
      b ≠ asid ∧ s.findMapForASID b = .vspace root h true := by
  have m1 : SameMaps s (s.invalidateTLBByASID cfg asid) := invalidateTLBByASID_sameMaps s asid
  have p1 := m1.pools p
  have := i.invalidateTLBByASID.invalidateASIDEntry p1 (fun root h hm => ?_) he
  · simpa only [invalidateTLBByASID_map] using this
  · rw [invalidateTLBByASID_map] at hm
    exact lastUser_invalidateTLBByASID hyp hm

/-- The VMID of a VSpace that is deleted is invalidated and free again. -/
lemma VmidInv.deleteASID (i : VmidInv s) (p : Pools s) (hyp : cfg.hypervisor = true)
    (he : s.deleteASID cfg asid root = .ok s') : VmidInv s' := by
  unfold State.deleteASID at he
  split at he
  · rename_i pool ht
    split at he
    · split at he
      · obtain ⟨s1, h1, he⟩ := bind_eq_ok.mp he
        obtain ⟨i1, hback⟩ := i.dropASID p hyp h1
        have m0 : SameMaps s (s.invalidateTLBByASID cfg asid) := invalidateTLBByASID_sameMaps s asid
        have m1 := m0.trans (invalidateASIDEntry_sameMaps h1)
        have p1 := m1.pools p
        -- the entry that is removed has no VMID any more
        have ht1 : s1.armKSASIDTable (asidHigh asid) = some pool := m1.table ▸ ht
        have hmap := p1.map_set ht1 .none
        have i2 : VmidInv (s1.setPoolEntry pool (asidLow asid) .none) := by
          refine i1.congr rfl rfl rfl fun b r v => ?_
          rw [hmap]
          split
          · rename_i hb
            subst hb
            exact iff_of_false nofun fun hv => (hback b r v hv).1 rfl
          · exact Iff.rfl
        have p2 : Pools (s1.setPoolEntry pool (asidLow asid) .none) := by
          refine ⟨p1.inj, fun r hl => ?_⟩
          obtain ⟨vmid, valid, hm⟩ := map_of_live hl
          rw [hmap] at hm
          split at hm
          · cases hm
          · exact p1.zero r (live_of_map hm)
        exact i2.setVMRoot p2 hyp he
      · obtain rfl := Except.ok.inj he
        exact i
    · obtain rfl := Except.ok.inj he
      exact i
  · obtain rfl := Except.ok.inj he
    exact i

/-- The entries of a pool, by the ASIDs. -/
lemma map_pool {base j : Nat} (ht : s.armKSASIDTable (asidHigh base) = some pool) (hbase : asidLow base = 0)
    (hj : j < 2 ^ asidLowBits) : s.findMapForASID (base + j) = s.asidPool pool j := by
  have hdiv : asidHigh (base + j) = asidHigh base ∧ asidLow (base + j) = j := by
    unfold asidHigh asidLow asidLowBits at *
    omega
  unfold State.findMapForASID
  rw [hdiv.1, hdiv.2, ht]

/-- A round of the loop over a pool. -/
lemma VmidInv.deletePoolEntry (i : VmidInv s) (p : Pools s) (hyp : cfg.hypervisor = true) {base j : Nat}
    (ht : s.armKSASIDTable (asidHigh base) = some pool) (hbase : asidLow base = 0) (hj : j < 2 ^ asidLowBits)
    (he : State.deletePoolEntry cfg base pool s j = .ok s') :
    VmidInv s' ∧ ∀ b root h, s'.findMapForASID b = .vspace root h true →
      b ≠ base + j ∧ s.findMapForASID b = .vspace root h true := by
  unfold State.deletePoolEntry at he
  split at he
  · dsimp only at he
    rw [if_pos hyp] at he
    exact i.dropASID p hyp he
  · rename_i hm
    obtain rfl := Except.ok.inj he
    refine ⟨i, fun b root h hb => ⟨?_, hb⟩⟩
    rintro rfl
    rw [map_pool ht hbase hj, hm] at hb
    cases hb

/-- The loop over a pool. -/
lemma VmidInv.deletePoolEntries (i : VmidInv s) (p : Pools s) (hyp : cfg.hypervisor = true) {base : Nat}
    (ht : s.armKSASIDTable (asidHigh base) = some pool) (hbase : asidLow base = 0) (offsets : List Nat)
    (hlt : ∀ j ∈ offsets, j < 2 ^ asidLowBits)
    (he : offsets.foldlM (State.deletePoolEntry cfg base pool) s = .ok s') :
    VmidInv s' ∧ ∀ b root h, s'.findMapForASID b = .vspace root h true →
      (∀ j ∈ offsets, b ≠ base + j) ∧ s.findMapForASID b = .vspace root h true := by
  induction offsets generalizing s with
  | nil =>
    obtain rfl := Except.ok.inj he
    exact ⟨i, fun b root h hb => ⟨nofun, hb⟩⟩
  | cons j offsets ih =>
    rw [List.foldlM_cons] at he
    obtain ⟨s1, h1, he⟩ := bind_eq_ok.mp he
    obtain ⟨i1, hback⟩ := i.deletePoolEntry p hyp ht hbase (hlt j List.mem_cons_self) h1
    have m1 := deletePoolEntry_sameMaps h1
    obtain ⟨i2, hback2⟩ := ih i1 (m1.pools p) (m1.table ▸ ht) (fun k hk => hlt k (List.mem_cons_of_mem _ hk)) he
    refine ⟨i2, fun b root h hb => ?_⟩
    obtain ⟨hno, hb1⟩ := hback2 b root h hb
    obtain ⟨hj, hb0⟩ := hback b root h hb1
    refine ⟨fun k hk => ?_, hb0⟩
    rcases List.mem_cons.mp hk with rfl | hk
    · exact hj
    · exact hno k hk

/-- The entry of a pool in the table of pools is removed. -/
def State.withoutPool (s : State) (j : Nat) : State :=
  { s with armKSASIDTable := update s.armKSASIDTable j none }

lemma withoutPool_map (j b : Nat) :
    (s.withoutPool j).findMapForASID b = if asidHigh b = j then .none else s.findMapForASID b := by
  unfold State.withoutPool State.findMapForASID
  dsimp only
  by_cases hb : asidHigh b = j
  · rw [if_pos hb, hb, update_self]
  · rw [if_neg hb, update_of_ne hb]

lemma Pools.withoutPool (p : Pools s) (j : Nat) : Pools (s.withoutPool j) := by
  refine ⟨fun k l q hk hl => ?_, fun r hl => ?_⟩
  · unfold State.withoutPool at hk hl
    by_cases ek : k = j
    · simp [ek] at hk
    · by_cases el : l = j
      · simp [el] at hl
      · exact p.inj k l q ((update_of_ne ek ..).symm.trans hk) ((update_of_ne el ..).symm.trans hl)
  · obtain ⟨vmid, valid, hm⟩ := map_of_live hl
    rw [withoutPool_map] at hm
    split at hm
    · cases hm
    · exact p.zero r (live_of_map hm)

lemma VmidInv.deleteASIDPool (i : VmidInv s) (p : Pools s) (hyp : cfg.hypervisor = true) {base : Nat}
    (he : s.deleteASIDPool cfg base pool = .ok s') : VmidInv s' := by
  unfold State.deleteASIDPool at he
  obtain ⟨u, hbase, he⟩ := bind_eq_ok.mp he
  have hbase' : asidLow base = 0 := of_decide_eq_true (assert_eq_ok.mp hbase)
  split at he
  · rename_i ht
    obtain ⟨s1, h1, he⟩ := bind_eq_ok.mp he
    obtain ⟨i1, hback⟩ := i.deletePoolEntries p hyp ht hbase' _ (fun j hj => List.mem_range.mp hj) h1
    have p1 := (deletePoolEntries_sameMaps _ h1).pools p
    -- no ASID of the pool has a VMID any more
    have i2 : VmidInv (s1.withoutPool (asidHigh base)) := by
      refine i1.congr rfl rfl rfl fun b r v => ?_
      rw [withoutPool_map]
      split
      · rename_i hb
        refine iff_of_false nofun fun hv => ?_
        refine (hback b r v hv).1 (asidLow b) (List.mem_range.mpr (Nat.mod_lt _ (Nat.two_pow_pos _))) ?_
        unfold asidHigh asidLow asidLowBits at *
        omega
      · exact Iff.rfl
    exact i2.setVMRoot (p1.withoutPool _) hyp he
  · obtain rfl := Except.ok.inj he
    exact i

lemma VmidInv.unmapPageTable (i : VmidInv s) {addr base : Nat} (he : s.unmapPageTable cfg asid addr base = .ok s') :
    VmidInv s' := by
  unfold State.unmapPageTable at he
  split at he
  · split at he
    · obtain rfl := Except.ok.inj he
      have hset : ∀ ptSlot, VmidInv (s.setPte ptSlot .invalid) := fun _ => i.congr rfl rfl rfl fun _ _ _ => Iff.rfl
      exact (hset _).invalidateTLBByASID
    · cases he
    · obtain rfl := Except.ok.inj he
      exact i
  · obtain rfl := Except.ok.inj he
    exact i

lemma VmidInv.unmapPage (i : VmidInv s) {size : PageSize} {addr base : Nat} :
    VmidInv (s.unmapPage cfg size asid addr base) := by
  unfold State.unmapPage
  split
  · dsimp only
    split
    · exact i
    · split
      · exact i.congr rfl rfl rfl fun _ _ _ => Iff.rfl
      · exact i
  · exact i

lemma VmidInv.setCap (i : VmidInv s) (slot : Slot) (c : Cap) : VmidInv (s.setCap slot c) :=
  i.congr rfl rfl rfl fun _ _ _ => Iff.rfl

lemma VmidInv.deleteSlot (i : VmidInv s) (p : Pools s) (hyp : cfg.hypervisor = true) {slot : Slot} {final : Bool}
    (he : s.deleteSlot cfg slot final = .ok s') : VmidInv s' := by
  unfold State.deleteSlot at he
  obtain ⟨s1, h1, he⟩ := bind_eq_ok.mp he
  obtain rfl := Except.ok.inj he
  refine VmidInv.setCap ?_ slot .null
  unfold State.archFinaliseCap at h1
  split at h1
  · split at h1
    · exact i.deleteASIDPool p hyp h1
    · exact Except.ok.inj h1 ▸ i
  · split at h1
    · exact i.deleteASID p hyp h1
    · exact Except.ok.inj h1 ▸ i
  · split at h1
    · exact i.unmapPageTable h1
    · exact Except.ok.inj h1 ▸ i
  · split at h1
    · exact Except.ok.inj h1 ▸ i.unmapPage
    · exact Except.ok.inj h1 ▸ i
  · exact Except.ok.inj h1 ▸ i

end Ops

/-! ## Runs -/

section Runs

variable {cfg : VspaceConfig} {s s' : State}

/-- A pool takes a place where there was none, and VSpaces get ASIDs where there were none. -/
lemma VmidInv.invoke (v : VmidInv s) (i : s.Inv cfg) {final : Bool} {dest : Except SyscallError Slot}
    {noChildren : Except SyscallError Unit} {cte : Slot} {q : Request} {inv : Invocation}
    (hd : s.decodeARMMMUInvocation cfg final dest noChildren cte q = .ok inv)
    (hfresh : ∀ frame slot parent base, inv = .makePool frame slot parent base → s.Fresh frame)
    (hp : s.perform cfg inv = .ok s') : VmidInv s' := by
  unfold State.decodeARMMMUInvocation at hd
  split at hd
  · rename_i asid base m addr hc
    rcases decodePageTable_ok hd with ⟨-, rfl⟩ | ⟨-, _, _, _, _, _, -, -, -, rfl⟩
    · cases m with
      | true =>
        obtain ⟨s1, h1, hp⟩ := bind_eq_ok.mp hp
        obtain rfl := Except.ok.inj hp
        cases hu : s.unmapPageTable cfg asid addr base with
        | error e =>
          rw [hu] at h1
          cases h1
        | ok s0 =>
          rw [hu] at h1
          obtain rfl := Except.ok.inj h1
          exact (v.unmapPageTable hu).congr rfl rfl rfl fun _ _ _ => Iff.rfl
      | false =>
        obtain rfl := Except.ok.inj hp
        exact v.setCap _ _
    · obtain rfl := Except.ok.inj hp
      exact v.congr rfl rfl rfl fun _ _ _ => Iff.rfl
  · rename_i asid base size addr rights dev hc
    rcases decodeFrame_ok hd with rfl | ⟨_, _, _, _, _, -, -, -, -, -, -, rfl⟩
    · obtain rfl := Except.ok.inj hp
      refine VmidInv.setCap ?_ _ _
      split
      · exact v.unmapPage
      · exact v
    · obtain rfl := Except.ok.inj hp
      exact v.congr rfl rfl rfl fun _ _ _ => Iff.rfl
  · obtain ⟨frame, slot, parent, j, rfl, htable, -, -⟩ := decodeASIDControl_ok hd
    have hf := hfresh _ _ _ _ rfl
    obtain ⟨u, -, hp⟩ := bind_eq_ok.mp hp
    have hhigh : asidHigh (j * 2 ^ asidLowBits) = j := Nat.mul_div_cancel _ (Nat.two_pow_pos _)
    refine v.congr ?_ ?_ ?_ fun b r h => ?_
    · rw [← Except.ok.inj hp]
      rfl
    · rw [← Except.ok.inj hp]
      rfl
    · rw [← Except.ok.inj hp]
      rfl
    · have hmap : s'.findMapForASID b = s.findMapForASID b := by
        rw [← Except.ok.inj hp]
        unfold State.findMapForASID State.setCap
        dsimp only
        rw [hhigh]
        by_cases hb : asidHigh b = j
        · rw [hb, update_self, htable]
          dsimp only
          rw [update_self]
        · rw [update_of_ne hb]
          cases hq : s.armKSASIDTable (asidHigh b) with
          | none => rfl
          | some pool =>
            dsimp only
            rw [update_of_ne]
            rintro rfl
            obtain ⟨t, ht⟩ := i.pool _ pool hq
            exact hf t (by rw [ht]; exact id) (by rw [ht]; rfl)
      rw [hmap]
  · rename_i base pool hc
    obtain ⟨j, slot, asid, root, rfl, hj, hne, hpool, hnone, hslot⟩ := decodeASIDPool_ok hd
    obtain rfl := Except.ok.inj hp
    obtain ⟨t, ht⟩ := i.pool _ pool hpool
    have hbase := i.pool_base ht hc
    have hhigh := asidHigh_add hbase hj
    have hlow : asidLow base = 0 := by
      rw [← hbase]
      exact Nat.mul_mod_left _ _
    have p : Pools (s.setCap slot (.arch (.vspace (base + j) root true))) := ⟨i.pools.inj, i.pools.zero⟩
    have hpool' : s.armKSASIDTable (asidHigh (base + j)) = some pool := hhigh ▸ hpool
    have hmap := p.map_set hpool' (.vspace root 0 false)
    unfold State.performASIDPoolInvocation
    rw [hslot]
    refine v.congr rfl rfl rfl fun b r h => ?_
    rw [hmap]
    split
    · rename_i hb
      rw [hb, map_pool hpool hlow hj, hnone]
      exact iff_of_false nofun nofun
    · exact Iff.rfl
  · cases hd

/-- Each step keeps the table of VMIDs in agreement with the VSpaces. -/
lemma VmidInv.step (hyp : cfg.hypervisor = true) (v : VmidInv s) (i : s.Inv cfg) (h : State.Step cfg s s') :
    VmidInv s' := by
  cases h with
  | invoke hf hd hfresh hp => exact v.invoke i hd hfresh hp
  | copy => exact v.setCap _ _
  | move | swap => exact (v.setCap _ _).setCap _ _
  | delete hf h => exact v.deleteSlot i.pools hyp h
  | @retype slot c table =>
    cases table with
    | none => exact v.setCap _ _
    | some base => exact v.congr rfl rfl rfl fun _ _ _ => Iff.rfl
  | other => exact v.setCap _ _
  | scribbleTable => exact v.congr rfl rfl rfl fun _ _ _ => Iff.rfl
  | @scribblePool p f h =>
    refine v.congr rfl rfl rfl fun b r vmid => ?_
    have hmap : State.findMapForASID { s with asidPool := update s.asidPool p f } b = s.findMapForASID b := by
      unfold State.findMapForASID
      dsimp only
      cases hq : s.armKSASIDTable (asidHigh b) with
      | none => rfl
      | some pool =>
        dsimp only
        rw [update_of_ne]
        rintro rfl
        obtain ⟨t, ht⟩ := i.pool _ pool hq
        exact h t (by rw [ht]; rfl)
    rw [hmap]
  | @switch slot _ h =>
    have hcur : VmidInv { s with curVTable := some slot } := v.congr rfl rfl rfl fun _ _ _ => Iff.rfl
    exact hcur.setVMRoot ⟨i.pools.inj, i.pools.zero⟩ hyp h
  | fastpath h => exact v.fastpathSwitch i.pools hyp h
  | idle =>
    have hcur : VmidInv { s with curVTable := none } := v.congr rfl rfl rfl fun _ _ _ => Iff.rfl
    exact hcur.global

/-- The runs from boot whose steps all meet a condition. -/
inductive State.ReachableIf (cfg : VspaceConfig) (ok : State → State → Prop) : State → Prop
  | boot {root : Ptr} {s : State} : State.Booted cfg root s → ReachableIf cfg ok s
  | step {s s' : State} : ReachableIf cfg ok s → State.Step cfg s s' → ok s s' → ReachableIf cfg ok s'

lemma State.ReachableIf.reachable {ok : State → State → Prop} (h : State.ReachableIf cfg ok s) :
    State.Reachable cfg s := by
  induction h with
  | boot h => exact .boot h
  | step _ h _ ih => exact .step ih h

/-- A step that loads `armKSGlobalUserVSpace`: a switch to the idle thread or to one without a VSpace, or the deletion of
the VSpace of the current thread. -/
def LoadsEmptyRoot (s s' : State) : Prop :=
  emptyRootLoads s'.tlb ≠ emptyRootLoads s.tlb

lemma booted_tlb {root : Ptr} (h : State.Booted cfg root s) : s.tlb = [] := by
  induction h with
  | root => rfl
  | table _ _ _ _ _ _ ih | frame _ _ _ _ _ _ ih | unmapped _ _ _ ih | other _ _ _ ih => exact ih

lemma State.ReachableIf.emptyRootLoads (h : State.ReachableIf cfg (fun s s' => ¬LoadsEmptyRoot s s') s) :
    emptyRootLoads s.tlb = 0 := by
  induction h with
  | boot h => rw [booted_tlb h, Vspace.emptyRootLoads]
  | step _ _ hok ih => exact (not_not.mp hok).trans ih

end Runs

end NexsKernel.Vspace
