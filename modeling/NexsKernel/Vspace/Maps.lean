import NexsKernel.Vspace.Invariant

/-!
# VMIDs and mappings

What is done with VMIDs and to the TLB changes no mapping: an entry of an ASID pool keeps its VSpace. So the deletion
of an ASID or of a pool changes the ASID map only by the entries that it removes. The invariant does not depend on VMIDs, and holds when
entries of tables are gone.
-/

namespace NexsKernel.Vspace

/-- The VSpace of an entry. -/
def AsidMap.root : AsidMap → Option Ptr
  | none => Option.none
  | vspace root _ _ => some root

/-- The states differ in VMIDs and in the TLB. -/
structure SameMaps (s s' : State) : Prop where
  cap : s'.cap = s.cap
  pte : s'.pte = s.pte
  table : s'.armKSASIDTable = s.armKSASIDTable
  root : ∀ pool i, (s'.asidPool pool i).root = (s.asidPool pool i).root

namespace SameMaps

variable {s s' s'' : State}

lemma refl (s : State) : SameMaps s s :=
  ⟨rfl, rfl, rfl, fun _ _ => rfl⟩

lemma trans (h : SameMaps s s') (h' : SameMaps s' s'') : SameMaps s s'' where
  cap := h'.cap.trans h.cap
  pte := h'.pte.trans h.pte
  table := h'.table.trans h.table
  root pool i := (h'.root pool i).trans (h.root pool i)

/-- A pool entry gets another tag. -/
lemma setPoolEntry {pool : Ptr} {i : Nat} {map : AsidMap} (h : map.root = (s.asidPool pool i).root) :
    SameMaps s (s.setPoolEntry pool i map) := by
  refine ⟨rfl, rfl, rfl, fun p j => ?_⟩
  unfold State.setPoolEntry
  by_cases hp : p = pool
  · subst hp
    by_cases hj : j = i
    · subst hj
      simpa using h
    · simp [hj]
  · simp [hp]

/-- An entry is removed on both sides. -/
lemma setPoolEntry_congr (h : SameMaps s s') (pool : Ptr) (i : Nat) (map : AsidMap) :
    SameMaps (s.setPoolEntry pool i map) (s'.setPoolEntry pool i map) := by
  refine ⟨h.cap, h.pte, h.table, fun p j => ?_⟩
  unfold State.setPoolEntry
  by_cases hp : p = pool
  · subst hp
    by_cases hj : j = i
    · subst hj
      simp
    · simp [hj, h.root]
  · simp [hp, h.root]

end SameMaps

/-- What resolves to a VSpace, by the roots of the entries. -/
lemma live_iff {s : State} {asid : Nat} {root : Ptr} :
    s.Live asid root ↔
      ∃ pool, s.armKSASIDTable (asidHigh asid) = some pool ∧ (s.asidPool pool (asidLow asid)).root = some root := by
  unfold State.Live State.findVSpaceForASID State.findMapForASID
  cases ht : s.armKSASIDTable (asidHigh asid) with
  | none => simp
  | some pool =>
    cases hm : s.asidPool pool (asidLow asid) with
    | none => simp [AsidMap.root, hm]
    | vspace root' vmid valid => simp [AsidMap.root, hm]

lemma SameMaps.live {s s' : State} (h : SameMaps s s') {asid : Nat} {root : Ptr} :
    s'.Live asid root ↔ s.Live asid root := by
  rw [live_iff, live_iff, h.table]
  simp only [h.root]

/-! ## VMIDs -/

section Vmids

variable {cfg : VspaceConfig} {s s' : State} {asid hwASID : Nat}

lemma vspaceEntry_ok {p : Ptr × Ptr} (h : s.vspaceEntry asid = .ok p) :
    s.armKSASIDTable (asidHigh asid) = some p.1 ∧
      ∃ vmid valid, s.asidPool p.1 (asidLow asid) = .vspace p.2 vmid valid := by
  unfold State.vspaceEntry at h
  split at h
  · rename_i pool ht
    split at h
    · rename_i root vmid valid hm
      obtain rfl := Except.ok.inj h
      exact ⟨ht, vmid, valid, hm⟩
    · cases h
  · cases h

lemma logTlb_sameMaps (s : State) (e : TlbEvent) : SameMaps s (s.logTlb e) :=
  ⟨rfl, rfl, rfl, fun _ _ => rfl⟩

lemma invalidateASID_sameMaps (h : s.invalidateASID asid = .ok s') : SameMaps s s' := by
  unfold State.invalidateASID at h
  obtain ⟨⟨pool, root⟩, h1, h⟩ := bind_eq_ok.mp h
  obtain ⟨-, vmid, valid, hm⟩ := vspaceEntry_ok h1
  obtain rfl := Except.ok.inj h
  exact .setPoolEntry (congrArg AsidMap.root hm).symm

lemma storeHWASID_sameMaps (h : s.storeHWASID asid hwASID = .ok s') : SameMaps s s' := by
  unfold State.storeHWASID at h
  obtain ⟨⟨pool, root⟩, h1, h⟩ := bind_eq_ok.mp h
  obtain ⟨-, vmid, valid, hm⟩ := vspaceEntry_ok h1
  obtain rfl := Except.ok.inj h
  have : SameMaps s (s.setPoolEntry pool (asidLow asid) (.vspace root hwASID true)) :=
    .setPoolEntry (congrArg AsidMap.root hm).symm
  exact ⟨this.cap, this.pte, this.table, this.root⟩

lemma findFreeHWASID_sameMaps (h : s.findFreeHWASID = .ok (s', hwASID)) : SameMaps s s' := by
  unfold State.findFreeHWASID at h
  split at h
  · obtain rfl := (Prod.ext_iff.mp (Except.ok.inj h)).1
    exact .refl _
  · obtain ⟨s1, h1, h⟩ := bind_eq_ok.mp h
    obtain rfl := (Prod.ext_iff.mp (Except.ok.inj h)).1
    have := invalidateASID_sameMaps h1
    exact ⟨this.cap, this.pte, this.table, this.root⟩

lemma getHWASID_sameMaps (h : s.getHWASID asid = .ok (s', hwASID)) : SameMaps s s' := by
  unfold State.getHWASID at h
  split at h
  · obtain rfl := (Prod.ext_iff.mp (Except.ok.inj h)).1
    exact .refl _
  · obtain ⟨⟨s1, hw⟩, h1, h⟩ := bind_eq_ok.mp h
    obtain ⟨s2, h2, h⟩ := bind_eq_ok.mp h
    obtain rfl := (Prod.ext_iff.mp (Except.ok.inj h)).1
    exact (findFreeHWASID_sameMaps h1).trans (storeHWASID_sameMaps h2)

lemma invalidateASIDEntry_sameMaps (h : s.invalidateASIDEntry asid = .ok s') : SameMaps s s' := by
  unfold State.invalidateASIDEntry at h
  split at h
  · have := invalidateASID_sameMaps h
    exact ⟨this.cap, this.pte, this.table, this.root⟩
  · exact invalidateASID_sameMaps h

lemma invalidateTLBByASID_sameMaps (s : State) (asid : Nat) : SameMaps s (s.invalidateTLBByASID cfg asid) := by
  unfold State.invalidateTLBByASID
  split
  · split
    · exact logTlb_sameMaps _ _
    · exact .refl _
  · exact logTlb_sameMaps _ _

lemma armvContextSwitch_sameMaps {vspace : Ptr} (h : s.armvContextSwitch cfg vspace asid = .ok s') :
    SameMaps s s' := by
  unfold State.armvContextSwitch at h
  split at h
  · obtain ⟨⟨s1, hw⟩, h1, h⟩ := bind_eq_ok.mp h
    obtain rfl := Except.ok.inj h
    exact (getHWASID_sameMaps h1).trans (logTlb_sameMaps _ _)
  · obtain rfl := Except.ok.inj h
    exact logTlb_sameMaps _ _

lemma setVMRoot_sameMaps (h : s.setVMRoot cfg = .ok s') : SameMaps s s' := by
  unfold State.setVMRoot at h
  split at h
  · split at h
    · exact armvContextSwitch_sameMaps h
    · obtain rfl := Except.ok.inj h
      exact logTlb_sameMaps _ _
  · obtain rfl := Except.ok.inj h
    exact logTlb_sameMaps _ _

lemma fastpathSwitch_sameMaps {slot : Slot} (h : s.fastpathSwitch cfg slot = some s') : SameMaps s s' := by
  have hset : ∀ e, SameMaps s ({ s with curVTable := some slot }.logTlb e) := fun _ =>
    ⟨rfl, rfl, rfl, fun _ _ => rfl⟩
  unfold State.fastpathSwitch at h
  split at h
  · split at h
    · split at h
      · cases h
      · split at h
        · split at h
          · obtain rfl := Option.some.inj h
            exact hset _
          · cases h
        · obtain rfl := Option.some.inj h
          exact hset _
    · cases h
  · cases h

/-! ## Deleting ASIDs -/

/-- `deleteASID` does nothing, or removes the entry of the ASID. -/
lemma deleteASID_spec {vspace : Ptr} (h : s.deleteASID cfg asid vspace = .ok s') :
    s' = s ∧ ¬s.Live asid vspace ∨
      s.Live asid vspace ∧ ∃ pool, s.armKSASIDTable (asidHigh asid) = some pool ∧
        SameMaps (s.setPoolEntry pool (asidLow asid) .none) s' := by
  have hlive : ∀ {pool}, s.armKSASIDTable (asidHigh asid) = some pool →
      (s.Live asid vspace ↔ (s.asidPool pool (asidLow asid)).root = some vspace) := by
    intro pool ht
    rw [live_iff, ht]
    simp
  unfold State.deleteASID at h
  split at h
  · rename_i pool ht
    split at h
    · rename_i root vmid valid hm
      split at h
      · rename_i hroot
        subst hroot
        refine .inr ⟨(hlive ht).mpr (congrArg AsidMap.root hm), pool, ht, ?_⟩
        have hinv : SameMaps s (s.invalidateTLBByASID cfg asid) := invalidateTLBByASID_sameMaps s asid
        dsimp only at h
        split at h
        · obtain ⟨s1, h1, h⟩ := bind_eq_ok.mp h
          have hs1 := hinv.trans (invalidateASIDEntry_sameMaps h1)
          exact (hs1.setPoolEntry_congr _ _ _).trans (setVMRoot_sameMaps h)
        · exact (hinv.setPoolEntry_congr _ _ _).trans (setVMRoot_sameMaps h)
      · rename_i hroot
        refine .inl ⟨(Except.ok.inj h).symm, fun hl => hroot ?_⟩
        have := (hlive ht).mp hl
        rw [hm] at this
        exact Option.some.inj this
    · rename_i hm
      refine .inl ⟨(Except.ok.inj h).symm, fun hl => ?_⟩
      have := (hlive ht).mp hl
      rw [hm] at this
      cases this
  · rename_i ht
    refine .inl ⟨(Except.ok.inj h).symm, fun hl => ?_⟩
    obtain ⟨pool, hp, -⟩ := live_iff.mp hl
    rw [ht] at hp
    cases hp

lemma deletePoolEntry_sameMaps {base pool offset : Nat} (h : State.deletePoolEntry cfg base pool s offset = .ok s') :
    SameMaps s s' := by
  unfold State.deletePoolEntry at h
  split at h
  · split at h
    · exact (invalidateTLBByASID_sameMaps _ _).trans (invalidateASIDEntry_sameMaps h)
    · obtain rfl := Except.ok.inj h
      exact invalidateTLBByASID_sameMaps _ _
  · obtain rfl := Except.ok.inj h
    exact .refl _

/-- The loop of `deleteASIDPool`. -/
lemma deletePoolEntries_sameMaps {base pool : Nat} (offsets : List Nat)
    (h : offsets.foldlM (State.deletePoolEntry cfg base pool) s = .ok s') : SameMaps s s' := by
  induction offsets generalizing s with
  | nil =>
    obtain rfl := Except.ok.inj h
    exact .refl _
  | cons offset offsets ih =>
    rw [List.foldlM_cons] at h
    obtain ⟨s1, h1, h⟩ := bind_eq_ok.mp h
    exact (deletePoolEntry_sameMaps h1).trans (ih h)

/-- `deleteASIDPool` does nothing, or removes the pool. -/
lemma deleteASIDPool_spec {base : Nat} {pool : Ptr} (h : s.deleteASIDPool cfg base pool = .ok s') :
    s' = s ∧ s.armKSASIDTable (asidHigh base) ≠ some pool ∨
      s.armKSASIDTable (asidHigh base) = some pool ∧
        SameMaps { s with armKSASIDTable := Function.update s.armKSASIDTable (asidHigh base) none } s' := by
  unfold State.deleteASIDPool at h
  obtain ⟨u, -, h⟩ := bind_eq_ok.mp h
  split at h
  · rename_i ht
    obtain ⟨s1, h1, h⟩ := bind_eq_ok.mp h
    have hs1 := deletePoolEntries_sameMaps _ h1
    have hset := setVMRoot_sameMaps h
    exact .inr ⟨ht, hset.cap.trans hs1.cap, hset.pte.trans hs1.pte,
      hset.table.trans (congrArg (Function.update · (asidHigh base) none) hs1.table),
      fun p i => (hset.root p i).trans (hs1.root p i)⟩
  · rename_i ht
    exact .inl ⟨(Except.ok.inj h).symm, ht⟩

end Vmids

/-! ## Entries that are removed -/

/-- Entries of tables are removed. -/
structure Loses (s s' : State) : Prop where
  cap : s'.cap = s.cap
  table : s'.armKSASIDTable = s.armKSASIDTable
  root : ∀ pool i, (s'.asidPool pool i).root = (s.asidPool pool i).root
  pte : ∀ p j, s'.pte p j = s.pte p j ∨ s'.pte p j = .invalid

lemma SameMaps.loses {s s' : State} (h : SameMaps s s') : Loses s s' :=
  ⟨h.cap, h.table, h.root, fun p j => .inl (by rw [h.pte])⟩

namespace Loses

variable {s s' s'' : State}

lemma refl (s : State) : Loses s s :=
  (SameMaps.refl s).loses

lemma trans (h : Loses s s') (h' : Loses s' s'') : Loses s s'' where
  cap := h'.cap.trans h.cap
  table := h'.table.trans h.table
  root pool i := (h'.root pool i).trans (h.root pool i)
  pte p j := by
    rcases h'.pte p j with e | e
    · rw [e]
      exact h.pte p j
    · exact .inr e

lemma setPte (s : State) (ptSlot : Ptr × Nat) : Loses s (s.setPte ptSlot .invalid) := by
  refine ⟨rfl, rfl, fun _ _ => rfl, fun p j => ?_⟩
  rw [setPte_pte]
  split
  · exact .inr rfl
  · exact .inl rfl

lemma clearMemoryPT (s : State) (pt : Ptr) : Loses s (s.clearMemoryPT pt) := by
  refine ⟨rfl, rfl, fun _ _ => rfl, fun p j => ?_⟩
  rw [clearMemoryPT_pte]
  split
  · exact .inr rfl
  · exact .inl rfl

lemma live (h : Loses s s') {asid : Nat} {root : Ptr} : s'.Live asid root ↔ s.Live asid root := by
  rw [live_iff, live_iff, h.table]
  simp only [h.root]

lemma walk (h : Loses s s') {cfg : VspaceConfig} {root pt : Ptr} {v l : Nat} (w : s'.Walk cfg root v l pt) :
    s.Walk cfg root v l pt := by
  refine Descent.mono w fun n i m e => ?_
  rcases h.pte n i with h | h
  · exact h ▸ e
  · rw [h] at e
    cases e

lemma pageBase (h : Loses s s') {pt base : Ptr} {i : Nat} (e : (s'.pte pt i).pageBase = some base) :
    (s.pte pt i).pageBase = some base := by
  rcases h.pte pt i with h | h
  · exact h ▸ e
  · rw [h] at e
    cases e

lemma capsInv (h : Loses s s') {cfg : VspaceConfig} (i : s.CapsInv cfg) : s'.CapsInv cfg := by
  refine i.of_pte h.cap fun t p _ j hj => ?_
  rcases h.pte p j with e | e
  · exact e.trans hj
  · exact e

end Loses

/-- The invariant does not need entries. -/
lemma State.Inv.of_loses {cfg : VspaceConfig} {s s' : State} (i : s.Inv cfg) (h : Loses s s') : s'.Inv cfg := by
  have hold : ∀ c, s.Holds c → s'.Holds c := by
    rintro c ⟨t, ht⟩
    exact ⟨t, by rw [h.cap, ht]⟩
  refine i.of_sub (h.capsInv i.toCapsInv) (fun _ _ => h.live.mp) (fun p _ => h.pte p) ?_ (fun _ _ _ => hold _)
    (fun _ _ _ _ _ _ _ _ _ => hold _) fun _ _ _ _ _ _ _ rights _ _ _ _ _ _ hc => ⟨rights, hold _ hc⟩
  intro j p hp
  rw [h.table] at hp
  exact hold _ (i.pool j p hp)

/-- The invariant does not depend on VMIDs. -/
lemma State.Inv.of_sameMaps {cfg : VspaceConfig} {s s' : State} (i : s.Inv cfg) (h : SameMaps s s') : s'.Inv cfg :=
  i.of_loses h.loses

end NexsKernel.Vspace
