import NexsKernel.CSpace.Tables

/-!
# The invariant of the CSpace

`Inv` collects what holds of every CSpace: the lists of the mapping database, what they say about memory,
objects and derivation, and where the slots are. This module shows it for the changes that the operations
of the kernel are made of. From the invariant follow the two things the code relies on when it looks only
at the neighbours of a slot: `isFinalCapability_iff` and `not_covers_of_ensureNoChildren`.
-/

namespace NexsKernel.CSpace

open Links

/-- The invariant of the CSpace. The capabilities to control the schedulers of several cores are the only
ones to one object that need not be neighbours: the boot code creates one for each core. -/
structure Inv (pf : Platform) (cs : CSpace) : Prop where
  linked : cs.WellLinked
  memory : cs.MemoryInv
  contiguous : ∀ k, (k = .schedControl 0 → pf.numNodes = 1) → cs.Contiguous k
  lineage : cs.Lineage
  tables : cs.TablesInv pf

variable {pf : Platform} {cs : CSpace}

/-- The neighbours of a slot tell whether it holds the only capability to its object. -/
lemma isFinalCapability_iff (w : cs.WellLinked) {k s} (h : cs.Contiguous k)
    (hk : objectOf (cs.cap s) = some k) :
    cs.isFinalCapability s = true ↔ ∀ t, t ≠ s → objectOf (cs.cap t) ≠ some k := by
  have hsame : ∀ {t}, objectOf (cs.cap t) = some k →
      sameObjectAs (cs.cap t) (cs.cap s) = true ∧ sameObjectAs (cs.cap s) (cs.cap t) = true := by
    intro t ht
    rw [sameObjectAs_iff, sameObjectAs_iff, ht, hk]
    simp
  constructor
  · intro hf t hts ht
    rcases h t s hts ht hk with r | r
    · -- the predecessor is a capability to the object
      obtain ⟨p, hp, hpt⟩ := r.pred
      have hpk : objectOf (cs.cap p) = some k := hpt.elim (fun e => e ▸ ht) id
      rw [w.coherent.next_iff] at hp
      simp [isFinalCapability, hp, (hsame hpk).1] at hf
    · obtain ⟨q, hq, hqk⟩ := r.first
      unfold isFinalCapability at hf
      simp [hq, (hsame hqk).2] at hf
  · intro huniq
    have hne : ∀ {t}, t ≠ s →
        sameObjectAs (cs.cap t) (cs.cap s) = false ∧ sameObjectAs (cs.cap s) (cs.cap t) = false := by
      intro t ht
      have hkt := huniq t ht
      constructor
      · rw [← Bool.not_eq_true, sameObjectAs_iff, hk]
        exact fun e => hkt e.1
      · rw [← Bool.not_eq_true, sameObjectAs_iff, hk]
        exact fun e => hkt e.1.symm
    unfold isFinalCapability
    cases hp : cs.mdbPrev s with
    | none =>
      cases hn : cs.mdbNext s with
      | none => rfl
      | some n =>
        have hns : n ≠ s := fun e => w.coherent.ne_next (e ▸ hn)
        simp [(hne hns).2]
    | some p =>
      have hps : p ≠ s := fun e => w.coherent.symm.ne_next (e ▸ hp)
      cases hn : cs.mdbNext s with
      | none => simp [(hne hps).1]
      | some n =>
        have hns : n ≠ s := fun e => w.coherent.ne_next (e ▸ hn)
        simp [(hne hps).1, (hne hns).2]

/-- An untyped capability follows exactly what lies inside it. -/
lemma follows_untyped_iff {a b : Cap} {fb} (hu : isUntyped a = true) (wa : WellFormed a)
    (wb : WellFormed b) : follows a b fb = true ↔ Inside a b := by
  have h : follows a b fb = sameRegionAs a b := by
    obtain ⟨_, _, _, _, rfl⟩ := isUntyped_iff.mp hu
    simp [follows, archIsMDBParentOf, badgeIsMDBParentOf]
  rw [h, sameRegionAs_untyped_iff hu wa wb]

/-- If the successor of an untyped capability is not its child, nothing is. -/
lemma not_covers_of_ensureNoChildren (m : cs.MemoryInv) {s t} (hu : isUntyped (cs.cap s) = true)
    (h : cs.ensureNoChildren s = .ok ()) : ¬ cs.Covers s t := by
  intro hc
  obtain ⟨q, hq, hin⟩ := hc.run.first
  have hf : cs.isMDBParentOf s q = true := by
    rw [isMDBParentOf_eq, m.revocable s hu, Bool.true_and]
    exact (follows_untyped_iff hu (m.wellFormed s) (m.wellFormed q)).mpr hin
  simp [ensureNoChildren, hq, hf, refuseIf] at h

/-- So only untyped capabilities around it overlap it. -/
lemma covers_of_ensureNoChildren (m : cs.MemoryInv) {s t} (hu : isUntyped (cs.cap s) = true)
    (h : cs.ensureNoChildren s = .ok ()) (hst : s ≠ t) (ho : Overlap (cs.cap s) (cs.cap t)) :
    isUntyped (cs.cap t) = true ∧ cs.Covers t s :=
  (m.covers s t hst hu ho).resolve_left (not_covers_of_ensureNoChildren m hu h)

namespace Inv

/-- Exchanging two located slots. -/
lemma exchange (i : Inv pf cs) {a b} (ha : cs.Located pf a) (hb : cs.Located pf b)
    (hirq : ∀ irq, irq < pf.numIRQs → pf.irqSlot irq ≠ a ∧ pf.irqSlot irq ≠ b) :
    Inv pf (cs.exchange a b) where
  linked := i.linked.exchange a b
  memory := i.memory.exchange
  contiguous k hk := (i.contiguous k hk).exchange
  lineage := i.lineage.exchange
  tables := i.tables.exchange ha hb hirq

/-- Erasing a slot whose slots are empty or belong to another capability. -/
lemma erase (i : Inv pf cs) {slot}
    (hl : ∀ t, t ≠ slot → cs.cap t ≠ .null → Contains (cs.cap slot) t →
      ∃ u, u ≠ slot ∧ Contains (cs.cap u) t) : Inv pf (cs.erase slot) where
  linked := i.linked.erase slot
  memory := i.memory.erase i.linked
  contiguous k hk := (i.contiguous k hk).erase i.linked
  lineage := i.lineage.erase i.linked
  tables := i.tables.erase hl

/-- Another guard, another mapping. -/
lemma setSimilar (i : Inv pf cs) {slot c} (hs : cs.cap slot ≠ .null) (h : Similar (cs.cap slot) c) :
    Inv pf (cs.setCap slot c) where
  linked := i.linked.setCap (h.ne_null hs)
  memory := by
    refine i.memory.setCap h.region h.untyped_eq (h.wellFormed (i.memory.wellFormed slot))
      (fun t hu hc => ?_) (.inl h.object)
    rw [h.untyped_eq] at hu
    rw [h.untyped hu]
    exact hc.end_le
  contiguous k hk := (i.contiguous k hk).setCap (.inl h.object)
  lineage := by
    refine i.lineage.setCap i.linked hs (fun x fb _ hf => ?_) (fun x fb _ hf => ?_)
    · rwa [h.follows_left]
    · rwa [h.follows_right]
  tables := by
    refine i.tables.setCap hs h.region (fun t _ ht => ?_) (fun irq e => h.of_irqHandler e) (fun hn => ?_)
    · obtain ⟨n, hn, rfl⟩ := ht
      exact ⟨n, h.slots.symm ▸ hn, by rw [h.region.ptr]⟩
    · generalize cs.cap slot = d at h hn
      cases h with
      | refl => exact hn
      | _ => cases hn

/-- Moving a capability to an empty slot of a table, with another guard. -/
lemma move (i : Inv pf cs) {src dest c} (hs : cs.cap src ≠ .null)
    (hsrc : ∃ t, Contains (cs.cap t) src) (hdest : ∃ t, Contains (cs.cap t) dest)
    (h : Similar (cs.cap src) c) : Inv pf ((cs.exchange src dest).setCap dest c) := by
  obtain ⟨t, ht⟩ := hsrc
  obtain ⟨t', ht'⟩ := hdest
  have hirq : ∀ irq, irq < pf.numIRQs → pf.irqSlot irq ≠ src ∧ pf.irqSlot irq ≠ dest := fun irq hi =>
    ⟨(i.tables.ne_irqSlot i.memory.wellFormed ht hi).symm,
      (i.tables.ne_irqSlot i.memory.wellFormed ht' hi).symm⟩
  have e : (cs.exchange src dest).cap dest = cs.cap src := by
    rw [exchange_cap, Equiv.swap_apply_right]
  refine (i.exchange (.inr ⟨t, ht⟩) (.inr ⟨t', ht'⟩) hirq).setSimilar ?_ ?_
  · rwa [e]
  · rwa [e]

/-- A new mark of an untyped capability, above everything that it covers. -/
lemma setMark (i : Inv pf cs) {slot freeIndex freeIndex' dev size ptr}
    (hs : cs.cap slot = .untyped freeIndex dev size ptr) (hle : freeIndex' ≤ maxFreeIndex size)
    (hmark : ∀ t, cs.Covers slot t → regionEnd (cs.cap t) ≤ ptr + freeIndex' * 2 ^ minUntypedBits) :
    Inv pf (cs.setCap slot (.untyped freeIndex' dev size ptr)) := by
  have hr : SameRegion (cs.cap slot) (.untyped freeIndex' dev size ptr) := by
    rw [hs]
    exact ⟨rfl, rfl, rfl⟩
  have hu : isUntyped (.untyped freeIndex' dev size ptr) = isUntyped (cs.cap slot) := by
    rw [hs]
    rfl
  have hobj : objectOf (.untyped freeIndex' dev size ptr) = objectOf (cs.cap slot) := by
    rw [hs]
    rfl
  have hne : cs.cap slot ≠ .null := by
    rw [hs]
    nofun
  have hw : WellFormed (.untyped freeIndex' dev size ptr) := by
    have h := i.memory.wellFormed slot
    rw [hs] at h
    exact ⟨h.1, h.2.1, hle, h.2.2.2⟩
  refine ⟨i.linked.setCap nofun, i.memory.setCap hr hu hw (fun t _ hc => hmark t hc) (.inl hobj),
    fun k hk => (i.contiguous k hk).setCap (.inl hobj), ?_, ?_⟩
  · refine i.lineage.setCap i.linked hne (fun x fb _ hf => ?_) (fun x fb _ hf => ?_)
    · rw [hs] at hf
      exact hf
    · rw [hs] at hf
      cases h : cs.cap x with
      | arch a =>
        rw [h] at hf
        cases a <;> exact hf
      | _ =>
        rw [h] at hf
        exact hf
  · refine i.tables.setCap hne hr (fun t _ ht => ?_) nofun (fun hn => ?_)
    · rw [hs] at ht
      obtain ⟨n, hn, -⟩ := ht
      exact absurd hn (Nat.not_lt_zero n)
    · rw [hs] at hn
      cases hn

end Inv

lemma tableOf_cases {c : Cap} {type ptr} (h : tableOf c = some (type, ptr)) :
    (∃ radix g s, c = .cnode radix g s ptr ∧ type = .cnode radix) ∨
      (∃ tcb, c = .thread tcb ∧ type = .tcb ∧ ptr = tcbPtrCtePtr tcb) ∨ ∃ n, c = .zombie type n ptr := by
  cases c with
  | cnode radix g s ptr' =>
    cases h
    exact .inl ⟨radix, g, s, rfl, rfl⟩
  | thread tcb =>
    cases h
    exact .inr (.inl ⟨tcb, rfl, rfl, rfl⟩)
  | zombie type' n ptr' =>
    cases h
    exact .inr (.inr ⟨n, rfl⟩)
  | _ => cases h

lemma setCap_same (slot) : cs.setCap slot (cs.cap slot) = cs := by
  simp [CSpace.setCap]

/-- A zombie covers the region of the object and has all its slots. -/
private lemma zombie_region {c : Cap} {type ptr} (h : tableOf c = some (type, ptr)) :
    SameRegion c (.zombie type (slotCount c) ptr) := by
  rcases tableOf_cases h with ⟨_, _, _, rfl, rfl⟩ | ⟨_, rfl, rfl, rfl⟩ | ⟨_, rfl⟩ <;>
    exact ⟨rfl, rfl, rfl⟩

private lemma zombie_wellFormed {c : Cap} {type ptr} (h : tableOf c = some (type, ptr))
    (w : WellFormed c) : WellFormed (.zombie type (slotCount c) ptr) := by
  rcases tableOf_cases h with ⟨_, _, _, rfl, rfl⟩ | ⟨_, rfl, rfl, rfl⟩ | ⟨_, rfl⟩
  · exact ⟨le_rfl, w rfl⟩
  · exact ⟨le_rfl, w rfl⟩
  · exact w

/-- Outside of untyped memory, interrupts and the architecture, one region is one object. -/
private lemma objectOf_of_sameRegionAs {a b : Cap} (h : sameRegionAs a b = true)
    (hu : isUntyped a = false) (hi : a ≠ .irqControl) (ha : isArchCap a = false) :
    objectOf a = objectOf b ∧ objectOf a ≠ none := by
  rw [← sameObjectAs_iff]
  cases a with
  | untyped => cases hu
  | irqControl => exact absurd rfl hi
  | arch => cases ha
  | _ => exact h

private lemma sameRegionAs_of_follows {a b : Cap} {fb} (h : follows a b fb = true) :
    sameRegionAs a b = true := by
  simp only [follows, Bool.and_eq_true] at h
  exact h.1.1

/-- What follows a capability to a CNode or TCB is a capability to the same object. -/
private lemma objectOf_of_follows {c x : Cap} {fb type ptr} (h : tableOf c = some (type, ptr))
    (hf : follows c x fb = true) : objectOf x = objectOf c := by
  have hr := sameRegionAs_of_follows hf
  rcases tableOf_cases h with ⟨_, _, _, rfl, rfl⟩ | ⟨_, rfl, rfl, rfl⟩ | ⟨_, rfl⟩
  · exact (objectOf_of_sameRegionAs hr rfl nofun rfl).1.symm
  · exact (objectOf_of_sameRegionAs hr rfl nofun rfl).1.symm
  · cases hr

/-- What a capability to a CNode or TCB follows is followed by its zombie, or names the same object. -/
private lemma follows_zombie {c x : Cap} {fb type ptr} (n : Nat) (h : tableOf c = some (type, ptr))
    (hf : follows x c fb = true) :
    objectOf x = objectOf c ∧ objectOf x ≠ none ∨ follows x (.zombie type n ptr) fb = true := by
  have hr := sameRegionAs_of_follows hf
  cases x with
  | untyped =>
    refine .inr ?_
    rcases tableOf_cases h with ⟨_, _, _, rfl, rfl⟩ | ⟨_, rfl, rfl, rfl⟩ | ⟨_, rfl⟩
    · exact hf
    · exact hf
    · cases type <;> exact hf
  | irqControl | arch a =>
    rcases tableOf_cases h with ⟨_, _, _, rfl, rfl⟩ | ⟨_, rfl, rfl, rfl⟩ | ⟨_, rfl⟩ <;> cases hr
  | _ => exact .inl (objectOf_of_sameRegionAs hr rfl nofun rfl)

namespace Inv

/-- The only capability to a CNode or a TCB becomes a zombie. -/
lemma zombify (i : Inv pf cs) {slot type ptr} (ht : tableOf (cs.cap slot) = some (type, ptr))
    (hz : isZombie (cs.cap slot) = true ∨
      ∀ t, t ≠ slot → objectOf (cs.cap t) ≠ objectOf (cs.cap slot)) :
    Inv pf (cs.setCap slot (.zombie type (slotCount (cs.cap slot)) ptr)) := by
  rcases hz with hz | huniq
  · -- a zombie already
    have e : .zombie type (slotCount (cs.cap slot)) ptr = cs.cap slot := by
      rcases tableOf_cases ht with ⟨_, _, _, e, _⟩ | ⟨_, e, _, _⟩ | ⟨n, e⟩
      · rw [e] at hz
        cases hz
      · rw [e] at hz
        cases hz
      · rw [e]
        rfl
    rw [e, setCap_same]
    exact i
  have hne : cs.cap slot ≠ .null := by
    intro e
    rw [e] at ht
    cases ht
  have hun : isUntyped (cs.cap slot) = false := by
    rcases tableOf_cases ht with ⟨_, _, _, e, _⟩ | ⟨_, e, _, _⟩ | ⟨_, e⟩ <;> rw [e] <;> rfl
  refine ⟨i.linked.setCap nofun, ?_, fun k hk => (i.contiguous k hk).setCap ?_, ?_, ?_⟩
  · refine i.memory.setCap (zombie_region ht) hun.symm (zombie_wellFormed ht (i.memory.wellFormed slot))
      nofun (.inr fun t hts hut ho => ?_)
    exact huniq t hts (i.memory.exclusive slot t hts.symm hun hut ho).1.symm
  · exact .inr ⟨rfl, fun t hts e => absurd e (huniq t hts)⟩
  · refine i.lineage.setCap i.linked hne (fun x fb hx hf => ?_) (fun x fb hx hf => ?_)
    · exact absurd (objectOf_of_follows ht hf) (huniq x hx)
    · exact (follows_zombie _ ht hf).resolve_left fun e => huniq x hx e.1
  · refine i.tables.setCap hne (zombie_region ht) (fun t _ hc => ?_) nofun (fun hn => ?_)
    · obtain ⟨n, hn, rfl⟩ := hc
      exact ⟨n, hn, by rw [(zombie_region ht).ptr]⟩
    · rcases tableOf_cases ht with ⟨_, _, _, e, _⟩ | ⟨_, e, _, _⟩ | ⟨_, e⟩ <;> rw [e] at hn <;> cases hn

/-- A zombie has cleared its last slot. -/
lemma shrink (i : Inv pf cs) {slot type n ptr} (hs : cs.cap slot = .zombie type n ptr) (hn : 0 < n)
    (hnull : cs.cap (slotAt ptr (n - 1)) = .null) :
    Inv pf (cs.setCap slot (.zombie type (n - 1) ptr)) := by
  have hne : cs.cap slot ≠ .null := by
    rw [hs]
    nofun
  have hr : SameRegion (cs.cap slot) (.zombie type (n - 1) ptr) := by
    rw [hs]
    cases type <;> exact ⟨rfl, rfl, rfl⟩
  have hobj : objectOf (.zombie type (n - 1) ptr) = objectOf (cs.cap slot) := by
    rw [hs]
    rfl
  have hu : isUntyped (.zombie type (n - 1) ptr) = isUntyped (cs.cap slot) := by
    rw [hs]
    rfl
  have hw : WellFormed (.zombie type (n - 1) ptr) := by
    have h := i.memory.wellFormed slot
    rw [hs] at h
    refine ⟨(Nat.sub_le n 1).trans h.1, ?_⟩
    rw [← hr.regionEnd, hs]
    exact h.2
  refine ⟨i.linked.setCap nofun, i.memory.setCap hr hu hw nofun (.inl hobj),
    fun k hk => (i.contiguous k hk).setCap (.inl hobj), ?_, ?_⟩
  · refine i.lineage.setCap i.linked hne (fun x fb _ hf => ?_) (fun x fb _ hf => ?_)
    · rw [hs] at hf
      cases hf
    · rw [hs] at hf
      have ht : tableOf (.zombie type n ptr) = some (type, ptr) := rfl
      exact (follows_zombie _ ht hf).resolve_left fun e => e.2 e.1
  · refine i.tables.setCap hne hr (fun t htn hc => ?_) nofun (fun h => ?_)
    · rw [hs] at hc
      obtain ⟨j, hj, rfl⟩ := hc
      change j < n at hj
      have hjn : j ≠ n - 1 := by
        rintro rfl
        exact htn hnull
      exact ⟨j, by change j < n - 1; omega, rfl⟩
    · rw [hs] at h
      cases h

/-- A new capability that fits behind its source. -/
lemma insert (i : Inv pf cs) {src dest c rev} (hd : cs.cap dest = .null) (hs : cs.cap src ≠ .null)
    (hc : c ≠ .null) (f : cs.Fits src c) (hrev : isUntyped c = true → rev = true)
    (hself : follows (cs.cap src) c rev = true)
    (hall : ∀ s fb, follows (cs.cap s) (cs.cap src) fb = true → follows (cs.cap s) c rev = true)
    (hl : cs.Located pf dest)
    (hphys : capIsPhysical c = true → capIsPhysical (cs.cap src) = true)
    (hhandler : ∀ irq, c = .irqHandler irq → cs.intStateIRQTable irq = .signal ∧ irq < pf.numIRQs)
    (hirq : ∀ irq, irq < pf.numIRQs → dest = pf.irqSlot irq → isNotification c = true) :
    Inv pf (cs.insert src dest c rev) where
  linked := i.linked.insert hd hs hc
  memory := i.memory.insert i.linked hd hs f hrev
  contiguous k hk := (i.contiguous k hk).insert i.linked hd hs f
  lineage := i.lineage.insert i.linked hd hs hself hall
  tables := i.tables.insert hd hl (fun hp => f.inside (hphys hp)) hphys hhandler hirq

end Inv

/-- A copy fits behind its source, unless that is untyped. -/
lemma MemoryInv.fits_copy (m : cs.MemoryInv) {src c} (h : Copies (cs.cap src) c)
    (hu : isUntyped (cs.cap src) = false) : cs.Fits src c where
  wellFormed := h.wellFormed (m.wellFormed src)
  inside hp := h.region.inside hp
  covers t ho hut := by
    have hut : isUntyped (cs.cap t) = true := hut.resolve_right (by rw [h.untyped_eq, hu]; nofun)
    have hts : t ≠ src := by
      rintro rfl
      rw [hut] at hu
      cases hu
    have ho' : Overlap (cs.cap t) (cs.cap src) := (h.region.symm.overlap_left ho.symm).symm
    rcases m.covers t src hts hut ho' with hc | ⟨hus, -⟩
    · exact ⟨hut, .inr hc⟩
    · rw [hu] at hus
      cases hus
  object := .inl h.object
  exclusive t hut _ ho := by
    have ho' : Overlap (cs.cap t) (cs.cap src) := (h.region.symm.overlap_left ho.symm).symm
    have hn := h.object_ne_none ho'.phys_right hu
    rw [h.object]
    by_cases e : t = src
    · rw [e]
      exact ⟨rfl, hn⟩
    · exact ⟨(m.exclusive t src e hut hu ho').1, hn⟩

/-- The end of an untyped capability that is marked as full. -/
lemma freeRef_full {dev size ptr} (h : minUntypedBits ≤ size) :
    freeRef (.untyped (maxFreeIndex size) dev size ptr) = ptr + 2 ^ size := by
  change ptr + 2 ^ (size - minUntypedBits) * 2 ^ minUntypedBits = ptr + 2 ^ size
  rw [← pow_add, Nat.sub_add_cancel h]

/-- A copy of an untyped capability without children fits behind it once it is marked as full. -/
lemma MemoryInv.fits_untyped (m : cs.MemoryInv) {src freeIndex dev size ptr}
    (hs : cs.cap src = .untyped freeIndex dev size ptr) (hno : cs.ensureNoChildren src = .ok ()) :
    (cs.setCap src (.untyped (maxFreeIndex size) dev size ptr)).Fits src
      (.untyped freeIndex dev size ptr) := by
  have hu : isUntyped (cs.cap src) = true := by
    rw [hs]
    rfl
  have hw := m.wellFormed src
  rw [hs] at hw
  have hr : SameRegion (cs.cap src) (.untyped (maxFreeIndex size) dev size ptr) := by
    rw [hs]
    exact ⟨rfl, rfl, rfl⟩
  refine ⟨hw, fun _ => ?_, fun t ho _ => ?_, .inl ?_, fun t _ hc => ?_⟩
  · rw [setCap_cap_self]
    exact ⟨rfl, le_rfl, le_rfl⟩
  · by_cases e : t = src
    · subst e
      rw [setCap_cap_self]
      refine ⟨rfl, .inl ⟨rfl, ?_⟩⟩
      rw [freeRef_full hw.1]
      exact le_rfl
    · rw [setCap_cap_of_ne cs e] at ho ⊢
      have ho' : Overlap (cs.cap src) (cs.cap t) := by
        rw [hs]
        exact ho.symm
      obtain ⟨hut, hc⟩ := covers_of_ensureNoChildren m hu hno (Ne.symm e) ho'
      exact ⟨hut, .inr (hc.setCap hr fun h => absurd h e)⟩
  · rw [setCap_cap_self]
    rfl
  · cases hc

/-- A new object in the used part of an untyped capability fits behind it if only untyped capabilities
around that one overlap it. -/
lemma fits_object {src c} (hu : isUntyped (cs.cap src) = true)
    (hw : WellFormed c) (hin : Inside (cs.cap src) c) (hmark : regionEnd c ≤ freeRef (cs.cap src))
    (hfresh : ∀ t, t ≠ src → Overlap (cs.cap t) c → isUntyped (cs.cap t) = true ∧ cs.Covers t src) :
    cs.Fits src c := by
  have hunt : ∀ t, Overlap (cs.cap t) c → isUntyped (cs.cap t) = true := by
    intro t ho
    by_cases e : t = src
    · rwa [e]
    · exact (hfresh t e ho).1
  refine ⟨hw, fun _ => hin, fun t ho _ => ⟨hunt t ho, ?_⟩, .inr ⟨objectOf_of_isUntyped hu, ?_⟩, ?_⟩
  · by_cases e : t = src
    · exact .inl ⟨e, hmark⟩
    · exact .inr (hfresh t e ho).2
  · intro t e
    by_contra hn
    have hr := sameRegion_of_objectOf e hn
    have ho : Overlap (cs.cap t) c := (hr.inside hin.phys).overlap hin.phys |>.symm
    rw [e, objectOf_of_isUntyped (hunt t ho)] at hn
    exact hn rfl
  · intro t hut _ ho
    rw [hunt t ho] at hut
    cases hut

namespace Inv

/-- `cteInsert` of a copy. -/
lemma cteInsert (i : Inv pf cs) {src dest c} (hd : cs.cap dest = .null) (h : Copies (cs.cap src) c)
    (hno : isUntyped (cs.cap src) = true → cs.ensureNoChildren src = .ok ()) (hl : cs.Located pf dest)
    (hirq : ∀ irq, irq < pf.numIRQs → dest = pf.irqSlot irq → isNotification c = true) :
    ∃ cs', cs.cteInsert c src dest = .ok cs' ∧ Inv pf cs' := by
  have hs : cs.cap src ≠ .null := by
    intro e
    rw [e] at h
    cases h
  refine ⟨_, cteInsert_eq cs i.linked c hd hs, ?_⟩
  rw [setUntypedCapAsFull_eq]
  have hall : ∀ x fb, follows x (cs.cap src) fb = true → follows x c (isCapRevocable c (cs.cap src)) = true :=
    fun x fb hf => h.follows_of_follows hf
  cases hu : isUntyped (cs.cap src) with
  | false =>
    have e : markFull (cs.cap src) c = cs.cap src := by
      cases hc : cs.cap src with
      | untyped =>
        rw [hc] at hu
        cases hu
      | _ => rfl
    rw [e, setCap_same]
    refine i.insert hd hs h.ne_null (i.memory.fits_copy h hu) h.revocable_of_isUntyped
      (h.follows_self (i.memory.wellFormed src)) (fun s fb hf => hall _ _ hf) hl (fun hp => ?_)
      (fun irq e => i.tables.irqHandler src irq (h.of_irqHandler e)) hirq
    rwa [h.region.phys]
  | true =>
    obtain ⟨freeIndex, dev, size, ptr, hc⟩ := isUntyped_iff.mp hu
    have hcopy : c = .untyped freeIndex dev size ptr := by
      rw [hc] at h
      cases h
      rfl
    have e : markFull (cs.cap src) c = .untyped (maxFreeIndex size) dev size ptr := by
      rw [hc, hcopy]
      simp [markFull]
    rw [e]
    have hno := hno hu
    have i' : Inv pf (cs.setCap src (.untyped (maxFreeIndex size) dev size ptr)) :=
      i.setMark hc le_rfl fun t ht => absurd ht (not_covers_of_ensureNoChildren i.memory hu hno)
    have hds : dest ≠ src := by
      rintro rfl
      exact hs hd
    have hw := i.memory.wellFormed src
    rw [hc] at hw
    have hrev : isCapRevocable c (cs.cap src) = true := h.revocable_of_isUntyped (h.untyped_eq.trans hu)
    have hfol : ∀ x fb fb', follows x (.untyped (maxFreeIndex size) dev size ptr) fb = true →
        follows x c fb' = true := by
      intro x fb fb' hf
      rw [hcopy]
      cases x with
      | untyped => exact hf
      | irqControl => cases sameRegionAs_of_follows hf
      | _ => cases sameRegionAs_of_follows hf
    refine i'.insert ?_ ?_ h.ne_null ?_ (fun _ => hrev) ?_ (fun s fb hf => ?_) ?_ (fun _ => ?_) ?_ hirq
    · rwa [setCap_cap_of_ne cs hds]
    · rw [setCap_cap_self]
      nofun
    · rw [hcopy]
      exact i.memory.fits_untyped hc hno
    · rw [setCap_cap_self]
      have hsame : follows (cs.cap src) c (isCapRevocable c (cs.cap src)) = true :=
        h.follows_self (i.memory.wellFormed src)
      rw [hc] at hsame
      exact hsame
    · rw [setCap_cap_self] at hf
      exact hfol _ _ _ hf
    · rcases hl with hl | ⟨t, ht⟩
      · exact .inl hl
      · refine .inr ⟨t, ?_⟩
        have hts : t ≠ src := by
          rintro rfl
          rw [hc] at ht
          obtain ⟨n, hn, -⟩ := ht
          exact Nat.not_lt_zero n hn
        rwa [setCap_cap_of_ne cs hts]
    · rw [setCap_cap_self]
      rfl
    · rw [hcopy]
      exact nofun

/-- A new object behind the untyped capability it lies in. -/
lemma insertObject (i : Inv pf cs) {src dest c rev} (hd : cs.cap dest = .null)
    (hu : isUntyped (cs.cap src) = true) (hw : WellFormed c) (hin : Inside (cs.cap src) c)
    (hmark : regionEnd c ≤ freeRef (cs.cap src))
    (hfresh : ∀ t, t ≠ src → Overlap (cs.cap t) c → isUntyped (cs.cap t) = true ∧ cs.Covers t src)
    (hrev : isUntyped c = true → rev = true) (hl : ∃ t, Contains (cs.cap t) dest) :
    Inv pf (cs.insert src dest c rev) := by
  have hs : cs.cap src ≠ .null := by
    intro e
    rw [e] at hu
    cases hu
  have hc : c ≠ .null := by
    rintro rfl
    cases hin.phys
  have hps := capIsPhysical_of_isUntyped hu
  refine i.insert hd hs hc (fits_object hu hw hin hmark hfresh) hrev ?_ (fun s fb hf => ?_)
    (.inr hl) (fun _ => hps) ?_ (fun irq hi e => ?_)
  · exact (follows_untyped_iff hu (i.memory.wellFormed src) hw).mpr hin
  · -- only untyped capabilities have an untyped capability behind them
    have hus : isUntyped (cs.cap s) = true := by
      obtain ⟨_, _, _, _, e⟩ := isUntyped_iff.mp hu
      rw [e] at hf
      have hr := sameRegionAs_of_follows hf
      cases hcs : cs.cap s with
      | untyped => rfl
      | _ =>
        rw [hcs] at hr
        cases hr
    rw [follows_untyped_iff hus (i.memory.wellFormed s) (i.memory.wellFormed src)] at hf
    exact (follows_untyped_iff hus (i.memory.wellFormed s) hw).mpr (hf.trans hin)
  · rintro irq rfl
    cases hin.phys
  · obtain ⟨t, ht⟩ := hl
    exact absurd e (i.tables.ne_irqSlot i.memory.wellFormed ht hi)

/-- A capability for an interrupt behind the one that controls the interrupts. -/
lemma insertIrq (i : Inv pf cs) {src dest c} (hd : cs.cap dest = .null) (hs : cs.cap src = .irqControl)
    (hc : sameRegionAs .irqControl c = true) (hne : c ≠ .irqControl)
    (hnew : ∀ irq, c = .irqHandler irq → (∀ t, cs.cap t ≠ c) ∧ cs.intStateIRQTable irq = .signal ∧ irq < pf.numIRQs)
    (hl : ∃ t, Contains (cs.cap t) dest) : Inv pf (cs.insert src dest c true) := by
  -- a handler or a software interrupt
  have hkind : (∃ irq, c = .irqHandler irq) ∨ ∃ irq target, c = .arch (.sgiSignal irq target) := by
    cases c with
    | irqControl => exact absurd rfl hne
    | irqHandler irq => exact .inl ⟨irq, rfl⟩
    | arch c =>
      cases c with
      | sgiSignal irq target => exact .inr ⟨irq, target, rfl⟩
      | _ => cases hc
    | _ => cases hc
  have hphys : capIsPhysical c = false := by
    rcases hkind with ⟨_, rfl⟩ | ⟨_, _, rfl⟩ <;> rfl
  have hun : isUntyped c = false := by
    rcases hkind with ⟨_, rfl⟩ | ⟨_, _, rfl⟩ <;> rfl
  have hno : ∀ {a}, ¬ Overlap a c := by
    intro a ho
    rw [ho.phys_right] at hphys
    cases hphys
  have f : cs.Fits src c := by
    refine ⟨?_, ?_, fun t ho => absurd ho hno, .inr ⟨?_, fun t e => ?_⟩, fun t _ _ ho => absurd ho hno⟩
    · rcases hkind with ⟨_, rfl⟩ | ⟨_, _, rfl⟩ <;> exact fun h => by cases h
    · rw [hs]
      intro h
      cases h
    · rw [hs]
      rfl
    · rcases hkind with ⟨irq, rfl⟩ | ⟨_, _, rfl⟩
      · exfalso
        apply (hnew irq rfl).1 t
        cases ht : cs.cap t with
        | irqHandler irq' =>
          rw [ht] at e
          simp only [objectOf, Option.some.injEq, Cap.irqHandler.injEq] at e
          rw [e]
        | arch a =>
          rw [ht] at e
          cases a <;> simp [objectOf, ArchCap.objectOf] at e
        | _ =>
          rw [ht] at e
          simp [objectOf] at e
      · rfl
  have hfol : follows .irqControl c true = true := by
    simpa [follows, archIsMDBParentOf, badgeIsMDBParentOf] using hc
  refine i.insert hd (by simp [hs]) ?_ f (fun _ => rfl) ?_ (fun s fb hf => ?_) (.inr hl) ?_
    (fun irq e => (hnew irq e).2) (fun irq hi e => ?_)
  · rcases hkind with ⟨_, rfl⟩ | ⟨_, _, rfl⟩ <;> simp
  · rwa [hs]
  · -- nothing else controls the interrupts
    rw [hs] at hf
    have hr := sameRegionAs_of_follows hf
    have e : cs.cap s = .irqControl := by
      cases hcs : cs.cap s with
      | irqControl => rfl
      | _ =>
        rw [hcs] at hr
        cases hr
    rwa [e]
  · simp [hphys]
  · obtain ⟨t, ht⟩ := hl
    exact absurd e (i.tables.ne_irqSlot i.memory.wellFormed ht hi)

end Inv

end NexsKernel.CSpace
