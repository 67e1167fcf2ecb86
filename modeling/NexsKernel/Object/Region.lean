import NexsKernel.CSpace.Cte

/-!
# Regions and objects

What a capability is about. A physical capability covers the region of memory from `capPtr` to
`regionEnd`; `Inside` and `Overlap` compare regions. `objectOf` forgets the fields of a capability that may
differ between capabilities to the same object (badges, rights, guards, mappings), so that two
capabilities name the same object exactly when it agrees on them (`sameObjectAs_iff`).

`tableOf` is the table of slots of a CNode, of a TCB, or of a zombie of either, and `Contains` gives the
slots of the table that the capability still has.
-/

namespace NexsKernel

/-- The end of the region of a physical capability. -/
def regionEnd (c : Cap) : Nat :=
  capPtr c + 2 ^ capSizeBits c

/-- The region of `b` lies in the region of `a`. -/
structure Inside (a b : Cap) : Prop where
  phys : capIsPhysical b = true
  le : capPtr a ≤ capPtr b
  end_le : regionEnd b ≤ regionEnd a

/-- The regions of two physical capabilities share an address. -/
structure Overlap (a b : Cap) : Prop where
  phys_left : capIsPhysical a = true
  phys_right : capIsPhysical b = true
  lt_left : capPtr a < regionEnd b
  lt_right : capPtr b < regionEnd a

/-- An untyped capability. -/
def isUntyped : Cap → Bool
  | .untyped .. => true
  | _ => false

/-- A zombie. -/
def isZombie : Cap → Bool
  | .zombie .. => true
  | _ => false

/-- The address up to which an untyped capability has been used (`GET_FREE_REF`). -/
def freeRef : Cap → Nat
  | .untyped freeIndex _ _ ptr => ptr + freeIndex * 2 ^ minUntypedBits
  | c => capPtr c

/-- The number of slots of an object that a zombie stands for. -/
def zombieSlots : ZombieType → Nat
  | .tcb => tcbArchCNodeEntries
  | .cnode radix => 2 ^ radix

/-- The table of slots of the object that a capability names. -/
def tableOf : Cap → Option (ZombieType × Nat)
  | .cnode radix _ _ ptr => some (.cnode radix, ptr)
  | .thread ptr => some (.tcb, tcbPtrCtePtr ptr)
  | .zombie type _ ptr => some (type, ptr)
  | _ => none

/-- The number of slots that a capability gives access to, or that a zombie still has to clear. -/
def slotCount : Cap → Nat
  | .cnode radix _ _ _ => 2 ^ radix
  | .thread _ => tcbArchCNodeEntries
  | .zombie _ number _ => number
  | _ => 0

/-- The slot at an index of a table of slots. -/
def slotAt (ptr i : Nat) : Slot :=
  ptr + i * 2 ^ slotBits

/-- A slot of the object that a capability names. -/
def Contains (c : Cap) (s : Slot) : Prop :=
  ∃ i < slotCount c, s = slotAt (capPtr c) i

/-- What holds of every capability in the system. -/
def WellFormed : Cap → Prop
  | .untyped freeIndex _ blockSize ptr =>
    minUntypedBits ≤ blockSize ∧ blockSize ≤ maxUntypedBits ∧ freeIndex ≤ maxFreeIndex blockSize ∧
      2 ^ blockSize ∣ ptr ∧ ptr + 2 ^ blockSize ≤ 2 ^ 64
  | .zombie type number ptr =>
    number ≤ zombieSlots type ∧ regionEnd (.zombie type number ptr) ≤ 2 ^ 64
  | c => capIsPhysical c = true → regionEnd c ≤ 2 ^ 64

instance (a b : Cap) : Decidable (Overlap a b) :=
  decidable_of_iff (capIsPhysical a = true ∧ capIsPhysical b = true ∧ capPtr a < regionEnd b ∧
    capPtr b < regionEnd a) ⟨fun h => ⟨h.1, h.2.1, h.2.2.1, h.2.2.2⟩, fun h => ⟨h.1, h.2, h.3, h.4⟩⟩

instance : DecidablePred WellFormed
  | .untyped freeIndex _ blockSize ptr =>
    inferInstanceAs (Decidable (minUntypedBits ≤ blockSize ∧ blockSize ≤ maxUntypedBits ∧
      freeIndex ≤ maxFreeIndex blockSize ∧ 2 ^ blockSize ∣ ptr ∧ ptr + 2 ^ blockSize ≤ 2 ^ 64))
  | .zombie type number ptr =>
    inferInstanceAs (Decidable (number ≤ zombieSlots type ∧ regionEnd (.zombie type number ptr) ≤ 2 ^ 64))
  | .null | .endpoint .. | .notification .. | .reply .. | .cnode .. | .thread _ | .irqControl | .irqHandler _
  | .domain | .schedContext .. | .schedControl _ | .arch _ =>
    inferInstanceAs (Decidable (_ → _ ≤ _))

/-- The object that an architecture capability names. -/
def ArchCap.objectOf : ArchCap → Option ArchCap
  | .frame _ base size _ _ dev => some (.frame 0 base size 0 .kernelOnly dev)
  | .pageTable _ base _ _ => some (.pageTable 0 base false 0)
  | .vspace _ base _ => some (.vspace 0 base false)
  | .asidControl => some .asidControl
  | .asidPool _ pool => some (.asidPool 0 pool)
  | .vcpu ptr => some (.vcpu ptr)
  | .smc _ => some (.smc 0)
  | .sgiSignal _ _ => none

/-- The object that a capability names. -/
def objectOf : Cap → Option Cap
  | .endpoint _ _ _ _ _ ptr => some (.endpoint 0 false false false false ptr)
  | .notification _ _ _ ptr => some (.notification 0 false false ptr)
  | .reply ptr _ => some (.reply ptr false)
  | .cnode radix _ _ ptr => some (.cnode radix 0 0 ptr)
  | .thread ptr => some (.thread ptr)
  | .irqHandler irq => some (.irqHandler irq)
  | .domain => some .domain
  | .schedContext ptr sizeBits => some (.schedContext ptr sizeBits)
  | .schedControl _ => some (.schedControl 0)
  | .arch a => a.objectOf.map Cap.arch
  | .null | .untyped .. | .irqControl | .zombie .. => none

lemma ArchCap.sameObjectAs_iff {a b : ArchCap} :
    a.sameObjectAs b = true ↔ a.objectOf = b.objectOf ∧ a.objectOf ≠ none := by
  cases a <;> cases b <;>
    simp [ArchCap.sameObjectAs, ArchCap.sameRegionAs, ArchCap.objectOf, and_assoc]

/-- `sameObjectAs` compares the objects. -/
lemma sameObjectAs_iff {a b : Cap} :
    sameObjectAs a b = true ↔ objectOf a = objectOf b ∧ objectOf a ≠ none := by
  cases a with
  | arch a =>
    cases b with
    | arch b =>
      have h : sameObjectAs (.arch a) (.arch b) = a.sameObjectAs b := rfl
      rw [h, ArchCap.sameObjectAs_iff]
      cases ha : a.objectOf <;> cases hb : b.objectOf <;> simp [objectOf, ha, hb]
    | _ => cases ha : a.objectOf <;> simp [sameObjectAs, sameRegionAs, objectOf, ha]
  | irqControl => simp [sameObjectAs, objectOf]
  | _ =>
    cases b with
    | arch b => cases hb : b.objectOf <;> simp [sameObjectAs, sameRegionAs, objectOf, hb]
    | _ => simp [sameObjectAs, sameRegionAs, objectOf, and_comm]

/-- Two capabilities cover the same region, or none. -/
structure SameRegion (a b : Cap) : Prop where
  ptr : capPtr a = capPtr b
  size : capSizeBits a = capSizeBits b
  phys : capIsPhysical a = capIsPhysical b

namespace SameRegion

variable {a b c : Cap}

lemma refl (a : Cap) : SameRegion a a :=
  ⟨rfl, rfl, rfl⟩

lemma symm (h : SameRegion a b) : SameRegion b a :=
  ⟨h.ptr.symm, h.size.symm, h.phys.symm⟩

lemma trans (h : SameRegion a b) (h' : SameRegion b c) : SameRegion a c :=
  ⟨h.ptr.trans h'.ptr, h.size.trans h'.size, h.phys.trans h'.phys⟩

lemma regionEnd (h : SameRegion a b) : regionEnd a = regionEnd b := by
  unfold NexsKernel.regionEnd
  rw [h.ptr, h.size]

lemma inside_left (h : SameRegion a b) (i : Inside a c) : Inside b c :=
  ⟨i.phys, h.ptr ▸ i.le, h.regionEnd ▸ i.end_le⟩

lemma inside_right (h : SameRegion a b) (i : Inside c a) : Inside c b :=
  ⟨h.phys ▸ i.phys, h.ptr ▸ i.le, h.regionEnd ▸ i.end_le⟩

lemma inside (h : SameRegion a b) (hp : capIsPhysical a = true) : Inside a b :=
  ⟨h.phys ▸ hp, h.ptr.le, h.regionEnd.ge⟩

lemma overlap_left (h : SameRegion a b) (o : Overlap a c) : Overlap b c :=
  ⟨h.phys ▸ o.phys_left, o.phys_right, h.ptr ▸ o.lt_left, h.regionEnd ▸ o.lt_right⟩

end SameRegion

section Regions

variable {a b c : Cap}

lemma Inside.trans (h : Inside a b) (h' : Inside b c) : Inside a c :=
  ⟨h'.phys, h.le.trans h'.le, h'.end_le.trans h.end_le⟩

lemma Overlap.symm (h : Overlap a b) : Overlap b a :=
  ⟨h.phys_right, h.phys_left, h.lt_right, h.lt_left⟩

lemma capPtr_lt_regionEnd (c : Cap) : capPtr c < regionEnd c :=
  Nat.lt_add_of_pos_right (Nat.two_pow_pos _)

lemma Inside.overlap (h : Inside a b) (hp : capIsPhysical a = true) : Overlap a b :=
  ⟨hp, h.phys, h.le.trans_lt (capPtr_lt_regionEnd b), (capPtr_lt_regionEnd b).trans_le h.end_le⟩

/-- What overlaps a region overlaps every region around it. -/
lemma Inside.overlap_of_overlap (h : Inside a b) (hp : capIsPhysical a = true) (o : Overlap b c) :
    Overlap a c :=
  ⟨hp, o.phys_right, h.le.trans_lt o.lt_left, o.lt_right.trans_le h.end_le⟩

lemma isUntyped_iff : isUntyped a = true ↔ ∃ freeIndex dev size ptr, a = .untyped freeIndex dev size ptr := by
  cases a <;> simp [isUntyped]

lemma capIsPhysical_of_isUntyped (h : isUntyped a = true) : capIsPhysical a = true := by
  obtain ⟨_, _, _, _, rfl⟩ := isUntyped_iff.mp h
  rfl

lemma WellFormed.regionEnd_le (w : WellFormed a) (hp : capIsPhysical a = true) : regionEnd a ≤ 2 ^ 64 := by
  cases a with
  | untyped freeIndex dev size ptr => exact w.2.2.2.2
  | zombie type number ptr => exact w.2
  | _ => exact w hp

/-- An untyped capability is in the same region as what lies inside it. -/
lemma sameRegionAs_untyped_iff (hu : isUntyped a = true) (wa : WellFormed a) (wb : WellFormed b) :
    sameRegionAs a b = true ↔ Inside a b := by
  obtain ⟨freeIndex, dev, size, ptr, rfl⟩ := isUntyped_iff.mp hu
  cases hp : capIsPhysical b with
  | false =>
    simp only [sameRegionAs, hp, Bool.false_and, Bool.false_eq_true, false_iff]
    intro h
    rw [h.phys] at hp
    cases hp
  | true =>
    have ea : ptr + 2 ^ size ≤ 2 ^ 64 := wa.2.2.2.2
    have eb : capPtr b + 2 ^ capSizeBits b ≤ 2 ^ 64 := wb.regionEnd_le hp
    have pa := Nat.two_pow_pos size
    have pb := Nat.two_pow_pos (capSizeBits b)
    have ta : add64 ptr (mask size) = ptr + (2 ^ size - 1) := by
      apply add64_eq
      unfold mask
      omega
    have tb : add64 (capPtr b) (mask (capSizeBits b)) = capPtr b + (2 ^ capSizeBits b - 1) := by
      apply add64_eq
      unfold mask
      omega
    simp only [sameRegionAs, hp, ta, tb, Bool.true_and, Bool.and_eq_true, decide_eq_true_eq]
    constructor
    · rintro ⟨⟨h1, h2⟩, -⟩
      refine ⟨hp, h1, ?_⟩
      change capPtr b + 2 ^ capSizeBits b ≤ ptr + 2 ^ size
      omega
    · rintro ⟨-, h1, h2⟩
      change capPtr b + 2 ^ capSizeBits b ≤ ptr + 2 ^ size at h2
      change ptr ≤ capPtr b at h1
      omega

end Regions

section Objects

variable {a b : Cap}

/-- Capabilities to one object cover the same region. -/
lemma sameRegion_of_objectOf (h : objectOf a = objectOf b) (hs : objectOf a ≠ none) : SameRegion a b := by
  -- the object itself covers that region
  have key : ∀ {c k}, objectOf c = some k → SameRegion c k := by
    intro c k e
    cases c with
    | arch c =>
      cases c <;> simp [objectOf, ArchCap.objectOf] at e <;> subst e <;> exact ⟨rfl, rfl, rfl⟩
    | _ => simp [objectOf] at e <;> subst e <;> exact ⟨rfl, rfl, rfl⟩
  obtain ⟨k, hk⟩ := Option.ne_none_iff_exists'.mp hs
  exact (key hk).trans (key (h ▸ hk)).symm

/-- Capabilities to one object have the same table of slots, and have all of it. -/
lemma table_of_objectOf (h : objectOf a = objectOf b) (hs : objectOf a ≠ none) :
    tableOf a = tableOf b ∧ slotCount a = slotCount b := by
  have key : ∀ {c k}, objectOf c = some k → tableOf c = tableOf k ∧ slotCount c = slotCount k := by
    intro c k e
    cases c with
    | arch c =>
      cases c <;> simp [objectOf, ArchCap.objectOf] at e <;> subst e <;> exact ⟨rfl, rfl⟩
    | _ => simp [objectOf] at e <;> subst e <;> exact ⟨rfl, rfl⟩
  obtain ⟨k, hk⟩ := Option.ne_none_iff_exists'.mp hs
  have ha := key hk
  have hb := key (h ▸ hk)
  exact ⟨ha.1.trans hb.1.symm, ha.2.trans hb.2.symm⟩

lemma objectOf_of_isUntyped (h : isUntyped a = true) : objectOf a = none := by
  obtain ⟨_, _, _, _, rfl⟩ := isUntyped_iff.mp h
  rfl

lemma Contains.ne_null {s} (h : Contains a s) : a ≠ .null := by
  rintro rfl
  obtain ⟨i, hi, -⟩ := h
  exact Nat.not_lt_zero i hi

/-- The slots of an object lie in its region. -/
lemma Contains.mem_region {s} (w : WellFormed a) (h : Contains a s) :
    capIsPhysical a = true ∧ capPtr a ≤ s ∧ s < regionEnd a := by
  obtain ⟨i, hi, rfl⟩ := h
  have hle : ∀ {n : Nat}, i < n → i * 2 ^ slotBits < n * 2 ^ slotBits := by
    intro n hn
    exact Nat.mul_lt_mul_of_pos_right hn (Nat.two_pow_pos _)
  -- the table is not larger than the object
  have hcnode : ∀ radix : Nat, 2 ^ radix * 2 ^ slotBits = 2 ^ (radix + slotBits) := by
    intro radix
    rw [pow_add]
  have htcb : tcbArchCNodeEntries * 2 ^ slotBits ≤ 2 ^ tcbBits := by decide
  refine ⟨?_, Nat.le_add_right _ _, ?_⟩
  · cases a <;> first | rfl | exact absurd hi (Nat.not_lt_zero i)
  · unfold slotAt regionEnd
    apply Nat.add_lt_add_left
    cases a with
    | cnode radix =>
      exact (hle hi).trans_eq (hcnode radix)
    | thread ptr => exact (hle hi).trans_le htcb
    | zombie type number ptr =>
      have hn : number ≤ zombieSlots type := w.1
      cases type with
      | tcb => exact (hle (hi.trans_le hn)).trans_le htcb
      | cnode radix => exact (hle (hi.trans_le hn)).trans_eq (hcnode radix)
    | _ => exact absurd hi (Nat.not_lt_zero i)

/-- Two objects with a common address overlap. -/
lemma overlap_of_mem {x : Nat} (pa : capIsPhysical a = true) (pb : capIsPhysical b = true)
    (ha : capPtr a ≤ x ∧ x < regionEnd a) (hb : capPtr b ≤ x ∧ x < regionEnd b) : Overlap a b :=
  ⟨pa, pb, ha.1.trans_lt hb.2, hb.1.trans_lt ha.2⟩

lemma slotAt_inj {p i j : Nat} (h : slotAt p i = slotAt p j) : i = j := by
  unfold slotAt at h
  exact Nat.eq_of_mul_eq_mul_right (Nat.two_pow_pos slotBits) (Nat.add_left_cancel h)

end Objects

end NexsKernel
