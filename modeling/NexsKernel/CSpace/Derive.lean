import NexsKernel.CSpace.Mdb
import NexsKernel.Object.Region

/-!
# Deriving capabilities

`deriveCap` and the part of `decodeCNodeInvocation` that computes the capability a CNode invocation stores.
The message is taken as decoded: an operation comes with its slots, rights and data words.

A capability is stored behind another one in two ways. `Copies c c'` is what Copy, Mint and cap transfer
make of a capability, and `Similar c c'` is what a change in place makes of it: another guard, another
mapping. The lemmas say what the two relations keep.
-/

namespace NexsKernel

namespace CSpace

variable (cs : CSpace)

/-- `Arch_deriveCap`. -/
def archDeriveCap : ArchCap → Except SyscallError Cap
  | .vspace asid base isMapped =>
    if isMapped then .ok (.arch (.vspace asid base isMapped)) else .error .illegalOperation
  | .pageTable asid base isMapped addr =>
    if isMapped then .ok (.arch (.pageTable asid base isMapped addr)) else .error .illegalOperation
  | .frame _ base size addr rights dev => .ok (.arch (.frame asidInvalid base size addr rights dev))
  | cap => .ok (.arch cap)

/-- `deriveCap`. -/
def deriveCap (slot : Slot) : Cap → Except SyscallError Cap
  | .arch cap => archDeriveCap cap
  | .zombie .. => .ok .null
  | .irqControl => .ok .null
  | .untyped freeIndex dev size ptr => do
    cs.ensureNoChildren slot
    return .untyped freeIndex dev size ptr
  | cap => .ok cap

/-- The CNode invocations that take a source slot. -/
inductive CopyOp where
  | copy (rights : CapRights)
  | mint (rights : CapRights) (capData : Nat)
  | move
  | mutate (capData : Nat)
  deriving DecidableEq, Repr

/-- The new capability of Copy, Mint, Move and Mutate. -/
def newCap (srcSlot : Slot) : CopyOp → Except SyscallError Cap
  | .copy rights => cs.deriveCap srcSlot (maskCapRights rights (cs.cap srcSlot))
  | .mint rights capData =>
    cs.deriveCap srcSlot (updateCapData false capData (maskCapRights rights (cs.cap srcSlot)))
  | .move => .ok (cs.cap srcSlot)
  | .mutate capData => .ok (updateCapData true capData (cs.cap srcSlot))

/-- The checks of `decodeCNodeInvocation` for Copy, Mint, Move and Mutate. -/
def decodeCopy (op : CopyOp) (srcSlot destSlot : Slot) : Except SyscallError Cap := do
  cs.ensureEmptySlot destSlot
  refuseIf (cs.cap srcSlot = .null) (.failedLookup true)
  let cap ← cs.newCap srcSlot op
  refuseIf (cap = .null) .illegalOperation
  return cap

/-- The checks of `decodeCNodeInvocation` for Rotate: the new capabilities of source and pivot. -/
def decodeRotate (srcNewData pivotNewData : Nat) (srcSlot pivotSlot destSlot : Slot) :
    Except SyscallError (Cap × Cap) := do
  refuseIf (pivotSlot = srcSlot ∨ pivotSlot = destSlot) .illegalOperation
  refuseIf (srcSlot ≠ destSlot ∧ cs.cap destSlot ≠ .null) .deleteFirst
  refuseIf (cs.cap srcSlot = .null) (.failedLookup true)
  refuseIf (cs.cap pivotSlot = .null) (.failedLookup false)
  let newSrcCap := updateCapData true srcNewData (cs.cap srcSlot)
  let newPivotCap := updateCapData true pivotNewData (cs.cap pivotSlot)
  refuseIf (newSrcCap = .null) .illegalOperation
  refuseIf (newPivotCap = .null) .illegalOperation
  return (newSrcCap, newPivotCap)

/-- `b`, when it is first-badged or not, may be a child of a revocable `a`. -/
def follows (a b : Cap) (firstBadged : Bool) : Bool :=
  sameRegionAs a b && archIsMDBParentOf a b firstBadged && badgeIsMDBParentOf a b firstBadged

lemma isMDBParentOf_eq (a b : Slot) :
    cs.isMDBParentOf a b = (cs.mdbRevocable a && follows (cs.cap a) (cs.cap b) (cs.mdbFirstBadged b)) := by
  simp [isMDBParentOf, follows, Bool.and_assoc]

end CSpace

open CSpace

/-- `c'` is `c` with another guard or another mapping. -/
inductive Similar : Cap → Cap → Prop where
  | refl (c : Cap) : Similar c c
  | cnode (radix g s g' s' ptr : Nat) : Similar (.cnode radix g s ptr) (.cnode radix g' s' ptr)
  | frame (asid addr asid' addr' base : Nat) (size : PageSize) (rights : VmRights) (dev : Bool) :
    Similar (.arch (.frame asid base size addr rights dev)) (.arch (.frame asid' base size addr' rights dev))
  | pageTable (asid base addr asid' addr' : Nat) (m m' : Bool) :
    Similar (.arch (.pageTable asid base m addr)) (.arch (.pageTable asid' base m' addr'))
  | vspace (asid base asid' : Nat) (m m' : Bool) :
    Similar (.arch (.vspace asid base m)) (.arch (.vspace asid' base m'))

namespace Similar

variable {c c' : Cap}

lemma region (h : Similar c c') : SameRegion c c' := by
  cases h <;> exact ⟨rfl, rfl, rfl⟩

lemma object (h : Similar c c') : objectOf c' = objectOf c := by
  cases h <;> rfl

lemma untyped (h : Similar c c') (hu : isUntyped c = true) : c' = c := by
  cases h <;> first | rfl | cases hu

lemma untyped_eq (h : Similar c c') : isUntyped c' = isUntyped c := by
  cases h <;> rfl

lemma slots (h : Similar c c') : slotCount c' = slotCount c := by
  cases h <;> rfl

lemma wellFormed (h : Similar c c') (w : WellFormed c) : WellFormed c' := by
  cases h <;> exact w

lemma ne_null (h : Similar c c') (hc : c ≠ .null) : c' ≠ .null := by
  cases h <;> first | exact hc | nofun

lemma of_irqHandler (h : Similar c c') {irq} (e : c' = .irqHandler irq) : c = .irqHandler irq := by
  subst e
  cases h
  rfl

lemma follows_right (h : Similar c c') (x fb) : follows x c' fb = follows x c fb := by
  cases h with
  | refl => rfl
  | _ =>
    cases x with
    | arch x => cases x <;> rfl
    | _ => rfl

lemma follows_left (h : Similar c c') (x fb) : follows c' x fb = follows c x fb := by
  cases h with
  | refl => rfl
  | _ =>
    cases x with
    | arch x => cases x <;> rfl
    | _ => rfl

end Similar

/-- A move never changes more than a guard. -/
lemma similar_updateCapData {data c} (h : updateCapData true data c ≠ .null) :
    Similar c (updateCapData true data c) := by
  cases c with
  | cnode radix g s ptr =>
    unfold updateCapData at h ⊢
    simp only at h ⊢
    split at h
    · exact absurd rfl h
    · rename_i hsize
      rw [if_neg hsize]
      exact .cnode ..
  | endpoint | notification => exact absurd (by simp [updateCapData]) h
  | arch c =>
    cases c with
    | smc => exact absurd (by simp [updateCapData]) h
    | _ => exact .refl _
  | _ => exact .refl _

/-- What Copy, Mint and cap transfer make of a capability: fewer rights, a badge on an unbadged
capability, another guard, no mapping. -/
inductive Copies : Cap → Cap → Prop where
  | untyped (freeIndex : Nat) (dev : Bool) (size ptr : Nat) :
    Copies (.untyped freeIndex dev size ptr) (.untyped freeIndex dev size ptr)
  | endpoint {badge badge' gr g w r gr' g' w' r' ptr} : (badge ≠ 0 → badge' = badge) →
    Copies (.endpoint badge gr g w r ptr) (.endpoint badge' gr' g' w' r' ptr)
  | notification {badge badge' w r w' r' ptr} : (badge ≠ 0 → badge' = badge) →
    Copies (.notification badge w r ptr) (.notification badge' w' r' ptr)
  | reply (ptr : Nat) (g g' : Bool) : Copies (.reply ptr g) (.reply ptr g')
  | cnode (radix g s g' s' ptr : Nat) : Copies (.cnode radix g s ptr) (.cnode radix g' s' ptr)
  | thread (ptr : Nat) : Copies (.thread ptr) (.thread ptr)
  | irqHandler (irq : Nat) : Copies (.irqHandler irq) (.irqHandler irq)
  | domain : Copies .domain .domain
  | schedContext (ptr size : Nat) : Copies (.schedContext ptr size) (.schedContext ptr size)
  | schedControl (core : Nat) : Copies (.schedControl core) (.schedControl core)
  | frame {asid asid' base size addr rights rights' dev} :
    Copies (.arch (.frame asid base size addr rights dev)) (.arch (.frame asid' base size addr rights' dev))
  | pageTable (asid base addr : Nat) (m : Bool) :
    Copies (.arch (.pageTable asid base m addr)) (.arch (.pageTable asid base m addr))
  | vspace (asid base : Nat) (m : Bool) :
    Copies (.arch (.vspace asid base m)) (.arch (.vspace asid base m))
  | asidControl : Copies (.arch .asidControl) (.arch .asidControl)
  | asidPool (base pool : Nat) : Copies (.arch (.asidPool base pool)) (.arch (.asidPool base pool))
  | vcpu (ptr : Nat) : Copies (.arch (.vcpu ptr)) (.arch (.vcpu ptr))
  | smc {badge badge' : Nat} : (badge ≠ 0 → badge' = badge) →
    Copies (.arch (.smc badge)) (.arch (.smc badge'))
  | sgiSignal (irq target : Nat) : Copies (.arch (.sgiSignal irq target)) (.arch (.sgiSignal irq target))

namespace Copies

variable {c c' : Cap}

lemma region (h : Copies c c') : SameRegion c c' := by
  cases h <;> exact ⟨rfl, rfl, rfl⟩

lemma object (h : Copies c c') : objectOf c' = objectOf c := by
  cases h <;> rfl

lemma untyped_eq (h : Copies c c') : isUntyped c' = isUntyped c := by
  cases h <;> rfl

lemma wellFormed (h : Copies c c') (w : WellFormed c) : WellFormed c' := by
  cases h <;> exact w

lemma ne_null (h : Copies c c') : c' ≠ .null := by
  cases h <;> nofun

lemma of_irqHandler (h : Copies c c') {irq} (e : c' = .irqHandler irq) : c = .irqHandler irq := by
  subst e
  cases h
  rfl

/-- A copy in memory that is not untyped names an object. -/
lemma object_ne_none (h : Copies c c') (hp : capIsPhysical c = true) (hu : isUntyped c = false) :
    objectOf c ≠ none := by
  cases h with
  | untyped => cases hu
  | sgiSignal => cases hp
  | _ => exact Option.some_ne_none _

lemma revocable_of_isUntyped (h : Copies c c') (hu : isUntyped c' = true) :
    isCapRevocable c' c = true := by
  cases h <;> first | rfl | cases hu

/-- A copy is a child of the original, if that is revocable. -/
lemma follows_self (h : Copies c c') (w : WellFormed c) : follows c c' (isCapRevocable c' c) = true := by
  cases h with
  | untyped freeIndex dev size ptr =>
    have hs : sameRegionAs (.untyped freeIndex dev size ptr) (.untyped freeIndex dev size ptr) = true :=
      (sameRegionAs_untyped_iff rfl w w).mpr ((SameRegion.refl _).inside rfl)
    simp [follows, hs, archIsMDBParentOf, badgeIsMDBParentOf]
  | @frame asid asid' base size addr rights rights' dev =>
    have hle : base ≤ add64 base (mask (pageBitsForSize size)) := by
      have hend : base + 2 ^ pageBitsForSize size ≤ 2 ^ 64 := w rfl
      have hpos := Nat.two_pow_pos (pageBitsForSize size)
      rw [add64_eq]
      · exact Nat.le_add_right _ _
      · unfold mask
        omega
    simp [follows, sameRegionAs, ArchCap.sameRegionAs, archIsMDBParentOf, badgeIsMDBParentOf, hle]
  | @endpoint badge badge' _ _ _ _ _ _ _ _ _ hb | @notification badge badge' _ _ _ _ _ hb =>
    by_cases hz : badge = 0
    · simp [follows, sameRegionAs, archIsMDBParentOf, badgeIsMDBParentOf, hz]
    · simp [follows, sameRegionAs, archIsMDBParentOf, badgeIsMDBParentOf, isCapRevocable, hb hz]
  | @smc badge badge' hb =>
    by_cases hz : badge = 0
    · simp [follows, sameRegionAs, ArchCap.sameRegionAs, archIsMDBParentOf, badgeIsMDBParentOf, hz]
    · simp [follows, sameRegionAs, ArchCap.sameRegionAs, archIsMDBParentOf, badgeIsMDBParentOf,
        isCapRevocable, hb hz]
  | _ =>
    simp [follows, sameRegionAs, ArchCap.sameRegionAs, archIsMDBParentOf, badgeIsMDBParentOf,
      isCapRevocable]

/-- A badge is only ever put on an unbadged capability. -/
private lemma badge_of_badge {bx badge badge' : Nat} {fb : Bool} (hb : badge ≠ 0 → badge' = badge)
    (h : bx = 0 ∨ bx = badge ∧ fb = false) : bx = 0 ∨ bx = badge' ∧ badge' = badge := by
  rcases h with h | ⟨h, -⟩
  · exact .inl h
  · by_cases hz : badge = 0
    · exact .inl (h.trans hz)
    · exact .inr ⟨h.trans (hb hz).symm, hb hz⟩

/-- Whatever the original is a child of, the copy is, too. -/
lemma follows_of_follows (h : Copies c c') {x fb} (hf : follows x c fb = true) :
    follows x c' (isCapRevocable c' c) = true := by
  cases h with
  | @endpoint badge badge' _ _ _ _ _ _ _ _ _ hb =>
    cases x with
    | endpoint bx =>
      simp [follows, sameRegionAs, archIsMDBParentOf, badgeIsMDBParentOf, isCapRevocable] at hf ⊢
      exact ⟨hf.1, badge_of_badge hb hf.2⟩
    | arch x => simp [follows, sameRegionAs] at hf
    | _ => exact hf
  | @notification badge badge' _ _ _ _ _ hb =>
    cases x with
    | notification bx =>
      simp [follows, sameRegionAs, archIsMDBParentOf, badgeIsMDBParentOf, isCapRevocable] at hf ⊢
      exact ⟨hf.1, badge_of_badge hb hf.2⟩
    | arch x => simp [follows, sameRegionAs] at hf
    | _ => exact hf
  | @smc badge badge' hb =>
    cases x with
    | arch x =>
      cases x with
      | smc bx =>
        simp [follows, sameRegionAs, ArchCap.sameRegionAs, archIsMDBParentOf, badgeIsMDBParentOf,
          isCapRevocable] at hf ⊢
        exact badge_of_badge hb hf
      | _ => simp [follows, sameRegionAs, ArchCap.sameRegionAs] at hf
    | _ => exact hf
  | sgiSignal irq target =>
    cases x with
    | arch x =>
      cases x <;>
        simp_all [follows, sameRegionAs, ArchCap.sameRegionAs, archIsMDBParentOf, badgeIsMDBParentOf,
          isCapRevocable]
    | _ => exact hf
  | _ =>
    cases x with
    | arch x => cases x <;> exact hf
    | _ => exact hf

/-- Fewer rights. -/
lemma of_maskCapRights {rights} (h : Copies (maskCapRights rights c) c') : Copies c c' := by
  cases c with
  | endpoint =>
    cases h with
    | endpoint hb => exact .endpoint hb
  | notification =>
    cases h with
    | notification hb => exact .notification hb
  | reply =>
    cases h
    exact .reply ..
  | arch c =>
    cases c with
    | frame =>
      cases h
      exact .frame
    | _ => exact h
  | _ => exact h

/-- Another guard, or a badge on an unbadged capability. -/
lemma of_updateCapData {data} (h : Copies (updateCapData false data c) c') : Copies c c' := by
  cases c with
  | endpoint badge =>
    by_cases hb : badge = 0
    · simp only [updateCapData, hb, Bool.not_false, beq_self_eq_true, Bool.and_self, if_true] at h
      cases h
      exact .endpoint fun h0 => absurd hb h0
    · simp only [updateCapData, Bool.not_false, beq_eq_false_iff_ne.mpr hb, Bool.and_false] at h
      cases h
  | notification badge =>
    by_cases hb : badge = 0
    · simp only [updateCapData, hb, Bool.not_false, beq_self_eq_true, Bool.and_self, if_true] at h
      cases h
      exact .notification fun h0 => absurd hb h0
    · simp only [updateCapData, Bool.not_false, beq_eq_false_iff_ne.mpr hb, Bool.and_false] at h
      cases h
  | cnode radix g s ptr =>
    simp only [updateCapData] at h
    split at h
    · cases h
    · cases h
      exact .cnode ..
  | arch c =>
    cases c with
    | smc badge =>
      by_cases hb : badge = 0
      · simp only [updateCapData, hb, Bool.not_false, beq_self_eq_true, Bool.and_self, if_true] at h
        cases h
        exact .smc fun h0 => absurd hb h0
      · simp only [updateCapData, Bool.not_false, beq_eq_false_iff_ne.mpr hb, Bool.and_false] at h
        cases h
    | _ => exact h
  | _ => exact h

/-- What `deriveCap` returns is a copy, and a copy of an untyped capability has no sibling. -/
lemma of_deriveCap {cs : CSpace} {slot} (h : cs.deriveCap slot c = .ok c') (hn : c' ≠ .null) :
    Copies c c' ∧ (isUntyped c = true → cs.ensureNoChildren slot = .ok ()) := by
  cases c with
  | arch c =>
    refine ⟨?_, nofun⟩
    cases c with
    | vspace | pageTable =>
      simp only [deriveCap, archDeriveCap] at h
      split at h
      · cases h
        constructor
      · cases h
    | smc =>
      cases h
      exact .smc fun _ => rfl
    | _ =>
      cases h
      constructor
  | untyped freeIndex dev size ptr =>
    simp only [deriveCap] at h
    cases he : cs.ensureNoChildren slot with
    | error e =>
      rw [he] at h
      cases h
    | ok u =>
      rw [he] at h
      cases h
      exact ⟨.untyped .., fun _ => rfl⟩
  | endpoint =>
    cases h
    exact ⟨.endpoint fun _ => rfl, nofun⟩
  | notification =>
    cases h
    exact ⟨.notification fun _ => rfl, nofun⟩
  | null | zombie | irqControl =>
    cases h
    exact absurd rfl hn
  | _ =>
    cases h
    exact ⟨by constructor, nofun⟩

end Copies

lemma isUntyped_maskCapRights (rights c) : isUntyped (maskCapRights rights c) = isUntyped c := by
  cases c with
  | arch c => cases c <;> rfl
  | _ => rfl

namespace CSpace

variable {cs : CSpace} {srcSlot destSlot : Slot} {cap : Cap}

/-- What Copy or Mint accepts. -/
lemma copies_of_newCap {op : CopyOp} (hop : ∀ data, op ≠ .move ∧ op ≠ .mutate data)
    (h : cs.newCap srcSlot op = .ok cap) (hn : cap ≠ .null) :
    Copies (cs.cap srcSlot) cap ∧
      (isUntyped (cs.cap srcSlot) = true → cs.ensureNoChildren srcSlot = .ok ()) := by
  cases op with
  | copy rights =>
    obtain ⟨hc, hu⟩ := Copies.of_deriveCap h hn
    refine ⟨hc.of_maskCapRights, fun e => hu ?_⟩
    rwa [isUntyped_maskCapRights]
  | mint rights data =>
    obtain ⟨hc, hu⟩ := Copies.of_deriveCap h hn
    refine ⟨hc.of_updateCapData.of_maskCapRights, fun e => hu ?_⟩
    obtain ⟨_, _, _, _, e⟩ := isUntyped_iff.mp e
    rw [e]
    rfl
  | move => exact absurd rfl (hop 0).1
  | mutate data => exact absurd rfl (hop data).2

/-- What a CNode invocation with a source slot has checked. -/
lemma decodeCopy_ok {op} (h : cs.decodeCopy op srcSlot destSlot = .ok cap) :
    cs.cap destSlot = .null ∧ cs.cap srcSlot ≠ .null ∧ cs.newCap srcSlot op = .ok cap ∧
      cap ≠ .null := by
  unfold decodeCopy ensureEmptySlot at h
  rw [refuseIf_bind, refuseIf_bind] at h
  obtain ⟨hd, hs, h⟩ := h
  cases he : cs.newCap srcSlot op with
  | error e =>
    rw [he] at h
    cases h
  | ok c =>
    rw [he] at h
    have h' : (do refuseIf (c = Cap.null) .illegalOperation; pure c) = .ok cap := h
    rw [refuseIf_bind] at h'
    obtain ⟨hn, e⟩ := h'
    cases e
    exact ⟨not_not.mp hd, hs, rfl, hn⟩

/-- What Rotate has checked. -/
lemma decodeRotate_ok {srcData pivotData pivotSlot caps}
    (h : cs.decodeRotate srcData pivotData srcSlot pivotSlot destSlot = .ok caps) :
    (pivotSlot ≠ srcSlot ∧ pivotSlot ≠ destSlot) ∧
      (srcSlot ≠ destSlot → cs.cap destSlot = .null) ∧
      (cs.cap srcSlot ≠ .null ∧ cs.cap pivotSlot ≠ .null) ∧
      Similar (cs.cap srcSlot) caps.1 ∧ Similar (cs.cap pivotSlot) caps.2 := by
  simp only [decodeRotate, refuseIf_bind] at h
  obtain ⟨hne, hd, hs, hp, h1, h2, e⟩ := h
  cases e
  refine ⟨not_or.mp hne, fun hsd => ?_, ⟨hs, hp⟩, similar_updateCapData h1, similar_updateCapData h2⟩
  by_contra hnull
  exact hd ⟨hsd, hnull⟩

end CSpace

end NexsKernel
