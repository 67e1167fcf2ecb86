import NexsKernel.CSpace.Run

/-!
# Safety

What the invariant says about every run: that the neighbours of a capability tell whether it is the last
one to its object, that objects do not share memory, and that revoking a capability leaves none of its
children.
-/

namespace NexsKernel.CSpace

open Links

variable {pf : Platform} {cs cs' : CSpace}

/-- `isFinalCapability` looks at two neighbours and answers for the whole system. On several cores this is
not so for the capabilities to control the schedulers, which the boot code creates side by side. -/
theorem isFinalCapability_reachable (h : Reachable pf cs) (s : Slot)
    (hs : sameObjectAs (cs.cap s) (cs.cap s) = true)
    (hcore : pf.numNodes = 1 ∨ ∀ core, cs.cap s ≠ .schedControl core) :
    cs.isFinalCapability s = true ↔ ∀ t, t ≠ s → sameObjectAs (cs.cap s) (cs.cap t) = false := by
  have i := h.inv
  obtain ⟨k, hk⟩ := Option.ne_none_iff_exists'.mp (sameObjectAs_iff.mp hs).2
  have hcontrol : k = .schedControl 0 → pf.numNodes = 1 := by
    rintro rfl
    refine hcore.resolve_right fun hno => ?_
    cases hc : cs.cap s with
    | schedControl core => exact hno core hc
    | arch a =>
      rw [hc] at hk
      cases a <;> cases hk
    | _ =>
      rw [hc] at hk
      cases hk
  rw [isFinalCapability_iff i.linked (i.contiguous k hcontrol) hk]
  refine forall_congr' fun t => imp_congr_right fun _ => ?_
  rw [← Bool.not_eq_true, sameObjectAs_iff, hk]
  exact ⟨fun hne e => hne e.1.symm, fun hne e => hne ⟨e.symm, nofun⟩⟩

lemma reachable_armVirt : Reachable (armVirt 1) (bootState (armVirt 1) armVirtBoot) :=
  .boot armVirtBoot_valid.1 (boot_eq armVirtBoot_valid.1)

/-- The capability to the root CNode was copied into the TCB, that to the TCB was not. -/
theorem isFinalCapability_armVirt :
    (bootState (armVirt 1) armVirtBoot).isFinalCapability (armVirtBoot.rootSlot .initThreadCNode) = false ∧
      ∀ t, t ≠ armVirtBoot.rootSlot .initThreadTCB →
        sameObjectAs ((bootState (armVirt 1) armVirtBoot).cap (armVirtBoot.rootSlot .initThreadTCB))
          ((bootState (armVirt 1) armVirtBoot).cap t) = false := by
  refine ⟨by decide +kernel, ?_⟩
  exact (isFinalCapability_reachable reachable_armVirt _ (by decide +kernel) (.inl rfl)).mp (by decide +kernel)

/-- On two cores there are two capabilities to control the schedulers, each of them final. -/
theorem isFinalCapability_two_cores :
    Reachable (armVirt 2) (bootState (armVirt 2) armVirtBoot) ∧
      ∃ s t, t ≠ s ∧ (bootState (armVirt 2) armVirtBoot).isFinalCapability s = true ∧
        sameObjectAs ((bootState (armVirt 2) armVirtBoot).cap s) ((bootState (armVirt 2) armVirtBoot).cap s) = true ∧
        sameObjectAs ((bootState (armVirt 2) armVirtBoot).cap s)
        ((bootState (armVirt 2) armVirtBoot).cap t) = true := by
  refine ⟨.boot armVirtBoot_valid.2 (boot_eq armVirtBoot_valid.2),
    slotAt armVirtBoot.cnode 18, slotAt armVirtBoot.cnode 19, ?_⟩
  decide +kernel

/-- What was derived from an untyped capability lies in its used part. -/
lemma Inv.covers_of_derived (i : Inv pf cs) {u t} (hu : isUntyped (cs.cap u) = true) (d : cs.Derived u t) :
    cs.Covers u t := by
  have hrun := i.lineage.run u t d
  have hin : Inside (cs.cap u) (cs.cap t) :=
    (follows_untyped_iff hu (i.memory.wellFormed u) (i.memory.wellFormed t)).mp hrun.last
  have hne : u ≠ t := fun e => d.ne (congrArg cs.history e)
  refine (i.memory.covers u t hne hu (hin.overlap (capIsPhysical_of_isUntyped hu))).resolve_right fun h => ?_
  -- it stands behind the untyped capability, not before it
  have hforth : Before cs.mdbNext u t := hrun.mono fun _ _ => trivial
  have hback : Before cs.mdbNext t u := h.2.run.mono fun _ _ => trivial
  exact i.linked.coherent.not_before_self (hforth.trans hback)

/-- An untyped capability that is being reset has no descendants, and only untyped capabilities around it
overlap it. -/
structure NoDescendants (cs : CSpace) (slot : Slot) : Prop where
  derived : ∀ t, ¬ cs.Derived slot t
  overlap : ∀ t, t ≠ slot → Overlap (cs.cap slot) (cs.cap t) →
    isUntyped (cs.cap t) = true ∧ Inside (cs.cap t) (cs.cap slot)

lemma Inv.noDescendants (i : Inv pf cs) {slot} (hu : isUntyped (cs.cap slot) = true)
    (hno : cs.ensureNoChildren slot = .ok ()) : cs.NoDescendants slot where
  derived t d := not_covers_of_ensureNoChildren i.memory hu hno (i.covers_of_derived hu d)
  overlap t ht ho := by
    obtain ⟨hut, hc⟩ := covers_of_ensureNoChildren i.memory hu hno ht.symm ho
    exact ⟨hut, hc.inside⟩

/-- The part of `resetUntypedCap` that a Retype invocation runs leaves no descendants. -/
lemma Inv.reset_noDescendants (i : Inv pf cs) (preempt : Nat → Bool) {slot}
    (hu : isUntyped (cs.cap slot) = true) (hres : cs.resets slot = true) :
    (resetUntypedCap preempt slot cs).2.NoDescendants slot ∧
      ((resetUntypedCap preempt slot cs).1 = .none →
        ∃ dev size ptr, (resetUntypedCap preempt slot cs).2.cap slot = .untyped 0 dev size ptr) := by
  obtain ⟨freeIndex, dev, size, ptr, hc⟩ := isUntyped_iff.mp hu
  obtain ⟨st, fi, work, -, hzero, e⟩ := resetUntypedCap_eq hc preempt i hres
  have hself : (cs.remark slot (.untyped fi dev size ptr) work).cap slot = .untyped fi dev size ptr :=
    setCap_cap_self cs slot _
  rw [e]
  have hn := i.noDescendants hu (resets_iff.mp hres)
  refine ⟨⟨fun t d => hn.derived t ⟨d.ne_nil, d.suffix, d.ne⟩, fun t ht ho => ?_⟩, fun hst => ?_⟩
  · have hreg : SameRegion (.untyped fi dev size ptr) (cs.cap slot) := by
      rw [hc]
      exact ⟨rfl, rfl, rfl⟩
    have hother : (cs.remark slot (.untyped fi dev size ptr) work).cap t = cs.cap t :=
      setCap_cap_of_ne cs ht _
    rw [hself, hother] at ho ⊢
    obtain ⟨hut, hin⟩ := hn.overlap t ht (hreg.overlap_left ho)
    exact ⟨hut, hreg.symm.inside_right hin⟩
  · exact ⟨dev, size, ptr, by rw [hself, hzero hst]⟩

/-- Memory in every run: two capabilities to overlapping memory that is not untyped name one object; what
was derived from an untyped capability lies in its region and below its mark; and when Retype resets an
untyped capability, that has no descendants. -/
theorem reachable_memory (h : Reachable pf cs) :
    (∀ s t, isUntyped (cs.cap s) = false → isUntyped (cs.cap t) = false → Overlap (cs.cap s) (cs.cap t) →
      s = t ∨ sameObjectAs (cs.cap s) (cs.cap t) = true) ∧
    (∀ u t, isUntyped (cs.cap u) = true → cs.Derived u t →
      Inside (cs.cap u) (cs.cap t) ∧ regionEnd (cs.cap t) ≤ freeRef (cs.cap u)) ∧
    (∀ preempt slot newType userObjSize nodeCap offset window args,
      cs.decodeUntypedInvocation slot newType userObjSize nodeCap offset window = .ok args →
      args.reset = true →
        (resetUntypedCap preempt slot cs).2.NoDescendants slot ∧
          ((resetUntypedCap preempt slot cs).1 = .none →
            ∃ dev size ptr, (resetUntypedCap preempt slot cs).2.cap slot = .untyped 0 dev size ptr)) := by
  have i := h.inv
  refine ⟨fun s t hs ht ho => ?_, fun u t hu d => ?_, ?_⟩
  · by_cases e : s = t
    · exact .inl e
    · exact .inr (sameObjectAs_iff.mpr (i.memory.exclusive s t e hs ht ho))
  · have hc := i.covers_of_derived hu d
    exact ⟨hc.inside, hc.end_le⟩
  · intro preempt slot newType userObjSize nodeCap offset window args hdec hres
    obtain ⟨freeIndex, dev, size, ptr, hc, acc⟩ := decodeUntypedInvocation_ok (i.memory.wellFormed slot) hdec
    exact i.reset_noDescendants preempt (by rw [hc]; rfl) (acc.reset.symm.trans hres)

/-- The page that is left after booting. -/
abbrev pageSlot : Slot := slotAt armVirtBoot.cnode 20

/-- The slot of the root CNode for a new capability. -/
abbrev newSlot : Slot := slotAt armVirtBoot.cnode 30

/-- A CNode with two slots is created at the start of the page. -/
def twoSlots : CSpace :=
  (bootState (armVirt 1) armVirtBoot).callRetype pageSlot 4 1 (armVirtBoot.rootSlot .initThreadCNode) 30 1

lemma reachable_twoSlots : Reachable (armVirt 1) twoSlots :=
  reachable_armVirt.callRetype

lemma derived_twoSlots : twoSlots.Derived pageSlot newSlot :=
  ⟨by decide +kernel, by decide +kernel, by decide +kernel⟩

/-- A CNode in the page that it was retyped from. -/
theorem reachable_memory_twoSlots :
    twoSlots.cap newSlot = .cnode 1 0 0 0x8060000000 ∧
      regionEnd (twoSlots.cap newSlot) ≤ freeRef (twoSlots.cap pageSlot) :=
  ⟨by decide +kernel,
    ((reachable_memory reachable_twoSlots).2.1 pageSlot newSlot (by decide +kernel) derived_twoSlots).2⟩

/-- When `cteRevoke` returns, either the slot still holds its capability, no capability that was derived from it is a
child of it, and if it is untyped only untyped capabilities around it overlap it; or the CNode or TCB with the slot is
gone itself. -/
theorem cteRevoke_reachable (h : Reachable pf cs) (preempt : Nat → Bool) (fuel : Nat) (s : Slot)
    (hr : cteRevoke pf preempt fuel s cs = .ok (.none, cs')) :
    (cs'.cap s = cs.cap s ∧ cs'.history s = cs.history s ∧
      (∀ t, cs'.Derived s t → cs'.isMDBParentOf s t = false) ∧
      (isUntyped (cs'.cap s) = true → ∀ t, t ≠ s → Overlap (cs'.cap s) (cs'.cap t) →
        isUntyped (cs'.cap t) = true ∧ Inside (cs'.cap t) (cs'.cap s))) ∨
    cs'.Gone s ∧ (cs'.cap s = .null ∨ cs'.CyclicZombie s) := by
  have i := h.inv
  have i' := i.cteRevoke hr
  have hno := cteRevoke_ensureNoChildren hr
  refine (cteRevoke_survives i hr).imp_left fun ⟨hcap, hhistory⟩ =>
    ⟨hcap, hhistory, fun t d => ?_, fun hu t ht ho => ?_⟩
  · exact not_isMDBParentOf_of_ensureNoChildren i'.lineage hno d
  · exact (i'.noDescendants hu hno).overlap t ht ho

/-- The CSpace that a revocation without preemption leaves, when it returns. -/
def revoked (pf : Platform) (fuel : Nat) (s : Slot) (cs : CSpace) : Option CSpace :=
  match cteRevoke pf (fun _ => false) fuel s cs with
  | .ok (.none, cs') => some cs'
  | _ => none

lemma revoked_eq_some {fuel s} (h : revoked pf fuel s cs = some cs') :
    cteRevoke pf (fun _ => false) fuel s cs = .ok (.none, cs') := by
  unfold revoked at h
  split at h
  · rename_i e
    cases h
    exact e
  · cases h

lemma revoked_cap {fuel s t c} (h : (revoked pf fuel s cs).map (·.cap t) = some c) :
    ∃ cs', cteRevoke pf (fun _ => false) fuel s cs = .ok (.none, cs') ∧ cs'.cap t = c := by
  obtain ⟨cs', e, hc⟩ := Option.map_eq_some_iff.mp h
  exact ⟨cs', revoked_eq_some e, hc⟩

/-- Revoking the page in the root CNode deletes the CNode in the page. -/
theorem cteRevoke_twoSlots :
    ∃ cs', cteRevoke (armVirt 1) (fun _ => false) 10 pageSlot twoSlots = .ok (.none, cs') ∧
      cs'.cap pageSlot = twoSlots.cap pageSlot ∧
      (∀ t, cs'.Derived pageSlot t → cs'.isMDBParentOf pageSlot t = false) ∧
      ∀ t, t ≠ pageSlot → Overlap (cs'.cap pageSlot) (cs'.cap t) → isUntyped (cs'.cap t) = true := by
  obtain ⟨cs', e, hc⟩ := @revoked_cap (armVirt 1) twoSlots 10 pageSlot pageSlot
    (twoSlots.cap pageSlot) (by decide +kernel)
  have hu : isUntyped (cs'.cap pageSlot) = true := by
    rw [hc]
    decide +kernel
  rcases cteRevoke_reachable reachable_twoSlots _ _ _ e with ⟨-, -, hder, hov⟩ | ⟨-, hnull | ⟨type, n, hz⟩⟩
  · exact ⟨cs', e, hc, hder, fun t ht ho => (hov hu t ht ho).1⟩
  · rw [hnull] at hu
    cases hu
  · rw [hz] at hu
    cases hu

/-- The slot of the root CNode for the capability to an endpoint. -/
abbrev endpointSlot : Slot := slotAt armVirtBoot.cnode 31

/-- The first slot of a CNode behind an endpoint at the start of the page. -/
abbrev innerSlot : Slot := slotAt 0x8060000040 0

/-- An endpoint and then a CNode with two slots are created in the page. -/
def endpointFirst : CSpace :=
  ((bootState (armVirt 1) armVirtBoot).callRetype pageSlot 2 0 (armVirtBoot.rootSlot .initThreadCNode) 31 1).callRetype
    pageSlot 4 1 (armVirtBoot.rootSlot .initThreadCNode) 30 1

/-- The capability to the page is moved into the CNode in the page. -/
def insidePage : CSpace :=
  endpointFirst.callCopy .move pageSlot innerSlot

lemma reachable_endpointFirst : Reachable (armVirt 1) endpointFirst :=
  reachable_armVirt.callRetype.callRetype

lemma reachable_insidePage : Reachable (armVirt 1) insidePage := by
  refine reachable_endpointFirst.callCopy ?_ ?_
  · have hc : endpointFirst.cap (armVirtBoot.rootSlot .initThreadCNode) = armVirtBoot.rootCNodeCap := by
      decide +kernel
    exact inCNode_slotAt hc (by decide)
  · have hc : endpointFirst.cap newSlot = .cnode 1 0 0 0x8060000040 := by
      decide +kernel
    exact inCNode_slotAt hc (by decide)

/-- Revoking it there deletes the CNode and with it the capability itself, before the loop comes to the endpoint. -/
theorem cteRevoke_insidePage :
    Reachable (armVirt 1) insidePage ∧ insidePage.cap innerSlot = .untyped 8 false 12 0x8060000000 ∧
      insidePage.Derived innerSlot endpointSlot ∧ insidePage.isMDBParentOf innerSlot endpointSlot = true ∧
      ∃ cs', cteRevoke (armVirt 1) (fun _ => false) 10 innerSlot insidePage = .ok (.none, cs') ∧
        cs'.cap innerSlot = .null ∧ cs'.cap endpointSlot = insidePage.cap endpointSlot := by
  refine ⟨reachable_insidePage, by decide +kernel, ⟨by decide +kernel, by decide +kernel, by decide +kernel⟩,
    by decide +kernel, ?_⟩
  have h : (revoked (armVirt 1) 10 innerSlot insidePage).map (fun cs' => (cs'.cap innerSlot, cs'.cap endpointSlot)) =
      some (.null, insidePage.cap endpointSlot) := by
    decide +kernel
  obtain ⟨cs', e, hc⟩ := Option.map_eq_some_iff.mp h
  obtain ⟨hnull, hsame⟩ := Prod.mk.inj hc
  exact ⟨cs', revoked_eq_some e, hnull, hsame⟩

end NexsKernel.CSpace
