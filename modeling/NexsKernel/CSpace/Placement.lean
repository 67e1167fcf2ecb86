import NexsKernel.CSpace.Safety

/-!
# Placement

Where a Retype invocation puts its objects: behind the mark of the untyped capability, aligned, one after the
other, and inside of its region. The mark never falls unless the capability is reset. A request is refused for
want of memory only if no aligned place is left for it, so the test of `decodeUntypedInvocation`, which looks at
the free bytes and not at their alignment, is exact.
-/

namespace NexsKernel.CSpace

variable {pf : Platform} {preempt : Nat → Bool} {cs : CSpace} {slot : Slot} {nodeCap : Cap}

/-- The capabilities that `createNewObjects` leaves: one to each object, in order. The capability that the
memory is taken from stays. -/
lemma createNewObjects_cap {args : RetypeArgs} (h : Creating pf slot args 0 cs)
    (hv : ValidSize args.newType args.userSize) (ha : 2 ^ getObjectSize args.newType args.userSize ∣ args.retypeBase) :
    ∀ n, n ≤ args.destLength →
      let cs' := createNewObjects args.newType slot args.destCNode args.destOffset n args.retypeBase args.userSize
        args.deviceMemory cs
      cs'.cap slot = cs.cap slot ∧ ∀ j, j < n → cs'.cap (slotAt args.destCNode (args.destOffset + j)) =
        createObject args.newType
          (add64 args.retypeBase (j * 2 ^ getObjectSize args.newType args.userSize % 2 ^ 64)) args.userSize
          args.deviceMemory := by
  intro n
  induction n with
  | zero => exact fun _ => ⟨rfl, nofun⟩
  | succ n ih =>
    intro hn
    obtain ⟨hslot, hcaps⟩ := ih (by omega)
    have hcr := h.run hv ha n (by omega)
    have hnull := (hcr.dest n le_rfl hn).2
    have hne : slot ≠ slotAt args.destCNode (args.destOffset + n) := by
      intro e
      have hu := hcr.untyped
      rw [← e] at hnull
      rw [hnull] at hu
      cases hu
    unfold createNewObjects at hslot hcaps hnull hcr ⊢
    rw [List.range_succ, List.foldl_append, List.foldl_cons, List.foldl_nil]
    dsimp only
    rw [insertNewCap_eq _ _ fun e => hcr.inv.linked.next_ne_null e hnull]
    refine ⟨(insert_cap_of_ne _ hne ..).trans hslot, fun j hj => ?_⟩
    rcases Nat.lt_succ_iff_lt_or_eq.mp hj with hlt | rfl
    · have hjn : slotAt args.destCNode (args.destOffset + j) ≠ slotAt args.destCNode (args.destOffset + n) := by
        intro e
        have := slotAt_inj e
        omega
      rw [insert_cap_of_ne _ hjn]
      exact hcaps j hlt
    · rw [insert_cap_self]

/-- No wrap-around: each object lies where it should. -/
private lemma object_base {base sz count i e : Nat} (hi : i < count) (hend : base + count * 2 ^ sz ≤ e)
    (he : e ≤ 2 ^ 64) :
    add64 base (i * 2 ^ sz % 2 ^ 64) = base + i * 2 ^ sz ∧ base + i * 2 ^ sz + 2 ^ sz ≤ e := by
  have hpos := Nat.two_pow_pos sz
  have hle : (i + 1) * 2 ^ sz ≤ count * 2 ^ sz := Nat.mul_le_mul_right _ hi
  rw [Nat.succ_mul] at hle
  refine ⟨?_, by omega⟩
  rw [Nat.mod_eq_of_lt (by omega), add64_eq (by omega)]

private lemma decodeObjectType_type {newType u t} (h : decodeObjectType newType u = .ok t) :
    objectTypeOf newType = some t := by
  unfold decodeObjectType at h
  split at h
  · cases h
  · rename_i t' e
    simp only [refuseIf_bind] at h
    obtain ⟨-, -, -, -, e'⟩ := h
    cases e'
    exact e

private lemma ensureEmptySlots_ne_notEnoughMemory {destCNode n} (is : List Nat) :
    cs.ensureEmptySlots destCNode is ≠ .error (.notEnoughMemory n) := by
  induction is with
  | nil => nofun
  | cons i is ih =>
    intro h
    unfold ensureEmptySlots ensureEmptySlot at h
    rw [refuseIf_bind_error] at h
    rcases h with ⟨-, e⟩ | ⟨-, h⟩
    · cases e
    · exact ih h

/-- What `decodeUntypedInvocation` computes for a request that it accepts. -/
lemma decodeUntypedInvocation_args {freeIndex dev size ptr newType u offset window args}
    (hc : cs.cap slot = .untyped freeIndex dev size ptr)
    (h : cs.decodeUntypedInvocation slot newType u nodeCap offset window = .ok args) :
    args.retypeBase = alignUp (getFreeRef ptr (if args.reset then 0 else freeIndex))
        (getObjectSize args.newType args.userSize) ∧
      (0 < window ∧ window ≤ sub64 (bit size) (freeIndexToOffset (if args.reset then 0 else freeIndex)) /
        2 ^ getObjectSize args.newType args.userSize) ∧
      args.userSize = u ∧ args.destLength = window ∧ args.destOffset = offset ∧ args.deviceMemory = dev := by
  unfold decodeUntypedInvocation at h
  rw [hc] at h
  obtain ⟨t, -, h⟩ := bind_eq_ok.mp h
  obtain ⟨dest, hdest, h⟩ := bind_eq_ok.mp h
  simp only [refuseIf_bind] at h
  obtain ⟨hroom, -, e⟩ := h
  cases e
  exact ⟨rfl, ⟨(decodeDestination_ok hdest).1, not_lt.mp hroom⟩, rfl, rfl, rfl, rfl⟩

/-- Only the test of the free bytes reports that memory is missing. -/
lemma decodeUntypedInvocation_notEnoughMemory {freeIndex dev size ptr newType u offset window n}
    (hc : cs.cap slot = .untyped freeIndex dev size ptr)
    (h : cs.decodeUntypedInvocation slot newType u nodeCap offset window = .error (.notEnoughMemory n)) :
    ∃ t, objectTypeOf newType = some t ∧ 0 < window ∧
      sub64 (bit size) (freeIndexToOffset (if cs.resets slot then 0 else freeIndex)) / 2 ^ getObjectSize t u <
        window := by
  unfold decodeUntypedInvocation at h
  rw [hc] at h
  rcases bind_eq_error.mp h with h | ⟨t, ht, h⟩
  · -- the type of the objects
    unfold decodeObjectType at h
    split at h
    · cases h
    · simp only [refuseIf_bind_error] at h
      rcases h with ⟨-, e⟩ | ⟨-, ⟨-, e⟩ | ⟨-, ⟨-, e⟩ | ⟨-, ⟨-, e⟩ | ⟨-, e⟩⟩⟩⟩ <;> cases e
  · rcases bind_eq_error.mp h with h | ⟨dest, hdest, h⟩
    · -- the destination
      unfold decodeDestination at h
      split at h
      · simp only [refuseIf_bind_error] at h
        rcases h with ⟨-, e⟩ | ⟨-, ⟨-, e⟩ | ⟨-, ⟨-, e⟩ | ⟨-, h⟩⟩⟩
        · cases e
        · cases e
        · cases e
        · rcases bind_eq_error.mp h with h | ⟨_, _, h⟩
          · exact absurd h (ensureEmptySlots_ne_notEnoughMemory _)
          · cases h
      · cases h
    · simp only [refuseIf_bind_error] at h
      rcases h with ⟨hroom, -⟩ | ⟨-, ⟨-, e⟩ | ⟨-, e⟩⟩
      · exact ⟨t, decodeObjectType_type ht, (decodeDestination_ok hdest).1, hroom⟩
      · cases e
      · cases e

/-- Where the free memory starts when at least one object fits. -/
private lemma getFreeRef_eq {freeIndex size ptr fi window sz : Nat} {dev : Bool}
    (hw : WellFormed (.untyped freeIndex dev size ptr)) (hfi : fi ≤ maxFreeIndex size) (hpos : 0 < window)
    (hroom : window ≤ sub64 (bit size) (freeIndexToOffset fi) / 2 ^ sz) :
    getFreeRef ptr fi = ptr + fi * 2 ^ minUntypedBits ∧ getFreeRef ptr fi + 2 ^ sz ≤ ptr + 2 ^ size := by
  obtain ⟨hsize, hmax, -, -, hend⟩ := hw
  obtain ⟨eoff, hle, ebytes⟩ := freeBytes_eq hsize hmax hfi
  rw [ebytes] at hroom
  have hone : 2 ^ sz ≤ 2 ^ size - fi * 2 ^ minUntypedBits := by
    have := (Nat.le_div_iff_mul_le (Nat.two_pow_pos sz)).mp (hpos.trans_le hroom)
    rwa [Nat.one_mul] at this
  have hsz := Nat.two_pow_pos sz
  have e : getFreeRef ptr fi = ptr + fi * 2 ^ minUntypedBits := by
    unfold getFreeRef
    rw [eoff, add64_eq (by omega)]
  exact ⟨e, by omega⟩

/-- The free bytes hold as many objects as fit behind any aligned place. -/
private lemma le_freeBytes {f e sz n base : Nat} (hbase : f ≤ base) (hfit : base + n * 2 ^ sz ≤ e) :
    n ≤ (e - f) / 2 ^ sz := by
  rw [Nat.le_div_iff_mul_le (Nat.two_pow_pos sz)]
  omega

/-- The objects of an accepted Retype request fill the aligned range behind the mark, inside of the region of the
untyped capability and without a wrap-around. The mark never exceeds the end of the region, and it falls only
when the capability is reset. A request is refused for want of memory only when no aligned range is left. -/
theorem retype_reachable (h : Reachable pf cs) {slot : Slot} {freeIndex size ptr : Nat} {dev : Bool}
    (hc : cs.cap slot = .untyped freeIndex dev size ptr) (newType u : Nat) (node : Slot) (offset window : Nat) :
    (∀ args, cs.decodeUntypedInvocation slot newType u (cs.cap node) offset window = .ok args →
      let sz := getObjectSize args.newType u
      let free := getFreeRef ptr (if args.reset then 0 else freeIndex)
      let base := alignUp free sz
      (ptr ≤ free ∧ free + (2 ^ sz - 1) < 2 ^ 64 ∧ free ≤ base ∧ 2 ^ sz ∣ base ∧ window * 2 ^ sz < 2 ^ 64 ∧
        base + window * 2 ^ sz ≤ ptr + 2 ^ size ∧ ptr + 2 ^ size ≤ 2 ^ 64) ∧
      ∀ preempt, ∃ freeIndex',
        (invokeUntypedRetype preempt slot args cs).2.cap slot = .untyped freeIndex' dev size ptr ∧
        freeIndex' ≤ maxFreeIndex size ∧
        (args.reset = false →
          (invokeUntypedRetype preempt slot args cs).1 = .none ∧ freeIndex ≤ freeIndex') ∧
        ((invokeUntypedRetype preempt slot args cs).1 = .none →
          ptr + freeIndex' * 2 ^ minUntypedBits = base + window * 2 ^ sz ∧
          ∀ i, i < window →
            let c := (invokeUntypedRetype preempt slot args cs).2.cap (slotAt args.destCNode (offset + i))
            c = createObject args.newType (base + i * 2 ^ sz) u dev ∧ capPtr c = base + i * 2 ^ sz ∧
              regionEnd c = base + (i + 1) * 2 ^ sz)) ∧
    ∀ left, cs.decodeUntypedInvocation slot newType u (cs.cap node) offset window = .error (.notEnoughMemory left) →
      ∃ t, objectTypeOf newType = some t ∧
        ∀ base, ptr + (if cs.resets slot then 0 else freeIndex) * 2 ^ minUntypedBits ≤ base →
          2 ^ getObjectSize t u ∣ base → ptr + 2 ^ size < base + window * 2 ^ getObjectSize t u := by
  have i := h.inv
  have hw := i.memory.wellFormed slot
  rw [hc] at hw
  have hmark : ∀ b : Bool, (if b then 0 else freeIndex) ≤ maxFreeIndex size := by
    intro b
    split
    · exact Nat.zero_le _
    · exact hw.2.2.1
  refine ⟨fun args hdec => ?_, fun left hdec => ?_⟩
  · intro sz free base
    obtain ⟨freeIndex0, dev0, size0, ptr0, hc0, acc⟩ := decodeUntypedInvocation_ok (i.memory.wellFormed slot) hdec
    cases hc.symm.trans hc0
    obtain ⟨hbase, ⟨hpos, hroom⟩, rfl, rfl, rfl, rfl⟩ := decodeUntypedInvocation_args hc hdec
    obtain ⟨hfree, hone⟩ := getFreeRef_eq hw (hmark args.reset) hpos hroom
    have hbase : args.retypeBase = base := hbase
    have hfree : free = ptr + (if args.reset then 0 else freeIndex) * 2 ^ minUntypedBits := hfree
    have hfit : free + 2 ^ sz ≤ ptr + 2 ^ size := hone
    have hend := hw.2.2.2.2
    have hsz := Nat.two_pow_pos sz
    have hal : 2 ^ sz ∣ base := hbase ▸ acc.aligned
    have hbelow : base + args.destLength * 2 ^ sz ≤ ptr + 2 ^ size := hbase ▸ acc.below
    have hpow : 2 ^ size < 2 ^ 64 := Nat.pow_lt_pow_right (by decide) (hw.2.1.trans_lt (by decide))
    have hptr : ptr ≤ free := hfree.symm ▸ Nat.le_add_right _ _
    have hge : free ≤ base := (alignUp_spec (hfit.trans hend)).1
    clear_value base free
    refine ⟨⟨hptr, by omega, hge, hal, by omega, hbelow, hend⟩, fun preempt => ?_⟩
    rcases acc.ends preempt i hc ⟨node, rfl⟩ with
      ⟨fi, work, hr, hfi, -, e⟩ | ⟨fi, cs1, hfi, hm, hc1, hcr, e⟩
    · -- preempted
      rw [e]
      refine ⟨fi, setCap_cap_self cs slot _, hfi, fun hr' => ?_, nofun⟩
      rw [hr] at hr'
      cases hr'
    · rw [e]
      obtain ⟨hslot, hcaps⟩ := createNewObjects_cap hcr acc.valid acc.aligned _ le_rfl
      rw [hbase] at hm
      refine ⟨fi, hslot.trans hc1, hfi, fun hr => ⟨rfl, ?_⟩, fun _ => ⟨hm, fun j hj => ?_⟩⟩
      · have hle := acc.above hr
        rw [hbase] at hle
        have hm : ptr + fi * 2 ^ minUntypedBits = base + args.destLength * 2 ^ sz := hm
        refine Nat.le_of_mul_le_mul_right (c := 2 ^ minUntypedBits) ?_ (Nat.two_pow_pos _)
        omega
      · intro c
        obtain ⟨ha, hle⟩ := object_base hj hbelow hend
        have hcj : c = createObject args.newType (base + j * 2 ^ sz) args.userSize args.deviceMemory :=
          (hcaps j hj).trans (by rw [hbase, ha])
        have halj : 2 ^ sz ∣ base + j * 2 ^ sz := Nat.dvd_add hal (Nat.dvd_mul_left _ _)
        obtain ⟨-, hp, hb, -⟩ := createObject_region args.deviceMemory acc.valid halj (hle.trans hend)
        have hb : capSizeBits (createObject args.newType (base + j * 2 ^ sz) args.userSize args.deviceMemory) = sz := hb
        have he : regionEnd (createObject args.newType (base + j * 2 ^ sz) args.userSize args.deviceMemory) =
            base + (j + 1) * 2 ^ sz := by
          unfold regionEnd
          rw [hp, hb, Nat.succ_mul, Nat.add_assoc]
        exact ⟨hcj, (congrArg capPtr hcj).trans hp, (congrArg regionEnd hcj).trans he⟩
  · obtain ⟨t, ht, hpos, hroom⟩ := decodeUntypedInvocation_notEnoughMemory hc hdec
    refine ⟨t, ht, fun base hbase _ => ?_⟩
    obtain ⟨-, -, ebytes⟩ := freeBytes_eq hw.1 hw.2.1 (hmark (cs.resets slot))
    rw [ebytes] at hroom
    by_contra hle
    have hn := le_freeBytes hbase (not_lt.mp hle)
    rw [Nat.add_sub_add_left] at hn
    exact absurd hn (not_le.mpr hroom)

/-- A request for three endpoints in the page that is left after booting. -/
def threeEndpoints : RetypeArgs where
  reset := true
  retypeBase := 0x8060000000
  newType := .endpoint
  userSize := 0
  destCNode := 0x8040000000
  destOffset := 100
  destLength := 3
  deviceMemory := false

private lemma threeEndpoints_facts :
    (bootState (armVirt 1) armVirtBoot).cap pageSlot = .untyped 256 false 12 0x8060000000 ∧
      (bootState (armVirt 1) armVirtBoot).decodeUntypedInvocation pageSlot 2 0
        ((bootState (armVirt 1) armVirtBoot).cap (armVirtBoot.rootSlot .initThreadCNode)) 100 3 = .ok threeEndpoints ∧
      (invokeUntypedRetype (fun _ => false) pageSlot threeEndpoints (bootState (armVirt 1) armVirtBoot)).1 = .none := by
  decide +kernel

/-- Three endpoints in the page. -/
theorem retype_reachable_armVirt :
    regionEnd ((invokeUntypedRetype (fun _ => false) pageSlot threeEndpoints (bootState (armVirt 1) armVirtBoot)).2.cap
      (slotAt threeEndpoints.destCNode (100 + 2))) = 0x8060000000 + 3 * 2 ^ 4 := by
  obtain ⟨hc, hdec, hst⟩ := threeEndpoints_facts
  obtain ⟨-, hrun⟩ := (retype_reachable reachable_armVirt hc 2 0 (armVirtBoot.rootSlot .initThreadCNode) 100 3).1 _ hdec
  obtain ⟨_, -, -, -, hplaced⟩ := hrun fun _ => false
  have hbase : alignUp (getFreeRef 0x8060000000 (if threeEndpoints.reset then 0 else 256))
      (getObjectSize threeEndpoints.newType 0) = 0x8060000000 := by
    decide
  have hend := ((hplaced hst).2 2 (by decide)).2.2
  rw [hbase] at hend
  exact hend

end NexsKernel.CSpace
