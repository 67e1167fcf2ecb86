import NexsKernel.CSpace.Untyped
import NexsKernel.CSpace.DeleteInv

/-!
# Retype

An accepted Retype invocation creates its objects above the mark of the untyped capability and below its
end (`decodeUntypedInvocation_ok`), or the capability has no children and starts over. Either way nothing but
untyped capabilities around it overlaps the new objects, so the invariant is kept. Clearing memory never
removes a capability: the memory of an untyped capability without children holds no slots in use
(`null_of_resets`).
-/

namespace NexsKernel

/-- `alignUp` gives the next multiple. -/
lemma alignUp_spec {f a} (h : f + 2 ^ a ≤ 2 ^ 64) :
    f ≤ alignUp f a ∧ 2 ^ a ∣ alignUp f a ∧ ∀ m, f ≤ m * 2 ^ a → alignUp f a ≤ m * 2 ^ a := by
  have hpos := Nat.two_pow_pos a
  have e : alignUp f a = (f + (2 ^ a - 1)) / 2 ^ a * 2 ^ a := by
    unfold alignUp bit
    rw [add64_eq (by omega), Nat.div_mul_self_eq_mod_sub_self]
  rw [e]
  refine ⟨?_, Nat.dvd_mul_left _ _, fun m hm => Nat.mul_le_mul_right _ ?_⟩
  · have h1 := Nat.div_add_mod (f + (2 ^ a - 1)) (2 ^ a)
    have h2 := Nat.mod_lt (f + (2 ^ a - 1)) hpos
    rw [Nat.mul_comm] at h1
    omega
  · rw [← Nat.lt_succ_iff, Nat.div_lt_iff_lt_mul hpos, Nat.succ_mul]
    omega

/-- Objects that fit into the free bytes of a block fit behind the aligned start as well. -/
lemma alignUp_add_le {f a e n} (he : 2 ^ a ∣ e) (hf : f ≤ e) (hn : n ≤ (e - f) / 2 ^ a)
    (h : f + 2 ^ a ≤ 2 ^ 64) : alignUp f a + n * 2 ^ a ≤ e := by
  obtain ⟨m, rfl⟩ := he
  have hpos := Nat.two_pow_pos a
  have hmul : n * 2 ^ a ≤ 2 ^ a * m - f := (Nat.le_div_iff_mul_le hpos).mp hn
  have hnm : n ≤ m := by
    by_contra hlt
    have := Nat.mul_lt_mul_of_pos_right (not_le.mp hlt) hpos
    rw [Nat.mul_comm m] at this
    omega
  have hsub : (m - n) * 2 ^ a = 2 ^ a * m - n * 2 ^ a := by
    rw [Nat.sub_mul, Nat.mul_comm m]
  have hle := (alignUp_spec h).2.2 (m - n) (by omega)
  have : n * 2 ^ a ≤ 2 ^ a * m := by omega
  omega

/-- A type and a user size that `decodeUntypedInvocation` accepts. -/
structure ValidSize (t : ObjectType) (u : Nat) : Prop where
  le : getObjectSize t u ≤ maxUntypedBits
  capTable : t = .capTable → getObjectSize t u = u + slotBits
  untyped : t = .untyped → minUntypedBits ≤ u
  schedContext : t = .schedContext → minSchedContextBits ≤ u

lemma ValidSize.min_le {t u} (h : ValidSize t u) : minUntypedBits ≤ getObjectSize t u := by
  cases t with
  | untyped => exact h.untyped rfl
  | capTable =>
    rw [h.capTable rfl]
    exact Nat.le_add_left_of_le (by decide)
  | schedContext =>
    have h' : 7 ≤ u := h.schedContext rfl
    change 4 ≤ u
    omega
  | _ =>
    dsimp only [getObjectSize]
    decide

/-- A new object covers the region it was created in. -/
lemma createObject_region {t u base} (dev) (h : ValidSize t u) (ha : 2 ^ getObjectSize t u ∣ base)
    (he : base + 2 ^ getObjectSize t u ≤ 2 ^ 64) :
    capIsPhysical (createObject t base u dev) = true ∧ capPtr (createObject t base u dev) = base ∧
      capSizeBits (createObject t base u dev) = getObjectSize t u ∧
      WellFormed (createObject t base u dev) := by
  have w : ∀ {c : Cap}, capPtr c = base → capSizeBits c = getObjectSize t u → regionEnd c ≤ 2 ^ 64 := by
    intro c h1 h2
    unfold regionEnd
    rwa [h1, h2]
  cases t with
  | tcb =>
    have hp : tcbPtrCtePtr (add64 base tcbOffset) = base := by
      change 2 ^ 11 ∣ base at ha
      change base + 2 ^ 11 ≤ 2 ^ 64 at he
      unfold tcbPtrCtePtr add64
      change (base + 1024) % 2 ^ 64 - (base + 1024) % 2 ^ 64 % 2 ^ 11 = base
      omega
    exact ⟨rfl, hp, rfl, fun _ => w hp rfl⟩
  | capTable =>
    have hs := h.capTable rfl
    exact ⟨rfl, rfl, hs.symm, fun _ => w rfl hs.symm⟩
  | untyped => exact ⟨rfl, rfl, rfl, h.untyped rfl, h.le, Nat.zero_le _, ha, he⟩
  | _ => exact ⟨rfl, rfl, rfl, fun _ => w rfl rfl⟩

namespace CSpace

open Links

variable {pf : Platform} {preempt : Nat → Bool} {cs : CSpace} {slot : Slot} {nodeCap : Cap}

/-- What an accepted Retype invocation on an untyped capability has checked. -/
structure Accepted (cs : CSpace) (slot : Slot) (nodeCap : Cap) (args : RetypeArgs)
    (freeIndex size ptr : Nat) : Prop where
  reset : args.reset = cs.resets slot
  valid : ValidSize args.newType args.userSize
  aligned : 2 ^ getObjectSize args.newType args.userSize ∣ args.retypeBase
  above : args.reset = false → ptr + freeIndex * 2 ^ minUntypedBits ≤ args.retypeBase
  base_le : ptr ≤ args.retypeBase
  below : args.retypeBase + args.destLength * 2 ^ getObjectSize args.newType args.userSize ≤ ptr + 2 ^ size
  dest : ∀ j, j < args.destLength → Contains nodeCap (slotAt args.destCNode (args.destOffset + j)) ∧
    cs.cap (slotAt args.destCNode (args.destOffset + j)) = .null

lemma decodeObjectType_ok {newType u t} (h : decodeObjectType newType u = .ok t) : ValidSize t u := by
  unfold decodeObjectType at h
  split at h
  · cases h
  · simp only [refuseIf_bind] at h
    obtain ⟨hsize, hcap, hunt, hsc, e⟩ := h
    cases e
    obtain ⟨hu, hle⟩ := not_or.mp hsize
    refine ⟨not_lt.mp hle, ?_, fun e => ?_, fun e => ?_⟩
    · rintro rfl
      have hu' : u < 64 := not_le.mp hu
      change add64 5 u = u + 5
      rw [add64_eq (by omega), Nat.add_comm]
    · by_contra hlt
      exact hunt ⟨e, not_le.mp hlt⟩
    · by_contra hlt
      exact hsc ⟨e, not_le.mp hlt⟩

lemma ensureEmptySlots_ok {destCNode is} (h : cs.ensureEmptySlots destCNode is = .ok ()) :
    ∀ i ∈ is, cs.cap (slotAt destCNode i) = .null := by
  induction is with
  | nil => exact nofun
  | cons i is ih =>
    unfold ensureEmptySlots ensureEmptySlot at h
    rw [refuseIf_bind] at h
    intro j hj
    rcases List.mem_cons.mp hj with rfl | hj
    · exact not_not.mp h.1
    · exact ih h.2 j hj

lemma decodeDestination_ok {offset window ptr} (h : cs.decodeDestination nodeCap offset window = .ok ptr) :
    0 < window ∧ ∀ j, j < window → Contains nodeCap (slotAt ptr (offset + j)) ∧
      cs.cap (slotAt ptr (offset + j)) = .null := by
  unfold decodeDestination at h
  split at h
  · rename_i radix g s ptr'
    simp only [refuseIf_bind] at h
    obtain ⟨hoff, hpos, hwin, h⟩ := h
    obtain ⟨_, hempty, h⟩ := bind_eq_ok.mp h
    cases h
    refine ⟨by omega, fun j hj => ?_⟩
    refine ⟨⟨offset + j, ?_, rfl⟩, ?_⟩
    · change offset + j < 2 ^ radix
      omega
    · refine ensureEmptySlots_ok hempty _ ?_
      rw [List.mem_range'_1]
      omega
  · cases h

/-- The free bytes of an untyped capability, without overflow. -/
lemma freeBytes_eq {freeIndex size : Nat} (hsize : minUntypedBits ≤ size)
    (hmax : size ≤ maxUntypedBits) (hfree : freeIndex ≤ maxFreeIndex size) :
    freeIndexToOffset freeIndex = freeIndex * 2 ^ minUntypedBits ∧
      freeIndex * 2 ^ minUntypedBits ≤ 2 ^ size ∧
      sub64 (bit size) (freeIndexToOffset freeIndex) = 2 ^ size - freeIndex * 2 ^ minUntypedBits := by
  have hle : freeIndex * 2 ^ minUntypedBits ≤ 2 ^ size := by
    calc freeIndex * 2 ^ minUntypedBits ≤ maxFreeIndex size * 2 ^ minUntypedBits :=
          Nat.mul_le_mul_right _ hfree
      _ = 2 ^ size := by
          unfold maxFreeIndex bit
          rw [← pow_add, Nat.sub_add_cancel hsize]
  have hpow : 2 ^ size < 2 ^ 64 := Nat.pow_lt_pow_right (by decide) (hmax.trans_lt (by decide))
  have e : freeIndexToOffset freeIndex = freeIndex * 2 ^ minUntypedBits :=
    Nat.mod_eq_of_lt (hle.trans_lt hpow)
  refine ⟨e, hle, ?_⟩
  rw [e]
  exact sub64_eq hle hpow

/-- What has been checked when a retype is accepted. -/
lemma decodeUntypedInvocation_ok (hw : WellFormed (cs.cap slot)) {newType u offset window args}
    (h : cs.decodeUntypedInvocation slot newType u nodeCap offset window = .ok args) :
    ∃ freeIndex dev size ptr, cs.cap slot = .untyped freeIndex dev size ptr ∧
      cs.Accepted slot nodeCap args freeIndex size ptr := by
  unfold decodeUntypedInvocation at h
  split at h
  · rename_i freeIndex dev size ptr hc
    refine ⟨freeIndex, dev, size, ptr, hc, ?_⟩
    rw [hc] at hw
    obtain ⟨hsize, hmax, hfree, halign, hend⟩ := hw
    obtain ⟨t, ht, h⟩ := bind_eq_ok.mp h
    obtain ⟨dest, hdest, h⟩ := bind_eq_ok.mp h
    simp only [refuseIf_bind] at h
    obtain ⟨hroom, -, e⟩ := h
    cases e
    have hv := decodeObjectType_ok ht
    -- the free index that counts
    generalize hfi : (if cs.resets slot = true then 0 else freeIndex) = fi at *
    have hfi' : fi ≤ maxFreeIndex size := by
      rw [← hfi]
      split
      · exact Nat.zero_le _
      · exact hfree
    obtain ⟨eoff, hle, ebytes⟩ := freeBytes_eq hsize hmax hfi'
    obtain ⟨hwin, hslots⟩ := decodeDestination_ok hdest
    rw [ebytes, not_lt] at hroom
    -- one object fits, so the end of the block is aligned to the object size
    have hone : 2 ^ getObjectSize t u ≤ 2 ^ size - fi * 2 ^ minUntypedBits := by
      have := (Nat.le_div_iff_mul_le (Nat.two_pow_pos _)).mp (hwin.trans_le hroom)
      rwa [Nat.one_mul] at this
    have hsz : getObjectSize t u ≤ size := by
      rw [← Nat.pow_le_pow_iff_right (show 1 < 2 by decide)]
      exact hone.trans (Nat.sub_le _ _)
    have hdvd : 2 ^ getObjectSize t u ∣ ptr + 2 ^ size :=
      Nat.dvd_add ((pow_dvd_pow 2 hsz).trans halign) (pow_dvd_pow 2 hsz)
    have hfit : ptr + fi * 2 ^ minUntypedBits + 2 ^ getObjectSize t u ≤ 2 ^ 64 := by omega
    have hpos := Nat.two_pow_pos (getObjectSize t u)
    have href : getFreeRef ptr fi = ptr + fi * 2 ^ minUntypedBits := by
      unfold getFreeRef
      rw [eoff, add64_eq (by omega)]
    rw [href]
    obtain ⟨hge, hal, -⟩ := alignUp_spec hfit
    refine ⟨rfl, hv, hal, fun hr => ?_, by dsimp only; omega, ?_, hslots⟩
    · have hr' : cs.resets slot = false := hr
      have e : fi = freeIndex := by
        rw [← hfi, hr']
        rfl
      rw [← e]
      exact hge
    · refine alignUp_add_le hdvd (by omega) ?_ hfit
      have e : ptr + 2 ^ size - (ptr + fi * 2 ^ minUntypedBits) = 2 ^ size - fi * 2 ^ minUntypedBits := by
        omega
      rwa [e]
  · cases h

lemma resets_iff : cs.resets slot = true ↔ cs.ensureNoChildren slot = .ok () := by
  unfold resets
  split
  · rename_i h
    exact iff_of_true rfl h
  · rename_i h
    rw [h]
    exact ⟨nofun, nofun⟩

lemma clearMemory_eq (w : cs.WellLinked) {ptr bits}
    (h : ∀ s, ptr ≤ s → s < ptr + 2 ^ bits → cs.cap s = .null) : cs.clearMemory ptr bits = cs := by
  have hnode : ∀ s, ptr ≤ s ∧ s < ptr + 2 ^ bits →
      cs.cap s = .null ∧ cs.cteMDBNode s = nullMDBNode ∧ cs.history s = [] :=
    fun s hs => ⟨h s hs.1 hs.2, w.null s (h s hs.1 hs.2)⟩
  simp only [cteMDBNode, nullMDBNode, MdbNode.mk.injEq] at hnode
  unfold clearMemory
  ext1 <;> try rfl
  all_goals
    funext s
    dsimp only
    split
    · rename_i hs
      simp [hnode s hs]
    · rfl

/-- Another mark, after some preemption points. -/
def remark (cs : CSpace) (slot : Slot) (cap : Cap) (work : Nat) : CSpace :=
  { cs.setCap slot cap with ksWorkUnitsCompleted := work }

private lemma setCap_remark {cap cap' work} :
    (cs.remark slot cap work).setCap slot cap' = cs.remark slot cap' work := by
  simp [remark, CSpace.setCap]

section Reset

variable {freeIndex size ptr : Nat} {dev : Bool} (hc : cs.cap slot = .untyped freeIndex dev size ptr)
include hc

/-- The memory of an untyped capability without children holds no slots in use. -/
lemma null_of_resets (i : Inv pf cs) (hr : cs.resets slot = true) (s : Slot) (h1 : ptr ≤ s)
    (h2 : s < ptr + 2 ^ size) : cs.cap s = .null := by
  have hu : isUntyped (cs.cap slot) = true := by
    rw [hc]
    rfl
  have hreg : capPtr (cs.cap slot) ≤ s ∧ s < regionEnd (cs.cap slot) := by
    rw [hc]
    exact ⟨h1, h2⟩
  have hp := capIsPhysical_of_isUntyped hu
  by_contra hn
  rcases i.tables.located s hn with ⟨irq, hi, rfl⟩ | ⟨t, ht⟩
  · exact absurd (i.tables.outside slot irq hi hp hreg.1) (not_le.mpr hreg.2)
  · -- no untyped capability has slots
    have hcount : ∀ {c : Cap}, isUntyped c = true → ¬ Contains c s := by
      rintro c h ⟨n, hn, -⟩
      obtain ⟨_, _, _, _, rfl⟩ := isUntyped_iff.mp h
      exact Nat.not_lt_zero n hn
    have hts : slot ≠ t := by
      rintro rfl
      exact hcount hu ht
    obtain ⟨hpt, hmem⟩ := ht.mem_region (i.memory.wellFormed t)
    have ho := overlap_of_mem hp hpt hreg hmem
    exact hcount (covers_of_ensureNoChildren i.memory hu (resets_iff.mp hr) hts ho).1 ht

lemma inv_remark (i : Inv pf cs) (hr : cs.resets slot = true) {freeIndex'}
    (hle : freeIndex' ≤ maxFreeIndex size) (work) :
    Inv pf (cs.remark slot (.untyped freeIndex' dev size ptr) work) := by
  have hu : isUntyped (cs.cap slot) = true := by
    rw [hc]
    rfl
  have i' := i.setMark hc hle fun t ht =>
    absurd ht (not_covers_of_ensureNoChildren i.memory hu (resets_iff.mp hr))
  exact i'.withIrq cs.intStateIRQTable cs.irqMasked work fun s irq e => (i'.tables.irqHandler s irq e).1

/-- Clearing a part of the memory of an untyped capability without children. -/
private lemma clearMemory_remark (i : Inv pf cs) (hr : cs.resets slot = true) {freeIndex' work p bits}
    (h1 : ptr ≤ p) (h2 : p + 2 ^ bits ≤ ptr + 2 ^ size) :
    (cs.remark slot (.untyped freeIndex' dev size ptr) work).clearMemory p bits =
      cs.remark slot (.untyped freeIndex' dev size ptr) work := by
  have w : (cs.setCap slot (.untyped freeIndex' dev size ptr)).WellLinked := i.linked.setCap nofun
  have w' : (cs.remark slot (.untyped freeIndex' dev size ptr) work).WellLinked := ⟨w.coherent, w.null⟩
  refine clearMemory_eq w' fun s hs1 hs2 => ?_
  have hnull := null_of_resets hc i hr s (h1.trans hs1) (hs2.trans_le h2)
  have hs : s ≠ slot := by
    rintro rfl
    rw [hc] at hnull
    cases hnull
  exact (setCap_cap_of_ne cs hs _).trans hnull

/-- The loop of the reset only ever changes the mark. -/
private lemma resetChunks_eq (i : Inv pf cs) (hr : cs.resets slot = true) :
    ∀ j freeIndex' work, j * 2 ^ resetChunkBits ≤ 2 ^ size → freeIndex' ≤ maxFreeIndex size →
      ∃ st freeIndex'' work', freeIndex'' ≤ maxFreeIndex size ∧
        (st = .none → freeIndex'' = if j = 0 then freeIndex' else 0) ∧
        resetChunks preempt slot (cs.cap slot) j
            (cs.remark slot (.untyped freeIndex' dev size ptr) work) =
          (st, cs.remark slot (.untyped freeIndex'' dev size ptr) work') := by
  intro j
  induction j with
  | zero => exact fun fi work _ hle => ⟨.none, fi, work, hle, fun _ => rfl, rfl⟩
  | succ j ih =>
    intro fi work hj hle
    have hwf := i.memory.wellFormed slot
    rw [hc] at hwf
    obtain ⟨hsize, -, -, -, hend⟩ := hwf
    rw [Nat.succ_mul] at hj
    have hpos := Nat.two_pow_pos resetChunkBits
    have hoff : add64 (capPtr (cs.cap slot)) (j * 2 ^ resetChunkBits) = ptr + j * 2 ^ resetChunkBits := by
      rw [hc]
      exact add64_eq (by change ptr + _ < _; omega)
    have hfi : offsetToFreeIndex (j * 2 ^ resetChunkBits) ≤ maxFreeIndex size := by
      unfold offsetToFreeIndex maxFreeIndex bit
      rw [← Nat.pow_div hsize (by decide)]
      exact Nat.div_le_div_right (by omega)
    have hcap : setFreeIndex (offsetToFreeIndex (j * 2 ^ resetChunkBits)) (cs.cap slot) =
        .untyped (offsetToFreeIndex (j * 2 ^ resetChunkBits)) dev size ptr := by
      rw [hc]
      rfl
    unfold resetChunks
    simp only [hoff, hcap]
    rw [clearMemory_remark hc i hr (Nat.le_add_right _ _) (by omega), setCap_remark]
    simp only [preemptionPoint]
    cases hp : preempt ((cs.remark slot (.untyped (offsetToFreeIndex (j * 2 ^ resetChunkBits)) dev size ptr)
        work).ksWorkUnitsCompleted + 1) with
    | true => exact ⟨.preempted, _, work + 1, hfi, (by intro h; cases h), by simp; rfl⟩
    | false =>
      obtain ⟨st, fi', work', hle', hnone, e⟩ := ih _ (work + 1) (by omega) hfi
      refine ⟨st, fi', work', hle', fun hst => ?_, ?_⟩
      · rw [hnone hst]
        split
        · rename_i hj0
          rw [hj0]
          rfl
        · rfl
      · simp only [Bool.false_eq_true, if_false]
        exact e

/-- A reset only lowers the mark, in one or several calls. -/
lemma resetUntypedCap_eq (preempt : Nat → Bool) (i : Inv pf cs) (hr : cs.resets slot = true) :
    ∃ st freeIndex' work, freeIndex' ≤ maxFreeIndex size ∧ (st = .none → freeIndex' = 0) ∧
      resetUntypedCap preempt slot cs = (st, cs.remark slot (.untyped freeIndex' dev size ptr) work) := by
  have hself : ∀ work, work = cs.ksWorkUnitsCompleted → cs.remark slot (.untyped freeIndex dev size ptr) work = cs := by
    rintro work rfl
    rw [← hc]
    unfold remark
    rw [setCap_same]
  have hwf := i.memory.wellFormed slot
  rw [hc] at hwf
  obtain ⟨hsize, hmax, hfree, -, hend⟩ := hwf
  obtain ⟨eoff, hle, -⟩ := freeBytes_eq hsize hmax hfree
  unfold resetUntypedCap
  rw [hc]
  simp only [eoff]
  split
  · rename_i h0
    refine ⟨.none, freeIndex, cs.ksWorkUnitsCompleted, hfree, fun _ => ?_, ?_⟩
    · exact (Nat.mul_eq_zero.mp h0).resolve_right (Nat.two_pow_pos _).ne'
    · rw [hself _ rfl]
  · rename_i h0
    split
    · refine ⟨.none, 0, cs.ksWorkUnitsCompleted, Nat.zero_le _, fun _ => rfl, ?_⟩
      have hclear : (if dev = true then cs else cs.clearMemory ptr size) = cs := by
        split
        · rfl
        · exact clearMemory_eq i.linked fun s h1 h2 => null_of_resets hc i hr s h1 h2
      rw [hclear]
      rfl
    · rename_i hsmall
      rw [Bool.or_eq_true, not_or, decide_eq_true_eq, not_lt] at hsmall
      have hchunks : ((freeIndex * 2 ^ minUntypedBits - 1) / 2 ^ resetChunkBits + 1) * 2 ^ resetChunkBits ≤
          2 ^ size := by
        obtain ⟨d, hd⟩ := pow_dvd_pow 2 hsmall.2
        have hpos := Nat.two_pow_pos resetChunkBits
        rw [hd, Nat.mul_comm (2 ^ resetChunkBits) d]
        refine Nat.mul_le_mul_right _ ?_
        rw [Nat.succ_le_iff, Nat.div_lt_iff_lt_mul hpos, Nat.mul_comm d, ← hd]
        omega
      obtain ⟨st, fi', work', hle', hnone, e⟩ :=
        resetChunks_eq hc i hr _ freeIndex cs.ksWorkUnitsCompleted hchunks hfree
      rw [hself _ rfl, hc] at e
      exact ⟨st, fi', work', hle', fun hst => by rw [hnone hst]; rfl, e⟩

end Reset

/-- What holds after some objects have been created: the rest of the used memory is fresh. -/
structure Creating (pf : Platform) (slot : Slot) (args : RetypeArgs) (n : Nat) (cs : CSpace) : Prop where
  inv : Inv pf cs
  untyped : isUntyped (cs.cap slot) = true
  base_le : capPtr (cs.cap slot) ≤ args.retypeBase
  mark : args.retypeBase + args.destLength * 2 ^ getObjectSize args.newType args.userSize ≤
    freeRef (cs.cap slot)
  mark_le : freeRef (cs.cap slot) ≤ regionEnd (cs.cap slot)
  fresh : ∀ t, t ≠ slot → Overlap (cs.cap slot) (cs.cap t) →
    regionEnd (cs.cap t) ≤ args.retypeBase + n * 2 ^ getObjectSize args.newType args.userSize ∨
      isUntyped (cs.cap t) = true ∧ cs.Covers t slot
  dest : ∀ j, n ≤ j → j < args.destLength →
    (∃ t, Contains (cs.cap t) (slotAt args.destCNode (args.destOffset + j))) ∧
      cs.cap (slotAt args.destCNode (args.destOffset + j)) = .null

/-- One more object. -/
lemma Creating.step {args : RetypeArgs} {n} (h : Creating pf slot args n cs) (hn : n < args.destLength)
    (hv : ValidSize args.newType args.userSize)
    (ha : 2 ^ getObjectSize args.newType args.userSize ∣ args.retypeBase) :
    Creating pf slot args (n + 1) (cs.insertNewCap slot (slotAt args.destCNode (args.destOffset + n))
      (createObject args.newType
        (add64 args.retypeBase (n * 2 ^ getObjectSize args.newType args.userSize % 2 ^ 64)) args.userSize
        args.deviceMemory)) := by
  generalize hsz : getObjectSize args.newType args.userSize = sz at *
  have hphys := capIsPhysical_of_isUntyped h.untyped
  have hend := (h.inv.memory.wellFormed slot).regionEnd_le hphys
  have hpos := Nat.two_pow_pos sz
  have hmark := h.mark
  have hmark_le := h.mark_le
  rw [hsz] at hmark
  have hroom : n * 2 ^ sz + 2 ^ sz ≤ args.destLength * 2 ^ sz := by
    rw [← Nat.succ_mul]
    exact Nat.mul_le_mul_right _ hn
  have hbase : add64 args.retypeBase (n * 2 ^ sz % 2 ^ 64) = args.retypeBase + n * 2 ^ sz := by
    rw [Nat.mod_eq_of_lt (by omega), add64_eq (by omega)]
  rw [hbase]
  generalize hc : createObject args.newType (args.retypeBase + n * 2 ^ sz) args.userSize
    args.deviceMemory = c
  obtain ⟨hcp, hptr, hbits, hwf⟩ : capIsPhysical c = true ∧ capPtr c = args.retypeBase + n * 2 ^ sz ∧
      capSizeBits c = sz ∧ WellFormed c := by
    rw [← hc, ← hsz]
    refine createObject_region _ hv ?_ ?_
    · rw [hsz]
      exact Nat.dvd_add ha (Nat.dvd_mul_left _ _)
    · rw [hsz]
      omega
  have hrend : regionEnd c = args.retypeBase + (n + 1) * 2 ^ sz := by
    unfold regionEnd
    rw [hptr, hbits, Nat.succ_mul, Nat.add_assoc]
  have hin : Inside (cs.cap slot) c := by
    refine ⟨hcp, ?_, ?_⟩
    · rw [hptr]
      exact h.base_le.trans (Nat.le_add_right _ _)
    · rw [hrend, Nat.succ_mul]
      omega
  obtain ⟨hnode, hnull⟩ := h.dest n le_rfl hn
  have hslot : cs.cap slot ≠ .null := by
    intro e
    have := h.untyped
    rw [e] at this
    cases this
  generalize hd : slotAt args.destCNode (args.destOffset + n) = dest at hnode hnull ⊢
  have hne : slot ≠ dest := by
    rintro rfl
    exact hslot hnull
  rw [insertNewCap_eq cs c fun e => h.inv.linked.next_ne_null e hnull]
  -- nothing but untyped capabilities around the source overlaps the new object
  have hfresh : ∀ t, t ≠ slot → Overlap (cs.cap t) c → isUntyped (cs.cap t) = true ∧ cs.Covers t slot := by
    intro t ht ho
    refine (h.fresh t ht (hin.overlap_of_overlap hphys ho.symm)).resolve_left fun hle => ?_
    have hlt := ho.symm.lt_left
    rw [hptr] at hlt
    rw [hsz] at hle
    omega
  have hmark' : regionEnd c ≤ freeRef (cs.cap slot) := by
    rw [hrend, Nat.succ_mul]
    omega
  have hinv : Inv pf (cs.insert slot dest c true) :=
    h.inv.insertObject hnull h.untyped hwf hin hmark' hfresh (fun _ => rfl) hnode
  have hcs : (cs.insert slot dest c true).cap slot = cs.cap slot := insert_cap_of_ne cs hne ..
  refine ⟨hinv, by rw [hcs]; exact h.untyped, by rw [hcs]; exact h.base_le, by rw [hcs, hsz]; exact hmark,
    by rw [hcs]; exact hmark_le, fun t ht ho => ?_, fun j hj hjl => ?_⟩
  · rw [hcs] at ho
    by_cases e : t = dest
    · subst e
      rw [insert_cap_self, hrend, hsz]
      exact .inl le_rfl
    · rw [insert_cap_of_ne cs e] at ho ⊢
      rcases h.fresh t ht ho with hle | ⟨hu, hcov⟩
      · refine .inl (hle.trans ?_)
        rw [hsz, Nat.succ_mul]
        omega
      · exact .inr ⟨hu, hcov.insert h.inv.linked hnull (fun _ => hin) e hne (capIsPhysical_of_isUntyped hu)⟩
  · obtain ⟨⟨t, htc⟩, hjn⟩ := h.dest j (by omega) hjl
    have hjd : slotAt args.destCNode (args.destOffset + j) ≠ dest := by
      rw [← hd]
      intro e
      have := slotAt_inj e
      omega
    have htd : t ≠ dest := by
      rintro rfl
      exact htc.ne_null hnull
    refine ⟨⟨t, ?_⟩, ?_⟩
    · rwa [insert_cap_of_ne cs htd]
    · rwa [insert_cap_of_ne cs hjd]

/-- All objects, one after the other. -/
lemma Creating.run {args : RetypeArgs} (h : Creating pf slot args 0 cs)
    (hv : ValidSize args.newType args.userSize)
    (ha : 2 ^ getObjectSize args.newType args.userSize ∣ args.retypeBase) :
    ∀ n, n ≤ args.destLength → Creating pf slot args n (createNewObjects args.newType slot args.destCNode
      args.destOffset n args.retypeBase args.userSize args.deviceMemory cs) := by
  intro n
  induction n with
  | zero => exact fun _ => h
  | succ n ih =>
    intro hn
    unfold createNewObjects at ih ⊢
    rw [List.range_succ, List.foldl_append]
    exact (ih (by omega)).step (by omega) hv ha

/-- The new mark of an accepted invocation. -/
lemma Accepted.mark {args freeIndex size ptr} (h : cs.Accepted slot nodeCap args freeIndex size ptr)
    (hsize : minUntypedBits ≤ size) (halign : 2 ^ size ∣ ptr) (hend : ptr + 2 ^ size ≤ 2 ^ 64)
    (hmax : size ≤ maxUntypedBits) :
    let sz := getObjectSize args.newType args.userSize
    let freeIndex' := getFreeIndex ptr (add64 args.retypeBase (args.destLength * 2 ^ sz % 2 ^ 64))
    ptr + freeIndex' * 2 ^ minUntypedBits = args.retypeBase + args.destLength * 2 ^ sz ∧
      freeIndex' ≤ maxFreeIndex size := by
  intro sz freeIndex'
  have hpow : 2 ^ size < 2 ^ 64 := Nat.pow_lt_pow_right (by decide) (hmax.trans_lt (by decide))
  have hbelow : args.retypeBase + args.destLength * 2 ^ sz ≤ ptr + 2 ^ size := h.below
  have hbase := h.base_le
  have hdvd : 2 ^ minUntypedBits ∣ args.retypeBase + args.destLength * 2 ^ sz - ptr :=
    Nat.dvd_sub (Nat.dvd_add ((pow_dvd_pow 2 h.valid.min_le).trans h.aligned)
      ((pow_dvd_pow 2 h.valid.min_le).trans (Nat.dvd_mul_left _ _))) ((pow_dvd_pow 2 hsize).trans halign)
  -- the subtraction undoes a wrap-around of the end of memory
  have e : freeIndex' = (args.retypeBase + args.destLength * 2 ^ sz - ptr) / 2 ^ minUntypedBits := by
    have hpos := Nat.two_pow_pos size
    change sub64 (add64 args.retypeBase (args.destLength * 2 ^ sz % 2 ^ 64)) ptr / 2 ^ minUntypedBits = _
    congr 1
    generalize args.destLength * 2 ^ sz = total at hbelow ⊢
    unfold sub64 add64
    omega
  have hmul : freeIndex' * 2 ^ minUntypedBits = args.retypeBase + args.destLength * 2 ^ sz - ptr := by
    rw [e, Nat.div_mul_cancel hdvd]
  refine ⟨by rw [hmul]; omega, ?_⟩
  rw [e]
  unfold maxFreeIndex bit
  rw [← Nat.pow_div hsize (by decide)]
  exact Nat.div_le_div_right (by omega)

/-- Raising the mark over the new objects. -/
private lemma creating_zero (i : Inv pf cs) {args freeIndex0 freeIndex freeIndex' size ptr dev}
    {cs0 : CSpace} (acc : cs0.Accepted slot nodeCap args freeIndex0 size ptr)
    (hc : cs.cap slot = .untyped freeIndex dev size ptr)
    (hm : ptr + freeIndex' * 2 ^ minUntypedBits =
      args.retypeBase + args.destLength * 2 ^ getObjectSize args.newType args.userSize)
    (hle : freeIndex' ≤ maxFreeIndex size)
    (hcov : ∀ t, cs.Covers slot t → regionEnd (cs.cap t) ≤ args.retypeBase)
    (hdest : ∀ j, j < args.destLength →
      (∃ t, t ≠ slot ∧ Contains (cs.cap t) (slotAt args.destCNode (args.destOffset + j))) ∧
        cs.cap (slotAt args.destCNode (args.destOffset + j)) = .null) :
    Creating pf slot args 0 (cs.setCap slot (.untyped freeIndex' dev size ptr)) := by
  have hu : isUntyped (cs.cap slot) = true := by
    rw [hc]
    rfl
  have hr : SameRegion (cs.cap slot) (.untyped freeIndex' dev size ptr) := by
    rw [hc]
    exact ⟨rfl, rfl, rfl⟩
  have i' : Inv pf (cs.setCap slot (.untyped freeIndex' dev size ptr)) :=
    i.setMark hc hle fun t ht => (hcov t ht).trans (by omega)
  have hslot : cs.cap slot ≠ .null := by
    rw [hc]
    nofun
  refine ⟨i', ?_, ?_, ?_, ?_, fun t ht ho => ?_, fun j _ hj => ?_⟩
  · rw [setCap_cap_self]
    rfl
  · rw [setCap_cap_self]
    exact acc.base_le
  · rw [setCap_cap_self]
    exact hm.ge
  · rw [setCap_cap_self]
    exact hm.le.trans acc.below
  · rw [setCap_cap_self] at ho
    rw [setCap_cap_of_ne cs ht] at ho ⊢
    rcases i.memory.covers slot t ht.symm hu (hr.symm.overlap_left ho) with h | ⟨hut, h⟩
    · exact .inl ((hcov t h).trans (Nat.le_add_right _ _))
    · exact .inr ⟨hut, h.setCap hr fun e => absurd e ht⟩
  · obtain ⟨⟨t, hts, hcont⟩, hnull⟩ := hdest j hj
    have hne : slotAt args.destCNode (args.destOffset + j) ≠ slot := by
      intro e
      rw [e] at hnull
      exact hslot hnull
    refine ⟨⟨t, ?_⟩, ?_⟩
    · rwa [setCap_cap_of_ne cs hts]
    · rwa [setCap_cap_of_ne cs hne]

variable (preempt) in
/-- How an accepted Retype invocation ends: it is preempted while it resets the untyped capability, or the mark
has been raised and all objects are created below it. -/
lemma Accepted.ends (i : Inv pf cs) {args freeIndex size ptr dev}
    (acc : cs.Accepted slot nodeCap args freeIndex size ptr) (hc : cs.cap slot = .untyped freeIndex dev size ptr)
    (hnode : ∃ t, cs.cap t = nodeCap) :
    (∃ fi work, args.reset = true ∧ fi ≤ maxFreeIndex size ∧
      Inv pf (cs.remark slot (.untyped fi dev size ptr) work) ∧
      invokeUntypedRetype preempt slot args cs = (.preempted, cs.remark slot (.untyped fi dev size ptr) work)) ∨
    ∃ fi cs1, fi ≤ maxFreeIndex size ∧
      ptr + fi * 2 ^ minUntypedBits =
        args.retypeBase + args.destLength * 2 ^ getObjectSize args.newType args.userSize ∧
      cs1.cap slot = .untyped fi dev size ptr ∧ Creating pf slot args 0 cs1 ∧
      invokeUntypedRetype preempt slot args cs = (.none, createNewObjects args.newType slot args.destCNode
        args.destOffset args.destLength args.retypeBase args.userSize args.deviceMemory cs1) := by
  have hw := i.memory.wellFormed slot
  rw [hc] at hw
  obtain ⟨hsize, hmax, -, halign, hend⟩ := hw
  obtain ⟨hm, hle⟩ := acc.mark hsize halign hend hmax
  have hu : isUntyped (cs.cap slot) = true := by
    rw [hc]
    rfl
  have hcp : capPtr (cs.cap slot) = ptr := by
    rw [hc]
    rfl
  have hset : ∀ {fi fi' : Nat}, setFreeIndex fi' (.untyped fi dev size ptr) = .untyped fi' dev size ptr := rfl
  have hslot : cs.cap slot ≠ .null := by
    rw [hc]
    nofun
  have hdest : ∀ j, j < args.destLength →
      (∃ t, t ≠ slot ∧ Contains (cs.cap t) (slotAt args.destCNode (args.destOffset + j))) ∧
        cs.cap (slotAt args.destCNode (args.destOffset + j)) = .null := by
    intro j hj
    obtain ⟨hcont, hnull⟩ := acc.dest j hj
    obtain ⟨t, rfl⟩ := hnode
    refine ⟨⟨t, ?_, hcont⟩, hnull⟩
    rintro rfl
    rw [hc] at hcont
    obtain ⟨n, hn, -⟩ := hcont
    exact Nat.not_lt_zero n hn
  unfold invokeUntypedRetype
  rw [hcp]
  cases hr : args.reset with
  | false =>
    simp only [Bool.false_eq_true, if_false, ne_eq, not_true_eq_false]
    rw [hc, hset]
    refine .inr ⟨_, _, hle, hm, setCap_cap_self cs slot _, ?_, rfl⟩
    refine creating_zero i acc hc hm hle (fun t ht => ?_) hdest
    have hbelow := ht.end_le
    rw [hc] at hbelow
    exact hbelow.trans (acc.above hr)
  | true =>
    have hres : cs.resets slot = true := acc.reset.symm.trans hr
    obtain ⟨st, fi, work, hfi, -, e⟩ := resetUntypedCap_eq hc preempt i hres
    simp only [if_true, e]
    have i' := inv_remark hc i hres hfi work
    cases st with
    | preempted => exact .inl ⟨fi, work, trivial, hfi, i', rfl⟩
    | none =>
      simp only [ne_eq, not_true_eq_false, if_false]
      have hc' : (cs.remark slot (.untyped fi dev size ptr) work).cap slot = .untyped fi dev size ptr :=
        setCap_cap_self cs slot _
      rw [hc', hset]
      have hother : ∀ {t}, t ≠ slot → (cs.remark slot (.untyped fi dev size ptr) work).cap t = cs.cap t :=
        fun ht => setCap_cap_of_ne cs ht _
      refine .inr ⟨_, _, hle, hm, setCap_cap_self _ slot _, ?_, rfl⟩
      refine creating_zero i' acc hc' hm hle (fun t ht => ?_) fun j hj => ?_
      · -- there are no children, so what overlaps comes before the slot and not after it
        exfalso
        have hne : slot ≠ t := i'.linked.coherent.ne_of_run ht.run
        have ho : Overlap (cs.cap slot) (cs.cap t) := by
          have ho' := ht.inside.overlap (capIsPhysical_of_isUntyped (by rw [hc']; rfl))
          rw [hc', hother hne.symm] at ho'
          rw [hc]
          exact ⟨ho'.phys_left, ho'.phys_right, ho'.lt_left, ho'.lt_right⟩
        have hback := (covers_of_ensureNoChildren i.memory hu (resets_iff.mp hres) hne ho).2
        have hforth : Before cs.mdbNext slot t := ht.run.mono fun _ _ => trivial
        exact i.linked.coherent.not_before_self (hforth.trans (hback.run.mono fun _ _ => trivial))
      · obtain ⟨⟨t, hts, hcont⟩, hnull⟩ := hdest j hj
        have hne : slotAt args.destCNode (args.destOffset + j) ≠ slot := by
          intro e
          rw [e] at hnull
          exact hslot hnull
        refine ⟨⟨t, hts, ?_⟩, ?_⟩
        · rwa [hother hts]
        · rwa [hother hne]

/-- An accepted Retype invocation keeps the invariant, preempted or not. -/
lemma Inv.retype (i : Inv pf cs) {newType u offset window args}
    (h : cs.decodeUntypedInvocation slot newType u nodeCap offset window = .ok args)
    (hnode : ∃ t, cs.cap t = nodeCap) : Inv pf (invokeUntypedRetype preempt slot args cs).2 := by
  obtain ⟨freeIndex, dev, size, ptr, hc, acc⟩ := decodeUntypedInvocation_ok (i.memory.wellFormed slot) h
  rcases acc.ends preempt i hc hnode with ⟨_, _, -, -, i', e⟩ | ⟨_, _, -, -, -, hcr, e⟩
  · rw [e]
    exact i'
  · rw [e]
    exact (hcr.run acc.valid acc.aligned _ le_rfl).inv

end CSpace

end NexsKernel
