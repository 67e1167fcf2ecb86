import NexsKernel.CSpace.Boot
import NexsKernel.CSpace.Revoke

/-!
# Invocations

The other invocations that store capabilities: those of CNodes, of the interrupts, of threads, and of the
ASID control. As before a message is taken as decoded and slots as looked up; what the decode functions
check about the CSpace is checked here or is a hypothesis of the step in which the invocation is used.
Each invocation keeps the invariant.
-/

namespace NexsKernel.CSpace

open Links

/-- A slot of a CNode that some capability names: what a lookup returns. -/
def InCNode (cs : CSpace) (s : Slot) : Prop :=
  ∃ t radix guardSize guard ptr, cs.cap t = .cnode radix guardSize guard ptr ∧ Contains (cs.cap t) s

/-- `invokeCNodeInsert` for Copy and Mint, `invokeCNodeMove` for Move and Mutate. -/
def invokeCNodeCopy (op : CopyOp) (cap : Cap) (src dest : Slot) (cs : CSpace) : Except Halt CSpace :=
  match op with
  | .copy _ | .mint _ _ => cs.cteInsert cap src dest
  | .move | .mutate _ => cs.cteMove cap src dest

/-- The checks of `decodeIRQControlInvocation` on an interrupt, and on the slot for its handler. -/
def decodeIRQControl (pf : Platform) (irq : Nat) (dest : Slot) (cs : CSpace) : Except SyscallError Unit := do
  refuseIf (irq ≥ pf.numIRQs) (.rangeError 0 (pf.numIRQs - 1))
  refuseIf (cs.isIRQActive irq = true) .revokeFirst
  cs.ensureEmptySlot dest

/-- `invokeIRQControl`. -/
def invokeIRQControl (irq : Nat) (handlerSlot controlSlot : Slot) (cs : CSpace) : Except Halt CSpace :=
  let cs := cs.setIRQState .signal irq
  cs.cteInsert (.irqHandler irq) controlSlot handlerSlot

/-- `invokeIRQHandler_SetIRQHandler`. -/
def setIRQHandler (pf : Platform) (irq : Nat) (cap : Cap) (slot : Slot) (cs : CSpace) : Except Halt CSpace := do
  let cs ← cs.cteDeleteOne (pf.irqSlot irq)
  cs.cteInsert cap slot (pf.irqSlot irq)

/-- `invokeIRQHandler_AckIRQ`. A GICv3 deactivates the interrupt, and does not hold it back any more than before. -/
def ackIRQ (gicV3 : Bool) (irq : Nat) (cs : CSpace) : CSpace :=
  if gicV3 then cs else cs.maskInterrupt false irq

/-- What `handleInterrupt` does to an interrupt; signals and timers are not part of the CSpace. -/
def handleInterrupt (pf : Platform) (gicV3 : Bool) (irq : Nat) (cs : CSpace) : CSpace :=
  if irq ≥ pf.numIRQs then
    cs.maskInterrupt true irq
  else
    match cs.intStateIRQTable irq with
    | .signal => if gicV3 then cs else cs.maskInterrupt true irq
    | .timer | .ipi | .reserved => cs
    | .inactive => cs.maskInterrupt true irq

/-- `performASIDControlInvocation`. -/
def performASIDControlInvocation (frame : Nat) (slot parent : Slot) (asidBase : Nat) (cs : CSpace) :
    Except Halt CSpace :=
  let cs := cs.setCap parent (setFreeIndex (maxFreeIndex (capSizeBits (cs.cap parent))) (cs.cap parent))
  let cs := cs.clearMemory frame asidPoolBits
  cs.cteInsert (.arch (.asidPool asidBase frame)) parent slot

/-- `installTCBCap`. -/
def installTCBCap (pf : Platform) (preempt : Nat → Bool) (fuel target : Nat) (slot : Slot)
    (index : TcbCNodeIndex) (newCap : Cap) (srcSlot : Slot) (cs : CSpace) : Except Halt (Status × CSpace) := do
  let rootSlot := slotAt (tcbPtrCtePtr target) index.pos
  let (e, cs) ← cteDelete pf preempt fuel rootSlot true cs
  if e ≠ .none then
    return (e, cs)
  else if newCap ≠ .null ∧ sameObjectAs newCap (cs.cap srcSlot) = true ∧
      sameObjectAs (.thread target) (cs.cap slot) = true then
    let cs ← cs.cteInsert newCap srcSlot rootSlot
    return (e, cs)
  else
    return (e, cs)

/-- `invokeTCB_ThreadControlCaps`: the capabilities that are updated, with their sources, in order. -/
def invokeTCBThreadControlCaps (pf : Platform) (preempt : Nat → Bool) (fuel target : Nat) (slot : Slot) :
    List (TcbCNodeIndex × Cap × Slot) → CSpace → Except Halt (Status × CSpace)
  | [], cs => return (.none, cs)
  | (index, newCap, srcSlot) :: updates, cs => do
    let (e, cs) ← installTCBCap pf preempt fuel target slot index newCap srcSlot cs
    if e ≠ .none then
      return (e, cs)
    else
      invokeTCBThreadControlCaps pf preempt fuel target slot updates cs

variable {pf : Platform} {preempt : Nat → Bool} {cs cs' : CSpace}

lemma InCNode.contains {s} (h : cs.InCNode s) : ∃ t, Contains (cs.cap t) s := by
  obtain ⟨t, _, _, _, _, _, h⟩ := h
  exact ⟨t, h⟩

lemma Inv.ne_irqSlot (i : Inv pf cs) {s} (h : ∃ t, Contains (cs.cap t) s) {irq} (hi : irq < pf.numIRQs) :
    s ≠ pf.irqSlot irq := by
  obtain ⟨t, ht⟩ := h
  exact i.tables.ne_irqSlot i.memory.wellFormed ht hi

/-- A copy goes into an empty slot of a table. -/
lemma Inv.cteInsertCopy (i : Inv pf cs) {src dest c} (hd : cs.cap dest = .null) (h : Copies (cs.cap src) c)
    (hno : isUntyped (cs.cap src) = true → cs.ensureNoChildren src = .ok ())
    (hl : ∃ t, Contains (cs.cap t) dest) (he : cs.cteInsert c src dest = .ok cs') : Inv pf cs' := by
  obtain ⟨cs1, e, i1⟩ := i.cteInsert hd h hno (.inr hl) fun irq hi e => absurd e (i.ne_irqSlot hl hi)
  rw [e] at he
  cases he
  exact i1

lemma Inv.cteMove (i : Inv pf cs) {src dest c} (hd : cs.cap dest = .null) (hs : cs.cap src ≠ .null)
    (h : Similar (cs.cap src) c) (hsrc : ∃ t, Contains (cs.cap t) src)
    (hdest : ∃ t, Contains (cs.cap t) dest) (he : cs.cteMove c src dest = .ok cs') : Inv pf cs' := by
  rw [cteMove_eq cs i.linked c hd hs] at he
  cases he
  exact i.move hs hsrc hdest h

/-- Copy, Mint, Move and Mutate. -/
lemma Inv.invokeCNodeCopy (i : Inv pf cs) {op src dest cap} (h : cs.decodeCopy op src dest = .ok cap)
    (hsrc : cs.InCNode src) (hdest : cs.InCNode dest) (he : cs.invokeCNodeCopy op cap src dest = .ok cs') :
    Inv pf cs' := by
  obtain ⟨hd, hs, hnew, hn⟩ := decodeCopy_ok h
  cases op with
  | copy rights | mint rights data =>
    obtain ⟨hc, hno⟩ := copies_of_newCap (by simp) hnew hn
    exact i.cteInsertCopy hd hc hno hdest.contains he
  | move =>
    cases hnew
    exact i.cteMove hd hs (.refl _) hsrc.contains hdest.contains he
  | mutate data =>
    cases hnew
    exact i.cteMove hd hs (similar_updateCapData hn) hsrc.contains hdest.contains he

/-- Moving a capability leaves the tables where they are. -/
lemma contains_exchange {a b s} (h : ∃ t, Contains (cs.cap t) s) :
    ∃ t, Contains ((cs.exchange a b).cap t) s := by
  obtain ⟨t, ht⟩ := h
  refine ⟨Equiv.swap a b t, ?_⟩
  rwa [exchange_cap, Equiv.swap_apply_self]

lemma contains_setSimilar {slot c s} (h : Similar (cs.cap slot) c) (hs : ∃ t, Contains (cs.cap t) s) :
    ∃ t, Contains ((cs.setCap slot c).cap t) s := by
  obtain ⟨t, n, hn, e⟩ := hs
  refine ⟨t, n, ?_, ?_⟩
  · by_cases et : t = slot
    · subst et
      rw [setCap_cap_self, h.slots]
      exact hn
    · rwa [setCap_cap_of_ne cs et]
  · by_cases et : t = slot
    · subst et
      rw [setCap_cap_self, ← h.region.ptr]
      exact e
    · rwa [setCap_cap_of_ne cs et]

/-- Rotate: the pivot moves to the destination and the source to the pivot, or the two change places. -/
lemma Inv.invokeCNodeRotate (i : Inv pf cs) {srcData pivotData src pivot dest caps}
    (h : cs.decodeRotate srcData pivotData src pivot dest = .ok caps) (hsrc : cs.InCNode src)
    (hpivot : cs.InCNode pivot) (hdest : cs.InCNode dest)
    (he : cs.invokeCNodeRotate caps.1 caps.2 src pivot dest = .ok cs') : Inv pf cs' := by
  obtain ⟨⟨hps, hpd⟩, hd, ⟨hs, hp⟩, sim1, sim2⟩ := decodeRotate_ok h
  unfold CSpace.invokeCNodeRotate at he
  by_cases e : src = dest
  · rw [if_pos e] at he
    cases he
    rw [cteSwap_eq cs i.linked _ _ hps.symm]
    have hirq : ∀ irq, irq < pf.numIRQs → pf.irqSlot irq ≠ src ∧ pf.irqSlot irq ≠ pivot := fun irq hi =>
      ⟨(i.ne_irqSlot hsrc.contains hi).symm, (i.ne_irqSlot hpivot.contains hi).symm⟩
    have i1 := i.exchange (.inr hsrc.contains) (.inr hpivot.contains) hirq
    have e1 : (cs.exchange src pivot).cap src = cs.cap pivot := by
      rw [exchange_cap, Equiv.swap_apply_left]
    have e2 : ((cs.exchange src pivot).setCap src caps.2).cap pivot = cs.cap src := by
      rw [setCap_cap_of_ne _ hps, exchange_cap, Equiv.swap_apply_right]
    have i2 : Inv pf ((cs.exchange src pivot).setCap src caps.2) := by
      refine i1.setSimilar ?_ ?_
      · rwa [e1]
      · rwa [e1]
    refine i2.setSimilar ?_ ?_
    · rwa [e2]
    · rwa [e2]
  · rw [if_neg e] at he
    obtain ⟨cs1, h1, he⟩ := bind_eq_ok.mp he
    rw [cteMove_eq cs i.linked _ (hd e) hp] at h1
    cases h1
    have i1 := i.move hp hpivot.contains hdest.contains sim2
    have epiv : ((cs.exchange pivot dest).setCap dest caps.2).cap pivot = .null := by
      rw [setCap_cap_of_ne _ hpd, exchange_cap, Equiv.swap_apply_left, hd e]
    have esrc : ((cs.exchange pivot dest).setCap dest caps.2).cap src = cs.cap src := by
      rw [setCap_cap_of_ne _ e, exchange_cap, Equiv.swap_apply_of_ne_of_ne hps.symm e]
    have sim : Similar ((cs.exchange pivot dest).cap dest) caps.2 := by
      rwa [exchange_cap, Equiv.swap_apply_right]
    refine i1.cteMove epiv ?_ ?_ (contains_setSimilar sim (contains_exchange hsrc.contains))
      (contains_setSimilar sim (contains_exchange hpivot.contains)) he
    · rwa [esrc]
    · rwa [esrc]

/-- `cteInsert` behind the capability that controls the interrupts. -/
lemma Inv.cteInsertIrq (i : Inv pf cs) {src dest c} (hs : cs.cap src = .irqControl)
    (hd : cs.cap dest = .null) (hc : sameRegionAs .irqControl c = true) (hne : c ≠ .irqControl)
    (hrev : isCapRevocable c .irqControl = true)
    (hnew : ∀ irq, c = .irqHandler irq → (∀ t, cs.cap t ≠ c) ∧ cs.intStateIRQTable irq = .signal ∧ irq < pf.numIRQs)
    (hdest : ∃ t, Contains (cs.cap t) dest) (he : cs.cteInsert c src dest = .ok cs') : Inv pf cs' := by
  have hnull : cs.cap src ≠ .null := by
    rw [hs]
    nofun
  have hfull : markFull (cs.cap src) c = cs.cap src := by
    rw [hs]
    rfl
  rw [cteInsert_eq cs i.linked _ hd hnull, setUntypedCapAsFull_eq, hfull, setCap_same, hs, hrev] at he
  cases he
  exact i.insertIrq hd hs hc hne hnew hdest

/-- A new handler of an interrupt that is not active. -/
lemma Inv.invokeIRQControl (i : Inv pf cs) {irq src dest} (hs : cs.cap src = .irqControl)
    (hd : cs.cap dest = .null) (hirq : irq < pf.numIRQs) (hact : cs.isIRQActive irq = false)
    (hdest : cs.InCNode dest) (he : cs.invokeIRQControl irq dest src = .ok cs') : Inv pf cs' := by
  have hinactive : cs.intStateIRQTable irq = .inactive := by
    simpa [isIRQActive] using hact
  have i1 : Inv pf (cs.setIRQState .signal irq) := by
    refine i.withIrq _ _ _ fun s irq' e => ?_
    show Function.update cs.intStateIRQTable irq .signal irq' = _
    by_cases h : irq' = irq
    · rw [h, Function.update_self]
    · rw [Function.update_of_ne h]
      exact (i.tables.irqHandler s irq' e).1
  refine i1.cteInsertIrq (c := .irqHandler irq) hs hd rfl nofun rfl (fun irq' e => ?_) hdest.contains he
  cases e
  refine ⟨fun t ht => ?_, Function.update_self .., hirq⟩
  have := (i.tables.irqHandler t irq ht).1
  rw [hinactive] at this
  cases this

/-- Holding an interrupt back, or not, is nothing to the slots. -/
lemma Inv.maskInterrupt (i : Inv pf cs) (disable : Bool) (irq : Nat) : Inv pf (cs.maskInterrupt disable irq) :=
  i.withIrq _ _ _ fun s irq e => (i.tables.irqHandler s irq e).1

lemma Inv.ackIRQ (i : Inv pf cs) (gicV3 : Bool) (irq : Nat) : Inv pf (cs.ackIRQ gicV3 irq) := by
  unfold CSpace.ackIRQ
  split
  · exact i
  · exact i.maskInterrupt _ _

lemma Inv.handleInterrupt (i : Inv pf cs) (gicV3 : Bool) (irq : Nat) : Inv pf (cs.handleInterrupt pf gicV3 irq) := by
  unfold CSpace.handleInterrupt
  split
  · exact i.maskInterrupt _ _
  · split
    · split
      · exact i
      · exact i.maskInterrupt _ _
    · exact i
    · exact i
    · exact i
    · exact i.maskInterrupt _ _

/-- The notification of an interrupt is replaced. -/
lemma Inv.setIRQHandler (i : Inv pf cs) {irq handler src} (hh : cs.cap handler = .irqHandler irq)
    (hn : isNotification (cs.cap src) = true) (hsrc : cs.InCNode src)
    (he : cs.setIRQHandler pf irq (cs.cap src) src = .ok cs') : Inv pf cs' := by
  have hirq := (i.tables.irqHandler handler irq hh).2
  obtain ⟨cs1, h1, he⟩ := bind_eq_ok.mp he
  have i1 := i.cteDeleteOne h1
  have hsame : cs1.cap src = cs.cap src ∧ cs1.cap (pf.irqSlot irq) = .null := by
    rcases cteDeleteOne_cases h1 with ⟨hnull, rfl⟩ | ⟨-, -, rfl⟩
    · exact ⟨rfl, hnull⟩
    · exact ⟨emptySlot_cap_of_ne (i.ne_irqSlot hsrc.contains hirq) _, emptySlot_cap_self _ _⟩
  have hcopy : Copies (cs1.cap src) (cs.cap src) := by
    rw [hsame.1]
    cases hc : cs.cap src with
    | notification => exact .notification fun _ => rfl
    | _ =>
      rw [hc] at hn
      cases hn
  obtain ⟨cs2, h2, i2⟩ := i1.cteInsert hsame.2 hcopy (fun hu => by
    rw [hsame.1] at hu
    cases hc : cs.cap src <;> rw [hc] at hu hn <;> first | cases hu; done | cases hn)
    (.inl ⟨irq, hirq, rfl⟩) fun _ _ _ => hn
  rw [h2] at he
  cases he
  exact i2

/-- A page of untyped memory without children becomes an ASID pool. -/
lemma Inv.performASIDControlInvocation (i : Inv pf cs) {parent dest asidBase freeIndex ptr}
    (hc : cs.cap parent = .untyped freeIndex false asidPoolBits ptr)
    (hno : cs.ensureNoChildren parent = .ok ()) (hd : cs.cap dest = .null) (hdest : cs.InCNode dest)
    (he : cs.performASIDControlInvocation ptr dest parent asidBase = .ok cs') : Inv pf cs' := by
  have hu : isUntyped (cs.cap parent) = true := by
    rw [hc]
    rfl
  have hres := resets_iff.mpr hno
  have hw := i.memory.wellFormed parent
  rw [hc] at hw
  let full : Cap := .untyped (maxFreeIndex asidPoolBits) false asidPoolBits ptr
  have hset : setFreeIndex (maxFreeIndex (capSizeBits (cs.cap parent))) (cs.cap parent) = full := by
    rw [hc]
    rfl
  have i1 : Inv pf (cs.setCap parent full) :=
    i.setMark hc le_rfl fun t ht => absurd ht (not_covers_of_ensureNoChildren i.memory hu hno)
  have hself : (cs.setCap parent full).cap parent = full := setCap_cap_self ..
  have hnull : ∀ s, ptr ≤ s → s < ptr + 2 ^ asidPoolBits → (cs.setCap parent full).cap s = .null := by
    intro s h1 h2
    have hs := null_of_resets hc i hres s h1 h2
    have hne : s ≠ parent := by
      rintro rfl
      rw [hc] at hs
      cases hs
    rwa [setCap_cap_of_ne cs hne]
  have hdp : dest ≠ parent := by
    rintro rfl
    rw [hc] at hd
    cases hd
  have hd1 : (cs.setCap parent full).cap dest = .null := by
    rwa [setCap_cap_of_ne cs hdp]
  have hp1 : (cs.setCap parent full).cap parent ≠ .null := by
    rw [hself]
    nofun
  have hreg : SameRegion (cs.cap parent) full := by
    rw [hc]
    exact ⟨rfl, rfl, rfl⟩
  unfold CSpace.performASIDControlInvocation at he
  simp only [hset, clearMemory_eq i1.linked hnull] at he
  have hfull : markFull ((cs.setCap parent full).cap parent) (.arch (.asidPool asidBase ptr)) =
      (cs.setCap parent full).cap parent := by
    rw [hself]
    rfl
  rw [cteInsert_eq _ i1.linked _ hd1 hp1, setUntypedCapAsFull_eq, hfull, setCap_same] at he
  cases he
  have hin : Inside full (.arch (.asidPool asidBase ptr)) := ⟨rfl, le_rfl, le_rfl⟩
  refine i1.insertObject hd1 (by rw [hself]; rfl) (fun _ => hw.2.2.2.2) ?_ ?_ (fun t ht ho => ?_) nofun ?_
  · rw [hself]
    exact hin
  · rw [hself]
    exact (freeRef_full hw.1).ge
  · -- only untyped capabilities around the page overlap it
    rw [setCap_cap_of_ne cs ht] at ho ⊢
    have ho' : Overlap (cs.cap parent) (cs.cap t) := by
      rw [hc]
      exact ⟨rfl, ho.phys_left, ho.lt_right, ho.lt_left⟩
    obtain ⟨hut, hcov⟩ := covers_of_ensureNoChildren i.memory hu hno ht.symm ho'
    exact ⟨hut, hcov.setCap hreg fun e => absurd e ht⟩
  · obtain ⟨t, ht⟩ := hdest.contains
    have hts : t ≠ parent := by
      rintro rfl
      rw [hc] at ht
      obtain ⟨n, hn, -⟩ := ht
      exact Nat.not_lt_zero n hn
    exact ⟨t, by rwa [setCap_cap_of_ne cs hts]⟩

/-- The updates of a TCB are derived from their sources, as long as those are there. -/
def Derivable (updates : List (TcbCNodeIndex × Cap × Slot)) (cs : CSpace) : Prop :=
  ∀ u ∈ updates, sameObjectAs u.2.1 (cs.cap u.2.2) = true → Copies (cs.cap u.2.2) u.2.1

/-- The sources are not slots of the TCB itself. Without a new capability there is no source. -/
def Outside (updates : List (TcbCNodeIndex × Cap × Slot)) (target : Nat) : Prop :=
  ∀ u ∈ updates, u.2.1 ≠ .null → ∀ j : TcbCNodeIndex, u.2.2 ≠ slotAt (tcbPtrCtePtr target) j.pos

lemma not_sameObjectAs_of_objectOf {a b : Cap} (h : objectOf b = none) : sameObjectAs a b = false := by
  rw [← Bool.not_eq_true, sameObjectAs_iff]
  exact fun e => e.2 (e.1.trans h)

lemma ne_null_of_sameObjectAs {a b : Cap} (h : sameObjectAs a b = true) : a ≠ .null := by
  rintro rfl
  exact (sameObjectAs_iff.mp h).2 rfl

/-- Where a capability survives, what was derived from it is still a copy of it. -/
lemma Survives.copies {t c} (h : Survives cs cs' t)
    (hc : sameObjectAs c (cs.cap t) = true → Copies (cs.cap t) c)
    (hs : sameObjectAs c (cs'.cap t) = true) : Copies (cs'.cap t) c := by
  rcases h with ⟨e, -⟩ | ⟨-, e | ⟨type, n, e⟩⟩
  · rw [e] at hs ⊢
    exact hc hs
  · rw [e, not_sameObjectAs_of_objectOf rfl] at hs
    cases hs
  · rw [e, not_sameObjectAs_of_objectOf rfl] at hs
    cases hs

lemma Derivable.cteDelete (i : Inv pf cs) {updates fuel slot}
    (h : cteDelete pf preempt fuel slot true cs = .ok (.none, cs')) (hd : Derivable updates cs)
    (hne : ∀ u ∈ updates, u.2.1 ≠ .null → u.2.2 ≠ slot) : Derivable updates cs' := fun u hu hs =>
  ((cteDelete_leaves i h).others _ (hne u hu (ne_null_of_sameObjectAs hs))).copies (hd u hu) hs

lemma thread_of_sameObjectAs {target : Nat} {c : Cap} (h : sameObjectAs (.thread target) c = true) :
    c = .thread target := by
  cases c with
  | thread ptr =>
    simp only [sameObjectAs, sameRegionAs, beq_iff_eq] at h
    rw [h]
  | _ => cases h

/-- A slot of a TCB is emptied and filled again. -/
lemma Inv.installTCBCap (i : Inv pf cs) {fuel target slot index newCap srcSlot updates r}
    (hd : Derivable ((index, newCap, srcSlot) :: updates) cs)
    (ho : Outside ((index, newCap, srcSlot) :: updates) target)
    (he : cs.installTCBCap pf preempt fuel target slot index newCap srcSlot = .ok r) :
    Inv pf r.2 ∧ (r.1 = .none → Derivable updates r.2) := by
  obtain ⟨⟨e, cs1⟩, hdel, he⟩ := bind_eq_ok.mp he
  have i1 := i.cteDelete hdel
  cases e with
  | preempted =>
    cases he
    exact ⟨i1, nofun⟩
  | none =>
    have hd1 := hd.cteDelete i hdel fun u hu hun => ho u hu hun index
    have hrest : Derivable updates cs1 := fun u hu => hd1 u (List.mem_cons_of_mem _ hu)
    simp only [ne_eq, not_true_eq_false, if_false] at he
    split at he
    · rename_i hcond
      obtain ⟨hn, hsame, htcb⟩ := hcond
      obtain ⟨cs2, hins, he⟩ := bind_eq_ok.mp he
      cases he
      have hnull : cs1.cap (slotAt (tcbPtrCtePtr target) index.pos) = .null :=
        (cteDelete_leaves i hdel).own.resolve_right fun h => nomatch h.1
      have hcopy : Copies (cs1.cap srcSlot) newCap := hd1 _ List.mem_cons_self hsame
      have hu : isUntyped (cs1.cap srcSlot) = false := by
        cases hc : cs1.cap srcSlot with
        | untyped =>
          rw [hc, not_sameObjectAs_of_objectOf rfl] at hsame
          cases hsame
        | _ => rfl
      have hcont : Contains (cs1.cap slot) (slotAt (tcbPtrCtePtr target) index.pos) := by
        rw [thread_of_sameObjectAs htcb]
        exact ⟨index.pos, TcbCNodeIndex.pos_lt index, rfl⟩
      have hsrc : cs1.cap srcSlot ≠ .null := by
        intro e
        rw [e] at hcopy
        cases hcopy
      refine ⟨i1.cteInsertCopy hnull hcopy (fun hu' => ?_) ⟨slot, hcont⟩ hins, fun _ u hu' => ?_⟩
      · rw [hu] at hu'
        cases hu'
      · by_cases hun : u.2.1 = .null
        · rw [hun]
          exact fun h => absurd rfl (ne_null_of_sameObjectAs h)
        · rw [cteInsert_cap i1.linked hnull hsrc hu hins,
            Function.update_of_ne (ho u (List.mem_cons_of_mem _ hu') hun index)]
          exact hrest u hu'
    · cases he
      exact ⟨i1, fun _ => hrest⟩

/-- The capabilities of a thread are updated, one after the other. -/
lemma Inv.invokeTCBThreadControlCaps (i : Inv pf cs) {fuel target slot updates r}
    (hd : Derivable updates cs) (ho : Outside updates target)
    (he : cs.invokeTCBThreadControlCaps pf preempt fuel target slot updates = .ok r) : Inv pf r.2 := by
  induction updates generalizing cs with
  | nil =>
    cases he
    exact i
  | cons u updates ih =>
    obtain ⟨⟨e, cs1⟩, h1, he⟩ := bind_eq_ok.mp he
    obtain ⟨i1, hd1⟩ := i.installTCBCap hd ho h1
    cases e with
    | preempted =>
      cases he
      exact i1
    | none => exact ih i1 (hd1 rfl) (fun u hu => ho u (List.mem_cons_of_mem _ hu)) he

/-- The slots of a CNode are not slots of a TCB. -/
lemma Inv.ne_tcbSlot (i : Inv pf cs) {s slot target} (h : cs.InCNode s) (ht : cs.cap slot = .thread target)
    (j : TcbCNodeIndex) : s ≠ slotAt (tcbPtrCtePtr target) j.pos := by
  rintro rfl
  obtain ⟨t, radix, g, gs, ptr, hc, hcont⟩ := h
  have hcont' : Contains (cs.cap slot) (slotAt (tcbPtrCtePtr target) j.pos) := by
    rw [ht]
    exact ⟨j.pos, TcbCNodeIndex.pos_lt j, rfl⟩
  obtain ⟨p, hp⟩ := hcont.mem_region (i.memory.wellFormed t)
  obtain ⟨q, hq⟩ := hcont'.mem_region (i.memory.wellFormed slot)
  have hne : t ≠ slot := by
    rintro rfl
    rw [hc] at ht
    cases ht
  have hex := i.memory.exclusive t slot hne (by rw [hc]; rfl) (by rw [ht]; rfl) (overlap_of_mem p q hp hq)
  rw [hc, ht] at hex
  cases hex.1

end NexsKernel.CSpace
