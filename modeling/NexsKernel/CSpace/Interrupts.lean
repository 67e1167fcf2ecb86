import NexsKernel.CSpace.MdbRun
import NexsKernel.CSpace.Safety

/-!
# Interrupts

An interrupt has a state, a slot for the notification that it signals, and a bit in the interrupt controller that
holds it back. `IrqInv` ties them to the capabilities: the state is `IRQSignal` for as long as some slot holds a
handler. Most operations do not touch any of this (`KeepsIrqs`). A handler is issued by `invokeIRQControl`, and the
last one goes in one step of a deletion (`Finalises.handler`), so it makes no difference where a deletion is
preempted.
-/

namespace NexsKernel.CSpace

open Links
open Function (update update_self update_of_ne update_apply update_eq_self_iff update_eq_self update_idem)

variable {pf : Platform} {cs cs' cs'' : CSpace}

/-! ## What is left alone -/

@[simp] lemma setMdbNext_intStateIRQTable (s v) : (cs.setMdbNext s v).intStateIRQTable = cs.intStateIRQTable := by
  cases s <;> rfl

@[simp] lemma setMdbPrev_intStateIRQTable (s v) : (cs.setMdbPrev s v).intStateIRQTable = cs.intStateIRQTable := by
  cases s <;> rfl

@[simp] lemma orMdbFirstBadged_intStateIRQTable (s v) :
    (cs.orMdbFirstBadged s v).intStateIRQTable = cs.intStateIRQTable := by
  cases s <;> rfl

@[simp] lemma setMdbNext_irqMasked (s v) : (cs.setMdbNext s v).irqMasked = cs.irqMasked := by
  cases s <;> rfl

@[simp] lemma setMdbPrev_irqMasked (s v) : (cs.setMdbPrev s v).irqMasked = cs.irqMasked := by
  cases s <;> rfl

@[simp] lemma orMdbFirstBadged_irqMasked (s v) : (cs.orMdbFirstBadged s v).irqMasked = cs.irqMasked := by
  cases s <;> rfl

/-- The states of the interrupts, and what the interrupt controller holds back, are as before. -/
structure SameIrqs (cs cs' : CSpace) : Prop where
  table : cs'.intStateIRQTable = cs.intStateIRQTable
  masked : cs'.irqMasked = cs.irqMasked

/-- What `cteInsert` does to the slots. -/
lemma cteInsert_ok {c src dest} (h : cs.cteInsert c src dest = .ok cs') :
    cs.cap dest = .null ∧ SameIrqs cs cs' ∧
      cs'.cap = update (update cs.cap src (markFull (cs.cap src) c)) dest c := by
  unfold cteInsert at h
  obtain ⟨_, hempty, h⟩ := bind_eq_ok.mp h
  obtain ⟨_, hnull, -⟩ := bind_eq_ok.mp hempty
  rw [assert_eq_ok, beq_iff_eq] at hnull
  cases h
  rw [setUntypedCapAsFull_eq]
  refine ⟨hnull, ⟨?_, ?_⟩, ?_⟩
  · simp [recordDerived, setCteMDBNode, setCap]
  · simp [recordDerived, setCteMDBNode, setCap]
  · simp [recordDerived, setCteMDBNode, setCap]

/-- What `cteMove` does to the slots. -/
lemma cteMove_ok {c src dest} (h : cs.cteMove c src dest = .ok cs') :
    cs.cap dest = .null ∧ SameIrqs cs cs' ∧
      cs'.cap = update (update cs.cap dest c) src .null := by
  unfold cteMove at h
  obtain ⟨_, hempty, h⟩ := bind_eq_ok.mp h
  obtain ⟨_, hnull, -⟩ := bind_eq_ok.mp hempty
  rw [assert_eq_ok, beq_iff_eq] at hnull
  cases h
  refine ⟨hnull, ⟨?_, ?_⟩, ?_⟩
  · simp [recordSwap, setCteMDBNode, setCap]
  · simp [recordSwap, setCteMDBNode, setCap]
  · simp [recordSwap, setCteMDBNode, setCap]

/-- What `cteSwap` does to the slots. -/
lemma cteSwap_effect (cap1 cap2 slot1 slot2) :
    SameIrqs cs (cs.cteSwap cap1 slot1 cap2 slot2) ∧
      (cs.cteSwap cap1 slot1 cap2 slot2).cap = update (update cs.cap slot1 cap2) slot2 cap1 := by
  unfold cteSwap
  refine ⟨⟨?_, ?_⟩, ?_⟩
  · simp [recordSwap, setCteMDBNode, setCap]
  · simp [recordSwap, setCteMDBNode, setCap]
  · simp [recordSwap, setCteMDBNode, setCap]

lemma insertNewCap_effect (parent slot cap) :
    SameIrqs cs (cs.insertNewCap parent slot cap) ∧
      (cs.insertNewCap parent slot cap).cap = update cs.cap slot cap := by
  unfold insertNewCap
  refine ⟨⟨?_, ?_⟩, ?_⟩
  · simp [recordDerived, setCteMDBNode, setCap]
  · simp [recordDerived, setCteMDBNode, setCap]
  · simp [recordDerived, setCteMDBNode, setCap]

/-- Every handler is still somewhere, and no slot of an interrupt has been filled. -/
structure KeepsIrqs (pf : Platform) (cs cs' : CSpace) : Prop extends SameIrqs cs cs' where
  handler : ∀ s irq, cs.cap s = .irqHandler irq → ∃ t, cs'.cap t = .irqHandler irq
  slot : ∀ irq, irq < pf.numIRQs → cs'.cap (pf.irqSlot irq) ≠ .null → cs.cap (pf.irqSlot irq) ≠ .null

namespace KeepsIrqs

lemma refl (cs : CSpace) : KeepsIrqs pf cs cs := ⟨⟨rfl, rfl⟩, fun s _ h => ⟨s, h⟩, fun _ _ h => h⟩

lemma trans (h : KeepsIrqs pf cs cs') (h' : KeepsIrqs pf cs' cs'') : KeepsIrqs pf cs cs'' where
  table := h'.table.trans h.table
  masked := h'.masked.trans h.masked
  handler s irq e := by
    obtain ⟨t, e'⟩ := h.handler s irq e
    exact h'.handler t irq e'
  slot irq hi hs := h.slot irq hi (h'.slot irq hi hs)

/-- One slot is written that is not the slot of an interrupt. -/
lemma update (same : SameIrqs cs cs') {dest c} (e : cs'.cap = update cs.cap dest c)
    (hc : ∀ irq, cs.cap dest = .irqHandler irq → c = .irqHandler irq)
    (hd : cs.cap dest = .null → ∀ irq, irq < pf.numIRQs → dest ≠ pf.irqSlot irq) : KeepsIrqs pf cs cs' where
  toSameIrqs := same
  handler s irq hs := by
    refine ⟨s, ?_⟩
    rw [e]
    by_cases h : s = dest
    · rw [h] at hs ⊢
      rw [update_self]
      exact hc irq hs
    · rwa [update_of_ne h]
  slot irq hi hs := by
    rw [e] at hs
    by_cases h : pf.irqSlot irq = dest
    · exact fun hn => hd (h ▸ hn) irq hi h.symm
    · rwa [update_of_ne h] at hs

/-- A capability changes in place. -/
lemma setCap {slot c} (hs : cs.cap slot ≠ .null) (hc : ∀ irq, cs.cap slot = .irqHandler irq → c = .irqHandler irq) :
    KeepsIrqs pf cs (cs.setCap slot c) :=
  .update ⟨rfl, rfl⟩ rfl hc fun h => absurd h hs

/-- `cteInsert` into the slot of a table. -/
lemma cteInsert {c src dest} (hs : cs.cap src ≠ .null) (hd : ∀ irq, irq < pf.numIRQs → dest ≠ pf.irqSlot irq)
    (h : cs.cteInsert c src dest = .ok cs') : KeepsIrqs pf cs cs' := by
  obtain ⟨hnull, same, e⟩ := cteInsert_ok h
  have hne : dest ≠ src := by
    rintro rfl
    exact hs hnull
  have full : KeepsIrqs pf cs (cs.setCap src (markFull (cs.cap src) c)) := .setCap hs fun irq e => by
    rw [e]
    rfl
  refine full.trans (.update ⟨same.table, same.masked⟩ e (fun irq e => ?_) fun _ => hd)
  rw [setCap_cap_of_ne cs hne, hnull] at e
  cases e

/-- `cteMove` between slots of tables. -/
lemma cteMove {c src dest} (hc : Similar (cs.cap src) c) (hd : ∀ irq, irq < pf.numIRQs → dest ≠ pf.irqSlot irq)
    (h : cs.cteMove c src dest = .ok cs') : KeepsIrqs pf cs cs' := by
  obtain ⟨hnull, same, e⟩ := cteMove_ok h
  refine ⟨same, fun s irq hs => ?_, fun irq hi hs => ?_⟩
  · by_cases hsrc : s = src
    · subst hsrc
      refine ⟨dest, ?_⟩
      have hne : dest ≠ s := by
        rintro rfl
        rw [hs] at hnull
        cases hnull
      rw [hs] at hc
      cases hc
      rw [e, update_of_ne hne, update_self]
    · have hne : s ≠ dest := by
        rintro rfl
        rw [hs] at hnull
        cases hnull
      exact ⟨s, by rwa [e, update_of_ne hsrc, update_of_ne hne]⟩
  · rw [e] at hs
    by_cases h : pf.irqSlot irq = src
    · rw [h, update_self] at hs
      exact absurd rfl hs
    · rwa [update_of_ne h, update_of_ne (hd irq hi).symm] at hs

/-- `cteSwap` of capabilities in use. -/
lemma cteSwap {cap1 cap2 slot1 slot2} (hne : slot1 ≠ slot2) (h1 : Similar (cs.cap slot1) cap1)
    (h2 : Similar (cs.cap slot2) cap2) (hirq : ∀ irq, irq < pf.numIRQs → pf.irqSlot irq ≠ slot1 ∧
      pf.irqSlot irq ≠ slot2) :
    KeepsIrqs pf cs (cs.cteSwap cap1 slot1 cap2 slot2) := by
  obtain ⟨same, e⟩ := @cteSwap_effect cs cap1 cap2 slot1 slot2
  refine ⟨same, fun s irq hs => ?_, fun irq hi hs => ?_⟩
  · rw [e]
    by_cases e1 : s = slot1
    · rw [e1] at hs
      rw [hs] at h1
      cases h1
      exact ⟨slot2, update_self ..⟩
    · by_cases e2 : s = slot2
      · rw [e2] at hs
        rw [hs] at h2
        cases h2
        exact ⟨slot1, by rw [update_of_ne hne, update_self]⟩
      · exact ⟨s, by rwa [update_of_ne e2, update_of_ne e1]⟩
  · rwa [e, update_of_ne (hirq irq hi).2, update_of_ne (hirq irq hi).1] at hs

/-- A slot is emptied, when another one has the same handler or there is none in it. -/
lemma emptySlot {slot} (h : ∀ irq, cs.cap slot = .irqHandler irq → ∃ t, t ≠ slot ∧ cs.cap t = .irqHandler irq) :
    KeepsIrqs pf cs (cs.emptySlot slot .null) := by
  have same : SameIrqs cs (cs.emptySlot slot .null) := by
    unfold CSpace.emptySlot
    split
    · exact ⟨rfl, rfl⟩
    · constructor <;> simp [postCapDeletion, recordDeleted, setCteMDBNode, CSpace.setCap]
  refine ⟨same, fun s irq hs => ?_, fun irq _ hs => ?_⟩
  · by_cases e : s = slot
    · subst e
      obtain ⟨t, ht, hc⟩ := h irq hs
      exact ⟨t, by rwa [emptySlot_cap_of_ne ht]⟩
    · exact ⟨s, by rwa [emptySlot_cap_of_ne e]⟩
  · by_cases e : pf.irqSlot irq = slot
    · rw [e, emptySlot_cap_self] at hs
      exact absurd rfl hs
    · rwa [emptySlot_cap_of_ne e] at hs

/-- `cteDeleteOne` is not used on handlers. -/
lemma cteDeleteOne {slot} (h : cs.cteDeleteOne slot = .ok cs') : KeepsIrqs pf cs cs' := by
  unfold CSpace.cteDeleteOne at h
  split at h
  · cases h
    exact .refl _
  · obtain ⟨fc, hfc, h⟩ := bind_eq_ok.mp h
    obtain ⟨_, -, h⟩ := bind_eq_ok.mp h
    obtain ⟨_, -, h⟩ := bind_eq_ok.mp h
    cases h
    refine .emptySlot fun irq e => ?_
    rw [e] at hfc
    cases hfc

/-- Memory without capabilities is cleared. -/
lemma clearMemory {ptr bits} (hnull : ∀ s, ptr ≤ s → s < ptr + 2 ^ bits → cs.cap s = .null) :
    KeepsIrqs pf cs (cs.clearMemory ptr bits) := by
  have e : (cs.clearMemory ptr bits).cap = cs.cap := by
    funext s
    show (if ptr ≤ s ∧ s < ptr + 2 ^ bits then _ else _) = _
    split
    · rename_i h
      exact (hnull s h.1 h.2).symm
    · rfl
  exact ⟨⟨rfl, rfl⟩, fun s irq hs => ⟨s, by rwa [e]⟩, fun irq _ hs => by rwa [e] at hs⟩

end KeepsIrqs

/-! ## What ties the interrupts to the capabilities -/

/-- An interrupt that is signalled has a handler; only then has it a notification; and an interrupt that is inactive
is held back. -/
structure IrqInv (pf : Platform) (cs : CSpace) : Prop where
  handled : ∀ irq, cs.intStateIRQTable irq = .signal → ∃ s, cs.cap s = .irqHandler irq
  slot : ∀ irq, irq < pf.numIRQs → cs.cap (pf.irqSlot irq) ≠ .null → cs.intStateIRQTable irq = .signal
  masked : ∀ irq, irq < pf.numIRQs → cs.intStateIRQTable irq = .inactive → cs.irqMasked irq = true

/-- The kernel does not keep the interrupt for itself. -/
def Available (cs : CSpace) (irq : Nat) : Prop :=
  cs.intStateIRQTable irq = .inactive ∨ cs.intStateIRQTable irq = .signal

/-- What one operation does for the interrupts. -/
def Carries (pf : Platform) (cs cs' : CSpace) : Prop :=
  IrqInv pf cs → IrqInv pf cs' ∧ ∀ irq, cs.Available irq → cs'.Available irq

lemma Carries.refl (cs : CSpace) : Carries pf cs cs := fun q => ⟨q, fun _ h => h⟩

lemma Carries.trans (h : Carries pf cs cs') (h' : Carries pf cs' cs'') : Carries pf cs cs'' := by
  intro q
  obtain ⟨q', ha⟩ := h q
  obtain ⟨q'', ha'⟩ := h' q'
  exact ⟨q'', fun irq h => ha' irq (ha irq h)⟩

lemma KeepsIrqs.carries (h : KeepsIrqs pf cs cs') : Carries pf cs cs' := by
  refine fun q => ⟨⟨fun irq e => ?_, fun irq hi hs => ?_, fun irq hi e => ?_⟩, fun irq ha => ?_⟩
  · rw [h.table] at e
    obtain ⟨s, hs⟩ := q.handled irq e
    exact h.handler s irq hs
  · rw [h.table]
    exact q.slot irq hi (h.slot irq hi hs)
  · rw [h.table] at e
    rw [h.masked]
    exact q.masked irq hi e
  · unfold Available
    rwa [h.table]

/-- Only an interrupt that is not inactive is let through. -/
lemma carries_maskInterrupt {disable irq} (h : disable = false → cs.intStateIRQTable irq ≠ .inactive) :
    Carries pf cs (cs.maskInterrupt disable irq) := by
  refine fun q => ⟨⟨q.handled, q.slot, fun irq' hi e => ?_⟩, fun _ ha => ha⟩
  show update cs.irqMasked irq disable irq' = true
  by_cases hne : irq' = irq
  · rw [hne, update_self]
    rw [hne] at e
    cases disable with
    | true => rfl
    | false => exact absurd e (h rfl)
  · rw [update_of_ne hne]
    exact q.masked irq' hi e

/-- The last handler is gone, and with it the notification. -/
lemma carries_deletedIRQHandler (i : Inv pf cs) {slot irq} (hc : cs.cap slot = .irqHandler irq)
    (hf : cs.isFinalCapability slot = true) (hdel : cs.cteDeleteOne (pf.irqSlot irq) = .ok cs') :
    Carries pf cs (cs'.emptySlot slot (.irqHandler irq)) := by
  have keeps : KeepsIrqs pf cs cs' := KeepsIrqs.cteDeleteOne hdel
  have same : SameIrqs cs cs' := keeps.toSameIrqs
  have hcap : cs'.cap = update cs.cap (pf.irqSlot irq) .null := by
    rcases cteDeleteOne_cases hdel with ⟨hnull, rfl⟩ | ⟨-, -, rfl⟩
    · exact (update_eq_self_iff.mpr hnull.symm).symm
    · exact emptySlot_cap _ _
  -- the slot of an interrupt holds no handler
  have hne : ∀ {s irq'}, cs.cap s = .irqHandler irq' → s ≠ pf.irqSlot irq := by
    rintro s irq' e rfl
    have := i.tables.irqSlot irq (i.tables.irqHandler slot irq hc).2 (by rw [e]; nofun)
    rw [e] at this
    cases this
  have hslot : cs'.cap slot ≠ .null := by
    rw [hcap, update_of_ne (hne hc), hc]
    nofun
  have table : (cs'.emptySlot slot (.irqHandler irq)).intStateIRQTable =
      update cs.intStateIRQTable irq .inactive := by
    unfold emptySlot
    rw [if_neg hslot, ← same.table]
    simp [postCapDeletion, deletedIRQHandler, setIRQState, maskInterrupt, recordDeleted, setCteMDBNode, setCap]
  have masked : (cs'.emptySlot slot (.irqHandler irq)).irqMasked = update cs.irqMasked irq true := by
    unfold emptySlot
    rw [if_neg hslot, ← same.masked]
    simp [postCapDeletion, deletedIRQHandler, setIRQState, maskInterrupt, recordDeleted, setCteMDBNode, setCap]
  refine fun q => ⟨⟨fun irq' e => ?_, fun irq' hi hs => ?_, fun irq' hi e => ?_⟩, fun irq' ha => ?_⟩
  · rw [table] at e
    have hirq : irq' ≠ irq := by
      rintro rfl
      rw [update_self] at e
      cases e
    rw [update_of_ne hirq] at e
    obtain ⟨s, hs⟩ := q.handled irq' e
    refine ⟨s, ?_⟩
    have hss : s ≠ slot := by
      rintro rfl
      rw [hc] at hs
      cases hs
      exact hirq rfl
    rwa [emptySlot_cap_of_ne hss, hcap, update_of_ne (hne hs)]
  · have hss : pf.irqSlot irq' ≠ slot := by
      intro e
      rw [e, emptySlot_cap_self] at hs
      exact hs rfl
    rw [emptySlot_cap_of_ne hss, hcap] at hs
    by_cases hirq : irq' = irq
    · rw [hirq, update_self] at hs
      exact absurd rfl hs
    · rw [table, update_of_ne hirq]
      refine q.slot irq' hi fun e => hs ?_
      rw [update_apply]
      split
      · rfl
      · exact e
  · rw [masked]
    by_cases hirq : irq' = irq
    · rw [hirq, update_self]
    · rw [table, update_of_ne hirq] at e
      rw [update_of_ne hirq]
      exact q.masked irq' hi e
  · unfold Available
    rw [table]
    by_cases hirq : irq' = irq
    · exact .inl (by rw [hirq, update_self])
    · rwa [update_of_ne hirq]

/-! ## Deletion -/

/-- Another slot has the same handler. -/
lemma Inv.other_handler (i : Inv pf cs) {slot irq} (hc : cs.cap slot = .irqHandler irq)
    (hf : cs.isFinalCapability slot = false) : ∃ t, t ≠ slot ∧ cs.cap t = .irqHandler irq := by
  have hk : objectOf (cs.cap slot) = some (.irqHandler irq) := by
    rw [hc]
    rfl
  by_contra hno
  push Not at hno
  have hfinal := (isFinalCapability_iff i.linked (i.contiguous (.irqHandler irq) fun e => nomatch e) hk).mpr
    fun t ht e => hno t ht ?_
  · rw [hf] at hfinal
    cases hfinal
  · cases hct : cs.cap t with
    | irqHandler irq' =>
      rw [hct] at e
      cases e
      rfl
    | arch a =>
      rw [hct] at e
      cases a <;> cases e
    | _ =>
      rw [hct] at e
      cases e

lemma tableOf_irqHandler {c : Cap} {type ptr} (h : tableOf c = some (type, ptr)) (irq : Nat) : c ≠ .irqHandler irq := by
  rintro rfl
  cases h

/-- A step of a deletion keeps handlers and interrupts in agreement. -/
lemma Inv.carries_deleteStep (i : Inv pf cs) (h : DeleteStep pf cs cs') : Carries pf cs cs' := by
  cases h with
  | remove hr =>
    obtain ⟨_, _, hfin, _⟩ := hr
    cases hfin with
    | plain _ hirq => exact (KeepsIrqs.emptySlot fun irq e => i.other_handler e (hirq irq e)).carries
    | table ht _ => exact (KeepsIrqs.emptySlot fun irq e => absurd e (tableOf_irqHandler ht irq)).carries
    | handler hc hf hdel => exact carries_deletedIRQHandler i hc hf hdel
  | @zombify slot type ptr ht _ =>
    refine (KeepsIrqs.setCap ?_ fun irq e => absurd e (tableOf_irqHandler ht irq)).carries
    intro e
    rw [e] at ht
    cases ht
  | @swap slot type n ptr hc hn hne =>
    have hcont : Contains (cs.cap slot) ptr := by
      rw [hc]
      exact ⟨0, hn, by simp [slotAt, capPtr]⟩
    unfold capSwapForDelete
    rw [if_neg hne]
    refine (KeepsIrqs.cteSwap hne (.refl _) (.refl _) fun irq hi => ⟨?_, ?_⟩).carries
    · exact (i.tables.ne_irqSlot i.memory.wellFormed hcont hi).symm
    · rintro rfl
      have := i.tables.irqSlot irq hi (by simp [hc])
      rw [hc] at this
      cases this
  | shrink hc =>
    refine (KeepsIrqs.setCap ?_ fun irq e => ?_).carries
    · rw [hc]
      intro e
      cases e
    · rw [hc] at e
      cases e
  | tick => exact fun q => ⟨⟨q.handled, q.slot, q.masked⟩, fun _ ha => ha⟩

lemma Inv.carries_deleteSteps (i : Inv pf cs) (h : DeleteSteps pf cs cs') : Carries pf cs cs' := by
  induction h with
  | refl => exact .refl _
  | tail hs h ih => exact ih.trans ((i.deleteSteps hs).carries_deleteStep h)

/-! ## Invocations -/

lemma Inv.ne_irqSlot_of_inCNode (i : Inv pf cs) {s} (h : cs.InCNode s) (irq) (hi : irq < pf.numIRQs) :
    s ≠ pf.irqSlot irq :=
  i.ne_irqSlot h.contains hi

lemma Inv.carries_copy (i : Inv pf cs) {op src dest cap} (hdec : cs.decodeCopy op src dest = .ok cap)
    (hdest : cs.InCNode dest) (he : cs.invokeCNodeCopy op cap src dest = .ok cs') : Carries pf cs cs' := by
  obtain ⟨-, hs, hnew, hn⟩ := decodeCopy_ok hdec
  have hd := i.ne_irqSlot_of_inCNode hdest
  cases op with
  | copy rights | mint rights data => exact (KeepsIrqs.cteInsert hs hd he).carries
  | move =>
    cases hnew
    exact (KeepsIrqs.cteMove (.refl _) hd he).carries
  | mutate data =>
    cases hnew
    exact (KeepsIrqs.cteMove (similar_updateCapData hn) hd he).carries

lemma Inv.carries_rotate (i : Inv pf cs) {srcData pivotData src pivot dest caps}
    (hdec : cs.decodeRotate srcData pivotData src pivot dest = .ok caps) (hsrc : cs.InCNode src)
    (hpivot : cs.InCNode pivot) (hdest : cs.InCNode dest)
    (he : cs.invokeCNodeRotate caps.1 caps.2 src pivot dest = .ok cs') : Carries pf cs cs' := by
  obtain ⟨⟨hps, hpd⟩, -, -, sim1, sim2⟩ := decodeRotate_ok hdec
  have hp := i.ne_irqSlot_of_inCNode hpivot
  unfold CSpace.invokeCNodeRotate at he
  by_cases e : src = dest
  · rw [if_pos e] at he
    cases he
    exact (KeepsIrqs.cteSwap hps.symm sim1 sim2 fun irq hi =>
      ⟨(i.ne_irqSlot_of_inCNode hsrc irq hi).symm, (hp irq hi).symm⟩).carries
  · rw [if_neg e] at he
    obtain ⟨cs1, h1, h2⟩ := bind_eq_ok.mp he
    have first : KeepsIrqs pf cs cs1 := .cteMove sim2 (i.ne_irqSlot_of_inCNode hdest) h1
    obtain ⟨-, -, hcap⟩ := cteMove_ok h1
    have hsrc1 : cs1.cap src = cs.cap src := by
      rw [hcap, update_of_ne hps.symm, update_of_ne e]
    exact (first.trans (.cteMove (by rwa [hsrc1]) hp h2)).carries

/-- A handler is issued. -/
lemma Inv.carries_invokeIRQControl (i : Inv pf cs) {irq src dest} (hact : cs.isIRQActive irq = false)
    (hdest : cs.InCNode dest) (he : cs.invokeIRQControl irq dest src = .ok cs') : Carries pf cs cs' := by
  obtain ⟨hnull, same, hcap⟩ := cteInsert_ok he
  have hinactive : cs.intStateIRQTable irq = .inactive := by
    simpa [isIRQActive] using hact
  have table : cs'.intStateIRQTable = update cs.intStateIRQTable irq .signal := same.table
  have masked : cs'.irqMasked = update cs.irqMasked irq false := same.masked
  have hcap' : cs'.cap = update cs.cap dest (.irqHandler irq) := by
    have hfull : ∀ c, markFull c (.irqHandler irq) = c := by
      intro c
      cases c <;> rfl
    rw [hcap, hfull]
    show update (update cs.cap src (cs.cap src)) dest _ = _
    rw [update_eq_self]
  have hdn : cs.cap dest = .null := hnull
  refine fun q => ⟨⟨fun irq' e => ?_, fun irq' hi hs => ?_, fun irq' hi e => ?_⟩, fun irq' ha => ?_⟩
  · by_cases hirq : irq' = irq
    · exact ⟨dest, by rw [hcap', update_self, hirq]⟩
    · rw [table, update_of_ne hirq] at e
      obtain ⟨s, hs⟩ := q.handled irq' e
      have hne : s ≠ dest := by
        rintro rfl
        rw [hs] at hdn
        cases hdn
      exact ⟨s, by rwa [hcap', update_of_ne hne]⟩
  · rw [hcap', update_of_ne (i.ne_irqSlot_of_inCNode hdest irq' hi).symm] at hs
    have hsig := q.slot irq' hi hs
    rw [table]
    by_cases hirq : irq' = irq
    · rw [hirq, update_self]
    · rwa [update_of_ne hirq]
  · have hirq : irq' ≠ irq := by
      rintro rfl
      rw [table, update_self] at e
      cases e
    rw [table, update_of_ne hirq] at e
    rw [masked, update_of_ne hirq]
    exact q.masked irq' hi e
  · unfold Available
    rw [table]
    by_cases hirq : irq' = irq
    · exact .inr (by rw [hirq, update_self])
    · rwa [update_of_ne hirq]

/-- The notification of an interrupt is replaced. -/
lemma Inv.carries_setIRQHandler (i : Inv pf cs) {irq handler src} (hh : cs.cap handler = .irqHandler irq)
    (hn : isNotification (cs.cap src) = true)
    (he : cs.setIRQHandler pf irq (cs.cap src) src = .ok cs') : Carries pf cs cs' := by
  obtain ⟨hsignal, hirq⟩ := i.tables.irqHandler handler irq hh
  obtain ⟨cs1, h1, h2⟩ := bind_eq_ok.mp he
  have first : KeepsIrqs pf cs cs1 := .cteDeleteOne h1
  obtain ⟨hnull, same, hcap⟩ := cteInsert_ok h2
  have hfull : markFull (cs1.cap src) (cs.cap src) = cs1.cap src := by
    cases hc : cs.cap src with
    | notification => cases cs1.cap src <;> rfl
    | _ =>
      rw [hc] at hn
      cases hn
  rw [hfull, update_eq_self] at hcap
  refine first.carries.trans fun q => ⟨⟨fun irq' e => ?_, fun irq' hi hs => ?_, fun irq' hi e => ?_⟩, fun irq' ha => ?_⟩
  · rw [same.table] at e
    obtain ⟨s, hs⟩ := q.handled irq' e
    have hne : s ≠ pf.irqSlot irq := by
      rintro rfl
      rw [hs] at hnull
      cases hnull
    exact ⟨s, by rwa [hcap, update_of_ne hne]⟩
  · rw [same.table]
    by_cases hne : pf.irqSlot irq' = pf.irqSlot irq
    · rw [slotAt_inj hne, first.table]
      exact hsignal
    · rw [hcap, update_of_ne hne] at hs
      exact q.slot irq' hi hs
  · rw [same.table] at e
    rw [same.masked]
    exact q.masked irq' hi e
  · unfold Available
    rwa [same.table]

/-- Ack, of an interrupt that is signalled. -/
lemma Inv.carries_ackIRQ (i : Inv pf cs) {irq handler} (gicV3 : Bool) (hh : cs.cap handler = .irqHandler irq) :
    Carries pf cs (cs.ackIRQ gicV3 irq) := by
  unfold CSpace.ackIRQ
  split
  · exact .refl _
  · refine carries_maskInterrupt fun _ => ?_
    rw [(i.tables.irqHandler handler irq hh).1]
    nofun

lemma carries_handleInterrupt (gicV3 : Bool) (irq : Nat) : Carries pf cs (cs.handleInterrupt pf gicV3 irq) := by
  have masks : Carries pf cs (cs.maskInterrupt true irq) := carries_maskInterrupt nofun
  unfold CSpace.handleInterrupt
  split
  · exact masks
  · split
    · split
      · exact .refl _
      · exact masks
    · exact .refl _
    · exact .refl _
    · exact .refl _
    · exact masks

/-- `createNewObjects`, as far as it has come. -/
lemma createNewObjects_keepsIrqs {t parent destCNode destOffset base userSize dev len}
    (hd : ∀ j, j < len → cs.cap (slotAt destCNode (destOffset + j)) = .null ∧
      ∀ irq, irq < pf.numIRQs → slotAt destCNode (destOffset + j) ≠ pf.irqSlot irq) (n : Nat) (hn : n ≤ len) :
    KeepsIrqs pf cs (createNewObjects t parent destCNode destOffset n base userSize dev cs) ∧
      ∀ j, n ≤ j → j < len →
        (createNewObjects t parent destCNode destOffset n base userSize dev cs).cap
          (slotAt destCNode (destOffset + j)) = .null := by
  induction n with
  | zero => exact ⟨.refl _, fun j _ hj => (hd j hj).1⟩
  | succ n ih =>
    obtain ⟨keeps, hnull⟩ := ih (by omega)
    unfold createNewObjects at keeps hnull ⊢
    rw [List.range_succ, List.foldl_append]
    simp only [List.foldl_cons, List.foldl_nil]
    generalize List.foldl _ cs (List.range n) = cs1 at keeps hnull ⊢
    generalize createObject t _ userSize dev = c
    obtain ⟨same, e⟩ := @insertNewCap_effect cs1 parent (slotAt destCNode (destOffset + n)) c
    refine ⟨keeps.trans (.update same e (fun irq h => ?_) fun _ => (hd n (by omega)).2), fun j hj hjl => ?_⟩
    · rw [hnull n le_rfl (by omega)] at h
      cases h
    · have hne : slotAt destCNode (destOffset + j) ≠ slotAt destCNode (destOffset + n) := by
        intro e
        have := slotAt_inj e
        omega
      rw [e, update_of_ne hne]
      exact hnull j (by omega) hjl

/-- Retyping keeps handlers and interrupts in agreement. -/
lemma Inv.carries_retype (i : Inv pf cs) {preempt slot nodeCap newType u offset window args}
    (h : cs.decodeUntypedInvocation slot newType u nodeCap offset window = .ok args)
    (hnode : ∃ t, cs.cap t = nodeCap) : Carries pf cs (invokeUntypedRetype preempt slot args cs).2 := by
  obtain ⟨freeIndex, dev, size, ptr, hc, acc⟩ := decodeUntypedInvocation_ok (i.memory.wellFormed slot) h
  have hdest : ∀ j, j < args.destLength → cs.cap (slotAt args.destCNode (args.destOffset + j)) = .null ∧
      ∀ irq, irq < pf.numIRQs → slotAt args.destCNode (args.destOffset + j) ≠ pf.irqSlot irq := by
    intro j hj
    obtain ⟨hcont, hnull⟩ := acc.dest j hj
    obtain ⟨t, rfl⟩ := hnode
    exact ⟨hnull, fun irq hi => i.ne_irqSlot ⟨t, hcont⟩ hi⟩
  -- whether it has been reset or not, only the mark of the untyped capability has changed
  have marked : ∀ cs1 : CSpace, SameIrqs cs cs1 →
    (∃ fi, cs1.cap = update cs.cap slot (.untyped fi dev size ptr)) → KeepsIrqs pf cs cs1 := by
    rintro cs1 same ⟨fi, e⟩
    refine .update same e (fun irq h => ?_) fun h => ?_
    · rw [hc] at h
      cases h
    · rw [hc] at h
      cases h
  have create : ∀ cs1 : CSpace, SameIrqs cs cs1 →
    (∃ fi, cs1.cap = update cs.cap slot (.untyped fi dev size ptr)) →
      KeepsIrqs pf cs (createNewObjects args.newType slot args.destCNode args.destOffset args.destLength
        args.retypeBase args.userSize args.deviceMemory cs1) := by
    intro cs1 same hcap
    refine (marked cs1 same hcap).trans (createNewObjects_keepsIrqs (fun j hj => ?_) _ le_rfl).1
    obtain ⟨fi, e⟩ := hcap
    obtain ⟨hnull, hne⟩ := hdest j hj
    refine ⟨?_, hne⟩
    have hslot : slotAt args.destCNode (args.destOffset + j) ≠ slot := by
      intro e
      rw [e, hc] at hnull
      cases hnull
    rwa [e, update_of_ne hslot]
  unfold invokeUntypedRetype
  cases hr : args.reset with
  | false =>
    simp only [Bool.false_eq_true, if_false, ne_eq, not_true_eq_false]
    refine (create _ ?_ ?_).carries
    · exact ⟨rfl, rfl⟩
    · rw [hc]
      exact ⟨_, rfl⟩
  | true =>
    obtain ⟨st, fi, work, -, -, e⟩ := resetUntypedCap_eq hc preempt i (acc.reset.symm.trans hr)
    simp only [if_true, e]
    cases st with
    | preempted =>
      refine (marked _ ?_ ?_).carries
      · exact ⟨rfl, rfl⟩
      · exact ⟨fi, rfl⟩
    | none =>
      simp only [ne_eq, not_true_eq_false, if_false]
      refine (create _ ?_ ?_).carries
      · exact ⟨rfl, rfl⟩
      · have hself : (cs.remark slot (.untyped fi dev size ptr) work).cap slot = .untyped fi dev size ptr :=
          setCap_cap_self cs slot _
        rw [hself]
        exact ⟨_, update_idem ..⟩

/-- A page becomes an ASID pool. -/
lemma Inv.carries_makePool (i : Inv pf cs) {parent dest asidBase freeIndex ptr}
    (hc : cs.cap parent = .untyped freeIndex false asidPoolBits ptr) (hno : cs.ensureNoChildren parent = .ok ())
    (hdest : cs.InCNode dest) (he : cs.performASIDControlInvocation ptr dest parent asidBase = .ok cs') :
    Carries pf cs cs' := by
  unfold CSpace.performASIDControlInvocation at he
  extract_lets cs1 cs2 at he
  have full : KeepsIrqs pf cs cs1 := by
    refine .setCap ?_ fun irq e => ?_
    · rw [hc]
      nofun
    · rw [hc] at e
      cases e
  have hself : cs1.cap parent ≠ .null := by
    show (cs.setCap parent _).cap parent ≠ .null
    rw [setCap_cap_self, hc]
    nofun
  have hnull : ∀ s, ptr ≤ s → s < ptr + 2 ^ asidPoolBits → cs1.cap s = .null := by
    intro s h1 h2
    have hs := null_of_resets hc i (resets_iff.mpr hno) s h1 h2
    have hne : s ≠ parent := by
      rintro rfl
      rw [hc] at hs
      cases hs
    show (cs.setCap parent _).cap s = .null
    rwa [setCap_cap_of_ne cs hne]
  have cleared : KeepsIrqs pf cs1 cs2 := .clearMemory hnull
  have hparent : cs2.cap parent ≠ .null := by
    show (if ptr ≤ parent ∧ parent < ptr + 2 ^ asidPoolBits then Cap.null else cs1.cap parent) ≠ .null
    split
    · rename_i h
      exact absurd (hnull parent h.1 h.2) hself
    · exact hself
  exact ((full.trans cleared).trans (.cteInsert hparent (i.ne_irqSlot_of_inCNode hdest) he)).carries

/-- A slot of a TCB, while there is a capability to it. -/
lemma Inv.ne_irqSlot_of_thread (i : Inv pf cs) {slot target} (hc : cs.cap slot = .thread target)
    (index : TcbCNodeIndex) (irq) (hi : irq < pf.numIRQs) : slotAt (tcbPtrCtePtr target) index.pos ≠
    pf.irqSlot irq := by
  refine i.ne_irqSlot ⟨slot, ?_⟩ hi
  rw [hc]
  exact ⟨index.pos, TcbCNodeIndex.pos_lt index, rfl⟩

lemma Inv.carries_installTCBCap (i : Inv pf cs) {preempt fuel target slot index newCap srcSlot updates r}
    (hd : Derivable ((index, newCap, srcSlot) :: updates) cs)
    (ho : Outside ((index, newCap, srcSlot) :: updates) target)
    (he : cs.installTCBCap pf preempt fuel target slot index newCap srcSlot = .ok r) : Carries pf cs r.2 := by
  obtain ⟨⟨e, cs1⟩, hdel, he⟩ := bind_eq_ok.mp he
  have deleted : Carries pf cs cs1 := i.carries_deleteSteps (cteDelete_steps hdel)
  have i1 := i.cteDelete hdel
  cases e with
  | preempted =>
    cases he
    exact deleted
  | none =>
    have hd1 := hd.cteDelete i hdel fun u hu hun => ho u hu hun index
    simp only [ne_eq, not_true_eq_false, if_false] at he
    split at he
    · rename_i hcond
      obtain ⟨-, hsame, htcb⟩ := hcond
      obtain ⟨cs2, hins, he⟩ := bind_eq_ok.mp he
      cases he
      have hsrc : cs1.cap srcSlot ≠ .null := by
        intro e
        have hcopy := hd1 _ List.mem_cons_self hsame
        rw [e] at hcopy
        cases hcopy
      exact deleted.trans (KeepsIrqs.cteInsert hsrc (i1.ne_irqSlot_of_thread (thread_of_sameObjectAs htcb) index)
        hins).carries
    · cases he
      exact deleted

lemma Inv.carries_invokeTCBThreadControlCaps (i : Inv pf cs) {preempt fuel target slot updates r}
    (hd : Derivable updates cs) (ho : Outside updates target)
    (he : cs.invokeTCBThreadControlCaps pf preempt fuel target slot updates = .ok r) : Carries pf cs r.2 := by
  induction updates generalizing cs with
  | nil =>
    cases he
    exact .refl _
  | cons u updates ih =>
    obtain ⟨⟨e, cs1⟩, h1, he⟩ := bind_eq_ok.mp he
    obtain ⟨i1, hd1⟩ := i.installTCBCap hd ho h1
    have first : Carries pf cs cs1 := i.carries_installTCBCap hd ho h1
    cases e with
    | preempted =>
      cases he
      exact first
    | none => exact first.trans (ih i1 (hd1 rfl) (fun u hu => ho u (List.mem_cons_of_mem _ hu)) he)

/-- Every system call, and every interrupt. -/
lemma Inv.carries_step (i : Inv pf cs) (h : Step pf cs cs') : Carries pf cs cs' := by
  cases h with
  | copy hdec _ hdest he => exact i.carries_copy hdec hdest he
  | rotate hdec hsrc hpivot hdest he => exact i.carries_rotate hdec hsrc hpivot hdest he
  | @transfer src _ _ _ _ hdest hder hn he =>
    have hs : cs.cap src ≠ .null := by
      intro e
      rw [e] at hder
      exact hn (Except.ok.inj hder).symm
    exact (KeepsIrqs.cteInsert hs (i.ne_irqSlot_of_inCNode hdest) he).carries
  | delete _ he => exact i.carries_deleteSteps (cteDelete_steps he)
  | revoke _ he => exact i.carries_deleteSteps (cteRevoke_steps he)
  | retype hdec => exact i.carries_retype hdec ⟨_, rfl⟩
  | irqControl _ _ hact _ hdest he => exact i.carries_invokeIRQControl hact hdest he
  | sgiSignal hs _ hdest he =>
    exact (KeepsIrqs.cteInsert (by rw [hs]; nofun) (i.ne_irqSlot_of_inCNode hdest) he).carries
  | setIRQHandler hh hn _ he => exact i.carries_setIRQHandler hh hn he
  | clearIRQHandler _ he => exact (KeepsIrqs.cteDeleteOne he).carries
  | ackIRQ hh => exact i.carries_ackIRQ _ hh
  | interrupt => exact carries_handleInterrupt _ _
  | virtualTimer h => exact carries_maskInterrupt fun _ => by rw [h]; nofun
  | threadControlCaps ht hu he =>
    exact i.carries_invokeTCBThreadControlCaps hu.derivable (fun u hm hn j => i.ne_tcbSlot (hu u hm hn).1 ht j) he
  | makePool hc hno _ hdest he => exact i.carries_makePool hc hno hdest he
  | @remap slot c harch h =>
    refine (KeepsIrqs.setCap (fun e => ?_) fun irq e => ?_).carries
    · rw [e] at harch
      cases harch
    · rw [e] at harch
      cases harch

/-! ## Booting -/

lemma setIRQStates_ne_signal {states irq} (hs : ∀ s ∈ states, s.1 ≠ .signal) (h : cs.intStateIRQTable irq ≠ .signal) :
    (cs.setIRQStates states).intStateIRQTable irq ≠ .signal := by
  induction states generalizing cs with
  | nil => exact h
  | cons s states ih =>
    refine @ih (cs.setIRQState s.1 s.2) (fun t ht => hs t (List.mem_cons_of_mem _ ht)) ?_
    show update cs.intStateIRQTable s.2 s.1 irq ≠ .signal
    rw [update_apply]
    split
    · exact hs s List.mem_cons_self
    · exact h

/-- What has been set is held back exactly when it is inactive. -/
lemma setIRQStates_masked {states irq}
    (h : (∃ s ∈ states, s.2 = irq) ∨ (cs.intStateIRQTable irq = .inactive → cs.irqMasked irq = true))
    (e : (cs.setIRQStates states).intStateIRQTable irq = .inactive) :
    (cs.setIRQStates states).irqMasked irq = true := by
  induction states generalizing cs with
  | nil => exact h.resolve_left nofun e
  | cons s states ih =>
    refine @ih (cs.setIRQState s.1 s.2) ?_ e
    by_cases hs : s.2 = irq
    · refine .inr fun e => ?_
      have e1 : update cs.intStateIRQTable s.2 s.1 irq = .inactive := e
      show update cs.irqMasked s.2 (decide (s.1 = .inactive)) irq = true
      rw [hs, update_self] at e1 ⊢
      exact decide_eq_true e1
    · rcases h with ⟨t, ht, et⟩ | h
      · rcases List.mem_cons.mp ht with rfl | ht
        · exact absurd et hs
        · exact .inl ⟨t, ht, et⟩
      · refine .inr fun e => ?_
        have e1 : update cs.intStateIRQTable s.2 s.1 irq = .inactive := e
        show update cs.irqMasked s.2 (decide (s.1 = .inactive)) irq = true
        rw [update_of_ne (Ne.symm hs)] at e1 ⊢
        exact h e1

lemma writeSlots_sameIrqs (cnode : Nat) (caps : List (Nat × Cap)) (cs : CSpace) :
    SameIrqs cs (cs.writeSlots cnode caps) := by
  induction caps generalizing cs with
  | nil => exact ⟨rfl, rfl⟩
  | cons c caps ih =>
    have h := ih (cs.writeSlot (slotAt cnode c.1) c.2)
    exact ⟨h.table, h.masked⟩

variable {b : BootInfo}

lemma irqStates_ne_signal : ∀ s ∈ b.irqStates pf, s.1 ≠ .signal := by
  intro s hs
  simp only [BootInfo.irqStates, List.mem_append, List.mem_map] at hs
  rcases hs with ((⟨_, -, rfl⟩ | ⟨_, -, rfl⟩) | ⟨_, -, rfl⟩) | ⟨_, -, rfl⟩ <;> nofun

lemma mem_irqStates {irq} (hi : irq < pf.numIRQs) : ∃ s ∈ b.irqStates pf, s.2 = irq := by
  refine ⟨(.inactive, irq), ?_, rfl⟩
  simp only [BootInfo.irqStates, List.mem_append, List.mem_map, List.mem_range]
  exact .inl (.inl (.inl ⟨irq, hi, rfl⟩))

/-- The initial capabilities are written, and no interrupt has a handler. -/
lemma Written.irqInv (v : b.Valid pf) (h : Written pf b.rootCNodeSizeBits b.cnode (b.initialCaps pf.numNodes) cs)
    (same : SameIrqs (CSpace.empty.setIRQStates (b.irqStates pf)) cs) : IrqInv pf cs := by
  refine ⟨fun irq e => ?_, fun irq hi hs => ?_, fun irq hi e => ?_⟩
  · rw [same.table] at e
    exact absurd e (setIRQStates_ne_signal irqStates_ne_signal nofun)
  · obtain ⟨c, hc, e⟩ := h.only _ hs
    have hcont : Contains (cs.cap (b.rootSlot .initThreadCNode)) (pf.irqSlot irq) := by
      rw [h.rootSlot, e]
      exact ⟨c.1, (initialCaps_writable v hc).pos_lt, rfl⟩
    exact absurd rfl (h.inv.ne_irqSlot ⟨_, hcont⟩ hi)
  · rw [same.table] at e
    rw [same.masked]
    exact setIRQStates_masked (.inl (mem_irqStates hi)) e

/-- A slot of the TCB of the initial thread is filled. -/
lemma Starting.keepsIrqs (v : b.Valid pf) {free s c i} (h : Starting pf b free cs)
    (he : cs.cteInsert c (b.rootSlot s) (b.tcbSlot i) = .ok cs') : KeepsIrqs pf cs cs' := by
  refine .cteInsert ?_ (fun irq hi => h.inv.ne_irqSlot ⟨b.rootSlot .initThreadTCB, ?_⟩ hi) he
  · rw [h.root]
    cases s <;> nofun
  · rw [h.root]
    exact contains_tcbSlot v i

lemma boot_irqInv (v : b.Valid pf) (hb : boot pf b = .ok cs) : IrqInv pf cs := by
  have written := written_initialCaps v (b.irqStates pf)
  obtain ⟨cs', e, -, keeps⟩ := createInitialThread_ok v (written.starting v) (P := KeepsIrqs pf _) (.refl _)
    fun h he keeps => keeps.trans (h.keepsIrqs v he)
  obtain rfl := Except.ok.inj (hb.symm.trans e)
  exact (keeps.carries (written.irqInv v (writeSlots_sameIrqs ..))).1

lemma Reachable.irqInv (h : Reachable pf cs) : IrqInv pf cs := by
  induction h with
  | boot v hb => exact boot_irqInv v hb
  | step hr h ih => exact (hr.inv.carries_step h ih).1

/-- The interrupts and their handlers. -/
structure IrqsHandled (pf : Platform) (cs : CSpace) : Prop where
  /-- An interrupt is signalled as long as it has a handler. -/
  handled_iff : ∀ irq, (∃ s, cs.cap s = .irqHandler irq) ↔ cs.intStateIRQTable irq = .signal
  /-- There is no second handler for it that does not come from the first one. -/
  refused : ∀ irq dest, (∃ s, cs.cap s = .irqHandler irq) → cs.decodeIRQControl pf irq dest = .error .revokeFirst
  /-- An interrupt without a handler has no notification. -/
  empty : ∀ irq, irq < pf.numIRQs → cs.intStateIRQTable irq ≠ .signal → cs.cap (pf.irqSlot irq) = .null
  masked : ∀ irq, irq < pf.numIRQs → cs.intStateIRQTable irq = .inactive → cs.irqMasked irq = true

lemma Inv.irqsHandled (i : Inv pf cs) (q : IrqInv pf cs) : IrqsHandled pf cs where
  handled_iff irq := by
    refine ⟨fun ⟨s, hs⟩ => (i.tables.irqHandler s irq hs).1, q.handled irq⟩
  refused irq dest h := by
    obtain ⟨s, hs⟩ := h
    obtain ⟨hsignal, hirq⟩ := i.tables.irqHandler s irq hs
    have hactive : cs.isIRQActive irq = true := by
      simp [isIRQActive, hsignal]
    unfold decodeIRQControl refuseIf
    rw [if_neg (not_le.mpr hirq), if_pos hactive]
    rfl
  empty irq hi h := by
    by_contra hne
    exact h (q.slot irq hi hne)
  masked := q.masked

/-- In every run the handlers and the states of the interrupts agree. When the last handler of an interrupt goes, in
whatever way, the interrupt is held back, inactive, and without a notification. -/
theorem reachable_irqs (h : Reachable pf cs) :
    IrqsHandled pf cs ∧
      ∀ cs', Step pf cs cs' → ∀ irq, (∃ s, cs.cap s = .irqHandler irq) → (∀ s, cs'.cap s ≠ .irqHandler irq) →
        cs'.intStateIRQTable irq = .inactive ∧ cs'.irqMasked irq = true ∧ cs'.cap (pf.irqSlot irq) = .null := by
  have q := h.irqInv
  refine ⟨h.inv.irqsHandled q, fun cs' hs irq ⟨s, hc⟩ hgone => ?_⟩
  obtain ⟨q', ha⟩ := h.inv.carries_step hs q
  have done := (h.inv.step hs).irqsHandled q'
  obtain ⟨hsignal, hirq⟩ := h.inv.tables.irqHandler s irq hc
  have hnot : cs'.intStateIRQTable irq ≠ .signal := by
    intro e
    obtain ⟨t, ht⟩ := (done.handled_iff irq).mpr e
    exact hgone t ht
  have hinactive := (ha irq (.inr hsignal)).resolve_right hnot
  exact ⟨hinactive, done.masked irq hirq hinactive, done.empty irq hirq hnot⟩

/-- IRQControl Get, when it is accepted. -/
def callIRQControl (pf : Platform) (irq : Nat) (dest src : Slot) (cs : CSpace) : CSpace :=
  match cs.decodeIRQControl pf irq dest, cs.invokeIRQControl irq dest src with
  | .ok (), .ok cs' => cs'
  | _, _ => cs

lemma Reachable.callIRQControl (h : Reachable pf cs) {irq dest src} (hs : cs.cap src = .irqControl)
    (hdest : cs.InCNode dest) : Reachable pf (cs.callIRQControl pf irq dest src) := by
  unfold CSpace.callIRQControl
  split
  · rename_i hdec he
    unfold decodeIRQControl at hdec
    rw [refuseIf_bind, refuseIf_bind] at hdec
    obtain ⟨hirq, hact, hempty⟩ := hdec
    have hnull : cs.cap dest = .null := by
      by_contra hne
      unfold ensureEmptySlot refuseIf at hempty
      rw [if_pos hne] at hempty
      cases hempty
    exact h.step (.irqControl hs (not_le.mp hirq) (Bool.not_eq_true _ ▸ hact) hnull hdest he)
  · exact h

/-- A handler for an interrupt. -/
def oneHandler : CSpace :=
  (bootState (armVirt 1) armVirtBoot).callIRQControl (armVirt 1) 40 newSlot (armVirtBoot.rootSlot .irqControl)

lemma reachable_oneHandler : Reachable (armVirt 1) oneHandler := by
  have hc : (bootState (armVirt 1) armVirtBoot).cap (armVirtBoot.rootSlot .initThreadCNode) =
      armVirtBoot.rootCNodeCap := by
    decide +kernel
  exact reachable_armVirt.callIRQControl (by decide +kernel) (inCNode_slotAt hc (by decide))

/-- Interrupt 40 has a handler, interrupt 41 has none. -/
theorem reachable_irqs_oneHandler :
    oneHandler.cap newSlot = .irqHandler 40 ∧ oneHandler.intStateIRQTable 40 = .signal ∧
      oneHandler.intStateIRQTable 41 ≠ .signal := by
  have hc : oneHandler.cap newSlot = .irqHandler 40 := by
    decide +kernel
  have handled := (reachable_irqs reachable_oneHandler).1.handled_iff
  exact ⟨hc, (handled 40).mp ⟨_, hc⟩, by decide +kernel⟩

end NexsKernel.CSpace
