import NexsKernel.CSpace.Steps

/-!
# Deletion keeps the invariant

Each step of a deletion keeps the invariant of the CSpace, so every call of `cteDelete` and `cteRevoke`
does, preempted or not. That a capability is the last one to its object is what `isFinalCapability` finds
out from its neighbours (`unique_of_isFinalCapability`).
-/

namespace NexsKernel.CSpace

open Links

variable {pf : Platform} {preempt : Nat → Bool} {cs cs' : CSpace}

namespace Inv

/-- The interrupt state and the preemption points passed do not matter, as long as every handler belongs to
an interrupt that is signalled. -/
lemma withIrq (i : Inv pf cs) (table : Nat → IRQState) (masked : Nat → Bool) (work : Nat)
    (hsignal : ∀ s irq, cs.cap s = .irqHandler irq → table irq = .signal) :
    Inv pf { cs with intStateIRQTable := table, irqMasked := masked, ksWorkUnitsCompleted := work } where
  linked := ⟨i.linked.coherent, i.linked.null⟩
  memory := by
    refine ⟨i.memory.wellFormed, i.memory.revocable, fun s t hst hu ho => ?_, i.memory.exclusive⟩
    exact (i.memory.covers s t hst hu ho).imp (fun h => ⟨h.run, h.end_le⟩)
      fun h => ⟨h.1, h.2.run, h.2.end_le⟩
  contiguous := i.contiguous
  lineage :=
    ⟨i.lineage.ne_nil, i.lineage.inj, i.lineage.old,
      fun s t d => i.lineage.run s t ⟨d.ne_nil, d.suffix, d.ne⟩⟩
  tables :=
    ⟨i.tables.finite, i.tables.located,
      fun s irq e => ⟨hsignal s irq e, (i.tables.irqHandler s irq e).2⟩, i.tables.irqSlot, i.tables.outside⟩

lemma tick (i : Inv pf cs) : Inv pf cs.tick :=
  i.withIrq cs.intStateIRQTable cs.irqMasked _ fun s irq e => (i.tables.irqHandler s irq e).1

end Inv

lemma capSwapForDelete_eq (w : cs.WellLinked) {slot1 slot2} (hne : slot1 ≠ slot2) :
    cs.capSwapForDelete slot1 slot2 = cs.exchange slot1 slot2 := by
  rw [capSwapForDelete, if_neg hne, cteSwap_eq cs w _ _ hne]
  have h1 : (cs.exchange slot1 slot2).cap slot1 = cs.cap slot2 := by
    rw [exchange_cap, Equiv.swap_apply_left]
  have h2 : (cs.exchange slot1 slot2).cap slot2 = cs.cap slot1 := by
    rw [exchange_cap, Equiv.swap_apply_right]
  rw [← h1, setCap_same, ← h2, setCap_same]

/-- A capability that is final is the only one to its object. -/
lemma unique_of_isFinalCapability (i : Inv pf cs) {slot k} (hk : objectOf (cs.cap slot) = some k)
    (hcore : k ≠ .schedControl 0) (hf : cs.isFinalCapability slot = true) (t) (ht : t ≠ slot) :
    objectOf (cs.cap t) ≠ objectOf (cs.cap slot) := by
  rw [hk]
  exact (isFinalCapability_iff i.linked (i.contiguous k fun e => absurd e hcore) hk).mp hf t ht

/-- The object of a CNode or TCB capability. -/
lemma objectOf_of_tableOf {c : Cap} {type ptr} (h : tableOf c = some (type, ptr))
    (hz : isZombie c = false) : ∃ k, objectOf c = some k ∧ k ≠ .schedControl 0 := by
  rcases tableOf_cases h with ⟨_, _, _, rfl, rfl⟩ | ⟨_, rfl, rfl, rfl⟩ | ⟨_, rfl⟩
  · exact ⟨_, rfl, nofun⟩
  · exact ⟨_, rfl, nofun⟩
  · cases hz

lemma slotCount_of_tableOf_none {c : Cap} (h : tableOf c = none) : slotCount c = 0 := by
  cases c <;> first | rfl | cases h

lemma capPtr_of_tableOf {c : Cap} {type ptr} (h : tableOf c = some (type, ptr)) : capPtr c = ptr := by
  rcases tableOf_cases h with ⟨_, _, _, rfl, rfl⟩ | ⟨_, rfl, rfl, rfl⟩ | ⟨_, rfl⟩ <;> rfl

/-- `cteDeleteOne` empties the slot. -/
lemma cteDeleteOne_cases {slot} (h : cs.cteDeleteOne slot = .ok cs') :
    cs.cap slot = .null ∧ cs' = cs ∨
      cs.cap slot ≠ .null ∧ slotCount (cs.cap slot) = 0 ∧ cs' = cs.emptySlot slot .null := by
  unfold cteDeleteOne at h
  split at h
  · rename_i hnull
    cases h
    exact .inl ⟨hnull, rfl⟩
  · rename_i hnull
    obtain ⟨fc, hfc, h⟩ := bind_eq_ok.mp h
    obtain ⟨b, _, h⟩ := bind_eq_ok.mp h
    obtain ⟨_, _, h⟩ := bind_eq_ok.mp h
    cases h
    refine .inr ⟨hnull, ?_, rfl⟩
    cases hc : cs.cap slot <;> rw [hc] at hfc <;> first | rfl | cases hfc

namespace Inv

/-- Emptying a slot without cleaning up. -/
lemma emptySlot (i : Inv pf cs) {slot}
    (hl : ∀ t, t ≠ slot → cs.cap t ≠ .null → Contains (cs.cap slot) t →
      ∃ u, u ≠ slot ∧ Contains (cs.cap u) t) : Inv pf (cs.emptySlot slot .null) := by
  by_cases hnull : cs.cap slot = .null
  · rw [emptySlot_null hnull]
    exact i
  · rw [emptySlot_eq cs i.linked .null hnull]
    exact i.erase hl

private lemma not_contains {slot t} (h : slotCount (cs.cap slot) = 0) : ¬ Contains (cs.cap slot) t := by
  rintro ⟨n, hn, -⟩
  rw [h] at hn
  exact Nat.not_lt_zero n hn

lemma cteDeleteOne (i : Inv pf cs) {slot} (h : cs.cteDeleteOne slot = .ok cs') : Inv pf cs' := by
  rcases cteDeleteOne_cases h with ⟨-, rfl⟩ | ⟨-, hcount, rfl⟩
  · exact i
  · exact i.emptySlot fun t _ _ hc => absurd hc (not_contains hcount)

/-- Removing a capability that leaves nothing behind. -/
lemma remove (i : Inv pf cs) {slot info} (h : Removable pf cs slot info cs') :
    Inv pf (cs'.emptySlot slot info) := by
  obtain ⟨rem, hnull, hfin, hrem⟩ := h
  cases hfin with
  | plain htab _ =>
    refine i.emptySlot fun t _ _ hc => ?_
    cases ht : tableOf (cs.cap slot) with
    | none => exact absurd hc (not_contains (slotCount_of_tableOf_none ht))
    | some tp =>
      -- another capability to the object has the same slots
      rw [ht] at htab
      obtain ⟨hz, hf⟩ := htab.resolve_left nofun
      obtain ⟨k, hk, hcore⟩ := objectOf_of_tableOf ht hz
      have hother : ¬ ∀ u, u ≠ slot → objectOf (cs.cap u) ≠ some k := by
        intro hall
        rw [(isFinalCapability_iff i.linked (i.contiguous k fun e => absurd e hcore) hk).mpr hall] at hf
        cases hf
      push Not at hother
      obtain ⟨u, hu, huk⟩ := hother
      have hsome : objectOf (cs.cap slot) ≠ none := by
        rw [hk]
        nofun
      have hsame : objectOf (cs.cap slot) = objectOf (cs.cap u) := hk.trans huk.symm
      obtain ⟨n, hn, rfl⟩ := hc
      refine ⟨u, hu, n, ?_, ?_⟩
      · rwa [← (table_of_objectOf hsame hsome).2]
      · rw [(sameRegion_of_objectOf hsame hsome).ptr]
  | table ht _ =>
    refine i.emptySlot fun t hts _ hc => ?_
    -- there is no other slot
    obtain ⟨n, hn, rfl⟩ := hc
    have hcount := (capRemovable_zombie hrem).mp rfl
    rw [capPtr_of_tableOf ht] at hts ⊢
    exfalso
    rcases hcount with h0 | ⟨h1, rfl⟩
    · rw [h0] at hn
      exact Nat.not_lt_zero n hn
    · rw [h1] at hn
      obtain rfl : n = 0 := Nat.lt_one_iff.mp hn
      exact hts (by simp [slotAt])
  | @handler irq cs1 hc hf hdel =>
    have huniq := unique_of_isFinalCapability i (k := .irqHandler irq) (by rw [hc]; rfl) nofun hf
    have i1 := i.cteDeleteOne hdel
    -- the slot of the interrupt holds a notification
    have hslot : slot ≠ pf.irqSlot irq := by
      rintro rfl
      have := i.tables.irqSlot irq (i.tables.irqHandler _ irq hc).2 hnull
      rw [hc] at this
      cases this
    have hcap : ∀ t, cs'.cap t = cs.cap t ∨ cs'.cap t = .null := by
      intro t
      rcases cteDeleteOne_cases hdel with ⟨-, rfl⟩ | ⟨hn, -, rfl⟩
      · exact .inl rfl
      · rw [emptySlot_eq cs i.linked .null hn]
        by_cases e : t = pf.irqSlot irq
        · exact .inr (by rw [e]; exact erase_cap_self cs _)
        · exact .inl (erase_cap_of_ne cs e)
    have hcs : cs'.cap slot = .irqHandler irq := by
      rcases cteDeleteOne_cases hdel with ⟨-, rfl⟩ | ⟨hn, -, rfl⟩
      · exact hc
      · rw [emptySlot_eq cs i.linked .null hn]
        exact (erase_cap_of_ne cs hslot).trans hc
    have hne : cs'.cap slot ≠ .null := by
      rw [hcs]
      nofun
    rw [emptySlot_eq cs' i1.linked _ hne]
    have hcount : slotCount (cs'.cap slot) = 0 := by
      rw [hcs]
      rfl
    have i2 : Inv pf (cs'.erase slot) := i1.erase fun t _ _ hc => absurd hc (not_contains hcount)
    refine i2.withIrq _ _ _ fun s irq' e => ?_
    have hs : s ≠ slot := by
      rintro rfl
      rw [erase_cap_self] at e
      cases e
    rw [erase_cap_of_ne _ hs] at e
    have hirq : irq' ≠ irq := by
      rintro rfl
      rcases hcap s with h | h
      · exact huniq s hs (by rw [← h, e, hc])
      · rw [h] at e
        cases e
    change Function.update cs'.intStateIRQTable irq .inactive irq' = .signal
    rw [Function.update_of_ne hirq]
    exact (i1.tables.irqHandler s irq' e).1

lemma deleteStep (i : Inv pf cs) (h : DeleteStep pf cs cs') : Inv pf cs' := by
  cases h with
  | remove hr => exact i.remove hr
  | zombify ht hz =>
    refine i.zombify ht ?_
    cases hzom : isZombie (cs.cap _) with
    | true => exact .inl rfl
    | false =>
      obtain ⟨k, hk, hcore⟩ := objectOf_of_tableOf ht hzom
      exact .inr (unique_of_isFinalCapability i hk hcore (hz.resolve_left (by rw [hzom]; nofun)))
  | @swap slot type n ptr hc hn hne =>
    rw [capSwapForDelete_eq i.linked hne]
    have hcont : Contains (cs.cap slot) ptr := by
      rw [hc]
      exact ⟨0, hn, by simp [slotAt, capPtr]⟩
    refine i.exchange (.inr ⟨slot, hcont⟩) (i.tables.located slot (by rw [hc]; nofun)) fun irq hi => ⟨?_, ?_⟩
    · exact (i.tables.ne_irqSlot i.memory.wellFormed hcont hi).symm
    · rintro rfl
      have := i.tables.irqSlot irq hi (by rw [hc]; nofun)
      rw [hc] at this
      cases this
  | shrink hc hn hnull => exact i.shrink hc hn hnull
  | tick => exact i.tick

lemma deleteSteps (i : Inv pf cs) (h : DeleteSteps pf cs cs') : Inv pf cs' := by
  induction h with
  | refl => exact i
  | tail _ h ih => exact ih.deleteStep h

lemma cteDelete (i : Inv pf cs) {fuel slot exposed r}
    (h : cteDelete pf preempt fuel slot exposed cs = .ok r) : Inv pf r.2 :=
  i.deleteSteps (cteDelete_steps h)

lemma cteRevoke (i : Inv pf cs) {fuel slot r} (h : cteRevoke pf preempt fuel slot cs = .ok r) :
    Inv pf r.2 :=
  i.deleteSteps (cteRevoke_steps h)

end Inv

end NexsKernel.CSpace
