import NexsKernel.CSpace.Lineage
import NexsKernel.CSpace.Delete

/-!
# Tables of slots

Where the capabilities are. Every slot in use is a slot of the interrupts or belongs to a CNode or a TCB
that some capability names, or to what a zombie has not cleared yet. So when no capability to an object is
left, there is nothing in its memory, and memory can be used again.
-/

namespace NexsKernel.CSpace

open Links

/-- A notification capability. -/
def isNotification : Cap → Bool
  | .notification .. => true
  | _ => false

/-- A slot of the interrupts, or of a table that some capability still has. -/
def Located (pf : Platform) (cs : CSpace) (s : Slot) : Prop :=
  (∃ irq < pf.numIRQs, s = pf.irqSlot irq) ∨ ∃ t, Contains (cs.cap t) s

/-- Slots in use are located, and the slots of the interrupts are apart. -/
structure TablesInv (pf : Platform) (cs : CSpace) : Prop where
  finite : {s | cs.cap s ≠ .null}.Finite
  located : ∀ s, cs.cap s ≠ .null → cs.Located pf s
  irqHandler : ∀ s irq, cs.cap s = .irqHandler irq → cs.intStateIRQTable irq = .signal ∧ irq < pf.numIRQs
  irqSlot : ∀ irq, irq < pf.numIRQs → cs.cap (pf.irqSlot irq) ≠ .null →
    isNotification (cs.cap (pf.irqSlot irq)) = true
  outside : ∀ s irq, irq < pf.numIRQs → capIsPhysical (cs.cap s) = true →
    capPtr (cs.cap s) ≤ pf.irqSlot irq → regionEnd (cs.cap s) ≤ pf.irqSlot irq

variable {pf : Platform} {cs : CSpace}

/-- The slots of an object are not slots of the interrupts. -/
lemma TablesInv.ne_irqSlot (ti : cs.TablesInv pf) (hw : ∀ s, WellFormed (cs.cap s)) {s t irq}
    (h : Contains (cs.cap t) s) (hirq : irq < pf.numIRQs) : s ≠ pf.irqSlot irq := by
  rintro rfl
  obtain ⟨hp, hle, hlt⟩ := h.mem_region (hw t)
  exact absurd (ti.outside t irq hirq hp hle) (not_le.mpr hlt)

/-- A capability that fits keeps what is known of the objects. -/
lemma TablesInv.insert (ti : cs.TablesInv pf) {src dest c rev} (hd : cs.cap dest = .null)
    (hl : cs.Located pf dest) (hin : capIsPhysical c = true → Inside (cs.cap src) c)
    (hphys : capIsPhysical c = true → capIsPhysical (cs.cap src) = true)
    (hhandler : ∀ irq, c = .irqHandler irq → cs.intStateIRQTable irq = .signal ∧ irq < pf.numIRQs)
    (hirq : ∀ irq, irq < pf.numIRQs → dest = pf.irqSlot irq → isNotification c = true) :
    (cs.insert src dest c rev).TablesInv pf := by
  have hloc : ∀ s, cs.Located pf s → (cs.insert src dest c rev).Located pf s := by
    rintro s (h | ⟨t, h⟩)
    · exact .inl h
    · have ht : t ≠ dest := by
        rintro rfl
        exact h.ne_null hd
      refine .inr ⟨t, ?_⟩
      rwa [insert_cap_of_ne cs ht]
  refine ⟨?_, fun s h => hloc s ?_, fun s irq e => ?_, fun irq hi h => ?_, fun s irq hi hp hle => ?_⟩
  · refine (ti.finite.insert dest).subset fun s h => ?_
    by_cases e : s = dest
    · exact .inl e
    · refine .inr ?_
      change (cs.insert src dest c rev).cap s ≠ .null at h
      rwa [insert_cap_of_ne cs e] at h
  · by_cases e : s = dest
    · rwa [e]
    · rw [insert_cap_of_ne cs e] at h
      exact ti.located s h
  · by_cases es : s = dest
    · rw [es, insert_cap_self] at e
      exact hhandler irq e
    · rw [insert_cap_of_ne cs es] at e
      exact ti.irqHandler s irq e
  · by_cases e : pf.irqSlot irq = dest
    · rw [e, insert_cap_self]
      exact hirq irq hi e.symm
    · rw [insert_cap_of_ne cs e] at h ⊢
      exact ti.irqSlot irq hi h
  · by_cases e : s = dest
    · rw [e, insert_cap_self] at hp hle ⊢
      exact (hin hp).end_le.trans (ti.outside src irq hi (hphys hp) ((hin hp).le.trans hle))
    · rw [insert_cap_of_ne cs e] at hp hle ⊢
      exact ti.outside s irq hi hp hle

/-- A capability may be erased when the slots it gives access to are empty or belong to another one. -/
lemma TablesInv.erase (ti : cs.TablesInv pf) {slot}
    (hl : ∀ t, t ≠ slot → cs.cap t ≠ .null → Contains (cs.cap slot) t →
      ∃ u, u ≠ slot ∧ Contains (cs.cap u) t) : (cs.erase slot).TablesInv pf := by
  have hne : ∀ {s}, (cs.erase slot).cap s ≠ .null → s ≠ slot := by
    rintro s h rfl
    exact h (erase_cap_self cs s)
  refine ⟨ti.finite.subset fun s h => ?_, fun s h => ?_, fun s irq e => ?_, fun irq hi h => ?_,
    fun s irq hi hp hle => ?_⟩
  · have hs := hne h
    change (cs.erase slot).cap s ≠ .null at h
    rwa [erase_cap_of_ne cs hs] at h
  · have hs := hne h
    rw [erase_cap_of_ne cs hs] at h
    rcases ti.located s h with h' | ⟨t, ht⟩
    · exact .inl h'
    · by_cases e : t = slot
      · subst e
        obtain ⟨u, hu, huc⟩ := hl s hs h ht
        refine .inr ⟨u, ?_⟩
        rwa [erase_cap_of_ne cs hu]
      · refine .inr ⟨t, ?_⟩
        rwa [erase_cap_of_ne cs e]
  · have hs : s ≠ slot := hne (e ▸ nofun)
    rw [erase_cap_of_ne cs hs] at e
    exact ti.irqHandler s irq e
  · have hs := hne h
    rw [erase_cap_of_ne cs hs] at h ⊢
    exact ti.irqSlot irq hi h
  · have hs : s ≠ slot := by
      rintro rfl
      rw [erase_cap_self] at hp
      cases hp
    rw [erase_cap_of_ne cs hs] at hp hle ⊢
    exact ti.outside s irq hi hp hle

/-- Two located slots that are not slots of the interrupts change places. -/
lemma TablesInv.exchange (ti : cs.TablesInv pf) {a b} (ha : cs.Located pf a) (hb : cs.Located pf b)
    (hirq : ∀ irq, irq < pf.numIRQs → pf.irqSlot irq ≠ a ∧ pf.irqSlot irq ≠ b) :
    (cs.exchange a b).TablesInv pf := by
  have hloc : ∀ s, cs.Located pf s → (cs.exchange a b).Located pf s := by
    rintro s (h | ⟨t, h⟩)
    · exact .inl h
    · refine .inr ⟨Equiv.swap a b t, ?_⟩
      rwa [exchange_cap, Equiv.swap_apply_self]
  refine ⟨?_, fun s h => hloc s ?_, fun s irq e => ti.irqHandler _ irq e, fun irq hi h => ?_,
    fun s irq hi hp hle => ti.outside _ irq hi hp hle⟩
  · exact ti.finite.preimage (Equiv.swap a b).injective.injOn
  · by_cases ea : s = a
    · rwa [ea]
    by_cases eb : s = b
    · rwa [eb]
    · rw [exchange_cap, Equiv.swap_apply_of_ne_of_ne ea eb] at h
      exact ti.located s h
  · rw [exchange_cap, Equiv.swap_apply_of_ne_of_ne (hirq irq hi).1 (hirq irq hi).2] at h ⊢
    exact ti.irqSlot irq hi h

/-- A change in place keeps the region and the slots that are in use. -/
lemma TablesInv.setCap (ti : cs.TablesInv pf) {slot c} (hs : cs.cap slot ≠ .null)
    (hr : SameRegion (cs.cap slot) c)
    (hl : ∀ t, cs.cap t ≠ .null → Contains (cs.cap slot) t → Contains c t)
    (hhandler : ∀ irq, c = .irqHandler irq → cs.cap slot = .irqHandler irq)
    (hirq : isNotification (cs.cap slot) = true → isNotification c = true) :
    (cs.setCap slot c).TablesInv pf := by
  have hnull : ∀ {s}, (cs.setCap slot c).cap s ≠ .null → cs.cap s ≠ .null := by
    intro s h
    by_cases e : s = slot
    · rwa [e]
    · rwa [setCap_cap_of_ne cs e] at h
  refine ⟨ti.finite.subset fun s h => hnull h, fun s h => ?_, fun s irq e => ?_, fun irq hi h => ?_,
    fun s irq hi hp hle => ?_⟩
  · rcases ti.located s (hnull h) with h' | ⟨t, ht⟩
    · exact .inl h'
    · refine .inr ⟨t, ?_⟩
      by_cases e : t = slot
      · subst e
        rw [setCap_cap_self]
        exact hl s (hnull h) ht
      · rwa [setCap_cap_of_ne cs e]
  · by_cases es : s = slot
    · rw [es, setCap_cap_self] at e
      exact ti.irqHandler slot irq (hhandler irq e)
    · rw [setCap_cap_of_ne cs es] at e
      exact ti.irqHandler s irq e
  · have h' := ti.irqSlot irq hi (hnull h)
    by_cases e : pf.irqSlot irq = slot
    · rw [e] at h' ⊢
      rw [setCap_cap_self]
      exact hirq h'
    · rwa [setCap_cap_of_ne cs e]
  · by_cases e : s = slot
    · subst e
      rw [setCap_cap_self, ← hr.ptr] at hle
      rw [setCap_cap_self, ← hr.phys] at hp
      rw [setCap_cap_self, ← hr.regionEnd]
      exact ti.outside s irq hi hp hle
    · rw [setCap_cap_of_ne cs e] at hp hle ⊢
      exact ti.outside s irq hi hp hle

end NexsKernel.CSpace
