import NexsKernel.CSpace.Derive

/-!
# Memory

How the mapping database describes memory. `MemoryInv` says that capabilities to overlapping regions are
untyped capabilities that cover each other in the database, or capabilities to one object; `Contiguous`
says that the capabilities to one object stand next to each other.

Each operation of the mapping database keeps both. For an insertion the new capability has to fit behind
its source, which is what `Fits` collects.
-/

namespace NexsKernel.CSpace

open Links

variable (cs : CSpace)

/-- The capability in `t` lies in the used part of the untyped capability in `u`, and comes behind it
together with other such capabilities only. -/
structure Covers (u t : Slot) : Prop where
  run : Run cs.mdbNext (fun x => Inside (cs.cap u) (cs.cap x)) u t
  end_le : regionEnd (cs.cap t) ≤ freeRef (cs.cap u)

/-- The capabilities to the object `k` stand next to each other. -/
def Contiguous (k : Cap) : Prop :=
  ∀ s t, s ≠ t → objectOf (cs.cap s) = some k → objectOf (cs.cap t) = some k →
    Run cs.mdbNext (fun x => objectOf (cs.cap x) = some k) s t ∨
      Run cs.mdbNext (fun x => objectOf (cs.cap x) = some k) t s

/-- Regions that overlap belong to one object, or are nested and known to be. -/
structure MemoryInv : Prop where
  wellFormed : ∀ s, WellFormed (cs.cap s)
  revocable : ∀ s, isUntyped (cs.cap s) = true → cs.mdbRevocable s = true
  covers : ∀ s t, s ≠ t → isUntyped (cs.cap s) = true → Overlap (cs.cap s) (cs.cap t) →
    cs.Covers s t ∨ isUntyped (cs.cap t) = true ∧ cs.Covers t s
  exclusive : ∀ s t, s ≠ t → isUntyped (cs.cap s) = false → isUntyped (cs.cap t) = false →
    Overlap (cs.cap s) (cs.cap t) → objectOf (cs.cap s) = objectOf (cs.cap t) ∧ objectOf (cs.cap s) ≠ none

/-- A new capability fits behind `src`. -/
structure Fits (src : Slot) (c : Cap) : Prop where
  wellFormed : WellFormed c
  inside : capIsPhysical (cs.cap src) = true → Inside (cs.cap src) c
  /-- Untyped capabilities around the new one cover the source, or are the source. -/
  covers : ∀ t, Overlap (cs.cap t) c → isUntyped (cs.cap t) = true ∨ isUntyped c = true →
    isUntyped (cs.cap t) = true ∧
      (t = src ∧ regionEnd c ≤ freeRef (cs.cap src) ∨ cs.Covers t src)
  /-- The new capability names the object of its source, or a new object. -/
  object : objectOf c = objectOf (cs.cap src) ∨
    objectOf (cs.cap src) = none ∧ ∀ t, objectOf c = objectOf (cs.cap t) → objectOf c = none
  exclusive : ∀ t, isUntyped (cs.cap t) = false → isUntyped c = false → Overlap (cs.cap t) c →
    objectOf (cs.cap t) = objectOf c ∧ objectOf c ≠ none

variable {cs}

lemma Covers.inside {u t} (h : cs.Covers u t) : Inside (cs.cap u) (cs.cap t) :=
  h.run.last

section Insert

variable {src dest : Slot} {c : Cap} {rev : Bool}

/-- The new capability ends every run that its source ends. -/
lemma run_insert_dest {P : Slot → Prop} {a : Slot}
    (r : a = src ∨ Run (cs.insert src dest c rev).mdbNext P a src) (hnew : P dest) :
    Run (cs.insert src dest c rev).mdbNext P a dest := by
  have h : (cs.insert src dest c rev).mdbNext src = some dest := insertAfter_self
  rcases r with rfl | r
  · exact .single h hnew
  · exact r.snoc h hnew

variable (w : cs.WellLinked) (hd : cs.cap dest = .null)
include w hd

/-- An empty slot is on no run. -/
lemma run_ne_null {P : Slot → Prop} {a b : Slot} (r : Run cs.mdbNext P a b) :
    Run cs.mdbNext (fun x => x ≠ dest ∧ P x) a b := by
  refine r.lift id fun x y h hy => .single h ⟨?_, hy⟩
  rintro rfl
  exact w.next_ne_null h hd

/-- A run of capabilities that stand in a relation to the first one survives if the new capability stands
in that relation, too, when its source does. -/
lemma run_insert {P P' : Slot → Prop} {a b : Slot} (hP : ∀ x, x ≠ dest → P x → P' x)
    (hnew : a = src ∨ P src → P' dest) (r : Run cs.mdbNext P a b) :
    Run (cs.insert src dest c rev).mdbNext P' a b := by
  refine (run_ne_null w hd r).insertAfter (w.next_null hd) (fun x hx => hP x hx.1 hx.2) fun h => hnew ?_
  exact h.imp_right And.right

variable (hs : cs.cap src ≠ .null)

lemma Covers.insert {u t} (hin : capIsPhysical (cs.cap src) = true → Inside (cs.cap src) c)
    (hu : u ≠ dest) (ht : t ≠ dest) (hp : capIsPhysical (cs.cap u) = true) (h : cs.Covers u t) :
    (cs.insert src dest c rev).Covers u t := by
  refine ⟨?_, ?_⟩
  · refine run_insert w hd (fun x hx hP => ?_) (fun hsrc => ?_) h.run
    · rwa [insert_cap_of_ne cs hu, insert_cap_of_ne cs hx]
    · rw [insert_cap_of_ne cs hu, insert_cap_self]
      rcases hsrc with rfl | hsrc
      · exact hin hp
      · exact hsrc.trans (hin hsrc.phys)
  · rw [insert_cap_of_ne cs hu, insert_cap_of_ne cs ht]
    exact h.end_le

include hs

/-- What covers the source covers the new capability. -/
lemma Covers.insert_dest {u} (hin : capIsPhysical (cs.cap src) = true → Inside (cs.cap src) c)
    (hu : u ≠ dest) (hp : capIsPhysical (cs.cap u) = true) (h : cs.Covers u src) :
    (cs.insert src dest c rev).Covers u dest := by
  have hne : src ≠ dest := by
    rintro rfl
    exact hs hd
  have h' : (cs.insert src dest c rev).Covers u src := h.insert w hd hin hu hne hp
  have hsrc := hin h.inside.phys
  refine ⟨run_insert_dest (.inr h'.run) ?_, ?_⟩
  · rw [insert_cap_of_ne cs hu, insert_cap_self]
    exact h.inside.trans hsrc
  · rw [insert_cap_of_ne cs hu, insert_cap_self]
    exact hsrc.end_le.trans h.end_le

/-- A capability that fits behind its source keeps the order of the regions. -/
lemma MemoryInv.insert (m : cs.MemoryInv) (f : cs.Fits src c) (hrev : isUntyped c = true → rev = true) :
    (cs.insert src dest c rev).MemoryInv := by
  -- pairs with the new capability: the other one is untyped and covers it
  have hnew : ∀ t, t ≠ dest → Overlap (cs.cap t) c → isUntyped (cs.cap t) = true ∨ isUntyped c = true →
      isUntyped (cs.cap t) = true ∧ (cs.insert src dest c rev).Covers t dest := by
    intro t ht ho hu
    obtain ⟨hut, ⟨rfl, hle⟩ | h⟩ := f.covers t ho hu
    · have hin := f.inside (capIsPhysical_of_isUntyped hut)
      refine ⟨hut, run_insert_dest (.inl rfl) ?_, ?_⟩
      · rwa [insert_cap_of_ne cs ht, insert_cap_self]
      · rwa [insert_cap_of_ne cs ht, insert_cap_self]
    · exact ⟨hut, h.insert_dest w hd hs f.inside ht (capIsPhysical_of_isUntyped hut)⟩
  refine ⟨fun s => ?_, fun s hu => ?_, fun s t hst hu ho => ?_, fun s t hst hus hut ho => ?_⟩
  · by_cases e : s = dest
    · rw [e, insert_cap_self]
      exact f.wellFormed
    · rw [insert_cap_of_ne cs e]
      exact m.wellFormed s
  · by_cases e : s = dest
    · subst e
      rw [insert_cap_self] at hu
      simp [CSpace.insert, hrev hu]
    · rw [insert_cap_of_ne cs e] at hu
      simpa [CSpace.insert, e] using m.revocable s hu
  · by_cases es : s = dest
    · subst es
      rw [insert_cap_self] at hu ho
      rw [insert_cap_of_ne cs hst.symm] at ho ⊢
      exact .inr (hnew t hst.symm ho.symm (.inr hu))
    by_cases et : t = dest
    · subst et
      rw [insert_cap_self, insert_cap_of_ne cs es] at ho
      rw [insert_cap_of_ne cs es] at hu
      exact .inl (hnew s es ho (.inl hu)).2
    · rw [insert_cap_of_ne cs es] at hu ho
      rw [insert_cap_of_ne cs et] at ho ⊢
      rcases m.covers s t hst hu ho with h | ⟨hut, h⟩
      · exact .inl (h.insert w hd f.inside es et (capIsPhysical_of_isUntyped hu))
      · exact .inr ⟨hut, h.insert w hd f.inside et es (capIsPhysical_of_isUntyped hut)⟩
  · by_cases es : s = dest
    · subst es
      rw [insert_cap_self] at hus ho
      rw [insert_cap_of_ne cs hst.symm] at hut ho
      rw [insert_cap_self, insert_cap_of_ne cs hst.symm]
      obtain ⟨h, h'⟩ := f.exclusive t hut hus ho.symm
      exact ⟨h.symm, h'⟩
    by_cases et : t = dest
    · subst et
      rw [insert_cap_self] at hut ho
      rw [insert_cap_of_ne cs es] at hus ho
      rw [insert_cap_self, insert_cap_of_ne cs es]
      obtain ⟨h, h'⟩ := f.exclusive s hus hut ho
      exact ⟨h, h ▸ h'⟩
    · rw [insert_cap_of_ne cs es] at hus ho ⊢
      rw [insert_cap_of_ne cs et] at hut ho ⊢
      exact m.exclusive s t hst hus hut ho

/-- Descendants stay in one run when a capability is put behind its source. -/
lemma Contiguous.insert {k} (h : cs.Contiguous k) (f : cs.Fits src c) :
    (cs.insert src dest c rev).Contiguous k := by
  have hne : dest ≠ src := by
    rintro rfl
    exact hs hd
  -- the new capability does not come between capabilities to another object
  have hold : ∀ {s t}, objectOf (cs.cap s) = some k →
      Run cs.mdbNext (fun x => objectOf (cs.cap x) = some k) s t →
      Run (cs.insert src dest c rev).mdbNext
        (fun x => objectOf ((cs.insert src dest c rev).cap x) = some k) s t := by
    intro s t hk r
    refine run_insert w hd (fun x hx hP => ?_) (fun hsrc => ?_) r
    · rwa [insert_cap_of_ne cs hx]
    · rw [insert_cap_self]
      have hsrc' : objectOf (cs.cap src) = some k := hsrc.elim (fun e => e ▸ hk) id
      rcases f.object with e | ⟨e, -⟩
      · rwa [e]
      · rw [e] at hsrc'
        cases hsrc'
  -- a capability to the object of the new one: the source is one
  have hnew : ∀ t, t ≠ dest → objectOf (cs.cap t) = some k → objectOf c = some k →
      Run (cs.insert src dest c rev).mdbNext
          (fun x => objectOf ((cs.insert src dest c rev).cap x) = some k) dest t ∨
        Run (cs.insert src dest c rev).mdbNext
          (fun x => objectOf ((cs.insert src dest c rev).cap x) = some k) t dest := by
    intro t ht hk hc
    have hkd : objectOf ((cs.insert src dest c rev).cap dest) = some k := by
      rwa [insert_cap_self]
    have hksrc : objectOf (cs.cap src) = some k := by
      rcases f.object with e | ⟨-, e⟩
      · rwa [← e]
      · have := e t (hc.trans hk.symm)
        rw [hc] at this
        cases this
    by_cases hts : t = src
    · exact .inr (run_insert_dest (.inl hts) hkd)
    rcases h t src hts hk hksrc with r | r
    · exact .inr (run_insert_dest (.inr (hold hk r)) hkd)
    · refine .inl ((run_ne_null w hd r).insertAfter_new w.coherent hne (w.next_null hd) fun x hx => ?_)
      rw [insert_cap_of_ne cs hx.1]
      exact hx.2
  intro s t hst hks hkt
  by_cases es : s = dest
  · subst es
    rw [insert_cap_self] at hks
    rw [insert_cap_of_ne cs hst.symm] at hkt
    exact hnew t hst.symm hkt hks
  by_cases et : t = dest
  · subst et
    rw [insert_cap_self] at hkt
    rw [insert_cap_of_ne cs es] at hks
    exact (hnew s es hks hkt).symm
  · rw [insert_cap_of_ne cs es] at hks
    rw [insert_cap_of_ne cs et] at hkt
    exact (h s t hst hks hkt).imp (hold hks) (hold hkt)

end Insert

section Erase

variable {slot : Slot}

/-- A null capability overlaps nothing. -/
private lemma ne_of_phys {s} (h : capIsPhysical ((cs.erase slot).cap s) = true) : s ≠ slot := by
  rintro rfl
  rw [erase_cap_self] at h
  cases h

lemma run_erase (w : cs.WellLinked) {P P' : Slot → Prop} {a b : Slot} (ha : a ≠ slot) (hb : b ≠ slot)
    (hP : ∀ x, x ≠ slot → P x → P' x) (r : Run cs.mdbNext P a b) :
    Run (cs.erase slot).mdbNext P' a b :=
  r.remove w.coherent ha hb fun x hx h _ => hP x hx h

lemma Covers.erase (w : cs.WellLinked) {u t} (hu : u ≠ slot) (ht : t ≠ slot) (h : cs.Covers u t) :
    (cs.erase slot).Covers u t := by
  refine ⟨run_erase w hu ht (fun x hx hP => ?_) h.run, ?_⟩
  · rwa [erase_cap_of_ne cs hu, erase_cap_of_ne cs hx]
  · rw [erase_cap_of_ne cs hu, erase_cap_of_ne cs ht]
    exact h.end_le

lemma MemoryInv.erase (w : cs.WellLinked) (m : cs.MemoryInv) : (cs.erase slot).MemoryInv := by
  refine ⟨fun s => ?_, fun s hu => ?_, fun s t hst hu ho => ?_, fun s t hst hus hut ho => ?_⟩
  · by_cases e : s = slot
    · rw [e, erase_cap_self]
      exact nofun
    · rw [erase_cap_of_ne cs e]
      exact m.wellFormed s
  · have hs := ne_of_phys (capIsPhysical_of_isUntyped hu)
    rw [erase_cap_of_ne cs hs] at hu
    simpa [CSpace.erase, hs] using m.revocable s hu
  · have hs := ne_of_phys ho.phys_left
    have ht := ne_of_phys ho.phys_right
    rw [erase_cap_of_ne cs hs] at hu ho
    rw [erase_cap_of_ne cs ht] at ho ⊢
    exact (m.covers s t hst hu ho).imp (Covers.erase w hs ht) fun h => ⟨h.1, h.2.erase w ht hs⟩
  · have hs := ne_of_phys ho.phys_left
    have ht := ne_of_phys ho.phys_right
    rw [erase_cap_of_ne cs hs] at hus ho ⊢
    rw [erase_cap_of_ne cs ht] at hut ho ⊢
    exact m.exclusive s t hst hus hut ho

lemma Contiguous.erase (w : cs.WellLinked) {k} (h : cs.Contiguous k) : (cs.erase slot).Contiguous k := by
  have hne : ∀ {s}, objectOf ((cs.erase slot).cap s) = some k → s ≠ slot := by
    rintro s hk rfl
    rw [erase_cap_self] at hk
    cases hk
  have hold : ∀ {s t}, s ≠ slot → t ≠ slot →
      Run cs.mdbNext (fun x => objectOf (cs.cap x) = some k) s t →
      Run (cs.erase slot).mdbNext (fun x => objectOf ((cs.erase slot).cap x) = some k) s t := by
    intro s t hs ht r
    refine run_erase w hs ht (fun x hx hP => ?_) r
    rwa [erase_cap_of_ne cs hx]
  intro s t hst hks hkt
  have hs := hne hks
  have ht := hne hkt
  rw [erase_cap_of_ne cs hs] at hks
  rw [erase_cap_of_ne cs ht] at hkt
  exact (h s t hst hks hkt).imp (hold hs ht) (hold ht hs)

end Erase

section Exchange

variable {a b : Slot}

lemma run_exchange {P P' : Slot → Prop} {s t : Slot} (hP : ∀ x, P (Equiv.swap a b x) → P' x)
    (r : Run cs.mdbNext P (Equiv.swap a b s) (Equiv.swap a b t)) :
    Run (cs.exchange a b).mdbNext P' s t := by
  have h : ∀ x, P x → P' (Equiv.swap a b x) := fun x hx => hP _ (by simpa using hx)
  have r' := r.relabel (Equiv.swap a b) h
  simp only [Equiv.swap_apply_self] at r'
  exact r'

lemma Covers.exchange {u t} (h : cs.Covers (Equiv.swap a b u) (Equiv.swap a b t)) :
    (cs.exchange a b).Covers u t :=
  ⟨run_exchange (fun _ hx => hx) h.run, h.end_le⟩

lemma MemoryInv.exchange (m : cs.MemoryInv) : (cs.exchange a b).MemoryInv where
  wellFormed _ := m.wellFormed _
  revocable _ hu := m.revocable _ hu
  covers _ _ hst hu ho :=
    (m.covers _ _ ((Equiv.swap a b).injective.ne hst) hu ho).imp Covers.exchange
      fun h => ⟨h.1, h.2.exchange⟩
  exclusive _ _ hst hus hut ho := m.exclusive _ _ ((Equiv.swap a b).injective.ne hst) hus hut ho

lemma Contiguous.exchange {k} (h : cs.Contiguous k) : (cs.exchange a b).Contiguous k := by
  intro s t hst hks hkt
  exact (h _ _ ((Equiv.swap a b).injective.ne hst) hks hkt).imp (run_exchange fun _ hx => hx)
    (run_exchange fun _ hx => hx)

end Exchange

section SetCap

variable {slot : Slot} {c : Cap}

private lemma setCap_region (hr : SameRegion (cs.cap slot) c) (x) :
    SameRegion (cs.cap x) ((cs.setCap slot c).cap x) := by
  by_cases e : x = slot
  · rw [e, setCap_cap_self]
    exact hr
  · rw [setCap_cap_of_ne cs e]
    exact .refl _

private lemma setCap_untyped (hu : isUntyped c = isUntyped (cs.cap slot)) (x) :
    isUntyped ((cs.setCap slot c).cap x) = isUntyped (cs.cap x) := by
  by_cases e : x = slot
  · rw [e, setCap_cap_self]
    exact hu
  · rw [setCap_cap_of_ne cs e]

lemma Covers.setCap {u t} (hr : SameRegion (cs.cap slot) c)
    (hle : u = slot → regionEnd (cs.cap t) ≤ freeRef c) (h : cs.Covers u t) :
    (cs.setCap slot c).Covers u t := by
  refine ⟨h.run.mono fun x hx => ?_, ?_⟩
  · exact (setCap_region hr u).inside_left ((setCap_region hr x).inside_right hx)
  · rw [← (setCap_region hr t).regionEnd]
    by_cases e : u = slot
    · subst e
      rw [setCap_cap_self]
      exact hle rfl
    · rw [setCap_cap_of_ne cs e]
      exact h.end_le

/-- A change in place keeps the region. It may lower the mark of an untyped capability that covers
nothing, and it may change the object if no other capability names it. -/
lemma MemoryInv.setCap (m : cs.MemoryInv) (hr : SameRegion (cs.cap slot) c)
    (hu : isUntyped c = isUntyped (cs.cap slot)) (hw : WellFormed c)
    (hmark : ∀ t, isUntyped c = true → cs.Covers slot t → regionEnd (cs.cap t) ≤ freeRef c)
    (hobj : objectOf c = objectOf (cs.cap slot) ∨
      ∀ t, t ≠ slot → isUntyped (cs.cap t) = false → ¬ Overlap (cs.cap slot) (cs.cap t)) :
    (cs.setCap slot c).MemoryInv := by
  have hov : ∀ {s t}, Overlap ((cs.setCap slot c).cap s) ((cs.setCap slot c).cap t) →
      Overlap (cs.cap s) (cs.cap t) := fun ho =>
    (setCap_region hr _).symm.overlap_left ((setCap_region hr _).symm.overlap_left ho.symm).symm
  have hcov : ∀ {u t}, isUntyped (cs.cap u) = true → cs.Covers u t → (cs.setCap slot c).Covers u t := by
    intro u t hut h
    refine h.setCap hr ?_
    rintro rfl
    exact hmark t (hu.trans hut) h
  refine ⟨fun s => ?_, fun s hs => ?_, fun s t hst hs ho => ?_, fun s t hst hs ht ho => ?_⟩
  · by_cases e : s = slot
    · rw [e, setCap_cap_self]
      exact hw
    · rw [setCap_cap_of_ne cs e]
      exact m.wellFormed s
  · rw [setCap_untyped hu] at hs
    exact m.revocable s hs
  · rw [setCap_untyped hu] at hs ⊢
    rcases m.covers s t hst hs (hov ho) with h | ⟨ht, h⟩
    · exact .inl (hcov hs h)
    · exact .inr ⟨ht, hcov ht h⟩
  · rw [setCap_untyped hu] at hs ht
    have ho' := hov ho
    rcases hobj with hobj | hobj
    · have heq : ∀ x, objectOf ((cs.setCap slot c).cap x) = objectOf (cs.cap x) := by
        intro x
        by_cases e : x = slot
        · rw [e, setCap_cap_self, hobj]
        · rw [setCap_cap_of_ne cs e]
      rw [heq, heq]
      exact m.exclusive s t hst hs ht ho'
    · by_cases es : s = slot
      · subst es
        exact absurd ho' (hobj t hst.symm ht)
      by_cases et : t = slot
      · subst et
        exact absurd ho'.symm (hobj s hst hs)
      · rw [setCap_cap_of_ne cs es, setCap_cap_of_ne cs et]
        exact m.exclusive s t hst hs ht ho'

/-- A change in place keeps the object, or takes away the only capability to it. -/
lemma Contiguous.setCap {k} (h : cs.Contiguous k)
    (hobj : objectOf c = objectOf (cs.cap slot) ∨
      objectOf c = none ∧ ∀ t, t ≠ slot → objectOf (cs.cap t) = objectOf (cs.cap slot) →
        objectOf (cs.cap slot) = none) : (cs.setCap slot c).Contiguous k := by
  rcases hobj with hobj | ⟨hc, hobj⟩
  · have heq : ∀ x, objectOf ((cs.setCap slot c).cap x) = objectOf (cs.cap x) := by
      intro x
      by_cases e : x = slot
      · rw [e, setCap_cap_self, hobj]
      · rw [setCap_cap_of_ne cs e]
    intro s t hst hs ht
    simp only [heq] at hs ht ⊢
    exact h s t hst hs ht
  · have hne : ∀ {x}, objectOf ((cs.setCap slot c).cap x) = some k → x ≠ slot := by
      rintro x hk rfl
      rw [setCap_cap_self, hc] at hk
      cases hk
    intro s t hst hs ht
    have es := hne hs
    have et := hne ht
    rw [setCap_cap_of_ne cs es] at hs
    rw [setCap_cap_of_ne cs et] at ht
    have hrun : ∀ {x y}, Run cs.mdbNext (fun x => objectOf (cs.cap x) = some k) x y →
        Run (cs.setCap slot c).mdbNext (fun x => objectOf ((cs.setCap slot c).cap x) = some k) x y := by
      intro x y r
      refine r.mono fun z hz => ?_
      have ez : z ≠ slot := by
        rintro rfl
        have := hobj s es (hs.trans hz.symm)
        rw [hz] at this
        cases this
      rwa [setCap_cap_of_ne cs ez]
    exact (h s t hst hs ht).imp hrun hrun

end SetCap

end NexsKernel.CSpace
