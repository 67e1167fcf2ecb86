import NexsKernel.CSpace.Memory

/-!
# Lineage

`Derived s t` says that the capability in `t` was derived, in any number of steps, from the one that is in
`s` now: the history of `t` continues the history of `s`. The invariant `Lineage` says that the capabilities
derived from one capability stand right behind it in the mapping database, up to the last of them, and
everything between them could be its child (`follows`), derived from it or not.
-/

namespace NexsKernel.CSpace

open Links

variable (cs : CSpace)

/-- The capability in `t` was derived from the capability in `s`. -/
structure Derived (s t : Slot) : Prop where
  ne_nil : cs.history s ≠ []
  suffix : cs.history s <:+ cs.history t
  ne : cs.history s ≠ cs.history t

/-- Histories name the capabilities, and what was derived from a capability stands behind it. -/
structure Lineage : Prop where
  ne_nil : ∀ s, cs.cap s ≠ .null → cs.history s ≠ []
  inj : ∀ s t, cs.history s ≠ [] → cs.history s = cs.history t → s = t
  old : ∀ s, ∀ i ∈ cs.history s, i < cs.fresh
  run : ∀ s t, cs.Derived s t →
    Run cs.mdbNext (fun x => follows (cs.cap s) (cs.cap x) (cs.mdbFirstBadged x) = true) s t

variable {cs}

/-- A first-badged capability only follows capabilities that every capability of the region follows. -/
private lemma archIsMDBParentOf_of_firstBadged {a c : Cap} (h : archIsMDBParentOf a c true = true) (b fb) :
    archIsMDBParentOf a b fb = true := by
  cases a with
  | arch a =>
    cases a with
    | smc badge =>
      by_cases hb : badge = 0
      · simp [archIsMDBParentOf, hb]
      · simp only [archIsMDBParentOf, beq_eq_false_iff_ne.mpr hb, Bool.false_or] at h
        split at h <;> simp at h
    | sgiSignal => cases h
    | _ => rfl
  | _ => rfl

private lemma badgeIsMDBParentOf_of_firstBadged {a c : Cap} (h : badgeIsMDBParentOf a c true = true) (b fb) :
    badgeIsMDBParentOf a b fb = true := by
  cases a with
  | endpoint badge | notification badge =>
    by_cases hb : badge = 0
    · simp [badgeIsMDBParentOf, hb]
    · simp only [badgeIsMDBParentOf, beq_eq_false_iff_ne.mpr hb, Bool.false_or] at h
      split at h <;> simp at h
  | _ => rfl

/-- A child that becomes first-badged follows what its predecessor followed, if that was first-badged. -/
lemma follows_or {a b c : Cap} {fb fb' : Bool} (h : follows a b fb = true)
    (h' : fb' = true → follows a c fb' = true) : follows a b (fb || fb') = true := by
  cases fb' with
  | false => rwa [Bool.or_false]
  | true =>
    have hc := h' rfl
    simp only [follows, Bool.and_eq_true] at h hc ⊢
    exact ⟨⟨h.1.1, archIsMDBParentOf_of_firstBadged hc.1.2 _ _⟩,
      badgeIsMDBParentOf_of_firstBadged hc.2 _ _⟩

section Insert

variable {src dest : Slot} {c : Cap} {rev : Bool}

private lemma insert_history_of_ne {t} (h : t ≠ dest) :
    (cs.insert src dest c rev).history t = cs.history t :=
  Function.update_of_ne h ..

private lemma insert_history_self : (cs.insert src dest c rev).history dest = cs.fresh :: cs.history src :=
  Function.update_self ..

/-- The new name occurs in no history. -/
private lemma fresh_ne (l : cs.Lineage) {t h} : cs.history t ≠ cs.fresh :: h := by
  intro e
  have := l.old t cs.fresh (by rw [e]; exact List.mem_cons_self)
  exact lt_irrefl _ this

/-- Inserting a capability that follows its source and whatever the source follows. -/
lemma Lineage.insert (w : cs.WellLinked) (l : cs.Lineage) (hd : cs.cap dest = .null)
    (hs : cs.cap src ≠ .null) (hself : follows (cs.cap src) c rev = true)
    (hall : ∀ s fb, follows (cs.cap s) (cs.cap src) fb = true → follows (cs.cap s) c rev = true) :
    (cs.insert src dest c rev).Lineage := by
  have hne : src ≠ dest := by
    rintro rfl
    exact hs hd
  have hfb : ∀ {x}, x ≠ dest → (cs.insert src dest c rev).mdbFirstBadged x = cs.mdbFirstBadged x :=
    fun h => Function.update_of_ne h ..
  have hfb' : (cs.insert src dest c rev).mdbFirstBadged dest = rev := Function.update_self ..
  -- a run of followers takes in the new capability where it passes the source
  have hrun : ∀ {s t}, s ≠ dest →
      Run cs.mdbNext (fun x => follows (cs.cap s) (cs.cap x) (cs.mdbFirstBadged x) = true) s t →
      Run (cs.insert src dest c rev).mdbNext (fun x => follows ((cs.insert src dest c rev).cap s)
        ((cs.insert src dest c rev).cap x) ((cs.insert src dest c rev).mdbFirstBadged x) = true) s t := by
    intro s t hsd r
    refine run_insert w hd (fun x hx hP => ?_) (fun hsrc => ?_) r
    · rwa [insert_cap_of_ne cs hsd, insert_cap_of_ne cs hx, hfb hx]
    · rw [insert_cap_of_ne cs hsd, insert_cap_self, hfb']
      rcases hsrc with rfl | hsrc
      · exact hself
      · exact hall _ _ hsrc
  refine ⟨fun s h => ?_, fun s t h e => ?_, fun s i hi => ?_, fun s t d => ?_⟩
  · by_cases e : s = dest
    · rw [e, insert_history_self]
      exact List.cons_ne_nil _ _
    · rw [insert_cap_of_ne cs e] at h
      rw [insert_history_of_ne e]
      exact l.ne_nil s h
  · by_cases es : s = dest
    · by_cases et : t = dest
      · rw [es, et]
      · rw [es, insert_history_self, insert_history_of_ne et] at e
        exact absurd e.symm (fresh_ne l)
    · rw [insert_history_of_ne es] at h e
      by_cases et : t = dest
      · rw [et, insert_history_self] at e
        exact absurd e (fresh_ne l)
      · rw [insert_history_of_ne et] at e
        exact l.inj s t h e
  · change i < cs.fresh + 1
    by_cases e : s = dest
    · rw [e, insert_history_self] at hi
      rcases List.mem_cons.mp hi with rfl | hi
      · exact Nat.lt_succ_self _
      · exact (l.old src i hi).trans (Nat.lt_succ_self _)
    · rw [insert_history_of_ne e] at hi
      exact (l.old s i hi).trans (Nat.lt_succ_self _)
  · obtain ⟨hnil, hsuf, hneq⟩ := d
    have hsd : s ≠ dest := by
      rintro rfl
      have ht : t ≠ s := fun e => hneq (by rw [e])
      rw [insert_history_self, insert_history_of_ne ht] at hsuf
      exact lt_irrefl _ (l.old t cs.fresh (hsuf.mem List.mem_cons_self))
    rw [insert_history_of_ne hsd] at hnil hsuf hneq
    by_cases et : t = dest
    · subst et
      rw [insert_history_self] at hsuf hneq
      -- the history of the source is a history of `s`, or continues it
      rcases List.suffix_cons_iff.mp hsuf with e | hsuf
      · exact absurd e hneq
      have hnew : follows ((cs.insert src t c rev).cap s) ((cs.insert src t c rev).cap t)
          ((cs.insert src t c rev).mdbFirstBadged t) = true ∧
          (s = src ∨ Run (cs.insert src t c rev).mdbNext (fun x => follows ((cs.insert src t c rev).cap s)
            ((cs.insert src t c rev).cap x) ((cs.insert src t c rev).mdbFirstBadged x) = true) s src) := by
        rw [insert_cap_of_ne cs hsd, insert_cap_self, hfb', ← insert_cap_of_ne cs hsd src c rev]
        by_cases e : cs.history s = cs.history src
        · obtain rfl := l.inj s src hnil e
          rw [insert_cap_of_ne cs hsd]
          exact ⟨hself, .inl rfl⟩
        · have r := l.run s src ⟨hnil, hsuf, e⟩
          refine ⟨?_, .inr (hrun hsd r)⟩
          rw [insert_cap_of_ne cs hsd]
          exact hall _ _ r.last
      exact run_insert_dest hnew.2 hnew.1
    · rw [insert_history_of_ne et] at hsuf hneq
      exact hrun hsd (l.run s t ⟨hnil, hsuf, hneq⟩)

end Insert

section Erase

variable {slot : Slot}

private lemma erase_history_of_ne {t} (h : t ≠ slot) : (cs.erase slot).history t = cs.history t :=
  Function.update_of_ne h ..

private lemma erase_history_self : (cs.erase slot).history slot = [] :=
  Function.update_self ..

/-- Ancestors stay in front when a capability is deleted. -/
lemma Lineage.erase (w : cs.WellLinked) (l : cs.Lineage) : (cs.erase slot).Lineage := by
  refine ⟨fun s h => ?_, fun s t h e => ?_, fun s i hi => ?_, fun s t d => ?_⟩
  · have hs : s ≠ slot := by
      rintro rfl
      exact h (erase_cap_self cs s)
    rw [erase_cap_of_ne cs hs] at h
    rw [erase_history_of_ne hs]
    exact l.ne_nil s h
  · have hs : s ≠ slot := by
      rintro rfl
      exact h erase_history_self
    have ht : t ≠ slot := by
      rintro rfl
      exact h (e.trans erase_history_self)
    rw [erase_history_of_ne hs] at h e
    rw [erase_history_of_ne ht] at e
    exact l.inj s t h e
  · have hs : s ≠ slot := by
      rintro rfl
      rw [erase_history_self] at hi
      cases hi
    rw [erase_history_of_ne hs] at hi
    exact l.old s i hi
  · obtain ⟨hnil, hsuf, hneq⟩ := d
    have hs : s ≠ slot := by
      rintro rfl
      exact hnil erase_history_self
    have ht : t ≠ slot := by
      rintro rfl
      rw [erase_history_self, List.suffix_nil] at hsuf
      exact hnil hsuf
    rw [erase_history_of_ne hs] at hnil hsuf hneq
    rw [erase_history_of_ne ht] at hsuf hneq
    refine (l.run s t ⟨hnil, hsuf, hneq⟩).remove w.coherent hs ht fun x hx hP hslot => ?_
    rw [erase_cap_of_ne cs hs, erase_cap_of_ne cs hx]
    have hfb : (cs.erase slot).mdbFirstBadged x =
        (cs.mdbFirstBadged x || (cs.mdbNext slot == some x && cs.mdbFirstBadged slot)) := by
      simp [CSpace.erase, hx]
    rw [hfb]
    -- the successor inherits the flag of the erased slot, which was on the run, too
    have hinh : (cs.mdbNext slot == some x && cs.mdbFirstBadged slot) = true →
        follows (cs.cap s) (cs.cap slot) (cs.mdbNext slot == some x && cs.mdbFirstBadged slot) = true := by
      intro h
      rw [Bool.and_eq_true, beq_iff_eq] at h
      simpa [h] using hslot h.1
    exact follows_or hP hinh

end Erase

section Exchange

variable {a b : Slot}

lemma Lineage.exchange (l : cs.Lineage) : (cs.exchange a b).Lineage where
  ne_nil _ h := l.ne_nil _ h
  inj _ _ h e := (Equiv.swap a b).injective (l.inj _ _ h e)
  old _ i hi := l.old _ i hi
  run _ _ d := run_exchange (fun _ hx => hx) (l.run _ _ ⟨d.ne_nil, d.suffix, d.ne⟩)

end Exchange

section SetCap

variable {slot : Slot} {c : Cap}

/-- A change in place has to keep what the capability follows, and what follows it. -/
lemma Lineage.setCap (l : cs.Lineage) (w : cs.WellLinked) (hs : cs.cap slot ≠ .null)
    (hleft : ∀ x fb, x ≠ slot → follows (cs.cap slot) (cs.cap x) fb = true → follows c (cs.cap x) fb = true)
    (hright : ∀ x fb, x ≠ slot → follows (cs.cap x) (cs.cap slot) fb = true → follows (cs.cap x) c fb = true) :
    (cs.setCap slot c).Lineage := by
  refine ⟨fun s h => ?_, l.inj, l.old, fun s t d => ?_⟩
  · by_cases e : s = slot
    · subst e
      exact l.ne_nil s hs
    · rw [setCap_cap_of_ne cs e] at h
      exact l.ne_nil s h
  · have r := l.run s t ⟨d.ne_nil, d.suffix, d.ne⟩
    refine (w.coherent.run_ne r).mono fun x hx => ?_
    obtain ⟨hxs, hx⟩ := hx
    change follows ((cs.setCap slot c).cap s) ((cs.setCap slot c).cap x) (cs.mdbFirstBadged x) = true
    by_cases es : s = slot
    · subst es
      rw [setCap_cap_self, setCap_cap_of_ne cs hxs]
      exact hleft x _ hxs hx
    · rw [setCap_cap_of_ne cs es]
      by_cases ex : x = slot
      · subst ex
        rw [setCap_cap_self]
        exact hright s _ es hx
      · rwa [setCap_cap_of_ne cs ex]

end SetCap

end NexsKernel.CSpace
