import NexsKernel.CSpace.Cte

/-!
# The mapping database

The pointer operations of `cnode.c` as operations on doubly linked lists: `cteInsert` and `insertNewCap`
insert a slot behind another one, `cteMove` and `cteSwap` let two slots change places, and `emptySlot`
removes a slot. The lemmas `cteInsert_eq`, `insertNewCap_eq`, `cteMove_eq`, `cteSwap_eq` and `emptySlot_eq`
say this of the code, and everything after them is about the three operations `insert`, `exchange` and
`erase` alone.

`WellLinked` is the invariant of the database.
-/

namespace NexsKernel

namespace CSpace

open Links
open Function (update update_self update_of_ne update_apply)

variable (cs : CSpace)

/-- A new capability in `dest`, inserted behind `src`. -/
def insert (src dest : Slot) (cap : Cap) (revocable : Bool) : CSpace :=
  { cs with
    cap := update cs.cap dest cap
    mdbNext := insertAfter cs.mdbNext src dest
    mdbPrev := insertBefore cs.mdbPrev src dest (cs.mdbNext src)
    mdbRevocable := update cs.mdbRevocable dest revocable
    mdbFirstBadged := update cs.mdbFirstBadged dest revocable
    history := update cs.history dest (cs.fresh :: cs.history src)
    fresh := cs.fresh + 1 }

/-- Two slots change places. -/
def exchange (a b : Slot) : CSpace :=
  { cs with
    cap := cs.cap ∘ Equiv.swap a b
    mdbNext := relabel (Equiv.swap a b) cs.mdbNext
    mdbPrev := relabel (Equiv.swap a b) cs.mdbPrev
    mdbRevocable := cs.mdbRevocable ∘ Equiv.swap a b
    mdbFirstBadged := cs.mdbFirstBadged ∘ Equiv.swap a b
    history := cs.history ∘ Equiv.swap a b }

/-- The capability of a slot is gone; its successor inherits the first-badged flag. -/
def erase (slot : Slot) : CSpace :=
  { cs with
    cap := update cs.cap slot .null
    mdbNext := remove cs.mdbNext slot
    mdbPrev := remove cs.mdbPrev slot
    mdbRevocable := update cs.mdbRevocable slot false
    mdbFirstBadged := fun a =>
      if a = slot then false
      else cs.mdbFirstBadged a || (cs.mdbNext slot == some a && cs.mdbFirstBadged slot)
    history := update cs.history slot [] }

@[simp] lemma setCap_cap_self (s c) : (cs.setCap s c).cap s = c :=
  update_self ..

lemma setCap_cap_of_ne {s t} (h : t ≠ s) (c) : (cs.setCap s c).cap t = cs.cap t :=
  update_of_ne h ..

@[simp] lemma insert_cap_self (src dest c r) : (cs.insert src dest c r).cap dest = c :=
  update_self ..

lemma insert_cap_of_ne {dest t} (h : t ≠ dest) (src c r) :
    (cs.insert src dest c r).cap t = cs.cap t :=
  update_of_ne h ..

@[simp] lemma erase_cap_self (s) : (cs.erase s).cap s = .null :=
  update_self ..

lemma erase_cap_of_ne {s t} (h : t ≠ s) : (cs.erase s).cap t = cs.cap t :=
  update_of_ne h ..

@[simp] lemma exchange_cap (a b s) : (cs.exchange a b).cap s = cs.cap (Equiv.swap a b s) :=
  rfl

/-- The mapping database is a family of doubly linked lists of the slots in use. -/
structure WellLinked : Prop where
  coherent : Coherent cs.mdbNext cs.mdbPrev
  null : ∀ s, cs.cap s = .null → cs.cteMDBNode s = nullMDBNode ∧ cs.history s = []

namespace WellLinked

variable {cs : CSpace} (w : cs.WellLinked) {s a b : Slot}
include w

lemma next_null (h : cs.cap s = .null) : cs.mdbNext s = none := by
  have := congrArg MdbNode.mdbNext (w.null s h).1
  exact this

lemma prev_null (h : cs.cap s = .null) : cs.mdbPrev s = none := by
  have := congrArg MdbNode.mdbPrev (w.null s h).1
  exact this

lemma next_ne_null (h : cs.mdbNext a = some b) : cs.cap b ≠ .null := by
  intro hb
  rw [w.coherent.next_iff, w.prev_null hb] at h
  cases h

end WellLinked


lemma setMdbNext_eq (p v) :
    cs.setMdbNext p v = { cs with mdbNext := fun a => if p = some a then v else cs.mdbNext a } := by
  cases p with
  | none => rfl
  | some p =>
    simp only [setMdbNext, Option.some.injEq]
    congr 1
    funext a
    by_cases h : p = a
    · subst h
      simp
    · simp [h, Ne.symm h]

lemma setMdbPrev_eq (p v) :
    cs.setMdbPrev p v = { cs with mdbPrev := fun a => if p = some a then v else cs.mdbPrev a } := by
  cases p with
  | none => rfl
  | some p =>
    simp only [setMdbPrev, Option.some.injEq]
    congr 1
    funext a
    by_cases h : p = a
    · subst h
      simp
    · simp [h, Ne.symm h]

lemma orMdbFirstBadged_eq (p b) :
    cs.orMdbFirstBadged p b = { cs with
      mdbFirstBadged := fun a => cs.mdbFirstBadged a || (p == some a && b) } := by
  cases p with
  | none => simp [orMdbFirstBadged]
  | some p =>
    simp only [orMdbFirstBadged]
    congr 1
    funext a
    by_cases h : p = a
    · subst h
      simp
    · simp [h, Ne.symm h]

/-- The capability of the source after `cteInsert`: an untyped capability is marked as full by a copy. -/
def markFull (srcCap newCap : Cap) : Cap :=
  match srcCap, newCap with
  | .untyped freeIndex dev srcSize srcPtr, .untyped _ _ newSize newPtr =>
    if srcPtr = newPtr ∧ newSize = srcSize then .untyped (maxFreeIndex srcSize) dev srcSize srcPtr
    else .untyped freeIndex dev srcSize srcPtr
  | _, _ => srcCap

lemma setUntypedCapAsFull_eq (newCap src) :
    cs.setUntypedCapAsFull (cs.cap src) newCap src =
      cs.setCap src (markFull (cs.cap src) newCap) := by
  have hsame : cs.setCap src (cs.cap src) = cs := by
    simp [setCap]
  unfold setUntypedCapAsFull markFull
  cases hc : cs.cap src <;> cases newCap <;> (try simp only) <;> (try split) <;>
    simp_all [setFreeIndex]

lemma assertEmpty_ok {cs : CSpace} (w : cs.WellLinked) {slot} (h : cs.cap slot = .null) :
    cs.assertEmpty slot = .ok () := by
  unfold assertEmpty
  rw [assert_ok (by simp [h]), assert_ok (by simp [w.next_null h, w.prev_null h])]
  rfl

/-- `insertNewCap` is an insertion behind the parent. -/
lemma insertNewCap_eq {parent slot} (cap) (hp : cs.mdbNext parent ≠ some slot) :
    cs.insertNewCap parent slot cap = cs.insert parent slot cap true := by
  simp only [insertNewCap, insert, setMdbNext_eq, setMdbPrev_eq, setCap, setCteMDBNode, recordDerived]
  ext1 <;> try rfl
  · funext a
    simp only [insertAfter, update_apply]
    grind
  · funext a
    simp only [insertBefore, update_apply]
    grind

/-- `cteSwap` exchanges the slots and sets their capabilities. -/
lemma cteSwap_eq (w : cs.WellLinked) {slot1 slot2} (cap1 cap2) (hne : slot1 ≠ slot2) :
    cs.cteSwap cap1 slot1 cap2 slot2 =
      ((cs.exchange slot1 slot2).setCap slot1 cap2).setCap slot2 cap1 := by
  simp only [cteSwap, exchange, setMdbNext_eq, setMdbPrev_eq, setCap, setCteMDBNode, recordSwap,
    cteMDBNode]
  have hi := w.coherent.next_iff
  have h1 := w.coherent.ne_next (a := slot1)
  have h2 := w.coherent.ne_next (a := slot2)
  ext1 <;> try rfl
  · funext a
    simp only [update_apply, Function.comp]
    grind
  · apply eq_relabel_swap w.coherent
    · simp only [update_apply]
      grind
    · simp only [update_apply]
      grind
    · intro a ha1 ha2
      simp only [update_apply]
      grind
  · funext a
    simp only [update_apply, Function.comp]
    grind
  · funext a
    simp only [update_apply, Function.comp]
    grind
  · apply eq_relabel_swap w.coherent.symm
    · simp only [update_apply]
      grind
    · simp only [update_apply]
      grind
    · intro a ha1 ha2
      simp only [update_apply]
      grind

/-- `cteMove` exchanges the source with the empty destination. -/
lemma cteMove_eq (w : cs.WellLinked) {src dest} (newCap) (hd : cs.cap dest = .null)
    (hs : cs.cap src ≠ .null) :
    cs.cteMove newCap src dest = .ok ((cs.exchange src dest).setCap dest newCap) := by
  have hn := w.null dest hd
  have hi := w.coherent.next_iff
  have h1 := w.coherent.ne_next (a := src)
  have hne : src ≠ dest := by
    rintro rfl
    exact hs hd
  have hnext := w.next_null hd
  have hprev := w.prev_null hd
  have hrev : cs.mdbRevocable dest = false := congrArg MdbNode.mdbRevocable hn.1
  have hfb : cs.mdbFirstBadged dest = false := congrArg MdbNode.mdbFirstBadged hn.1
  unfold cteMove
  rw [assertEmpty_ok w hd]
  simp only [exchange, setMdbNext_eq, setMdbPrev_eq, setCap, setCteMDBNode, recordSwap, cteMDBNode,
    nullMDBNode]
  refine congrArg Except.ok ?_
  ext1 <;> try rfl
  · funext a
    simp only [update_apply, Function.comp]
    grind
  · apply eq_relabel_swap w.coherent
    · simp only [update_apply]
      grind
    · simp only [update_apply]
      grind
    · intro a ha1 ha2
      simp only [update_apply]
      grind
  · funext a
    simp only [update_apply, Function.comp]
    grind
  · funext a
    simp only [update_apply, Function.comp]
    grind
  · apply eq_relabel_swap w.coherent.symm
    · simp only [update_apply]
      grind
    · simp only [update_apply]
      grind
    · intro a ha1 ha2
      simp only [update_apply]
      grind

/-- `cteInsert` is an insertion behind the source, which may have been marked as full. -/
lemma cteInsert_eq (w : cs.WellLinked) {src dest} (newCap) (hd : cs.cap dest = .null)
    (hs : cs.cap src ≠ .null) :
    cs.cteInsert newCap src dest =
      .ok ((cs.setUntypedCapAsFull (cs.cap src) newCap src).insert src dest newCap
        (isCapRevocable newCap (cs.cap src))) := by
  have hne : src ≠ dest := by
    rintro rfl
    exact hs hd
  have hp : cs.mdbNext src ≠ some dest := by
    intro h
    exact w.next_ne_null h hd
  unfold cteInsert
  rw [assertEmpty_ok w hd]
  refine congrArg Except.ok ?_
  have hfull := cs.setUntypedCapAsFull_eq newCap src
  rw [hfull]
  simp only [insert, setMdbNext_eq, setMdbPrev_eq, setCap, setCteMDBNode, recordDerived, cteMDBNode]
  ext1 <;> try rfl
  · funext a
    simp only [insertAfter, update_apply]
    grind
  · funext a
    simp only [insertBefore, update_apply]
    grind

/-- `emptySlot` erases the slot. -/
lemma emptySlot_eq (w : cs.WellLinked) {slot} (info) (hs : cs.cap slot ≠ .null) :
    cs.emptySlot slot info = (cs.erase slot).postCapDeletion info := by
  have hi := w.coherent.next_iff
  have h1 := w.coherent.ne_next (a := slot)
  rw [emptySlot, if_neg hs]
  simp only [erase, setMdbNext_eq, setMdbPrev_eq, orMdbFirstBadged_eq, setCap, setCteMDBNode,
    recordDeleted, cteMDBNode, nullMDBNode]
  congr 1
  ext1 <;> try rfl
  · funext a
    simp only [update_apply, remove]
    grind
  · funext a
    simp only [update_apply]
  · funext a
    simp only [update_apply, remove]
    grind

namespace WellLinked

variable {cs : CSpace}

/-- Replacing a capability by another one that is not null. -/
lemma setCap (w : cs.WellLinked) {slot cap} (hcap : cap ≠ .null) : (cs.setCap slot cap).WellLinked := by
  refine ⟨w.coherent, fun s hs => w.null s ?_⟩
  have hne : s ≠ slot := by
    rintro rfl
    rw [setCap_cap_self] at hs
    exact hcap hs
  rwa [setCap_cap_of_ne cs hne] at hs

lemma insert (w : cs.WellLinked) {src dest cap rev} (hd : cs.cap dest = .null)
    (hs : cs.cap src ≠ .null) (hcap : cap ≠ .null) : (cs.insert src dest cap rev).WellLinked := by
  have hne : dest ≠ src := by
    rintro rfl
    exact hs hd
  refine ⟨w.coherent.insertAfter hne (w.next_null hd) (w.prev_null hd), fun s h => ?_⟩
  have hsd : s ≠ dest := by
    rintro rfl
    rw [insert_cap_self] at h
    exact hcap h
  have hnull : cs.cap s = .null := by rwa [insert_cap_of_ne cs hsd] at h
  have hss : s ≠ src := by
    rintro rfl
    exact hs hnull
  have hnext : cs.mdbNext src ≠ some s := fun e => w.next_ne_null e hnull
  obtain ⟨hnode, hhist⟩ := w.null s hnull
  refine ⟨?_, ?_⟩
  · rw [← hnode]
    simp [cteMDBNode, CSpace.insert, insertAfter_of_ne hss hsd, insertBefore, hsd, hnext]
  · simpa [CSpace.insert, hsd] using hhist

lemma exchange (w : cs.WellLinked) (a b) : (cs.exchange a b).WellLinked := by
  refine ⟨w.coherent.relabel _, fun s h => ?_⟩
  obtain ⟨hnode, hhist⟩ := w.null _ h
  refine ⟨?_, hhist⟩
  simp only [cteMDBNode, nullMDBNode, MdbNode.mk.injEq] at hnode
  simp [cteMDBNode, CSpace.exchange, nullMDBNode, relabel, Equiv.symm_swap, hnode]

lemma erase (w : cs.WellLinked) (slot) : (cs.erase slot).WellLinked := by
  refine ⟨w.coherent.remove, fun s h => ?_⟩
  by_cases hs : s = slot
  · subst hs
    simp [cteMDBNode, CSpace.erase, remove_self, nullMDBNode]
  · have hnull : cs.cap s = .null := by rwa [erase_cap_of_ne cs hs] at h
    obtain ⟨hnode, hhist⟩ := w.null s hnull
    have hnext : cs.mdbNext slot ≠ some s := fun e => w.next_ne_null e hnull
    simp only [cteMDBNode, nullMDBNode, MdbNode.mk.injEq] at hnode
    simp [cteMDBNode, CSpace.erase, nullMDBNode, remove, hs, hnode, hnext, hhist]

/-- Writing an empty slot changes no link. -/
lemma writeSlot_mdbNext (w : cs.WellLinked) {slot} (hs : cs.cap slot = .null) (cap) :
    (cs.writeSlot slot cap).mdbNext = cs.mdbNext := by
  simp [CSpace.writeSlot, CSpace.setCap, setCteMDBNode, nullMDBNode, ← w.next_null hs]

lemma writeSlot_mdbPrev (w : cs.WellLinked) {slot} (hs : cs.cap slot = .null) (cap) :
    (cs.writeSlot slot cap).mdbPrev = cs.mdbPrev := by
  simp [CSpace.writeSlot, CSpace.setCap, setCteMDBNode, nullMDBNode, ← w.prev_null hs]

lemma writeSlot (w : cs.WellLinked) {slot cap} (hs : cs.cap slot = .null) (hcap : cap ≠ .null) :
    (cs.writeSlot slot cap).WellLinked := by
  refine ⟨?_, fun s h => ?_⟩
  · rw [w.writeSlot_mdbNext hs, w.writeSlot_mdbPrev hs]
    exact w.coherent
  · have hne : s ≠ slot := by
      rintro rfl
      exact hcap ((setCap_cap_self cs s cap).symm.trans h)
    have hnull : cs.cap s = .null := (setCap_cap_of_ne cs hne cap).symm.trans h
    have := w.null s hnull
    simpa [cteMDBNode, CSpace.writeSlot, CSpace.setCap, setCteMDBNode, hne] using this

lemma postCapDeletion (w : cs.WellLinked) (info) : (cs.postCapDeletion info).WellLinked := by
  unfold CSpace.postCapDeletion
  split
  · exact ⟨w.coherent, w.null⟩
  · exact w

end WellLinked

lemma markFull_ne_null {srcCap newCap : Cap} (h : srcCap ≠ .null) : markFull srcCap newCap ≠ .null := by
  unfold markFull
  split
  · split <;> simp
  · exact h

end CSpace

end NexsKernel
