import NexsKernel.CSpace.Mdb

/-!
# Runs of the mapping database

Every change of a slot goes through one of the operations of `Op`: the functions of `cnode.c`, the
`write_slot` of the boot code, and stores to the capability of a slot in use (a zombie, a new free index, a
new mapping). `Legal` is what their callers check. Every state of every run is a family of doubly linked
lists, and each operation changes the capabilities and the order of the slots as `capsAfter` and `moved`
say.
-/

namespace NexsKernel.Mdb

open Links CSpace
open Function (update update_apply update_eq_self)

/-- An operation on the mapping database. -/
inductive Op where
  | writeSlot (slot : Slot) (cap : Cap)
  | cteInsert (newCap : Cap) (srcSlot destSlot : Slot)
  | cteMove (newCap : Cap) (srcSlot destSlot : Slot)
  | cteSwap (cap1 : Cap) (slot1 : Slot) (cap2 : Cap) (slot2 : Slot)
  | insertNewCap (parent slot : Slot) (cap : Cap)
  | invokeCNodeRotate (cap1 cap2 : Cap) (slot1 slot2 slot3 : Slot)
  | emptySlot (slot : Slot) (cleanupInfo : Cap)
  | setCap (slot : Slot) (cap : Cap)

/-- The operation on the CSpace. -/
def exec (cs : CSpace) : Op → Except Halt CSpace
  | .writeSlot slot cap => return cs.writeSlot slot cap
  | .cteInsert newCap src dest => cs.cteInsert newCap src dest
  | .cteMove newCap src dest => cs.cteMove newCap src dest
  | .cteSwap cap1 slot1 cap2 slot2 => return cs.cteSwap cap1 slot1 cap2 slot2
  | .insertNewCap parent slot cap => return cs.insertNewCap parent slot cap
  | .invokeCNodeRotate cap1 cap2 slot1 slot2 slot3 => cs.invokeCNodeRotate cap1 cap2 slot1 slot2 slot3
  | .emptySlot slot info => return cs.emptySlot slot info
  | .setCap slot cap => return cs.setCap slot cap

/-- What the callers of an operation check. -/
def Legal (cs : CSpace) : Op → Prop
  | .writeSlot slot cap => cs.cap slot = .null ∧ cap ≠ .null
  | .cteInsert newCap src dest => cs.cap dest = .null ∧ cs.cap src ≠ .null ∧ newCap ≠ .null
  | .cteMove newCap src dest => cs.cap dest = .null ∧ cs.cap src ≠ .null ∧ newCap ≠ .null
  | .cteSwap cap1 slot1 cap2 slot2 =>
    slot1 ≠ slot2 ∧ (cap1 = .null ↔ cs.cap slot1 = .null) ∧ (cap2 = .null ↔ cs.cap slot2 = .null)
  | .insertNewCap parent slot cap => cs.cap slot = .null ∧ cs.cap parent ≠ .null ∧ cap ≠ .null
  | .invokeCNodeRotate cap1 cap2 slot1 slot2 slot3 =>
    slot2 ≠ slot1 ∧ slot2 ≠ slot3 ∧ (slot1 ≠ slot3 → cs.cap slot3 = .null) ∧
      cs.cap slot1 ≠ .null ∧ cs.cap slot2 ≠ .null ∧ cap1 ≠ .null ∧ cap2 ≠ .null
  | .emptySlot _ _ => True
  | .setCap slot cap => cs.cap slot ≠ .null ∧ cap ≠ .null

/-- The capabilities after an operation. -/
def capsAfter (cs : CSpace) : Op → Slot → Cap
  | .writeSlot slot cap => update cs.cap slot cap
  | .cteInsert newCap src dest =>
    update (update cs.cap src (markFull (cs.cap src) newCap)) dest newCap
  | .cteMove newCap src dest => update (update cs.cap src .null) dest newCap
  | .cteSwap cap1 slot1 cap2 slot2 => update (update cs.cap slot1 cap2) slot2 cap1
  | .insertNewCap _ slot cap => update cs.cap slot cap
  | .invokeCNodeRotate cap1 cap2 slot1 slot2 slot3 =>
    if slot1 = slot3 then
      update (update cs.cap slot1 cap2) slot2 cap1
    else
      update (update (update cs.cap slot1 .null) slot2 cap1) slot3 cap2
  | .emptySlot slot _ => update cs.cap slot .null
  | .setCap slot cap => update cs.cap slot cap

/-- The slot that an operation adds to the lists or removes from them. -/
def changed : Op → Option Slot
  | .writeSlot slot _ => some slot
  | .cteInsert _ _ dest => some dest
  | .insertNewCap _ slot _ => some slot
  | .emptySlot slot _ => some slot
  | .cteMove .. | .cteSwap .. | .invokeCNodeRotate .. | .setCap .. => none

/-- Where an operation moves the capability of each slot. -/
def moved : Op → Equiv.Perm Slot
  | .cteMove _ src dest => Equiv.swap src dest
  | .cteSwap _ slot1 _ slot2 => Equiv.swap slot1 slot2
  | .invokeCNodeRotate _ _ slot1 slot2 slot3 =>
    if slot1 = slot3 then Equiv.swap slot1 slot2
    else (Equiv.swap slot2 slot3).trans (Equiv.swap slot1 slot2)
  | .writeSlot .. | .cteInsert .. | .insertNewCap .. | .emptySlot .. | .setCap .. => Equiv.refl _

/-- The CSpaces of all runs. -/
inductive Reachable : CSpace → Prop
  | empty : Reachable CSpace.empty
  | step {cs cs' op} : Reachable cs → Legal cs op → exec cs op = .ok cs' → Reachable cs'

/-- What an operation does. -/
structure Effect (cs : CSpace) (op : Op) (cs' : CSpace) : Prop where
  wellLinked : cs'.WellLinked
  cap : cs'.cap = capsAfter cs op
  order : ∀ a b, changed op ≠ some a → changed op ≠ some b →
    (Before cs'.mdbNext (moved op a) (moved op b) ↔ Before cs.mdbNext a b)

section Effects

variable {cs : CSpace} (w : cs.WellLinked)
include w

private lemma writeSlot_effect {slot cap} (hs : cs.cap slot = .null) (hcap : cap ≠ .null) :
    Effect cs (.writeSlot slot cap) (cs.writeSlot slot cap) := by
  refine ⟨w.writeSlot hs hcap, rfl, fun a b _ _ => ?_⟩
  rw [w.writeSlot_mdbNext hs]
  exact Iff.rfl

private lemma insert_effect {src dest cap rev} (hd : cs.cap dest = .null) (hs : cs.cap src ≠ .null)
    {a b : Slot} (ha : a ≠ dest) (hb : b ≠ dest) :
    Before (cs.insert src dest cap rev).mdbNext a b ↔ Before cs.mdbNext a b := by
  have hne : dest ≠ src := by
    rintro rfl
    exact hs hd
  exact before_insertAfter_iff w.coherent hne (w.next_null hd) (w.prev_null hd) ha hb

private lemma cteMove_effect {newCap src dest} (hd : cs.cap dest = .null) (hs : cs.cap src ≠ .null)
    (hcap : newCap ≠ .null) :
    Effect cs (.cteMove newCap src dest) ((cs.exchange src dest).setCap dest newCap) := by
  have hne : src ≠ dest := by
    rintro rfl
    exact hs hd
  refine ⟨(w.exchange src dest).setCap hcap, ?_, fun a b _ _ => before_relabel_iff _⟩
  funext s
  simp only [capsAfter, CSpace.setCap, exchange, update_apply, Function.comp]
  split
  · rfl
  · rename_i hsd
    split
    · rename_i e
      rw [e, Equiv.swap_apply_left, hd]
    · rename_i hss
      rw [Equiv.swap_apply_of_ne_of_ne hss hsd]

private lemma cteSwap_effect {cap1 cap2 slot1 slot2} (hne : slot1 ≠ slot2)
    (h1 : cap1 = .null ↔ cs.cap slot1 = .null) (h2 : cap2 = .null ↔ cs.cap slot2 = .null) :
    Effect cs (.cteSwap cap1 slot1 cap2 slot2)
      (((cs.exchange slot1 slot2).setCap slot1 cap2).setCap slot2 cap1) := by
  refine ⟨⟨(w.exchange slot1 slot2).coherent, fun s h => ?_⟩, ?_, fun a b _ _ => before_relabel_iff _⟩
  · refine (w.exchange slot1 slot2).null s ?_
    rw [exchange_cap]
    by_cases hs2 : s = slot2
    · subst hs2
      rw [setCap_cap_self] at h
      rw [Equiv.swap_apply_right]
      exact h1.mp h
    · rw [setCap_cap_of_ne _ hs2] at h
      by_cases hs1 : s = slot1
      · subst hs1
        rw [setCap_cap_self] at h
        rw [Equiv.swap_apply_left]
        exact h2.mp h
      · rw [setCap_cap_of_ne _ hs1, exchange_cap] at h
        exact h
  · funext s
    simp only [capsAfter, CSpace.setCap, exchange, update_apply, Function.comp]
    split
    · rfl
    · rename_i hs2
      split
      · rfl
      · rename_i hs1
        rw [Equiv.swap_apply_of_ne_of_ne hs1 hs2]

/-- Every legal operation returns, and does what `Effect` says. -/
lemma exec_effect {op} (legal : Legal cs op) : ∃ cs', exec cs op = .ok cs' ∧ Effect cs op cs' := by
  cases op with
  | writeSlot slot cap => exact ⟨_, rfl, writeSlot_effect w legal.1 legal.2⟩
  | cteInsert newCap src dest =>
    obtain ⟨hd, hs, hcap⟩ := legal
    have hne : dest ≠ src := by
      rintro rfl
      exact hs hd
    refine ⟨_, cteInsert_eq cs w newCap hd hs, ?_⟩
    rw [setUntypedCapAsFull_eq]
    have w' : (cs.setCap src (markFull (cs.cap src) newCap)).WellLinked :=
      w.setCap (markFull_ne_null hs)
    have hd' : (cs.setCap src (markFull (cs.cap src) newCap)).cap dest = .null := by
      rw [setCap_cap_of_ne _ hne]
      exact hd
    have hs' : (cs.setCap src (markFull (cs.cap src) newCap)).cap src ≠ .null := by
      rw [setCap_cap_self]
      exact markFull_ne_null hs
    refine ⟨w'.insert hd' hs' hcap, rfl, fun a b ha hb => ?_⟩
    exact insert_effect w' hd' hs' (fun e => ha (e ▸ rfl)) (fun e => hb (e ▸ rfl))
  | cteMove newCap src dest =>
    obtain ⟨hd, hs, hcap⟩ := legal
    exact ⟨_, cteMove_eq cs w newCap hd hs, cteMove_effect w hd hs hcap⟩
  | cteSwap cap1 slot1 cap2 slot2 =>
    obtain ⟨hne, h1, h2⟩ := legal
    exact ⟨_, congrArg Except.ok (cteSwap_eq cs w cap1 cap2 hne), cteSwap_effect w hne h1 h2⟩
  | insertNewCap parent slot cap =>
    obtain ⟨hd, hs, hcap⟩ := legal
    have hp : cs.mdbNext parent ≠ some slot := fun e => w.next_ne_null e hd
    refine ⟨_, congrArg Except.ok (insertNewCap_eq cs cap hp), w.insert hd hs hcap, rfl, ?_⟩
    intro a b ha hb
    exact insert_effect w hd hs (fun e => ha (e ▸ rfl)) (fun e => hb (e ▸ rfl))
  | invokeCNodeRotate cap1 cap2 slot1 slot2 slot3 =>
    obtain ⟨h21, h23, h3, h1, h2, hcap1, hcap2⟩ := legal
    simp only [exec, invokeCNodeRotate]
    by_cases h13 : slot1 = slot3
    · subst h13
      have eff := cteSwap_effect w h21.symm (iff_of_false hcap1 h1) (iff_of_false hcap2 h2)
      rw [if_pos rfl]
      refine ⟨_, congrArg Except.ok (cteSwap_eq cs w cap1 cap2 h21.symm), eff.wellLinked, ?_, ?_⟩
      · rw [eff.cap]
        simp [capsAfter]
      · intro a b ha hb
        simp only [moved, if_true]
        exact eff.order a b ha hb
    · rw [if_neg h13, cteMove_eq cs w cap2 (h3 h13) h2]
      have eff := cteMove_effect w (h3 h13) h2 hcap2
      have hd : ((cs.exchange slot2 slot3).setCap slot3 cap2).cap slot2 = .null := by
        rw [eff.cap]
        simp [capsAfter, h23]
      have hs : ((cs.exchange slot2 slot3).setCap slot3 cap2).cap slot1 ≠ .null := by
        rw [eff.cap]
        simpa [capsAfter, h13, h21.symm] using h1
      have eff' := cteMove_effect eff.wellLinked hd hs hcap1
      refine ⟨_, cteMove_eq _ eff.wellLinked cap1 hd hs, eff'.wellLinked, ?_, ?_⟩
      · rw [eff'.cap]
        simp only [capsAfter, eff.cap, if_neg h13]
        funext s
        simp only [update_apply]
        grind
      · intro a b _ _
        simp only [moved, if_neg h13]
        exact (eff'.order _ _ nofun nofun).trans (eff.order a b nofun nofun)
  | emptySlot slot info =>
    by_cases hs : cs.cap slot = .null
    · refine ⟨cs, by simp [exec, emptySlot, hs]; rfl, w, ?_, fun a b _ _ => Iff.rfl⟩
      simp only [capsAfter]
      rw [← hs, update_eq_self]
    · refine ⟨_, congrArg Except.ok (emptySlot_eq cs w info hs),
        (w.erase slot).postCapDeletion info, ?_, ?_⟩
      · unfold postCapDeletion
        split <;> rfl
      · intro a b ha hb
        have e : ((cs.erase slot).postCapDeletion info).mdbNext = remove cs.mdbNext slot := by
          unfold postCapDeletion
          split <;> rfl
        rw [e]
        exact before_remove_iff w.coherent (fun e => ha (e ▸ rfl)) (fun e => hb (e ▸ rfl))
  | setCap slot cap => exact ⟨_, rfl, w.setCap legal.2, rfl, fun a b _ _ => Iff.rfl⟩

end Effects

/-- Every state of every run is well linked. -/
lemma reachable_wellLinked {cs} (h : Reachable cs) : cs.WellLinked := by
  induction h with
  | empty =>
    refine ⟨⟨fun a b => by simp [CSpace.empty], fun _ => 0, nofun⟩, fun s _ => ⟨rfl, rfl⟩⟩
  | step _ legal e ih =>
    obtain ⟨cs', e', eff⟩ := exec_effect ih legal
    rw [e] at e'
    cases e'
    exact eff.wellLinked

/-- In every run the mapping database is a family of doubly linked lists without cycles, null slots are
not linked, and every operation changes exactly the capabilities it is about and keeps the order of the
others. -/
theorem reachable_lists {cs : CSpace} (h : Reachable cs) :
    (∀ a b, cs.mdbNext a = some b ↔ cs.mdbPrev b = some a) ∧
    (∀ a b, Before cs.mdbNext a b → a ≠ b) ∧
    (∀ s, cs.cap s = .null → cs.cteMDBNode s = nullMDBNode) ∧
    ∀ op, Legal cs op → ∃ cs', exec cs op = .ok cs' ∧ cs'.cap = capsAfter cs op ∧
      ∀ a b, changed op ≠ some a → changed op ≠ some b →
        (Before cs'.mdbNext (moved op a) (moved op b) ↔ Before cs.mdbNext a b) := by
  have w := reachable_wellLinked h
  refine ⟨w.coherent.next_iff, fun a b r => w.coherent.ne_of_run r, fun s hs => (w.null s hs).1, ?_⟩
  intro op legal
  obtain ⟨cs', e, eff⟩ := exec_effect w legal
  exact ⟨cs', e, eff.cap, eff.order⟩

/-- An untyped capability to one page. -/
def pageUntyped (freeIndex : Nat) : Cap :=
  .untyped freeIndex false 12 4096

lemma reachable_pageUntyped : Reachable (CSpace.empty.writeSlot 32 (pageUntyped 0)) :=
  @Reachable.step _ _ (.writeSlot 32 (pageUntyped 0)) .empty ⟨rfl, nofun⟩ rfl

/-- An untyped capability and one behind it in the list. -/
def twoUntypeds : CSpace :=
  (CSpace.empty.writeSlot 32 (pageUntyped 0)).insertNewCap 32 64 (pageUntyped 1)

lemma reachable_twoUntypeds : Reachable twoUntypeds :=
  @Reachable.step _ _ (.insertNewCap 32 64 (pageUntyped 1)) reachable_pageUntyped ⟨rfl, nofun, nofun⟩ rfl

/-- Neighbours in the list are swapped. -/
theorem reachable_lists_pageUntyped :
    ∃ cs', exec twoUntypeds (.cteSwap (pageUntyped 0) 32 (pageUntyped 1) 64) = .ok cs' ∧
      cs'.cap 32 = pageUntyped 1 ∧ cs'.cap 64 = pageUntyped 0 ∧ Before cs'.mdbNext 64 32 := by
  obtain ⟨-, -, -, h⟩ := reachable_lists reachable_twoUntypeds
  obtain ⟨cs', e, hcap, horder⟩ := h (.cteSwap (pageUntyped 0) 32 (pageUntyped 1) 64)
    ⟨by decide, iff_of_false nofun nofun, iff_of_false nofun nofun⟩
  refine ⟨cs', e, ?_, ?_, (horder 32 64 nofun nofun).mpr (.single rfl trivial)⟩
  · rw [hcap]
    rfl
  · rw [hcap]
    rfl

/-- A copy of an untyped capability does not add one capability to those that are there: the original is
marked as full at the same time. -/
theorem cteInsert_marks_untyped_full :
    ∃ cs cs', Reachable cs ∧ Legal cs (.cteInsert (pageUntyped 0) 32 64) ∧
      exec cs (.cteInsert (pageUntyped 0) 32 64) = .ok cs' ∧
      {s | cs'.cap s = pageUntyped 0}.encard ≠ {s | cs.cap s = pageUntyped 0}.encard + 1 := by
  have legal : Legal (CSpace.empty.writeSlot 32 (pageUntyped 0)) (.cteInsert (pageUntyped 0) 32 64) :=
    ⟨rfl, nofun, nofun⟩
  obtain ⟨cs', e, eff⟩ := exec_effect (reachable_wellLinked reachable_pageUntyped) legal
  refine ⟨_, cs', reachable_pageUntyped, legal, e, ?_⟩
  have h : {s | (CSpace.empty.writeSlot 32 (pageUntyped 0)).cap s = pageUntyped 0} = {32} := by
    ext s
    simp only [Set.mem_ofPred_eq, Set.mem_singleton_iff, writeSlot, CSpace.setCap, setCteMDBNode,
      update_apply, CSpace.empty, pageUntyped]
    grind
  have h' : {s | cs'.cap s = pageUntyped 0} = {64} := by
    rw [eff.cap]
    ext s
    have hfull : markFull (pageUntyped 0) (pageUntyped 0) = pageUntyped 256 := rfl
    have hcap : (CSpace.empty.writeSlot 32 (pageUntyped 0)).cap 32 = pageUntyped 0 := rfl
    simp only [capsAfter, hcap, hfull]
    simp only [Set.mem_ofPred_eq, Set.mem_singleton_iff, writeSlot, CSpace.setCap, setCteMDBNode,
      update_apply, CSpace.empty, pageUntyped]
    grind
  rw [h, h', Set.encard_singleton, Set.encard_singleton]
  decide

end NexsKernel.Mdb
