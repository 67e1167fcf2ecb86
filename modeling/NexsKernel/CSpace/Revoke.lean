import NexsKernel.CSpace.DeleteInv

/-!
# What survives a deletion

A deletion empties one slot, but on the way it clears the CNodes and TCBs whose last capability is gone,
and those may be anywhere. `Survives` says what can happen to any other slot: its capability stays, or the
table of the slot is gone and with it the capability. So a slot whose CNode is still there has kept its
capability when `cteDelete` or `cteRevoke` returns (`cteDelete_leaves`, `cteRevoke_survives`).

`cteRevoke` only looks at the successor of its slot. That is enough, because children form a run behind
their parent (`not_isMDBParentOf_of_ensureNoChildren`).
-/

namespace NexsKernel.CSpace

open Links

variable {pf : Platform} {preempt : Nat → Bool} {cs cs' cs'' : CSpace}

@[simp] lemma setMdbNext_cap (s v) : (cs.setMdbNext s v).cap = cs.cap := by
  cases s <;> rfl

@[simp] lemma setMdbPrev_cap (s v) : (cs.setMdbPrev s v).cap = cs.cap := by
  cases s <;> rfl

@[simp] lemma orMdbFirstBadged_cap (s v) : (cs.orMdbFirstBadged s v).cap = cs.cap := by
  cases s <;> rfl

@[simp] lemma setMdbNext_history (s v) : (cs.setMdbNext s v).history = cs.history := by
  cases s <;> rfl

@[simp] lemma setMdbPrev_history (s v) : (cs.setMdbPrev s v).history = cs.history := by
  cases s <;> rfl

@[simp] lemma orMdbFirstBadged_history (s v) : (cs.orMdbFirstBadged s v).history = cs.history := by
  cases s <;> rfl

@[simp] lemma postCapDeletion_cap (info) : (cs.postCapDeletion info).cap = cs.cap := by
  cases info <;> rfl

@[simp] lemma postCapDeletion_history (info) : (cs.postCapDeletion info).history = cs.history := by
  cases info <;> rfl

lemma emptySlot_cap (slot info) : (cs.emptySlot slot info).cap = Function.update cs.cap slot .null := by
  unfold emptySlot
  split
  · rename_i h
    rw [← h, Function.update_eq_self]
  · simp [setCap, setCteMDBNode, recordDeleted]

lemma emptySlot_history_of_ne {slot t} (h : t ≠ slot) (info) :
    (cs.emptySlot slot info).history t = cs.history t := by
  unfold emptySlot
  split
  · rfl
  · simp [setCap, setCteMDBNode, recordDeleted, h]

lemma emptySlot_cap_self (slot info) : (cs.emptySlot slot info).cap slot = .null := by
  rw [emptySlot_cap, Function.update_self]

lemma emptySlot_cap_of_ne {slot t} (h : t ≠ slot) (info) : (cs.emptySlot slot info).cap t = cs.cap t := by
  rw [emptySlot_cap, Function.update_of_ne h]

/-- Finalising a capability leaves all slots alone but the one of an interrupt. -/
lemma Finalises.cap_cases {slot fc} (h : Finalises pf cs slot fc cs') (t : Slot) :
    cs'.cap t = cs.cap t ∧ cs'.history t = cs.history t ∨
      cs'.cap t = .null ∧ ∃ s irq, cs.cap s = .irqHandler irq ∧ t = pf.irqSlot irq := by
  cases h with
  | plain | table => exact .inl ⟨rfl, rfl⟩
  | @handler irq _ hc _ hdel =>
    rcases cteDeleteOne_cases hdel with ⟨-, rfl⟩ | ⟨-, -, rfl⟩
    · exact .inl ⟨rfl, rfl⟩
    · by_cases e : t = pf.irqSlot irq
      · exact .inr ⟨e ▸ emptySlot_cap_self _ _, slot, irq, hc, e⟩
      · exact .inl ⟨emptySlot_cap_of_ne e _, emptySlot_history_of_ne e _⟩

/-- Only zombies still have the slot. -/
def Gone (cs : CSpace) (t : Slot) : Prop :=
  ∀ u, Contains (cs.cap u) t → isZombie (cs.cap u) = true

/-- A deletion makes no capabilities but zombies. -/
lemma DeleteStep.cap_cases (i : Inv pf cs) (h : DeleteStep pf cs cs') (u : Slot) :
    (∃ v, cs'.cap u = cs.cap v) ∨ cs'.cap u = .null ∨ isZombie (cs'.cap u) = true := by
  cases h with
  | @remove slot info cs' hr =>
    obtain ⟨_, _, hfin, _⟩ := hr
    by_cases e : u = slot
    · exact .inr (.inl (e ▸ emptySlot_cap_self _ _))
    · rw [emptySlot_cap_of_ne e]
      rcases hfin.cap_cases u with ⟨h, -⟩ | ⟨h, -⟩
      · exact .inl ⟨u, h⟩
      · exact .inr (.inl h)
  | @zombify slot type ptr =>
    by_cases e : u = slot
    · subst e
      exact .inr (.inr (by rw [setCap_cap_self]; rfl))
    · exact .inl ⟨u, setCap_cap_of_ne cs e _⟩
  | swap _ _ hne =>
    rw [capSwapForDelete_eq i.linked hne]
    exact .inl ⟨_, exchange_cap ..⟩
  | @shrink slot =>
    by_cases e : u = slot
    · subst e
      exact .inr (.inr (by rw [setCap_cap_self]; rfl))
    · exact .inl ⟨u, setCap_cap_of_ne cs e _⟩
  | tick => exact .inl ⟨u, rfl⟩

/-- A table does not come back. -/
lemma Gone.of_cap_cases {t} (g : cs.Gone t)
    (h : ∀ u, (∃ v, cs'.cap u = cs.cap v) ∨ cs'.cap u = .null ∨ isZombie (cs'.cap u) = true) :
    cs'.Gone t := by
  intro u hu
  rcases h u with ⟨v, e⟩ | e | e
  · rw [e] at hu ⊢
    exact g v hu
  · exact absurd e hu.ne_null
  · exact e

lemma Gone.deleteStep (i : Inv pf cs) (h : DeleteStep pf cs cs') {t} (g : cs.Gone t) : cs'.Gone t :=
  g.of_cap_cases (h.cap_cases i)

lemma Gone.deleteSteps (i : Inv pf cs) (h : DeleteSteps pf cs cs') {t} (g : cs.Gone t) : cs'.Gone t := by
  induction h with
  | refl => exact g
  | tail hs h ih => exact ih.deleteStep (i.deleteSteps hs) h

/-- What one zombie has, no other capability has. -/
lemma Inv.gone_of_zombie (i : Inv pf cs) {slot t} (hz : isZombie (cs.cap slot) = true)
    (h : Contains (cs.cap slot) t) : cs.Gone t := by
  intro u hu
  by_cases e : u = slot
  · rwa [e]
  · exfalso
    obtain ⟨p, hp⟩ := hu.mem_region (i.memory.wellFormed u)
    obtain ⟨q, hq⟩ := h.mem_region (i.memory.wellFormed slot)
    have hnot : ∀ {c : Cap}, Contains c t → isUntyped c = false := by
      intro c hc
      cases c with
      | untyped =>
        obtain ⟨n, hn, -⟩ := hc
        exact absurd hn (Nat.not_lt_zero n)
      | _ => rfl
    have hex := i.memory.exclusive u slot e (hnot hu) (hnot h) (overlap_of_mem p q hp hq)
    have hnone : objectOf (cs.cap slot) = none := by
      cases hc : cs.cap slot with
      | zombie => rfl
      | _ =>
        rw [hc] at hz
        cases hz
    exact hex.2 (hex.1.trans hnone)

/-- A zombie of the table that starts in the slot. -/
def CyclicZombie (cs : CSpace) (t : Slot) : Prop :=
  ∃ type n, cs.cap t = .zombie type n t

/-- What is left of the capability in a slot: the capability, or nothing but a zombie of the table that
starts there, when the table of the slot is gone. -/
def Survives (cs cs' : CSpace) (t : Slot) : Prop :=
  cs'.cap t = cs.cap t ∧ cs'.history t = cs.history t ∨
    cs'.Gone t ∧ (cs'.cap t = .null ∨ cs'.CyclicZombie t)

lemma Survives.refl (t : Slot) : Survives cs cs t :=
  .inl ⟨rfl, rfl⟩

lemma Survives.trans {t} (h : Survives cs cs' t) (h' : Survives cs' cs'' t)
    (hg : cs'.Gone t → cs''.Gone t) : Survives cs cs'' t := by
  rcases h' with ⟨hc', hh'⟩ | h'
  · rcases h with ⟨hc, hh⟩ | ⟨g, h⟩
    · exact .inl ⟨hc'.trans hc, hh'.trans hh⟩
    · refine .inr ⟨hg g, h.imp (hc'.trans ·) ?_⟩
      rintro ⟨type, n, h⟩
      exact ⟨type, n, hc'.trans h⟩
  · exact .inr h'

/-- `finaliseSlot` has returned without being preempted. -/
structure FinaliseSlotLeaves (slot : Slot) (immediate : Bool) (cs : CSpace) (fs : FinaliseSlotRet)
    (cs' : CSpace) : Prop where
  others : ∀ t, t ≠ slot → Survives cs cs' t
  gone : ∀ t, cs.Gone t → cs'.Gone t
  cyclic : fs.success = false → immediate = false ∧ cs'.CyclicZombie slot

/-- `cteDelete` has returned without being preempted. -/
structure CteDeleteLeaves (slot : Slot) (exposed : Bool) (cs cs' : CSpace) : Prop where
  others : ∀ t, t ≠ slot → Survives cs cs' t
  own : cs'.cap slot = .null ∨ exposed = false ∧ cs'.CyclicZombie slot

lemma Removable.survives (i : Inv pf cs) {slot info} (h : Removable pf cs slot info cs') (t) :
    Survives cs cs' t := by
  obtain ⟨_, _, hfin, _⟩ := h
  rcases hfin.cap_cases t with h | ⟨h, s, irq, hs, rfl⟩
  · exact .inl h
  · refine .inr ⟨fun u hu => ?_, .inl h⟩
    rcases hfin.cap_cases u with ⟨e, -⟩ | ⟨e, -⟩
    · rw [e] at hu
      exact absurd rfl (i.tables.ne_irqSlot i.memory.wellFormed hu (i.tables.irqHandler s irq hs).2)
    · exact absurd e hu.ne_null

lemma Gone.removable {slot info t} (g : cs.Gone t) (h : Removable pf cs slot info cs') : cs'.Gone t := by
  obtain ⟨_, _, hfin, _⟩ := h
  refine g.of_cap_cases fun u => ?_
  rcases hfin.cap_cases u with ⟨h, -⟩ | ⟨h, -⟩
  · exact .inl ⟨u, h⟩
  · exact .inr (.inl h)

lemma survives_zombified {slot t} (h : t ≠ slot) (type ptr) :
    Survives cs (cs.zombified slot type ptr) t :=
  .inl ⟨setCap_cap_of_ne cs h _, rfl⟩

private lemma Remains.step {slot type ptr} (h : cs.Remains slot type ptr) :
    DeleteStep pf cs (cs.zombified slot type ptr) :=
  .zombify h.table h.final

/-- By induction on the fuel: what a call leaves when it is not preempted. -/
private lemma leaves_of_fuel (pf : Platform) (preempt : Nat → Bool) (fuel : Nat) :
    (∀ slot immediate cs fs cs', Inv pf cs →
      finaliseSlot pf preempt fuel slot immediate cs = .ok (fs, cs') → fs.status = .none →
        FinaliseSlotLeaves slot immediate cs fs cs') ∧
    (∀ slot immediate cs cs', Inv pf cs →
      reduceZombie pf preempt fuel slot immediate cs = .ok (.none, cs') →
        ∀ t, t ≠ slot → Survives cs cs' t) ∧
    (∀ slot exposed cs cs', Inv pf cs →
      cteDelete pf preempt fuel slot exposed cs = .ok (.none, cs') →
        CteDeleteLeaves slot exposed cs cs') := by
  induction fuel with
  | zero =>
    refine ⟨fun slot immediate cs fs cs' _ h => ?_, fun slot immediate cs cs' _ h => ?_,
      fun slot exposed cs cs' _ h => ?_⟩
    · simp [finaliseSlot] at h
    · simp [reduceZombie] at h
    · simp [cteDelete] at h
  | succ fuel ih =>
    obtain ⟨ihF, ihR, ihD⟩ := ih
    refine ⟨fun slot immediate cs fs cs' i h hst => ?_, fun slot immediate cs cs' i h t ht => ?_,
      fun slot exposed cs cs' i h => ?_⟩
    · cases finaliseSlot_cases h with
      | empty => exact ⟨fun t _ => .refl t, fun _ g => g, fun h => by cases h⟩
      | removable hr => exact ⟨fun t _ => hr.survives i t, fun _ g => g.removable hr, fun h => by cases h⟩
      | @cyclic type rem himm =>
        refine ⟨fun t ht => survives_zombified ht type slot, fun t g => g.deleteStep i rem.step, fun _ => ?_⟩
        exact ⟨himm, type, slotCount (cs.cap slot), setCap_cap_self cs slot _⟩
      | interrupted => cases hst
      | preempted => cases hst
      | @again type ptr cs1 _ rem _ hred _ hloop =>
        -- one round, then the rest
        have i0 : Inv pf (cs.zombified slot type ptr) := i.deleteStep rem.step
        have hsteps : DeleteSteps pf (cs.zombified slot type ptr) cs1 := reduceZombie_steps hred
        have i1 : Inv pf cs1.tick := (i0.deleteSteps hsteps).tick
        have hrest := ihF _ _ _ _ _ i1 hloop hst
        have hgone : ∀ t, cs.Gone t → cs1.Gone t := fun t g =>
          (g.deleteStep i rem.step).deleteSteps i0 hsteps
        refine ⟨fun t ht => ?_, fun t g => hrest.gone t (hgone t g), hrest.cyclic⟩
        have h1 : Survives cs cs1 t :=
          (survives_zombified ht type ptr).trans (ihR _ _ _ _ i0 hred t ht) fun g => g.deleteSteps i0 hsteps
        have htick : Survives cs cs1.tick t := h1
        exact htick.trans (hrest.others t ht) (hrest.gone t)
    · obtain ⟨type, n, ptr, hc, hn, h⟩ := reduceZombie_cases h
      have hcont : ∀ j, j < n → cs.Gone (slotAt ptr j) := by
        intro j hj
        have hz : isZombie (cs.cap slot) = true := by
          rw [hc]
          rfl
        refine i.gone_of_zombie hz ?_
        rw [hc]
        exact ⟨j, hj, rfl⟩
      have hend : ∀ {cs'}, cteDelete pf preempt fuel (slotAt ptr (n - 1)) false cs = .ok (.none, cs') →
          Survives cs cs' t := by
        intro cs' hdel
        have hleaves := ihD _ _ _ _ i hdel
        by_cases e : t = slotAt ptr (n - 1)
        · subst e
          have g : cs'.Gone (slotAt ptr (n - 1)) :=
            (hcont (n - 1) (by omega)).deleteSteps i (cteDelete_steps hdel)
          exact .inr ⟨g, hleaves.own.imp_right And.right⟩
        · exact hleaves.others t e
      cases h with
      | gone _ hdel => exact hend hdel
      | @cleared cs1 _ hdel hz hnull =>
        have i1 := i.cteDelete hdel
        have hset : Survives cs1 (cs1.setCap slot (.zombie type (n - 1) ptr)) t :=
          .inl ⟨setCap_cap_of_ne cs1 ht _, rfl⟩
        exact (hend hdel).trans hset fun g => g.deleteStep i1 (DeleteStep.shrink hz hn hnull)
      | replaced _ hdel => exact hend hdel
      | swapped _ hne _ =>
        rw [capSwapForDelete_eq i.linked hne]
        by_cases e : t = ptr
        · subst e
          have i' := i.deleteStep (.swap hc hn hne)
          have g := (hcont 0 hn).deleteStep i (DeleteStep.swap hc hn hne)
          rw [capSwapForDelete_eq i.linked hne] at g
          refine .inr ⟨?_, .inr ⟨type, n, ?_⟩⟩
          · simpa [slotAt] using g
          · rw [exchange_cap, Equiv.swap_apply_left, hc]
        · refine .inl ⟨?_, ?_⟩
          · rw [exchange_cap, Equiv.swap_apply_of_ne_of_ne e ht]
          · change cs.history (Equiv.swap ptr slot t) = _
            rw [Equiv.swap_apply_of_ne_of_ne e ht]
    · cases cteDelete_cases h with
      | @emptied fs cs1 hfs hst =>
        have hleaves := ihF _ _ _ _ _ i hfs hst
        refine ⟨fun t ht => ?_, .inl (emptySlot_cap_self _ _)⟩
        rcases hleaves.others t ht with ⟨hc, hh⟩ | ⟨g, h⟩
        · exact .inl ⟨(emptySlot_cap_of_ne ht _).trans hc, (emptySlot_history_of_ne ht _).trans hh⟩
        · refine .inr ⟨fun u hu => ?_, ?_⟩
          · by_cases e : u = slot
            · subst e
              exact absurd (emptySlot_cap_self _ _) hu.ne_null
            · rw [emptySlot_cap_of_ne e] at hu ⊢
              exact g u hu
          · rw [CyclicZombie, emptySlot_cap_of_ne ht]
            exact h
      | kept hfs hst hexp hsucc =>
        have hleaves := ihF _ _ _ _ _ i hfs hst
        exact ⟨hleaves.others, .inr ⟨hexp, (hleaves.cyclic hsucc).2⟩⟩

lemma cteDelete_leaves (i : Inv pf cs) {fuel slot exposed}
    (h : cteDelete pf preempt fuel slot exposed cs = .ok (.none, cs')) :
    CteDeleteLeaves slot exposed cs cs' :=
  (leaves_of_fuel pf preempt fuel).2.2 slot exposed cs cs' i h

/-- The slot that is revoked keeps its capability, unless its table is gone. -/
lemma cteRevoke_survives (i : Inv pf cs) {fuel slot}
    (h : cteRevoke pf preempt fuel slot cs = .ok (.none, cs')) : Survives cs cs' slot := by
  induction fuel generalizing cs with
  | zero => simp [cteRevoke] at h
  | succ fuel ih =>
    cases cteRevoke_cases h with
    | done => exact .refl slot
    | @again n cs1 _ hn _ hdel _ hloop =>
      have i1 : Inv pf cs1.tick := (i.cteDelete hdel).tick
      have hne : slot ≠ n := fun e => i.linked.coherent.ne_next (e ▸ hn)
      have h1 : Survives cs cs1.tick slot := (cteDelete_leaves i hdel).others slot hne
      exact h1.trans (ih i1 hloop) fun g => g.deleteSteps i1 (cteRevoke_steps hloop)

/-- When `cteRevoke` returns, the successor of the slot is not a child. -/
lemma cteRevoke_ensureNoChildren {fuel slot}
    (h : cteRevoke pf preempt fuel slot cs = .ok (.none, cs')) : cs'.ensureNoChildren slot = .ok () := by
  induction fuel generalizing cs with
  | zero => simp [cteRevoke] at h
  | succ fuel ih =>
    cases cteRevoke_cases h with
    | done hno =>
      unfold ensureNoChildren
      cases hn : cs'.mdbNext slot with
      | none => rfl
      | some n => simp [hno n hn, refuseIf]
    | again _ _ _ _ hloop => exact ih hloop

/-- Then no slot holds a child that was derived from the slot. -/
lemma not_isMDBParentOf_of_ensureNoChildren (l : cs.Lineage) {s t}
    (h : cs.ensureNoChildren s = .ok ()) (hd : cs.Derived s t) : cs.isMDBParentOf s t = false := by
  obtain ⟨q, hq, hf⟩ := (l.run s t hd).first
  have hno : cs.isMDBParentOf s q = false := by
    by_contra hpar
    rw [Bool.not_eq_false] at hpar
    simp [ensureNoChildren, hq, hpar, refuseIf] at h
  rw [isMDBParentOf_eq, hf, Bool.and_true] at hno
  rw [isMDBParentOf_eq, hno, Bool.false_and]

end NexsKernel.CSpace
