import NexsKernel.CSpace.Invariant

/-!
# The steps of a deletion

`finaliseSlot`, `reduceZombie` and `cteDelete` change the CSpace in five ways only, which are the steps of
`DeleteStep`. Every call is a sequence of such steps, however it ends (`cteDelete_steps`,
`cteRevoke_steps`), so what every step keeps, every call keeps; the invariant is the first example.

The lemmas `finaliseSlot_cases`, `reduceZombie_cases` and `cteDelete_cases` say once what one call does;
every later proof about deletion goes through them.
-/

namespace NexsKernel.CSpace

open Links

variable {pf : Platform} {preempt : Nat → Bool} {cs cs' : CSpace}

/-- What `finaliseCap` makes of the capability in a slot. -/
inductive Finalises (pf : Platform) (cs : CSpace) (slot : Slot) : FinaliseCapRet → CSpace → Prop where
  | plain : (tableOf (cs.cap slot) = none ∨
        isZombie (cs.cap slot) = false ∧ cs.isFinalCapability slot = false) →
      (∀ irq, cs.cap slot = .irqHandler irq → cs.isFinalCapability slot = false) →
      Finalises pf cs slot ⟨.null, .null⟩ cs
  | table {type ptr} : tableOf (cs.cap slot) = some (type, ptr) →
      (isZombie (cs.cap slot) = true ∨ cs.isFinalCapability slot = true) →
      Finalises pf cs slot ⟨.zombie type (slotCount (cs.cap slot)) ptr, .null⟩ cs
  | handler {irq cs'} : cs.cap slot = .irqHandler irq → cs.isFinalCapability slot = true →
      cs.cteDeleteOne (pf.irqSlot irq) = .ok cs' →
      Finalises pf cs slot ⟨.null, .irqHandler irq⟩ cs'

lemma finalises_of_finaliseCap {slot r}
    (h : finaliseCap pf cs (cs.cap slot) (cs.isFinalCapability slot) = .ok r) :
    Finalises pf cs slot r.1 r.2 := by
  have table : ∀ {type ptr}, tableOf (cs.cap slot) = some (type, ptr) →
      (isZombie (cs.cap slot) = true ∨ cs.isFinalCapability slot = true) →
      r = (⟨.zombie type (slotCount (cs.cap slot)) ptr, .null⟩, cs) → Finalises pf cs slot r.1 r.2 := by
    rintro type ptr ht hz rfl
    exact .table ht hz
  have plain : tableOf (cs.cap slot) = none ∨
        isZombie (cs.cap slot) = false ∧ cs.isFinalCapability slot = false →
      (∀ irq, cs.cap slot = .irqHandler irq → cs.isFinalCapability slot = false) →
      r = (⟨.null, .null⟩, cs) → Finalises pf cs slot r.1 r.2 := by
    rintro ht hirq rfl
    exact .plain ht hirq
  cases hc : cs.cap slot with
  | zombie type n ptr =>
    rw [hc] at h table
    cases h
    exact table rfl (.inl rfl) rfl
  | cnode radix g s ptr | thread ptr =>
    rw [hc] at h table plain
    cases hf : cs.isFinalCapability slot with
    | true =>
      rw [hf] at h
      cases h
      exact table rfl (.inr hf) rfl
    | false =>
      rw [hf] at h
      cases h
      exact plain (.inr ⟨rfl, hf⟩) nofun rfl
  | irqHandler irq =>
    rw [hc] at h plain
    cases hf : cs.isFinalCapability slot with
    | true =>
      rw [hf] at h
      obtain ⟨cs', he, h⟩ := bind_eq_ok.mp h
      cases h
      exact .handler hc hf he
    | false =>
      rw [hf] at h
      cases h
      exact plain (.inl rfl) (fun _ _ => hf) rfl
  | _ =>
    rw [hc] at h plain
    cases h
    exact plain (.inl rfl) nofun rfl

/-- A capability that leaves nothing behind may be removed. -/
inductive Removable (pf : Platform) (cs : CSpace) (slot : Slot) (info : Cap) (cs' : CSpace) : Prop where
  | mk (remainder : Cap) : cs.cap slot ≠ .null → Finalises pf cs slot ⟨remainder, info⟩ cs' →
      capRemovable remainder slot = .ok true → Removable pf cs slot info cs'

/-- A preemption point is passed. -/
def tick (cs : CSpace) : CSpace :=
  { cs with ksWorkUnitsCompleted := cs.ksWorkUnitsCompleted + 1 }

/-- The changes that a deletion is made of. -/
inductive DeleteStep (pf : Platform) (cs : CSpace) : CSpace → Prop where
  /-- A capability is finalised and its slot emptied. -/
  | remove {slot info cs'} : Removable pf cs slot info cs' → DeleteStep pf cs (cs'.emptySlot slot info)
  /-- The only capability to a CNode or TCB becomes a zombie. -/
  | zombify {slot type ptr} : tableOf (cs.cap slot) = some (type, ptr) →
      (isZombie (cs.cap slot) = true ∨ cs.isFinalCapability slot = true) →
      DeleteStep pf cs (cs.setCap slot (.zombie type (slotCount (cs.cap slot)) ptr))
  /-- A zombie moves into the first slot of its own table. -/
  | swap {slot type n ptr} : cs.cap slot = .zombie type n ptr → 0 < n → ptr ≠ slot →
      DeleteStep pf cs (cs.capSwapForDelete ptr slot)
  /-- A zombie gives up its last slot, which is empty. -/
  | shrink {slot type n ptr} : cs.cap slot = .zombie type n ptr → 0 < n →
      cs.cap (slotAt ptr (n - 1)) = .null → DeleteStep pf cs (cs.setCap slot (.zombie type (n - 1) ptr))
  /-- A preemption point is passed. -/
  | tick : DeleteStep pf cs cs.tick

/-- Any number of steps. -/
abbrev DeleteSteps (pf : Platform) : CSpace → CSpace → Prop :=
  Relation.ReflTransGen (DeleteStep pf)

/-- The zombie that a CNode or TCB capability becomes, in its slot. -/
def zombified (cs : CSpace) (slot : Slot) (type : ZombieType) (ptr : Nat) : CSpace :=
  cs.setCap slot (.zombie type (slotCount (cs.cap slot)) ptr)

/-- What is left of a CNode or TCB capability cannot be removed yet. -/
structure Remains (cs : CSpace) (slot : Slot) (type : ZombieType) (ptr : Nat) : Prop where
  table : tableOf (cs.cap slot) = some (type, ptr)
  final : isZombie (cs.cap slot) = true ∨ cs.isFinalCapability slot = true
  pos : 0 < slotCount (cs.cap slot)
  not_last : ¬ (slotCount (cs.cap slot) = 1 ∧ slot = ptr)

/-- What `finaliseSlot` does: it returns, or works on the zombie and goes on. -/
inductive FinaliseSlotCase (pf : Platform) (preempt : Nat → Bool) (fuel : Nat) (slot : Slot)
    (immediate : Bool) (cs : CSpace) : FinaliseSlotRet × CSpace → Prop where
  | empty : cs.cap slot = .null →
      FinaliseSlotCase pf preempt fuel slot immediate cs (⟨.none, true, .null⟩, cs)
  | removable {info cs'} : Removable pf cs slot info cs' →
      FinaliseSlotCase pf preempt fuel slot immediate cs (⟨.none, true, info⟩, cs')
  | cyclic {type} : cs.Remains slot type slot → immediate = false →
      FinaliseSlotCase pf preempt fuel slot immediate cs (⟨.none, false, .null⟩, cs.zombified slot type slot)
  | interrupted {type ptr cs'} : cs.Remains slot type ptr → (immediate = true ∨ ptr ≠ slot) →
      reduceZombie pf preempt fuel slot immediate (cs.zombified slot type ptr) = .ok (.preempted, cs') →
      FinaliseSlotCase pf preempt fuel slot immediate cs (⟨.preempted, false, .null⟩, cs')
  | preempted {type ptr cs'} : cs.Remains slot type ptr → (immediate = true ∨ ptr ≠ slot) →
      reduceZombie pf preempt fuel slot immediate (cs.zombified slot type ptr) = .ok (.none, cs') →
      preempt (cs'.ksWorkUnitsCompleted + 1) = true →
      FinaliseSlotCase pf preempt fuel slot immediate cs (⟨.preempted, false, .null⟩, cs'.tick)
  | again {type ptr cs' r} : cs.Remains slot type ptr → (immediate = true ∨ ptr ≠ slot) →
      reduceZombie pf preempt fuel slot immediate (cs.zombified slot type ptr) = .ok (.none, cs') →
      preempt (cs'.ksWorkUnitsCompleted + 1) = false →
      finaliseSlot pf preempt fuel slot immediate cs'.tick = .ok r →
      FinaliseSlotCase pf preempt fuel slot immediate cs r

lemma capRemovable_zombie {type n ptr slot b} (h : capRemovable (.zombie type n ptr) slot = .ok b) :
    b = true ↔ n = 0 ∨ n = 1 ∧ slot = ptr := by
  cases h
  simp

/-- What `finaliseSlot` can do in one round. -/
lemma finaliseSlot_cases {fuel slot immediate r}
    (h : finaliseSlot pf preempt (fuel + 1) slot immediate cs = .ok r) :
    FinaliseSlotCase pf preempt fuel slot immediate cs r := by
  unfold finaliseSlot at h
  split at h
  · rename_i hnull
    cases h
    exact .empty hnull
  · rename_i hnull
    obtain ⟨⟨fc, cs1⟩, hfc, h⟩ := bind_eq_ok.mp h
    obtain ⟨b, hb, h⟩ := bind_eq_ok.mp h
    have hfin : Finalises pf cs slot fc cs1 := finalises_of_finaliseCap hfc
    cases b with
    | true =>
      cases h
      exact .removable (.mk fc.remainder hnull hfin hb)
    | false =>
      -- only a zombie can remain
      cases hfin with
      | plain => cases hb
      | handler => cases hb
      | @table type ptr ht hz =>
        have hrem := not_or.mp (mt (capRemovable_zombie hb).mpr nofun)
        have rem : cs.Remains slot type ptr := ⟨ht, hz, Nat.pos_of_ne_zero hrem.1, hrem.2⟩
        simp only [Bool.false_eq_true, if_false] at h
        split at h
        · rename_i hcyc
          cases h
          simp only [capCyclicZombie, Bool.and_eq_true, beq_iff_eq, Bool.not_eq_true'] at hcyc
          obtain ⟨himm, rfl⟩ := hcyc
          exact .cyclic rem himm
        · rename_i hcyc
          have hgo : immediate = true ∨ ptr ≠ slot := by
            simp only [capCyclicZombie, Bool.and_eq_true, beq_iff_eq, Bool.not_eq_true', not_and_or,
              Bool.not_eq_false] at hcyc
            exact hcyc
          obtain ⟨⟨status, cs2⟩, hred, h⟩ := bind_eq_ok.mp h
          cases status with
          | preempted =>
            cases h
            exact .interrupted rem hgo hred
          | none =>
            simp only [ne_eq, not_true_eq_false, if_false, preemptionPoint] at h
            cases hp : preempt (cs2.ksWorkUnitsCompleted + 1) with
            | true =>
              simp [hp] at h
              cases h
              exact .preempted rem hgo hred hp
            | false =>
              simp [hp] at h
              exact .again rem hgo hred hp h

/-- What `reduceZombie` does. -/
inductive ReduceZombieCase (pf : Platform) (preempt : Nat → Bool) (fuel : Nat) (slot : Slot)
    (immediate : Bool) (cs : CSpace) (type : ZombieType) (n ptr : Nat) : Status × CSpace → Prop where
  | interrupted {cs' : CSpace} : immediate = true →
      cteDelete pf preempt fuel (slotAt ptr (n - 1)) false cs = .ok (.preempted, cs') →
      ReduceZombieCase pf preempt fuel slot immediate cs type n ptr (.preempted, cs')
  | gone {cs' : CSpace} : immediate = true →
      cteDelete pf preempt fuel (slotAt ptr (n - 1)) false cs = .ok (.none, cs') → cs'.cap slot = .null →
      ReduceZombieCase pf preempt fuel slot immediate cs type n ptr (.none, cs')
  | cleared {cs' : CSpace} : immediate = true →
      cteDelete pf preempt fuel (slotAt ptr (n - 1)) false cs = .ok (.none, cs') →
      cs'.cap slot = .zombie type n ptr → cs'.cap (slotAt ptr (n - 1)) = .null →
      ReduceZombieCase pf preempt fuel slot immediate cs type n ptr
        (.none, cs'.setCap slot (.zombie type (n - 1) ptr))
  | replaced {cs' : CSpace} {type2 n2} : immediate = true →
      cteDelete pf preempt fuel (slotAt ptr (n - 1)) false cs = .ok (.none, cs') →
      cs'.cap slot = .zombie type2 n2 slot → ptr ≠ slot →
      ReduceZombieCase pf preempt fuel slot immediate cs type n ptr (.none, cs')
  | swapped : immediate = false → ptr ≠ slot → capCyclicZombie (cs.cap ptr) ptr = false →
      ReduceZombieCase pf preempt fuel slot immediate cs type n ptr (.none, cs.capSwapForDelete ptr slot)

/-- What `reduceZombie` can do. -/
lemma reduceZombie_cases {fuel slot immediate r}
    (h : reduceZombie pf preempt (fuel + 1) slot immediate cs = .ok r) :
    ∃ type n ptr, cs.cap slot = .zombie type n ptr ∧ 0 < n ∧
      ReduceZombieCase pf preempt fuel slot immediate cs type n ptr r := by
  unfold reduceZombie at h
  split at h
  · rename_i type n ptr hc
    refine ⟨type, n, ptr, hc, ?_⟩
    obtain ⟨_, hpos, h⟩ := bind_eq_ok.mp h
    rw [assert_eq_ok, decide_eq_true_eq] at hpos
    refine ⟨hpos, ?_⟩
    cases immediate with
    | true =>
      simp only [if_true] at h
      obtain ⟨⟨status, cs'⟩, hdel, h⟩ := bind_eq_ok.mp h
      cases status with
      | preempted =>
        cases h
        exact .interrupted rfl hdel
      | none =>
        simp only [ne_eq, not_true_eq_false, if_false] at h
        split at h
        · rename_i hnull
          cases h
          exact .gone rfl hdel hnull
        · rename_i type2 n2 ptr2 hz
          split at h
          · rename_i heq
            obtain ⟨e1, e2, e3⟩ := heq
            rw [← e1, e2, e3] at hz
            obtain ⟨_, hend, h⟩ := bind_eq_ok.mp h
            rw [assert_eq_ok, beq_iff_eq] at hend
            rw [hz] at h
            cases h
            exact .cleared rfl hdel hz hend
          · obtain ⟨_, hself, h⟩ := bind_eq_ok.mp h
            rw [assert_eq_ok, Bool.and_eq_true, beq_iff_eq, bne_iff_ne] at hself
            rw [hself.1] at hz
            cases h
            exact .replaced rfl hdel hz hself.2
        · cases h
    | false =>
      simp only [Bool.false_eq_true, if_false] at h
      obtain ⟨_, hne, h⟩ := bind_eq_ok.mp h
      obtain ⟨_, hcyc, h⟩ := bind_eq_ok.mp h
      rw [assert_eq_ok, bne_iff_ne] at hne
      rw [assert_eq_ok, Bool.not_eq_true'] at hcyc
      cases h
      exact .swapped rfl hne hcyc
  · cases h

/-- What `cteDelete` does. -/
inductive CteDeleteCase (pf : Platform) (preempt : Nat → Bool) (fuel : Nat) (slot : Slot)
    (exposed : Bool) (cs : CSpace) : Status × CSpace → Prop where
  | interrupted {fs} {cs' : CSpace} : finaliseSlot pf preempt fuel slot exposed cs = .ok (fs, cs') →
      fs.status = .preempted → CteDeleteCase pf preempt fuel slot exposed cs (.preempted, cs')
  | emptied {fs} {cs' : CSpace} : finaliseSlot pf preempt fuel slot exposed cs = .ok (fs, cs') →
      fs.status = .none → (exposed = true ∨ fs.success = true) →
      CteDeleteCase pf preempt fuel slot exposed cs (.none, cs'.emptySlot slot fs.cleanupInfo)
  | kept {fs} {cs' : CSpace} : finaliseSlot pf preempt fuel slot exposed cs = .ok (fs, cs') →
      fs.status = .none → exposed = false → fs.success = false →
      CteDeleteCase pf preempt fuel slot exposed cs (.none, cs')

lemma cteDelete_cases {fuel slot exposed r}
    (h : cteDelete pf preempt (fuel + 1) slot exposed cs = .ok r) :
    CteDeleteCase pf preempt fuel slot exposed cs r := by
  unfold cteDelete at h
  obtain ⟨⟨fs, cs'⟩, hfs, h⟩ := bind_eq_ok.mp h
  cases hst : fs.status with
  | preempted =>
    simp only [hst] at h
    cases h
    exact .interrupted hfs hst
  | none =>
    simp only [hst, ne_eq, not_true_eq_false, if_false] at h
    split at h
    · rename_i hcond
      cases h
      rw [Bool.or_eq_true] at hcond
      exact .emptied hfs hst hcond
    · rename_i hcond
      cases h
      rw [Bool.or_eq_true, not_or, Bool.not_eq_true, Bool.not_eq_true] at hcond
      exact .kept hfs hst hcond.1 hcond.2

lemma emptySlot_null {slot} (h : cs.cap slot = .null) (info) : cs.emptySlot slot info = cs := by
  rw [emptySlot, if_pos h]

/-- What `finaliseSlot` leaves for `cteDelete`: an empty slot, or a capability that may be removed. -/
structure FinaliseSlotSteps (pf : Platform) (slot : Slot) (immediate : Bool) (cs : CSpace)
    (r : FinaliseSlotRet × CSpace) : Prop where
  success : immediate = true → r.1.status = .none → r.1.success = true
  steps : DeleteSteps pf cs r.2 ∧ (r.1.success = true → r.2.cap slot = .null) ∨
    ∃ cs₀, DeleteSteps pf cs cs₀ ∧ Removable pf cs₀ slot r.1.cleanupInfo r.2 ∧ r.1.success = true ∧
      r.1.status = .none

lemma FinaliseSlotSteps.trans {slot immediate cs1 r} (h : DeleteSteps pf cs cs1)
    (h' : FinaliseSlotSteps pf slot immediate cs1 r) : FinaliseSlotSteps pf slot immediate cs r := by
  refine ⟨h'.success, ?_⟩
  rcases h'.steps with ⟨hs, hn⟩ | ⟨cs0, hs, hr⟩
  · exact .inl ⟨h.trans hs, hn⟩
  · exact .inr ⟨cs0, h.trans hs, hr⟩

private lemma zombified_step {slot type ptr} (h : cs.Remains slot type ptr) :
    DeleteSteps pf cs (cs.zombified slot type ptr) :=
  .single (.zombify h.table h.final)

/-- By induction on the fuel, every call is a sequence of steps. -/
private lemma steps_of_fuel (pf : Platform) (preempt : Nat → Bool) (fuel : Nat) :
    (∀ slot immediate cs r, finaliseSlot pf preempt fuel slot immediate cs = .ok r →
      FinaliseSlotSteps pf slot immediate cs r) ∧
    (∀ slot immediate cs r, reduceZombie pf preempt fuel slot immediate cs = .ok r →
      DeleteSteps pf cs r.2) ∧
    (∀ slot exposed cs r, cteDelete pf preempt fuel slot exposed cs = .ok r → DeleteSteps pf cs r.2) := by
  induction fuel with
  | zero =>
    refine ⟨fun slot immediate cs r h => ?_, fun slot immediate cs r h => ?_, fun slot exposed cs r h => ?_⟩
    · simp [finaliseSlot] at h
    · simp [reduceZombie] at h
    · simp [cteDelete] at h
  | succ fuel ih =>
    obtain ⟨ihF, ihR, ihD⟩ := ih
    refine ⟨fun slot immediate cs r h => ?_, fun slot immediate cs r h => ?_, fun slot exposed cs r h => ?_⟩
    · cases finaliseSlot_cases h with
      | empty hnull => exact ⟨fun _ _ => rfl, .inl ⟨.refl, fun _ => hnull⟩⟩
      | removable hr => exact ⟨fun _ _ => rfl, .inr ⟨cs, .refl, hr, rfl, rfl⟩⟩
      | cyclic rem himm => exact ⟨fun e => absurd (himm.symm.trans e) nofun, .inl ⟨zombified_step rem, nofun⟩⟩
      | interrupted rem _ hred =>
        exact ⟨nofun, .inl ⟨(zombified_step rem).trans (ihR _ _ _ _ hred), nofun⟩⟩
      | preempted rem _ hred =>
        exact ⟨nofun, .inl ⟨((zombified_step rem).trans (ihR _ _ _ _ hred)).tail .tick, nofun⟩⟩
      | again rem _ hred _ hloop =>
        exact .trans (((zombified_step rem).trans (ihR _ _ _ _ hred)).tail .tick) (ihF _ _ _ _ hloop)
    · obtain ⟨type, n, ptr, hc, hn, h⟩ := reduceZombie_cases h
      cases h with
      | interrupted _ hdel => exact ihD _ _ _ _ hdel
      | gone _ hdel _ => exact ihD _ _ _ _ hdel
      | cleared _ hdel hz hend => exact (ihD _ _ _ _ hdel).tail (.shrink hz hn hend)
      | replaced _ hdel _ _ => exact ihD _ _ _ _ hdel
      | swapped _ hne _ => exact .single (.swap hc hn hne)
    · cases cteDelete_cases h with
      | @interrupted fs cs' hfs hst =>
        rcases (ihF _ _ _ _ hfs).steps with ⟨hs, -⟩ | ⟨_, _, _, _, hst'⟩
        · exact hs
        · exact absurd (hst.symm.trans hst') nofun
      | @emptied fs cs' hfs hst hsucc =>
        have hpost := ihF _ _ _ _ hfs
        have hsucc : fs.success = true := hsucc.elim (fun he => hpost.success he hst) id
        rcases hpost.steps with ⟨hs, hnull⟩ | ⟨cs0, hs, hr, -⟩
        · rw [emptySlot_null (hnull hsucc)]
          exact hs
        · exact hs.tail (.remove hr)
      | @kept fs cs' hfs hst _ hsucc =>
        rcases (ihF _ _ _ _ hfs).steps with ⟨hs, -⟩ | ⟨_, _, _, hsucc', _⟩
        · exact hs
        · exact absurd (hsucc.symm.trans hsucc') nofun

lemma reduceZombie_steps {fuel slot immediate r}
    (h : reduceZombie pf preempt fuel slot immediate cs = .ok r) : DeleteSteps pf cs r.2 :=
  (steps_of_fuel pf preempt fuel).2.1 slot immediate cs r h

lemma cteDelete_steps {fuel slot exposed r} (h : cteDelete pf preempt fuel slot exposed cs = .ok r) :
    DeleteSteps pf cs r.2 :=
  (steps_of_fuel pf preempt fuel).2.2 slot exposed cs r h

/-- What `cteRevoke` does: it deletes the child that comes next and goes on, or returns. -/
inductive CteRevokeCase (pf : Platform) (preempt : Nat → Bool) (fuel : Nat) (slot : Slot) (cs : CSpace) :
    Status × CSpace → Prop where
  | done : (∀ n, cs.mdbNext slot = some n → cs.isMDBParentOf slot n = false) →
      CteRevokeCase pf preempt fuel slot cs (.none, cs)
  | interrupted {n} {cs' : CSpace} : cs.mdbNext slot = some n → cs.isMDBParentOf slot n = true →
      cteDelete pf preempt fuel n true cs = .ok (.preempted, cs') →
      CteRevokeCase pf preempt fuel slot cs (.preempted, cs')
  | preempted {n} {cs' : CSpace} : cs.mdbNext slot = some n → cs.isMDBParentOf slot n = true →
      cteDelete pf preempt fuel n true cs = .ok (.none, cs') →
      preempt (cs'.ksWorkUnitsCompleted + 1) = true →
      CteRevokeCase pf preempt fuel slot cs (.preempted, cs'.tick)
  | again {n} {cs' : CSpace} {r} : cs.mdbNext slot = some n → cs.isMDBParentOf slot n = true →
      cteDelete pf preempt fuel n true cs = .ok (.none, cs') →
      preempt (cs'.ksWorkUnitsCompleted + 1) = false →
      cteRevoke pf preempt fuel slot cs'.tick = .ok r → CteRevokeCase pf preempt fuel slot cs r

lemma cteRevoke_cases {fuel slot r} (h : cteRevoke pf preempt (fuel + 1) slot cs = .ok r) :
    CteRevokeCase pf preempt fuel slot cs r := by
  unfold cteRevoke at h
  split at h
  · rename_i hn
    cases h
    exact .done fun n e => absurd (hn.symm.trans e) nofun
  · rename_i n hn
    split at h
    · rename_i hpar
      obtain ⟨⟨status, cs'⟩, hdel, h⟩ := bind_eq_ok.mp h
      cases status with
      | preempted =>
        cases h
        exact .interrupted hn hpar hdel
      | none =>
        simp only [ne_eq, not_true_eq_false, if_false, preemptionPoint] at h
        cases hp : preempt (cs'.ksWorkUnitsCompleted + 1) with
        | true =>
          simp [hp] at h
          cases h
          exact .preempted hn hpar hdel hp
        | false =>
          simp [hp] at h
          exact .again hn hpar hdel hp h
    · rename_i hpar
      cases h
      refine .done fun m e => ?_
      rw [hn] at e
      cases e
      exact Bool.not_eq_true _ ▸ hpar

lemma cteRevoke_steps {fuel slot r} (h : cteRevoke pf preempt fuel slot cs = .ok r) :
    DeleteSteps pf cs r.2 := by
  induction fuel generalizing cs with
  | zero => simp [cteRevoke] at h
  | succ fuel ih =>
    cases cteRevoke_cases h with
    | done => exact .refl
    | interrupted _ _ hdel => exact cteDelete_steps hdel
    | preempted _ _ hdel => exact (cteDelete_steps hdel).tail .tick
    | again _ _ hdel _ hloop => exact ((cteDelete_steps hdel).tail .tick).trans (ih hloop)

end NexsKernel.CSpace
