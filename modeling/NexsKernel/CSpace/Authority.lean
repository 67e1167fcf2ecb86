import NexsKernel.CSpace.MdbRun
import NexsKernel.CSpace.Safety
import NexsKernel.Lib.Attenuation

/-!
# Authority

Copy, Mint, Move, Mutate, Rotate and the transfer of a capability in a message hand on capabilities. `AtMost c c'`
says that `c'` names what `c` names, with no more rights and with the badge of `c` if it has one. `deriveCap`,
`maskCapRights` and `updateCapData` go down in this order one by one, so the five operations do, whichever of the
three they use, and so does every sequence of them.
-/

namespace NexsKernel

open Function (update update_self update_of_ne update_comm)

/-- What a capability names: an object, its kind and its size. Rights, badges, guards and mappings are left out. -/
def bareCap : Cap → Cap
  | .untyped _ dev size ptr => .untyped 0 dev size ptr
  | .endpoint _ _ _ _ _ ptr => .endpoint 0 false false false false ptr
  | .notification _ _ _ ptr => .notification 0 false false ptr
  | .reply ptr _ => .reply ptr false
  | .cnode radix _ _ ptr => .cnode radix 0 0 ptr
  | .arch (.frame _ base size _ _ dev) => .arch (.frame asidInvalid base size 0 .kernelOnly dev)
  | .arch (.smc _) => .arch (.smc 0)
  | c => c

/-- The rights that a capability carries; a frame is read and written. -/
def rightsOf : Cap → CapRights
  | .endpoint _ canGrantReply canGrant canSend canReceive _ => ⟨canGrantReply, canGrant, canReceive, canSend⟩
  | .notification _ canSend canReceive _ => ⟨false, false, canReceive, canSend⟩
  | .reply _ canGrant => ⟨false, canGrant, false, false⟩
  | .arch (.frame _ _ _ _ vmRights _) => ⟨false, false, vmRights ≠ .kernelOnly, vmRights = .readWrite⟩
  | _ => ⟨false, false, false, false⟩

/-- The badge, where there can be one. -/
def badgeOf : Cap → Nat
  | .endpoint badge _ _ _ _ _ => badge
  | .notification badge _ _ _ => badge
  | .arch (.smc badge) => badge
  | _ => 0

/-- The free index of untyped memory. -/
def freeIndexOf : Cap → Nat
  | .untyped freeIndex _ _ _ => freeIndex
  | _ => 0

/-- A capability that is moved, but never copied. -/
def Single : Cap → Prop
  | .zombie .. | .irqControl => True
  | _ => False

/-- One set of rights is part of another. -/
structure CapRights.Within (r r' : CapRights) : Prop where
  grantReply : r.capAllowGrantReply → r'.capAllowGrantReply
  grant : r.capAllowGrant → r'.capAllowGrant
  read : r.capAllowRead → r'.capAllowRead
  write : r.capAllowWrite → r'.capAllowWrite

/-- `c'` conveys at most the authority of `c`. -/
structure AtMost (c c' : Cap) : Prop where
  names : bareCap c' = bareCap c
  rights : (rightsOf c').Within (rightsOf c)
  badge : badgeOf c = 0 ∨ badgeOf c' = badgeOf c
  free : freeIndexOf c ≤ freeIndexOf c'

lemma CapRights.Within.refl (r : CapRights) : r.Within r := ⟨id, id, id, id⟩

lemma CapRights.Within.trans {r r' r'' : CapRights} (h : r.Within r') (h' : r'.Within r'') : r.Within r'' where
  grantReply := h'.grantReply ∘ h.grantReply
  grant := h'.grant ∘ h.grant
  read := h'.read ∘ h.read
  write := h'.write ∘ h.write

lemma capSizeBits_bareCap (c : Cap) : capSizeBits (bareCap c) = capSizeBits c := by
  cases c with
  | arch c => cases c <;> rfl
  | _ => rfl

lemma single_bareCap (c : Cap) : Single (bareCap c) ↔ Single c := by
  cases c with
  | arch c => cases c <;> rfl
  | _ => rfl

lemma maskVMRights_ne_kernelOnly {vmRights rights} (h : maskVMRights vmRights rights ≠ .kernelOnly) :
    vmRights ≠ .kernelOnly := by
  rintro rfl
  exact h (by simp [maskVMRights])

lemma eq_readWrite_of_maskVMRights {vmRights rights} (h : maskVMRights vmRights rights = .readWrite) :
    vmRights = .readWrite := by
  cases vmRights with
  | readWrite => rfl
  | kernelOnly => simp [maskVMRights] at h
  | readOnly => cases hr : rights.capAllowRead <;> simp [maskVMRights, hr] at h

namespace AtMost

variable {c c' c'' : Cap}

lemma refl (c : Cap) : AtMost c c := ⟨rfl, .refl _, .inr rfl, le_rfl⟩

lemma trans (h : AtMost c c') (h' : AtMost c' c'') : AtMost c c'' where
  names := h'.names.trans h.names
  rights := h'.rights.trans h.rights
  badge := by
    rcases h.badge with e | e
    · exact .inl e
    · rcases h'.badge with e' | e'
      · exact .inl (e.symm.trans e')
      · exact .inr (e'.trans e)
  free := h.free.trans h'.free

lemma size (h : AtMost c c') : capSizeBits c' = capSizeBits c := by
  rw [← capSizeBits_bareCap, h.names, capSizeBits_bareCap]

lemma single (h : AtMost c c') (hc : Single c') : Single c := by
  rw [← single_bareCap] at hc ⊢
  rwa [← h.names]

/-- An endpoint capability with a badge keeps its badge. -/
lemma endpoint {badge gr g w r ptr} (h : AtMost (.endpoint badge gr g w r ptr) c') (hb : badge ≠ 0) :
    ∃ gr' g' w' r', c' = .endpoint badge gr' g' w' r' ptr := by
  cases c' with
  | endpoint badge' gr' g' w' r' ptr' =>
    have e : badge' = badge := h.badge.resolve_left hb
    have e' : ptr' = ptr := by
      have := h.names
      simp only [bareCap, Cap.endpoint.injEq] at this
      exact this.2.2.2.2.2
    exact ⟨gr', g', w', r', by rw [e, e']⟩
  | arch c => cases c <;> exact nomatch h.names
  | _ => exact nomatch h.names

/-- So does one to a notification. -/
lemma notification {badge w r ptr} (h : AtMost (.notification badge w r ptr) c') (hb : badge ≠ 0) :
    ∃ w' r', c' = .notification badge w' r' ptr := by
  cases c' with
  | notification badge' w' r' ptr' =>
    have e : badge' = badge := h.badge.resolve_left hb
    have e' : ptr' = ptr := by
      have := h.names
      simp only [bareCap, Cap.notification.injEq] at this
      exact this.2.2.2
    exact ⟨w', r', by rw [e, e']⟩
  | arch c => cases c <;> exact nomatch h.names
  | _ => exact nomatch h.names

/-! ## The three functions -/

lemma maskCapRights (rights : CapRights) (c : Cap) : AtMost c (maskCapRights rights c) := by
  cases c with
  | endpoint | notification | reply =>
    exact ⟨rfl, by constructor <;> simp +contextual [NexsKernel.maskCapRights, rightsOf], .inr rfl, le_rfl⟩
  | arch c =>
    cases c with
    | frame asid base size addr vmRights dev =>
      refine ⟨rfl, ⟨fun h => ?_, fun h => ?_, fun h => ?_, fun h => ?_⟩, .inr rfl, le_rfl⟩
      · cases h
      · cases h
      · exact decide_eq_true (maskVMRights_ne_kernelOnly (of_decide_eq_true h))
      · exact decide_eq_true (eq_readWrite_of_maskVMRights (of_decide_eq_true h))
    | _ => exact .refl _
  | _ => exact .refl _

lemma updateCapData {preserve data} (h : updateCapData preserve data c ≠ .null) :
    AtMost c (updateCapData preserve data c) := by
  cases c with
  | endpoint badge | notification badge =>
    by_cases hb : (!preserve && badge == 0) = true
    · rw [NexsKernel.updateCapData, if_pos hb]
      simp only [Bool.and_eq_true, beq_iff_eq] at hb
      exact ⟨rfl, .refl _, .inl hb.2, le_rfl⟩
    · exact absurd (if_neg hb) h
  | cnode radix guardSize guard ptr =>
    by_cases hsize : capDataGuardSize data + radix > wordBits
    · exact absurd (if_pos hsize) h
    · simp only [NexsKernel.updateCapData, if_neg hsize]
      exact ⟨rfl, .refl _, .inr rfl, le_rfl⟩
  | arch c =>
    cases c with
    | smc badge =>
      by_cases hb : (!preserve && badge == 0) = true
      · rw [NexsKernel.updateCapData, if_pos hb]
        simp only [Bool.and_eq_true, beq_iff_eq] at hb
        exact ⟨rfl, .refl _, .inl hb.2, le_rfl⟩
      · exact absurd (if_neg hb) h
    | _ => exact .refl _
  | _ => exact .refl _

lemma deriveCap {cs : CSpace} {slot} (h : cs.deriveCap slot c = .ok c') (hn : c' ≠ .null) :
    AtMost c c' ∧ ¬ Single c' := by
  cases c with
  | arch c =>
    cases c with
    | vspace | pageTable =>
      simp only [CSpace.deriveCap, CSpace.archDeriveCap] at h
      split at h
      · cases h
        exact ⟨.refl _, id⟩
      · cases h
    | frame =>
      cases h
      exact ⟨⟨rfl, .refl _, .inr rfl, le_rfl⟩, id⟩
    | _ =>
      cases h
      exact ⟨.refl _, id⟩
  | untyped freeIndex dev size ptr =>
    simp only [CSpace.deriveCap] at h
    obtain ⟨_, -, e⟩ := bind_eq_ok.mp h
    cases e
    exact ⟨.refl _, id⟩
  | zombie | irqControl =>
    cases h
    exact absurd rfl hn
  | _ =>
    cases h
    exact ⟨.refl _, id⟩

lemma markFull (h : WellFormed c) (c') : AtMost c (CSpace.markFull c c') := by
  unfold CSpace.markFull
  split
  · split
    · exact ⟨rfl, .refl _, .inl rfl, h.2.2.1⟩
    · exact .refl _
  · exact .refl _

end AtMost

/-- Capabilities in the order of their authority. -/
def authority : Attenuation Cap where
  le := AtMost
  Empty c := c = .null
  Single := Single
  refl := AtMost.refl
  trans := AtMost.trans
  single_of_le := AtMost.single
  not_empty h e := by
    rw [e] at h
    exact h

namespace CSpace

open Links

/-- An operation that hands on capabilities. -/
inductive Grant where
  | copy (op : CopyOp) (src dest : Slot)
  | rotate (srcData pivotData : Nat) (src pivot dest : Slot)
  | transfer (src dest : Slot)

/-- From which slot to which slot. -/
def Grant.places : Grant → List (Slot × Slot)
  | .copy _ src dest => [(src, dest)]
  | .rotate _ _ src pivot dest => [(pivot, dest), (src, pivot)]
  | .transfer src dest => [(src, dest)]

/-- Where the capability in a slot was before. -/
def Grant.origin (g : Grant) : Slot → Slot :=
  g.places.foldr (fun p origin => update origin p.2 p.1) id

/-- What is handed to `deriveCap`. -/
def Grant.offered (cs : CSpace) : Grant → Option (Slot × Cap)
  | .copy (.copy rights) src _ => some (src, maskCapRights rights (cs.cap src))
  | .copy (.mint rights capData) src _ => some (src, updateCapData false capData (maskCapRights rights (cs.cap src)))
  | .transfer src _ => some (src, cs.cap src)
  | .copy .move _ _ | .copy (.mutate _) _ _ | .rotate .. => none

/-- The operation is accepted, and returns. -/
inductive Grants (cs : CSpace) : Grant → CSpace → Prop where
  | copy {op src dest cap} {cs' : CSpace} : cs.decodeCopy op src dest = .ok cap → cs.InCNode src →
      cs.InCNode dest → cs.invokeCNodeCopy op cap src dest = .ok cs' → Grants cs (.copy op src dest) cs'
  | rotate {srcData pivotData src pivot dest caps} {cs' : CSpace} :
      cs.decodeRotate srcData pivotData src pivot dest = .ok caps → cs.InCNode src → cs.InCNode pivot →
      cs.InCNode dest → cs.invokeCNodeRotate caps.1 caps.2 src pivot dest = .ok cs' →
      Grants cs (.rotate srcData pivotData src pivot dest) cs'
  | transfer {src dest cap} {cs' : CSpace} : cs.cap dest = .null → cs.InCNode dest →
      cs.deriveCap src (cs.cap src) = .ok cap → cap ≠ .null → cs.cteInsert cap src dest = .ok cs' →
      Grants cs (.transfer src dest) cs'

/-- Operations one after the other; one that is refused changes nothing and is left out. -/
inductive Grants.Run : CSpace → List Grant → CSpace → Prop where
  | nil (cs : CSpace) : Run cs [] cs
  | cons {cs cs₁ cs' : CSpace} {g gs} : Grants cs g cs₁ → Run cs₁ gs cs' → Run cs (g :: gs) cs'

/-- Where the capability in a slot was before all of them. -/
def originOf : List Grant → Slot → Slot
  | [] => id
  | g :: gs => g.origin ∘ originOf gs

variable {pf : Platform} {cs cs' : CSpace}

lemma Grants.step {g} (h : Grants cs g cs') : Step pf cs cs' := by
  cases h with
  | copy hdec hsrc hdest he => exact .copy hdec hsrc hdest he
  | rotate hdec hsrc hpivot hdest he => exact .rotate hdec hsrc hpivot hdest he
  | transfer hd hdest hder hn he => exact .transfer hd hdest hder hn he

/-- `cteInsert` of what was derived from the source. -/
lemma Inv.cteInsert_flow (i : Inv pf cs) {src dest c} (hd : cs.cap dest = .null) (hs : cs.cap src ≠ .null)
    (h : AtMost (cs.cap src) c) (hc : ¬ Single c) (hn : c ≠ .null) (he : cs.cteInsert c src dest = .ok cs') :
    Flow authority cs.cap cs'.cap (update id dest src) ∧ cs'.cap dest = c := by
  have legal : Mdb.Legal cs (.cteInsert c src dest) := ⟨hd, hs, hn⟩
  obtain ⟨cs1, e, effect⟩ := Mdb.exec_effect i.linked legal
  have e1 : cs1 = cs' := Except.ok.inj (e.symm.trans he)
  subst e1
  have hne : src ≠ dest := by
    rintro rfl
    exact hs hd
  have copied : Flow authority cs.cap (update cs.cap dest c) (update id dest src) := .copy hs h hc
  have hsrc : update cs.cap dest c src = cs.cap src := update_of_ne hne ..
  have full : Flow authority (update cs.cap dest c)
      (update (update cs.cap dest c) src (markFull (cs.cap src) c)) id := by
    refine .amend ?_ ?_
    · rwa [hsrc]
    · rw [hsrc]
      exact .markFull (i.memory.wellFormed src) c
  rw [effect.cap]
  refine ⟨?_, update_self ..⟩
  have e2 : Mdb.capsAfter cs (.cteInsert c src dest) = _ := update_comm hne ..
  rw [e2]
  exact copied.trans full

/-- `cteMove`. -/
lemma Inv.cteMove_flow (w : cs.WellLinked) {src dest c} (hd : cs.cap dest = .null) (hs : cs.cap src ≠ .null)
    (h : AtMost (cs.cap src) c) (he : cs.cteMove c src dest = .ok cs') :
    Flow authority cs.cap cs'.cap (update id dest src) ∧ cs'.cap dest = c := by
  rw [cteMove_eq cs w c hd hs] at he
  cases he
  exact ⟨.move hs hd h, setCap_cap_self ..⟩

/-- `cteSwap`. -/
lemma Inv.cteSwap_flow (w : cs.WellLinked) {slot1 slot2 cap1 cap2} (hne : slot1 ≠ slot2)
    (h1 : cs.cap slot1 ≠ .null) (h2 : cs.cap slot2 ≠ .null) (le1 : AtMost (cs.cap slot1) cap1)
    (le2 : AtMost (cs.cap slot2) cap2) :
    Flow authority cs.cap (cs.cteSwap cap1 slot1 cap2 slot2).cap
      (update (update id slot2 slot1) slot1 slot2) := by
  rw [cteSwap_eq cs w cap1 cap2 hne]
  have swapped : Flow authority cs.cap (cs.cap ∘ Equiv.swap slot1 slot2) (Equiv.swap slot1 slot2) := .permute _ _
  have e1 : (cs.cap ∘ Equiv.swap slot1 slot2) slot1 = cs.cap slot2 := by
    rw [Function.comp_apply, Equiv.swap_apply_left]
  have first : Flow authority (cs.cap ∘ Equiv.swap slot1 slot2)
      (update (cs.cap ∘ Equiv.swap slot1 slot2) slot1 cap2) id := by
    refine .amend ?_ ?_
    · rwa [e1]
    · rwa [e1]
  have e2 : update (cs.cap ∘ Equiv.swap slot1 slot2) slot1 cap2 slot2 = cs.cap slot1 := by
    rw [update_of_ne hne.symm, Function.comp_apply, Equiv.swap_apply_right]
  have second : Flow authority (update (cs.cap ∘ Equiv.swap slot1 slot2) slot1 cap2)
      (update (update (cs.cap ∘ Equiv.swap slot1 slot2) slot1 cap2) slot2 cap1) id := by
    refine .amend ?_ ?_
    · rwa [e2]
    · rwa [e2]
  refine ((swapped.trans first).trans second).congr fun s _ => ?_
  by_cases h1 : s = slot1
  · rw [h1, update_self]
    exact (Equiv.swap_apply_left _ _).symm
  · rw [update_of_ne h1]
    by_cases h2 : s = slot2
    · rw [h2, update_self]
      exact (Equiv.swap_apply_right _ _).symm
    · rw [update_of_ne h2]
      exact (Equiv.swap_apply_of_ne_of_ne h1 h2).symm

/-- What Copy, Mint, Move and Mutate accept. -/
lemma atMost_newCap {op src c} (h : cs.newCap src op = .ok c) (hn : c ≠ .null) : AtMost (cs.cap src) c := by
  cases op with
  | copy rights => exact (AtMost.maskCapRights rights _).trans (AtMost.deriveCap h hn).1
  | mint rights data =>
    have hc : updateCapData false data (maskCapRights rights (cs.cap src)) ≠ .null := by
      intro e
      have h' : cs.deriveCap src (updateCapData false data (maskCapRights rights (cs.cap src))) = .ok c := h
      rw [e] at h'
      exact hn (Except.ok.inj h').symm
    exact ((AtMost.maskCapRights rights _).trans (.updateCapData hc)).trans (AtMost.deriveCap h hn).1
  | move =>
    cases h
    exact .refl _
  | mutate data =>
    cases h
    exact .updateCapData hn

/-- What Rotate accepts. -/
lemma atMost_decodeRotate {srcData pivotData src pivot dest caps}
    (h : cs.decodeRotate srcData pivotData src pivot dest = .ok caps) :
    (AtMost (cs.cap src) caps.1 ∧ caps.1 ≠ .null) ∧ AtMost (cs.cap pivot) caps.2 ∧ caps.2 ≠ .null := by
  simp only [decodeRotate, refuseIf_bind] at h
  obtain ⟨-, -, -, -, h1, h2, e⟩ := h
  cases e
  exact ⟨⟨.updateCapData h1, h1⟩, .updateCapData h2, h2⟩

/-- What an operation has done. -/
structure Granted (cs : CSpace) (g : Grant) (cs' : CSpace) : Prop where
  flow : Flow authority cs.cap cs'.cap g.origin
  placed : ∀ p ∈ g.places, g.origin p.2 = p.1 ∧ cs'.cap p.2 ≠ .null
  derived : ∀ slot c, g.offered cs = some (slot, c) → ∀ p ∈ g.places, cs.deriveCap slot c = .ok (cs'.cap p.2)

lemma Inv.granted_copy (i : Inv pf cs) {op src dest cap} (hdec : cs.decodeCopy op src dest = .ok cap)
    (he : cs.invokeCNodeCopy op cap src dest = .ok cs') : Granted cs (.copy op src dest) cs' := by
  obtain ⟨hd, hs, hnew, hn⟩ := decodeCopy_ok hdec
  have le := atMost_newCap hnew hn
  have key : Flow authority cs.cap cs'.cap (update id dest src) ∧ cs'.cap dest = cap := by
    cases op with
    | copy rights | mint rights data => exact i.cteInsert_flow hd hs le (AtMost.deriveCap hnew hn).2 hn he
    | move | mutate data => exact Inv.cteMove_flow i.linked hd hs le he
  refine ⟨key.1, fun p hp => ?_, fun slot c hc p hp => ?_⟩
  · rw [List.mem_singleton.mp hp, key.2]
    exact ⟨update_self .., hn⟩
  · rw [List.mem_singleton.mp hp, key.2]
    cases op with
    | copy | mint =>
      cases hc
      exact hnew
    | _ => cases hc

lemma Inv.granted_transfer (i : Inv pf cs) {src dest cap} (hd : cs.cap dest = .null)
    (hder : cs.deriveCap src (cs.cap src) = .ok cap) (hn : cap ≠ .null) (he : cs.cteInsert cap src dest = .ok cs') :
    Granted cs (.transfer src dest) cs' := by
  obtain ⟨le, hsingle⟩ := AtMost.deriveCap hder hn
  have hs : cs.cap src ≠ .null := by
    intro e
    rw [e] at hder
    exact hn (Except.ok.inj hder).symm
  have key := i.cteInsert_flow hd hs le hsingle hn he
  refine ⟨key.1, fun p hp => ?_, fun slot c hc p hp => ?_⟩
  · rw [List.mem_singleton.mp hp, key.2]
    exact ⟨update_self .., hn⟩
  · rw [List.mem_singleton.mp hp, key.2]
    cases hc
    exact hder

/-- Both capabilities of a rotation come from those that were there. -/
lemma Inv.granted_rotate (i : Inv pf cs) {srcData pivotData src pivot dest caps}
    (hdec : cs.decodeRotate srcData pivotData src pivot dest = .ok caps)
    (he : cs.invokeCNodeRotate caps.1 caps.2 src pivot dest = .ok cs') :
    Granted cs (.rotate srcData pivotData src pivot dest) cs' := by
  obtain ⟨⟨hps, hpd⟩, hd, ⟨hs, hp⟩, -⟩ := decodeRotate_ok hdec
  obtain ⟨⟨le1, hn1⟩, le2, hn2⟩ := atMost_decodeRotate hdec
  have key : Flow authority cs.cap cs'.cap (update (update id pivot src) dest pivot) ∧
      cs'.cap pivot = caps.1 ∧ cs'.cap dest = caps.2 := by
    unfold CSpace.invokeCNodeRotate at he
    by_cases e : src = dest
    · subst e
      rw [if_pos rfl] at he
      cases he
      refine ⟨Inv.cteSwap_flow i.linked hps.symm hs hp le1 le2, ?_⟩
      rw [cteSwap_eq cs i.linked _ _ hps.symm]
      exact ⟨setCap_cap_self .., (setCap_cap_of_ne _ hps.symm _).trans (setCap_cap_self ..)⟩
    · rw [if_neg e] at he
      obtain ⟨cs1, h1, h2⟩ := bind_eq_ok.mp he
      -- the pivot leaves its slot, into which the source moves
      obtain ⟨flow1, ed⟩ := Inv.cteMove_flow i.linked (hd e) hp le2 h1
      have legal : Mdb.Legal cs (.cteMove caps.2 pivot dest) := ⟨hd e, hp, hn2⟩
      obtain ⟨cs2, e2, effect⟩ := Mdb.exec_effect i.linked legal
      have e3 : cs2 = cs1 := Except.ok.inj (e2.symm.trans h1)
      subst e3
      have epivot : cs2.cap pivot = .null := by
        rw [effect.cap]
        exact (update_of_ne hpd ..).trans (update_self ..)
      have esrc : cs2.cap src = cs.cap src := by
        rw [effect.cap]
        exact (update_of_ne e ..).trans (update_of_ne hps.symm ..)
      have hs2 : cs2.cap src ≠ .null := by rwa [esrc]
      have le₂ : AtMost (cs2.cap src) caps.1 := by rwa [esrc]
      obtain ⟨flow2, ep⟩ := Inv.cteMove_flow effect.wellLinked epivot hs2 le₂ h2
      refine ⟨(flow1.trans flow2).congr fun s _ => ?_, ep, ?_⟩
      · by_cases hsd : s = dest
        · rw [hsd, update_self, Function.comp_apply, update_of_ne hpd.symm]
          exact (update_self dest pivot id).symm
        · rw [update_of_ne hsd, Function.comp_apply]
          by_cases hsp : s = pivot
          · rw [hsp, update_self, update_of_ne e]
            rfl
          · rw [update_of_ne hsp]
            exact (update_of_ne hsd pivot id).symm
      · rw [cteMove_eq cs2 effect.wellLinked _ epivot hs2] at h2
        cases h2
        have hsd : dest ≠ src := fun h => e h.symm
        rw [setCap_cap_of_ne _ hpd.symm, exchange_cap, Equiv.swap_apply_of_ne_of_ne hsd hpd.symm]
        exact ed
  refine ⟨key.1, fun p hp => ?_, nofun⟩
  rcases List.mem_cons.mp hp with rfl | hp
  · refine ⟨update_self .., ?_⟩
    show cs'.cap dest ≠ .null
    rwa [key.2.2]
  · rw [List.mem_singleton.mp hp]
    refine ⟨(update_of_ne hpd ..).trans (update_self ..), ?_⟩
    show cs'.cap pivot ≠ .null
    rwa [key.2.1]

lemma Inv.granted (i : Inv pf cs) {g} (h : Grants cs g cs') : Granted cs g cs' := by
  cases h with
  | copy hdec _ _ he => exact i.granted_copy hdec he
  | rotate hdec _ _ _ he => exact i.granted_rotate hdec he
  | transfer hd _ hder hn he => exact i.granted_transfer hd hder hn he

lemma Reachable.run_flow (h : Reachable pf cs) {gs} (hr : Grants.Run cs gs cs') :
    Flow authority cs.cap cs'.cap (originOf gs) := by
  induction hr with
  | nil => exact .refl _
  | cons hg _ ih => exact (h.inv.granted hg).flow.trans (ih (h.step hg.step))

/-- The authority after some operations, with the slots where it was before. -/
structure NoGrowth (cs cs' : CSpace) (origin : Slot → Slot) : Prop where
  /-- A capability names what its origin names, and conveys no more. -/
  atMost : ∀ s, cs'.cap s ≠ .null → AtMost (cs.cap (origin s)) (cs'.cap s)
  size : ∀ s, cs'.cap s ≠ .null → capSizeBits (cs'.cap s) = capSizeBits (cs.cap (origin s))
  /-- A badge stays. -/
  endpoint : ∀ s badge gr g w r ptr, cs'.cap s ≠ .null → cs.cap (origin s) = .endpoint badge gr g w r ptr →
    badge ≠ 0 → ∃ gr' g' w' r', cs'.cap s = .endpoint badge gr' g' w' r' ptr
  notification : ∀ s badge w r ptr, cs'.cap s ≠ .null → cs.cap (origin s) = .notification badge w r ptr →
    badge ≠ 0 → ∃ w' r', cs'.cap s = .notification badge w' r' ptr
  /-- Zombies and the capability that controls the interrupts are not copied. -/
  single : ∀ s t, Single (cs'.cap s) → Single (cs'.cap t) → origin s = origin t → s = t

/-- In every run authority never grows. Each operation puts a capability into each of its destinations, with at
most the authority of the source, and what Copy, Mint and a message put there is what `deriveCap` returned. -/
theorem authority_never_grows (h : Reachable pf cs) :
    (∀ g cs', Grants cs g cs' →
      (∀ p ∈ g.places, cs'.cap p.2 ≠ .null ∧ AtMost (cs.cap p.1) (cs'.cap p.2)) ∧
        ∀ slot c, g.offered cs = some (slot, c) → ∀ p ∈ g.places,
          cs.deriveCap slot c = .ok (cs'.cap p.2) ∧ ¬ Single (cs'.cap p.2)) ∧
      ∀ gs cs', Grants.Run cs gs cs' → NoGrowth cs cs' (originOf gs) := by
  refine ⟨fun g cs' hg => ?_, fun gs cs' hr => ?_⟩
  · have done := h.inv.granted hg
    refine ⟨fun p hp => ?_, fun slot c hc p hp => ?_⟩
    · obtain ⟨e, hn⟩ := done.placed p hp
      have le := (done.flow.le _ hn).2
      rw [e] at le
      exact ⟨hn, le⟩
    · have hd := done.derived slot c hc p hp
      exact ⟨hd, (AtMost.deriveCap hd (done.placed p hp).2).2⟩
  · have flow := h.run_flow hr
    have atMost : ∀ s, cs'.cap s ≠ .null → AtMost (cs.cap (originOf gs s)) (cs'.cap s) := fun s hs => (flow.le s hs).2
    refine ⟨atMost, fun s hs => (atMost s hs).size, fun s badge gr g w r ptr hs e hb => ?_,
      fun s badge w r ptr hs e hb => ?_, flow.single⟩
    · have le := atMost s hs
      rw [e] at le
      exact le.endpoint hb
    · have le := atMost s hs
      rw [e] at le
      exact le.notification hb

/-- What is accepted by Copy, Mint, Move or Mutate is done. -/
lemma Inv.grants_callCopy (i : Inv pf cs) {op src dest cap} (h : cs.decodeCopy op src dest = .ok cap)
    (hsrc : cs.InCNode src) (hdest : cs.InCNode dest) : Grants cs (.copy op src dest) (cs.callCopy op src dest) := by
  obtain ⟨hd, hs, -, hn⟩ := decodeCopy_ok h
  have returns : ∃ cs', cs.invokeCNodeCopy op cap src dest = .ok cs' := by
    cases op with
    | copy | mint => exact ⟨_, cteInsert_eq cs i.linked cap hd hs⟩
    | move | mutate => exact ⟨_, cteMove_eq cs i.linked cap hd hs⟩
  obtain ⟨cs', he⟩ := returns
  have e : cs.callCopy op src dest = cs' := by
    unfold CSpace.callCopy
    rw [h]
    dsimp only
    rw [he]
  rw [e]
  exact .copy h hsrc hdest he

/-- An endpoint in the page that is left after booting. -/
def oneEndpoint : CSpace :=
  (bootState (armVirt 1) armVirtBoot).callRetype pageSlot 2 0 (armVirtBoot.rootSlot .initThreadCNode) 30 1

/-- The slot for its copy. -/
abbrev badgedSlot : Slot := slotAt armVirtBoot.cnode 31

/-- Mint, with a badge and without the right to grant. -/
abbrev mintSeven : CopyOp :=
  .mint ⟨false, false, true, true⟩ 7

lemma reachable_oneEndpoint : Reachable (armVirt 1) oneEndpoint :=
  reachable_armVirt.callRetype

lemma grants_mintSeven :
    Grants oneEndpoint (.copy mintSeven newSlot badgedSlot) (oneEndpoint.callCopy mintSeven newSlot badgedSlot) := by
  have hc : oneEndpoint.cap (armVirtBoot.rootSlot .initThreadCNode) = armVirtBoot.rootCNodeCap := by
    decide +kernel
  have hdec : oneEndpoint.decodeCopy mintSeven newSlot badgedSlot =
      .ok (.endpoint 7 false false true true 0x8060000000) := by
    decide +kernel
  exact reachable_oneEndpoint.inv.grants_callCopy hdec (inCNode_slotAt hc (by decide)) (inCNode_slotAt hc (by decide))

/-- The copy of an endpoint gets a badge. -/
theorem authority_never_grows_mintSeven :
    AtMost (oneEndpoint.cap newSlot) ((oneEndpoint.callCopy mintSeven newSlot badgedSlot).cap badgedSlot) ∧
      NoGrowth oneEndpoint (oneEndpoint.callCopy mintSeven newSlot badgedSlot)
        (originOf [.copy mintSeven newSlot badgedSlot]) := by
  obtain ⟨handed, runs⟩ := authority_never_grows reachable_oneEndpoint
  have placed := (handed _ _ grants_mintSeven).1 (newSlot, badgedSlot) (List.mem_singleton_self _)
  dsimp only at placed
  exact ⟨placed.2, runs _ _ (.cons grants_mintSeven (.nil _))⟩

end CSpace

end NexsKernel
