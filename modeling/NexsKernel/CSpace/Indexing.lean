import NexsKernel.CSpace.Interrupts

/-!
# CNodes resolve bits

Every CNode has at least two slots, a guard that fits into its size, and resolves no more bits than a word has.
`decodeUntypedInvocation` and `updateCapData` check this, and nothing else makes a CNode capability
(`Reachable.indexed`).
-/

namespace NexsKernel

/-- What the guard and the radix of a CNode capability satisfy. -/
def Indexing : Cap → Prop
  | .cnode radix guardSize guard _ =>
    (0 < radix ∧ radix < wordBits) ∧ radix + guardSize ≤ wordBits ∧ guard < 2 ^ guardSize
  | _ => True

lemma Indexing.updateCapData {c : Cap} (h : Indexing c) (preserve data) : Indexing (updateCapData preserve data c) := by
  cases c with
  | cnode radix guardSize guard ptr =>
    show Indexing (if capDataGuardSize data + radix > wordBits then .null else _)
    split
    · trivial
    · rename_i hle
      exact ⟨h.1, by omega, Nat.mod_lt _ (Nat.two_pow_pos _)⟩
  | endpoint | notification =>
    dsimp only [NexsKernel.updateCapData]
    split <;> trivial
  | arch c =>
    cases c with
    | smc =>
      dsimp only [NexsKernel.updateCapData]
      split <;> trivial
    | _ => trivial
  | _ => trivial

lemma Indexing.maskCapRights {c : Cap} (h : Indexing c) (rights) : Indexing (maskCapRights rights c) := by
  cases c with
  | arch c => cases c <;> trivial
  | cnode => exact h
  | _ => trivial

namespace CSpace

variable {pf : Platform} {preempt : Nat → Bool} {cs cs' : CSpace}

/-- Every CNode capability is as it should be. -/
def Indexed (cs : CSpace) : Prop :=
  ∀ s, Indexing (cs.cap s)

lemma indexing_markFull {c : Cap} (h : Indexing c) (newCap) : Indexing (markFull c newCap) := by
  unfold markFull
  split
  · split <;> trivial
  · exact h

lemma indexing_setFreeIndex {c : Cap} (h : Indexing c) (freeIndex) : Indexing (setFreeIndex freeIndex c) := by
  cases c with
  | cnode => exact h
  | _ => trivial

lemma indexing_deriveCap {slot c c'} (h : cs.deriveCap slot c = .ok c') (hc : Indexing c) : Indexing c' := by
  cases c with
  | cnode =>
    cases h
    exact hc
  | untyped =>
    obtain ⟨_, _, h⟩ := bind_eq_ok.mp h
    cases h
    trivial
  | arch c =>
    cases c with
    | vspace | pageTable =>
      simp only [deriveCap, archDeriveCap] at h
      split at h
      · cases h
        trivial
      · cases h
    | _ =>
      cases h
      trivial
  | _ =>
    cases h
    trivial

namespace Indexed

/-- The new capability of an invocation with a source slot. -/
lemma newCap (h : cs.Indexed) {src op c} (e : cs.newCap src op = .ok c) : Indexing c := by
  cases op with
  | copy rights => exact indexing_deriveCap e ((h src).maskCapRights rights)
  | mint rights data => exact indexing_deriveCap e (((h src).maskCapRights rights).updateCapData false data)
  | move =>
    cases e
    exact h src
  | mutate data =>
    cases e
    exact (h src).updateCapData true data

/-! ## Slots that are written -/

/-- One slot is written. -/
lemma update (h : cs.Indexed) {d c} (hc : Indexing c) (e : cs'.cap = Function.update cs.cap d c) : cs'.Indexed := by
  intro s
  rw [e]
  by_cases hs : s = d
  · rwa [hs, Function.update_self]
  · rw [Function.update_of_ne hs]
    exact h s

lemma setCap (h : cs.Indexed) {c} (hc : Indexing c) (slot : Slot) : (cs.setCap slot c).Indexed :=
  h.update hc rfl

lemma cteInsert (h : cs.Indexed) {c src dest} (hc : Indexing c) (e : cs.cteInsert c src dest = .ok cs') :
    cs'.Indexed := by
  obtain ⟨-, -, e⟩ := cteInsert_ok e
  have full : (cs.setCap src (markFull (cs.cap src) c)).Indexed := h.setCap (indexing_markFull (h src) c) src
  exact full.update hc e

lemma cteMove (h : cs.Indexed) {c src dest} (hc : Indexing c) (e : cs.cteMove c src dest = .ok cs') : cs'.Indexed := by
  obtain ⟨-, -, e⟩ := cteMove_ok e
  have moved : (cs.setCap dest c).Indexed := h.setCap hc dest
  exact @update (cs.setCap dest c) cs' moved src .null trivial e

lemma cteSwap (h : cs.Indexed) {cap1 cap2 slot1 slot2} (h1 : Indexing cap1) (h2 : Indexing cap2) :
    (cs.cteSwap cap1 slot1 cap2 slot2).Indexed := by
  have first : (cs.setCap slot1 cap2).Indexed := h.setCap h2 slot1
  exact first.update h1 (cteSwap_effect cap1 cap2 slot1 slot2).2

lemma emptySlot (h : cs.Indexed) {slot info} : (cs.emptySlot slot info).Indexed :=
  h.update (c := .null) trivial (emptySlot_cap slot info)

lemma cteDeleteOne (h : cs.Indexed) {slot} (e : cs.cteDeleteOne slot = .ok cs') : cs'.Indexed := by
  rcases cteDeleteOne_cases e with ⟨-, rfl⟩ | ⟨-, -, rfl⟩
  · exact h
  · exact h.emptySlot

lemma clearMemory (h : cs.Indexed) {ptr bits} : (cs.clearMemory ptr bits).Indexed := by
  intro s
  show Indexing (if ptr ≤ s ∧ s < ptr + 2 ^ bits then .null else cs.cap s)
  split
  · trivial
  · exact h s

/-! ## Deletion -/

lemma deleteStep (h : cs.Indexed) (hd : DeleteStep pf cs cs') : cs'.Indexed := by
  cases hd with
  | remove hr =>
    obtain ⟨_, _, hfin, _⟩ := hr
    cases hfin with
    | plain => exact h.emptySlot
    | table => exact h.emptySlot
    | handler _ _ hdel => exact (h.cteDeleteOne hdel).emptySlot
  | zombify => exact h.setCap (c := .zombie ..) trivial _
  | swap _ _ hne =>
    unfold capSwapForDelete
    rw [if_neg hne]
    exact h.cteSwap (h _) (h _)
  | shrink => exact h.setCap (c := .zombie ..) trivial _
  | tick => exact h

lemma deleteSteps (h : cs.Indexed) (hd : DeleteSteps pf cs cs') : cs'.Indexed := by
  induction hd with
  | refl => exact h
  | tail _ hd ih => exact ih.deleteStep hd

/-! ## Invocations -/

lemma invokeCNodeCopy (h : cs.Indexed) {op src dest cap} (hdec : cs.decodeCopy op src dest = .ok cap)
    (he : cs.invokeCNodeCopy op cap src dest = .ok cs') : cs'.Indexed := by
  obtain ⟨-, -, hnew, -⟩ := decodeCopy_ok hdec
  have hc := h.newCap hnew
  cases op with
  | copy | mint => exact h.cteInsert hc he
  | move | mutate => exact h.cteMove hc he

lemma invokeCNodeRotate (h : cs.Indexed) {srcData pivotData src pivot dest caps}
    (hdec : cs.decodeRotate srcData pivotData src pivot dest = .ok caps)
    (he : cs.invokeCNodeRotate caps.1 caps.2 src pivot dest = .ok cs') : cs'.Indexed := by
  have hcaps : Indexing caps.1 ∧ Indexing caps.2 := by
    simp only [decodeRotate, refuseIf_bind] at hdec
    obtain ⟨-, -, -, -, -, -, e⟩ := hdec
    cases e
    exact ⟨(h src).updateCapData true srcData, (h pivot).updateCapData true pivotData⟩
  unfold CSpace.invokeCNodeRotate at he
  split at he
  · cases he
    exact h.cteSwap hcaps.1 hcaps.2
  · obtain ⟨cs1, h1, h2⟩ := bind_eq_ok.mp he
    exact (h.cteMove hcaps.2 h1).cteMove hcaps.1 h2

/-- `createNewObjects`; a CNode gets no guard. -/
lemma createNewObjects (h : cs.Indexed) {t parent destCNode destOffset base userSize dev} (n : Nat)
    (ht : t = .capTable → 0 < userSize ∧ userSize < wordBits) :
    (createNewObjects t parent destCNode destOffset n base userSize dev cs).Indexed := by
  have hobj : ∀ p, Indexing (createObject t p userSize dev) := by
    intro p
    cases t with
    | capTable => exact ⟨ht rfl, (ht rfl).2.le, Nat.one_pos⟩
    | _ => trivial
  induction n with
  | zero => exact h
  | succ n ih =>
    unfold CSpace.createNewObjects at ih ⊢
    rw [List.range_succ, List.foldl_append]
    simp only [List.foldl_cons, List.foldl_nil]
    exact ih.update (hobj _) (insertNewCap_effect _ _ _).2

lemma preemptionPoint (h : cs.Indexed) : (cs.preemptionPoint preempt).2.Indexed :=
  h

lemma resetChunks (h : cs.Indexed) {slot prevCap} (hc : Indexing prevCap) (j : Nat) :
    (resetChunks preempt slot prevCap j cs).2.Indexed := by
  induction j generalizing cs with
  | zero => exact h
  | succ j ih =>
    have cleared : ((cs.clearMemory (add64 (capPtr prevCap) (j * 2 ^ resetChunkBits)) resetChunkBits).setCap slot
        (setFreeIndex (offsetToFreeIndex (j * 2 ^ resetChunkBits)) prevCap)).Indexed :=
      h.clearMemory.setCap (indexing_setFreeIndex hc _) slot
    unfold CSpace.resetChunks
    dsimp only
    generalize CSpace.setCap (cs.clearMemory _ _) _ _ = cs1 at cleared ⊢
    have passed := @preemptionPoint preempt _ cleared
    generalize cs1.preemptionPoint preempt = r at passed ⊢
    obtain ⟨status, cs2⟩ := r
    cases status with
    | none => exact ih passed
    | preempted => exact passed

lemma resetUntypedCap (h : cs.Indexed) {slot} : (resetUntypedCap preempt slot cs).2.Indexed := by
  unfold CSpace.resetUntypedCap
  split
  · dsimp only
    split
    · exact h
    · split
      · split
        · exact h.setCap (indexing_setFreeIndex (h slot) 0) slot
        · exact h.clearMemory.setCap (indexing_setFreeIndex (h slot) 0) slot
      · exact h.resetChunks (h slot) _
  · exact h

/-- The sizes of CNodes that Retype accepts. -/
lemma capTable_size {slot nodeCap newType u offset window args}
    (h : cs.decodeUntypedInvocation slot newType u nodeCap offset window = .ok args) (ht : args.newType = .capTable) :
    0 < args.userSize ∧ args.userSize < wordBits := by
  unfold decodeUntypedInvocation at h
  split at h
  · obtain ⟨t, hobj, h⟩ := bind_eq_ok.mp h
    obtain ⟨dest, -, h⟩ := bind_eq_ok.mp h
    simp only [refuseIf_bind] at h
    obtain ⟨-, -, e⟩ := h
    cases e
    unfold decodeObjectType at hobj
    split at hobj
    · cases hobj
    · simp only [refuseIf_bind] at hobj
      obtain ⟨hsize, hcap, -, -, e⟩ := hobj
      cases e
      refine ⟨Nat.pos_of_ne_zero fun h0 => hcap ⟨ht, h0⟩, ?_⟩
      exact Nat.lt_of_not_le (not_or.mp hsize).1
  · cases h

lemma retype (h : cs.Indexed) {slot nodeCap newType u offset window args}
    (hdec : cs.decodeUntypedInvocation slot newType u nodeCap offset window = .ok args) :
    (invokeUntypedRetype preempt slot args cs).2.Indexed := by
  have hsize := capTable_size hdec
  unfold invokeUntypedRetype
  have reset : (if args.reset then CSpace.resetUntypedCap preempt slot cs else (.none, cs)).2.Indexed := by
    split
    · exact h.resetUntypedCap
    · exact h
  dsimp only
  generalize (if args.reset then CSpace.resetUntypedCap preempt slot cs else (.none, cs)) = r at reset ⊢
  obtain ⟨status, cs1⟩ := r
  split
  · exact reset
  · have marked := reset.setCap (indexing_setFreeIndex (reset slot)
      (getFreeIndex (capPtr (cs.cap slot)) (add64 args.retypeBase
        (args.destLength * 2 ^ getObjectSize args.newType args.userSize % 2 ^ 64)))) slot
    exact marked.createNewObjects _ hsize

/-- The updates of a TCB can be installed. -/
def Updates (updates : List (TcbCNodeIndex × Cap × Slot)) : Prop :=
  ∀ u ∈ updates, Indexing u.2.1

lemma installTCBCap (h : cs.Indexed) {fuel target slot index newCap srcSlot r} (hc : Indexing newCap)
    (he : cs.installTCBCap pf preempt fuel target slot index newCap srcSlot = .ok r) : r.2.Indexed := by
  obtain ⟨⟨e, cs1⟩, hdel, he⟩ := bind_eq_ok.mp he
  have deleted : cs1.Indexed := h.deleteSteps (cteDelete_steps hdel)
  dsimp only at he
  split at he
  · cases he
    exact deleted
  · split at he
    · obtain ⟨cs2, hins, he⟩ := bind_eq_ok.mp he
      cases he
      exact deleted.cteInsert hc hins
    · cases he
      exact deleted

lemma invokeTCBThreadControlCaps (h : cs.Indexed) {fuel target slot updates r} (hu : Updates updates)
    (he : cs.invokeTCBThreadControlCaps pf preempt fuel target slot updates = .ok r) : r.2.Indexed := by
  induction updates generalizing cs with
  | nil =>
    cases he
    exact h
  | cons u updates ih =>
    obtain ⟨⟨e, cs1⟩, h1, he⟩ := bind_eq_ok.mp he
    have first : cs1.Indexed := h.installTCBCap (hu u List.mem_cons_self) h1
    dsimp only at he
    split at he
    · cases he
      exact first
    · exact ih first (fun u hm => hu u (List.mem_cons_of_mem _ hm)) he

lemma performASIDControlInvocation (h : cs.Indexed) {frame slot parent asidBase}
    (he : cs.performASIDControlInvocation frame slot parent asidBase = .ok cs') : cs'.Indexed := by
  have marked := h.setCap (indexing_setFreeIndex (h parent) (maxFreeIndex (capSizeBits (cs.cap parent)))) parent
  exact marked.clearMemory.cteInsert (c := .arch (.asidPool asidBase frame)) trivial he

lemma handleInterrupt (h : cs.Indexed) (gicV3 : Bool) (irq : Nat) : (cs.handleInterrupt pf gicV3 irq).Indexed := by
  unfold CSpace.handleInterrupt
  split
  · exact h
  · split
    · split <;> exact h
    · exact h
    · exact h
    · exact h
    · exact h

lemma step (h : cs.Indexed) (hs : Step pf cs cs') : cs'.Indexed := by
  cases hs with
  | copy hdec _ _ he => exact h.invokeCNodeCopy hdec he
  | rotate hdec _ _ _ he => exact h.invokeCNodeRotate hdec he
  | @transfer src _ _ _ _ _ hder _ he => exact h.cteInsert (indexing_deriveCap hder (h src)) he
  | delete _ he => exact h.deleteSteps (cteDelete_steps he)
  | revoke _ he => exact h.deleteSteps (cteRevoke_steps he)
  | retype hdec => exact h.retype hdec
  | @irqControl irq _ _ _ _ _ _ _ _ he =>
    have h' : (cs.setIRQState .signal irq).Indexed := h
    exact h'.cteInsert (c := .irqHandler irq) trivial he
  | @sgiSignal irq target _ _ _ _ _ _ he => exact h.cteInsert (c := .arch (.sgiSignal irq target)) trivial he
  | @setIRQHandler _ _ src _ _ _ _ he =>
    obtain ⟨cs1, h1, h2⟩ := bind_eq_ok.mp he
    exact (h.cteDeleteOne h1).cteInsert (h src) h2
  | clearIRQHandler _ he => exact h.cteDeleteOne he
  | @ackIRQ gicV3 irq _ _ =>
    unfold CSpace.ackIRQ
    split <;> exact h
  | interrupt => exact h.handleInterrupt _ _
  | virtualTimer => exact h
  | threadControlCaps _ hu he =>
    refine h.invokeTCBThreadControlCaps (fun u hm => ?_) he
    by_cases hn : u.2.1 = .null
    · rw [hn]
      trivial
    · obtain ⟨-, op, -, hnew⟩ := hu u hm hn
      exact h.newCap hnew
  | makePool _ _ _ _ he => exact h.performASIDControlInvocation he
  | @remap slot c harch hsim =>
    have hc : ∀ d, isArchCap d = true → Similar d c → Indexing c := by
      intro d hd hsim
      cases hsim with
      | refl =>
        cases c with
        | arch => trivial
        | _ => cases hd
      | cnode => cases hd
      | _ => trivial
    exact h.setCap (hc _ harch hsim) slot

/-! ## Booting -/

lemma writeSlots (h : cs.Indexed) (cnode) {caps : List (Nat × Cap)} (hc : ∀ c ∈ caps, Indexing c.2) :
    (writeSlots cnode caps cs).Indexed := by
  induction caps generalizing cs with
  | nil => exact h
  | cons c caps ih =>
    exact ih (h.update (hc c List.mem_cons_self) rfl) fun d hd => hc d (List.mem_cons_of_mem _ hd)

lemma setIRQStates (h : cs.Indexed) (states : List (IRQState × Nat)) : (cs.setIRQStates states).Indexed := by
  induction states generalizing cs with
  | nil => exact h
  | cons s states ih =>
    have h' : (cs.setIRQState s.1 s.2).Indexed := h
    exact ih h'

end Indexed

lemma indexing_rootCNodeCap {b : BootInfo} (v : b.Valid pf) : Indexing b.rootCNodeCap := by
  have hmem : (RootCNodeCapSlot.initThreadCNode.pos, b.rootCNodeCap) ∈ b.initialCaps pf.numNodes :=
    List.mem_append_left _ (List.mem_map.mpr ⟨.initThreadCNode, by decide, rfl⟩)
  have hend : b.cnode + 2 ^ (b.rootCNodeSizeBits + slotBits) ≤ 2 ^ 64 := v.wellFormed _ hmem rfl
  have hroom : numInitialCaps + (b.providedCaps pf.numNodes).length ≤ 2 ^ b.rootCNodeSizeBits := v.room
  have hle : b.rootCNodeSizeBits + slotBits ≤ wordBits := by
    rw [← Nat.pow_le_pow_iff_right (show 1 < 2 by decide)]
    exact (Nat.le_add_left _ _).trans hend
  have hslot : 0 < slotBits := by decide
  refine ⟨⟨?_, by omega⟩, by omega, Nat.two_pow_pos _⟩
  by_contra h0
  rw [Nat.eq_zero_of_not_pos h0] at hroom
  have : 1 < numInitialCaps := by decide
  omega

lemma indexing_initialCaps {b : BootInfo} (v : b.Valid pf) : ∀ c ∈ b.initialCaps pf.numNodes, Indexing c.2 := by
  intro c hc
  rcases List.mem_append.mp hc with hc | hc
  · obtain ⟨s, -, rfl⟩ := List.mem_map.mp hc
    cases s with
    | initThreadCNode => exact indexing_rootCNodeCap v
    | _ => trivial
  · obtain ⟨d, hd, rfl⟩ := List.mem_map.mp hc
    have hd := List.fst_mem_of_mem_zipIdx hd
    simp only [BootInfo.providedCaps, List.mem_append, List.mem_map] at hd
    rcases hd with (((⟨_, -, e⟩ | ⟨_, -, e⟩) | ⟨_, -, e⟩) | ⟨_, -, e⟩) | ⟨_, -, e⟩ <;>
    · show Indexing d.1
      rw [← e]
      trivial

lemma boot_indexed {b : BootInfo} (v : b.Valid pf) (hb : boot pf b = .ok cs) : cs.Indexed := by
  have hempty : CSpace.empty.Indexed := fun _ => trivial
  have written := (hempty.setIRQStates (b.irqStates pf)).writeSlots b.cnode (indexing_initialCaps v)
  unfold boot createInitialThread at hb
  split at hb
  · cases hb
  · rename_i ipcbufCap hder
    obtain ⟨cs1, h1, hb⟩ := bind_eq_ok.mp hb
    obtain ⟨cs2, h2, h3⟩ := bind_eq_ok.mp hb
    have i1 := written.cteInsert (indexing_rootCNodeCap v) h1
    have i2 := i1.cteInsert (c := b.initialCap .initThreadVSpace) trivial h2
    exact i2.cteInsert (indexing_deriveCap hder trivial) h3

/-- CNodes are as they should be in every run. -/
lemma Reachable.indexed (h : Reachable pf cs) : cs.Indexed := by
  induction h with
  | boot v hb => exact boot_indexed v hb
  | step _ h ih => exact ih.step h

end CSpace

end NexsKernel
