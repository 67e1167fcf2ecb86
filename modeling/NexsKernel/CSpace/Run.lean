import NexsKernel.CSpace.Invoke

/-!
# Runs

`Step` is one entry into the kernel that changes the CSpace, on behalf of any thread, and `Reachable` are
the CSpaces of all runs from boot. Slots that a thread names are slots of CNodes, which is all that a lookup
guarantees. Deletion, revocation and Retype may be preempted at any point.

Every CSpace of a run satisfies the invariant (`Reachable.inv`).
-/

namespace NexsKernel.CSpace

open Links

/-- The decoded updates of a TCB: each capability is a copy of its source. -/
def ThreadUpdates (cs : CSpace) (updates : List (TcbCNodeIndex × Cap × Slot)) : Prop :=
  ∀ u ∈ updates, u.2.1 ≠ .null → cs.InCNode u.2.2 ∧
    ∃ op : CopyOp, (∀ data, op ≠ .move ∧ op ≠ .mutate data) ∧ cs.newCap u.2.2 op = .ok u.2.1

/-- One system call that changes the CSpace. -/
inductive Step (pf : Platform) (cs : CSpace) : CSpace → Prop where
  /-- CNode Copy, Mint, Move and Mutate. -/
  | copy {op src dest cap} {cs' : CSpace} : cs.decodeCopy op src dest = .ok cap → cs.InCNode src →
      cs.InCNode dest → cs.invokeCNodeCopy op cap src dest = .ok cs' → Step pf cs cs'
  /-- CNode Rotate. -/
  | rotate {srcData pivotData src pivot dest caps} {cs' : CSpace} :
      cs.decodeRotate srcData pivotData src pivot dest = .ok caps → cs.InCNode src → cs.InCNode pivot →
      cs.InCNode dest → cs.invokeCNodeRotate caps.1 caps.2 src pivot dest = .ok cs' → Step pf cs cs'
  /-- A capability is sent in a message (`transferCaps`). -/
  | transfer {src dest cap} {cs' : CSpace} : cs.cap dest = .null → cs.InCNode dest →
      cs.deriveCap src (cs.cap src) = .ok cap → cap ≠ .null → cs.cteInsert cap src dest = .ok cs' →
      Step pf cs cs'
  /-- CNode Delete. -/
  | delete {preempt fuel slot r} : cs.InCNode slot → cteDelete pf preempt fuel slot true cs = .ok r →
      Step pf cs r.2
  /-- CNode Revoke. -/
  | revoke {preempt fuel slot r} : cs.InCNode slot → cteRevoke pf preempt fuel slot cs = .ok r →
      Step pf cs r.2
  /-- Untyped Retype. -/
  | retype {preempt slot newType userObjSize node offset window args} :
      cs.decodeUntypedInvocation slot newType userObjSize (cs.cap node) offset window = .ok args →
      Step pf cs (invokeUntypedRetype preempt slot args cs).2
  /-- IRQControl Get. -/
  | irqControl {irq src dest} {cs' : CSpace} : cs.cap src = .irqControl → irq < pf.numIRQs →
      cs.isIRQActive irq = false → cs.cap dest = .null → cs.InCNode dest →
      cs.invokeIRQControl irq dest src = .ok cs' → Step pf cs cs'
  /-- IRQControl IssueSGISignal. -/
  | sgiSignal {irq target src dest} {cs' : CSpace} : cs.cap src = .irqControl → cs.cap dest = .null →
      cs.InCNode dest → cs.cteInsert (.arch (.sgiSignal irq target)) src dest = .ok cs' → Step pf cs cs'
  /-- IRQHandler SetNotification. -/
  | setIRQHandler {irq handler src} {cs' : CSpace} : cs.cap handler = .irqHandler irq →
      isNotification (cs.cap src) = true → cs.InCNode src →
      cs.setIRQHandler pf irq (cs.cap src) src = .ok cs' → Step pf cs cs'
  /-- IRQHandler Clear. -/
  | clearIRQHandler {irq handler} {cs' : CSpace} : cs.cap handler = .irqHandler irq →
      cs.cteDeleteOne (pf.irqSlot irq) = .ok cs' → Step pf cs cs'
  /-- IRQHandler Ack. -/
  | ackIRQ {gicV3 irq handler} : cs.cap handler = .irqHandler irq → Step pf cs (cs.ackIRQ gicV3 irq)
  /-- An interrupt. -/
  | interrupt {gicV3 irq} : Step pf cs (cs.handleInterrupt pf gicV3 irq)
  /-- The virtual timer of a VCPU: an interrupt that the kernel keeps for itself. -/
  | virtualTimer {disable irq} : cs.intStateIRQTable irq = .reserved → Step pf cs (cs.maskInterrupt disable irq)
  /-- TCB Configure, SetSpace, SetIPCBuffer, SetSchedParams and SetTimeoutEndpoint. -/
  | threadControlCaps {preempt fuel target slot updates r} : cs.cap slot = .thread target →
      cs.ThreadUpdates updates →
      cs.invokeTCBThreadControlCaps pf preempt fuel target slot updates = .ok r → Step pf cs r.2
  /-- ASIDControl MakePool. -/
  | makePool {parent dest asidBase freeIndex ptr} {cs' : CSpace} :
      cs.cap parent = .untyped freeIndex false asidPoolBits ptr → cs.ensureNoChildren parent = .ok () →
      cs.cap dest = .null → cs.InCNode dest →
      cs.performASIDControlInvocation ptr dest parent asidBase = .ok cs' → Step pf cs cs'
  /-- Mapping and unmapping frames and page tables, and assigning ASIDs, rewrites a capability in place. -/
  | remap {slot c} : isArchCap (cs.cap slot) = true → Similar (cs.cap slot) c →
      Step pf cs (cs.setCap slot c)

/-- The CSpaces of all runs from boot. -/
inductive Reachable (pf : Platform) : CSpace → Prop where
  | boot {b : BootInfo} {cs : CSpace} : b.Valid pf → boot pf b = .ok cs → Reachable pf cs
  | step {cs cs' : CSpace} : Reachable pf cs → Step pf cs cs' → Reachable pf cs'

variable {pf : Platform} {cs cs' : CSpace}

/-- The updates of a TCB can be installed. -/
lemma ThreadUpdates.derivable {updates} (h : cs.ThreadUpdates updates) : Derivable updates cs := by
  intro u hu hs
  have hn := ne_null_of_sameObjectAs hs
  obtain ⟨-, op, hop, hnew⟩ := h u hu hn
  exact (copies_of_newCap hop hnew hn).1

/-- Every system call keeps the invariant. -/
lemma Inv.step (i : Inv pf cs) (h : Step pf cs cs') : Inv pf cs' := by
  cases h with
  | copy hdec hsrc hdest he => exact i.invokeCNodeCopy hdec hsrc hdest he
  | rotate hdec hsrc hpivot hdest he => exact i.invokeCNodeRotate hdec hsrc hpivot hdest he
  | transfer hd hdest hder hn he =>
    obtain ⟨hc, hno⟩ := Copies.of_deriveCap hder hn
    exact i.cteInsertCopy hd hc hno hdest.contains he
  | delete _ he => exact i.cteDelete he
  | revoke _ he => exact i.cteRevoke he
  | retype hdec => exact i.retype hdec ⟨_, rfl⟩
  | irqControl hs hirq hact hd hdest he => exact i.invokeIRQControl hs hd hirq hact hdest he
  | @sgiSignal irq target _ _ _ hs hd hdest he =>
    exact i.cteInsertIrq (c := .arch (.sgiSignal irq target)) hs hd rfl nofun rfl nofun hdest.contains he
  | setIRQHandler hh hn hsrc he => exact i.setIRQHandler hh hn hsrc he
  | clearIRQHandler _ he => exact i.cteDeleteOne he
  | ackIRQ _ => exact i.ackIRQ _ _
  | interrupt => exact i.handleInterrupt _ _
  | virtualTimer _ => exact i.maskInterrupt _ _
  | threadControlCaps ht hu he =>
    exact i.invokeTCBThreadControlCaps hu.derivable
      (fun u hm hn j => i.ne_tcbSlot (hu u hm hn).1 ht j) he
  | makePool hc hno hd hdest he => exact i.performASIDControlInvocation hc hno hd hdest he
  | @remap slot c harch h =>
    refine i.setSimilar ?_ h
    intro e
    rw [e] at harch
    cases harch

/-- Every CSpace of a run satisfies the invariant. -/
lemma Reachable.inv (h : Reachable pf cs) : Inv pf cs := by
  induction h with
  | boot v hb =>
    obtain ⟨cs, e, i⟩ := boot_inv v
    rw [hb] at e
    cases e
    exact i
  | step _ h ih => exact ih.step h

/-- Retype, without preemption. A request that is refused changes nothing. -/
def callRetype (slot : Slot) (newType userObjSize : Nat) (node : Slot) (offset window : Nat) (cs : CSpace) :
    CSpace :=
  match cs.decodeUntypedInvocation slot newType userObjSize (cs.cap node) offset window with
  | .ok args => (invokeUntypedRetype (fun _ => false) slot args cs).2
  | .error _ => cs

/-- Copy, Mint, Move and Mutate. -/
def callCopy (op : CopyOp) (src dest : Slot) (cs : CSpace) : CSpace :=
  match cs.decodeCopy op src dest with
  | .ok cap =>
    match cs.invokeCNodeCopy op cap src dest with
    | .ok cs' => cs'
    | .error _ => cs
  | .error _ => cs

lemma Reachable.callRetype (h : Reachable pf cs) {slot newType userObjSize node offset window} :
    Reachable pf (cs.callRetype slot newType userObjSize node offset window) := by
  unfold CSpace.callRetype
  split
  · rename_i e
    exact h.step (.retype e)
  · exact h

lemma Reachable.callCopy (h : Reachable pf cs) {op src dest} (hsrc : cs.InCNode src) (hdest : cs.InCNode dest) :
    Reachable pf (cs.callCopy op src dest) := by
  unfold CSpace.callCopy
  split
  · rename_i e
    split
    · rename_i e'
      exact h.step (.copy e hsrc hdest e')
    · exact h
  · exact h

lemma inCNode_slotAt {t radix guardSize guard ptr i} (hc : cs.cap t = .cnode radix guardSize guard ptr)
    (hi : i < 2 ^ radix) : cs.InCNode (slotAt ptr i) := by
  refine ⟨t, radix, guardSize, guard, ptr, hc, i, ?_, ?_⟩
  · rwa [hc]
  · rw [hc]
    rfl

end NexsKernel.CSpace
