import NexsKernel.CSpace.Derive

/-!
# Deleting capabilities

`finaliseCap` and the deletion functions of `cnode.c`. What finalising does to the object itself (threads
are unbound, pages are unmapped) is outside of the CSpace; inside it, the last capability to a CNode or a
TCB leaves a zombie behind, and the last handler of an interrupt takes the notification of the interrupt
with it.

`finaliseSlot`, `reduceZombie` and `cteDelete` call each other, and nothing in the code bounds the depth or
the number of iterations, hence the fuel. `preempt n` says whether the preemption point number `n` ends
the call.
-/

namespace NexsKernel

/-- What the kernel is built for: the cores, and the array of slots of the interrupts. -/
structure Platform where
  numNodes : Nat
  numIRQs : Nat
  intStateIRQNode : Nat

/-- `exception_t`, as far as deletion returns it. -/
inductive Status where
  | none
  | preempted
  deriving DecidableEq, Repr

/-- `finaliseCap_ret_t`. -/
structure FinaliseCapRet where
  remainder : Cap
  cleanupInfo : Cap
  deriving DecidableEq, Repr

/-- `finaliseSlot_ret_t`. -/
structure FinaliseSlotRet where
  status : Status
  success : Bool
  cleanupInfo : Cap
  deriving DecidableEq, Repr

/-- The slot of the notification of an interrupt, `intStateIRQNode + irq`. -/
def Platform.irqSlot (pf : Platform) (irq : Nat) : Slot :=
  slotAt pf.intStateIRQNode irq

/-- `capRemovable`. -/
def capRemovable (cap : Cap) (slot : Slot) : Except Halt Bool :=
  match cap with
  | .null => return true
  | .zombie _ n ptr => return n == 0 || (n == 1 && slot == ptr)
  | _ => .error .assertion

/-- `capCyclicZombie`. -/
def capCyclicZombie (cap : Cap) (slot : Slot) : Bool :=
  match cap with
  | .zombie _ _ ptr => ptr == slot
  | _ => false

/-- `cap_zombie_cap_set_capZombieNumber`. -/
def setCapZombieNumber (number : Nat) : Cap → Cap
  | .zombie type _ ptr => .zombie type number ptr
  | cap => cap

/-- `finaliseCap` when `exposed` is set: capabilities that need more work are refused. -/
def finaliseCapExposed : Cap → Except Halt FinaliseCapRet
  | .arch _ | .endpoint .. | .notification .. | .reply .. | .null | .domain => return ⟨.null, .null⟩
  | _ => .error .assertion

namespace CSpace

/-- `preemptionPoint`. -/
def preemptionPoint (preempt : Nat → Bool) (cs : CSpace) : Status × CSpace :=
  let cs := { cs with ksWorkUnitsCompleted := cs.ksWorkUnitsCompleted + 1 }
  (if preempt cs.ksWorkUnitsCompleted then .preempted else .none, cs)

/-- `cteDeleteOne`. -/
def cteDeleteOne (cs : CSpace) (slot : Slot) : Except Halt CSpace :=
  if cs.cap slot = .null then
    return cs
  else do
    let fc ← finaliseCapExposed (cs.cap slot)
    let removable ← capRemovable fc.remainder slot
    assert (removable && fc.cleanupInfo == .null)
    return cs.emptySlot slot .null

/-- `finaliseCap` when `exposed` is not set. -/
def finaliseCap (pf : Platform) (cs : CSpace) (cap : Cap) (final : Bool) :
    Except Halt (FinaliseCapRet × CSpace) :=
  match cap, final with
  | .cnode radix _ _ ptr, true => return (⟨.zombie (.cnode radix) (2 ^ radix) ptr, .null⟩, cs)
  | .thread ptr, true => return (⟨.zombie .tcb tcbArchCNodeEntries (tcbPtrCtePtr ptr), .null⟩, cs)
  | .zombie type number ptr, _ => return (⟨.zombie type number ptr, .null⟩, cs)
  | .irqHandler irq, true => do
    -- `deletingIRQHandler`
    let cs ← cs.cteDeleteOne (pf.irqSlot irq)
    return (⟨.null, .irqHandler irq⟩, cs)
  | _, _ => return (⟨.null, .null⟩, cs)

mutual

/-- `finaliseSlot`; one unit of fuel is one iteration of its loop. -/
def finaliseSlot (pf : Platform) (preempt : Nat → Bool) :
    Nat → Slot → Bool → CSpace → Except Halt (FinaliseSlotRet × CSpace)
  | 0, _, _, _ => .error .outOfFuel
  | fuel + 1, slot, immediate, cs =>
    if cs.cap slot = .null then
      return (⟨.none, true, .null⟩, cs)
    else do
      let (fc, cs) ← finaliseCap pf cs (cs.cap slot) (cs.isFinalCapability slot)
      if ← capRemovable fc.remainder slot then
        return (⟨.none, true, fc.cleanupInfo⟩, cs)
      let cs := cs.setCap slot fc.remainder
      if !immediate && capCyclicZombie fc.remainder slot then
        return (⟨.none, false, fc.cleanupInfo⟩, cs)
      let (status, cs) ← reduceZombie pf preempt fuel slot immediate cs
      if status ≠ .none then
        return (⟨status, false, .null⟩, cs)
      let (status, cs) := cs.preemptionPoint preempt
      if status ≠ .none then
        return (⟨status, false, .null⟩, cs)
      finaliseSlot pf preempt fuel slot immediate cs

/-- `reduceZombie`. -/
def reduceZombie (pf : Platform) (preempt : Nat → Bool) :
    Nat → Slot → Bool → CSpace → Except Halt (Status × CSpace)
  | 0, _, _, _ => .error .outOfFuel
  | fuel + 1, slot, immediate, cs =>
    match cs.cap slot with
    | .zombie type n ptr => do
      assert (decide (0 < n))
      if immediate then
        let endSlot := slotAt ptr (n - 1)
        let (status, cs) ← cteDelete pf preempt fuel endSlot false cs
        if status ≠ .none then
          return (status, cs)
        match cs.cap slot with
        | .null => return (.none, cs)
        | .zombie type2 n2 ptr2 =>
          if ptr = ptr2 ∧ n2 = n ∧ type2 = type then do
            assert (cs.cap endSlot == .null)
            return (.none, cs.setCap slot (setCapZombieNumber (n - 1) (cs.cap slot)))
          else do
            assert (ptr2 == slot && ptr != slot)
            return (.none, cs)
        | _ => .error .assertion
      else
        assert (ptr != slot)
        assert (!capCyclicZombie (cs.cap ptr) ptr)
        return (.none, cs.capSwapForDelete ptr slot)
    | _ => .error .assertion

/-- `cteDelete`. -/
def cteDelete (pf : Platform) (preempt : Nat → Bool) :
    Nat → Slot → Bool → CSpace → Except Halt (Status × CSpace)
  | 0, _, _, _ => .error .outOfFuel
  | fuel + 1, slot, exposed, cs => do
    let (fs, cs) ← finaliseSlot pf preempt fuel slot exposed cs
    if fs.status ≠ .none then
      return (fs.status, cs)
    if exposed || fs.success then
      return (.none, cs.emptySlot slot fs.cleanupInfo)
    return (.none, cs)

end

/-- `cteRevoke`; one unit of fuel is one iteration of its loop. -/
def cteRevoke (pf : Platform) (preempt : Nat → Bool) :
    Nat → Slot → CSpace → Except Halt (Status × CSpace)
  | 0, _, _ => .error .outOfFuel
  | fuel + 1, slot, cs =>
    match cs.mdbNext slot with
    | none => return (.none, cs)
    | some nextPtr =>
      if cs.isMDBParentOf slot nextPtr then do
        let (status, cs) ← cteDelete pf preempt fuel nextPtr true cs
        if status ≠ .none then
          return (status, cs)
        let (status, cs) := cs.preemptionPoint preempt
        if status ≠ .none then
          return (status, cs)
        cteRevoke pf preempt fuel slot cs
      else
        return (.none, cs)

end CSpace

end NexsKernel
