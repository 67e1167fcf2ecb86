import NexsKernel.Vspace.State

/-!
# VMIDs

Under a hypervisor the translations in the TLB are tagged with one of 256 VMIDs. An ASID gets one when its VSpace is
switched to, from another ASID if none is free, and gives it back when it is deleted.
-/

namespace NexsKernel.Vspace

namespace State

variable (cfg : VspaceConfig) (s : State)

/-- The entry of an ASID, which is that of a VSpace. -/
def vspaceEntry (asid : Nat) : Except Halt (Ptr × Ptr) :=
  match s.armKSASIDTable (asidHigh asid) with
  | some pool =>
    match s.asidPool pool (asidLow asid) with
    | .vspace root _ _ => .ok (pool, root)
    | .none => .error .assertion
  | none => .error .assertion

/-- `invalidateASID`. -/
def invalidateASID (asid : Nat) : Except Halt State := do
  let (pool, root) ← s.vspaceEntry asid
  .ok (s.setPoolEntry pool (asidLow asid) (.vspace root 0 false))

/-- `storeHWASID`. -/
def storeHWASID (asid hwASID : Nat) : Except Halt State := do
  let (pool, root) ← s.vspaceEntry asid
  let s := s.setPoolEntry pool (asidLow asid) (.vspace root hwASID true)
  .ok { s with armKSHWASIDTable := Function.update s.armKSHWASIDTable hwASID asid }

/-- The VMID that the loop of `findFreeHWASID` looks at in a round. -/
def hwASIDAt (offset : Nat) : Nat :=
  (s.armKSNextASID + offset) % nHwASIDs

/-- `findFreeHWASID`. -/
def findFreeHWASID : Except Halt (State × Nat) :=
  match (List.range nHwASIDs).find? fun offset => s.armKSHWASIDTable (s.hwASIDAt offset) = asidInvalid with
  | some offset => .ok (s, s.hwASIDAt offset)
  | none => do
    let hwASID := s.armKSNextASID
    let s ← s.invalidateASID (s.armKSHWASIDTable hwASID)
    let s := s.logTlb (.invalidateTranslationASID hwASID)
    let s := { s with armKSHWASIDTable := Function.update s.armKSHWASIDTable hwASID asidInvalid }
    .ok ({ s with armKSNextASID := (hwASID + 1) % nHwASIDs }, hwASID)

/-- `getHWASID`. -/
def getHWASID (asid : Nat) : Except Halt (State × Nat) :=
  match s.findMapForASID asid with
  | .vspace _ hwASID true => .ok (s, hwASID)
  | _ => do
    let (s, hwASID) ← s.findFreeHWASID
    let s ← s.storeHWASID asid hwASID
    .ok (s, hwASID)

/-- `invalidateASIDEntry`. -/
def invalidateASIDEntry (asid : Nat) : Except Halt State :=
  match s.findMapForASID asid with
  | .vspace _ hwASID true =>
    invalidateASID { s with armKSHWASIDTable := Function.update s.armKSHWASIDTable hwASID asidInvalid } asid
  | _ => s.invalidateASID asid

/-- `invalidateTLBByASID`. -/
def invalidateTLBByASID (asid : Nat) : State :=
  if cfg.hypervisor then
    match s.findMapForASID asid with
    | .vspace _ hwASID true => s.logTlb (.invalidateTranslationASID hwASID)
    | _ => s
  else
    s.logTlb (.invalidateTranslationASID asid)

/-- `armv_contextSwitch`. -/
def armvContextSwitch (vspace : Ptr) (asid : Nat) : Except Halt State :=
  if cfg.hypervisor then do
    let (s, hwASID) ← s.getHWASID asid
    .ok (s.logTlb (.setRoot hwASID (some vspace)))
  else
    .ok (s.logTlb (.setRoot asid (some vspace)))

/-- The root of a thread without a VSpace. -/
def setGlobalUserVSpace : State :=
  s.logTlb (.setRoot 0 none)

/-- `setVMRoot` of `ksCurThread`. -/
def setVMRoot : Except Halt State :=
  match s.curVTable.map s.cap with
  | some (.arch (.vspace asid vspace true)) =>
    if s.findVSpaceForASID asid = some vspace then
      s.armvContextSwitch cfg vspace asid
    else
      .ok s.setGlobalUserVSpace
  | _ => .ok s.setGlobalUserVSpace

/-- `switchToThread_fp` to a thread with that `tcbVTable` slot, with the checks of the fast paths for it. -/
def fastpathSwitch (slot : Slot) : Option State :=
  match s.cap slot with
  | .arch (.vspace asid vspace true) =>
    match s.findMapForASID asid with
    | .vspace root hwASID valid =>
      if root ≠ vspace then
        none
      else if cfg.hypervisor then
        if valid then
          some ({ s with curVTable := some slot }.logTlb (.setRoot hwASID (some vspace)))
        else
          none
      else
        some ({ s with curVTable := some slot }.logTlb (.setRoot asid (some vspace)))
    | .none => none
  | _ => none

/-! ## Deleting -/

/-- `deleteASID`. -/
def deleteASID (asid : Nat) (vspace : Ptr) : Except Halt State :=
  match s.armKSASIDTable (asidHigh asid) with
  | some pool =>
    match s.asidPool pool (asidLow asid) with
    | .vspace root _ _ =>
      if root = vspace then do
        let s := s.invalidateTLBByASID cfg asid
        let s ← if cfg.hypervisor then s.invalidateASIDEntry asid else .ok s
        let s := s.setPoolEntry pool (asidLow asid) .none
        s.setVMRoot cfg
      else
        .ok s
    | .none => .ok s
  | none => .ok s

/-- A round of the loop of `deleteASIDPool`. -/
def deletePoolEntry (asidBase : Nat) (pool : Ptr) (s : State) (offset : Nat) : Except Halt State :=
  match s.asidPool pool offset with
  | .vspace .. =>
    let s := s.invalidateTLBByASID cfg (asidBase + offset)
    if cfg.hypervisor then s.invalidateASIDEntry (asidBase + offset) else .ok s
  | .none => .ok s

/-- `deleteASIDPool`. -/
def deleteASIDPool (asidBase : Nat) (pool : Ptr) : Except Halt State := do
  assert (asidLow asidBase = 0)
  if s.armKSASIDTable (asidHigh asidBase) = some pool then
    let s ← (List.range (2 ^ asidLowBits)).foldlM (deletePoolEntry cfg asidBase pool) s
    let s := { s with armKSASIDTable := Function.update s.armKSASIDTable (asidHigh asidBase) none }
    s.setVMRoot cfg
  else
    .ok s

end State

end NexsKernel.Vspace
