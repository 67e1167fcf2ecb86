import NexsKernel.Boot.Reserve

/-!
# Free memory at boot

`init_freemem` (`kernel/boot.c`). It walks through the available and the reserved regions at once, cuts the reserved
ones out of the available ones, and takes the memory of the root server objects from the last free region in which
they fit. Entries of the arrays `available` and `reserved` that the walk has passed are dropped from the lists.
-/

namespace NexsKernel

/-- `seL4_PageBits`. -/
def pageBits : Nat := 12

/-- `seL4_BootInfoFrameBits`. -/
def bootInfoFrameBits : Nat := pageBits

/-- `PADDR_TOP`. -/
def BootConfig.paddrTop (cfg : BootConfig) : Nat :=
  sub64 cfg.pptrTop cfg.pptrBaseOffset

namespace Boot

/-- `ceiling_kernel_window`. -/
def ceilingKernelWindow (cfg : BootConfig) (p : Nat) : Nat :=
  if cfg.paddrTop < sub64 p cfg.pptrBaseOffset then cfg.pptrTop else p

/-- The loops of `check_available_memory` and `check_reserved_memory`, `prev` being the region at `i - 1`. -/
def inOrderFrom (allowEmpty : Bool) (prev : Option Region) : List Region → Bool
  | [] => true
  | r :: rest =>
    if r.stop < r.start then false
    else if !allowEmpty && r.start == r.stop then false
    else if prev.any fun p => r.start < p.stop then false
    else inOrderFrom allowEmpty (some r) rest

/-- `check_available_memory`. -/
def checkAvailableMemory (available : List Region) : Bool :=
  !available.isEmpty && inOrderFrom false none available

/-- `check_reserved_memory`. -/
def checkReservedMemory (reserved : List Region) : Bool :=
  inOrderFrom true none reserved

/-- An entry of `avail_reg`. -/
def availReg (cfg : BootConfig) (r : Region) : Region :=
  let reg := paddrToPptrReg cfg r
  ⟨ceilingKernelWindow cfg reg.start, ceilingKernelWindow cfg reg.stop⟩

/-- The available region at the head still has something that the reserved one could take. -/
def trimmable : List Region → List Region → Nat
  | a :: _, r :: _ => if a.start < a.stop ∧ a.start < r.stop then 1 else 0
  | _, _ => 0

/-- The walk of `init_freemem` through the available and the reserved regions. -/
def removeReserved (cfg : BootConfig) :
    List Region → List Region → NdksBoot → Except Halt (List Region × List Region × NdksBoot)
  | a :: as, r :: rs, s =>
    if r.start = r.stop then removeReserved cfg (a :: as) rs s
    else if a.stop ≤ a.start then removeReserved cfg as (r :: rs) s
    else if r.stop ≤ a.start then do
      let (_, s) ← reserveRegion cfg (pptrToPaddrReg cfg r) s
      removeReserved cfg (a :: as) rs s
    else if a.stop ≤ r.start then do
      let (_, s) ← insertRegion cfg a s
      removeReserved cfg as (r :: rs) s
    else if r.start ≤ a.start then
      -- the reserved region may overlap with more, and stays
      removeReserved cfg ({ a with start := min a.stop r.stop } :: as) (r :: rs) s
    else do
      cfg.assert (r.start < a.stop)
      let (_, s) ← insertRegion cfg { a with stop := r.start } s
      if r.stop < a.stop then removeReserved cfg ({ a with start := r.stop } :: as) (r :: rs) s
      else removeReserved cfg as (r :: rs) s
  | as, rs, s => .ok (as, rs, s)
termination_by as rs => 2 * (as.length + rs.length) + trimmable as rs
decreasing_by all_goals simp only [trimmable, List.length_cons]; grind [trimmable]

/-- The loop over the reserved regions that are left. -/
def reserveRest (cfg : BootConfig) : List Region → NdksBoot → Except Halt NdksBoot
  | [], s => .ok s
  | r :: rs, s =>
    if r.start < r.stop then do
      let (_, s) ← reserveRegion cfg (pptrToPaddrReg cfg r) s
      reserveRest cfg rs s
    else reserveRest cfg rs s

/-- The loop over the available regions that are left. -/
def insertRest (cfg : BootConfig) : List Region → NdksBoot → Except Halt NdksBoot
  | [], s => .ok s
  | a :: as, s =>
    if a.start < a.stop then do
      let (_, s) ← insertRegion cfg a s
      insertRest cfg as s
    else insertRest cfg as s

/-- `calculate_rootserver_size`, `nPaging` being `arch_get_n_paging(it_v_reg)`. -/
def calculateRootserverSize (cfg : BootConfig) (nPaging extraBiSizeBits : Nat) : Nat :=
  (2 ^ (cfg.rootCNodeSizeBits + slotBits) + 2 ^ cfg.tcbBits + 2 ^ pageBits + 2 ^ bootInfoFrameBits + 2 ^ asidPoolBits +
    (if 0 < extraBiSizeBits then 2 ^ extraBiSizeBits else 0) + 2 ^ cfg.vspaceBits + 2 ^ minSchedContextBits +
    nPaging * 2 ^ pageTableBits) % 2 ^ 64

/-- `rootserver_max_size_bits`. -/
def rootserverMaxSizeBits (cfg : BootConfig) (extraBiSizeBits : Nat) : Nat :=
  max (max (cfg.rootCNodeSizeBits + slotBits) cfg.vspaceBits) extraBiSizeBits

/-- `ROUND_DOWN`. -/
def roundDown (n bits : Nat) : Nat :=
  n / 2 ^ bits * 2 ^ bits

/-- The loop that skips empty regions from the top of `freemem`, which are added to those above. -/
def skipEmpty : List Region → List Region → List Region × List Region
  | [], above => ([], above)
  | r :: below, above => if isRegEmpty r then skipEmpty below (r :: above) else (r :: below, above)

/-- The loop that looks for a region for the root server. The regions up to the candidate are in descending order,
those above it in ascending order; the result is the memory taken, if any, and the new `freemem`. -/
def fitRootserver (cfg : BootConfig) (size maxBits : Nat) :
    List Region → List Region → Except Halt (Option Region × List Region)
  | [], above => .ok (none, above)
  | _ :: _, [] => do
    cfg.assert false
    .error .outOfBounds
  | r :: below, next :: above => do
    cfg.assert (isRegEmpty next)
    let unalignedStart := sub64 r.stop size
    let start := roundDown unalignedStart maxBits
    if unalignedStart ≤ r.stop ∧ r.start ≤ start then
      return (some ⟨start, add64 start size⟩,
        below.reverse ++ ⟨r.start, start⟩ :: ⟨add64 start size, r.stop⟩ :: above)
    else fitRootserver cfg size maxBits below (regEmpty :: r :: above)

/-- The part of `init_freemem` that comes after the walk. -/
def placeRootserver (cfg : BootConfig) (size maxBits : Nat) (s : NdksBoot) : Except Halt (Bool × NdksBoot) :=
  if !isRegEmpty (s.freemem.getLastD regEmpty) then .ok (false, s)
  else do
    let (below, above) := skipEmpty s.freemem.reverse []
    match ← fitRootserver cfg size maxBits below above with
    | (none, freemem) => return (false, { s with freemem := freemem })
    | (some mem, freemem) => return (true, { s with freemem := freemem, rootserverMem := mem })

/-- `init_freemem`. -/
def initFreemem (cfg : BootConfig) (available reserved : List Region) (nPaging extraBiSizeBits : Nat) (s : NdksBoot) :
    Except Halt (Bool × NdksBoot) :=
  if !checkAvailableMemory available then .ok (false, s)
  else if !checkReservedMemory reserved then .ok (false, s)
  -- `avail_reg` has no entry for a region beyond
  else if cfg.maxNumFreememReg < available.length then .error .outOfBounds
  else do
    let s := { s with freemem := List.replicate cfg.maxNumFreememReg regEmpty }
    let (as, rs, s) ← removeReserved cfg (available.map (availReg cfg)) reserved s
    let s ← reserveRest cfg rs s
    let s ← insertRest cfg as s
    placeRootserver cfg (calculateRootserverSize cfg nPaging extraBiSizeBits)
      (rootserverMaxSizeBits cfg extraBiSizeBits) s

end Boot

end NexsKernel
