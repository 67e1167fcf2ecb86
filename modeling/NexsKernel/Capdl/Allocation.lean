import NexsKernel.Capdl.Finish
import NexsKernel.Tool.KernelBoot

/-!
# The allocation of the objects

`simulate_capdl_object_alloc_algorithm` (`capdl/allocation.rs`). The objects with an address come first in the spec, in
the order of their addresses; the others are taken from windows of objects of one size. An untyped is filled from its
start on: with the largest objects that fit at the watermark until the next object with an address, then with that
object. Addresses are natural numbers with the wrap-around of a `u64` written out, and a panic is a failed assertion or an
index out of bounds. Each round of the loop over an untyped lowers its fuel
(`fillStep_fuel`).

Objects with an address that no untyped covers are only refused where the errors are printed
(`simulate_agrees_iff`).
-/

namespace NexsKernel.Capdl

open Tool
open Boot (ctzl)

inductive CapDLAllocEmulationErrorLevel where
  | suppressed
  | printStderr
  deriving DecidableEq, Repr

structure ExpectedAllocation where
  utIdx : Nat
  paddr : Nat
  deriving DecidableEq, Repr

/-- The objects of one size that are still to be allocated. -/
structure Window where
  start : Nat
  stop : Nat
  deriving DecidableEq, Repr

/-- What the allocation loop changes. -/
structure Simulation where
  windows : List (Option Window)
  expectedAllocations : List (ObjectId × ExpectedAllocation)
  deriving DecidableEq, Repr

/-- `1 << bits`, a `u64`. -/
def bit64 (bits : Nat) : Nat :=
  2 ^ (bits % 64)

/-- `(1 << bits) as u64`, where the shift is one of an `i32`. -/
def bit32 (bits : Nat) : Nat :=
  if bits % 32 = 31 then 2 ^ 64 - 2 ^ 31 else 2 ^ (bits % 32)

/-- `unwrap`. -/
def unwrap {α : Type} : Option α → Except Halt α
  | some a => .ok a
  | none => .error .assertion

/-! ## The input -/

/-- The untypeds in the order of their addresses, each with its index. -/
def untypedsByPaddr (untypeds : List UntypedObject) : List (UntypedObject × Nat) :=
  untypeds.zipIdx.mergeSort fun a b => a.1.base ≤ b.1.base

section algorithm

variable (config : Sdf.Config) (objects : List NamedObject)

/-- Puts an object without an address into the window of its size. -/
def addToWindows (first : ObjectId) (windows : List (Option Window)) (object : NamedObject × Nat) :
    Except Halt (List (Option Window)) :=
  let bits := physicalSizeBits config object.1.object
  if 0 < bits then
    match windows[bits]? with
    | none => .error .outOfBounds
    | some none => .ok (windows.set bits (some ⟨first + object.2, first + object.2 + 1⟩))
    | some (some window) => .ok (windows.set bits (some { window with stop := window.stop + 1 }))
  else .ok windows

def objectWindowsBySize (first : ObjectId) (ordinary : List NamedObject) : Except Halt (List (Option Window)) :=
  ordinary.zipIdx.foldlM (addToWindows config first) (List.replicate 64 none)

/-! ## The check of the addresses -/

/-- The check of one object against the last untyped that starts at or below it. -/
def paddrOk (untypeds : List (UntypedObject × Nat)) (paddr bits : Nat) : Bool :=
  let utAfterCandidateIdx := untypeds.findIdx fun ut => paddr < ut.1.base
  if utAfterCandidateIdx = 0 then false
  else untypeds[utAfterCandidateIdx - 1]?.any fun ut =>
    ut.1.base ≤ paddr && add64 paddr (bit64 bits) ≤ add64 ut.1.base (bit64 ut.1.sizeBits)

def physAddrsOk (untypeds : List (UntypedObject × Nat)) (fixed : List NamedObject) : Except Halt Bool :=
  fixed.foldlM (fun ok object => do
    let paddr ← unwrap object.object.paddr
    return ok && paddrOk untypeds paddr.toNat (physicalSizeBits config object.object)) true

/-! ## The allocation loop -/

/-- The largest objects that are left, up to some size. -/
def largestWindow (windows : List (Option Window)) (maxSizeBits : Nat) : Option (Nat × Window) :=
  (List.range (maxSizeBits + 1)).reverse.findSome? fun sizeBits =>
    match windows[sizeBits]? with
    | some (some window) => if window.start < window.stop then some (sizeBits, window) else none
    | _ => none

/-- Books an object at the watermark, and moves this past it. -/
def create (utIdx curPaddr : Nat) (id : ObjectId) (s : Simulation) : Except Halt (Nat × Simulation) := do
  assert (!s.expectedAllocations.any (·.1 == id))
  let object ← unwrap objects[id]?
  return (add64 curPaddr (bit64 (physicalSizeBits config object.object)),
    { s with expectedAllocations := (id, ⟨utIdx, curPaddr⟩) :: s.expectedAllocations })

/-- One turn of the loop that fills an untyped up to a target. -/
def fillStep (ut : UntypedObject × Nat) (target : Nat) (targetIsObj : Bool) (curPaddr : Nat) (s : Simulation) :
    Except Halt (Nat × Simulation) :=
  let maxSizeBits := min (ctzl curPaddr) (ctzl (sub64 target curPaddr))
  match if ut.1.isDevice then none else largestWindow s.windows maxSizeBits with
  | some (sizeBits, window) => do
    let (curPaddr, s) ← create config objects ut.2 curPaddr window.start s
    return (curPaddr, { s with windows := s.windows.set sizeBits (some { window with start := window.start + 1 }) })
  | none => .ok (if targetIsObj then add64 curPaddr (bit64 maxSizeBits) else target, s)

def fillLoop (ut : UntypedObject × Nat) (target : Nat) (targetIsObj : Bool) :
    Nat → Nat → Simulation → Except Halt (Nat × Simulation)
  | 0, _, _ => .error .outOfFuel
  | fuel + 1, curPaddr, s =>
    if curPaddr < target then do
      let (curPaddr, s) ← fillStep config objects ut target targetIsObj curPaddr s
      fillLoop ut target targetIsObj fuel curPaddr s
    else .ok (curPaddr, s)

/-- The objects that are left in a window. -/
def shortfall : Option Window → Nat
  | some window => window.stop - window.start
  | none => 0

/-- A turn of the loop takes an object from a window, or moves the watermark towards the target. -/
def fuelFor (target curPaddr : Nat) (s : Simulation) : Nat :=
  (s.windows.map shortfall).sum * (target + 1) + (target - curPaddr) + 1

def fill (ut : UntypedObject × Nat) (target : Nat) (targetIsObj : Bool) (curPaddr : Nat) (s : Simulation) :
    Except Halt (Nat × Simulation) :=
  fillLoop config objects ut target targetIsObj (fuelFor target curPaddr s) curPaddr s

/-- The loop over one untyped. The result has the objects with an address that come after it. -/
def allocateFromUt (ut : UntypedObject × Nat) :
    List (NamedObject × Nat) → Nat → Simulation → Except Halt (List (NamedObject × Nat) × Simulation)
  | [], curPaddr, s => do
    let (_, s) ← fill config objects ut ut.1.stop false curPaddr s
    return ([], s)
  | (object, id) :: fixed, curPaddr, s => do
    let paddr ← unwrap object.object.paddr
    let target := min ut.1.stop paddr.toNat
    let (curPaddr, s) ← fill config objects ut target (target < ut.1.stop) curPaddr s
    if target < ut.1.stop then
      let (nextPaddr, s) ← create config objects ut.2 curPaddr id s
      assert (paddr.toNat == curPaddr)
      allocateFromUt ut fixed nextPaddr s
    else return ((object, id) :: fixed, s)

def allocateFromUts (untypeds : List (UntypedObject × Nat)) (fixed : List (NamedObject × Nat)) (s : Simulation) :
    Except Halt (List (NamedObject × Nat) × Simulation) :=
  untypeds.foldlM (fun (p : List (NamedObject × Nat) × Simulation) ut =>
    allocateFromUt config objects ut p.1 ut.1.base p.2) (fixed, s)

/-! ## The result -/

/-- `human_size_strict`, as far as it panics. -/
def humanSizeStrict (size : Nat) : Except Halt Unit :=
  assert (1 < size)

/-- Whether some objects are left. -/
def ranOut (level : CapDLAllocEmulationErrorLevel) (windows : List (Option Window)) : Except Halt Bool :=
  (List.range 64).foldlM (fun oom sizeBits =>
    match windows[sizeBits]? with
    | some (some window) =>
      if window.start ≠ window.stop then do
        if level = .printStderr then
          humanSizeStrict (bit32 sizeBits)
          humanSizeStrict (mul64 (bit32 sizeBits) (sub64 window.stop window.start))
        return true
      else return oom
    | _ => return oom) false

def simulateCapdlObjectAllocAlgorithm (untypeds : List UntypedObject)
    (expectedAllocations : List (ObjectId × ExpectedAllocation)) (level : CapDLAllocEmulationErrorLevel) :
    Except Halt (Bool × List (ObjectId × ExpectedAllocation)) := do
  let untypeds := untypedsByPaddr untypeds
  let first := objects.findIdx fun object => object.object.paddr.isNone
  let windows ← objectWindowsBySize config first (objects.drop first)
  let ok ← physAddrsOk config untypeds (objects.take first)
  if ok = false ∧ level = .printStderr then
    return (false, expectedAllocations)
  else
    let (_, s) ← allocateFromUts config objects untypeds (objects.take first).zipIdx ⟨windows, expectedAllocations⟩
    let oom ← ranOut level s.windows
    return (!oom, s.expectedAllocations)

end algorithm

/-! ## Agreement -/

section agreement

variable (config : Sdf.Config)

/-- A run at some level that returns. -/
def Returns (objects : List NamedObject) (untypeds : List UntypedObject)
    (expectedAllocations : List (ObjectId × ExpectedAllocation)) (level : CapDLAllocEmulationErrorLevel)
    (result : Bool) :
    Prop :=
  ∃ allocations,
    simulateCapdlObjectAllocAlgorithm config objects untypeds expectedAllocations level = .ok (result, allocations)

/-- Some untyped has room for the object at its address. -/
def Covered (untypeds : List UntypedObject) (object : NamedObject) : Prop :=
  ∃ paddr ∈ object.object.paddr, ∃ ut ∈ untypeds, ut.base ≤ paddr.toNat ∧
    paddr.toNat + 2 ^ physicalSizeBits config object.object ≤ ut.stop

/-- The last untyped that starts at or below the address of the object has room for it there. -/
def LastCovers (untypeds : List UntypedObject) (object : NamedObject) : Prop :=
  ∃ paddr ∈ object.object.paddr, ∃ before ut after, untypedsByPaddr untypeds = before ++ ut :: after ∧
    ut.1.base ≤ paddr.toNat ∧ (∀ next ∈ after, paddr.toNat < next.1.base) ∧
      paddr.toNat + 2 ^ physicalSizeBits config object.object ≤ ut.1.stop

/-- Both levels have the same result, and it is false where no untyped covers an object with an address. -/
structure Agrees (objects : List NamedObject) (untypeds : List UntypedObject)
    (expectedAllocations : List (ObjectId × ExpectedAllocation)) : Prop where
  same : ∀ result, Returns config objects untypeds expectedAllocations .suppressed result ↔
    Returns config objects untypeds expectedAllocations .printStderr result
  uncovered : (∃ object ∈ objects, object.object.paddr.isSome ∧ ¬ Covered config untypeds object) →
    ∀ level, Returns config objects untypeds expectedAllocations level false

/-- Objects without an address, each smaller than 2 ^ 31 bytes and all together smaller than 2 ^ 64. -/
structure Ordinary (objects : List NamedObject) : Prop where
  unaddressed : ∀ object ∈ objects, object.object.paddr = none
  small : ∀ object ∈ objects, physicalSizeBits config object.object < 31
  total : (objects.map fun object => 2 ^ physicalSizeBits config object.object).sum < 2 ^ 64

end agreement

/-- An untyped has the size of a power of two, and ends below 2 ^ 64. -/
structure WellFormedUntyped (ut : UntypedObject) : Prop where
  size : ut.base + 2 ^ ut.sizeBits = ut.stop
  bound : ut.stop < 2 ^ 64

/-! ## The check -/

section check

variable {config : Sdf.Config} {untypeds : List UntypedObject}

lemma mem_untypedsByPaddr {ut : UntypedObject × Nat} (h : ut ∈ untypedsByPaddr untypeds) : ut.1 ∈ untypeds :=
  (List.mem_zipIdx' ((List.mergeSort_perm _ _).mem_iff.mp h)).2 ▸ List.getElem_mem _

lemma untypedsByPaddr_sorted (untypeds : List UntypedObject) :
    (untypedsByPaddr untypeds).Pairwise fun a b => a.1.base ≤ b.1.base := by
  refine (List.pairwise_mergeSort (fun a b c hab hbc => ?_) (fun a b => ?_) _).imp fun h => of_decide_eq_true h
  · exact decide_eq_true ((of_decide_eq_true hab).trans (of_decide_eq_true hbc))
  · rcases Nat.le_total a.1.base b.1.base with h | h
    · rw [decide_eq_true h]
      rfl
    · rw [decide_eq_true h, Bool.or_true]

lemma bit64_eq {bits : Nat} (h : bits < 64) : bit64 bits = 2 ^ bits := by
  rw [bit64, Nat.mod_eq_of_lt h]

lemma lt_of_two_pow_lt {bits n : Nat} (h : 2 ^ bits < 2 ^ n) : bits < n :=
  (Nat.pow_lt_pow_iff_right (by decide)).mp h

/-- What the check looks at: the end of a well-formed untyped does not wrap. -/
lemma WellFormedUntyped.end_eq {ut : UntypedObject} (h : WellFormedUntyped ut) :
    add64 ut.base (bit64 ut.sizeBits) = ut.stop := by
  have hsize := h.size
  have hbound := h.bound
  have hpow : (2 : Nat) ^ ut.sizeBits < 2 ^ 64 := by omega
  rw [bit64_eq (lt_of_two_pow_lt hpow), add64_eq (by omega), hsize]

/-- Where the search for the last untyped that starts at or below an address ends. -/
lemma paddrOk_split {paddr bits : Nat} {before after : List (UntypedObject × Nat)} {ut : UntypedObject × Nat}
    (hsorted : (before ++ ut :: after).Pairwise fun a b => a.1.base ≤ b.1.base) (hbase : ut.1.base ≤ paddr)
    (hafter : ∀ next ∈ after, paddr < next.1.base) :
    paddrOk (before ++ ut :: after) paddr bits =
      (ut.1.base ≤ paddr && add64 paddr (bit64 bits) ≤ add64 ut.1.base (bit64 ut.1.sizeBits)) := by
  have hbefore : ∀ prev ∈ before ++ [ut], ¬ paddr < prev.1.base := by
    intro prev hprev
    rcases List.mem_append.mp hprev with hprev | hprev
    · have hle := (List.pairwise_append.mp hsorted).2.2 prev hprev ut List.mem_cons_self
      omega
    · obtain rfl := List.mem_singleton.mp hprev
      omega
  have hidx : (before ++ ut :: after).findIdx (fun ut => paddr < ut.1.base) = before.length + 1 := by
    rw [List.append_cons, List.findIdx_append, if_neg]
    · cases after with
      | nil => simp
      | cons next after =>
        have hnext := hafter next List.mem_cons_self
        simp [List.findIdx_cons, hnext]
    · rw [List.findIdx_lt_length]
      rintro ⟨prev, hprev, hlt⟩
      exact hbefore prev hprev (of_decide_eq_true hlt)
  unfold paddrOk
  rw [hidx]
  simp

lemma paddrOk_of_lastCovers {object : NamedObject} {paddr : Sdf.Word} (huts : ∀ ut ∈ untypeds, WellFormedUntyped ut)
    (hpaddr : object.object.paddr = some paddr) (h : LastCovers config untypeds object) :
    paddrOk (untypedsByPaddr untypeds) paddr.toNat (physicalSizeBits config object.object) = true := by
  obtain ⟨p, hp, before, ut, after, e, hbase, hafter, hstop⟩ := h
  obtain rfl := Option.some.inj (hpaddr.symm.trans hp)
  have hut := huts ut.1 (mem_untypedsByPaddr (by rw [e]; simp))
  have hbound := hut.bound
  have hbits : physicalSizeBits config object.object < 64 := lt_of_two_pow_lt (by omega)
  rw [e, paddrOk_split (e ▸ untypedsByPaddr_sorted untypeds) hbase hafter, hut.end_eq, bit64_eq hbits,
    add64_eq (by omega)]
  simp [hbase, hstop]

/-- An object that passes the check is in the untyped that it is compared with, or ends past 2 ^ 64. -/
lemma lastCovers_of_paddrOk {object : NamedObject} {paddr : Sdf.Word} (huts : ∀ ut ∈ untypeds, WellFormedUntyped ut)
    (hpaddr : object.object.paddr = some paddr)
    (h : paddrOk (untypedsByPaddr untypeds) paddr.toNat (physicalSizeBits config object.object) = true) :
    LastCovers config untypeds object ∨ ¬ Covered config untypeds object := by
  by_cases hwrap : paddr.toNat + 2 ^ physicalSizeBits config object.object < 2 ^ 64
  · left
    obtain ⟨l, after, e, hidx, hl, hhead⟩ :=
      findIdx_split (fun ut => decide (paddr.toNat < ut.1.base)) (untypedsByPaddr untypeds)
    have hsorted := untypedsByPaddr_sorted untypeds
    have hbefore : ∀ prev ∈ l, prev.1.base ≤ paddr.toNat := fun prev hprev =>
      Nat.le_of_not_lt (of_decide_eq_false (hl prev hprev))
    have hafter : ∀ next ∈ after, paddr.toNat < next.1.base := by
      intro next hnext
      cases after with
      | nil => cases hnext
      | cons first after =>
        have hfirst : paddr.toNat < first.1.base := of_decide_eq_true (hhead first after rfl)
        rcases List.mem_cons.mp hnext with rfl | hnext
        · exact hfirst
        · rw [e] at hsorted
          have hle := List.rel_of_pairwise_cons (List.pairwise_append.mp hsorted).2.1 hnext
          omega
    rcases l.eq_nil_or_concat with rfl | ⟨before, ut, rfl⟩
    · unfold paddrOk at h
      rw [hidx] at h
      cases h
    · rw [List.concat_eq_append, List.append_assoc, List.singleton_append] at e
      have hbase := hbefore ut (by simp)
      have hbits : physicalSizeBits config object.object < 64 := lt_of_two_pow_lt (by omega)
      have hut := huts ut.1 (mem_untypedsByPaddr (by rw [e]; simp))
      rw [e, paddrOk_split (e ▸ untypedsByPaddr_sorted untypeds) hbase hafter, hut.end_eq, bit64_eq hbits,
        add64_eq hwrap] at h
      simp only [Bool.and_eq_true, decide_eq_true_eq] at h
      exact ⟨paddr, hpaddr, before, ut, after, e, hbase, hafter, h.2⟩
  · right
    rintro ⟨p, hp, ut, hut, -, hstop⟩
    obtain rfl := Option.some.inj (hpaddr.symm.trans hp)
    have hbound := (huts ut hut).bound
    omega

lemma LastCovers.covered {object : NamedObject} (h : LastCovers config untypeds object) :
    Covered config untypeds object := by
  obtain ⟨paddr, hpaddr, before, ut, after, e, hbase, -, hstop⟩ := h
  exact ⟨paddr, hpaddr, ut.1, mem_untypedsByPaddr (by rw [e]; simp), hbase, hstop⟩

end check

/-! ## The windows -/

section windows

variable {config : Sdf.Config} {objects : List NamedObject}

/-- An object has been taken from one of the windows. -/
def Taken (windows windows' : List (Option Window)) : Prop :=
  ∃ (i : Nat) (window : Window), windows[i]? = some (some window) ∧ window.start < window.stop ∧
    windows' = windows.set i (some { window with start := window.start + 1 })

lemma largestWindow_some {windows : List (Option Window)} {maxSizeBits sizeBits : Nat} {window : Window}
    (h : largestWindow windows maxSizeBits = some (sizeBits, window)) :
    windows[sizeBits]? = some (some window) ∧ window.start < window.stop := by
  obtain ⟨i, -, hi⟩ := List.exists_of_findSome?_eq_some h
  split at hi
  · rename_i w hw
    split at hi
    · rename_i hlt
      obtain ⟨rfl, rfl⟩ := Prod.mk.inj (Option.some.inj hi)
      exact ⟨hw, hlt⟩
    · cases hi
  · cases hi

lemma create_windows {utIdx cur cur' : Nat} {id : ObjectId} {s s' : Simulation}
    (h : create config objects utIdx cur id s = .ok (cur', s')) : s'.windows = s.windows := by
  obtain ⟨_, -, h⟩ := bind_eq_ok.mp h
  obtain ⟨_, -, h⟩ := bind_eq_ok.mp h
  obtain ⟨-, rfl⟩ := Prod.mk.inj (Except.ok.inj h)
  rfl

/-- A turn of the loop takes an object, or moves the watermark over free memory. -/
lemma fillStep_ok {ut : UntypedObject × Nat} {target cur cur' : Nat} {targetIsObj : Bool} {s s' : Simulation}
    (h : fillStep config objects ut target targetIsObj cur s = .ok (cur', s')) :
    Taken s.windows s'.windows ∨ s' = s ∧ cur' = if targetIsObj then
      add64 cur (bit64 (min (ctzl cur) (ctzl (sub64 target cur)))) else target := by
  unfold fillStep at h
  extract_lets maxSizeBits at h
  split at h
  · rename_i sizeBits window hwindow
    obtain ⟨⟨cur1, s1⟩, hcreate, h⟩ := bind_eq_ok.mp h
    obtain ⟨rfl, rfl⟩ := Prod.mk.inj (Except.ok.inj h)
    split at hwindow
    · cases hwindow
    · obtain ⟨hget, hlt⟩ := largestWindow_some hwindow
      exact .inl ⟨sizeBits, window, hget, hlt, by rw [create_windows hcreate]⟩
  · obtain ⟨rfl, rfl⟩ := Prod.mk.inj (Except.ok.inj h)
    exact .inr ⟨rfl, rfl⟩

section invariants

variable {P : List (Option Window) → Prop} (hP : ∀ windows windows', Taken windows windows' → P windows → P windows')
include hP

/-- What every object that is taken keeps, the loop over an untyped keeps. -/
lemma fillLoop_keeps {ut : UntypedObject × Nat} {target fuel cur cur' : Nat} {targetIsObj : Bool} {s s' : Simulation}
    (h : fillLoop config objects ut target targetIsObj fuel cur s = .ok (cur', s')) (hs : P s.windows) :
    P s'.windows := by
  induction fuel generalizing cur s with
  | zero => cases h
  | succ fuel ih =>
    unfold fillLoop at h
    split at h
    · obtain ⟨⟨cur1, s1⟩, hstep, h⟩ := bind_eq_ok.mp h
      refine ih h ?_
      rcases fillStep_ok hstep with htaken | ⟨rfl, -⟩
      · exact hP _ _ htaken hs
      · exact hs
    · obtain ⟨-, rfl⟩ := Prod.mk.inj (Except.ok.inj h)
      exact hs

lemma allocateFromUt_keeps {ut : UntypedObject × Nat} {fixed fixed' : List (NamedObject × Nat)} {cur : Nat}
    {s s' : Simulation} (h : allocateFromUt config objects ut fixed cur s = .ok (fixed', s')) (hs : P s.windows) :
    P s'.windows := by
  induction fixed generalizing cur s with
  | nil =>
    obtain ⟨⟨cur1, s1⟩, hfill, h⟩ := bind_eq_ok.mp h
    obtain ⟨-, rfl⟩ := Prod.mk.inj (Except.ok.inj h)
    exact fillLoop_keeps hP hfill hs
  | cons object fixed ih =>
    obtain ⟨paddr, -, h⟩ := bind_eq_ok.mp h
    obtain ⟨⟨cur1, s1⟩, hfill, h⟩ := bind_eq_ok.mp h
    have hs1 := fillLoop_keeps hP hfill hs
    dsimp only at h
    split at h
    · obtain ⟨⟨next, s2⟩, hcreate, h⟩ := bind_eq_ok.mp h
      obtain ⟨_, -, h⟩ := bind_eq_ok.mp h
      exact ih h (by rwa [create_windows hcreate])
    · obtain ⟨-, rfl⟩ := Prod.mk.inj (Except.ok.inj h)
      exact hs1

lemma allocateFromUts_keeps {untypeds : List (UntypedObject × Nat)} {fixed fixed' : List (NamedObject × Nat)}
    {s s' : Simulation} (h : allocateFromUts config objects untypeds fixed s = .ok (fixed', s')) (hs : P s.windows) :
    P s'.windows := by
  unfold allocateFromUts at h
  induction untypeds generalizing fixed s with
  | nil =>
    obtain ⟨-, rfl⟩ := Prod.mk.inj (Except.ok.inj h)
    exact hs
  | cons ut untypeds ih =>
    rw [List.foldlM_cons] at h
    obtain ⟨⟨fixed1, s1⟩, hut, h⟩ := bind_eq_ok.mp h
    exact ih h (allocateFromUt_keeps hP hut hs)

end invariants

end windows

/-! ## Termination -/

section termination

variable {config : Sdf.Config} {objects : List NamedObject}

lemma Taken.sum_lt {windows windows' : List (Option Window)} (h : Taken windows windows') :
    (windows'.map shortfall).sum < (windows.map shortfall).sum := by
  obtain ⟨i, window, hget, hlt, rfl⟩ := h
  obtain ⟨hi, hget⟩ := List.getElem?_eq_some_iff.mp hget
  have e : windows = windows.take i ++ some window :: windows.drop (i + 1) := by
    rw [← hget, List.cons_getElem_drop_succ, List.take_append_drop]
  have hsum : (windows.map shortfall).sum =
      ((windows.take i).map shortfall).sum +
        (window.stop - window.start + ((windows.drop (i + 1)).map shortfall).sum) := by
    conv_lhs => rw [e]
    rw [List.map_append, List.map_cons, List.sum_append, List.sum_cons]
    rfl
  rw [List.set_eq_take_append_cons_drop, if_pos hi, List.map_append, List.map_cons, List.sum_append,
    List.sum_cons, hsum]
  change _ + (window.stop - (window.start + 1) + _) < _
  omega

/-- The watermark does not pass the target. -/
lemma step_le {cur target : Nat} (hlt : cur < target) (hbound : target < 2 ^ 64) :
    cur < add64 cur (bit64 (min (ctzl cur) (ctzl (sub64 target cur)))) ∧
      add64 cur (bit64 (min (ctzl cur) (ctzl (sub64 target cur)))) ≤ target := by
  rw [sub64_eq hlt.le hbound]
  have hdvd : 2 ^ min (ctzl cur) (ctzl (target - cur)) ∣ target - cur :=
    (Nat.pow_dvd_pow 2 (Nat.min_le_right _ _)).trans (Boot.two_pow_ctzl_dvd _)
  have hle := Nat.le_of_dvd (Nat.sub_pos_of_lt hlt) hdvd
  have hbits : min (ctzl cur) (ctzl (target - cur)) < 64 := lt_of_two_pow_lt (by omega)
  have hpos := Nat.two_pow_pos (min (ctzl cur) (ctzl (target - cur)))
  rw [bit64_eq hbits, add64_eq (by omega)]
  omega

lemma fillStep_fuel {ut : UntypedObject × Nat} {target cur cur' : Nat} {targetIsObj : Bool} {s s' : Simulation}
    (hlt : cur < target) (hbound : targetIsObj = true → target < 2 ^ 64)
    (h : fillStep config objects ut target targetIsObj cur s = .ok (cur', s')) :
    fuelFor target cur' s' < fuelFor target cur s := by
  unfold fuelFor
  rcases fillStep_ok h with htaken | ⟨rfl, rfl⟩
  · have hmul := Nat.mul_le_mul_right (target + 1) htaken.sum_lt
    rw [Nat.succ_mul] at hmul
    omega
  · split
    · rename_i hobj
      have hstep := step_le hlt (hbound hobj)
      omega
    · omega

end termination

/-! ## Both levels -/

section levels

variable {config : Sdf.Config} {fixed ordinary : List NamedObject} {untypeds : List UntypedObject}
  {expectedAllocations : List (ObjectId × ExpectedAllocation)}

/-- Every object of the list passes the check. -/
def passes (config : Sdf.Config) (untypeds : List UntypedObject) (fixed : List NamedObject) : Bool :=
  fixed.all fun object => object.object.paddr.all fun paddr =>
    paddrOk (untypedsByPaddr untypeds) paddr.toNat (physicalSizeBits config object.object)

lemma physAddrsOk_eq (hfixed : ∀ object ∈ fixed, object.object.paddr.isSome) :
    physAddrsOk config (untypedsByPaddr untypeds) fixed = .ok (passes config untypeds fixed) := by
  have hfold : ∀ ok : Bool, fixed.foldlM (fun ok object => do
      let paddr ← unwrap object.object.paddr
      return ok && paddrOk (untypedsByPaddr untypeds) paddr.toNat (physicalSizeBits config object.object)) ok =
        Except.ok (ok && passes config untypeds fixed) := by
    induction fixed with
    | nil => intro ok; rw [passes, List.all_nil, Bool.and_true]; rfl
    | cons object fixed ih =>
      intro ok
      obtain ⟨paddr, hpaddr⟩ := Option.isSome_iff_exists.mp (hfixed object List.mem_cons_self)
      rw [List.foldlM_cons, hpaddr, passes, List.all_cons, hpaddr, ← Bool.and_assoc]
      exact ih (fun o ho => hfixed o (List.mem_cons_of_mem _ ho)) _
  have h := hfold true
  rwa [Bool.true_and] at h

/-- The algorithm on a spec whose objects with an address come first. -/
lemma simulate_eq (hfixed : ∀ object ∈ fixed, object.object.paddr.isSome)
    (hordinary : ∀ object ∈ ordinary, object.object.paddr = none) (level : CapDLAllocEmulationErrorLevel) :
    simulateCapdlObjectAllocAlgorithm config (fixed ++ ordinary) untypeds expectedAllocations level = (do
      let windows ← objectWindowsBySize config fixed.length ordinary
      if passes config untypeds fixed = false ∧ level = .printStderr then
        return (false, expectedAllocations)
      else
        let (_, s) ← allocateFromUts config (fixed ++ ordinary) (untypedsByPaddr untypeds) fixed.zipIdx
          ⟨windows, expectedAllocations⟩
        let oom ← ranOut level s.windows
        return (!oom, s.expectedAllocations)) := by
  have hidx : (fixed ++ ordinary).findIdx (fun object => object.object.paddr.isNone) = fixed.length := by
    rw [List.findIdx_append, if_neg]
    · cases ordinary with
      | nil => exact Nat.zero_add _
      | cons object ordinary =>
        rw [List.findIdx_cons, hordinary object List.mem_cons_self]
        exact Nat.zero_add _
    · rw [List.findIdx_lt_length]
      rintro ⟨object, hobject, hnone⟩
      rw [Option.isNone_iff_eq_none] at hnone
      have hsome := hfixed object hobject
      rw [hnone] at hsome
      cases hsome
  unfold simulateCapdlObjectAllocAlgorithm
  dsimp only
  rw [hidx, List.drop_left, List.take_left, physAddrsOk_eq hfixed]
  rfl

/-! ### Without windows -/

lemma not_taken_of_none {windows windows' : List (Option Window)} (h : Taken windows windows')
    (hnone : ∀ window ∈ windows, window = none) : ∀ window ∈ windows', window = none := by
  obtain ⟨i, window, hget, -⟩ := h
  cases hnone _ (List.mem_of_getElem? hget)

lemma ranOut_none {windows : List (Option Window)} (h : ∀ window ∈ windows, window = none)
    (level : CapDLAllocEmulationErrorLevel) : ranOut level windows = .ok false := by
  unfold ranOut
  generalize List.range 64 = sizes
  induction sizes with
  | nil => rfl
  | cons sizeBits sizes ih =>
    rw [List.foldlM_cons]
    cases hget : windows[sizeBits]? with
    | none => exact ih
    | some window =>
      obtain rfl := h window (List.mem_of_getElem? hget)
      exact ih

/-- Where all the objects have an address, the allocation loop never runs out of memory: the answer is only false when
the check fails and the errors are printed. -/
lemma not_returns_false (hfixed : ∀ object ∈ fixed, object.object.paddr.isSome) {level : CapDLAllocEmulationErrorLevel}
    (hlevel : ¬ (passes config untypeds fixed = false ∧ level = .printStderr)) :
    ¬ Returns config (fixed ++ []) untypeds expectedAllocations level false := by
  rintro ⟨allocations, h⟩
  rw [simulate_eq hfixed (List.forall_mem_nil _)] at h
  obtain ⟨windows, hwindows, h⟩ := bind_eq_ok.mp h
  obtain rfl := Except.ok.inj hwindows
  rw [if_neg hlevel] at h
  obtain ⟨⟨rest, s⟩, hrun, h⟩ := bind_eq_ok.mp h
  have hnone := allocateFromUts_keeps (P := fun windows => ∀ window ∈ windows, window = none)
    (fun _ _ => not_taken_of_none) hrun fun window hwindow => List.eq_of_mem_replicate hwindow
  obtain ⟨oom, hoom, h⟩ := bind_eq_ok.mp h
  obtain rfl := Except.ok.inj ((ranOut_none hnone level).symm.trans hoom)
  cases h

/-! ### With windows -/

/-- No window has more objects than there are of its size. -/
def Bounded (n : Nat → Nat) (windows : List (Option Window)) : Prop :=
  ∀ (bits : Nat) (window : Window), windows[bits]? = some (some window) →
    0 < bits ∧ window.start ≤ window.stop ∧ window.stop - window.start ≤ n bits

lemma Bounded.taken {n : Nat → Nat} {windows windows' : List (Option Window)} (h : Taken windows windows')
    (hbounded : Bounded n windows) : Bounded n windows' := by
  obtain ⟨i, window, hget, hlt, rfl⟩ := h
  intro bits window' hget'
  rw [List.getElem?_set] at hget'
  split at hget'
  · rename_i hi
    subst hi
    split at hget'
    · obtain rfl := Option.some.inj (Option.some.inj hget')
      obtain ⟨hbits, -, hle⟩ := hbounded _ window hget
      exact ⟨hbits, hlt, by dsimp only; omega⟩
    · cases hget'
  · exact hbounded bits window' hget'

/-- The number of objects of one size. -/
def ofSize (config : Sdf.Config) (objects : List NamedObject) (bits : Nat) : Nat :=
  objects.countP fun object => physicalSizeBits config object.object == bits

/-- The window of the size of a new object grows by one. -/
lemma addToWindows_bounded {first : ObjectId} {windows windows' : List (Option Window)} {objects : List NamedObject}
    {object : NamedObject} {id : Nat} (hbounded : Bounded (ofSize config objects) windows)
    (h : addToWindows config first windows (object, id) = .ok windows') :
    Bounded (ofSize config (objects ++ [object])) windows' := by
  have hsize : ∀ bits, ofSize config (objects ++ [object]) bits =
      ofSize config objects bits + if physicalSizeBits config object.object = bits then 1 else 0 := by
    intro bits
    rw [ofSize, ofSize, List.countP_append, List.countP_singleton]
    simp only [beq_iff_eq]
  unfold addToWindows at h
  extract_lets bits at h
  intro i window hget
  rw [hsize]
  split at h
  · rename_i hbits
    -- the window of the size of the object grows by one
    have hgrown : ∀ window', windows' = windows.set bits (some window') → window'.start ≤ window'.stop →
        window'.stop - window'.start ≤ ofSize config objects bits + 1 →
          0 < i ∧ window.start ≤ window.stop ∧
            window.stop - window.start ≤ ofSize config objects i + if bits = i then 1 else 0 := by
      rintro window' rfl hle hcount
      rw [List.getElem?_set] at hget
      split at hget
      · rename_i hi
        subst hi
        split at hget
        · obtain rfl := Option.some.inj (Option.some.inj hget)
          rw [if_pos rfl]
          exact ⟨hbits, hle, hcount⟩
        · cases hget
      · rename_i hi
        rw [if_neg hi]
        exact hbounded i window hget
    split at h
    · cases h
    · exact hgrown _ (Except.ok.inj h).symm (Nat.le_succ _) (by dsimp only; omega)
    · rename_i window0 hget0
      obtain ⟨-, hle, hcount⟩ := hbounded bits window0 hget0
      exact hgrown _ (Except.ok.inj h).symm (by dsimp only; omega) (by dsimp only; omega)
  · obtain rfl := Except.ok.inj h
    obtain ⟨hi, hle, hcount⟩ := hbounded i window hget
    exact ⟨hi, hle, by omega⟩

lemma objectWindowsBySize_bounded {first : ObjectId} {windows : List (Option Window)}
    (h : objectWindowsBySize config first ordinary = .ok windows) : Bounded (ofSize config ordinary) windows := by
  have hfold : ∀ (l done : List NamedObject) (k : Nat) (windows : List (Option Window)),
      Bounded (ofSize config done) windows → ∀ windows', (l.zipIdx k).foldlM (addToWindows config first) windows =
        .ok windows' → Bounded (ofSize config (done ++ l)) windows' := by
    intro l
    induction l with
    | nil =>
      intro done k windows hbounded windows' h
      obtain rfl := Except.ok.inj h
      rwa [List.append_nil]
    | cons object l ih =>
      intro done k windows hbounded windows' h
      rw [List.zipIdx_cons, List.foldlM_cons] at h
      obtain ⟨windows1, hadd, h⟩ := bind_eq_ok.mp h
      have hgrown := ih _ _ _ (addToWindows_bounded hbounded hadd) _ h
      rwa [List.append_assoc, List.singleton_append] at hgrown
  refine hfold ordinary [] 0 _ (fun bits window hget => ?_) windows h
  cases List.eq_of_mem_replicate (List.mem_of_getElem? hget)

lemma ofSize_mul_le (objects : List NamedObject) (bits : Nat) :
    2 ^ bits * ofSize config objects bits ≤
    (objects.map fun object => 2 ^ physicalSizeBits config object.object).sum := by
  induction objects with
  | nil => exact le_rfl
  | cons object objects ih =>
    unfold ofSize at ih ⊢
    rw [List.countP_cons, List.map_cons, List.sum_cons, Nat.mul_add]
    split
    · rename_i h
      rw [beq_iff_eq] at h
      rw [h]
      omega
    · rw [Nat.mul_zero, Nat.add_zero]
      exact ih.trans (Nat.le_add_left _ _)

lemma humanSizeStrict_ok {size : Nat} (h : 1 < size) : humanSizeStrict size = .ok () :=
  assert_ok (decide_eq_true h)

/-- The sizes that are printed are those of ordinary objects. -/
lemma ranOut_printStderr (hordinary : Ordinary config ordinary) {windows : List (Option Window)}
    (hbounded : Bounded (ofSize config ordinary) windows) : ranOut .printStderr windows =
    ranOut .suppressed windows := by
  unfold ranOut
  congr 1
  funext oom sizeBits
  split
  · rename_i window hget
    split
    · rename_i hne
      obtain ⟨hbits, hle, hcount⟩ := hbounded sizeBits window hget
      have hpos : 0 < ofSize config ordinary sizeBits := by omega
      obtain ⟨object, hobject, hsize⟩ := List.countP_pos_iff.mp hpos
      have hsmall := hordinary.small object hobject
      rw [beq_iff_eq] at hsize
      have htotal := (ofSize_mul_le ordinary sizeBits).trans_lt hordinary.total
      have hbit : bit32 sizeBits = 2 ^ sizeBits := by
        rw [bit32, Nat.mod_eq_of_lt (by omega), if_neg (by omega)]
      have hone : 1 < 2 ^ sizeBits := Nat.one_lt_two_pow hbits.ne'
      have hmul : 2 ^ sizeBits * (window.stop - window.start) < 2 ^ 64 :=
        (Nat.mul_le_mul_left _ hcount).trans_lt htotal
      have hleft : 2 ^ sizeBits ≤ 2 ^ sizeBits * (window.stop - window.start) := Nat.le_mul_of_pos_right _ (by omega)
      have hless := (Nat.le_mul_of_pos_left (window.stop - window.start) (Nat.two_pow_pos sizeBits)).trans_lt hmul
      have hsub : sub64 window.stop window.start = window.stop - window.start := by
        unfold sub64
        omega
      rw [if_pos rfl, if_neg CapDLAllocEmulationErrorLevel.noConfusion, hbit, hsub, mul64_eq hmul,
        humanSizeStrict_ok hone, humanSizeStrict_ok (by omega)]
      rfl
    · rfl
  · rfl

lemma bind_same {α β : Type} {x : Except Halt α} {f g : α → Except Halt β} (h : ∀ a, x = .ok a → f a = g a) :
    (x >>= f) = (x >>= g) := by
  cases x with
  | error halt => rfl
  | ok a => exact h a rfl

lemma simulate_same (hfixed : ∀ object ∈ fixed, object.object.paddr.isSome) (hordinary : Ordinary config ordinary)
    (hpasses : passes config untypeds fixed = true) :
    simulateCapdlObjectAllocAlgorithm config (fixed ++ ordinary) untypeds expectedAllocations .printStderr =
      simulateCapdlObjectAllocAlgorithm config (fixed ++ ordinary) untypeds expectedAllocations .suppressed := by
  have hchecked : ∀ level : CapDLAllocEmulationErrorLevel,
      ¬ (passes config untypeds fixed = false ∧ level = .printStderr) := by
    rintro level ⟨hfails, -⟩
    rw [hpasses] at hfails
    cases hfails
  rw [simulate_eq hfixed hordinary.unaddressed, simulate_eq hfixed hordinary.unaddressed]
  refine bind_same fun windows hwindows => ?_
  rw [if_neg (hchecked _), if_neg (hchecked _)]
  refine bind_same fun p hrun => ?_
  have hleft := allocateFromUts_keeps (fun _ _ => Bounded.taken) hrun (objectWindowsBySize_bounded hwindows)
  obtain ⟨rest, s⟩ := p
  dsimp only
  rw [ranOut_printStderr hordinary hleft]

end levels

/-- Whatever the objects without an address are, both levels have the same result, and refuse objects with an address
that no untyped covers, exactly if each object with an address is in the last untyped that starts at or below it. -/
theorem simulate_agrees_iff {config : Sdf.Config} {fixed : List NamedObject} {untypeds : List UntypedObject}
    (hfixed : ∀ object ∈ fixed, object.object.paddr.isSome) (huts : ∀ ut ∈ untypeds, WellFormedUntyped ut)
    (expectedAllocations : List (ObjectId × ExpectedAllocation)) :
    (∀ ordinary, Ordinary config ordinary → Agrees config (fixed ++ ordinary) untypeds expectedAllocations) ↔
      ∀ object ∈ fixed, LastCovers config untypeds object := by
  constructor
  · intro h
    have hagrees := h [] ⟨List.forall_mem_nil _, List.forall_mem_nil _, Nat.two_pow_pos 64⟩
    have hsuppressed : ¬ Returns config (fixed ++ []) untypeds expectedAllocations .suppressed false :=
      not_returns_false hfixed fun hlevel => CapDLAllocEmulationErrorLevel.noConfusion hlevel.2
    have hpasses : passes config untypeds fixed = true := by
      by_contra hfails
      rw [Bool.not_eq_true] at hfails
      refine hsuppressed ((hagrees.same false).mpr ⟨expectedAllocations, ?_⟩)
      rw [simulate_eq hfixed (List.forall_mem_nil _)]
      exact if_pos ⟨hfails, rfl⟩
    intro object hobject
    obtain ⟨paddr, hpaddr⟩ := Option.isSome_iff_exists.mp (hfixed object hobject)
    have hok := List.all_eq_true.mp hpasses object hobject
    rw [hpaddr] at hok
    refine (lastCovers_of_paddrOk huts hpaddr hok).resolve_right fun huncovered => hsuppressed ?_
    exact hagrees.uncovered ⟨object, List.mem_append_left _ hobject, hfixed object hobject, huncovered⟩ .suppressed
  · intro h ordinary hordinary
    have hpasses : passes config untypeds fixed = true := by
      refine List.all_eq_true.mpr fun object hobject => ?_
      obtain ⟨paddr, hpaddr⟩ := Option.isSome_iff_exists.mp (hfixed object hobject)
      rw [hpaddr]
      exact paddrOk_of_lastCovers huts hpaddr (h object hobject)
    constructor
    · intro result
      unfold Returns
      rw [simulate_same hfixed hordinary hpasses]
    · rintro ⟨object, hobject, hsome, huncovered⟩
      rcases List.mem_append.mp hobject with hobject | hobject
      · exact absurd (h object hobject).covered huncovered
      · rw [hordinary.unaddressed object hobject] at hsome
        cases hsome

/-! ## Examples -/

private def pageFrame (paddr : Sdf.Word) : NamedObject :=
  ⟨"frame", .frame 12 (some paddr) []⟩

private def onePage (start : Nat) : UntypedObject :=
  ⟨0, ⟨start, start + 0x1000⟩, false⟩

private def aarch64Config : Sdf.Config where
  arch := .aarch64
  hypervisor := true
  benchmark := false
  numCores := 1
  armPaSizeBits := some 40
  armSmc := none
  objectSizes := ⟨11, 4, 6, 5, 13, 12, 21, 12, 12⟩
  pa_size := Sdf.paSize_forty

private lemma onePage_sorted (start : Nat) : untypedsByPaddr [onePage start] = [(onePage start, 0)] :=
  List.mergeSort_singleton _

/-- A frame in the only untyped. -/
theorem simulate_agrees_iff_onePage :
    LastCovers aarch64Config [onePage 0x1000] (pageFrame 0x1000) ∧
    ∀ ordinary, Ordinary aarch64Config ordinary →
      Agrees aarch64Config ([pageFrame 0x1000] ++ ordinary) [onePage 0x1000] [] := by
  have hfixed : ∀ object ∈ [pageFrame 0x1000], object.object.paddr.isSome := by decide
  have huts : ∀ ut ∈ [onePage 0x1000], WellFormedUntyped ut := by
    intro ut hut
    obtain rfl := List.mem_singleton.mp hut
    exact ⟨by decide, by decide⟩
  have hcovers : LastCovers aarch64Config [onePage 0x1000] (pageFrame 0x1000) :=
    ⟨0x1000, rfl, [], (onePage 0x1000, 0), [], onePage_sorted 0x1000, by decide, List.forall_mem_nil _, by decide⟩
  refine ⟨hcovers, (simulate_agrees_iff hfixed huts []).mpr fun object hobject => ?_⟩
  obtain rfl := List.mem_singleton.mp hobject
  exact hcovers

/-- A frame below the only untyped, and one above it: both are refused where the errors are printed. Otherwise the first
is a panic, and the second is accepted. -/
theorem simulate_uncovered :
    (Returns aarch64Config [pageFrame 0x1000] [onePage 0x2000] [] .printStderr false ∧
      simulateCapdlObjectAllocAlgorithm aarch64Config [pageFrame 0x1000] [onePage 0x2000] [] .suppressed =
        .error .assertion) ∧
    Returns aarch64Config [pageFrame 0x4000] [onePage 0x2000] [] .printStderr false ∧
      Returns aarch64Config [pageFrame 0x4000] [onePage 0x2000] [] .suppressed true := by
  unfold Returns simulateCapdlObjectAllocAlgorithm
  rw [onePage_sorted]
  exact ⟨⟨⟨[], rfl⟩, rfl⟩, ⟨[], rfl⟩, ⟨[], rfl⟩⟩

end NexsKernel.Capdl
