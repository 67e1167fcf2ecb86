import NexsKernel.Capdl.Allocation
import NexsKernel.Capdl.Renumber

/-!
# Where the objects are placed

The simulation of the allocation on a sorted spec. The windows hold the indices of the objects of one size, because the
objects without an address come in the order of their sizes. The invariant of the loop over the untypeds relates the
windows to what has been booked: nothing is booked past the watermark, and an index is booked when its window has moved
past it. When the simulation succeeds, each object has memory of its own, and those with an address are at it.
-/

namespace NexsKernel.Capdl

open Tool
open Boot (ctzl)

variable {config : Sdf.Config} {objects fixed ordinary : List NamedObject} {first : Nat}

/-! ## The windows -/

/-- The windows hold the objects from some index on, each with the indices of its size that are left. -/
structure Windowed (config : Sdf.Config) (objects : List NamedObject) (first : Nat)
    (windows : List (Option Window)) : Prop where
  length : windows.length = 64
  range : ∀ bits window, windows[bits]? = some (some window) → first ≤ window.start ∧ window.start ≤ window.stop ∧
    0 < bits ∧ ∀ id, window.start ≤ id → id < window.stop →
      ∃ object, objects[id]? = some object ∧ physicalSizeBits config object.object = bits
  all : ∀ id object, first ≤ id → objects[id]? = some object → 0 < physicalSizeBits config object.object →
    ∃ window, windows[physicalSizeBits config object.object]? = some (some window) ∧ id < window.stop

/-- No object has been taken from the windows. -/
structure Untaken (config : Sdf.Config) (objects : List NamedObject) (first : Nat)
    (windows : List (Option Window)) : Prop where
  nonempty : ∀ (bits : Nat) window, windows[bits]? = some (some window) → window.start < window.stop
  least : ∀ id object window, first ≤ id → objects[id]? = some object →
    windows[physicalSizeBits config object.object]? = some (some window) → window.start ≤ id

/-- From some index on, the objects come in the order of their sizes, the largest first. -/
def Descending (config : Sdf.Config) (objects : List NamedObject) (first : Nat) : Prop :=
  ∀ i j a b, first ≤ i → i ≤ j → objects[i]? = some a → objects[j]? = some b →
    physicalSizeBits config b.object ≤ physicalSizeBits config a.object

lemma Descending.left {rest : List NamedObject} (h : Descending config (objects ++ rest) first) :
    Descending config objects first := by
  intro i j a b hi hij ha hb
  refine h i j a b hi hij ?_ ?_
  · rwa [List.getElem?_append_left (List.getElem?_eq_some_iff.mp ha).1]
  · rwa [List.getElem?_append_left (List.getElem?_eq_some_iff.mp hb).1]

lemma getElem?_push {α : Type} {xs : List α} {x y : α} {i : Nat} :
    (xs ++ [x])[i]? = some y ↔ xs[i]? = some y ∨ i = xs.length ∧ y = x := by
  rcases Nat.lt_trichotomy i xs.length with hlt | rfl | hgt
  · rw [List.getElem?_append_left hlt]
    exact ⟨.inl, fun h => h.resolve_right fun h => hlt.ne h.1⟩
  · rw [List.getElem?_concat_length, List.getElem?_eq_none (le_refl _)]
    constructor
    · rintro h
      exact .inr ⟨rfl, (Option.some.inj h).symm⟩
    · rintro (h | ⟨-, rfl⟩)
      · cases h
      · rfl
  · rw [List.getElem?_eq_none (by simpa using hgt), List.getElem?_eq_none hgt.le]
    exact ⟨nofun, fun h => h.elim nofun fun h => absurd h.1 hgt.ne'⟩

/-- What is read after a window has been written. -/
lemma set_window {windows : List (Option Window)} {i j : Nat} {window w : Window} (hi : i < windows.length) :
    (windows.set i (some window))[j]? = some (some w) ↔ j = i ∧ w = window ∨ j ≠ i ∧ windows[j]? = some (some w) := by
  by_cases h : j = i
  · subst h
    rw [List.getElem?_set_self hi]
    constructor
    · intro hget
      exact .inl ⟨rfl, (Option.some.inj (Option.some.inj hget)).symm⟩
    · rintro (⟨-, rfl⟩ | ⟨hne, -⟩)
      · rfl
      · exact absurd rfl hne
  · rw [List.getElem?_set_ne (Ne.symm h)]
    constructor
    · intro hget
      exact .inr ⟨h, hget⟩
    · rintro (⟨rfl, -⟩ | ⟨-, hget⟩)
      · exact absurd rfl h
      · exact hget

/-- Objects of one size come one after the other: a window ends where the list does when the next object is of its
size. -/
lemma Windowed.stop_eq {windows : List (Option Window)} {object : NamedObject} {window : Window}
    (hw : Windowed config objects first windows) (hu : Untaken config objects first windows)
    (hdesc : Descending config (objects ++ [object]) first)
    (hget : windows[physicalSizeBits config object.object]? = some (some window)) : window.stop = objects.length := by
  obtain ⟨hfirst, -, hpos, hrange⟩ := hw.range _ _ hget
  have hlt := hu.nonempty _ _ hget
  obtain ⟨last, hlast, hsize⟩ := hrange (window.stop - 1) (by omega) (by omega)
  have hstop := (List.getElem?_eq_some_iff.mp hlast).1
  by_contra hne
  have hnext : window.stop < objects.length := by omega
  have hgetNext := List.getElem?_eq_getElem hnext
  have hle := hdesc (window.stop - 1) window.stop _ _ (by omega) (by omega) (getElem?_push.mpr (.inl hlast))
    (getElem?_push.mpr (.inl hgetNext))
  have hge := hdesc window.stop objects.length _ _ (by omega) hnext.le (getElem?_push.mpr (.inl hgetNext))
    (getElem?_push.mpr (.inr ⟨rfl, rfl⟩))
  have hsame : physicalSizeBits config objects[window.stop].object = physicalSizeBits config object.object :=
    Nat.le_antisymm (hsize ▸ hle) hge
  obtain ⟨window', hget', hid⟩ := hw.all window.stop _ (by omega) hgetNext (by omega)
  rw [hsame, hget] at hget'
  obtain rfl := Option.some.inj (Option.some.inj hget')
  exact absurd hid (lt_irrefl _)

/-- A window is made, or grows, by the index of an object of its size. -/
lemma Windowed.push {windows : List (Option Window)} {object : NamedObject} {window : Window}
    (hw : Windowed config objects first windows) (hu : Untaken config objects first windows)
    (hfirst : first ≤ objects.length) (hpos : 0 < physicalSizeBits config object.object)
    (hbits : physicalSizeBits config object.object < 64)
    (hstart : window.start = objects.length ∨
      ∃ w, windows[physicalSizeBits config object.object]? = some (some w) ∧ w.start = window.start ∧
        w.stop = objects.length)
    (hnone : window.start = objects.length → windows[physicalSizeBits config object.object]? = some none)
    (hstop : window.stop = objects.length + 1) :
    Windowed config (objects ++ [object]) first
        (windows.set (physicalSizeBits config object.object) (some window)) ∧
      Untaken config (objects ++ [object]) first
        (windows.set (physicalSizeBits config object.object) (some window)) := by
  have hlen : physicalSizeBits config object.object < windows.length := by rwa [hw.length]
  have hset := fun bits w => @set_window windows (physicalSizeBits config object.object) bits window w hlen
  have hlt : window.start < window.stop := by
    rcases hstart with h | ⟨w, hget, h, h'⟩
    · omega
    · have := (hw.range _ _ hget).2.1
      omega
  constructor
  · refine ⟨by rw [List.length_set]; exact hw.length, fun bits w hget => ?_, fun id object' hid hget hpos' => ?_⟩
    · rcases (hset bits w).mp hget with ⟨rfl, rfl⟩ | ⟨-, hget⟩
      · have hbase : first ≤ w.start := by
          rcases hstart with h | ⟨w', hget', h, -⟩
          · omega
          · exact h ▸ (hw.range _ _ hget').1
        refine ⟨hbase, hlt.le, hpos, fun id hid hid' => ?_⟩
        rcases Nat.lt_or_ge id objects.length with hold | hnew
        · rcases hstart with h | ⟨w', hget', h, h'⟩
          · omega
          · obtain ⟨object', hobject', hsize⟩ := (hw.range _ _ hget').2.2.2 id (by omega) (by omega)
            exact ⟨object', getElem?_push.mpr (.inl hobject'), hsize⟩
        · exact ⟨object, getElem?_push.mpr (.inr ⟨by omega, rfl⟩), rfl⟩
      · obtain ⟨h1, h2, h3, hrange⟩ := hw.range _ _ hget
        refine ⟨h1, h2, h3, fun id hid hid' => ?_⟩
        obtain ⟨object', hobject', hsize⟩ := hrange id hid hid'
        exact ⟨object', getElem?_push.mpr (.inl hobject'), hsize⟩
    · rcases getElem?_push.mp hget with hold | ⟨rfl, rfl⟩
      · obtain ⟨w, hw', hid'⟩ := hw.all id object' hid hold hpos'
        by_cases h : physicalSizeBits config object'.object = physicalSizeBits config object.object
        · refine ⟨window, (hset _ _).mpr (.inl ⟨h, rfl⟩), ?_⟩
          have := (List.getElem?_eq_some_iff.mp hold).1
          omega
        · exact ⟨w, (hset _ _).mpr (.inr ⟨h, hw'⟩), hid'⟩
      · exact ⟨window, (hset _ _).mpr (.inl ⟨rfl, rfl⟩), by omega⟩
  · refine ⟨fun bits w hget => ?_, fun id object' w hid hget hwin => ?_⟩
    · rcases (hset bits w).mp hget with ⟨-, rfl⟩ | ⟨-, hget⟩
      · exact hlt
      · exact hu.nonempty _ _ hget
    · rcases (hset _ w).mp hwin with ⟨hsize, rfl⟩ | ⟨hsize, hwin⟩
      · rcases getElem?_push.mp hget with hold | ⟨rfl, -⟩
        · rcases hstart with h | ⟨w', hget', h, -⟩
          · -- the window is new, so that there is no object of its size before
            obtain ⟨w', hw', -⟩ := hw.all id object' hid hold (by omega)
            rw [hsize, hnone h] at hw'
            cases hw'
          · exact h ▸ hu.least id object' w' hid hold (hsize ▸ hget')
        · rcases hstart with h | ⟨w', hget', h, h'⟩
          · exact h.le
          · have := (hw.range _ _ hget').2.1
            omega
      · rcases getElem?_push.mp hget with hold | ⟨rfl, rfl⟩
        · exact hu.least id object' w hid hold hwin
        · exact absurd rfl hsize

/-- An object comes into the window of its size. -/
lemma addToWindows_windowed {windows : List (Option Window)} {object : NamedObject} {id : Nat}
    (hw : Windowed config objects first windows) (hu : Untaken config objects first windows)
    (hid : first + id = objects.length) (hdesc : Descending config (objects ++ [object]) first)
    (hbits : physicalSizeBits config object.object < 64) :
    ∃ windows', addToWindows config first windows (object, id) = .ok windows' ∧
      Windowed config (objects ++ [object]) first windows' ∧ Untaken config (objects ++ [object]) first windows' := by
  have hfirst : first ≤ objects.length := by omega
  unfold addToWindows
  extract_lets bits
  split
  · rename_i hpos
    cases hget : windows[bits]? with
    | none =>
      rw [List.getElem?_eq_none_iff, hw.length] at hget
      exact absurd hbits (Nat.not_lt.mpr hget)
    | some window =>
      cases window with
      | none =>
        refine ⟨_, rfl, hw.push hu hfirst hpos hbits (.inl ?_) (fun _ => hget) ?_⟩
        · exact hid
        · exact congrArg (· + 1) hid
      | some window =>
        have hstop := hw.stop_eq hu hdesc hget
        refine ⟨_, rfl, hw.push hu hfirst hpos hbits (.inr ⟨window, hget, rfl, hstop⟩) (fun h => ?_) ?_⟩
        · have := hu.nonempty _ _ hget
          simp only at h
          omega
        · exact congrArg (· + 1) hstop
  · rename_i hzero
    refine ⟨windows, rfl, ⟨hw.length, fun bits w hget => ?_, fun id object' hid hget hpos => ?_⟩, hu.nonempty,
      fun id object' w hid hget hwin => ?_⟩
    · obtain ⟨h1, h2, h3, hrange⟩ := hw.range _ _ hget
      refine ⟨h1, h2, h3, fun id hid hid' => ?_⟩
      obtain ⟨object', hobject', hsize⟩ := hrange id hid hid'
      exact ⟨object', getElem?_push.mpr (.inl hobject'), hsize⟩
    · rcases getElem?_push.mp hget with hold | ⟨-, rfl⟩
      · exact hw.all id object' hid hold hpos
      · exact absurd hpos hzero
    · rcases getElem?_push.mp hget with hold | ⟨-, rfl⟩
      · exact hu.least id object' w hid hold hwin
      · exact absurd (hw.range _ _ hwin).2.2.1 hzero

/-- The windows of the objects without an address. -/
lemma objectWindowsBySize_windowed (hdesc : Descending config (fixed ++ ordinary) fixed.length)
    (hbits : ∀ object ∈ ordinary, physicalSizeBits config object.object < 64) :
    ∃ windows, objectWindowsBySize config fixed.length ordinary = .ok windows ∧
      Windowed config (fixed ++ ordinary) fixed.length windows ∧
      Untaken config (fixed ++ ordinary) fixed.length windows := by
  have hfold : ∀ (l done : List NamedObject) (windows : List (Option Window)),
      Windowed config (fixed ++ done) fixed.length windows → Untaken config (fixed ++ done) fixed.length windows →
      Descending config (fixed ++ (done ++ l)) fixed.length →
        (∀ object ∈ l, physicalSizeBits config object.object < 64) →
      ∃ windows', (l.zipIdx done.length).foldlM (addToWindows config fixed.length) windows = .ok windows' ∧
        Windowed config (fixed ++ (done ++ l)) fixed.length windows' ∧
        Untaken config (fixed ++ (done ++ l)) fixed.length windows' := by
    intro l
    induction l with
    | nil =>
      intro done windows hw hu _ _
      rw [List.append_nil]
      exact ⟨windows, rfl, hw, hu⟩
    | cons object l ih =>
      intro done windows hw hu hdesc hbits
      rw [List.append_cons, ← List.append_assoc] at hdesc
      have hdesc' := hdesc.left
      rw [← List.append_assoc] at hdesc'
      obtain ⟨windows1, hadd, hw1, hu1⟩ := addToWindows_windowed hw hu (List.length_append ..).symm hdesc'
        (hbits object List.mem_cons_self)
      rw [List.append_assoc] at hw1 hu1 hdesc
      obtain ⟨windows', hrun, hw', hu'⟩ := ih (done ++ [object]) windows1 hw1 hu1 hdesc
        fun o ho => hbits o (List.mem_cons_of_mem _ ho)
      rw [List.length_append, List.length_singleton] at hrun
      rw [← List.append_cons] at hw' hu'
      refine ⟨windows', ?_, hw', hu'⟩
      rw [List.zipIdx_cons, List.foldlM_cons, hadd]
      exact hrun
  have hnone : ∀ (bits : Nat) (window : Window), (List.replicate 64 none)[bits]? ≠ some (some window) := by
    intro bits window hget
    cases List.eq_of_mem_replicate (List.mem_of_getElem? hget)
  have hempty : ∀ id object, fixed.length ≤ id → (fixed ++ [])[id]? ≠ some object := by
    intro id object hid hget
    have := (List.getElem?_eq_some_iff.mp hget).1
    rw [List.append_nil] at this
    omega
  exact hfold ordinary [] (List.replicate 64 none)
    ⟨List.length_replicate, fun bits w hget => absurd hget (hnone bits w),
      fun id object hid hget => absurd hget (hempty id object hid)⟩
    ⟨fun bits w hget => absurd hget (hnone bits w), fun id object _ hid hget => absurd hget (hempty id object hid)⟩
    hdesc hbits

/-! ## The bookings -/

/-- The size of an object, 0 for an index of none. -/
def sizeOf (config : Sdf.Config) (objects : List NamedObject) (id : ObjectId) : Nat :=
  objects[id]?.elim 0 fun object => physicalSizeBits config object.object

/-- Where the memory of a booking ends. -/
def bookedEnd (config : Sdf.Config) (objects : List NamedObject) (e : ObjectId × ExpectedAllocation) : Nat :=
  e.2.paddr + 2 ^ sizeOf config objects e.1

/-- A booking of an object: it is in an untyped and aligned to its size, at the address of the object if it has one, and
otherwise in main memory. -/
def WellPlaced (config : Sdf.Config) (objects : List NamedObject) (untypeds : List UntypedObject)
    (e : ObjectId × ExpectedAllocation) : Prop :=
  ∃ object ut, objects[e.1]? = some object ∧ untypeds[e.2.utIdx]? = some ut ∧ ut.base ≤ e.2.paddr ∧
    bookedEnd config objects e ≤ ut.stop ∧ 2 ^ sizeOf config objects e.1 ∣ e.2.paddr ∧
    match object.object.paddr with
    | some paddr => e.2.paddr = paddr.toNat
    | none => ut.isDevice = false

/-- What has been booked when the watermark of the untypeds is at an address: the first objects with an address, and those
that have been taken from their windows. -/
structure Booked (config : Sdf.Config) (objects : List NamedObject) (untypeds : List UntypedObject) (first k cur : Nat)
    (s : Simulation) : Prop where
  windowed : Windowed config objects first s.windows
  nodup : (s.expectedAllocations.map (·.1)).Nodup
  booked : ∀ id, id ∈ s.expectedAllocations.map (·.1) ↔ id < k ∨ first ≤ id ∧ ∃ object window,
    objects[id]? = some object ∧ s.windows[physicalSizeBits config object.object]? = some (some window) ∧
      id < window.start
  placed : ∀ e ∈ s.expectedAllocations, WellPlaced config objects untypeds e
  apart : s.expectedAllocations.Pairwise fun a b => bookedEnd config objects b ≤ a.2.paddr
  below : ∀ e ∈ s.expectedAllocations, bookedEnd config objects e ≤ cur

section loop

variable {untypeds : List UntypedObject} {k cur : Nat} {s : Simulation} {object : NamedObject} {id : Nat}

lemma sizeOf_eq (h : objects[id]? = some object) : sizeOf config objects id =
    physicalSizeBits config object.object := by
  rw [sizeOf, h]
  rfl

lemma Booked.mono {cur' : Nat} (h : Booked config objects untypeds first k cur s) (hle : cur ≤ cur') :
    Booked config objects untypeds first k cur' s :=
  ⟨h.windowed, h.nodup, h.booked, h.placed, h.apart, fun e he => (h.below e he).trans hle⟩

lemma create_ok {utIdx : Nat} (hid : id ∉ s.expectedAllocations.map (·.1)) (hobject : objects[id]? = some object)
    (hbits : physicalSizeBits config object.object < 64)
    (hbound : cur + 2 ^ physicalSizeBits config object.object < 2 ^ 64) :
    create config objects utIdx cur id s = .ok (cur + 2 ^ physicalSizeBits config object.object,
      { s with expectedAllocations := (id, ⟨utIdx, cur⟩) :: s.expectedAllocations }) := by
  have hfresh : (!s.expectedAllocations.any (·.1 == id)) = true := by
    rw [Bool.not_eq_true', List.any_eq_false]
    intro e he heq
    exact hid (List.mem_map.mpr ⟨e, he, eq_of_beq heq⟩)
  unfold create
  rw [assert_ok hfresh, hobject]
  change Except.ok (add64 cur (bit64 _), _) = _
  rw [bit64_eq hbits, add64_eq hbound]

/-- One more object is booked at the watermark. -/
lemma Booked.create (k' : Nat) (windows : List (Option Window)) (e : ObjectId × ExpectedAllocation)
    (h : Booked config objects untypeds first k cur s) (hid : e.1 ∉ s.expectedAllocations.map (·.1))
    (hcur : e.2.paddr = cur) (hplaced : WellPlaced config objects untypeds e)
    (hwindowed : Windowed config objects first windows)
    (hbooked : ∀ id, id = e.1 ∨ id ∈ s.expectedAllocations.map (·.1) ↔ id < k' ∨ first ≤ id ∧ ∃ object window,
      objects[id]? = some object ∧ windows[physicalSizeBits config object.object]? = some (some window) ∧
        id < window.start) :
    Booked config objects untypeds first k' (bookedEnd config objects e) ⟨windows, e :: s.expectedAllocations⟩ := by
  refine ⟨hwindowed, List.nodup_cons.mpr ⟨hid, h.nodup⟩, fun id => ?_, ?_, ?_, ?_⟩
  · rw [List.map_cons, List.mem_cons]
    exact hbooked id
  · exact List.forall_mem_cons.mpr ⟨hplaced, h.placed⟩
  · exact List.pairwise_cons.mpr ⟨fun e' he' => hcur ▸ h.below e' he', h.apart⟩
  · refine List.forall_mem_cons.mpr ⟨le_rfl, fun e' he' => (h.below e' he').trans ?_⟩
    rw [← hcur]
    exact Nat.le_add_right _ _

lemma largestWindow_le {windows : List (Option Window)} {maxSizeBits sizeBits : Nat} {window : Window}
    (h : largestWindow windows maxSizeBits = some (sizeBits, window)) : sizeBits ≤ maxSizeBits := by
  obtain ⟨i, hi, hget⟩ := List.exists_of_findSome?_eq_some h
  rw [List.mem_reverse, List.mem_range] at hi
  split at hget
  · split at hget
    · obtain ⟨rfl, -⟩ := Prod.mk.inj (Option.some.inj hget)
      omega
    · cases hget
  · cases hget

/-- The first object of a window is taken. -/
lemma Windowed.take {windows : List (Option Window)} {bits : Nat} {window : Window}
    (h : Windowed config objects first windows) (hget : windows[bits]? = some (some window))
    (hlt : window.start < window.stop) :
    Windowed config objects first (windows.set bits (some { window with start := window.start + 1 })) := by
  have hlen := (List.getElem?_eq_some_iff.mp hget).1
  obtain ⟨h1, h2, h3, hrange⟩ := h.range _ _ hget
  refine ⟨by rw [List.length_set]; exact h.length, fun bits' w hw => ?_, fun id object hid hobject hpos => ?_⟩
  · rcases (set_window hlen).mp hw with ⟨rfl, rfl⟩ | ⟨-, hw⟩
    · exact ⟨Nat.le_succ_of_le h1, hlt, h3, fun id hid hid' => hrange id (Nat.le_of_succ_le hid) hid'⟩
    · exact h.range bits' w hw
  · obtain ⟨w, hw, hid'⟩ := h.all id object hid hobject hpos
    by_cases hsame : physicalSizeBits config object.object = bits
    · rw [hsame, hget] at hw
      obtain rfl := Option.some.inj (Option.some.inj hw)
      exact ⟨_, (set_window hlen).mpr (.inl ⟨hsame, rfl⟩), hid'⟩
    · exact ⟨w, (set_window hlen).mpr (.inr ⟨hsame, hw⟩), hid'⟩

/-- One turn of the loop keeps the invariant, and does not pass the target. -/
lemma fillStep_booked {ut : UntypedObject × Nat} (target : Nat) (targetIsObj : Bool)
    (h : Booked config objects untypeds first k cur s) (hk : k ≤ first)
    (hunaddressed : ∀ id object, first ≤ id → objects[id]? = some object → object.object.paddr = none)
    (hut : untypeds[ut.2]? = some ut.1) (hbase : ut.1.base ≤ cur) (hlt : cur < target) (hstop : target ≤ ut.1.stop)
    (hbound : ut.1.stop < 2 ^ 64) :
    ∃ cur' s', fillStep config objects ut target targetIsObj cur s = .ok (cur', s') ∧
      Booked config objects untypeds first k cur' s' ∧ cur < cur' ∧ cur' ≤ target := by
  unfold fillStep
  extract_lets maxSizeBits
  split
  · rename_i bits window hwindow
    split at hwindow
    · cases hwindow
    rename_i hdevice
    obtain ⟨hget, hnonempty⟩ := largestWindow_some hwindow
    have hle := largestWindow_le hwindow
    obtain ⟨hfirst, -, -, hrange⟩ := h.windowed.range _ _ hget
    obtain ⟨object, hobject, hsize⟩ := hrange window.start le_rfl hnonempty
    have hbits : bits < 64 := by
      have := (List.getElem?_eq_some_iff.mp hget).1
      rwa [h.windowed.length] at this
    have hdvd : 2 ^ bits ∣ cur :=
      (Nat.pow_dvd_pow 2 (hle.trans (Nat.min_le_left _ _))).trans (Boot.two_pow_ctzl_dvd cur)
    have hfits : cur + 2 ^ bits ≤ target := by
      have hdvd' : 2 ^ bits ∣ sub64 target cur :=
        (Nat.pow_dvd_pow 2 (hle.trans (Nat.min_le_right _ _))).trans (Boot.two_pow_ctzl_dvd _)
      rw [sub64_eq hlt.le (by omega)] at hdvd'
      have := Nat.le_of_dvd (by omega) hdvd'
      omega
    have hid : window.start ∉ s.expectedAllocations.map (·.1) := by
      rw [h.booked]
      rintro (hlow | ⟨-, object', w, hobject', hw, hlt'⟩)
      · omega
      · obtain rfl := Option.some.inj (hobject.symm.trans hobject')
        rw [hsize, hget] at hw
        obtain rfl := Option.some.inj (Option.some.inj hw)
        exact absurd hlt' (lt_irrefl _)
    have hend : bookedEnd config objects (window.start, ⟨ut.2, cur⟩) = cur + 2 ^ bits := by
      rw [bookedEnd, sizeOf_eq hobject, hsize]
    rw [create_ok hid hobject (hsize.symm ▸ hbits) (by rw [hsize]; omega), hsize]
    refine ⟨_, _, rfl, ?_, Nat.lt_add_of_pos_right (Nat.two_pow_pos bits), hfits⟩
    rw [← hend]
    refine h.create _ _ _ hid rfl ⟨object, ut.1, hobject, hut, hbase, ?_, ?_,
      ?_⟩ (h.windowed.take hget hnonempty) fun id => ?_
    · rw [hend]
      exact hfits.trans hstop
    · rw [sizeOf_eq hobject, hsize]
      exact hdvd
    · rw [hunaddressed _ _ hfirst hobject]
      simpa using hdevice
    · rw [h.booked]
      have hlen := (List.getElem?_eq_some_iff.mp hget).1
      constructor
      · rintro (rfl | hlow | ⟨hid', object', w, hobject', hw, hlt'⟩)
        · exact .inr ⟨hfirst, object, _, hobject, (set_window hlen).mpr (.inl ⟨hsize, rfl⟩), Nat.lt_succ_self _⟩
        · exact .inl hlow
        · by_cases hsame : physicalSizeBits config object'.object = bits
          · rw [hsame, hget] at hw
            obtain rfl := Option.some.inj (Option.some.inj hw)
            exact .inr ⟨hid', object', _, hobject', (set_window hlen).mpr (.inl ⟨hsame, rfl⟩), Nat.lt_succ_of_lt hlt'⟩
          · exact .inr ⟨hid', object', w, hobject', (set_window hlen).mpr (.inr ⟨hsame, hw⟩), hlt'⟩
      · rintro (hlow | ⟨hid', object', w, hobject', hw, hlt'⟩)
        · exact .inr (.inl hlow)
        · rcases (set_window hlen).mp hw with ⟨hsame, rfl⟩ | ⟨-, hw⟩
          · rcases Nat.lt_succ_iff_lt_or_eq.mp hlt' with hlt' | rfl
            · exact .inr (.inr ⟨hid', object', window, hobject', hsame ▸ hget, hlt'⟩)
            · exact .inl rfl
          · exact .inr (.inr ⟨hid', object', w, hobject', hw, hlt'⟩)
  · refine ⟨_, s, rfl, ?_⟩
    have hstep := step_le hlt (by omega)
    split
    · exact ⟨h.mono hstep.1.le, hstep⟩
    · exact ⟨h.mono hlt.le, hlt, le_rfl⟩

/-- The loop fills the untyped up to the target. -/
lemma fill_booked {ut : UntypedObject × Nat} (target : Nat) (targetIsObj : Bool)
    (h : Booked config objects untypeds first k cur s) (hk : k ≤ first)
    (hunaddressed : ∀ id object, first ≤ id → objects[id]? = some object → object.object.paddr = none)
    (hut : untypeds[ut.2]? = some ut.1) (hbase : ut.1.base ≤ cur) (hle : cur ≤ target) (hstop : target ≤ ut.1.stop)
    (hbound : ut.1.stop < 2 ^ 64) :
    ∃ s', fill config objects ut target targetIsObj cur s = .ok (target, s') ∧
      Booked config objects untypeds first k target s' := by
  have hloop : ∀ fuel cur s, fuelFor target cur s ≤ fuel → Booked config objects untypeds first k cur s →
      ut.1.base ≤ cur → cur ≤ target → ∃ s', fillLoop config objects ut target targetIsObj fuel cur s =
        .ok (target, s') ∧ Booked config objects untypeds first k target s' := by
    intro fuel
    induction fuel with
    | zero => exact fun cur s hfuel => absurd hfuel (Nat.not_succ_le_zero _)
    | succ fuel ih =>
      intro cur s hfuel h hbase hle
      unfold fillLoop
      split
      · rename_i hlt
        obtain ⟨cur', s', hstep, h', hlt', hle'⟩ := fillStep_booked target targetIsObj h hk
          hunaddressed hut hbase hlt hstop hbound
        have hdecrease := fillStep_fuel hlt (fun _ => by omega) hstep
        rw [hstep]
        exact ih cur' s' (by omega) h' (by omega) hle'
      · rename_i hge
        obtain rfl : cur = target := by omega
        exact ⟨s, rfl, h⟩
  exact hloop _ cur s le_rfl h hbase hle

/-- Objects with an address: each is aligned to its size and ends below 2 ^ 64, and each ends before the next begins. -/
structure Addressed (config : Sdf.Config) (l : List NamedObject) : Prop where
  isSome : ∀ object ∈ l, object.object.paddr.isSome
  bound : ∀ object ∈ l, addressRank object + 2 ^ physicalSizeBits config object.object < 2 ^ 64
  aligned : ∀ object ∈ l, 2 ^ physicalSizeBits config object.object ∣ addressRank object
  apart : l.Pairwise fun a b => addressRank a + 2 ^ physicalSizeBits config a.object ≤ addressRank b

lemma addressRank_eq {paddr : Sdf.Word} (h : object.object.paddr = some paddr) : addressRank object = paddr.toNat := by
  rw [addressRank, h]
  rfl

lemma Addressed.tail {l : List NamedObject} (h : Addressed config (object :: l)) : Addressed config l :=
  ⟨fun o ho => h.isSome o (List.mem_cons_of_mem _ ho), fun o ho => h.bound o (List.mem_cons_of_mem _ ho),
    fun o ho => h.aligned o (List.mem_cons_of_mem _ ho), (List.pairwise_cons.mp h.apart).2⟩

/-- The loop over one untyped: all objects with an address in it are booked. -/
lemma allocateFromUt_booked {ut : UntypedObject × Nat} {l : List NamedObject}
    (h : Booked config objects untypeds first k cur s)
    (hunaddressed : ∀ id object, first ≤ id → objects[id]? = some object → object.object.paddr = none)
    (hut : untypeds[ut.2]? = some ut.1) (hbase : ut.1.base ≤ cur) (hstop : cur ≤ ut.1.stop)
    (hbound : ut.1.stop < 2 ^ 64) (hl : Addressed config l) (hget : ∀ i object, l[i]? = some object →
      objects[k + i]? = some object) (hfirst : k + l.length = first) (hcur : ∀ object ∈ l, cur ≤ addressRank object)
    (hcovers : ∀ object ∈ l, addressRank object < ut.1.stop →
      addressRank object + 2 ^ physicalSizeBits config object.object ≤ ut.1.stop) :
    ∃ done l' s', l = done ++ l' ∧ allocateFromUt config objects ut (l.zipIdx k) cur s =
        .ok (l'.zipIdx (k + done.length), s') ∧
      Booked config objects untypeds first (k + done.length) ut.1.stop s' ∧
      ∀ object ∈ l', ut.1.stop ≤ addressRank object := by
  induction l generalizing k cur s with
  | nil =>
    obtain ⟨s', hfill, h'⟩ := fill_booked ut.1.stop false h (by simpa using hfirst.le) hunaddressed
      hut hbase hstop le_rfl hbound
    refine ⟨[], [], s', rfl, ?_, h', List.forall_mem_nil _⟩
    unfold allocateFromUt
    rw [List.zipIdx_nil]
    simp only [hfill]
    rfl
  | cons object l ih =>
    rw [List.length_cons] at hfirst
    obtain ⟨paddr, hpaddr⟩ := Option.isSome_iff_exists.mp (hl.isSome object List.mem_cons_self)
    have haddr := addressRank_eq hpaddr
    have hcur' := hcur object List.mem_cons_self
    have hbits : physicalSizeBits config object.object < 64 := by
      have := hl.bound object List.mem_cons_self
      exact lt_of_two_pow_lt (by omega)
    obtain ⟨s1, hfill, h1⟩ := fill_booked (min ut.1.stop paddr.toNat)
      (decide (min ut.1.stop paddr.toNat < ut.1.stop)) h (by omega) hunaddressed hut hbase (by omega)
      (Nat.min_le_left _ _) hbound
    have hpos := Nat.two_pow_pos (physicalSizeBits config object.object)
    unfold allocateFromUt
    rw [List.zipIdx_cons]
    simp only [hpaddr, unwrap]
    change ∃ done l' s', _ ∧ (fill config objects ut (min ut.1.stop paddr.toNat)
      (decide (min ut.1.stop paddr.toNat < ut.1.stop)) cur s >>= _) = _ ∧ _
    by_cases hin : min ut.1.stop paddr.toNat < ut.1.stop
    · have htarget : min ut.1.stop paddr.toNat = paddr.toNat := by omega
      have hobject : objects[k]? = some object := hget 0 object rfl
      have hid : k ∉ s1.expectedAllocations.map (·.1) := by
        rw [h1.booked]
        rintro (hlow | ⟨hlow, -⟩) <;> omega
      have hends := hcovers object List.mem_cons_self (by omega)
      have hend : bookedEnd config objects (k, ⟨ut.2, paddr.toNat⟩) =
          paddr.toNat + 2 ^ physicalSizeBits config object.object := by
        rw [bookedEnd, sizeOf_eq hobject]
      rw [htarget] at hfill h1 hin
      have hcreate := @create_ok _ _ paddr.toNat s1 object k ut.2 hid hobject hbits (by omega)
      have h2 := h1.create (k + 1) s1.windows (k, ⟨ut.2, paddr.toNat⟩) hid rfl
        ⟨object, ut.1, hobject, hut, by simp only; omega, by rw [hend]; omega, by
          rw [sizeOf_eq hobject]
          exact haddr ▸ hl.aligned object List.mem_cons_self, by rw [hpaddr]⟩ h1.windowed fun id => by
            rw [h1.booked]
            dsimp only
            constructor
            · rintro (rfl | hlow | htaken)
              · exact .inl (Nat.lt_succ_self _)
              · exact .inl (Nat.lt_succ_of_lt hlow)
              · exact .inr htaken
            · rintro (hlow | htaken)
              · rcases Nat.lt_succ_iff_lt_or_eq.mp hlow with hlow | rfl
                · exact .inr (.inl hlow)
                · exact .inl rfl
              · exact .inr (.inr htaken)
      rw [hend] at h2
      obtain ⟨done, l', s', e, hrun, h', hrest⟩ := ih h2 (by omega) (by omega) hl.tail
        (fun i o ho => by simpa [Nat.add_assoc, Nat.add_comm 1] using hget (i + 1) o ho) (by omega)
        (fun o ho => haddr ▸ (List.pairwise_cons.mp hl.apart).1 o ho)
        (fun o ho => hcovers o (List.mem_cons_of_mem _ ho))
      have hcount : k + (object :: done).length = k + 1 + done.length := by
        rw [List.length_cons]
        omega
      refine ⟨object :: done, l', s', by rw [e, List.cons_append], ?_, hcount ▸ h', hrest⟩
      rw [hcount, htarget]
      simp only [hin, decide_true] at hfill ⊢
      rw [hfill]
      change (create config objects ut.2 paddr.toNat k s1 >>= fun p => _) = _
      rw [hcreate]
      change (assert (paddr.toNat == paddr.toNat) >>= fun _ => _) = _
      rw [beq_self_eq_true]
      exact hrun
    · have htarget : min ut.1.stop paddr.toNat = ut.1.stop := by omega
      rw [htarget] at hfill h1
      refine ⟨[], object :: l, s1, rfl, ?_, h1, fun o ho => ?_⟩
      · rw [htarget]
        simp only [lt_irrefl, decide_false] at hfill ⊢
        rw [hfill]
        rfl
      · rcases List.mem_cons.mp ho with rfl | ho
        · omega
        · have := (List.pairwise_cons.mp hl.apart).1 o ho
          omega

/-- The loop over the untypeds: every object with an address is booked. -/
lemma allocateFromUts_booked {uts : List (UntypedObject × Nat)} {l : List NamedObject}
    (h : Booked config objects untypeds first k cur s)
    (hunaddressed : ∀ id object, first ≤ id → objects[id]? = some object → object.object.paddr = none)
    (huts : ∀ ut ∈ uts, untypeds[ut.2]? = some ut.1 ∧ WellFormedUntyped ut.1)
    (hapart : uts.Pairwise fun a b => a.1.stop ≤ b.1.base) (hcur : ∀ ut ∈ uts, cur ≤ ut.1.base)
    (hl : Addressed config l) (hget : ∀ i object, l[i]? = some object → objects[k + i]? = some object)
    (hfirst : k + l.length = first)
    (hcovers : ∀ object ∈ l, ∃ ut ∈ uts, ut.1.base ≤ addressRank object ∧
      addressRank object + 2 ^ physicalSizeBits config object.object ≤ ut.1.stop) :
    ∃ cur' s', allocateFromUts config objects uts (l.zipIdx k) s = .ok ([], s') ∧
      Booked config objects untypeds first first cur' s' := by
  induction uts generalizing k cur s l with
  | nil =>
    cases l with
    | nil => exact ⟨cur, s, rfl, by simpa using hfirst ▸ h⟩
    | cons object l =>
      obtain ⟨ut, hut, -⟩ := hcovers object List.mem_cons_self
      cases hut
  | cons ut uts ih =>
    obtain ⟨hafter, hapart⟩ := List.pairwise_cons.mp hapart
    obtain ⟨hut, hwf⟩ := huts ut List.mem_cons_self
    have hsize := hwf.size
    have hnonempty := Nat.two_pow_pos ut.1.sizeBits
    have hbase : ∀ object ∈ l, ut.1.base ≤ addressRank object := by
      intro object hobject
      obtain ⟨ut', hut', hle, -⟩ := hcovers object hobject
      rcases List.mem_cons.mp hut' with rfl | hut'
      · exact hle
      · have := hafter ut' hut'
        omega
    -- an object that begins in the untyped is in it, because the others begin later
    have hin : ∀ object ∈ l, addressRank object < ut.1.stop →
        addressRank object + 2 ^ physicalSizeBits config object.object ≤ ut.1.stop := by
      intro object hobject hlt
      obtain ⟨ut', hut', hle, hend⟩ := hcovers object hobject
      rcases List.mem_cons.mp hut' with rfl | hut'
      · exact hend
      · have := hafter ut' hut'
        omega
    obtain ⟨done, l', s1, rfl, hrun, h1, hrest⟩ := allocateFromUt_booked
      (h.mono (hcur ut List.mem_cons_self)) hunaddressed
      hut le_rfl (by omega) hwf.bound hl hget hfirst hbase hin
    have hl' : Addressed config l' :=
      ⟨fun o ho => hl.isSome o (List.mem_append_right _ ho), fun o ho => hl.bound o (List.mem_append_right _ ho),
        fun o ho => hl.aligned o (List.mem_append_right _ ho), (List.pairwise_append.mp hl.apart).2.1⟩
    rw [List.length_append] at hfirst
    obtain ⟨cur', s', hrun', h'⟩ := ih h1 (fun ut hut => huts ut (List.mem_cons_of_mem _ hut)) hapart
      (fun ut' hut' => hafter ut' hut') hl' (fun i o ho => by
        have := hget (done.length + i) o (by rwa [List.getElem?_append_right (Nat.le_add_right _ _),
          Nat.add_sub_cancel_left])
        rwa [← Nat.add_assoc] at this) (by omega) fun object hobject => by
          obtain ⟨ut', hut', hle, hend⟩ := hcovers object (List.mem_append_right _ hobject)
          rcases List.mem_cons.mp hut' with rfl | hut'
          · have := hrest object hobject
            have := Nat.two_pow_pos (physicalSizeBits config object.object)
            omega
          · exact ⟨ut', hut', hle, hend⟩
    refine ⟨cur', s', ?_, h'⟩
    unfold allocateFromUts at hrun' ⊢
    rw [List.foldlM_cons, hrun]
    exact hrun'

end loop

/-! ## The untypeds -/

section untypeds

variable {untypeds : List UntypedObject}

lemma getElem?_of_mem_untypedsByPaddr {ut : UntypedObject × Nat} (h : ut ∈ untypedsByPaddr untypeds) :
    untypeds[ut.2]? = some ut.1 := by
  have hmem := (List.mergeSort_perm _ _).mem_iff.mp h
  exact List.mk_mem_zipIdx_iff_getElem?.mp hmem

/-- Untypeds that do not overlap come one after the other. -/
lemma untypedsByPaddr_apart (huts : ∀ ut ∈ untypeds, WellFormedUntyped ut)
    (hapart : untypeds.Pairwise fun a b => a.stop ≤ b.base ∨ b.stop ≤ a.base) :
    (untypedsByPaddr untypeds).Pairwise fun a b => a.1.stop ≤ b.1.base := by
  have hzip : untypeds.zipIdx.Pairwise fun a b => a.1.stop ≤ b.1.base ∨ b.1.stop ≤ a.1.base := by
    have := @List.pairwise_map _ _ (fun ut : UntypedObject × Nat => ut.1)
      (fun a b => a.stop ≤ b.base ∨ b.stop ≤ a.base) untypeds.zipIdx
    rw [List.zipIdx_map_fst] at this
    exact this.mp hapart
  have hperm : (untypedsByPaddr untypeds).Pairwise fun a b => a.1.stop ≤ b.1.base ∨ b.1.stop ≤ a.1.base :=
    ((List.mergeSort_perm _ _).pairwise_iff fun h => h.symm).mpr hzip
  refine (hperm.and (untypedsByPaddr_sorted untypeds)).imp_of_mem ?_
  rintro a b ha hb ⟨h | h, hle⟩
  · exact h
  · have hsize := (huts b.1 (mem_untypedsByPaddr hb)).size
    have hnonempty := Nat.two_pow_pos b.1.sizeBits
    omega

/-- An object that passes the check, and ends below 2 ^ 64, is in an untyped. -/
lemma covered_of_paddrOk {object : NamedObject} (huts : ∀ ut ∈ untypeds, WellFormedUntyped ut)
    (hbound : addressRank object + 2 ^ physicalSizeBits config object.object < 2 ^ 64)
    (h : paddrOk (untypedsByPaddr untypeds) (addressRank object) (physicalSizeBits config object.object) = true) :
    ∃ ut ∈ untypedsByPaddr untypeds, ut.1.base ≤ addressRank object ∧
      addressRank object + 2 ^ physicalSizeBits config object.object ≤ ut.1.stop := by
  have hbits : physicalSizeBits config object.object < 64 := lt_of_two_pow_lt (by omega)
  unfold paddrOk at h
  extract_lets idx at h
  split at h
  · cases h
  · obtain ⟨ut, hut, hok⟩ := (Option.any_eq_true ..).mp h
    have hmem := List.mem_of_getElem? hut
    rw [bit64_eq hbits, add64_eq hbound, (huts ut.1 (mem_untypedsByPaddr hmem)).end_eq, Bool.and_eq_true] at hok
    exact ⟨ut, hmem, of_decide_eq_true hok.1, of_decide_eq_true hok.2⟩

/-- Whether a window has objects left. -/
def hasLeft (windows : List (Option Window)) (bits : Nat) : Bool :=
  windows[bits]?.any fun window => window.any fun window => window.start != window.stop

lemma foldlM_any {f : Bool → Nat → Except Halt Bool} {p : Nat → Bool} (hf : ∀ oom x, f oom x = .ok (oom || p x))
    (sizes : List Nat) (oom : Bool) : sizes.foldlM f oom = .ok (oom || sizes.any p) := by
  induction sizes generalizing oom with
  | nil =>
    rw [List.any_nil, Bool.or_false]
    rfl
  | cons bits sizes ih =>
    rw [List.foldlM_cons, List.any_cons, ← Bool.or_assoc, hf]
    exact ih (oom || p bits)

lemma ranOut_suppressed (windows : List (Option Window)) :
    ranOut .suppressed windows = .ok ((List.range 64).any (hasLeft windows)) := by
  refine foldlM_any (fun oom bits => ?_) (List.range 64) false
  unfold hasLeft
  cases windows[bits]? with
  | none =>
    rw [Option.any_none, Bool.or_false]
    rfl
  | some window =>
    cases window with
    | none =>
      rw [Option.any_some, Option.any_none, Bool.or_false]
      rfl
    | some window =>
      rw [Option.any_some, Option.any_some]
      by_cases hne : window.start = window.stop
      · rw [bne_eq_false_iff_eq.mpr hne, Bool.or_false]
        simp only [hne, ne_eq, not_true_eq_false, if_false]
        rfl
      · rw [bne_iff_ne.mpr hne, Bool.or_true]
        simp only [hne, ne_eq, not_false_eq_true, if_true]
        rfl

end untypeds

/-! ## The placement -/

/-- Objects with an address: each is aligned to its size and ends below 2 ^ 64, and no two overlap. -/
structure FixedApart (config : Sdf.Config) (objects : List NamedObject) : Prop where
  bound : ∀ object ∈ objects, object.object.paddr.isSome →
    addressRank object + 2 ^ physicalSizeBits config object.object < 2 ^ 64
  aligned : ∀ object ∈ objects, object.object.paddr.isSome →
    2 ^ physicalSizeBits config object.object ∣ addressRank object
  apart : objects.Pairwise fun a b => a.object.paddr.isSome → b.object.paddr.isSome →
    addressRank a + 2 ^ physicalSizeBits config a.object ≤ addressRank b ∨
      addressRank b + 2 ^ physicalSizeBits config b.object ≤ addressRank a

/-- Every object that has a size has memory of its own. -/
structure Placement (config : Sdf.Config) (objects : List NamedObject) (untypeds : List UntypedObject)
    (allocations : List (ObjectId × ExpectedAllocation)) : Prop where
  nodup : (allocations.map (·.1)).Nodup
  all : ∀ id object, objects[id]? = some object → 0 < physicalSizeBits config object.object →
    id ∈ allocations.map (·.1)
  placed : ∀ e ∈ allocations, WellPlaced config objects untypeds e
  apart : allocations.Pairwise fun a b => bookedEnd config objects b ≤ a.2.paddr

/-- The order of the addresses, and of the sizes for objects of one address. -/
lemma isLE_compareObjects {a b : NamedObject} (h : (compareObjects config a b).isLE) :
    addressRank a < addressRank b ∨ addressRank a = addressRank b ∧
      physicalSizeBits config b.object ≤ physicalSizeBits config a.object := by
  rw [compareObjects_eq] at h
  simp only [compareLex, compareOn] at h
  rcases Nat.lt_trichotomy (addressRank a) (addressRank b) with hlt | heq | hgt
  · exact .inl hlt
  · refine .inr ⟨heq, ?_⟩
    rw [Nat.compare_eq_eq.mpr heq, Ordering.eq_then] at h
    by_contra hgt
    rw [Nat.compare_eq_gt.mpr (Nat.lt_of_not_le hgt)] at h
    cases h
  · rw [Nat.compare_eq_gt.mpr hgt] at h
    cases h

lemma isSome_iff_addressRank {object : NamedObject} : object.object.paddr.isSome ↔ addressRank object < 2 ^ 64 := by
  unfold addressRank
  cases object.object.paddr with
  | none => simp
  | some paddr => simpa using paddr.isLt

section placement

variable {untypeds : List UntypedObject}

/-- The objects with an address come first in a sorted spec. -/
lemma exists_split (hsorted : objects.Pairwise fun a b => (compareObjects config a b).isLE) :
    ∃ fixed ordinary, objects = fixed ++ ordinary ∧ (∀ object ∈ fixed, object.object.paddr.isSome) ∧
      ∀ object ∈ ordinary, object.object.paddr = none := by
  induction objects with
  | nil => exact ⟨[], [], rfl, List.forall_mem_nil _, List.forall_mem_nil _⟩
  | cons object objects ih =>
    obtain ⟨hhead, htail⟩ := List.pairwise_cons.mp hsorted
    cases hpaddr : object.object.paddr with
    | some paddr =>
      obtain ⟨fixed, ordinary, rfl, hfixed, hordinary⟩ := ih htail
      exact ⟨object :: fixed, ordinary, rfl, List.forall_mem_cons.mpr ⟨by rw [hpaddr]; rfl, hfixed⟩, hordinary⟩
    | none =>
      refine ⟨[], object :: objects, rfl, List.forall_mem_nil _, List.forall_mem_cons.mpr ⟨hpaddr, fun o ho => ?_⟩⟩
      have hrank : ¬ addressRank object < 2 ^ 64 := by
        rw [← isSome_iff_addressRank, hpaddr]
        exact Bool.false_ne_true
      by_contra hsome
      have hrank' := isSome_iff_addressRank.mp (Option.isSome_iff_ne_none.mpr hsome)
      rcases isLE_compareObjects (hhead o ho) with hlt | ⟨heq, -⟩
      · omega
      · omega

lemma descending_of_sorted (hsorted : (fixed ++ ordinary).Pairwise fun a b => (compareObjects config a b).isLE)
    (hnone : ∀ object ∈ ordinary, object.object.paddr = none) :
    Descending config (fixed ++ ordinary) fixed.length := by
  intro i j a b hi hij ha hb
  have hrank : ∀ {i : Nat} {object : NamedObject}, fixed.length ≤ i → (fixed ++ ordinary)[i]? = some object →
      addressRank object = 2 ^ 64 := by
    intro i object hi hobject
    rw [List.getElem?_append_right hi] at hobject
    rw [addressRank, hnone object (List.mem_of_getElem? hobject)]
    rfl
  rcases Nat.eq_or_lt_of_le hij with rfl | hlt
  · obtain rfl := Option.some.inj (ha.symm.trans hb)
    exact le_rfl
  · have hlt' : addressRank a = addressRank b := (hrank hi ha).trans (hrank (hi.trans hij) hb).symm
    obtain ⟨hi', rfl⟩ := List.getElem?_eq_some_iff.mp ha
    obtain ⟨hj', rfl⟩ := List.getElem?_eq_some_iff.mp hb
    rcases isLE_compareObjects (List.pairwise_iff_getElem.mp hsorted i j hi' hj' hlt) with h | ⟨-, h⟩
    · omega
    · exact h

lemma addressed_of_sorted (hsorted : (fixed ++ ordinary).Pairwise fun a b => (compareObjects config a b).isLE)
    (hsome : ∀ object ∈ fixed, object.object.paddr.isSome) (hfixed : FixedApart config (fixed ++ ordinary)) :
    Addressed config fixed := by
  refine ⟨hsome, fun o ho => hfixed.bound o (List.mem_append_left _ ho) (hsome o ho),
    fun o ho => hfixed.aligned o (List.mem_append_left _ ho) (hsome o ho), ?_⟩
  have horder := (List.pairwise_append.mp hsorted).1.and (List.pairwise_append.mp hfixed.apart).1
  refine horder.imp_of_mem ?_
  rintro a b ha hb ⟨hle, hapart⟩
  have hpos := Nat.two_pow_pos (physicalSizeBits config b.object)
  rcases hapart (hsome a ha) (hsome b hb) with h | h
  · exact h
  · rcases isLE_compareObjects hle with hlt | ⟨heq, -⟩
    · omega
    · omega

/-- Before the loop nothing is booked. -/
lemma Booked.initial {windows : List (Option Window)} (hw : Windowed config objects first windows)
    (hu : Untaken config objects first windows) : Booked config objects untypeds first 0 0 ⟨windows, []⟩ := by
  refine ⟨hw, List.nodup_nil, fun id => ?_, List.forall_mem_nil _, List.Pairwise.nil, List.forall_mem_nil _⟩
  constructor
  · exact nofun
  · rintro (hlow | ⟨hid, object, window, hobject, hget, hlt⟩)
    · cases hlow
    · exact absurd hlt (Nat.not_lt.mpr (hu.least id object window hid hobject hget))

/-- When no window has objects left, all objects are placed. -/
lemma Booked.placement {cur : Nat} {s : Simulation} (h : Booked config objects untypeds first first cur s)
    (hleft : (List.range 64).any (hasLeft s.windows) = false) :
    Placement config objects untypeds s.expectedAllocations := by
  refine ⟨h.nodup, fun id object hobject hpos => (h.booked id).mpr ?_, h.placed, h.apart⟩
  rcases Nat.lt_or_ge id first with hlow | hid
  · exact .inl hlow
  · obtain ⟨window, hget, hlt⟩ := h.windowed.all id object hid hobject hpos
    have hbits := (List.getElem?_eq_some_iff.mp hget).1
    rw [h.windowed.length] at hbits
    have hnone := List.any_eq_false.mp hleft _ (List.mem_range.mpr hbits)
    rw [hasLeft, hget] at hnone
    have hstop : window.start = window.stop := by simpa using hnone
    exact .inr ⟨hid, object, window, hobject, hget, hstop ▸ hlt⟩

/-- On a sorted spec the simulation returns, and when it succeeds every object is placed. -/
theorem simulate_places (hsorted : objects.Pairwise fun a b => (compareObjects config a b).isLE)
    (hfixed : FixedApart config objects)
    (hordinary : Ordinary config (objects.filter fun object => object.object.paddr.isNone))
    (huts : ∀ ut ∈ untypeds, WellFormedUntyped ut)
    (hapart : untypeds.Pairwise fun a b => a.stop ≤ b.base ∨ b.stop ≤ a.base) :
    ∃ result allocations, simulateCapdlObjectAllocAlgorithm config objects untypeds [] .printStderr =
        .ok (result, allocations) ∧ (result = true → Placement config objects untypeds allocations) := by
  obtain ⟨fixed, ordinary, rfl, hsome, hnone⟩ := exists_split hsorted
  have hfilter : ((fixed ++ ordinary).filter fun object => object.object.paddr.isNone) = ordinary := by
    rw [List.filter_append, List.filter_eq_nil_iff.mpr, List.filter_eq_self.mpr, List.nil_append]
    · exact fun o ho => Option.isNone_iff_eq_none.mpr (hnone o ho)
    · intro o ho hnone
      have := hsome o ho
      rw [Option.isNone_iff_eq_none.mp hnone] at this
      cases this
  rw [hfilter] at hordinary
  have haddressed := addressed_of_sorted hsorted hsome hfixed
  obtain ⟨windows, hwindows, hw, hu⟩ := objectWindowsBySize_windowed (descending_of_sorted hsorted hnone)
    fun o ho => (hordinary.small o ho).trans (by decide)
  rw [simulate_eq hsome hnone, hwindows]
  by_cases hpasses : passes config untypeds fixed = true
  · have hcovers : ∀ object ∈ fixed, ∃ ut ∈ untypedsByPaddr untypeds, ut.1.base ≤ addressRank object ∧
        addressRank object + 2 ^ physicalSizeBits config object.object ≤ ut.1.stop := by
      intro object hobject
      obtain ⟨paddr, hpaddr⟩ := Option.isSome_iff_exists.mp (hsome object hobject)
      have hok := List.all_eq_true.mp hpasses object hobject
      rw [hpaddr] at hok
      refine covered_of_paddrOk huts (haddressed.bound object hobject) ?_
      rw [addressRank_eq hpaddr]
      exact hok
    obtain ⟨cur, s, hrun, h⟩ := allocateFromUts_booked (Booked.initial hw hu)
      (fun id object hid hobject => by
        rw [List.getElem?_append_right hid] at hobject
        exact hnone object (List.mem_of_getElem? hobject))
      (fun ut hut => ⟨getElem?_of_mem_untypedsByPaddr hut, huts ut.1 (mem_untypedsByPaddr hut)⟩)
      (untypedsByPaddr_apart huts hapart) (fun ut _ => Nat.zero_le _) haddressed
      (fun i object hi => by
        rw [Nat.zero_add, List.getElem?_append_left (List.getElem?_eq_some_iff.mp hi).1]
        exact hi)
      (Nat.zero_add _) hcovers
    have hbounded := allocateFromUts_keeps (fun _ _ => Bounded.taken) hrun (objectWindowsBySize_bounded hwindows)
    refine ⟨!(List.range 64).any (hasLeft s.windows), s.expectedAllocations, ?_, fun hresult => h.placement ?_⟩
    · change (if _ then _ else _) = _
      rw [if_neg (by rw [hpasses]; exact fun hfails => Bool.noConfusion hfails.1)]
      rw [hrun]
      change (ranOut .printStderr s.windows >>= _) = _
      rw [ranOut_printStderr hordinary hbounded, ranOut_suppressed]
      rfl
    · rwa [Bool.not_eq_true'] at hresult
  · rw [Bool.not_eq_true] at hpasses
    refine ⟨false, [], ?_, nofun⟩
    change (if _ then _ else _) = _
    rw [if_pos ⟨hpasses, rfl⟩]
    rfl

end placement

private def uartConfig : Sdf.Config :=
  ⟨.aarch64, true, false, 1, some 40, none, ⟨11, 4, 6, 5, 13, 12, 21, 12, 12⟩, Sdf.paSize_forty⟩

private def uartObjects : List NamedObject :=
  [⟨"frame_uart", .frame 12 (some 0x9000000) []⟩, ⟨"cnode_driver", .cnode 12 []⟩,
    ⟨"tcb_driver", .tcb [] ⟨0, 0, 0, 0, false, false, 0, 0⟩⟩]

private def uartUntypeds : List UntypedObject :=
  [⟨0, ⟨0x40000000, 0x40100000⟩, false⟩, ⟨1, ⟨0x9000000, 0x9001000⟩, true⟩]

private lemma uart_sorted : untypedsByPaddr uartUntypeds =
    [(⟨1, ⟨0x9000000, 0x9001000⟩, true⟩, 1), (⟨0, ⟨0x40000000, 0x40100000⟩, false⟩, 0)] := by
  simp [untypedsByPaddr, uartUntypeds, UntypedObject.base, List.zipIdx, List.mergeSort,
    List.MergeSort.Internal.splitInTwo]

private lemma uart_returns : (simulateCapdlObjectAllocAlgorithm uartConfig uartObjects uartUntypeds []
    .printStderr).toOption.any (·.1) = true := by
  unfold simulateCapdlObjectAllocAlgorithm
  rw [uart_sorted]
  decide +kernel

/-- A device's frame in a device untyped, and a CSpace and a thread in main memory. -/
theorem simulate_places_uart : ∃ allocations, simulateCapdlObjectAllocAlgorithm uartConfig uartObjects uartUntypeds []
    .printStderr = .ok (true, allocations) ∧ Placement uartConfig uartObjects uartUntypeds allocations := by
  have huts : ∀ ut ∈ uartUntypeds, WellFormedUntyped ut := by
    intro ut hut
    rcases List.mem_cons.mp hut with rfl | hut
    · exact ⟨by decide, by decide⟩
    · obtain rfl := List.mem_singleton.mp hut
      exact ⟨by decide, by decide⟩
  obtain ⟨result, allocations, hrun, hplaced⟩ := @simulate_places uartConfig uartObjects uartUntypeds (by decide)
    ⟨by decide, by decide, by decide⟩ ⟨by decide, by decide, by decide⟩ huts (by decide)
  have htrue := uart_returns
  rw [hrun] at htrue
  obtain rfl : result = true := htrue
  exact ⟨allocations, hrun, hplaced rfl⟩

end NexsKernel.Capdl
