import NexsKernel.Sdf.Config
import NexsKernel.Tool.Memory

/-!
# Allocating memory

The runs of calls on a `DisjointMemoryRegion`. The regions of the list stay in order and their addresses are those
that the calls have put in and not taken out; what an allocation returns was in the set (`reachable_regions`).

Regions that touch are not always merged. A region that goes between two others is compared with the end of the one
after it and not with that of the one before, so it is only merged with the latter when it is put behind all the
others. Sets that `insert_region` builds are merged, and `allocate` finds what there is in them, exactly if no region is
ever put between one that ends where it begins and another one (`merged_iff`).
-/

namespace NexsKernel.Tool

/-! ## Calls -/

inductive Call where
  | insertRegion (base stop : BitVec 64)
  | removeRegion (base stop : BitVec 64)
  | allocate (bytes : BitVec 64) (pageSize : Sdf.PageSize)
  | allocateFrom (bytes lowerBound : BitVec 64)
  deriving DecidableEq, Repr

namespace Call

def run : Call → List MemoryRegion → Except Halt (Option Nat × List MemoryRegion)
  | insertRegion base stop, t => do return (none, ← Tool.insertRegion base.toNat stop.toNat t)
  | removeRegion base stop, t => do return (none, ← Tool.removeRegion base.toNat stop.toNat t)
  | allocate bytes pageSize, t => Tool.allocate bytes.toNat pageSize.bytes.toNat t
  | allocateFrom bytes lowerBound, t => Tool.allocateFrom bytes.toNat lowerBound.toNat t

/-- What the callers see to: a region that is inserted is new, and a range that is removed lies in one region. -/
def Allowed : Call → List MemoryRegion → Prop
  | insertRegion base stop, t => Disjoint (Set.Ico base.toNat stop.toNat) (cover t)
  | removeRegion base stop, t => base ≤ stop ∧ ∃ r ∈ t, r.start ≤ base.toNat ∧ stop.toNat ≤ r.stop
  | allocate _ _, _ => True
  | allocateFrom _ _, _ => True

/-- The addresses that an allocation has returned. -/
def taken (bytes : BitVec 64) : Option Nat → Set Nat
  | some a => Set.Ico a (a + bytes.toNat)
  | none => ∅

/-- What a call that has returned `result` makes of a set of addresses. -/
def effect (result : Option Nat) : Call → Set Nat → Set Nat
  | insertRegion base stop, s => s ∪ Set.Ico base.toNat stop.toNat
  | removeRegion base stop, s => s \ Set.Ico base.toNat stop.toNat
  | allocate bytes _, s => s \ taken bytes result
  | allocateFrom bytes _, s => s \ taken bytes result

/-- An address that a call may return for a set of addresses. -/
def Returns (s : Set Nat) (a : Nat) : Call → Prop
  | insertRegion _ _ => False
  | removeRegion _ _ => False
  | allocate bytes pageSize => pageSize.bytes.toNat ∣ a ∧ Set.Ico a (a + bytes.toNat) ⊆ s
  | allocateFrom bytes lowerBound => lowerBound.toNat ≤ a ∧ Set.Ico a (a + bytes.toNat) ⊆ s

/-- When a call panics: on a region that is empty, and on one whose aligned start may wrap. -/
def Panics (t : List MemoryRegion) : Call → Prop
  | insertRegion base stop => stop ≤ base
  | removeRegion _ _ => False
  | allocate _ pageSize => ∃ r ∈ t, 2 ^ 64 < r.stop + pageSize.bytes.toNat
  | allocateFrom _ _ => False

end Call

/-- The lists that calls reach from the empty one, and the addresses that are then in the set. -/
inductive Reachable : List MemoryRegion → Set Nat → Prop where
  | empty : Reachable [] ∅
  | call {t t' s call result} :
    Reachable t s →
    call.Allowed t →
    Call.run call t = .ok (result, t') →
    Reachable t' (call.effect result s)

/-! ## Insertion -/

lemma ascending_append {l u : List MemoryRegion} :
    Ascending (l ++ u) ↔ Ascending l ∧ Ascending u ∧ ∀ a ∈ l, ∀ b ∈ u, a.stop ≤ b.start := by
  constructor
  · intro h
    obtain ⟨hl, hu, hlu⟩ := List.pairwise_append.mp h.sorted
    exact ⟨⟨fun r hr => h.proper r (List.mem_append_left _ hr), hl⟩,
      ⟨fun r hr => h.proper r (List.mem_append_right _ hr), hu⟩, hlu⟩
  · rintro ⟨hl, hu, hlu⟩
    refine ⟨fun r hr => ?_, List.pairwise_append.mpr ⟨hl.sorted, hu.sorted, hlu⟩⟩
    rcases List.mem_append.mp hr with hr | hr
    · exact hl.proper r hr
    · exact hu.proper r hr

section insertion

variable {base stop : Nat} {l u t t' : List MemoryRegion}

/-- A new region goes between those below it and those above it. -/
lemma Placed.ascending (h : Placed base stop l u t') (hasc : Ascending (l ++ u)) (hlt : base < stop)
    (hl : ∀ r ∈ l, r.stop ≤ base) (hu : ∀ r ∈ u, stop ≤ r.start) : Ascending t' := by
  obtain ⟨hascl, hascu, hlu⟩ := ascending_append.mp hasc
  cases h with
  | @below l u r e =>
    have hr := hascu.proper r List.mem_cons_self
    refine ascending_append.mpr ⟨hascl, hascu.tail.cons (by dsimp only; omega) fun s hs => ?_, fun a ha b hb => ?_⟩
    · exact List.rel_of_pairwise_cons hascu.sorted hs
    · rcases List.mem_cons.mp hb with rfl | hb
      · exact hl a ha
      · exact hlu a ha b (List.mem_cons_of_mem _ hb)
  | @above l r e =>
    obtain ⟨hascl, hascr, hlr⟩ := ascending_append.mp hascl
    have hr := hascr.proper r List.mem_cons_self
    refine ascending_append.mpr ⟨hascl, Ascending.nil.cons (by dsimp only; omega) nofun, fun a ha b hb => ?_⟩
    obtain rfl := List.mem_singleton.mp hb
    exact hlr a ha r List.mem_cons_self
  | between _ _ =>
    refine ascending_append.mpr ⟨hascl, hascu.cons hlt hu, fun a ha b hb => ?_⟩
    rcases List.mem_cons.mp hb with rfl | hb
    · exact hl a ha
    · exact hlu a ha b hb

/-- What `insert_region` does before the regions are checked. -/
lemma insertRegion_eq (hasc : Ascending t) (hlt : base < stop) :
    t = [] ∧ insertRegion base stop t = .ok [⟨base, stop⟩] ∨
      ∃ l u t', t = l ++ u ∧ (∀ r ∈ l, r.start < stop) ∧ (∀ r ∈ u, stop ≤ r.start) ∧ Placed base stop l u t' ∧
        insertRegion base stop t = (do check t'; return t') := by
  unfold insertRegion
  rw [assert_ok (decide_eq_true hlt)]
  change t = [] ∧ (if t.isEmpty then _ else _) = _ ∨ ∃ l u t', _ ∧ _ ∧ _ ∧ _ ∧ (if t.isEmpty then _ else _) = _
  rcases t.eq_nil_or_concat with rfl | ⟨l0, r0, e0⟩
  · exact .inl ⟨rfl, rfl⟩
  · have hne : t ≠ [] := by simp [e0]
    obtain ⟨l, u, rfl, hbelow, hhead, hplaced⟩ := insertAt_placed hasc.proper hlt hne
    obtain ⟨-, hascu, -⟩ := ascending_append.mp hasc
    have hu : ∀ r ∈ u, stop ≤ r.start := by
      intro r hr
      cases u with
      | nil => cases hr
      | cons first rest =>
        have hfirst := hhead first rest rfl
        rcases List.mem_cons.mp hr with rfl | hr
        · exact hfirst
        · have hle := List.rel_of_pairwise_cons hascu.sorted hr
          have hproper := hascu.proper first List.mem_cons_self
          omega
    refine .inr ⟨l, u, _, rfl, hbelow, hu, hplaced, ?_⟩
    rw [if_neg (by simpa using hne)]

/-- A new region goes between those below it and those above it. -/
lemma insertRegion_ok (hasc : Ascending t) (hlt : base < stop) (hnew : Disjoint (Set.Ico base stop) (cover t)) :
    ∃ t', insertRegion base stop t = .ok t' := by
  rcases insertRegion_eq hasc hlt with ⟨-, hrun⟩ | ⟨l, u, t', rfl, hbelow, hu, hplaced, hrun⟩
  · exact ⟨_, hrun⟩
  · have hl : ∀ r ∈ l, r.stop ≤ base := by
      intro r hr
      have hproper := hasc.proper r (List.mem_append_left _ hr)
      have hstart := hbelow r hr
      by_contra hgt
      -- the two have an address in common
      have hmem : max base r.start ∈ cover (l ++ u) :=
        mem_cover_of_mem (List.mem_append_left _ hr) ⟨le_max_right _ _, by omega⟩
      exact Set.disjoint_left.mp hnew ⟨le_max_left _ _, by omega⟩ hmem
    refine ⟨t', ?_⟩
    rw [hrun, check_ok (hplaced.ascending hasc hlt hl hu)]
    rfl

/-- The regions below a new one end where it begins at the latest, or the check fails. -/
lemma Placed.stop_le (h : Placed base stop l u t') (hasc : Ascending (l ++ u)) (hasc' : Ascending t') :
    ∀ r ∈ l, r.stop ≤ base := by
  cases h with
  | below e => exact fun r hr => (ascending_append.mp hasc').2.2 r hr _ List.mem_cons_self
  | @above l r e =>
    obtain ⟨-, hascr, hlr⟩ := ascending_append.mp (ascending_append.mp hasc).1
    have hproper := hascr.proper r List.mem_cons_self
    intro s hs
    rcases List.mem_append.mp hs with hs | hs
    · have hle := hlr s hs r List.mem_cons_self
      omega
    · obtain rfl := List.mem_singleton.mp hs
      exact e.le
  | between _ _ => exact fun r hr => (ascending_append.mp hasc').2.2 r hr _ List.mem_cons_self

/-- Where a call of `insert_region` that returns has put the region. -/
lemma insertRegion_ran (hasc : Ascending t) (hrun : insertRegion base stop t = .ok t') :
    base < stop ∧ (t = [] ∧ t' = [⟨base, stop⟩] ∨
      ∃ l u, t = l ++ u ∧ (∀ r ∈ l, r.stop ≤ base) ∧ (∀ r ∈ u, stop ≤ r.start) ∧ Placed base stop l u t') := by
  obtain ⟨hlt, hasc', -⟩ := insertRegion_spec hasc hrun
  refine ⟨hlt, ?_⟩
  rcases insertRegion_eq hasc hlt with ⟨hnil, hrun'⟩ | ⟨l, u, t1, rfl, -, hu, hplaced, hrun'⟩
  · exact .inl ⟨hnil, Except.ok.inj (hrun.symm.trans hrun')⟩
  · rw [hrun] at hrun'
    obtain ⟨_, -, e⟩ := bind_eq_ok.mp hrun'.symm
    obtain rfl := Except.ok.inj e
    exact .inr ⟨l, u, rfl, hplaced.stop_le hasc hasc', hu, hplaced⟩

end insertion

/-! ## Removal -/

section removal

variable {base stop : Nat} {t t' : List MemoryRegion}

/-- The region that `remove_region` finds. -/
lemma removeRegion_found (h : ∃ r ∈ t, r.start ≤ base ∧ stop ≤ r.stop) :
    ∃ l r u, t = l ++ r :: u ∧ r.start ≤ base ∧ stop ≤ r.stop ∧
      removeRegion base stop t = (do
        check (removeAt base stop l.length r t)
        return removeAt base stop l.length r t) := by
  obtain ⟨l, u, rfl, hidx, hbefore, hhead⟩ :=
    findIdx_split (fun region => region.start ≤ base && stop ≤ region.stop) t
  cases u with
  | nil =>
    obtain ⟨r, hr, hstart, hstop⟩ := h
    rw [List.append_nil] at hr
    have hno := hbefore r hr
    rw [decide_eq_true hstart, decide_eq_true hstop] at hno
    cases hno
  | cons r u =>
    have hr := hhead r u rfl
    simp only [Bool.and_eq_true, decide_eq_true_eq] at hr
    refine ⟨l, r, u, rfl, hr.1, hr.2, ?_⟩
    unfold removeRegion
    extract_lets idx
    have hget : (l ++ r :: u)[idx]? = some r := by
      rw [show idx = l.length from hidx]
      simp
    rw [hget]
    dsimp only
    rw [show idx = l.length from hidx]

/-- A range in one of the regions can be removed. -/
lemma removeRegion_within (hasc : Ascending t) (hle : base ≤ stop) (h : ∃ r ∈ t, r.start ≤ base ∧ stop ≤ r.stop) :
    ∃ t', removeRegion base stop t = .ok t' ∧ Ascending t' ∧ cover t' = cover t \ Set.Ico base stop := by
  obtain ⟨l, r, u, rfl, hstart, hstop, hrun⟩ := removeRegion_found h
  have hasc' := leftovers_ascending hasc hstart hle hstop
  refine ⟨_, ?_, hasc', Set.ext fun x => mem_cover_removed hasc hstart hle hstop⟩
  rw [hrun, removeAt_eq hstart hstop, check_ok hasc']
  rfl

lemma checkFrom_after {lastEnd : Nat} {l u : List MemoryRegion} {r : MemoryRegion} {x : Unit}
    (h : checkFrom lastEnd (l ++ r :: u) = .ok x) : checkFrom r.stop u = .ok () := by
  induction l generalizing lastEnd with
  | nil => exact (bind_eq_ok.mp h).choose_spec.2
  | cons s l ih => exact ih (bind_eq_ok.mp h).choose_spec.2

/-- A range from within a region on whose end has wrapped cannot be removed. -/
lemma removeRegion_wrapped (hasc : Ascending t) (hlt : stop < base) {r : MemoryRegion} (hr : r ∈ t)
    (hstart : r.start < base) (hstop : base < r.stop) : removeRegion base stop t ≠ .ok t' := by
  intro h
  have hfound : ∃ r ∈ t, r.start ≤ base ∧ stop ≤ r.stop := ⟨r, hr, hstart.le, by omega⟩
  obtain ⟨l, r', u, rfl, hstart', hstop', hrun⟩ := removeRegion_found hfound
  rw [hrun] at h
  obtain ⟨_, hcheck, -⟩ := bind_eq_ok.mp h
  obtain ⟨hascl, hascu, hlu⟩ := ascending_append.mp hasc
  have hproper' := hascu.proper r' List.mem_cons_self
  -- the region is the one that is found, or comes after it
  have hafter : r = r' ∨ r ∈ u ∧ r'.stop ≤ r.start := by
    rcases List.mem_append.mp hr with hr | hr
    · have hle := hlu r hr r' List.mem_cons_self
      omega
    · rcases List.mem_cons.mp hr with rfl | hr
      · exact .inl rfl
      · exact .inr ⟨hr, List.rel_of_pairwise_cons hascu.sorted hr⟩
  have hne : r'.start ≠ base := by
    rintro e
    rcases hafter with rfl | ⟨-, hle⟩ <;> omega
  unfold removeAt at hcheck
  rw [if_neg fun e => hne e.1, if_neg hne] at hcheck
  split_ifs at hcheck with hend
  · rw [List.set_append_right _ _ le_rfl, Nat.sub_self, List.set_cons_zero] at hcheck
    rcases hafter with rfl | ⟨hr, -⟩
    · omega
    · have habove := (checkFrom_spec (fun s hs => hascu.proper s (List.mem_cons_of_mem _ hs))
        (checkFrom_after hcheck)).2 r hr
      dsimp only at habove
      omega
  · have hsplit : ((l ++ r' :: u).set l.length ⟨r'.start, base⟩).insertIdx (l.length + 1) ⟨stop, r'.stop⟩ =
        l ++ ⟨r'.start, base⟩ :: ⟨stop, r'.stop⟩ :: u := by
      have e := insertIdx_length (l ++ [⟨r'.start, base⟩]) u ⟨stop, r'.stop⟩
      rw [List.length_append, List.length_singleton, List.append_assoc, List.append_assoc] at e
      rw [List.set_append_right _ _ le_rfl, Nat.sub_self, List.set_cons_zero]
      exact e
    rw [hsplit] at hcheck
    obtain ⟨_, hle, -⟩ := bind_eq_ok.mp (checkFrom_after hcheck)
    have hle : base ≤ stop := of_decide_eq_true (assert_eq_ok.mp hle)
    omega

end removal

/-! ## Allocation -/

section allocation

variable {t t' : List MemoryRegion} {bytes pageSize : Nat} {r : MemoryRegion}

/-- A multiple below 2 ^ 64 leaves room for one more. -/
lemma multiple_room {n : Nat} (hn : n < 2 ^ 64) (hmultiple : pageSize ∣ n) (hdvd : pageSize ∣ 2 ^ 64) :
    n + pageSize ≤ 2 ^ 64 := by
  have hle := Nat.le_of_dvd (Nat.sub_pos_of_lt hn) (Nat.dvd_sub hdvd hmultiple)
  omega

/-- The next multiple, unless it is 2 ^ 64 and wraps. -/
lemma nextMultipleOf_spec {n : Nat} (hn : n < 2 ^ 64) (hpos : 0 < pageSize) (hdvd : pageSize ∣ 2 ^ 64) :
    (n ≤ nextMultipleOf n pageSize ∧ nextMultipleOf n pageSize < n + pageSize ∧
      nextMultipleOf n pageSize + pageSize ≤ 2 ^ 64 ∧ pageSize ∣ nextMultipleOf n pageSize) ∨
      nextMultipleOf n pageSize = 0 ∧ 0 < n ∧ 2 ^ 64 < n + pageSize := by
  unfold nextMultipleOf
  split_ifs with h
  · have hmultiple := Nat.dvd_of_mod_eq_zero h
    exact .inl ⟨le_rfl, Nat.lt_add_of_pos_right hpos, multiple_room hn hmultiple hdvd, hmultiple⟩
  · have hmod := Nat.mod_lt n hpos
    have hle := Nat.mod_le n pageSize
    have hnext : pageSize ∣ n + (pageSize - n % pageSize) := by
      have e : n + (pageSize - n % pageSize) = n - n % pageSize + pageSize := by omega
      rw [e]
      exact Nat.dvd_add (Nat.dvd_sub_mod n) dvd_rfl
    rcases Nat.lt_or_ge (n + (pageSize - n % pageSize)) (2 ^ 64) with hlt | hge
    · rw [add64_eq hlt]
      exact .inl ⟨Nat.le_add_right _ _, by omega, multiple_room hlt hnext hdvd, hnext⟩
    · have hzero := Nat.eq_zero_of_dvd_of_lt (Nat.dvd_sub hnext hdvd) (by omega)
      have e : n + (pageSize - n % pageSize) = 2 ^ 64 := by omega
      rw [add64, e, Nat.mod_self]
      exact .inr ⟨rfl, by omega, by omega⟩

/-- What `allocate` looks for in a region. -/
def fits (bytes pageSize : Nat) (r : MemoryRegion) : Bool :=
  bytes ≤ size r && add64 (nextMultipleOf r.start pageSize) bytes ≤ r.stop

lemma size_eq (hlt : r.start < r.stop) (hbound : r.stop < 2 ^ 64) : size r = r.stop - r.start :=
  sub64_eq hlt.le hbound

lemma allocate_none (h : t.find? (fits bytes pageSize) = none) : allocate bytes pageSize t = .ok (none, t) := by
  unfold fits at h
  unfold allocate
  rw [h]

lemma allocate_some (h : t.find? (fits bytes pageSize) = some r) : allocate bytes pageSize t = (do
    let regions ← removeRegion (nextMultipleOf r.start pageSize) (add64 (nextMultipleOf r.start pageSize) bytes) t
    return (some (nextMultipleOf r.start pageSize), regions)) := by
  unfold fits at h
  unfold allocate
  rw [h]

/-- An aligned range that does not wrap lies in the region that has been found. -/
lemma allocate_found (hasc : Ascending t)
    (hfind : t.find? (fits bytes pageSize) = some r) (hle : r.start ≤ nextMultipleOf r.start pageSize)
    (hnowrap : nextMultipleOf r.start pageSize + bytes < 2 ^ 64) :
    ∃ t', allocate bytes pageSize t = .ok (some (nextMultipleOf r.start pageSize), t') ∧
      nextMultipleOf r.start pageSize + bytes ≤ r.stop ∧
      removeRegion (nextMultipleOf r.start pageSize) (nextMultipleOf r.start pageSize + bytes) t = .ok t' := by
  have hr := List.mem_of_find?_eq_some hfind
  have hfits := List.find?_some hfind
  unfold fits at hfits
  simp only [Bool.and_eq_true, decide_eq_true_eq] at hfits
  rw [add64_eq hnowrap] at hfits
  obtain ⟨t', hrun, -⟩ := removeRegion_within hasc (Nat.le_add_right _ bytes) ⟨r, hr, hle, hfits.2⟩
  refine ⟨t', ?_, hfits.2, hrun⟩
  rw [allocate_some hfind, add64_eq hnowrap, hrun]
  rfl

/-- One that wraps makes `allocate` panic. -/
lemma allocate_wrapped (hasc : Ascending t) (hbound : ∀ r ∈ t, r.stop < 2 ^ 64)
    (hfind : t.find? (fits bytes pageSize) = some r) (hlt : bytes < 2 ^ 64)
    (hwrap : nextMultipleOf r.start pageSize = 0 ∧ 0 < r.start ∨ r.start ≤ nextMultipleOf r.start pageSize ∧
      nextMultipleOf r.start pageSize < r.start + pageSize ∧ nextMultipleOf r.start pageSize + pageSize ≤ 2 ^ 64 ∧
      2 ^ 64 ≤ nextMultipleOf r.start pageSize + bytes) :
    ∃ halt, allocate bytes pageSize t = .error halt := by
  have hr := List.mem_of_find?_eq_some hfind
  have hfits := List.find?_some hfind
  have hproper := hasc.proper r hr
  have hstop := hbound r hr
  unfold fits at hfits
  simp only [Bool.and_eq_true, decide_eq_true_eq, size_eq hproper hstop] at hfits
  rw [allocate_some hfind]
  cases hrun : removeRegion (nextMultipleOf r.start pageSize) (add64 (nextMultipleOf r.start pageSize) bytes) t with
  | error halt => exact ⟨halt, rfl⟩
  | ok t' =>
    exfalso
    rcases hwrap with ⟨hzero, hstart⟩ | ⟨hle, hnext, hroom, hwrap⟩
    · -- a region that starts at 0 would have been found before this one
      rw [hzero, add64_eq (by rwa [Nat.zero_add]), Nat.zero_add] at hrun
      obtain ⟨l, r', u, rfl, hstart', hstop', -⟩ := removeRegion_spec hrun
      have hzero' : r'.start = 0 := Nat.le_zero.mp hstart'
      have hproper' := hasc.proper r' (by simp)
      have hbound' := hbound r' (by simp)
      obtain ⟨hascl, -, hlu⟩ := ascending_append.mp hasc
      have hnil : l = [] := by
        cases l with
        | nil => rfl
        | cons s l =>
          have hs := hlu s List.mem_cons_self r' List.mem_cons_self
          have hproper := hascl.proper s List.mem_cons_self
          omega
      have hfits' : fits bytes pageSize r' = true := by
        unfold fits
        rw [size_eq hproper' hbound', hzero', nextMultipleOf, Nat.zero_mod, if_pos rfl,
          add64_eq (by rwa [Nat.zero_add]), Nat.zero_add, Nat.sub_zero]
        simp [hstop']
      rw [hnil, List.nil_append, List.find?_cons_of_pos hfits'] at hfind
      obtain rfl := Option.some.inj hfind
      omega
    · have hadd : add64 (nextMultipleOf r.start pageSize) bytes = nextMultipleOf r.start pageSize + bytes - 2 ^ 64 := by
        rw [add64, Nat.mod_eq_sub_mod hwrap, Nat.mod_eq_of_lt (by omega)]
      rw [hadd] at hrun
      exact removeRegion_wrapped hasc (by omega) hr (by omega) (by omega) hrun

/-- What `allocate` returns, or why it panics. -/
lemma allocate_cases (hasc : Ascending t) (hbound : ∀ r ∈ t, r.stop < 2 ^ 64) (hpos : 0 < pageSize)
    (hdvd : pageSize ∣ 2 ^ 64) (hlt : bytes < 2 ^ 64) :
    (∀ r ∈ t, fits bytes pageSize r = false) ∧ allocate bytes pageSize t = .ok (none, t) ∨
      (∃ a t', allocate bytes pageSize t = .ok (some a, t') ∧ pageSize ∣ a ∧
        (∃ r ∈ t, r.start ≤ a ∧ a + bytes ≤ r.stop) ∧ removeRegion a (a + bytes) t = .ok t') ∨
      (∃ halt, allocate bytes pageSize t = .error halt) ∧ ∃ r ∈ t, 2 ^ 64 < r.stop + pageSize := by
  cases hfind : t.find? (fits bytes pageSize) with
  | none =>
    exact .inl ⟨fun r hr => Bool.eq_false_of_not_eq_true (List.find?_eq_none.mp hfind r hr), allocate_none hfind⟩
  | some r =>
    have hr := List.mem_of_find?_eq_some hfind
    have hproper := hasc.proper r hr
    have hstop := hbound r hr
    refine .inr ?_
    rcases nextMultipleOf_spec (by omega : r.start < 2 ^ 64) hpos hdvd with ⟨hle, hnext, hroom, hmultiple⟩ | ⟨hzero,
      hstart, hlast⟩
    · rcases Nat.lt_or_ge (nextMultipleOf r.start pageSize + bytes) (2 ^ 64) with hnowrap | hwrap
      · obtain ⟨t', hrun, hend, hremove⟩ := allocate_found hasc hfind hle hnowrap
        exact .inl ⟨_, t', hrun, hmultiple, ⟨r, hr, hle, hend⟩, hremove⟩
      · have hfits := List.find?_some hfind
        unfold fits at hfits
        simp only [Bool.and_eq_true, decide_eq_true_eq, size_eq hproper hstop] at hfits
        exact .inr ⟨allocate_wrapped hasc hbound hfind hlt (.inr ⟨hle, hnext, hroom, hwrap⟩), r, hr, by omega⟩
    · exact .inr ⟨allocate_wrapped hasc hbound hfind hlt (.inl ⟨hzero, hstart⟩), r, hr, by omega⟩

/-- The range that `allocate_from` takes does not wrap: it is in the region that has been found. -/
lemma allocateFrom_cases {lowerBound : Nat} (hasc : Ascending t) (hbound : ∀ r ∈ t, r.stop < 2 ^ 64) :
    allocateFrom bytes lowerBound t = .ok (none, t) ∨
      ∃ a t', allocateFrom bytes lowerBound t = .ok (some a, t') ∧ lowerBound ≤ a ∧
        (∃ r ∈ t, r.start ≤ a ∧ a + bytes ≤ r.stop) ∧ removeRegion a (a + bytes) t = .ok t' := by
  unfold allocateFrom
  split
  · exact .inl rfl
  · rename_i r hfind
    have hr := List.mem_of_find?_eq_some hfind
    have hfits := List.find?_some hfind
    have hproper := hasc.proper r hr
    have hstop := hbound r hr
    simp only [Bool.and_eq_true, decide_eq_true_eq, size_eq hproper hstop] at hfits
    have hend : r.start + bytes ≤ r.stop := by omega
    obtain ⟨t', hrun, -⟩ := removeRegion_within hasc (Nat.le_add_right _ bytes) ⟨r, hr, le_rfl, hend⟩
    refine .inr ⟨r.start, t', ?_, hfits.2, ⟨r, hr, le_rfl, hend⟩, hrun⟩
    rw [add64_eq (by omega), hrun]
    rfl

end allocation

/-! ## Runs -/

lemma stop_lt_of_cover {t : List MemoryRegion} (hasc : Ascending t) (hbound : ∀ x ∈ cover t, x + 1 < 2 ^ 64) :
    ∀ r ∈ t, r.stop < 2 ^ 64 := by
  intro r hr
  have hproper := hasc.proper r hr
  have hlast := hbound (r.stop - 1) (mem_cover_of_mem hr ⟨by omega, by omega⟩)
  omega

lemma pageSize_dvd (pageSize : Sdf.PageSize) : 0 < pageSize.bytes.toNat ∧ pageSize.bytes.toNat ∣ 2 ^ 64 := by
  cases pageSize <;> exact ⟨by decide, by decide⟩

lemma insertRegion_new {base stop : Nat} {t : List MemoryRegion} (hasc : Ascending t) (hlt : base < stop)
    (hnew : Disjoint (Set.Ico base stop) (cover t)) :
    ∃ t', insertRegion base stop t = .ok t' ∧ Ascending t' ∧ cover t' = cover t ∪ Set.Ico base stop := by
  obtain ⟨t', hrun⟩ := insertRegion_ok hasc hlt hnew
  obtain ⟨-, hasc', hcover⟩ := insertRegion_spec hasc hrun
  exact ⟨t', hrun, hasc', Set.ext hcover⟩

/-- What is taken out of one region was in the set, and the rest of the set is left. -/
lemma taken_within {t t' : List MemoryRegion} {bytes : BitVec 64} {a : Nat} (hasc : Ascending t)
    (hin : ∃ r ∈ t, r.start ≤ a ∧ a + bytes.toNat ≤ r.stop) (hrun : removeRegion a (a + bytes.toNat) t = .ok t') :
    Ascending t' ∧ cover t' = cover t \ Call.taken bytes (some a) ∧ Set.Ico a (a + bytes.toNat) ⊆ cover t := by
  obtain ⟨t1, hrun1, hasc1, hcover1⟩ := removeRegion_within hasc (Nat.le_add_right _ _) hin
  obtain rfl := Except.ok.inj (hrun.symm.trans hrun1)
  obtain ⟨r, hr, hstart, hstop⟩ := hin
  refine ⟨hasc1, hcover1, fun x hx => mem_cover_of_mem hr ⟨hstart.trans hx.1, hx.2.trans_le hstop⟩⟩

/-- A call keeps the order, and does to the addresses what it says. -/
lemma Call.run_cases {t : List MemoryRegion} {call : Call} (hasc : Ascending t) (hbound : ∀ x ∈ cover t, x + 1 < 2 ^ 64)
    (hallowed : call.Allowed t) :
    (∃ result t', call.run t = .ok (result, t') ∧ Ascending t' ∧ cover t' = call.effect result (cover t) ∧
      ∀ a ∈ result, call.Returns (cover t) a) ∨
      (∃ halt, call.run t = .error halt) ∧ call.Panics t := by
  have hstop := stop_lt_of_cover hasc hbound
  cases call with
  | insertRegion base stop =>
    rcases Nat.lt_or_ge base.toNat stop.toNat with hlt | hge
    · obtain ⟨t', hrun, hasc', hcover⟩ := insertRegion_new hasc hlt hallowed
      refine .inl ⟨none, t', ?_, hasc', hcover, nofun⟩
      rw [run, hrun]
      rfl
    · refine .inr ⟨⟨.assertion, ?_⟩, BitVec.le_def.mpr hge⟩
      rw [run, Tool.insertRegion, decide_eq_false hge.not_gt]
      rfl
  | removeRegion base stop =>
    obtain ⟨hle, hin⟩ := hallowed
    obtain ⟨t', hrun, hasc', hcover⟩ := removeRegion_within hasc (BitVec.le_def.mp hle) hin
    refine .inl ⟨none, t', ?_, hasc', hcover, nofun⟩
    rw [run, hrun]
    rfl
  | allocate bytes pageSize =>
    obtain ⟨hpos, hdvd⟩ := pageSize_dvd pageSize
    rcases allocate_cases hasc hstop hpos hdvd bytes.isLt with ⟨-, hrun⟩ | ⟨a, t', hrun, hmultiple, hin,
      hremove⟩ | hpanic
    · exact .inl ⟨none, t, hrun, hasc, Set.sdiff_empty.symm, nofun⟩
    · obtain ⟨hasc', hcover, hsub⟩ := taken_within hasc hin hremove
      refine .inl ⟨some a, t', hrun, hasc', hcover, fun b hb => ?_⟩
      obtain rfl := Option.some.inj hb
      exact ⟨hmultiple, hsub⟩
    · exact .inr hpanic
  | allocateFrom bytes lowerBound =>
    rcases allocateFrom_cases hasc hstop with hrun | ⟨a, t', hrun, hlower, hin, hremove⟩
    · exact .inl ⟨none, t, hrun, hasc, Set.sdiff_empty.symm, nofun⟩
    · obtain ⟨hasc', hcover, hsub⟩ := taken_within hasc hin hremove
      refine .inl ⟨some a, t', hrun, hasc', hcover, fun b hb => ?_⟩
      obtain rfl := Option.some.inj hb
      exact ⟨hlower, hsub⟩

lemma Call.effect_bound {s : Set Nat} {call : Call} {result : Option Nat} (hbound : ∀ x ∈ s, x + 1 < 2 ^ 64) :
    ∀ x ∈ call.effect result s, x + 1 < 2 ^ 64 := by
  intro x hx
  cases call with
  | insertRegion base stop =>
    rcases hx with hx | hx
    · exact hbound x hx
    · have hlt := hx.2
      omega
  | removeRegion base stop => exact hbound x hx.1
  | allocate bytes pageSize => exact hbound x hx.1
  | allocateFrom bytes lowerBound => exact hbound x hx.1

/-- The regions of a list that calls have built. -/
lemma Reachable.regions {t : List MemoryRegion} {s : Set Nat} (h : Reachable t s) :
    Ascending t ∧ cover t = s ∧ ∀ x ∈ s, x + 1 < 2 ^ 64 := by
  induction h with
  | empty => exact ⟨Ascending.nil, Set.ext fun x => mem_cover_nil, fun x hx => hx.elim⟩
  | @call t t' s call result _ hallowed hrun ih =>
    obtain ⟨hasc, rfl, hbound⟩ := ih
    rcases Call.run_cases hasc hbound hallowed with ⟨result', t1, hrun', hasc', hcover, -⟩ | ⟨⟨halt, hrun'⟩, -⟩
    · rw [hrun] at hrun'
      cases hrun'
      exact ⟨hasc', hcover, Call.effect_bound hbound⟩
    · rw [hrun] at hrun'
      cases hrun'

/-- Whatever the calls are, the regions stay in order, apart and proper, their addresses are what the calls have made
of the empty set, and what the next call returns was in the set. -/
theorem reachable_regions {t : List MemoryRegion} {s : Set Nat} (h : Reachable t s) :
    Ascending t ∧ cover t = s ∧ ∀ call : Call, call.Allowed t →
      (∀ result t', call.run t = .ok (result, t') →
        Ascending t' ∧ cover t' = call.effect result s ∧ ∀ a ∈ result, call.Returns s a) ∧
      ∀ halt, call.run t = .error halt → call.Panics t := by
  obtain ⟨hasc, rfl, hbound⟩ := h.regions
  refine ⟨hasc, rfl, fun call hallowed => ?_⟩
  rcases Call.run_cases hasc hbound hallowed with ⟨result, t', hrun, hspec⟩ | ⟨⟨halt, hrun⟩, hpanics⟩
  · refine ⟨fun result' t1 hrun' => ?_, fun halt hrun' => ?_⟩
    · rw [hrun] at hrun'
      cases hrun'
      exact hspec
    · rw [hrun] at hrun'
      cases hrun'
  · refine ⟨fun result' t1 hrun' => ?_, fun halt' hrun' => hpanics⟩
    rw [hrun] at hrun'
    cases hrun'

/-- A page from a region of four. -/
theorem reachable_regions_page :
    Ascending [⟨0x2000, 0x5000⟩] ∧
      cover [⟨0x2000, 0x5000⟩] = Call.effect (some 0x1000) (.allocate 0x1000 .small)
        (Call.effect none (.insertRegion 0x1000 0x5000) ∅) ∧
      (Call.allocateFrom 0x1000 0x2000).Returns (Call.effect (some 0x1000) (.allocate 0x1000 .small)
        (Call.effect none (.insertRegion 0x1000 0x5000) ∅)) 0x2000 := by
  have hnew : Call.Allowed (.insertRegion 0x1000 0x5000) [] := Set.disjoint_left.mpr fun x _ => mem_cover_nil.mp
  have hinserted := Reachable.empty.call hnew (show _ = Except.ok (none, [⟨0x1000, 0x5000⟩]) from rfl)
  have hrun : Call.run (.allocate 0x1000 .small) [⟨0x1000, 0x5000⟩] = .ok (some 0x1000, [⟨0x2000, 0x5000⟩]) := rfl
  have hallowed : Call.Allowed (.allocate 0x1000 .small) [⟨0x1000, 0x5000⟩] := trivial
  have hallocated := hinserted.call hallowed hrun
  have h := reachable_regions hallocated
  obtain ⟨hasc, hcover, hnext⟩ := h
  exact ⟨hasc, hcover,
    ((hnext (.allocateFrom 0x1000 0x2000) trivial).1 (some 0x2000) [⟨0x3000, 0x5000⟩] rfl).2.2 0x2000 rfl⟩

/-! ## Merging -/

lemma table_append {l u : List MemoryRegion} :
    Table (l ++ u) ↔ Table l ∧ Table u ∧ ∀ a ∈ l, ∀ b ∈ u, a.stop < b.start := by
  constructor
  · intro h
    obtain ⟨hl, hu, hlu⟩ := List.pairwise_append.mp h.apart
    exact ⟨⟨fun r hr => h.proper r (List.mem_append_left _ hr), hl⟩,
      ⟨fun r hr => h.proper r (List.mem_append_right _ hr), hu⟩, hlu⟩
  · rintro ⟨hl, hu, hlu⟩
    refine ⟨fun r hr => ?_, List.pairwise_append.mpr ⟨hl.apart, hu.apart, hlu⟩⟩
    rcases List.mem_append.mp hr with hr | hr
    · exact hl.proper r hr
    · exact hu.proper r hr

/-- Regions in order have gaps between them if none ends where one begins. -/
lemma table_iff {t : List MemoryRegion} (h : Ascending t) : Table t ↔ ∀ a ∈ t, ∀ b ∈ t, a.stop ≠ b.start := by
  constructor
  · intro ht a ha b hb e
    -- the address at which the two touch is in the second and just above the first
    obtain ⟨l, u, rfl⟩ := List.append_of_mem ha
    have hproper := ht.proper b hb
    obtain ⟨hl, hu, hlu⟩ := table_append.mp ht
    have hproper' := hu.proper a List.mem_cons_self
    rcases List.mem_append.mp hb with hb | hb
    · have hlt := hlu b hb a List.mem_cons_self
      omega
    · rcases List.mem_cons.mp hb with rfl | hb
      · omega
      · have hlt := List.rel_of_pairwise_cons hu.apart hb
        omega
  · intro hne
    refine ⟨h.proper, (List.Pairwise.and_mem.mp h.sorted).imp fun {a b} hab => ?_⟩
    exact lt_of_le_of_ne hab.2.2 (hne a hab.1 b hab.2.1)

section merging

variable {base stop : Nat} {l u t t' : List MemoryRegion}

/-- When a new region that has been put between those below it and those above it touches none of them. -/
lemma Placed.table_iff (h : Placed base stop l u t') (ht : Table (l ++ u)) (hlt : base < stop)
    (hl : ∀ r ∈ l, r.stop ≤ base) (hu : ∀ r ∈ u, stop ≤ r.start) :
    Table t' ↔ u = [] ∨ ∀ a ∈ l, a.stop ≠ base := by
  obtain ⟨htl, htu, hlu⟩ := table_append.mp ht
  cases h with
  | @below l u r e =>
    have hr := htu.proper r List.mem_cons_self
    have hgrown : Table ({ r with start := base } :: u) :=
      htu.tail.cons (by dsimp only; omega) fun s hs => List.rel_of_pairwise_cons htu.apart hs
    rw [table_append]
    constructor
    · rintro ⟨-, -, hgap⟩
      exact .inr fun a ha => (hgap a ha _ List.mem_cons_self).ne
    · rintro (hnil | hne)
      · cases hnil
      · refine ⟨htl, hgrown, fun a ha b hb => ?_⟩
        rcases List.mem_cons.mp hb with rfl | hb
        · exact lt_of_le_of_ne (hl a ha) (hne a ha)
        · exact hlu a ha b (List.mem_cons_of_mem _ hb)
  | @above l r e =>
    obtain ⟨htl, htr, hlr⟩ := table_append.mp htl
    have hr := htr.proper r List.mem_cons_self
    refine iff_of_true (table_append.mpr ⟨htl, Table.nil.cons (by dsimp only; omega) nofun, fun a ha b hb =>
      ?_⟩) (.inl rfl)
    obtain rfl := List.mem_singleton.mp hb
    exact hlr a ha r List.mem_cons_self
  | between hfirst hlast =>
    have habove : ∀ r ∈ u, stop < r.start := by
      intro r hr
      cases u with
      | nil => cases hr
      | cons first rest =>
        have hne := hfirst first rest rfl
        have hle := hu first List.mem_cons_self
        rcases List.mem_cons.mp hr with rfl | hr
        · omega
        · have hgap := List.rel_of_pairwise_cons htu.apart hr
          have hproper := htu.proper first List.mem_cons_self
          omega
    rw [table_append]
    constructor
    · rintro ⟨-, -, hgap⟩
      exact .inr fun a ha => (hgap a ha _ List.mem_cons_self).ne
    · intro hside
      have hbelow : ∀ a ∈ l, a.stop < base := by
        intro a ha
        rcases hside with rfl | hne
        · -- only the last region could touch the new one
          obtain ⟨init, last, rfl⟩ := List.eq_nil_or_concat l |>.resolve_left (List.ne_nil_of_mem ha)
          rw [List.concat_eq_append] at *
          have hne := hlast rfl last (by simp)
          have hle := hl last (by simp)
          obtain ⟨-, htlast, hinit⟩ := table_append.mp htl
          rcases List.mem_append.mp ha with ha | ha
          · have hgap := hinit a ha last List.mem_cons_self
            have hproper := htlast.proper last List.mem_cons_self
            omega
          · obtain rfl := List.mem_singleton.mp ha
            omega
        · exact lt_of_le_of_ne (hl a ha) (hne a ha)
      refine ⟨htl, htu.cons hlt habove, fun a ha b hb => ?_⟩
      rcases List.mem_cons.mp hb with rfl | hb
      · exact hbelow a ha
      · exact hlu a ha b hb

/-- A region keeps the others apart unless it begins where one ends and there is one above it. -/
lemma insertRegion_table_iff (ht : Table t) (hrun : insertRegion base stop t = .ok t') :
    Table t' ↔ ((∃ a ∈ t, a.stop = base) → ∀ a ∈ t, a.start < stop) := by
  obtain ⟨hlt, ⟨rfl, rfl⟩ | ⟨l, u, rfl, hl, hu, hplaced⟩⟩ := insertRegion_ran ht.ascending hrun
  · exact iff_of_true (Table.nil.cons hlt nofun) fun _ => nofun
  · rw [hplaced.table_iff ht hlt hl hu]
    constructor
    · rintro (rfl | hne) ⟨a, ha, e⟩ b hb
      · rw [List.append_nil] at hb
        have hle := hl b hb
        have hproper := ht.proper b (List.mem_append_left _ hb)
        omega
      · rcases List.mem_append.mp ha with ha | ha
        · exact absurd e (hne a ha)
        · have hle := hu a ha
          have hproper := ht.proper a (List.mem_append_right _ ha)
          omega
    · intro h
      cases u with
      | nil => exact .inl rfl
      | cons r u =>
        refine .inr fun a ha e => ?_
        have hstart := h ⟨a, List.mem_append_left _ ha, e⟩ r (by simp)
        have hle := hu r List.mem_cons_self
        omega

end merging

/-- An aligned range of some size that begins and lies in a set. -/
def Fits (bytes pageSize : Nat) (s : Set Nat) : Prop :=
  ∃ a ∈ s, pageSize ∣ a ∧ Set.Ico a (a + bytes) ⊆ s

/-- A list in which no region ends where one begins, and from which `allocate` gets what there is. -/
structure Merged (t : List MemoryRegion) : Prop where
  apart : ∀ a ∈ t, ∀ b ∈ t, a.stop ≠ b.start
  complete : ∀ (bytes : BitVec 64) (pageSize : Sdf.PageSize),
    allocate bytes.toNat pageSize.bytes.toNat t = .ok (none, t) →
      ¬ Fits bytes.toNat pageSize.bytes.toNat (cover t)

/-- `insert_region`, from the empty set on. -/
def insertAll (new : List (BitVec 64 × BitVec 64)) : Except Halt (List MemoryRegion) :=
  insertRegions (new.map fun r => ⟨r.1.toNat, r.2.toNat⟩) []

lemma insertAll_append {new : List (BitVec 64 × BitVec 64)} {r : BitVec 64 × BitVec 64} {t' : List MemoryRegion} :
    insertAll (new ++ [r]) = .ok t' ↔ ∃ t, insertAll new = .ok t ∧ insertRegion r.1.toNat r.2.toNat t = .ok t' := by
  unfold insertAll insertRegions
  rw [List.map_append, List.map_singleton, List.foldlM_append]
  simp only [List.foldlM_cons, List.foldlM_nil, bind_pure]
  exact bind_eq_ok

/-- The regions that insertions build, in order and below 2 ^ 64. -/
lemma insertAll_regions {new : List (BitVec 64 × BitVec 64)} {t : List MemoryRegion} (h : insertAll new = .ok t) :
    Ascending t ∧ ∀ x ∈ cover t, x + 1 < 2 ^ 64 := by
  induction new using List.reverseRecOn generalizing t with
  | nil =>
    obtain rfl := Except.ok.inj h
    exact ⟨Ascending.nil, fun x hx => (mem_cover_nil.mp hx).elim⟩
  | append_singleton new r ih =>
    obtain ⟨t0, h0, hrun⟩ := insertAll_append.mp h
    obtain ⟨hasc, hbound⟩ := ih h0
    obtain ⟨-, hasc', hcover⟩ := insertRegion_spec hasc hrun
    refine ⟨hasc', fun x hx => ?_⟩
    rcases (hcover x).mp hx with hx | hx
    · exact hbound x hx
    · have hlt := hx.2
      dsimp only at hlt
      omega

/-- An aligned address in a region is no lower than the aligned start of it. -/
lemma nextMultipleOf_le {n a pageSize : Nat} (hle : n ≤ a) (ha : a < 2 ^ 64) (hmultiple : pageSize ∣ a)
    (hpos : 0 < pageSize) (hdvd : pageSize ∣ 2 ^ 64) : nextMultipleOf n pageSize ≤ a := by
  rcases nextMultipleOf_spec (hle.trans_lt ha) hpos hdvd with ⟨-, hnext, -, hmultiple'⟩ | ⟨hzero, -⟩
  · by_contra hgt
    have hpos' : 0 < nextMultipleOf n pageSize - a := by omega
    have hstep := Nat.le_of_dvd hpos' (Nat.dvd_sub hmultiple' hmultiple)
    omega
  · omega

/-- A range that lies in regions with gaps between them lies in one of them, and is found. -/
lemma merged_of_table {t : List MemoryRegion} (ht : Table t) (hbound : ∀ x ∈ cover t, x + 1 < 2 ^ 64) : Merged t := by
  have hstop := stop_lt_of_cover ht.ascending hbound
  refine ⟨(table_iff ht.ascending).mp ht, fun bytes pageSize hnone => ?_⟩
  rintro ⟨a, ha, hmultiple, hsub⟩
  obtain ⟨hpos, hdvd⟩ := pageSize_dvd pageSize
  obtain ⟨r, hr, hstart, hend⟩ : ∃ r ∈ t, r.start ≤ a ∧ max (a + 1) (a + bytes.toNat) ≤ r.stop := by
    refine ht.exists_of_subset (by omega) fun x hge hlt => ?_
    rcases Nat.lt_or_ge x (a + bytes.toNat) with hlt' | hge'
    · exact hsub ⟨hge, hlt'⟩
    · rwa [show x = a by omega]
  have hr' := hstop r hr
  have hle := nextMultipleOf_le hstart (by omega) hmultiple hpos hdvd
  rcases allocate_cases ht.ascending hstop hpos hdvd bytes.isLt with ⟨hno, -⟩ | ⟨_, _, hrun, -⟩ | ⟨⟨_, hrun⟩, -⟩
  · have hfits := hno r hr
    unfold fits at hfits
    rw [size_eq (ht.proper r hr) hr', add64_eq (by omega)] at hfits
    simp only [Bool.and_eq_false_iff, decide_eq_false_iff_not] at hfits
    omega
  · rw [hnone] at hrun
    cases hrun
  · rw [hnone] at hrun
    cases hrun

/-- The regions that insertions build are merged, at every point of a run, exactly if no region is put between one that
ends where it begins and another one. -/
theorem merged_iff (new : List (BitVec 64 × BitVec 64)) :
    (∀ inserted t, inserted <+: new → insertAll inserted = .ok t → Merged t) ↔
      ∀ inserted r t t', inserted ++ [r] <+: new → insertAll inserted = .ok t → insertAll (inserted ++ [r]) = .ok t' →
        (∃ a ∈ t, a.stop = r.1.toNat) → ∀ a ∈ t, a.start < r.2.toNat := by
  constructor
  · intro h inserted r t t' hprefix hrun hrun'
    have hmerged := h inserted t ((List.prefix_append inserted [r]).trans hprefix) hrun
    have hmerged' := h _ t' hprefix hrun'
    have ht := (table_iff (insertAll_regions hrun).1).mpr hmerged.apart
    have ht' := (table_iff (insertAll_regions hrun').1).mpr hmerged'.apart
    obtain ⟨t0, hrun0, hinsert⟩ := insertAll_append.mp hrun'
    obtain rfl := Except.ok.inj (hrun0.symm.trans hrun)
    exact (insertRegion_table_iff ht hinsert).mp ht'
  · intro h inserted t hprefix hrun
    have ht : Table t := by
      induction inserted using List.reverseRecOn generalizing t with
      | nil =>
        obtain rfl := Except.ok.inj hrun
        exact Table.nil
      | append_singleton inserted r ih =>
        obtain ⟨t0, hrun0, hinsert⟩ := insertAll_append.mp hrun
        have ht0 := ih t0 ((List.prefix_append inserted [r]).trans hprefix) hrun0
        exact (insertRegion_table_iff ht0 hinsert).mpr (h inserted r t0 t hprefix hrun0 hrun)
    exact merged_of_table ht (insertAll_regions hrun).2

/-- A page that is put between two others, right above the lower one, is not merged with it, and no two pages are found
where they lie. -/
theorem pages_not_merged :
    ∃ t, insertAll [(0, 0x1000), (0x3000, 0x4000), (0x1000, 0x2000)] = .ok t ∧
      t = [⟨0, 0x1000⟩, ⟨0x1000, 0x2000⟩, ⟨0x3000, 0x4000⟩] ∧ allocate 0x2000 0x1000 t = .ok (none, t) ∧
      Fits 0x2000 0x1000 (cover t) := by
  refine ⟨[⟨0, 0x1000⟩, ⟨0x1000, 0x2000⟩, ⟨0x3000, 0x4000⟩], rfl, rfl, rfl, 0, ?_, dvd_zero _, fun x hx => ?_⟩
  · simp
  · have hlt := hx.2
    simp only [mem_cover_cons, Region.mem_iff]
    omega

end NexsKernel.Tool
