import Mathlib.Order.CompletePartialOrder
import NexsKernel.Machine.Word
import NexsKernel.Api.Failures
import NexsKernel.Lib.Regions

/-!
# Memory regions of the tool

`MemoryRegion` and `DisjointMemoryRegion` (`tool/microkit/src/lib.rs`). The base of a memory region is the start of a
`Region`, its end the stop. A region is inserted into a set next to the regions that it touches, and merged with one
of them; a region is removed from the one region that contains it. A panic of the tool is a failed assertion.

`insertRegion_spec` and `removeRegion_spec` say what becomes of the addresses.
-/

namespace NexsKernel

abbrev MemoryRegion := Region

namespace Tool

/-- `MemoryRegion::size`. -/
def size (r : MemoryRegion) : Nat :=
  sub64 r.stop r.start

/-- The loop of `check`. -/
def checkFrom (lastEnd : Nat) : List MemoryRegion → Except Halt Unit
  | [] => .ok ()
  | r :: rest => do
    assert (lastEnd ≤ r.start)
    checkFrom r.stop rest

/-- `DisjointMemoryRegion::check`. -/
def check (regions : List MemoryRegion) : Except Halt Unit :=
  checkFrom 0 regions

/-- How `insert_region` puts a region at an index, or merges it with the one that is there. -/
def insertAt (base stop insertIdx : Nat) (regions : List MemoryRegion) : List MemoryRegion :=
  if insertIdx = 0 ∧ regions[0]?.any fun first => first.start == stop then
    regions.modify 0 fun first => { first with start := base }
  else if insertIdx = regions.length ∧ regions[regions.length - 1]?.any fun last => last.stop == base then
    regions.modify (regions.length - 1) fun last => { last with stop := stop }
  else if insertIdx < regions.length ∧ regions[insertIdx]?.any fun r => stop == r.start then
    regions.modify insertIdx fun r => { r with start := base }
  else if insertIdx < regions.length ∧ regions[insertIdx]?.any fun r => base == r.stop then
    regions.modify insertIdx fun r => { r with stop := stop }
  else regions.insertIdx insertIdx ⟨base, stop⟩

/-- `DisjointMemoryRegion::insert_region`. -/
def insertRegion (base stop : Nat) (regions : List MemoryRegion) : Except Halt (List MemoryRegion) := do
  assert (base < stop)
  if regions.isEmpty then
    return [⟨base, stop⟩]
  else
    let regions := insertAt base stop (regions.findIdx fun region => stop ≤ region.start) regions
    check regions
    return regions

/-- How `remove_region` takes a region out of the one at an index. -/
def removeAt (base stop idx : Nat) (region : MemoryRegion) (regions : List MemoryRegion) : List MemoryRegion :=
  if region.start = base ∧ region.stop = stop then regions.eraseIdx idx
  else if region.start = base then regions.set idx ⟨stop, region.stop⟩
  else if region.stop = stop then regions.set idx ⟨region.start, base⟩
  else (regions.set idx ⟨region.start, base⟩).insertIdx (idx + 1) ⟨stop, region.stop⟩

/-- `DisjointMemoryRegion::remove_region`. -/
def removeRegion (base stop : Nat) (regions : List MemoryRegion) : Except Halt (List MemoryRegion) :=
  let idx := regions.findIdx fun region => region.start ≤ base && stop ≤ region.stop
  match regions[idx]? with
  | none => .error .assertion
  | some region => do
    let regions := removeAt base stop idx region regions
    check regions
    return regions

/-- The insertion of a list of regions, one after the other. -/
def insertRegions (new regions : List MemoryRegion) : Except Halt (List MemoryRegion) :=
  new.foldlM (fun regions r => insertRegion r.start r.stop regions) regions

/-- `next_multiple_of`. -/
def nextMultipleOf (n m : Nat) : Nat :=
  if n % m = 0 then n else add64 n (m - n % m)

/-- `DisjointMemoryRegion::allocate`. -/
def allocate (bytes pageSize : Nat) (regions : List MemoryRegion) : Except Halt (Option Nat × List MemoryRegion) :=
  match regions.find? fun region =>
    bytes ≤ size region && add64 (nextMultipleOf region.start pageSize) bytes ≤ region.stop with
  | none => .ok (none, regions)
  | some region => do
    let base := nextMultipleOf region.start pageSize
    let regions ← removeRegion base (add64 base bytes) regions
    return (some base, regions)

/-- `DisjointMemoryRegion::allocate_from`. -/
def allocateFrom (bytes lowerBound : Nat) (regions : List MemoryRegion) :
    Except Halt (Option Nat × List MemoryRegion) :=
  match regions.find? fun region => bytes ≤ size region && lowerBound ≤ region.start with
  | none => .ok (none, regions)
  | some region => do
    let regions ← removeRegion region.start (add64 region.start bytes) regions
    return (some region.start, regions)

lemma checkFrom_spec {lastEnd : Nat} {t : List MemoryRegion} {u : Unit} (hp : ∀ r ∈ t, r.start < r.stop)
    (h : checkFrom lastEnd t = .ok u) : Ascending t ∧ ∀ r ∈ t, lastEnd ≤ r.start := by
  induction t generalizing lastEnd with
  | nil => exact ⟨Ascending.nil, nofun⟩
  | cons r t ih =>
    obtain ⟨_, hle, h⟩ := bind_eq_ok.mp h
    have hle : lastEnd ≤ r.start := of_decide_eq_true (assert_eq_ok.mp hle)
    have hr := hp r (.head _)
    obtain ⟨asc, above⟩ := ih (fun s hs => hp s (.tail _ hs)) h
    refine ⟨asc.cons hr above, fun s hs => ?_⟩
    rcases List.mem_cons.mp hs with rfl | hs
    · exact hle
    · have := above s hs
      omega

lemma checkFrom_ok {lastEnd : Nat} {t : List MemoryRegion} (h : Ascending t) (hle : ∀ r ∈ t, lastEnd ≤ r.start) :
    checkFrom lastEnd t = .ok () := by
  induction t generalizing lastEnd with
  | nil => rfl
  | cons r t ih =>
    rw [checkFrom, assert_ok (decide_eq_true (hle r (.head _)))]
    exact ih h.tail fun s hs => List.rel_of_pairwise_cons h.sorted hs

/-- The check passes for regions that lie one after the other. -/
lemma check_ok {t : List MemoryRegion} (h : Ascending t) : check t = .ok () :=
  checkFrom_ok h fun _ _ => Nat.zero_le _

/-- What is left of a region on both sides of the one that is taken out of it. -/
def leftovers (r : MemoryRegion) (base stop : Nat) : List MemoryRegion :=
  properRegions [⟨r.start, base⟩, ⟨stop, r.stop⟩]

lemma mem_cover_leftovers {r : MemoryRegion} {base stop x : Nat} (hr : r.start ≤ base) (hle : base ≤ stop)
    (hs : stop ≤ r.stop) : x ∈ cover (leftovers r base stop) ↔ x ∈ r ∧ x ∉ (⟨base, stop⟩ : Region) := by
  rw [leftovers, mem_cover_properRegions]
  simp only [mem_cover_cons, mem_cover_nil, Region.mem_iff, or_false]
  omega

/-- The pieces that are left lie in the place of the region. -/
lemma leftovers_ascending {l u : List MemoryRegion} {r : MemoryRegion} {base stop : Nat} (h : Ascending (l ++ r :: u))
    (hr : r.start ≤ base) (hle : base ≤ stop) (hs : stop ≤ r.stop) : Ascending (l ++ leftovers r base stop ++ u) := by
  have hleft : ∀ s ∈ leftovers r base stop, r.start ≤ s.start ∧ s.stop ≤ r.stop ∧ s.start < s.stop := by
    intro s hmem
    obtain ⟨hmem, hlt⟩ := mem_properRegions.mp hmem
    simp only [List.mem_cons, List.not_mem_nil, or_false] at hmem
    rcases hmem with rfl | rfl
    · exact ⟨le_rfl, hle.trans hs, hlt⟩
    · exact ⟨hr.trans hle, le_rfl, hlt⟩
  have hsort := h.sorted
  rw [List.pairwise_append, List.pairwise_cons] at hsort
  obtain ⟨hl, ⟨hru, hu⟩, hlr⟩ := hsort
  constructor
  · intro s hmem
    simp only [List.mem_append] at hmem
    rcases hmem with (hmem | hmem) | hmem
    · exact h.proper s (List.mem_append_left _ hmem)
    · exact (hleft s hmem).2.2
    · exact h.proper s (List.mem_append_right _ (.tail _ hmem))
  · rw [List.append_assoc, List.pairwise_append, List.pairwise_append]
    have hin : InOrder [⟨r.start, base⟩, ⟨stop, r.stop⟩] := ⟨by simp [hr, hs], by simp [hle]⟩
    refine ⟨hl, ⟨hin.properRegions.sorted, hu, fun s hs t ht => (hleft s hs).2.1.trans (hru t ht)⟩, ?_⟩
    intro s hs t ht
    rcases List.mem_append.mp ht with ht | ht
    · exact (hlr s hs r (.head _)).trans (hleft t ht).1
    · exact hlr s hs t (.tail _ ht)

/-- The addresses that are left when one region of the list loses some. -/
lemma mem_cover_removed {l u : List MemoryRegion} {r : MemoryRegion} {base stop x : Nat} (h : Ascending (l ++ r :: u))
    (hr : r.start ≤ base) (hle : base ≤ stop) (hs : stop ≤ r.stop) :
    x ∈ cover (l ++ leftovers r base stop ++ u) ↔ x ∈ cover (l ++ r :: u) ∧ x ∉ (⟨base, stop⟩ : Region) := by
  have hsort := h.sorted
  rw [List.pairwise_append] at hsort
  have hbelow : x ∈ cover l → x < r.start := by
    rintro ⟨s, hmem, -, hlt⟩
    exact hlt.trans_le (hsort.2.2 s hmem r (.head _))
  have habove : x ∈ cover u → r.stop ≤ x := by
    rintro ⟨s, hmem, hle, -⟩
    exact (List.rel_of_pairwise_cons hsort.2.1 hmem).trans hle
  simp only [mem_cover_append, mem_cover_cons, mem_cover_leftovers hr hle hs, Region.mem_iff] at *
  grind

/-- Regions with gaps between them have gaps between them when one of them loses some addresses. -/
lemma leftovers_table {l u : List MemoryRegion} {r : MemoryRegion} {base stop : Nat} (h : Table (l ++ r :: u))
    (hr : r.start ≤ base) (hlt : base < stop) (hs : stop ≤ r.stop) : Table (l ++ leftovers r base stop ++ u) := by
  have asc := leftovers_ascending h.ascending hr hlt.le hs
  have hleft : ∀ s ∈ leftovers r base stop, r.start ≤ s.start ∧ s.stop ≤ r.stop := by
    intro s hmem
    have hmem := (mem_properRegions.mp hmem).1
    simp only [List.mem_cons, List.not_mem_nil, or_false] at hmem
    rcases hmem with rfl | rfl
    · exact ⟨le_rfl, hlt.le.trans hs⟩
    · exact ⟨hr.trans hlt.le, le_rfl⟩
  have hgap : (leftovers r base stop).Pairwise fun a b => a.stop < b.start := by
    apply List.Pairwise.filter
    exact .cons (by simpa using hlt) (List.pairwise_singleton _ _)
  have hsort := h.apart
  rw [List.pairwise_append, List.pairwise_cons] at hsort
  obtain ⟨hl, ⟨hru, hu⟩, hlr⟩ := hsort
  refine ⟨asc.proper, ?_⟩
  rw [List.append_assoc, List.pairwise_append, List.pairwise_append]
  refine ⟨hl, ⟨hgap, hu, fun s hs t ht => (hleft s hs).2.trans_lt (hru t ht)⟩, fun s hs t ht => ?_⟩
  rcases List.mem_append.mp ht with ht | ht
  · exact (hlr s hs r (.head _)).trans_le (hleft t ht).1
  · exact hlr s hs t (.tail _ ht)

/-- The ends of the regions that are left are ends of the old ones, or ends of the region that is removed. -/
lemma ends_removed {p : Nat → Prop} {l u : List MemoryRegion} {r : MemoryRegion} {base stop : Nat}
    (h : ∀ s ∈ l ++ r :: u, p s.start ∧ p s.stop) (hb : p base) (hs : p stop) :
    ∀ s ∈ l ++ leftovers r base stop ++ u, p s.start ∧ p s.stop := by
  intro s hmem
  have hr := h r (by simp)
  simp only [List.mem_append] at hmem
  rcases hmem with (hmem | hmem) | hmem
  · exact h s (List.mem_append_left _ hmem)
  · have hmem := (mem_properRegions.mp hmem).1
    simp only [List.mem_cons, List.not_mem_nil, or_false] at hmem
    rcases hmem with rfl | rfl
    · exact ⟨hr.1, hb⟩
    · exact ⟨hs, hr.2⟩
  · exact h s (List.mem_append_right _ (.tail _ hmem))

lemma insertIdx_length {α : Type} (l u : List α) (a : α) : (l ++ u).insertIdx l.length a = l ++ a :: u := by
  induction l with
  | nil => simp
  | cons b l ih => simpa using ih

lemma modify_length {α : Type} (l u : List α) (a : α) (f : α → α) :
    (l ++ a :: u).modify l.length f = l ++ f a :: u := by
  induction l with
  | nil => rfl
  | cons b l ih => simpa using ih

/-- The cases of `remove_region` at once. -/
lemma removeAt_eq {l u : List MemoryRegion} {r : MemoryRegion} {base stop : Nat} (hr : r.start ≤ base)
    (hs : stop ≤ r.stop) :
    removeAt base stop l.length r (l ++ r :: u) = l ++ leftovers r base stop ++ u := by
  have split : ∀ a : MemoryRegion, (l ++ a :: u).insertIdx (l.length + 1) ⟨stop, r.stop⟩ =
    l ++ [a, ⟨stop, r.stop⟩] ++ u := by
    intro a
    simpa using insertIdx_length (l ++ [a]) u ⟨stop, r.stop⟩
  unfold removeAt leftovers
  split
  · rename_i h
    rw [properRegions_cons_of_not_lt (by dsimp only; omega), properRegions_cons_of_not_lt (by dsimp only; omega),
      List.eraseIdx_append_of_length_le le_rfl]
    simp
  split
  · rename_i h1 h2
    rw [properRegions_cons_of_not_lt (by dsimp only; omega), properRegions_cons_of_lt (by dsimp only; omega)]
    simp
  split
  · rename_i h1 h2 h3
    rw [properRegions_cons_of_lt (by dsimp only; omega), properRegions_cons_of_not_lt (by dsimp only; omega)]
    simp
  · rename_i h1 h2 h3
    rw [properRegions_cons_of_lt (by dsimp only; omega), properRegions_cons_of_lt (by dsimp only; omega),
      List.set_append_right _ _ le_rfl, Nat.sub_self, List.set_cons_zero, split]
    rfl

/-- What a call of `remove_region` that returns has done. -/
lemma removeRegion_spec {base stop : Nat} {t t' : List MemoryRegion} (hrun : removeRegion base stop t = .ok t') :
    ∃ l r u, t = l ++ r :: u ∧ r.start ≤ base ∧ stop ≤ r.stop ∧ t' = l ++ leftovers r base stop ++ u := by
  unfold removeRegion at hrun
  extract_lets idx at hrun
  split at hrun
  · cases hrun
  · rename_i r hget
    obtain ⟨_, _, hrun⟩ := bind_eq_ok.mp hrun
    obtain rfl := Except.ok.inj hrun
    obtain ⟨hlt, rfl⟩ := List.getElem?_eq_some_iff.mp hget
    have hp := List.findIdx_getElem (w := hlt)
    simp only [Bool.and_eq_true, decide_eq_true_eq] at hp
    refine ⟨t.take idx, t[idx], t.drop (idx + 1), ?_, hp.1, hp.2, ?_⟩
    · rw [List.cons_getElem_drop_succ, List.take_append_drop]
    · have hlen : (t.take idx).length = idx := List.length_take_of_le hlt.le
      have e := removeAt_eq (l := t.take idx) (u := t.drop (idx + 1)) hp.1 hp.2
      rw [hlen, List.cons_getElem_drop_succ, List.take_append_drop] at e
      exact e

/-- A region that lies in one of the regions can be removed. -/
lemma removeRegion_ok {base stop : Nat} {l u : List MemoryRegion} {r : MemoryRegion} (h : Ascending (l ++ r :: u))
    (hr : r.start ≤ base) (hlt : base < stop) (hs : stop ≤ r.stop) :
    removeRegion base stop (l ++ r :: u) = .ok (l ++ leftovers r base stop ++ u) := by
  have hsort := h.sorted
  rw [List.pairwise_append] at hsort
  have hidx : (l ++ r :: u).findIdx (fun region => region.start ≤ base && stop ≤ region.stop) = l.length := by
    have hno : ∀ s ∈ l, (decide (s.start ≤ base) && decide (stop ≤ s.stop)) = false := by
      intro s hmem
      have := hsort.2.2 s hmem r (.head _)
      simp only [Bool.and_eq_false_iff, decide_eq_false_iff_not]
      omega
    have hyes : (decide (r.start ≤ base) && decide (stop ≤ r.stop)) = true := by simp [hr, hs]
    rw [List.findIdx_append, if_neg, List.findIdx_cons, hyes]
    · simp
    · rw [List.findIdx_lt_length]
      rintro ⟨s, hmem, h⟩
      rw [hno s hmem] at h
      cases h
  unfold removeRegion
  extract_lets idx
  have hget : (l ++ r :: u)[idx]? = some r := by
    rw [show idx = l.length from hidx]
    simp
  rw [hget]
  dsimp only
  rw [show idx = l.length from hidx, removeAt_eq hr hs,
    check_ok (leftovers_ascending h hr hlt.le hs)]
  rfl

/-- What becomes of a table when addresses of it are removed. -/
structure Removed (p : Nat → Prop) (base stop : Nat) (t t' : List MemoryRegion) : Prop where
  table : Table t'
  cover : ∀ x, x ∈ cover t' ↔ x ∈ cover t ∧ x ∉ (⟨base, stop⟩ : Region)
  ends : (∀ s ∈ t, p s.start ∧ p s.stop) → p base → p stop → ∀ s ∈ t', p s.start ∧ p s.stop

lemma removeRegion_table (p : Nat → Prop) {base stop : Nat} {t : List MemoryRegion} (h : Table t) (hlt : base < stop)
    (hsub : ∀ x, base ≤ x → x < stop → x ∈ cover t) :
    ∃ t', removeRegion base stop t = .ok t' ∧ Removed p base stop t t' := by
  obtain ⟨r, hmem, hr, hs⟩ := h.exists_of_subset hlt hsub
  obtain ⟨l, u, rfl⟩ := List.append_of_mem hmem
  exact ⟨_, removeRegion_ok h.ascending hr hlt hs, leftovers_table h hr hlt hs,
    fun x => mem_cover_removed h.ascending hr hlt.le hs, fun hends hb hstop => ends_removed hends hb hstop⟩

/-- What `insert_region` does where the regions of `l` start below the end of the new region, and those of `u` do not. -/
inductive Placed (base stop : Nat) : List MemoryRegion → List MemoryRegion → List MemoryRegion → Prop where
  | below {l u r} :
    r.start = stop →
    Placed base stop l (r :: u) (l ++ { r with start := base } :: u)
  | above {l r} :
    r.stop = base →
    Placed base stop (l ++ [r]) [] (l ++ [{ r with stop := stop }])
  | between {l u} :
    (∀ r u', u = r :: u' → r.start ≠ stop) →
    (u = [] → ∀ r ∈ l.getLast?, r.stop ≠ base) →
    Placed base stop l u (l ++ ⟨base, stop⟩ :: u)

/-- Where a search has stopped. -/
lemma findIdx_split {α : Type} (p : α → Bool) (t : List α) :
    ∃ l u, t = l ++ u ∧ t.findIdx p = l.length ∧ (∀ r ∈ l, p r = false) ∧ ∀ r u', u = r :: u' → p r = true := by
  refine ⟨t.take (t.findIdx p), t.drop (t.findIdx p), (List.take_append_drop _ _).symm, ?_, fun r hr => ?_,
    fun r u' e => ?_⟩
  · exact (List.length_take_of_le List.findIdx_le_length).symm
  · obtain ⟨i, hi, rfl⟩ := List.mem_take_iff_getElem.mp hr
    exact List.not_of_lt_findIdx (lt_of_lt_of_le hi (Nat.min_le_left _ _))
  · have hlt : t.findIdx p < t.length := by
      by_contra h
      rw [List.drop_eq_nil_of_le (Nat.le_of_not_lt h)] at e
      cases e
    rw [List.drop_eq_getElem_cons hlt] at e
    obtain ⟨rfl, -⟩ := List.cons.inj e
    exact List.findIdx_getElem (w := hlt)

/-- The place of a region among those sorted by address. -/
lemma insertAt_placed {base stop : Nat} {t : List MemoryRegion} (hproper : ∀ r ∈ t, r.start < r.stop)
    (hlt : base < stop) (hne : t ≠ []) :
    ∃ l u, t = l ++ u ∧ (∀ r ∈ l, r.start < stop) ∧ (∀ r u', u = r :: u' → stop ≤ r.start) ∧
      Placed base stop l u (insertAt base stop (t.findIdx fun region => stop ≤ region.start) t) := by
  obtain ⟨l, u, rfl, hidx, hbefore, hhead⟩ := findIdx_split (fun region => stop ≤ region.start) t
  refine ⟨l, u, rfl, fun r hr => Nat.lt_of_not_le (of_decide_eq_false (hbefore r hr)),
    fun r u' e => of_decide_eq_true (hhead r u' e), ?_⟩
  rw [hidx]
  cases u with
  | nil =>
    -- the new region lies above all the others
    obtain ⟨l, r, rfl⟩ := List.eq_nil_or_concat l |>.resolve_left (by simpa using hne)
    unfold insertAt
    rw [if_neg (by simp)]
    split
    · rename_i h
      have hr : r.stop = base := by simpa using h.2
      have e : (l ++ [r]).modify ((l ++ [r]).length - 1) (fun last => { last with stop := stop }) =
          l ++ [{ r with stop := stop }] := by
        rw [List.length_append, List.length_singleton, Nat.add_sub_cancel]
        exact modify_length l [] r _
      rw [List.concat_eq_append, List.append_nil, e]
      exact .above hr
    · rename_i h
      rw [if_neg (by simp), if_neg (by simp), insertIdx_length]
      refine .between nofun fun _ r' hr' e => h ⟨by simp, ?_⟩
      rw [List.concat_eq_append, List.getLast?_concat] at hr'
      cases hr'
      simpa using e
  | cons r u =>
    have hr : stop ≤ r.start := of_decide_eq_true (hhead r u rfl)
    have hproper := hproper r (by simp)
    have hget : (l ++ r :: u)[l.length]? = some r := by simp
    unfold insertAt
    split
    · rename_i h
      obtain rfl := List.length_eq_zero_iff.mp h.1
      exact .below (l := []) (by simpa using h.2)
    rw [if_neg (by simp)]
    split
    · rename_i h
      rw [hget] at h
      rw [modify_length]
      exact .below (eq_of_beq h.2).symm
    split
    · -- a region below `r` does not start where `r` ends
      rename_i h
      rw [hget] at h
      have : base = r.stop := eq_of_beq h.2
      omega
    · rename_i h _
      rw [insertIdx_length]
      refine .between (fun r' u' e e' => h ⟨by simp, ?_⟩) nofun
      obtain ⟨rfl, -⟩ := List.cons.inj e
      rw [hget]
      exact beq_iff_eq.mpr e'.symm

/-- The same, wherever the region has been put. -/
inductive Inserted (base stop : Nat) : List MemoryRegion → List MemoryRegion → Prop where
  | below {l u r} :
    r.start = stop →
    Inserted base stop (l ++ r :: u) (l ++ { r with start := base } :: u)
  | above {l r} :
    r.stop = base →
    Inserted base stop (l ++ [r]) (l ++ [{ r with stop := stop }])
  | between {l u} :
    Inserted base stop (l ++ u) (l ++ ⟨base, stop⟩ :: u)

lemma Placed.inserted {base stop : Nat} {l u t : List MemoryRegion} (h : Placed base stop l u t) :
    Inserted base stop (l ++ u) t := by
  cases h with
  | below e => exact .below e
  | above e =>
    rw [List.append_nil]
    exact .above e
  | between _ _ => exact .between

lemma insertAt_cases {base stop : Nat} {t : List MemoryRegion} (hproper : ∀ r ∈ t, r.start < r.stop)
    (hlt : base < stop) (hne : t ≠ []) :
    Inserted base stop t (insertAt base stop (t.findIdx fun region => stop ≤ region.start) t) := by
  obtain ⟨l, u, e, -, -, hplaced⟩ := insertAt_placed hproper hlt hne
  have hinserted := hplaced.inserted
  rwa [← e] at hinserted

lemma Inserted.proper {base stop : Nat} {t t' : List MemoryRegion} (h : Inserted base stop t t') (hlt : base < stop)
    (hp : ∀ r ∈ t, r.start < r.stop) : ∀ r ∈ t', r.start < r.stop := by
  cases h with
  | @below l u r he =>
    intro s hs
    rcases List.mem_append.mp hs with hs | hs
    · exact hp s (List.mem_append_left _ hs)
    rcases List.mem_cons.mp hs with rfl | hs
    · have := hp r (by simp)
      dsimp only
      omega
    · exact hp s (by simp [hs])
  | @above l r he =>
    intro s hs
    rcases List.mem_append.mp hs with hs | hs
    · exact hp s (List.mem_append_left _ hs)
    · obtain rfl := List.mem_singleton.mp hs
      have := hp r (by simp)
      dsimp only
      omega
  | @between l u =>
    intro s hs
    simp only [List.mem_append, List.mem_cons] at hs
    rcases hs with hs | rfl | hs
    · exact hp s (List.mem_append_left _ hs)
    · exact hlt
    · exact hp s (List.mem_append_right _ hs)

lemma Inserted.cover {base stop : Nat} {t t' : List MemoryRegion} (h : Inserted base stop t t') (hlt : base < stop)
    (hp : ∀ r ∈ t, r.start < r.stop) {x : Nat} :
    x ∈ cover t' ↔ x ∈ cover t ∨ x ∈ (⟨base, stop⟩ : Region) := by
  cases h with
  | @below l u r he =>
    have := hp r (by simp)
    simp only [mem_cover_append, mem_cover_cons, Region.mem_iff]
    grind
  | @above l r he =>
    have := hp r (by simp)
    simp only [mem_cover_append, mem_cover_cons, mem_cover_nil, Region.mem_iff]
    grind
  | @between l u =>
    simp only [mem_cover_append, mem_cover_cons]
    tauto

/-- A call of `insert_region` that returns adds the addresses of the region. -/
lemma insertRegion_spec {base stop : Nat} {t t' : List MemoryRegion} (h : Ascending t)
    (hrun : insertRegion base stop t = .ok t') :
    base < stop ∧ Ascending t' ∧ ∀ x, x ∈ cover t' ↔ x ∈ cover t ∨ x ∈ (⟨base, stop⟩ : Region) := by
  unfold insertRegion at hrun
  obtain ⟨_, hlt, hrun⟩ := bind_eq_ok.mp hrun
  have hlt : base < stop := of_decide_eq_true (assert_eq_ok.mp hlt)
  refine ⟨hlt, ?_⟩
  split at hrun
  · rename_i hnil
    obtain rfl := Except.ok.inj hrun
    obtain rfl := List.isEmpty_iff.mp hnil
    exact ⟨Ascending.nil.cons hlt nofun, fun x => by simp⟩
  · rename_i hne
    obtain ⟨_, hcheck, hrun⟩ := bind_eq_ok.mp hrun
    obtain rfl := Except.ok.inj hrun
    have c := insertAt_cases h.proper hlt (by simpa using hne)
    exact ⟨(checkFrom_spec (c.proper hlt h.proper) hcheck).1, fun x => c.cover hlt h.proper⟩

/-- A region above all the others, and away from them, becomes the last one. -/
lemma insertRegion_last {base stop : Nat} {t : List MemoryRegion} (h : Ascending t) (hlt : base < stop)
    (habove : ∀ r ∈ t, r.stop < base) : insertRegion base stop t = .ok (t ++ [⟨base, stop⟩]) := by
  unfold insertRegion
  rw [assert_ok (decide_eq_true hlt)]
  change (if t.isEmpty then _ else _) = _
  split
  · rename_i hnil
    rw [List.isEmpty_iff.mp hnil]
    rfl
  · rename_i hne
    have hidx : t.findIdx (fun region => stop ≤ region.start) = t.length := by
      apply List.findIdx_eq_length_of_false
      intro r hr
      have := habove r hr
      have := h.proper r hr
      exact decide_eq_false (by omega)
    have hlast : ¬ (t[t.length - 1]?.any fun last => last.stop == base) = true := by
      intro hany
      cases hr : t[t.length - 1]? with
      | none =>
        rw [hr] at hany
        cases hany
      | some r =>
        rw [hr] at hany
        have := habove r (List.mem_of_getElem? hr)
        have := eq_of_beq hany
        omega
    have e : insertAt base stop t.length t = t ++ [⟨base, stop⟩] := by
      unfold insertAt
      rw [if_neg fun h => hne (by rw [List.isEmpty_iff, ← List.length_eq_zero_iff]; exact h.1),
        if_neg fun h => hlast h.2, if_neg fun h => absurd h.1 (lt_irrefl _), if_neg fun h => absurd h.1 (lt_irrefl _)]
      simp
    have asc : Ascending (t ++ [⟨base, stop⟩]) := by
      refine ⟨fun r hr => ?_, ?_⟩
      · rcases List.mem_append.mp hr with hr | hr
        · exact h.proper r hr
        · obtain rfl := List.mem_singleton.mp hr
          exact hlt
      · rw [List.pairwise_append]
        refine ⟨h.sorted, List.pairwise_singleton _ _, fun r hr s hs => ?_⟩
        obtain rfl := List.mem_singleton.mp hs
        exact (habove r hr).le
    rw [hidx, e, check_ok asc]
    rfl

lemma insertRegions_append {done new : List MemoryRegion} (h : Table (done ++ new)) :
    insertRegions new done = .ok (done ++ new) := by
  induction new generalizing done with
  | nil => rw [List.append_nil]; rfl
  | cons r new ih =>
    have h' : Table ((done ++ [r]) ++ new) := by simpa using h
    have hsort := h.apart
    rw [List.pairwise_append] at hsort
    have asc : Ascending done := ⟨fun s hs => h.proper s (List.mem_append_left _ hs), hsort.1.imp fun hlt =>
      le_of_lt hlt⟩
    unfold insertRegions
    rw [List.foldlM_cons, insertRegion_last asc (h.proper r (by simp)) fun s hs => hsort.2.2 s hs r (.head _)]
    have e := ih h'
    rw [List.append_assoc] at e
    exact e

/-- Regions in order with gaps between them are inserted as they are. -/
lemma insertRegions_table {t : List MemoryRegion} (h : Table t) : insertRegions t [] = .ok t :=
  insertRegions_append (show Table ([] ++ t) from h)

end Tool

end NexsKernel
