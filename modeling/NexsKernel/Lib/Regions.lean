import Mathlib.Tactic
import Mathlib.Data.Set.Card

/-!
# Regions

Half-open ranges of addresses, and lists of them. `cover` is the set of addresses of a list. In an `Ascending` list
the regions lie one after the other; in a `Table` they do not even touch, and every region of it is a
block of addresses of its own. `blockStarts` are the addresses at which the blocks of a set start, as many as a table
of the set has regions (`Table.ncard_blockStarts`); a region that does not touch the set adds one
(`ncard_blockStarts_fresh`).
-/

namespace NexsKernel

/-- The addresses from `start` up to, and without, `stop`. -/
@[ext]
structure Region where
  start : Nat
  stop : Nat
  deriving DecidableEq, Repr

namespace Region

instance : Membership Nat Region := ⟨fun r x => r.start ≤ x ∧ x < r.stop⟩

@[simp] lemma mem_iff {r : Region} {x : Nat} : x ∈ r ↔ r.start ≤ x ∧ x < r.stop := Iff.rfl

instance (r : Region) (x : Nat) : Decidable (x ∈ r) := inferInstanceAs (Decidable (_ ∧ _))

/-- No address is in both. -/
def Disjoint (a b : Region) : Prop :=
  ∀ x ∈ a, x ∉ b

/-- One of the two ends where the other one starts. -/
def Touches (a b : Region) : Prop :=
  a.stop = b.start ∨ b.stop = a.start

lemma Disjoint.symm {a b : Region} (h : a.Disjoint b) : b.Disjoint a := fun x hb ha => h x ha hb

/-- Disjoint regions lie on two sides of each other. -/
lemma Disjoint.apart {a b : Region} (h : a.Disjoint b) (ha : a.start < a.stop) (hb : b.start < b.stop) :
    a.stop ≤ b.start ∨ b.stop ≤ a.start := by
  have h1 := h (max a.start b.start)
  simp only [mem_iff] at h1
  omega

end Region

/-- The addresses in the regions of a list. -/
def cover (t : List Region) : Set Nat :=
  {x | ∃ r ∈ t, x ∈ r}

@[simp] lemma mem_cover_nil {x : Nat} : x ∈ cover [] ↔ False := by
  simp [cover]

@[simp] lemma mem_cover_cons {r t} {x : Nat} : x ∈ cover (r :: t) ↔ x ∈ r ∨ x ∈ cover t := by
  simp [cover]

@[simp] lemma mem_cover_append {t u} {x : Nat} : x ∈ cover (t ++ u) ↔ x ∈ cover t ∨ x ∈ cover u := by
  simp [cover, or_and_right, exists_or]

/-- A region of a list is covered by it. -/
lemma mem_cover_of_mem {r : Region} {t} {x : Nat} (h : r ∈ t) (hx : x ∈ r) : x ∈ cover t := ⟨r, h, hx⟩

/-- Regions, some of which may be empty, one after the other. -/
structure InOrder (t : List Region) : Prop where
  valid : ∀ r ∈ t, r.start ≤ r.stop
  sorted : t.Pairwise fun a b => a.stop ≤ b.start

/-- Non-empty regions, one after the other. -/
structure Ascending (t : List Region) : Prop where
  proper : ∀ r ∈ t, r.start < r.stop
  sorted : t.Pairwise fun a b => a.stop ≤ b.start

/-- Non-empty regions, one after the other and with a gap between any two of them. -/
structure Table (t : List Region) : Prop where
  proper : ∀ r ∈ t, r.start < r.stop
  apart : t.Pairwise fun a b => a.stop < b.start

namespace InOrder

lemma cons {r : Region} {t} (h : InOrder t) (hr : r.start ≤ r.stop) (hle : ∀ s ∈ t, r.stop ≤ s.start) :
    InOrder (r :: t) where
  valid s hs := by
    rcases List.mem_cons.mp hs with rfl | hs
    · exact hr
    · exact h.valid s hs
  sorted := .cons hle h.sorted

lemma tail {r t} (h : InOrder (r :: t)) : InOrder t where
  valid s hs := h.valid s (.tail _ hs)
  sorted := h.sorted.of_cons

lemma le_start {r s : Region} {t} (h : InOrder (r :: t)) (hs : s ∈ t) : r.stop ≤ s.start :=
  List.rel_of_pairwise_cons h.sorted hs

/-- What the rest of the list covers lies above its first region. -/
lemma stop_le {r t} (h : InOrder (r :: t)) {x} (hx : x ∈ cover t) : r.stop ≤ x := by
  obtain ⟨s, hs, hx, -⟩ := hx
  exact (h.le_start hs).trans hx

/-- Everything that the list covers lies above the start of its first region. -/
lemma start_le {r t} (h : InOrder (r :: t)) {x} (hx : x ∈ cover (r :: t)) : r.start ≤ x := by
  rcases mem_cover_cons.mp hx with hx | hx
  · exact hx.1
  · exact (h.valid r (.head _)).trans (h.stop_le hx)

end InOrder

namespace Ascending

lemma nil : Ascending [] := ⟨nofun, .nil⟩

lemma cons {r : Region} {t} (h : Ascending t) (hr : r.start < r.stop) (hlt : ∀ s ∈ t, r.stop ≤ s.start) :
    Ascending (r :: t) where
  proper s hs := by
    rcases List.mem_cons.mp hs with rfl | hs
    · exact hr
    · exact h.proper s hs
  sorted := .cons hlt h.sorted

lemma tail {r t} (h : Ascending (r :: t)) : Ascending t where
  proper s hs := h.proper s (.tail _ hs)
  sorted := h.sorted.of_cons

/-- What the rest of the list covers lies above its first region. -/
lemma stop_le {r t} (h : Ascending (r :: t)) {x} (hx : x ∈ cover t) : r.stop ≤ x := by
  obtain ⟨s, hs, hx, -⟩ := hx
  exact (List.rel_of_pairwise_cons h.sorted hs).trans hx

end Ascending

namespace Table

lemma nil : Table [] := ⟨nofun, .nil⟩

lemma cons {r : Region} {t} (h : Table t) (hr : r.start < r.stop) (hlt : ∀ s ∈ t, r.stop < s.start) :
    Table (r :: t) where
  proper s hs := by
    rcases List.mem_cons.mp hs with rfl | hs
    · exact hr
    · exact h.proper s hs
  apart := .cons hlt h.apart

lemma tail {r t} (h : Table (r :: t)) : Table t where
  proper s hs := h.proper s (.tail _ hs)
  apart := h.apart.of_cons

lemma ascending {t} (h : Table t) : Ascending t where
  proper := h.proper
  sorted := h.apart.imp fun hlt => le_of_lt hlt

/-- What is added to a table above its first region stays above it. -/
lemma lt_of_cover {r reg : Region} {t t' : List Region} (h : Table (r :: t)) (hr : r.stop < reg.start)
    (hcover : ∀ x, x ∈ cover t' ↔ x ∈ cover t ∨ x ∈ reg) (proper : ∀ s ∈ t', s.start < s.stop) :
    ∀ s ∈ t', r.stop < s.start := by
  intro s hs
  rcases (hcover s.start).mp ⟨s, hs, le_rfl, proper s hs⟩ with ⟨u, hu, hle, -⟩ | ⟨hle, -⟩
  · exact (List.rel_of_pairwise_cons h.apart hu).trans_le hle
  · exact hr.trans_le hle

end Table

namespace Table

lemma start_mem_cover {r t} (h : Table (r :: t)) : r.start ∈ cover (r :: t) :=
  mem_cover_cons.mpr (.inl ⟨le_rfl, h.proper r (.head _)⟩)

/-- Everything that a table covers lies in its first region, or above the address at which that one stops. -/
lemma mem_or_lt {r t} (h : Table (r :: t)) {x : Nat} (hx : x ∈ cover (r :: t)) : x ∈ r ∨ r.stop < x := by
  rcases mem_cover_cons.mp hx with hx | ⟨s, hs, hx, -⟩
  · exact .inl hx
  · exact .inr ((List.rel_of_pairwise_cons h.apart hs).trans_le hx)

/-- The address at which a region stops belongs to no region. -/
lemma stop_not_mem {r t} (h : Table (r :: t)) : r.stop ∉ cover (r :: t) := fun hx =>
  (h.mem_or_lt hx).elim (fun hx => hx.2.false) fun hx => hx.false

lemma mem_cover_tail {r t} (h : Table (r :: t)) {x : Nat} : x ∈ cover t ↔ x ∈ cover (r :: t) ∧ r.stop ≤ x := by
  constructor
  · intro hx
    exact ⟨mem_cover_cons.mpr (.inr hx), h.ascending.stop_le hx⟩
  · rintro ⟨hx, hle⟩
    rcases mem_cover_cons.mp hx with hx | hx
    · exact absurd hx.2 hle.not_gt
    · exact hx

/-- A table is determined by its addresses. -/
lemma eq_of_cover {t u} (ht : Table t) (hu : Table u) (h : ∀ x, x ∈ cover t ↔ x ∈ cover u) : t = u := by
  induction t generalizing u with
  | nil =>
    cases u with
    | nil => rfl
    | cons s u => exact absurd ((h _).mpr hu.start_mem_cover) (by simp)
  | cons r t ih =>
    cases u with
    | nil => exact absurd ((h _).mp ht.start_mem_cover) (by simp)
    | cons s u =>
      have hr := ht.proper r (.head _)
      have hs := hu.proper s (.head _)
      -- both lists start with the least address
      have h1 := hu.mem_or_lt ((h _).mp ht.start_mem_cover)
      have h2 := ht.mem_or_lt ((h _).mpr hu.start_mem_cover)
      have hstart : r.start = s.start := by
        simp only [Region.mem_iff] at h1 h2
        omega
      -- and their first regions reach up to the first gap
      have hstop : r.stop = s.stop := by
        rcases lt_trichotomy r.stop s.stop with hlt | heq | hlt
        · exact absurd ((h _).mpr (mem_cover_cons.mpr (.inl ⟨by omega, hlt⟩))) ht.stop_not_mem
        · exact heq
        · exact absurd ((h _).mp (mem_cover_cons.mpr (.inl ⟨by omega, hlt⟩))) hu.stop_not_mem
      obtain rfl := Region.ext hstart hstop
      rw [ih ht.tail hu.tail fun x => by rw [ht.mem_cover_tail, hu.mem_cover_tail, h]]

/-- A run of addresses that a table covers lies in one of its regions. -/
lemma exists_of_subset {t} (h : Table t) {a b : Nat} (hab : a < b) (hsub : ∀ x, a ≤ x → x < b → x ∈ cover t) :
    ∃ r ∈ t, r.start ≤ a ∧ b ≤ r.stop := by
  induction t with
  | nil => exact absurd (hsub a le_rfl hab) (by simp)
  | cons r t ih =>
    rcases mem_cover_cons.mp (hsub a le_rfl hab) with ha | ha
    · refine ⟨r, .head _, ha.1, ?_⟩
      by_contra hlt
      exact h.stop_not_mem (hsub r.stop ha.2.le (by omega))
    · have hle := h.ascending.stop_le ha
      obtain ⟨s, hs, hin⟩ := ih h.tail fun x hax hxb => h.mem_cover_tail.mpr ⟨hsub x hax hxb, hle.trans hax⟩
      exact ⟨s, .tail _ hs, hin⟩

end Table

/-- A region moved up. -/
def Region.shift (d : Nat) (r : Region) : Region :=
  ⟨r.start + d, r.stop + d⟩

lemma Table.shift {t} (h : Table t) (d : Nat) : Table (t.map (Region.shift d)) where
  proper s hs := by
    obtain ⟨r, hr, rfl⟩ := List.mem_map.mp hs
    exact Nat.add_lt_add_right (h.proper r hr) d
  apart := List.pairwise_map.mpr (h.apart.imp fun hlt => Nat.add_lt_add_right hlt d)

lemma mem_cover_shift {t} {d x : Nat} : x ∈ cover (t.map (Region.shift d)) ↔ d ≤ x ∧ x - d ∈ cover t := by
  constructor
  · rintro ⟨s, hs, h1, h2⟩
    obtain ⟨r, hr, rfl⟩ := List.mem_map.mp hs
    simp only [Region.shift] at h1 h2
    exact ⟨by omega, r, hr, by omega, by omega⟩
  · rintro ⟨hle, r, hr, h1, h2⟩
    exact ⟨r.shift d, List.mem_map_of_mem hr, by simp only [Region.shift]; omega, by simp only [Region.shift]; omega⟩

/-- The regions of a list that are not empty. -/
def properRegions (t : List Region) : List Region :=
  t.filter fun r => r.start < r.stop

@[simp] lemma properRegions_nil : properRegions [] = [] := rfl

lemma properRegions_cons_of_lt {r t} (h : r.start < r.stop) : properRegions (r :: t) = r :: properRegions t :=
  List.filter_cons_of_pos (decide_eq_true h)

lemma properRegions_cons_of_not_lt {r t} (h : ¬ r.start < r.stop) : properRegions (r :: t) = properRegions t :=
  List.filter_cons_of_neg (by simpa using h)

lemma mem_properRegions {r t} : r ∈ properRegions t ↔ r ∈ t ∧ r.start < r.stop := by
  rw [properRegions, List.mem_filter, decide_eq_true_iff]

lemma InOrder.properRegions {t} (h : InOrder t) : Ascending (properRegions t) where
  proper _ hr := (mem_properRegions.mp hr).2
  sorted := h.sorted.filter _

@[simp] lemma mem_cover_properRegions {t} {x : Nat} : x ∈ cover (properRegions t) ↔ x ∈ cover t := by
  constructor
  · rintro ⟨r, hr, hx⟩
    exact ⟨r, (mem_properRegions.mp hr).1, hx⟩
  · rintro ⟨r, hr, hx⟩
    exact ⟨r, mem_properRegions.mpr ⟨hr, hx.1.trans_lt hx.2⟩, hx⟩

/-- The first addresses of the blocks of consecutive addresses that make up a set. -/
def blockStarts (s : Set Nat) : Set Nat :=
  {x ∈ s | ∀ y ∈ s, y + 1 ≠ x}

/-- A region that does not touch a set is a block of its own. -/
lemma blockStarts_fresh {s u : Set Nat} {r : Region} (hu : ∀ x, x ∈ u ↔ x ∈ s ∨ x ∈ r) (hr : r.start < r.stop)
    (hd : ∀ x ∈ s, x ∉ r) (hgap : ∀ y ∈ s, y + 1 ≠ r.start) (hstop : r.stop ∉ s) :
    blockStarts u = insert r.start (blockStarts s) := by
  ext x
  constructor
  · rintro ⟨hx, hne⟩
    rcases (hu x).mp hx with hx | ⟨h1, h2⟩
    · exact .inr ⟨hx, fun y hy => hne y ((hu y).mpr (.inl hy))⟩
    · rcases Nat.lt_or_ge r.start x with hlt | hge
      · exact absurd (by omega) (hne (x - 1) ((hu _).mpr (.inr ⟨by omega, by omega⟩)))
      · exact .inl (by omega)
  · rintro (rfl | ⟨hx, hne⟩)
    · refine ⟨(hu _).mpr (.inr ⟨le_rfl, hr⟩), fun y hy e => ?_⟩
      rcases (hu y).mp hy with hy | ⟨hy, -⟩
      · exact hgap y hy e
      · omega
    · refine ⟨(hu x).mpr (.inl hx), fun y hy e => ?_⟩
      rcases (hu y).mp hy with hy | ⟨h1, h2⟩
      · exact hne y hy e
      · -- the address behind the region is not in the set, and those in it are not either
        obtain rfl := e
        rcases Nat.lt_or_ge (y + 1) r.stop with hlt | hge
        · exact hd _ hx ⟨Nat.le_succ_of_le h1, hlt⟩
        · obtain heq : y + 1 = r.stop := Nat.le_antisymm h2 hge
          exact hstop (heq ▸ hx)

lemma ncard_blockStarts_fresh {s u : Set Nat} {r : Region} (hfin : (blockStarts s).Finite)
    (hu : ∀ x, x ∈ u ↔ x ∈ s ∨ x ∈ r) (hr : r.start < r.stop) (hd : ∀ x ∈ s, x ∉ r)
    (hgap : ∀ y ∈ s, y + 1 ≠ r.start) (hstop : r.stop ∉ s) :
    (blockStarts u).ncard = (blockStarts s).ncard + 1 := by
  rw [blockStarts_fresh hu hr hd hgap hstop]
  apply Set.ncard_insert_of_notMem _ hfin
  rintro ⟨hmem, -⟩
  exact hd _ hmem ⟨le_rfl, hr⟩

/-- The blocks of what a list of regions covers start where regions start. -/
lemma blockStarts_cover_finite (t : List Region) : (blockStarts (cover t)).Finite := by
  apply ((t.map Region.start).finite_toSet).subset
  rintro x ⟨⟨r, hr, h1, h2⟩, hne⟩
  rcases h1.lt_or_eq with hlt | rfl
  · exact absurd (by omega) (hne (x - 1) ⟨r, hr, by omega, by omega⟩)
  · exact List.mem_map_of_mem hr

/-- Every region of a table is a block. -/
lemma Table.ncard_blockStarts {t} (h : Table t) : (blockStarts (cover t)).ncard = t.length := by
  induction t with
  | nil =>
    have hempty : blockStarts (cover []) = ∅ := Set.eq_empty_of_forall_notMem fun x hx => mem_cover_nil.mp hx.1
    rw [hempty, Set.ncard_empty, List.length_nil]
  | cons r t ih =>
    have habove : ∀ x ∈ cover t, r.stop < x := by
      rintro x ⟨s, hs, hx, -⟩
      exact (List.rel_of_pairwise_cons h.apart hs).trans_le hx
    have hr := h.proper r (.head _)
    rw [ncard_blockStarts_fresh (blockStarts_cover_finite t) (fun x => mem_cover_cons.trans or_comm) hr
      (fun x hx hxr => (habove x hx).not_gt hxr.2) (fun y hy e => ?_) fun hstop => (habove _ hstop).false, ih h.tail,
      List.length_cons]
    have hy := habove y hy
    omega

end NexsKernel
