import NexsKernel.Boot.Freemem

/-!
# The walk of `init_freemem`, piece by piece

What the walk does depends only on the regions that it is given: it is a list of `Piece`s, each of which is either
reserved or inserted into the free memory (`walk_eq`). The pieces come in ascending order (`Cut.ascending`), those
to insert cover what is available and not reserved, and those to reserve are the non-empty reserved regions.
-/

namespace NexsKernel

namespace Boot

/-- A step of the walk that changes something. -/
inductive Piece where
  | reserve (reg : Region)
  | insert (reg : Region)
  deriving DecidableEq, Repr

/-- The region that a step is about. -/
def Piece.reg : Piece → Region
  | .reserve reg | .insert reg => reg

/-- The region that a step inserts into the free memory. -/
def Piece.inserted : Piece → Option Region
  | .reserve _ => none
  | .insert reg => some reg

/-- The region that a step only reserves. -/
def Piece.reserved : Piece → Option Region
  | .reserve reg => some reg
  | .insert _ => none

/-- The steps of the walk. -/
def pieces : List Region → List Region → List Piece
  | a :: as, r :: rs =>
    if r.start = r.stop then pieces (a :: as) rs
    else if a.stop ≤ a.start then pieces as (r :: rs)
    else if r.stop ≤ a.start then .reserve r :: pieces (a :: as) rs
    else if a.stop ≤ r.start then .insert a :: pieces as (r :: rs)
    else if r.start ≤ a.start then pieces ({ a with start := min a.stop r.stop } :: as) (r :: rs)
    else if r.stop < a.stop then .insert { a with stop := r.start } :: pieces
    ({ a with start := r.stop } :: as) (r :: rs)
    else .insert { a with stop := r.start } :: pieces as (r :: rs)
  | as, rs => (properRegions rs).map .reserve ++ (properRegions as).map .insert
termination_by as rs => 2 * (as.length + rs.length) + trimmable as rs
decreasing_by all_goals simp only [trimmable, List.length_cons]; grind [trimmable]

/-- A step of the walk. -/
def perform (cfg : BootConfig) : Piece → NdksBoot → Except Halt NdksBoot
  | .reserve reg, s => do
    let (_, s) ← reserveRegion cfg (pptrToPaddrReg cfg reg) s
    return s
  | .insert reg, s => do
    let (_, s) ← insertRegion cfg reg s
    return s

/-- A list of steps. -/
def performAll (cfg : BootConfig) (ps : List Piece) (s : NdksBoot) : Except Halt NdksBoot :=
  ps.foldlM (fun s p => perform cfg p s) s

lemma performAll_cons {cfg p ps s} : performAll cfg (p :: ps) s = perform cfg p s >>= performAll cfg ps := rfl

lemma performAll_append {cfg ps qs s} :
    performAll cfg (ps ++ qs) s = performAll cfg ps s >>= performAll cfg qs := by
  rw [performAll, List.foldlM_append]
  rfl

lemma reserveRest_eq (cfg : BootConfig) (rs : List Region) (s : NdksBoot) :
    reserveRest cfg rs s = performAll cfg ((properRegions rs).map .reserve) s := by
  induction rs generalizing s with
  | nil => rfl
  | cons r rs ih =>
    rw [reserveRest]
    split
    · rename_i h
      rw [properRegions_cons_of_lt h, List.map_cons, performAll_cons, perform, bind_assoc]
      apply bind_congr
      rintro ⟨-, s⟩
      exact ih s
    · rename_i h
      rw [properRegions_cons_of_not_lt h]
      exact ih s

lemma insertRest_eq (cfg : BootConfig) (as : List Region) (s : NdksBoot) :
    insertRest cfg as s = performAll cfg ((properRegions as).map .insert) s := by
  induction as generalizing s with
  | nil => rfl
  | cons a as ih =>
    rw [insertRest]
    split
    · rename_i h
      rw [properRegions_cons_of_lt h, List.map_cons, performAll_cons, perform, bind_assoc]
      apply bind_congr
      rintro ⟨-, s⟩
      exact ih s
    · rename_i h
      rw [properRegions_cons_of_not_lt h]
      exact ih s

/-- The three loops of `init_freemem`. -/
def walk (cfg : BootConfig) (as rs : List Region) (s : NdksBoot) : Except Halt NdksBoot := do
  let (as, rs, s) ← removeReserved cfg as rs s
  let s ← reserveRest cfg rs s
  insertRest cfg as s

/-- The walk takes the steps that its regions say. -/
lemma walk_eq (cfg : BootConfig) (as rs : List Region) (s : NdksBoot) :
    walk cfg as rs s = performAll cfg (pieces as rs) s := by
  induction as, rs using pieces.induct generalizing s with
  | case1 a as r rs h ih =>
    rw [pieces, if_pos h, ← ih, walk, removeReserved, if_pos h, walk]
  | case2 a as r rs h1 h2 ih =>
    rw [pieces, if_neg h1, if_pos h2, ← ih, walk, removeReserved, if_neg h1, if_pos h2, walk]
  | case3 a as r rs h1 h2 h3 ih =>
    rw [pieces, if_neg h1, if_neg h2, if_pos h3, performAll_cons, perform, bind_assoc, walk, removeReserved, if_neg h1,
      if_neg h2, if_pos h3, bind_assoc]
    apply bind_congr
    rintro ⟨-, s⟩
    exact ih s
  | case4 a as r rs h1 h2 h3 h4 ih =>
    rw [pieces, if_neg h1, if_neg h2, if_neg h3, if_pos h4, performAll_cons, perform, bind_assoc, walk, removeReserved,
      if_neg h1, if_neg h2, if_neg h3, if_pos h4, bind_assoc]
    apply bind_congr
    rintro ⟨-, s⟩
    exact ih s
  | case5 a as r rs h1 h2 h3 h4 h5 ih =>
    rw [pieces, if_neg h1, if_neg h2, if_neg h3, if_neg h4, if_pos h5, ← ih, walk, removeReserved, if_neg h1,
      if_neg h2, if_neg h3, if_neg h4, if_pos h5, walk]
  | case6 a as r rs h1 h2 h3 h4 h5 h6 ih =>
    rw [pieces, if_neg h1, if_neg h2, if_neg h3, if_neg h4, if_neg h5, if_pos h6, performAll_cons, perform, bind_assoc,
      walk, removeReserved, if_neg h1, if_neg h2, if_neg h3, if_neg h4, if_neg h5, cfg.assert_ok (by simpa using h4)]
    change ((insertRegion cfg { a with stop := r.start } s >>= _) >>= _) = _
    rw [bind_assoc]
    apply bind_congr
    rintro ⟨-, s⟩
    dsimp only
    rw [if_pos h6]
    exact ih s
  | case7 a as r rs h1 h2 h3 h4 h5 h6 ih =>
    rw [pieces, if_neg h1, if_neg h2, if_neg h3, if_neg h4, if_neg h5, if_neg h6, performAll_cons, perform, bind_assoc,
      walk, removeReserved, if_neg h1, if_neg h2, if_neg h3, if_neg h4, if_neg h5, cfg.assert_ok (by simpa using h4)]
    change ((insertRegion cfg { a with stop := r.start } s >>= _) >>= _) = _
    rw [bind_assoc]
    apply bind_congr
    rintro ⟨-, s⟩
    dsimp only
    rw [if_neg h6]
    exact ih s
  | case8 as rs h =>
    have e : removeReserved cfg as rs s = .ok (as, rs, s) := by
      rw [removeReserved]
      exact h
    have ep : pieces as rs = (properRegions rs).map .reserve ++
        (properRegions as).map .insert := by
      rw [pieces]
      exact h
    rw [ep, performAll_append, ← reserveRest_eq, walk, e]
    change reserveRest cfg rs s >>= _ = _
    apply bind_congr
    intro s
    exact insertRest_eq cfg as s

/-- What the steps of the walk amount to. -/
structure Cut (as rs : List Region) (ps : List Piece) : Prop where
  ascending : Ascending (ps.map Piece.reg)
  above : ∀ x, (∀ a ∈ as, x ≤ a.start) → (∀ r ∈ rs, x ≤ r.start) → ∀ p ∈ ps, x ≤ p.reg.start
  inserted : ∀ x, x ∈ cover (ps.filterMap Piece.inserted) ↔ x ∈ cover as ∧ x ∉ cover rs
  reserved : ps.filterMap Piece.reserved = properRegions rs
  table : (as.Pairwise fun a b => a.stop < b.start) → Table (ps.filterMap Piece.inserted)

namespace Cut

variable {as rs : List Region} {a r : Region} {ps : List Piece}

/-- The steps that come first are below all the others. -/
lemma ascending_cons {p : Piece} (c : Cut as rs ps) (hp : p.reg.start < p.reg.stop)
    (ha : ∀ a ∈ as, p.reg.stop ≤ a.start)
    (hr : ∀ r ∈ rs, p.reg.stop ≤ r.start) : Ascending ((p :: ps).map Piece.reg) := by
  refine c.ascending.cons hp fun s hs => ?_
  obtain ⟨q, hq, rfl⟩ := List.mem_map.mp hs
  exact c.above _ ha hr q hq

lemma mem_of_reserve (c : Cut as rs ps) (h : .reserve r ∈ ps) : r ∈ rs :=
  (mem_properRegions.mp (c.reserved ▸ List.mem_filterMap.mpr ⟨_, h, rfl⟩)).1

lemma mem_of_insert (c : Cut as rs ps) (h : .insert a ∈ ps) : ∃ b ∈ as, a.start ∈ b :=
  ((c.inserted a.start).mp ⟨a, List.mem_filterMap.mpr ⟨_, h, rfl⟩, le_rfl,
    c.ascending.proper _ (List.mem_map_of_mem h)⟩).1

/-- An inserted region does not start below the regions that were available. -/
lemma start_le (c : Cut as rs ps) (table : Table (ps.filterMap Piece.inserted)) {b : Region}
    (hb : b ∈ ps.filterMap Piece.inserted) : ∃ a ∈ as, a.start ≤ b.start := by
  obtain ⟨⟨a, ha, hle, -⟩, -⟩ := (c.inserted b.start).mp ⟨b, hb, le_rfl, table.proper b hb⟩
  exact ⟨a, ha, hle⟩

/-- An empty reserved region is skipped. -/
lemma skipReserved (h : r.start = r.stop) (c : Cut (a :: as) rs ps) : Cut (a :: as) (r :: rs) ps where
  ascending := c.ascending
  above x ha hr := c.above x ha fun s hs => hr s (.tail _ hs)
  inserted x := by
    rw [c.inserted]
    simp only [mem_cover_cons, Region.mem_iff, h]
    grind
  reserved := by
    rw [c.reserved, properRegions_cons_of_not_lt (by omega)]
  table := c.table

/-- An available region of which nothing is left is skipped. -/
lemma skipAvailable (h : a.stop ≤ a.start) (c : Cut as (r :: rs) ps) : Cut (a :: as) (r :: rs) ps where
  ascending := c.ascending
  above x ha hr := c.above x (fun s hs => ha s (.tail _ hs)) hr
  inserted x := by
    rw [c.inserted]
    simp only [mem_cover_cons, Region.mem_iff]
    grind
  reserved := c.reserved
  table gap := c.table gap.of_cons

/-- A reserved region below the available ones is reserved. -/
lemma passReserved (oa : InOrder (a :: as)) (or : InOrder (r :: rs)) (hr : r.start ≠ r.stop) (h : r.stop ≤ a.start)
    (c : Cut (a :: as) rs ps) : Cut (a :: as) (r :: rs) (.reserve r :: ps) where
  ascending := by
    apply c.ascending_cons (p := .reserve r) (lt_of_le_of_ne (or.valid r (.head _)) hr)
    · intro s hs
      rcases List.mem_cons.mp hs with rfl | hs
      · exact h
      · exact h.trans ((oa.valid a (.head _)).trans (oa.le_start hs))
    · exact fun s hs => or.le_start hs
  above x ha hx p hp := by
    rcases List.mem_cons.mp hp with rfl | hp
    · exact hx r (.head _)
    · exact c.above x ha (fun s hs => hx s (.tail _ hs)) p hp
  inserted x := by
    have hle := fun hx : x ∈ cover (a :: as) => oa.start_le hx
    rw [List.filterMap_cons, Piece.inserted, c.inserted]
    simp only [mem_cover_cons (t := rs), Region.mem_iff]
    grind
  reserved := by
    have hlt : r.start < r.stop := lt_of_le_of_ne (or.valid r (.head _)) hr
    rw [List.filterMap_cons, Piece.reserved, properRegions_cons_of_lt hlt, ← c.reserved]
  table := c.table

/-- The part of an available region below the reserved ones is inserted, and nothing of it is left. -/
lemma insertBelow (oa : InOrder (a :: as)) (or : InOrder (r :: rs)) {stop : Nat} (ha : a.start < stop)
    (h : stop ≤ a.stop) (hr : stop ≤ r.start) (hcut : a.stop ≤ stop ∨ stop = r.start ∧ a.stop ≤ r.stop)
    (c : Cut as (r :: rs) ps) : Cut (a :: as) (r :: rs) (.insert { a with stop } :: ps) where
  ascending := by
    apply c.ascending_cons (p := .insert { a with stop }) ha
    · exact fun s hs => h.trans (oa.le_start hs)
    · intro s hs
      rcases List.mem_cons.mp hs with rfl | hs
      · exact hr
      · exact hr.trans ((or.valid r (.head _)).trans (or.le_start hs))
  above x hx hr p hp := by
    rcases List.mem_cons.mp hp with rfl | hp
    · exact hx a (.head _)
    · exact c.above x (fun s hs => hx s (.tail _ hs)) hr p hp
  inserted x := by
    have hle := fun hx : x ∈ cover (r :: rs) => or.start_le hx
    rw [List.filterMap_cons, Piece.inserted, mem_cover_cons, c.inserted, mem_cover_cons (t := as)]
    simp only [mem_cover_cons, Region.mem_iff] at *
    grind
  reserved := by
    rw [List.filterMap_cons, Piece.reserved, c.reserved]
  table gap := by
    have table := c.table gap.of_cons
    refine table.cons ha fun b hb => ?_
    obtain ⟨a', ha', hle⟩ := c.start_le table hb
    exact (h.trans_lt (List.rel_of_pairwise_cons gap ha')).trans_le hle

/-- What a reserved region takes from the start of an available one. -/
lemma trim (ha : a.start < a.stop) (hr : a.start < r.stop) (h : r.start ≤ a.start)
    (c : Cut ({ a with start := min a.stop r.stop } :: as) (r :: rs) ps) : Cut (a :: as) (r :: rs) ps where
  ascending := c.ascending
  above x hx hx' := by
    apply c.above x _ hx'
    intro s hs
    rcases List.mem_cons.mp hs with rfl | hs
    · have := hx a (.head _)
      dsimp only
      omega
    · exact hx s (.tail _ hs)
  inserted x := by
    rw [c.inserted]
    simp only [mem_cover_cons, Region.mem_iff]
    grind
  reserved := c.reserved
  table gap := c.table (.cons (fun s hs => List.rel_of_pairwise_cons gap hs) gap.of_cons)

/-- The part of an available region below a reserved one is inserted; the part above it is left. -/
lemma splitFirst (oa : InOrder (a :: as)) (or : InOrder (r :: rs)) (ha : a.start < r.start)
    (hr : r.start < r.stop) (h : r.stop < a.stop)
    (c : Cut ({ a with start := r.stop } :: as) (r :: rs) ps) :
    Cut (a :: as) (r :: rs) (.insert { a with stop := r.start } :: ps) where
  ascending := by
    apply c.ascending_cons (p := .insert { a with stop := r.start }) ha
    · intro s hs
      rcases List.mem_cons.mp hs with rfl | hs
      · exact hr.le
      · exact hr.le.trans (h.le.trans (oa.le_start hs))
    · intro s hs
      rcases List.mem_cons.mp hs with rfl | hs
      · exact le_rfl
      · exact hr.le.trans (or.le_start hs)
  above x hx hx' p hp := by
    rcases List.mem_cons.mp hp with rfl | hp
    · exact hx a (.head _)
    · apply c.above x _ hx' p hp
      intro s hs
      rcases List.mem_cons.mp hs with rfl | hs
      · exact (hx' r (.head _)).trans hr.le
      · exact hx s (.tail _ hs)
  inserted x := by
    have hle := fun hx : x ∈ cover (r :: rs) => or.start_le hx
    rw [List.filterMap_cons, Piece.inserted, mem_cover_cons, c.inserted, mem_cover_cons (t := as),
      mem_cover_cons (t := as)]
    simp only [mem_cover_cons, Region.mem_iff] at *
    grind
  reserved := by
    rw [List.filterMap_cons, Piece.reserved, c.reserved]
  table gap := by
    have table := c.table (.cons (fun s hs => List.rel_of_pairwise_cons gap hs) gap.of_cons)
    refine table.cons ha fun b hb => ?_
    obtain ⟨a', ha', hle⟩ := c.start_le table hb
    rcases List.mem_cons.mp ha' with rfl | ha'
    · exact hr.trans_le hle
    · have := List.rel_of_pairwise_cons gap ha'
      dsimp only
      omega

end Cut

/-- What is left once one of the lists is empty. -/
lemma cut_rest {as rs : List Region} (oa : InOrder as) (or : InOrder rs) (h : as = [] ∨ rs = []) :
    Cut as rs ((properRegions rs).map .reserve ++ (properRegions as).map .insert) := by
  have hi : ((properRegions rs).map Piece.reserve ++ (properRegions as).map Piece.insert).filterMap Piece.inserted =
      properRegions as := by
    simp [List.filterMap_append, List.filterMap_map, Function.comp_def, Piece.inserted]
  have hr : ((properRegions rs).map Piece.reserve ++ (properRegions as).map Piece.insert).filterMap Piece.reserved =
      properRegions rs := by
    simp [List.filterMap_append, List.filterMap_map, Function.comp_def, Piece.reserved]
  have hreg : ((properRegions rs).map Piece.reserve ++ (properRegions as).map Piece.insert).map Piece.reg =
      properRegions rs ++ properRegions as := by
    simp [Function.comp_def, Piece.reg]
  constructor
  · rw [hreg]
    rcases h with rfl | rfl
    · rw [properRegions_nil, List.append_nil]
      exact or.properRegions
    · exact oa.properRegions
  · intro x hx hx' p hp
    rcases List.mem_append.mp hp with hp | hp <;> obtain ⟨s, hs, rfl⟩ := List.mem_map.mp hp
    · exact hx' s (mem_properRegions.mp hs).1
    · exact hx s (mem_properRegions.mp hs).1
  · intro x
    rw [hi, mem_cover_properRegions]
    rcases h with rfl | rfl <;> simp
  · exact hr
  · intro gap
    rw [hi]
    exact ⟨fun r hr => (mem_properRegions.mp hr).2, gap.filter _⟩

/-- The steps of the walk, for regions that are in order. -/
theorem pieces_cut {as rs : List Region} (oa : InOrder as) (or : InOrder rs) : Cut as rs (pieces as rs) := by
  induction as, rs using pieces.induct with
  | case1 a as r rs h ih =>
    rw [pieces, if_pos h]
    exact (ih oa or.tail).skipReserved h
  | case2 a as r rs h1 h2 ih =>
    rw [pieces, if_neg h1, if_pos h2]
    exact (ih oa.tail or).skipAvailable h2
  | case3 a as r rs h1 h2 h3 ih =>
    rw [pieces, if_neg h1, if_neg h2, if_pos h3]
    exact (ih oa or.tail).passReserved oa or h1 h3
  | case4 a as r rs h1 h2 h3 h4 ih =>
    rw [pieces, if_neg h1, if_neg h2, if_neg h3, if_pos h4]
    exact (ih oa.tail or).insertBelow oa or (by omega) le_rfl h4 (.inl le_rfl)
  | case5 a as r rs h1 h2 h3 h4 h5 ih =>
    rw [pieces, if_neg h1, if_neg h2, if_neg h3, if_neg h4, if_pos h5]
    have oa' : InOrder ({ a with start := min a.stop r.stop } :: as) :=
      oa.tail.cons (by dsimp only; omega) fun s hs => oa.le_start hs
    exact (ih oa' or).trim (by omega) (by omega) h5
  | case6 a as r rs h1 h2 h3 h4 h5 h6 ih =>
    rw [pieces, if_neg h1, if_neg h2, if_neg h3, if_neg h4, if_neg h5, if_pos h6]
    have oa' : InOrder ({ a with start := r.stop } :: as) := oa.tail.cons h6.le fun s hs => oa.le_start hs
    exact (ih oa' or).splitFirst oa or (by omega) (lt_of_le_of_ne (or.valid r (.head _)) h1) h6
  | case7 a as r rs h1 h2 h3 h4 h5 h6 ih =>
    rw [pieces, if_neg h1, if_neg h2, if_neg h3, if_neg h4, if_neg h5, if_neg h6]
    exact (ih oa.tail or).insertBelow oa or (by omega) (by omega) le_rfl (.inr ⟨rfl, by omega⟩)
  | case8 as rs h =>
    rw [pieces]
    · apply cut_rest oa or
      cases as with
      | nil => exact .inl rfl
      | cons a as =>
        cases rs with
        | nil => exact .inr rfl
        | cons r rs => exact (h a as r rs rfl rfl).elim
    · exact h

end Boot

end NexsKernel
