import Mathlib.Tactic

/-!
# Tries in a store of tables

A table maps indices to links, which lead to other tables, and to leaves. An address is the list of the indices on its
path, and a page is a leaf with the path that leads to it; `walk` finds the leaf on the path of an address.

`Forest` relates a store to the pages of its roots. Each table has one place, a root and the path from there, so that
no table is shared between roots or between paths. A new root, a new table and a new leaf keep it
(`Forest.addRoot`, `Forest.addTable`, `Forest.addLeaf`), and in a forest an address leads to a leaf exactly if it
lies on a page (`Forest.walk_iff`). Where there are no tables without a page below them, a path is blocked exactly if there
is a page on it or below it (`Forest.blocked_iff`).
-/

namespace NexsKernel.Trie

open Function (update update_self update_of_ne)

variable {Id Leaf : Type*}

inductive Entry (Id Leaf : Type*) where
  | link (id : Id)
  | leaf (v : Leaf)
  deriving DecidableEq

/-- The tables, and the entry of each at an index. -/
abbrev Store (Id Leaf : Type*) := Id → Option (Nat → Option (Entry Id Leaf))

def entry (s : Store Id Leaf) (t : Id) (i : Nat) : Option (Entry Id Leaf) :=
  (s t).bind fun table => table i

/-- The leaf on a path. -/
def walk (s : Store Id Leaf) : Id → List Nat → Option Leaf
  | _, [] => none
  | t, i :: is =>
    match entry s t i with
    | some (.link t') => walk s t' is
    | some (.leaf v) => some v
    | none => none

/-- The slot at the end of a path is taken, or there is a leaf before it. -/
def Blocked (s : Store Id Leaf) : Id → List Nat → Prop
  | _, [] => False
  | t, [i] => ∃ e, entry s t i = some e
  | t, i :: is =>
    match entry s t i with
    | some (.link t') => Blocked s t' is
    | some (.leaf _) => True
    | none => False

/-- The table that a path of links leads to. -/
def descend (s : Store Id Leaf) : Id → List Nat → Option Id
  | t, [] => some t
  | t, i :: is =>
    match entry s t i with
    | some (.link t') => descend s t' is
    | _ => none

/-- Each table that has a place is reached from its root on one path, and the leaves are the pages. -/
structure Forest (s : Store Id Leaf) (place : Id → Option (Id × List Nat)) (pages : Id → List (List Nat × Leaf)) :
    Prop where
  table : ∀ {t r p}, place t = some (r, p) → s t ≠ none
  root : ∀ {t r}, place t = some (r, []) → t = r
  link : ∀ {t r p i t'}, place t = some (r, p) → entry s t i = some (.link t') → place t' = some (r, p ++ [i])
  parent : ∀ {t' r p i}, place t' = some (r, p ++ [i]) → ∃ t, place t = some (r, p) ∧ entry s t i = some (.link t')
  leaf : ∀ {t r p i v}, place t = some (r, p) → entry s t i = some (.leaf v) → (p ++ [i], v) ∈ pages r
  page : ∀ {r q v}, (q, v) ∈ pages r → ∃ t p i, q = p ++ [i] ∧ place t = some (r, p) ∧ entry s t i = some (.leaf v)

/-- An entry was made in a free slot. -/
structure Entered (s s' : Store Id Leaf) (place : Id → Option (Id × List Nat)) (t : Id) (i : Nat) (e : Entry Id Leaf) :
    Prop where
  free : entry s t i = none
  others : ∀ u, u ≠ t → place u ≠ none → s' u = s u
  table : s' t ≠ none
  made : ∀ j, entry s' t j = if j = i then some e else entry s t j

/-! ## Entries -/

section entry

variable {s s' : Store Id Leaf} {t : Id} {i : Nat}

lemma entry_congr (h : s' t = s t) : entry s' t i = entry s t i := by
  rw [entry, h, entry]

lemma walk_append {is js : List Nat} {t' : Id} (h : descend s t is = some t') : walk s t (is ++ js) = walk s t' js := by
  induction is generalizing t with
  | nil =>
    obtain rfl := Option.some.inj h
    rfl
  | cons i is ih =>
    rw [descend] at h
    rw [List.cons_append, walk]
    split at h
    · rename_i u hu
      rw [hu]
      exact ih h
    · cases h

lemma descend_append {is js : List Nat} {t' : Id} (h : descend s t is = some t') :
    descend s t (is ++ js) = descend s t' js := by
  induction is generalizing t with
  | nil =>
    obtain rfl := Option.some.inj h
    rfl
  | cons i is ih =>
    rw [descend] at h
    rw [List.cons_append, descend]
    split at h
    · exact ih h
    · cases h

/-- In an empty table nothing is in the way. -/
lemma not_blocked_of_empty {is : List Nat} (h : ∀ i, entry s t i = none) : ¬ Blocked s t is := by
  match is with
  | [] => exact id
  | [i] =>
    rintro ⟨e, he⟩
    exact absurd ((h i).symm.trans he) nofun
  | i :: j :: is =>
    rw [Blocked, h i]
    · exact id
    · exact nofun

variable {place : Id → Option (Id × List Nat)} {e : Entry Id Leaf}

/-- What was there before stays. -/
lemma Entered.keeps (h : Entered s s' place t i e) {u : Id} {x : Id × List Nat} {j : Nat} {f : Entry Id Leaf}
    (hu : place u = some x) (hf : entry s u j = some f) : entry s' u j = some f := by
  by_cases eu : u = t
  · subst eu
    have hne : j ≠ i := by
      rintro rfl
      exact absurd (h.free.symm.trans hf) nofun
    rwa [h.made, if_neg hne]
  · rwa [entry_congr (h.others u eu (by rw [hu]; nofun))]

lemma Entered.back (h : Entered s s' place t i e) {u : Id} {x : Id × List Nat} {j : Nat} {f : Entry Id Leaf}
    (hu : place u = some x) (hf : entry s' u j = some f) : entry s u j = some f ∨ u = t ∧ j = i ∧ f = e := by
  by_cases eu : u = t
  · subst eu
    rw [h.made] at hf
    split at hf
    · rename_i ej
      exact .inr ⟨rfl, ej, (Option.some.inj hf).symm⟩
    · exact .inl hf
  · rw [entry_congr (h.others u eu (by rw [hu]; nofun))] at hf
    exact .inl hf

lemma Entered.tables (h : Entered s s' place t i e) {u : Id} {x : Id × List Nat} (hu : place u = some x)
    (hs : s u ≠ none) : s' u ≠ none := by
  by_cases eu : u = t
  · subst eu
    exact h.table
  · rwa [h.others u eu (by rw [hu]; nofun)]

end entry

/-! ## Walking in a forest -/

namespace Forest

variable {s s' : Store Id Leaf} {place place' : Id → Option (Id × List Nat)} {pages : Id → List (List Nat × Leaf)}

/-- The tables that have no place do not matter. -/
lemma congr (h : Forest s place pages) (hs : ∀ t, place t ≠ none → s' t = s t) : Forest s' place pages where
  table := fun ht => by
    rw [hs _ (by rw [ht]; nofun)]
    exact h.table ht
  root := h.root
  link := fun ht he => h.link ht (by rwa [entry_congr (hs _ (by rw [ht]; nofun))] at he)
  parent := fun ht => by
    obtain ⟨t, hp, he⟩ := h.parent ht
    exact ⟨t, hp, (entry_congr (hs t (by rw [hp]; nofun))).trans he⟩
  leaf := fun ht he => h.leaf ht (by rwa [entry_congr (hs _ (by rw [ht]; nofun))] at he)
  page := fun hq => by
    obtain ⟨t, p, i, e, hp, he⟩ := h.page hq
    exact ⟨t, p, i, e, hp, (entry_congr (hs t (by rw [hp]; nofun))).trans he⟩

variable (h : Forest s place pages)
include h

/-- A table is where its place says. -/
lemma descend_place {t r : Id} {p : List Nat} (ht : place t = some (r, p)) : descend s r p = some t := by
  induction p using List.reverseRecOn generalizing t with
  | nil => exact congrArg some (h.root ht).symm
  | append_singleton p i ih =>
    obtain ⟨u, hu, he⟩ := h.parent ht
    rw [descend_append (ih hu), descend, he]
    rfl

/-- The root of a place is a table of its own. -/
lemma place_root {t r : Id} {p : List Nat} (ht : place t = some (r, p)) : place r = some (r, []) := by
  induction p using List.reverseRecOn generalizing t with
  | nil => rwa [h.root ht] at ht
  | append_singleton p i ih =>
    obtain ⟨u, hu, -⟩ := h.parent ht
    exact ih hu

/-- Tables have different places. -/
lemma place_inj {t t' : Id} {x : Id × List Nat} (ht : place t = some x) (ht' : place t' = some x) : t = t' :=
  Option.some.inj ((h.descend_place ht).symm.trans (h.descend_place ht'))

/-- What a path from a table of a forest leads to is a page. -/
lemma walk_place {t r : Id} {p is : List Nat} {v : Leaf} (ht : place t = some (r, p)) (hw : walk s t is = some v) :
    ∃ q, (p ++ q, v) ∈ pages r ∧ q <+: is := by
  induction is generalizing t p with
  | nil => cases hw
  | cons i is ih =>
    rw [walk] at hw
    split at hw
    · rename_i t' he
      obtain ⟨q, hq, hpre⟩ := ih (h.link ht he) hw
      rw [List.append_assoc] at hq
      exact ⟨i :: q, hq, List.cons_prefix_cons.mpr ⟨rfl, hpre⟩⟩
    · rename_i v' he
      obtain rfl := Option.some.inj hw
      exact ⟨[i], h.leaf ht he, List.cons_prefix_cons.mpr ⟨rfl, List.nil_prefix⟩⟩
    · cases hw

/-- An address leads to a leaf exactly if it lies on a page with it. -/
theorem walk_iff {r : Id} {is : List Nat} {v : Leaf} (hr : place r = some (r, [])) :
    walk s r is = some v ↔ ∃ q, (q, v) ∈ pages r ∧ q <+: is := by
  constructor
  · exact h.walk_place hr
  · rintro ⟨q, hq, js, rfl⟩
    obtain ⟨t, p, i, rfl, ht, he⟩ := h.page hq
    rw [List.append_assoc, walk_append (h.descend_place ht), List.singleton_append, walk, he]

omit h

variable [DecidableEq Id]

/-- A new root. -/
lemma addRoot (h : Forest s place pages) {r : Id} {table : Nat → Option (Entry Id Leaf)} (hr : place r = none)
    (hs : ∀ t, place t ≠ none → s' t = s t) (hnew : s' r = some table) (hempty : ∀ i, table i = none) :
    Forest s' (update place r (some (r, []))) (update pages r []) := by
  have hold := h.congr hs
  have hother : ∀ {t r' p}, place t = some (r', p) → r' ≠ r := by
    rintro t r' p ht rfl
    exact absurd ((hold.place_root ht).symm.trans hr) nofun
  have hentry : ∀ i, entry s' r i = none := by
    intro i
    rw [entry, hnew]
    exact hempty i
  have hcases : ∀ {t r' p}, update place r (some (r, [])) t = some (r', p) →
      t = r ∧ r' = r ∧ p = [] ∨ t ≠ r ∧ place t = some (r', p) := by
    intro t r' p ht
    by_cases e : t = r
    · subst e
      rw [update_self, Option.some.injEq, Prod.mk.injEq] at ht
      exact .inl ⟨rfl, ht.1.symm, ht.2.symm⟩
    · rw [update_of_ne e] at ht
      exact .inr ⟨e, ht⟩
  have hkeep : ∀ {t x}, place t = some x → update place r (some (r, [])) t = some x := by
    intro t x ht
    have hne : t ≠ r := by
      rintro rfl
      exact absurd (ht.symm.trans hr) nofun
    rwa [update_of_ne hne]
  constructor
  case table =>
    intro t r' p ht
    rcases hcases ht with ⟨rfl, -⟩ | ⟨-, ht⟩
    · rw [hnew]
      exact nofun
    · exact hold.table ht
  case root =>
    intro t r' ht
    rcases hcases ht with ⟨rfl, rfl, -⟩ | ⟨-, ht⟩
    · rfl
    · exact hold.root ht
  case link =>
    intro t r' p i t' ht he
    rcases hcases ht with ⟨rfl, -⟩ | ⟨-, ht⟩
    · exact absurd ((hentry i).symm.trans he) nofun
    · exact hkeep (hold.link ht he)
  case parent =>
    intro t' r' p i ht
    rcases hcases ht with ⟨-, -, e⟩ | ⟨-, ht⟩
    · exact absurd e (List.append_ne_nil_of_right_ne_nil p nofun)
    · obtain ⟨t, hp, he⟩ := hold.parent ht
      exact ⟨t, hkeep hp, he⟩
  case leaf =>
    intro t r' p i v ht he
    rcases hcases ht with ⟨rfl, -⟩ | ⟨-, ht⟩
    · exact absurd ((hentry i).symm.trans he) nofun
    · rw [update_of_ne (hother ht)]
      exact hold.leaf ht he
  case page =>
    intro r' q v hq
    by_cases e : r' = r
    · rw [e, update_self] at hq
      exact absurd hq List.not_mem_nil
    · rw [update_of_ne e] at hq
      obtain ⟨t, p, i, e', hp, he⟩ := hold.page hq
      exact ⟨t, p, i, e', hkeep hp, he⟩

/-- A new leaf. -/
lemma addLeaf (h : Forest s place pages) {t r : Id} {p : List Nat} {i : Nat} {v : Leaf} (ht : place t = some (r, p))
    (hin : Entered s s' place t i (.leaf v)) :
    Forest s' place (update pages r ((p ++ [i], v) :: pages r)) := by
  have hpages : ∀ {r' x}, x ∈ pages r' → x ∈ update pages r ((p ++ [i], v) :: pages r) r' := by
    intro r' x hx
    by_cases e : r' = r
    · subst e
      rw [update_self]
      exact List.mem_cons_of_mem _ hx
    · rwa [update_of_ne e]
  constructor
  case table => exact fun hu => hin.tables hu (h.table hu)
  case root => exact h.root
  case link =>
    intro u r' q j u' hu he
    rcases hin.back hu he with he | ⟨-, -, e⟩
    · exact h.link hu he
    · cases e
  case parent =>
    intro u' r' q j hu
    obtain ⟨u, hp, he⟩ := h.parent hu
    exact ⟨u, hp, hin.keeps hp he⟩
  case leaf =>
    intro u r' q j v' hu he
    rcases hin.back hu he with he | ⟨rfl, rfl, e⟩
    · exact hpages (h.leaf hu he)
    · obtain rfl := Entry.leaf.inj e
      obtain ⟨rfl, rfl⟩ := Prod.mk.inj (Option.some.inj (hu.symm.trans ht))
      rw [update_self]
      exact List.mem_cons_self
  case page =>
    intro r' q v' hq
    have hcase : (q, v') ∈ pages r' ∨ r' = r ∧ (q, v') = (p ++ [i], v) := by
      by_cases e : r' = r
      · rw [e, update_self] at hq
        rcases List.mem_cons.mp hq with hq | hq
        · exact .inr ⟨e, hq⟩
        · exact .inl (e ▸ hq)
      · rw [update_of_ne e] at hq
        exact .inl hq
    rcases hcase with hq | ⟨rfl, e⟩
    · obtain ⟨u, q', j, e, hp, he⟩ := h.page hq
      exact ⟨u, q', j, e, hp, hin.keeps hp he⟩
    · obtain ⟨rfl, rfl⟩ := Prod.mk.inj e
      exact ⟨t, p, i, rfl, ht, by rw [hin.made, if_pos rfl]⟩

/-- A new table, below one that has a place. -/
lemma addTable (h : Forest s place pages) {t r n : Id} {p : List Nat} {i : Nat}
    {table : Nat → Option (Entry Id Leaf)} (ht : place t = some (r, p)) (hn : place n = none)
    (hin : Entered s s' place t i (.link n)) (htn : s' n = some table) (hempty : ∀ j, table j = none) :
    Forest s' (update place n (some (r, p ++ [i]))) pages := by
  have hkeep : ∀ {u x}, place u = some x → update place n (some (r, p ++ [i])) u = some x := by
    intro u x hu
    have hne : u ≠ n := by
      rintro rfl
      exact absurd (hu.symm.trans hn) nofun
    rwa [update_of_ne hne]
  have hcases : ∀ {u x}, update place n (some (r, p ++ [i])) u = some x →
      u = n ∧ x = (r, p ++ [i]) ∨ place u = some x := by
    intro u x hu
    by_cases e : u = n
    · subst e
      rw [update_self] at hu
      exact .inl ⟨rfl, (Option.some.inj hu).symm⟩
    · rw [update_of_ne e] at hu
      exact .inr hu
  have hnone : ∀ j, entry s' n j = none := by
    intro j
    rw [entry, htn]
    exact hempty j
  constructor
  case table =>
    intro u r' q hu
    rcases hcases hu with ⟨rfl, -⟩ | hu
    · rw [htn]
      exact nofun
    · exact hin.tables hu (h.table hu)
  case root =>
    intro u r' hu
    rcases hcases hu with ⟨-, e⟩ | hu
    · exact absurd (Prod.mk.inj e).2.symm (List.append_ne_nil_of_right_ne_nil p nofun)
    · exact h.root hu
  case link =>
    intro u r' q j u' hu he
    rcases hcases hu with ⟨rfl, -⟩ | hu'
    · exact absurd ((hnone j).symm.trans he) nofun
    · rcases hin.back hu' he with he | ⟨rfl, rfl, e⟩
      · exact hkeep (h.link hu' he)
      · obtain rfl := Entry.link.inj e
        obtain ⟨rfl, rfl⟩ := Prod.mk.inj (Option.some.inj (hu'.symm.trans ht))
        exact update_self _ _ _
  case parent =>
    intro u' r' q j hu
    rcases hcases hu with ⟨rfl, e⟩ | hu
    · obtain ⟨rfl, epath⟩ := Prod.mk.inj e
      obtain ⟨rfl, elast⟩ := List.append_inj' epath rfl
      obtain rfl := List.singleton_inj.mp elast
      exact ⟨t, hkeep ht, by rw [hin.made, if_pos rfl]⟩
    · obtain ⟨u, hp, he⟩ := h.parent hu
      exact ⟨u, hkeep hp, hin.keeps hp he⟩
  case leaf =>
    intro u r' q j v' hu he
    rcases hcases hu with ⟨rfl, -⟩ | hu
    · exact absurd ((hnone j).symm.trans he) nofun
    · rcases hin.back hu he with he | ⟨-, -, e⟩
      · exact h.leaf hu he
      · cases e
  case page =>
    intro r' q v' hq
    obtain ⟨u, q', j, e, hp, he⟩ := h.page hq
    exact ⟨u, q', j, e, hkeep hp, hin.keeps hp he⟩

end Forest

/-! ## What blocks a path -/

/-- Below each table other than a root there is a page. -/
def Populated (place : Id → Option (Id × List Nat)) (pages : Id → List (List Nat × Leaf)) : Prop :=
  ∀ t r p, place t = some (r, p) → p ≠ [] → ∃ q v, (q, v) ∈ pages r ∧ p <+: q

/-- Tables have been added on the way to a path. -/
structure Grown (place place' : Id → Option (Id × List Nat)) (r : Id) (path : List Nat) : Prop where
  kept : ∀ {t x}, place t = some x → place' t = some x
  new : ∀ {t x}, place' t = some x → place t = some x ∨ ∃ p, x = (r, p) ∧ p <+: path

lemma Grown.refl (place : Id → Option (Id × List Nat)) (r : Id) (path : List Nat) : Grown place place r path :=
  ⟨id, .inl⟩

/-- The page at the end of the path is below all the new tables. -/
lemma Populated.grow [DecidableEq Id] {place place' : Id → Option (Id × List Nat)} {pages : Id → List (List Nat × Leaf)}
    {r : Id} {path : List Nat} {v : Leaf} (h : Populated place pages) (hg : Grown place place' r path) :
    Populated place' (update pages r ((path, v) :: pages r)) := by
  intro t r' p ht hp
  rcases hg.new ht with ht | ⟨p', e, hpre⟩
  · obtain ⟨q, w, hq, hpre⟩ := h t r' p ht hp
    refine ⟨q, w, ?_, hpre⟩
    by_cases e : r' = r
    · subst e
      rw [update_self]
      exact List.mem_cons_of_mem _ hq
    · rwa [update_of_ne e]
  · obtain ⟨rfl, rfl⟩ := Prod.mk.inj e
    exact ⟨path, v, by rw [update_self]; exact List.mem_cons_self, hpre⟩

namespace Forest

variable {s : Store Id Leaf} {place : Id → Option (Id × List Nat)} {pages : Id → List (List Nat × Leaf)}
  (h : Forest s place pages)
include h

/-- The tables on the way to a table. -/
lemma ancestor {t r : Id} {p q : List Nat} (ht : place t = some (r, p ++ q)) : ∃ t', place t' = some (r, p) := by
  induction q using List.reverseRecOn generalizing t with
  | nil => exact ⟨t, by rwa [List.append_nil] at ht⟩
  | append_singleton q i ih =>
    rw [← List.append_assoc] at ht
    obtain ⟨u, hu, -⟩ := h.parent ht
    exact ih hu

/-- What a table has on the way to a page: the page itself, or a table that is closer to it. -/
lemma entry_of_page {t r : Id} {p q : List Nat} {i : Nat} {v : Leaf} (ht : place t = some (r, p))
    (hq : (p ++ i :: q, v) ∈ pages r) :
    q = [] ∧ entry s t i = some (.leaf v) ∨ q ≠ [] ∧ ∃ t', entry s t i = some (.link t') := by
  obtain ⟨u, p', j, e, hu, he⟩ := h.page hq
  rcases List.eq_nil_or_concat q with rfl | ⟨q, k, rfl⟩
  · obtain ⟨rfl, elast⟩ := List.append_inj' e rfl
    obtain rfl := List.singleton_inj.mp elast
    obtain rfl := h.place_inj ht hu
    exact .inl ⟨rfl, he⟩
  · have e' : (p ++ [i] ++ q) ++ [k] = p' ++ [j] := by simpa using e
    obtain ⟨rfl, -⟩ := List.append_inj' e' rfl
    obtain ⟨t', ht'⟩ := h.ancestor hu
    obtain ⟨u', hu', he'⟩ := h.parent ht'
    obtain rfl := h.place_inj ht hu'
    exact .inr ⟨by simp, t', he'⟩

/-- From a table on, a path is blocked by the pages on it and below it. -/
lemma blocked_place (hp : Populated place pages) {t r : Id} {p is : List Nat} (ht : place t = some (r, p))
    (hne : is ≠ []) :
    Blocked s t is ↔ ∃ q v, q ≠ [] ∧ (p ++ q, v) ∈ pages r ∧ (q <+: is ∨ is <+: q) := by
  induction is generalizing t p with
  | nil => exact absurd rfl hne
  | cons i is ih =>
    -- the pages that matter are below the entry of the table
    have hhead : ∀ {q : List Nat}, q ≠ [] → (q <+: i :: is ∨ i :: is <+: q) →
        ∃ q', q = i :: q' ∧ (q' <+: is ∨ is <+: q') := by
      intro q hq hor
      cases q with
      | nil => exact absurd rfl hq
      | cons j q =>
        rcases hor with hpre | hpre
        · obtain ⟨rfl, hpre'⟩ := List.cons_prefix_cons.mp hpre
          exact ⟨q, rfl, .inl hpre'⟩
        · obtain ⟨rfl, hpre'⟩ := List.cons_prefix_cons.mp hpre
          exact ⟨q, rfl, .inr hpre'⟩
    cases hentry : entry s t i with
    | none =>
      refine iff_of_false (fun hb => ?_) ?_
      · cases is with
        | nil =>
          obtain ⟨e, he⟩ := hb
          cases hentry.symm.trans he
        | cons j is =>
          rw [Blocked, hentry] at hb
          · exact hb
          · exact nofun
      · rintro ⟨q, v, hq, hmem, hor⟩
        obtain ⟨q', rfl, -⟩ := hhead hq hor
        rcases h.entry_of_page ht hmem with ⟨-, he⟩ | ⟨-, t', he⟩ <;> cases hentry.symm.trans he
    | some e =>
      cases e with
      | leaf v =>
        refine iff_of_true ?_ ⟨[i], v, nofun, h.leaf ht hentry, .inl (List.cons_prefix_cons.mpr ⟨rfl, List.nil_prefix⟩)⟩
        cases is with
        | nil => exact ⟨_, hentry⟩
        | cons j is =>
          rw [Blocked, hentry]
          · trivial
          · exact nofun
      | link t' =>
        have ht' := h.link ht hentry
        cases is with
        | nil =>
          refine iff_of_true ⟨_, hentry⟩ ?_
          obtain ⟨q, v, hq, q', rfl⟩ := hp t' r _ ht' (by simp)
          rw [List.append_assoc] at hq
          exact ⟨i :: q', v, nofun, hq, .inr (List.cons_prefix_cons.mpr ⟨rfl, List.nil_prefix⟩)⟩
        | cons j is =>
          have hnext : Blocked s t (i :: j :: is) = Blocked s t' (j :: is) := by
            rw [Blocked, hentry]
            exact nofun
          rw [hnext, ih ht' nofun]
          constructor
          · rintro ⟨q, v, -, hmem, hor⟩
            rw [List.append_assoc] at hmem
            refine ⟨i :: q, v, nofun, hmem, ?_⟩
            exact hor.imp (fun hpre => List.cons_prefix_cons.mpr ⟨rfl, hpre⟩) fun hpre =>
              List.cons_prefix_cons.mpr ⟨rfl, hpre⟩
          · rintro ⟨q, v, hq, hmem, hor⟩
            obtain ⟨q', rfl, hor'⟩ := hhead hq hor
            rcases h.entry_of_page ht hmem with ⟨-, he⟩ | ⟨hq', -⟩
            · cases hentry.symm.trans he
            · exact ⟨q', v, hq', by rwa [List.append_assoc], hor'⟩

/-- A path is blocked exactly if there is a page on it or below it. -/
theorem blocked_iff (hp : Populated place pages) {r : Id} {is : List Nat} (hr : place r = some (r, []))
    (hne : is ≠ []) :
    Blocked s r is ↔ ∃ q v, (q, v) ∈ pages r ∧ (q <+: is ∨ is <+: q) := by
  rw [h.blocked_place hp hr hne]
  constructor
  · rintro ⟨q, v, -, hmem, hor⟩
    exact ⟨q, v, hmem, hor⟩
  · rintro ⟨q, v, hmem, hor⟩
    obtain ⟨t, p, i, rfl, -⟩ := h.page hmem
    exact ⟨p ++ [i], v, by simp, hmem, hor⟩

end Forest

end NexsKernel.Trie
