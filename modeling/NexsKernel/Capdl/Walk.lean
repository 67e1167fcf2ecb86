import NexsKernel.Lib.Failing
import NexsKernel.Lib.Trie
import NexsKernel.Capdl.Memory

/-!
# Mapping pages

The page table objects of a container are a trie, whose addresses are the indices that an address has at each level.
A request to map a page adds a page to the trie, with the tables that are missing on its path, or it is refused
because something is in its way, and then nothing has changed (`mapPage_spec`).
-/

namespace NexsKernel.Capdl

open Sdf Trie
open Function (update update_self update_of_ne)

/-- A capability to a table leads on. -/
def Cap.toEntry : Cap → Entry ObjectId Cap
  | .pageTable o => .link o
  | cap => .leaf cap

/-- The tables of a container. -/
def Container.tables (c : Container) : Store ObjectId Cap := fun id =>
  match c.objects[id]? with
  | some ⟨_, .pageTable table⟩ => some fun i => (table.slot i).map Cap.toEntry
  | _ => none

/-- The indices of an address at `n` levels from one on. -/
def indices (config : Config) (vaddr : Word) (level n : Nat) : List Nat :=
  (List.range' level n).map fun l => getPtLevelIndex config l vaddr

/-- The capability that walking the tables yields for an address. -/
def walkVspace (config : Config) (c : Container) (vspace : ObjectId) (vaddr : Word) : Option Cap :=
  let top := topPtLevelNumber config
  walk c.tables vspace (indices config vaddr top (config.numPageTableLevels - top))

/-- A request to map a page. -/
structure Request where
  vaddr : Word
  size : Sdf.PageSize
  cap : FrameCap
  deriving DecidableEq, Repr

/-- The path of the page that is requested. -/
def Request.path (config : Config) (r : Request) : List Nat :=
  let top := topPtLevelNumber config
  indices config r.vaddr top (getPtLevelToInsert config r.size + 1 - top)

/-- The slot of the request is occupied, or a large page lies on its path. -/
def Request.Blocked (config : Config) (c : Container) (vspace : ObjectId) (r : Request) : Prop :=
  Trie.Blocked c.tables vspace (r.path config)

/-- The frame of a request is in the container. -/
def Request.FrameIn (c : Container) (r : Request) : Prop :=
  ∃ name sizeBits paddr init, c.objects[r.cap.object]? = some ⟨name, .frame sizeBits paddr init⟩

/-! ## The container -/

section container

variable {c : Container} {t i : Nat} {name : String} {table : PageTable} {cap : Cap}

lemma tables_of_table (h : c.objects[t]? = some ⟨name, .pageTable table⟩) :
    c.tables t = some fun i => (table.slot i).map Cap.toEntry := by
  unfold Container.tables
  rw [h]

lemma exists_table (h : c.tables t ≠ none) : ∃ name table, c.objects[t]? = some ⟨name, .pageTable table⟩ := by
  unfold Container.tables at h
  split at h
  · rename_i name table he
    exact ⟨name, table, he⟩
  · exact absurd rfl h

lemma lt_of_tables (h : c.tables t ≠ none) : t < c.objects.length := by
  obtain ⟨name, table, he⟩ := exists_table h
  exact (List.getElem?_eq_some_iff.mp he).1

lemma entry_eq (h : c.objects[t]? = some ⟨name, .pageTable table⟩) :
    entry c.tables t i = (table.slot i).map Cap.toEntry := by
  rw [entry, tables_of_table h]
  rfl

lemma Cap.toEntry_eq_link {o : ObjectId} : cap.toEntry = .link o ↔ cap = .pageTable o := by
  cases cap <;> simp [Cap.toEntry]

lemma Cap.toEntry_eq_leaf {v : Cap} (h : cap.toEntry = .leaf v) : cap = v := by
  cases cap <;> simp_all [Cap.toEntry]

/-- The container with one more object. -/
def Container.push (c : Container) (new : NamedObject) : Container :=
  { c with objects := c.objects ++ [new] }

lemma push_objects {new obj : NamedObject} {u : ObjectId} (h : c.objects[u]? = some obj) :
    (c.push new).objects[u]? = some obj :=
  (List.getElem?_append_left (List.getElem?_eq_some_iff.mp h).1).trans h

lemma push_tables {new : NamedObject} {u : ObjectId} (h : u < c.objects.length) :
    (c.push new).tables u = c.tables u := by
  unfold Container.tables Container.push
  dsimp only
  rw [List.getElem?_append_left h]

/-- A capability is entered in a table. -/
def PageTable.enter (table : PageTable) (i : Nat) (cap : Cap) : PageTable :=
  { table with slots := table.slots ++ [⟨i, cap⟩] }

lemma PageTable.slot_enter (h : table.slot i = none) (j : Nat) :
    (table.enter i cap).slot j = if j = i then some cap else table.slot j := by
  unfold PageTable.slot PageTable.enter
  unfold PageTable.slot at h
  rw [List.find?_append]
  by_cases e : j = i
  · subst e
    rw [Option.map_eq_none_iff.mp h]
    simp
  · have hne : (i == j) = false := beq_false_of_ne fun e' => e e'.symm
    simp [e, hne]

/-- The container with a capability entered in a table. -/
def Container.enter (c : Container) (t : ObjectId) (table : PageTable) (i : Nat) (cap : Cap) : Container :=
  { c with objects := c.objects.modify t fun o => { o with object := .pageTable (table.enter i cap) } }

lemma enter_objects (h : c.objects[t]? = some ⟨name, .pageTable table⟩) (u : ObjectId) :
    (c.enter t table i cap).objects[u]? =
      if u = t then some ⟨name, .pageTable (table.enter i cap)⟩ else c.objects[u]? := by
  unfold Container.enter
  rw [List.getElem?_modify]
  by_cases e : t = u
  · subst e
    simp [h]
  · simp [e, show ¬ u = t from fun e' => e e'.symm]

lemma enter_entered {place : ObjectId → Option (ObjectId × List Nat)}
    (h : c.objects[t]? = some ⟨name, .pageTable table⟩)
    (hfree : table.slot i = none) : Entered c.tables (c.enter t table i cap).tables place t i cap.toEntry := by
  have ht : (c.enter t table i cap).objects[t]? = some ⟨name, .pageTable (table.enter i cap)⟩ := by
    rw [enter_objects h, if_pos rfl]
  refine ⟨?_, fun u hu _ => ?_, ?_, fun j => ?_⟩
  · rw [entry_eq h, hfree]
    rfl
  · unfold Container.tables
    rw [enter_objects h, if_neg hu]
  · rw [tables_of_table ht]
    exact nofun
  · rw [entry_eq ht, entry_eq h, PageTable.slot_enter hfree]
    split <;> rfl

end container

/-! ## Runs of the functions -/

section runs

variable {c : Container} {t i level : Nat} {name : String} {table : PageTable} {cap : Cap} {obj : NamedObject}

lemma getRootObject_run (h : c.objects[t]? = some obj) : getRootObject t c = .ok obj c := by
  have hget : (get : M Container) c = .ok c c := rfl
  unfold getRootObject
  rw [Failing.bind_ok hget, h]
  rfl

lemma addRootObject_run (c : Container) (obj : NamedObject) :
    addRootObject obj c = .ok c.objects.length (c.push obj) :=
  rfl

/-- A free slot takes the capability. -/
lemma insertCap_free (h : c.objects[t]? = some ⟨name, .pageTable table⟩) (hfree : table.slot i = none) :
    insertCapIntoPageTableLevel t level i cap c = .ok () (c.enter t table i cap) := by
  unfold insertCapIntoPageTableLevel
  rw [Failing.bind_ok (getRootObject_run h)]
  dsimp only
  rw [hfree]
  rfl

lemma insertCap_filled {cap' : Cap} (h : c.objects[t]? = some ⟨name, .pageTable table⟩)
    (hslot : table.slot i = some cap') :
    ∃ reason, insertCapIntoPageTableLevel t level i cap c = .error (.err reason) c := by
  unfold insertCapIntoPageTableLevel
  rw [Failing.bind_ok (getRootObject_run h)]
  dsimp only
  rw [hslot]
  exact ⟨_, rfl⟩

lemma insertCap_notTable (h : c.objects[t]? = some obj) (hobj : ∀ table, obj.object ≠ .pageTable table) :
    ∃ reason, insertCapIntoPageTableLevel t level i cap c = .error (.err reason) c := by
  unfold insertCapIntoPageTableLevel
  rw [Failing.bind_ok (getRootObject_run h)]
  cases ho : obj.object with
  | pageTable table => exact absurd ho (hobj table)
  | _ => exact ⟨_, rfl⟩

variable {config : Config} {pdName nextLevelName : String} {v : ObjectId} {vaddr : Word}

lemma mapIntermediary_filled (h : c.objects[t]? = some ⟨name, .pageTable table⟩) (hslot : table.slot i = some cap) :
    mapIntermediaryLevelHelper config pdName nextLevelName v t level i vaddr c = .ok cap.obj c := by
  unfold mapIntermediaryLevelHelper
  rw [Failing.bind_ok (getRootObject_run h)]
  dsimp only
  rw [hslot]
  rfl

lemma mapIntermediary_notTable (h : c.objects[t]? = some obj) (hobj : ∀ table, obj.object ≠ .pageTable table) :
    ∃ reason, mapIntermediaryLevelHelper config pdName nextLevelName v t level i vaddr c = .error (.err reason) c := by
  unfold mapIntermediaryLevelHelper
  rw [Failing.bind_ok (getRootObject_run h)]
  cases ho : obj.object with
  | pageTable table => exact absurd ho (hobj table)
  | _ => exact ⟨_, rfl⟩

/-- A table is created in a free slot. -/
lemma mapIntermediary_free {vname : String} {vtable : PageTable} (h : c.objects[t]? = some ⟨name, .pageTable table⟩)
    (hfree : table.slot i = none) (hv : c.objects[v]? = some ⟨vname, .pageTable vtable⟩) :
    ∃ new : NamedObject, (∃ x86Ept, new.object = .pageTable ⟨x86Ept, false, level + 1, []⟩) ∧
      mapIntermediaryLevelHelper config pdName nextLevelName v t level i vaddr c =
        .ok c.objects.length ((c.push new).enter t table i (.pageTable c.objects.length)) := by
  unfold mapIntermediaryLevelHelper
  rw [Failing.bind_ok (getRootObject_run h)]
  dsimp only
  rw [hfree]
  dsimp only
  rw [Failing.bind_ok (getRootObject_run hv)]
  dsimp only
  let start := getPtLevelCoverageStart config (level + 1) vaddr
  refine ⟨⟨s!"{nextLevelName}_{pdName}_vaddr_0x{hex start}", .pageTable ⟨vtable.x86Ept, false, level + 1, []⟩⟩,
    ⟨vtable.x86Ept, rfl⟩, ?_⟩
  refine (Failing.bind_ok (addRootObject_run c _)).trans ?_
  exact Failing.bind_ok (insertCap_free (push_objects h) hfree)

lemma getPtLevelName_run (config : Config) {level : Nat} (h : level < config.numPageTableLevels) :
    ∃ levelName, ∀ c, getPtLevelName config level c = .ok levelName c := by
  unfold getPtLevelName
  unfold Config.numPageTableLevels at h
  cases ha : config.arch
  all_goals
    rw [ha] at h
    dsimp only at h
    interval_cases level <;> exact ⟨_, fun _ => rfl⟩

end runs

/-! ## Requests -/

/-- The tables of a container are a forest whose pages are those that were granted, and the frames that are mapped
are no tables. -/
structure Inv (config : Config) (c : Container) (place : ObjectId → Option (ObjectId × List Nat))
    (granted : ObjectId → List Request) : Prop where
  forest : Forest c.tables place fun v => (granted v).map fun r => (r.path config, .frame r.cap)
  frames : ∀ v, ∀ r ∈ granted v, r.FrameIn c

lemma Request.FrameIn.push {c : Container} {r : Request} (h : r.FrameIn c) (new : NamedObject) :
    r.FrameIn (c.push new) := by
  obtain ⟨name, sizeBits, paddr, init, h⟩ := h
  exact ⟨name, sizeBits, paddr, init, push_objects h⟩

lemma Request.FrameIn.enter {c : Container} {r : Request} {t i : Nat} {name : String} {table : PageTable} {cap : Cap}
    (h : r.FrameIn c) (ht : c.objects[t]? = some ⟨name, .pageTable table⟩) : r.FrameIn (c.enter t table i cap) := by
  obtain ⟨name', sizeBits, paddr, init, h⟩ := h
  have hne : r.cap.object ≠ t := by
    intro e
    rw [e, ht] at h
    cases h
  exact ⟨name', sizeBits, paddr, init, by rw [enter_objects ht, if_neg hne, h]⟩

lemma indices_succ (config : Config) (vaddr : Word) (level n : Nat) :
    indices config vaddr level (n + 1) = getPtLevelIndex config level vaddr :: indices config vaddr (level + 1) n := by
  rw [indices, List.range'_succ]
  rfl

lemma indices_concat (config : Config) (vaddr : Word) (level n : Nat) :
    indices config vaddr level (n + 1) =
      indices config vaddr level n ++ [getPtLevelIndex config (level + n) vaddr] := by
  rw [indices, List.range'_concat, List.map_append, Nat.one_mul]
  rfl

lemma indices_take (config : Config) (a : Word) (level : Nat) {n m : Nat} (h : n ≤ m) :
    (indices config a level m).take n = indices config a level n := by
  have hsplit : List.range' level n ++ List.range' (level + 1 * n) (m - n) = List.range' level m := by
    rw [List.range'_append, Nat.add_sub_cancel' h]
  unfold indices
  rw [← List.map_take, ← hsplit, List.take_left' List.length_range']

lemma indices_prefix (config : Config) (a : Word) (level : Nat) {n m : Nat} (h : n ≤ m) :
    indices config a level n <+: indices config a level m := by
  rw [← indices_take config a level h]
  exact List.take_prefix _ _

section request

variable {config : Config} {c : Container} {place : ObjectId → Option (ObjectId × List Nat)}
  {granted : ObjectId → List Request} {v : ObjectId} {r : Request} {pdName : String}

/-- At the level of the page. -/
lemma mapRecursive_last {t level : Nat} {cap : Cap} {size : Sdf.PageSize} {vaddr : Word}
    (hlevel : level < config.numPageTableLevels) (h : level = getPtLevelToInsert config size) :
    mapRecursive config pdName v t level cap size vaddr =
      insertCapIntoPageTableLevel t level (getPtLevelIndex config level vaddr) cap := by
  rw [mapRecursive, dif_neg (Nat.not_le.mpr hlevel)]
  exact if_pos h

/-- Above it. -/
lemma mapRecursive_next {t level : Nat} {cap : Cap} {size : Sdf.PageSize} {vaddr : Word}
    (hlevel : level < getPtLevelToInsert config size)
    (hins : getPtLevelToInsert config size < config.numPageTableLevels) :
    ∃ levelName, ∀ c, mapRecursive config pdName v t level cap size vaddr c =
      (do
        let next ← mapIntermediaryLevelHelper config pdName levelName v t level
          (getPtLevelIndex config level vaddr) vaddr
        mapRecursive config pdName v next (level + 1) cap size vaddr : M Unit) c := by
  obtain ⟨levelName, hname⟩ := getPtLevelName_run config (show level + 1 < config.numPageTableLevels by omega)
  refine ⟨levelName, fun c => ?_⟩
  rw [mapRecursive, dif_neg (by omega)]
  refine Eq.trans (congrFun (if_neg (by omega)) c) ?_
  exact Failing.bind_ok (hname c)

/-- Below a frame there is no table. -/
lemma mapRecursive_notTable {t level : Nat} {obj : NamedObject} (h : c.objects[t]? = some obj)
    (hobj : ∀ table, obj.object ≠ .pageTable table) {cap : Cap} {size : Sdf.PageSize} {vaddr : Word}
    (hle : level ≤ getPtLevelToInsert config size) (hins : getPtLevelToInsert config size < config.numPageTableLevels) :
    ∃ reason, mapRecursive config pdName v t level cap size vaddr c = .error (.err reason) c := by
  rcases Nat.eq_or_lt_of_le hle with heq | hlt
  · rw [mapRecursive_last (by omega) heq]
    exact insertCap_notTable h hobj
  · obtain ⟨levelName, hnext⟩ := mapRecursive_next hlt hins
    obtain ⟨reason, herr⟩ : ∃ reason, mapIntermediaryLevelHelper config pdName levelName v t level
        (getPtLevelIndex config level vaddr) vaddr c = .error (.err reason) c := mapIntermediary_notTable h hobj
    exact ⟨reason, (hnext c).trans (Failing.bind_error herr)⟩

lemma pages_update (r : Request) :
    (fun u => (update granted v (r :: granted v) u).map fun r => (r.path config, Cap.frame r.cap)) =
      update (fun u => (granted u).map fun r => (r.path config, Cap.frame r.cap)) v
        ((r.path config, Cap.frame r.cap) :: (granted v).map fun r => (r.path config, Cap.frame r.cap)) := by
  funext u
  by_cases e : u = v
  · subst e
    rw [update_self, update_self]
    rfl
  · rw [update_of_ne e, update_of_ne e]

/-- A page is entered in a free slot. -/
lemma Inv.enterPage {t i : Nat} {p : List Nat} {name : String} {table : PageTable} (h : Inv config c place granted)
    (ht : place t = some (v, p)) (htable : c.objects[t]? = some ⟨name, .pageTable table⟩) (hfree : table.slot i = none)
    (hpath : p ++ [i] = r.path config) (hframe : r.FrameIn c) :
    Inv config (c.enter t table i (.frame r.cap)) place (update granted v (r :: granted v)) := by
  constructor
  · have hin : Entered c.tables (c.enter t table i (.frame r.cap)).tables place t i (.leaf (.frame r.cap)) :=
      enter_entered htable hfree
    have hforest := h.forest.addLeaf ht hin
    rw [hpath] at hforest
    rw [pages_update]
    exact hforest
  · intro u g hg
    by_cases e : u = v
    · subst e
      rw [update_self] at hg
      rcases List.mem_cons.mp hg with rfl | hg
      · exact hframe.enter htable
      · exact (h.frames u g hg).enter htable
    · rw [update_of_ne e] at hg
      exact (h.frames u g hg).enter htable

/-- A new object has no place yet. -/
lemma Inv.place_fresh (h : Inv config c place granted) : place c.objects.length = none := by
  by_contra hne
  obtain ⟨x, hx⟩ := Option.ne_none_iff_exists'.mp hne
  exact Nat.lt_irrefl _ (lt_of_tables (h.forest.table hx))

/-- A table is created in a free slot. -/
lemma Inv.enterTable {t i : Nat} {p : List Nat} {name : String} {table : PageTable} (newName : String) (new : PageTable)
    (h : Inv config c place granted) (ht : place t = some (v, p))
    (htable : c.objects[t]? = some ⟨name, .pageTable table⟩) (hfree : table.slot i = none) (hnew : new.slots = []) :
    let c' := (c.push ⟨newName, .pageTable new⟩).enter t table i (.pageTable c.objects.length)
    Inv config c' (update place c.objects.length (some (v, p ++ [i]))) granted ∧
      ∀ j, entry c'.tables c.objects.length j = none := by
  intro c'
  have htlt := (List.getElem?_eq_some_iff.mp htable).1
  have htable' : (c.push ⟨newName, .pageTable new⟩).objects[t]? = some ⟨name, .pageTable table⟩ := push_objects htable
  have hlast : c'.objects[c.objects.length]? = some ⟨newName, .pageTable new⟩ := by
    rw [enter_objects htable', if_neg (Nat.ne_of_gt htlt)]
    exact List.getElem?_concat_length
  have hslot : ∀ j, (new.slot j).map Cap.toEntry = none := by
    intro j
    rw [PageTable.slot, hnew]
    rfl
  have hin : Entered c.tables c'.tables place t i (.link c.objects.length) := by
    have he : Entered (c.push ⟨newName, .pageTable new⟩).tables c'.tables place t i (.link c.objects.length) :=
      enter_entered htable' hfree
    have hsame : ∀ u, place u ≠ none → (c.push ⟨newName, .pageTable new⟩).tables u = c.tables u := by
      intro u hu
      obtain ⟨x, hx⟩ := Option.ne_none_iff_exists'.mp hu
      exact push_tables (lt_of_tables (h.forest.table hx))
    have htne : place t ≠ none := by
      rw [ht]
      exact nofun
    refine ⟨?_, fun u hu hp => (he.others u hu hp).trans (hsame u hp), he.table, fun j => ?_⟩
    · rw [← entry_congr (hsame t htne)]
      exact he.free
    · rw [← entry_congr (hsame t htne)]
      exact he.made j
  refine ⟨⟨h.forest.addTable ht h.place_fresh hin (tables_of_table hlast) hslot, fun u g hg => ?_⟩, fun j => ?_⟩
  · exact ((h.frames u g hg).push _).enter htable'
  · rw [entry_eq hlast]
    exact hslot j

/-- From a table on the path of a request: it is refused if something is in its way, and else it is granted. -/
lemma mapRecursive_spec {n t level : Nat} (pdName : String) (h : Inv config c place granted) (hframe : r.FrameIn c)
    (hn : level + n = getPtLevelToInsert config r.size) (htop : topPtLevelNumber config ≤ level)
    (hins : getPtLevelToInsert config r.size < config.numPageTableLevels)
    (ht : place t = some (v, indices config r.vaddr (topPtLevelNumber config) (level - topPtLevelNumber config))) :
    (Trie.Blocked c.tables t (indices config r.vaddr level (n + 1)) ∧
      ∃ reason, mapRecursive config pdName v t level (.frame r.cap) r.size r.vaddr c = .error (.err reason) c) ∨
    (¬ Trie.Blocked c.tables t (indices config r.vaddr level (n + 1)) ∧
      ∃ c' place', mapRecursive config pdName v t level (.frame r.cap) r.size r.vaddr c = .ok () c' ∧
        Inv config c' place' (update granted v (r :: granted v)) ∧ Grown place place' v (r.path config)) := by
  induction n generalizing c place t level with
  | zero =>
    obtain ⟨name, table, htable⟩ := exists_table (h.forest.table ht)
    have hentry := entry_eq htable (i := getPtLevelIndex config level r.vaddr)
    have hlevel : level < config.numPageTableLevels := by omega
    rw [mapRecursive_last hlevel hn, indices_succ, indices, List.range'_zero, List.map_nil]
    cases hslot : table.slot (getPtLevelIndex config level r.vaddr) with
    | some cap =>
      rw [hslot] at hentry
      exact .inl ⟨⟨_, hentry⟩, insertCap_filled htable hslot⟩
    | none =>
      rw [hslot] at hentry
      refine .inr ⟨?_, _, place, insertCap_free htable hslot, h.enterPage ht htable hslot ?_ hframe,
        Grown.refl _ _ _⟩
      · rintro ⟨e, he⟩
        cases hentry.symm.trans he
      · have hlen : getPtLevelToInsert config r.size + 1 - topPtLevelNumber config =
            level - topPtLevelNumber config + 1 := by omega
        unfold Request.path
        dsimp only
        rw [hlen, indices_concat, Nat.add_sub_cancel' htop]
  | succ n ih =>
    obtain ⟨name, table, htable⟩ := exists_table (h.forest.table ht)
    have hentry := entry_eq htable (i := getPtLevelIndex config level r.vaddr)
    obtain ⟨levelName, hnext⟩ := mapRecursive_next (show level < getPtLevelToInsert config r.size by omega) hins
    have hlen : level + 1 - topPtLevelNumber config = level - topPtLevelNumber config + 1 := by omega
    have hbelow : indices config r.vaddr (topPtLevelNumber config) (level - topPtLevelNumber config) ++
        [getPtLevelIndex config level r.vaddr] =
          indices config r.vaddr (topPtLevelNumber config) (level + 1 - topPtLevelNumber config) := by
      rw [hlen, indices_concat, Nat.add_sub_cancel' htop]
    rw [hnext, indices_succ, indices_succ config r.vaddr (level + 1) n]
    cases hslot : table.slot (getPtLevelIndex config level r.vaddr) with
    | some cap =>
      rw [hslot] at hentry
      rw [Failing.bind_ok (mapIntermediary_filled htable hslot)]
      cases hcap : cap.toEntry with
      | link t' =>
        -- a table on the way
        have hentry' : entry c.tables t (getPtLevelIndex config level r.vaddr) = some (.link t') :=
          hentry.trans (congrArg some hcap)
        have ht' := h.forest.link ht hentry'
        rw [hbelow] at ht'
        have hih := ih h hframe (by omega) (by omega) ht'
        rw [indices_succ] at hih
        rw [Cap.toEntry_eq_link.mp hcap]
        rw [Trie.Blocked, hentry']
        · exact hih
        · simp
      | leaf cap' =>
        -- a large page
        have hentry' : entry c.tables t (getPtLevelIndex config level r.vaddr) = some (.leaf cap') :=
          hentry.trans (congrArg some hcap)
        obtain ⟨g, hg, e⟩ := List.mem_map.mp (h.forest.leaf ht hentry')
        obtain ⟨name', sizeBits, paddr, init, hobj⟩ := h.frames v g hg
        have hcap' : cap.obj = g.cap.object := by
          rw [Cap.toEntry_eq_leaf hcap, ← (Prod.mk.inj e).2]
          rfl
        refine .inl ⟨?_, ?_⟩
        · rw [Trie.Blocked, hentry']
          · trivial
          · simp
        · rw [hcap']
          exact mapRecursive_notTable hobj (by simp) (by omega) hins
    | none =>
      -- a table is created, and below it everything is free
      rw [hslot] at hentry
      obtain ⟨vname, vtable, hv⟩ := exists_table (h.forest.table (h.forest.place_root ht))
      obtain ⟨⟨newName, obj⟩, ⟨x86Ept, rfl⟩, hrun⟩ := mapIntermediary_free htable hslot hv
      obtain ⟨hinv, hempty⟩ := h.enterTable newName ⟨x86Ept, false, level + 1, []⟩ ht htable hslot rfl
      have hplace : update place c.objects.length
          (some (v, indices config r.vaddr (topPtLevelNumber config) (level - topPtLevelNumber config) ++
            [getPtLevelIndex config level r.vaddr])) c.objects.length =
          some (v, indices config r.vaddr (topPtLevelNumber config) (level + 1 - topPtLevelNumber config)) := by
        rw [update_self, hbelow]
      rw [Failing.bind_ok hrun]
      refine .inr ⟨?_, ?_⟩
      · rw [Trie.Blocked, hentry]
        · exact id
        · simp
      · rcases ih hinv ((hframe.push _).enter (push_objects htable)) (by omega) (by omega) hplace with ⟨hb,
          -⟩ | ⟨-, hok⟩
        · exact absurd hb (not_blocked_of_empty hempty)
        · obtain ⟨c', place', hrun', hinv', hgrown⟩ := hok
          refine ⟨c', place', hrun', hinv', fun {u x} hu => hgrown.kept ?_, fun {u x} hu => ?_⟩
          · have hne : u ≠ c.objects.length := by
              rintro rfl
              cases hu.symm.trans h.place_fresh
            rwa [update_of_ne hne]
          · rcases hgrown.new hu with hu | hnew
            · by_cases e : u = c.objects.length
              · rw [e, update_self, hbelow] at hu
                exact .inr ⟨_, (Option.some.inj hu).symm, indices_prefix config r.vaddr _ (by omega)⟩
              · rw [update_of_ne e] at hu
                exact .inl hu
            · exact .inr hnew

end request

end NexsKernel.Capdl
