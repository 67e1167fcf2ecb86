import NexsKernel.Capdl.Mapping

/-!
# One address space

A page of an address space is refused exactly if it has an address in common with a page that was mapped before
(`Space.map`, `Space.refuse`), and walking the tables finds the frames of the pages (`Space.translate_iff`). An address
beyond those that the tables have indices for is not translated.
-/

namespace NexsKernel.Capdl

open Sdf Trie
open Function (update update_self update_of_ne)

variable {config : Config}

/-! ## Pages -/

section pages

variable {g r : Request}

lemma pageBytes_pos (size : Sdf.PageSize) : 0 < size.bytes.toNat := by
  cases size <;> decide

lemma Request.covers_self (r : Request) : r.Covers r.vaddr :=
  ⟨le_rfl, Nat.lt_add_of_pos_right (pageBytes_pos r.size)⟩

/-- Two pages have an address in common exactly if the path of one begins with that of the other. -/
lemma Request.InReach.overlap_iff (hg : g.InReach config) (hr : r.InReach config) :
    (g.path config <+: r.path config ∨ r.path config <+: g.path config) ↔ ∃ a, g.Covers a ∧ r.Covers a := by
  constructor
  · rintro (hpre | hpre)
    · have hself := (hr.path_iff (hr.covers_reach r.covers_self)).mpr r.covers_self
      exact ⟨r.vaddr, (hg.path_iff (hr.covers_reach r.covers_self)).mp (hpre.trans hself), r.covers_self⟩
    · have hself := (hg.path_iff (hg.covers_reach g.covers_self)).mpr g.covers_self
      exact ⟨g.vaddr, g.covers_self, (hr.path_iff (hg.covers_reach g.covers_self)).mp (hpre.trans hself)⟩
  · rintro ⟨a, hga, hra⟩
    exact List.prefix_or_prefix_of_prefix ((hg.path_iff (hg.covers_reach hga)).mpr hga)
      ((hr.path_iff (hg.covers_reach hga)).mpr hra)

/-- The page that the tables have for an address. Addresses with the same remainder modulo the reach have the same indices. -/
def Request.page (config : Config) (r : Request) : Request :=
  { r with vaddr := BitVec.ofNat 64 ((r.vaddr.toNat - r.vaddr.toNat % r.size.bytes.toNat) % reach config) }

lemma reach_pos (config : Config) : 0 < reach config := Nat.two_pow_pos _

lemma size_dvd_reach (config : Config) (size : Sdf.PageSize) : size.bytes.toNat ∣ reach config := by
  have hle := top_le_toInsert config size
  have hlt := toInsert_lt config size
  have hshift : indexShift config (topPtLevelNumber config +
    (getPtLevelToInsert config size - topPtLevelNumber config)) ≤
      indexShift config (topPtLevelNumber config) := indexShift_le (by omega)
  rw [Nat.add_sub_cancel' hle] at hshift
  rw [pageSize_eq config]
  exact pow_dvd_pow 2 (hshift.trans (Nat.le_add_right _ _))

lemma Request.page_toNat (config : Config) (r : Request) :
    (r.page config).vaddr.toNat = (r.vaddr.toNat - r.vaddr.toNat % r.size.bytes.toNat) % reach config := by
  have hlt := Nat.mod_lt (r.vaddr.toNat - r.vaddr.toNat % r.size.bytes.toNat) (reach_pos config)
  have hle := reach_le config
  change (BitVec.ofNat 64 _).toNat = _
  rw [BitVec.toNat_ofNat, Nat.mod_eq_of_lt (by omega)]

lemma Request.page_inReach (config : Config) (r : Request) : (r.page config).InReach config := by
  constructor
  · change (r.page config).vaddr.toNat % r.size.bytes.toNat = 0
    rw [Request.page_toNat, Nat.mod_mod_of_dvd _ (size_dvd_reach config r.size)]
    exact Nat.mod_eq_zero_of_dvd (Nat.dvd_sub_mod _)
  · rw [Request.page_toNat]
    exact Nat.mod_lt _ (reach_pos config)

/-- The index at a level depends on the address modulo the reach. -/
lemma getPtLevelIndex_mod {level : Nat} (htop : topPtLevelNumber config ≤ level)
    (hlevel : level < config.numPageTableLevels)
    {a b : Word} (h : a.toNat = b.toNat % reach config) : getPtLevelIndex config level a =
    getPtLevelIndex config level b := by
  have hbits : indexShift config level + indexBits config level ≤
      indexShift config (topPtLevelNumber config) + indexBits config (topPtLevelNumber config) := by
    rcases Nat.eq_or_lt_of_le htop with rfl | hlt
    · exact le_rfl
    · obtain ⟨n, rfl⟩ := Nat.exists_eq_add_of_lt hlt
      have hshift : indexShift config (topPtLevelNumber config + n) ≤ indexShift config (topPtLevelNumber config) :=
        indexShift_le (by omega)
      rw [indexShift_succ hlevel] at hshift
      exact hshift.trans (Nat.le_add_right _ _)
  have hdvd : 2 ^ indexShift config level * 2 ^ indexBits config level ∣ reach config := by
    rw [← Nat.pow_add]
    exact pow_dvd_pow 2 hbits
  rw [getPtLevelIndex_eq, getPtLevelIndex_eq, h, ← Nat.mod_mul_right_div_self, Nat.mod_mod_of_dvd _ hdvd,
    Nat.mod_mul_right_div_self]

lemma roundDown_toNat (a size : Word) : (a - a % size).toNat = a.toNat - a.toNat % size.toNat := by
  rw [BitVec.toNat_sub_of_le, BitVec.toNat_umod]
  rw [BitVec.le_def, BitVec.toNat_umod]
  exact Nat.mod_le _ _

/-- A request for its page takes the same path. -/
lemma Request.path_page (config : Config) (r : Request) : (r.page config).path config = r.path config := by
  have hle := top_le_toInsert config r.size
  have hlt := toInsert_lt config r.size
  unfold Request.path indices
  refine List.map_congr_left fun level hlevel => ?_
  obtain ⟨htop, hlast⟩ := List.mem_range'_1.mp hlevel
  change level < topPtLevelNumber config + (getPtLevelToInsert config r.size + 1 - topPtLevelNumber config) at hlast
  -- the index does not depend on the bits within the page
  have hshift : indexShift config (getPtLevelToInsert config r.size) ≤ indexShift config level := by
    have h : indexShift config (level + (getPtLevelToInsert config r.size - level)) ≤ indexShift config level :=
      indexShift_le (by omega)
    rwa [Nat.add_sub_cancel' (by omega)] at h
  have hsize : 2 ^ indexShift config level =
      r.size.bytes.toNat * 2 ^ (indexShift config level - indexShift config (getPtLevelToInsert config r.size)) := by
    rw [pageSize_eq config, ← Nat.pow_add, Nat.add_sub_cancel' hshift]
  have hdiv : (r.vaddr.toNat - r.vaddr.toNat % r.size.bytes.toNat) / r.size.bytes.toNat =
      r.vaddr.toNat / r.size.bytes.toNat := by
    have h := Nat.div_add_mod r.vaddr.toNat r.size.bytes.toNat
    refine Nat.div_eq_of_eq_mul_right (pageBytes_pos r.size) ?_
    omega
  have hmod : (r.page config).vaddr.toNat = (r.vaddr - r.vaddr % r.size.bytes).toNat % reach config := by
    rw [Request.page_toNat, roundDown_toNat]
  rw [getPtLevelIndex_mod htop (by omega) hmod, getPtLevelIndex_eq, getPtLevelIndex_eq, roundDown_toNat, hsize,
    ← Nat.div_div_eq_div_mul, hdiv, Nat.div_div_eq_div_mul]

end pages

/-! ## Address spaces -/

/-- An address space of a container, in which pages have been mapped. -/
structure Space (config : Config) (c : Container) (v : ObjectId) (granted : List Request) : Prop where
  tables : ∃ place grants, Inv config c place grants ∧
    Populated place (fun u => (grants u).map fun r => (r.path config, Cap.frame r.cap)) ∧ place v = some (v, []) ∧
      grants v = granted
  inReach : ∀ r ∈ granted, r.InReach config

/-- The capability to the frame that an address is translated to. -/
def translate (config : Config) (c : Container) (vspace : ObjectId) (a : Word) : Option Cap :=
  if a.toNat < reach config then walkVspace config c vspace a else none

namespace Space

variable {c c' : Container} {v : ObjectId} {granted : List Request} {r : Request}

lemma create {name : String} (h : createVspace config name c = .ok v c') : Space config c' v [] := by
  obtain ⟨rfl, name, level, rfl⟩ := createVspace_run h
  refine ⟨⟨_, _, (Inv.start config c).pushRoot rfl name false level, fun t r p ht hp => ?_,
    update_self _ _ _, rfl⟩, List.forall_mem_nil _⟩
  by_cases e : t = c.objects.length
  · subst e
    rw [update_self] at ht
    exact absurd (Prod.mk.inj (Option.some.inj ht)).2.symm hp
  · rw [update_of_ne e] at ht
    cases ht

/-- What leaves tables and frames as they are. -/
lemma other (h : Space config c v granted)
    (htables : ∀ (id : ObjectId) name table, c.objects[id]? = some ⟨name, .pageTable table⟩ →
      c'.objects[id]? = c.objects[id]?)
    (hframes : ∀ (id : ObjectId) name sizeBits paddr init, c.objects[id]? = some ⟨name, .frame sizeBits paddr init⟩ →
      c'.objects[id]? = c.objects[id]?) : Space config c' v granted := by
  obtain ⟨place, grants, hinv, hrest⟩ := h.tables
  exact ⟨⟨place, grants, hinv.other htables hframes, hrest⟩, h.inReach⟩

lemma push (h : Space config c v granted) (obj : NamedObject) : Space config (c.push obj) v granted :=
  h.other (fun _ _ _ hobj => (push_objects hobj).trans hobj.symm) fun _ _ _ _ _ hobj =>
    (push_objects hobj).trans hobj.symm

/-- The pages that are in the way of a request are those that have an address in common with it. -/
lemma blocked_iff (h : Space config c v granted) :
    r.Blocked config c v ↔ ∃ g ∈ granted, ∃ a, g.Covers a ∧ (r.page config).Covers a := by
  obtain ⟨place, grants, hinv, hpopulated, hplace, rfl⟩ := h.tables
  have hne : r.path config ≠ [] := by
    have hle := top_le_toInsert config r.size
    unfold Request.path indices
    dsimp only
    rw [Ne, List.map_eq_nil_iff, List.range'_eq_nil_iff]
    omega
  unfold Request.Blocked
  rw [hinv.forest.blocked_iff hpopulated hplace hne]
  constructor
  · rintro ⟨q, cap, hq, hor⟩
    obtain ⟨g, hg, e⟩ := List.mem_map.mp hq
    obtain ⟨rfl, -⟩ := Prod.mk.inj e
    refine ⟨g, hg, ((h.inReach g hg).overlap_iff (r.page_inReach config)).mp ?_⟩
    rwa [Request.path_page]
  · rintro ⟨g, hg, hoverlap⟩
    have hor := ((h.inReach g hg).overlap_iff (r.page_inReach config)).mpr hoverlap
    rw [Request.path_page] at hor
    exact ⟨g.path config, .frame g.cap, List.mem_map.mpr ⟨g, hg, rfl⟩, hor⟩

/-- A page that has no address in common with another one is mapped. -/
lemma map (h : Space config c v granted) (pdName : String) (hframe : r.FrameIn c)
    (hfree : ∀ g ∈ granted, ∀ a, ¬ (g.Covers a ∧ (r.page config).Covers a)) :
    ∃ c', mapPage config pdName v (.frame r.cap) r.size r.vaddr c = .ok () c' ∧ Space config c' v
    (r.page config :: granted) := by
  have hunblocked : ¬ r.Blocked config c v := by
    rw [h.blocked_iff]
    rintro ⟨g, hg, a, ha⟩
    exact hfree g hg a ha
  obtain ⟨place, grants, hinv, hpopulated, hplace, rfl⟩ := h.tables
  rcases mapPage_spec pdName hinv hplace hframe with ⟨hblocked, -⟩ | ⟨-, c', place', hrun, hinv', hgrown⟩
  · exact absurd hblocked hunblocked
  · have hpopulated' := hpopulated.grow (v := Cap.frame r.cap) hgrown
    have hupdate : (fun u => (update grants v (r :: grants v) u).map fun r =>
      (r.path config, Cap.frame r.cap)) = _ :=
      pages_update r
    rw [← hupdate] at hpopulated'
    have hpages : (fun u => (update grants v (r.page config :: grants v) u).map fun r =>
      (r.path config, Cap.frame r.cap)) =
        fun u => (update grants v (r :: grants v) u).map fun r => (r.path config, Cap.frame r.cap) := by
      rw [pages_update, pages_update, Request.path_page]
      rfl
    refine ⟨c', hrun, ⟨⟨place', update grants v (r.page config :: grants v), ⟨?_, fun u g hg => ?_⟩, ?_,
      hgrown.kept hplace, update_self _ _ _⟩, ?_⟩⟩
    · rw [hpages]
      exact hinv'.forest
    · by_cases e : u = v
      · subst e
        rw [update_self] at hg
        rcases List.mem_cons.mp hg with rfl | hg
        · exact hinv'.frames u r (by rw [update_self]; exact List.mem_cons_self)
        · exact hinv'.frames u g (by rw [update_self]; exact List.mem_cons_of_mem _ hg)
      · rw [update_of_ne e] at hg
        exact hinv'.frames u g (by rwa [update_of_ne e])
    · rw [hpages]
      exact hpopulated'
    · exact List.forall_mem_cons.mpr ⟨r.page_inReach config, h.inReach⟩

/-- One that has is refused. -/
lemma refuse (h : Space config c v granted) (pdName : String) (hframe : r.FrameIn c)
    (hoverlap : ∃ g ∈ granted, ∃ a, g.Covers a ∧ (r.page config).Covers a) :
    ∃ reason, mapPage config pdName v (.frame r.cap) r.size r.vaddr c = .error (.err reason) c := by
  have hblocked := (h.blocked_iff).mpr hoverlap
  obtain ⟨place, grants, hinv, -, hplace, rfl⟩ := h.tables
  rcases mapPage_spec pdName hinv hplace hframe with ⟨-, hrun⟩ | ⟨hunblocked, -⟩
  · exact hrun
  · exact absurd hblocked hunblocked

/-- An address is translated exactly if it is on a page, and then to its frame. -/
lemma translate_iff (h : Space config c v granted) {a : Word} {cap : Cap} :
    translate config c v a = some cap ↔ ∃ r ∈ granted, r.Covers a ∧ cap = .frame r.cap := by
  obtain ⟨place, grants, hinv, -, hplace, rfl⟩ := h.tables
  have hwalk : walkVspace config c v a = some cap ↔
      ∃ q, (q, cap) ∈ ((grants v).map fun r => (r.path config, Cap.frame r.cap)) ∧
        q <+: indices config a (topPtLevelNumber config) (config.numPageTableLevels - topPtLevelNumber config) :=
    hinv.forest.walk_iff hplace
  unfold translate
  split
  · rename_i ha
    rw [hwalk]
    constructor
    · rintro ⟨q, hq, hpre⟩
      obtain ⟨r, hr, e⟩ := List.mem_map.mp hq
      obtain ⟨rfl, rfl⟩ := Prod.mk.inj e
      exact ⟨r, hr, ((h.inReach r hr).path_iff ha).mp hpre, rfl⟩
    · rintro ⟨r, hr, hcovers, rfl⟩
      exact ⟨r.path config, List.mem_map.mpr ⟨r, hr, rfl⟩, ((h.inReach r hr).path_iff ha).mpr hcovers⟩
  · rename_i ha
    refine iff_of_false nofun ?_
    rintro ⟨r, hr, hcovers, -⟩
    exact ha ((h.inReach r hr).covers_reach hcovers)

end Space

/-! ## Free pages -/

/-- The small page that the tables have for a page: pages that differ by the reach share one. -/
def slot (config : Config) (page : Nat) : Nat := page % (reach config / 0x1000)

/-- The small pages of a request. -/
def Request.pages (r : Request) : List Nat :=
  List.range' (r.vaddr.toNat / r.size.bytes.toNat * (r.size.bytes.toNat / 0x1000)) (r.size.bytes.toNat / 0x1000)

/-- The small page is one that has been mapped. -/
def PageTaken (granted : List Request) (page : Nat) : Prop :=
  ∃ g ∈ granted, ∃ a : Word, g.Covers a ∧ a.toNat / 0x1000 = page

/-- The pages are free, and do not share one. -/
def Fit (config : Config) (granted : List Request) (pages : List Nat) : Prop :=
  (∀ page ∈ pages, ¬ PageTaken granted (slot config page)) ∧ (pages.map (slot config)).Nodup

section free

variable {granted : List Request} {r : Request} {pages pages' : List Nat}

lemma Request.pages_small (hsize : r.size = .small) : r.pages = [r.vaddr.toNat / 0x1000] := by
  unfold Request.pages
  rw [hsize, show Sdf.PageSize.small.bytes.toNat = 0x1000 from rfl]
  simp

lemma Request.page_small (config : Config) (hsize : r.size = .small) :
    (r.page config).vaddr.toNat = 0x1000 * slot config (r.vaddr.toNat / 0x1000) := by
  have hdvd := size_dvd_reach config .small
  change 0x1000 ∣ reach config at hdvd
  have hdown : r.vaddr.toNat - r.vaddr.toNat % 0x1000 = 0x1000 * (r.vaddr.toNat / 0x1000) := by omega
  rw [Request.page_toNat, hsize]
  change (r.vaddr.toNat - r.vaddr.toNat % 0x1000) % reach config = _
  unfold slot
  rw [hdown, ← Nat.mul_mod_mul_left, Nat.mul_div_cancel' hdvd]

lemma slot_lt (config : Config) (page : Nat) : 0x1000 * slot config page < reach config := by
  have hdvd := size_dvd_reach config .small
  have hpos := reach_pos config
  change 0x1000 ∣ reach config at hdvd
  unfold slot
  have hlt := Nat.mod_lt page (show 0 < reach config / 0x1000 by omega)
  omega

lemma slot_of_lt {page : Nat} (h : 0x1000 * page < reach config) : slot config page = page := by
  refine Nat.mod_eq_of_lt ?_
  have hdvd := size_dvd_reach config .small
  change 0x1000 ∣ reach config at hdvd
  omega

/-- The `j`-th small page of a page. -/
lemma slot_page (config : Config) (size : Sdf.PageSize) (q : Nat) {j : Nat} (hj : j < size.bytes.toNat / 0x1000) :
    slot config (q * (size.bytes.toNat / 0x1000) + j) =
      q % (reach config / size.bytes.toNat) * (size.bytes.toNat / 0x1000) + j := by
  obtain ⟨n, hn⟩ := size_dvd_reach config size
  obtain ⟨m, hm⟩ : 0x1000 ∣ size.bytes.toNat := by cases size <;> decide
  have hpos := pageBytes_pos size
  unfold slot
  rw [hn, Nat.mul_div_cancel_left _ hpos, hm, Nat.mul_assoc, Nat.mul_div_cancel_left _ (by decide),
    Nat.mul_div_cancel_left _ (by decide), Nat.mod_mul]
  rw [hm, Nat.mul_div_cancel_left _ (by decide)] at hj
  rw [Nat.mul_add_mod_of_lt hj, Nat.add_comm (q * m), Nat.add_mul_div_right j q (by omega), Nat.div_eq_of_lt hj,
    Nat.zero_add, Nat.mul_comm m, Nat.add_comm]

lemma Request.mem_pages {page : Nat} : page ∈ r.pages ↔ ∃ j < r.size.bytes.toNat / 0x1000,
    page = r.vaddr.toNat / r.size.bytes.toNat * (r.size.bytes.toNat / 0x1000) + j := by
  unfold Request.pages
  rw [List.mem_range'_1]
  constructor
  · rintro ⟨hle, hlt⟩
    exact ⟨page - r.vaddr.toNat / r.size.bytes.toNat * (r.size.bytes.toNat / 0x1000), by omega, by omega⟩
  · rintro ⟨j, hj, rfl⟩
    omega

/-- The addresses of a page are those of its small pages. -/
lemma Request.page_covers (config : Config) (r : Request) {a : Word} :
    (r.page config).Covers a ↔ ∃ page ∈ r.pages, slot config page = a.toNat / 0x1000 := by
  let size := r.size.bytes.toNat
  let q := r.vaddr.toNat / size % (reach config / size)
  have hpos : 0 < size := pageBytes_pos r.size
  obtain ⟨n, hn⟩ := size_dvd_reach config r.size
  obtain ⟨m, hm⟩ : 0x1000 ∣ size := by
    change 0x1000 ∣ r.size.bytes.toNat
    cases r.size <;> decide
  have hm' : size / 0x1000 = m := by omega
  have hvaddr : (r.page config).vaddr.toNat = 0x1000 * (q * m) := by
    have hdown : r.vaddr.toNat - r.vaddr.toNat % size = size * (r.vaddr.toNat / size) := by
      have h := Nat.div_add_mod r.vaddr.toNat size
      omega
    have hreach : reach config = size * (reach config / size) :=
      (Nat.mul_div_cancel' (size_dvd_reach config r.size)).symm
    rw [Request.page_toNat]
    change (r.vaddr.toNat - r.vaddr.toNat % size) % reach config = _
    rw [hdown, hreach, Nat.mul_mod_mul_left]
    change size * q = _
    rw [hm, Nat.mul_assoc, Nat.mul_comm m]
  have hslot : ∀ j < m, slot config (r.vaddr.toNat / size * m + j) = q * m + j := by
    intro j hj
    have h := slot_page config r.size (r.vaddr.toNat / size) (j := j) (by
      change j < size / 0x1000
      rwa [hm'])
    change slot config (r.vaddr.toNat / size * (size / 0x1000) + j) = q * (size / 0x1000) + j at h
    rwa [hm'] at h
  have hcovers : (r.page config).Covers a ↔ 0x1000 * (q * m) ≤ a.toNat ∧ a.toNat < 0x1000 * (q * m) + 0x1000 * m := by
    unfold Request.Covers
    rw [hvaddr, ← hm]
    rfl
  simp only [Request.mem_pages]
  change _ ↔ ∃ page, (∃ j < size / 0x1000, page = r.vaddr.toNat / size * (size / 0x1000) + j) ∧ _
  rw [hcovers, hm']
  generalize q * m = first at hslot ⊢
  constructor
  · rintro ⟨hle, hlt⟩
    refine ⟨_, ⟨a.toNat / 0x1000 - first, by omega, rfl⟩, ?_⟩
    rw [hslot _ (by omega)]
    omega
  · rintro ⟨page, ⟨j, hj, rfl⟩, e⟩
    rw [hslot j hj] at e
    omega

/-- A page has an address in common with another one exactly if one of its small pages is taken. -/
lemma overlap_iff_taken : (∃ g ∈ granted, ∃ a, g.Covers a ∧ (r.page config).Covers a) ↔
    ∃ page ∈ r.pages, PageTaken granted (slot config page) := by
  constructor
  · rintro ⟨g, hg, a, hga, hra⟩
    obtain ⟨page, hpage, e⟩ := (r.page_covers config).mp hra
    exact ⟨page, hpage, g, hg, a, hga, e.symm⟩
  · rintro ⟨page, hpage, g, hg, a, hga, e⟩
    exact ⟨g, hg, a, hga, (r.page_covers config).mpr ⟨page, hpage, e.symm⟩⟩

lemma taken_cons {q : Nat} : PageTaken (r.page config :: granted) q ↔ q ∈ r.pages.map (slot config) ∨
    PageTaken granted q := by
  unfold PageTaken
  rw [List.exists_mem_cons_iff, List.mem_map]
  refine or_congr_left ⟨?_, ?_⟩
  · rintro ⟨a, ha, rfl⟩
    exact (r.page_covers config).mp ha
  · rintro ⟨page, hpage, rfl⟩
    have hlt := slot_lt config page
    have hle := reach_le config
    have ha : (BitVec.ofNat 64 (0x1000 * slot config page)).toNat / 0x1000 = slot config page := by
      rw [BitVec.toNat_ofNat, Nat.mod_eq_of_lt (by omega), Nat.mul_div_cancel_left _ (by decide)]
    exact ⟨_, (r.page_covers config).mpr ⟨page, hpage, ha.symm⟩, ha⟩

/-- The small pages of a page are different ones. -/
lemma Request.pages_nodup (config : Config) (r : Request) : (r.pages.map (slot config)).Nodup := by
  refine (List.nodup_range' ..).map_on fun page hpage page' hpage' e => ?_
  obtain ⟨j, hj, rfl⟩ := Request.mem_pages.mp hpage
  obtain ⟨j', hj', rfl⟩ := Request.mem_pages.mp hpage'
  rw [slot_page config r.size _ hj, slot_page config r.size _ hj'] at e
  omega

lemma fit_nil : Fit config granted [] := ⟨List.forall_mem_nil _, List.nodup_nil⟩

lemma fit_pages : Fit config granted r.pages ↔ ∀ page ∈ r.pages, ¬ PageTaken granted (slot config page) :=
  and_iff_left (r.pages_nodup config)

lemma Fit.left (h : Fit config granted (pages ++ pages')) : Fit config granted pages := by
  obtain ⟨hfree, hnodup⟩ := h
  rw [List.map_append, List.nodup_append] at hnodup
  exact ⟨fun page hpage => hfree page (List.mem_append_left _ hpage), hnodup.1⟩

/-- The pages have been mapped. -/
def Extends (config : Config) (granted : List Request) (pages : List Nat) (granted' : List Request) : Prop :=
  ∀ q, PageTaken granted' q ↔ q ∈ pages.map (slot config) ∨ PageTaken granted q

lemma Extends.refl (config : Config) (granted : List Request) : Extends config granted [] granted := fun q => by simp

lemma Extends.page (config : Config) (granted : List Request) (r : Request) :
    Extends config granted r.pages (r.page config :: granted) := fun _ => taken_cons

lemma Extends.trans {granted' granted'' : List Request} (h : Extends config granted pages granted')
    (h' : Extends config granted' pages' granted'') : Extends config granted (pages ++ pages') granted'' := by
  intro q
  rw [h' q, h q, List.map_append, List.mem_append]
  tauto

/-- One after the other. -/
lemma Extends.fit_append {granted' : List Request} (h : Extends config granted pages granted') :
    Fit config granted (pages ++ pages') ↔ Fit config granted pages ∧ Fit config granted' pages' := by
  unfold Fit
  rw [List.map_append, List.nodup_append]
  constructor
  · rintro ⟨hfree, hnodup, hnodup', hapart⟩
    refine ⟨⟨fun page hpage => hfree page (List.mem_append_left _ hpage), hnodup⟩, fun page hpage htaken => ?_, hnodup'⟩
    rcases (h _).mp htaken with hown | htaken
    · exact hapart _ hown _ (List.mem_map_of_mem hpage) rfl
    · exact hfree page (List.mem_append_right _ hpage) htaken
  · rintro ⟨⟨hown, hnodup⟩, hrest, hnodup'⟩
    refine ⟨fun page hpage htaken => ?_, hnodup, hnodup', fun q hq q' hq' e => ?_⟩
    · rcases List.mem_append.mp hpage with hpage | hpage
      · exact hown page hpage htaken
      · exact hrest page hpage ((h _).mpr (.inr htaken))
    · obtain ⟨page, hpage, rfl⟩ := List.mem_map.mp hq'
      exact hrest page hpage ((h _).mpr (.inl (e ▸ hq)))

end free

namespace Space

variable {c : Container} {v : ObjectId} {granted : List Request} {r : Request}

/-- Mapping a page works exactly if its small pages are free. -/
lemma map_or_refuse (h : Space config c v granted) (pdName : String) (hframe : r.FrameIn c) :
    (Fit config granted r.pages ∧
      ∃ c', mapPage config pdName v (.frame r.cap) r.size r.vaddr c = .ok () c' ∧ Space config c' v (r.page config :: granted)) ∨
    (¬ Fit config granted r.pages ∧
      ∃ reason, mapPage config pdName v (.frame r.cap) r.size r.vaddr c = .error (.err reason) c) := by
  rw [fit_pages]
  by_cases hoverlap : ∃ page ∈ r.pages, PageTaken granted (slot config page)
  · refine .inr ⟨?_, h.refuse pdName hframe (overlap_iff_taken.mpr hoverlap)⟩
    obtain ⟨page, hpage, htaken⟩ := hoverlap
    exact fun hfree => hfree page hpage htaken
  · have hfree := mt overlap_iff_taken.mp hoverlap
    exact .inl ⟨fun page hpage htaken => hoverlap ⟨page, hpage, htaken⟩,
      h.map pdName hframe fun g hg a ha => hfree ⟨g, hg, a, ha⟩⟩

end Space

end NexsKernel.Capdl
