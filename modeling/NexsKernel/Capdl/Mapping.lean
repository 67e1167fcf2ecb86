import NexsKernel.Capdl.Walk

/-!
# Address spaces after any requests

The indices of an address determine its page: two addresses have the same indices down to a level exactly if they
agree in the bits above that level's shift. So in a container that the builder has worked on, walking the tables of an
address space yields at each address the frame of the page that was mapped there, and nothing elsewhere
(`mapPage_reachable`).
-/

namespace NexsKernel.Capdl

open Sdf Trie
open Function (update update_self update_of_ne update_eq_self_iff)

variable {config : Config}

/-! ## Indices -/

lemma indexBits_le (config : Config) (level : Nat) : indexBits config level ≤ 10 := by
  unfold indexBits
  split <;> omega

lemma getPtLevelIndex_eq (config : Config) (level : Nat) (vaddr : Word) :
    getPtLevelIndex config level vaddr = vaddr.toNat / 2 ^ indexShift config level % 2 ^ indexBits config level := by
  have hle := indexBits_le config level
  have hlt : 2 ^ indexBits config level < 2 ^ 64 := Nat.pow_lt_pow_right (by omega) (by omega)
  have hmask : ((1 : Word) <<< indexBits config level - 1).toNat = 2 ^ indexBits config level - 1 := by
    have hshift : ((1 : Word) <<< indexBits config level).toNat = 2 ^ indexBits config level := by
      rw [BitVec.toNat_shiftLeft, Nat.shiftLeft_eq]
      exact (Nat.mod_eq_of_lt (by simpa using hlt)).trans (Nat.one_mul _)
    have hpos : 0 < 2 ^ indexBits config level := Nat.two_pow_pos _
    rw [BitVec.toNat_sub_of_le (by rw [BitVec.le_def, hshift]; exact hpos), hshift]
    rfl
  unfold getPtLevelIndex
  rw [BitVec.toNat_and, hmask, BitVec.toNat_ushiftRight, Nat.shiftRight_eq_div_pow, Nat.and_two_pow_sub_one_eq_mod]

lemma numPageTableLevels_ge (config : Config) : 3 ≤ config.numPageTableLevels := by
  unfold Config.numPageTableLevels
  split <;> omega

lemma indexShift_last (config : Config) : indexShift config (config.numPageTableLevels - 1) = 12 := by
  have hlevels := numPageTableLevels_ge config
  have hnone : config.numPageTableLevels - (config.numPageTableLevels - 1 + 1) = 0 := by omega
  unfold indexShift
  rw [hnone]
  rfl

lemma indexShift_succ {level : Nat} (h : level + 1 < config.numPageTableLevels) :
    indexShift config level = indexShift config (level + 1) + indexBits config (level + 1) := by
  unfold indexShift
  have hn : config.numPageTableLevels - (level + 1) = config.numPageTableLevels - (level + 1 + 1) + 1 := by omega
  rw [hn, List.range'_succ, List.map_cons, List.sum_cons]
  omega

/-- The addresses that the tables can translate. -/
def reach (config : Config) : Nat :=
  2 ^ (indexShift config (topPtLevelNumber config) + indexBits config (topPtLevelNumber config))

lemma topPtLevelNumber_le (config : Config) : topPtLevelNumber config ≤ 1 := by
  unfold topPtLevelNumber
  split <;> omega

/-- The same indices are the same bits above the shift of the last one. -/
lemma indices_eq_iff {a b : Word} (ha : a.toNat < reach config) (hb : b.toNat < reach config) {n : Nat}
    (hn : topPtLevelNumber config + n < config.numPageTableLevels) :
    indices config a (topPtLevelNumber config) (n + 1) = indices config b (topPtLevelNumber config) (n + 1) ↔
      a.toNat / 2 ^ indexShift config (topPtLevelNumber config + n) =
        b.toNat / 2 ^ indexShift config (topPtLevelNumber config + n) := by
  induction n with
  | zero =>
    have htop : ∀ {x : Word}, x.toNat < reach config →
        getPtLevelIndex config (topPtLevelNumber config) x =
          x.toNat / 2 ^ indexShift config (topPtLevelNumber config) := by
      intro x hx
      rw [getPtLevelIndex_eq]
      refine Nat.mod_eq_of_lt (Nat.div_lt_of_lt_mul ?_)
      rwa [← Nat.pow_add]
    rw [indices_succ, indices_succ, htop ha, htop hb]
    simp [indices]
  | succ n ih =>
    have hshift : indexShift config (topPtLevelNumber config + n) =
        indexShift config (topPtLevelNumber config + n + 1) + indexBits config (topPtLevelNumber config + n + 1) :=
      indexShift_succ hn
    have hdiv : ∀ x : Nat, x / 2 ^ indexShift config (topPtLevelNumber config + n) =
        x / 2 ^ indexShift config (topPtLevelNumber config + (n + 1)) / 2 ^ indexBits config
          (topPtLevelNumber config + (n + 1)) := by
      intro x
      rw [hshift, Nat.pow_add, Nat.div_div_eq_div_mul]
      rfl
    rw [indices_concat, indices_concat config b]
    constructor
    · intro h
      obtain ⟨hpre, hlast⟩ := List.append_inj' h rfl
      have hquot := (ih (by omega)).mp hpre
      rw [hdiv, hdiv b.toNat] at hquot
      have hmod := List.singleton_inj.mp hlast
      rw [getPtLevelIndex_eq, getPtLevelIndex_eq] at hmod
      rw [← Nat.div_add_mod (a.toNat / _) (2 ^ indexBits config (topPtLevelNumber config + (n + 1))), hquot, hmod,
        Nat.div_add_mod]
    · intro h
      have hpre := (ih (by omega)).mpr (by rw [hdiv, hdiv b.toNat, h])
      rw [hpre, getPtLevelIndex_eq, getPtLevelIndex_eq, h]

lemma reach_bounds (config : Config) : config.userTop.toNat ≤ reach config ∧ reach config ≤ 2 ^ 48 := by
  unfold Config.userTop reach indexShift indexBits topPtLevelNumber Config.numPageTableLevels
    Config.aarch64VspaceS2StartL1
  cases ha : config.arch with
  | aarch64 =>
    by_cases hh : config.hypervisor = true
    · rcases config.pa_size ha with hp | hp <;> simp [hh, hp, List.range']
    · simp [hh, List.range']
  | riscv64 => simp [List.range']
  | x86_64 => simp [List.range']

lemma userTop_le (config : Config) : config.userTop.toNat ≤ reach config := (reach_bounds config).1

lemma reach_le (config : Config) : reach config ≤ 2 ^ 48 := (reach_bounds config).2

lemma indexShift_le {level n : Nat} (h : level + n < config.numPageTableLevels) :
    indexShift config (level + n) ≤ indexShift config level := by
  induction n with
  | zero => exact le_rfl
  | succ n ih =>
    have hshift : indexShift config (level + n) =
      indexShift config (level + n + 1) + indexBits config (level + n + 1) :=
      indexShift_succ h
    have hle := ih (by omega)
    rw [← Nat.add_assoc]
    omega

/-! ## Pages -/

lemma toInsert_lt (config : Config) (size : Sdf.PageSize) : getPtLevelToInsert config size <
    config.numPageTableLevels := by
  have hlevels := numPageTableLevels_ge config
  cases size <;> dsimp only [getPtLevelToInsert] <;> omega

lemma top_le_toInsert (config : Config) (size : Sdf.PageSize) : topPtLevelNumber config ≤
    getPtLevelToInsert config size := by
  have hlevels := numPageTableLevels_ge config
  have htop := topPtLevelNumber_le config
  cases size <;> dsimp only [getPtLevelToInsert] <;> omega

/-- A page has the size that the level of its entry covers. -/
lemma pageSize_eq (config : Config) (size : Sdf.PageSize) :
    size.bytes.toNat = 2 ^ indexShift config (getPtLevelToInsert config size) := by
  have hlevels := numPageTableLevels_ge config
  have htop := topPtLevelNumber_le config
  cases size with
  | small =>
    dsimp only [getPtLevelToInsert]
    rw [indexShift_last]
    rfl
  | large =>
    have hlast : config.numPageTableLevels - 2 + 1 = config.numPageTableLevels - 1 := by omega
    have hbits : indexBits config (config.numPageTableLevels - 1) = 9 := by
      unfold indexBits
      rw [if_neg]
      omega
    dsimp only [getPtLevelToInsert]
    rw [indexShift_succ (by omega), hlast, indexShift_last, hbits]
    rfl

/-- The address is aligned, and the user can have it. -/
structure Request.Valid (config : Config) (r : Request) : Prop where
  aligned : r.vaddr.toNat % r.size.bytes.toNat = 0
  lt : r.vaddr < config.userTop

/-- The addresses of the page. -/
def Request.Covers (r : Request) (a : Word) : Prop :=
  r.vaddr.toNat ≤ a.toNat ∧ a.toNat < r.vaddr.toNat + r.size.bytes.toNat

instance (r : Request) (a : Word) : Decidable (r.Covers a) :=
  inferInstanceAs (Decidable (_ ∧ _))

/-- The address is aligned, and the tables can translate it. -/
structure Request.InReach (config : Config) (r : Request) : Prop where
  aligned : r.vaddr.toNat % r.size.bytes.toNat = 0
  lt : r.vaddr.toNat < reach config

lemma Request.Valid.inReach {r : Request} (h : r.Valid config) : r.InReach config :=
  ⟨h.aligned, lt_of_lt_of_le (BitVec.lt_def.mp h.lt) (userTop_le config)⟩

/-- The addresses of the page are those with its bits above the shift. -/
lemma Request.InReach.covers_iff {r : Request} (h : r.InReach config) (a : Word) :
    r.Covers a ↔ r.vaddr.toNat / 2 ^ indexShift config (getPtLevelToInsert config r.size) =
      a.toNat / 2 ^ indexShift config (getPtLevelToInsert config r.size) := by
  have haligned := h.aligned
  unfold Request.Covers
  have hpos := Nat.two_pow_pos (indexShift config (getPtLevelToInsert config r.size))
  rw [pageSize_eq config] at haligned ⊢
  generalize 2 ^ indexShift config (getPtLevelToInsert config r.size) = s at haligned hpos
  have hdiv := Nat.div_add_mod r.vaddr.toNat s
  rw [haligned, Nat.add_zero] at hdiv
  constructor
  · rintro ⟨hle, hlt⟩
    refine (Nat.div_eq_of_lt_le ?_ ?_).symm
    · rwa [Nat.mul_comm, hdiv]
    · rw [Nat.succ_mul, Nat.mul_comm, hdiv]
      exact hlt
  · intro heq
    have ha := Nat.div_add_mod a.toNat s
    have hmod := Nat.mod_lt a.toNat hpos
    rw [heq] at hdiv
    omega

/-- The tables can translate the addresses of the page. -/
lemma Request.InReach.covers_reach {r : Request} (h : r.InReach config) {a : Word} (ha : r.Covers a) :
    a.toNat < Capdl.reach config := by
  have hlt := toInsert_lt config r.size
  have hle := top_le_toInsert config r.size
  have hshift : indexShift config (topPtLevelNumber config +
    (getPtLevelToInsert config r.size - topPtLevelNumber config)) ≤
      indexShift config (topPtLevelNumber config) := indexShift_le (by omega)
  rw [Nat.add_sub_cancel' hle] at hshift
  have hsplit : Capdl.reach config = 2 ^ indexShift config (getPtLevelToInsert config r.size) *
      2 ^ (indexShift config (topPtLevelNumber config) + indexBits config (topPtLevelNumber config) -
        indexShift config (getPtLevelToInsert config r.size)) := by
    rw [← Nat.pow_add, Nat.add_sub_cancel' (by omega)]
    rfl
  have hdiv := Nat.div_lt_of_lt_mul (hsplit ▸ h.lt)
  rw [(h.covers_iff a).mp ha] at hdiv
  rw [hsplit, Nat.mul_comm]
  exact (Nat.div_lt_iff_lt_mul (Nat.two_pow_pos _)).mp hdiv

/-- An address lies on the page exactly if its indices begin with the path. -/
lemma Request.InReach.path_iff {r : Request} (h : r.InReach config) {a : Word} (ha : a.toNat < Capdl.reach config) :
    r.path config <+: indices config a (topPtLevelNumber config) (config.numPageTableLevels - topPtLevelNumber config) ↔
      r.Covers a := by
  have hlt := toInsert_lt config r.size
  have hle := top_le_toInsert config r.size
  have hn : getPtLevelToInsert config r.size + 1 - topPtLevelNumber config =
      getPtLevelToInsert config r.size - topPtLevelNumber config + 1 := by omega
  have htake : (indices config a (topPtLevelNumber config) (config.numPageTableLevels - topPtLevelNumber config)).take
      (r.path config).length =
        indices config a (topPtLevelNumber config) (getPtLevelToInsert config r.size -
          topPtLevelNumber config + 1) := by
    have hlen : (r.path config).length = getPtLevelToInsert config r.size - topPtLevelNumber config + 1 := by
      unfold Request.path indices
      rw [List.length_map, List.length_range', hn]
    rw [hlen, indices_take config a _ (by omega)]
  rw [List.prefix_iff_eq_take, htake, h.covers_iff]
  unfold Request.path
  dsimp only
  rw [hn, indices_eq_iff h.lt ha (by omega), Nat.add_sub_cancel' hle]

/-! ## Runs -/

/-- What the builder has done to a container: it has created address spaces, mapped pages in them or tried to, and done
other things that leave tables and frames as they are. `spaces` are the address spaces and the requests that each was
granted. -/
inductive Reach (config : Config) : Container → (ObjectId → Option (List Request)) → Prop where
  | start (c : Container) : Reach config c fun _ => none
  | vspace {c c' : Container} {spaces : ObjectId → Option (List Request)} {name : String} {v : ObjectId} :
    Reach config c spaces →
    createVspace config name c = .ok v c' →
    Reach config c' (update spaces v (some []))
  | ept {c c' : Container} {spaces : ObjectId → Option (List Request)} {name : String} {v : ObjectId} :
    Reach config c spaces →
    createVspaceEpt config name c = .ok v c' →
    Reach config c' (update spaces v (some []))
  | map {c c' : Container} {spaces : ObjectId → Option (List Request)} {v : ObjectId} {granted : List Request}
      {r : Request} {pdName : String} :
    Reach config c spaces →
    spaces v = some granted → r.Valid config → r.FrameIn c →
    mapPage config pdName v (.frame r.cap) r.size r.vaddr c = .ok () c' →
    Reach config c' (update spaces v (some (r :: granted)))
  | refused {c c' : Container} {spaces : ObjectId → Option (List Request)} {v : ObjectId} {granted : List Request}
      {r : Request} {pdName : String} {e : Failure} :
    Reach config c spaces →
    spaces v = some granted → r.Valid config → r.FrameIn c →
    mapPage config pdName v (.frame r.cap) r.size r.vaddr c = .error e c' →
    Reach config c' spaces
  | other {c c' : Container} {spaces : ObjectId → Option (List Request)} :
    Reach config c spaces →
    (∀ (id : ObjectId) name table, c.objects[id]? = some ⟨name, .pageTable table⟩ → c'.objects[id]? = c.objects[id]?) →
    (∀ (id : ObjectId) name sizeBits paddr init, c.objects[id]? = some ⟨name, .frame sizeBits paddr init⟩ →
      c'.objects[id]? = c.objects[id]?) →
    Reach config c' spaces

/-- The invariant of a run. -/
structure RunInv (config : Config) (c : Container) (spaces : ObjectId → Option (List Request)) : Prop where
  inv : ∃ place, Inv config c place (fun v => (spaces v).getD []) ∧ ∀ v, spaces v ≠ none → place v = some (v, [])
  valid : ∀ v granted, spaces v = some granted → ∀ r ∈ granted, r.Valid config

section steps

variable {c c' : Container} {place : ObjectId → Option (ObjectId × List Nat)} {granted : ObjectId → List Request}
  {spaces : ObjectId → Option (List Request)} {v : ObjectId} {r : Request}

/-- A request to map a page of an address space is granted or refused. -/
lemma mapPage_spec (pdName : String) (h : Inv config c place granted) (hv : place v = some (v, []))
    (hframe : r.FrameIn c) :
    (r.Blocked config c v ∧ ∃ reason, mapPage config pdName v (.frame r.cap) r.size r.vaddr c =
      .error (.err reason) c) ∨
    (¬ r.Blocked config c v ∧ ∃ c' place', mapPage config pdName v (.frame r.cap) r.size r.vaddr c = .ok () c' ∧
      Inv config c' place' (update granted v (r :: granted v)) ∧ Grown place place' v (r.path config)) := by
  have hle := top_le_toInsert config r.size
  have hn : getPtLevelToInsert config r.size + 1 - topPtLevelNumber config =
      getPtLevelToInsert config r.size - topPtLevelNumber config + 1 := by omega
  have ht : place v = some (v, indices config r.vaddr (topPtLevelNumber config)
    (topPtLevelNumber config - topPtLevelNumber config)) := by
    rw [hv, Nat.sub_self]
    rfl
  have hpath : indices config r.vaddr (topPtLevelNumber config)
      (getPtLevelToInsert config r.size - topPtLevelNumber config + 1) = r.path config := by
    rw [← hn]
    rfl
  have hspec := mapRecursive_spec pdName h hframe (Nat.add_sub_cancel' hle) le_rfl (toInsert_lt config r.size) ht
  rw [hpath] at hspec
  exact hspec

lemma getD_update (x : List Request) :
    (fun u => (update spaces v (some x) u).getD []) = update (fun u => (spaces u).getD []) v x := by
  funext u
  by_cases e : u = v
  · subst e
    rw [update_self, update_self]
    rfl
  · rw [update_of_ne e, update_of_ne e]

/-- Without address spaces no table has a place. -/
lemma Inv.start (config : Config) (c : Container) : Inv config c (fun _ => none) fun _ => [] := by
  constructor
  · constructor <;> intros <;> contradiction
  · exact nofun

lemma RunInv.start (c : Container) : RunInv config c fun _ => none := by
  refine ⟨⟨fun _ => none, Inv.start config c, ?_⟩, nofun⟩
  intro v hv
  exact absurd rfl hv

/-- A new root is an address space of its own. -/
lemma Inv.pushRoot (h : Inv config c place granted) (hunused : granted c.objects.length = []) (name : String)
    (x86Ept : Bool) (level : Nat) :
    Inv config (c.push ⟨name, .pageTable ⟨x86Ept, true, level, []⟩⟩)
      (update place c.objects.length (some (c.objects.length, []))) granted := by
  have hfresh := h.place_fresh
  constructor
  · have hlast : (c.push ⟨name, .pageTable ⟨x86Ept, true, level, []⟩⟩).objects[c.objects.length]? =
        some ⟨name, .pageTable ⟨x86Ept, true, level, []⟩⟩ := List.getElem?_concat_length
    have hnew := tables_of_table hlast
    have hsame : ∀ t, place t ≠ none →
        (c.push ⟨name, .pageTable ⟨x86Ept, true, level, []⟩⟩).tables t = c.tables t := by
      intro t ht
      obtain ⟨x, hx⟩ := Option.ne_none_iff_exists'.mp ht
      exact push_tables (lt_of_tables (h.forest.table hx))
    have hforest := h.forest.addRoot hfresh hsame hnew fun _ => rfl
    convert hforest using 1
    funext u
    by_cases e : u = c.objects.length
    · subst e
      rw [update_self, hunused]
      rfl
    · rw [update_of_ne e]
  · exact fun u g hg => (h.frames u g hg).push _

lemma RunInv.push (h : RunInv config c spaces) (name : String) (x86Ept : Bool) (level : Nat) :
    RunInv config (c.push ⟨name, .pageTable ⟨x86Ept, true, level, []⟩⟩)
      (update spaces c.objects.length (some [])) := by
  obtain ⟨place, hinv, hroots⟩ := h.inv
  have hunused : spaces c.objects.length = none := by
    by_contra hne
    exact absurd ((hroots _ hne).symm.trans hinv.place_fresh) nofun
  have hgranted : (fun u => (update spaces c.objects.length (some []) u).getD []) = fun u =>
    (spaces u).getD [] := by
    rw [getD_update]
    refine update_eq_self_iff.mpr ?_
    rw [hunused]
    rfl
  constructor
  · refine ⟨update place c.objects.length (some (c.objects.length, [])), ?_, ?_⟩
    · rw [hgranted]
      exact hinv.pushRoot (by rw [hunused]; rfl) name x86Ept level
    · intro u hu
      by_cases e : u = c.objects.length
      · subst e
        exact update_self _ _ _
      · rw [update_of_ne e] at hu
        rw [update_of_ne e]
        exact hroots u hu
  · intro u l hl g hg
    by_cases e : u = c.objects.length
    · subst e
      rw [update_self] at hl
      obtain rfl := Option.some.inj hl
      exact absurd hg List.not_mem_nil
    · rw [update_of_ne e] at hl
      exact h.valid u l hl g hg

lemma createVspace_run {name : String} (h : createVspace config name c = .ok v c') :
    v = c.objects.length ∧ ∃ name level, c' = c.push ⟨name, .pageTable ⟨false, true, level, []⟩⟩ := by
  have hlevels := numPageTableLevels_ge config
  have htop := topPtLevelNumber_le config
  obtain ⟨levelName, hname⟩ := getPtLevelName_run config (show topPtLevelNumber config <
    config.numPageTableLevels by omega)
  unfold createVspace at h
  rw [Failing.bind_ok (hname c)] at h
  cases h
  exact ⟨rfl, _, _, rfl⟩

lemma createVspaceEpt_run {name : String} (h : createVspaceEpt config name c = .ok v c') :
    v = c.objects.length ∧ ∃ name level, c' = c.push ⟨name, .pageTable ⟨true, true, level, []⟩⟩ := by
  have hlevels := numPageTableLevels_ge config
  obtain ⟨levelName, hname⟩ := getPtLevelName_run config (show 0 < config.numPageTableLevels by omega)
  unfold createVspaceEpt at h
  by_cases harch : config.arch = .x86_64
  · rw [if_neg (not_not_intro harch)] at h
    replace h := (Failing.bind_ok (hname c)).symm.trans h
    cases h
    exact ⟨rfl, _, _, rfl⟩
  · rw [if_pos harch] at h
    cases h

lemma RunInv.map {granted : List Request} {pdName : String} (h : RunInv config c spaces) (hv : spaces v = some granted)
    (hvalid : r.Valid config) (hframe : r.FrameIn c)
    (hrun : mapPage config pdName v (.frame r.cap) r.size r.vaddr c = .ok () c') :
    RunInv config c' (update spaces v (some (r :: granted))) := by
  obtain ⟨place, hinv, hroots⟩ := h.inv
  rcases mapPage_spec pdName hinv (hroots v (by rw [hv]; nofun)) hframe with ⟨-, reason, herr⟩ | ⟨-, c'', place', hok,
    hinv', hgrown⟩
  · cases hrun.symm.trans herr
  · cases hrun.symm.trans hok
    rw [show (spaces v).getD [] = granted by rw [hv]; rfl] at hinv'
    refine ⟨⟨place', by rwa [getD_update], ?_⟩, ?_⟩
    · intro u hu
      refine hgrown.kept (hroots u ?_)
      by_cases e : u = v
      · subst e
        rw [hv]
        exact nofun
      · rwa [update_of_ne e] at hu
    · intro u l hl g hg
      by_cases e : u = v
      · subst e
        rw [update_self] at hl
        obtain rfl := Option.some.inj hl
        rcases List.mem_cons.mp hg with rfl | hg
        · exact hvalid
        · exact h.valid u granted hv g hg
      · rw [update_of_ne e] at hl
        exact h.valid u l hl g hg

lemma RunInv.refused {granted : List Request} {pdName : String} {e : Failure} (h : RunInv config c spaces)
    (hv : spaces v = some granted) (hframe : r.FrameIn c)
    (hrun : mapPage config pdName v (.frame r.cap) r.size r.vaddr c = .error e c') : c' = c := by
  obtain ⟨place, hinv, hroots⟩ := h.inv
  rcases mapPage_spec pdName hinv (hroots v (by rw [hv]; nofun)) hframe with ⟨-, reason, herr⟩ | ⟨-, c'',
    place', hok, -⟩
  · cases hrun.symm.trans herr
    rfl
  · cases hrun.symm.trans hok

/-- What leaves tables and frames as they are. -/
lemma Inv.other (h : Inv config c place granted)
    (htables : ∀ (id : ObjectId) name table, c.objects[id]? = some ⟨name, .pageTable table⟩ →
      c'.objects[id]? = c.objects[id]?)
    (hframes : ∀ (id : ObjectId) name sizeBits paddr init, c.objects[id]? = some ⟨name, .frame sizeBits paddr init⟩ →
      c'.objects[id]? = c.objects[id]?) : Inv config c' place granted := by
  constructor
  · refine h.forest.congr fun t ht => ?_
    obtain ⟨x, hx⟩ := Option.ne_none_iff_exists'.mp ht
    obtain ⟨name, table, he⟩ := exists_table (h.forest.table hx)
    unfold Container.tables
    rw [htables t name table he]
  · intro u g hg
    obtain ⟨name, sizeBits, paddr, init, he⟩ := h.frames u g hg
    exact ⟨name, sizeBits, paddr, init, (hframes _ _ _ _ _ he).trans he⟩

lemma RunInv.other (h : RunInv config c spaces)
    (htables : ∀ (id : ObjectId) name table, c.objects[id]? = some ⟨name, .pageTable table⟩ →
      c'.objects[id]? = c.objects[id]?)
    (hframes : ∀ (id : ObjectId) name sizeBits paddr init, c.objects[id]? = some ⟨name, .frame sizeBits paddr init⟩ →
      c'.objects[id]? = c.objects[id]?) : RunInv config c' spaces := by
  obtain ⟨place, hinv, hroots⟩ := h.inv
  exact ⟨⟨place, hinv.other htables hframes, hroots⟩, h.valid⟩

end steps

/-- Every step keeps the invariant. -/
lemma Reach.runInv {c : Container} {spaces : ObjectId → Option (List Request)} (h : Reach config c spaces) :
    RunInv config c spaces := by
  induction h with
  | start c => exact RunInv.start c
  | vspace _ hrun ih =>
    obtain ⟨rfl, name, level, rfl⟩ := createVspace_run hrun
    exact ih.push name false level
  | ept _ hrun ih =>
    obtain ⟨rfl, name, level, rfl⟩ := createVspaceEpt_run hrun
    exact ih.push name true level
  | map _ hv hvalid hframe hrun ih => exact ih.map hv hvalid hframe hrun
  | refused _ hv _ hframe hrun ih =>
    obtain rfl := ih.refused hv hframe hrun
    exact ih
  | other _ htables hframes ih => exact ih.other htables hframes

/-- Walking an address space yields the frames of the requests that were granted and nothing else, and a request is
refused exactly if something is in its way, without any effect. -/
theorem mapPage_reachable {c : Container} {spaces : ObjectId → Option (List Request)} {v : ObjectId}
    {granted : List Request} (h : Reach config c spaces) (hv : spaces v = some granted) :
    (∀ r ∈ granted, ∀ a, r.Covers a → walkVspace config c v a = some (.frame r.cap)) ∧
    (∀ a : Word, a.toNat < reach config → (∀ r ∈ granted, ¬ r.Covers a) → walkVspace config c v a = none) ∧
    ∀ (r : Request) (pdName : String), r.Valid config → r.FrameIn c →
      (r.Blocked config c v →
        ∃ reason, mapPage config pdName v (.frame r.cap) r.size r.vaddr c = .error (.err reason) c) ∧
      (¬ r.Blocked config c v → ∃ c', mapPage config pdName v (.frame r.cap) r.size r.vaddr c = .ok () c') := by
  have hinv := h.runInv
  obtain ⟨place, hforest, hroots⟩ := hinv.inv
  have hplace := hroots v (by rw [hv]; nofun)
  have hgranted : (spaces v).getD [] = granted := by rw [hv]; rfl
  have hwalk : ∀ {a cap}, walkVspace config c v a = some cap ↔
      ∃ q, (q, cap) ∈ (granted.map fun r => (r.path config, Cap.frame r.cap)) ∧
        q <+: indices config a (topPtLevelNumber config) (config.numPageTableLevels - topPtLevelNumber config) := by
    intro a cap
    rw [← hgranted]
    exact hforest.forest.walk_iff hplace
  refine ⟨fun r hr a ha => ?_, fun a ha hnone => ?_, fun r pdName hvalid hframe => ?_⟩
  · have hvalid := (hinv.valid v granted hv r hr).inReach
    exact hwalk.mpr ⟨r.path config, List.mem_map.mpr ⟨r, hr, rfl⟩, (hvalid.path_iff (hvalid.covers_reach ha)).mpr ha⟩
  · cases hw : walkVspace config c v a with
    | none => rfl
    | some cap =>
      obtain ⟨q, hq, hpre⟩ := hwalk.mp hw
      obtain ⟨r, hr, e⟩ := List.mem_map.mp hq
      obtain ⟨rfl, rfl⟩ := Prod.mk.inj e
      exact absurd (((hinv.valid v granted hv r hr).inReach.path_iff ha).mp hpre) (hnone r hr)
  · rcases mapPage_spec pdName hforest hplace hframe with ⟨hb, herr⟩ | ⟨hb, c', place', hok, -⟩
    · exact ⟨fun _ => herr, fun hn => absurd hb hn⟩
    · exact ⟨fun hb' => absurd hb' hb, fun _ => ⟨c', hok⟩⟩

/-- On 40 bits of physical addresses under the hypervisor, a large page is mapped into a new address space, and then a
small page that it covers is refused. -/
theorem mapPage_reachable_large :
    let config : Config := ⟨.aarch64, true, false, 1, some 40, none, ⟨11, 4, 6, 5, 13, 12, 21, 12, 12⟩,
      fun _ => .inl rfl⟩
    let large : Request := ⟨0x200000, .large, ⟨0, ⟨true, false, false, false⟩, true, false⟩⟩
    let small : Request := ⟨0x3ff000, .small, ⟨0, ⟨true, true, false, false⟩, true, false⟩⟩
    ∃ c, walkVspace config c 1 0x234567 = some (.frame large.cap) ∧ walkVspace config c 1 0x400000 = none ∧
      ∃ reason, mapPage config "pd" 1 (.frame small.cap) small.size small.vaddr c = .error (.err reason) c := by
  intro config large small
  let c0 : Container := ⟨[⟨"frame", .frame 21 none []⟩], []⟩
  have h1 : createVspace config "pd" c0 = .ok 1 (c0.push ⟨"pud_pd", .pageTable ⟨false, true, 1, []⟩⟩) := rfl
  have hvalid : large.Valid config := ⟨by decide, by decide⟩
  let s0 : ObjectId → Option (List Request) := fun _ => none
  let s1 := update s0 1 (some [])
  let s2 := update s1 1 (some [large])
  let s3 := update s2 1 (some [small, large])
  have hreach : Reach config _ s1 := .vspace (.start c0) h1
  have hframe : large.FrameIn (c0.push ⟨"pud_pd", .pageTable ⟨false, true, 1, []⟩⟩) := ⟨"frame", 21, none, [], rfl⟩
  have hspaces : s1 1 = some [] := update_self _ _ _
  have hfree : ¬ large.Blocked config (c0.push ⟨"pud_pd", .pageTable ⟨false, true, 1, []⟩⟩) 1 :=
    not_blocked_of_empty fun _ => rfl
  obtain ⟨c, hrun⟩ := ((mapPage_reachable hreach hspaces).2.2 large "pd" hvalid hframe).2 hfree
  have hreach' : Reach config c s2 := hreach.map hspaces hvalid hframe hrun
  have hspaces' : s2 1 = some [large] := update_self _ _ _
  obtain ⟨hin, hout, hrefuse⟩ := mapPage_reachable hreach' hspaces'
  refine ⟨c, hin large List.mem_cons_self _ (by decide), hout _ (by decide) ?_, ?_⟩
  · intro r hr
    obtain rfl := List.mem_singleton.mp hr
    decide
  · have hframe' : small.FrameIn c := by
      obtain ⟨place, hinv, -⟩ := hreach'.runInv.inv
      exact hinv.frames 1 large (by rw [hspaces']; exact List.mem_cons_self)
    have hvalid' : small.Valid config := ⟨by decide, by decide⟩
    refine (hrefuse small "pd" hvalid' hframe').1 ?_
    -- if it were granted, both frames would be at its address
    by_contra hb
    obtain ⟨c', hrun'⟩ := (hrefuse small "pd" hvalid' hframe').2 hb
    have hreach'' : Reach config c' s3 := hreach'.map hspaces' hvalid' hframe' hrun'
    obtain ⟨hin', -⟩ := mapPage_reachable hreach'' (update_self _ _ _)
    have hsmall := hin' small List.mem_cons_self small.vaddr (by decide)
    have hlarge := hin' large (List.mem_cons_of_mem _ List.mem_cons_self) small.vaddr (by decide)
    exact absurd (hsmall.symm.trans hlarge) (by decide)

end NexsKernel.Capdl
