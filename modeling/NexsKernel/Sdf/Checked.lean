import NexsKernel.Sdf.Parse

/-!
# What has been checked

What a system description satisfies that has passed the checks of `parse`, one lemma for each of them.
-/

namespace NexsKernel.Sdf

open Checks

/-! ## Loops -/

section loops

variable {α κ : Type}

/-- Unique keys are new, and those that follow are checked against all of them. -/
lemma checkUnique_ok [BEq κ] [LawfulBEq κ] {key : α → κ} {duplicate : α → Failure} {seen keys : List κ} {xs : List α}
    (h : checkUnique key duplicate seen xs = .ok keys) (hseen : seen.Nodup) :
    keys = seen ++ xs.map key ∧ keys.Nodup := by
  induction xs generalizing seen with
  | nil =>
    obtain rfl := pure_ok.mp h
    exact ⟨(List.append_nil _).symm, hseen⟩
  | cons x xs ih =>
    rw [checkUnique] at h
    obtain ⟨hnew, h⟩ := failIf_bind.mp h
    have hx : key x ∉ seen := fun hmem => hnew (List.contains_iff_mem.mpr hmem)
    obtain ⟨rfl, hnodup⟩ := ih h (List.Nodup.append hseen (List.nodup_singleton _) (by simpa using hx))
    exact ⟨by rw [List.append_assoc]; rfl, hnodup⟩

/-- Keys that each occur once differ. -/
lemma nodup_of_unique [BEq κ] [LawfulBEq κ] {key : α → κ} {xs : List α}
    (h : ∀ x ∈ xs, ¬ 1 < xs.countP (key x == key ·)) :
    (xs.map key).Nodup := by
  classical
  refine List.nodup_iff_count_le_one.mpr fun k => ?_
  by_cases hk : k ∈ xs.map key
  · obtain ⟨x, hx, rfl⟩ := List.mem_map.mp hk
    have hcount : (xs.map key).count (key x) = xs.countP (key x == key ·) := by
      rw [List.count, List.countP_map]
      refine List.countP_congr fun y _ => ?_
      rw [Function.comp_apply, beq_iff_eq, beq_iff_eq]
      exact eq_comm
    rw [hcount]
    exact not_lt.mp (h x hx)
  · rw [List.count_eq_zero_of_not_mem hk]
    exact Nat.zero_le 1

/-- What the code takes for separate ranges. -/
def Apart (a b : Word × Word) : Prop :=
  b.2 ≤ a.1 ∨ a.2 ≤ b.1

lemma Apart.symm {a b : Word × Word} (h : Apart a b) : Apart b a :=
  Or.symm h

lemma checkRanges_ok {range : α → Word × Word} {overlap : α → α → Failure} {checked r : List α} {xs : List α}
    (h : checkRanges range overlap checked xs = .ok r)
    (hchecked : checked.Pairwise fun x y => Apart (range x) (range y)) :
    (checked ++ xs).Pairwise fun x y => Apart (range x) (range y) := by
  induction xs generalizing checked with
  | nil => rwa [List.append_nil]
  | cons x xs ih =>
    rw [checkRanges] at h
    split at h
    · cases h
    · rename_i hnone
      rw [List.append_cons]
      refine ih h (List.pairwise_append.mpr ⟨hchecked, List.pairwise_singleton _ _, fun y hy z hz => ?_⟩)
      obtain rfl := List.mem_singleton.mp hz
      have hclear := List.find?_eq_none.mp hnone y hy
      have hapart : Apart (range z) (range y) := of_not_not fun hn => hclear (decide_eq_true hn)
      exact hapart.symm

end loops

/-! ## Maps -/

section maps

variable {filename : String} {mrs : List SysMemoryRegion}

/-- The end of a map, as the code computes it. -/
def mapEnd (mrs : List SysMemoryRegion) (map : SysMap) : Word :=
  map.vaddr + ((findMr mrs map).map (·.size)).getD 0

/-- Maps that pass are aligned and apart. -/
lemma checkMaps_ok {kind name : String} {checked : List (SysMap × Word)} {maps : List SysMap}
    (h : checkMaps filename mrs kind name checked maps = .ok ())
    (hends : ∀ c ∈ checked, c.2 = mapEnd mrs c.1)
    (hchecked : (checked.map (·.1)).Pairwise fun a b => Apart (a.vaddr, mapEnd mrs a) (b.vaddr, mapEnd mrs b)) :
    (∀ map ∈ maps, ∃ mr, findMr mrs map = some mr ∧ map.vaddr % mr.pageSizeBytes = 0) ∧
      (checked.map (·.1) ++ maps).Pairwise fun a b => Apart (a.vaddr, mapEnd mrs a) (b.vaddr, mapEnd mrs b) := by
  induction maps generalizing checked with
  | nil =>
    rw [List.append_nil]
    exact ⟨nofun, hchecked⟩
  | cons map maps ih =>
    rw [checkMaps] at h
    split at h
    · rename_i mr hmr
      obtain ⟨haligned, h⟩ := failIf_bind.mp h
      dsimp only at h
      have hend : map.vaddr + mr.size = mapEnd mrs map := by
        rw [mapEnd, hmr]
        rfl
      rw [hend] at h
      split at h
      · cases h
      · rename_i hnone
        have hends' : ∀ c ∈ checked ++ [(map, mapEnd mrs map)], c.2 = mapEnd mrs c.1 := by
          intro c hc
          rcases List.mem_append.mp hc with hc | hc
          · exact hends c hc
          · rw [List.mem_singleton.mp hc]
        have hmap : (checked ++ [(map, mapEnd mrs map)]).map (·.1) = checked.map (·.1) ++ [map] := by
          rw [List.map_append]
          rfl
        obtain ⟨hmaps, hpairwise⟩ := ih h hends' (by
          rw [hmap]
          refine List.pairwise_append.mpr ⟨hchecked, List.pairwise_singleton _ _, fun a ha b hb => ?_⟩
          obtain rfl := List.mem_singleton.mp hb
          obtain ⟨c, hc, rfl⟩ := List.mem_map.mp ha
          have hclear := List.find?_eq_none.mp hnone c hc
          rw [hends c hc] at hclear
          have hapart : Apart (b.vaddr, mapEnd mrs b) (c.1.vaddr, mapEnd mrs c.1) :=
            of_not_not fun hn => hclear (decide_eq_true hn)
          exact hapart.symm)
        rw [hmap, List.append_assoc, List.singleton_append] at hpairwise
        refine ⟨?_, hpairwise⟩
        intro m hm
        rcases List.mem_cons.mp hm with rfl | hm
        · exact ⟨mr, hmr, not_not.mp haligned⟩
        · exact hmaps m hm
    · cases h

/-- An address space of the description: the maximum for its maps, and the maps. -/
structure AddressSpace where
  maxVaddr : Word
  maps : List SysMap
  deriving DecidableEq

/-- Of each protection domain, and of each virtual machine. -/
def addressSpaces (config : Config) (pds : List ProtectionDomain) : List AddressSpace :=
  pds.flatMap fun pd =>
    ⟨config.pdMapMaxVaddr pd.stackSize, pd.maps⟩ ::
      (pd.virtualMachine.map fun vm => ⟨config.vmMapMaxVaddr, vm.maps⟩).toList

lemma checkAllMaps_ok {config : Config} {pds : List ProtectionDomain} (h : checkAllMaps filename mrs pds = .ok ())
    {space : AddressSpace} (hspace : space ∈ addressSpaces config pds) :
    (∀ map ∈ space.maps, ∃ mr, findMr mrs map = some mr ∧ map.vaddr % mr.pageSizeBytes = 0) ∧
      space.maps.Pairwise fun a b => Apart (a.vaddr, mapEnd mrs a) (b.vaddr, mapEnd mrs b) := by
  obtain ⟨pd, hpd, hspace⟩ := List.mem_flatMap.mp hspace
  obtain ⟨⟨⟩, hmaps, hvm⟩ := bind_ok.mp (forM_ok.mp h pd hpd)
  rcases List.mem_cons.mp hspace with rfl | hspace
  · exact checkMaps_ok hmaps nofun .nil
  · obtain ⟨vm, e, rfl⟩ := Option.map_eq_some_iff.mp (Option.mem_toList.mp hspace)
    rw [e] at hvm
    exact checkMaps_ok hvm nofun .nil

end maps

/-! ## Memory regions -/

section regions

variable {filename : String} {config : Config}

/-- A memory region is found by its name. -/
lemma findMr_mem {mrs : List SysMemoryRegion} {map : SysMap} {mr : SysMemoryRegion} (h : findMr mrs map = some mr) :
    mr ∈ mrs ∧ mr.name = map.mr := by
  unfold findMr at h
  have hname := List.find?_some h
  exact ⟨List.mem_of_find?_eq_some h, eq_of_beq hname⟩

/-- What becomes of a memory region after the checks: its pages may get larger, if all its addresses are aligned to
them, and the tool may allocate its address. -/
structure Finished (maps : List SysMap) (mr mr' : SysMemoryRegion) : Prop where
  name : mr'.name = mr.name
  size : mr'.size = mr.size
  prefillBytes : mr'.prefillBytes = mr.prefillBytes
  specified : mr'.specifiedPaddr = mr.specifiedPaddr
  pages : mr'.pageSize = mr.pageSize ∧ mr'.pageCount = mr.pageCount ∨
    mr'.pageCount = mr.size / mr'.pageSizeBytes ∧ ∀ a ∈ mr.addrs maps, a % mr'.pageSizeBytes = 0

lemma ofBytes_ok {size : Word} {p : PageSize} (h : PageSize.ofBytes size = .ok p) : p.bytes = size := by
  unfold PageSize.ofBytes at h
  split_ifs at h with hs hl
  · obtain rfl := pure_ok.mp h
    exact hs.symm
  · obtain rfl := pure_ok.mp h
    exact hl.symm
  · cases h

lemma optimisePageSize_ok {maps : List SysMap} {mr mr' : SysMemoryRegion}
    (h : mr.optimisePageSize maps = .ok mr') : Finished maps mr mr' := by
  have hrefl : Finished maps mr mr := ⟨rfl, rfl, rfl, rfl, .inl ⟨rfl, rfl⟩⟩
  unfold SysMemoryRegion.optimisePageSize at h
  split_ifs at h with huser
  · obtain rfl := pure_ok.mp h
    exact hrefl
  · obtain ⟨largest, -, h⟩ := bind_ok.mp h
    split_ifs at h with hlargest
    · obtain rfl := pure_ok.mp h
      exact hrefl
    · refine foldlM_ok (P := Finished maps mr) ?_ hrefl h
      intro size _ b b' hb hstep
      split_ifs at hstep with hany
      · obtain rfl := pure_ok.mp hstep
        exact hb
      · obtain ⟨p, hp, e⟩ := bind_ok.mp hstep
        obtain rfl := pure_ok.mp e
        refine ⟨hb.name, hb.size, hb.prefillBytes, hb.specified, .inr ⟨by rw [← hb.size]; rfl, fun a ha => ?_⟩⟩
        have hnone : ¬ (a % size != 0) = true := fun hne => hany (List.any_eq_true.mpr ⟨a, ha, hne⟩)
        have hzero : a % size = 0 := by simpa using hnone
        rw [← hzero, ← ofBytes_ok hp]
        rfl

lemma toolAllocate_ok {names : List String} {mr mr' : SysMemoryRegion}
    (h : SysMemoryRegion.toolAllocate filename config names mr = .ok mr') :
    mr' = mr ∨ mr.physAddr = .unspecified ∧ mr' = { mr with physAddr := .toolAllocated none } := by
  unfold SysMemoryRegion.toolAllocate at h
  split_ifs at h with hnames
  · cases ha : config.arch with
    | x86_64 =>
      rw [ha] at h
      cases h
    | _ =>
      rw [ha] at h
      exact .inr ⟨hnames.2, (pure_ok.mp h).symm⟩
  · exact .inl (pure_ok.mp h).symm

lemma Finished.toolAllocate {maps : List SysMap} {names : List String} {mr mr1 mr2 : SysMemoryRegion}
    (h : Finished maps mr mr1) (ht : SysMemoryRegion.toolAllocate filename config names mr1 = .ok mr2) :
    Finished maps mr mr2 := by
  rcases toolAllocate_ok ht with rfl | ⟨hun, rfl⟩
  · exact h
  · refine ⟨h.name, h.size, h.prefillBytes, ?_, h.pages⟩
    rw [← h.specified]
    unfold SysMemoryRegion.specifiedPaddr
    rw [hun]

end regions

/-! ## `parse` -/

/-- What `checkSystem` has passed. -/
structure Checked (filename : String) (pds : List ProtectionDomain) (mrs : List SysMemoryRegion)
    (channels : List Channel) : Prop where
  domains : checkPds pds = .ok ()
  regions : checkMrs mrs = .ok ()
  vms : ∃ names, checkVms pds = .ok names
  irqs : ∃ irqs, checkIrqs filename pds = .ok irqs
  ids : ∃ ids ids', checkIrqIds filename pds = .ok ids ∧ channels.foldlM (checkChannel filename pds) ids = .ok ids'
  ioportIds : checkIoportIds filename pds = .ok ()
  ioportRanges : ∃ ioports, checkIoportRanges filename pds = .ok ioports
  maps : checkAllMaps filename mrs pds = .ok ()
  paddrs : ∃ regions, checkPaddrs filename mrs = .ok regions

lemma checkSystem_ok {filename : String} {pds : List ProtectionDomain} {mrs : List SysMemoryRegion}
    {channels : List Channel} (h : checkSystem filename pds mrs channels = .ok ()) :
    Checked filename pds mrs channels := by
  unfold checkSystem at h
  obtain ⟨⟨⟩, hpds, h⟩ := bind_ok.mp h
  obtain ⟨⟨⟩, hmrs, h⟩ := bind_ok.mp h
  obtain ⟨names, hvms, h⟩ := bind_ok.mp h
  obtain ⟨irqs, hirqs, h⟩ := bind_ok.mp h
  obtain ⟨ids, hids, h⟩ := bind_ok.mp h
  obtain ⟨ids', hchannels, h⟩ := bind_ok.mp h
  obtain ⟨⟨⟩, hioportIds, h⟩ := bind_ok.mp h
  obtain ⟨ioports, hioportRanges, h⟩ := bind_ok.mp h
  obtain ⟨⟨⟩, hmaps, h⟩ := bind_ok.mp h
  obtain ⟨regions, hpaddrs, -⟩ := bind_ok.mp h
  exact ⟨hpds, hmrs, ⟨names, hvms⟩, ⟨irqs, hirqs⟩, ⟨ids, ids', hids, hchannels⟩, hioportIds, ⟨ioports, hioportRanges⟩,
    hmaps, ⟨regions, hpaddrs⟩⟩

/-- How `parse` has come to a description. -/
structure Parsed (filename : String) (config : Config) (files : String → PrefillFile) (system : Node)
    (body : SystemBody) (flat : List ProtectionDomain) (sd : SystemDescription) : Prop where
  elements : system.elements.foldlM (SystemBody.addElement filename config files) ⟨[], [], []⟩ = .ok body
  flattened : pdFlatten filename body.rootPds = .ok flat
  channels : body.channelNodes.foldlM (addChannel filename) (flat, []) = .ok (sd.protectionDomains, sd.channels)
  checked : Checked filename sd.protectionDomains body.mrs sd.channels
  regions : List.Forall₂ (Finished (allMaps sd.protectionDomains)) body.mrs sd.memoryRegions

/-- The stages of `parse`, for a document with the nodes `nodes`. -/
structure Stages (filename : String) (config : Config) (files : String → PrefillFile) (nodes : List Node)
    (system : Node)
    (body : SystemBody) (flat : List ProtectionDomain) (optimised : List SysMemoryRegion) (sd : SystemDescription) :
    Prop where
  root : nodes.find? (·.tag == "system") = some system
  elements : system.elements.foldlM (SystemBody.addElement filename config files) ⟨[], [], []⟩ = .ok body
  flattened : pdFlatten filename body.rootPds = .ok flat
  channels : body.channelNodes.foldlM (addChannel filename) (flat, []) = .ok (sd.protectionDomains, sd.channels)
  checked : Checked filename sd.protectionDomains body.mrs sd.channels
  pages : List.Forall₂ (fun mr mr' => mr.optimisePageSize (allMaps sd.protectionDomains) = .ok mr') body.mrs optimised
  paddrs : List.Forall₂
    (fun mr mr' => mr.toolAllocate filename config (paddrSetvars sd.protectionDomains) =
      .ok mr') optimised sd.memoryRegions

section parse

variable {filename : String} {config : Config} {files : String → PrefillFile} {doc : Except String (List Node)}
  {sd : SystemDescription}

lemma parse_stages (h : parse filename config files doc = .ok sd) :
    ∃ nodes system body flat optimised, doc = .ok nodes ∧
      Stages filename config files nodes system body flat optimised sd := by
  cases doc with
  | error reason => cases h
  | ok nodes =>
    unfold parse at h
    dsimp only at h
    split at h
    · cases h
    · rename_i system hsystem
      obtain ⟨⟨⟩, -, h⟩ := bind_ok.mp h
      obtain ⟨body, hbody, h⟩ := bind_ok.mp h
      obtain ⟨flat, hflat, h⟩ := bind_ok.mp h
      obtain ⟨⟨pds, channels⟩, hchannels, h⟩ := bind_ok.mp h
      obtain ⟨⟨⟩, hchecked, h⟩ := bind_ok.mp h
      obtain ⟨mrs1, hoptimised, h⟩ := bind_ok.mp h
      obtain ⟨⟨⟩, -, h⟩ := bind_ok.mp h
      obtain ⟨mrs2, hallocated, h⟩ := bind_ok.mp h
      obtain rfl := pure_ok.mp h
      exact ⟨nodes, system, body, flat, mrs1, rfl, hsystem, hbody, hflat, hchannels, checkSystem_ok hchecked,
        mapM_ok.mp hoptimised, mapM_ok.mp hallocated⟩

lemma parse_ok (h : parse filename config files doc = .ok sd) :
    ∃ system body flat, Parsed filename config files system body flat sd := by
  obtain ⟨nodes, system, body, flat, optimised, -, hs⟩ := parse_stages h
  refine ⟨system, body, flat, hs.elements, hs.flattened, hs.channels, hs.checked, ?_⟩
  refine forall₂_comp ?_ hs.pages hs.paddrs
  intro _ _ _ hx hy
  exact (optimisePageSize_ok hx).toolAllocate hy

end parse

end NexsKernel.Sdf
