import NexsKernel.Sdf.Document

/-!
# Page sizes

A memory region without a page size is parsed with small pages, which the parser makes larger at the end. The size it
chooses is the largest that divides the size of the region, its physical address and every address that it is mapped
at (`parse_pageSizes`).
-/

namespace NexsKernel.Sdf

open Checks

/-- The addresses of a memory region are multiples of `n`: the physical one that is specified, and those of its maps in
protection domains and in virtual machines. -/
def SysMemoryRegion.AlignedTo (pds : List ProtectionDomain) (mr : SysMemoryRegion) (n : Nat) : Prop :=
  (∀ paddr, mr.physAddr = .specified paddr → n ∣ paddr.toNat) ∧
    ∀ pd ∈ pds, (∀ map ∈ pd.maps, map.mr = mr.name → n ∣ map.vaddr.toNat) ∧
      ∀ vm, pd.virtualMachine = some vm → ∀ map ∈ vm.maps, map.mr = mr.name → n ∣ map.vaddr.toNat

/-- What holds of the pages of a memory region, which the element `node` describes. -/
structure PagesChosen (pds : List ProtectionDomain) (node : Node) (mr : SysMemoryRegion) : Prop where
  name : node.attr "name" = some mr.name
  count : mr.pageCount.toNat * mr.pageSizeBytes.toNat = mr.size.toNat
  aligned : mr.AlignedTo pds mr.pageSizeBytes.toNat
  explicit : ∀ s, node.attr "page_size" = some s → sdfParseNumber s node = .ok mr.pageSizeBytes
  largest : node.attr "page_size" = none → ∀ size ∈ Config.pageSizes, size.toNat ∣ mr.size.toNat →
    mr.AlignedTo pds size.toNat → size.toNat ≤ mr.pageSizeBytes.toNat

/-! ## Words -/

lemma dvd_toNat_iff {a n : Word} : n.toNat ∣ a.toNat ↔ a % n = 0 := by
  rw [Nat.dvd_iff_mod_eq_zero, ← BitVec.toNat_umod]
  exact ⟨fun h => BitVec.eq_of_toNat_eq h, fun h => by rw [h]; rfl⟩

lemma le_large {size : Word} (h : size ∈ Config.pageSizes) : size.toNat ≤ PageSize.large.bytes.toNat := by
  rcases List.mem_cons.mp h with rfl | h
  · exact BitVec.le_def.mp (by decide)
  · rw [List.mem_singleton.mp h]

lemma specifiedPaddr_eq_some {mr : SysMemoryRegion} {paddr : Word} :
    mr.specifiedPaddr = some paddr ↔ mr.physAddr = .specified paddr := by
  unfold SysMemoryRegion.specifiedPaddr
  cases mr.physAddr with
  | unspecified => exact ⟨nofun, nofun⟩
  | toolAllocated p => exact ⟨nofun, nofun⟩
  | specified p => rw [Option.some.injEq, SysMemoryRegionPaddr.specified.injEq]

/-- The addresses that the parser looks at are all there are. -/
lemma alignedTo_iff {pds : List ProtectionDomain} {mr : SysMemoryRegion} {n : Word} :
    mr.AlignedTo pds n.toNat ↔ ∀ a ∈ mr.addrs (allMaps pds), a % n = 0 := by
  unfold SysMemoryRegion.AlignedTo SysMemoryRegion.addrs
  simp only [List.mem_append, Option.mem_toList, specifiedPaddr_eq_some, dvd_toNat_iff]
  constructor
  · rintro ⟨hpaddr, hmaps⟩ a (ha | ha)
    · obtain ⟨map, hmap, rfl⟩ := List.mem_map.mp ha
      obtain ⟨hmap, hname⟩ := List.mem_filter.mp hmap
      obtain ⟨pd, hpd, hmap⟩ := List.mem_flatMap.mp hmap
      rcases List.mem_append.mp hmap with hmap | hmap
      · exact (hmaps pd hpd).1 map hmap (eq_of_beq hname)
      · cases hvm : pd.virtualMachine with
        | none =>
          rw [hvm] at hmap
          cases hmap
        | some vm =>
          rw [hvm] at hmap
          exact (hmaps pd hpd).2 vm hvm map hmap (eq_of_beq hname)
    · exact hpaddr a ha
  · intro h
    have hmap : ∀ map ∈ allMaps pds, map.mr = mr.name → map.vaddr % n = 0 := by
      intro map hmap hname
      refine h _ (.inl (List.mem_map_of_mem (List.mem_filter.mpr ⟨hmap, ?_⟩)))
      rw [hname]
      exact beq_self_eq_true _
    refine ⟨fun paddr hpaddr => h paddr (.inr hpaddr), fun pd hpd => ⟨fun map hm => ?_, fun vm hvm map hm => ?_⟩⟩
    · exact hmap map (List.mem_flatMap.mpr ⟨pd, hpd, List.mem_append_left _ hm⟩)
    · refine hmap map (List.mem_flatMap.mpr ⟨pd, hpd, List.mem_append_right _ ?_⟩)
      rw [hvm]
      exact hm

/-! ## The choice -/

section choice

variable {mr mr' : SysMemoryRegion} {maps : List SysMap}

lemma optimisePageSize_byUser (h : mr.optimisePageSize maps = .ok mr') (hbyUser : mr.pageSizeSpecifiedByUser) :
    mr' = mr := by
  unfold SysMemoryRegion.optimisePageSize at h
  rw [if_pos hbyUser] at h
  exact (pure_ok.mp h).symm

/-- What allows large pages. -/
def SysMemoryRegion.FitsLarge (mr : SysMemoryRegion) (maps : List SysMap) : Prop :=
  mr.size % PageSize.large.bytes = 0 ∧ ∀ a ∈ mr.addrs maps, a % PageSize.large.bytes = 0

/-- Large pages are chosen just where they fit. -/
lemma optimisePageSize_cases (h : mr.optimisePageSize maps = .ok mr') (hbyUser : mr.pageSizeSpecifiedByUser = false)
    (hsmall : mr.pageSize = .small) :
    ¬ mr.FitsLarge maps ∧ mr' = mr ∨ mr.FitsLarge maps ∧
      mr' = { mr with pageSize := .large, pageCount := mr.size / PageSize.large.bytes } := by
  have hbytes : mr.pageSizeBytes = PageSize.small.bytes := by rw [SysMemoryRegion.pageSizeBytes, hsmall]
  unfold SysMemoryRegion.optimisePageSize at h
  rw [hbyUser] at h
  obtain ⟨largest, hlargest, h⟩ := bind_ok.mp h
  unfold SysMemoryRegion.optimalPageSize at hlargest
  have hsizes : Config.pageSizes.reverse = [PageSize.large.bytes, PageSize.small.bytes] := rfl
  rw [hsizes, List.find?_cons] at hlargest
  rw [hbytes] at h
  cases hlarge : mr.size % PageSize.large.bytes == 0 with
  | false =>
    -- only small pages divide the size
    rw [hlarge, List.find?_cons] at hlargest
    have hnot : ¬ mr.FitsLarge maps := fun hfits => beq_eq_false_iff_ne.mp hlarge hfits.1
    cases hs : mr.size % PageSize.small.bytes == 0 with
    | false =>
      rw [hs] at hlargest
      cases hlargest
    | true =>
      rw [hs] at hlargest
      obtain rfl := pure_ok.mp hlargest
      rw [if_pos rfl] at h
      exact .inl ⟨hnot, (pure_ok.mp h).symm⟩
  | true =>
    rw [hlarge] at hlargest
    obtain rfl := pure_ok.mp hlargest
    have hlarger : (Config.pageSizes.filter (PageSize.small.bytes < ·)).reverse = [PageSize.large.bytes] := by decide
    rw [if_neg (by decide), hlarger, List.foldlM_cons] at h
    obtain ⟨mr1, h1, h⟩ := bind_ok.mp h
    obtain rfl := pure_ok.mp h
    split_ifs at h1 with hany
    · refine .inl ⟨fun hfits => ?_, (pure_ok.mp h1).symm⟩
      obtain ⟨a, ha, hne⟩ := List.any_eq_true.mp hany
      exact bne_iff_ne.mp hne (hfits.2 a ha)
    · refine .inr ⟨⟨beq_iff_eq.mp hlarge, fun a ha => ?_⟩, (pure_ok.mp h1).symm⟩
      by_contra hne
      exact hany (List.any_eq_true.mpr ⟨a, ha, bne_iff_ne.mpr hne⟩)

end choice

/-! ## Memory regions of a description -/

section parsed

variable {filename : String} {config : Config} {files : String → PrefillFile} {nodes : List Node}
  {sd : SystemDescription}

lemma count_of_mod {mr : SysMemoryRegion} (hcount : mr.pageCount = mr.size / mr.pageSizeBytes)
    (hmod : mr.size % mr.pageSizeBytes = 0) : mr.pageCount.toNat * mr.pageSizeBytes.toNat = mr.size.toNat := by
  rw [hcount, BitVec.toNat_udiv]
  exact Nat.div_mul_cancel (dvd_toNat_iff.mpr hmod)

/-- One element of a list at most satisfies a predicate. -/
lemma eq_of_countP_le_one {α : Type} {p : α → Bool} {xs : List α} (h : xs.countP p ≤ 1) {x y : α} (hx : x ∈ xs)
    (hy : y ∈ xs) (hpx : p x) (hpy : p y) : x = y := by
  have hx' := List.mem_filter.mpr ⟨hx, hpx⟩
  have hy' := List.mem_filter.mpr ⟨hy, hpy⟩
  rw [List.countP_eq_length_filter] at h
  cases hf : xs.filter p with
  | nil =>
    rw [hf] at hx'
    cases hx'
  | cons z zs =>
    rw [hf] at h hx' hy'
    obtain rfl := List.length_eq_zero_iff.mp (Nat.le_zero.mp (Nat.le_of_succ_le_succ h))
    rw [List.mem_singleton.mp hx', List.mem_singleton.mp hy']

/-- The name of a memory region is its own. -/
lemma findMr_of_mem {mrs : List SysMemoryRegion} (h : checkMrs mrs = .ok ()) {mr : SysMemoryRegion} (hmr : mr ∈ mrs)
    {map : SysMap} (hname : map.mr = mr.name) : findMr mrs map = some mr := by
  cases hfind : findMr mrs map with
  | none =>
    unfold findMr at hfind
    exact absurd (beq_iff_eq.mpr hname.symm) (List.find?_eq_none.mp hfind mr hmr)
  | some mr' =>
    obtain ⟨hmr', hname'⟩ := findMr_mem hfind
    have hcount := Nat.le_of_not_lt (failIf_ok.mp (forM_ok.mp h mr hmr))
    rw [eq_of_countP_le_one hcount hmr' hmr (beq_iff_eq.mpr (by rw [hname', hname])) (beq_self_eq_true _)]

lemma exists_space {pds : List ProtectionDomain} {map : SysMap} (config : Config) (hmap : map ∈ allMaps pds) :
    ∃ space ∈ addressSpaces config pds, map ∈ space.maps := by
  obtain ⟨pd, hpd, hmap⟩ := List.mem_flatMap.mp hmap
  rcases List.mem_append.mp hmap with hmap | hmap
  · exact ⟨_, List.mem_flatMap.mpr ⟨pd, hpd, List.mem_cons_self⟩, hmap⟩
  · cases hvm : pd.virtualMachine with
    | none =>
      rw [hvm] at hmap
      cases hmap
    | some vm =>
      rw [hvm] at hmap
      refine ⟨⟨config.vmMapMaxVaddr, vm.maps⟩, List.mem_flatMap.mpr ⟨pd, hpd, ?_⟩, hmap⟩
      rw [hvm]
      exact List.mem_cons_of_mem _ List.mem_cons_self

/-- The checks have found the addresses of a memory region aligned to the pages that it was parsed with. -/
lemma Checked.addrs_mod (config : Config) {pds : List ProtectionDomain} {mrs : List SysMemoryRegion}
    {channels : List Channel}
    (h : Checked filename pds mrs channels) {node : Node} {mr : SysMemoryRegion} (hmr : mr ∈ mrs)
    (hread : RegionRead filename files node mr) {a : Word} (ha : a ∈ mr.addrs (allMaps pds)) :
    a % mr.pageSizeBytes = 0 := by
  rcases List.mem_append.mp ha with ha | ha
  · obtain ⟨map, hmap, rfl⟩ := List.mem_map.mp ha
    obtain ⟨hmap, hname⟩ := List.mem_filter.mp hmap
    obtain ⟨space, hspace, hmap⟩ := exists_space config hmap
    obtain ⟨mr', hfind, hmod⟩ := (checkAllMaps_ok h.maps hspace).1 map hmap
    rw [findMr_of_mem h.regions hmr (eq_of_beq hname)] at hfind
    obtain rfl := Option.some.inj hfind
    exact hmod
  · exact hread.paddr_mod (Option.mem_toList.mp ha)

/-- Allocating the physical address is no matter of pages. -/
lemma PagesChosen.toolAllocate {pds : List ProtectionDomain} {node : Node} {mr mr' : SysMemoryRegion}
    (h : PagesChosen pds node mr) {names : List String} (hallocate : mr.toolAllocate filename config names = .ok mr') :
    PagesChosen pds node mr' := by
  rcases toolAllocate_ok hallocate with rfl | ⟨hun, rfl⟩
  · exact h
  · have hiff : ∀ n, SysMemoryRegion.AlignedTo pds { mr with physAddr := .toolAllocated none } n ↔
      mr.AlignedTo pds n := by
      intro n
      unfold SysMemoryRegion.AlignedTo
      rw [hun]
      exact and_congr_left' ⟨fun _ => nofun, fun _ => nofun⟩
    refine ⟨h.name, h.count, (hiff _).mpr h.aligned, h.explicit, fun hnone size hsize hdvd haligned => ?_⟩
    exact h.largest hnone size hsize hdvd ((hiff _).mp haligned)

/-- The pages of one memory region. -/
lemma Checked.pagesChosen (config : Config) {pds : List ProtectionDomain} {mrs : List SysMemoryRegion}
    {channels : List Channel} (h : Checked filename pds mrs channels) {node : Node} {mr mr' : SysMemoryRegion}
    (hmr : mr ∈ mrs) (hread : RegionRead filename files node mr)
    (hpages : mr.optimisePageSize (allMaps pds) = .ok mr') : PagesChosen pds node mr' := by
  have haligned : mr.AlignedTo pds mr.pageSizeBytes.toNat := alignedTo_iff.mpr fun _ => h.addrs_mod config hmr hread
  have hcount := count_of_mod hread.pageCount hread.size_mod
  cases hattr : node.attr "page_size" with
  | some s =>
    have hbyUser : mr.pageSizeSpecifiedByUser := by rw [hread.byUser, hattr]; rfl
    obtain rfl := optimisePageSize_byUser hpages hbyUser
    exact ⟨hread.name, hcount, haligned, fun _ => hread.explicit, fun hnone => nomatch hattr.symm.trans hnone⟩
  | none =>
    have hbyUser : mr.pageSizeSpecifiedByUser = false := by rw [hread.byUser, hattr]; rfl
    have hsmall := hread.small hattr
    rcases optimisePageSize_cases hpages hbyUser hsmall with ⟨hnot, rfl⟩ | ⟨hfits, rfl⟩
    · refine ⟨hread.name, hcount, haligned, fun _ => hread.explicit, fun _ size hsize hdvd hal => ?_⟩
      rcases List.mem_cons.mp hsize with rfl | hsize
      · rw [SysMemoryRegion.pageSizeBytes, hsmall]
      · obtain rfl := List.mem_singleton.mp hsize
        exact absurd ⟨dvd_toNat_iff.mp hdvd, alignedTo_iff.mp hal⟩ hnot
    · refine ⟨hread.name, count_of_mod rfl hfits.1, alignedTo_iff.mpr hfits.2, ?_, fun _ size hsize _ _ => ?_⟩
      · exact fun s hs => nomatch hattr.symm.trans hs
      · exact le_large hsize

lemma Stages.pagesChosen {system : Node} {body : SystemBody} {flat : List ProtectionDomain}
    {optimised : List SysMemoryRegion} (h : Stages filename config files nodes system body flat optimised sd) :
    List.Forall₂ (PagesChosen sd.protectionDomains) (system.tagged "memory_region") sd.memoryRegions := by
  have hpages := (List.forall₂_and_left (p := (· ∈ body.mrs)) body.mrs optimised).mpr ⟨fun _ hmr => hmr, h.pages⟩
  have hchosen : List.Forall₂ (PagesChosen sd.protectionDomains) (system.tagged "memory_region") optimised := by
    refine forall₂_comp ?_ (TopLevel.run h.elements).mrs hpages
    intro _ _ _ hread hmr
    exact h.checked.pagesChosen config hmr.1 (SysMemoryRegion.fromXml_ok hread) hmr.2
  refine forall₂_comp ?_ hchosen h.paddrs
  intro _ _ _ hmr hallocate
  exact hmr.toolAllocate hallocate

end parsed

/-- The pages of every memory region of a description that the parser accepts make up its size, all its addresses are
multiples of the page size, which is the one that its element asks for, or else the largest possible. -/
theorem parse_pageSizes {filename : String} {config : Config} {files : String → PrefillFile} {nodes : List Node}
    {sd : SystemDescription} (h : parse filename config files (.ok nodes) = .ok sd) :
    ∃ system, systemNode nodes = some system ∧
      List.Forall₂ (PagesChosen sd.protectionDomains) (system.tagged "memory_region") sd.memoryRegions := by
  obtain ⟨_, system, body, flat, optimised, e, hs⟩ := parse_stages h
  cases e
  exact ⟨system, hs.root, hs.pagesChosen⟩

/-- Two memory regions of the same size. The second is mapped where only small pages fit. -/
private def fourMegabytes : List Node :=
  [.element "system" [] ⟨1, 1⟩ [
    .element "memory_region" [("name", "aligned"), ("size", "0x400000")] ⟨2, 3⟩ [],
    .element "memory_region" [("name", "odd"), ("size", "0x400000")] ⟨3, 3⟩ [],
    .element "protection_domain" [("name", "driver")] ⟨4, 3⟩ [
      .element "program_image" [("path", "driver.elf")] ⟨5, 5⟩ [],
      .element "map" [("mr", "aligned"), ("vaddr", "0x2000000")] ⟨6, 5⟩ [],
      .element "map" [("mr", "odd"), ("vaddr", "0x4001000")] ⟨7, 5⟩ []]]]

private def riscv : Config :=
  ⟨.riscv64, false, false, 1, none, none, ⟨10, 4, 6, 5, 12, 12, 21, 12, 12⟩, riscv_paSize⟩

private def fourMegabytesParsed : SystemDescription :=
  ⟨[{ id := none, name := "driver", priority := 0, budget := 1000, period := 1000, passive := false, stackSize := 0x2000
      smc := false, cpu := 0, programImage := "driver.elf", programImageForSymbols := none, fpu := true
      maps := [⟨"aligned", 0x2000000, 3, true, ⟨6, 5⟩⟩, ⟨"odd", 0x4001000, 3, true, ⟨7, 5⟩⟩], irqs := [], ioports := []
      setvars := [], virtualMachine := none, hasChildren := false, parent := none, setvarId := none, textPos := ⟨4, 3⟩ }],
    [⟨"aligned", 0x400000, false, .large, 2, .unspecified, ⟨2, 3⟩, none⟩,
      ⟨"odd", 0x400000, false, .small, 0x400, .unspecified, ⟨3, 3⟩, none⟩], []⟩

/-- One region gets large pages, the other small ones. -/
theorem parse_pageSizes_fourMegabytes :
    parse "pages.system" riscv (fun _ => .notFound) (.ok fourMegabytes) = .ok fourMegabytesParsed ∧
      ∃ system, systemNode fourMegabytes = some system ∧ List.Forall₂
      (PagesChosen fourMegabytesParsed.protectionDomains)
        (system.tagged "memory_region") fourMegabytesParsed.memoryRegions := by
  have hparsed : parse "pages.system" riscv (fun _ => .notFound) (.ok fourMegabytes) = .ok fourMegabytesParsed := by
    decide +kernel
  exact ⟨hparsed, parse_pageSizes hparsed⟩

end NexsKernel.Sdf
