import NexsKernel.Sdf.Checked
import Mathlib.Order.CompletePartialOrder

/-!
# Address ranges

The parser checks where a map starts against the maximum of its address space, but not where it ends, and it compares
ends that it has computed with additions that may wrap. So the ranges of a description that it accepts are sound
exactly if every map ends at or below the maximum and no memory region with a specified physical address reaches
beyond the last address (`parse_ranges_iff`).
-/

namespace NexsKernel.Sdf

open Checks

/-! ## Ranges of a description -/

section ranges

variable (mrs : List SysMemoryRegion)

/-- The size of a map is that of its memory region. -/
def mapSize (map : SysMap) : Nat :=
  ((findMr mrs map).map (·.size.toNat)).getD 0

def SysMap.range (map : SysMap) : Set Nat :=
  Set.Ico map.vaddr.toNat (map.vaddr.toNat + mapSize mrs map)

/-- The memory regions with a specified physical address, and the address. -/
def specifiedRegions : List (SysMemoryRegion × Word) :=
  mrs.filterMap fun mr => mr.specifiedPaddr.map (mr, ·)

def physRange (p : SysMemoryRegion × Word) : Set Nat :=
  Set.Ico p.2.toNat (p.2.toNat + p.1.size.toNat)

end ranges

/-- The maps of each address space are aligned to the pages of their memory regions, lie below the maximum, and do not
overlap; and the physical ranges of memory regions do not wrap, and do not overlap. -/
structure RangesSound (config : Config) (sd : SystemDescription) : Prop where
  aligned : ∀ space ∈ addressSpaces config sd.protectionDomains, ∀ map ∈ space.maps,
    ∃ mr, findMr sd.memoryRegions map = some mr ∧ map.vaddr % mr.pageSizeBytes = 0
  below : ∀ space ∈ addressSpaces config sd.protectionDomains, ∀ map ∈ space.maps,
    map.vaddr.toNat + mapSize sd.memoryRegions map ≤ space.maxVaddr.toNat
  disjoint : ∀ space ∈ addressSpaces config sd.protectionDomains,
    space.maps.Pairwise fun a b => Disjoint (a.range sd.memoryRegions) (b.range sd.memoryRegions)
  noWrap : ∀ p ∈ specifiedRegions sd.memoryRegions, p.2.toNat + p.1.size.toNat < 2 ^ 64
  physDisjoint : (specifiedRegions sd.memoryRegions).Pairwise fun p q => Disjoint (physRange p) (physRange q)

/-- What the parser leaves unchecked: where maps and memory regions end. -/
structure EndsFit (config : Config) (sd : SystemDescription) : Prop where
  maps : ∀ space ∈ addressSpaces config sd.protectionDomains, ∀ map ∈ space.maps,
    map.vaddr.toNat + mapSize sd.memoryRegions map ≤ space.maxVaddr.toNat
  regions : ∀ p ∈ specifiedRegions sd.memoryRegions, p.2.toNat + p.1.size.toNat < 2 ^ 64

/-! ## The memory regions before and after -/

section finished

variable {maps : List SysMap} {mrs mrs' : List SysMemoryRegion}

lemma findMr_finished (h : List.Forall₂ (Finished maps) mrs mrs') (map : SysMap) :
    findMr mrs map = none ∧ findMr mrs' map = none ∨
      ∃ mr mr', findMr mrs map = some mr ∧ findMr mrs' map = some mr' ∧ Finished maps mr mr' := by
  induction h with
  | nil => exact .inl ⟨rfl, rfl⟩
  | @cons mr mr' mrs mrs' hmr _ ih =>
    unfold findMr
    rw [List.find?_cons, List.find?_cons, hmr.name]
    cases hname : mr.name == map.mr with
    | true => exact .inr ⟨mr, mr', rfl, rfl, hmr⟩
    | false => exact ih

lemma mapEnd_toNat (h : List.Forall₂ (Finished maps) mrs mrs') {map : SysMap}
    (hfits : map.vaddr.toNat + mapSize mrs' map < 2 ^ 64) :
    (mapEnd mrs map).toNat = map.vaddr.toNat + mapSize mrs' map := by
  unfold mapSize at hfits ⊢
  unfold mapEnd
  rcases findMr_finished h map with ⟨hm, hm'⟩ | ⟨mr, mr', hm, hm', hmr⟩
  · rw [hm, hm']
    simp
  · rw [hm'] at hfits ⊢
    rw [hm]
    simp only [Option.map_some, Option.getD_some, hmr.size] at hfits ⊢
    rw [BitVec.toNat_add, Nat.mod_eq_of_lt hfits]

lemma specified_finished (h : List.Forall₂ (Finished maps) mrs mrs') :
    List.Forall₂ (fun p p' => p.2 = p'.2 ∧ p.1.size = p'.1.size) (specifiedRegions mrs) (specifiedRegions mrs') := by
  induction h with
  | nil => exact .nil
  | @cons mr mr' mrs mrs' hmr _ ih =>
    unfold specifiedRegions
    rw [List.filterMap_cons, List.filterMap_cons, hmr.specified]
    cases mr.specifiedPaddr with
    | none => exact ih
    | some paddr => exact .cons ⟨rfl, hmr.size.symm⟩ ih

end finished

/-! ## Ranges that fit -/

/-- Ranges that the code takes for separate are so, if their ends have not wrapped. -/
lemma disjoint_of_apart {a b a' b' : Word} {n m : Nat} (h : Apart (a, a') (b, b')) (ha : a'.toNat = a.toNat + n)
    (hb : b'.toNat = b.toNat + m) :
    Disjoint (Set.Ico a.toNat (a.toNat + n)) (Set.Ico b.toNat (b.toNat + m)) := by
  rw [Set.disjoint_left]
  rintro x ⟨hal, hau⟩ ⟨hbl, hbu⟩
  rcases h with h | h
  · have hle : b'.toNat ≤ a.toNat := BitVec.le_def.mp h
    omega
  · have hle : a'.toNat ≤ b.toNat := BitVec.le_def.mp h
    omega

section parsed

variable {filename : String} {config : Config} {files : String → PrefillFile} {doc : Except String (List Node)}
  {sd : SystemDescription} {system : Node} {body : SystemBody} {flat : List ProtectionDomain}

lemma mem_allMaps {space : AddressSpace} {map : SysMap} {pds : List ProtectionDomain}
    (hspace : space ∈ addressSpaces config pds) (hmap : map ∈ space.maps) : map ∈ allMaps pds := by
  obtain ⟨pd, hpd, hspace⟩ := List.mem_flatMap.mp hspace
  refine List.mem_flatMap.mpr ⟨pd, hpd, ?_⟩
  rcases List.mem_cons.mp hspace with rfl | hspace
  · exact List.mem_append_left _ hmap
  · obtain ⟨vm, e, rfl⟩ := Option.map_eq_some_iff.mp (Option.mem_toList.mp hspace)
    rw [e]
    exact List.mem_append_right _ hmap

lemma Parsed.aligned (h : Parsed filename config files system body flat sd) {space : AddressSpace} {map : SysMap}
    (hspace : space ∈ addressSpaces config sd.protectionDomains) (hmap : map ∈ space.maps) :
    ∃ mr, findMr sd.memoryRegions map = some mr ∧ map.vaddr % mr.pageSizeBytes = 0 := by
  obtain ⟨mr, hmr, haligned⟩ := (checkAllMaps_ok h.checked.maps hspace).1 map hmap
  rcases findMr_finished h.regions map with ⟨hm, -⟩ | ⟨mr1, mr', hm, hm', hfinished⟩
  · cases hm.symm.trans hmr
  · obtain rfl := Option.some.inj (hm.symm.trans hmr)
    refine ⟨mr', hm', ?_⟩
    rcases hfinished.pages with ⟨hpage, -⟩ | ⟨-, haddrs⟩
    · rwa [SysMemoryRegion.pageSizeBytes, hpage]
    · -- the pages got larger, with this address among those that were looked at
      refine haddrs _ (List.mem_append_left _ (List.mem_map_of_mem (List.mem_filter.mpr ⟨mem_allMaps hspace hmap, ?_⟩)))
      rw [(findMr_mem hm).2]
      exact beq_self_eq_true _

/-- Maps that end below the maximum do not overlap. -/
lemma Parsed.disjoint (h : Parsed filename config files system body flat sd) {space : AddressSpace}
    (hspace : space ∈ addressSpaces config sd.protectionDomains)
    (hfits : ∀ map ∈ space.maps, map.vaddr.toNat + mapSize sd.memoryRegions map ≤ space.maxVaddr.toNat) :
    space.maps.Pairwise fun a b => Disjoint (a.range sd.memoryRegions) (b.range sd.memoryRegions) := by
  refine (checkAllMaps_ok h.checked.maps hspace).2.imp_of_mem ?_
  intro a b ha hb hapart
  have hlt := space.maxVaddr.isLt
  have hend : ∀ map ∈ space.maps, (mapEnd body.mrs map).toNat = map.vaddr.toNat + mapSize sd.memoryRegions map := by
    intro map hmap
    exact mapEnd_toNat h.regions (lt_of_le_of_lt (hfits map hmap) hlt)
  exact disjoint_of_apart hapart (hend a ha) (hend b hb)

/-- Regions at physical addresses are apart. -/
lemma Parsed.physDisjoint (h : Parsed filename config files system body flat sd)
    (hfits : ∀ p ∈ specifiedRegions sd.memoryRegions, p.2.toNat + p.1.size.toNat < 2 ^ 64) :
    (specifiedRegions sd.memoryRegions).Pairwise fun p q => Disjoint (physRange p) (physRange q) := by
  obtain ⟨regions, hpaddrs⟩ := h.checked.paddrs
  have hapart := checkRanges_ok hpaddrs .nil
  rw [List.nil_append] at hapart
  have hranges : (specifiedRegions sd.memoryRegions).map (fun p => (p.2, p.2 + p.1.size)) =
      (specifiedRegions body.mrs).map fun p => (p.2, p.2 + p.1.size) := by
    have hforall := specified_finished h.regions
    generalize specifiedRegions body.mrs = xs at hforall
    generalize specifiedRegions sd.memoryRegions = ys at hforall
    induction hforall with
    | nil => rfl
    | cons hp _ ih => rw [List.map_cons, List.map_cons, ih, hp.1, hp.2]
  have hapart' : (specifiedRegions sd.memoryRegions).Pairwise fun p q =>
      Apart (p.2, p.2 + p.1.size) (q.2, q.2 + q.1.size) := by
    have hmap : ((specifiedRegions body.mrs).map fun p => (p.2, p.2 + p.1.size)).Pairwise Apart :=
      List.pairwise_map.mpr hapart
    rw [← hranges] at hmap
    exact List.pairwise_map.mp hmap
  refine hapart'.imp_of_mem ?_
  intro p q hp hq hpq
  have hend : ∀ p ∈ specifiedRegions sd.memoryRegions, (p.2 + p.1.size).toNat = p.2.toNat + p.1.size.toNat := by
    intro p hp
    rw [BitVec.toNat_add, Nat.mod_eq_of_lt (hfits p hp)]
  exact disjoint_of_apart hpq (hend p hp) (hend q hq)

end parsed

/-- The ranges of a description that the parser accepts are sound exactly if their ends fit. -/
theorem parse_ranges_iff {filename : String} {config : Config} {files : String → PrefillFile}
    {doc : Except String (List Node)} {sd : SystemDescription} (h : parse filename config files doc = .ok sd) :
    RangesSound config sd ↔ EndsFit config sd := by
  obtain ⟨system, body, flat, hparsed⟩ := parse_ok h
  constructor
  · intro hs
    exact ⟨hs.below, hs.noWrap⟩
  · intro hf
    exact ⟨fun _ hspace _ => hparsed.aligned hspace, hf.maps, fun space hspace =>
      hparsed.disjoint hspace (hf.maps space hspace), hf.regions, hparsed.physDisjoint hf.regions⟩

/-- A protection domain with a virtual machine, which maps two pages at the last page that an address space has. -/
private def lastPage : List Node :=
  [.element "system" [] ⟨1, 1⟩ [
    .element "memory_region" [("name", "ram"), ("size", "0x2000")] ⟨2, 3⟩ [],
    .element "protection_domain" [("name", "vmm")] ⟨3, 3⟩ [
      .element "program_image" [("path", "vmm.elf")] ⟨4, 5⟩ [],
      .element "virtual_machine" [("name", "guest")] ⟨5, 5⟩ [
        .element "vcpu" [("id", "0")] ⟨6, 7⟩ [],
        .element "map" [("mr", "ram"), ("vaddr", "0xfffffff000")] ⟨7, 7⟩ []]]]]

private def hypervisor40 : Config :=
  ⟨.aarch64, true, false, 1, some 40, none, ⟨11, 4, 6, 5, 13, 12, 21, 12, 12⟩, paSize_forty⟩

private def lastPageParsed : SystemDescription :=
  ⟨[{ id := none, name := "vmm", priority := 0, budget := 1000, period := 1000, passive := false, stackSize := 0x2000
      smc := false, cpu := 0, programImage := "vmm.elf", programImageForSymbols := none, fpu := true,
      maps := [], irqs := []
      ioports := [], setvars := []
      virtualMachine := some ⟨[⟨0, none, none⟩], "guest", [⟨"ram", 0xfffffff000, 3, true, ⟨7, 7⟩⟩], 0, 1000, 1000⟩
      hasChildren := false, parent := none, setvarId := none, textPos := ⟨3, 3⟩ }],
    [⟨"ram", 0x2000, false, .small, 2, .unspecified, ⟨2, 3⟩, none⟩], []⟩

private lemma lastPage_parsed :
    parse "vm.system" hypervisor40 (fun _ => .notFound) (.ok lastPage) = .ok lastPageParsed := by
  decide +kernel

/-- A map of two pages that begins in the last one. -/
theorem parse_ranges_iff_lastPage :
    parse "vm.system" hypervisor40 (fun _ => .notFound) (.ok lastPage) = .ok lastPageParsed ∧
      (RangesSound hypervisor40 lastPageParsed ↔ EndsFit hypervisor40 lastPageParsed) :=
  ⟨lastPage_parsed, parse_ranges_iff lastPage_parsed⟩

/-- The second page of the map lies beyond the address space. -/
theorem parse_ranges_beyond :
    ∃ sd, parse "vm.system" hypervisor40 (fun _ => .notFound) (.ok lastPage) = .ok sd ∧
    ¬ RangesSound hypervisor40 sd := by
  refine ⟨lastPageParsed, lastPage_parsed, fun h => ?_⟩
  have hbelow := h.below ⟨0x10000000000, [⟨"ram", 0xfffffff000, 3, true, ⟨7, 7⟩⟩]⟩ (by decide) _ List.mem_cons_self
  exact absurd hbelow (by decide)

end NexsKernel.Sdf
