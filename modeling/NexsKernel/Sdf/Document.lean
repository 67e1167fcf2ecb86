import NexsKernel.Sdf.Checked

/-!
# The elements at the top

Which element of a document each root protection domain and each memory region of the description comes from, and what
a memory region has from its element.
-/

namespace NexsKernel.Sdf

open Checks

/-- The element `system` of a document. -/
def systemNode (nodes : List Node) : Option Node :=
  nodes.find? (·.tag == "system")

/-- The elements with a tag, in their order. -/
def Node.tagged (node : Node) (tag : String) : List Node :=
  node.elements.filter (·.tag == tag)

section document

variable {filename : String} {config : Config} {files : String → PrefillFile}

/-- What has been parsed of the elements `elements`. -/
structure TopLevel (filename : String) (config : Config) (files : String → PrefillFile) (elements : List Node)
    (body : SystemBody) : Prop where
  rootPds : List.Forall₂ (fun node pd => ProtectionDomain.fromXml filename config false node = .ok pd)
    (elements.filter (·.tag == "protection_domain")) body.rootPds
  mrs : List.Forall₂ (fun node mr => SysMemoryRegion.fromXml filename files node = .ok mr)
    (elements.filter (·.tag == "memory_region")) body.mrs
  channelNodes : body.channelNodes = elements.filter (·.tag == "channel")

lemma filter_snoc_of_tag {elements : List Node} {child : Node} {tag : String} (h : child.tag = tag) :
    (elements ++ [child]).filter (·.tag == tag) = elements.filter (·.tag == tag) ++ [child] := by
  rw [List.filter_append, List.filter_singleton, beq_iff_eq.mpr h]
  rfl

lemma filter_snoc_of_ne {elements : List Node} {child : Node} {tag : String} (h : child.tag ≠ tag) :
    (elements ++ [child]).filter (·.tag == tag) = elements.filter (·.tag == tag) := by
  rw [List.filter_append, List.filter_singleton, beq_eq_false_iff_ne.mpr h]
  exact List.append_nil _

/-- Each element of the system is read in its turn. -/
lemma TopLevel.addElement {before : List Node} {child : Node} {body body' : SystemBody}
    (hb : TopLevel filename config files before body)
    (h : body.addElement filename config files child = .ok body') :
    TopLevel filename config files (before ++ [child]) body' := by
  unfold SystemBody.addElement at h
  split_ifs at h with hpd hchannel hmr hvm
  · obtain ⟨pd, hparsed, h⟩ := bind_ok.mp h
    obtain rfl := pure_ok.mp h
    refine ⟨?_, ?_, ?_⟩
    · rw [filter_snoc_of_tag hpd]
      exact List.rel_append hb.rootPds (.cons hparsed .nil)
    · rw [filter_snoc_of_ne (by rw [hpd]; decide)]
      exact hb.mrs
    · rw [filter_snoc_of_ne (by rw [hpd]; decide)]
      exact hb.channelNodes
  · obtain rfl := pure_ok.mp h
    refine ⟨?_, ?_, ?_⟩
    · rw [filter_snoc_of_ne hpd]
      exact hb.rootPds
    · rw [filter_snoc_of_ne (by rw [hchannel]; decide)]
      exact hb.mrs
    · rw [filter_snoc_of_tag hchannel, ← hb.channelNodes]
  · obtain ⟨mr, hparsed, h⟩ := bind_ok.mp h
    obtain rfl := pure_ok.mp h
    refine ⟨?_, ?_, ?_⟩
    · rw [filter_snoc_of_ne hpd]
      exact hb.rootPds
    · rw [filter_snoc_of_tag hmr]
      exact List.rel_append hb.mrs (.cons hparsed .nil)
    · rw [filter_snoc_of_ne hchannel]
      exact hb.channelNodes
  · cases h
  · cases h

lemma TopLevel.run {elements : List Node} {body : SystemBody}
    (h : elements.foldlM (SystemBody.addElement filename config files) ⟨[], [], []⟩ = .ok body) :
    TopLevel filename config files elements body :=
  foldlM_prefix (fun _ _ _ _ => TopLevel.addElement) ⟨.nil, .nil, rfl⟩ h

/-! ## Memory regions -/

/-- What `SysMemoryRegion::from_xml` has read. -/
structure RegionRead (filename : String) (files : String → PrefillFile) (node : Node)
    (mr : SysMemoryRegion) : Prop where
  name : node.attr "name" = some mr.name
  pageSize : numberOr node "page_size" PageSize.small.bytes = .ok mr.pageSizeBytes
  byUser : mr.pageSizeSpecifiedByUser = (node.attr "page_size").isSome
  prefillBytes : SysMemoryRegion.prefill filename files node = .ok mr.prefillBytes
  size : SysMemoryRegion.determineSize filename node mr.prefillBytes mr.pageSizeBytes = .ok mr.size
  specified : ∀ s, node.attr "phys_addr" = some s →
    ∃ paddr, sdfParseNumber s node = .ok paddr ∧ paddr % mr.pageSizeBytes = 0 ∧ mr.physAddr = .specified paddr
  unspecified : node.attr "phys_addr" = none → mr.physAddr = .unspecified
  pageCount : mr.pageCount = mr.size / mr.pageSizeBytes

lemma SysMemoryRegion.fromXml_ok {node : Node} {mr : SysMemoryRegion}
    (h : SysMemoryRegion.fromXml filename files node = .ok mr) : RegionRead filename files node mr := by
  unfold SysMemoryRegion.fromXml at h
  obtain ⟨⟨⟩, -, h⟩ := bind_ok.mp h
  obtain ⟨name, hname, h⟩ := bind_ok.mp h
  obtain ⟨pageSize, hpageSize, h⟩ := bind_ok.mp h
  obtain ⟨-, h⟩ := failIf_bind.mp h
  obtain ⟨prefillBytes, hprefill, h⟩ := bind_ok.mp h
  obtain ⟨size, hsize, h⟩ := bind_ok.mp h
  dsimp only at h
  cases hs : node.attr "phys_addr" with
  | some s =>
    rw [hs] at h
    obtain ⟨paddr, hpaddr, h⟩ := bind_ok.mp h
    obtain ⟨haligned, h⟩ := failIf_bind.mp h
    rw [pure_bind] at h
    obtain ⟨p, hp, h⟩ := bind_ok.mp h
    obtain rfl := ofBytes_ok hp
    obtain rfl := pure_ok.mp h
    refine ⟨orFail_ok.mp hname, hpageSize, rfl, hprefill, hsize, fun s' e => ?_, fun e => ?_, rfl⟩
    · obtain rfl := Option.some.inj (hs.symm.trans e)
      exact ⟨paddr, hpaddr, not_not.mp haligned, rfl⟩
    · cases hs.symm.trans e
  | none =>
    rw [hs, pure_bind] at h
    obtain ⟨p, hp, h⟩ := bind_ok.mp h
    obtain rfl := ofBytes_ok hp
    obtain rfl := pure_ok.mp h
    refine ⟨orFail_ok.mp hname, hpageSize, rfl, hprefill, hsize, fun s' e => ?_, fun _ => rfl, rfl⟩
    cases hs.symm.trans e

lemma RegionRead.small {node : Node} {mr : SysMemoryRegion} (h : RegionRead filename files node mr)
    (hnone : node.attr "page_size" = none) : mr.pageSize = .small := by
  have hread := h.pageSize
  unfold numberOr at hread
  rw [hnone] at hread
  have hbytes : PageSize.small.bytes = mr.pageSize.bytes := pure_ok.mp hread
  cases hp : mr.pageSize with
  | small => rfl
  | large =>
    rw [hp] at hbytes
    exact absurd hbytes (by decide)

lemma RegionRead.explicit {node : Node} {mr : SysMemoryRegion} (h : RegionRead filename files node mr) {s : String}
    (hs : node.attr "page_size" = some s) : sdfParseNumber s node = .ok mr.pageSizeBytes := by
  have hread := h.pageSize
  unfold numberOr at hread
  rwa [hs] at hread

lemma roundUp_mod {p : PageSize} (n : Word) : roundUp n p.bytes % p.bytes = 0 := by
  apply BitVec.eq_of_toNat_eq
  unfold roundUp
  split_ifs with h
  · rw [h]
  · rw [BitVec.toNat_umod, BitVec.toNat_sub, BitVec.toNat_add, BitVec.toNat_umod]
    change _ = 0
    cases p with
    | small =>
      rw [show PageSize.small.bytes.toNat = 0x1000 from rfl]
      omega
    | large =>
      rw [show PageSize.large.bytes.toNat = 0x200000 from rfl]
      omega

lemma RegionRead.size_mod {node : Node} {mr : SysMemoryRegion} (h : RegionRead filename files node mr) :
    mr.size % mr.pageSizeBytes = 0 := by
  have hsize := h.size
  unfold SysMemoryRegion.determineSize at hsize
  split at hsize
  · obtain ⟨size, -, hsize⟩ := bind_ok.mp hsize
    obtain ⟨hmod, hsize⟩ := failIf_bind.mp hsize
    split at hsize
    · obtain ⟨-, hsize⟩ := failIf_bind.mp hsize
      obtain rfl := pure_ok.mp hsize
      exact not_not.mp hmod
    · obtain rfl := pure_ok.mp hsize
      exact not_not.mp hmod
  · split at hsize
    · rw [← pure_ok.mp hsize]
      exact roundUp_mod _
    · cases hsize

lemma RegionRead.paddr_mod {node : Node} {mr : SysMemoryRegion} (h : RegionRead filename files node mr) {paddr : Word}
    (hpaddr : mr.specifiedPaddr = some paddr) : paddr % mr.pageSizeBytes = 0 := by
  unfold SysMemoryRegion.specifiedPaddr at hpaddr
  cases hs : node.attr "phys_addr" with
  | none =>
    rw [h.unspecified hs] at hpaddr
    cases hpaddr
  | some s =>
    obtain ⟨paddr', -, hmod, hphysAddr⟩ := h.specified s hs
    rw [hphysAddr] at hpaddr
    obtain rfl := Option.some.inj hpaddr
    exact hmod

lemma le_roundUp {p : PageSize} {n : Nat} (hn : n < 2 ^ 63) : n ≤ (roundUp (BitVec.ofNat 64 n) p.bytes).toNat := by
  have hword : (BitVec.ofNat 64 n).toNat = n := Nat.mod_eq_of_lt (by omega)
  unfold roundUp
  split_ifs with h
  · exact hword.ge
  · rw [BitVec.toNat_sub, BitVec.toNat_add, BitVec.toNat_umod, hword]
    cases p with
    | small =>
      rw [show PageSize.small.bytes.toNat = 0x1000 from rfl]
      omega
    | large =>
      rw [show PageSize.large.bytes.toNat = 0x200000 from rfl]
      omega

/-- The file fits in the memory region. A `Vec` has less than `2 ^ 63` bytes. -/
lemma RegionRead.prefill_le {node : Node} {mr : SysMemoryRegion} (h : RegionRead filename files node mr)
    {bytes : List (BitVec 8)} (hbytes : mr.prefillBytes = some bytes) (hlength : bytes.length < 2 ^ 63) :
    bytes.length ≤ mr.size.toNat := by
  have hsize := h.size
  unfold SysMemoryRegion.determineSize at hsize
  rw [hbytes] at hsize
  split at hsize
  · obtain ⟨size, -, hsize⟩ := bind_ok.mp hsize
    obtain ⟨-, hsize⟩ := failIf_bind.mp hsize
    obtain ⟨hle, hsize⟩ := failIf_bind.mp hsize
    obtain rfl := pure_ok.mp hsize
    have hle : (BitVec.ofNat 64 bytes.length).toNat ≤ mr.size.toNat := BitVec.le_def.mp (BitVec.not_lt.mp hle)
    rwa [BitVec.toNat_ofNat, Nat.mod_eq_of_lt (by omega)] at hle
  · rw [← pure_ok.mp hsize]
    exact le_roundUp hlength

/-- Each memory region of the description is one that has been read, with pages and an address as they have been
chosen. -/
lemma Stages.regions {nodes : List Node} {system : Node} {body : SystemBody} {flat : List ProtectionDomain}
    {optimised : List SysMemoryRegion} {sd : SystemDescription}
    (h : Stages filename config files nodes system body flat optimised sd) :
    List.Forall₂ (fun node mr' => ∃ mr, RegionRead filename files node mr ∧
      Finished (allMaps sd.protectionDomains) mr mr') (system.tagged "memory_region") sd.memoryRegions := by
  have hread : List.Forall₂
      (fun node mr' => ∃ mr, RegionRead filename files node mr ∧ Finished (allMaps sd.protectionDomains) mr mr')
      (system.tagged "memory_region") optimised := by
    refine forall₂_comp ?_ (TopLevel.run h.elements).mrs h.pages
    intro _ mr _ hread hpages
    exact ⟨mr, SysMemoryRegion.fromXml_ok hread, optimisePageSize_ok hpages⟩
  refine forall₂_comp ?_ hread h.paddrs
  rintro _ _ _ ⟨mr, hread, hfinished⟩ hallocate
  exact ⟨mr, hread, hfinished.toolAllocate hallocate⟩

end document

end NexsKernel.Sdf
