import NexsKernel.Sdf.PageSizes
import NexsKernel.Sdf.Flatten
import NexsKernel.Sdf.Written

/-!
# Nothing is lost

`DocumentKept` says that a description has all that is written in its document: the elements in the same places, each
number as it is written, and one setvar for each attribute that asks for one. The parser keeps everything but two parts of a
virtual machine: the setvars of its virtual CPUs, and the bits of its priority above the eighth.
-/

namespace NexsKernel.Sdf

open Checks

/-! ## Protection domains -/

/-- The attributes of a protection domain have been read. -/
structure HeaderKept (isChild : Bool) (node : Node) (pd : ProtectionDomain) : Prop where
  name : node.attr "name" = some pd.name
  id : if isChild then ∃ id, pd.id = some id ∧ HasNumber written node "id" id.toNat else pd.id = none
  priority : HasNumberOr written node "priority" 0 pd.priority.toNat
  budget : HasNumberOr written node "budget" budgetDefault.toNat pd.budget.toNat
  period : HasNumberOr written node "period" pd.budget.toNat pd.period.toNat
  stackSize : HasNumberOr written node "stack_size" pdDefaultStackSize.toNat pd.stackSize.toNat
  cpu : HasNumberOr written node "cpu" 0 pd.cpu
  setvarId : pd.setvarId = if isChild then node.attr "setvar_id" else none

section domains

variable {filename : String} {config : Config} {node child : Node} {isChild : Bool}

/-- The attributes of a protection domain are kept. -/
lemma ProtectionDomain.header_kept {pd : ProtectionDomain}
    (h : ProtectionDomain.header filename config node isChild = .ok pd) :
    HeaderKept isChild node pd := by
  unfold ProtectionDomain.header at h
  obtain ⟨⟨⟩, -, h⟩ := bind_ok.mp h
  obtain ⟨name, hname, h⟩ := bind_ok.mp h
  extract_lets setvarId rest at h
  obtain ⟨id, hid, h⟩ : ∃ id : Option Word,
    (if isChild then ∃ w, id = some w ∧ HasNumber written node "id" w.toNat else id = none) ∧ rest id = .ok pd := by
    split_ifs at h with hchild
    · obtain ⟨text, htext, h⟩ := bind_ok.mp h
      obtain ⟨w, hw, h⟩ := bind_ok.mp h
      obtain ⟨id, hid, h⟩ := bind_ok.mp h
      obtain rfl := pure_ok.mp hid
      refine ⟨some w, ?_, h⟩
      rw [if_pos hchild]
      exact ⟨w, rfl, text, checkedLookup_ok htext, sdfParseNumber_written hw⟩
    · obtain ⟨id, hid, h⟩ := bind_ok.mp h
      obtain rfl := pure_ok.mp hid
      refine ⟨none, ?_, h⟩
      rw [if_neg hchild]
  obtain ⟨⟨budget, period⟩, hbudget, h⟩ := bind_ok.mp h
  obtain ⟨passive, -, h⟩ := bind_ok.mp h
  obtain ⟨stackSize, hstackSize, h⟩ := bind_ok.mp h
  obtain ⟨smc, -, h⟩ := bind_ok.mp h
  extract_lets rest' at h
  obtain ⟨u, h⟩ : ∃ u, rest' u = .ok pd := by
    split_ifs at h
    · split at h <;> exact (bind_ok.mp h).imp fun _ h => h.2
    · exact ⟨(), h⟩
  obtain ⟨cpu, hcpu, h⟩ := bind_ok.mp h
  obtain ⟨-, h⟩ := failIf_bind.mp h
  obtain ⟨-, h⟩ := failIf_bind.mp h
  obtain ⟨-, h⟩ := failIf_bind.mp h
  obtain ⟨priority, hpriority, h⟩ := bind_ok.mp h
  obtain ⟨hmax, h⟩ := failIf_bind.mp h
  obtain ⟨fpu, -, h⟩ := bind_ok.mp h
  obtain rfl := pure_ok.mp h
  obtain ⟨hbudget, hperiod⟩ := parseBudget_ok hbudget
  have hword : (priority.setWidth 8).toNat = priority.toNat := by
    have hle : priority.toNat ≤ 254 := not_lt.mp hmax
    rw [BitVec.toNat_setWidth, Nat.mod_eq_of_lt (by omega)]
  refine ⟨checkedLookup_ok hname, hid, ?_, hbudget, hperiod, numberOr_hasNumberOr hstackSize, ?_, rfl⟩
  · change HasNumberOr written node "priority" 0 (priority.setWidth 8).toNat
    rw [hword]
    exact numberOr_hasNumberOr hpriority
  · have hwritten := parseCpu_ok hcpu
    cases hattr : node.attr "cpu" with
    | some s =>
      rw [hattr] at hwritten
      exact hasNumberOr_some hattr hwritten
    | none =>
      rw [hattr, Option.getD_none, show written "0" = some 0 from rfl] at hwritten
      have hzero : cpu = 0 := by exact_mod_cast (Option.some.inj hwritten).symm
      rw [hzero]
      exact hasNumberOr_none hattr

/-- The setvars that are made of an element in a protection domain: those of virtual CPUs are not. -/
def readSetvars (node : Node) : List SysSetVar :=
  if node.tag = "virtual_machine" then [] else writtenSetvars node

/-- What has been read of the elements `elements` in a protection domain. -/
structure BodyRead (filename : String) (config : Config) (elements : List Node) (body : PdBody) : Prop where
  maps : List.Forall₂ MapKept (elements.filter (·.tag == "map")) body.maps
  irqs : List.Forall₂ IrqKept (elements.filter (·.tag == "irq")) body.irqs
  ioports : List.Forall₂ IOPortKept (elements.filter (·.tag == "ioport")) body.ioports
  vms : List.Forall₂ VmRead (elements.filter (·.tag == "virtual_machine")) body.virtualMachine.toList
  childPds : List.Forall₂ (fun child tree => ProtectionDomain.fromXml filename config true child = .ok tree)
    (elements.filter (·.tag == "protection_domain")) body.childPds
  setvars : body.setvars = elements.flatMap readSetvars

section body

variable {before : List Node} {body body' : PdBody} {stackSize : Word}

lemma tagged_same {α : Type} {R : Node → α → Prop} {tag : String} {xs : List α} {x : α} (htag : child.tag = tag)
    (h : List.Forall₂ R (before.filter (·.tag == tag)) xs) (hx : R child x) :
    List.Forall₂ R ((before ++ [child]).filter (·.tag == tag)) (xs ++ [x]) := by
  rw [filter_snoc_of_tag htag]
  exact List.rel_append h (.cons hx .nil)

lemma tagged_other {α : Type} {R : Node → α → Prop} {tag tag' : String} {xs : List α} (htag : child.tag = tag')
    (hne : tag' ≠ tag) (h : List.Forall₂ R (before.filter (·.tag == tag)) xs) :
    List.Forall₂ R ((before ++ [child]).filter (·.tag == tag)) xs := by
  rw [filter_snoc_of_ne (htag ▸ hne)]
  exact h

/-- Each element of a protection domain is read in its turn. -/
lemma PdBody.addElement_read (hb : BodyRead filename config before body)
    (h : body.addElement filename config node stackSize child = .ok body') :
    BodyRead filename config (before ++ [child]) body' := by
  have hsetvars : ∀ {setvars}, setvars = body.setvars ++ readSetvars child →
    setvars = (before ++ [child]).flatMap readSetvars := by
    intro setvars e
    rw [e, List.flatMap_append, List.flatMap_singleton, ← hb.setvars]
  unfold PdBody.addElement at h
  split_ifs at h with himage hmap hirq hioport hsetvar hvm
  · obtain ⟨⟨⟩, -, h⟩ := bind_ok.mp h
    obtain ⟨-, h⟩ := failIf_bind.mp h
    obtain ⟨path, -, h⟩ := bind_ok.mp h
    obtain rfl := pure_ok.mp h
    refine ⟨tagged_other himage (by decide) hb.maps, tagged_other himage (by decide) hb.irqs,
      tagged_other himage (by decide) hb.ioports, tagged_other himage (by decide) hb.vms,
      tagged_other himage (by decide) hb.childPds, hsetvars ?_⟩
    unfold readSetvars writtenSetvars
    simp [himage]
  · obtain ⟨map, hparsed, h⟩ := bind_ok.mp h
    obtain ⟨setvars1, h1, h⟩ := bind_ok.mp h
    obtain ⟨setvars2, h2, h⟩ := bind_ok.mp h
    obtain ⟨setvars3, h3, h⟩ := bind_ok.mp h
    obtain rfl := pure_ok.mp h
    have hkept := SysMap.fromXml_kept hparsed
    refine ⟨tagged_same hmap hb.maps hkept, tagged_other hmap (by decide) hb.irqs,
      tagged_other hmap (by decide) hb.ioports, tagged_other hmap (by decide) hb.vms,
      tagged_other hmap (by decide) hb.childPds, hsetvars ?_⟩
    have hvaddr := hkept.vaddr.numberOf_eq
    unfold readSetvars writtenSetvars
    rw [if_neg (by rw [hmap]; decide), if_pos hmap, hvaddr, hkept.mr, Option.getD_some, setvarOf_ok h3, setvarOf_ok h2,
      setvarOf_ok h1, List.append_assoc, List.append_assoc, List.append_assoc]
  · obtain ⟨id, hid, h⟩ := bind_ok.mp h
    obtain ⟨setvars1, h1, h⟩ := bind_ok.mp h
    obtain ⟨kind, hkind, h⟩ := bind_ok.mp h
    obtain rfl := pure_ok.mp h
    obtain ⟨k, rfl, hnumbers⟩ := SysIrqKind.fromXml_kept hkind
    have hkept : IrqKept child ⟨id, k⟩ := ⟨parseId_ok hid, hnumbers⟩
    refine ⟨tagged_other hirq (by decide) hb.maps, tagged_same hirq hb.irqs hkept,
      tagged_other hirq (by decide) hb.ioports, tagged_other hirq (by decide) hb.vms,
      tagged_other hirq (by decide) hb.childPds, hsetvars ?_⟩
    have hid := hkept.id.numberOf_eq
    unfold readSetvars writtenSetvars
    rw [if_neg (by rw [hirq]; decide), if_neg hmap, if_pos hirq, hid, setvarOf_ok h1]
  · obtain ⟨⟨ioport, setvars⟩, hparsed, h⟩ := bind_ok.mp h
    obtain rfl := pure_ok.mp h
    obtain ⟨hkept, hadded⟩ := IOPort.fromXml_kept hioport hparsed
    refine ⟨tagged_other hioport (by decide) hb.maps, tagged_other hioport (by decide) hb.irqs,
      tagged_same hioport hb.ioports hkept, tagged_other hioport (by decide) hb.vms,
      tagged_other hioport (by decide) hb.childPds, hsetvars ?_⟩
    unfold readSetvars
    rwa [if_neg (by rw [hioport]; decide)]
  · obtain ⟨⟨⟩, -, h⟩ := bind_ok.mp h
    obtain ⟨symbol, hsymbol, h⟩ := bind_ok.mp h
    obtain ⟨region, hregion, h⟩ := bind_ok.mp h
    obtain ⟨setvars, hadded, h⟩ := bind_ok.mp h
    obtain rfl := pure_ok.mp h
    refine ⟨tagged_other hsetvar (by decide) hb.maps, tagged_other hsetvar (by decide) hb.irqs,
      tagged_other hsetvar (by decide) hb.ioports, tagged_other hsetvar (by decide) hb.vms,
      tagged_other hsetvar (by decide) hb.childPds, hsetvars ?_⟩
    unfold readSetvars writtenSetvars attrSetvar
    rw [if_neg (by rw [hsetvar]; decide), if_neg hmap, if_neg hirq, if_neg hioport, if_pos hsetvar,
      checkedLookup_ok hsymbol, checkedLookup_ok hregion, checkedAddSetvar_ok hadded]
    rfl
  · obtain ⟨-, h⟩ := failIf_bind.mp h
    obtain ⟨hnone, h⟩ := failIf_bind.mp h
    obtain ⟨vm, hparsed, h⟩ := bind_ok.mp h
    obtain ⟨setvars, hadded, h⟩ := bind_ok.mp h
    obtain rfl := pure_ok.mp h
    have hread := VirtualMachine.fromXml_read hparsed
    refine ⟨tagged_other hvm (by decide) hb.maps, tagged_other hvm (by decide) hb.irqs,
      tagged_other hvm (by decide) hb.ioports, ?_, tagged_other hvm (by decide) hb.childPds, hsetvars ?_⟩
    · have hvms := hb.vms
      rw [Option.not_isSome_iff_eq_none.mp hnone] at hvms
      exact tagged_same hvm hvms hread
    · have hsame : setvars = body.setvars := by
        refine foldlM_ok (P := (· = body.setvars)) (fun vcpu hvcpu setvars1 setvars2 h1 hstep => ?_) rfl hadded
        obtain ⟨_, -, hnone, -⟩ := exists_of_forall₂ hread.vcpus hvcpu
        rw [hnone] at hstep
        exact (pure_ok.mp hstep).symm.trans h1
      unfold readSetvars
      rw [if_pos hvm, List.append_nil]
      exact hsame
  · cases h

/-- Nothing has been parsed yet. -/
def PdBody.empty : PdBody := ⟨[], [], [], [], [], none, none, none⟩

lemma ProtectionDomain.fromXml_parts {tree : PdTree}
    (h : ProtectionDomain.fromXml filename config isChild node = .ok tree) :
    ∃ pd body, HeaderKept isChild node pd ∧
      PdBody.addChildren filename config node pd.stackSize .empty node.children = .ok body ∧ body.finish pd =
      .ok tree := by
  rw [ProtectionDomain.fromXml] at h
  obtain ⟨pd, hpd, h⟩ := bind_ok.mp h
  refine ⟨pd, ?_⟩
  extract_lets rest at h
  split at h
  · obtain ⟨body, hbody, h⟩ := bind_ok.mp h
    exact ⟨body, ProtectionDomain.header_kept hpd, hbody, h⟩
  · rename_i hother
    obtain ⟨body, hbody, h⟩ := bind_ok.mp h
    refine ⟨body, ProtectionDomain.header_kept hpd, ?_, h⟩
    cases node with
    | element tag attributes pos children => exact absurd rfl (hother tag attributes pos children)
    | text => exact hbody
    | comment => exact hbody
    | instruction => exact hbody

/-- What `PdBody.finish` has put together. -/
lemma PdBody.finish_ok {pd : ProtectionDomain} {tree : PdTree} (h : body.finish pd = .ok tree) :
    tree.childPds = body.childPds ∧ tree.pd = { pd with
      programImage := tree.pd.programImage, programImageForSymbols := body.programImageForSymbols
      maps := body.maps, irqs := body.irqs, ioports := body.ioports, setvars := body.setvars
      virtualMachine := body.virtualMachine, hasChildren := !body.childPds.isEmpty } := by
  obtain ⟨image, -, h⟩ := bind_ok.mp h
  obtain rfl := pure_ok.mp h
  exact ⟨rfl, rfl⟩

lemma ProtectionDomain.fromXml_header {tree : PdTree}
    (h : ProtectionDomain.fromXml filename config isChild node = .ok tree) :
    HeaderKept isChild node tree.pd := by
  obtain ⟨pd, body, hkept, -, h⟩ := ProtectionDomain.fromXml_parts h
  rw [(PdBody.finish_ok h).2]
  exact ⟨hkept.name, hkept.id, hkept.priority, hkept.budget, hkept.period, hkept.stackSize, hkept.cpu, hkept.setvarId⟩

lemma PdBody.addChildPd_read {tree : PdTree} (hb : BodyRead filename config before body)
    (htag : child.tag = "protection_domain") (hparsed : ProtectionDomain.fromXml filename config true child = .ok tree)
    (h : body.addChildPd filename tree child = .ok body') : BodyRead filename config (before ++ [child]) body' := by
  obtain ⟨setvars, hadded, h⟩ := bind_ok.mp h
  obtain rfl := pure_ok.mp h
  have hheader := ProtectionDomain.fromXml_header hparsed
  obtain ⟨id, hid, hnumber⟩ : ∃ id, tree.pd.id = some id ∧ HasNumber written child "id" id.toNat := hheader.id
  have hsetvarId : tree.pd.setvarId = child.attr "setvar_id" := hheader.setvarId
  refine ⟨tagged_other htag (by decide) hb.maps, tagged_other htag (by decide) hb.irqs,
    tagged_other htag (by decide) hb.ioports, tagged_other htag (by decide) hb.vms,
    tagged_same htag hb.childPds hparsed, ?_⟩
  rw [hsetvarId, hid] at hadded
  rw [List.flatMap_append, List.flatMap_singleton, ← hb.setvars, setvarOf_ok hadded]
  have hid := hnumber.numberOf_eq
  unfold readSetvars writtenSetvars
  rw [if_neg (by rw [htag]; decide), if_neg (by rw [htag]; decide), if_neg (by rw [htag]; decide),
    if_neg (by rw [htag]; decide), if_neg (by rw [htag]; decide), if_neg (by rw [htag]; decide), if_pos htag, hid]
  rfl

lemma PdBody.addChildren_read {children : List Node} (hb : BodyRead filename config before body)
    (h : PdBody.addChildren filename config node stackSize body children = .ok body') :
    BodyRead filename config (before ++ children.filter (·.isElement)) body' := by
  induction children generalizing before body with
  | nil =>
    rw [PdBody.addChildren] at h
    obtain rfl := pure_ok.mp h
    rwa [List.filter_nil, List.append_nil]
  | cons child children ih =>
    rw [PdBody.addChildren] at h
    split_ifs at h with htext hpd
    · obtain ⟨body, e, h⟩ := bind_ok.mp h
      obtain rfl := pure_ok.mp e
      rw [List.filter_cons_of_neg (by rw [htext]; exact Bool.false_ne_true)]
      exact ih hb h
    · obtain ⟨tree, hparsed, h⟩ := bind_ok.mp h
      obtain ⟨body1, hadded, h⟩ := bind_ok.mp h
      rw [List.filter_cons_of_pos (Bool.not_eq_false _ ▸ htext), List.append_cons]
      exact ih (PdBody.addChildPd_read hb hpd hparsed hadded) h
    · obtain ⟨body1, hadded, h⟩ := bind_ok.mp h
      rw [List.filter_cons_of_pos (Bool.not_eq_false _ ▸ htext), List.append_cons]
      exact ih (PdBody.addElement_read hb hadded) h

end body

/-- A protection domain keeps its element. `more` are the setvars of its channel ends. -/
structure PdKept (isChild : Bool) (node : Node) (more : List SysSetVar) (pd : ProtectionDomain) : Prop
    extends HeaderKept isChild node pd where
  maps : List.Forall₂ MapKept (node.tagged "map") pd.maps
  irqs : List.Forall₂ IrqKept (node.tagged "irq") pd.irqs
  ioports : List.Forall₂ IOPortKept (node.tagged "ioport") pd.ioports
  vms : List.Forall₂ VmKept (node.tagged "virtual_machine") pd.virtualMachine.toList
  setvars : pd.setvars = node.elements.flatMap writtenSetvars ++ more

/-- What is known of a protection domain that has been parsed. -/
structure PdRead (isChild : Bool) (node : Node) (more : List SysSetVar) (pd : ProtectionDomain) : Prop
    extends HeaderKept isChild node pd where
  maps : List.Forall₂ MapKept (node.tagged "map") pd.maps
  irqs : List.Forall₂ IrqKept (node.tagged "irq") pd.irqs
  ioports : List.Forall₂ IOPortKept (node.tagged "ioport") pd.ioports
  vms : List.Forall₂ VmRead (node.tagged "virtual_machine") pd.virtualMachine.toList
  setvars : pd.setvars = node.elements.flatMap readSetvars ++ more

/-- Nothing of a virtual machine is lost: its virtual CPUs ask for no setvar, and its priority fits in eight bits. -/
structure Node.PlainVm (vm : Node) : Prop where
  setvars : ∀ vcpu ∈ vm.tagged "vcpu", vcpu.attr "setvar_id" = none
  priority : ∀ s v, vm.attr "priority" = some s → written s = some v → v ≤ 255

/-- A protection domain is kept just when its virtual machine is plain. -/
lemma PdRead.kept_iff {more : List SysSetVar} {pd : ProtectionDomain} (h : PdRead isChild node more pd) :
    PdKept isChild node more pd ↔ ∀ vm ∈ node.tagged "virtual_machine", vm.PlainVm := by
  constructor
  · intro hkept vm hvm
    have hboth := hkept.vms.mp (fun _ _ hkept hread => And.intro hkept hread) h.vms
    obtain ⟨_, -, hkept, hread⟩ := exists_of_forall₂_left hboth hvm
    obtain ⟨hsetvars, hpriority⟩ := hread.kept_iff.mp hkept
    exact ⟨hsetvars, hpriority⟩
  · intro hplain
    refine ⟨h.toHeaderKept, h.maps, h.irqs, h.ioports, ?_, ?_⟩
    · have hmem := (List.forall₂_and_left (p := (· ∈ node.tagged "virtual_machine")) _ _).mpr ⟨fun _ h => h, h.vms⟩
      refine hmem.imp ?_
      rintro vm _ ⟨hvm, hread⟩
      exact hread.kept_iff.mpr ⟨(hplain vm hvm).setvars, (hplain vm hvm).priority⟩
    · rw [h.setvars]
      congr 1
      refine List.flatMap_congr fun child hchild => ?_
      unfold readSetvars
      split_ifs with htag
      · have hvm : child ∈ node.tagged "virtual_machine" := List.mem_filter.mpr ⟨hchild, beq_iff_eq.mpr htag⟩
        unfold writtenSetvars
        rw [if_neg (by rw [htag]; decide), if_neg (by rw [htag]; decide), if_neg (by rw [htag]; decide),
          if_neg (by rw [htag]; decide), if_pos htag]
        refine (List.flatMap_eq_nil_iff.mpr fun vcpu hvcpu => ?_).symm
        unfold attrSetvar
        rw [(hplain child hvm).setvars vcpu hvcpu]
        rfl
      · rfl

lemma ProtectionDomain.fromXml_read {tree : PdTree}
    (h : ProtectionDomain.fromXml filename config isChild node = .ok tree) :
    PdRead isChild node [] tree.pd ∧ List.Forall₂
      (fun child tree => ProtectionDomain.fromXml filename config true child = .ok tree)
      (node.tagged "protection_domain") tree.childPds := by
  have hheader := ProtectionDomain.fromXml_header h
  obtain ⟨pd, body, -, hbody, h⟩ := ProtectionDomain.fromXml_parts h
  obtain ⟨hchildPds, hpd⟩ := PdBody.finish_ok h
  have hempty : BodyRead filename config [] PdBody.empty := ⟨.nil, .nil, .nil, .nil, .nil, rfl⟩
  have hread := PdBody.addChildren_read hempty hbody
  rw [List.nil_append] at hread
  rw [hchildPds]
  refine ⟨⟨hheader, ?_, ?_, ?_, ?_, ?_⟩, hread.childPds⟩
  · rw [hpd]
    exact hread.maps
  · rw [hpd]
    exact hread.irqs
  · rw [hpd]
    exact hread.ioports
  · rw [hpd]
    exact hread.vms
  · rw [hpd, List.append_nil]
    exact hread.setvars

end domains

/-! ## Documents -/

mutual

/-- The elements of a protection domain and of those in it, in preorder, each with whether it is a child. -/
def Node.domains (isChild : Bool) : Node → List (Bool × Node)
  | .element tag attributes pos children => (isChild, .element tag attributes pos children) :: domainsIn children
  | node => [(isChild, node)]

def domainsIn : List Node → List (Bool × Node)
  | [] => []
  | child :: rest => (if child.tag = "protection_domain" then child.domains true else []) ++ domainsIn rest

end

/-- The elements of the protection domains of a document, in the order in which they are in the description. -/
def Node.allDomains (system : Node) : List (Bool × Node) :=
  (system.tagged "protection_domain").flatMap (·.domains false)

section flatten

variable {filename : String} {config : Config} {isChild : Bool} {node : Node}

lemma domainsIn_eq (children : List Node) : domainsIn children =
    ((children.filter (·.isElement)).filter (·.tag == "protection_domain")).flatMap (·.domains true) := by
  induction children with
  | nil => rw [domainsIn]; rfl
  | cons child children ih =>
    rw [domainsIn, ih]
    by_cases htag : child.tag = "protection_domain"
    · have helement : child.isElement = true := by
        cases child with
        | element => rfl
        | text => exact absurd htag (show ¬ "" = "protection_domain" by decide)
        | comment => exact absurd htag (show ¬ "" = "protection_domain" by decide)
        | instruction => exact absurd htag (show ¬ "" = "protection_domain" by decide)
      have htagged : (child.tag == "protection_domain") = true := beq_iff_eq.mpr htag
      rw [if_pos htag, List.filter_cons_of_pos helement, List.filter_cons, if_pos htagged, List.flatMap_cons]
    · rw [if_neg htag, List.nil_append]
      by_cases helement : child.isElement = true
      · rw [List.filter_cons_of_pos helement, List.filter_cons_of_neg (by simpa using htag)]
      · rw [List.filter_cons_of_neg helement]

lemma Node.domains_eq (isChild : Bool) (node : Node) :
    node.domains isChild = (isChild, node) :: (node.tagged "protection_domain").flatMap (·.domains true) := by
  cases node with
  | element tag attributes pos children =>
    rw [Node.domains, domainsIn_eq]
    rfl
  | text => rfl
  | comment => rfl
  | instruction => rfl

/-- What has been read of a protection domain stays, when it gets its parent and more setvars. -/
lemma PdRead.extend {more : List SysSetVar} {pd pd' : ProtectionDomain} (h : PdRead isChild node more pd)
    (added : List SysSetVar)
    (e : pd' = { pd with parent := pd'.parent, setvars := pd.setvars ++ added }) :
    PdRead isChild node (more ++ added) pd' := by
  rw [e]
  refine ⟨⟨h.name, h.id, h.priority, h.budget, h.period, h.stackSize, h.cpu, h.setvarId⟩, h.maps, h.irqs,
    h.ioports, h.vms, ?_⟩
  change pd.setvars ++ added = _
  rw [h.setvars, List.append_assoc]

mutual

lemma pdTreeToList_read {parent : Option Nat} {idx : Nat} {list : List ProtectionDomain} : (tree : PdTree) →
    ∀ {isChild node}, ProtectionDomain.fromXml filename config isChild node = .ok tree →
      pdTreeToList filename parent idx tree = .ok list →
        List.Forall₂ (fun p pd => PdRead p.1 p.2 [] pd) (node.domains isChild) list
  | .node pd childPds => fun hparsed h => by
    obtain ⟨hread, hchildPds⟩ := ProtectionDomain.fromXml_read hparsed
    rw [pdTreeToList] at h
    obtain ⟨⟨⟩, -, h⟩ := bind_ok.mp h
    obtain ⟨newChildPds, hchildren, h⟩ := bind_ok.mp h
    obtain rfl := pure_ok.mp h
    rw [Node.domains_eq]
    refine .cons (hread.extend [] ?_) (childPdsToList_read childPds hchildPds .nil hchildren)
    rw [List.append_nil]
    rfl

lemma childPdsToList_read {parent : Nat} {before : List (Bool × Node)} {newChildPds list : List ProtectionDomain} :
    (trees : List PdTree) → ∀ {nodes},
      List.Forall₂ (fun child tree => ProtectionDomain.fromXml filename config true child = .ok tree) nodes trees →
        List.Forall₂ (fun p pd => PdRead p.1 p.2 [] pd) before newChildPds →
          childPdsToList filename parent newChildPds trees = .ok list →
            List.Forall₂ (fun p pd => PdRead p.1 p.2 [] pd) (before ++ nodes.flatMap (·.domains true)) list
  | [] => fun hnodes hbefore h => by
    cases hnodes
    rw [childPdsToList] at h
    obtain rfl := pure_ok.mp h
    rwa [List.flatMap_nil, List.append_nil]
  | tree :: trees => fun hnodes hbefore h => by
    rw [childPdsToList] at h
    obtain ⟨pds, hpds, h⟩ := bind_ok.mp h
    cases hnodes with
    | cons hparsed hnodes =>
      rw [List.flatMap_cons, ← List.append_assoc]
      exact childPdsToList_read trees hnodes (List.rel_append hbefore (pdTreeToList_read tree hparsed hpds)) h

end

lemma pdFlatten_read {nodes : List Node} {forest : List PdTree} {list : List ProtectionDomain}
    (hnodes : List.Forall₂ (fun child tree => ProtectionDomain.fromXml filename config false child =
      .ok tree) nodes forest) (h : pdFlatten filename forest = .ok list) :
    List.Forall₂ (fun p pd => PdRead p.1 p.2 [] pd) (nodes.flatMap (·.domains false)) list := by
  suffices hrun : ∀ {before allPds}, List.Forall₂ (fun (p : Bool × Node) pd => PdRead p.1 p.2 [] pd) before allPds →
      forest.foldlM (fun allPds pd => do
        let list ← pdTreeToList filename none allPds.length pd
        pure (allPds ++ list)) allPds = .ok list →
          List.Forall₂ (fun p pd => PdRead p.1 p.2 [] pd) (before ++ nodes.flatMap (·.domains false)) list
            from hrun .nil h
  clear h
  induction hnodes with
  | nil =>
    intro before allPds hbefore h
    obtain rfl := pure_ok.mp h
    rwa [List.flatMap_nil, List.append_nil]
  | cons hparsed _ ih =>
    intro before allPds hbefore h
    rw [List.foldlM_cons] at h
    obtain ⟨allPds', hstep, h⟩ := bind_ok.mp h
    obtain ⟨pds, hpds, hstep⟩ := bind_ok.mp hstep
    obtain rfl := pure_ok.mp hstep
    rw [List.flatMap_cons, ← List.append_assoc]
    exact ih (List.rel_append hbefore (pdTreeToList_read _ hparsed hpds)) h

end flatten

/-! ## Channels -/

/-- The end of a channel keeps its element. -/
structure EndKept (names : List String) (node : Node) (channelEnd : ChannelEnd) : Prop where
  pd : node.attr "pd" = names[channelEnd.pd]?
  id : HasNumber decimal node "id" channelEnd.id.toNat
  setvarId : channelEnd.setvarId = node.attr "setvar_id"

/-- A channel keeps its element. -/
def ChannelKept (names : List String) (node : Node) (channel : Channel) : Prop :=
  List.Forall₂ (EndKept names) node.elements [channel.endA, channel.endB]

/-- The setvars of the end of a channel, if that is the protection domain with this name. -/
def endSetvars (name : String) (node : Node) : List SysSetVar :=
  if node.attr "pd" = some name then attrSetvar node "setvar_id" (.id (numberOf decimal node "id")) else []

/-- The setvars of the ends of channels that are the protection domain with this name. -/
def channelSetvars (name : String) (channels : List Node) : List SysSetVar :=
  channels.flatMap fun channel => channel.elements.flatMap (endSetvars name)

section channels

variable {filename : String} {pds pds' : List ProtectionDomain} {node : Node}

lemma ChannelEnd.fromXml_kept {channelEnd : ChannelEnd} (h : ChannelEnd.fromXml filename pds node = .ok channelEnd) :
    EndKept (pds.map (·.name)) node channelEnd ∧ channelEnd.pd < pds.length := by
  obtain ⟨-, h⟩ := failIf_bind.mp h
  obtain ⟨⟨⟩, -, h⟩ := bind_ok.mp h
  obtain ⟨endPd, hendPd, h⟩ := bind_ok.mp h
  obtain ⟨id, hid, h⟩ := bind_ok.mp h
  obtain ⟨notify, -, h⟩ := bind_ok.mp h
  obtain ⟨pp, -, h⟩ := bind_ok.mp h
  obtain ⟨pd, hpd, h⟩ := bind_ok.mp h
  obtain rfl := pure_ok.mp h
  obtain ⟨hlt, hname, -⟩ := List.findIdx?_eq_some_iff_getElem.mp (orFail_ok.mp hpd)
  refine ⟨⟨?_, parseId_ok hid, rfl⟩, hlt⟩
  change _ = (pds.map (·.name))[pd]?
  rw [checkedLookup_ok hendPd, List.getElem?_map, List.getElem?_eq_getElem hlt, ← beq_iff_eq.mp hname]
  rfl

lemma forall₂_set {R : ProtectionDomain → ProtectionDomain → Prop} {i : Nat} {pd pd' : ProtectionDomain}
    (hpd : pds[i]? = some pd) (h : R pd pd') (hrest : ∀ j p, j ≠ i → pds[j]? = some p → R p p) :
    List.Forall₂ R pds (pds.set i pd') := by
  induction pds generalizing i with
  | nil => cases hpd
  | cons first rest ih =>
    cases i with
    | zero =>
      cases hpd
      refine .cons h (List.forall₂_same.mpr fun p hp => ?_)
      obtain ⟨j, hj⟩ := List.mem_iff_getElem?.mp hp
      exact hrest (j + 1) p (by omega) hj
    | succ i =>
      refine .cons (hrest 0 first (by omega) rfl) (ih hpd fun j p hne hp => ?_)
      exact hrest (j + 1) p (by omega) hp

/-- A protection domain with more setvars. -/
def WithSetvars (added : ProtectionDomain → List SysSetVar) (pd pd' : ProtectionDomain) : Prop :=
  pd' = { pd with setvars := pd.setvars ++ added pd }

lemma withSetvars_same {added : ProtectionDomain → List SysSetVar} {pd : ProtectionDomain} (e : added pd = []) :
    WithSetvars added pd pd := by
  unfold WithSetvars
  rw [e, List.append_nil]

lemma withSetvars_more {added : ProtectionDomain → List SysSetVar} {pd : ProtectionDomain} {setvars : List SysSetVar}
    (e : setvars = pd.setvars ++ added pd) : WithSetvars added pd { pd with setvars } := by
  unfold WithSetvars
  rw [e]

/-- The setvar of a channel end goes to the protection domain that is named. -/
lemma addEndSetvar_ok {child : Node} {channelEnd : ChannelEnd} (hnames : (pds.map (·.name)).Nodup)
    (hkept : EndKept (pds.map (·.name)) child channelEnd) (h : addEndSetvar filename pds channelEnd node = .ok pds') :
    List.Forall₂ (WithSetvars fun pd => endSetvars pd.name child) pds pds' := by
  have hpd := hkept.pd
  have hid := hkept.id.numberOf_eq
  rw [List.getElem?_map] at hpd
  unfold addEndSetvar at h
  split at h
  · rename_i symbol pd hsymbol hat
    obtain ⟨setvars, hadded, h⟩ := bind_ok.mp h
    obtain rfl := pure_ok.mp h
    rw [hat] at hpd
    refine forall₂_set hat (withSetvars_more ?_) fun j p hne hp => withSetvars_same ?_
    · unfold endSetvars attrSetvar
      rw [if_pos (show child.attr "pd" = some pd.name from hpd), ← hkept.setvarId, hsymbol, hid,
        checkedAddSetvar_ok hadded]
      rfl
    · unfold endSetvars
      refine if_neg fun e => hne ?_
      have hj : (pds.map (·.name))[j]? = (pds.map (·.name))[channelEnd.pd]? := by
        rw [List.getElem?_map, List.getElem?_map, hp, hat]
        exact e.symm.trans hpd
      have hlt : j < (pds.map (·.name)).length := by
        rw [List.length_map]
        exact (List.getElem?_eq_some_iff.mp hp).1
      exact (List.getElem?_inj hlt hnames).mp hj
  · rename_i hnone
    obtain rfl := pure_ok.mp h
    refine List.forall₂_same.mpr fun p _ => withSetvars_same ?_
    unfold endSetvars attrSetvar
    split_ifs with hname
    · rw [← hkept.setvarId]
      cases hsymbol : channelEnd.setvarId with
      | none => rfl
      | some symbol =>
        cases hat : pds[channelEnd.pd]? with
        | some pd => exact absurd hat (hnone symbol pd hsymbol)
        | none =>
          rw [hat, hname] at hpd
          exact absurd hpd (Option.some_ne_none _)
    · rfl

lemma same_names (h : List.Forall₂ SameButSetvars pds pds') : pds'.map (·.name) = pds.map (·.name) := by
  induction h with
  | nil => rfl
  | cons e _ ih =>
    unfold SameButSetvars at e
    rw [List.map_cons, List.map_cons, ih, e]

lemma withSetvars_names {added : ProtectionDomain → List SysSetVar} (h : List.Forall₂ (WithSetvars added) pds pds') :
    pds'.map (·.name) = pds.map (·.name) := by
  refine same_names (h.imp fun pd pd' e => ?_)
  unfold WithSetvars at e
  unfold SameButSetvars
  rw [e]

/-- One channel. -/
lemma addChannel_ok {acc' : List ProtectionDomain × List Channel} {channels : List Channel}
    (hnames : (pds.map (·.name)).Nodup) (h : addChannel filename (pds, channels) node = .ok acc') :
    List.Forall₂ (WithSetvars fun pd => node.elements.flatMap (endSetvars pd.name)) pds acc'.1 ∧
      ∃ channel, acc'.2 = channels ++ [channel] ∧ ChannelKept (pds.map (·.name)) node channel := by
  obtain ⟨ch, hch, h⟩ := bind_ok.mp h
  obtain ⟨pds1, h1, h⟩ := bind_ok.mp h
  obtain ⟨pds2, h2, h⟩ := bind_ok.mp h
  obtain rfl := pure_ok.mp h
  obtain ⟨⟨⟩, -, hch⟩ := bind_ok.mp hch
  obtain ⟨ends, hends, hch⟩ := bind_ok.mp hch
  split at hch
  · rename_i endA endB
    obtain ⟨-, hch⟩ := failIf_bind.mp hch
    obtain rfl := pure_ok.mp hch
    have hkept : ChannelKept (pds.map (·.name)) node ⟨endA, endB⟩ :=
      (mapM_ok.mp hends).imp fun _ _ h => (ChannelEnd.fromXml_kept h).1
    refine ⟨?_, _, rfl, hkept⟩
    unfold ChannelKept at hkept
    generalize node.elements = elements at hkept ⊢
    rcases hkept with _ | ⟨hA, _ | ⟨hB, _ | _⟩⟩
    have hfirst := addEndSetvar_ok hnames hA h1
    rw [← withSetvars_names hfirst] at hnames hB
    refine forall₂_comp ?_ hfirst (addEndSetvar_ok hnames hB h2)
    intro pd pd' pd'' e e'
    unfold WithSetvars at e e'
    rw [e', e]
    refine withSetvars_more ?_
    rw [List.flatMap_cons, List.flatMap_singleton, List.append_assoc]
  · cases hch

lemma channelSetvars_snoc (name : String) (before : List Node) (node : Node) :
    channelSetvars name (before ++ [node]) = channelSetvars name before ++ node.elements.flatMap (endSetvars name) := by
  unfold channelSetvars
  rw [List.flatMap_append, List.flatMap_singleton]

lemma addChannels_ok {flat : List ProtectionDomain} {acc : List ProtectionDomain × List Channel} {nodes : List Node}
    (hnames : (flat.map (·.name)).Nodup) (h : nodes.foldlM (addChannel filename) (flat, []) = .ok acc) :
    List.Forall₂ (WithSetvars fun pd => channelSetvars pd.name nodes) flat acc.1 ∧
      List.Forall₂ (ChannelKept (flat.map (·.name))) nodes acc.2 := by
  refine foldlM_prefix (P := fun nodes (acc : List ProtectionDomain × List Channel) =>
    List.Forall₂ (WithSetvars fun pd => channelSetvars pd.name nodes) flat acc.1 ∧
      List.Forall₂ (ChannelKept (flat.map (·.name))) nodes acc.2) ?_ ⟨?_, .nil⟩ h
  · rintro before node ⟨pds, channels⟩ acc' ⟨hpds, hchannels⟩ hstep
    have hsame := withSetvars_names hpds
    obtain ⟨hadded, channel, e, hkept⟩ := addChannel_ok (hsame ▸ hnames) hstep
    refine ⟨forall₂_comp ?_ hpds hadded, ?_⟩
    · intro pd pd' pd'' e e'
      unfold WithSetvars at e e'
      rw [e', e]
      refine withSetvars_more ?_
      rw [channelSetvars_snoc, List.append_assoc]
    · rw [e]
      exact List.rel_append hchannels (.cons (hsame ▸ hkept) .nil)
  · exact List.forall₂_same.mpr fun pd _ => withSetvars_same rfl

/-- The names of protection domains differ. -/
lemma checkPds_nodup (h : checkPds pds = .ok ()) : (pds.map (·.name)).Nodup := by
  obtain ⟨-, h⟩ := failIf_bind.mp h
  obtain ⟨-, h⟩ := failIf_bind.mp h
  exact nodup_of_unique fun pd hpd => (failIf_bind.mp (forM_ok.mp h pd hpd)).1

end channels

/-! ## Memory regions -/

/-- A memory region keeps its element. -/
structure RegionKept (node : Node) (mr : SysMemoryRegion) : Prop where
  name : node.attr "name" = some mr.name
  size : ∀ s, node.attr "size" = some s → written s = some (mr.size.toNat : Int)
  pageSize : ∀ s, node.attr "page_size" = some s → written s = some (mr.pageSizeBytes.toNat : Int)
  physAddr : ∀ s, node.attr "phys_addr" = some s → ∃ paddr, mr.physAddr = .specified paddr ∧
    written s = some (paddr.toNat : Int)

section documents

variable {filename : String} {config : Config} {files : String → PrefillFile} {nodes : List Node} {system : Node}
  {body : SystemBody} {flat : List ProtectionDomain} {optimised : List SysMemoryRegion} {sd : SystemDescription}

lemma determineSize_written {node : Node} {prefillBytes : Option (List (BitVec 8))} {pageSize size : Word}
    (h : SysMemoryRegion.determineSize filename node prefillBytes pageSize = .ok size) {s : String}
    (hs : node.attr "size" = some s) : written s = some (size.toNat : Int) := by
  unfold SysMemoryRegion.determineSize at h
  rw [hs] at h
  obtain ⟨size', hsize, h⟩ := bind_ok.mp h
  obtain ⟨-, h⟩ := failIf_bind.mp h
  obtain rfl : size' = size := by
    split at h
    · obtain ⟨-, h⟩ := failIf_bind.mp h
      exact pure_ok.mp h
    · exact pure_ok.mp h
  exact sdfParseNumber_written hsize

lemma Stages.regionsKept (h : Stages filename config files nodes system body flat optimised sd) :
    List.Forall₂ RegionKept (system.tagged "memory_region") sd.memoryRegions := by
  refine List.Forall₂.mp ?_ h.regions h.pagesChosen
  rintro node mr' ⟨mr, hread, hfinished⟩ hchosen
  refine ⟨hchosen.name, fun s hs => ?_, fun s hs => sdfParseNumber_written (hchosen.explicit s hs), fun s hs => ?_⟩
  · rw [hfinished.size]
    exact determineSize_written hread.size hs
  · obtain ⟨paddr, hpaddr, -, e⟩ := hread.specified s hs
    refine ⟨paddr, ?_, sdfParseNumber_written hpaddr⟩
    rw [← specifiedPaddr_eq_some, hfinished.specified]
    exact specifiedPaddr_eq_some.mpr e

/-- Nothing that is written in the document is lost or altered. -/
structure DocumentKept (system : Node) (sd : SystemDescription) : Prop where
  domains : List.Forall₂ (fun p pd => PdKept p.1 p.2 (channelSetvars pd.name (system.tagged "channel")) pd)
    system.allDomains sd.protectionDomains
  regions : List.Forall₂ RegionKept (system.tagged "memory_region") sd.memoryRegions
  channels : List.Forall₂ (ChannelKept (sd.protectionDomains.map (·.name))) (system.tagged "channel") sd.channels

lemma Stages.domainsRead (h : Stages filename config files nodes system body flat optimised sd) :
    List.Forall₂ (fun p pd => PdRead p.1 p.2 (channelSetvars pd.name (system.tagged "channel")) pd)
        system.allDomains sd.protectionDomains ∧
      List.Forall₂ (ChannelKept (sd.protectionDomains.map (·.name))) (system.tagged "channel") sd.channels := by
  have htop := TopLevel.run h.elements
  have hflat := pdFlatten_read htop.rootPds h.flattened
  have hchannels := h.channels
  rw [htop.channelNodes] at hchannels
  have hsame : sd.protectionDomains.map (·.name) = flat.map (·.name) := same_names (addChannels_same hchannels)
  obtain ⟨hpds, hkept⟩ := addChannels_ok (hsame ▸ checkPds_nodup h.checked.domains) hchannels
  refine ⟨forall₂_comp ?_ hflat hpds, by rw [hsame]; exact hkept⟩
  intro p pd pd' hread e
  unfold WithSetvars at e
  have hname : pd'.name = pd.name := by rw [e]
  have hextended : PdRead p.1 p.2 _ pd' :=
    hread.extend (channelSetvars pd.name (system.tagged "channel")) (by rw [e]; rfl)
  rwa [List.nil_append, ← hname] at hextended

/-- The description keeps the document exactly if nothing is lost of its virtual machines. -/
lemma Stages.kept_iff (h : Stages filename config files nodes system body flat optimised sd) :
    DocumentKept system sd ↔ ∀ p ∈ system.allDomains, ∀ vm ∈ p.2.tagged "virtual_machine", vm.PlainVm := by
  obtain ⟨hread, hchannels⟩ := h.domainsRead
  constructor
  · intro hkept p hp
    have hboth := hkept.domains.mp (fun _ _ hkept hread => And.intro hkept hread) hread
    obtain ⟨pd, -, hkept, hread⟩ := exists_of_forall₂_left hboth hp
    exact hread.kept_iff.mp hkept
  · intro hplain
    refine ⟨?_, h.regionsKept, hchannels⟩
    have hmem := (List.forall₂_and_left (p := (· ∈ system.allDomains)) _ _).mpr ⟨fun _ h => h, hread⟩
    refine hmem.imp ?_
    rintro p pd ⟨hp, hread⟩
    exact hread.kept_iff.mpr (hplain p hp)

end documents

end NexsKernel.Sdf
