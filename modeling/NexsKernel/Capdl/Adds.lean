import NexsKernel.Capdl.Finish
import NexsKernel.Capdl.Walk

/-!
# What the builder adds

The parts of the builder add objects to the container. Of the objects that are there already they change tables, and
else only what they are told to (`Adds`). An object that they add is one of those that a spec is made of, as far as its
name, its physical address and its size tell (`Made`).
-/

namespace NexsKernel.Capdl

open Sdf Failing

/-! ## Kinds of objects -/

/-- The names of the levels, from the first on. -/
def ptLevelNames : Arch → List String
  | .aarch64 => ["pgd", "pud", "pd", "pt"]
  | .riscv64 => ["pgd", "pmd", "pte"]
  | .x86_64 => ["pml4", "pdpt", "pd", "pt"]

/-- What the names of objects other than frames begin with, and the size of these objects. -/
def kinds (config : Config) : List (String × Nat) :=
  [("ep", config.objectSizes.endpoint), ("ntfn", config.objectSizes.notification), ("reply", config.objectSizes.reply),
    ("sched", pdSchedcontextExtraSizeBits), ("cnode", pdCapBits + 5), ("tcb", config.objectSizes.tcb),
    ("vcpu", config.objectSizes.vcpu), ("irq", 0), ("ioports", 0), ("arm", 0)] ++
  (ptLevelNames config.arch).zipIdx.map fun p =>
    (p.1, if p.2 = topPtLevelNumber config then config.objectSizes.vspace else config.objectSizes.pageTable)

/-- The physical address of a frame of a memory region. -/
def framePaddr (mr : SysMemoryRegion) (frameSequence : Nat) : Option Word :=
  mr.paddr.map (· + BitVec.ofNat 64 frameSequence * mr.pageSizeBytes)

/-- The name that a frame of a spec is made with, its physical address and its size. -/
inductive MadeFrame (config : Config) (system : SystemDescription) : String → Option Word → Nat → Prop where
  | elf (pdName : String) (frameSequence : Nat) :
    MadeFrame config system s!"elf_{pdName}_{pad9 frameSequence}" none (fixedSizeBits config .small)
  | ipcbuf (name : String) : MadeFrame config system s!"ipcbuf_{name}" none (fixedSizeBits config .small)
  | monitorStack : MadeFrame config system s!"{monitorPdName}_stack" none (fixedSizeBits config .small)
  | stack {pd : ProtectionDomain} (h : pd ∈ system.protectionDomains) (stackFrameSeq : Nat) :
    MadeFrame config system s!"{pd.name}_stack_{pad9 stackFrameSeq}" none (fixedSizeBits config .small)
  | region {mr : SysMemoryRegion} {frameSequence : Nat} (h : mr ∈ system.memoryRegions)
    (hseq : frameSequence < mr.pageCount.toNat) :
    MadeFrame config system s!"mr_{mr.name}_{pad9 frameSequence}" (framePaddr mr frameSequence)
      (fixedSizeBits config mr.pageSize)

/-- The name, the physical address and the size of an object of a spec. -/
inductive Made (config : Config) (system : SystemDescription) : String → Option Word → Nat → Prop where
  | other {kind : String} {size : Nat} (rest : String) (h : (kind, size) ∈ kinds config) :
    Made config system (kind ++ "_" ++ rest) none size
  | frame {name : String} {paddr : Option Word} {size : Nat} (h : MadeFrame config system name paddr size) :
    Made config system s!"frame_{name}" paddr size

def NamedObject.Made (config : Config) (system : SystemDescription) (obj : NamedObject) : Prop :=
  Capdl.Made config system obj.name obj.object.paddr (physicalSizeBits config obj.object)

def Object.isTable : Object → Bool
  | .pageTable _ => true
  | _ => false

/-! ## Containers -/

/-- Another object in the place of one. -/
def Container.put (c : Container) (id : ObjectId) (obj : Object) : Container :=
  { c with objects := c.objects.modify id fun o => { o with object := obj } }

lemma put_objects {c : Container} {id : ObjectId} {name : String} {o : Object} (h : c.objects[id]? = some ⟨name, o⟩)
    (o' : Object) (u : ObjectId) :
    (c.put id o').objects[u]? = if u = id then some ⟨name, o'⟩ else c.objects[u]? := by
  unfold Container.put
  rw [List.getElem?_modify]
  by_cases e : id = u
  · subst e
    simp [h]
  · simp [e, show ¬ u = id from fun e' => e e'.symm]

lemma lt_of_object {c : Container} {id : ObjectId} {obj : NamedObject} (h : c.objects[id]? = some obj) :
    id < c.objects.length :=
  (List.getElem?_eq_some_iff.mp h).1

/-- What a part of the builder does to a container. `ids` are the objects that it may change, and the CNodes with
capabilities in them that it adds. -/
structure Adds (config : Config) (system : SystemDescription) (ids : List ObjectId) (c c' : Container) : Prop where
  le : c.objects.length ≤ c'.objects.length
  kept : ∀ {id : ObjectId} {obj : NamedObject}, c.objects[id]? = some obj → id ∉ ids → obj.object.isTable = false →
    c'.objects[id]? = some obj
  same : ∀ {id : ObjectId} {obj : NamedObject}, c.objects[id]? = some obj → ∃ obj' : NamedObject,
    c'.objects[id]? = some obj' ∧ obj'.name = obj.name ∧ obj'.object.paddr = obj.object.paddr ∧
      physicalSizeBits config obj'.object = physicalSizeBits config obj.object
  made : ∀ {id : ObjectId} {obj : NamedObject}, c.objects.length ≤ id → c'.objects[id]? = some obj →
    obj.Made config system
  cnodes : ∀ {id : ObjectId} {name bits slots}, c'.objects[id]? = some ⟨name, .cnode bits slots⟩ → slots ≠ [] →
    id ∉ ids → c.objects[id]? = some ⟨name, .cnode bits slots⟩

namespace Adds

variable {config : Config} {system : SystemDescription} {ids ids' : List ObjectId} {c c1 c2 c' : Container}

lemma refl (c : Container) : Adds config system ids c c where
  le := le_rfl
  kept h _ _ := h
  same {_ obj} h := ⟨obj, h, rfl, rfl, rfl⟩
  made hle h := absurd (lt_of_object h) (Nat.not_lt.mpr hle)
  cnodes h _ _ := h

/-- The second part may change what the first has added, if it is no CNode. -/
lemma trans (h : Adds config system ids c c1) (h' : Adds config system ids' c1 c2)
    (hids : ∀ id ∈ ids', id ∈ ids ∨
      c.objects.length ≤ id ∧ ∀ name bits slots, c2.objects[id]? ≠ some ⟨name, .cnode bits slots⟩) :
    Adds config system ids c c2 where
  le := h.le.trans h'.le
  kept {id obj} hid hn ht := by
    refine h'.kept (h.kept hid hn ht) (fun hm => ?_) ht
    rcases hids id hm with hm | ⟨hle, -⟩
    · exact hn hm
    · exact absurd (lt_of_object hid) (Nat.not_lt.mpr hle)
  same {id obj} hid := by
    obtain ⟨obj1, h1, hname, hpaddr, hsize⟩ := h.same hid
    obtain ⟨obj2, h2, hname', hpaddr', hsize'⟩ := h'.same h1
    exact ⟨obj2, h2, hname'.trans hname, hpaddr'.trans hpaddr, hsize'.trans hsize⟩
  made {id obj} hle hid := by
    by_cases hlt : id < c1.objects.length
    · obtain ⟨obj', hobj', hname, hpaddr, hsize⟩ := h'.same (List.getElem?_eq_getElem hlt)
      obtain rfl := Option.some.inj (hid.symm.trans hobj')
      have hm := h.made hle (List.getElem?_eq_getElem hlt)
      unfold NamedObject.Made at hm ⊢
      rwa [hname, hpaddr, hsize]
    · exact h'.made (Nat.le_of_not_lt hlt) hid
  cnodes {id name bits slots} hid hne hn := by
    refine h.cnodes (h'.cnodes hid hne fun hm => ?_) hne hn
    rcases hids id hm with hm | ⟨-, hc⟩
    · exact hn hm
    · exact hc name bits slots hid

/-- The second part changes nothing that was there. -/
lemma more (h : Adds config system ids c c1) (h' : Adds config system [] c1 c2) : Adds config system ids c c2 :=
  h.trans h' nofun

lemma push {obj : NamedObject} (hm : obj.Made config system)
    (hc : ∀ bits slots, obj.object = .cnode bits slots → slots = [] ∨ c.objects.length ∈ ids) :
    Adds config system ids c (c.push obj) := by
  have hlast : ∀ {id : ObjectId} {obj' : NamedObject}, (c.push obj).objects[id]? = some obj' → ¬ id < c.objects.length →
      id = c.objects.length ∧ obj' = obj := by
    intro id obj' h hge
    have hlt := lt_of_object h
    rw [Container.push, List.length_append, List.length_singleton] at hlt
    obtain rfl : id = c.objects.length := Nat.le_antisymm (Nat.le_of_lt_succ hlt) (Nat.le_of_not_lt hge)
    rw [Container.push, List.getElem?_concat_length] at h
    exact ⟨rfl, (Option.some.inj h).symm⟩
  refine ⟨?_, fun h _ _ => push_objects h, fun {_ obj'} h => ⟨obj', push_objects h, rfl, rfl, rfl⟩, fun hle h => ?_,
    fun {id name bits slots} h hne hn => ?_⟩
  · rw [Container.push, List.length_append]
    exact Nat.le_add_right _ _
  · rw [(hlast h (Nat.not_lt.mpr hle)).2]
    exact hm
  · by_cases hlt : id < c.objects.length
    · rwa [Container.push, List.getElem?_append_left hlt] at h
    · obtain ⟨rfl, rfl⟩ := hlast h hlt
      rcases hc bits slots rfl with e | hin
      · exact absurd e hne
      · exact absurd hin hn

/-- An object keeps its size. -/
lemma put {id : ObjectId} {name : String} {o o' : Object} (h : c.objects[id]? = some ⟨name, o⟩)
    (hpaddr : o'.paddr = o.paddr) (hsize : physicalSizeBits config o' = physicalSizeBits config o) :
    Adds config system [id] c (c.put id o') where
  le := by
    rw [Container.put, List.length_modify]
  kept {u obj} hu hn _ := by
    rw [put_objects h, if_neg (List.ne_of_not_mem_cons hn)]
    exact hu
  same {u obj} hu := by
    rw [put_objects h]
    by_cases e : u = id
    · subst e
      obtain rfl := Option.some.inj (hu.symm.trans h)
      rw [if_pos rfl]
      exact ⟨_, rfl, rfl, hpaddr, hsize⟩
    · rw [if_neg e]
      exact ⟨obj, hu, rfl, rfl, rfl⟩
  made {u obj} hle hu := by
    have hlt := lt_of_object hu
    rw [Container.put, List.length_modify] at hlt
    exact absurd hlt (Nat.not_lt.mpr hle)
  cnodes {u name' bits slots} hu _ hn := by
    rwa [put_objects h, if_neg (List.ne_of_not_mem_cons hn)] at hu

/-- A table may always be changed. -/
lemma table {id : ObjectId} {name : String} {table table' : PageTable}
    (h : c.objects[id]? = some ⟨name, .pageTable table⟩) (hroot : table'.isRoot = table.isRoot) :
    Adds config system [] c (c.put id (.pageTable table')) := by
  have hput : Adds config system [id] c (c.put id (.pageTable table')) := put h rfl (by simp [physicalSizeBits, hroot])
  refine ⟨hput.le, fun {u obj} hu _ ht => ?_, hput.same, hput.made, fun {u name' bits slots} hu hne _ => ?_⟩
  · refine hput.kept hu (fun hm => ?_) ht
    obtain rfl := List.mem_singleton.mp hm
    obtain rfl := Option.some.inj (hu.symm.trans h)
    cases ht
  · refine hput.cnodes hu hne (fun hm => ?_)
    obtain rfl := List.mem_singleton.mp hm
    rw [put_objects h, if_pos rfl] at hu
    cases hu

end Adds

/-! ## Names -/

section names

variable {config : Config} {system : SystemDescription} {obj : NamedObject}

/-- An object of a kind. -/
lemma made_kind {kind : String} (rest : String) {size : Nat} (h : (kind, size) ∈ kinds config)
    (hname : obj.name = kind ++ "_" ++ rest)
    (hpaddr : obj.object.paddr = none) (hsize : physicalSizeBits config obj.object = size) :
    obj.Made config system := by
  unfold NamedObject.Made
  rw [hname, hpaddr, hsize]
  exact .other rest h

lemma mem_kinds_level {name : String} {level : Nat} (h : (ptLevelNames config.arch)[level]? = some name) :
    (name, if level = topPtLevelNumber config then config.objectSizes.vspace else config.objectSizes.pageTable) ∈
      kinds config :=
  List.mem_append_right _ (List.mem_map.mpr ⟨(name, level), List.mk_mem_zipIdx_iff_getElem?.mpr h, rfl⟩)

end names

end NexsKernel.Capdl
