import NexsKernel.Capdl.Finish

/-!
# References after sorting

The objects are sorted, and a reference to an object becomes a reference to its new place. The places are found through
the names of the objects: when the names are distinct, the sorted spec is the old one up to the order of its objects, and
when they are not, a reference may end at another object of the same name.
-/

namespace NexsKernel.Capdl

open Sdf

variable {config : Config} {objects sorted : List NamedObject} {id new : ObjectId} {obj : NamedObject}

/-! ## The order of the objects -/

/-- Where an object comes by its address; those without one come last. -/
def addressRank (obj : NamedObject) : Nat :=
  (obj.object.paddr.map BitVec.toNat).getD (2 ^ 64)

/-- By address, then by decreasing size, then by name. -/
lemma compareObjects_eq (config : Config) : compareObjects config =
    compareLex (compareOn addressRank) (compareLex (fun a b =>
      compareOn (fun obj => physicalSizeBits config obj.object) b a) (compareOn NamedObject.name)) := by
  funext a b
  unfold compareObjects addressRank
  cases ha : a.object.paddr with
  | none =>
    cases hb : b.object.paddr with
    | none => simp [compareLex, compareOn, compareSize, ha, hb]
    | some q =>
      have hgt : compare (2 ^ 64) q.toNat = .gt := Nat.compare_eq_gt.mpr q.isLt
      simp only [compareLex, compareOn, ha, hb, Option.map_none, Option.getD_none, Option.map_some, Option.getD_some]
      rw [hgt]
      rfl
  | some p =>
    cases hb : b.object.paddr with
    | none =>
      have hlt : compare p.toNat (2 ^ 64) = .lt := Nat.compare_eq_lt.mpr p.isLt
      simp only [compareLex, compareOn, ha, hb, Option.map_none, Option.getD_none, Option.map_some, Option.getD_some]
      rw [hlt]
      rfl
    | some q => simp [compareLex, compareOn, compareSize, ha, hb]

instance (config : Config) : Std.TransCmp (compareObjects config) := by
  rw [compareObjects_eq]
  infer_instance

/-- Objects that are equal in order have the same name. -/
lemma name_eq_of_compare {a b : NamedObject} (h : compareObjects config a b = .eq) : a.name = b.name := by
  rw [compareObjects_eq] at h
  simp only [compareLex, compareOn, Ordering.then_eq_eq] at h
  exact Std.LawfulEqCmp.eq_of_compare h.2.2

/-- The sorted objects. -/
def sortedObjects (config : Config) (objects : List NamedObject) : List NamedObject :=
  objects.mergeSort fun a b => (compareObjects config a b).isLE

lemma sortedObjects_perm (config : Config) (objects : List NamedObject) : (sortedObjects config objects).Perm objects :=
  List.mergeSort_perm ..

lemma sortedObjects_pairwise (config : Config) (objects : List NamedObject) :
    (sortedObjects config objects).Pairwise fun a b => (compareObjects config a b).isLE = true := by
  apply List.pairwise_mergeSort
  · exact fun a b c => Std.TransCmp.isLE_trans
  · intro a b
    rw [Bool.or_eq_true, @Std.OrientedCmp.eq_swap _ (compareObjects config) _ b a]
    cases compareObjects config a b <;> simp

lemma findEqual_eq_none : findEqual config objects = none ↔
    objects.Pairwise fun a b => compareObjects config a b ≠ .eq := by
  induction objects with
  | nil => simp [findEqual]
  | cons a objects ih =>
    rw [findEqual, List.pairwise_cons, ← ih]
    split
    · rename_i h
      obtain ⟨b, hb, he⟩ := List.any_eq_true.mp h
      exact iff_of_false nofun fun h' => h'.1 b hb (by simpa using he)
    · rename_i h
      refine (and_iff_right fun b hb he => h (List.any_eq_true.mpr ⟨b, hb, ?_⟩)).symm
      rw [he]
      rfl

/-- Objects of distinct names are sorted. -/
lemma sortObjects_eq (h : (objects.map NamedObject.name).Nodup) :
    sortObjects config objects = pure (sortedObjects config objects) := by
  have hnone : findEqual config objects = none := by
    rw [findEqual_eq_none]
    refine (List.pairwise_map.mp h).imp fun hne he => hne (name_eq_of_compare he)
  unfold sortObjects
  rw [hnone]
  rfl

/-! ## Indices -/

/-- The last index at which a condition holds. -/
lemma findLastIdx_eq_some {α : Type} {p : α → Bool} {xs : List α} {i : Nat} : findLastIdx? p xs = some i ↔
    (∃ x, xs[i]? = some x ∧ p x = true) ∧ ∀ j x, xs[j]? = some x → p x = true → j ≤ i := by
  induction xs using List.reverseRecOn with
  | nil => simp [findLastIdx?]
  | append_singleton xs x ih =>
    have hcons : findLastIdx? p (xs ++ [x]) = if p x = true then some xs.length else findLastIdx? p xs := by
      unfold findLastIdx?
      rw [List.zipIdx_append, List.reverse_append, List.zipIdx_singleton, List.reverse_singleton, List.singleton_append,
        List.find?_cons]
      cases h : p x <;> simp
    have hlast : (xs ++ [x])[xs.length]? = some x := List.getElem?_concat_length
    rw [hcons]
    split
    · rename_i hp
      constructor
      · rintro h
        cases h
        refine ⟨⟨x, hlast, hp⟩, fun j y hy _ => ?_⟩
        have := (List.getElem?_eq_some_iff.mp hy).1
        rw [List.length_append, List.length_singleton] at this
        omega
      · rintro ⟨⟨y, hy, -⟩, hle⟩
        have := (List.getElem?_eq_some_iff.mp hy).1
        rw [List.length_append, List.length_singleton] at this
        have := hle _ _ hlast hp
        congr 1
        omega
    · rename_i hp
      rw [ih]
      have hiff : ∀ (j : Nat) (y : α), p y = true → ((xs ++ [x])[j]? = some y ↔ xs[j]? = some y) := by
        intro j y hy
        by_cases hj : j < xs.length
        · rw [List.getElem?_append_left hj]
        · refine iff_of_false (fun h => hp ?_) (fun h => hj (List.getElem?_eq_some_iff.mp h).1)
          rw [List.getElem?_append_right (Nat.le_of_not_lt hj), List.getElem?_singleton] at h
          split at h
          · cases h
            exact hy
          · cases h
      constructor
      · rintro ⟨⟨y, hy, hpy⟩, hle⟩
        exact ⟨⟨y, (hiff _ _ hpy).mpr hy, hpy⟩, fun j z hz hpz => hle j z ((hiff _ _ hpz).mp hz) hpz⟩
      · rintro ⟨⟨y, hy, hpy⟩, hle⟩
        exact ⟨⟨y, (hiff _ _ hpy).mp hy, hpy⟩, fun j z hz hpz => hle j z ((hiff _ _ hpz).mpr hz) hpz⟩

/-- No object behind this one has its name. -/
def NameLast (objects : List NamedObject) (id : ObjectId) (obj : NamedObject) : Prop :=
  objects[id]? = some obj ∧ ∀ j obj', objects[j]? = some obj' → obj'.name = obj.name → j ≤ id

lemma oldIdOf_eq_some (hid : objects[id]? = some obj) (name : String) :
    oldIdOf objects name = some id ↔ name = obj.name ∧ NameLast objects id obj := by
  unfold oldIdOf
  rw [findLastIdx_eq_some]
  constructor
  · rintro ⟨⟨x, hx, hname⟩, hle⟩
    rw [hid] at hx
    cases hx
    have hname := eq_of_beq hname
    refine ⟨hname.symm, hid, fun j obj' hj hn => hle j obj' hj ?_⟩
    exact beq_iff_eq.mpr (hn.trans hname)
  · rintro ⟨rfl, -, hle⟩
    exact ⟨⟨obj, hid, beq_self_eq_true _⟩, fun j obj' hj hn => hle j obj' hj (eq_of_beq hn)⟩

/-- A reference to the last object of a name becomes one to the last object of this name; for others there is no new
index. -/
lemma newIdOf_eq_some (hid : objects[id]? = some obj) : newIdOf objects sorted id = some new ↔
    NameLast objects id obj ∧ ∃ obj', NameLast sorted new obj' ∧ obj'.name = obj.name := by
  unfold newIdOf
  rw [findLastIdx_eq_some]
  have hold : ∀ obj' : NamedObject, (oldIdOf objects obj'.name == some id) = true ↔
      obj'.name = obj.name ∧ NameLast objects id obj := fun obj' => by
    rw [beq_iff_eq]
    exact oldIdOf_eq_some hid obj'.name
  simp only [hold]
  constructor
  · rintro ⟨⟨obj', hnew, hname, hlast⟩, hle⟩
    exact ⟨hlast, obj', ⟨hnew, fun j obj'' hj hn => hle j obj'' hj ⟨hn.trans hname, hlast⟩⟩, hname⟩
  · rintro ⟨hlast, obj', ⟨hnew, hle⟩, hname⟩
    exact ⟨⟨obj', hnew, hname, hlast⟩, fun j obj'' hj hn => hle j obj'' hj (hn.1.trans hname.symm)⟩

/-! ## Relabelled specs -/

/-- The references of the capabilities of an object. -/
def NamedObject.refs (obj : NamedObject) : List ObjectId :=
  (obj.object.slots.getD []).map (·.cap.obj)

/-- The references of a spec. -/
def Container.refs (c : Container) : List ObjectId :=
  c.objects.flatMap NamedObject.refs ++ c.irqs.map IrqEntry.handler

def CapTableEntry.relabel (p : ObjectId → ObjectId) (cte : CapTableEntry) : CapTableEntry :=
  { cte with cap := cte.cap.setObj (p cte.cap.obj) }

/-- The object whose capabilities refer to other indices. -/
def NamedObject.relabel (p : ObjectId → ObjectId) (obj : NamedObject) : NamedObject :=
  match obj.object.slots with
  | some slots => { obj with object := obj.object.setSlots (slots.map (CapTableEntry.relabel p)) }
  | none => obj

def IrqEntry.relabel (p : ObjectId → ObjectId) (irq : IrqEntry) : IrqEntry :=
  { irq with handler := p irq.handler }

lemma mapM_eq_pure {α β : Type} {f : α → M β} {g : α → β} {xs : List α} (h : ∀ x ∈ xs, f x = pure (g x)) :
    xs.mapM f = pure (xs.map g) := by
  induction xs with
  | nil => rfl
  | cons x xs ih =>
    obtain ⟨hx, hxs⟩ := List.forall_mem_cons.mp h
    rw [List.mapM_cons, hx, ih hxs, pure_bind, pure_bind, List.map_cons]

section Relabel

variable {p : ObjectId → ObjectId}

lemma renumberObject_eq (h : ∀ id ∈ obj.refs, renumber objects sorted id = pure (p id)) :
    renumberObject objects sorted obj = pure (obj.relabel p) := by
  unfold renumberObject NamedObject.relabel
  unfold NamedObject.refs at h
  cases hslots : obj.object.slots with
  | none => rfl
  | some slots =>
    rw [hslots, Option.getD_some] at h
    have hmap : slots.mapM (renumberEntry objects sorted) = pure (slots.map (CapTableEntry.relabel p)) := by
      refine mapM_eq_pure fun cte hcte => ?_
      unfold renumberEntry
      rw [h _ (List.mem_map_of_mem hcte), pure_bind]
      rfl
    simp only [hmap, pure_bind]

lemma relabel_name (obj : NamedObject) : (obj.relabel p).name = obj.name := by
  unfold NamedObject.relabel
  split <;> rfl

lemma sortCnode_name (obj : NamedObject) : (sortCnode obj).name = obj.name := by
  unfold sortCnode
  split <;> rfl

lemma setSlots_paddr (o : Object) (slots : List CapTableEntry) : (o.setSlots slots).paddr = o.paddr := by
  cases o <;> rfl

lemma setSlots_size (o : Object) (slots : List CapTableEntry) :
    physicalSizeBits config (o.setSlots slots) = physicalSizeBits config o := by
  cases o <;> rfl

/-- The new indices do not change the order of the objects. -/
lemma compareObjects_relabel (a b : NamedObject) :
    compareObjects config (sortCnode (a.relabel p)) (sortCnode (b.relabel p)) = compareObjects config a b := by
  have hpaddr : ∀ obj : NamedObject, (sortCnode (obj.relabel p)).object.paddr = obj.object.paddr := by
    intro obj
    have h1 : (obj.relabel p).object.paddr = obj.object.paddr := by
      unfold NamedObject.relabel
      split
      · exact setSlots_paddr ..
      · rfl
    rw [← h1]
    unfold sortCnode
    split
    · rename_i h
      rw [h]
      rfl
    · rfl
  have hsize : ∀ obj : NamedObject, physicalSizeBits config (sortCnode (obj.relabel p)).object =
      physicalSizeBits config obj.object := by
    intro obj
    have h1 : physicalSizeBits config (obj.relabel p).object = physicalSizeBits config obj.object := by
      unfold NamedObject.relabel
      split
      · exact setSlots_size ..
      · rfl
    rw [← h1]
    unfold sortCnode
    split
    · rename_i h
      rw [h]
      rfl
    · rfl
  rw [compareObjects_eq]
  simp only [compareLex, compareOn, addressRank, hpaddr, hsize, sortCnode_name, relabel_name]

end Relabel

/-! ## The sorted spec -/

/-- The new index of an object. -/
def newIndex (config : Config) (objects : List NamedObject) (id : ObjectId) : ObjectId :=
  (newIdOf objects (sortedObjects config objects) id).getD 0

section Distinct

variable (hnames : (objects.map NamedObject.name).Nodup)
include hnames

/-- An object of a name of its own is the last of its name. -/
lemma nameLast_of_nodup (hid : objects[id]? = some obj) : NameLast objects id obj := by
  refine ⟨hid, fun j obj' hj hname => ?_⟩
  have hlt := (List.getElem?_eq_some_iff.mp hid).1
  have hlt' := (List.getElem?_eq_some_iff.mp hj).1
  have heq : (objects.map NamedObject.name)[j]? = (objects.map NamedObject.name)[id]? := by
    rw [List.getElem?_map, List.getElem?_map, hj, hid, Option.map_some, Option.map_some, hname]
  have hpos : j = id := by
    apply (List.Nodup.getElem_inj_iff hnames).mp
    · simpa [List.getElem?_eq_getElem, hlt, hlt'] using heq
    · simpa using hlt'
    · simpa using hlt
  exact hpos.le

/-- At the new index is the object that was at the old one. -/
lemma newIndex_spec (config : Config) (hid : objects[id]? = some obj) :
    newIdOf objects (sortedObjects config objects) id = some (newIndex config objects id) ∧
      (sortedObjects config objects)[newIndex config objects id]? = some obj := by
  have hperm := sortedObjects_perm config objects
  have hsorted : ((sortedObjects config objects).map NamedObject.name).Nodup := (hperm.map _).nodup_iff.mpr hnames
  obtain ⟨j, hj⟩ := List.getElem?_of_mem (hperm.mem_iff.mpr (List.mem_of_getElem? hid))
  have hnew := @newIdOf_eq_some _ (sortedObjects config objects) _ j _ hid |>.mpr
    ⟨nameLast_of_nodup hnames hid, obj, nameLast_of_nodup hsorted hj, rfl⟩
  unfold newIndex
  rw [hnew]
  exact ⟨rfl, hj⟩

lemma renumber_eq (config : Config) (hid : id < objects.length) :
    renumber objects (sortedObjects config objects) id = pure (newIndex config objects id) := by
  unfold renumber
  rw [(newIndex_spec hnames config (List.getElem?_eq_getElem hid)).1]

/-- Two objects do not come to the same place. -/
lemma newIndex_inj {i j : ObjectId} (config : Config) (hi : i < objects.length) (hj : j < objects.length)
    (h : newIndex config objects i = newIndex config objects j) : i = j := by
  have hget1 := (newIndex_spec hnames config (List.getElem?_eq_getElem hi)).2
  have hget2 := (newIndex_spec hnames config (List.getElem?_eq_getElem hj)).2
  rw [h, hget2] at hget1
  have hlast := nameLast_of_nodup hnames (List.getElem?_eq_getElem hi)
  have hlast' := nameLast_of_nodup hnames (List.getElem?_eq_getElem hj)
  have hname := congrArg (Option.map NamedObject.name) hget1
  apply Nat.le_antisymm
  · exact hlast'.2 i _ hlast.1 (Option.some.inj hname).symm
  · exact hlast.2 j _ hlast'.1 (Option.some.inj hname)

lemma newIndex_lt (config : Config) (hid : id < objects.length) : newIndex config objects id < objects.length := by
  have hget := (newIndex_spec hnames config (List.getElem?_eq_getElem hid)).2
  rw [← (sortedObjects_perm config objects).length_eq]
  exact (List.getElem?_eq_some_iff.mp hget).1

lemma sortedObjects_strict (config : Config) :
    (sortedObjects config objects).Pairwise fun a b => compareObjects config a b = .lt := by
  have hsorted : ((sortedObjects config objects).map NamedObject.name).Nodup :=
    ((sortedObjects_perm config objects).map _).nodup_iff.mpr hnames
  refine ((sortedObjects_pairwise config objects).and (List.pairwise_map.mp hsorted)).imp ?_
  rintro a b ⟨hle, hne⟩
  cases h : compareObjects config a b with
  | lt => rfl
  | eq => exact absurd (name_eq_of_compare h) hne
  | gt =>
    rw [h] at hle
    cases hle

end Distinct

/-- The spec after sorting: every object, with its references, stands at its new index. -/
structure Renumbered (config : Config) (c c' : Container) (p : ObjectId → ObjectId) : Prop where
  length : c'.objects.length = c.objects.length
  lt : ∀ id < c.objects.length, p id < c.objects.length
  inj : ∀ i < c.objects.length, ∀ j < c.objects.length, p i = p j → i = j
  objects : ∀ id obj, c.objects[id]? = some obj → c'.objects[p id]? = some (sortCnode (obj.relabel p))
  irqs : c'.irqs.Perm (c.irqs.map (IrqEntry.relabel p))
  sortedIrqs : c'.irqs.Pairwise fun a b => a.irq.toNat ≤ b.irq.toNat
  sorted : c'.objects.Pairwise fun a b => compareObjects config a b = .lt

/-- When the names are distinct and the references are to objects of the spec, sorting only moves the objects: each
reference follows the object it was to. -/
theorem finishSpec_renumbers {c : Container} (config : Config) (hnames : (c.objects.map NamedObject.name).Nodup)
    (hrefs : ∀ id ∈ c.refs, id < c.objects.length) :
    ∃ c' p, finishSpec config c = .ok () c' ∧ Renumbered config c c' p := by
  let p := newIndex config c.objects
  let sorted := sortedObjects config c.objects
  have hperm : sorted.Perm c.objects := sortedObjects_perm config c.objects
  have hobj : ∀ obj ∈ sorted, renumberObject c.objects sorted obj = pure (obj.relabel p) := by
    intro obj hobj
    refine renumberObject_eq fun id hid => renumber_eq hnames config (hrefs id ?_)
    apply List.mem_append_left
    exact List.mem_flatMap.mpr ⟨obj, hperm.mem_iff.mp hobj, hid⟩
  have hirq : ∀ irq ∈ c.irqs, renumberIrq c.objects sorted irq = pure (irq.relabel p) := by
    intro irq hirq
    unfold renumberIrq
    rw [renumber_eq hnames config (hrefs _ (List.mem_append_right _ (List.mem_map_of_mem hirq))), pure_bind]
    rfl
  refine ⟨⟨(sorted.map (NamedObject.relabel p)).map sortCnode,
    (c.irqs.map (IrqEntry.relabel p)).mergeSort fun a b => a.irq.toNat ≤ b.irq.toNat⟩, p, ?_, ?_⟩
  · change (sortObjects config c.objects >>= fun sorted => _) c = _
    rw [sortObjects_eq hnames, pure_bind, mapM_eq_pure hobj, pure_bind, mapM_eq_pure hirq, pure_bind]
    rfl
  · constructor
    case length => simpa using hperm.length_eq
    case lt => exact fun id => newIndex_lt hnames config
    case inj => exact fun i hi j => newIndex_inj hnames config hi
    case objects =>
      intro id obj hid
      rw [List.getElem?_map, List.getElem?_map, (newIndex_spec hnames config hid).2]
      rfl
    case irqs => exact List.mergeSort_perm ..
    case sortedIrqs =>
      have := @List.pairwise_mergeSort _ (fun a b : IrqEntry => decide (a.irq.toNat ≤ b.irq.toNat))
        (fun a b c hab hbc => by simp only [decide_eq_true_eq] at *; omega)
        (fun a b => by simp only [Bool.or_eq_true, decide_eq_true_eq]; omega) (c.irqs.map (IrqEntry.relabel p))
      exact this.imp fun h => of_decide_eq_true h
    case sorted =>
      apply List.pairwise_map.mpr
      apply List.pairwise_map.mpr
      simp only [compareObjects_relabel]
      exact sortedObjects_strict hnames config

private def irqConfig : Config :=
  ⟨.aarch64, true, false, 1, some 40, none, ⟨11, 4, 6, 5, 13, 12, 21, 12, 12⟩, Sdf.paSize_forty⟩

private def irqSpec : Container :=
  ⟨[⟨"ntfn_pd", .notification⟩,
    ⟨"cspace_pd", .cnode 1 [⟨1, .armIrqHandler 3⟩, ⟨0, makeFrameCap 2 true true false false⟩]⟩,
    ⟨"frame_uart", .frame 12 (some 0x9000000) []⟩, ⟨"irq_33", .armIrq [⟨0, makeNtfnCap 0 1⟩] 0 0⟩], [⟨33, 3⟩]⟩

/-- A device's frame and the handler of its interrupt. -/
theorem finishSpec_renumbers_irq : ∃ c' p, finishSpec irqConfig irqSpec = .ok () c' ∧
    Renumbered irqConfig irqSpec c' p :=
  finishSpec_renumbers irqConfig (by decide) (by decide)

end NexsKernel.Capdl
