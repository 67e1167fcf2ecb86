import NexsKernel.Capdl.Parts

/-!
# What the builder grants

The capabilities for communication, those to endpoints and notifications, are in the CSpaces of the protection domains
and of the monitor, and are bound to threads and interrupts. `Grants` says which of them a part of the builder adds; most
parts add none (`Passes`).
-/

namespace NexsKernel.Capdl

open Sdf Failing

/-- Capabilities to endpoints and notifications. -/
def Cap.isIpc : Cap → Bool
  | .endpoint .. | .notification .. => true
  | _ => false

def Object.isCnode : Object → Bool
  | .cnode .. => true
  | _ => false

/-- A CNode has a capability. -/
def Container.InCspace (c : Container) (id : ObjectId) (cte : CapTableEntry) : Prop :=
  ∃ name bits slots, c.objects[id]? = some ⟨name, .cnode bits slots⟩ ∧ cte ∈ slots

/-- An object other than a CNode has a capability. -/
def Container.InObject (c : Container) (name : String) (cte : CapTableEntry) : Prop :=
  ∃ (id : ObjectId) (o : Object), c.objects[id]? = some ⟨name, o⟩ ∧ o.isCnode = false ∧ cte ∈ o.slots.getD []

/-- What a part of the builder does to the capabilities for communication: it adds those of `P` to CNodes, and those of
`Q` to other objects, which are given by their names. -/
structure Grants (P : ObjectId → CapTableEntry → Prop) (Q : String → CapTableEntry → Prop) (c c' : Container) :
    Prop where
  le : c.objects.length ≤ c'.objects.length
  same : ∀ {id : ObjectId} {obj : NamedObject}, c.objects[id]? = some obj → ∃ obj' : NamedObject,
    c'.objects[id]? = some obj' ∧ obj'.name = obj.name ∧ obj'.object.isCnode = obj.object.isCnode
  kept : ∀ {id : ObjectId} {obj : NamedObject}, c.objects[id]? = some obj → obj.object.slots = none →
    c'.objects[id]? = some obj
  cspace : ∀ id (cte : CapTableEntry), cte.cap.isIpc = true → (c'.InCspace id cte ↔ c.InCspace id cte ∨ P id cte)
  object : ∀ name (cte : CapTableEntry), cte.cap.isIpc = true →
    (c'.InObject name cte ↔ c.InObject name cte ∨ Q name cte)

/-- No capability for communication is added. -/
def Passes : Container → Container → Prop :=
  Grants (fun _ _ => False) (fun _ _ => False)

namespace Grants

variable {P P' : ObjectId → CapTableEntry → Prop} {Q Q' : String → CapTableEntry → Prop} {c c1 c' : Container}

lemma refl (c : Container) : Passes c c where
  le := le_rfl
  same {_ obj} h := ⟨obj, h, rfl, rfl⟩
  kept h _ := h
  cspace _ _ _ := by rw [or_false]
  object _ _ _ := by rw [or_false]

lemma trans (h : Grants P Q c c1) (h' : Grants P' Q' c1 c') :
    Grants (fun id cte => P id cte ∨ P' id cte) (fun name cte => Q name cte ∨ Q' name cte) c c' where
  le := h.le.trans h'.le
  same hobj := by
    obtain ⟨obj1, h1, hname, hkind⟩ := h.same hobj
    obtain ⟨obj2, h2, hname', hkind'⟩ := h'.same h1
    exact ⟨obj2, h2, hname'.trans hname, hkind'.trans hkind⟩
  kept hobj hslots := h'.kept (h.kept hobj hslots) hslots
  cspace id cte hipc := by rw [h'.cspace id cte hipc, h.cspace id cte hipc, or_assoc]
  object name cte hipc := by rw [h'.object name cte hipc, h.object name cte hipc, or_assoc]

/-- The same capabilities, told in another way. -/
lemma congr (h : Grants P Q c c') (hP : ∀ id (cte : CapTableEntry), cte.cap.isIpc = true → (P id cte ↔ P' id cte))
    (hQ : ∀ name (cte : CapTableEntry), cte.cap.isIpc = true → (Q name cte ↔ Q' name cte)) : Grants P' Q' c c' where
  le := h.le
  same := h.same
  kept := h.kept
  cspace id cte hipc := by rw [h.cspace id cte hipc, hP id cte hipc]
  object name cte hipc := by rw [h.object name cte hipc, hQ name cte hipc]

lemma passes (h : Grants P Q c c1) (h' : Passes c1 c') : Grants P Q c c' :=
  (h.trans h').congr (fun _ _ _ => or_iff_left id) fun _ _ _ => or_iff_left id

lemma cspace_iff (h : Grants P Q ⟨[], []⟩ c) {id : ObjectId} {cte : CapTableEntry} (hipc : cte.cap.isIpc = true) :
    c.InCspace id cte ↔ P id cte := by
  rw [h.cspace id cte hipc, or_iff_right]
  rintro ⟨name, bits, slots, hobj, -⟩
  cases hobj

lemma object_iff (h : Grants P Q ⟨[], []⟩ c) {name : String} {cte : CapTableEntry} (hipc : cte.cap.isIpc = true) :
    c.InObject name cte ↔ Q name cte := by
  rw [h.object name cte hipc, or_iff_right]
  rintro ⟨id, o, hobj, -⟩
  cases hobj

end Grants

lemma Passes.grants {P : ObjectId → CapTableEntry → Prop} {Q : String → CapTableEntry → Prop} {c c1 c' : Container}
    (h : Passes c c1) (h' : Grants P Q c1 c') : Grants P Q c c' :=
  (Grants.trans h h').congr (fun _ _ _ => or_iff_right id) fun _ _ _ => or_iff_right id

instance : IsPreorder Container Passes where
  refl := Grants.refl
  trans _ _ _ h h' := Grants.passes h h'

/-! ## Steps -/

section steps

variable {c : Container} {id : ObjectId}

lemma push_cases {obj obj' : NamedObject} (h : (c.push obj).objects[id]? = some obj') :
    c.objects[id]? = some obj' ∨ id = c.objects.length ∧ obj' = obj := by
  rcases Nat.lt_or_ge id c.objects.length with hlt | hge
  · rw [Container.push, List.getElem?_append_left hlt] at h
    exact .inl h
  · have hlt := lt_of_object h
    rw [push_length] at hlt
    obtain rfl : id = c.objects.length := Nat.le_antisymm (Nat.le_of_lt_succ hlt) hge
    rw [push_last] at h
    exact .inr ⟨rfl, (Option.some.inj h).symm⟩

/-- An object is added. -/
lemma push_grants (c : Container) (obj : NamedObject) :
    Grants (fun id cte => id = c.objects.length ∧ obj.object.isCnode = true ∧ cte ∈ obj.object.slots.getD [])
      (fun name cte => name = obj.name ∧ obj.object.isCnode = false ∧ cte ∈ obj.object.slots.getD []) c
      (c.push obj) where
  le := by
    rw [push_length]
    exact Nat.le_succ _
  same {_ obj'} h := ⟨obj', push_objects h, rfl, rfl⟩
  kept h _ := push_objects h
  cspace id cte _ := by
    constructor
    · rintro ⟨name, bits, slots, h, hcte⟩
      rcases push_cases h with h | ⟨rfl, rfl⟩
      · exact .inl ⟨name, bits, slots, h, hcte⟩
      · exact .inr ⟨rfl, rfl, hcte⟩
    · rintro (⟨name, bits, slots, h, hcte⟩ | ⟨rfl, hcnode, hcte⟩)
      · exact ⟨name, bits, slots, push_objects h, hcte⟩
      · obtain ⟨name, o⟩ := obj
        cases o with
        | cnode bits slots => exact ⟨name, bits, slots, push_last c _, hcte⟩
        | _ => cases hcnode
  object name cte _ := by
    constructor
    · rintro ⟨id, o, h, hcnode, hcte⟩
      rcases push_cases h with h | ⟨rfl, rfl⟩
      · exact .inl ⟨id, o, h, hcnode, hcte⟩
      · exact .inr ⟨rfl, hcnode, hcte⟩
    · rintro (⟨id, o, h, hcnode, hcte⟩ | ⟨rfl, hcnode, hcte⟩)
      · exact ⟨id, o, push_objects h, hcnode, hcte⟩
      · exact ⟨c.objects.length, obj.object, push_last c obj, hcnode, hcte⟩

/-- An object gets other slots, with the capabilities of `N` in addition. -/
lemma put_grants {name : String} {o : Object} (N : CapTableEntry → Prop) (h : c.objects[id]? = some ⟨name, o⟩)
    (o' : Object) (hkind : o'.isCnode = o.isCnode) (hslots : o.slots ≠ none)
    (hmem : ∀ cte : CapTableEntry, cte.cap.isIpc = true → (cte ∈ o'.slots.getD [] ↔ cte ∈ o.slots.getD [] ∨ N cte)) :
    Grants (fun i cte => i = id ∧ o.isCnode = true ∧ N cte) (fun n cte => n = name ∧ o.isCnode = false ∧ N cte) c
      (c.put id o') where
  le := by rw [Container.put, List.length_modify]
  same {u obj} hu := by
    rw [put_objects h]
    by_cases e : u = id
    · subst e
      obtain rfl := Option.some.inj (hu.symm.trans h)
      rw [if_pos rfl]
      exact ⟨_, rfl, rfl, hkind⟩
    · rw [if_neg e]
      exact ⟨obj, hu, rfl, rfl⟩
  kept {u obj} hu hnone := by
    rw [put_objects h, if_neg]
    · exact hu
    · rintro rfl
      obtain rfl := Option.some.inj (hu.symm.trans h)
      exact hslots hnone
  cspace u cte hipc := by
    unfold Container.InCspace
    simp only [put_objects h]
    by_cases e : u = id
    · subst e
      rw [if_pos rfl, h]
      constructor
      · rintro ⟨name', bits, slots, hobj, hcte⟩
        obtain ⟨rfl, rfl⟩ := NamedObject.mk.inj (Option.some.inj hobj)
        rcases (hmem cte hipc).mp hcte with hcte | hcte
        · cases o with
          | cnode bits' slots' => exact .inl ⟨_, bits', slots', rfl, hcte⟩
          | _ => cases hkind
        · exact .inr ⟨rfl, hkind.symm, hcte⟩
      · intro hheld
        have hcte : cte ∈ o.slots.getD [] ∨ N cte := by
          rcases hheld with ⟨name', bits, slots, hobj, hcte⟩ | ⟨-, -, hcte⟩
          · obtain ⟨rfl, rfl⟩ := NamedObject.mk.inj (Option.some.inj hobj)
            exact .inl hcte
          · exact .inr hcte
        have hcnode : o.isCnode = true := by
          rcases hheld with ⟨name', bits, slots, hobj, -⟩ | ⟨-, hcnode, -⟩
          · obtain ⟨rfl, rfl⟩ := NamedObject.mk.inj (Option.some.inj hobj)
            rfl
          · exact hcnode
        have hcte' := (hmem cte hipc).mpr hcte
        rw [hcnode] at hkind
        cases o' with
        | cnode bits slots => exact ⟨name, bits, slots, rfl, hcte'⟩
        | _ => cases hkind
    · rw [if_neg e]
      simp [e]
  object name' cte hipc := by
    unfold Container.InObject
    simp only [put_objects h]
    constructor
    · rintro ⟨u, obj, hobj, hcnode, hcte⟩
      by_cases e : u = id
      · subst e
        rw [if_pos rfl] at hobj
        obtain ⟨rfl, rfl⟩ := NamedObject.mk.inj (Option.some.inj hobj)
        rcases (hmem cte hipc).mp hcte with hcte | hcte
        · exact .inl ⟨u, o, h, hkind.symm.trans hcnode, hcte⟩
        · exact .inr ⟨rfl, hkind.symm.trans hcnode, hcte⟩
      · rw [if_neg e] at hobj
        exact .inl ⟨u, obj, hobj, hcnode, hcte⟩
    · rintro (⟨u, obj, hobj, hcnode, hcte⟩ | ⟨rfl, hcnode, hcte⟩)
      · by_cases e : u = id
        · subst e
          obtain ⟨rfl, rfl⟩ := NamedObject.mk.inj (Option.some.inj (hobj.symm.trans h))
          exact ⟨u, o', by rw [if_pos rfl], hkind.trans hcnode, (hmem cte hipc).mpr (.inl hcte)⟩
        · exact ⟨u, obj, by rw [if_neg e]; exact hobj, hcnode, hcte⟩
      · exact ⟨id, o', by rw [if_pos rfl], hkind.trans hcnode, (hmem cte hipc).mpr (.inr hcte)⟩

lemma push_passes {obj : NamedObject} (h : ∀ cte ∈ obj.object.slots.getD [], cte.cap.isIpc = false) :
    Passes c (c.push obj) := by
  refine (push_grants c obj).congr (fun _ cte hipc => ?_) fun _ cte hipc => ?_ <;>
  · refine iff_of_false (fun hmem => ?_) id
    rw [h cte hmem.2.2] at hipc
    cases hipc

variable {α : Type}

lemma panicWith_passes (message : String) : Moves Passes (panicWith message : M α) := .throw _

lemma check_passes {p : Prop} [Decidable p] (message : String) {k : PUnit → M α} (hk : ∀ u, Moves Passes (k u)) :
    Moves Passes (if p then panicWith message >>= k else k ⟨⟩) :=
  .ite (.bind (panicWith_passes message) hk) (hk ⟨⟩)

lemma addRootObject_passes {obj : NamedObject} (h : ∀ cte ∈ obj.object.slots.getD [], cte.cap.isIpc = false) :
    Moves Passes (addRootObject obj) := by
  refine ⟨fun hrun => ?_⟩
  obtain ⟨-, rfl⟩ := addRootObject_ok hrun
  exact push_passes h

lemma getRootObject_passes (id : ObjectId) : Moves Passes (getRootObject id) := by
  refine ⟨fun h => ?_⟩
  obtain ⟨-, rfl⟩ := getRootObject_ok h
  exact refl _

lemma unwrapResult_passes {m : M α} (h : Moves Passes m) : Moves Passes (unwrapResult m) :=
  ⟨fun hrun => h.step (unwrapResult_ok hrun)⟩

lemma unwrapOption_passes (o : Option α) : Moves Passes (unwrapOption o) := by
  refine ⟨fun h => ?_⟩
  obtain ⟨-, rfl⟩ := unwrapOption_ok h
  exact refl _

lemma lookupKey_passes {κ : Type} [BEq κ] (table : List (κ × α)) (key : κ) : Moves Passes (lookupKey table key) := by
  refine ⟨fun h => ?_⟩
  obtain ⟨-, rfl⟩ := lookupKey_ok h
  exact refl _

/-- A capability is inserted into a CSpace. -/
lemma insertCapIntoCspace_grants {cspace : ObjectId} {idx : Nat} {cap : Cap} {u : Unit} {c' : Container}
    (h : insertCapIntoCspace cspace idx cap c = .ok u c') :
    Grants (fun id cte => id = cspace ∧ cte = ⟨idx, cap⟩) (fun _ _ => False) c c' := by
  unfold insertCapIntoCspace at h
  obtain ⟨-, h⟩ := check_ok h
  obtain ⟨⟨name, obj⟩, hobj, h⟩ := ok_read getRootObject_ok h
  cases obj with
  | cnode sizeBits slots =>
    obtain rfl := setObject_ok h
    refine (put_grants (· = ⟨idx, cap⟩) hobj (.cnode sizeBits (slots ++ [⟨idx, cap⟩])) rfl nofun fun cte _ => ?_).congr
      (fun _ _ _ => and_congr_right fun _ => and_iff_right rfl) fun _ _ _ =>
        iff_of_false (fun h => Bool.noConfusion h.2.1) id
    simp [Object.slots]
  | _ => cases h

lemma insertCapIntoCspace_passes (cspace : ObjectId) (idx : Nat) {cap : Cap} (hcap : cap.isIpc = false) :
    Moves Passes (insertCapIntoCspace cspace idx cap) := by
  refine ⟨fun h => (insertCapIntoCspace_grants h).congr (fun _ cte hipc => iff_of_false ?_ id) fun _ _ _ => Iff.rfl⟩
  rintro ⟨-, rfl⟩
  rw [hcap] at hipc
  cases hipc

end steps

/-! ## Memory -/

section memory

variable {config : Config} {pdName : String} {cap : Cap}

lemma getPtLevelName_passes (config : Config) (level : Nat) : Moves Passes (getPtLevelName config level) := by
  refine ⟨fun h => ?_⟩
  obtain ⟨-, rfl⟩ := getPtLevelName_ok h
  exact refl _

lemma insertCapIntoPageTableLevel_passes (t level i : Nat) (hcap : cap.isIpc = false) :
    Moves Passes (insertCapIntoPageTableLevel t level i cap) := by
  refine ⟨fun h => ?_⟩
  unfold insertCapIntoPageTableLevel at h
  obtain ⟨⟨name, o⟩, hobj, h⟩ := ok_read getRootObject_ok h
  cases o with
  | pageTable table =>
    dsimp only at h
    cases hslot : table.slot i with
    | some cap' =>
      rw [hslot] at h
      cases h
    | none =>
      rw [hslot] at h
      obtain rfl := setObject_ok h
      refine (put_grants (fun _ => False) hobj (.pageTable { table with slots := table.slots ++ [⟨i, cap⟩] }) rfl nofun
        fun cte hipc => ?_).congr (fun _ _ _ => iff_of_false (fun h => h.2.2) id) fun _ _ _ => iff_of_false (fun h => h.2.2) id
      simp only [Object.slots, Option.getD_some, List.mem_append, List.mem_singleton, or_false]
      refine or_iff_left ?_
      rintro rfl
      rw [hcap] at hipc
      cases hipc
  | _ => cases h

lemma mapIntermediaryLevelHelper_passes (nextLevelName : String) (v t level i : Nat) (vaddr : Word) :
    Moves Passes (mapIntermediaryLevelHelper config pdName nextLevelName v t level i vaddr) := by
  refine .bind (getRootObject_passes t) fun obj => ?_
  split
  · split
    · exact .pure _
    · refine .bind (getRootObject_passes v) fun vspace => ?_
      split
      · exact .bind (addRootObject_passes (List.forall_mem_nil _)) fun _ =>
          .bind (insertCapIntoPageTableLevel_passes _ _ _ rfl) fun _ => .pure _
      · exact panicWith_passes _
  · exact .throw _

lemma mapRecursive_passes (v t level : Nat) (size : Sdf.PageSize) (vaddr : Word) (hcap : cap.isIpc = false) :
    Moves Passes (mapRecursive config pdName v t level cap size vaddr) := by
  induction hn : config.numPageTableLevels - level generalizing t level with
  | zero =>
    rw [mapRecursive, dif_pos (Nat.le_of_sub_eq_zero hn)]
    exact panicWith_passes _
  | succ n ih =>
    rw [mapRecursive, dif_neg (by omega)]
    refine .ite (insertCapIntoPageTableLevel_passes _ _ _ hcap) ?_
    exact .bind (getPtLevelName_passes ..) fun _ => .bind (mapIntermediaryLevelHelper_passes ..) fun next =>
      ih next (level + 1) (by omega)

lemma mapPage_passes (v : ObjectId) (size : Sdf.PageSize) (vaddr : Word) (hcap : cap.isIpc = false) :
    Moves Passes (mapPage config pdName v cap size vaddr) :=
  mapRecursive_passes _ _ _ _ _ hcap

lemma createVspace_passes (config : Config) (pdName : String) : Moves Passes (createVspace config pdName) :=
  .bind (getPtLevelName_passes ..) fun _ => addRootObject_passes (List.forall_mem_nil _)

lemma createVspaceEpt_passes (config : Config) (vmName : String) : Moves Passes (createVspaceEpt config vmName) := by
  unfold createVspaceEpt
  exact check_passes _ fun _ => .bind (getPtLevelName_passes ..) fun _ => addRootObject_passes (List.forall_mem_nil _)

lemma mapSegment_passes (vspace elfId segIdx n : Nat) (seg : Segment) (curVaddr : Word) (frameSequence : Nat) :
    Moves Passes (mapSegment config pdName vspace elfId segIdx seg n curVaddr frameSequence) := by
  induction n generalizing curVaddr frameSequence with
  | zero => exact panicWith_passes _
  | succ n ih =>
    refine .ite (.pure _) (.bind (addRootObject_passes (List.forall_mem_nil _)) fun frame => ⟨fun h => ?_⟩)
    split at h
    · rename_i c1 hmap
      exact trans_of Passes ((mapPage_passes _ _ _ rfl).step hmap) ((ih _ _).step h)
    · cases h
    · cases h

lemma mapSegments_passes (vspace elfId segIdx frameSequence : Nat) (segs : List Segment) :
    Moves Passes (mapSegments config pdName vspace elfId segIdx frameSequence segs) := by
  induction segs generalizing segIdx frameSequence with
  | nil => exact .pure _
  | cons seg segs ih =>
    unfold mapSegments
    exact check_passes _ fun _ => .ite (ih _ _) (.bind (mapSegment_passes ..) fun _ => ih _ _)

lemma addElfToSpec_passes (config : Config) (pdName : String) (pdCpu elfId : Nat) (elf : Elf) :
    Moves Passes (addElfToSpec config pdName pdCpu elfId elf) := by
  refine ⟨fun h => ?_⟩
  unfold addElfToSpec at h
  obtain ⟨vspace, c1, hvspace, h⟩ := ok_bind h
  obtain ⟨⟨⟩, c2, hsegs, h⟩ := ok_bind h
  obtain ⟨frame, c3, hframe, h⟩ := ok_bind h
  have h1 := (createVspace_passes ..).step hvspace
  have h2 := trans_of Passes h1 ((mapSegments_passes ..).step hsegs)
  have h3 := trans_of Passes h2 ((addRootObject_passes (List.forall_mem_nil _)).step hframe)
  extract_lets cap map at h
  cases hbuf : elf.ipcBuffer with
  | none =>
    rw [hbuf] at h
    cases h
  | some vaddr =>
    rw [hbuf] at h
    obtain ⟨⟨⟩, c4, hmap, h⟩ := ok_bind (show map vaddr c3 = _ from h)
    have h4 : Passes c3 c4 := by
      split at hmap
      · cases hmap
      · exact (mapPage_passes _ _ _ rfl).step hmap
    refine trans_of Passes (trans_of Passes h3 h4) ((addRootObject_passes ?_).step h)
    simp [Object.slots, Cap.isIpc, cap, makeFrameCap]

lemma pageSizeOf_passes (sizeBits : Nat) : Moves Passes (pageSizeOf sizeBits) :=
  .ite (.pure _) (.ite (.pure _) (panicWith_passes _))

lemma mapMemoryRegion_passes (config : Config) (pdName : String) (map : SysMap) (sizeBits : Nat) (vspace : ObjectId)
    (curVaddr : Word) (ids : List ObjectId) :
    Moves Passes (mapMemoryRegion config pdName map sizeBits vspace curVaddr ids) := by
  induction ids generalizing curVaddr with
  | nil => exact .pure _
  | cons frame ids ih =>
    exact .bind (pageSizeOf_passes sizeBits) fun _ =>
      .bind (unwrapResult_passes (mapPage_passes _ _ _ rfl)) fun _ => ih _

lemma checkMapRange_passes (config : Config) (pd : ProtectionDomain) (elf : Elf) (map : SysMap) (range : Word × Word) :
    Moves Passes (checkMapRange config pd elf map range) := by
  refine .ite (.bind (.throw _) fun _ => ?_) ?_ <;> split
  all_goals first | exact .throw _ | exact .pure _

lemma getVspaceIdFromTcbId_passes (tcb : ObjectId) : Moves Passes (getVspaceIdFromTcbId tcb) := by
  refine .bind (getRootObject_passes tcb) fun obj => ?_
  split
  · split
    · exact .pure _
    · exact panicWith_passes _
  · exact panicWith_passes _

lemma getFrameSizeBits_passes (frame : ObjectId) : Moves Passes (getFrameSizeBits frame) := by
  refine .bind (getRootObject_passes frame) fun obj => ?_
  split
  · exact .pure _
  · exact panicWith_passes _

lemma mapFrames_passes (frames : List (String × List ObjectId)) (map : SysMap) :
    Moves Passes (mapFrames frames map) :=
  .bind (lookupKey_passes ..) fun _ => .bind (unwrapOption_passes _) fun _ =>
    .bind (getFrameSizeBits_passes _) fun _ => .pure _

lemma mapInPd_passes (config : Config) (frames : List (String × List ObjectId)) (pd : ProtectionDomain) (elf : Elf)
    (vspace : ObjectId) (map : SysMap) : Moves Passes (mapInPd config frames pd elf vspace map) :=
  .bind (mapFrames_passes frames map) fun _ => .bind (checkMapRange_passes ..) fun _ => mapMemoryRegion_passes ..

lemma mapStackFrame_passes (config : Config) (pd : ProtectionDomain) (vspace : ObjectId) (stackFrameSeq : Nat) :
    Moves Passes (mapStackFrame config pd vspace stackFrameSeq) :=
  .bind (addRootObject_passes (List.forall_mem_nil _)) fun _ => unwrapResult_passes (mapPage_passes _ _ _ rfl)

lemma regionFill_passes (mr : SysMemoryRegion) (frameSequence : Nat) : Moves Passes (regionFill mr frameSequence) := by
  unfold regionFill
  split
  · exact .pure _
  · exact .ite (panicWith_passes _) (.pure _)

lemma buildRegions_passes (config : Config) (mrs : List SysMemoryRegion) : Moves Passes (buildRegions config mrs) :=
  .foldlM (fun _ mr => .bind (.mapM (fun seq => .bind (regionFill_passes mr seq) fun _ =>
    addRootObject_passes (List.forall_mem_nil _)) _) fun _ => .pure _) _ _

end memory

end NexsKernel.Capdl
