import NexsKernel.Capdl.Adds

/-!
# The parts of the builder

One lemma for each function of the builder that succeeds: what it returns, and what it does to the container.
-/

namespace NexsKernel.Capdl

open Sdf Failing

variable {config : Config} {system : SystemDescription} {c c' : Container} {id : ObjectId} {pdName : String}

/-! ## Objects -/

lemma addRootObject_ok {obj : NamedObject} (h : addRootObject obj c = .ok id c') :
    id = c.objects.length ∧ c' = c.push obj := by
  cases h
  exact ⟨rfl, rfl⟩

lemma getRootObject_ok {obj : NamedObject} (h : getRootObject id c = .ok obj c') :
    c.objects[id]? = some obj ∧ c' = c := by
  cases hobj : c.objects[id]? with
  | some obj' =>
    rw [getRootObject_run hobj] at h
    cases h
    exact ⟨rfl, rfl⟩
  | none =>
    unfold getRootObject at h
    obtain ⟨c1, _, hget, h⟩ := ok_bind h
    cases hget
    rw [hobj] at h
    cases h

lemma setObject_ok {obj : Object} {u : Unit} (h : setObject id obj c = .ok u c') : c' = c.put id obj := by
  cases h
  rfl

lemma push_last (c : Container) (obj : NamedObject) : (c.push obj).objects[c.objects.length]? = some obj :=
  List.getElem?_concat_length

lemma push_length (c : Container) (obj : NamedObject) : (c.push obj).objects.length = c.objects.length + 1 := by
  rw [Container.push, List.length_append, List.length_singleton]

/-- An object that is no CNode is added. -/
lemma addRootObject_adds {obj : NamedObject} (h : addRootObject obj c = .ok id c') (hm : obj.Made config system)
    (hc : ∀ bits slots, obj.object ≠ .cnode bits slots) :
    Adds config system [] c c' ∧ id = c.objects.length ∧ c'.objects[id]? = some obj := by
  obtain ⟨rfl, rfl⟩ := addRootObject_ok h
  exact ⟨.push hm fun bits slots e => absurd e (hc bits slots), rfl, push_last c obj⟩

/-! ## `unwrap` -/

lemma unwrapResult_ok {α : Type} {m : M α} {a : α} (h : unwrapResult m c = .ok a c') : m c = .ok a c' := by
  unfold unwrapResult at h
  split at h
  · cases h
  · exact h

lemma unwrapOption_ok {α : Type} {o : Option α} {a : α} (h : unwrapOption o c = .ok a c') : o = some a ∧ c' = c := by
  cases o with
  | none => cases h
  | some b =>
    obtain ⟨rfl, rfl⟩ := ok_pure h
    exact ⟨rfl, rfl⟩

lemma lookupKey_ok {κ α : Type} [BEq κ] {table : List (κ × α)} {key : κ} {a : α}
    (h : lookupKey table key c = .ok a c') :
    table.lookup key = some a ∧ c' = c := by
  unfold lookupKey at h
  cases hb : table.lookup key with
  | none =>
    rw [hb] at h
    cases h
  | some b =>
    rw [hb] at h
    obtain ⟨rfl, rfl⟩ := ok_pure h
    exact ⟨rfl, rfl⟩

/-- A check that panics has passed. -/
lemma check_ok {α : Type} {p : Prop} [Decidable p] {message : String} {k : PUnit → M α} {a : α}
    (h : (if p then panicWith message >>= k else k ⟨⟩) c = .ok a c') : ¬ p ∧ k ⟨⟩ c = .ok a c' := by
  by_cases hp : p
  · rw [if_pos hp] at h
    cases h
  · rw [if_neg hp] at h
    exact ⟨hp, h⟩

/-! ## Address spaces -/

lemma getPtLevelName_ok {level : Nat} {name : String} (h : getPtLevelName config level c = .ok name c') :
    (ptLevelNames config.arch)[level]? = some name ∧ c' = c := by
  unfold getPtLevelName at h
  unfold ptLevelNames
  cases ha : config.arch
  all_goals
    rw [ha] at h
    dsimp only at h ⊢
    split at h
    all_goals
      cases h
      try exact ⟨rfl, rfl⟩

lemma insertCapIntoPageTableLevel_adds {t level i : Nat} {cap : Cap} {u : Unit}
    (h : insertCapIntoPageTableLevel t level i cap c = .ok u c') : Adds config system [] c c' := by
  unfold insertCapIntoPageTableLevel at h
  obtain ⟨⟨name, o⟩, hobj, h⟩ := ok_read getRootObject_ok h
  cases o with
  | pageTable table =>
    dsimp only at h
    cases hslot : table.slot i with
    | some cap' =>
      rw [hslot] at h
      cases h
    | none =>
      rw [hslot] at h
      obtain rfl := setObject_ok h
      exact .table hobj rfl
  | _ => cases h

lemma made_level {obj : NamedObject} {name : String} (rest : String) {level : Nat} {table : PageTable}
    (h : (ptLevelNames config.arch)[level]? = some name) (hname : obj.name = name ++ "_" ++ rest)
    (hobj : obj.object = .pageTable table) (hroot : table.isRoot = decide (level = topPtLevelNumber config)) :
    obj.Made config system := by
  refine made_kind rest (mem_kinds_level h) hname (by rw [hobj]; rfl) ?_
  simp [physicalSizeBits, hobj, hroot]

lemma mapIntermediaryLevelHelper_adds {nextLevelName : String} {v t level i : Nat} {vaddr : Word} {next : ObjectId}
    (h : mapIntermediaryLevelHelper config pdName nextLevelName v t level i vaddr c = .ok next c')
    (hname : (ptLevelNames config.arch)[level + 1]? = some nextLevelName) (htop : topPtLevelNumber config ≤ level) :
    Adds config system [] c c' := by
  unfold mapIntermediaryLevelHelper at h
  obtain ⟨⟨name, o⟩, -, h⟩ := ok_read getRootObject_ok h
  cases o with
  | pageTable table =>
    dsimp only at h
    cases hslot : table.slot i with
    | some cap =>
      rw [hslot] at h
      obtain ⟨-, rfl⟩ := ok_pure h
      exact .refl _
    | none =>
      rw [hslot] at h
      obtain ⟨⟨vname, vspace⟩, -, h⟩ := ok_read getRootObject_ok h
      cases vspace with
      | pageTable vspaceTable =>
        obtain ⟨_, c1, hadd, h⟩ := ok_bind h
        obtain ⟨⟨⟩, c2, hins, h⟩ := ok_bind h
        obtain ⟨-, rfl⟩ := ok_pure h
        refine (addRootObject_adds hadd ?_ nofun).1.more (insertCapIntoPageTableLevel_adds hins)
        have hroot : ¬ level + 1 = topPtLevelNumber config := by omega
        refine made_level s!"{pdName}_vaddr_0x{hex (getPtLevelCoverageStart config (level + 1) vaddr)}" hname ?_ rfl
          (decide_eq_false hroot).symm
        simp only [String.append_assoc]
        rfl
      | _ => cases h
  | _ => cases h

lemma mapRecursive_adds {v t level : Nat} {cap : Cap} {size : Sdf.PageSize} {vaddr : Word} {u : Unit}
    (h : mapRecursive config pdName v t level cap size vaddr c = .ok u c') (htop : topPtLevelNumber config ≤ level) :
    Adds config system [] c c' := by
  induction hn : config.numPageTableLevels - level generalizing t level c with
  | zero =>
    rw [mapRecursive, dif_pos (Nat.le_of_sub_eq_zero hn)] at h
    cases h
  | succ n ih =>
    rw [mapRecursive, dif_neg (by omega)] at h
    by_cases hlevel : level = getPtLevelToInsert config size
    · rw [if_pos hlevel] at h
      exact insertCapIntoPageTableLevel_adds h
    · rw [if_neg hlevel] at h
      obtain ⟨levelName, hname, h⟩ := ok_read getPtLevelName_ok h
      obtain ⟨next, c1, hnext, h⟩ := ok_bind h
      exact (mapIntermediaryLevelHelper_adds hnext hname htop).more (ih h (by omega) (by omega))

lemma mapPage_adds {v : ObjectId} {cap : Cap} {size : Sdf.PageSize} {vaddr : Word} {u : Unit}
    (h : mapPage config pdName v cap size vaddr c = .ok u c') : Adds config system [] c c' :=
  mapRecursive_adds h le_rfl

lemma createVspace_adds (h : createVspace config pdName c = .ok id c') : Adds config system [] c c' := by
  obtain ⟨name, hname, h⟩ := ok_read getPtLevelName_ok h
  exact (addRootObject_adds h (made_level pdName hname rfl rfl (decide_eq_true rfl).symm) nofun).1

lemma createVspaceEpt_adds (h : createVspaceEpt config pdName c = .ok id c') : Adds config system [] c c' := by
  unfold createVspaceEpt at h
  obtain ⟨ha, h⟩ := check_ok h
  obtain ⟨name, hname, h⟩ := ok_read getPtLevelName_ok h
  have htop : 0 = topPtLevelNumber config := by
    unfold topPtLevelNumber
    rw [if_neg]
    rw [not_not.mp ha]
    exact nofun
  exact (addRootObject_adds h (made_level pdName hname rfl rfl (decide_eq_true htop).symm) nofun).1

/-! ## Programs -/

lemma makeFrameObj_adds {init : List FillEntry} {name : String} {paddr : Option Word} {sizeBits : Nat}
    (h : makeFrameObj init name paddr sizeBits c = .ok id c') (hm : MadeFrame config system name paddr sizeBits) :
    Adds config system [] c c' ∧ id = c.objects.length ∧
      c'.objects[id]? = some ⟨s!"frame_{name}", .frame sizeBits paddr init⟩ :=
  addRootObject_adds h (.frame hm) nofun

lemma mapSegment_adds {vspace elfId segIdx n frameSequence frameSequence' : Nat} {seg : Segment} {curVaddr : Word}
    (h : mapSegment config pdName vspace elfId segIdx seg n curVaddr frameSequence c = .ok frameSequence' c') :
    Adds config system [] c c' := by
  induction n generalizing curVaddr frameSequence c with
  | zero => cases h
  | succ n ih =>
    unfold mapSegment at h
    by_cases hend : seg.virtAddr + seg.memSize ≤ curVaddr
    · rw [if_pos hend] at h
      obtain ⟨-, rfl⟩ := ok_pure h
      exact .refl _
    · rw [if_neg hend] at h
      obtain ⟨frame, c1, hframe, h⟩ := ok_bind h
      have hadds := (makeFrameObj_adds hframe (.elf pdName frameSequence) : Adds config system [] c c1 ∧ _).1
      dsimp only at h
      split at h
      · rename_i c2 hmap
        exact (hadds.more (mapPage_adds hmap)).more (ih h)
      · cases h
      · cases h

lemma mapSegments_adds {vspace elfId segIdx frameSequence : Nat} {segs : List Segment} {u : Unit}
    (h : mapSegments config pdName vspace elfId segIdx frameSequence segs c = .ok u c') :
    Adds config system [] c c' := by
  induction segs generalizing segIdx frameSequence c with
  | nil =>
    obtain ⟨-, rfl⟩ := ok_pure h
    exact .refl _
  | cons seg segs ih =>
    unfold mapSegments at h
    obtain ⟨-, h⟩ := check_ok h
    by_cases hempty : seg.memSize = 0
    · rw [if_pos hempty] at h
      exact ih h
    · rw [if_neg hempty] at h
      obtain ⟨_, c1, hseg, h⟩ := ok_bind h
      exact (mapSegment_adds hseg).more (ih h)

/-- The TCB of a program, with the capabilities that are bound to it first. -/
lemma addElfToSpec_adds {pdCpu elfId : Nat} {elf : Elf} {tcb : ObjectId}
    (h : addElfToSpec config pdName pdCpu elfId elf c = .ok tcb c') :
    Adds config system [] c c' ∧ c.objects.length ≤ tcb ∧ ∃ vspace frame extra, c'.objects[tcb]? =
    some ⟨s!"tcb_{pdName}",
      .tcb [⟨TcbBoundSlot.vspace.idx, .pageTable vspace⟩,
        ⟨TcbBoundSlot.ipcBuffer.idx, makeFrameCap frame true true false true⟩]
        extra⟩ := by
  unfold addElfToSpec at h
  obtain ⟨vspace, c1, hvspace, h⟩ := ok_bind h
  obtain ⟨⟨⟩, c2, hsegs, h⟩ := ok_bind h
  obtain ⟨frame, c3, hframe, h⟩ := ok_bind h
  have h1 : Adds config system [] c c1 := createVspace_adds hvspace
  have h2 := h1.more (mapSegments_adds hsegs)
  have h3 := h2.more (makeFrameObj_adds hframe (.ipcbuf pdName)).1
  extract_lets cap map at h
  cases hbuf : elf.ipcBuffer with
  | none =>
    rw [hbuf] at h
    cases h
  | some vaddr =>
    rw [hbuf] at h
    obtain ⟨⟨⟩, c4, hmap, h⟩ := ok_bind (show map vaddr c3 = _ from h)
    have h4 : Adds config system [] c c4 := by
      refine h3.more ?_
      split at hmap
      · cases hmap
      · exact mapPage_adds hmap
    have hkind : ("tcb", config.objectSizes.tcb) ∈ kinds config := by simp [kinds]
    obtain ⟨h5, rfl, hobj⟩ := addRootObject_adds h (made_kind pdName hkind rfl rfl rfl) nofun
    exact ⟨h4.more h5, h4.le, vspace, frame, _, hobj⟩

end NexsKernel.Capdl
