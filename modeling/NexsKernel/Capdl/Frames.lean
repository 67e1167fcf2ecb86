import NexsKernel.Capdl.Parts
import NexsKernel.Sdf.PageSizes

/-!
# Frames stay

The builder changes no frame that it has made. So the frames of the memory regions, which come first, are still in the
container when a protection domain maps them (`buildUpTo_regions`).
-/

namespace NexsKernel.Capdl

open Sdf Failing

/-! ## Steps of the builder -/

/-- The frames of the first container are in the second one. -/
def FramesStay (c c' : Container) : Prop :=
  ∀ (id : ObjectId) name sizeBits paddr init, c.objects[id]? = some ⟨name, .frame sizeBits paddr init⟩ →
    c'.objects[id]? = some ⟨name, .frame sizeBits paddr init⟩

instance : IsPreorder Container FramesStay where
  refl _ _ _ _ _ _ h := h
  trans _ _ _ h h' id name sizeBits paddr init hobj := h' id name sizeBits paddr init
    (h id name sizeBits paddr init hobj)

section steps

variable {config : Config} {c c' : Container} {id : ObjectId} {α : Type}

lemma FramesStay.push (c : Container) (obj : NamedObject) : FramesStay c (c.push obj) :=
  fun _ _ _ _ _ hobj => push_objects hobj

/-- Another object may be changed. -/
lemma FramesStay.put {name : String} {o : Object} (h : c.objects[id]? = some ⟨name, o⟩)
    (hframe : ∀ sizeBits paddr init, o ≠ .frame sizeBits paddr init) (o' : Object) : FramesStay c (c.put id o') := by
  intro u name' sizeBits paddr init hobj
  rw [put_objects h]
  by_cases e : u = id
  · subst e
    obtain ⟨-, rfl⟩ := NamedObject.mk.inj (Option.some.inj (h.symm.trans hobj))
    exact absurd rfl (hframe sizeBits paddr init)
  · rwa [if_neg e]

lemma Adds.framesStay (h : Adds config ⟨[], [], []⟩ [] c c') : FramesStay c c' :=
  fun _ _ _ _ _ hobj => h.kept hobj List.not_mem_nil rfl

lemma panicWith_stay (message : String) : Moves FramesStay (panicWith message : M α) := .throw _

lemma check_stay {p : Prop} [Decidable p] (message : String) {k : PUnit → M α} (hk : ∀ u, Moves FramesStay (k u)) :
    Moves FramesStay (if p then panicWith message >>= k else k ⟨⟩) :=
  .ite (.bind (panicWith_stay message) hk) (hk ⟨⟩)

lemma addRootObject_stay (obj : NamedObject) : Moves FramesStay (addRootObject obj) := by
  refine ⟨fun h => ?_⟩
  obtain ⟨-, rfl⟩ := addRootObject_ok h
  exact .push _ obj

lemma getRootObject_stay (id : ObjectId) : Moves FramesStay (getRootObject id) := by
  refine ⟨fun h => ?_⟩
  obtain ⟨-, rfl⟩ := getRootObject_ok h
  exact refl _

lemma unwrapResult_stay {m : M α} (h : Moves FramesStay m) : Moves FramesStay (unwrapResult m) :=
  ⟨fun hrun => h.step (unwrapResult_ok hrun)⟩

lemma unwrapOption_stay (o : Option α) : Moves FramesStay (unwrapOption o) := by
  refine ⟨fun h => ?_⟩
  obtain ⟨-, rfl⟩ := unwrapOption_ok h
  exact refl _

lemma lookupKey_stay {κ : Type} [BEq κ] (table : List (κ × α)) (key : κ) : Moves FramesStay (lookupKey table key) := by
  refine ⟨fun h => ?_⟩
  obtain ⟨-, rfl⟩ := lookupKey_ok h
  exact refl _

lemma mapPage_stay (config : Config) (pdName : String) (v : ObjectId) (cap : Cap) (size : Sdf.PageSize) (vaddr : Word) :
    Moves FramesStay (mapPage config pdName v cap size vaddr) :=
  ⟨fun h => Adds.framesStay (mapPage_adds h)⟩

lemma addElfToSpec_stay (config : Config) (pdName : String) (pdCpu elfId : Nat) (elf : Elf) :
    Moves FramesStay (addElfToSpec config pdName pdCpu elfId elf) :=
  ⟨fun h => Adds.framesStay (addElfToSpec_adds h).1⟩

lemma insertCapIntoCspace_stay (cspace : ObjectId) (idx : Nat) (cap : Cap) :
    Moves FramesStay (insertCapIntoCspace cspace idx cap) := by
  refine ⟨fun h => ?_⟩
  unfold insertCapIntoCspace at h
  obtain ⟨-, h⟩ := check_ok h
  obtain ⟨⟨name, obj⟩, hobj, h⟩ := ok_read getRootObject_ok h
  cases obj with
  | cnode sizeBits slots =>
    obtain rfl := setObject_ok h
    exact .put hobj nofun _
  | _ => cases h

lemma setTcb_stay (tcb : ObjectId) (update : TcbExtraInfo → TcbExtraInfo)
    (bind : List CapTableEntry → List CapTableEntry) :
    Moves FramesStay (setTcb tcb update bind) := by
  refine ⟨fun h => ?_⟩
  obtain ⟨⟨name, obj⟩, hobj, h⟩ := ok_read getRootObject_ok h
  cases obj with
  | tcb slots extra =>
    obtain rfl := setObject_ok h
    exact .put hobj nofun _
  | _ => cases h

lemma bindIrqToNtfn_stay (irqObj : ObjectId) (ntfnCap : Cap) : Moves FramesStay (bindIrqToNtfn irqObj ntfnCap) := by
  refine ⟨fun h => ?_⟩
  obtain ⟨⟨name, obj⟩, hobj, h⟩ := ok_read getRootObject_ok h
  cases obj with
  | armIrq | irqMsi | irqIOApic | riscvIrq =>
    obtain rfl := setObject_ok h
    exact .put hobj nofun _
  | _ => cases h

lemma getVspaceIdFromTcbId_stay (tcb : ObjectId) : Moves FramesStay (getVspaceIdFromTcbId tcb) := by
  refine .bind (getRootObject_stay tcb) fun obj => ?_
  split
  · split
    · exact .pure _
    · exact panicWith_stay _
  · exact panicWith_stay _

lemma getFrameSizeBits_stay (frame : ObjectId) : Moves FramesStay (getFrameSizeBits frame) := by
  refine .bind (getRootObject_stay frame) fun obj => ?_
  split
  · exact .pure _
  · exact panicWith_stay _

end steps

/-! ## Parts of the builder -/

section parts

variable {config : Config} {monitor : Monitor} {frames : List (String × List ObjectId)} {pd : ProtectionDomain}
  {tables : PdTables}

lemma createVspace_stay (config : Config) (pdName : String) : Moves FramesStay (createVspace config pdName) :=
  ⟨fun h => Adds.framesStay (createVspace_adds h)⟩

lemma createVspaceEpt_stay (config : Config) (vmName : String) : Moves FramesStay (createVspaceEpt config vmName) :=
  ⟨fun h => Adds.framesStay (createVspaceEpt_adds h)⟩

lemma pageSizeOf_stay (sizeBits : Nat) : Moves FramesStay (pageSizeOf sizeBits) :=
  .ite (.pure _) (.ite (.pure _) (panicWith_stay _))

lemma mapMemoryRegion_stay (config : Config) (pdName : String) (map : SysMap) (sizeBits : Nat) (vspace : ObjectId)
    (curVaddr : Word) (ids : List ObjectId) :
    Moves FramesStay (mapMemoryRegion config pdName map sizeBits vspace curVaddr ids) := by
  induction ids generalizing curVaddr with
  | nil => exact .pure _
  | cons frame ids ih =>
    exact .bind (pageSizeOf_stay sizeBits) fun _ => .bind (unwrapResult_stay (mapPage_stay ..)) fun _ => ih _

lemma checkMapRange_stay (config : Config) (pd : ProtectionDomain) (elf : Elf) (map : SysMap) (range : Word × Word) :
    Moves FramesStay (checkMapRange config pd elf map range) := by
  refine .ite (.bind (.throw _) fun _ => ?_) ?_ <;> split
  all_goals first | exact .throw _ | exact .pure _

lemma mapFrames_stay (frames : List (String × List ObjectId)) (map : SysMap) :
    Moves FramesStay (mapFrames frames map) :=
  .bind (lookupKey_stay ..) fun _ => .bind (unwrapOption_stay _) fun _ =>
    .bind (getFrameSizeBits_stay _) fun _ => .pure _

lemma mapInPd_stay (config : Config) (frames : List (String × List ObjectId)) (pd : ProtectionDomain) (elf : Elf)
    (vspace : ObjectId) (map : SysMap) : Moves FramesStay (mapInPd config frames pd elf vspace map) :=
  .bind (mapFrames_stay frames map) fun _ => .bind (checkMapRange_stay ..) fun _ => mapMemoryRegion_stay ..

lemma mapStackFrame_stay (config : Config) (pd : ProtectionDomain) (vspace : ObjectId) (stackFrameSeq : Nat) :
    Moves FramesStay (mapStackFrame config pd vspace stackFrameSeq) :=
  .bind (addRootObject_stay _) fun _ => unwrapResult_stay (mapPage_stay ..)

lemma buildVcpu_stay (pdEp : Option ObjectId) (vm : VirtualMachine) (vspace : ObjectId) (acc : List CapTableEntry × Nat)
    (vcpuIdx : VirtualCpu × Nat) : Moves FramesStay (buildVcpu config monitor pd pdEp vm vspace acc vcpuIdx) :=
  .bind (addRootObject_stay _) fun _ => .bind (addRootObject_stay _) fun _ => .bind (unwrapOption_stay _) fun _ =>
    .bind (addRootObject_stay _) fun _ => .bind (addRootObject_stay _) fun _ => .bind (addRootObject_stay _) fun _ =>
    .bind (insertCapIntoCspace_stay ..) fun _ => .pure _

lemma buildX86Vcpu_stay (vm : VirtualMachine) (vspace : ObjectId) : Moves FramesStay (buildX86Vcpu vm vspace) := by
  unfold buildX86Vcpu
  exact check_stay _ fun _ => .bind (unwrapOption_stay _) fun _ => .bind (addRootObject_stay _) fun _ => .pure _

lemma buildVm_stay (pdEp : Option ObjectId) (monitorVcpuIdx : Nat) (vm : VirtualMachine) :
    Moves FramesStay (buildVm config monitor frames pd pdEp monitorVcpuIdx vm) := by
  refine .ite (.bind (createVspaceEpt_stay ..) fun vspace => ?_) (.bind (createVspace_stay ..) fun vspace => ?_) <;>
    exact .bind (.forM (fun map => .bind (mapFrames_stay frames map) fun _ => mapMemoryRegion_stay ..) _) fun _ =>
      .ite (.bind (buildX86Vcpu_stay vm vspace) fun _ => .pure _)
        (.bind (.foldlM (fun acc vcpu => buildVcpu_stay pdEp vm vspace acc vcpu) _ _) fun _ => .pure _)

lemma buildFaultEp_stay (idx : Nat) (tcb : ObjectId) : Moves FramesStay (buildFaultEp monitor tables pd idx tcb) := by
  unfold buildFaultEp
  split
  · exact check_stay _ fun _ => .bind (unwrapOption_stay _) fun _ => .bind (lookupKey_stay ..) fun _ =>
      .bind (lookupKey_stay ..) fun _ => .bind (insertCapIntoCspace_stay ..) fun _ => .pure _
  · exact .pure _

lemma buildInput_stay (channels : List Channel) (idx : Nat) (ntfn : ObjectId) :
    Moves FramesStay (buildInput channels pd idx ntfn) :=
  .ite (.bind (addRootObject_stay _) fun _ => .pure _) (.pure _)

lemma createIrqObj_stay (pdName : String) (pdCpu : Nat) (irq : SysIrq) :
    Moves FramesStay (createIrqObj config pdName pdCpu irq) := by
  unfold createIrqObj
  split
  · exact addRootObject_stay _
  · exact panicWith_stay _

lemma makeIrqHandlerCap_stay (irqObj : ObjectId) (kind : SysIrqKind) :
    Moves FramesStay (makeIrqHandlerCap config irqObj kind) := by
  unfold makeIrqHandlerCap
  split
  · exact .pure _
  · exact panicWith_stay _

lemma buildIrqs_stay (ntfn : ObjectId) : Moves FramesStay (buildIrqs config pd ntfn) := by
  refine .mapM (fun irq => .bind ?_ fun _ => .pure _) _
  refine .bind (createIrqObj_stay ..) fun irqObj => .bind ?_ fun _ =>
    .bind (bindIrqToNtfn_stay ..) fun _ => makeIrqHandlerCap_stay ..
  refine ⟨fun h => ?_⟩
  cases h
  exact fun _ _ _ _ _ hobj => hobj

lemma buildIoports_stay (pd : ProtectionDomain) : Moves FramesStay (buildIoports pd) :=
  .mapM (fun _ => .bind (addRootObject_stay _) fun _ => .pure _) _

lemma buildSmc_stay (armSmc : Option ObjectId) : Moves FramesStay (buildSmc pd armSmc) :=
  .ite (.bind (unwrapOption_stay _) fun _ => .pure _) (.pure _)

lemma bindToMonitor_stay (idx : Nat) (tcb sc ntfn : ObjectId) :
    Moves FramesStay (bindToMonitor monitor pd idx tcb sc ntfn) :=
  .bind (insertCapIntoCspace_stay ..) fun _ =>
    .ite (.bind (insertCapIntoCspace_stay ..) fun _ => insertCapIntoCspace_stay ..) (.pure _)

lemma buildArmSmc_stay (config : Config) (pds : List ProtectionDomain) : Moves FramesStay (buildArmSmc config pds) :=
  .ite (.bind (addRootObject_stay _) fun _ => .pure _) (.pure _)

lemma buildPd_stay (elfs : List Elf) (channels : List Channel) (armSmc : Option ObjectId)
    (pdIdx : ProtectionDomain × Nat) :
    Moves FramesStay (buildPd config elfs channels monitor frames armSmc tables pdIdx) := by
  unfold buildPd
  refine .bind (unwrapOption_stay _) fun elf => .bind (unwrapResult_stay (addElfToSpec_stay ..)) fun tcb =>
    .bind (getVspaceIdFromTcbId_stay _) fun vspace => .bind (.forM (fun map => mapInPd_stay ..) _) fun _ =>
    .bind (.forM (fun seq => mapStackFrame_stay ..) _) fun _ => .bind (addRootObject_stay _) fun sc =>
    .bind (buildFaultEp_stay ..) fun faultEpCap => .bind (addRootObject_stay _) fun ntfn =>
      .bind (buildInput_stay ..) fun input =>
    .bind (addRootObject_stay _) fun reply => .bind (buildIrqs_stay _) fun irqCaps =>
      .bind (buildIoports_stay _) fun ioportCaps => ?_
  extract_lets rest
  have hrest : ∀ vm, Moves FramesStay (rest vm) := fun vm =>
    .bind (buildSmc_stay _) fun _ => .bind (addRootObject_stay _) fun _ => .bind (setTcb_stay ..) fun _ =>
      .bind (bindToMonitor_stay ..) fun _ => .pure _
  split
  · exact .bind (buildVm_stay ..) hrest
  · exact .bind (.pure _) hrest

end parts

/-! ## The frames of memory regions -/

/-- The container has the frames of the memory regions. -/
structure RegionFrames (config : Config) (mrs : List SysMemoryRegion) (frames : List (String × List ObjectId))
    (c : Container) :
    Prop where
  frames : ∀ mr ∈ mrs, ∃ ids, frames.lookup mr.name = some ids ∧ ids.length = mr.pageCount.toNat ∧
    ∀ id ∈ ids, ∃ name paddr init, c.objects[id]? = some ⟨name, .frame (fixedSizeBits config mr.pageSize) paddr init⟩

section regions

variable {config : Config} {mrs : List SysMemoryRegion} {frames : List (String × List ObjectId)} {c c' : Container}

lemma RegionFrames.stay (h : RegionFrames config mrs frames c) (hstay : FramesStay c c') :
    RegionFrames config mrs frames c' := by
  refine ⟨fun mr hmr => ?_⟩
  obtain ⟨ids, hlookup, hlength, hids⟩ := h.frames mr hmr
  refine ⟨ids, hlookup, hlength, fun id hid => ?_⟩
  obtain ⟨name, paddr, init, hobj⟩ := hids id hid
  exact ⟨name, paddr, init, hstay _ _ _ _ _ hobj⟩

lemma makeRegionFrame_ok {mr : SysMemoryRegion} {frameSequence id : Nat}
    (h : makeRegionFrame config mr frameSequence c = .ok id c') :
    FramesStay c c' ∧ ∃ name paddr init, c'.objects[id]? =
    some ⟨name, .frame (fixedSizeBits config mr.pageSize) paddr init⟩ := by
  obtain ⟨fill, c1, hfill, hobj⟩ := ok_bind h
  obtain rfl : c1 = c := by
    unfold regionFill at hfill
    cases hbytes : mr.prefillBytes with
    | none =>
      rw [hbytes] at hfill
      exact (ok_pure hfill).2.symm
    | some bytes =>
      rw [hbytes] at hfill
      dsimp only at hfill
      split_ifs at hfill
      · cases hfill
      · exact (ok_pure hfill).2.symm
  obtain ⟨rfl, rfl⟩ := addRootObject_ok hobj
  exact ⟨.push _ _, _, _, _, push_last _ _⟩

/-- The frames of a region, one for each page. -/
lemma makeRegionFrames_ok {mr : SysMemoryRegion} {seqs ids : List Nat}
    (h : seqs.mapM (makeRegionFrame config mr) c = .ok ids c') :
    FramesStay c c' ∧ ids.length = seqs.length ∧
      ∀ id ∈ ids, ∃ name paddr init, c'.objects[id]? =
      some ⟨name, .frame (fixedSizeBits config mr.pageSize) paddr init⟩ := by
  refine Failing.mapM_ok (P := fun seqs ids c1 => FramesStay c c1 ∧ ids.length = seqs.length ∧
    ∀ id ∈ ids, ∃ name paddr init, c1.objects[id]? = some ⟨name, .frame (fixedSizeBits config mr.pageSize) paddr init⟩) h
    ⟨refl c, rfl, List.forall_mem_nil _⟩ ?_
  rintro pre x ids c1 id c2 - ⟨hstay, hlength, hids⟩ hmade
  obtain ⟨hstay', hid⟩ := makeRegionFrame_ok hmade
  refine ⟨trans_of FramesStay hstay hstay', by rw [List.length_append, List.length_append, hlength]; rfl, ?_⟩
  intro id' hid'
  rcases List.mem_append.mp hid' with hid' | hid'
  · obtain ⟨name, paddr, init, hobj⟩ := hids id' hid'
    exact ⟨name, paddr, init, hstay' _ _ _ _ _ hobj⟩
  · obtain rfl := List.mem_singleton.mp hid'
    exact hid

/-- The frames of memory regions with different names are found by the names. -/
lemma buildRegions_ok (hnames : (mrs.map (·.name)).Nodup) (h : buildRegions config mrs c = .ok frames c') :
    RegionFrames config mrs frames c' := by
  refine Failing.foldlM_ok (P := fun mrs frames c => (mrs.map (·.name)).Nodup → RegionFrames config mrs frames c) h
    (fun _ => ⟨List.forall_mem_nil _⟩) ?_ hnames
  intro pre mr frames1 c1 frames2 c2 _ hpre hstep hnodup
  rw [List.map_append, List.nodup_append] at hnodup
  obtain ⟨hnodup, -, hapart⟩ := hnodup
  obtain ⟨ids, c3, hids, hstep⟩ := ok_bind hstep
  obtain ⟨rfl, rfl⟩ := ok_pure hstep
  obtain ⟨hstay, hlength, hframes⟩ := makeRegionFrames_ok hids
  refine ⟨fun mr' hmr' => ?_⟩
  rcases List.mem_append.mp hmr' with hmr' | hmr'
  · obtain ⟨ids', hlookup, hrest⟩ := ((hpre hnodup).stay hstay).frames mr' hmr'
    have hne : ¬ mr'.name = mr.name := hapart _ (List.mem_map_of_mem hmr') _ List.mem_cons_self
    refine ⟨ids', ?_, hrest⟩
    rw [List.lookup_cons, beq_false_of_ne hne]
    exact hlookup
  · obtain rfl := List.mem_singleton.mp hmr'
    refine ⟨ids, ?_, by rw [hlength, List.length_range], hframes⟩
    rw [List.lookup_cons, beq_self_eq_true]

/-- The names of memory regions differ. -/
lemma checkMrs_nodup (h : checkMrs mrs = .ok ()) : (mrs.map (·.name)).Nodup :=
  nodup_of_unique fun mr hmr => Checks.failIf_ok.mp (Checks.forM_ok.mp h mr hmr)

end regions

/-! ## The build up to a protection domain -/

/-- What steps 1 and 2, and step 3 for the first protection domains, have made. -/
structure Built where
  monitor : Monitor
  frames : List (String × List ObjectId)
  armSmc : Option ObjectId
  tables : PdTables

/-- The build before it comes to the protection domain at `idx`. -/
def buildUpTo (config : Config) (elfs : List Elf) (system : SystemDescription) (idx : Nat) : M Built := do
  if elfs.length ≠ system.protectionDomains.length + 1 then
    panicWith "assertion failed: elfs.len() == system.protection_domains.len() + 1"
  let monitorElf ← unwrapOption elfs[elfs.length - 1]?
  let monitor ← buildMonitor config (elfs.length - 1) monitorElf
  let frames ← buildRegions config system.memoryRegions
  let armSmc ← buildArmSmc config system.protectionDomains
  let tables ← (system.protectionDomains.zipIdx.take idx).foldlM
    (buildPd config elfs system.channels monitor frames armSmc) ⟨[], [], [], 0⟩
  return ⟨monitor, frames, armSmc, tables⟩

section upTo

variable {config : Config} {elfs : List Elf} {sd : SystemDescription} {idx : Nat} {built : Built} {c c' : Container}

/-- The frames of the memory regions are there whenever the build comes to a protection domain. -/
lemma buildUpTo_regions (hnames : (sd.memoryRegions.map (·.name)).Nodup)
    (h : buildUpTo config elfs sd idx c = .ok built c') : RegionFrames config sd.memoryRegions built.frames c' := by
  unfold buildUpTo at h
  obtain ⟨-, h⟩ := check_ok h
  obtain ⟨monitorElf, c1, -, h⟩ := ok_bind h
  obtain ⟨monitor, c2, -, h⟩ := ok_bind h
  obtain ⟨frames, c3, hframes, h⟩ := ok_bind h
  obtain ⟨armSmc, c4, hsmc, h⟩ := ok_bind h
  obtain ⟨tables, c5, htables, h⟩ := ok_bind h
  obtain ⟨rfl, rfl⟩ := ok_pure h
  have hpds := Moves.foldlM (R := FramesStay)
    (fun tables pdIdx => (buildPd_stay elfs sd.channels armSmc pdIdx : Moves FramesStay
      (buildPd config _ _ monitor frames _ tables _)))
    ⟨[], [], [], 0⟩ (sd.protectionDomains.zipIdx.take idx)
  exact ((buildRegions_ok hnames hframes).stay ((buildArmSmc_stay config _).step hsmc)).stay (hpds.step htables)

/-- What fails at a protection domain fails the build. -/
lemma buildUpTo_error {pd : ProtectionDomain} {e : Failure} (h : buildUpTo config elfs sd idx c = .ok built c')
    (hpd : sd.protectionDomains[idx]? = some pd) {c'' : Container}
    (herr : buildPd config elfs sd.channels built.monitor built.frames built.armSmc built.tables (pd, idx) c' =
      .error e c'') :
    buildCapdlSpec config elfs sd c = .error e c'' := by
  unfold buildUpTo at h
  obtain ⟨hlength, h⟩ := check_ok h
  obtain ⟨monitorElf, c1, helf, h⟩ := ok_bind h
  obtain ⟨monitor, c2, hmonitor, h⟩ := ok_bind h
  obtain ⟨frames, c3, hframes, h⟩ := ok_bind h
  obtain ⟨armSmc, c4, hsmc, h⟩ := ok_bind h
  obtain ⟨tables, c5, htables, h⟩ := ok_bind h
  obtain ⟨rfl, rfl⟩ := ok_pure h
  obtain ⟨hlt, rfl⟩ := List.getElem?_eq_some_iff.mp hpd
  have hrest : sd.protectionDomains.zipIdx.drop idx =
      (sd.protectionDomains[idx], idx) :: sd.protectionDomains.zipIdx.drop (idx + 1) := by
    rw [List.drop_eq_getElem_cons (by rwa [List.length_zipIdx]), List.getElem_zipIdx, Nat.zero_add]
  unfold buildCapdlSpec buildObjects
  refine bind_error ?_
  rw [if_neg hlength]
  refine (bind_ok helf).trans ?_
  rw [bind_ok hmonitor, bind_ok hframes, bind_ok hsmc]
  refine bind_error ?_
  rw [← List.take_append_drop idx sd.protectionDomains.zipIdx, List.foldlM_append, bind_ok htables, hrest,
    List.foldlM_cons]
  exact bind_error herr

end upTo

end NexsKernel.Capdl
