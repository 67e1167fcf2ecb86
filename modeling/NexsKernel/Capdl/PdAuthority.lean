import NexsKernel.Capdl.Grants

/-!
# The capabilities of a protection domain

Which capabilities for communication the system description asks for, by the tables of the builder: `PdTables` has the
CSpace, the notification and the endpoint of each protection domain, by its index. The step for one protection domain
adds those that are asked for it (`buildPd_ok`).
-/

namespace NexsKernel.Capdl

open Sdf Failing

/-! ## What the description asks for -/

section granted

variable (config : Config) (monitor : Monitor) (t : PdTables)

/-- The capability to the endpoint that faults go to: the parent's, with the id of the child, or the monitor's. -/
def faultCap (pd : ProtectionDomain) (idx : Nat) : Option Cap :=
  match pd.parent with
  | some parent => do
    let id ← pd.id
    let ep ← t.eps.lookup parent
    return makeEndpointCap ep (faultBadge ||| id)
  | none => some (makeEndpointCap monitor.faultEp (BitVec.ofNat 64 (idx + 1)))

/-- The capability that a protection domain receives with: to its endpoint, if it has one, and else to its
notification. -/
def inputCap (idx : Nat) : Option Cap :=
  match t.eps.lookup idx with
  | some ep => some (makeEndpointCap ep 0)
  | none => (t.ntfns.lookup idx).map (makeNtfnCap · 0)

/-- In the CSpace of a protection domain, before the channels. -/
def pdIpc (pd : ProtectionDomain) (idx : Nat) : List CapTableEntry :=
  (faultCap monitor t pd idx).toList.map (⟨pdFaultEpCapIdx, ·⟩) ++
    (if pd.passive then [⟨pdMonitorEpCapIdx, makeEndpointCap monitor.faultEp (BitVec.ofNat 64 (idx + 1))⟩] else []) ++
    (inputCap t idx).toList.map (⟨pdInputCapIdx, ·⟩)

/-- In the CSpace of the monitor, for a protection domain. -/
def monitorIpc (pd : ProtectionDomain) (idx : Nat) : List CapTableEntry :=
  if pd.passive then
    (t.ntfns.lookup idx).toList.map fun n => ⟨(monBaseNotificationCap + idx) % 2 ^ 32, makeNtfnCap n 0⟩
  else []

/-- Bound to the thread of a protection domain, to its interrupts and to its virtual CPUs. -/
def pdBound (pd : ProtectionDomain) (idx : Nat) : List (String × CapTableEntry) :=
  (faultCap monitor t pd idx).toList.map (fun cap => (s!"tcb_{pd.name}", ⟨TcbBoundSlot.faultEp.idx, cap⟩)) ++
    ((t.ntfns.lookup idx).toList.flatMap fun n =>
      (s!"tcb_{pd.name}", ⟨TcbBoundSlot.boundNotification.idx, makeNtfnCap n 0⟩) ::
        pd.irqs.map fun irq => (s!"irq_{irq.irqNum.toNat}_{pd.name}", ⟨0, makeNtfnCap n (bit irq.id)⟩)) ++
    if config.arch = .x86_64 then []
    else pd.virtualMachine.toList.flatMap fun vm => (t.eps.lookup idx).toList.flatMap fun ep => vm.vcpus.map fun vcpu =>
      (s!"tcb_{vm.name}_{vcpu.id.toNat}", ⟨TcbBoundSlot.faultEp.idx, makeEndpointCap ep (faultBadge ||| vcpu.id)⟩)

/-- What the protection domain of `source` notifies that of `target` with. -/
def notifyIpc (source target : ChannelEnd) : List (ObjectId × CapTableEntry) :=
  if source.notify then
    (t.cspaces.lookup source.pd).toList.flatMap fun cspace => (t.ntfns.lookup target.pd).toList.map fun ntfn =>
      (cspace, ⟨slotOf pdBaseOutputNotificationCap source.id, makeNtfnCap ntfn (bit target.id)⟩)
  else []

/-- What it makes protected procedure calls with. -/
def ppIpc (source target : ChannelEnd) : List (ObjectId × CapTableEntry) :=
  if source.pp then
    (t.cspaces.lookup source.pd).toList.flatMap fun cspace => (t.eps.lookup target.pd).toList.map fun ep =>
      (cspace, ⟨slotOf pdBaseOutputEndpointCap source.id, makeEndpointCap ep (ppcBadge ||| target.id)⟩)
  else []

def channelIpc (ch : Channel) : List (ObjectId × CapTableEntry) :=
  notifyIpc t ch.endA ch.endB ++ notifyIpc t ch.endB ch.endA ++ ppIpc t ch.endA ch.endB ++ ppIpc t ch.endB ch.endA

end granted

/-! ## Parts of the builder -/

section parts

variable {config : Config} {monitor : Monitor} {frames : List (String × List ObjectId)} {pd : ProtectionDomain}
  {tables : PdTables} {c c' : Container} {idx : Nat}

lemma buildFaultEp_ok {tcb : ObjectId} {cap : Cap} (h : buildFaultEp monitor tables pd idx tcb c = .ok cap c') :
    Passes c c' ∧ faultCap monitor tables pd idx = some cap ∧ ∀ parent, pd.parent = some parent → parent < idx := by
  unfold buildFaultEp at h
  unfold faultCap
  cases hparent : pd.parent with
  | none =>
    rw [hparent] at h
    obtain ⟨rfl, rfl⟩ := ok_pure h
    exact ⟨refl _, rfl, nofun⟩
  | some parent =>
    rw [hparent] at h
    obtain ⟨hlt, h⟩ := check_ok h
    obtain ⟨id, hid, h⟩ := ok_read unwrapOption_ok h
    obtain ⟨ep, hep, h⟩ := ok_read lookupKey_ok h
    obtain ⟨cspace, -, h⟩ := ok_read lookupKey_ok h
    obtain ⟨⟨⟩, c1, hinsert, h⟩ := ok_bind h
    obtain ⟨rfl, rfl⟩ := ok_pure h
    refine ⟨(insertCapIntoCspace_passes _ _ rfl).step hinsert, ?_, ?_⟩
    · simp [hid, hep]
    · rintro _ ⟨⟩
      exact Nat.lt_of_not_le hlt

lemma buildInput_ok {channels : List Channel} {ntfn : ObjectId} {ep : Option ObjectId} {cap : Cap}
    (h : buildInput channels pd idx ntfn c = .ok (ep, cap) c') :
    Passes c c' ∧ (ep.isSome ↔ pd.needsEp idx channels = true) ∧
      (∀ id, ep = some id → c.objects.length ≤ id ∧ c'.objects[id]? = some ⟨s!"ep_{pd.name}", .endpoint⟩) ∧
      cap = match ep with | some id => makeEndpointCap id 0 | none => makeNtfnCap ntfn 0 := by
  unfold buildInput at h
  by_cases hneeds : pd.needsEp idx channels = true
  · rw [if_pos hneeds] at h
    obtain ⟨id, c1, hobj, h⟩ := ok_bind h
    obtain ⟨e, rfl⟩ := ok_pure h
    obtain ⟨rfl, rfl⟩ := Prod.mk.inj e
    obtain ⟨rfl, rfl⟩ := addRootObject_ok hobj
    refine ⟨push_passes (List.forall_mem_nil _), iff_of_true rfl hneeds, ?_, rfl⟩
    rintro _ ⟨⟩
    exact ⟨le_rfl, push_last _ _⟩
  · rw [if_neg hneeds] at h
    obtain ⟨e, rfl⟩ := ok_pure h
    obtain ⟨rfl, rfl⟩ := Prod.mk.inj e
    exact ⟨refl _, iff_of_false Bool.false_ne_true hneeds, nofun, rfl⟩

/-! ### Interrupts -/

lemma Passes.irqs (c : Container) (irqs : List IrqEntry) : Passes c { c with irqs } :=
  ⟨le_rfl, fun {_ obj} h => ⟨obj, h, rfl, rfl⟩, fun h _ => h, fun _ _ _ => (or_iff_left id).symm,
    fun _ _ _ => (or_iff_left id).symm⟩

/-- The object of an interrupt and what is bound to it. -/
def irqEntry (pd : ProtectionDomain) (ntfn : ObjectId) (irq : SysIrq) : String × CapTableEntry :=
  (s!"irq_{irq.irqNum.toNat}_{pd.name}", ⟨0, makeNtfnCap ntfn (bit irq.id)⟩)

lemma irqParts_isIpc {cpu : Nat} {slots : List CapTableEntry} {kind : SysIrqKind} {o : Object} {cap : ObjectId → Cap}
    (h : irqParts config cpu slots kind = some (o, cap)) :
    o.isCnode = false ∧ o.slots = some slots ∧ ∀ id, (cap id).isIpc = false := by
  unfold irqParts at h
  split at h
  · split at h
    · cases h
      exact ⟨rfl, rfl, fun _ => rfl⟩
    · cases h
      exact ⟨rfl, rfl, fun _ => rfl⟩
    · cases h
  · cases h
    exact ⟨rfl, rfl, fun _ => rfl⟩
  · cases h
    exact ⟨rfl, rfl, fun _ => rfl⟩

lemma bindIrqToNtfn_grants {irqObj : ObjectId} {cap : Cap} {u : Unit} {name : String} {o : Object}
    (h : bindIrqToNtfn irqObj cap c = .ok u c') (hobj : c.objects[irqObj]? = some ⟨name, o⟩) :
    Grants (fun _ _ => False) (fun n cte => n = name ∧ cte = ⟨0, cap⟩) c c' := by
  have hput : ∀ o' : Object, o.isCnode = false → o'.isCnode = false → o.slots ≠ none →
      o'.slots.getD [] = o.slots.getD [] ++ [⟨0, cap⟩] →
      Grants (fun _ _ => False) (fun n cte => n = name ∧ cte = ⟨0, cap⟩) c (c.put irqObj o') := by
    intro o' hcnode hcnode' hslots hnew
    refine (put_grants (· = ⟨0, cap⟩) hobj o' (hcnode'.trans hcnode.symm) hslots fun cte _ => ?_).congr
      (fun _ _ _ => iff_of_false (fun h => ?_) id) fun _ _ _ => and_congr_right fun _ => and_iff_right hcnode
    · rw [hnew, List.mem_append, List.mem_singleton]
    · rw [hcnode] at h
      cases h.2.1
  unfold bindIrqToNtfn at h
  obtain ⟨⟨name', obj⟩, hobj', h⟩ := ok_read getRootObject_ok h
  obtain ⟨rfl, rfl⟩ := NamedObject.mk.inj (Option.some.inj (hobj'.symm.trans hobj))
  cases obj with
  | armIrq | irqMsi | irqIOApic | riscvIrq =>
    obtain rfl := setObject_ok h
    exact hput _ rfl rfl nofun rfl
  | _ => cases h

lemma createIrqHandlerCap_grants {cpu : Nat} {ntfn : ObjectId} {irq : SysIrq} {cap : Cap}
    (h : createIrqHandlerCap config pd.name cpu ntfn irq c = .ok cap c') :
    cap.isIpc = false ∧
      Grants (fun _ _ => False) (fun n cte => (n, cte) = irqEntry pd ntfn irq) c c' := by
  unfold createIrqHandlerCap at h
  obtain ⟨irqObj, c1, hcreate, h⟩ := ok_bind h
  obtain ⟨⟨⟩, c2, hirqs, h⟩ := ok_bind h
  obtain ⟨⟨⟩, c3, hbind, hcap⟩ := ok_bind h
  clear h
  unfold createIrqObj at hcreate
  cases hparts : irqParts config cpu [] irq.kind with
  | none =>
    rw [hparts] at hcreate
    cases hcreate
  | some parts =>
    rw [hparts] at hcreate
    obtain ⟨rfl, rfl⟩ := addRootObject_ok hcreate
    obtain ⟨-, hslots, -⟩ := irqParts_isIpc hparts
    have hpush : Passes c (c.push ⟨s!"irq_{irq.irqNum.toNat}_{pd.name}", parts.1⟩) :=
      push_passes (by rw [hslots]; exact List.forall_mem_nil _)
    have hirq := Passes.irqs (c.push ⟨s!"irq_{irq.irqNum.toNat}_{pd.name}", parts.1⟩)
      (c.irqs ++ [⟨irq.irqNum, c.objects.length⟩])
    obtain rfl : _ = c2 := (EStateM.Result.ok.inj hirqs).2
    have hbound := bindIrqToNtfn_grants hbind (push_last c _)
    unfold makeIrqHandlerCap at hcap
    cases hparts' : irqParts config 0 [] irq.kind with
    | none =>
      rw [hparts'] at hcap
      cases hcap
    | some parts' =>
      rw [hparts'] at hcap
      obtain ⟨rfl, rfl⟩ := ok_pure hcap
      refine ⟨(irqParts_isIpc hparts').2.2 _, ((trans_of Passes hpush hirq).grants hbound).congr
        (fun _ _ _ => Iff.rfl) fun _ _ _ => ?_⟩
      rw [irqEntry, Prod.mk.injEq]

lemma buildIrqs_grants {ntfn : ObjectId} {caps : List CapTableEntry} (h : buildIrqs config pd ntfn c = .ok caps c') :
    (∀ cte ∈ caps, cte.cap.isIpc = false) ∧
      Grants (fun _ _ => False) (fun n cte => (n, cte) ∈ pd.irqs.map (irqEntry pd ntfn)) c c' := by
  refine Failing.mapM_ok (P := fun irqs caps c1 => (∀ cte ∈ caps, cte.cap.isIpc = false) ∧
    Grants (fun _ _ => False) (fun n cte => (n, cte) ∈ irqs.map (irqEntry pd ntfn)) c c1) h
    ⟨List.forall_mem_nil _, (Grants.refl c).congr (fun _ _ _ => Iff.rfl) fun _ _ _ => by simp⟩ ?_
  rintro pre irq caps c1 cte c2 - ⟨hcaps, hpre⟩ hstep
  obtain ⟨cap, c3, hcreate, hstep⟩ := ok_bind hstep
  obtain ⟨rfl, rfl⟩ := ok_pure hstep
  obtain ⟨hcap, hgrants⟩ := createIrqHandlerCap_grants hcreate
  refine ⟨fun cte hcte => ?_, (hpre.trans hgrants).congr (fun _ _ _ => or_self_iff) fun n cte _ => ?_⟩
  · rcases List.mem_append.mp hcte with hcte | hcte
    · exact hcaps cte hcte
    · obtain rfl := List.mem_singleton.mp hcte
      exact hcap
  · rw [List.map_append, List.mem_append, List.map_singleton, List.mem_singleton]

lemma buildIoports_passes (pd : ProtectionDomain) : Moves Passes (buildIoports pd) :=
  .mapM (fun _ => .bind (addRootObject_passes (List.forall_mem_nil _)) fun _ => .pure _) _

lemma buildIoports_caps {caps : List CapTableEntry} (h : buildIoports pd c = .ok caps c') :
    ∀ cte ∈ caps, cte.cap.isIpc = false := by
  refine Failing.mapM_ok (P := fun _ caps _ => ∀ cte ∈ caps, cte.cap.isIpc = false) h (List.forall_mem_nil _) ?_
  intro pre ioport caps c1 cte c2 _ hcaps hstep cte' hcte'
  obtain ⟨obj, c3, -, hstep⟩ := ok_bind hstep
  obtain ⟨rfl, rfl⟩ := ok_pure hstep
  rcases List.mem_append.mp hcte' with hcte' | hcte'
  · exact hcaps cte' hcte'
  · obtain rfl := List.mem_singleton.mp hcte'
    rfl

lemma buildSmc_ok {armSmc : Option ObjectId} {caps : List CapTableEntry} (h : buildSmc pd armSmc c = .ok caps c') :
    Passes c c' ∧ ∀ cte ∈ caps, cte.cap.isIpc = false := by
  unfold buildSmc at h
  by_cases hsmc : pd.smc = true
  · rw [if_pos hsmc] at h
    obtain ⟨smc, -, h⟩ := ok_read unwrapOption_ok h
    obtain ⟨rfl, rfl⟩ := ok_pure h
    refine ⟨refl _, fun cte hcte => ?_⟩
    obtain rfl := List.mem_singleton.mp hcte
    rfl
  · rw [if_neg hsmc] at h
    obtain ⟨rfl, rfl⟩ := ok_pure h
    exact ⟨refl _, List.forall_mem_nil _⟩

/-! ### Virtual machines -/

/-- The thread of a virtual CPU and its fault endpoint. -/
def vcpuEntry (vm : VirtualMachine) (ep : ObjectId) (vcpu : VirtualCpu) : String × CapTableEntry :=
  (s!"tcb_{vm.name}_{vcpu.id.toNat}", ⟨TcbBoundSlot.faultEp.idx, makeEndpointCap ep (faultBadge ||| vcpu.id)⟩)

/-- The thread of a virtual CPU faults to the endpoint of its protection domain. -/
lemma buildVcpu_grants {pdEp : Option ObjectId} {vm : VirtualMachine} {vspace : ObjectId}
    {caps caps' : List CapTableEntry} {n n' : Nat} {vcpuIdx : VirtualCpu × Nat}
    (h : buildVcpu config monitor pd pdEp vm vspace (caps, n) vcpuIdx c = .ok (caps', n') c')
    (hcaps : ∀ cte ∈ caps, cte.cap.isIpc = false) :
    (∀ cte ∈ caps', cte.cap.isIpc = false) ∧ Grants (fun _ _ => False)
      (fun name cte => (name, cte) ∈ pdEp.toList.map fun ep => vcpuEntry vm ep vcpuIdx.1) c c' := by
  obtain ⟨vcpu, idx⟩ := vcpuIdx
  unfold buildVcpu at h
  dsimp only at h
  obtain ⟨cnode, c1, hcnode, h⟩ := ok_bind h
  obtain ⟨frame, c2, hframe, h⟩ := ok_bind h
  obtain ⟨ep, hep, h⟩ := ok_read unwrapOption_ok h
  obtain ⟨sc, c3, hsc, h⟩ := ok_bind h
  obtain ⟨vcpuObj, c4, hvcpu, h⟩ := ok_bind h
  obtain ⟨tcb, c5, htcb, h⟩ := ok_bind h
  obtain ⟨⟨⟩, c6, hinsert, h⟩ := ok_bind h
  obtain ⟨e, rfl⟩ := ok_pure h
  obtain ⟨rfl, rfl⟩ := Prod.mk.inj e
  have h1 := (addRootObject_passes (List.forall_mem_nil _)).step hcnode
  have h2 := trans_of Passes h1 ((addRootObject_passes (List.forall_mem_nil _)).step hframe)
  have h3 := trans_of Passes h2 ((addRootObject_passes (List.forall_mem_nil _)).step hsc)
  have h4 := trans_of Passes h3 ((addRootObject_passes (List.forall_mem_nil _)).step hvcpu)
  obtain ⟨rfl, rfl⟩ := addRootObject_ok htcb
  have h6 := (insertCapIntoCspace_passes _ _ rfl).step hinsert
  refine ⟨fun cte hcte => ?_, (h4.grants ((push_grants _ _).passes h6)).congr
    (fun _ _ _ => iff_of_false (fun h => Bool.noConfusion h.2.1) id) fun name cte hipc => ?_⟩
  · rcases List.mem_append.mp hcte with hcte | hcte
    · exact hcaps cte hcte
    · rcases List.mem_cons.mp hcte with rfl | hcte
      · rfl
      · obtain rfl := List.mem_singleton.mp hcte
        rfl
  · rw [hep]
    simp only [Object.slots, Object.isCnode, Option.getD_some, List.mem_cons, List.not_mem_nil, or_false, true_and,
      Option.toList_some, List.map_cons, List.map_nil, vcpuEntry, Prod.mk.injEq]
    refine and_congr_right fun _ => ?_
    constructor
    · rintro (rfl | rfl | rfl | rfl | rfl | rfl)
      · cases hipc
      · cases hipc
      · cases hipc
      · rfl
      · cases hipc
      · cases hipc
    · rintro rfl
      exact .inr (.inr (.inr (.inl rfl)))

lemma buildVcpus_grants {pdEp : Option ObjectId} {vm : VirtualMachine} {vspace : ObjectId}
    {vcpus : List (VirtualCpu × Nat)} {caps : List CapTableEntry} {n n' : Nat}
    (h : vcpus.foldlM (buildVcpu config monitor pd pdEp vm vspace) ([], n) c = .ok (caps, n') c') :
    (∀ cte ∈ caps, cte.cap.isIpc = false) ∧ Grants (fun _ _ => False)
      (fun name cte => (name, cte) ∈ pdEp.toList.flatMap fun ep => vcpus.map fun vcpu =>
        vcpuEntry vm ep vcpu.1) c c' := by
  refine Failing.foldlM_ok (P := fun vcpus acc c1 => (∀ cte ∈ acc.1, cte.cap.isIpc = false) ∧ Grants (fun _ _ => False)
      (fun name cte => (name, cte) ∈ pdEp.toList.flatMap fun ep => vcpus.map fun vcpu => vcpuEntry vm ep vcpu.1) c c1) h
    ⟨List.forall_mem_nil _, (Grants.refl c).congr (fun _ _ _ => Iff.rfl) fun _ _ _ => by simp⟩ ?_
  rintro pre vcpu ⟨caps, n⟩ c1 ⟨caps', n'⟩ c2 - ⟨hcaps, hpre⟩ hstep
  obtain ⟨hcaps', hgrants⟩ := buildVcpu_grants hstep hcaps
  refine ⟨hcaps', (hpre.trans hgrants).congr (fun _ _ _ => or_self_iff) fun name cte _ => ?_⟩
  cases pdEp <;> simp [or_comm]

lemma buildX86Vcpu_ok {vm : VirtualMachine} {vspace : ObjectId} {caps : VmCaps}
    (h : buildX86Vcpu vm vspace c = .ok caps c') :
    Passes c c' ∧ (∀ cte ∈ caps.cspace, cte.cap.isIpc = false) ∧ ∀ cte ∈ caps.tcb, cte.cap.isIpc = false := by
  unfold buildX86Vcpu at h
  obtain ⟨-, h⟩ := check_ok h
  obtain ⟨vcpu, -, h⟩ := ok_read unwrapOption_ok h
  obtain ⟨obj, c1, hobj, h⟩ := ok_bind h
  obtain ⟨rfl, rfl⟩ := ok_pure h
  refine ⟨(addRootObject_passes (List.forall_mem_nil _)).step hobj, ?_, ?_⟩
  · simp [Cap.isIpc]
  · simp [Cap.isIpc]

/-- What a virtual machine binds: the faults of its virtual CPUs. -/
def vmEntries (config : Config) (vm : VirtualMachine) (ep : Option ObjectId) : List (String × CapTableEntry) :=
  if config.arch = .x86_64 then [] else ep.toList.flatMap fun ep => vm.vcpus.map (vcpuEntry vm ep)

lemma buildVm_grants {pdEp : Option ObjectId} {n n' : Nat} {vm : VirtualMachine} {caps : VmCaps}
    (h : buildVm config monitor frames pd pdEp n vm c = .ok (caps, n') c') :
    (∀ cte ∈ caps.cspace, cte.cap.isIpc = false) ∧ (∀ cte ∈ caps.tcb, cte.cap.isIpc = false) ∧
      Grants (fun _ _ => False) (fun name cte => (name, cte) ∈ vmEntries config vm pdEp) c c' := by
  unfold buildVm at h
  have hmaps : ∀ vspace, Moves Passes (vm.maps.forM fun map => mapFrames frames map >>= fun p =>
      mapMemoryRegion config vm.name map p.2 vspace map.vaddr p.1) := fun vspace =>
    .forM (fun map => .bind (mapFrames_passes frames map) fun _ => mapMemoryRegion_passes ..) _
  unfold vmEntries
  by_cases hx86 : config.arch = .x86_64
  · rw [if_pos hx86] at h
    obtain ⟨vspace, c1, hvspace, h⟩ := ok_bind h
    obtain ⟨⟨⟩, c2, hmap, h⟩ := ok_bind h
    have h2 := trans_of Passes ((createVspaceEpt_passes ..).step hvspace) ((hmaps vspace).step hmap)
    rw [if_pos hx86] at h
    obtain ⟨caps', c3, hvcpu, h⟩ := ok_bind h
    obtain ⟨e, rfl⟩ := ok_pure h
    obtain ⟨rfl, rfl⟩ := Prod.mk.inj e
    obtain ⟨h3, hcspace, htcb⟩ := buildX86Vcpu_ok hvcpu
    refine ⟨hcspace, htcb, Grants.congr (trans_of Passes h2 h3) (fun _ _ _ => Iff.rfl) fun name cte _ => ?_⟩
    rw [if_pos hx86]
    exact iff_of_false id List.not_mem_nil
  · rw [if_neg hx86] at h
    obtain ⟨vspace, c1, hvspace, h⟩ := ok_bind h
    obtain ⟨⟨⟩, c2, hmap, h⟩ := ok_bind h
    have h2 := trans_of Passes ((createVspace_passes ..).step hvspace) ((hmaps vspace).step hmap)
    rw [if_neg hx86] at h
    obtain ⟨⟨caps', n''⟩, c3, hvcpus, h⟩ := ok_bind h
    obtain ⟨e, rfl⟩ := ok_pure h
    obtain ⟨rfl, rfl⟩ := Prod.mk.inj e
    obtain ⟨hcaps, hgrants⟩ := buildVcpus_grants hvcpus
    refine ⟨hcaps, List.forall_mem_nil _, (h2.grants hgrants).congr (fun _ _ _ => Iff.rfl) fun name cte _ => ?_⟩
    rw [if_neg hx86]
    have hmap : ∀ ep, vm.vcpus.zipIdx.map (fun vcpu => vcpuEntry vm ep vcpu.1) = vm.vcpus.map (vcpuEntry vm ep) := by
      intro ep
      conv_rhs => rw [← List.zipIdx_map_fst 0 vm.vcpus]
      rw [List.map_map]
      rfl
    simp only [hmap]

end parts

/-! ## A protection domain -/

lemma Passes.forM {α : Type} {f : α → M PUnit} {xs : List α} {u : PUnit} {c c' : Container} (h : xs.forM f c = .ok u c')
    (hf : ∀ x, Moves Passes (f x)) : Passes c c' :=
  (Moves.forM hf xs).step h

section domain

variable {config : Config} {monitor : Monitor} {frames : List (String × List ObjectId)} {pd : ProtectionDomain}
  {channels : List Channel} {elfs : List Elf} {armSmc : Option ObjectId} {tables tables' : PdTables}
  {c c' : Container} {idx : Nat}

lemma mem_pdCspaceCaps {tcb vspace reply : ObjectId} {faultEpCap inputCap : Cap}
    {irqCaps ioportCaps vmCaps smcCaps : List CapTableEntry} (hirq : ∀ cte ∈ irqCaps, cte.cap.isIpc = false)
    (hioport : ∀ cte ∈ ioportCaps, cte.cap.isIpc = false) (hvm : ∀ cte ∈ vmCaps, cte.cap.isIpc = false)
    (hsmc : ∀ cte ∈ smcCaps, cte.cap.isIpc = false) {cte : CapTableEntry} (hipc : cte.cap.isIpc = true) :
    cte ∈ pdCspaceCaps config monitor pd idx tcb vspace reply faultEpCap inputCap irqCaps ioportCaps vmCaps smcCaps ↔
      cte = ⟨pdFaultEpCapIdx, faultEpCap⟩ ∨
      (pd.passive = true ∧ cte = ⟨pdMonitorEpCapIdx, makeEndpointCap monitor.faultEp (BitVec.ofNat 64 (idx + 1))⟩) ∨
      cte = ⟨pdInputCapIdx, inputCap⟩ := by
  have hnot : ∀ {caps : List CapTableEntry}, (∀ cte ∈ caps, cte.cap.isIpc = false) → cte ∉ caps := by
    intro caps hcaps hcte
    rw [hcaps cte hcte] at hipc
    cases hipc
  have htcb : cte ∉ if config.benchmark then [(⟨pdTcbCapIdx, .tcb tcb⟩ : CapTableEntry)] else [] := by
    refine hnot fun cte hcte => ?_
    split at hcte
    · obtain rfl := List.mem_singleton.mp hcte
      rfl
    · cases hcte
  have hvspace : cte ≠ ⟨pdVspaceCapIdx, .pageTable vspace⟩ := by
    rintro rfl
    cases hipc
  have hreply : cte ≠ ⟨pdReplyCapIdx, .reply reply⟩ := by
    rintro rfl
    cases hipc
  unfold pdCspaceCaps
  simp only [List.mem_append, List.mem_cons, List.not_mem_nil, or_false, htcb, hvspace, hreply, hnot hirq, hnot hioport,
    hnot hvm, hnot hsmc, false_or, or_assoc]
  refine or_congr_right (or_congr_left ?_)
  split
  · rename_i hpassive
    rw [List.mem_singleton]
    exact (and_iff_right hpassive).symm
  · rename_i hactive
    exact iff_of_false List.not_mem_nil fun h => hactive h.1

lemma mem_pdIpc {faultEpCap input : Cap} (hfault : faultCap monitor tables pd idx = some faultEpCap)
    (hinput : inputCap tables idx = some input) {cte : CapTableEntry} :
    cte ∈ pdIpc monitor tables pd idx ↔ cte = ⟨pdFaultEpCapIdx, faultEpCap⟩ ∨
      (pd.passive = true ∧ cte = ⟨pdMonitorEpCapIdx, makeEndpointCap monitor.faultEp (BitVec.ofNat 64 (idx + 1))⟩) ∨
      cte = ⟨pdInputCapIdx, input⟩ := by
  unfold pdIpc
  rw [hfault, hinput]
  simp only [List.mem_append, Option.toList_some, List.map_cons, List.map_nil, List.mem_singleton, or_assoc]
  refine or_congr_right (or_congr_left ?_)
  split
  · rename_i hpassive
    rw [List.mem_singleton]
    exact (and_iff_right hpassive).symm
  · rename_i hactive
    exact iff_of_false List.not_mem_nil fun h => hactive h.1

lemma bindToMonitor_grants {tcb sc ntfn : ObjectId} {u : Unit}
    (h : bindToMonitor monitor pd idx tcb sc ntfn c = .ok u c') :
    Grants (fun id cte => id = monitor.cnode ∧ pd.passive = true ∧
      cte = ⟨(monBaseNotificationCap + idx) % 2 ^ 32, makeNtfnCap ntfn 0⟩) (fun _ _ => False) c c' := by
  unfold bindToMonitor at h
  obtain ⟨⟨⟩, c1, htcb, h⟩ := ok_bind h
  have h1 := (insertCapIntoCspace_passes _ _ rfl).step htcb
  by_cases hpassive : pd.passive = true
  · rw [if_pos hpassive] at h
    obtain ⟨⟨⟩, c2, hsc, h⟩ := ok_bind h
    have h2 := trans_of Passes h1 ((insertCapIntoCspace_passes _ _ rfl).step hsc)
    refine (h2.grants (insertCapIntoCspace_grants h)).congr (fun _ _ _ => ?_) fun _ _ _ => Iff.rfl
    exact and_congr_right fun _ => (and_iff_right hpassive).symm
  · rw [if_neg hpassive] at h
    obtain ⟨-, rfl⟩ := ok_pure h
    exact Grants.congr h1 (fun _ _ _ => iff_of_false id fun h => hpassive h.2.1) fun _ _ _ => Iff.rfl

/-- The capabilities that are bound to the thread of a protection domain at last. -/
lemma bindToTcb_grants {tcb sc ntfn cnode : ObjectId} {faultEpCap : Cap} {vmCaps : List CapTableEntry}
    (hvm : ∀ cte ∈ vmCaps, cte.cap.isIpc = false) {update : TcbExtraInfo → TcbExtraInfo} {u : Unit} {name : String}
    {o : Object} (hobj : c.objects[tcb]? = some ⟨name, o⟩)
    (h : setTcb tcb update (fun slots => (slots ++ pdTcbCaps sc ntfn cnode faultEpCap vmCaps).mergeSort
      fun a b => a.slot ≤ b.slot) c = .ok u c') :
    Grants (fun _ _ => False) (fun n cte => n = name ∧ (cte = ⟨TcbBoundSlot.faultEp.idx, faultEpCap⟩ ∨
      cte = ⟨TcbBoundSlot.boundNotification.idx, makeNtfnCap ntfn 0⟩)) c c' := by
  unfold setTcb at h
  obtain ⟨⟨name', o'⟩, hobj', h⟩ := ok_read getRootObject_ok h
  obtain ⟨rfl, rfl⟩ := NamedObject.mk.inj (Option.some.inj (hobj'.symm.trans hobj))
  cases o' with
  | tcb slots extra =>
    obtain rfl := setObject_ok h
    let bound := (slots ++ pdTcbCaps sc ntfn cnode faultEpCap vmCaps).mergeSort fun a b => a.slot ≤ b.slot
    refine (put_grants (fun cte => cte = ⟨TcbBoundSlot.faultEp.idx, faultEpCap⟩ ∨
      cte = ⟨TcbBoundSlot.boundNotification.idx, makeNtfnCap ntfn 0⟩) hobj (.tcb bound (update extra)) rfl nofun
      fun cte hipc => ?_).congr
      (fun _ _ _ => iff_of_false (fun h => Bool.noConfusion h.2.1) id) fun _ _ _ => and_congr_right fun _ =>
        and_iff_right rfl
    have hsc : cte ≠ ⟨TcbBoundSlot.schedContext.idx, .schedContext sc⟩ := by
      rintro rfl
      cases hipc
    have hcspace : cte ≠ ⟨TcbBoundSlot.cspace.idx, makeCnodeCap cnode⟩ := by
      rintro rfl
      cases hipc
    have hcte : cte ∉ vmCaps := fun hcte => Bool.false_ne_true ((hvm cte hcte).symm.trans hipc)
    simp only [bound, Object.slots, Option.getD_some, List.mem_mergeSort, pdTcbCaps, List.mem_append, List.mem_cons,
      List.not_mem_nil, or_false, hsc, hcspace, hcte, false_or]
  | _ => cases h

/-- What a protection domain adds. -/
structure PdAdded (config : Config) (channels : List Channel) (monitor : Monitor) (pd : ProtectionDomain) (idx : Nat)
    (cnode ntfn : ObjectId) (ep : Option ObjectId) (tables tables' : PdTables) (c c' : Container) : Prop where
  cspaces : tables'.cspaces = (idx, cnode) :: tables.cspaces
  ntfns : tables'.ntfns = (idx, ntfn) :: tables.ntfns
  eps : tables'.eps = (ep.map (idx, ·)).toList ++ tables.eps
  needsEp : ep.isSome ↔ pd.needsEp idx channels = true
  parent : ∀ parent, pd.parent = some parent → parent < idx
  fault : (faultCap monitor tables pd idx).isSome
  cnode_new : c.objects.length ≤ cnode ∧ ∃ bits slots, c'.objects[cnode]? =
    some ⟨s!"cnode_{pd.name}", .cnode bits slots⟩
  ntfn_new : c.objects.length ≤ ntfn ∧ c'.objects[ntfn]? = some ⟨s!"ntfn_{pd.name}", .notification⟩
  ep_new : ∀ id, ep = some id → c.objects.length ≤ id ∧ c'.objects[id]? = some ⟨s!"ep_{pd.name}", .endpoint⟩
  grants : Grants
    (fun id cte => id = cnode ∧ cte ∈ pdIpc monitor tables' pd idx ∨ id = monitor.cnode ∧
      cte ∈ monitorIpc tables' pd idx)
    (fun name cte => (name, cte) ∈ pdBound config monitor tables' pd idx) c c'

lemma lookup_tail {i j : Nat} (id : ObjectId) (table : List (Nat × ObjectId)) (h : j ≠ i) :
    ((i, id) :: table).lookup j = table.lookup j := by
  rw [List.lookup_cons, beq_false_of_ne h]

lemma lookup_optional {idx : Nat} (ep : Option ObjectId) (table : List (Nat × ObjectId))
    (h : table.lookup idx = none) : ((ep.map (idx, ·)).toList ++ table).lookup idx = ep := by
  cases ep with
  | none => exact h
  | some id => exact List.lookup_cons_self

lemma lookup_optional_tail {i j : Nat} (ep : Option ObjectId) (table : List (Nat × ObjectId)) (h : j ≠ i) :
    ((ep.map (i, ·)).toList ++ table).lookup j = table.lookup j := by
  cases ep with
  | none => rfl
  | some id => exact lookup_tail id table h

/-- The last steps of a protection domain, which use what the others have returned. -/
def finishPd (config : Config) (monitor : Monitor) (pd : ProtectionDomain) (idx : Nat) (armSmc : Option ObjectId)
    (tables : PdTables) (tcb vspace sc reply ntfn : ObjectId) (ep : Option ObjectId) (faultEpCap inputCap : Cap)
    (irqCaps ioportCaps : List CapTableEntry) (vm : VmCaps × Nat) : M PdTables := do
  let smcCaps ← buildSmc pd armSmc
  let cnode ← makeCnodeObj pd.name pdCapBits
    (pdCspaceCaps config monitor pd idx tcb vspace reply faultEpCap inputCap irqCaps ioportCaps vm.1.cspace smcCaps)
  setTcb tcb
    (fun extra => { extra with
      sp := config.pdStackTop, prio := pd.priority.toNat, maxPrio := pd.priority.toNat, fpuDisabled := !pd.fpu
      resume := true })
    (fun slots => (slots ++ pdTcbCaps sc ntfn cnode faultEpCap vm.1.tcb).mergeSort fun a b => a.slot ≤ b.slot)
  bindToMonitor monitor pd idx tcb sc ntfn
  return {
    cspaces := (idx, cnode) :: tables.cspaces
    ntfns := (idx, ntfn) :: tables.ntfns
    eps := (ep.map (idx, ·)).toList ++ tables.eps
    monitorVcpuIdx := vm.2 }

/-- The last capabilities of a protection domain. -/
lemma finishPd_ok {tcb vspace sc reply ntfn : ObjectId} {ep : Option ObjectId} {faultEpCap input : Cap}
    {irqCaps ioportCaps : List CapTableEntry} {vm : VmCaps × Nat} {name : String} {o : Object}
    (h : finishPd config monitor pd idx armSmc tables tcb vspace sc reply ntfn ep faultEpCap input irqCaps ioportCaps vm
      c = .ok tables' c')
    (hirq : ∀ cte ∈ irqCaps, cte.cap.isIpc = false) (hioport : ∀ cte ∈ ioportCaps, cte.cap.isIpc = false)
    (hcspace : ∀ cte ∈ vm.1.cspace, cte.cap.isIpc = false) (htcb : ∀ cte ∈ vm.1.tcb, cte.cap.isIpc = false)
    (hobj : c.objects[tcb]? = some ⟨name, o⟩) :
    ∃ cnode : ObjectId, c.objects.length ≤ cnode ∧
      (∃ bits slots, c'.objects[cnode]? = some ⟨s!"cnode_{pd.name}", .cnode bits slots⟩) ∧
      tables' = ⟨(idx, cnode) :: tables.cspaces, (idx, ntfn) :: tables.ntfns, (ep.map (idx, ·)).toList ++ tables.eps,
        vm.2⟩ ∧
      Grants
        (fun id cte => id = cnode ∧ (cte = ⟨pdFaultEpCapIdx, faultEpCap⟩ ∨ (pd.passive = true ∧
            cte = ⟨pdMonitorEpCapIdx, makeEndpointCap monitor.faultEp (BitVec.ofNat 64 (idx + 1))⟩) ∨
            cte = ⟨pdInputCapIdx, input⟩) ∨
          id = monitor.cnode ∧ pd.passive = true ∧ cte = ⟨(monBaseNotificationCap + idx) % 2 ^ 32, makeNtfnCap ntfn 0⟩)
        (fun n cte => n = name ∧ (cte = ⟨TcbBoundSlot.faultEp.idx, faultEpCap⟩ ∨
          cte = ⟨TcbBoundSlot.boundNotification.idx, makeNtfnCap ntfn 0⟩)) c c' := by
  unfold finishPd at h
  obtain ⟨smcCaps, c1, hsmc, h⟩ := ok_bind h
  obtain ⟨h1, hsmcCaps⟩ := buildSmc_ok hsmc
  obtain ⟨cnode, c2, hcnode, h⟩ := ok_bind h
  obtain ⟨⟨⟩, c3, hbind, h⟩ := ok_bind h
  obtain ⟨⟨⟩, c4, hmonitor, h⟩ := ok_bind h
  obtain ⟨rfl, rfl⟩ := ok_pure h
  obtain ⟨rfl, rfl⟩ := addRootObject_ok hcnode
  obtain ⟨⟨name', o'⟩, hobj', rfl, -⟩ := (h1.grants (push_grants _ _)).same hobj
  have hbound := bindToTcb_grants htcb hobj' hbind
  have hlast := bindToMonitor_grants hmonitor
  obtain ⟨⟨cnodeName, cnodeObj⟩, hmade, hnamed, hkind⟩ := (hbound.trans hlast).same (push_last c1 _)
  refine ⟨_, h1.le, ?_, rfl, (((h1.grants (push_grants _ _)).trans hbound).trans hlast).congr (fun id cte hipc => ?_)
    fun n cte hipc => ?_⟩
  · obtain rfl := hnamed
    cases cnodeObj with
    | cnode bits slots => exact ⟨bits, slots, hmade⟩
    | _ => cases hkind
  · rw [or_false]
    refine or_congr_left (and_congr_right fun _ => ?_)
    exact (and_iff_right rfl).trans (mem_pdCspaceCaps hirq hioport hcspace hsmcCaps hipc)
  · rw [or_false]
    exact or_iff_right fun h => Bool.noConfusion h.2.1

lemma faultCap_congr {t t' : PdTables} (monitor : Monitor) (pd : ProtectionDomain) (idx : Nat)
    (h : ∀ parent, pd.parent = some parent → t'.eps.lookup parent = t.eps.lookup parent) :
    faultCap monitor t' pd idx = faultCap monitor t pd idx := by
  unfold faultCap
  cases hparent : pd.parent with
  | none => rfl
  | some parent =>
    dsimp only
    rw [h parent hparent]

lemma mem_pdBound {ntfn : ObjectId} {ep : Option ObjectId} {faultEpCap : Cap} {name : String} {cte : CapTableEntry}
    (hfault : faultCap monitor tables pd idx = some faultEpCap) (hntfn : tables.ntfns.lookup idx = some ntfn)
    (hep : tables.eps.lookup idx = ep) :
    (name, cte) ∈ pdBound config monitor tables pd idx ↔ (name, cte) ∈ pd.irqs.map (irqEntry pd ntfn) ∨
      (name, cte) ∈ pd.virtualMachine.toList.flatMap (vmEntries config · ep) ∨
      name = s!"tcb_{pd.name}" ∧ (cte = ⟨TcbBoundSlot.faultEp.idx, faultEpCap⟩ ∨
        cte = ⟨TcbBoundSlot.boundNotification.idx, makeNtfnCap ntfn 0⟩) := by
  have hvm : (if config.arch = .x86_64 then [] else pd.virtualMachine.toList.flatMap fun vm =>
      ep.toList.flatMap fun ep => vm.vcpus.map fun vcpu => (s!"tcb_{vm.name}_{vcpu.id.toNat}",
        (⟨TcbBoundSlot.faultEp.idx, makeEndpointCap ep (faultBadge ||| vcpu.id)⟩ : CapTableEntry))) =
      pd.virtualMachine.toList.flatMap (vmEntries config · ep) := by
    unfold vmEntries
    split
    · exact (List.flatMap_eq_nil_iff.mpr fun _ _ => rfl).symm
    · rfl
  unfold pdBound
  rw [hfault, hntfn, hep, hvm]
  simp only [Option.toList_some, List.map_cons, List.map_nil, List.flatMap_cons, List.flatMap_nil, List.append_nil,
    List.mem_append, List.mem_cons, List.not_mem_nil, or_false, Prod.mk.injEq]
  constructor
  · rintro ((⟨rfl, rfl⟩ | ⟨rfl, rfl⟩ | h) | h)
    · exact .inr (.inr ⟨rfl, .inl rfl⟩)
    · exact .inr (.inr ⟨rfl, .inr rfl⟩)
    · exact .inl h
    · exact .inr (.inl h)
  · rintro (h | h | ⟨rfl, rfl | rfl⟩)
    · exact .inl (.inr (.inr h))
    · exact .inr h
    · exact .inl (.inl ⟨rfl, rfl⟩)
    · exact .inl (.inr (.inl ⟨rfl, rfl⟩))

lemma mem_monitorIpc {ntfn : ObjectId} (hntfn : tables.ntfns.lookup idx = some ntfn) {cte : CapTableEntry} :
    cte ∈ monitorIpc tables pd idx ↔
      pd.passive = true ∧ cte = ⟨(monBaseNotificationCap + idx) % 2 ^ 32, makeNtfnCap ntfn 0⟩ := by
  unfold monitorIpc
  rw [hntfn]
  split
  · rename_i hpassive
    rw [Option.toList_some, List.map_singleton, List.mem_singleton]
    exact (and_iff_right hpassive).symm
  · rename_i hactive
    exact iff_of_false List.not_mem_nil fun h => hactive h.1

/-- A protection domain gets its objects, and its tables list them. -/
lemma buildPd_ok (h : buildPd config elfs channels monitor frames armSmc tables (pd, idx) c = .ok tables' c')
    (hfresh : tables.eps.lookup idx = none) :
    ∃ cnode ntfn ep, PdAdded config channels monitor pd idx cnode ntfn ep tables tables' c c' := by
  unfold buildPd at h
  dsimp only at h
  obtain ⟨elf, -, h⟩ := ok_read unwrapOption_ok h
  obtain ⟨tcb, c1, htcb, h⟩ := ok_bind h
  obtain ⟨vspace, c2, hvspace, h⟩ := ok_bind h
  obtain ⟨⟨⟩, c3, hmaps, h⟩ := ok_bind h
  obtain ⟨⟨⟩, c4, hstack, h⟩ := ok_bind h
  obtain ⟨sc, c5, hsc, h⟩ := ok_bind h
  obtain ⟨faultEpCap, c6, hfault, h⟩ := ok_bind h
  obtain ⟨ntfn, c7, hntfn, h⟩ := ok_bind h
  obtain ⟨⟨ep, input⟩, c8, hinput, h⟩ := ok_bind h
  obtain ⟨reply, c9, hreply, h⟩ := ok_bind h
  obtain ⟨irqCaps, d1, hirqs, h⟩ := ok_bind h
  obtain ⟨ioportCaps, d2, hioports, hrest⟩ := ok_bind h
  -- Up to the notification, nothing for communication is added.
  have hadd := unwrapResult_ok htcb
  have h1 := (addElfToSpec_passes ..).step hadd
  obtain ⟨-, -, root, frame, extra, hobj⟩ := (addElfToSpec_adds hadd : Adds config ⟨[], [], []⟩ [] c c1 ∧ _)
  have h2 := (getVspaceIdFromTcbId_passes tcb).step hvspace
  have h3 := Passes.forM hmaps fun _ => mapInPd_passes ..
  have h4 := Passes.forM hstack fun _ => mapStackFrame_passes ..
  have h5 := (addRootObject_passes (List.forall_mem_nil _)).step hsc
  obtain ⟨h6, hfault, hparent⟩ := buildFaultEp_ok hfault
  have hto6 := trans_of Passes (trans_of Passes (trans_of Passes h2 h3) (trans_of Passes h4 h5)) h6
  have h7 := (addRootObject_passes (List.forall_mem_nil _)).step hntfn
  obtain ⟨rfl, rfl⟩ := addRootObject_ok hntfn
  obtain ⟨h8, hneeds, hep, hinput⟩ := buildInput_ok hinput
  have h9 := (addRootObject_passes (List.forall_mem_nil _)).step hreply
  have hto9 := trans_of Passes (trans_of Passes h7 h8) h9
  obtain ⟨hirqCaps, g1⟩ := buildIrqs_grants hirqs
  have g2 := (buildIoports_passes pd).step hioports
  have hvm : ∃ vm d3, finishPd config monitor pd idx armSmc tables tcb vspace sc reply c6.objects.length ep faultEpCap
        input irqCaps ioportCaps vm d3 = .ok tables' c' ∧
      (∀ cte ∈ vm.1.cspace, cte.cap.isIpc = false) ∧ (∀ cte ∈ vm.1.tcb, cte.cap.isIpc = false) ∧
      Grants (fun _ _ => False) (fun name cte => (name, cte) ∈ pd.virtualMachine.toList.flatMap (vmEntries config · ep))
        d2 d3 := by
    cases hpd : pd.virtualMachine with
    | some vm =>
      rw [hpd] at hrest
      obtain ⟨⟨caps, n⟩, d3, hvm, hend⟩ := ok_bind hrest
      obtain ⟨hcspace, htcb, hgrants⟩ := buildVm_grants hvm
      exact ⟨(caps, n), d3, hend, hcspace, htcb, hgrants.congr (fun _ _ _ => Iff.rfl) fun _ _ _ => by simp⟩
    | none =>
      rw [hpd] at hrest
      obtain ⟨vm, d3, hvm, hend⟩ := ok_bind hrest
      obtain ⟨rfl, rfl⟩ := ok_pure hvm
      exact ⟨_, d2, hend, List.forall_mem_nil _, List.forall_mem_nil _,
        (Grants.refl _).congr (fun _ _ _ => Iff.rfl) fun _ _ _ => by simp⟩
  obtain ⟨vm, d3, hfinish, hcspace, htcbCaps, g3⟩ := hvm
  have g := ((trans_of Passes hto6 hto9).grants (g1.passes g2)).trans g3
  obtain ⟨⟨name, o⟩, hobj', rfl, -⟩ := g.same hobj
  obtain ⟨cnode, hle, hmade, e, gend⟩ :=
    finishPd_ok hfinish hirqCaps (buildIoports_caps hioports) hcspace htcbCaps hobj'
  have hto := Passes.grants h1 g
  have hntfns : tables'.ntfns = (idx, c6.objects.length) :: tables.ntfns := by rw [e]
  have heps : tables'.eps = (ep.map (idx, ·)).toList ++ tables.eps := by rw [e]
  refine ⟨cnode, c6.objects.length, ep, by rw [e], hntfns, heps, hneeds, hparent,
    Option.isSome_iff_exists.mpr ⟨_, hfault⟩, ⟨hto.le.trans hle, hmade⟩,
    ⟨(trans_of Passes h1 hto6).le, ?_⟩, fun id hid => ?_, ?_⟩
  · have hlast := (Passes.grants (trans_of Passes h8 h9) (g1.passes g2)).trans g3
    exact gend.kept (hlast.kept (push_last c6 _) rfl) rfl
  · obtain ⟨hnew, hid⟩ := hep id hid
    have hlast := (Passes.grants h9 (g1.passes g2)).trans g3
    exact ⟨(trans_of Passes (trans_of Passes h1 hto6) h7).le.trans hnew, gend.kept (hlast.kept hid rfl) rfl⟩
  · have hntfn' : tables'.ntfns.lookup idx = some c6.objects.length := by rw [hntfns, List.lookup_cons_self]
    have hep' : tables'.eps.lookup idx = ep := by rw [heps, lookup_optional ep tables.eps hfresh]
    have hfault' : faultCap monitor tables' pd idx = some faultEpCap := by
      rw [← hfault]
      refine faultCap_congr monitor pd idx fun parent hp => ?_
      rw [heps, lookup_optional_tail ep tables.eps (hparent parent hp).ne]
    have hinput' : inputCap tables' idx = some input := by
      unfold inputCap
      rw [hep', hntfn', hinput]
      cases ep <;> rfl
    refine (hto.trans gend).congr (fun id cte _ => ?_) fun name cte _ => ?_
    · rw [mem_pdIpc hfault' hinput', mem_monitorIpc hntfn', or_self_iff, false_or]
    · rw [mem_pdBound hfault' hntfn' hep', or_assoc]

end domain

end NexsKernel.Capdl
