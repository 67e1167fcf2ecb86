import NexsKernel.Capdl.Authority
import NexsKernel.Sdf.Checked

/-!
# Protected procedure calls

A protection domain can call another if its CSpace has a capability to the endpoint of the other, besides the one that
it faults with and the one that it receives with. In the spec of a description that was accepted it can do so exactly if
a channel says so, and then the other has the higher priority. So no calls wait for each other in a circle
(`canCall_acyclic`).
-/

namespace NexsKernel.Capdl

open Sdf

/-- A channel lets the protection domain at `i` call the one at `j`. -/
def Calls (ch : Channel) (i j : Nat) : Prop :=
  (ch.endA.pp = true ∧ ch.endA.pd = i ∧ ch.endB.pd = j) ∨ (ch.endB.pp = true ∧ ch.endB.pd = i ∧ ch.endA.pd = j)

/-- There are protection domains at `i` and `j`, and the second has the higher priority. -/
def GoesUp (pds : List ProtectionDomain) (i j : Nat) : Prop :=
  ∃ source target, pds[i]? = some source ∧ pds[j]? = some target ∧ source.priority < target.priority

lemma GoesUp.trans {pds : List ProtectionDomain} {i j k : Nat} (h : GoesUp pds i j) (h' : GoesUp pds j k) :
    GoesUp pds i k := by
  obtain ⟨source, middle, hi, hj, hlt⟩ := h
  obtain ⟨middle', target, hj', hk, hlt'⟩ := h'
  obtain rfl := Option.some.inj (hj.symm.trans hj')
  exact ⟨source, target, hi, hk, BitVec.lt_trans hlt hlt'⟩

lemma GoesUp.irrefl {pds : List ProtectionDomain} {i : Nat} : ¬ GoesUp pds i i := by
  rintro ⟨source, target, hi, hi', hlt⟩
  obtain rfl := Option.some.inj (hi.symm.trans hi')
  exact BitVec.lt_irrefl _ hlt

/-! ## Descriptions -/

section description

open Checks

variable {filename : String} {pds : List ProtectionDomain} {ch : Channel} {i j : Nat} {node : Node}

lemma checkPriority_ok {source target : ProtectionDomain} {u : Unit} (h : checkPriority source target = .ok u) :
    source.priority < target.priority := by
  unfold checkPriority at h
  exact BitVec.not_le.mp (failIf_ok.mp h)

lemma checkChannel_goesUp {ids ids' : List (Nat × Word)} (h : checkChannel filename pds ids ch = .ok ids')
    (hcalls : Calls ch i j) : GoesUp pds i j := by
  unfold checkChannel at h
  split at h
  · rename_i pdA pdB ha hb
    obtain ⟨-, h⟩ := failIf_bind.mp h
    obtain ⟨-, h⟩ := failIf_bind.mp h
    by_cases hdown : ch.endA.pp = true ∧ pdB.priority ≤ pdA.priority
    · rw [if_pos hdown] at h
      obtain ⟨⟨⟩, hcheck, -⟩ := bind_ok.mp h
      exact absurd hdown.2 (BitVec.not_le.mpr (checkPriority_ok hcheck))
    · rw [if_neg hdown] at h
      rcases hcalls with ⟨hpp, rfl, rfl⟩ | ⟨hpp, rfl, rfl⟩
      · exact ⟨pdA, pdB, ha, hb, BitVec.not_le.mp fun hle => hdown ⟨hpp, hle⟩⟩
      · rw [if_pos hpp] at h
        obtain ⟨⟨⟩, hcheck, -⟩ := bind_ok.mp h
        exact ⟨pdB, pdA, hb, ha, checkPriority_ok hcheck⟩
  · cases h

lemma parseId_le {id : Word} (h : parseId filename node = .ok id) : id.toNat ≤ pdMaxId := by
  obtain ⟨v, -, h⟩ := bind_ok.mp h
  obtain ⟨hle, h⟩ := failIf_bind.mp h
  obtain ⟨hpos, h⟩ := failIf_bind.mp h
  obtain rfl := pure_ok.mp h
  have hv : (BitVec.ofInt 64 v).toNat = v.toNat := by
    rw [BitVec.toNat_ofInt]
    unfold pdMaxId at hle
    omega
  rw [hv]
  omega

lemma channelEnd_le {e : ChannelEnd} (h : ChannelEnd.fromXml filename pds node = .ok e) : e.id.toNat ≤ pdMaxId := by
  unfold ChannelEnd.fromXml at h
  obtain ⟨-, h⟩ := failIf_bind.mp h
  obtain ⟨⟨⟩, -, h⟩ := bind_ok.mp h
  obtain ⟨name, -, h⟩ := bind_ok.mp h
  obtain ⟨id, hid, h⟩ := bind_ok.mp h
  obtain ⟨notify, -, h⟩ := bind_ok.mp h
  obtain ⟨pp, -, h⟩ := bind_ok.mp h
  obtain ⟨pd, -, h⟩ := bind_ok.mp h
  obtain rfl := pure_ok.mp h
  exact parseId_le hid

lemma channel_le (h : Channel.fromXml filename pds node = .ok ch) :
    ch.endA.id.toNat ≤ pdMaxId ∧ ch.endB.id.toNat ≤ pdMaxId := by
  unfold Channel.fromXml at h
  obtain ⟨⟨⟩, -, h⟩ := bind_ok.mp h
  obtain ⟨ends, hends, h⟩ := bind_ok.mp h
  have hall : ∀ e ∈ ends, e.id.toNat ≤ pdMaxId := by
    intro e he
    obtain ⟨node', -, hstep⟩ := exists_of_forall₂ (mapM_ok.mp hends) he
    exact channelEnd_le hstep
  split at h
  · rename_i endA endB
    obtain ⟨-, h⟩ := failIf_bind.mp h
    obtain rfl := pure_ok.mp h
    exact ⟨hall endA List.mem_cons_self, hall endB (List.mem_cons_of_mem _ List.mem_cons_self)⟩
  · cases h

variable {config : Config} {files : String → PrefillFile} {doc : Except String (List Node)} {sd : SystemDescription}

/-- The ids of channels are small. -/
lemma parse_channelIds (h : parse filename config files doc = .ok sd) :
    ∀ ch ∈ sd.channels, ch.endA.id.toNat ≤ pdMaxId ∧ ch.endB.id.toNat ≤ pdMaxId := by
  obtain ⟨system, body, flat, hparsed⟩ := parse_ok h
  refine foldlM_ok (P := fun acc => ∀ ch ∈ acc.2, ch.endA.id.toNat ≤ pdMaxId ∧ ch.endB.id.toNat ≤ pdMaxId) ?_
    (List.forall_mem_nil _) hparsed.channels
  rintro node - ⟨pds, channels⟩ acc hacc hstep
  obtain ⟨ch, hch, hstep⟩ := bind_ok.mp hstep
  obtain ⟨pds1, -, hstep⟩ := bind_ok.mp hstep
  obtain ⟨pds2, -, hstep⟩ := bind_ok.mp hstep
  obtain rfl := pure_ok.mp hstep
  intro ch' hch'
  rcases List.mem_append.mp hch' with hch' | hch'
  · exact hacc ch' hch'
  · obtain rfl := List.mem_singleton.mp hch'
    exact channel_le hch

/-- The calls of an accepted description go to higher priorities. -/
lemma parse_goesUp (h : parse filename config files doc = .ok sd) :
    ∀ ch ∈ sd.channels, ∀ i j, Calls ch i j → GoesUp sd.protectionDomains i j := by
  obtain ⟨system, body, flat, hparsed⟩ := parse_ok h
  obtain ⟨ids, ids', -, hchannels⟩ := hparsed.checked.ids
  refine foldlM_prefix (P := fun pre _ => ∀ ch ∈ pre, ∀ i j, Calls ch i j → GoesUp sd.protectionDomains i j) ?_
    (List.forall_mem_nil _) hchannels
  intro pre ch ids1 ids2 hpre hstep ch' hch'
  rcases List.mem_append.mp hch' with hch' | hch'
  · exact hpre ch' hch'
  · obtain rfl := List.mem_singleton.mp hch'
    exact fun i j => checkChannel_goesUp hstep

end description

/-! ## Capabilities -/

/-- A protection domain can call another: its CSpace has a capability to the endpoint of the other, besides the one that
it faults with and the one that it receives with. -/
def CanCall (t : PdTables) (c : Container) (i j : Nat) : Prop :=
  ∃ (cspace ep : ObjectId) (slot : Nat) (badge : Word) (rights : Rights),
    t.cspaces.lookup i = some cspace ∧ t.eps.lookup j = some ep ∧ c.InCspace cspace ⟨slot, .endpoint ep badge rights⟩ ∧
      slot ≠ pdFaultEpCapIdx ∧ slot ≠ pdInputCapIdx

section capabilities

variable {monitor : Monitor} {t : PdTables} {source target : ChannelEnd} {ch : Channel} {id ep : ObjectId}
  {slot i j : Nat} {badge : Word} {rights : Rights} {pd : ProtectionDomain} {idx : Nat}

lemma mem_ppIpc {cte : CapTableEntry} : (id, cte) ∈ ppIpc t source target ↔ source.pp = true ∧
    ∃ ep, t.cspaces.lookup source.pd = some id ∧ t.eps.lookup target.pd = some ep ∧
      cte = ⟨slotOf pdBaseOutputEndpointCap source.id, makeEndpointCap ep (ppcBadge ||| target.id)⟩ := by
  unfold ppIpc
  split
  · rename_i hpp
    simp only [List.mem_flatMap, Option.mem_toList, List.mem_map, Prod.mk.injEq, hpp, true_and]
    constructor
    · rintro ⟨cspace, hcspace, ep, hep, rfl, rfl⟩
      exact ⟨ep, hcspace, hep, rfl⟩
    · rintro ⟨ep, hcspace, hep, rfl⟩
      exact ⟨id, hcspace, ep, hep, rfl, rfl⟩
  · rename_i hpp
    exact iff_of_false List.not_mem_nil fun h => hpp h.1

lemma not_mem_notifyIpc : (id, ⟨slot, .endpoint ep badge rights⟩) ∉ notifyIpc t source target := by
  unfold notifyIpc
  split
  · simp [makeNtfnCap]
  · exact List.not_mem_nil

lemma not_mem_monitorIpc : ⟨slot, .endpoint ep badge rights⟩ ∉ monitorIpc t pd idx := by
  unfold monitorIpc
  split
  · simp [makeNtfnCap]
  · exact List.not_mem_nil

/-- What a protection domain has before the channels: it faults and receives, and tells the monitor. -/
lemma pdIpc_slot (h : ⟨slot, .endpoint ep badge rights⟩ ∈ pdIpc monitor t pd idx) :
    slot = pdFaultEpCapIdx ∨ slot = pdInputCapIdx ∨ ep = monitor.faultEp := by
  unfold pdIpc at h
  rcases List.mem_append.mp h with h | h
  · rcases List.mem_append.mp h with h | h
    · obtain ⟨cap, -, e⟩ := List.mem_map.mp h
      exact .inl (CapTableEntry.mk.inj e).1.symm
    · split at h
      · obtain ⟨-, e⟩ := CapTableEntry.mk.inj (List.mem_singleton.mp h)
        exact .inr (.inr (Cap.endpoint.inj e).1)
      · cases h
  · obtain ⟨cap, -, e⟩ := List.mem_map.mp h
    exact .inr (.inl (CapTableEntry.mk.inj e).1.symm)

/-- An id of a channel does not wrap. -/
lemma slotOf_eq {base : Nat} {id : Word} (hbase : base < 2 ^ 31) (hid : id.toNat ≤ pdMaxId) :
    slotOf base id = base + id.toNat := by
  unfold pdMaxId at hid
  rw [slotOf, BitVec.toNat_add, BitVec.toNat_ofNat]
  omega

lemma mem_channelIpc_endpoint : (id, ⟨slot, .endpoint ep badge rights⟩) ∈ channelIpc t ch ↔
    (id, ⟨slot, .endpoint ep badge rights⟩) ∈ ppIpc t ch.endA ch.endB ∨
      (id, ⟨slot, .endpoint ep badge rights⟩) ∈ ppIpc t ch.endB ch.endA := by
  unfold channelIpc
  simp only [List.mem_append, not_mem_notifyIpc, false_or]

variable {sd : SystemDescription} {base : Nat} {c : Container}

/-- A protection domain can call another exactly if a channel says so. -/
lemma canCall_iff (hres : Resolved sd monitor t base c)
    (hids : ∀ ch ∈ sd.channels, ch.endA.id.toNat ≤ pdMaxId ∧ ch.endB.id.toNat ≤ pdMaxId)
    (hcspace : ∀ {id : ObjectId} {cte : CapTableEntry}, cte.cap.isIpc = true →
      (c.InCspace id cte ↔ CspaceIpc sd monitor t id cte)) :
    CanCall t c i j ↔ ∃ ch ∈ sd.channels, Calls ch i j := by
  constructor
  · rintro ⟨cspace, ep, slot, badge, rights, hi, hj, hcte, hfault, hinput⟩
    have hapart : ep ≠ monitor.faultEp := by
      rintro rfl
      exact absurd hres.monitorObjects.lt.2 (Nat.not_lt.mpr (hres.eps.range hj).1)
    rcases (hcspace rfl).mp hcte with ⟨-, e⟩ | ⟨pd, idx, -, ⟨-, hcte⟩ | ⟨-, hcte⟩⟩ | ⟨ch, hch, hcte⟩
    · exact absurd (Cap.endpoint.inj (CapTableEntry.mk.inj e).2).1 hapart
    · rcases pdIpc_slot hcte with h | h | h
      · exact absurd h hfault
      · exact absurd h hinput
      · exact absurd h hapart
    · exact absurd hcte not_mem_monitorIpc
    · refine ⟨ch, hch, ?_⟩
      have hends : ∀ {source target : ChannelEnd}, (cspace, ⟨slot, .endpoint ep badge rights⟩) ∈ ppIpc t source target →
          source.pp = true ∧ source.pd = i ∧ target.pd = j := by
        intro source target hcte
        obtain ⟨hpp, ep', hsource, htarget, e⟩ := mem_ppIpc.mp hcte
        obtain rfl := (Cap.endpoint.inj (CapTableEntry.mk.inj e).2).1
        exact ⟨hpp, hres.cspaces.inj hsource hi, hres.eps.inj htarget hj⟩
      exact (mem_channelIpc_endpoint.mp hcte).imp hends hends
  · rintro ⟨ch, hch, hcalls⟩
    have hserved := hres.served ch hch
    have hcall : ∀ {source target : ChannelEnd}, source.pp = true → source.id.toNat ≤ pdMaxId →
        (t.cspaces.lookup source.pd).isSome → (t.eps.lookup target.pd).isSome →
        (∀ {id cte}, (id, cte) ∈ ppIpc t source target → (id, cte) ∈ channelIpc t ch) →
        CanCall t c source.pd target.pd := by
      intro source target hpp hid hsource htarget hmem
      obtain ⟨cspace, hsource⟩ := Option.isSome_iff_exists.mp hsource
      obtain ⟨ep, htarget⟩ := Option.isSome_iff_exists.mp htarget
      have hslot := slotOf_eq (show pdBaseOutputEndpointCap < 2 ^ 31 by decide) hid
      refine ⟨cspace, ep, _, _, _, hsource, htarget, (hcspace rfl).mpr (.inr (.inr ⟨ch, hch,
        hmem (mem_ppIpc.mpr ⟨hpp, ep, hsource, htarget, rfl⟩)⟩)), ?_, ?_⟩
      · rw [hslot]
        exact (Nat.lt_of_lt_of_le (by decide) (Nat.le_add_right _ _)).ne'
      · rw [hslot]
        exact (Nat.lt_of_lt_of_le (by decide) (Nat.le_add_right _ _)).ne'
    rcases hcalls with ⟨hpp, rfl, rfl⟩ | ⟨hpp, rfl, rfl⟩
    · exact hcall hpp (hids ch hch).1 hserved.cspaces.1 (hserved.ppA hpp) fun h => by
        unfold channelIpc
        exact List.mem_append_left _ (List.mem_append_right _ h)
    · exact hcall hpp (hids ch hch).2 hserved.cspaces.2 (hserved.ppB hpp) fun h => by
        unfold channelIpc
        exact List.mem_append_right _ h

end capabilities

/-- In the spec of an accepted description, a protection domain can call another exactly if a channel says so, and then
the other has the higher priority. So no protection domains call each other in a circle. -/
theorem canCall_acyclic {filename : String} {config : Config} {files : String → PrefillFile}
    {doc : Except String (List Node)} {sd : SystemDescription} {elfs : List Elf} {u : Unit} {c : Container}
    (hparse : parse filename config files doc = .ok sd) (hbuild : buildObjects config elfs sd ⟨[], []⟩ = .ok u c) :
    ∃ monitor t base, Resolved sd monitor t base c ∧
      (∀ i j, CanCall t c i j ↔ ∃ ch ∈ sd.channels, Calls ch i j) ∧
      (∀ i j, CanCall t c i j → GoesUp sd.protectionDomains i j) ∧
      ∀ i, ¬ Relation.TransGen (CanCall t c) i i := by
  obtain ⟨monitor, t, base, hres, g⟩ := buildObjects_grants hbuild
  have hiff : ∀ i j, CanCall t c i j ↔ ∃ ch ∈ sd.channels, Calls ch i j :=
    fun i j => canCall_iff hres (parse_channelIds hparse) g.cspace_iff
  have hup : ∀ i j, CanCall t c i j → GoesUp sd.protectionDomains i j := by
    intro i j hcall
    obtain ⟨ch, hch, hcalls⟩ := (hiff i j).mp hcall
    exact parse_goesUp hparse ch hch i j hcalls
  refine ⟨monitor, t, base, hres, hiff, hup, fun i hcycle => ?_⟩
  have hpath : ∀ {j}, Relation.TransGen (CanCall t c) i j → GoesUp sd.protectionDomains i j := by
    intro j hj
    induction hj with
    | single hcall => exact hup _ _ hcall
    | tail _ hcall ih => exact ih.trans (hup _ _ hcall)
  exact GoesUp.irrefl (hpath hcycle)

/-- The document of `callSystem`. -/
def callNodes : List Node :=
  [.element "system" [] ⟨1, 1⟩ [
    .element "protection_domain" [("name", "client"), ("priority", "1")] ⟨2, 3⟩ [
      .element "program_image" [("path", "program.elf")] ⟨3, 5⟩ []],
    .element "protection_domain" [("name", "server"), ("priority", "2")] ⟨4, 3⟩ [
      .element "program_image" [("path", "program.elf")] ⟨5, 5⟩ []],
    .element "channel" [] ⟨6, 3⟩ [
      .element "end" [("pd", "client"), ("id", "4"), ("pp", "true")] ⟨7, 5⟩ [],
      .element "end" [("pd", "server"), ("id", "7")] ⟨8, 5⟩ []]]]

lemma call_parsed : parse "call.system" callConfig (fun _ => .notFound) (.ok callNodes) = .ok callSystem := by
  decide +kernel

/-- The first domain calls the second. -/
theorem canCall_acyclic_call : ∃ c t, CanCall t c 0 1 ∧ ¬ CanCall t c 1 0 ∧
    ∀ i, ¬ Relation.TransGen (CanCall t c) i i := by
  obtain ⟨u, c, hbuilt⟩ := call_built
  obtain ⟨monitor, t, base, -, hiff, -, hacyclic⟩ := canCall_acyclic call_parsed hbuilt
  have hcall : CanCall t c 0 1 := (hiff 0 1).mpr ⟨_, List.mem_cons_self, .inl ⟨rfl, rfl, rfl⟩⟩
  exact ⟨c, t, hcall, fun hback => hacyclic 0 (.tail (.single hcall) hback), hacyclic⟩

end NexsKernel.Capdl
