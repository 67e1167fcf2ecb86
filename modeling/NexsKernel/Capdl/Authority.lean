import NexsKernel.Capdl.PdAuthority

/-!
# Who may call and signal whom

The capabilities for communication in a spec that has been built: the CSpaces of the protection domains and of the
monitor have those that the system description asks for, and no others (`buildObjects_authority`).
-/

namespace NexsKernel.Capdl

open Sdf Failing

/-! ## The tables -/

/-- A table has objects for indices below `n`: objects that were added since there were `base` of them, each for one
index. -/
structure Keyed (n base top : Nat) (table : List (Nat × ObjectId)) : Prop where
  key_lt : ∀ {i : Nat} {id : ObjectId}, table.lookup i = some id → i < n
  range : ∀ {i : Nat} {id : ObjectId}, table.lookup i = some id → base ≤ id ∧ id < top
  inj : ∀ {i j : Nat} {id : ObjectId}, table.lookup i = some id → table.lookup j = some id → i = j

section keyed

variable {n base top top' : Nat} {table : List (Nat × ObjectId)}

lemma Keyed.nil : Keyed 0 base top [] := ⟨nofun, nofun, nofun⟩

lemma Keyed.lookup_none (h : Keyed n base top table) : table.lookup n = none := by
  cases hn : table.lookup n with
  | none => rfl
  | some id => exact absurd (h.key_lt hn) (lt_irrefl _)

/-- The object for the next index, if there is one, is a new one. -/
lemma Keyed.insert (h : Keyed n base top table) (ep : Option ObjectId) (hbase : base ≤ top) (htop : top ≤ top')
    (hnew : ∀ id, ep = some id → top ≤ id ∧ id < top') :
    Keyed (n + 1) base top' ((ep.map (n, ·)).toList ++ table) := by
  have hcases : ∀ {i : Nat} {id : ObjectId}, ((ep.map (n, ·)).toList ++ table).lookup i = some id →
      i = n ∧ ep = some id ∨ table.lookup i = some id := by
    intro i id hi
    by_cases e : i = n
    · subst e
      rw [lookup_optional ep table h.lookup_none] at hi
      exact .inl ⟨rfl, hi⟩
    · rw [lookup_optional_tail ep table e] at hi
      exact .inr hi
  have hapart : ∀ {i : Nat} {id : ObjectId}, ep = some id → table.lookup i = some id → False := fun hep hi =>
    absurd (h.range hi).2 (Nat.not_lt.mpr (hnew _ hep).1)
  refine ⟨fun hi => ?_, fun hi => ?_, fun hi hj => ?_⟩
  · rcases hcases hi with ⟨rfl, -⟩ | hi
    · exact Nat.lt_succ_self _
    · exact Nat.lt_succ_of_lt (h.key_lt hi)
  · rcases hcases hi with ⟨-, hep⟩ | hi
    · exact ⟨hbase.trans (hnew _ hep).1, (hnew _ hep).2⟩
    · exact ⟨(h.range hi).1, (h.range hi).2.trans_le htop⟩
  · rcases hcases hi with ⟨rfl, hep⟩ | hi
    · rcases hcases hj with ⟨rfl, -⟩ | hj
      · rfl
      · exact (hapart hep hj).elim
    · rcases hcases hj with ⟨-, hep⟩ | hj
      · exact (hapart hep hi).elim
      · exact h.inj hi hj

end keyed

/-- The tables agree on the indices below `n`. -/
structure Agree (n : Nat) (t t' : PdTables) : Prop where
  cspaces : ∀ i < n, t'.cspaces.lookup i = t.cspaces.lookup i
  ntfns : ∀ i < n, t'.ntfns.lookup i = t.ntfns.lookup i
  eps : ∀ i < n, t'.eps.lookup i = t.eps.lookup i

/-- What was made for a protection domain. -/
structure PdObjects (channels : List Channel) (monitor : Monitor) (t : PdTables) (c : Container)
    (pd : ProtectionDomain) (idx : Nat) : Prop where
  cspace : ∃ id bits slots, t.cspaces.lookup idx = some id ∧
    c.objects[id]? = some ⟨s!"cnode_{pd.name}", .cnode bits slots⟩
  ntfn : ∃ id, t.ntfns.lookup idx = some id ∧ c.objects[id]? = some ⟨s!"ntfn_{pd.name}", .notification⟩
  ep : ∀ id, t.eps.lookup idx = some id → c.objects[id]? = some ⟨s!"ep_{pd.name}", .endpoint⟩
  needsEp : (t.eps.lookup idx).isSome ↔ pd.needsEp idx channels = true
  parent : ∀ parent, pd.parent = some parent → parent < idx
  fault : (faultCap monitor t pd idx).isSome

section tables

variable {config : Config} {channels : List Channel} {monitor : Monitor} {t t' : PdTables} {c c' : Container}
  {pd : ProtectionDomain} {idx n : Nat} {P : ObjectId → CapTableEntry → Prop} {Q : String → CapTableEntry → Prop}

lemma Agree.faultCap (h : Agree n t t') (hidx : idx < n) (hparent : ∀ parent, pd.parent = some parent → parent < idx) :
    faultCap monitor t' pd idx = faultCap monitor t pd idx :=
  faultCap_congr monitor pd idx fun parent hp => h.eps parent ((hparent parent hp).trans hidx)

lemma Agree.pdIpc (h : Agree n t t') (hidx : idx < n) (hparent : ∀ parent, pd.parent = some parent → parent < idx) :
    pdIpc monitor t' pd idx = pdIpc monitor t pd idx := by
  have hinput : inputCap t' idx = inputCap t idx := by
    unfold inputCap
    rw [h.eps idx hidx, h.ntfns idx hidx]
  unfold Capdl.pdIpc
  rw [h.faultCap hidx hparent, hinput]

lemma Agree.monitorIpc (h : Agree n t t') (hidx : idx < n) : monitorIpc t' pd idx = monitorIpc t pd idx := by
  unfold Capdl.monitorIpc
  rw [h.ntfns idx hidx]

lemma Agree.pdBound (h : Agree n t t') (hidx : idx < n)
    (hparent : ∀ parent, pd.parent = some parent → parent < idx) :
    pdBound config monitor t' pd idx = pdBound config monitor t pd idx := by
  unfold Capdl.pdBound
  rw [h.faultCap hidx hparent, h.ntfns idx hidx, h.eps idx hidx]

/-- A CNode stays one. -/
lemma Grants.cnode (h : Grants P Q c c') {id : ObjectId} {name : String} {bits : Nat} {slots : List CapTableEntry}
    (hid : c.objects[id]? = some ⟨name, .cnode bits slots⟩) :
    ∃ bits slots, c'.objects[id]? = some ⟨name, .cnode bits slots⟩ := by
  obtain ⟨⟨name', o⟩, hobj, hname, hkind⟩ := h.same hid
  obtain rfl := hname
  cases o with
  | cnode bits slots => exact ⟨bits, slots, hobj⟩
  | _ => cases hkind

lemma PdObjects.step (h : PdObjects channels monitor t c pd idx) (hagree : Agree n t t') (hidx : idx < n)
    (hgrants : Grants P Q c c') : PdObjects channels monitor t' c' pd idx where
  cspace := by
    obtain ⟨id, bits, slots, hid, hobj⟩ := h.cspace
    obtain ⟨bits, slots, hobj⟩ := hgrants.cnode hobj
    exact ⟨id, bits, slots, (hagree.cspaces idx hidx).trans hid, hobj⟩
  ntfn := by
    obtain ⟨id, hid, hobj⟩ := h.ntfn
    exact ⟨id, (hagree.ntfns idx hidx).trans hid, hgrants.kept hobj rfl⟩
  ep id hid := hgrants.kept (h.ep id ((hagree.eps idx hidx).symm.trans hid)) rfl
  needsEp := by
    rw [hagree.eps idx hidx]
    exact h.needsEp
  parent := h.parent
  fault := by
    rw [hagree.faultCap hidx h.parent]
    exact h.fault

end tables

/-! ## All protection domains -/

/-- What the protection domains that have been built so far have. -/
structure PdsBuilt (config : Config) (channels : List Channel) (monitor : Monitor)
    (pds : List (ProtectionDomain × Nat)) (t : PdTables) (c₀ c : Container) : Prop where
  cspaces : Keyed pds.length c₀.objects.length c.objects.length t.cspaces
  ntfns : Keyed pds.length c₀.objects.length c.objects.length t.ntfns
  eps : Keyed pds.length c₀.objects.length c.objects.length t.eps
  objects : ∀ pd idx, (pd, idx) ∈ pds → PdObjects channels monitor t c pd idx
  grants : Grants
    (fun id cte => ∃ pd idx, (pd, idx) ∈ pds ∧
      (t.cspaces.lookup idx = some id ∧ cte ∈ pdIpc monitor t pd idx ∨
        id = monitor.cnode ∧ cte ∈ monitorIpc t pd idx))
    (fun name cte => ∃ pd idx, (pd, idx) ∈ pds ∧ (name, cte) ∈ pdBound config monitor t pd idx) c₀ c

section domains

variable {config : Config} {monitor : Monitor} {frames : List (String × List ObjectId)} {channels : List Channel}
  {elfs : List Elf} {armSmc : Option ObjectId} {t t' : PdTables} {c0 c c' : Container} {pd : ProtectionDomain}
  {pds : List (ProtectionDomain × Nat)}

lemma PdsBuilt.lt (h : PdsBuilt config channels monitor pds t c0 c) {idx : Nat} (hmem : (pd, idx) ∈ pds) :
    idx < pds.length := by
  obtain ⟨id, bits, slots, hid, -⟩ := (h.objects pd idx hmem).cspace
  exact h.cspaces.key_lt hid

/-- One more protection domain is built. -/
lemma PdsBuilt.push {cnode ntfn : ObjectId} {ep : Option ObjectId} (h : PdsBuilt config channels monitor pds t c0 c)
    (hadded : PdAdded config channels monitor pd pds.length cnode ntfn ep t t' c c') :
    PdsBuilt config channels monitor (pds ++ [(pd, pds.length)]) t' c0 c' := by
  have hagree : Agree pds.length t t' := by
    refine ⟨fun i hi => ?_, fun i hi => ?_, fun i hi => ?_⟩
    · rw [hadded.cspaces, lookup_tail _ _ hi.ne]
    · rw [hadded.ntfns, lookup_tail _ _ hi.ne]
    · rw [hadded.eps, lookup_optional_tail _ _ hi.ne]
  have hcspace : t'.cspaces.lookup pds.length = some cnode := by rw [hadded.cspaces, List.lookup_cons_self]
  have hntfn : t'.ntfns.lookup pds.length = some ntfn := by rw [hadded.ntfns, List.lookup_cons_self]
  have hep : t'.eps.lookup pds.length = ep := by rw [hadded.eps, lookup_optional _ _ h.eps.lookup_none]
  obtain ⟨hcnodeLe, bits, slots, hcnodeObj⟩ := hadded.cnode_new
  have hle := hadded.grants.le
  refine ⟨?_, ?_, ?_, fun pd' idx hmem => ?_, (h.grants.trans hadded.grants).congr (fun id cte _ => ?_)
    fun name cte _ => ?_⟩
  · rw [hadded.cspaces, List.length_append]
    refine h.cspaces.insert (some cnode) h.grants.le hle fun id hid => ?_
    obtain rfl := Option.some.inj hid
    exact ⟨hcnodeLe, lt_of_object hcnodeObj⟩
  · rw [hadded.ntfns, List.length_append]
    refine h.ntfns.insert (some ntfn) h.grants.le hle fun id hid => ?_
    obtain rfl := Option.some.inj hid
    exact ⟨hadded.ntfn_new.1, lt_of_object hadded.ntfn_new.2⟩
  · rw [hadded.eps, List.length_append]
    exact h.eps.insert ep h.grants.le hle fun id hid =>
      ⟨(hadded.ep_new id hid).1, lt_of_object (hadded.ep_new id hid).2⟩
  · rcases List.mem_append.mp hmem with hmem | hmem
    · exact (h.objects pd' idx hmem).step hagree (h.lt hmem) hadded.grants
    · obtain ⟨rfl, rfl⟩ := Prod.mk.inj (List.mem_singleton.mp hmem)
      refine ⟨⟨cnode, bits, slots, hcspace, hcnodeObj⟩, ⟨ntfn, hntfn, hadded.ntfn_new.2⟩, fun id hid => ?_, ?_,
        hadded.parent, ?_⟩
      · exact (hadded.ep_new id (hep.symm.trans hid)).2
      · rw [hep]
        exact hadded.needsEp
      · rw [faultCap_congr monitor pd' pds.length fun parent hp => hagree.eps parent (hadded.parent parent hp)]
        exact hadded.fault
  · constructor
    · rintro (⟨pd', idx, hmem, hcte⟩ | hcte)
      · have hidx := h.lt hmem
        refine ⟨pd', idx, List.mem_append_left _ hmem, ?_⟩
        rwa [hagree.cspaces idx hidx, hagree.pdIpc hidx (h.objects pd' idx hmem).parent, hagree.monitorIpc hidx]
      · refine ⟨pd, pds.length, List.mem_append_right _ List.mem_cons_self, hcte.imp_left (And.imp_left ?_)⟩
        rintro rfl
        exact hcspace
    · rintro ⟨pd', idx, hmem, hcte⟩
      rcases List.mem_append.mp hmem with hmem | hmem
      · have hidx := h.lt hmem
        rw [hagree.cspaces idx hidx, hagree.pdIpc hidx (h.objects pd' idx hmem).parent, hagree.monitorIpc hidx] at hcte
        exact .inl ⟨pd', idx, hmem, hcte⟩
      · obtain ⟨rfl, rfl⟩ := Prod.mk.inj (List.mem_singleton.mp hmem)
        refine .inr (hcte.imp_left (And.imp_left fun hid => ?_))
        exact (Option.some.inj (hcspace.symm.trans hid)).symm
  · constructor
    · rintro (⟨pd', idx, hmem, hcte⟩ | hcte)
      · refine ⟨pd', idx, List.mem_append_left _ hmem, ?_⟩
        rwa [hagree.pdBound (h.lt hmem) (h.objects pd' idx hmem).parent]
      · exact ⟨pd, pds.length, List.mem_append_right _ List.mem_cons_self, hcte⟩
    · rintro ⟨pd', idx, hmem, hcte⟩
      rcases List.mem_append.mp hmem with hmem | hmem
      · rw [hagree.pdBound (h.lt hmem) (h.objects pd' idx hmem).parent] at hcte
        exact .inl ⟨pd', idx, hmem, hcte⟩
      · obtain ⟨rfl, rfl⟩ := Prod.mk.inj (List.mem_singleton.mp hmem)
        exact .inr hcte

lemma snd_of_prefix_zipIdx {α : Type} {l : List α} {pre : List (α × Nat)} {x : α × Nat}
    (h : pre ++ [x] <+: l.zipIdx) : x.2 = pre.length := by
  have hget : l.zipIdx[pre.length]? = some x := by
    obtain ⟨rest, e⟩ := h
    rw [← e, List.append_assoc, List.getElem?_append_right le_rfl, Nat.sub_self]
    rfl
  rw [List.getElem?_zipIdx, Nat.zero_add] at hget
  obtain ⟨a, -, rfl⟩ := Option.map_eq_some_iff.mp hget
  rfl

lemma buildPds_built {l : List ProtectionDomain}
    (h : l.zipIdx.foldlM (buildPd config elfs channels monitor frames armSmc) ⟨[], [], [], 0⟩ c0 = .ok t c) :
    PdsBuilt config channels monitor l.zipIdx t c0 c := by
  refine Failing.foldlM_ok (P := fun pds t c => PdsBuilt config channels monitor pds t c0 c) h
    ⟨.nil, .nil, .nil, fun _ _ hmem => absurd hmem List.not_mem_nil,
      (Grants.refl c0).congr (fun _ _ _ => ?_) fun _ _ _ => ?_⟩ ?_
  · refine iff_of_false id ?_
    rintro ⟨_, _, hmem, -⟩
    exact List.not_mem_nil hmem
  · refine iff_of_false id ?_
    rintro ⟨_, _, hmem, -⟩
    exact List.not_mem_nil hmem
  · rintro pre ⟨pd, idx⟩ t c1 t' c2 hpre hbuilt hstep
    obtain rfl : idx = pre.length := snd_of_prefix_zipIdx hpre
    obtain ⟨cnode, ntfn, ep, hadded⟩ := buildPd_ok hstep hbuilt.eps.lookup_none
    exact hbuilt.push hadded

end domains

/-! ## The monitor -/

section monitor

variable {config : Config} {monitor : Monitor} {c c' : Container}

/-- Capabilities that are not for communication are bound to a thread. -/
lemma setTcb_passes {tcb : ObjectId} {update : TcbExtraInfo → TcbExtraInfo} {caps : List CapTableEntry}
    (hcaps : ∀ cte ∈ caps, cte.cap.isIpc = false) : Moves Passes (setTcb tcb update (· ++ caps)) := by
  refine ⟨fun h => ?_⟩
  unfold setTcb at h
  obtain ⟨⟨name, o⟩, hobj, h⟩ := ok_read getRootObject_ok h
  cases o with
  | tcb slots extra =>
    obtain rfl := setObject_ok h
    refine (put_grants (fun _ => False) hobj (.tcb (slots ++ caps) (update extra)) rfl nofun fun cte hipc => ?_).congr
      (fun _ _ _ => iff_of_false (fun h => h.2.2) id) fun _ _ _ => iff_of_false (fun h => h.2.2) id
    simp only [Object.slots, Option.getD_some, List.mem_append, or_false]
    refine or_iff_left fun hcte => ?_
    exact Bool.false_ne_true ((hcaps cte hcte).symm.trans hipc)
  | _ => cases h

/-- What was made for the monitor, when there were less than `top` objects. -/
structure MonitorObjects (monitor : Monitor) (top : Nat) (c : Container) : Prop where
  lt : monitor.cnode < top ∧ monitor.faultEp < top
  cnode : ∃ bits slots, c.objects[monitor.cnode]? = some ⟨s!"cnode_{monitorPdName}", .cnode bits slots⟩
  faultEp : ∃ name, c.objects[monitor.faultEp]? = some ⟨name, .endpoint⟩

lemma MonitorObjects.step {P : ObjectId → CapTableEntry → Prop} {Q : String → CapTableEntry → Prop} {top : Nat}
    (h : MonitorObjects monitor top c) (hgrants : Grants P Q c c') : MonitorObjects monitor top c' where
  lt := h.lt
  cnode := by
    obtain ⟨bits, slots, hobj⟩ := h.cnode
    exact hgrants.cnode hobj
  faultEp := by
    obtain ⟨name, hobj⟩ := h.faultEp
    exact ⟨name, hgrants.kept hobj rfl⟩

/-- The monitor gets a capability to its fault endpoint and no other for messages. -/
lemma buildMonitor_grants {elfId : Nat} {elf : Elf} (h : buildMonitor config elfId elf c = .ok monitor c') :
    MonitorObjects monitor c'.objects.length c' ∧
      Grants (fun id cte => id = monitor.cnode ∧ cte = ⟨monFaultEpCapIdx, makeEndpointCap monitor.faultEp 0⟩)
        (fun _ _ => False) c c' := by
  unfold buildMonitor at h
  obtain ⟨tcb, c1, htcb, h⟩ := ok_bind h
  obtain ⟨faultEp, c2, hfault, h⟩ := ok_bind h
  obtain ⟨reply, c3, hreply, h⟩ := ok_bind h
  obtain ⟨sc, c4, hsc, h⟩ := ok_bind h
  obtain ⟨cnode, c5, hcnode, h⟩ := ok_bind h
  obtain ⟨frame, c6, hframe, h⟩ := ok_bind h
  obtain ⟨vspace, c7, hvspace, h⟩ := ok_bind h
  obtain ⟨⟨⟩, c8, hmap, h⟩ := ok_bind h
  obtain ⟨⟨⟩, c9, hset, hrest⟩ := ok_bind h
  obtain ⟨rfl, rfl⟩ := ok_pure hrest
  have h1 := (unwrapResult_passes (addElfToSpec_passes ..)).step htcb
  have h2 := (addRootObject_passes (List.forall_mem_nil _)).step hfault
  have h3 := (addRootObject_passes (List.forall_mem_nil _)).step hreply
  have h4 := (addRootObject_passes (List.forall_mem_nil _)).step hsc
  obtain ⟨rfl, rfl⟩ := addRootObject_ok hfault
  obtain ⟨rfl, rfl⟩ := addRootObject_ok hcnode
  have h6 := (addRootObject_passes (List.forall_mem_nil _)).step hframe
  have h7 := (getVspaceIdFromTcbId_passes tcb).step hvspace
  have h8 := (unwrapResult_passes (mapPage_passes _ _ _ rfl)).step hmap
  have h9 : Passes c8 c9 := (setTcb_passes (by simp [Cap.isIpc, makeCnodeCap])).step hset
  have hlast := trans_of Passes (trans_of Passes h6 h7) (trans_of Passes h8 h9)
  have hfirst := trans_of Passes (trans_of Passes h1 h2) (trans_of Passes h3 h4)
  obtain ⟨bits, slots, hobj⟩ := hlast.cnode (push_last c4 _)
  have hep := (((trans_of Passes h3 h4).grants (push_grants c4 _)).passes hlast).kept (push_last c1 _) rfl
  refine ⟨⟨⟨lt_of_object hobj, lt_of_object hep⟩, ⟨bits, slots, hobj⟩, ⟨_, hep⟩⟩,
    ((hfirst.grants (push_grants c4 _)).passes hlast).congr (fun id cte hipc => ?_)
    fun _ _ _ => iff_of_false (fun h => Bool.noConfusion h.2.1) id⟩
  refine and_congr_right fun _ => (and_iff_right rfl).trans ?_
  simp only [Object.slots, Option.getD_some, List.mem_cons, List.not_mem_nil, or_false]
  refine or_iff_left ?_
  rintro rfl
  cases hipc

end monitor

/-! ## Channels -/

/-- What a channel names has been made. -/
structure Served (t : PdTables) (ch : Channel) : Prop where
  cspaces : (t.cspaces.lookup ch.endA.pd).isSome ∧ (t.cspaces.lookup ch.endB.pd).isSome
  ntfns : (t.ntfns.lookup ch.endA.pd).isSome ∧ (t.ntfns.lookup ch.endB.pd).isSome
  ppA : ch.endA.pp = true → (t.eps.lookup ch.endB.pd).isSome
  ppB : ch.endB.pp = true → (t.eps.lookup ch.endA.pd).isSome

section channels

variable {t : PdTables} {c c' : Container} {source target : ChannelEnd} {ch : Channel}

lemma connectNotify_grants {u : Unit} (h : connectNotify t source target c = .ok u c') :
    Grants (fun id cte => (id, cte) ∈ notifyIpc t source target) (fun _ _ => False) c c' := by
  unfold connectNotify at h
  unfold notifyIpc
  by_cases hnotify : source.notify = true
  · rw [if_pos hnotify] at h
    obtain ⟨cspace, hcspace, h⟩ := ok_read lookupKey_ok h
    obtain ⟨ntfn, hntfn, h⟩ := ok_read lookupKey_ok h
    refine (insertCapIntoCspace_grants h).congr (fun id cte _ => ?_) fun _ _ _ => Iff.rfl
    rw [if_pos hnotify, hcspace, hntfn]
    simp
  · rw [if_neg hnotify] at h
    obtain ⟨-, rfl⟩ := ok_pure h
    refine (Grants.refl c).congr (fun _ _ _ => ?_) fun _ _ _ => Iff.rfl
    rw [if_neg hnotify]
    exact iff_of_false id List.not_mem_nil

lemma connectPp_grants {u : Unit} (h : connectPp t source target c = .ok u c') :
    (source.pp = true → (t.eps.lookup target.pd).isSome) ∧
      Grants (fun id cte => (id, cte) ∈ ppIpc t source target) (fun _ _ => False) c c' := by
  unfold connectPp at h
  unfold ppIpc
  by_cases hpp : source.pp = true
  · rw [if_pos hpp] at h
    obtain ⟨cspace, hcspace, h⟩ := ok_read lookupKey_ok h
    obtain ⟨ep, hep, h⟩ := ok_read lookupKey_ok h
    refine ⟨fun _ => Option.isSome_iff_exists.mpr ⟨ep, hep⟩,
      (insertCapIntoCspace_grants h).congr (fun id cte _ => ?_) fun _ _ _ => Iff.rfl⟩
    rw [if_pos hpp, hcspace, hep]
    simp
  · rw [if_neg hpp] at h
    obtain ⟨-, rfl⟩ := ok_pure h
    refine ⟨fun h => absurd h hpp, (Grants.refl c).congr (fun _ _ _ => ?_) fun _ _ _ => Iff.rfl⟩
    rw [if_neg hpp]
    exact iff_of_false id List.not_mem_nil

lemma buildChannel_grants {u : Unit} (h : buildChannel t ch c = .ok u c') :
    Served t ch ∧ Grants (fun id cte => (id, cte) ∈ channelIpc t ch) (fun _ _ => False) c c' := by
  unfold buildChannel at h
  obtain ⟨a, ha, h⟩ := ok_read lookupKey_ok h
  obtain ⟨b, hb, h⟩ := ok_read lookupKey_ok h
  obtain ⟨m, hm, h⟩ := ok_read lookupKey_ok h
  obtain ⟨n, hn, h⟩ := ok_read lookupKey_ok h
  obtain ⟨⟨⟩, c1, h1, h⟩ := ok_bind h
  obtain ⟨⟨⟩, c2, h2, h⟩ := ok_bind h
  obtain ⟨⟨⟩, c3, h3, h4⟩ := ok_bind h
  obtain ⟨hppA, g3⟩ := connectPp_grants h3
  obtain ⟨hppB, g4⟩ := connectPp_grants h4
  refine ⟨⟨⟨Option.isSome_iff_exists.mpr ⟨a, ha⟩, Option.isSome_iff_exists.mpr ⟨b, hb⟩⟩,
    ⟨Option.isSome_iff_exists.mpr ⟨m, hm⟩, Option.isSome_iff_exists.mpr ⟨n, hn⟩⟩, hppA, hppB⟩,
    ((((connectNotify_grants h1).trans (connectNotify_grants h2)).trans g3).trans g4).congr (fun id cte _ => ?_)
    fun _ _ _ => by simp⟩
  unfold channelIpc
  simp only [List.mem_append]

lemma buildChannels_grants {channels : List Channel} {u : Unit} (h : channels.forM (buildChannel t) c = .ok u c') :
    (∀ ch ∈ channels, Served t ch) ∧
      Grants (fun id cte => ∃ ch ∈ channels, (id, cte) ∈ channelIpc t ch) (fun _ _ => False) c c' := by
  refine Failing.forM_ok (P := fun pre c' => (∀ ch ∈ pre, Served t ch) ∧
      Grants (fun id cte => ∃ ch ∈ pre, (id, cte) ∈ channelIpc t ch) (fun _ _ => False) c c') h
    ⟨List.forall_mem_nil _, (Grants.refl c).congr (fun _ _ _ => ?_) fun _ _ _ => Iff.rfl⟩ ?_
  · refine iff_of_false id ?_
    rintro ⟨_, hch, -⟩
    exact List.not_mem_nil hch
  rintro pre ch c1 c2 - ⟨hserved, hpre⟩ hstep
  obtain ⟨hch, hgrants⟩ := buildChannel_grants hstep
  refine ⟨fun ch' hch' => ?_, (hpre.trans hgrants).congr (fun id cte _ => ?_) fun _ _ _ => or_self_iff⟩
  · rcases List.mem_append.mp hch' with hch' | hch'
    · exact hserved ch' hch'
    · obtain rfl := List.mem_singleton.mp hch'
      exact hch
  · constructor
    · rintro (⟨ch', hch', hcte⟩ | hcte)
      · exact ⟨ch', List.mem_append_left _ hch', hcte⟩
      · exact ⟨ch, List.mem_append_right _ List.mem_cons_self, hcte⟩
    · rintro ⟨ch', hch', hcte⟩
      rcases List.mem_append.mp hch' with hch' | hch'
      · exact .inl ⟨ch', hch', hcte⟩
      · obtain rfl := List.mem_singleton.mp hch'
        exact .inr hcte

end channels

/-! ## The spec -/

/-- What the tables say of a spec that has been built: every protection domain has its objects, each of its own, apart
from those of the monitor, and the objects that a channel needs are there. -/
structure Resolved (system : SystemDescription) (monitor : Monitor) (t : PdTables) (base : Nat) (c : Container) :
    Prop where
  monitorObjects : MonitorObjects monitor base c
  cspaces : Keyed system.protectionDomains.length base c.objects.length t.cspaces
  ntfns : Keyed system.protectionDomains.length base c.objects.length t.ntfns
  eps : Keyed system.protectionDomains.length base c.objects.length t.eps
  objects : ∀ (pd : ProtectionDomain) idx, system.protectionDomains[idx]? = some pd →
    PdObjects system.channels monitor t c pd idx
  served : ∀ ch ∈ system.channels, Served t ch

lemma buildArmSmc_passes (config : Config) (pds : List ProtectionDomain) : Moves Passes (buildArmSmc config pds) :=
  .ite (.bind (addRootObject_passes (List.forall_mem_nil _)) fun _ => .pure _) (.pure _)

lemma Keyed.mono {n base base' top top' : Nat} {table : List (Nat × ObjectId)} (h : Keyed n base top table)
    (hbase : base' ≤ base) (htop : top ≤ top') : Keyed n base' top' table :=
  ⟨h.key_lt, fun hi => ⟨hbase.trans (h.range hi).1, (h.range hi).2.trans_le htop⟩, h.inj⟩

/-- The capabilities for communication that a description asks for in the CSpaces. -/
def CspaceIpc (system : SystemDescription) (monitor : Monitor) (t : PdTables) (id : ObjectId) (cte : CapTableEntry) :
    Prop :=
  (id = monitor.cnode ∧ cte = ⟨monFaultEpCapIdx, makeEndpointCap monitor.faultEp 0⟩) ∨
    (∃ pd idx, system.protectionDomains[idx]? = some pd ∧
      (t.cspaces.lookup idx = some id ∧ cte ∈ pdIpc monitor t pd idx ∨
        id = monitor.cnode ∧ cte ∈ monitorIpc t pd idx)) ∨
    ∃ ch ∈ system.channels, (id, cte) ∈ channelIpc t ch

/-- The capabilities for communication that a description asks for in a thread, an interrupt or a virtual CPU. -/
def BoundIpc (config : Config) (system : SystemDescription) (monitor : Monitor) (t : PdTables) (name : String)
    (cte : CapTableEntry) : Prop :=
  ∃ pd idx, system.protectionDomains[idx]? = some pd ∧ (name, cte) ∈ pdBound config monitor t pd idx

/-- All capabilities that steps 1 to 4 enter. -/
lemma buildObjects_grants {config : Config} {elfs : List Elf} {system : SystemDescription} {u : Unit} {c : Container}
    (h : buildObjects config elfs system ⟨[], []⟩ = .ok u c) : ∃ monitor t base, Resolved system monitor t base c ∧
      Grants (CspaceIpc system monitor t) (BoundIpc config system monitor t) ⟨[], []⟩ c := by
  unfold buildObjects at h
  obtain ⟨-, h⟩ := check_ok h
  obtain ⟨elf, -, h⟩ := ok_read unwrapOption_ok h
  obtain ⟨monitor, c1, hmonitor, h⟩ := ok_bind h
  obtain ⟨frames, c2, hregions, h⟩ := ok_bind h
  obtain ⟨armSmc, c3, hsmc, h⟩ := ok_bind h
  obtain ⟨t, c4, hpds, hchannels⟩ := ok_bind h
  obtain ⟨hobjects, g1⟩ := buildMonitor_grants hmonitor
  have h2 := (buildRegions_passes ..).step hregions
  have h3 := (buildArmSmc_passes ..).step hsmc
  have hbuilt := buildPds_built hpds
  obtain ⟨hserved, g5⟩ := buildChannels_grants hchannels
  have g := ((g1.passes (trans_of Passes h2 h3)).trans hbuilt.grants).trans g5
  have hbase := (trans_of Passes h2 h3).le
  have hmem : ∀ {pd : ProtectionDomain} {idx : Nat}, (pd, idx) ∈ system.protectionDomains.zipIdx ↔
      system.protectionDomains[idx]? = some pd := List.mk_mem_zipIdx_iff_getElem?
  refine ⟨monitor, t, c1.objects.length, ⟨?_, ?_, ?_, ?_, fun pd idx hpd => ?_, hserved⟩,
    g.congr (fun id cte _ => ?_) fun name cte _ => ?_⟩
  · exact ((hobjects.step (trans_of Passes h2 h3)).step hbuilt.grants).step g5
  · exact List.length_zipIdx ▸ hbuilt.cspaces.mono hbase g5.le
  · exact List.length_zipIdx ▸ hbuilt.ntfns.mono hbase g5.le
  · exact List.length_zipIdx ▸ hbuilt.eps.mono hbase g5.le
  · have hpd' := hmem.mpr hpd
    exact (hbuilt.objects pd idx hpd').step ⟨fun _ _ => rfl, fun _ _ => rfl, fun _ _ => rfl⟩ (hbuilt.lt hpd') g5
  · rw [or_assoc]
    simp only [hmem, CspaceIpc]
  · rw [false_or, or_false]
    simp only [hmem, BoundIpc]

/-- In a spec that has been built, the CSpaces of the monitor and of the protection domains have the capabilities for
communication that the description asks for, and no others, and so have the objects that such capabilities are bound
to. -/
theorem buildObjects_authority {config : Config} {elfs : List Elf} {system : SystemDescription} {u : Unit}
    {c : Container} (h : buildObjects config elfs system ⟨[], []⟩ = .ok u c) :
    ∃ monitor t base, Resolved system monitor t base c ∧
      (∀ id cte, cte.cap.isIpc = true → (c.InCspace id cte ↔ CspaceIpc system monitor t id cte)) ∧
      ∀ name cte, cte.cap.isIpc = true → (c.InObject name cte ↔ BoundIpc config system monitor t name cte) := by
  obtain ⟨monitor, t, base, hres, g⟩ := buildObjects_grants h
  exact ⟨monitor, t, base, hres, fun id cte hipc => g.cspace_iff hipc, fun name cte hipc => g.object_iff hipc⟩

def callDomain (name : String) (priority : BitVec 8) (row : Nat) : ProtectionDomain :=
  { id := none, name, priority, budget := 1000, period := 1000, passive := false, stackSize := 0x2000
    smc := false, cpu := 0, programImage := "program.elf", programImageForSymbols := none, fpu := true
    maps := [], irqs := [], ioports := [], setvars := [], virtualMachine := none
    hasChildren := false, parent := none, setvarId := none, textPos := ⟨row, 3⟩ }

/-- A client that calls a server. -/
def callSystem : SystemDescription :=
  ⟨[callDomain "client" 1 2, callDomain "server" 2 4], [], [⟨⟨0, 4, true, true, none⟩, ⟨1, 7, true, false, none⟩⟩]⟩

def callConfig : Config :=
  ⟨.aarch64, true, false, 1, some 44, none, ⟨11, 4, 6, 5, 13, 12, 21, 12, 12⟩, paSize_fortyFour⟩

def callElf : Elf :=
  ⟨0x200000, [⟨0x200000, 0x1000, false, true, false, true⟩], some 0x204000⟩

lemma call_built : ∃ u c, buildObjects callConfig [callElf, callElf, callElf] callSystem ⟨[], []⟩ = .ok u c := by
  have hok : (match buildObjects callConfig [callElf, callElf, callElf] callSystem ⟨[], []⟩ with
      | .ok _ _ => true
      | .error _ _ => false) = true := by
    decide +kernel
  split at hok
  · rename_i u c hrun
    exact ⟨u, c, hrun⟩
  · cases hok

/-- The client can call the server, and the server cannot call the client. -/
theorem buildObjects_authority_call : ∃ c monitor t base, Resolved callSystem monitor t base c ∧
    ∃ client server ep : ObjectId, t.cspaces.lookup 0 = some client ∧ t.cspaces.lookup 1 = some server ∧
      t.eps.lookup 1 = some ep ∧ t.eps.lookup 0 = none ∧
      c.InCspace client ⟨slotOf pdBaseOutputEndpointCap 4, makeEndpointCap ep (ppcBadge ||| 7)⟩ := by
  obtain ⟨u, c, hbuilt⟩ := call_built
  obtain ⟨monitor, t, base, hres, hcspace, -⟩ := buildObjects_authority hbuilt
  obtain ⟨client, -, -, hclient, -⟩ := (hres.objects (callDomain "client" 1 2) 0 rfl).cspace
  obtain ⟨server, -, -, hserver, -⟩ := (hres.objects (callDomain "server" 2 4) 1 rfl).cspace
  obtain ⟨ep, hep⟩ := Option.isSome_iff_exists.mp
    ((hres.objects (callDomain "server" 2 4) 1 rfl).needsEp.mpr (by decide))
  have hnone : t.eps.lookup 0 = none := by
    rw [← Option.not_isSome_iff_eq_none, (hres.objects (callDomain "client" 1 2) 0 rfl).needsEp]
    decide
  refine ⟨c, monitor, t, base, hres, client, server, ep, hclient, hserver, hep, hnone, ?_⟩
  refine (hcspace client _ rfl).mpr (.inr (.inr ⟨_, List.mem_cons_self, List.mem_append_left _ ?_⟩))
  refine List.mem_append_right _ ?_
  simp [ppIpc, hclient, hep]

end NexsKernel.Capdl
