import NexsKernel.Mcs.ObjFinal

/-!
# Operations on capabilities

New objects, handler slots, and any sequence of the steps that operations on capabilities are made of.
-/

namespace NexsKernel.Mcs

open Function (update update_of_ne update_apply update_eq_self_iff)

namespace ObjInv

variable {cfg : KernelConfig} {s : Kernel} {t : TcbPtr} {ep : EpPtr} {ntfn : NtfnPtr} {r : ReplyPtr} {sc : ScPtr}

/-- The queues do not depend on the fields of a thread that waits for nothing. -/
lemma waiting_fresh (h : Waiting s.toIpcState []) (ht : s.tsType t = .inactive) : Waiting { s.toIpcState with
    blockingObject := update s.blockingObject t 0
    blockingIPCBadge := update s.blockingIPCBadge t 0
    blockingIPCCanGrant := update s.blockingIPCCanGrant t false
    blockingIPCCanGrantReply := update s.blockingIPCCanGrantReply t false
    blockingIPCIsCall := update s.blockingIPCIsCall t false
    replyObject := update s.replyObject t none
    tcbFault := update s.tcbFault t .nullFault
    epLinks := ⟨update s.epLinks.next t none, update s.epLinks.prev t none⟩
    tcbPriority := update s.tcbPriority t 0 } [] := by
  obtain ⟨xs, q, l⟩ := h
  have hw : s.waitsAt t = none := by simp [IpcState.waitsAt, ht]
  have htx : ∀ w u, u ∈ xs w → u ≠ t := by
    rintro w u hu rfl
    have := ((q.mem w u).mp hu).1
    rw [hw] at this
    cases this
  refine ⟨xs, ⟨fun w => ?_, fun w u => ?_, ?_, q.arrived⟩, ⟨l.idle, l.send, l.recv, l.waiting⟩⟩
  · exact (q.rep w).congr fun u hu =>
      ⟨update_of_ne (htx w u hu) _ _, update_of_ne (htx w u hu) _ _⟩
  · rw [q.mem]
    unfold IpcState.waitsAt
    by_cases e : u = t
    · rw [e, ht]
    · dsimp only
      rw [update_of_ne e]
  · exact ((q.ignore hw).setPriority 0).order

/-- A new thread is inactive, and bound to nothing. -/
lemma createTcb (h : s.ObjInv []) (ht : s.tcbExists t = false) (hi : t ≠ s.ksIdleThread) :
    (s.createTcb t).ObjInv [] := by
  have hts : s.tsType t = .inactive := h.alive.tcb t ht hi
  have hn : ∀ r, s.replyTCB r ≠ some t := h.replyTCB_ne (by simp [hts]) (by simp [hts])
  have e1 : update s.tsType t .inactive = s.tsType := update_eq_self_iff.mpr hts.symm
  have e2 : update s.tcbSchedContext t none = s.tcbSchedContext :=
    update_eq_self_iff.mpr (h.live.tcb t ht hi).symm
  have e3 : update s.tcbBoundNotification t none = s.tcbBoundNotification :=
    update_eq_self_iff.mpr (h.live.tcbNtfn t ht).symm
  have e4 : update s.tcbYieldTo t none = s.tcbYieldTo :=
    update_eq_self_iff.mpr (h.live.tcbYield t ht).symm
  have hex : ∀ u, update s.tcbExists t true u = false → s.tcbExists u = false := by
    intro u hu
    rw [update_apply] at hu
    split at hu
    · cases hu
    · exact hu
  unfold Kernel.createTcb
  rw [e1, e2, e3, e4]
  refine { h with
    waiting := waiting_fresh h.waiting hts
    replied := ⟨fun r u => ?_, fun u hu => ?_⟩
    live := { h.live with
      tcb := fun u hu => h.live.tcb u (hex u hu)
      tcbNtfn := fun u hu => h.live.tcbNtfn u (hex u hu)
      tcbYield := fun u hu => h.live.tcbYield u (hex u hu)
      idleTcb := (update_of_ne hi.symm _ _).trans h.live.idleTcb }
    alive := ⟨fun u hu => h.alive.tcb u (hex u hu), h.alive.idle, h.alive.ep, h.alive.ntfn, h.alive.reply,
      h.alive.sc⟩
    faults := fun u _ hu => ?_
    handlers := fun u cap hu => ?_ }
  · show s.replyTCB r = some u ↔ update s.replyObject t none u = _ ∧ _
    by_cases e : u = t
    · simp [e, hn, hts]
    · rw [update_of_ne e]
      exact h.replied.tcb r u
  · have hut : u ≠ t := by
      rintro rfl
      exact absurd (hts.symm.trans hu) (by simp)
    exact fun e => h.replied.object u hu ((update_of_ne hut _ _).symm.trans e)
  · have hut : u ≠ t := fun e => hu (by simp [e])
    exact h.faults u (by simp) fun e => hu ((update_of_ne hut _ _).trans e)
  · have hut : u ≠ t := by
      rintro rfl
      simp at hu
    simp only [update_of_ne hut] at hu
    exact h.handlers u cap hu

lemma createEndpoint (h : s.ObjInv []) (hep : s.epExists ep = false) : (s.createEndpoint ep).ObjInv [] := by
  have he : update s.epState ep .idle = s.epState :=
    update_eq_self_iff.mpr (h.alive.ep ep hep).symm
  have hex : ∀ ep', update s.epExists ep true ep' = false → s.epExists ep' = false := by
    intro ep' hu
    rw [update_apply] at hu
    split at hu
    · cases hu
    · exact hu
  unfold Kernel.createEndpoint
  rw [he]
  obtain ⟨xs, q, l⟩ := h.waiting
  have hnil := (l.idle ep).mp (h.alive.ep ep hep)
  have hq : update s.epQueue ep Queue.empty = s.epQueue := by
    have := q.rep (.endpoint ep)
    rw [hnil] at this
    exact update_eq_self_iff.mpr this.eq_empty.symm
  rw [hq]
  refine { h with
    live := { h.live with }
    alive := { h.alive with ep := fun ep' hep' => h.alive.ep ep' (hex ep' hep') }
    handlers := fun u cap hu => ⟨?_, (h.handlers u cap hu).2⟩ }
  show update s.epExists ep true cap.capEPPtr = true
  rw [update_apply]
  split
  · rfl
  · exact (h.handlers u cap hu).1

lemma createNotification (h : s.ObjInv []) (hn : s.ntfnExists ntfn = false) :
    (s.createNotification ntfn).ObjInv [] := by
  have hst := h.alive.ntfn ntfn hn
  have hex : ∀ n, update s.ntfnExists ntfn true n = false → s.ntfnExists n = false := by
    intro n hu
    rw [update_apply] at hu
    split at hu
    · cases hu
    · exact hu
  have e1 : update s.ntfnBoundTCB ntfn none = s.ntfnBoundTCB :=
    update_eq_self_iff.mpr (h.live.ntfnTcb ntfn hn).symm
  have e2 : update s.ntfnSchedContext ntfn none = s.ntfnSchedContext :=
    update_eq_self_iff.mpr (h.live.ntfnSc ntfn hn).symm
  obtain ⟨xs, q, l⟩ := h.waiting
  have e3 : update s.ntfnQueue ntfn Queue.empty = s.ntfnQueue := by
    have hq := q.rep (.notification ntfn)
    have hnil : xs (.notification ntfn) = [] := by
      by_contra hne
      exact hst ((l.waiting ntfn).mpr hne)
    rw [hnil] at hq
    exact update_eq_self_iff.mpr hq.eq_empty.symm
  unfold Kernel.createNotification
  rw [e1, e2, e3]
  have h' : Kernel.ObjInv { s with
      ntfnState := update s.ntfnState ntfn .idle
      ntfnMsgIdentifier := update s.ntfnMsgIdentifier ntfn 0 } [] := by
    refine h.setNtfn fun n => ?_
    by_cases e : n = ntfn
    · simp [e, hst]
    · rw [update_of_ne e]
  exact { h' with
    live := { h'.live with
      ntfnTcb := fun n hn' => h'.live.ntfnTcb n (hex n hn')
      ntfnSc := fun n hn' => h'.live.ntfnSc n (hex n hn') }
    alive := { h'.alive with ntfn := fun n hn' => h'.alive.ntfn n (hex n hn') } }

lemma createReply (h : s.ObjInv []) (hr : s.replyExists r = false) : (s.createReply r).ObjInv [] := by
  have hn := h.alive.reply r hr
  obtain ⟨hnext, hprev⟩ := h.offStack_of_none hn
  have e1 : update s.replyTCB r none = s.replyTCB := update_eq_self_iff.mpr hn.symm
  have e2 : update s.replyNext r .null = s.replyNext := update_eq_self_iff.mpr hnext.symm
  have e3 : update s.replyPrev r none = s.replyPrev := update_eq_self_iff.mpr hprev.symm
  unfold Kernel.createReply
  rw [e1, e2, e3]
  refine { h with
    live := { h.live with }
    alive := { h.alive with reply := fun r' hr' => h.alive.reply r' ?_ } }
  change update s.replyExists r true r' = false at hr'
  rw [update_apply] at hr'
  split at hr'
  · cases hr'
  · exact hr'

lemma createSchedContext {n} (h : s.ObjInv []) (hs : s.scExists sc = false) (hi : sc ≠ s.ksIdleSC) :
    (s.createSchedContext sc n).ObjInv [] := by
  have e1 : update s.scTcb sc none = s.scTcb :=
    update_eq_self_iff.mpr (h.live.sc sc hs hi).symm
  have e2 : update s.scReply sc none = s.scReply :=
    update_eq_self_iff.mpr (h.alive.sc sc hs).symm
  have e3 : update s.scNotification sc none = s.scNotification :=
    update_eq_self_iff.mpr (h.live.scNtfn sc hs).symm
  have e4 : update s.scYieldFrom sc none = s.scYieldFrom :=
    update_eq_self_iff.mpr (h.live.scYield sc hs).symm
  have hex : ∀ c, update s.scExists sc true c = false → s.scExists c = false := by
    intro c hc
    rw [update_apply] at hc
    split at hc
    · cases hc
    · exact hc
  unfold Kernel.createSchedContext
  rw [e1, e2, e3, e4]
  exact { h with
    live := { h.live with
      sc := fun c hc => h.live.sc c (hex c hc)
      scNtfn := fun c hc => h.live.scNtfn c (hex c hc)
      scYield := fun c hc => h.live.scYield c (hex c hc)
      idleSc := (update_of_ne hi.symm _ _).trans h.live.idleSc }
    alive := { h.alive with sc := fun c hc => h.alive.sc c (hex c hc) } }

/-- A handler slot is filled with a capability that may be a handler, or emptied. -/
lemma setHandlers (h : s.ObjInv []) {f g : TcbPtr → Option EndpointCap}
    (hf : ∀ u cap, f u = some cap → s.tcbFaultHandler u = some cap ∨ HandlerLegal s cap)
    (hg : ∀ u cap, g u = some cap → s.tcbTimeoutHandler u = some cap ∨ HandlerLegal s cap) :
    Kernel.ObjInv { s with tcbFaultHandler := f, tcbTimeoutHandler := g } [] := by
  refine { h with handlers := fun u cap hu => ?_ }
  rcases hu with hu | hu
  · rcases hf u cap hu with h' | h'
    · exact h.handlers u cap (.inl h')
    · exact h'
  · rcases hg u cap hu with h' | h'
    · exact h.handlers u cap (.inr h')
    · exact h'

/-- A store to the slot of one thread. -/
lemma handler_update {f : TcbPtr → Option EndpointCap} {cap : Option EndpointCap}
    (hc : ∀ c, cap = some c → HandlerLegal s c) (u : TcbPtr) (c : EndpointCap)
    (hu : update f t cap u = some c) : f u = some c ∨ HandlerLegal s c := by
  rw [update_apply] at hu
  split at hu
  · exact .inr (hc c hu)
  · exact .inl hu

lemma setFaultHandler {cap} (h : s.ObjInv []) (hc : ∀ c, cap = some c → HandlerLegal s c) :
    (s.setFaultHandler t cap).ObjInv [] :=
  h.setHandlers (handler_update hc) fun _ _ hu => .inl hu

lemma setTimeoutHandler {cap} (h : s.ObjInv []) (hc : ∀ c, cap = some c → HandlerLegal s c) :
    (s.setTimeoutHandler t cap).ObjInv [] :=
  h.setHandlers (fun _ _ hu => .inl hu) (handler_update hc)

lemma capEffect {e : CapEffect} (h : s.ObjInv []) (he : e.Legal cfg s) : (s.capEffect cfg e).ObjInv [] := by
  cases e with
  | finalise o => exact h.finaliseCap he.1 he.2
  | clearFaultHandler t => exact h.setFaultHandler (by simp)
  | clearTimeoutHandler t => exact h.setTimeoutHandler (by simp)
  | setFaultHandler t cap => exact h.setFaultHandler fun c hc => Option.some.inj hc ▸ he.2
  | setTimeoutHandler t cap => exact h.setTimeoutHandler fun c hc => Option.some.inj hc ▸ he.2
  | create o n =>
    obtain ⟨ho, ht, hsc, -⟩ := he
    cases o with
    | tcb t => exact h.createTcb (Bool.not_eq_true _ ▸ ho) fun e => ht (e ▸ rfl)
    | endpoint ep => exact h.createEndpoint (Bool.not_eq_true _ ▸ ho)
    | notification ntfn => exact h.createNotification (Bool.not_eq_true _ ▸ ho)
    | reply r => exact h.createReply (Bool.not_eq_true _ ▸ ho)
    | schedContext sc => exact h.createSchedContext (Bool.not_eq_true _ ▸ ho) fun e => hsc (e ▸ rfl)
  | preemptionPoint now => exact h.same (s.updateTimestamp_same cfg now).toSameObj

lemma capEffects {es : List CapEffect} (h : s.ObjInv []) (hes : effectsLegal cfg es s) :
    (Kernel.capEffects cfg es s).ObjInv [] := by
  induction es generalizing s with
  | nil => exact h
  | cons e es ih => exact ih (h.capEffect hes.1) hes.2

lemma capOutcome {o : CapOutcome} (h : s.ObjInv []) : (s.capOutcome cfg o).1.ObjInv [] := by
  cases o with
  | done => exact h
  | preempted now => exact h.same (s.updateTimestamp_same cfg now).toSameObj

end ObjInv

end NexsKernel.Mcs
