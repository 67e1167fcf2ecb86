import NexsKernel.Mcs.ObjSignal

/-!
# Messages

Sending to and receiving from endpoints, and cancelling what waits there, keeps the invariant of the
objects.
-/

namespace NexsKernel.Mcs

open Function (update update_self update_of_ne update_eq_self update_idem)

namespace Kernel

variable (cfg : KernelConfig) (s : Kernel) {t : TcbPtr}

/-- All that `sendIPC` changes in the end is the state of the receiver. -/
lemma wakeReceiver_same (t : TcbPtr) : SameObjects (s.setTsType t .running) (s.wakeReceiver cfg t) := by
  unfold wakeReceiver
  extract_lets s1 s2 s3 s4
  have h1 : SameObjects (s.setTsType t .running) s1 := scheduleTCB_same _ t
  have h3 : SameObjects s1 s3 := ⟨⟨rfl, rfl, rfl⟩, rfl⟩
  exact ((h1.trans h3).trans (s3.unblockSporadic_same cfg _)).trans (s4.possibleSwitchTo_same cfg t)

lemma linkSender_calm {dest reply doCall canGrant canGrantReply canDonate} :
    Calm {t} s (s.linkSender cfg t dest reply doCall canGrant canGrantReply canDonate) := by
  unfold linkSender
  split
  · split
    · split
      · exact s.replyPush_calm cfg
      · exact s.setThreadState_calm (by simp)
    · exact s.setThreadState_calm (by simp)
  · split
    · exact s.schedContextDonate_calm cfg
    · exact .refl s

lemma restartThreadIfNoFault_calm : Calm {t} s (s.restartThreadIfNoFault cfg t) := by
  unfold restartThreadIfNoFault
  split
  · exact s.restartWaiter_calm cfg t
  · exact s.setThreadState_calm (by simp)

lemma cancelOneIPC_calm : Calm {t} s (s.cancelOneIPC cfg t) := by
  unfold cancelOneIPC
  extract_lets s1
  have h1 : Calm {t} s s1 := by
    unfold s1
    split
    · split
      · exact s.replyUnlink_calm
      · exact .refl s
    · exact .refl s
  exact h1.trans (s1.restartThreadIfNoFault_calm cfg)

lemma restartThreadIfNoFault_ipc (t : TcbPtr) : ∃ ts, (s.restartThreadIfNoFault cfg t).toIpcState =
    { s.toIpcState with tsType := update s.tsType t ts } := by
  unfold restartThreadIfNoFault
  split
  · exact ⟨.restart, congrArg ObjState.toIpcState (s.restartWaiter_same cfg t).obj⟩
  · exact ⟨.inactive, congrArg ObjState.toIpcState (s.setThreadState_obj t .inactive)⟩

lemma cancelOneIPC_ipc (t : TcbPtr) : ∃ ts r, (s.cancelOneIPC cfg t).toIpcState =
    { s.toIpcState with tsType := update s.tsType t ts, replyTCB := r } := by
  unfold cancelOneIPC
  extract_lets s1
  obtain ⟨ts, e⟩ := s1.restartThreadIfNoFault_ipc cfg t
  have h1 : ∃ ts r, s1.toIpcState =
      { s.toIpcState with tsType := update s.tsType t ts, replyTCB := r } := by
    unfold s1
    split
    · split
      · rename_i r _
        exact ⟨_, _, congrArg ObjState.toIpcState (s.replyUnlink_same r t).obj⟩
      · exact ⟨s.tsType t, s.replyTCB, by rw [update_eq_self]⟩
    · exact ⟨s.tsType t, s.replyTCB, by rw [update_eq_self]⟩
  obtain ⟨ts', r, e1⟩ := h1
  refine ⟨ts, r, e.trans ?_⟩
  rw [e1]
  simp only [update_idem]
  rfl

lemma replyUnlink_replyTCB {r r' : ReplyPtr} {u : TcbPtr} (h : (s.replyUnlink r' t).replyTCB r = some u) :
    s.replyTCB r = some u := by
  have e : (s.replyUnlink r' t).replyTCB r = update s.replyTCB r' none r :=
    congrArg (fun o => o.replyTCB r) (s.replyUnlink_same r' t).obj
  rw [h] at e
  by_cases hr : r = r'
  · rw [hr, update_self] at e
    cases e
  · rw [update_of_ne hr] at e
    exact e.symm

lemma setThreadState_replyTCB (ts : ThreadState) : (s.setThreadState t ts).replyTCB = s.replyTCB :=
  congrArg (fun o => o.replyTCB) (s.setThreadState_obj t ts)

lemma cancelEpIPC_replyTCB {r : ReplyPtr} {u : TcbPtr} (h : (s.cancelEpIPC t).replyTCB r = some u) :
    s.replyTCB r = some u := by
  unfold cancelEpIPC at h
  extract_lets ep s1 s2 s3 at h
  rw [s3.setThreadState_replyTCB] at h
  unfold s3 at h
  split at h
  · split at h
    · exact s2.replyUnlink_replyTCB h
    · exact h
  · exact h

lemma cancelSignal_replyTCB (ntfn : NtfnPtr) : (s.cancelSignal t ntfn).replyTCB = s.replyTCB := by
  unfold cancelSignal
  extract_lets s1
  exact (s1.ntfnDequeue ntfn t).setThreadState_replyTCB .inactive

lemma replyRemoveTcb_replyTCB {r : ReplyPtr} {u : TcbPtr} (h : (s.replyRemoveTcb t).replyTCB r = some u) :
    s.replyTCB r = some u := by
  unfold replyRemoveTcb at h
  extract_lets s1 at h
  split at h
  · exact h
  · have h1 := Kernel.replyUnlink_replyTCB _ h
    exact h1

/-- Cancelling a thread gives up reply objects, and takes none. -/
lemma cancelIPC_replyTCB {r : ReplyPtr} {u : TcbPtr} (h : (s.cancelIPC t).replyTCB r = some u) :
    s.replyTCB r = some u := by
  unfold cancelIPC at h
  extract_lets s1 at h
  split at h
  · exact s1.cancelEpIPC_replyTCB h
  · exact s1.cancelEpIPC_replyTCB h
  · rwa [cancelSignal_replyTCB] at h
  · exact s1.replyRemoveTcb_replyTCB h
  · exact h

lemma maybeReturnSchedContext_same (ntfn : NtfnPtr) (t : TcbPtr) :
    ∃ b, b.ntfnBoundTCB = s.ntfnBoundTCB ∧
      SameObjects { s with toBindings := b } (s.maybeReturnSchedContext cfg ntfn t) := by
  unfold maybeReturnSchedContext
  split
  · rename_i sc _
    split
    · extract_lets s1 s2
      refine ⟨s2.toBindings, rfl, ?_⟩
      split
      · have h := s2.rescheduleRequired_same cfg
        exact ⟨⟨h.obj, h.params, h.signals⟩, h.cur⟩
      · exact ⟨⟨rfl, rfl, rfl⟩, rfl⟩
    · exact ⟨s.toBindings, rfl, .refl s⟩
  · exact ⟨s.toBindings, rfl, .refl s⟩

end Kernel

namespace ObjInv

variable {cfg : KernelConfig} {s : Kernel} {L : List TcbPtr} {t dest : TcbPtr} {ep : EpPtr}

/-- The sender and the receiver of a message, which are both in no queue. -/
lemma linkSender {reply doCall canGrant canGrantReply canDonate} (h : s.ObjInv [t, dest]) (hl : s.Loose t)
    (hd : s.tcbExists dest = true) (hr : ∀ r, reply = some r → s.replyTCB r = none ∧ s.replyExists r = true) :
    (s.linkSender cfg t dest reply doCall canGrant canGrantReply canDonate).ObjInv [dest] := by
  have hoff : (s.setThreadState t .inactive).ObjInv [dest] :=
    h.setThreadState hl.noReply hl.tcbExists trivial (.inl rfl)
  unfold Kernel.linkSender
  split
  · split
    · rename_i r
      obtain ⟨hfree, hlive⟩ := hr r rfl
      split
      · exact h.replyPush hl.noReply hl.tcbExists hfree hlive hd
      · exact hoff
    · exact hoff
  · rename_i hf
    have hfault : s.tcbFault t = .nullFault := by
      by_contra hne
      exact hf (.inr hne)
    have h' := h.unignore hl.waitsAt hfault
    split
    · rename_i hc
      cases hsc : s.tcbSchedContext t with
      | none => exact h'.same s.fail_same.toSameObj
      | some sc => exact h'.schedContextDonate hc.2 hd (h'.scExists (h'.ne_idle hl.tcbExists) hsc)
    · exact h'

lemma wakeReceiver (h : s.ObjInv (t :: L)) (hn : ∀ r, s.replyTCB r ≠ some t) (ht : s.tcbExists t = true)
    (hf : s.tcbFault t = .nullFault) : (s.wakeReceiver cfg t).ObjInv L := by
  have h1 : (s.setTsType t .running).ObjInv L := h.setTsType hn ht trivial (.inr hf)
  exact h1.same (s.wakeReceiver_same cfg t).toSameObj

/-- The receiver is the head of the queue. -/
lemma sendToReceiver {doCall badge canGrant canGrantReply canDonate} (h : s.ObjInv [t]) (hl : s.Loose t)
    (hs : s.epState ep = .recv) (hq : (s.epQueue ep).head = some dest) :
    (s.sendToReceiver cfg doCall badge canGrant canGrantReply canDonate t ep dest).ObjInv [] := by
  obtain ⟨hw, hL⟩ := h.waitsAt_head hq
  have hts := h.head_recv hs hq
  have hne : t ≠ dest := fun e => hL (by simp [e])
  have hd : s.tcbExists dest = true := h.tcbExists (by simp [hts]) (by simp [hts])
  have hf : s.tcbFault dest = .nullFault :=
    h.fault_eq_null hL (by simp [hts]) (by simp [hts]) (by simp [hts])
  unfold Kernel.sendToReceiver
  extract_lets s1 s2 reply s3 s4
  have h2 : s2.ObjInv [dest, t] := h.epDequeue hw hL
  have hobj : s2.replyObject dest = reply := rfl
  have hl2 : s2.Loose t := ⟨hl.waitsAt, hl.noReply, hl.tcbExists⟩
  clear_value reply
  cases reply with
  | none =>
    -- without a reply object, the receiver stays in its state until the end
    have hn2 : ∀ r, s2.replyTCB r ≠ some dest := by
      intro r hr
      have := ((h2.replied.tcb r dest).mp hr).1
      rw [hobj] at this
      cases this
    have h3 : s2.ObjInv [t, dest] := h2.congr (by simp [or_comm])
    have h4 : s4.ObjInv [dest] := h3.linkSender hl2 hd (by simp)
    have hc : Kernel.Calm {t} s2 s4 := s2.linkSender_calm cfg
    refine h4.wakeReceiver ?_ ?_ ?_
    · have hrt : s4.replyTCB = s2.replyTCB := by
        show (Kernel.linkSender cfg s2 t dest none doCall canGrant canGrantReply canDonate).replyTCB = _
        unfold Kernel.linkSender
        split
        · exact congrArg (fun o => o.replyTCB) (s2.setThreadState_obj t .inactive)
        · split
          · cases s2.tcbSchedContext t with
            | none => rfl
            | some sc => exact congrArg (fun o => o.replyTCB) (s2.schedContextDonate_same cfg sc dest).obj
          · rfl
      rw [hrt]
      exact hn2
    · show s4.toObjects.tcbExists dest = true
      rw [hc.objects]
      exact hd
    · rw [hc.fault dest hne.symm]
      exact hf
  | some r =>
    have hr : s2.replyTCB r = some dest := (h2.replied.tcb r dest).mpr ⟨hobj, .inr hts⟩
    have hlive : s.replyExists r = true := by
      by_contra hne
      rw [Bool.not_eq_true] at hne
      have := h2.alive.reply r hne
      rw [hr] at this
      cases this
    have h3 : s3.ObjInv [t] := h2.replyUnlink hr (h2.offStack hr (by
      show s.tsType dest ≠ _
      simp [hts]))
    have hc3 : Kernel.Calm {dest} s2 s3 := s2.replyUnlink_calm
    have hplain : s3.tsType dest = .inactive := s2.replyUnlink_self dest r
    have hd3 : s3.tcbExists dest = true := by
      show s3.toObjects.tcbExists dest = true
      rw [hc3.objects]
      exact hd
    have hrt : s3.replyTCB = update s2.replyTCB r none :=
      congrArg (fun o => o.replyTCB) (s2.replyUnlink_same r dest).obj
    have hl3 : s3.Loose t := by
      refine ⟨?_, fun r' hr' => ?_, ?_⟩
      · have e : s3.tsType t = s2.tsType t := hc3.tsType t hne
        have e' : s3.blockingObject t = s2.blockingObject t :=
          congrArg (fun o => o.blockingObject t) (s2.replyUnlink_same r dest).obj
        unfold IpcState.waitsAt
        rw [e, e']
        exact hl.waitsAt
      · rw [hrt] at hr'
        by_cases e : r' = r
        · rw [e, update_self] at hr'
          cases hr'
        · rw [update_of_ne e] at hr'
          exact hl.noReply r' hr'
      · show s3.toObjects.tcbExists t = true
        rw [hc3.objects]
        exact hl.tcbExists
    have h3' : s3.ObjInv [t, dest] :=
      (h3.ignore (h3.loose (by rw [hplain]; trivial) hd3).waitsAt).congr (by simp [or_comm])
    have h4 : s4.ObjInv [dest] := by
      refine h3'.linkSender hl3 hd3 fun r' e => ?_
      cases e
      refine ⟨by rw [hrt, update_self], ?_⟩
      show s3.toObjects.replyExists r = true
      rw [hc3.objects]
      exact hlive
    have hc : Kernel.Calm {t} s3 s4 := s3.linkSender_calm cfg
    have hts4 : s4.tsType dest = .inactive := (hc.tsType dest hne.symm).trans hplain
    refine h4.wakeReceiver (h4.replyTCB_ne (by simp [hts4]) (by simp [hts4])) ?_ ?_
    · show s4.toObjects.tcbExists dest = true
      rw [hc.objects]
      exact hd3
    · have hf3 : s3.tcbFault dest = .nullFault := by
        show (s2.replyUnlink r dest).tcbFault dest = _
        rw [s2.replyUnlink_tcbFault]
        exact hf
      rw [hc.fault dest hne.symm]
      exact hf3

/-- A thread sends; it may have a fault. -/
lemma sendIPC {blocking doCall badge canGrant canGrantReply canDonate} (h : s.ObjInv [t]) (hl : s.Loose t)
    (hep : s.epExists ep = true) (hf : blocking = false → s.tcbFault t = .nullFault) :
    (s.sendIPC cfg blocking doCall badge canGrant canGrantReply canDonate t ep).ObjInv [] := by
  have hblock : ∀ st, s.epState ep = st → (st = .idle ∨ st = .send) →
      (if blocking then s.blockOnSend t ep badge canGrant canGrantReply doCall else s).ObjInv [] := by
    rintro st rfl hst
    split
    · exact h.blockOnSend (by simp) hl.noReply hl.tcbExists hep hst
    · rename_i hb
      exact h.unignore hl.waitsAt (hf (by simpa using hb))
  unfold Kernel.sendIPC
  split
  case h_1 hst => exact hblock _ hst (.inl rfl)
  case h_2 hst => exact hblock _ hst (.inr rfl)
  case h_3 hst =>
    split
    · rename_i dest hq
      exact h.sendToReceiver hl hst hq
    · rename_i hq
      obtain ⟨xs, q, l⟩ := h.waiting
      have hnil := (q.rep (.endpoint ep)).head_eq_none.mp hq
      rw [(l.idle ep).mpr hnil] at hst
      cases hst

lemma linkCaller {reply thread} (h : s.ObjInv (t :: L)) (hn : ∀ r, s.replyTCB r ≠ some t)
    (ht : s.tcbExists t = true) (hth : s.tcbExists thread = true)
    (hr : ∀ r, reply = some r → s.replyTCB r = none ∧ s.replyExists r = true) :
    (s.linkCaller cfg t thread reply).ObjInv L := by
  have hoff : (s.setThreadState t .inactive).ObjInv L := h.setThreadState hn ht trivial (.inl rfl)
  unfold Kernel.linkCaller
  extract_lets canGrant canGrantReply s1
  split
  · split
    · rename_i r
      obtain ⟨hfree, hlive⟩ := hr r rfl
      split
      · exact h.replyPush hn ht hfree hlive hth
      · exact hoff
    · exact hoff
  · rename_i hf
    have hfault : s.tcbFault t = .nullFault := by
      by_contra hne
      exact hf (.inr hne)
    have h1 : (s.setThreadState t .running).ObjInv L := h.setThreadState hn ht trivial (.inr hfault)
    exact (h1.same (Kernel.possibleSwitchTo_same cfg _ t).toSameObj).same (s1.assert_same _).toSameObj

lemma receiveFromSender {reply thread} (h : s.ObjInv []) (hs : s.epState ep = .send)
    (hq : (s.epQueue ep).head = some t) (hth : s.tcbExists thread = true)
    (hr : ∀ r, reply = some r → s.replyTCB r = none ∧ s.replyExists r = true) :
    (s.receiveFromSender cfg thread ep reply t).ObjInv [] := by
  obtain ⟨hw, hL⟩ := h.waitsAt_head hq
  have hts := h.head_send hs hq
  unfold Kernel.receiveFromSender
  extract_lets s1 s2 s3
  have h2 : s2.ObjInv [t] := h.epDequeue hw hL
  have e3 : s2.SameObjects s3 := s2.unblockSporadicAssert_same cfg _
  obtain ⟨rq, c, n, u, f, e⟩ := e3.exists_eq
  have h3 : s3.ObjInv [t] := h2.same e3.toSameObj
  clear_value s3
  subst e
  exact h3.linkCaller (h.replyTCB_ne (by simp [hts]) (by simp [hts]))
    (h.tcbExists (by simp [hts]) (by simp [hts])) hth hr

/-- The reply object that a thread receives with is free afterwards. -/
lemma freeReply {reply} (h : s.ObjInv []) (hl : s.Loose t) (hp : (s.tsType t).Plain) :
    (s.freeReply t reply).ObjInv [] ∧ (s.freeReply t reply).toObjects = s.toObjects ∧
      (s.freeReply t reply).tsType t = s.tsType t ∧ (s.freeReply t reply).tcbFault t = s.tcbFault t ∧
      (∀ r, reply = some r → (s.freeReply t reply).replyTCB r = none) := by
  unfold Kernel.freeReply
  split
  · exact ⟨h, rfl, rfl, rfl, by simp⟩
  · rename_i r
    split
    · rename_i u hu
      have hut : u ≠ t := by
        rintro rfl
        exact hl.noReply r hu
      rw [if_pos hut]
      have hc := h.cancelIPC_calm (t := u) (by simp)
      have h1 := h.cancelIPC (t := u) (by simp)
      have ht : t ∉ ({u} : Set TcbPtr) := fun e => hut e.symm
      refine ⟨h1, hc.objects, hc.tsType t ht, hc.fault t ht, fun r' e => ?_⟩
      cases e
      cases hr : (s.cancelIPC u).replyTCB r with
      | none => rfl
      | some v =>
        have hv := s.cancelIPC_replyTCB hr
        rw [hu] at hv
        cases hv
        have hue := h.tcbExists (t := u) (by
            intro e
            have := ((h.replied.tcb r u).mp hu).2
            simp [e] at this) (by
            intro e
            have := ((h.replied.tcb r u).mp hu).2
            simp [e] at this)
        exact absurd hr ((h.cancelIPC_loose (by simp) hue).noReply r)
    · rename_i hr
      refine ⟨h, rfl, rfl, rfl, fun r' e => ?_⟩
      cases e
      exact hr

lemma receiveOnEndpoint {b reply} (h : s.ObjInv []) (hl : s.Loose t) (hf : s.tcbFault t = .nullFault)
    (hep : s.epExists ep = true) (hr : ∀ r, reply = some r → s.replyTCB r = none ∧ s.replyExists r = true) :
    (s.receiveOnEndpoint cfg t ep b reply).ObjInv [] := by
  have hblock : ∀ st, s.epState ep = st → (st = .idle ∨ st = .recv) →
      (if b then s.blockOnReceive t ep reply else s.doNBRecvFailedTransfer t).ObjInv [] := by
    rintro st rfl hst
    split
    · exact (h.ignore hl.waitsAt).blockOnReceive (by simp) hf hl.noReply hl.tcbExists hep hst hr
    · exact h
  unfold Kernel.receiveOnEndpoint
  split
  case h_1 hst => exact hblock _ hst (.inl rfl)
  case h_2 hst => exact hblock _ hst (.inr rfl)
  case h_3 hst =>
    split
    · rename_i sender hq
      exact h.receiveFromSender hst hq hl.tcbExists hr
    · exact h.same s.fail_same.toSameObj

/-- A receiver takes the first sender, or waits. -/
lemma receiveIPC {b reply} (h : s.ObjInv []) (ht : s.isRunnable t = true)
    (hep : s.epExists ep = true) (hr : ∀ r, reply = some r → s.replyExists r = true) :
    (s.receiveIPC cfg t ep b reply).ObjInv [] := by
  have hl := h.isRunnable_loose ht
  unfold Kernel.receiveIPC
  extract_lets s1
  obtain ⟨h1, ho, hts, hf, hfree⟩ := h.freeReply hl (ThreadState.plain_of_isRunnable ht)
  change s1.ObjInv [] at h1
  change s1.toObjects = s.toObjects at ho
  change s1.tsType t = s.tsType t at hts
  change s1.tcbFault t = s.tcbFault t at hf
  change ∀ r, reply = some r → s1.replyTCB r = none at hfree
  have ht1 : s1.isRunnable t = true := by
    unfold Kernel.isRunnable
    rw [hts]
    exact ht
  have hf1 : s1.tcbFault t = .nullFault := h1.isRunnable_fault (by simp) ht1
  have hl1 := h1.isRunnable_loose ht1
  have hep1 : s1.epExists ep = true := by
    show s1.toObjects.epExists ep = true
    rw [ho]
    exact hep
  have hr1 : ∀ r, reply = some r → s1.replyTCB r = none ∧ s1.replyExists r = true := by
    intro r e
    refine ⟨hfree r e, ?_⟩
    show s1.toObjects.replyExists r = true
    rw [ho]
    exact hr r e
  clear_value s1
  split
  · rename_i ntfn _
    split
    · exact h1.completeSignal hl1.tcbExists
    · extract_lets s2
      have h2 : s2.ObjInv [] ∧ s2.Loose t ∧ s2.tcbFault t = .nullFault ∧ s2.epExists ep = true ∧
          ∀ r, reply = some r → s2.replyTCB r = none ∧ s2.replyExists r = true := by
        unfold s2
        split
        · have hm : (s1.maybeReturnSchedContext cfg ntfn t).ObjInv [] :=
            h1.maybeReturnSchedContext (h1.ne_idle hl1.tcbExists)
          obtain ⟨b', -, e⟩ := s1.maybeReturnSchedContext_same cfg ntfn t
          obtain ⟨rq, c, n, u, f, e'⟩ := e.exists_eq
          rw [e'] at hm ⊢
          exact ⟨hm, ⟨hl1.waitsAt, hl1.noReply, hl1.tcbExists⟩, hf1, hep1, hr1⟩
        · exact ⟨h1, hl1, hf1, hep1, hr1⟩
      obtain ⟨h2, hl2, hf2, hep2, hr2⟩ := h2
      exact h2.receiveOnEndpoint hl2 hf2 hep2 hr2
  · exact h1.receiveOnEndpoint hl1 hf1 hep1 hr1

lemma restartThreadIfNoFault (h : s.ObjInv (t :: L)) (hn : ∀ r, s.replyTCB r ≠ some t)
    (ht : s.tcbExists t = true) : (s.restartThreadIfNoFault cfg t).ObjInv L := by
  unfold Kernel.restartThreadIfNoFault
  split
  · rename_i hf
    exact h.restartWaiter hn ht hf
  · exact h.setThreadState hn ht trivial (.inl rfl)

lemma cancelOneIPC (h : s.ObjInv (t :: L))
    (hts : s.tsType t = .blockedOnSend ∨ s.tsType t = .blockedOnReceive) :
    (s.cancelOneIPC cfg t).ObjInv L := by
  have ht : s.tcbExists t = true := by
    apply h.tcbExists <;> rcases hts with e | e <;> simp [e]
  unfold Kernel.cancelOneIPC
  extract_lets s1
  unfold s1
  split
  · rename_i hrecv
    split
    · rename_i r hobj
      have hr : s.replyTCB r = some t := (h.replied.tcb r t).mpr ⟨hobj, .inr hrecv⟩
      have h1 := h.replyUnlink hr (h.offStack hr (by simp [hrecv]))
      have hts1 := s.replyUnlink_self t r
      have ht1 : (s.replyUnlink r t).tcbExists t = true := by
        show (s.replyUnlink r t).toObjState.tcbExists t = true
        rw [(s.replyUnlink_same r t).obj]
        exact ht
      have hl := h1.loose (t := t) (by rw [hts1]; trivial) ht1
      exact (h1.ignore hl.waitsAt).restartThreadIfNoFault hl.noReply ht1
    · rename_i hobj
      refine h.restartThreadIfNoFault (fun r hr => ?_) ht
      have := ((h.replied.tcb r t).mp hr).1
      rw [hobj] at this
      cases this
  · rename_i hrecv
    exact h.restartThreadIfNoFault (h.replyTCB_ne (by simp [hts.resolve_right hrecv]) hrecv) ht

/-- The loop of `cancelAllIPC`, along the links of the threads that were in the queue. -/
lemma cancelEachIPC {xs : List TcbPtr} {p fuel} (h : s.ObjInv (xs ++ L)) (hseg : Queue.Seg s.epLinks p xs none)
    (nd : xs.Nodup) (hf : xs.length < fuel)
    (hts : ∀ t ∈ xs, s.tsType t = .blockedOnSend ∨ s.tsType t = .blockedOnReceive) :
    (Kernel.cancelEachIPC cfg fuel s xs.head?).ObjInv L := by
  induction xs generalizing s p fuel with
  | nil =>
    obtain ⟨fuel, rfl⟩ := Nat.exists_eq_succ_of_ne_zero (Nat.ne_of_gt hf)
    exact h
  | cons t xs ih =>
    obtain ⟨fuel, rfl⟩ := Nat.exists_eq_succ_of_ne_zero (Nat.ne_of_gt (Nat.zero_lt_of_lt hf))
    obtain ⟨htx, nd⟩ := List.nodup_cons.mp nd
    have h1 : (s.cancelOneIPC cfg t).ObjInv (xs ++ L) := h.cancelOneIPC (hts t (by simp))
    have hl : (s.cancelOneIPC cfg t).epLinks = s.epLinks := by
      obtain ⟨ts, r, e⟩ := s.cancelOneIPC_ipc cfg t
      show (s.cancelOneIPC cfg t).toIpcState.epLinks = _
      rw [e]
    have hnext : s.epLinks.next t = xs.head? := by simpa using hseg.2.1
    show (Kernel.cancelEachIPC cfg fuel (s.cancelOneIPC cfg t)
      ((s.cancelOneIPC cfg t).epLinks.next t)).ObjInv L
    rw [hl, hnext]
    refine ih h1 (hl ▸ hseg.2.2) nd (by simpa using hf) fun u hu => ?_
    have hut : u ≠ t := fun e => htx (e ▸ hu)
    rw [(s.cancelOneIPC_calm cfg).tsType u hut]
    exact hts u (by simp [hu])

/-- All threads are taken out of the queue of an endpoint, which becomes idle. -/
lemma clearEp (h : s.ObjInv []) (ep : EpPtr) {xs} (hw : Waiting { s.toIpcState with
      epState := update s.epState ep .idle
      epQueue := update s.epQueue ep Queue.empty } xs) :
    ((s.setEpState ep .idle).setEpQueue ep Queue.empty).ObjInv xs :=
  { h with
    waiting := hw
    replied := ⟨h.replied.tcb, h.replied.object⟩
    alive := ⟨h.alive.tcb, h.alive.idle, fun ep' hep => by
      show update s.epState ep .idle ep' = _
      by_cases e : ep' = ep
      · rw [e, update_self]
      · rw [update_of_ne e]
        exact h.alive.ep ep' hep, h.alive.ntfn, h.alive.reply, h.alive.sc⟩
    faults := fun t _ hf => h.faults t (by simp) hf }

lemma waitsAt_endpoint (hw : s.waitsAt t = some (.endpoint ep)) :
    s.tsType t = .blockedOnSend ∨ s.tsType t = .blockedOnReceive := by
  revert hw
  unfold IpcState.waitsAt
  cases s.tsType t <;> simp

lemma cancelAllIPC (h : s.ObjInv []) : (s.cancelAllIPC cfg ep).ObjInv [] := by
  unfold Kernel.cancelAllIPC
  split
  · exact h
  · extract_lets head s1 s2
    obtain ⟨xs, rep, hmem, -, -, -, hw⟩ := h.waiting.clearEp ep
    have h2 : s2.ObjInv (xs ++ []) := by
      rw [List.append_nil]
      exact h.clearEp ep hw
    have hhead : head = xs.head? := rep.head
    rw [hhead]
    exact (h2.cancelEachIPC rep.seg rep.nodup (length_lt_walkFuel rep.nodup) fun t ht =>
      waitsAt_endpoint ((hmem t).mp ht)).same (Kernel.rescheduleRequired_same cfg _).toSameObj

/-- The threads of a queue that `cancelBadgedSends` works on. -/
structure BadgedLoop (s : Kernel) (ep : EpPtr) (q : Queue TcbPtr) (xs : List TcbPtr) : Prop where
  inv : s.ObjInv xs
  idle : s.epState ep = .idle
  rep : Queue.Rep s.epLinks q xs
  waits : ∀ t ∈ xs, s.waitsAt t = some (.endpoint ep)
  send : ∀ t ∈ xs, s.tsType t = .blockedOnSend
  order : xs.Pairwise s.before
  arrived : ∀ t ∈ xs, s.epArrival t < s.epClock
  alive : s.epExists ep = true

/-- One thread is restarted and taken out of the queue. -/
lemma BadgedLoop.step {q ys zs} (h : BadgedLoop s ep q (ys ++ t :: zs)) :
    BadgedLoop ((s.restartThreadIfNoFault cfg t).tcbEPDequeue t q).1 ep
      ((s.restartThreadIfNoFault cfg t).tcbEPDequeue t q).2 (ys ++ zs) := by
  have hts := h.send t (by simp)
  have hsub : ∀ u ∈ ys ++ zs, u ∈ ys ++ t :: zs := by
    intro u hu
    simp only [List.mem_append, List.mem_cons] at hu ⊢
    tauto
  have hne : ∀ u ∈ ys ++ zs, u ≠ t := by
    rintro u hu rfl
    exact (List.nodup_cons.mp (List.nodup_middle.mp h.rep.nodup)).1 hu
  have h1 : (s.restartThreadIfNoFault cfg t).ObjInv (ys ++ zs) := by
    refine (h.inv.congr ?_).restartThreadIfNoFault (h.inv.replyTCB_ne (by simp [hts]) (by simp [hts]))
      (h.inv.tcbExists (by simp [hts]) (by simp [hts]))
    intro u
    simp only [List.mem_append, List.mem_cons]
    tauto
  have hplain : (s.restartThreadIfNoFault cfg t).waitsAt t = none := by
    have e : (s.restartThreadIfNoFault cfg t).tsType t = .restart ∨
        (s.restartThreadIfNoFault cfg t).tsType t = .inactive := by
      unfold Kernel.restartThreadIfNoFault
      split
      · left
        show (s.restartWaiter cfg t).toObjState.tsType t = _
        rw [(s.restartWaiter_same cfg t).obj]
        exact update_self ..
      · exact .inr (s.setThreadState_self t .inactive)
    rcases e with e | e <;> simp [IpcState.waitsAt, e]
  obtain ⟨ts, e⟩ := s.restartThreadIfNoFault_ipc cfg t
  have hobj := (s.restartThreadIfNoFault_calm cfg (t := t)).objects
  generalize s.restartThreadIfNoFault cfg t = s' at h1 hplain e hobj ⊢
  have hl : s'.epLinks = s.epLinks := congrArg (fun i => i.epLinks) e
  have rep : Queue.Rep s'.epLinks q (ys ++ t :: zs) := hl ▸ h.rep
  have htsu : ∀ u ∈ ys ++ zs, s'.tsType u = s.tsType u := fun u hu => by
    have := congrArg (fun i => i.tsType u) e
    exact this.trans (update_of_ne (hne u hu) _ _)
  have hb : s'.blockingObject = s.blockingObject := congrArg (fun i => i.blockingObject) e
  refine ⟨?_, ?_, rep.unlink, fun u hu => ?_, fun u hu => ?_, ?_, fun u hu => ?_,
    (congrArg (fun o => o.epExists ep) hobj).trans h.alive⟩
  · refine { h1 with
      waiting := h1.waiting.relink (Queue.unlink_same rep) fun u hu => ?_
      replied := ⟨h1.replied.tcb, h1.replied.object⟩
      alive := ⟨h1.alive.tcb, h1.alive.idle, h1.alive.ep, h1.alive.ntfn, h1.alive.reply, h1.alive.sc⟩ }
    by_cases hut : u = t
    · exact .inr (hut ▸ hplain)
    · left
      simp only [List.mem_append, List.mem_cons] at hu ⊢
      tauto
  · exact (congrArg (fun i => i.epState ep) e).trans h.idle
  · have := h.waits u (hsub u hu)
    show IpcState.waitsAt s'.toIpcState u = _
    unfold IpcState.waitsAt at this ⊢
    rw [htsu u hu, hb]
    exact this
  · exact (htsu u hu).trans (h.send u (hsub u hu))
  · have hbe : s'.before = s.before := by
      rw [e]
      rfl
    show List.Pairwise s'.before _
    rw [hbe]
    exact h.order.sublist ((List.sublist_cons_self t zs).append_left ys)
  · show s'.epArrival u < s'.epClock
    rw [e]
    exact h.arrived u (hsub u hu)

/-- The loop of `cancelBadgedSends`: it has kept the threads `ys`. -/
lemma BadgedLoop.run {badge q ys zs fuel} (h : BadgedLoop s ep q (ys ++ zs)) (hf : zs.length < fuel) :
    ∃ xs, BadgedLoop (Kernel.cancelEachBadged cfg badge fuel s q zs.head?).1 ep
      (Kernel.cancelEachBadged cfg badge fuel s q zs.head?).2 xs := by
  induction zs generalizing s q ys fuel with
  | nil =>
    obtain ⟨fuel, rfl⟩ := Nat.exists_eq_succ_of_ne_zero (Nat.ne_of_gt hf)
    exact ⟨_, h⟩
  | cons t zs ih =>
    obtain ⟨fuel, rfl⟩ := Nat.exists_eq_succ_of_ne_zero (Nat.ne_of_gt (Nat.zero_lt_of_lt hf))
    have hnext : s.epLinks.next t = zs.head? := h.rep.links.2
    have hf' : zs.length < fuel := by simpa using hf
    simp only [List.head?_cons, Kernel.cancelEachBadged]
    rw [hnext]
    generalize hs' : s.assert (s.tsType t == .blockedOnSend) = s'
    have h' : BadgedLoop s' ep q (ys ++ t :: zs) := by
      subst hs'
      exact ⟨h.inv, h.idle, h.rep, h.waits, h.send, h.order, h.arrived, h.alive⟩
    split
    · exact ih h'.step hf'
    · have h'' : BadgedLoop s' ep q (ys ++ [t] ++ zs) := by rwa [List.append_assoc]
      exact ih h'' hf'

/-- The threads that were kept wait again. -/
lemma BadgedLoop.refill {q xs} (h : BadgedLoop s ep q xs) :
    Mcs.ObjInv { s.toObjState with
      epQueue := update s.epQueue ep q
      epState := if q.head ≠ none then update s.epState ep .send else s.epState }
      s.toThreadParams [] :=
  { h.inv with
    waiting := h.inv.waiting.refillEp h.idle h.rep h.waits h.send h.order h.arrived
    replied := ⟨h.inv.replied.tcb, h.inv.replied.object⟩
    alive := ⟨h.inv.alive.tcb, h.inv.alive.idle, fun ep' hep => by
      have hne : ep' ≠ ep := by
        rintro rfl
        exact Bool.false_ne_true (hep.symm.trans h.alive)
      dsimp only
      split
      · rw [update_of_ne hne]
        exact h.inv.alive.ep ep' hep
      · exact h.inv.alive.ep ep' hep, h.inv.alive.ntfn, h.inv.alive.reply, h.inv.alive.sc⟩
    faults := fun t _ hf => by
      by_cases ht : t ∈ xs
      · exact .inl (h.send t ht)
      · exact h.inv.faults t ht hf }

/-- Senders with the badge are restarted, and the invariant is kept. -/
lemma cancelBadgedSends {badge} (h : s.ObjInv []) : (s.cancelBadgedSends cfg ep badge).ObjInv [] := by
  unfold Kernel.cancelBadgedSends
  split
  case h_1 => exact h
  case h_2 => exact h
  case h_3 hst =>
    extract_lets q s1 s2 r s3 s4
    obtain ⟨xs, rep, hmem, hsend, ord, arr, hw⟩ := h.waiting.clearEp ep
    have hne : s.epExists ep = true := by
      by_contra hne
      rw [Bool.not_eq_true] at hne
      have := h.alive.ep ep hne
      rw [hst] at this
      cases this
    have h2 : BadgedLoop s2 ep q ([] ++ xs) :=
      ⟨h.clearEp ep hw, update_self .., rep, fun t ht => (hmem t).mp ht, hsend hst, ord, arr, hne⟩
    obtain ⟨ys, h3⟩ : ∃ ys, BadgedLoop (Kernel.cancelEachBadged cfg badge walkFuel s2 q xs.head?).1 ep
        (Kernel.cancelEachBadged cfg badge walkFuel s2 q xs.head?).2 ys := h2.run (length_lt_walkFuel rep.nodup)
    have hhead : q.head = xs.head? := rep.head
    rw [← hhead] at h3
    change BadgedLoop r.1 ep r.2 ys at h3
    have h4 : s4.ObjInv [] := by
      have h := h3.refill
      unfold s4
      split
      · rename_i hne
        rw [if_pos hne] at h
        exact h
      · rename_i hne
        rw [if_neg hne] at h
        exact h
    exact h4.same (s4.rescheduleRequired_same cfg).toSameObj

end ObjInv

end NexsKernel.Mcs
