import NexsKernel.Mcs.Quiet

/-!
# Operations that signal

Sending and receiving signals keeps the history of each notification right. A signal stays pending only if the
thread that is bound to the notification is not waiting for a message, and a thread waits for a message only if
no signal is pending on its notification. Binding is the operation that has no such check.
-/

namespace NexsKernel.Mcs

open Function (update update_self update_of_ne update_apply)

namespace Kernel

variable (cfg : KernelConfig) (s : Kernel) {t : TcbPtr} {ntfn : NtfnPtr} {P : Prop}

/-! ## Sending -/

/-- A signal stays pending at a notification that was idle. -/
lemma ntfnSetActive_tame {badge} (hs : s.ntfnState ntfn ≠ .active)
    (hb : ∀ t, s.ntfnBoundTCB ntfn = some t → s.tsType t ≠ .blockedOnReceive) :
    Tame P s ((s.logSignal (.sent ntfn badge)).ntfnSetActive ntfn badge) := by
  have hstate : ∀ n, ((s.logSignal (.sent ntfn badge)).ntfnSetActive ntfn badge).ntfnState n =
      if n = ntfn then .active else s.ntfnState n := fun n => update_apply ..
  have hmsg : ∀ n, ((s.logSignal (.sent ntfn badge)).ntfnSetActive ntfn badge).ntfnMsgIdentifier n =
      if n = ntfn then badge else s.ntfnMsgIdentifier n := fun n => update_apply ..
  have hsig : ((s.logSignal (.sent ntfn badge)).ntfnSetActive ntfn badge).signals =
    .sent ntfn badge :: s.signals := rfl
  refine ⟨fun hr n => ⟨(hr n).prompt, fun hn => ?_, fun hn => ?_⟩, fun _ hh n t hn hbound => ?_⟩
  · rw [hsig, hmsg, sentSince]
    by_cases e : ntfn = n
    · subst e
      rw [if_pos rfl, if_pos rfl, (hr ntfn).inactive hs]
      simp
    · rw [if_neg (Ne.symm e), if_neg e]
      rw [hstate, if_neg (Ne.symm e)] at hn
      exact (hr n).active hn
  · rw [hstate] at hn
    rw [hsig, sentSince]
    by_cases e : ntfn = n
    · exact absurd (if_pos e.symm) hn
    · rw [if_neg e]
      rw [if_neg (Ne.symm e)] at hn
      exact (hr n).inactive hn
  · rw [hstate] at hn
    by_cases e : n = ntfn
    · subst e
      exact hb t hbound
    · rw [if_neg e] at hn
      exact hh n t hn hbound

/-- Another signal for an active notification. -/
lemma orSignal_tame {badge} (hs : s.ntfnState ntfn = .active) :
    Tame P s ((s.logSignal (.sent ntfn badge)).setNtfnMsgIdentifier ntfn (s.ntfnMsgIdentifier ntfn ||| badge)) := by
  have hmsg : ∀ n, ((s.logSignal (.sent ntfn badge)).setNtfnMsgIdentifier ntfn
      (s.ntfnMsgIdentifier ntfn ||| badge)).ntfnMsgIdentifier n =
      if n = ntfn then s.ntfnMsgIdentifier ntfn ||| badge else s.ntfnMsgIdentifier n := fun n =>
        update_apply ..
  have hsig : ((s.logSignal (.sent ntfn badge)).setNtfnMsgIdentifier ntfn
      (s.ntfnMsgIdentifier ntfn ||| badge)).signals = .sent ntfn badge :: s.signals := rfl
  refine ⟨fun hr n => ⟨(hr n).prompt, fun hn => ?_, fun hn => ?_⟩, fun _ hh => hh⟩
  · rw [hsig, hmsg, sentSince]
    by_cases e : ntfn = n
    · subst e
      rw [if_pos rfl, if_pos rfl, (hr ntfn).active hs, BitVec.or_comm]
    · rw [if_neg (Ne.symm e), if_neg e]
      exact (hr n).active hn
  · rw [hsig, sentSince]
    have hn' : s.ntfnState n ≠ .active := hn
    have e : ntfn ≠ n := by
      rintro rfl
      exact hn' hs
    rw [if_neg e]
    exact (hr n).inactive hn'

/-- The history gets the word that is written to the register. -/
lemma deliverSignal_signals (badge : Word) :
    (s.deliverSignal ntfn t badge).signals = .delivered ntfn t badge :: s.signals := by
  change SignalEvent.delivered ntfn t (update s.badgeRegister t badge t) :: s.signals = _
  rw [update_self]

/-- A signal that is delivered at once. -/
lemma signalThread_tame {badge} {s1 : Kernel} (hs : s.ntfnState ntfn ≠ .active)
    (h1 : Quiet (s.logSignal (.sent ntfn badge)) s1) : Tame P s (s1.signalThread cfg ntfn t badge) := by
  have h2 : Quiet (s.logSignal (.sent ntfn badge)) (s1.setThreadState t .running) :=
    h1.trans (s1.setThreadState_quiet (by simp))
  have h3 : Tame P s ((s1.setThreadState t .running).deliverSignal ntfn t badge) := by
    have hsig : ((s1.setThreadState t .running).deliverSignal ntfn t badge).signals =
        .delivered ntfn t badge :: .sent ntfn badge :: s.signals :=
      (deliverSignal_signals _ badge).trans (congrArg _ h2.signals)
    refine ⟨fun hr n => ⟨?_, fun hn => ?_, fun hn => ?_⟩, fun _ hh n u hn hb ht => ?_⟩
    · rw [hsig]
      refine ⟨fun e => ?_, (hr n).prompt⟩
      subst e
      rw [sentSince, if_pos rfl, (hr ntfn).inactive hs]
      simp
    · have hn' : s.ntfnState n = .active := (h2.active n).mp hn
      have e : ntfn ≠ n := by
        rintro rfl
        exact hs hn'
      rw [hsig, sentSince, if_neg e, sentSince, if_neg e, ← (hr n).active hn']
      exact congrFun h2.msg n
    · have hn' : s.ntfnState n ≠ .active := fun e => hn ((h2.active n).mpr e)
      rw [hsig, sentSince, sentSince]
      split
      · rfl
      · exact (hr n).inactive hn'
    · exact hh n u ((h2.active n).mp hn) (h2.bound n u hb) (h2.receive u ht)
  unfold signalThread
  extract_lets s2 s3 s4 s5
  have h4 : Quiet s3 s4 := (s3.maybeDonateSchedContext_calm (X := ∅) cfg).toQuiet
  have h5 : Quiet s4 s5 := by
    unfold s5
    split
    · exact (s4.possibleSwitchTo_same cfg t).toSameObj.quiet
    · exact .refl s4
  exact h3.trans ((h4.trans h5).trans (s5.unblockSporadicAssert_same cfg _).toSameObj.quiet).tame

/-! ## Receiving -/

/-- A pending word is delivered. -/
lemma takeSignal_tame (hs : s.ntfnState ntfn = .active) : Tame P s (s.takeSignal cfg ntfn t) := by
  unfold takeSignal
  extract_lets s1 s2
  have h2 : Tame P s s2 := by
    have hstate : ∀ n, s2.ntfnState n = if n = ntfn then .idle else s.ntfnState n := fun n => update_apply ..
    have hsig : s2.signals = .delivered ntfn t (s.ntfnMsgIdentifier ntfn) :: s.signals :=
      s.deliverSignal_signals (s.ntfnMsgIdentifier ntfn)
    refine ⟨fun hr n => ⟨?_, fun hn => ?_, fun hn => ?_⟩, fun _ hh n u hn => ?_⟩
    · rw [hsig]
      refine ⟨fun e => ?_, (hr n).prompt⟩
      subst e
      exact (hr ntfn).active hs
    · rw [hstate] at hn
      rw [hsig, sentSince]
      by_cases e : ntfn = n
      · rw [if_pos e.symm] at hn
        cases hn
      · rw [if_neg (Ne.symm e)] at hn
        rw [if_neg e]
        exact (hr n).active hn
    · rw [hstate] at hn
      rw [hsig, sentSince]
      by_cases e : ntfn = n
      · exact if_pos e
      · rw [if_neg (Ne.symm e)] at hn
        rw [if_neg e]
        exact (hr n).inactive hn
    · rw [hstate] at hn
      split at hn
      · cases hn
      · exact hh n u hn
  exact h2.trans (s2.maybeDonateSchedContext_calm (X := ∅) cfg).toQuiet.tame

/-- Waiting at a notification on which no signal is pending. -/
lemma blockOnNtfn_quiet (hs : s.ntfnState ntfn ≠ .active) : Quiet s (s.blockOnNtfn ntfn t) := by
  unfold blockOnNtfn
  extract_lets s1 s2 s3 r s4
  have h1 : Quiet s s1 := (s.setTsType_calm (by simp)).toQuiet
  have h2 : Quiet s1 s2 := quiet_of_eq rfl rfl rfl rfl rfl
  have h3 : Quiet s2 s3 := (s2.scheduleTCB_same t).toSameObj.quiet
  have h := (h1.trans h2).trans h3
  have h4 : Quiet s3 s4 := by
    refine ⟨rfl, rfl, fun n => ?_, fun _ h => h, fun _ _ h => h⟩
    show update s3.ntfnState ntfn .waiting n = _ ↔ _
    by_cases e : n = ntfn
    · subst e
      rw [update_self]
      exact iff_of_false nofun fun e => hs ((h.active n).mp e)
    · rw [update_of_ne e]
  exact (h.trans h4).trans (quiet_of_eq rfl rfl rfl rfl rfl)

lemma receiveSignal_tame {b} : Tame P s (s.receiveSignal cfg t ntfn b) := by
  have hblock (hs : s.ntfnState ntfn ≠ .active) :
      Quiet s (if b then (s.blockOnNtfn ntfn t).maybeReturnSchedContext cfg ntfn t else
        s.doNBRecvFailedTransfer t) := by
    split
    · exact (s.blockOnNtfn_quiet hs).trans (maybeReturnSchedContext_quiet cfg _)
    · exact quiet_of_eq rfl rfl rfl rfl rfl
  unfold receiveSignal
  split
  · rename_i hs
    exact (hblock (by simp [hs])).tame
  · rename_i hs
    exact (hblock (by simp [hs])).tame
  · rename_i hs
    extract_lets s1
    exact (s.takeSignal_tame cfg hs).trans (s1.unblockSporadic_same cfg _).toSameObj.quiet.tame

lemma completeSignal_tame : Tame P s (s.completeSignal cfg ntfn t) := by
  unfold completeSignal
  split
  · rename_i hs
    extract_lets s1
    have h1 : Tame P s s1 := s.takeSignal_tame cfg hs
    split
    · exact h1.trans (s1.unblockSporadic_same cfg _).toSameObj.quiet.tame
    · exact h1.trans (s1.assertSporadic_same _).toSameObj.quiet.tame
  · exact s.fail_same.toSameObj.quiet.tame

/-- A thread without a pending signal waits for a message. -/
lemma blockOnReceive_tame {ep reply} (hs : ∀ n, s.ntfnBoundTCB n = some t → s.ntfnState n ≠ .active) :
    Tame P s (s.blockOnReceive t ep reply) := by
  unfold blockOnReceive
  extract_lets s1 s2 s3 s4 r s5
  have h2 : Tame P s s2 := by
    refine ⟨fun hr n => ⟨(hr n).prompt, (hr n).active, (hr n).inactive⟩, fun _ hh n u hn hb => ?_⟩
    have hn' : s.ntfnState n = .active := hn
    have hb' : s.ntfnBoundTCB n = some u := hb
    by_cases e : u = t
    · subst e
      exact absurd hn' (hs n hb')
    · show update s.tsType t .blockedOnReceive u ≠ _
      rw [update_of_ne e]
      exact hh n u hn' hb'
  have h3 : Quiet s2 s3 := (s2.scheduleTCB_same t).toSameObj.quiet
  have h4 : Quiet s3 s4 := by
    unfold s4
    split
    · exact quiet_of_eq rfl rfl rfl rfl rfl
    · exact .refl s3
  have h5 : Quiet s4 (s5.setEpQueue ep r.2) := quiet_of_eq rfl rfl rfl rfl rfl
  exact h2.trans ((h3.trans h4).trans h5).tame

lemma linkCaller_quiet {thread reply} : Quiet s (s.linkCaller cfg t thread reply) := by
  unfold linkCaller
  extract_lets canGrant canGrantReply s1
  have hstop : Quiet s (s.setThreadState t .inactive) := s.setThreadState_quiet (by simp)
  split
  · split
    · split
      · exact (s.replyPush_calm cfg).toQuiet
      · exact hstop
    · exact hstop
  · have h1 : Quiet s s1 := (s.setThreadState_quiet (by simp)).trans (possibleSwitchTo_same cfg _ t).toSameObj.quiet
    exact h1.trans (s1.assert_same _).toSameObj.quiet

lemma receiveFromSender_quiet {thread ep reply} : Quiet s (s.receiveFromSender cfg thread ep reply t) := by
  unfold receiveFromSender
  extract_lets s1 s2 s3
  have h1 : Quiet s s1 := (s.epDequeue_calm (X := ∅)).toQuiet
  have h2 : Quiet s1 s2 := quiet_of_eq rfl rfl rfl rfl rfl
  have h3 : Quiet s2 s3 := (s2.unblockSporadicAssert_same cfg _).toSameObj.quiet
  exact ((h1.trans h2).trans h3).trans (s3.linkCaller_quiet cfg)

lemma receiveOnEndpoint_tame {ep b reply} (hs : ∀ n, s.ntfnBoundTCB n = some t → s.ntfnState n ≠ .active) :
    Tame P s (s.receiveOnEndpoint cfg t ep b reply) := by
  have hblock : Tame P s (if b then s.blockOnReceive t ep reply else s.doNBRecvFailedTransfer t) := by
    split
    · exact s.blockOnReceive_tame hs
    · have h : Quiet s (s.doNBRecvFailedTransfer t) := quiet_of_eq rfl rfl rfl rfl rfl
      exact h.tame
  unfold receiveOnEndpoint
  split
  · exact hblock
  · exact hblock
  · split
    · exact (s.receiveFromSender_quiet cfg).tame
    · exact s.fail_same.toSameObj.quiet.tame

end Kernel

namespace ObjInv

variable {cfg : KernelConfig} {s s' : Kernel} {t : TcbPtr} {ntfn : NtfnPtr} {P : Prop}

/-- The badge is delivered, or is or'ed to the pending ones. -/
lemma sendSignal_tame {badge} (h : s.ObjInv []) : Kernel.Tame P s (s.sendSignal cfg ntfn badge) := by
  unfold Kernel.sendSignal
  extract_lets s1
  have h1 : s1.ObjInv [] := h
  split
  · rename_i hs
    have hs' : s.ntfnState ntfn ≠ .active := fun e => by
      have : s.ntfnState ntfn = .idle := hs
      simp [this] at e
    split
    · rename_i u hb
      split
      · exact s.signalThread_tame cfg hs' (h1.cancelIPC_calm (by simp)).toQuiet
      · rename_i hts
        refine s.ntfnSetActive_tame hs' fun v hv => ?_
        obtain rfl := Option.some.inj (hb.symm.trans hv)
        exact hts
    · rename_i hb
      refine s.ntfnSetActive_tame hs' fun v hv => ?_
      cases hb.symm.trans hv
  · rename_i hs
    have hs' : s.ntfnState ntfn ≠ .active := fun e => by
      have : s.ntfnState ntfn = .waiting := hs
      simp [this] at e
    split
    · exact s.signalThread_tame cfg hs' (s1.ntfnDequeue_calm (X := ∅) hs).toQuiet
    · rename_i hq
      -- a waiting notification has a thread in its queue
      obtain ⟨xs, q, l⟩ := h1.waiting
      have hhead := (q.rep (.notification ntfn)).head
      have hne := (l.waiting ntfn).mp hs
      cases hx : xs (.notification ntfn) with
      | nil => exact absurd hx hne
      | cons u us =>
        rw [hx] at hhead
        cases hq.symm.trans hhead
  · rename_i hs
    exact s.orSignal_tame hs

/-- The thread has no notification, or its notification has no signal for it. -/
lemma receiveIPC_tame {ep b reply} (h : s.ObjInv []) (ht : s.isRunnable t = true) :
    Kernel.Tame P s (s.receiveIPC cfg t ep b reply) := by
  unfold Kernel.receiveIPC
  extract_lets s1
  have e1 : Kernel.Quiet s s1 := by
    unfold s1 Kernel.freeReply
    split
    · exact .refl s
    · split
      · split
        · exact (h.cancelIPC_calm (by simp)).toQuiet
        · exact .refl s
      · exact .refl s
  have h1 : s1.ObjInv [] := (h.freeReply (h.isRunnable_loose ht) (ThreadState.plain_of_isRunnable ht)).1
  have hbound : ∀ n, s1.ntfnBoundTCB n = some t → s1.tcbBoundNotification t = some n :=
    fun n => (h1.bound.ntfn t n).mpr
  refine e1.tame.trans ?_
  split
  · rename_i n hn
    split
    · exact s1.completeSignal_tame cfg
    · rename_i hs
      extract_lets s2
      have e2 : Kernel.Quiet s1 s2 := by
        unfold s2
        split
        · exact s1.maybeReturnSchedContext_quiet cfg
        · exact .refl s1
      refine e2.tame.trans (s2.receiveOnEndpoint_tame cfg fun m hm ha => hs ?_)
      obtain rfl := Option.some.inj (hn.symm.trans (hbound m (e2.bound m t hm)))
      exact (e2.active n).mp ha
  · rename_i hn
    refine s1.receiveOnEndpoint_tame cfg fun m hm => ?_
    cases hn.symm.trans (hbound m hm)

end ObjInv

end NexsKernel.Mcs
