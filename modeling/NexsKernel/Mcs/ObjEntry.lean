import NexsKernel.Mcs.ObjInvoke

/-!
# The objects in every reachable state

A combined system call invokes a capability and then receives with the thread that made it, so that the first
part must leave that thread runnable. With this, the invariant of the objects holds at every exit of the
kernel.
-/

namespace NexsKernel.Mcs

namespace Kernel

variable (cfg : KernelConfig) (s : Kernel) {t u : TcbPtr}

/-- The current thread is the same one, and it can still run. -/
structure Onward (s s' : Kernel) : Prop where
  cur : s'.ksCurThread = s.ksCurThread
  run : s.isRunnable s.ksCurThread = true → s'.isRunnable s.ksCurThread = true

variable {s}

lemma Onward.trans {s' s''} (h : Onward s s') (h' : Onward s' s'') : Onward s s'' := by
  refine ⟨h'.cur.trans h.cur, fun hr => ?_⟩
  have := h'.run (h.cur.symm ▸ h.run hr)
  rwa [h.cur] at this

lemma Frame.onward {X s'} (h : Frame X s s') (hX : s.ksCurThread ∉ X) : Onward s s' :=
  ⟨h.cur, fun hr => (h.isRunnable hX).trans hr⟩

lemma SameObjects.onward {s'} (h : SameObjects s s') : Onward s s' :=
  (h.calm (X := ∅)).toFrame.onward (Set.notMem_empty _)

variable (s)

lemma blockOnSend_frame {ep badge canGrant canGrantReply doCall} :
    Frame {t} s (s.blockOnSend t ep badge canGrant canGrantReply doCall) := by
  unfold blockOnSend
  extract_lets s1 s2 s3 r s4
  have h2 : Frame {t} s s2 :=
    ⟨rfl, rfl, fun u hu => Function.update_of_ne hu _ _, fun _ _ => rfl⟩
  have h3 : Frame {t} s s3 := h2.trans (s2.scheduleTCB_same t).calm.toFrame
  exact h3.trans ⟨rfl, rfl, fun _ _ => rfl, fun _ _ => rfl⟩

/-- A sender that neither calls nor faults keeps its state. -/
lemma linkSender_frame {X dest reply canGrant canGrantReply canDonate} (hf : s.tcbFault t = .nullFault) :
    Calm X s (s.linkSender cfg t dest reply false canGrant canGrantReply canDonate) := by
  unfold linkSender
  rw [if_neg (by simp [hf])]
  split
  · exact s.schedContextDonate_calm cfg
  · exact .refl s

lemma wakeReceiver_calm : Calm {t} s (s.wakeReceiver cfg t) :=
  (s.setTsType_calm (by simp)).trans (s.wakeReceiver_same cfg t).calm

/-- What `sendToReceiver` does before the sender changes its state. -/
lemma sendToReceiver_start {ep badge} :
    Calm {u} s (match s.replyObject u with
      | some r => Kernel.replyUnlink ((s.epDequeue ep u).doIPCTransfer u badge) r u
      | none => (s.epDequeue ep u).doIPCTransfer u badge) := by
  have h2 : Calm {u} s ((s.epDequeue ep u).doIPCTransfer u badge) :=
    s.epDequeue_calm.trans (SameObjects.calm ⟨⟨rfl, rfl, rfl⟩, rfl⟩)
  split
  · exact h2.trans (replyUnlink_calm _)
  · exact h2

lemma sendToReceiver_calm {ep doCall badge canGrant canGrantReply canDonate} :
    Calm {t, u} s (s.sendToReceiver cfg doCall badge canGrant canGrantReply canDonate t ep u) := by
  unfold sendToReceiver
  extract_lets s1 s2 reply s3 s4
  have h3 : Calm {t, u} s s3 := (s.sendToReceiver_start (u := u)).mono (by simp)
  have h4 : Calm {t, u} s3 s4 := (s3.linkSender_calm cfg).mono (by simp)
  exact (h3.trans h4).trans ((s4.wakeReceiver_calm cfg).mono (by simp))

lemma maybeDonateSchedContext_calm {X ntfn} : Calm X s (s.maybeDonateSchedContext cfg t ntfn) := by
  unfold maybeDonateSchedContext
  split
  · split
    · split
      · exact (s.schedContextDonate_calm cfg).trans (schedContextResume_same cfg _ _).calm
      · exact .refl s
    · exact .refl s
  · exact .refl s

lemma signalThread_frame {ntfn badge} : Frame {t} s (s.signalThread cfg ntfn t badge) := by
  unfold signalThread
  extract_lets s1 s2 s3 s4
  have h1 : Frame {t} s s1 := (s.setThreadState_calm (by simp)).toFrame
  have h2 : Frame {t} s1 s2 := ⟨rfl, rfl, fun _ _ => rfl, fun _ _ => rfl⟩
  have h3 : Frame {t} s2 s3 := (s2.maybeDonateSchedContext_calm cfg).toFrame
  have h4 : Frame {t} s3 s4 := by
    unfold s4
    split
    · exact (s3.possibleSwitchTo_same cfg t).calm.toFrame
    · exact (Calm.refl s3).toFrame
  exact ((h1.trans h2).trans (h3.trans h4)).trans (s4.unblockSporadicAssert_same cfg _).calm.toFrame

lemma restartWaiter_onward : Onward s (s.restartWaiter cfg t) := by
  refine ⟨(s.restartWaiter_same cfg t).cur, fun hr => ?_⟩
  unfold isRunnable
  have e : (s.restartWaiter cfg t).tsType = Function.update s.tsType t .restart :=
    congrArg (fun o => o.tsType) (s.restartWaiter_same cfg t).obj
  rw [e, Function.update_apply]
  split
  · rfl
  · exact hr

lemma cancelAllSignals_onward {ntfn} : Onward s (s.cancelAllSignals cfg ntfn) := by
  have loop : ∀ fuel (s : Kernel) p, Onward s (restartWaiters cfg fuel s p) := by
    intro fuel
    induction fuel with
    | zero => exact fun s _ => s.fail_same.onward
    | succ fuel ih =>
      rintro s (_ | t)
      · exact (SameObjects.refl s).onward
      · exact (s.restartWaiter_onward cfg).trans (ih _ _)
  unfold cancelAllSignals
  split
  · extract_lets head s1 s2
    have h2 : Onward s s2 := ⟨rfl, fun hr => hr⟩
    exact (h2.trans (loop walkFuel s2 head)).trans (rescheduleRequired_same cfg _).onward
  · exact (SameObjects.refl s).onward

lemma finaliseNotification_onward {ntfn} : Onward s (s.finaliseNotification cfg ntfn) := by
  unfold finaliseNotification
  extract_lets s1 s2 s3
  have h1 : Onward s s1 := by
    unfold s1 schedContextMaybeUnbindNtfn
    split
    · unfold schedContextUnbindNtfn
      split
      · exact ⟨rfl, fun hr => hr⟩
      · exact ⟨rfl, fun hr => hr⟩
    · exact ⟨rfl, fun hr => hr⟩
  have h2 : Onward s1 s2 := by
    unfold s2 unbindMaybeNotification
    split
    · exact ⟨rfl, fun hr => hr⟩
    · exact ⟨rfl, fun hr => hr⟩
  have h3 : Onward s2 s3 := s2.cancelAllSignals_onward cfg
  exact (h1.trans h2).trans (h3.trans ⟨rfl, fun hr => hr⟩)

lemma handleInvocation_error {call block canDonate first inv e}
    (h : s.decodeInvocation cfg block call canDonate first inv = .error e) :
    s.handleInvocation cfg call block canDonate first (.found inv) =
      (if call then s.setBadgeRegister s.ksCurThread 0 else s, false) := by
  unfold handleInvocation
  simp only [h]

lemma handleInvocation_ok {call block canDonate first inv} {p : Kernel × Bool}
    (h : s.decodeInvocation cfg block call canDonate first inv = .ok p) :
    s.handleInvocation cfg call block canDonate first (.found inv) =
      if p.2 then (p.1, true) else (p.1.finishInvocation s.ksCurThread call, false) := by
  unfold handleInvocation
  simp only [h]

end Kernel

namespace ObjInv

variable {cfg : KernelConfig} {s s' : Kernel} {t : TcbPtr} {sc : ScPtr}

lemma sendIPC_frame {ep blocking doCall badge canGrant canGrantReply canDonate} {L} (h : s.ObjInv L) :
    Kernel.Frame {u | u = t ∨ s.tsType u = .blockedOnReceive} s
      (s.sendIPC cfg blocking doCall badge canGrant canGrantReply canDonate t ep) := by
  have hblock : Kernel.Frame {u | u = t ∨ s.tsType u = .blockedOnReceive} s
      (if blocking then s.blockOnSend t ep badge canGrant canGrantReply doCall else s) := by
    split
    · exact s.blockOnSend_frame.mono fun u hu => .inl hu
    · exact (Kernel.Calm.refl s).toFrame
  unfold Kernel.sendIPC
  split
  · exact hblock
  · exact hblock
  · rename_i hs
    split
    · rename_i dest hq
      have hd := h.head_recv hs hq
      refine (s.sendToReceiver_calm cfg).toFrame.mono ?_
      rintro u (rfl | rfl)
      · exact .inl rfl
      · exact .inr hd
    · exact s.fail_same.calm.toFrame

/-- A runnable thread that is not the sender stays so. -/
lemma sendIPC_onward {ep blocking doCall badge canGrant canGrantReply canDonate} {L} (h : s.ObjInv L)
    (ht : s.ksCurThread ≠ t) (hc : s.isRunnable s.ksCurThread = true) :
    Kernel.Onward s (s.sendIPC cfg blocking doCall badge canGrant canGrantReply canDonate t ep) := by
  refine h.sendIPC_frame.onward ?_
  rintro (e | e)
  · exact ht e
  · simp [Kernel.isRunnable, e, ThreadState.isRunnable] at hc

/-- A non-blocking send without a fault leaves the sender runnable. -/
lemma nbSend_onward {ep badge canGrant canGrantReply canDonate} {L} (h : s.ObjInv L)
    (hf : s.tcbFault s.ksCurThread = .nullFault) (hc : s.isRunnable s.ksCurThread = true) :
    Kernel.Onward s (s.sendIPC cfg false false badge canGrant canGrantReply canDonate s.ksCurThread ep) := by
  unfold Kernel.sendIPC
  split
  · exact (Kernel.SameObjects.refl s).onward
  · exact (Kernel.SameObjects.refl s).onward
  · rename_i hs
    split
    · rename_i dest hq
      have hd := h.head_recv hs hq
      have hne : s.ksCurThread ∉ ({dest} : Set TcbPtr) := by
        rintro rfl
        simp [Kernel.isRunnable, hd, ThreadState.isRunnable] at hc
      unfold Kernel.sendToReceiver
      extract_lets s1 s2 reply s3 s4
      have h3 : Kernel.Calm {dest} s s3 := s.sendToReceiver_start
      have hf3 : s3.tcbFault s.ksCurThread = .nullFault := (h3.fault _ hne).trans hf
      have h4 : Kernel.Calm {dest} s3 s4 := s3.linkSender_frame cfg hf3
      exact ((h3.trans h4).trans (s4.wakeReceiver_calm cfg)).toFrame.onward hne
    · exact s.fail_same.onward

lemma sendSignal_onward {ntfn badge} (h : s.ObjInv []) (hc : s.isRunnable s.ksCurThread = true) :
    Kernel.Onward s (s.sendSignal cfg ntfn badge) := by
  have active : ∀ s' : Kernel, s'.tsType = s.tsType → s'.ksCurThread = s.ksCurThread → Kernel.Onward s s' :=
    fun s' e e' => ⟨e', fun hr => (congrArg (fun f => (f s.ksCurThread).isRunnable) e).trans hr⟩
  unfold Kernel.sendSignal
  extract_lets s1
  have h1 : s1.ObjInv [] := h
  have hc1 : s1.isRunnable s1.ksCurThread = true := hc
  split
  · split
    · rename_i t _
      split
      · rename_i hts
        have hne : s1.ksCurThread ∉ ({t} : Set TcbPtr) := by
          rintro rfl
          simp [Kernel.isRunnable, hts, ThreadState.isRunnable] at hc1
        have e : Kernel.Frame {t} s1 (s1.cancelIPC t) := (h1.cancelIPC_calm (by simp)).toFrame
        exact (active s1 rfl rfl).trans ((e.trans (Kernel.signalThread_frame cfg _)).onward hne)
      · exact active _ rfl rfl
    · exact active _ rfl rfl
  · rename_i hs
    split
    · rename_i dest hq
      have hw := (h1.waitsAt_ntfn_head hq).1
      have hne : s1.ksCurThread ∉ ({dest} : Set TcbPtr) := by
        rintro rfl
        rw [(ThreadState.plain_of_isRunnable hc1).waitsAt] at hw
        cases hw
      have e : Kernel.Frame {dest} s1 (s1.ntfnDequeue ntfn dest) := (s1.ntfnDequeue_calm hs).toFrame
      exact (active s1 rfl rfl).trans ((e.trans (Kernel.signalThread_frame cfg _)).onward hne)
    · exact active _ rfl rfl
  · exact active _ rfl rfl

lemma handleTimeout_onward (h : s.ObjInv []) (ht : s.isRunnable t = true) (hne : s.ksCurThread ≠ t)
    (hc : s.isRunnable s.ksCurThread = true) : Kernel.Onward s (s.handleTimeout cfg t) := by
  have hl := h.isRunnable_loose ht
  unfold Kernel.handleTimeout Kernel.sendFaultIPC
  extract_lets s1
  split
  · extract_lets s2 s3 s4
    have h4 : s4.ObjInv [t] :=
      ObjInv.setTcbFault (s := s3) (h.ignore hl.waitsAt) (.inr (by simp))
    have e : Kernel.Onward s s4 := ⟨rfl, fun hr => hr⟩
    exact e.trans (h4.sendIPC_onward hne hc)
  · exact ⟨rfl, fun hr => hr⟩

/-- A reply wakes its caller and keeps the invariant. -/
lemma doReplyTransfer_onward {r b} (h : s.ObjInv []) (hc : s.isRunnable s.ksCurThread = true) :
    Kernel.Onward s (s.doReplyTransfer cfg r b) := by
  unfold Kernel.doReplyTransfer
  split
  · rename_i u hu
    split
    · rename_i hts
      extract_lets s1 s2 s3 s4 f s5
      have hne : s.ksCurThread ≠ u := by
        rintro rfl
        simp [Kernel.isRunnable, hts, ThreadState.isRunnable] at hc
      have h1 : s1.ObjInv [] := h.replyRemove hu hts
      have e1 : Kernel.Frame {u} s s1 := (s.replyRemove_calm cfg).toFrame
      have hl1 : s1.Loose u := by
        refine h1.loose ?_ ((congrArg (fun o => o.tcbExists u) e1.objects).trans
          (h.tcbExists (by simp [hts]) (by simp [hts])))
        unfold s1
        rw [s.replyRemove_self cfg]
        trivial
      have e4 : s1.SameObjects s4 :=
        (⟨⟨rfl, rfl, rfl⟩, rfl⟩ : s1.SameObjects s3).trans (s3.unblockSporadic_same cfg _)
      have h4 : s4.ObjInv [] := h1.same e4.toSameObj
      have hl4 : s4.Loose u := by
        obtain ⟨r, c, n, u, f, e⟩ := e4.exists_eq
        rw [e]
        exact ⟨hl1.waitsAt, hl1.noReply, hl1.tcbExists⟩
      have h5 : s5.ObjInv [] := h4.replyToThread hl4
      have e5 : Kernel.Frame {u} s4 s5 := by
        unfold s5 Kernel.replyToThread
        split
        · have e : Kernel.Frame {u} s4 (s4.doIPCTransfer u 0) := ⟨rfl, rfl, fun _ _ => rfl, fun _ _ => rfl⟩
          exact e.trans (Kernel.setThreadState_calm _ (by simp)).toFrame
        · exact s4.setTcbFault_calm.toFrame.trans
            (Kernel.setThreadState_calm _ (by split <;> simp)).toFrame
      have e : Kernel.Onward s s5 := ((e1.trans e4.calm.toFrame).trans e5).onward hne
      have hc5 : s5.isRunnable s5.ksCurThread = true := by
        rw [e.cur]
        exact e.run hc
      refine e.trans ?_
      clear_value s5
      unfold Kernel.resumeReceiver
      split
      · split
        · rename_i hr
          split
          · exact (s5.possibleSwitchTo_same cfg u).onward
          · split
            · exact h5.handleTimeout_onward hr (by rwa [e.cur]) hc5
            · exact (s5.postpone_same cfg _).onward
        · exact (Kernel.SameObjects.refl s5).onward
      · exact (Kernel.SameObjects.refl s5).onward
    · exact (Kernel.SameObjects.refl s).onward
  · exact (Kernel.SameObjects.refl s).onward

lemma capEffect_onward {e : CapEffect} (h : s.ObjInv []) (hc : s.isRunnable s.ksCurThread = true)
    (he : e.Legal cfg s) (hf : e.InFirstPhase) : Kernel.Onward s (s.capEffect cfg e) := by
  cases e with
  | finalise o =>
    cases o with
    | notification ntfn => exact s.finaliseNotification_onward cfg
    | _ => cases hf
  | create o n =>
    cases o with
    | tcb t =>
      have hne : s.ksCurThread ≠ t := by
        rintro rfl
        exact he.1 (h.isRunnable_loose hc).tcbExists
      refine ⟨rfl, fun hr => ?_⟩
      show (Function.update s.tsType t .inactive s.ksCurThread).isRunnable = true
      rw [Function.update_of_ne hne]
      exact hr
    | _ => exact ⟨rfl, fun hr => hr⟩
  | preemptionPoint now => exact ⟨rfl, fun hr => hr⟩
  | _ => cases hf

lemma capEffects_onward {es : List CapEffect} (h : s.ObjInv []) (hc : s.isRunnable s.ksCurThread = true)
    (hes : effectsLegal cfg es s) (hf : ∀ e ∈ es, e.InFirstPhase) :
    Kernel.Onward s (Kernel.capEffects cfg es s) := by
  induction es generalizing s with
  | nil => exact (Kernel.SameObjects.refl s).onward
  | cons e es ih =>
    have e1 := h.capEffect_onward hc hes.1 (hf e (by simp))
    refine e1.trans (ih (h.capEffect hes.1) ?_ hes.2 fun e' he' => hf e' (by simp [he']))
    rw [e1.cur]
    exact e1.run hc

lemma invokeConfigureFlags {args} (h : s.ObjInv []) : (s.invokeConfigureFlags cfg sc args).ObjInv [] := by
  unfold Kernel.invokeConfigureFlags
  extract_lets thread s1 runnable s2 s3 s4
  clear_value thread
  have h1 : s1.ObjInv [] := by
    unfold s1
    split
    · rename_i t _
      unfold Kernel.stopForConfigure
      extract_lets s5 s6 r
      have h6 : s6.ObjInv [] :=
        (h.same (s.tcbReleaseRemove_same t).toSameObj).same (s5.tcbSchedDequeue_same cfg t).toSameObj
      split
      · have h7 : (r.1.assert r.2).ObjInv [] := h6.checkBudget
        exact h7.same (Kernel.commitTime_same cfg _).toSameObj
      · exact h6
    · exact h
  have h2 : s2.ObjInv [] := h1.same (s1.setSchedContext_same _ _).toSameObj
  have h3 : s3.ObjInv [] := h2
  have h4 : s4.ObjInv [] := by
    unfold s4
    split
    · rename_i t _
      unfold Kernel.resumeAfterConfigure
      extract_lets s5 s6
      have h5 : s5.ObjInv [] := h3.same (s3.schedContextResume_same cfg _).toSameObj
      have h6 : s6.ObjInv [] := by
        unfold s6
        split
        · exact h5.same (s5.possibleSwitchTo_same cfg t).toSameObj
        · exact h5
      split
      · exact h6.same (s6.rescheduleRequired_same cfg).toSameObj
      · exact h6
    · exact h3
  exact h4

lemma decodeDomainInvocation {inv : DomainInvocation} (h : s.ObjInv []) (hc : s.isRunnable s.ksCurThread = true)
    (e : s.decodeDomainInvocation cfg inv = .ok s') : s'.ObjInv [] := by
  have h1 := h.restartCurrent hc
  cases inv with
  | set t dom =>
    obtain ⟨-, e⟩ := refuseIf_bind.mp e
    cases e
    exact h1.setDomain dom
  | scheduleConfigure index domain duration =>
    obtain ⟨-, e⟩ := refuseIf_bind.mp e
    obtain ⟨-, e⟩ := refuseIf_bind.mp e
    obtain ⟨-, e⟩ := refuseIf_bind.mp e
    obtain ⟨-, e⟩ := refuseIf_bind.mp e
    obtain ⟨-, e⟩ := refuseIf_bind.mp e
    cases e
    exact h1
  | scheduleSetStart index =>
    obtain ⟨-, e⟩ := refuseIf_bind.mp e
    obtain ⟨-, e⟩ := refuseIf_bind.mp e
    cases e
    have h2 : Kernel.ObjInv { s.restartCurrent with
        ksDomScheduleStart := index, ksDomainTime := 0, ksDomScheduleIdx := cfg.domScheduleLength - 2 } [] := h1
    exact h2.same (Kernel.rescheduleRequired_same cfg _).toSameObj

/-- Every invocation keeps the invariant. -/
lemma decodeInvocation {inv : Invocation} {block call canDonate first b} (h : s.ObjInv [])
    (hc : s.isRunnable s.ksCurThread = true) (hl : inv.Legal cfg s)
    (e : s.decodeInvocation cfg block call canDonate first inv = .ok (s', b)) : s'.ObjInv [] := by
  have h1 := h.restartCurrent hc
  have ho := s.restartCurrent_ipcOnly.objects
  have hcur := s.restartCurrent_cur
  have hrun : s.restartCurrent.isRunnable s.restartCurrent.ksCurThread = true := by
    rw [hcur]
    exact restartCurrent_runnable
  have hl1 := h1.isRunnable_loose hrun
  have hf1 := h1.isRunnable_fault (by simp) hrun
  cases inv with
  | refused e' => cases e
  | endpoint cap =>
    obtain ⟨-, e⟩ := refuseIf_bind.mp e
    cases e
    exact (h1.ignore hl1.waitsAt).sendIPC hl1 (by rw [ho]; exact hl) fun _ => hf1
  | notification cap =>
    obtain ⟨-, e⟩ := refuseIf_bind.mp e
    cases e
    exact h1.sendSignal
  | reply cap restart =>
    cases e
    exact h1.doReplyTransfer
  | tcb t inv =>
    obtain ⟨-, e⟩ := refuseIf_bind.mp e
    exact h.decodeTCBInvocation hc hl.1 hl.2 e
  | domain inv =>
    obtain ⟨-, e⟩ := refuseIf_bind.mp e
    obtain ⟨s1, e1, e⟩ := bind_eq_ok.mp e
    cases e
    exact h.decodeDomainInvocation hc e1
  | schedControl core length args target =>
    obtain ⟨-, e⟩ := refuseIf_bind.mp e
    obtain ⟨s1, e1, e⟩ := bind_eq_ok.mp e
    cases e
    obtain ⟨c, -, e2⟩ := bind_eq_ok.mp e1
    cases target with
    | none => cases e2
    | some sc =>
      cases e2
      exact h1.invokeConfigureFlags
  | schedContext sc inv =>
    obtain ⟨-, e⟩ := refuseIf_bind.mp e
    obtain ⟨s1, e1, e⟩ := bind_eq_ok.mp e
    cases e
    exact h.decodeSchedContextInvocation hc hl.1 hl.2 e1
  | cancelBadgedSends cap =>
    obtain ⟨-, e⟩ := refuseIf_bind.mp e
    obtain ⟨-, e⟩ := refuseIf_bind.mp e
    cases e
    split
    · exact h1.cancelBadgedSends
    · exact h1
  | capOperation phase effects outcome =>
    obtain ⟨-, e⟩ := refuseIf_bind.mp e
    have h2 : ((Kernel.capEffects cfg effects s.restartCurrent).capOutcome cfg outcome).1.ObjInv [] :=
      (h1.capEffects hl.1.1).capOutcome
    rw [Except.ok.inj e] at h2
    exact h2

/-- An invocation in the first phase of a combined system call. -/
lemma decodeInvocation_onward {inv : Invocation} {b} (h : s.ObjInv []) (hc : s.isRunnable s.ksCurThread = true)
    (hl : inv.Legal cfg s) (e : s.decodeInvocation cfg false false true true inv = .ok (s', b)) :
    Kernel.Onward s s' := by
  have h1 := h.restartCurrent hc
  have e1 : Kernel.Onward s s.restartCurrent := ⟨s.restartCurrent_cur, fun _ => restartCurrent_runnable⟩
  have hrun : s.restartCurrent.isRunnable s.restartCurrent.ksCurThread = true := by
    rw [e1.cur]
    exact restartCurrent_runnable
  refine e1.trans ?_
  cases inv with
  | refused e' => cases e
  | endpoint cap =>
    obtain ⟨-, e⟩ := refuseIf_bind.mp e
    cases e
    exact h1.nbSend_onward (h1.isRunnable_fault (by simp) hrun) hrun
  | notification cap =>
    obtain ⟨-, e⟩ := refuseIf_bind.mp e
    cases e
    exact h1.sendSignal_onward hrun
  | reply cap restart =>
    cases e
    exact h1.doReplyTransfer_onward hrun
  | capOperation phase effects outcome =>
    obtain ⟨hp, e⟩ := refuseIf_bind.mp e
    have hphase : phase = true := by simpa using hp
    have e2 := h1.capEffects_onward hrun hl.1.1 (hl.2 hphase)
    have e3 : Kernel.Onward s.restartCurrent
        ((Kernel.capEffects cfg effects s.restartCurrent).capOutcome cfg outcome).1 := by
      cases outcome with
      | done => exact e2
      | preempted now => exact e2.trans (Kernel.updateTimestamp_same cfg _ now).onward
    rw [Except.ok.inj e] at e3
    exact e3
  | _ => exact absurd rfl (refuseIf_bind.mp e).1

lemma finishInvocation {call} (h : s.ObjInv []) : (s.finishInvocation t call).ObjInv [] := by
  unfold Kernel.finishInvocation
  split
  · rename_i hts
    extract_lets s1
    have h1 : s1.ObjInv [] ∧ s1.tsType t = .restart := by
      unfold s1
      split <;> exact ⟨h, hts⟩
    exact h1.1.setRunning (by simp [Kernel.isRunnable, h1.2, ThreadState.isRunnable])
  · exact h

lemma handleInvocation {l : InvokeLookup} {call block canDonate first} (h : s.ObjInv [])
    (hc : s.isRunnable s.ksCurThread = true) (hl : l.Legal cfg s) :
    (s.handleInvocation cfg call block canDonate first l).1.ObjInv [] := by
  cases l with
  | failed =>
    unfold Kernel.handleInvocation
    dsimp only
    split
    · exact h.handleFault hc
    · exact h
  | found inv =>
    cases hd : s.decodeInvocation cfg block call canDonate first inv with
    | error e =>
      rw [Kernel.handleInvocation_error cfg s hd]
      dsimp only
      split <;> exact h
    | ok p =>
      have h' := h.decodeInvocation hc (hl inv rfl) hd
      rw [Kernel.handleInvocation_ok cfg s hd]
      split
      · exact h'
      · exact h'.finishInvocation

lemma finishInvocation_onward {call} : Kernel.Onward s (s.finishInvocation t call) := by
  unfold Kernel.finishInvocation
  split
  · extract_lets s1
    have e1 : Kernel.Onward s s1 := by
      unfold s1
      split <;> exact ⟨rfl, fun hr => hr⟩
    have e2 : Kernel.Frame {t} s1 (s1.setThreadState t .running) := (s1.setThreadState_calm (by simp)).toFrame
    refine e1.trans ⟨e2.cur, fun hr => ?_⟩
    by_cases e : s1.ksCurThread = t
    · rw [e]
      show ((s1.setThreadState t .running).tsType t).isRunnable = true
      rw [s1.setThreadState_self]
      rfl
    · exact (e2.isRunnable e).trans hr
  · exact (Kernel.SameObjects.refl s).onward

/-- The thread can receive after the first phase. -/
lemma handleInvocation_onward {l : InvokeLookup} (h : s.ObjInv []) (hc : s.isRunnable s.ksCurThread = true)
    (hl : l.Legal cfg s) : Kernel.Onward s (s.handleInvocation cfg false false true true l).1 := by
  cases l with
  | failed => exact (Kernel.SameObjects.refl s).onward
  | found inv =>
    cases hd : s.decodeInvocation cfg false false true true inv with
    | error e =>
      rw [Kernel.handleInvocation_error cfg s hd]
      exact (Kernel.SameObjects.refl s).onward
    | ok p =>
      have h' := h.decodeInvocation_onward hc (hl inv rfl) hd
      rw [Kernel.handleInvocation_ok cfg s hd]
      split
      · exact h'
      · exact h'.trans finishInvocation_onward

lemma handleRecv {block canReply} {r : RecvLookup} (h : s.ObjInv []) (hc : s.isRunnable s.ksCurThread = true)
    (hr : r.Legal s) : (s.handleRecv cfg block canReply r).ObjInv [] := by
  have hfault : (s.handleFault cfg s.ksCurThread .capFault).ObjInv [] := h.handleFault hc
  unfold Kernel.handleRecv
  split
  · exact hfault
  · obtain ⟨hep, hreply⟩ := hr
    split
    · split
      · split
        · exact hfault
        · rename_i r
          refine h.receiveIPC hc hep fun r' hr' => ?_
          obtain rfl := Option.some.inj hr'
          exact hreply r rfl
      · exact h.receiveIPC hc hep (by simp)
    · exact hfault
  · split
    · exact h.receiveSignal (h.isRunnable_loose hc) (h.isRunnable_fault (by simp) hc) hr
    · exact hfault

lemma handleInterrupt {irq : Irq} (h : s.ObjInv []) : (s.handleInterrupt cfg irq).ObjInv [] := by
  unfold Kernel.handleInterrupt
  split
  · exact h
  · split
    · split
      · exact h.sendSignal
      · exact h
    · exact h
  · exact h

lemma afterPreemption {irq : Irq} (h : s.ObjInv []) : (s.afterPreemption cfg irq).ObjInv [] :=
  h.mcsPreemptionPoint.handleInterrupt

lemma invokeOnly {l : InvokeLookup} {call block canDonate irq} (h : s.ObjInv [])
    (hc : s.isRunnable s.ksCurThread = true) (hl : l.Legal cfg s) :
    (s.invokeOnly cfg call block canDonate l irq).ObjInv [] := by
  unfold Kernel.invokeOnly
  extract_lets r
  have h1 : r.1.ObjInv [] := h.handleInvocation hc hl
  split
  · exact h1.afterPreemption
  · exact h1

lemma invokeThenRecv {l : InvokeLookup} {rl : RecvLookup} {canReply irq} (h : s.ObjInv [])
    (hc : s.isRunnable s.ksCurThread = true)
    (hl : Syscall.Legal.invoke cfg s irq l false false true true rl.Legal) :
    (s.invokeThenRecv cfg canReply l rl irq).ObjInv [] := by
  unfold Kernel.invokeThenRecv
  extract_lets r
  have h1 : r.1.ObjInv [] := h.handleInvocation hc hl.1
  have e1 : Kernel.Onward s r.1 := h.handleInvocation_onward hc hl.1
  have hl2 := hl.2
  dsimp only at hl2
  split
  · exact h1.afterPreemption
  · rename_i hp
    change ¬ r.2 = true at hp
    change (if r.2 then _ else _) at hl2
    rw [if_neg hp] at hl2
    refine h1.handleRecv ?_ hl2
    rw [e1.cur]
    exact e1.run hc

lemma replyThenRecv {l : InvokeLookup} {rl : RecvLookup} (h : s.ObjInv []) (hc : s.isRunnable s.ksCurThread = true)
    (hl : l.Legal cfg s ∧ rl.Legal (s.handleInvocation cfg false false true true l).1) :
    (s.replyThenRecv cfg l rl).ObjInv [] := by
  unfold Kernel.replyThenRecv
  extract_lets r
  have h1 : r.1.ObjInv [] := h.handleInvocation hc hl.1
  have e1 : Kernel.Onward s r.1 := h.handleInvocation_onward hc hl.1
  have h2 : (r.1.assert (!r.2)).ObjInv [] := h1.same (r.1.assert_same _).toSameObj
  refine h2.handleRecv ?_ ?_
  · show r.1.isRunnable r.1.ksCurThread = true
    rw [e1.cur]
    exact e1.run hc
  · cases rl with
    | failed => trivial
    | endpoint cap reply => exact hl.2
    | notification cap => exact hl.2

lemma handleYield (h : s.ObjInv []) : (s.handleYield cfg).ObjInv [] := by
  unfold Kernel.handleYield
  extract_lets sc consumed s1
  have h1 : s1.ObjInv [] := h.chargeBudget
  exact h1

lemma performSyscall {sys : Syscall} {irq} (h : s.ObjInv []) (hc : s.isRunnable s.ksCurThread = true)
    (hl : sys.Legal cfg s irq) : (s.performSyscall cfg irq sys).ObjInv [] := by
  cases sys with
  | send l | nbSend l | call l => exact h.invokeOnly hc hl.1
  | recv r | nbRecv r | wait r | nbWait r => exact h.handleRecv hc hl
  | replyRecv l r => exact h.replyThenRecv hc hl
  | nbSendRecv l r | nbSendWait l r => exact h.invokeThenRecv hc hl
  | yield => exact h.handleYield

end ObjInv

end NexsKernel.Mcs
