import NexsKernel.Mcs.Signals

/-!
# Operations that do not signal

Messages, replies, faults, bindings and time leave the pending signals alone, and make no thread wait for a
message that did not before.
-/

namespace NexsKernel.Mcs

namespace Kernel

variable (cfg : KernelConfig) (s : Kernel) {t : TcbPtr}

/-- Stores that have nothing to do with signals. -/
lemma quiet_of_eq {s s' : Kernel} (h : s'.signals = s.signals) (hm : s'.ntfnMsgIdentifier = s.ntfnMsgIdentifier)
    (hs : s'.ntfnState = s.ntfnState) (ht : s'.tsType = s.tsType) (hb : s'.ntfnBoundTCB = s.ntfnBoundTCB) :
    Quiet s s' :=
  ⟨h, hm, fun _ => by rw [hs], fun _ h => by rwa [← ht], fun _ _ h => by rwa [← hb]⟩

lemma setThreadState_quiet {ts} (hts : ts ≠ .blockedOnReceive) : Quiet s (s.setThreadState t ts) :=
  (s.setThreadState_calm hts).toQuiet

/-! ## Messages -/

lemma blockOnSend_quiet {ep badge canGrant canGrantReply doCall} :
    Quiet s (s.blockOnSend t ep badge canGrant canGrantReply doCall) := by
  unfold blockOnSend
  extract_lets s1 s2 s3 r s4
  have h1 : Quiet s s1 := (s.setTsType_calm (by simp)).toQuiet
  have h2 : Quiet s1 s2 := quiet_of_eq rfl rfl rfl rfl rfl
  have h3 : Quiet s2 s3 := (s2.scheduleTCB_same t).toSameObj.quiet
  exact ((h1.trans h2).trans h3).trans (quiet_of_eq rfl rfl rfl rfl rfl)

lemma sendIPC_quiet {ep blocking doCall badge canGrant canGrantReply canDonate} :
    Quiet s (s.sendIPC cfg blocking doCall badge canGrant canGrantReply canDonate t ep) := by
  have hblock : Quiet s (if blocking then s.blockOnSend t ep badge canGrant canGrantReply doCall else s) := by
    split
    · exact s.blockOnSend_quiet
    · exact .refl s
  unfold sendIPC
  split
  · exact hblock
  · exact hblock
  · split
    · exact (s.sendToReceiver_calm cfg).toQuiet
    · exact s.fail_same.toSameObj.quiet

lemma sendFaultIPC_quiet {handler canDonate fault} : Quiet s (s.sendFaultIPC cfg t handler canDonate fault).1 := by
  unfold sendFaultIPC
  split
  · extract_lets s1 s2 s3
    have h2 : Quiet s s2 := quiet_of_eq rfl rfl rfl rfl rfl
    exact (h2.trans s2.setTcbFault_calm.toQuiet).trans (s3.sendIPC_quiet cfg)
  · exact .refl s

lemma handleFault_quiet {fault} : Quiet s (s.handleFault cfg t fault) := by
  unfold handleFault
  extract_lets r
  have h : Quiet s r.1 := s.sendFaultIPC_quiet cfg
  split
  · exact h
  · exact h.trans (r.1.setThreadState_quiet (by simp))

lemma handleTimeout_quiet : Quiet s (s.handleTimeout cfg t) := by
  unfold handleTimeout
  extract_lets s1
  have h1 : Quiet s s1 := quiet_of_eq rfl rfl rfl rfl rfl
  exact h1.trans (s1.sendFaultIPC_quiet cfg)

lemma resumeReceiver_quiet {fault} : Quiet s (s.resumeReceiver cfg t fault) := by
  unfold resumeReceiver
  split
  · split
    · split
      · exact (s.possibleSwitchTo_same cfg t).toSameObj.quiet
      · split
        · exact s.handleTimeout_quiet cfg
        · exact (s.postpone_same cfg _).toSameObj.quiet
    · exact .refl s
  · exact .refl s

lemma replyToThread_quiet {b} : Quiet s (s.replyToThread t b) := by
  unfold replyToThread
  split
  · have h : Quiet s (s.doIPCTransfer t 0) := quiet_of_eq rfl rfl rfl rfl rfl
    exact h.trans (setThreadState_quiet _ (by simp))
  · exact s.setTcbFault_calm.toQuiet.trans (setThreadState_quiet _ (by split <;> simp))

lemma doReplyTransfer_quiet {r b} : Quiet s (s.doReplyTransfer cfg r b) := by
  unfold doReplyTransfer
  split
  · split
    · extract_lets s1 s2 s3 s4 f s5
      have h1 : Quiet s s1 := (s.replyRemove_calm cfg).toQuiet
      have h3 : Quiet s1 s3 := quiet_of_eq rfl rfl rfl rfl rfl
      have h4 : Quiet s3 s4 := (s3.unblockSporadic_same cfg _).toSameObj.quiet
      have h5 : Quiet s4 s5 := s4.replyToThread_quiet
      exact (((h1.trans h3).trans h4).trans h5).trans (s5.resumeReceiver_quiet cfg)
    · exact .refl s
  · exact .refl s

/-! ## Cancelling -/

lemma cancelEachIPC_quiet (fuel : Nat) (p : Option TcbPtr) : Quiet s (cancelEachIPC cfg fuel s p) := by
  induction fuel generalizing s p with
  | zero => exact s.fail_same.toSameObj.quiet
  | succ fuel ih =>
    cases p with
    | none => exact .refl s
    | some t => exact (s.cancelOneIPC_calm cfg).toQuiet.trans (ih _ _)

lemma cancelAllIPC_quiet {ep} : Quiet s (s.cancelAllIPC cfg ep) := by
  unfold cancelAllIPC
  split
  · exact .refl s
  · extract_lets head s1 s2
    have h2 : Quiet s s2 := quiet_of_eq rfl rfl rfl rfl rfl
    exact (h2.trans (s2.cancelEachIPC_quiet cfg _ _)).trans (rescheduleRequired_same cfg _).toSameObj.quiet

lemma cancelEachBadged_quiet (badge : Word) (fuel : Nat) (q : Queue TcbPtr) (p : Option TcbPtr) :
    Quiet s (cancelEachBadged cfg badge fuel s q p).1 := by
  induction fuel generalizing s q p with
  | zero => exact s.fail_same.toSameObj.quiet
  | succ fuel ih =>
    cases p with
    | none => exact .refl s
    | some t =>
      simp only [cancelEachBadged]
      have h1 : Quiet s (s.assert (s.tsType t == .blockedOnSend)) := (s.assert_same _).toSameObj.quiet
      split
      · have h2 := (restartThreadIfNoFault_calm cfg (s.assert (s.tsType t == .blockedOnSend)) (t := t)).toQuiet
        have h3 : ∀ s1 : Kernel, Quiet s1 (s1.tcbEPDequeue t q).1 := fun _ => quiet_of_eq rfl rfl rfl rfl rfl
        exact ((h1.trans h2).trans (h3 _)).trans (ih _ _ _)
      · exact h1.trans (ih _ _ _)

lemma cancelBadgedSends_quiet {ep badge} : Quiet s (s.cancelBadgedSends cfg ep badge) := by
  unfold cancelBadgedSends
  split
  · exact .refl s
  · exact .refl s
  · extract_lets q s1 s2 r s3 s4
    have h2 : Quiet s s2 := quiet_of_eq rfl rfl rfl rfl rfl
    have h3 : Quiet s2 s3 := (s2.cancelEachBadged_quiet cfg badge walkFuel q q.head).trans
      (quiet_of_eq rfl rfl rfl rfl rfl)
    have h4 : Quiet s3 s4 := by
      unfold s4
      split
      · exact quiet_of_eq rfl rfl rfl rfl rfl
      · exact .refl s3
    exact ((h2.trans h3).trans h4).trans (s4.rescheduleRequired_same cfg).toSameObj.quiet

lemma restartWaiters_quiet (fuel : Nat) (p : Option TcbPtr) : Quiet s (restartWaiters cfg fuel s p) := by
  induction fuel generalizing s p with
  | zero => exact s.fail_same.toSameObj.quiet
  | succ fuel ih =>
    cases p with
    | none => exact .refl s
    | some t => exact (s.restartWaiter_calm cfg t).toQuiet.trans (ih _ _)

lemma cancelAllSignals_quiet {ntfn} : Quiet s (s.cancelAllSignals cfg ntfn) := by
  unfold cancelAllSignals
  split
  · rename_i hw
    extract_lets head s1 s2
    have h2 : Quiet s s2 := by
      refine ⟨rfl, rfl, fun n => ?_, fun _ h => h, fun _ _ h => h⟩
      show Function.update s.ntfnState ntfn .idle n = _ ↔ _
      by_cases e : n = ntfn
      · simp [e, hw]
      · rw [Function.update_of_ne e]
    exact (h2.trans (s2.restartWaiters_quiet cfg _ _)).trans (rescheduleRequired_same cfg _).toSameObj.quiet
  · exact .refl s

/-! ## Bindings -/

lemma schedContextUnbindTCB_quiet {sc} : Quiet s (s.schedContextUnbindTCB cfg sc) := by
  cases ht : s.scTcb sc with
  | none =>
    unfold schedContextUnbindTCB
    rw [ht]
    exact s.fail_same.toSameObj.quiet
  | some t =>
    have h1 : Quiet s { s with toBindings := s.toBindings.unbindSc t sc } := quiet_of_eq rfl rfl rfl rfl rfl
    exact h1.trans (s.schedContextUnbindTCB_same cfg ht).toSameObj.quiet

lemma schedContextUnbindAllTCBs_quiet {sc} : Quiet s (s.schedContextUnbindAllTCBs cfg sc) := by
  unfold schedContextUnbindAllTCBs
  split
  · exact s.schedContextUnbindTCB_quiet cfg
  · exact .refl s

lemma schedContextUnbindNtfn_quiet {sc} : Quiet s (s.schedContextUnbindNtfn sc) := by
  unfold schedContextUnbindNtfn
  split
  · exact quiet_of_eq rfl rfl rfl rfl rfl
  · exact .refl s

lemma schedContextMaybeUnbindNtfn_quiet {ntfn} : Quiet s (s.schedContextMaybeUnbindNtfn ntfn) := by
  unfold schedContextMaybeUnbindNtfn
  split
  · exact s.schedContextUnbindNtfn_quiet
  · exact .refl s

lemma schedContextUnbindReply_quiet {sc} : Quiet s (s.schedContextUnbindReply sc) := by
  unfold schedContextUnbindReply
  split
  · exact quiet_of_eq rfl rfl rfl rfl rfl
  · exact .refl s

lemma completeYieldFrom_quiet {sc} : Quiet s (s.completeYieldFrom cfg sc) := by
  unfold completeYieldFrom
  split
  · unfold schedContextCompleteYieldTo
    split
    · exact (s.setConsumed_same cfg _ _ _).toSameObj.quiet.trans
        (schedContextCancelYieldTo_calm (X := ∅) _).toQuiet
    · exact .refl s
  · exact .refl s

lemma doUnbindNotification_quiet {ntfn} : Quiet s (s.doUnbindNotification ntfn t) := by
  refine ⟨rfl, rfl, fun _ => .rfl, fun _ h => h, fun n u hn => ?_⟩
  change Function.update s.ntfnBoundTCB ntfn none n = some u at hn
  rw [Function.update_apply] at hn
  split at hn
  · cases hn
  · exact hn

lemma unbindMaybeNotification_quiet {ntfn} : Quiet s (s.unbindMaybeNotification ntfn) := by
  unfold unbindMaybeNotification
  split
  · exact s.doUnbindNotification_quiet
  · exact .refl s

lemma unbindNotification_quiet : Quiet s (s.unbindNotification t) := by
  unfold unbindNotification
  split
  · exact s.doUnbindNotification_quiet
  · exact .refl s

lemma schedContextBindTCB_quiet {sc} : Quiet s (s.schedContextBindTCB cfg sc t) := by
  unfold schedContextBindTCB
  extract_lets s1 s2 s3 s4 s5 s6 s7
  have h4 : Quiet s s4 := quiet_of_eq rfl rfl rfl rfl rfl
  have h5 : Quiet s4 s5 := (s4.assertSporadic_same _).toSameObj.quiet
  have h6 : Quiet s5 s6 := by
    unfold s6
    split
    · exact (s5.refillUnblockCheck_same cfg sc).toSameObj.quiet
    · exact .refl s5
  have h7 : Quiet s6 s7 := (s6.schedContextResume_same cfg _).toSameObj.quiet
  have h := ((h4.trans h5).trans h6).trans h7
  split
  · exact (h.trans (s7.tcbSchedEnqueue_same cfg t).toSameObj.quiet).trans
      (rescheduleRequired_same cfg _).toSameObj.quiet
  · exact h

lemma maybeReturnSchedContext_quiet {ntfn} : Quiet s (s.maybeReturnSchedContext cfg ntfn t) := by
  obtain ⟨b, hb, e⟩ := s.maybeReturnSchedContext_same cfg ntfn t
  have h : Quiet s { s with toBindings := b } := quiet_of_eq rfl rfl rfl rfl hb
  exact h.trans e.toSameObj.quiet

/-! ## Time -/

lemma endTimeslice_quiet {b} : Quiet s (s.endTimeslice cfg b) := by
  unfold endTimeslice
  split
  · exact s.handleTimeout_quiet cfg
  · split
    · exact (s.assert_same _).toSameObj.quiet.trans (tcbSchedAppend_same cfg _ _).toSameObj.quiet
    · exact (s.postpone_same cfg _).toSameObj.quiet

lemma chargeBudget_quiet {consumed b} : Quiet s (s.chargeBudget cfg consumed b) := by
  unfold chargeBudget
  extract_lets s1 s2 s3 s4 s5
  have h1 : Quiet s s1 := by
    unfold s1
    split
    · exact (s.setSchedContext_same _ _).toSameObj.quiet
    · exact .refl s
  have h2 : Quiet s1 s2 := quiet_of_eq rfl rfl rfl rfl rfl
  split
  · have h3 : Quiet s2 s3 := (s2.assert_same _).toSameObj.quiet
    have h4 : Quiet s3 s4 := s3.endTimeslice_quiet cfg
    have h5 : Quiet s4 s5 := (s4.rescheduleRequired_same cfg).toSameObj.quiet
    exact ((((h1.trans h2).trans h3).trans h4).trans h5).trans (quiet_of_eq rfl rfl rfl rfl rfl)
  · exact h1.trans h2

lemma checkBudget_quiet : Quiet s (s.checkBudget cfg).1 := by
  unfold checkBudget
  extract_lets s1
  have h1 : Quiet s s1 := (s.assert_same _).toSameObj.quiet
  split
  · exact h1
  · exact h1.trans (s1.chargeBudget_quiet cfg)

lemma checkBudgetRestart_quiet : Quiet s (s.checkBudgetRestart cfg).1 := by
  unfold checkBudgetRestart
  extract_lets s1 r s2
  have h2 : Quiet s s2 := (s.assert_same _).toSameObj.quiet.trans (s1.checkBudget_quiet cfg)
  split
  · exact h2.trans (s2.setThreadState_quiet (by simp))
  · exact h2

lemma mcsPreemptionPoint_quiet : Quiet s (s.mcsPreemptionPoint cfg) := by
  unfold mcsPreemptionPoint
  split
  · exact s.checkBudget_quiet cfg
  · split
    · exact s.chargeBudget_quiet cfg
    · exact quiet_of_eq rfl rfl rfl rfl rfl

lemma activateThread_quiet : Quiet s (s.activateThread cfg) := by
  unfold activateThread
  extract_lets s1 s2
  have h2 : Quiet s s2 := by
    unfold s2
    split
    · have h1 : Quiet s s1 := by
        unfold s1 schedContextCompleteYieldTo
        split
        · exact (s.setConsumed_same cfg _ _ _).toSameObj.quiet.trans
            (schedContextCancelYieldTo_calm (X := ∅) _).toQuiet
        · exact .refl s
      exact h1.trans (s1.assert_same _).toSameObj.quiet
    · exact .refl s
  split
  · exact h2
  · exact h2
  · exact h2.trans (s2.setThreadState_quiet (by simp))
  · exact h2.trans s2.fail_same.toSameObj.quiet

lemma exitKernel_quiet : Quiet s (s.exitKernel cfg) :=
  (s.schedule_same cfg).quiet.trans (activateThread_quiet cfg _)

/-! ## Invocations -/

lemma setPriority_quiet {prio} : Quiet s (s.setPriority cfg t prio) := by
  have h : Quiet s (s.setTcbPriority t prio) := quiet_of_eq rfl rfl rfl rfl rfl
  have hq : Quiet s ((((s.tcbSchedDequeue cfg t).setTcbPriority t prio).tcbSchedEnqueue cfg
    t).rescheduleRequired cfg) := by
    have h1 : Quiet s ((s.tcbSchedDequeue cfg t).setTcbPriority t prio) := quiet_of_eq rfl rfl rfl rfl rfl
    exact (h1.trans (tcbSchedEnqueue_same cfg _ t).toSameObj.quiet).trans
      (rescheduleRequired_same cfg _).toSameObj.quiet
  have hep : ∀ (s : Kernel) ep, Quiet s (s.reorderEP ep t) := fun _ _ => quiet_of_eq rfl rfl rfl rfl rfl
  have hntfn : ∀ (s : Kernel) n, Quiet s (s.reorderNTFN n t) := fun _ _ => quiet_of_eq rfl rfl rfl rfl rfl
  unfold setPriority
  split
  · split
    · exact hq
    · exact h
  · split
    · exact hq
    · exact h
  · exact h.trans (hep _ _)
  · exact h.trans (hep _ _)
  · exact h.trans (hntfn _ _)
  · exact h

lemma setDomain_quiet {dom} : Quiet s (s.setDomain cfg t dom) := by
  unfold setDomain
  extract_lets s1 s2 s3
  have h2 : Quiet s s2 := quiet_of_eq rfl rfl rfl rfl rfl
  have h3 : Quiet s2 s3 := by
    unfold s3
    split
    · exact (s2.tcbSchedEnqueue_same cfg t).toSameObj.quiet
    · exact .refl s2
  split
  · exact (h2.trans h3).trans (s3.rescheduleRequired_same cfg).toSameObj.quiet
  · exact h2.trans h3

lemma installFaultHandler_quiet {fh final} : Quiet s (s.installFaultHandler cfg t fh final) := by
  unfold installFaultHandler
  extract_lets s0 s1
  have h0 : Quiet s s0 := quiet_of_eq rfl rfl rfl rfl rfl
  have h1 : Quiet s s1 := by
    unfold s1
    split
    · split
      · exact (h0.trans (s0.cancelAllIPC_quiet cfg)).trans (quiet_of_eq rfl rfl rfl rfl rfl)
      · exact h0
    · exact .refl s
  split
  · exact h1.trans (quiet_of_eq rfl rfl rfl rfl rfl)
  · exact h1

lemma threadControlSchedContext_quiet {sc} : Quiet s (s.threadControlSchedContext cfg t sc) := by
  unfold threadControlSchedContext
  split
  · exact s.schedContextBindTCB_quiet cfg
  · split
    · exact s.schedContextUnbindTCB_quiet cfg
    · exact s.fail_same.toSameObj.quiet

lemma invokeYieldTo_quiet {sc call} : Quiet s (s.invokeYieldTo cfg sc t call) := by
  unfold invokeYieldTo
  extract_lets s1 s2 s3 r s4
  have h1 : Quiet s s1 := s.completeYieldFrom_quiet cfg
  have h3 : Quiet s1 s3 :=
    (s1.assert_same _).toSameObj.quiet.trans (s2.schedContextResume_same cfg _).toSameObj.quiet
  have h4 : Quiet s3 s4 := by
    unfold s4 r
    split
    · unfold yieldToThread
      split
      · exact quiet_of_eq rfl rfl rfl rfl rfl
      · extract_lets s5 s6 s7 s8
        have h8 : Quiet s3 s8 := quiet_of_eq rfl rfl rfl rfl rfl
        exact h8.trans (s8.rescheduleRequired_same cfg).toSameObj.quiet
    · exact .refl s3
  have h := (h1.trans h3).trans h4
  split
  · exact (h.trans (s4.setConsumed_same cfg _ _ _).toSameObj.quiet).trans (setThreadState_quiet _ (by simp))
  · exact h

lemma invokeConfigureFlags_quiet {sc args} : Quiet s (s.invokeConfigureFlags cfg sc args) := by
  unfold invokeConfigureFlags
  extract_lets thread s1 runnable s2 s3 s4
  clear_value thread
  have h1 : Quiet s s1 := by
    unfold s1
    split
    · unfold stopForConfigure
      extract_lets s5 s6 r
      have h6 : Quiet s s6 := quiet_of_eq rfl rfl rfl rfl rfl
      split
      · have h7 : Quiet s6 (r.1.assert r.2) := (s6.checkBudget_quiet cfg).trans (assert_same _ _).toSameObj.quiet
        exact (h6.trans h7).trans (commitTime_same cfg _).toSameObj.quiet
      · exact h6
    · exact .refl s
  have h2 : Quiet s1 s2 := (s1.setSchedContext_same _ _).toSameObj.quiet
  have h3 : Quiet s2 s3 := (s2.assert_same _).toSameObj.quiet
  have h4 : Quiet s3 s4 := by
    unfold s4
    split
    · unfold resumeAfterConfigure
      extract_lets s5 s6
      have h5 : Quiet s3 s5 := (s3.schedContextResume_same cfg _).toSameObj.quiet
      have h6 : Quiet s5 s6 := by
        unfold s6
        split
        · exact (s5.possibleSwitchTo_same cfg _).toSameObj.quiet
        · exact .refl s5
      split
      · exact (h5.trans h6).trans (s6.rescheduleRequired_same cfg).toSameObj.quiet
      · exact h5.trans h6
    · exact .refl s3
  exact (((h1.trans h2).trans h3).trans h4).trans (quiet_of_eq rfl rfl rfl rfl rfl)

end Kernel

end NexsKernel.Mcs
