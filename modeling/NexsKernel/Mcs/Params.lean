import NexsKernel.Mcs.Entry

/-!
# Priorities, domains and the domain schedule

The parameters that decide to which ready queue a thread belongs, and the schedule of the domains. Most of the
kernel only reads them: `f_params` says that `f` leaves them as they are.
-/

namespace NexsKernel.Mcs

/-- The priorities and domains of the threads, and the domain schedule with its position. -/
@[ext]
structure SchedParams where
  tcbPriority : TcbPtr → Nat
  tcbMCP : TcbPtr → Nat
  tcbDomain : TcbPtr → Nat
  tcbExists : TcbPtr → Bool
  ksCurDomain : Nat
  ksDomainTime : Nat
  ksDomScheduleIdx : Nat
  ksDomScheduleStart : Nat
  ksDomSchedule : Nat → DSchedule

namespace Kernel

/-- The parameters in a state of the kernel. -/
def schedParams (s : Kernel) : SchedParams where
  tcbPriority := s.tcbPriority
  tcbMCP := s.tcbMCP
  tcbDomain := s.tcbDomain
  tcbExists := s.tcbExists
  ksCurDomain := s.ksCurDomain
  ksDomainTime := s.ksDomainTime
  ksDomScheduleIdx := s.ksDomScheduleIdx
  ksDomScheduleStart := s.ksDomScheduleStart
  ksDomSchedule := s.ksDomSchedule

variable (cfg : KernelConfig) (s : Kernel)

@[simp] lemma ite_params (c : Prop) [Decidable c] (a b : Kernel) :
    (if c then a else b).schedParams = if c then a.schedParams else b.schedParams :=
  apply_ite _ c a b

/-! ## Scheduling -/

@[simp] lemma fail_params : s.fail.schedParams = s.schedParams := rfl

@[simp] lemma assert_params (b) : (s.assert b).schedParams = s.schedParams := rfl

@[simp] lemma setTsType_params (t ts) : (s.setTsType t ts).schedParams = s.schedParams := rfl

@[simp] lemma assertSporadic_params (sc) : (s.assertSporadic sc).schedParams = s.schedParams := by
  unfold assertSporadic
  split <;> rfl

@[simp] lemma tcbSchedEnqueue_params (t) : (s.tcbSchedEnqueue cfg t).schedParams = s.schedParams := rfl

@[simp] lemma tcbSchedAppend_params (t) : (s.tcbSchedAppend cfg t).schedParams = s.schedParams := rfl

@[simp] lemma tcbSchedDequeue_params (t) : (s.tcbSchedDequeue cfg t).schedParams = s.schedParams := rfl

@[simp] lemma tcbReleaseRemove_params (t) : (s.tcbReleaseRemove t).schedParams = s.schedParams := rfl

@[simp] lemma tcbReleaseEnqueue_params (t) : (s.tcbReleaseEnqueue t).schedParams = s.schedParams := rfl

@[simp] lemma setSchedContext_params (sc r) : (s.setSchedContext sc r).schedParams = s.schedParams := by
  unfold setSchedContext
  split <;> rfl

@[simp] lemma refillUnblockCheck_params (sc) : (s.refillUnblockCheck cfg sc).schedParams = s.schedParams :=
  s.setSchedContext_params sc _

@[simp] lemma unblockSporadic_params (sc) : (s.unblockSporadic cfg sc).schedParams = s.schedParams := by
  unfold unblockSporadic
  split <;> simp

@[simp] lemma unblockSporadicAssert_params (sc) : (s.unblockSporadicAssert cfg sc).schedParams = s.schedParams := by
  unfold unblockSporadicAssert
  split <;> simp

@[simp] lemma rescheduleRequired_params : (s.rescheduleRequired cfg).schedParams = s.schedParams := by
  unfold rescheduleRequired
  split
  · split <;> rfl
  · rfl

@[simp] lemma possibleSwitchTo_params (t) : (s.possibleSwitchTo cfg t).schedParams = s.schedParams := by
  unfold possibleSwitchTo
  split
  · split
    · simp
    · split
      · simp
      · rfl
  · rfl

@[simp] lemma scheduleTCB_params (t) : (s.scheduleTCB t).schedParams = s.schedParams := by
  unfold scheduleTCB
  split <;> rfl

@[simp] lemma setThreadState_params (t ts) : (s.setThreadState t ts).schedParams = s.schedParams := by
  unfold setThreadState
  simp

@[simp] lemma postpone_params (sc) : (s.postpone cfg sc).schedParams = s.schedParams := by
  unfold postpone
  split <;> rfl

@[simp] lemma schedContextResume_params (sc) : (s.schedContextResume cfg sc).schedParams = s.schedParams := by
  unfold schedContextResume
  split
  · rfl
  · split
    · rfl
    · simp

@[simp] lemma setTcbSchedContext_params (t c) : (s.setTcbSchedContext t c).schedParams = s.schedParams := rfl

@[simp] lemma setScTcb_params (t c) : (s.setScTcb t c).schedParams = s.schedParams := rfl

@[simp] lemma schedContextBindTCB_params (sc t) : (s.schedContextBindTCB cfg sc t).schedParams = s.schedParams := by
  simp [schedContextBindTCB]

@[simp] lemma schedContextUnbindTCB_params (sc) : (s.schedContextUnbindTCB cfg sc).schedParams = s.schedParams := by
  unfold schedContextUnbindTCB
  split <;> simp

@[simp] lemma takeFromDonor_params (sc) : (s.takeFromDonor cfg sc).schedParams = s.schedParams := by
  unfold takeFromDonor
  split <;> simp

@[simp] lemma schedContextDonate_params (sc t) : (s.schedContextDonate cfg sc t).schedParams = s.schedParams := by
  unfold schedContextDonate
  split <;> simp

@[simp] lemma schedContextBindNtfn_params (sc n) : (s.schedContextBindNtfn sc n).schedParams = s.schedParams := rfl

@[simp] lemma schedContextUnbindNtfn_params (sc) : (s.schedContextUnbindNtfn sc).schedParams = s.schedParams := by
  unfold schedContextUnbindNtfn
  split <;> rfl

@[simp] lemma schedContextMaybeUnbindNtfn_params (n) : (s.schedContextMaybeUnbindNtfn n).schedParams =
    s.schedParams := by
  unfold schedContextMaybeUnbindNtfn
  split <;> simp

@[simp] lemma schedContextUnbindReply_params (sc) : (s.schedContextUnbindReply sc).schedParams = s.schedParams := by
  unfold schedContextUnbindReply
  split <;> rfl

@[simp] lemma setConsumed_params (sc t b) : (s.setConsumed cfg sc t b).schedParams = s.schedParams := by
  unfold setConsumed
  cases b <;> rfl

@[simp] lemma schedContextCancelYieldTo_params (t) : (s.schedContextCancelYieldTo t).schedParams = s.schedParams := by
  unfold schedContextCancelYieldTo
  split <;> rfl

@[simp] lemma schedContextCompleteYieldTo_params (t) : (s.schedContextCompleteYieldTo cfg t).schedParams =
    s.schedParams := by
  unfold schedContextCompleteYieldTo
  split <;> simp

@[simp] lemma completeYieldFrom_params (t) : (s.completeYieldFrom cfg t).schedParams = s.schedParams := by
  unfold completeYieldFrom
  split <;> simp

@[simp] lemma maybeReturnSchedContext_params (n t) : (s.maybeReturnSchedContext cfg n t).schedParams =
    s.schedParams := by
  unfold maybeReturnSchedContext
  split <;> simp

@[simp] lemma maybeDonateSchedContext_params (t n) : (s.maybeDonateSchedContext cfg t n).schedParams =
    s.schedParams := by
  unfold maybeDonateSchedContext
  split
  · split <;> simp
  · rfl

/-! ## Replies, notifications and endpoints -/

@[simp] lemma replyUnlink_params (r t) : (s.replyUnlink r t).schedParams = s.schedParams := by
  unfold replyUnlink
  simp
  rfl

@[simp] lemma setThreadStateBlockedOnReply_params (t r) :
    (s.setThreadStateBlockedOnReply t r).schedParams = s.schedParams :=
  scheduleTCB_params _ t

@[simp] lemma replyPushDonate_params (t r sc) : (s.replyPushDonate cfg t r sc).schedParams = s.schedParams := by
  unfold replyPushDonate
  rw [schedContextDonate_params]
  rfl

@[simp] lemma replyPush_params (t u r b) : (s.replyPush cfg t u r b).schedParams = s.schedParams := by
  unfold replyPush
  extract_lets c s1 s2 s3 s4 s5 s6 s7
  have h7 : s7.schedParams = s.schedParams := s6.setThreadStateBlockedOnReply_params t r
  clear_value c
  split
  · split
    · rw [replyPushDonate_params, h7]
    · exact h7
  · exact h7

@[simp] lemma assertReply_params (r t) : (s.assertReply r t).schedParams = s.schedParams := rfl

@[simp] lemma replyPop_params (r t) : (s.replyPop cfg r t).schedParams = s.schedParams := by
  unfold replyPop
  extract_lets s1
  split
  · extract_lets c s2 s3
    have h3 : s3.schedParams = s.schedParams := by
      unfold s3
      split
      · exact schedContextDonate_params ..
      · rfl
    exact (replyUnlink_params _ r t).trans h3
  · rfl

@[simp] lemma replyRemove_params (r t) : (s.replyRemove cfg r t).schedParams = s.schedParams := by
  unfold replyRemove
  extract_lets s1
  split
  · exact s1.replyPop_params cfg r t
  · exact replyUnlink_params _ r t

@[simp] lemma replyRemoveTcb_params (t) : (s.replyRemoveTcb t).schedParams = s.schedParams := by
  unfold replyRemoveTcb
  extract_lets s1
  split
  · rfl
  · exact replyUnlink_params _ _ t

@[simp] lemma epDequeue_params (ep t) : (s.epDequeue ep t).schedParams = s.schedParams := rfl

@[simp] lemma ntfnDequeue_params (n t) : (s.ntfnDequeue n t).schedParams = s.schedParams := rfl

@[simp] lemma cancelSignal_params (t n) : (s.cancelSignal t n).schedParams = s.schedParams := by
  unfold cancelSignal
  simp

@[simp] lemma cancelEpIPC_params (t) : (s.cancelEpIPC t).schedParams = s.schedParams := by
  unfold cancelEpIPC
  extract_lets ep s1 s2 s3
  have h3 : s3.schedParams = s.schedParams := by
    unfold s3
    split
    · split
      · exact replyUnlink_params ..
      · rfl
    · rfl
  rw [setThreadState_params, h3]

@[simp] lemma setTcbFault_params (t f) : (s.setTcbFault t f).schedParams = s.schedParams := rfl

@[simp] lemma cancelIPC_params (t) : (s.cancelIPC t).schedParams = s.schedParams := by
  unfold cancelIPC
  extract_lets s1
  split <;> simp [s1]

@[simp] lemma setNtfnState_params (n st) : (s.setNtfnState n st).schedParams = s.schedParams := rfl

@[simp] lemma setNtfnQueue_params (n q) : (s.setNtfnQueue n q).schedParams = s.schedParams := rfl

@[simp] lemma setNtfnMsgIdentifier_params (n w) : (s.setNtfnMsgIdentifier n w).schedParams = s.schedParams := rfl

@[simp] lemma setEpState_params (n st) : (s.setEpState n st).schedParams = s.schedParams := rfl

@[simp] lemma setEpQueue_params (n q) : (s.setEpQueue n q).schedParams = s.schedParams := rfl

@[simp] lemma setReplyTCB_params (r t) : (s.setReplyTCB r t).schedParams = s.schedParams := rfl

@[simp] lemma setBadgeRegister_params (t w) : (s.setBadgeRegister t w).schedParams = s.schedParams := rfl

@[simp] lemma ntfnSetActive_params (n w) : (s.ntfnSetActive n w).schedParams = s.schedParams := rfl

@[simp] lemma deliverSignal_params (n t w) : (s.deliverSignal n t w).schedParams = s.schedParams := rfl

@[simp] lemma logSignal_params (e) : (s.logSignal e).schedParams = s.schedParams := rfl

@[simp] lemma tcbEPAppend_params (t q) : (s.tcbEPAppend t q).1.schedParams = s.schedParams := rfl

@[simp] lemma tcbEPDequeue_params (t q) : (s.tcbEPDequeue t q).1.schedParams = s.schedParams := rfl

@[simp] lemma signalThread_params (n t w) : (s.signalThread cfg n t w).schedParams = s.schedParams := by
  simp [signalThread]

@[simp] lemma sendSignal_params (n w) : (s.sendSignal cfg n w).schedParams = s.schedParams := by
  unfold sendSignal
  extract_lets s1
  split
  · split
    · simp [s1]
    · rfl
  · split <;> simp [s1]
  · rfl

@[simp] lemma doNBRecvFailedTransfer_params (t) : (s.doNBRecvFailedTransfer t).schedParams = s.schedParams := rfl

@[simp] lemma takeSignal_params (n t) : (s.takeSignal cfg n t).schedParams = s.schedParams := by
  simp [takeSignal]

@[simp] lemma blockOnNtfn_params (n t) : (s.blockOnNtfn n t).schedParams = s.schedParams := by
  unfold blockOnNtfn
  extract_lets s1 s2 s3
  have h3 : s3.schedParams = s.schedParams := s2.scheduleTCB_params t
  exact h3

@[simp] lemma receiveSignal_params (t n b) : (s.receiveSignal cfg t n b).schedParams = s.schedParams := by
  unfold receiveSignal
  split <;> simp

@[simp] lemma completeSignal_params (n t) : (s.completeSignal cfg n t).schedParams = s.schedParams := by
  unfold completeSignal
  simp

@[simp] lemma restartWaiter_params (t) : (s.restartWaiter cfg t).schedParams = s.schedParams := by
  simp [restartWaiter]

@[simp] lemma restartWaiters_params (fuel t) : (restartWaiters cfg fuel s t).schedParams = s.schedParams := by
  induction fuel generalizing s t with
  | zero => rfl
  | succ fuel ih =>
    cases t with
    | none => rfl
    | some t =>
      unfold restartWaiters
      rw [ih, restartWaiter_params]

@[simp] lemma cancelAllSignals_params (n) : (s.cancelAllSignals cfg n).schedParams = s.schedParams := by
  simp [cancelAllSignals]

@[simp] lemma doUnbindNotification_params (n t) : (s.doUnbindNotification n t).schedParams = s.schedParams := rfl

@[simp] lemma unbindMaybeNotification_params (n) : (s.unbindMaybeNotification n).schedParams = s.schedParams := by
  unfold unbindMaybeNotification
  split <;> rfl

@[simp] lemma unbindNotification_params (t) : (s.unbindNotification t).schedParams = s.schedParams := by
  unfold unbindNotification
  split <;> rfl

@[simp] lemma bindNotification_params (t n) : (s.bindNotification t n).schedParams = s.schedParams := rfl

@[simp] lemma reorderNTFN_params (n t) : (s.reorderNTFN n t).schedParams = s.schedParams := rfl

@[simp] lemma reorderEP_params (n t) : (s.reorderEP n t).schedParams = s.schedParams := rfl

@[simp] lemma doIPCTransfer_params (t w) : (s.doIPCTransfer t w).schedParams = s.schedParams := rfl

@[simp] lemma blockOnSend_params (t ep w b c d) : (s.blockOnSend t ep w b c d).schedParams = s.schedParams := by
  unfold blockOnSend
  extract_lets s1 s2 s3
  have h3 : s3.schedParams = s.schedParams := s2.scheduleTCB_params t
  exact h3

@[simp] lemma blockOnReceive_params (t ep r) : (s.blockOnReceive t ep r).schedParams = s.schedParams := by
  unfold blockOnReceive
  extract_lets s1 s2 s3 s4
  have h3 : s3.schedParams = s.schedParams := s2.scheduleTCB_params t
  have h4 : s4.schedParams = s.schedParams := by
    unfold s4
    cases r <;> exact h3
  exact h4

@[simp] lemma linkSender_params (t u r a b c d) : (s.linkSender cfg t u r a b c d).schedParams = s.schedParams := by
  unfold linkSender
  cases r <;> simp

@[simp] lemma wakeReceiver_params (t) : (s.wakeReceiver cfg t).schedParams = s.schedParams := by
  simp [wakeReceiver]

@[simp] lemma sendToReceiver_params (a w b c d t ep u) :
    (s.sendToReceiver cfg a w b c d t ep u).schedParams = s.schedParams := by
  unfold sendToReceiver
  extract_lets s1 s2 r s3
  have h3 : s3.schedParams = s.schedParams := by
    unfold s3
    clear_value r
    cases r <;> simp [s1, s2]
  rw [wakeReceiver_params, linkSender_params, h3]

@[simp] lemma sendIPC_params (a b w c d e t ep) : (s.sendIPC cfg a b w c d e t ep).schedParams = s.schedParams := by
  unfold sendIPC
  split
  · simp
  · simp
  · split <;> simp

@[simp] lemma linkCaller_params (t u r) : (s.linkCaller cfg t u r).schedParams = s.schedParams := by
  unfold linkCaller
  cases r <;> simp

@[simp] lemma receiveFromSender_params (t ep r u) : (s.receiveFromSender cfg t ep r u).schedParams = s.schedParams := by
  simp [receiveFromSender]

@[simp] lemma freeReply_params (t r) : (s.freeReply t r).schedParams = s.schedParams := by
  unfold freeReply
  split
  · rfl
  · split <;> simp

@[simp] lemma receiveOnEndpoint_params (t ep b r) : (s.receiveOnEndpoint cfg t ep b r).schedParams = s.schedParams := by
  unfold receiveOnEndpoint
  split
  · simp
  · simp
  · split <;> simp

@[simp] lemma receiveIPC_params (t ep b r) : (s.receiveIPC cfg t ep b r).schedParams = s.schedParams := by
  unfold receiveIPC
  extract_lets s1
  split <;> simp [s1]

@[simp] lemma restartThreadIfNoFault_params (t) : (s.restartThreadIfNoFault cfg t).schedParams = s.schedParams := by
  simp [restartThreadIfNoFault]

@[simp] lemma cancelOneIPC_params (t) : (s.cancelOneIPC cfg t).schedParams = s.schedParams := by
  unfold cancelOneIPC
  cases s.replyObject t <;> simp

@[simp] lemma cancelEachIPC_params (fuel t) : (cancelEachIPC cfg fuel s t).schedParams = s.schedParams := by
  induction fuel generalizing s t with
  | zero => rfl
  | succ fuel ih =>
    cases t with
    | none => rfl
    | some t =>
      unfold cancelEachIPC
      rw [ih, cancelOneIPC_params]

@[simp] lemma cancelAllIPC_params (ep) : (s.cancelAllIPC cfg ep).schedParams = s.schedParams := by
  unfold cancelAllIPC
  split <;> simp

@[simp] lemma cancelEachBadged_params (w fuel q t) :
    (cancelEachBadged cfg w fuel s q t).1.schedParams = s.schedParams := by
  induction fuel generalizing s q t with
  | zero => rfl
  | succ fuel ih =>
    cases t with
    | none => rfl
    | some t =>
      unfold cancelEachBadged
      extract_lets b next s1
      split
      · rw [ih, tcbEPDequeue_params, restartThreadIfNoFault_params]
        rfl
      · rw [ih]
        rfl

@[simp] lemma cancelBadgedSends_params (ep w) : (s.cancelBadgedSends cfg ep w).schedParams = s.schedParams := by
  unfold cancelBadgedSends
  split <;> simp

/-! ## Threads, faults, budgets and the scheduler -/

@[simp] lemma suspend_params (t) : (s.suspend cfg t).schedParams = s.schedParams := by
  simp [suspend]

@[simp] lemma restart_params (t) : (s.restart cfg t).schedParams = s.schedParams := by
  simp [restart]

@[simp] lemma sendFaultIPC_params (t c b f) : (s.sendFaultIPC cfg t c b f).1.schedParams = s.schedParams := by
  unfold sendFaultIPC
  split <;> simp

@[simp] lemma handleFault_params (t f) : (s.handleFault cfg t f).schedParams = s.schedParams := by
  simp [handleFault]

@[simp] lemma handleTimeout_params (t) : (s.handleTimeout cfg t).schedParams = s.schedParams := by
  simp [handleTimeout]

@[simp] lemma resumeReceiver_params (t f) : (s.resumeReceiver cfg t f).schedParams = s.schedParams := by
  unfold resumeReceiver
  split <;> simp

@[simp] lemma replyToThread_params (t b) : (s.replyToThread t b).schedParams = s.schedParams := by
  simp [replyToThread]

@[simp] lemma doReplyTransfer_params (r b) : (s.doReplyTransfer cfg r b).schedParams = s.schedParams := by
  unfold doReplyTransfer
  split <;> simp

@[simp] lemma endTimeslice_params (b) : (s.endTimeslice cfg b).schedParams = s.schedParams := by
  simp [endTimeslice]

@[simp] lemma chargeBudget_params (n b) : (s.chargeBudget cfg n b).schedParams = s.schedParams := by
  unfold chargeBudget
  extract_lets s1 s2 s3 s4 s5
  have h1 : s1.schedParams = s.schedParams := by simp [s1]
  have h2 : s2.schedParams = s.schedParams := h1
  have h5 : s5.schedParams = s.schedParams := by simp [s5, s4, s3, h2]
  split
  · exact h5
  · exact h2

@[simp] lemma checkDomainTime_params : (s.checkDomainTime cfg).schedParams = s.schedParams := by
  unfold checkDomainTime
  split
  · rw [rescheduleRequired_params]
    rfl
  · rfl

@[simp] lemma checkBudget_params : (s.checkBudget cfg).1.schedParams = s.schedParams := by
  unfold checkBudget
  extract_lets s1
  split
  · rfl
  · exact s1.chargeBudget_params cfg _ _

@[simp] lemma checkBudgetRestart_params : (s.checkBudgetRestart cfg).1.schedParams = s.schedParams := by
  unfold checkBudgetRestart
  extract_lets s1 r s2
  have h2 : s2.schedParams = s.schedParams := s1.checkBudget_params cfg
  split
  · exact (s2.setThreadState_params _ _).trans h2
  · exact h2

@[simp] lemma mcsPreemptionPoint_params : (s.mcsPreemptionPoint cfg).schedParams = s.schedParams := by
  unfold mcsPreemptionPoint
  split
  · simp
  · split
    · simp
    · rfl

@[simp] lemma commitTime_params : (s.commitTime cfg).schedParams = s.schedParams := by
  unfold commitTime
  extract_lets s1
  have h1 : s1.schedParams = s.schedParams := by simp [s1]
  exact h1

@[simp] lemma switchToThread_params (t) : (s.switchToThread cfg t).schedParams = s.schedParams := rfl

@[simp] lemma switchToIdleThread_params : s.switchToIdleThread.schedParams = s.schedParams := rfl

@[simp] lemma chooseThread_params : (s.chooseThread cfg).schedParams = s.schedParams := by
  unfold chooseThread
  extract_lets dom prio
  split
  · split
    · exact switchToThread_params ..
    · exact fail_params _
  · exact switchToIdleThread_params _

@[simp] lemma tcbReleaseDequeue_params (t) : (s.tcbReleaseDequeue cfg t).schedParams = s.schedParams := by
  simp [tcbReleaseDequeue]

@[simp] lemma awakenLoop_params (fuel) : (awakenLoop cfg fuel s).schedParams = s.schedParams := by
  induction fuel generalizing s with
  | zero => rfl
  | succ fuel ih =>
    unfold awakenLoop
    split
    · split
      · rw [ih, tcbReleaseDequeue_params]
      · rfl
    · rfl

@[simp] lemma awaken_params : (s.awaken cfg).schedParams = s.schedParams :=
  s.awakenLoop_params cfg _

@[simp] lemma switchSchedContext_params : (s.switchSchedContext cfg).schedParams = s.schedParams := by
  unfold switchSchedContext
  split
  · rfl
  · rename_i sc _
    extract_lets s1 s2 s3 s4 s5
    have h1 : s1.schedParams = s.schedParams := rfl
    have h2 : s2.schedParams = s.schedParams := by
      unfold s2
      split
      · exact h1
      · exact (s1.refillUnblockCheck_params cfg sc).trans h1
    have h4 : s4.schedParams = s.schedParams := by
      unfold s4
      split
      · exact h2
      · rfl
    have h5 : s5.schedParams = s.schedParams := by
      unfold s5
      split
      · exact (s4.commitTime_params cfg).trans h4
      · exact h4
    exact h5

@[simp] lemma activateThread_params : (s.activateThread cfg).schedParams = s.schedParams := by
  unfold activateThread
  extract_lets s1 s2
  have h2 : s2.schedParams = s.schedParams := by
    unfold s2
    split
    · exact s.schedContextCompleteYieldTo_params cfg _
    · rfl
  split
  · exact h2
  · exact h2
  · exact (s2.setThreadState_params _ _).trans h2
  · exact h2

/-! ## Invocations and entries -/

@[simp] lemma finaliseEndpoint_params (ep) : (s.finaliseEndpoint cfg ep).schedParams = s.schedParams :=
  s.cancelAllIPC_params cfg ep

@[simp] lemma finaliseNotification_params (n) : (s.finaliseNotification cfg n).schedParams = s.schedParams := by
  unfold finaliseNotification
  extract_lets s1 s2 s3
  have h3 : s3.schedParams = s.schedParams := by simp [s3, s2, s1]
  exact h3

@[simp] lemma finaliseReply_params (r) : (s.finaliseReply cfg r).schedParams = s.schedParams := by
  unfold finaliseReply
  extract_lets s1
  have h1 : s1.schedParams = s.schedParams := by
    unfold s1
    split
    · split
      · exact s.replyRemove_params cfg r _
      · exact s.cancelIPC_params _
      · rfl
    · rfl
  exact h1

@[simp] lemma schedContextUnbindAllTCBs_params (sc) : (s.schedContextUnbindAllTCBs cfg sc).schedParams =
    s.schedParams := by
  simp [schedContextUnbindAllTCBs]

@[simp] lemma finaliseSchedContext_params (sc) : (s.finaliseSchedContext cfg sc).schedParams = s.schedParams := by
  unfold finaliseSchedContext
  extract_lets s1 s2 s3 s4
  have h4 : s4.schedParams = s.schedParams := by simp [s4, s3, s2, s1]
  exact h4

@[simp] lemma setFaultHandler_params (t c) : (s.setFaultHandler t c).schedParams = s.schedParams := rfl

@[simp] lemma setTimeoutHandler_params (t c) : (s.setTimeoutHandler t c).schedParams = s.schedParams := rfl

@[simp] lemma restartCurrent_params : s.restartCurrent.schedParams = s.schedParams :=
  s.setThreadState_params _ _

@[simp] lemma installFaultHandler_params (t c b) : (s.installFaultHandler cfg t c b).schedParams = s.schedParams := by
  unfold installFaultHandler
  extract_lets s1 s2
  have h2 : s2.schedParams = s.schedParams := by
    unfold s2
    split
    · split
      · exact finaliseEndpoint_params ..
      · rfl
    · rfl
  split
  · exact h2
  · exact h2

@[simp] lemma threadControlSchedContext_params (t c) : (s.threadControlSchedContext cfg t c).schedParams =
    s.schedParams := by
  unfold threadControlSchedContext
  split
  · simp
  · split <;> simp

@[simp] lemma invokeCopyRegisters_params (t u a b) : (s.invokeCopyRegisters cfg t u a b).schedParams =
    s.schedParams := by
  simp [invokeCopyRegisters]

@[simp] lemma yieldToThread_params (sc t) : (s.yieldToThread cfg sc t).1.schedParams = s.schedParams := by
  unfold yieldToThread
  split
  · rfl
  · exact rescheduleRequired_params ..

@[simp] lemma invokeYieldTo_params (sc t b) : (s.invokeYieldTo cfg sc t b).schedParams = s.schedParams := by
  unfold invokeYieldTo
  extract_lets s1 s2 s3 r s4
  have h3 : s3.schedParams = s.schedParams := by simp [s3, s2, s1]
  have h4 : s4.schedParams = s.schedParams := by
    unfold s4 r
    split
    · exact (s3.yieldToThread_params cfg sc t).trans h3
    · exact h3
  split
  · simp [h4]
  · exact h4

@[simp] lemma invokeUnbind_params (sc) : (s.invokeUnbind cfg sc).schedParams = s.schedParams := by
  simp [invokeUnbind]

@[simp] lemma stopForConfigure_params (sc t) : (s.stopForConfigure cfg sc t).schedParams = s.schedParams := by
  simp [stopForConfigure]

@[simp] lemma resumeAfterConfigure_params (sc t) : (s.resumeAfterConfigure cfg sc t).schedParams = s.schedParams := by
  simp [resumeAfterConfigure]

@[simp] lemma invokeConfigureFlags_params (sc a) : (s.invokeConfigureFlags cfg sc a).schedParams = s.schedParams := by
  unfold invokeConfigureFlags
  extract_lets thread s1 runnable s2 s3 s4
  clear_value thread
  have h1 : s1.schedParams = s.schedParams := by
    unfold s1
    cases thread <;> simp
  have h3 : s3.schedParams = s.schedParams := by simp [s3, s2, h1]
  have h4 : s4.schedParams = s.schedParams := by
    unfold s4
    cases thread <;> simp [h3]
  exact h4

@[simp] lemma finishInvocation_params (t b) : (s.finishInvocation t b).schedParams = s.schedParams := by
  simp [finishInvocation]

@[simp] lemma handleInterrupt_params (i) : (s.handleInterrupt cfg i).schedParams = s.schedParams := by
  unfold handleInterrupt
  split
  · rfl
  · split <;> simp
  · rfl

@[simp] lemma handleYield_params : (s.handleYield cfg).schedParams = s.schedParams :=
  s.chargeBudget_params cfg _ _

@[simp] lemma afterPreemption_params (i) : (s.afterPreemption cfg i).schedParams = s.schedParams := by
  simp [afterPreemption]

@[simp] lemma handleRecv_params (b c r) : (s.handleRecv cfg b c r).schedParams = s.schedParams := by
  unfold handleRecv
  split
  · simp
  · rename_i reply
    cases reply <;> simp
  · simp

end Kernel

end NexsKernel.Mcs
