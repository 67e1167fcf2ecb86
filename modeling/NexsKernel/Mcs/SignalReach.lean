import NexsKernel.Mcs.Consistency
import NexsKernel.Mcs.SignalOps

/-!
# Signals in all runs

Every kernel entry keeps the history of the notifications right, so that no bit of a signal is lost or
delivered twice. A pending signal is left behind only by the binding of an active notification to a thread
that waits for a message.
-/

namespace NexsKernel.Mcs

open Function (update update_of_ne update_apply)

/-- The invocation binds an active notification to a thread that waits for a message, and is accepted. -/
def Invocation.BindsPending (s : Kernel) : Invocation → Prop
  | .tcb t (.bindNotification cap) => cap.capNtfnCanReceive = true ∧ s.tcbBoundNotification t = none ∧
      s.ntfnBoundTCB cap.capNtfnPtr = none ∧ s.ntfnState cap.capNtfnPtr = .active ∧ s.tsType t = .blockedOnReceive
  | _ => False

/-- The same for a lookup. -/
def InvokeLookup.BindsPending (s : Kernel) : InvokeLookup → Prop
  | .failed => False
  | .found inv => inv.BindsPending s

/-- The same for a system call; a binding is refused in the first phase of a combined one. -/
def Syscall.BindsPending (s : Kernel) : Syscall → Prop
  | .send l | .nbSend l | .call l => l.BindsPending s
  | _ => False

/-- The same for a kernel entry, whose system call is performed if the budget suffices. -/
def Event.BindsPending (cfg : KernelConfig) (s : Kernel) : Event → Prop
  | .syscall now sys _ => ((s.updateTimestamp cfg now).checkBudgetRestart cfg).2 = true ∧ sys.BindsPending s
  | _ => False

namespace Kernel

variable (cfg : KernelConfig) (s : Kernel) {t : TcbPtr} {ntfn : NtfnPtr} {P : Prop}

/-! ## Objects -/

lemma finaliseEndpoint_quiet {ep} : Quiet s (s.finaliseEndpoint cfg ep) := by
  unfold finaliseEndpoint
  extract_lets s1
  have h1 : Quiet s s1 := s.cancelAllIPC_quiet cfg
  exact h1.trans (quiet_of_eq rfl rfl rfl rfl rfl)

lemma finaliseNotification_quiet : Quiet s (s.finaliseNotification cfg ntfn) := by
  unfold finaliseNotification
  extract_lets s1 s2 s3
  have h1 : Quiet s s1 := s.schedContextMaybeUnbindNtfn_quiet
  have h2 : Quiet s1 s2 := s1.unbindMaybeNotification_quiet
  have h3 : Quiet s2 s3 := s2.cancelAllSignals_quiet cfg
  exact ((h1.trans h2).trans h3).trans (quiet_of_eq rfl rfl rfl rfl rfl)

lemma finaliseSchedContext_quiet {sc} : Quiet s (s.finaliseSchedContext cfg sc) := by
  unfold finaliseSchedContext
  extract_lets s1 s2 s3 s4
  have h1 : Quiet s s1 := s.schedContextUnbindAllTCBs_quiet cfg
  have h2 : Quiet s1 s2 := s1.schedContextUnbindNtfn_quiet
  have h3 : Quiet s2 s3 := s2.schedContextUnbindReply_quiet
  have h4 : Quiet s3 s4 := s3.completeYieldFrom_quiet cfg
  exact (((h1.trans h2).trans h3).trans h4).trans (quiet_of_eq rfl rfl rfl rfl rfl)

lemma createTcb_quiet : Quiet s (s.createTcb t) := by
  refine ⟨rfl, rfl, fun _ => .rfl, fun u hu => ?_, fun _ _ h => h⟩
  change update s.tsType t .inactive u = _ at hu
  rw [update_apply] at hu
  split at hu
  · cases hu
  · exact hu

/-- The history of a notification starts with its creation. -/
lemma createNotification_tame : Tame P s (s.createNotification ntfn) := by
  have hstate : ∀ n, (s.createNotification ntfn).ntfnState n = if n = ntfn then .idle else s.ntfnState n :=
    fun n => update_apply ..
  have hmsg : ∀ n, (s.createNotification ntfn).ntfnMsgIdentifier n =
      if n = ntfn then 0 else s.ntfnMsgIdentifier n := fun n => update_apply ..
  have hsig : ∀ n, sentSince n (s.createNotification ntfn).signals = if n = ntfn then 0 else sentSince n s.signals :=
    fun n => sentSince_filter n ntfn s.signals
  refine ⟨fun hr n => ⟨(hr n).prompt.filter ntfn, fun hn => ?_, fun hn => ?_⟩, fun _ hh n u hn hb => ?_⟩
  · rw [hstate] at hn
    rw [hsig, hmsg]
    split at hn
    · cases hn
    · rename_i e
      rw [if_neg e, if_neg e]
      exact (hr n).active hn
  · rw [hstate] at hn
    rw [hsig]
    split at hn
    · rename_i e
      exact if_pos e
    · rename_i e
      rw [if_neg e]
      exact (hr n).inactive hn
  · rw [hstate] at hn
    change update s.ntfnBoundTCB ntfn none n = some u at hb
    split at hn
    · cases hn
    · rename_i e
      rw [update_of_ne e] at hb
      exact hh n u hn hb

lemma createObject_tame {o n} : Tame P s (s.createObject o n) := by
  have hq : ∀ s' : Kernel, Quiet s s' → Tame P s s' := fun _ h => h.tame
  cases o with
  | tcb t => exact s.createTcb_quiet.tame
  | endpoint ep => exact hq _ (quiet_of_eq rfl rfl rfl rfl rfl)
  | notification ntfn => exact s.createNotification_tame
  | reply r | schedContext sc => exact hq _ (quiet_of_eq rfl rfl rfl rfl rfl)

end Kernel

namespace ObjInv

variable {cfg : KernelConfig} {s s' : Kernel} {t : TcbPtr} {ntfn : NtfnPtr} {P : Prop}

lemma finaliseReply_quiet {r} (h : s.ObjInv []) : Kernel.Quiet s (s.finaliseReply cfg r) := by
  unfold Kernel.finaliseReply
  extract_lets s1
  have h1 : Kernel.Quiet s s1 := by
    unfold s1
    split
    · split
      · exact (s.replyRemove_calm cfg).toQuiet
      · exact (h.cancelIPC_calm (by simp)).toQuiet
      · exact s.fail_same.toSameObj.quiet
    · exact .refl s
  exact h1.trans (Kernel.quiet_of_eq rfl rfl rfl rfl rfl)

lemma finaliseTcb_quiet (h : s.ObjInv []) (ht : s.tcbExists t = true) : Kernel.Quiet s (s.finaliseTcb cfg t) := by
  unfold Kernel.finaliseTcb
  extract_lets s1 s2 s3
  have e1 : Kernel.Quiet s s1 := s.unbindNotification_quiet
  have h1 : s1.ObjInv [] := h.unbindNotification
  have ht1 : s1.tcbExists t = true := by
    unfold s1 Kernel.unbindNotification
    split <;> exact ht
  clear_value s1
  have h2 : Kernel.Quiet s1 s2 ∧ s2.ObjInv [] := by
    unfold s2
    split
    · rename_i c hc
      have hc' := (h1.bound.sc t c).mp hc
      have hu : (s1.schedContextUnbindTCB cfg c).ObjInv [] := h1.schedContextUnbindTCB fun e =>
        h1.ne_idle ht1 (Option.some.inj (hc'.symm.trans e))
      exact ⟨(s1.schedContextUnbindTCB_quiet cfg).trans (Kernel.completeYieldFrom_quiet cfg _), hu.completeYieldFrom⟩
    · exact ⟨.refl s1, h1⟩
  have e3 : Kernel.Quiet s2 s3 := h2.2.suspend_calm.toQuiet
  exact ((e1.trans h2.1).trans e3).trans (Kernel.quiet_of_eq rfl rfl rfl rfl rfl)

lemma capEffect_tame {e : CapEffect} (h : s.ObjInv []) (he : e.Legal cfg s) : Kernel.Tame P s (s.capEffect cfg e) := by
  have hq : ∀ s' : Kernel, Kernel.Quiet s s' → Kernel.Tame P s s' := fun _ h => h.tame
  cases e with
  | finalise o =>
    cases o with
    | tcb t => exact (h.finaliseTcb_quiet he.1).tame
    | endpoint ep => exact (s.finaliseEndpoint_quiet cfg).tame
    | notification ntfn => exact (s.finaliseNotification_quiet cfg).tame
    | reply r => exact h.finaliseReply_quiet.tame
    | schedContext sc => exact (s.finaliseSchedContext_quiet cfg).tame
  | clearFaultHandler t | clearTimeoutHandler t | setFaultHandler t cap | setTimeoutHandler t cap =>
    exact hq _ (Kernel.quiet_of_eq rfl rfl rfl rfl rfl)
  | create o n => exact s.createObject_tame
  | preemptionPoint now => exact (s.updateTimestamp_same cfg now).toSameObj.quiet.tame

lemma capEffects_tame {es : List CapEffect} (h : s.ObjInv []) (hes : effectsLegal cfg es s) :
    Kernel.Tame P s (Kernel.capEffects cfg es s) := by
  induction es generalizing s with
  | nil => exact .refl s
  | cons e es ih => exact (h.capEffect_tame hes.1).trans (ih (h.capEffect hes.1) hes.2)

lemma capOutcome_tame {o : CapOutcome} : Kernel.Tame P s (s.capOutcome cfg o).1 := by
  cases o with
  | done => exact .refl s
  | preempted now => exact (s.updateTimestamp_same cfg now).toSameObj.quiet.tame

/-! ## Invocations -/

lemma restart_quiet (h : s.ObjInv []) : Kernel.Quiet s (s.restart cfg t) := by
  unfold Kernel.restart
  split
  · extract_lets s1 s2 sc s3 s4
    have h1 : Kernel.Quiet s s1 := (h.cancelIPC_calm (by simp)).toQuiet
    have h2 : Kernel.Quiet s1 s2 := s1.setThreadState_quiet (by simp)
    have h3 : Kernel.Quiet s2 s3 := (s2.unblockSporadic_same cfg _).toSameObj.quiet
    have h4 : Kernel.Quiet s3 s4 := (s3.schedContextResume_same cfg _).toSameObj.quiet
    have e := ((h1.trans h2).trans h3).trans h4
    split
    · exact e.trans (s4.possibleSwitchTo_same cfg t).toSameObj.quiet
    · exact e
  · exact .refl s

lemma copyRegisters_quiet {src b b'} (h : s.ObjInv []) (hsrc : s.tcbExists src = true) :
    Kernel.Quiet s (s.invokeCopyRegisters cfg t src b b') := by
  unfold Kernel.invokeCopyRegisters
  extract_lets s1 s2
  have h1 : Kernel.Quiet s s1 ∧ s1.ObjInv [] := by
    unfold s1
    split
    · exact ⟨h.suspend_calm.toQuiet, h.suspend hsrc⟩
    · exact ⟨.refl s, h⟩
  have h2 : Kernel.Quiet s s2 := by
    unfold s2
    split
    · exact h1.1.trans h1.2.restart_quiet
    · exact h1.1
  split
  · exact h2.trans (s2.rescheduleRequired_same cfg).toSameObj.quiet
  · exact h2

lemma decodeSetSchedParams_quiet {auth mcp prio c fh final}
    (e : s.decodeSetSchedParams cfg t auth mcp prio c fh final = .ok s') : Kernel.Quiet s s' := by
  have key : ∀ b : Bool, Kernel.Quiet s
      (let s1 := s.restartCurrent
      let s1 := s1.installFaultHandler cfg t fh final
      let s1 := s1.setMCPriority t mcp
      let s1 := s1.setPriority cfg t prio
      if b then s1.threadControlSchedContext cfg t c else s1) := by
    intro b
    extract_lets s1 s2 s3 s4
    have h1 : Kernel.Quiet s s1 := s.restartCurrent_calm.toQuiet
    have h2 : Kernel.Quiet s1 s2 := s1.installFaultHandler_quiet cfg
    have h3 : Kernel.Quiet s2 s3 := Kernel.quiet_of_eq rfl rfl rfl rfl rfl
    have h4 : Kernel.Quiet s3 s4 := s3.setPriority_quiet cfg
    have h := ((h1.trans h2).trans h3).trans h4
    split
    · exact h.trans (s4.threadControlSchedContext_quiet cfg)
    · exact h
  obtain ⟨-, e⟩ := refuseIf_bind.mp e
  obtain ⟨-, e⟩ := refuseIf_bind.mp e
  cases c with
  | none =>
    obtain ⟨-, e⟩ := refuseIf_bind.mp e
    obtain ⟨-, e⟩ := refuseIf_bind.mp e
    cases e
    exact key _
  | some c =>
    obtain ⟨-, e⟩ := refuseIf_bind.mp e
    obtain ⟨-, e⟩ := refuseIf_bind.mp e
    obtain ⟨-, e⟩ := refuseIf_bind.mp e
    obtain ⟨-, e⟩ := refuseIf_bind.mp e
    cases e
    exact key _

/-- A signal that is pending stays behind if the thread waits for a message. -/
lemma decodeBindNotification_tame {cap : NotificationCap}
    (hP : P → ¬ (Invocation.tcb t (.bindNotification cap)).BindsPending s)
    (e : s.decodeBindNotification t cap = .ok s') : Kernel.Tame P s s' := by
  obtain ⟨ht, e⟩ := refuseIf_bind.mp e
  obtain ⟨hr, e⟩ := refuseIf_bind.mp e
  obtain ⟨hq, e⟩ := refuseIf_bind.mp e
  cases e
  have h1 : Kernel.Quiet s s.restartCurrent := s.restartCurrent_calm.toQuiet
  refine Kernel.Tame.trans h1.tame ⟨fun h n => ⟨(h n).prompt, (h n).active, (h n).inactive⟩, fun hp hh n u hn hb => ?_⟩
  change update s.restartCurrent.ntfnBoundTCB cap.capNtfnPtr (some t) n = some u at hb
  rw [update_apply] at hb
  split at hb
  · rename_i e
    obtain rfl := Option.some.inj hb
    subst e
    intro hts
    refine hP hp ⟨by simpa using hr, not_not.mp ht, ?_, (h1.active _).mp hn, h1.receive t hts⟩
    exact not_not.mp (not_or.mp hq).2
  · exact hh n u hn hb

lemma decodeTCBInvocation_tame {inv : TcbInvocation} {b} (h : s.ObjInv []) (hc : s.isRunnable s.ksCurThread = true)
    (hl : inv.Legal cfg s t) (hP : P → ¬ (Invocation.tcb t inv).BindsPending s)
    (e : s.decodeTCBInvocation cfg t inv = .ok (s', b)) : Kernel.Tame P s s' := by
  have h1 := h.restartCurrent hc
  have e1 : Kernel.Quiet s s.restartCurrent := s.restartCurrent_calm.toQuiet
  cases inv with
  | readRegisters b =>
    obtain ⟨-, e⟩ := refuseIf_bind.mp e
    cases e
    have e2 : Kernel.Quiet s (if b then s.restartCurrent.suspend cfg t else s.restartCurrent) := by
      split
      · exact e1.trans h1.suspend_calm.toQuiet
      · exact e1
    exact (e2.trans (Kernel.setThreadState_quiet _ (by simp))).tame
  | writeRegisters b =>
    obtain ⟨-, e⟩ := refuseIf_bind.mp e
    cases e
    have e2 : Kernel.Quiet s (if b then s.restartCurrent.restart cfg t else s.restartCurrent) := by
      split
      · exact e1.trans h1.restart_quiet
      · exact e1
    generalize (if b then s.restartCurrent.restart cfg t else s.restartCurrent) = s2 at e2 ⊢
    split
    · exact (e2.trans (s2.rescheduleRequired_same cfg).toSameObj.quiet).tame
    · exact e2.tame
  | copyRegisters src b b' =>
    cases e
    exact (e1.trans (h1.copyRegisters_quiet (by rw [s.restartCurrent_ipcOnly.objects]; exact hl))).tame
  | suspend =>
    cases e
    exact (e1.trans h1.suspend_calm.toQuiet).tame
  | resume =>
    cases e
    exact (e1.trans h1.restart_quiet).tame
  | setPriority auth prio =>
    obtain ⟨-, e⟩ := refuseIf_bind.mp e
    cases e
    exact (e1.trans (Kernel.setPriority_quiet cfg _)).tame
  | setMCPriority auth mcp =>
    obtain ⟨-, e⟩ := refuseIf_bind.mp e
    cases e
    have e2 : Kernel.Quiet s.restartCurrent (s.restartCurrent.setMCPriority t mcp) :=
      Kernel.quiet_of_eq rfl rfl rfl rfl rfl
    exact (e1.trans e2).tame
  | setSchedParams auth mcp prio c fh final =>
    obtain ⟨s1, e2, e⟩ := bind_eq_ok.mp e
    cases e
    exact (decodeSetSchedParams_quiet e2).tame
  | threadControlCaps effects outcome b =>
    have e2 : Kernel.Tame P s (s.restartCurrent.invokeThreadControlCaps cfg t effects outcome b).1 := by
      unfold Kernel.invokeThreadControlCaps
      extract_lets r
      have e3 : Kernel.Tame P s r.1 := e1.tame.trans ((h1.capEffects_tame hl.1).trans capOutcome_tame)
      split
      · exact e3.trans (r.1.rescheduleRequired_same cfg).toSameObj.quiet.tame
      · exact e3
    have e' : s.restartCurrent.invokeThreadControlCaps cfg t effects outcome b = (s', _) := Except.ok.inj e
    rw [e'] at e2
    exact e2
  | bindNotification cap =>
    obtain ⟨s1, e2, e⟩ := bind_eq_ok.mp e
    cases e
    exact decodeBindNotification_tame hP e2
  | unbindNotification =>
    obtain ⟨s1, e2, e⟩ := bind_eq_ok.mp e
    cases e
    obtain ⟨-, e2⟩ := refuseIf_bind.mp e2
    cases e2
    exact (e1.trans (Kernel.unbindNotification_quiet _)).tame

lemma decodeSchedContextInvocation_quiet {inv : ScInvocation} {sc call}
    (e : s.decodeSchedContextInvocation cfg sc call inv = .ok s') : Kernel.Quiet s s' := by
  have e1 : Kernel.Quiet s s.restartCurrent := s.restartCurrent_calm.toQuiet
  cases inv with
  | consumed =>
    cases e
    have e2 := (s.restartCurrent.setConsumed_same cfg sc s.restartCurrent.ksCurThread call).toSameObj.quiet
    exact (e1.trans e2).trans (Kernel.setThreadState_quiet _ (by simp))
  | bindTcb t =>
    obtain ⟨-, e⟩ := refuseIf_bind.mp e
    obtain ⟨-, e⟩ := refuseIf_bind.mp e
    obtain ⟨-, e⟩ := refuseIf_bind.mp e
    cases e
    exact e1.trans (Kernel.schedContextBindTCB_quiet cfg _)
  | bindNtfn ntfn =>
    obtain ⟨-, e⟩ := refuseIf_bind.mp e
    obtain ⟨-, e⟩ := refuseIf_bind.mp e
    cases e
    exact e1.trans (Kernel.quiet_of_eq rfl rfl rfl rfl rfl)
  | unbindTcb t =>
    obtain ⟨-, e⟩ := refuseIf_bind.mp e
    obtain ⟨-, e⟩ := refuseIf_bind.mp e
    cases e
    exact e1.trans (Kernel.schedContextUnbindTCB_quiet cfg _)
  | unbindNtfn ntfn =>
    obtain ⟨-, e⟩ := refuseIf_bind.mp e
    cases e
    exact e1.trans (Kernel.schedContextUnbindNtfn_quiet _)
  | unbind =>
    obtain ⟨-, e⟩ := refuseIf_bind.mp e
    cases e
    exact ((e1.trans (Kernel.schedContextUnbindAllTCBs_quiet cfg _)).trans
      (Kernel.schedContextUnbindNtfn_quiet _)).trans (Kernel.schedContextUnbindReply_quiet _)
  | yieldTo =>
    change s.decodeYieldTo cfg sc call = _ at e
    unfold Kernel.decodeYieldTo at e
    split at e
    · cases e
    · obtain ⟨-, e⟩ := refuseIf_bind.mp e
      obtain ⟨-, e⟩ := refuseIf_bind.mp e
      obtain ⟨-, e⟩ := refuseIf_bind.mp e
      cases e
      exact e1.trans (Kernel.invokeYieldTo_quiet cfg _)

lemma decodeDomainInvocation_quiet {inv : DomainInvocation}
    (e : s.decodeDomainInvocation cfg inv = .ok s') : Kernel.Quiet s s' := by
  have e1 : Kernel.Quiet s s.restartCurrent := s.restartCurrent_calm.toQuiet
  cases inv with
  | set t dom =>
    obtain ⟨-, e⟩ := refuseIf_bind.mp e
    cases e
    exact e1.trans (Kernel.setDomain_quiet cfg _)
  | scheduleConfigure index domain duration =>
    obtain ⟨-, e⟩ := refuseIf_bind.mp e
    obtain ⟨-, e⟩ := refuseIf_bind.mp e
    obtain ⟨-, e⟩ := refuseIf_bind.mp e
    obtain ⟨-, e⟩ := refuseIf_bind.mp e
    obtain ⟨-, e⟩ := refuseIf_bind.mp e
    cases e
    exact e1.trans (Kernel.quiet_of_eq rfl rfl rfl rfl rfl)
  | scheduleSetStart index =>
    obtain ⟨-, e⟩ := refuseIf_bind.mp e
    obtain ⟨-, e⟩ := refuseIf_bind.mp e
    cases e
    have e2 : Kernel.Quiet s.restartCurrent { s.restartCurrent with
        ksDomScheduleStart := index, ksDomainTime := 0, ksDomScheduleIdx := cfg.domScheduleLength - 2 } :=
      Kernel.quiet_of_eq rfl rfl rfl rfl rfl
    exact (e1.trans e2).trans (Kernel.rescheduleRequired_same cfg _).toSameObj.quiet

lemma decodeInvocation_tame {inv : Invocation} {block call canDonate first b} (h : s.ObjInv [])
    (hc : s.isRunnable s.ksCurThread = true) (hl : inv.Legal cfg s) (hP : P → first = false → ¬ inv.BindsPending s)
    (e : s.decodeInvocation cfg block call canDonate first inv = .ok (s', b)) : Kernel.Tame P s s' := by
  have h1 := h.restartCurrent hc
  have e1 : Kernel.Quiet s s.restartCurrent := s.restartCurrent_calm.toQuiet
  cases inv with
  | refused e' => cases e
  | endpoint cap =>
    obtain ⟨-, e⟩ := refuseIf_bind.mp e
    cases e
    exact (e1.trans (Kernel.sendIPC_quiet cfg _)).tame
  | notification cap =>
    obtain ⟨-, e⟩ := refuseIf_bind.mp e
    cases e
    exact e1.tame.trans h1.sendSignal_tame
  | reply cap restart =>
    cases e
    exact (e1.trans (Kernel.doReplyTransfer_quiet cfg _)).tame
  | tcb t inv =>
    obtain ⟨hf, e⟩ := refuseIf_bind.mp e
    exact h.decodeTCBInvocation_tame hc hl.2 (fun p => hP p (by simpa using hf)) e
  | domain inv =>
    obtain ⟨-, e⟩ := refuseIf_bind.mp e
    obtain ⟨s1, e2, e⟩ := bind_eq_ok.mp e
    cases e
    exact (decodeDomainInvocation_quiet e2).tame
  | schedControl core length args target =>
    obtain ⟨-, e⟩ := refuseIf_bind.mp e
    obtain ⟨s1, e2, e⟩ := bind_eq_ok.mp e
    cases e
    obtain ⟨c, -, e3⟩ := bind_eq_ok.mp e2
    cases target with
    | none => cases e3
    | some sc =>
      cases e3
      exact (e1.trans (Kernel.invokeConfigureFlags_quiet cfg _)).tame
  | schedContext sc inv =>
    obtain ⟨-, e⟩ := refuseIf_bind.mp e
    obtain ⟨s1, e2, e⟩ := bind_eq_ok.mp e
    cases e
    exact (decodeSchedContextInvocation_quiet e2).tame
  | cancelBadgedSends cap =>
    obtain ⟨-, e⟩ := refuseIf_bind.mp e
    obtain ⟨-, e⟩ := refuseIf_bind.mp e
    cases e
    split
    · exact (e1.trans (Kernel.cancelBadgedSends_quiet cfg _)).tame
    · exact e1.tame
  | capOperation phase effects outcome =>
    obtain ⟨-, e⟩ := refuseIf_bind.mp e
    have e2 : Kernel.Tame P s ((Kernel.capEffects cfg effects s.restartCurrent).capOutcome cfg outcome).1 :=
      e1.tame.trans ((h1.capEffects_tame hl.1.1).trans capOutcome_tame)
    rw [Except.ok.inj e] at e2
    exact e2

/-! ## Entries -/

lemma finishInvocation_quiet {call} : Kernel.Quiet s (s.finishInvocation t call) := by
  unfold Kernel.finishInvocation
  split
  · extract_lets s1
    have e1 : Kernel.Quiet s s1 := by
      unfold s1
      split
      · exact Kernel.quiet_of_eq rfl rfl rfl rfl rfl
      · exact .refl s
    exact e1.trans (s1.setThreadState_quiet (by simp))
  · exact .refl s

lemma handleInvocation_tame {l : InvokeLookup} {call block canDonate first} (h : s.ObjInv [])
    (hc : s.isRunnable s.ksCurThread = true) (hl : l.Legal cfg s) (hP : P → first = false → ¬ l.BindsPending s) :
    Kernel.Tame P s (s.handleInvocation cfg call block canDonate first l).1 := by
  have hreg : ∀ t w, Kernel.Quiet s (s.setBadgeRegister t w) := fun _ _ => Kernel.quiet_of_eq rfl rfl rfl rfl rfl
  cases l with
  | failed =>
    unfold Kernel.handleInvocation
    dsimp only
    split
    · exact (s.handleFault_quiet cfg).tame
    · exact .refl s
  | found inv =>
    cases hd : s.decodeInvocation cfg block call canDonate first inv with
    | error e =>
      rw [Kernel.handleInvocation_error cfg s hd]
      dsimp only
      split
      · exact (hreg _ _).tame
      · exact .refl s
    | ok p =>
      have h' : Kernel.Tame P s p.1 := h.decodeInvocation_tame hc (hl inv rfl) hP hd
      rw [Kernel.handleInvocation_ok cfg s hd]
      split
      · exact h'
      · exact h'.trans finishInvocation_quiet.tame

lemma handleRecv_tame {block canReply} {r : RecvLookup} (h : s.ObjInv []) (hc : s.isRunnable s.ksCurThread = true) :
    Kernel.Tame P s (s.handleRecv cfg block canReply r) := by
  have hfault : Kernel.Tame P s (s.handleFault cfg s.ksCurThread .capFault) := (s.handleFault_quiet cfg).tame
  unfold Kernel.handleRecv
  split
  · exact hfault
  · split
    · split
      · split
        · exact hfault
        · exact h.receiveIPC_tame hc
      · exact h.receiveIPC_tame hc
    · exact hfault
  · split
    · exact s.receiveSignal_tame cfg
    · exact hfault

lemma handleInterrupt_tame {irq : Irq} (h : s.ObjInv []) : Kernel.Tame P s (s.handleInterrupt cfg irq) := by
  unfold Kernel.handleInterrupt
  split
  · exact .refl s
  · split
    · split
      · exact h.sendSignal_tame
      · exact .refl s
    · exact .refl s
  · have e : Kernel.Quiet s { s with ksReprogram := true } := Kernel.quiet_of_eq rfl rfl rfl rfl rfl
    exact e.tame

lemma afterPreemption_tame {irq : Irq} (h : s.ObjInv []) : Kernel.Tame P s (s.afterPreemption cfg irq) :=
  (s.mcsPreemptionPoint_quiet cfg).tame.trans h.mcsPreemptionPoint.handleInterrupt_tame

lemma invokeOnly_tame {l : InvokeLookup} {call block canDonate irq} (h : s.ObjInv [])
    (hc : s.isRunnable s.ksCurThread = true) (hl : l.Legal cfg s) (hP : P → ¬ l.BindsPending s) :
    Kernel.Tame P s (s.invokeOnly cfg call block canDonate l irq) := by
  unfold Kernel.invokeOnly
  extract_lets r
  have e1 : Kernel.Tame P s r.1 := h.handleInvocation_tame hc hl fun p _ => hP p
  split
  · have h1 : r.1.ObjInv [] := h.handleInvocation hc hl
    exact e1.trans h1.afterPreemption_tame
  · exact e1

lemma invokeThenRecv_tame {l : InvokeLookup} {rl : RecvLookup} {canReply irq} (h : s.ObjInv [])
    (hc : s.isRunnable s.ksCurThread = true) (hl : l.Legal cfg s) :
    Kernel.Tame P s (s.invokeThenRecv cfg canReply l rl irq) := by
  unfold Kernel.invokeThenRecv
  extract_lets r
  have h1 : r.1.ObjInv [] := h.handleInvocation hc hl
  have e1 : Kernel.Tame P s r.1 := h.handleInvocation_tame hc hl fun _ => nofun
  split
  · exact e1.trans h1.afterPreemption_tame
  · have ho : Kernel.Onward s r.1 := h.handleInvocation_onward hc hl
    refine e1.trans (h1.handleRecv_tame ?_)
    rw [ho.cur]
    exact ho.run hc

lemma replyThenRecv_tame {l : InvokeLookup} {rl : RecvLookup} (h : s.ObjInv [])
    (hc : s.isRunnable s.ksCurThread = true) (hl : l.Legal cfg s) : Kernel.Tame P s (s.replyThenRecv cfg l rl) := by
  unfold Kernel.replyThenRecv
  extract_lets r
  have h1 : r.1.ObjInv [] := h.handleInvocation hc hl
  have e1 : Kernel.Tame P s r.1 := h.handleInvocation_tame hc hl fun _ => nofun
  have ho : Kernel.Onward s r.1 := h.handleInvocation_onward hc hl
  have h2 : (r.1.assert (!r.2)).ObjInv [] := h1.same (r.1.assert_same _).toSameObj
  have e2 : Kernel.Tame P r.1 (r.1.assert (!r.2)) := (r.1.assert_same _).toSameObj.quiet.tame
  refine (e1.trans e2).trans (h2.handleRecv_tame ?_)
  show r.1.isRunnable r.1.ksCurThread = true
  rw [ho.cur]
  exact ho.run hc

lemma performSyscall_tame {sys : Syscall} {irq} (h : s.ObjInv []) (hc : s.isRunnable s.ksCurThread = true)
    (hl : sys.Legal cfg s irq) (hP : P → ¬ sys.BindsPending s) :
    Kernel.Tame P s (s.performSyscall cfg irq sys) := by
  cases sys with
  | send l | nbSend l | call l => exact h.invokeOnly_tame hc hl.1 hP
  | recv r | nbRecv r | wait r | nbWait r => exact h.handleRecv_tame hc
  | replyRecv l r => exact h.replyThenRecv_tame hc hl.1
  | nbSendRecv l r | nbSendWait l r => exact h.invokeThenRecv_tame hc hl.1
  | yield =>
    have e : Kernel.Quiet s (s.handleYield cfg) := by
      unfold Kernel.handleYield
      extract_lets sc consumed s1
      have e1 : Kernel.Quiet s s1 := s.chargeBudget_quiet cfg
      exact e1.trans (Kernel.quiet_of_eq rfl rfl rfl rfl rfl)
    exact e.tame

lemma ifBudget_tame {now} {block : Kernel → Kernel} (h : s.ObjInv [])
    (hb : ∀ s' : Kernel, s'.SameObjects s → s'.ObjInv [] → s' = ((s.updateTimestamp cfg now).checkBudgetRestart cfg).1 →
      ((s.updateTimestamp cfg now).checkBudgetRestart cfg).2 = true → Kernel.Tame P s' (block s')) :
    Kernel.Tame P s (s.ifBudget cfg now block) := by
  unfold Kernel.ifBudget
  extract_lets s1 r
  have e1 := s.updateTimestamp_same cfg now
  have e2 : Kernel.Quiet s r.1 := e1.toSameObj.quiet.trans (s1.checkBudgetRestart_quiet cfg)
  have h1 : r.1.ObjInv [] := (h.same e1.toSameObj).checkBudgetRestart
  split
  · rename_i hr
    have e3 := e1.trans (Kernel.checkBudgetRestart_same cfg _ hr)
    exact e2.tame.trans (hb r.1 ⟨⟨e3.obj.symm, e3.params.symm, e3.signals.symm⟩, e3.cur.symm⟩ h1 rfl hr)
  · exact e2.tame

/-- Each kernel entry handles signals correctly. -/
lemma handleEvent_tame {e : Event} (h : s.Settled) (hh : s.halted = false) (he : e.Legal cfg s) :
    Kernel.Tame (¬ e.BindsPending cfg s) s (s.handleEvent cfg e) := by
  have hexit : ∀ s' : Kernel, Kernel.Tame (¬ e.BindsPending cfg s) s s' →
      Kernel.Tame (¬ e.BindsPending cfg s) s (s'.exitKernel cfg) :=
    fun s' h' => h'.trans (s'.exitKernel_quiet cfg).tame
  cases e with
  | syscall now sys irq =>
    obtain ⟨-, hne, hl⟩ := he
    refine hexit _ (h.inv.ifBudget_tame fun s' e' h' hs' hr => ?_)
    have hl' : sys.Legal cfg s' irq := by
      rw [hs']
      exact hl hr
    clear hs'
    obtain ⟨r, c, n, u, f, heq⟩ := Kernel.SameObj.exists_eq ⟨e'.obj.symm, e'.params.symm, e'.signals.symm⟩
    have hcur := e'.cur
    clear e'
    subst heq
    refine h'.performSyscall_tame ?_ hl' fun hp hb => hp ⟨hr, hb⟩
    rw [← hcur]
    exact (congrArg ThreadState.isRunnable ((h.cur hh).resolve_right hne)).trans rfl
  | fault now f =>
    refine hexit _ (h.inv.ifBudget_tame fun s' _ _ _ _ => ?_)
    split
    · exact (s'.handleFault_quiet cfg).tame
    · exact .refl s'
  | setTLSBase now =>
    have e1 := s.updateTimestamp_same cfg now
    have e2 := e1.toSameObj.quiet.trans (Kernel.checkBudgetRestart_quiet cfg _)
    show Kernel.Tame _ s (if ((s.updateTimestamp cfg now).checkBudgetRestart cfg).2 then
      ((s.updateTimestamp cfg now).checkBudgetRestart cfg).1 else
      ((s.updateTimestamp cfg now).checkBudgetRestart cfg).1.exitKernel cfg)
    split
    · exact e2.tame
    · exact hexit _ e2.tame
  | interrupt now irq =>
    have e1 := s.updateTimestamp_same cfg now
    have h1 : ((s.updateTimestamp cfg now).checkBudget cfg).1.ObjInv [] := (h.inv.same e1.toSameObj).checkBudget
    exact hexit _ ((e1.toSameObj.quiet.trans (Kernel.checkBudget_quiet cfg _)).tame.trans h1.handleInterrupt_tame)

end ObjInv

/-! ## Runs -/

namespace Kernel

lemma configureSchedContext_quiet (cfg : KernelConfig) (s : Kernel) (t : TcbPtr) (sc : ScPtr) :
    Quiet s (s.configureSchedContext cfg t sc) := by
  unfold configureSchedContext
  extract_lets s1 s2
  have h1 : Quiet s s1 := quiet_of_eq rfl rfl rfl rfl rfl
  have h2 : Quiet s1 s2 := (s1.setSchedContext_same _ _).toSameObj.quiet
  exact (h1.trans h2).trans (quiet_of_eq rfl rfl rfl rfl rfl)

lemma boot_quiet (cfg : KernelConfig) (idle root : TcbPtr) (idleSC rootSC : ScPtr) (now : Nat) :
    Quiet (zeroKernel idle root idleSC rootSC) (boot cfg idle root idleSC rootSC now) := by
  unfold boot createInitialThread createIdleThread
  extract_lets s1 s2 s3
  have h1 : Quiet (zeroKernel idle root idleSC rootSC) s1 :=
    (setTsType_calm _ (by simp)).toQuiet.trans (configureSchedContext_quiet cfg _ _ _)
  have h2 : Quiet s1 s2 := s1.configureSchedContext_quiet cfg _ _
  have h3 : Quiet s2 s3 := by
    refine ⟨rfl, rfl, fun _ => .rfl, fun u hu => ?_, fun _ _ h => h⟩
    change update s2.tsType root .running u = _ at hu
    rw [update_apply] at hu
    split at hu
    · cases hu
    · exact hu
  exact ((h1.trans h2).trans h3).trans (quiet_of_eq rfl rfl rfl rfl rfl)

/-- No signal has been sent before booting. -/
lemma boot_recorded (cfg : KernelConfig) (idle root : TcbPtr) (idleSC rootSC : ScPtr) (now : Nat) :
    (∀ ntfn, ((boot cfg idle root idleSC rootSC now).exitKernel cfg).Recorded ntfn) ∧
      ((boot cfg idle root idleSC rootSC now).exitKernel cfg).Heard := by
  have h : Tame True (zeroKernel idle root idleSC rootSC) ((boot cfg idle root idleSC rootSC now).exitKernel cfg) :=
    ((boot_quiet cfg idle root idleSC rootSC now).trans (exitKernel_quiet cfg _)).tame
  exact ⟨h.recorded fun _ => ⟨trivial, nofun, fun _ => rfl⟩, h.heard trivial fun _ _ => nofun⟩

end Kernel

/-- The history of every notification is right in every reachable state. -/
lemma Reachable.recorded {cfg : KernelConfig} {s : Kernel} (h : Reachable cfg s) : ∀ ntfn, s.Recorded ntfn := by
  induction h with
  | boot => exact (Kernel.boot_recorded ..).1
  | step h hh he ih => exact (ObjInv.handleEvent_tame h.settled hh he).recorded ih

/-- What a notification does with the signals that are sent to it. -/
structure DeliversSignals (s : Kernel) (ntfn : NtfnPtr) : Prop where
  /-- All that was sent was delivered, or is pending. -/
  balance : sentBadges ntfn s.signals = deliveredBadges ntfn s.signals |||
    if s.ntfnState ntfn = .active then s.ntfnMsgIdentifier ntfn else 0
  /-- Each delivery is of the bits that were sent after the delivery before it. -/
  delivered : ∀ newer older t badge, s.signals = newer ++ .delivered ntfn t badge :: older →
    badge = sentSince ntfn older
  /-- No thread waits for a signal that is pending. -/
  active : s.ntfnState ntfn = .active → NotificationQueue s ntfn []

/-- No bit of a signal is lost or delivered twice. -/
theorem reachable_signals {cfg : KernelConfig} {s : Kernel} (h : Reachable cfg s) (ntfn : NtfnPtr) :
    DeliversSignals s ntfn := by
  have hr := h.recorded ntfn
  refine ⟨?_, fun newer older t badge e => ?_, fun ha => ?_⟩
  · rw [hr.prompt.balance]
    congr 1
    split
    · rename_i ha
      exact (hr.active ha).symm
    · rename_i ha
      exact hr.inactive ha
  · have hp := hr.prompt
    rw [e] at hp
    exact hp.delivered
  · obtain ⟨xs, q⟩ := (h.settled.inv.ntfnQueues ntfn)
    have hx : xs = [] := by
      by_contra hne
      have := q.waiting.mpr hne
      rw [ha] at this
      cases this
    rwa [hx] at q

/-- Two signals are sent to the notification that is bound to a waiting thread. -/
def serverSignals : List Event :=
  [invokeCall 23 (.notification ⟨20, 5, true, true⟩), invokeCall 24 (.notification ⟨20, 6, true, true⟩)]

def serverSignalled : Kernel :=
  handleEvents qemuConfig serverSignals serverStarted

set_option maxRecDepth 20000 in
lemma serverSignals_legal : eventsLegal qemuConfig serverSignals serverStarted := by
  refine .call (by decide +kernel) (by decide +kernel : _ = true) ?_
  exact .call (by decide +kernel) (by decide +kernel : _ = true) trivial

set_option maxRecDepth 20000 in
/-- The first signal has been delivered, the second is pending. -/
theorem reachable_signals_server : DeliversSignals serverSignalled 20 ∧ serverSignalled.badgeRegister 10 = 5 ∧
    serverSignalled.ntfnState 20 = .active ∧ serverSignalled.ntfnMsgIdentifier 20 = 6 :=
  ⟨reachable_signals (reachable_serverStarted.events serverSignals_legal) 20, by decide +kernel, by decide +kernel,
    by decide +kernel⟩

/-- A signal is not left pending while the thread that is bound to the notification waits for a message, in a
run that binds no active notification to a thread that already waits. -/
theorem heard_of_reachableIf {cfg : KernelConfig} {s : Kernel}
    (h : ReachableIf cfg (fun s e => ¬ e.BindsPending cfg s) s) : s.Heard := by
  induction h with
  | boot => exact (Kernel.boot_recorded ..).2
  | step h hh he hok ih => exact (ObjInv.handleEvent_tame h.reachable.settled hh he).heard hok ih

/-- Each entry of a run meets a condition when its turn comes. -/
def eventsMeet (cfg : KernelConfig) (ok : Kernel → Event → Prop) : List Event → Kernel → Prop
  | [], _ => True
  | e :: es, s => ok s e ∧ eventsMeet cfg ok es (s.handleEvent cfg e)

lemma ReachableIf.events {cfg : KernelConfig} {ok : Kernel → Event → Prop} {es : List Event} {s : Kernel}
    (h : ReachableIf cfg ok s) (hes : eventsLegal cfg es s) (hok : eventsMeet cfg ok es s) :
    ReachableIf cfg ok (handleEvents cfg es s) := by
  induction es generalizing s with
  | nil => exact h
  | cons e es ih => exact ih (.step h hes.1 hes.2.1 hok.1) hes.2.2 hok.2

set_option maxRecDepth 20000 in
/-- The notification that is bound is idle then. -/
lemma serverStart_bindsIdle :
    eventsMeet qemuConfig (fun s e => ¬ e.BindsPending qemuConfig s) serverStart qemuBooted := by
  iterate 14 refine ⟨fun h => h.2, ?_⟩
  refine ⟨fun h => absurd h.2.2.2.2.1 (by decide +kernel), ?_⟩
  iterate 4 refine ⟨fun h => h.2, ?_⟩
  trivial

set_option maxRecDepth 20000 in
/-- A signal is pending on a notification that is bound to a thread, which runs. -/
theorem heard_of_reachableIf_server : serverSignalled.Heard ∧ serverSignalled.ntfnState 20 = .active ∧
    serverSignalled.ntfnBoundTCB 20 = some 10 := by
  have h : ReachableIf qemuConfig (fun s e => ¬ e.BindsPending qemuConfig s) qemuBooted :=
    .boot (by decide) (by decide) (by decide)
  have hstarted := h.events serverStart_legal serverStart_bindsIdle
  exact ⟨heard_of_reachableIf (hstarted.events serverSignals_legal ⟨fun h => h.2, fun h => h.2, trivial⟩),
    by decide +kernel, by decide +kernel⟩

/-! ## A binding that comes too late -/

/-- The initial thread makes a thread that waits for a message, signals a notification, and binds it to that
thread. -/
def lateBinding : List Event :=
  [createCall 6 (.tcb 10), createCall 7 (.notification 20), createCall 8 (.endpoint 30),
    createCall 9 (.schedContext 40),
    .syscall 10 (.call (.found (.schedControl 0 5 (configureMessage 10000 10000) (some 40)))) .ignored,
    .syscall 11 (.call (.found (.tcb 10 (.setSchedParams 2 255 255 (some 40) none false)))) .ignored,
    .syscall 12 (.call (.found (.tcb 10 (.writeRegisters true)))) .ignored,
    .syscall 13 .yield .ignored,
    .syscall 14 (.wait (.endpoint ⟨30, 0, true, true, true, true⟩ .failed)) .ignored,
    .syscall 15 (.call (.found (.notification ⟨20, 5, true, true⟩))) .ignored,
    .syscall 16 (.call (.found (.tcb 10 (.bindNotification ⟨20, 5, true, true⟩)))) .ignored]

set_option maxRecDepth 20000 in
lemma lateBinding_legal :
    eventsLegal qemuConfig lateBinding ((Kernel.boot qemuConfig 1 2 3 4 5).exitKernel qemuConfig) := by
  refine .create (by decide +kernel) (by decide +kernel) ?_
  refine .create (by decide +kernel) (by decide +kernel) ?_
  refine .create (by decide +kernel) (by decide +kernel) ?_
  refine .create (by decide +kernel) (by decide +kernel) ?_
  refine .call (by decide +kernel) ?_ ?_
  · rintro sc ⟨⟩
    decide +kernel
  refine .call (by decide +kernel) ⟨by decide +kernel, by decide +kernel, ?_, nofun, nofun⟩ ?_
  · rintro sc ⟨⟩
    decide +kernel
  refine .call (by decide +kernel) ⟨by decide +kernel, trivial⟩ ?_
  refine .cons (by decide +kernel) ⟨by decide +kernel, by decide +kernel, fun _ => trivial⟩ ?_
  refine .cons (by decide +kernel) ⟨by decide +kernel, by decide +kernel, fun _ => ⟨by decide +kernel, nofun⟩⟩ ?_
  refine .call (by decide +kernel) (by decide +kernel : _ = true) ?_
  exact .call (by decide +kernel) ⟨by decide +kernel, (by decide +kernel : _ = true)⟩ trivial

set_option maxRecDepth 20000 in
/-- The thread has not been woken, and will not be by another signal. -/
theorem lateBinding_not_heard : ∃ s, Reachable qemuConfig s ∧ ¬ s.Heard := by
  refine ⟨_, reachable_qemu.events lateBinding_legal, fun h => ?_⟩
  exact h 20 10 (by decide +kernel) (by decide +kernel) (by decide +kernel)

end NexsKernel.Mcs
