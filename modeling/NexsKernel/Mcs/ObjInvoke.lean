import NexsKernel.Mcs.ObjCreate

/-!
# Invocations and the objects

Each decode function keeps the invariant of the objects when the capabilities of the message refer to
objects that exist.
-/

namespace NexsKernel.Mcs

namespace Kernel

variable (cfg : KernelConfig) (s : Kernel) {t : TcbPtr}

lemma restartCurrent_ipcOnly : IpcOnly s s.restartCurrent :=
  s.setThreadState_ipcOnly _ _

lemma restartCurrent_calm : Calm {s.ksCurThread} s s.restartCurrent :=
  s.setThreadState_calm (by simp)

lemma restartCurrent_self : s.restartCurrent.tsType s.ksCurThread = .restart :=
  s.setThreadState_self _ _

lemma restartCurrent_cur : s.restartCurrent.ksCurThread = s.ksCurThread :=
  s.restartCurrent_ipcOnly.cur

lemma schedContextCancelYieldTo_calm {X} : Calm X s (s.schedContextCancelYieldTo t) := by
  unfold schedContextCancelYieldTo
  split
  · exact s.rebind_calm rfl
  · exact .refl s

/-- What `installTCBCap` leaves alone. -/
lemma installFaultHandler_same (fh : Option EndpointCap) (final : Bool) :
    (s.installFaultHandler cfg t fh final).toBindings = s.toBindings ∧
      (s.installFaultHandler cfg t fh final).tcbExists = s.tcbExists ∧
      (s.installFaultHandler cfg t fh final).scExists = s.scExists ∧
      (s.installFaultHandler cfg t fh final).ksIdleThread = s.ksIdleThread := by
  unfold installFaultHandler
  extract_lets s0 s1
  have h1 : s1.toBindings = s.toBindings ∧ s1.tcbExists = s.tcbExists ∧ s1.scExists = s.scExists ∧
      s1.ksIdleThread = s.ksIdleThread := by
    unfold s1
    split
    · rename_i old _
      split
      · have e := s0.cancelAllIPC_ipcOnly cfg old.capEPPtr
        exact ⟨e.bindings, congrArg (fun o => o.tcbExists) e.objects, congrArg (fun o => o.scExists) e.objects,
          congrArg (fun o => o.ksIdleThread) e.objects⟩
      · exact ⟨rfl, rfl, rfl, rfl⟩
    · exact ⟨rfl, rfl, rfl, rfl⟩
  split <;> exact h1

end Kernel

namespace ObjInv

variable {cfg : KernelConfig} {s s' : Kernel} {t : TcbPtr} {sc : ScPtr}

lemma restartCurrent (h : s.ObjInv []) (hc : s.isRunnable s.ksCurThread = true) : s.restartCurrent.ObjInv [] :=
  h.setPlain (h.isRunnable_loose hc) trivial (.inr (h.isRunnable_fault (by simp) hc))

lemma setRunning (h : s.ObjInv []) (ht : s.isRunnable t = true) : (s.setThreadState t .running).ObjInv [] :=
  h.setPlain (h.isRunnable_loose ht) trivial (.inr (h.isRunnable_fault (by simp) ht))

lemma restartCurrent_runnable : s.restartCurrent.isRunnable s.ksCurThread = true := by
  unfold Kernel.isRunnable
  rw [s.restartCurrent_self]
  rfl

lemma suspend_calm (h : s.ObjInv []) : Kernel.Calm {t} s (s.suspend cfg t) := by
  unfold Kernel.suspend
  extract_lets s1 s2 s3 s4
  have h1 : Kernel.Calm {t} s s1 := h.cancelIPC_calm (by simp)
  have h3 : Kernel.Calm {t} s s3 :=
    (h1.trans (s1.tcbSchedDequeue_same cfg t).calm).trans (s2.tcbReleaseRemove_same t).calm
  exact (h3.trans s3.schedContextCancelYieldTo_calm).trans (s4.setThreadState_calm (by simp))

lemma setMCPriority {mcp} (h : s.ObjInv []) : (s.setMCPriority t mcp).ObjInv [] :=
  { h with handlers := h.handlers }

/-- The old handler is taken out of its slot before its endpoint is deleted, and the new one is to an endpoint
that is left. -/
lemma installFaultHandler {fh final} (h : s.ObjInv []) (hfinal : final = true → FinalHandler s t fh)
    (hfh : ∀ cap, fh = some cap → HandlerLegal s cap) : (s.installFaultHandler cfg t fh final).ObjInv [] := by
  unfold Kernel.installFaultHandler
  extract_lets s0 s1
  have h1 : s1.ObjInv [] ∧ ∀ cap, fh = some cap → HandlerLegal s1 cap := by
    unfold s1
    split
    · rename_i old hold
      have h0 : s0.ObjInv [] := h.setFaultHandler (by simp)
      split
      · rename_i hf
        obtain ⟨hno, hne⟩ := hfinal hf old hold
        refine ⟨h0.finaliseEndpoint hno, fun cap hc => ⟨?_, (hfh cap hc).2⟩⟩
        have e := congrArg (fun o => o.epExists) (s0.cancelAllIPC_ipcOnly cfg old.capEPPtr).objects
        show Function.update (s0.cancelAllIPC cfg old.capEPPtr).epExists old.capEPPtr false cap.capEPPtr = true
        rw [Function.update_of_ne (hne cap hc)]
        exact (congrFun e _).trans (hfh cap hc).1
      · exact ⟨h0, fun cap hc => hfh cap hc⟩
    · exact ⟨h, hfh⟩
  split
  · exact h1.1.setFaultHandler fun c hc => h1.2 c hc
  · exact h1.1

lemma threadControlSchedContext {c : Option ScPtr} (h : s.ObjInv []) (ht : s.tcbExists t = true)
    (hb : ∀ sc, c = some sc → s.tcbSchedContext t = none ∧ s.scTcb sc = none ∧ s.scExists sc = true) :
    (s.threadControlSchedContext cfg t c).ObjInv [] := by
  unfold Kernel.threadControlSchedContext
  split
  · rename_i sc
    obtain ⟨h1, h2, h3⟩ := hb sc rfl
    exact h.schedContextBindTCB h2 h1 h3 ht
  · split
    · rename_i sc hsc
      refine h.schedContextUnbindTCB fun e => h.ne_idle ht ?_
      exact Option.some.inj (((h.bound.sc t sc).mp hsc).symm.trans e)
    · exact h.same s.fail_same.toSameObj

/-- `TCB_SetSchedParams` keeps the invariant. -/
lemma decodeSetSchedParams {auth mcp prio c fh final} (h : s.ObjInv []) (hc : s.isRunnable s.ksCurThread = true)
    (ht : s.tcbExists t = true) (hl : (TcbInvocation.setSchedParams auth mcp prio c fh final).Legal cfg s t)
    (e : s.decodeSetSchedParams cfg t auth mcp prio c fh final = .ok s') : s'.ObjInv [] := by
  obtain ⟨-, hsc, hfh, hfinal⟩ := hl
  -- the facts that the decode function has checked
  have key : ∀ (hv : Kernel.validFaultHandler fh = true)
      (hb : ∀ sc, c = some sc → s.tcbSchedContext t ≠ c → s.tcbSchedContext t = none ∧ s.scTcb sc = none),
      (let s1 := s.restartCurrent
       let s2 := s1.installFaultHandler cfg t fh final
       let s3 := s2.setMCPriority t mcp
       let s4 := s3.setPriority cfg t prio
       if decide (s.tcbSchedContext t ≠ c) then s4.threadControlSchedContext cfg t c else s4).ObjInv [] := by
    intro hv hb
    extract_lets s1 s2 s3 s4
    have hp : s1.toThreadParams = s.toThreadParams := s.restartCurrent_ipcOnly.params
    have ho : s1.toObjects = s.toObjects := s.restartCurrent_ipcOnly.objects
    have h1 : s1.ObjInv [] := h.restartCurrent hc
    have h2 : s2.ObjInv [] := by
      refine h1.installFaultHandler (fun hf => ?_) fun cap hcap => ⟨?_, ?_⟩
      · unfold FinalHandler NoHandler Kernel.setFaultHandler
        rw [hp]
        exact hfinal hf
      · exact (congrArg (fun o => o.epExists cap.capEPPtr) ho).trans (hfh cap hcap)
      · exact hcap ▸ hv
    have h4 : s4.ObjInv [] := h2.setMCPriority.setPriority prio
    split
    · rename_i hne
      rw [decide_eq_true_eq] at hne
      obtain ⟨e1, e2, e3, -⟩ := s1.installFaultHandler_same cfg (t := t) fh final
      have e4 := s3.setPriority_ipcOnly cfg t prio
      have hbind : s4.toBindings = s.toBindings := (e4.bindings.trans e1).trans s.restartCurrent_ipcOnly.bindings
      have htcb : s4.tcbExists = s.tcbExists :=
        ((congrArg (fun o => o.tcbExists) e4.objects).trans e2).trans (congrArg (fun o => o.tcbExists) ho)
      have hsce : s4.scExists = s.scExists :=
        ((congrArg (fun o => o.scExists) e4.objects).trans e3).trans (congrArg (fun o => o.scExists) ho)
      refine h4.threadControlSchedContext ((congrFun htcb t).trans ht) fun sc hsc' => ?_
      obtain ⟨hb1, hb2⟩ := hb sc hsc' hne
      exact ⟨(congrArg (fun b => b.tcbSchedContext t) hbind).trans hb1,
        (congrArg (fun b => b.scTcb sc) hbind).trans hb2, (congrFun hsce sc).trans (hsc sc hsc')⟩
    · exact h4
  unfold Kernel.decodeSetSchedParams Kernel.checkPrio at e
  obtain ⟨-, e⟩ := refuseIf_bind.mp e
  obtain ⟨-, e⟩ := refuseIf_bind.mp e
  cases c with
  | none =>
    obtain ⟨-, e⟩ := refuseIf_bind.mp e
    obtain ⟨hv, e⟩ := refuseIf_bind.mp e
    obtain rfl := Except.ok.inj e
    exact key (by simpa using hv) (by simp)
  | some sc =>
    obtain ⟨hb1, e⟩ := refuseIf_bind.mp e
    obtain ⟨hb2, e⟩ := refuseIf_bind.mp e
    obtain ⟨-, e⟩ := refuseIf_bind.mp e
    obtain ⟨hv, e⟩ := refuseIf_bind.mp e
    obtain rfl := Except.ok.inj e
    refine key (by simpa using hv) fun sc' hsc' hne => ?_
    obtain rfl := Option.some.inj hsc'
    exact ⟨by simpa [hne] using hb1, by simpa [hne] using hb2⟩

lemma copyRegisters {src b b'} (h : s.ObjInv []) (ht : s.tcbExists t = true) (hsrc : s.tcbExists src = true) :
    (s.invokeCopyRegisters cfg t src b b').ObjInv [] := by
  unfold Kernel.invokeCopyRegisters
  extract_lets s1 s2
  have h1 : s1.ObjInv [] ∧ s1.tcbExists t = true := by
    unfold s1
    split
    · exact ⟨h.suspend hsrc, (congrArg (fun o => o.tcbExists t) h.suspend_calm.objects).trans ht⟩
    · exact ⟨h, ht⟩
  have h2 : s2.ObjInv [] := by
    unfold s2
    split
    · exact h1.1.restart h1.2
    · exact h1.1
  split
  · exact h2.same (s2.rescheduleRequired_same cfg).toSameObj
  · exact h2

lemma readRegisters {b : Bool} (h : s.ObjInv []) (hc : s.isRunnable s.ksCurThread = true) (ht : s.tcbExists t = true)
    (hne : t ≠ s.ksCurThread) :
    (let s1 := if b then s.suspend cfg t else s; s1.setThreadState s1.ksCurThread .running).ObjInv [] := by
  extract_lets s1
  have h1 : s1.ObjInv [] ∧ s1.isRunnable s1.ksCurThread = true := by
    unfold s1
    split
    · have e : Kernel.Calm {t} s (s.suspend cfg t) := h.suspend_calm
      refine ⟨h.suspend ht, ?_⟩
      rw [e.cur]
      exact (e.isRunnable fun e' => hne e'.symm).trans hc
    · exact ⟨h, hc⟩
  exact h1.1.setRunning h1.2

lemma threadControlCaps {effects outcome b} (h : s.ObjInv []) (hl : effectsLegal cfg effects s) :
    (s.invokeThreadControlCaps cfg t effects outcome b).1.ObjInv [] := by
  unfold Kernel.invokeThreadControlCaps
  extract_lets r
  have h1 : r.1.ObjInv [] := (h.capEffects hl).capOutcome
  split
  · exact h1.same (r.1.rescheduleRequired_same cfg).toSameObj
  · exact h1

/-- Every invocation of a thread keeps the invariant. -/
lemma decodeTCBInvocation {inv : TcbInvocation} {b} (h : s.ObjInv []) (hc : s.isRunnable s.ksCurThread = true)
    (ht : s.tcbExists t = true) (hl : inv.Legal cfg s t)
    (e : s.decodeTCBInvocation cfg t inv = .ok (s', b)) : s'.ObjInv [] := by
  have h1 := h.restartCurrent hc
  have ho := s.restartCurrent_ipcOnly.objects
  have hb := s.restartCurrent_ipcOnly.bindings
  have hcur := s.restartCurrent_cur
  have hrun : s.restartCurrent.isRunnable s.ksCurThread = true := restartCurrent_runnable
  have ht1 : s.restartCurrent.tcbExists t = true := (congrArg (fun o => o.tcbExists t) ho).trans ht
  cases inv with
  | readRegisters b =>
    obtain ⟨hne, e⟩ := refuseIf_bind.mp e
    cases e
    exact h1.readRegisters (by rw [hcur]; exact hrun) ht1 (by rw [hcur]; exact hne)
  | writeRegisters b =>
    obtain ⟨hne, e⟩ := refuseIf_bind.mp e
    cases e
    have h2 : (if b then s.restartCurrent.restart cfg t else s.restartCurrent).ObjInv [] := by
      split
      · exact h1.restart ht1
      · exact h1
    generalize (if b then s.restartCurrent.restart cfg t else s.restartCurrent) = s2 at h2 ⊢
    split
    · exact h2.same (Kernel.rescheduleRequired_same cfg _).toSameObj
    · exact h2
  | copyRegisters src b b' =>
    cases e
    exact h1.copyRegisters ht1 (by rw [ho]; exact hl)
  | suspend =>
    cases e
    exact h1.suspend ht1
  | resume =>
    cases e
    exact h1.restart ht1
  | setPriority auth prio =>
    obtain ⟨-, e⟩ := refuseIf_bind.mp e
    cases e
    exact h1.setPriority prio
  | setMCPriority auth mcp =>
    obtain ⟨-, e⟩ := refuseIf_bind.mp e
    cases e
    exact h1.setMCPriority
  | setSchedParams auth mcp prio sc fh final =>
    obtain ⟨s1, e1, e⟩ := bind_eq_ok.mp e
    cases e
    exact h.decodeSetSchedParams hc ht hl e1
  | threadControlCaps effects outcome b =>
    have h2 : (s.restartCurrent.invokeThreadControlCaps cfg t effects outcome b).1.ObjInv [] :=
      h1.threadControlCaps hl.1
    rw [Except.ok.inj e] at h2
    exact h2
  | bindNotification cap =>
    obtain ⟨s1, e1, e⟩ := bind_eq_ok.mp e
    cases e
    obtain ⟨hn, e1⟩ := refuseIf_bind.mp e1
    obtain ⟨-, e1⟩ := refuseIf_bind.mp e1
    obtain ⟨hn', e1⟩ := refuseIf_bind.mp e1
    cases e1
    rw [not_not] at hn
    rw [not_or, not_not, not_not] at hn'
    exact h1.bindNotification ((congrArg (fun b => b.tcbBoundNotification t) hb).trans hn)
      ((congrArg (fun b => b.ntfnBoundTCB cap.capNtfnPtr) hb).trans hn'.2) ht1
      (by rw [ho]; exact hl)
  | unbindNotification =>
    obtain ⟨s1, e1, e⟩ := bind_eq_ok.mp e
    cases e
    obtain ⟨-, e1⟩ := refuseIf_bind.mp e1
    cases e1
    exact h1.unbindNotification

/-- `SchedContext_YieldTo` keeps the invariant. -/
lemma invokeYieldTo {call} (h : s.ObjInv []) (hc : s.isRunnable s.ksCurThread = true) (hs : s.scExists sc = true)
    (hy : s.tcbYieldTo s.ksCurThread = none) : (s.invokeYieldTo cfg sc t call).ObjInv [] := by
  have hl := h.isRunnable_loose hc
  have hf := h.isRunnable_fault (by simp) hc
  unfold Kernel.invokeYieldTo
  extract_lets s1 s2 s3 r s4
  obtain ⟨b, e, -, -, -, -, hy', hfrom⟩ := s.completeYieldFrom_same cfg sc
  have h1 : s1.ObjInv [] := h.completeYieldFrom
  have hfrom1 : s1.scYieldFrom sc = none :=
    (congrArg (fun o => o.scYieldFrom sc) e.obj).trans (hfrom h.bound)
  have hy1 : s1.tcbYieldTo s.ksCurThread = none :=
    (congrArg (fun o => o.tcbYieldTo s.ksCurThread) e.obj).trans (hy' _ hy)
  have e1 : Kernel.SameObjects s1 s3 :=
    (⟨⟨rfl, rfl, rfl⟩, rfl⟩ : Kernel.SameObjects s1 s2).trans (s2.schedContextResume_same cfg (some sc))
  have hcur : s3.ksCurThread = s.ksCurThread := e1.cur.trans e.cur
  have ho3 : s3.toObjState = { s.toObjState with toBindings := b } := e1.obj.trans e.obj
  have h3 : s3.ObjInv [] := h1.same e1.toSameObj
  have hy3 : s3.tcbYieldTo s.ksCurThread = none :=
    (congrArg (fun o => o.tcbYieldTo s.ksCurThread) e1.obj).trans hy1
  have hfrom3 : s3.scYieldFrom sc = none :=
    (congrArg (fun o => o.scYieldFrom sc) e1.obj).trans hfrom1
  -- the state and the fault of the caller are those from before
  have key : ∀ s' : Kernel, s'.ObjInv [] → s'.toIpcState = s.toIpcState → s'.ksCurThread = s.ksCurThread →
      ((s'.setConsumed cfg sc s'.ksCurThread call).setThreadState s'.ksCurThread .running).ObjInv [] := by
    intro s' h' hi hcur'
    have e' := s'.setConsumed_same cfg sc s'.ksCurThread call
    refine (h'.same e'.toSameObj).setRunning ?_
    unfold Kernel.isRunnable
    have := congrArg (fun o => o.tsType s'.ksCurThread) e'.obj
    refine (congrArg ThreadState.isRunnable (this.trans (congrArg (fun i => i.tsType s'.ksCurThread) hi))).trans ?_
    rw [hcur']
    exact hc
  have hi3 : s3.toIpcState = s.toIpcState := by rw [ho3]
  have hex : s3.toObjects = s.toObjects := by rw [ho3]
  have h4 : s4.ObjInv [] ∧ (r.2 = true → s4.toIpcState = s.toIpcState ∧ s4.ksCurThread = s.ksCurThread) := by
    unfold s4 r
    clear_value s3
    split
    · unfold Kernel.yieldToThread
      split
      · exact ⟨h3, fun _ => ⟨hi3, hcur⟩⟩
      · extract_lets s5 s6 s7 s8
        have h5 : s5.ObjInv [] := by
          refine h3.bindYield (hcur.symm ▸ hy3) hfrom3 ?_ ?_
          · rw [hcur]
            exact (congrArg (fun o => o.tcbExists s.ksCurThread) hex).trans hl.tcbExists
          · exact (congrArg (fun o => o.scExists sc) hex).trans hs
        have h8 : s8.ObjInv [] := h5
        exact ⟨h8.same (s8.rescheduleRequired_same cfg).toSameObj, nofun⟩
    · exact ⟨h3, fun _ => ⟨hi3, hcur⟩⟩
  split
  · rename_i hr
    exact key s4 h4.1 (h4.2 hr).1 (h4.2 hr).2
  · exact h4.1

/-- Every invocation of a scheduling context keeps the invariant. -/
lemma decodeSchedContextInvocation {inv : ScInvocation} {call} (h : s.ObjInv [])
    (hc : s.isRunnable s.ksCurThread = true) (hs : s.scExists sc = true) (hl : inv.Legal s)
    (e : s.decodeSchedContextInvocation cfg sc call inv = .ok s') : s'.ObjInv [] := by
  have h1 := h.restartCurrent hc
  have ho := s.restartCurrent_ipcOnly.objects
  have hb := s.restartCurrent_ipcOnly.bindings
  have hcur := s.restartCurrent_cur
  have hrun : s.restartCurrent.isRunnable s.restartCurrent.ksCurThread = true := by
    rw [hcur]
    exact restartCurrent_runnable
  have hs1 : s.restartCurrent.scExists sc = true := (congrArg (fun o => o.scExists sc) ho).trans hs
  cases inv with
  | consumed =>
    cases e
    have e' := s.restartCurrent.setConsumed_same cfg sc s.restartCurrent.ksCurThread call
    refine (h1.same e'.toSameObj).setRunning ?_
    exact (congrArg (fun o => (o.tsType s.restartCurrent.ksCurThread).isRunnable) e'.obj).trans hrun
  | bindTcb t =>
    obtain ⟨hn, e⟩ := refuseIf_bind.mp e
    obtain ⟨hn', e⟩ := refuseIf_bind.mp e
    obtain ⟨-, e⟩ := refuseIf_bind.mp e
    cases e
    exact h1.schedContextBindTCB ((congrArg (fun b => b.scTcb sc) hb).trans (not_not.mp hn))
      ((congrArg (fun b => b.tcbSchedContext t) hb).trans (not_not.mp hn')) hs1
      (by rw [ho]; exact hl)
  | bindNtfn ntfn =>
    obtain ⟨hn, e⟩ := refuseIf_bind.mp e
    obtain ⟨hn', e⟩ := refuseIf_bind.mp e
    cases e
    exact h1.schedContextBindNtfn ((congrArg (fun b => b.scNotification sc) hb).trans (not_not.mp hn))
      ((congrArg (fun b => b.ntfnSchedContext ntfn) hb).trans (not_not.mp hn')) hs1
      (by rw [ho]; exact hl)
  | unbindTcb t =>
    obtain ⟨-, e⟩ := refuseIf_bind.mp e
    obtain ⟨-, e⟩ := refuseIf_bind.mp e
    cases e
    exact h1.schedContextUnbindTCB (h1.scTcb_ne_idle hs1)
  | unbindNtfn ntfn =>
    obtain ⟨-, e⟩ := refuseIf_bind.mp e
    cases e
    exact h1.schedContextUnbindNtfn
  | unbind =>
    obtain ⟨-, e⟩ := refuseIf_bind.mp e
    cases e
    exact (h1.schedContextUnbindAllTCBs (h1.scTcb_ne_idle hs1)).schedContextUnbindNtfn.schedContextUnbindReply
  | yieldTo =>
    change s.decodeYieldTo cfg sc call = _ at e
    unfold Kernel.decodeYieldTo at e
    split at e
    · cases e
    · obtain ⟨-, e⟩ := refuseIf_bind.mp e
      obtain ⟨-, e⟩ := refuseIf_bind.mp e
      obtain ⟨hy, e⟩ := refuseIf_bind.mp e
      cases e
      refine h1.invokeYieldTo hrun hs1 ?_
      rw [hcur]
      exact (congrArg (fun b => b.tcbYieldTo s.ksCurThread) hb).trans (not_not.mp hy)

end ObjInv

end NexsKernel.Mcs
