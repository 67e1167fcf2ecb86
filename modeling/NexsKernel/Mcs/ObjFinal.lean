import NexsKernel.Mcs.ObjThread

/-!
# Deleting and creating objects

`finaliseCap` takes an object out of all relations before it stops to exist, and an object that does not
exist is in none when it is created.
-/

namespace NexsKernel.Mcs

open Function (update update_self update_of_ne update_apply)

namespace Kernel

/-- Only the state of communication and of the scheduler has changed. -/
structure IpcOnly (s s' : Kernel) : Prop where
  callStacks : s'.toCallStacks = s.toCallStacks
  bindings : s'.toBindings = s.toBindings
  objects : s'.toObjects = s.toObjects
  params : s'.toThreadParams = s.toThreadParams
  cur : s'.ksCurThread = s.ksCurThread

lemma SameObjects.ipcOnly {s s'} (h : SameObjects s s') : IpcOnly s s' :=
  ⟨congrArg _ h.obj, congrArg _ h.obj, congrArg _ h.obj, h.params, h.cur⟩

lemma IpcOnly.refl (s : Kernel) : IpcOnly s s :=
  ⟨rfl, rfl, rfl, rfl, rfl⟩

lemma IpcOnly.trans {s s' s''} (h : IpcOnly s s') (h' : IpcOnly s' s'') : IpcOnly s s'' :=
  ⟨h'.callStacks.trans h.callStacks, h'.bindings.trans h.bindings, h'.objects.trans h.objects,
    h'.params.trans h.params, h'.cur.trans h.cur⟩

variable (cfg : KernelConfig) (s : Kernel)

lemma setThreadState_ipcOnly (t : TcbPtr) (ts : ThreadState) : IpcOnly s (s.setThreadState t ts) :=
  (⟨rfl, rfl, rfl, rfl, rfl⟩ : IpcOnly s (s.setTsType t ts)).trans (scheduleTCB_same _ t).ipcOnly

lemma restartWaiter_ipcOnly (t : TcbPtr) : IpcOnly s (s.restartWaiter cfg t) :=
  (⟨rfl, rfl, rfl, rfl, rfl⟩ : IpcOnly s (s.setTsType t .restart)).trans (s.restartWaiter_same cfg t).ipcOnly

lemma replyUnlink_ipcOnly (r : ReplyPtr) (t : TcbPtr) : IpcOnly s (s.replyUnlink r t) := by
  unfold replyUnlink
  extract_lets s1 s2 s3 s4
  exact (⟨rfl, rfl, rfl, rfl, rfl⟩ : IpcOnly s s4).trans (s4.setThreadState_ipcOnly t .inactive)

lemma restartThreadIfNoFault_ipcOnly (t : TcbPtr) : IpcOnly s (s.restartThreadIfNoFault cfg t) := by
  unfold restartThreadIfNoFault
  split
  · exact s.restartWaiter_ipcOnly cfg t
  · exact s.setThreadState_ipcOnly t .inactive

lemma cancelOneIPC_ipcOnly (t : TcbPtr) : IpcOnly s (s.cancelOneIPC cfg t) := by
  unfold cancelOneIPC
  extract_lets s1
  have h1 : IpcOnly s s1 := by
    unfold s1
    split
    · split
      · exact s.replyUnlink_ipcOnly _ t
      · exact .refl s
    · exact .refl s
  exact h1.trans (s1.restartThreadIfNoFault_ipcOnly cfg t)

lemma cancelEachIPC_ipcOnly (fuel : Nat) (p : Option TcbPtr) : IpcOnly s (cancelEachIPC cfg fuel s p) := by
  induction fuel generalizing s p with
  | zero => exact s.fail_same.ipcOnly
  | succ fuel ih =>
    cases p with
    | none => exact .refl s
    | some t => exact (s.cancelOneIPC_ipcOnly cfg t).trans (ih _ _)

lemma cancelAllIPC_ipcOnly (ep : EpPtr) : IpcOnly s (s.cancelAllIPC cfg ep) := by
  unfold cancelAllIPC
  split
  · exact .refl s
  · extract_lets head s1 s2
    have h2 : IpcOnly s s2 := ⟨rfl, rfl, rfl, rfl, rfl⟩
    exact (h2.trans (s2.cancelEachIPC_ipcOnly cfg _ _)).trans (rescheduleRequired_same cfg _).ipcOnly

lemma restartWaiters_ipcOnly (fuel : Nat) (p : Option TcbPtr) : IpcOnly s (restartWaiters cfg fuel s p) := by
  induction fuel generalizing s p with
  | zero => exact s.fail_same.ipcOnly
  | succ fuel ih =>
    cases p with
    | none => exact .refl s
    | some t => exact (s.restartWaiter_ipcOnly cfg t).trans (ih _ _)

lemma cancelAllSignals_ipcOnly (ntfn : NtfnPtr) : IpcOnly s (s.cancelAllSignals cfg ntfn) := by
  unfold cancelAllSignals
  split
  · extract_lets head s1 s2
    have h2 : IpcOnly s s2 := ⟨rfl, rfl, rfl, rfl, rfl⟩
    exact (h2.trans (s2.restartWaiters_ipcOnly cfg _ _)).trans (rescheduleRequired_same cfg _).ipcOnly
  · exact .refl s

lemma setTcbPriority_ipcOnly (t : TcbPtr) (prio : Nat) : IpcOnly s (s.setTcbPriority t prio) :=
  ⟨rfl, rfl, rfl, rfl, rfl⟩

lemma reorderEP_ipcOnly (ep : EpPtr) (t : TcbPtr) : IpcOnly s (s.reorderEP ep t) := by
  unfold reorderEP
  exact ⟨rfl, rfl, rfl, rfl, rfl⟩

lemma reorderNTFN_ipcOnly (ntfn : NtfnPtr) (t : TcbPtr) : IpcOnly s (s.reorderNTFN ntfn t) := by
  unfold reorderNTFN
  exact ⟨rfl, rfl, rfl, rfl, rfl⟩

lemma setPriority_ipcOnly (t : TcbPtr) (prio : Nat) : IpcOnly s (s.setPriority cfg t prio) := by
  have hq : IpcOnly s (((((s.tcbSchedDequeue cfg t).setTcbPriority t prio).tcbSchedEnqueue cfg
    t)).rescheduleRequired cfg) := by
    have h1 := (s.tcbSchedDequeue_same cfg t).ipcOnly
    have h2 := h1.trans (setTcbPriority_ipcOnly _ t prio)
    exact (h2.trans (tcbSchedEnqueue_same cfg _ t).ipcOnly).trans (rescheduleRequired_same cfg _).ipcOnly
  unfold setPriority
  split
  · split
    · exact hq
    · exact s.setTcbPriority_ipcOnly t prio
  · split
    · exact hq
    · exact s.setTcbPriority_ipcOnly t prio
  · exact (s.setTcbPriority_ipcOnly t prio).trans (reorderEP_ipcOnly _ _ t)
  · exact (s.setTcbPriority_ipcOnly t prio).trans (reorderEP_ipcOnly _ _ t)
  · exact (s.setTcbPriority_ipcOnly t prio).trans (reorderNTFN_ipcOnly _ _ t)
  · exact s.setTcbPriority_ipcOnly t prio

lemma cancelSignal_ipcOnly (t : TcbPtr) (ntfn : NtfnPtr) : IpcOnly s (s.cancelSignal t ntfn) := by
  unfold cancelSignal
  extract_lets s1
  have h1 : IpcOnly s (s1.ntfnDequeue ntfn t) := ⟨rfl, rfl, rfl, rfl, rfl⟩
  exact h1.trans (setThreadState_ipcOnly _ t .inactive)

lemma cancelEpIPC_ipcOnly (t : TcbPtr) : IpcOnly s (s.cancelEpIPC t) := by
  unfold cancelEpIPC
  extract_lets ep s1 s2 s3
  have h2 : IpcOnly s s2 := ⟨rfl, rfl, rfl, rfl, rfl⟩
  have h3 : IpcOnly s s3 := by
    unfold s3
    split
    · split
      · exact h2.trans (s2.replyUnlink_ipcOnly _ t)
      · exact h2
    · exact h2
  exact h3.trans (s3.setThreadState_ipcOnly t .inactive)

/-- Cancelling a thread keeps the bindings. -/
lemma cancelIPC_bindings (t : TcbPtr) : (s.cancelIPC t).toBindings = s.toBindings := by
  unfold cancelIPC
  extract_lets s1
  have h1 : s1.toBindings = s.toBindings := rfl
  split
  · exact (s1.cancelEpIPC_ipcOnly t).bindings
  · exact (s1.cancelEpIPC_ipcOnly t).bindings
  · exact (s1.cancelSignal_ipcOnly t _).bindings
  · unfold replyRemoveTcb
    extract_lets s2
    split
    · rfl
    · exact (replyUnlink_ipcOnly _ _ t).bindings
  · exact h1

lemma replyUnlink_replyTCB_self (r : ReplyPtr) (t : TcbPtr) : (s.replyUnlink r t).replyTCB r = none := by
  have e : (s.replyUnlink r t).replyTCB r = update s.replyTCB r none r :=
    congrArg (fun o => o.replyTCB r) (s.replyUnlink_same r t).obj
  rw [e, update_self]

lemma replyRemove_replyTCB {r : ReplyPtr} {t : TcbPtr} : (s.replyRemove cfg r t).replyTCB r = none := by
  unfold replyRemove
  extract_lets s1
  split
  · rename_i sc hn
    unfold replyPop
    extract_lets s2
    have hn2 : s2.replyNext r = .head sc := hn
    split
    · exact replyUnlink_replyTCB_self _ r t
    · rename_i hne
      exact absurd hn2 (hne sc)
  · exact replyUnlink_replyTCB_self _ r t

/-- A receiver gives up its reply object. -/
lemma cancelIPC_receive {r : ReplyPtr} {t : TcbPtr} (ht : s.tsType t = .blockedOnReceive)
    (hr : s.replyObject t = some r) : (s.cancelIPC t).replyTCB r = none := by
  have e : s.cancelIPC t = (s.setTcbFault t .nullFault).cancelEpIPC t := by
    unfold cancelIPC
    extract_lets s1
    have ht1 : s1.tsType t = .blockedOnReceive := ht
    rw [ht1]
  rw [e]
  unfold cancelEpIPC
  extract_lets ep s1 s2 s3
  rw [s3.setThreadState_replyTCB]
  have ht2 : s2.tsType t = .blockedOnReceive := ht
  have hr2 : s2.replyObject t = some r := hr
  unfold s3
  rw [if_pos ht2, hr2]
  exact s2.replyUnlink_replyTCB_self r t

/-- What `completeYieldFrom` does to the bindings. -/
lemma completeYieldFrom_same (sc : ScPtr) : ∃ b, SameObjects { s with toBindings := b } (s.completeYieldFrom cfg sc) ∧
    b.tcbSchedContext = s.tcbSchedContext ∧ b.scTcb = s.scTcb ∧
    b.tcbBoundNotification = s.tcbBoundNotification ∧ b.scNotification = s.scNotification ∧
    (∀ u, s.tcbYieldTo u = none → b.tcbYieldTo u = none) ∧
    (Bound s.toBindings → b.scYieldFrom sc = none) := by
  unfold completeYieldFrom
  split
  · rename_i t ht
    cases hy : s.tcbYieldTo t with
    | none =>
      refine ⟨s.toBindings, ?_, rfl, rfl, rfl, rfl, fun _ h => h, fun h => ?_⟩
      · unfold schedContextCompleteYieldTo
        rw [hy]
        exact .refl s
      · rw [(h.yield t sc).mpr ht] at hy
        cases hy
    | some c =>
      refine ⟨_, s.schedContextCompleteYieldTo_same cfg hy, rfl, rfl, rfl, rfl,
        fun _ hu => update_none hu, fun h => ?_⟩
      have e := (h.yield t sc).mpr ht
      rw [hy] at e
      obtain rfl := Option.some.inj e
      exact update_self ..
  · rename_i hn
    exact ⟨s.toBindings, .refl s, rfl, rfl, rfl, rfl, fun _ h => h, fun _ => hn⟩

/-- The thread that has been suspended. -/
lemma suspend_self (t : TcbPtr) : (s.suspend cfg t).tsType t = .inactive ∧
    (s.suspend cfg t).tcbYieldTo t = none ∧ (s.suspend cfg t).tcbSchedContext = s.tcbSchedContext ∧
    (s.suspend cfg t).tcbBoundNotification = s.tcbBoundNotification := by
  unfold suspend
  extract_lets s1 s2 s3 s4
  have hb : s3.toBindings = s.toBindings := s.cancelIPC_bindings t
  have e : (s4.setThreadState t .inactive).toBindings = s4.toBindings := (s4.setThreadState_ipcOnly t _).bindings
  refine ⟨s4.setThreadState_self t .inactive, ?_, ?_, ?_⟩
  · refine (congrArg (fun b => b.tcbYieldTo t) e).trans ?_
    show s4.tcbYieldTo t = none
    unfold s4 schedContextCancelYieldTo
    split
    · exact update_self ..
    · assumption
  · refine (congrArg (fun b => b.tcbSchedContext) e).trans ?_
    refine Eq.trans ?_ (congrArg (fun b => b.tcbSchedContext) hb)
    unfold s4 schedContextCancelYieldTo
    split <;> rfl
  · refine (congrArg (fun b => b.tcbBoundNotification) e).trans ?_
    refine Eq.trans ?_ (congrArg (fun b => b.tcbBoundNotification) hb)
    unfold s4 schedContextCancelYieldTo
    split <;> rfl

/-- The states of endpoints and notifications after all threads have been restarted. -/
lemma cancelEachIPC_epState (fuel : Nat) (p : Option TcbPtr) :
    (cancelEachIPC cfg fuel s p).epState = s.epState := by
  induction fuel generalizing s p with
  | zero => rfl
  | succ fuel ih =>
    cases p with
    | none => rfl
    | some t =>
      obtain ⟨ts, r, e⟩ := s.cancelOneIPC_ipc cfg t
      have e' : (s.cancelOneIPC cfg t).epState = s.epState := congrArg (fun i => i.epState) e
      exact (ih _ _).trans e'

lemma cancelAllIPC_epState (ep : EpPtr) : (s.cancelAllIPC cfg ep).epState ep = .idle := by
  unfold cancelAllIPC
  split
  · rename_i h
    exact h
  · extract_lets head s1 s2
    have e := congrArg (fun o => o.epState ep) ((cancelEachIPC cfg walkFuel s2 head).rescheduleRequired_same cfg).obj
    refine e.trans ?_
    show (cancelEachIPC cfg walkFuel s2 head).epState ep = _
    rw [cancelEachIPC_epState]
    exact update_self ..

lemma restartWaiters_ntfnState (fuel : Nat) (p : Option TcbPtr) :
    (restartWaiters cfg fuel s p).ntfnState = s.ntfnState := by
  induction fuel generalizing s p with
  | zero => rfl
  | succ fuel ih =>
    cases p with
    | none => rfl
    | some t =>
      exact (ih _ _).trans (congrArg (fun o => o.ntfnState) (s.restartWaiter_same cfg t).obj)

lemma cancelAllSignals_ntfnState (ntfn : NtfnPtr) : (s.cancelAllSignals cfg ntfn).ntfnState ntfn ≠ .waiting := by
  unfold cancelAllSignals
  split
  · extract_lets head s1 s2
    have e := congrArg (fun o => o.ntfnState ntfn)
      ((restartWaiters cfg walkFuel s2 head).rescheduleRequired_same cfg).obj
    have e' : (restartWaiters cfg walkFuel s2 head).ntfnState ntfn = .idle := by
      rw [restartWaiters_ntfnState]
      exact update_self ..
    intro hw
    have := (e.trans e').symm.trans hw
    cases this
  · rename_i h
    exact h

end Kernel

namespace ObjInv

variable {cfg : KernelConfig} {s : Kernel} {t : TcbPtr} {ep : EpPtr} {ntfn : NtfnPtr} {r : ReplyPtr} {sc : ScPtr}

/-- The capability table of the objects changes. -/
lemma setObjects (h : s.ObjInv []) {o : Objects} (hl : LiveBindings s.toBindings o)
    (ha : LiveIpc s.toIpcState s.toCallStacks o) (hh : Handlers s.toThreadParams o) :
    Kernel.ObjInv { s with toObjects := o } [] :=
  { h with live := hl, alive := ha, handlers := hh }

lemma finaliseEndpoint (h : s.ObjInv []) (hn : NoHandler s ep) : (s.finaliseEndpoint cfg ep).ObjInv [] := by
  unfold Kernel.finaliseEndpoint
  extract_lets s1
  have h1 : s1.ObjInv [] := h.cancelAllIPC
  have hi := s.cancelAllIPC_epState cfg ep
  have hp := (s.cancelAllIPC_ipcOnly cfg ep).params
  change s1.epState ep = _ at hi
  change s1.toThreadParams = _ at hp
  clear_value s1
  refine h1.setObjects (o := { s1.toObjects with epExists := update s1.epExists ep false })
    { h1.live with } { h1.alive with ep := fun ep' hep => ?_ } fun t cap hc => ?_
  · by_cases e : ep' = ep
    · rw [e]
      exact hi
    · exact h1.alive.ep ep' ((update_of_ne e _ _).symm.trans hep)
  · obtain ⟨he, hv⟩ := h1.handlers t cap hc
    rw [hp] at hc
    exact ⟨(update_of_ne (hn t cap hc) _ _).trans he, hv⟩

/-- A notification that is not bound any more. -/
lemma finaliseNotification (h : s.ObjInv []) : (s.finaliseNotification cfg ntfn).ObjInv [] := by
  unfold Kernel.finaliseNotification
  extract_lets s1 s2 s3
  have h1 : s1.ObjInv [] := h.schedContextMaybeUnbindNtfn
  have hsc1 : s1.ntfnSchedContext ntfn = none := by
    unfold s1 Kernel.schedContextMaybeUnbindNtfn
    split
    · rename_i c hc
      have := (h.bound.scNtfn _ _).mpr hc
      unfold Kernel.schedContextUnbindNtfn
      rw [this]
      exact update_self ..
    · assumption
  have h2 : s2.ObjInv [] := h1.unbindMaybeNotification
  have hsc2 : s2.ntfnSchedContext ntfn = none := by
    unfold s2 Kernel.unbindMaybeNotification
    split <;> exact hsc1
  have htcb2 : s2.ntfnBoundTCB ntfn = none := by
    unfold s2 Kernel.unbindMaybeNotification
    split
    · exact update_self ..
    · assumption
  have h3 : s3.ObjInv [] := h2.cancelAllSignals
  have hst : s3.ntfnState ntfn ≠ .waiting := s2.cancelAllSignals_ntfnState cfg ntfn
  have hb : s3.toBindings = s2.toBindings := (s2.cancelAllSignals_ipcOnly cfg ntfn).bindings
  have hsc3 : s3.ntfnSchedContext ntfn = none := (congrArg (fun b => b.ntfnSchedContext ntfn) hb).trans hsc2
  have htcb3 : s3.ntfnBoundTCB ntfn = none := (congrArg (fun b => b.ntfnBoundTCB ntfn) hb).trans htcb2
  clear_value s3
  refine h3.setObjects (o := { s3.toObjects with ntfnExists := update s3.ntfnExists ntfn false })
    { h3.live with ntfnTcb := fun n hn => ?_, ntfnSc := fun n hn => ?_ }
    { h3.alive with ntfn := fun n hn => ?_ } h3.handlers
  all_goals
    by_cases e : n = ntfn
    · rw [e]
      assumption
    replace hn := (update_of_ne e _ _).symm.trans hn
  · exact h3.live.ntfnTcb n hn
  · exact h3.live.ntfnSc n hn
  · exact h3.alive.ntfn n hn

/-- A reply object that no thread uses. -/
lemma finaliseReply (h : s.ObjInv []) : (s.finaliseReply cfg r).ObjInv [] := by
  unfold Kernel.finaliseReply
  extract_lets s1
  have h1 : s1.ObjInv [] ∧ s1.replyTCB r = none := by
    unfold s1
    split
    · rename_i t ht
      split
      · rename_i hts
        exact ⟨h.replyRemove ht hts, s.replyRemove_replyTCB cfg⟩
      · rename_i hts
        exact ⟨h.cancelIPC (by simp), s.cancelIPC_receive hts ((h.replied.tcb r t).mp ht).1⟩
      · rename_i hts hts'
        exact absurd ((h.replied.tcb r t).mp ht).2 (not_or.mpr ⟨hts, hts'⟩)
    · exact ⟨h, by assumption⟩
  obtain ⟨h1, hr⟩ := h1
  clear_value s1
  refine h1.setObjects (o := { s1.toObjects with replyExists := update s1.replyExists r false })
    { h1.live with } { h1.alive with reply := fun r' hr' => ?_ } h1.handlers
  by_cases e : r' = r
  · rwa [e]
  · exact h1.alive.reply r' ((update_of_ne e _ _).symm.trans hr')

/-- A thread without a scheduling context, a notification and a state. -/
lemma finaliseTcb (h : s.ObjInv []) (ht : s.tcbExists t = true) : (s.finaliseTcb cfg t).ObjInv [] := by
  unfold Kernel.finaliseTcb
  extract_lets s1 s2 s3
  have h1 : s1.ObjInv [] := h.unbindNotification
  have ht1 : s1.tcbExists t = true := by
    unfold s1 Kernel.unbindNotification
    split <;> exact ht
  have hn1 : s1.tcbBoundNotification t = none := by
    unfold s1 Kernel.unbindNotification
    split
    · exact update_self ..
    · assumption
  have h2 : s2.ObjInv [] ∧ s2.tcbExists t = true ∧ s2.tcbBoundNotification t = none ∧
      s2.tcbSchedContext t = none := by
    unfold s2
    clear_value s1
    split
    · rename_i c hc
      have hc' := (h1.bound.sc t c).mp hc
      have hu : (s1.schedContextUnbindTCB cfg c).ObjInv [] := h1.schedContextUnbindTCB fun e =>
        h1.ne_idle ht1 (Option.some.inj (hc'.symm.trans e))
      have e := s1.schedContextUnbindTCB_same cfg hc'
      obtain ⟨b, e', hsc, -, hntfn, -⟩ := (s1.schedContextUnbindTCB cfg c).completeYieldFrom_same cfg c
      have ho := congrArg ObjState.toObjects e'.obj
      have hb := congrArg ObjState.toBindings e'.obj
      have ho' := congrArg ObjState.toObjects e.obj
      have hb' := congrArg ObjState.toBindings e.obj
      refine ⟨hu.completeYieldFrom, ?_, ?_, ?_⟩
      · exact (congrArg (fun o => o.tcbExists t) (ho.trans ho')).trans ht1
      · refine (congrArg (fun b => b.tcbBoundNotification t) hb).trans ?_
        refine (congrFun hntfn t).trans ?_
        exact (congrArg (fun b => b.tcbBoundNotification t) hb').trans hn1
      · refine (congrArg (fun b => b.tcbSchedContext t) hb).trans ?_
        refine (congrFun hsc t).trans ?_
        refine (congrArg (fun b => b.tcbSchedContext t) hb').trans ?_
        exact update_self ..
    · exact ⟨h1, ht1, hn1, by assumption⟩
  obtain ⟨h2, ht2, hn2, hc2⟩ := h2
  have h3 : s3.ObjInv [] := h2.suspend ht2
  obtain ⟨hts, hy, hc, hn⟩ := s2.suspend_self cfg t
  have hc3 : s3.tcbSchedContext t = none := (congrFun hc t).trans hc2
  have hn3 : s3.tcbBoundNotification t = none := (congrFun hn t).trans hn2
  change s3.tsType t = _ at hts
  change s3.tcbYieldTo t = _ at hy
  clear_value s3
  have hex : ∀ u, update s3.tcbExists t false u = false → u ≠ t → s3.tcbExists u = false :=
    fun u hu e => (update_of_ne e _ _).symm.trans hu
  refine h3.setObjects (o := { s3.toObjects with tcbExists := update s3.tcbExists t false })
    { h3.live with
      tcb := fun u hu hi => ?_
      tcbNtfn := fun u hu => ?_
      tcbYield := fun u hu => ?_
      idleTcb := ?_ }
    { h3.alive with tcb := fun u hu hi => ?_ } h3.handlers
  · by_cases e : u = t
    · rwa [e]
    · exact h3.live.tcb u (hex u hu e) hi
  · by_cases e : u = t
    · rwa [e]
    · exact h3.live.tcbNtfn u (hex u hu e)
  · by_cases e : u = t
    · rwa [e]
    · exact h3.live.tcbYield u (hex u hu e)
  · show update s3.tcbExists t false s3.ksIdleThread = false
    rw [update_apply]
    split
    · rfl
    · exact h3.live.idleTcb
  · by_cases e : u = t
    · rwa [e]
    · exact h3.alive.tcb u (hex u hu e) hi

/-- A scheduling context without threads, notification and call stack. -/
lemma finaliseSchedContext (h : s.ObjInv []) (hs : s.scExists sc = true) :
    (s.finaliseSchedContext cfg sc).ObjInv [] := by
  unfold Kernel.finaliseSchedContext
  extract_lets s1 s2 s3 s4
  have h1 : s1.ObjInv [] ∧ s1.scTcb sc = none := by
    unfold s1
    refine ⟨h.schedContextUnbindAllTCBs (h.scTcb_ne_idle hs), ?_⟩
    unfold Kernel.schedContextUnbindAllTCBs
    split
    · rename_i hne
      obtain ⟨t, ht⟩ := Option.ne_none_iff_exists'.mp hne
      have e := congrArg (fun o => o.scTcb sc) (s.schedContextUnbindTCB_same cfg ht).obj
      exact e.trans (update_self ..)
    · rename_i hne
      exact not_not.mp hne
  obtain ⟨h1, ht1⟩ := h1
  have h2 : s2.ObjInv [] := h1.schedContextUnbindNtfn
  have hn2 : s2.scTcb sc = none ∧ s2.scNotification sc = none := by
    unfold s2 Kernel.schedContextUnbindNtfn
    split
    · exact ⟨ht1, update_self ..⟩
    · exact ⟨ht1, by assumption⟩
  have h3 : s3.ObjInv [] := h2.schedContextUnbindReply
  have hn3 : s3.scTcb sc = none ∧ s3.scNotification sc = none ∧ s3.scReply sc = none := by
    unfold s3 Kernel.schedContextUnbindReply
    split
    · exact ⟨hn2.1, hn2.2, update_self ..⟩
    · exact ⟨hn2.1, hn2.2, by assumption⟩
  have h4 : s4.ObjInv [] := h3.completeYieldFrom
  have hn4 : s4.scTcb sc = none ∧ s4.scNotification sc = none ∧ s4.scReply sc = none ∧
      s4.scYieldFrom sc = none := by
    obtain ⟨b, e, -, hsc, -, hntfn, -, hy⟩ := s3.completeYieldFrom_same cfg sc
    have hb := congrArg ObjState.toBindings e.obj
    have hs := congrArg ObjState.toCallStacks e.obj
    refine ⟨?_, ?_, ?_, ?_⟩
    · exact ((congrArg (fun b => b.scTcb sc) hb).trans (congrFun hsc sc)).trans hn3.1
    · exact ((congrArg (fun b => b.scNotification sc) hb).trans (congrFun hntfn sc)).trans hn3.2.1
    · exact (congrArg (fun c => c.scReply sc) hs).trans hn3.2.2
    · exact (congrArg (fun b => b.scYieldFrom sc) hb).trans (hy h3.bound)
  obtain ⟨htcb, hntfn, hreply, hyield⟩ := hn4
  clear_value s4
  have hex : ∀ c, update s4.scExists sc false c = false → c ≠ sc → s4.scExists c = false :=
    fun c hc e => (update_of_ne e _ _).symm.trans hc
  refine h4.setObjects (o := { s4.toObjects with scExists := update s4.scExists sc false })
    { h4.live with
      sc := fun c hc hi => ?_
      scNtfn := fun c hc => ?_
      scYield := fun c hc => ?_
      idleSc := ?_ }
    { h4.alive with sc := fun c hc => ?_ } h4.handlers
  · by_cases e : c = sc
    · rwa [e]
    · exact h4.live.sc c (hex c hc e) hi
  · by_cases e : c = sc
    · rwa [e]
    · exact h4.live.scNtfn c (hex c hc e)
  · by_cases e : c = sc
    · rwa [e]
    · exact h4.live.scYield c (hex c hc e)
  · show update s4.scExists sc false s4.ksIdleSC = false
    rw [update_apply]
    split
    · rfl
    · exact h4.live.idleSc
  · by_cases e : c = sc
    · rwa [e]
    · exact h4.alive.sc c (hex c hc e)

lemma finaliseCap {o : ObjRef} (h : s.ObjInv []) (ho : o.Exists s) (hn : ∀ ep, o = .endpoint ep → NoHandler s ep) :
    (s.finaliseCap cfg o).ObjInv [] := by
  cases o with
  | tcb t => exact h.finaliseTcb ho
  | endpoint ep => exact h.finaliseEndpoint (hn ep rfl)
  | notification ntfn => exact h.finaliseNotification
  | reply r => exact h.finaliseReply
  | schedContext sc => exact h.finaliseSchedContext ho

end ObjInv

end NexsKernel.Mcs
