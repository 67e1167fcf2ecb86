import NexsKernel.Mcs.ObjBlock
import NexsKernel.Mcs.ObjIpc

/-!
# Threads and time

Suspending and restarting threads, faults, replies and the accounting of time keep the invariant of the
objects. The scheduler does not touch it.
-/

namespace NexsKernel.Mcs

namespace Kernel

variable (cfg : KernelConfig) (s : Kernel) {t : TcbPtr}

lemma isRunnable_of_isSchedulable (h : s.isSchedulable t = true) : s.isRunnable t = true := by
  unfold isSchedulable at h
  simp only [Bool.and_eq_true] at h
  exact h.1.1

lemma replyPop_self {r sc} (hn : s.replyNext r = .head sc) : (s.replyPop cfg r t).tsType t = .inactive := by
  unfold replyPop
  extract_lets s1
  have hn1 : s1.replyNext r = .head sc := hn
  split
  · exact replyUnlink_self ..
  · rename_i hne
    exact absurd hn1 (hne sc)

/-- The thread of a reply that is removed is inactive. -/
lemma replyRemove_self {r} : (s.replyRemove cfg r t).tsType t = .inactive := by
  unfold replyRemove
  extract_lets s1
  split
  · rename_i sc hn
    exact s1.replyPop_self cfg hn
  · exact replyUnlink_self ..

end Kernel

namespace ObjInv

variable {cfg : KernelConfig} {s : Kernel} {t : TcbPtr}

lemma handler_ep (h : s.ObjInv []) {cap} (hc : s.tcbFaultHandler t = some cap ∨ s.tcbTimeoutHandler t = some cap) :
    s.epExists cap.capEPPtr = true :=
  (h.handlers t cap hc).1

/-- `suspend` and `restart` change the state of a thread that they have cancelled. -/
lemma cancelThen {s' : Kernel} {ts} (h : s.ObjInv []) (ht : s.tcbExists t = true)
    (e : Kernel.SameObj (s.cancelIPC t) s') (hp : ts.Plain) : (s'.setThreadState t ts).ObjInv [] := by
  have hl := h.cancelIPC_loose (by simp) ht
  have hf := s.cancelIPC_tcbFault t
  have h' := (h.cancelIPC (t := t) (by simp)).same e
  obtain ⟨r, c, n, u, f, rfl⟩ := e.exists_eq
  exact h'.setPlain ⟨hl.waitsAt, hl.noReply, hl.tcbExists⟩ hp (.inr hf)

lemma suspend (h : s.ObjInv []) (ht : s.tcbExists t = true) : (s.suspend cfg t).ObjInv [] := by
  have hl := h.cancelIPC_loose (by simp) ht
  have h1 := h.cancelIPC (t := t) (by simp)
  unfold Kernel.suspend
  extract_lets s1 s2 s3 s4
  have h3 : s3.ObjInv [] :=
    (h1.same (s1.tcbSchedDequeue_same cfg t).toSameObj).same (s2.tcbReleaseRemove_same t).toSameObj
  have h4 : s4.ObjInv [] := h3.schedContextCancelYieldTo
  have e : ∃ b, Kernel.SameObj { s1 with toBindings := b } s4 := by
    unfold s4 Kernel.schedContextCancelYieldTo
    split
    · exact ⟨_, rfl, rfl, rfl⟩
    · exact ⟨_, rfl, rfl, rfl⟩
  obtain ⟨b, e⟩ := e
  obtain ⟨r, c, n, u, f, e⟩ := e.exists_eq
  rw [e] at h4 ⊢
  exact h4.setPlain ⟨hl.waitsAt, hl.noReply, hl.tcbExists⟩ trivial (.inl rfl)

lemma restart (h : s.ObjInv []) (ht : s.tcbExists t = true) : (s.restart cfg t).ObjInv [] := by
  unfold Kernel.restart
  split
  · extract_lets s1 s2 sc s3 s4
    have h2 : s2.ObjInv [] := h.cancelThen ht (.refl _) trivial
    have h4 : s4.ObjInv [] :=
      (h2.same (s2.unblockSporadic_same cfg sc).toSameObj).same (s3.schedContextResume_same cfg sc).toSameObj
    split
    · exact h4.same (s4.possibleSwitchTo_same cfg t).toSameObj
    · exact h4
  · exact h

lemma setDomain (h : s.ObjInv []) (dom : Nat) : (s.setDomain cfg t dom).ObjInv [] := by
  unfold Kernel.setDomain
  extract_lets s1 s2 s3
  have h2 : s2.ObjInv [] := { h with handlers := h.handlers }
  have h3 : s3.ObjInv [] := by
    unfold s3
    split
    · exact h2.same (s2.tcbSchedEnqueue_same cfg t).toSameObj
    · exact h2
  split
  · exact h3.same (s3.rescheduleRequired_same cfg).toSameObj
  · exact h3

/-- A fault message needs an endpoint, and a thread that is in no queue. -/
lemma sendFaultIPC {handler canDonate fault} (h : s.ObjInv []) (hl : s.Loose t)
    (hh : ∀ cap, handler = some cap → s.epExists cap.capEPPtr = true) :
    (s.sendFaultIPC cfg t handler canDonate fault).1.ObjInv [] := by
  unfold Kernel.sendFaultIPC
  split
  · rename_i cap
    extract_lets s1 s2 s3
    have h2 : s2.ObjInv [t] := h.ignore hl.waitsAt
    have h3 : s3.ObjInv [t] := h2.setTcbFault (.inr (by simp))
    exact h3.sendIPC ⟨hl.waitsAt, hl.noReply, hl.tcbExists⟩ (hh cap rfl) (by simp)
  · exact h

lemma handleFault {fault} (h : s.ObjInv []) (ht : s.isRunnable t = true) :
    (s.handleFault cfg t fault).ObjInv [] := by
  have hl := h.isRunnable_loose ht
  unfold Kernel.handleFault
  extract_lets r
  have h1 : r.1.ObjInv [] := h.sendFaultIPC hl fun cap hc => h.handler_ep (.inl hc)
  split
  · exact h1
  · rename_i hr
    cases hc : s.tcbFaultHandler t with
    | some cap => simp [r, Kernel.sendFaultIPC, hc] at hr
    | none =>
      have e : r = (s, false) := by simp [r, Kernel.sendFaultIPC, hc]
      rw [e]
      exact h.setPlain hl trivial (.inl rfl)

lemma handleTimeout (h : s.ObjInv []) (ht : s.isRunnable t = true) : (s.handleTimeout cfg t).ObjInv [] := by
  have hl := h.isRunnable_loose ht
  unfold Kernel.handleTimeout
  extract_lets s1
  have h1 : s1.ObjInv [] := h
  exact h1.sendFaultIPC ⟨hl.waitsAt, hl.noReply, hl.tcbExists⟩ fun cap hc => h.handler_ep (.inr hc)

lemma resumeReceiver {fault} (h : s.ObjInv []) : (s.resumeReceiver cfg t fault).ObjInv [] := by
  unfold Kernel.resumeReceiver
  split
  · split
    · rename_i hr
      split
      · exact h.same (s.possibleSwitchTo_same cfg t).toSameObj
      · split
        · exact h.handleTimeout hr
        · exact h.same (s.postpone_same cfg _).toSameObj
    · exact h
  · exact h

lemma replyToThread {b} (h : s.ObjInv []) (hl : s.Loose t) : (s.replyToThread t b).ObjInv [] := by
  unfold Kernel.replyToThread
  split
  · rename_i hf
    have h1 : (s.doIPCTransfer t 0).ObjInv [] := h
    exact h1.setPlain ⟨hl.waitsAt, hl.noReply, hl.tcbExists⟩ trivial (.inr hf)
  · extract_lets s1
    have h1 : s1.ObjInv [] := h.setTcbFault (.inl rfl)
    refine h1.setPlain ⟨hl.waitsAt, hl.noReply, hl.tcbExists⟩ ?_ (.inr (Function.update_self ..))
    split <;> trivial

lemma doReplyTransfer {r b} (h : s.ObjInv []) : (s.doReplyTransfer cfg r b).ObjInv [] := by
  unfold Kernel.doReplyTransfer
  split
  · rename_i u hu
    split
    · rename_i hts
      extract_lets s1 s2 s3 s4 f s5
      have h1 : s1.ObjInv [] := h.replyRemove hu hts
      have hl1 : s1.Loose u := by
        refine h1.loose ?_ ?_
        · unfold s1
          rw [s.replyRemove_self cfg]
          trivial
        · show s1.toObjects.tcbExists u = true
          unfold s1
          rw [(s.replyRemove_calm cfg).objects]
          exact h.tcbExists (by simp [hts]) (by simp [hts])
      have e4 : s1.SameObjects s4 :=
        (⟨⟨rfl, rfl, rfl⟩, rfl⟩ : s1.SameObjects s3).trans (s3.unblockSporadic_same cfg _)
      have h4 : s4.ObjInv [] := h1.same e4.toSameObj
      have hl4 : s4.Loose u := by
        obtain ⟨r, c, n, u, f, e⟩ := e4.exists_eq
        rw [e]
        exact ⟨hl1.waitsAt, hl1.noReply, hl1.tcbExists⟩
      exact (h4.replyToThread hl4).resumeReceiver
    · exact h
  · exact h

lemma endTimeslice {b} (h : s.ObjInv []) (ht : s.isRunnable s.ksCurThread = true) :
    (s.endTimeslice cfg b).ObjInv [] := by
  unfold Kernel.endTimeslice
  split
  · exact h.handleTimeout ht
  · split
    · exact (h.same (s.assert_same _).toSameObj).same (Kernel.tcbSchedAppend_same cfg _ _).toSameObj
    · exact h.same (s.postpone_same cfg _).toSameObj

lemma chargeBudget {consumed b} (h : s.ObjInv []) : (s.chargeBudget cfg consumed b).ObjInv [] := by
  unfold Kernel.chargeBudget
  extract_lets s1 s2 s3 s4 s5
  have h1 : s1.ObjInv [] := by
    unfold s1
    split
    · exact h.same (s.setSchedContext_same _ _).toSameObj
    · exact h
  have h2 : s2.ObjInv [] := h1
  have h3 : s3.ObjInv [] := h2
  split
  · rename_i hs
    have h4 : s4.ObjInv [] := h3.endTimeslice (s2.isRunnable_of_isSchedulable hs)
    have h5 : s5.ObjInv [] := h4.same (s4.rescheduleRequired_same cfg).toSameObj
    exact h5
  · exact h2

lemma checkBudget (h : s.ObjInv []) : (s.checkBudget cfg).1.ObjInv [] := by
  unfold Kernel.checkBudget
  extract_lets s1
  have h1 : s1.ObjInv [] := h
  split
  · exact h1
  · exact h1.chargeBudget

lemma checkBudgetRestart (h : s.ObjInv []) : (s.checkBudgetRestart cfg).1.ObjInv [] := by
  unfold Kernel.checkBudgetRestart
  extract_lets s1 r s2
  have h1 : s1.ObjInv [] := h
  have h2 : s2.ObjInv [] := h1.checkBudget
  split
  · rename_i hr
    simp only [Bool.and_eq_true] at hr
    exact h2.setPlain (h2.isRunnable_loose hr.2) trivial (.inr (h2.isRunnable_fault (by simp) hr.2))
  · exact h2

lemma mcsPreemptionPoint (h : s.ObjInv []) : (s.mcsPreemptionPoint cfg).ObjInv [] := by
  unfold Kernel.mcsPreemptionPoint
  split
  · exact h.checkBudget
  · split
    · exact h.chargeBudget
    · exact h

lemma schedule (h : s.ObjInv []) : (s.schedule cfg).ObjInv [] :=
  h.same (s.schedule_same cfg)

lemma activateThread (h : s.ObjInv []) : (s.activateThread cfg).ObjInv [] := by
  unfold Kernel.activateThread
  extract_lets s1 s2
  have h2 : s2.ObjInv [] := by
    unfold s2
    split
    · have h1 : s1.ObjInv [] := h.schedContextCompleteYieldTo
      exact h1
    · exact h
  split
  · exact h2
  · exact h2
  · rename_i hts
    have ht : s2.isRunnable s2.ksCurThread = true := by simp [Kernel.isRunnable, hts, ThreadState.isRunnable]
    exact h2.setPlain (h2.isRunnable_loose ht) trivial (.inr (h2.isRunnable_fault (by simp) ht))
  · exact h2.same s2.fail_same.toSameObj

end ObjInv

end NexsKernel.Mcs
