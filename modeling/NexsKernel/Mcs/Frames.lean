import NexsKernel.Mcs.Entry

/-!
# What the scheduler leaves alone

The queues of the scheduler, the refills and the clock are not part of an object's state, so that the
operations on them keep `ObjState`, the history of signals and the handlers of threads.
-/

namespace NexsKernel.Mcs

namespace Kernel

/-- The parts that the scheduler does not change. -/
structure SameObj (s s' : Kernel) : Prop where
  obj : s'.toObjState = s.toObjState
  params : s'.toThreadParams = s.toThreadParams
  signals : s'.signals = s.signals

/-- The same, and the current thread is the same. -/
structure SameObjects (s s' : Kernel) : Prop extends SameObj s s' where
  cur : s'.ksCurThread = s.ksCurThread

lemma SameObj.refl (s : Kernel) : SameObj s s :=
  ⟨rfl, rfl, rfl⟩

lemma SameObj.trans {s s' s'' : Kernel} (h : SameObj s s') (h' : SameObj s' s'') : SameObj s s'' :=
  ⟨h'.obj.trans h.obj, h'.params.trans h.params, h'.signals.trans h.signals⟩

lemma SameObjects.refl (s : Kernel) : SameObjects s s :=
  ⟨.refl s, rfl⟩

lemma SameObjects.trans {s s' s'' : Kernel} (h : SameObjects s s') (h' : SameObjects s' s'') :
    SameObjects s s'' :=
  ⟨h.toSameObj.trans h'.toSameObj, h'.cur.trans h.cur⟩

/-- All that the scheduler can change. -/
lemma SameObj.exists_eq {s s' : Kernel} (h : SameObj s s') :
    ∃ r c n u, ∃ f : Bool × Bool, s' = { s with
      toRunQueues := r, toScStates := c, toNodeState := n, toUserContexts := u, toGhost := ⟨f.1, f.2, s.signals⟩ } := by
  obtain ⟨h1, h2, h3⟩ := h
  obtain ⟨o', r, p', c, n, u, ⟨f, f', l⟩⟩ := s'
  cases h1
  cases h2
  cases h3
  exact ⟨r, c, n, u, (f, f'), rfl⟩

variable (cfg : KernelConfig) (s : Kernel)

lemma fail_same : SameObjects s s.fail :=
  ⟨⟨rfl, rfl, rfl⟩, rfl⟩

lemma assert_same (b : Bool) : SameObjects s (s.assert b) :=
  ⟨⟨rfl, rfl, rfl⟩, rfl⟩

lemma assertSporadic_same (sc : Option ScPtr) : SameObjects s (s.assertSporadic sc) := by
  unfold assertSporadic
  split
  · exact s.assert_same _
  · exact .refl s

lemma tcbSchedEnqueue_same (t : TcbPtr) : SameObjects s (s.tcbSchedEnqueue cfg t) :=
  ⟨⟨rfl, rfl, rfl⟩, rfl⟩

lemma tcbSchedAppend_same (t : TcbPtr) : SameObjects s (s.tcbSchedAppend cfg t) :=
  ⟨⟨rfl, rfl, rfl⟩, rfl⟩

lemma tcbSchedDequeue_same (t : TcbPtr) : SameObjects s (s.tcbSchedDequeue cfg t) :=
  ⟨⟨rfl, rfl, rfl⟩, rfl⟩

lemma tcbReleaseRemove_same (t : TcbPtr) : SameObjects s (s.tcbReleaseRemove t) :=
  ⟨⟨rfl, rfl, rfl⟩, rfl⟩

lemma setSchedContext_same (sc : ScPtr) (result : Except Halt SchedContext) :
    SameObjects s (s.setSchedContext sc result) := by
  unfold setSchedContext
  split <;> exact ⟨⟨rfl, rfl, rfl⟩, rfl⟩

lemma refillUnblockCheck_same (sc : ScPtr) : SameObjects s (s.refillUnblockCheck cfg sc) := by
  have h := s.setSchedContext_same sc ((s.schedContext sc).refillUnblockCheck cfg.toTimerConfig s.ksCurTime)
  exact ⟨⟨h.obj, h.params, h.signals⟩, h.cur⟩

lemma unblockSporadic_same (sc : Option ScPtr) : SameObjects s (s.unblockSporadic cfg sc) := by
  unfold unblockSporadic
  extract_lets s1
  have h1 : SameObjects s s1 := s.assertSporadic_same sc
  split
  · split
    · exact h1.trans (s1.refillUnblockCheck_same cfg _)
    · exact h1
  · exact h1

lemma unblockSporadicAssert_same (sc : Option ScPtr) :
    SameObjects s (s.unblockSporadicAssert cfg sc) := by
  unfold unblockSporadicAssert
  split
  · exact (s.assert_same _).trans (unblockSporadic_same cfg _ _)
  · exact .refl s

lemma rescheduleRequired_same : SameObjects s (s.rescheduleRequired cfg) := by
  unfold rescheduleRequired
  split
  · split <;> exact ⟨⟨rfl, rfl, rfl⟩, rfl⟩
  · exact ⟨⟨rfl, rfl, rfl⟩, rfl⟩

lemma possibleSwitchTo_same (t : TcbPtr) : SameObjects s (s.possibleSwitchTo cfg t) := by
  unfold possibleSwitchTo
  split
  · split
    · exact s.tcbSchedEnqueue_same cfg t
    · split
      · exact (s.rescheduleRequired_same cfg).trans (tcbSchedEnqueue_same cfg _ t)
      · exact ⟨⟨rfl, rfl, rfl⟩, rfl⟩
  · exact .refl s

lemma scheduleTCB_eq (t : TcbPtr) : ∃ a, s.scheduleTCB t = { s with ksSchedulerAction := a } := by
  unfold scheduleTCB
  split
  · exact ⟨_, rfl⟩
  · exact ⟨s.ksSchedulerAction, rfl⟩

lemma scheduleTCB_same (t : TcbPtr) : SameObjects s (s.scheduleTCB t) := by
  obtain ⟨a, e⟩ := s.scheduleTCB_eq t
  rw [e]
  exact ⟨⟨rfl, rfl, rfl⟩, rfl⟩

lemma postpone_same (sc : ScPtr) : SameObjects s (s.postpone cfg sc) := by
  unfold postpone
  split <;> exact ⟨⟨rfl, rfl, rfl⟩, rfl⟩

lemma schedContextResume_same (sc : Option ScPtr) : SameObjects s (s.schedContextResume cfg sc) := by
  unfold schedContextResume
  split
  · exact .refl s
  · split
    · exact s.fail_same
    · split
      · split
        · exact .refl s
        · exact (s.assert_same _).trans (postpone_same cfg _ _)
      · exact .refl s

lemma setConsumed_same (sc : ScPtr) (t : TcbPtr) (w : Bool) :
    SameObjects s (s.setConsumed cfg sc t w) := by
  unfold setConsumed
  extract_lets s1
  have h1 : SameObjects s s1 := ⟨⟨rfl, rfl, rfl⟩, rfl⟩
  split
  · exact h1.trans ⟨⟨rfl, rfl, rfl⟩, rfl⟩
  · exact h1

lemma updateTimestamp_same (now : Nat) : SameObjects s (s.updateTimestamp cfg now) :=
  ⟨⟨rfl, rfl, rfl⟩, rfl⟩

lemma checkDomainTime_same : SameObjects s (s.checkDomainTime cfg) := by
  unfold checkDomainTime
  split
  · have h := rescheduleRequired_same cfg { s with ksReprogram := true }
    exact ⟨⟨h.obj, h.params, h.signals⟩, h.cur⟩
  · exact .refl s

lemma commitTime_same : SameObjects s (s.commitTime cfg) := by
  unfold commitTime
  extract_lets s1
  have h1 : SameObjects s s1 := by
    unfold s1
    split
    · exact s.setSchedContext_same _ _
    · exact .refl s
  exact h1.trans ⟨⟨rfl, rfl, rfl⟩, rfl⟩

lemma switchToThread_same (t : TcbPtr) : SameObj s (s.switchToThread cfg t) :=
  ⟨rfl, rfl, rfl⟩

lemma chooseThread_same : SameObj s (s.chooseThread cfg) := by
  unfold chooseThread
  extract_lets dom prio
  split
  · split
    · rename_i t _
      extract_lets s1 s2 s3
      have h3 : SameObj s s3 := ⟨rfl, rfl, rfl⟩
      exact h3.trans (s3.switchToThread_same cfg t)
    · exact s.fail_same.toSameObj
  · exact ⟨rfl, rfl, rfl⟩

lemma scheduleChooseNewThread_same : SameObj s (s.scheduleChooseNewThread cfg) := by
  unfold scheduleChooseNewThread
  extract_lets s1
  have h1 : SameObj s s1 := by
    unfold s1
    split
    · exact ⟨rfl, rfl, rfl⟩
    · exact .refl s
  exact h1.trans (s1.chooseThread_same cfg)

lemma tcbReleaseDequeue_same (t : TcbPtr) : SameObjects s (s.tcbReleaseDequeue cfg t) := by
  unfold tcbReleaseDequeue
  extract_lets s1 s2 s3 s4 s5
  have h5 : SameObjects s s5 := ⟨⟨rfl, rfl, rfl⟩, rfl⟩
  exact h5.trans (s5.possibleSwitchTo_same cfg t)

lemma awakenLoop_same (fuel : Nat) : SameObjects s (awakenLoop cfg fuel s) := by
  induction fuel generalizing s with
  | zero => exact s.fail_same
  | succ fuel ih =>
    unfold awakenLoop
    split
    · split
      · exact (s.tcbReleaseDequeue_same cfg _).trans (ih _)
      · exact .refl s
    · exact .refl s

lemma switchSchedContext_same : SameObjects s (s.switchSchedContext cfg) := by
  unfold switchSchedContext
  split
  · exact s.fail_same
  · rename_i sc _
    extract_lets s1 s2 s3 s4 s5
    have h2 : SameObjects s1 s2 := by
      unfold s2
      split
      · exact .refl s1
      · exact s1.refillUnblockCheck_same cfg sc
    have h4 : SameObjects s s4 := by
      unfold s4
      split
      · exact ⟨⟨h2.obj, h2.params, h2.signals⟩, h2.cur⟩
      · exact .refl s
    have h5 : SameObjects s s5 := by
      unfold s5
      split
      · exact h4.trans (s4.commitTime_same cfg)
      · exact h4
    exact h5.trans ⟨⟨rfl, rfl, rfl⟩, rfl⟩

lemma scheduleCandidate_same (wasRunnable : Bool) (c : TcbPtr) :
    SameObj s (s.scheduleCandidate cfg wasRunnable c) := by
  unfold scheduleCandidate
  extract_lets s1 fastfail s2 s3 s4 s5 s6
  have h3 : SameObj s s3 := ⟨rfl, rfl, rfl⟩
  have h5 : SameObj s s5 := ⟨rfl, rfl, rfl⟩
  have h6 : SameObj s s6 := ⟨rfl, rfl, rfl⟩
  split
  · exact h3.trans (s3.scheduleChooseNewThread_same cfg)
  · split
    · exact h5.trans (s5.scheduleChooseNewThread_same cfg)
    · exact h6.trans (s6.switchToThread_same cfg c)

lemma scheduleThread_same : SameObj s (s.scheduleThread cfg) := by
  unfold scheduleThread
  split
  · exact .refl s
  · extract_lets wasRunnable s1
    have h1 : SameObj s s1 := by
      unfold s1
      split
      · exact (s.tcbSchedEnqueue_same cfg _).toSameObj
      · exact .refl s
    split
    · exact h1.trans (s1.scheduleCandidate_same cfg _ _)
    · exact h1.trans (s1.scheduleChooseNewThread_same cfg)

lemma schedule_same : SameObj s (s.schedule cfg) := by
  unfold schedule
  extract_lets s1 s2 s3 s4 s5
  have h1 : SameObj s s1 := (s.awakenLoop_same cfg walkFuel).toSameObj
  have h2 : SameObj s s2 := h1.trans (s1.checkDomainTime_same cfg).toSameObj
  have h3 : SameObj s s3 := h2.trans (s2.scheduleThread_same cfg)
  have h4 : SameObj s s4 := h3.trans ⟨rfl, rfl, rfl⟩
  have h5 : SameObj s s5 := h4.trans (s4.switchSchedContext_same cfg).toSameObj
  split
  · exact h5.trans ⟨rfl, rfl, rfl⟩
  · exact h5

end Kernel

end NexsKernel.Mcs
