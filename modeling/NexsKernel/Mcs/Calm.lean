import NexsKernel.Mcs.Frames

/-!
# Which threads an operation touches

`Frame X s s'` says that an operation has changed the states of the threads in `X` only, and `Calm` that in
addition it has not signalled: no notification became active or was read, no thread started to receive, and
no notification was bound.
-/

namespace NexsKernel.Mcs

namespace Kernel

/-- Only threads in `X` have another state, and objects were neither created nor deleted. -/
structure Frame (X : Set TcbPtr) (s s' : Kernel) : Prop where
  objects : s'.toObjects = s.toObjects
  cur : s'.ksCurThread = s.ksCurThread
  tsType : ∀ u, u ∉ X → s'.tsType u = s.tsType u
  fault : ∀ u, u ∉ X → s'.tcbFault u = s.tcbFault u

/-- No signal was sent or delivered, and none is left where there was none. -/
structure Quiet (s s' : Kernel) : Prop where
  signals : s'.signals = s.signals
  msg : s'.ntfnMsgIdentifier = s.ntfnMsgIdentifier
  active : ∀ n, s'.ntfnState n = .active ↔ s.ntfnState n = .active
  receive : ∀ u, s'.tsType u = .blockedOnReceive → s.tsType u = .blockedOnReceive
  bound : ∀ n t, s'.ntfnBoundTCB n = some t → s.ntfnBoundTCB n = some t

/-- An operation on the threads in `X` that does not signal. -/
structure Calm (X : Set TcbPtr) (s s' : Kernel) : Prop extends Frame X s s', Quiet s s'

lemma Frame.trans {X s s' s''} (h : Frame X s s') (h' : Frame X s' s'') : Frame X s s'' :=
  ⟨h'.objects.trans h.objects, h'.cur.trans h.cur, fun u hu => (h'.tsType u hu).trans (h.tsType u hu),
    fun u hu => (h'.fault u hu).trans (h.fault u hu)⟩

lemma Frame.mono {X Y s s'} (h : Frame X s s') (hX : X ⊆ Y) : Frame Y s s' :=
  ⟨h.objects, h.cur, fun u hu => h.tsType u fun hu' => hu (hX hu'),
    fun u hu => h.fault u fun hu' => hu (hX hu')⟩

lemma Quiet.trans {s s' s''} (h : Quiet s s') (h' : Quiet s' s'') : Quiet s s'' :=
  ⟨h'.signals.trans h.signals, h'.msg.trans h.msg, fun n => (h'.active n).trans (h.active n),
    fun u hu => h.receive u (h'.receive u hu), fun n t hn => h.bound n t (h'.bound n t hn)⟩

lemma Calm.trans {X s s' s''} (h : Calm X s s') (h' : Calm X s' s'') : Calm X s s'' :=
  ⟨h.toFrame.trans h'.toFrame, h.toQuiet.trans h'.toQuiet⟩

lemma Calm.mono {X Y s s'} (h : Calm X s s') (hX : X ⊆ Y) : Calm Y s s' :=
  ⟨h.toFrame.mono hX, h.toQuiet⟩

lemma SameObjects.calm {X s s'} (h : SameObjects s s') : Calm X s s' := by
  obtain ⟨r, c, n, u, f, rfl⟩ := h.exists_eq
  exact ⟨⟨rfl, h.cur, fun _ _ => rfl, fun _ _ => rfl⟩,
    ⟨rfl, rfl, fun _ => Iff.rfl, fun _ h => h, fun _ _ h => h⟩⟩

lemma Calm.refl {X} (s : Kernel) : Calm X s s :=
  (SameObjects.refl s).calm

/-- A thread outside of `X` stays runnable. -/
lemma Frame.isRunnable {X s s' t} (h : Frame X s s') (ht : t ∉ X) : s'.isRunnable t = s.isRunnable t := by
  unfold Kernel.isRunnable
  rw [h.tsType t ht]

variable (cfg : KernelConfig) (s : Kernel) {t : TcbPtr}

/-- A change of the state of a thread to one in which it does not receive. -/
lemma setTsType_calm {ts} (hts : ts ≠ .blockedOnReceive) : Calm {t} s (s.setTsType t ts) := by
  refine ⟨⟨rfl, rfl, fun u hu => ?_, fun _ _ => rfl⟩, ⟨rfl, rfl, fun _ => Iff.rfl, fun u hu => ?_, fun _ _ h => h⟩⟩
  · exact Function.update_of_ne hu _ _
  · change Function.update s.tsType t ts u = _ at hu
    by_cases hut : u = t
    · subst hut
      rw [Function.update_self] at hu
      exact absurd hu hts
    · rwa [Function.update_of_ne hut] at hu

lemma setThreadState_calm {ts} (hts : ts ≠ .blockedOnReceive) : Calm {t} s (s.setThreadState t ts) :=
  (s.setTsType_calm hts).trans (scheduleTCB_same _ t).calm

/-- Stores to the call stacks and bindings other than those of notifications. -/
lemma rebind_calm {X} {c : CallStacks} {b : Bindings} (hb : b.ntfnBoundTCB = s.ntfnBoundTCB) :
    Calm X s { s with toCallStacks := c, toBindings := b } :=
  ⟨⟨rfl, rfl, fun _ _ => rfl, fun _ _ => rfl⟩,
    ⟨rfl, rfl, fun _ => Iff.rfl, fun _ h => h, fun n t h => by rwa [← hb]⟩⟩

lemma setTcbFault_calm {f} : Calm {t} s (s.setTcbFault t f) :=
  ⟨⟨rfl, rfl, fun _ _ => rfl, fun _ hu => Function.update_of_ne hu _ _⟩,
    ⟨rfl, rfl, fun _ => Iff.rfl, fun _ h => h, fun _ _ h => h⟩⟩

lemma epDequeue_calm {X ep} : Calm X s (s.epDequeue ep t) :=
  ⟨⟨rfl, rfl, fun _ _ => rfl, fun _ _ => rfl⟩, ⟨rfl, rfl, fun _ => Iff.rfl, fun _ h => h, fun _ _ h => h⟩⟩

/-- A notification whose queue is emptied was not active. -/
lemma ntfnDequeue_calm {X ntfn} (hn : s.ntfnState ntfn = .waiting) : Calm X s (s.ntfnDequeue ntfn t) := by
  refine ⟨⟨rfl, rfl, fun _ _ => rfl, fun _ _ => rfl⟩,
    ⟨rfl, rfl, fun n => ?_, fun _ h => h, fun _ _ h => h⟩⟩
  show (if _ then Function.update s.ntfnState ntfn .idle else s.ntfnState) n = _ ↔ _
  split
  · by_cases h : n = ntfn
    · simp [h, hn]
    · rw [Function.update_of_ne h]
  · rfl

lemma replyUnlink_calm {r} : Calm {t} s (s.replyUnlink r t) := by
  have h : Calm {t} s (s.setReplyTCB r none) :=
    ⟨⟨rfl, rfl, fun _ _ => rfl, fun _ _ => rfl⟩, ⟨rfl, rfl, fun _ => Iff.rfl, fun _ h => h, fun _ _ h => h⟩⟩
  unfold replyUnlink
  extract_lets s1 s2 s3 s4
  have h3 : Calm {t} s s3 := SameObjects.calm ⟨⟨rfl, rfl, rfl⟩, rfl⟩
  have h4 : Calm {t} s3 s4 :=
    ⟨⟨rfl, rfl, fun _ _ => rfl, fun _ _ => rfl⟩, ⟨rfl, rfl, fun _ => Iff.rfl, fun _ h => h, fun _ _ h => h⟩⟩
  exact (h3.trans h4).trans (s4.setThreadState_calm (by simp))

lemma takeFromDonor_calm {X sc} : Calm X s (s.takeFromDonor cfg sc) := by
  unfold takeFromDonor
  split
  · exact .refl s
  · extract_lets s1 s2 s3
    have h2 : Calm X s s2 := SameObjects.calm ⟨⟨rfl, rfl, rfl⟩, rfl⟩
    have h3 : Calm X s s3 := h2.trans (s2.rebind_calm rfl)
    split
    · exact h3.trans (s3.rescheduleRequired_same cfg).calm
    · exact h3

lemma schedContextDonate_calm {X sc dest} : Calm X s (s.schedContextDonate cfg sc dest) := by
  unfold schedContextDonate
  split
  · exact s.fail_same.calm
  · rename_i c
    extract_lets s1 s2 s3
    have h1 : Calm X s s1 := (s.assert_same _).calm
    have h2 : Calm X s s2 := h1.trans (s1.takeFromDonor_calm cfg)
    exact h2.trans (s2.rebind_calm rfl)

lemma setThreadStateBlockedOnReply_calm {r} : Calm {t} s (s.setThreadStateBlockedOnReply t r) := by
  unfold setThreadStateBlockedOnReply
  extract_lets s1 s2
  have h1 : Calm {t} s s1 := s.setTsType_calm (by simp)
  have h2 : Calm {t} s1 s2 :=
    ⟨⟨rfl, rfl, fun _ _ => rfl, fun _ _ => rfl⟩, ⟨rfl, rfl, fun _ => Iff.rfl, fun _ h => h, fun _ _ h => h⟩⟩
  exact (h1.trans h2).trans (s2.scheduleTCB_same t).calm

lemma replyPush_calm {callee r canDonate} : Calm {t} s (s.replyPush cfg t callee r canDonate) := by
  unfold replyPush
  extract_lets sc s1 s2 s3 s4 s5 s6 s7
  have h5 : Calm {t} s s5 := SameObjects.calm ⟨⟨rfl, rfl, rfl⟩, rfl⟩
  have h6 : Calm {t} s5 s6 :=
    ⟨⟨rfl, rfl, fun _ _ => rfl, fun _ _ => rfl⟩, ⟨rfl, rfl, fun _ => Iff.rfl, fun _ h => h, fun _ _ h => h⟩⟩
  have h : Calm {t} s s7 := (h5.trans h6).trans s6.setThreadStateBlockedOnReply_calm
  clear_value sc
  cases sc with
  | none => exact h
  | some sc =>
    show Calm {t} s (if _ then _ else _)
    split
    · refine h.trans ?_
      unfold replyPushDonate
      extract_lets s8 c s9
      have h9 : Calm {t} s7 s9 := (s7.assert_same _).calm.trans (s8.rebind_calm rfl)
      exact h9.trans (s9.schedContextDonate_calm cfg)
    · exact h

lemma replyPop_calm {r} : Calm {t} s (s.replyPop cfg r t) := by
  unfold replyPop
  extract_lets s1
  have h1 : Calm {t} s s1 := SameObjects.calm ⟨⟨rfl, rfl, rfl⟩, rfl⟩
  split
  · rename_i sc _
    extract_lets c s2 s3 c' s4
    have h2 : Calm {t} s s2 := h1.trans (s1.rebind_calm rfl)
    have h3 : Calm {t} s s3 := by
      unfold s3
      split
      · exact h2.trans (s2.schedContextDonate_calm cfg)
      · exact h2
    have h4 : Calm {t} s s4 := h3.trans (s3.rebind_calm rfl)
    exact h4.trans s4.replyUnlink_calm
  · exact h1.trans s1.fail_same.calm

lemma replyRemove_calm {r} : Calm {t} s (s.replyRemove cfg r t) := by
  unfold replyRemove
  extract_lets s1
  have h1 : Calm {t} s s1 := SameObjects.calm ⟨⟨rfl, rfl, rfl⟩, rfl⟩
  split
  · exact h1.trans (s1.replyPop_calm cfg)
  · exact h1.trans (Calm.trans (s1.rebind_calm rfl) (replyUnlink_calm _))

lemma replyRemoveTcb_calm : Calm {t} s (s.replyRemoveTcb t) := by
  unfold replyRemoveTcb
  extract_lets s1
  have h1 : Calm {t} s s1 := (s.assert_same _).calm
  split
  · exact h1.trans s1.fail_same.calm
  · exact h1.trans (Calm.trans (s1.rebind_calm rfl) (replyUnlink_calm _))

lemma cancelSignal_calm {ntfn} (hn : s.ntfnState ntfn = .waiting) : Calm {t} s (s.cancelSignal t ntfn) := by
  unfold cancelSignal
  extract_lets s1
  have h1 : Calm {t} s s1 := (s.assert_same _).calm
  exact h1.trans ((s1.ntfnDequeue_calm hn).trans (setThreadState_calm _ (by simp)))

lemma cancelEpIPC_calm : Calm {t} s (s.cancelEpIPC t) := by
  unfold cancelEpIPC
  extract_lets ep s1 s2 s3
  have h2 : Calm {t} s s2 := (s.assert_same _).calm.trans s1.epDequeue_calm
  have h3 : Calm {t} s s3 := by
    unfold s3
    split
    · split
      · exact h2.trans s2.replyUnlink_calm
      · exact h2
    · exact h2
  exact h3.trans (s3.setThreadState_calm (by simp))

/-- The notification at which a thread waits is not active. -/
lemma cancelIPC_calm (hn : s.tsType t = .blockedOnNotification → s.ntfnState (s.blockingObject t) = .waiting) :
    Calm {t} s (s.cancelIPC t) := by
  unfold cancelIPC
  extract_lets s1
  have h1 : Calm {t} s s1 := s.setTcbFault_calm
  split
  · exact h1.trans s1.cancelEpIPC_calm
  · exact h1.trans s1.cancelEpIPC_calm
  · rename_i hts
    exact h1.trans (s1.cancelSignal_calm (hn hts))
  · exact h1.trans s1.replyRemoveTcb_calm
  · exact h1

end Kernel

end NexsKernel.Mcs
