import NexsKernel.Mcs.ObjBlock

/-!
# Signals

Sending, receiving and cancelling signals keeps the invariant of the objects.
-/

namespace NexsKernel.Mcs

open Function (update update_self update_of_ne)

namespace Kernel

variable (cfg : KernelConfig) (s : Kernel) (t : TcbPtr)

lemma setThreadState_obj (ts : ThreadState) : (s.setThreadState t ts).toObjState =
    { s.toObjState with tsType := update s.tsType t ts } :=
  ((s.setTsType t ts).scheduleTCB_same t).obj

lemma setThreadState_self (ts : ThreadState) : (s.setThreadState t ts).tsType t = ts := by
  show (s.setThreadState t ts).toObjState.tsType t = ts
  rw [setThreadState_obj]
  exact update_self ..

lemma replyUnlink_self (r : ReplyPtr) : (s.replyUnlink r t).tsType t = .inactive := by
  show (s.replyUnlink r t).toObjState.tsType t = _
  rw [(s.replyUnlink_same r t).obj]
  exact update_self ..

lemma replyUnlink_tcbFault (r : ReplyPtr) : (s.replyUnlink r t).tcbFault = s.tcbFault := by
  show (s.replyUnlink r t).toObjState.tcbFault = _
  rw [(s.replyUnlink_same r t).obj]

lemma cancelEpIPC_tcbFault : (s.cancelEpIPC t).tcbFault = s.tcbFault := by
  unfold cancelEpIPC
  extract_lets ep s1 s2 s3
  show (s3.setThreadState t .inactive).toObjState.tcbFault = _
  rw [setThreadState_obj]
  show s3.tcbFault = _
  unfold s3
  split
  · split
    · exact replyUnlink_tcbFault _ _ _
    · rfl
  · rfl

lemma replyRemoveTcb_tcbFault : (s.replyRemoveTcb t).tcbFault = s.tcbFault := by
  unfold replyRemoveTcb
  extract_lets s1
  split
  · rfl
  · exact replyUnlink_tcbFault _ _ _

lemma cancelSignal_tcbFault (ntfn : NtfnPtr) : (s.cancelSignal t ntfn).tcbFault = s.tcbFault := by
  unfold cancelSignal
  extract_lets s1
  show ((s1.ntfnDequeue ntfn t).setThreadState t .inactive).toObjState.tcbFault = _
  rw [setThreadState_obj]
  rfl

/-- A cancelled thread has no fault. -/
lemma cancelIPC_tcbFault : (s.cancelIPC t).tcbFault t = .nullFault := by
  have h : (s.setTcbFault t .nullFault).tcbFault t = .nullFault := update_self ..
  unfold cancelIPC
  extract_lets s1
  change s1.tcbFault t = _ at h
  split
  · rw [cancelEpIPC_tcbFault, h]
  · rw [cancelEpIPC_tcbFault, h]
  · rw [cancelSignal_tcbFault, h]
  · rw [replyRemoveTcb_tcbFault, h]
  · exact h

/-- A thread that waited is inactive after it is cancelled. -/
lemma cancelIPC_tsType (hr : s.tsType t = .blockedOnReply → s.replyObject t ≠ none) :
    (s.cancelIPC t).tsType t = if (s.tsType t).isBlocked then .inactive else s.tsType t := by
  unfold cancelIPC
  extract_lets s1
  have h1 : s1.tsType = s.tsType := rfl
  split
  case h_1 hts =>
    rw [if_pos (by rw [← h1, hts]; rfl)]
    exact setThreadState_self ..
  case h_2 hts =>
    rw [if_pos (by rw [← h1, hts]; rfl)]
    exact setThreadState_self ..
  case h_3 hts =>
    rw [if_pos (by rw [← h1, hts]; rfl)]
    exact setThreadState_self ..
  case h_4 hts =>
    rw [if_pos (by rw [← h1, hts]; rfl)]
    obtain ⟨r, hr⟩ := Option.ne_none_iff_exists'.mp (hr (by rw [← h1, hts]))
    unfold replyRemoveTcb
    extract_lets s2
    have : s2.replyObject t = some r := hr
    rw [this]
    exact replyUnlink_self ..
  case h_5 h2 h3 h4 h5 =>
    rw [if_neg, h1]
    revert h2 h3 h4 h5
    rw [h1]
    cases s.tsType t <;> simp [ThreadState.isBlocked]

lemma restartWaiter_same : SameObjects (s.setTsType t .restart) (s.restartWaiter cfg t) :=
  ((scheduleTCB_same _ t).trans (unblockSporadicAssert_same cfg _ _)).trans (possibleSwitchTo_same cfg _ t)

lemma restartWaiter_calm : Calm {t} s (s.restartWaiter cfg t) :=
  (s.setTsType_calm (by simp)).trans (s.restartWaiter_same cfg t).calm

end Kernel

namespace ObjInv

variable {cfg : KernelConfig} {s : Kernel} {L : List TcbPtr} {t : TcbPtr} {ntfn : NtfnPtr}

/-- The notification at which a thread waits. -/
lemma ntfn_waiting (h : s.ObjInv L) (hL : t ∉ L) (hts : s.tsType t = .blockedOnNotification) :
    s.ntfnState (s.blockingObject t) = .waiting := by
  obtain ⟨xs, q, l⟩ := h.waiting
  refine (l.waiting _).mpr (List.ne_nil_of_mem ((q.mem _ t).mpr ⟨?_, hL⟩))
  simp [IpcState.waitsAt, hts]

lemma cancelIPC_calm (h : s.ObjInv L) (hL : t ∉ L) : Kernel.Calm {t} s (s.cancelIPC t) :=
  s.cancelIPC_calm (h.ntfn_waiting hL)

/-- A cancelled thread does not wait. -/
lemma cancelIPC_loose (h : s.ObjInv L) (hL : t ∉ L) (ht : s.tcbExists t = true) :
    (s.cancelIPC t).Loose t := by
  refine (h.cancelIPC hL).loose ?_ ?_
  · rw [s.cancelIPC_tsType t (h.replied.object t)]
    split
    · trivial
    · rename_i hb
      have hi : s.tsType t ≠ .idleThreadState := fun e => h.ne_idle ht ((h.alive.idle t).mp e)
      revert hb hi
      cases s.tsType t <;> simp [ThreadState.isBlocked, ThreadState.Plain]
  · have := (h.cancelIPC_calm hL).objects
    show (s.cancelIPC t).toObjects.tcbExists t = true
    rw [this]
    exact ht

/-- The labels of notifications change, but not between waiting and not waiting. -/
lemma setNtfn (h : s.ObjInv L) {st : NtfnPtr → NtfnState} {m : NtfnPtr → Word}
    (hst : ∀ n, st n = .waiting ↔ s.ntfnState n = .waiting) :
    Kernel.ObjInv { s with ntfnState := st, ntfnMsgIdentifier := m } L := by
  obtain ⟨xs, q, l⟩ := h.waiting
  exact { h with
    waiting := ⟨xs, ⟨q.rep, q.mem, q.order, q.arrived⟩,
      ⟨l.idle, l.send, l.recv, fun n => (hst n).trans (l.waiting n)⟩⟩
    replied := ⟨h.replied.tcb, h.replied.object⟩
    alive := ⟨h.alive.tcb, h.alive.idle, h.alive.ep, fun n hn e => h.alive.ntfn n hn ((hst n).mp e),
      h.alive.reply, h.alive.sc⟩ }

/-- The state of a notification that does not wait. -/
lemma setNtfnState {st} (h : s.ObjInv L) (hs : s.ntfnState ntfn ≠ .waiting) (hst : st ≠ .waiting) :
    (s.setNtfnState ntfn st).ObjInv L := by
  refine h.setNtfn fun n => ?_
  by_cases e : n = ntfn
  · subst e
    rw [update_self]
    exact iff_of_false hst hs
  · rw [update_of_ne e]

/-- A thread outside of its queue wakes up with a signal. -/
lemma signalThread {badge} (h : s.ObjInv (t :: L)) (hn : ∀ r, s.replyTCB r ≠ some t)
    (ht : s.tcbExists t = true) (hf : s.tcbFault t = .nullFault) :
    (s.signalThread cfg ntfn t badge).ObjInv L := by
  unfold Kernel.signalThread
  extract_lets s1 s2 s3 s4
  have h1 : s1.ObjInv L := h.setThreadState hn ht trivial (.inr hf)
  have ht1 : s1.tcbExists t = true := by
    show s1.toObjState.tcbExists t = true
    rw [s.setThreadState_obj]
    exact ht
  have h3 : s3.ObjInv L := maybeDonateSchedContext (s := s2) h1 ht1
  have h4 : s4.ObjInv L := by
    unfold s4
    split
    · exact h3.same (s3.possibleSwitchTo_same cfg t).toSameObj
    · exact h3
  exact h4.same (s4.unblockSporadicAssert_same cfg _).toSameObj

/-- A signal goes to the bound thread, to a waiting one, or stays pending. -/
lemma sendSignal {badge} (h : s.ObjInv []) : (s.sendSignal cfg ntfn badge).ObjInv [] := by
  unfold Kernel.sendSignal
  extract_lets s1
  have h1 : s1.ObjInv [] := h
  split
  · rename_i hidle
    have hact : (s1.ntfnSetActive ntfn badge).ObjInv [] := by
      have hs : (s1.setNtfnState ntfn .active).ObjInv [] := h1.setNtfnState (by simp [hidle]) (by simp)
      exact hs.setNtfn fun n => Iff.rfl
    split
    · rename_i t _
      split
      · rename_i hts
        have ht := h1.tcbExists (t := t) (by simp [hts]) (by simp [hts])
        have hl := h1.cancelIPC_loose (by simp) ht
        exact ((h1.cancelIPC (by simp)).ignore hl.waitsAt).signalThread hl.noReply hl.tcbExists
          (s1.cancelIPC_tcbFault t)
      · exact hact
    · exact hact
  · rename_i hwait
    split
    · rename_i dest hq
      obtain ⟨hw, hL⟩ := h1.waitsAt_ntfn_head hq
      have hts : s1.tsType dest = .blockedOnNotification := by
        revert hw
        unfold IpcState.waitsAt
        cases s1.tsType dest <;> simp
      exact (h1.ntfnDequeue hw hL).signalThread (h1.replyTCB_ne (by simp [hts]) (by simp [hts]))
        (h1.tcbExists (by simp [hts]) (by simp [hts]))
        (h1.fault_eq_null hL (by simp [hts]) (by simp [hts]) (by simp [hts]))
    · exact h1.same s1.fail_same.toSameObj
  · exact h1.setNtfn fun n => Iff.rfl

/-- A thread reads the word of an active notification. -/
lemma takeSignal (h : s.ObjInv L) (hs : s.ntfnState ntfn = .active) (ht : s.tcbExists t = true) :
    (s.takeSignal cfg ntfn t).ObjInv L := by
  unfold Kernel.takeSignal
  extract_lets s1 s2
  have h1 : s1.ObjInv L := h
  have h2 : s2.ObjInv L := h1.setNtfnState (by show s.ntfnState ntfn ≠ _; simp [hs]) (by simp)
  exact h2.maybeDonateSchedContext ht

lemma receiveSignal {b} (h : s.ObjInv []) (ht : s.Loose t) (hf : s.tcbFault t = .nullFault)
    (hn : s.ntfnExists ntfn = true) : (s.receiveSignal cfg t ntfn b).ObjInv [] := by
  have hblock : (if b then (s.blockOnNtfn ntfn t).maybeReturnSchedContext cfg ntfn t
      else s.doNBRecvFailedTransfer t).ObjInv [] := by
    split
    · have hb := (h.ignore ht.waitsAt).blockOnNtfn (by simp) hf ht.noReply ht.tcbExists hn
      refine hb.maybeReturnSchedContext (hb.ne_idle ?_)
      unfold Kernel.blockOnNtfn
      extract_lets s1 s2 s3 r s4
      obtain ⟨a, e⟩ : ∃ a, s3 = { s2 with ksSchedulerAction := a } := s2.scheduleTCB_eq t
      clear_value s3
      subst e
      exact ht.tcbExists
    · exact h
  unfold Kernel.receiveSignal
  split
  · exact hblock
  · exact hblock
  · rename_i hs
    exact (h.takeSignal hs ht.tcbExists).same (Kernel.unblockSporadic_same cfg _ _).toSameObj

lemma completeSignal (h : s.ObjInv L) (ht : s.tcbExists t = true) :
    (s.completeSignal cfg ntfn t).ObjInv L := by
  unfold Kernel.completeSignal
  split
  · rename_i hs
    extract_lets s1
    have h1 : s1.ObjInv L := h.takeSignal hs ht
    split
    · exact h1.same (s1.unblockSporadic_same cfg _).toSameObj
    · exact h1.same (s1.assertSporadic_same _).toSameObj
  · exact h.same s.fail_same.toSameObj

lemma restartWaiter (h : s.ObjInv (t :: L)) (hn : ∀ r, s.replyTCB r ≠ some t)
    (ht : s.tcbExists t = true) (hf : s.tcbFault t = .nullFault) : (s.restartWaiter cfg t).ObjInv L := by
  have h1 : (s.setTsType t .restart).ObjInv L := h.setTsType hn ht trivial (.inr hf)
  exact h1.same (s.restartWaiter_same cfg t).toSameObj

/-- The loop of `cancelAllSignals`, along the links of the threads that were in the queue. -/
lemma restartWaiters {xs : List TcbPtr} {p fuel} (h : s.ObjInv (xs ++ L)) (hseg : Queue.Seg s.epLinks p xs none)
    (nd : xs.Nodup) (hf : xs.length < fuel)
    (hts : ∀ t ∈ xs, s.tsType t = .blockedOnNotification ∧ s.tcbFault t = .nullFault) :
    (Kernel.restartWaiters cfg fuel s xs.head?).ObjInv L := by
  induction xs generalizing s p fuel with
  | nil =>
    obtain ⟨fuel, rfl⟩ := Nat.exists_eq_succ_of_ne_zero (Nat.ne_of_gt hf)
    exact h
  | cons t xs ih =>
    obtain ⟨fuel, rfl⟩ := Nat.exists_eq_succ_of_ne_zero (Nat.ne_of_gt (Nat.zero_lt_of_lt hf))
    obtain ⟨ht, hft⟩ := hts t (by simp)
    obtain ⟨htx, nd⟩ := List.nodup_cons.mp nd
    have h1 : (s.restartWaiter cfg t).ObjInv (xs ++ L) :=
      h.restartWaiter (h.replyTCB_ne (by simp [ht]) (by simp [ht])) (h.tcbExists (by simp [ht]) (by simp [ht])) hft
    have e := (s.restartWaiter_same cfg t).obj
    have hl : (s.restartWaiter cfg t).epLinks = s.epLinks := by
      show (s.restartWaiter cfg t).toObjState.epLinks = _
      rw [e]
      rfl
    have hnext : s.epLinks.next t = xs.head? := by simpa using hseg.2.1
    show (Kernel.restartWaiters cfg fuel (s.restartWaiter cfg t)
      ((s.restartWaiter cfg t).epLinks.next t)).ObjInv L
    rw [hl, hnext]
    refine ih h1 (hl ▸ hseg.2.2) nd (by simpa using hf) fun u hu => ?_
    have hut : u ≠ t := fun e => htx (e ▸ hu)
    have hc := s.restartWaiter_calm cfg t
    rw [hc.tsType u hut, hc.fault u hut]
    exact hts u (by simp [hu])

lemma cancelAllSignals (h : s.ObjInv []) : (s.cancelAllSignals cfg ntfn).ObjInv [] := by
  unfold Kernel.cancelAllSignals
  split
  · rename_i hw
    extract_lets head s1 s2
    obtain ⟨xs, rep, hmem, hw'⟩ := h.waiting.clearNtfn ntfn
    have hts : ∀ t ∈ xs, s.tsType t = .blockedOnNotification := by
      intro t ht
      have := (hmem t).mp ht
      revert this
      unfold IpcState.waitsAt
      cases s.tsType t <;> simp
    have h2 : s2.ObjInv (xs ++ []) := by
      rw [List.append_nil]
      refine { h with
        waiting := hw'
        replied := ⟨h.replied.tcb, h.replied.object⟩
        alive := ⟨h.alive.tcb, h.alive.idle, h.alive.ep, fun n hn => ?_, h.alive.reply, h.alive.sc⟩
        faults := fun t _ hf => h.faults t (by simp) hf }
      show update s.ntfnState ntfn .idle n ≠ _
      by_cases e : n = ntfn
      · simp [e]
      · rw [update_of_ne e]
        exact h.alive.ntfn n hn
    have hhead : head = xs.head? := rep.head
    rw [hhead]
    refine (h2.restartWaiters rep.seg rep.nodup (length_lt_walkFuel rep.nodup) fun t ht => ?_).same
      (Kernel.rescheduleRequired_same cfg _).toSameObj
    have := hts t ht
    exact ⟨this, h.fault_eq_null (by simp) (by simp [this]) (by simp [this]) (by simp [this])⟩
  · exact h

end ObjInv

end NexsKernel.Mcs
