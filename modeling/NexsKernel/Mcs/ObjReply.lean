import NexsKernel.Mcs.ObjBind

/-!
# Replies

The operations on reply objects and call stacks, and `cancelIPC`, keep the invariant of the objects.
-/

namespace NexsKernel.Mcs

open Function (update update_self update_apply)

/-- A thread whose state is none of those in which it waits. -/
lemma ThreadState.Plain.waitsAt {i : IpcState} {t} (h : (i.tsType t).Plain) : i.waitsAt t = none := by
  unfold IpcState.waitsAt
  split <;> simp_all [ThreadState.Plain]

namespace Kernel

/-- A thread that exists, is in no queue and uses no reply object. -/
structure Loose (s : Kernel) (t : TcbPtr) : Prop where
  waitsAt : s.waitsAt t = none
  noReply : ∀ r, s.replyTCB r ≠ some t
  tcbExists : s.tcbExists t = true

lemma setThreadStateBlockedOnReply_same (s : Kernel) (t : TcbPtr) (r : ReplyPtr) :
    SameObjects { s with
      tsType := update s.tsType t .blockedOnReply
      replyObject := update s.replyObject t (some r)
      replyTCB := update s.replyTCB r (some t) }
      ((s.setReplyTCB r (some t)).setThreadStateBlockedOnReply t r) := by
  unfold setThreadStateBlockedOnReply
  extract_lets s1 s2
  have h := s2.scheduleTCB_same t
  exact ⟨⟨h.obj, h.params, h.signals⟩, h.cur⟩

end Kernel

/-- A state in which a thread can run. -/
lemma ThreadState.plain_of_isRunnable {ts : ThreadState} (h : ts.isRunnable = true) : ts.Plain := by
  cases ts <;> simp_all [ThreadState.isRunnable, ThreadState.Plain]

/-- Removing a reply links no other. -/
lemma CallStacks.breakHead_sub {c : CallStacks} {r x : ReplyPtr}
    (h : (c.breakHead r).replyNext x ≠ .null ∨ (c.breakHead r).replyPrev x ≠ none) :
    c.replyNext x ≠ .null ∨ c.replyPrev x ≠ none := by
  rw [breakHead_replyNext, breakHead_replyPrev, breakChain_replyNext, breakChain_replyPrev] at h
  grind

lemma CallStacks.breakHead_self (c : CallStacks) (r : ReplyPtr) :
    (c.breakHead r).replyNext r = .null ∧ (c.breakHead r).replyPrev r = none := by
  rw [breakHead_replyNext, breakHead_replyPrev, breakChain_replyNext, breakChain_replyPrev]
  simp

namespace ObjInv

variable {cfg : KernelConfig} {s : Kernel} {L : List TcbPtr} {t : TcbPtr} {r : ReplyPtr}

lemma loose (h : s.ObjInv L) (hp : (s.tsType t).Plain) (ht : s.tcbExists t = true) : s.Loose t := by
  refine ⟨ThreadState.Plain.waitsAt hp, h.replyTCB_ne ?_ ?_, ht⟩
  · intro e
    rw [e] at hp
    exact hp
  · intro e
    rw [e] at hp
    exact hp

/-- A thread that can run has no fault. -/
lemma fault_eq_null (h : s.ObjInv L) (hL : t ∉ L) (ht : s.tsType t ≠ .blockedOnSend)
    (ht' : s.tsType t ≠ .blockedOnReply) (hi : s.tsType t ≠ .inactive) : s.tcbFault t = .nullFault := by
  by_contra hf
  rcases h.faults t hL hf with e | e | e
  · exact ht e
  · exact ht' e
  · exact hi e

lemma isRunnable_loose (h : s.ObjInv L) (ht : s.isRunnable t = true) : s.Loose t := by
  refine h.loose (ThreadState.plain_of_isRunnable ht) (h.tcbExists ?_ ?_)
  · intro e
    simp [Kernel.isRunnable, e, ThreadState.isRunnable] at ht
  · intro e
    simp [Kernel.isRunnable, e, ThreadState.isRunnable] at ht

lemma isRunnable_fault (h : s.ObjInv L) (hL : t ∉ L) (ht : s.isRunnable t = true) :
    s.tcbFault t = .nullFault := by
  apply h.fault_eq_null hL <;> intro e <;> simp [Kernel.isRunnable, e, ThreadState.isRunnable] at ht

/-- `setThreadState` on a thread that does not wait. -/
lemma setPlain (h : s.ObjInv L) (ht : s.Loose t) {ts} (hp : ts.Plain)
    (hf : ts = .inactive ∨ s.tcbFault t = .nullFault) : (s.setThreadState t ts).ObjInv L :=
  (h.ignore ht.waitsAt).setThreadState ht.noReply ht.tcbExists hp hf

/-- A reply that is on no call stack becomes the top of one. -/
lemma replyPushDonate {callee sc} (h : s.ObjInv L) (hr : s.replyTCB r = some t)
    (hts : s.tsType t = .blockedOnReply) (hn : s.replyNext r = .null) (hp : s.replyPrev r = none)
    (hd : s.tcbSchedContext callee = none) (hc : s.tcbExists callee = true)
    (hse : s.scExists sc = true) : (s.replyPushDonate cfg callee r sc).ObjInv L := by
  unfold Kernel.replyPushDonate
  extract_lets s1 c s2
  have h1 : s1.ObjInv L := h.same (Kernel.assert_same _ _).toSameObj
  have h2 : s2.ObjInv L := by
    refine h1.restack (h.linked.push hn hp) (fun x hx => ?_) fun sc' hsc' => ?_
    · rw [CallStacks.push_replyNext, CallStacks.push_replyPrev] at hx
      by_cases hxr : x = r
      · exact ⟨t, hxr ▸ hr, hts⟩
      · rw [if_neg hxr, if_neg hxr] at hx
        change (if s.scReply sc = some x then _ else s.replyNext x) ≠ _ ∨ s.replyPrev x ≠ none at hx
        refine h.onStack x ?_
        have := h.linked.next_head x sc
        grind
    · rw [CallStacks.push_scReply, if_neg]
      · exact h.alive.sc sc' hsc'
      · rintro rfl
        exact absurd (hse.symm.trans hsc') (by simp)
  exact h2.schedContextDonate hd hc hse

/-- A reply object becomes the head of a call stack. -/
lemma replyPush {callee canDonate} (h : s.ObjInv (t :: L)) (hn : ∀ r, s.replyTCB r ≠ some t)
    (ht : s.tcbExists t = true) (hr : s.replyTCB r = none) (hre : s.replyExists r = true)
    (hc : s.tcbExists callee = true) : (s.replyPush cfg t callee r canDonate).ObjInv L := by
  have hoff := h.offStack_of_none hr
  unfold Kernel.replyPush
  extract_lets sc s1 s2 s3 s4 s5 s6 s7
  have h5 : s5.ObjInv (t :: L) := h.same ⟨rfl, rfl, rfl⟩
  have h7 : s7.ObjInv L := h5.setThreadStateBlockedOnReply ht hn hr hre
  have e7 : s7.toObjState = { s.toObjState with
      tsType := update s.tsType t .blockedOnReply
      replyObject := update s.replyObject t (some r)
      replyTCB := update s.replyTCB r (some t) } := (s5.setThreadStateBlockedOnReply_same t r).obj
  have hsc : sc = s.tcbSchedContext t := rfl
  clear_value sc s7
  cases sc with
  | none => exact h7
  | some sc =>
    show Kernel.ObjInv (if _ then _ else _) L
    split
    · rename_i hd
      have hse : s.scExists sc = true := h.scExists (h.ne_idle ht) hsc.symm
      refine h7.replyPushDonate (t := t) ?_ ?_ ?_ ?_ hd.1 ?_ ?_ <;> rw [e7]
      · exact update_self ..
      · exact update_self ..
      · exact hoff.1
      · exact hoff.2
      · exact hc
      · exact hse
    · exact h7

/-- A reply is taken out of the middle of a call stack. -/
lemma breakUnlink (h : s.ObjInv L) (hr : s.replyTCB r = some t) (hts : s.tsType t = .blockedOnReply) :
    Kernel.ObjInv (Kernel.replyUnlink { s with toCallStacks := s.toCallStacks.breakHead r } r t) L := by
  have h1 : Kernel.ObjInv { s with toCallStacks := s.toCallStacks.breakHead r } L := by
    refine h.restack h.linked.breakHead (fun x hx => h.onStack x (CallStacks.breakHead_sub hx)) fun sc hsc => ?_
    rw [CallStacks.breakHead_scReply]
    split
    · rfl
    · exact h.alive.sc sc hsc
  refine (h1.ignore ?_).replyUnlink hr (CallStacks.breakHead_self _ r)
  show IpcState.waitsAt s.toIpcState t = none
  simp [IpcState.waitsAt, hts]

/-- The head of a call stack is taken off, and its context goes to the next one. -/
lemma replyPop {sc} (h : s.ObjInv L) (hr : s.replyTCB r = some t) (hts : s.tsType t = .blockedOnReply)
    (hn : s.replyNext r = .head sc) : (s.replyPop cfg r t).ObjInv L := by
  have hsc := (h.linked.next_head r sc).mp hn
  have hse : s.scExists sc = true := by
    by_contra hne
    rw [Bool.not_eq_true] at hne
    have := h.alive.sc sc hne
    rw [hsc] at this
    cases this
  have ht : s.tcbExists t = true := h.tcbExists (by simp [hts]) (by simp [hts])
  unfold Kernel.replyPop
  extract_lets s1
  have h1 : s1.ObjInv L := h.same ⟨rfl, rfl, rfl⟩
  have hn1 : s1.replyNext r = .head sc := hn
  split
  swap
  · rename_i hne
    exact absurd hn1 (hne sc)
  rename_i sc' hsc'
  obtain rfl : sc = sc' := by simpa [hn1] using hsc'
  extract_lets c s2 s3 c' s4
  -- the bindings after the donation, if there is one
  obtain ⟨b, hb, hlive, hsame⟩ : ∃ b, Bound b ∧ LiveBindings b s1.toObjects ∧
      Kernel.SameObjects { s2 with toBindings := b } s3 := by
    unfold s3
    split
    · rename_i hd
      exact ⟨_, h1.bound.donate hd, h1.live.donate h1.bound ht hse, s2.schedContextDonate_same cfg sc t⟩
    · exact ⟨s2.toBindings, h1.bound, h1.live, .refl s2⟩
  have h4 : s4.ObjInv L := by
    have hst := h1.restack (h1.linked.pop hn1) (fun x hx => h1.onStack x ?_) fun d hd => ?_
    · refine (hst.rebind hb hlive).same ⟨?_, hsame.params, hsame.signals⟩
      obtain ⟨rq, c1, n, u, f, e⟩ := hsame.exists_eq
      unfold s4 c'
      rw [e]
    · have h5 := h1.linked.next_reply x r
      change (c.replyNext x ≠ .null) ∨ update c.replyPrev r none x ≠ none at hx
      unfold c at hx
      rw [CallStacks.pop_replyNext, CallStacks.pop_replyPrev, update_apply] at hx
      grind
    · show c.scReply d = none
      unfold c
      rw [CallStacks.pop_scReply, if_neg]
      · exact h1.alive.sc d hd
      · rintro rfl
        exact absurd (hse.symm.trans hd) (by simp)
  obtain ⟨rq, c1, n, u, f, e⟩ := hsame.exists_eq
  refine (h4.ignore ?_).replyUnlink ?_ ?_
  · unfold s4
    rw [e]
    show IpcState.waitsAt s.toIpcState t = none
    simp [IpcState.waitsAt, hts]
  · unfold s4
    rw [e]
    exact hr
  · unfold s4 c'
    rw [e]
    refine ⟨?_, update_self ..⟩
    show c.replyNext r = .null
    unfold c
    rw [CallStacks.pop_replyNext, if_pos rfl]

lemma replyRemove (h : s.ObjInv L) (hr : s.replyTCB r = some t) (hts : s.tsType t = .blockedOnReply) :
    (s.replyRemove cfg r t).ObjInv L := by
  unfold Kernel.replyRemove
  extract_lets s1
  have h1 : s1.ObjInv L := h.same ⟨rfl, rfl, rfl⟩
  split
  · rename_i sc hn
    exact h1.replyPop hr hts hn
  · rename_i hn
    have e : s1.toCallStacks.breakChain r = s1.toCallStacks.breakHead r := by
      unfold CallStacks.breakHead
      split
      · rename_i sc hsc
        exact absurd hsc (hn sc)
      · rfl
    show Kernel.ObjInv (Kernel.replyUnlink { s1 with toCallStacks := s1.toCallStacks.breakChain r } r t) L
    rw [e]
    exact h1.breakUnlink hr hts

/-- The reply object of a thread that waits for a reply. -/
lemma exists_reply (h : s.ObjInv L) (hts : s.tsType t = .blockedOnReply) :
    ∃ r, s.replyObject t = some r ∧ s.replyTCB r = some t := by
  obtain ⟨r, hr⟩ := Option.ne_none_iff_exists'.mp (h.replied.object t hts)
  exact ⟨r, hr, (h.replied.tcb r t).mpr ⟨hr, .inl hts⟩⟩

lemma replyRemoveTcb (h : s.ObjInv L) (hts : s.tsType t = .blockedOnReply) :
    (s.replyRemoveTcb t).ObjInv L := by
  obtain ⟨r, hobj, hr⟩ := h.exists_reply hts
  unfold Kernel.replyRemoveTcb
  extract_lets s1
  have h1 : s1.ObjInv L := h.same (s.assert_same _).toSameObj
  have hobj1 : s1.replyObject t = some r := hobj
  rw [hobj1]
  exact h1.breakUnlink hr hts

lemma cancelSignal {ntfn} (h : s.ObjInv L) (hL : t ∉ L) (hts : s.tsType t = .blockedOnNotification)
    (hn : s.blockingObject t = ntfn) : (s.cancelSignal t ntfn).ObjInv L := by
  have hw : s.waitsAt t = some (.notification ntfn) := by
    simp [IpcState.waitsAt, hts, hn]
  unfold Kernel.cancelSignal
  extract_lets s1
  have h1 : s1.ObjInv L := h.same (s.assert_same _).toSameObj
  refine (h1.ntfnDequeue hw hL).setThreadState ?_ ?_ trivial (.inl rfl)
  · exact h.replyTCB_ne (by simp [hts]) (by simp [hts])
  · exact h.tcbExists (by simp [hts]) (by simp [hts])

lemma cancelEpIPC (h : s.ObjInv L) (hL : t ∉ L)
    (hts : s.tsType t = .blockedOnSend ∨ s.tsType t = .blockedOnReceive) : (s.cancelEpIPC t).ObjInv L := by
  have hw : s.waitsAt t = some (.endpoint (s.blockingObject t)) := by
    rcases hts with e | e <;> simp [IpcState.waitsAt, e]
  have ht : s.tcbExists t = true := by
    apply h.tcbExists <;> rcases hts with e | e <;> simp [e]
  unfold Kernel.cancelEpIPC
  extract_lets ep s1 s2 s3
  have h1 : s1.ObjInv L := h.same (s.assert_same _).toSameObj
  have h2 : s2.ObjInv (t :: L) := h1.epDequeue hw hL
  unfold s3
  split
  · rename_i hrecv
    change s.tsType t = .blockedOnReceive at hrecv
    split
    · -- the reply object is given up
      rename_i r hobj
      have hr : s2.replyTCB r = some t := (h.replied.tcb r t).mpr ⟨hobj, .inr hrecv⟩
      have h3 := h2.replyUnlink hr (h.offStack hr (by simp [hrecv]))
      have hc := (s2.replyUnlink_same r t).obj
      have hts3 : (s2.replyUnlink r t).tsType t = .inactive := by
        show (s2.replyUnlink r t).toObjState.tsType t = _
        rw [hc]
        exact update_self ..
      refine h3.setPlain (h3.loose (by rw [hts3]; trivial) ?_) trivial (.inl rfl)
      show (s2.replyUnlink r t).toObjState.tcbExists t = _
      rw [hc]
      exact ht
    · rename_i hobj
      refine h2.setThreadState (fun r hr => ?_) ht trivial (.inl rfl)
      have := ((h2.replied.tcb r t).mp hr).1
      rw [hobj] at this
      cases this
  · rename_i hrecv
    change ¬ s.tsType t = .blockedOnReceive at hrecv
    refine h2.setThreadState (h.replyTCB_ne ?_ hrecv) ht trivial (.inl rfl)
    simp [hts.resolve_right hrecv]

lemma cancelIPC (h : s.ObjInv L) (hL : t ∉ L) : (s.cancelIPC t).ObjInv L := by
  unfold Kernel.cancelIPC
  extract_lets s1
  have h1 : s1.ObjInv L := h.setTcbFault (.inl rfl)
  split
  · rename_i hts
    exact h1.cancelEpIPC hL (.inl hts)
  · rename_i hts
    exact h1.cancelEpIPC hL (.inr hts)
  · rename_i hts
    exact h1.cancelSignal hL hts rfl
  · rename_i hts
    exact h1.replyRemoveTcb hts
  · exact h1

end ObjInv

end NexsKernel.Mcs
