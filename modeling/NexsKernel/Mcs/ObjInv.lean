import NexsKernel.Mcs.Replies

/-!
# The invariant of the objects

What holds of threads, endpoints, notifications, reply objects and scheduling contexts between the steps of
the kernel, and how it is kept by the stores that the operations are made of.
-/

namespace NexsKernel.Mcs

open Function (update update_self update_of_ne update_apply)

/-- A reply object and the thread that uses it refer to each other. -/
structure Replied (i : IpcState) : Prop where
  tcb : ∀ r t, i.replyTCB r = some t ↔
    i.replyObject t = some r ∧ (i.tsType t = .blockedOnReply ∨ i.tsType t = .blockedOnReceive)
  object : ∀ t, i.tsType t = .blockedOnReply → i.replyObject t ≠ none

/-- The replies on call stacks belong to threads that wait for them. -/
def OnStack (i : IpcState) (c : CallStacks) : Prop :=
  ∀ r, c.replyNext r ≠ .null ∨ c.replyPrev r ≠ none →
    ∃ t, i.replyTCB r = some t ∧ i.tsType t = .blockedOnReply

/-- The bindings are symmetric. -/
structure Bound (b : Bindings) : Prop where
  sc : ∀ t c, b.tcbSchedContext t = some c ↔ b.scTcb c = some t
  ntfn : ∀ t n, b.tcbBoundNotification t = some n ↔ b.ntfnBoundTCB n = some t
  scNtfn : ∀ c n, b.scNotification c = some n ↔ b.ntfnSchedContext n = some c
  yield : ∀ t c, b.tcbYieldTo t = some c ↔ b.scYieldFrom c = some t

/-- Objects that do not exist are not bound. -/
structure LiveBindings (b : Bindings) (o : Objects) : Prop where
  tcb : ∀ t, o.tcbExists t = false → t ≠ o.ksIdleThread → b.tcbSchedContext t = none
  tcbNtfn : ∀ t, o.tcbExists t = false → b.tcbBoundNotification t = none
  tcbYield : ∀ t, o.tcbExists t = false → b.tcbYieldTo t = none
  ntfnTcb : ∀ n, o.ntfnExists n = false → b.ntfnBoundTCB n = none
  ntfnSc : ∀ n, o.ntfnExists n = false → b.ntfnSchedContext n = none
  sc : ∀ c, o.scExists c = false → c ≠ o.ksIdleSC → b.scTcb c = none
  scNtfn : ∀ c, o.scExists c = false → b.scNotification c = none
  scYield : ∀ c, o.scExists c = false → b.scYieldFrom c = none
  idle : b.tcbSchedContext o.ksIdleThread = some o.ksIdleSC
  idleTcb : o.tcbExists o.ksIdleThread = false
  idleSc : o.scExists o.ksIdleSC = false

/-- Objects that do not exist take no part in communication. -/
structure LiveIpc (i : IpcState) (c : CallStacks) (o : Objects) : Prop where
  tcb : ∀ t, o.tcbExists t = false → t ≠ o.ksIdleThread → i.tsType t = .inactive
  idle : ∀ t, i.tsType t = .idleThreadState ↔ t = o.ksIdleThread
  ep : ∀ ep, o.epExists ep = false → i.epState ep = .idle
  ntfn : ∀ n, o.ntfnExists n = false → i.ntfnState n ≠ .waiting
  reply : ∀ r, o.replyExists r = false → i.replyTCB r = none
  sc : ∀ c', o.scExists c' = false → c.scReply c' = none

/-- A thread with a fault waits for its handler or does not run. -/
def Faults (i : IpcState) (L : List TcbPtr) : Prop :=
  ∀ t, t ∉ L → i.tcbFault t ≠ .nullFault →
    i.tsType t = .blockedOnSend ∨ i.tsType t = .blockedOnReply ∨ i.tsType t = .inactive

/-- The handlers of threads are capabilities to endpoints that exist, with the rights they need. -/
def Handlers (p : ThreadParams) (o : Objects) : Prop :=
  ∀ t cap, p.tcbFaultHandler t = some cap ∨ p.tcbTimeoutHandler t = some cap →
    o.epExists cap.capEPPtr = true ∧ Kernel.validFaultHandler (some cap) = true

/-- The invariant of the objects, where the threads of `L` have been taken out of their queues and may have
any fault. -/
structure ObjInv (o : ObjState) (p : ThreadParams) (L : List TcbPtr) : Prop where
  waiting : Waiting o.toIpcState L
  linked : Linked o.toCallStacks
  replied : Replied o.toIpcState
  onStack : OnStack o.toIpcState o.toCallStacks
  bound : Bound o.toBindings
  live : LiveBindings o.toBindings o.toObjects
  alive : LiveIpc o.toIpcState o.toCallStacks o.toObjects
  faults : Faults o.toIpcState L
  handlers : Handlers p o.toObjects

/-- The invariant of the objects of a kernel. -/
abbrev Kernel.ObjInv (s : Kernel) (L : List TcbPtr) : Prop :=
  Mcs.ObjInv s.toObjState s.toThreadParams L

/-- The stores of `reply_unlink`. -/
lemma Kernel.replyUnlink_same (s : Kernel) (r : ReplyPtr) (t : TcbPtr) :
    SameObjects { s with
      tsType := update s.tsType t .inactive
      replyObject := s.replyObject
      replyTCB := update s.replyTCB r none } (s.replyUnlink r t) := by
  unfold Kernel.replyUnlink
  extract_lets s1 s2 s3 s4
  have h := (s4.setTsType t .inactive).scheduleTCB_same t
  exact ⟨⟨h.obj, h.params, h.signals⟩, h.cur⟩

namespace ObjInv

variable {s s' : Kernel} {L : List TcbPtr} {t : TcbPtr}

lemma same (h : s.ObjInv L) (e : s.SameObj s') : s'.ObjInv L := by
  unfold Kernel.ObjInv
  rw [e.obj, e.params]
  exact h

section Facts

variable (h : s.ObjInv L)

include h

/-- A thread that waits or runs exists. -/
lemma tcbExists (ht : s.tsType t ≠ .inactive) (hi : s.tsType t ≠ .idleThreadState) :
    s.tcbExists t = true := by
  by_contra hne
  rw [Bool.not_eq_true] at hne
  refine ht (h.alive.tcb t hne fun e => hi ?_)
  rw [e]
  exact (h.alive.idle _).mpr rfl

/-- A thread that exists is not the idle thread. -/
lemma ne_idle (ht : s.tcbExists t = true) : t ≠ s.ksIdleThread := by
  rintro rfl
  rw [h.live.idleTcb] at ht
  cases ht

/-- A reply object is used by at most one thread, and a thread that does not wait uses none. -/
lemma replyTCB_ne (ht : s.tsType t ≠ .blockedOnReply) (ht' : s.tsType t ≠ .blockedOnReceive)
    (r : ReplyPtr) : s.replyTCB r ≠ some t := by
  intro e
  rcases ((h.replied.tcb r t).mp e).2 with h | h
  · exact ht h
  · exact ht' h

/-- A reply object that is used by a thread that does not wait for it is on no call stack. -/
lemma offStack {r} (hr : s.replyTCB r = some t) (ht : s.tsType t ≠ .blockedOnReply) :
    s.replyNext r = .null ∧ s.replyPrev r = none := by
  by_contra hne
  obtain ⟨u, hu, hb⟩ := h.onStack r (by tauto)
  rw [hr] at hu
  cases hu
  exact ht hb

/-- A reply object that is not used is on no call stack. -/
lemma offStack_of_none {r} (hr : s.replyTCB r = none) :
    s.replyNext r = .null ∧ s.replyPrev r = none := by
  by_contra hne
  obtain ⟨u, hu, -⟩ := h.onStack r (by tauto)
  rw [hr] at hu
  cases hu

/-- The scheduling context of a thread that is not the idle thread exists. -/
lemma scExists {sc} (ht : t ≠ s.ksIdleThread) (hsc : s.tcbSchedContext t = some sc) :
    s.scExists sc = true := by
  by_contra hne
  rw [Bool.not_eq_true] at hne
  have hb := (h.bound.sc t sc).mp hsc
  by_cases hi : sc = s.ksIdleSC
  · subst hi
    have := (h.bound.sc _ _).mp h.live.idle
    rw [hb] at this
    exact ht (Option.some.inj this)
  · rw [h.live.sc sc hne hi] at hb
    cases hb

/-- The head of an endpoint's queue. -/
lemma waitsAt_head {ep} (hq : (s.epQueue ep).head = some t) :
    s.waitsAt t = some (.endpoint ep) ∧ t ∉ L := by
  obtain ⟨xs, q, -⟩ := h.waiting
  have hr := (q.rep (.endpoint ep)).head
  refine (q.mem _ t).mp (List.mem_of_head? ?_)
  exact hr.symm.trans hq

/-- The head of a notification's queue. -/
lemma waitsAt_ntfn_head {ntfn} (hq : (s.ntfnQueue ntfn).head = some t) :
    s.waitsAt t = some (.notification ntfn) ∧ t ∉ L := by
  obtain ⟨xs, q, -⟩ := h.waiting
  have hr := (q.rep (.notification ntfn)).head
  refine (q.mem _ t).mp (List.mem_of_head? ?_)
  exact hr.symm.trans hq

lemma head_send {ep} (hs : s.epState ep = .send) (hq : (s.epQueue ep).head = some t) :
    s.tsType t = .blockedOnSend := by
  obtain ⟨xs, q, l⟩ := h.waiting
  have hr := (q.rep (.endpoint ep)).head
  exact l.send ep hs t (List.mem_of_head? (hr.symm.trans hq))

lemma head_recv {ep} (hs : s.epState ep = .recv) (hq : (s.epQueue ep).head = some t) :
    s.tsType t = .blockedOnReceive := by
  obtain ⟨xs, q, l⟩ := h.waiting
  have hr := (q.rep (.endpoint ep)).head
  exact l.recv ep hs t (List.mem_of_head? (hr.symm.trans hq))

/-- A thread that does not wait can be ignored. -/
lemma ignore (ht : s.waitsAt t = none) : s.ObjInv (t :: L) := by
  obtain ⟨xs, q, l⟩ := h.waiting
  exact { h with
    waiting := ⟨xs, q.ignore ht, l⟩
    faults := fun u hu => h.faults u fun hL => hu (by simp [hL]) }

/-- Only the members of the list matter. -/
lemma congr {L'} (hL : ∀ u, u ∈ L ↔ u ∈ L') : s.ObjInv L' := by
  obtain ⟨xs, q, l⟩ := h.waiting
  exact { h with
    waiting := ⟨xs, { q with mem := fun w u => by rw [q.mem, hL] }, l⟩
    faults := fun u hu => h.faults u fun hu' => hu ((hL u).mp hu') }

end Facts

/-- A thread that is in no queue gets a state in which it is in none, and the reply objects change. -/
lemma setState (h : s.ObjInv (t :: L)) (ht : s.tcbExists t = true) (ts : ThreadState)
    (obj : TcbPtr → Option ReplyPtr) (tcb : ReplyPtr → Option TcbPtr) (hw : ts.Unqueued)
    (hts : ts ≠ .idleThreadState) (hf : ts = .inactive ∨ ts = .blockedOnReply ∨ s.tcbFault t = .nullFault)
    (hrep : Replied { s.toIpcState with
      tsType := update s.tsType t ts, replyObject := obj, replyTCB := tcb })
    (hst : OnStack { s.toIpcState with
      tsType := update s.tsType t ts, replyObject := obj, replyTCB := tcb } s.toCallStacks)
    (hlive : ∀ r, s.replyExists r = false → tcb r = none) :
    Kernel.ObjInv { s with
      tsType := update s.tsType t ts, replyObject := obj, replyTCB := tcb } L := by
  have hne : t ≠ s.ksIdleThread := h.ne_idle ht
  obtain ⟨xs, q, l⟩ := h.waiting
  have htx : ∀ w u, u ∈ xs w → u ≠ t := fun w u hu e => ((q.mem w u).mp hu).2 (by simp [e])
  refine { h with waiting := ?_, replied := hrep, onStack := hst, alive := ?_, faults := ?_ }
  · refine ⟨xs, q.leave rfl rfl rfl rfl rfl ?_, ⟨l.idle, ?_, ?_, l.waiting⟩⟩
    · funext u
      by_cases hu : u = t
      · subst hu
        cases ts <;> simp_all [ThreadState.Unqueued, IpcState.waitsAt]
      · simp [IpcState.waitsAt, hu]
    · intro ep he u hu
      show update s.tsType t ts u = _
      rw [update_of_ne (htx _ u hu)]
      exact l.send ep he u hu
    · intro ep he u hu
      show update s.tsType t ts u = _
      rw [update_of_ne (htx _ u hu)]
      exact l.recv ep he u hu
  · refine { h.alive with tcb := fun u hu hi => ?_, idle := fun u => ?_, reply := hlive }
    · show update s.tsType t ts u = _
      rw [update_of_ne (fun e => by subst e; exact absurd (ht.symm.trans hu) (by simp))]
      exact h.alive.tcb u hu hi
    · show update s.tsType t ts u = _ ↔ _
      by_cases hu : u = t
      · rw [hu, update_self]
        exact iff_of_false hts hne
      · rw [update_of_ne hu]
        exact h.alive.idle u
  · intro u huL hu
    show update s.tsType t ts u = _ ∨ update s.tsType t ts u = _ ∨
      update s.tsType t ts u = _
    by_cases hut : u = t
    · subst hut
      rw [update_self]
      rcases hf with rfl | rfl | hf
      · exact .inr (.inr rfl)
      · exact .inr (.inl rfl)
      · exact absurd hf hu
    · rw [update_of_ne hut]
      exact h.faults u (by simp [hut, huL]) hu

/-- The state of a thread that uses no reply object and is in no queue changes. -/
lemma setTsType (h : s.ObjInv (t :: L)) (hr : ∀ r, s.replyTCB r ≠ some t) (ht : s.tcbExists t = true)
    {ts} (hp : ts.Plain) (hf : ts = .inactive ∨ s.tcbFault t = .nullFault) :
    (s.setTsType t ts).ObjInv L := by
  refine h.setState ht ts s.replyObject s.replyTCB hp.unqueued (fun e => by subst e; exact hp) (hf.imp_right .inr)
    ⟨fun r u => ?_, fun u hu => ?_⟩ ?_ h.alive.reply
  · show s.replyTCB r = some u ↔ s.replyObject u = some r ∧
      (update s.tsType t ts u = _ ∨ update s.tsType t ts u = _)
    by_cases hu : u = t
    · subst hu
      rw [update_self]
      refine iff_of_false (hr r) ?_
      rintro ⟨-, rfl | rfl⟩ <;> exact hp
    · rw [update_of_ne hu]
      exact h.replied.tcb r u
  · change update s.tsType t ts u = _ at hu
    by_cases hut : u = t
    · subst hut
      rw [update_self] at hu
      subst hu
      exact hp.elim
    · rw [update_of_ne hut] at hu
      exact h.replied.object u hu
  · intro r hl
    obtain ⟨u, hu, hb⟩ := h.onStack r hl
    have hut : u ≠ t := fun e => hr r (e ▸ hu)
    refine ⟨u, hu, ?_⟩
    show update s.tsType t ts u = _
    rw [update_of_ne hut]
    exact hb

/-- A thread stops using its reply object, which is on no call stack. -/
lemma replyUnlink {r} (h : s.ObjInv (t :: L)) (hr : s.replyTCB r = some t)
    (hoff : s.replyNext r = .null ∧ s.replyPrev r = none) : (s.replyUnlink r t).ObjInv L := by
  obtain ⟨hobj, hts⟩ := (h.replied.tcb r t).mp hr
  have ht : s.tcbExists t = true := by
    apply h.tcbExists <;> rcases hts with e | e <;> simp [e]
  refine ObjInv.same (h.setState ht .inactive s.replyObject (update s.replyTCB r none) trivial
    (by simp) (.inl rfl) ⟨fun r' u => ?_, fun u hu => ?_⟩ ?_ ?_) (s.replyUnlink_same r t).toSameObj
  · have h1 := h.replied.tcb r' u
    have h2 := h.replied.tcb r u
    simp only [update_apply]
    grind
  · have h1 := h.replied.object u
    simp only [update_apply] at hu ⊢
    grind
  · intro r' hl
    obtain ⟨u, hu, hb⟩ := h.onStack r' hl
    have hne : r' ≠ r := by
      rintro rfl
      rcases hl with hl | hl
      · exact hl hoff.1
      · exact hl hoff.2
    have hut : u ≠ t := by
      rintro rfl
      exact hne (Option.some.inj (((h.replied.tcb r' u).mp hu).1.symm.trans hobj))
    refine ⟨u, ?_, ?_⟩
    · show update s.replyTCB r none r' = _
      rw [update_of_ne hne]
      exact hu
    · show update s.tsType t _ u = _
      rw [update_of_ne hut]
      exact hb
  · intro r' hr'
    by_cases e : r' = r
    · rw [e, update_self]
    · rw [update_of_ne e]
      exact h.alive.reply r' hr'

/-- A thread waits for a reply through a reply object that is not used. -/
lemma setThreadStateBlockedOnReply {r} (h : s.ObjInv (t :: L)) (ht : s.tcbExists t = true)
    (hts : ∀ r, s.replyTCB r ≠ some t) (hr : s.replyTCB r = none) (hlive : s.replyExists r = true) :
    ((s.setReplyTCB r (some t)).setThreadStateBlockedOnReply t r).ObjInv L := by
  refine ObjInv.same (h.setState ht .blockedOnReply (update s.replyObject t (some r))
    (update s.replyTCB r (some t)) trivial (by simp) (.inr (.inl rfl))
    ⟨fun r' u => ?_, fun u hu => ?_⟩ ?_ ?_) (Kernel.scheduleTCB_same _ t).toSameObj
  · have h1 := h.replied.tcb r' u
    have h2 := h.replied.tcb r u
    have h3 := hts r'
    simp only [update_apply]
    grind
  · have h1 := h.replied.object u
    simp only [update_apply] at hu ⊢
    grind
  · intro r' hl
    obtain ⟨u, hu, hb⟩ := h.onStack r' hl
    have hne : r' ≠ r := by
      rintro rfl
      rw [hr] at hu
      cases hu
    have hut : u ≠ t := fun e => hts r' (e ▸ hu)
    refine ⟨u, ?_, ?_⟩
    · show update s.replyTCB r _ r' = _
      rw [update_of_ne hne]
      exact hu
    · show update s.tsType t _ u = _
      rw [update_of_ne hut]
      exact hb
  · intro r' hr'
    have hne : r' ≠ r := fun e => by simp [e, hlive] at hr'
    rw [update_of_ne hne]
    exact h.alive.reply r' hr'

lemma setThreadState (h : s.ObjInv (t :: L)) (hr : ∀ r, s.replyTCB r ≠ some t)
    (ht : s.tcbExists t = true) {ts} (hp : ts.Plain) (hf : ts = .inactive ∨ s.tcbFault t = .nullFault) :
    (s.setThreadState t ts).ObjInv L :=
  (h.setTsType hr ht hp hf).same (Kernel.scheduleTCB_same _ t).toSameObj

/-- A thread is taken out of the queue of an endpoint. -/
lemma epDequeue {ep} (h : s.ObjInv L) (ht : s.waitsAt t = some (.endpoint ep)) (hL : t ∉ L) :
    (s.epDequeue ep t).ObjInv (t :: L) := by
  obtain ⟨xs, q, l⟩ := h.waiting
  have htx : t ∈ xs (.endpoint ep) := (q.mem _ t).mpr ⟨ht, hL⟩
  obtain ⟨xs', q', hmem, hne⟩ : ∃ xs', Queued (s.epDequeue ep t).toIpcState (t :: L) xs' ∧ _ :=
    q.dequeue htx rfl (queueAt_epQueue rfl rfl) rfl rfl rfl rfl
  have hst : (s.epDequeue ep t).epState =
      if xs' (.endpoint ep) = [] then update s.epState ep .idle else s.epState := by
    have hr := (q'.rep (.endpoint ep)).head_eq_none
    simp only [IpcState.queueAt, Kernel.epDequeue, IpcState.epDequeue, update_self] at hr ⊢
    simp only [hr]
  have hback : ∀ ep' st, st ≠ .idle → (s.epDequeue ep t).epState ep' = st → s.epState ep' = st := by
    intro ep' st hst' he
    rw [hst] at he
    split at he
    · by_cases he' : ep' = ep
      · subst he'
        rw [update_self] at he
        exact absurd he.symm hst'
      · rwa [update_of_ne he'] at he
    · exact he
  refine { h with
    waiting := ⟨xs', q', l.endpoint hne (fun _ _ _ _ => rfl) (fun ep' he => ?_) rfl ?_
      (fun he u hu => l.send ep (hback ep _ (by decide) he) u ((hmem u).mp hu).1)
      fun he u hu => l.recv ep (hback ep _ (by decide) he) u ((hmem u).mp hu).1⟩
    replied := ⟨h.replied.tcb, h.replied.object⟩
    alive := { h.alive with ep := fun ep' he => by_contra fun hc => hc (hback ep' _ hc rfl ▸ h.alive.ep ep' he) }
    faults := fun u hu => h.faults u fun hL => hu (by simp [hL]) }
  · rw [hst]
    split
    · exact update_of_ne he ..
    · rfl
  · rw [hst]
    split
    · rename_i hx
      simp [hx]
    · rename_i hx
      exact iff_of_false (fun e => by simp [(l.idle ep).mp e] at htx) hx

/-- A thread is taken out of the queue of a notification. -/
lemma ntfnDequeue {ntfn} (h : s.ObjInv L) (ht : s.waitsAt t = some (.notification ntfn)) (hL : t ∉ L) :
    (s.ntfnDequeue ntfn t).ObjInv (t :: L) := by
  obtain ⟨xs, q, l⟩ := h.waiting
  have htx : t ∈ xs (.notification ntfn) := (q.mem _ t).mpr ⟨ht, hL⟩
  obtain ⟨xs', q', hmem, hne⟩ : ∃ xs', Queued (s.ntfnDequeue ntfn t).toIpcState (t :: L) xs' ∧ _ :=
    q.dequeue htx rfl (queueAt_ntfnQueue rfl rfl) rfl rfl rfl rfl
  have hst : (s.ntfnDequeue ntfn t).ntfnState =
      if xs' (.notification ntfn) = [] then update s.ntfnState ntfn .idle else s.ntfnState := by
    have hr := (q'.rep (.notification ntfn)).head_eq_none
    simp only [IpcState.queueAt, Kernel.ntfnDequeue, IpcState.ntfnDequeue, update_self] at hr ⊢
    simp only [hr]
  have hwait : s.ntfnState ntfn = .waiting := (l.waiting ntfn).mpr (List.ne_nil_of_mem htx)
  refine { h with
    waiting := ⟨xs', q', l.notification hne (fun _ _ _ _ => rfl) (fun n hn => ?_) rfl ?_⟩
    replied := ⟨h.replied.tcb, h.replied.object⟩
    alive := { h.alive with ntfn := fun n hn => ?_ }
    faults := fun u hu => h.faults u fun hL => hu (by simp [hL]) }
  · rw [hst]
    split
    · exact update_of_ne hn ..
    · rfl
  · rw [hst]
    split
    · rename_i hx
      simp [hx]
    · rename_i hx
      exact iff_of_true hwait hx
  · have hold := h.alive.ntfn n hn
    rw [hst]
    split
    · by_cases he : n = ntfn
      · simp [he]
      · rwa [update_of_ne he]
    · exact hold

/-- The call stacks change. -/
lemma restack (h : s.ObjInv L) {c : CallStacks} (hl : Linked c)
    (hsub : ∀ r, c.replyNext r ≠ .null ∨ c.replyPrev r ≠ none →
      ∃ t, s.replyTCB r = some t ∧ s.tsType t = .blockedOnReply)
    (hlive : ∀ sc, s.scExists sc = false → c.scReply sc = none) :
    Kernel.ObjInv { s with toCallStacks := c } L :=
  { h with
    linked := hl
    onStack := hsub
    alive := ⟨h.alive.tcb, h.alive.idle, h.alive.ep, h.alive.ntfn, h.alive.reply, hlive⟩ }

/-- The bindings change, and perhaps the scheduler. -/
lemma rebind (h : s.ObjInv L) {b : Bindings} (hb : Bound b) (hlive : LiveBindings b s.toObjects) :
    Kernel.ObjInv { s with toBindings := b } L :=
  { h with bound := hb, live := hlive }

/-- The fault of a thread changes. -/
lemma setTcbFault {f} (h : s.ObjInv L) (hf : f = .nullFault ∨ t ∈ L) : (s.setTcbFault t f).ObjInv L := by
  obtain ⟨xs, q, l⟩ := h.waiting
  refine { h with
    waiting := ⟨xs, ⟨q.rep, q.mem, q.order, q.arrived⟩, ⟨l.idle, l.send, l.recv, l.waiting⟩⟩
    replied := ⟨h.replied.tcb, h.replied.object⟩
    alive := ⟨h.alive.tcb, h.alive.idle, h.alive.ep, h.alive.ntfn, h.alive.reply, h.alive.sc⟩
    faults := fun u huL hu => ?_ }
  change update s.tcbFault t f u ≠ _ at hu
  by_cases hut : u = t
  · subst hut
    rw [update_self] at hu
    exact absurd (hf.resolve_left hu) huL
  · rw [update_of_ne hut] at hu
    exact h.faults u huL hu

/-- A thread without a fault that does not wait need not be ignored. -/
lemma unignore (h : s.ObjInv (t :: L)) (ht : s.waitsAt t = none) (hf : s.tcbFault t = .nullFault) :
    s.ObjInv L := by
  obtain ⟨xs, q, l⟩ := h.waiting
  refine { h with waiting := ⟨xs, { q with mem := fun w u => ?_ }, l⟩, faults := fun u huL hu => ?_ }
  · rw [q.mem, List.mem_cons]
    constructor
    · rintro ⟨hu, hL⟩
      exact ⟨hu, fun h => hL (.inr h)⟩
    · rintro ⟨hu, hL⟩
      refine ⟨hu, ?_⟩
      rintro (rfl | hu')
      · rw [ht] at hu
        cases hu
      · exact hL hu'
  · refine h.faults u ?_ hu
    rintro hm
    rcases List.mem_cons.mp hm with rfl | hm
    · exact hu hf
    · exact huL hm

/-- A thread that uses no reply object gets a state in which it uses none. -/
lemma replied_of_none (h : s.ObjInv L) (hr : ∀ r, s.replyTCB r ≠ some t) {i : IpcState} {ts}
    (hts : i.tsType = update s.tsType t ts) (hne : ts ≠ .blockedOnReply)
    (hrecv : ts = .blockedOnReceive → i.replyObject t = none)
    (h1 : ∀ u, u ≠ t → i.replyObject u = s.replyObject u) (h2 : i.replyTCB = s.replyTCB) :
    Replied i ∧ OnStack i s.toCallStacks := by
  have hold : ∀ u, u ≠ t → i.tsType u = s.tsType u := fun u hu => by rw [hts, update_of_ne hu]
  have hnew : i.tsType t = ts := by rw [hts, update_self]
  refine ⟨⟨fun r u => ?_, fun u hu => ?_⟩, fun r hl => ?_⟩
  · have h4 := h.replied.tcb r u
    have h5 := hr r
    have h6 := h1 u
    have h7 := hold u
    grind
  · have h4 := h.replied.object u
    have h5 := h1 u
    have h6 := hold u
    grind
  · obtain ⟨u, hu, hb⟩ := h.onStack r hl
    have hut : u ≠ t := fun e => hr r (e ▸ hu)
    exact ⟨u, h2 ▸ hu, (hold u hut).trans hb⟩

/-- A thread that uses no reply object waits to receive with one that is not used. -/
lemma replied_of_receive (h : s.ObjInv L) (hr : ∀ r, s.replyTCB r ≠ some t) {i : IpcState} {r}
    (hfree : s.replyTCB r = none) (hts : i.tsType = update s.tsType t .blockedOnReceive)
    (h1 : i.replyObject = update s.replyObject t (some r))
    (h2 : i.replyTCB = update s.replyTCB r (some t)) :
    Replied i ∧ OnStack i s.toCallStacks := by
  refine ⟨⟨fun r' u => ?_, fun u hu => ?_⟩, fun r' hl => ?_⟩
  · have h4 := h.replied.tcb r' u
    have h5 := h.replied.tcb r u
    have h6 := hr r'
    rw [h1, h2, hts]
    simp only [update_apply]
    grind
  · have h4 := h.replied.object u
    rw [hts] at hu
    rw [h1]
    simp only [update_apply] at hu ⊢
    grind
  · obtain ⟨u, hu, hb⟩ := h.onStack r' hl
    have hut : u ≠ t := fun e => hr r' (e ▸ hu)
    have hne : r' ≠ r := by
      rintro rfl
      rw [hfree] at hu
      cases hu
    refine ⟨u, ?_, ?_⟩
    · rw [h2, update_of_ne hne]
      exact hu
    · rw [hts, update_of_ne hut]
      exact hb

/-- A thread gets a state in which it waits in a queue. -/
lemma block (h : s.ObjInv (t :: L)) (ht : s.tcbExists t = true) {i : IpcState} {ts} (hw : Waiting i L)
    (hrep : Replied i ∧ OnStack i s.toCallStacks)
    (hts : i.tsType = update s.tsType t ts)
    (hi' : ts ≠ .idleThreadState) (hf : ts = .blockedOnSend ∨ s.tcbFault t = .nullFault) (hf' : i.tcbFault = s.tcbFault)
    (hep : ∀ ep, s.epExists ep = false → i.epState ep = .idle)
    (hntfn : ∀ n, s.ntfnExists n = false → i.ntfnState n ≠ .waiting)
    (hreply : ∀ r, s.replyExists r = false → i.replyTCB r = none) :
    Kernel.ObjInv { s with toIpcState := i } L := by
  have hi : t ≠ s.ksIdleThread := h.ne_idle ht
  have hold : ∀ u, u ≠ t → i.tsType u = s.tsType u := fun u hu => by rw [hts, update_of_ne hu]
  refine { h with waiting := hw, replied := hrep.1, onStack := hrep.2, alive := ?_, faults := ?_ }
  · refine ⟨fun u hu hui => ?_, fun u => ?_, hep, hntfn, hreply, h.alive.sc⟩
    · have hut : u ≠ t := by
        rintro rfl
        exact absurd (ht.symm.trans hu) (by simp)
      exact (hold u hut).trans (h.alive.tcb u hu hui)
    · show i.tsType u = _ ↔ _
      by_cases hut : u = t
      · rw [hut, hts, update_self]
        exact iff_of_false hi' hi
      · rw [hold u hut]
        exact h.alive.idle u
  · intro u huL hu
    change i.tcbFault u ≠ _ at hu
    show i.tsType u = _ ∨ i.tsType u = _ ∨ i.tsType u = _
    rw [hf'] at hu
    by_cases hut : u = t
    · subst hut
      rw [hts, update_self]
      exact .inl (hf.resolve_right hu)
    · rw [hold u hut]
      exact h.faults u (by simp [hut, huL]) hu

end ObjInv

end NexsKernel.Mcs
