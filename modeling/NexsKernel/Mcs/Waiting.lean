import NexsKernel.Mcs.Frames

/-!
# Threads that wait in queues

The queues of endpoints and notifications share the links `tcbEPNext` and `tcbEPPrev` of the threads.
`Queued i L xs` says that `xs` lists the threads of every queue: a thread is in the queue of the object it
waits at and in no other, and a queue is sorted by priority, with threads of the same priority in the order
of their arrival. The threads of `L` wait according to their state but have been taken out of their queue;
between two operations there are none.
-/

namespace NexsKernel.Mcs

open Function (update update_self update_of_ne update_eq_self_iff update_idem)

/-- An object with a queue of threads. -/
inductive WaitQueue where
  | endpoint (ep : EpPtr)
  | notification (ntfn : NtfnPtr)
  deriving DecidableEq

namespace IpcState

variable (i : IpcState)

/-- The object at which a thread waits. -/
def waitsAt (t : TcbPtr) : Option WaitQueue :=
  match i.tsType t with
  | .blockedOnSend | .blockedOnReceive => some (.endpoint (i.blockingObject t))
  | .blockedOnNotification => some (.notification (i.blockingObject t))
  | _ => none

/-- The queue of an object. -/
def queueAt : WaitQueue → Queue TcbPtr
  | .endpoint ep => i.epQueue ep
  | .notification ntfn => i.ntfnQueue ntfn

/-- A store to the queue of an object. -/
def setQueueAt : WaitQueue → Queue TcbPtr → IpcState
  | .endpoint ep, q => { i with epQueue := update i.epQueue ep q }
  | .notification ntfn, q => { i with ntfnQueue := update i.ntfnQueue ntfn q }

/-- `reorderEP` and `reorderNTFN`. -/
def reorder (w : WaitQueue) (t : TcbPtr) : IpcState :=
  let r := i.tcbEPDequeue t (i.queueAt w)
  let r := r.1.tcbEPAppend t r.2
  r.1.setQueueAt w r.2

/-- The order of the threads in a queue. -/
def before (a b : TcbPtr) : Prop :=
  i.tcbPriority b < i.tcbPriority a ∨ i.tcbPriority a = i.tcbPriority b ∧ i.epArrival a < i.epArrival b

end IpcState

/-- A state of a thread that does not wait, and is not the idle thread. -/
def ThreadState.Plain : ThreadState → Prop
  | .blockedOnSend | .blockedOnReceive | .blockedOnNotification | .blockedOnReply | .idleThreadState => False
  | _ => True

/-- A state of a thread that is in no queue. -/
def ThreadState.Unqueued : ThreadState → Prop
  | .blockedOnSend | .blockedOnReceive | .blockedOnNotification => False
  | _ => True

lemma ThreadState.Plain.unqueued {ts : ThreadState} (h : ts.Plain) : ts.Unqueued := by
  cases ts <;> trivial

lemma IpcState.before.prio_le {i : IpcState} {a b} (h : i.before a b) : i.tcbPriority b ≤ i.tcbPriority a := by
  rcases h with h | ⟨h, -⟩
  · exact h.le
  · exact h.ge

/-- The threads of the queues. -/
structure Queued (i : IpcState) (L : List TcbPtr) (xs : WaitQueue → List TcbPtr) : Prop where
  rep : ∀ w, Queue.Rep i.epLinks (i.queueAt w) (xs w)
  mem : ∀ w t, t ∈ xs w ↔ i.waitsAt t = some w ∧ t ∉ L
  order : ∀ w, (xs w).Pairwise i.before
  arrived : ∀ w, ∀ t ∈ xs w, i.epArrival t < i.epClock

/-- The states of endpoints and notifications agree with their queues. -/
structure Labelled (i : IpcState) (xs : WaitQueue → List TcbPtr) : Prop where
  idle : ∀ ep, i.epState ep = .idle ↔ xs (.endpoint ep) = []
  send : ∀ ep, i.epState ep = .send → ∀ t ∈ xs (.endpoint ep), i.tsType t = .blockedOnSend
  recv : ∀ ep, i.epState ep = .recv → ∀ t ∈ xs (.endpoint ep), i.tsType t = .blockedOnReceive
  waiting : ∀ ntfn, i.ntfnState ntfn = .waiting ↔ xs (.notification ntfn) ≠ []

/-- An endpoint and its queue change. -/
lemma Labelled.endpoint {i i' : IpcState} {xs xs' : WaitQueue → List TcbPtr} {ep : EpPtr} (l : Labelled i xs)
    (hxs : ∀ w, w ≠ .endpoint ep → xs' w = xs w)
    (hts : ∀ w, w ≠ .endpoint ep → ∀ t ∈ xs w, i'.tsType t = i.tsType t)
    (hst : ∀ ep', ep' ≠ ep → i'.epState ep' = i.epState ep') (hn : i'.ntfnState = i.ntfnState)
    (idle : i'.epState ep = .idle ↔ xs' (.endpoint ep) = [])
    (send : i'.epState ep = .send → ∀ t ∈ xs' (.endpoint ep), i'.tsType t = .blockedOnSend)
    (recv : i'.epState ep = .recv → ∀ t ∈ xs' (.endpoint ep), i'.tsType t = .blockedOnReceive) : Labelled i' xs' := by
  have hep : ∀ {ep'}, ep' ≠ ep → WaitQueue.endpoint ep' ≠ .endpoint ep := fun he e => he (WaitQueue.endpoint.inj e)
  refine ⟨fun ep' => ?_, fun ep' => ?_, fun ep' => ?_, fun n => ?_⟩
  · by_cases he : ep' = ep
    · rwa [he]
    · rw [hst ep' he, hxs _ (hep he)]
      exact l.idle ep'
  · by_cases he : ep' = ep
    · rwa [he]
    · rw [hst ep' he, hxs _ (hep he)]
      exact fun h t ht => (hts _ (hep he) t ht).trans (l.send ep' h t ht)
  · by_cases he : ep' = ep
    · rwa [he]
    · rw [hst ep' he, hxs _ (hep he)]
      exact fun h t ht => (hts _ (hep he) t ht).trans (l.recv ep' h t ht)
  · rw [hn, hxs (.notification n) nofun]
    exact l.waiting n

/-- A notification and its queue change. -/
lemma Labelled.notification {i i' : IpcState} {xs xs' : WaitQueue → List TcbPtr} {ntfn : NtfnPtr} (l : Labelled i xs)
    (hxs : ∀ w, w ≠ .notification ntfn → xs' w = xs w)
    (hts : ∀ w, w ≠ .notification ntfn → ∀ t ∈ xs w, i'.tsType t = i.tsType t)
    (hst : ∀ n, n ≠ ntfn → i'.ntfnState n = i.ntfnState n) (he : i'.epState = i.epState)
    (waiting : i'.ntfnState ntfn = .waiting ↔ xs' (.notification ntfn) ≠ []) : Labelled i' xs' := by
  refine ⟨fun ep => ?_, fun ep => ?_, fun ep => ?_, fun n => ?_⟩
  · rw [he, hxs (.endpoint ep) nofun]
    exact l.idle ep
  · rw [he, hxs (.endpoint ep) nofun]
    exact fun h t ht => (hts (.endpoint ep) nofun t ht).trans (l.send ep h t ht)
  · rw [he, hxs (.endpoint ep) nofun]
    exact fun h t ht => (hts (.endpoint ep) nofun t ht).trans (l.recv ep h t ht)
  · by_cases hn : n = ntfn
    · rwa [hn]
    · rw [hst n hn, hxs _ (by simpa using hn)]
      exact l.waiting n

/-- The queues of endpoints and notifications are consistent. -/
def Waiting (i : IpcState) (L : List TcbPtr) : Prop :=
  ∃ xs, Queued i L xs ∧ Labelled i xs

/-- Appending to a sorted queue. -/
lemma tcbEPAppend_spec {i : IpcState} {q : Queue TcbPtr} {xs : List TcbPtr} {t : TcbPtr}
    (rep : Queue.Rep i.epLinks q xs) (ht : t ∉ xs) (ord : xs.Pairwise i.before)
    (arr : ∀ u ∈ xs, i.epArrival u < i.epClock) :
    ∃ ys zs, xs = ys ++ zs ∧
      Queue.Rep (i.tcbEPAppend t q).1.epLinks (i.tcbEPAppend t q).2 (ys ++ t :: zs) ∧
      Queue.Same (t :: xs) i.epLinks (i.tcbEPAppend t q).1.epLinks ∧
      (ys ++ t :: zs).Pairwise (i.tcbEPAppend t q).1.before := by
  have hs : Queue.Seg i.epLinks none (xs ++ []) none := by simpa using rep.seg
  obtain ⟨ys, zs, e, escan, hz, hy⟩ := Queue.scanBack_eq
    (p := fun b => decide (i.tcbPriority t > i.tcbPriority b)) hs (length_lt_walkFuel rep.nodup) (by simp)
  rw [List.append_nil] at e
  subst e
  have hscan : Queue.scanBack i.epLinks (fun b => decide (i.tcbPriority t > i.tcbPriority b)) walkFuel
      q.last none = (ys.getLast?, zs.head?) := by
    rw [rep.last]
    exact escan
  have rep' := rep.insertBetween ht
  refine ⟨ys, zs, rfl, ?_, ?_, ?_⟩
  · simp only [IpcState.tcbEPAppend, hscan, List.getLast?_eq_none_iff, List.head?_eq_none_iff]
    exact rep'
  · simp only [IpcState.tcbEPAppend, hscan]
    exact Queue.insertBetween_same _ (fun b hb => List.mem_append_left _ (List.mem_of_getLast? hb))
      (fun b hb => List.mem_append_right _ (List.mem_of_head? hb))
  · have keep : ∀ a b, a ∈ ys ++ zs → b ∈ ys ++ zs → i.before a b →
        (i.tcbEPAppend t q).1.before a b := by
      intro a b ha hb hab
      have hat : a ≠ t := fun e => ht (e ▸ ha)
      have hbt : b ≠ t := fun e => ht (e ▸ hb)
      simpa [IpcState.before, IpcState.tcbEPAppend, hat, hbt] using hab
    have last : ∀ y ∈ ys, i.tcbPriority t ≤ i.tcbPriority y := by
      intro y hy'
      obtain ⟨us, l, rfl⟩ := List.eq_nil_or_concat' ys |>.resolve_left (by rintro rfl; simp at hy')
      have hl : i.tcbPriority t ≤ i.tcbPriority l := by simpa using hy l (by simp)
      rcases List.mem_append.mp hy' with hu | hu
      · have hb : i.before y l := by
          have h1 := (List.pairwise_append.mp ord).1
          exact (List.pairwise_append.mp h1).2.2 y hu l (by simp)
        exact hl.trans hb.prio_le
      · rw [List.mem_singleton.mp hu]
        exact hl
    obtain ⟨oy, oz, oyz⟩ := List.pairwise_append.mp ord
    rw [List.pairwise_append, List.pairwise_cons]
    refine ⟨oy.imp_of_mem fun ha hb => keep _ _ (by simp [ha]) (by simp [hb]), ⟨?_, ?_⟩, ?_⟩
    · intro z hz'
      have hlt : i.tcbPriority z < i.tcbPriority t := by simpa using hz z hz'
      exact .inl hlt
    · exact oz.imp_of_mem fun ha hb => keep _ _ (by simp [ha]) (by simp [hb])
    · intro y hy' b hb
      rcases List.mem_cons.mp hb with rfl | hb
      · -- the thread comes after those of the same priority, which arrived earlier
        have hyt : y ≠ b := fun e => ht (e ▸ List.mem_append_left _ hy')
        have := arr y (List.mem_append_left _ hy')
        have := last y hy'
        unfold IpcState.before IpcState.tcbEPAppend
        simp only [update_self, update_of_ne hyt]
        omega
      · exact keep _ _ (by simp [hy']) (by simp [hb]) (oyz y hy' b hb)

namespace Queued

variable {i i' : IpcState} {L : List TcbPtr} {xs : WaitQueue → List TcbPtr} {t : TcbPtr} {w w' : WaitQueue}

lemma mem_unique (h : Queued i L xs) (ht : t ∈ xs w) (ht' : t ∈ xs w') : w = w' := by
  have h1 := ((h.mem w t).mp ht).1
  rw [((h.mem w' t).mp ht').1] at h1
  exact (Option.some.inj h1).symm

/-- A thread that does not wait can be ignored. -/
lemma ignore (h : Queued i L xs) (ht : i.waitsAt t = none) : Queued i (t :: L) xs := by
  refine { h with mem := fun w u => ?_ }
  rw [h.mem, List.mem_cons]
  constructor
  · rintro ⟨hu, hL⟩
    refine ⟨hu, ?_⟩
    rintro (rfl | hu')
    · rw [ht] at hu
      cases hu
    · exact hL hu'
  · rintro ⟨hu, hL⟩
    exact ⟨hu, fun h => hL (.inr h)⟩

/-- A thread outside of the queues stops waiting. -/
lemma leave (h : Queued i (t :: L) xs) (hl : i'.epLinks = i.epLinks) (hq : i'.queueAt = i.queueAt)
    (hp : i'.tcbPriority = i.tcbPriority) (ha : i'.epArrival = i.epArrival) (hc : i'.epClock = i.epClock)
    (hw : i'.waitsAt = update i.waitsAt t none) : Queued i' L xs := by
  refine ⟨?_, ?_, ?_, ?_⟩
  · rw [hl, hq]
    exact h.rep
  · intro w u
    rw [h.mem, hw]
    by_cases hu : u = t
    · simp [hu]
    · simp [hu]
  · intro w
    have : i'.before = i.before := by
      unfold IpcState.before
      rw [hp, ha]
    rw [this]
    exact h.order w
  · rw [ha, hc]
    exact h.arrived

/-- A thread leaves its queue. -/
lemma dequeue (h : Queued i L xs) (ht : t ∈ xs w) (hl : i'.epLinks = (i.tcbEPDequeue t (i.queueAt w)).1.epLinks)
    (hq : i'.queueAt = update i.queueAt w (i.tcbEPDequeue t (i.queueAt w)).2)
    (hp : i'.tcbPriority = i.tcbPriority) (ha : i'.epArrival = i.epArrival) (hc : i'.epClock = i.epClock)
    (hw : i'.waitsAt = i.waitsAt) :
    ∃ xs', Queued i' (t :: L) xs' ∧ (∀ u, u ∈ xs' w ↔ u ∈ xs w ∧ u ≠ t) ∧
      ∀ w', w' ≠ w → xs' w' = xs w' := by
  obtain ⟨ys, zs, e⟩ := List.append_of_mem ht
  have rep : Queue.Rep i.epLinks (i.queueAt w) (ys ++ t :: zs) := e ▸ h.rep w
  have hmem : ∀ u, u ∈ ys ++ zs ↔ u ∈ xs w ∧ u ≠ t := by
    intro u
    have hnd := (List.nodup_cons.mp (List.nodup_middle.mp rep.nodup)).1
    rw [e]
    constructor
    · intro hu
      exact ⟨by simp only [List.mem_append, List.mem_cons] at hu ⊢; tauto, fun e => hnd (e ▸ hu)⟩
    · rintro ⟨hu, hne⟩
      simp only [List.mem_append, List.mem_cons] at hu ⊢
      tauto
  refine ⟨update xs w (ys ++ zs), ⟨?_, ?_, ?_, ?_⟩, ?_, ?_⟩
  · intro w'
    rw [hl, hq]
    by_cases hw' : w' = w
    · subst hw'
      simp only [update_self]
      exact rep.unlink
    · simp only [update_of_ne hw']
      refine (h.rep w').same (Queue.unlink_same rep) fun u hu hu' => hw' ?_
      exact h.mem_unique hu (e ▸ hu')
  · intro w' u
    rw [hw]
    by_cases hw' : w' = w
    · subst hw'
      rw [update_self, hmem, h.mem, List.mem_cons]
      tauto
    · rw [update_of_ne hw', h.mem, List.mem_cons]
      constructor
      · rintro ⟨hu, hL⟩
        refine ⟨hu, ?_⟩
        rintro (rfl | hu')
        · exact hw' (h.mem_unique ((h.mem _ _).mpr ⟨hu, hL⟩) ht)
        · exact hL hu'
      · rintro ⟨hu, hL⟩
        exact ⟨hu, fun h => hL (.inr h)⟩
  · intro w'
    have hb : i'.before = i.before := by
      unfold IpcState.before
      rw [hp, ha]
    rw [hb]
    by_cases hw' : w' = w
    · subst hw'
      rw [update_self]
      refine (h.order w').sublist ?_
      rw [e]
      exact (List.sublist_cons_self t zs).append_left ys
    · rw [update_of_ne hw']
      exact h.order w'
  · intro w' u hu
    rw [ha, hc]
    by_cases hw' : w' = w
    · subst hw'
      rw [update_self] at hu
      exact h.arrived w' u ((hmem u).mp hu).1
    · rw [update_of_ne hw'] at hu
      exact h.arrived w' u hu
  · intro u
    rw [update_self, hmem]
  · intro w' hw'
    rw [update_of_ne hw']

/-- A thread enters a queue. -/
lemma enqueue (h : Queued i (t :: L) xs) (htL : t ∉ L)
    (hl : i'.epLinks = (i.tcbEPAppend t (i.queueAt w)).1.epLinks)
    (hq : i'.queueAt = update i.queueAt w (i.tcbEPAppend t (i.queueAt w)).2)
    (hp : i'.tcbPriority = i.tcbPriority)
    (ha : i'.epArrival = (i.tcbEPAppend t (i.queueAt w)).1.epArrival)
    (hc : i'.epClock = (i.tcbEPAppend t (i.queueAt w)).1.epClock)
    (hw : i'.waitsAt = update i.waitsAt t (some w)) :
    ∃ xs', Queued i' L xs' ∧ (∀ u, u ∈ xs' w ↔ u = t ∨ u ∈ xs w) ∧ ∀ w', w' ≠ w → xs' w' = xs w' := by
  have htx : ∀ w', t ∉ xs w' := fun w' ht => ((h.mem w' t).mp ht).2 (by simp)
  obtain ⟨ys, zs, e, rep, same, ord⟩ := tcbEPAppend_spec (h.rep w) (htx w) (h.order w) (h.arrived w)
  have hmem : ∀ u, u ∈ ys ++ t :: zs ↔ u = t ∨ u ∈ xs w := by
    intro u
    rw [e]
    simp only [List.mem_append, List.mem_cons]
    tauto
  have hne : ∀ w' u, u ∈ xs w' → u ≠ t := fun w' u hu e => htx w' (e ▸ hu)
  have hb : ∀ a b, i'.before a b ↔ (i.tcbEPAppend t (i.queueAt w)).1.before a b := by
    intro a b
    unfold IpcState.before
    rw [hp, ha]
    rfl
  have hclk : ∀ u, u ≠ t → i.epArrival u < i.epClock → i'.epArrival u < i'.epClock := by
    intro u hu hlt
    rw [ha, hc]
    simp only [IpcState.tcbEPAppend, update_of_ne hu]
    omega
  refine ⟨update xs w (ys ++ t :: zs), ⟨?_, ?_, ?_, ?_⟩, ?_, ?_⟩
  · intro w'
    rw [hl, hq]
    by_cases hw' : w' = w
    · subst hw'
      simpa only [update_self] using rep
    · simp only [update_of_ne hw']
      refine (h.rep w').same same fun u hu hu' => ?_
      rcases List.mem_cons.mp hu' with rfl | hu'
      · exact htx w' hu
      · exact hw' (h.mem_unique hu hu')
  · intro w' u
    rw [hw]
    by_cases hut : u = t
    · subst hut
      rw [update_self]
      by_cases hw' : w' = w
      · subst hw'
        rw [update_self, hmem]
        simp [htL]
      · rw [update_of_ne hw']
        have := htx w'
        have hne' : ¬ (some w = some w') := fun e => hw' (Option.some.inj e).symm
        tauto
    · rw [update_of_ne hut]
      by_cases hw' : w' = w
      · subst hw'
        rw [update_self, hmem, h.mem, List.mem_cons]
        tauto
      · rw [update_of_ne hw', h.mem, List.mem_cons]
        tauto
  · intro w'
    by_cases hw' : w' = w
    · subst hw'
      rw [update_self]
      exact ord.imp fun hab => (hb _ _).mpr hab
    · rw [update_of_ne hw']
      refine (h.order w').imp_of_mem fun ha' hb' hab => (hb _ _).mpr ?_
      simpa [IpcState.before, IpcState.tcbEPAppend, hne w' _ ha', hne w' _ hb'] using hab
  · intro w' u hu
    by_cases hw' : w' = w
    · subst hw'
      rw [update_self, hmem] at hu
      rcases hu with rfl | hu
      · rw [ha, hc]
        simp [IpcState.tcbEPAppend]
      · exact hclk u (hne w' u hu) (h.arrived w' u hu)
    · rw [update_of_ne hw'] at hu
      exact hclk u (hne w' u hu) (h.arrived w' u hu)
  · intro u
    rw [update_self, hmem]
  · intro w' hw'
    rw [update_of_ne hw']

end Queued

/-- A store to the queue of an endpoint. -/
lemma queueAt_epQueue {i i' : IpcState} {ep q} (h : i'.epQueue = update i.epQueue ep q)
    (h' : i'.ntfnQueue = i.ntfnQueue) : i'.queueAt = update i.queueAt (.endpoint ep) q := by
  funext w
  cases w with
  | endpoint ep' =>
    show i'.epQueue ep' = _
    rw [h]
    by_cases he : ep' = ep
    · simp [he]
    · simp [he, IpcState.queueAt]
  | notification n =>
    rw [update_of_ne (by simp)]
    exact congrFun h' n

/-- A store to the queue of a notification. -/
lemma queueAt_ntfnQueue {i i' : IpcState} {ntfn q} (h : i'.epQueue = i.epQueue)
    (h' : i'.ntfnQueue = update i.ntfnQueue ntfn q) :
    i'.queueAt = update i.queueAt (.notification ntfn) q := by
  funext w
  cases w with
  | notification n =>
    show i'.ntfnQueue n = _
    rw [h']
    by_cases he : n = ntfn
    · simp [he]
    · simp [he, IpcState.queueAt]
  | endpoint ep =>
    rw [update_of_ne (by simp)]
    exact congrFun h ep

namespace IpcState

variable (i : IpcState) (w : WaitQueue) (q : Queue TcbPtr)

lemma setQueueAt_queueAt : (i.setQueueAt w q).queueAt = update i.queueAt w q := by
  cases w with
  | endpoint ep => exact queueAt_epQueue rfl rfl
  | notification n => exact queueAt_ntfnQueue rfl rfl

lemma setQueueAt_fields : (i.setQueueAt w q).epLinks = i.epLinks ∧
    (i.setQueueAt w q).tcbPriority = i.tcbPriority ∧ (i.setQueueAt w q).epArrival = i.epArrival ∧
    (i.setQueueAt w q).epClock = i.epClock ∧ (i.setQueueAt w q).waitsAt = i.waitsAt := by
  cases w <;> exact ⟨rfl, rfl, rfl, rfl, rfl⟩

end IpcState

namespace Queued

variable {i : IpcState} {L : List TcbPtr} {xs : WaitQueue → List TcbPtr} {t : TcbPtr} {w : WaitQueue}

/-- The priority of a thread outside of the queues changes. -/
lemma setPriority (h : Queued i (t :: L) xs) (prio : Nat) :
    Queued { i with tcbPriority := update i.tcbPriority t prio } (t :: L) xs := by
  have htx : ∀ w u, u ∈ xs w → u ≠ t := fun w u hu e => ((h.mem w u).mp hu).2 (by simp [e])
  refine ⟨h.rep, h.mem, fun w => ?_, h.arrived⟩
  refine (h.order w).imp_of_mem fun ha hb hab => ?_
  simpa [IpcState.before, htx w _ ha, htx w _ hb] using hab

/-- A thread gets another priority and is put into its queue again. -/
lemma reorder (h : Queued i L xs) (ht : t ∈ xs w) (prio : Nat) :
    ∃ xs', Queued ({ i with tcbPriority := update i.tcbPriority t prio }.reorder w t) L xs' ∧
      ∀ w u, u ∈ xs' w ↔ u ∈ xs w := by
  have htw := (h.mem w t).mp ht
  -- in between, the thread is in no queue
  let r := i.tcbEPDequeue t (i.queueAt w)
  obtain ⟨e1, e2, e3, e4, e5⟩ := r.1.setQueueAt_fields w r.2
  obtain ⟨xs1, q1, hmem1, hne1⟩ := h.dequeue ht e1 (r.1.setQueueAt_queueAt w r.2) e2 e3 e4 e5
  have q2 := q1.setPriority prio
  have hq : (r.1.setQueueAt w r.2).queueAt w = r.2 := by
    rw [r.1.setQueueAt_queueAt, update_self]
  let r' := IpcState.tcbEPAppend { r.1 with tcbPriority := update i.tcbPriority t prio } t r.2
  have happ : IpcState.tcbEPAppend { r.1.setQueueAt w r.2 with
      tcbPriority := update (r.1.setQueueAt w r.2).tcbPriority t prio } t r.2 =
      ({ r'.1 with
        epQueue := (r.1.setQueueAt w r.2).epQueue
        ntfnQueue := (r.1.setQueueAt w r.2).ntfnQueue }, r'.2) := by
    cases w <;> rfl
  obtain ⟨f1, f2, f3, f4, f5⟩ := r'.1.setQueueAt_fields w r'.2
  obtain ⟨xs', q', hmem', hne'⟩ : ∃ xs', Queued (r'.1.setQueueAt w r'.2) L xs' ∧ _ := by
    refine q2.enqueue (w := w) htw.2 ?_ ?_ ?_ ?_ ?_ ?_
    · show _ = (IpcState.tcbEPAppend _ t ((r.1.setQueueAt w r.2).queueAt w)).1.epLinks
      rw [hq, happ, f1]
    · show _ = update (r.1.setQueueAt w r.2).queueAt w
        (IpcState.tcbEPAppend _ t ((r.1.setQueueAt w r.2).queueAt w)).2
      rw [hq, happ, IpcState.setQueueAt_queueAt, IpcState.setQueueAt_queueAt, update_idem]
      rfl
    · rw [f2]
      show update i.tcbPriority t prio = update (r.1.setQueueAt w r.2).tcbPriority t prio
      rw [e2]
      rfl
    · show _ = (IpcState.tcbEPAppend _ t ((r.1.setQueueAt w r.2).queueAt w)).1.epArrival
      rw [hq, happ, f3]
    · show _ = (IpcState.tcbEPAppend _ t ((r.1.setQueueAt w r.2).queueAt w)).1.epClock
      rw [hq, happ, f4]
    · rw [f5]
      show i.waitsAt = update (r.1.setQueueAt w r.2).waitsAt t (some w)
      rw [e5]
      exact (update_eq_self_iff.mpr htw.1.symm).symm
  refine ⟨xs', q', fun w' u => ?_⟩
  by_cases hw' : w' = w
  · subst hw'
    rw [hmem', hmem1]
    constructor
    · rintro (rfl | hu)
      · exact ht
      · exact hu.1
    · intro hu
      by_cases hut : u = t
      · exact .inl hut
      · exact .inr ⟨hu, hut⟩
  · rw [hne' w' hw', hne1 w' hw']

/-- All threads of a queue are taken out of it. -/
lemma clear (h : Queued i L xs) (w : WaitQueue) :
    Queued (i.setQueueAt w Queue.empty) (xs w ++ L) (update xs w []) := by
  obtain ⟨e1, e2, e3, e4, e5⟩ := i.setQueueAt_fields w Queue.empty
  refine ⟨fun w' => ?_, fun w' t => ?_, fun w' => ?_, fun w' t ht => ?_⟩
  · rw [e1, IpcState.setQueueAt_queueAt]
    by_cases hw : w' = w
    · subst hw
      simpa only [update_self] using Queue.Rep.nil _
    · simpa only [update_of_ne hw] using h.rep w'
  · rw [e5]
    by_cases hw : w' = w
    · subst hw
      have := h.mem w' t
      simp only [update_self, List.not_mem_nil, List.mem_append, false_iff, not_and, not_not]
      tauto
    · rw [update_of_ne hw, h.mem, List.mem_append]
      constructor
      · rintro ⟨ht, hL⟩
        refine ⟨ht, ?_⟩
        rintro (hx | hL')
        · exact hw (h.mem_unique ((h.mem w' t).mpr ⟨ht, hL⟩) hx)
        · exact hL hL'
      · rintro ⟨ht, hL⟩
        exact ⟨ht, fun hL' => hL (.inr hL')⟩
  · have hb : (i.setQueueAt w Queue.empty).before = i.before := by
      unfold IpcState.before
      rw [e2, e3]
    rw [hb]
    by_cases hw : w' = w
    · subst hw
      rw [update_self]
      exact List.Pairwise.nil
    · rw [update_of_ne hw]
      exact h.order w'
  · rw [e3, e4]
    by_cases hw : w' = w
    · subst hw
      simp at ht
    · rw [update_of_ne hw] at ht
      exact h.arrived w' t ht

end Queued

namespace Waiting

variable {i i' : IpcState} {L : List TcbPtr} {t : TcbPtr}

/-- A thread that waits gets another priority. -/
lemma reorder {w} (h : Waiting i L) (ht : i.waitsAt t = some w) (hL : t ∉ L) (prio : Nat) :
    Waiting ({ i with tcbPriority := update i.tcbPriority t prio }.reorder w t) L := by
  obtain ⟨xs, q, l⟩ := h
  obtain ⟨xs', q', hmem⟩ := q.reorder ((q.mem w t).mpr ⟨ht, hL⟩) prio
  have hnil : ∀ w, xs' w = [] ↔ xs w = [] := by
    intro w
    simp only [List.eq_nil_iff_forall_not_mem, hmem]
  refine ⟨xs', q', ⟨fun ep => ?_, fun ep he u hu => ?_, fun ep he u hu => ?_, fun n => ?_⟩⟩
  · rw [hnil, ← l.idle]
    cases w <;> rfl
  · have := l.send ep (by cases w <;> exact he) u ((hmem _ u).mp hu)
    cases w <;> exact this
  · have := l.recv ep (by cases w <;> exact he) u ((hmem _ u).mp hu)
    cases w <;> exact this
  · rw [ne_eq, hnil, ← ne_eq, ← l.waiting]
    cases w <;> rfl

/-- A thread enters the queue of an endpoint in which others do the same. -/
lemma enqueueEp {ep st ts} (h : Waiting i (t :: L)) (htL : t ∉ L)
    (hts : st = .send ∧ ts = .blockedOnSend ∨ st = .recv ∧ ts = .blockedOnReceive)
    (hst : i.epState ep = .idle ∨ i.epState ep = st)
    (h1 : i'.tsType = update i.tsType t ts)
    (h2 : i'.blockingObject = update i.blockingObject t ep)
    (h3 : i'.epLinks = (i.tcbEPAppend t (i.epQueue ep)).1.epLinks)
    (h4 : i'.tcbPriority = i.tcbPriority)
    (h5 : i'.epArrival = (i.tcbEPAppend t (i.epQueue ep)).1.epArrival)
    (h6 : i'.epClock = (i.tcbEPAppend t (i.epQueue ep)).1.epClock)
    (h7 : i'.epQueue = update i.epQueue ep (i.tcbEPAppend t (i.epQueue ep)).2)
    (h8 : i'.epState = update i.epState ep st)
    (h9 : i'.ntfnQueue = i.ntfnQueue) (h0 : i'.ntfnState = i.ntfnState) : Waiting i' L := by
  obtain ⟨xs, q, l⟩ := h
  have htx : ∀ w u, u ∈ xs w → u ≠ t := fun w u hu e => ((q.mem w u).mp hu).2 (by simp [e])
  obtain ⟨xs', q', hmem, hne⟩ := q.enqueue htL h3 (queueAt_epQueue h7 h9) h4 h5 h6 (by
    funext u
    by_cases hu : u = t
    · subst hu
      rcases hts with ⟨-, rfl⟩ | ⟨-, rfl⟩ <;> simp [IpcState.waitsAt, h1, h2]
    · simp [IpcState.waitsAt, h1, h2, hu])
  have ht : t ∈ xs' (.endpoint ep) := (hmem t).mpr (.inl rfl)
  have hts' : ∀ w, ∀ u ∈ xs w, i'.tsType u = i.tsType u := fun w u hu => by rw [h1, update_of_ne (htx w u hu)]
  have hself : i'.epState ep = st := by rw [h8, update_self]
  -- the threads that were there before wait for the same
  have kind : (∀ u ∈ xs (.endpoint ep), i.epState ep = st → i.tsType u = ts) →
      ∀ u ∈ xs' (.endpoint ep), i'.tsType u = ts := by
    intro hold u hu
    rcases (hmem u).mp hu with rfl | hu
    · rw [h1, update_self]
    · rw [hts' _ u hu]
      rcases hst with hst | hst
      · rw [(l.idle ep).mp hst] at hu
        cases hu
      · exact hold u hu hst
  refine ⟨xs', q', l.endpoint hne (fun w _ => hts' w) (fun ep' he => by rw [h8, update_of_ne he]) h0 ?_
    (fun he => ?_) fun he => ?_⟩
  · rw [hself]
    refine iff_of_false ?_ (List.ne_nil_of_mem ht)
    rcases hts with ⟨rfl, -⟩ | ⟨rfl, -⟩ <;> simp
  · rcases hts with ⟨rfl, rfl⟩ | ⟨rfl, -⟩
    · exact kind fun u hu e => l.send ep e u hu
    · cases hself.symm.trans he
  · rcases hts with ⟨rfl, -⟩ | ⟨rfl, rfl⟩
    · cases hself.symm.trans he
    · exact kind fun u hu e => l.recv ep e u hu

/-- A thread enters the queue of a notification. -/
lemma enqueueNtfn {ntfn} (h : Waiting i (t :: L)) (htL : t ∉ L)
    (h1 : i'.tsType = update i.tsType t .blockedOnNotification)
    (h2 : i'.blockingObject = update i.blockingObject t ntfn)
    (h3 : i'.epLinks = (i.tcbEPAppend t (i.ntfnQueue ntfn)).1.epLinks)
    (h4 : i'.tcbPriority = i.tcbPriority)
    (h5 : i'.epArrival = (i.tcbEPAppend t (i.ntfnQueue ntfn)).1.epArrival)
    (h6 : i'.epClock = (i.tcbEPAppend t (i.ntfnQueue ntfn)).1.epClock)
    (h7 : i'.epQueue = i.epQueue) (h8 : i'.epState = i.epState)
    (h9 : i'.ntfnQueue = update i.ntfnQueue ntfn (i.tcbEPAppend t (i.ntfnQueue ntfn)).2)
    (h0 : i'.ntfnState = update i.ntfnState ntfn .waiting) : Waiting i' L := by
  obtain ⟨xs, q, l⟩ := h
  have htx : ∀ w u, u ∈ xs w → u ≠ t := fun w u hu e => ((q.mem w u).mp hu).2 (by simp [e])
  obtain ⟨xs', q', hmem, hne⟩ := q.enqueue htL h3 (queueAt_ntfnQueue h7 h9) h4 h5 h6 (by
    funext u
    by_cases hu : u = t
    · simp [hu, IpcState.waitsAt, h1, h2]
    · simp [IpcState.waitsAt, h1, h2, hu])
  refine ⟨xs', q', l.notification hne (fun w _ u hu => by rw [h1, update_of_ne (htx w u hu)])
    (fun n hn => by rw [h0, update_of_ne hn]) h8 ?_⟩
  rw [h0, update_self]
  exact iff_of_true rfl (List.ne_nil_of_mem ((hmem t).mpr (.inl rfl)))

/-- All threads are taken out of the queue of an endpoint. -/
lemma clearEp (h : Waiting i []) (ep : EpPtr) :
    ∃ xs, Queue.Rep i.epLinks (i.epQueue ep) xs ∧ (∀ t, t ∈ xs ↔ i.waitsAt t = some (.endpoint ep)) ∧
      (i.epState ep = .send → ∀ t ∈ xs, i.tsType t = .blockedOnSend) ∧
      xs.Pairwise i.before ∧ (∀ t ∈ xs, i.epArrival t < i.epClock) ∧
      Waiting { i with
        epState := update i.epState ep .idle
        epQueue := update i.epQueue ep Queue.empty } xs := by
  obtain ⟨xs, q, l⟩ := h
  have hq : (i.setQueueAt (.endpoint ep) Queue.empty).queueAt = _ := i.setQueueAt_queueAt (.endpoint ep) Queue.empty
  have q' := q.clear (.endpoint ep)
  rw [List.append_nil] at q'
  refine ⟨xs (.endpoint ep), q.rep (.endpoint ep), fun t => by simp [q.mem], l.send ep, q.order _, q.arrived _,
    _, ⟨q'.rep, q'.mem, q'.order, q'.arrived⟩, l.endpoint (fun w hw => update_of_ne hw ..) (fun _ _ _ _ => rfl)
      (fun ep' he => update_of_ne he ..) rfl ?_ ?_ ?_⟩ <;> simp

/-- All threads are taken out of the queue of a notification. -/
lemma clearNtfn (h : Waiting i []) (ntfn : NtfnPtr) :
    ∃ xs, Queue.Rep i.epLinks (i.ntfnQueue ntfn) xs ∧
      (∀ t, t ∈ xs ↔ i.waitsAt t = some (.notification ntfn)) ∧
      Waiting { i with
        ntfnState := update i.ntfnState ntfn .idle
        ntfnQueue := update i.ntfnQueue ntfn Queue.empty } xs := by
  obtain ⟨xs, q, l⟩ := h
  have q' := q.clear (.notification ntfn)
  rw [List.append_nil] at q'
  refine ⟨xs (.notification ntfn), q.rep (.notification ntfn), fun t => by simp [q.mem],
    _, ⟨q'.rep, q'.mem, q'.order, q'.arrived⟩, l.notification (fun w hw => update_of_ne hw ..)
      (fun _ _ _ _ => rfl) (fun n hn => update_of_ne hn ..) rfl ?_⟩
  simp

/-- The links of threads outside of the queues change. -/
lemma relink {xs : List TcbPtr} {l : Queue.Links TcbPtr} (h : Waiting i L) (hs : Queue.Same xs i.epLinks l)
    (hx : ∀ t ∈ xs, t ∈ L ∨ i.waitsAt t = none) : Waiting { i with epLinks := l } L := by
  obtain ⟨ys, q, b⟩ := h
  refine ⟨ys, { q with rep := fun w => (q.rep w).same hs fun u hu hu' => ?_ }, ⟨b.idle, b.send, b.recv, b.waiting⟩⟩
  obtain ⟨hw, hL⟩ := (q.mem w u).mp hu
  rcases hx u hu' with h | h
  · exact hL h
  · rw [h] at hw
    cases hw

/-- The threads that are left go back into the queue of their endpoint. -/
lemma refillEp {ep q xs} (h : Waiting i xs) (hidle : i.epState ep = .idle)
    (rep : Queue.Rep i.epLinks q xs) (hw : ∀ t ∈ xs, i.waitsAt t = some (.endpoint ep))
    (hts : ∀ t ∈ xs, i.tsType t = .blockedOnSend) (ord : xs.Pairwise i.before)
    (arr : ∀ t ∈ xs, i.epArrival t < i.epClock) :
    Waiting { i with
      epQueue := update i.epQueue ep q
      epState := if q.head ≠ none then update i.epState ep .send else i.epState } [] := by
  obtain ⟨ys, b, l⟩ := h
  have hnil := (l.idle ep).mp hidle
  refine ⟨update ys (.endpoint ep) xs, ⟨fun w => ?_, fun w t => ?_, fun w => ?_, fun w t ht => ?_⟩,
    l.endpoint (fun w hw => update_of_ne hw ..) (fun _ _ _ _ => rfl) (fun ep' he => ?_) rfl ?_ (fun _ => ?_)
      fun hs => ?_⟩
  · show Queue.Rep i.epLinks ((i.setQueueAt (.endpoint ep) q).queueAt w) _
    rw [IpcState.setQueueAt_queueAt]
    by_cases e : w = .endpoint ep
    · subst e
      simpa only [update_self] using rep
    · simpa only [update_of_ne e] using b.rep w
  · show t ∈ _ ↔ i.waitsAt t = some w ∧ _
    have h1 := b.mem w t
    have h2 := hw t
    by_cases e : w = .endpoint ep
    · subst e
      rw [hnil] at h1
      rw [update_self]
      simp only [List.not_mem_nil, false_iff, not_and, not_not] at h1
      simp only [List.not_mem_nil, not_false_eq_true, and_true]
      exact ⟨h2, h1⟩
    · rw [update_of_ne e, h1]
      constructor
      · exact fun h => ⟨h.1, by simp⟩
      · rintro ⟨h, -⟩
        refine ⟨h, fun hx => e ?_⟩
        rw [h2 hx] at h
        exact (Option.some.inj h).symm
  · show List.Pairwise i.before _
    by_cases e : w = .endpoint ep
    · subst e
      rwa [update_self]
    · rw [update_of_ne e]
      exact b.order w
  · by_cases e : w = .endpoint ep
    · subst e
      rw [update_self] at ht
      exact arr t ht
    · rw [update_of_ne e] at ht
      exact b.arrived w t ht
  · show (if _ then update i.epState ep .send else i.epState) ep' = _
    split
    · exact update_of_ne he ..
    · rfl
  · show (if _ then update i.epState ep .send else i.epState) ep = _ ↔ _
    rw [update_self]
    split
    · rename_i hq
      simp [rep.head_eq_none.not.mp hq]
    · rename_i hq
      simp [rep.head_eq_none.mp (not_not.mp hq), hidle]
  · rwa [update_self]
  · change (if _ then update i.epState ep .send else i.epState) ep = _ at hs
    split at hs
    · simp at hs
    · simp [hidle] at hs

end Waiting

end NexsKernel.Mcs
