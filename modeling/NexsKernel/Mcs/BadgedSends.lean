import NexsKernel.Mcs.Consistency

/-!
# Cancelling the senders with a badge

What `cancelBadgedSends` does to the queue of an endpoint, to the senders it takes out and to all other
threads. `Readied X s s'` says that the scheduler was told of threads in `X`; `Cancelling s s' rs` relates
the state before the loop to a state in which the threads `rs` have been taken out. To the ready queues nothing happens
but that `tcbSchedEnqueue` is called, for some of these threads and for the one that was to run next.
-/

namespace NexsKernel.Mcs

open Function (update update_self update_of_ne update_idem)

lemma RunQueues.addToReady_tcbQueued (cfg : KernelConfig) (r : RunQueues) (add dom prio t u) :
    (r.addToReady cfg add dom prio t).tcbQueued u = (r.tcbQueued u || u == t) := by
  unfold RunQueues.addToReady
  split
  · rename_i hq
    by_cases hu : u = t
    · simp [hu, hq]
    · simp [hu]
  · extract_lets idx queue r' added
    have hr : r'.tcbQueued = r.tcbQueued := by
      unfold r'
      split <;> rfl
    show update r'.tcbQueued t true u = _
    rw [hr]
    by_cases hu : u = t
    · simp [hu]
    · simp [hu]

lemma RunQueues.addToReady_release (cfg : KernelConfig) (r : RunQueues) (add dom prio t) :
    (r.addToReady cfg add dom prio t).tcbInReleaseQueue = r.tcbInReleaseQueue := by
  unfold RunQueues.addToReady
  split
  · rfl
  · extract_lets idx queue r' added
    show r'.tcbInReleaseQueue = _
    unfold r'
    split <;> rfl

/-- The queues after `tcbSchedEnqueue` of some threads, one after the other. -/
def RunQueues.enqueueAll (cfg : KernelConfig) (dom prio : TcbPtr → Nat) (r : RunQueues) (us : List TcbPtr) :
    RunQueues :=
  us.foldl (fun r t => r.schedEnqueue cfg (dom t) (prio t) t) r

/-- The ready queues hold the lists `lists`, each of them the threads of one domain and priority. -/
structure RunQueues.Ready (r : RunQueues) (lists : Nat → List TcbPtr) : Prop where
  rep : ∀ i, Queue.Rep r.schedLinks (r.ksReadyQueues i) (lists i)
  queued : ∀ t, r.tcbQueued t = true ↔ ∃ i, t ∈ lists i
  unique : ∀ t i j, t ∈ lists i → t ∈ lists j → i = j
  free : ∀ t, r.tcbQueued t = false → r.tcbInReleaseQueue t = false → Queue.Free r.schedLinks t

section Enqueue

variable {cfg : KernelConfig} {dom prio : TcbPtr → Nat} {r : RunQueues} {us : List TcbPtr} {lists : Nat → List TcbPtr}

lemma RunQueues.enqueueAll_tcbQueued (t) :
    (r.enqueueAll cfg dom prio us).tcbQueued t = true ↔ r.tcbQueued t = true ∨ t ∈ us := by
  induction us generalizing r with
  | nil => exact (or_iff_left List.not_mem_nil).symm
  | cons u us ih =>
    rw [enqueueAll, List.foldl_cons]
    refine ih.trans ?_
    rw [schedEnqueue, addToReady_tcbQueued, Bool.or_eq_true, beq_iff_eq, List.mem_cons, or_assoc]

lemma RunQueues.enqueueAll_release :
    (r.enqueueAll cfg dom prio us).tcbInReleaseQueue = r.tcbInReleaseQueue := by
  induction us generalizing r with
  | nil => rfl
  | cons u us ih => exact ih.trans (addToReady_release ..)

/-- A thread that is in no queue comes to the head of the one for its priority. -/
lemma RunQueues.Ready.enqueue (h : r.Ready lists) {d p : Nat} {t : TcbPtr} (hrel : r.tcbInReleaseQueue t = false) :
    ∃ lists', (r.schedEnqueue cfg d p t).Ready lists' ∧
      ∀ i, ∃ new, lists' i = new ++ lists i ∧ ∀ u ∈ new, u = t ∧ readyQueuesIndex cfg d p = i := by
  cases hq : r.tcbQueued t with
  | true =>
    rw [schedEnqueue, addToReady, if_pos hq]
    exact ⟨lists, h, fun i => ⟨[], rfl, nofun⟩⟩
  | false =>
    have hnot : ∀ i, t ∉ lists i := fun i hi => by
      rw [(h.queued t).mpr ⟨i, hi⟩] at hq
      cases hq
    generalize hi : readyQueuesIndex cfg d p = i
    have hnext := (h.rep i).prepend (hnot i) (h.free t hq hrel)
    have hsame := Queue.prepend_same (a := t) (h.rep i)
    obtain ⟨r', hr', hlinks, hqueues, hqueued, hrelease⟩ : ∃ r', r.schedEnqueue cfg d p t = r' ∧
        r'.schedLinks = (Queue.prepend r.schedLinks (r.ksReadyQueues i) t).1 ∧
        r'.ksReadyQueues = update r.ksReadyQueues i
          (Queue.prepend r.schedLinks (r.ksReadyQueues i) t).2 ∧
        (∀ u, r'.tcbQueued u = (r.tcbQueued u || u == t)) ∧ r'.tcbInReleaseQueue = r.tcbInReleaseQueue := by
      refine ⟨_, rfl, ?_, ?_, addToReady_tcbQueued cfg r _ d p t, addToReady_release ..⟩
      all_goals
        rw [schedEnqueue, addToReady, if_neg (by rw [hq]; exact Bool.false_ne_true), hi]
        dsimp only
        split <;> rfl
    -- the lists afterwards
    have hmem : ∀ u j, u ∈ update lists i (t :: lists i) j ↔ u = t ∧ j = i ∨ u ∈ lists j := by
      intro u j
      by_cases hj : j = i
      · subst hj
        rw [update_self, List.mem_cons, and_iff_left rfl]
      · rw [update_of_ne hj, or_iff_right fun h => hj h.2]
    rw [hr']
    refine ⟨update lists i (t :: lists i), ⟨fun j => ?_, fun u => ?_, fun u j k hj hk => ?_, fun u hu hur => ?_⟩,
      fun j => ?_⟩
    · rw [hlinks, hqueues]
      by_cases hj : j = i
      · subst hj
        rw [update_self, update_self]
        exact hnext
      · rw [update_of_ne hj, update_of_ne hj]
        refine (h.rep j).same hsame fun u hu hin => ?_
        rcases List.mem_cons.mp hin with rfl | hin
        · exact hnot j hu
        · exact hj (h.unique u j i hu hin)
    · rw [hqueued, Bool.or_eq_true, beq_iff_eq, h.queued]
      simp only [hmem]
      constructor
      · rintro (⟨j, hj⟩ | hu)
        · exact ⟨j, .inr hj⟩
        · exact ⟨i, .inl ⟨hu, rfl⟩⟩
      · rintro ⟨j, ⟨hu, -⟩ | hj⟩
        · exact .inr hu
        · exact .inl ⟨j, hj⟩
    · rw [hmem] at hj hk
      rcases hj with ⟨rfl, rfl⟩ | hj
      · exact hk.elim (fun e => e.2.symm) fun hk => absurd hk (hnot k)
      · rcases hk with ⟨rfl, -⟩ | hk
        · exact absurd hj (hnot j)
        · exact h.unique u j k hj hk
    · rw [hqueued, Bool.or_eq_false_iff, beq_eq_false_iff_ne] at hu
      rw [hrelease] at hur
      obtain ⟨hfree1, hfree2⟩ := h.free u hu.1 hur
      have hnotin : u ∉ t :: lists i := fun hin => by
        rcases List.mem_cons.mp hin with e | hin
        · exact hu.2 e
        · exact absurd ((h.queued u).mpr ⟨i, hin⟩) (by rw [hu.1]; exact Bool.false_ne_true)
      obtain ⟨e1, e2⟩ := hsame u hnotin
      rw [hlinks]
      exact ⟨e1.trans hfree1, e2.trans hfree2⟩
    · by_cases hj : j = i
      · subst hj
        rw [update_self]
        exact ⟨[t], rfl, fun u hu => ⟨List.mem_singleton.mp hu, rfl⟩⟩
      · rw [update_of_ne hj]
        exact ⟨[], rfl, nofun⟩

/-- Each queue is the one before, with some of the threads put in front. -/
lemma RunQueues.Ready.enqueueAll (h : r.Ready lists) (hrel : ∀ t ∈ us, r.tcbInReleaseQueue t = false) :
    ∃ lists', (r.enqueueAll cfg dom prio us).Ready lists' ∧
      ∀ i, ∃ new, lists' i = new ++ lists i ∧ ∀ t ∈ new, t ∈ us ∧ readyQueuesIndex cfg (dom t) (prio t) = i := by
  induction us generalizing r lists with
  | nil => exact ⟨lists, h, fun i => ⟨[], rfl, nofun⟩⟩
  | cons u us ih =>
    obtain ⟨lists1, h1, hnew1⟩ : ∃ lists1, (r.schedEnqueue cfg (dom u) (prio u) u).Ready lists1 ∧ _ :=
      h.enqueue (hrel u (.head _))
    have hrel1 : ∀ t ∈ us, (r.schedEnqueue cfg (dom u) (prio u) u).tcbInReleaseQueue t = false := fun t ht => by
      rw [schedEnqueue, addToReady_release]
      exact hrel t (.tail _ ht)
    obtain ⟨lists2, h2, hnew2⟩ := ih h1 hrel1
    refine ⟨lists2, h2, fun i => ?_⟩
    obtain ⟨new1, e1, hmem1⟩ := hnew1 i
    obtain ⟨new2, e2, hmem2⟩ := hnew2 i
    refine ⟨new2 ++ new1, by rw [e2, e1, List.append_assoc], fun t ht => ?_⟩
    rcases List.mem_append.mp ht with ht | ht
    · exact ⟨.tail _ (hmem2 t ht).1, (hmem2 t ht).2⟩
    · obtain ⟨rfl, hi⟩ := hmem1 t ht
      exact ⟨.head _, hi⟩

end Enqueue

section Refills

variable {sc sc' : SchedContext}

lemma refillPopHead_max {r} (e : sc.refillPopHead = .ok (r, sc')) : sc'.scRefillMax = sc.scRefillMax := by
  unfold SchedContext.refillPopHead at e
  obtain ⟨-, -, e⟩ := bind_eq_ok.mp e
  obtain ⟨-, -, e⟩ := bind_eq_ok.mp e
  obtain ⟨-, -, e⟩ := bind_eq_ok.mp e
  injection e with e
  obtain ⟨-, rfl⟩ := Prod.ext_iff.mp e
  rfl

lemma mergeOverlapping_max {fuel} (e : SchedContext.mergeOverlapping fuel sc = .ok sc') :
    sc'.scRefillMax = sc.scRefillMax := by
  induction fuel generalizing sc with
  | zero => cases e
  | succ fuel ih =>
    unfold SchedContext.mergeOverlapping at e
    split at e
    · obtain ⟨sc1, e1, e⟩ := bind_eq_ok.mp e
      unfold SchedContext.mergeOverlappingHeadRefill at e1
      obtain ⟨⟨r, sc2⟩, e2, e1⟩ := bind_eq_ok.mp e1
      injection e1 with e1
      have hm : sc1.scRefillMax = sc2.scRefillMax := by
        rw [← e1]
        rfl
      exact (ih e).trans (hm.trans (refillPopHead_max e2))
    · injection e with e
      rw [e]

lemma refillUnblockCheck_max {cfg now} (e : sc.refillUnblockCheck cfg now = .ok sc') :
    sc'.scRefillMax = sc.scRefillMax := by
  unfold SchedContext.refillUnblockCheck at e
  split at e
  · injection e with e
    rw [e]
  · split at e
    · obtain ⟨sc2, e1, e⟩ := bind_eq_ok.mp e
      obtain ⟨-, -, e⟩ := bind_eq_ok.mp e
      injection e with e
      rw [← e]
      have hm := mergeOverlapping_max e1
      exact hm
    · injection e with e
      rw [e]

end Refills

namespace Kernel

/-- A thread is in a ready queue, or it is the one to switch to. -/
def Candidate (s : Kernel) (t : TcbPtr) : Prop :=
  s.tcbQueued t = true ∨ s.ksSchedulerAction = .switchTo t

/-- The run queues after `tcbSchedEnqueue` of some threads, which are in `X` or were to run next. -/
def Enqueued (cfg : KernelConfig) (X : Set TcbPtr) (s : Kernel) (r : RunQueues) : Prop :=
  ∃ us, r = s.toRunQueues.enqueueAll cfg s.tcbDomain s.tcbPriority us ∧
    ∀ t ∈ us, s.tcbInReleaseQueue t = false ∧ (t ∈ X ∨ s.ksSchedulerAction = .switchTo t)

namespace Enqueued

variable {cfg : KernelConfig} {X Y Z : Set TcbPtr} {s s' : Kernel} {r : RunQueues}

lemma refl (cfg : KernelConfig) (X : Set TcbPtr) (s : Kernel) : Enqueued cfg X s s.toRunQueues :=
  ⟨[], rfl, nofun⟩

lemma release (h : Enqueued cfg X s r) : r.tcbInReleaseQueue = s.tcbInReleaseQueue := by
  obtain ⟨us, rfl, -⟩ := h
  exact RunQueues.enqueueAll_release

lemma queued (h : Enqueued cfg X s r) {t : TcbPtr} (ht : s.tcbQueued t = true) : r.tcbQueued t = true := by
  obtain ⟨us, rfl, -⟩ := h
  exact (RunQueues.enqueueAll_tcbQueued t).mpr (.inl ht)

lemma trans (h : Enqueued cfg X s s'.toRunQueues) (h' : Enqueued cfg Y s' r) (hX : X ⊆ Z) (hY : Y ⊆ Z)
    (hdom : s'.tcbDomain = s.tcbDomain) (hprio : s'.tcbPriority = s.tcbPriority)
    (action : ∀ t, s'.ksSchedulerAction = .switchTo t → t ∈ X ∨ s.ksSchedulerAction = .switchTo t) :
    Enqueued cfg Z s r := by
  have hrelease := h.release
  obtain ⟨us, e, hus⟩ := h
  obtain ⟨us', rfl, hus'⟩ := h'
  refine ⟨us ++ us', ?_, fun t ht => ?_⟩
  · rw [hdom, hprio, e]
    exact List.foldl_append.symm
  · rcases List.mem_append.mp ht with ht | ht
    · exact (hus t ht).imp_right (Or.imp_left (hX ·))
    · obtain ⟨hrel, hwho⟩ := hus' t ht
      exact ⟨hrelease ▸ hrel, hwho.elim (fun h => .inl (hY h)) fun h => (action t h).imp_left (hX ·)⟩

end Enqueued

/-- Only the scheduler was at work, on the threads in `X` and their scheduling contexts. -/
structure Readied (cfg : KernelConfig) (X : Set TcbPtr) (s s' : Kernel) : Prop extends SameObj s s' where
  user : s'.toUserContexts = s.toUserContexts
  node : s'.toNodeState =
    { s.toNodeState with ksSchedulerAction := s'.ksSchedulerAction, ksReprogram := s'.ksReprogram }
  active : ∀ c, (s'.schedContext c).scActive = (s.schedContext c).scActive
  refills : ∀ c, (∀ t ∈ X, s.tcbSchedContext t ≠ some c) → s'.schedContext c = s.schedContext c
  queues : Enqueued cfg X s s'.toRunQueues
  action : ∀ t, s'.ksSchedulerAction = .switchTo t → t ∈ X ∨ s.ksSchedulerAction = .switchTo t
  stays : ∀ t, s.isSchedulable t = true → s.Candidate t → s'.Candidate t

namespace Readied

variable {cfg : KernelConfig} {X Y : Set TcbPtr} {s s' s'' : Kernel}

lemma refl (s : Kernel) : Readied cfg X s s :=
  ⟨.refl s, rfl, rfl, fun _ => rfl, fun _ _ => rfl, Enqueued.refl .., fun _ h => .inr h, fun _ _ h => h⟩

lemma release (h : Readied cfg X s s') : s'.tcbInReleaseQueue = s.tcbInReleaseQueue :=
  h.queues.release

lemma scTest_active (h : Readied cfg X s s') (t : TcbPtr) :
    s'.scTest t SchedContext.scActive = s.scTest t SchedContext.scActive := by
  have e : s'.tcbSchedContext = s.tcbSchedContext := congrArg (fun o => o.tcbSchedContext) h.obj
  unfold scTest
  rw [e]
  split
  · exact h.active _
  · rfl

lemma isSchedulable (h : Readied cfg X s s') (t : TcbPtr) : s'.isSchedulable t = s.isSchedulable t := by
  have e : s'.tsType = s.tsType := congrArg (fun o => o.tsType) h.obj
  unfold Kernel.isSchedulable isRunnable
  rw [e, h.scTest_active, h.release]

lemma trans (h : Readied cfg X s s') (h' : Readied cfg X s' s'') : Readied cfg X s s'' where
  toSameObj := h.toSameObj.trans h'.toSameObj
  user := h'.user.trans h.user
  node := by
    have e := h'.node
    rw [h.node] at e
    exact e
  active c := (h'.active c).trans (h.active c)
  refills c hc := by
    refine (h'.refills c fun t ht => ?_).trans (h.refills c hc)
    have e : s'.tcbSchedContext t = s.tcbSchedContext t := congrArg (fun o => o.tcbSchedContext t) h.obj
    rw [e]
    exact hc t ht
  queues := h.queues.trans h'.queues subset_rfl subset_rfl (congrArg (fun p => p.tcbDomain) h.params)
    (congrArg (fun o => o.tcbPriority) h.obj) h.action
  action t ht := (h'.action t ht).elim .inl (h.action t)
  stays t ht hc := h'.stays t ((h.isSchedulable t).trans ht) (h.stays t ht hc)

end Readied

variable (cfg : KernelConfig) (s : Kernel) {X : Set TcbPtr} {t : TcbPtr}

lemma assert_readied (b : Bool) : Readied cfg X s (s.assert b) :=
  ⟨⟨rfl, rfl, rfl⟩, rfl, rfl, fun _ => rfl, fun _ _ => rfl, Enqueued.refl .., fun _ h => .inr h, fun _ _ h => h⟩

lemma assertSporadic_readied (sc : Option ScPtr) : Readied cfg X s (s.assertSporadic sc) := by
  unfold assertSporadic
  split
  · exact s.assert_readied cfg _
  · exact .refl s

lemma tcbSchedEnqueue_queued : (s.tcbSchedEnqueue cfg t).tcbQueued t = true := by
  have hq := RunQueues.addToReady_tcbQueued cfg s.toRunQueues Queue.prepend (s.tcbDomain t) (s.tcbPriority t) t t
  rw [beq_self_eq_true, Bool.or_true] at hq
  exact hq

lemma tcbSchedEnqueue_readied (hrel : s.tcbInReleaseQueue t = false)
    (ht : t ∈ X ∨ s.ksSchedulerAction = .switchTo t) : Readied cfg X s (s.tcbSchedEnqueue cfg t) := by
  refine ⟨⟨rfl, rfl, rfl⟩, rfl, rfl, fun _ => rfl, fun _ _ => rfl, ⟨[t], rfl, ?_⟩, fun _ h => .inr h,
    fun u _ hu => hu.imp_left fun hu => ?_⟩
  · exact List.forall_mem_singleton.mpr ⟨hrel, ht⟩
  · exact (RunQueues.addToReady_tcbQueued cfg s.toRunQueues _ _ _ t u).trans (by rw [hu, Bool.true_or])

lemma isSchedulable_release (h : s.isSchedulable t = true) : s.tcbInReleaseQueue t = false := by
  unfold Kernel.isSchedulable at h
  rw [Bool.and_eq_true, Bool.not_eq_true'] at h
  exact h.2

/-- The thread to switch to is put into its queue, if it can run. -/
lemma rescheduleRequired_readied : Readied cfg X s (s.rescheduleRequired cfg) := by
  unfold rescheduleRequired
  split
  · rename_i u hact
    extract_lets s1 s2 s3
    by_cases hu : s.isSchedulable u = true
    · have e3 : s3 = s2.tcbSchedEnqueue cfg u := if_pos hu
      rw [e3]
      have h2 : Readied cfg X s s2 := (s.assert_readied cfg _).trans (s1.assert_readied cfg _)
      have h := h2.trans (s2.tcbSchedEnqueue_readied cfg (s.isSchedulable_release hu) (.inr hact))
      have hq : (s2.tcbSchedEnqueue cfg u).tcbQueued u = true := s2.tcbSchedEnqueue_queued cfg
      refine ⟨⟨h.obj, h.params, h.signals⟩, h.user,
        congrArg (fun n : NodeState => { n with ksSchedulerAction := .chooseNewThread }) h.node, h.active,
        h.refills, h.queues, nofun, fun v hv hc => ?_⟩
      rcases hc with hc | hc
      · exact .inl (h.queues.queued hc)
      · obtain rfl : u = v := by
          rw [hact] at hc
          injection hc
        exact .inl hq
    · have e3 : s3 = s := if_neg hu
      rw [e3]
      refine ⟨⟨rfl, rfl, rfl⟩, rfl, rfl, fun _ => rfl, fun _ _ => rfl, Enqueued.refl .., nofun, fun v hv hc => ?_⟩
      rcases hc with hc | hc
      · exact .inl hc
      · rw [hact] at hc
        injection hc with hc
        exact absurd (hc ▸ hv) hu
  · rename_i hact
    exact ⟨⟨rfl, rfl, rfl⟩, rfl, rfl, fun _ => rfl, fun _ _ => rfl, Enqueued.refl .., nofun,
      fun v hv hc => hc.elim .inl fun hc => absurd hc (hact v)⟩

/-- The refills of a thread that was blocked are merged. -/
lemma refillUnblockCheck_readied {sc} (h : s.tcbSchedContext t = some sc) :
    Readied cfg {t} s (s.refillUnblockCheck cfg sc) := by
  unfold refillUnblockCheck
  extract_lets c s1
  have h1 : Readied cfg {t} s s1 := by
    unfold s1 setSchedContext
    split
    · rename_i c' e
      have hm : c'.scRefillMax = c.scRefillMax := refillUnblockCheck_max e
      refine ⟨⟨rfl, rfl, rfl⟩, rfl, rfl, fun d => ?_, fun d hd => ?_, Enqueued.refl .., fun _ h => .inr h,
        fun _ _ h => h⟩
      · show (update s.schedContext sc c' d).scActive = _
        by_cases hd : d = sc
        · subst hd
          rw [update_self]
          unfold SchedContext.scActive
          rw [hm]
        · rw [update_of_ne hd]
      · have hne : d ≠ sc := by
          rintro rfl
          exact hd t rfl h
        exact update_of_ne hne ..
    · exact ⟨⟨rfl, rfl, rfl⟩, rfl, rfl, fun _ => rfl, fun _ _ => rfl, Enqueued.refl .., fun _ h => .inr h,
        fun _ _ h => h⟩
  exact ⟨⟨h1.obj, h1.params, h1.signals⟩, h1.user,
    congrArg (fun n : NodeState => { n with ksReprogram := s1.ksReprogram ||
      (!c.isRoundRobin && c.refillReady s1.ksCurTime) })
      h1.node, h1.active, h1.refills, h1.queues, h1.action, h1.stays⟩

lemma unblockSporadicAssert_readied : Readied cfg {t} s (s.unblockSporadicAssert cfg (s.tcbSchedContext t)) := by
  unfold unblockSporadicAssert
  split
  · rename_i c hc
    have h1 : Readied cfg {t} s (s.assert (!s.scSporadic (s.tcbSchedContext t) || c != s.ksCurSC)) :=
      s.assert_readied cfg _
    refine h1.trans ?_
    generalize s.assert _ = s1 at h1 ⊢
    have hc1 : s1.tcbSchedContext t = some c := (congrArg (fun o => o.tcbSchedContext t) h1.obj).trans hc
    unfold unblockSporadic
    extract_lets s2
    have h2 : Readied cfg {t} s1 s2 := s1.assertSporadic_readied cfg _
    have hc2 : s2.tcbSchedContext t = some c := (congrArg (fun o => o.tcbSchedContext t) h2.obj).trans hc1
    rw [hc]
    dsimp only
    split
    · exact h2.trans (s2.refillUnblockCheck_readied cfg hc2)
    · exact h2
  · exact .refl s

lemma scheduleTCB_readied : Readied cfg X s (s.scheduleTCB t) := by
  unfold scheduleTCB
  split
  · rename_i h
    refine ⟨⟨rfl, rfl, rfl⟩, rfl, rfl, fun _ => rfl, fun _ _ => rfl, Enqueued.refl .., nofun, fun v hv hc => ?_⟩
    refine hc.imp_right fun hc => ?_
    rw [h.2.1] at hc
    cases hc
  · exact .refl s

lemma possibleSwitchTo_readied : Readied cfg {t} s (s.possibleSwitchTo cfg t) := by
  unfold possibleSwitchTo
  split
  · rename_i h
    split
    · exact s.tcbSchedEnqueue_readied cfg h.2 (.inl rfl)
    · split
      · have h1 : Readied cfg {t} s (s.rescheduleRequired cfg) := s.rescheduleRequired_readied cfg
        exact h1.trans (tcbSchedEnqueue_readied cfg _ (h1.release ▸ h.2) (.inl rfl))
      · rename_i hact
        rw [not_not] at hact
        refine ⟨⟨rfl, rfl, rfl⟩, rfl, rfl, fun _ => rfl, fun _ _ => rfl, Enqueued.refl .., fun v hv => ?_,
          fun v hv hc => ?_⟩
        · injection hv with hv
          exact .inl hv.symm
        · refine hc.imp_right fun hc => ?_
          rw [hact] at hc
          cases hc
  · exact .refl s

/-- A thread that can run is a candidate after it was handed to the scheduler. -/
lemma possibleSwitchTo_candidate (h : s.isSchedulable t = true) : (s.possibleSwitchTo cfg t).Candidate t := by
  unfold Kernel.isSchedulable at h
  simp only [Bool.and_eq_true, Bool.not_eq_true'] at h
  obtain ⟨⟨-, hsc⟩, hr⟩ := h
  have hne : s.tcbSchedContext t ≠ none := by
    intro e
    simp [scTest, e] at hsc
  unfold possibleSwitchTo
  rw [if_pos ⟨hne, hr⟩]
  split
  · exact .inl (s.tcbSchedEnqueue_queued cfg)
  · split
    · exact .inl (tcbSchedEnqueue_queued cfg _)
    · exact .inr rfl

/-- The state that a sender is left in. -/
def cancelledState (t : TcbPtr) : ThreadState :=
  if s.tcbFault t = .nullFault then .restart else .inactive

lemma restartThreadIfNoFault_readied :
    Readied cfg {t} (s.setTsType t (s.cancelledState t)) (s.restartThreadIfNoFault cfg t) := by
  unfold restartThreadIfNoFault cancelledState
  split
  · unfold restartWaiter
    extract_lets s1 s2
    have h1 : Readied cfg {t} (s.setTsType t .restart) s1 := scheduleTCB_readied cfg _
    exact (h1.trans (s1.unblockSporadicAssert_readied cfg)).trans (s2.possibleSwitchTo_readied cfg)
  · exact scheduleTCB_readied cfg _

/-- A sender that can run again is handed to the scheduler. -/
lemma restartThreadIfNoFault_candidate (h : (s.restartThreadIfNoFault cfg t).isSchedulable t = true) :
    (s.restartThreadIfNoFault cfg t).Candidate t := by
  by_cases hf : s.tcbFault t = .nullFault
  · obtain ⟨s2, e⟩ : ∃ s2 : Kernel, s.restartThreadIfNoFault cfg t = s2.possibleSwitchTo cfg t := ⟨_, if_pos hf⟩
    rw [e] at h ⊢
    rw [(s2.possibleSwitchTo_readied cfg).isSchedulable] at h
    exact s2.possibleSwitchTo_candidate cfg h
  · -- a thread with a fault is left inactive
    rw [(s.restartThreadIfNoFault_readied cfg).isSchedulable] at h
    have hts : (s.setTsType t (s.cancelledState t)).tsType t = .inactive := by
      unfold cancelledState
      rw [if_neg hf]
      exact update_self ..
    simp [Kernel.isSchedulable, isRunnable, hts, ThreadState.isRunnable] at h

/-- The states of the threads after the senders `rs` were taken out. -/
def cancelledStates (rs : List TcbPtr) (t : TcbPtr) : ThreadState :=
  if t ∈ rs then s.cancelledState t else s.tsType t

/-- The senders `rs` were taken out of their queue and handed to the scheduler; of the other threads, only the
links may have changed. -/
structure Cancelling (cfg : KernelConfig) (s s' : Kernel) (rs : List TcbPtr) : Prop where
  obj : s'.toObjState = { s.toObjState with
    tsType := s.cancelledStates rs, epLinks := s'.epLinks, epState := s'.epState, epQueue := s'.epQueue }
  params : s'.toThreadParams = s.toThreadParams
  user : s'.toUserContexts = s.toUserContexts
  node : s'.toNodeState =
    { s.toNodeState with ksSchedulerAction := s'.ksSchedulerAction, ksReprogram := s'.ksReprogram }
  signals : s'.signals = s.signals
  active : ∀ c, (s'.schedContext c).scActive = (s.schedContext c).scActive
  refills : ∀ c, (∀ t ∈ rs, s.tcbSchedContext t ≠ some c) → s'.schedContext c = s.schedContext c
  queues : Enqueued cfg {t | t ∈ rs} s s'.toRunQueues
  action : ∀ t, s'.ksSchedulerAction = .switchTo t → t ∈ rs ∨ s.ksSchedulerAction = .switchTo t
  stays : ∀ t, t ∉ rs → s.isSchedulable t = true → s.Candidate t → s'.Candidate t
  ready : ∀ t ∈ rs, s'.isSchedulable t = true → s'.Candidate t

namespace Cancelling

variable {cfg s} {s' s'' : Kernel} {rs : List TcbPtr}

lemma tsType (h : Cancelling cfg s s' rs) : s'.tsType = s.cancelledStates rs :=
  congrArg (fun o => o.tsType) h.obj

lemma release (h : Cancelling cfg s s' rs) : s'.tcbInReleaseQueue = s.tcbInReleaseQueue :=
  h.queues.release

lemma tcbSchedContext (h : Cancelling cfg s s' rs) : s'.tcbSchedContext = s.tcbSchedContext :=
  congrArg (fun o => o.tcbSchedContext) h.obj

lemma scTest_active (h : Cancelling cfg s s' rs) (t : TcbPtr) :
    s'.scTest t SchedContext.scActive = s.scTest t SchedContext.scActive := by
  unfold scTest
  rw [h.tcbSchedContext]
  split
  · exact h.active _
  · rfl

/-- Whether a thread that was not taken out can run. -/
lemma isSchedulable (h : Cancelling cfg s s' rs) (ht : t ∉ rs) : s'.isSchedulable t = s.isSchedulable t := by
  unfold Kernel.isSchedulable isRunnable
  rw [h.tsType, h.scTest_active, h.release]
  unfold cancelledStates
  rw [if_neg ht]

/-- Whether a sender that was taken out can run. -/
lemma isSchedulable_mem (h : Cancelling cfg s s' rs) (ht : t ∈ rs) : s'.isSchedulable t =
    (decide (s.tcbFault t = .nullFault) && s.scTest t SchedContext.scActive && !s.tcbInReleaseQueue t) := by
  unfold Kernel.isSchedulable isRunnable
  rw [h.tsType, h.scTest_active, h.release]
  unfold cancelledStates cancelledState
  rw [if_pos ht]
  by_cases hf : s.tcbFault t = .nullFault
  · simp [hf, ThreadState.isRunnable]
  · simp [hf, ThreadState.isRunnable]

variable (cfg) in
lemma step (h : Cancelling cfg s s' rs) (ht : t ∉ rs) {l : Queue.Links TcbPtr} :
    Cancelling cfg s { s'.restartThreadIfNoFault cfg t with epLinks := l } (rs ++ [t]) := by
  have h' := s'.restartThreadIfNoFault_readied cfg (t := t)
  have hready := s'.restartThreadIfNoFault_candidate cfg (t := t)
  have hfault : s'.cancelledState t = s.cancelledState t := by
    unfold cancelledState
    rw [show s'.tcbFault = s.tcbFault from congrArg (fun o => o.tcbFault) h.obj]
  generalize s'.restartThreadIfNoFault cfg t = s'' at h' hready ⊢
  have hts : update (s.cancelledStates rs) t (s.cancelledState t) = s.cancelledStates (rs ++ [t]) := by
    funext u
    unfold cancelledStates
    by_cases hu : u = t
    · subst hu
      simp
    · rw [update_of_ne hu]
      simp [hu]
  have hne : ∀ u, u ∉ rs ++ [t] → u ∉ rs ∧ u ≠ t := fun u hu => by
    simpa using hu
  have hsched : ∀ u, u ≠ t → (s'.setTsType t (s'.cancelledState t)).isSchedulable u = s'.isSchedulable u := by
    intro u hu
    show ((update s'.tsType t (s'.cancelledState t) u).isRunnable && _ && _) = _
    rw [update_of_ne hu]
    rfl
  have hrs : {u | u ∈ rs} ⊆ {u | u ∈ rs ++ [t]} := fun u hu => List.mem_append_left _ hu
  have ht' : ({t} : Set TcbPtr) ⊆ {u | u ∈ rs ++ [t]} := Set.singleton_subset_iff.mpr (by simp)
  refine ⟨?_, h'.params.trans h.params, h'.user.trans h.user, ?_, h'.signals.trans h.signals,
    fun c => (h'.active c).trans (h.active c), fun c hc => ?_,
    h.queues.trans h'.queues hrs ht' (congrArg (fun p => p.tcbDomain) h.params)
      (congrArg (fun o => o.tcbPriority) h.obj) h.action,
    fun u hu => (h'.action u hu).elim (fun hu => .inl (ht' hu)) fun hu => (h.action u hu).imp_left (hrs ·),
    fun u hu hs hc => ?_, fun u hu hs => ?_⟩
  · show { s''.toObjState with epLinks := l } = { s.toObjState with
      tsType := s.cancelledStates (rs ++ [t]), epLinks := l, epState := s''.epState, epQueue := s''.epQueue }
    rw [h'.obj]
    show { s'.toObjState with tsType := update s'.tsType t (s'.cancelledState t), epLinks := l } = _
    rw [h.tsType, hfault, hts]
    show _ = { s.toObjState with
      tsType := s.cancelledStates (rs ++ [t]), epLinks := l, epState := s'.epState, epQueue := s'.epQueue }
    rw [h.obj]
  · have e := h'.node
    change s''.toNodeState = { s'.toNodeState with
      ksSchedulerAction := s''.ksSchedulerAction, ksReprogram := s''.ksReprogram } at e
    rw [h.node] at e
    exact e
  · refine (h'.refills c fun u hu => ?_).trans (h.refills c fun u hu => hc u (by simp [hu]))
    obtain rfl : u = t := hu
    show s'.tcbSchedContext u ≠ some c
    rw [h.tcbSchedContext]
    exact hc u (by simp)
  · obtain ⟨hu, hut⟩ := hne u hu
    refine h'.stays u ?_ (h.stays u hu hs hc)
    rw [hsched u hut, h.isSchedulable hu]
    exact hs
  · by_cases hut : u = t
    · rw [hut] at hs ⊢
      exact hready hs
    · have hu' : u ∈ rs := by simpa [hut] using hu
      have hs' : s'.isSchedulable u = true := by
        rw [← hsched u hut, ← h'.isSchedulable]
        exact hs
      refine h'.stays u ?_ (h.ready u hu' hs')
      rw [hsched u hut]
      exact hs'

/-- The scheduler may be called afterwards. -/
lemma readied (h : Cancelling cfg s s' rs) (h' : Readied cfg ∅ s' s'') : Cancelling cfg s s'' rs := by
  refine ⟨?_, h'.params.trans h.params, h'.user.trans h.user, ?_, h'.signals.trans h.signals,
    fun c => (h'.active c).trans (h.active c), fun c hc => (h'.refills c (by simp)).trans (h.refills c hc),
    h.queues.trans h'.queues subset_rfl (Set.empty_subset _) (congrArg (fun p => p.tcbDomain) h.params)
      (congrArg (fun o => o.tcbPriority) h.obj) h.action,
    fun u hu => (h'.action u hu).elim (fun hu => absurd hu (Set.notMem_empty u)) (h.action u),
    fun u hu hs hc => ?_, fun u hu hs => ?_⟩
  · rw [h'.obj]
    exact h.obj
  · have e := h'.node
    rw [h.node] at e
    exact e
  · exact h'.stays u ((h.isSchedulable hu).trans hs) (h.stays u hu hs hc)
  · rw [h'.isSchedulable] at hs
    exact h'.stays u hs (h.ready u hu hs)

end Cancelling

/-- The loop of `cancelBadgedSends` has taken the senders `rs` out of the queue of the threads `xs`, and has kept
the threads `ks`. -/
structure BadgedRun (cfg : KernelConfig) (s s' : Kernel) (ep : EpPtr) (xs rs : List TcbPtr) (q : Queue TcbPtr)
    (ks : List TcbPtr) :
    Prop extends Cancelling cfg s s' rs where
  rep : Queue.Rep s'.epLinks q ks
  kept : ∀ t ∈ ks, t ∈ xs
  links : Queue.Same xs s.epLinks s'.epLinks
  epState : s'.epState = update s.epState ep .idle
  epQueue : s'.epQueue = update s.epQueue ep Queue.empty

namespace BadgedRun

variable {cfg s} {s' : Kernel} {ep : EpPtr} {xs rs ys zs : List TcbPtr} {q : Queue TcbPtr} {badge : Word}

variable (cfg) in
/-- One sender is restarted and taken out of the queue. -/
lemma step (h : BadgedRun cfg s s' ep xs rs q (ys ++ t :: zs)) (ht : t ∉ rs) :
    BadgedRun cfg s ((s'.restartThreadIfNoFault cfg t).tcbEPDequeue t q).1 ep xs (rs ++ [t])
      ((s'.restartThreadIfNoFault cfg t).tcbEPDequeue t q).2 (ys ++ zs) := by
  have h1 := h.toCancelling.step cfg ht
    (l := (Queue.unlink (s'.restartThreadIfNoFault cfg t).epLinks q t).1)
  have hobj := (s'.restartThreadIfNoFault_readied cfg (t := t)).obj
  generalize s'.restartThreadIfNoFault cfg t = s'' at h1 hobj ⊢
  have hl : s''.epLinks = s'.epLinks := congrArg (fun o => o.epLinks) hobj
  have rep : Queue.Rep s''.epLinks q (ys ++ t :: zs) := hl ▸ h.rep
  have hsame : Queue.Same xs s'.epLinks (Queue.unlink s''.epLinks q t).1 := by
    intro u hu
    rw [← hl]
    exact Queue.unlink_same rep u fun hm => hu (h.kept u hm)
  refine ⟨h1, rep.unlink, fun u hu => h.kept u ?_, fun u hu => ?_, ?_, ?_⟩
  · simp only [List.mem_append, List.mem_cons] at hu ⊢
    tauto
  · obtain ⟨e1, e2⟩ := h.links u hu
    obtain ⟨e3, e4⟩ := hsame u hu
    exact ⟨e3.trans e1, e4.trans e2⟩
  · exact (congrArg (fun o => o.epState) hobj).trans h.epState
  · exact (congrArg (fun o => o.epQueue) hobj).trans h.epQueue

variable (cfg badge) in
/-- The loop takes out the senders with the badge, and keeps the others in their order. -/
lemma run {fuel} (h : BadgedRun cfg s s' ep xs rs q (ys ++ zs)) (hz : ∀ t ∈ zs, t ∉ rs) (hf : zs.length < fuel) :
    BadgedRun cfg s (cancelEachBadged cfg badge fuel s' q zs.head?).1 ep xs
      (rs ++ zs.filter fun t => s.blockingIPCBadge t = badge)
      (cancelEachBadged cfg badge fuel s' q zs.head?).2
      (ys ++ zs.filter fun t => s.blockingIPCBadge t ≠ badge) := by
  induction zs generalizing s' q ys rs fuel with
  | nil =>
    obtain ⟨fuel, rfl⟩ := Nat.exists_eq_succ_of_ne_zero (Nat.ne_of_gt hf)
    rw [List.filter_nil, List.filter_nil, List.append_nil]
    exact h
  | cons t zs ih =>
    obtain ⟨fuel, rfl⟩ := Nat.exists_eq_succ_of_ne_zero (Nat.ne_of_gt (Nat.zero_lt_of_lt hf))
    have hnext : s'.epLinks.next t = zs.head? := h.rep.links.2
    have hbadge : s'.blockingIPCBadge = s.blockingIPCBadge := congrArg (fun o => o.blockingIPCBadge) h.obj
    have hf' : zs.length < fuel := by simpa using hf
    have htz : t ∉ zs := by
      have := (List.nodup_cons.mp (List.nodup_middle.mp h.rep.nodup)).1
      simp only [List.mem_append, not_or] at this
      exact this.2
    simp only [List.head?_cons, cancelEachBadged]
    rw [hnext, hbadge]
    generalize hs1 : s'.assert (s'.tsType t == .blockedOnSend) = s1
    have h1 : BadgedRun cfg s s1 ep xs rs q (ys ++ t :: zs) := by
      subst hs1
      exact { h with
        toCancelling := h.toCancelling.readied (s'.assert_readied cfg _) }
    by_cases hb : s.blockingIPCBadge t = badge
    · rw [if_pos hb, List.filter_cons_of_pos (by simpa using hb), List.filter_cons_of_neg (by simpa using hb)]
      have h2 := ih (h1.step cfg (hz t (by simp))) (fun u hu => ?_) hf'
      · rwa [List.append_assoc] at h2
      · have hut : u ≠ t := fun e => htz (e ▸ hu)
        simp [hz u (by simp [hu]), hut]
    · rw [if_neg hb, List.filter_cons_of_neg (by simpa using hb), List.filter_cons_of_pos (by simpa using hb)]
      have h2 : BadgedRun cfg s s1 ep xs rs q (ys ++ [t] ++ zs) := by rwa [List.append_assoc]
      have h3 := ih h2 (fun u hu => hz u (by simp [hu])) hf'
      rwa [List.append_assoc] at h3

end BadgedRun

/-- `cancelBadgedSends` has taken the senders `rs` out of the queue of the threads `xs`, in which the threads `ks`
are left. Where the ready queues hold lists of threads, they do so afterwards: senders that were taken out and the thread
that was to run next have come to the front. -/
structure BadgedSends (cfg : KernelConfig) (s s' : Kernel) (ep : EpPtr) (xs rs ks : List TcbPtr) : Prop
    extends Cancelling cfg s s' rs where
  rep : Queue.Rep s'.epLinks (s'.epQueue ep) ks
  state : s'.epState ep = if ks = [] then .idle else .send
  otherEps : ∀ ep', ep' ≠ ep → s'.epState ep' = s.epState ep' ∧ s'.epQueue ep' = s.epQueue ep'
  links : Queue.Same xs s.epLinks s'.epLinks
  schedulable : ∀ t ∈ rs, s'.isSchedulable t =
    (decide (s.tcbFault t = .nullFault) && s.scTest t SchedContext.scActive && !s.tcbInReleaseQueue t)
  readyQueues : ∀ lists, s.Ready lists → ∃ lists', s'.Ready lists' ∧
    (∀ i, ∃ new, lists' i = new ++ lists i ∧ ∀ t ∈ new, (t ∈ rs ∨ s.ksSchedulerAction = .switchTo t) ∧
      readyQueuesIndex cfg (s.tcbDomain t) (s.tcbPriority t) = i) ∧
    ∀ t ∈ rs, s'.isSchedulable t = true → ∃ i, t ∈ lists' i
  others : ∀ t, t ∉ rs → s'.tsType t = s.tsType t ∧ s'.isSchedulable t = s.isSchedulable t

/-- The queue is written back and the scheduler is called. -/
lemma BadgedRun.finish (cfg) {s} {s' : Kernel} {ep : EpPtr} {xs rs ks : List TcbPtr} {q : Queue TcbPtr}
    (h : BadgedRun cfg s s' ep xs rs q ks) : BadgedSends cfg s
      ((if q.head ≠ none then (s'.setEpQueue ep q).setEpState ep .send else s'.setEpQueue ep q).rescheduleRequired cfg)
      ep xs rs ks := by
  generalize hs1 : (if q.head ≠ none then (s'.setEpQueue ep q).setEpState ep .send else s'.setEpQueue ep q) = s1
  have h1 : Cancelling cfg s s1 rs ∧ s1.epLinks = s'.epLinks := by
    subst hs1
    have hobj := h.obj
    split
    · refine ⟨{ h.toCancelling with obj := ?_ }, rfl⟩
      exact congrArg (fun o : ObjState => { o with
        epState := update s'.epState ep .send, epQueue := update s'.epQueue ep q }) hobj
    · refine ⟨{ h.toCancelling with obj := ?_ }, rfl⟩
      exact congrArg (fun o : ObjState => { o with epQueue := update s'.epQueue ep q }) hobj
  have hq : s1.epQueue = update s.epQueue ep q := by
    have e : s1.epQueue = update s'.epQueue ep q := by
      subst hs1
      split <;> rfl
    rw [e, h.epQueue, update_idem]
  have hst : s1.epState = update s.epState ep (if ks = [] then .idle else .send) := by
    have hk : q.head = none ↔ ks = [] := h.rep.head_eq_none
    subst hs1
    by_cases hk' : ks = []
    · rw [if_neg (not_not.mpr (hk.mpr hk')), if_pos hk']
      exact h.epState
    · rw [if_pos (fun e => hk' (hk.mp e)), if_neg hk']
      show update s'.epState ep .send = _
      rw [h.epState, update_idem]
  clear hs1
  have h' : Readied cfg ∅ s1 (s1.rescheduleRequired cfg) := s1.rescheduleRequired_readied cfg
  have h2 := h1.1.readied h'
  have hact : (s1.rescheduleRequired cfg).ksSchedulerAction = .chooseNewThread := rfl
  generalize s1.rescheduleRequired cfg = s2 at h' h2 hact ⊢
  have hl : s2.epLinks = s'.epLinks := (congrArg (fun o => o.epLinks) h'.obj).trans h1.2
  have hq2 : s2.epQueue = update s.epQueue ep q := (congrArg (fun o => o.epQueue) h'.obj).trans hq
  have hst2 : s2.epState = update s.epState ep (if ks = [] then .idle else .send) :=
    (congrArg (fun o => o.epState) h'.obj).trans hst
  refine ⟨h2, ?_, ?_, fun ep' hep => ⟨?_, ?_⟩, ?_, fun t ht => h2.isSchedulable_mem ht, fun lists hlists => ?_,
    fun t ht => ⟨?_, h2.isSchedulable ht⟩⟩
  · rw [hl, hq2, update_self]
    exact h.rep
  · rw [hst2, update_self]
  · rw [hst2, update_of_ne hep]
  · rw [hq2, update_of_ne hep]
  · rw [hl]
    exact h.links
  · obtain ⟨us, e, hus⟩ := h2.queues
    obtain ⟨lists', hready, hnew⟩ :
        ∃ lists', (s.toRunQueues.enqueueAll cfg s.tcbDomain s.tcbPriority us).Ready lists' ∧ _ :=
      hlists.enqueueAll fun t ht => (hus t ht).1
    rw [← e] at hready
    refine ⟨lists', hready, fun i => ?_, fun t ht hs => (hready.queued t).mp ?_⟩
    · obtain ⟨new, hi, hmem⟩ := hnew i
      exact ⟨new, hi, fun t ht => ⟨(hus t (hmem t ht).1).2, (hmem t ht).2⟩⟩
    · refine (h2.ready t ht hs).resolve_right fun e => ?_
      rw [hact] at e
      cases e
  · rw [h2.tsType]
    exact if_neg ht

/-- Only an endpoint with senders is changed; its senders with the badge are taken out and restarted. -/
theorem cancelBadgedSends_effect (cfg : KernelConfig) (s : Kernel) (ep : EpPtr) (badge : Word) (xs : List TcbPtr)
    (rep : Queue.Rep s.epLinks (s.epQueue ep) xs) :
    (s.epState ep ≠ .send → s.cancelBadgedSends cfg ep badge = s) ∧
    (s.epState ep = .send → BadgedSends cfg s (s.cancelBadgedSends cfg ep badge) ep xs
      (xs.filter fun t => s.blockingIPCBadge t = badge) (xs.filter fun t => s.blockingIPCBadge t ≠ badge)) := by
  constructor
  · intro hst
    unfold cancelBadgedSends
    split
    · rfl
    · rfl
    · contradiction
  · intro hst
    unfold cancelBadgedSends
    rw [hst]
    extract_lets q s1 s2 r s3 s4
    have h2 : BadgedRun cfg s s2 ep xs [] q ([] ++ xs) := by
      refine ⟨⟨?_, rfl, rfl, rfl, rfl, fun _ => rfl, fun _ _ => rfl, Enqueued.refl .., fun _ h => .inr h,
        fun _ _ _ h => h, nofun⟩, rep, fun _ h => h, fun _ _ => ⟨rfl, rfl⟩, rfl, rfl⟩
      have hts : s.cancelledStates [] = s.tsType := by
        funext t
        exact if_neg List.not_mem_nil
      rw [hts]
      rfl
    have h3 := h2.run cfg badge (fun _ _ => List.not_mem_nil) (length_lt_walkFuel rep.nodup)
    rw [← rep.head] at h3
    exact h3.finish cfg

/-- The thread 8 waits in the queue of the endpoint 7. -/
def waitingKernel (st : EpState) (ts : ThreadState) : Kernel :=
  { zeroKernel 1 2 3 4 with
    tsType := update (fun _ => .inactive) 8 ts
    blockingObject := update (fun _ => 0) 8 7
    epState := update (fun _ => .idle) 7 st
    epQueue := update (fun _ => Queue.empty) 7 { head := some 8, last := some 8 } }

lemma waitingKernel_rep (st ts) : Queue.Rep (waitingKernel st ts).epLinks ((waitingKernel st ts).epQueue 7) [8] := by
  have e : (waitingKernel st ts).epQueue 7 = { head := some 8, last := some 8 } := by
    simp [waitingKernel]
  rw [e]
  exact ⟨List.nodup_singleton 8, rfl, rfl, rfl, rfl, trivial⟩

/-- A sender with the badge that is cancelled. -/
theorem cancelBadgedSends_effect_sender :
    ((waitingKernel .send .blockedOnSend).cancelBadgedSends qemuConfig 7 0).epState 7 = .idle ∧
      ((waitingKernel .send .blockedOnSend).cancelBadgedSends qemuConfig 7 0).tsType 8 = .restart := by
  have h := (cancelBadgedSends_effect qemuConfig (waitingKernel .send .blockedOnSend) 7 0 [8]
    (waitingKernel_rep _ _)).2 rfl
  refine ⟨h.state, ?_⟩
  rw [h.tsType]
  rfl

/-- An endpoint without senders at which a thread receives does not become idle. -/
theorem cancelBadgedSends_receiver :
    (∀ t, (waitingKernel .recv .blockedOnReceive).tsType t ≠ .blockedOnSend) ∧
      (∀ t, ((waitingKernel .recv .blockedOnReceive).cancelBadgedSends qemuConfig 7 1).tsType t ≠ .blockedOnSend) ∧
      ((waitingKernel .recv .blockedOnReceive).cancelBadgedSends qemuConfig 7 1).epState 7 ≠ .idle := by
  have hts : ∀ t, (waitingKernel .recv .blockedOnReceive).tsType t ≠ .blockedOnSend := by
    intro t
    show update (fun _ => ThreadState.inactive) 8 .blockedOnReceive t ≠ _
    by_cases ht : t = 8
    · rw [ht, update_self]
      exact nofun
    · rw [update_of_ne ht]
      exact nofun
  have e : (waitingKernel .recv .blockedOnReceive).cancelBadgedSends qemuConfig 7 1 =
      waitingKernel .recv .blockedOnReceive := rfl
  rw [e]
  exact ⟨hts, hts, nofun⟩

end Kernel

end NexsKernel.Mcs
