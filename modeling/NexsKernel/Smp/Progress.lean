import NexsKernel.Smp.Runs

/-!
# A remote call comes to an end

Whatever the cores have done, those that take part in a remote call can go on until it is over. A core that waits for
the lock polls its flag, and one that runs a thread can be interrupted; so the core that has the lock need not wait in
vain for one that waits for the lock.

A core that has not left the barrier of an earlier call leaves it, unless `globalsense` has come back to the value that
the core has loaded. This takes `2^64` calls, and it is excluded here.
-/

namespace NexsKernel.Smp

open Mcs (Word clzl bitWord clzl_spec getLsbD_clearBit)
open Function (update update_self update_of_ne update_apply)

variable {n i j : Nat} {s s' : State} {rem : Word} {joined arr : List Nat}

/-- How many steps a core has to go until it waits at the barrier of this call. -/
def Pc.rank (globalsense : Word) : Pc → Nat
  | setCall _ _ => 84
  | setArg0 _ _ => 83
  | setArg1 _ _ => 82
  | setArg2 _ _ => 81
  | setCores _ => 80
  | send mask => (bits mask).length + 6
  | await _ localsense => if localsense = globalsense then 0 else 19
  | exit | reclaim => 18
  | user => 17
  | pend _ => 16
  | enqueue _ => 15
  | spin _ _ => 14
  | poll _ _ => 13
  | loadCall _ => 12
  | loadArg0 _ _ _ => 11
  | loadArg1 _ _ _ _ => 10
  | loadArg2 _ _ _ _ _ => 9
  | check _ _ _ => 8
  | perform _ _ _ => 7
  | clear _ => 6
  | loadCores _ => 5
  | loadSense _ _ => 4
  | arrive _ _ _ => 3
  | resetCount _ _ => 2
  | advance _ _ => 1
  | kernel | grant => 0

/-- The core has a step that brings it nearer to the barrier. -/
def State.Moves (s : State) (n j : Nat) : Prop :=
  ∃ pc s', CoreStep n j s s' ∧ s'.globalsense = s.globalsense ∧ s'.pc = update s.pc j pc ∧
    pc.rank s.globalsense < (s.pc j).rank s.globalsense

/-- The other cores that wait for `globalsense` to change from what it is now take part in the call that is made. -/
def State.Awake (s : State) (n i : Nat) : Prop :=
  ∀ j < n, j ≠ i → ∀ ret, s.pc j = .await ret s.globalsense → j ∈ s.performed.map Performed.core

lemma moves {pc pc' : Pc} (hpc : s.pc j = pc) (st : CoreStep n j s s') (hg : s'.globalsense = s.globalsense)
    (hs : s'.pc = update s.pc j pc') (hlt : pc'.rank s.globalsense < pc.rank s.globalsense) : s.Moves n j :=
  ⟨pc', s', st, hg, hs, by rwa [hpc]⟩

/-- A core that has come to the barrier goes on, up to the last one. -/
lemma Busy.moves {h : Nat} (b : Busy n s h rem joined arr) (hj : j < n) (hjoined : j ∈ joined)
    (hpc : ∀ ret localsense, s.pc j ≠ .await ret localsense ∧ s.pc j ≠ .advance ret localsense) : s.Moves n j := by
  have hs := b.stage j hj
  cases hp : s.pc j with
  | loadCores ret => exact Smp.moves hp (.loadCores hp) rfl rfl (by simp [Pc.rank])
  | loadSense ret cores => exact Smp.moves hp (.loadSense hp) rfl rfl (by simp [Pc.rank])
  | arrive ret cores localsense =>
    rw [hp] at hs
    obtain ⟨-, -, -, rfl⟩ := hs
    refine Smp.moves hp (.arrive hp) rfl rfl ?_
    split <;> simp [Pc.rank]
  | resetCount ret localsense => exact Smp.moves hp (.resetCount hp) rfl rfl (by simp [Pc.rank])
  | await ret localsense => exact absurd hp (hpc ret localsense).1
  | advance ret localsense => exact absurd hp (hpc ret localsense).2
  | perform | clear =>
    rw [hp] at hs
    exact absurd hjoined ((b.flags j).mp hs).2.2
  | setCall | setArg0 | setArg1 | setArg2 | setCores =>
    rw [hp] at hs
    exact hs.elim
  | send =>
    rw [hp] at hs
    exact absurd hjoined hs.2.2
  | _ =>
    rw [hp] at hs
    exact absurd hjoined hs

/-- A core whose flag is up goes on until it performs the call, while another one has the lock. -/
lemma Busy.moves_called {r0 : Nat} {queue : List Nat} (b : Busy n s i rem joined arr) (hl : LockInv n s r0 queue)
    (hi : i < n) (hr : (s.pc i).InRemote) (hj : j < n) (hji : j ≠ i) (hflag : s.ipi j = true)
    (hold : ∀ ret, s.pc j ≠ .await ret s.globalsense) : s.Moves n j := by
  have hs := b.stage j hj
  have hnot : j ∉ joined := ((b.flags j).mp hflag).2.2
  have hrole : (s.pc j).role ≠ .holding := fun e => hji (hl.holding_unique hj hi e hr.role)
  have hhead : queue.head? ≠ some j := fun e =>
    hji (Option.some.inj (e.symm.trans (hl.head_of_holds hi (.inl hr.role))))
  have hplace := hl.place j hj
  cases hp : s.pc j with
  | user => exact Smp.moves hp (.interrupt hp) rfl rfl (by simp [Pc.rank])
  | pend irqPath => exact Smp.moves hp (.pend hp) rfl rfl (by simp [Pc.rank])
  | enqueue irqPath => exact Smp.moves hp (.enqueue hp) rfl rfl (by simp [Pc.rank])
  | spin irqPath stalled =>
    rw [hp] at hplace
    exact Smp.moves hp (.spin hp fun e => hhead ((hl.watch_granted_iff hplace).mp e)) rfl rfl (by simp [Pc.rank])
  | poll irqPath stalled => exact Smp.moves hp (.poll hp) rfl rfl (by simp [hflag, Pc.rank])
  | loadCall ret => exact Smp.moves hp (.loadCall hp) rfl rfl (by simp [Pc.rank])
  | loadArg0 ret fresh f => exact Smp.moves hp (.loadArg0 hp) rfl rfl (by simp [Pc.rank])
  | loadArg1 ret fresh f arg0 => exact Smp.moves hp (.loadArg1 hp) rfl rfl (by simp [Pc.rank])
  | loadArg2 ret fresh f arg0 arg1 => exact Smp.moves hp (.loadArg2 hp) rfl rfl (by simp [Pc.rank])
  | check ret fresh call => exact Smp.moves hp (.check hp) rfl rfl (by simp [hflag, Pc.rank])
  | perform ret fresh call => exact Smp.moves hp (.perform hp) rfl rfl (by simp [Pc.rank])
  | clear ret => exact Smp.moves hp (.clear hp) rfl rfl (by simp [Pc.rank])
  | await ret localsense =>
    have hne : localsense ≠ s.globalsense := by
      rintro rfl
      exact hold ret hp
    refine Smp.moves hp (.await hp) rfl rfl ?_
    rw [if_neg hne]
    cases ret <;> simp [hne, Pc.rank, Return.resume]
  | exit =>
    have hreq : s.request (s.myreq j) ≠ .pending := fun e => hhead (hl.head_of_holds hj (.inr ⟨hp, e⟩))
    exact Smp.moves hp (.exit hp) rfl rfl (by simp [hreq, Pc.rank])
  | reclaim => exact Smp.moves hp (.reclaim hp) rfl rfl (by simp [Pc.rank])
  | loadCores | loadSense | arrive =>
    rw [hp] at hs
    exact absurd hs.1 hnot
  | resetCount | advance =>
    rw [hp] at hs
    exact absurd (b.arr_sub j hs.1) hnot
  | kernel | setCall | setArg0 | setArg1 | setArg2 | setCores | send | grant =>
    rw [hp] at hrole
    exact absurd rfl hrole

/-- The core that makes the call goes on to the barrier. -/
lemma moves_caller (c : Calls n s) (hi : i < n) (hr : (s.pc i).InRemote)
    (hpc : ∀ ret localsense, s.pc i ≠ .await ret localsense ∧ s.pc i ≠ .advance ret localsense) : s.Moves n i := by
  cases hp : s.pc i with
  | setCall call mask => exact Smp.moves hp (.setCall hp) rfl rfl (by simp [Pc.rank])
  | setArg0 call mask => exact Smp.moves hp (.setArg0 hp) rfl rfl (by simp [Pc.rank])
  | setArg1 call mask => exact Smp.moves hp (.setArg1 hp) rfl rfl (by simp [Pc.rank])
  | setArg2 call mask => exact Smp.moves hp (.setArg2 hp) rfl rfl (by simp [Pc.rank])
  | setCores mask =>
    have hle := bits_length_le mask
    exact Smp.moves hp (.setCores hp) rfl rfl (by simp only [Pc.rank]; omega)
  | send mask =>
    by_cases hm : mask = 0
    · subst hm
      exact Smp.moves hp (.sent hp) rfl rfl (by simp [Pc.rank])
    · obtain ⟨hbit, -⟩ := clzl_spec hm
      have hlen := bits_clear hbit fun k => (getLsbD_clearBit (BitVec.lt_of_getLsbD hbit)).trans (by rw [ne_comm])
      exact Smp.moves hp (.send hp hm) rfl rfl (by simp only [Pc.rank]; omega)
  | loadCores | loadSense | arrive | resetCount =>
    obtain ⟨h, rem, joined, arr, b, hs⟩ := c.busy hi hp id
    refine b.moves hi ?_ hpc
    first | exact hs.1 | exact b.arr_sub i hs.1
  | await ret localsense => exact absurd hp (hpc ret localsense).1
  | advance ret localsense => exact absurd hp (hpc ret localsense).2
  | _ =>
    rw [hp] at hr
    exact hr.elim

/-- When a call is over, the core that has made it returns. -/
lemma Quiet.returns (q : Quiet n s) (hi : i < n) {localsense : Word} (hpc : s.pc i = .await .kernel localsense) :
    ∃ s', Step n s s' ∧ s'.pc i = .kernel := by
  have hr := q.rest i hi
  rw [hpc] at hr
  refine ⟨_, ⟨i, hi, .await hpc⟩, ?_⟩
  rw [if_neg hr.1]
  exact update_self ..

/-- When the last core has come to the barrier, the call is over, and the core that has made it waits no longer. -/
lemma quiet_of_advance (c : Calls n s) (hexcl : ∀ k < n, (s.pc k).role = .holding → k = i) (hi : i < n)
    (hr : (s.pc i).InRemote) (hj : j < n) {ret : Return} {localsense : Word} (hpc : s.pc j = .advance ret localsense) :
    Quiet n ({ s with globalsense := s.globalsense + 1 }.goto j (.await ret localsense)) ∧ ∃ localsense',
      ({ s with globalsense := s.globalsense + 1 }.goto j (.await ret localsense)).pc i =
      .await .kernel localsense' := by
  obtain ⟨h, rem, joined, arr, b, -⟩ := c.busy hj hpc id
  obtain rfl := hexcl h b.lt b.role
  have q := b.advance hexcl hj hpc
  refine ⟨q, ?_⟩
  show ∃ localsense', update s.pc j (.await ret localsense) h = .await .kernel localsense'
  by_cases hhj : h = j
  · subst hhj
    rw [hpc] at hr
    cases hr
    exact ⟨localsense, update_self ..⟩
  · have hs := b.stage h hi
    have hrest : Rest n _ h (update s.pc j (.await ret localsense) h) := q.rest h hi
    rw [update_of_ne hhj] at hrest ⊢
    cases hp : s.pc h with
    | await ret' localsense' =>
      rw [hp] at hr
      cases hr
      exact ⟨localsense', rfl⟩
    | setCall | setArg0 | setArg1 | setArg2 | setCores =>
      rw [hp] at hs
      exact hs.elim
    | send | loadCores | loadSense | arrive | resetCount | advance =>
      rw [hp] at hrest
      exact hrest.elim
    | _ =>
      rw [hp] at hr
      exact hr.elim

/-- Until the core has returned, a core that takes part in the call can go on. -/
lemma exists_moves (h : Reachable n s) (hi : i < n) (hr : (s.pc i).InRemote) (ha : s.Awake n i) :
    (∃ s', Relation.ReflTransGen (Step n) s s' ∧ s'.pc i = .kernel) ∨ ∃ j < n, s.Moves n j := by
  obtain ⟨r0, queue, hl⟩ := h.lockInv
  have c := h.calls.1
  have hexcl : ∀ k < n, (s.pc k).role = .holding → k = i := fun k hk e => hl.holding_unique hk hi e hr.role
  by_cases hlast : ∃ k < n, ∃ ret localsense, s.pc k = .advance ret localsense
  · obtain ⟨k, hk, ret, localsense, hpc⟩ := hlast
    obtain ⟨q, localsense', hw⟩ := quiet_of_advance c hexcl hi hr hk hpc
    obtain ⟨s', st, hret⟩ := q.returns hi hw
    exact .inl ⟨s', (Relation.ReflTransGen.single ⟨k, hk, .advance hpc⟩).tail st, hret⟩
  have hadv : ∀ k < n, ∀ ret localsense, s.pc k ≠ .advance ret localsense := fun k hk ret localsense e =>
    hlast ⟨k, hk, ret, localsense, e⟩
  by_cases hawait : ∃ ret localsense, s.pc i = .await ret localsense
  case neg =>
    exact .inr ⟨i, hi, moves_caller c hi hr fun ret localsense =>
      ⟨fun e => hawait ⟨ret, localsense, e⟩, hadv i hi ret localsense⟩⟩
  obtain ⟨ret, localsense, hpc⟩ := hawait
  rw [hpc] at hr
  cases hr
  rcases c with q | ⟨h, rem, joined, arr, b⟩
  · obtain ⟨s', st, hk⟩ := q.returns hi hpc
    exact .inl ⟨s', .single st, hk⟩
  obtain rfl := hexcl h b.lt b.role
  obtain ⟨rfl, hjoined⟩ : rem = 0 ∧ h ∈ joined := b.start.resolve_left fun e => by cases hpc.symm.trans e.1
  have hh := b.stage h hi
  rw [hpc] at hh
  right
  by_cases hends : ∃ k < n, (s.pc k).isLast = true
  · obtain ⟨k, hk, hl⟩ := hends
    have hs := b.stage k hk
    cases hp : s.pc k with
    | resetCount ret localsense =>
      rw [hp] at hs
      exact ⟨k, hk, b.moves hk (b.arr_sub k hs.1) fun ret localsense => ⟨by simp [hp], hadv k hk ret localsense⟩⟩
    | advance ret localsense => exact absurd hp (hadv k hk ret localsense)
    | _ =>
      rw [hp] at hl
      cases hl
  -- not all have come: one of them, who is not the one that makes the call, is still to come
  obtain ⟨j, ht, hja⟩ : ∃ j, s.Target j ∧ j ∉ arr := by
    by_contra hno
    have hsub : h :: bits s.targets ⊆ arr := by
      refine List.cons_subset.mpr ⟨(hh hjoined).1, fun k hk => ?_⟩
      by_contra hka
      exact hno ⟨k, mem_bits.mp hk, hka⟩
    have hnodup : (h :: bits s.targets).Nodup := List.nodup_cons.mpr ⟨fun e => b.other (mem_bits.mp e), bits_nodup _⟩
    have hle := (hnodup.subperm hsub).length_le
    rw [List.length_cons] at hle
    exact hends (b.ends hle)
  have hj : j < n := b.targets_lt j ht
  have hjh : j ≠ h := fun e => b.other (e ▸ ht)
  have hs := b.stage j hj
  refine ⟨j, hj, ?_⟩
  by_cases hjj : j ∈ joined
  · refine b.moves hj hjj fun ret localsense => ⟨fun e => ?_, hadv j hj ret localsense⟩
    rw [e] at hs
    exact hja (hs hjj).1
  · refine b.moves_called hl hi (by rw [hpc]; rfl) hj hjh ((b.flags j).mpr ⟨ht, by simp, hjj⟩) fun ret e => ?_
    rcases (b.performed j hj).mp (ha j hj hjh ret e) with ⟨-, hmem⟩ | hclear
    · exact hjj hmem
    · rw [e] at hclear
      cases hclear

lemma CoreStep.globalsense (st : CoreStep n j s s') :
    s'.globalsense = s.globalsense ∨ ∃ ret localsense, s.pc j = .advance ret localsense ∧
      s' = { s with globalsense := s.globalsense + 1 }.goto j (.await ret localsense) := by
  cases st with
  | advance hpc => exact .inr ⟨_, _, hpc, rfl⟩
  | remote call mask hpc hmask =>
    left
    split <;> rfl
  | _ => exact .inl rfl

/-- Who has performed a call stays on the list until the next call is made. -/
lemma CoreStep.performed (st : CoreStep n j s s') : s.performed <+: s'.performed ∨ s.pc j = .kernel := by
  cases st with
  | perform hpc => exact .inl (List.prefix_append ..)
  | remote call mask hpc hmask => exact .inr hpc
  | _ => exact .inl List.prefix_rfl

/-- A core waits for the value that `globalsense` has only when it has come to the barrier, or has waited before. -/
lemma CoreStep.pc_eq_await (st : CoreStep n j s s') (hg : s'.globalsense = s.globalsense) {ret : Return}
    (hpc : s'.pc j = .await ret s.globalsense) :
    s.pc j = .await ret s.globalsense ∨ ∃ cores localsense, s.pc j = .arrive ret cores localsense := by
  cases st with
  | @arrive ret' cores localsense hp =>
    replace hpc : update s.pc j _ j = _ := hpc
    rw [update_self] at hpc
    split at hpc
    · cases hpc
    · cases hpc
      exact .inr ⟨_, _, hp⟩
  | @await ret' localsense hp =>
    replace hpc : update s.pc j _ j = _ := hpc
    rw [update_self] at hpc
    split at hpc
    · cases hpc
      exact .inl hp
    · cases ret' <;> cases hpc
  | @advance ret' localsense hp =>
    replace hg : s.globalsense + 1 = s.globalsense := hg
    exact absurd hg (by simp)
  | @check ret' fresh call hp =>
    replace hpc : update s.pc j _ j = _ := hpc
    rw [update_self] at hpc
    split at hpc
    · cases hpc
    · cases ret' <;> cases hpc
  | @lock irqPath stalled hp _ =>
    replace hpc : update s.pc j _ j = _ := hpc
    rw [update_self] at hpc
    cases stalled <;> cases hpc
  | poll hp | exit hp =>
    replace hpc : update s.pc j _ j = _ := hpc
    rw [update_self] at hpc
    split at hpc <;> cases hpc
  | remote call mask hp hmask =>
    split at hpc
    · replace hpc : update s.pc j _ j = _ := hpc
      rw [update_self] at hpc
      cases hpc
    · exact .inl hpc
  | _ =>
    replace hpc : update s.pc j _ j = _ := hpc
    rw [update_self] at hpc
    cases hpc

/-- A core that begins to wait at the barrier has performed the call. -/
lemma Awake.step (h : Reachable n s) (hi : i < n) (hr : (s.pc i).InRemote) (ha : s.Awake n i) (hj : j < n)
    (st : CoreStep n j s s') (hg : s'.globalsense = s.globalsense) : s'.Awake n i := by
  obtain ⟨r0, queue, hl⟩ := h.lockInv
  have hexcl : ∀ k < n, (s.pc k).role = .holding → k = i := fun k hk e => hl.holding_unique hk hi e hr.role
  have hperf : s.performed <+: s'.performed := by
    refine st.performed.resolve_right fun e => ?_
    obtain rfl := hexcl j hj (by rw [e]; rfl)
    rw [e] at hr
    exact hr
  intro k hk hki ret hp
  rw [hg] at hp
  refine (hperf.map Performed.core).subset ?_
  by_cases hkj : k = j
  · subst hkj
    rcases st.pc_eq_await hg hp with e | ⟨cores, localsense, e⟩
    · exact ha k hk hki ret e
    · obtain ⟨h, rem, joined, arr, b, hs⟩ := h.calls.1.busy hk e id
      obtain rfl := hexcl h b.lt b.role
      exact (b.performed k hk).mpr (.inl ⟨hki, hs.1⟩)
  · rw [st.pc_of_ne hkj] at hp
    exact ha k hk hki ret hp

/-- While no other core waits for the value that `globalsense` has, the call can come to an end. -/
lemma remote_can_return (h : Reachable n s) (hi : i < n) (hr : (s.pc i).InRemote) (ha : s.Awake n i) :
    ∃ s', Relation.ReflTransGen (Step n) s s' ∧ s'.pc i = .kernel := by
  induction hm : ∑ j ∈ Finset.range n, (s.pc j).rank s.globalsense using Nat.strong_induction_on generalizing s with
  | _ m ih =>
    rcases exists_moves h hi hr ha with hk | ⟨j, hj, pc, s', st, hg, hpc, hlt⟩
    · exact hk
    have ha' := Awake.step h hi hr ha hj st hg
    have hstep : Step n s s' := ⟨j, hj, st⟩
    have h' : Reachable n s' := h.imp fun _ hrun => hrun.tail hstep
    have hsum : ∑ k ∈ Finset.range n, (s'.pc k).rank s'.globalsense < m := by
      rw [← hm, hpc, hg]
      refine Finset.sum_lt_sum (fun k _ => ?_) ⟨j, Finset.mem_range.mpr hj, ?_⟩
      · rw [update_apply]
        split
        · rename_i e
          rw [e]
          exact hlt.le
        · exact le_rfl
      · rwa [update_self]
    have hr' : s'.pc i = .kernel ∨ (s'.pc i).InRemote := by
      by_cases hji : j = i
      · subst hji
        rcases st.inRemote hr with hr | ⟨-, -, -, rfl⟩
        · exact .inr hr
        · exact .inl (update_self ..)
      · rw [st.pc_of_ne (Ne.symm hji)]
        exact .inr hr
    rcases hr' with hk | hr'
    · exact ⟨s', .single hstep, hk⟩
    · obtain ⟨s'', hrun, hk⟩ := ih _ hsum h' hr' ha' rfl
      exact ⟨s'', hrun.head hstep, hk⟩

lemma CoreStep.of_await (st : CoreStep n j s s') {ret : Return} {localsense : Word}
    (hpc : s.pc j = .await ret localsense) :
    s' = s.goto j (if localsense = s.globalsense then .await ret localsense else ret.resume) := by
  cases st with
  | await hp =>
    cases hp.symm.trans hpc
    rfl
  | remote _ _ hp _ | spin hp _ | lock hp _ | send hp _ => cases hp.symm.trans hpc
  | _ =>
    rename_i hp
    cases hp.symm.trans hpc

/-- No call is made before the core that waits no longer has returned. -/
lemma Quiet.step_await (q : Quiet n s) (h : Reachable n s) (hi : i < n) (hj : j < n) {localsense : Word}
    (hpc : s.pc i = .await .kernel localsense) (hpc' : s'.pc i = .await .kernel localsense) (st : CoreStep n j s s') :
    Quiet n s' := by
  have h' : Reachable n s' := h.imp fun _ hrun => hrun.tail ⟨j, hj, st⟩
  have hne := q.rest i hi
  rw [hpc] at hne
  have hg : s'.globalsense = s.globalsense := by
    refine st.globalsense.resolve_right ?_
    rintro ⟨ret, localsense, hadv, -⟩
    have hr := q.rest j hj
    rw [hadv] at hr
    exact hr
  rcases h'.calls.1 with q' | ⟨k, rem, joined, arr, b⟩
  · exact q'
  · obtain ⟨r0, queue, hl⟩ := h'.lockInv
    obtain rfl := hl.holding_unique hi b.lt (by rw [hpc']; rfl) b.role
    have hs := b.stage i hi
    rw [hpc'] at hs
    rcases b.start with ⟨e, -⟩ | ⟨-, e⟩
    · cases hpc'.symm.trans e
    · exact absurd ((hs e).2.trans hg) hne.1

/-- While the call is made, only cores that take part in it wait for the value that `globalsense` has; when
`globalsense` has changed, the core that has made the call waits no longer. -/
lemma awake_run {call : Call} {mask : Word} (h : Reachable n s) (hi : i < n) (hpc : s.pc i = .kernel)
    (hmask : ∀ j, mask.getLsbD j = true → j < n) (hne : mask &&& ~~~bitWord i ≠ 0)
    (hold : ∀ j < n, ∀ ret, s.pc j ≠ .await ret s.globalsense)
    (run : Relation.ReflTransGen (fun s s' => Step n s s' ∧ s.pc i ≠ .kernel)
      (s.remote i call (mask &&& ~~~bitWord i)) s') :
    s'.pc i = .kernel ∨ s'.Awake n i ∨ Quiet n s' ∧ ∃ localsense, s'.pc i = .await .kernel localsense := by
  induction run with
  | refl =>
    refine .inr (.inl fun j hj hji ret e => ?_)
    replace e : update s.pc i _ j = _ := e
    rw [update_of_ne hji] at e
    exact absurd e (hold j hj ret)
  | tail hrun st ih =>
    rename_i a b
    obtain ⟨ha, -, -, hr⟩ := remote_run h hi hpc hmask hne hrun
    obtain ⟨⟨j, hj, st⟩, hk⟩ := st
    replace hr : (a.pc i).InRemote := hr.resolve_right fun e => hk e.1
    obtain ⟨r0, queue, hl⟩ := ha.lockInv
    have hexcl : ∀ k < n, (a.pc k).role = .holding → k = i := fun k hk e => hl.holding_unique hk hi e hr.role
    have c := ha.calls.1
    rcases ih.resolve_left hk with hawake | ⟨q, localsense, hw⟩
    · rcases st.globalsense with hg | ⟨ret, localsense, hadv, rfl⟩
      · exact .inr (.inl (Awake.step ha hi hr hawake hj st hg))
      · exact .inr (.inr (quiet_of_advance c hexcl hi hr hj hadv))
    · by_cases hji : j = i
      · subst hji
        obtain rfl := st.of_await hw
        have hrest := q.rest j hj
        rw [hw] at hrest
        left
        rw [if_neg hrest.1]
        exact update_self ..
      · have hbi : b.pc i = .await .kernel localsense := (st.pc_of_ne (Ne.symm hji)).trans hw
        exact .inr (.inr ⟨q.step_await ha hi hj hw hbi st, localsense, hbi⟩)

/-- A core that makes a remote call is never stuck: whatever the cores have done since, they can go on such that it
returns. No core may have waited since `globalsense` had the same value before, that is, for `2^64` calls. -/
theorem doRemoteMaskOp_can_return {call : Call} {mask : Word} (h : Reachable n s) (hi : i < n) (hpc : s.pc i = .kernel)
    (hmask : ∀ j, mask.getLsbD j = true → j < n) (hne : mask &&& ~~~bitWord i ≠ 0)
    (hold : ∀ j < n, ∀ ret, s.pc j ≠ .await ret s.globalsense)
    (run : Relation.ReflTransGen (fun s s' => Step n s s' ∧ s.pc i ≠ .kernel)
      (s.remote i call (mask &&& ~~~bitWord i)) s') :
    ∃ s'', Relation.ReflTransGen (Step n) s' s'' ∧ s''.pc i = .kernel := by
  obtain ⟨hs', -, -, hr⟩ := remote_run h hi hpc hmask hne run
  rcases awake_run h hi hpc hmask hne hold run with hk | ha | ⟨q, localsense, hw⟩
  · exact ⟨s', .refl, hk⟩
  · rcases hr with hr | ⟨hk, -⟩
    · exact remote_can_return hs' hi hr ha
    · exact ⟨s', .refl, hk⟩
  · obtain ⟨s'', st, hk⟩ := q.returns hi hw
    exact ⟨s'', .single st, hk⟩

/-- Core 0 has just begun to write a call. -/
theorem doRemoteMaskOp_can_return_two : ∃ s : State, s.pc 0 = .kernel ∧
    ∃ s'', Relation.ReflTransGen (Step 2) (s.remote 0 ⟨.switchFpuOwner, 0, 0, 0⟩ (3 &&& ~~~bitWord 0)) s'' ∧
      s''.pc 0 = .kernel := by
  obtain ⟨s, -, h, hpc, hold, -⟩ := exists_call
  exact ⟨s, hpc, doRemoteMaskOp_can_return h (by decide) hpc (fun _ => lt_two_of_mask) (by decide) hold .refl⟩

end NexsKernel.Smp
