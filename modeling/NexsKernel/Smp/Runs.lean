import NexsKernel.Smp.RemoteCall

/-!
# Runs of the cores

What `doRemoteMaskOp` guarantees. When it returns, each core of the mask has performed a call, once, and the flags and
the count are as before. A core reads the call before it looks at its flag: one that has read it when the flag was set
performs the call that is made. In the loop of the lock that is always so, after an interrupt it need not be.
-/

namespace NexsKernel.Smp

open Mcs (Word bitWord getLsbD_clearBit)
open Function (update update_self update_of_ne update_apply)

variable {n i : Nat} {s s' : State}

/-- A core that has read the call after its flag was set has read the call that is made; in the loop of the lock it reads
nothing before. -/
def Fresh (s : State) (i : Nat) : Pc → Prop
  | .loadCall ret => ret.role = .waiting → s.ipi i = true
  | .loadArg0 ret fresh f =>
    (ret.role = .waiting → fresh = true) ∧ (fresh = true → s.ipi i = true ∧ f = s.made.remoteCall)
  | .loadArg1 ret fresh f arg0 =>
    (ret.role = .waiting → fresh = true) ∧
      (fresh = true → s.ipi i = true ∧ f = s.made.remoteCall ∧ arg0 = s.made.arg0)
  | .loadArg2 ret fresh f arg0 arg1 =>
    (ret.role = .waiting → fresh = true) ∧
      (fresh = true → s.ipi i = true ∧ f = s.made.remoteCall ∧ arg0 = s.made.arg0 ∧ arg1 = s.made.arg1)
  | .check ret fresh call =>
    (ret.role = .waiting → fresh = true) ∧ (fresh = true → s.ipi i = true ∧ call = s.made)
  | .perform ret fresh call => (ret.role = .waiting → fresh = true) ∧ (fresh = true → call = s.made)
  | _ => True

structure Freshness (n : Nat) (s : State) : Prop where
  cores : ∀ i < n, Fresh s i (s.pc i)
  performed : ∀ e ∈ s.performed, (e.ret.role = .waiting → e.fresh = true) ∧ (e.fresh = true → e.call = s.made)

lemma Fresh.congr {pc : Pc} (hf : Fresh s i pc) (hipi : s.ipi i = true → s'.ipi i = true) (hmade : s'.made = s.made) :
    Fresh s' i pc := by
  cases pc with
  | loadCall => exact fun e => hipi (hf e)
  | loadArg0 | loadArg1 | loadArg2 | check =>
    exact ⟨hf.1, fun e => ⟨hipi (hf.2 e).1, by rw [hmade]; exact (hf.2 e).2⟩⟩
  | perform => exact ⟨hf.1, fun e => by rw [hmade]; exact hf.2 e⟩
  | _ => trivial

/-- With its flag down a core that has not been told to perform anything has not read a call that is to be performed. -/
lemma Fresh.of_flag {pc : Pc} (hf : Fresh s i pc) (hflag : s.ipi i = false) (hr : Rest n s i pc) : Fresh s' i pc := by
  have hno : ¬ s.ipi i = true := by simp [hflag]
  cases pc with
  | loadCall => exact fun e => absurd (hf e) hno
  | loadArg0 | loadArg1 | loadArg2 | check => exact ⟨hf.1, fun e => absurd (hf.2 e).1 hno⟩
  | perform => exact hr.elim
  | _ => trivial

namespace Freshness

variable {pc : Pc}

lemma goto (f : Freshness n s) (hipi : ∀ j, j ≠ i → s.ipi j = true → s'.ipi j = true) (hmade : s'.made = s.made)
    (hperf : s'.performed = s.performed) (hpc : s'.pc = update s.pc i pc) (hf : Fresh s' i pc) :
    Freshness n s' := by
  refine ⟨?_, fun e he => ?_⟩
  · rw [hpc]
    exact forall_update (P := fun pc j => Fresh s' j pc) hf fun j hj hne => (f.cores j hj).congr (hipi j hne) hmade
  · rw [hperf] at he
    rw [hmade]
    exact f.performed e he

/-- Each step of a core keeps what is known of the calls performed. -/
lemma step (f : Freshness n s) (c : Calls n s) (hi : i < n) (hexcl : ∀ j < n, ∀ k < n, (s.pc j).role = .holding →
    (s.pc k).role = .holding → j = k) (st : CoreStep n i s s') : Freshness n s' := by
  have hf := f.cores i hi
  cases st with
  | poll hpc =>
    refine f.goto (fun _ _ e => e) rfl rfl rfl ?_
    split
    · rename_i e
      exact fun _ => e
    · trivial
  | loadCall hpc =>
    rw [hpc] at hf
    exact f.goto (fun _ _ e => e) rfl rfl rfl ⟨hf, fun e => ⟨e, congrArg Call.remoteCall (c.call_eq e)⟩⟩
  | loadArg0 hpc =>
    rw [hpc] at hf
    refine f.goto (fun _ _ e => e) rfl rfl rfl ⟨hf.1, fun e => ?_⟩
    obtain ⟨hflag, h1⟩ := hf.2 e
    exact ⟨hflag, h1, congrArg Call.arg0 (c.call_eq hflag)⟩
  | loadArg1 hpc =>
    rw [hpc] at hf
    refine f.goto (fun _ _ e => e) rfl rfl rfl ⟨hf.1, fun e => ?_⟩
    obtain ⟨hflag, h1, h2⟩ := hf.2 e
    exact ⟨hflag, h1, h2, congrArg Call.arg1 (c.call_eq hflag)⟩
  | loadArg2 hpc =>
    rw [hpc] at hf
    refine f.goto (fun _ _ e => e) rfl rfl rfl ⟨hf.1, fun e => ?_⟩
    obtain ⟨hflag, rfl, rfl, rfl⟩ := hf.2 e
    exact ⟨hflag, by rw [c.call_eq hflag]; rfl⟩
  | @check ret fresh call hpc =>
    rw [hpc] at hf
    refine f.goto (fun _ _ e => e) rfl rfl rfl ?_
    split
    · exact ⟨hf.1, fun e => (hf.2 e).2⟩
    · cases ret <;> trivial
  | perform hpc =>
    rw [hpc] at hf
    refine ⟨forall_update (P := fun pc j => Fresh _ j pc) trivial fun j hj _ => (f.cores j hj).congr id rfl, ?_⟩
    intro e he
    rcases List.mem_append.mp he with he | he
    · exact f.performed e he
    · rw [List.mem_singleton.mp he]
      exact hf
  | clear hpc => exact f.goto (fun j hj e => (update_of_ne hj ..).trans e) rfl rfl rfl trivial
  | arrive hpc =>
    refine f.goto (fun _ _ e => e) rfl rfl rfl ?_
    split <;> trivial
  | @await ret localsense hpc =>
    refine f.goto (fun _ _ e => e) rfl rfl rfl ?_
    split
    · trivial
    · cases ret <;> trivial
  | remote call mask hpc hmask =>
    have hx : ∀ j < n, (s.pc j).role = .holding → j = i := fun j hj e => hexcl j hj i hi e (by rw [hpc]; rfl)
    obtain ⟨q, -⟩ := c.quiet hi hx hpc id nofun
    split
    · refine ⟨forall_update (P := fun pc j => Fresh _ j pc) trivial fun j hj _ => ?_, fun e he => ?_⟩
      · exact (f.cores j hj).of_flag (q.flags j) (q.rest j hj)
      · cases he
    · exact f
  | @send mask hpc hm =>
    refine f.goto (fun j _ e => ?_) rfl rfl rfl trivial
    show update s.ipi _ true j = true
    rw [update_apply]
    split
    · rfl
    · exact e
  | @lock irqPath stalled hpc hg =>
    refine f.goto (fun _ _ e => e) rfl rfl rfl ?_
    cases stalled <;> trivial
  | exit hpc =>
    refine f.goto (fun _ _ e => e) rfl rfl rfl ?_
    split <;> trivial
  | interrupt hpc | preempted hpc => exact f.goto (fun _ _ e => e) rfl rfl rfl nofun
  | spin hpc _ => exact f.goto (fun _ _ e => e) rfl rfl rfl trivial
  | _ =>
    rename_i hpc
    exact f.goto (fun _ _ e => e) rfl rfl rfl trivial

lemma init (s : State) : Freshness n (s.init n) :=
  ⟨fun _ _ => trivial, fun _ he => nomatch he⟩

end Freshness

/-! ## All runs -/

lemma LockInv.holding_unique {r0 : Nat} {queue : List Nat} (h : LockInv n s r0 queue) {j k : Nat}
    (hj : j < n) (hk : k < n) (hhj : (s.pc j).role = .holding) (hhk : (s.pc k).role = .holding) : j = k :=
  Option.some.inj ((h.head_of_holds hj (.inl hhj)).symm.trans (h.head_of_holds hk (.inl hhk)))

lemma Reachable.calls (h : Reachable n s) : Calls n s ∧ Freshness n s := by
  obtain ⟨s0, h⟩ := h
  induction h with
  | refl => exact ⟨Calls.init s0, Freshness.init s0⟩
  | tail hrun st ih =>
    obtain ⟨i, hi, st⟩ := st
    obtain ⟨c, f⟩ := ih
    obtain ⟨r0, queue, hl⟩ := Reachable.lockInv ⟨s0, hrun⟩
    have hexcl := fun j hj k hk => hl.holding_unique (j := j) (k := k) hj hk
    exact ⟨c.step hi hexcl st, f.step c hi hexcl st⟩

/-- A core that has begun `doRemoteMaskOp` and has not returned from it. -/
def Pc.InRemote : Pc → Prop
  | setCall _ _ | setArg0 _ _ | setArg1 _ _ | setArg2 _ _ | setCores _ | send _ => True
  | loadCores ret | loadSense ret _ | arrive ret _ _ | resetCount ret _ | advance ret _ | await ret _ => ret = .kernel
  | _ => False

lemma Pc.InRemote.role {pc : Pc} (h : pc.InRemote) : pc.role = .holding := by
  cases pc <;> first | rfl | (cases h; rfl) | exact h.elim

lemma CoreStep.pc_of_ne {j : Nat} (st : CoreStep n j s s') (hne : i ≠ j) : s'.pc i = s.pc i := by
  cases st with
  | remote call mask hpc hmask =>
    split
    · exact update_of_ne hne ..
    · rfl
  | _ => exact update_of_ne hne ..

/-- Only a core that has the lock makes a remote call. -/
lemma CoreStep.made (st : CoreStep n i s s') : s'.made = s.made ∧ s'.targets = s.targets ∨ s.pc i = .kernel := by
  cases st with
  | remote call mask hpc hmask => exact .inr hpc
  | _ => exact .inl ⟨rfl, rfl⟩

/-- A core in `doRemoteMaskOp` goes on with it or returns. -/
lemma CoreStep.inRemote (st : CoreStep n i s s') (hr : (s.pc i).InRemote) :
    (s'.pc i).InRemote ∨ ∃ localsense, s.pc i = .await .kernel localsense ∧ localsense ≠ s.globalsense ∧
      s' = s.goto i .kernel := by
  cases st with
  | setCall hpc | setArg0 hpc | setArg1 hpc | setArg2 hpc | setCores hpc | send hpc _ =>
    refine .inl ?_
    show (update s.pc i _ i).InRemote
    rw [update_self]
    trivial
  | sent hpc | loadCores hpc | loadSense hpc | resetCount hpc | advance hpc =>
    rw [hpc] at hr
    refine .inl ?_
    show (update s.pc i _ i).InRemote
    rw [update_self]
    first | exact hr | rfl
  | @arrive ret cores localsense hpc =>
    rw [hpc] at hr
    refine .inl ?_
    show (update s.pc i _ i).InRemote
    rw [update_self]
    split <;> exact hr
  | @await ret localsense hpc =>
    rw [hpc] at hr
    cases hr
    split
    · refine .inl ?_
      show (update s.pc i _ i).InRemote
      rw [update_self]
      rfl
    · rename_i hne
      exact .inr ⟨localsense, hpc, hne, rfl⟩
  | spin hpc _ | lock hpc _ | remote _ _ hpc _ =>
    rw [hpc] at hr
    exact hr.elim
  | _ =>
    rename_i hpc
    rw [hpc] at hr
    exact hr.elim

/-- The state in which `doRemoteMaskOp` begins to write the call. -/
def State.remote (s : State) (i : Nat) (call : Call) (mask : Word) : State :=
  { s with made := call, targets := mask, performed := [] }.goto i (.setCall call mask)

/-- Until the core has returned from `doRemoteMaskOp`, what it has made stays. -/
lemma remote_run {call : Call} {mask : Word} (h : Reachable n s) (hi : i < n) (hpc : s.pc i = .kernel)
    (hmask : ∀ j, mask.getLsbD j = true → j < n) (hne : mask &&& ~~~bitWord i ≠ 0)
    (run : Relation.ReflTransGen (fun s s' => Step n s s' ∧ s.pc i ≠ .kernel)
      (s.remote i call (mask &&& ~~~bitWord i)) s') :
    Reachable n s' ∧ s'.made = call ∧ s'.targets = mask &&& ~~~bitWord i ∧
      ((s'.pc i).InRemote ∨ s'.pc i = .kernel ∧ s'.Complete ∧ Quiet n s') := by
  induction run with
  | refl =>
    have st := CoreStep.remote call mask hpc hmask
    rw [if_pos hne] at st
    obtain ⟨s0, h⟩ := h
    refine ⟨⟨s0, h.tail ⟨i, hi, st⟩⟩, rfl, rfl, .inl ?_⟩
    show (update s.pc i _ i).InRemote
    rw [update_self]
    trivial
  | tail hrun st ih =>
    rename_i a b
    obtain ⟨⟨j, hj, st⟩, hk⟩ := st
    obtain ⟨ha, hmade, htargets, hr⟩ := ih
    replace hr : (a.pc i).InRemote := hr.resolve_right fun e => hk e.1
    obtain ⟨r0, queue, hl⟩ := ha.lockInv
    have hcalls := ha.calls.1
    obtain ⟨s0, ha⟩ := ha
    have hb : Reachable n b := ⟨s0, ha.tail ⟨j, hj, st⟩⟩
    -- the core has the lock, and thus no other core makes a call
    have hsame : b.made = a.made ∧ b.targets = a.targets := by
      refine st.made.resolve_right fun e => ?_
      have hji : j = i := hl.holding_unique hj hi (by rw [e]; rfl) hr.role
      exact hk (hji ▸ e)
    refine ⟨hb, hsame.1.trans hmade, hsame.2.trans htargets, ?_⟩
    by_cases hji : j = i
    · subst hji
      refine (st.inRemote hr).imp_right ?_
      rintro ⟨localsense, hpc, hne, rfl⟩
      rcases hcalls with q | ⟨h, rem, joined, arr, b⟩
      · have hrest := q.rest j hj
        rw [hpc] at hrest
        exact ⟨update_self .., hrest.2, q.resume .kernel⟩
      · have hs := b.stage j hj
        rw [hpc] at hs
        have hjh := hl.holding_unique hj b.lt hr.role b.role
        subst hjh
        rcases b.start with ⟨e, -⟩ | ⟨-, e⟩
        · cases hpc.symm.trans e
        · exact absurd (hs e).2 hne
    · rw [st.pc_of_ne (Ne.symm hji)]
      exact .inl hr

/-- The core takes itself out of the mask. -/
lemma getLsbD_others {mask : Word} {j : Nat} :
    (mask &&& ~~~bitWord i).getLsbD j = true ↔ mask.getLsbD j = true ∧ j ≠ i := by
  by_cases hi : i < 64
  · rw [getLsbD_clearBit hi, ne_comm]
  · have hmask : mask &&& ~~~bitWord i = mask := by
      unfold bitWord
      rw [BitVec.shiftLeft_eq_zero (Nat.le_of_not_lt hi)]
      exact BitVec.and_allOnes
    rw [hmask]
    refine ⟨fun h => ⟨h, ?_⟩, And.left⟩
    rintro rfl
    exact hi (BitVec.lt_of_getLsbD h)

/-- A core that makes a remote call has the lock from then on until it returns, whatever the other cores do. When it
returns, each core of the mask but itself, and no other one, has performed a call, once; those that have waited for the
lock, or have read the call after their flag was set, have performed this one. All flags are down, and the count is
zero. -/
theorem doRemoteMaskOp_returns {call : Call} {mask : Word} (h : Reachable n s) (hi : i < n) (hpc : s.pc i = .kernel)
    (hmask : ∀ j, mask.getLsbD j = true → j < n) (hne : mask &&& ~~~bitWord i ≠ 0)
    (run : Relation.ReflTransGen (fun s s' => Step n s s' ∧ s.pc i ≠ .kernel)
      (s.remote i call (mask &&& ~~~bitWord i)) s') :
    s'.Holds i ∧ (s'.pc i = .kernel → (s'.performed.map Performed.core).Nodup ∧
      (∀ j, j ∈ s'.performed.map Performed.core ↔ mask.getLsbD j = true ∧ j ≠ i) ∧
      (∀ e ∈ s'.performed, e.ret.role = .waiting ∨ e.fresh = true → e.call = call) ∧
      (∀ j, s'.ipi j = false) ∧ s'.count = 0) := by
  obtain ⟨hs', hmade, htargets, hr⟩ := remote_run h hi hpc hmask hne run
  refine ⟨?_, fun hk => ?_⟩
  · rcases hr with hr | ⟨e, -⟩
    · exact .inl hr.role
    · exact .inl (by rw [e]; rfl)
  · have hr := hr.resolve_left fun hr => by rw [hk] at hr; exact hr
    obtain ⟨-, ⟨hnodup, hall⟩, q⟩ := hr
    have f := hs'.calls.2
    refine ⟨hnodup, fun j => ?_, fun e he hfresh => ?_, q.flags, q.count⟩
    · rw [hall, State.Target, htargets, getLsbD_others]
    · obtain ⟨hw, hf⟩ := f.performed e he
      rw [← hmade]
      exact hf (hfresh.elim hw id)

lemma lt_two_of_mask {j : Nat} (h : (3 : Word).getLsbD j = true) : j < 2 := by
  by_contra hge
  have hlt : 3 < 2 ^ j := lt_of_lt_of_le (by decide : 3 < 2 ^ 2)
    (Nat.pow_le_pow_right (by decide) (Nat.le_of_not_lt hge))
  exact absurd ((Nat.testBit_lt_two_pow hlt).symm.trans h) (by decide)

/-- Core 0 makes a call, for which core 1 is interrupted. -/
lemma exists_call : ∃ s s' : State, Reachable 2 s ∧ s.pc 0 = .kernel ∧
    (∀ j < 2, ∀ ret, s.pc j ≠ .await ret s.globalsense) ∧
    Relation.ReflTransGen (fun s s' => Step 2 s s' ∧ s.pc 0 ≠ .kernel)
      (s.remote 0 ⟨.switchFpuOwner, 0, 0, 0⟩ (3 &&& ~~~bitWord 0)) s' ∧ s'.pc 0 = .kernel := by
  have h : Reachable 2 (State.zero.init 2) := ⟨State.zero, .refl⟩
  have h := h.step (i := 0) (by decide) (.enter false rfl)
  have h := h.step (i := 0) (by decide) (.pend rfl)
  have h := h.step (i := 0) (by decide) (.enqueue rfl)
  have h := h.step (i := 0) (by decide) (.lock rfl rfl)
  refine ⟨_, _, h, rfl, ?_,
    .head ⟨⟨0, by decide, .setCall rfl⟩, nofun⟩ <|
    .head ⟨⟨0, by decide, .setArg0 rfl⟩, nofun⟩ <|
    .head ⟨⟨0, by decide, .setArg1 rfl⟩, nofun⟩ <|
    .head ⟨⟨0, by decide, .setArg2 rfl⟩, nofun⟩ <|
    .head ⟨⟨0, by decide, .setCores rfl⟩, nofun⟩ <|
    .head ⟨⟨0, by decide, .send rfl (by decide)⟩, nofun⟩ <|
    .head ⟨⟨0, by decide, .sent rfl⟩, nofun⟩ <|
    .head ⟨⟨0, by decide, .loadCores rfl⟩, nofun⟩ <|
    .head ⟨⟨0, by decide, .loadSense rfl⟩, nofun⟩ <|
    .head ⟨⟨0, by decide, .arrive rfl⟩, nofun⟩ <|
    .head ⟨⟨1, by decide, .interrupt rfl⟩, nofun⟩ <|
    .head ⟨⟨1, by decide, .loadCall rfl⟩, nofun⟩ <|
    .head ⟨⟨1, by decide, .loadArg0 rfl⟩, nofun⟩ <|
    .head ⟨⟨1, by decide, .loadArg1 rfl⟩, nofun⟩ <|
    .head ⟨⟨1, by decide, .loadArg2 rfl⟩, nofun⟩ <|
    .head ⟨⟨1, by decide, .check rfl⟩, nofun⟩ <|
    .head ⟨⟨1, by decide, .perform rfl⟩, nofun⟩ <|
    .head ⟨⟨1, by decide, .clear rfl⟩, nofun⟩ <|
    .head ⟨⟨1, by decide, .loadCores rfl⟩, nofun⟩ <|
    .head ⟨⟨1, by decide, .loadSense rfl⟩, nofun⟩ <|
    .head ⟨⟨1, by decide, .arrive rfl⟩, nofun⟩ <|
    .head ⟨⟨1, by decide, .resetCount rfl⟩, nofun⟩ <|
    .head ⟨⟨1, by decide, .advance rfl⟩, nofun⟩ <|
    .head ⟨⟨0, by decide, .await rfl⟩, nofun⟩ <|
    .refl, rfl⟩
  intro j hj
  interval_cases j <;> nofun

/-- Core 0 makes a call. -/
theorem doRemoteMaskOp_returns_two : ∃ s s' : State, s.pc 0 = .kernel ∧ s'.pc 0 = .kernel ∧
    s'.Holds 0 ∧ (s'.pc 0 = .kernel → (s'.performed.map Performed.core).Nodup ∧
      (∀ j, j ∈ s'.performed.map Performed.core ↔ (3 : Word).getLsbD j = true ∧ j ≠ 0) ∧
      (∀ e ∈ s'.performed, e.ret.role = .waiting ∨ e.fresh = true → e.call = ⟨.switchFpuOwner, 0, 0, 0⟩) ∧
      (∀ j, s'.ipi j = false) ∧ s'.count = 0) := by
  obtain ⟨s, s', h, hpc, -, run, hk⟩ := exists_call
  exact ⟨s, s', hpc, hk, doRemoteMaskOp_returns h (by decide) hpc (fun _ => lt_two_of_mask) (by decide) run⟩

end NexsKernel.Smp
