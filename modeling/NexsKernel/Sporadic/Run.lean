import NexsKernel.Sporadic.Control

/-!
# The life of a scheduling context

A run starts with a scheduling context object as `createObject` leaves it, all zero, and then applies the
operations on its refill queue in any order, while `ksCurTime` advances. Besides the scheduling context
the state remembers the budget of the last `SchedControl_ConfigureFlags` that was accepted.

`Legal` is what the callers of an operation promise: time does not run backwards and stays below
`MAX_RELEASE_TIME`, only a configured context is charged, and `commitTime` is given a consumed amount that
`checkBudget` has found to be covered. How much is charged otherwise is arbitrary.
-/

namespace NexsKernel.Refills

open SchedContext

/-- An operation on the refill queue of a scheduling context. -/
inductive Op where
  /-- `ksCurTime` is read from the timer again. -/
  | updateTimestamp (now : Nat)
  /-- `SchedControl_ConfigureFlags`, as decoded from the message. -/
  | configureFlags (core length : Nat) (args : Nat → Nat) (extraCap : Option Cap)
      (thread : Option Bool) (billing : Option Billing)
  | refillBudgetCheck (usage : Nat)
  | refillUnblockCheck
  | commitTime (ksConsumed : Nat)
  | chargeBudget (consumed : Nat)

/-- A scheduling context, the current time and the configured budget. -/
structure State where
  sc : SchedContext
  ksCurTime : Nat
  budget : Option Nat

/-- A scheduling context object after `createObject`. -/
def newSchedContext : SchedContext where
  scPeriod := 0
  scConsumed := 0
  scBadge := 0
  scRefillMax := 0
  scRefillHead := 0
  scRefillTail := 0
  scSporadic := false
  refills := fun _ => { rTime := 0, rAmount := 0 }

/-- The operation on the state; a request that is refused changes nothing. -/
def exec (cfg : TimerConfig) (s : State) : Op → Except Halt State
  | .updateTimestamp now => return { s with ksCurTime := now }
  | .configureFlags core length args extraCap thread billing =>
    match decodeSchedControlConfigureFlags cfg core length args extraCap with
    | .error _ => return s
    | .ok c => do
      let sc ← s.sc.invokeSchedControlConfigureFlags cfg s.ksCurTime thread billing c
      return { s with sc, budget := some c.budget }
  | .refillBudgetCheck usage => do
    let sc ← s.sc.refillBudgetCheck cfg usage
    return { s with sc }
  | .refillUnblockCheck => do
    let sc ← s.sc.refillUnblockCheck cfg s.ksCurTime
    return { s with sc }
  | .commitTime ksConsumed => do
    let sc ← s.sc.commitTime cfg s.ksCurTime ksConsumed
    return { s with sc }
  | .chargeBudget consumed => do
    let sc ← s.sc.chargeBudget cfg consumed
    return { s with sc }

/-- What the callers of an operation promise. -/
def Legal (cfg : Timer) (sizeBits : Nat) (s : State) : Op → Prop
  | .updateTimestamp now => s.ksCurTime ≤ now ∧ now < cfg.maxReleaseTime
  | .configureFlags _ _ _ extraCap _ billing =>
    (∀ target bits, extraCap = some (.schedContext target bits) → bits = sizeBits) ∧
      ∀ b ∈ billing, s.sc.scActive = true ∧ Committable cfg s.ksCurTime s.sc b.ksConsumed ∧
        b.ksConsumed < 2 ^ 64 ∧ b.isCurDomainExpired = false
  | .refillBudgetCheck usage =>
    s.sc.scActive = true ∧ s.sc.isRoundRobin = false ∧ usage < 2 ^ 64
  | .refillUnblockCheck => True
  | .commitTime ksConsumed =>
    s.sc.scActive = true → Committable cfg s.ksCurTime s.sc ksConsumed ∧ ksConsumed < 2 ^ 64
  | .chargeBudget consumed => s.sc.scActive = true ∧ consumed < 2 ^ 64

/-- The states of all runs. -/
inductive Reachable (cfg : Timer) (sizeBits : Nat) : State → Prop
  | init {now} : now < cfg.maxReleaseTime →
      Reachable cfg sizeBits { sc := newSchedContext, ksCurTime := now, budget := none }
  | step {s s' op} : Reachable cfg sizeBits s → Legal cfg sizeBits s op →
      exec cfg.toTimerConfig s op = .ok s' → Reachable cfg sizeBits s'

/-- The invariant of runs: a context is configured exactly when it is active. -/
structure Inv (cfg : Timer) (sizeBits : Nat) (s : State) : Prop where
  now_lt : s.ksCurTime < cfg.maxReleaseTime
  inactive : s.budget = none → s.sc.scActive = false ∧ s.sc.scPeriod = 0
  active : ∀ budget, s.budget = some budget →
    Active cfg (refillAbsoluteMax sizeBits) budget s.ksCurTime s.sc

namespace Inv

variable {cfg : Timer} {sizeBits : Nat} {s : State}

lemma exists_budget (inv : Inv cfg sizeBits s) (ha : s.sc.scActive = true) :
    ∃ budget, s.budget = some budget ∧
      Active cfg (refillAbsoluteMax sizeBits) budget s.ksCurTime s.sc := by
  cases e : s.budget with
  | none =>
    rw [(inv.inactive e).1] at ha
    cases ha
  | some budget => exact ⟨budget, rfl, inv.active budget e⟩

/-- A new queue with the same budget. -/
lemma of_active {sc' budget} (inv : Inv cfg sizeBits s) (hb : s.budget = some budget)
    (a : Active cfg (refillAbsoluteMax sizeBits) budget s.ksCurTime sc') :
    Inv cfg sizeBits { s with sc := sc' } := by
  refine ⟨inv.now_lt, ?_, ?_⟩
  · intro e
    simp only [hb, reduceCtorEq] at e
  · intro budget' e
    simp only [hb, Option.some.injEq] at e
    exact e ▸ a

/-- Every legal operation returns and keeps the invariant. -/
lemma exec (inv : Inv cfg sizeBits s) (hbits : SchedContextBits sizeBits) {op}
    (legal : Legal cfg sizeBits s op) :
    ∃ s', Refills.exec cfg.toTimerConfig s op = .ok s' ∧ Inv cfg sizeBits s' := by
  cases op with
  | updateTimestamp now =>
    obtain ⟨hle, hlt⟩ := legal
    exact ⟨_, rfl, hlt, inv.inactive, fun budget e => (inv.active budget e).mono hle⟩
  | configureFlags core length args extraCap thread billing =>
    unfold Refills.exec
    dsimp only
    split
    · exact ⟨s, rfl, inv⟩
    · rename_i c e
      obtain ⟨target, bits, ecap, hok⟩ := decodeSchedControlConfigureFlags_accepted e
      obtain rfl := legal.1 target bits ecap
      obtain ⟨sc', e', a⟩ := invokeSchedControlConfigureFlags_active thread (hok hbits) hbits
        inv.now_lt (fun ha => (inv.exists_budget ha).imp fun _ h => h.2) legal.2
      refine ⟨{ s with sc := sc', budget := some c.budget }, by rw [e']; rfl, inv.now_lt, nofun, ?_⟩
      intro budget eb
      cases eb
      exact a
  | refillBudgetCheck usage =>
    obtain ⟨ha, hr, hu⟩ := legal
    obtain ⟨budget, hb, a⟩ := inv.exists_budget ha
    rcases a.kind with ⟨h, q, st⟩ | ⟨h, t, r⟩
    · obtain ⟨sc', h', q', e, st', f, -⟩ := st.refillBudgetCheck hu
      exact ⟨_, by simp only [Refills.exec, e]; rfl, inv.of_active hb (a.of_settled f st')⟩
    · rw [r.isRoundRobin] at hr
      cases hr
  | refillUnblockCheck =>
    cases hb : s.budget with
    | none =>
      have hr : s.sc.isRoundRobin = true := by simp [isRoundRobin, (inv.inactive hb).2]
      refine ⟨s, ?_, inv⟩
      simp only [Refills.exec, SchedContext.refillUnblockCheck, hr, if_true]
      rfl
    | some budget =>
      have a := inv.active budget hb
      rcases a.kind with ⟨h, q, st⟩ | ⟨h, t, r⟩
      · obtain ⟨sc', h', q', e, st', f⟩ := st.refillUnblockCheck inv.now_lt
        exact ⟨_, by simp only [Refills.exec, e]; rfl, inv.of_active hb (a.of_settled f st')⟩
      · refine ⟨s, ?_, inv⟩
        simp only [Refills.exec, SchedContext.refillUnblockCheck, r.isRoundRobin, if_true]
        rfl
  | commitTime ksConsumed =>
    cases hb : s.budget with
    | none =>
      refine ⟨s, ?_, inv⟩
      simp only [Refills.exec, SchedContext.commitTime, (inv.inactive hb).1]
      rfl
    | some budget =>
      have a := inv.active budget hb
      obtain ⟨hc, hlt⟩ := legal a.scActive
      obtain ⟨sc', e, a'⟩ := a.commitTime hc hlt
      exact ⟨_, by simp only [Refills.exec, e]; rfl, inv.of_active hb a'⟩
  | chargeBudget consumed =>
    obtain ⟨budget, hb, a⟩ := inv.exists_budget legal.1
    obtain ⟨sc', e, a'⟩ := a.chargeBudget legal.2
    exact ⟨_, by simp only [Refills.exec, e]; rfl, inv.of_active hb a'⟩

end Inv

/-- The invariant holds in every run. -/
lemma reachable_inv {cfg sizeBits s} (hbits : SchedContextBits sizeBits)
    (h : Reachable cfg sizeBits s) : Inv cfg sizeBits s := by
  induction h with
  | init hnow => exact ⟨hnow, fun _ => ⟨rfl, rfl⟩, nofun⟩
  | step _ legal e ih =>
    obtain ⟨s', e', inv⟩ := ih.exec hbits legal
    rw [e] at e'
    cases e'
    exact inv

/-- What the debug checks of `sporadic.c` only sample. -/
structure Sane (cfg : TimerConfig) (sizeBits budget : Nat) (sc : SchedContext) : Prop where
  head_lt : sc.scRefillHead < sc.scRefillMax
  tail_lt : sc.scRefillTail < sc.scRefillMax
  max_le : sc.scRefillMax ≤ refillAbsoluteMax sizeBits
  sum : (sc.queue.map Refill.rAmount).sum = budget
  head_amount : cfg.minBudget ≤ sc.refillHead.rAmount
  pos : sc.isRoundRobin = false → ∀ r ∈ sc.queue, 0 < r.rAmount
  ordered : sc.isRoundRobin = false → sc.queue.IsChain fun a b => a.rTime + a.rAmount ≤ b.rTime
  window : sc.isRoundRobin = false → sc.refillTail.rTime ≤ sc.refillHead.rTime + sc.scPeriod
  size : sc.isRoundRobin = true → sc.refillSize = minRefills

/-- A configured context passes all the checks. -/
lemma Active.sane {cfg sizeBits budget now sc}
    (a : Active cfg (refillAbsoluteMax sizeBits) budget now sc) :
    Sane cfg.toTimerConfig sizeBits budget sc := by
  rcases a.kind with ⟨h, q, s⟩ | ⟨h, t, r⟩
  · have hq : sc.queue = h :: q := s.rep.queue_eq
    obtain ⟨p, t, hp⟩ := (List.eq_nil_or_concat' (h :: q)).resolve_left (by simp)
    have ht : sc.refillTail = t := (hp ▸ s.rep).refillTail_eq
    refine ⟨s.rep.head_lt, s.rep.tail_lt, a.max_le, hq ▸ s.valid.sum, ?_, ?_, ?_, ?_, ?_⟩
    · rw [s.rep.refillHead_eq]
      exact s.sufficient h (by simp)
    · exact fun _ => hq ▸ s.valid.pos
    · exact fun _ => hq ▸ s.valid.ordered
    · intro _
      rw [ht, s.rep.refillHead_eq]
      exact s.valid.window h (by simp) t (by rw [hp]; simp)
    · rw [s.not_isRoundRobin]
      nofun
  · have hq : sc.queue = [h, t] := r.rep.queue_eq
    refine ⟨r.rep.head_lt, r.rep.tail_lt, a.max_le, ?_, ?_, ?_, ?_, ?_, fun _ => r.refillSize_eq⟩
    · rw [hq]
      simpa using r.sum
    · rw [r.rep.refillHead_eq]
      exact r.sufficient
    all_goals
      rw [r.isRoundRobin]
      nofun

/-- Every operation of every run returns, and a configured context is sane after each of them. -/
theorem reachable_sane {cfg : Timer} {sizeBits : Nat} (hbits : SchedContextBits sizeBits) {s : State}
    (h : Reachable cfg sizeBits s) :
    (∀ op, Legal cfg sizeBits s op → ∃ s', exec cfg.toTimerConfig s op = .ok s') ∧
      ∀ budget, s.budget = some budget → Sane cfg.toTimerConfig sizeBits budget s.sc := by
  have inv := reachable_inv hbits h
  refine ⟨fun op legal => ?_, fun budget e => Active.sane (inv.active budget e)⟩
  obtain ⟨s', e, -⟩ := inv.exec hbits legal
  exact ⟨s', e⟩

/-- A budget of 1 ms every 10 ms, with room for six refills. -/
def exampleArgs : Nat → Nat
  | 0 => 1000
  | 1 => 10000
  | 2 => 4
  | _ => 0

/-- A context with a budget of 1000 microseconds in 10000. -/
theorem reachable_sane_qemu :
    ∃ s, Reachable qemuTimer 8 s ∧ s.budget = some 62500 ∧
      Sane qemuTimer.toTimerConfig 8 62500 s.sc := by
  have hbits : SchedContextBits 8 := ⟨by decide, by decide⟩
  have h0 : Reachable qemuTimer 8 { sc := newSchedContext, ksCurTime := 0, budget := none } :=
    .init (by decide)
  have legal : Legal qemuTimer 8 { sc := newSchedContext, ksCurTime := 0, budget := none }
      (.configureFlags 0 5 exampleArgs (some (.schedContext 0 8)) none none) := by
    refine ⟨?_, nofun⟩
    rintro target bits ⟨⟩
    rfl
  have h1 := Reachable.step h0 legal rfl
  exact ⟨_, h1, rfl, (reachable_sane hbits h1).2 62500 rfl⟩

end NexsKernel.Refills
