import NexsKernel.Mcs.ParamSteps
import NexsKernel.Mcs.SignalReach

/-!
# The domain schedule

The schedule can be rewritten while it runs, also into end markers. What keeps `nextDomain` inside the array and
out of end markers is that the last entry stays an end marker and that the entry at the start never is one.
-/

namespace NexsKernel.Mcs

open Function (update update_self update_of_ne)

/-- `DSCHED_DOMAIN_SHIFT`. -/
def dschedDomainShift : Nat := 56

/-- `dschedule_make`. -/
def dscheduleMake (domain duration : Nat) : Nat :=
  (domain <<< dschedDomainShift ||| duration) % 2 ^ 64

/-- `dschedule_domain`. -/
def dscheduleDomain (sched : Nat) : Nat :=
  sched >>> dschedDomainShift

/-- `dschedule_duration`. -/
def dscheduleDuration (sched : Nat) : Nat :=
  sched &&& Kernel.dschedMaxDuration

/-- An entry that the kernel can store in a word. -/
def DSchedule.Packed (e : DSchedule) : Prop :=
  dscheduleDomain (dscheduleMake e.domain e.duration) = e.domain ∧
    dscheduleDuration (dscheduleMake e.domain e.duration) = e.duration ∧
    (dscheduleMake e.domain e.duration = 0 ↔ e = endMarker)

lemma packed_of_le {e : DSchedule} (hd : e.domain < 256) (hn : e.duration ≤ Kernel.dschedMaxDuration) : e.Packed := by
  obtain ⟨d, n⟩ := e
  change d < 256 at hd
  change n ≤ 2 ^ 56 - 1 at hn
  have hor : d <<< 56 ||| n = d * 2 ^ 56 + n := by
    rw [Nat.shiftLeft_eq, Nat.mul_comm, Nat.two_pow_add_eq_or_of_lt (by omega)]
  have hmake : dscheduleMake d n = d * 2 ^ 56 + n := by
    unfold dscheduleMake dschedDomainShift
    rw [hor]
    omega
  have hdur : dscheduleDuration (dscheduleMake d n) = n := by
    rw [hmake]
    unfold dscheduleDuration Kernel.dschedMaxDuration
    rw [Nat.and_two_pow_sub_one_eq_mod]
    omega
  refine ⟨?_, hdur, ?_⟩
  · rw [hmake]
    unfold dscheduleDomain dschedDomainShift
    rw [Nat.shiftRight_eq_div_pow]
    show (d * 2 ^ 56 + n) / 2 ^ 56 = d
    omega
  · rw [hmake]
    constructor
    · intro h
      obtain ⟨rfl, rfl⟩ : d = 0 ∧ n = 0 := by omega
      rfl
    · intro h
      cases h
      rfl

namespace SchedParams

variable {cfg : KernelConfig} {p p' : SchedParams}

/-- The entries of the schedule, and where the kernel stands in it. -/
structure ScheduleOk (cfg : KernelConfig) (p : SchedParams) : Prop where
  domain : ∀ i, (p.ksDomSchedule i).domain < cfg.numDomains
  duration : ∀ i, (p.ksDomSchedule i).duration ≤ Kernel.dschedMaxDuration
  marker : ∀ i, (p.ksDomSchedule i).duration = 0 → p.ksDomSchedule i = endMarker
  last : p.ksDomSchedule (cfg.domScheduleLength - 1) = endMarker
  start : p.ksDomSchedule p.ksDomScheduleStart ≠ endMarker
  start_lt : p.ksDomScheduleStart < cfg.domScheduleLength
  idx : p.ksDomScheduleIdx ≤ cfg.domScheduleLength - 2
  curDomain : p.ksCurDomain < cfg.numDomains

/-- The start is not the last entry. -/
lemma ScheduleOk.start_le (h : ScheduleOk cfg p) : p.ksDomScheduleStart ≤ cfg.domScheduleLength - 2 := by
  have hlt := h.start_lt
  have hne : p.ksDomScheduleStart ≠ cfg.domScheduleLength - 1 := by
    intro e
    have hs := h.start
    rw [e, h.last] at hs
    exact hs rfl
  omega

/-- The next entry is a real one, before the last. -/
lemma ScheduleOk.next (h : ScheduleOk cfg p) :
    p.nextDomain.ksDomScheduleIdx ≤ cfg.domScheduleLength - 2 ∧
      p.ksDomSchedule p.nextDomain.ksDomScheduleIdx ≠ endMarker := by
  have hlen := cfg.two_le_domScheduleLength
  have hidx := h.idx
  show (if p.ksDomSchedule (p.ksDomScheduleIdx + 1) = endMarker then p.ksDomScheduleStart
      else p.ksDomScheduleIdx + 1) ≤ _ ∧ p.ksDomSchedule (if p.ksDomSchedule (p.ksDomScheduleIdx + 1) = endMarker then
      p.ksDomScheduleStart else p.ksDomScheduleIdx + 1) ≠ endMarker
  split
  · exact ⟨h.start_le, h.start⟩
  · rename_i hne
    refine ⟨?_, hne⟩
    have : p.ksDomScheduleIdx + 1 ≠ cfg.domScheduleLength - 1 := by
      intro e
      rw [e, h.last] at hne
      exact hne rfl
    omega

lemma ScheduleOk.nextDomain_time (h : ScheduleOk cfg p) : 0 < p.nextDomain.ksDomainTime := by
  by_contra hz
  exact h.next.2 (h.marker _ (Nat.eq_zero_of_not_pos hz))

/-- Each step of a run keeps the domain schedule valid. -/
lemma ScheduleOk.step (h : ScheduleOk cfg p) (hs : Step cfg p p') : ScheduleOk cfg p' := by
  cases hs with
  | priority | mcPriority | domain | create | delete | time =>
    exact ⟨h.domain, h.duration, h.marker, h.last, h.start, h.start_lt, h.idx, h.curDomain⟩
  | @configure index domain duration hi hd hn h0 hstart =>
    have entry : ∀ {Q : DSchedule → Prop}, Q ⟨domain, duration⟩ → (∀ i, Q (p.ksDomSchedule i)) →
        ∀ i, Q (update p.ksDomSchedule index ⟨domain, duration⟩ i) := by
      intro Q hnew hold i
      by_cases e : i = index
      · rw [e, update_self]
        exact hnew
      · rw [update_of_ne e]
        exact hold i
    refine ⟨entry (Q := fun e => e.domain < cfg.numDomains) hd h.domain,
      entry (Q := fun e => e.duration ≤ Kernel.dschedMaxDuration) hn h.duration, ?_, ?_, ?_, h.start_lt, h.idx,
      h.curDomain⟩
    · refine entry (Q := fun e => e.duration = 0 → e = endMarker) (fun hz => ?_) h.marker
      change duration = 0 at hz
      rw [hz, h0 hz]
      rfl
    · show update p.ksDomSchedule index _ (cfg.domScheduleLength - 1) = endMarker
      rw [update_of_ne hi.ne']
      exact h.last
    · show update p.ksDomSchedule index _ p.ksDomScheduleStart ≠ endMarker
      by_cases e : p.ksDomScheduleStart = index
      · rw [e, update_self]
        intro hm
        exact hstart (congrArg DSchedule.duration hm) e.symm
      · rw [update_of_ne e]
        exact h.start
  | setStart hi hm => exact ⟨h.domain, h.duration, h.marker, h.last, hm, hi, le_rfl, h.curDomain⟩
  | nextDomain =>
    exact ⟨h.domain, h.duration, h.marker, h.last, h.start, h.start_lt, h.next.1, h.domain _⟩

lemma ScheduleOk.steps (h : ScheduleOk cfg p) (hs : Steps cfg p p') : ScheduleOk cfg p' := by
  induction hs with
  | refl => exact h
  | tail _ hs ih => exact ih.step hs

end SchedParams

namespace Kernel

open SchedParams

variable {cfg : KernelConfig} {s : Kernel}

lemma configureSchedContext_params (s : Kernel) (t : TcbPtr) (sc : ScPtr) :
    (s.configureSchedContext cfg t sc).schedParams = s.schedParams := by
  simp [configureSchedContext]

/-- The parameters after booting. -/
lemma boot_params {idle root : TcbPtr} {idleSC rootSC : ScPtr} {now : Nat} :
    (Kernel.boot cfg idle root idleSC rootSC now).schedParams =
      { tcbPriority := update (fun _ => 0) root cfg.maxPrio
        tcbMCP := update (fun _ => 0) root cfg.maxPrio
        tcbDomain := update (fun _ => 0) root 0
        tcbExists := fun t => t == root
        ksCurDomain := 0
        ksDomainTime := dschedMaxDuration
        ksDomScheduleIdx := 0
        ksDomScheduleStart := 0
        ksDomSchedule := fun i => if i = 0 then ⟨0, dschedMaxDuration⟩ else ⟨0, 0⟩ } := by
  unfold Kernel.boot createInitialThread createIdleThread
  extract_lets s1 s2 s3
  have h1 : s1.schedParams = (zeroKernel idle root idleSC rootSC).schedParams := configureSchedContext_params ..
  have h2 : s2.schedParams = (zeroKernel idle root idleSC rootSC).schedParams :=
    (configureSchedContext_params ..).trans h1
  have hp : s2.tcbPriority = fun _ => 0 := congrArg SchedParams.tcbPriority h2
  have hm : s2.tcbMCP = fun _ => 0 := congrArg SchedParams.tcbMCP h2
  have hd : s2.tcbDomain = fun _ => 0 := congrArg SchedParams.tcbDomain h2
  have h3 : s3.schedParams = { s2.schedParams with
      tcbPriority := update s2.tcbPriority root cfg.maxPrio
      tcbMCP := update s2.tcbMCP root cfg.maxPrio
      tcbDomain := update s2.tcbDomain root 0 } := rfl
  show s3.schedParams = _
  rw [h3, hp, hm, hd, h2]
  rfl

/-- The schedule after booting has one entry. -/
lemma boot_scheduleOk {idle root : TcbPtr} {idleSC rootSC : ScPtr} {now : Nat} :
    ScheduleOk cfg (Kernel.boot cfg idle root idleSC rootSC now).schedParams := by
  have hpos := cfg.numDomains_pos
  have hlen := cfg.two_le_domScheduleLength
  have hne : (⟨0, dschedMaxDuration⟩ : DSchedule) ≠ endMarker := by decide
  rw [boot_params]
  have entry : ∀ {Q : DSchedule → Prop}, Q ⟨0, dschedMaxDuration⟩ → Q ⟨0, 0⟩ →
      ∀ i : Nat, Q (if i = 0 then ⟨0, dschedMaxDuration⟩ else ⟨0, 0⟩) := by
    intro Q h0 h1 i
    split
    · exact h0
    · exact h1
  refine ⟨entry (Q := fun e => e.domain < cfg.numDomains) hpos hpos,
    entry (Q := fun e => e.duration ≤ dschedMaxDuration) le_rfl (Nat.zero_le _),
    entry (Q := fun e => e.duration = 0 → e = endMarker) (by decide) fun _ => rfl, ?_, hne, ?_, ?_, hpos⟩
  · exact if_neg (by omega)
  · show 0 < cfg.domScheduleLength
    omega
  · exact Nat.zero_le _

/-! ## The domain has time left when the scheduler returns -/

lemma scheduleChooseNewThread_time (h : ScheduleOk cfg s.schedParams) :
    (s.scheduleChooseNewThread cfg).ksDomainTime ≠ 0 := by
  unfold scheduleChooseNewThread
  extract_lets s1
  have h1 : s1.ksDomainTime ≠ 0 := by
    unfold s1
    split
    · exact h.nextDomain_time.ne'
    · assumption
  exact fun e => h1 ((congrArg SchedParams.ksDomainTime (s1.chooseThread_params cfg)).symm.trans e)

lemma scheduleCandidate_time {b t} (h : ScheduleOk cfg s.schedParams) (ht : s.ksDomainTime ≠ 0) :
    (s.scheduleCandidate cfg b t).ksDomainTime ≠ 0 := by
  unfold scheduleCandidate
  extract_lets s1 fastfail s2 s3 s4 s5 s6
  split
  · exact scheduleChooseNewThread_time h
  · split
    · exact scheduleChooseNewThread_time h
    · exact fun e => ht ((congrArg SchedParams.ksDomainTime (s6.switchToThread_params cfg t)).symm.trans e)

/-- An expired domain is left, whatever the scheduler was going to do. -/
lemma checkDomainTime_action (s : Kernel) :
    (s.checkDomainTime cfg).ksSchedulerAction = .chooseNewThread ∨
    (s.checkDomainTime cfg).isCurDomainExpired cfg = false := by
  unfold checkDomainTime
  split
  · exact .inl rfl
  · rename_i h
    exact .inr (by simpa using h)

lemma scheduleThread_time (h : ScheduleOk cfg s.schedParams)
    (ha : s.ksSchedulerAction = .chooseNewThread ∨ s.ksDomainTime ≠ 0) : (s.scheduleThread cfg).ksDomainTime ≠ 0 := by
  unfold scheduleThread
  split
  · rename_i e
    rw [e] at ha
    exact ha.resolve_left (by simp)
  · extract_lets wasRunnable s1
    have h1 : s1.schedParams = s.schedParams := by simp [s1]
    have hok : ScheduleOk cfg s1.schedParams := by rwa [h1]
    split
    · rename_i e
      rw [e] at ha
      have ht : s1.ksDomainTime = s.ksDomainTime := congrArg SchedParams.ksDomainTime h1
      exact scheduleCandidate_time hok (by rw [ht]; exact ha.resolve_left (by simp))
    · exact scheduleChooseNewThread_time hok

/-- `schedule` never returns with an expired domain. -/
lemma schedule_notExpired (h : ScheduleOk cfg s.schedParams) : (s.schedule cfg).isCurDomainExpired cfg = false := by
  by_cases hn : cfg.numDomains > 1
  · unfold schedule
    extract_lets s1 s2 s3 s4 s5
    have h2 : s2.schedParams = s.schedParams := by simp [s2, s1]
    have ha : s2.ksSchedulerAction = .chooseNewThread ∨ s2.ksDomainTime ≠ 0 := by
      refine s1.checkDomainTime_action.imp_right fun he hz => ?_
      have : s2.isCurDomainExpired cfg = true := by simp [isCurDomainExpired, hn, hz]
      rw [this] at he
      cases he
    have h3 : s3.ksDomainTime ≠ 0 := scheduleThread_time (by rwa [h2]) ha
    have h5 : s5.ksDomainTime = s3.ksDomainTime := congrArg SchedParams.ksDomainTime (s4.switchSchedContext_params cfg)
    have hend : (if s5.ksReprogram = true then { s5.setNextInterrupt cfg with ksReprogram := false } else
      s5).ksDomainTime ≠ 0 := by
      split
      · exact fun e => h3 (h5.symm.trans e)
      · exact fun e => h3 (h5.symm.trans e)
    unfold isCurDomainExpired
    rw [beq_false_of_ne hend, Bool.and_false]
  · unfold isCurDomainExpired
    rw [decide_eq_false hn, Bool.false_and]

lemma exitKernel_notExpired (h : ScheduleOk cfg s.schedParams) : (s.exitKernel cfg).isCurDomainExpired cfg = false := by
  have e : (s.exitKernel cfg).ksDomainTime = (s.schedule cfg).ksDomainTime :=
    congrArg SchedParams.ksDomainTime (activateThread_params cfg _)
  have h' := schedule_notExpired h
  unfold isCurDomainExpired at h' ⊢
  rwa [e]

/-- A budget check that succeeds finds time left in the domain. -/
lemma checkBudgetRestart_notExpired (h : (s.checkBudgetRestart cfg).2 = true) :
    (s.checkBudgetRestart cfg).1.isCurDomainExpired cfg = false := by
  have hp : (s.checkBudgetRestart cfg).1.ksDomainTime = s.ksDomainTime :=
    congrArg SchedParams.ksDomainTime (s.checkBudgetRestart_params cfg)
  have hs : s.isCurDomainExpired cfg = false := by
    unfold checkBudgetRestart at h
    extract_lets s1 r s2 at h
    have hr : r.2 = true := by
      split at h <;> exact h
    unfold r checkBudget at hr
    extract_lets s3 at hr
    split at hr
    · have h3 : s3.isCurDomainExpired cfg = false := by simpa using hr
      exact h3
    · cases hr
  unfold isCurDomainExpired at hs ⊢
  rwa [hp]

lemma handleEvent_notExpired {e : Event} (h : ScheduleOk cfg s.schedParams) (he : e.Legal cfg s) :
    (s.handleEvent cfg e).isCurDomainExpired cfg = false := by
  rcases handleEvent_cases he with ⟨s', hs, e⟩ | ⟨s', -, hr, e⟩
  · rw [e]
    exact exitKernel_notExpired (h.steps hs)
  · rw [e]
    exact checkBudgetRestart_notExpired hr

end Kernel

/-! ## Runs -/

/-- The states that accepted invocations of the domain capability, `nextDomain`, `schedule` and time updates
lead to, in any order. -/
inductive DomainReachable (cfg : KernelConfig) : Kernel → Prop
  | boot {idle root : TcbPtr} {idleSC rootSC : ScPtr} {now : Nat} :
      DomainReachable cfg (Kernel.boot cfg idle root idleSC rootSC now)
  | invoke {s s' : Kernel} {inv : DomainInvocation} : DomainReachable cfg s →
      s.decodeDomainInvocation cfg inv = .ok s' → DomainReachable cfg s'
  | nextDomain {s : Kernel} : DomainReachable cfg s → DomainReachable cfg s.nextDomain
  | schedule {s : Kernel} : DomainReachable cfg s → DomainReachable cfg (s.schedule cfg)
  | updateTimestamp {s : Kernel} {now : Nat} : DomainReachable cfg s → DomainReachable cfg (s.updateTimestamp cfg now)

/-- The schedule can be followed, and the next domain has time. -/
structure DomainScheduleSafe (cfg : KernelConfig) (s : Kernel) : Prop where
  packed : ∀ i, (s.ksDomSchedule i).Packed
  last : s.ksDomSchedule (cfg.domScheduleLength - 1) = endMarker
  start : s.ksDomSchedule s.ksDomScheduleStart ≠ endMarker
  idx : s.ksDomScheduleIdx ≤ cfg.domScheduleLength - 2
  /-- The entries that `nextDomain` reads are in the array. -/
  reads : s.ksDomScheduleIdx + 1 < cfg.domScheduleLength ∧ s.nextDomain.ksDomScheduleIdx < cfg.domScheduleLength
  time : 0 < s.nextDomain.ksDomainTime
  domain : s.nextDomain.ksCurDomain < cfg.numDomains
  schedule : (s.schedule cfg).isCurDomainExpired cfg = false

lemma SchedParams.ScheduleOk.safe {cfg : KernelConfig} {s : Kernel} (h : ScheduleOk cfg s.schedParams) :
    DomainScheduleSafe cfg s := by
  have hlen := cfg.two_le_domScheduleLength
  have hidx : s.ksDomScheduleIdx ≤ cfg.domScheduleLength - 2 := h.idx
  have hnext : s.nextDomain.ksDomScheduleIdx ≤ cfg.domScheduleLength - 2 := h.next.1
  refine ⟨fun i => ?_, h.last, h.start, hidx, ⟨by omega, by omega⟩, h.nextDomain_time, (h.step .nextDomain).curDomain,
    Kernel.schedule_notExpired h⟩
  exact packed_of_le ((h.domain i).trans_le cfg.numDomains_le) (h.duration i)

lemma DomainReachable.scheduleOk {cfg : KernelConfig} {s : Kernel} (h : DomainReachable cfg s) :
    SchedParams.ScheduleOk cfg s.schedParams := by
  induction h with
  | boot => exact Kernel.boot_scheduleOk
  | invoke _ e ih => exact ih.steps (Kernel.decodeDomainInvocation_steps e)
  | nextDomain _ ih => exact ih.step .nextDomain
  | schedule _ ih => exact ih.steps Kernel.schedule_steps
  | updateTimestamp _ ih => exact ih.steps Kernel.updateTimestamp_steps

lemma Reachable.scheduleOk {cfg : KernelConfig} {s : Kernel} (h : Reachable cfg s) :
    SchedParams.ScheduleOk cfg s.schedParams ∧ s.isCurDomainExpired cfg = false := by
  induction h with
  | @boot idle root idleSC rootSC now =>
    have hb : SchedParams.ScheduleOk cfg (Kernel.boot cfg idle root idleSC rootSC now).schedParams :=
      Kernel.boot_scheduleOk
    exact ⟨hb.steps Kernel.exitKernel_steps, Kernel.exitKernel_notExpired hb⟩
  | step _ _ he ih => exact ⟨ih.1.steps (Kernel.handleEvent_steps he), Kernel.handleEvent_notExpired ih.1 he⟩

/-- The domain schedule is safe in whatever order it is used, and the kernel never returns with an expired
domain. -/
theorem domainSchedule_safe (cfg : KernelConfig) :
    (∀ s, DomainReachable cfg s → DomainScheduleSafe cfg s) ∧
      ∀ s, Reachable cfg s → DomainScheduleSafe cfg s ∧ s.isCurDomainExpired cfg = false :=
  ⟨fun _ h => h.scheduleOk.safe, fun _ h => ⟨h.scheduleOk.1.safe, h.scheduleOk.2⟩⟩

/-- The kernel for that board with two domains. -/
def twoDomains : KernelConfig :=
  { qemuConfig with
    numDomains := 2
    numDomains_pos := by decide
    numDomains_le := by decide
    domScheduleLength := 4
    two_le_domScheduleLength := by decide }

/-- The initial thread gives the second domain time, and starts the schedule there. -/
def domainSwitch : List Event :=
  [invokeCall 6 (.domain (.scheduleConfigure 1 1 100)), invokeCall 7 (.domain (.scheduleSetStart 1))]

def domainSwitched : Kernel :=
  handleEvents twoDomains domainSwitch ((Kernel.boot twoDomains 1 2 3 4 5).exitKernel twoDomains)

set_option maxRecDepth 20000 in
/-- Both invocations are accepted, and the second domain runs. -/
theorem domainSchedule_safe_twoDomains : DomainScheduleSafe twoDomains domainSwitched ∧
    domainSwitched.ksDomSchedule 1 = ⟨1, 100⟩ ∧ domainSwitched.ksDomScheduleStart = 1 ∧
    domainSwitched.ksCurDomain = 1 := by
  have h : Reachable twoDomains ((Kernel.boot twoDomains 1 2 3 4 5).exitKernel twoDomains) :=
    .boot (by decide) (by decide) (by decide)
  have hlegal : eventsLegal twoDomains domainSwitch ((Kernel.boot twoDomains 1 2 3 4 5).exitKernel twoDomains) :=
    .call (by decide +kernel) nofun (.call (by decide +kernel) nofun trivial)
  exact ⟨((domainSchedule_safe twoDomains).2 _ (h.events hlegal)).1, by decide +kernel, by decide +kernel,
    by decide +kernel⟩

end NexsKernel.Mcs
