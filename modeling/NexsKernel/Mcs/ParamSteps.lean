import NexsKernel.Mcs.Params

/-!
# How the parameters change

`SchedParams.Step` is all that the kernel does to the parameters, and `Steps` any number of such steps. Every
kernel entry is one (`handleEvent_steps`), so that what a step keeps holds in every run.
-/

namespace NexsKernel.Mcs

open Function (update)

/-- `dschedule_is_end_marker` of an entry. -/
def endMarker : DSchedule := ⟨0, 0⟩

namespace SchedParams

/-- `nextDomain`. -/
def nextDomain (p : SchedParams) : SchedParams :=
  let idx := p.ksDomScheduleIdx + 1
  let idx := if p.ksDomSchedule idx = endMarker then p.ksDomScheduleStart else idx
  { p with
    ksDomScheduleIdx := idx
    ksCurDomain := (p.ksDomSchedule idx).domain
    ksDomainTime := (p.ksDomSchedule idx).duration }

/-- A store to `tcbPriority`. -/
def setPriority (p : SchedParams) (t : TcbPtr) (prio : Nat) : SchedParams :=
  { p with tcbPriority := update p.tcbPriority t prio }

/-- A store to `tcbMCP`. -/
def setMCPriority (p : SchedParams) (t : TcbPtr) (mcp : Nat) : SchedParams :=
  { p with tcbMCP := update p.tcbMCP t mcp }

/-- One step: a priority is set on the authority of a thread, a domain is set, a thread is created or deleted,
the domain schedule is configured, or time passes. -/
inductive Step (cfg : KernelConfig) (p : SchedParams) : SchedParams → Prop where
  | priority {t auth prio} : p.tcbExists auth = true → prio ≤ p.tcbMCP auth →
      Step cfg p (p.setPriority t prio)
  | mcPriority {t auth mcp} : p.tcbExists auth = true → mcp ≤ p.tcbMCP auth →
      Step cfg p (p.setMCPriority t mcp)
  | domain {t dom} : dom < cfg.numDomains →
      Step cfg p { p with tcbDomain := update p.tcbDomain t dom }
  | create {t} : Step cfg p { p with
      tcbPriority := update p.tcbPriority t 0
      tcbMCP := update p.tcbMCP t 0
      tcbDomain := update p.tcbDomain t p.ksCurDomain
      tcbExists := update p.tcbExists t true }
  | delete {t} : Step cfg p { p with tcbExists := update p.tcbExists t false }
  | configure {index domain duration} : index < cfg.domScheduleLength - 1 → domain < cfg.numDomains →
      duration ≤ Kernel.dschedMaxDuration → (duration = 0 → domain = 0) →
      (duration = 0 → index ≠ p.ksDomScheduleStart) →
      Step cfg p { p with ksDomSchedule := update p.ksDomSchedule index ⟨domain, duration⟩ }
  | setStart {index} : index < cfg.domScheduleLength → p.ksDomSchedule index ≠ endMarker →
      Step cfg p { p with
        ksDomScheduleStart := index
        ksDomainTime := 0
        ksDomScheduleIdx := cfg.domScheduleLength - 2 }
  | time {n} : Step cfg p { p with ksDomainTime := n }
  | nextDomain : Step cfg p p.nextDomain

/-- Any number of steps. -/
abbrev Steps (cfg : KernelConfig) : SchedParams → SchedParams → Prop :=
  Relation.ReflTransGen (Step cfg)

end SchedParams

namespace Kernel

open SchedParams Relation

variable {cfg : KernelConfig} {s s' : Kernel}

/-- What a function of the kernel does to the parameters. -/
abbrev Steps (cfg : KernelConfig) (s s' : Kernel) : Prop :=
  SchedParams.Steps cfg s.schedParams s'.schedParams

lemma steps_of_eq (h : s'.schedParams = s.schedParams) : Steps cfg s s' := by
  unfold Steps
  rw [h]

/-! ## The scheduler -/

lemma updateTimestamp_steps {now} : Steps cfg s (s.updateTimestamp cfg now) :=
  .single .time

lemma scheduleChooseNewThread_steps : Steps cfg s (s.scheduleChooseNewThread cfg) := by
  unfold scheduleChooseNewThread Steps
  rw [chooseThread_params]
  split
  · exact .single .nextDomain
  · exact .refl

lemma scheduleCandidate_steps {b t} : Steps cfg s (s.scheduleCandidate cfg b t) := by
  unfold scheduleCandidate
  extract_lets s1 fastfail s2 s3 s4 s5 s6
  split
  · have h : Steps cfg s s3 := steps_of_eq rfl
    exact h.trans scheduleChooseNewThread_steps
  · split
    · have h : Steps cfg s s5 := steps_of_eq rfl
      exact h.trans scheduleChooseNewThread_steps
    · have h : Steps cfg s s6 := steps_of_eq rfl
      exact h.trans (steps_of_eq (s6.switchToThread_params cfg t))

lemma scheduleThread_steps : Steps cfg s (s.scheduleThread cfg) := by
  unfold scheduleThread
  split
  · exact .refl
  · extract_lets wasRunnable s1
    have h : Steps cfg s s1 := steps_of_eq (by simp [s1])
    split
    · exact h.trans scheduleCandidate_steps
    · exact h.trans scheduleChooseNewThread_steps

lemma schedule_steps : Steps cfg s (s.schedule cfg) := by
  unfold schedule
  extract_lets s1 s2 s3 s4 s5
  have h1 : Steps cfg s s1 := steps_of_eq (s.awaken_params cfg)
  have h2 : Steps cfg s1 s2 := steps_of_eq (s1.checkDomainTime_params cfg)
  have h3 : Steps cfg s2 s3 := scheduleThread_steps
  have h5 : Steps cfg s3 s5 := steps_of_eq (s4.switchSchedContext_params cfg)
  have h : Steps cfg s s5 := ((h1.trans h2).trans h3).trans h5
  split
  · exact h
  · exact h

lemma exitKernel_steps : Steps cfg s (s.exitKernel cfg) :=
  schedule_steps.trans (steps_of_eq (activateThread_params cfg _))

/-! ## Invocations -/

lemma finaliseTcb_steps {t} : Steps cfg s (s.finaliseTcb cfg t) := by
  unfold finaliseTcb
  extract_lets s1 s2 s3
  have h2 : s2.schedParams = s.schedParams := by
    unfold s2
    split <;> simp [s1]
  have h3 : s3.schedParams = s.schedParams := (s2.suspend_params cfg t).trans h2
  refine .single ?_
  rw [← h3]
  exact .delete

lemma capEffect_steps {e : CapEffect} : Steps cfg s (s.capEffect cfg e) := by
  cases e with
  | finalise o =>
    cases o with
    | tcb t => exact finaliseTcb_steps
    | endpoint ep => exact steps_of_eq (s.finaliseEndpoint_params cfg ep)
    | notification ntfn => exact steps_of_eq (s.finaliseNotification_params cfg ntfn)
    | reply r => exact steps_of_eq (s.finaliseReply_params cfg r)
    | schedContext sc => exact steps_of_eq (s.finaliseSchedContext_params cfg sc)
  | create o sizeBits =>
    cases o with
    | tcb t => exact .single .create
    | _ => exact steps_of_eq rfl
  | preemptionPoint now => exact updateTimestamp_steps
  | _ => exact steps_of_eq rfl

lemma capEffects_steps {es : List CapEffect} : Steps cfg s (capEffects cfg es s) := by
  induction es generalizing s with
  | nil => exact .refl
  | cons e es ih => exact capEffect_steps.trans ih

lemma capOutcome_steps {o : CapOutcome} : Steps cfg s (s.capOutcome cfg o).1 := by
  cases o with
  | done => exact .refl
  | preempted now => exact updateTimestamp_steps

lemma setTcbPriority_params (s : Kernel) (t : TcbPtr) (prio : Nat) :
    (s.setTcbPriority t prio).schedParams = s.schedParams.setPriority t prio := rfl

lemma setMCPriority_params (s : Kernel) (t : TcbPtr) (mcp : Nat) :
    (s.setMCPriority t mcp).schedParams = s.schedParams.setMCPriority t mcp := rfl

lemma setPriority_params (s : Kernel) (t : TcbPtr) (prio : Nat) :
    (s.setPriority cfg t prio).schedParams = s.schedParams.setPriority t prio := by
  unfold Kernel.setPriority
  split <;> first | rfl | simp [setTcbPriority_params]

lemma setDomain_steps {t dom} (h : dom < cfg.numDomains) : Steps cfg s (s.setDomain cfg t dom) := by
  unfold setDomain
  extract_lets s1 s2 s3
  have h2 : Steps cfg s s2 := .single (.domain h)
  have h3 : s3.schedParams = s2.schedParams := by simp [s3]
  refine h2.trans (steps_of_eq ?_)
  split
  · exact (s3.rescheduleRequired_params cfg).trans h3
  · exact h3

lemma checkPrio_ok {prio auth} {u : Unit} (h : s.checkPrio prio auth = .ok u) : prio ≤ s.tcbMCP auth := by
  unfold checkPrio refuseIf at h
  split at h
  · cases h
  · rename_i hle
    exact Nat.not_lt.mp hle

/-- The end of `decodeSetSchedParams`. -/
lemma setSchedParams_params (s : Kernel) {t mcp prio fh final} :
    ((((s.restartCurrent.installFaultHandler cfg t fh final).setMCPriority t mcp).setPriority cfg t prio).schedParams =
      (s.schedParams.setPriority t prio).setMCPriority t mcp) := by
  rw [setPriority_params, setMCPriority_params, installFaultHandler_params, restartCurrent_params]
  rfl

lemma decodeSetSchedParams_steps {t auth mcp prio sc fh final} (ha : s.tcbExists auth = true)
    (e : s.decodeSetSchedParams cfg t auth mcp prio sc fh final = .ok s') : Steps cfg s s' := by
  unfold decodeSetSchedParams at e
  obtain ⟨_, hmcp, e⟩ := bind_eq_ok.mp e
  obtain ⟨_, hprio, e⟩ := bind_eq_ok.mp e
  -- in this order both are checked against the authority as it was before
  have h1 : Steps cfg s (s.setTcbPriority t prio) := .single (.priority ha (checkPrio_ok hprio))
  have h2 : Steps cfg (s.setTcbPriority t prio) ((s.setTcbPriority t prio).setMCPriority t mcp) :=
    .single (.mcPriority ha (checkPrio_ok hmcp))
  refine (h1.trans h2).trans (steps_of_eq ?_)
  have hend : ∀ {u : Kernel}, (do
      refuseIf (validFaultHandler fh = false) (.invalidCapability 3)
      let update := decide (s.tcbSchedContext t ≠ sc)
      let s := s.restartCurrent
      let s := s.installFaultHandler cfg t fh final
      let s := s.setMCPriority t mcp
      let s := s.setPriority cfg t prio
      return if update then s.threadControlSchedContext cfg t sc else s : Except SyscallError Kernel) = .ok u →
      u.schedParams = (s.schedParams.setPriority t prio).setMCPriority t mcp := by
    intro u e
    obtain ⟨-, e⟩ := refuseIf_bind.mp e
    obtain rfl := Except.ok.inj e
    rw [ite_params, threadControlSchedContext_params, ite_self]
    exact s.setSchedParams_params
  cases sc with
  | none =>
    obtain ⟨-, e⟩ := refuseIf_bind.mp e
    exact hend e
  | some c =>
    obtain ⟨-, e⟩ := refuseIf_bind.mp e
    obtain ⟨-, e⟩ := refuseIf_bind.mp e
    obtain ⟨-, e⟩ := refuseIf_bind.mp e
    exact hend e

lemma invokeThreadControlCaps_steps {t es o b} : Steps cfg s (s.invokeThreadControlCaps cfg t es o b).1 := by
  unfold invokeThreadControlCaps
  extract_lets r
  have h : Steps cfg s r.1 := capEffects_steps.trans capOutcome_steps
  split
  · exact h.trans (steps_of_eq (r.1.rescheduleRequired_params cfg))
  · exact h

/-- What the invocations of a thread do to priorities and domains. -/
lemma decodeTCBInvocation_steps {t inv r} (hl : TcbInvocation.Legal cfg s t inv)
    (e : s.decodeTCBInvocation cfg t inv = .ok r) : Steps cfg s r.1 := by
  cases inv with
  | readRegisters b | writeRegisters b =>
    obtain ⟨-, e⟩ := refuseIf_bind.mp e
    obtain rfl := Except.ok.inj e
    exact steps_of_eq (by simp)
  | copyRegisters src b b' | suspend | resume =>
    obtain rfl := Except.ok.inj e
    exact steps_of_eq (by simp)
  | setPriority auth prio =>
    obtain ⟨_, hp, e⟩ := bind_eq_ok.mp e
    obtain rfl := Except.ok.inj e
    have h1 : Steps cfg s (s.setTcbPriority t prio) := .single (.priority hl (checkPrio_ok hp))
    exact h1.trans (steps_of_eq (by simp [setPriority_params, setTcbPriority_params]))
  | setMCPriority auth mcp =>
    obtain ⟨_, hp, e⟩ := bind_eq_ok.mp e
    obtain rfl := Except.ok.inj e
    have h1 : Steps cfg s (s.setMCPriority t mcp) := .single (.mcPriority hl (checkPrio_ok hp))
    exact h1.trans (steps_of_eq (by simp [setMCPriority_params]))
  | setSchedParams auth mcp prio sc fh final =>
    obtain ⟨u, hu, e⟩ := bind_eq_ok.mp e
    obtain rfl := Except.ok.inj e
    exact decodeSetSchedParams_steps hl.1 hu
  | threadControlCaps es o b =>
    obtain rfl := Except.ok.inj e
    exact (steps_of_eq s.restartCurrent_params).trans invokeThreadControlCaps_steps
  | bindNotification cap =>
    obtain ⟨u, hu, e⟩ := bind_eq_ok.mp e
    obtain rfl := Except.ok.inj e
    unfold decodeBindNotification at hu
    obtain ⟨-, hu⟩ := refuseIf_bind.mp hu
    obtain ⟨-, hu⟩ := refuseIf_bind.mp hu
    obtain ⟨-, hu⟩ := refuseIf_bind.mp hu
    obtain rfl := Except.ok.inj hu
    exact steps_of_eq (by simp)
  | unbindNotification =>
    obtain ⟨u, hu, e⟩ := bind_eq_ok.mp e
    obtain rfl := Except.ok.inj e
    unfold decodeUnbindNotification at hu
    obtain ⟨-, hu⟩ := refuseIf_bind.mp hu
    obtain rfl := Except.ok.inj hu
    exact steps_of_eq (by simp)

lemma decodeSchedContextInvocation_params {sc call inv} (e : s.decodeSchedContextInvocation cfg sc call inv = .ok s') :
    s'.schedParams = s.schedParams := by
  cases inv with
  | consumed =>
    obtain rfl := Except.ok.inj e
    simp
  | bindTcb t =>
    unfold decodeSchedContextInvocation decodeBindTcb at e
    obtain ⟨-, e⟩ := refuseIf_bind.mp e
    obtain ⟨-, e⟩ := refuseIf_bind.mp e
    obtain ⟨-, e⟩ := refuseIf_bind.mp e
    obtain rfl := Except.ok.inj e
    simp
  | bindNtfn ntfn =>
    unfold decodeSchedContextInvocation decodeBindNtfn at e
    obtain ⟨-, e⟩ := refuseIf_bind.mp e
    obtain ⟨-, e⟩ := refuseIf_bind.mp e
    obtain rfl := Except.ok.inj e
    simp
  | unbindTcb t =>
    unfold decodeSchedContextInvocation decodeUnbindTcb at e
    obtain ⟨-, e⟩ := refuseIf_bind.mp e
    obtain ⟨-, e⟩ := refuseIf_bind.mp e
    obtain rfl := Except.ok.inj e
    simp
  | unbindNtfn ntfn =>
    unfold decodeSchedContextInvocation decodeUnbindNtfn at e
    obtain ⟨-, e⟩ := refuseIf_bind.mp e
    obtain rfl := Except.ok.inj e
    simp
  | unbind =>
    obtain ⟨-, e⟩ := refuseIf_bind.mp e
    obtain rfl := Except.ok.inj e
    simp
  | yieldTo =>
    unfold decodeSchedContextInvocation decodeYieldTo at e
    dsimp only at e
    split at e
    · cases e
    · obtain ⟨-, e⟩ := refuseIf_bind.mp e
      obtain ⟨-, e⟩ := refuseIf_bind.mp e
      obtain ⟨-, e⟩ := refuseIf_bind.mp e
      obtain rfl := Except.ok.inj e
      simp

lemma decodeDomainInvocation_steps {inv} (e : s.decodeDomainInvocation cfg inv = .ok s') : Steps cfg s s' := by
  have h1 : Steps cfg s s.restartCurrent := steps_of_eq s.restartCurrent_params
  cases inv with
  | set t dom =>
    obtain ⟨hd, e⟩ := refuseIf_bind.mp e
    obtain rfl := Except.ok.inj e
    exact h1.trans (setDomain_steps (Nat.not_le.mp hd))
  | scheduleConfigure index domain duration =>
    obtain ⟨hi, e⟩ := refuseIf_bind.mp e
    obtain ⟨hd, e⟩ := refuseIf_bind.mp e
    obtain ⟨hn, e⟩ := refuseIf_bind.mp e
    obtain ⟨h0, e⟩ := refuseIf_bind.mp e
    obtain ⟨hs, e⟩ := refuseIf_bind.mp e
    obtain rfl := Except.ok.inj e
    refine h1.trans (.single (.configure (Nat.not_le.mp hi) (Nat.not_le.mp hd) (Nat.not_lt.mp hn) (fun hz =>
      ?_) fun hz he => ?_))
    · by_contra hne
      exact h0 ⟨hz, hne⟩
    · refine hs ⟨he.trans ?_, hz⟩
      exact congrArg SchedParams.ksDomScheduleStart s.restartCurrent_params
  | scheduleSetStart index =>
    obtain ⟨hi, e⟩ := refuseIf_bind.mp e
    obtain ⟨hm, e⟩ := refuseIf_bind.mp e
    obtain rfl := Except.ok.inj e
    have h2 : SchedParams.Step cfg s.restartCurrent.schedParams { s.restartCurrent.schedParams with
        ksDomScheduleStart := index
        ksDomainTime := 0
        ksDomScheduleIdx := cfg.domScheduleLength - 2 } := by
      refine .setStart (Nat.not_le.mp hi) ?_
      rw [restartCurrent_params]
      exact hm
    unfold Steps
    rw [rescheduleRequired_params]
    exact h1.trans (.single h2)

lemma decodeInvocation_steps {a b c d inv r} (hl : Invocation.Legal cfg s inv)
    (e : s.decodeInvocation cfg a b c d inv = .ok r) : Steps cfg s r.1 := by
  cases inv with
  | refused err => cases e
  | endpoint cap | notification cap =>
    obtain ⟨-, e⟩ := refuseIf_bind.mp e
    obtain rfl := Except.ok.inj e
    exact steps_of_eq (by simp)
  | reply cap restart =>
    obtain rfl := Except.ok.inj e
    exact steps_of_eq (by simp)
  | tcb t inv =>
    obtain ⟨-, e⟩ := refuseIf_bind.mp e
    exact decodeTCBInvocation_steps hl.2 e
  | domain inv =>
    obtain ⟨-, e⟩ := refuseIf_bind.mp e
    obtain ⟨u, hu, e⟩ := bind_eq_ok.mp e
    obtain rfl := Except.ok.inj e
    exact decodeDomainInvocation_steps hu
  | schedControl core length args target =>
    obtain ⟨-, e⟩ := refuseIf_bind.mp e
    obtain ⟨u, hu, e⟩ := bind_eq_ok.mp e
    obtain rfl := Except.ok.inj e
    unfold decodeSchedControlInvocation at hu
    obtain ⟨conf, -, hu⟩ := bind_eq_ok.mp hu
    cases target with
    | none => cases hu
    | some sc =>
      obtain rfl := Except.ok.inj hu
      exact steps_of_eq (by simp)
  | schedContext sc inv =>
    obtain ⟨-, e⟩ := refuseIf_bind.mp e
    obtain ⟨u, hu, e⟩ := bind_eq_ok.mp e
    obtain rfl := Except.ok.inj e
    exact steps_of_eq (decodeSchedContextInvocation_params hu)
  | cancelBadgedSends cap =>
    obtain ⟨-, e⟩ := refuseIf_bind.mp e
    obtain ⟨-, e⟩ := refuseIf_bind.mp e
    obtain rfl := Except.ok.inj e
    exact steps_of_eq (by simp)
  | capOperation phase es o =>
    obtain ⟨-, e⟩ := refuseIf_bind.mp e
    rw [← Except.ok.inj e]
    exact (steps_of_eq s.restartCurrent_params).trans (capEffects_steps.trans capOutcome_steps)

/-! ## Entries -/

lemma handleInvocation_steps {a b c d} {l : InvokeLookup} (hl : l.Legal cfg s) :
    Steps cfg s (s.handleInvocation cfg a b c d l).1 := by
  cases l with
  | failed => exact steps_of_eq (by simp [handleInvocation])
  | found inv =>
    cases e : s.decodeInvocation cfg b a c d inv with
    | error err =>
      have h : (s.handleInvocation cfg a b c d (.found inv)).1 =
          if a then s.setBadgeRegister s.ksCurThread 0 else s := by simp only [handleInvocation, e]
      exact steps_of_eq (by simp [h])
    | ok r =>
      have h := decodeInvocation_steps (hl inv rfl) e
      have h' : (s.handleInvocation cfg a b c d (.found inv)).1.schedParams = r.1.schedParams := by
        obtain ⟨u, p⟩ := r
        simp only [handleInvocation, e]
        cases p <;> simp
      exact h.trans (steps_of_eq h')

lemma performSyscall_steps {sys : Syscall} {irq} (hl : sys.Legal cfg s irq) :
    Steps cfg s (s.performSyscall cfg irq sys) := by
  have invokeOnly : ∀ {a b c l}, InvokeLookup.Legal cfg s l → Steps cfg s (s.invokeOnly cfg a b c l irq) := by
    intro a b c l hl
    unfold Kernel.invokeOnly
    extract_lets r
    have h : Steps cfg s r.1 := handleInvocation_steps hl
    split
    · exact h.trans (steps_of_eq (r.1.afterPreemption_params cfg irq))
    · exact h
  have invokeThenRecv : ∀ {a l rl}, InvokeLookup.Legal cfg s l → Steps cfg s (s.invokeThenRecv cfg a l rl irq) := by
    intro a l rl hl
    unfold Kernel.invokeThenRecv
    extract_lets r
    have h : Steps cfg s r.1 := handleInvocation_steps hl
    split
    · exact h.trans (steps_of_eq (r.1.afterPreemption_params cfg irq))
    · exact h.trans (steps_of_eq (r.1.handleRecv_params cfg _ _ _))
  cases sys with
  | send l | nbSend l | call l => exact invokeOnly hl.1
  | recv r | nbRecv r | wait r | nbWait r => exact steps_of_eq (s.handleRecv_params cfg _ _ _)
  | replyRecv l r =>
    have h : Steps cfg s (s.handleInvocation cfg false false true true l).1 := handleInvocation_steps hl.1
    exact h.trans (steps_of_eq (handleRecv_params cfg _ _ _ _))
  | nbSendRecv l r | nbSendWait l r => exact invokeThenRecv hl.1
  | yield => exact steps_of_eq (s.handleYield_params cfg)

/-- A kernel entry takes steps and leaves through `exitKernel`, unless it returns after a budget check that
succeeded. -/
lemma handleEvent_cases {e : Event} (hl : e.Legal cfg s) :
    (∃ s', Steps cfg s s' ∧ s.handleEvent cfg e = s'.exitKernel cfg) ∨
      ∃ s', Steps cfg s s' ∧ (s'.checkBudgetRestart cfg).2 = true ∧
        s.handleEvent cfg e = (s'.checkBudgetRestart cfg).1 := by
  have budget : ∀ now, Steps cfg s ((s.updateTimestamp cfg now).checkBudgetRestart cfg).1 := fun now =>
    updateTimestamp_steps.trans (steps_of_eq (checkBudgetRestart_params cfg _))
  cases e with
  | syscall now sys irq =>
    refine .inl ⟨_, ?_, rfl⟩
    unfold ifBudget
    extract_lets s1 r
    split
    · rename_i hr
      exact (budget now).trans (performSyscall_steps (hl.2.2 hr))
    · exact budget now
  | fault now f =>
    refine .inl ⟨_, ?_, rfl⟩
    clear hl
    unfold ifBudget
    extract_lets s1 r
    split
    · refine (budget now).trans (steps_of_eq ?_)
      cases f <;> simp [r, s1]
    · exact budget now
  | setTLSBase now =>
    have hdef : s.handleEvent cfg (.setTLSBase now) =
      if ((s.updateTimestamp cfg now).checkBudgetRestart cfg).2 then
        ((s.updateTimestamp cfg now).checkBudgetRestart cfg).1 else
        ((s.updateTimestamp cfg now).checkBudgetRestart cfg).1.exitKernel cfg := rfl
    rw [hdef]
    split
    · exact .inr ⟨_, updateTimestamp_steps, by assumption, rfl⟩
    · exact .inl ⟨_, budget now, rfl⟩
  | interrupt now irq =>
    have h1 : Steps cfg s ((s.updateTimestamp cfg now).checkBudget cfg).1 :=
      updateTimestamp_steps.trans (steps_of_eq (checkBudget_params cfg _))
    exact .inl ⟨_, h1.trans (steps_of_eq (handleInterrupt_params cfg _ irq)), rfl⟩

/-- A kernel entry only takes steps. -/
lemma handleEvent_steps {e : Event} (hl : e.Legal cfg s) : Steps cfg s (s.handleEvent cfg e) := by
  rcases handleEvent_cases hl with ⟨s', h, e⟩ | ⟨s', h, -, e⟩
  · rw [e]
    exact h.trans exitKernel_steps
  · rw [e]
    exact h.trans (steps_of_eq (checkBudgetRestart_params cfg _))

end Kernel

end NexsKernel.Mcs
