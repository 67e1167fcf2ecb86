import NexsKernel.Mcs.ObjReach

/-!
# Consistency of the objects

What the invariant of the objects says about the call stacks, the queues of endpoints and notifications and
the bindings, in terms of the lists and relations that the pointers stand for.
-/

namespace NexsKernel.Mcs

/-- The kernel for the QEMU `virt` board, with one domain. -/
def qemuConfig : KernelConfig where
  toTimer := qemuTimer
  numDomains := 1
  numPriorities := 256
  domScheduleLength := 2
  bootTimeSlice := 312500
  numDomains_pos := by decide
  numDomains_le := by decide
  numPriorities_pos := by decide
  numPriorities_le := by decide
  two_le_domScheduleLength := by decide
  minBudget_le_bootTimeSlice := by decide
  bootTimeSlice_le := by decide

/-- The first state of that kernel. -/
lemma reachable_qemu :
    Reachable qemuConfig ((Kernel.boot qemuConfig 1 2 3 4 5).exitKernel qemuConfig) :=
  .boot (by decide) (by decide) (by decide)

/-! ## Runs -/

/-- A run from a given state. -/
def handleEvents (cfg : KernelConfig) : List Event → Kernel → Kernel
  | [], s => s
  | e :: es, s => handleEvents cfg es (s.handleEvent cfg e)

/-- Each entry of a run can happen when its turn comes. -/
def eventsLegal (cfg : KernelConfig) : List Event → Kernel → Prop
  | [], _ => True
  | e :: es, s => s.halted = false ∧ e.Legal cfg s ∧ eventsLegal cfg es (s.handleEvent cfg e)

lemma Reachable.events {cfg : KernelConfig} {es : List Event} {s : Kernel} (h : Reachable cfg s)
    (hes : eventsLegal cfg es s) : Reachable cfg (handleEvents cfg es s) := by
  induction es generalizing s with
  | nil => exact h
  | cons e es ih => exact ih (.step h hes.1 hes.2.1) hes.2.2

/-- A call without an interrupt. -/
lemma Event.call_legal {cfg : KernelConfig} {s : Kernel} {now : Nat} {inv : Invocation} (ht : TimeLegal cfg s now)
    (hc : s.ksCurThread ≠ s.ksIdleThread)
    (hl : inv.Legal cfg ((s.updateTimestamp cfg now).checkBudgetRestart cfg).1) :
    (Event.syscall now (.call (.found inv)) .ignored).Legal cfg s := by
  refine ⟨ht, hc, fun _ => ⟨fun inv' e => ?_, ?_⟩⟩
  · cases e
    exact hl
  · dsimp only
    split
    · nofun
    · trivial

lemma Invocation.create_legal {cfg : KernelConfig} {s : Kernel} {o : ObjRef} {n : Nat}
    (ho : ¬ o.Exists s.restartCurrent)
    (ht : o ≠ .tcb s.restartCurrent.ksIdleThread) (hs : o ≠ .schedContext s.restartCurrent.ksIdleSC)
    (hn : SchedContextBits n) : (Invocation.capOperation false [.create o n] .done).Legal cfg s :=
  ⟨⟨⟨⟨ho, ht, hs, hn⟩, trivial⟩, trivial⟩, nofun⟩

instance {s : Kernel} : DecidablePred (ObjRef.Exists s)
  | .tcb _ => inferInstanceAs (Decidable (_ = true))
  | .endpoint _ => inferInstanceAs (Decidable (_ = true))
  | .notification _ => inferInstanceAs (Decidable (_ = true))
  | .reply _ => inferInstanceAs (Decidable (_ = true))
  | .schedContext _ => inferInstanceAs (Decidable (_ = true))

instance {cfg : KernelConfig} {s : Kernel} {now : Nat} : Decidable (TimeLegal cfg s now) :=
  inferInstanceAs (Decidable (_ ∧ _))

/-- A call that finds an invocation. -/
def invokeCall (now : Nat) (inv : Invocation) : Event :=
  .syscall now (.call (.found inv)) .ignored

/-- A call that creates an object. -/
def createCall (now : Nat) (o : ObjRef) : Event :=
  .syscall now (.call (.found (.capOperation false [.create o minSchedContextBits] .done))) .ignored

/-- A message of `SchedControl_ConfigureFlags`. -/
def configureMessage (budget period : Nat) : Nat → Nat
  | 0 => budget
  | 1 => period
  | _ => 0

lemma eventsLegal.cons {cfg : KernelConfig} {s : Kernel} {e : Event} {es : List Event} (hh : s.halted = false)
    (he : e.Legal cfg s) (hes : eventsLegal cfg es (s.handleEvent cfg e)) : eventsLegal cfg (e :: es) s :=
  ⟨hh, he, hes⟩

lemma eventsLegal.create {cfg : KernelConfig} {s : Kernel} {now : Nat} {o : ObjRef} {es : List Event}
    (hh : s.halted = false ∧ TimeLegal cfg s now ∧ s.ksCurThread ≠ s.ksIdleThread)
    (ho : let s1 := ((s.updateTimestamp cfg now).checkBudgetRestart cfg).1.restartCurrent
      ¬ o.Exists s1 ∧ o ≠ .tcb s1.ksIdleThread ∧ o ≠ .schedContext s1.ksIdleSC)
    (hes : eventsLegal cfg es (s.handleEvent cfg (createCall now o))) :
    eventsLegal cfg (createCall now o :: es) s :=
  .cons hh.1 (Event.call_legal hh.2.1 hh.2.2
    (Invocation.create_legal ho.1 ho.2.1 ho.2.2 ⟨by decide, by decide⟩)) hes

lemma eventsLegal.call {cfg : KernelConfig} {s : Kernel} {now : Nat} {inv : Invocation} {es : List Event}
    (hh : s.halted = false ∧ TimeLegal cfg s now ∧ s.ksCurThread ≠ s.ksIdleThread)
    (hl : inv.Legal cfg ((s.updateTimestamp cfg now).checkBudgetRestart cfg).1)
    (hes : eventsLegal cfg es (s.handleEvent cfg (invokeCall now inv))) :
    eventsLegal cfg (invokeCall now inv :: es) s :=
  .cons hh.1 (Event.call_legal hh.2.1 hh.2.2 hl) hes

/-- The initial thread makes two threads; the first is bound to a notification, and waits for a message. -/
def serverStart : List Event :=
  [createCall 6 (.tcb 10), createCall 7 (.tcb 11), createCall 8 (.notification 20), createCall 9 (.notification 21),
    createCall 10 (.endpoint 30), createCall 10 (.endpoint 31), createCall 11 (.reply 50), createCall 11 (.reply 51),
    createCall 12 (.schedContext 40), createCall 13 (.schedContext 41),
    invokeCall 14 (.schedControl 0 5 (configureMessage 10000 10000) (some 40)),
    invokeCall 15 (.schedControl 0 5 (configureMessage 10000 10000) (some 41)),
    invokeCall 16 (.tcb 10 (.setSchedParams 2 255 255 (some 40) none false)),
    invokeCall 17 (.tcb 11 (.setSchedParams 2 255 255 (some 41) none false)),
    invokeCall 18 (.tcb 10 (.bindNotification ⟨20, 5, true, true⟩)),
    invokeCall 19 (.schedContext 41 (.bindNtfn 21)),
    invokeCall 20 (.tcb 10 (.writeRegisters true)),
    .syscall 21 .yield .ignored,
    .syscall 22 (.recv (.endpoint ⟨30, 0, true, true, true, true⟩ (.found ⟨50, true⟩))) .ignored]

/-- The state after booting. -/
def qemuBooted : Kernel :=
  (Kernel.boot qemuConfig 1 2 3 4 5).exitKernel qemuConfig

def serverStarted : Kernel :=
  handleEvents qemuConfig serverStart qemuBooted

set_option maxRecDepth 20000 in
lemma serverStart_legal : eventsLegal qemuConfig serverStart qemuBooted := by
  iterate 10 refine .create (by decide +kernel) (by decide +kernel) ?_
  iterate 2
    refine .call (by decide +kernel) ?_ ?_
    · rintro sc ⟨⟩
      decide +kernel
  iterate 2
    refine .call (by decide +kernel) ⟨by decide +kernel, by decide +kernel, ?_, nofun, nofun⟩ ?_
    · rintro sc ⟨⟩
      decide +kernel
  refine .call (by decide +kernel) ⟨by decide +kernel, (by decide +kernel : _ = true)⟩ ?_
  refine .call (by decide +kernel) ⟨by decide +kernel, (by decide +kernel : _ = true)⟩ ?_
  refine .call (by decide +kernel) ⟨by decide +kernel, trivial⟩ ?_
  refine .cons (by decide +kernel) ⟨by decide +kernel, by decide +kernel, fun _ => trivial⟩ ?_
  refine .cons (by decide +kernel) ⟨by decide +kernel, by decide +kernel, fun _ => ⟨by decide +kernel, ?_⟩⟩ trivial
  rintro r ⟨⟩
  decide +kernel

lemma reachable_serverStarted : Reachable qemuConfig serverStarted :=
  reachable_qemu.events serverStart_legal

/-- The queue of a notification. -/
structure NotificationQueue (s : Kernel) (ntfn : NtfnPtr) (xs : List TcbPtr) : Prop where
  rep : Queue.Rep s.epLinks (s.ntfnQueue ntfn) xs
  nodup : xs.Nodup
  mem : ∀ t, t ∈ xs ↔ s.tsType t = .blockedOnNotification ∧ s.blockingObject t = ntfn
  waiting : s.ntfnState ntfn = .waiting ↔ xs ≠ []
  sorted : xs.Pairwise fun a b => s.tcbPriority b < s.tcbPriority a ∨
    s.tcbPriority a = s.tcbPriority b ∧ s.epArrival a < s.epArrival b

lemma IpcState.waitsAt_notification_iff (i : IpcState) (t : TcbPtr) (ntfn : NtfnPtr) :
    i.waitsAt t = some (.notification ntfn) ↔
      i.tsType t = .blockedOnNotification ∧ i.blockingObject t = ntfn := by
  unfold waitsAt
  cases i.tsType t <;> simp

lemma ObjInv.ntfnQueues {s : Kernel} (h : s.ObjInv []) (ntfn : NtfnPtr) : ∃ xs, NotificationQueue s ntfn xs := by
  obtain ⟨xs, q, l⟩ := h.waiting
  refine ⟨xs (.notification ntfn), q.rep (.notification ntfn), (q.rep _).nodup, fun t => ?_, l.waiting ntfn,
    q.order _⟩
  rw [q.mem, s.waitsAt_notification_iff]
  simp

end NexsKernel.Mcs
