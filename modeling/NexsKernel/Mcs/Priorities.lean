import NexsKernel.Mcs.Domains

/-!
# Priorities and domains

A priority or an MCP that a message names is checked against the MCP of an authority, and a domain against the
number of domains. So every thread has a ready queue, and no thread ever gets a priority beyond the MCPs that
there were.
-/

namespace NexsKernel.Mcs

open Function (update update_self update_of_ne)

/-- `NUM_READY_QUEUES`. -/
def numReadyQueues (cfg : KernelConfig) : Nat :=
  cfg.numDomains * cfg.numPriorities

namespace SchedParams

variable {cfg : KernelConfig} {p p' : SchedParams}

/-- The largest MCP of a thread. -/
def maxMCP (p : SchedParams) : Nat :=
  (Finset.univ.filter fun t => p.tcbExists t = true).sup p.tcbMCP

lemma le_maxMCP {t : TcbPtr} (h : p.tcbExists t = true) : p.tcbMCP t ≤ p.maxMCP :=
  Finset.le_sup (f := p.tcbMCP) (Finset.mem_filter.mpr ⟨Finset.mem_univ t, h⟩)

lemma maxMCP_le {n : Nat} (h : ∀ t, p.tcbExists t = true → p.tcbMCP t ≤ n) : p.maxMCP ≤ n :=
  Finset.sup_le fun t ht => h t (Finset.mem_filter.mp ht).2

/-- No step makes the largest MCP larger. -/
lemma Step.maxMCP_le (h : Step cfg p p') : p'.maxMCP ≤ p.maxMCP := by
  refine SchedParams.maxMCP_le fun t ht => ?_
  cases h with
  | priority | domain | configure | setStart | time | nextDomain => exact le_maxMCP ht
  | @mcPriority u auth mcp ha hle =>
    show update p.tcbMCP u mcp t ≤ p.maxMCP
    by_cases e : t = u
    · rw [e, update_self]
      exact hle.trans (le_maxMCP ha)
    · rw [update_of_ne e]
      exact le_maxMCP ht
  | @create u =>
    show update p.tcbMCP u 0 t ≤ p.maxMCP
    by_cases e : t = u
    · rw [e, update_self]
      exact Nat.zero_le _
    · rw [update_of_ne e]
      change update p.tcbExists u true t = true at ht
      rw [update_of_ne e] at ht
      exact le_maxMCP ht
  | @delete u =>
    change update p.tcbExists u false t = true at ht
    show p.tcbMCP t ≤ p.maxMCP
    by_cases e : t = u
    · rw [e, update_self] at ht
      exact absurd ht Bool.false_ne_true
    · rw [update_of_ne e] at ht
      exact le_maxMCP ht

/-- A step changes a priority only to one that is not above the MCPs. -/
lemma Step.priority_le (h : Step cfg p p') (t : TcbPtr) :
    p'.tcbPriority t = p.tcbPriority t ∨ p'.tcbPriority t ≤ p.maxMCP := by
  cases h with
  | mcPriority | domain | delete | configure | setStart | time | nextDomain => exact .inl rfl
  | @priority u auth prio ha hle =>
    show update p.tcbPriority u prio t = _ ∨ update p.tcbPriority u prio t ≤ _
    by_cases e : t = u
    · rw [e, update_self]
      exact .inr (hle.trans (le_maxMCP ha))
    · exact .inl (update_of_ne e _ _)
  | @create u =>
    show update p.tcbPriority u 0 t = _ ∨ update p.tcbPriority u 0 t ≤ _
    by_cases e : t = u
    · rw [e, update_self]
      exact .inr (Nat.zero_le _)
    · exact .inl (update_of_ne e _ _)

lemma Steps.maxMCP_le (h : Steps cfg p p') : p'.maxMCP ≤ p.maxMCP := by
  induction h with
  | refl => exact le_rfl
  | tail _ hs ih => exact hs.maxMCP_le.trans ih

lemma Steps.priority_le (h : Steps cfg p p') (t : TcbPtr) :
    p'.tcbPriority t = p.tcbPriority t ∨ p'.tcbPriority t ≤ p.maxMCP := by
  induction h with
  | refl => exact .inl rfl
  | @tail p1 p2 h1 hs ih =>
    rcases hs.priority_le t with e | hle
    · rw [e]
      exact ih
    · exact .inr (hle.trans (Steps.maxMCP_le h1))

/-- Priorities, MCPs and domains are in their ranges. -/
structure Bounded (cfg : KernelConfig) (p : SchedParams) : Prop where
  priority : ∀ t, p.tcbPriority t ≤ cfg.maxPrio
  mcp : ∀ t, p.tcbMCP t ≤ cfg.maxPrio
  domain : ∀ t, p.tcbDomain t < cfg.numDomains

/-- The ranges are kept when one entry changes to a value in range. -/
lemma forall_update {Q : Nat → Prop} {f : TcbPtr → Nat} (h : ∀ t, Q (f t)) {v : Nat} (hv : Q v) (u t : TcbPtr) :
    Q (update f u v t) := by
  by_cases e : t = u
  · rw [e, update_self]
    exact hv
  · rw [update_of_ne e]
    exact h t

lemma Bounded.step (h : Bounded cfg p) (hok : ScheduleOk cfg p) (hs : Step cfg p p') : Bounded cfg p' := by
  cases hs with
  | @priority _ auth _ _ hle =>
    exact ⟨forall_update (Q := (· ≤ cfg.maxPrio)) h.priority (hle.trans (h.mcp auth)) _, h.mcp, h.domain⟩
  | @mcPriority _ auth _ _ hle =>
    exact ⟨h.priority, forall_update (Q := (· ≤ cfg.maxPrio)) h.mcp (hle.trans (h.mcp auth)) _, h.domain⟩
  | domain hd =>
    exact ⟨h.priority, h.mcp, forall_update (Q := (· < cfg.numDomains)) h.domain hd _⟩
  | create =>
    exact ⟨forall_update (Q := (· ≤ cfg.maxPrio)) h.priority (Nat.zero_le _) _,
      forall_update (Q := (· ≤ cfg.maxPrio)) h.mcp (Nat.zero_le _) _,
      forall_update (Q := (· < cfg.numDomains)) h.domain hok.curDomain _⟩
  | delete | configure | setStart | time | nextDomain => exact ⟨h.priority, h.mcp, h.domain⟩

lemma Bounded.steps (h : Bounded cfg p) (hok : ScheduleOk cfg p) (hs : Steps cfg p p') : Bounded cfg p' := by
  induction hs with
  | refl => exact h
  | tail h1 hs ih => exact ih.step (hok.steps h1) hs

end SchedParams

/-! ## Indices -/

lemma readyQueuesIndex_lt {cfg : KernelConfig} {dom prio : Nat} (hd : dom < cfg.numDomains)
    (hp : prio ≤ cfg.maxPrio) : readyQueuesIndex cfg dom prio < numReadyQueues cfg := by
  have hpos := cfg.numPriorities_pos
  have hlt : prio < cfg.numPriorities := by
    unfold KernelConfig.maxPrio at hp
    omega
  unfold readyQueuesIndex numReadyQueues
  split
  · calc dom * cfg.numPriorities + prio
      _ < dom * cfg.numPriorities + cfg.numPriorities := Nat.add_lt_add_left hlt _
      _ = (dom + 1) * cfg.numPriorities := (Nat.succ_mul dom cfg.numPriorities).symm
      _ ≤ cfg.numDomains * cfg.numPriorities := Nat.mul_le_mul_right _ hd
  · calc prio
      _ < cfg.numPriorities := hlt
      _ ≤ cfg.numDomains * cfg.numPriorities := Nat.le_mul_of_pos_left _ cfg.numDomains_pos

lemma prioToL1index_lt {cfg : KernelConfig} {prio : Nat} (hp : prio ≤ cfg.maxPrio) :
    prioToL1index prio < l2BitmapSize cfg := by
  have hpos := cfg.numPriorities_pos
  unfold KernelConfig.maxPrio at hp
  unfold prioToL1index l2BitmapSize wordBits
  omega

lemma l2BitmapSize_le (cfg : KernelConfig) : l2BitmapSize cfg ≤ wordBits := by
  have hle := cfg.numPriorities_le
  unfold l2BitmapSize wordBits
  omega

/-- The places of a thread in the arrays of the scheduler are inside the arrays: its ready queue, its bit in the
word of the first level, and its word of the second level with its bit in that. -/
structure PlaceInside (cfg : KernelConfig) (dom prio : Nat) : Prop where
  domain : dom < cfg.numDomains
  queue : readyQueuesIndex cfg dom prio < numReadyQueues cfg
  l1 : prioToL1index prio < wordBits
  l2 : invertL1index cfg (prioToL1index prio) < l2BitmapSize cfg
  bit : prio % wordBits < wordBits

lemma placeInside {cfg : KernelConfig} {dom prio : Nat} (hd : dom < cfg.numDomains) (hp : prio ≤ cfg.maxPrio) :
    PlaceInside cfg dom prio := by
  have hl1 := prioToL1index_lt hp
  refine ⟨hd, readyQueuesIndex_lt hd hp, hl1.trans_le (l2BitmapSize_le cfg), ?_, Nat.mod_lt _ (by decide)⟩
  unfold invertL1index
  omega

/-! ## Runs -/

/-- The largest MCP of a thread. -/
def Kernel.maxMCP (s : Kernel) : Nat :=
  s.schedParams.maxMCP

lemma Kernel.boot_bounded {cfg : KernelConfig} {idle root : TcbPtr} {idleSC rootSC : ScPtr} {now : Nat} :
    SchedParams.Bounded cfg (Kernel.boot cfg idle root idleSC rootSC now).schedParams := by
  rw [boot_params]
  exact ⟨SchedParams.forall_update (Q := (· ≤ cfg.maxPrio)) (fun _ => Nat.zero_le _) le_rfl _,
    SchedParams.forall_update (Q := (· ≤ cfg.maxPrio)) (fun _ => Nat.zero_le _) le_rfl _,
    SchedParams.forall_update (Q := (· < cfg.numDomains)) (fun _ => cfg.numDomains_pos) cfg.numDomains_pos _⟩

lemma Reachable.bounded {cfg : KernelConfig} {s : Kernel} (h : Reachable cfg s) :
    SchedParams.Bounded cfg s.schedParams := by
  induction h with
  | boot => exact Kernel.boot_bounded.steps Kernel.boot_scheduleOk Kernel.exitKernel_steps
  | step h _ he ih => exact ih.steps h.scheduleOk.1 (Kernel.handleEvent_steps he)

lemma handleEvents_steps {cfg : KernelConfig} {es : List Event} {s : Kernel} (h : eventsLegal cfg es s) :
    Kernel.Steps cfg s (handleEvents cfg es s) := by
  induction es generalizing s with
  | nil => exact .refl
  | cons e es ih => exact (Kernel.handleEvent_steps h.2.1).trans (ih h.2.2)

/-- Every thread has its place in the arrays of the scheduler, and a run neither makes the largest MCP larger nor
gives a thread a priority above it. -/
theorem priorities_bounded {cfg : KernelConfig} {s : Kernel} (h : Reachable cfg s) :
    (∀ t, s.tcbPriority t ≤ cfg.maxPrio ∧ s.tcbMCP t ≤ cfg.maxPrio ∧ s.tcbDomain t < cfg.numDomains ∧
      PlaceInside cfg (s.tcbDomain t) (s.tcbPriority t)) ∧
    s.ksCurDomain < cfg.numDomains ∧
    ∀ es, eventsLegal cfg es s → (handleEvents cfg es s).maxMCP ≤ s.maxMCP ∧
      ∀ t, (handleEvents cfg es s).tcbPriority t = s.tcbPriority t ∨ (handleEvents cfg es s).tcbPriority t ≤
      s.maxMCP := by
  have hb := h.bounded
  refine ⟨fun t => ⟨hb.priority t, hb.mcp t, hb.domain t, placeInside (hb.domain t) (hb.priority t)⟩,
    h.scheduleOk.1.curDomain, fun es hes => ?_⟩
  have hs := handleEvents_steps hes
  exact ⟨hs.maxMCP_le, fun t => hs.priority_le t⟩

/-- The run that binds late. -/
theorem priorities_bounded_qemu :
    (handleEvents qemuConfig lateBinding ((Kernel.boot qemuConfig 1 2 3 4 5).exitKernel qemuConfig)).maxMCP ≤
      ((Kernel.boot qemuConfig 1 2 3 4 5).exitKernel qemuConfig).maxMCP :=
  ((priorities_bounded reachable_qemu).2.2 lateBinding lateBinding_legal).1

end NexsKernel.Mcs
