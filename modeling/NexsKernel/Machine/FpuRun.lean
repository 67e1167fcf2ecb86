import NexsKernel.Machine.Fpu

/-!
# The owner of the floating point unit

The registers hold the state of the owner, and the state of every other thread is in its TCB. The current thread
is ready to return to user level unless the scheduler is going to switch.
-/

namespace NexsKernel.Fpu

open Mcs (TcbPtr Word SchedulerAction DSchedule)
open Function (update update_self update_of_ne)

variable {F : Type}

namespace FpuState

variable {s : FpuState F} {ex : TcbPtr → Bool} {last : TcbPtr → F} {t u : TcbPtr}

/-- Every thread has its state, in the registers or in its TCB. -/
structure Kept (s : FpuState F) (ex : TcbPtr → Bool) (last : TcbPtr → F) : Prop where
  owner : ∀ t, s.ksCurFPUOwner = some t → ex t = true
  held : ∀ t, s.ksCurFPUOwner = some t → s.fpuRegisters = last t
  saved : ∀ t, ex t = true → s.ksCurFPUOwner ≠ some t → s.tcbFpuState t = last t

/-- The FPU is as the thread needs it at user level. -/
structure Ready (s : FpuState F) (t : TcbPtr) : Prop where
  disabled : s.fpuDisabled t = true → s.fpuEnabled = false
  enabled : s.fpuDisabled t = false → s.fpuEnabled = true ∧ s.ksCurFPUOwner = some t

/-- The owner may use the FPU. -/
def OwnerEnabled (s : FpuState F) : Prop :=
  ∀ t, s.ksCurFPUOwner = some t → s.fpuDisabled t = false

/-! ## Switching -/

/-- The state of the owner, saved with that of the others. -/
lemma Kept.save (h : s.Kept ex last) (ht : ex t = true) :
    (match s.ksCurFPUOwner with
      | some owner => s.saveFpuState owner
      | none => s).tcbFpuState t = last t := by
  cases e : s.ksCurFPUOwner with
  | none => exact h.saved t ht (by simp [e])
  | some owner =>
    show update s.tcbFpuState owner s.fpuRegisters t = last t
    by_cases ho : t = owner
    · rw [ho, update_self]
      exact h.held owner e
    · rw [update_of_ne ho]
      exact h.saved t ht (by simpa [e] using fun e' => ho e'.symm)

lemma switchLocalFpuOwner_flags (o : Option TcbPtr) : (s.switchLocalFpuOwner o).tcbFlags = s.tcbFlags := by
  obtain ⟨enabled, registers, owner, saved, flags⟩ := s
  cases owner <;> cases o <;> rfl

lemma switchLocalFpuOwner_owner (o : Option TcbPtr) : (s.switchLocalFpuOwner o).ksCurFPUOwner = o := by
  unfold switchLocalFpuOwner
  rfl

lemma switchLocalFpuOwner_disabled (o : Option TcbPtr) : (s.switchLocalFpuOwner o).fpuDisabled t = s.fpuDisabled t := by
  unfold fpuDisabled
  rw [switchLocalFpuOwner_flags]

lemma switchLocalFpuOwner_some_enabled : (s.switchLocalFpuOwner (some t)).fpuEnabled = true := by
  obtain ⟨enabled, registers, owner, saved, flags⟩ := s
  cases owner <;> rfl

lemma Kept.switchLocalFpuOwner (h : s.Kept ex last) {o : Option TcbPtr} (ho : ∀ t, o = some t → ex t = true) :
    (s.switchLocalFpuOwner o).Kept ex last := by
  have hs : s.enableFpu.Kept ex last := ⟨h.owner, h.held, h.saved⟩
  refine ⟨fun t e => ho t e, fun t e => ?_, fun t ht _ => ?_⟩
  · obtain rfl : o = some t := e
    exact hs.save (ho t rfl)
  · cases o with
    | none => exact hs.save ht
    | some _ => exact hs.save ht

/-! ## Release -/

lemma Kept.fpuRelease (h : s.Kept ex last) : (s.fpuRelease t).Kept ex last := by
  unfold FpuState.fpuRelease
  split
  · exact h.switchLocalFpuOwner nofun
  · exact h

lemma fpuRelease_flags : (s.fpuRelease t).tcbFlags = s.tcbFlags := by
  unfold fpuRelease
  split
  · exact switchLocalFpuOwner_flags none
  · rfl

lemma fpuRelease_disabled : (s.fpuRelease t).fpuDisabled u = s.fpuDisabled u := by
  unfold fpuDisabled
  rw [fpuRelease_flags]

/-- Nobody else becomes the owner. -/
lemma fpuRelease_owner (h : (s.fpuRelease t).ksCurFPUOwner = some u) : s.ksCurFPUOwner = some u ∧ u ≠ t := by
  unfold fpuRelease nativeThreadUsingFPU at h
  split at h
  · cases h
  · rename_i hne
    refine ⟨h, fun e => hne ?_⟩
    rw [← e]
    exact decide_eq_true h

lemma OwnerEnabled.fpuRelease (h : s.OwnerEnabled) : (s.fpuRelease t).OwnerEnabled := by
  intro u e
  rw [fpuRelease_disabled]
  exact h u (fpuRelease_owner e).1

/-- The release of another thread leaves a thread ready. -/
lemma Ready.fpuRelease (h : s.Ready u) (hne : u ≠ t) : (s.fpuRelease t).Ready u := by
  unfold FpuState.fpuRelease nativeThreadUsingFPU
  split
  · rename_i e
    have e : s.ksCurFPUOwner = some t := of_decide_eq_true e
    have hd : s.fpuDisabled u = true := by
      by_contra hd
      have ho := (h.enabled (Bool.eq_false_of_not_eq_true hd)).2
      exact hne (Option.some.inj (ho.symm.trans e))
    refine ⟨fun _ => rfl, fun he => ?_⟩
    rw [switchLocalFpuOwner_disabled, hd] at he
    cases he
  · exact h

/-- A thread that may not use the FPU is ready once it has released it. -/
lemma ready_fpuRelease (hd : s.fpuDisabled t = true) (h : s.ksCurFPUOwner ≠ some t → s.fpuEnabled = false) :
    (s.fpuRelease t).Ready t := by
  refine ⟨fun _ => ?_, fun he => ?_⟩
  · unfold fpuRelease nativeThreadUsingFPU
    split
    · rfl
    · rename_i hne
      exact h fun e => hne (decide_eq_true e)
  · rw [fpuRelease_disabled, hd] at he
    cases he

/-! ## Restoring -/

lemma Kept.lazyFPURestore (h : s.Kept ex last) (ht : ex t = true) : (s.lazyFPURestore t).Kept ex last := by
  unfold FpuState.lazyFPURestore
  split
  · exact ⟨h.owner, h.held, h.saved⟩
  · split
    · exact ⟨h.owner, h.held, h.saved⟩
    · exact h.switchLocalFpuOwner fun u e => Option.some.inj e ▸ ht

lemma OwnerEnabled.lazyFPURestore (h : s.OwnerEnabled) : (s.lazyFPURestore t).OwnerEnabled := by
  unfold FpuState.lazyFPURestore
  split
  · exact h
  · rename_i hd
    split
    · exact h
    · intro u e
      rw [switchLocalFpuOwner_owner] at e
      rw [switchLocalFpuOwner_disabled, ← Option.some.inj e]
      exact Bool.eq_false_of_not_eq_true hd

/-- Restoring makes a thread ready. -/
lemma ready_lazyFPURestore : (s.lazyFPURestore t).Ready t := by
  unfold lazyFPURestore
  split
  · rename_i hd
    refine ⟨fun _ => rfl, fun he => ?_⟩
    change s.fpuDisabled t = false at he
    rw [hd] at he
    cases he
  · rename_i hd
    split
    · rename_i ho
      exact ⟨fun he => absurd he hd, fun _ => ⟨rfl, of_decide_eq_true ho⟩⟩
    · refine ⟨fun he => ?_, fun _ => ⟨switchLocalFpuOwner_some_enabled, rfl⟩⟩
      rw [switchLocalFpuOwner_disabled] at he
      exact absurd he hd

end FpuState

/-! ## The invariant -/

namespace Core

variable {s : Core F} {t : TcbPtr} {init : F}

/-- What holds whenever the kernel is not inside `switchLocalFpuOwner`. -/
structure Inv (s : Core F) : Prop where
  idle : s.tcbExists s.ksIdleThread = false
  schedulable : ∀ t, s.isSchedulable t = true → s.tcbExists t = true
  kept : s.Kept s.tcbExists s.lastState
  ownerEnabled : s.OwnerEnabled
  current : s.ksSchedulerAction = .resumeCurrentThread → s.ksCurThread ≠ s.ksIdleThread →
    s.tcbExists s.ksCurThread = true ∧ s.Ready s.ksCurThread

lemma Inv.rescheduleRequired (h : s.Inv) : s.rescheduleRequired.Inv :=
  ⟨h.idle, h.schedulable, h.kept, h.ownerEnabled, nofun⟩

lemma Inv.scheduleTCB (h : s.Inv) : (s.scheduleTCB t).Inv := by
  unfold Core.scheduleTCB
  split
  · exact h.rescheduleRequired
  · exact h

lemma Inv.setSchedulable (h : s.Inv) {b : Bool} (ht : b = true → s.tcbExists t = true) :
    ({ s with isSchedulable := update s.isSchedulable t b } : Core F).Inv := by
  refine ⟨h.idle, fun u hu => ?_, h.kept, h.ownerEnabled, h.current⟩
  change update s.isSchedulable t b u = true at hu
  by_cases e : u = t
  · rw [e, update_self] at hu
    exact e ▸ ht hu
  · rw [update_of_ne e] at hu
    exact h.schedulable u hu

lemma Inv.setThreadState (h : s.Inv) {b : Bool} (ht : b = true → s.tcbExists t = true) : (s.setThreadState t b).Inv :=
  (h.setSchedulable ht).scheduleTCB

lemma Inv.possibleSwitchTo (h : s.Inv) : (s.possibleSwitchTo t).Inv := by
  unfold Core.possibleSwitchTo
  split
  · exact h
  · split
    · exact h.rescheduleRequired
    · exact ⟨h.idle, h.schedulable, h.kept, h.ownerEnabled, nofun⟩

/-- A release of the FPU keeps the invariant when the thread is not the one that is going to return. -/
lemma Inv.fpuRelease (h : s.Inv) (ht : s.ksSchedulerAction = .resumeCurrentThread → s.ksCurThread ≠ t) :
    (s.onFpu (·.fpuRelease t)).Inv :=
  ⟨h.idle, h.schedulable, h.kept.fpuRelease, h.ownerEnabled.fpuRelease,
    fun ha hi => (h.current ha hi).imp_right (·.fpuRelease (ht ha))⟩

/-- The domain of the current thread is only set with a reschedule to come. -/
lemma Inv.domainSet (h : s.Inv) {dom : Nat} : (s.invokeDomainSetSet t dom).Inv := by
  unfold invokeDomainSetSet prepareSetDomain setDomain
  split
  · extract_lets s1
    split
    · exact ⟨h.idle, h.schedulable, h.kept.fpuRelease, h.ownerEnabled.fpuRelease, nofun⟩
    · rename_i hne
      exact ⟨h.idle, h.schedulable, h.kept.fpuRelease, h.ownerEnabled.fpuRelease,
        fun ha hi => (h.current ha hi).imp_right (·.fpuRelease (Ne.symm hne))⟩
  · extract_lets s1
    split
    · exact ⟨h.idle, h.schedulable, h.kept, h.ownerEnabled, nofun⟩
    · exact ⟨h.idle, h.schedulable, h.kept, h.ownerEnabled, h.current⟩

/-- The flags of a thread after a store. -/
lemma fpuDisabled_update {s : FpuState F} {t u : TcbPtr} {flags : Word} :
    ({ s with tcbFlags := update s.tcbFlags t flags } : FpuState F).fpuDisabled u =
      if u = t then decide (flags &&& tcbFlagFpuDisabled ≠ 0) else s.fpuDisabled u := by
  show decide (update s.tcbFlags t flags u &&& tcbFlagFpuDisabled ≠ 0) = _
  split
  · rename_i e
    rw [e, update_self]
  · rename_i e
    rw [update_of_ne e]
    rfl

/-- The flags of a thread change, and the FPU is released or restored. -/
lemma Inv.setFlags (h : s.Inv) (ht : s.tcbExists t = true) {clear set : Word} : (s.invokeSetFlags t clear set).Inv := by
  unfold invokeSetFlags
  extract_lets flags s1 s2
  have hd : ∀ u, s1.fpuDisabled u = if u = t then decide (flags &&& tcbFlagFpuDisabled ≠ 0) else s.fpuDisabled u :=
    fun u => fpuDisabled_update
  have kept : s1.Kept s1.tcbExists s1.lastState := ⟨h.kept.owner, h.kept.held, h.kept.saved⟩
  -- the flags of the other threads are what they were
  have other : ∀ u, u ≠ t → s.Ready u → s1.Ready u := by
    intro u hne hr
    refine ⟨fun he => hr.disabled ?_, fun he => hr.enabled ?_⟩
    · rwa [hd u, if_neg hne] at he
    · rwa [hd u, if_neg hne] at he
  have inv : s2.Inv := by
    unfold s2
    split
    · rename_i hf
      have hdt : s1.fpuDisabled t = true := by rw [hd t, if_pos rfl, decide_eq_true hf]
      refine ⟨h.idle, h.schedulable, kept.fpuRelease, fun u e => ?_, fun ha hi => ?_⟩
      · obtain ⟨e, hne⟩ := FpuState.fpuRelease_owner e
        show (s1.toFpuState.fpuRelease t).fpuDisabled u = false
        rw [FpuState.fpuRelease_disabled, hd u, if_neg hne]
        exact h.ownerEnabled u e
      · obtain ⟨he, hr⟩ := h.current ha hi
        refine ⟨he, ?_⟩
        by_cases hc : s.ksCurThread = t
        · show (s1.toFpuState.fpuRelease t).Ready s.ksCurThread
          rw [hc] at hr ⊢
          refine FpuState.ready_fpuRelease hdt fun hno => ?_
          cases hb : s.fpuDisabled t with
          | true => exact hr.disabled hb
          | false => exact absurd (hr.enabled hb).2 hno
        · exact (other _ hc hr).fpuRelease hc
    · rename_i hf
      have owner : s1.OwnerEnabled := by
        intro u e
        rw [hd u]
        split
        · exact decide_eq_false hf
        · exact h.ownerEnabled u e
      split
      · rename_i hc
        refine ⟨h.idle, h.schedulable, kept.lazyFPURestore ht, owner.lazyFPURestore, fun ha hi =>
          ⟨(h.current ha hi).1, ?_⟩⟩
        show (s1.toFpuState.lazyFPURestore t).Ready s.ksCurThread
        rw [show s.ksCurThread = t from hc.symm]
        exact FpuState.ready_lazyFPURestore
      · rename_i hc
        exact ⟨h.idle, h.schedulable, kept, owner, fun ha hi => (h.current ha hi).imp_right (other _ (Ne.symm hc))⟩
  refine inv.setThreadState fun hb => inv.schedulable _ hb

lemma scheduleTCB_action (hs : s.isSchedulable t = false)
    (ha : (s.scheduleTCB t).ksSchedulerAction = .resumeCurrentThread) : (s.scheduleTCB t).ksCurThread ≠ t := by
  unfold Core.scheduleTCB at ha ⊢
  split at ha
  · cases ha
  · rename_i hn
    rw [if_neg hn]
    exact fun e => hn ⟨e.symm, ha, hs⟩

lemma scheduleTCB_schedulable : (s.scheduleTCB t).isSchedulable = s.isSchedulable := by
  unfold Core.scheduleTCB
  split <;> rfl

/-- A thread that is deleted does not own the FPU any more. -/
lemma Inv.delete (h : s.Inv) (ht : s.tcbExists t = true) : (s.deleteThread t).Inv := by
  unfold deleteThread
  extract_lets s1 s2
  have h1 : s1.Inv := h.setThreadState nofun
  have hs0 : update s.isSchedulable t false t = false := update_self t false s.isSchedulable
  have hs : s1.isSchedulable t = false := by
    show (Core.scheduleTCB _ t).isSchedulable t = false
    rw [scheduleTCB_schedulable]
    exact hs0
  have hcur : s1.ksSchedulerAction = .resumeCurrentThread → s1.ksCurThread ≠ t := scheduleTCB_action hs0
  have h2 : s2.Inv := h1.fpuRelease hcur
  have owner : ∀ u, s2.ksCurFPUOwner = some u → u ≠ t := fun u e => (FpuState.fpuRelease_owner e).2
  have ex : ∀ u, update s2.tcbExists t false u = true → s2.tcbExists u = true := by
    intro u hu
    by_cases e : u = t
    · rw [e, update_self] at hu
      exact absurd hu Bool.false_ne_true
    · rwa [update_of_ne e] at hu
  have keep : ∀ u, u ≠ t → s2.tcbExists u = true → update s2.tcbExists t false u = true := by
    intro u hne hu
    rwa [update_of_ne hne]
  refine ⟨?_, fun u hu => ?_, ⟨fun u e => ?_, h2.kept.held, fun u hu => h2.kept.saved u (ex u hu)⟩, h2.ownerEnabled,
    fun ha hi => (h2.current ha hi).imp_left (keep _ (hcur ha))⟩
  · exact Bool.eq_false_of_not_eq_true fun e => absurd (ex _ e) (by rw [h2.idle]; exact Bool.false_ne_true)
  · refine keep u ?_ (h2.schedulable u hu)
    rintro rfl
    exact absurd (hs.symm.trans hu) Bool.false_ne_true
  · exact keep u (owner u e) (h2.kept.owner u e)

/-- A new thread has the initial state. -/
lemma Inv.create (h : s.Inv) (ht : s.tcbExists t = false) (hi : t ≠ s.ksIdleThread) : (s.createThread init t).Inv := by
  have hown : ∀ u, s.ksCurFPUOwner = some u → u ≠ t := by
    rintro u e rfl
    rw [h.kept.owner u e] at ht
    cases ht
  have hd : ∀ u, u ≠ t → (s.createThread init t).fpuDisabled u = s.fpuDisabled u := by
    intro u hne
    show (update s.tcbFlags t 0 u &&& tcbFlagFpuDisabled ≠ 0 : Bool) = s.fpuDisabled u
    rw [update_of_ne hne]
    rfl
  refine ⟨?_, fun u hu => ?_, ⟨fun u e => ?_, fun u e => ?_, fun u hu hno => ?_⟩, fun u e => ?_, fun ha hc => ?_⟩
  · show update s.tcbExists t true s.ksIdleThread = false
    rw [update_of_ne (Ne.symm hi)]
    exact h.idle
  · change update s.isSchedulable t false u = true at hu
    show update s.tcbExists t true u = true
    by_cases e : u = t
    · rw [e, update_self]
    · rw [update_of_ne e] at hu ⊢
      exact h.schedulable u hu
  · show update s.tcbExists t true u = true
    rw [update_of_ne (hown u e)]
    exact h.kept.owner u e
  · show s.fpuRegisters = update s.lastState t init u
    rw [update_of_ne (hown u e)]
    exact h.kept.held u e
  · show update s.tcbFpuState t init u = update s.lastState t init u
    by_cases e : u = t
    · rw [e, update_self, update_self]
    · change update s.tcbExists t true u = true at hu
      rw [update_of_ne e] at hu
      rw [update_of_ne e, update_of_ne e]
      exact h.kept.saved u hu hno
  · rw [hd u (hown u e)]
    exact h.ownerEnabled u e
  · obtain ⟨he, hr⟩ := h.current ha hc
    have hne : s.ksCurThread ≠ t := by
      intro e
      rw [e, ht] at he
      exact absurd he Bool.false_ne_true
    refine ⟨?_, fun hb => hr.disabled ?_, fun hb => hr.enabled ?_⟩
    · show update s.tcbExists t true s.ksCurThread = true
      rw [update_of_ne hne]
      exact he
    · exact (hd _ hne).symm.trans hb
    · exact (hd _ hne).symm.trans hb

/-! ## Scheduling -/

/-- A switch makes the thread ready, whatever the scheduler had in mind. -/
lemma Inv.switchToThread (h : s.Inv) (ht : s.tcbExists t = true) : (s.switchToThread t).Inv :=
  ⟨h.idle, h.schedulable, h.kept.lazyFPURestore ht, h.ownerEnabled.lazyFPURestore,
    fun _ _ => ⟨ht, FpuState.ready_lazyFPURestore⟩⟩

lemma Inv.switchToIdleThread (h : s.Inv) : s.switchToIdleThread.Inv :=
  ⟨h.idle, h.schedulable, h.kept, h.ownerEnabled, fun _ hi => absurd rfl hi⟩

lemma Inv.chooseThread (h : s.Inv) {thread : Option TcbPtr} (ht : ∀ t, thread = some t → s.isSchedulable t = true) :
    (s.chooseThread thread).Inv := by
  cases thread with
  | none => exact h.switchToIdleThread
  | some t => exact h.switchToThread (h.schedulable t (ht t rfl))

/-- Between domains nobody owns the FPU, and no thread may return. -/
lemma Inv.nextDomain (h : s.Inv) (ha : s.ksSchedulerAction ≠ .resumeCurrentThread) {entry : DSchedule} :
    (s.prepareNextDomain.nextDomain entry).Inv := by
  have hk : (s.switchLocalFpuOwner none).Kept s.tcbExists s.lastState := h.kept.switchLocalFpuOwner nofun
  exact ⟨h.idle, h.schedulable, ⟨hk.owner, hk.held, hk.saved⟩, nofun, fun e => absurd e ha⟩

lemma Inv.scheduleChooseNewThread (h : s.Inv) (ha : s.ksSchedulerAction ≠ .resumeCurrentThread) {c : Choice}
    (hc : ∀ t, c.thread = some t → s.isSchedulable t = true) : (s.scheduleChooseNewThread c).Inv := by
  unfold Core.scheduleChooseNewThread
  split
  · exact (h.nextDomain ha).chooseThread hc
  · exact h.chooseThread hc

lemma Inv.checkDomainTime (h : s.Inv) {c : Choice} : (s.checkDomainTime c).Inv := by
  unfold Core.checkDomainTime
  split
  · exact h.rescheduleRequired
  · exact h

lemma checkDomainTime_schedulable {c : Choice} : (s.checkDomainTime c).isSchedulable = s.isSchedulable := by
  unfold Core.checkDomainTime
  split <;> rfl

/-- The current thread exists and is ready, if it is a thread of the user. -/
def CurrentReady (s : Core F) : Prop :=
  s.ksCurThread ≠ s.ksIdleThread → s.tcbExists s.ksCurThread = true ∧ s.Ready s.ksCurThread

lemma Inv.chooseThread_ready (h : s.Inv) {thread : Option TcbPtr}
    (ht : ∀ t, thread = some t → s.isSchedulable t = true) : (s.chooseThread thread).CurrentReady := by
  cases thread with
  | none => exact fun hi => absurd rfl hi
  | some t => exact fun _ => ⟨h.schedulable t (ht t rfl), FpuState.ready_lazyFPURestore⟩

lemma Inv.scheduleChooseNewThread_ready (h : s.Inv) (ha : s.ksSchedulerAction ≠ .resumeCurrentThread) {c : Choice}
    (hc : ∀ t, c.thread = some t → s.isSchedulable t = true) : (s.scheduleChooseNewThread c).CurrentReady := by
  unfold Core.scheduleChooseNewThread
  split
  · exact (h.nextDomain ha).chooseThread_ready hc
  · exact h.chooseThread_ready hc

/-- The thread that is chosen finds the FPU ready. -/
lemma Inv.schedule (h : s.Inv) {c : Choice} (hc : s.ChoiceLegal c) : (s.schedule c).Inv := by
  unfold Core.schedule
  extract_lets s1 s2
  have h1 : s1.Inv := h.checkDomainTime
  have hc1 : ∀ t, c.thread = some t → s1.isSchedulable t = true := by
    unfold s1
    rw [checkDomainTime_schedulable]
    exact hc.1
  have h2 : s2.Inv ∧ s2.CurrentReady := by
    unfold s2
    split
    · rename_i e
      exact ⟨h1, h1.current e⟩
    · rename_i e
      have ha : s1.ksSchedulerAction ≠ .resumeCurrentThread := by simp [e]
      exact ⟨h1.scheduleChooseNewThread ha hc1, h1.scheduleChooseNewThread_ready ha hc1⟩
    · rename_i candidate e
      have ha : s1.ksSchedulerAction ≠ .resumeCurrentThread := by simp [e]
      split
      · exact ⟨h1.scheduleChooseNewThread ha hc1, h1.scheduleChooseNewThread_ready ha hc1⟩
      · have he : s1.tcbExists candidate = true := by
          refine h1.schedulable candidate ?_
          unfold s1
          rw [checkDomainTime_schedulable]
          exact hc.2 candidate e
        exact ⟨h1.switchToThread he, fun _ => ⟨he, FpuState.ready_lazyFPURestore⟩⟩
  exact ⟨h2.1.idle, h2.1.schedulable, h2.1.kept, h2.1.ownerEnabled, fun _ => h2.2⟩

lemma Inv.fastpathSwitch (h : s.Inv) (ht : s.tcbExists t = true) : (s.fastpathSwitch t).Inv := by
  have h1 : ({ s with isSchedulable := update s.isSchedulable s.ksCurThread false } : Core F).Inv :=
    h.setSchedulable nofun
  exact (h1.setSchedulable fun _ => ht).switchToThread ht

/-! ## Runs -/

/-- The user writes the registers only as their owner. -/
lemma Inv.run (h : s.Inv) (ha : s.ksSchedulerAction = .resumeCurrentThread) {regs : F} : (s.run regs).Inv := by
  unfold Core.run
  split
  · rename_i hu
    obtain ⟨hi, hen⟩ := hu
    obtain ⟨he, hr⟩ := h.current ha hi
    have hown : s.ksCurFPUOwner = some s.ksCurThread := by
      refine (hr.enabled (Bool.eq_false_of_not_eq_true fun hd => ?_)).2
      rw [hr.disabled hd] at hen
      cases hen
    refine ⟨h.idle, h.schedulable, ⟨h.kept.owner, fun u e => ?_, fun u hu hno => ?_⟩, h.ownerEnabled,
      fun _ _ => ⟨he, hr.disabled, hr.enabled⟩⟩
    · obtain rfl : s.ksCurThread = u := Option.some.inj (hown.symm.trans e)
      exact (update_self s.ksCurThread regs s.lastState).symm
    · show s.tcbFpuState u = update s.lastState s.ksCurThread regs u
      rw [update_of_ne fun e : u = s.ksCurThread => hno (e ▸ hown)]
      exact h.kept.saved u hu hno
  · exact h

lemma run_action {regs : F} : (s.run regs).ksSchedulerAction = s.ksSchedulerAction := by
  unfold Core.run
  split <;> rfl

lemma boot_inv {regs : F} {enabled : Bool} {idle root : TcbPtr} (hne : idle ≠ root) :
    (Core.boot init regs enabled idle root).Inv :=
  ⟨beq_false_of_ne hne, fun _ h => h, ⟨nofun, nofun, fun _ _ _ => rfl⟩, nofun, nofun⟩

end Core

/-- The invariant holds in every run. -/
lemma Reachable.inv {init : F} {m : Mode} {s : Core F} (h : Reachable init m s) :
    s.Inv ∧ (m = .user → s.ksSchedulerAction = .resumeCurrentThread) := by
  induction h with
  | boot hne => exact ⟨Core.boot_inv hne, nofun⟩
  | run _ ih => exact ⟨ih.1.run (ih.2 rfl), fun _ => Core.run_action.trans (ih.2 rfl)⟩
  | enter _ ih => exact ⟨ih.1, nofun⟩
  | setThreadState _ ht ih => exact ⟨ih.1.setThreadState fun _ => ht, nofun⟩
  | possibleSwitchTo _ _ ih => exact ⟨ih.1.possibleSwitchTo, nofun⟩
  | rescheduleRequired _ ih => exact ⟨ih.1.rescheduleRequired, nofun⟩
  | time _ ih => exact ⟨⟨ih.1.idle, ih.1.schedulable, ih.1.kept, ih.1.ownerEnabled, ih.1.current⟩, nofun⟩
  | setFlags _ ht ih => exact ⟨ih.1.setFlags ht, nofun⟩
  | domainSet _ _ ih => exact ⟨ih.1.domainSet, nofun⟩
  | create _ ht hi ih => exact ⟨ih.1.create ht hi, nofun⟩
  | delete _ ht ih => exact ⟨ih.1.delete ht, nofun⟩
  | schedule _ hc ih => exact ⟨ih.1.schedule hc, fun _ => rfl⟩
  | resume _ ha ih => exact ⟨ih.1, fun _ => ha⟩
  | fastpath _ ha ht ih => exact ⟨ih.1.fastpathSwitch ht, fun _ => ha⟩

/-- Nothing but the action of the scheduler decides. -/
def resume : Choice :=
  ⟨false, false, none, ⟨0, 0⟩⟩

end NexsKernel.Fpu
