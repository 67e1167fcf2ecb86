import NexsKernel.Mcs.ObjEntry

/-!
# Runs of the kernel

The invariant of the objects holds after booting and after every entry of the kernel.
-/

namespace NexsKernel.Mcs

open Function (update update_apply)

namespace Kernel

variable (cfg : KernelConfig) (s : Kernel)

/-- What holds of threads and objects when the kernel returns to the user. -/
structure Settled (s : Kernel) : Prop where
  inv : s.ObjInv []
  cur : s.halted = false → s.tsType s.ksCurThread = .running ∨ s.ksCurThread = s.ksIdleThread

/-- A budget check that succeeds changes nothing. -/
lemma checkBudgetRestart_same (h : (s.checkBudgetRestart cfg).2 = true) :
    SameObjects s (s.checkBudgetRestart cfg).1 := by
  unfold checkBudgetRestart at h ⊢
  extract_lets s1 r s2 at h ⊢
  have hr : r.2 = true := by
    split at h <;> exact h
  have e : r = s1.checkBudget cfg := rfl
  have h2 : SameObjects s s2 := by
    unfold s2
    rw [e] at hr ⊢
    unfold checkBudget at hr ⊢
    extract_lets s3 at hr ⊢
    split at hr
    · rename_i hsuff
      rw [if_pos hsuff]
      exact ⟨⟨rfl, rfl, rfl⟩, rfl⟩
    · cases hr
  rw [if_neg (by simp [hr])]
  exact h2

/-- The thread that runs after the kernel has returned. -/
lemma activateThread_cur {s : Kernel} (h : s.ObjInv []) (hh : (s.activateThread cfg).halted = false) :
    (s.activateThread cfg).tsType (s.activateThread cfg).ksCurThread = .running ∨
      (s.activateThread cfg).ksCurThread = (s.activateThread cfg).ksIdleThread := by
  have h' : (s.activateThread cfg).ObjInv [] := h.activateThread
  revert hh h'
  unfold activateThread
  extract_lets s1 s2
  split
  · rename_i hts
    exact fun _ _ => .inl hts
  · rename_i hts
    exact fun _ h' => .inr ((h'.alive.idle _).mp hts)
  · intro _ _
    left
    have e : (s2.setThreadState s2.ksCurThread .running).ksCurThread = s2.ksCurThread :=
      (s2.setThreadState_calm (by simp)).cur
    rw [e]
    exact s2.setThreadState_self _ _
  · exact fun hh => by cases hh

end Kernel

namespace ObjInv

variable {cfg : KernelConfig} {s : Kernel}

lemma exitKernel (h : s.ObjInv []) : (s.exitKernel cfg).Settled :=
  ⟨h.schedule.activateThread, Kernel.activateThread_cur cfg h.schedule⟩

lemma ifBudget {now} {block : Kernel → Kernel} (h : s.ObjInv [])
    (hb : ∀ s' : Kernel, s'.SameObjects s → s'.ObjInv [] → s' = ((s.updateTimestamp cfg now).checkBudgetRestart cfg).1 →
      ((s.updateTimestamp cfg now).checkBudgetRestart cfg).2 = true → (block s').ObjInv []) :
    (s.ifBudget cfg now block).ObjInv [] := by
  unfold Kernel.ifBudget
  extract_lets s1 r
  have e1 := s.updateTimestamp_same cfg now
  have h1 : r.1.ObjInv [] := (h.same e1.toSameObj).checkBudgetRestart
  split
  · rename_i hr
    have e2 := e1.trans (Kernel.checkBudgetRestart_same cfg _ hr)
    exact hb r.1 ⟨⟨e2.obj.symm, e2.params.symm, e2.signals.symm⟩, e2.cur.symm⟩ h1 rfl hr
  · exact h1

/-- Nothing is queued and no reply object is used before the first thread runs. -/
lemma zeroKernel {idle root : TcbPtr} {idleSC rootSC : ScPtr} {ts : TcbPtr → ThreadState} (prio : TcbPtr → Nat)
    (ht : idle ≠ root) (hsc : idleSC ≠ rootSC)
    (hts : ts = update (update (fun _ => .inactive) idle .idleThreadState) root .running) :
    Kernel.ObjInv { Mcs.zeroKernel idle root idleSC rootSC with
      tsType := ts
      tcbPriority := prio
      tcbSchedContext := update (update (fun _ => none) idle (some idleSC)) root (some rootSC)
      scTcb := update (update (fun _ => none) idleSC (some idle)) rootSC (some root) } [] := by
  have hw : ∀ t, ts t = .running ∨ ts t = .idleThreadState ∨ ts t = .inactive := by
    intro t
    rw [hts, update_apply, update_apply]
    grind
  refine ⟨⟨fun _ => [], ⟨fun w => ?_, fun w t => ?_, fun _ => .nil, nofun⟩, ⟨fun _ => ?_, nofun, nofun, fun _ => ?_⟩⟩,
    ⟨fun _ _ => iff_of_false nofun nofun, fun _ _ => iff_of_false nofun nofun, ⟨fun _ => ⟨_, nofun⟩⟩⟩,
    ⟨fun r t => ?_, fun t e => ?_⟩, fun r e => ?_,
    ⟨fun t c => ?_, fun _ _ => iff_of_false nofun nofun, fun _ _ => iff_of_false nofun nofun,
      fun _ _ => iff_of_false nofun nofun⟩,
    ⟨fun t e hi => ?_, fun _ _ => rfl, fun _ _ => rfl, fun _ _ => rfl, fun _ _ => rfl, fun c e hi => ?_,
      fun _ _ => rfl, fun _ _ => rfl, ?_, ?_, ?_⟩,
    ⟨fun t e hi => ?_, fun t => ?_, fun _ _ => rfl, fun _ _ => nofun, fun _ _ => rfl, fun _ _ => rfl⟩,
    fun t _ e => absurd rfl e, fun t cap e => ?_⟩
  · cases w <;> exact Queue.Rep.nil _
  · refine iff_of_false (by simp) ?_
    rintro ⟨e, -⟩
    revert e
    unfold IpcState.waitsAt
    dsimp only
    rcases hw t with e | e | e <;> rw [e] <;> simp
  · exact iff_of_true rfl rfl
  · exact iff_of_false nofun (by simp)
  · exact iff_of_false nofun (by rcases hw t with e | e | e <;> simp [e])
  · rcases hw t with e' | e' | e' <;> simp [e'] at e
  · exact (e.elim (fun e => e rfl) fun e => e rfl).elim
  · simp only [update_apply]
    grind
  · have htr : t ≠ root := by simpa [Mcs.zeroKernel] using e
    have hti : t ≠ idle := hi
    simp only [update_apply]
    rw [if_neg htr, if_neg hti]
  · have hcr : c ≠ rootSC := by simpa [Mcs.zeroKernel] using e
    have hci : c ≠ idleSC := hi
    simp only [update_apply]
    rw [if_neg hcr, if_neg hci]
  · simp only [update_apply, Mcs.zeroKernel]
    rw [if_neg ht, if_pos trivial]
  · simp [Mcs.zeroKernel, ht]
  · simp [Mcs.zeroKernel, hsc]
  · have htr : t ≠ root := by simpa [Mcs.zeroKernel] using e
    have hti : t ≠ idle := hi
    rw [hts]
    simp only [update_apply]
    rw [if_neg htr, if_neg hti]
  · rw [hts]
    simp only [update_apply, Mcs.zeroKernel]
    grind
  · rcases e with e | e <;> cases e

lemma boot {idle root : TcbPtr} {idleSC rootSC : ScPtr} {now : Nat} (ht : idle ≠ root) (hsc : idleSC ≠ rootSC) :
    (Kernel.boot cfg idle root idleSC rootSC now).ObjInv [] := by
  have config : ∀ (s : Kernel) t sc, Kernel.SameObjects { s with
      tcbSchedContext := update s.tcbSchedContext t (some sc)
      scTcb := update s.scTcb sc (some t) } (s.configureSchedContext cfg t sc) := by
    intro s t sc
    unfold Kernel.configureSchedContext
    extract_lets s1 s2
    have e : s1.SameObjects s2 := s1.setSchedContext_same sc _
    obtain ⟨r, c, n, u, f, e'⟩ := e.exists_eq
    have hc := e.cur
    rw [e'] at hc ⊢
    exact ⟨⟨rfl, rfl, rfl⟩, hc⟩
  unfold Kernel.boot Kernel.createInitialThread Kernel.createIdleThread
  extract_lets s1 s2 s3
  have e1 := config ((Mcs.zeroKernel idle root idleSC rootSC).setTsType idle .idleThreadState) idle idleSC
  have e2 := config s1 root rootSC
  change Kernel.SameObjects _ s1 at e1
  change Kernel.SameObjects _ s2 at e2
  have hz := zeroKernel (update (fun _ => 0) root cfg.maxPrio) ht hsc rfl
  have ho : s3.toObjState = { s2.toObjState with
      tsType := update s2.toObjState.tsType root .running
      tcbPriority := update s2.toObjState.tcbPriority root cfg.maxPrio } := rfl
  rw [e2.obj] at ho
  have ho1 := e1.obj
  have hp : s3.tcbFaultHandler = s2.toThreadParams.tcbFaultHandler ∧
    s3.tcbTimeoutHandler = s2.toThreadParams.tcbTimeoutHandler := ⟨rfl, rfl⟩
  rw [e2.params] at hp
  have hp1 := e1.params
  show Mcs.ObjInv s3.toObjState s3.toThreadParams []
  rw [ho]
  clear_value s1 s2 s3
  clear config e1 e2 ho
  obtain ⟨o1, q1, p1, c1, n1, u1, g1⟩ := s1
  cases ho1
  cases hp1
  refine { hz with handlers := fun t cap e => ?_ }
  rw [hp.1, hp.2] at e
  rcases e with e | e <;> cases e

/-- Each kernel entry keeps the invariant. -/
lemma handleEvent {e : Event} (h : s.Settled) (hh : s.halted = false) (he : e.Legal cfg s) :
    (s.handleEvent cfg e).Settled := by
  -- the current thread can run, unless it is the idle thread
  have hrun : s.ksCurThread ≠ s.ksIdleThread → s.isRunnable s.ksCurThread = true := by
    intro hne
    have := (h.cur hh).resolve_right hne
    simp [Kernel.isRunnable, this, ThreadState.isRunnable]
  have run : ∀ s' : Kernel, s'.SameObjects s → s.ksCurThread ≠ s.ksIdleThread →
      s'.isRunnable s'.ksCurThread = true := by
    intro s' e hne
    rw [← e.cur]
    exact (congrArg (fun o => (o.tsType s.ksCurThread).isRunnable) e.obj).symm.trans (hrun hne)
  cases e with
  | syscall now sys irq =>
    obtain ⟨-, hne, hl⟩ := he
    refine exitKernel (h.inv.ifBudget fun s' e h' hs' hr => h'.performSyscall (run s' e hne) ?_)
    rw [hs']
    exact hl hr
  | fault now f =>
    obtain ⟨-, hne, -⟩ := he
    refine exitKernel (h.inv.ifBudget fun s' e h' _ _ => ?_)
    split
    · exact h'.handleFault (run s' e hne)
    · exact h'
  | setTLSBase now =>
    show (let s1 := s.updateTimestamp cfg now
      let r := s1.checkBudgetRestart cfg
      if r.2 then r.1 else r.1.exitKernel cfg).Settled
    extract_lets s1 r
    have e1 := s.updateTimestamp_same cfg now
    have h1 : r.1.ObjInv [] := (h.inv.same e1.toSameObj).checkBudgetRestart
    split
    · rename_i hr
      have e2 : s.SameObjects r.1 := e1.trans (Kernel.checkBudgetRestart_same cfg _ hr)
      refine ⟨h1, fun _ => ?_⟩
      have hc := h.cur hh
      rw [e2.cur]
      refine hc.imp (fun hc => ?_) fun hc => ?_
      · exact (congrArg (fun o => o.tsType s.ksCurThread) e2.obj).trans hc
      · exact hc.trans (congrArg (fun o => o.ksIdleThread) e2.obj).symm
    · exact h1.exitKernel
  | interrupt now irq =>
    have h1 : ((s.updateTimestamp cfg now).checkBudget cfg).1.ObjInv [] :=
      (h.inv.same (s.updateTimestamp_same cfg now).toSameObj).checkBudget
    exact h1.handleInterrupt.exitKernel

end ObjInv

/-- The invariant of the objects in every reachable state. -/
lemma Reachable.settled {cfg : KernelConfig} {s : Kernel} (h : Reachable cfg s) : s.Settled := by
  induction h with
  | boot ht hsc _ => exact (ObjInv.boot ht hsc).exitKernel
  | step _ hh he ih => exact ObjInv.handleEvent ih hh he

end NexsKernel.Mcs
