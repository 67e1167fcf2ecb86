import NexsKernel.Mcs.Calm
import NexsKernel.Mcs.ObjInv

/-!
# Binding and donating

The operations that change the pointers between threads, scheduling contexts and notifications keep them
symmetric.
-/

namespace NexsKernel.Mcs

open Function (update update_self update_of_ne update_apply)

namespace Bindings

variable (b : Bindings)

/-- The scheduling context moves to a thread. -/
def donate (sc : ScPtr) (dest : TcbPtr) : Bindings :=
  { b with
    tcbSchedContext := update
      (match b.scTcb sc with
        | some donor => update b.tcbSchedContext donor none
        | none => b.tcbSchedContext) dest (some sc)
    scTcb := update b.scTcb sc (some dest) }

lemma donate_tcbSchedContext (sc : ScPtr) (dest u : TcbPtr) : (b.donate sc dest).tcbSchedContext u =
    if u = dest then some sc else if b.scTcb sc = some u then none else b.tcbSchedContext u := by
  unfold donate
  cases b.scTcb sc with
  | none => simp [update_apply]
  | some donor => simp [update_apply, eq_comm (a := donor)]

/-- A thread and its scheduling context part. -/
def unbindSc (t : TcbPtr) (sc : ScPtr) : Bindings :=
  { b with
    tcbSchedContext := update b.tcbSchedContext t none
    scTcb := update b.scTcb sc none }

/-- A scheduling context and its notification part. -/
def unbindScNtfn (sc : ScPtr) (ntfn : NtfnPtr) : Bindings :=
  { b with
    ntfnSchedContext := update b.ntfnSchedContext ntfn none
    scNotification := update b.scNotification sc none }

/-- A thread does not wait for a scheduling context any more. -/
def unbindYield (t : TcbPtr) (sc : ScPtr) : Bindings :=
  { b with
    scYieldFrom := update b.scYieldFrom sc none
    tcbYieldTo := update b.tcbYieldTo t none }

/-- A thread and its notification part. -/
def unbindNtfn (t : TcbPtr) (ntfn : NtfnPtr) : Bindings :=
  { b with
    ntfnBoundTCB := update b.ntfnBoundTCB ntfn none
    tcbBoundNotification := update b.tcbBoundNotification t none }

end Bindings

namespace Bound

variable {b : Bindings} {t : TcbPtr} {sc : ScPtr} {ntfn : NtfnPtr}

lemma donate (h : Bound b) (hd : b.tcbSchedContext t = none) : Bound (b.donate sc t) := by
  refine { h with sc := fun u c => ?_ }
  have h1 := h.sc u c
  have h2 := h.sc u sc
  have h3 := h.sc t c
  unfold Bindings.donate
  cases hb : b.scTcb sc with
  | none =>
    simp only [update_apply]
    grind
  | some donor =>
    have h4 := h.sc donor sc
    have h5 := h.sc donor c
    simp only [update_apply]
    grind

lemma unbindSc (h : Bound b) (ht : b.tcbSchedContext t = some sc) : Bound (b.unbindSc t sc) := by
  refine { h with sc := fun u c => ?_ }
  have h1 := h.sc u c
  have h2 := h.sc t c
  have h3 := h.sc u sc
  simp only [Bindings.unbindSc, update_apply]
  grind

lemma unbindScNtfn (h : Bound b) (hs : b.scNotification sc = some ntfn) :
    Bound (b.unbindScNtfn sc ntfn) := by
  refine { h with scNtfn := fun c n => ?_ }
  have h1 := h.scNtfn c n
  have h2 := h.scNtfn sc n
  have h3 := h.scNtfn c ntfn
  simp only [Bindings.unbindScNtfn, update_apply]
  grind

lemma unbindYield (h : Bound b) (ht : b.tcbYieldTo t = some sc) : Bound (b.unbindYield t sc) := by
  refine { h with yield := fun u c => ?_ }
  have h1 := h.yield u c
  have h2 := h.yield t c
  have h3 := h.yield u sc
  simp only [Bindings.unbindYield, update_apply]
  grind

lemma unbindNtfn (h : Bound b) (ht : b.tcbBoundNotification t = some ntfn) :
    Bound (b.unbindNtfn t ntfn) := by
  refine { h with ntfn := fun u n => ?_ }
  have h1 := h.ntfn u n
  have h2 := h.ntfn t n
  have h3 := h.ntfn u ntfn
  simp only [Bindings.unbindNtfn, update_apply]
  grind

end Bound

/-- Taking a pointer away. -/
lemma update_none {α β : Type*} [DecidableEq α] {f : α → Option β} {a x : α}
    (h : f x = none) : update f a none x = none := by
  by_cases e : x = a
  · rw [e, update_self]
  · rwa [update_of_ne e]

namespace LiveBindings

variable {b : Bindings} {o : Objects} {t : TcbPtr} {sc : ScPtr} {ntfn : NtfnPtr}

lemma donate (h : LiveBindings b o) (hb : Bound b) (ht : o.tcbExists t = true)
    (hs : o.scExists sc = true) : LiveBindings (b.donate sc t) o := by
  have hsi : sc ≠ o.ksIdleSC := by
    rintro rfl
    rw [h.idleSc] at hs
    cases hs
  have hti : t ≠ o.ksIdleThread := by
    rintro rfl
    rw [h.idleTcb] at ht
    cases ht
  refine { h with tcb := fun u hu hui => ?_, sc := fun c hc hci => ?_, idle := ?_ }
  · have hut : u ≠ t := by
      rintro rfl
      simp [ht] at hu
    rw [Bindings.donate_tcbSchedContext, if_neg hut]
    split
    · rfl
    · exact h.tcb u hu hui
  · have hcs : c ≠ sc := by
      rintro rfl
      simp [hs] at hc
    show update b.scTcb sc _ c = none
    rw [update_of_ne hcs]
    exact h.sc c hc hci
  · rw [Bindings.donate_tcbSchedContext, if_neg hti.symm, if_neg]
    · exact h.idle
    · intro hd
      have := (hb.sc _ _).mpr hd
      rw [h.idle] at this
      exact hsi (Option.some.inj this).symm

lemma unbindSc (h : LiveBindings b o) (ht : t ≠ o.ksIdleThread) : LiveBindings (b.unbindSc t sc) o := by
  refine { h with
    tcb := fun u hu hui => update_none (h.tcb u hu hui)
    sc := fun c hc hci => update_none (h.sc c hc hci)
    idle := ?_ }
  show update b.tcbSchedContext t none o.ksIdleThread = _
  rw [update_of_ne ht.symm]
  exact h.idle

lemma unbindScNtfn (h : LiveBindings b o) : LiveBindings (b.unbindScNtfn sc ntfn) o :=
  { h with
    ntfnSc := fun n hn => update_none (h.ntfnSc n hn)
    scNtfn := fun c hc => update_none (h.scNtfn c hc) }

lemma unbindYield (h : LiveBindings b o) : LiveBindings (b.unbindYield t sc) o :=
  { h with
    tcbYield := fun u hu => update_none (h.tcbYield u hu)
    scYield := fun c hc => update_none (h.scYield c hc) }

lemma unbindNtfn (h : LiveBindings b o) : LiveBindings (b.unbindNtfn t ntfn) o :=
  { h with
    tcbNtfn := fun u hu => update_none (h.tcbNtfn u hu)
    ntfnTcb := fun n hn => update_none (h.ntfnTcb n hn) }

end LiveBindings

namespace Kernel

variable (cfg : KernelConfig) (s : Kernel)

lemma schedContextDonate_same (sc : ScPtr) (dest : TcbPtr) :
    SameObjects { s with toBindings := s.toBindings.donate sc dest } (s.schedContextDonate cfg (some sc) dest) := by
  unfold schedContextDonate takeFromDonor
  show SameObjects _ (((_ : Kernel).setScTcb sc (some dest)).setTcbSchedContext dest (some sc))
  split
  · rename_i hs
    change s.scTcb sc = none at hs
    refine ⟨⟨?_, rfl, rfl⟩, rfl⟩
    simp only [Bindings.donate, hs]
    rfl
  · rename_i donor hs
    change s.scTcb sc = some donor at hs
    extract_lets b s1 s2 s3
    have h4 : SameObjects s3 (if donor = s3.ksCurThread ∨ s3.ksSchedulerAction = .switchTo donor then
        s3.rescheduleRequired cfg else s3) := by
      split
      · exact s3.rescheduleRequired_same cfg
      · exact .refl s3
    obtain ⟨r, c, n, u, f, e⟩ := h4.exists_eq
    have hcur := h4.cur
    rw [e] at hcur ⊢
    refine ⟨⟨?_, rfl, rfl⟩, hcur⟩
    simp only [b, Bindings.donate, hs]
    rfl

/-- The stores of `schedContext_unbindTCB`. -/
lemma schedContextUnbindTCB_same {sc : ScPtr} {t : TcbPtr} (ht : s.scTcb sc = some t) :
    SameObjects { s with toBindings := s.toBindings.unbindSc t sc } (s.schedContextUnbindTCB cfg sc) := by
  unfold schedContextUnbindTCB
  split
  · rename_i hn
    rw [ht] at hn
    cases hn
  rename_i u hu
  obtain rfl : t = u := by simpa [ht] using hu
  extract_lets b s1 s2 s3 s4
  have e1 : s.SameObjects s1 := by
    unfold s1
    split
    · exact s.rescheduleRequired_same cfg
    · exact .refl s
  obtain ⟨r, c, n, u, f, e⟩ := e1.exists_eq
  have hc := e1.cur
  unfold s4 s3 s2
  rw [e] at hc ⊢
  exact ⟨⟨rfl, rfl, rfl⟩, hc⟩

/-- The stores of `schedContext_completeYieldTo`. -/
lemma schedContextCompleteYieldTo_same {sc : ScPtr} {t : TcbPtr} (ht : s.tcbYieldTo t = some sc) :
    SameObjects { s with toBindings := s.toBindings.unbindYield t sc }
      (s.schedContextCompleteYieldTo cfg t) := by
  unfold schedContextCompleteYieldTo
  split
  swap
  · rename_i hn
    rw [ht] at hn
    cases hn
  rename_i sc' hsc
  obtain rfl : sc = sc' := by simpa [ht] using hsc
  have e1 := s.setConsumed_same cfg sc t true
  obtain ⟨r, c, n, u, f, e⟩ := e1.exists_eq
  have hc := e1.cur
  rw [e] at hc ⊢
  unfold schedContextCancelYieldTo
  dsimp only
  rw [ht]
  exact ⟨⟨rfl, rfl, rfl⟩, hc⟩

end Kernel

namespace ObjInv

variable {cfg : KernelConfig} {s : Kernel} {L : List TcbPtr} {t : TcbPtr} {sc : ScPtr} {ntfn : NtfnPtr}

lemma schedContextDonate (h : s.ObjInv L) (hd : s.tcbSchedContext t = none) (ht : s.tcbExists t = true)
    (hs : s.scExists sc = true) : (s.schedContextDonate cfg (some sc) t).ObjInv L :=
  (h.rebind (h.bound.donate hd) (h.live.donate h.bound ht hs)).same
    (s.schedContextDonate_same cfg sc t).toSameObj

/-- A thread that is not the idle thread loses its scheduling context. -/
lemma unbindSc (h : s.ObjInv L) (ht : s.tcbSchedContext t = some sc) (hi : t ≠ s.ksIdleThread) :
    Kernel.ObjInv { s with toBindings := s.toBindings.unbindSc t sc } L :=
  h.rebind (h.bound.unbindSc ht) (h.live.unbindSc hi)

lemma schedContextUnbindNtfn (h : s.ObjInv L) : (s.schedContextUnbindNtfn sc).ObjInv L := by
  unfold Kernel.schedContextUnbindNtfn
  split
  · rename_i n hn
    exact h.rebind (h.bound.unbindScNtfn hn) h.live.unbindScNtfn
  · exact h

lemma schedContextMaybeUnbindNtfn (h : s.ObjInv L) : (s.schedContextMaybeUnbindNtfn ntfn).ObjInv L := by
  unfold Kernel.schedContextMaybeUnbindNtfn
  split
  · exact h.schedContextUnbindNtfn
  · exact h

lemma schedContextBindNtfn (h : s.ObjInv L) (hs : s.scNotification sc = none)
    (hn : s.ntfnSchedContext ntfn = none) (hse : s.scExists sc = true) (hne : s.ntfnExists ntfn = true) :
    (s.schedContextBindNtfn sc ntfn).ObjInv L := by
  refine h.rebind { h.bound with scNtfn := fun c n => ?_ }
    { h.live with ntfnSc := fun n hn' => ?_, scNtfn := fun c hc => ?_ }
  · have h1 := h.bound.scNtfn c n
    have h2 := h.bound.scNtfn sc n
    have h3 := h.bound.scNtfn c ntfn
    simp only [update_apply]
    grind
  · have hne' : n ≠ ntfn := by
      rintro rfl
      exact absurd (hne.symm.trans hn') (by simp)
    exact (update_of_ne hne' _ _).trans (h.live.ntfnSc n hn')
  · have hne' : c ≠ sc := by
      rintro rfl
      exact absurd (hse.symm.trans hc) (by simp)
    exact (update_of_ne hne' _ _).trans (h.live.scNtfn c hc)

lemma schedContextCancelYieldTo (h : s.ObjInv L) : (s.schedContextCancelYieldTo t).ObjInv L := by
  unfold Kernel.schedContextCancelYieldTo
  split
  · rename_i c hc
    exact h.rebind (h.bound.unbindYield hc) h.live.unbindYield
  · exact h

lemma schedContextCompleteYieldTo (h : s.ObjInv L) : (s.schedContextCompleteYieldTo cfg t).ObjInv L := by
  unfold Kernel.schedContextCompleteYieldTo
  split
  · exact (h.same (s.setConsumed_same cfg _ _ _).toSameObj).schedContextCancelYieldTo
  · exact h

lemma completeYieldFrom (h : s.ObjInv L) : (s.completeYieldFrom cfg sc).ObjInv L := by
  unfold Kernel.completeYieldFrom
  split
  · exact h.schedContextCompleteYieldTo
  · exact h

lemma doUnbindNotification (h : s.ObjInv L) (ht : s.tcbBoundNotification t = some ntfn) :
    (s.doUnbindNotification ntfn t).ObjInv L :=
  h.rebind (h.bound.unbindNtfn ht) h.live.unbindNtfn

lemma unbindMaybeNotification (h : s.ObjInv L) : (s.unbindMaybeNotification ntfn).ObjInv L := by
  unfold Kernel.unbindMaybeNotification
  split
  · rename_i t ht
    exact h.doUnbindNotification ((h.bound.ntfn _ _).mpr ht)
  · exact h

lemma unbindNotification (h : s.ObjInv L) : (s.unbindNotification t).ObjInv L := by
  unfold Kernel.unbindNotification
  split
  · rename_i n hn
    exact h.doUnbindNotification hn
  · exact h

lemma bindNotification (h : s.ObjInv L) (ht : s.tcbBoundNotification t = none)
    (hn : s.ntfnBoundTCB ntfn = none) (hte : s.tcbExists t = true) (hne : s.ntfnExists ntfn = true) :
    (s.bindNotification t ntfn).ObjInv L := by
  refine h.rebind { h.bound with ntfn := fun u n => ?_ }
    { h.live with tcbNtfn := fun u hu => ?_, ntfnTcb := fun n hn' => ?_ }
  · have h1 := h.bound.ntfn u n
    have h2 := h.bound.ntfn t n
    have h3 := h.bound.ntfn u ntfn
    simp only [update_apply]
    grind
  · have hne' : u ≠ t := by
      rintro rfl
      exact absurd (hte.symm.trans hu) (by simp)
    exact (update_of_ne hne' _ _).trans (h.live.tcbNtfn u hu)
  · have hne' : n ≠ ntfn := by
      rintro rfl
      exact absurd (hne.symm.trans hn') (by simp)
    exact (update_of_ne hne' _ _).trans (h.live.ntfnTcb n hn')

/-- A thread waits for a scheduling context that it has yielded to. -/
lemma bindYield (h : s.ObjInv L) (ht : s.tcbYieldTo t = none) (hs : s.scYieldFrom sc = none)
    (hte : s.tcbExists t = true) (hse : s.scExists sc = true) :
    Kernel.ObjInv { s with
      tcbYieldTo := update s.tcbYieldTo t (some sc)
      scYieldFrom := update s.scYieldFrom sc (some t) } L := by
  refine h.rebind { h.bound with yield := fun u c => ?_ }
    { h.live with tcbYield := fun u hu => ?_, scYield := fun c hc => ?_ }
  · have h1 := h.bound.yield u c
    have h2 := h.bound.yield t c
    have h3 := h.bound.yield u sc
    simp only [update_apply]
    grind
  · have hne' : u ≠ t := by
      rintro rfl
      exact absurd (hte.symm.trans hu) (by simp)
    exact (update_of_ne hne' _ _).trans (h.live.tcbYield u hu)
  · have hne' : c ≠ sc := by
      rintro rfl
      exact absurd (hse.symm.trans hc) (by simp)
    exact (update_of_ne hne' _ _).trans (h.live.scYield c hc)

lemma schedContextBindTCB (h : s.ObjInv L) (hs : s.scTcb sc = none) (ht : s.tcbSchedContext t = none)
    (hse : s.scExists sc = true) (hte : s.tcbExists t = true) :
    (s.schedContextBindTCB cfg sc t).ObjInv L := by
  unfold Kernel.schedContextBindTCB
  extract_lets s1 s2 s3 s4 s5 s6 s7
  have h4 : s4.ObjInv L := by
    have hd := h.rebind (h.bound.donate ht) (h.live.donate h.bound hte hse)
    refine hd.same ⟨?_, rfl, rfl⟩
    simp only [Bindings.donate, hs]
    rfl
  have h5 : s5.ObjInv L := h4.same (s4.assertSporadic_same _).toSameObj
  have h6 : s6.ObjInv L := by
    unfold s6
    split
    · exact h5.same (s5.refillUnblockCheck_same cfg sc).toSameObj
    · exact h5
  have h7 : s7.ObjInv L := h6.same (s6.schedContextResume_same cfg _).toSameObj
  split
  · exact (h7.same (s7.tcbSchedEnqueue_same cfg t).toSameObj).same
      (Kernel.rescheduleRequired_same cfg _).toSameObj
  · exact h7

/-- The scheduling context that is unbound is not the idle thread's. -/
lemma schedContextUnbindTCB (h : s.ObjInv L) (hi : s.scTcb sc ≠ some s.ksIdleThread) :
    (s.schedContextUnbindTCB cfg sc).ObjInv L := by
  cases ht : s.scTcb sc with
  | none =>
    unfold Kernel.schedContextUnbindTCB
    rw [ht]
    exact h.same s.fail_same.toSameObj
  | some t =>
    have h2 := h.unbindSc ((h.bound.sc _ _).mpr ht) (fun e => hi (e ▸ ht))
    exact h2.same (s.schedContextUnbindTCB_same cfg ht).toSameObj

lemma schedContextUnbindAllTCBs (h : s.ObjInv L) (hi : s.scTcb sc ≠ some s.ksIdleThread) :
    (s.schedContextUnbindAllTCBs cfg sc).ObjInv L := by
  unfold Kernel.schedContextUnbindAllTCBs
  split
  · exact h.schedContextUnbindTCB hi
  · exact h

/-- A scheduling context that exists is not bound to the idle thread. -/
lemma scTcb_ne_idle (h : s.ObjInv L) (hs : s.scExists sc = true) : s.scTcb sc ≠ some s.ksIdleThread := by
  intro e
  have h1 := (h.bound.sc _ _).mpr e
  have h2 := h.live.idle
  change s.tcbSchedContext s.ksIdleThread = _ at h2
  rw [h1] at h2
  rw [Option.some.inj h2] at hs
  exact absurd (hs.symm.trans h.live.idleSc) (by simp)

lemma maybeReturnSchedContext (h : s.ObjInv L) (ht : t ≠ s.ksIdleThread) :
    (s.maybeReturnSchedContext cfg ntfn t).ObjInv L := by
  unfold Kernel.maybeReturnSchedContext
  split
  · rename_i sc _
    split
    · rename_i hsc
      extract_lets s1 s2
      have h2 : s2.ObjInv L := h.unbindSc hsc ht
      split
      · exact h2.same (s2.rescheduleRequired_same cfg).toSameObj
      · exact h2
    · exact h
  · exact h

lemma maybeDonateSchedContext (h : s.ObjInv L) (ht : s.tcbExists t = true) :
    (s.maybeDonateSchedContext cfg t ntfn).ObjInv L := by
  unfold Kernel.maybeDonateSchedContext
  split
  · rename_i hnone
    split
    · rename_i sc hsc
      split
      · refine (h.schedContextDonate hnone ht ?_).same (Kernel.schedContextResume_same cfg _ _).toSameObj
        by_contra hne
        rw [Bool.not_eq_true] at hne
        have := (h.bound.scNtfn _ _).mpr hsc
        rw [h.live.scNtfn sc hne] at this
        cases this
      · exact h
    · exact h
  · exact h

/-- A scheduling context leaves its call stack. -/
lemma schedContextUnbindReply (h : s.ObjInv L) : (s.schedContextUnbindReply sc).ObjInv L := by
  unfold Kernel.schedContextUnbindReply
  split
  · rename_i r hr
    extract_lets s1
    have h1 : s1.ObjInv L := h.same (s.assert_same _).toSameObj
    refine h1.restack (h.linked.unbindReply hr) (fun r' hl => h.onStack r' ?_) fun c hc => ?_
    · refine hl.imp_left fun hl' hnull => hl' ?_
      show update s.replyNext r .null r' = .null
      by_cases e : r' = r
      · rw [e, update_self]
      · rwa [update_of_ne e]
    · exact update_none (h.alive.sc c hc)
  · exact h

end ObjInv

end NexsKernel.Mcs
