import NexsKernel.Mcs.ObjReply

/-!
# Blocking

A thread that starts to wait at an endpoint or a notification, and a change of its priority while it waits.
-/

namespace NexsKernel.Mcs

open Function (update update_self update_of_ne)

namespace ObjInv

variable {cfg : KernelConfig} {s : Kernel} {L : List TcbPtr} {t : TcbPtr} {ep : EpPtr}

lemma blockOnSend {badge canGrant canGrantReply doCall} (h : s.ObjInv (t :: L)) (htL : t ∉ L)
    (hn : ∀ r, s.replyTCB r ≠ some t) (ht : s.tcbExists t = true) (hep : s.epExists ep = true)
    (hst : s.epState ep = .idle ∨ s.epState ep = .send) :
    (s.blockOnSend t ep badge canGrant canGrantReply doCall).ObjInv L := by
  unfold Kernel.blockOnSend
  extract_lets s1 s2 s3 r s4
  obtain ⟨a, e⟩ : ∃ a, s3 = { s2 with ksSchedulerAction := a } := s2.scheduleTCB_eq t
  clear_value s3
  subst e
  have hw : Waiting (s4.setEpQueue ep r.2).toIpcState L :=
    h.waiting.enqueueEp htL (.inl ⟨rfl, rfl⟩) hst rfl rfl rfl rfl rfl rfl rfl rfl rfl rfl
  have hrep := h.replied_of_none hn (i := (s4.setEpQueue ep r.2).toIpcState) rfl (by simp) (by simp)
    (fun _ _ => rfl) rfl
  refine (h.block ht hw hrep rfl (by simp) (.inl rfl) rfl (fun ep' hep' => ?_) h.alive.ntfn h.alive.reply).same
    ⟨rfl, rfl, rfl⟩
  have hne : ep' ≠ ep := by
    rintro rfl
    exact absurd (hep.symm.trans hep') (by simp)
  exact (update_of_ne hne _ _).trans (h.alive.ep ep' hep')

/-- The reply object that a thread waits with is not used by another. -/
lemma blockOnReceive {reply} (h : s.ObjInv (t :: L)) (htL : t ∉ L) (hf : s.tcbFault t = .nullFault)
    (hn : ∀ r, s.replyTCB r ≠ some t) (ht : s.tcbExists t = true) (hep : s.epExists ep = true)
    (hst : s.epState ep = .idle ∨ s.epState ep = .recv)
    (hr : ∀ r, reply = some r → s.replyTCB r = none ∧ s.replyExists r = true) :
    (s.blockOnReceive t ep reply).ObjInv L := by
  unfold Kernel.blockOnReceive
  extract_lets s1 s2 s3 s4 r s5
  obtain ⟨a, e⟩ : ∃ a, s3 = { s2 with ksSchedulerAction := a } := s2.scheduleTCB_eq t
  clear_value s3
  subst e
  have hep' : ∀ ep', s.epExists ep' = false → update s.epState ep .recv ep' = .idle := by
    intro ep' hep'
    have hne : ep' ≠ ep := by
      rintro rfl
      exact absurd (hep.symm.trans hep') (by simp)
    exact (update_of_ne hne _ _).trans (h.alive.ep ep' hep')
  cases reply with
  | none =>
    have hw : Waiting (s5.setEpQueue ep r.2).toIpcState L :=
      h.waiting.enqueueEp htL (.inr ⟨rfl, rfl⟩) hst rfl rfl rfl rfl rfl rfl rfl rfl rfl rfl
    have hrep := h.replied_of_none hn (i := (s5.setEpQueue ep r.2).toIpcState) rfl (by simp)
      (fun _ => update_self ..) (fun u hu => update_of_ne hu _ _) rfl
    exact (h.block ht hw hrep rfl (by simp) (.inr hf) rfl hep' h.alive.ntfn h.alive.reply).same ⟨rfl, rfl, rfl⟩
  | some r' =>
    obtain ⟨hfree, hlive⟩ := hr r' rfl
    have hw : Waiting (s5.setEpQueue ep r.2).toIpcState L :=
      h.waiting.enqueueEp htL (.inr ⟨rfl, rfl⟩) hst rfl rfl rfl rfl rfl rfl rfl rfl rfl rfl
    have hrep := h.replied_of_receive hn (i := (s5.setEpQueue ep r.2).toIpcState) hfree rfl rfl rfl
    refine (h.block ht hw hrep rfl (by simp) (.inr hf) rfl hep' h.alive.ntfn fun x hx => ?_).same ⟨rfl, rfl, rfl⟩
    have hne : x ≠ r' := by
      rintro rfl
      exact absurd (hlive.symm.trans hx) (by simp)
    exact (update_of_ne hne _ _).trans (h.alive.reply x hx)

lemma blockOnNtfn {ntfn} (h : s.ObjInv (t :: L)) (htL : t ∉ L) (hf : s.tcbFault t = .nullFault)
    (hn : ∀ r, s.replyTCB r ≠ some t) (ht : s.tcbExists t = true) (hntfn : s.ntfnExists ntfn = true) :
    (s.blockOnNtfn ntfn t).ObjInv L := by
  unfold Kernel.blockOnNtfn
  extract_lets s1 s2 s3 r s4
  obtain ⟨a, e⟩ : ∃ a, s3 = { s2 with ksSchedulerAction := a } := s2.scheduleTCB_eq t
  clear_value s3
  subst e
  have hw : Waiting (s4.setNtfnQueue ntfn r.2).toIpcState L :=
    h.waiting.enqueueNtfn htL rfl rfl rfl rfl rfl rfl rfl rfl rfl rfl
  have hrep := h.replied_of_none hn (i := (s4.setNtfnQueue ntfn r.2).toIpcState) rfl (by simp) (by simp)
    (fun _ _ => rfl) rfl
  refine (h.block ht hw hrep rfl (by simp) (.inr hf) rfl h.alive.ep (fun n hn' => ?_) h.alive.reply).same
    ⟨rfl, rfl, rfl⟩
  have hne : n ≠ ntfn := by
    rintro rfl
    exact absurd (hntfn.symm.trans hn') (by simp)
  show update s.ntfnState ntfn _ n ≠ _
  rw [update_of_ne hne]
  exact h.alive.ntfn n hn'

/-- A thread that does not wait gets another priority. -/
lemma setTcbPriority (h : s.ObjInv L) (ht : s.waitsAt t = none) (prio : Nat) :
    (s.setTcbPriority t prio).ObjInv L := by
  obtain ⟨xs, q, l⟩ := h.waiting
  have q' := (q.ignore ht).setPriority prio
  refine { h with
    waiting := ⟨xs, ⟨q.rep, q.mem, q'.order, q.arrived⟩, ⟨l.idle, l.send, l.recv, l.waiting⟩⟩
    replied := ⟨h.replied.tcb, h.replied.object⟩
    alive := ⟨h.alive.tcb, h.alive.idle, h.alive.ep, h.alive.ntfn, h.alive.reply, h.alive.sc⟩ }

lemma reorderEP (h : s.ObjInv L) (ht : s.waitsAt t = some (.endpoint ep)) (hL : t ∉ L) (prio : Nat) :
    ((s.setTcbPriority t prio).reorderEP ep t).ObjInv L :=
  { h with
    waiting := h.waiting.reorder ht hL prio
    replied := ⟨h.replied.tcb, h.replied.object⟩
    alive := ⟨h.alive.tcb, h.alive.idle, h.alive.ep, h.alive.ntfn, h.alive.reply, h.alive.sc⟩ }

lemma reorderNTFN {ntfn} (h : s.ObjInv L) (ht : s.waitsAt t = some (.notification ntfn)) (hL : t ∉ L)
    (prio : Nat) : ((s.setTcbPriority t prio).reorderNTFN ntfn t).ObjInv L :=
  { h with
    waiting := h.waiting.reorder ht hL prio
    replied := ⟨h.replied.tcb, h.replied.object⟩
    alive := ⟨h.alive.tcb, h.alive.idle, h.alive.ep, h.alive.ntfn, h.alive.reply, h.alive.sc⟩ }

lemma setPriority (h : s.ObjInv []) (prio : Nat) : (s.setPriority cfg t prio).ObjInv [] := by
  have hw : ∀ ts, s.tsType t = ts → ts.Unqueued → s.waitsAt t = none := by
    rintro ts rfl hu
    unfold IpcState.waitsAt
    split <;> simp_all [ThreadState.Unqueued]
  unfold Kernel.setPriority
  split
  case h_1 hts | h_2 hts =>
    split
    · extract_lets s1 s2 s3
      have h1 : s1.ObjInv [] := h.same (s.tcbSchedDequeue_same cfg t).toSameObj
      have h2 : s2.ObjInv [] := h1.setTcbPriority (hw _ hts trivial) prio
      have h3 : s3.ObjInv [] := h2.same (s2.tcbSchedEnqueue_same cfg t).toSameObj
      exact h3.same (s3.rescheduleRequired_same cfg).toSameObj
    · exact h.setTcbPriority (hw _ hts trivial) prio
  case h_3 hts | h_4 hts =>
    exact h.reorderEP (by simp [IpcState.waitsAt, hts, Kernel.setTcbPriority]) (by simp) prio
  case h_5 hts => exact h.reorderNTFN (by simp [IpcState.waitsAt, hts, Kernel.setTcbPriority]) (by simp) prio
  case h_6 h1 h2 h3 h4 h5 =>
    refine h.setTcbPriority (hw _ rfl ?_) prio
    revert h1 h2 h3 h4 h5
    cases s.tsType t <;> simp [ThreadState.Unqueued]

end ObjInv

end NexsKernel.Mcs
