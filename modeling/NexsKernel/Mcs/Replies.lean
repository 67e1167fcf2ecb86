import NexsKernel.Mcs.Waiting

/-!
# Call stacks

The reply objects of a chain of calls hang off the scheduling context that is passed along it. `Linked`
says that the links of the call stacks are inverse to each other and that no chain goes on forever. When a
reply is removed from the middle, its call stack falls apart, and the lower part hangs off nothing.
-/

namespace NexsKernel.Mcs

open Function (update update_apply)

/-- The reply `p` is below `r`. -/
def CallStacks.Below (c : CallStacks) (p r : ReplyPtr) : Prop :=
  c.replyPrev r = some p

/-- The call stacks are linked in both directions, and finite. -/
structure Linked (c : CallStacks) : Prop where
  next_reply : ∀ r n, c.replyNext r = .reply n ↔ c.replyPrev n = some r
  next_head : ∀ r sc, c.replyNext r = .head sc ↔ c.scReply sc = some r
  wf : WellFounded c.Below

namespace CallStacks

variable (c : CallStacks) (r x : ReplyPtr) (sc : ScPtr)

lemma push_replyNext : (c.push r sc).replyNext x =
    if x = r then .head sc else if c.scReply sc = some x then .reply r else c.replyNext x := by
  unfold push
  cases h : c.scReply sc with
  | none => simp [setReplyNext, setReplyPrev, setScReply, update_apply]
  | some old => simp [setReplyNext, setReplyPrev, setScReply, update_apply, eq_comm (a := old)]

lemma push_replyPrev : (c.push r sc).replyPrev x = if x = r then c.scReply sc else c.replyPrev x := by
  unfold push
  cases h : c.scReply sc <;> simp [setReplyNext, setReplyPrev, setScReply, update_apply]

lemma push_scReply (sc' : ScPtr) : (c.push r sc).scReply sc' = if sc' = sc then some r else c.scReply sc' := by
  unfold push
  cases h : c.scReply sc <;> simp [setReplyNext, setReplyPrev, setScReply, update_apply]

lemma pop_replyNext : (c.pop r sc).replyNext x =
    if x = r then .null else if c.replyPrev r = some x then .head sc else c.replyNext x := by
  unfold pop
  cases h : c.replyPrev r with
  | none => simp [setReplyNext, setScReply, update_apply]
  | some p => simp [setReplyNext, setScReply, update_apply, eq_comm (a := p)]

lemma pop_replyPrev : (c.pop r sc).replyPrev = c.replyPrev := by
  unfold pop
  cases h : c.replyPrev r <;> rfl

lemma pop_scReply (sc' : ScPtr) : (c.pop r sc).scReply sc' =
    if sc' = sc then c.replyPrev r else c.scReply sc' := by
  unfold pop
  cases h : c.replyPrev r <;> simp [setReplyNext, setScReply, update_apply]

lemma breakChain_replyNext : (c.breakChain r).replyNext x =
    if x = r ∨ c.replyPrev r = some x then .null else c.replyNext x := by
  unfold breakChain
  cases h : c.replyNext r <;> cases h' : c.replyPrev r <;>
    simp [setReplyNext, setReplyPrev, update_apply, eq_comm] <;> grind

lemma breakChain_replyPrev : (c.breakChain r).replyPrev x =
    if x = r ∨ c.replyNext r = .reply x then none else c.replyPrev x := by
  unfold breakChain
  cases h : c.replyNext r <;> cases h' : c.replyPrev r <;>
    simp [setReplyNext, setReplyPrev, update_apply, eq_comm] <;> grind

lemma breakChain_scReply : (c.breakChain r).scReply = c.scReply := by
  unfold breakChain
  cases h : c.replyNext r <;> cases h' : c.replyPrev r <;> rfl

lemma breakHead_replyNext : (c.breakHead r).replyNext = (c.breakChain r).replyNext := by
  unfold breakHead
  cases h : c.replyNext r <;> cases h' : c.replyPrev r <;>
    simp [breakChain, setReplyNext, setReplyPrev, setScReply, h, h']

lemma breakHead_replyPrev : (c.breakHead r).replyPrev = (c.breakChain r).replyPrev := by
  unfold breakHead
  cases h : c.replyNext r <;> cases h' : c.replyPrev r <;>
    simp [breakChain, setReplyNext, setReplyPrev, setScReply, h, h']

lemma breakHead_scReply (sc' : ScPtr) : (c.breakHead r).scReply sc' =
    if c.replyNext r = .head sc' then none else c.scReply sc' := by
  unfold breakHead
  cases h : c.replyNext r <;>
    simp [breakChain_scReply, setScReply, update_apply, eq_comm (a := sc')]

end CallStacks

namespace Linked

variable {c : CallStacks} {r : ReplyPtr} {sc : ScPtr}

/-- Taking links away keeps the call stacks finite. -/
lemma wf_of_le (h : Linked c) {c' : CallStacks} (hle : ∀ x p, c'.replyPrev x = some p → c.replyPrev x = some p) :
    WellFounded c'.Below :=
  Subrelation.wf (fun {p x} hp => hle x p hp) h.wf

/-- Something is below `r` only if `r` is linked. -/
lemma prev_ne_of_next_null (h : Linked c) (hn : c.replyNext r = .null) (n : ReplyPtr) :
    c.replyPrev n ≠ some r := by
  intro e
  rw [(h.next_reply r n).mpr e] at hn
  cases hn

lemma push (h : Linked c) (hn : c.replyNext r = .null) (hp : c.replyPrev r = none) :
    Linked (c.push r sc) := by
  have hr : ∀ sc', c.scReply sc' ≠ some r := fun sc' e => by
    rw [(h.next_head r sc').mpr e] at hn
    cases hn
  have hnext := h.prev_ne_of_next_null hn
  refine ⟨?_, ?_, ?_⟩
  · intro a n
    have h1 := h.next_reply a n
    have h2 := h.next_head a sc
    have h3 := hnext n
    rw [CallStacks.push_replyNext, CallStacks.push_replyPrev]
    grind
  · intro a sc'
    have h1 := h.next_head a sc'
    have h2 := h.next_head a sc
    have h3 := hr sc'
    rw [CallStacks.push_replyNext, CallStacks.push_scReply]
    grind
  · -- nothing is above the new top, so the chains of the other replies are the old ones
    have old : ∀ x, x ≠ r → Acc (c.push r sc).Below x := by
      intro x
      induction x using h.wf.induction with
      | h x ih =>
        intro hx
        refine ⟨_, fun p hp => ?_⟩
        unfold CallStacks.Below at hp
        rw [CallStacks.push_replyPrev, if_neg hx] at hp
        exact ih p hp (fun e => hnext x (e ▸ hp))
    refine ⟨fun x => ?_⟩
    by_cases hx : x = r
    · subst hx
      refine ⟨_, fun p hp => old p ?_⟩
      unfold CallStacks.Below at hp
      rw [CallStacks.push_replyPrev, if_pos rfl] at hp
      exact fun e => hr sc (e ▸ hp)
    · exact old x hx

/-- The two stores of `reply_pop`, before and after the donation. -/
lemma pop (h : Linked c) (hn : c.replyNext r = .head sc) : Linked ((c.pop r sc).setReplyPrev r none) := by
  have hnext : ∀ n, c.replyPrev n ≠ some r := fun n e => by
    rw [(h.next_reply r n).mpr e] at hn
    cases hn
  have hsc := (h.next_head r sc).mp hn
  have e : ∀ x, ((c.pop r sc).setReplyPrev r none).replyPrev x = if x = r then none else c.replyPrev x := by
    intro x
    simp [CallStacks.setReplyPrev, CallStacks.pop_replyPrev, update_apply]
  refine ⟨?_, ?_, h.wf_of_le ?_⟩
  · intro a n
    have h1 := h.next_reply a n
    have h2 := hnext n
    have h3 := h.next_reply a r
    rw [e]
    show (c.pop r sc).replyNext a = _ ↔ _
    rw [CallStacks.pop_replyNext]
    grind
  · intro a sc'
    have h1 := h.next_head a sc'
    have h2 := h.next_head r sc'
    have h3 := h.next_reply a r
    have h4 := h.next_head a sc
    show (c.pop r sc).replyNext a = _ ↔ (c.pop r sc).scReply sc' = _
    rw [CallStacks.pop_replyNext, CallStacks.pop_scReply]
    have h5 := hnext r
    grind
  · intro x p hx
    rw [e] at hx
    grind

lemma breakHead (h : Linked c) : Linked (c.breakHead r) := by
  refine ⟨?_, ?_, h.wf_of_le ?_⟩
  · intro a n
    have h1 := h.next_reply a n
    have h2 := h.next_reply a r
    have h3 := h.next_reply r n
    rw [CallStacks.breakHead_replyNext, CallStacks.breakHead_replyPrev, CallStacks.breakChain_replyNext,
      CallStacks.breakChain_replyPrev]
    grind
  · intro a sc'
    have h1 := h.next_head a sc'
    have h2 := h.next_reply a r
    have h3 := h.next_head r sc'
    rw [CallStacks.breakHead_replyNext, CallStacks.breakHead_scReply, CallStacks.breakChain_replyNext]
    grind
  · intro x p hx
    rw [CallStacks.breakHead_replyPrev, CallStacks.breakChain_replyPrev] at hx
    grind

/-- The scheduling context leaves its call stack. -/
lemma unbindReply (h : Linked c) (hr : c.scReply sc = some r) :
    Linked { c with
      replyNext := update c.replyNext r .null
      scReply := update c.scReply sc none } := by
  have hn := (h.next_head r sc).mpr hr
  refine ⟨?_, ?_, h.wf_of_le fun x p hx => hx⟩
  · intro a n
    have h1 := h.next_reply a n
    simp only [update_apply]
    grind
  · intro a sc'
    have h1 := h.next_head a sc'
    have h2 := h.next_head r sc'
    simp only [update_apply]
    grind

end Linked

end NexsKernel.Mcs
