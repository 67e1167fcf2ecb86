import Mathlib.Tactic
import Mathlib.Data.List.Basic
import Mathlib.Data.Fintype.Card

/-!
# Doubly linked queues

Queues of nodes that carry their own links. `Links` holds the next and the previous node of every node,
`Queue` the two ends of one queue, and many queues share the links. `Seg l p xs n` says that the nodes
`xs` are linked one after the other, that the first one points back to `p` and that the last one points
on to `n`; `Rep l q xs` says that the queue `q` holds exactly the nodes `xs`.

Linking a node in between and unlinking one have each a lemma about the list of the queue and one that says
that the links of all other nodes stay as they are.
-/

namespace NexsKernel

/-- The two ends of a queue. -/
@[ext]
structure Queue (α : Type*) where
  head : Option α
  last : Option α
  deriving DecidableEq, Repr

namespace Queue

variable {α : Type*}

/-- The links of the nodes of a type. -/
structure Links (α : Type*) where
  next : α → Option α
  prev : α → Option α

/-- The queue without nodes. -/
def empty : Queue α :=
  { head := none, last := none }

section Operations

variable [DecidableEq α]

/-- Set the next node of `a`, if there is a node `a`. -/
def setNext (l : Links α) (a : Option α) (n : Option α) : Links α :=
  match a with
  | none => l
  | some a => { l with next := Function.update l.next a n }

/-- Set the previous node of `a`, if there is a node `a`. -/
def setPrev (l : Links α) (a : Option α) (p : Option α) : Links α :=
  match a with
  | none => l
  | some a => { l with prev := Function.update l.prev a p }

/-- Add a node in front; an empty queue leaves the links of the node alone. -/
def prepend (l : Links α) (q : Queue α) (a : α) : Links α × Queue α :=
  match q.head with
  | none => (l, { head := some a, last := some a })
  | some b => (setPrev (setNext l (some a) (some b)) (some b) (some a), { q with head := some a })

/-- Add a node at the end; an empty queue leaves the links of the node alone. -/
def append (l : Links α) (q : Queue α) (a : α) : Links α × Queue α :=
  match q.head with
  | none => (l, { head := some a, last := some a })
  | some _ => (setNext (setPrev l (some a) q.last) q.last (some a), { q with last := some a })

/-- Link a node in between two neighbours. -/
def insertBetween (l : Links α) (before : Option α) (a : α) (after : Option α) : Links α :=
  setPrev (setNext (setPrev (setNext l before (some a)) after (some a)) (some a) after) (some a) before

/-- Remove a node and clear its links. -/
def remove (l : Links α) (q : Queue α) (a : α) : Links α × Queue α :=
  let before := l.prev a
  let after := l.next a
  if q.head = some a ∧ q.last = some a then
    (l, empty)
  else if q.head = some a then
    (setNext (setPrev l after none) (some a) none, { q with head := after })
  else if q.last = some a then
    (setPrev (setNext l before none) (some a) none, { q with last := before })
  else
    (setNext (setPrev (setPrev (setNext l before after) after before) (some a) none) (some a) none, q)

/-- Remove a node and leave its own links as they are. -/
def unlink (l : Links α) (q : Queue α) (a : α) : Links α × Queue α :=
  let l' := setNext l (l.prev a) (l.next a)
  (setPrev l' (l'.next a) (l'.prev a),
    { head := if l.prev a = none then l.next a else q.head
      last := if l'.next a = none then l'.prev a else q.last })

end Operations

/-- Go back from `before` over the nodes that satisfy `p`, in at most `fuel` steps. -/
def scanBack (l : Links α) (p : α → Bool) : Nat → Option α → Option α → Option α × Option α
  | 0, before, after => (before, after)
  | fuel + 1, before, after =>
    match before with
    | none => (none, after)
    | some b => if p b then scanBack l p fuel (l.prev b) (some b) else (some b, after)

/-- Go forward from a node over the nodes that satisfy `p`, in at most `fuel` steps. -/
def scanForward (l : Links α) (p : α → Bool) : Nat → Option α → Option α
  | 0, a => a
  | fuel + 1, a =>
    match a with
    | none => none
    | some b => if p b then scanForward l p fuel (l.next b) else some b

/-- The nodes `xs` are linked in this order, after `p` and before `n`. -/
def Seg (l : Links α) : Option α → List α → Option α → Prop
  | _, [], _ => True
  | p, a :: xs, n => l.prev a = p ∧ l.next a = xs.head?.or n ∧ Seg l (some a) xs n

/-- The queue `q` holds the nodes `xs`. -/
structure Rep (l : Links α) (q : Queue α) (xs : List α) : Prop where
  nodup : xs.Nodup
  head : q.head = xs.head?
  last : q.last = xs.getLast?
  seg : Seg l none xs none

/-- A node that is linked to no other node. -/
def Free (l : Links α) (a : α) : Prop :=
  l.next a = none ∧ l.prev a = none

/-- The links of the nodes outside `xs` are the same. -/
def Same (xs : List α) (l l' : Links α) : Prop :=
  ∀ a, a ∉ xs → l'.next a = l.next a ∧ l'.prev a = l.prev a

lemma Seg.congr {l l' : Links α} {xs p n} (s : Seg l p xs n)
    (h : ∀ a ∈ xs, l'.next a = l.next a ∧ l'.prev a = l.prev a) : Seg l' p xs n := by
  induction xs generalizing p with
  | nil => trivial
  | cons a xs ih =>
    obtain ⟨hp, hn, hs⟩ := s
    obtain ⟨en, ep⟩ := h a (by simp)
    exact ⟨ep.trans hp, en.trans hn, ih hs fun b hb => h b (by simp [hb])⟩

lemma seg_append {l : Links α} {xs ys p n} :
    Seg l p (xs ++ ys) n ↔ Seg l p xs (ys.head?.or n) ∧ Seg l (xs.getLast?.or p) ys n := by
  induction xs generalizing p with
  | nil => simp [Seg]
  | cons a xs ih =>
    have hl : (a :: xs).getLast?.or p = xs.getLast?.or (some a) := by
      cases xs <;> simp [List.getLast?_cons]
    have hh : (xs ++ ys).head?.or n = xs.head?.or (ys.head?.or n) := by
      cases xs <;> simp
    simp only [List.cons_append, Seg, ih, hl, hh]
    tauto

/-- The neighbours of a node in the middle. -/
lemma seg_mid {l : Links α} {xs ys a p n} : Seg l p (xs ++ a :: ys) n ↔
    Seg l p xs (some a) ∧ l.prev a = xs.getLast?.or p ∧ l.next a = ys.head?.or n ∧
      Seg l (some a) ys n := by
  rw [seg_append]
  rfl

/-- Only the first node points back out of a segment. -/
lemma Seg.of_prev {l l' : Links α} {xs p p' n a} (s : Seg l p (a :: xs) n)
    (hp : l'.prev a = p') (hn : l'.next a = l.next a)
    (h : ∀ b ∈ xs, l'.next b = l.next b ∧ l'.prev b = l.prev b) : Seg l' p' (a :: xs) n :=
  ⟨hp, hn.trans s.2.1, s.2.2.congr h⟩

/-- Only the last node points on out of a segment. -/
lemma Seg.of_next {l l' : Links α} {xs p n n' a} (s : Seg l p (xs ++ [a]) n)
    (hn : l'.next a = n') (hp : l'.prev a = l.prev a)
    (h : ∀ b ∈ xs, l'.next b = l.next b ∧ l'.prev b = l.prev b) : Seg l' p (xs ++ [a]) n' := by
  rw [seg_mid] at s ⊢
  exact ⟨s.1.congr h, hp.trans s.2.1, by simpa using hn, trivial⟩

namespace Rep

variable {l l' : Links α} {q : Queue α} {xs ys zs : List α} {a b : α}

lemma congr (r : Rep l q xs) (h : ∀ a ∈ xs, l'.next a = l.next a ∧ l'.prev a = l.prev a) :
    Rep l' q xs :=
  ⟨r.nodup, r.head, r.last, r.seg.congr h⟩

/-- A queue is not touched by a change of the links of other nodes. -/
lemma same (r : Rep l q xs) (s : Same ys l l') (d : ∀ a ∈ xs, a ∉ ys) : Rep l' q xs :=
  r.congr fun a ha => s a (d a ha)

lemma nil (l : Links α) : Rep l empty [] :=
  ⟨List.nodup_nil, rfl, rfl, trivial⟩

lemma head_eq_none (r : Rep l q xs) : q.head = none ↔ xs = [] := by
  rw [r.head]
  cases xs <;> simp

/-- The two ends determine a queue. -/
lemma eq_empty (r : Rep l q []) : q = empty :=
  Queue.ext r.head r.last

/-- The links of a member. -/
lemma links (r : Rep l q (ys ++ a :: zs)) :
    l.prev a = ys.getLast? ∧ l.next a = zs.head? := by
  obtain ⟨-, hp, hn, -⟩ := seg_mid.mp r.seg
  exact ⟨by simpa using hp, by simpa using hn⟩

end Rep

section Specs

variable [DecidableEq α] {l : Links α} {q : Queue α} {xs ys zs : List α} {a : α}

@[simp] lemma setNext_next (l : Links α) (a n b) :
    (setNext l a n).next b = if a = some b then n else l.next b := by
  cases a with
  | none => simp [setNext]
  | some a => simp [setNext, Function.update_apply, eq_comm]

@[simp] lemma setNext_prev (l : Links α) (a n) : (setNext l a n).prev = l.prev := by
  cases a <;> rfl

@[simp] lemma setPrev_prev (l : Links α) (a p b) :
    (setPrev l a p).prev b = if a = some b then p else l.prev b := by
  cases a with
  | none => simp [setPrev]
  | some a => simp [setPrev, Function.update_apply, eq_comm]

@[simp] lemma setPrev_next (l : Links α) (a p) : (setPrev l a p).next = l.next := by
  cases a <;> rfl

/-- A node is linked in between the two parts of a queue. -/
lemma Rep.insertBetween (r : Rep l q (ys ++ zs)) (ha : a ∉ ys ++ zs) :
    Rep (insertBetween l ys.getLast? a zs.head?)
      { head := if ys = [] then some a else q.head, last := if zs = [] then some a else q.last }
      (ys ++ a :: zs) := by
  obtain ⟨nd, hh, hl, seg⟩ := r
  obtain ⟨hay, haz⟩ : a ∉ ys ∧ a ∉ zs := by simpa using ha
  rw [seg_append] at seg
  obtain ⟨ndy, ndz, dis⟩ := List.nodup_append.mp nd
  refine ⟨?_, ?_, ?_, ?_⟩
  · rw [List.nodup_middle, List.nodup_cons]
    exact ⟨ha, nd⟩
  · cases ys with
    | nil => simp
    | cons y ys => simpa using hh
  · cases zs with
    | nil => simp
    | cons z zs => simp [hl]
  · rw [seg_mid]
    have hla : ys.getLast? ≠ some a := fun e => hay (List.mem_of_getLast? e)
    have hza : zs.head? ≠ some a := fun e => haz (List.mem_of_head? e)
    refine ⟨?_, by simp [Queue.insertBetween], by simp [Queue.insertBetween], ?_⟩
    · -- the part before the node: only its last node changes
      rcases List.eq_nil_or_concat' ys with rfl | ⟨ys, y, rfl⟩
      · trivial
      · have hy : y ∉ zs := fun h => dis y (by simp) y h rfl
        have hzy : zs.head? ≠ some y := fun e => hy (List.mem_of_head? e)
        have hya : y ≠ a := by
          rintro rfl
          exact hay (by simp)
        refine seg.1.of_next ?_ ?_ ?_
        · simp [Queue.insertBetween, hya.symm]
        · simp [Queue.insertBetween, hya.symm, hzy]
        · intro b hb
          have hby : y ≠ b := by
            rintro rfl
            have := List.nodup_append.mp ndy
            exact this.2.2 y hb y (by simp) rfl
          have hba : a ≠ b := by
            rintro rfl
            exact hay (by simp [hb])
          have hzb : zs.head? ≠ some b := fun e =>
            dis b (by simp [hb]) b (List.mem_of_head? e) rfl
          simp [Queue.insertBetween, hby, hba, hzb]
    · -- the part after it: only its first node changes
      cases zs with
      | nil => trivial
      | cons z zs =>
        have hz : z ∉ ys := fun h => dis z h z (by simp) rfl
        have hyz : ys.getLast? ≠ some z := fun e => hz (List.mem_of_getLast? e)
        have hza : a ≠ z := by
          rintro rfl
          exact haz (by simp)
        refine seg.2.of_prev ?_ ?_ ?_
        · simp [Queue.insertBetween, hza]
        · simp [Queue.insertBetween, hza, hyz]
        · intro b hb
          have hbz : z ≠ b := by
            rintro rfl
            exact (List.nodup_cons.mp ndz).1 hb
          have hba : a ≠ b := by
            rintro rfl
            exact haz (by simp [hb])
          have hyb : ys.getLast? ≠ some b := fun e =>
            dis b (List.mem_of_getLast? e) b (by simp [hb]) rfl
          simp [Queue.insertBetween, hbz, hba, hyb]

lemma insertBetween_same (l : Links α) (hy : ∀ b ∈ ys.getLast?, b ∈ xs) (hz : ∀ b ∈ zs.head?, b ∈ xs) :
    Same (a :: xs) l (insertBetween l ys.getLast? a zs.head?) := by
  intro b hb
  obtain ⟨hba, hbx⟩ : b ≠ a ∧ b ∉ xs := by simpa using hb
  have h1 : ys.getLast? ≠ some b := fun e => hbx (hy b e)
  have h2 : zs.head? ≠ some b := fun e => hbx (hz b e)
  simp [insertBetween, hba.symm, h1, h2]

/-- A node that is not linked is put in front. -/
lemma Rep.prepend (r : Rep l q xs) (ha : a ∉ xs) (hf : Free l a) :
    Rep (Queue.prepend l q a).1 (Queue.prepend l q a).2 (a :: xs) := by
  cases xs with
  | nil =>
    rw [Queue.prepend, r.head]
    exact ⟨List.nodup_singleton a, rfl, rfl, hf.2, hf.1, trivial⟩
  | cons b xs =>
    have h : Rep _ _ ([] ++ a :: b :: xs) := Rep.insertBetween r ha
    rw [Queue.prepend, r.head]
    refine Rep.congr h fun c _ => ?_
    have hprev := hf.2
    by_cases hca : a = c
    · subst hca
      have hab : b ≠ a := fun e => ha (e ▸ .head _)
      simp [Queue.insertBetween, hprev, hab]
    · simp [Queue.insertBetween, hca]

lemma prepend_same (r : Rep l q xs) : Same (a :: xs) l (Queue.prepend l q a).1 := by
  intro c hc
  obtain ⟨hca, hcx⟩ : c ≠ a ∧ c ∉ xs := by simpa using hc
  rw [Queue.prepend, r.head]
  cases xs with
  | nil => exact ⟨rfl, rfl⟩
  | cons b xs =>
    have hcb : b ≠ c := fun e => hcx (e ▸ .head _)
    simp [hca.symm, hcb]

/-- A node is taken out when its neighbours are linked to each other. -/
lemma Rep.without (r : Rep l q (ys ++ a :: zs)) (l' : Links α)
    (hn : ∀ b ∈ ys ++ zs, l'.next b = if ys.getLast? = some b then zs.head? else l.next b)
    (hp : ∀ b ∈ ys ++ zs, l'.prev b = if zs.head? = some b then ys.getLast? else l.prev b) :
    Rep l' { head := if ys = [] then zs.head? else q.head
             last := if zs = [] then ys.getLast? else q.last } (ys ++ zs) := by
  obtain ⟨nd, hh, hl, seg⟩ := r
  have nd' : (ys ++ zs).Nodup := (List.nodup_cons.mp (List.nodup_middle.mp nd)).2
  obtain ⟨ndy, ndz, dis⟩ := List.nodup_append.mp nd'
  rw [seg_mid] at seg
  refine ⟨nd', ?_, ?_, ?_⟩
  · cases ys with
    | nil => simp
    | cons y ys => simpa using hh
  · cases zs with
    | nil => simp
    | cons z zs => simp [hl]
  · rw [seg_append]
    constructor
    · rcases List.eq_nil_or_concat' ys with rfl | ⟨ys, y, rfl⟩
      · trivial
      · refine seg.1.of_next ?_ ?_ ?_
        · rw [hn y (by simp)]
          simp
        · rw [hp y (by simp), if_neg]
          exact fun e => dis y (by simp) y (List.mem_of_head? e) rfl
        · intro b hb
          have hby : y ≠ b := by
            rintro rfl
            exact (List.nodup_append.mp ndy).2.2 y hb y (by simp) rfl
          rw [hn b (by simp [hb]), hp b (by simp [hb]), if_neg (by simpa using hby), if_neg]
          · exact ⟨rfl, rfl⟩
          · exact fun e => dis b (by simp [hb]) b (List.mem_of_head? e) rfl
    · cases zs with
      | nil => trivial
      | cons z zs =>
        refine seg.2.2.2.of_prev ?_ ?_ ?_
        · rw [hp z (by simp)]
          simp
        · rw [hn z (by simp), if_neg]
          exact fun e => dis z (List.mem_of_getLast? e) z (by simp) rfl
        · intro b hb
          have hbz : z ≠ b := by
            rintro rfl
            exact (List.nodup_cons.mp ndz).1 hb
          rw [hn b (by simp [hb]), hp b (by simp [hb]), if_neg, if_neg (by simpa using hbz)]
          · exact ⟨rfl, rfl⟩
          · exact fun e => dis b (List.mem_of_getLast? e) b (by simp [hb]) rfl

/-- Unlinking a member. -/
lemma Rep.unlink (r : Rep l q (ys ++ a :: zs)) :
    Rep (unlink l q a).1 (unlink l q a).2 (ys ++ zs) := by
  obtain ⟨hp, hn⟩ := r.links
  obtain ⟨ha, nd⟩ := List.nodup_cons.mp (List.nodup_middle.mp r.nodup)
  have hya : ys.getLast? ≠ some a := fun e => ha (by simp [List.mem_of_getLast? e])
  have := r.without ((Queue.unlink l q a).1)
    (by intro b hb; simp [Queue.unlink, hp, hn])
    (by intro b hb; simp [Queue.unlink, hp, hn, hya])
  simpa [Queue.unlink, hp, hn, hya, List.getLast?_eq_none_iff] using this

lemma unlink_same (r : Rep l q (ys ++ a :: zs)) :
    Same (ys ++ a :: zs) l (unlink l q a).1 := by
  intro b hb
  obtain ⟨hp, hn⟩ := r.links
  simp only [List.mem_append, List.mem_cons, not_or] at hb
  obtain ⟨hby, hba, hbz⟩ := hb
  have hzb : zs.head? ≠ some b := fun e => hbz (List.mem_of_head? e)
  have hyb : ys.getLast? ≠ some b := fun e => hby (List.mem_of_getLast? e)
  by_cases hya : ys.getLast? = some a <;> simp [Queue.unlink, hp, hn, hzb, hyb, hya, Ne.symm hba]

end Specs

section Scans

variable {l : Links α} {xs zs : List α}

/-- Going back from the end of a queue stops behind the last node that does not satisfy `p`. -/
lemma scanBack_eq {p : α → Bool} {fuel} (hs : Seg l none (xs ++ zs) none) (hf : xs.length < fuel)
    (hz : ∀ z ∈ zs, p z = true) :
    ∃ ys ws, xs ++ zs = ys ++ ws ∧
      scanBack l p fuel xs.getLast? zs.head? = (ys.getLast?, ws.head?) ∧
      (∀ w ∈ ws, p w = true) ∧ ∀ y ∈ ys.getLast?, p y = false := by
  induction fuel generalizing xs zs with
  | zero => omega
  | succ fuel ih =>
    rcases List.eq_nil_or_concat' xs with rfl | ⟨xs, x, rfl⟩
    · exact ⟨[], zs, rfl, by simp [scanBack], hz, by simp⟩
    · have hl : (xs ++ [x]).getLast? = some x := List.getLast?_concat
      rw [List.append_assoc, List.singleton_append] at hs ⊢
      have hp : l.prev x = xs.getLast? := by
        have := (seg_mid.mp hs).2.1
        simpa using this
      cases hx : p x with
      | false =>
        refine ⟨xs ++ [x], zs, by simp, ?_, hz, ?_⟩
        · simp [scanBack, hx]
        · rw [hl]
          simpa using hx
      | true =>
        have hz' : ∀ z ∈ x :: zs, p z = true := by
          intro z hz'
          rcases List.mem_cons.mp hz' with rfl | h
          · exact hx
          · exact hz z h
        obtain ⟨ys, ws, e, hsc, hw, hy⟩ := ih hs (by simp at hf; omega) hz'
        refine ⟨ys, ws, e, ?_, hw, hy⟩
        rw [← hsc]
        simp only [List.head?_cons, scanBack, hl, hx, if_true, hp]

end Scans

end Queue

end NexsKernel
