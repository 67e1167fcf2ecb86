import NexsKernel.Smp.State

/-!
# Mutual exclusion

`LockInv` is the invariant of the lock. There is one request more than there are cores: each core owns one, and
the spare one is watched by the first core of the queue, or by nobody when the queue is empty. Each other core of
the queue watches the request of the core before it. Only the first core can see a request that is granted, and
thus only it can hold the lock.
-/

namespace NexsKernel.Smp

open Function (update update_self update_of_ne update_apply)

/-- What a core has to do with the lock. -/
inductive Role where
  | out
  | waiting
  | holding
  /-- In `restore_user_context`, with or without the lock. -/
  | leaving
  deriving DecidableEq, Repr

def Return.role : Return → Role
  | loop _ _ => .waiting
  | interrupt => .out
  | kernel => .holding

def Pc.role : Pc → Role
  | user | pend _ | enqueue _ | reclaim => .out
  | spin _ _ | poll _ _ => .waiting
  | loadCall ret | loadArg0 ret _ _ | loadArg1 ret _ _ _ | loadArg2 ret _ _ _ _ | check ret _ _ | perform ret _ _
  | clear ret | loadCores ret | loadSense ret _ | arrive ret _ _ | resetCount ret _ | advance ret _
  | await ret _ => ret.role
  | kernel | setCall _ _ | setArg0 _ _ | setArg1 _ _ | setArg2 _ _ | setCores _ | send _ | grant => .holding
  | exit => .leaving

lemma Return.role_ne_leaving (ret : Return) : ret.role ≠ .leaving := by
  cases ret <;> simp [role]

lemma Pc.eq_exit {pc : Pc} (h : pc.role = .leaving) : pc = .exit := by
  cases pc <;> first | rfl | exact absurd h (Return.role_ne_leaving _) | cases h

/-- A core that is about to exchange `tail`. -/
def Pc.isEnqueue : Pc → Bool
  | enqueue _ => true
  | _ => false

variable {n i : Nat} {s s' : State} {r0 : Nat} {queue : List Nat}

/-- The request that a core owns; one that has passed the lock on takes that of its predecessor. -/
def State.own (s : State) (i : Nat) : Nat :=
  if s.pc i = .reclaim then s.watch i else s.myreq i

/-- The first core watches `r`, and each other the request of the core before it; the last request is `tail`. -/
def Chain (watch myreq : Nat → Nat) : Nat → List Nat → Nat → Prop
  | r, [], tail => tail = r
  | r, i :: queue, tail => watch i = r ∧ Chain watch myreq (myreq i) queue tail

lemma Chain.congr {watch watch' myreq myreq' : Nat → Nat} {r tail : Nat} (h : Chain watch myreq r queue tail)
    (hw : ∀ j ∈ queue, watch' j = watch j) (hm : ∀ j ∈ queue, myreq' j = myreq j) :
    Chain watch' myreq' r queue tail := by
  induction queue generalizing r with
  | nil => exact h
  | cons i queue ih =>
    obtain ⟨hi, h⟩ := h
    refine ⟨(hw i List.mem_cons_self).trans hi, ?_⟩
    rw [hm i List.mem_cons_self]
    exact ih h (fun j hj => hw j (List.mem_cons_of_mem _ hj)) fun j hj => hm j (List.mem_cons_of_mem _ hj)

/-- A core watches the last request and becomes the last one. -/
lemma Chain.append {watch myreq : Nat → Nat} {r tail : Nat} (h : Chain watch myreq r queue tail) (hi : i ∉ queue) :
    Chain (update watch i tail) myreq r (queue ++ [i]) (myreq i) := by
  induction queue generalizing r with
  | nil => exact ⟨(update_self ..).trans h, rfl⟩
  | cons j queue ih =>
    obtain ⟨hj, h⟩ := h
    have hne : j ≠ i := fun e => hi (e ▸ List.mem_cons_self)
    exact ⟨(update_of_ne hne ..).trans hj, ih h fun hi' => hi (List.mem_cons_of_mem _ hi')⟩

/-- A core of the queue that is not the first watches the request of another one of the queue. -/
lemma Chain.watch_eq {watch myreq : Nat → Nat} {r tail : Nat} (h : Chain watch myreq r queue tail) (hi : i ∈ queue) :
    queue.head? = some i ∧ watch i = r ∨ ∃ j ∈ queue, watch i = myreq j := by
  induction queue generalizing r with
  | nil => cases hi
  | cons j queue ih =>
    obtain ⟨hj, h⟩ := h
    rcases List.mem_cons.mp hi with rfl | hi
    · exact .inl ⟨rfl, hj⟩
    · rcases ih h hi with ⟨-, hw⟩ | ⟨k, hk, hw⟩
      · exact .inr ⟨j, List.mem_cons_self, hw⟩
      · exact .inr ⟨k, List.mem_cons_of_mem _ hk, hw⟩

/-- Where a core stands in the queue. -/
def Role.Place (queue : List Nat) (i : Nat) : Role → Prop
  | out => i ∉ queue
  | waiting => i ∈ queue
  | holding => queue.head? = some i
  | leaving => i ∈ queue → queue.head? = some i

/-- What holds of the lock in every state. -/
structure LockInv (n : Nat) (s : State) (r₀ : Nat) (queue : List Nat) : Prop where
  nodup : queue.Nodup
  lt : ∀ i ∈ queue, i < n
  chain : Chain s.watch s.myreq r₀ queue s.tail
  spare : s.request r₀ = .granted
  own_ne : ∀ i < n, s.own i ≠ r₀
  own_inj : ∀ i < n, ∀ j < n, s.own i = s.own j → i = j
  pending : ∀ i < n, s.request (s.own i) = .pending ↔ i ∈ queue ∨ (s.pc i).isEnqueue = true
  place : ∀ i < n, (s.pc i).role.Place queue i
  fifo : s.arrived = s.served ++ queue.filter fun i => (s.pc i).role = .waiting

/-- Nothing of the lock is changed. -/
structure SameLock (s s' : State) : Prop where
  request : s'.request = s.request
  watch : s'.watch = s.watch
  myreq : s'.myreq = s.myreq
  tail : s'.tail = s.tail

/-- A core has the lock, until it has passed it on. -/
def State.Holds (s : State) (i : Nat) : Prop :=
  (s.pc i).role = .holding ∨ s.pc i = .exit ∧ s.request (s.myreq i) = .pending

/-- What is said of every core is the same for those that do not move. -/
lemma forall_update {P : Pc → Nat → Prop} {pcs : Nat → Pc} {pc : Pc} (hi : P pc i)
    (h : ∀ j < n, j ≠ i → P (pcs j) j) : ∀ j < n, P (update pcs i pc j) j := by
  intro j hj
  rw [update_apply]
  split
  · rename_i e
    rw [e]
    exact hi
  · rename_i e
    exact h j hj e

lemma own_eq (h : s.pc i ≠ .reclaim) : s.own i = s.myreq i :=
  if_neg h

namespace LockInv

variable {pc : Pc} {ret : Return} {irqPath stalled : Bool}

lemma own_of_mem (h : LockInv n s r0 queue) (hi : i ∈ queue) : s.own i = s.myreq i := by
  apply own_eq
  intro e
  have hp := h.place i (h.lt i hi)
  rw [e] at hp
  exact hp hi

/-- A core that holds the lock is the first of the queue. -/
lemma head_of_holds (h : LockInv n s r0 queue) (hi : i < n) (hh : s.Holds i) : queue.head? = some i := by
  have hp := h.place i hi
  rcases hh with hh | ⟨hpc, hreq⟩
  · rwa [hh] at hp
  · rw [hpc] at hp
    rw [← own_eq (by rw [hpc]; simp), h.pending i hi, hpc] at hreq
    exact hp (hreq.resolve_right (by simp [Pc.isEnqueue]))

/-- Only the first core of the queue sees a request that is granted. -/
lemma watch_granted_iff (h : LockInv n s r0 queue) (hi : i ∈ queue) :
    s.request (s.watch i) = .granted ↔ queue.head? = some i := by
  constructor
  · intro hg
    rcases h.chain.watch_eq hi with ⟨hhead, -⟩ | ⟨j, hj, hw⟩
    · exact hhead
    · have hp := (h.pending j (h.lt j hj)).mpr (.inl hj)
      rw [h.own_of_mem hj, ← hw, hg] at hp
      cases hp
  · intro hhead
    obtain ⟨rest, rfl⟩ := List.head?_eq_some_iff.mp hhead
    rw [h.chain.1]
    exact h.spare

/-- The same cores wait as before. -/
lemma fifo_same (h : LockInv n s r0 queue) (harrived : s'.arrived = s.arrived) (hserved : s'.served = s.served)
    (hpc : s'.pc = update s.pc i pc) (hwait : pc.role = .waiting ↔ (s.pc i).role = .waiting) :
    s'.arrived = s'.served ++ queue.filter fun j => (s'.pc j).role = .waiting := by
  rw [harrived, hserved, h.fifo, hpc]
  congr 1
  refine List.filter_congr fun j _ => ?_
  rw [update_apply]
  split
  · rename_i e
    rw [e]
    simp only [hwait]
  · rfl

/-- A core goes on with another step and leaves the lock as it is. -/
lemma move (h : LockInv n s r0 queue) (hi : i < n) (e : SameLock s s') (hpc : s'.pc = update s.pc i pc)
    (henq : pc.isEnqueue = (s.pc i).isEnqueue) (hrec : pc = .reclaim ↔ s.pc i = .reclaim)
    (hplace : pc.role.Place queue i)
    (hfifo : s'.arrived = s'.served ++ queue.filter fun j => (s'.pc j).role = .waiting) : LockInv n s' r0 queue := by
  have hown : ∀ j, s'.own j = s.own j := by
    intro j
    unfold State.own
    rw [e.watch, e.myreq, hpc, update_apply]
    by_cases hj : j = i
    · rw [if_pos hj, hj]
      simp only [hrec]
    · rw [if_neg hj]
  refine ⟨h.nodup, h.lt, ?_, ?_, fun j hj => ?_, fun j hj k hk e => ?_, ?_, ?_, hfifo⟩
  · rw [e.watch, e.myreq, e.tail]
    exact h.chain
  · rw [e.request]
    exact h.spare
  · rw [hown]
    exact h.own_ne j hj
  · rw [hown, hown] at e
    exact h.own_inj j hj k hk e
  · simp only [e.request, hown, hpc]
    refine forall_update (P := fun pc j => s.request (s.own j) = .pending ↔ j ∈ queue ∨ pc.isEnqueue = true) ?_
      fun j hj _ => h.pending j hj
    rw [henq]
    exact h.pending i hi
  · rw [hpc]
    exact forall_update (P := fun pc j => pc.role.Place queue j) hplace fun j hj _ => h.place j hj

/-- A core goes on in the same role. -/
lemma goto (h : LockInv n s r0 queue) (hi : i < n) (e : SameLock s s') (harrived : s'.arrived = s.arrived)
    (hserved : s'.served = s.served) (hpc : s'.pc = update s.pc i pc)
    (henq : pc.isEnqueue = (s.pc i).isEnqueue) (hrec : pc = .reclaim ↔ s.pc i = .reclaim)
    (hrole : pc.role = (s.pc i).role) : LockInv n s' r0 queue := by
  refine h.move hi e hpc henq hrec ?_ (h.fifo_same harrived hserved hpc (by rw [hrole]))
  rw [hrole]
  exact h.place i hi

/-- A core comes back from `handleIPI` or `ipi_wait`. -/
lemma resume (h : LockInv n s r0 queue) (hi : i < n) (hrole : (s.pc i).role = ret.role)
    (henq : (s.pc i).isEnqueue = false) (hrec : s.pc i ≠ .reclaim) : LockInv n (s.goto i ret.resume) r0 queue := by
  have hp := h.place i hi
  rw [hrole] at hp
  refine h.move hi ⟨rfl, rfl, rfl, rfl⟩ rfl ?_ ?_ ?_ (h.fifo_same rfl rfl rfl ?_)
  · rw [henq]
    cases ret <;> rfl
  · refine iff_of_false ?_ hrec
    cases ret <;> simp [Return.resume]
  · cases ret with
    | loop => exact hp
    | interrupt => exact fun hq => absurd hq hp
    | kernel => exact hp
  · rw [hrole]
    cases ret <;> simp [Return.resume, Pc.role, Return.role]

/-- A core sets its request, which nobody watches. -/
lemma pend (h : LockInv n s r0 queue) (hi : i < n) (hpc : s.pc i = .pend irqPath) :
    LockInv n ((s.setRequest (s.myreq i) .pending).goto i (.enqueue irqPath)) r0 queue := by
  have hown : ∀ j, ((s.setRequest (s.myreq i) .pending).goto i (.enqueue irqPath)).own j = s.own j := by
    intro j
    show (if update s.pc i _ j = _ then s.watch j else s.myreq j) = _
    unfold State.own
    rw [update_apply]
    by_cases hj : j = i
    · rw [if_pos hj, hj, if_neg (by simp), if_neg (by simp [hpc])]
    · rw [if_neg hj]
  have howni : s.own i = s.myreq i := own_eq (by simp [hpc])
  have hp := h.place i hi
  rw [hpc] at hp
  refine ⟨h.nodup, h.lt, h.chain, ?_, fun j hj => ?_, fun j hj k hk e => ?_, ?_, ?_, h.fifo_same rfl rfl rfl ?_⟩
  · refine (update_of_ne ?_ ..).trans h.spare
    rw [← howni]
    exact (h.own_ne i hi).symm
  · rw [hown]
    exact h.own_ne j hj
  · rw [hown, hown] at e
    exact h.own_inj j hj k hk e
  · simp only [hown]
    refine forall_update (P := fun pc j =>
      update s.request (s.myreq i) .pending (s.own j) = .pending ↔ j ∈ queue ∨ pc.isEnqueue = true) ?_
      fun j hj hne => ?_
    · rw [howni, update_self]
      simp [Pc.isEnqueue]
    · rw [update_of_ne (by rw [← howni]; exact fun e => hne (h.own_inj j hj i hi e))]
      exact h.pending j hj
  · exact forall_update (P := fun pc j => pc.role.Place queue j) hp fun j hj _ => h.place j hj
  · rw [hpc]
    simp [Pc.role]

/-- A core joins the end of the queue. -/
lemma enqueue (h : LockInv n s r0 queue) (hi : i < n) (hpc : s.pc i = .enqueue irqPath) :
    LockInv n ({ s with
      watch := update s.watch i s.tail
      tail := s.myreq i
      arrived := s.arrived ++ [i] }.goto i (.spin irqPath false)) r0 (queue ++ [i]) := by
  have hiq := h.place i hi
  rw [hpc] at hiq
  have hown : ∀ j, ({ s with
      watch := update s.watch i s.tail
      tail := s.myreq i
      arrived := s.arrived ++ [i] }.goto i (.spin irqPath false)).own j = s.own j := by
    intro j
    show (if update s.pc i _ j = _ then update s.watch i s.tail j else s.myreq j) = _
    unfold State.own
    rw [update_apply, update_apply]
    by_cases hj : j = i
    · rw [if_pos hj, hj, if_neg (by simp), if_neg (by simp [hpc])]
    · rw [if_neg hj, if_neg hj]
  refine ⟨?_, fun j hj => ?_, h.chain.append hiq, h.spare, fun j hj => ?_, fun j hj k hk e => ?_, ?_, ?_, ?_⟩
  · exact List.nodup_append.mpr ⟨h.nodup, by simp, fun a ha b hb e => hiq (by simp_all)⟩
  · rcases List.mem_append.mp hj with hj | hj
    · exact h.lt j hj
    · rw [List.mem_singleton.mp hj]
      exact hi
  · rw [hown]
    exact h.own_ne j hj
  · rw [hown, hown] at e
    exact h.own_inj j hj k hk e
  · simp only [hown]
    refine forall_update (P := fun pc j =>
      s.request (s.own j) = .pending ↔ j ∈ queue ++ [i] ∨ pc.isEnqueue = true) ?_ fun j hj hne => ?_
    · rw [h.pending i hi, hpc]
      simp [Pc.isEnqueue]
    · rw [h.pending j hj]
      simp [hne]
  · refine forall_update (P := fun pc j => pc.role.Place (queue ++ [i]) j) (by simp [Pc.role, Role.Place])
      fun j hj hne => ?_
    have hp := h.place j hj
    cases hrole : (s.pc j).role <;> rw [hrole] at hp <;> simp only [Role.Place] at hp ⊢
    · simp [hp, hne]
    · exact List.mem_append_left _ hp
    · rw [List.head?_append, hp]
      rfl
    · intro hq
      rw [List.head?_append, hp (by simpa [hne] using hq)]
      rfl
  · show s.arrived ++ [i] = s.served ++ (queue ++ [i]).filter fun j => (update s.pc i _ j).role = .waiting
    rw [h.fifo, List.filter_append, List.append_assoc]
    congr 2
    · refine List.filter_congr fun j hj => ?_
      rw [update_of_ne (by rintro rfl; exact hiq hj)]
    · simp [Pc.role]

/-- The first core of the queue has the lock. -/
lemma lock (h : LockInv n s r0 queue) (hi : i < n) (hpc : s.pc i = .spin irqPath stalled)
    (hg : s.request (s.watch i) = .granted) :
    LockInv n ({ s with served := s.served ++ [i] }.goto i (afterLock stalled)) r0 queue := by
  have hiq := h.place i hi
  rw [hpc] at hiq
  have hhead := (h.watch_granted_iff hiq).mp hg
  refine h.move hi ⟨rfl, rfl, rfl, rfl⟩ rfl ?_ ?_ ?_ ?_
  · rw [hpc]
    cases stalled <;> rfl
  · rw [hpc]
    cases stalled <;> simp [afterLock]
  · cases stalled
    · exact hhead
    · exact fun _ => hhead
  · obtain ⟨rest, rfl⟩ := List.head?_eq_some_iff.mp hhead
    have hrest : i ∉ rest := (List.nodup_cons.mp h.nodup).1
    show s.arrived = s.served ++ [i] ++ (i :: rest).filter fun j => (update s.pc i _ j).role = .waiting
    have hself : (afterLock stalled).role ≠ .waiting := by cases stalled <;> simp [afterLock, Pc.role]
    rw [h.fifo, List.filter_cons_of_pos (by rw [hpc]; rfl), List.filter_cons_of_neg (by simpa using hself),
      List.append_assoc]
    congr 2
    refine List.filter_congr fun j hj => ?_
    rw [update_of_ne (by rintro rfl; exact hrest hj)]

/-- The first core passes the lock on: its request becomes the spare one, and it owns the one it has watched. -/
lemma grant (h : LockInv n s r0 queue) (hi : i < n) (hpc : s.pc i = .grant) :
    LockInv n ((s.setRequest (s.myreq i) .granted).goto i .reclaim) (s.myreq i) queue.tail := by
  have hhead := h.place i hi
  rw [hpc] at hhead
  obtain ⟨rest, rfl⟩ := List.head?_eq_some_iff.mp hhead
  obtain ⟨hrest, hnodup⟩ := List.nodup_cons.mp h.nodup
  obtain ⟨hwatch, hchain⟩ := h.chain
  have howni : s.own i = s.myreq i := own_eq (by simp [hpc])
  have hown : ∀ j, j ≠ i → ((s.setRequest (s.myreq i) .granted).goto i .reclaim).own j = s.own j := by
    intro j hj
    show (if update s.pc i _ j = _ then s.watch j else s.myreq j) = _
    rw [update_of_ne hj]
    rfl
  have hself : ((s.setRequest (s.myreq i) .granted).goto i .reclaim).own i = r0 := by
    show (if update s.pc i _ i = _ then s.watch i else s.myreq i) = _
    rw [update_self, if_pos rfl, hwatch]
  have hne : ∀ j < n, j ≠ i → s.own j ≠ s.myreq i := by
    intro j hj hji e
    rw [← howni] at e
    exact hji (h.own_inj j hj i hi e)
  refine ⟨hnodup, fun j hj => h.lt j (List.mem_cons_of_mem _ hj), hchain, update_self .., fun j hj => ?_,
    fun j hj k hk e => ?_, fun j hj => ?_, ?_, ?_⟩
  · by_cases hji : j = i
    · rw [hji, hself, ← howni]
      exact (h.own_ne i hi).symm
    · rw [hown j hji]
      exact hne j hj hji
  · by_cases hji : j = i
    · by_cases hki : k = i
      · rw [hji, hki]
      · rw [hji, hself, hown k hki] at e
        exact absurd e.symm (h.own_ne k hk)
    · by_cases hki : k = i
      · rw [hki, hself, hown j hji] at e
        exact absurd e (h.own_ne j hj)
      · rw [hown j hji, hown k hki] at e
        exact h.own_inj j hj k hk e
  · show update s.request (s.myreq i) .granted _ = _ ↔ j ∈ rest ∨ (update s.pc i _ j).isEnqueue = true
    by_cases hji : j = i
    · rw [hji, hself, update_of_ne (by rw [← howni]; exact (h.own_ne i hi).symm), h.spare, update_self]
      simp [hrest, Pc.isEnqueue]
    · rw [hown j hji, update_of_ne (hne j hj hji), h.pending j hj, update_of_ne hji]
      simp [hji]
  · refine forall_update (P := fun pc j => pc.role.Place rest j) hrest fun j hj hji => ?_
    have hp := h.place j hj
    have hne : some i ≠ some j := fun e => hji (Option.some.inj e).symm
    show (s.pc j).role.Place rest j
    cases hrole : (s.pc j).role <;> rw [hrole] at hp <;> simp only [Role.Place] at hp ⊢
    · exact fun hq => hp (List.mem_cons_of_mem _ hq)
    · exact (List.mem_cons.mp hp).resolve_left hji
    · exact absurd hp hne
    · exact fun hq => absurd (hp (List.mem_cons_of_mem _ hq)) hne
  · show s.arrived = s.served ++ rest.filter fun j => (update s.pc i _ j).role = .waiting
    rw [h.fifo, List.filter_cons_of_neg (by rw [hpc]; simp [Pc.role])]
    congr 1
    refine List.filter_congr fun j hj => ?_
    rw [update_of_ne (by rintro rfl; exact hrest hj)]

/-- The core takes the request that it has watched. -/
lemma reclaim (h : LockInv n s r0 queue) (hi : i < n) (hpc : s.pc i = .reclaim) :
    LockInv n ({ s with myreq := update s.myreq i (s.watch i) }.goto i .user) r0 queue := by
  have hiq := h.place i hi
  rw [hpc] at hiq
  have hown : ∀ j, ({ s with myreq := update s.myreq i (s.watch i) }.goto i .user).own j = s.own j := by
    intro j
    show (if update s.pc i _ j = _ then s.watch j else update s.myreq i (s.watch i) j) = _
    unfold State.own
    by_cases hj : j = i
    · rw [hj, update_self, update_self, if_neg (by simp), if_pos hpc]
    · rw [update_of_ne hj, update_of_ne hj]
  refine ⟨h.nodup, h.lt, ?_, h.spare, fun j hj => ?_, fun j hj k hk e => ?_, ?_, ?_, h.fifo_same rfl rfl rfl ?_⟩
  · exact h.chain.congr (fun _ _ => rfl) fun j hj => update_of_ne (by rintro rfl; exact hiq hj) ..
  · rw [hown]
    exact h.own_ne j hj
  · rw [hown, hown] at e
    exact h.own_inj j hj k hk e
  · simp only [hown]
    refine forall_update (P := fun pc j => s.request (s.own j) = .pending ↔ j ∈ queue ∨ pc.isEnqueue = true) ?_
      fun j hj _ => h.pending j hj
    rw [h.pending i hi, hpc]
    rfl
  · exact forall_update (P := fun pc j => pc.role.Place queue j) hiq fun j hj _ => h.place j hj
  · rw [hpc]
    rfl

lemma afterCall_role (s : State) (i : Nat) (ret : Return) (f : RemoteCall) :
    (s.afterCall i ret f).role = ret.role := by
  unfold State.afterCall
  split
  · rename_i h
    cases ret <;> first | rfl | cases h.2.2
  · rfl

/-- Each step of a core keeps the queue of the lock. -/
lemma step (h : LockInv n s r0 queue) (hi : i < n) (st : CoreStep n i s s') :
    ∃ r0 queue, LockInv n s' r0 queue := by
  have hp := h.place i hi
  cases st with
  | pend hpc => exact ⟨_, _, h.pend hi hpc⟩
  | enqueue hpc => exact ⟨_, _, h.enqueue hi hpc⟩
  | lock hpc hg => exact ⟨_, _, h.lock hi hpc hg⟩
  | grant hpc => exact ⟨_, _, h.grant hi hpc⟩
  | reclaim hpc => exact ⟨_, _, h.reclaim hi hpc⟩
  | poll hpc =>
    refine ⟨_, _, h.goto hi ⟨rfl, rfl, rfl, rfl⟩ rfl rfl rfl ?_ ?_ ?_⟩ <;> rw [hpc] <;> split <;>
      simp [Pc.isEnqueue, Pc.role, Return.role]
  | check hpc =>
    split
    · refine ⟨_, _, h.goto hi ⟨rfl, rfl, rfl, rfl⟩ rfl rfl rfl ?_ ?_ ?_⟩ <;> rw [hpc] <;> simp [Pc.isEnqueue, Pc.role]
    · refine ⟨_, _, h.resume hi ?_ ?_ ?_⟩ <;> rw [hpc] <;> simp [Pc.isEnqueue, Pc.role]
  | perform hpc =>
    refine ⟨_, _, h.goto hi ⟨rfl, rfl, rfl, rfl⟩ rfl rfl rfl ?_ ?_ ?_⟩ <;> rw [hpc] <;>
      simp [Pc.isEnqueue, Pc.role, afterCall_role]
  | arrive hpc =>
    refine ⟨_, _, h.goto hi ⟨rfl, rfl, rfl, rfl⟩ rfl rfl rfl ?_ ?_ ?_⟩ <;> rw [hpc] <;> split <;>
      simp [Pc.isEnqueue, Pc.role]
  | await hpc =>
    split
    · refine ⟨_, _, h.goto hi ⟨rfl, rfl, rfl, rfl⟩ rfl rfl rfl ?_ ?_ ?_⟩ <;> rw [hpc]
    · refine ⟨_, _, h.resume hi ?_ ?_ ?_⟩ <;> rw [hpc] <;> simp [Pc.isEnqueue, Pc.role]
  | remote call mask hpc hmask =>
    split
    · refine ⟨_, _, h.goto hi ⟨rfl, rfl, rfl, rfl⟩ rfl rfl rfl ?_ ?_ ?_⟩ <;> rw [hpc] <;> simp [Pc.isEnqueue, Pc.role]
    · exact ⟨_, _, h⟩
  | leave hpc =>
    rw [hpc] at hp
    refine ⟨_, _, h.move hi ⟨rfl, rfl, rfl, rfl⟩ rfl ?_ ?_ (fun _ => hp) (h.fifo_same rfl rfl rfl ?_)⟩ <;> rw [hpc] <;>
      simp [Pc.isEnqueue, Pc.role]
  | exit hpc =>
    -- the core's own request tells whether it has the lock
    have hq := h.pending i hi
    rw [own_eq (by simp [hpc]), hpc] at hq
    rw [hpc] at hp
    split
    · rename_i e
      have hiq : i ∈ queue := (hq.mp e).resolve_right (by simp [Pc.isEnqueue])
      refine ⟨_, _, h.move hi ⟨rfl, rfl, rfl, rfl⟩ rfl ?_ ?_ (hp hiq) (h.fifo_same rfl rfl rfl ?_)⟩ <;> rw [hpc] <;>
        simp [Pc.isEnqueue, Pc.role]
    · rename_i e
      have hiq : i ∉ queue := fun hiq => e (hq.mpr (.inl hiq))
      refine ⟨_, _, h.move hi ⟨rfl, rfl, rfl, rfl⟩ rfl ?_ ?_ hiq (h.fifo_same rfl rfl rfl ?_)⟩ <;> rw [hpc] <;>
        simp [Pc.isEnqueue, Pc.role]
  | spin hpc _ | send hpc _ =>
    refine ⟨_, _, h.goto hi ⟨rfl, rfl, rfl, rfl⟩ rfl rfl rfl ?_ ?_ ?_⟩ <;> rw [hpc] <;> simp [Pc.isEnqueue, Pc.role]
  | _ =>
    rename_i hpc
    refine ⟨_, _, h.goto hi ⟨rfl, rfl, rfl, rfl⟩ rfl rfl rfl ?_ ?_ ?_⟩ <;> rw [hpc] <;>
      simp [Pc.isEnqueue, Pc.role, Return.role]

lemma init (s : State) : LockInv n (s.init n) n [] := by
  refine ⟨.nil, nofun, rfl, rfl, fun i hi e => ?_, fun i _ j _ e => ?_, fun i _ => ?_, fun i _ => ?_, rfl⟩
  · exact hi.ne e
  · exact e
  · simp [State.init, Pc.isEnqueue]
  · exact List.not_mem_nil

end LockInv

/-- In every state there is a queue. -/
lemma Reachable.lockInv (h : Reachable n s) : ∃ r0 queue, LockInv n s r0 queue := by
  obtain ⟨s0, h⟩ := h
  induction h with
  | refl => exact ⟨_, _, LockInv.init s0⟩
  | tail _ st ih =>
    obtain ⟨i, hi, st⟩ := st
    obtain ⟨r0, queue, ih⟩ := ih
    exact ih.step hi st

/-- At most one core has the lock, the cores get it in the order in which they have asked for it, and while a core
waits, another one has the lock or the first one in the queue is let in. -/
theorem reachable_lock (h : Reachable n s) :
    (∀ i < n, ∀ j < n, s.Holds i → s.Holds j → i = j) ∧ s.served <+: s.arrived ∧
      ((∃ i < n, (s.pc i).role = .waiting) →
        ∃ j < n, s.Holds j ∨ (s.pc j).role = .waiting ∧ s.request (s.watch j) = .granted) := by
  obtain ⟨r0, queue, h⟩ := h.lockInv
  refine ⟨fun i hi j hj hhi hhj => ?_, ⟨_, h.fifo.symm⟩, ?_⟩
  · exact Option.some.inj ((h.head_of_holds hi hhi).symm.trans (h.head_of_holds hj hhj))
  · rintro ⟨i, hi, hw⟩
    have hiq := h.place i hi
    rw [hw] at hiq
    obtain ⟨j, rest, rfl⟩ := List.exists_cons_of_ne_nil (List.ne_nil_of_mem hiq)
    have hj : j < n := h.lt j List.mem_cons_self
    have hown : s.request (s.own j) = .pending := (h.pending j hj).mpr (.inl List.mem_cons_self)
    have hp := h.place j hj
    refine ⟨j, hj, ?_⟩
    cases hrole : (s.pc j).role with
    | out =>
      rw [hrole] at hp
      exact absurd List.mem_cons_self hp
    | waiting => exact .inr ⟨rfl, (h.watch_granted_iff List.mem_cons_self).mpr rfl⟩
    | holding => exact .inl (.inl hrole)
    | leaving =>
      have hpc := Pc.eq_exit hrole
      rw [own_eq (by simp [hpc])] at hown
      exact .inl (.inr ⟨hpc, hown⟩)

/-- Core 0 has the lock, and core 1 waits. -/
theorem reachable_lock_two : ∃ s : State, Reachable 2 s ∧ s.Holds 0 ∧ (s.pc 1).role = .waiting ∧
    (∀ i < 2, ∀ j < 2, s.Holds i → s.Holds j → i = j) ∧ s.served <+: s.arrived ∧
      ((∃ i < 2, (s.pc i).role = .waiting) →
        ∃ j < 2, s.Holds j ∨ (s.pc j).role = .waiting ∧ s.request (s.watch j) = .granted) := by
  have h : Reachable 2 (State.zero.init 2) := ⟨State.zero, .refl⟩
  have h := h.step (i := 0) (by decide) (.enter false rfl)
  have h := h.step (i := 0) (by decide) (.pend rfl)
  have h := h.step (i := 0) (by decide) (.enqueue rfl)
  have h := h.step (i := 0) (by decide) (.lock rfl rfl)
  have h := h.step (i := 1) (by decide) (.enter false rfl)
  have h := h.step (i := 1) (by decide) (.pend rfl)
  have h := h.step (i := 1) (by decide) (.enqueue rfl)
  exact ⟨_, h, .inl rfl, rfl, reachable_lock h⟩

end NexsKernel.Smp
