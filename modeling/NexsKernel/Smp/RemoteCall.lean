import NexsKernel.Smp.Lock

/-!
# Remote calls

While no remote call is made, all flags are down and nobody is at the barrier (`Quiet`). While one is made, each target
is about to be sent the call, or its flag is up, or it has joined the barrier (`Busy`); the one who arrives last is the
one whose increment makes the count full, and when it advances `globalsense` everybody has arrived.
-/

namespace NexsKernel.Smp

open Mcs (Word clzl bitWord clzl_spec getLsbD_clearBit)
open Function (update update_self update_of_ne update_apply update_eq_self_iff)

/-! ## The bits of a word -/

/-- The positions of the bits that are set. -/
def bits (w : Word) : List Nat :=
  (List.range 64).filter fun j => w.getLsbD j

@[simp] lemma mem_bits {w : Word} {j : Nat} : j ∈ bits w ↔ w.getLsbD j = true := by
  unfold bits
  rw [List.mem_filter, List.mem_range]
  exact and_iff_right_of_imp fun h => BitVec.lt_of_getLsbD h

lemma bits_nodup (w : Word) : (bits w).Nodup :=
  List.nodup_range.filter _

lemma bits_length_le (w : Word) : (bits w).length ≤ 64 :=
  (List.length_filter_le ..).trans_eq List.length_range

lemma bits_zero : bits 0 = [] := by
  unfold bits
  exact List.filter_eq_nil_iff.mpr (by simp)

/-- The lowest bit of a word is the only one that `w & (w - 1)` does not have. -/
lemma exists_lowest {w : Word} (hw : w ≠ 0) :
    ∃ j, w.getLsbD j = true ∧ ∀ k, (w &&& (w - 1)).getLsbD k = true ↔ w.getLsbD k = true ∧ k ≠ j := by
  have hne : w.toNat ≠ 0 := fun e => hw (BitVec.eq_of_toNat_eq e)
  obtain ⟨j, m, ⟨m, rfl⟩, e⟩ := Nat.exists_eq_two_pow_mul_odd hne
  have hpos := Nat.two_pow_pos j
  have hlt : 2 ^ j < 2 ^ (j + 1) := Nat.pow_lt_pow_right (by decide) j.lt_succ_self
  have hw' : w.toNat = 2 ^ (j + 1) * m + 2 ^ j := by
    rw [e]
    ring
  have hpred : (w - 1).toNat = 2 ^ (j + 1) * m + (2 ^ j - 1) := by
    have := w.isLt
    have h1 : (1 : Word).toNat = 1 := rfl
    rw [BitVec.toNat_sub, h1]
    omega
  have hbit : ∀ k, w.getLsbD k = if k < j + 1 then (2 ^ j).testBit k else m.testBit (k - (j + 1)) := by
    intro k
    rw [BitVec.getLsbD, hw', Nat.testBit_two_pow_mul_add _ hlt]
  have hbit' : ∀ k, (w - 1).getLsbD k = if k < j + 1 then (2 ^ j - 1).testBit k else m.testBit (k - (j + 1)) := by
    intro k
    rw [BitVec.getLsbD, hpred, Nat.testBit_two_pow_mul_add _ (by omega)]
  refine ⟨j, ?_, fun k => ?_⟩
  · rw [hbit, if_pos j.lt_succ_self]
    exact Nat.testBit_two_pow_self
  · rw [BitVec.getLsbD_and, hbit, hbit', Nat.testBit_two_pow, Nat.testBit_two_pow_sub_one]
    split
    · by_cases hk : j = k
      · simp [hk]
      · simp [hk]
    · have : k ≠ j := by omega
      simp [this]

lemma bits_clear {w v : Word} {j : Nat} (hj : w.getLsbD j = true)
    (hv : ∀ k, v.getLsbD k = true ↔ w.getLsbD k = true ∧ k ≠ j) : (bits v).length + 1 = (bits w).length := by
  have hperm : (bits w).Perm (j :: bits v) := by
    rw [List.perm_ext_iff_of_nodup (bits_nodup w)]
    · intro k
      rw [List.mem_cons, mem_bits, mem_bits, hv]
      by_cases hk : k = j
      · simp [hk, hj]
      · simp [hk]
    · refine List.nodup_cons.mpr ⟨?_, bits_nodup v⟩
      rw [mem_bits, hv]
      exact fun h => h.2 rfl
  rw [hperm.length_eq, List.length_cons]

lemma popcountLoop_eq {k : Nat} {w : Word} (c : Nat) (hk : (bits w).length ≤ k) :
    popcountLoop k w c = c + (bits w).length := by
  induction k generalizing w c with
  | zero =>
    rw [popcountLoop, Nat.le_zero.mp hk]
    rfl
  | succ k ih =>
    rw [popcountLoop]
    split
    · rename_i e
      rw [e, bits_zero]
      rfl
    · rename_i hw
      obtain ⟨j, hj, hv⟩ := exists_lowest hw
      have hlen := bits_clear hj hv
      rw [ih (c + 1) (by omega)]
      omega

/-- `popcountl` counts the bits. -/
lemma popcountl_eq (w : Word) : popcountl w = (bits w).length := by
  unfold popcountl Mcs.wordBits
  rw [popcountLoop_eq 0 (bits_length_le w), Nat.zero_add]

/-! ## The invariant -/

variable {n i h : Nat} {s s' : State} {rem : Word} {joined arr : List Nat}

/-- The core has been sent the remote call that was made last. -/
def State.Target (s : State) (j : Nat) : Prop :=
  s.targets.getLsbD j = true

/-- Each target, and nobody else, has performed a call, and has performed it once. -/
def State.Complete (s : State) : Prop :=
  (s.performed.map Performed.core).Nodup ∧ ∀ j, j ∈ s.performed.map Performed.core ↔ s.Target j

/-- The targets are other cores, and the call is to be written. -/
structure State.Prepared (s : State) (n i : Nat) (mask : Word) : Prop where
  mask : mask = s.targets
  lt : ∀ j, s.Target j → j < n
  other : ¬ s.Target i
  performed : s.performed = []

/-- What a core can do while no remote call is made; the core that makes the next one prepares it, and the one that
has made the last one returns. -/
def Rest (n : Nat) (s : State) (i : Nat) : Pc → Prop
  | .perform _ _ _ | .clear _ | .loadCores _ | .loadSense _ _ | .arrive _ _ _ | .resetCount _ _ | .advance _ _
  | .send _ => False
  | .await .kernel localsense => localsense ≠ s.globalsense ∧ s.Complete
  | .setCall call mask => call = s.made ∧ s.Prepared n i mask
  | .setArg0 call mask => call = s.made ∧ s.Prepared n i mask ∧ s.call.remoteCall = s.made.remoteCall
  | .setArg1 call mask => call = s.made ∧ s.Prepared n i mask ∧ s.call.remoteCall = s.made.remoteCall ∧
      s.call.arg0 = s.made.arg0
  | .setArg2 call mask => call = s.made ∧ s.Prepared n i mask ∧ s.call.remoteCall = s.made.remoteCall ∧
      s.call.arg0 = s.made.arg0 ∧ s.call.arg1 = s.made.arg1
  | .setCores mask => s.Prepared n i mask ∧ s.call = s.made
  | _ => True

/-- No remote call is made. -/
structure Quiet (n : Nat) (s : State) : Prop where
  flags : ∀ j, s.ipi j = false
  count : s.count = 0
  rest : ∀ i < n, Rest n s i (s.pc i)

/-- What a core can do while core `h` makes a remote call: `rem` is what is left of the mask, `joined` are those who
have come to the barrier, and `arr` those who have incremented the count. -/
def Stage (s : State) (h : Nat) (rem : Word) (joined arr : List Nat) (i : Nat) : Pc → Prop
  | .perform _ _ _ | .clear _ => s.ipi i = true
  | .loadCores _ => i ∈ joined ∧ i ∉ arr
  | .loadSense _ cores => i ∈ joined ∧ i ∉ arr ∧ cores = s.totalCoreBarrier
  | .arrive _ cores localsense =>
    i ∈ joined ∧ i ∉ arr ∧ cores = s.totalCoreBarrier ∧ localsense = s.globalsense
  | .resetCount _ localsense => i ∈ arr ∧ arr.length = (bits s.targets).length + 1 ∧ localsense = s.globalsense
  | .advance _ localsense =>
    i ∈ arr ∧ arr.length = (bits s.targets).length + 1 ∧ localsense = s.globalsense ∧ s.count = 0
  | .await _ localsense => i ∈ joined → i ∈ arr ∧ localsense = s.globalsense
  | .send mask => i = h ∧ mask = rem ∧ i ∉ joined
  | .setCall _ _ | .setArg0 _ _ | .setArg1 _ _ | .setArg2 _ _ | .setCores _ => False
  | _ => i ∉ joined

/-- A core that ends the barrier. -/
def Pc.isLast : Pc → Bool
  | resetCount _ _ | advance _ _ => true
  | _ => false

def Pc.isClear : Pc → Bool
  | clear _ => true
  | _ => false

lemma isLast_update {pcs : Nat → Pc} {pc : Pc} (h : pc.isLast = (pcs i).isLast) (j : Nat) :
    (update pcs i pc j).isLast = (pcs j).isLast := by
  rw [update_apply]
  split
  · rename_i e
    rw [h, e]
  · rfl

/-- Core `h` makes a remote call. -/
structure Busy (n : Nat) (s : State) (h : Nat) (rem : Word) (joined arr : List Nat) : Prop where
  lt : h < n
  role : (s.pc h).role = .holding
  other : ¬ s.Target h
  targets_lt : ∀ j, s.Target j → j < n
  cores : s.totalCoreBarrier = BitVec.ofNat 64 (bits s.targets).length
  call : s.call = s.made
  left : ∀ j, rem.getLsbD j = true → s.Target j
  start : s.pc h = .send rem ∧ h ∉ joined ∨ rem = 0 ∧ h ∈ joined
  flags : ∀ j, s.ipi j = true ↔ s.Target j ∧ rem.getLsbD j = false ∧ j ∉ joined
  joined_nodup : joined.Nodup
  joined_sub : ∀ j ∈ joined, j = h ∨ s.Target j ∧ rem.getLsbD j = false
  arr_nodup : arr.Nodup
  arr_sub : ∀ j ∈ arr, j ∈ joined
  stage : ∀ i < n, Stage s h rem joined arr i (s.pc i)
  count : arr.length ≤ (bits s.targets).length → s.count = BitVec.ofNat 64 arr.length
  last : ∀ i < n, ∀ j < n, (s.pc i).isLast = true → (s.pc j).isLast = true → i = j
  ends : (bits s.targets).length < arr.length → ∃ i < n, (s.pc i).isLast = true
  nodup : (s.performed.map Performed.core).Nodup
  performed : ∀ j < n, j ∈ s.performed.map Performed.core ↔ j ≠ h ∧ j ∈ joined ∨ (s.pc j).isClear = true
  performed_lt : ∀ j ∈ s.performed.map Performed.core, j < n

/-- Nothing of the remote calls is changed. -/
structure SameCall (s s' : State) : Prop where
  ipi : s'.ipi = s.ipi
  count : s'.count = s.count
  globalsense : s'.globalsense = s.globalsense
  totalCoreBarrier : s'.totalCoreBarrier = s.totalCoreBarrier
  call : s'.call = s.call
  made : s'.made = s.made
  targets : s'.targets = s.targets
  performed : s'.performed = s.performed

/-! ## While no remote call is made -/

lemma Rest.congr {pc : Pc} (hr : Rest n s i pc) (e : SameCall s s') : Rest n s' i pc := by
  obtain ⟨-, -, hg, -, hc, hm, ht, hp⟩ := e
  have prepared : ∀ {mask}, s.Prepared n i mask → s'.Prepared n i mask := by
    rintro mask ⟨h1, h2, h3, h4⟩
    refine ⟨h1.trans ht.symm, ?_, ?_, hp.trans h4⟩ <;> unfold State.Target at * <;> rwa [ht]
  cases pc with
  | await ret localsense =>
    cases ret with
    | kernel =>
      obtain ⟨hne, hcomplete⟩ := hr
      refine ⟨by rwa [hg], ?_⟩
      unfold State.Complete State.Target at *
      rwa [hp, ht]
    | _ => trivial
  | setCall call mask => exact ⟨by rw [hm]; exact hr.1, prepared hr.2⟩
  | setArg0 call mask | setArg1 call mask | setArg2 call mask =>
    exact ⟨by rw [hm]; exact hr.1, prepared hr.2.1, by rw [hm, hc]; exact hr.2.2⟩
  | setCores mask => exact ⟨prepared hr.1, by rw [hm, hc]; exact hr.2⟩
  | _ => exact hr

/-- The cores that do not have the lock do not depend on the call. -/
lemma Rest.of_not_holding {pc : Pc} (hr : Rest n s i pc) (hrole : pc.role ≠ .holding) : Rest n s' i pc := by
  cases pc with
  | await ret localsense =>
    cases ret with
    | kernel => exact absurd rfl hrole
    | _ => trivial
  | setCall | setArg0 | setArg1 | setArg2 | setCores => exact absurd rfl hrole
  | _ => exact hr

namespace Quiet

variable {pc : Pc}

lemma goto (q : Quiet n s) (e : SameCall s s') (hpc : s'.pc = update s.pc i pc) (hr : Rest n s i pc) :
    Quiet n s' := by
  refine ⟨fun j => ?_, e.count.trans q.count, ?_⟩
  · rw [e.ipi]
    exact q.flags j
  · rw [hpc]
    exact forall_update (P := fun pc j => Rest n s' j pc) (hr.congr e) fun j hj _ => (q.rest j hj).congr e

/-- The core that has the lock changes the call. -/
lemma goto_holder (q : Quiet n s) (hipi : s'.ipi = s.ipi) (hcount : s'.count = s.count)
    (hpc : s'.pc = update s.pc i pc) (hx : ∀ j < n, (s.pc j).role = .holding → j = i)
    (hr : Rest n s' i pc) : Quiet n s' := by
  refine ⟨fun j => ?_, hcount.trans q.count, ?_⟩
  · rw [hipi]
    exact q.flags j
  · rw [hpc]
    exact forall_update (P := fun pc j => Rest n s' j pc) hr fun j hj hne =>
      (q.rest j hj).of_not_holding fun e => hne (hx j hj e)

lemma resume (q : Quiet n s) (ret : Return) : Quiet n (s.goto i ret.resume) := by
  refine q.goto ⟨rfl, rfl, rfl, rfl, rfl, rfl, rfl, rfl⟩ rfl ?_
  cases ret <;> trivial

/-- The count of the cores is stored, and the flags are about to be set. -/
lemma busy (q : Quiet n s) (hi : i < n) {mask : Word} (hpc : s.pc i = .setCores mask)
    (hx : ∀ j < n, (s.pc j).role = .holding → j = i) :
    Busy n ({ s with totalCoreBarrier := BitVec.ofNat 64 (popcountl mask) }.goto i (.send mask)) i mask [] [] := by
  have hr := q.rest i hi
  rw [hpc] at hr
  obtain ⟨⟨rfl, hlt, hother, hperf⟩, hcall⟩ := hr
  have hpcs : ∀ {P : Pc → Nat → Prop}, P (.send s.targets) i → (∀ j < n, j ≠ i → P (s.pc j) j) →
      ∀ j < n, P (update s.pc i (.send s.targets) j) j := fun h1 h2 => forall_update h1 h2
  have hself : update s.pc i (.send s.targets) i = .send s.targets := update_self ..
  refine ⟨hi, ?_, hother, hlt, ?_, hcall, fun _ hj => hj, .inl ⟨hself, List.not_mem_nil⟩, fun j => ?_, .nil, nofun,
    .nil, nofun, ?_, fun _ => q.count, ?_, nofun, ?_, ?_, ?_⟩
  · show (update s.pc i (.send s.targets) i).role = .holding
    rw [hself]
    rfl
  · exact congrArg (BitVec.ofNat 64) (popcountl_eq s.targets)
  · refine iff_of_false (by simpa [State.goto] using q.flags j) ?_
    rintro ⟨ht, hr, -⟩
    exact absurd (ht.symm.trans hr) (by simp)
  · refine hpcs (P := fun pc j => Stage _ i s.targets [] [] j pc) ⟨rfl, rfl, List.not_mem_nil⟩ fun j hj hne => ?_
    have hr := q.rest j hj
    have hnot := fun e => hne (hx j hj e)
    cases hp : s.pc j with
    | await => exact nofun
    | setCall | setArg0 | setArg1 | setArg2 | setCores =>
      rw [hp] at hnot
      exact hnot rfl
    | perform | clear | loadCores | loadSense | arrive | resetCount | advance | send =>
      rw [hp] at hr
      exact hr.elim
    | _ => exact List.not_mem_nil
  · have hno : ∀ j < n, (update s.pc i (.send s.targets) j).isLast = false := by
      refine hpcs (P := fun pc _ => pc.isLast = false) rfl fun j hj _ => ?_
      have hr := q.rest j hj
      cases hp : s.pc j <;> first | rfl | (rw [hp] at hr; exact hr.elim)
    intro j hj k _ hl
    exact absurd ((hno j hj).symm.trans hl) (by simp)
  · show (s.performed.map Performed.core).Nodup
    rw [hperf]
    exact .nil
  · show ∀ j < n, j ∈ s.performed.map Performed.core ↔ _
    rw [hperf]
    refine hpcs (P := fun pc j => j ∈ [].map Performed.core ↔ j ≠ i ∧ j ∈ [] ∨ pc.isClear = true) (by simp [Pc.isClear])
      fun j hj _ => ?_
    have hr := q.rest j hj
    cases hp : s.pc j <;> first | (simp [Pc.isClear]; done) | (rw [hp] at hr; exact hr.elim)
  · show ∀ j ∈ s.performed.map Performed.core, j < n
    rw [hperf]
    exact nofun

end Quiet

/-! ## While a remote call is made -/

lemma Stage.congr {pc : Pc} (hs : Stage s h rem joined arr i pc) (hipi : s.ipi i = true → s'.ipi i = true)
    (hcount : pc.isLast = true → s.count = 0 → s'.count = 0) (hsense : s'.globalsense = s.globalsense)
    (hcores : s'.totalCoreBarrier = s.totalCoreBarrier) (htargets : s'.targets = s.targets) :
    Stage s' h rem joined arr i pc := by
  cases pc with
  | perform | clear => exact hipi hs
  | loadSense => exact ⟨hs.1, hs.2.1, by rw [hcores]; exact hs.2.2⟩
  | arrive => exact ⟨hs.1, hs.2.1, by rw [hcores, hsense]; exact hs.2.2⟩
  | resetCount => exact ⟨hs.1, by rw [htargets, hsense]; exact hs.2⟩
  | advance =>
    obtain ⟨h1, h2, h3, h4⟩ := hs
    exact ⟨h1, by rw [htargets]; exact h2, by rw [hsense]; exact h3, hcount rfl h4⟩
  | await => exact fun hj => ⟨(hs hj).1, by rw [hsense]; exact (hs hj).2⟩
  | _ => exact hs

/-- Another core joins. -/
lemma Stage.join {rem' : Word} {pc : Pc} (hs : Stage s h rem joined arr j pc) (hne : j ≠ i) (hipi : s'.ipi j = s.ipi j)
    (hrem : j = h → ∀ mask, mask = rem → mask = rem') (hcores : s'.totalCoreBarrier = s.totalCoreBarrier := by rfl)
    (hsense : s'.globalsense = s.globalsense := by rfl) (htargets : s'.targets = s.targets := by rfl)
    (hcount : s'.count = s.count := by rfl) : Stage s' h rem' (i :: joined) arr j pc := by
  have hmem : j ∈ i :: joined ↔ j ∈ joined := by simp [hne]
  cases pc <;> simp_all [Stage]

namespace Busy

variable {pc : Pc} {ret : Return}

/-- Nobody has joined who was not called. -/
lemma joined_length (b : Busy n s h rem joined arr) : joined.length ≤ (bits s.targets).length + 1 := by
  have hsub : joined ⊆ h :: bits s.targets := by
    intro j hj
    rcases b.joined_sub j hj with rfl | ⟨ht, -⟩
    · exact List.mem_cons_self
    · exact List.mem_cons_of_mem _ (mem_bits.mpr ht)
  exact (b.joined_nodup.subperm hsub).length_le

/-- When all have arrived, all have joined. -/
lemma full (b : Busy n s h rem joined arr) (hfull : arr.length = (bits s.targets).length + 1) :
    ∀ j, j ∈ arr ↔ j = h ∨ s.Target j := by
  have hnodup : (h :: bits s.targets).Nodup := List.nodup_cons.mpr ⟨fun e => b.other (mem_bits.mp e), bits_nodup _⟩
  have hsub : arr ⊆ h :: bits s.targets := by
    intro j hj
    rcases b.joined_sub j (b.arr_sub j hj) with rfl | ⟨ht, -⟩
    · exact List.mem_cons_self
    · exact List.mem_cons_of_mem _ (mem_bits.mpr ht)
  have hperm : arr.Perm (h :: bits s.targets) :=
    (b.arr_nodup.subperm hsub).perm_of_length_le (by rw [List.length_cons, hfull])
  intro j
  rw [hperm.mem_iff, List.mem_cons, mem_bits]
  rfl

/-- The core that makes the call is at the barrier or sets the flags. -/
lemma ne_of_stage (b : Busy n s h rem joined arr) (hnot : i ∉ joined)
    (hsend : ∀ mask, s.pc i ≠ .send mask) : i ≠ h := by
  rintro rfl
  rcases b.start with ⟨e, -⟩ | ⟨-, hj⟩
  · exact hsend _ e
  · exact hnot hj

lemma role_update (b : Busy n s h rem joined arr) (hrole : i = h → pc.role = .holding) :
    (update s.pc i pc h).role = .holding := by
  rw [update_apply]
  split
  · rename_i e
    exact hrole e.symm
  · exact b.role

lemma start_update (b : Busy n s h rem joined arr) (hsend : ∀ mask, s.pc i ≠ .send mask) :
    update s.pc i pc h = .send rem ∧ h ∉ joined ∨ rem = 0 ∧ h ∈ joined := by
  by_cases hih : i = h
  · exact .inr (b.start.resolve_left fun e => hsend rem (hih ▸ e.1))
  · rw [update_of_ne (Ne.symm hih)]
    exact b.start

lemma performed_update (b : Busy n s h rem joined arr) (hi : i < n) (hclear : pc.isClear = (s.pc i).isClear) :
    ∀ j < n, j ∈ s.performed.map Performed.core ↔
      j ≠ h ∧ j ∈ joined ∨ (update s.pc i pc j).isClear = true := by
  refine forall_update
    (P := fun pc j => j ∈ s.performed.map Performed.core ↔ j ≠ h ∧ j ∈ joined ∨ pc.isClear = true) ?_
    fun j hj _ => b.performed j hj
  rw [hclear]
  exact b.performed i hi

lemma last_update (b : Busy n s h rem joined arr) (hlast : pc.isLast = (s.pc i).isLast) :
    (∀ j < n, ∀ k < n, (update s.pc i pc j).isLast = true → (update s.pc i pc k).isLast = true →
      j = k) ∧
    ((bits s.targets).length < arr.length → ∃ j < n, (update s.pc i pc j).isLast = true) := by
  simp only [isLast_update hlast]
  exact ⟨b.last, b.ends⟩

lemma goto (b : Busy n s h rem joined arr) (hi : i < n) (e : SameCall s s')
    (hpc : s'.pc = update s.pc i pc) (hsend : ∀ mask, s.pc i ≠ .send mask)
    (hrole : i = h → pc.role = .holding) (hstage : Stage s h rem joined arr i pc)
    (hlast : pc.isLast = (s.pc i).isLast) (hclear : pc.isClear = (s.pc i).isClear) :
    Busy n s' h rem joined arr := by
  obtain ⟨hipi, hcount, hg, hcores, hc, hm, ht, hp⟩ := e
  have htarget : ∀ j, s'.Target j ↔ s.Target j := fun j => by
    unfold State.Target
    rw [ht]
  have hstage' : ∀ {j pc}, Stage s h rem joined arr j pc → Stage s' h rem joined arr j pc := fun hs =>
    hs.congr (fun e => by rw [hipi]; exact e) (fun _ e => hcount.trans e) hg hcores ht
  refine ⟨b.lt, ?_, ?_, ?_, ?_, hc.trans (b.call.trans hm.symm), ?_, ?_, ?_, b.joined_nodup, ?_, b.arr_nodup, b.arr_sub,
    ?_, ?_, ?_, ?_, ?_, ?_, ?_⟩
  · rw [hpc]
    exact b.role_update hrole
  · rw [htarget]
    exact b.other
  · exact fun j hj => b.targets_lt j ((htarget j).mp hj)
  · rw [hcores, ht]
    exact b.cores
  · exact fun j hj => (htarget j).mpr (b.left j hj)
  · rw [hpc]
    exact b.start_update hsend
  · intro j
    rw [hipi, htarget]
    exact b.flags j
  · intro j hj
    rw [htarget]
    exact b.joined_sub j hj
  · rw [hpc]
    exact forall_update (P := fun pc j => Stage s' h rem joined arr j pc) (hstage' hstage) fun j hj _ =>
      hstage' (b.stage j hj)
  · rw [ht, hcount]
    exact b.count
  · rw [hpc]
    exact (b.last_update hlast).1
  · rw [ht, hpc]
    exact (b.last_update hlast).2
  · rw [hp]
    exact b.nodup
  · rw [hp, hpc]
    exact b.performed_update hi hclear
  · rw [hp]
    exact b.performed_lt

/-- A core that is not at the barrier goes on. -/
lemma pass (b : Busy n s h rem joined arr) (hi : i < n) (e : SameCall s s')
    (hpc : s'.pc = update s.pc i pc) (hsend : ∀ mask, s.pc i ≠ .send mask) (hnot : i ∉ joined)
    (hstage : Stage s h rem joined arr i pc) (hlast : pc.isLast = false) (hclear : pc.isClear = false)
    (hclear' : (s.pc i).isClear = false) : Busy n s' h rem joined arr := by
  refine b.goto hi e hpc hsend (fun e => absurd e (b.ne_of_stage hnot hsend)) hstage ?_ (hclear.trans hclear'.symm)
  have hs := b.stage i hi
  rw [hlast]
  cases hp : s.pc i with
  | resetCount | advance =>
    rw [hp] at hs
    exact absurd (b.arr_sub i hs.1) hnot
  | _ => rfl

/-- A core performs the call. -/
lemma perform (b : Busy n s h rem joined arr) (hi : i < n) {fresh call} (hpc : s.pc i = .perform ret fresh call)
    (ret' : Return) :
    Busy n ({ s with performed := s.performed ++ [Performed.mk i ret fresh call] }.goto i (.clear ret')) h rem joined
      arr := by
  have hflag := b.stage i hi
  rw [hpc] at hflag
  obtain ⟨ht, -, hnot⟩ := (b.flags i).mp hflag
  have hih : i ≠ h := fun e => b.other (e ▸ ht)
  have hnew : i ∉ s.performed.map Performed.core := by
    rw [b.performed i hi, hpc]
    simp [Pc.isClear, hnot]
  have hmap : (s.performed ++ [Performed.mk i ret fresh call]).map Performed.core =
      s.performed.map Performed.core ++ [i] := by simp
  have hlast : (Pc.clear ret').isLast = (s.pc i).isLast := by
    rw [hpc]
    rfl
  refine ⟨b.lt, ?_, b.other, b.targets_lt, b.cores, b.call, b.left, ?_, b.flags, b.joined_nodup, b.joined_sub,
    b.arr_nodup, b.arr_sub, ?_, b.count, ?_, ?_, ?_, ?_, ?_⟩
  · exact b.role_update fun e => absurd e hih
  · exact b.start_update (by rw [hpc]; nofun)
  · exact forall_update (P := fun pc j => Stage _ h rem joined arr j pc) hflag fun j hj _ =>
      (b.stage j hj).congr id (fun _ => id) rfl rfl rfl
  · exact (b.last_update hlast).1
  · exact (b.last_update hlast).2
  · show ((s.performed ++ [Performed.mk i ret fresh call]).map Performed.core).Nodup
    rw [hmap]
    exact List.nodup_append.mpr ⟨b.nodup, by simp, fun a ha c hc e => hnew (by simp_all)⟩
  · show ∀ j < n, j ∈ (s.performed ++ [Performed.mk i ret fresh call]).map Performed.core ↔ _
    rw [hmap]
    refine forall_update
      (P := fun pc j => j ∈ s.performed.map Performed.core ++ [i] ↔ j ≠ h ∧ j ∈ joined ∨ pc.isClear = true)
      (by simp [Pc.isClear]) fun j hj hne => ?_
    rw [← b.performed j hj]
    simp [hne]
  · show ∀ j ∈ (s.performed ++ [Performed.mk i ret fresh call]).map Performed.core, j < n
    rw [hmap]
    intro j hj
    rcases List.mem_append.mp hj with hj | hj
    · exact b.performed_lt j hj
    · rw [List.mem_singleton.mp hj]
      exact hi

/-- A core takes its flag down and joins the barrier. -/
lemma clear (b : Busy n s h rem joined arr) (hi : i < n) (hpc : s.pc i = .clear ret) :
    Busy n ({ s with ipi := update s.ipi i false }.goto i (.loadCores ret)) h rem (i :: joined) arr := by
  have hflag := b.stage i hi
  rw [hpc] at hflag
  obtain ⟨ht, hrem, hnot⟩ := (b.flags i).mp hflag
  have hih : i ≠ h := fun e => b.other (e ▸ ht)
  have hpch : update s.pc i (.loadCores ret) h = s.pc h := update_of_ne (Ne.symm hih) ..
  have hlast : (Pc.loadCores ret).isLast = (s.pc i).isLast := by
    rw [hpc]
    rfl
  refine ⟨b.lt, ?_, b.other, b.targets_lt, b.cores, b.call, b.left, ?_, fun j => ?_,
    List.nodup_cons.mpr ⟨hnot, b.joined_nodup⟩, ?_, b.arr_nodup, fun j hj =>
      List.mem_cons_of_mem _ (b.arr_sub j hj), ?_, b.count, ?_, ?_, b.nodup, ?_, b.performed_lt⟩
  · exact b.role_update fun e => absurd e hih
  · show update s.pc i (.loadCores ret) h = _ ∧ _ ∨ _
    rw [hpch]
    refine b.start.imp (And.imp_right fun hh => ?_) (And.imp_right (List.mem_cons_of_mem _))
    simp [hh, Ne.symm hih]
  · show update s.ipi i false j = true ↔ s.Target j ∧ _
    by_cases hj : j = i
    · simp [hj]
    · rw [update_of_ne hj, b.flags j]
      simp [hj]
  · intro j hj
    rcases List.mem_cons.mp hj with rfl | hj
    · exact .inr ⟨ht, hrem⟩
    · exact b.joined_sub j hj
  · refine forall_update (P := fun pc j => Stage _ h rem (i :: joined) arr j pc)
      ⟨List.mem_cons_self, fun hj => hnot (b.arr_sub i hj)⟩ fun j hj hne => ?_
    exact (b.stage j hj).join hne (update_of_ne hne ..) fun _ _ => id
  · exact (b.last_update hlast).1
  · exact (b.last_update hlast).2
  · refine forall_update
      (P := fun pc j => j ∈ s.performed.map Performed.core ↔ j ≠ h ∧ j ∈ i :: joined ∨ pc.isClear = true) ?_
      fun j hj hne => ?_
    · rw [b.performed i hi, hpc]
      simp [Pc.isClear, hih]
    · rw [b.performed j hj]
      simp [hne]

/-- A core increments the count; the last one has seen the number of the targets. -/
lemma arrive (b : Busy n s h rem joined arr) (hi : i < n) {cores localsense : Word}
    (hpc : s.pc i = .arrive ret cores localsense) :
    Busy n ({ s with count := s.count + 1 }.goto i
      (if s.count = cores then .resetCount ret localsense else .await ret localsense)) h rem joined (i :: arr) := by
  have hs := b.stage i hi
  rw [hpc] at hs
  obtain ⟨hj, hna, rfl, rfl⟩ := hs
  have hnodup : (i :: arr).Nodup := List.nodup_cons.mpr ⟨hna, b.arr_nodup⟩
  have hsub : ∀ j ∈ i :: arr, j ∈ joined := List.forall_mem_cons.mpr ⟨hj, b.arr_sub⟩
  have hlen : arr.length ≤ (bits s.targets).length := by
    have h1 := (hnodup.subperm hsub).length_le
    have h2 := b.joined_length
    rw [List.length_cons] at h1
    omega
  have h64 := bits_length_le s.targets
  have hfull : s.count = s.totalCoreBarrier ↔ arr.length = (bits s.targets).length := by
    rw [b.count hlen, b.cores]
    constructor
    · intro e
      have := congrArg BitVec.toNat e
      simp only [BitVec.toNat_ofNat] at this
      omega
    · intro e
      rw [e]
  -- nobody else is the last one
  have hno : ∀ j < n, (s.pc j).isLast = false := by
    intro j hj
    have hs := b.stage j hj
    cases hp : s.pc j <;> first | rfl | (rw [hp] at hs; have := hs.2.1; omega)
  set pc : Pc := if s.count = s.totalCoreBarrier then .resetCount ret s.globalsense else .await ret s.globalsense with hpc'
  have hrole : pc.role = ret.role := by
    rw [hpc']
    split <;> rfl
  have hclear : pc.isClear = false := by
    rw [hpc']
    split <;> rfl
  refine ⟨b.lt, ?_, b.other, b.targets_lt, b.cores, b.call, b.left, b.start_update (by rw [hpc]; nofun), b.flags,
    b.joined_nodup, b.joined_sub, hnodup, hsub, ?_, fun hle => ?_, ?_, fun hlt => ?_, b.nodup, ?_, b.performed_lt⟩
  · refine b.role_update fun e => hrole.trans ?_
    have := b.role
    rwa [← e, hpc] at this
  · refine forall_update (P := fun pc j => Stage _ h rem joined (i :: arr) j pc) ?_ fun j hj hne => ?_
    · rw [hpc']
      split
      · rename_i e
        exact ⟨List.mem_cons_self, by rw [List.length_cons, hfull.mp e]; rfl, rfl⟩
      · exact fun _ => ⟨List.mem_cons_self, rfl⟩
    · have hs := b.stage j hj
      have hnl := hno j hj
      cases hp : s.pc j with
      | loadCores =>
        rw [hp] at hs
        exact ⟨hs.1, by simp [hne, hs.2]⟩
      | loadSense | arrive =>
        rw [hp] at hs
        exact ⟨hs.1, by simp [hne, hs.2.1], hs.2.2⟩
      | resetCount | advance =>
        rw [hp] at hnl
        cases hnl
      | await =>
        rw [hp] at hs
        exact fun hj => ⟨List.mem_cons_of_mem _ (hs hj).1, (hs hj).2⟩
      | _ =>
        rw [hp] at hs
        exact hs
  · rw [List.length_cons] at hle ⊢
    show s.count + 1 = _
    rw [b.count hlen, BitVec.ofNat_add]
    rfl
  · have hl : ∀ j < n, (update s.pc i pc j).isLast = true → j = i := by
      refine forall_update (P := fun pc j => pc.isLast = true → j = i) (fun _ => rfl) fun j hj _ e => ?_
      exact absurd ((hno j hj).symm.trans e) (by simp)
    exact fun j hj k hk hlj hlk => (hl j hj hlj).trans (hl k hk hlk).symm
  · rw [List.length_cons] at hlt
    refine ⟨i, hi, ?_⟩
    show (update s.pc i pc i).isLast = true
    rw [update_self, hpc', if_pos (hfull.mpr (Nat.le_antisymm hlen (Nat.le_of_lt_succ hlt)))]
    rfl
  · exact b.performed_update hi (by rw [hclear, hpc]; rfl)

/-- The last core sets the count to zero. -/
lemma resetCount (b : Busy n s h rem joined arr) (hi : i < n) {localsense : Word}
    (hpc : s.pc i = .resetCount ret localsense) :
    Busy n ({ s with count := 0 }.goto i (.advance ret localsense)) h rem joined arr := by
  have hs := b.stage i hi
  rw [hpc] at hs
  obtain ⟨ha, hfull, rfl⟩ := hs
  have hlast : (Pc.advance ret s.globalsense).isLast = (s.pc i).isLast := by
    rw [hpc]
    rfl
  refine ⟨b.lt, ?_, b.other, b.targets_lt, b.cores, b.call, b.left, ?_, b.flags, b.joined_nodup, b.joined_sub,
    b.arr_nodup, b.arr_sub, ?_, fun hle => ?_, ?_, ?_, b.nodup, ?_, b.performed_lt⟩
  · refine b.role_update fun e => ?_
    have := b.role
    rwa [← e, hpc] at this
  · exact b.start_update (by rw [hpc]; nofun)
  · refine forall_update (P := fun pc j => Stage _ h rem joined arr j pc) ⟨ha, hfull, rfl, rfl⟩ fun j hj _ => ?_
    exact (b.stage j hj).congr id (fun _ _ => rfl) rfl rfl rfl
  · rw [hfull] at hle
    exact absurd hle (Nat.not_succ_le_self _)
  · exact (b.last_update hlast).1
  · exact (b.last_update hlast).2
  · exact b.performed_update hi (by rw [hpc]; rfl)

/-- When the last core advances `globalsense`, the remote call is over. -/
lemma advance (b : Busy n s h rem joined arr) (hx : ∀ j < n, (s.pc j).role = .holding → j = h) (hi : i < n)
    {localsense : Word} (hpc : s.pc i = .advance ret localsense) :
    Quiet n ({ s with globalsense := s.globalsense + 1 }.goto i (.await ret localsense)) := by
  have hs := b.stage i hi
  rw [hpc] at hs
  obtain ⟨ha, hfull, rfl, hcount⟩ := hs
  have hall := b.full hfull
  have hsense : s.globalsense ≠ s.globalsense + 1 := by
    intro e
    have := congrArg BitVec.toNat e
    have h1 : (1 : Word).toNat = 1 := rfl
    rw [BitVec.toNat_add, h1] at this
    omega
  have hjoined : ∀ j, j ∈ joined ↔ j = h ∨ s.Target j := by
    intro j
    refine ⟨fun hj => (b.joined_sub j hj).imp_right And.left, fun hj => b.arr_sub j ((hall j).mpr hj)⟩
  have hflags : ∀ j, s.ipi j = false := by
    intro j
    refine Bool.eq_false_iff.mpr fun e => ?_
    obtain ⟨ht, -, hnot⟩ := (b.flags j).mp e
    exact hnot ((hjoined j).mpr (.inr ht))
  have hcomplete : s.Complete := by
    refine ⟨b.nodup, fun j => ?_⟩
    by_cases hj : j < n
    · have hs := b.stage j hj
      have hclear : (s.pc j).isClear = false := by
        cases hp : s.pc j <;> first | rfl | (rw [hp] at hs; exact absurd ((hflags j).symm.trans hs) (by simp))
      rw [b.performed j hj, hclear, hjoined]
      constructor
      · rintro (⟨hne, e⟩ | e)
        · exact e.resolve_left hne
        · cases e
      · intro ht
        exact .inl ⟨fun e => b.other (e ▸ ht), .inr ht⟩
    · exact iff_of_false (fun e => hj (b.performed_lt j e)) fun e => hj (b.targets_lt j e)
  -- everybody who was called waits for the change
  have hrest : ∀ j < n, j ≠ i → Rest n { s with globalsense := s.globalsense + 1 } j (s.pc j) := by
    intro j hj hne
    have hs := b.stage j hj
    have hholds := hx j hj
    cases hp : s.pc j with
    | perform | clear =>
      rw [hp] at hs
      exact absurd ((hflags j).symm.trans hs) (by simp)
    | loadCores =>
      rw [hp] at hs
      exact hs.2 ((hall j).mpr ((hjoined j).mp hs.1))
    | loadSense | arrive =>
      rw [hp] at hs
      exact hs.2.1 ((hall j).mpr ((hjoined j).mp hs.1))
    | resetCount | advance => exact hne (b.last j hj i hi (by rw [hp]; rfl) (by rw [hpc]; rfl))
    | await ret localsense =>
      rw [hp] at hs hholds
      cases ret with
      | kernel =>
        have hjh := hholds rfl
        obtain ⟨-, rfl⟩ := hs ((hjoined j).mpr (.inl hjh))
        exact ⟨hsense, hcomplete⟩
      | _ => trivial
    | setCall | setArg0 | setArg1 | setArg2 | setCores =>
      rw [hp] at hs
      exact hs.elim
    | send =>
      rw [hp] at hs
      exact hs.2.2 ((hjoined j).mpr (.inl hs.1))
    | _ => trivial
  refine ⟨hflags, hcount, forall_update (P := fun pc j => Rest n _ j pc) ?_ fun j hj hne =>
    (hrest j hj hne).congr ⟨rfl, rfl, rfl, rfl, rfl, rfl, rfl, rfl⟩⟩
  cases ret with
  | kernel => exact ⟨hsense, hcomplete⟩
  | _ => trivial

/-- A flag is set. -/
lemma send (b : Busy n s h rem joined arr) (hi : i < n) {mask : Word} (hpc : s.pc i = .send mask) (hm : mask ≠ 0) :
    Busy n ({ s with ipi := update s.ipi (Mcs.wordBits - 1 - clzl mask) true }.goto i
      (.send (mask &&& ~~~bitWord (Mcs.wordBits - 1 - clzl mask)))) h (mask &&& ~~~bitWord (Mcs.wordBits - 1 - clzl mask)) joined
      arr := by
  have hs := b.stage i hi
  rw [hpc] at hs
  obtain ⟨rfl, rfl, hnot⟩ := hs
  obtain ⟨hbit, -⟩ := clzl_spec hm
  generalize Mcs.wordBits - 1 - clzl mask = k at *
  have hk : k < 64 := BitVec.lt_of_getLsbD hbit
  have hrem : ∀ j, (mask &&& ~~~bitWord k).getLsbD j = true ↔ mask.getLsbD j = true ∧ k ≠ j := fun j =>
    getLsbD_clearBit hk
  have hrem' : ∀ j, (mask &&& ~~~bitWord k).getLsbD j = false ↔ mask.getLsbD j = false ∨ k = j := by
    intro j
    rw [← Bool.not_eq_true, hrem, ← Bool.not_eq_true]
    tauto
  have ht := b.left k hbit
  have hkj : k ∉ joined := by
    intro hj
    rcases b.joined_sub k hj with rfl | ⟨-, e⟩
    · exact b.other ht
    · exact absurd (hbit.symm.trans e) (by simp)
  have hlast : (Pc.send (mask &&& ~~~bitWord k)).isLast = (s.pc i).isLast := by
    rw [hpc]
    rfl
  refine ⟨b.lt, ?_, b.other, b.targets_lt, b.cores, b.call, fun j hj => b.left j ((hrem j).mp hj).1,
    .inl ⟨update_self .., hnot⟩, fun j => ?_, b.joined_nodup, fun j hj => ?_, b.arr_nodup, b.arr_sub, ?_, b.count,
      ?_, ?_, b.nodup, ?_, b.performed_lt⟩
  · exact b.role_update fun _ => rfl
  · show update s.ipi k true j = true ↔ s.Target j ∧ _
    rw [hrem']
    by_cases hj : j = k
    · subst hj
      simp [ht, hkj]
    · rw [update_of_ne hj, b.flags j]
      simp [Ne.symm hj]
  · exact (b.joined_sub j hj).imp_right fun ⟨ht, e⟩ => ⟨ht, (hrem' j).mpr (.inl e)⟩
  · refine forall_update (P := fun pc j => Stage _ i _ joined arr j pc) ⟨rfl, rfl, hnot⟩ fun j hj hne => ?_
    have hs := b.stage j hj
    cases hp : s.pc j with
    | perform | clear =>
      rw [hp] at hs
      show update s.ipi k true j = true
      rw [update_apply]
      split
      · rfl
      · exact hs
    | send =>
      rw [hp] at hs
      exact absurd hs.1 hne
    | _ =>
      rw [hp] at hs
      exact hs
  · exact (b.last_update hlast).1
  · exact (b.last_update hlast).2
  · exact b.performed_update hi (by rw [hpc]; rfl)

/-- All flags are set, and the core goes to the barrier. -/
lemma sent (b : Busy n s h rem joined arr) (hi : i < n) (hpc : s.pc i = .send 0) :
    Busy n (s.goto i (.loadCores .kernel)) h 0 (h :: joined) arr := by
  have hs := b.stage i hi
  rw [hpc] at hs
  obtain ⟨rfl, rfl, hnot⟩ := hs
  have hlast : (Pc.loadCores .kernel).isLast = (s.pc i).isLast := by
    rw [hpc]
    rfl
  refine ⟨b.lt, ?_, b.other, b.targets_lt, b.cores, b.call, b.left, .inr ⟨rfl, List.mem_cons_self⟩, fun j => ?_,
    List.nodup_cons.mpr ⟨hnot, b.joined_nodup⟩, ?_, b.arr_nodup, fun j hj =>
      List.mem_cons_of_mem _ (b.arr_sub j hj), ?_, b.count, ?_, ?_, b.nodup, ?_, b.performed_lt⟩
  · exact b.role_update fun _ => rfl
  · show s.ipi j = true ↔ s.Target j ∧ _
    rw [b.flags j]
    by_cases hj : j = i
    · subst hj
      exact iff_of_false (fun e => b.other e.1) fun e => b.other e.1
    · simp [hj]
  · exact List.forall_mem_cons.mpr ⟨.inl rfl, b.joined_sub⟩
  · refine forall_update (P := fun pc j => Stage _ i 0 (i :: joined) arr j pc)
      ⟨List.mem_cons_self, fun hj => hnot (b.arr_sub i hj)⟩ fun j hj hne => ?_
    exact (b.stage j hj).join hne rfl fun e _ => absurd e hne
  · exact (b.last_update hlast).1
  · exact (b.last_update hlast).2
  · refine forall_update
      (P := fun pc j => j ∈ s.performed.map Performed.core ↔ j ≠ i ∧ j ∈ i :: joined ∨ pc.isClear = true) ?_
      fun j hj hne => ?_
    · rw [b.performed i hi, hpc]
      simp [Pc.isClear]
    · rw [b.performed j hj]
      simp [hne]

end Busy

/-! ## All steps -/

/-- A remote call is made, or none is. -/
def Calls (n : Nat) (s : State) : Prop :=
  Quiet n s ∨ ∃ h rem joined arr, Busy n s h rem joined arr

namespace Calls

variable {pc : Pc}

/-- While a flag is up the call stays. -/
lemma call_eq (c : Calls n s) (hflag : s.ipi i = true) : s.call = s.made := by
  rcases c with q | ⟨h, rem, joined, arr, b⟩
  · exact absurd ((q.flags i).symm.trans hflag) (by simp)
  · exact b.call

/-- A core that is not at the barrier goes on. -/
lemma pass (c : Calls n s) (hi : i < n) (e : SameCall s s') (hpc : s'.pc = update s.pc i pc)
    (hrest : Rest n s i pc)
    (hstage : ∀ {h rem joined arr}, Stage s h rem joined arr i (s.pc i) → i ∉ joined ∧ Stage s h rem joined arr i pc)
    (hsend : ∀ mask, s.pc i ≠ .send mask) (hlast : pc.isLast = false) (hclear : pc.isClear = false)
    (hclear' : (s.pc i).isClear = false) : Calls n s' := by
  rcases c with q | ⟨h, rem, joined, arr, b⟩
  · exact .inl (q.goto e hpc hrest)
  · obtain ⟨hnot, hs⟩ := hstage (b.stage i hi)
    exact .inr ⟨h, rem, joined, arr, b.pass hi e hpc hsend hnot hs hlast hclear hclear'⟩

/-- A core that is at the barrier goes on; there is a barrier, then. -/
lemma busy (c : Calls n s) (hi : i < n) (hpc : s.pc i = pc) (hr : ¬ Rest n s i pc) :
    ∃ h rem joined arr, Busy n s h rem joined arr ∧ Stage s h rem joined arr i pc := by
  subst hpc
  obtain ⟨h, rem, joined, arr, b⟩ := c.resolve_left fun q => hr (q.rest i hi)
  exact ⟨h, rem, joined, arr, b, b.stage i hi⟩

/-- A core that has the lock and is neither at the barrier nor sets the flags makes no remote call. -/
lemma quiet (c : Calls n s) (hi : i < n) (hx : ∀ j < n, (s.pc j).role = .holding → j = i) (hpc : s.pc i = pc)
    (hstage : ∀ {h rem joined arr}, Stage s h rem joined arr i pc → i ∉ joined) (hsend : ∀ mask, pc ≠ .send mask) :
    Quiet n s ∧ Rest n s i pc := by
  subst hpc
  rcases c with q | ⟨h, rem, joined, arr, b⟩
  · exact ⟨q, q.rest i hi⟩
  · have hih := hx h b.lt b.role
    subst hih
    exact absurd rfl (b.ne_of_stage (hstage (b.stage h hi)) hsend)

/-- Each step of a core keeps that at most one remote call is made. -/
lemma step (c : Calls n s) (hi : i < n)
    (hexcl : ∀ j < n, ∀ k < n, (s.pc j).role = .holding → (s.pc k).role = .holding → j = k)
    (st : CoreStep n i s s') : Calls n s' := by
  have hx : (s.pc i).role = .holding → ∀ j < n, (s.pc j).role = .holding → j = i := fun e j hj hhj =>
    hexcl j hj i hi hhj e
  have same : ∀ {pc}, SameCall s (s.goto i pc) := ⟨rfl, rfl, rfl, rfl, rfl, rfl, rfl, rfl⟩
  cases st with
  | poll hpc =>
    refine c.pass hi same rfl ?_ (fun hs => ?_) (by simp [hpc]) ?_ ?_ (by simp [hpc, Pc.isClear])
    · split <;> trivial
    · rw [hpc] at hs
      split <;> exact ⟨hs, hs⟩
    · split <;> rfl
    · split <;> rfl
  | @check ret fresh call hpc =>
    rcases c with q | ⟨h, rem, joined, arr, b⟩
    · rw [if_neg (by simp [q.flags i])]
      exact .inl (q.resume ret)
    · have hs := b.stage i hi
      rw [hpc] at hs
      refine .inr ⟨h, rem, joined, arr, b.pass hi same rfl (by simp [hpc]) hs ?_ ?_ ?_ (by rw [hpc]; rfl)⟩
      · split
        · rename_i e
          exact e
        · cases ret <;> exact hs
      · split
        · rfl
        · cases ret <;> rfl
      · split
        · rfl
        · cases ret <;> rfl
  | perform hpc =>
    obtain ⟨h, rem, joined, arr, b, -⟩ := c.busy hi hpc id
    exact .inr ⟨_, _, _, _, b.perform hi hpc _⟩
  | clear hpc =>
    obtain ⟨h, rem, joined, arr, b, -⟩ := c.busy hi hpc id
    exact .inr ⟨_, _, _, _, b.clear hi hpc⟩
  | loadCores hpc =>
    obtain ⟨h, rem, joined, arr, b, hs⟩ := c.busy hi hpc id
    have hr := b.role
    refine .inr ⟨_, _, _, _, b.goto hi same rfl (by simp [hpc]) (fun e => ?_) ⟨hs.1, hs.2, rfl⟩ ?_ ?_⟩
    · rw [← e, hpc] at hr
      exact hr
    · rw [hpc]
      rfl
    · rw [hpc]
      rfl
  | loadSense hpc =>
    obtain ⟨h, rem, joined, arr, b, hs⟩ := c.busy hi hpc id
    have hr := b.role
    refine .inr ⟨_, _, _, _, b.goto hi same rfl (by simp [hpc]) (fun e => ?_) ⟨hs.1, hs.2.1, hs.2.2, rfl⟩ ?_ ?_⟩
    · rw [← e, hpc] at hr
      exact hr
    · rw [hpc]
      rfl
    · rw [hpc]
      rfl
  | arrive hpc =>
    obtain ⟨h, rem, joined, arr, b, -⟩ := c.busy hi hpc id
    exact .inr ⟨_, _, _, _, b.arrive hi hpc⟩
  | resetCount hpc =>
    obtain ⟨h, rem, joined, arr, b, -⟩ := c.busy hi hpc id
    exact .inr ⟨_, _, _, _, b.resetCount hi hpc⟩
  | advance hpc =>
    obtain ⟨h, rem, joined, arr, b, -⟩ := c.busy hi hpc id
    exact .inl (b.advance (fun j hj e => hexcl j hj h b.lt e b.role) hi hpc)
  | @await ret localsense hpc =>
    split
    · rename_i e
      have : s.goto i (.await ret localsense) = s := by
        unfold State.goto
        rw [update_eq_self_iff.mpr hpc.symm]
      rwa [this]
    · rename_i hne
      rcases c with q | ⟨h, rem, joined, arr, b⟩
      · exact .inl (q.resume ret)
      · have hs := b.stage i hi
        rw [hpc] at hs
        have hnot : i ∉ joined := fun hj => hne (hs hj).2
        refine .inr ⟨h, rem, joined, arr, b.pass hi same rfl (by simp [hpc]) hnot ?_ ?_ ?_ (by rw [hpc]; rfl)⟩ <;>
          cases ret <;> first | exact hnot | rfl
  | remote call mask hpc hmask =>
    have hx := hx (by rw [hpc]; rfl)
    obtain ⟨q, -⟩ := c.quiet hi hx hpc id nofun
    split
    · refine .inl (q.goto_holder rfl rfl rfl hx ⟨rfl, rfl, fun j hj => ?_, ?_, rfl⟩)
      · refine hmask j ?_
        have hj : (mask &&& ~~~bitWord i).getLsbD j = true := hj
        rw [BitVec.getLsbD_and, Bool.and_eq_true] at hj
        exact hj.1
      · intro hj
        have hj : (mask &&& ~~~bitWord i).getLsbD i = true := hj
        have hi64 : i < 64 := BitVec.lt_of_getLsbD hj
        exact ((getLsbD_clearBit hi64).mp hj).2 rfl
    · exact .inl q
  | setCall hpc =>
    have hx := hx (by rw [hpc]; rfl)
    obtain ⟨q, rfl, hp⟩ := c.quiet hi hx hpc False.elim nofun
    exact .inl (q.goto_holder rfl rfl rfl hx ⟨rfl, ⟨hp.1, hp.2, hp.3, hp.4⟩, rfl⟩)
  | setArg0 hpc =>
    have hx := hx (by rw [hpc]; rfl)
    obtain ⟨q, rfl, hp, h1⟩ := c.quiet hi hx hpc False.elim nofun
    exact .inl (q.goto_holder rfl rfl rfl hx ⟨rfl, ⟨hp.1, hp.2, hp.3, hp.4⟩, h1, rfl⟩)
  | setArg1 hpc =>
    have hx := hx (by rw [hpc]; rfl)
    obtain ⟨q, rfl, hp, h1, h2⟩ := c.quiet hi hx hpc False.elim nofun
    exact .inl (q.goto_holder rfl rfl rfl hx ⟨rfl, ⟨hp.1, hp.2, hp.3, hp.4⟩, h1, h2, rfl⟩)
  | setArg2 hpc =>
    have hx := hx (by rw [hpc]; rfl)
    obtain ⟨q, rfl, hp, h1, h2, h3⟩ := c.quiet hi hx hpc False.elim nofun
    refine .inl (q.goto_holder rfl rfl rfl hx ⟨⟨hp.1, hp.2, hp.3, hp.4⟩, ?_⟩)
    show Call.mk s.call.remoteCall s.call.arg0 s.call.arg1 s.made.arg2 = s.made
    rw [h1, h2, h3]
  | setCores hpc =>
    have hx := hx (by rw [hpc]; rfl)
    obtain ⟨q, -⟩ := c.quiet hi hx hpc False.elim nofun
    exact .inr ⟨_, _, _, _, q.busy hi hpc hx⟩
  | send hpc hm =>
    obtain ⟨h, rem, joined, arr, b, rfl, rfl, -⟩ := c.busy hi hpc id
    exact .inr ⟨_, _, _, _, b.send hi hpc hm⟩
  | sent hpc =>
    obtain ⟨h, rem, joined, arr, b, rfl, rfl, -⟩ := c.busy hi hpc id
    exact .inr ⟨_, _, _, _, b.sent hi hpc⟩
  | @lock irqPath stalled hpc hg =>
    refine c.pass hi ⟨rfl, rfl, rfl, rfl, rfl, rfl, rfl, rfl⟩ rfl ?_ (fun hs => ?_) (by simp [hpc]) ?_ ?_
      (by simp [hpc, Pc.isClear])
    · cases stalled <;> trivial
    · rw [hpc] at hs
      cases stalled <;> exact ⟨hs, hs⟩
    · cases stalled <;> rfl
    · cases stalled <;> rfl
  | exit hpc =>
    refine c.pass hi ⟨rfl, rfl, rfl, rfl, rfl, rfl, rfl, rfl⟩ rfl ?_ (fun hs => ?_) (by simp [hpc]) ?_ ?_
      (by simp [hpc, Pc.isClear])
    · split <;> trivial
    · rw [hpc] at hs
      split <;> exact ⟨hs, hs⟩
    · split <;> rfl
    · split <;> rfl
  | spin hpc _ =>
    exact c.pass hi same rfl trivial (fun hs => by rw [hpc] at hs; exact ⟨hs, hs⟩) (by simp [hpc]) rfl rfl
      (by rw [hpc]; rfl)
  | _ =>
    rename_i hpc
    exact c.pass hi ⟨rfl, rfl, rfl, rfl, rfl, rfl, rfl, rfl⟩ rfl trivial
      (fun hs => by rw [hpc] at hs; exact ⟨hs, hs⟩) (by simp [hpc]) rfl rfl (by rw [hpc]; rfl)

lemma init (s : State) : Calls n (s.init n) :=
  .inl ⟨fun _ => rfl, rfl, fun _ _ => trivial⟩

end Calls

end NexsKernel.Smp
