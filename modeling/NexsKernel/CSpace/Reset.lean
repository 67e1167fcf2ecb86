import NexsKernel.CSpace.Safety

/-!
# Resetting untyped memory

`resetUntypedCap` with the bytes that it clears. The loop counts an unsigned offset down in chunks and ends when
the offset has wrapped around; a preemption leaves behind the chunks that are not yet cleared, below the mark. So
all bytes above the mark stay zero, and calling again until nothing is left clears the whole region and nothing
else.
-/

namespace NexsKernel.CSpace

/-- The CSpace and the bytes of the memory. -/
structure Store where
  cs : CSpace
  mem : Nat → BitVec 8

namespace Store

/-- `clearMemory`. -/
def clearMemory (s : Store) (ptr bits : Nat) : Store where
  cs := s.cs.clearMemory ptr bits
  mem := fun a => if ptr ≤ a ∧ a < ptr + 2 ^ bits then 0 else s.mem a

variable (preempt : Nat → Bool)

/-- The loop of `resetUntypedCap`. -/
def resetLoop (slot : Slot) (prevCap : Cap) : Nat → Nat → Store → Option (Status × Store)
  | 0, _, _ => none
  | fuel + 1, offset, s =>
    if offset = sub64 0 (bit resetChunkBits) then
      some (.none, s)
    else
      let s := s.clearMemory (add64 (capPtr prevCap) offset) resetChunkBits
      let s := { s with cs := s.cs.setCap slot (setFreeIndex (offsetToFreeIndex offset) prevCap) }
      match s.cs.preemptionPoint preempt with
      | (.none, cs) => resetLoop slot prevCap fuel (sub64 offset (bit resetChunkBits)) { s with cs := cs }
      | (.preempted, cs) => some (.preempted, { s with cs := cs })

/-- `resetUntypedCap`. -/
def resetUntypedCap (fuel : Nat) (slot : Slot) (s : Store) : Option (Status × Store) :=
  match s.cs.cap slot with
  | .untyped freeIndex deviceMemory blockSize ptr =>
    let prevCap := s.cs.cap slot
    let offset := freeIndexToOffset freeIndex
    if offset = 0 then
      some (.none, s)
    else if deviceMemory || blockSize < resetChunkBits then
      let s := if deviceMemory then s else s.clearMemory ptr blockSize
      some (.none, { s with cs := s.cs.setCap slot (setFreeIndex 0 prevCap) })
    else
      resetLoop preempt slot prevCap fuel ((offset - 1) / 2 ^ resetChunkBits * 2 ^ resetChunkBits) s
  | _ => some (.none, s)

/-- Calls of `resetUntypedCap`, until one of them is not preempted. -/
def resetUntil (fuel : Nat) (slot : Slot) : Nat → Store → Option Store
  | 0, _ => none
  | n + 1, s =>
    match resetUntypedCap preempt fuel slot s with
    | some (.none, s) => some s
    | some (.preempted, s) => resetUntil fuel slot n s
    | none => none

/-- One or several preempted calls. -/
inductive Preempted (fuel : Nat) (slot : Slot) (s : Store) : Store → Prop where
  | call {s' : Store} : resetUntypedCap preempt fuel slot s = some (.preempted, s') → Preempted fuel slot s s'
  | again {s' s'' : Store} : Preempted fuel slot s s' →
      resetUntypedCap preempt fuel slot s' = some (.preempted, s'') → Preempted fuel slot s s''

/-- The bytes of a range are cleared, and no others. -/
structure Cleared (lo hi : Nat) (mem mem' : Nat → BitVec 8) : Prop where
  zero : ∀ a, lo ≤ a → a < hi → mem' a = 0
  other : ∀ a, a < lo ∨ hi ≤ a → mem' a = mem a

lemma Cleared.refl {lo hi : Nat} {mem : Nat → BitVec 8} (h : hi ≤ lo) : Cleared lo hi mem mem where
  zero := fun _ h1 h2 => absurd (h1.trans_lt h2) (not_lt.mpr h)
  other := fun _ _ => rfl

/-- First the upper part, then the lower one. -/
lemma Cleared.trans {lo mid hi : Nat} {mem mem' mem'' : Nat → BitVec 8} (h : Cleared mid hi mem mem')
    (h' : Cleared lo mid mem' mem'') (hle : lo ≤ mid) (hle' : mid ≤ hi) : Cleared lo hi mem mem'' where
  zero := fun a h1 h2 => by
    by_cases hm : a < mid
    · exact h'.zero a h1 hm
    · rw [h'.other a (.inr (not_lt.mp hm))]
      exact h.zero a (not_lt.mp hm) h2
  other := fun a ha => by
    rw [h'.other a (by omega)]
    exact h.other a (by omega)

lemma clearMemory_cleared (s : Store) (ptr bits : Nat) :
    Cleared ptr (ptr + 2 ^ bits) s.mem (s.clearMemory ptr bits).mem where
  zero := fun _ h1 h2 => if_pos ⟨h1, h2⟩
  other := fun _ h => if_neg (by omega)

/-- The offset of the chunk below `k` chunks: it wraps around when there is none. -/
private lemma sub64_chunk {k : Nat} (h : (k + 1) * 2 ^ resetChunkBits < 2 ^ 64) :
    sub64 ((k + 1) * 2 ^ resetChunkBits) (bit resetChunkBits) = k * 2 ^ resetChunkBits ∧
      k * 2 ^ resetChunkBits ≠ sub64 0 (bit resetChunkBits) := by
  rw [Nat.succ_mul] at h ⊢
  have e : sub64 0 (bit resetChunkBits) = 2 ^ 64 - 2 ^ resetChunkBits := by decide
  have hpos := Nat.two_pow_pos resetChunkBits
  refine ⟨?_, by omega⟩
  unfold bit
  rw [sub64_eq (Nat.le_add_left _ _) h, Nat.add_sub_cancel]

/-- The loop over the lowest `k` chunks ends at a chunk `j` that it has cleared, with those above. The wrap-around
of the offset is what ends it, so it runs like the loop that counts chunks. -/
lemma resetLoop_eq (slot : Slot) (prevCap : Cap) : ∀ k fuel s, k < fuel → k * 2 ^ resetChunkBits < 2 ^ 64 →
    capPtr prevCap + k * 2 ^ resetChunkBits ≤ 2 ^ 64 →
    ∃ j mem, j ≤ k ∧
      resetLoop preempt slot prevCap fuel (sub64 (k * 2 ^ resetChunkBits) (bit resetChunkBits)) s =
        some ((resetChunks preempt slot prevCap k s.cs).1, ⟨(resetChunks preempt slot prevCap k s.cs).2, mem⟩) ∧
      Cleared (capPtr prevCap + j * 2 ^ resetChunkBits) (capPtr prevCap + k * 2 ^ resetChunkBits) s.mem mem ∧
      ((resetChunks preempt slot prevCap k s.cs).1 = .none → j = 0) ∧
      ((resetChunks preempt slot prevCap k s.cs).1 = .preempted → j < k ∧
        (resetChunks preempt slot prevCap k s.cs).2.cap slot =
          setFreeIndex (offsetToFreeIndex (j * 2 ^ resetChunkBits)) prevCap) := by
  intro k
  induction k with
  | zero =>
    intro fuel s hfuel _ _
    obtain ⟨fuel, rfl⟩ := Nat.exists_eq_succ_of_ne_zero hfuel.ne'
    refine ⟨0, s.mem, le_rfl, ?_, .refl le_rfl, fun _ => rfl, fun h => by cases h⟩
    unfold resetLoop
    rw [Nat.zero_mul, if_pos rfl]
    rfl
  | succ k ih =>
    intro fuel s hfuel hk hptr
    obtain ⟨fuel, rfl⟩ := Nat.exists_eq_succ_of_ne_zero (Nat.ne_zero_of_lt hfuel)
    obtain ⟨hoff, hne⟩ := sub64_chunk hk
    have hpos := Nat.two_pow_pos resetChunkBits
    have hk' := hk
    have hptr' := hptr
    rw [Nat.succ_mul] at hk' hptr'
    have hadd : add64 (capPtr prevCap) (k * 2 ^ resetChunkBits) = capPtr prevCap + k * 2 ^ resetChunkBits :=
      add64_eq (by omega)
    have hchunk := clearMemory_cleared s (capPtr prevCap + k * 2 ^ resetChunkBits) resetChunkBits
    rw [Nat.add_assoc, ← Nat.succ_mul] at hchunk
    rw [hoff]
    unfold resetLoop resetChunks
    rw [if_neg hne]
    dsimp only
    rw [hadd]
    rw [show (s.clearMemory (capPtr prevCap + k * 2 ^ resetChunkBits) resetChunkBits).cs =
      s.cs.clearMemory (capPtr prevCap + k * 2 ^ resetChunkBits) resetChunkBits from rfl]
    rcases hpp : ((s.cs.clearMemory (capPtr prevCap + k * 2 ^ resetChunkBits) resetChunkBits).setCap slot
      (setFreeIndex (offsetToFreeIndex (k * 2 ^ resetChunkBits)) prevCap)).preemptionPoint preempt with ⟨st, cs1⟩
    have hcap : cs1.cap slot = setFreeIndex (offsetToFreeIndex (k * 2 ^ resetChunkBits)) prevCap := by
      obtain rfl : _ = cs1 := (Prod.ext_iff.mp hpp).2
      exact setCap_cap_self _ slot _
    cases st with
    | preempted => exact ⟨k, _, k.le_succ, rfl, hchunk, (by intro h; cases h), fun _ => ⟨k.lt_succ_self, hcap⟩⟩
    | none =>
      obtain ⟨j, mem, hj, e, hcl, hnone, hpre⟩ :=
        ih fuel ⟨cs1, (s.clearMemory (capPtr prevCap + k * 2 ^ resetChunkBits) resetChunkBits).mem⟩
          (by omega) (by omega) (by omega)
      refine ⟨j, mem, hj.trans k.le_succ, e, hchunk.trans hcl ?_ ?_, hnone, fun h => ?_⟩
      · exact Nat.add_le_add_left (Nat.mul_le_mul_right _ hj) _
      · exact Nat.add_le_add_left (Nat.mul_le_mul_right _ k.le_succ) _
      · exact ⟨(hpre h).1.trans k.lt_succ_self, (hpre h).2⟩

/-- What is above the mark of an untyped capability is zero. -/
def ZeroAbove (ptr size freeIndex : Nat) (mem : Nat → BitVec 8) : Prop :=
  ∀ a, ptr + freeIndex * 2 ^ minUntypedBits ≤ a → a < ptr + 2 ^ size → mem a = 0

variable {preempt} {pf : Platform} {s : Store} {slot : Slot} {freeIndex size ptr fuel : Nat} {dev : Bool}

/-- One call: the mark falls, to zero unless the call is preempted, and what is above it is zero. With enough fuel
for the loop, the CSpace changes as in the function on the CSpace alone. -/
lemma resetUntypedCap_call (preempt : Nat → Bool) (i : Inv pf s.cs)
    (hc : s.cs.cap slot = .untyped freeIndex dev size ptr) (hr : s.cs.resets slot = true)
    (hz : dev = false → ZeroAbove ptr size freeIndex s.mem) (hfuel : 2 ^ size / 2 ^ resetChunkBits < fuel) :
    ∃ st fi work mem,
      resetUntypedCap preempt fuel slot s = some (st, ⟨s.cs.remark slot (.untyped fi dev size ptr) work, mem⟩) ∧
      CSpace.resetUntypedCap preempt slot s.cs = (st, s.cs.remark slot (.untyped fi dev size ptr) work) ∧
      fi ≤ maxFreeIndex size ∧ (st = .none → fi = 0) ∧ (st = .preempted → dev = false ∧ fi < freeIndex) ∧
      (dev = false → ZeroAbove ptr size fi mem) ∧ ∀ a, a < ptr ∨ ptr + 2 ^ size ≤ a → mem a = s.mem a := by
  obtain ⟨st, fi, work, hfi, hnone, e⟩ := resetUntypedCap_eq hc preempt i hr
  have hw := i.memory.wellFormed slot
  rw [hc] at hw
  obtain ⟨hsize, hmax, hfree, -, hend⟩ := hw
  obtain ⟨eoff, hle, -⟩ := freeBytes_eq hsize hmax hfree
  have e' := e
  unfold CSpace.resetUntypedCap at e'
  unfold resetUntypedCap
  rw [hc] at e' ⊢
  dsimp only at e' ⊢
  rw [eoff] at e' ⊢
  by_cases h0 : freeIndex * 2 ^ minUntypedBits = 0
  · -- nothing to do
    rw [if_pos h0] at e' ⊢
    obtain ⟨hst, hcs⟩ := Prod.ext_iff.mp e'
    obtain rfl : Status.none = st := hst
    have hcs : s.cs = s.cs.remark slot (.untyped fi dev size ptr) work := hcs
    have hf : freeIndex = 0 := (Nat.mul_eq_zero.mp h0).resolve_right (Nat.two_pow_pos _).ne'
    refine ⟨_, fi, work, s.mem, ?_, e, hfi, hnone, nofun, fun hd => ?_, fun _ _ => rfl⟩
    · rw [← hcs]
    · rw [hnone rfl]
      subst hf
      exact hz hd
  rw [if_neg h0] at e' ⊢
  by_cases hb : (dev || decide (size < resetChunkBits)) = true
  · -- everything at once
    rw [if_pos hb] at e' ⊢
    obtain ⟨hst, hcs⟩ := Prod.ext_iff.mp e'
    obtain rfl : Status.none = st := hst
    cases dev with
    | true =>
      have hcs : s.cs.setCap slot (.untyped 0 true size ptr) = s.cs.remark slot (.untyped fi true size ptr) work := hcs
      exact ⟨_, fi, work, s.mem, by rw [← hcs]; rfl, e, hfi, hnone, nofun, nofun, fun _ _ => rfl⟩
    | false =>
      have hcs : (s.cs.clearMemory ptr size).setCap slot (.untyped 0 false size ptr) =
        s.cs.remark slot (.untyped fi false size ptr) work := hcs
      have hcl := clearMemory_cleared s ptr size
      refine ⟨_, fi, work, (s.clearMemory ptr size).mem, by rw [← hcs]; rfl, e, hfi, hnone, nofun, ?_, hcl.other⟩
      exact fun _ a h1 h2 => hcl.zero a ((Nat.le_add_right _ _).trans h1) h2
  · -- chunk by chunk
    rw [if_neg hb] at e' ⊢
    rw [Bool.or_eq_true, not_or, decide_eq_true_eq, not_lt, Bool.not_eq_true] at hb
    obtain ⟨rfl, hchunk⟩ := hb
    have hpow : 2 ^ size < 2 ^ 64 := Nat.pow_lt_pow_right (by decide) (hmax.trans_lt (by decide))
    have hpos := Nat.two_pow_pos resetChunkBits
    have hdiv := Nat.div_mul_le_self (freeIndex * 2 ^ minUntypedBits - 1) (2 ^ resetChunkBits)
    have hlast := Nat.lt_div_mul_add hpos (a := freeIndex * 2 ^ minUntypedBits - 1)
    have hfits : ((freeIndex * 2 ^ minUntypedBits - 1) / 2 ^ resetChunkBits + 1) * 2 ^ resetChunkBits ≤ 2 ^ size := by
      obtain ⟨d, hd⟩ := pow_dvd_pow 2 hchunk
      rw [hd, Nat.mul_comm (2 ^ resetChunkBits) d]
      refine Nat.mul_le_mul_right _ ?_
      rw [Nat.succ_le_iff, Nat.div_lt_iff_lt_mul hpos, Nat.mul_comm d, ← hd]
      omega
    generalize (freeIndex * 2 ^ minUntypedBits - 1) / 2 ^ resetChunkBits = k at e' hdiv hlast hfits ⊢
    have hfuel' : k + 1 < fuel := by
      have := (Nat.le_div_iff_mul_le hpos).mpr hfits
      omega
    obtain ⟨j, mem, hj, el, hcl, hj0, hpre⟩ := resetLoop_eq preempt slot (.untyped freeIndex false size ptr)
      (k + 1) fuel s
      hfuel' (by omega) (by change ptr + _ ≤ _; omega)
    rw [(sub64_chunk (by omega)).1, e'] at el
    rw [e'] at hj0 hpre
    -- the mark is the last offset that was cleared
    have hmark : fi * 2 ^ minUntypedBits = j * 2 ^ resetChunkBits := by
      cases st with
      | none => rw [hnone rfl, hj0 rfl, Nat.zero_mul, Nat.zero_mul]
      | preempted =>
        have hcap := (hpre rfl).2
        change (s.cs.setCap slot (.untyped fi false size ptr)).cap slot = _ at hcap
        rw [setCap_cap_self] at hcap
        have hfi' : fi = offsetToFreeIndex (j * 2 ^ resetChunkBits) := by
          cases hcap
          rfl
        rw [hfi']
        exact Nat.div_mul_cancel ((pow_dvd_pow 2 (by decide)).trans (Nat.dvd_mul_left _ _))
    refine ⟨st, fi, work, mem, el, e, hfi, hnone, fun hst => ⟨rfl, ?_⟩, fun hd a h1 h2 => ?_, fun a ha =>
      hcl.other a ?_⟩
    · have hjk : j * 2 ^ resetChunkBits ≤ k * 2 ^ resetChunkBits :=
        Nat.mul_le_mul_right _ (Nat.lt_succ_iff.mp (hpre hst).1)
      refine Nat.lt_of_mul_lt_mul_right (a := 2 ^ minUntypedBits) ?_
      omega
    · by_cases ha : a < ptr + (k + 1) * 2 ^ resetChunkBits
      · exact hcl.zero a (hmark ▸ h1) ha
      · rw [hcl.other a (.inr (not_lt.mp ha))]
        refine hz hd a ?_ h2
        rw [Nat.succ_mul] at ha
        omega
    · change a < ptr + _ ∨ ptr + _ ≤ a
      omega

/-- What calls have done so far: they have lowered the mark and cleared what is above it. -/
structure Resetting (s : Store) (slot : Slot) (dev : Bool) (size ptr fi : Nat) (s' : Store) : Prop where
  cs : ∃ work, s'.cs = s.cs.remark slot (.untyped fi dev size ptr) work
  mark_le : fi ≤ maxFreeIndex size
  zero : dev = false → ZeroAbove ptr size fi s'.mem
  other : ∀ a, a < ptr ∨ ptr + 2 ^ size ≤ a → s'.mem a = s.mem a

lemma resets_remark {cs : CSpace} {fi : Nat} (i : Inv pf cs) (hc : cs.cap slot = .untyped freeIndex dev size ptr)
    (work : Nat) :
    (cs.remark slot (.untyped fi dev size ptr) work).resets slot = cs.resets slot := by
  have hlink : (cs.remark slot (.untyped fi dev size ptr) work).mdbNext slot = cs.mdbNext slot := rfl
  unfold CSpace.resets CSpace.ensureNoChildren
  rw [hlink]
  cases hn : cs.mdbNext slot with
  | none => rfl
  | some next =>
    have hne : next ≠ slot := fun e => i.linked.coherent.ne_next (e ▸ hn)
    have hnext : (cs.remark slot (.untyped fi dev size ptr) work).cap next = cs.cap next := setCap_cap_of_ne cs hne _
    have hself : (cs.remark slot (.untyped fi dev size ptr) work).cap slot = .untyped fi dev size ptr :=
      setCap_cap_self cs slot _
    have hfol : follows (.untyped fi dev size ptr) (cs.cap next) (cs.mdbFirstBadged next) =
        follows (.untyped freeIndex dev size ptr) (cs.cap next) (cs.mdbFirstBadged next) := rfl
    have e : (cs.remark slot (.untyped fi dev size ptr) work).isMDBParentOf slot next = cs.isMDBParentOf slot next := by
      rw [isMDBParentOf_eq, isMDBParentOf_eq, hself, hnext, hc]
      exact congrArg _ hfol
    dsimp only
    rw [e]

/-- One more call. -/
lemma Resetting.call (i : Inv pf s.cs) (hc : s.cs.cap slot = .untyped freeIndex dev size ptr)
    (hr : s.cs.resets slot = true) (hfuel : 2 ^ size / 2 ^ resetChunkBits < fuel) {fi : Nat} {s' : Store}
    (h : s.Resetting slot dev size ptr fi s') (preempt : Nat → Bool) :
    ∃ st fi' s'', resetUntypedCap preempt fuel slot s' = some (st, s'') ∧ s.Resetting slot dev size ptr fi' s'' ∧
      (st = .none → fi' = 0) ∧ (st = .preempted → dev = false ∧ fi' < fi) := by
  obtain ⟨work, hcs⟩ := h.cs
  have i' : Inv pf s'.cs := hcs ▸ inv_remark hc i hr h.mark_le work
  have hc' : s'.cs.cap slot = .untyped fi dev size ptr := by
    rw [hcs]
    exact setCap_cap_self s.cs slot _
  have hr' : s'.cs.resets slot = true := by
    rw [hcs, resets_remark i hc]
    exact hr
  obtain ⟨st, fi', work', mem, e, -, hle, hnone, hpre, hz, ho⟩ :=
    resetUntypedCap_call preempt i' hc' hr' h.zero hfuel
  refine ⟨st, fi', _, e, ⟨⟨work', ?_⟩, hle, hz, fun a ha => (ho a ha).trans (h.other a ha)⟩, hnone, hpre⟩
  rw [hcs]
  unfold CSpace.remark CSpace.setCap
  simp

/-- Calling again and again ends, because the mark falls each time. -/
lemma Resetting.until (i : Inv pf s.cs) (hc : s.cs.cap slot = .untyped freeIndex dev size ptr)
    (hr : s.cs.resets slot = true) (hfuel : 2 ^ size / 2 ^ resetChunkBits < fuel) (preempt : Nat → Bool) :
    ∀ n fi s', fi < n → s.Resetting slot dev size ptr fi s' →
      ∃ s'', resetUntil preempt fuel slot n s' = some s'' ∧ s.Resetting slot dev size ptr 0 s'' := by
  intro n
  induction n with
  | zero => exact fun _ _ h => absurd h (Nat.not_lt_zero _)
  | succ n ih =>
    intro fi s' hn h
    obtain ⟨st, fi', s'', e, h', hnone, hpre⟩ := h.call i hc hr hfuel preempt
    unfold resetUntil
    rw [e]
    cases st with
    | none =>
      have h0 := hnone rfl
      subst h0
      exact ⟨s'', rfl, h'⟩
    | preempted => exact ih fi' s'' (by have := (hpre rfl).2; omega) h'

/-- After preempted calls the mark is lower. -/
lemma Resetting.preempted (i : Inv pf s.cs) (hc : s.cs.cap slot = .untyped freeIndex dev size ptr)
    (hr : s.cs.resets slot = true) (hfuel : 2 ^ size / 2 ^ resetChunkBits < fuel) {preempt : Nat → Bool} {s' : Store}
    (h0 : s.Resetting slot dev size ptr freeIndex s) (h : Preempted preempt fuel slot s s') :
    ∃ fi, dev = false ∧ fi < freeIndex ∧ s.Resetting slot dev size ptr fi s' := by
  induction h with
  | call e =>
    obtain ⟨st, fi, s'', e', h', -, hpre⟩ := h0.call i hc hr hfuel preempt
    cases e.symm.trans e'
    exact ⟨fi, (hpre rfl).1, (hpre rfl).2, h'⟩
  | again _ e ih =>
    obtain ⟨fi, -, hlt, h⟩ := ih
    obtain ⟨st, fi', s'', e', h', -, hpre⟩ := h.call i hc hr hfuel preempt
    cases e.symm.trans e'
    exact ⟨fi', (hpre rfl).1, (hpre rfl).2.trans hlt, h'⟩

/-- Resetting an untyped capability without children whose memory is zero above the mark, with any preemptions:
calling again ends with the mark at zero and, unless it is device memory, with the whole region zero. After each
preempted call the mark is lower and what is above it is zero. Nothing outside of the region is written, and no
other capability is changed. -/
theorem reset_reachable {s : Store} (h : Reachable pf s.cs) {slot : Slot} {freeIndex size ptr : Nat} {dev : Bool}
    (hc : s.cs.cap slot = .untyped freeIndex dev size ptr) (hno : s.cs.ensureNoChildren slot = .ok ())
    (hz : ∀ a, ptr + freeIndex * 2 ^ minUntypedBits ≤ a → a < ptr + 2 ^ size → s.mem a = 0) (preempt : Nat → Bool)
    {fuel : Nat} (hfuel : 2 ^ size / 2 ^ resetChunkBits < fuel) :
    (∃ n s', resetUntil preempt fuel slot n s = some s' ∧ s'.cs.cap slot = .untyped 0 dev size ptr ∧
      (dev = false → ∀ a, ptr ≤ a → a < ptr + 2 ^ size → s'.mem a = 0) ∧
      (∀ a, a < ptr ∨ ptr + 2 ^ size ≤ a → s'.mem a = s.mem a) ∧ ∀ t, t ≠ slot → s'.cs.cap t = s.cs.cap t) ∧
    ∀ s', Preempted preempt fuel slot s s' → ∃ fi, fi < freeIndex ∧ s'.cs.cap slot = .untyped fi dev size ptr ∧
      (∀ a, ptr + fi * 2 ^ minUntypedBits ≤ a → a < ptr + 2 ^ size → s'.mem a = 0) ∧
      (∀ a, a < ptr ∨ ptr + 2 ^ size ≤ a → s'.mem a = s.mem a) ∧ ∀ t, t ≠ slot → s'.cs.cap t = s.cs.cap t := by
  have i := h.inv
  have hr := resets_iff.mpr hno
  have hw := i.memory.wellFormed slot
  rw [hc] at hw
  have hcaps : ∀ {fi s'}, s.Resetting slot dev size ptr fi s' →
      s'.cs.cap slot = .untyped fi dev size ptr ∧ ∀ t, t ≠ slot → s'.cs.cap t = s.cs.cap t := by
    intro fi s' h
    obtain ⟨work, e⟩ := h.cs
    rw [e]
    exact ⟨setCap_cap_self s.cs slot _, fun t ht => setCap_cap_of_ne s.cs ht _⟩
  have h0 : s.Resetting slot dev size ptr freeIndex s := by
    refine ⟨⟨s.cs.ksWorkUnitsCompleted, ?_⟩, hw.2.2.1, fun _ => hz, fun _ _ => rfl⟩
    rw [← hc]
    unfold CSpace.remark
    rw [setCap_same]
  refine ⟨?_, fun s' hp => ?_⟩
  · obtain ⟨s', e, h'⟩ := Resetting.until i hc hr hfuel preempt (freeIndex + 1) freeIndex s (Nat.lt_succ_self _) h0
    refine ⟨_, s', e, (hcaps h').1, fun hd a h1 h2 => h'.zero hd a ?_ h2, h'.other, (hcaps h').2⟩
    rwa [Nat.zero_mul]
  · obtain ⟨fi, hd, hlt, h'⟩ := Resetting.preempted i hc hr hfuel h0 hp
    exact ⟨fi, hlt, (hcaps h').1, h'.zero hd, h'.other, (hcaps h').2⟩

/-- The page that is left after booting is marked full. It is cleared although each chunk is preempted. -/
theorem reset_reachable_armVirt :
    ∃ n s', resetUntil (fun _ => true) 17 pageSlot n ⟨bootState (armVirt 1) armVirtBoot, fun _ => 1⟩ = some s' ∧
      s'.mem 0x8060000123 = 0 := by
  obtain ⟨hc, hno⟩ : (bootState (armVirt 1) armVirtBoot).cap pageSlot = .untyped 256 false 12 0x8060000000 ∧
      (bootState (armVirt 1) armVirtBoot).ensureNoChildren pageSlot = .ok () := by
    decide +kernel
  have hr : Reachable (armVirt 1) (bootState (armVirt 1) armVirtBoot) := reachable_armVirt
  have hfull : ∀ a, 0x8060000000 + 256 * 2 ^ minUntypedBits ≤ a → a < 0x8060000000 + 2 ^ 12 → (1 : BitVec 8) = 0 := by
    intro a h1 h2
    exact absurd (h1.trans_lt h2) (by decide)
  generalize bootState (armVirt 1) armVirtBoot = cs at hc hno hr ⊢
  have hfuel : 2 ^ 12 / 2 ^ resetChunkBits < 17 := by norm_num [resetChunkBits]
  obtain ⟨n, s', e, -, hz, -⟩ := (reset_reachable (s := ⟨cs, fun _ => 1⟩) hr hc hno hfull (fun _ => true) hfuel).1
  exact ⟨n, s', e, hz rfl _ (by decide) (by decide)⟩

end Store

end NexsKernel.CSpace
