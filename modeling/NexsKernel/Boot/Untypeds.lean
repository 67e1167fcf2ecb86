import NexsKernel.Boot.Window
import NexsKernel.Lib.Failing
import NexsKernel.Machine.Zeros

/-!
# Untyped memory at boot

`create_untypeds` (`kernel/boot.c`): what is not reserved becomes device untypeds, the free memory and the part of
the kernel image that only the boot code needs become normal ones. A function that returns false stops here with the
state that it has reached.
-/

namespace NexsKernel

namespace Boot

/-- A function that provides capabilities, and may fail. -/
abbrev Handout := EStateM Unit NdksBoot

/-- `ctzl`. -/
def ctzl (n : Nat) : Nat :=
  ((List.range 64).find? fun i => n.testBit i).getD 64

/-- `pptr_in_kernel_window`. -/
def pptrInKernelWindow (cfg : BootConfig) (pptr : Nat) : Bool :=
  cfg.pptrBase ≤ pptr && pptr < cfg.pptrTop

/-- `provide_cap`. -/
def provideCap (cfg : BootConfig) (untyped : Bool × Nat × Nat) : Handout Unit := do
  if 2 ^ cfg.rootCNodeSizeBits ≤ (← get).slotPosCur then
    throw ()
  else
    modify fun s => { s with slotPosCur := s.slotPosCur + 1, untypeds := s.untypeds ++ [untyped] }

/-- `provide_untyped_cap`. -/
def provideUntypedCap (cfg : BootConfig) (deviceMemory : Bool) (pptr sizeBits firstUntypedSlot : Nat) :
    Handout Unit := do
  if maxUntypedBits < sizeBits ∨ sizeBits < minUntypedBits then
    throw ()
  else if pptr % 2 ^ sizeBits ≠ 0 then
    throw ()
  else if !deviceMemory && !pptrInKernelWindow cfg pptr then
    throw ()
  else if !deviceMemory && !pptrInKernelWindow cfg (add64 pptr (2 ^ sizeBits - 1)) then
    throw ()
  else if sub64 (← get).slotPosCur firstUntypedSlot < cfg.maxNumBootinfoUntypedCaps then
    provideCap cfg (deviceMemory, sizeBits, pptr)
  else
    -- there are more untypeds than the boot info has room for
    return

/-- The size of the next untyped of a region. -/
def untypedSizeBits (reg : Region) : Nat :=
  let sizeBits := min (Nat.log2 (sub64 reg.stop reg.start)) maxUntypedBits
  if reg.start ≠ 0 then min sizeBits (ctzl reg.start) else sizeBits

lemma two_pow_untypedSizeBits_le {reg : Region} (h : sub64 reg.stop reg.start ≠ 0) :
    2 ^ untypedSizeBits reg ≤ sub64 reg.stop reg.start := by
  have hle : untypedSizeBits reg ≤ Nat.log2 (sub64 reg.stop reg.start) := by
    unfold untypedSizeBits
    dsimp only
    split <;> omega
  exact (Nat.pow_le_pow_right (by norm_num) hle).trans (Nat.log2_self_le h)

lemma sub64_next {reg : Region} (h : sub64 reg.stop reg.start ≠ 0) :
    sub64 reg.stop (add64 reg.start (2 ^ untypedSizeBits reg)) + 2 ^ untypedSizeBits reg =
    sub64 reg.stop reg.start := by
  have hle := two_pow_untypedSizeBits_le h
  have hpos : 0 < 2 ^ untypedSizeBits reg := by positivity
  generalize 2 ^ untypedSizeBits reg = n at *
  unfold add64 sub64 at *
  omega

/-- `create_untypeds_for_region`. -/
def createUntypedsForRegion (cfg : BootConfig) (deviceMemory : Bool) (reg : Region) (firstUntypedSlot : Nat) :
    Handout Unit := do
  -- `is_reg_empty`, for two words
  if h : sub64 reg.stop reg.start = 0 then
    return
  else
    let sizeBits := untypedSizeBits reg
    if minUntypedBits ≤ sizeBits then
      provideUntypedCap cfg deviceMemory reg.start sizeBits firstUntypedSlot
      createUntypedsForRegion cfg deviceMemory { reg with start := add64 reg.start (2 ^ sizeBits) } firstUntypedSlot
    else
      createUntypedsForRegion cfg deviceMemory { reg with start := add64 reg.start (2 ^ sizeBits) } firstUntypedSlot
termination_by sub64 reg.stop reg.start
decreasing_by
  all_goals
    have := sub64_next h
    have : 0 < 2 ^ untypedSizeBits reg := by positivity
    omega

/-- The part of `create_untypeds` above the last reserved region. -/
def createTopUntypeds (cfg : BootConfig) (firstUntypedSlot start : Nat) : Handout Unit :=
  if start < cfg.paddrUserDeviceTop then
    createUntypedsForRegion cfg true (paddrToPptrReg cfg ⟨start, cfg.paddrUserDeviceTop⟩) firstUntypedSlot
  else return

/-- The loop of `create_untypeds` over the reserved regions, and what follows on it. -/
def createDeviceUntypeds (cfg : BootConfig) (firstUntypedSlot : Nat) : Nat → List Region → Handout Unit
  | start, [] => createTopUntypeds cfg firstUntypedSlot start
  | start, r :: rs =>
    if start < r.start then do
      createUntypedsForRegion cfg true (paddrToPptrReg cfg ⟨start, r.start⟩) firstUntypedSlot
      createDeviceUntypeds cfg firstUntypedSlot r.stop rs
    else createDeviceUntypeds cfg firstUntypedSlot r.stop rs

/-- The loop of `create_untypeds` over `freemem`, whose first entries have been cleared. -/
def createFreeUntypeds (cfg : BootConfig) (firstUntypedSlot : Nat) : List Region → List Region → Handout Unit
  | _, [] => return
  | cleared, reg :: rest => do
    modify fun s => { s with freemem := cleared ++ regEmpty :: rest }
    createUntypedsForRegion cfg false reg firstUntypedSlot
    createFreeUntypeds cfg firstUntypedSlot (cleared ++ [regEmpty]) rest

/-- `create_untypeds`. -/
def createUntypeds (cfg : BootConfig) : Handout Unit := do
  let s ← get
  createDeviceUntypeds cfg s.slotPosCur 0 s.reserved
  createUntypedsForRegion cfg false (paddrToPptrReg cfg cfg.kernelImgBoot) s.slotPosCur
  createFreeUntypeds cfg s.slotPosCur [] s.freemem

/-- The addresses of an untyped. -/
def span (untyped : Bool × Nat × Nat) : Region :=
  ⟨untyped.2.2, untyped.2.2 + 2 ^ untyped.2.1⟩

/-- Untypeds that share no address, device untypeds in `a true` and normal ones in `a false`. -/
structure Parcels (a : Bool → Set Nat) (new : List (Bool × Nat × Nat)) : Prop where
  inside : ∀ c ∈ new, ∀ v ∈ span c, v ∈ a c.1
  disjoint : new.Pairwise fun b c => (span b).Disjoint (span c)

/-- A function that hands out untypeds in the sets. -/
def Hands {α : Type} (a : Bool → Set Nat) (m : Handout α) : Prop :=
  ∀ s, ∃ new, (Failing.finalState (m s)).untypeds = s.untypeds ++ new ∧ Parcels a new

namespace Hands

variable {α β : Type} {a b c : Bool → Set Nat} {cfg : BootConfig}

lemma none {m : Handout α} (h : ∀ s, (Failing.finalState (m s)).untypeds = s.untypeds) : Hands a m := fun s =>
  ⟨[], (h s).trans (List.append_nil _).symm, nofun, .nil⟩

lemma pure (x : α) : Hands a (Pure.pure x : Handout α) := none fun _ => rfl

lemma throw : Hands a (MonadExcept.throw () : Handout α) := none fun _ => rfl

lemma mono {m : Handout α} (h : Hands a m) (hab : ∀ d v, v ∈ a d → v ∈ b d) : Hands b m := fun s =>
  have ⟨new, e, inside, disjoint⟩ := h s
  ⟨new, e, fun c hc v hv => hab _ v (inside c hc v hv), disjoint⟩

/-- Two functions that hand out untypeds in sets with no common address, one after the other. -/
lemma bind {m : Handout α} {f : α → Handout β} (hm : Hands a m) (hf : ∀ x, Hands b (f x))
    (ha : ∀ d v, v ∈ a d → v ∈ c d) (hb : ∀ d v, v ∈ b d → v ∈ c d) (hab : ∀ d d' v, v ∈ a d → v ∉ b d') :
    Hands c (m >>= f) := by
  intro s
  obtain ⟨new, e, inside, disjoint⟩ := hm s
  rcases h : m s with ⟨x, s'⟩ | ⟨u, s'⟩
  · obtain ⟨new', e', inside', disjoint'⟩ := hf x s'
    rw [h] at e
    refine ⟨new ++ new', ?_, fun u hu v hv => ?_, ?_⟩
    · rw [Failing.bind_ok h, e', ← List.append_assoc]
      exact congrArg (· ++ new') e
    · rcases List.mem_append.mp hu with hu | hu
      · exact ha _ v (inside u hu v hv)
      · exact hb _ v (inside' u hu v hv)
    · rw [List.pairwise_append]
      exact ⟨disjoint, disjoint', fun u hu w hw v hv hv' => hab _ _ v (inside u hu v hv) (inside' w hw v hv')⟩
  · rw [h] at e
    refine ⟨new, ?_, fun u hu v hv => ha _ v (inside u hu v hv), disjoint⟩
    rw [Failing.bind_error h]
    exact e

end Hands

/-- A set of addresses for one kind of untypeds. -/
def only (d : Bool) (s : Set Nat) : Bool → Set Nat :=
  fun d' => {v | d' = d ∧ v ∈ s}

/-- The addresses of a region that may wrap around. -/
def arc (reg : Region) : Set Nat :=
  {v | v < 2 ^ 64 ∧ sub64 v reg.start < sub64 reg.stop reg.start}

lemma two_pow_ctzl_dvd (n : Nat) : 2 ^ ctzl n ∣ n := by
  have low : ∀ j < ctzl n, n.testBit j = false := by
    intro j hj
    unfold ctzl at hj
    rcases h : (List.range 64).find? fun i => n.testBit i with _ | i
    · rw [h] at hj
      rw [List.find?_range_eq_none] at h
      simpa using h j hj
    · rw [h] at hj
      rw [List.find?_range_eq_some] at h
      simpa using h.2.2 j hj
  apply Nat.dvd_of_mod_eq_zero
  apply Nat.eq_of_testBit_eq
  intro j
  rw [Nat.testBit_mod_two_pow, Nat.zero_testBit]
  by_cases hj : j < ctzl n
  · rw [low j hj, Bool.and_false]
  · rw [decide_eq_false hj, Bool.false_and]

lemma le_ctzl {n k : Nat} (hdvd : 2 ^ k ∣ n) (hk : k ≤ 64) : k ≤ ctzl n := by
  unfold ctzl
  rcases h : (List.range 64).find? fun i => n.testBit i with _ | i
  · exact hk
  · rw [List.find?_range_eq_some] at h
    by_contra hle
    have hlt : i < k := Nat.lt_of_not_le hle
    have hbit := Nat.testBit_mod_two_pow n k i
    rw [Nat.mod_eq_zero_of_dvd hdvd, Nat.zero_testBit, h.1, decide_eq_true hlt] at hbit
    cases hbit

lemma ctzl_two_pow {k : Nat} (hk : k ≤ 64) : ctzl (2 ^ k) = k :=
  le_antisymm ((Nat.pow_dvd_pow_iff_le_right (by norm_num)).mp (two_pow_ctzl_dvd _)) (le_ctzl dvd_rfl hk)

/-- The next untyped of a region does not wrap around. -/
lemma start_add_le {reg : Region} (hs : reg.start < 2 ^ 64) (h : sub64 reg.stop reg.start ≠ 0) :
    reg.start + 2 ^ untypedSizeBits reg ≤ 2 ^ 64 := by
  have hle := two_pow_untypedSizeBits_le h
  have hlt : sub64 reg.stop reg.start < 2 ^ 64 := Nat.mod_lt _ (by norm_num)
  by_cases hzero : reg.start = 0
  · omega
  · have hdvd : 2 ^ untypedSizeBits reg ∣ reg.start := by
      apply (pow_dvd_pow 2 _).trans (two_pow_ctzl_dvd reg.start)
      unfold untypedSizeBits
      rw [if_pos hzero]
      exact Nat.min_le_right _ _
    have hdvd' : 2 ^ untypedSizeBits reg ∣ 2 ^ 64 := by
      apply pow_dvd_pow
      have : untypedSizeBits reg < 64 := (Nat.pow_lt_pow_iff_right (by norm_num)).mp (hle.trans_lt hlt)
      exact this.le
    obtain ⟨m, hm⟩ := hdvd
    obtain ⟨n, hn⟩ := hdvd'
    rw [hm, hn] at hs
    have hmn : m < n := lt_of_mul_lt_mul_left hs (Nat.zero_le _)
    have := Nat.mul_le_mul_left (2 ^ untypedSizeBits reg) (Nat.succ_le_of_lt hmn)
    rw [Nat.mul_succ, ← hm, ← hn] at this
    exact this

variable {cfg : BootConfig}

lemma provideCap_hands {s : Set Nat} {untyped : Bool × Nat × Nat} (h : ∀ v ∈ span untyped, v ∈ s) :
    Hands (only untyped.1 s) (provideCap cfg untyped) := by
  intro st
  have e : provideCap cfg untyped st = (if 2 ^ cfg.rootCNodeSizeBits ≤ st.slotPosCur then MonadExcept.throw ()
      else modify fun s => { s with slotPosCur := s.slotPosCur + 1, untypeds := s.untypeds ++ [untyped] } :
      Handout Unit) st := rfl
  rw [e]
  split
  · exact ⟨[], (List.append_nil _).symm, nofun, .nil⟩
  · refine ⟨[untyped], rfl, fun c hc v hv => ?_, List.pairwise_singleton _ _⟩
    obtain rfl := List.mem_singleton.mp hc
    exact ⟨rfl, h v hv⟩

lemma provideUntypedCap_hands {s : Set Nat} {d pptr sizeBits first}
    (h : ∀ v ∈ span (d, sizeBits, pptr), v ∈ s) : Hands (only d s) (provideUntypedCap cfg d pptr sizeBits first) := by
  unfold provideUntypedCap
  split
  · exact Hands.throw
  split
  · exact Hands.throw
  split
  · exact Hands.throw
  split
  · exact Hands.throw
  intro st
  change ∃ new, (Failing.finalState ((if sub64 st.slotPosCur first < cfg.maxNumBootinfoUntypedCaps then
    provideCap cfg (d, sizeBits, pptr) else Pure.pure () : Handout Unit) st)).untypeds = _ ∧ _
  split
  · exact provideCap_hands h st
  · exact Hands.pure () st

lemma span_arc {d : Bool} {reg : Region} (hs : reg.start < 2 ^ 64) (h : sub64 reg.stop reg.start ≠ 0) {v : Nat}
    (hv : v ∈ span (d, untypedSizeBits reg, reg.start)) : v ∈ arc reg := by
  simp only [span, Region.mem_iff] at hv
  obtain ⟨h1, h2⟩ := hv
  have h3 := start_add_le hs h
  have h4 := two_pow_untypedSizeBits_le h
  generalize 2 ^ untypedSizeBits reg = n at *
  have hv : v < 2 ^ 64 := by omega
  refine ⟨hv, ?_⟩
  rw [sub64_eq h1 hv]
  omega

/-- What is left of a region once its next untyped is gone. -/
lemma arc_next {d : Bool} {reg : Region} (hs : reg.start < 2 ^ 64) (h : sub64 reg.stop reg.start ≠ 0) {v : Nat}
    (hv : v ∈ arc { reg with start := add64 reg.start (2 ^ untypedSizeBits reg) }) :
    v ∈ arc reg ∧ v ∉ span (d, untypedSizeBits reg, reg.start) := by
  obtain ⟨h1, h2⟩ := hv
  have h3 := start_add_le hs h
  have h4 := sub64_next h
  simp only [span, Region.mem_iff] at *
  generalize 2 ^ untypedSizeBits reg = n at *
  generalize sub64 reg.stop (add64 reg.start n) = m at *
  have e : sub64 v (add64 reg.start n) + n = sub64 v reg.start ∨
      sub64 v (add64 reg.start n) + n = sub64 v reg.start + 2 ^ 64 := by
    unfold add64 sub64
    omega
  have hlt : sub64 reg.stop reg.start < 2 ^ 64 := Nat.mod_lt _ (by norm_num)
  have hn : n ≤ sub64 v reg.start := by omega
  refine ⟨⟨h1, by omega⟩, fun hv => ?_⟩
  rw [sub64_eq hv.1 h1] at hn
  omega

/-- The untypeds for a region lie in it, and nothing of it is handed out twice. -/
lemma createUntypedsForRegion_hands (cfg : BootConfig) (d : Bool) (first : Nat) {reg : Region}
    (hs : reg.start < 2 ^ 64) :
    Hands (only d (arc reg)) (createUntypedsForRegion cfg d reg first) := by
  induction reg using createUntypedsForRegion.induct with
  | case1 reg h =>
    rw [createUntypedsForRegion, dif_pos h]
    exact Hands.pure ()
  | case2 reg h sizeBits hmin ih =>
    rw [createUntypedsForRegion, dif_neg h]
    dsimp only
    rw [if_pos hmin]
    apply Hands.bind (provideUntypedCap_hands fun v hv => hv) (fun _ => ih (Nat.mod_lt _ (by norm_num)))
    · exact fun d' v hv => ⟨hv.1, span_arc hs h hv.2⟩
    · exact fun d' v hv => ⟨hv.1, (arc_next (d := d) hs h hv.2).1⟩
    · exact fun d1 d2 v hv hv' => (arc_next hs h hv'.2).2 hv.2
  | case3 reg h sizeBits hmin ih =>
    rw [createUntypedsForRegion, dif_neg h]
    dsimp only
    rw [if_neg hmin]
    exact (ih (Nat.mod_lt _ (by norm_num))).mono fun d' v hv => ⟨hv.1, (arc_next (d := d) hs h hv.2).1⟩

/-- The addresses between two physical addresses. -/
lemma arc_paddrToPptrReg {a b v : Nat} (hab : a < b) (hb : b < 2 ^ 64) :
    v ∈ arc (paddrToPptrReg cfg ⟨a, b⟩) ↔
      v < 2 ^ 64 ∧ a ≤ sub64 v cfg.pptrBaseOffset ∧ sub64 v cfg.pptrBaseOffset < b := by
  have hoff := cfg.offset_lt
  have e : sub64 (add64 b cfg.pptrBaseOffset) (add64 a cfg.pptrBaseOffset) = b - a := by
    unfold add64 sub64
    omega
  change _ ∧ _ < sub64 (add64 b cfg.pptrBaseOffset) (add64 a cfg.pptrBaseOffset) ↔ _
  rw [e]
  dsimp only [paddrToPptrReg]
  constructor
  · rintro ⟨hv, hlt⟩
    refine ⟨hv, ?_⟩
    unfold add64 sub64 at *
    omega
  · rintro ⟨hv, h1, h2⟩
    refine ⟨hv, ?_⟩
    unfold add64 sub64 at *
    omega

/-- The device untypeds lie between the reserved regions. -/
lemma createDeviceUntypeds_hands (cfg : BootConfig) (first : Nat) {start rs} (h : Ascending rs)
    (hle : ∀ r ∈ rs, start ≤ r.start) (hw : ∀ r ∈ rs, r.start < 2 ^ 64) :
    Hands (only true {v | v < 2 ^ 64 ∧ start ≤ sub64 v cfg.pptrBaseOffset ∧ sub64 v cfg.pptrBaseOffset ∉ cover rs})
      (createDeviceUntypeds cfg first start rs) := by
  induction rs generalizing start with
  | nil =>
    unfold createDeviceUntypeds createTopUntypeds
    split
    · rename_i hlt
      have hstart : (paddrToPptrReg cfg ⟨start, cfg.paddrUserDeviceTop⟩).start < 2 ^ 64 := Nat.mod_lt _ (by norm_num)
      apply (createUntypedsForRegion_hands cfg _ _ hstart).mono
      rintro d v ⟨hd, hv⟩
      obtain ⟨hv, hle, -⟩ := (arc_paddrToPptrReg hlt cfg.userDeviceTop_lt).mp hv
      exact ⟨hd, hv, hle, fun h => mem_cover_nil.mp h⟩
    · exact Hands.pure ()
  | cons r rs ih =>
    have hr := h.proper r (.head _)
    have ih := @ih r.stop h.tail (fun s hs => List.rel_of_pairwise_cons h.sorted hs) fun s hs =>
      hw s (.tail _ hs)
    have habove : ∀ x ∈ cover (r :: rs), r.start ≤ x := by
      intro x hx
      rcases mem_cover_cons.mp hx with hx | hx
      · exact hx.1
      · exact hr.le.trans (h.stop_le hx)
    have hrest : ∀ d v, v ∈ only true {v | v < 2 ^ 64 ∧ r.stop ≤ sub64 v cfg.pptrBaseOffset ∧
        sub64 v cfg.pptrBaseOffset ∉ cover rs} d → v ∈ only true {v | v < 2 ^ 64 ∧
        start ≤ sub64 v cfg.pptrBaseOffset ∧ sub64 v cfg.pptrBaseOffset ∉ cover (r :: rs)} d := by
      rintro d v ⟨hd, hv, hstop, hnot⟩
      refine ⟨hd, hv, (hle r (.head _)).trans (hr.le.trans hstop), fun hmem => ?_⟩
      rcases mem_cover_cons.mp hmem with hmem | hmem
      · exact hmem.2.not_ge hstop
      · exact hnot hmem
    unfold createDeviceUntypeds
    split
    · rename_i hlt
      have hstart : (paddrToPptrReg cfg ⟨start, r.start⟩).start < 2 ^ 64 := Nat.mod_lt _ (by norm_num)
      have hgap : ∀ v, v ∈ arc (paddrToPptrReg cfg ⟨start, r.start⟩) ↔ _ := fun v =>
        arc_paddrToPptrReg hlt (hw r (.head _))
      apply Hands.bind (createUntypedsForRegion_hands cfg _ _ hstart) (fun _ => ih) _ hrest
      · rintro d d' v ⟨-, hv⟩ ⟨-, -, hstop, -⟩
        obtain ⟨-, -, hv⟩ := (hgap v).mp hv
        omega
      · rintro d v ⟨hd, hv⟩
        obtain ⟨hv, h1, h2⟩ := (hgap v).mp hv
        exact ⟨hd, hv, h1, fun hmem => (habove _ hmem).not_gt h2⟩
    · exact ih.mono hrest

/-- The free memory becomes normal untypeds. -/
lemma createFreeUntypeds_hands (cfg : BootConfig) (first : Nat) (cleared : List Region) {rest} (h : Free rest)
    (hw : ∀ r ∈ rest, r.stop < 2 ^ 64) :
    Hands (only false (cover rest)) (createFreeUntypeds cfg first cleared rest) := by
  induction rest generalizing cleared with
  | nil => exact Hands.pure ()
  | cons reg rest ih =>
    have hle := h.valid reg (.head _)
    have hstop := hw reg (.head _)
    have ih := ih (cleared ++ [regEmpty]) ⟨fun r hr => h.valid r (.tail _ hr), h.disjoint.of_cons⟩
      fun r hr => hw r (.tail _ hr)
    have harc : ∀ v ∈ arc reg, v ∈ reg := by
      rintro v ⟨hv, hlt⟩
      rw [Region.mem_iff]
      unfold sub64 at hlt
      omega
    have hmodify : Hands (fun _ => ∅) (modify fun s => { s with freemem := cleared ++ regEmpty :: rest } :
        Handout PUnit) := Hands.none fun _ => rfl
    unfold createFreeUntypeds
    apply Hands.bind hmodify (b := only false (cover (reg :: rest))) _ nofun (fun d v hv => hv) nofun
    intro _
    apply Hands.bind (createUntypedsForRegion_hands _ _ _ (hle.trans_lt hstop)) (fun _ => ih)
    · exact fun d v hv => ⟨hv.1, mem_cover_cons.mpr (.inl (harc v hv.2))⟩
    · exact fun d v hv => ⟨hv.1, mem_cover_cons.mpr (.inr hv.2)⟩
    · rintro d d' v ⟨-, hv⟩ ⟨-, r, hr, hv'⟩
      exact List.rel_of_pairwise_cons h.disjoint hr v (harc v hv) hv'

/-- Where the untypeds come from, in a state in which the free memory is reserved, and the boot image as well. -/
theorem createUntypeds_hands (cfg : BootConfig) (s : NdksBoot) {img : Region}
    (himg : img = paddrToPptrReg cfg cfg.kernelImgBoot)
    (ht : Table s.reserved) (hw : ∀ r ∈ s.reserved, r.start < 2 ^ 64) (hf : Free s.freemem)
    (hfw : ∀ r ∈ s.freemem, r.stop < 2 ^ 64) (hle : img.start ≤ img.stop) (hiw : img.stop < 2 ^ 64)
    (hres : ∀ v < 2 ^ 64, v ∈ img ∨ v ∈ cover s.freemem → sub64 v cfg.pptrBaseOffset ∈ cover s.reserved)
    (hdisj : ∀ v ∈ img, v ∉ cover s.freemem) :
    ∃ new, (Failing.finalState (createUntypeds cfg s)).untypeds = s.untypeds ++ new ∧
      Parcels (fun d => {v | if d then v < 2 ^ 64 ∧ sub64 v cfg.pptrBaseOffset ∉ cover s.reserved
        else v ∈ img ∨ v ∈ cover s.freemem}) new := by
  have harc : ∀ v ∈ arc img, v ∈ img := by
    rintro v ⟨hv, hlt⟩
    rw [Region.mem_iff]
    unfold sub64 at hlt
    omega
  have hfree : ∀ v ∈ cover s.freemem, v < 2 ^ 64 := by
    rintro v ⟨r, hr, hv⟩
    exact hv.2.trans (hfw r hr)
  have device := createDeviceUntypeds_hands cfg s.slotPosCur ht.ascending (fun r _ => r.start.zero_le) hw
  have image : Hands (only false (arc img))
      (createUntypedsForRegion cfg false (paddrToPptrReg cfg cfg.kernelImgBoot) s.slotPosCur) := by
    rw [himg]
    exact createUntypedsForRegion_hands _ _ _ (Nat.mod_lt _ (by norm_num))
  have free := createFreeUntypeds_hands cfg s.slotPosCur [] hf hfw
  have normal : Hands (only false {v | v ∈ img ∨ v ∈ cover s.freemem}) (do
      createUntypedsForRegion cfg false (paddrToPptrReg cfg cfg.kernelImgBoot) s.slotPosCur
      createFreeUntypeds cfg s.slotPosCur [] s.freemem) := by
    apply Hands.bind image (fun _ => free)
    · exact fun d v hv => ⟨hv.1, .inl (harc v hv.2)⟩
    · exact fun d v hv => ⟨hv.1, .inr hv.2⟩
    · exact fun d d' v hv hv' => hdisj v (harc v hv.2) hv'.2
  refine Hands.bind device (fun _ => normal) ?_ ?_ ?_ s
  · rintro d v ⟨rfl, hv, -, hnot⟩
    exact ⟨hv, hnot⟩
  · rintro d v ⟨rfl, hv⟩
    exact hv
  · rintro d d' v ⟨-, hv, -, hnot⟩ ⟨-, hv'⟩
    exact hnot (hres v hv hv')

/-- A function that hands out untypeds of a kind. -/
def Adds {α : Type} (m : Handout α) (P : Bool × Nat × Nat → Prop) : Prop :=
  ∀ s, ∃ new, (Failing.finalState (m s)).untypeds = s.untypeds ++ new ∧ ∀ c ∈ new, P c

lemma Hands.adds {α : Type} {m : Handout α} {a : Bool → Set Nat} {P : Bool × Nat × Nat → Prop} (h : Hands a m)
    (hP : ∀ c, (∀ v ∈ span c, v ∈ a c.1) → P c) : Adds m P := by
  intro s
  obtain ⟨new, e, parcels⟩ := h s
  exact ⟨new, e, fun c hc => hP c (parcels.inside c hc)⟩

lemma Adds.bind {α β : Type} {m : Handout α} {f : α → Handout β} {P : Bool × Nat × Nat → Prop} (hm : Adds m P)
    (hf : ∀ x, Adds (f x) P) : Adds (m >>= f) P := by
  intro s
  obtain ⟨new, e, hnew⟩ := hm s
  rcases h : m s with ⟨x, s'⟩ | ⟨u, s'⟩ <;> rw [h] at e
  · obtain ⟨new', e', hnew'⟩ := hf x s'
    refine ⟨new ++ new', ?_, fun c hc => (List.mem_append.mp hc).elim (hnew c) (hnew' c)⟩
    rw [Failing.bind_ok h, e', ← List.append_assoc]
    exact congrArg (· ++ new') e
  · refine ⟨new, ?_, hnew⟩
    rw [Failing.bind_error h]
    exact e

/-- Whatever the free memory is, no device untyped covers anything that is reserved. -/
lemma createUntypeds_device (cfg : BootConfig) (s : NdksBoot) (ht : Table s.reserved)
    (hw : ∀ r ∈ s.reserved, r.start < 2 ^ 64) (hf : Free s.freemem) (hfw : ∀ r ∈ s.freemem, r.stop < 2 ^ 64) :
    ∃ new, (Failing.finalState (createUntypeds cfg s)).untypeds = s.untypeds ++ new ∧
      ∀ c ∈ new, c.1 = true → ∀ v ∈ span c, v < 2 ^ 64 ∧ sub64 v cfg.pptrBaseOffset ∉ cover s.reserved := by
  have normal : ∀ {a : Set Nat} {m : Handout Unit}, Hands (only false a) m → Adds m fun c =>
      c.1 = true → ∀ v ∈ span c, v < 2 ^ 64 ∧ sub64 v cfg.pptrBaseOffset ∉ cover s.reserved := by
    intro a m h
    apply h.adds
    rintro c hc hd v hv
    exact absurd (hd.symm.trans (hc v hv).1) nofun
  have device := createDeviceUntypeds_hands cfg s.slotPosCur ht.ascending (fun r _ => r.start.zero_le) hw
  have hstart : (paddrToPptrReg cfg cfg.kernelImgBoot).start < 2 ^ 64 := Nat.mod_lt _ (by norm_num)
  have image := createUntypedsForRegion_hands cfg false s.slotPosCur hstart
  have free := createFreeUntypeds_hands cfg s.slotPosCur [] hf hfw
  refine Adds.bind (device.adds ?_) (fun _ => Adds.bind (normal image) fun _ => normal free) s
  rintro c hc - v hv
  obtain ⟨-, hv, -, hnot⟩ := hc v hv
  exact ⟨hv, hnot⟩

end Boot

end NexsKernel
