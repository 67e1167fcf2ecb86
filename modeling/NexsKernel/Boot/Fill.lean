import NexsKernel.Boot.Pieces

/-!
# The tables that the walk fills

What a run of steps does to `ndks_boot`: the free memory is the list of the regions inserted so far, followed by
empty entries, and the table of reserved regions covers nothing but what it covered before and the regions of the
steps (`Filling`). It covers all of them as long as no region has been dropped (`Full`).
-/

namespace NexsKernel

lemma BootConfig.offset_lt (cfg : BootConfig) : cfg.pptrBaseOffset < 2 ^ 64 :=
  cfg.offset_le.trans_lt cfg.pptrTop_lt

namespace Boot

/-- The physical address behind an address of the kernel window. -/
def physical (cfg : BootConfig) (s : Set Nat) : Set Nat :=
  {x | x < 2 ^ 64 ∧ add64 x cfg.pptrBaseOffset ∈ s}

lemma sub64_add64_offset (cfg : BootConfig) {x : Nat} (hx : x < 2 ^ 64) :
    sub64 (add64 x cfg.pptrBaseOffset) cfg.pptrBaseOffset = x := by
  have := cfg.offset_lt
  unfold add64 sub64
  omega

lemma mem_physical {cfg : BootConfig} {s : Set Nat} {v : Nat} (hv : v < 2 ^ 64) :
    sub64 v cfg.pptrBaseOffset ∈ physical cfg s ↔ v ∈ s := by
  have h := cfg.offset_lt
  have e : add64 (sub64 v cfg.pptrBaseOffset) cfg.pptrBaseOffset = v := by
    unfold add64 sub64
    omega
  have hlt : sub64 v cfg.pptrBaseOffset < 2 ^ 64 := Nat.mod_lt _ (by norm_num)
  change _ ∧ _ ↔ _
  rw [e]
  exact and_iff_right hlt

/-- A region that is not cut in two has the physical addresses of its own addresses. -/
lemma mem_pptrToPaddrReg {cfg reg} (hreg : reg.start < reg.stop) (hw : reg.stop < 2 ^ 64)
    (h : (pptrToPaddrReg cfg reg).start ≤ (pptrToPaddrReg cfg reg).stop) {x : Nat} :
    x ∈ pptrToPaddrReg cfg reg ↔ x < 2 ^ 64 ∧ add64 x cfg.pptrBaseOffset ∈ reg := by
  have hoff := cfg.offset_lt
  simp only [pptrToPaddrReg, Region.mem_iff, add64, sub64] at *
  omega

lemma pptrToPaddrReg_ne {cfg reg} (hreg : reg.start < reg.stop) (hw : reg.stop < 2 ^ 64) :
    (pptrToPaddrReg cfg reg).start ≠ (pptrToPaddrReg cfg reg).stop := by
  have hoff := cfg.offset_lt
  simp only [pptrToPaddrReg, sub64]
  omega

lemma pptrToPaddrReg_stop_lt (cfg : BootConfig) (reg : Region) : (pptrToPaddrReg cfg reg).stop < 2 ^ 64 :=
  Nat.mod_lt _ (by norm_num)

/-- The first empty entry is the first one after those in use. -/
lemma fillEmpty_eq {reg : Region} {f : List Region} (hf : ∀ r ∈ f, r.start < r.stop) (k : Nat) :
    fillEmpty reg (f ++ List.replicate (k + 1) regEmpty) = some (f ++ reg :: List.replicate k regEmpty) := by
  induction f with
  | nil => rfl
  | cons r f ih =>
    have hne : isRegEmpty r = false := beq_false_of_ne (hf r (.head _)).ne
    rw [List.cons_append, fillEmpty, hne, ih fun s hs => hf s (.tail _ hs)]
    rfl

lemma fillEmpty_none {reg : Region} {f : List Region} (hf : ∀ r ∈ f, r.start < r.stop) : fillEmpty reg f = none := by
  induction f with
  | nil => rfl
  | cons r f ih =>
    have hne : isRegEmpty r = false := beq_false_of_ne (hf r (.head _)).ne
    rw [fillEmpty, hne, ih fun s hs => hf s (.tail _ hs)]
    rfl

lemma reserveRegion_freemem {cfg reg s b s'} (h : reserveRegion cfg reg s = .ok (b, s')) : s'.freemem = s.freemem := by
  unfold reserveRegion at h
  obtain ⟨u, -, h⟩ := bind_eq_ok.mp h
  split at h
  · obtain ⟨-, rfl⟩ := Prod.ext_iff.mp (Except.ok.inj h)
    rfl
  · split at h <;> obtain ⟨-, rfl⟩ := Prod.ext_iff.mp (Except.ok.inj h) <;> rfl

/-- There is an empty entry. -/
def HasEmpty (f : List Region) : Prop :=
  ∃ r ∈ f, isRegEmpty r = true

lemma not_hasEmpty {f : List Region} (hf : ∀ r ∈ f, r.start < r.stop) : ¬ HasEmpty f := by
  rintro ⟨r, hr, hempty⟩
  exact (hf r hr).ne (eq_of_beq hempty)

/-- An entry is only taken if it is empty. -/
lemma hasEmpty_of_fillEmpty {reg : Region} {f f' : List Region} (h : fillEmpty reg f = some f') : HasEmpty f := by
  induction f generalizing f' with
  | nil => cases h
  | cons r f ih =>
    rw [fillEmpty] at h
    split at h
    · exact ⟨r, .head _, ‹_›⟩
    · obtain ⟨f'', h'', -⟩ := Option.map_eq_some_iff.mp h
      obtain ⟨s, hs, hempty⟩ := ih h''
      exact ⟨s, .tail _ hs, hempty⟩

/-- An entry that is empty after the steps was empty before. -/
lemma performAll_hasEmpty {cfg ps s s'} (h : performAll cfg ps s = .ok s') (hempty : HasEmpty s'.freemem) :
    HasEmpty s.freemem := by
  induction ps generalizing s with
  | nil => rwa [Except.ok.inj h]
  | cons p ps ih =>
    obtain ⟨s1, h1, h⟩ := bind_eq_ok.mp (performAll_cons ▸ h)
    have hempty1 := ih h
    cases p with
    | reserve reg =>
      obtain ⟨⟨b, s2⟩, h2, e⟩ := bind_eq_ok.mp h1
      obtain rfl := Except.ok.inj e
      rwa [← reserveRegion_freemem h2]
    | insert reg =>
      obtain ⟨⟨b, s2⟩, h2, e⟩ := bind_eq_ok.mp h1
      obtain rfl := Except.ok.inj e
      unfold insertRegion at h2
      obtain ⟨u, -, h2⟩ := bind_eq_ok.mp h2
      split at h2
      · obtain ⟨-, rfl⟩ := Prod.ext_iff.mp (Except.ok.inj h2)
        exact hempty1
      · split at h2
        · exact hasEmpty_of_fillEmpty ‹_›
        · obtain ⟨u, -, h2⟩ := bind_eq_ok.mp h2
          obtain ⟨-, rfl⟩ := Prod.ext_iff.mp (Except.ok.inj h2)
          exact hempty1

/-- Where an entry is empty in the end, a region was put into the first empty one. -/
lemma insertRegion_ok {cfg reg s s' f k b} (hf : s.freemem = f ++ List.replicate k regEmpty)
    (hproper : ∀ r ∈ f, r.start < r.stop) (hp : reg.start < reg.stop) (h : insertRegion cfg reg s = .ok (b, s'))
    (hempty : HasEmpty s'.freemem) :
    ∃ k' b' s1, k = k' + 1 ∧ reserveRegion cfg (pptrToPaddrReg cfg reg) s = .ok (b', s1) ∧
      s' = { s1 with freemem := f ++ [reg] ++ List.replicate k' regEmpty } := by
  unfold insertRegion at h
  obtain ⟨u, -, h⟩ := bind_eq_ok.mp h
  have hne : isRegEmpty reg = false := beq_false_of_ne hp.ne
  rw [hne, if_neg Bool.false_ne_true, hf] at h
  cases k with
  | zero =>
    -- the array is full and stays so
    rw [List.replicate_zero, List.append_nil] at hf h
    rw [fillEmpty_none hproper] at h
    obtain ⟨u, -, h⟩ := bind_eq_ok.mp h
    obtain ⟨-, rfl⟩ := Prod.ext_iff.mp (Except.ok.inj h)
    exact absurd hempty (hf ▸ not_hasEmpty hproper)
  | succ k =>
    rw [fillEmpty_eq hproper] at h
    obtain ⟨⟨b2, s2⟩, h2, e⟩ := bind_eq_ok.mp h
    obtain ⟨-, rfl⟩ := Prod.ext_iff.mp (Except.ok.inj e)
    exact ⟨k, b2, s2, rfl, h2, by simp⟩

/-- What a step does to the two tables. -/
lemma perform_cases {cfg p s s' f k} (ht : Table s.reserved) (hlen : s.reserved.length < cfg.maxNumResvReg)
    (hf : s.freemem = f ++ List.replicate k regEmpty) (hproper : ∀ r ∈ f, r.start < r.stop)
    (hp : p.reg.start < p.reg.stop) (hw : p.reg.stop < 2 ^ 64)
    (hle : (pptrToPaddrReg cfg p.reg).start ≤ (pptrToPaddrReg cfg p.reg).stop)
    (hd : ∀ r ∈ s.reserved, r.Disjoint (pptrToPaddrReg cfg p.reg)) (h : perform cfg p s = .ok s')
    (hempty : HasEmpty s'.freemem) :
    ∃ t' k', Reserved cfg (pptrToPaddrReg cfg p.reg) s.reserved t' ∧ k' + p.inserted.toList.length = k ∧
      s' = { s with reserved := t', freemem := f ++ p.inserted.toList ++ List.replicate k' regEmpty } := by
  have hlt := lt_of_le_of_ne hle (pptrToPaddrReg_ne hp hw)
  cases p with
  | reserve reg =>
    obtain ⟨⟨b, s1⟩, h1, e⟩ := bind_eq_ok.mp h
    obtain rfl := Except.ok.inj e
    obtain ⟨t', rfl, hr⟩ := reserveRegion_cases ht hlen hlt hd h1
    refine ⟨t', k, hr, rfl, ?_⟩
    rw [Piece.inserted, Option.toList_none, List.append_nil, ← hf]
  | insert reg =>
    obtain ⟨⟨b, s1⟩, h1, e⟩ := bind_eq_ok.mp h
    obtain rfl := Except.ok.inj e
    obtain ⟨k, b2, s2, rfl, h2, rfl⟩ := insertRegion_ok hf hproper hp h1 hempty
    obtain ⟨t', rfl, hr⟩ := reserveRegion_cases ht hlen hlt hd h2
    exact ⟨t', k, hr, rfl, rfl⟩

/-- A call of `reserve_region` leaves nothing out that was reserved. -/
lemma Reserved.mono {cfg reg t t'} (h : Reserved cfg reg t t') {x : Nat} (hx : x ∈ cover t) : x ∈ cover t' := by
  cases h with
  | joined _ _ _ hcover | placed _ _ _ _ hcover => exact (hcover x).mpr (.inl hx)
  | dropped _ _ e => rwa [e]

/-- What is reserved after a call was reserved before or is in the region. -/
lemma Reserved.within {cfg reg t t'} (h : Reserved cfg reg t t') {x : Nat} (hx : x ∈ cover t') :
    x ∈ cover t ∨ x ∈ reg := by
  cases h with
  | joined _ _ _ hcover | placed _ _ _ _ hcover => exact (hcover x).mp hx
  | dropped _ _ e => exact .inl (e ▸ hx)

lemma Reserved.table {cfg reg t t'} (h : Reserved cfg reg t t') (ht : Table t) : Table t' := by
  cases h with
  | joined _ table => exact table
  | placed _ _ table => exact table
  | dropped _ _ e => rwa [e]

lemma Reserved.length_lt {cfg reg t t'} (h : Reserved cfg reg t t') (ht : t.length < cfg.maxNumResvReg) :
    t'.length < cfg.maxNumResvReg := by
  cases h with
  | joined _ _ hle => exact hle.trans_lt ht
  | placed _ room _ e => rwa [e]
  | dropped _ _ e => rwa [e]

/-- The addresses of the regions of a list of steps. -/
def held (ps : List Piece) : Set Nat :=
  cover (ps.map Piece.reg)

@[simp] lemma mem_held_nil {x : Nat} : x ∈ held [] ↔ False := mem_cover_nil

@[simp] lemma mem_held_cons {p ps} {x : Nat} : x ∈ held (p :: ps) ↔ x ∈ p.reg ∨ x ∈ held ps := mem_cover_cons

@[simp] lemma mem_held_append {ps qs} {x : Nat} : x ∈ held (ps ++ qs) ↔ x ∈ held ps ∨ x ∈ held qs := by
  rw [held, List.map_append]
  exact mem_cover_append

/-- Steps that can be taken with the regions `t₀` reserved. -/
structure Laid (cfg : BootConfig) (t₀ : List Region) (ps : List Piece) : Prop where
  ascending : Ascending (ps.map Piece.reg)
  bounded : ∀ p ∈ ps, p.reg.stop < 2 ^ 64
  unwrapped : ∀ p ∈ ps, (pptrToPaddrReg cfg p.reg).start ≤ (pptrToPaddrReg cfg p.reg).stop
  clear : ∀ x ∈ physical cfg (held ps), x ∉ cover t₀

namespace Laid

variable {cfg : BootConfig} {t0 : List Region} {p : Piece} {done ps : List Piece}

lemma proper (l : Laid cfg t0 ps) (hp : p ∈ ps) : p.reg.start < p.reg.stop :=
  l.ascending.proper _ (List.mem_map_of_mem hp)

/-- The steps before a step are below it. -/
lemma below (l : Laid cfg t0 (done ++ ps)) (hp : p ∈ ps) {x : Nat} (hx : x ∈ held done) : x < p.reg.start := by
  obtain ⟨r, hr, -, hx⟩ := hx
  have h := l.ascending.sorted
  rw [List.map_append, List.pairwise_append] at h
  exact hx.trans_le (h.2.2 r hr _ (List.mem_map_of_mem hp))

/-- The steps after a step are above it. -/
lemma above (l : Laid cfg t0 (done ++ p :: ps)) {q} (hq : q ∈ ps) : p.reg.stop ≤ q.reg.start := by
  have h := l.ascending.sorted
  rw [List.map_append, List.pairwise_append] at h
  exact List.rel_of_pairwise_cons h.2.1 (List.mem_map_of_mem hq)

end Laid

/-- The state after some steps. -/
structure Filling (cfg : BootConfig) (t₀ : List Region) (done : List Piece) (s : NdksBoot) : Prop where
  table : Table s.reserved
  length_lt : s.reserved.length < cfg.maxNumResvReg
  initial : ∀ x ∈ cover t₀, x ∈ cover s.reserved
  within : ∀ x ∈ cover s.reserved, x ∈ cover t₀ ∨ x ∈ physical cfg (held done)
  top : uint64Max ∉ cover s.reserved
  freemem : ∃ k, s.freemem = done.filterMap Piece.inserted ++ List.replicate k regEmpty

/-- No region has been dropped. -/
structure Full (cfg : BootConfig) (t₀ : List Region) (done : List Piece) (s : NdksBoot) : Prop
    extends Filling cfg t₀ done s where
  covers : ∀ x ∈ physical cfg (held done), x ∈ cover s.reserved

namespace Filling

variable {cfg : BootConfig} {t0 : List Region} {p : Piece} {done ps : List Piece} {s s' : NdksBoot}

/-- The region of the next step is clear of everything that is reserved. -/
lemma disjoint (f : Filling cfg t0 done s) (l : Laid cfg t0 (done ++ p :: ps)) :
    ∀ r ∈ s.reserved, r.Disjoint (pptrToPaddrReg cfg p.reg) := by
  intro r hr x hxr hx
  have hp : p ∈ done ++ p :: ps := List.mem_append_right _ (.head _)
  have hle := hx.1.trans hx.2.le
  obtain ⟨hlt, hmem⟩ := (mem_pptrToPaddrReg (l.proper hp) (l.bounded p hp) hle).mp hx
  rcases f.within x ⟨r, hr, hxr⟩ with h | ⟨-, h⟩
  · exact l.clear x ⟨hlt, by simp [hmem]⟩ h
  · exact (l.below (.head _) h).not_ge hmem.1

/-- One piece is reserved or inserted. -/
lemma step (f : Filling cfg t0 done s) (l : Laid cfg t0 (done ++ p :: ps)) (h : perform cfg p s = .ok s')
    (hempty : HasEmpty s'.freemem) :
    Filling cfg t0 (done ++ [p]) s' ∧ Reserved cfg (pptrToPaddrReg cfg p.reg) s.reserved s'.reserved := by
  have hp : p ∈ done ++ p :: ps := List.mem_append_right _ (.head _)
  have hproper : ∀ r ∈ done.filterMap Piece.inserted, r.start < r.stop := by
    intro r hr
    obtain ⟨q, hq, e⟩ := List.mem_filterMap.mp hr
    cases q with
    | reserve => cases e
    | insert reg =>
      obtain rfl := Option.some.inj e
      have hq : Piece.insert reg ∈ done ++ p :: ps := List.mem_append_left _ hq
      exact l.proper hq
  obtain ⟨k, hk⟩ := f.freemem
  have hle := l.unwrapped p hp
  obtain ⟨t', k', hr, -, rfl⟩ := perform_cases f.table f.length_lt hk hproper (l.proper hp) (l.bounded p hp) hle
    (f.disjoint l) h hempty
  have hreg : ∀ x, x ∈ pptrToPaddrReg cfg p.reg ↔ x < 2 ^ 64 ∧ add64 x cfg.pptrBaseOffset ∈ p.reg := fun x =>
    mem_pptrToPaddrReg (l.proper hp) (l.bounded p hp) hle
  refine ⟨⟨hr.table f.table, hr.length_lt f.length_lt, fun x hx => hr.mono (f.initial x hx), fun x hx => ?_,
    fun hx => ?_, k', ?_⟩, hr⟩
  · rcases hr.within hx with hx | hx
    · exact (f.within x hx).imp_right fun ⟨hlt, hmem⟩ => ⟨hlt, mem_held_append.mpr (.inl hmem)⟩
    · obtain ⟨hlt, hmem⟩ := (hreg x).mp hx
      exact .inr ⟨hlt, mem_held_append.mpr (.inr (mem_held_cons.mpr (.inl hmem)))⟩
  · rcases hr.within hx with hx | ⟨-, hlt⟩
    · exact f.top hx
    · -- an end of a region is a word
      have := pptrToPaddrReg_stop_lt cfg p.reg
      unfold uint64Max at hlt
      omega
  · rw [List.filterMap_append]
    cases p <;> rfl

end Filling

namespace Full

variable {cfg : BootConfig} {t0 : List Region} {p : Piece} {done ps : List Piece} {s s' : NdksBoot}

/-- What is reserved has a block of addresses for each of its regions. -/
lemma ncard_blocks (f : Full cfg t0 done s) :
    (blockStarts (cover t0 ∪ physical cfg (held done))).ncard = s.reserved.length := by
  have hcover : cover t0 ∪ physical cfg (held done) = cover s.reserved :=
    Set.ext fun x => ⟨fun hx => hx.elim (f.initial x) (f.covers x), f.within x⟩
  rw [hcover, f.table.ncard_blockStarts]

lemma ncard_lt (f : Full cfg t0 done s) :
    (blockStarts (cover t0 ∪ physical cfg (held done))).ncard < cfg.maxNumResvReg :=
  f.ncard_blocks ▸ f.length_lt

/-- A step that is not dropped. -/
lemma next (f : Full cfg t0 done s) (l : Laid cfg t0 (done ++ p :: ps)) (f' : Filling cfg t0 (done ++ [p]) s')
    (hcover : ∀ x, x ∈ cover s'.reserved ↔ x ∈ cover s.reserved ∨ x ∈ pptrToPaddrReg cfg p.reg) :
    Full cfg t0 (done ++ [p]) s' := by
  refine ⟨f', ?_⟩
  rintro x ⟨hlt, hx⟩
  have hp : p ∈ done ++ p :: ps := List.mem_append_right _ (.head _)
  rcases mem_held_append.mp hx with hx | hx
  · exact (hcover x).mpr (.inl (f.covers x ⟨hlt, hx⟩))
  · have hx : add64 x cfg.pptrBaseOffset ∈ p.reg := by simpa using hx
    exact (hcover x).mpr (.inr ((mem_pptrToPaddrReg (l.proper hp) (l.bounded p hp)
      (l.unwrapped p hp)).mpr ⟨hlt, hx⟩))

/-- A step is dropped if there is no entry left for another block. -/
lemma step (f : Full cfg t0 done s) (l : Laid cfg t0 (done ++ p :: ps)) (h : perform cfg p s = .ok s')
    (hempty : HasEmpty s'.freemem) :
    (Full cfg t0 (done ++ [p]) s' ∧
      (blockStarts (cover t0 ∪ physical cfg (held (done ++ [p])))).ncard < cfg.maxNumResvReg) ∨
    (s'.reserved = s.reserved ∧
      cfg.maxNumResvReg ≤ (blockStarts (cover t0 ∪ physical cfg (held (done ++ [p])))).ncard) := by
  obtain ⟨f', hr⟩ := f.toFilling.step l h hempty
  have hp : p ∈ done ++ p :: ps := List.mem_append_right _ (.head _)
  cases hr with
  | joined _ _ _ hcover | placed _ _ _ _ hcover => exact .inl ⟨f.next l f' hcover, (f.next l f' hcover).ncard_lt⟩
  | dropped hfar hfull e =>
    -- the region would be a block of its own
    refine .inr ⟨e, ?_⟩
    have hlt := lt_of_le_of_ne (l.unwrapped p hp) (pptrToPaddrReg_ne (l.proper hp) (l.bounded p hp))
    have hmem : ∀ x, x ∈ cover t0 ∪ physical cfg (held (done ++ [p])) ↔
        x ∈ cover s.reserved ∨ x ∈ pptrToPaddrReg cfg p.reg := by
      intro x
      rw [mem_pptrToPaddrReg (l.proper hp) (l.bounded p hp) (l.unwrapped p hp)]
      constructor
      · rintro (hx | ⟨hx, hmem⟩)
        · exact .inl (f.initial x hx)
        · exact (mem_held_append.mp hmem).imp (fun hmem => f.covers x ⟨hx, hmem⟩) fun hmem => ⟨hx, by simpa using hmem⟩
      · rintro (hx | ⟨hx, hmem⟩)
        · exact (f.within x hx).imp_right fun h => ⟨h.1, mem_held_append.mpr (.inl h.2)⟩
        · exact .inr ⟨hx, mem_held_append.mpr (.inr (by simpa using hmem))⟩
    rw [ncard_blockStarts_fresh (blockStarts_cover_finite _) hmem hlt
      (fun x ⟨r, hr, hx⟩ => f.disjoint l r hr x hx) (fun y ⟨r, hr, h1, h2⟩ e => ?_) (fun ⟨r, hr, h1, h2⟩ => ?_),
      f.table.ncard_blockStarts]
    · exact hfull
    · -- the region would touch the one below it
      rcases (f.disjoint l r hr).apart (f.table.proper r hr) hlt with hle | hle
      · exact hfar r hr (.inl (by omega))
      · omega
    · rcases (f.disjoint l r hr).apart (f.table.proper r hr) hlt with hle | hle
      · omega
      · exact hfar r hr (.inr (by omega))

/-- With room for all of them, a run of steps drops nothing. -/
lemma run (f : Full cfg t0 done s) (l : Laid cfg t0 (done ++ ps)) (h : performAll cfg ps s = .ok s')
    (hempty : HasEmpty s'.freemem)
    (room : ∀ qs, qs <+: ps → (blockStarts (cover t0 ∪ physical cfg (held (done ++ qs)))).ncard < cfg.maxNumResvReg) :
    Full cfg t0 (done ++ ps) s' := by
  induction ps generalizing done s with
  | nil =>
    obtain rfl := Except.ok.inj h
    rwa [List.append_nil]
  | cons p ps ih =>
    obtain ⟨s1, h1, h⟩ := bind_eq_ok.mp (performAll_cons ▸ h)
    have e : ∀ qs, done ++ p :: qs = (done ++ [p]) ++ qs := by simp
    rcases f.step l h1 (performAll_hasEmpty h hempty) with ⟨f1, -⟩ | ⟨-, hfull⟩
    · rw [e] at l ⊢
      exact ih f1 l h fun qs hqs => e qs ▸ room (p :: qs) (List.prefix_cons_inj p |>.mpr hqs)
    · exact absurd (room [p] ⟨ps, rfl⟩) (Nat.not_lt.mpr hfull)

end Full

end Boot

end NexsKernel
