import NexsKernel.Boot.Untypeds

/-!
# How memory is divided at boot

A run of `init_freemem` that returns true, and the untypeds that `create_untypeds` makes of what it leaves behind.
`Call` is what the callers of `init_freemem` pass and have done before; the table of reserved regions is then not
empty, since it has the device frames of the kernel.
-/

namespace NexsKernel

namespace Boot

/-- A call of `init_freemem`. -/
structure Call (cfg : BootConfig) (available reserved : List Region) (s : NdksBoot) : Prop where
  available_words : ∀ r ∈ available, r.stop < 2 ^ 64
  reserved_words : ∀ r ∈ reserved, r.stop < 2 ^ 64
  table : Table s.reserved
  table_words : ∀ r ∈ s.reserved, r.stop < 2 ^ 64
  table_length : s.reserved.length < cfg.maxNumResvReg
  clear : ∀ x ∈ cover s.reserved, x ∉ usable cfg available ∧ x ∉ physical cfg (cover reserved)

/-- The kernel boot image lies in a reserved region. -/
def ImageReserved (cfg : BootConfig) (reserved : List Region) : Prop :=
  (paddrToPptrReg cfg cfg.kernelImgBoot).start ≤ (paddrToPptrReg cfg cfg.kernelImgBoot).stop ∧
    ∃ r ∈ reserved, r.start ≤ (paddrToPptrReg cfg cfg.kernelImgBoot).start ∧
      (paddrToPptrReg cfg cfg.kernelImgBoot).stop ≤ r.stop

/-- No reserved region has addresses below `PPTR_BASE_OFFSET` and above, so that its end would wrap around as a physical
address. -/
def Unwrapped (cfg : BootConfig) (reserved : List Region) : Prop :=
  ∀ r ∈ reserved, ¬ (r.start < cfg.pptrBaseOffset ∧ cfg.pptrBaseOffset ≤ r.stop)

instance (cfg : BootConfig) (reserved : List Region) : Decidable (Unwrapped cfg reserved) :=
  inferInstanceAs (Decidable (∀ r ∈ reserved, _))

/-- What `init_freemem` has made of the memory. -/
structure Split (cfg : BootConfig) (available reserved before : List Region) (s : NdksBoot) : Prop where
  disjoint : s.freemem.Pairwise Region.Disjoint
  freemem : ∀ v, v ∈ cover s.freemem ↔ v < 2 ^ 64 ∧ sub64 v cfg.pptrBaseOffset ∈ usable cfg available ∧
    v ∉ cover reserved ∧ v ∉ s.rootserverMem
  table : Table s.reserved
  reserved : ∀ x, x ∈ cover s.reserved ↔
    x ∈ cover before ∨ x ∈ usable cfg available ∨ x ∈ physical cfg (cover reserved)

/-- What the untypeds cover. -/
structure HandedOut (cfg : BootConfig) (available reserved : List Region) (rootserverMem : Region)
    (new : List (Bool × Nat × Nat)) : Prop where
  disjoint : new.Pairwise fun b c => (span b).Disjoint (span c)
  device : ∀ c ∈ new, c.1 = true → ∀ v ∈ span c,
    sub64 v cfg.pptrBaseOffset ∉ usable cfg available ∧ v ∉ cover reserved
  normal : ∀ c ∈ new, c.1 = false → ∀ v ∈ span c,
    v ∉ rootserverMem ∧ (v ∈ cover reserved → v ∈ paddrToPptrReg cfg cfg.kernelImgBoot)

variable {cfg : BootConfig} {available reserved : List Region} {s s' : NdksBoot}

lemma inserted_sublist (ps : List Piece) : (ps.filterMap Piece.inserted).Sublist (ps.map Piece.reg) := by
  induction ps with
  | nil => exact List.Sublist.refl _
  | cons p ps ih =>
    cases p with
    | reserve reg => exact ih.cons reg
    | insert reg => exact ih.cons_cons reg

lemma free_of_ascending {t : List Region} (h : Ascending t) (k : Nat) :
    Free (t ++ List.replicate k regEmpty) ∧ ∀ x, x ∈ cover (t ++ List.replicate k regEmpty) ↔ x ∈ cover t := by
  induction k with
  | zero =>
    rw [List.replicate_zero, List.append_nil]
    refine ⟨⟨fun r hr => (h.proper r hr).le, h.sorted.imp fun hle x ha hb => ?_⟩, fun _ => Iff.rfl⟩
    exact (ha.2.trans_le hle).not_ge hb.1
  | succ k ih => exact ⟨(Free.empty_iff rfl).mpr ih.1, fun x => (mem_cover_empty_iff rfl).trans (ih.2 x)⟩

/-- The steps of the walk that a call of `init_freemem` takes. -/
abbrev steps (cfg : BootConfig) (available reserved : List Region) : List Piece :=
  pieces (available.map (availReg cfg)) reserved

namespace Call

/-- The steps of a call, for regions that have passed the checks. -/
lemma cut (c : Call cfg available reserved s) (ha : checkAvailableMemory available = true)
    (hr : checkReservedMemory reserved = true) :
    Cut (available.map (availReg cfg)) reserved (steps cfg available reserved) :=
  pieces_cut (availReg_inOrder cfg (checkAvailableMemory_spec ha).1 c.available_words).1 (checkReservedMemory_spec hr)

lemma bounded (c : Call cfg available reserved s) (ha : checkAvailableMemory available = true)
    (hr : checkReservedMemory reserved = true) {p : Piece} (hp : p ∈ steps cfg available reserved) :
    p.reg.stop < 2 ^ 64 := by
  have h := (availReg_inOrder cfg (checkAvailableMemory_spec ha).1 c.available_words).2
  have hle := (c.cut ha hr).bounded (n := 2 ^ 64 - 1) (fun a ha => (h a ha).trans (Nat.le_pred_of_lt cfg.pptrTop_lt))
    (fun r hr => Nat.le_pred_of_lt (c.reserved_words r hr)) p hp
  exact hle.trans_lt (by norm_num)

lemma offset_le (c : Call cfg available reserved s) (ha : checkAvailableMemory available = true) {a : Region}
    (hmem : a ∈ available.map (availReg cfg)) : cfg.pptrBaseOffset ≤ a.start := by
  obtain ⟨r, hr, rfl⟩ := List.mem_map.mp hmem
  have hwords := c.available_words r hr
  rw [availReg_eq ((checkAvailableMemory_spec ha).1.valid r hr |>.trans_lt hwords) hwords]
  dsimp only
  omega

/-- The steps are above the offset or below it. -/
lemma unwrapped (c : Call cfg available reserved s) (ha : checkAvailableMemory available = true)
    (hr : checkReservedMemory reserved = true) (hu : Unwrapped cfg reserved) {p : Piece}
    (hp : p ∈ steps cfg available reserved) :
    ¬ (p.reg.start < cfg.pptrBaseOffset ∧ cfg.pptrBaseOffset ≤ p.reg.stop) := by
  cases p with
  | reserve reg => exact hu reg ((c.cut ha hr).mem_of_reserve hp)
  | insert reg =>
    obtain ⟨a, hamem, hle, -⟩ := (c.cut ha hr).mem_of_insert hp
    exact fun h => absurd h.1 ((c.offset_le ha hamem).trans hle).not_gt

lemma laid (c : Call cfg available reserved s) (ha : checkAvailableMemory available = true)
    (hr : checkReservedMemory reserved = true) (hu : Unwrapped cfg reserved) :
    Laid cfg s.reserved (steps cfg available reserved) where
  ascending := (c.cut ha hr).ascending
  bounded _ hp := c.bounded ha hr hp
  unwrapped p hp := by
    have hnot := c.unwrapped ha hr hu hp
    have hlt := (c.cut ha hr).ascending.proper _ (List.mem_map_of_mem hp)
    have hword := c.bounded ha hr hp
    have hoff := cfg.offset_lt
    simp only [pptrToPaddrReg, sub64]
    omega
  clear x hx hin := by
    obtain ⟨hlt, hmem⟩ := hx
    have hnot := c.clear x hin
    have hv : add64 x cfg.pptrBaseOffset < 2 ^ 64 := Nat.mod_lt _ (by norm_num)
    rcases (c.cut ha hr).held.mp hmem with hmem | hmem
    · have := (mem_availReg cfg (checkAvailableMemory_spec ha).1 c.available_words hv).mp hmem
      rw [sub64_add64_offset cfg hlt] at this
      exact hnot.1 this
    · exact hnot.2 ⟨hlt, hmem⟩

/-- Every block that the steps have reserved starts where a region that was given, or reserved before, starts. -/
lemma ncard_blocks_le (c : Call cfg available reserved s) (ha : checkAvailableMemory available = true)
    (hr : checkReservedMemory reserved = true) (hu : Unwrapped cfg reserved) {qs : List Piece}
    (hqs : qs <+: steps cfg available reserved) :
    (blockStarts (cover s.reserved ∪ physical cfg (held qs))).ncard ≤
      s.reserved.length + (available.length + reserved.length) := by
  have hcut := c.cut ha hr
  have hoff := cfg.offset_lt
  let starts : List Nat := s.reserved.map Region.start ++
    (available.map (availReg cfg) ++ reserved).map fun r => sub64 r.start cfg.pptrBaseOffset
  have hlength : starts.length = s.reserved.length + (available.length + reserved.length) := by
    simp only [starts, List.length_append, List.length_map]
  have hsub : blockStarts (cover s.reserved ∪ physical cfg (held qs)) ⊆ ↑starts.toFinset := by
    rintro x ⟨hx, hne⟩
    rw [Finset.mem_coe, List.mem_toFinset, List.mem_append]
    rcases hx with ⟨r, hrmem, h1, h2⟩ | ⟨hlt, r, hrmem, h1, h2⟩
    · rcases h1.lt_or_eq with h1 | rfl
      · exact absurd (by omega) (hne (x - 1) (.inl ⟨r, hrmem, by omega, by omega⟩))
      · exact .inl (List.mem_map_of_mem hrmem)
    · refine .inr ?_
      obtain ⟨p, hp, rfl⟩ := List.mem_map.mp hrmem
      have hp' : p ∈ steps cfg available reserved := hqs.subset hp
      have hnot := c.unwrapped ha hr hu hp'
      have hword := c.bounded ha hr hp'
      -- no address of the steps comes directly before
      have hbefore : ∀ v ∈ held qs, v + 1 ≠ add64 x cfg.pptrBaseOffset ∨ x = 0 := by
        intro v hv
        refine or_iff_not_imp_right.mpr fun hzero e => hne (x - 1) (.inr ⟨by omega, ?_⟩) (by omega)
        have e' : add64 (x - 1) cfg.pptrBaseOffset = v := by
          unfold add64 at *
          omega
        rwa [e']
      have hstart : p.reg.start = add64 x cfg.pptrBaseOffset := by
        by_contra hne'
        have h := hbefore (add64 x cfg.pptrBaseOffset - 1) ⟨p.reg, hrmem, by omega, by omega⟩
        unfold add64 at *
        omega
      have hsame : x = sub64 p.reg.start cfg.pptrBaseOffset := by
        rw [hstart]
        unfold add64 sub64
        omega
      rw [hsame, List.map_append, List.mem_append]
      cases p with
      | reserve reg => exact .inr (List.mem_map_of_mem (hcut.mem_of_reserve hp'))
      | insert reg =>
        obtain ⟨a, hamem, hle, hlt'⟩ := hcut.mem_of_insert hp'
        have hoffset := c.offset_le ha hamem
        rcases hle.lt_or_eq with hlow | heq
        · -- the address before is available too, and has been passed
          have hmem' : reg.start - 1 ∈ held (steps cfg available reserved) :=
            hcut.held.mpr (.inl ⟨a, hamem, by omega, by omega⟩)
          obtain ⟨rest, hrest⟩ := hqs
          have hsorted := hcut.ascending.sorted
          rw [← hrest, List.map_append, List.pairwise_append] at hsorted
          rw [← hrest] at hmem'
          rcases mem_held_append.mp hmem' with hmem' | ⟨r, hrr, hr', -⟩
          · have h := hbefore _ hmem'
            dsimp only [Piece.reg] at *
            unfold sub64 at hsame
            omega
          · have hle' := hsorted.2.2 _ (List.mem_map_of_mem hp) r hrr
            dsimp only [Piece.reg] at *
            omega
        · exact .inl (List.mem_map.mpr ⟨a, hamem, by rw [heq]; rfl⟩)
  calc _ ≤ (↑starts.toFinset : Set Nat).ncard := Set.ncard_le_ncard hsub (Finset.finite_toSet _)
    _ ≤ starts.length := by
      rw [Set.ncard_coe_finset]
      exact List.toFinset_card_le _
    _ = _ := hlength

/-- The state in which the walk starts. -/
lemma start (c : Call cfg available reserved s) :
    Full cfg s.reserved [] { s with freemem := List.replicate cfg.maxNumFreememReg regEmpty } where
  table := c.table
  length_lt := c.table_length
  initial _ hx := hx
  within _ hx := .inl hx
  top := by
    rintro ⟨r, hr, -, hlt⟩
    have := c.table_words r hr
    unfold uint64Max at hlt
    omega
  freemem := ⟨_, rfl⟩
  covers _ hx := absurd hx.2 mem_held_nil.mp

end Call

/-- The free memory once the walk is over, and once the root server has its part of it. -/
lemma free_of_walk {s0 s1 size maxBits} (hsize : size < 2 ^ 64) (c : Call cfg available reserved s0)
    (ha : checkAvailableMemory available = true) (hr : checkReservedMemory reserved = true)
    (hu : Unwrapped cfg reserved) (f : Filling cfg s0.reserved (steps cfg available reserved) s1)
    (h : placeRootserver cfg size maxBits s1 = .ok (true, s')) :
    s'.reserved = s1.reserved ∧ Free s'.freemem ∧ (∀ r ∈ s'.freemem, r.stop < 2 ^ 64) ∧
      (∀ v ∈ s'.rootserverMem, v ∈ cover (available.map (availReg cfg)) ∧ v ∉ cover reserved) ∧
      ∀ v, v ∈ cover s'.freemem ↔
        (v ∈ cover (available.map (availReg cfg)) ∧ v ∉ cover reserved) ∧ v ∉ s'.rootserverMem := by
  have cut := c.cut ha hr
  have laid := c.laid ha hr hu
  obtain ⟨k, hk⟩ := f.freemem
  have asc : Ascending ((steps cfg available reserved).filterMap Piece.inserted) :=
    ⟨fun r hr => laid.ascending.proper r ((inserted_sublist _).subset hr),
      laid.ascending.sorted.sublist (inserted_sublist _)⟩
  obtain ⟨free, hcover⟩ := free_of_ascending asc k
  rw [← hk] at free hcover
  have bounded : ∀ r ∈ s1.freemem, r.stop ≤ 2 ^ 64 - 1 := by
    intro r hr
    rw [hk] at hr
    rcases List.mem_append.mp hr with hr | hr
    · obtain ⟨p, hp, rfl⟩ := List.mem_map.mp ((inserted_sublist _).subset hr)
      exact Nat.le_pred_of_lt (laid.bounded p hp)
    · rw [(List.mem_replicate.mp hr).2]
      exact Nat.zero_le _
  obtain ⟨e, carved⟩ := placeRootserver_spec hsize hk asc.proper free
    (fun r hr => (bounded r hr).trans_lt (by norm_num)) h
  refine ⟨by rw [e], carved.free, fun r hr => (carved.bounded _ bounded r hr).trans_lt (by norm_num), fun v hv => ?_,
    fun v => ?_⟩
  · exact (cut.inserted v).mp ((hcover v).mp (carved.inside v hv))
  · rw [carved.rest, hcover, cut.inserted]

/-- The addresses that are reserved in the end. -/
lemma mem_reserved_of_full {s0 s1} (c : Call cfg available reserved s0) (ha : checkAvailableMemory available = true)
    (hr : checkReservedMemory reserved = true) (f : Full cfg s0.reserved (steps cfg available reserved) s1) (x : Nat) :
    x ∈ cover s1.reserved ↔
      x ∈ cover s0.reserved ∨ x ∈ usable cfg available ∨ x ∈ physical cfg (cover reserved) := by
  have hx : x ∈ usable cfg available → x < 2 ^ 64 := fun h => h.2.trans (by
    have := BootConfig.paddrTop_eq cfg
    have := cfg.pptrTop_lt
    omega)
  have hv : add64 x cfg.pptrBaseOffset < 2 ^ 64 := Nat.mod_lt _ (by norm_num)
  have hmem := mem_availReg cfg (checkAvailableMemory_spec ha).1 c.available_words hv
  constructor
  · intro hin
    rcases f.within x hin with hin | ⟨hlt, hin⟩
    · exact .inl hin
    · rw [sub64_add64_offset cfg hlt] at hmem
      exact .inr (((c.cut ha hr).held.mp hin).imp hmem.mp fun h => ⟨hlt, h⟩)
  · rintro (hin | hin | ⟨hlt, hin⟩)
    · exact f.initial x hin
    · rw [sub64_add64_offset cfg (hx hin)] at hmem
      exact f.covers x ⟨hx hin, (c.cut ha hr).held.mpr (.inl (hmem.mpr hin))⟩
    · exact f.covers x ⟨hlt, (c.cut ha hr).held.mpr (.inr hin)⟩

/-- Memory is divided into the root server's part, free memory, reserved regions and the rest, and no untyped
crosses these borders. -/
theorem initFreemem_splits {nPaging extraBits : Nat} (c : Call cfg available reserved s)
    (image : ImageReserved cfg reserved) (unwrapped : Unwrapped cfg reserved)
    (room : s.reserved.length + 2 * (available.length + reserved.length) + 2 < cfg.maxNumResvReg)
    (h : initFreemem cfg available reserved nPaging extraBits s = .ok (true, s')) :
    Split cfg available reserved s.reserved s' ∧
      ∀ s1 : NdksBoot, s1.reserved = s'.reserved → s1.freemem = s'.freemem →
        ∃ new, (Failing.finalState (createUntypeds cfg s1)).untypeds = s1.untypeds ++ new ∧
          HandedOut cfg available reserved s'.rootserverMem new := by
  obtain ⟨ha, hr, s1, hwalk, hplace⟩ := initFreemem_ok h
  have laid : Laid cfg s.reserved ([] ++ steps cfg available reserved) := c.laid ha hr unwrapped
  have full : Full cfg s.reserved (steps cfg available reserved) s1 := by
    refine c.start.run laid hwalk (placeRootserver_hasEmpty hplace) fun qs hqs => ?_
    have hle := c.ncard_blocks_le ha hr unwrapped hqs
    rw [List.nil_append]
    omega
  have hsize : calculateRootserverSize cfg nPaging extraBits < 2 ^ 64 := Nat.mod_lt _ (by norm_num)
  obtain ⟨hres, free, hw, hmem, hcover⟩ := free_of_walk hsize c ha hr unwrapped full.toFilling hplace
  have hreserved : ∀ x, x ∈ cover s'.reserved ↔ _ := fun x => hres ▸ mem_reserved_of_full c ha hr full x
  have havail : ∀ v, v ∈ cover (available.map (availReg cfg)) → v < 2 ^ 64 := by
    rintro v ⟨r, hr, hv⟩
    have := (availReg_inOrder cfg (checkAvailableMemory_spec ha).1 c.available_words).2 r hr
    exact hv.2.trans_le (this.trans cfg.pptrTop_lt.le)
  have husable : ∀ v < 2 ^ 64, v ∈ cover (available.map (availReg cfg)) ↔
      sub64 v cfg.pptrBaseOffset ∈ usable cfg available := fun v hv =>
    mem_availReg cfg (checkAvailableMemory_spec ha).1 c.available_words hv
  have table : Table s'.reserved := hres ▸ full.table
  refine ⟨⟨free.disjoint, fun v => ?_, table, hreserved⟩, fun s2 er ef => ?_⟩
  · rw [hcover]
    constructor
    · rintro ⟨⟨h1, h2⟩, h3⟩
      exact ⟨havail v h1, (husable v (havail v h1)).mp h1, h2, h3⟩
    · rintro ⟨hv, h1, h2, h3⟩
      exact ⟨⟨(husable v hv).mpr h1, h2⟩, h3⟩
  -- the boot image is reserved, so that it is not free
  obtain ⟨himg, r, hrm, hstart, hstop⟩ := image
  have hin : ∀ v ∈ paddrToPptrReg cfg cfg.kernelImgBoot, v ∈ cover reserved := fun v hv =>
    ⟨r, hrm, hstart.trans hv.1, hv.2.trans_le hstop⟩
  have hwords : ∀ t ∈ s'.reserved, t.start < 2 ^ 64 := by
    intro t ht
    have hlt := table.proper t ht
    rcases (hreserved t.start).mp ⟨t, ht, le_rfl, hlt⟩ with ⟨u, hu, hmem⟩ | ⟨-, hmem⟩ | ⟨hmem, -⟩
    · exact hmem.2.trans (c.table_words u hu)
    · have := BootConfig.paddrTop_eq cfg
      have := cfg.pptrTop_lt
      omega
    · exact hmem
  have hphys : ∀ v < 2 ^ 64, v ∈ cover reserved → sub64 v cfg.pptrBaseOffset ∈ cover s'.reserved := fun v hv hmem =>
    (hreserved _).mpr (.inr (.inr ((mem_physical hv).mpr hmem)))
  obtain ⟨new, e, parcels⟩ := createUntypeds_hands cfg s2 rfl (by rwa [er]) (by rwa [er]) (by rwa [ef])
    (by rwa [ef]) himg (hstop.trans_lt (c.reserved_words r hrm)) (fun v hv hmem => by
      rw [er]
      rw [ef] at hmem
      rcases hmem with hmem | hmem
      · exact hphys v hv (hin v hmem)
      · exact (hreserved _).mpr (.inr (.inl ((husable v hv).mp ((hcover v).mp hmem).1.1)))) (fun v hv hmem => by
      rw [ef] at hmem
      exact ((hcover v).mp hmem).1.2 (hin v hv))
  refine ⟨new, e, parcels.disjoint, fun u hu hd v hv => ?_, fun u hu hd v hv => ?_⟩
  · have hv := parcels.inside u hu v hv
    rw [hd] at hv
    obtain ⟨hv, hnot⟩ := hv
    rw [er] at hnot
    exact ⟨fun hmem => hnot ((hreserved _).mpr (.inr (.inl hmem))), fun hmem => hnot (hphys v hv hmem)⟩
  · have hv := parcels.inside u hu v hv
    rw [hd] at hv
    rcases hv with hv | hv
    · exact ⟨fun hv' => (hmem v hv').2 (hin v hv), fun _ => hv⟩
    · rw [ef] at hv
      have hv := (hcover v).mp hv
      exact ⟨hv.2, fun hmem => absurd hmem hv.1.2⟩

/-- A virtual platform with RAM from `0x60000000` on, and one device frame reserved. -/
def virtConfig : BootConfig where
  debugBuild := true
  pptrBase := 0x8000000000
  pptrTop := 0xffc0000000
  pptrBaseOffset := 0x8000000000
  paddrUserDeviceTop := 0x10000000000
  maxNumFreememReg := 16
  maxNumResvReg := 24
  maxNumBootinfoUntypedCaps := 230
  rootCNodeSizeBits := 12
  tcbBits := 11
  vspaceBits := 13
  kernelImgBoot := ⟨0x60000000, 0x60012000⟩
  offset_le := by decide
  pptrTop_lt := by decide
  userDeviceTop_lt := by decide
  freemem_pos := by decide
  resv_pos := by decide

def virtMemory : List Region := [⟨0x60000000, 0x80000000⟩]

def virtReserved : List Region := [⟨0x8060000000, 0x8060240000⟩]

def virtStart : NdksBoot where
  reserved := [⟨0x8040000, 0x8050000⟩]
  freemem := []
  rootserverMem := regEmpty
  slotPosCur := 20
  untypeds := []

def virtDivided : NdksBoot where
  reserved := [⟨0x8040000, 0x8050000⟩, ⟨0x60000000, 0x80000000⟩]
  freemem := [⟨0x8060240000, 0x807ffc0000⟩, ⟨0x807ffe8880, 0x8080000000⟩] ++ List.replicate 14 regEmpty
  rootserverMem := ⟨0x807ffc0000, 0x807ffe8880⟩
  slotPosCur := 20
  untypeds := []

lemma call_virt : Call virtConfig virtMemory virtReserved virtStart where
  available_words := by decide
  reserved_words := by decide
  table := ⟨by decide, by decide⟩
  table_words := by decide
  table_length := by decide
  clear := by
    rintro x ⟨r, hr, h1, h2⟩
    obtain rfl := List.mem_singleton.mp hr
    dsimp only at h1 h2
    constructor
    · rintro ⟨⟨a, ha, h3, -⟩, -⟩
      obtain rfl := List.mem_singleton.mp ha
      dsimp only at h3
      omega
    · rintro ⟨-, a, ha, h3, h4⟩
      obtain rfl := List.mem_singleton.mp ha
      simp only [add64, virtConfig] at h3 h4
      omega

/-- The memory of a small machine. -/
theorem initFreemem_splits_virt :
    Split virtConfig virtMemory virtReserved virtStart.reserved virtDivided :=
  have image : ImageReserved virtConfig virtReserved := by
    refine ⟨by decide, _, List.mem_singleton_self _, by decide, by decide⟩
  have returned : initFreemem virtConfig virtMemory virtReserved 3 0 virtStart = .ok (true, virtDivided) := by
    decide +kernel
  (initFreemem_splits call_virt image (by decide) (by decide) returned).1

def releaseConfig : BootConfig :=
  { virtConfig with debugBuild := false }

/-- Two pages of which one lies below `PPTR_BASE_OFFSET`, and the kernel image. -/
def straddlingReserved : List Region := ⟨0x7ffffff000, 0x8000001000⟩ :: virtReserved

def unsorted : NdksBoot :=
  { virtDivided with
    reserved := [⟨0x60000000, 0x80000000⟩, ⟨0xfffffffffffff000, 0x1000⟩, ⟨0x8040000, 0x8050000⟩] }

/-- What is left if nothing is reserved. -/
def wholeFree : NdksBoot :=
  { virtDivided with
    freemem := [⟨0x8060000000, 0x807ffc0000⟩, ⟨0x807ffe8880, 0x8080000000⟩] ++ List.replicate 14 regEmpty }

/-- A release build takes a region whose end wraps around; and what lies in the boot image is handed out twice if it is
not reserved. -/
theorem initFreemem_unsplit :
    (initFreemem releaseConfig virtMemory straddlingReserved 3 0 virtStart = .ok (true, unsorted) ∧
      ¬ Split releaseConfig virtMemory straddlingReserved virtStart.reserved unsorted) ∧
    initFreemem virtConfig virtMemory [] 3 0 virtStart = .ok (true, wholeFree) ∧
      ¬ (Failing.finalState (createUntypeds virtConfig wholeFree)).untypeds.Pairwise fun b c =>
        (span b).Disjoint (span c) := by
  refine ⟨⟨by decide +kernel, fun h => ?_⟩, by decide +kernel, fun h => ?_⟩
  · exact absurd (h.table.proper ⟨0xfffffffffffff000, 0x1000⟩ (by decide)) (by decide)
  · have hsub : [(false, 16, 0x8060000000), (false, 28, 0x8060000000)].Sublist
        (Failing.finalState (createUntypeds virtConfig wholeFree)).untypeds := by decide +kernel
    exact List.rel_of_pairwise_cons (h.sublist hsub) (.head _) 0x8060000000 (by decide) (by decide)

end Boot

end NexsKernel
