import NexsKernel.Boot.Split

/-!
# When the table of reserved regions is full

`init_freemem` does not look at what `reserve_region` returns, and a region for which there is no room is dropped. Every
region of the table is a block of consecutive addresses. So nothing is dropped just if the blocks of what has been
reserved fit into the table at every step of the walk (`initFreemem_keeps`). They fit whenever the table has an entry
more than there are regions, and it has by the sizes that `bootinfo.h` computes.
-/

namespace NexsKernel

namespace Boot

variable {cfg : BootConfig} {t0 : List Region} {p : Piece} {done ps : List Piece} {s s' : NdksBoot} {n : Nat}

lemma mergeFrom_stop {reg t} (h : ∀ r ∈ reg :: t, r.stop < n) : ∀ r ∈ mergeFrom reg t, r.stop < n := by
  induction t generalizing reg with
  | nil => exact h
  | cons next rest ih =>
    obtain ⟨hreg, hnext, hrest⟩ : reg.stop < n ∧ next.stop < n ∧ ∀ r ∈ rest, r.stop < n := by simpa using h
    rw [mergeFrom]
    split
    · exact ih (List.forall_mem_cons.mpr ⟨hnext, hrest⟩)
    · exact List.forall_mem_cons.mpr ⟨hreg, ih (List.forall_mem_cons.mpr ⟨hnext, hrest⟩)⟩

/-- The entries of a placement. -/
def Placement.entries : Placement → List Region
  | .joined t | .placed t => t
  | .full => []

lemma place_stop {count reg t} (hreg : reg.stop < n) (h : ∀ r ∈ t, r.stop < n) :
    ∀ r ∈ (place cfg count reg t).entries, r.stop < n := by
  induction t with
  | nil =>
    rw [place]
    split
    · exact List.forall_mem_nil _
    · exact List.forall_mem_singleton.mpr hreg
  | cons next rest ih =>
    obtain ⟨hnext, hrest⟩ := List.forall_mem_cons.mp h
    have ih := ih hrest
    rw [place]
    split
    · exact List.forall_mem_cons.mpr ⟨hnext, hrest⟩
    split
    · exact List.forall_mem_cons.mpr ⟨hreg, hrest⟩
    split
    · split
      · exact List.forall_mem_nil _
      · exact List.forall_mem_cons.mpr ⟨hreg, h⟩
    · generalize place cfg count reg rest = q at ih ⊢
      cases q with
      | joined t' => exact List.forall_mem_cons.mpr ⟨hnext, ih⟩
      | placed t' => exact List.forall_mem_cons.mpr ⟨hnext, ih⟩
      | full => exact List.forall_mem_nil _

/-- Whatever is reserved, the ends of the entries are among those of the regions. -/
lemma reserveRegion_stop {reg b} (h : reserveRegion cfg reg s = .ok (b, s')) (hreg : reg.stop < n)
    (ht : ∀ r ∈ s.reserved, r.stop < n) : ∀ r ∈ s'.reserved, r.stop < n := by
  unfold reserveRegion at h
  obtain ⟨u, -, h⟩ := bind_eq_ok.mp h
  split at h
  · obtain ⟨-, rfl⟩ := Prod.ext_iff.mp (Except.ok.inj h)
    exact ht
  have hplace : ∀ r ∈ (place cfg s.reserved.length reg s.reserved).entries, r.stop < n := place_stop hreg ht
  generalize place cfg s.reserved.length reg s.reserved = q at h hplace
  cases q with
  | joined t' =>
    obtain ⟨-, rfl⟩ := Prod.ext_iff.mp (Except.ok.inj h)
    cases t' with
    | nil => exact hplace
    | cons r t' => exact mergeFrom_stop hplace
  | placed t' =>
    obtain ⟨-, rfl⟩ := Prod.ext_iff.mp (Except.ok.inj h)
    exact hplace
  | full =>
    obtain ⟨-, rfl⟩ := Prod.ext_iff.mp (Except.ok.inj h)
    exact ht

lemma insertRegion_stop {reg b} (h : insertRegion cfg reg s = .ok (b, s')) (ht : ∀ r ∈ s.reserved, r.stop < 2 ^ 64) :
    ∀ r ∈ s'.reserved, r.stop < 2 ^ 64 := by
  unfold insertRegion at h
  obtain ⟨u, -, h⟩ := bind_eq_ok.mp h
  split at h
  · obtain ⟨-, rfl⟩ := Prod.ext_iff.mp (Except.ok.inj h)
    exact ht
  split at h
  · obtain ⟨⟨b1, s1⟩, h1, e⟩ := bind_eq_ok.mp h
    obtain ⟨-, rfl⟩ := Prod.ext_iff.mp (Except.ok.inj e)
    have hstop := reserveRegion_stop h1 (pptrToPaddrReg_stop_lt cfg reg) ht
    exact hstop
  · obtain ⟨u, -, h⟩ := bind_eq_ok.mp h
    obtain ⟨-, rfl⟩ := Prod.ext_iff.mp (Except.ok.inj h)
    exact ht

/-- The entries of the table end at words, whether or not the ends of the regions wrap around. -/
lemma performAll_stop (h : performAll cfg ps s = .ok s') (ht : ∀ r ∈ s.reserved, r.stop < 2 ^ 64) :
    ∀ r ∈ s'.reserved, r.stop < 2 ^ 64 := by
  induction ps generalizing s with
  | nil => rwa [← Except.ok.inj h]
  | cons p ps ih =>
    obtain ⟨s1, h1, h⟩ := bind_eq_ok.mp (performAll_cons ▸ h)
    refine ih h ?_
    cases p with
    | reserve reg =>
      obtain ⟨⟨b, s2⟩, h2, e⟩ := bind_eq_ok.mp h1
      obtain rfl := Except.ok.inj e
      exact reserveRegion_stop h2 (pptrToPaddrReg_stop_lt cfg reg) ht
    | insert reg =>
      obtain ⟨⟨b, s2⟩, h2, e⟩ := bind_eq_ok.mp h1
      obtain rfl := Except.ok.inj e
      exact insertRegion_stop h2 ht

/-- The walk reserves nothing but the regions of its steps. -/
lemma Filling.run (f : Filling cfg t0 done s) (l : Laid cfg t0 (done ++ ps)) (h : performAll cfg ps s = .ok s')
    (hempty : HasEmpty s'.freemem) : ∀ x ∈ cover s'.reserved, x ∈ cover s.reserved ∨ x ∈ physical cfg (held ps) := by
  induction ps generalizing done s with
  | nil =>
    obtain rfl := Except.ok.inj h
    exact fun x hx => .inl hx
  | cons p ps ih =>
    obtain ⟨s1, h1, h⟩ := bind_eq_ok.mp (performAll_cons ▸ h)
    obtain ⟨f1, hr⟩ := f.step l h1 (performAll_hasEmpty h hempty)
    have hp : p ∈ done ++ p :: ps := List.mem_append_right _ (.head _)
    have hreg := fun x => mem_pptrToPaddrReg (x := x) (l.proper hp) (l.bounded p hp) (l.unwrapped p hp)
    rw [List.append_cons] at l
    intro x hx
    rcases ih f1 l h x hx with hx | ⟨hlt, hx⟩
    · exact (hr.within hx).imp_right fun hx => ⟨((hreg x).mp hx).1, mem_held_cons.mpr (.inl ((hreg x).mp hx).2)⟩
    · exact .inr ⟨hlt, mem_held_cons.mpr (.inr hx)⟩

/-- If everything is reserved in the end, the blocks have fitted into the table at every step: the first region that is
dropped stays out. -/
lemma Full.fits (f : Full cfg t0 done s) (l : Laid cfg t0 (done ++ ps)) (h : performAll cfg ps s = .ok s')
    (hempty : HasEmpty s'.freemem) (hkept : ∀ x ∈ physical cfg (held ps), x ∈ cover s'.reserved) :
    ∀ qs, qs <+: ps → (blockStarts (cover t0 ∪ physical cfg (held (done ++ qs)))).ncard < cfg.maxNumResvReg := by
  induction ps generalizing done s with
  | nil =>
    intro qs hqs
    rw [List.prefix_nil.mp hqs, List.append_nil]
    exact f.ncard_lt
  | cons p ps ih =>
    obtain ⟨s1, h1, h2⟩ := bind_eq_ok.mp (performAll_cons ▸ h)
    have hempty1 := performAll_hasEmpty h2 hempty
    rcases f.step l h1 hempty1 with ⟨f1, -⟩ | ⟨e, -⟩
    · rintro (_ | ⟨q, qs⟩) hqs
      · rw [List.append_nil]
        exact f.ncard_lt
      · obtain ⟨rfl, htail⟩ := List.cons_prefix_cons.mp hqs
        rw [List.append_cons] at l ⊢
        exact ih f1 l h2 (fun x ⟨hlt, hx⟩ => hkept x ⟨hlt, mem_held_cons.mpr (.inr hx)⟩) qs htail
    · -- the first address of the region is reserved neither before nor later
      have f1 := (f.toFilling.step l h1 hempty1).1
      have hp : p ∈ done ++ p :: ps := List.mem_append_right _ (.head _)
      have hproper := l.proper hp
      have hlt := hproper.trans (l.bounded p hp)
      have hfirst : p.reg.start ∈ held (p :: ps) := mem_held_cons.mpr (.inl ⟨le_rfl, hproper⟩)
      have hrest := f1.run (by rwa [List.append_cons] at l) h2 hempty _ (hkept _ ((mem_physical hlt).mpr hfirst))
      rw [e, mem_physical hlt] at hrest
      rcases hrest with hin | ⟨r, hr, hle, -⟩
      · rcases f.within _ hin with hin | hin
        · have hall : p.reg.start ∈ held (done ++ p :: ps) := mem_held_append.mpr (.inr hfirst)
          exact absurd hin (l.clear _ ((mem_physical hlt).mpr hall))
        · exact absurd (l.below (.head _) ((mem_physical hlt).mp hin)) (lt_irrefl _)
      · obtain ⟨q, hq, rfl⟩ := List.mem_map.mp hr
        have := l.above hq
        omega

/-- Everything that was to be reserved is, and no device untyped covers any of the reserved regions. -/
structure Kept (cfg : BootConfig) (available reserved : List Region) (s : NdksBoot) : Prop where
  covered : ∀ r ∈ reserved, ∀ v ∈ r, sub64 v cfg.pptrBaseOffset ∈ cover s.reserved
  free : ∀ x ∈ usable cfg available, x ∈ cover s.reserved
  device : ∀ s₁ : NdksBoot, s₁.reserved = s.reserved → s₁.freemem = s.freemem →
    ∃ new, (Failing.finalState (createUntypeds cfg s₁)).untypeds = s₁.untypeds ++ new ∧
      ∀ c ∈ new, c.1 = true → ∀ v ∈ span c, v ∉ cover reserved

/-- At every step of the walk, the blocks of the memory reserved so far fit into the table. -/
def Fits (cfg : BootConfig) (available reserved : List Region) (s : NdksBoot) : Prop :=
  ∀ qs, qs <+: steps cfg available reserved →
    (blockStarts (cover s.reserved ∪ physical cfg (held qs))).ncard < cfg.maxNumResvReg

variable {available reserved : List Region}

/-- The last address below `PPTR_BASE_OFFSET` has the last word as its physical address, which is never reserved. -/
lemma Kept.unwrapped (kept : Kept cfg available reserved s) (h : ∀ r ∈ s.reserved, r.stop < 2 ^ 64) :
    Unwrapped cfg reserved := by
  rintro r hr ⟨hstart, hstop⟩
  have hoff := cfg.offset_lt
  obtain ⟨t, ht, -, hlt⟩ := kept.covered r hr (cfg.pptrBaseOffset - 1) ⟨by omega, by omega⟩
  have := h t ht
  unfold sub64 at hlt
  omega

lemma placeRootserver_reserved {size maxBits} (h : placeRootserver cfg size maxBits s = .ok (true, s')) :
    s'.reserved = s.reserved := by
  unfold placeRootserver at h
  split at h
  · cases h
  obtain ⟨⟨taken, freemem⟩, -, h⟩ := bind_eq_ok.mp h
  cases taken with
  | none => cases h
  | some mem =>
    obtain ⟨-, rfl⟩ := Prod.ext_iff.mp (Except.ok.inj h)
    rfl

/-- No region is lost just if none of the reserved ones wraps around and the blocks of memory fit into the table; and
they do if the table has an entry more than there are regions. -/
theorem initFreemem_keeps {nPaging extraBits : Nat} (c : Call cfg available reserved s)
    (h : initFreemem cfg available reserved nPaging extraBits s = .ok (true, s')) :
    (Kept cfg available reserved s' ↔ Unwrapped cfg reserved ∧ Fits cfg available reserved s) ∧
      (Unwrapped cfg reserved → s.reserved.length + (available.length + reserved.length) < cfg.maxNumResvReg →
        Kept cfg available reserved s') := by
  obtain ⟨ha, hr, s1, hwalk, hplace⟩ := initFreemem_ok h
  have hempty := placeRootserver_hasEmpty hplace
  have hsize : calculateRootserverSize cfg nPaging extraBits < 2 ^ 64 := Nat.mod_lt _ (by norm_num)
  have fits : Unwrapped cfg reserved → Fits cfg available reserved s → Kept cfg available reserved s' := by
    intro hu hfits
    have laid : Laid cfg s.reserved ([] ++ steps cfg available reserved) := c.laid ha hr hu
    have full := c.start.run laid hwalk hempty hfits
    obtain ⟨hres, free, hw, -, -⟩ := free_of_walk hsize c ha hr hu full.toFilling hplace
    have hmem : ∀ x, x ∈ cover s'.reserved ↔ _ := fun x => hres ▸ mem_reserved_of_full c ha hr full x
    have hkept : ∀ r ∈ reserved, ∀ v ∈ r, sub64 v cfg.pptrBaseOffset ∈ cover s'.reserved := fun r hrm v hv =>
      (hmem _).mpr (.inr (.inr ((mem_physical (hv.2.trans (c.reserved_words r hrm))).mpr ⟨r, hrm, hv⟩)))
    refine ⟨hkept, fun x hx => (hmem x).mpr (.inr (.inl hx)), fun s2 er ef => ?_⟩
    have table : Table s2.reserved := by
      rw [er, hres]
      exact full.table
    have hwords : ∀ r ∈ s2.reserved, r.stop < 2 ^ 64 := by
      rw [er, hres]
      exact performAll_stop hwalk c.table_words
    obtain ⟨new, e, hnew⟩ := createUntypeds_device cfg s2 table
      (fun r hr => (table.proper r hr).trans (hwords r hr)) (ef ▸ free) (ef ▸ hw)
    refine ⟨new, e, fun u hu hd v hv ⟨r, hrm, hvr⟩ => (hnew u hu hd v hv).2 ?_⟩
    rw [er]
    exact hkept r hrm v hvr
  refine ⟨⟨fun kept => ?_, fun h => fits h.1 h.2⟩, fun hu room =>
    fits hu fun qs hqs => (c.ncard_blocks_le ha hr hu hqs).trans_lt room⟩
  have hres := placeRootserver_reserved hplace
  have hu := kept.unwrapped (hres ▸ performAll_stop hwalk c.table_words)
  have laid : Laid cfg s.reserved ([] ++ steps cfg available reserved) := c.laid ha hr hu
  refine ⟨hu, c.start.fits laid hwalk hempty ?_⟩
  rintro x ⟨hlt, hx⟩
  rw [← hres, ← sub64_add64_offset cfg hlt]
  rcases (c.cut ha hr).held.mp hx with hx | ⟨r, hrm, hx⟩
  · exact kept.free _ ((mem_availReg cfg (checkAvailableMemory_spec ha).1 c.available_words
      (Nat.mod_lt _ (by norm_num))).mp hx)
  · exact kept.covered r hrm _ hx

/-- All regions of a small machine are kept. -/
theorem initFreemem_keeps_virt : Kept virtConfig virtMemory virtReserved virtDivided :=
  have returned : initFreemem virtConfig virtMemory virtReserved 3 0 virtStart = .ok (true, virtDivided) := by
    decide +kernel
  (initFreemem_keeps call_virt returned).2 (by decide) (by decide)

/-- The sizes of the arrays for one available region and three device frames. -/
def smallConfig : BootConfig :=
  { virtConfig with maxNumFreememReg := 3, maxNumResvReg := 9, freemem_pos := by decide, resv_pos := by decide }

/-- The kernel image and ten pages with gaps between them. -/
def manyReserved : List Region :=
  virtReserved ++ (List.range 10).map fun i => ⟨0x8080004000 + i * 0x8000, 0x8080005000 + i * 0x8000⟩

def overflown : NdksBoot where
  reserved := [⟨0x8040000, 0x8050000⟩, ⟨0x60000000, 0x80000000⟩] ++
    (List.range 6).map fun i => ⟨0x80004000 + i * 0x8000, 0x80005000 + i * 0x8000⟩
  freemem := [⟨0x8060240000, 0x807ffc0000⟩, ⟨0x807ffe8880, 0x8080000000⟩, regEmpty]
  rootserverMem := ⟨0x807ffc0000, 0x807ffe8880⟩
  slotPosCur := 20
  untypeds := []

/-- The seventh of the pages is dropped, and handed out as device memory. -/
theorem initFreemem_drops :
    initFreemem smallConfig virtMemory manyReserved 3 0 virtStart = .ok (true, overflown) ∧
      (∃ r ∈ manyReserved, 0x8080034000 ∈ r) ∧
      sub64 0x8080034000 smallConfig.pptrBaseOffset ∉ cover overflown.reserved ∧
      ∃ c ∈ (Failing.finalState (createUntypeds smallConfig overflown)).untypeds, c.1 = true ∧
        0x8080034000 ∈ span c := by
  refine ⟨by decide +kernel, ⟨⟨0x8080034000, 0x8080035000⟩, by decide, by decide⟩, ?_, by decide +kernel⟩
  rintro ⟨r, hr, hx⟩
  have hnot : ∀ r ∈ overflown.reserved, sub64 0x8080034000 smallConfig.pptrBaseOffset ∉ r := by decide
  exact hnot r hr hx

end Boot

end NexsKernel
