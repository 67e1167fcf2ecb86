import NexsKernel.Boot.Provided
import NexsKernel.Boot.Split

/-!
# How a region is cut into untypeds

`create_untypeds_for_region` for a region that may wrap around: the untypeds follow each other and leave out a fragment
at each end only. Up to the first address that is aligned to the smallest untyped the pieces are too small. From there on
every piece is an untyped, until less than the smallest untyped is left.
-/

namespace NexsKernel

namespace Boot

/-- Untypeds that follow each other in a region. -/
structure Cutting (d : Bool) (reg : Region) (new : List (Bool × Nat × Nat)) : Prop where
  device : ∀ c ∈ new, c.1 = d
  size : ∀ c ∈ new, minUntypedBits ≤ c.2.1 ∧ c.2.1 ≤ maxUntypedBits
  aligned : ∀ c ∈ new, 2 ^ c.2.1 ∣ c.2.2
  unwrapped : ∀ c ∈ new, c.2.2 + 2 ^ c.2.1 ≤ 2 ^ 64
  inside : ∀ c ∈ new, ∀ v ∈ span c, v ∈ arc reg
  disjoint : new.Pairwise fun b c => (span b).Disjoint (span c)
  increasing : new.Pairwise fun b c => sub64 b.2.2 reg.start < sub64 c.2.2 reg.start

/-- Untypeds that leave out `low` addresses at the start of a region and `high` at its end. -/
def Covering (low high : Nat) (reg : Region) (new : List (Bool × Nat × Nat)) : Prop :=
  ∀ v ∈ arc reg, low ≤ sub64 v reg.start → high < sub64 reg.stop v → ∃ c ∈ new, v ∈ span c

/-- How far it is to the next aligned address. -/
def misalignment (n : Nat) : Nat :=
  (2 ^ minUntypedBits - n % 2 ^ minUntypedBits) % 2 ^ minUntypedBits

lemma misalignment_lt (n : Nat) : misalignment n < 2 ^ minUntypedBits :=
  Nat.mod_lt _ (by positivity)

lemma misalignment_eq_zero {n : Nat} (h : 2 ^ minUntypedBits ∣ n) : misalignment n = 0 := by
  rw [misalignment, Nat.mod_eq_zero_of_dvd h, Nat.sub_zero, Nat.mod_self]

/-- A step that is smaller than an untyped and not aligned itself goes towards the next aligned address. -/
lemma misalignment_next {n k : Nat} (hk : k < minUntypedBits) (hdvd : 2 ^ k ∣ n) (h : ¬ 2 ^ minUntypedBits ∣ n) :
    misalignment (add64 n (2 ^ k)) + 2 ^ k = misalignment n := by
  unfold misalignment add64 minUntypedBits at *
  interval_cases k <;> omega

section step

variable {reg : Region}

/-- Where the next untyped is large enough, its address is aligned. -/
lemma dvd_start_of_le (h : minUntypedBits ≤ untypedSizeBits reg) : 2 ^ minUntypedBits ∣ reg.start :=
  (pow_dvd_pow 2 h).trans (two_pow_untypedSizeBits_dvd reg)

/-- From an aligned address, only the end of the region is too small. -/
lemma size_lt_of_aligned (hdvd : 2 ^ minUntypedBits ∣ reg.start) (h : ¬ minUntypedBits ≤ untypedSizeBits reg) :
    sub64 reg.stop reg.start < 2 ^ minUntypedBits := by
  have hctzl : minUntypedBits ≤ ctzl reg.start := le_ctzl hdvd (by decide)
  have hmax : minUntypedBits ≤ maxUntypedBits := by decide
  have hlog : Nat.log2 (sub64 reg.stop reg.start) < minUntypedBits := by
    unfold untypedSizeBits at h
    dsimp only at h
    split at h <;> omega
  exact Nat.lt_log2_self.trans_le (Nat.pow_le_pow_right (by norm_num) hlog)

/-- What is left of a region, measured from its start. -/
lemma arc_next_iff (hs : reg.start < 2 ^ 64) (h : sub64 reg.stop reg.start ≠ 0) {v : Nat} (hv : v ∈ arc reg) :
    v ∈ arc { reg with start := add64 reg.start (2 ^ untypedSizeBits reg) } ↔
      2 ^ untypedSizeBits reg ≤ sub64 v reg.start := by
  obtain ⟨hv, hlt⟩ := hv
  have hnext := sub64_next h
  have hle := start_add_le hs h
  change _ ∧ _ ↔ _
  dsimp only
  generalize 2 ^ untypedSizeBits reg = n at *
  unfold add64 sub64 at *
  omega

lemma sub64_start_next (hs : reg.start < 2 ^ 64) (h : sub64 reg.stop reg.start ≠ 0) {v : Nat}
    (hv : v ∈ arc { reg with start := add64 reg.start (2 ^ untypedSizeBits reg) }) :
    sub64 v (add64 reg.start (2 ^ untypedSizeBits reg)) + 2 ^ untypedSizeBits reg = sub64 v reg.start := by
  obtain ⟨hv, hlt⟩ := hv
  have hnext := sub64_next h
  have hle := start_add_le hs h
  dsimp only at hlt
  generalize 2 ^ untypedSizeBits reg = n at *
  unfold add64 sub64 at *
  omega

lemma mem_span_start (d : Bool) (hs : reg.start < 2 ^ 64) {v : Nat} (hv : v < 2 ^ 64)
    (hlt : sub64 v reg.start < 2 ^ untypedSizeBits reg) (h : sub64 reg.stop reg.start ≠ 0) :
    v ∈ span (d, untypedSizeBits reg, reg.start) := by
  have hle := start_add_le hs h
  simp only [span, Region.mem_iff]
  generalize 2 ^ untypedSizeBits reg = n at *
  unfold sub64 at *
  omega

end step

namespace Cutting

variable {d : Bool} {reg : Region} {new : List (Bool × Nat × Nat)}

/-- The address of an untyped is one of the region. -/
lemma mem_arc (c : Cutting d reg new) : ∀ u ∈ new, u.2.2 ∈ arc reg := by
  intro u hu
  apply c.inside u hu
  simp only [span, Region.mem_iff]
  exact ⟨le_rfl, Nat.lt_add_of_pos_right (by positivity)⟩

/-- The untypeds of what is left of a region are untypeds of the region. -/
lemma skip (hs : reg.start < 2 ^ 64) (h : sub64 reg.stop reg.start ≠ 0)
    (c : Cutting d { reg with start := add64 reg.start (2 ^ untypedSizeBits reg) } new) : Cutting d reg new where
  device := c.device
  size := c.size
  aligned := c.aligned
  unwrapped := c.unwrapped
  inside := fun u hu v hv => (arc_next (d := d) hs h (c.inside u hu v hv)).1
  disjoint := c.disjoint
  increasing := by
    apply c.increasing.imp_of_mem
    intro u w hu hw hlt
    rw [← sub64_start_next hs h (c.mem_arc u hu), ← sub64_start_next hs h (c.mem_arc w hw)]
    exact Nat.add_lt_add_right hlt _

lemma provide (hs : reg.start < 2 ^ 64) (h : sub64 reg.stop reg.start ≠ 0) (hmin : minUntypedBits ≤ untypedSizeBits reg)
    (c : Cutting d { reg with start := add64 reg.start (2 ^ untypedSizeBits reg) } new) :
    Cutting d reg ((d, untypedSizeBits reg, reg.start) :: new) := by
  have hskip := c.skip hs h
  constructor
  · exact List.forall_mem_cons.mpr ⟨rfl, c.device⟩
  · exact List.forall_mem_cons.mpr ⟨⟨hmin, untypedSizeBits_le_max reg⟩, c.size⟩
  · exact List.forall_mem_cons.mpr ⟨two_pow_untypedSizeBits_dvd reg, c.aligned⟩
  · exact List.forall_mem_cons.mpr ⟨start_add_le hs h, c.unwrapped⟩
  · exact List.forall_mem_cons.mpr ⟨fun v hv => span_arc hs h hv, hskip.inside⟩
  · apply List.pairwise_cons.mpr
    exact ⟨fun u hu v hv hv' => (arc_next hs h (c.inside u hu v hv')).2 hv, c.disjoint⟩
  · apply List.pairwise_cons.mpr
    refine ⟨fun u hu => ?_, hskip.increasing⟩
    -- an untyped of the rest is at least this one's size away from the start
    have hle := (arc_next_iff hs h (hskip.mem_arc u hu)).mp (c.mem_arc u hu)
    have hpos : 0 < 2 ^ untypedSizeBits reg := by positivity
    rw [sub64_eq le_rfl hs, Nat.sub_self]
    exact hpos.trans_le hle

end Cutting

lemma untypedsOf_cutting {d : Bool} {reg : Region} (hs : reg.start < 2 ^ 64) : Cutting d reg (untypedsOf d reg) := by
  induction reg using untypedsOf.induct d with
  | case1 reg h =>
    rw [untypedsOf, dif_pos h]
    constructor <;> simp
  | case2 reg h sizeBits hmin ih =>
    rw [untypedsOf, dif_neg h]
    dsimp only
    rw [if_pos hmin]
    exact (ih (Nat.mod_lt _ (by norm_num))).provide hs h hmin
  | case3 reg h sizeBits hmin ih =>
    rw [untypedsOf, dif_neg h]
    dsimp only
    rw [if_neg hmin]
    exact (ih (Nat.mod_lt _ (by norm_num))).skip hs h

namespace Covering

variable {low high : Nat} {d : Bool} {reg : Region} {new : List (Bool × Nat × Nat)}

/-- An untyped at the start of the region. -/
lemma provide (hs : reg.start < 2 ^ 64) (h : sub64 reg.stop reg.start ≠ 0)
    (c : Covering 0 high { reg with start := add64 reg.start (2 ^ untypedSizeBits reg) } new) :
    Covering 0 high reg ((d, untypedSizeBits reg, reg.start) :: new) := by
  intro v hv _ hhigh
  rcases Nat.lt_or_ge (sub64 v reg.start) (2 ^ untypedSizeBits reg) with hlt | hge
  · exact ⟨_, .head _, mem_span_start d hs hv.1 hlt h⟩
  · obtain ⟨u, hu, hmem⟩ := c v ((arc_next_iff hs h hv).mpr hge) (Nat.zero_le _) hhigh
    exact ⟨u, .tail _ hu, hmem⟩

/-- A piece that is left out at the start of the region. -/
lemma skip (hs : reg.start < 2 ^ 64) (h : sub64 reg.stop reg.start ≠ 0)
    (c : Covering low high { reg with start := add64 reg.start (2 ^ untypedSizeBits reg) } new) :
    Covering (low + 2 ^ untypedSizeBits reg) high reg new := by
  intro v hv hlow hhigh
  have hrest := (arc_next_iff hs h hv).mpr (le_of_add_le_right hlow)
  have e := sub64_start_next hs h hrest
  exact c v hrest (by dsimp only; omega) hhigh

/-- A region that is smaller than what is left out. -/
lemma rest (hle : sub64 reg.stop reg.start ≤ high) : Covering 0 high reg new := by
  intro v hv _ hhigh
  obtain ⟨hv, hlt⟩ := hv
  exfalso
  unfold sub64 at *
  omega

end Covering

/-- The fragments at the ends of a region: the one at its start ends at the next aligned address. -/
lemma untypedsOf_covering {d : Bool} {reg : Region} (hs : reg.start < 2 ^ 64) :
    ∃ low ≤ misalignment reg.start, ∃ high < 2 ^ minUntypedBits, Covering low high reg (untypedsOf d reg) := by
  induction reg using untypedsOf.induct d with
  | case1 reg h => exact ⟨0, Nat.zero_le _, 0, by positivity, .rest h.le⟩
  | case2 reg h sizeBits hmin ih =>
    obtain ⟨low, hlow, high, hhigh, c⟩ := ih (Nat.mod_lt _ (by norm_num))
    -- the region was aligned, and it still is
    have hdvd : 2 ^ minUntypedBits ∣ add64 reg.start (2 ^ sizeBits) := by
      have h1 : 2 ^ minUntypedBits ∣ reg.start + 2 ^ sizeBits := Nat.dvd_add (dvd_start_of_le hmin) (pow_dvd_pow 2 hmin)
      exact (Nat.dvd_mod_iff (pow_dvd_pow 2 (by decide))).mpr h1
    dsimp only at hlow
    rw [misalignment_eq_zero hdvd] at hlow
    obtain rfl := Nat.le_zero.mp hlow
    rw [untypedsOf, dif_neg h]
    dsimp only
    rw [if_pos hmin]
    exact ⟨0, Nat.zero_le _, high, hhigh, c.provide hs h⟩
  | case3 reg h sizeBits hmin ih =>
    rw [untypedsOf, dif_neg h]
    dsimp only
    rw [if_neg hmin]
    by_cases hdvd : 2 ^ minUntypedBits ∣ reg.start
    · exact ⟨0, Nat.zero_le _, _, size_lt_of_aligned hdvd hmin, .rest le_rfl⟩
    · obtain ⟨low, hlow, high, hhigh, c⟩ := ih (Nat.mod_lt _ (by norm_num))
      refine ⟨low + 2 ^ sizeBits, ?_, high, hhigh, c.skip hs h⟩
      rw [← misalignment_next (Nat.lt_of_not_le hmin) (two_pow_untypedSizeBits_dvd reg) hdvd]
      exact Nat.add_le_add_right hlow _

/-- With room in the tables a region becomes untypeds, except for a fragment at each end. -/
theorem createUntypedsForRegion_cuts {cfg : BootConfig} {first : Nat} {d : Bool} {reg : Region}
    (hs : reg.start < 2 ^ 64) (hw : d = false → InWindow cfg reg) :
    ∃ new, Provides cfg first new (createUntypedsForRegion cfg d reg first) ∧ Cutting d reg new ∧
      ∃ low < 2 ^ minUntypedBits, ∃ high < 2 ^ minUntypedBits, Covering low high reg new := by
  obtain ⟨low, hlow, high, hhigh, c⟩ := untypedsOf_covering (d := d) hs
  have hlt := hlow.trans_lt (misalignment_lt _)
  exact ⟨_, createUntypedsForRegion_provides d hw, untypedsOf_cutting hs, low, hlt, high, hhigh, c⟩

/-- A region of 64 bytes around the end of the address space, whose ends are not aligned. -/
theorem createUntypedsForRegion_cuts_wrapping :
    ∃ new, Provides virtConfig 0 new (createUntypedsForRegion virtConfig true ⟨2 ^ 64 - 24, 40⟩ 0) ∧
      Cutting true ⟨2 ^ 64 - 24, 40⟩ new ∧
      ∃ low < 2 ^ minUntypedBits, ∃ high < 2 ^ minUntypedBits, Covering low high ⟨2 ^ 64 - 24, 40⟩ new :=
  @createUntypedsForRegion_cuts virtConfig 0 true ⟨2 ^ 64 - 24, 40⟩ (by decide) nofun

example : untypedsOf true ⟨2 ^ 64 - 24, 40⟩ = [(true, 4, 2 ^ 64 - 16), (true, 5, 0)] := by decide +kernel

end Boot

end NexsKernel
