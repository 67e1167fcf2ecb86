import NexsKernel.Boot.Fill

/-!
# What `init_freemem` leaves behind

The arguments of `init_freemem` in terms of addresses: `usable` is the available memory that the kernel window
reaches, in physical addresses. `initFreemem_ok` takes a run that returns true apart into the steps of the walk and
the placement of the root server, and `placeRootserver_spec` says what the latter does to the free memory.
-/

namespace NexsKernel

namespace Boot

/-- The available memory that the kernel window reaches. -/
def usable (cfg : BootConfig) (available : List Region) : Set Nat :=
  {x | x ∈ cover available ∧ x < cfg.paddrTop}

lemma inOrderFrom_spec {e prev t} (h : inOrderFrom e prev t = true) :
    InOrder t ∧ (e = false → ∀ r ∈ t, r.start < r.stop) ∧ ∀ p, prev = some p → ∀ r ∈ t, p.stop ≤ r.start := by
  induction t generalizing prev with
  | nil => exact ⟨⟨nofun, .nil⟩, nofun, nofun⟩
  | cons r t ih =>
    rw [inOrderFrom] at h
    split at h
    · cases h
    split at h
    · cases h
    split at h
    · cases h
    rename_i h1 h2 h3
    obtain ⟨order, proper, above⟩ := ih h
    have hle : ∀ s ∈ t, r.stop ≤ s.start := above r rfl
    refine ⟨order.cons (by omega) hle, fun he s hs => ?_, fun p hp s hs => ?_⟩
    · rcases List.mem_cons.mp hs with rfl | hs
      · rw [he] at h2
        simp only [Bool.not_false, Bool.true_and, beq_iff_eq] at h2
        omega
      · exact proper he s hs
    · have hpr : p.stop ≤ r.start := by simpa [hp] using h3
      rcases List.mem_cons.mp hs with rfl | hs
      · exact hpr
      · have := hle s hs
        omega

lemma checkAvailableMemory_spec {available} (h : checkAvailableMemory available = true) :
    InOrder available ∧ ∀ r ∈ available, r.start < r.stop := by
  have h := (Bool.and_eq_true_iff.mp h).2
  exact ⟨(inOrderFrom_spec h).1, (inOrderFrom_spec h).2.1 rfl⟩

lemma checkReservedMemory_spec {reserved} (h : checkReservedMemory reserved = true) : InOrder reserved :=
  (inOrderFrom_spec h).1

lemma BootConfig.paddrTop_eq (cfg : BootConfig) : cfg.paddrTop + cfg.pptrBaseOffset = cfg.pptrTop := by
  have h1 := cfg.offset_le
  have h2 := cfg.pptrTop_lt
  unfold BootConfig.paddrTop sub64
  omega

/-- An available region in the kernel window is cut off at the top of it. -/
lemma availReg_eq {cfg : BootConfig} {r : Region} (h1 : r.start < 2 ^ 64) (h2 : r.stop < 2 ^ 64) :
    availReg cfg r = ⟨min r.start cfg.paddrTop + cfg.pptrBaseOffset, min r.stop cfg.paddrTop + cfg.pptrBaseOffset⟩ := by
  have hoff := cfg.offset_lt
  have htop := cfg.pptrTop_lt
  have heq := BootConfig.paddrTop_eq cfg
  have ceiling : ∀ p < 2 ^ 64, ceilingKernelWindow cfg (add64 p cfg.pptrBaseOffset) =
      min p cfg.paddrTop + cfg.pptrBaseOffset := by
    intro p hp
    have e : sub64 (add64 p cfg.pptrBaseOffset) cfg.pptrBaseOffset = p := by
      unfold add64 sub64
      omega
    rw [ceilingKernelWindow, e]
    split
    · omega
    · rw [add64_eq (by omega)]
      omega
  rw [availReg]
  dsimp only [paddrToPptrReg]
  rw [ceiling _ h1, ceiling _ h2]

variable {cfg : BootConfig} {available reserved : List Region}

/-- The regions of the walk are in order, and below the top of the kernel window. -/
lemma availReg_inOrder (cfg : BootConfig) (h : InOrder available) (hw : ∀ r ∈ available, r.stop < 2 ^ 64) :
    InOrder (available.map (availReg cfg)) ∧ ∀ r ∈ available.map (availReg cfg), r.stop ≤ cfg.pptrTop := by
  have heq := BootConfig.paddrTop_eq cfg
  have e : ∀ r ∈ available, availReg cfg r =
      ⟨min r.start cfg.paddrTop + cfg.pptrBaseOffset, min r.stop cfg.paddrTop + cfg.pptrBaseOffset⟩ := fun r hr =>
    availReg_eq ((h.valid r hr).trans_lt (hw r hr)) (hw r hr)
  refine ⟨⟨fun s hs => ?_, ?_⟩, fun s hs => ?_⟩
  · obtain ⟨r, hr, rfl⟩ := List.mem_map.mp hs
    have := h.valid r hr
    rw [e r hr]
    dsimp only
    omega
  · rw [List.pairwise_map]
    refine List.Pairwise.imp_of_mem ?_ h.sorted
    intro a b ha hb hle
    rw [e a ha, e b hb]
    dsimp only
    omega
  · obtain ⟨r, hr, rfl⟩ := List.mem_map.mp hs
    rw [e r hr]
    dsimp only
    omega

lemma mem_availReg (cfg : BootConfig) (h : InOrder available) (hw : ∀ r ∈ available, r.stop < 2 ^ 64) {v : Nat}
    (hv : v < 2 ^ 64) :
    v ∈ cover (available.map (availReg cfg)) ↔ sub64 v cfg.pptrBaseOffset ∈ usable cfg available := by
  have heq := BootConfig.paddrTop_eq cfg
  have hoff := cfg.offset_lt
  have htop := cfg.pptrTop_lt
  have one : ∀ r ∈ available, v ∈ availReg cfg r ↔
      sub64 v cfg.pptrBaseOffset ∈ r ∧ sub64 v cfg.pptrBaseOffset < cfg.paddrTop := by
    intro r hr
    rw [availReg_eq ((h.valid r hr).trans_lt (hw r hr)) (hw r hr)]
    simp only [Region.mem_iff, sub64]
    omega
  constructor
  · rintro ⟨s, hs, hv⟩
    obtain ⟨r, hr, rfl⟩ := List.mem_map.mp hs
    exact ⟨⟨r, hr, ((one r hr).mp hv).1⟩, ((one r hr).mp hv).2⟩
  · rintro ⟨⟨r, hr, hmem⟩, hlt⟩
    exact ⟨_, List.mem_map_of_mem hr, (one r hr).mpr ⟨hmem, hlt⟩⟩

/-- The addresses of the steps are those of the regions inserted and of the regions reserved. -/
lemma mem_held_iff {ps : List Piece} {x : Nat} :
    x ∈ held ps ↔ x ∈ cover (ps.filterMap Piece.inserted) ∨ x ∈ cover (ps.filterMap Piece.reserved) := by
  induction ps with
  | nil => simp
  | cons p ps ih =>
    rw [mem_held_cons, ih]
    cases p with
    | reserve reg => simp only [List.filterMap_cons, Piece.inserted, Piece.reserved, Piece.reg, mem_cover_cons]; tauto
    | insert reg => simp only [List.filterMap_cons, Piece.inserted, Piece.reserved, Piece.reg, mem_cover_cons]; tauto

lemma Cut.held {as rs : List Region} {ps} (c : Cut as rs ps) {x : Nat} :
    x ∈ held ps ↔ x ∈ cover as ∨ x ∈ cover rs := by
  rw [mem_held_iff, c.inserted, c.reserved, mem_cover_properRegions]
  tauto

/-- The steps stay below what their regions stay below. -/
lemma Cut.bounded {as rs : List Region} {ps} (c : Cut as rs ps) {n : Nat} (ha : ∀ a ∈ as, a.stop ≤ n)
    (hr : ∀ r ∈ rs, r.stop ≤ n) : ∀ p ∈ ps, p.reg.stop ≤ n := by
  intro p hp
  have hlt := c.ascending.proper _ (List.mem_map_of_mem hp)
  have hmem : p.reg.stop - 1 ∈ Boot.held ps := ⟨p.reg, List.mem_map_of_mem hp, by omega, by omega⟩
  rcases c.held.mp hmem with ⟨a, hmem, -, hlt'⟩ | ⟨r, hmem, -, hlt'⟩
  · have := ha a hmem
    omega
  · have := hr r hmem
    omega

/-- A run that returns true has passed the checks, taken the steps of the walk and placed the root server. -/
lemma initFreemem_ok {nPaging extraBits s s'}
    (h : initFreemem cfg available reserved nPaging extraBits s = .ok (true, s')) :
    checkAvailableMemory available = true ∧ checkReservedMemory reserved = true ∧ ∃ s1,
      performAll cfg (pieces (available.map (availReg cfg)) reserved)
        { s with freemem := List.replicate cfg.maxNumFreememReg regEmpty } = .ok s1 ∧
      placeRootserver cfg (calculateRootserverSize cfg nPaging extraBits) (rootserverMaxSizeBits cfg extraBits) s1 =
        .ok (true, s') := by
  unfold initFreemem at h
  split at h
  · cases h
  split at h
  · cases h
  split at h
  · cases h
  rename_i h1 h2 _
  refine ⟨by simpa using h1, by simpa using h2, ?_⟩
  obtain ⟨⟨as, rs, s1⟩, e1, h⟩ := bind_eq_ok.mp h
  obtain ⟨s2, e2, h⟩ := bind_eq_ok.mp h
  obtain ⟨s3, e3, h⟩ := bind_eq_ok.mp h
  refine ⟨s3, ?_, h⟩
  rw [← walk_eq]
  exact bind_eq_ok.mpr ⟨_, e1, bind_eq_ok.mpr ⟨s2, e2, e3⟩⟩

/-- A free list: regions that may be empty and share no address. -/
structure Free (f : List Region) : Prop where
  valid : ∀ r ∈ f, r.start ≤ r.stop
  disjoint : f.Pairwise Region.Disjoint

lemma disjoint_of_empty {a b : Region} (h : isRegEmpty a = true) : a.Disjoint b := by
  rintro x ⟨h1, h2⟩
  have := eq_of_beq h
  omega

/-- An empty entry in the middle of a free list does not matter. -/
lemma Free.empty_iff {f g : List Region} {a : Region} (ha : isRegEmpty a = true) :
    Free (f ++ a :: g) ↔ Free (f ++ g) := by
  have hle : a.start ≤ a.stop := (eq_of_beq ha).le
  have hd : ∀ b, a.Disjoint b := fun b => disjoint_of_empty ha
  constructor
  · rintro ⟨valid, disjoint⟩
    refine ⟨fun r hr => valid r ?_, disjoint.sublist ?_⟩
    · simp only [List.mem_append, List.mem_cons] at hr ⊢
      tauto
    · exact List.Sublist.append_left (List.sublist_cons_self a g) f
  · rintro ⟨valid, disjoint⟩
    rw [List.pairwise_append] at disjoint
    constructor
    · intro r hr
      simp only [List.mem_append, List.mem_cons] at hr
      rcases hr with hr | rfl | hr
      · exact valid r (List.mem_append_left _ hr)
      · exact hle
      · exact valid r (List.mem_append_right _ hr)
    · rw [List.pairwise_append]
      refine ⟨disjoint.1, .cons (fun b _ => hd b) disjoint.2.1, fun b hb c hc => ?_⟩
      rcases List.mem_cons.mp hc with rfl | hc
      · exact (hd b).symm
      · exact disjoint.2.2 b hb c hc

lemma mem_cover_empty_iff {f g : List Region} {a : Region} (ha : isRegEmpty a = true) {x : Nat} :
    x ∈ cover (f ++ a :: g) ↔ x ∈ cover (f ++ g) := by
  have h : x ∉ a := by
    have := eq_of_beq ha
    rw [Region.mem_iff]
    omega
  simp [h]

/-- A region is replaced by what is below and above the memory taken from it. -/
lemma Free.carve {f g : List Region} {r : Region} {m n : Nat} (h : Free (f ++ r :: g)) (h1 : r.start ≤ m) (h2 : m ≤ n)
    (h3 : n ≤ r.stop) : Free (f ++ ⟨r.start, m⟩ :: ⟨n, r.stop⟩ :: g) := by
  obtain ⟨valid, disjoint⟩ := h
  rw [List.pairwise_append, List.pairwise_cons] at disjoint
  obtain ⟨hf, ⟨hrg, hg⟩, hfg⟩ := disjoint
  constructor
  · intro s hs
    simp only [List.mem_append, List.mem_cons] at hs
    rcases hs with hs | rfl | rfl | hs
    · exact valid s (List.mem_append_left _ hs)
    · exact h1
    · exact h3
    · exact valid s (List.mem_append_right _ (.tail _ hs))
  · rw [List.pairwise_append, List.pairwise_cons, List.pairwise_cons]
    refine ⟨hf, ⟨fun s hs x hx hxs => ?_, fun s hs x hx hxs => ?_, hg⟩, fun a ha s hs x hx hxs => ?_⟩
    · rcases List.mem_cons.mp hs with rfl | hs
      · simp only [Region.mem_iff] at hx hxs
        omega
      · exact hrg s hs x ⟨hx.1, hx.2.trans_le (h2.trans h3)⟩ hxs
    · exact hrg s hs x ⟨h1.trans (h2.trans hx.1), hx.2⟩ hxs
    · have hr := hfg a ha r (.head _) x hx
      rcases List.mem_cons.mp hs with rfl | hs
      · exact hr ⟨hxs.1, hxs.2.trans_le (h2.trans h3)⟩
      rcases List.mem_cons.mp hs with rfl | hs
      · exact hr ⟨h1.trans (h2.trans hxs.1), hxs.2⟩
      · exact hfg a ha s (.tail _ hs) x hx hxs

/-- What the placement of the root server does to a free list. -/
structure Carved (f f' : List Region) (mem : Region) : Prop where
  free : Free f'
  valid : mem.start ≤ mem.stop
  inside : ∀ x ∈ mem, x ∈ cover f
  rest : ∀ x, x ∈ cover f' ↔ x ∈ cover f ∧ x ∉ mem
  bounded : ∀ n, (∀ r ∈ f, r.stop ≤ n) → ∀ r ∈ f', r.stop ≤ n

lemma isRegEmpty_first {f : List Region} : ∀ next ∈ (regEmpty :: f).head?, isRegEmpty next = true := by
  rintro next ⟨⟩
  rfl

/-- The root server's memory is cut out of the region that it fits in. -/
lemma fitRootserver_spec {size maxBits below above mem f'} (hsize : size < 2 ^ 64)
    (hf : Free (below.reverse ++ above)) (hw : ∀ r ∈ below, r.stop < 2 ^ 64)
    (hnext : ∀ next ∈ above.head?, isRegEmpty next = true)
    (h : fitRootserver cfg size maxBits below above = .ok (some mem, f')) : Carved (below.reverse ++ above) f' mem := by
  induction below generalizing above with
  | nil => cases h
  | cons r below ih =>
    cases above with
    | nil =>
      obtain ⟨u, -, h⟩ := bind_eq_ok.mp h
      cases h
    | cons next above =>
      obtain ⟨u, -, h⟩ := bind_eq_ok.mp h
      have hempty := hnext next rfl
      have e : (r :: below).reverse ++ next :: above = (below.reverse ++ [r]) ++ next :: above := by simp
      rw [e, Free.empty_iff hempty] at hf
      have hf1 : Free (below.reverse ++ r :: above) := by rwa [List.append_assoc] at hf
      have hcover : ∀ x, x ∈ cover ((r :: below).reverse ++ next :: above) ↔
        x ∈ cover (below.reverse ++ r :: above) := by
        intro x
        rw [e, mem_cover_empty_iff hempty, List.append_assoc]
        rfl
      dsimp only at h
      split at h
      · -- the memory is taken from the top of the candidate
        rename_i hfit
        obtain ⟨hmem, rfl⟩ := Prod.ext_iff.mp (Except.ok.inj h)
        obtain rfl := Option.some.inj hmem
        have hr := hw r (.head _)
        have hdown : roundDown (sub64 r.stop size) maxBits ≤ sub64 r.stop size := Nat.div_mul_le_self _ _
        have hsub : sub64 r.stop size + size = r.stop := by
          have := hfit.1
          unfold sub64 at *
          omega
        have hadd : add64 (roundDown (sub64 r.stop size) maxBits) size =
            roundDown (sub64 r.stop size) maxBits + size := add64_eq (by omega)
        rw [hadd]
        generalize roundDown (sub64 r.stop size) maxBits = start at *
        refine ⟨hf1.carve hfit.2 (by omega) (by omega), by dsimp only; omega, fun x hx => ?_, fun x => ?_,
          fun n hn s hs => ?_⟩
        · rw [hcover, mem_cover_append, mem_cover_cons]
          exact .inr (.inl ⟨hfit.2.trans hx.1, hx.2.trans_le (by dsimp only; omega)⟩)
        · rw [hcover]
          have hbelow : x ∈ cover below.reverse → x ∉ r := by
            rintro ⟨s, hs, hx⟩ hxr
            exact (List.pairwise_append.mp hf1.disjoint).2.2 s hs r (.head _) x hx hxr
          have habove : x ∈ cover above → x ∉ r := by
            rintro ⟨s, hs, hx⟩ hxr
            exact List.rel_of_pairwise_cons (List.pairwise_append.mp hf1.disjoint).2.1 hs x hxr hx
          simp only [mem_cover_append, mem_cover_cons, Region.mem_iff] at hbelow habove ⊢
          grind
        · have hrn := hn r (by simp)
          simp only [List.mem_append, List.mem_cons] at hs
          rcases hs with hs | rfl | rfl | hs
          · exact hn s (by simp [List.mem_reverse.mp hs])
          · dsimp only
            omega
          · exact hrn
          · exact hn s (by simp [hs])
      · -- the candidate is moved up
        have hf2 : Free (below.reverse ++ regEmpty :: r :: above) := (Free.empty_iff rfl).mpr hf1
        have c := ih hf2 (fun s hs => hw s (.tail _ hs)) isRegEmpty_first h
        refine ⟨c.free, c.valid, fun x hx => (hcover x).mpr ((mem_cover_empty_iff rfl).mp (c.inside x hx)), fun x =>
          (c.rest x).trans (and_congr_left' ((mem_cover_empty_iff rfl).trans (hcover x).symm)),
          fun n hn => c.bounded n fun s hs => ?_⟩
        simp only [List.mem_append, List.mem_cons] at hs
        rcases hs with hs | rfl | rfl | hs
        · exact hn s (by simp [List.mem_reverse.mp hs])
        · exact n.zero_le
        · exact hn s (by simp)
        · exact hn s (by simp [hs])

lemma skipEmpty_replicate (k : Nat) (below above : List Region) (hb : ∀ r ∈ below, r.start < r.stop) :
    skipEmpty (List.replicate k regEmpty ++ below) above = (below, List.replicate k regEmpty ++ above) := by
  induction k generalizing above with
  | zero =>
    cases below with
    | nil => rfl
    | cons r below =>
      have hne : isRegEmpty r = false := beq_false_of_ne (hb r (.head _)).ne
      simp [skipEmpty, hne]
  | succ k ih =>
    have e : List.replicate k regEmpty ++ regEmpty :: above = List.replicate (k + 1) regEmpty ++ above := by
      rw [List.replicate_succ', List.append_assoc]
      rfl
    rw [← e, List.replicate_succ, List.cons_append, skipEmpty, if_pos (show isRegEmpty regEmpty = true from rfl), ih]

/-- The search for room for the root server starts at the last region that is free. -/
lemma placeRootserver_ok {size maxBits s s' t k} (hf : s.freemem = t ++ List.replicate k regEmpty)
    (ht : ∀ r ∈ t, r.start < r.stop) (h : placeRootserver cfg size maxBits s = .ok (true, s')) :
    fitRootserver cfg size maxBits t.reverse (List.replicate k regEmpty) = .ok (some s'.rootserverMem, s'.freemem) ∧
      s' = { s with freemem := s'.freemem, rootserverMem := s'.rootserverMem } := by
  have hrev : s.freemem.reverse = List.replicate k regEmpty ++ t.reverse := by
    rw [hf, List.reverse_append, List.reverse_replicate]
  unfold placeRootserver at h
  split at h
  · cases h
  rw [hrev, skipEmpty_replicate _ _ _ fun r hr => ht r (List.mem_reverse.mp hr), List.append_nil] at h
  obtain ⟨⟨taken, freemem⟩, hfit, h⟩ := bind_eq_ok.mp h
  cases taken with
  | none => cases h
  | some mem =>
    obtain ⟨-, rfl⟩ := Prod.ext_iff.mp (Except.ok.inj h)
    exact ⟨hfit, rfl⟩

lemma isRegEmpty_head {k : Nat} : ∀ next ∈ (List.replicate k regEmpty).head?, isRegEmpty next = true := by
  cases k with
  | zero => nofun
  | succ k => exact isRegEmpty_first

lemma placeRootserver_spec {size maxBits s s' t k} (hsize : size < 2 ^ 64)
    (hlist : s.freemem = t ++ List.replicate k regEmpty) (ht : ∀ r ∈ t, r.start < r.stop) (hf : Free s.freemem)
    (hw : ∀ r ∈ s.freemem, r.stop < 2 ^ 64) (h : placeRootserver cfg size maxBits s = .ok (true, s')) :
    s' = { s with freemem := s'.freemem, rootserverMem := s'.rootserverMem } ∧
      Carved s.freemem s'.freemem s'.rootserverMem := by
  obtain ⟨hfit, e⟩ := placeRootserver_ok hlist ht h
  refine ⟨e, ?_⟩
  have hrev : t.reverse.reverse ++ List.replicate k regEmpty = s.freemem := by
    rw [List.reverse_reverse, hlist]
  have c := fitRootserver_spec hsize (by rwa [hrev]) (fun r hr => hw r ?_) isRegEmpty_head hfit
  · rwa [hrev] at c
  · rw [hlist]
    exact List.mem_append_left _ (List.mem_reverse.mp hr)

/-- The root server is only placed when an entry is empty. -/
lemma placeRootserver_hasEmpty {size maxBits s s'} (h : placeRootserver cfg size maxBits s = .ok (true, s')) :
    HasEmpty s.freemem := by
  unfold placeRootserver at h
  split at h
  · cases h
  rename_i hlast
  cases hs : s.freemem with
  | nil =>
    rw [hs] at h
    cases h
  | cons r f =>
    rw [hs, List.getLastD_cons] at hlast
    exact ⟨_, List.getLast_mem (List.cons_ne_nil r f), by simpa [List.getLast_eq_getLastD] using hlast⟩

end Boot

end NexsKernel
