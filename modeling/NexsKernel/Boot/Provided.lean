import NexsKernel.Boot.Untypeds

/-!
# What the boot provides, as lists

For available regions with gaps between them, the free memory after the walk is the only table with its addresses. The
root server takes its memory from the last region in which it fits (`placeRootserver_fits`). When the tables have room,
`create_untypeds` provides the untypeds of the list `wanted`, in this order.
-/

namespace NexsKernel

namespace Boot

/-- What a step does to the free memory, whatever becomes of the table of reserved regions. -/
lemma perform_freemem {cfg p s s' f k} (hf : s.freemem = f ++ List.replicate k regEmpty)
    (hproper : ∀ r ∈ f, r.start < r.stop) (hp : p.reg.start < p.reg.stop) (h : perform cfg p s = .ok s')
    (hempty : HasEmpty s'.freemem) : ∃ k', s'.freemem = f ++ p.inserted.toList ++ List.replicate k' regEmpty := by
  cases p with
  | reserve reg =>
    obtain ⟨⟨b, s1⟩, h1, e⟩ := bind_eq_ok.mp h
    obtain rfl := Except.ok.inj e
    exact ⟨k, by rw [reserveRegion_freemem h1, hf]; simp [Piece.inserted]⟩
  | insert reg =>
    obtain ⟨⟨b, s1⟩, h1, e⟩ := bind_eq_ok.mp h
    obtain rfl := Except.ok.inj e
    obtain ⟨k, -, s2, -, -, rfl⟩ := insertRegion_ok hf hproper hp h1 hempty
    exact ⟨k, rfl⟩

/-- The free memory after a walk. -/
lemma performAll_freemem {cfg ps s s' f k} (hf : s.freemem = f ++ List.replicate k regEmpty)
    (hproper : ∀ r ∈ f, r.start < r.stop) (hps : ∀ p ∈ ps, p.reg.start < p.reg.stop)
    (h : performAll cfg ps s = .ok s') (hempty : HasEmpty s'.freemem) :
    ∃ k', s'.freemem = f ++ ps.filterMap Piece.inserted ++ List.replicate k' regEmpty := by
  induction ps generalizing s f k with
  | nil =>
    obtain rfl := Except.ok.inj h
    exact ⟨k, by rw [hf]; simp⟩
  | cons p ps ih =>
    obtain ⟨s1, h1, h⟩ := bind_eq_ok.mp h
    obtain ⟨k1, hk1⟩ := perform_freemem hf hproper (hps p (.head _)) h1 (performAll_hasEmpty h hempty)
    have hproper' : ∀ r ∈ f ++ p.inserted.toList, r.start < r.stop := by
      intro r hr
      rcases List.mem_append.mp hr with hr | hr
      · exact hproper r hr
      · cases p with
        | reserve => cases hr
        | insert reg =>
          obtain rfl := List.mem_singleton.mp hr
          exact hps (.insert r) (.head _)
    obtain ⟨k', hk'⟩ := ih hk1 hproper' (fun q hq => hps q (.tail _ hq)) h
    refine ⟨k', hk'.trans ?_⟩
    cases p <;> simp [List.filterMap_cons, Piece.inserted]

/-- Where the root server objects would start in a region. -/
def rootserverStart (size maxBits : Nat) (r : Region) : Nat :=
  roundDown (sub64 r.stop size) maxBits

/-- The test that a region has room for the root server. -/
def fits (size maxBits : Nat) (r : Region) : Prop :=
  sub64 r.stop size ≤ r.stop ∧ r.start ≤ rootserverStart size maxBits r

/-- The root server's part of a list of regions: the last region with room for it. -/
inductive Taken (size maxBits : Nat) (t : List Region) : Region → List Region → Prop where
  | mk {l r u} :
    t = l ++ r :: u →
    fits size maxBits r →
    (∀ s ∈ u, ¬ fits size maxBits s) →
    Taken size maxBits t ⟨rootserverStart size maxBits r, add64 (rootserverStart size maxBits r) size⟩
      (l ++ properRegions [⟨r.start, rootserverStart size maxBits r⟩,
        ⟨add64 (rootserverStart size maxBits r) size, r.stop⟩] ++ u)

lemma properRegions_of_proper {t : List Region} (h : ∀ r ∈ t, r.start < r.stop) : properRegions t = t :=
  List.filter_eq_self.mpr fun r hr => decide_eq_true (h r hr)

lemma properRegions_append (t u : List Region) : properRegions (t ++ u) = properRegions t ++ properRegions u :=
  List.filter_append ..

lemma properRegions_empty {r t} (h : isRegEmpty r = true) : properRegions (r :: t) = properRegions t :=
  properRegions_cons_of_not_lt (by have := eq_of_beq h; omega)

/-- The search for the root server's part, `moved` being the regions that have been moved up. -/
lemma fitRootserver_taken {cfg size maxBits below above moved mem f'} (hb : ∀ r ∈ below, r.start < r.stop)
    (hm : properRegions above = moved) (hno : ∀ s ∈ moved, ¬ fits size maxBits s)
    (hnext : ∀ next ∈ above.head?, isRegEmpty next = true)
    (h : fitRootserver cfg size maxBits below above = .ok (some mem, f')) :
    Taken size maxBits (below.reverse ++ moved) mem (properRegions f') := by
  induction below generalizing above moved with
  | nil => cases h
  | cons r below ih =>
    cases above with
    | nil =>
      obtain ⟨u, -, h⟩ := bind_eq_ok.mp h
      cases h
    | cons next above =>
      obtain ⟨u, -, h⟩ := bind_eq_ok.mp h
      have hempty := hnext next rfl
      rw [properRegions_empty hempty] at hm
      have hr := hb r (.head _)
      dsimp only at h
      split at h
      · rename_i hfit
        obtain ⟨hmem, rfl⟩ := Prod.ext_iff.mp (Except.ok.inj h)
        obtain rfl := Option.some.inj hmem
        have hb' : ∀ s ∈ below.reverse, s.start < s.stop := fun s hs => hb s (.tail _ (List.mem_reverse.mp hs))
        have e : properRegions (below.reverse ++ ⟨r.start, rootserverStart size maxBits r⟩ ::
            ⟨add64 (rootserverStart size maxBits r) size, r.stop⟩ :: above) =
            below.reverse ++ properRegions [⟨r.start, rootserverStart size maxBits r⟩,
              ⟨add64 (rootserverStart size maxBits r) size, r.stop⟩] ++ moved := by
          rw [properRegions_append, properRegions_of_proper hb', List.append_assoc, ← hm, ← properRegions_append]
          rfl
        change Taken _ _ _ _ (properRegions (below.reverse ++ ⟨r.start, rootserverStart size maxBits r⟩ ::
          ⟨add64 (rootserverStart size maxBits r) size, r.stop⟩ :: above))
        rw [e]
        exact .mk (by simp) hfit hno
      · rename_i hfit
        have hm' : properRegions (regEmpty :: r :: above) = r :: moved := by
          rw [properRegions_empty rfl, properRegions_cons_of_lt hr, hm]
        have hno' : ∀ s ∈ r :: moved, ¬ fits size maxBits s := by
          intro s hs
          rcases List.mem_cons.mp hs with rfl | hs
          · exact hfit
          · exact hno s hs
        simpa using ih (fun s hs => hb s (.tail _ hs)) hm' hno' isRegEmpty_first h

/-- The root server takes its memory from the last region with room for it. -/
lemma placeRootserver_taken {cfg size maxBits s s' t k} (hf : s.freemem = t ++ List.replicate k regEmpty)
    (ht : ∀ r ∈ t, r.start < r.stop) (h : placeRootserver cfg size maxBits s = .ok (true, s')) :
    Taken size maxBits t s'.rootserverMem (properRegions s'.freemem) := by
  obtain ⟨hfit, -⟩ := placeRootserver_ok hf ht h
  have hrt : ∀ r ∈ t.reverse, r.start < r.stop := fun r hr => ht r (List.mem_reverse.mp hr)
  have hrep : properRegions (List.replicate k regEmpty) = [] := by
    apply List.filter_eq_nil_iff.mpr
    intro r hr
    rw [(List.mem_replicate.mp hr).2]
    decide
  simpa using fitRootserver_taken hrt hrep nofun isRegEmpty_head hfit

/-- The untypeds that a region is cut into. -/
def untypedsOf (deviceMemory : Bool) (reg : Region) : List (Bool × Nat × Nat) :=
  if h : sub64 reg.stop reg.start = 0 then []
  else
    let sizeBits := untypedSizeBits reg
    let rest := untypedsOf deviceMemory { reg with start := add64 reg.start (2 ^ sizeBits) }
    if minUntypedBits ≤ sizeBits then (deviceMemory, sizeBits, reg.start) :: rest else rest
termination_by sub64 reg.stop reg.start
decreasing_by
  have := sub64_next h
  have : 0 < 2 ^ untypedSizeBits reg := by positivity
  omega

lemma untypedSizeBits_le_max (reg : Region) : untypedSizeBits reg ≤ maxUntypedBits := by
  unfold untypedSizeBits
  dsimp only
  split <;> omega

/-- An untyped is for a device if the region is, and is not too large. -/
lemma untypedsOf_mem {d : Bool} {reg : Region} : ∀ c ∈ untypedsOf d reg, c.1 = d ∧ c.2.1 ≤ maxUntypedBits := by
  induction reg using untypedsOf.induct d with
  | case1 reg h =>
    rw [untypedsOf, dif_pos h]
    nofun
  | case2 reg h sizeBits hmin ih =>
    rw [untypedsOf, dif_neg h]
    dsimp only
    rw [if_pos hmin]
    exact List.forall_mem_cons.mpr ⟨⟨rfl, untypedSizeBits_le_max reg⟩, ih⟩
  | case3 reg h sizeBits hmin ih =>
    rw [untypedsOf, dif_neg h]
    dsimp only
    rw [if_neg hmin]
    exact ih

/-- The device untypeds between the reserved regions, and above them. -/
def deviceUntypeds (cfg : BootConfig) : Nat → List Region → List (Bool × Nat × Nat)
  | start, [] =>
    if start < cfg.paddrUserDeviceTop then untypedsOf true (paddrToPptrReg cfg ⟨start, cfg.paddrUserDeviceTop⟩) else []
  | start, r :: rs =>
    (if start < r.start then untypedsOf true (paddrToPptrReg cfg ⟨start, r.start⟩) else []) ++
      deviceUntypeds cfg r.stop rs

lemma deviceUntypeds_device {cfg : BootConfig} {start : Nat} {rs : List Region} :
    ∀ c ∈ deviceUntypeds cfg start rs, c.1 = true := by
  induction rs generalizing start with
  | nil =>
    rw [deviceUntypeds]
    split
    · exact fun c hc => (untypedsOf_mem c hc).1
    · nofun
  | cons r rs ih =>
    rw [deviceUntypeds]
    intro c hc
    rcases List.mem_append.mp hc with hc | hc
    · split at hc
      · exact (untypedsOf_mem c hc).1
      · cases hc
    · exact ih c hc

/-- The untypeds that `create_untypeds` makes, in their order. -/
def wanted (cfg : BootConfig) (s : NdksBoot) : List (Bool × Nat × Nat) :=
  deviceUntypeds cfg 0 s.reserved ++
    (untypedsOf false (paddrToPptrReg cfg cfg.kernelImgBoot) ++ s.freemem.flatMap (untypedsOf false))

/-- The root CNode and the boot info have room for so many untypeds more. -/
structure Room (cfg : BootConfig) (first slot count : Nat) : Prop where
  first_le : first ≤ slot
  cnode : slot + count ≤ 2 ^ cfg.rootCNodeSizeBits
  bootInfo : slot + count ≤ first + cfg.maxNumBootinfoUntypedCaps
  word : slot + count < 2 ^ 64

/-- A function that provides these untypeds when there is room for them. -/
def Provides (cfg : BootConfig) (first : Nat) (new : List (Bool × Nat × Nat)) (m : Handout Unit) : Prop :=
  ∀ s, Room cfg first s.slotPosCur new.length →
    ∃ s', m s = .ok () s' ∧ s'.untypeds = s.untypeds ++ new ∧ s'.slotPosCur = s.slotPosCur + new.length

namespace Provides

variable {cfg : BootConfig} {first : Nat}

lemma pure : Provides cfg first [] (Pure.pure ()) := fun s _ => ⟨s, rfl, (List.append_nil _).symm, rfl⟩

/-- One function after the other provides what both do, in this order. -/
lemma bind {new new' m} {f : Unit → Handout Unit} (hm : Provides cfg first new m)
    (hf : Provides cfg first new' (f ())) :
    Provides cfg first (new ++ new') (m >>= f) := by
  intro s room
  rw [List.length_append] at room
  obtain ⟨h1, h2, h3, h4⟩ := room
  obtain ⟨s1, e1, hu1, hs1⟩ := hm s ⟨h1, by omega, by omega, by omega⟩
  obtain ⟨s2, e2, hu2, hs2⟩ := hf s1 ⟨by omega, by omega, by omega, by omega⟩
  refine ⟨s2, ?_, ?_, ?_⟩
  · rw [Failing.bind_ok e1, e2]
  · rw [hu2, hu1, List.append_assoc]
  · rw [hs2, hs1, List.length_append, Nat.add_assoc]

end Provides

variable {cfg : BootConfig} {first : Nat}

/-- An aligned untyped of a valid size, which lies in the kernel window if it is not for a device. -/
lemma provideUntypedCap_provides {d : Bool} {sizeBits pptr : Nat} (hmin : minUntypedBits ≤ sizeBits)
    (hmax : sizeBits ≤ maxUntypedBits) (hdvd : 2 ^ sizeBits ∣ pptr)
    (hw : d = false → pptrInKernelWindow cfg pptr = true ∧
      pptrInKernelWindow cfg (add64 pptr (2 ^ sizeBits - 1)) = true) :
    Provides cfg first [(d, sizeBits, pptr)] (provideUntypedCap cfg d pptr sizeBits first) := by
  have h1 : ¬ (!d && !pptrInKernelWindow cfg pptr) = true := by
    cases d with
    | true => simp
    | false => simp [(hw rfl).1]
  have h2 : ¬ (!d && !pptrInKernelWindow cfg (add64 pptr (2 ^ sizeBits - 1))) = true := by
    cases d with
    | true => simp
    | false => simp [(hw rfl).2]
  intro s room
  obtain ⟨hfirst, hcnode, hinfo, hword⟩ := room
  rw [List.length_singleton] at hcnode hinfo hword
  have hroom : sub64 s.slotPosCur first < cfg.maxNumBootinfoUntypedCaps := by
    rw [sub64_eq hfirst (by omega)]
    omega
  have e : provideUntypedCap cfg d pptr sizeBits first s = (if sub64 s.slotPosCur first < cfg.maxNumBootinfoUntypedCaps
      then provideCap cfg (d, sizeBits, pptr) else Pure.pure () : Handout Unit) s := by
    unfold provideUntypedCap
    rw [if_neg (by omega), if_neg (by rw [Nat.mod_eq_zero_of_dvd hdvd]; simp), if_neg h1, if_neg h2]
    rfl
  have e' : provideCap cfg (d, sizeBits, pptr) s = (if 2 ^ cfg.rootCNodeSizeBits ≤ s.slotPosCur then
      MonadExcept.throw () else modify fun s =>
        { s with slotPosCur := s.slotPosCur + 1, untypeds := s.untypeds ++ [(d, sizeBits, pptr)] } :
      Handout Unit) s := rfl
  rw [e, if_pos hroom, e', if_neg (by omega)]
  exact ⟨_, rfl, rfl, rfl⟩

lemma two_pow_untypedSizeBits_dvd (reg : Region) : 2 ^ untypedSizeBits reg ∣ reg.start := by
  by_cases hzero : reg.start = 0
  · rw [hzero]
    exact Nat.dvd_zero _
  · apply (pow_dvd_pow 2 _).trans (two_pow_ctzl_dvd reg.start)
    unfold untypedSizeBits
    rw [if_pos hzero]
    exact Nat.min_le_right _ _

/-- A region of the kernel window. -/
structure InWindow (cfg : BootConfig) (reg : Region) : Prop where
  base_le : cfg.pptrBase ≤ reg.start
  valid : reg.start ≤ reg.stop
  le_top : reg.stop ≤ cfg.pptrTop

lemma InWindow.next {reg : Region} (w : InWindow cfg reg) (h : sub64 reg.stop reg.start ≠ 0) :
    reg.start + 2 ^ untypedSizeBits reg ≤ reg.stop ∧
      add64 reg.start (2 ^ untypedSizeBits reg) = reg.start + 2 ^ untypedSizeBits reg := by
  have hle := two_pow_untypedSizeBits_le h
  have := w.valid
  have := w.le_top
  have := cfg.pptrTop_lt
  have e : sub64 reg.stop reg.start = reg.stop - reg.start := sub64_eq w.valid (by omega)
  have hpos : 0 < 2 ^ untypedSizeBits reg := by positivity
  refine ⟨by omega, add64_eq (by omega)⟩

/-- What is left of a region behind an untyped. -/
lemma InWindow.rest {reg : Region} (w : InWindow cfg reg) (h : sub64 reg.stop reg.start ≠ 0) :
    InWindow cfg { reg with start := add64 reg.start (2 ^ untypedSizeBits reg) } := by
  obtain ⟨hle, e⟩ := w.next h
  rw [e]
  exact ⟨w.base_le.trans (Nat.le_add_right _ _), hle, w.le_top⟩

lemma createUntypedsForRegion_provides (d : Bool) {reg : Region} (hw : d = false → InWindow cfg reg) :
    Provides cfg first (untypedsOf d reg) (createUntypedsForRegion cfg d reg first) := by
  induction reg using createUntypedsForRegion.induct with
  | case1 reg h =>
    rw [createUntypedsForRegion, dif_pos h, untypedsOf, dif_pos h]
    exact .pure
  | case2 reg h sizeBits hmin ih =>
    rw [createUntypedsForRegion, dif_neg h, untypedsOf, dif_neg h]
    dsimp only
    rw [if_pos hmin, if_pos hmin]
    change Provides cfg first ([(d, sizeBits, reg.start)] ++ untypedsOf d _) _
    apply Provides.bind (provideUntypedCap_provides hmin (untypedSizeBits_le_max reg)
      (two_pow_untypedSizeBits_dvd reg) fun hd => ?_) (ih fun hd => (hw hd).rest h)
    -- the last address of the untyped is in the window as well
    have hle : reg.start + 2 ^ sizeBits ≤ reg.stop := ((hw hd).next h).1
    have := (hw hd).base_le
    have := (hw hd).le_top
    have := cfg.pptrTop_lt
    have hpos : 0 < 2 ^ sizeBits := by positivity
    have e : add64 reg.start (2 ^ sizeBits - 1) = reg.start + (2 ^ sizeBits - 1) := add64_eq (by omega)
    rw [e]
    simp only [pptrInKernelWindow, Bool.and_eq_true, decide_eq_true_eq]
    omega
  | case3 reg h sizeBits hmin ih =>
    rw [createUntypedsForRegion, dif_neg h, untypedsOf, dif_neg h]
    dsimp only
    rw [if_neg hmin, if_neg hmin]
    exact ih fun hd => (hw hd).rest h

lemma createDeviceUntypeds_provides (start : Nat) (rs : List Region) :
    Provides cfg first (deviceUntypeds cfg start rs) (createDeviceUntypeds cfg first start rs) := by
  induction rs generalizing start with
  | nil =>
    unfold createDeviceUntypeds createTopUntypeds deviceUntypeds
    split
    · exact createUntypedsForRegion_provides true (by simp)
    · exact .pure
  | cons r rs ih =>
    unfold createDeviceUntypeds deviceUntypeds
    split
    · exact .bind (createUntypedsForRegion_provides true (by simp)) (ih r.stop)
    · rw [List.nil_append]
      exact ih r.stop

/-- The free regions that are left are handed out. -/
lemma createFreeUntypeds_provides (cleared : List Region) {rest : List Region}
    (hw : ∀ r ∈ rest, InWindow cfg r ∨ r.start = r.stop) :
    Provides cfg first (rest.flatMap (untypedsOf false)) (createFreeUntypeds cfg first cleared rest) := by
  induction rest generalizing cleared with
  | nil => exact .pure
  | cons reg rest ih =>
    have hmodify : Provides cfg first [] (modify fun s => { s with freemem := cleared ++ regEmpty :: rest } :
        Handout Unit) := fun s _ => ⟨_, rfl, (List.append_nil _).symm, rfl⟩
    have hreg : Provides cfg first (untypedsOf false reg) (createUntypedsForRegion cfg false reg first) := by
      rcases hw reg (.head _) with h | h
      · exact createUntypedsForRegion_provides false fun _ => h
      · -- nothing is left of an empty region
        have hz : sub64 reg.stop reg.start = 0 := by
          unfold sub64
          omega
        rw [createUntypedsForRegion, dif_pos hz, untypedsOf, dif_pos hz]
        exact .pure
    change Provides cfg first ([] ++ (untypedsOf false reg ++ rest.flatMap (untypedsOf false))) _
    exact .bind hmodify (.bind hreg (ih _ fun r hr => hw r (.tail _ hr)))

/-- With room in the tables, `create_untypeds` provides all the untypeds that it makes. -/
theorem createUntypeds_wanted (s : NdksBoot) (himg : InWindow cfg (paddrToPptrReg cfg cfg.kernelImgBoot))
    (hw : ∀ r ∈ s.freemem, InWindow cfg r ∨ r.start = r.stop)
    (room : Room cfg s.slotPosCur s.slotPosCur (wanted cfg s).length) :
    ∃ s', createUntypeds cfg s = .ok () s' ∧ s'.untypeds = s.untypeds ++ wanted cfg s := by
  have h : Provides cfg s.slotPosCur (wanted cfg s) (do
      createDeviceUntypeds cfg s.slotPosCur 0 s.reserved
      createUntypedsForRegion cfg false (paddrToPptrReg cfg cfg.kernelImgBoot) s.slotPosCur
      createFreeUntypeds cfg s.slotPosCur [] s.freemem) :=
    .bind (createDeviceUntypeds_provides 0 s.reserved)
      (.bind (createUntypedsForRegion_provides false fun _ => himg) (createFreeUntypeds_provides [] hw))
  obtain ⟨s', e, hu, -⟩ := h s room
  exact ⟨s', e, hu⟩

end Boot

end NexsKernel
