import NexsKernel.Boot.Arm
import NexsKernel.Boot.Provided
import NexsKernel.Boot.Split
import NexsKernel.Tool.KernelBoot

/-!
# The tool's boot and the kernel's boot

The kernel cuts the reserved regions out of the available ones in one walk over kernel virtual addresses; the tool
removes them one by one from a set of physical regions. Both end with a table of regions, and a table is determined by
its addresses. From then on the two go the same way: they try the regions from the last one on for the root server
objects, and cut what is left into aligned powers of two.
-/

namespace NexsKernel

namespace Tool

open Boot

/-- The constants of the tool's configuration are those of the kernel's, for AArch64. -/
structure SameBoard (cfg : BootConfig) (kernelImg : Region) (config : Config) (elf : KernelElf) : Prop where
  pptrBase : cfg.pptrBase = config.virtualBase
  pptrBaseOffset : cfg.pptrBaseOffset = cfg.pptrBase
  pptrTop : cfg.pptrTop = if config.hypervisor then 0x000000ffc0000000 else 0xffffffffc0000000
  initCnodeBits : config.initCnodeBits = cfg.rootCNodeSizeBits
  /-- `root_cnode_size_valid`. -/
  rootCNode_le : cfg.rootCNodeSizeBits < 32 - slotBits
  rootCNode_ge : pageBits - slotBits ≤ cfg.rootCNodeSizeBits
  tcb : config.objectSizes.tcb = cfg.tcbBits
  tcbBits : cfg.tcbBits = 11 ∨ cfg.tcbBits = 12
  vspace : config.objectSizes.vspace = cfg.vspaceBits
  vspaceBits : cfg.vspaceBits = if config.aarch64VspaceS2StartL1 then 13 else 12
  smallPage : config.objectSizes.smallPage = pageBits
  pageTable : config.objectSizes.pageTable = pageTableBits
  selfMem : kernelSelfMem elf = kernelImg
  bootMem : kernelBootMem elf = cfg.kernelImgBoot

/-- A region whose ends are page-aligned. -/
def PageAligned (r : Region) : Prop :=
  2 ^ pageBits ∣ r.start ∧ 2 ^ pageBits ∣ r.stop

/-- The normal memory of a board, with the kernel image and the initial task in it. -/
structure MemoryMap (cfg : BootConfig) (regions : List Region) (kernelImg task : Region) : Prop where
  table : Table regions
  aligned : ∀ r ∈ regions, PageAligned r
  window : ∀ r ∈ regions, r.stop ≤ cfg.paddrTop
  image_proper : kernelImg.start < kernelImg.stop ∧ PageAligned kernelImg
  image_mem : ∃ r ∈ regions, r.start ≤ kernelImg.start ∧ kernelImg.stop ≤ r.stop
  task_proper : task.start < task.stop ∧ PageAligned task
  task_mem : ∃ r ∈ regions, r.start ≤ task.start ∧ task.stop ≤ r.stop
  boot : kernelImg.start ≤ cfg.kernelImgBoot.start ∧ cfg.kernelImgBoot.start ≤ cfg.kernelImgBoot.stop ∧
    cfg.kernelImgBoot.stop ≤ kernelImg.stop
  boot_aligned : PageAligned cfg.kernelImgBoot

/-! ## Paging structures and the size of the root server -/

lemma roundDown_eq (n bits : Nat) : roundDown n (2 ^ bits) = Boot.roundDown n bits := by
  have h := Nat.div_add_mod' n (2 ^ bits)
  unfold roundDown Boot.roundDown
  dsimp only
  split <;> omega

lemma roundUp_eq {n bits : Nat} (hn : n < 2 ^ 64) (hbits : bits = 21 ∨ bits = 30 ∨ bits = 39) :
    roundUp n (2 ^ bits) = Boot.roundUp n bits := by
  unfold roundUp Boot.roundUp add64 sub64
  dsimp only
  rcases hbits with rfl | rfl | rfl <;> split <;> omega

lemma getNPaging_eq {r : Region} {bits : Nat} (hr : r.stop < 2 ^ 64) (hbits : bits = 21 ∨ bits = 30 ∨ bits = 39) :
    getNPaging r bits = Boot.getNPaging r bits := by
  unfold getNPaging Boot.getNPaging
  rw [roundUp_eq hr hbits, roundDown_eq]

/-- The tool and the kernel count the same paging structures. -/
lemma getArchNPaging_eq (config : Config) {r : Region} (hr : r.stop < 2 ^ 64) :
    getArchNPaging config r = archGetNPaging config.aarch64VspaceS2StartL1 r := by
  have h0 : getNPaging r 39 = Boot.getNPaging r (armPgSizeBits 0) := getNPaging_eq hr (.inr (.inr rfl))
  have h1 : getNPaging r 30 = Boot.getNPaging r (armPgSizeBits 1) := getNPaging_eq hr (.inr (.inl rfl))
  have h2 : getNPaging r 21 = Boot.getNPaging r (armPgSizeBits 2) := getNPaging_eq hr (.inl rfl)
  unfold getArchNPaging archGetNPaging
  dsimp only
  rw [h0, h1, h2]

variable {cfg : BootConfig} {config : Config} {elf : KernelElf} {kernelImg task : Region}

/-- The region of the initial task, as the tool and the kernel work it out. -/
lemma initialTaskVirtRegion_eq (r : Region) : initialTaskVirtRegion r = itVReg r 0 := by
  unfold initialTaskVirtRegion itVReg
  have h : add64 (add64 (add64 r.stop (2 ^ pageBits)) (2 ^ bootInfoFrameBits)) 0 =
      add64 (add64 r.stop smallPageSize) smallPageSize := by
    unfold add64 bootInfoFrameBits pageBits smallPageSize
    omega
  dsimp only [lt_irrefl, if_false]
  rw [if_neg (lt_irrefl 0), h]

lemma itVReg_stop_lt (r : Region) : (itVReg r 0).stop < 2 ^ 64 :=
  Nat.mod_lt _ (by norm_num)

namespace SameBoard

/-- The root server is of one size in both. -/
lemma rootserverSize (b : SameBoard cfg kernelImg config elf) (r : Region) :
    calculateRootserverSize config (itVReg r 0) =
      Boot.calculateRootserverSize cfg (archGetNPaging config.aarch64VspaceS2StartL1 (itVReg r 0)) 0 := by
  unfold calculateRootserverSize Boot.calculateRootserverSize
  dsimp only
  rw [getArchNPaging_eq config (itVReg_stop_lt r), b.initCnodeBits, b.tcb, b.vspace, b.smallPage, b.pageTable,
    if_neg (lt_irrefl 0), show slotBits = 5 from rfl, show asidPoolBits = 12 from rfl,
    show minSchedContextBits = 7 from rfl, show bootInfoFrameBits = pageBits from rfl]
  congr 1
  omega

lemma rootserverMaxSizeBits (b : SameBoard cfg kernelImg config elf) :
    Tool.rootserverMaxSizeBits config = Boot.rootserverMaxSizeBits cfg 0 := by
  unfold Tool.rootserverMaxSizeBits Boot.rootserverMaxSizeBits
  dsimp only
  rw [b.initCnodeBits, b.vspace, Nat.max_zero, show slotBits = 5 from rfl]

lemma vspaceBits_eq (b : SameBoard cfg kernelImg config elf) : cfg.vspaceBits = 12 ∨ cfg.vspaceBits = 13 := by
  rw [b.vspaceBits]
  split
  · exact .inr rfl
  · exact .inl rfl

/-- The alignment of the root server is at least a page, and divides the offset of the kernel window. -/
lemma maxSizeBits_bounds (b : SameBoard cfg kernelImg config elf) :
    pageBits ≤ Boot.rootserverMaxSizeBits cfg 0 ∧ Boot.rootserverMaxSizeBits cfg 0 ≤ 39 := by
  have h1 := b.rootCNode_le
  have h2 := b.rootCNode_ge
  have h3 := b.vspaceBits_eq
  unfold Boot.rootserverMaxSizeBits
  rw [show slotBits = 5 from rfl, show pageBits = 12 from rfl] at *
  omega

lemma offset_eq (b : SameBoard cfg kernelImg config elf) : cfg.pptrBaseOffset = config.virtualBase :=
  b.pptrBaseOffset.trans b.pptrBase

lemma two_pow_dvd_offset (b : SameBoard cfg kernelImg config elf) {k : Nat} (hk : k ≤ 39) :
    2 ^ k ∣ cfg.pptrBaseOffset := by
  apply (pow_dvd_pow 2 hk).trans
  rw [b.offset_eq]
  unfold Config.virtualBase
  split <;> decide

/-- All the objects but the scheduling context are multiples of the smaller size of a TCB. -/
lemma rootserverSize_form (b : SameBoard cfg kernelImg config elf) (n : Nat) :
    ∃ q, Boot.calculateRootserverSize cfg n 0 = 2 ^ 11 * q + 2 ^ 7 := by
  have hroot : 11 ≤ cfg.rootCNodeSizeBits + slotBits := by
    have := b.rootCNode_ge
    rw [show slotBits = 5 from rfl, show pageBits = 12 from rfl] at *
    omega
  have htcb : 11 ≤ cfg.tcbBits := by
    have := b.tcbBits
    omega
  have hvspace : 11 ≤ cfg.vspaceBits := by
    have := b.vspaceBits_eq
    omega
  obtain ⟨q1, h1⟩ := pow_dvd_pow 2 hroot
  obtain ⟨q2, h2⟩ := pow_dvd_pow 2 htcb
  obtain ⟨q3, h3⟩ := pow_dvd_pow 2 hvspace
  unfold Boot.calculateRootserverSize
  rw [if_neg (lt_irrefl 0), h1, h2, h3, show pageBits = 12 from rfl, show bootInfoFrameBits = 12 from rfl,
    show asidPoolBits = 12 from rfl, show minSchedContextBits = 7 from rfl, show pageTableBits = 12 from rfl]
  refine ⟨(q1 + q2 + 2 + 2 + 2 + q3 + n * 2) % 2 ^ 53, ?_⟩
  omega

lemma rootserverSize_lt (cfg : BootConfig) (n : Nat) : Boot.calculateRootserverSize cfg n 0 < 2 ^ 64 :=
  Nat.mod_lt _ (by norm_num)

end SameBoard

/-! ## The free memory -/

/-- An address of the physical memory in the kernel window, at the end of a page. -/
def PageEnd (cfg : BootConfig) (x : Nat) : Prop :=
  2 ^ pageBits ∣ x ∧ x ≤ cfg.paddrTop

lemma paddrToPptrReg_eq {r : Region} (hle : r.start ≤ r.stop) (hr : r.stop ≤ cfg.paddrTop) :
    paddrToPptrReg cfg r = r.shift cfg.pptrBaseOffset := by
  have h := BootConfig.paddrTop_eq cfg
  have := cfg.pptrTop_lt
  unfold paddrToPptrReg Region.shift
  rw [add64_eq (by omega), add64_eq (by omega)]

namespace MemoryMap

variable {regions : List Region}

lemma ends (m : MemoryMap cfg regions kernelImg task) : ∀ r ∈ regions, PageEnd cfg r.start ∧ PageEnd cfg r.stop := by
  intro r hr
  have h1 := m.aligned r hr
  have h2 := m.window r hr
  exact ⟨⟨h1.1, (m.table.proper r hr).le.trans h2⟩, h1.2, h2⟩

lemma image_le (m : MemoryMap cfg regions kernelImg task) : kernelImg.stop ≤ cfg.paddrTop := by
  obtain ⟨r, hr, -, hle⟩ := m.image_mem
  exact hle.trans (m.window r hr)

lemma task_le (m : MemoryMap cfg regions kernelImg task) : task.stop ≤ cfg.paddrTop := by
  obtain ⟨r, hr, -, hle⟩ := m.task_mem
  exact hle.trans (m.window r hr)

/-- The kernel sees the memory of the board at an offset. -/
lemma availReg_eq_shift (m : MemoryMap cfg regions kernelImg task) :
    regions.map (availReg cfg) = regions.map (Region.shift cfg.pptrBaseOffset) := by
  have heq := BootConfig.paddrTop_eq cfg
  have htop := cfg.pptrTop_lt
  apply List.map_congr_left
  intro r hr
  have h1 := m.window r hr
  have h2 := m.table.proper r hr
  rw [availReg_eq (by omega) (by omega), Nat.min_eq_left (by omega), Nat.min_eq_left h1]
  rfl

/-- The tool can remove the image and the task, and knows what is left. -/
lemma removed (m : MemoryMap cfg regions kernelImg task) (hlt : kernelImg.stop ≤ task.start) :
    ∃ p1 p, removeRegion kernelImg.start kernelImg.stop regions = .ok p1 ∧
      removeRegion task.start task.stop p1 = .ok p ∧ Table p ∧
      (∀ x, x ∈ cover p ↔ x ∈ cover regions ∧ x ∉ kernelImg ∧ x ∉ task) ∧
      ∀ r ∈ p, PageEnd cfg r.start ∧ PageEnd cfg r.stop := by
  have sub : ∀ {a : Region}, (∃ r ∈ regions, r.start ≤ a.start ∧ a.stop ≤ r.stop) → ∀ x, a.start ≤ x → x < a.stop →
      x ∈ cover regions := by
    rintro a ⟨r, hr, h1, h2⟩ x hx hx'
    exact ⟨r, hr, h1.trans hx, hx'.trans_le h2⟩
  obtain ⟨p1, e1, r1⟩ := removeRegion_table (PageEnd cfg) m.table m.image_proper.1 (sub m.image_mem)
  have hsub : ∀ x, task.start ≤ x → x < task.stop → x ∈ cover p1 := by
    intro x hx hx'
    rw [r1.cover]
    refine ⟨sub m.task_mem x hx hx', fun h => ?_⟩
    exact (h.2.trans_le (hlt.trans hx)).false
  obtain ⟨p, e, r⟩ := removeRegion_table (PageEnd cfg) r1.table m.task_proper.1 hsub
  have himg := m.image_proper
  have htask := m.task_proper
  refine ⟨p1, p, e1, e, r.table, fun x => ?_, ?_⟩
  · rw [r.cover, r1.cover, and_assoc]
  · apply r.ends (r1.ends m.ends _ _) _ _
    · exact ⟨himg.2.1, himg.1.le.trans m.image_le⟩
    · exact ⟨himg.2.2, m.image_le⟩
    · exact ⟨htask.2.1, htask.1.le.trans m.task_le⟩
    · exact ⟨htask.2.2, m.task_le⟩

/-- The kernel's walk ends with the memory that the tool has left, at the offset of the kernel window. -/
lemma walked (m : MemoryMap cfg regions kernelImg task) {nPaging extraBits s s'}
    (h : initFreemem cfg regions [paddrToPptrReg cfg kernelImg, paddrToPptrReg cfg task] nPaging extraBits s =
      .ok (true, s')) :
    kernelImg.stop ≤ task.start ∧ ∃ s1 k,
      (∀ p, Table p → (∀ x, x ∈ cover p ↔ x ∈ cover regions ∧ x ∉ kernelImg ∧ x ∉ task) →
        s1.freemem = p.map (Region.shift cfg.pptrBaseOffset) ++ List.replicate k regEmpty) ∧
      placeRootserver cfg (Boot.calculateRootserverSize cfg nPaging extraBits)
        (Boot.rootserverMaxSizeBits cfg extraBits) s1 = .ok (true, s') := by
  obtain ⟨-, hr, s1, hwalk, hplace⟩ := initFreemem_ok h
  have himg := m.image_proper.1
  have htask := m.task_proper.1
  rw [paddrToPptrReg_eq himg.le m.image_le, paddrToPptrReg_eq htask.le m.task_le] at hr hwalk
  rw [m.availReg_eq_shift] at hwalk
  have or := checkReservedMemory_spec hr
  have hlt : kernelImg.stop ≤ task.start := by
    have := or.le_start (List.mem_singleton_self _)
    simp only [Region.shift] at this
    omega
  have table := m.table.shift cfg.pptrBaseOffset
  have oa : InOrder (regions.map (Region.shift cfg.pptrBaseOffset)) :=
    ⟨fun r hr => (table.proper r hr).le, table.apart.imp fun hlt => le_of_lt hlt⟩
  have cut := pieces_cut oa or
  have hproper := fun p hp => cut.ascending.proper (Piece.reg p) (List.mem_map_of_mem hp)
  obtain ⟨k, hk⟩ := performAll_freemem (f := []) rfl (by simp) hproper hwalk (placeRootserver_hasEmpty hplace)
  refine ⟨hlt, s1, k, fun p hp hcover => ?_, hplace⟩
  rw [hk, List.nil_append]
  congr 1
  apply ((pieces_cut oa or).table table.apart).eq_of_cover (hp.shift cfg.pptrBaseOffset)
  intro x
  rw [cut.inserted, mem_cover_shift, mem_cover_shift, hcover, and_assoc]
  apply and_congr_right
  intro hle
  apply and_congr_right
  intro _
  simp only [mem_cover_cons, mem_cover_nil, Region.mem_iff, Region.shift, or_false]
  omega

end MemoryMap

/-! ## The root server -/

/-- The kernel's root server starts where the tool's does, at the offset of the kernel window. -/
lemma rootserverStart_shift {bytes maxBits : Nat} {r : Region} (hV : 2 ^ maxBits ∣ cfg.pptrBaseOffset)
    (hle : bytes ≤ r.stop) (hr : r.stop ≤ cfg.paddrTop) :
    rootserverStart bytes maxBits (r.shift cfg.pptrBaseOffset) =
      objectsStart bytes maxBits r + cfg.pptrBaseOffset := by
  have heq := BootConfig.paddrTop_eq cfg
  have htop := cfg.pptrTop_lt
  obtain ⟨q, hq⟩ := hV
  have e1 : sub64 (r.stop + cfg.pptrBaseOffset) bytes = (r.stop - bytes) + cfg.pptrBaseOffset := by
    rw [sub64_eq (by omega) (by omega)]
    omega
  have e2 : sub64 r.stop bytes = r.stop - bytes := sub64_eq hle (by omega)
  unfold rootserverStart objectsStart
  rw [roundDown_eq, e2]
  change Boot.roundDown (sub64 (r.stop + cfg.pptrBaseOffset) bytes) maxBits = _
  rw [e1]
  unfold Boot.roundDown
  rw [hq, Nat.add_mul_div_left _ _ (by positivity), Nat.add_mul, Nat.mul_comm q]

lemma objectsStart_le {bytes maxBits : Nat} {r : Region} (hle : bytes ≤ r.stop) (hr : r.stop < 2 ^ 64) :
    objectsStart bytes maxBits r + bytes ≤ r.stop := by
  have h : Boot.roundDown (sub64 r.stop bytes) maxBits ≤ sub64 r.stop bytes := Nat.div_mul_le_self _ _
  rw [sub64_eq hle hr] at h
  unfold objectsStart
  rw [roundDown_eq, sub64_eq hle hr]
  omega

/-- The kernel finds room in a region if and only if it does not end below the size, and the tool finds room. -/
lemma fits_shift_iff {bytes maxBits : Nat} {r : Region} (hV : 2 ^ maxBits ∣ cfg.pptrBaseOffset)
    (hbytes : bytes < 2 ^ 64) (hr : r.stop ≤ cfg.paddrTop) :
    Boot.fits bytes maxBits (r.shift cfg.pptrBaseOffset) ↔ bytes ≤ r.stop ∧ r.start ≤ objectsStart bytes maxBits r := by
  have heq := BootConfig.paddrTop_eq cfg
  have htop := cfg.pptrTop_lt
  have hdown : Boot.roundDown (sub64 (r.stop + cfg.pptrBaseOffset) bytes) maxBits ≤
      sub64 (r.stop + cfg.pptrBaseOffset) bytes := Nat.div_mul_le_self _ _
  unfold Boot.fits
  constructor
  · rintro ⟨h1, h2⟩
    have hle : bytes ≤ r.stop := by
      change r.start + cfg.pptrBaseOffset ≤ Boot.roundDown (sub64 (r.stop + cfg.pptrBaseOffset) bytes) maxBits at h2
      change sub64 (r.stop + cfg.pptrBaseOffset) bytes ≤ r.stop + cfg.pptrBaseOffset at h1
      unfold sub64 at *
      omega
    rw [rootserverStart_shift hV hle hr] at h2
    exact ⟨hle, Nat.le_of_add_le_add_right h2⟩
  · rintro ⟨hle, h⟩
    rw [rootserverStart_shift hV hle hr]
    refine ⟨?_, Nat.add_le_add_right h _⟩
    change sub64 (r.stop + cfg.pptrBaseOffset) bytes ≤ r.stop + cfg.pptrBaseOffset
    rw [sub64_eq (by omega) (by omega)]
    omega

/-- The tool's search ends at the region in which the kernel finds room. -/
lemma regionToRemove_eq {bytes maxBits : Nat} {l u : List Region} {r : Region} (table : Table (l ++ r :: u))
    (hV : 2 ^ maxBits ∣ cfg.pptrBaseOffset) (hbytes : bytes < 2 ^ 64) (hw : ∀ s ∈ l ++ r :: u, s.stop ≤ cfg.paddrTop)
    (hfit : Boot.fits bytes maxBits (r.shift cfg.pptrBaseOffset))
    (hno : ∀ s ∈ u, ¬ Boot.fits bytes maxBits (s.shift cfg.pptrBaseOffset)) :
    regionToRemove bytes maxBits (l ++ r :: u) = some (objectsStart bytes maxBits r) := by
  obtain ⟨hle, hstart⟩ := (fits_shift_iff hV hbytes (hw r (by simp))).mp hfit
  have hnone : u.reverse.find? (fun region => decide (region.start ≤ objectsStart bytes maxBits region)) = none := by
    rw [List.find?_eq_none]
    intro s hs h
    have hs := List.mem_reverse.mp hs
    -- a region above `r` does not end below the size either
    have hrs := List.rel_of_pairwise_cons (List.pairwise_append.mp table.apart).2.1 hs
    have hproper := table.proper s (by simp [hs])
    apply hno s hs
    exact (fits_shift_iff hV hbytes (hw s (by simp [hs]))).mpr ⟨by omega, of_decide_eq_true h⟩
  unfold regionToRemove
  rw [List.reverse_append, List.reverse_cons, List.append_assoc, List.find?_append, hnone]
  simp [hstart]

/-- The tool takes the memory of the objects that the kernel takes, and leaves the same regions. -/
lemma takeObjects_eq {virt : Region} {p f : List Region} {mem : Region} {bytes maxBits : Nat} (table : Table p)
    (hV : 2 ^ maxBits ∣ cfg.pptrBaseOffset) (hbytes : bytes < 2 ^ 64) (hpos : 0 < bytes)
    (hw : ∀ s ∈ p, s.stop ≤ cfg.paddrTop) (hsize : calculateRootserverSize config virt = bytes)
    (hmax : Tool.rootserverMaxSizeBits config = maxBits)
    (h : Taken bytes maxBits (p.map (Region.shift cfg.pptrBaseOffset)) mem f) :
    ∃ objects left, takeObjects config virt p = .ok (objects, left) ∧ mem = objects.shift cfg.pptrBaseOffset ∧
      f = left.map (Region.shift cfg.pptrBaseOffset) ∧ 2 ^ maxBits ∣ objects.start ∧
      objects.stop = objects.start + bytes ∧ objects.stop ≤ cfg.paddrTop ∧
      Removed (fun _ => True) objects.start objects.stop p left ∧
      ∀ q : Nat → Prop, (∀ s ∈ p, q s.start ∧ q s.stop) → q objects.start → q objects.stop →
        ∀ s ∈ left, q s.start ∧ q s.stop := by
  have heq := BootConfig.paddrTop_eq cfg
  have htop := cfg.pptrTop_lt
  obtain ⟨hp, hfit, hno⟩ := h
  obtain ⟨l, rest, rfl, rfl, hrest⟩ := List.map_eq_append_iff.mp hp
  obtain ⟨r, u, rfl, rfl, rfl⟩ := List.map_eq_cons_iff.mp hrest
  have hr := hw r (by simp)
  have hno : ∀ s ∈ u, ¬ Boot.fits bytes maxBits (s.shift cfg.pptrBaseOffset) := fun s hs =>
    hno _ (List.mem_map_of_mem hs)
  obtain ⟨hle, hstart⟩ := (fits_shift_iff hV hbytes hr).mp hfit
  have hend : objectsStart bytes maxBits r + bytes ≤ r.stop := objectsStart_le hle (by omega)
  have hadd : add64 (objectsStart bytes maxBits r) bytes = objectsStart bytes maxBits r + bytes := add64_eq (by omega)
  have hproper : objectsStart bytes maxBits r < objectsStart bytes maxBits r + bytes := by omega
  refine ⟨⟨objectsStart bytes maxBits r, objectsStart bytes maxBits r + bytes⟩,
    l ++ leftovers r (objectsStart bytes maxBits r) (objectsStart bytes maxBits r + bytes) ++ u, ?_, ?_, ?_, ?_, rfl,
    hend.trans hr, ⟨leftovers_table table hstart hproper hend, fun x =>
      mem_cover_removed table.ascending hstart hproper.le hend, fun _ _ _ _ _ => ⟨trivial, trivial⟩⟩,
    fun q hq h1 h2 => ends_removed hq h1 h2⟩
  · unfold takeObjects
    rw [hsize, hmax]
    dsimp only
    rw [regionToRemove_eq table hV hbytes hw hfit hno]
    dsimp only
    rw [hadd, removeRegion_ok table.ascending hstart hproper hend]
    rfl
  · rw [rootserverStart_shift hV hle hr, add64_eq (by omega)]
    unfold Region.shift
    rw [Nat.add_right_comm]
  · rw [rootserverStart_shift hV hle hr, add64_eq (by omega)]
    have hleft : ∀ a b : Nat, properRegions [⟨r.start + cfg.pptrBaseOffset, a + cfg.pptrBaseOffset⟩,
        ⟨b + cfg.pptrBaseOffset, r.stop + cfg.pptrBaseOffset⟩] =
        (leftovers r a b).map (Region.shift cfg.pptrBaseOffset) := by
      intro a b
      unfold leftovers properRegions
      rw [show [⟨r.start + cfg.pptrBaseOffset, a + cfg.pptrBaseOffset⟩,
        ⟨b + cfg.pptrBaseOffset, r.stop + cfg.pptrBaseOffset⟩] =
        [(⟨r.start, a⟩ : Region), ⟨b, r.stop⟩].map (Region.shift cfg.pptrBaseOffset) from rfl, List.filter_map]
      congr 2
      funext x
      simp [Region.shift]
    have e := hleft (objectsStart bytes maxBits r) (objectsStart bytes maxBits r + bytes)
    rw [Nat.add_right_comm] at e
    rw [List.map_append, List.map_append, ← e]
    rfl
  · unfold objectsStart
    rw [roundDown_eq]
    exact Nat.dvd_mul_left _ _

/-! ## The untypeds -/

/-- Both cut off the same part of a region. -/
lemma nextBits_eq (base stop : Nat) : nextBits maxBits base stop = untypedSizeBits ⟨base, stop⟩ := by
  unfold nextBits untypedSizeBits
  rw [show maxBits = 47 from rfl, show maxUntypedBits = 47 from rfl]
  dsimp only
  by_cases h : base = 0
  · rw [if_pos h, if_neg (not_not.mpr h)]
    split <;> omega
  · rw [if_neg h, if_pos h]
    split <;> omega

/-- No part of an aligned region is too small for an untyped. -/
lemma minUntypedBits_le {base stop : Nat} (hb : 2 ^ minUntypedBits ∣ base) (hs : 2 ^ minUntypedBits ∣ stop)
    (h : sub64 stop base ≠ 0) : minUntypedBits ≤ untypedSizeBits ⟨base, stop⟩ := by
  have hlog : minUntypedBits ≤ Nat.log2 (sub64 stop base) := by
    rw [Nat.le_log2 h]
    apply Nat.le_of_dvd (Nat.pos_of_ne_zero h)
    unfold sub64
    rw [show 2 ^ minUntypedBits = 16 from rfl] at *
    omega
  have hmax : minUntypedBits ≤ maxUntypedBits := by decide
  unfold untypedSizeBits
  dsimp only
  split
  · have := le_ctzl hb (by decide)
    omega
  · omega

/-- The physical region of an untyped. -/
def physRegion (cfg : BootConfig) (c : Bool × Nat × Nat) : MemoryRegion :=
  ⟨sub64 c.2.2 cfg.pptrBaseOffset, sub64 (add64 c.2.2 (2 ^ c.2.1)) cfg.pptrBaseOffset⟩

lemma cutRegions_eq (hV : config.virtualBase = cfg.pptrBaseOffset) {base stop : Nat}
    (hb : 2 ^ minUntypedBits ∣ base) (hs : 2 ^ minUntypedBits ∣ stop) :
    cutRegions config maxBits base stop = (untypedsOf false ⟨base, stop⟩).map (physRegion cfg) := by
  induction base using cutRegions.induct maxBits stop with
  | case1 base h =>
    rw [cutRegions, dif_pos h, untypedsOf, dif_pos h]
    rfl
  | case2 base h sz ih =>
    have hmin := minUntypedBits_le hb hs h
    have hsz : sz = 2 ^ untypedSizeBits ⟨base, stop⟩ := by
      unfold sz
      rw [nextBits_eq]
    have hnext : 2 ^ minUntypedBits ∣ add64 base sz := by
      unfold add64
      rw [Nat.dvd_mod_iff (pow_dvd_pow 2 (by decide)), hsz]
      exact Dvd.dvd.add hb (pow_dvd_pow 2 hmin)
    rw [cutRegions, dif_neg h, untypedsOf, dif_neg h]
    dsimp only
    rw [if_pos hmin, List.map_cons, ← hsz, ih hnext, show nextBits maxBits base stop =
      _ from nextBits_eq base stop, ← hsz]
    unfold physRegion Config.kernelVaddrToPaddr
    rw [hV, hsz]

/-- The tool cuts a region into the untypeds that the kernel makes of it. -/
lemma alignedPowerOfTwoRegions_eq (hV : config.virtualBase = cfg.pptrBaseOffset) {r : Region}
    (hw : r.start ≤ r.stop ∧ r.stop ≤ cfg.paddrTop) (hb : 2 ^ minUntypedBits ∣ r.start)
    (hs : 2 ^ minUntypedBits ∣ r.stop) (hoff : 2 ^ minUntypedBits ∣ cfg.pptrBaseOffset) :
    alignedPowerOfTwoRegions config maxBits r =
      (untypedsOf false (r.shift cfg.pptrBaseOffset)).map (physRegion cfg) := by
  have heq := BootConfig.paddrTop_eq cfg
  have htop := cfg.pptrTop_lt
  unfold alignedPowerOfTwoRegions Config.paddrToKernelVaddr
  rw [hV, add64_eq (by omega), add64_eq (by omega)]
  exact cutRegions_eq hV (Dvd.dvd.add hb hoff) (Dvd.dvd.add hs hoff)

/-- The size of the region of an untyped is the size of the untyped. -/
lemma sizeBits_physRegion {c : Bool × Nat × Nat} (h : c.2.1 ≤ maxUntypedBits) :
    ctzl (size (physRegion cfg c)) = c.2.1 := by
  have hoff := cfg.offset_lt
  have hlt : 2 ^ c.2.1 < 2 ^ 64 := Nat.pow_lt_pow_right (by norm_num) (h.trans_lt (by decide))
  have e : size (physRegion cfg c) = 2 ^ c.2.1 := by
    unfold size physRegion sub64 add64
    generalize 2 ^ c.2.1 = n at hlt ⊢
    dsimp only
    omega
  rw [e, ctzl_two_pow (h.trans (by decide))]

/-- The base and the size of the normal untypeds among those that the kernel provides. -/
def normalUntypeds (cfg : BootConfig) (untypeds : List (Bool × Nat × Nat)) : List (Nat × Nat) :=
  (untypeds.filter fun c => !c.1).map fun c => (sub64 c.2.2 cfg.pptrBaseOffset, c.2.1)

/-- The base and the size of the normal untypeds that the tool expects. -/
def BootInfo.normalUntypeds (info : BootInfo) : List (Nat × Nat) :=
  (info.untypedObjects.filter fun ut => !ut.isDevice).map fun ut => (ut.base, ut.sizeBits)

lemma map_untypedObjects {α : Type} (f : UntypedObject → α) (isDevice : Bool) (firstCap : Nat) (rs : List MemoryRegion)
    (g : MemoryRegion → α) (h : ∀ cap r, f ⟨cap, r, isDevice⟩ = g r) :
    (untypedObjects isDevice firstCap rs).map f = rs.map g := by
  unfold untypedObjects
  exact List.ext_getElem (by simp) fun i h1 h2 => by simp [h]

lemma filter_untypedObjects (isDevice : Bool) (firstCap : Nat) (rs : List MemoryRegion) :
    (untypedObjects isDevice firstCap rs).filter (fun ut => !ut.isDevice) =
      if isDevice then [] else untypedObjects isDevice firstCap rs := by
  have h : ∀ ut ∈ untypedObjects isDevice firstCap rs, ut.isDevice = isDevice := by
    intro ut hut
    obtain ⟨i, hi, rfl⟩ := List.mem_mapIdx.mp hut
    rfl
  cases isDevice with
  | true =>
    rw [if_pos rfl, List.filter_eq_nil_iff]
    intro ut hut
    simp [h ut hut]
  | false =>
    rw [if_neg Bool.false_ne_true, List.filter_eq_self]
    intro ut hut
    simp [h ut hut]

/-- What the kernel provides for normal memory. -/
lemma normalUntypeds_wanted (cfg : BootConfig) (s : NdksBoot) :
    normalUntypeds cfg (wanted cfg s) = (untypedsOf false (paddrToPptrReg cfg cfg.kernelImgBoot) ++
      s.freemem.flatMap (untypedsOf false)).map fun c => (sub64 c.2.2 cfg.pptrBaseOffset, c.2.1) := by
  unfold normalUntypeds wanted
  rw [List.filter_append, List.filter_eq_nil_iff.mpr fun c hc => by simp [deviceUntypeds_device c hc], List.nil_append]
  congr 1
  apply List.filter_eq_self.mpr
  intro c hc
  rcases List.mem_append.mp hc with hc | hc
  · simp [(untypedsOf_mem c hc).1]
  · obtain ⟨r, -, hc⟩ := List.mem_flatMap.mp hc
    simp [(untypedsOf_mem c hc).1]

/-- Empty entries of the free memory give no untypeds. -/
lemma flatMap_properRegions {t : List Region} (h : ∀ r ∈ t, r.start ≤ r.stop) :
    t.flatMap (untypedsOf false) = (properRegions t).flatMap (untypedsOf false) := by
  induction t with
  | nil => rfl
  | cons r t ih =>
    have ih := ih fun s hs => h s (.tail _ hs)
    by_cases hlt : r.start < r.stop
    · rw [properRegions_cons_of_lt hlt, List.flatMap_cons, List.flatMap_cons, ih]
    · have hle := h r (.head _)
      have hz : sub64 r.stop r.start = 0 := by
        unfold sub64
        omega
      rw [properRegions_cons_of_not_lt hlt, List.flatMap_cons, ih, untypedsOf, dif_pos hz, List.nil_append]

/-- The tool's list of normal untypeds, for memory at the offset of the kernel window. -/
lemma map_alignedPowerOfTwoRegions (b : SameBoard cfg kernelImg config elf) {rs : List Region}
    (hw : ∀ r ∈ rs, r.start ≤ r.stop ∧ r.stop ≤ cfg.paddrTop)
    (hends : ∀ r ∈ rs, 2 ^ minUntypedBits ∣ r.start ∧ 2 ^ minUntypedBits ∣ r.stop) :
    (rs.flatMap (alignedPowerOfTwoRegions config maxBits)).map (fun r => (r.start, ctzl (size r))) =
      ((rs.map (Region.shift cfg.pptrBaseOffset)).flatMap (untypedsOf false)).map
        fun c => (sub64 c.2.2 cfg.pptrBaseOffset, c.2.1) := by
  induction rs with
  | nil => rfl
  | cons r rs ih =>
    have ih := ih (fun s hs => hw s (.tail _ hs)) fun s hs => hends s (.tail _ hs)
    have hr := hends r (.head _)
    rw [List.flatMap_cons, List.map_append, ih, List.map_cons, List.flatMap_cons, List.map_append,
      alignedPowerOfTwoRegions_eq b.offset_eq.symm (hw r (.head _)) hr.1 hr.2 (b.two_pow_dvd_offset (by decide)),
      List.map_map]
    congr 1
    apply List.map_congr_left
    intro c hc
    exact Prod.ext rfl (sizeBits_physRegion (untypedsOf_mem c hc).2)

/-- A region of the physical memory below the top of the window is mapped in the window. -/
lemma SameBoard.inWindow (b : SameBoard cfg kernelImg config elf) {r : Region} (hle : r.start ≤ r.stop)
    (hr : r.stop ≤ cfg.paddrTop) : InWindow cfg (r.shift cfg.pptrBaseOffset) where
  base_le := by
    rw [← b.pptrBaseOffset]
    exact Nat.le_add_left _ _
  valid := Nat.add_le_add_right hle _
  le_top := by
    rw [← BootConfig.paddrTop_eq cfg]
    exact Nat.add_le_add_right hr _

/-- Once the normal memory that is left is known, the emulation ends with its untypeds. -/
lemma emulateKernelBoot_untypeds {phys virt : MemoryRegion} {partialInfo objects left}
    (h : normalMemoryLeft config elf phys virt = .ok (partialInfo, objects, left)) :
    ∃ info, emulateKernelBoot config elf phys virt = .ok info ∧
      info.normalUntypeds = (alignedPowerOfTwoRegions config maxBits partialInfo.bootRegion ++
        left.flatMap (alignedPowerOfTwoRegions config maxBits)).map fun r => (r.start, ctzl (size r)) := by
  unfold emulateKernelBoot
  rw [h]
  refine ⟨_, rfl, ?_⟩
  unfold BootInfo.normalUntypeds
  dsimp only
  rw [List.filter_append, filter_untypedObjects, filter_untypedObjects, if_pos rfl, List.nil_append,
    if_neg Bool.false_ne_true, map_untypedObjects _ _ _ _ (fun r => (r.start, ctzl (size r))) fun _ _ => rfl]

/-- Whenever the kernel's boot succeeds on a memory map, the tool's emulation of it ends as well, puts the root server
objects where the kernel does, and expects the normal untypeds that the kernel provides, in the same order. -/
theorem emulateKernelBoot_agrees (b : SameBoard cfg kernelImg config elf)
    (m : MemoryMap cfg config.normalRegions kernelImg task) {device : List Region}
    (hdevice : insertRegions config.deviceRegions [] = .ok device) {pvOffset : Nat} {s s' s1 : NdksBoot}
    (h : archInitFreemem cfg config.aarch64VspaceS2StartL1 kernelImg config.normalRegions task ⟨0, 0⟩
      (itVReg (uiVReg pvOffset task) 0) 0 s = .ok (true, s'))
    (hfreemem : s1.freemem = s'.freemem) (room : Room cfg s1.slotPosCur s1.slotPosCur (wanted cfg s1).length) :
    ∃ partialInfo objects left info s2 new,
      normalMemoryLeft config elf task (uiVReg pvOffset task) = .ok (partialInfo, objects, left) ∧
      s'.rootserverMem = paddrToPptrReg cfg objects ∧
      emulateKernelBoot config elf task (uiVReg pvOffset task) = .ok info ∧
      createUntypeds cfg s1 = .ok () s2 ∧ s2.untypeds = s1.untypeds ++ new ∧
      normalUntypeds cfg new = info.normalUntypeds := by
  have heq := BootConfig.paddrTop_eq cfg
  have htop := cfg.pptrTop_lt
  have htask := m.task_proper
  have hle := m.task_le
  -- the walk of the kernel
  unfold archInitFreemem at h
  dsimp only at h
  rw [if_neg (not_not.mpr rfl), if_pos (htask.1.trans_le hle)] at h
  obtain ⟨hlt, sw, k, hfree, hplace⟩ := m.walked h
  obtain ⟨p1, p, e1, e2, table, hcover, hends⟩ := m.removed hlt
  have hfree := hfree p table hcover
  have hvirt : initialTaskVirtRegion (uiVReg pvOffset task) = itVReg (uiVReg pvOffset task) 0 :=
    initialTaskVirtRegion_eq _
  -- the root server
  have hbits := b.maxSizeBits_bounds
  have hV := b.two_pow_dvd_offset hbits.2
  have hsize := b.rootserverSize (uiVReg pvOffset task)
  obtain ⟨bytes, hbytes⟩ : ∃ n, Boot.calculateRootserverSize cfg
      (archGetNPaging config.aarch64VspaceS2StartL1 (itVReg (uiVReg pvOffset task) 0)) 0 = n := ⟨_, rfl⟩
  obtain ⟨q, hq⟩ := b.rootserverSize_form (archGetNPaging config.aarch64VspaceS2StartL1
    (itVReg (uiVReg pvOffset task) 0))
  have hlt64 := SameBoard.rootserverSize_lt cfg
    (archGetNPaging config.aarch64VspaceS2StartL1 (itVReg (uiVReg pvOffset task) 0))
  rw [hbytes] at hplace hsize hq hlt64
  have hproper : ∀ r ∈ p.map (Region.shift cfg.pptrBaseOffset), r.start < r.stop := (table.shift _).proper
  have htaken := placeRootserver_taken hfree hproper hplace
  obtain ⟨objects, left, etake, hmem, hleft, hdvd, hstop, hobj, removed,
    hends'⟩ := takeObjects_eq table hV hlt64 (by omega)
    (fun r hr => (hends r hr).2.2) hsize b.rootserverMaxSizeBits htaken
  -- what is left of the memory lies in the window and is aligned
  have hstart16 : 2 ^ minUntypedBits ∣ objects.start := (pow_dvd_pow 2 (hbits.1.trans' (by decide))).trans hdvd
  have hleft_ends : ∀ r ∈ left, (2 ^ minUntypedBits ∣ r.start ∧ r.start ≤ cfg.paddrTop) ∧
      2 ^ minUntypedBits ∣ r.stop ∧ r.stop ≤ cfg.paddrTop := by
    apply hends' fun x => 2 ^ minUntypedBits ∣ x ∧ x ≤ cfg.paddrTop
    · intro r hr
      obtain ⟨⟨h1, h2⟩, h3, h4⟩ := hends r hr
      have hpow : 2 ^ minUntypedBits ∣ 2 ^ pageBits := pow_dvd_pow 2 (by decide)
      exact ⟨⟨hpow.trans h1, h2⟩, hpow.trans h3, h4⟩
    · exact ⟨hstart16, by omega⟩
    · rw [hstop]
      rw [hstop] at hobj
      refine ⟨Dvd.dvd.add hstart16 ?_, hobj⟩
      rw [hq, show 2 ^ minUntypedBits = 16 from rfl]
      omega
  have hleft_proper : ∀ r ∈ left, r.start < r.stop := removed.table.proper
  obtain ⟨free, -⟩ := free_of_ascending (table.shift cfg.pptrBaseOffset).ascending k
  have hwords : ∀ r ∈ sw.freemem, r.stop < 2 ^ 64 := by
    intro r hr
    rw [hfree] at hr
    rcases List.mem_append.mp hr with hr | hr
    · obtain ⟨r0, hr0, rfl⟩ := List.mem_map.mp hr
      have := (hends r0 hr0).2.2
      simp only [Region.shift]
      omega
    · rw [(List.mem_replicate.mp hr).2]
      decide
  have carved := (placeRootserver_spec hlt64 hfree hproper (hfree ▸ free) hwords hplace).2
  -- what the kernel provides
  have hbootle : cfg.kernelImgBoot.stop ≤ cfg.paddrTop := m.boot.2.2.trans m.image_le
  have himg : InWindow cfg (paddrToPptrReg cfg cfg.kernelImgBoot) := by
    rw [paddrToPptrReg_eq m.boot.2.1 hbootle]
    exact b.inWindow m.boot.2.1 hbootle
  have hwindow : ∀ r ∈ s1.freemem, InWindow cfg r ∨ r.start = r.stop := by
    intro r hr
    rw [hfreemem] at hr
    have hvalid := carved.free.valid r hr
    rcases hvalid.lt_or_eq with hlt | heq'
    · have hmem : r ∈ properRegions s'.freemem := mem_properRegions.mpr ⟨hr, hlt⟩
      rw [hleft] at hmem
      obtain ⟨r0, hr0, rfl⟩ := List.mem_map.mp hmem
      exact .inl (b.inWindow (hleft_proper r0 hr0).le (hleft_ends r0 hr0).2.2)
    · exact .inr heq'
  obtain ⟨s2, ecreate, hnew⟩ := createUntypeds_wanted s1 himg hwindow room
  -- what the tool works out
  have hsame : size task = size (uiVReg pvOffset task) := by
    unfold size uiVReg sub64
    dsimp only
    omega
  have epartial : kernelPartialBoot config elf = .ok ⟨device, p1, cfg.kernelImgBoot⟩ := by
    unfold kernelPartialBoot
    rw [hdevice, insertRegions_table m.table]
    dsimp only [bind, Except.bind]
    rw [b.selfMem, b.bootMem, e1]
    rfl
  have eleft : normalMemoryLeft config elf task (uiVReg pvOffset task) =
      .ok (⟨device, p1, cfg.kernelImgBoot⟩, objects, left) := by
    unfold normalMemoryLeft
    rw [assert_ok (decide_eq_true hsame), epartial]
    dsimp only [bind, Except.bind]
    rw [e2]
    dsimp only
    rw [hvirt, etake]
    rfl
  obtain ⟨info, einfo, huntypeds⟩ := emulateKernelBoot_untypeds eleft
  refine ⟨_, objects, left, info, s2, wanted cfg s1, eleft, ?_, einfo, ecreate, hnew, ?_⟩
  · rw [hmem, paddrToPptrReg_eq (by omega) hobj]
  have hpow : 2 ^ minUntypedBits ∣ 2 ^ pageBits := pow_dvd_pow 2 (by decide)
  have hboot : ((alignedPowerOfTwoRegions config maxBits cfg.kernelImgBoot).map fun r => (r.start, ctzl (size r))) =
      (untypedsOf false (paddrToPptrReg cfg cfg.kernelImgBoot)).map fun c =>
        (sub64 c.2.2 cfg.pptrBaseOffset, c.2.1) := by
    have e := map_alignedPowerOfTwoRegions b (List.forall_mem_singleton.mpr ⟨m.boot.2.1, hbootle⟩)
      (List.forall_mem_singleton.mpr ⟨hpow.trans m.boot_aligned.1, hpow.trans m.boot_aligned.2⟩)
    rw [paddrToPptrReg_eq m.boot.2.1 hbootle]
    simpa using e
  have hrest := map_alignedPowerOfTwoRegions b (fun r hr => ⟨(hleft_proper r hr).le, (hleft_ends r hr).2.2⟩)
    fun r hr => ⟨(hleft_ends r hr).1.1, (hleft_ends r hr).2.1⟩
  rw [normalUntypeds_wanted, hfreemem, flatMap_properRegions carved.free.valid, hleft, List.map_append, ← hrest,
    huntypeds, List.map_append, hboot]

/-- The virtual platform as the tool sees it. -/
def virtBoard : Config where
  hypervisor := true
  armPaSizeBits := 40
  minimumPageSize := 0x1000
  initCnodeBits := 12
  objectSizes := ⟨11, 4, 6, 5, 13, 12, 21, 12, 12, 12⟩
  deviceRegions := [⟨0, 0x60000000⟩]
  normalRegions := virtMemory

def virtElf : KernelElf :=
  ⟨0x60000000, 0x8060000000, 0x8060240000, 0x8060012000⟩

def virtImage : Region := ⟨0x60000000, 0x60240000⟩

def virtTask : Region := ⟨0x60240000, 0x60280000⟩

def virtBooted : NdksBoot where
  reserved := [⟨0x8040000, 0x8050000⟩, ⟨0x60000000, 0x80000000⟩]
  freemem := [⟨0x8060280000, 0x807ffc0000⟩, ⟨0x807ffe7880, 0x8080000000⟩] ++ List.replicate 14 regEmpty
  rootserverMem := ⟨0x807ffc0000, 0x807ffe7880⟩
  slotPosCur := 20
  untypeds := []

lemma sameBoard_virt : SameBoard virtConfig virtImage virtBoard virtElf where
  pptrBase := rfl
  pptrBaseOffset := rfl
  pptrTop := rfl
  initCnodeBits := rfl
  rootCNode_le := by decide
  rootCNode_ge := by decide
  tcb := rfl
  tcbBits := .inl rfl
  vspace := rfl
  vspaceBits := rfl
  smallPage := rfl
  pageTable := rfl
  selfMem := rfl
  bootMem := rfl

lemma memoryMap_virt : MemoryMap virtConfig virtBoard.normalRegions virtImage virtTask where
  table := ⟨by decide, by decide⟩
  aligned := List.forall_mem_singleton.mpr ⟨by decide, by decide⟩
  window := by decide
  image_proper := ⟨by decide, by decide, by decide⟩
  image_mem := by decide
  task_proper := ⟨by decide, by decide, by decide⟩
  task_mem := by decide
  boot := by decide
  boot_aligned := ⟨by decide, by decide⟩

/-- Both boots of a small machine. -/
theorem emulateKernelBoot_agrees_virt : ∃ partialInfo objects left info s2 new,
    normalMemoryLeft virtBoard virtElf virtTask (uiVReg 0x60040000 virtTask) = .ok (partialInfo, objects, left) ∧
    virtBooted.rootserverMem = paddrToPptrReg virtConfig objects ∧
    emulateKernelBoot virtBoard virtElf virtTask (uiVReg 0x60040000 virtTask) = .ok info ∧
    createUntypeds virtConfig virtBooted = .ok () s2 ∧ s2.untypeds = virtBooted.untypeds ++ new ∧
    normalUntypeds virtConfig new = info.normalUntypeds :=
  have device : insertRegions virtBoard.deviceRegions [] = .ok virtBoard.deviceRegions := by decide +kernel
  have booted : archInitFreemem virtConfig virtBoard.aarch64VspaceS2StartL1 virtImage virtBoard.normalRegions virtTask
      ⟨0, 0⟩ (itVReg (uiVReg 0x60040000 virtTask) 0) 0 virtStart = .ok (true, virtBooted) := by
    decide +kernel
  have count : (wanted virtConfig virtBooted).length ≤ 128 := by decide +kernel
  have room : Room virtConfig virtBooted.slotPosCur virtBooted.slotPosCur (wanted virtConfig virtBooted).length := by
    refine ⟨le_rfl, ?_, ?_, ?_⟩ <;> simp only [virtBooted, virtConfig] at count ⊢ <;> omega
  emulateKernelBoot_agrees sameBoard_virt memoryMap_virt device booted rfl room

end Tool

end NexsKernel
