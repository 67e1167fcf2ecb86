import NexsKernel.Boot.Untypeds
import NexsKernel.Tool.Memory

/-!
# The boot of the kernel, emulated by the tool

`emulate_kernel_boot` (`tool/microkit/src/sel4.rs`): the tool works out on AArch64 which untypeds the kernel will hand
to the initial task. It removes the kernel image, the initial task and the memory of the root server objects from
the normal memory, and cuts what is left, and the part of the image that only the boot code needs, into aligned
powers of two. The tool is built without overflow checks, and its additions and subtractions wrap.
-/

namespace NexsKernel

namespace Tool

open Boot (ctzl)

/-- `ObjectSizes`. -/
structure ObjectSizes where
  tcb : Nat
  endpoint : Nat
  notification : Nat
  reply : Nat
  vspace : Nat
  pageTable : Nat
  largePage : Nat
  smallPage : Nat
  asidPool : Nat
  vcpu : Nat
  deriving DecidableEq, Repr

/-- `Config`, for AArch64. -/
structure Config where
  hypervisor : Bool
  armPaSizeBits : Nat
  minimumPageSize : Nat
  initCnodeBits : Nat
  objectSizes : ObjectSizes
  deviceRegions : List MemoryRegion
  normalRegions : List MemoryRegion
  deriving DecidableEq, Repr

/-- What the tool reads from the ELF file of the kernel: its first loadable segment and two symbols. -/
structure KernelElf where
  physAddr : Nat
  virtAddr : Nat
  /-- `ki_end`. -/
  kiEnd : Nat
  /-- `ki_boot_end`. -/
  kiBootEnd : Nat
  deriving DecidableEq, Repr

/-- `UntypedObject`. -/
structure UntypedObject where
  cap : Nat
  region : MemoryRegion
  isDevice : Bool
  deriving DecidableEq, Repr

namespace UntypedObject

/-- `UntypedObject::base`. -/
def base (ut : UntypedObject) : Nat := ut.region.start

/-- `UntypedObject::end`. -/
def stop (ut : UntypedObject) : Nat := ut.region.stop

/-- `UntypedObject::size_bits`. -/
def sizeBits (ut : UntypedObject) : Nat := ctzl (size ut.region)

end UntypedObject

/-- `BootInfo`. -/
structure BootInfo where
  fixedCapCount : Nat
  schedControlCap : Nat
  pagingCapCount : Nat
  pageCapCount : Nat
  untypedObjects : List UntypedObject
  firstAvailableCap : Nat
  deriving DecidableEq, Repr

/-- `PageSize::Small`. -/
def smallPageSize : Nat := 0x1000

namespace Config

variable (config : Config)

/-- `Config::virtual_base`. -/
def virtualBase : Nat :=
  if config.hypervisor then 0x0000008000000000 else 0xffffff8000000000

/-- `Config::paddr_to_kernel_vaddr`. -/
def paddrToKernelVaddr (paddr : Nat) : Nat :=
  add64 paddr config.virtualBase

/-- `Config::kernel_vaddr_to_paddr`. -/
def kernelVaddrToPaddr (vaddr : Nat) : Nat :=
  sub64 vaddr config.virtualBase

/-- `Config::aarch64_vspace_s2_start_l1`. -/
def aarch64VspaceS2StartL1 : Bool :=
  config.hypervisor && config.armPaSizeBits == 40

end Config

/-- `round_up` of `util.rs`. -/
def roundUp (n x : Nat) : Nat :=
  let m := n % x
  if m = 0 then n else sub64 (add64 n x) m

/-- `round_down` of `util.rs`. -/
def roundDown (n x : Nat) : Nat :=
  let m := n % x
  if m = 0 then n else n - m

/-- The bits of the next region that `aligned_power_of_two_regions` cuts off. -/
def nextBits (maxBits base stop : Nat) : Nat :=
  let sizeBits := Nat.log2 (sub64 stop base)
  let bits := if base = 0 then sizeBits else min sizeBits (ctzl base)
  if maxBits < bits then maxBits else bits

lemma nextBits_le (maxBits base stop : Nat) : nextBits maxBits base stop ≤ Nat.log2 (sub64 stop base) := by
  unfold nextBits
  extract_lets sizeBits bits
  have h : bits ≤ sizeBits := by
    unfold bits
    split
    · exact le_rfl
    · exact Nat.min_le_left _ _
  split
  · rename_i hlt
    exact hlt.le.trans h
  · exact h

/-- The loop of `aligned_power_of_two_regions`, over kernel virtual addresses. -/
def cutRegions (config : Config) (maxBits base stop : Nat) : List MemoryRegion :=
  if h : sub64 stop base = 0 then []
  else
    let sz := 2 ^ nextBits maxBits base stop
    ⟨config.kernelVaddrToPaddr base, config.kernelVaddrToPaddr (add64 base sz)⟩ ::
      cutRegions config maxBits (add64 base sz) stop
termination_by sub64 stop base
decreasing_by
  have hle : 2 ^ nextBits maxBits base stop ≤ sub64 stop base :=
    (Nat.pow_le_pow_right (by norm_num) (nextBits_le maxBits base stop)).trans (Nat.log2_self_le h)
  have hpos : 0 < 2 ^ nextBits maxBits base stop := by positivity
  generalize 2 ^ nextBits maxBits base stop = n at *
  unfold add64 sub64 at *
  omega

/-- `MemoryRegion::aligned_power_of_two_regions`. -/
def alignedPowerOfTwoRegions (config : Config) (maxBits : Nat) (region : MemoryRegion) : List MemoryRegion :=
  cutRegions config maxBits (config.paddrToKernelVaddr region.start) (config.paddrToKernelVaddr region.stop)

/-- `kernel_self_mem`. -/
def kernelSelfMem (elf : KernelElf) : MemoryRegion :=
  ⟨elf.physAddr, add64 (sub64 elf.kiEnd elf.virtAddr) elf.physAddr⟩

/-- `kernel_boot_mem`. -/
def kernelBootMem (elf : KernelElf) : MemoryRegion :=
  ⟨elf.physAddr, add64 (sub64 elf.kiBootEnd elf.virtAddr) elf.physAddr⟩

/-- `KernelPartialBootInfo`. -/
structure KernelPartialBootInfo where
  deviceMemory : List MemoryRegion
  normalMemory : List MemoryRegion
  bootRegion : MemoryRegion

/-- `kernel_partial_boot`. -/
def kernelPartialBoot (config : Config) (elf : KernelElf) : Except Halt KernelPartialBootInfo := do
  let deviceMemory ← insertRegions config.deviceRegions []
  let normalMemory ← insertRegions config.normalRegions []
  let selfMem := kernelSelfMem elf
  let normalMemory ← removeRegion selfMem.start selfMem.stop normalMemory
  return ⟨deviceMemory, normalMemory, kernelBootMem elf⟩

/-- `get_n_paging`. -/
def getNPaging (region : MemoryRegion) (bits : Nat) : Nat :=
  let start := roundDown region.start (2 ^ bits)
  let stop := roundUp region.stop (2 ^ bits)
  sub64 stop start / 2 ^ bits

/-- `get_arch_n_paging`, for AArch64. -/
def getArchNPaging (config : Config) (region : MemoryRegion) : Nat :=
  let ptIndexOffset := 12
  let pdIndexOffset := ptIndexOffset + 9
  let pudIndexOffset := pdIndexOffset + 9
  if config.aarch64VspaceS2StartL1 then add64 (getNPaging region pudIndexOffset) (getNPaging region pdIndexOffset)
  else
    let pgdIndexOffset := pudIndexOffset + 9
    add64 (add64 (getNPaging region pgdIndexOffset) (getNPaging region pudIndexOffset))
      (getNPaging region pdIndexOffset)

/-- `calculate_rootserver_size`. -/
def calculateRootserverSize (config : Config) (initialTaskRegion : MemoryRegion) : Nat :=
  let slotBits := 5
  let asidPoolBits := 12
  let minSchedContextBits := 7
  (2 ^ (config.initCnodeBits + slotBits) + 2 ^ config.objectSizes.tcb + 2 * 2 ^ config.objectSizes.smallPage +
    2 ^ asidPoolBits + 2 ^ config.objectSizes.vspace +
    getArchNPaging config initialTaskRegion * 2 ^ config.objectSizes.pageTable + 2 ^ minSchedContextBits) % 2 ^ 64

/-- `rootserver_max_size_bits`. -/
def rootserverMaxSizeBits (config : Config) : Nat :=
  let slotBits := 5
  let cnodeSizeBits := config.initCnodeBits + slotBits
  max cnodeSizeBits config.objectSizes.vspace

/-- Where the loop of `emulate_kernel_boot` puts the objects of the initial task in a region. -/
def objectsStart (initialObjectsSize initialObjectsAlign : Nat) (region : MemoryRegion) : Nat :=
  roundDown (sub64 region.stop initialObjectsSize) (2 ^ initialObjectsAlign)

/-- The loop of `emulate_kernel_boot` that looks for a region, from the last one on. -/
def regionToRemove (initialObjectsSize initialObjectsAlign : Nat) (regions : List MemoryRegion) : Option Nat :=
  (regions.reverse.find? fun region =>
    region.start ≤ objectsStart initialObjectsSize initialObjectsAlign region).map
      (objectsStart initialObjectsSize initialObjectsAlign)

/-- The virtual region of the initial task, with its IPC buffer and its boot info. -/
def initialTaskVirtRegion (userImageVirtRegion : MemoryRegion) : MemoryRegion :=
  let ipcSize := smallPageSize
  let bootinfoSize := smallPageSize
  { userImageVirtRegion with stop := add64 (add64 userImageVirtRegion.stop ipcSize) bootinfoSize }

/-- The memory of the objects of the initial task, and the normal memory that is left without it. -/
def takeObjects (config : Config) (initialTaskVirtRegion : MemoryRegion) (normalMemory : List MemoryRegion) :
    Except Halt (MemoryRegion × List MemoryRegion) :=
  let initialObjectsSize := calculateRootserverSize config initialTaskVirtRegion
  match regionToRemove initialObjectsSize (rootserverMaxSizeBits config) normalMemory with
  | none => .error .assertion
  | some start => do
    let normalMemory ← removeRegion start (add64 start initialObjectsSize) normalMemory
    return (⟨start, add64 start initialObjectsSize⟩, normalMemory)

/-- The part of `emulate_kernel_boot` that gives every region a capability. -/
def untypedObjects (isDevice : Bool) (firstCap : Nat) (regions : List MemoryRegion) : List UntypedObject :=
  regions.mapIdx fun i r => ⟨i + firstCap, r, isDevice⟩

/-- The largest untyped of the kernel on AArch64. -/
def maxBits : Nat := 47

/-- The normal memory that is left for untypeds, with the memory of the objects of the initial task. -/
def normalMemoryLeft (config : Config) (elf : KernelElf) (initialTaskPhysRegion userImageVirtRegion : MemoryRegion) :
    Except Halt (KernelPartialBootInfo × MemoryRegion × List MemoryRegion) := do
  assert (size initialTaskPhysRegion = size userImageVirtRegion)
  let partialInfo ← kernelPartialBoot config elf
  let normalMemory ← removeRegion initialTaskPhysRegion.start initialTaskPhysRegion.stop partialInfo.normalMemory
  let (objects, normalMemory) ← takeObjects config (initialTaskVirtRegion userImageVirtRegion) normalMemory
  return (partialInfo, objects, normalMemory)

/-- `emulate_kernel_boot`. -/
def emulateKernelBoot (config : Config) (elf : KernelElf) (initialTaskPhysRegion userImageVirtRegion : MemoryRegion) :
    Except Halt BootInfo := do
  let (partialInfo, _, normalMemory) ← normalMemoryLeft config elf initialTaskPhysRegion userImageVirtRegion
  let virtRegion := initialTaskVirtRegion userImageVirtRegion
  let fixedCapCount := 0x10
  let schedControlCapCount := 1
  let pagingCapCount := getArchNPaging config virtRegion
  let pageCapCount := size virtRegion / config.minimumPageSize
  let firstUntypedCap := fixedCapCount + pagingCapCount + schedControlCapCount + pageCapCount
  let schedControlCap := fixedCapCount + pagingCapCount
  let deviceRegions := partialInfo.deviceMemory.flatMap (alignedPowerOfTwoRegions config maxBits)
  let normalRegions := alignedPowerOfTwoRegions config maxBits partialInfo.bootRegion ++
    normalMemory.flatMap (alignedPowerOfTwoRegions config maxBits)
  let normalRegionsStartCap := firstUntypedCap + deviceRegions.length
  return {
    fixedCapCount := fixedCapCount
    schedControlCap := schedControlCap
    pagingCapCount := pagingCapCount
    pageCapCount := pageCapCount
    untypedObjects := untypedObjects true firstUntypedCap deviceRegions ++
      untypedObjects false normalRegionsStartCap normalRegions
    firstAvailableCap := firstUntypedCap + deviceRegions.length + normalRegions.length }

end Tool

end NexsKernel
