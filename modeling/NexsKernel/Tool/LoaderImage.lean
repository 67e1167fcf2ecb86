import NexsKernel.Lib.Bytes
import NexsKernel.Lib.Checks

/-!
# The loader image

`loader.rs` of the tool: `Loader::new` collects the regions that the loader has to copy, the segments of the kernel
and of the initial task, and `to_bytes` puts the header, the table of the regions and their bytes behind the image
of the loader itself. The tool is built without overflow checks; its additions and subtractions wrap.
-/

namespace NexsKernel.Image

open Bytes Checks

/-- `u64`. -/
abbrev Word := BitVec 64

abbrev Byte := BitVec 8

/-- The bytes of a `u64`, as `struct_to_bytes` and the loader have them. -/
def wordBytes (v : Word) : List Byte :=
  encode 8 v.toNat

inductive Arch where
  | aarch64
  | riscv64
  | x86_64
  deriving DecidableEq, Repr

inductive ElfSegmentData where
  | realData (bytes : List Byte)
  | uninitialisedData (size : Word)
  deriving Repr

structure ElfSegment where
  data : ElfSegmentData
  physAddr : Word
  virtAddr : Word
  loadable : Bool
  deriving Repr

def ElfSegment.memSize (s : ElfSegment) : Word :=
  match s.data with
  | .realData bytes => BitVec.ofNat 64 bytes.length
  | .uninitialisedData size => size

/-- `data()`. -/
def ElfSegment.bytes (s : ElfSegment) : Except String (List Byte) :=
  match s.data with
  | .realData bytes => .ok bytes
  | .uninitialisedData _ => .error "internal bug: data() called on an uninitialised ELF segment."

/-- The number of program headers of a file is a `u16`, and `add_spec` adds two segments. -/
structure ElfFile where
  wordSize : Nat
  entry : Word
  segments : List ElfSegment
  segments_le : segments.length ≤ 65537
  deriving Repr

def ElfFile.loadableSegments (elf : ElfFile) : List ElfSegment :=
  elf.segments.filter (·.loadable)

/-- What is to be loaded, and where. -/
structure Region where
  addr : Word
  data : List Byte
  deriving DecidableEq, Repr

structure LoaderRegion64 where
  loadAddr : Word
  size : Word
  offset : Word
  type : Word
  deriving DecidableEq, Repr

structure LoaderHeader64 where
  magic : Word
  size : Word
  kernelEntry : Word
  uiPRegStart : Word
  uiPRegEnd : Word
  pvOffset : Word
  vEntry : Word
  numRegions : Word
  deriving DecidableEq, Repr

/-- `struct_to_bytes`. -/
def LoaderRegion64.bytes (r : LoaderRegion64) : List Byte :=
  [r.loadAddr, r.size, r.offset, r.type].flatMap wordBytes

def LoaderHeader64.bytes (h : LoaderHeader64) : List Byte :=
  [h.magic, h.size, h.kernelEntry, h.uiPRegStart, h.uiPRegEnd, h.pvOffset, h.vEntry, h.numRegions].flatMap wordBytes

structure Loader where
  arch : Arch
  loaderImage : List Byte
  header : LoaderHeader64
  regionMetadata : List LoaderRegion64
  regions : List Region
  entry : Word
  deriving DecidableEq, Repr

/-! ## `check_non_overlapping` -/

private def hex (v : Word) : String :=
  String.ofList (Nat.toDigits 16 v.toNat)

/-- The loop over the regions, with the ranges that were checked. -/
def checkNonOverlapping (checked : List (Word × Word)) : List Region → Except String Unit
  | [] => .ok ()
  | r :: regions =>
    let stop := r.addr + BitVec.ofNat 64 r.data.length
    match checked.find? fun c => ¬ (stop ≤ c.1 ∨ c.2 ≤ r.addr) with
    | some c =>
      .error s!"Overlapping regions: [{hex r.addr}..{hex stop}) overlaps [{hex c.1}..{hex c.2})"
    | none => checkNonOverlapping (checked ++ [(r.addr, stop)]) regions

/-! ## `Loader::new` -/

/-- What the loop over the segments of the kernel finds. -/
structure KernelVars where
  firstVaddr : Option Word
  firstPaddr : Option Word
  pVOffset : Option Word
  regions : List Region

/-- The smaller one, if there is one yet. -/
private def lower (first : Option Word) (a : Word) : Option Word :=
  match first with
  | none => some a
  | some b => if a < b then some a else some b

/-- One loadable segment of the kernel. -/
def kernelSegment (vars : KernelVars) (segment : ElfSegment) : Except String KernelVars := do
  let offset := segment.virtAddr - segment.physAddr
  failIf (vars.pVOffset.any (· ≠ offset)) "Kernel does not have a consistent physical to virtual offset"
  let data ← segment.bytes
  return {
    firstVaddr := lower vars.firstVaddr segment.virtAddr
    firstPaddr := lower vars.firstPaddr segment.physAddr
    pVOffset := some offset
    regions := vars.regions ++ [⟨segment.physAddr, data⟩] }

/-- A segment of the initial task whose size is not zero, at its place behind the physical base. -/
def taskSegment (phyBase vaddrStart : Word) (regions : List Region) (segment : ElfSegment) :
    Except String (List Region) := do
  let data ← segment.bytes
  return regions ++ [⟨phyBase + (segment.virtAddr - vaddrStart), data⟩]

/-- A page table that the image of the loader is patched with: the address and the size of its symbol. -/
structure PagetableVar where
  addr : Word
  size : Word
  data : List Byte

/-- `loader_image[offset..offset + var_size].copy_from_slice(&var_data)`, with the assertions before it. -/
def patch (imageVaddr : Word) (image : List Byte) (var : PagetableVar) : Except String (List Byte) := do
  let offset := var.addr - imageVaddr
  failIf (var.size ≠ BitVec.ofNat 64 var.data.length) "assertion failed: var_size == var_data.len() as u64"
  failIf (¬ offset > 0) "assertion failed: offset > 0"
  failIf (¬ offset ≤ BitVec.ofNat 64 image.length) "assertion failed: offset <= loader_image.len() as u64"
  let stop := offset + var.size
  failIf (stop < offset) "slice index starts behind its end"
  failIf (stop.toNat > image.length) "range end index out of range"
  failIf (stop.toNat - offset.toNat ≠ var.data.length) "copy_from_slice: source and destination differ in length"
  return image.take offset.toNat ++ var.data ++ image.drop stop.toNat

/-- The table of the regions: each begins where the one before it ends. -/
def metadata (offset : Word) : List Region → List LoaderRegion64
  | [] => []
  | r :: regions =>
    ⟨r.addr, BitVec.ofNat 64 r.data.length, offset, 1⟩ :: metadata (offset + BitVec.ofNat 64 r.data.length) regions

/-- The magic number, by the word size of the loader. -/
def magicOf : Nat → Option Word
  | 32 => some 0x5e14dead
  | 64 => some 0x5e14dead14de5ead
  | _ => none

/-- `Loader::new`. `setupPagetables` is `aarch64_setup_pagetables` or `riscv64_setup_pagetables`, which only say
with what the image of the loader is patched. -/
def Loader.new (arch : Arch) (loaderElf kernelElf initialTaskElf : ElfFile) (initialTaskPhyBase : Word)
    (vaddrStart vaddrEnd : Word) (setupPagetables : Word → Word → Except String (List PagetableVar)) :
    Except String Loader := do
  failIf (arch = .x86_64) "internal error: x86_64 does not support creating a loader image"
  let magic ← orFail (magicOf loaderElf.wordSize) "Internal error: unexpected ELF word size"
  let vars ← kernelElf.loadableSegments.foldlM kernelSegment ⟨none, none, none, []⟩
  let taskSegments := initialTaskElf.loadableSegments.filter (0 < ·.memSize)
  let regions ← taskSegments.foldlM (taskSegment initialTaskPhyBase vaddrStart) vars.regions
  let kernelFirstVaddr ← orFail vars.firstVaddr "INTERNAL: could not determine kernel_first_vaddr"
  let kernelFirstPaddr ← orFail vars.firstPaddr "INTERNAL: could not determine kernel_first_paddr"
  let pagetableVars ← setupPagetables kernelFirstVaddr kernelFirstPaddr
  let imageSegment ← orFail (loaderElf.segments.find? (·.loadable)) "Did not find loadable segment"
  let imageVaddr := imageSegment.virtAddr
  let image ← imageSegment.bytes
  failIf (imageVaddr ≠ loaderElf.entry) "The loader entry point must be the first byte in the image"
  let loaderImage ← pagetableVars.foldlM (patch imageVaddr) image
  let pvOffset := initialTaskPhyBase - vaddrStart
  let uiPRegEnd := initialTaskPhyBase + (vaddrEnd - vaddrStart)
  failIf (¬ uiPRegEnd > initialTaskPhyBase) "assertion failed: ui_p_reg_end > ui_p_reg_start"
  checkNonOverlapping [] (regions ++ [⟨imageVaddr, loaderImage⟩])
  let regionMetadata := metadata 0 regions
  let size := regionMetadata.foldl (fun acc x => acc + x.size + 32) 0
  return {
    arch := arch
    loaderImage := loaderImage
    header := {
      magic := magic
      size := 64 + size
      kernelEntry := kernelElf.entry
      uiPRegStart := initialTaskPhyBase
      uiPRegEnd := uiPRegEnd
      pvOffset := pvOffset
      vEntry := initialTaskElf.entry
      numRegions := BitVec.ofNat 64 regions.length }
    regionMetadata := regionMetadata
    regions := regions
    entry := loaderElf.entry }

/-- The image of the loader, the header, the table of the regions, and their bytes. -/
def Loader.bytes (l : Loader) : List Byte :=
  l.loaderImage ++ (l.header.bytes ++ (l.regionMetadata.flatMap (·.bytes) ++ l.regions.flatMap (·.data)))

/-- `to_bytes`. A `Vec` holds at most `isize::MAX` bytes. -/
def Loader.toBytes (l : Loader) : Except String (List Byte) := do
  failIf (¬ l.bytes.length < 2 ^ 63) "capacity overflow"
  return l.bytes

/-! ## What `Loader::new` returns -/

@[simp] lemma wordBytes_length (v : Word) : (wordBytes v).length = 8 :=
  encode_length 8 _

@[simp] lemma LoaderRegion64.bytes_length (r : LoaderRegion64) : r.bytes.length = 32 := by
  rw [LoaderRegion64.bytes, length_flatMap_const fun v _ => wordBytes_length v]
  rfl

@[simp] lemma LoaderHeader64.bytes_length (h : LoaderHeader64) : h.bytes.length = 64 := by
  rw [LoaderHeader64.bytes, length_flatMap_const fun v _ => wordBytes_length v]
  rfl

/-- A loop whose steps add one region each. -/
private lemma foldlM_size {α β : Type} {f : β → α → Except String β} (size : β → Nat)
    (hf : ∀ {b a b'}, f b a = .ok b' → size b' = size b + 1) {xs : List α} {b b' : β} (h : xs.foldlM f b = .ok b') :
    size b' = size b + xs.length := by
  induction xs generalizing b with
  | nil =>
    obtain rfl := Except.ok.inj h
    rfl
  | cons a xs ih =>
    rw [List.foldlM_cons] at h
    obtain ⟨b1, h1, h2⟩ := bind_ok.mp h
    rw [ih h2, hf h1, List.length_cons]
    omega

lemma kernelSegment_size {vars vars' : KernelVars} {segment : ElfSegment} (h : kernelSegment vars segment = .ok vars') :
    vars'.regions.length = vars.regions.length + 1 := by
  obtain ⟨-, h⟩ := failIf_bind.mp h
  obtain ⟨data, -, h⟩ := bind_ok.mp h
  obtain rfl := pure_ok.mp h
  exact List.length_append

lemma taskSegment_size {phyBase vaddrStart : Word} {regions regions' : List Region} {segment : ElfSegment}
    (h : taskSegment phyBase vaddrStart regions segment = .ok regions') : regions'.length = regions.length + 1 := by
  obtain ⟨data, -, h⟩ := bind_ok.mp h
  obtain rfl := pure_ok.mp h
  exact List.length_append

lemma ElfFile.loadableSegments_length (elf : ElfFile) : elf.loadableSegments.length ≤ 65537 :=
  (List.length_filter_le _ _).trans elf.segments_le

/-- What the code that runs the image may rely on. -/
structure Produced (l : Loader) : Prop where
  few : l.regions.length < 2 ^ 32
  numRegions : l.header.numRegions = BitVec.ofNat 64 l.regions.length
  table : l.regionMetadata = metadata 0 l.regions

/-- What has been checked when a loader is made. -/
lemma Loader.new_produced {arch : Arch} {loaderElf kernelElf initialTaskElf : ElfFile}
    {initialTaskPhyBase vaddrStart vaddrEnd : Word} {setupPagetables : Word → Word → Except String (List PagetableVar)}
    {l : Loader} (h : Loader.new arch loaderElf kernelElf initialTaskElf initialTaskPhyBase vaddrStart vaddrEnd
      setupPagetables = .ok l) : Produced l := by
  unfold Loader.new at h
  obtain ⟨-, h⟩ := failIf_bind.mp h
  obtain ⟨magic, -, h⟩ := bind_ok.mp h
  obtain ⟨vars, hvars, h⟩ := bind_ok.mp h
  obtain ⟨regions, hregions, h⟩ := bind_ok.mp h
  obtain ⟨kernelFirstVaddr, -, h⟩ := bind_ok.mp h
  obtain ⟨kernelFirstPaddr, -, h⟩ := bind_ok.mp h
  obtain ⟨pagetableVars, -, h⟩ := bind_ok.mp h
  obtain ⟨imageSegment, -, h⟩ := bind_ok.mp h
  obtain ⟨image, -, h⟩ := bind_ok.mp h
  obtain ⟨-, h⟩ := failIf_bind.mp h
  obtain ⟨loaderImage, -, h⟩ := bind_ok.mp h
  obtain ⟨-, h⟩ := failIf_bind.mp h
  obtain ⟨_, -, h⟩ := bind_ok.mp h
  obtain rfl := pure_ok.mp h
  refine ⟨?_, rfl, rfl⟩
  have hk := foldlM_size (fun vars => vars.regions.length) kernelSegment_size hvars
  have ht := foldlM_size List.length taskSegment_size hregions
  have h1 := kernelElf.loadableSegments_length
  have h2 := initialTaskElf.loadableSegments_length
  have h3 := List.length_filter_le (fun s : ElfSegment => decide (0 < s.memSize)) initialTaskElf.loadableSegments
  dsimp only at hk
  rw [List.length_nil] at hk
  change regions.length < 2 ^ 32
  omega

end NexsKernel.Image
