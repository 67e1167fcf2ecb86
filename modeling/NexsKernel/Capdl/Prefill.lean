import NexsKernel.Capdl.Fill
import NexsKernel.Capdl.Parts
import NexsKernel.Lib.Chunks
import NexsKernel.Sdf.PageSizes

/-!
# Prefilled memory regions

The bytes of a file are spread over the frames of its memory region. The last frame with some of them is filled up with
zeros, but a frame that starts after the end of the file makes the builder panic: how much is left of the file is
computed with a subtraction that wraps. So a prefilled memory region is built, and its frames then contain the file
followed by zeros, exactly if its last frame does not start after the end of the file (`region_prefilled_iff`).
-/

namespace NexsKernel.Capdl

open Sdf Failing Chunks

/-- The data of programs, of which memory regions have none. -/
def noData : Nat → Nat → Option (List Byte) :=
  fun _ _ => none

/-- The frames of a memory region. -/
def makeRegionFrames (config : Config) (mr : SysMemoryRegion) : M (List ObjectId) :=
  (List.range mr.pageCount.toNat).mapM (makeRegionFrame config mr)

/-- A memory region is built, and its frames contain the bytes of its file, and then zeros up to its size. -/
def Prefilled (config : Config) (mr : SysMemoryRegion) (bytes : List Byte) (c : Container) : Prop :=
  ∃ frames c', makeRegionFrames config mr c = .ok frames c' ∧
    (frames.mapM (frameBytes noData mr.pageSizeBytes.toNat c')).map List.flatten =
      some (padTo mr.size.toNat 0 bytes)

/-- The last frame does not start after the end of the file. -/
def LastFrameStarts (mr : SysMemoryRegion) (bytes : List Byte) : Prop :=
  (mr.pageCount.toNat - 1) * mr.pageSizeBytes.toNat ≤ bytes.length

/-! ## Frames that are added -/

/-- The object of a frame of a memory region. -/
def regionFrame (config : Config) (mr : SysMemoryRegion) (fill : List FillEntry) (frameSequence : Nat) : NamedObject :=
  ⟨s!"frame_mr_{mr.name}_{pad9 frameSequence}", .frame (fixedSizeBits config mr.pageSize)
    (mr.paddr.map (· + BitVec.ofNat 64 frameSequence * mr.pageSizeBytes)) fill⟩

lemma mapM_addRootObject {α : Type} {f : α → M ObjectId} {obj : α → NamedObject} {xs : List α}
    (hf : ∀ x ∈ xs, f x = addRootObject (obj x)) (c : Container) :
    xs.mapM f c = .ok (List.range' c.objects.length xs.length) { c with objects := c.objects ++ xs.map obj } := by
  induction xs generalizing c with
  | nil =>
    rw [List.map_nil, List.append_nil]
    rfl
  | cons x xs ih =>
    have hadd : f x c = .ok c.objects.length (c.push (obj x)) := by
      rw [hf x List.mem_cons_self]
      rfl
    rw [List.mapM_cons, bind_ok hadd, bind_ok (ih (fun y hy => hf y (List.mem_cons_of_mem x hy)) (c.push (obj x)))]
    rw [push_length, List.length_cons, List.range'_succ, List.map_cons, List.append_cons]
    rfl

lemma mapM_some {α β : Type} {f : α → Option β} {g : α → β} {xs : List α} (hf : ∀ x ∈ xs, f x = some (g x)) :
    xs.mapM f = some (xs.map g) := by
  induction xs with
  | nil => rfl
  | cons x xs ih =>
    rw [List.mapM_cons, hf x List.mem_cons_self, ih fun y hy => hf y (List.mem_cons_of_mem x hy)]
    rfl

/-! ## The fill of one frame -/

section frame

variable {mr : SysMemoryRegion} {bytes : List Byte} {frameSequence : Nat}

lemma frameStart_toNat (hstop : (frameSequence + 1) * mr.pageSizeBytes.toNat ≤ mr.size.toNat) :
    (BitVec.ofNat 64 frameSequence * mr.pageSizeBytes).toNat = frameSequence * mr.pageSizeBytes.toNat := by
  rw [BitVec.toNat_mul, BitVec.toNat_ofNat, Nat.mod_mul_mod]
  apply Nat.mod_eq_of_lt
  have hlt := mr.size.isLt
  have hle : frameSequence * mr.pageSizeBytes.toNat ≤ (frameSequence + 1) * mr.pageSizeBytes.toNat :=
    Nat.mul_le_mul_right _ (Nat.le_succ _)
  omega

lemma wordMin_toNat (a b : Word) : (wordMin a b).toNat = min a.toNat b.toNat := by
  unfold wordMin
  split_ifs with h
  · exact (Nat.min_eq_left (BitVec.le_def.mp h)).symm
  · exact (Nat.min_eq_right (Nat.le_of_lt (BitVec.lt_def.mp (BitVec.not_le.mp h)))).symm

/-- What a frame has of the file. -/
def prefillEntry (mr : SysMemoryRegion) (bytes : List Byte) (frameSequence : Nat) : FillEntry :=
  ⟨0, BitVec.ofNat 64 (chunk mr.pageSizeBytes.toNat frameSequence bytes).length,
    .bytesContent (chunk mr.pageSizeBytes.toNat frameSequence bytes)⟩

/-- A frame that starts within the file, or at its end. -/
lemma regionFill_within (hbytes : mr.prefillBytes = some bytes) (hlength : bytes.length ≤ mr.size.toNat)
    (hstop : (frameSequence + 1) * mr.pageSizeBytes.toNat ≤ mr.size.toNat)
    (hstart : frameSequence * mr.pageSizeBytes.toNat ≤ bytes.length) :
    regionFill mr frameSequence = pure [prefillEntry mr bytes frameSequence] := by
  have hlt := mr.size.isLt
  have hword : (BitVec.ofNat 64 bytes.length).toNat = bytes.length := Nat.mod_eq_of_lt (by omega)
  have hs := frameStart_toNat hstop
  unfold regionFill
  rw [hbytes]
  dsimp only
  set start := BitVec.ofNat 64 frameSequence * mr.pageSizeBytes
  have hleft : (BitVec.ofNat 64 bytes.length - start).toNat = bytes.length - start.toNat := by
    rw [BitVec.toNat_sub, hword]
    omega
  set num := wordMin mr.pageSizeBytes (BitVec.ofNat 64 bytes.length - start)
  have hnum : num.toNat = min mr.pageSizeBytes.toNat (bytes.length - start.toNat) := by rw [wordMin_toNat, hleft]
  have hchunk : (bytes.drop start.toNat).take num.toNat = chunk mr.pageSizeBytes.toNat frameSequence bytes := by
    rw [hnum, ← List.length_drop, ← List.take_eq_take_min, hs]
    rfl
  have hchunkLength : (chunk mr.pageSizeBytes.toNat frameSequence bytes).length = num.toNat := by
    rw [← hchunk, List.length_take, List.length_drop]
    omega
  rw [if_neg (by rw [BitVec.toNat_add, hnum]; omega), hchunk, prefillEntry, hchunkLength, BitVec.ofNat_toNat,
    BitVec.setWidth_eq]

/-- A frame that starts after the end of the file: what is left of the file has wrapped. -/
lemma regionFill_beyond (hbytes : mr.prefillBytes = some bytes)
    (hstop : (frameSequence + 1) * mr.pageSizeBytes.toNat ≤ mr.size.toNat)
    (hwrap : mr.size.toNat + mr.pageSizeBytes.toNat ≤ 2 ^ 64)
    (hstart : bytes.length < frameSequence * mr.pageSizeBytes.toNat) {c c' : Container} {fill : List FillEntry} :
    regionFill mr frameSequence c ≠ .ok fill c' := by
  have hlt := mr.size.isLt
  have hs := frameStart_toNat hstop
  rw [Nat.succ_mul] at hstop
  have hword : (BitVec.ofNat 64 bytes.length).toNat = bytes.length := Nat.mod_eq_of_lt (by omega)
  unfold regionFill
  rw [hbytes]
  dsimp only
  set start := BitVec.ofNat 64 frameSequence * mr.pageSizeBytes
  have hleft : (BitVec.ofNat 64 bytes.length - start).toNat = 2 ^ 64 - (start.toNat - bytes.length) := by
    rw [BitVec.toNat_sub, hword]
    omega
  have hnum : (wordMin mr.pageSizeBytes (BitVec.ofNat 64 bytes.length - start)).toNat = mr.pageSizeBytes.toNat := by
    rw [wordMin_toNat, hleft]
    omega
  rw [if_pos]
  · exact nofun
  · rw [BitVec.toNat_add, hnum]
    omega

/-- A frame has its chunk of the file, and is zero after it. -/
lemma fillFrame_prefillEntry :
    fillFrame noData mr.pageSizeBytes.toNat [prefillEntry mr bytes frameSequence] =
      some (padTo mr.pageSizeBytes.toNat 0 (chunk mr.pageSizeBytes.toNat frameSequence bytes)) := by
  have hle : (chunk mr.pageSizeBytes.toNat frameSequence bytes).length ≤ mr.pageSizeBytes.toNat :=
    List.length_take_le _ _
  have hstop : (BitVec.ofNat 64 (chunk mr.pageSizeBytes.toNat frameSequence bytes).length).toNat =
      (chunk mr.pageSizeBytes.toNat frameSequence bytes).length :=
    Nat.mod_eq_of_lt (lt_of_le_of_lt hle mr.pageSizeBytes.isLt)
  unfold fillFrame
  rw [List.foldlM_cons, copyEntry, prefillEntry, FillContent.bytes]
  dsimp only
  rw [if_pos]
  · rw [hstop, List.drop_replicate]
    rfl
  · rw [hstop, List.length_replicate]
    exact ⟨Nat.zero_add _, hle⟩

end frame

/-! ## All frames -/

section region

variable {config : Config} {mr : SysMemoryRegion} {bytes : List Byte} {c : Container}

/-- There is a page between the end of a memory region and where addresses wrap. -/
lemma size_add_page_le (hcount : mr.pageCount.toNat * mr.pageSizeBytes.toNat = mr.size.toNat) :
    mr.size.toNat + mr.pageSizeBytes.toNat ≤ 2 ^ 64 := by
  have hlt := mr.size.isLt
  rw [SysMemoryRegion.pageSizeBytes] at hcount ⊢
  cases hp : mr.pageSize with
  | small =>
    rw [hp, show Sdf.PageSize.small.bytes.toNat = 0x1000 from rfl] at hcount
    rw [show Sdf.PageSize.small.bytes.toNat = 0x1000 from rfl]
    omega
  | large =>
    rw [hp, show Sdf.PageSize.large.bytes.toNat = 0x200000 from rfl] at hcount
    rw [show Sdf.PageSize.large.bytes.toNat = 0x200000 from rfl]
    omega

lemma frame_stop_le (hcount : mr.pageCount.toNat * mr.pageSizeBytes.toNat = mr.size.toNat) {frameSequence : Nat}
    (h : frameSequence ∈ List.range mr.pageCount.toNat) : (frameSequence + 1) * mr.pageSizeBytes.toNat ≤
    mr.size.toNat :=
  hcount ▸ Nat.mul_le_mul_right _ (List.mem_range.mp h)

lemma lastFrameStarts_iff : LastFrameStarts mr bytes ↔
    ∀ frameSequence ∈ List.range mr.pageCount.toNat, frameSequence * mr.pageSizeBytes.toNat ≤ bytes.length := by
  unfold LastFrameStarts
  constructor
  · intro h frameSequence hseq
    exact le_trans (Nat.mul_le_mul_right _ (Nat.le_sub_one_of_lt (List.mem_range.mp hseq))) h
  · intro h
    rcases Nat.eq_zero_or_pos mr.pageCount.toNat with hzero | hpos
    · rw [hzero, Nat.zero_sub, Nat.zero_mul]
      exact Nat.zero_le _
    · exact h _ (List.mem_range.mpr (Nat.sub_one_lt_of_lt hpos))

/-- Every frame of a memory region that has been built starts within the file, or at its end. -/
lemma starts_of_built (hbytes : mr.prefillBytes = some bytes)
    (hcount : mr.pageCount.toNat * mr.pageSizeBytes.toNat = mr.size.toNat) {frames : List ObjectId} {c' : Container}
    (h : makeRegionFrames config mr c = .ok frames c') :
    ∀ frameSequence ∈ List.range mr.pageCount.toNat, frameSequence * mr.pageSizeBytes.toNat ≤ bytes.length := by
  refine mapM_ok (P := fun pre _ _ => ∀ k ∈ pre, k * mr.pageSizeBytes.toNat ≤ bytes.length) h nofun ?_
  intro pre frameSequence _ c1 _ c2 hpre hstarts hframe k hk
  rcases List.mem_append.mp hk with hk | hk
  · exact hstarts k hk
  · obtain rfl := List.mem_singleton.mp hk
    have hmem : k ∈ List.range mr.pageCount.toNat := hpre.subset (List.mem_append_right _ List.mem_cons_self)
    by_contra hbeyond
    obtain ⟨fill, _, hfill, -⟩ := ok_bind hframe
    exact regionFill_beyond hbytes (frame_stop_le hcount hmem) (size_add_page_le hcount)
      (Nat.lt_of_not_le hbeyond) hfill

/-- The frames are built one after the other, and contain the chunks of the file. -/
lemma prefilled_of_starts (hbytes : mr.prefillBytes = some bytes) (hlength : bytes.length ≤ mr.size.toNat)
    (hcount : mr.pageCount.toNat * mr.pageSizeBytes.toNat = mr.size.toNat)
    (hstarts : ∀ frameSequence ∈ List.range mr.pageCount.toNat, frameSequence * mr.pageSizeBytes.toNat ≤ bytes.length) :
    Prefilled config mr bytes c := by
  have hframe : ∀ k ∈ List.range mr.pageCount.toNat,
      makeRegionFrame config mr k = addRootObject (regionFrame config mr [prefillEntry mr bytes k] k) := by
    intro k hk
    unfold makeRegionFrame
    rw [regionFill_within hbytes hlength (frame_stop_le hcount hk) (hstarts k hk)]
    rfl
  refine ⟨_, _, mapM_addRootObject hframe c, ?_⟩
  rw [List.length_range, List.range'_eq_map_range, List.mapM_map, mapM_some (g := fun k =>
    chunk mr.pageSizeBytes.toNat k (padTo mr.size.toNat 0 bytes)), Option.map_some, flatten_chunks, hcount,
    List.take_of_length_le (padTo_length hlength).le]
  intro k hk
  have hget : (c.objects ++ (List.range mr.pageCount.toNat).map fun k =>
      regionFrame config mr [prefillEntry mr bytes k] k)[c.objects.length + k]? =
      some (regionFrame config mr [prefillEntry mr bytes k] k) := by
    rw [List.getElem?_append_right (Nat.le_add_right _ _), Nat.add_sub_cancel_left, List.getElem?_map,
      List.getElem?_range (List.mem_range.mp hk)]
    rfl
  rw [chunk_padTo (hstarts k hk) (frame_stop_le hcount hk), ← fillFrame_prefillEntry]
  exact frameBytes_eq hget

end region

/-- A prefilled memory region of a description that the parser accepts is built with the bytes of its file exactly if
its last frame does not start after the end of the file. A `Vec` has less than `2 ^ 63` bytes. -/
theorem region_prefilled_iff {filename : String} {config : Config} {files : String → PrefillFile} {nodes : List Node}
    {sd : SystemDescription} (h : parse filename config files (.ok nodes) = .ok sd) {mr : SysMemoryRegion}
    (hmr : mr ∈ sd.memoryRegions) {bytes : List Byte} (hbytes : mr.prefillBytes = some bytes)
    (hlength : bytes.length < 2 ^ 63) (c : Container) :
    Prefilled config mr bytes c ↔ LastFrameStarts mr bytes := by
  obtain ⟨_, system, body, flat, optimised, e, hs⟩ := parse_stages h
  cases e
  obtain ⟨_, -, hchosen⟩ := Checks.exists_of_forall₂ hs.pagesChosen hmr
  obtain ⟨_, -, mr0, hread, hfinished⟩ := Checks.exists_of_forall₂ hs.regions hmr
  have hle : bytes.length ≤ mr.size.toNat :=
    hfinished.size ▸ hread.prefill_le (hfinished.prefillBytes ▸ hbytes) hlength
  rw [lastFrameStarts_iff]
  constructor
  · rintro ⟨frames, c', hbuilt, -⟩
    exact starts_of_built hbytes hchosen.count hbuilt
  · exact prefilled_of_starts hbytes hle hchosen.count

/-- A memory region of two pages, with a file of one byte. -/
private def oneByte : List Node :=
  [.element "system" [] ⟨1, 1⟩ [
    .element "memory_region" [("name", "table"), ("size", "0x2000"), ("prefill_path", "table.bin")] ⟨2, 3⟩ [],
    .element "protection_domain" [("name", "driver")] ⟨3, 3⟩ [
      .element "program_image" [("path", "driver.elf")] ⟨4, 5⟩ []]]]

private def oneByteConfig : Config :=
  ⟨.riscv64, false, false, 1, none, none, ⟨10, 4, 6, 5, 12, 12, 21, 12, 12⟩, riscv_paSize⟩

private def oneByteRegion : SysMemoryRegion :=
  ⟨"table", 0x2000, false, .small, 2, .unspecified, ⟨2, 3⟩, some [0x5a]⟩

private def oneByteParsed : SystemDescription :=
  ⟨[{ id := none, name := "driver", priority := 0, budget := 1000, period := 1000, passive := false, stackSize := 0x2000
      smc := false, cpu := 0, programImage := "driver.elf", programImageForSymbols := none, fpu := true, maps := []
      irqs := [], ioports := [], setvars := [], virtualMachine := none, hasChildren := false, parent := none
      setvarId := none, textPos := ⟨3, 3⟩ }],
    [oneByteRegion], []⟩

private lemma oneByte_parsed :
    parse "table.system" oneByteConfig (fun _ => .content [0x5a]) (.ok oneByte) = .ok oneByteParsed := by
  decide +kernel

/-- A region of two pages, and a file of one byte. -/
theorem region_prefilled_iff_oneByte :
    parse "table.system" oneByteConfig (fun _ => .content [0x5a]) (.ok oneByte) = .ok oneByteParsed ∧
      (Prefilled oneByteConfig oneByteRegion [0x5a] ⟨[], []⟩ ↔ LastFrameStarts oneByteRegion [0x5a]) :=
  ⟨oneByte_parsed, region_prefilled_iff oneByte_parsed List.mem_cons_self rfl (by decide) _⟩

/-- The second frame starts after the end of the file. -/
theorem region_beyond_file :
    ∃ sd mr bytes c', parse "table.system" oneByteConfig (fun _ => .content [0x5a]) (.ok oneByte) = .ok sd ∧
      mr ∈ sd.memoryRegions ∧ mr.prefillBytes = some bytes ∧
      makeRegionFrames oneByteConfig mr ⟨[], []⟩ =
        .error (.panicked "range end index 8192 out of range for slice of length 1") c' ∧
      ¬ Prefilled oneByteConfig mr bytes ⟨[], []⟩ := by
  have hfails : ∃ c', makeRegionFrames oneByteConfig oneByteRegion ⟨[], []⟩ =
      .error (.panicked "range end index 8192 out of range for slice of length 1") c' :=
    ⟨_, rfl⟩
  obtain ⟨c', hc'⟩ := hfails
  refine ⟨oneByteParsed, oneByteRegion, [0x5a], c', oneByte_parsed, List.mem_cons_self, rfl, hc', ?_⟩
  rintro ⟨frames, c'', hbuilt, -⟩
  cases hc'.symm.trans hbuilt

end NexsKernel.Capdl
