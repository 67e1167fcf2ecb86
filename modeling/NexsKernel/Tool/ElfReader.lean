import NexsKernel.Sdf.Config
import NexsKernel.Tool.LoaderImage

/-!
# Reading ELF files

`ElfFileReader` (`elf.rs`) reads the header of a program and the segments that its program headers describe. The offset
of a program header is computed with 16 bits, and an entry must have exactly the size of the structure. So the segments
of a well-formed file are read exactly if its entries have that size, the last of them does not start 2 ^ 16 bytes or
more after the first, and no segment is larger than a `Vec` can be (`segments_iff`).
-/

namespace NexsKernel.Image

open Bytes Checks
open Sdf (Failure)

/-! ## Structures -/

/-- A little-endian field of a structure. -/
def field (bytes : List Byte) (offset size : Nat) : Nat :=
  decode ((bytes.drop offset).take size)

/-- `ElfHeader64`, as far as it is used. -/
structure ElfHeader64 where
  identData : BitVec 8
  machine : BitVec 16
  entry : Word
  phoff : Word
  phentsize : BitVec 16
  phnum : BitVec 16
  deriving DecidableEq, Repr

def ElfHeader64.size : Nat := 64

def ElfHeader64.ofBytes (bytes : List Byte) : ElfHeader64 where
  identData := BitVec.ofNat 8 (field bytes 5 1)
  machine := BitVec.ofNat 16 (field bytes 18 2)
  entry := BitVec.ofNat 64 (field bytes 24 8)
  phoff := BitVec.ofNat 64 (field bytes 32 8)
  phentsize := BitVec.ofNat 16 (field bytes 54 2)
  phnum := BitVec.ofNat 16 (field bytes 56 2)

structure ElfProgramHeader64 where
  type : BitVec 32
  flags : BitVec 32
  offset : Word
  vaddr : Word
  paddr : Word
  filesz : Word
  memsz : Word
  align : Word
  deriving DecidableEq, Repr

def ElfProgramHeader64.size : Nat := 56

def ElfProgramHeader64.ofBytes (bytes : List Byte) : ElfProgramHeader64 where
  type := BitVec.ofNat 32 (field bytes 0 4)
  flags := BitVec.ofNat 32 (field bytes 4 4)
  offset := BitVec.ofNat 64 (field bytes 8 8)
  vaddr := BitVec.ofNat 64 (field bytes 16 8)
  paddr := BitVec.ofNat 64 (field bytes 24 8)
  filesz := BitVec.ofNat 64 (field bytes 32 8)
  memsz := BitVec.ofNat 64 (field bytes 40 8)
  align := BitVec.ofNat 64 (field bytes 48 8)

/-- `PHENT_TYPE_LOADABLE`. -/
def phentTypeLoadable : BitVec 32 := 1

/-- `ElfSegment` with its `attrs`. -/
structure FileSegment extends ElfSegment where
  attrs : BitVec 32
  deriving Repr

structure ElfFileReader where
  bytes : List Byte
  wordSize : Nat
  hdr : ElfHeader64
  deriving Repr

/-! ## Reading -/

/-- `bytes[start..stop]`. -/
def slice (bytes : List Byte) (start stop : Word) : Except Failure (List Byte) := do
  failIf (stop < start) (.panicked s!"slice index starts at {start.toNat} but ends at {stop.toNat}")
  failIf (bytes.length < stop.toNat)
    (.panicked s!"range end index {stop.toNat} out of range for slice of length {bytes.length}")
  return (bytes.drop start.toNat).take (stop.toNat - start.toNat)

/-- `bytes_to_struct`, of a packed structure with `size` bytes. -/
def bytesToStruct {α : Type} (size : Nat) (ofBytes : List Byte → α) (bytes : List Byte) : Except Failure α := do
  failIf (bytes.length / size ≠ 1) (.panicked "assertion failed: body.len() == 1")
  failIf (bytes.length % size ≠ 0) (.panicked "assertion failed: suffix.is_empty()")
  return ofBytes bytes

namespace ElfFileReader

/-- `from_path`. `file` are the bytes of the file, or why it cannot be read. -/
def fromPath (path : String) (file : Except String (List Byte)) : Except Failure ElfFileReader :=
  match file with
  | .error reason => .error (.err s!"failed to read ELF: {reason}")
  | .ok bytes => do
    let magic ← slice bytes 0 4
    failIf (magic ≠ [0x7f, 0x45, 0x4c, 0x46]) (.err "magic check failed")
    let cls ← slice bytes 4 5
    let cls := cls.headD 0
    failIf (cls ≠ 1 ∧ cls ≠ 2) (.err s!"invalid class '{cls.toNat}'")
    failIf (cls = 1) (.err s!"ELF '{path}': unsupported word size: '32'")
    let hdrBytes ← slice bytes 0 (BitVec.ofNat 64 ElfHeader64.size)
    -- of the magic number and the class it is asserted that they are what was checked above
    let hdr ← bytesToStruct ElfHeader64.size ElfHeader64.ofBytes hdrBytes
    failIf (hdr.identData ≠ 1) (.err "incorrect endianness, only little endian architectures are supported")
    return ⟨bytes, 64, hdr⟩

variable (reader : ElfFileReader)

/-- `phent_start`. The product is a `u16`. -/
def phentStart (i : Nat) : Word :=
  reader.hdr.phoff + (BitVec.ofNat 16 i * reader.hdr.phentsize).setWidth 64

/-- The program header that is read as number `i`. -/
def programHeader (i : Nat) : Except Failure ElfProgramHeader64 := do
  let phentStart := reader.phentStart i
  let phentEnd := phentStart + reader.hdr.phentsize.setWidth 64
  let phentBytes ← slice reader.bytes phentStart phentEnd
  bytesToStruct ElfProgramHeader64.size ElfProgramHeader64.ofBytes phentBytes

/-- The segment of a program header, if it is loadable. -/
def segment (phent : ElfProgramHeader64) : Except Failure (Option FileSegment) := do
  let segmentStart := phent.offset
  let segmentEnd := phent.offset + phent.filesz
  if phent.type ≠ phentTypeLoadable then return none
  else
    -- a `Vec` has at most `isize::MAX` bytes
    failIf (2 ^ 63 ≤ phent.memsz.toNat) (.panicked "capacity overflow")
    failIf (phent.memsz < phent.filesz)
      (.panicked s!"range end index {phent.filesz.toNat} out of range for slice of length {phent.memsz.toNat}")
    let bytes ← slice reader.bytes segmentStart segmentEnd
    return some ⟨⟨.realData (bytes ++ List.replicate (phent.memsz.toNat - phent.filesz.toNat) 0),
      phent.paddr, phent.vaddr, true⟩, phent.flags⟩

/-- `segments`. -/
def segments : Except Failure (List FileSegment) := do
  failIf (reader.hdr.phnum = 0) (.err "has no program headers")
  let segments ← (List.range reader.hdr.phnum.toNat).mapM fun i => do
    let phent ← reader.programHeader i
    reader.segment phent
  return segments.filterMap id

end ElfFileReader

/-! ## Files -/

section files

variable (bytes : List Byte)

def fileHeader : ElfHeader64 :=
  ElfHeader64.ofBytes (bytes.take ElfHeader64.size)

/-- Where the program header `i` of a file is. -/
def headerOffset (i : Nat) : Nat :=
  (fileHeader bytes).phoff.toNat + i * (fileHeader bytes).phentsize.toNat

/-- The program header `i` of a file. -/
def fileProgramHeader (i : Nat) : ElfProgramHeader64 :=
  ElfProgramHeader64.ofBytes ((bytes.drop (headerOffset bytes i)).take ElfProgramHeader64.size)

/-- The program headers with segments that are loaded, in their order. -/
def loadableHeaders : List ElfProgramHeader64 :=
  ((List.range (fileHeader bytes).phnum.toNat).map (fileProgramHeader bytes)).filter (·.type = phentTypeLoadable)

/-- The segment that a program header describes: its bytes in the file, and zeros up to its size. -/
def describedSegment (phent : ElfProgramHeader64) : FileSegment :=
  ⟨⟨.realData ((bytes.drop phent.offset.toNat).take phent.filesz.toNat ++
    List.replicate (phent.memsz.toNat - phent.filesz.toNat) 0), phent.paddr, phent.vaddr, true⟩, phent.flags⟩

/-- A well-formed little-endian file of 64 bits. -/
structure WellFormed : Prop where
  /-- A `Vec` has less than `2 ^ 63` bytes. -/
  length_lt : bytes.length < 2 ^ 63
  header : ElfHeader64.size ≤ bytes.length
  magic : bytes.take 4 = [0x7f, 0x45, 0x4c, 0x46]
  cls : field bytes 4 1 = 2
  littleEndian : (fileHeader bytes).identData = 1
  entrySize : ElfProgramHeader64.size ≤ (fileHeader bytes).phentsize.toNat
  table : headerOffset bytes (fileHeader bytes).phnum.toNat ≤ bytes.length
  sizes : ∀ phent ∈ loadableHeaders bytes, phent.filesz.toNat ≤ phent.memsz.toNat
  data : ∀ phent ∈ loadableHeaders bytes, phent.offset.toNat + phent.filesz.toNat ≤ bytes.length

/-- The segments of a file are read, each from its program header. -/
def SegmentsRead (path : String) : Prop :=
  ∃ reader, ElfFileReader.fromPath path (.ok bytes) = .ok reader ∧
    (∀ i < reader.hdr.phnum.toNat, (reader.phentStart i).toNat = headerOffset bytes i) ∧
    reader.segments = .ok ((loadableHeaders bytes).map (describedSegment bytes))

/-- What reading the segments asks for. -/
structure Readable : Prop where
  headers : (fileHeader bytes).phnum ≠ 0
  entrySize : (fileHeader bytes).phentsize.toNat = ElfProgramHeader64.size
  lastOffset : ((fileHeader bytes).phnum.toNat - 1) * ElfProgramHeader64.size < 2 ^ 16
  sizes : ∀ phent ∈ loadableHeaders bytes, phent.memsz.toNat < 2 ^ 63

end files

/-! ## Slices -/

section slices

variable {bytes r : List Byte} {start stop : Word}

lemma slice_ok : slice bytes start stop = .ok r ↔ start.toNat ≤ stop.toNat ∧ stop.toNat ≤ bytes.length ∧
    (bytes.drop start.toNat).take (stop.toNat - start.toNat) = r := by
  unfold slice
  rw [failIf_bind, failIf_bind, pure_ok, BitVec.not_lt, BitVec.le_def, not_lt]

lemma bytesToStruct_ok {α : Type} {size : Nat} {ofBytes : List Byte → α} {a : α} (hsize : 0 < size) :
    bytesToStruct size ofBytes bytes = .ok a ↔ bytes.length = size ∧ ofBytes bytes = a := by
  unfold bytesToStruct
  rw [failIf_bind, failIf_bind, pure_ok, not_not, not_not, ← and_assoc]
  refine and_congr_left' ⟨fun h => ?_, fun h => ?_⟩
  · rw [← Nat.div_add_mod bytes.length size, h.1, h.2, Nat.mul_one, Nat.add_zero]
  · rw [h]
    exact ⟨Nat.div_self hsize, Nat.mod_self size⟩

/-- The slice of `n` bytes from an address on. -/
lemma slice_add {n : Nat} {start stop : Word} (hstop : stop.toNat = start.toNat + n) (hle : stop.toNat ≤ bytes.length) :
    slice bytes start stop = .ok ((bytes.drop start.toNat).take n) := by
  rw [slice_ok, hstop, Nat.add_sub_cancel_left]
  exact ⟨Nat.le_add_right _ _, hstop ▸ hle, rfl⟩

end slices

/-! ## One program header -/

section header

variable {path : String} {bytes : List Byte} {i : Nat}

/-- What has been read when a file is accepted. -/
lemma fromPath_ok (h : WellFormed bytes) : ElfFileReader.fromPath path (.ok bytes) =
    .ok ⟨bytes, 64, fileHeader bytes⟩ := by
  have hheader : 64 ≤ bytes.length := h.header
  have hmagic : slice bytes 0 4 = .ok (bytes.take 4) := slice_add rfl (le_trans (by decide) hheader)
  have hcls : slice bytes 4 5 = .ok ((bytes.drop 4).take 1) := slice_add rfl (le_trans (by decide) hheader)
  have hhdr : slice bytes 0 (BitVec.ofNat 64 ElfHeader64.size) = .ok (bytes.take 64) := slice_add rfl hheader
  have hone : (bytes.drop 4).take 1 = [2] := by
    have hc := h.cls
    unfold field at hc
    cases hd : bytes.drop 4 with
    | nil =>
      rw [hd] at hc
      cases hc
    | cons b rest =>
      rw [hd] at hc
      have hb : b.toNat = 2 := hc
      rw [List.take_succ_cons, List.take_zero, BitVec.eq_of_toNat_eq (y := 2) hb]
  have hstruct : bytesToStruct ElfHeader64.size ElfHeader64.ofBytes (bytes.take 64) = .ok (fileHeader bytes) :=
    (bytesToStruct_ok (by decide)).mpr ⟨List.length_take_of_le hheader, rfl⟩
  unfold ElfFileReader.fromPath
  refine bind_ok.mpr ⟨_, hmagic, failIf_bind.mpr ⟨not_not.mpr h.magic, bind_ok.mpr ⟨_, hcls, ?_⟩⟩⟩
  rw [hone]
  refine failIf_bind.mpr ⟨by decide, failIf_bind.mpr ⟨by decide, bind_ok.mpr ⟨_, hhdr, bind_ok.mpr ⟨_, hstruct, ?_⟩⟩⟩⟩
  exact failIf_bind.mpr ⟨not_not.mpr h.littleEndian, rfl⟩

/-- An entry has the size of the structure, if it is read. -/
lemma entrySize_of_read {reader : ElfFileReader} {phent : ElfProgramHeader64}
    (h : reader.programHeader i = .ok phent) : reader.hdr.phentsize.toNat = ElfProgramHeader64.size := by
  obtain ⟨phentBytes, hslice, hstruct⟩ := bind_ok.mp h
  obtain ⟨hle, hlen, rfl⟩ := slice_ok.mp hslice
  have hlength := ((bytesToStruct_ok (by decide)).mp hstruct).1
  rw [List.length_take, List.length_drop] at hlength
  have hsmall : reader.hdr.phentsize.toNat < 2 ^ 16 := reader.hdr.phentsize.isLt
  rw [BitVec.toNat_add, BitVec.toNat_setWidth] at hle hlen hlength
  omega

/-- An entry is read from where it is. -/
lemma programHeader_ok (h : WellFormed bytes) (hi : i < (fileHeader bytes).phnum.toNat)
    (hsize : (fileHeader bytes).phentsize.toNat = ElfProgramHeader64.size) {reader : ElfFileReader}
    (hbytes : reader.bytes = bytes) (hhdr : reader.hdr = fileHeader bytes)
    (hstart : (reader.phentStart i).toNat = headerOffset bytes i) :
    reader.programHeader i = .ok (fileProgramHeader bytes i) := by
  have htable := h.table
  have hlength := h.length_lt
  have hend : headerOffset bytes i + ElfProgramHeader64.size ≤ headerOffset bytes (fileHeader bytes).phnum.toNat := by
    unfold headerOffset
    rw [hsize, Nat.add_assoc, ← Nat.succ_mul]
    exact Nat.add_le_add_left (Nat.mul_le_mul_right _ hi) _
  have hstop : (reader.phentStart i + reader.hdr.phentsize.setWidth 64).toNat =
      (reader.phentStart i).toNat + ElfProgramHeader64.size := by
    rw [BitVec.toNat_add, BitVec.toNat_setWidth, hhdr, hsize, hstart]
    omega
  unfold ElfFileReader.programHeader
  dsimp only
  rw [bind_ok]
  refine ⟨_, slice_add hstop (by rw [hstop, hstart, hbytes]; omega), ?_⟩
  rw [hstart, hbytes, bytesToStruct_ok (by decide)]
  refine ⟨?_, rfl⟩
  rw [List.length_take, List.length_drop]
  omega

/-- The segment of a program header, if it is loadable. -/
def describedIfLoadable (bytes : List Byte) (phent : ElfProgramHeader64) : Option FileSegment :=
  if phent.type = phentTypeLoadable then some (describedSegment bytes phent) else none

lemma segment_ok (h : WellFormed bytes) {reader : ElfFileReader} (hbytes : reader.bytes = bytes)
    {phent : ElfProgramHeader64} (hloadable : phent.type = phentTypeLoadable → phent ∈ loadableHeaders bytes)
    (hsize : phent.type = phentTypeLoadable → phent.memsz.toNat < 2 ^ 63) :
    reader.segment phent = .ok (describedIfLoadable bytes phent) := by
  unfold ElfFileReader.segment describedIfLoadable
  by_cases htype : phent.type = phentTypeLoadable
  · have hlength := h.length_lt
    have hfits := h.sizes phent (hloadable htype)
    have hdata := h.data phent (hloadable htype)
    have hstop : (phent.offset + phent.filesz).toNat = phent.offset.toNat + phent.filesz.toNat := by
      rw [BitVec.toNat_add, Nat.mod_eq_of_lt (by omega)]
    dsimp only
    rw [if_neg (not_not.mpr htype), if_pos htype]
    refine failIf_bind.mpr ⟨Nat.not_le.mpr (hsize htype), failIf_bind.mpr ⟨?_, bind_ok.mpr ⟨_, ?_, rfl⟩⟩⟩
    · exact BitVec.not_lt.mpr (BitVec.le_def.mpr hfits)
    · rw [hbytes]
      exact slice_add hstop (hstop ▸ hdata)
  · dsimp only
    rw [if_pos htype, if_neg htype]
    rfl

/-- A segment that has been read is no larger than a `Vec` can be. -/
lemma memsz_lt_of_read {reader : ElfFileReader} {phent : ElfProgramHeader64} {segment : Option FileSegment}
    (h : reader.segment phent = .ok segment) (htype : phent.type = phentTypeLoadable) : phent.memsz.toNat < 2 ^ 63 := by
  unfold ElfFileReader.segment at h
  dsimp only at h
  rw [if_neg (not_not.mpr htype)] at h
  exact Nat.lt_of_not_le (failIf_bind.mp h).1

end header

/-! ## All program headers -/

section headers

variable {bytes : List Byte}

lemma mem_loadableHeaders {i : Nat} (hi : i < (fileHeader bytes).phnum.toNat)
    (htype : (fileProgramHeader bytes i).type = phentTypeLoadable) : fileProgramHeader bytes i ∈
    loadableHeaders bytes :=
  List.mem_filter.mpr ⟨List.mem_map_of_mem (List.mem_range.mpr hi), decide_eq_true htype⟩

lemma filterMap_described (phents : List ElfProgramHeader64) : phents.filterMap (describedIfLoadable bytes) =
    (phents.filter (·.type = phentTypeLoadable)).map (describedSegment bytes) := by
  induction phents with
  | nil => rfl
  | cons phent phents ih =>
    rw [List.filterMap_cons, List.filter_cons]
    unfold describedIfLoadable
    by_cases htype : phent.type = phentTypeLoadable
    · rw [if_pos htype, if_pos (decide_eq_true htype), List.map_cons, ← ih]
      rfl
    · rw [if_neg htype, if_neg (by rw [decide_eq_true_iff]; exact htype), ← ih]
      rfl

/-- An offset that is computed with 16 bits is right if it is smaller than 2 ^ 16. -/
lemma phentStart_iff (h : WellFormed bytes) {reader : ElfFileReader} (hhdr : reader.hdr = fileHeader bytes) {i : Nat}
    (hi : i < (fileHeader bytes).phnum.toNat) :
    (reader.phentStart i).toNat = headerOffset bytes i ↔ i * (fileHeader bytes).phentsize.toNat < 2 ^ 16 := by
  have htable := h.table
  have hlength := h.length_lt
  have hphnum : (fileHeader bytes).phnum.toNat < 2 ^ 16 := (fileHeader bytes).phnum.isLt
  have hle : i * (fileHeader bytes).phentsize.toNat ≤
      (fileHeader bytes).phnum.toNat * (fileHeader bytes).phentsize.toNat := Nat.mul_le_mul_right _ (Nat.le_of_lt hi)
  have hstart : (reader.phentStart i).toNat =
      ((fileHeader bytes).phoff.toNat + i * (fileHeader bytes).phentsize.toNat % 2 ^ 16 % 2 ^ 64) % 2 ^ 64 := by
    rw [ElfFileReader.phentStart, hhdr, BitVec.toNat_add, BitVec.toNat_setWidth, BitVec.toNat_mul, BitVec.toNat_ofNat,
      Nat.mod_eq_of_lt (a := i) (by omega)]
  rw [hstart]
  unfold headerOffset at htable ⊢
  generalize i * (fileHeader bytes).phentsize.toNat = offset at hle ⊢
  omega

end headers

/-- What meets `Readable` is read. -/
lemma segmentsRead_of_readable {bytes : List Byte} (h : WellFormed bytes) (path : String) (hr : Readable bytes) :
    SegmentsRead bytes path := by
  have hpath : ElfFileReader.fromPath path (.ok bytes) = .ok ⟨bytes, 64, fileHeader bytes⟩ := fromPath_ok h
  have hstarts : ∀ i < (fileHeader bytes).phnum.toNat,
      (ElfFileReader.phentStart ⟨bytes, 64, fileHeader bytes⟩ i).toNat = headerOffset bytes i := by
    intro i hi
    refine (phentStart_iff h rfl hi).mpr (lt_of_le_of_lt ?_ hr.lastOffset)
    rw [hr.entrySize]
    exact Nat.mul_le_mul_right _ (Nat.le_sub_one_of_lt hi)
  refine ⟨_, hpath, hstarts, failIf_bind.mpr ⟨hr.headers, bind_ok.mpr ⟨_, mapM_ok_of (g := fun i =>
    describedIfLoadable bytes (fileProgramHeader bytes i)) ?_, ?_⟩⟩⟩
  · intro i hi
    have hi := List.mem_range.mp hi
    refine bind_ok.mpr ⟨_, programHeader_ok h hi hr.entrySize rfl rfl (hstarts i hi), ?_⟩
    exact segment_ok h rfl (mem_loadableHeaders hi) fun htype => hr.sizes _ (mem_loadableHeaders hi htype)
  · rw [loadableHeaders, ← filterMap_described, List.filterMap_map, List.filterMap_map]
    rfl

/-- What is read meets `Readable`. -/
lemma readable_of_segmentsRead {bytes : List Byte} (h : WellFormed bytes) (path : String)
    (hread : SegmentsRead bytes path) :
    Readable bytes := by
  have hpath : ElfFileReader.fromPath path (.ok bytes) = .ok ⟨bytes, 64, fileHeader bytes⟩ := fromPath_ok h
  obtain ⟨reader, hreader, hstarts, hsegments⟩ := hread
  obtain rfl := Except.ok.inj (hpath.symm.trans hreader)
  obtain ⟨hnum, hsegments⟩ := failIf_bind.mp hsegments
  obtain ⟨segments, hall, -⟩ := bind_ok.mp hsegments
  have hread : ∀ i < (fileHeader bytes).phnum.toNat, ∃ phent segment,
      ElfFileReader.programHeader ⟨bytes, 64, fileHeader bytes⟩ i = .ok phent ∧
        ElfFileReader.segment ⟨bytes, 64, fileHeader bytes⟩ phent = .ok segment := by
    intro i hi
    obtain ⟨segment, -, hsegment⟩ := exists_of_forall₂_left (mapM_ok.mp hall) (List.mem_range.mpr hi)
    obtain ⟨phent, hphent, hsegment⟩ := bind_ok.mp hsegment
    exact ⟨phent, segment, hphent, hsegment⟩
  have hpos : 0 < (fileHeader bytes).phnum.toNat := Nat.pos_of_ne_zero fun hz => hnum (BitVec.eq_of_toNat_eq hz)
  obtain ⟨phent, _, hphent, -⟩ := hread 0 hpos
  have hsize := entrySize_of_read hphent
  have hlast := (phentStart_iff h rfl (Nat.sub_one_lt_of_lt hpos)).mp (hstarts _ (Nat.sub_one_lt_of_lt hpos))
  rw [hsize] at hlast
  refine ⟨hnum, hsize, hlast, fun phent hmem => ?_⟩
  obtain ⟨hmem, htype⟩ := List.mem_filter.mp hmem
  obtain ⟨i, hi, rfl⟩ := List.mem_map.mp hmem
  have hi := List.mem_range.mp hi
  obtain ⟨phent, segment, hphent, hsegment⟩ := hread i hi
  obtain rfl := Except.ok.inj ((programHeader_ok h hi hsize rfl rfl (hstarts i hi)).symm.trans hphent)
  exact memsz_lt_of_read hsegment (of_decide_eq_true htype)

/-- The segments of a well-formed file are read, each from its own program header, exactly if the file meets
`Readable`. -/
theorem segments_iff {bytes : List Byte} (h : WellFormed bytes) (path : String) :
    SegmentsRead bytes path ↔ Readable bytes :=
  ⟨readable_of_segmentsRead h path, segmentsRead_of_readable h path⟩

/-- The header of a file with `phnum` program headers. -/
private def headerBytes (phnum : Nat) : List Byte :=
  [0x7f, 0x45, 0x4c, 0x46, 2, 1, 1, 0] ++ encode 8 0 ++ encode 2 2 ++ encode 2 183 ++ encode 4 1 ++ encode 8 0x200000 ++
    encode 8 64 ++ encode 8 0 ++ encode 4 0 ++ encode 2 64 ++ encode 2 56 ++ encode 2 phnum ++ encode 2 64 ++
      encode 2 0 ++ encode 2 0

/-- A loadable program header, whose segment has the header of the file and zeros after it. -/
private def loadEntry : List Byte :=
  encode 4 1 ++ encode 4 5 ++ encode 8 0 ++ encode 8 0x200000 ++ encode 8 0x200000 ++ encode 8 64 ++ encode 8 0x1000 ++
    encode 8 0x1000

/-- A file with one loadable entry. -/
theorem segments_iff_loadEntry :
    WellFormed (headerBytes 1 ++ loadEntry) ∧
      (SegmentsRead (headerBytes 1 ++ loadEntry) "a.elf" ↔ Readable (headerBytes 1 ++ loadEntry)) := by
  have h : WellFormed (headerBytes 1 ++ loadEntry) := by
    constructor <;> decide +kernel
  exact ⟨h, segments_iff h "a.elf"⟩

/-- A file with 1172 program headers, of which the last is loadable. -/
private def manyHeaders : List Byte :=
  headerBytes 1172 ++ (List.replicate (1171 * 56) 0 ++ loadEntry)

private def zeroHeader : ElfProgramHeader64 :=
  ElfProgramHeader64.ofBytes (List.replicate 56 0)

private lemma manyHeaders_header : fileHeader manyHeaders = fileHeader (headerBytes 1172) := by
  have hlength : (headerBytes 1172).length = ElfHeader64.size := by decide
  unfold fileHeader manyHeaders
  rw [List.take_left' hlength, List.take_of_length_le hlength.le]

private lemma manyHeaders_drop {k : Nat} (hk : 64 ≤ k) :
    manyHeaders.drop k = (List.replicate (1171 * 56) 0 ++ loadEntry).drop (k - 64) := by
  have hlength : (headerBytes 1172).length = 64 := by decide
  rw [manyHeaders, List.drop_append, List.drop_eq_nil_of_le (hlength.trans_le hk), hlength, List.nil_append]

private lemma manyHeaders_zeros {k : Nat} (hk : 64 ≤ k) (hk' : k + 56 ≤ 64 + 1171 * 56) :
    (manyHeaders.drop k).take 56 = List.replicate 56 0 := by
  have hlength : (List.replicate (1171 * 56) (0 : Byte)).length = 1171 * 56 := List.length_replicate
  rw [manyHeaders_drop hk, List.drop_append_of_le_length (by rw [hlength]; omega), List.drop_replicate,
    List.take_append_of_le_length (by rw [List.length_replicate]; omega), List.take_replicate]
  congr 1
  omega

private lemma manyHeaders_last : (manyHeaders.drop (64 + 1171 * 56)).take 56 = loadEntry := by
  have hentry : loadEntry.length = 56 := by decide
  rw [manyHeaders_drop (Nat.le_add_right _ _), Nat.add_sub_cancel_left, List.drop_append, List.drop_replicate,
    List.length_replicate, Nat.sub_self, List.replicate_zero, List.nil_append, List.drop_zero,
    List.take_of_length_le hentry.le]

private lemma manyHeaders_programHeader {i : Nat} (hi : i < 1171) : fileProgramHeader manyHeaders i = zeroHeader := by
  have hoffset : headerOffset manyHeaders i = 64 + i * 56 := by
    unfold headerOffset
    rw [manyHeaders_header]
    rfl
  unfold fileProgramHeader
  rw [hoffset]
  exact congrArg _ (manyHeaders_zeros (by omega) (by omega))

private lemma manyHeaders_loadable :
    loadableHeaders manyHeaders = [ElfProgramHeader64.ofBytes loadEntry] := by
  have hnum : (fileHeader manyHeaders).phnum.toNat = 1171 + 1 := by
    rw [manyHeaders_header]
    rfl
  have hlast : fileProgramHeader manyHeaders 1171 = ElfProgramHeader64.ofBytes loadEntry := by
    have hoffset : headerOffset manyHeaders 1171 = 64 + 1171 * 56 := by
      unfold headerOffset
      rw [manyHeaders_header]
      rfl
    unfold fileProgramHeader
    rw [hoffset]
    exact congrArg _ manyHeaders_last
  have hzeros : (List.range 1171).map (fileProgramHeader manyHeaders) = List.replicate 1171 zeroHeader := by
    rw [List.map_congr_left fun i hi => manyHeaders_programHeader (List.mem_range.mp hi), List.map_const',
      List.length_range]
  unfold loadableHeaders
  rw [hnum, List.range_succ, List.map_append, hzeros, List.map_singleton, hlast, List.filter_append,
    List.filter_replicate]
  rfl

private lemma manyHeaders_length : manyHeaders.length = 64 + (1171 * 56 + 56) := by
  rw [manyHeaders, List.length_append, List.length_append, List.length_replicate]
  rfl

private lemma manyHeaders_wellFormed : WellFormed manyHeaders := by
  have hlength := manyHeaders_length
  have hstart : ∀ {n}, n ≤ 64 → manyHeaders.take n = (headerBytes 1172).take n := by
    intro n hn
    rw [manyHeaders, List.take_append_of_le_length]
    exact hn
  refine ⟨by omega, by rw [hlength]; decide, ?_, ?_, ?_, ?_, ?_, ?_, ?_⟩
  · rw [hstart (by decide)]
    decide
  · change decode ((manyHeaders.drop 4).take (5 - 4)) = 2
    rw [← List.drop_take, hstart (by decide)]
    decide
  · rw [manyHeaders_header]
    decide
  · rw [manyHeaders_header]
    decide
  · rw [hlength, headerOffset, manyHeaders_header]
    exact le_of_eq rfl
  · rw [manyHeaders_loadable]
    decide
  · rw [manyHeaders_loadable, hlength]
    intro phent hmem
    rw [List.mem_singleton.mp hmem]
    exact le_trans (by decide : _ ≤ 64) (Nat.le_add_right _ _)

private def manyHeadersReader : ElfFileReader :=
  ⟨manyHeaders, 64, fileHeader manyHeaders⟩

/-- Every program header is read from among the zeros. -/
private lemma manyHeaders_read {i : Nat} (hi : i < 1172) :
    ElfFileReader.programHeader manyHeadersReader i = .ok zeroHeader := by
  have hlength := manyHeaders_length
  have hstart : (manyHeadersReader.phentStart i).toNat = 64 + i * 56 % 2 ^ 16 := by
    have hi : (BitVec.ofNat 16 i).toNat = i := Nat.mod_eq_of_lt (by omega)
    rw [ElfFileReader.phentStart, BitVec.toNat_add, BitVec.toNat_setWidth, BitVec.toNat_mul, hi]
    rw [show manyHeadersReader.hdr = fileHeader (headerBytes 1172) from manyHeaders_header]
    rw [show (fileHeader (headerBytes 1172)).phoff.toNat = 64 from rfl,
      show (fileHeader (headerBytes 1172)).phentsize.toNat = 56 from rfl]
    omega
  have hsize : manyHeadersReader.hdr.phentsize.setWidth 64 = (56 : Word) := by
    rw [show manyHeadersReader.hdr = fileHeader (headerBytes 1172) from manyHeaders_header]
    rfl
  have hstop : (manyHeadersReader.phentStart i + 56).toNat = (manyHeadersReader.phentStart i).toNat + 56 := by
    rw [BitVec.toNat_add, hstart, show (56 : Word).toNat = 56 from rfl]
    omega
  have hlt : i * 56 % 2 ^ 16 + 56 ≤ 1171 * 56 := by omega
  unfold ElfFileReader.programHeader
  dsimp only
  rw [hsize]
  refine bind_ok.mpr ⟨_, slice_add hstop ?_, (bytesToStruct_ok (by decide)).mpr ⟨?_, ?_⟩⟩
  · change _ ≤ manyHeaders.length
    rw [hstop, hstart, hlength]
    omega
  · change ((manyHeaders.drop _).take 56).length = 56
    rw [hstart, manyHeaders_zeros (by omega) (by omega), List.length_replicate]
  · change ElfProgramHeader64.ofBytes ((manyHeaders.drop _).take 56) = zeroHeader
    rw [hstart, manyHeaders_zeros (by omega) (by omega)]
    rfl

/-- The last program header, whose offset has wrapped, is taken for one that is not loadable. -/
theorem segments_lost :
    ∃ bytes reader, WellFormed bytes ∧ ElfFileReader.fromPath "a.elf" (.ok bytes) = .ok reader ∧
      reader.segments = .ok [] ∧ (loadableHeaders bytes).length = 1 ∧ ¬ SegmentsRead bytes "a.elf" := by
  have hpath : ElfFileReader.fromPath "a.elf" (.ok manyHeaders) = .ok manyHeadersReader :=
    fromPath_ok manyHeaders_wellFormed
  have hnum : manyHeadersReader.hdr.phnum = 1172 := by
    rw [show manyHeadersReader.hdr = fileHeader (headerBytes 1172) from manyHeaders_header]
    rfl
  have hsegments : manyHeadersReader.segments = .ok [] := by
    refine failIf_bind.mpr ⟨by rw [hnum]; decide, bind_ok.mpr ⟨_, mapM_ok_of (g := fun _ => none) ?_, ?_⟩⟩
    · intro i hi
      rw [hnum] at hi
      exact bind_ok.mpr ⟨_, manyHeaders_read (List.mem_range.mp hi), rfl⟩
    · rw [List.filterMap_map]
      exact congrArg _ (List.filterMap_eq_nil_iff.mpr fun _ _ => rfl)
  refine ⟨manyHeaders, manyHeadersReader, manyHeaders_wellFormed, hpath,
    hsegments, by rw [manyHeaders_loadable]; rfl, ?_⟩
  rintro ⟨reader, hreader, -, hread⟩
  obtain rfl := Except.ok.inj (hpath.symm.trans hreader)
  have hnone := Except.ok.inj (hsegments.symm.trans hread)
  rw [manyHeaders_loadable] at hnone
  cases hnone

end NexsKernel.Image
