import NexsKernel.Tool.ElfSymbols

/-!
# Writing ELF files

`ElfFile::reserialise` (`elf.rs`) writes the loadable segments of a program: the header, a program header for each
segment, a section header for each segment behind a reserved one, a string table, and the data of the segments that are
initialised. The offsets of the data are computed while the program headers are written.

What is written is read back (`reserialise_segments`), if there is something to read and no segment is larger than a
`Vec` can be. The sections describe the segments exactly if `e_shnum` can count them, none of the segments is
executable, since `SHF_EXECINSTR` is not the bit that a section is marked with, and no segment that takes memory is
uninitialised (`sections_describe_iff`).
-/

namespace NexsKernel.Image

open Layout

/-! ## Program headers -/

def ElfProgramHeader64.fields (phent : ElfProgramHeader64) : List (Nat × Nat) :=
  [(4, phent.type.toNat), (4, phent.flags.toNat), (8, phent.offset.toNat), (8, phent.vaddr.toNat),
    (8, phent.paddr.toNat), (8, phent.filesz.toNat), (8, phent.memsz.toNat), (8, phent.align.toNat)]

/-- `struct_to_bytes`. -/
def ElfProgramHeader64.bytes (phent : ElfProgramHeader64) : List Byte :=
  packed phent.fields

/-- A number with as many bytes as its field is read as it was written. -/
lemma ofNat_field {w offset size : Nat} {fields : List (Nat × Nat)} {x : BitVec w} (i : Nat)
    (hi : fields[i]? = some (size, x.toNat)) (hoffset : fieldOffset fields i = offset) (hw : 2 ^ w = 256 ^ size) :
    BitVec.ofNat w (field (packed fields) offset size) = x := by
  unfold field
  rw [decode_packed i hi hoffset, ← hw, Nat.mod_eq_of_lt x.isLt, BitVec.ofNat_toNat, BitVec.setWidth_eq]

lemma ElfProgramHeader64.bytes_length (phent : ElfProgramHeader64) : phent.bytes.length = ElfProgramHeader64.size := by
  rw [ElfProgramHeader64.bytes, packed_length]
  rfl

attribute [ext] ElfProgramHeader64

lemma ElfProgramHeader64.ofBytes_bytes (phent : ElfProgramHeader64) :
    ElfProgramHeader64.ofBytes phent.bytes = phent := by
  apply ElfProgramHeader64.ext
  · exact ofNat_field 0 rfl rfl rfl
  · exact ofNat_field 1 rfl rfl rfl
  · exact ofNat_field 2 rfl rfl rfl
  · exact ofNat_field 3 rfl rfl rfl
  · exact ofNat_field 4 rfl rfl rfl
  · exact ofNat_field 5 rfl rfl rfl
  · exact ofNat_field 6 rfl rfl rfl
  · exact ofNat_field 7 rfl rfl rfl

end NexsKernel.Image

namespace NexsKernel.Elf

open Image Checks Layout Bytes
open Sdf (Failure)

/-! ## Section headers -/

@[ext]
structure ElfSectionHeader64 where
  name : BitVec 32
  type : BitVec 32
  flags : Word
  addr : Word
  offset : Word
  size : Word
  link : BitVec 32
  info : BitVec 32
  addralign : Word
  entsize : Word
  deriving DecidableEq, Repr

namespace ElfSectionHeader64

/-- `size_of::<ElfSectionHeader64>()`. -/
def entrySize : Nat := 64

def fields (shent : ElfSectionHeader64) : List (Nat × Nat) :=
  [(4, shent.name.toNat), (4, shent.type.toNat), (8, shent.flags.toNat), (8, shent.addr.toNat), (8, shent.offset.toNat),
    (8, shent.size.toNat), (4, shent.link.toNat), (4, shent.info.toNat), (8, shent.addralign.toNat), (8, shent.entsize.toNat)]

/-- `struct_to_bytes`. -/
def bytes (shent : ElfSectionHeader64) : List Byte :=
  packed shent.fields

def ofBytes (bytes : List Byte) : ElfSectionHeader64 where
  name := BitVec.ofNat 32 (field bytes 0 4)
  type := BitVec.ofNat 32 (field bytes 4 4)
  flags := BitVec.ofNat 64 (field bytes 8 8)
  addr := BitVec.ofNat 64 (field bytes 16 8)
  offset := BitVec.ofNat 64 (field bytes 24 8)
  size := BitVec.ofNat 64 (field bytes 32 8)
  link := BitVec.ofNat 32 (field bytes 40 4)
  info := BitVec.ofNat 32 (field bytes 44 4)
  addralign := BitVec.ofNat 64 (field bytes 48 8)
  entsize := BitVec.ofNat 64 (field bytes 56 8)

lemma bytes_length (shent : ElfSectionHeader64) : shent.bytes.length = entrySize := by
  rw [bytes, packed_length]
  rfl

lemma ofBytes_bytes (shent : ElfSectionHeader64) : ofBytes shent.bytes = shent := by
  apply ElfSectionHeader64.ext
  · exact ofNat_field 0 rfl rfl rfl
  · exact ofNat_field 1 rfl rfl rfl
  · exact ofNat_field 2 rfl rfl rfl
  · exact ofNat_field 3 rfl rfl rfl
  · exact ofNat_field 4 rfl rfl rfl
  · exact ofNat_field 5 rfl rfl rfl
  · exact ofNat_field 6 rfl rfl rfl
  · exact ofNat_field 7 rfl rfl rfl
  · exact ofNat_field 8 rfl rfl rfl
  · exact ofNat_field 9 rfl rfl rfl

end ElfSectionHeader64

/-! ## Segments -/

/-- `PF_X`. -/
def pfX : BitVec 32 := 0x1

/-- `PF_W`. -/
def pfW : BitVec 32 := 0x2

/-- `SHT_PROGBITS`. -/
def shtProgbits : BitVec 32 := 0x1

/-- `SHT_STRTAB`. -/
def shtStrtab : BitVec 32 := 0x3

/-- `SHF_WRITE`. -/
def shfWrite : Word := 0x1

/-- `SHF_ALLOC`. -/
def shfAlloc : Word := 0x2

/-- `SHF_EXECINSTR`. In an ELF file it is `0x4`. -/
def shfExecinstr : Word := 0x3

section segment

variable (seg : FileSegment)

def fileSize : Word :=
  match seg.data with
  | .realData bytes => BitVec.ofNat 64 bytes.length
  | .uninitialisedData _ => 0

def isUninitialised : Bool :=
  match seg.data with
  | .realData _ => false
  | .uninitialisedData _ => true

def isWritable : Bool :=
  seg.attrs &&& pfW = pfW

def isExecutable : Bool :=
  seg.attrs &&& pfX = pfX

def sectionFlags : Word :=
  let flags := shfAlloc
  let flags := if isWritable seg then flags ||| shfWrite else flags
  if isExecutable seg then flags ||| shfExecinstr else flags

/-- The bytes of a segment that are written. -/
def contents : List Byte :=
  match seg.data with
  | .realData bytes => bytes
  | .uninitialisedData _ => []

/-- The program header of a segment whose data is at an offset. -/
def programHeader (offset : Word) : ElfProgramHeader64 where
  type := phentTypeLoadable
  flags := seg.attrs
  offset := offset
  vaddr := seg.virtAddr
  paddr := seg.physAddr
  filesz := fileSize seg
  memsz := seg.memSize
  align := 0

/-- The section header of a segment whose data is at an offset. -/
def sectionHeader (offset : Word) : ElfSectionHeader64 where
  name := 0
  type := shtProgbits
  flags := sectionFlags seg
  addr := seg.physAddr
  offset := offset
  size := fileSize seg
  link := 0
  info := 0
  addralign := 0
  entsize := 0

end segment

/-- `strtab_seg`. -/
def strtabHeader (offset : Word) : ElfSectionHeader64 where
  name := 0
  type := shtStrtab
  flags := 0
  addr := 0
  offset := offset
  size := 1
  link := 0
  info := 0
  addralign := 0
  entsize := 0

/-- `data_offs`, from a watermark on. -/
def dataOffs (watermark : Word) : List FileSegment → List Word
  | [] => []
  | seg :: segments => watermark :: dataOffs (watermark + fileSize seg) segments

/-! ## `reserialise` -/

namespace ElfFile

variable (elf : ElfFile)

def loadableSegments : List FileSegment :=
  elf.segments.filter (·.loadable)

/-- The fields of the header, by their sizes. -/
def headerFields : List (Nat × Nat) :=
  let phnum := elf.loadableSegments.length
  let shnum := phnum + 2
  [(4, 0x464c457f), (1, 2), (1, 1), (1, 1), (1, 0), (1, 0), (7, 0), (2, 2), (2, elf.machine.toNat), (4, 1),
    (8, elf.entry.toNat),
    (8, ElfHeader64.size), (8, ElfHeader64.size + phnum * ElfProgramHeader64.size), (4, 0), (2, ElfHeader64.size),
    (2, ElfProgramHeader64.size), (2, phnum), (2, ElfSectionHeader64.entrySize), (2, shnum), (2, shnum - 1)]

/-- The offset of the data, behind all headers. -/
def dataStart : Word :=
  let phnum := elf.loadableSegments.length
  let shnum := phnum + 2
  BitVec.ofNat 64 (ElfHeader64.size + phnum * ElfProgramHeader64.size + shnum * ElfSectionHeader64.entrySize)

def programHeaders : List ElfProgramHeader64 :=
  List.zipWith programHeader elf.loadableSegments (dataOffs elf.dataStart elf.loadableSegments)

def sectionHeaders : List ElfSectionHeader64 :=
  List.zipWith sectionHeader elf.loadableSegments (dataOffs elf.dataStart elf.loadableSegments)

/-- The offset behind the data. -/
def dataEnd : Word :=
  elf.loadableSegments.foldl (fun watermark seg => watermark + fileSize seg) elf.dataStart

/-- `reserialise`: the file that is written. -/
def reserialise : List Byte :=
  packed elf.headerFields ++ (elf.programHeaders.flatMap (·.bytes) ++ (List.replicate ElfSectionHeader64.entrySize 0 ++
    (elf.sectionHeaders.flatMap (·.bytes) ++ ((strtabHeader elf.dataEnd).bytes ++
      ((elf.loadableSegments.filter fun seg => !isUninitialised seg).flatMap contents ++ [0])))))

end ElfFile

/-! ## Sizes and offsets -/

section offsets

variable {seg : FileSegment} {segments : List FileSegment} {watermark : Word} {i : Nat}

lemma contents_length (seg : FileSegment) : (contents seg).length = fileLength seg := by
  unfold contents fileLength
  cases seg.data <;> rfl

lemma toNat_fileSize (h : fileLength seg < 2 ^ 63) : (fileSize seg).toNat = fileLength seg := by
  unfold fileSize fileLength at *
  cases hdata : seg.data with
  | realData bytes =>
    rw [hdata] at h
    exact Nat.mod_eq_of_lt (lt_trans h (by decide))
  | uninitialisedData size => rfl

lemma flatMap_initialised (segments : List FileSegment) :
    (segments.filter fun seg => !isUninitialised seg).flatMap contents = segments.flatMap contents := by
  induction segments with
  | nil => rfl
  | cons seg segments ih =>
    rw [List.filter_cons, List.flatMap_cons, ← ih]
    unfold isUninitialised
    cases hdata : seg.data with
    | realData bytes => rfl
    | uninitialisedData size =>
      unfold contents
      rw [hdata]
      rfl

lemma dataOffs_length (watermark : Word) (segments : List FileSegment) : (dataOffs watermark segments).length =
    segments.length := by
  induction segments generalizing watermark with
  | nil => rfl
  | cons seg segments ih => exact congrArg Nat.succ (ih _)

/-- The data of a segment lies behind that of the segments before it. -/
lemma toNat_dataOffs (hvecs : ∀ seg ∈ segments, fileLength seg < 2 ^ 63)
    (hfile : watermark.toNat + (segments.flatMap contents).length < 2 ^ 64)
    {h : i < (dataOffs watermark segments).length} :
    (dataOffs watermark segments)[i].toNat = watermark.toNat + pieceOffset contents segments i := by
  induction segments generalizing watermark i with
  | nil => exact absurd h (Nat.not_lt_zero i)
  | cons seg segments ih =>
    cases i with
    | zero => rfl
    | succ i =>
      have hsize := toNat_fileSize (hvecs seg List.mem_cons_self)
      rw [List.flatMap_cons, List.length_append, contents_length] at hfile
      have hnext : (watermark + fileSize seg).toNat = watermark.toNat + fileLength seg := by
        rw [BitVec.toNat_add, hsize, Nat.mod_eq_of_lt (by omega)]
      rw [pieceOffset_succ, contents_length, ← Nat.add_assoc, ← hnext]
      exact ih (fun seg' hseg' => hvecs seg' (List.mem_cons_of_mem seg hseg')) (by rw [hnext]; omega)

end offsets

/-! ## What is in the file -/

namespace ElfFile

variable {elf : ElfFile} {i : Nat}

lemma loadable_vecs (elf : ElfFile) : ∀ seg ∈ elf.loadableSegments, fileLength seg < 2 ^ 63 :=
  fun seg hseg => elf.vecs.data seg (List.mem_of_mem_filter hseg)

lemma loadable_size (elf : ElfFile) : 48 * elf.loadableSegments.length < 2 ^ 63 :=
  lt_of_le_of_lt (Nat.mul_le_mul_left _ (List.length_filter_le _ _)) elf.vecs.size

/-- Where the data of a segment is written. -/
def dataOffset (elf : ElfFile) (i : Nat) : Word :=
  (dataOffs elf.dataStart elf.loadableSegments).getD i 0

lemma programHeaders_length : elf.programHeaders.length = elf.loadableSegments.length := by
  rw [programHeaders, List.length_zipWith, dataOffs_length, Nat.min_self]

lemma sectionHeaders_length : elf.sectionHeaders.length = elf.loadableSegments.length := by
  rw [sectionHeaders, List.length_zipWith, dataOffs_length, Nat.min_self]

lemma programHeaders_getElem (h : i < elf.loadableSegments.length) {h' : i < elf.programHeaders.length} :
    elf.programHeaders[i] = programHeader elf.loadableSegments[i] (elf.dataOffset i) := by
  have hoffs : i < (dataOffs elf.dataStart elf.loadableSegments).length := by rwa [dataOffs_length]
  simp only [programHeaders, List.getElem_zipWith, dataOffset, List.getD_eq_getElem?_getD,
    List.getElem?_eq_getElem hoffs, Option.getD_some]

lemma sectionHeaders_getElem (h : i < elf.loadableSegments.length) {h' : i < elf.sectionHeaders.length} :
    elf.sectionHeaders[i] = sectionHeader elf.loadableSegments[i] (elf.dataOffset i) := by
  have hoffs : i < (dataOffs elf.dataStart elf.loadableSegments).length := by rwa [dataOffs_length]
  simp only [sectionHeaders, List.getElem_zipWith, dataOffset, List.getD_eq_getElem?_getD,
    List.getElem?_eq_getElem hoffs, Option.getD_some]

/-- The sizes of the fields of the header. -/
def headerSizes : List Nat :=
  [4, 1, 1, 1, 1, 1, 7, 2, 2, 4, 8, 8, 8, 4, 2, 2, 2, 2, 2, 2]

lemma headerFields_sizes (elf : ElfFile) : elf.headerFields.map Prod.fst = headerSizes :=
  rfl

lemma header_length : (packed elf.headerFields).length = ElfHeader64.size := by
  rw [packed_length, headerFields_sizes]
  decide

lemma fileHeader_reserialise (elf : ElfFile) : fileHeader elf.reserialise =
    ElfHeader64.ofBytes (packed elf.headerFields) := by
  have hlength : (packed elf.headerFields).length = ElfHeader64.size := header_length
  unfold fileHeader reserialise
  rw [← hlength, List.take_left]

lemma fieldOffset_header {offset : Nat} (i : Nat) (h : (headerSizes.take i).sum = offset) :
    fieldOffset elf.headerFields i = offset := by
  rw [fieldOffset, List.map_take, headerFields_sizes, h]

/-- A field of the header is read as it was written. -/
lemma field_header {offset size value : Nat} (i : Nat) (hi : elf.headerFields[i]? = some (size, value))
    (hoffset : (headerSizes.take i).sum = offset) : field (packed elf.headerFields) offset size = value % 256 ^ size :=
  decode_packed i hi (fieldOffset_header i hoffset)

lemma header_phoff (elf : ElfFile) : (fileHeader elf.reserialise).phoff.toNat = ElfHeader64.size := by
  have hfield : field (packed elf.headerFields) 32 8 = ElfHeader64.size % 256 ^ 8 := field_header 11 rfl (by decide)
  rw [fileHeader_reserialise, ElfHeader64.ofBytes]
  dsimp only
  rw [hfield]
  decide

lemma header_phentsize (elf : ElfFile) : (fileHeader elf.reserialise).phentsize.toNat = ElfProgramHeader64.size := by
  have hfield : field (packed elf.headerFields) 54 2 = ElfProgramHeader64.size % 256 ^ 2 :=
    field_header 15 rfl (by decide)
  rw [fileHeader_reserialise, ElfHeader64.ofBytes]
  dsimp only
  rw [hfield]
  decide

lemma header_phnum (h : elf.loadableSegments.length < 2 ^ 16) :
    (fileHeader elf.reserialise).phnum.toNat = elf.loadableSegments.length := by
  have hfield : field (packed elf.headerFields) 56 2 = elf.loadableSegments.length % 256 ^ 2 :=
    field_header 16 rfl (by decide)
  rw [fileHeader_reserialise, ElfHeader64.ofBytes]
  dsimp only
  rw [hfield, BitVec.toNat_ofNat]
  omega

lemma header_entry (elf : ElfFile) : (fileHeader elf.reserialise).entry = elf.entry := by
  rw [fileHeader_reserialise]
  exact ofNat_field 10 rfl (fieldOffset_header 10 (by decide)) rfl

lemma header_machine (elf : ElfFile) : (fileHeader elf.reserialise).machine = elf.machine := by
  rw [fileHeader_reserialise]
  exact ofNat_field 8 rfl (fieldOffset_header 8 (by decide)) rfl

lemma header_identData (elf : ElfFile) : (fileHeader elf.reserialise).identData = 1 := by
  have hfield : field (packed elf.headerFields) 5 1 = 1 % 256 ^ 1 := field_header 2 rfl (by decide)
  rw [fileHeader_reserialise, ElfHeader64.ofBytes]
  dsimp only
  rw [hfield]
  decide

lemma field_reserialise {offset size : Nat} (h : offset + size ≤ ElfHeader64.size) :
    field elf.reserialise offset size = field (packed elf.headerFields) offset size := by
  have hlength : (packed elf.headerFields).length = ElfHeader64.size := header_length
  unfold field reserialise
  rw [List.drop_append_of_le_length (by omega), List.take_append_of_le_length (by rw [List.length_drop]; omega)]

lemma header_shoff (elf : ElfFile) :
    field elf.reserialise 40 8 = ElfHeader64.size + elf.loadableSegments.length * ElfProgramHeader64.size := by
  have hfield : field (packed elf.headerFields) 40 8 =
      (ElfHeader64.size + elf.loadableSegments.length * ElfProgramHeader64.size) % 256 ^ 8 := field_header 12
        rfl (by decide)
  have hsize := loadable_size elf
  rw [field_reserialise (by decide), hfield, Nat.mod_eq_of_lt]
  change 64 + _ * 56 < 256 ^ 8
  omega

lemma header_cls (elf : ElfFile) : field elf.reserialise 4 1 = 2 := by
  rw [field_reserialise (by decide)]
  exact field_header 1 rfl (by decide)

lemma header_magic (elf : ElfFile) : elf.reserialise.take 4 = [0x7f, 0x45, 0x4c, 0x46] := by
  unfold reserialise packed headerFields
  dsimp only
  rw [List.flatMap_cons, List.append_assoc, List.take_left' (encode_length 4 _)]
  decide

lemma programHeaders_flatMap_length (elf : ElfFile) :
    (elf.programHeaders.flatMap (·.bytes)).length = elf.loadableSegments.length * ElfProgramHeader64.size := by
  rw [length_flatMap_const fun phent _ => phent.bytes_length, programHeaders_length, Nat.mul_comm]

lemma sectionHeaders_flatMap_length (elf : ElfFile) :
    (elf.sectionHeaders.flatMap (·.bytes)).length = elf.loadableSegments.length * ElfSectionHeader64.entrySize := by
  rw [length_flatMap_const fun shent _ => shent.bytes_length, sectionHeaders_length, Nat.mul_comm]

/-- The reserved section header lies behind the program headers, and the others behind it. -/
lemma reserialise_sections (elf : ElfFile) : ∃ before behind : List Byte,
    before.length = ElfHeader64.size + elf.loadableSegments.length * ElfProgramHeader64.size ∧
    elf.reserialise = before ++ (List.replicate ElfSectionHeader64.entrySize 0 ++
      (elf.sectionHeaders.flatMap (·.bytes) ++ behind)) := by
  refine ⟨packed elf.headerFields ++ elf.programHeaders.flatMap (·.bytes), _, ?_, (List.append_assoc _ _ _).symm⟩
  rw [List.length_append, header_length, programHeaders_flatMap_length]

/-- What is before the header of the string table. -/
def headersBefore (elf : ElfFile) : List Byte :=
  packed elf.headerFields ++ (elf.programHeaders.flatMap (·.bytes) ++ (List.replicate ElfSectionHeader64.entrySize 0 ++
    elf.sectionHeaders.flatMap (·.bytes)))

lemma headersBefore_length (elf : ElfFile) : elf.headersBefore.length =
    ElfHeader64.size + elf.loadableSegments.length * ElfProgramHeader64.size +
      (elf.loadableSegments.length + 1) * ElfSectionHeader64.entrySize := by
  rw [headersBefore, List.length_append, List.length_append, List.length_append, header_length,
    programHeaders_flatMap_length, sectionHeaders_flatMap_length, List.length_replicate]
  ring

lemma reserialise_eq (elf : ElfFile) : elf.reserialise =
    elf.headersBefore ++ ((strtabHeader elf.dataEnd).bytes ++ (elf.loadableSegments.flatMap contents ++ [0])) := by
  rw [reserialise, flatMap_initialised, headersBefore]
  simp only [List.append_assoc]

/-- The data lies behind all headers. -/
lemma reserialise_data (elf : ElfFile) : ∃ before : List Byte,
    before.length = ElfHeader64.size + elf.loadableSegments.length * ElfProgramHeader64.size +
      (elf.loadableSegments.length + 2) * ElfSectionHeader64.entrySize ∧
    elf.reserialise = before ++ (elf.loadableSegments.flatMap contents ++ [0]) := by
  refine ⟨elf.headersBefore ++ (strtabHeader elf.dataEnd).bytes, ?_, ?_⟩
  · rw [List.length_append, headersBefore_length, ElfSectionHeader64.bytes_length]
    ring
  · rw [reserialise_eq, List.append_assoc]

lemma reserialise_length (elf : ElfFile) : elf.reserialise.length =
    ElfHeader64.size + elf.loadableSegments.length * ElfProgramHeader64.size +
      (elf.loadableSegments.length + 2) * ElfSectionHeader64.entrySize +
      ((elf.loadableSegments.flatMap contents).length + 1) := by
  obtain ⟨before, hbefore, hsplit⟩ := reserialise_data elf
  rw [hsplit, List.length_append, List.length_append, List.length_singleton, hbefore]

lemma fileProgramHeader_reserialise (h : i < elf.loadableSegments.length) :
    fileProgramHeader elf.reserialise i = programHeader elf.loadableSegments[i] (elf.dataOffset i) := by
  have hi : i < elf.programHeaders.length := by rwa [programHeaders_length]
  have hoffset : headerOffset elf.reserialise i = (packed elf.headerFields).length + i * ElfProgramHeader64.size := by
    rw [headerOffset, header_phoff, header_phentsize, header_length]
  unfold fileProgramHeader
  rw [hoffset]
  refine (congrArg _ (take_drop_entry ElfProgramHeader64.bytes_length (packed elf.headerFields) _ hi)).trans ?_
  rw [ElfProgramHeader64.ofBytes_bytes, programHeaders_getElem h]

/-! ## Reading it back -/

/-- A segment as it is read: with zeros where nothing was written. -/
def readBack (seg : FileSegment) : FileSegment :=
  match seg.data with
  | .realData _ => seg
  | .uninitialisedData size => { seg with data := .realData (List.replicate size.toNat 0) }

/-- The written file is read as the loadable segments it was written from. -/
def ReadsBack (elf : ElfFile) (path : String) : Prop :=
  ∃ reader, ElfFileReader.fromPath path (.ok elf.reserialise) = .ok reader ∧
    reader.segments = .ok (elf.loadableSegments.map readBack) ∧ reader.hdr.entry = elf.entry ∧
      reader.hdr.machine = elf.machine

lemma loadableHeaders_reserialise (h : elf.loadableSegments.length < 2 ^ 16) :
    loadableHeaders elf.reserialise = elf.programHeaders := by
  have hall : (List.range (fileHeader elf.reserialise).phnum.toNat).map (fileProgramHeader elf.reserialise) =
    elf.programHeaders := by
    rw [header_phnum h]
    apply List.ext_getElem
    · rw [List.length_map, List.length_range, programHeaders_length]
    · intro i hi hi'
      rw [programHeaders_length] at hi'
      rw [List.getElem_map, List.getElem_range, fileProgramHeader_reserialise hi', programHeaders_getElem hi']
  unfold loadableHeaders
  rw [hall, List.filter_eq_self]
  intro phent hphent
  obtain ⟨i, hi, rfl⟩ := List.getElem_of_mem hphent
  rw [programHeaders_getElem (by rwa [← programHeaders_length])]
  rfl

/-- The data of a segment is in the file. -/
lemma data_reserialise (hfile : elf.reserialise.length < 2 ^ 63) (h : i < elf.loadableSegments.length) :
    (elf.dataOffset i).toNat + fileLength elf.loadableSegments[i] ≤ elf.reserialise.length ∧
    (elf.reserialise.drop (elf.dataOffset i).toNat).take (fileLength elf.loadableSegments[i]) =
    contents elf.loadableSegments[i] := by
  obtain ⟨before, hbefore, hsplit⟩ := reserialise_data elf
  have hlength := reserialise_length elf
  have hstart : elf.dataStart.toNat = before.length := by
    rw [dataStart, BitVec.toNat_ofNat, ← hbefore, Nat.mod_eq_of_lt (by omega)]
  have hoffs : i < (dataOffs elf.dataStart elf.loadableSegments).length := by rwa [dataOffs_length]
  have hoffset : (elf.dataOffset i).toNat = before.length + pieceOffset contents elf.loadableSegments i := by
    rw [dataOffset, List.getD_eq_getElem?_getD, List.getElem?_eq_getElem hoffs, Option.getD_some, ← hstart]
    exact toNat_dataOffs (loadable_vecs elf) (by omega)
  have hpiece := pieceOffset_le contents h
  rw [contents_length] at hpiece
  refine ⟨by omega, ?_⟩
  rw [hoffset, hsplit, ← contents_length]
  exact take_drop_piece contents before [0] h

/-- What a program header describes. -/
lemma describedSegment_reserialise (hfile : elf.reserialise.length < 2 ^ 63) (h : i < elf.loadableSegments.length) :
    describedSegment elf.reserialise (programHeader elf.loadableSegments[i] (elf.dataOffset i)) =
    readBack elf.loadableSegments[i] := by
  obtain ⟨-, hdata⟩ := data_reserialise hfile h
  have hmem : elf.loadableSegments[i] ∈ elf.loadableSegments := List.getElem_mem h
  have hloadable : elf.loadableSegments[i].loadable = true := (List.mem_filter.mp hmem).2
  have hsize := toNat_fileSize (loadable_vecs elf _ hmem)
  generalize elf.loadableSegments[i] = seg at *
  have hbytes : (elf.reserialise.drop (elf.dataOffset i).toNat).take (fileSize seg).toNat =
    contents seg := by rw [hsize, hdata]
  unfold describedSegment programHeader
  dsimp only
  rw [hbytes, hsize]
  obtain ⟨⟨data, physAddr, virtAddr, loadable⟩, attrs⟩ := seg
  obtain rfl : loadable = true := hloadable
  cases data with
  | realData bytes =>
    have hmemsz : (BitVec.ofNat 64 bytes.length).toNat = bytes.length := hsize
    simp only [contents, fileLength, ElfSegment.memSize, hmemsz, Nat.sub_self, List.replicate_zero,
      List.append_nil, readBack]
  | uninitialisedData size => rfl

lemma fileSize_le (seg : FileSegment) : (fileSize seg).toNat ≤ seg.memSize.toNat := by
  unfold fileSize ElfSegment.memSize
  cases seg.data with
  | realData bytes => exact le_rfl
  | uninitialisedData size => exact Nat.zero_le _

lemma exists_of_loadableHeaders (hfew : elf.loadableSegments.length < 2 ^ 16) {phent : ElfProgramHeader64}
    (h : phent ∈ loadableHeaders elf.reserialise) :
    ∃ i, ∃ hi : i < elf.loadableSegments.length, phent = programHeader elf.loadableSegments[i] (elf.dataOffset i) := by
  rw [loadableHeaders_reserialise hfew] at h
  obtain ⟨i, hi, rfl⟩ := List.getElem_of_mem h
  rw [programHeaders_length] at hi
  exact ⟨i, hi, programHeaders_getElem hi⟩

lemma wellFormed_reserialise (hfew : elf.loadableSegments.length < 2 ^ 16) (hfile : elf.reserialise.length < 2 ^ 63) :
    Image.WellFormed elf.reserialise := by
  have hlength := reserialise_length elf
  refine ⟨hfile, by omega, header_magic elf, header_cls elf, header_identData elf,
    (header_phentsize elf).ge, ?_, ?_, ?_⟩
  · rw [headerOffset, header_phoff, header_phentsize, header_phnum hfew]
    omega
  · intro phent hphent
    obtain ⟨i, hi, rfl⟩ := exists_of_loadableHeaders hfew hphent
    exact fileSize_le _
  · intro phent hphent
    obtain ⟨i, hi, rfl⟩ := exists_of_loadableHeaders hfew hphent
    have hsize := toNat_fileSize (loadable_vecs elf _ (List.getElem_mem hi))
    change (elf.dataOffset i).toNat + (fileSize _).toNat ≤ _
    rw [hsize]
    exact (data_reserialise hfile hi).1

lemma readable_reserialise (hsome : elf.loadableSegments ≠ []) (hfew : elf.loadableSegments.length < 1000)
    (hsizes : ∀ seg ∈ elf.loadableSegments, seg.memSize.toNat < 2 ^ 63) : Readable elf.reserialise := by
  have hpos := List.length_pos_iff.mpr hsome
  have hnum := header_phnum (lt_trans hfew (by decide))
  refine ⟨fun hzero => ?_, header_phentsize elf, ?_, fun phent hphent => ?_⟩
  · rw [hzero] at hnum
    exact hpos.ne hnum
  · rw [hnum, ElfProgramHeader64.size]
    omega
  · obtain ⟨i, hi, rfl⟩ := exists_of_loadableHeaders (lt_trans hfew (by decide)) hphent
    exact hsizes _ (List.getElem_mem hi)

/-- A written file is read back just when it is read as its headers say. -/
lemma readsBack_iff {path : String} (hfew : elf.loadableSegments.length < 1000)
    (hfile : elf.reserialise.length < 2 ^ 63) :
    ReadsBack elf path ↔ SegmentsRead elf.reserialise path := by
  have hfew' : elf.loadableSegments.length < 2 ^ 16 := lt_trans hfew (by decide)
  have hwell := wellFormed_reserialise hfew' hfile
  have hsame : (loadableHeaders elf.reserialise).map (describedSegment elf.reserialise) =
    elf.loadableSegments.map readBack := by
    rw [loadableHeaders_reserialise hfew']
    apply List.ext_getElem
    · rw [List.length_map, List.length_map, programHeaders_length]
    · intro i hi hi'
      rw [List.length_map] at hi'
      rw [List.getElem_map, List.getElem_map, programHeaders_getElem hi', describedSegment_reserialise hfile hi']
  unfold SegmentsRead
  rw [hsame]
  constructor
  · rintro ⟨reader, hreader, hsegments, -⟩
    obtain rfl := Except.ok.inj ((fromPath_ok hwell).symm.trans hreader)
    refine ⟨_, hreader, fun i hi => (phentStart_iff hwell rfl hi).mpr ?_, hsegments⟩
    rw [header_phnum hfew'] at hi
    rw [header_phentsize, ElfProgramHeader64.size]
    omega
  · rintro ⟨reader, hreader, -, hsegments⟩
    obtain rfl := Except.ok.inj ((fromPath_ok hwell).symm.trans hreader)
    exact ⟨_, hreader, hsegments, header_entry elf, header_machine elf⟩

/-- What is written is read back. A `Vec` has less than `2 ^ 63` bytes, and so has a file. -/
theorem reserialise_segments (elf : ElfFile) (path : String) (hsome : elf.loadableSegments ≠ [])
    (hfew : elf.loadableSegments.length < 1000) (hsizes : ∀ seg ∈ elf.loadableSegments, seg.memSize.toNat < 2 ^ 63)
    (hfile : elf.reserialise.length < 2 ^ 63) : ReadsBack elf path := by
  have hwell := wellFormed_reserialise (lt_trans hfew (by decide)) hfile
  exact (readsBack_iff hfew hfile).mpr (segmentsRead_of_readable hwell path (readable_reserialise hsome hfew hsizes))

/-- A file with a segment of code, and one without data. -/
private def codeAndBss : ElfFile where
  path := "a.elf"
  wordSize := 64
  entry := 0x1000
  machine := 183
  segments := [⟨⟨.realData [1, 2, 3, 4], 0x1000, 0x1000, true⟩, 5⟩, ⟨⟨.uninitialisedData 16, 0x2000, 0x2000, true⟩, 6⟩]
  symbols _ := none
  vecs := ⟨by decide, by decide⟩

/-- Code, and a segment without data. -/
theorem reserialise_segments_codeAndBss : codeAndBss.loadableSegments.length = 2 ∧ ReadsBack codeAndBss "a.elf" := by
  refine ⟨rfl, reserialise_segments codeAndBss "a.elf" ?_ ?_ ?_ ?_⟩
  · decide
  · decide
  · decide
  · rw [reserialise_length]
    decide

/-- A file whose only segment is not loadable. -/
private def nothingLoadable : ElfFile where
  path := "a.elf"
  wordSize := 64
  entry := 0x1000
  machine := 183
  segments := [⟨⟨.realData [1, 2, 3, 4], 0x1000, 0x1000, false⟩, 5⟩]
  symbols _ := none
  vecs := ⟨by decide, by decide⟩

/-- A file with a segment that is larger than a `Vec`. -/
private def hugeBss : ElfFile where
  path := "a.elf"
  wordSize := 64
  entry := 0x1000
  machine := 183
  segments := [⟨⟨.uninitialisedData 0x8000000000000000, 0x2000, 0x2000, true⟩, 6⟩]
  symbols _ := none
  vecs := ⟨by decide, by decide⟩

/-- A file without program headers is not read, and neither is a segment that does not fit in a `Vec`. -/
theorem reserialise_unread :
    (nothingLoadable.loadableSegments.length < 1000 ∧ ¬ ReadsBack nothingLoadable "a.elf") ∧
    (hugeBss.loadableSegments.length < 1000 ∧ ¬ ReadsBack hugeBss "a.elf") := by
  refine ⟨⟨by decide, fun h => ?_⟩, ⟨by decide, fun h => ?_⟩⟩
  · have hfile : nothingLoadable.reserialise.length < 2 ^ 63 := by
      rw [reserialise_length]
      decide
    have hread := readable_of_segmentsRead (wellFormed_reserialise (by decide) hfile) _
      ((readsBack_iff (by decide) hfile).mp h)
    exact hread.headers (BitVec.eq_of_toNat_eq (header_phnum (by decide)))
  · have hfile : hugeBss.reserialise.length < 2 ^ 63 := by
      rw [reserialise_length]
      decide
    have hread := readable_of_segmentsRead (wellFormed_reserialise (by decide) hfile) _
      ((readsBack_iff (by decide) hfile).mp h)
    have hpos : 0 < hugeBss.loadableSegments.length := Nat.one_pos
    have hmem : fileProgramHeader hugeBss.reserialise 0 ∈ loadableHeaders hugeBss.reserialise := by
      apply mem_loadableHeaders
      · rwa [header_phnum (by decide)]
      · rw [fileProgramHeader_reserialise hpos]
        rfl
    have hsize := hread.sizes _ hmem
    rw [fileProgramHeader_reserialise hpos] at hsize
    exact Nat.lt_irrefl (2 ^ 63) hsize

/-! ## Loading by sections -/

/-- Of the flags of a section, the bit for writing, and that for execution. -/
def sectionBits (shent : ElfSectionHeader64) : Bool × Bool :=
  (shent.flags.getLsbD 0, shent.flags.getLsbD 2)

/-- Of the flags of a segment, the bit for writing, and that for execution. -/
def segmentBits (phent : ElfProgramHeader64) : Bool × Bool :=
  (phent.flags.getLsbD 1, phent.flags.getLsbD 0)

/-- The section header `i` of a file. -/
def fileSectionHeader (bytes : List Byte) (i : Nat) : ElfSectionHeader64 :=
  ElfSectionHeader64.ofBytes ((bytes.drop (field bytes 40 8 + i * ElfSectionHeader64.entrySize)).take
    ElfSectionHeader64.entrySize)

/-- `e_shnum`, as it is read from a file. -/
def sectionCount (bytes : List Byte) : Nat :=
  field bytes 60 2

/-- The bytes are written to an address. -/
def store (mem : Nat → Byte) (address : Nat) (bytes : List Byte) : Nat → Byte :=
  fun a => if address ≤ a then (bytes[a - address]?).getD (mem a) else mem a

/-- A program header is loaded: its bytes in the file, and zeros up to its size. -/
def loadSegment (bytes : List Byte) (mem : Nat → Byte) (phent : ElfProgramHeader64) : Nat → Byte :=
  if phent.type = phentTypeLoadable then
    store mem phent.paddr.toNat ((bytes.drop phent.offset.toNat).take phent.filesz.toNat ++
      List.replicate (phent.memsz.toNat - phent.filesz.toNat) 0)
  else mem

/-- A section header is loaded, if it is marked so. Sections of another kind than `SHT_PROGBITS` are not written with this
mark. -/
def loadSection (bytes : List Byte) (mem : Nat → Byte) (shent : ElfSectionHeader64) : Nat → Byte :=
  if shent.flags &&& shfAlloc ≠ 0 then store mem shent.addr.toNat
    ((bytes.drop shent.offset.toNat).take shent.size.toNat) else mem

/-- The section headers describe what the program headers do: entry by entry, and so that the same is loaded by the counts
that the header gives. -/
structure SectionsDescribe (elf : ElfFile) : Prop where
  segments : (fileHeader elf.reserialise).phnum.toNat = elf.loadableSegments.length
  /-- A section for each segment, the null section and `strtab`. -/
  sections : sectionCount elf.reserialise = elf.loadableSegments.length + 2
  offset : ∀ i < elf.loadableSegments.length,
    (fileSectionHeader elf.reserialise (i + 1)).offset = (fileProgramHeader elf.reserialise i).offset
  addr : ∀ i < elf.loadableSegments.length,
    (fileSectionHeader elf.reserialise (i + 1)).addr = (fileProgramHeader elf.reserialise i).paddr
  size : ∀ i < elf.loadableSegments.length,
    (fileSectionHeader elf.reserialise (i + 1)).size = (fileProgramHeader elf.reserialise i).memsz
  bits : ∀ i < elf.loadableSegments.length,
    sectionBits (fileSectionHeader elf.reserialise (i + 1)) = segmentBits (fileProgramHeader elf.reserialise i)
  loads : ∀ mem, ((List.range (sectionCount elf.reserialise)).map (fileSectionHeader elf.reserialise)).foldl
      (loadSection elf.reserialise) mem =
    ((List.range (fileHeader elf.reserialise).phnum.toNat).map (fileProgramHeader elf.reserialise)).foldl
      (loadSegment elf.reserialise) mem

/-- No segment is executable, and none that takes memory is uninitialised. -/
def OnlyData (elf : ElfFile) : Prop :=
  ∀ seg ∈ elf.loadableSegments, isExecutable seg = false ∧ fileSize seg = seg.memSize

/-- `e_shnum` has sixteen bits. -/
lemma sectionCount_reserialise (elf : ElfFile) :
    sectionCount elf.reserialise = (elf.loadableSegments.length + 2) % 256 ^ 2 :=
  (field_reserialise (by decide)).trans (field_header 18 rfl (by decide))

lemma fileSectionHeader_reserialise (h : i < elf.loadableSegments.length) :
    fileSectionHeader elf.reserialise (i + 1) = sectionHeader elf.loadableSegments[i] (elf.dataOffset i) := by
  have hi : i < elf.sectionHeaders.length := by rwa [sectionHeaders_length]
  obtain ⟨before, behind, hbefore, hsplit⟩ := reserialise_sections elf
  have hoffset : field elf.reserialise 40 8 + (i + 1) * ElfSectionHeader64.entrySize =
      (before ++ List.replicate ElfSectionHeader64.entrySize 0).length + i * ElfSectionHeader64.entrySize := by
    rw [header_shoff, List.length_append, hbefore, List.length_replicate]
    ring
  unfold fileSectionHeader
  rw [hoffset, hsplit, ← List.append_assoc]
  refine (congrArg _ (take_drop_entry ElfSectionHeader64.bytes_length _ behind hi)).trans ?_
  rw [ElfSectionHeader64.ofBytes_bytes, sectionHeaders_getElem h]

lemma fileSectionHeader_zero (elf : ElfFile) : (fileSectionHeader elf.reserialise 0).flags = 0 := by
  obtain ⟨before, behind, hbefore, hsplit⟩ := reserialise_sections elf
  have hoffset : field elf.reserialise 40 8 + 0 * ElfSectionHeader64.entrySize = before.length := by
    rw [header_shoff, hbefore, Nat.zero_mul, Nat.add_zero]
  have hbytes : (elf.reserialise.drop before.length).take ElfSectionHeader64.entrySize =
      List.replicate ElfSectionHeader64.entrySize 0 := by
    rw [hsplit, List.drop_left]
    exact List.take_left' List.length_replicate
  unfold fileSectionHeader
  rw [hoffset, hbytes]
  decide

lemma fileSectionHeader_last (elf : ElfFile) :
    fileSectionHeader elf.reserialise (elf.loadableSegments.length + 1) = strtabHeader elf.dataEnd := by
  have hoffset : field elf.reserialise 40 8 + (elf.loadableSegments.length + 1) * ElfSectionHeader64.entrySize =
      elf.headersBefore.length := by
    rw [header_shoff, headersBefore_length]
  have hbytes : (elf.reserialise.drop elf.headersBefore.length).take ElfSectionHeader64.entrySize =
      (strtabHeader elf.dataEnd).bytes := by
    rw [reserialise_eq, List.drop_left]
    exact List.take_left' (ElfSectionHeader64.bytes_length _)
  unfold fileSectionHeader
  rw [hoffset, hbytes, ElfSectionHeader64.ofBytes_bytes]

lemma and_eq_iff_getLsbD {w i : Nat} (x : BitVec w) (hi : i < w) :
    decide (x &&& BitVec.twoPow w i = BitVec.twoPow w i) = x.getLsbD i := by
  rw [BitVec.and_twoPow]
  cases x.getLsbD i with
  | false =>
    rw [if_neg Bool.false_ne_true, decide_eq_false_iff_not]
    intro h
    have hbit := congrArg (·.getLsbD i) h
    rw [BitVec.getLsbD_zero, BitVec.getLsbD_twoPow, decide_eq_true hi, decide_eq_true rfl] at hbit
    exact Bool.false_ne_true hbit
  | true => rw [if_pos rfl, decide_eq_true rfl]

/-- The flags of a section mark it rightly if its segment is not executable. -/
lemma sectionBits_iff (seg : FileSegment) (offset : Word) :
    sectionBits (sectionHeader seg offset) = segmentBits (programHeader seg offset) ↔ isExecutable seg = false := by
  have hwritable : isWritable seg = seg.attrs.getLsbD 1 := and_eq_iff_getLsbD (i := 1) seg.attrs (by decide)
  have hexecutable : isExecutable seg = seg.attrs.getLsbD 0 := and_eq_iff_getLsbD (i := 0) seg.attrs (by decide)
  unfold sectionBits segmentBits sectionHeader programHeader sectionFlags
  dsimp only
  rw [hwritable, hexecutable]
  cases seg.attrs.getLsbD 1 <;> cases seg.attrs.getLsbD 0 <;> decide

lemma range_map_reserialise {f : Nat → ElfSectionHeader64} (n : Nat) : (List.range (n + 2)).map f =
    f 0 :: ((List.range n).map fun i => f (i + 1)) ++ [f (n + 1)] := by
  rw [List.range_succ, List.range_succ_eq_map, List.map_append, List.map_cons, List.map_map]
  rfl

/-- A segment is loaded by its section as by its program header, if these have the same size. -/
lemma loadSection_eq (bytes : List Byte) (mem : Nat → Byte) {seg : FileSegment} (offset : Word)
    (hsize : fileSize seg = seg.memSize) :
    loadSection bytes mem (sectionHeader seg offset) = loadSegment bytes mem (programHeader seg offset) := by
  have hflags : sectionFlags seg &&& shfAlloc ≠ 0 := by
    unfold sectionFlags
    cases isWritable seg <;> cases isExecutable seg <;> decide
  unfold loadSection loadSegment sectionHeader programHeader
  dsimp only
  rw [if_pos hflags, if_pos rfl, hsize, Nat.sub_self, List.replicate_zero, List.append_nil]

lemma loadSection_unmarked (bytes : List Byte) (mem : Nat → Byte) {shent : ElfSectionHeader64} (h : shent.flags = 0) :
    loadSection bytes mem shent = mem := by
  unfold loadSection
  rw [if_neg]
  rw [h, not_not]
  rfl

/-- What is loaded by sections, if each has the size of its segment. -/
lemma loads_of_sizes (hsizes : ∀ seg ∈ elf.loadableSegments, fileSize seg = seg.memSize) (mem : Nat → Byte) :
    ((List.range (elf.loadableSegments.length + 2)).map (fileSectionHeader elf.reserialise)).foldl
      (loadSection elf.reserialise) mem =
    ((List.range elf.loadableSegments.length).map (fileProgramHeader elf.reserialise)).foldl
    (loadSegment elf.reserialise) mem := by
  rw [range_map_reserialise, List.foldl_append, List.foldl_cons, List.foldl_cons, List.foldl_nil,
    loadSection_unmarked _ mem (fileSectionHeader_zero elf), fileSectionHeader_last, loadSection_unmarked _ _ rfl,
    List.foldl_map, List.foldl_map]
  apply List.foldl_ext
  intro mem' i hi
  have hi := List.mem_range.mp hi
  rw [fileSectionHeader_reserialise hi, fileProgramHeader_reserialise hi]
  exact loadSection_eq _ mem' _ (hsizes _ (List.getElem_mem hi))

/-- The section headers describe what the program headers do if and only if `e_shnum` can count them, no segment is
executable, and none that takes memory is uninitialised. -/
theorem sections_describe_iff (elf : ElfFile) :
    SectionsDescribe elf ↔ elf.loadableSegments.length < 65534 ∧ OnlyData elf := by
  constructor
  · intro h
    have hcount := h.sections
    rw [sectionCount_reserialise] at hcount
    refine ⟨by omega, fun seg hseg => ?_⟩
    obtain ⟨i, hi, rfl⟩ := List.getElem_of_mem hseg
    have hsize := h.size i hi
    have hbits := h.bits i hi
    rw [fileSectionHeader_reserialise hi, fileProgramHeader_reserialise hi] at hsize hbits
    exact ⟨(sectionBits_iff _ _).mp hbits, hsize⟩
  · rintro ⟨hcount, h⟩
    have hsegments : (fileHeader elf.reserialise).phnum.toNat = elf.loadableSegments.length := header_phnum (by omega)
    have hsections : sectionCount elf.reserialise = elf.loadableSegments.length + 2 := by
      rw [sectionCount_reserialise]
      omega
    have hof : ∀ i (hi : i < elf.loadableSegments.length),
        isExecutable elf.loadableSegments[i] = false ∧ fileSize elf.loadableSegments[i] =
          elf.loadableSegments[i].memSize :=
      fun i hi => h _ (List.getElem_mem hi)
    refine ⟨hsegments, hsections, ?offset, ?addr, ?size, ?bits, ?loads⟩
    case offset | addr =>
      intro i hi
      rw [fileSectionHeader_reserialise hi, fileProgramHeader_reserialise hi]
      rfl
    case size =>
      intro i hi
      rw [fileSectionHeader_reserialise hi, fileProgramHeader_reserialise hi]
      exact (hof i hi).2
    case bits =>
      intro i hi
      rw [fileSectionHeader_reserialise hi, fileProgramHeader_reserialise hi]
      exact (sectionBits_iff _ _).mpr (hof i hi).1
    case loads =>
      rw [hsections, hsegments]
      exact loads_of_sizes fun seg hseg => (h seg hseg).2

/-- A file with a segment of code. -/
private def onlyCode : ElfFile where
  path := "a.elf"
  wordSize := 64
  entry := 0x1000
  machine := 183
  segments := [⟨⟨.realData [1, 2, 3, 4], 0x1000, 0x1000, true⟩, 5⟩]
  symbols _ := none
  vecs := ⟨by decide, by decide⟩

/-- The section of a segment that is not writable is marked as writable, and not as executable. -/
theorem onlyCode_marked :
    segmentBits (fileProgramHeader onlyCode.reserialise 0) = (false, true) ∧
    sectionBits (fileSectionHeader onlyCode.reserialise 1) = (true, false) ∧ ¬ SectionsDescribe onlyCode := by
  have hpos : 0 < onlyCode.loadableSegments.length := Nat.one_pos
  have hsegment : segmentBits (fileProgramHeader onlyCode.reserialise 0) = (false, true) := by
    rw [fileProgramHeader_reserialise hpos]
    decide +revert
  have hsection : sectionBits (fileSectionHeader onlyCode.reserialise 1) = (true, false) := by
    rw [fileSectionHeader_reserialise hpos]
    decide +revert
  refine ⟨hsegment, hsection, fun h => ?_⟩
  have hbits := h.bits 0 hpos
  rw [hsegment, hsection] at hbits
  exact absurd hbits (by decide)

end ElfFile

end NexsKernel.Elf
