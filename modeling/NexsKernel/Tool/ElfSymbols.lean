import NexsKernel.Lib.Layout
import NexsKernel.Tool.ElfReader

/-!
# Patching symbols

The tool finds variables of a program by their symbols, and writes their values into the segments
(`ElfFile::write_symbol`, `elf.rs`). `write_symbol` and `get_data` look for the first segment that has the whole symbol;
its end and the end of the segment are computed with 64 bits. A symbol is read and written in the same place, unless its
end wraps around (`symbols_agree_iff`), and patches of symbols that do not overlap may be made in any order
(`writeAll_perm`).
-/

namespace NexsKernel.Elf

open Image Checks Layout
open Sdf (Failure)

/-! ## Programs -/

/-- `ElfSymbol64`, as far as it is used. -/
structure ElfSymbol64 where
  value : Word
  size : Word
  deriving DecidableEq, Repr

/-- The number of bytes of a segment that are in the file. -/
def fileLength (seg : FileSegment) : Nat :=
  match seg.data with
  | .realData bytes => bytes.length
  | .uninitialisedData _ => 0

/-- A `Vec` has less than `2 ^ 63` bytes; an `ElfSegment` takes 48 of them. -/
structure Vecs (segments : List FileSegment) : Prop where
  size : 48 * segments.length < 2 ^ 63
  data : ∀ seg ∈ segments, fileLength seg < 2 ^ 63

@[ext]
structure ElfFile where
  path : String
  wordSize : Nat
  entry : Word
  machine : BitVec 16
  segments : List FileSegment
  /-- A symbol by its name, and whether there are several with that name. -/
  symbols : String → Option (ElfSymbol64 × Bool)
  vecs : Vecs segments

/-- `data()`, and with another name in its message `data_mut()`. -/
def dataOf (function : String) (seg : FileSegment) : Except Failure (List Byte) :=
  match seg.data with
  | .realData bytes => .ok bytes
  | .uninitialisedData _ => .error (.panicked
      s!"internal error: entered unreachable code: internal bug: {function}() called on an uninitialised ELF segment.")

/-- `bytes[start..stop].copy_from_slice(data)`. -/
def copyFromSlice (bytes : List Byte) (start stop : Word) (data : List Byte) : Except Failure (List Byte) := do
  let range ← slice bytes start stop
  failIf (range.length ≠ data.length) (.panicked "copy_from_slice: source slice length does not match destination slice length")
  return patch bytes start.toNat data

/-- The check of `write_symbol` and of `get_data`. -/
def Accepts (vaddr size : Word) (seg : FileSegment) : Prop :=
  seg.virtAddr ≤ vaddr ∧ vaddr + size ≤ seg.virtAddr + seg.memSize

instance (vaddr size : Word) (seg : FileSegment) : Decidable (Accepts vaddr size seg) :=
  inferInstanceAs (Decidable (_ ∧ _))

/-- The loop of `write_symbol`. -/
def writeSegments (vaddr size : Word) (data : List Byte) : List FileSegment → Except Failure (Option (List FileSegment))
  | [] => return none
  | seg :: segments =>
    if Accepts vaddr size seg then do
      let offset := vaddr - seg.virtAddr
      failIf (size < BitVec.ofNat 64 data.length) (.panicked "assertion failed: data.len() as u64 <= size")
      let bytes ← dataOf "data_mut" seg
      let bytes ← copyFromSlice bytes offset (offset + BitVec.ofNat 64 data.length) data
      return some ({ seg with data := .realData bytes } :: segments)
    else do
      let written ← writeSegments vaddr size data segments
      return written.map (seg :: ·)

/-- The loop of `get_data`. -/
def readSegments (vaddr size : Word) : List FileSegment → Except Failure (Option (List Byte))
  | [] => return none
  | seg :: segments =>
    if Accepts vaddr size seg then do
      let offset := vaddr - seg.virtAddr
      let bytes ← dataOf "data" seg
      let range ← slice bytes offset (offset + size)
      return some range
    else readSegments vaddr size segments

/-! ## What the loops do -/

/-- The segment with other bytes from an address on. -/
def patchSegment (seg : FileSegment) (bytes : List Byte) (vaddr : Word) (data : List Byte) : FileSegment :=
  { seg with data := .realData (patch bytes (vaddr - seg.virtAddr).toNat data) }

/-- The segment `i` with bytes `bytes` is the first that is accepted. -/
structure Chosen (vaddr size : Word) (segments : List FileSegment) (i : Nat) (seg : FileSegment)
    (bytes : List Byte) : Prop where
  first : segments.findIdx? (Accepts vaddr size) = some i
  here : segments[i]? = some seg
  real : seg.data = .realData bytes

/-- `n` bytes from an address on are in the segment. -/
def Room (vaddr : Word) (n : Nat) (seg : FileSegment) (bytes : List Byte) : Prop :=
  (vaddr - seg.virtAddr).toNat + n ≤ bytes.length

section loops

variable {vaddr size vaddr' size' : Word} {data data' : List Byte} {segments segments' : List FileSegment}
  {seg seg' : FileSegment} {bytes bytes' r : List Byte} {i j : Nat}

lemma Chosen.accepts (h : Chosen vaddr size segments i seg bytes) : Accepts vaddr size seg := by
  obtain ⟨hi, haccepts, -⟩ := List.findIdx?_eq_some_iff_getElem.mp h.first
  obtain ⟨_, rfl⟩ := List.getElem?_eq_some_iff.mp h.here
  exact of_decide_eq_true haccepts

lemma Chosen.le (h : Chosen vaddr size segments i seg bytes) : seg.virtAddr.toNat ≤ vaddr.toNat :=
  h.accepts.1

lemma Chosen.offset (h : Chosen vaddr size segments i seg bytes) : (vaddr - seg.virtAddr).toNat =
    vaddr.toNat - seg.virtAddr.toNat :=
  BitVec.toNat_sub_of_le (BitVec.le_def.mpr h.le)

lemma Chosen.unique (h : Chosen vaddr size segments i seg bytes) (h' : Chosen vaddr size segments j seg' bytes') :
    i = j ∧ seg = seg' ∧ bytes = bytes' := by
  obtain rfl := Option.some.inj (h.first.symm.trans h'.first)
  obtain rfl := Option.some.inj (h.here.symm.trans h'.here)
  exact ⟨rfl, rfl, ElfSegmentData.realData.inj (h.real.symm.trans h'.real)⟩

lemma chosen_cons_zero (h : Accepts vaddr size seg) :
    Chosen vaddr size (seg :: segments) i seg' bytes ↔ i = 0 ∧ seg' = seg ∧ seg.data = .realData bytes := by
  constructor
  · rintro ⟨hfirst, hhere, hreal⟩
    rw [List.findIdx?_cons, if_pos (decide_eq_true h)] at hfirst
    obtain rfl := Option.some.inj hfirst
    obtain rfl := Option.some.inj hhere
    exact ⟨rfl, rfl, hreal⟩
  · rintro ⟨rfl, rfl, hreal⟩
    refine ⟨?_, rfl, hreal⟩
    rw [List.findIdx?_cons, if_pos (decide_eq_true h)]

lemma chosen_cons_succ (h : ¬ Accepts vaddr size seg) :
    Chosen vaddr size (seg :: segments) i seg' bytes ↔ ∃ k, i = k + 1 ∧ Chosen vaddr size segments k seg' bytes := by
  have hcons : (seg :: segments).findIdx? (Accepts vaddr size) =
    (segments.findIdx? (Accepts vaddr size)).map (· + 1) := by
    rw [List.findIdx?_cons, if_neg (by rwa [decide_eq_true_iff])]
  constructor
  · rintro ⟨hfirst, hhere, hreal⟩
    rw [hcons] at hfirst
    obtain ⟨k, hk, rfl⟩ := Option.map_eq_some_iff.mp hfirst
    exact ⟨k, rfl, hk, hhere, hreal⟩
  · rintro ⟨k, rfl, hfirst, hhere, hreal⟩
    exact ⟨by rw [hcons, hfirst, Option.map_some], hhere, hreal⟩

/-- The bounds of a slice, whose end is computed with 64 bits. -/
lemma slice_window {n : Nat} (hn : n < 2 ^ 64) (hbytes : bytes.length < 2 ^ 63) {offset : Word} :
    slice bytes offset (offset + BitVec.ofNat 64 n) = .ok r ↔
      offset.toNat + n ≤ bytes.length ∧ (bytes.drop offset.toNat).take n = r := by
  have hoffset := offset.isLt
  have hstop : (offset + BitVec.ofNat 64 n).toNat = (offset.toNat + n) % 2 ^ 64 := by
    rw [BitVec.toNat_add, BitVec.toNat_ofNat, Nat.mod_eq_of_lt hn]
  rw [slice_ok, hstop]
  constructor
  · rintro ⟨hle, hlength, rfl⟩
    have hadd : (offset.toNat + n) % 2 ^ 64 = offset.toNat + n := by omega
    rw [hadd] at hlength ⊢
    rw [Nat.add_sub_cancel_left]
    exact ⟨hlength, rfl⟩
  · rintro ⟨hlength, rfl⟩
    rw [Nat.mod_eq_of_lt (by omega), Nat.add_sub_cancel_left]
    exact ⟨Nat.le_add_right _ _, hlength, rfl⟩

lemma dataOf_ok {function : String} : dataOf function seg = .ok bytes ↔ seg.data = .realData bytes := by
  unfold dataOf
  cases seg.data with
  | realData bytes' => exact ⟨fun h => congrArg _ (Except.ok.inj h), fun h =>
    congrArg _ (ElfSegmentData.realData.inj h)⟩
  | uninitialisedData size => exact ⟨nofun, nofun⟩

lemma copyFromSlice_ok (hdata : data.length < 2 ^ 64) (hbytes : bytes.length < 2 ^ 63) {offset : Word} :
    copyFromSlice bytes offset (offset + BitVec.ofNat 64 data.length) data = .ok r ↔
      offset.toNat + data.length ≤ bytes.length ∧ patch bytes offset.toNat data = r := by
  unfold copyFromSlice
  rw [bind_ok]
  constructor
  · rintro ⟨range, hslice, hcopy⟩
    obtain ⟨hroom, -⟩ := (slice_window hdata hbytes).mp hslice
    exact ⟨hroom, pure_ok.mp (failIf_bind.mp hcopy).2⟩
  · rintro ⟨hroom, rfl⟩
    refine ⟨_, (slice_window hdata hbytes).mpr ⟨hroom, rfl⟩, failIf_bind.mpr ⟨?_, rfl⟩⟩
    rw [not_not, List.length_take, List.length_drop]
    omega

/-- Data that is no longer than the symbol is written into the first segment that is accepted, if it has room there. -/
lemma writeSegments_some (hdata : data.length ≤ size.toNat) (hvecs : ∀ seg ∈ segments, fileLength seg < 2 ^ 63) :
    writeSegments vaddr size data segments = .ok (some segments') ↔
      ∃ i seg bytes, Chosen vaddr size segments i seg bytes ∧ Room vaddr data.length seg bytes ∧
        segments' = segments.set i (patchSegment seg bytes vaddr data) := by
  have hlt : data.length < 2 ^ 64 := lt_of_le_of_lt hdata size.isLt
  induction segments generalizing segments' with
  | nil => exact ⟨nofun, fun ⟨_, _, _, hchosen, _⟩ => nomatch hchosen.first⟩
  | cons seg segments ih =>
    rw [writeSegments]
    by_cases haccepts : Accepts vaddr size seg
    · have hassert : ¬ size < BitVec.ofNat 64 data.length := by
        rwa [BitVec.lt_def, BitVec.toNat_ofNat, Nat.mod_eq_of_lt hlt, not_lt]
      have hbytes : ∀ {bytes}, seg.data = .realData bytes → bytes.length < 2 ^ 63 := by
        intro bytes hreal
        have hlength := hvecs seg List.mem_cons_self
        rwa [fileLength, hreal] at hlength
      rw [if_pos haccepts, failIf_bind, bind_ok]
      simp only [chosen_cons_zero haccepts]
      constructor
      · rintro ⟨-, bytes, hreal, h⟩
        have hreal := dataOf_ok.mp hreal
        obtain ⟨_, hcopy, h⟩ := bind_ok.mp h
        obtain ⟨hroom, rfl⟩ := (copyFromSlice_ok hlt (hbytes hreal)).mp hcopy
        obtain rfl := Option.some.inj (pure_ok.mp h)
        exact ⟨0, seg, bytes, ⟨rfl, rfl, hreal⟩, hroom, rfl⟩
      · rintro ⟨_, _, bytes, ⟨rfl, rfl, hreal⟩, hroom, rfl⟩
        refine ⟨hassert, bytes, dataOf_ok.mpr hreal,
          bind_ok.mpr ⟨_, (copyFromSlice_ok hlt (hbytes hreal)).mpr ⟨hroom, rfl⟩, rfl⟩⟩
    · rw [if_neg haccepts, bind_ok]
      simp only [chosen_cons_succ haccepts]
      constructor
      · rintro ⟨written, hwritten, h⟩
        obtain ⟨rest, rfl, rfl⟩ := Option.map_eq_some_iff.mp (pure_ok.mp h)
        obtain ⟨k, seg', bytes, hchosen, hroom, rfl⟩ :=
          (ih fun seg' hseg' => hvecs seg' (List.mem_cons_of_mem seg hseg')).mp hwritten
        exact ⟨k + 1, seg', bytes, ⟨k, rfl, hchosen⟩, hroom, rfl⟩
      · rintro ⟨_, seg', bytes, ⟨k, rfl, hchosen⟩, hroom, rfl⟩
        exact ⟨_, (ih fun seg' hseg' => hvecs seg' (List.mem_cons_of_mem seg hseg')).mpr ⟨k, seg', bytes, hchosen,
          hroom, rfl⟩, rfl⟩

lemma writeSegments_none :
    writeSegments vaddr size data segments = .ok none ↔ ∀ seg ∈ segments, ¬ Accepts vaddr size seg := by
  induction segments with
  | nil => exact ⟨fun _ => nofun, fun _ => rfl⟩
  | cons seg segments ih =>
    rw [writeSegments, List.forall_mem_cons]
    by_cases haccepts : Accepts vaddr size seg
    · rw [if_pos haccepts, failIf_bind, bind_ok]
      refine ⟨fun ⟨_, _, _, h⟩ => ?_, fun h => absurd haccepts h.1⟩
      obtain ⟨_, _, h⟩ := bind_ok.mp h
      exact nomatch pure_ok.mp h
    · rw [if_neg haccepts, bind_ok, ← ih]
      constructor
      · rintro ⟨written, hwritten, h⟩
        rw [Option.map_eq_none_iff.mp (pure_ok.mp h)] at hwritten
        exact ⟨haccepts, hwritten⟩
      · rintro ⟨-, h⟩
        exact ⟨none, h, rfl⟩

/-- A symbol is read from the first segment that is accepted, if it is in it. -/
lemma readSegments_some (hvecs : ∀ seg ∈ segments, fileLength seg < 2 ^ 63) :
    readSegments vaddr size segments = .ok (some r) ↔
      ∃ i seg bytes, Chosen vaddr size segments i seg bytes ∧ Room vaddr size.toNat seg bytes ∧
        r = (bytes.drop (vaddr - seg.virtAddr).toNat).take size.toNat := by
  induction segments with
  | nil => exact ⟨nofun, fun ⟨_, _, _, hchosen, _⟩ => nomatch hchosen.first⟩
  | cons seg segments ih =>
    rw [readSegments]
    by_cases haccepts : Accepts vaddr size seg
    · have hslice : ∀ {bytes range}, seg.data = .realData bytes →
          (slice bytes (vaddr - seg.virtAddr) (vaddr - seg.virtAddr + size) = .ok range ↔
            Room vaddr size.toNat seg bytes ∧ (bytes.drop (vaddr - seg.virtAddr).toNat).take size.toNat = range) := by
        intro bytes range hreal
        have hlength := hvecs seg List.mem_cons_self
        rw [fileLength, hreal] at hlength
        have hwindow : slice bytes _ (vaddr - seg.virtAddr + BitVec.ofNat 64 size.toNat) = .ok range ↔ _ :=
          slice_window size.isLt hlength
        rwa [BitVec.ofNat_toNat, BitVec.setWidth_eq] at hwindow
      rw [if_pos haccepts, bind_ok]
      simp only [chosen_cons_zero haccepts]
      constructor
      · rintro ⟨bytes, hreal, h⟩
        have hreal := dataOf_ok.mp hreal
        obtain ⟨range, hrange, h⟩ := bind_ok.mp h
        obtain ⟨hroom, rfl⟩ := (hslice hreal).mp hrange
        exact ⟨0, seg, bytes, ⟨rfl, rfl, hreal⟩, hroom, (Option.some.inj (pure_ok.mp h)).symm⟩
      · rintro ⟨_, _, bytes, ⟨rfl, rfl, hreal⟩, hroom, rfl⟩
        exact ⟨bytes, dataOf_ok.mpr hreal, bind_ok.mpr ⟨_, (hslice hreal).mpr ⟨hroom, rfl⟩, rfl⟩⟩
    · rw [if_neg haccepts, ih fun seg' hseg' => hvecs seg' (List.mem_cons_of_mem seg hseg')]
      simp only [chosen_cons_succ haccepts]
      constructor
      · rintro ⟨k, seg', bytes, hchosen, hread⟩
        exact ⟨k + 1, seg', bytes, ⟨k, rfl, hchosen⟩, hread⟩
      · rintro ⟨_, seg', bytes, ⟨k, rfl, hchosen⟩, hread⟩
        exact ⟨k, seg', bytes, hchosen, hread⟩

lemma readSegments_none : readSegments vaddr size segments = .ok none ↔ ∀ seg ∈ segments, ¬ Accepts vaddr size seg := by
  induction segments with
  | nil => exact ⟨fun _ => nofun, fun _ => rfl⟩
  | cons seg segments ih =>
    rw [readSegments, List.forall_mem_cons]
    by_cases haccepts : Accepts vaddr size seg
    · rw [if_pos haccepts, bind_ok]
      refine ⟨fun ⟨_, _, h⟩ => ?_, fun h => absurd haccepts h.1⟩
      obtain ⟨_, _, h⟩ := bind_ok.mp h
      exact nomatch pure_ok.mp h
    · rw [if_neg haccepts, ih]
      exact ⟨fun h => ⟨haccepts, h⟩, fun h => h.2⟩

lemma copyFromSlice_length {start stop : Word} (h : copyFromSlice bytes start stop data = .ok r) :
    r.length = bytes.length := by
  obtain ⟨range, hslice, h⟩ := bind_ok.mp h
  obtain ⟨hle, hstop, rfl⟩ := slice_ok.mp hslice
  obtain ⟨hlength, h⟩ := failIf_bind.mp h
  rw [not_not, List.length_take, List.length_drop] at hlength
  obtain rfl := pure_ok.mp h
  exact patch_length (by omega)

lemma writeSegments_lengths (h : writeSegments vaddr size data segments = .ok (some segments')) :
    segments'.map fileLength = segments.map fileLength := by
  induction segments generalizing segments' with
  | nil => exact nomatch pure_ok.mp h
  | cons seg segments ih =>
    rw [writeSegments] at h
    by_cases haccepts : Accepts vaddr size seg
    · rw [if_pos haccepts, failIf_bind, bind_ok] at h
      obtain ⟨-, bytes, hreal, h⟩ := h
      obtain ⟨bytes', hcopy, h⟩ := bind_ok.mp h
      obtain rfl := Option.some.inj (pure_ok.mp h)
      rw [List.map_cons, List.map_cons]
      congr 1
      rw [fileLength, fileLength, dataOf_ok.mp hreal]
      exact copyFromSlice_length hcopy
    · rw [if_neg haccepts, bind_ok] at h
      obtain ⟨written, hwritten, h⟩ := h
      obtain ⟨rest, rfl, rfl⟩ := Option.map_eq_some_iff.mp (pure_ok.mp h)
      rw [List.map_cons, List.map_cons, ih hwritten]

/-- What is written is no larger than what was there. -/
lemma Vecs.writeSegments (hvecs : Vecs segments) (h : writeSegments vaddr size data segments = .ok (some segments')) :
    Vecs segments' := by
  have hlengths := writeSegments_lengths h
  constructor
  · rw [← List.length_map fileLength, hlengths, List.length_map]
    exact hvecs.size
  · intro seg hseg
    have hmem : fileLength seg ∈ segments.map fileLength := hlengths ▸ List.mem_map_of_mem hseg
    obtain ⟨seg', hseg', hlength⟩ := List.mem_map.mp hmem
    exact hlength ▸ hvecs.data seg' hseg'

/-! ## Failures -/

/-- Where it fails, it panics. -/
def OnlyPanics {α : Type} (x : Except Failure α) : Prop :=
  ∀ reason, x ≠ .error (.err reason)

lemma OnlyPanics.bind {α β : Type} {x : Except Failure α} {f : α → Except Failure β} (hx : OnlyPanics x)
    (hf : ∀ a, OnlyPanics (f a)) :
    OnlyPanics (x >>= f) := by
  cases x with
  | error e => exact fun reason h => hx reason (congrArg _ (Except.error.inj h))
  | ok a => exact hf a

lemma onlyPanics_failIf {c : Prop} [Decidable c] {message : String} :
    OnlyPanics (failIf c (Failure.panicked message)) := by
  unfold failIf
  split <;> exact nofun

lemma onlyPanics_slice {start stop : Word} : OnlyPanics (slice bytes start stop) :=
  onlyPanics_failIf.bind fun _ => onlyPanics_failIf.bind fun _ => nofun

lemma onlyPanics_dataOf {function : String} : OnlyPanics (dataOf function seg) := by
  unfold dataOf
  cases seg.data <;> exact nofun

lemma onlyPanics_writeSegments : OnlyPanics (writeSegments vaddr size data segments) := by
  induction segments with
  | nil => exact nofun
  | cons seg segments ih =>
    rw [Elf.writeSegments]
    by_cases haccepts : Accepts vaddr size seg
    · rw [if_pos haccepts]
      refine onlyPanics_failIf.bind fun _ => onlyPanics_dataOf.bind fun bytes => ?_
      have hcopy : OnlyPanics (copyFromSlice bytes (vaddr - seg.virtAddr)
        (vaddr - seg.virtAddr + BitVec.ofNat 64 data.length) data) :=
        onlyPanics_slice.bind fun _ => onlyPanics_failIf.bind fun _ => nofun
      exact hcopy.bind fun _ => nofun
    · rw [if_neg haccepts]
      exact ih.bind fun _ => nofun

end loops

/-! ## Symbols -/

namespace ElfFile

variable (elf : ElfFile)

def findSymbol (variableName : String) : Except Failure (Word × Word) :=
  match elf.symbols variableName with
  | some (sym, duplicate) =>
    if duplicate then .error (.err s!"multiple symbols with name '{variableName}'")
    else .ok (sym.value, sym.size)
  | none => .error (.err s!"no symbol named '{variableName}' found")

def writeSymbol (variableName : String) (data : List Byte) : Except Failure ElfFile := do
  let (vaddr, size) ← elf.findSymbol variableName
  match h : writeSegments vaddr size data elf.segments with
  | .error e => .error e
  | .ok none => .error (.err s!"No symbol named {variableName} found")
  | .ok (some segments) => .ok { elf with segments := segments, vecs := elf.vecs.writeSegments h }

def getData (vaddr size : Word) : Except Failure (Option (List Byte)) :=
  readSegments vaddr size elf.segments

/-- Patches of several symbols, one after the other. -/
def writeAll (patches : List (String × List Byte)) : Except Failure ElfFile :=
  patches.foldlM (fun elf patch => elf.writeSymbol patch.1 patch.2) elf

end ElfFile

section symbols

variable {elf elf' elf'' : ElfFile} {name name' : String} {vaddr size vaddr' size' : Word} {data data' : List Byte}
  {segments : List FileSegment} {seg seg' : FileSegment} {bytes bytes' r : List Byte} {i j : Nat}

/-- `elf'` is `elf` with other segments. -/
structure Patched (elf elf' : ElfFile) (segments : List FileSegment) : Prop where
  segments : elf'.segments = segments
  path : elf'.path = elf.path
  wordSize : elf'.wordSize = elf.wordSize
  entry : elf'.entry = elf.entry
  machine : elf'.machine = elf.machine
  symbols : elf'.symbols = elf.symbols

lemma Patched.of_both {segments' : List FileSegment} (h : Patched elf elf' segments)
    (h' : Patched elf elf'' segments') :
    Patched elf' elf'' segments' :=
  ⟨h'.segments, h'.path.trans h.path.symm, h'.wordSize.trans h.wordSize.symm, h'.entry.trans h.entry.symm,
    h'.machine.trans h.machine.symm, h'.symbols.trans h.symbols.symm⟩

lemma Patched.trans {segments' : List FileSegment} (h : Patched elf elf' segments) (h' : Patched elf' elf'' segments') :
    Patched elf elf'' segments' :=
  ⟨h'.segments, h'.path.trans h.path, h'.wordSize.trans h.wordSize, h'.entry.trans h.entry,
    h'.machine.trans h.machine, h'.symbols.trans h.symbols⟩

lemma Patched.unique (h : Patched elf elf' segments) (h' : Patched elf elf'' segments) : elf' = elf'' := by
  apply ElfFile.ext
  · rw [h.path, h'.path]
  · rw [h.wordSize, h'.wordSize]
  · rw [h.entry, h'.entry]
  · rw [h.machine, h'.machine]
  · rw [h.segments, h'.segments]
  · rw [h.symbols, h'.symbols]

lemma findSymbol_congr (h : elf'.symbols = elf.symbols) : elf'.findSymbol name = elf.findSymbol name := by
  unfold ElfFile.findSymbol
  rw [h]

/-- A symbol that is found is written by the loop. -/
lemma writeSymbol_some (hfind : elf.findSymbol name = .ok (vaddr, size)) :
    elf.writeSymbol name data = .ok elf' ↔
      ∃ segments, writeSegments vaddr size data elf.segments = .ok (some segments) ∧ Patched elf elf' segments := by
  unfold ElfFile.writeSymbol
  rw [hfind, bind_ok]
  constructor
  · rintro ⟨_, hpair, h⟩
    cases hpair
    dsimp only at h
    split at h
    · exact nomatch h
    · exact nomatch h
    · rename_i segments hsegments
      obtain rfl := Except.ok.inj h
      exact ⟨segments, hsegments, rfl, rfl, rfl, rfl, rfl, rfl⟩
  · rintro ⟨segments, hsegments, hpatched⟩
    refine ⟨_, rfl, ?_⟩
    dsimp only
    split
    · rename_i hother
      exact nomatch hother.symm.trans hsegments
    · rename_i hother
      exact nomatch hother.symm.trans hsegments
    · rename_i segments' hsegments'
      obtain rfl := Option.some.inj (Except.ok.inj (hsegments'.symm.trans hsegments))
      refine congrArg Except.ok (Patched.unique ?_ hpatched)
      exact ⟨rfl, rfl, rfl, rfl, rfl, rfl⟩

lemma writeSymbol_notFound (hfind : elf.findSymbol name = .ok (vaddr, size)) :
    elf.writeSymbol name data = .error (.err s!"No symbol named {name} found") ↔
      writeSegments vaddr size data elf.segments = .ok none := by
  unfold ElfFile.writeSymbol
  rw [hfind]
  dsimp only [bind, Except.bind]
  split
  · rename_i e hsegments
    refine ⟨fun h => ?_, fun h => nomatch hsegments.symm.trans h⟩
    cases h
    exact absurd hsegments (onlyPanics_writeSegments _)
  · rename_i hsegments
    exact ⟨fun _ => hsegments, fun _ => rfl⟩
  · rename_i segments hsegments
    exact ⟨nofun, fun h => nomatch hsegments.symm.trans h⟩

/-- Whether a segment is accepted does not depend on its bytes. -/
lemma accepts_patchSegment (hreal : seg.data = .realData bytes) (hroom : Room vaddr data.length seg bytes) :
    Accepts vaddr' size' (patchSegment seg bytes vaddr data) ↔ Accepts vaddr' size' seg := by
  unfold Accepts patchSegment ElfSegment.memSize
  dsimp only
  rw [hreal, patch_length hroom]

lemma findIdx?_set {α : Type} {p : α → Bool} {xs : List α} {x y : α} (hx : xs[i]? = some x) (hp : p y = p x) :
    (xs.set i y).findIdx? p = xs.findIdx? p := by
  induction xs generalizing i with
  | nil => rfl
  | cons z xs ih =>
    cases i with
    | zero =>
      obtain rfl := Option.some.inj hx
      rw [List.set_cons_zero, List.findIdx?_cons, List.findIdx?_cons, hp]
    | succ i =>
      rw [List.set_cons_succ, List.findIdx?_cons, List.findIdx?_cons, ih hx]

/-- A patch changes neither which segment is chosen, nor the bytes of the others. -/
lemma Chosen.patched (h : Chosen vaddr size segments i seg bytes) (hroom : Room vaddr data.length seg bytes) :
    Chosen vaddr' size' (segments.set i (patchSegment seg bytes vaddr data)) j seg' bytes' ↔
      (j = i ∧ Chosen vaddr' size' segments i seg bytes ∧ seg' = patchSegment seg bytes vaddr data ∧
        bytes' = patch bytes (vaddr - seg.virtAddr).toNat data) ∨ (j ≠ i ∧ Chosen vaddr' size' segments j seg' bytes') := by
  have hi : i < segments.length := (List.getElem?_eq_some_iff.mp h.here).1
  have hfirst : (segments.set i (patchSegment seg bytes vaddr data)).findIdx? (Accepts vaddr' size') =
      segments.findIdx? (Accepts vaddr' size') :=
    findIdx?_set h.here (decide_eq_decide.mpr (accepts_patchSegment h.real hroom))
  constructor
  · rintro ⟨hfirst', hhere', hreal'⟩
    rw [hfirst] at hfirst'
    by_cases hj : j = i
    · rw [hj] at hfirst' hhere'
      rw [List.getElem?_set_self hi] at hhere'
      obtain rfl := Option.some.inj hhere'
      exact .inl ⟨hj, ⟨hfirst', h.here, h.real⟩, rfl, (ElfSegmentData.realData.inj hreal').symm⟩
    · rw [List.getElem?_set_ne (Ne.symm hj)] at hhere'
      exact .inr ⟨hj, hfirst', hhere', hreal'⟩
  · rintro (⟨rfl, hchosen, rfl, rfl⟩ | ⟨hj, hfirst', hhere', hreal'⟩)
    · exact ⟨hfirst.trans hchosen.first, List.getElem?_set_self hi, rfl⟩
    · exact ⟨hfirst.trans hfirst', (List.getElem?_set_ne (Ne.symm hj)).trans hhere', hreal'⟩

/-- The data is within the symbol. -/
def Short (elf : ElfFile) (p : String × List Byte) : Prop :=
  ∀ vaddr size, elf.findSymbol p.1 = .ok (vaddr, size) → p.2.length ≤ size.toNat

/-- The symbols do not overlap. -/
def Apart (elf : ElfFile) (p q : String × List Byte) : Prop :=
  ∀ vaddr size vaddr' size', elf.findSymbol p.1 = .ok (vaddr, size) → elf.findSymbol q.1 = .ok (vaddr', size') →
    vaddr.toNat + size.toNat ≤ vaddr'.toNat ∨ vaddr'.toNat + size'.toNat ≤ vaddr.toNat

/-- Data that is written to a symbol is written into the first segment that is accepted. -/
lemma writeSymbol_ok (hfind : elf.findSymbol name = .ok (vaddr, size)) (hdata : data.length ≤ size.toNat) :
    elf.writeSymbol name data = .ok elf' ↔ ∃ i seg bytes, Chosen vaddr size elf.segments i seg bytes ∧
      Room vaddr data.length seg bytes ∧ Patched elf elf' (elf.segments.set i (patchSegment seg bytes vaddr data)) := by
  rw [writeSymbol_some hfind]
  constructor
  · rintro ⟨_, hsegments, hpatched⟩
    obtain ⟨i, seg, bytes, hchosen, hroom, rfl⟩ := (writeSegments_some hdata elf.vecs.data).mp hsegments
    exact ⟨i, seg, bytes, hchosen, hroom, hpatched⟩
  · rintro ⟨i, seg, bytes, hchosen, hroom, hpatched⟩
    exact ⟨_, (writeSegments_some hdata elf.vecs.data).mpr ⟨i, seg, bytes, hchosen, hroom, rfl⟩, hpatched⟩

lemma exists_writeSymbol (hfind : elf.findSymbol name = .ok (vaddr, size)) (hdata : data.length ≤ size.toNat)
    (hchosen : Chosen vaddr size elf.segments i seg bytes) (hroom : Room vaddr data.length seg bytes) :
    ∃ elf', elf.writeSymbol name data = .ok elf' ∧
      Patched elf elf' (elf.segments.set i (patchSegment seg bytes vaddr data)) := by
  have hsegments := (writeSegments_some hdata elf.vecs.data).mpr ⟨i, seg, bytes, hchosen, hroom, rfl⟩
  let elf' : ElfFile := { elf with segments := _, vecs := elf.vecs.writeSegments hsegments }
  have hpatched : Patched elf elf' _ := ⟨rfl, rfl, rfl, rfl, rfl, rfl⟩
  exact ⟨elf', (writeSymbol_some hfind).mpr ⟨_, hsegments, hpatched⟩, hpatched⟩

/-- Patches of symbols that do not overlap may be swapped. -/
lemma writeSymbol_swap (hfind : elf.findSymbol name = .ok (vaddr, size))
    (hfind' : elf.findSymbol name' = .ok (vaddr', size'))
    (hdata : data.length ≤ size.toNat) (hdata' : data'.length ≤ size'.toNat)
    (hapart : vaddr.toNat + size.toNat ≤ vaddr'.toNat ∨ vaddr'.toNat + size'.toNat ≤ vaddr.toNat)
    (h : (elf.writeSymbol name data >>= (·.writeSymbol name' data')) = .ok elf'') :
    (elf.writeSymbol name' data' >>= (·.writeSymbol name data)) = .ok elf'' := by
  obtain ⟨elf1, hfirst, hsecond⟩ := bind_ok.mp h
  obtain ⟨i, seg, bytes, hchosen, hroom, hpatched⟩ := (writeSymbol_ok hfind hdata).mp hfirst
  have hfind1 : elf1.findSymbol name' = .ok (vaddr', size') := (findSymbol_congr hpatched.symbols).trans hfind'
  obtain ⟨j, seg', bytes', hchosen', hroom', hpatched'⟩ := (writeSymbol_ok hfind1 hdata').mp hsecond
  rw [hpatched.segments, hchosen.patched hroom] at hchosen'
  -- the second patch may be made in the file as it was
  have hswapped : ∀ {j seg' bytes'}, Chosen vaddr' size' elf.segments j seg' bytes' →
    Room vaddr' data'.length seg' bytes' →
      (∀ elf2, Patched elf elf2 (elf.segments.set j (patchSegment seg' bytes' vaddr' data')) →
        ∃ i seg bytes, Chosen vaddr size elf2.segments i seg bytes ∧ Room vaddr data.length seg bytes ∧
          elf2.segments.set i (patchSegment seg bytes vaddr data) = elf''.segments) →
      (elf.writeSymbol name' data' >>= (·.writeSymbol name data)) = .ok elf'' := by
    intro j seg' bytes' hchosen2 hroom2 hlast
    obtain ⟨elf2, hwrite2, hpatched2⟩ := exists_writeSymbol hfind' hdata' hchosen2 hroom2
    obtain ⟨k, seg2, bytes2, hchosen3, hroom3, hsegments⟩ := hlast elf2 hpatched2
    refine bind_ok.mpr ⟨elf2, hwrite2, (writeSymbol_ok ((findSymbol_congr hpatched2.symbols).trans hfind) hdata).mpr
      ⟨k, seg2, bytes2, hchosen3, hroom3, ?_⟩⟩
    rw [hsegments, hpatched'.segments]
    exact hpatched2.of_both (hpatched.trans hpatched')
  obtain ⟨rfl, hchosen', rfl, rfl⟩ | ⟨hj, hchosen'⟩ := hchosen'
  · have hroom2 : Room vaddr' data'.length seg bytes := by
      unfold Room at hroom'
      rwa [patch_length hroom] at hroom'
    refine hswapped hchosen' hroom2 fun elf2 hpatched2 =>
      ⟨j, _, _, by rw [hpatched2.segments, hchosen'.patched hroom2]; exact .inl ⟨rfl, hchosen, rfl, rfl⟩, ?_, ?_⟩
    · unfold Room
      rw [patch_length hroom2]
      exact hroom
    · have hle := hchosen.le
      have hle' := hchosen'.le
      have hoffset := hchosen.offset
      have hoffset' := hchosen'.offset
      rw [hpatched2.segments, hpatched'.segments, hpatched.segments, List.set_set, List.set_set]
      unfold patchSegment
      dsimp only
      rw [patch_comm hroom2 hroom (by omega)]
  · refine hswapped hchosen' hroom' fun elf2 hpatched2 =>
      ⟨i, seg, bytes, by rw [hpatched2.segments, hchosen'.patched hroom']; exact .inr ⟨Ne.symm hj, hchosen⟩, hroom, ?_⟩
    rw [hpatched2.segments, hpatched'.segments, hpatched.segments, List.set_comm _ _ hj]

/-- Patches of symbols that do not overlap may be made in any order. -/
lemma writeAll_perm {patches patches' : List (String × List Byte)} (hperm : patches.Perm patches')
    (hshort : ∀ p ∈ patches, Short elf p) (hapart : patches.Pairwise (Apart elf)) (r : ElfFile) :
    elf.writeAll patches = .ok r ↔ elf.writeAll patches' = .ok r := by
  have hfound : ∀ {elf' elf'' : ElfFile} {p : String × List Byte}, elf'.writeSymbol p.1 p.2 = .ok elf'' →
      ∃ vaddr size, elf'.findSymbol p.1 = .ok (vaddr, size) := fun h => by
    obtain ⟨found, hfind, -⟩ := bind_ok.mp h
    exact ⟨found.1, found.2, hfind⟩
  refine foldlM_perm (R := fun p q => Short elf p ∧ Short elf q ∧ Apart elf p q) (P := fun elf' =>
    elf'.symbols = elf.symbols)
    ?_ ?_ ?_ hperm ?_ rfl r
  · exact fun ⟨hp, hq, hpq⟩ => ⟨hq, hp, fun vaddr size vaddr' size' h h' => (hpq vaddr' size' vaddr size h' h).symm⟩
  · intro elf' p elf'' hsymbols h
    obtain ⟨vaddr, size, hfind⟩ := hfound h
    obtain ⟨segments, -, hpatched⟩ := (writeSymbol_some hfind).mp h
    exact hpatched.symbols.trans hsymbols
  · rintro elf' p q elf'' hsymbols ⟨hp, hq, hpq⟩ h
    obtain ⟨elf1, hfirst, hsecond⟩ := bind_ok.mp h
    obtain ⟨vaddr, size, hfind⟩ := hfound hfirst
    obtain ⟨segments, -, hpatched⟩ := (writeSymbol_some hfind).mp hfirst
    obtain ⟨vaddr', size', hfind'⟩ := hfound hsecond
    rw [findSymbol_congr hpatched.symbols] at hfind'
    have hsame : ∀ {name}, elf'.findSymbol name = elf.findSymbol name := findSymbol_congr hsymbols
    exact writeSymbol_swap hfind hfind' (hp _ _ (hsame ▸ hfind)) (hq _ _ (hsame ▸ hfind'))
      (hpq _ _ _ _ (hsame ▸ hfind) (hsame ▸ hfind')) h
  · exact hapart.imp_of_mem fun hp hq hpq => ⟨hshort _ hp, hshort _ hq, hpq⟩

/-! ## Agreement -/

/-- `data` has been written over the bytes of a segment, and nothing else has changed. What is read before and after is
from these bytes. -/
structure WrittenAt (elf elf' : ElfFile) (vaddr size : Word) (data : List Byte) (i : Nat) (seg : FileSegment)
    (bytes bytes' : List Byte) : Prop where
  here : elf.segments[i]? = some seg
  real : seg.data = .realData bytes
  patched : Patched elf elf' (elf.segments.set i { seg with data := .realData bytes' })
  length : bytes'.length = bytes.length
  outside : ∀ p, p < (vaddr - seg.virtAddr).toNat ∨ (vaddr - seg.virtAddr).toNat + data.length ≤ p →
    bytes'[p]? = bytes[p]?
  before : elf.getData vaddr size = .ok (some ((bytes.drop (vaddr - seg.virtAddr).toNat).take size.toNat))
  after : elf'.getData vaddr size = .ok (some ((bytes'.drop (vaddr - seg.virtAddr).toNat).take size.toNat))
  readBack : data <+: (bytes'.drop (vaddr - seg.virtAddr).toNat).take size.toNat

/-- A symbol is written and read in the same place. -/
structure SymbolAgrees (elf : ElfFile) (name : String) (vaddr size : Word) : Prop where
  written : ∀ {data elf'}, data.length ≤ size.toNat → elf.writeSymbol name data = .ok elf' →
    ∃ i seg bytes bytes', WrittenAt elf elf' vaddr size data i seg bytes bytes'
  succeeds : ∀ data, data.length ≤ size.toNat →
    ((∃ elf', elf.writeSymbol name data = .ok elf') ↔ ∃ r, elf.getData vaddr size = .ok (some r))
  notFound : ∀ data, elf.writeSymbol name data = .error (.err s!"No symbol named {name} found") ↔
    elf.getData vaddr size = .ok none

structure SymbolsAgree (elf : ElfFile) : Prop where
  each : ∀ name vaddr size, elf.findSymbol name = .ok (vaddr, size) → SymbolAgrees elf name vaddr size
  order : ∀ patches patches', patches.Perm patches' → (∀ p ∈ patches, Short elf p) → patches.Pairwise (Apart elf) →
    ∀ r, elf.writeAll patches = .ok r ↔ elf.writeAll patches' = .ok r

/-- A symbol that starts in the segment that is accepted for it ends there. -/
def SymbolsEnd (elf : ElfFile) : Prop :=
  ∀ name vaddr size, elf.findSymbol name = .ok (vaddr, size) → ∀ i seg bytes,
    Chosen vaddr size elf.segments i seg bytes →
    seg.virtAddr.toNat + bytes.length < vaddr.toNat ∨ vaddr.toNat + size.toNat ≤ seg.virtAddr.toNat + bytes.length

lemma Chosen.room_iff (h : Chosen vaddr size segments i seg bytes) {n : Nat} :
    Room vaddr n seg bytes ↔ vaddr.toNat + n ≤ seg.virtAddr.toNat + bytes.length := by
  have hle := h.le
  rw [Room, h.offset]
  omega

lemma writtenAt (hchosen : Chosen vaddr size elf.segments i seg bytes) (hdata : data.length ≤ size.toNat)
    (hroom : Room vaddr size.toNat seg bytes)
    (hpatched : Patched elf elf' (elf.segments.set i (patchSegment seg bytes vaddr data))) :
    WrittenAt elf elf' vaddr size data i seg bytes (patch bytes (vaddr - seg.virtAddr).toNat data) := by
  have hroom' : Room vaddr data.length seg bytes := le_trans (Nat.add_le_add_left hdata _) hroom
  have hlength := patch_length hroom'
  refine ⟨hchosen.here, hchosen.real, hpatched, hlength, fun p hp => ?_, ?_, ?_, prefix_patch hroom' hdata⟩
  · rw [getElem?_patch hroom', if_neg (by omega)]
  · exact (readSegments_some elf.vecs.data).mpr ⟨i, seg, bytes, hchosen, hroom, rfl⟩
  · refine (readSegments_some elf'.vecs.data).mpr ⟨i, patchSegment seg bytes vaddr data, _, ?_, ?_, rfl⟩
    · rw [hpatched.segments, hchosen.patched hroom']
      exact .inl ⟨rfl, hchosen, rfl, rfl⟩
    · unfold Room
      rw [hlength]
      exact hroom

end symbols

/-- Symbols are written and read in the same place, and patches may be made in any order, if and only if each symbol
that starts in the segment accepted for it ends there. -/
theorem symbols_agree_iff (elf : ElfFile) : SymbolsAgree elf ↔ SymbolsEnd elf := by
  constructor
  · intro h name vaddr size hfind i seg bytes hchosen
    have hsucceeds := (h.each name vaddr size hfind).succeeds [] (Nat.zero_le _)
    by_cases hstart : seg.virtAddr.toNat + bytes.length < vaddr.toNat
    · exact .inl hstart
    · have hroom : Room vaddr 0 seg bytes := hchosen.room_iff.mpr (Nat.le_of_not_lt hstart)
      have hempty : ([] : List Byte).length ≤ size.toNat := Nat.zero_le _
      obtain ⟨elf', hwrite, -⟩ := exists_writeSymbol hfind hempty hchosen hroom
      obtain ⟨r, hread⟩ := hsucceeds.mp ⟨elf', hwrite⟩
      obtain ⟨j, seg', bytes', hchosen', hroom', -⟩ := (readSegments_some elf.vecs.data).mp hread
      obtain ⟨rfl, rfl, rfl⟩ := hchosen.unique hchosen'
      exact .inr (hchosen.room_iff.mp hroom')
  · intro h
    refine ⟨fun name vaddr size hfind => ?_, fun patches patches' hperm hshort hapart =>
      writeAll_perm hperm hshort hapart⟩
    -- a symbol whose data has room has room itself
    have hroom : ∀ {n i seg bytes}, Chosen vaddr size elf.segments i seg bytes → Room vaddr n seg bytes →
        Room vaddr size.toNat seg bytes := by
      intro n i seg bytes hchosen hroom
      have hend := h name vaddr size hfind i seg bytes hchosen
      rw [hchosen.room_iff] at hroom ⊢
      omega
    refine ⟨fun hdata hwrite => ?_, fun data hdata => ⟨fun ⟨elf', hwrite⟩ => ?_, fun ⟨r, hread⟩ => ?_⟩, fun data => ?_⟩
    · obtain ⟨i, seg, bytes, hchosen, hroom', hpatched⟩ := (writeSymbol_ok hfind hdata).mp hwrite
      exact ⟨i, seg, bytes, _, writtenAt hchosen hdata (hroom hchosen hroom') hpatched⟩
    · obtain ⟨i, seg, bytes, hchosen, hroom', -⟩ := (writeSymbol_ok hfind hdata).mp hwrite
      exact ⟨_, (readSegments_some elf.vecs.data).mpr ⟨i, seg, bytes, hchosen, hroom hchosen hroom', rfl⟩⟩
    · obtain ⟨i, seg, bytes, hchosen, hroom', -⟩ := (readSegments_some elf.vecs.data).mp hread
      obtain ⟨elf', hwrite, -⟩ := exists_writeSymbol hfind hdata hchosen (le_trans (Nat.add_le_add_left hdata _) hroom')
      exact ⟨elf', hwrite⟩
    · rw [writeSymbol_notFound hfind, writeSegments_none]
      exact readSegments_none.symm

/-- A file with one segment, and a symbol in it whose end wraps around to the start of the segment. -/
private def wrappedSymbol : ElfFile where
  path := "a.elf"
  wordSize := 64
  entry := 0x1000
  machine := 183
  segments := [⟨⟨.realData (List.replicate 16 0), 0x1000, 0x1000, true⟩, 6⟩]
  symbols name := if name = "table" then some (⟨0x1008, 0xfffffffffffffff8⟩, false) else none
  vecs := ⟨by decide, by decide⟩

/-- The data is written, and the symbol cannot be read. -/
theorem wrappedSymbol_disagrees :
    wrappedSymbol.findSymbol "table" = .ok (0x1008, 0xfffffffffffffff8) ∧
    (∃ elf', wrappedSymbol.writeSymbol "table" [1] = .ok elf' ∧
      ∃ message, elf'.getData 0x1008 0xfffffffffffffff8 = .error (.panicked message)) ∧
    ¬ SymbolsAgree wrappedSymbol := by
  have hfind : wrappedSymbol.findSymbol "table" = .ok (0x1008, 0xfffffffffffffff8) := by decide
  have hwrite : ∃ elf', wrappedSymbol.writeSymbol "table" [1] = .ok elf' ∧
      ∃ message, elf'.getData 0x1008 0xfffffffffffffff8 = .error (.panicked message) := ⟨_, rfl, _, rfl⟩
  refine ⟨hfind, hwrite, fun h => ?_⟩
  obtain ⟨elf', hwrite, -⟩ := hwrite
  obtain ⟨r, hread⟩ := ((h.each "table" _ _ hfind).succeeds [1] (by decide)).mp ⟨elf', hwrite⟩
  exact nomatch hread

end NexsKernel.Elf
