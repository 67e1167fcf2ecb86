import NexsKernel.Tool.Aarch64Tables

/-!
# Copying the regions

`copy_data` of the loader runs on the image that the tool has written. It reads the header and the table behind the
loader and copies the regions one after the other, from the same memory that it writes to. What the tool checks is
that the regions and the loader itself do not overlap; the header, the table and the bytes behind it, which lie in
memory too, are not part of that check, and the end of a region that is checked may have wrapped around. `copied_iff`
says which images are copied as they should be.
-/

namespace NexsKernel.Image

open Bytes Checks

abbrev Memory := Word → Byte

/-! ## The loader -/

def readWord (mem : Memory) (a : Word) : Word :=
  BitVec.ofNat 64 (read mem a 8)

/-- `loader_data->num_regions`. -/
def numRegions (mem : Memory) (loaderData : Word) : Word :=
  readWord mem (loaderData + 56)

/-- `&loader_data->regions[i]`. -/
def regionAddr (loaderData i : Word) : Word :=
  loaderData + 64 + 32 * i

/-- A call of `memcpy`. -/
structure Copy where
  dst : Word
  src : Word
  size : Word
  deriving DecidableEq, Repr

/-- The memory, and the copies that were made. -/
structure Progress where
  mem : Memory
  copies : List Copy

/-- The loop of `copy_data`. -/
def copyLoop (loaderData base : Word) : Nat → BitVec 32 → Progress → Option Progress
  | 0, _, _ => none
  | fuel + 1, i, p =>
    if i.setWidth 64 < numRegions p.mem loaderData then
      let r := regionAddr loaderData (i.setWidth 64)
      let loadAddr := readWord p.mem r
      let size := readWord p.mem (r + 8)
      let src := base + readWord p.mem (r + 16)
      copyLoop loaderData base fuel (i + 1) ⟨copyUp p.mem loadAddr src size.toNat, p.copies ++ [⟨loadAddr, src, size⟩]⟩
    else
      some p

/-- `copy_data`. -/
def copyData (loaderData : Word) (fuel : Nat) (mem : Memory) : Option Progress :=
  copyLoop loaderData (regionAddr loaderData (numRegions mem loaderData)) fuel 0 ⟨mem, []⟩

/-! ## Where the parts of an image lie -/

namespace Loader

variable (l : Loader)

/-- `_bss_end`, where the image of the loader ends. -/
def loaderData : Word := l.entry + BitVec.ofNat 64 l.loaderImage.length

/-- The size of the header and the table. -/
def headerSize : Nat := 64 + 32 * l.regions.length

def payload : Word := l.loaderData + BitVec.ofNat 64 l.headerSize

end Loader

/-- The bytes of the regions before one. -/
def before (regions : List Region) (i : Nat) : Nat :=
  ((regions.take i).map (·.data.length)).sum

/-- Where the bytes of a region lie in the image. -/
def Loader.source (l : Loader) (i : Nat) : Word :=
  l.payload + BitVec.ofNat 64 (before l.regions i)

/-- What the loop should leave behind: each region lies at its load address, and no copy has overwritten the loader,
the header, the table, or the bytes of a region that was not copied yet. -/
structure Good (l : Loader) (p : Progress) : Prop where
  content : ∀ r ∈ l.regions, Holds p.mem r.addr r.data
  front : ∀ c ∈ p.copies, Apart c.dst c.size.toNat l.entry (l.loaderImage.length + l.headerSize)
  ahead : ∀ i j (hi : i < p.copies.length) (hj : j < l.regions.length), i < j →
    Apart p.copies[i].dst p.copies[i].size.toNat (l.source j) l.regions[j].data.length

/-- `copy_data` ends, and has left behind what it should. -/
def Copied (l : Loader) (mem : Memory) : Prop :=
  ∃ fuel p, copyData l.loaderData fuel mem = some p ∧ Good l p

/-- A byte of a region, by the number of the region. -/
def Loader.byte (l : Loader) (i k : Nat) : Option Byte :=
  l.regions[i]?.bind fun r => r.data[k]?

/-- The byte of a region is to be loaded to an address. -/
def Loader.Covers (l : Loader) (i k : Nat) (a : Word) : Prop :=
  ∃ hi : i < l.regions.length, k < l.regions[i].data.length ∧ l.regions[i].addr + BitVec.ofNat 64 k = a

/-- What the copy of a region puts in the place of its byte. Where a region is loaded over its own bytes, behind their
start, those before its load address repeat. -/
def Loader.loaded (l : Loader) (i k : Nat) : Option Byte :=
  l.regions[i]?.bind fun r => r.data[k % (r.addr - l.source i).toNat]?

/-- The load addresses for which this is so. No region is loaded over the loader, the header or the table, or over
the bytes of a later region. The last region that is loaded to an address has the bytes of all that are; two have an
address in common only if one wraps around, which the check of the tool does not find. -/
structure Harmless (l : Loader) : Prop where
  front : ∀ r ∈ l.regions, Apart r.addr r.data.length l.entry (l.loaderImage.length + l.headerSize)
  ahead : ∀ i j (_ : i < j) (hj : j < l.regions.length),
    Apart l.regions[i].addr l.regions[i].data.length (l.source j) l.regions[j].data.length
  last : ∀ i k j q a, l.Covers i k a → l.Covers j q a → (∀ m, j < m → ∀ x, ¬ l.Covers m x a) →
    l.loaded j q = l.byte i k

/-! ## Reading the image -/

lemma readWord_wordBytes {mem : Memory} {a v : Word} (h : Holds mem a (wordBytes v)) : readWord mem a = v := by
  have hlt : v.toNat < 256 ^ 8 := v.isLt
  unfold readWord
  rw [h.read, Nat.mod_eq_of_lt hlt, BitVec.ofNat_toNat, BitVec.setWidth_eq]

/-- A structure of words is read field by field. -/
lemma readWord_of_holds {mem : Memory} {a : Word} {vs : List Word} (h : Holds mem a (vs.flatMap wordBytes)) {i : Nat}
    (hi : i < vs.length) : readWord mem (a + BitVec.ofNat 64 (8 * i)) = vs[i] :=
  readWord_wordBytes ((holds_flatMap fun v _ => wordBytes_length v).mp h i hi)

@[simp] lemma metadata_length (offset : Word) (regions : List Region) :
    (metadata offset regions).length = regions.length := by
  induction regions generalizing offset with
  | nil => rfl
  | cons r regions ih => exact congrArg (· + 1) (ih _)

lemma metadata_getElem (offset : Word) {regions : List Region} {i : Nat} (hi : i < regions.length) :
    (metadata offset regions)[i]? =
      some ⟨regions[i].addr, BitVec.ofNat 64 regions[i].data.length,
        offset + BitVec.ofNat 64 (before regions i), 1⟩ := by
  induction regions generalizing offset i with
  | nil => exact absurd hi (Nat.not_lt_zero i)
  | cons r regions ih =>
    cases i with
    | zero => simp [metadata, before]
    | succ i =>
      rw [metadata, List.getElem?_cons_succ, ih _ (Nat.lt_of_succ_lt_succ hi), add_ofNat_add]
      rfl

/-- The header and the table lie where the loader looks for them. -/
def Table (l : Loader) (mem : Memory) : Prop :=
  Holds mem l.loaderData (l.header.bytes ++ l.regionMetadata.flatMap (·.bytes))

/-- The bytes of each region lie behind those before it. -/
lemma holds_regions {mem : Memory} {a : Word} {regions : List Region} (h : Holds mem a (regions.flatMap (·.data)))
    {i : Nat} (hi : i < regions.length) : Holds mem (a + BitVec.ofNat 64 (before regions i)) regions[i].data := by
  induction regions generalizing a i with
  | nil => exact absurd hi (Nat.not_lt_zero i)
  | cons r regions ih =>
    rw [List.flatMap_cons, holds_append] at h
    cases i with
    | zero => simpa [before] using h.1
    | succ i =>
      have e := ih h.2 (Nat.lt_of_succ_lt_succ hi)
      rw [add_ofNat_add] at e
      exact e

variable {l : Loader} {mem : Memory}

lemma Produced.table_length (hl : Produced l) :
    (l.header.bytes ++ l.regionMetadata.flatMap (·.bytes)).length = l.headerSize := by
  rw [List.length_append, LoaderHeader64.bytes_length, length_flatMap_const fun r _ => LoaderRegion64.bytes_length r,
    hl.table, metadata_length]
  rfl

lemma toBytes_ok {bytes : List Byte} : l.toBytes = .ok bytes ↔ l.bytes.length < 2 ^ 63 ∧ l.bytes = bytes := by
  unfold Loader.toBytes
  rw [failIf_bind, pure_ok, not_not]

/-- What the image of a loader puts into memory. -/
lemma Produced.placed (hl : Produced l) {bytes : List Byte} (hb : l.toBytes = .ok bytes) (h : Holds mem l.entry bytes) :
    Table l mem ∧ ∀ i (hi : i < l.regions.length), Holds mem (l.source i) l.regions[i].data := by
  obtain rfl := (toBytes_ok.mp hb).2
  rw [Loader.bytes, ← List.append_assoc l.header.bytes, holds_append, holds_append, hl.table_length] at h
  exact ⟨h.2.1, fun i hi => holds_regions h.2.2 hi⟩

/-- The bytes of a region are fewer than 2^63. -/
lemma data_length_lt {bytes : List Byte} (hb : l.toBytes = .ok bytes) {r : Region} (hr : r ∈ l.regions) :
    r.data.length < 2 ^ 63 := by
  refine lt_of_le_of_lt ?_ (toBytes_ok.mp hb).1
  have h := List.le_sum_of_mem (List.mem_map_of_mem (f := fun r : Region => r.data.length) hr)
  simp only [Loader.bytes, List.length_append, List.length_flatMap]
  omega

lemma Table.numRegions (h : Table l mem) (hl : Produced l) :
    numRegions mem l.loaderData = BitVec.ofNat 64 l.regions.length :=
  (readWord_of_holds (holds_append.mp h).1 (i := 7) (by simp)).trans hl.numRegions

/-- What the loop reads of a region. -/
lemma Table.region (h : Table l mem) (hl : Produced l) {i : Nat} (hi : i < l.regions.length) :
    let r := regionAddr l.loaderData (BitVec.ofNat 64 i)
    readWord mem r = l.regions[i].addr ∧ readWord mem (r + 8) = BitVec.ofNat 64 l.regions[i].data.length ∧
      readWord mem (r + 16) = BitVec.ofNat 64 (before l.regions i) := by
  have h' := (holds_append.mp h).2
  rw [hl.table, LoaderHeader64.bytes_length, holds_flatMap fun r _ => LoaderRegion64.bytes_length r] at h'
  have hi' : i < (metadata 0 l.regions).length := by rwa [metadata_length]
  have hrow := h' i hi'
  have e := metadata_getElem 0 hi
  rw [List.getElem?_eq_getElem hi', Option.some.injEq] at e
  rw [e] at hrow
  have haddr : regionAddr l.loaderData (BitVec.ofNat 64 i) =
      l.loaderData + BitVec.ofNat 64 64 + BitVec.ofNat 64 (32 * i) := by
    rw [BitVec.ofNat_mul]
    rfl
  intro r
  have hread := fun j => readWord_of_holds (i := j) hrow
  rw [← haddr] at hread
  refine ⟨?_, hread 1 (by simp), (hread 2 (by simp)).trans (BitVec.zero_add _)⟩
  have e0 : readWord mem (r + 0#64) = l.regions[i].addr := hread 0 (by simp)
  rwa [BitVec.add_zero] at e0

/-! ## The loop -/

/-- The copy of a region. -/
def Loader.copy (l : Loader) (i : Nat) : Copy :=
  match l.regions[i]? with
  | some r => ⟨r.addr, l.source i, BitVec.ofNat 64 r.data.length⟩
  | none => ⟨0, 0, 0⟩

/-- The memory after some copies. -/
def after (l : Loader) (mem : Memory) : Nat → Memory
  | 0 => mem
  | i + 1 => copyUp (after l mem i) (l.copy i).dst (l.copy i).src (l.copy i).size.toNat

/-- What the loop has done after some copies. -/
def progress (l : Loader) (mem : Memory) (i : Nat) : Progress :=
  ⟨after l mem i, (List.range i).map l.copy⟩

lemma Loader.copy_eq {i : Nat} (hi : i < l.regions.length) :
    l.copy i = ⟨l.regions[i].addr, l.source i, BitVec.ofNat 64 l.regions[i].data.length⟩ := by
  unfold Loader.copy
  rw [List.getElem?_eq_getElem hi]

/-- The place of the bytes is the one that the loader works with. -/
lemma Table.payload (h : Table l mem) (hl : Produced l) :
    regionAddr l.loaderData (Image.numRegions mem l.loaderData) = l.payload := by
  rw [h.numRegions hl]
  unfold regionAddr Loader.payload Loader.headerSize
  rw [BitVec.ofNat_add, BitVec.ofNat_mul, ← BitVec.add_assoc]
  rfl

/-- One copy. -/
lemma copyLoop_step (hl : Produced l) {i : Nat} (hi : i < l.regions.length) (h : Table l (after l mem i)) (fuel : Nat) :
    copyLoop l.loaderData l.payload (fuel + 1) (BitVec.ofNat 32 i) (progress l mem i) =
      copyLoop l.loaderData l.payload fuel (BitVec.ofNat 32 (i + 1)) (progress l mem (i + 1)) := by
  have hfew := hl.few
  have hidx : (BitVec.ofNat 32 i).setWidth 64 = BitVec.ofNat 64 i := by
    apply BitVec.eq_of_toNat_eq
    rw [BitVec.toNat_setWidth, BitVec.toNat_ofNat, BitVec.toNat_ofNat, Nat.mod_eq_of_lt (a := i) (by omega)]
  have hlt : BitVec.ofNat 64 i < Image.numRegions (after l mem i) l.loaderData := by
    rw [h.numRegions hl, BitVec.lt_def, BitVec.toNat_ofNat, BitVec.toNat_ofNat, Nat.mod_eq_of_lt (by omega),
      Nat.mod_eq_of_lt (by omega)]
    exact hi
  obtain ⟨h0, h1, h2⟩ := h.region hl hi
  rw [copyLoop, hidx]
  refine (if_pos hlt).trans ?_
  dsimp only [progress]
  rw [h0, h1, h2, List.range_succ, List.map_append, List.map_singleton, after, Loader.copy_eq hi, BitVec.ofNat_add]
  rfl

/-- After the last copy. -/
lemma copyLoop_done (hl : Produced l) (h : Table l (after l mem l.regions.length)) (fuel : Nat) :
    copyLoop l.loaderData l.payload (fuel + 1) (BitVec.ofNat 32 l.regions.length) (progress l mem l.regions.length) =
      some (progress l mem l.regions.length) := by
  have hfew := hl.few
  rw [copyLoop, if_neg]
  rw [show (progress l mem l.regions.length).mem = after l mem l.regions.length from rfl, h.numRegions hl,
    BitVec.lt_def, BitVec.toNat_setWidth, BitVec.toNat_ofNat, BitVec.toNat_ofNat,
    Nat.mod_eq_of_lt (a := l.regions.length) (by omega),
    Nat.mod_eq_of_lt (by omega)]
  exact Nat.lt_irrefl _

/-- What was copied stays recorded. -/
lemma copyLoop_grows {loaderData base : Word} {fuel : Nat} {i : BitVec 32} {p p' : Progress}
    (h : copyLoop loaderData base fuel i p = some p') : p.copies <+: p'.copies := by
  induction fuel generalizing i p with
  | zero => cases h
  | succ fuel ih =>
    rw [copyLoop] at h
    split at h
    · exact (List.prefix_append _ _).trans (ih h)
    · obtain rfl := Option.some.inj h
      exact List.prefix_rfl

/-- A copy that does not touch the front of the image leaves the table as it is. -/
lemma Table.next (hl : Produced l) {i : Nat} (hi : i < l.regions.length) (hlen : l.regions[i].data.length < 2 ^ 63)
    (h : Table l (after l mem i))
    (hf : Apart l.regions[i].addr l.regions[i].data.length l.entry (l.loaderImage.length + l.headerSize)) :
    Table l (after l mem (i + 1)) := by
  have hsize : (BitVec.ofNat 64 l.regions[i].data.length).toNat = l.regions[i].data.length :=
    (BitVec.toNat_ofNat _ _).trans (Nat.mod_eq_of_lt (by omega))
  unfold Table
  rw [after, Loader.copy_eq hi]
  refine h.copyUp ?_
  rw [hl.table_length]
  dsimp only
  rw [hsize]
  exact (apart_append.mp hf).2

section run

variable {bytes : List Byte} (hl : Produced l) (hb : l.toBytes = .ok bytes) (h0 : Table l mem)
include hl hb h0

/-- If no copy touches the front of the image, the loop makes the copies of all regions. -/
lemma copyData_run
    (hfront : ∀ r ∈ l.regions, Apart r.addr r.data.length l.entry (l.loaderImage.length + l.headerSize)) :
    copyData l.loaderData (l.regions.length + 1) mem = some (progress l mem l.regions.length) := by
  have hrun : ∀ i ≤ l.regions.length, Table l (after l mem i) ∧
      copyData l.loaderData (l.regions.length + 1) mem =
        copyLoop l.loaderData l.payload (l.regions.length - i + 1) (BitVec.ofNat 32 i) (progress l mem i) := by
    intro i hi
    induction i with
    | zero =>
      refine ⟨h0, ?_⟩
      unfold copyData
      rw [h0.payload hl]
      rfl
    | succ i ih =>
      obtain ⟨htable, e⟩ := ih (by omega)
      have hmem := List.getElem_mem (l := l.regions) hi
      refine ⟨htable.next hl hi (data_length_lt hb hmem) (hfront _ hmem), ?_⟩
      rw [e, show l.regions.length - i = l.regions.length - (i + 1) + 1 by omega, copyLoop_step hl hi htable]
  obtain ⟨htable, e⟩ := hrun _ le_rfl
  rw [e]
  exact copyLoop_done hl htable _

/-- A loop that has ended without touching the front of the image has made the copies of all regions. -/
lemma copyData_front {fuel : Nat} {p : Progress} (h : copyData l.loaderData fuel mem = some p)
    (hfront : ∀ c ∈ p.copies, Apart c.dst c.size.toNat l.entry (l.loaderImage.length + l.headerSize)) :
    p = progress l mem l.regions.length ∧
      ∀ r ∈ l.regions, Apart r.addr r.data.length l.entry (l.loaderImage.length + l.headerSize) := by
  have hrun : ∀ i ≤ l.regions.length, Table l (after l mem i) ∧
      (∃ fuel, copyLoop l.loaderData l.payload fuel (BitVec.ofNat 32 i) (progress l mem i) = some p) ∧
      ∀ j (hj : j < l.regions.length), j < i →
        Apart l.regions[j].addr l.regions[j].data.length l.entry (l.loaderImage.length + l.headerSize) := by
    intro i hi
    induction i with
    | zero =>
      refine ⟨h0, ⟨fuel, ?_⟩, nofun⟩
      unfold copyData at h
      rw [h0.payload hl] at h
      exact h
    | succ i ih =>
      obtain ⟨htable, ⟨fuel, e⟩, hapart⟩ := ih (by omega)
      cases fuel with
      | zero => cases e
      | succ fuel =>
        rw [copyLoop_step hl hi htable] at e
        -- the copy is recorded, and stays so
        have hmem : l.copy i ∈ p.copies := by
          refine (copyLoop_grows e).subset ?_
          exact List.mem_map_of_mem (List.mem_range.mpr (Nat.lt_succ_self i))
        have hlen := data_length_lt hb (List.getElem_mem (l := l.regions) hi)
        have hf := hfront _ hmem
        rw [Loader.copy_eq hi] at hf
        dsimp only at hf
        rw [BitVec.toNat_ofNat, Nat.mod_eq_of_lt (by omega)] at hf
        refine ⟨htable.next hl hi hlen hf, ⟨fuel, e⟩, fun j hj hlt => ?_⟩
        rcases Nat.lt_succ_iff_lt_or_eq.mp hlt with hlt | rfl
        · exact hapart j hj hlt
        · exact hf
  obtain ⟨htable, ⟨fuel, e⟩, hapart⟩ := hrun _ le_rfl
  refine ⟨?_, fun r hr => ?_⟩
  · cases fuel with
    | zero => cases e
    | succ fuel => exact (Option.some.inj ((copyLoop_done hl htable fuel).symm.trans e)).symm
  · obtain ⟨j, hj, rfl⟩ := List.getElem_of_mem hr
    exact hapart j hj hj

end run

/-! ## What is left behind -/

section content

variable {bytes : List Byte} (hb : l.toBytes = .ok bytes)
  (ahead : ∀ i j (_ : i < j) (hj : j < l.regions.length),
    Apart l.regions[i].addr l.regions[i].data.length (l.source j) l.regions[j].data.length)
  (hsrc : ∀ i (hi : i < l.regions.length), Holds mem (l.source i) l.regions[i].data)
include hb

lemma copy_size {i : Nat} (hi : i < l.regions.length) : (l.copy i).size.toNat = l.regions[i].data.length := by
  have hlen := data_length_lt hb (List.getElem_mem (l := l.regions) hi)
  rw [Loader.copy_eq hi]
  exact (BitVec.toNat_ofNat _ _).trans (Nat.mod_eq_of_lt (by omega))

/-- What the copy of a region puts behind its load address. -/
lemma after_succ {j q : Nat} (hj : j < l.regions.length) (hq : q < l.regions[j].data.length) :
    after l mem (j + 1) (l.regions[j].addr + BitVec.ofNat 64 q) =
      after l mem j (l.source j + BitVec.ofNat 64 (q % (l.regions[j].addr - l.source j).toNat)) := by
  have hlen := data_length_lt hb (List.getElem_mem (l := l.regions) hj)
  rw [after, copy_size hb hj, Loader.copy_eq hj]
  exact copyUp_apply (by omega) hq

include ahead hsrc

/-- The bytes of a region are there until it is copied. -/
lemma source_after {i j : Nat} (hij : i ≤ j) (hj : j < l.regions.length) :
    Holds (after l mem i) (l.source j) l.regions[j].data := by
  induction i with
  | zero => exact hsrc j hj
  | succ i ih =>
    have hi : i < l.regions.length := by omega
    refine (ih (by omega)).copyUp ?_
    rw [copy_size hb hi, Loader.copy_eq hi]
    exact ahead i j hij hj

/-- What the last region that is loaded to an address leaves there in the end. -/
lemma after_all {j q : Nat} {a : Word} (h : l.Covers j q a) (hlast : ∀ m, j < m → ∀ x, ¬ l.Covers m x a) :
    some (after l mem l.regions.length a) = l.loaded j q := by
  obtain ⟨hj, hq, rfl⟩ := h
  have hlater : ∀ m, j + 1 ≤ m → m ≤ l.regions.length →
      after l mem m (l.regions[j].addr + BitVec.ofNat 64 q) =
        after l mem (j + 1) (l.regions[j].addr + BitVec.ofNat 64 q) := by
    intro m hjm hm
    induction m, hjm using Nat.le_induction with
    | base => rfl
    | succ m hjm ih =>
      refine Eq.trans ?_ (ih (by omega))
      have hm' : m < l.regions.length := hm
      rw [after, copy_size hb hm', Loader.copy_eq hm']
      exact copyUp_of_apart fun x hx e => hlast m hjm x ⟨hm', hx, e⟩
  have hmod := (Nat.mod_le q (l.regions[j].addr - l.source j).toNat).trans_lt hq
  rw [hlater _ hj le_rfl, after_succ hb hj hq, source_after hb ahead hsrc le_rfl hj _ hmod, Loader.loaded,
    List.getElem?_eq_getElem hj, Option.bind_some, List.getElem?_eq_getElem hmod]

end content

lemma Loader.byte_eq {i k : Nat} (hi : i < l.regions.length) (hk : k < l.regions[i].data.length) :
    l.byte i k = some l.regions[i].data[k] := by
  rw [Loader.byte, List.getElem?_eq_getElem hi, Option.bind_some, List.getElem?_eq_getElem hk]

/-- Of the regions that are loaded to an address one is the last. -/
lemma Loader.Covers.exists_last {i k : Nat} {a : Word} (h : l.Covers i k a) :
    ∃ j q, l.Covers j q a ∧ ∀ m, j < m → ∀ x, ¬ l.Covers m x a := by
  classical
  obtain ⟨q, hq⟩ := Nat.findGreatest_spec (P := fun m => ∃ x, l.Covers m x a) h.1.le ⟨k, h⟩
  exact ⟨_, q, hq, fun m hm x hx => Nat.findGreatest_is_greatest hm hx.1.le ⟨x, hx⟩⟩

/-- For an image that the tool has written, `copy_data` does what it should exactly if the load addresses are
harmless. -/
theorem copied_iff {arch : Arch} {loaderElf kernelElf initialTaskElf : ElfFile}
    {initialTaskPhyBase vaddrStart vaddrEnd : Word} {setupPagetables : Word → Word → Except String (List PagetableVar)}
    {bytes : List Byte}
    (hnew : Loader.new arch loaderElf kernelElf initialTaskElf initialTaskPhyBase vaddrStart vaddrEnd setupPagetables = .ok l)
    (hb : l.toBytes = .ok bytes) (hmem : Holds mem l.entry bytes) : Copied l mem ↔ Harmless l := by
  have hl := Loader.new_produced hnew
  obtain ⟨h0, hsrc⟩ := hl.placed hb hmem
  constructor
  · rintro ⟨fuel, p, hrun, hgood⟩
    obtain ⟨rfl, hfront⟩ := copyData_front hl hb h0 hrun hgood.front
    have hahead : ∀ i j (_ : i < j) (hj : j < l.regions.length),
        Apart l.regions[i].addr l.regions[i].data.length (l.source j) l.regions[j].data.length := by
      intro i j hij hj
      have hi : i < (progress l mem l.regions.length).copies.length := by
        rw [progress, List.length_map, List.length_range]
        omega
      have h := hgood.ahead i j hi hj hij
      have e : (progress l mem l.regions.length).copies[i] = l.copy i := by
        simp [progress]
      rwa [e, copy_size hb (by omega), Loader.copy_eq (by omega)] at h
    refine ⟨hfront, hahead, fun i k j q a hik hjq hlast => ?_⟩
    rw [← after_all hb hahead hsrc hjq hlast]
    obtain ⟨hi, hk, rfl⟩ := hik
    rw [Loader.byte_eq hi hk]
    exact congrArg some (hgood.content _ (List.getElem_mem hi) k hk)
  · intro h
    refine ⟨_, _, copyData_run hl hb h0 h.front, fun r hr k hk => ?_, fun c hc => ?_, fun i j hi hj hij => ?_⟩
    · obtain ⟨i, hi, rfl⟩ := List.getElem_of_mem hr
      have hik : l.Covers i k (l.regions[i].addr + BitVec.ofNat 64 k) := ⟨hi, hk, rfl⟩
      obtain ⟨j, q, hjq, hlast⟩ := hik.exists_last
      have e := after_all hb h.ahead hsrc hjq hlast
      rw [h.last i k j q _ hik hjq hlast, Loader.byte_eq hi hk] at e
      exact Option.some.inj e
    · obtain ⟨i, hi, rfl⟩ := List.mem_map.mp hc
      rw [List.mem_range] at hi
      rw [copy_size hb hi, Loader.copy_eq hi]
      exact h.front _ (List.getElem_mem hi)
    · have e : (progress l mem l.regions.length).copies[i] = l.copy i := by
        simp [progress]
      rw [e, copy_size hb (by omega), Loader.copy_eq (by omega)]
      exact h.ahead i j hij hj

/-! ### A loader with its tables -/

/-- A memory with an image at its load address. -/
def placed (a : Word) (bytes : List Byte) : Memory :=
  fun b => bytes.getD (b - a).toNat 0

lemma holds_placed {a : Word} {bytes : List Byte} (h : bytes.length < 2 ^ 64) : Holds (placed a bytes) a bytes := by
  intro k hk
  have e : (a + BitVec.ofNat 64 k - a).toNat = k := by
    rw [BitVec.add_comm, BitVec.add_sub_cancel, BitVec.toNat_ofNat, Nat.mod_eq_of_lt (by omega)]
  unfold placed
  rw [e, List.getD_eq_getElem?_getD, List.getElem?_eq_getElem hk]
  rfl

/-- A file with one segment. -/
def oneSegment (entry paddr vaddr : Word) (data : List Byte) : ElfFile where
  wordSize := 64
  entry := entry
  segments := [⟨.realData data, paddr, vaddr, true⟩]
  segments_le := by simp

/-- The image of the loader before its tables are put into it. -/
def bootImage : List Byte := List.replicate 0x20000 0

def bootSegment : FileSegment :=
  ⟨⟨.realData bootImage, 0x40000000, 0x40000000, true⟩, 7⟩

lemma bootSegment_vecs : Elf.Vecs [bootSegment] := by
  refine ⟨show 48 * 1 < 2 ^ 63 by decide, fun seg hseg => ?_⟩
  obtain rfl := List.mem_singleton.mp hseg
  change bootImage.length < 2 ^ 63
  rw [bootImage, List.length_replicate]
  decide

/-- `aarch64_setup_pagetables` of a loader at `0x40000000`, whose panics end the tool. -/
def bootSetup (firstVaddr firstPaddr : Word) : Except String (List PagetableVar) :=
  (Tables.Aarch64.aarch64SetupPagetables (Tables.Aarch64.bootConfig true)
    (Tables.Aarch64.bootLoader 0x40000000 [] [bootSegment] bootSegment_vecs) firstVaddr firstPaddr).mapError fun
      | .err reason => reason
      | .panicked message => message

/-- A loader of 128 KiB, a kernel of one byte, and an initial task of one byte at `0x60000000`. -/
def bootNew (kernelPaddr : Word) : Except String Loader :=
  Loader.new .aarch64 (oneSegment 0x40000000 0x40000000 0x40000000 bootImage)
    (oneSegment 0x8000000000 kernelPaddr 0x8000000000 [0xaa]) (oneSegment 0 0 0x400000 [0xbb]) 0x60000000 0x400000
    0x401000 bootSetup

def boot (kernelPaddr : Word) (image : List Byte) : Loader where
  arch := .aarch64
  loaderImage := image
  header := ⟨0x5e14dead14de5ead, 130, 0x8000000000, 0x60000000, 0x60001000, 0x60000000 - 0x400000, 0, 2⟩
  regionMetadata := [⟨kernelPaddr, 1, 0, 1⟩, ⟨0x60000000, 1, 1, 1⟩]
  regions := [⟨kernelPaddr, [0xaa]⟩, ⟨0x60000000, [0xbb]⟩]
  entry := 0x40000000

/-- A variable lies in an image of a size, behind its first byte. -/
def Inside (imageVaddr : Word) (size : Nat) (var : PagetableVar) : Prop :=
  var.size = BitVec.ofNat 64 var.data.length ∧ 0 < (var.addr - imageVaddr).toNat ∧
    (var.addr - imageVaddr).toNat + var.data.length ≤ size

lemma inside_tableVar {imageVaddr : Word} {size : Nat} {symbol : Word × Word} (t : PageWalk.PageTable)
    (h : symbol.2 = 4096 ∧ 0 < (symbol.1 - imageVaddr).toNat ∧ (symbol.1 - imageVaddr).toNat + 4096 ≤ size) :
    Inside imageVaddr size (Tables.tableVar symbol t) := by
  unfold Inside
  rw [Tables.tableVar_length]
  exact h

/-- Variables that lie in the image can be put into it. -/
lemma patches_run {imageVaddr : Word} {vars : List PagetableVar} {image : List Byte} (hlt : image.length < 2 ^ 63)
    (h : ∀ var ∈ vars, Inside imageVaddr image.length var) :
    ∃ image', vars.foldlM (patch imageVaddr) image = .ok image' ∧ image'.length = image.length := by
  induction vars generalizing image with
  | nil => exact ⟨image, rfl, rfl⟩
  | cons var vars ih =>
    obtain ⟨⟨hsize, hpos, hroom⟩, hrest⟩ := List.forall_mem_cons.mp h
    have hstop : (var.addr - imageVaddr + var.size).toNat = (var.addr - imageVaddr).toNat + var.data.length := by
      rw [hsize, BitVec.toNat_add, BitVec.toNat_ofNat]
      omega
    have hpatch : patch imageVaddr image var = .ok (image.take (var.addr - imageVaddr).toNat ++ var.data ++
        image.drop ((var.addr - imageVaddr).toNat + var.data.length)) := by
      unfold patch
      rw [failIf_bind, failIf_bind, failIf_bind, failIf_bind, failIf_bind, failIf_bind, pure_ok, hstop, gt_iff_lt,
        BitVec.lt_def, BitVec.le_def, BitVec.lt_def, hstop, BitVec.toNat_ofNat]
      refine ⟨not_not.mpr hsize, not_not.mpr hpos, not_not.mpr ?_, by omega, by omega, by omega, rfl⟩
      omega
    have hlength : (image.take (var.addr - imageVaddr).toNat ++ var.data ++
        image.drop ((var.addr - imageVaddr).toNat + var.data.length)).length = image.length := by
      simp only [List.length_append, List.length_take, List.length_drop]
      omega
    obtain ⟨image', hrun, hlength'⟩ := ih (hlength ▸ hlt) (hlength ▸ hrest)
    refine ⟨image', ?_, hlength'.trans hlength⟩
    rw [List.foldlM_cons, hpatch]
    exact hrun

lemma bootImage_length : bootImage.length = 0x20000 :=
  List.length_replicate

open Tables.Aarch64 in
/-- The tables of the loader are set up and put into its image. -/
lemma bootSetup_ok {kernelPaddr : Word} (hk : kernelPaddr.toNat + 2 ^ 30 ≤ 2 ^ 48) :
    ∃ vars image, bootSetup 0x8000000000 kernelPaddr = .ok vars ∧
      vars.foldlM (patch 0x40000000) bootImage = .ok image ∧ image.length = 0x20000 := by
  have hc : Checked (bootLoader 0x40000000 [] [bootSegment] bootSegment_vecs) 0x8000000000 kernelPaddr
      (bootFound 0x40000000) none :=
    ⟨bootLoader_found _ _ _ _, rfl, by decide, by decide, nofun, by decide,
      blocksFit_of_lt (by decide) (by decide), nofun, by decide, by decide, blocksFit_of_lt (Nat.sub_le _ _) hk⟩
  have hinside : ∀ var ∈ tablesOf (bootConfig true) (bootFound 0x40000000) none
      (releases (bootLoader 0x40000000 [] [bootSegment] bootSegment_vecs)) 0x8000000000 kernelPaddr,
      Inside 0x40000000 bootImage.length var := by
    rw [bootImage_length]
    unfold tablesOf
    simp only [List.forall_mem_cons]
    exact ⟨inside_tableVar _ (by decide), inside_tableVar _ (by decide), inside_tableVar _ (by decide),
      inside_tableVar _ (by decide), inside_tableVar _ (by decide), inside_tableVar _ (by decide), nofun⟩
  obtain ⟨image, hrun, hlength⟩ := patches_run (by rw [bootImage_length]; decide) hinside
  refine ⟨_, image, ?_, hrun, hlength.trans bootImage_length⟩
  unfold bootSetup
  rw [setup_ok.mpr ⟨_, _, hc, rfl⟩]
  rfl

/-- The tool makes the image, if the kernel lies where nothing else does. -/
lemma bootNew_ok (kernelPaddr : Word) (hk : kernelPaddr.toNat + 2 ^ 30 ≤ 2 ^ 48)
    (hapart : ∀ image : List Byte, image.length = 0x20000 →
      checkNonOverlapping [] ((boot kernelPaddr image).regions ++ [⟨0x40000000, image⟩]) = .ok ()) :
    ∃ image : List Byte, image.length = 0x20000 ∧ bootNew kernelPaddr = .ok (boot kernelPaddr image) := by
  obtain ⟨vars, image, hsetup, hrun, hlength⟩ := bootSetup_ok hk
  refine ⟨image, hlength, ?_⟩
  unfold bootNew Loader.new
  refine failIf_bind.mpr ⟨nofun, bind_ok.mpr ⟨0x5e14dead14de5ead, rfl, ?_⟩⟩
  refine bind_ok.mpr ⟨⟨some 0x8000000000, some kernelPaddr, some (0x8000000000 - kernelPaddr), [⟨kernelPaddr, [0xaa]⟩]⟩,
    rfl, bind_ok.mpr ⟨[⟨kernelPaddr, [0xaa]⟩, ⟨0x60000000, [0xbb]⟩], rfl, ?_⟩⟩
  refine bind_ok.mpr ⟨0x8000000000, rfl, bind_ok.mpr ⟨kernelPaddr, rfl, bind_ok.mpr ⟨vars, hsetup, ?_⟩⟩⟩
  refine bind_ok.mpr ⟨⟨.realData bootImage, 0x40000000, 0x40000000, true⟩, rfl, bind_ok.mpr ⟨bootImage, rfl, ?_⟩⟩
  refine failIf_bind.mpr ⟨not_not.mpr rfl, bind_ok.mpr ⟨image, hrun, failIf_bind.mpr ⟨by decide, ?_⟩⟩⟩
  exact bind_ok.mpr ⟨(), hapart image hlength, rfl⟩

section boot

variable (kernelPaddr : Word) {image : List Byte} (hlength : image.length = 0x20000)
include hlength

lemma boot_bytes_length : (boot kernelPaddr image).bytes.length = 0x20082 := by
  simp [Loader.bytes, boot, hlength]

lemma boot_toBytes : (boot kernelPaddr image).toBytes = .ok (boot kernelPaddr image).bytes :=
  toBytes_ok.mpr ⟨by rw [boot_bytes_length _ hlength]; decide, rfl⟩

lemma boot_holds : Holds (placed 0x40000000 (boot kernelPaddr image).bytes) (boot kernelPaddr image).entry
    (boot kernelPaddr image).bytes :=
  holds_placed (by rw [boot_bytes_length _ hlength]; decide)

/-- Where the bytes of the two regions lie in the image. -/
lemma boot_source : (boot kernelPaddr image).source 0 = 0x40020080 ∧ (boot kernelPaddr image).source 1 =
    0x40020081 := by
  have hdata : (boot kernelPaddr image).loaderData = 0x40020000 := by
    change 0x40000000 + BitVec.ofNat 64 image.length = _
    rw [hlength]
    rfl
  unfold Loader.source Loader.payload
  rw [hdata]
  exact ⟨rfl, rfl⟩

/-- The loader, the header and the table end where the bytes of the kernel lie. -/
lemma boot_front (h : 0x40020080 ≤ kernelPaddr.toNat) (hk : kernelPaddr.toNat + 2 ^ 30 ≤ 2 ^ 48) :
    ∀ r ∈ (boot kernelPaddr image).regions, Apart r.addr r.data.length (boot kernelPaddr image).entry
      ((boot kernelPaddr image).loaderImage.length + (boot kernelPaddr image).headerSize) := by
  have hsize : (boot kernelPaddr image).loaderImage.length + (boot kernelPaddr image).headerSize = 0x20080 := by
    change image.length + 128 = _
    rw [hlength]
  have hentry : (boot kernelPaddr image).entry.toNat = 0x40000000 := rfl
  rw [hsize]
  refine List.forall_mem_cons.mpr ⟨?_, List.forall_mem_cons.mpr ⟨?_, nofun⟩⟩
  · exact apart_of_le (show kernelPaddr.toNat + 1 ≤ 2 ^ 64 by omega) (by rw [hentry]; decide)
      (.inr (by rw [hentry]; exact h))
  · exact apart_of_le (by decide) (by rw [hentry]; decide) (.inr (by rw [hentry]; decide))

end boot

/-- Nothing lies in the way of the copies. -/
lemma boot_harmless {image : List Byte} (hlength : image.length = 0x20000) : Harmless (boot 0x50000000 image) where
  front := boot_front _ hlength (by decide) (by decide)
  ahead i j hij hj := by
    obtain rfl : j = 1 := by
      change j < 2 at hj
      omega
    obtain rfl : i = 0 := by omega
    rw [(boot_source _ hlength).2]
    exact show Apart 0x50000000 1 0x40020081 1 by decide
  last i k j q a := by
    -- two bytes at two addresses
    have hbytes : ∀ i k, (boot 0x50000000 image).Covers i k a → k = 0 ∧
      (i = 0 ∧ 0x50000000 = a ∨ i = 1 ∧ 0x60000000 = a) := by
      rintro i k ⟨hi, hk, ha⟩
      obtain rfl | rfl : i = 0 ∨ i = 1 := by
        change i < 2 at hi
        omega
      · obtain rfl : k = 0 := Nat.lt_one_iff.mp hk
        exact ⟨rfl, .inl ⟨rfl, ha⟩⟩
      · obtain rfl : k = 0 := Nat.lt_one_iff.mp hk
        exact ⟨rfl, .inr ⟨rfl, ha⟩⟩
    intro hik hjq _
    obtain ⟨rfl, ⟨rfl, hi⟩ | ⟨rfl, hi⟩⟩ := hbytes i k hik <;>
    obtain ⟨rfl, ⟨rfl, hj⟩ | ⟨rfl, hj⟩⟩ := hbytes j q hjq
    · rfl
    · exact absurd (hi.trans hj.symm) (by decide)
    · exact absurd (hi.trans hj.symm) (by decide)
    · rfl

/-- A loader apart from what it copies. -/
theorem copied_iff_boot : ∃ image bytes, bootNew 0x50000000 = .ok (boot 0x50000000 image) ∧
    (boot 0x50000000 image).toBytes = .ok bytes ∧ Copied (boot 0x50000000 image) (placed 0x40000000 bytes) := by
  obtain ⟨image, hlength, hnew⟩ := bootNew_ok 0x50000000 (by decide) (by
    intro image hlength
    simp [checkNonOverlapping, boot, hlength])
  exact ⟨image, _, hnew, boot_toBytes _ hlength,
    (copied_iff hnew (boot_toBytes _ hlength) (boot_holds _ hlength)).mpr (boot_harmless hlength)⟩

/-- The kernel is loaded over the byte of the initial task, which the loader then copies. -/
theorem copied_overwritten : ∃ image bytes, bootNew 0x40020081 = .ok (boot 0x40020081 image) ∧
    (boot 0x40020081 image).toBytes = .ok bytes ∧ ¬ Copied (boot 0x40020081 image) (placed 0x40000000 bytes) ∧
    ((copyData (boot 0x40020081 image).loaderData 3 (placed 0x40000000 bytes)).map fun p => p.mem 0x60000000) =
      some 0xaa := by
  obtain ⟨image, hlength, hnew⟩ := bootNew_ok 0x40020081 (by decide) (by
    intro image hlength
    simp [checkNonOverlapping, boot, hlength])
  have hl := Loader.new_produced hnew
  have hb := boot_toBytes 0x40020081 hlength
  obtain ⟨h0, hsrc⟩ := hl.placed hb (boot_holds _ hlength)
  obtain ⟨hsource0, hsource1⟩ := boot_source 0x40020081 hlength
  refine ⟨image, _, hnew, hb, ?_, ?_⟩
  · rintro ⟨fuel, p, hrun, hgood⟩
    obtain ⟨rfl, -⟩ := copyData_front hl hb h0 hrun hgood.front
    have hahead := hgood.ahead 0 1 (Nat.succ_pos _) (Nat.lt_succ_self 1) Nat.one_pos
    rw [hsource1] at hahead
    exact hahead 0 Nat.one_pos 0 Nat.one_pos rfl
  · have hrun := copyData_run hl hb h0 (boot_front _ hlength (by decide) (by decide))
    have hbyte := hsrc 0 Nat.two_pos 0 Nat.one_pos
    rw [hsource0] at hbyte
    refine (congrArg _ hrun).trans (congrArg some ?_)
    -- the last copy takes what the first one has put there
    refine (after_succ hb Nat.one_lt_two Nat.one_pos).trans ?_
    rw [Nat.zero_mod, hsource1]
    refine (after_succ hb Nat.two_pos Nat.one_pos).trans ?_
    rw [Nat.zero_mod, hsource0]
    exact hbyte

end NexsKernel.Image
