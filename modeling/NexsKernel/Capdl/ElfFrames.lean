import NexsKernel.Capdl.Fill
import NexsKernel.Capdl.Parts
import NexsKernel.Capdl.Space
import NexsKernel.Tool.ElfReader

/-!
# The frames of a program

What `add_elf_to_spec` maps (`builder.rs`), with the bytes that `pack_spec_into_initial_task` (`packaging.rs`) fills the
frames with. The pages that a segment touches get frames of their own; the part of a frame that the segment covers is
recorded by the number of the segment and a range of its data, and resolved later.

If no two segments share a page, then each byte of a segment is mapped at its address with the rights of the segment, and
the rest of the pages is zero, exactly if the page tables have indices for the addresses of the segments
(`addElfToSpec_maps_iff`). The address of a segment is never checked.
-/

namespace NexsKernel.Image

namespace FileSegment

/-- `is_readable`. -/
def isReadable (s : FileSegment) : Bool := s.attrs &&& 4 == 4

/-- `is_writable`. -/
def isWritable (s : FileSegment) : Bool := s.attrs &&& 2 == 2

/-- `is_executable`. -/
def isExecutable (s : FileSegment) : Bool := s.attrs &&& 1 == 1

/-- `is_uninitialised`. -/
def isUninitialised (s : FileSegment) : Bool :=
  match s.data with
  | .realData _ => false
  | .uninitialisedData _ => true

end FileSegment

end NexsKernel.Image

namespace NexsKernel.Capdl

open Sdf Failing
open Image (FileSegment)

/-! ## Programs -/

/-- An `ElfFile` with its segments, and the address of the IPC buffer symbol. -/
structure Program where
  entry : Word
  segments : List FileSegment
  ipcBuffer : Option Word
  deriving Repr

/-- What the builder reads of a segment. -/
def Segment.ofFile (s : FileSegment) : Segment where
  virtAddr := s.virtAddr
  memSize := s.memSize
  uninitialised := s.isUninitialised
  readable := s.isReadable
  writable := s.isWritable
  executable := s.isExecutable

/-- What the builder reads of a program: the segments are those of `loadable_segments`. -/
def Program.elf (program : Program) : Elf :=
  ⟨program.entry, (program.segments.filter (·.loadable)).map Segment.ofFile, program.ipcBuffer⟩

/-- `system_elfs[elf_id].segments[elf_seg_idx].data()`. -/
def segmentData (programs : List Program) (elfId segIdx : Nat) : Option (List Byte) :=
  match programs[elfId]? with
  | some program =>
    match program.segments[segIdx]? with
    | some s =>
      match s.data with
      | .realData bytes => some bytes
      | .uninitialisedData _ => none
    | none => none
  | none => none

/-- All segments are loadable and have data, as those that are read from a file. -/
def Program.Loaded (program : Program) : Prop :=
  ∀ s ∈ program.segments, s.loadable = true ∧ ∃ bytes, s.data = .realData bytes ∧ bytes.length < 2 ^ 63

/-! ## Pages of segments -/

/-- The address is one of a segment. -/
def Segment.Contains (seg : Segment) (x : Nat) : Prop :=
  seg.virtAddr.toNat ≤ x ∧ x < seg.virtAddr.toNat + seg.memSize.toNat

instance (seg : Segment) (x : Nat) : Decidable (seg.Contains x) :=
  inferInstanceAs (Decidable (_ ∧ _))

/-- The segment has an address on a page. -/
def Segment.Touches (seg : Segment) (page : Nat) : Prop :=
  ∃ x, seg.Contains x ∧ x / 0x1000 = page

/-- The pages of a segment, from the first one to the last one. -/
def Segment.pages (seg : Segment) : List Nat :=
  if seg.memSize = 0 then []
  else List.range' (seg.virtAddr.toNat / 0x1000)
    ((seg.virtAddr.toNat + seg.memSize.toNat + 0xfff) / 0x1000 - seg.virtAddr.toNat / 0x1000)

/-- The addresses of a segment, and those of the page after it, are below `2 ^ 64`. -/
def Segment.Ends (seg : Segment) : Prop := seg.virtAddr.toNat + seg.memSize.toNat + 0x1000 ≤ 2 ^ 64

instance (seg : Segment) : Decidable seg.Ends :=
  inferInstanceAs (Decidable (_ ≤ _))

/-- The end of a segment wraps around. The builder takes it for a segment that has ended. -/
def Segment.Wraps (seg : Segment) : Prop := 2 ^ 64 ≤ seg.virtAddr.toNat + seg.memSize.toNat

instance (seg : Segment) : Decidable seg.Wraps :=
  inferInstanceAs (Decidable (_ ≤ _))

/-- The pages that are mapped for a segment. -/
def Segment.mapped (seg : Segment) : List Nat := if seg.Wraps then [] else seg.pages

/-- The loop over a segment ends: its end is not on the last page. -/
def Segment.Bounded (seg : Segment) : Prop := seg.memSize = 0 ∨ seg.Wraps ∨ seg.Ends

instance (seg : Segment) : Decidable seg.Bounded :=
  inferInstanceAs (Decidable (_ ∨ _ ∨ _))

/-- The frame that is mapped for a page of a segment. -/
structure PageOf (config : Config) (elfId segIdx : Nat) (seg : Segment) (c : Container) (r : Request)
    (page : Nat) : Prop where
  size : r.size = .small
  vaddr : r.vaddr.toNat = 0x1000 * slot config page
  touched : seg.Touches page
  cap : r.cap = ⟨r.cap.object, ⟨seg.readable, seg.writable, false, false⟩, true, seg.executable⟩
  init : frameInit c r.cap.object = some (segmentFill elfId segIdx seg (BitVec.ofNat 64 (0x1000 * page)))

section pages

variable {config : Config} {elfId segIdx : Nat} {seg : Segment} {c c' : Container} {v : ObjectId} {r : Request}
  {granted : List Request} {pdName : String}

lemma Segment.touches_iff {page : Nat} : seg.Touches page ↔ seg.memSize.toNat ≠ 0 ∧
    seg.virtAddr.toNat / 0x1000 ≤ page ∧ 0x1000 * page < seg.virtAddr.toNat + seg.memSize.toNat := by
  constructor
  · rintro ⟨x, ⟨hle, hlt⟩, rfl⟩
    omega
  · rintro ⟨hne, hle, hlt⟩
    refine ⟨max seg.virtAddr.toNat (0x1000 * page), ⟨le_max_left _ _, by omega⟩, ?_⟩
    omega

lemma Segment.mem_pages {page : Nat} : page ∈ seg.pages ↔ seg.Touches page := by
  rw [Segment.touches_iff]
  unfold Segment.pages
  split_ifs with hempty
  · rw [hempty]
    simp
  · have hne : seg.memSize.toNat ≠ 0 := fun e => hempty (BitVec.eq_of_toNat_eq e)
    rw [List.mem_range'_1]
    omega

/-- A frame that is there stays. -/
def KeepsFrames (c c' : Container) : Prop :=
  ∀ (id : ObjectId) init, frameInit c id = some init → frameInit c' id = some init

lemma KeepsFrames.refl (c : Container) : KeepsFrames c c := fun _ _ => id

lemma KeepsFrames.trans {c1 : Container} (h : KeepsFrames c c1) (h' : KeepsFrames c1 c') : KeepsFrames c c' :=
  fun id init hinit => h' id init (h id init hinit)

lemma frameInit_eq_some {id : ObjectId} {init : List FillEntry} :
    frameInit c id = some init ↔ ∃ name sizeBits paddr, c.objects[id]? = some ⟨name, .frame sizeBits paddr init⟩ := by
  unfold frameInit
  constructor
  · intro h
    split at h
    · rename_i name sizeBits paddr init' hobj
      obtain rfl := Option.some.inj h
      exact ⟨name, sizeBits, paddr, hobj⟩
    · cases h
  · rintro ⟨name, sizeBits, paddr, hobj⟩
    rw [hobj]

lemma KeepsFrames.push (c : Container) (obj : NamedObject) : KeepsFrames c (c.push obj) := by
  intro id init h
  obtain ⟨name, sizeBits, paddr, hobj⟩ := frameInit_eq_some.mp h
  exact frameInit_eq_some.mpr ⟨name, sizeBits, paddr, push_objects hobj⟩

lemma mapPage_keepsFrames {cap : Cap} {size : Sdf.PageSize} {vaddr : Word} {u : Unit}
    (h : mapPage config pdName v cap size vaddr c = .ok u c') : KeepsFrames c c' := by
  intro id init hinit
  obtain ⟨name, sizeBits, paddr, hobj⟩ := frameInit_eq_some.mp hinit
  have hadds : Adds config ⟨[], [], []⟩ [] c c' := mapPage_adds h
  exact frameInit_eq_some.mpr ⟨name, sizeBits, paddr, hadds.kept hobj List.not_mem_nil rfl⟩

lemma PageOf.keep {page : Nat} (h : PageOf config elfId segIdx seg c r page) (hkeep : KeepsFrames c c') :
    PageOf config elfId segIdx seg c' r page :=
  ⟨h.size, h.vaddr, h.touched, h.cap, hkeep _ _ h.init⟩

/-- The frames that are mapped are in the container. -/
lemma Space.object_lt (h : Space config c v granted) : ∀ g ∈ granted, g.cap.object < c.objects.length := by
  obtain ⟨place, grants, hinv, -, -, rfl⟩ := h.tables
  intro g hg
  obtain ⟨name, sizeBits, paddr, init, hobj⟩ := hinv.frames v g hg
  exact (List.getElem?_eq_some_iff.mp hobj).1

/-- Pages with frames that differ. -/
def OwnFrames (granted : List Request) : Prop :=
  granted.Pairwise fun g g' => g.cap.object ≠ g'.cap.object

lemma small_covers {r : Request} (hsize : r.size = .small) (halign : r.vaddr.toNat % 0x1000 = 0) {a : Word} :
    r.Covers a ↔ a.toNat / 0x1000 = r.vaddr.toNat / 0x1000 := by
  unfold Request.Covers
  rw [hsize, show Sdf.PageSize.small.bytes.toNat = 0x1000 from rfl]
  omega

/-- The request for a page of a segment. -/
def pageRequest (seg : Segment) (vaddr : Word) (frame : ObjectId) : Request :=
  ⟨vaddr, .small, ⟨frame, ⟨seg.readable, seg.writable, false, false⟩, true, seg.executable⟩⟩

/-- The frame that is made for a page of a segment. -/
def segmentFrame (config : Config) (pdName : String) (elfId segIdx : Nat) (seg : Segment) (curVaddr : Word)
    (frameSequence : Nat) :
    NamedObject :=
  let name := s!"elf_{pdName}_{pad9 frameSequence}"
  ⟨s!"frame_{name}", .frame (fixedSizeBits config .small) none (segmentFill elfId segIdx seg curVaddr)⟩

/-- One page of a segment. -/
lemma mapSegment_step (pdName : String) (elfId segIdx frameSequence n : Nat) {curVaddr : Word}
    (h : Space config c v granted) (hend : ¬ seg.virtAddr + seg.memSize ≤ curVaddr) :
    (Fit config granted [curVaddr.toNat / 0x1000] ∧ ∃ c',
      KeepsFrames (c.push (segmentFrame config pdName elfId segIdx seg curVaddr frameSequence)) c' ∧
      Space config c' v ((pageRequest seg curVaddr c.objects.length).page config :: granted) ∧
        mapSegment config pdName v elfId segIdx seg (n + 1) curVaddr frameSequence c =
          mapSegment config pdName v elfId segIdx seg n (curVaddr + Sdf.PageSize.small.bytes) (frameSequence + 1) c') ∨
    (¬ Fit config granted [curVaddr.toNat / 0x1000] ∧ ∃ reason c',
      mapSegment config pdName v elfId segIdx seg (n + 1) curVaddr frameSequence c = .error (.err reason) c') := by
  let obj := segmentFrame config pdName elfId segIdx seg curVaddr frameSequence
  let r := pageRequest seg curVaddr c.objects.length
  have hframe : makeFrameObj (segmentFill elfId segIdx seg curVaddr) s!"elf_{pdName}_{pad9 frameSequence}" none
      (fixedSizeBits config .small) c = .ok c.objects.length (c.push obj) := rfl
  have hobj : (c.push obj).objects[c.objects.length]? = some obj := push_last c obj
  have hmapped : ∀ c', mapPage config pdName v (.frame r.cap) r.size r.vaddr (c.push obj) = .ok () c' →
      mapSegment config pdName v elfId segIdx seg (n + 1) curVaddr frameSequence c =
        mapSegment config pdName v elfId segIdx seg n (curVaddr + Sdf.PageSize.small.bytes) (frameSequence + 1) c' := by
    intro c' hmap
    rw [mapSegment, if_neg hend]
    refine (bind_ok hframe).trans ?_
    rw [show mapPage config pdName v
      (makeFrameCap c.objects.length seg.readable seg.writable seg.executable true) .small curVaddr (c.push obj) = .ok () c' from hmap]
  have hrefused : ∀ reason c', mapPage config pdName v (.frame r.cap) r.size r.vaddr (c.push obj) =
    .error (.err reason) c' →
      ∃ reason, mapSegment config pdName v elfId segIdx seg (n + 1) curVaddr frameSequence c =
        .error (.err reason) c' := by
    intro reason c' hmap
    rw [mapSegment, if_neg hend]
    refine ⟨s!"add_elf_to_spec(): failed to map segment page to ELF because: {reason}", (bind_ok hframe).trans ?_⟩
    rw [show mapPage config pdName v
      (makeFrameCap c.objects.length seg.readable seg.writable seg.executable true) .small curVaddr (c.push obj) = .error (.err reason) c' from hmap]
  have hpages : r.pages = [curVaddr.toNat / 0x1000] := Request.pages_small rfl
  rw [← hpages]
  rcases (h.push obj).map_or_refuse pdName (r := r) ⟨_, _, _, _, hobj⟩ with ⟨hfit, c1, hmap, h1⟩ | ⟨hunfit,
    reason, hmap⟩
  · exact .inl ⟨hfit, c1, mapPage_keepsFrames hmap, h1, hmapped c1 hmap⟩
  · obtain ⟨reason', hrun⟩ := hrefused _ _ hmap
    exact .inr ⟨hunfit, reason', _, hrun⟩

/-- The pages of a segment from some page on are mapped, if they fit. -/
lemma mapSegment_run (pdName : String) (elfId segIdx frameSequence : Nat) {k m n : Nat} {curVaddr : Word}
    (h : Space config c v granted)
    (hown : OwnFrames granted) (hends : seg.Ends) (hcur : curVaddr.toNat = 0x1000 * k) (hn : m < n)
    (hlast : seg.virtAddr.toNat + seg.memSize.toNat ≤ 0x1000 * (k + m))
    (hpages : ∀ j < m, seg.Touches (k + j)) :
    (Fit config granted (List.range' k m) ∧ ∃ frameSequence' c' new,
      mapSegment config pdName v elfId segIdx seg n curVaddr frameSequence c = .ok frameSequence' c' ∧
        Space config c' v (new ++ granted) ∧ Extends config granted (List.range' k m) (new ++ granted) ∧
          OwnFrames (new ++ granted) ∧ KeepsFrames c c' ∧ ∀ r ∈ new, ∃ page, PageOf config elfId segIdx seg c' r page) ∨
    (¬ Fit config granted (List.range' k m) ∧ ∃ reason c',
      mapSegment config pdName v elfId segIdx seg n curVaddr frameSequence c = .error (.err reason) c') := by
  unfold Segment.Ends at hends
  have hadd : (seg.virtAddr + seg.memSize).toNat = seg.virtAddr.toNat + seg.memSize.toNat := by
    rw [BitVec.toNat_add, Nat.mod_eq_of_lt (by omega)]
  induction m generalizing k n frameSequence curVaddr c granted with
  | zero =>
    obtain ⟨n, rfl⟩ := Nat.exists_eq_succ_of_ne_zero (show n ≠ 0 by omega)
    have hend : seg.virtAddr + seg.memSize ≤ curVaddr := by
      rw [BitVec.le_def, hadd, hcur]
      omega
    unfold mapSegment
    rw [if_pos hend]
    exact .inl ⟨fit_nil, frameSequence, c, [], rfl, h, .refl _ _, hown, .refl c, List.forall_mem_nil _⟩
  | succ m ih =>
    obtain ⟨n, rfl⟩ := Nat.exists_eq_succ_of_ne_zero (show n ≠ 0 by omega)
    have htouches : seg.Touches k := hpages 0 (by omega)
    have hbelow := (Segment.touches_iff.mp htouches).2.2
    have hend : ¬ seg.virtAddr + seg.memSize ≤ curVaddr := by
      rw [BitVec.le_def, hadd, hcur]
      omega
    let r := pageRequest seg curVaddr c.objects.length
    have hquot : curVaddr.toNat / 0x1000 = k := by rw [hcur, Nat.mul_div_cancel_left k (by decide)]
    have hrpages : r.pages = [k] := (Request.pages_small rfl).trans (congrArg (fun q => [q]) hquot)
    have hrange : List.range' k (m + 1) = r.pages ++ List.range' (k + 1) m := by
      rw [hrpages, List.range'_succ, List.singleton_append]
    have hextends := Extends.page config granted r
    rw [hrange, hextends.fit_append, hrpages, ← hquot]
    rcases mapSegment_step pdName elfId segIdx frameSequence n h hend with ⟨hfit, c1, hkeep1, h1, hrun⟩ | ⟨hunfit,
      reason, c', herr⟩
    · have hown1 : OwnFrames (r.page config :: granted) := .cons (fun g hg => (h.object_lt g hg).ne') hown
      have hcur1 : (curVaddr + Sdf.PageSize.small.bytes).toNat = 0x1000 * (curVaddr.toNat / 0x1000 + 1) := by
        rw [BitVec.toNat_add, hcur, show Sdf.PageSize.small.bytes.toNat = 0x1000 from rfl, Nat.mod_eq_of_lt (by omega)]
        omega
      rcases ih (frameSequence + 1) (k := curVaddr.toNat / 0x1000 + 1) (n := n) h1 hown1 hcur1 (by omega) (by omega) (by
          intro j hj
          have hj := hpages (j + 1) (by omega)
          rwa [Nat.add_comm j, ← Nat.add_assoc, ← hquot] at hj) with
        ⟨hrest, frameSequence', c', new, hok, h', hextends', hown', hkeep, hnew⟩ | ⟨hrest, reason, c', herr⟩
      · have hpage : PageOf config elfId segIdx seg c' (r.page config) k := by
          have hvaddr : BitVec.ofNat 64 (0x1000 * k) = curVaddr := by rw [← hcur, BitVec.ofNat_toNat,
            BitVec.setWidth_eq]
          refine ⟨rfl, by rw [Request.page_small config rfl]; exact congrArg (0x1000 * slot config ·) hquot,
            htouches, rfl, ?_⟩
          rw [hvaddr]
          exact (hkeep1.trans hkeep) _ _ (frameInit_eq_some.mpr ⟨_, _, _, push_last c _⟩)
        refine .inl ⟨⟨hfit, hrest⟩, frameSequence', c', new ++ [r.page config], hrun.trans hok, ?_, ?_, ?_,
          ((KeepsFrames.push c _).trans hkeep1).trans hkeep, fun g hg => ?_⟩
        · rwa [List.append_assoc]
        · rw [List.append_assoc, hquot, ← hrpages]
          rw [hquot] at hextends'
          exact hextends.trans hextends'
        · rwa [List.append_assoc]
        · rcases List.mem_append.mp hg with hg | hg
          · exact hnew g hg
          · obtain rfl := List.mem_singleton.mp hg
            exact ⟨k, hpage⟩
      · exact .inr ⟨fun hfit => hrest hfit.2, reason, c', hrun.trans herr⟩
    · exact .inr ⟨fun hfit => hunfit hfit.1, reason, c', herr⟩

/-- Addresses wrap around at a multiple of the reach. -/
lemma slot_wrap (config : Config) (page m : Nat) : slot config (page % 2 ^ 52 + m) = slot config (page + m) := by
  have hreach : reach config ∣ 2 ^ 64 :=
    Nat.pow_dvd_pow 2 ((Nat.pow_le_pow_iff_right (by decide)).mp
      ((reach_le config).trans (Nat.pow_le_pow_right (by decide) (by decide))))
  have hdvd : reach config / 0x1000 ∣ 2 ^ 52 := Nat.div_dvd_div (size_dvd_reach config .small) hreach
  exact (((Nat.mod_modEq page (2 ^ 52)).of_dvd hdvd).add_right m)

/-- Nothing is mapped for a segment whose end wraps around. -/
lemma mapSegment_wraps (pdName : String) (elfId segIdx frameSequence n : Nat) {curVaddr : Word} (hwraps : seg.Wraps)
    (hsize : seg.memSize.toNat < 2 ^ 63) (hcur : curVaddr.toNat = 0x1000 * (seg.virtAddr.toNat / 0x1000)) :
    mapSegment config pdName v elfId segIdx seg (n + 1) curVaddr frameSequence c = .ok frameSequence c := by
  unfold Segment.Wraps at hwraps
  have hend : seg.virtAddr + seg.memSize ≤ curVaddr := by
    rw [BitVec.le_def, BitVec.toNat_add, hcur]
    omega
  unfold mapSegment
  rw [if_pos hend]
  rfl

/-- A segment that ends on the last page is never mapped: the loop goes on until it comes by a page that is taken. -/
lemma mapSegment_lastPage (pdName : String) (elfId segIdx frameSequence : Nat) {m n : Nat} {curVaddr : Word}
    (h : Space config c v granted) (hlast : ¬ seg.Ends) (hwraps : ¬ seg.Wraps)
    (hcur : curVaddr.toNat % 0x1000 = 0) (hn : m < n)
    (htaken : PageTaken granted (slot config (curVaddr.toNat / 0x1000 + m))) :
    ∃ reason c', mapSegment config pdName v elfId segIdx seg n curVaddr frameSequence c = .error (.err reason) c' := by
  have hend : ∀ {curVaddr : Word}, curVaddr.toNat % 0x1000 = 0 → ¬ seg.virtAddr + seg.memSize ≤ curVaddr := by
    intro curVaddr hcur
    unfold Segment.Ends at hlast
    unfold Segment.Wraps at hwraps
    rw [BitVec.le_def, BitVec.toNat_add]
    omega
  induction m generalizing n frameSequence curVaddr c granted with
  | zero =>
    obtain ⟨n, rfl⟩ := Nat.exists_eq_succ_of_ne_zero (show n ≠ 0 by omega)
    rcases mapSegment_step pdName elfId segIdx frameSequence n h (hend hcur) with ⟨hfit, -⟩ | ⟨-, herr⟩
    · exact absurd htaken (hfit.1 _ List.mem_cons_self)
    · exact herr
  | succ m ih =>
    obtain ⟨n, rfl⟩ := Nat.exists_eq_succ_of_ne_zero (show n ≠ 0 by omega)
    rcases mapSegment_step pdName elfId segIdx frameSequence n h (hend hcur) with ⟨-, c1, -, h1, hrun⟩ | ⟨-, herr⟩
    · have hnext : (curVaddr + Sdf.PageSize.small.bytes).toNat = (curVaddr.toNat + 0x1000) % 2 ^ 64 :=
        BitVec.toNat_add ..
      have hpage : (curVaddr + Sdf.PageSize.small.bytes).toNat / 0x1000 =
        (curVaddr.toNat / 0x1000 + 1) % 2 ^ 52 := by omega
      have hnextTaken : slot config ((curVaddr + Sdf.PageSize.small.bytes).toNat / 0x1000 + m) =
          slot config (curVaddr.toNat / 0x1000 + (m + 1)) := by
        rw [hpage, slot_wrap, Nat.add_assoc, Nat.add_comm 1 m]
      obtain ⟨reason, c', herr⟩ := ih (frameSequence + 1) h1 (by rw [hnext]; omega) (Nat.lt_of_succ_lt_succ hn) (by
        rw [hnextTaken]
        exact taken_cons.mpr (.inr htaken))
      exact ⟨reason, c', hrun.trans herr⟩
    · exact herr

/-- The pages of a segment are mapped, if they fit and the loop over them ends. -/
lemma mapSegment_cases (pdName : String) (elfId segIdx frameSequence : Nat) (h : Space config c v granted)
    (hown : OwnFrames granted) (hsize : seg.memSize.toNat < 2 ^ 63) (hne : seg.memSize ≠ 0) :
    (Fit config granted seg.mapped ∧ seg.Bounded ∧ ∃ frameSequence' c' new,
      mapSegment config pdName v elfId segIdx seg (2 ^ 52 + 1)
      (seg.virtAddr - seg.virtAddr % Sdf.PageSize.small.bytes) frameSequence c =
        .ok frameSequence' c' ∧ Space config c' v (new ++ granted) ∧ Extends config granted seg.mapped
        (new ++ granted) ∧
          OwnFrames (new ++ granted) ∧ KeepsFrames c c' ∧ ∀ r ∈ new, ∃ page, PageOf config elfId segIdx seg c' r page) ∨
    (¬ (Fit config granted seg.mapped ∧ seg.Bounded) ∧ ∃ reason c',
      mapSegment config pdName v elfId segIdx seg (2 ^ 52 + 1)
      (seg.virtAddr - seg.virtAddr % Sdf.PageSize.small.bytes) frameSequence c = .error (.err reason) c') := by
  have hpos : seg.memSize.toNat ≠ 0 := fun e => hne (BitVec.eq_of_toNat_eq e)
  have hstart : (seg.virtAddr - seg.virtAddr % Sdf.PageSize.small.bytes).toNat =
    0x1000 * (seg.virtAddr.toNat / 0x1000) := by
    rw [roundDown_toNat, show Sdf.PageSize.small.bytes.toNat = 0x1000 from rfl]
    omega
  unfold Segment.mapped
  by_cases hwraps : seg.Wraps
  · rw [if_pos hwraps]
    exact .inl ⟨fit_nil, .inr (.inl hwraps), frameSequence, c, [],
      mapSegment_wraps pdName elfId segIdx frameSequence _ hwraps hsize hstart,
      h, .refl _ _, hown, .refl c, List.forall_mem_nil _⟩
  rw [if_neg hwraps]
  by_cases hends : seg.Ends
  · have hbound : seg.virtAddr.toNat + seg.memSize.toNat + 0x1000 ≤ 2 ^ 64 := hends
    let m := (seg.virtAddr.toNat + seg.memSize.toNat + 0xfff) / 0x1000 - seg.virtAddr.toNat / 0x1000
    have hpages : seg.pages = List.range' (seg.virtAddr.toNat / 0x1000) m := if_neg hne
    rw [hpages]
    rcases mapSegment_run pdName elfId segIdx frameSequence (m := m) (n := 2 ^ 52 + 1) h hown hends hstart
      (by omega) (by omega)
        (fun j hj => Segment.touches_iff.mpr ⟨hpos, by omega, by omega⟩) with ⟨hfit, hrun⟩ | ⟨hunfit, herr⟩
    · exact .inl ⟨hfit, .inr (.inr hends), hrun⟩
    · exact .inr ⟨fun hfit => hunfit hfit.1, herr⟩
  · have hunbounded : ¬ seg.Bounded := by
      rintro (hempty | hwraps' | hends')
      · exact hne hempty
      · exact hwraps hwraps'
      · exact hends hends'
    refine .inr ⟨fun hfit => hunbounded hfit.2, ?_⟩
    have hend : ¬ seg.virtAddr + seg.memSize ≤ seg.virtAddr - seg.virtAddr % Sdf.PageSize.small.bytes := by
      unfold Segment.Wraps at hwraps
      rw [BitVec.le_def, BitVec.toNat_add, hstart]
      omega
    rcases mapSegment_step pdName elfId segIdx frameSequence (2 ^ 52) h hend with ⟨-, c1, -, h1, hrun⟩ | ⟨-, herr⟩
    · -- the loop comes by the first page again, after as many pages as there are slots
      have hcur : (seg.virtAddr - seg.virtAddr % Sdf.PageSize.small.bytes + Sdf.PageSize.small.bytes).toNat =
          (0x1000 * (seg.virtAddr.toNat / 0x1000) + 0x1000) % 2 ^ 64 := by
        rw [BitVec.toNat_add, hstart]
        rfl
      have hslots : 0 < reach config / 0x1000 :=
        Nat.div_pos (Nat.le_of_dvd (reach_pos config) (size_dvd_reach config .small)) (by decide)
      have hle := reach_le config
      have hfirst : (seg.virtAddr - seg.virtAddr % Sdf.PageSize.small.bytes).toNat / 0x1000 =
        seg.virtAddr.toNat / 0x1000 := by
        rw [hstart, Nat.mul_div_cancel_left _ (by decide)]
      have hagain : slot config ((seg.virtAddr - seg.virtAddr % Sdf.PageSize.small.bytes +
        Sdf.PageSize.small.bytes).toNat / 0x1000 +
          (reach config / 0x1000 - 1)) = slot config (seg.virtAddr.toNat / 0x1000) := by
        have hnext : (seg.virtAddr - seg.virtAddr % Sdf.PageSize.small.bytes +
          Sdf.PageSize.small.bytes).toNat / 0x1000 = (seg.virtAddr.toNat / 0x1000 + 1) % 2 ^ 52 := by
          rw [hcur]
          omega
        rw [hnext, slot_wrap, Nat.add_assoc, Nat.add_sub_cancel' hslots]
        exact Nat.add_mod_right _ _
      obtain ⟨reason, c', herr⟩ := mapSegment_lastPage pdName elfId segIdx (frameSequence + 1) h1 hends hwraps
        (by rw [hcur]; omega)
        (show reach config / 0x1000 - 1 < 2 ^ 52 by omega) (by
          rw [hagain]
          refine taken_cons.mpr (.inl ?_)
          rw [Request.pages_small rfl, List.map_singleton, List.mem_singleton]
          exact congrArg (slot config) hfirst.symm)
      exact ⟨reason, c', hrun.trans herr⟩
    · exact herr

lemma Segment.mapped_empty (h : seg.memSize = 0) : seg.mapped = [] := by
  unfold Segment.mapped Segment.pages
  rw [if_pos h, ite_self]

/-- The segments are mapped one after the other. -/
lemma mapSegments_cases (pdName : String) (elfId segIdx frameSequence : Nat) {segs : List Segment}
    (h : Space config c v granted) (hown : OwnFrames granted) (hdata : ∀ seg ∈ segs, seg.uninitialised = false)
    (hsize : ∀ seg ∈ segs, seg.memSize.toNat < 2 ^ 63) :
    (Fit config granted (segs.flatMap Segment.mapped) ∧ (∀ seg ∈ segs, seg.Bounded) ∧ ∃ c' new,
      mapSegments config pdName v elfId segIdx frameSequence segs c = .ok () c' ∧ Space config c' v (new ++ granted) ∧
        Extends config granted (segs.flatMap Segment.mapped) (new ++ granted) ∧ OwnFrames (new ++ granted) ∧
          KeepsFrames c c' ∧ ∀ r ∈ new, ∃ i seg page, segs[i]? = some seg ∧ PageOf config elfId (segIdx + i) seg c' r page) ∨
    (¬ (Fit config granted (segs.flatMap Segment.mapped) ∧ ∀ seg ∈ segs, seg.Bounded) ∧ ∃ reason c',
      mapSegments config pdName v elfId segIdx frameSequence segs c = .error (.err reason) c') := by
  induction segs generalizing c granted segIdx frameSequence with
  | nil => exact .inl ⟨fit_nil, List.forall_mem_nil _, c, [], rfl, h, .refl _ _, hown, .refl c, List.forall_mem_nil _⟩
  | cons seg segs ih =>
    have hih := fun {c granted} segIdx frameSequence (h : Space config c v granted) (hown : OwnFrames granted) =>
      ih segIdx frameSequence h hown (fun s hs => hdata s (List.mem_cons_of_mem _ hs))
        fun s hs => hsize s (List.mem_cons_of_mem _ hs)
    -- the segments that are left have the next numbers
    have hshift : ∀ {c'} {new : List Request}, (∀ r ∈ new, ∃ i s page, segs[i]? = some s ∧
        PageOf config elfId (segIdx + 1 + i) s c' r page) →
          ∀ r ∈ new, ∃ i s page, (seg :: segs)[i]? = some s ∧ PageOf config elfId (segIdx + i) s c' r page := by
      intro c' new hnew r hr
      obtain ⟨i, s, page, hi, hpage⟩ := hnew r hr
      refine ⟨i + 1, s, page, List.getElem?_cons_succ.trans hi, ?_⟩
      rwa [Nat.add_assoc, Nat.add_comm 1 i] at hpage
    rw [List.flatMap_cons, List.forall_mem_cons]
    unfold mapSegments
    rw [if_neg (by rw [hdata seg List.mem_cons_self]; exact Bool.false_ne_true)]
    change (_ ∧ _ ∧ ∃ c' new, (if seg.memSize = 0 then _ else _ : M Unit) c = _ ∧ _) ∨
      (_ ∧ ∃ reason c', (if seg.memSize = 0 then _ else _ : M Unit) c = _)
    by_cases hempty : seg.memSize = 0
    · rw [if_pos hempty, Segment.mapped_empty hempty, List.nil_append]
      rcases hih (segIdx + 1) frameSequence h hown with
        ⟨hfit, hbounded, c', new, hrun, h', hextends, hown', hkeep, hnew⟩ | ⟨hunfit, herr⟩
      · exact .inl ⟨hfit, ⟨.inl hempty, hbounded⟩, c', new, hrun, h', hextends, hown', hkeep, hshift hnew⟩
      · exact .inr ⟨fun hfit => hunfit ⟨hfit.1, hfit.2.2⟩, herr⟩
    · rw [if_neg hempty]
      rcases mapSegment_cases pdName elfId segIdx frameSequence h hown (hsize seg List.mem_cons_self) hempty with
        ⟨hfit, hbounded, frameSequence', c1, new1, hrun1, h1, hextends1, hown1, hkeep1, hnew1⟩ | ⟨hunfit,
          reason, c', herr⟩
      · rw [hextends1.fit_append]
        rcases hih (segIdx + 1) frameSequence' h1 hown1 with
          ⟨hrest, hboundeds, c', new, hrun, h', hextends, hown', hkeep, hnew⟩ | ⟨hrest, reason, c', herr⟩
        · refine .inl ⟨⟨hfit, hrest⟩, ⟨hbounded, hboundeds⟩, c', new ++ new1, (bind_ok hrun1).trans hrun, ?_, ?_, ?_,
            hkeep1.trans hkeep, fun r hr => ?_⟩
          · rwa [List.append_assoc]
          · rw [List.append_assoc]
            exact hextends1.trans hextends
          · rwa [List.append_assoc]
          · rcases List.mem_append.mp hr with hr | hr
            · exact hshift hnew r hr
            · obtain ⟨page, hpage⟩ := hnew1 r hr
              exact ⟨0, seg, page, rfl, hpage.keep hkeep⟩
        · exact .inr ⟨fun hfit => hrest ⟨hfit.1.2, hfit.2.2⟩, reason, c', (bind_ok hrun1).trans herr⟩
      · exact .inr ⟨fun hfit => hunfit ⟨hfit.1.left, hfit.2.1⟩, reason, c', bind_error herr⟩

end pages

/-! ## The bytes of a page -/

section bytes

variable {data : Nat → Nat → Option (List Byte)} {elfId segIdx : Nat} {seg : Segment} {curVaddr : Word}
  {bytes : List Byte}

/-- What a frame is filled with that has one part. -/
lemma fillFrame_one {size lo len start : Nat} {entry : FillEntry} (hdata : data elfId segIdx = some bytes)
    (hcontent : entry.content = .elfContent elfId segIdx (BitVec.ofNat 64 start) (BitVec.ofNat 64 (start + len)))
    (hstart : entry.start.toNat = lo) (hstop : entry.stop.toNat = lo + len) (hframe : lo + len ≤ size)
    (hbytes : start + len ≤ bytes.length) (hlt : bytes.length < 2 ^ 64) :
    fillFrame data size [entry] =
      some (List.replicate lo 0 ++ (bytes.drop start).take len ++ List.replicate (size - (lo + len)) 0) := by
  have hstart' : (BitVec.ofNat 64 start).toNat = start := by rw [BitVec.toNat_ofNat, Nat.mod_eq_of_lt (by omega)]
  have hstop' : (BitVec.ofNat 64 (start + len)).toNat = start + len := by
    rw [BitVec.toNat_ofNat, Nat.mod_eq_of_lt (by omega)]
  have hpart : entry.content.bytes data = some ((bytes.drop start).take len) := by
    rw [hcontent]
    unfold FillContent.bytes
    dsimp only
    rw [hdata]
    dsimp only
    rw [hstart', hstop', if_pos ⟨Nat.le_add_right _ _, hbytes⟩, Nat.add_sub_cancel_left]
  have hlength : ((bytes.drop start).take len).length = len := by
    rw [List.length_take, List.length_drop]
    omega
  have hcopy : copyEntry data (List.replicate size 0) entry =
      some (List.replicate lo 0 ++ (bytes.drop start).take len ++ List.replicate (size - (lo + len)) 0) := by
    unfold copyEntry
    rw [hpart]
    dsimp only
    rw [hlength, hstart, hstop, List.length_replicate, if_pos ⟨rfl, hframe⟩, List.take_replicate, List.drop_replicate,
      Nat.min_eq_left (by omega)]
  unfold fillFrame
  rw [List.foldlM_cons, hcopy]
  rfl

/-- The frame at a page has the bytes of the segment where the segment is, and is zero elsewhere. -/
lemma fillFrame_segmentFill (hdata : data elfId segIdx = some bytes) (hlength : bytes.length = seg.memSize.toNat)
    (haligned : curVaddr.toNat % 0x1000 = 0) (htouches : seg.Touches (curVaddr.toNat / 0x1000))
    (hstop : seg.virtAddr.toNat + seg.memSize.toNat < 2 ^ 63) :
    ∃ frame, fillFrame data 0x1000 (segmentFill elfId segIdx seg curVaddr) = some frame ∧ ∀ offset < 0x1000,
      frame[offset]? = some (if seg.Contains (curVaddr.toNat + offset) then
        bytes.getD (curVaddr.toNat + offset - seg.virtAddr.toNat) 0 else 0) := by
  obtain ⟨hne, hlow, hhigh⟩ := Segment.touches_iff.mp htouches
  have hpage : curVaddr.toNat = 0x1000 * (curVaddr.toNat / 0x1000) := by omega
  -- the part of the segment that is on the page, as natural numbers
  let lo := seg.virtAddr.toNat - curVaddr.toNat
  let start := curVaddr.toNat - seg.virtAddr.toNat
  let len := min (0x1000 - lo) (seg.memSize.toNat - start)
  let destOffset : Word := if curVaddr < seg.virtAddr then seg.virtAddr - curVaddr else 0
  have hlo : destOffset.toNat = lo := by
    change (if curVaddr < seg.virtAddr then seg.virtAddr - curVaddr else 0 : Word).toNat = _
    split
    · rename_i hlt
      rw [BitVec.toNat_sub_of_le (BitVec.le_of_lt hlt)]
    · rename_i hge
      rw [BitVec.lt_def] at hge
      exact (Nat.sub_eq_zero_of_le (Nat.le_of_not_lt hge)).symm
  have hstart : (curVaddr + destOffset - seg.virtAddr).toNat = start := by
    have hsum : (curVaddr + destOffset).toNat = curVaddr.toNat + lo := by
      rw [BitVec.toNat_add, hlo, Nat.mod_eq_of_lt (by omega)]
    rw [BitVec.toNat_sub_of_le (by rw [BitVec.le_def, hsum]; omega), hsum]
    omega
  have hstartLt : start < seg.memSize.toNat := by omega
  have hloLt : lo < 0x1000 := by omega
  have hlen : (wordMin (Sdf.PageSize.small.bytes - destOffset)
    (seg.memSize - (curVaddr + destOffset - seg.virtAddr))).toNat = len := by
    have hroom : (Sdf.PageSize.small.bytes - destOffset).toNat = 0x1000 - lo := by
      rw [BitVec.toNat_sub_of_le (by rw [BitVec.le_def, hlo]; exact hloLt.le), hlo]
      rfl
    have hrest : (seg.memSize - (curVaddr + destOffset - seg.virtAddr)).toNat = seg.memSize.toNat - start := by
      rw [BitVec.toNat_sub_of_le (by rw [BitVec.le_def, hstart]; exact hstartLt.le), hstart]
    unfold wordMin
    split
    · rename_i hle
      rw [BitVec.le_def, hroom, hrest] at hle
      rw [hroom]
      omega
    · rename_i hle
      rw [BitVec.le_def, hroom, hrest] at hle
      rw [hrest]
      omega
  have hfill : segmentFill elfId segIdx seg curVaddr = [⟨destOffset, destOffset + BitVec.ofNat 64 len,
      .elfContent elfId segIdx (BitVec.ofNat 64 start) (BitVec.ofNat 64 (start + len))⟩] := by
    have hstartEq : curVaddr + destOffset - seg.virtAddr = BitVec.ofNat 64 start :=
      BitVec.eq_of_toNat_eq (by rw [hstart, BitVec.toNat_ofNat, Nat.mod_eq_of_lt (by omega)])
    have hlenEq : wordMin (Sdf.PageSize.small.bytes - destOffset) (seg.memSize - BitVec.ofNat 64 start) =
      BitVec.ofNat 64 len := by
      rw [← hstartEq]
      exact BitVec.eq_of_toNat_eq (by rw [hlen, BitVec.toNat_ofNat, Nat.mod_eq_of_lt (by omega)])
    have hless : curVaddr + destOffset - seg.virtAddr < seg.memSize := by rwa [BitVec.lt_def, hstart]
    unfold segmentFill
    change (if curVaddr + destOffset - seg.virtAddr < seg.memSize then [(⟨destOffset, _, _⟩ : FillEntry)] else []) = _
    rw [if_pos hless, hstartEq, hlenEq, BitVec.ofNat_add]
  have hstopEq : (destOffset + BitVec.ofNat 64 len).toNat = lo + len := by
    rw [BitVec.toNat_add, hlo, BitVec.toNat_ofNat, Nat.mod_eq_of_lt (show len < 2 ^ 64 by omega),
      Nat.mod_eq_of_lt (by omega)]
  refine ⟨List.replicate lo 0 ++ (bytes.drop start).take len ++ List.replicate (0x1000 - (lo + len)) 0, ?_, ?_⟩
  · rw [hfill]
    exact fillFrame_one hdata rfl hlo hstopEq (by omega) (by omega) (by omega)
  · intro offset hoffset
    have htake : ((bytes.drop start).take len).length = len := by
      rw [List.length_take, List.length_drop]
      omega
    rcases Nat.lt_or_ge offset lo with hbefore | hafter
    · rw [if_neg fun h => absurd h.1 (by omega), List.append_assoc, List.getElem?_append_left (by simpa using hbefore),
        List.getElem?_replicate, if_pos hbefore]
    rcases Nat.lt_or_ge offset (lo + len) with hin | hout
    · have hindex : start + (offset - lo) = curVaddr.toNat + offset - seg.virtAddr.toNat := by omega
      have hbytes : start + (offset - lo) < bytes.length := by omega
      rw [if_pos ⟨by omega, by omega⟩, List.append_assoc, List.getElem?_append_right (by simpa using hafter),
        List.length_replicate, List.getElem?_append_left (by omega), List.getElem?_take_of_lt (by omega),
        List.getElem?_drop, List.getD_eq_getElem?_getD, ← hindex, List.getElem?_eq_getElem hbytes]
      rfl
    · rw [if_neg fun h => absurd h.2 (by omega), List.getElem?_append_right (by simp; omega), List.getElem?_replicate,
        if_pos (by simp; omega)]

end bytes

/-! ## The address space of a program -/

/-- The address space that a thread is bound to. -/
def boundVspace (c : Container) (tcb : ObjectId) : Option ObjectId :=
  match c.objects[tcb]? with
  | some ⟨_, .tcb slots _⟩ =>
    match slots.find? (·.slot == TcbBoundSlot.vspace.idx) with
    | some ⟨_, .pageTable v⟩ => some v
    | _ => none
  | _ => none

/-- The frames of the segments are mapped in an address space. -/
structure Loads (config : Config) (elfId : Nat) (segs : List Segment) (c : Container) (v : ObjectId)
    (granted : List Request) : Prop where
  space : Space config c v granted
  own : OwnFrames granted
  pages : ∀ r ∈ granted, ∃ i seg page, segs[i]? = some seg ∧ PageOf config elfId i seg c r page
  taken : Extends config [] (segs.flatMap Segment.mapped) granted

/-- The pages of a program, with that of the IPC buffer. -/
def Elf.pages (elf : Elf) (ipc : Word) : List Nat :=
  elf.segments.flatMap Segment.pages ++ [ipc.toNat / 0x1000]

/-- Those that are mapped. -/
def Elf.mapped (elf : Elf) (ipc : Word) : List Nat :=
  elf.segments.flatMap Segment.mapped ++ [ipc.toNat / 0x1000]

/-- The pages of a program that are mapped do not share a slot, and the loops over them end. -/
def Elf.Fits (config : Config) (elf : Elf) (ipc : Word) : Prop :=
  Fit config [] (elf.mapped ipc) ∧ ∀ seg ∈ elf.segments, seg.Bounded

/-- The request for the IPC buffer, before it is aligned. -/
def ipcRequest (ipc : Word) (frame : ObjectId) : Request :=
  ⟨ipc, .small, ⟨frame, ⟨true, true, false, false⟩, true, false⟩⟩

/-- The TCB of a program. -/
def tcbOf (pdName : String) (pdCpu : Nat) (elf : Elf) (vspace ipcbufFrame : ObjectId) (ipcbufVaddr : Word) :
    NamedObject :=
  ⟨s!"tcb_{pdName}", .tcb [⟨TcbBoundSlot.vspace.idx, .pageTable vspace⟩,
    ⟨TcbBoundSlot.ipcBuffer.idx, makeFrameCap ipcbufFrame true true false true⟩]
    ⟨ipcbufVaddr, pdCpu, 0, 0, false, false, elf.entry, 0⟩⟩

section programs

variable {config : Config} {pdName : String} {pdCpu elfId : Nat} {elf : Elf} {c c' : Container}
  {v : ObjectId} {ipc : Word} {granted : List Request}

lemma createVspace_ok (config : Config) (pdName : String) (c : Container) :
    ∃ v c', createVspace config pdName c = .ok v c' ∧ Space config c' v [] := by
  have hlevels := numPageTableLevels_ge config
  have htop := topPtLevelNumber_le config
  obtain ⟨levelName, hname⟩ := getPtLevelName_run config (show topPtLevelNumber config <
    config.numPageTableLevels by omega)
  obtain ⟨v, c', hrun⟩ : ∃ v c', createVspace config pdName c = .ok v c' := by
    unfold createVspace
    rw [bind_ok (hname c)]
    exact ⟨_, _, rfl⟩
  exact ⟨v, c', hrun, .create hrun⟩

/-- The segments are mapped first, and then the IPC buffer, if the pages fit. -/
lemma addElfToSpec_run (config : Config) (pdName : String) (pdCpu elfId : Nat) (c : Container)
    (hdata : ∀ seg ∈ elf.segments, seg.uninitialised = false) (hsize : ∀ seg ∈ elf.segments, seg.memSize.toNat < 2 ^ 63)
    (hbuf : elf.ipcBuffer = some ipc) :
    (elf.Fits config ipc ∧ ∃ tcb c1 c' v granted,
      addElfToSpec config pdName pdCpu elfId elf c = .ok tcb c' ∧ boundVspace c' tcb = some v ∧
        Loads config elfId elf.segments c1 v granted ∧ KeepsFrames c1 c' ∧
          Space config c' v ((ipcRequest ipc c1.objects.length).page config :: granted) ∧
            Extends config [] (elf.mapped ipc) ((ipcRequest ipc c1.objects.length).page config :: granted)) ∨
    (¬ elf.Fits config ipc ∧ ∃ message c',
      addElfToSpec config pdName pdCpu elfId elf c = .error (.err message) c') := by
  obtain ⟨v, c0, hvspace, h0⟩ := createVspace_ok config pdName c
  rcases mapSegments_cases pdName elfId 0 0 h0 .nil hdata hsize with
    ⟨hfit, hbounded, c1, new, hsegs, h1, hextends, hown, -, hpages⟩ | ⟨hunfit, reason, c', herr⟩
  swap
  · refine .inr ⟨fun hfit => hunfit ⟨hfit.1.left, hfit.2⟩, reason, c', ?_⟩
    unfold addElfToSpec
    rw [bind_ok hvspace]
    exact bind_error herr
  rw [List.append_nil] at h1 hown hextends
  have hloads : Loads config elfId elf.segments c1 v new := by
    refine ⟨h1, hown, fun r hr => ?_, hextends⟩
    obtain ⟨i, seg, page, hi, hpage⟩ := hpages r hr
    exact ⟨i, seg, page, hi, by rwa [Nat.zero_add] at hpage⟩
  let name := s!"ipcbuf_{pdName}"
  let obj : NamedObject := ⟨s!"frame_{name}", .frame (fixedSizeBits config .small) none []⟩
  have hobj : (c1.push obj).objects[c1.objects.length]? = some obj := push_last c1 obj
  have hframe : (ipcRequest ipc c1.objects.length).FrameIn (c1.push obj) := ⟨_, _, _, _, hobj⟩
  have hframeObj : makeFrameObj [] s!"ipcbuf_{pdName}" none (fixedSizeBits config .small) c1 =
      .ok c1.objects.length (c1.push obj) := rfl
  have hpure : (pure ipc : M Word) (c1.push obj) = .ok ipc (c1.push obj) := rfl
  let cap : Cap := .frame (ipcRequest ipc c1.objects.length).cap
  -- what is left once the frame of the buffer is there
  have hmapped : ∀ c', mapPage config pdName v cap .small ipc (c1.push obj) = .ok () c' →
      addElfToSpec config pdName pdCpu elfId elf c =
        .ok c'.objects.length (c'.push (tcbOf pdName pdCpu elf v c1.objects.length ipc)) := by
    intro c' hmap
    unfold addElfToSpec
    rw [bind_ok hvspace, bind_ok hsegs, bind_ok hframeObj, hbuf]
    refine (bind_ok hpure).trans ((bind_ok (show _ = EStateM.Result.ok () c' from ?_)).trans rfl)
    rw [show mapPage config pdName v
      (makeFrameCap c1.objects.length true true false true) .small ipc (c1.push obj) = .ok () c' from hmap]
  have hrefused : ∀ reason c', mapPage config pdName v cap .small ipc (c1.push obj) = .error (.err reason) c' →
      ∃ message, addElfToSpec config pdName pdCpu elfId elf c = .error (.err message) c' := by
    intro reason c' hmap
    unfold addElfToSpec
    rw [bind_ok hvspace, bind_ok hsegs, bind_ok hframeObj, hbuf]
    refine ⟨s!"build_capdl_spec(): failed to map ipc buffer frame to {pdName} because: {reason}",
      (bind_ok hpure).trans (bind_error ?_)⟩
    rw [show mapPage config pdName v
      (makeFrameCap c1.objects.length true true false true) .small ipc (c1.push obj) = .error (.err reason) c' from hmap]
  have hipc : (ipcRequest ipc c1.objects.length).pages = [ipc.toNat / 0x1000] := Request.pages_small rfl
  have hbuffer := Extends.page config new (ipcRequest ipc c1.objects.length)
  unfold Elf.Fits Elf.mapped
  rw [hextends.fit_append, ← hipc]
  rcases (h1.push obj).map_or_refuse pdName hframe with ⟨hfree, c3, hmap, h3⟩ | ⟨hunfit, reason, hmap⟩
  · refine .inl ⟨⟨⟨hfit, hfree⟩, hbounded⟩, c3.objects.length, c1,
      c3.push (tcbOf pdName pdCpu elf v c1.objects.length ipc), v, new,
      hmapped c3 hmap, ?_, hloads, ?_, h3.push _, hextends.trans hbuffer⟩
    · unfold boundVspace
      rw [push_last]
      rfl
    · exact ((KeepsFrames.push c1 obj).trans (mapPage_keepsFrames hmap)).trans (KeepsFrames.push c3 _)
  · obtain ⟨message, hrun⟩ := hrefused reason _ hmap
    exact .inr ⟨fun hfit => hunfit hfit.1.2, message, _, hrun⟩

/-- The pages of segments that end before the last page are all mapped. -/
lemma Segment.mapped_eq {seg : Segment} (hends : seg.memSize ≠ 0 → seg.Ends) : seg.mapped = seg.pages := by
  by_cases hempty : seg.memSize = 0
  · rw [Segment.mapped_empty hempty]
    exact (if_pos hempty).symm
  · have hbound : seg.virtAddr.toNat + seg.memSize.toNat + 0x1000 ≤ 2 ^ 64 := hends hempty
    have hwraps : ¬ seg.Wraps := by
      unfold Segment.Wraps
      omega
    exact if_neg hwraps

lemma mapped_eq {segs : List Segment} (hends : ∀ seg ∈ segs, seg.memSize ≠ 0 → seg.Ends) :
    segs.flatMap Segment.mapped = segs.flatMap Segment.pages :=
  List.flatMap_congr fun seg hseg => Segment.mapped_eq (hends seg hseg)

lemma Elf.fits_iff (hends : ∀ seg ∈ elf.segments, seg.memSize ≠ 0 → seg.Ends) :
    elf.Fits config ipc ↔ Fit config [] (elf.pages ipc) := by
  unfold Elf.Fits Elf.mapped
  rw [mapped_eq hends]
  exact and_iff_left fun seg hseg => or_iff_not_imp_left.mpr fun hne => .inr (hends seg hseg hne)

lemma addElfToSpec_buffer {tcb : ObjectId} (h : addElfToSpec config pdName pdCpu elfId elf c = .ok tcb c') :
    ∃ ipc, elf.ipcBuffer = some ipc := by
  unfold addElfToSpec at h
  obtain ⟨vspace, c1, -, h⟩ := ok_bind h
  obtain ⟨⟨⟩, c2, -, h⟩ := ok_bind h
  obtain ⟨frame, c3, -, h⟩ := ok_bind h
  cases hbuf : elf.ipcBuffer with
  | none =>
    rw [hbuf] at h
    cases h
  | some ipc => exact ⟨ipc, rfl⟩

end programs

/-- A segment has an address on the page. -/
def Program.Touches (program : Program) (page : Nat) : Prop :=
  ∃ s ∈ program.segments, (Segment.ofFile s).Touches page

/-- The byte for an address in a frame, once it is filled. -/
def byteAt (programs : List Program) (c : Container) (frame : ObjectId) (a : Word) : Option Byte :=
  match frameBytes (segmentData programs) 0x1000 c frame with
  | some bytes => bytes[a.toNat % 0x1000]?
  | none => none

/-- The address space of a program. -/
structure Maps (config : Config) (programs : List Program) (program : Program) (c : Container)
    (v : ObjectId) : Prop where
  /-- The bytes of a segment are at its addresses, with its rights. -/
  bytes : ∀ s ∈ program.segments, ∀ a : Word, (Segment.ofFile s).Contains a.toNat → ∃ frame data,
    translate config c v a = some (.frame ⟨frame, ⟨s.isReadable, s.isWritable, false, false⟩, true, s.isExecutable⟩) ∧
      s.data = .realData data ∧ byteAt programs c frame a = data[a.toNat - s.virtAddr.toNat]?
  /-- The rest of the pages is zero. -/
  zeros : ∀ a : Word, program.Touches (a.toNat / 0x1000) →
    (∀ s ∈ program.segments, ¬ (Segment.ofFile s).Contains a.toNat) →
    ∃ cap, translate config c v a = some (.frame cap) ∧ byteAt programs c cap.object a = some 0
  /-- A frame is mapped at one page. -/
  once : ∀ (a b : Word) cap cap', translate config c v a = some (.frame cap) → translate config c v b =
    some (.frame cap') → cap.object = cap'.object → a.toNat / 0x1000 = b.toNat / 0x1000
  /-- There are no other pages than the one of the IPC buffer. -/
  nothing : ∀ a : Word, ¬ program.Touches (a.toNat / 0x1000) →
    (∀ ipc, program.ipcBuffer = some ipc → a.toNat / 0x1000 ≠ ipc.toNat / 0x1000) → translate config c v a = none

/-- The segments end within the reach. -/
def Program.SegmentsInReach (config : Config) (program : Program) : Prop :=
  ∀ s ∈ program.segments, s.memSize ≠ 0 → s.virtAddr.toNat + s.memSize.toNat ≤ reach config

/-- The page tables have indices for the addresses of the program. -/
structure Program.InReach (config : Config) (program : Program) : Prop where
  segments : program.SegmentsInReach config
  ipcBuffer : ∀ ipc, program.ipcBuffer = some ipc → ipc.toNat < reach config

section reach

variable {config : Config} {programs : List Program} {program : Program} {elfId : Nat} {c c' : Container} {v : ObjectId}
  {granted : List Request} {r : Request} {ipc : Word}

lemma Program.Loaded.segments (h : program.Loaded) : program.elf.segments = program.segments.map Segment.ofFile := by
  unfold Program.elf
  dsimp only
  rw [List.filter_eq_self.mpr fun s hs => (h s hs).1]

lemma Program.Loaded.data (h : program.Loaded) (hprogram : programs[elfId]? = some program) {i : Nat} {s : FileSegment}
    (hs : program.segments[i]? = some s) : ∃ data, s.data = .realData data ∧ segmentData programs elfId i = some data ∧
      s.memSize.toNat = data.length := by
  obtain ⟨-, data, hdata, hlt⟩ := h s (List.mem_of_getElem? hs)
  refine ⟨data, hdata, ?_, ?_⟩
  · unfold segmentData
    rw [hprogram]
    dsimp only
    rw [hs]
    dsimp only
    rw [hdata]
  · unfold Image.ElfSegment.memSize
    rw [hdata]
    change (BitVec.ofNat 64 data.length).toNat = _
    rw [BitVec.toNat_ofNat, Nat.mod_eq_of_lt (by omega)]

lemma translate_lt {a : Word} {cap : Cap} (h : translate config c v a = some cap) : a.toNat < reach config := by
  unfold translate at h
  split at h
  · assumption
  · cases h

/-- The bytes at a page of a segment are those of the segment, and zero elsewhere. -/
lemma PageOf.byteAt_eq {seg : Segment} {i page : Nat} {data : List Byte} (h : PageOf config elfId i seg c r page)
    (hdata : segmentData programs elfId i = some data) (hlength : data.length = seg.memSize.toNat)
    (hstop : seg.virtAddr.toNat + seg.memSize.toNat < 2 ^ 63) {a : Word} (ha : a.toNat / 0x1000 = page) :
    byteAt programs c r.cap.object a =
      some (if seg.Contains a.toNat then data.getD (a.toNat - seg.virtAddr.toNat) 0 else 0) := by
  have hvaddr : (BitVec.ofNat 64 (0x1000 * page)).toNat = 0x1000 * page := by
    rw [BitVec.toNat_ofNat, Nat.mod_eq_of_lt (by omega)]
  obtain ⟨frame, hfill, hbytes⟩ := fillFrame_segmentFill hdata hlength
    (show (BitVec.ofNat 64 (0x1000 * page)).toNat % 0x1000 = 0 by rw [hvaddr]; omega)
    (by rw [hvaddr, Nat.mul_div_cancel_left _ (by decide)]; exact h.touched) hstop
  have ha' : 0x1000 * page + a.toNat % 0x1000 = a.toNat := by omega
  unfold byteAt frameBytes
  rw [h.init]
  dsimp only
  rw [hfill]
  dsimp only
  rw [hbytes _ (Nat.mod_lt _ (by decide)), hvaddr, ha']

/-- The segment that has a page is the only one. -/
lemma apart_unique {segs : List FileSegment} {i j page : Nat} {s s' : FileSegment}
    (h : segs.Pairwise fun s s' => ∀ page, ¬ ((Segment.ofFile s).Touches page ∧ (Segment.ofFile s').Touches page))
    (hi : segs[i]? = some s) (hj : segs[j]? = some s') (hs : (Segment.ofFile s).Touches page)
    (hs' : (Segment.ofFile s').Touches page) : i = j := by
  obtain ⟨hilt, rfl⟩ := List.getElem?_eq_some_iff.mp hi
  obtain ⟨hjlt, rfl⟩ := List.getElem?_eq_some_iff.mp hj
  rw [List.pairwise_iff_getElem] at h
  rcases Nat.lt_trichotomy i j with hlt | heq | hlt
  · exact absurd ⟨hs, hs'⟩ (h i j hilt hjlt hlt page)
  · exact heq
  · exact absurd ⟨hs', hs⟩ (h j i hjlt hilt hlt page)

lemma OwnFrames.eq (h : OwnFrames granted) {g g' : Request} (hg : g ∈ granted) (hg' : g' ∈ granted)
    (heq : g.cap.object = g'.cap.object) : g = g' :=
  List.inj_on_of_nodup_map (List.pairwise_map.mpr h) hg hg' heq

lemma ipcRequest_covers (hipc : ipc.toNat < reach config) (frame : ObjectId) {a : Word} :
    ((ipcRequest ipc frame).page config).Covers a ↔ a.toNat / 0x1000 = ipc.toNat / 0x1000 := by
  have haligned := ((ipcRequest ipc frame).page_inReach config).aligned
  have hvaddr := (ipcRequest ipc frame).page_toNat config
  change _ = (ipc.toNat - ipc.toNat % 0x1000) % reach config at hvaddr
  rw [Nat.mod_eq_of_lt (by omega)] at hvaddr
  rw [small_covers rfl haligned, hvaddr]
  omega

lemma Program.touches_iff (hloaded : program.Loaded) {page : Nat} :
    program.Touches page ↔ page ∈ program.elf.segments.flatMap Segment.pages := by
  rw [hloaded.segments, List.mem_flatMap]
  constructor
  · rintro ⟨s, hs, htouches⟩
    exact ⟨Segment.ofFile s, List.mem_map_of_mem hs, Segment.mem_pages.mpr htouches⟩
  · rintro ⟨seg, hseg, hpage⟩
    obtain ⟨s, hs, rfl⟩ := List.mem_map.mp hseg
    exact ⟨s, hs, Segment.mem_pages.mp hpage⟩

lemma Program.SegmentsInReach.slot_eq (hreach : program.SegmentsInReach config) {page : Nat}
    (h : program.Touches page) :
    slot config page = page := by
  obtain ⟨s, hs, htouches⟩ := h
  obtain ⟨hne, -, hlt⟩ := Segment.touches_iff.mp htouches
  have hend := hreach s hs fun e => hne (by change s.memSize.toNat = 0; rw [e]; rfl)
  change 0x1000 * page < s.virtAddr.toNat + s.memSize.toNat at hlt
  exact slot_of_lt (by omega)

lemma Program.SegmentsInReach.ends (hreach : program.SegmentsInReach config) (hloaded : program.Loaded) :
    ∀ seg ∈ program.elf.segments, seg.memSize ≠ 0 → seg.Ends := by
  have hle := reach_le config
  rw [hloaded.segments, List.forall_mem_map]
  intro s hs hne
  have hend := hreach s hs hne
  change s.virtAddr.toNat + s.memSize.toNat + 0x1000 ≤ 2 ^ 64
  omega

section loads

variable (h : Loads config elfId program.elf.segments c v granted) (hloaded : program.Loaded)
  (hreach : program.SegmentsInReach config)

include h hloaded hreach

lemma Loads.pageOf {g : Request} (hg : g ∈ granted) : ∃ i s page, program.segments[i]? = some s ∧
    PageOf config elfId i (Segment.ofFile s) c g page ∧ ∀ a : Word, g.Covers a ↔ a.toNat / 0x1000 = page := by
  obtain ⟨i, seg, page, hi, hpage⟩ := h.pages g hg
  rw [hloaded.segments, List.getElem?_map, Option.map_eq_some_iff] at hi
  obtain ⟨s, hi, rfl⟩ := hi
  refine ⟨i, s, page, hi, hpage, fun a => ?_⟩
  have hslot := hreach.slot_eq ⟨s, List.mem_of_getElem? hi, hpage.touched⟩
  rw [small_covers hpage.size (by rw [hpage.vaddr]; exact Nat.mul_mod_right _ _), hpage.vaddr,
    Nat.mul_div_cancel_left _ (by decide), hslot]

lemma Loads.covered {a : Word} (ha : program.Touches (a.toNat / 0x1000)) : ∃ g ∈ granted, g.Covers a := by
  have htaken : PageTaken granted (a.toNat / 0x1000) := by
    refine (h.taken _).mpr (.inl (List.mem_map.mpr ⟨_, ?_, hreach.slot_eq ha⟩))
    rw [mapped_eq (hreach.ends hloaded)]
    exact (Program.touches_iff hloaded).mp ha
  obtain ⟨g, hg, b, hb, e⟩ := htaken
  obtain ⟨i, s, page, -, -, hcovers⟩ := h.pageOf hloaded hreach hg
  exact ⟨g, hg, (hcovers a).mpr (by rw [← e, (hcovers b).mp hb])⟩

/-- What a page of the program holds at an address. -/
lemma Loads.holds (hprogram : programs[elfId]? = some program) (hkeep : KeepsFrames c c')
    {g : Request} (hg : g ∈ granted) {a : Word} (ha : g.Covers a) : ∃ i s data page, program.segments[i]? = some s ∧
      (Segment.ofFile s).Touches (a.toNat / 0x1000) ∧ PageOf config elfId i (Segment.ofFile s) c' g page ∧
        s.data = .realData data ∧ data.length = s.memSize.toNat ∧ byteAt programs c' g.cap.object a =
          some (if (Segment.ofFile s).Contains a.toNat then data.getD (a.toNat - s.virtAddr.toNat) 0 else 0) := by
  obtain ⟨i, s, page, hi, hpage, hcovers⟩ := h.pageOf hloaded hreach hg
  obtain ⟨data, hdata, hsegment, hlength⟩ := hloaded.data hprogram hi
  have hquot := (hcovers a).mp ha
  have hne : s.memSize.toNat ≠ 0 := (Segment.touches_iff.mp hpage.touched).1
  have hstop := hreach s (List.mem_of_getElem? hi) fun e => hne (by rw [e]; rfl)
  have hle := reach_le config
  have hlt : (Segment.ofFile s).virtAddr.toNat + (Segment.ofFile s).memSize.toNat < 2 ^ 63 := by
    change s.virtAddr.toNat + s.memSize.toNat < 2 ^ 63
    omega
  refine ⟨i, s, data, page, hi, hquot ▸ hpage.touched, hpage.keep hkeep, hdata, hlength.symm, ?_⟩
  exact (hpage.keep hkeep).byteAt_eq hsegment hlength.symm hlt hquot

/-- What is loaded page by page is mapped address by address. -/
lemma Loads.maps (hprogram : programs[elfId]? = some program)
    (hapart : program.segments.Pairwise fun s s' =>
      ∀ page, ¬ ((Segment.ofFile s).Touches page ∧ (Segment.ofFile s').Touches page))
    (hbuf : program.ipcBuffer = some ipc) (hipcReach : ipc.toNat < reach config)
    (hspace : Space config c' v ((ipcRequest ipc c.objects.length).page config :: granted)) (hkeep : KeepsFrames c c') :
    Maps config programs program c' v := by
  have hipc := fun {a : Word} => ipcRequest_covers hipcReach c.objects.length (a := a)
  have hown : OwnFrames ((ipcRequest ipc c.objects.length).page config :: granted) :=
    .cons (fun g hg => (h.space.object_lt g hg).ne') h.own
  constructor
  · intro s hs a ha
    have htouches : (Segment.ofFile s).Touches (a.toNat / 0x1000) := ⟨a.toNat, ha, rfl⟩
    obtain ⟨g, hg, hga⟩ := h.covered hloaded hreach ⟨s, hs, htouches⟩
    obtain ⟨i, s', data, page, hi, htouches', hpage, hdata, hlength,
      hbyte⟩ := h.holds hloaded hreach hprogram hkeep hg hga
    obtain ⟨j, hj⟩ := List.mem_iff_getElem?.mp hs
    obtain rfl := apart_unique hapart hj hi htouches htouches'
    obtain rfl := Option.some.inj (hj.symm.trans hi)
    refine ⟨g.cap.object, data, ?_, hdata, ?_⟩
    · refine hspace.translate_iff.mpr ⟨g, List.mem_cons_of_mem _ hg, hga, ?_⟩
      exact congrArg Cap.frame hpage.cap.symm
    · have hlt : a.toNat - s.virtAddr.toNat < data.length := by
        have hcontains : s.virtAddr.toNat ≤ a.toNat ∧ a.toNat < s.virtAddr.toNat + s.memSize.toNat := ha
        omega
      rw [hbyte, if_pos ha, List.getD_eq_getElem?_getD, List.getElem?_eq_getElem hlt]
      rfl
  · intro a htouches hout
    obtain ⟨g, hg, hga⟩ := h.covered hloaded hreach htouches
    obtain ⟨i, s, data, page, hi, -, -, -, -, hbyte⟩ := h.holds hloaded hreach hprogram hkeep hg hga
    refine ⟨g.cap, hspace.translate_iff.mpr ⟨g, List.mem_cons_of_mem _ hg, hga, rfl⟩, ?_⟩
    rw [hbyte, if_neg (hout s (List.mem_of_getElem? hi))]
  · intro a b cap cap' ha hb heq
    obtain ⟨g, hg, hga, e⟩ := hspace.translate_iff.mp ha
    obtain rfl := Cap.frame.inj e
    obtain ⟨g', hg', hgb, e⟩ := hspace.translate_iff.mp hb
    obtain rfl := Cap.frame.inj e
    obtain rfl := hown.eq hg hg' heq
    rcases List.mem_cons.mp hg with rfl | hg
    · rw [hipc.mp hga, hipc.mp hgb]
    · obtain ⟨i, s, page, -, -, hcovers⟩ := h.pageOf hloaded hreach hg
      rw [(hcovers a).mp hga, (hcovers b).mp hgb]
  · intro a hout hbuffer
    cases htranslate : translate config c' v a with
    | none => rfl
    | some cap =>
      obtain ⟨g, hg, hga, -⟩ := hspace.translate_iff.mp htranslate
      rcases List.mem_cons.mp hg with rfl | hg
      · exact absurd (hipc.mp hga) (hbuffer ipc hbuf)
      · obtain ⟨i, s, -, -, hi, htouches, -⟩ := h.holds hloaded hreach hprogram hkeep hg hga
        exact absurd ⟨s, List.mem_of_getElem? hi, htouches⟩ hout

end loads

/-- Beyond the reach, nothing is mapped. -/
lemma Maps.segments_inReach (h : Maps config programs program c v) {s : FileSegment} (hs : s ∈ program.segments)
    (hne : s.memSize ≠ 0) : s.virtAddr.toNat + s.memSize.toNat ≤ reach config := by
  by_contra hover
  have hpos : s.memSize.toNat ≠ 0 := fun e => hne (BitVec.eq_of_toNat_eq e)
  have hle := reach_le config
  have hlt := s.virtAddr.isLt
  let a : Word := BitVec.ofNat 64 (max s.virtAddr.toNat (reach config))
  have ha : a.toNat = max s.virtAddr.toNat (reach config) := by
    rw [BitVec.toNat_ofNat, Nat.mod_eq_of_lt (by omega)]
  have hcontains : (Segment.ofFile s).Contains a.toNat := by
    change s.virtAddr.toNat ≤ a.toNat ∧ a.toNat < s.virtAddr.toNat + s.memSize.toNat
    omega
  obtain ⟨frame, data, htranslate, -⟩ := h.bytes s hs a hcontains
  have hreach := translate_lt htranslate
  omega

/-- The IPC buffer is at its address, if that is no other page of the program. -/
lemma Maps.ipcBuffer_inReach {frame : ObjectId} (h : Maps config programs program c v)
    (hbuf : program.ipcBuffer = some ipc) (hspace : Space config c v ((ipcRequest ipc frame).page config :: granted))
    (hfree : ¬ program.Touches (((ipcRequest ipc frame).page config).vaddr.toNat / 0x1000)) :
    ipc.toNat < reach config := by
  by_contra hover
  have hinReach := (ipcRequest ipc frame).page_inReach config
  have hdvd := size_dvd_reach config .small
  change 0x1000 ∣ reach config at hdvd
  have hmapped : translate config c v ((ipcRequest ipc frame).page config).vaddr = some (.frame _) :=
    hspace.translate_iff.mpr ⟨_, List.mem_cons_self, Request.covers_self _, rfl⟩
  have hnone := h.nothing _ hfree fun ipc' hbuf' => by
    obtain rfl := Option.some.inj (hbuf.symm.trans hbuf')
    have hlt := hinReach.lt
    omega
  cases hnone.symm.trans hmapped

lemma Program.SegmentsInReach.ipcBuffer_free (hreach : program.SegmentsInReach config) (hloaded : program.Loaded)
    (hfit : Fit config [] (program.elf.pages ipc)) : ¬ program.Touches (slot config (ipc.toNat / 0x1000)) := by
  intro htouches
  have hnodup := hfit.2
  unfold Elf.pages at hnodup
  rw [List.map_append, List.nodup_append] at hnodup
  refine hnodup.2.2 _ (List.mem_map.mpr ⟨_, (Program.touches_iff hloaded).mp htouches,
    hreach.slot_eq htouches⟩) _ ?_ rfl
  exact List.mem_map_of_mem List.mem_cons_self

/-- Segments that share no page fit. -/
lemma Program.InReach.fit (hreach : program.InReach config) (hloaded : program.Loaded)
    (hapart : program.segments.Pairwise fun s s' =>
      ∀ page, ¬ ((Segment.ofFile s).Touches page ∧ (Segment.ofFile s').Touches page))
    (hbuf : program.ipcBuffer = some ipc) (hfree : ¬ program.Touches (ipc.toNat / 0x1000)) :
    Fit config [] (program.elf.pages ipc) := by
  refine ⟨fun page _ htaken => ?_, ?_⟩
  · obtain ⟨g, hg, -⟩ := htaken
    cases hg
  have hlt := hreach.ipcBuffer ipc hbuf
  have hslots : (program.elf.pages ipc).map (slot config) = program.elf.pages ipc := by
    refine (List.map_congr_left fun page hpage => ?_).trans (List.map_id _)
    rcases List.mem_append.mp hpage with hpage | hpage
    · exact hreach.segments.slot_eq ((Program.touches_iff hloaded).mpr hpage)
    · obtain rfl := List.mem_singleton.mp hpage
      exact slot_of_lt (by omega)
  rw [hslots]
  unfold Elf.pages
  refine List.nodup_append.mpr ⟨List.nodup_flatMap.mpr ⟨fun seg _ => ?_, ?_⟩, List.nodup_singleton _,
    fun page hpage page' hpage' e => ?_⟩
  · unfold Segment.pages
    split_ifs
    · exact List.nodup_nil
    · exact List.nodup_range' ..
  · rw [hloaded.segments, List.pairwise_map]
    exact hapart.imp fun h page hpage hpage' => h page ⟨Segment.mem_pages.mp hpage, Segment.mem_pages.mp hpage'⟩
  · obtain rfl := List.mem_singleton.mp hpage'
    exact hfree (e ▸ (Program.touches_iff hloaded).mpr hpage)

lemma Program.Loaded.sizes (h : program.Loaded) : ∀ seg ∈ program.elf.segments, seg.memSize.toNat < 2 ^ 63 := by
  rw [h.segments, List.forall_mem_map]
  intro s hs
  obtain ⟨-, data, hdata, hlt⟩ := h s hs
  change s.memSize.toNat < 2 ^ 63
  unfold Image.ElfSegment.memSize
  rw [hdata]
  change (BitVec.ofNat 64 data.length).toNat < 2 ^ 63
  rw [BitVec.toNat_ofNat]
  omega

lemma Program.Loaded.initialised (h : program.Loaded) : ∀ seg ∈ program.elf.segments, seg.uninitialised = false := by
  rw [h.segments, List.forall_mem_map]
  intro s hs
  obtain ⟨-, data, hdata, -⟩ := h s hs
  change s.isUninitialised = false
  unfold FileSegment.isUninitialised
  rw [hdata]

end reach

/-- Bytes, rights and zeros are where the program says, exactly if the page tables have indices for its addresses. Only the
IPC buffer on a page of a segment keeps such a program from being loaded. -/
theorem addElfToSpec_maps_iff (config : Config) (pdName : String) (pdCpu : Nat) (c : Container)
    {programs : List Program}
    {elfId : Nat} {program : Program} (hprogram : programs[elfId]? = some program) (hloaded : program.Loaded)
    (hapart : program.segments.Pairwise fun s s' =>
      ∀ page, ¬ ((Segment.ofFile s).Touches page ∧ (Segment.ofFile s').Touches page)) :
    (∀ tcb c', addElfToSpec config pdName pdCpu elfId program.elf c = .ok tcb c' →
      ((∃ v, boundVspace c' tcb = some v ∧ Maps config programs program c' v) ↔ program.InReach config)) ∧
    (program.InReach config → (∃ ipc, program.ipcBuffer = some ipc ∧ ¬ program.Touches (ipc.toNat / 0x1000)) →
      ∃ tcb c', addElfToSpec config pdName pdCpu elfId program.elf c = .ok tcb c') := by
  have hrun := fun {ipc} (hbuf : program.ipcBuffer = some ipc) =>
    addElfToSpec_run config pdName pdCpu elfId c hloaded.initialised hloaded.sizes hbuf
  refine ⟨fun tcb c' h => ⟨?_, fun hreach => ?_⟩, ?_⟩
  · rintro ⟨v, hv, hmaps⟩
    have hsegs : program.SegmentsInReach config := fun s hs hne => hmaps.segments_inReach hs hne
    refine ⟨hsegs, fun ipc hbuf => ?_⟩
    rcases hrun hbuf with ⟨hfit, tcb', c1, c2, v', granted, hok, hbound, hloads, -, hspace, -⟩ | ⟨-, message, c2, herr⟩
    · obtain ⟨rfl, rfl⟩ := EStateM.Result.ok.inj (h.symm.trans hok)
      obtain rfl := Option.some.inj (hv.symm.trans hbound)
      refine hmaps.ipcBuffer_inReach hbuf hspace ?_
      rw [Request.page_small config rfl, Nat.mul_div_cancel_left _ (by decide)]
      exact Program.SegmentsInReach.ipcBuffer_free hsegs hloaded ((Elf.fits_iff (hsegs.ends hloaded)).mp hfit)
    · cases h.symm.trans herr
  · obtain ⟨ipc, hbuf⟩ := addElfToSpec_buffer h
    rcases hrun hbuf with
      ⟨hfit, tcb', c1, c2, v, granted, hok, hbound, hloads, hkeep, hspace, -⟩ | ⟨-, message, c2, herr⟩
    · obtain ⟨rfl, rfl⟩ := EStateM.Result.ok.inj (h.symm.trans hok)
      exact ⟨v, hbound, hloads.maps hloaded hreach.segments hprogram hapart hbuf (hreach.ipcBuffer ipc hbuf)
        hspace hkeep⟩
    · cases h.symm.trans herr
  · rintro hreach ⟨ipc, hbuf, hfree⟩
    rcases hrun hbuf with ⟨-, tcb, c1, c', v, granted, hok, -⟩ | ⟨hunfit, -⟩
    · exact ⟨tcb, c', hok⟩
    · exact absurd ((Elf.fits_iff (hreach.segments.ends hloaded)).mpr (hreach.fit hloaded hapart hbuf hfree)) hunfit

/-- Two segments, the first over two pages. -/
theorem addElfToSpec_maps_iff_two :
    let config : Config := ⟨.aarch64, true, false, 1, some 40, none, ⟨11, 4, 6, 5, 13, 12, 21, 12, 12⟩,
      fun _ => .inl rfl⟩
    let program : Program :=
      ⟨0x201ffe, [⟨⟨.realData [1, 2, 3], 0x201ffe, 0x201ffe, true⟩, 5⟩, ⟨⟨.realData [4], 0x203010, 0x203010, true⟩, 6⟩],
        some 0x204000⟩
    ∃ tcb c' v, addElfToSpec config "pd" 0 0 program.elf ⟨[], []⟩ = .ok tcb c' ∧ boundVspace c' tcb = some v ∧
      Maps config [program] program c' v := by
  intro config program
  have hreach : program.InReach config := by
    refine ⟨?_, fun ipc hipc => ?_⟩
    · intro s hs _
      fin_cases hs <;> decide
    · obtain rfl := Option.some.inj hipc
      decide
  have hloaded : program.Loaded := by
    intro s hs
    fin_cases hs <;> exact ⟨rfl, _, rfl, by decide⟩
  have htouches : ∀ {s : FileSegment} {page : Nat}, (Segment.ofFile s).Touches page →
      s.virtAddr.toNat / 0x1000 ≤ page ∧ 0x1000 * page < s.virtAddr.toNat + s.memSize.toNat :=
    fun h => (Segment.touches_iff.mp h).2
  obtain ⟨hiff, hok⟩ := addElfToSpec_maps_iff config "pd" 0 ⟨[], []⟩ (show [program][0]? =
    some program from rfl) hloaded
    (List.pairwise_pair.mpr fun page h => by
      have h1 := (htouches h.1).2
      have h2 := (htouches h.2).1
      change 0x1000 * page < 0x201ffe + 3 at h1
      change 0x203010 / 0x1000 ≤ page at h2
      omega)
  obtain ⟨tcb, c', hrun⟩ := hok hreach ⟨0x204000, rfl, by
    rintro ⟨s, hs, h⟩
    have h := (htouches h).2
    fin_cases hs
    · exact absurd h (by decide)
    · exact absurd h (by decide)⟩
  obtain ⟨v, hbound, hmaps⟩ := (hiff tcb c' hrun).mpr hreach
  exact ⟨tcb, c', v, hrun, hbound, hmaps⟩

/-- The address of the segment is beyond the reach, and its page is mapped at address 0. -/
theorem addElfToSpec_aliased :
    let config : Config := ⟨.aarch64, true, false, 1, some 40, none, ⟨11, 4, 6, 5, 13, 12, 21, 12, 12⟩,
      fun _ => .inl rfl⟩
    let program : Program := ⟨0x1000000000000, [⟨⟨.realData [1], 0, 0x1000000000000, true⟩, 5⟩], some 0x204000⟩
    program.Loaded ∧ program.segments.Pairwise (fun s s' =>
      ∀ page, ¬ ((Segment.ofFile s).Touches page ∧ (Segment.ofFile s').Touches page)) ∧
    ∃ tcb c' v, addElfToSpec config "pd" 0 0 program.elf ⟨[], []⟩ = .ok tcb c' ∧
      boundVspace c' tcb = some v ∧ ¬ Maps config [program] program c' v := by
  intro config program
  have hloaded : program.Loaded := by
    intro s hs
    fin_cases hs
    exact ⟨rfl, _, rfl, by decide⟩
  have hfit : program.elf.Fits config 0x204000 := by
    refine ⟨⟨fun page _ htaken => ?_, by decide⟩, by decide⟩
    obtain ⟨g, hg, -⟩ := htaken
    cases hg
  rcases addElfToSpec_run config "pd" 0 0 ⟨[], []⟩ hloaded.initialised hloaded.sizes rfl with
    ⟨-, tcb, -, c', v, -, hrun, hbound, -⟩ | ⟨hunfit, -⟩
  · refine ⟨hloaded, List.pairwise_singleton _ _, tcb, c', v, hrun, hbound, fun hmaps => ?_⟩
    have hend := hmaps.segments_inReach (s := ⟨⟨.realData [1], 0, 0x1000000000000, true⟩, 5⟩)
      List.mem_cons_self (by decide)
    exact absurd hend (by decide)
  · exact absurd hfit hunfit

end NexsKernel.Capdl
