import Mathlib.Data.List.TakeWhile
import NexsKernel.Capdl.ElfFrames
import NexsKernel.Capdl.Frames
import NexsKernel.Sdf.Ranges

/-!
# Conflicts in an address space

The builder maps the program of a protection domain, then its memory regions, and then its stack. A map that overlaps the
stack or a segment is refused with an error, but the check has the wrong idea of the pages of a segment that is not
aligned, and knows nothing of the IPC buffer; and what the page tables refuse becomes a panic. `mapPd_outcome` says how the
three steps end, and `buildCapdlSpec_reports_iff` when conflicts are reported as the errors that they should be.
-/

namespace NexsKernel.Capdl

open Sdf Failing

/-! ## The mapping steps -/

/-- Steps 3-1 to 3-3, for the protection domain at `idx`: its TCB and its address space. -/
def mapPd (config : Config) (frames : List (String × List ObjectId)) (pd : ProtectionDomain) (idx : Nat) (elf : Elf) :
    M (ObjectId × ObjectId) := do
  let tcb ← unwrapResult (addElfToSpec config pd.name pd.cpu idx elf)
  let vspace ← getVspaceIdFromTcbId tcb
  pd.maps.forM (mapInPd config frames pd elf vspace)
  (List.range (pd.stackSize / Sdf.PageSize.small.bytes).toNat).forM (mapStackFrame config pd vspace)
  return (tcb, vspace)

/-- They are the first steps for a protection domain. -/
lemma buildPd_error {config : Config} {elfs : List Elf} {channels : List Channel} {monitor : Monitor}
    {frames : List (String × List ObjectId)} {armSmc : Option ObjectId} {tables : PdTables}
    {pd : ProtectionDomain} {idx : Nat} {elf : Elf} {c c' : Container} {e : Failure} (helf : elfs[idx]? = some elf)
    (h : mapPd config frames pd idx elf c = .error e c') :
    buildPd config elfs channels monitor frames armSmc tables (pd, idx) c = .error e c' := by
  have hfirst : unwrapOption elfs[idx]? c = .ok elf c := by
    rw [helf]
    rfl
  unfold buildPd
  refine (bind_ok hfirst).trans ?_
  rcases error_bind h with h | ⟨tcb, c1, htcb, h⟩
  · exact bind_error h
  refine (bind_ok htcb).trans ?_
  rcases error_bind h with h | ⟨vspace, c2, hvspace, h⟩
  · exact bind_error h
  refine (bind_ok hvspace).trans ?_
  rcases error_bind h with h | ⟨u, c3, hmaps, h⟩
  · exact bind_error h
  refine (bind_ok hmaps).trans ?_
  rcases error_bind h with h | ⟨u, c4, -, h⟩
  · exact bind_error h
  · cases h

/-! ## Pages -/

/-- The small pages of a page of some size. -/
def pagesAt (size : Sdf.PageSize) (vaddr : Word) : List Nat :=
  List.range' (vaddr.toNat / size.bytes.toNat * (size.bytes.toNat / 0x1000)) (size.bytes.toNat / 0x1000)

/-- Those of pages that follow each other. -/
def pagesFrom (size : Sdf.PageSize) (vaddr : Word) (count : Nat) : List Nat :=
  (List.range count).flatMap fun i => pagesAt size (vaddr + BitVec.ofNat 64 i * size.bytes)

/-- The pages of a map. -/
def mapPages (mrs : List SysMemoryRegion) (map : SysMap) : List Nat :=
  match findMr mrs map with
  | some mr => pagesFrom mr.pageSize map.vaddr mr.pageCount.toNat
  | none => []

def stackPages (config : Config) (pd : ProtectionDomain) : List Nat :=
  pagesFrom .small (config.pdStackBottom pd.stackSize) (pd.stackSize / Sdf.PageSize.small.bytes).toNat

lemma pagesFrom_succ (size : Sdf.PageSize) (vaddr : Word) (count : Nat) :
    pagesFrom size vaddr (count + 1) = pagesAt size vaddr ++ pagesFrom size (vaddr + size.bytes) count := by
  unfold pagesFrom
  rw [List.range_succ_eq_map, List.flatMap_cons, List.flatMap_map, BitVec.zero_mul, BitVec.add_zero]
  congr 1
  refine List.flatMap_congr fun i _ => ?_
  have hstep : BitVec.ofNat 64 (i + 1) * size.bytes = size.bytes + BitVec.ofNat 64 i * size.bytes := by
    rw [BitVec.ofNat_add, BitVec.add_mul, BitVec.one_mul, BitVec.add_comm]
  rw [hstep, BitVec.add_assoc]

/-! ## Mapping or panicking -/

section mapping

variable {config : Config} {v : ObjectId} {base : Container} {pages pages' : List Nat}

/-- A part of the builder that maps these pages, and panics if they are not free. The frames of `base` are there. -/
structure MapsPages (config : Config) (v : ObjectId) (base : Container) (m : M Unit) (pages : List Nat) : Prop where
  run : ∀ {c granted}, FramesStay base c → Space config c v granted →
    (Fit config granted pages ∧ ∃ c' granted', m c = .ok () c' ∧ FramesStay base c' ∧ Space config c' v granted' ∧
      Extends config granted pages granted') ∨
    (¬ Fit config granted pages ∧ ∃ message c', m c = .error (.panicked message) c')

lemma MapsPages.pure : MapsPages config v base (pure ()) [] :=
  ⟨fun hstay h => .inl ⟨fit_nil, _, _, rfl, hstay, h, .refl _ _⟩⟩

/-- One after the other. -/
lemma MapsPages.bind {m : M Unit} {k : Unit → M Unit} (hm : MapsPages config v base m pages)
    (hk : MapsPages config v base (k ()) pages') : MapsPages config v base (m >>= k) (pages ++ pages') := by
  refine ⟨fun {c granted} hstay h => ?_⟩
  rcases hm.run hstay h with ⟨hfit, c1, granted1, hrun, hstay1, h1, hextends⟩ | ⟨hunfit, message, c', hrun⟩
  · rw [hextends.fit_append]
    rcases hk.run hstay1 h1 with ⟨hfit', c2, granted2, hrun', hstay2, h2, hextends'⟩ | ⟨hunfit, message, c', hrun'⟩
    · exact .inl ⟨⟨hfit, hfit'⟩, c2, granted2, (bind_ok hrun).trans hrun', hstay2, h2, hextends.trans hextends'⟩
    · exact .inr ⟨fun hfit => hunfit hfit.2, message, c', (bind_ok hrun).trans hrun'⟩
  · exact .inr ⟨fun hfit => hunfit hfit.left, message, c', bind_error hrun⟩

lemma MapsPages.forM {α : Type} {f : α → M Unit} {pagesOf : α → List Nat} {xs : List α}
    (hf : ∀ x ∈ xs, MapsPages config v base (f x) (pagesOf x)) :
    MapsPages config v base (xs.forM f) (xs.flatMap pagesOf) := by
  induction xs with
  | nil => exact .pure
  | cons x xs ih => exact .bind (hf x List.mem_cons_self) (ih fun y hy => hf y (List.mem_cons_of_mem x hy))

/-- What refuses a page panics. -/
lemma mapPage_mapsPages (pdName : String) (cap : FrameCap) (size : Sdf.PageSize) (vaddr : Word)
    (hframe : ∃ name sizeBits paddr init, base.objects[cap.object]? = some ⟨name, .frame sizeBits paddr init⟩) :
    MapsPages config v base (unwrapResult (mapPage config pdName v (.frame cap) size vaddr)) (pagesAt size vaddr) := by
  refine ⟨fun {c granted} hstay h => ?_⟩
  obtain ⟨name, sizeBits, paddr, init, hobj⟩ := hframe
  let r : Request := ⟨vaddr, size, cap⟩
  rcases h.map_or_refuse pdName (r := r) ⟨name, sizeBits, paddr, init, hstay _ _ _ _ _ hobj⟩ with
    ⟨hfit, c', hrun, h'⟩ | ⟨hunfit, reason, hrun⟩
  · refine .inl ⟨hfit, c', r.page config :: granted, ?_, ?_, h', .page config granted r⟩
    · unfold unwrapResult
      rw [hrun]
    · exact trans_of FramesStay hstay ((mapPage_stay ..).step hrun)
  · refine .inr ⟨hunfit, s!"called `Result::unwrap()` on an `Err` value: {reason}", c, ?_⟩
    unfold unwrapResult
    rw [hrun]

/-- One frame of the stack. -/
lemma mapStackFrame_mapsPages (pd : ProtectionDomain) (seq : Nat) :
    MapsPages config v base (mapStackFrame config pd v seq)
    (pagesAt .small (config.pdStackBottom pd.stackSize + BitVec.ofNat 64 seq * Sdf.PageSize.small.bytes)) := by
  refine ⟨fun {c granted} hstay h => ?_⟩
  let name := s!"{pd.name}_stack_{pad9 seq}"
  let obj : NamedObject := ⟨s!"frame_{name}", .frame (fixedSizeBits config .small) none []⟩
  have hframe : makeFrameObj [] s!"{pd.name}_stack_{pad9 seq}" none (fixedSizeBits config .small) c =
      .ok c.objects.length (c.push obj) := rfl
  have hobj : (c.push obj).objects[c.objects.length]? = some obj := push_last c obj
  have hmap : MapsPages config v (c.push obj) _ _ := mapPage_mapsPages pd.name
    ⟨c.objects.length, ⟨true, true, false, false⟩, true, false⟩ .small
    (config.pdStackBottom pd.stackSize + BitVec.ofNat 64 seq * Sdf.PageSize.small.bytes) ⟨_, _, _, _, hobj⟩
  rcases hmap.run (refl _) (h.push obj) with ⟨hfit, c', granted', hrun, hstay', h', hextends⟩ | ⟨hunfit,
    message, c', hrun⟩
  · exact .inl ⟨hfit, c', granted', (bind_ok hframe).trans hrun,
      trans_of FramesStay (trans_of FramesStay hstay (.push c obj)) hstay', h', hextends⟩
  · exact .inr ⟨hunfit, message, c', (bind_ok hframe).trans hrun⟩

lemma mapStack_mapsPages (pd : ProtectionDomain) : MapsPages config v base
    ((List.range (pd.stackSize / Sdf.PageSize.small.bytes).toNat).forM (mapStackFrame config pd v))
    (stackPages config pd) :=
  .forM fun seq _ => mapStackFrame_mapsPages pd seq

end mapping

/-! ## Maps -/

/-- The sizes of the objects that pages are made of, as every kernel has them. -/
structure PageObjects (config : Config) : Prop where
  small : config.objectSizes.smallPage = 12
  large : config.objectSizes.largePage = 21

/-- The memory region of a map has no pages. -/
def mapEmpty (mrs : List SysMemoryRegion) (map : SysMap) : Bool :=
  match findMr mrs map with
  | some mr => mr.pageCount == 0
  | none => true

/-- The range check of the builder fails. -/
def rangeRefused (config : Config) (pd : ProtectionDomain) (elf : Elf) (range : Word × Word) : Bool :=
  rangesOverlap range (config.pdStackBottom pd.stackSize, config.pdStackTop) ||
    elf.segments.any fun seg => rangesOverlap range (seg.virtAddr, seg.virtAddr + roundUp seg.memSize 0x1000)

/-- It fails for a map. -/
def mapRefused (config : Config) (mrs : List SysMemoryRegion) (pd : ProtectionDomain) (elf : Elf)
    (map : SysMap) : Bool :=
  match findMr mrs map with
  | some mr => rangeRefused config pd elf (map.vaddr, map.vaddr + mr.pageSize.bytes * mr.pageCount)
  | none => false

section maps

variable {config : Config} {mrs : List SysMemoryRegion} {frames : List (String × List ObjectId)} {pd : ProtectionDomain}
  {elf : Elf} {v : ObjectId} {base c : Container} {map : SysMap} {mr : SysMemoryRegion}

lemma PageObjects.shift (h : PageObjects config) (size : Sdf.PageSize) :
    ((1 <<< fixedSizeBits config size : Nat) : Word) = size.bytes := by
  cases size with
  | small =>
    rw [fixedSizeBits, h.small]
    rfl
  | large =>
    rw [fixedSizeBits, h.large]
    rfl

lemma PageObjects.pageSizeOf (h : PageObjects config) (size : Sdf.PageSize) (c : Container) :
    pageSizeOf (fixedSizeBits config size) c = .ok size c := by
  cases size with
  | small =>
    rw [fixedSizeBits, h.small]
    rfl
  | large =>
    rw [fixedSizeBits, h.large]
    rfl

/-- A region is mapped page by page. -/
lemma mapMemoryRegion_mapsPages (hsizes : PageObjects config) (pdName : String) (map : SysMap) (size : Sdf.PageSize)
    (vaddr : Word) {ids : List ObjectId}
    (hids : ∀ id ∈ ids, ∃ name sizeBits paddr init, base.objects[id]? = some ⟨name, .frame sizeBits paddr init⟩) :
    MapsPages config v base (mapMemoryRegion config pdName map (fixedSizeBits config size) v vaddr ids)
      (pagesFrom size vaddr ids.length) := by
  induction ids generalizing vaddr with
  | nil => exact .pure
  | cons frame ids ih =>
    rw [List.length_cons, pagesFrom_succ, ← hsizes.shift size]
    have hfirst : MapsPages config v base _ _ := mapPage_mapsPages pdName
      ⟨frame, ⟨map.perms &&& permRead != 0, map.perms &&& permWrite != 0, false, false⟩, map.cached,
        map.perms &&& permExecute != 0⟩ size vaddr (hids frame List.mem_cons_self)
    have hrest := ih (vaddr + ((1 <<< fixedSizeBits config size : Nat) : Word)) fun id hid =>
      hids id (List.mem_cons_of_mem _ hid)
    refine ⟨fun {c granted} hstay h => ?_⟩
    have hrun := (hfirst.bind (k := fun _ => mapMemoryRegion config pdName map (fixedSizeBits config size) v
      (vaddr + ((1 <<< fixedSizeBits config size : Nat) : Word)) ids) hrest).run hstay h
    unfold mapMemoryRegion
    rwa [bind_ok (hsizes.pageSizeOf size c)]

lemma checkMapRange_refused (map : SysMap) {range : Word × Word} (h : rangeRefused config pd elf range = true)
    (c : Container) :
    ∃ reason, checkMapRange config pd elf map range c = .error (.err reason) c := by
  unfold checkMapRange
  dsimp only
  by_cases hstack : rangesOverlap range (config.pdStackBottom pd.stackSize, config.pdStackTop) = true
  · rw [if_pos hstack]
    exact ⟨_, rfl⟩
  · rw [if_neg hstack]
    have hany := (Bool.or_eq_true_iff.mp h).resolve_left hstack
    obtain ⟨seg, hseg⟩ := Option.isSome_iff_exists.mp (List.find?_isSome.mpr (List.any_eq_true.mp hany))
    rw [hseg]
    exact ⟨_, rfl⟩

lemma checkMapRange_passed (map : SysMap) {range : Word × Word} (h : rangeRefused config pd elf range = false)
    (c : Container) :
    checkMapRange config pd elf map range c = .ok () c := by
  obtain ⟨hstack, hany⟩ := Bool.or_eq_false_iff.mp h
  have hnone : elf.segments.find? (fun seg =>
    rangesOverlap range (seg.virtAddr, seg.virtAddr + roundUp seg.memSize 0x1000)) =
      none := List.find?_eq_none.mpr (List.any_eq_false.mp hany)
  unfold checkMapRange
  dsimp only
  rw [if_neg (by rw [hstack]; exact Bool.false_ne_true)]
  rw [hnone]
  rfl

section found

variable (hframes : RegionFrames config mrs frames base) (hmr : findMr mrs map = some mr)

include hframes hmr

/-- The frames of a map are found. -/
lemma mapFrames_run (hstay : FramesStay base c) (hne : mapEmpty mrs map = false) : ∃ ids,
    ids.length = mr.pageCount.toNat ∧
    (∀ id ∈ ids, ∃ name sizeBits paddr init, base.objects[id]? = some ⟨name, .frame sizeBits paddr init⟩) ∧
      mapFrames frames map c = .ok (ids, fixedSizeBits config mr.pageSize) c := by
  obtain ⟨hmem, hname⟩ := findMr_mem hmr
  obtain ⟨ids, hlookup, hlength, hids⟩ := hframes.frames mr hmem
  refine ⟨ids, hlength, fun id hid => ?_, ?_⟩
  · obtain ⟨name, paddr, init, hobj⟩ := hids id hid
    exact ⟨name, _, paddr, init, hobj⟩
  unfold mapEmpty at hne
  rw [hmr] at hne
  cases ids with
  | nil => exact absurd (BitVec.eq_of_toNat_eq hlength.symm) (beq_eq_false_iff_ne.mp hne)
  | cons first ids =>
    obtain ⟨name, paddr, init, hobj⟩ := hids first List.mem_cons_self
    have hfound : lookupKey frames map.mr c = .ok (first :: ids) c := by
      unfold lookupKey
      rw [← hname, hlookup]
      rfl
    have hbits : getFrameSizeBits first c = .ok (fixedSizeBits config mr.pageSize) c := by
      unfold getFrameSizeBits
      rw [bind_ok (getRootObject_run (hstay _ _ _ _ _ hobj))]
      rfl
    unfold mapFrames
    rw [bind_ok hfound]
    refine (bind_ok (show unwrapOption (first :: ids).head? c = .ok first c from rfl)).trans ?_
    rw [bind_ok hbits]
    rfl

lemma mapInPd_empty (hempty : mapEmpty mrs map = true) (c : Container) :
    ∃ message, mapInPd config frames pd elf v map c = .error (.panicked message) c := by
  obtain ⟨hmem, hname⟩ := findMr_mem hmr
  obtain ⟨ids, hlookup, hlength, -⟩ := hframes.frames mr hmem
  unfold mapEmpty at hempty
  rw [hmr] at hempty
  obtain rfl : ids = [] := List.eq_nil_of_length_eq_zero (hlength.trans (congrArg BitVec.toNat (beq_iff_eq.mp hempty)))
  have hfound : lookupKey frames map.mr c = .ok [] c := by
    unfold lookupKey
    rw [← hname, hlookup]
    rfl
  have hframes : mapFrames frames map c = .error (.panicked "called `Option::unwrap()` on a `None` value") c := by
    unfold mapFrames
    rw [bind_ok hfound]
    rfl
  exact ⟨_, bind_error hframes⟩

lemma mapInPd_refused (hsizes : PageObjects config) (hstay : FramesStay base c) (hne : mapEmpty mrs map = false)
    (hrefused : mapRefused config mrs pd elf map = true) :
    ∃ reason, mapInPd config frames pd elf v map c = .error (.err reason) c := by
  obtain ⟨ids, hlength, -, hrun⟩ := mapFrames_run hframes hmr hstay hne
  unfold mapRefused at hrefused
  rw [hmr] at hrefused
  dsimp only at hrefused
  rw [← BitVec.setWidth_eq mr.pageCount, ← BitVec.ofNat_toNat, ← hlength, ← hsizes.shift] at hrefused
  obtain ⟨reason, hcheck⟩ := checkMapRange_refused map hrefused c
  exact ⟨reason, (bind_ok hrun).trans (bind_error hcheck)⟩

lemma mapInPd_mapsPages (hsizes : PageObjects config) (hne : mapEmpty mrs map = false)
    (hpassed : mapRefused config mrs pd elf map = false) :
    MapsPages config v base (mapInPd config frames pd elf v map) (mapPages mrs map) := by
  refine ⟨fun {c granted} hstay h => ?_⟩
  obtain ⟨ids, hlength, hids, hrun⟩ := mapFrames_run hframes hmr hstay hne
  unfold mapRefused at hpassed
  rw [hmr] at hpassed
  dsimp only at hpassed
  rw [← BitVec.setWidth_eq mr.pageCount, ← BitVec.ofNat_toNat, ← hlength, ← hsizes.shift] at hpassed
  have hcheck := checkMapRange_passed map hpassed c
  have hpages : mapPages mrs map = pagesFrom mr.pageSize map.vaddr ids.length := by
    unfold mapPages
    rw [hmr, hlength]
  have hmaps := (mapMemoryRegion_mapsPages (v := v) hsizes pd.name map mr.pageSize map.vaddr hids).run hstay h
  have hsame : mapInPd config frames pd elf v map c =
      mapMemoryRegion config pd.name map (fixedSizeBits config mr.pageSize) v map.vaddr ids c :=
    (bind_ok hrun).trans (bind_ok hcheck)
  rw [hpages, hsame]
  exact hmaps

end found

/-- The builder does not get past a map: its memory region has no pages, or it is refused. -/
def stopsAt (config : Config) (mrs : List SysMemoryRegion) (pd : ProtectionDomain) (elf : Elf) (map : SysMap) : Bool :=
  mapEmpty mrs map || mapRefused config mrs pd elf map

/-- The pages of the maps before the first that the builder does not get past. -/
def pagesBefore (config : Config) (mrs : List SysMemoryRegion) (pd : ProtectionDomain) (elf : Elf)
    (maps : List SysMap) :
    List Nat :=
  (maps.takeWhile fun map => !stopsAt config mrs pd elf map).flatMap (mapPages mrs)

/-- How the loop over the maps ends. -/
lemma mapsInPd_outcome (pd : ProtectionDomain) (elf : Elf) (v : ObjectId) (hsizes : PageObjects config)
    (hframes : RegionFrames config mrs frames base) {maps : List SysMap}
    (hmaps : ∀ map ∈ maps, ∃ mr, findMr mrs map = some mr) {granted : List Request} (hstay : FramesStay base c)
    (h : Space config c v granted) :
    (Fit config granted (pagesBefore config mrs pd elf maps) ∧
      (maps.find? (stopsAt config mrs pd elf) = none ∧
        (∃ c' granted', maps.forM (mapInPd config frames pd elf v) c = .ok () c' ∧
        FramesStay base c' ∧ Space config c' v granted' ∧ Extends config granted (pagesBefore config mrs pd elf maps) granted') ∨
      ∃ map, maps.find? (stopsAt config mrs pd elf) = some map ∧
        (mapEmpty mrs map = false ∧ (∃ reason c', maps.forM (mapInPd config frames pd elf v) c =
          .error (.err reason) c') ∨
          mapEmpty mrs map = true ∧ ∃ message c', maps.forM (mapInPd config frames pd elf v) c = .error (.panicked message) c'))) ∨
    (¬ Fit config granted (pagesBefore config mrs pd elf maps) ∧
      ∃ message c', maps.forM (mapInPd config frames pd elf v) c = .error (.panicked message) c') := by
  induction maps generalizing c granted with
  | nil => exact .inl ⟨fit_nil, .inl ⟨rfl, c, granted, rfl, hstay, h, .refl _ _⟩⟩
  | cons map maps ih =>
    obtain ⟨mr, hmr⟩ := hmaps map List.mem_cons_self
    have hmaps := fun map hmap => hmaps map (List.mem_cons_of_mem _ hmap)
    unfold pagesBefore
    by_cases hstops : stopsAt config mrs pd elf map = true
    · rw [List.takeWhile_cons_of_neg (p := fun map => !stopsAt config mrs pd elf map)
        (by rw [hstops]; exact Bool.false_ne_true), List.flatMap_nil, List.find?_cons_of_pos hstops]
      refine .inl ⟨fit_nil, .inr ⟨map, rfl, ?_⟩⟩
      cases hempty : mapEmpty mrs map with
      | true =>
        obtain ⟨message, hrun⟩ : ∃ message, mapInPd config frames pd elf v map c = .error (.panicked message) c :=
          mapInPd_empty hframes hmr hempty c
        exact .inr ⟨rfl, message, c, bind_error hrun⟩
      | false =>
        have hrefused : mapRefused config mrs pd elf map = true := by
          unfold stopsAt at hstops
          rwa [hempty, Bool.false_or] at hstops
        obtain ⟨reason, hrun⟩ := mapInPd_refused (v := v) hframes hmr hsizes hstay hempty hrefused
        exact .inl ⟨rfl, reason, c, bind_error hrun⟩
    · have hpasses : stopsAt config mrs pd elf map = false := Bool.eq_false_iff.mpr hstops
      obtain ⟨hne, hrefused⟩ := Bool.or_eq_false_iff.mp hpasses
      rw [List.takeWhile_cons_of_pos (p := fun map => !stopsAt config mrs pd elf map) (by rw [hpasses]; rfl),
        List.flatMap_cons, List.find?_cons_of_neg hstops]
      rcases (mapInPd_mapsPages (v := v) hframes hmr hsizes hne hrefused).run hstay h with
        ⟨hfit, c1, granted1, hrun, hstay1, h1, hextends⟩ | ⟨hunfit, message, c', hrun⟩
      · rw [hextends.fit_append]
        have hloop : (map :: maps).forM (mapInPd config frames pd elf v) c =
          maps.forM (mapInPd config frames pd elf v) c1 :=
          bind_ok hrun
        rw [hloop]
        rcases ih hmaps hstay1 h1 with ⟨hrest, hends⟩ | ⟨hrest, herr⟩
        · refine .inl ⟨⟨hfit, hrest⟩, hends.imp (fun hok => ?_) id⟩
          obtain ⟨hnone, c', granted', hrun', hstay', h', hextends'⟩ := hok
          exact ⟨hnone, c', granted', hrun', hstay', h', hextends.trans hextends'⟩
        · exact .inr ⟨fun hfit => hrest hfit.2, herr⟩
      · exact .inr ⟨fun hfit => hunfit hfit.left, message, c', bind_error hrun⟩

end maps

/-! ## Conflicts -/

/-- No two segments share a page, and none has the page of the IPC buffer. -/
structure Elf.Apart (elf : Elf) : Prop where
  segments : elf.segments.Pairwise fun s s' => ∀ page, ¬ (s.Touches page ∧ s'.Touches page)
  ipcBuffer : ∀ ipc, elf.ipcBuffer = some ipc → ∀ s ∈ elf.segments, ¬ s.Touches (ipc.toNat / 0x1000)

/-- A page of the map is one of a segment, of the IPC buffer or of the stack. -/
def MapConflicts (config : Config) (mrs : List SysMemoryRegion) (pd : ProtectionDomain) (elf : Elf)
    (map : SysMap) : Prop :=
  ∃ page ∈ mapPages mrs map, (∃ s ∈ elf.segments, s.Touches page) ∨
    (∃ ipc, elf.ipcBuffer = some ipc ∧ page = ipc.toNat / 0x1000) ∨ page ∈ stackPages config pd

def Conflicts (config : Config) (mrs : List SysMemoryRegion) (pd : ProtectionDomain) (elf : Elf) : Prop :=
  ¬ elf.Apart ∨ ∃ map ∈ pd.maps, MapConflicts config mrs pd elf map

/-- A conflict is reported as an error and never as a panic, and only a map that is in conflict is refused. -/
structure Reports (config : Config) (mrs : List SysMemoryRegion) (pd : ProtectionDomain) (elf : Elf)
    (result : EStateM.Result Failure Container (ObjectId × ObjectId)) : Prop where
  conflicts : Conflicts config mrs pd elf → ∃ reason c', result = .error (.err reason) c'
  panics : ∀ message c', result ≠ .error (.panicked message) c'
  refuses : ∀ reason c', result = .error (.err reason) c' →
    ∃ map, pd.maps.find? (stopsAt config mrs pd elf) = some map ∧ MapConflicts config mrs pd elf map

/-- When that is so: the pages that are mapped fit, the first map that the builder does not get past is in conflict, and if
there is none, then the stack fits and no segment whose end wraps around is in conflict, as these are not mapped. -/
structure Reportable (config : Config) (mrs : List SysMemoryRegion) (pd : ProtectionDomain) (elf : Elf)
    (ipc : Word) : Prop where
  bounded : ∀ seg ∈ elf.segments, seg.Bounded
  fits : Fit config [] (elf.mapped ipc ++ pagesBefore config mrs pd elf pd.maps)
  stops : ∀ map, pd.maps.find? (stopsAt config mrs pd elf) = some map → MapConflicts config mrs pd elf map
  stack : pd.maps.find? (stopsAt config mrs pd elf) = none →
    Fit config [] (elf.mapped ipc ++ pagesBefore config mrs pd elf pd.maps ++ stackPages config pd)
  apart : pd.maps.find? (stopsAt config mrs pd elf) = none → elf.Apart
  wraps : pd.maps.find? (stopsAt config mrs pd elf) = none → ∀ map ∈ pd.maps, ∀ page ∈ mapPages mrs map,
    ∀ s ∈ elf.segments, s.Wraps → ¬ s.Touches page

section outcome

variable {config : Config} {mrs : List SysMemoryRegion} {frames : List (String × List ObjectId)} {pd : ProtectionDomain}
  {idx : Nat} {elf : Elf} {c : Container} {ipc : Word}

/-- The program comes first. -/
lemma mapPd_program (pd : ProtectionDomain) (idx : Nat) (frames : List (String × List ObjectId)) (c : Container)
    (hdata : ∀ seg ∈ elf.segments, seg.uninitialised = false)
    (hsize : ∀ seg ∈ elf.segments, seg.memSize.toNat < 2 ^ 63) (hbuf : elf.ipcBuffer = some ipc) :
    (elf.Fits config ipc ∧ ∃ tcb v c' granted, FramesStay c c' ∧ Space config c' v granted ∧
      Extends config [] (elf.mapped ipc) granted ∧ mapPd config frames pd idx elf c = (do
        pd.maps.forM (mapInPd config frames pd elf v)
        (List.range (pd.stackSize / Sdf.PageSize.small.bytes).toNat).forM (mapStackFrame config pd v)
        return (tcb, v) : M (ObjectId × ObjectId)) c') ∨
    (¬ elf.Fits config ipc ∧ ∃ message c', mapPd config frames pd idx elf c = .error (.panicked message) c') := by
  rcases addElfToSpec_run config pd.name pd.cpu idx c hdata hsize hbuf with
    ⟨hfits, tcb, c1, c', v, granted, hrun, hbound, -, -, hspace, hextends⟩ | ⟨hunfit, message, c', hrun⟩
  · obtain ⟨-, -, vspace, frame, extra, hobj⟩ := (addElfToSpec_adds hrun : Adds config ⟨[], [], []⟩ [] c c' ∧ _)
    have hvspace : getVspaceIdFromTcbId tcb c' = .ok v c' := by
      obtain rfl : vspace = v := by
        unfold boundVspace at hbound
        rw [hobj] at hbound
        exact Option.some.inj hbound
      unfold getVspaceIdFromTcbId
      rw [bind_ok (getRootObject_run hobj)]
      rfl
    have hunwrap : unwrapResult (addElfToSpec config pd.name pd.cpu idx elf) c = .ok tcb c' := by
      unfold unwrapResult
      rw [hrun]
    refine .inl ⟨hfits, tcb, v, c', _, (addElfToSpec_stay ..).step hrun, hspace, hextends, ?_⟩
    exact (bind_ok hunwrap).trans (bind_ok hvspace)
  · have hunwrap : unwrapResult (addElfToSpec config pd.name pd.cpu idx elf) c =
        .error (.panicked s!"called `Result::unwrap()` on an `Err` value: {message}") c' := by
      unfold unwrapResult
      rw [hrun]
    exact .inr ⟨hunfit, _, c', bind_error hunwrap⟩

/-- A program without an IPC buffer panics. -/
lemma mapPd_noBuffer (config : Config) (pd : ProtectionDomain) (idx : Nat) (frames : List (String × List ObjectId))
    (c : Container) (hbuf : elf.ipcBuffer = none) :
    ∃ message c', mapPd config frames pd idx elf c = .error (.panicked message) c' := by
  cases hrun : addElfToSpec config pd.name pd.cpu idx elf c with
  | ok tcb c' =>
    obtain ⟨ipc, hipc⟩ := addElfToSpec_buffer hrun
    cases hbuf.symm.trans hipc
  | error e c' =>
    have hunwrap : ∃ message, unwrapResult (addElfToSpec config pd.name pd.cpu idx elf) c =
      .error (.panicked message) c' := by
      unfold unwrapResult
      rw [hrun]
      cases e with
      | err reason => exact ⟨_, rfl⟩
      | panicked message => exact ⟨message, rfl⟩
    obtain ⟨message, hunwrap⟩ := hunwrap
    exact ⟨message, c', bind_error hunwrap⟩

/-- How the mapping steps end. -/
lemma mapPd_outcome (pd : ProtectionDomain) (idx : Nat) (hsizes : PageObjects config)
    (hframes : RegionFrames config mrs frames c)
    (hmaps : ∀ map ∈ pd.maps, ∃ mr, findMr mrs map = some mr) (hdata : ∀ seg ∈ elf.segments, seg.uninitialised = false)
    (hsize : ∀ seg ∈ elf.segments, seg.memSize.toNat < 2 ^ 63) (hbuf : elf.ipcBuffer = some ipc) :
    ((∀ seg ∈ elf.segments, seg.Bounded) ∧ Fit config [] (elf.mapped ipc ++ pagesBefore config mrs pd elf pd.maps) ∧
      (pd.maps.find? (stopsAt config mrs pd elf) = none ∧
        (Fit config [] (elf.mapped ipc ++ pagesBefore config mrs pd elf pd.maps ++ stackPages config pd) ∧
            (∃ r c', mapPd config frames pd idx elf c = .ok r c') ∨
          ¬ Fit config [] (elf.mapped ipc ++ pagesBefore config mrs pd elf pd.maps ++ stackPages config pd) ∧
            ∃ message c', mapPd config frames pd idx elf c = .error (.panicked message) c') ∨
      ∃ map, pd.maps.find? (stopsAt config mrs pd elf) = some map ∧
        (mapEmpty mrs map = false ∧ (∃ reason c', mapPd config frames pd idx elf c = .error (.err reason) c') ∨
          mapEmpty mrs map = true ∧ ∃ message c', mapPd config frames pd idx elf c = .error (.panicked message) c'))) ∨
    (¬ ((∀ seg ∈ elf.segments, seg.Bounded) ∧ Fit config [] (elf.mapped ipc ++ pagesBefore config mrs pd elf pd.maps)) ∧
      ∃ message c', mapPd config frames pd idx elf c = .error (.panicked message) c') := by
  rcases mapPd_program pd idx frames c hdata hsize hbuf with
    ⟨⟨hprogram, hbounded⟩, tcb, v, c1, granted, hstay, h1, hextends, hrun⟩ | ⟨hunfit, herr⟩
  swap
  · exact .inr ⟨fun hfit => hunfit ⟨hfit.2.left, hfit.1⟩, herr⟩
  rw [hrun, hextends.fit_append]
  rcases mapsInPd_outcome pd elf v hsizes hframes hmaps hstay h1 with
    ⟨hfit, ⟨hnone, c2, granted2, hmapped, hstay2, h2, hextends2⟩ | ⟨map, hstop, hends⟩⟩ | ⟨hunfit, message, c', herr⟩
  · refine .inl ⟨hbounded, ⟨hprogram, hfit⟩, .inl ⟨hnone, ?_⟩⟩
    rw [(hextends.trans hextends2).fit_append, hextends.fit_append]
    rcases (mapStack_mapsPages pd : MapsPages config v c _ _).run hstay2 h2 with
      ⟨hstack, c3, granted3, hstackRun, -⟩ | ⟨hunfit, message, c', herr⟩
    · exact .inl ⟨⟨⟨hprogram, hfit⟩, hstack⟩, (tcb, v), c3, (bind_ok hmapped).trans (bind_ok hstackRun)⟩
    · exact .inr ⟨fun hfit => hunfit hfit.2, message, c', (bind_ok hmapped).trans (bind_error herr)⟩
  · refine .inl ⟨hbounded, ⟨hprogram, hfit⟩, .inr ⟨map, hstop, hends.imp (And.imp_right ?_) (And.imp_right ?_)⟩⟩
    · rintro ⟨reason, c', herr⟩
      exact ⟨reason, c', bind_error herr⟩
    · rintro ⟨message, c', herr⟩
      exact ⟨message, c', bind_error herr⟩
  · exact .inr ⟨fun hfit => hunfit hfit.2.2, message, c', bind_error herr⟩

end outcome

section reports

variable {config : Config} {mrs : List SysMemoryRegion} {frames : List (String × List ObjectId)} {pd : ProtectionDomain}
  {idx : Nat} {elf : Elf} {c : Container} {ipc : Word} {granted : List Request} {pages pages' : List Nat}

lemma Fit.disjoint (h : Fit config granted (pages ++ pages')) {page : Nat} (hpage : page ∈ pages) : page ∉ pages' := by
  have hnodup := h.2
  rw [List.map_append, List.nodup_append] at hnodup
  exact fun hpage' => hnodup.2.2 _ (List.mem_map_of_mem hpage) _ (List.mem_map_of_mem hpage') rfl

lemma mem_pagesBefore (hnone : pd.maps.find? (stopsAt config mrs pd elf) = none) {map : SysMap}
    (hmap : map ∈ pd.maps) {page : Nat}
    (hpage : page ∈ mapPages mrs map) : page ∈ pagesBefore config mrs pd elf pd.maps := by
  refine List.mem_flatMap.mpr ⟨map, ?_, hpage⟩
  have hall : (pd.maps.takeWhile fun map => !stopsAt config mrs pd elf map) = pd.maps :=
    List.takeWhile_eq_self_iff.mpr fun map hmap => by
      rw [Bool.eq_false_iff.mpr (List.find?_eq_none.mp hnone map hmap)]
      rfl
  rwa [hall]

lemma Reportable.noConflict (h : Reportable config mrs pd elf ipc) (hbuf : elf.ipcBuffer = some ipc)
    (hnone : pd.maps.find? (stopsAt config mrs pd elf) = none) : ¬ Conflicts config mrs pd elf := by
  rintro (hapart | ⟨map, hmap, page, hpage, ⟨s, hs, htouches⟩ | ⟨ipc', hbuf', rfl⟩ | hstack⟩)
  · exact hapart (h.apart hnone)
  · have hwraps : ¬ s.Wraps := fun hwraps => h.wraps hnone map hmap page hpage s hs hwraps htouches
    have hmapped : s.mapped = s.pages := if_neg hwraps
    refine h.fits.disjoint (List.mem_append_left _ (List.mem_flatMap.mpr ⟨s, hs, ?_⟩))
      (mem_pagesBefore hnone hmap hpage)
    rw [hmapped]
    exact Segment.mem_pages.mpr htouches
  · obtain rfl := Option.some.inj (hbuf.symm.trans hbuf')
    exact h.fits.disjoint (List.mem_append_right _ List.mem_cons_self) (mem_pagesBefore hnone hmap hpage)
  · exact (h.stack hnone).disjoint (List.mem_append_right _ (mem_pagesBefore hnone hmap hpage)) hstack

lemma mapConflicts_notEmpty {map : SysMap} (h : MapConflicts config mrs pd elf map) : mapEmpty mrs map = false := by
  obtain ⟨page, hpage, -⟩ := h
  unfold mapPages at hpage
  unfold mapEmpty
  cases hmr : findMr mrs map with
  | none =>
    rw [hmr] at hpage
    exact absurd hpage List.not_mem_nil
  | some mr =>
    rw [hmr] at hpage
    refine beq_eq_false_iff_ne.mpr fun e => ?_
    dsimp only at hpage
    rw [e] at hpage
    exact absurd hpage List.not_mem_nil

/-- The mapping steps report conflicts exactly if these can be reported. -/
lemma mapPd_reports_iff (idx : Nat) (hsizes : PageObjects config) (hframes : RegionFrames config mrs frames c)
    (hmaps : ∀ map ∈ pd.maps, ∃ mr, findMr mrs map = some mr) (hdata : ∀ seg ∈ elf.segments, seg.uninitialised = false)
    (hsize : ∀ seg ∈ elf.segments, seg.memSize.toNat < 2 ^ 63) :
    Reports config mrs pd elf (mapPd config frames pd idx elf c) ↔
      ∃ ipc, elf.ipcBuffer = some ipc ∧ Reportable config mrs pd elf ipc := by
  cases hbuf : elf.ipcBuffer with
  | none =>
    obtain ⟨message, c', hrun⟩ := mapPd_noBuffer config pd idx frames c hbuf
    refine iff_of_false (fun h => h.panics message c' hrun) ?_
    rintro ⟨ipc, hipc, -⟩
    cases hipc
  | some ipc =>
    have houtcome := mapPd_outcome pd idx hsizes hframes hmaps hdata hsize hbuf
    constructor
    · intro h
      rcases houtcome with ⟨hbounded, hfits, hends⟩ | ⟨-, message, c', hrun⟩
      swap
      · exact absurd hrun (h.panics message c')
      rcases hends with ⟨hnone, ⟨hstack, r, c', hrun⟩ | ⟨-, message, c', hrun⟩⟩ |
        ⟨map, hstop, ⟨-, reason, c', hrun⟩ | ⟨-, message, c', hrun⟩⟩
      · have hclear : ¬ Conflicts config mrs pd elf := by
          intro hconflicts
          obtain ⟨reason, c'', herr⟩ := h.conflicts hconflicts
          cases hrun.symm.trans herr
        refine ⟨ipc, rfl, hbounded, hfits, fun map hstop => ?_, fun _ => hstack, fun _ => ?_, ?_⟩
        · cases hnone.symm.trans hstop
        · exact not_not.mp fun hapart => hclear (.inl hapart)
        · exact fun _ map hmap page hpage s hs _ htouches =>
            hclear (.inr ⟨map, hmap, page, hpage, .inl ⟨s, hs, htouches⟩⟩)
      · exact absurd hrun (h.panics message c')
      · have hsome : ∀ {P : Prop}, pd.maps.find? (stopsAt config mrs pd elf) = none → P := by
          intro P hnone
          cases hnone.symm.trans hstop
        refine ⟨ipc, rfl, hbounded, hfits, fun map' hstop' => ?_, hsome, hsome, hsome⟩
        obtain ⟨map'', hstop'', hconflicts⟩ := h.refuses reason c' hrun
        obtain rfl := Option.some.inj (hstop'.symm.trans hstop'')
        exact hconflicts
      · exact absurd hrun (h.panics message c')
    · rintro ⟨ipc', hipc, h⟩
      obtain rfl := Option.some.inj hipc
      rcases houtcome with ⟨-, -, hends⟩ | ⟨hunfit, -⟩
      swap
      · exact absurd ⟨h.bounded, h.fits⟩ hunfit
      rcases hends with ⟨hnone, ⟨-, r, c', hrun⟩ | ⟨hunfit, -⟩⟩ | ⟨map, hstop, ⟨-, reason, c', hrun⟩ | ⟨hempty, -⟩⟩
      · rw [hrun]
        exact ⟨fun hconflicts => absurd hconflicts (h.noConflict hbuf hnone), nofun, nofun⟩
      · exact absurd (h.stack hnone) hunfit
      · rw [hrun]
        exact ⟨fun _ => ⟨reason, c', rfl⟩, nofun, fun _ _ _ => ⟨map, hstop, h.stops map hstop⟩⟩
      · cases hempty.symm.trans (mapConflicts_notEmpty (h.stops map hstop))

end reports

lemma parse_names {filename : String} {config : Config} {files : String → PrefillFile} {doc : Except String (List Node)}
    {sd : SystemDescription} (h : parse filename config files doc = .ok sd) :
    (sd.memoryRegions.map (·.name)).Nodup := by
  obtain ⟨system, body, flat, hparsed⟩ := parse_ok h
  have hsame : sd.memoryRegions.map (·.name) = body.mrs.map (·.name) := by
    have hregions := hparsed.regions
    generalize sd.memoryRegions = mrs at hregions
    generalize body.mrs = mrs' at hregions
    induction hregions with
    | nil => rfl
    | cons hmr _ ih => rw [List.map_cons, List.map_cons, hmr.name, ih]
  rw [hsame]
  exact checkMrs_nodup hparsed.checked.regions

lemma parse_findMr {filename : String} {config : Config} {files : String → PrefillFile}
    {doc : Except String (List Node)}
    {sd : SystemDescription} (h : parse filename config files doc = .ok sd) {pd : ProtectionDomain}
    (hpd : pd ∈ sd.protectionDomains) : ∀ map ∈ pd.maps, ∃ mr, findMr sd.memoryRegions map = some mr := by
  obtain ⟨system, body, flat, hparsed⟩ := parse_ok h
  have hspace : ⟨config.pdMapMaxVaddr pd.stackSize, pd.maps⟩ ∈ addressSpaces config sd.protectionDomains :=
    List.mem_flatMap.mpr ⟨pd, hpd, List.mem_cons_self⟩
  intro map hmap
  obtain ⟨mr, hmr, -⟩ := (checkAllMaps_ok hparsed.checked.maps hspace).1 map hmap
  rcases findMr_finished hparsed.regions map with ⟨hnone, -⟩ | ⟨_, mr', -, hmr', -⟩
  · cases hnone.symm.trans hmr
  · exact ⟨mr', hmr'⟩

/-- What fails in the mapping steps of a protection domain fails the build, and these steps report the conflicts of an
accepted description exactly if these can be reported. A segment that is read from a file has data, of less than `2 ^ 63`
bytes. -/
theorem buildCapdlSpec_reports_iff {filename : String} {config : Config} {files : String → PrefillFile}
    {nodes : List Node}
    {sd : SystemDescription} (hparse : parse filename config files (.ok nodes) = .ok sd) (hsizes : PageObjects config)
    {elfs : List Elf} {idx : Nat} {c0 c : Container} {built : Built}
    (hreached : buildUpTo config elfs sd idx c0 = .ok built c)
    {pd : ProtectionDomain} (hpd : sd.protectionDomains[idx]? = some pd) {elf : Elf} (helf : elfs[idx]? = some elf)
    (hdata : ∀ seg ∈ elf.segments, seg.uninitialised = false)
    (hsize : ∀ seg ∈ elf.segments, seg.memSize.toNat < 2 ^ 63) :
    (∀ e c', mapPd config built.frames pd idx elf c = .error e c' → buildCapdlSpec config elfs sd c0 = .error e c') ∧
    (Reports config sd.memoryRegions pd elf (mapPd config built.frames pd idx elf c) ↔
      ∃ ipc, elf.ipcBuffer = some ipc ∧ Reportable config sd.memoryRegions pd elf ipc) := by
  refine ⟨fun e c' herr => buildUpTo_error hreached hpd (buildPd_error helf herr), ?_⟩
  exact mapPd_reports_iff idx hsizes (buildUpTo_regions (parse_names hparse) hreached)
    (parse_findMr hparse (List.mem_of_getElem? hpd)) hdata hsize

/-- A protection domain with a memory region of one page. -/
private def onePageNodes : List Node :=
  [.element "system" [] ⟨1, 1⟩ [
    .element "memory_region" [("name", "buffer"), ("size", "0x1000")] ⟨2, 3⟩ [],
    .element "protection_domain" [("name", "driver")] ⟨3, 3⟩ [
      .element "program_image" [("path", "driver.elf")] ⟨4, 5⟩ [],
      .element "map" [("mr", "buffer"), ("vaddr", "0x300000")] ⟨5, 5⟩ []]]]

private def onePageConfig : Config :=
  ⟨.aarch64, true, false, 1, some 44, none, ⟨11, 4, 6, 5, 13, 12, 21, 12, 12⟩, paSize_fortyFour⟩

private def onePageDriver : ProtectionDomain :=
  { id := none, name := "driver", priority := 0, budget := 1000, period := 1000, passive := false, stackSize := 0x2000
    smc := false, cpu := 0, programImage := "driver.elf", programImageForSymbols := none, fpu := true
    maps := [⟨"buffer", 0x300000, 3, true, ⟨5, 5⟩⟩], irqs := [], ioports := [], setvars := [], virtualMachine := none
    hasChildren := false, parent := none, setvarId := none, textPos := ⟨3, 3⟩ }

private def onePageParsed : SystemDescription :=
  ⟨[onePageDriver], [⟨"buffer", 0x1000, false, .small, 1, .unspecified, ⟨2, 3⟩, none⟩], []⟩

private lemma onePage_parsed :
    parse "page.system" onePageConfig (fun _ => .notFound) (.ok onePageNodes) = .ok onePageParsed := by
  decide +kernel

/-- A program with a segment of two pages. -/
private def onePageElf (ipcBuffer : Word) : Elf :=
  ⟨0x200000, [⟨0x200000, 0x1800, false, true, false, true⟩], some ipcBuffer⟩

private def onePageElfs (ipcBuffer : Word) : List Elf := [onePageElf ipcBuffer, ⟨0x200000, [], some 0x204000⟩]

private lemma onePage_reached (ipcBuffer : Word)
    (hok : (match buildUpTo onePageConfig (onePageElfs ipcBuffer) onePageParsed 0 ⟨[], []⟩ with
      | .ok _ _ => true
      | .error _ _ => false) = true) :
    ∃ built c, buildUpTo onePageConfig (onePageElfs ipcBuffer) onePageParsed 0 ⟨[], []⟩ = .ok built c := by
  split at hok
  · rename_i built c hrun
    exact ⟨built, c, hrun⟩
  · cases hok

/-- A protection domain with one map. -/
theorem buildCapdlSpec_reports_iff_onePage : ∃ built c,
    buildUpTo onePageConfig (onePageElfs 0x204000) onePageParsed 0 ⟨[], []⟩ = .ok built c ∧
      (Reports onePageConfig onePageParsed.memoryRegions onePageDriver (onePageElf 0x204000)
          (mapPd onePageConfig built.frames onePageDriver 0 (onePageElf 0x204000) c) ↔
        ∃ ipc, (onePageElf 0x204000).ipcBuffer = some ipc ∧
          Reportable onePageConfig onePageParsed.memoryRegions onePageDriver (onePageElf 0x204000) ipc) := by
  obtain ⟨built, c, hreached⟩ := onePage_reached 0x204000 (by decide +kernel)
  exact ⟨built, c, hreached, (buildCapdlSpec_reports_iff onePage_parsed ⟨rfl, rfl⟩ hreached rfl rfl (by decide)
    (by decide)).2⟩

/-- Whether a run has ended in a panic. -/
def isPanic : EStateM.Result Failure Container α → Bool
  | .error (.panicked _) _ => true
  | _ => false

lemma exists_of_isPanic {result : EStateM.Result Failure Container α} (h : isPanic result = true) :
    ∃ message c', result = .error (.panicked message) c' := by
  cases result with
  | ok a c' => cases h
  | error e c' =>
    cases e with
    | err reason => cases h
    | panicked message => exact ⟨message, c', rfl⟩

/-- A map has the page of the IPC buffer, and the builder panics. -/
theorem buildCapdlSpec_panics : ∃ built c,
    parse "page.system" onePageConfig (fun _ => .notFound) (.ok onePageNodes) = .ok onePageParsed ∧
      buildUpTo onePageConfig (onePageElfs 0x300000) onePageParsed 0 ⟨[], []⟩ = .ok built c ∧
      Conflicts onePageConfig onePageParsed.memoryRegions onePageDriver (onePageElf 0x300000) ∧
      (∃ message c', mapPd onePageConfig built.frames onePageDriver 0 (onePageElf 0x300000) c =
        .error (.panicked message) c') ∧
      ¬ Reports onePageConfig onePageParsed.memoryRegions onePageDriver (onePageElf 0x300000)
          (mapPd onePageConfig built.frames onePageDriver 0 (onePageElf 0x300000) c) := by
  obtain ⟨built, c, hreached⟩ := onePage_reached 0x300000 (by decide +kernel)
  have hconflicts : Conflicts onePageConfig onePageParsed.memoryRegions onePageDriver (onePageElf 0x300000) :=
    .inr ⟨_, List.mem_cons_self, 0x300, by decide, .inr (.inl ⟨0x300000, rfl, by decide⟩)⟩
  have hpanics : isPanic ((buildUpTo onePageConfig (onePageElfs 0x300000) onePageParsed 0 >>= fun built =>
      mapPd onePageConfig built.frames onePageDriver 0 (onePageElf 0x300000)) ⟨[], []⟩) = true := by
    decide +kernel
  rw [bind_ok hreached] at hpanics
  obtain ⟨message, c', hrun⟩ := exists_of_isPanic hpanics
  exact ⟨built, c, onePage_parsed, hreached, hconflicts, ⟨message, c', hrun⟩, fun h => h.panics message c' hrun⟩

end NexsKernel.Capdl
