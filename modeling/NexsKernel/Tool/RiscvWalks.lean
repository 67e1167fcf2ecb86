import NexsKernel.Tool.RiscvTables

/-!
# What the RISC-V loader's tables translate

The loader and the kernel are translated up to the ends of their GiB, and each entry points to a table or to memory that
is aligned to its size (`sv39_translates`), if the addresses are those of Sv39: the loader below 256 GiB, the kernel in
either half, and its memory below 2 ^ 56. Other addresses pass the checks of the tool and are not translated
(`sv39_untranslated`).
-/

namespace NexsKernel.Tables.Riscv

open Bytes Checks PageWalk
open Image hiding ElfFile
open Elf (ElfFile)
open Sdf (Failure)

/-! ## The tables in memory -/

section installed

variable {firstVaddr firstPaddr : Word} {s : Symbols} {mem : Word → Byte}
  (hmem : Installed mem (tablesOf s firstVaddr firstPaddr))
include hmem

lemma holds_lvl1 : Holds mem s.lvl1.1 (lvl1Table s firstVaddr).bytes :=
  hmem.holds List.mem_cons_self

lemma holds_lvl2 : Holds mem s.lvl2.1 (lvl2Table s firstVaddr firstPaddr).bytes :=
  hmem.holds (.tail _ List.mem_cons_self)

lemma holds_lvl3 : Holds mem s.lvl3.1 (lvl3Table firstVaddr firstPaddr).bytes :=
  hmem.holds (.tail _ (.tail _ List.mem_cons_self))

lemma holds_lvl2Loader : Holds mem s.lvl2Loader.1 (lvl2LoaderTable s).bytes :=
  hmem.holds (.tail _ (.tail _ (.tail _ List.mem_cons_self)))

end installed

/-! ## Indices and leaves -/

section leaves

variable {addr firstVaddr : Word} {bits page : Nat}

lemma ptIndex_one (addr : Word) : ptIndex 3 addr 1 = addr.toNat / 2 ^ 30 % 512 :=
  ptIndex_eq addr 1

lemma ptIndex_two (addr : Word) : ptIndex 3 addr 2 = addr.toNat / 2 ^ 21 % 512 :=
  ptIndex_eq addr 2

lemma ptIndex_three (addr : Word) : ptIndex 3 addr 3 = addr.toNat / 2 ^ 12 % 512 :=
  ptIndex_eq addr 3

lemma leavesStart_whole (h : Whole firstVaddr) : leavesStart firstVaddr = ptIndex 3 firstVaddr 2 :=
  if_pos h

lemma leavesStart_not_whole (h : ¬ Whole firstVaddr) : leavesStart firstVaddr = ptIndex 3 firstVaddr 2 + 1 :=
  if_neg h

section room

variable (hbits : bits ≤ 21) (hpage : page < 512) (halign : addr.toNat % 2 ^ bits = 0)
  (hroom : addr.toNat + page * 2 ^ bits < 2 ^ 56)
include hbits hpage halign hroom

lemma leafAddr_spec : (leafAddr bits addr page).toNat = addr.toNat + page * 2 ^ bits ∧
    Physical (leafAddr bits addr page) ∧ (leafAddr bits addr page).toNat % 2 ^ bits = 0 := by
  have haddr := toNat_leafAddr hbits hpage (show addr.toNat + 2 ^ 30 ≤ 2 ^ 64 by omega)
  refine ⟨haddr, ?_, ?_⟩
  · rwa [Physical, haddr]
  · rw [haddr, Nat.add_mul_mod_self_right, halign]

lemma decode_leaves (hbits' : 12 ≤ bits) : (sv39Level bits).decode (leaves bits addr page) =
    .leaf (addr.toNat + page * 2 ^ bits) () := by
  obtain ⟨haddr, hphysical, haligned⟩ := leafAddr_spec hbits hpage halign hroom
  rw [leaves, decode_pteLeaf hphysical hbits' haligned, haddr]

end room

end leaves

/-! ## From table to table -/

/-- The address of a table: aligned to 4 KiB, in the memory. -/
def TableAddr (addr : Word) : Prop :=
  addr.toNat % 2 ^ 12 = 0 ∧ Physical addr

instance (addr : Word) : Decidable (TableAddr addr) :=
  inferInstanceAs (Decidable (_ ∧ _ < _))

/-- What is asked of the addresses, apart from where they are. -/
structure Suitable (s : Symbols) (firstVaddr firstPaddr : Word) : Prop where
  lvl1 : TableAddr s.lvl1.1
  lvl2 : TableAddr s.lvl2.1
  lvl3 : TableAddr s.lvl3.1
  lvl2Loader : TableAddr s.lvl2Loader.1
  text : s.text.toNat % 2 ^ 21 = 0
  page : firstVaddr.toNat % 2 ^ 12 = 0
  offset : firstPaddr.toNat % 2 ^ 21 = firstVaddr.toNat % 2 ^ 21
  index : ptIndex 3 firstVaddr 1 ≠ ptIndex 3 s.text 1

/-- The addresses are those of Sv39: what is translated, and the memory that it is translated to. -/
structure InSv39 (s : Symbols) (firstVaddr firstPaddr : Word) : Prop where
  text : s.text.toNat < 2 ^ 38
  vaddr : Canonical firstVaddr
  paddr : firstPaddr.toNat + (2 ^ 30 - firstVaddr.toNat % 2 ^ 30) ≤ 2 ^ 56

section walks

variable {firstVaddr firstPaddr : Word} {s : Symbols} {mem : Word → Byte} {va : Nat}
  (hs : Suitable s firstVaddr firstPaddr) (hmem : Installed mem (tablesOf s firstVaddr firstPaddr))
include hs hmem

lemma walk_loader (h : (sv39Level 30).index va = ptIndex 3 s.text 1) :
    walk mem sv39Levels s.lvl1.1 va = walk mem [sv39Level 21, sv39Level 12] s.lvl2Loader.1 va := by
  refine walk_table (holds_lvl1 hmem) ?_
  rw [h, lvl1Table, PageTable.put_ne hs.index.symm, PageTable.put_self]
  exact decode_pteNext hs.lvl2Loader.2 hs.lvl2Loader.1

lemma walk_kernel (h : (sv39Level 30).index va = ptIndex 3 firstVaddr 1) :
    walk mem sv39Levels s.lvl1.1 va = walk mem [sv39Level 21, sv39Level 12] s.lvl2.1 va := by
  refine walk_table (holds_lvl1 hmem) ?_
  rw [h, lvl1Table, PageTable.put_self]
  exact decode_pteNext hs.lvl2.2 hs.lvl2.1

/-- The pages of a kernel that does not start at a multiple of 2 MiB. -/
lemma walk_start (hwhole : ¬ Whole firstVaddr) (h : (sv39Level 21).index va = ptIndex 3 firstVaddr 2) :
    walk mem [sv39Level 21, sv39Level 12] s.lvl2.1 va = walk mem [sv39Level 12] s.lvl3.1 va := by
  refine walk_table (holds_lvl2 hmem) ?_
  have hbefore : ¬ (leavesStart firstVaddr ≤ ptIndex 3 firstVaddr 2 ∧
      ptIndex 3 firstVaddr 2 < leavesStart firstVaddr + (512 - leavesStart firstVaddr)) := by
    rw [leavesStart_not_whole hwhole]
    omega
  rw [h, lvl2Table, PageTable.fill_outside hbefore, startTable, if_neg hwhole, PageTable.put_self]
  exact decode_pteNext hs.lvl3.2 hs.lvl3.1

/-- A leaf of the loader. -/
lemma walk_loaderLeaf (hlow : s.text.toNat < 2 ^ 38) (h : ptIndex 3 s.text 2 ≤ (sv39Level 21).index va) :
    walk mem [sv39Level 21, sv39Level 12] s.lvl2Loader.1 va =
      some (s.text.toNat + ((sv39Level 21).index va - ptIndex 3 s.text 2) * 2 ^ 21 + va % 2 ^ 21, ()) := by
  have hindex : (sv39Level 21).index va < 512 := Level.index_lt
  refine walk_leaf (holds_lvl2Loader hmem) ?_
  rw [lvl2LoaderTable, PageTable.fill_inside h (by omega)]
  exact decode_leaves (by decide) (by omega) hs.text (by omega) (by decide)

omit hs in
/-- A leaf of 2 MiB of the kernel. -/
lemma walk_kernelLeaf (h : leavesStart firstVaddr ≤ (sv39Level 21).index va)
    (hroom : (firstPaddr.toNat + (2 ^ 21 - 1)) / 2 ^ 21 * 2 ^ 21 +
      ((sv39Level 21).index va - leavesStart firstVaddr) * 2 ^ 21 < 2 ^ 56) :
    walk mem [sv39Level 21, sv39Level 12] s.lvl2.1 va =
      some ((firstPaddr.toNat + (2 ^ 21 - 1)) / 2 ^ 21 * 2 ^ 21 +
        ((sv39Level 21).index va - leavesStart firstVaddr) * 2 ^ 21 + va % 2 ^ 21, ()) := by
  have hindex : (sv39Level 21).index va < 512 := Level.index_lt
  have hround := toNat_roundUp (show firstPaddr.toNat + 2 ^ 21 ≤ 2 ^ 64 by omega)
  refine walk_leaf (holds_lvl2 hmem) ?_
  rw [lvl2Table, PageTable.fill_inside h (by omega), ← hround]
  refine decode_leaves (by decide) (by omega) ?_ ?_ (by decide)
  · rw [hround, Nat.mul_mod_left]
  · rw [hround]
    exact hroom

/-- A page of the kernel. -/
lemma walk_page (hwhole : ¬ Whole firstVaddr) (h : ptIndex 3 firstVaddr 3 ≤ (sv39Level 12).index va)
    (hroom : firstPaddr.toNat + ((sv39Level 12).index va - ptIndex 3 firstVaddr 3) * 2 ^ 12 < 2 ^ 56) :
    walk mem [sv39Level 12] s.lvl3.1 va =
      some (firstPaddr.toNat + ((sv39Level 12).index va - ptIndex 3 firstVaddr 3) * 2 ^ 12 + va % 2 ^ 12, ()) := by
  have hindex : (sv39Level 12).index va < 512 := Level.index_lt
  have hpage : firstPaddr.toNat % 2 ^ 12 = 0 := by
    have hoffset := hs.offset
    have hvaddr := hs.page
    omega
  refine walk_leaf (holds_lvl3 hmem) ?_
  rw [lvl3Table, if_neg hwhole, PageTable.fill_inside h (by omega)]
  exact decode_leaves (by decide) (by omega) hpage hroom (by decide)

/-! ## The loader and the kernel -/

/-- The loader is translated to itself. -/
lemma loader_translated (hlow : s.text.toNat < 2 ^ 38) (hsame : va / 2 ^ 30 = s.text.toNat / 2 ^ 30)
    (hle : s.text.toNat ≤ va) :
    walk mem sv39Levels s.lvl1.1 va = some (va, ()) := by
  have h1 : (sv39Level 30).index va = ptIndex 3 s.text 1 := by
    rw [ptIndex_one, ← hsame]
    rfl
  obtain ⟨hindex, hge⟩ := index_sub (s := 21) hsame hle
  have hge2 : ptIndex 3 s.text 2 ≤ (sv39Level 21).index va := by
    rwa [ptIndex_two]
  rw [walk_loader hs hmem h1, walk_loaderLeaf hs hmem hlow hge2, ptIndex_two]
  change some (s.text.toNat + (va / 2 ^ 21 % 512 - _) * 2 ^ 21 + va % 2 ^ 21, ()) = _
  have htext := hs.text
  rw [hindex, Option.some_inj, Prod.mk.injEq, and_iff_left rfl]
  omega

/-- The kernel is translated by its offset. -/
lemma kernel_translated (hpaddr : firstPaddr.toNat + (2 ^ 30 - firstVaddr.toNat % 2 ^ 30) ≤ 2 ^ 56)
    (hsame : va / 2 ^ 30 = firstVaddr.toNat / 2 ^ 30) (hle : firstVaddr.toNat ≤ va) :
    walk mem sv39Levels s.lvl1.1 va = some (firstPaddr.toNat + (va - firstVaddr.toNat), ()) := by
  have h1 : (sv39Level 30).index va = ptIndex 3 firstVaddr 1 := by
    rw [ptIndex_one, ← hsame]
    rfl
  have hoffset := hs.offset
  obtain ⟨hindex, hge⟩ := index_sub (s := 21) hsame hle
  rw [walk_kernel hs hmem h1]
  by_cases hwhole : Whole firstVaddr
  · have hvaddr := whole_iff.mp hwhole
    have hstart := (leavesStart_whole hwhole).trans (ptIndex_two firstVaddr)
    have hroom : (firstPaddr.toNat + (2 ^ 21 - 1)) / 2 ^ 21 * 2 ^ 21 +
        (va / 2 ^ 21 % 512 - leavesStart firstVaddr) * 2 ^ 21 + va % 2 ^ 21 =
          firstPaddr.toNat + (va - firstVaddr.toNat) := by
      rw [hstart, hindex]
      omega
    rw [walk_kernelLeaf hmem (hstart ▸ hge) (by change _ + (va / 2 ^ 21 % 512 - _) * _ < _; omega)]
    exact congrArg (fun pa => some (pa, ())) hroom
  -- the pages up to the next multiple of 2 MiB, then the leaves
  by_cases hfirst : va / 2 ^ 21 = firstVaddr.toNat / 2 ^ 21
  · have h2 : (sv39Level 21).index va = ptIndex 3 firstVaddr 2 := by
      rw [ptIndex_two, ← hfirst]
      rfl
    obtain ⟨hindex3, hge3⟩ := index_sub (s := 12) hfirst hle
    have hvaddr := hs.page
    have hroom : firstPaddr.toNat + (va / 2 ^ 12 % 512 - ptIndex 3 firstVaddr 3) * 2 ^ 12 + va % 2 ^ 12 =
        firstPaddr.toNat + (va - firstVaddr.toNat) := by
      rw [ptIndex_three, hindex3]
      omega
    rw [walk_start hs hmem hwhole h2, walk_page hs hmem hwhole (ptIndex_three firstVaddr ▸ hge3)
      (by change _ + (va / 2 ^ 12 % 512 - _) * _ < _; omega)]
    exact congrArg (fun pa => some (pa, ())) hroom
  · have hvaddr : firstVaddr.toNat % 2 ^ 21 ≠ 0 := fun h => hwhole (whole_iff.mpr h)
    have hstart := leavesStart_not_whole hwhole
    rw [ptIndex_two] at hstart
    have hlater : leavesStart firstVaddr ≤ va / 2 ^ 21 % 512 := by
      have hdiv : firstVaddr.toNat / 2 ^ 21 ≤ va / 2 ^ 21 := Nat.div_le_div_right hle
      omega
    have hroom : (firstPaddr.toNat + (2 ^ 21 - 1)) / 2 ^ 21 * 2 ^ 21 +
        (va / 2 ^ 21 % 512 - leavesStart firstVaddr) * 2 ^ 21 + va % 2 ^ 21 =
          firstPaddr.toNat + (va - firstVaddr.toNat) := by
      rw [hstart, ← Nat.sub_sub, hindex]
      omega
    rw [walk_kernelLeaf hmem hlater (by change _ + (va / 2 ^ 21 % 512 - _) * _ < _; omega)]
    exact congrArg (fun pa => some (pa, ())) hroom

end walks

/-! ## Alignment of the entries -/

/-- An entry that is empty, points to a table, or to memory that is aligned to the size of a leaf. -/
def EntryAligned (s : Symbols) (shift : Nat) (d : Word) : Prop :=
  d = 0 ∨ (¬ IsLeaf d ∧ pteAddr d ∈ [s.lvl2.1.toNat, s.lvl3.1.toNat, s.lvl2Loader.1.toNat]) ∨
    (IsLeaf d ∧ pteAddr d % 2 ^ shift = 0)

/-- The tables, with the sizes of their leaves. -/
def tableShifts (s : Symbols) : List (Word × Nat) :=
  [(s.lvl1.1, 30), (s.lvl2.1, 21), (s.lvl3.1, 12), (s.lvl2Loader.1, 21)]

section aligned

variable {addr firstVaddr firstPaddr : Word} {s : Symbols} {shift first count : Nat} {t : PageTable} {d : Word}
  {entries : Nat → Word}

/-- So are all entries of a table. -/
def AllAligned (s : Symbols) (shift : Nat) (t : PageTable) : Prop :=
  ∀ i, EntryAligned s shift (t i)

lemma allAligned_zero : AllAligned s shift PageTable.zero :=
  fun _ => .inl rfl

lemma AllAligned.put (h : AllAligned s shift t) {i : Nat} (hd : EntryAligned s shift d) :
    AllAligned s shift (t.put i d) := by
  intro j
  by_cases hj : j = i
  · rwa [hj, PageTable.put_self]
  · rw [PageTable.put_ne hj]
    exact h j

lemma AllAligned.fill (h : AllAligned s shift t) (hentries : ∀ k < count, EntryAligned s shift (entries k)) :
    AllAligned s shift (t.fill first count entries) := by
  intro i
  by_cases hi : first ≤ i ∧ i < first + count
  · rw [PageTable.fill_inside hi.1 hi.2]
    exact hentries _ (by omega)
  · rw [PageTable.fill_outside hi]
    exact h i

lemma entryAligned_next (h : TableAddr addr)
    (hmem : addr.toNat ∈ [s.lvl2.1.toNat, s.lvl3.1.toNat, s.lvl2Loader.1.toNat]) :
    EntryAligned s shift (pteNext addr) := by
  obtain ⟨halign, hphysical⟩ := h
  have hentry := toNat_pteNext hphysical
  have haddr : pteAddr (pteNext addr) = addr.toNat := by
    unfold Physical at hphysical
    rw [pteAddr, hentry]
    omega
  refine .inr (.inl ⟨fun hleaf => hleaf.2 ?_, haddr ▸ hmem⟩)
  rw [hentry]
  omega

lemma entryAligned_leaves {bits page : Nat} (hbits : bits ≤ 21) (hpage : page < 512)
    (halign : addr.toNat % 2 ^ bits = 0)
    (hroom : addr.toNat + page * 2 ^ bits < 2 ^ 56) (hbits' : 12 ≤ bits) :
    EntryAligned s bits (leaves bits addr page) := by
  obtain ⟨-, hphysical, haligned⟩ := leafAddr_spec hbits hpage halign hroom
  have hentry := toNat_pteLeaf hphysical
  have hpage' : (leafAddr bits addr page).toNat % 2 ^ 12 = 0 :=
    Nat.mod_eq_zero_of_dvd ((pow_dvd_pow 2 hbits').trans (Nat.dvd_of_mod_eq_zero haligned))
  refine .inr (.inr ⟨⟨?_, ?_⟩, ?_⟩)
  · rw [leaves, hentry]
    omega
  · rw [leaves, hentry]
    omega
  · rw [leaves, pteAddr_pteLeaf hphysical, Nat.div_mul_cancel (Nat.dvd_of_mod_eq_zero hpage'), haligned]

variable (hs : Suitable s firstVaddr firstPaddr)
include hs

lemma lvl1Table_aligned : AllAligned s 30 (lvl1Table s firstVaddr) :=
  (allAligned_zero.put (entryAligned_next hs.lvl2Loader (.tail _ (.tail _ List.mem_cons_self)))).put
    (entryAligned_next hs.lvl2 List.mem_cons_self)

lemma lvl2Table_aligned (hpaddr : firstPaddr.toNat + (2 ^ 30 - firstVaddr.toNat % 2 ^ 30) ≤ 2 ^ 56) :
    AllAligned s 21 (lvl2Table s firstVaddr firstPaddr) := by
  have hstart : AllAligned s 21 (startTable s firstVaddr) := by
    unfold startTable
    split
    · exact allAligned_zero
    · exact allAligned_zero.put (entryAligned_next hs.lvl3 (.tail _ List.mem_cons_self))
  have hround := toNat_roundUp (show firstPaddr.toNat + 2 ^ 21 ≤ 2 ^ 64 by omega)
  have hoffset := hs.offset
  refine hstart.fill fun k hk => entryAligned_leaves (by decide) (by omega) ?_ ?_ (by decide)
  · rw [hround, Nat.mul_mod_left]
  · rw [hround]
    by_cases hwhole : Whole firstVaddr
    · have hvaddr := whole_iff.mp hwhole
      rw [leavesStart_whole hwhole, ptIndex_two] at hk
      omega
    · have hvaddr : firstVaddr.toNat % 2 ^ 21 ≠ 0 := fun h => hwhole (whole_iff.mpr h)
      rw [leavesStart_not_whole hwhole, ptIndex_two] at hk
      omega

lemma lvl3Table_aligned (hpaddr : firstPaddr.toNat + (2 ^ 30 - firstVaddr.toNat % 2 ^ 30) ≤ 2 ^ 56) :
    AllAligned s 12 (lvl3Table firstVaddr firstPaddr) := by
  have hoffset := hs.offset
  have hvaddr := hs.page
  unfold lvl3Table
  split
  · exact allAligned_zero
  · refine allAligned_zero.fill fun k hk => entryAligned_leaves (by decide) (by omega) ?_ ?_ (by decide)
    · omega
    · rw [ptIndex_three] at hk
      omega

lemma lvl2LoaderTable_aligned (hlow : s.text.toNat < 2 ^ 38) : AllAligned s 21 (lvl2LoaderTable s) := by
  exact allAligned_zero.fill fun k hk => entryAligned_leaves (by decide) (by omega) hs.text (by omega) (by decide)

end aligned

/-! ## Sv39 -/

/-- The loader is translated to itself and the kernel to the memory from `firstPaddr` on, up to the ends of their GiB, and
the entries of all tables are aligned. -/
structure Translates (mem : Word → Byte) (s : Symbols) (firstVaddr firstPaddr : Word) : Prop where
  loader : ∀ va : Word, s.text.toNat ≤ va.toNat → va.toNat / 2 ^ 30 = s.text.toNat / 2 ^ 30 →
    translate mem s va = some va.toNat
  kernel : ∀ va : Word, firstVaddr.toNat ≤ va.toNat → va.toNat / 2 ^ 30 = firstVaddr.toNat / 2 ^ 30 →
    translate mem s va = some (firstPaddr.toNat + (va.toNat - firstVaddr.toNat))
  aligned : ∀ table ∈ tableShifts s, ∀ i < 512, EntryAligned s table.2 (entryAt mem table.1 i)

lemma canonical_sameGib {va0 va : Word} (h : Canonical va0) (hle : va0.toNat ≤ va.toNat)
    (hsame : va.toNat / 2 ^ 30 = va0.toNat / 2 ^ 30) : Canonical va := by
  unfold Canonical at h ⊢
  omega

/-- The checks pass. -/
lemma checked_of_suitable {elf : ElfFile} {firstVaddr firstPaddr : Word} {s : Symbols}
    (hfound : grabSymbols elf = .ok s)
    (hs : Suitable s firstVaddr firstPaddr) (hpaddr : firstPaddr.toNat < 2 ^ 63) :
    Checked elf firstVaddr firstPaddr s := by
  have hround := toNat_roundUp (show firstPaddr.toNat + 2 ^ 21 ≤ 2 ^ 64 by omega)
  have hoffset := hs.offset
  have hvaddr := hs.page
  refine ⟨hfound, (isMultipleOf_iff (by decide)).mpr hs.text, fun _ =>
    ⟨?_, (isMultipleOf_iff (by decide)).mpr hs.lvl3.1⟩, ?_⟩
  · refine leavesAligned (by decide) (Nat.sub_le _ _) (by omega) ?_
    change _ % 2 ^ 12 = 0
    omega
  · refine leavesAligned (by decide) (Nat.sub_le _ _) (by omega) ?_
    rw [hround]
    exact Nat.mul_mod_left _ _

/-- The tables are built, and with them the loader and the kernel are translated, if their addresses are those of Sv39. -/
theorem sv39_translates {elf : ElfFile} {firstVaddr firstPaddr : Word} {s : Symbols} (hfound : grabSymbols elf = .ok s)
    (hs : Suitable s firstVaddr firstPaddr) (hin : InSv39 s firstVaddr firstPaddr) :
    ∃ vars, riscv64SetupPagetables (some .sv39) elf firstVaddr firstPaddr = .ok vars ∧
      ∀ mem, Installed mem vars → Translates mem s firstVaddr firstPaddr := by
  obtain ⟨hlow, hcanonical, hpaddr⟩ := hin
  refine ⟨_, setup_ok.mpr ⟨s, checked_of_suitable hfound hs (by omega), rfl⟩, fun mem hmem => ⟨?_, ?_, ?_⟩⟩
  · intro va hle hsame
    have hva : Canonical va := canonical_sameGib (.inl hlow) hle hsame
    rw [translate, if_pos hva, loader_translated hs hmem hlow hsame hle]
    rfl
  · intro va hle hsame
    have hva : Canonical va := canonical_sameGib hcanonical hle hsame
    rw [translate, if_pos hva, kernel_translated hs hmem hpaddr hsame hle]
    rfl
  · unfold tableShifts
    simp only [List.forall_mem_cons]
    refine ⟨fun i hi => ?_, fun i hi => ?_, fun i hi => ?_, fun i hi => ?_, nofun⟩
    · rw [entryAt_table (holds_lvl1 hmem) hi]
      exact lvl1Table_aligned hs i
    · rw [entryAt_table (holds_lvl2 hmem) hi]
      exact lvl2Table_aligned hs hpaddr i
    · rw [entryAt_table (holds_lvl3 hmem) hi]
      exact lvl3Table_aligned hs hpaddr i
    · rw [entryAt_table (holds_lvl2Loader hmem) hi]
      exact lvl2LoaderTable_aligned hs hlow i

/-! ### A loader -/

/-- A loader at an address. -/
private def riscvLoader (start : Word) : ElfFile where
  path := "loader.elf"
  wordSize := 64
  entry := start
  machine := 243
  segments := []
  symbols name := ([("_text", start, 0), ("boot_lvl1_pt", start + 0x10000, 0x1000),
    ("boot_lvl2_pt", start + 0x11000, 0x1000),
    ("boot_lvl3_pt", start + 0x12000, 0x1000), ("boot_lvl2_pt_loader", start + 0x13000, 0x1000)].lookup name).map
      fun found => (⟨found.1, found.2⟩, false)
  vecs := ⟨by decide, by decide⟩

/-- What is found in it. -/
private def riscvFound (start : Word) : Symbols where
  text := start
  lvl1 := (start + 0x10000, 0x1000)
  lvl2 := (start + 0x11000, 0x1000)
  lvl3 := (start + 0x12000, 0x1000)
  lvl2Loader := (start + 0x13000, 0x1000)

private lemma riscvLoader_found (start : Word) : grabSymbols (riscvLoader start) = .ok (riscvFound start) :=
  rfl

/-- There is a memory with the tables, if these do not overlap. -/
lemma exists_installed {s : Symbols} {firstVaddr firstPaddr : Word} (hs : Suitable s firstVaddr firstPaddr)
    (hapart : [s.lvl1.1, s.lvl2.1, s.lvl3.1, s.lvl2Loader.1].Pairwise fun a b =>
      a.toNat + 4096 ≤ b.toNat ∨ b.toNat + 4096 ≤ a.toNat) :
    ∃ mem, Installed mem (tablesOf s firstVaddr firstPaddr) := by
  have haddrs : (tablesOf s firstVaddr firstPaddr).map (·.addr) = [s.lvl1.1, s.lvl2.1, s.lvl3.1, s.lvl2Loader.1] := rfl
  have hlength : ∀ var ∈ tablesOf s firstVaddr firstPaddr, var.data.length = 4096 := by
    unfold tablesOf
    simp only [List.forall_mem_cons]
    exact ⟨tableVar_length _ _, tableVar_length _ _, tableVar_length _ _, tableVar_length _ _, nofun⟩
  have hroom : ∀ {a : Word}, TableAddr a → a.toNat + 4096 ≤ 2 ^ 64 := by
    rintro a ⟨-, hphysical⟩
    unfold Physical at hphysical
    omega
  refine exists_installed_of_pages haddrs hlength ?_ hapart
  simp only [List.forall_mem_cons]
  exact ⟨hroom hs.lvl1, hroom hs.lvl2, hroom hs.lvl3, hroom hs.lvl2Loader, nofun⟩

private lemma riscvLow_suitable : Suitable (riscvFound 0x80000000) 0xffffffff80205000 0x80205000 :=
  ⟨by decide, by decide, by decide, by decide, by decide, by decide, by decide, by decide⟩

/-- A loader at 2 GiB, and the kernel behind it. -/
theorem sv39_translates_boot : ∃ mem, Translates mem (riscvFound 0x80000000) 0xffffffff80205000 0x80205000 := by
  obtain ⟨vars, hsetup, htranslates⟩ :=
    sv39_translates (riscvLoader_found 0x80000000) riscvLow_suitable ⟨by decide, by decide, by decide⟩
  obtain ⟨s, hc, rfl⟩ := setup_ok.mp hsetup
  obtain rfl := Except.ok.inj ((riscvLoader_found _).symm.trans hc.found)
  obtain ⟨mem, hmem⟩ := exists_installed riscvLow_suitable (by decide)
  exact ⟨mem, htranslates mem hmem⟩

/-- The tables are built for a loader and a kernel, and do not translate both. -/
def Untranslated (start firstVaddr firstPaddr : Word) : Prop :=
  Suitable (riscvFound start) firstVaddr firstPaddr ∧
    ∃ vars mem, riscv64SetupPagetables (some .sv39) (riscvLoader start) firstVaddr firstPaddr = .ok vars ∧
      Installed mem vars ∧ ¬ Translates mem (riscvFound start) firstVaddr firstPaddr

private lemma untranslated_of_suitable {start firstVaddr firstPaddr : Word}
    (hs : Suitable (riscvFound start) firstVaddr firstPaddr) (hpaddr : firstPaddr.toNat < 2 ^ 63)
    (hapart : [(riscvFound start).lvl1.1, (riscvFound start).lvl2.1, (riscvFound start).lvl3.1,
      (riscvFound start).lvl2Loader.1].Pairwise
      fun a b => a.toNat + 4096 ≤ b.toNat ∨ b.toNat + 4096 ≤ a.toNat)
    (h : ∀ mem, Installed mem (tablesOf (riscvFound start) firstVaddr firstPaddr) →
      ¬ Translates mem (riscvFound start) firstVaddr firstPaddr) : Untranslated start firstVaddr firstPaddr := by
  obtain ⟨mem, hmem⟩ := exists_installed hs hapart
  exact ⟨hs, _, mem, setup_ok.mpr ⟨_, checked_of_suitable (riscvLoader_found start) hs hpaddr, rfl⟩, hmem, h mem hmem⟩

/-- Neither a loader from 256 GiB on is translated, nor a kernel between the halves, nor one whose memory is from 2 ^ 56
on. -/
theorem sv39_untranslated :
    Untranslated 0x4000000000 0xffffffff80205000 0x80205000 ∧ Untranslated 0x80000000 0x4000205000 0x80205000 ∧
      Untranslated 0x80000000 0xffffffff80200000 0x100000000000000 := by
  refine ⟨?_, ?_, ?_⟩
  · refine untranslated_of_suitable ⟨by decide, by decide, by decide, by decide, by decide, by decide, by decide, by decide⟩
      (by decide) (by decide) fun mem hmem h => ?_
    have hloader := h.loader 0x4000000000 le_rfl rfl
    rw [translate, if_neg (by decide)] at hloader
    exact nomatch hloader
  · refine untranslated_of_suitable ⟨by decide, by decide, by decide, by decide, by decide, by decide, by decide, by decide⟩
      (by decide) (by decide) fun mem hmem h => ?_
    have hkernel := h.kernel 0x4000205000 le_rfl rfl
    rw [translate, if_neg (by decide)] at hkernel
    exact nomatch hkernel
  · have hs : Suitable (riscvFound 0x80000000) 0xffffffff80200000 0x100000000000000 :=
      ⟨by decide, by decide, by decide, by decide, by decide, by decide, by decide, by decide⟩
    refine untranslated_of_suitable hs (by decide) (by decide) fun mem hmem h => ?_
    have hkernel := h.kernel 0xffffffff80200000 le_rfl rfl
    -- the address reaches the reserved bits of the entry
    have hinvalid : walk mem [sv39Level 21, sv39Level 12] (riscvFound 0x80000000).lvl2.1
      (0xffffffff80200000 : Word).toNat = none :=
      walk_invalid (holds_lvl2 hmem) rfl
    rw [translate, if_pos (by decide), walk_kernel hs hmem (by decide), hinvalid] at hkernel
    exact nomatch hkernel

end NexsKernel.Tables.Riscv
