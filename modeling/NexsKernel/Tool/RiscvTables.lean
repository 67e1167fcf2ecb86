import NexsKernel.Tool.LoaderTables

/-!
# Page tables of the RISC-V loader

`Loader::riscv64_setup_pagetables` (`loader.rs`) fills four tables for Sv39: from its text on the loader is mapped to
itself by leaves of 2 MiB, and the kernel from its first address on. A kernel that does not start at a multiple of 2 MiB
starts with pages of 4 KiB, and its leaves of 2 MiB start at the next multiple.
-/

namespace NexsKernel.Tables.Riscv

open Bytes Checks PageWalk
open Image hiding ElfFile
open Elf (ElfFile)
open Sdf (Failure)

/-! ## Entries -/

def blockBits2mb : Nat := 21
def pageBits4k : Nat := 12
def pageTableIndexBits : Nat := 9
def pageShift : Nat := 12

/-- `PTE_TYPE_BITS`: D, A, X, W and R. -/
def pteTypeBits : Word := 0b11001110
def pteTypeTable : Word := 0
def pteTypeValid : Word := 1
def ptePpn0Shift : Nat := 10

def ptIndex (ptLevels : Nat) (addr : Word) (level : Nat) : Nat :=
  let ptIndexBits := pageTableIndexBits * (ptLevels - level)
  ((addr >>> (ptIndexBits + pageShift)) % 512).toNat

/-- The physical page number of an address, where it is in an entry. -/
def ptePpn (addr : Word) : Word :=
  (addr >>> pageShift) <<< ptePpn0Shift

def pteNext (addr : Word) : Word :=
  ptePpn addr ||| pteTypeTable ||| pteTypeValid

def pteLeaf (addr : Word) : Word :=
  ptePpn addr ||| pteTypeBits ||| pteTypeValid

/-! ## `riscv64_setup_pagetables` -/

inductive RiscvVirtualMemory where
  | sv39
  deriving DecidableEq, Repr

def RiscvVirtualMemory.levels : RiscvVirtualMemory → Nat
  | sv39 => 3

def isMultipleOf (n m : Word) : Prop :=
  n % m = 0

instance (n m : Word) : Decidable (isMultipleOf n m) :=
  inferInstanceAs (Decidable (_ = _))

def roundUp (n x : Word) : Word :=
  let m := n % x
  if m = 0 then n else n + x - m

/-- The symbols that are needed. -/
structure Symbols where
  text : Word
  lvl1 : Word × Word
  lvl2 : Word × Word
  lvl3 : Word × Word
  lvl2Loader : Word × Word

def grabSymbols (elf : ElfFile) : Except Failure Symbols := do
  let text ← grabSymbol elf "_text"
  let lvl1 ← grabSymbol elf "boot_lvl1_pt"
  let lvl2 ← grabSymbol elf "boot_lvl2_pt"
  let lvl3 ← grabSymbol elf "boot_lvl3_pt"
  let lvl2Loader ← grabSymbol elf "boot_lvl2_pt_loader"
  return ⟨text.1, lvl1, lvl2, lvl3, lvl2Loader⟩

/-- The address of the leaf `page`, of `2 ^ bits` bytes each. -/
def leafAddr (bits : Nat) (addr : Word) (page : Nat) : Word :=
  addr + (BitVec.ofNat 64 page <<< bits)

/-- A loop over leaves for the kernel, from an index on. `name` is that of the constant `bits`. -/
def mapLeaves (bits : Nat) (name : String) (t : PageTable) (first : Nat) (addr : Word) : Except Failure PageTable :=
  (List.range (512 - first)).foldlM (fun t page => do
    failIf (¬ isMultipleOf (leafAddr bits addr page) (1#64 <<< bits))
      (.panicked s!"assertion failed: addr.is_multiple_of(1 << riscv64::{name})")
    return t.put (first + page) (pteLeaf (leafAddr bits addr page))) t

/-- The pages before the first multiple of 2 MiB: the tables of level 2 and 3, and where level 2 goes on. -/
def mapStart (numPtLevels : Nat) (lvl3Addr firstVaddr firstPaddr : Word) :
    Except Failure (PageTable × PageTable × Nat) := do
  let indexLvl2 := ptIndex numPtLevels firstVaddr 2
  if ¬ isMultipleOf firstVaddr (1#64 <<< blockBits2mb) then
    let indexLvl3 := ptIndex numPtLevels firstVaddr 3
    let lvl3 ← mapLeaves pageBits4k "PAGE_BITS_4K" PageTable.zero indexLvl3 firstPaddr
    let lvl3PtEntry := pteNext lvl3Addr
    failIf (¬ isMultipleOf lvl3Addr (1#64 <<< pageBits4k))
      (.panicked "assertion failed: boot_lvl3_pt_addr.is_multiple_of(1 << riscv64::PAGE_BITS_4K)")
    return (PageTable.zero.put indexLvl2 lvl3PtEntry, lvl3, indexLvl2 + 1)
  else return (PageTable.zero, PageTable.zero, indexLvl2)

def riscv64SetupPagetables (riscvPtLevels : Option RiscvVirtualMemory) (elf : ElfFile) (firstVaddr firstPaddr : Word) :
    Except Failure (List PagetableVar) := do
  let s ← grabSymbols elf
  failIf (¬ isMultipleOf s.text (1#64 <<< blockBits2mb))
    (.panicked "assertion failed: text_addr.is_multiple_of(1 << riscv64::BLOCK_BITS_2MB)")
  let ptLevels ← orFail riscvPtLevels (.panicked "called `Option::unwrap()` on a `None` value")
  let numPtLevels := ptLevels.levels
  let lvl1 := PageTable.zero.put (ptIndex numPtLevels s.text 1) (pteNext s.lvl2Loader.1)
  let textIndexLvl2 := ptIndex numPtLevels s.text 2
  let lvl2Loader := (List.range (512 - textIndexLvl2)).foldl
    (fun t page => t.put (textIndexLvl2 + page) (pteLeaf (leafAddr blockBits2mb s.text page))) PageTable.zero
  let lvl1 := lvl1.put (ptIndex numPtLevels firstVaddr 1) (pteNext s.lvl2.1)
  let (lvl2, lvl3, indexLvl2) ← mapStart numPtLevels s.lvl3.1 firstVaddr firstPaddr
  let firstPaddrAligned := roundUp firstPaddr (1#64 <<< blockBits2mb)
  let lvl2 ← mapLeaves blockBits2mb "BLOCK_BITS_2MB" lvl2 indexLvl2 firstPaddrAligned
  return [tableVar s.lvl1 lvl1, tableVar s.lvl2 lvl2, tableVar s.lvl3 lvl3, tableVar s.lvl2Loader lvl2Loader]

/-! ## The MMU -/

/-- The address in an entry: its physical page number, in bits[53:10]. -/
def pteAddr (d : Word) : Nat :=
  d.toNat / 2 ^ 10 % 2 ^ 44 * 2 ^ 12

/-- An entry that is valid and not a pointer to a table. -/
def IsLeaf (d : Word) : Prop :=
  d.toNat % 2 = 1 ∧ d.toNat / 2 % 8 ≠ 0

/-- A level with leaves of `2 ^ shift` bytes. There is a fault where reserved bits are set, at memory that is written but
not read, without the bit A, and where a leaf is not aligned to its size. -/
def sv39Level (shift : Nat) : Level Unit where
  shift := shift
  decode d :=
    if d.toNat % 2 = 0 ∨ d.toNat / 2 ^ 54 ≠ 0 then .invalid
    else if d.toNat / 2 % 8 = 0 then .table (BitVec.ofNat 64 (pteAddr d))
    else if d.toNat / 2 % 4 = 0b10 ∨ d.toNat / 2 ^ 6 % 2 = 0 ∨ pteAddr d % 2 ^ shift ≠ 0 then .invalid
    else .leaf (pteAddr d) ()

def sv39Levels : List (Level Unit) :=
  [sv39Level 30, sv39Level 21, sv39Level 12]

/-- The addresses of Sv39: the bits from 38 on are the same. -/
def Canonical (va : Word) : Prop :=
  va.toNat < 2 ^ 38 ∨ 2 ^ 64 - 2 ^ 38 ≤ va.toNat

instance (va : Word) : Decidable (Canonical va) :=
  inferInstanceAs (Decidable (_ ∨ _))

/-- The translation with `boot_lvl1_pt` in `satp` (`arch_mmu_enable`, `mmu.c`). -/
def translate (mem : Word → Byte) (s : Symbols) (va : Word) : Option Nat :=
  if Canonical va then (walk mem sv39Levels s.lvl1.1 va.toNat).map Prod.fst else none

/-! ## What the entries say -/

section entries

variable {addr d : Word} {bits : Nat}

/-- An address of the memory. -/
def Physical (addr : Word) : Prop :=
  addr.toNat < 2 ^ 56

lemma ptIndex_eq (addr : Word) (level : Nat) : ptIndex 3 addr level =
    addr.toNat / 2 ^ (9 * (3 - level) + 12) % 512 := by
  unfold ptIndex
  rw [BitVec.toNat_umod, BitVec.toNat_ushiftRight, Nat.shiftRight_eq_div_pow]
  rfl

lemma toNat_ptePpn (h : Physical addr) : (ptePpn addr).toNat = 2 ^ 10 * (addr.toNat / 2 ^ 12) := by
  unfold Physical at h
  rw [ptePpn, BitVec.toNat_shiftLeft, BitVec.toNat_ushiftRight, Nat.shiftLeft_eq, Nat.shiftRight_eq_div_pow, pageShift,
    ptePpn0Shift]
  omega

lemma toNat_pteNext (h : Physical addr) : (pteNext addr).toNat = 2 ^ 10 * (addr.toNat / 2 ^ 12) + 1 := by
  rw [pteNext, BitVec.or_assoc, BitVec.toNat_or, toNat_ptePpn h]
  exact (Nat.two_pow_add_eq_or_of_lt (b := 1) (by decide) _).symm

lemma toNat_pteLeaf (h : Physical addr) : (pteLeaf addr).toNat = 2 ^ 10 * (addr.toNat / 2 ^ 12) + 0b11001111 := by
  rw [pteLeaf, BitVec.or_assoc, BitVec.toNat_or, toNat_ptePpn h]
  exact (Nat.two_pow_add_eq_or_of_lt (b := 0b11001111) (by decide) _).symm

lemma decode_pteNext (h : Physical addr) (halign : addr.toNat % 2 ^ 12 = 0) : (sv39Level bits).decode (pteNext addr) =
    .table addr := by
  unfold Physical at h
  have hentry := toNat_pteNext h
  have haddr : pteAddr (pteNext addr) = addr.toNat := by
    rw [pteAddr, hentry]
    omega
  unfold sv39Level
  dsimp only
  rw [if_neg (by omega), if_pos (by omega), haddr, BitVec.ofNat_toNat, BitVec.setWidth_eq]

lemma pteAddr_pteLeaf (h : Physical addr) : pteAddr (pteLeaf addr) = addr.toNat / 2 ^ 12 * 2 ^ 12 := by
  unfold Physical at h
  rw [pteAddr, toNat_pteLeaf h]
  omega

lemma decode_pteLeaf (h : Physical addr) (hbits : 12 ≤ bits) (halign : addr.toNat % 2 ^ bits = 0) :
    (sv39Level bits).decode (pteLeaf addr) = .leaf addr.toNat () := by
  have hentry := toNat_pteLeaf h
  have hpage : addr.toNat % 2 ^ 12 = 0 := by
    have hdvd : 2 ^ 12 ∣ addr.toNat := (pow_dvd_pow 2 hbits).trans (Nat.dvd_of_mod_eq_zero halign)
    exact Nat.mod_eq_zero_of_dvd hdvd
  have haddr : pteAddr (pteLeaf addr) = addr.toNat := by
    rw [pteAddr_pteLeaf h]
    omega
  unfold Physical at h
  unfold sv39Level
  dsimp only
  rw [if_neg (by omega), if_neg (by omega), haddr, if_neg (by omega)]

end entries

/-! ## The tables -/

section tables

variable {elf : ElfFile} {addr firstVaddr firstPaddr n : Word} {bits first page : Nat} {name : String}
  {t t' : PageTable} {vars : List PagetableVar} {s : Symbols}

/-- The leaves of a loop. -/
def leaves (bits : Nat) (addr : Word) (page : Nat) : Word :=
  pteLeaf (leafAddr bits addr page)

/-- The addresses of a loop over leaves are aligned to their size. -/
def LeavesAligned (bits : Nat) (addr : Word) (count : Nat) : Prop :=
  ∀ page < count, isMultipleOf (leafAddr bits addr page) (1#64 <<< bits)

lemma mapLeaves_ok : mapLeaves bits name t first addr = .ok t' ↔
    LeavesAligned bits addr (512 - first) ∧ t.fill first (512 - first) (leaves bits addr) = t' := by
  unfold mapLeaves
  refine foldlM_put (fun t k t' => ?_) _ t t'
  rw [failIf_bind, not_not, pure_ok]
  rfl

/-- The kernel starts at a multiple of 2 MiB. -/
def Whole (firstVaddr : Word) : Prop :=
  isMultipleOf firstVaddr (1#64 <<< blockBits2mb)

instance (firstVaddr : Word) : Decidable (Whole firstVaddr) :=
  inferInstanceAs (Decidable (isMultipleOf _ _))

/-- The index of the first leaf of 2 MiB of the kernel. -/
def leavesStart (firstVaddr : Word) : Nat :=
  if Whole firstVaddr then ptIndex 3 firstVaddr 2 else ptIndex 3 firstVaddr 2 + 1

def lvl1Table (s : Symbols) (firstVaddr : Word) : PageTable :=
  (PageTable.zero.put (ptIndex 3 s.text 1) (pteNext s.lvl2Loader.1)).put (ptIndex 3 firstVaddr 1) (pteNext s.lvl2.1)

def startTable (s : Symbols) (firstVaddr : Word) : PageTable :=
  if Whole firstVaddr then PageTable.zero else PageTable.zero.put (ptIndex 3 firstVaddr 2) (pteNext s.lvl3.1)

def lvl2Table (s : Symbols) (firstVaddr firstPaddr : Word) : PageTable :=
  (startTable s firstVaddr).fill (leavesStart firstVaddr) (512 - leavesStart firstVaddr)
    (leaves blockBits2mb (roundUp firstPaddr (1#64 <<< blockBits2mb)))

def lvl3Table (firstVaddr firstPaddr : Word) : PageTable :=
  if Whole firstVaddr then PageTable.zero
  else PageTable.zero.fill (ptIndex 3 firstVaddr 3) (512 - ptIndex 3 firstVaddr 3) (leaves pageBits4k firstPaddr)

def lvl2LoaderTable (s : Symbols) : PageTable :=
  PageTable.zero.fill (ptIndex 3 s.text 2) (512 - ptIndex 3 s.text 2) (leaves blockBits2mb s.text)

def tablesOf (s : Symbols) (firstVaddr firstPaddr : Word) : List PagetableVar :=
  [tableVar s.lvl1 (lvl1Table s firstVaddr), tableVar s.lvl2 (lvl2Table s firstVaddr firstPaddr),
    tableVar s.lvl3 (lvl3Table firstVaddr firstPaddr), tableVar s.lvl2Loader (lvl2LoaderTable s)]

/-- What is checked while the tables are filled. -/
structure Checked (elf : ElfFile) (firstVaddr firstPaddr : Word) (s : Symbols) : Prop where
  found : grabSymbols elf = .ok s
  text : isMultipleOf s.text (1#64 <<< blockBits2mb)
  start : ¬ Whole firstVaddr →
    LeavesAligned pageBits4k firstPaddr (512 - ptIndex 3 firstVaddr 3) ∧ isMultipleOf s.lvl3.1 (1#64 <<< pageBits4k)
  rest : LeavesAligned blockBits2mb (roundUp firstPaddr (1#64 <<< blockBits2mb)) (512 - leavesStart firstVaddr)

lemma mapStart_ok {r : PageTable × PageTable × Nat} : mapStart 3 s.lvl3.1 firstVaddr firstPaddr = .ok r ↔
    (¬ Whole firstVaddr →
      LeavesAligned pageBits4k firstPaddr (512 - ptIndex 3 firstVaddr 3) ∧ isMultipleOf s.lvl3.1 (1#64 <<< pageBits4k)) ∧
      (startTable s firstVaddr, lvl3Table firstVaddr firstPaddr, leavesStart firstVaddr) = r := by
  unfold mapStart startTable lvl3Table leavesStart
  dsimp only
  by_cases hwhole : Whole firstVaddr
  · have hmultiple : isMultipleOf firstVaddr (1#64 <<< blockBits2mb) := hwhole
    rw [if_neg (not_not.mpr hmultiple), if_pos hwhole, if_pos hwhole, if_pos hwhole, pure_ok]
    exact ⟨fun h => ⟨absurd hwhole, h⟩, fun h => h.2⟩
  · have hmultiple : ¬ isMultipleOf firstVaddr (1#64 <<< blockBits2mb) := hwhole
    rw [if_pos hmultiple, if_neg hwhole, if_neg hwhole, if_neg hwhole, bind_ok]
    constructor
    · rintro ⟨_, hlvl3, h⟩
      obtain ⟨haligned, rfl⟩ := mapLeaves_ok.mp hlvl3
      obtain ⟨htable, h⟩ := failIf_bind.mp h
      exact ⟨fun _ => ⟨haligned, not_not.mp htable⟩, pure_ok.mp h⟩
    · rintro ⟨h, hr⟩
      obtain ⟨haligned, htable⟩ := h hwhole
      exact ⟨_, mapLeaves_ok.mpr ⟨haligned, rfl⟩, failIf_bind.mpr ⟨not_not.mpr htable, pure_ok.mpr hr⟩⟩

/-- What the tables are. -/
lemma setup_ok : riscv64SetupPagetables (some .sv39) elf firstVaddr firstPaddr = .ok vars ↔
    ∃ s, Checked elf firstVaddr firstPaddr s ∧ tablesOf s firstVaddr firstPaddr = vars := by
  unfold riscv64SetupPagetables
  simp only [PageTable.foldl_put]
  constructor
  · intro h
    obtain ⟨s, hs, h⟩ := bind_ok.mp h
    obtain ⟨htext, h⟩ := failIf_bind.mp h
    obtain ⟨_, hlevels, h⟩ := bind_ok.mp h
    obtain rfl := Option.some.inj (orFail_ok.mp hlevels)
    obtain ⟨_, hstart, h⟩ := bind_ok.mp h
    obtain ⟨hlvl3, rfl⟩ := mapStart_ok.mp hstart
    obtain ⟨_, hrest, h⟩ := bind_ok.mp h
    obtain ⟨hlvl2, rfl⟩ := mapLeaves_ok.mp hrest
    exact ⟨s, ⟨hs, not_not.mp htext, hlvl3, hlvl2⟩, pure_ok.mp h⟩
  · rintro ⟨s, h, rfl⟩
    refine bind_ok.mpr ⟨s, h.found, failIf_bind.mpr ⟨not_not.mpr h.text, ?_⟩⟩
    refine bind_ok.mpr ⟨_, orFail_ok.mpr rfl, ?_⟩
    refine bind_ok.mpr ⟨_, mapStart_ok.mpr ⟨h.start, rfl⟩, ?_⟩
    exact bind_ok.mpr ⟨_, mapLeaves_ok.mpr ⟨h.rest, rfl⟩, rfl⟩

/-! ### Alignment -/

lemma isMultipleOf_iff (hbits : bits < 64) : isMultipleOf n (1#64 <<< bits) ↔ n.toNat % 2 ^ bits = 0 := by
  unfold isMultipleOf
  rw [← BitVec.twoPow_eq, BitVec.toNat_eq, BitVec.toNat_umod, BitVec.toNat_twoPow_of_lt hbits]
  rfl

lemma whole_iff : Whole firstVaddr ↔ firstVaddr.toNat % 2 ^ 21 = 0 :=
  isMultipleOf_iff (by decide)

lemma toNat_leafAddr (hbits : bits ≤ 21) (hpage : page < 512) (haddr : addr.toNat + 2 ^ 30 ≤ 2 ^ 64) :
    (leafAddr bits addr page).toNat = addr.toNat + page * 2 ^ bits := by
  have hle : page * 2 ^ bits ≤ 511 * 2 ^ 21 :=
    Nat.mul_le_mul (Nat.le_of_lt_succ hpage) (Nat.pow_le_pow_right (by decide) hbits)
  rw [leafAddr, BitVec.toNat_add, BitVec.toNat_shiftLeft, BitVec.toNat_ofNat, Nat.shiftLeft_eq,
    Nat.mod_eq_of_lt (show page < 2 ^ 64 by omega), Nat.mod_eq_of_lt (show page * 2 ^ bits < 2 ^ 64 by omega),
    Nat.mod_eq_of_lt (by omega)]

lemma leavesAligned (hbits : bits ≤ 21) {count : Nat} (hcount : count ≤ 512) (haddr : addr.toNat + 2 ^ 30 ≤ 2 ^ 64)
    (halign : addr.toNat % 2 ^ bits = 0) : LeavesAligned bits addr count := by
  intro page hpage
  rw [isMultipleOf_iff (by omega), toNat_leafAddr hbits (by omega) haddr, Nat.add_mul_mod_self_right, halign]

/-- The first multiple of 2 MiB from an address on. -/
lemma toNat_roundUp (h : addr.toNat + 2 ^ 21 ≤ 2 ^ 64) :
    (roundUp addr (1#64 <<< blockBits2mb)).toNat = (addr.toNat + (2 ^ 21 - 1)) / 2 ^ 21 * 2 ^ 21 := by
  have hmod : (addr % (1#64 <<< blockBits2mb)).toNat = addr.toNat % 2 ^ 21 := BitVec.toNat_umod
  unfold roundUp
  dsimp only
  by_cases hzero : addr % (1#64 <<< blockBits2mb) = 0
  · rw [hzero] at hmod
    rw [if_pos hzero]
    change 0 = _ at hmod
    omega
  · have hne : addr.toNat % 2 ^ 21 ≠ 0 := fun heq => hzero (BitVec.eq_of_toNat_eq (hmod.trans heq))
    have hstep : (1#64 <<< blockBits2mb).toNat = 2 ^ 21 := rfl
    rw [if_neg hzero, BitVec.toNat_sub, BitVec.toNat_add, hmod, hstep]
    omega

end tables

end NexsKernel.Tables.Riscv
