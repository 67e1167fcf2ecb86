import NexsKernel.Tool.LoaderTables

/-!
# Page tables of the AArch64 loader

`Loader::aarch64_setup_pagetables` (`loader.rs`) fills six tables: for the loader, which is mapped to itself by blocks of
2 MiB, for the UART, in a block of 1 GiB, and for the kernel, from its first address to the end of its GiB. The loader
enables the MMU with `boot_lvl0_lower` in `TTBR0_EL2`, or in EL1 with `boot_lvl0_lower` in `TTBR0_EL1` and
`boot_lvl0_upper` in `TTBR1_EL1` (`util64.S`).

`setup_ok` says what the tables are.
-/

namespace NexsKernel.Tables.Aarch64

open Bytes Checks PageWalk
open Image hiding ElfFile
open Elf (ElfFile)
open Sdf (Failure Config)

/-! ## Descriptors -/

def mask (n : Nat) : Word :=
  (1#64 <<< n) - 1

def lvl0Bits : Nat := 9
def lvl1Bits : Nat := 9
def lvl2Bits : Nat := 9

/-- `BLOCK_BITS_1GB`. -/
def blockBits1gb : Nat := 30

/-- `BLOCK_BITS_2MB`. -/
def blockBits2mb : Nat := 21

def lvl0Index (addr : Word) : Nat :=
  ((addr >>> (blockBits2mb + lvl2Bits + lvl1Bits)) &&& mask lvl0Bits).toNat

def lvl1Index (addr : Word) : Nat :=
  ((addr >>> (blockBits2mb + lvl2Bits)) &&& mask lvl1Bits).toNat

def lvl2Index (addr : Word) : Nat :=
  ((addr >>> blockBits2mb) &&& mask lvl2Bits).toNat

inductive MemAttr where
  | stage1 (attrIndex : Word)
  | stage2 (memAttr : Word)
  deriving DecidableEq, Repr

namespace MemAttr

def value : MemAttr → Word
  | stage1 attrIndex => attrIndex
  | stage2 memAttr => memAttr

/-- `s1_mair_attr_index::MT_NORMAL`. -/
def mtNormal : Word := 0b100

/-- `s1_mair_attr_index::MT_DEVICE_nGnRnE`. -/
def mtDeviceNGnRnE : Word := 0b000

/-- `s2_mem_attr::NORMAL_INNER_WBC_OUTER_WBC`. -/
def normalInnerWbcOuterWbc : Word := 0b1111

/-- `s2_mem_attr::DEVICE_nGnRnE`. -/
def deviceNGnRnE : Word := 0b0000

def isNormalCacheable : MemAttr → Bool
  | stage1 attrIndex => attrIndex = mtNormal
  | stage2 memAttr => memAttr = normalInnerWbcOuterWbc

end MemAttr

/-- `lower_attributes`: the access flag, `AP_KERNEL_RW`, the shareability and the memory attribute. -/
def lowerAttributes (memAttr : MemAttr) : Word :=
  let shareability : Word := if memAttr.isNormalCacheable then 0b11 else 0b10
  (1#64 <<< 10) ||| (0b00#64 <<< 6) ||| (shareability <<< 8) ||| (memAttr.value <<< 2)

/-- The bits of the addresses in a block. -/
def blockBits (level : Nat) : Except Failure Nat :=
  match level with
  | 1 => .ok blockBits1gb
  | 2 => .ok blockBits2mb
  | _ => .error (.panicked s!"unsupported level {level} for block descriptor")

def blockDescriptor (level : Nat) (addr : Word) (memAttr : MemAttr) : Except Failure Word := do
  failIf (level = 3) (.panicked "assertion failed: level != 3")
  let upperAttributes : Word := 0
  let bits ← blockBits level
  let outputAddress := addr &&& ~~~(mask bits)
  failIf (addr &&& mask 48 ≠ addr) (.panicked "assertion failed: addr & mask(48) == addr")
  return upperAttributes ||| outputAddress ||| lowerAttributes memAttr ||| 0b01

def tableDescriptor (addr : Word) : Except Failure Word := do
  let attributes : Word := 0
  failIf (addr &&& mask 12 ≠ 0) (.panicked "assertion failed: addr & mask(12) == 0x0")
  failIf (addr &&& mask 48 ≠ addr) (.panicked "assertion failed: addr & mask(48) == addr")
  return attributes ||| addr ||| 0b11

/-! ## `aarch64_setup_pagetables` -/

/-- The symbols that are needed. -/
structure Symbols where
  lvl0Lower : Word × Word
  lvl1Lower : Word × Word
  lvl2Lower : Word × Word
  lvl0Upper : Word × Word
  lvl1Upper : Word × Word
  lvl2Upper : Word × Word
  loaderStart : Word
  loaderEnd : Word

def grabSymbols (elf : ElfFile) : Except Failure Symbols := do
  let lvl1Lower ← grabSymbol elf "boot_lvl1_lower"
  let lvl1Upper ← grabSymbol elf "boot_lvl1_upper"
  let lvl2Upper ← grabSymbol elf "boot_lvl2_upper"
  let lvl0Lower ← grabSymbol elf "boot_lvl0_lower"
  let lvl0Upper ← grabSymbol elf "boot_lvl0_upper"
  let lvl2Lower ← grabSymbol elf "boot_lvl2_lower"
  let loaderStart ← grabSymbol elf "_loader_start"
  let loaderEnd ← grabSymbol elf "_loader_end"
  return ⟨lvl0Lower, lvl1Lower, lvl2Lower, lvl0Upper, lvl1Upper, lvl2Upper, loaderStart.1, loaderEnd.1⟩

def memattrNormal (config : Config) : MemAttr :=
  if config.hypervisor then .stage2 MemAttr.normalInnerWbcOuterWbc else .stage1 MemAttr.mtNormal

def memattrDevice (config : Config) : MemAttr :=
  if config.hypervisor then .stage2 MemAttr.deviceNGnRnE else .stage1 MemAttr.mtDeviceNGnRnE

/-- The value of `uart_addr`, if there is such a variable. -/
def uartBase (elf : ElfFile) : Except Failure (Option Word) :=
  match elf.findSymbol "uart_addr" with
  | .error _ => return none
  | .ok (uartAddr, uartAddrSize) => do
    let data ← elf.getData uartAddr uartAddrSize
    let data ← orFail data (.panicked "uart_addr not initialized")
    let base ← slice data 0 8
    return some (BitVec.ofNat 64 (decode base))

/-- The block of the UART. -/
def mapUart (elf : ElfFile) (memAttr : MemAttr) (t : PageTable) : Except Failure PageTable := do
  match ← uartBase elf with
  | none => return t
  | some base =>
    let ptEntry ← blockDescriptor 1 base memAttr
    return t.put (lvl1Index base) ptEntry

/-- A loop that puts `count` blocks of 2 MiB, from an index on. -/
def mapBlocks (t : PageTable) (first count : Nat) (addr : Word) (memAttr : MemAttr) : Except Failure PageTable :=
  (List.range count).foldlM (fun t k => do
    let ptEntry ← blockDescriptor 2 (addr + BitVec.ofNat 64 (k <<< blockBits2mb)) memAttr
    return t.put (first + k) ptEntry) t

/-- The block at address 0, if there is a variable `cpus_release_addr`. -/
def mapReleaseAddr (elf : ElfFile) (loaderStart : Word) (memAttr : MemAttr) (t : PageTable) :
    Except Failure PageTable :=
  match elf.findSymbol "cpus_release_addr" with
  | .error _ => return t
  | .ok _ => do
    let lvl2Idx := lvl2Index 0
    failIf (lvl2Index loaderStart = lvl2Idx)
      (.panicked "assertion failed: aarch64::lvl2_index(loader_start_addr) != lvl2_idx")
    failIf (lvl1Index loaderStart ≠ lvl1Index 0)
      (.panicked "assertion failed: aarch64::lvl1_index(loader_start_addr) == aarch64::lvl1_index(0)")
    let ptEntry ← blockDescriptor 2 (BitVec.ofNat 64 lvl2Idx) memAttr
    return t.put lvl2Idx ptEntry

def aarch64SetupPagetables (config : Config) (elf : ElfFile) (firstVaddr firstPaddr : Word) :
    Except Failure (List PagetableVar) := do
  let s ← grabSymbols elf
  failIf (lvl1Index s.loaderStart ≠ lvl1Index s.loaderEnd)
    (.panicked "We only map 1GiB, but loader paddr range covers multiple GiB")
  let ptEntry ← tableDescriptor s.lvl1Lower.1
  let lvl0Lower := PageTable.zero.put 0 ptEntry
  let lvl1Lower ← mapUart elf (memattrDevice config) PageTable.zero
  let ptEntry ← tableDescriptor s.lvl2Lower.1
  let lvl1Lower := lvl1Lower.put (lvl1Index s.loaderStart) ptEntry
  let lvl2Idx := lvl2Index s.loaderStart
  let lvl2Lower ← mapBlocks PageTable.zero lvl2Idx (lvl2Index s.loaderEnd + 1 - lvl2Idx) s.loaderStart
    (memattrDevice config)
  let lvl2Lower ← mapReleaseAddr elf s.loaderStart (memattrDevice config) lvl2Lower
  let lvl0Upper := PageTable.zero
  let ptEntry ← tableDescriptor s.lvl1Upper.1
  -- the entry for the upper half is put into the table of the lower half
  let lvl0Lower := lvl0Lower.put (lvl0Index firstVaddr) ptEntry
  let ptEntry ← tableDescriptor s.lvl2Upper.1
  let lvl1Upper := PageTable.zero.put (lvl1Index firstVaddr) ptEntry
  let lvl2Idx := lvl2Index firstVaddr
  let lvl2Upper ← mapBlocks PageTable.zero lvl2Idx (512 - lvl2Idx) firstPaddr (memattrNormal config)
  return [tableVar s.lvl0Lower lvl0Lower, tableVar s.lvl1Lower lvl1Lower, tableVar s.lvl0Upper lvl0Upper,
    tableVar s.lvl1Upper lvl1Upper, tableVar s.lvl2Upper lvl2Upper, tableVar s.lvl2Lower lvl2Lower]

/-! ## The MMU -/

/-- The address of the next table, in bits[47:12]. -/
def nextTable (d : Word) : Word :=
  BitVec.ofNat 64 (d.toNat % 2 ^ 48 / 2 ^ 12 * 2 ^ 12)

/-- The memory attribute, in bits[5:2]. -/
def attrField (d : Word) : Nat :=
  d.toNat / 2 ^ 2 % 2 ^ 4

/-- The memory that a block or page stands for, in bits[47:n]. Without the access flag there is a fault. -/
def leafEntry (n : Nat) (d : Word) : Entry Nat :=
  if d.toNat / 2 ^ 10 % 2 = 0 then .invalid else .leaf (d.toNat % 2 ^ 48 / 2 ^ n * 2 ^ n) (attrField d)

/-- On level 0 there are no blocks. -/
def level0 : Level Nat where
  shift := 39
  decode d := if d.toNat % 4 = 0b11 then .table (nextTable d) else .invalid

/-- A level with blocks of `2 ^ shift` bytes. -/
def blockLevel (shift : Nat) : Level Nat where
  shift := shift
  decode d :=
    if d.toNat % 4 = 0b11 then .table (nextTable d)
    else if d.toNat % 4 = 0b01 then leafEntry shift d
    else .invalid

/-- The level of the pages. -/
def level3 : Level Nat where
  shift := 12
  decode d := if d.toNat % 4 = 0b11 then leafEntry 12 d else .invalid

/-- The levels of the 4 KiB granule. -/
def mmuLevels : List (Level Nat) :=
  [level0, blockLevel 30, blockLevel 21, level3]

/-- The translation in EL2 (`el2_mmu_enable`), of addresses with 48 bits: the address and the memory attribute. -/
def translateEl2 (mem : Word → Byte) (s : Symbols) (va : Word) : Option (Nat × Nat) :=
  if va.toNat < 2 ^ 48 then walk mem mmuLevels s.lvl0Lower.1 va.toNat else none

/-- The translation in EL1 (`el1_mmu_enable`): the lower half with `TTBR0_EL1`, the upper half with `TTBR1_EL1`. -/
def translateEl1 (mem : Word → Byte) (s : Symbols) (va : Word) : Option (Nat × Nat) :=
  if va.toNat < 2 ^ 48 then walk mem mmuLevels s.lvl0Lower.1 va.toNat
  else if 2 ^ 64 - 2 ^ 48 ≤ va.toNat then walk mem mmuLevels s.lvl0Upper.1 va.toNat
  else none

/-! ## Arithmetic -/

section arithmetic

variable {addr : Word} {n : Nat}

lemma mask_toNat (hn : n < 64) : (mask n).toNat = 2 ^ n - 1 := by
  have hpow : 2 ^ n < 2 ^ 64 := Nat.pow_lt_pow_right (by decide) hn
  have hone : (1#64 <<< n).toNat = 2 ^ n := by
    rw [BitVec.toNat_shiftLeft, Nat.shiftLeft_eq]
    exact (congrArg (· % 2 ^ 64) (Nat.one_mul _)).trans (Nat.mod_eq_of_lt hpow)
  have hle : (1 : Word) ≤ 1#64 <<< n := by
    rw [BitVec.le_def, hone]
    exact Nat.one_le_two_pow
  rw [mask, BitVec.toNat_sub_of_le hle, hone]
  rfl

lemma getLsbD_mask (hn : n < 64) (i : Nat) : (mask n).getLsbD i = decide (i < n) := by
  rw [BitVec.getLsbD, mask_toNat hn, Nat.testBit_two_pow_sub_one]

/-- The part of an address above a mask. -/
lemma and_not_mask (hn : n < 64) (addr : Word) : (addr &&& ~~~(mask n)).toNat = addr.toNat / 2 ^ n * 2 ^ n := by
  have hshift : addr &&& ~~~(mask n) = (addr >>> n) <<< n := by
    apply BitVec.eq_of_getLsbD_eq
    intro i hi
    rw [BitVec.getLsbD_and, BitVec.getLsbD_not, getLsbD_mask hn, BitVec.getLsbD_shiftLeft, BitVec.getLsbD_ushiftRight]
    by_cases h : i < n
    · simp [h]
    · simp [h, hi, Nat.add_sub_cancel' (Nat.le_of_not_lt h)]
  have hle := Nat.div_mul_le_self addr.toNat (2 ^ n)
  rw [hshift, BitVec.toNat_shiftLeft, BitVec.toNat_ushiftRight, Nat.shiftLeft_eq, Nat.shiftRight_eq_div_pow,
    Nat.mod_eq_of_lt (lt_of_le_of_lt hle addr.isLt)]

lemma and_mask_eq_iff (hn : n < 64) (addr : Word) : addr &&& mask n = addr ↔ addr.toNat < 2 ^ n := by
  have hand : (addr &&& mask n).toNat = addr.toNat % 2 ^ n := by
    rw [BitVec.toNat_and, mask_toNat hn, Nat.and_two_pow_sub_one_eq_mod]
  constructor
  · intro h
    rw [← h, hand]
    exact Nat.mod_lt _ (Nat.two_pow_pos n)
  · intro h
    apply BitVec.eq_of_toNat_eq
    rw [hand, Nat.mod_eq_of_lt h]

lemma and_mask_eq_zero_iff (hn : n < 64) (addr : Word) : addr &&& mask n = 0 ↔ addr.toNat % 2 ^ n = 0 := by
  have hand : (addr &&& mask n).toNat = addr.toNat % 2 ^ n := by
    rw [BitVec.toNat_and, mask_toNat hn, Nat.and_two_pow_sub_one_eq_mod]
  rw [← hand]
  exact ⟨fun h => congrArg BitVec.toNat h, fun h => BitVec.eq_of_toNat_eq h⟩

lemma index_eq (addr : Word) (n : Nat) : ((addr >>> n) &&& mask 9).toNat = addr.toNat / 2 ^ n % 512 := by
  rw [BitVec.toNat_and, mask_toNat (by decide), Nat.and_two_pow_sub_one_eq_mod, BitVec.toNat_ushiftRight,
    Nat.shiftRight_eq_div_pow]

lemma lvl0Index_eq (addr : Word) : lvl0Index addr = addr.toNat / 2 ^ 39 % 512 :=
  index_eq addr 39

lemma lvl1Index_eq (addr : Word) : lvl1Index addr = addr.toNat / 2 ^ 30 % 512 :=
  index_eq addr 30

lemma lvl2Index_eq (addr : Word) : lvl2Index addr = addr.toNat / 2 ^ 21 % 512 :=
  index_eq addr 21

end arithmetic

/-! ## What the descriptors say -/

section descriptors

variable {addr d : Word} {memAttr : MemAttr} {bits level : Nat}

/-- The address of a table: aligned to 4 KiB, with 48 bits. -/
def TableAddr (addr : Word) : Prop :=
  addr.toNat % 2 ^ 12 = 0 ∧ addr.toNat < 2 ^ 48

instance (addr : Word) : Decidable (TableAddr addr) :=
  inferInstanceAs (Decidable (_ ∧ _))

def tableEntry (addr : Word) : Word :=
  0#64 ||| addr ||| 0b11

def blockEntry (bits : Nat) (addr : Word) (memAttr : MemAttr) : Word :=
  0#64 ||| (addr &&& ~~~(mask bits)) ||| lowerAttributes memAttr ||| 0b01

lemma tableDescriptor_ok : tableDescriptor addr = .ok d ↔ TableAddr addr ∧ tableEntry addr = d := by
  unfold tableDescriptor
  rw [failIf_bind, failIf_bind, pure_ok, not_not, not_not, and_mask_eq_zero_iff (by decide),
    and_mask_eq_iff (by decide), ← and_assoc]
  rfl

lemma blockDescriptor_ok (hbits : blockBits level = .ok bits) (hlevel : level ≠ 3) :
    blockDescriptor level addr memAttr = .ok d ↔ addr.toNat < 2 ^ 48 ∧ blockEntry bits addr memAttr = d := by
  rw [← and_mask_eq_iff (by decide)]
  unfold blockDescriptor
  rw [failIf_bind, hbits]
  change _ ∧ (failIf _ _ >>= _) = _ ↔ _
  rw [failIf_bind, pure_ok, not_not]
  exact and_iff_right hlevel

lemma toNat_tableEntry (h : TableAddr addr) : (tableEntry addr).toNat = addr.toNat + 3 := by
  have hmul : addr.toNat = 2 ^ 12 * (addr.toNat / 2 ^ 12) := by
    have hdiv := Nat.div_add_mod addr.toNat (2 ^ 12)
    rw [h.1] at hdiv
    exact hdiv.symm
  rw [tableEntry, BitVec.zero_or, BitVec.toNat_or, hmul]
  exact (Nat.two_pow_add_eq_or_of_lt (b := 3) (by decide) _).symm

/-- The lower bits of a block: the type, the access flag and the attribute. -/
lemma lowerBits (h : memAttr.value.toNat < 2 ^ 4) :
    ∃ low : Word, low = lowerAttributes memAttr ||| 0b01 ∧ low.toNat < 2 ^ 12 ∧ low.toNat % 4 = 1 ∧
    low.toNat / 2 ^ 10 % 2 = 1 ∧ low.toNat / 2 ^ 2 % 2 ^ 4 = memAttr.value.toNat := by
  have hall : ∀ (cacheable : Bool) (v : Fin 16),
      let low : Word := (1#64 <<< 10) ||| (0b00#64 <<< 6) ||| ((if cacheable then 0b11#64 else 0b10#64) <<< 8) |||
        (BitVec.ofNat 64 v.val <<< 2) ||| 0b01
      low.toNat < 2 ^ 12 ∧ low.toNat % 4 = 1 ∧ low.toNat / 2 ^ 10 % 2 = 1 ∧ low.toNat / 2 ^ 2 % 2 ^ 4 = v.val := by
    decide
  have hvalue : BitVec.ofNat 64 memAttr.value.toNat = memAttr.value := by
    rw [BitVec.ofNat_toNat, BitVec.setWidth_eq]
  have hlow := hall memAttr.isNormalCacheable ⟨memAttr.value.toNat, h⟩
  dsimp only at hlow
  rw [hvalue] at hlow
  exact ⟨_, rfl, hlow⟩

lemma toNat_blockEntry (addr : Word) (h : memAttr.value.toNat < 2 ^ 4) (hbits : 12 ≤ bits) (hbits' : bits < 64) :
    ∃ low, (blockEntry bits addr memAttr).toNat = addr.toNat / 2 ^ bits * 2 ^ bits + low ∧ low < 2 ^ 12 ∧ low % 4 = 1 ∧
      low / 2 ^ 10 % 2 = 1 ∧ low / 2 ^ 2 % 2 ^ 4 = memAttr.value.toNat := by
  obtain ⟨low, hlow, hlt, hrest⟩ := lowerBits h
  refine ⟨low.toNat, ?_, hlt, hrest⟩
  have hlt' : low.toNat < 2 ^ bits := lt_of_lt_of_le hlt (Nat.pow_le_pow_right (by decide) hbits)
  rw [blockEntry, BitVec.zero_or, BitVec.or_assoc, ← hlow, BitVec.toNat_or, and_not_mask hbits', Nat.mul_comm]
  exact (Nat.two_pow_add_eq_or_of_lt hlt' _).symm

lemma nextTable_tableEntry (h : TableAddr addr) : nextTable (tableEntry addr) = addr := by
  obtain ⟨halign, hlt⟩ := h
  rw [nextTable, toNat_tableEntry ⟨halign, hlt⟩]
  apply BitVec.eq_of_toNat_eq
  rw [BitVec.toNat_ofNat]
  omega

/-- A table descriptor says where the next table is, on the levels 0 to 2. -/
lemma level0_tableEntry (h : TableAddr addr) : level0.decode (tableEntry addr) = .table addr := by
  have htype : (tableEntry addr).toNat % 4 = 0b11 := by
    rw [toNat_tableEntry h]
    have halign := h.1
    omega
  change (if (tableEntry addr).toNat % 4 = 0b11 then Entry.table (nextTable (tableEntry addr)) else .invalid) = _
  rw [if_pos htype, nextTable_tableEntry h]

lemma blockLevel_tableEntry (h : TableAddr addr) : (blockLevel bits).decode (tableEntry addr) = .table addr := by
  have htype : (tableEntry addr).toNat % 4 = 0b11 := by
    rw [toNat_tableEntry h]
    have halign := h.1
    omega
  unfold blockLevel
  dsimp only
  rw [if_pos htype, nextTable_tableEntry h]

/-- A block descriptor says what memory the block is, and what its attribute is. -/
lemma blockLevel_blockEntry (bits : Nat) (hbits : 12 ≤ bits) (hbits' : bits < 48) (h : memAttr.value.toNat < 2 ^ 4)
    (haddr : addr.toNat < 2 ^ 48) :
    (blockLevel bits).decode (blockEntry bits addr memAttr) =
      .leaf (addr.toNat / 2 ^ bits * 2 ^ bits) memAttr.value.toNat := by
  obtain ⟨low, hlow, hlt, htype, haccess, hattr⟩ := toNat_blockEntry addr h hbits (by omega)
  -- the address is a multiple of 2 ^ 12, as the bits are no fewer
  obtain ⟨k, hk⟩ : 2 ^ 12 ∣ addr.toNat / 2 ^ bits * 2 ^ bits := Dvd.dvd.mul_left (pow_dvd_pow 2 hbits) _
  have hle := Nat.div_mul_le_self addr.toNat (2 ^ bits)
  have hfour : (blockEntry bits addr memAttr).toNat % 4 = 0b01 := by omega
  have hflag : (blockEntry bits addr memAttr).toNat / 2 ^ 10 % 2 = 1 := by omega
  have hfield : attrField (blockEntry bits addr memAttr) = memAttr.value.toNat := by
    rw [attrField, hlow]
    omega
  have hsmall : low < 2 ^ bits := lt_of_lt_of_le hlt (Nat.pow_le_pow_right (by decide) hbits)
  have hbase : (blockEntry bits addr memAttr).toNat % 2 ^ 48 / 2 ^ bits = addr.toNat / 2 ^ bits := by
    rw [hlow, Nat.mod_eq_of_lt (by omega), Nat.add_comm, Nat.add_mul_div_right _ _ (Nat.two_pow_pos bits),
      Nat.div_eq_of_lt hsmall, Nat.zero_add]
  unfold blockLevel leafEntry
  dsimp only
  rw [if_neg (by omega), if_pos hfour, if_neg (by omega), hbase, hfield]

end descriptors

/-! ## The tables -/

section tables

variable {config : Config} {elf : ElfFile} {addr firstVaddr firstPaddr : Word} {memAttr : MemAttr} {t t' : PageTable}
  {first count : Nat} {vars : List PagetableVar} {s : Symbols} {uart : Option Word}

/-- The addresses of a loop over blocks have 48 bits. -/
def BlocksFit (addr : Word) (count : Nat) : Prop :=
  ∀ k < count, (addr + BitVec.ofNat 64 (k <<< blockBits2mb)).toNat < 2 ^ 48

/-- The entries of a loop over blocks. -/
def blocks (addr : Word) (memAttr : MemAttr) (k : Nat) : Word :=
  blockEntry 21 (addr + BitVec.ofNat 64 (k <<< blockBits2mb)) memAttr

lemma mapBlocks_ok : mapBlocks t first count addr memAttr = .ok t' ↔
    BlocksFit addr count ∧ t.fill first count (blocks addr memAttr) = t' := by
  unfold mapBlocks BlocksFit
  refine foldlM_put (fun t k t' => ?_) count t t'
  rw [bind_ok]
  constructor
  · rintro ⟨d, hd, h⟩
    obtain ⟨hlt, rfl⟩ := (blockDescriptor_ok rfl (by decide)).mp hd
    exact ⟨hlt, pure_ok.mp h⟩
  · rintro ⟨hlt, h⟩
    exact ⟨_, (blockDescriptor_ok rfl (by decide)).mpr ⟨hlt, rfl⟩, pure_ok.mpr h⟩

/-- The variable `cpus_release_addr` exists. -/
def releases (elf : ElfFile) : Bool :=
  (elf.findSymbol "cpus_release_addr").isOk

/-- The number of blocks of the loader. -/
def loaderBlocks (s : Symbols) : Nat :=
  lvl2Index s.loaderEnd + 1 - lvl2Index s.loaderStart

def lvl0LowerTable (s : Symbols) (firstVaddr : Word) : PageTable :=
  (PageTable.zero.put 0 (tableEntry s.lvl1Lower.1)).put (lvl0Index firstVaddr) (tableEntry s.lvl1Upper.1)

def uartTable (config : Config) : Option Word → PageTable
  | none => PageTable.zero
  | some base => PageTable.zero.put (lvl1Index base) (blockEntry 30 base (memattrDevice config))

def lvl1LowerTable (config : Config) (s : Symbols) (uart : Option Word) : PageTable :=
  (uartTable config uart).put (lvl1Index s.loaderStart) (tableEntry s.lvl2Lower.1)

def loaderTable (config : Config) (s : Symbols) : PageTable :=
  PageTable.zero.fill (lvl2Index s.loaderStart) (loaderBlocks s) (blocks s.loaderStart (memattrDevice config))

def lvl2LowerTable (config : Config) (s : Symbols) (release : Bool) : PageTable :=
  if release then (loaderTable config s).put (lvl2Index 0) (blockEntry 21 (BitVec.ofNat 64 (lvl2Index 0))
    (memattrDevice config))
  else loaderTable config s

def lvl1UpperTable (s : Symbols) (firstVaddr : Word) : PageTable :=
  PageTable.zero.put (lvl1Index firstVaddr) (tableEntry s.lvl2Upper.1)

def lvl2UpperTable (config : Config) (firstVaddr firstPaddr : Word) : PageTable :=
  PageTable.zero.fill (lvl2Index firstVaddr) (512 - lvl2Index firstVaddr) (blocks firstPaddr (memattrNormal config))

def tablesOf (config : Config) (s : Symbols) (uart : Option Word) (release : Bool) (firstVaddr firstPaddr : Word) :
    List PagetableVar :=
  [tableVar s.lvl0Lower (lvl0LowerTable s firstVaddr), tableVar s.lvl1Lower (lvl1LowerTable config s uart),
    tableVar s.lvl0Upper PageTable.zero, tableVar s.lvl1Upper (lvl1UpperTable s firstVaddr),
    tableVar s.lvl2Upper (lvl2UpperTable config firstVaddr firstPaddr), tableVar s.lvl2Lower (lvl2LowerTable config s release)]

/-- What is checked while the tables are filled. -/
structure Checked (elf : ElfFile) (firstVaddr firstPaddr : Word) (s : Symbols) (uart : Option Word) : Prop where
  found : grabSymbols elf = .ok s
  uartFound : uartBase elf = .ok uart
  loaderIndex : lvl1Index s.loaderStart = lvl1Index s.loaderEnd
  lvl1Lower : TableAddr s.lvl1Lower.1
  uartFits : ∀ base ∈ uart, base.toNat < 2 ^ 48
  lvl2Lower : TableAddr s.lvl2Lower.1
  loaderFits : BlocksFit s.loaderStart (loaderBlocks s)
  released : releases elf = true → lvl2Index s.loaderStart ≠ lvl2Index 0 ∧ lvl1Index s.loaderStart = lvl1Index 0
  lvl1Upper : TableAddr s.lvl1Upper.1
  lvl2Upper : TableAddr s.lvl2Upper.1
  kernelFits : BlocksFit firstPaddr (512 - lvl2Index firstVaddr)

lemma mapUart_ok : mapUart elf (memattrDevice config) PageTable.zero = .ok t' ↔
    ∃ uart, uartBase elf = .ok uart ∧ (∀ base ∈ uart, base.toNat < 2 ^ 48) ∧ uartTable config uart = t' := by
  unfold mapUart
  rw [bind_ok]
  refine exists_congr fun uart => and_congr_right fun _ => ?_
  cases uart with
  | none =>
    change pure _ = _ ↔ _
    rw [pure_ok]
    exact ⟨fun h => ⟨nofun, h⟩, fun h => h.2⟩
  | some base =>
    change (blockDescriptor 1 base _ >>= _) = _ ↔ _
    rw [bind_ok]
    constructor
    · rintro ⟨d, hd, h⟩
      obtain ⟨hlt, rfl⟩ := (blockDescriptor_ok rfl (by decide)).mp hd
      exact ⟨fun base' hbase => Option.some.inj hbase ▸ hlt, pure_ok.mp h⟩
    · rintro ⟨hlt, rfl⟩
      exact ⟨_, (blockDescriptor_ok rfl (by decide)).mpr ⟨hlt base rfl, rfl⟩, rfl⟩

lemma mapReleaseAddr_ok {loaderStart : Word} : mapReleaseAddr elf loaderStart memAttr t = .ok t' ↔
    (releases elf = true → lvl2Index loaderStart ≠ lvl2Index 0 ∧ lvl1Index loaderStart = lvl1Index 0) ∧
      (if releases elf then t.put (lvl2Index 0)
        (blockEntry 21 (BitVec.ofNat 64 (lvl2Index 0)) memAttr) else t) = t' := by
  unfold mapReleaseAddr releases
  cases elf.findSymbol "cpus_release_addr" with
  | error e =>
    change pure _ = _ ↔ _
    rw [pure_ok]
    exact ⟨fun h => ⟨nofun, h⟩, fun h => h.2⟩
  | ok symbol =>
    dsimp only
    rw [failIf_bind, failIf_bind, bind_ok, not_not]
    constructor
    · rintro ⟨h2, h1, d, hd, h⟩
      obtain ⟨-, rfl⟩ := (blockDescriptor_ok rfl (by decide)).mp hd
      exact ⟨fun _ => ⟨h2, h1⟩, pure_ok.mp h⟩
    · rintro ⟨h, rfl⟩
      obtain ⟨h2, h1⟩ := h rfl
      exact ⟨h2, h1, _, (blockDescriptor_ok rfl (by decide)).mpr ⟨by decide, rfl⟩, rfl⟩

/-- What the tables are. -/
lemma setup_ok : aarch64SetupPagetables config elf firstVaddr firstPaddr = .ok vars ↔
    ∃ s uart, Checked elf firstVaddr firstPaddr s uart ∧ tablesOf config s uart
    (releases elf) firstVaddr firstPaddr = vars := by
  unfold aarch64SetupPagetables
  constructor
  · intro h
    obtain ⟨s, hs, h⟩ := bind_ok.mp h
    obtain ⟨hindex, h⟩ := failIf_bind.mp h
    obtain ⟨_, h1, h⟩ := bind_ok.mp h
    obtain ⟨hlvl1Lower, rfl⟩ := tableDescriptor_ok.mp h1
    obtain ⟨_, huart, h⟩ := bind_ok.mp h
    obtain ⟨uart, hbase, huartFits, rfl⟩ := mapUart_ok.mp huart
    obtain ⟨_, h2, h⟩ := bind_ok.mp h
    obtain ⟨hlvl2Lower, rfl⟩ := tableDescriptor_ok.mp h2
    obtain ⟨_, hloader, h⟩ := bind_ok.mp h
    obtain ⟨hloaderFits, rfl⟩ := mapBlocks_ok.mp hloader
    obtain ⟨_, hrelease, h⟩ := bind_ok.mp h
    obtain ⟨hreleased, rfl⟩ := mapReleaseAddr_ok.mp hrelease
    obtain ⟨_, h3, h⟩ := bind_ok.mp h
    obtain ⟨hlvl1Upper, rfl⟩ := tableDescriptor_ok.mp h3
    obtain ⟨_, h4, h⟩ := bind_ok.mp h
    obtain ⟨hlvl2Upper, rfl⟩ := tableDescriptor_ok.mp h4
    obtain ⟨_, hkernel, h⟩ := bind_ok.mp h
    obtain ⟨hkernelFits, rfl⟩ := mapBlocks_ok.mp hkernel
    exact ⟨s, uart, ⟨hs, hbase, not_not.mp hindex, hlvl1Lower, huartFits, hlvl2Lower, hloaderFits,
      hreleased, hlvl1Upper, hlvl2Upper, hkernelFits⟩, pure_ok.mp h⟩
  · rintro ⟨s, uart, h, rfl⟩
    refine bind_ok.mpr ⟨s, h.found, failIf_bind.mpr ⟨not_not.mpr h.loaderIndex, ?_⟩⟩
    refine bind_ok.mpr ⟨_, tableDescriptor_ok.mpr ⟨h.lvl1Lower, rfl⟩, ?_⟩
    refine bind_ok.mpr ⟨_, mapUart_ok.mpr ⟨uart, h.uartFound, h.uartFits, rfl⟩, ?_⟩
    refine bind_ok.mpr ⟨_, tableDescriptor_ok.mpr ⟨h.lvl2Lower, rfl⟩, ?_⟩
    refine bind_ok.mpr ⟨_, mapBlocks_ok.mpr ⟨h.loaderFits, rfl⟩, ?_⟩
    refine bind_ok.mpr ⟨_, mapReleaseAddr_ok.mpr ⟨h.released, rfl⟩, ?_⟩
    refine bind_ok.mpr ⟨_, tableDescriptor_ok.mpr ⟨h.lvl1Upper, rfl⟩, ?_⟩
    refine bind_ok.mpr ⟨_, tableDescriptor_ok.mpr ⟨h.lvl2Upper, rfl⟩, ?_⟩
    exact bind_ok.mpr ⟨_, mapBlocks_ok.mpr ⟨h.kernelFits, rfl⟩, rfl⟩

end tables

/-! ## A loader -/

def bootConfig (hypervisor : Bool) : Config where
  arch := .aarch64
  hypervisor := hypervisor
  benchmark := false
  numCores := 1
  armPaSizeBits := some 40
  armSmc := none
  objectSizes := ⟨11, 4, 6, 5, 13, 12, 21, 12, 12⟩
  pa_size := Sdf.paSize_forty

/-- The symbols of a loader at an address, with their values and sizes. -/
def bootSymbols (start : Word) : List (String × Word × Word) :=
  [("boot_lvl0_lower", start + 0x10000, 0x1000), ("boot_lvl1_lower", start + 0x11000, 0x1000),
    ("boot_lvl2_lower", start + 0x12000, 0x1000), ("boot_lvl0_upper", start + 0x13000, 0x1000),
    ("boot_lvl1_upper", start + 0x14000, 0x1000), ("boot_lvl2_upper", start + 0x15000, 0x1000),
    ("_loader_start", start, 0), ("_loader_end", start + 0x20000, 0)]

/-- A loader at an address, with other symbols and their memory. -/
def bootLoader (start : Word) (others : List (String × Word × Word)) (segments : List FileSegment)
    (vecs : Elf.Vecs segments) : ElfFile where
  path := "loader.elf"
  wordSize := 64
  entry := start
  machine := 183
  segments := segments
  symbols name := ((bootSymbols start ++ others).lookup name).map fun found => (⟨found.1, found.2⟩, false)
  vecs := vecs

/-- What is found in it. -/
def bootFound (start : Word) : Symbols where
  lvl0Lower := (start + 0x10000, 0x1000)
  lvl1Lower := (start + 0x11000, 0x1000)
  lvl2Lower := (start + 0x12000, 0x1000)
  lvl0Upper := (start + 0x13000, 0x1000)
  lvl1Upper := (start + 0x14000, 0x1000)
  lvl2Upper := (start + 0x15000, 0x1000)
  loaderStart := start
  loaderEnd := start + 0x20000

lemma bootLoader_found (start : Word) (others : List (String × Word × Word)) (segments : List FileSegment)
    (vecs : Elf.Vecs segments) : grabSymbols (bootLoader start others segments vecs) = .ok (bootFound start) := by
  rfl

lemma blocksFit_of_lt {addr : Word} {n : Nat} (hn : n ≤ 512) (h : addr.toNat + 2 ^ 30 ≤ 2 ^ 48) : BlocksFit addr n := by
  intro k hk
  rw [BitVec.toNat_add, BitVec.toNat_ofNat, Nat.shiftLeft_eq, blockBits2mb]
  omega

end NexsKernel.Tables.Aarch64
