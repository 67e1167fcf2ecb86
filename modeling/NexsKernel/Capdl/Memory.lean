import NexsKernel.Capdl.Spec

/-!
# Address spaces

`capdl/memory.rs`: an address space is a tree of page table objects. A page is mapped by going down from the root, one
level after the other, to the level at which pages of its size are entered; a table that is missing on the way is
created.
-/

namespace NexsKernel.Capdl

open Sdf

/-- `get_pt_level_name`. -/
def getPtLevelName (config : Config) (level : Nat) : M String :=
  match config.arch with
  | .aarch64 =>
    match level with
    | 0 => pure "pgd"
    | 1 => pure "pud"
    | 2 => pure "pd"
    | 3 => pure "pt"
    | _ => panicWith s!"get_pt_level_name(): internal bug: unknown page table level {level} for aarch64"
  | .riscv64 =>
    match level with
    | 0 => pure "pgd"
    | 1 => pure "pmd"
    | 2 => pure "pte"
    | _ => panicWith s!"get_pt_level_name(): internal bug: unknown page table level {level} for riscv64"
  | .x86_64 =>
    match level with
    | 0 => pure "pml4"
    | 1 => pure "pdpt"
    | 2 => pure "pd"
    | 3 => pure "pt"
    | _ => panicWith s!"get_pt_level_name(): internal bug: unknown page table level {level} for x86_64"

/-- `top_pt_level_number`. -/
def topPtLevelNumber (config : Config) : Nat :=
  if config.arch = .aarch64 ∧ config.aarch64VspaceS2StartL1 = true then 1 else 0

/-- The bits of an address that a level is indexed with. The first level of a stage 2 table with 40 bits has ten. -/
def indexBits (config : Config) (level : Nat) : Nat :=
  if level = topPtLevelNumber config ∧ config.arch = .aarch64 ∧ config.aarch64VspaceS2StartL1 = true then 10 else 9

/-- The bits below them. -/
def indexShift (config : Config) (level : Nat) : Nat :=
  12 + ((List.range' (level + 1) (config.numPageTableLevels - (level + 1))).map (indexBits config)).sum

/-- `get_pt_level_index`. -/
def getPtLevelIndex (config : Config) (level : Nat) (vaddr : Word) : Nat :=
  ((vaddr >>> indexShift config level) &&& (((1 : Word) <<< indexBits config level) - 1)).toNat

/-- The start of `get_pt_level_coverage`. -/
def getPtLevelCoverageStart (config : Config) (level : Nat) (vaddr : Word) : Word :=
  let coverageBits := 12 + (config.numPageTableLevels - level) * 9
  (vaddr >>> coverageBits) <<< coverageBits

/-- `get_pt_level_to_insert`. -/
def getPtLevelToInsert (config : Config) : Sdf.PageSize → Nat
  | .small => config.numPageTableLevels - 1
  | .large => config.numPageTableLevels - 2

/-- The capability in a slot of a table. -/
def PageTable.slot (table : PageTable) (slot : Nat) : Option Cap :=
  (table.slots.find? fun cte => cte.slot == slot).map (·.cap)

/-- `insert_cap_into_page_table_level`. -/
def insertCapIntoPageTableLevel (curLevelObjId curLevel curLevelSlot : Nat) (cap : Cap) : M Unit := do
  let obj ← getRootObject curLevelObjId
  match obj.object with
  | .pageTable table =>
    match table.slot curLevelSlot with
    | some _ =>
      fail s!"insert_cap_into_page_table_level(): internal bug: slot {curLevelSlot} at PT level {curLevel} with name '{obj.name}' already filled"
    | none =>
      setObject curLevelObjId (.pageTable { table with slots := table.slots ++ [⟨curLevelSlot, cap⟩] })
  | _ =>
    fail s!"insert_cap_into_page_table_level(): internal bug: received a non-Page Table object id {curLevelObjId} with name '{obj.name}'"

/-- `map_intermediary_level_helper`: the next table on the way, which is created if there is nothing in the slot. -/
def mapIntermediaryLevelHelper (config : Config) (pdName nextLevelName : String)
    (vspaceObjId curLevelObjId curLevel curLevelSlot : Nat) (vaddr : Word) : M ObjectId := do
  let obj ← getRootObject curLevelObjId
  match obj.object with
  | .pageTable table =>
    match table.slot curLevelSlot with
    | some cap => return cap.obj
    | none =>
      let vspace ← getRootObject vspaceObjId
      match vspace.object with
      | .pageTable vspaceTable =>
        let start := getPtLevelCoverageStart config (curLevel + 1) vaddr
        let nextLevelObjId ← addRootObject
          ⟨s!"{nextLevelName}_{pdName}_vaddr_0x{hex start}", .pageTable ⟨vspaceTable.x86Ept, false, curLevel + 1, []⟩⟩
        insertCapIntoPageTableLevel curLevelObjId curLevel curLevelSlot (.pageTable nextLevelObjId)
        return nextLevelObjId
      | _ =>
        panicWith s!"map_intermediary_level_helper(): internal bug: received a non VSpace object id {vspaceObjId} with name '{vspace.name}'"
  | _ =>
    fail s!"map_intermediary_level_helper(): internal bug: received a non-Page Table object id {curLevelObjId} with name '{obj.name}', for mapping at level {curLevel}, to pd {pdName}."

/-- `create_vspace`. -/
def createVspace (config : Config) (pdName : String) : M ObjectId := do
  let level := topPtLevelNumber config
  let name ← getPtLevelName config level
  addRootObject ⟨s!"{name}_{pdName}", .pageTable ⟨false, true, level, []⟩⟩

/-- `create_vspace_ept`. -/
def createVspaceEpt (config : Config) (vmName : String) : M ObjectId := do
  if config.arch ≠ .x86_64 then panicWith "assertion failed: sel4_config.arch == Arch::X86_64"
  let name ← getPtLevelName config 0
  addRootObject ⟨s!"{name}_{vmName}", .pageTable ⟨true, true, topPtLevelNumber config, []⟩⟩

/-- `map_recursive`. -/
def mapRecursive (config : Config) (pdName : String) (vspaceObjId ptObjId curLevel : Nat) (frameCap : Cap)
    (frameSize : Sdf.PageSize) (vaddr : Word) : M Unit :=
  if _h : config.numPageTableLevels ≤ curLevel then
    panicWith "internal bug: we should have never recursed further!"
  else
    let thisLevelIndex := getPtLevelIndex config curLevel vaddr
    if curLevel = getPtLevelToInsert config frameSize then
      insertCapIntoPageTableLevel ptObjId curLevel thisLevelIndex frameCap
    else do
      let nextLevelName ← getPtLevelName config (curLevel + 1)
      let nextLevelPtObjId ←
        mapIntermediaryLevelHelper config pdName nextLevelName vspaceObjId ptObjId curLevel thisLevelIndex vaddr
      mapRecursive config pdName vspaceObjId nextLevelPtObjId (curLevel + 1) frameCap frameSize vaddr
termination_by config.numPageTableLevels - curLevel

/-- `map_page`. -/
def mapPage (config : Config) (pdName : String) (vspaceObjId : ObjectId) (frameCap : Cap) (frameSize : Sdf.PageSize)
    (vaddr : Word) : M Unit :=
  mapRecursive config pdName vspaceObjId vspaceObjId (topPtLevelNumber config) frameCap frameSize vaddr

end NexsKernel.Capdl
