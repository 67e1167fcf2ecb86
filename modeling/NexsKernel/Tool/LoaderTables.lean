import NexsKernel.Lib.PageWalk
import NexsKernel.Tool.ElfSymbols

/-!
# Page tables in the loader

The tool builds the page tables with which the loader enables the MMU (`loader.rs`). They lie in variables of the loader,
which are found by their symbols, and `Loader::new` patches its image with them. Where the patched image lies, each
table lies at the address of its symbol (`installed_of_patched`).
-/

namespace NexsKernel.Tables

open Bytes Checks PageWalk Layout
open Image hiding ElfFile
open Elf (ElfFile)
open Sdf (Failure)

/-- `grab_symbol!`. -/
def grabSymbol (elf : ElfFile) (name : String) : Except Failure (Word × Word) :=
  match elf.findSymbol name with
  | .ok symbol => .ok symbol
  | .error (.err reason) => .error (.panicked s!"Could not find '{name}' symbol: {reason.quote}")
  | .error (.panicked message) => .error (.panicked message)

/-- A table for the variable with a symbol. -/
def tableVar (symbol : Word × Word) (t : PageTable) : PagetableVar :=
  ⟨symbol.1, symbol.2, t.bytes⟩

lemma tableVar_length (symbol : Word × Word) (t : PageTable) : (tableVar symbol t).data.length = 4096 := by
  simp only [tableVar]
  exact t.bytes_length

/-- The tables lie in memory. -/
def Installed (mem : Word → Byte) (vars : List PagetableVar) : Prop :=
  ∀ var ∈ vars, Holds mem var.addr var.data

/-- Variables that do not overlap. -/
def VarsApart (vars : List PagetableVar) : Prop :=
  vars.Pairwise fun v w => Apart v.addr v.data.length w.addr w.data.length

section installed

variable {elf : ElfFile} {name : String} {symbol : Word × Word} {mem : Word → Byte} {vars : List PagetableVar}
  {var : PagetableVar} {imageVaddr : Word} {image image' : List Byte}

/-- A loop that checks and puts one entry after the other. -/
lemma foldlM_put {P : Nat → Prop} {entries : Nat → Word} {step : PageTable → Nat → Except Failure PageTable}
    {first : Nat}
    (hstep : ∀ t k t', step t k = .ok t' ↔ P k ∧ t.put (first + k) (entries k) = t') (count : Nat) (t t' : PageTable) :
    (List.range count).foldlM step t = .ok t' ↔ (∀ k < count, P k) ∧ t.fill first count entries = t' := by
  induction count generalizing t' with
  | zero =>
    rw [List.range_zero, List.foldlM_nil, pure_ok, PageTable.fill_zero]
    exact ⟨fun h => ⟨nofun, h⟩, fun h => h.2⟩
  | succ count ih =>
    rw [List.range_succ, List.foldlM_append, bind_ok, PageTable.fill_succ, Nat.forall_lt_succ_right]
    constructor
    · rintro ⟨t1, hrest, h⟩
      obtain ⟨hbefore, rfl⟩ := (ih t1).mp hrest
      rw [List.foldlM_cons, bind_ok] at h
      obtain ⟨t2, hlast, h⟩ := h
      obtain ⟨hP, hput⟩ := (hstep _ _ _).mp hlast
      exact ⟨⟨hbefore, hP⟩, hput.trans (pure_ok.mp h)⟩
    · rintro ⟨⟨hbefore, hP⟩, hput⟩
      refine ⟨_, (ih _).mpr ⟨hbefore, rfl⟩, ?_⟩
      rw [List.foldlM_cons, bind_ok]
      exact ⟨_, (hstep _ _ _).mpr ⟨hP, hput⟩, rfl⟩

/-- A table with a symbol is read from memory. -/
lemma Installed.holds {t : PageTable} (h : Installed mem vars) (hvar : tableVar symbol t ∈ vars) :
    Holds mem symbol.1 t.bytes := by
  have hholds := h _ hvar
  simp only [tableVar] at hholds
  exact hholds

/-- A memory with the tables. -/
def memoryWith (vars : List PagetableVar) : Word → Byte :=
  memoryOf (vars.map fun var => (var.addr, var.data))

lemma installed_memoryWith (hlt : ∀ var ∈ vars, var.data.length < 2 ^ 64) (hapart : VarsApart vars) :
    Installed (memoryWith vars) vars := by
  intro var hvar
  have hpieces : (vars.map fun var => (var.addr, var.data)).Pairwise fun p q => Apart p.1 p.2.length q.1 q.2.length :=
    List.pairwise_map.mpr hapart
  refine memoryOf_holds ?_ hpieces _ (List.mem_map_of_mem hvar)
  intro p hp
  obtain ⟨var', hvar', rfl⟩ := List.mem_map.mp hp
  exact hlt var' hvar'

/-- There is a memory with tables whose addresses are a page apart. -/
lemma exists_installed_of_pages {addrs : List Word} (haddrs : vars.map (·.addr) = addrs)
    (hlength : ∀ var ∈ vars, var.data.length = 4096) (hlt : ∀ a ∈ addrs, a.toNat + 4096 ≤ 2 ^ 64)
    (hapart : addrs.Pairwise fun a b => a.toNat + 4096 ≤ b.toNat ∨ b.toNat + 4096 ≤ a.toNat) :
    ∃ mem, Installed mem vars := by
  subst haddrs
  have hroom : ∀ var ∈ vars, var.addr.toNat + 4096 ≤ 2 ^ 64 := fun var hvar => hlt _ (List.mem_map_of_mem hvar)
  refine ⟨_, installed_memoryWith (fun var hvar => ?_) ((List.pairwise_map.mp hapart).imp_of_mem fun hv hw h => ?_)⟩
  · rw [hlength var hvar]
    decide
  · rw [hlength _ hv, hlength _ hw]
    exact apart_of_le (hroom _ hv) (hroom _ hw) h

/-! ## The image -/

/-- Where a table is in the image. -/
def Placed (imageVaddr : Word) (image : List Byte) (var : PagetableVar) : Prop :=
  (var.addr - imageVaddr).toNat + var.data.length ≤ image.length ∧
    ∀ k < var.data.length, image[(var.addr - imageVaddr).toNat + k]? = var.data[k]?

lemma patch_ok (h : Image.patch imageVaddr image var = .ok image') :
    (var.addr - imageVaddr).toNat + var.data.length ≤ image.length ∧
      image' = Layout.patch image (var.addr - imageVaddr).toNat var.data := by
  obtain ⟨-, h⟩ := failIf_bind.mp h
  obtain ⟨-, h⟩ := failIf_bind.mp h
  obtain ⟨-, h⟩ := failIf_bind.mp h
  obtain ⟨hstart, h⟩ := failIf_bind.mp h
  obtain ⟨hstop, h⟩ := failIf_bind.mp h
  obtain ⟨hlength, h⟩ := failIf_bind.mp h
  obtain rfl := pure_ok.mp h
  rw [not_not] at hlength
  rw [BitVec.lt_def, not_lt] at hstart
  have hend : (var.addr - imageVaddr + var.size).toNat = (var.addr - imageVaddr).toNat + var.data.length := by omega
  refine ⟨by omega, ?_⟩
  rw [Layout.patch, hend, List.append_assoc]

/-- The first table, then the others, which leave it as it is. -/
lemma placed_of_patches (hapart : VarsApart vars) (h : vars.foldlM (Image.patch imageVaddr) image = .ok image') :
    image'.length = image.length ∧ (∀ var ∈ vars, Placed imageVaddr image' var) ∧
      ∀ p, (∀ var ∈ vars, ∀ k < var.data.length, (var.addr - imageVaddr).toNat + k ≠ p) → image'[p]? = image[p]? := by
  induction vars generalizing image with
  | nil =>
    obtain rfl := pure_ok.mp h
    exact ⟨rfl, nofun, fun _ _ => rfl⟩
  | cons var vars ih =>
    rw [List.foldlM_cons] at h
    obtain ⟨image1, hpatch, h⟩ := bind_ok.mp h
    obtain ⟨hroom, rfl⟩ := patch_ok hpatch
    obtain ⟨hhead, htail⟩ := List.pairwise_cons.mp hapart
    obtain ⟨hlength, hplaced, hother⟩ := ih htail h
    rw [patch_length hroom] at hlength
    refine ⟨hlength, List.forall_mem_cons.mpr ⟨⟨by omega, fun k hk => ?_⟩, hplaced⟩, fun p hp => ?_⟩
    · rw [hother, getElem?_patch hroom, if_pos (by omega), Nat.add_sub_cancel_left]
      intro w hw j hj heq
      have hj' := (hplaced w hw).1
      refine hhead w hw k hk j hj ?_
      have hvar : ∀ v : PagetableVar, imageVaddr + BitVec.ofNat 64 (v.addr - imageVaddr).toNat = v.addr := by
        intro v
        rw [BitVec.ofNat_toNat, BitVec.setWidth_eq, BitVec.add_comm, BitVec.sub_add_cancel]
      rw [← hvar var, ← hvar w, add_ofNat_add, add_ofNat_add, heq]
    · have hoff : ¬ ((var.addr - imageVaddr).toNat ≤ p ∧ p < (var.addr - imageVaddr).toNat + var.data.length) := by
        rintro ⟨hle, hlt⟩
        exact hp var List.mem_cons_self (p - (var.addr - imageVaddr).toNat) (by omega) (by omega)
      rw [hother p fun w hw => hp w (List.mem_cons_of_mem _ hw), getElem?_patch hroom, if_neg hoff]

/-- Where the patched image lies, the tables lie at the addresses of their symbols. -/
theorem installed_of_patched (hapart : VarsApart vars) (h : vars.foldlM (Image.patch imageVaddr) image = .ok image')
    (hmem : Holds mem imageVaddr image') : Installed mem vars := by
  intro var hvar k hk
  obtain ⟨-, hplaced, -⟩ := placed_of_patches hapart h
  obtain ⟨hroom, hbytes⟩ := hplaced var hvar
  have haddr : var.addr + BitVec.ofNat 64 k = imageVaddr + BitVec.ofNat 64 ((var.addr - imageVaddr).toNat + k) := by
    rw [← add_ofNat_add, BitVec.ofNat_toNat, BitVec.setWidth_eq, BitVec.add_comm imageVaddr, BitVec.sub_add_cancel]
  have hget := hbytes k hk
  rw [List.getElem?_eq_getElem (by omega), List.getElem?_eq_getElem hk] at hget
  rw [haddr, hmem _ (by omega), Option.some.inj hget]

end installed

end NexsKernel.Tables
