import NexsKernel.Lib.Checks

/-!
# Blocks of bit fields

The specifications of the kernel's packed structures, from which `bitfield_gen.py` generates C code. A block is a list of
fields and padding, the highest bits first; the check of a block evaluates the sizes and lays the fields out.
-/

namespace NexsKernel.Bitfield

/-- What the generator raises. -/
inductive PyError where
  | valueError (message : String)
  | keyError (key : String)
  | zeroDivisionError
  deriving DecidableEq, Repr

/-- `base`: the size of a word, the number of significant bits of a pointer, and whether the bits above are those of the
sign. -/
structure Base where
  base : Nat
  baseBits : Nat
  baseSignExtend : Bool
  base_mem : base = 8 ∨ base = 16 ∨ base = 32 ∨ base = 64
  baseBits_pos : 0 < baseBits
  baseBits_le : baseBits ≤ base

/-! ## Expressions -/

inductive BinOp where
  | plus
  | minus
  | mult
  | div
  | mod
  deriving DecidableEq, Repr

/-- `int_expr`. -/
inductive Expr where
  | lit (n : Int)
  | const (name : String)
  | uminus (e : Expr)
  | binOp (op : BinOp) (x y : Expr)
  deriving DecidableEq, Repr

/-- `base_consts`. -/
def baseConsts (b : Base) (name : String) : Option Int :=
  if name = "word_size" then some b.base
  else if name = "canonical_size" then some b.baseBits
  else none

/-- The operators of Python on integers. -/
def BinOp.eval : BinOp → Int → Int → Except PyError Int
  | plus, x, y => .ok (x + y)
  | minus, x, y => .ok (x - y)
  | mult, x, y => .ok (x * y)
  | div, x, y => if y = 0 then .error .zeroDivisionError else .ok (x.fdiv y)
  | mod, x, y => if y = 0 then .error .zeroDivisionError else .ok (x.fmod y)

/-- `eval_expr`. -/
def evalExpr (constMap : String → Option Int) : Expr → Except PyError Int
  | .lit n => .ok n
  | .const name =>
    match constMap name with
    | some n => .ok n
    | none => .error (.valueError s!"Unknown constant '{name}'")
  | .uminus e => do
    let x ← evalExpr constMap e
    return -x
  | .binOp op x y => do
    let x ← evalExpr constMap x
    let y ← evalExpr constMap y
    op.eval x y

/-! ## Blocks -/

/-- An entry of a block as it is written; padding has no name. -/
structure Entry where
  name : Option String
  size : Expr
  high : Bool
  deriving DecidableEq, Repr

/-- `field_ptr`, that is, padding and a field for the significant bits of a pointer. -/
def fieldPtr (name : String) (size : Expr) : List Entry :=
  [⟨none, .binOp .minus size (.const "canonical_size"), false⟩, ⟨some name, .const "canonical_size", true⟩]

/-- `field_ptr(align)`. -/
def fieldPtrAlign (align : Expr) (name : String) (size : Expr) : List Entry :=
  [⟨none, .binOp .plus (.binOp .minus size (.const "canonical_size")) align, false⟩,
    ⟨some name, .binOp .minus (.const "canonical_size") align, true⟩]

/-- `block`. -/
structure BlockSpec where
  name : String
  fields : List Entry
  visibleOrder : Option (List String)
  deriving DecidableEq, Repr

/-- A field of a block. -/
structure Field where
  name : String
  offset : Nat
  size : Nat
  high : Bool
  deriving DecidableEq, Repr

/-- The bit behind the last one of the field. -/
def Field.limit (f : Field) : Nat :=
  f.offset + f.size

/-- `eval_int_exprs`. -/
def evalIntExprs (b : Base) (fields : List Entry) : Except PyError (List (Option String × Int × Bool)) :=
  fields.mapM fun e => do
    let size ← evalExpr (baseConsts b) e.size
    return (e.name, size, e.high)

/-- The loop of `checks`. The offset of a field is the size of what follows. -/
def layout (block : String) : List (Option String × Int × Bool) → Except PyError (List Field × Nat)
  | [] => .ok ([], 0)
  | (some name, size, high) :: fields =>
    if size ≤ 0 then
      .error (.valueError s!"Fields must have positive size, but {name} in block {block} has size {size}")
    else do
      let (fields, offset) ← layout block fields
      return (⟨name, offset, size.toNat, high⟩ :: fields, offset + size.toNat)
  | (none, size, _) :: fields =>
    if size < 0 then
      .error (.valueError s!"Padding must be non-negative, but padding in block {block} has size {size}")
    else do
      let (fields, offset) ← layout block fields
      return (fields, offset + size.toNat)

/-- The check of the names of `visible_order`. -/
def checkOrder (names : List String) : List String → List String → Except PyError (List String)
  | [], missed => .ok missed
  | name :: order, missed =>
    if name ∉ names then .error (.valueError s!"Nonexistent field '{name}' in visible_order")
    else if name ∉ missed then .error (.keyError name)
    else checkOrder names order (missed.erase name)

/-- `str` of a list of names. -/
def pyList (names : List String) : String :=
  "[" ++ ", ".intercalate (names.map fun name => s!"'{name}'") ++ "]"

/-- The order of the parameters of the constructor. A set of names is listed in the order of the fields. -/
def visibleOrder (fields : List Field) : Option (List String) → Except PyError (List String)
  | none => .ok (fields.map Field.name)
  | some order => do
    let names := (fields.map Field.name).dedup
    let missed ← checkOrder names order names
    if missed = [] then .ok order
    else .error (.valueError s!"Fields {pyList missed} missing from visible_order")

/-- A block that has passed its check: the fields do not overlap, none crosses the border of a word, and the parameters
of the constructor are the fields. -/
structure Block (b : Base) where
  name : String
  fields : List Field
  visibleOrder : List String
  mem_order : ∀ name, name ∈ visibleOrder ↔ name ∈ fields.map Field.name
  size : Nat
  multiple : Nat
  size_eq : size = multiple * b.base
  pos : ∀ f ∈ fields, 0 < f.size
  pairwise : fields.Pairwise fun f g => g.limit ≤ f.offset
  limit_le : ∀ f ∈ fields, f.limit ≤ size
  inWord : ∀ f ∈ fields, f.offset / b.base = (f.limit - 1) / b.base

variable {b : Base} {f g : Field}

/-- The fields that are laid out, and the size of the block. -/
lemma layout_spec {block : String} {entries : List (Option String × Int × Bool)} {fields : List Field} {size : Nat}
    (h : layout block entries = .ok (fields, size)) :
    (∀ f ∈ fields, 0 < f.size) ∧ (fields.Pairwise fun f g => g.limit ≤ f.offset) ∧ ∀ f ∈ fields, f.limit ≤ size := by
  induction entries generalizing fields size with
  | nil =>
    cases h
    exact ⟨nofun, .nil, nofun⟩
  | cons e entries ih =>
    obtain ⟨_ | name, n, high⟩ := e
    · rw [layout] at h
      split at h
      · cases h
      · obtain ⟨⟨rest, offset⟩, hrest, h⟩ := Checks.bind_ok.mp h
        cases h
        obtain ⟨hpos, hpair, hle⟩ := ih hrest
        exact ⟨hpos, hpair, fun f hf => (hle f hf).trans (Nat.le_add_right ..)⟩
    · rw [layout] at h
      split at h
      · cases h
      · rename_i hn
        obtain ⟨⟨rest, offset⟩, hrest, h⟩ := Checks.bind_ok.mp h
        cases h
        obtain ⟨hpos, hpair, hle⟩ := ih hrest
        refine ⟨List.forall_mem_cons.mpr ⟨?_, hpos⟩, List.pairwise_cons.mpr ⟨hle, hpair⟩,
          List.forall_mem_cons.mpr ⟨le_rfl, fun f hf => (hle f hf).trans (Nat.le_add_right ..)⟩⟩
        show 0 < n.toNat
        omega

/-- The names of `visible_order` are fields, and those that have been missed are the others. -/
lemma checkOrder_spec {names order missed rest : List String} (h : checkOrder names order missed = .ok rest)
    (hnodup : missed.Nodup) :
    (∀ name ∈ order, name ∈ names) ∧ ∀ name, name ∈ rest ↔ name ∈ missed ∧ name ∉ order := by
  induction order generalizing missed with
  | nil =>
    cases h
    simp
  | cons x order ih =>
    rw [checkOrder] at h
    split at h
    · cases h
    · split at h
      · cases h
      · rename_i hx hm
        obtain ⟨hsub, hrest⟩ := ih h (hnodup.erase x)
        refine ⟨List.forall_mem_cons.mpr ⟨not_not.mp hx, hsub⟩, fun name => ?_⟩
        rw [hrest, hnodup.mem_erase_iff, List.mem_cons, not_or]
        tauto

/-- The parameters of the constructor are the fields. -/
lemma visibleOrder_spec {fields : List Field} {order : Option (List String)} {names : List String}
    (h : visibleOrder fields order = .ok names) (name : String) : name ∈ names ↔ name ∈ fields.map Field.name := by
  cases order with
  | none =>
    cases h
    rfl
  | some order =>
    obtain ⟨missed, hmissed, h⟩ := Checks.bind_ok.mp h
    obtain ⟨hsub, hrest⟩ := checkOrder_spec hmissed (List.nodup_dedup _)
    split at h
    · rename_i hnil
      cases h
      refine ⟨fun hn => List.mem_dedup.mp (hsub name hn), fun hn => ?_⟩
      by_contra hno
      have := (hrest name).mpr ⟨List.mem_dedup.mpr hn, hno⟩
      rw [hnil] at this
      cases this
    · cases h

/-- `checks`, after `eval_int_exprs`. -/
def checks (b : Base) (spec : BlockSpec) : Except PyError (Block b) := do
  let entries ← evalIntExprs b spec.fields
  match h : layout spec.name entries with
  | .error e => .error e
  | .ok (fields, size) =>
    match horder : visibleOrder fields spec.visibleOrder with
    | .error e => .error e
    | .ok order =>
    if hsize : size % b.base = 0 then
      if hword : ∀ f ∈ fields, f.offset / b.base = (f.limit - 1) / b.base then
        return {
          name := spec.name
          fields
          visibleOrder := order
          mem_order := visibleOrder_spec horder
          size
          multiple := size / b.base
          size_eq := (Nat.div_mul_cancel (Nat.dvd_of_mod_eq_zero hsize)).symm
          pos := (layout_spec h).1
          pairwise := (layout_spec h).2.1
          limit_le := (layout_spec h).2.2
          inWord := hword }
      else
        let name := ((fields.find? fun f => f.offset / b.base ≠ (f.limit - 1) / b.base).map Field.name).getD ""
        .error (.valueError s!"Field {name} of block {spec.name} crosses a word boundary")
    else .error (.valueError s!"Size of block {spec.name} not a multiple of base")

namespace Base

lemma base_pos (b : Base) : 0 < b.base := by
  rcases b.base_mem with h | h | h | h <;> omega

/-- The number of bits with which C calculates. -/
def width (b : Base) : Nat :=
  max 32 b.base

lemma base_le_width (b : Base) : b.base ≤ b.width :=
  le_max_right ..

end Base

/-! ## Where a field lies -/

/-- The word in which a field lies. -/
def Field.index (b : Base) (f : Field) : Nat :=
  f.offset / b.base

/-- Where the field lies in its word. -/
def Field.start (b : Base) (f : Field) : Nat :=
  f.offset % b.base

/-- Where the bits of the field lie in its value. -/
def Field.position (b : Base) (f : Field) : Nat :=
  if f.high then b.baseBits - f.size else 0

namespace Block

variable (blk : Block b)

lemma start_add_size_le (hf : f ∈ blk.fields) : f.start b + f.size ≤ b.base := by
  have hpos := blk.pos f hf
  have hword := blk.inWord f hf
  have hlt := Nat.lt_mul_div_succ (f.limit - 1) b.base_pos
  rw [← hword] at hlt
  have hmod := Nat.mod_add_div f.offset b.base
  unfold Field.limit at hlt
  unfold Field.start
  rw [Nat.mul_add, Nat.mul_one] at hlt
  omega

lemma index_lt (hf : f ∈ blk.fields) : f.index b < blk.multiple := by
  have hpos := blk.pos f hf
  have hle := blk.limit_le f hf
  rw [blk.size_eq, Field.limit] at hle
  exact Nat.div_lt_of_lt_mul (by rw [Nat.mul_comm]; omega)

/-- Two fields of one word do not overlap. -/
lemma apart (hf : f ∈ blk.fields) (hg : g ∈ blk.fields) (hne : f ≠ g) (hindex : f.index b = g.index b) :
    f.start b + f.size ≤ g.start b ∨ g.start b + g.size ≤ f.start b := by
  have hoff : f.limit ≤ g.offset ∨ g.limit ≤ f.offset := by
    have hpair : blk.fields.Pairwise fun f g => f.limit ≤ g.offset ∨ g.limit ≤ f.offset :=
      blk.pairwise.imp fun h => .inr h
    have : Std.Symm fun f g : Field => f.limit ≤ g.offset ∨ g.limit ≤ f.offset := ⟨fun _ _ => Or.symm⟩
    exact hpair.forall hf hg hne
  have hf' := Nat.div_add_mod f.offset b.base
  have hg' := Nat.div_add_mod g.offset b.base
  unfold Field.index at hindex
  unfold Field.limit at hoff
  unfold Field.start
  rw [hindex] at hf'
  omega

end Block

end NexsKernel.Bitfield
