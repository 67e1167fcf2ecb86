import NexsKernel.Lib.Checks
import NexsKernel.Sdf.Config

/-!
# XML documents

The tree that `roxmltree` makes of a system description, and how the parser (`sdf.rs`) reads the attributes of an
element: numbers, flags and names, each with the error that names the element and its place in the file.
-/

namespace NexsKernel.Sdf

open Checks

/-- The computations of the parser. -/
abbrev Parse := Except Failure

/-- `Err`. -/
def err {α : Type} (reason : String) : Parse α :=
  .error (.err reason)

def panicked {α : Type} (message : String) : Parse α :=
  .error (.panicked message)

/-! ## Nodes -/

/-- `roxmltree::TextPos`. -/
structure TextPos where
  row : Nat
  col : Nat
  deriving DecidableEq, Repr

inductive Node where
  | element (tag : String) (attributes : List (String × String)) (pos : TextPos) (children : List Node)
  | text (content : String) (pos : TextPos)
  | comment (pos : TextPos)
  | instruction (pos : TextPos)

namespace Node

def isElement : Node → Bool
  | element .. => true
  | _ => false

/-- `tag_name().name()`. -/
def tag : Node → String
  | element tag .. => tag
  | _ => ""

def attributes : Node → List (String × String)
  | element _ attributes .. => attributes
  | _ => []

def attr (node : Node) (name : String) : Option String :=
  node.attributes.lookup name

/-- `text_pos_at(range().start)`. -/
def pos : Node → TextPos
  | element _ _ pos _ => pos
  | text _ pos => pos
  | comment pos => pos
  | instruction pos => pos

def children : Node → List Node
  | element _ _ _ children => children
  | _ => []

/-- The children that are elements. -/
def elements (node : Node) : List Node :=
  node.children.filter (·.isElement)

end Node

/-! ## Characters -/

/-- `char::is_whitespace`. -/
def isWhitespace (c : Char) : Bool :=
  (0x9 ≤ c.toNat && c.toNat ≤ 0xd) || c.toNat == 0x20 || c.toNat == 0x85 || c.toNat == 0xa0 || c.toNat == 0x1680 ||
    (0x2000 ≤ c.toNat && c.toNat ≤ 0x200a) || c.toNat == 0x2028 || c.toNat == 0x2029 || c.toNat == 0x202f ||
    c.toNat == 0x205f || c.toNat == 0x3000

/-- `str::trim`. -/
def trim (s : List Char) : List Char :=
  (((s.dropWhile isWhitespace).reverse).dropWhile isWhitespace).reverse

/-- `char::to_digit`. -/
def toDigit (radix : Nat) (c : Char) : Option Nat :=
  let d :=
    if '0' ≤ c ∧ c ≤ '9' then some (c.toNat - 48)
    else if 'a' ≤ c ∧ c ≤ 'z' then some (c.toNat - 97 + 10)
    else if 'A' ≤ c ∧ c ≤ 'Z' then some (c.toNat - 65 + 10)
    else none
  d.filter (· < radix)

inductive IntErrorKind where
  | empty
  | invalidDigit
  | posOverflow
  | negOverflow
  deriving DecidableEq, Repr

def IntErrorKind.text : IntErrorKind → String
  | empty => "cannot parse integer from empty string"
  | invalidDigit => "invalid digit found in string"
  | posOverflow => "number too large to fit in target type"
  | negOverflow => "number too small to fit in target type"

def IntErrorKind.name : IntErrorKind → String
  | empty => "Empty"
  | invalidDigit => "InvalidDigit"
  | posOverflow => "PosOverflow"
  | negOverflow => "NegOverflow"

/-- One more digit, of a number that is not negative. -/
def addDigit (hi : Int) (radix : Nat) (v : Int) (c : Char) : Except IntErrorKind Int := do
  let d ← orFail (toDigit radix c) .invalidDigit
  failIf (hi < v * radix + d) .posOverflow
  return v * radix + d

def subDigit (lo : Int) (radix : Nat) (v : Int) (c : Char) : Except IntErrorKind Int := do
  let d ← orFail (toDigit radix c) .invalidDigit
  failIf (v * radix - d < lo) .negOverflow
  return v * radix - d

/-- `from_str_radix`, of the integer type with these bounds. -/
def fromStrRadix (lo hi : Int) (radix : Nat) : List Char → Except IntErrorKind Int
  | [] => .error .empty
  | ['+'] | ['-'] => .error .invalidDigit
  | '+' :: digits => digits.foldlM (addDigit hi radix) 0
  | '-' :: digits =>
    if lo < 0 then digits.foldlM (subDigit lo radix) 0 else ('-' :: digits).foldlM (addDigit hi radix) 0
  | digits => digits.foldlM (addDigit hi radix) 0

def fromStrU64 : Nat → List Char → Except IntErrorKind Int :=
  fromStrRadix 0 (2 ^ 64 - 1)

def fromStrI64 : Nat → List Char → Except IntErrorKind Int :=
  fromStrRadix (-2 ^ 63) (2 ^ 63 - 1)

/-- `unwrap()` of a number. -/
def unwrapInt : Except IntErrorKind Int → Parse Int
  | .ok v => pure v
  | .error kind =>
    panicked s!"called `Result::unwrap()` on an `Err` value: ParseIntError \x7b kind: {kind.name} \x7d"

/-- `str_to_bool`. -/
def strToBool (s : String) : Option Bool :=
  if s = "true" then some true else if s = "false" then some false else none

/-! ## Elements -/

section elements

variable (filename : String)

/-- `loc_string`. -/
def locString (pos : TextPos) : String :=
  s!"{filename}:{pos.row}:{pos.col}"

/-- `value_error`. -/
def valueError (node : Node) (reason : String) : Failure :=
  .err s!"Error: {reason} on element '{node.tag}': {filename}:{node.pos.row}:{node.pos.col}"

/-- `check_attributes`. -/
def checkAttributes (node : Node) (names : List String) : Parse Unit :=
  match node.attributes.find? fun a => !names.contains a.1 with
  | some a => .error (valueError filename node s!"invalid attribute '{a.1}'")
  | none => pure ()

/-- `checked_lookup`. -/
def checkedLookup (node : Node) (name : String) : Parse String :=
  orFail (node.attr name)
    (.err s!"Error: Missing required attribute '{name}' on element '{node.tag}': {filename}:{node.pos.row}:{node.pos.col}")

/-- `sdf_parse_number`. -/
def sdfParseNumber (s : String) (node : Node) : Parse Word :=
  let digits := s.toList.filter (· ≠ '_')
  let parsed :=
    match digits with
    | '0' :: 'x' :: stripped => fromStrU64 16 stripped
    | _ => fromStrU64 10 digits
  match parsed with
  | .ok v => pure (BitVec.ofInt 64 v)
  | .error kind => err s!"Error: failed to parse integer '{s}' on element '{node.tag}': {kind.text}"

/-- A number that may be left out. -/
def numberOr (node : Node) (name : String) (default : Word) : Parse Word :=
  match node.attr name with
  | some s => sdfParseNumber s node
  | none => pure default

/-- A flag that may be left out. -/
def flagOr (node : Node) (name : String) (default : Bool) : Parse Bool :=
  match node.attr name with
  | some s => orFail (strToBool s) (valueError filename node s!"{name} must be 'true' or 'false'")
  | none => pure default

/-- `parse::<i64>().unwrap()`. -/
def parseI64 (node : Node) (name : String) : Parse Int := do
  let s ← checkedLookup filename node name
  unwrapInt (fromStrI64 10 s.toList)

end elements

end NexsKernel.Sdf
