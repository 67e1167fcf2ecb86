import NexsKernel.Sdf.Document

/-!
# What is written in an element

The numbers that texts stand for, without any bound, and what an element of a document says: the numbers of its
attributes, and the symbols that its `setvar` attributes ask to be patched. An object of the description keeps an element
when it has what is written there. The functions that parse an element keep it, apart from two attributes of virtual
machines: the priority is cut to eight bits, and `setvar_id` of a virtual CPU is looked for at the virtual machine.
-/

namespace NexsKernel.Sdf

open Checks

/-! ## Numbers -/

/-- One more digit. -/
def shiftDigit (radix : Nat) (v : Int) (c : Char) : Option Int :=
  (toDigit radix c).map (v * radix + ·)

/-- The number that digits stand for. -/
def digitsValue (radix : Nat) : List Char → Option Int
  | [] => none
  | digits => digits.foldlM (shiftDigit radix) 0

/-- The number that digits with a sign stand for. -/
def denoted (radix : Nat) : List Char → Option Int
  | '+' :: digits => digitsValue radix digits
  | '-' :: digits => (digitsValue radix digits).map (- ·)
  | digits => digitsValue radix digits

/-- A decimal number. -/
def decimal (s : String) : Option Int :=
  denoted 10 s.toList

/-- A number that may be hexadecimal, in which underscores are left out. -/
def written (s : String) : Option Int :=
  match s.toList.filter (· ≠ '_') with
  | '0' :: 'x' :: stripped => denoted 16 stripped
  | digits => denoted 10 digits

section numbers

variable {lo hi v r : Int} {radix : Nat} {digits : List Char}

lemma addDigits_denoted (h : digits.foldlM (addDigit hi radix) v = .ok r) (hv : 0 ≤ v ∧ v ≤ hi) :
    digits.foldlM (shiftDigit radix) v = some r ∧ 0 ≤ r ∧ r ≤ hi := by
  induction digits generalizing v with
  | nil =>
    obtain rfl := pure_ok.mp h
    exact ⟨rfl, hv⟩
  | cons c digits ih =>
    rw [List.foldlM_cons] at h ⊢
    obtain ⟨v', hc, h⟩ := bind_ok.mp h
    obtain ⟨d, hd, hc⟩ := bind_ok.mp hc
    obtain ⟨hle, hc⟩ := failIf_bind.mp hc
    obtain rfl := pure_ok.mp hc
    have hshift : shiftDigit radix v c = some (v * radix + d) := by
      unfold shiftDigit
      rw [orFail_ok.mp hd]
      rfl
    rw [hshift]
    have hpos : 0 ≤ v * radix := Int.mul_nonneg hv.1 (Int.natCast_nonneg radix)
    exact ih h ⟨by omega, by omega⟩

lemma subDigits_denoted (h : digits.foldlM (subDigit lo radix) (-v) = .ok r) (hv : 0 ≤ v ∧ lo ≤ -v) :
    (digits.foldlM (shiftDigit radix) v).map (- ·) = some r ∧ lo ≤ r ∧ r ≤ 0 := by
  induction digits generalizing v with
  | nil =>
    obtain rfl := pure_ok.mp h
    exact ⟨rfl, hv.2, by omega⟩
  | cons c digits ih =>
    rw [List.foldlM_cons] at h ⊢
    obtain ⟨v', hc, h⟩ := bind_ok.mp h
    obtain ⟨d, hd, hc⟩ := bind_ok.mp hc
    obtain ⟨hle, hc⟩ := failIf_bind.mp hc
    obtain rfl := pure_ok.mp hc
    have hshift : shiftDigit radix v c = some (v * radix + d) := by
      unfold shiftDigit
      rw [orFail_ok.mp hd]
      rfl
    have hneg : -v * radix - d = -(v * radix + d) := by
      rw [Int.neg_mul]
      omega
    have hpos : 0 ≤ v * radix := Int.mul_nonneg hv.1 (Int.natCast_nonneg radix)
    rw [hneg] at h hle
    rw [hshift]
    exact ih h ⟨by omega, by omega⟩

lemma digitsValue_of_ne_nil (h : digits ≠ []) : digitsValue radix digits = digits.foldlM (shiftDigit radix) 0 := by
  cases digits with
  | nil => exact absurd rfl h
  | cons c digits => rfl

lemma denoted_unsigned (hplus : ∀ rest, digits = '+' :: rest → False) (hminus : ∀ rest, digits = '-' :: rest → False) :
    denoted radix digits = digitsValue radix digits := by
  unfold denoted
  split
  · exact absurd rfl (hplus _)
  · exact absurd rfl (hminus _)
  · rfl

/-- A number that has been parsed is the one that is written, and within the bounds. -/
lemma fromStrRadix_denoted (hlo : lo ≤ 0) (hhi : 0 ≤ hi) (h : fromStrRadix lo hi radix digits = .ok v) :
    denoted radix digits = some v ∧ lo ≤ v ∧ v ≤ hi := by
  have hadd : ∀ {digits : List Char}, digits ≠ [] → digits.foldlM (addDigit hi radix) 0 = .ok v →
      digitsValue radix digits = some v ∧ lo ≤ v ∧ v ≤ hi := by
    intro digits hne h
    obtain ⟨hvalue, hpos, hle⟩ := addDigits_denoted h ⟨le_rfl, hhi⟩
    exact ⟨(digitsValue_of_ne_nil hne).trans hvalue, hlo.trans hpos, hle⟩
  unfold fromStrRadix at h
  split at h
  · cases h
  · cases h
  · cases h
  · rename_i rest hne
    exact hadd (fun e => hne (by rw [e])) h
  · rename_i rest hne
    split_ifs at h with hneg
    · obtain ⟨hvalue, hle, hpos⟩ := subDigits_denoted (v := 0) h ⟨le_rfl, hlo⟩
      rw [← digitsValue_of_ne_nil fun e => hne (by rw [e])] at hvalue
      exact ⟨hvalue, hle, hpos.trans hhi⟩
    · obtain ⟨v', hc, -⟩ := bind_ok.mp h
      obtain ⟨d, hd, -⟩ := bind_ok.mp hc
      have hdigit : toDigit radix '-' = none := rfl
      rw [hdigit] at hd
      cases hd
  · rename_i hnil _ _ hplus hminus
    rw [denoted_unsigned hplus hminus]
    exact hadd hnil h

lemma ofInt_toNat (h : 0 ≤ v ∧ v ≤ 2 ^ 64 - 1) : ((BitVec.ofInt 64 v).toNat : Int) = v := by
  rw [BitVec.toNat_ofInt]
  omega

lemma unwrapInt_ok {x : Except IntErrorKind Int} (h : unwrapInt x = .ok v) : x = .ok v := by
  cases x with
  | error kind => cases h
  | ok w =>
    obtain rfl := pure_ok.mp h
    rfl

/-- A number without the mark of a hexadecimal one. -/
lemma not_hex {α : Type} (hex decimal : List Char → α) : (¬ ∃ stripped, digits = '0' :: 'x' :: stripped) →
    (match digits with
      | '0' :: 'x' :: stripped => hex stripped
      | digits => decimal digits) = decimal digits := by
  intro h
  split
  · exact absurd ⟨_, rfl⟩ h
  · rfl

lemma sdfParseNumber_written {s : String} {node : Node} {w : Word} (h : sdfParseNumber s node = .ok w) :
    written s = some (w.toNat : Int) := by
  unfold sdfParseNumber at h
  unfold written
  dsimp only at h
  generalize s.toList.filter (· ≠ '_') = digits at h ⊢
  split at h
  · rename_i v hv
    obtain rfl := pure_ok.mp h
    by_cases hhex : ∃ stripped, digits = '0' :: 'x' :: stripped
    · obtain ⟨stripped, rfl⟩ := hhex
      obtain ⟨hdenoted, hbounds⟩ := fromStrRadix_denoted le_rfl (by decide) hv
      rw [ofInt_toNat hbounds]
      exact hdenoted
    · obtain ⟨hdenoted, hbounds⟩ := fromStrRadix_denoted le_rfl (by decide)
        ((not_hex (fromStrU64 16) (fun _ => fromStrU64 10 digits) hhex).symm.trans hv)
      rw [ofInt_toNat hbounds]
      exact (not_hex (denoted 16) (denoted 10) hhex).trans hdenoted
  · cases h

end numbers

/-! ## Attributes -/

/-- The attribute is there, with the number `v`. -/
def HasNumber (read : String → Option Int) (node : Node) (name : String) (v : Nat) : Prop :=
  ∃ s, node.attr name = some s ∧ read s = some (v : Int)

/-- The number is that of the attribute, or else the default. -/
def HasNumberOr (read : String → Option Int) (node : Node) (name : String) (default v : Nat) : Prop :=
  match node.attr name with
  | some s => read s = some (v : Int)
  | none => v = default

/-- The number of an attribute. -/
def numberOf (read : String → Option Int) (node : Node) (name : String) : Word :=
  BitVec.ofInt 64 (((node.attr name).bind read).getD 0)

section attributes

variable {filename : String} {node : Node} {name : String}

lemma HasNumber.numberOf_eq {read : String → Option Int} {w : Word} (h : HasNumber read node name w.toNat) :
    numberOf read node name = w := by
  obtain ⟨s, hattr, hread⟩ := h
  unfold numberOf
  rw [hattr, Option.bind_some, hread, Option.getD_some, BitVec.ofInt_natCast, BitVec.ofNat_toNat, BitVec.setWidth_eq]

lemma hasNumberOr_some {read : String → Option Int} {s : String} {default v : Nat} (hattr : node.attr name = some s)
    (hread : read s = some (v : Int)) : HasNumberOr read node name default v := by
  unfold HasNumberOr
  rw [hattr]
  exact hread

lemma hasNumberOr_none {read : String → Option Int} {default : Nat} (hattr : node.attr name = none) :
    HasNumberOr read node name default default := by
  unfold HasNumberOr
  rw [hattr]

lemma checkedLookup_ok {s : String} (h : checkedLookup filename node name = .ok s) : node.attr name = some s :=
  orFail_ok.mp h

lemma numberOr_hasNumberOr {default w : Word} (h : numberOr node name default = .ok w) :
    HasNumberOr written node name default.toNat w.toNat := by
  unfold numberOr at h
  cases hattr : node.attr name with
  | some s =>
    rw [hattr] at h
    exact hasNumberOr_some hattr (sdfParseNumber_written h)
  | none =>
    rw [hattr] at h
    obtain rfl := pure_ok.mp h
    exact hasNumberOr_none hattr

lemma parseI64_bounded {v : Int} (h : parseI64 filename node name = .ok v) (hpos : 0 ≤ v) :
    HasNumber decimal node name (BitVec.ofInt 64 v).toNat := by
  obtain ⟨s, hs, hv⟩ := bind_ok.mp h
  obtain ⟨hdenoted, -, hle⟩ := fromStrRadix_denoted (by decide) (by decide) (unwrapInt_ok hv)
  exact ⟨s, checkedLookup_ok hs, by rw [ofInt_toNat ⟨hpos, by omega⟩]; exact hdenoted⟩

lemma parseId_ok {id : Word} (h : parseId filename node = .ok id) : HasNumber decimal node "id" id.toNat := by
  obtain ⟨v, hv, h⟩ := bind_ok.mp h
  obtain ⟨-, h⟩ := failIf_bind.mp h
  obtain ⟨hpos, h⟩ := failIf_bind.mp h
  obtain rfl := pure_ok.mp h
  exact parseI64_bounded hv (not_lt.mp hpos)

/-- Other attributes are not there. -/
lemma checkAttributes_ok {names : List String} (h : checkAttributes filename node names = .ok ())
    (hname : name ∉ names) :
    node.attr name = none := by
  unfold checkAttributes at h
  split at h
  · cases h
  · rename_i hnone
    refine List.lookup_eq_none_iff.mpr fun a ha => bne_iff_ne.mpr ?_
    rintro rfl
    have hmem := List.find?_eq_none.mp hnone a ha
    simp [hname] at hmem

end attributes

/-! ## Maps, interrupts and I/O ports -/

/-- A map keeps its element. -/
structure MapKept (node : Node) (map : SysMap) : Prop where
  mr : node.attr "mr" = some map.mr
  vaddr : HasNumber written node "vaddr" map.vaddr.toNat

/-- The parts of a PCI address, which are hexadecimal. -/
def pciParts (s : String) : Option (List Char × List Char × List Char) :=
  match (s.toList.splitOn ':').map trim with
  | [bus, devFunc] =>
    match (devFunc.splitOn '.').map trim with
    | [dev, func] => some (bus, dev, func)
    | _ => none
  | _ => none

/-- The numbers of an interrupt are those of its element. -/
def IrqKindKept (node : Node) : SysIrqKind → Prop
  | .conventional irq _ => HasNumber decimal node "irq" irq.toNat
  | .ioapic ioapic pin _ _ vector => HasNumberOr decimal node "ioapic" 0 ioapic.toNat ∧
      HasNumber decimal node "pin" pin.toNat ∧ HasNumber decimal node "vector" vector.toNat
  | .msi pciBus pciDev pciFunc handle vector => (∃ s bus dev func, node.attr "pcidev" = some s ∧
      pciParts s = some (bus, dev, func) ∧ denoted 16 bus = some (pciBus.toNat : Int) ∧
        denoted 16 dev = some (pciDev.toNat : Int) ∧ denoted 16 func = some (pciFunc.toNat : Int)) ∧
      HasNumber decimal node "handle" handle.toNat ∧ HasNumber decimal node "vector" vector.toNat

structure IrqKept (node : Node) (irq : SysIrq) : Prop where
  id : HasNumber decimal node "id" irq.id.toNat
  kind : IrqKindKept node irq.kind

structure IOPortKept (node : Node) (ioport : IOPort) : Prop where
  id : HasNumber decimal node "id" ioport.id.toNat
  addr : HasNumber written node "addr" ioport.addr.toNat
  size : HasNumber decimal node "size" ioport.size.toNat

section elements

variable {filename : String} {config : Config} {node : Node}

lemma SysMap.fromXml_kept {allowSetvar : Bool} {maxVaddr : Word} {map : SysMap}
    (h : SysMap.fromXml filename node allowSetvar maxVaddr = .ok map) : MapKept node map := by
  obtain ⟨⟨⟩, -, h⟩ := bind_ok.mp h
  obtain ⟨mr, hmr, h⟩ := bind_ok.mp h
  obtain ⟨s, hs, h⟩ := bind_ok.mp h
  obtain ⟨vaddr, hvaddr, h⟩ := bind_ok.mp h
  obtain ⟨-, h⟩ := failIf_bind.mp h
  extract_lets rest at h
  obtain ⟨perms, h⟩ : ∃ perms, rest perms = .ok map := by
    split at h <;> exact (bind_ok.mp h).imp fun _ h => h.2
  obtain ⟨-, h⟩ := failIf_bind.mp h
  obtain ⟨cached, -, h⟩ := bind_ok.mp h
  obtain rfl := pure_ok.mp h
  exact ⟨checkedLookup_ok hmr, s, checkedLookup_ok hs, sdfParseNumber_written hvaddr⟩

lemma parseVector_ok {vector : Word} (h : parseVector filename node = .ok vector) :
    HasNumber decimal node "vector" vector.toNat := by
  obtain ⟨v, hv, h⟩ := bind_ok.mp h
  obtain ⟨hbounds, h⟩ := failIf_bind.mp h
  obtain rfl := pure_ok.mp h
  exact parseI64_bounded hv (not_not.mp hbounds).1

lemma nonNegative_ok {name : String} {v : Int} {w : Word} (h : nonNegative filename node name v = .ok w) :
    0 ≤ v ∧ w = BitVec.ofInt 64 v := by
  obtain ⟨hpos, h⟩ := failIf_bind.mp h
  exact ⟨not_lt.mp hpos, (pure_ok.mp h).symm⟩

lemma pciPart_ok {address what shortName : String} {part : List Char} {max : Int} {w : Word}
    (h : pciPart filename node address part what shortName max = .ok w) : denoted 16 part = some (w.toNat : Int) := by
  unfold pciPart at h
  split at h
  · rename_i v hv
    obtain ⟨hbounds, h⟩ := failIf_bind.mp h
    obtain rfl := pure_ok.mp h
    obtain ⟨hdenoted, -, hle⟩ := fromStrRadix_denoted (by decide) (by decide) hv
    rw [ofInt_toNat ⟨(not_not.mp hbounds).1, by omega⟩]
    exact hdenoted
  · cases h

/-- A decimal number that has been parsed as one that may be negative, and is not. -/
lemma decimal_of_i64 {s : String} {v : Int} (h : unwrapInt (fromStrI64 10 s.toList) = .ok v) (hpos : 0 ≤ v) :
    decimal s = some ((BitVec.ofInt 64 v).toNat : Int) := by
  obtain ⟨hdenoted, -, hle⟩ := fromStrRadix_denoted (by decide) (by decide) (unwrapInt_ok h)
  rw [ofInt_toNat ⟨hpos, by omega⟩]
  exact hdenoted

/-- The kind of an interrupt is read from its attributes. -/
lemma SysIrqKind.fromXml_kept {kind : Option SysIrqKind} (h : SysIrqKind.fromXml filename config node = .ok kind) :
    ∃ k, kind = some k ∧ IrqKindKept node k := by
  unfold SysIrqKind.fromXml at h
  split at h
  · rename_i irq hirq
    obtain ⟨-, h⟩ := failIf_bind.mp h
    obtain ⟨⟨⟩, -, h⟩ := bind_ok.mp h
    obtain ⟨v, hv, h⟩ := bind_ok.mp h
    extract_lets rest at h
    obtain ⟨trigger, h⟩ : ∃ trigger, rest trigger = .ok kind := by
      split at h <;> exact (bind_ok.mp h).imp fun _ h => h.2
    obtain rfl := pure_ok.mp h
    obtain ⟨hdenoted, hbounds⟩ := fromStrRadix_denoted le_rfl (by decide) (unwrapInt_ok hv)
    exact ⟨_, rfl, irq, hirq, by rw [ofInt_toNat hbounds]; exact hdenoted⟩
  · rename_i pin _ hpin
    obtain ⟨-, h⟩ := failIf_bind.mp h
    obtain ⟨⟨⟩, -, h⟩ := bind_ok.mp h
    extract_lets rest at h
    obtain ⟨v, hv, h⟩ : ∃ v, (∀ w, 0 ≤ v → w = BitVec.ofInt 64 v → HasNumberOr decimal node "ioapic" 0 w.toNat) ∧
        rest v = .ok kind := by
      split at h
      · rename_i hattr
        obtain ⟨v, hv, h⟩ := bind_ok.mp h
        exact ⟨v, fun w hpos e => hasNumberOr_some hattr (e ▸ decimal_of_i64 hv hpos), h⟩
      · rename_i hattr
        obtain ⟨v, hv, h⟩ := bind_ok.mp h
        obtain rfl := pure_ok.mp hv
        exact ⟨0, fun w _ e => e ▸ hasNumberOr_none hattr, h⟩
    obtain ⟨ioapic, hioapic, h⟩ := bind_ok.mp h
    obtain ⟨p, hp, h⟩ := bind_ok.mp h
    obtain ⟨pin', hpin', h⟩ := bind_ok.mp h
    extract_lets rest' at h
    obtain ⟨trigger, h⟩ : ∃ trigger, rest' trigger = .ok kind := by
      split at h <;> exact (bind_ok.mp h).imp fun _ h => h.2
    dsimp only [rest'] at h
    obtain ⟨polarity, h⟩ : ∃ polarity, (do
        let vector ← parseVector filename node
        return some (SysIrqKind.ioapic ioapic pin' trigger polarity vector)) = .ok kind := by
      split at h <;> exact (bind_ok.mp h).imp fun _ h => h.2
    obtain ⟨vector, hvector, h⟩ := bind_ok.mp h
    obtain rfl := pure_ok.mp h
    obtain ⟨hpos, e⟩ := nonNegative_ok hioapic
    obtain ⟨hpos', rfl⟩ := nonNegative_ok hpin'
    exact ⟨_, rfl, hv ioapic hpos e, ⟨pin, hpin, decimal_of_i64 hp hpos'⟩, parseVector_ok hvector⟩
  · rename_i pcidev _ _ hpcidev
    obtain ⟨-, h⟩ := failIf_bind.mp h
    obtain ⟨⟨⟩, -, h⟩ := bind_ok.mp h
    dsimp only at h
    split at h
    · rename_i bus devFunc hcolon
      split at h
      · rename_i dev func hdot
        obtain ⟨b, hb, h⟩ := bind_ok.mp h
        obtain ⟨d, hd, h⟩ := bind_ok.mp h
        obtain ⟨f, hf, h⟩ := bind_ok.mp h
        obtain ⟨v, hv, h⟩ := bind_ok.mp h
        obtain ⟨handle, hhandle, h⟩ := bind_ok.mp h
        obtain ⟨vector, hvector, h⟩ := bind_ok.mp h
        obtain rfl := pure_ok.mp h
        obtain ⟨hpos, rfl⟩ := nonNegative_ok hhandle
        have hparts : pciParts pcidev = some (bus, dev, func) := by
          unfold pciParts
          rw [hcolon]
          dsimp only
          rw [hdot]
        exact ⟨_, rfl, ⟨pcidev, bus, dev, func, hpcidev, hparts, pciPart_ok hb, pciPart_ok hd, pciPart_ok hf⟩,
          parseI64_bounded hv hpos, parseVector_ok hvector⟩
      · cases h
    · cases h
  · -- one of the attributes has been looked for
    rename_i hirq hpin hpcidev
    have hmissing : ∀ {name : String}, node.attr name = none → ∀ s, checkedLookup filename node name ≠ .ok s := by
      intro name hnone s hs
      cases hnone.symm.trans (checkedLookup_ok hs)
    extract_lets rest at h
    split at h
    · obtain ⟨s, hs, -⟩ := bind_ok.mp h
      exact absurd hs (hmissing hirq s)
    · obtain ⟨s, hs, -⟩ := bind_ok.mp h
      exact absurd hs (hmissing hirq s)
    · obtain ⟨s, hs, -⟩ := bind_ok.mp h
      exact absurd hs (hmissing hpin s)

end elements

/-! ## Setvars -/

/-- The setvar that an attribute of an element asks for. -/
def attrSetvar (node : Node) (name : String) (kind : SysSetVarKind) : List SysSetVar :=
  ((node.attr name).map (⟨·, kind⟩)).toList

/-- The setvars that an element in a protection domain asks for. -/
def writtenSetvars (node : Node) : List SysSetVar :=
  if node.tag = "map" then
    attrSetvar node "setvar_vaddr" (.vaddr (numberOf written node "vaddr")) ++
      attrSetvar node "setvar_size" (.size ((node.attr "mr").getD "")) ++
        attrSetvar node "setvar_prefill_size" (.prefillSize ((node.attr "mr").getD ""))
  else if node.tag = "irq" then
    attrSetvar node "setvar_id" (.id (numberOf decimal node "id"))
  else if node.tag = "ioport" then
    attrSetvar node "setvar_id" (.id (numberOf decimal node "id")) ++
      attrSetvar node "setvar_addr" (.x86IoPortAddr (numberOf written node "addr"))
  else if node.tag = "setvar" then
    attrSetvar node "symbol" (.paddr ((node.attr "region_paddr").getD ""))
  else if node.tag = "virtual_machine" then
    (node.tagged "vcpu").flatMap fun vcpu =>
      attrSetvar vcpu "setvar_id" (.id (numberOf decimal vcpu "id"))
  else if node.tag = "protection_domain" then
    attrSetvar node "setvar_id" (.id (numberOf written node "id"))
  else []

section setvars

variable {filename : String} {config : Config} {node child : Node} {setvars setvars' : List SysSetVar}

lemma checkedAddSetvar_ok {setvar : SysSetVar} (h : checkedAddSetvar filename setvars setvar node = .ok setvars') :
    setvars' = setvars ++ [setvar] := by
  obtain ⟨-, h⟩ := failIf_bind.mp h
  exact (pure_ok.mp h).symm

lemma setvarOf_ok {name : String} {kind : SysSetVarKind}
    (h : setvarOf filename setvars (node.attr name) kind child = .ok setvars') :
    setvars' = setvars ++ attrSetvar node name kind := by
  unfold setvarOf at h
  unfold attrSetvar
  cases hattr : node.attr name with
  | some symbol =>
    rw [hattr] at h
    exact checkedAddSetvar_ok h
  | none =>
    rw [hattr] at h
    obtain rfl := pure_ok.mp h
    exact (List.append_nil setvars).symm

lemma IOPort.fromXml_kept {ioport : IOPort} (htag : child.tag = "ioport")
    (h : IOPort.fromXml filename config node child setvars = .ok (ioport, setvars')) :
    IOPortKept child ioport ∧ setvars' = setvars ++ writtenSetvars child := by
  obtain ⟨-, h⟩ := failIf_bind.mp h
  obtain ⟨⟨⟩, -, h⟩ := bind_ok.mp h
  obtain ⟨id, hid, h⟩ := bind_ok.mp h
  obtain ⟨setvars1, h1, h⟩ := bind_ok.mp h
  obtain ⟨s, hs, h⟩ := bind_ok.mp h
  obtain ⟨addr, haddr, h⟩ := bind_ok.mp h
  obtain ⟨setvars2, h2, h⟩ := bind_ok.mp h
  obtain ⟨size, hsize, h⟩ := bind_ok.mp h
  obtain ⟨hpos, h⟩ := failIf_bind.mp h
  obtain ⟨rfl, rfl⟩ := Prod.mk.inj (pure_ok.mp h)
  have hkept : IOPortKept child ⟨id, addr, BitVec.ofInt 64 size, node.pos⟩ :=
    ⟨parseId_ok hid, ⟨s, checkedLookup_ok hs, sdfParseNumber_written haddr⟩, parseI64_bounded hsize (by omega)⟩
  refine ⟨hkept, ?_⟩
  have hid := hkept.id.numberOf_eq
  have haddr := hkept.addr.numberOf_eq
  unfold writtenSetvars
  rw [if_neg (by rw [htag]; decide), if_neg (by rw [htag]; decide), if_pos htag, hid, haddr, setvarOf_ok h2,
    setvarOf_ok h1, List.append_assoc]

end setvars

/-! ## Virtual machines -/

/-- A virtual CPU keeps its element. -/
structure VcpuKept (node : Node) (vcpu : VirtualCpu) : Prop where
  id : HasNumber decimal node "id" vcpu.id.toNat
  cpu : match node.attr "cpu" with
    | some s => ∃ cpu : Nat, vcpu.cpu = some cpu ∧ written s = some (cpu : Int)
    | none => vcpu.cpu = none
  setvarId : vcpu.setvarId = node.attr "setvar_id"

structure VmKept (node : Node) (vm : VirtualMachine) : Prop where
  vcpus : List.Forall₂ VcpuKept (node.tagged "vcpu") vm.vcpus
  maps : List.Forall₂ MapKept (node.tagged "map") vm.maps
  priority : HasNumberOr written node "priority" 0 vm.priority.toNat
  budget : HasNumberOr written node "budget" budgetDefault.toNat vm.budget.toNat
  period : HasNumberOr written node "period" vm.budget.toNat vm.period.toNat

/-- What is known of a virtual machine that has been parsed. -/
structure VmRead (node : Node) (vm : VirtualMachine) : Prop where
  vcpus : List.Forall₂ (fun child vcpu => vcpu.setvarId = none ∧
    VcpuKept child { vcpu with setvarId := child.attr "setvar_id" })
    (node.tagged "vcpu") vm.vcpus
  maps : List.Forall₂ MapKept (node.tagged "map") vm.maps
  priority : ∃ priority : Word, HasNumberOr written node "priority" 0 priority.toNat ∧ vm.priority = priority.setWidth 8
  budget : HasNumberOr written node "budget" budgetDefault.toNat vm.budget.toNat
  period : HasNumberOr written node "period" vm.budget.toNat vm.period.toNat

section vms

variable {filename : String} {config : Config} {node child : Node}

lemma parseBudget_ok {budget period : Word} (h : parseBudget filename node = .ok (budget, period)) :
    HasNumberOr written node "budget" budgetDefault.toNat budget.toNat ∧
      HasNumberOr written node "period" budget.toNat period.toNat := by
  obtain ⟨b, hb, h⟩ := bind_ok.mp h
  obtain ⟨p, hp, h⟩ := bind_ok.mp h
  obtain ⟨-, h⟩ := failIf_bind.mp h
  obtain ⟨rfl, rfl⟩ := Prod.mk.inj (pure_ok.mp h)
  exact ⟨numberOr_hasNumberOr hb, numberOr_hasNumberOr hp⟩

lemma parseCpu_ok {s expected : String} {cpu : Nat} (h : parseCpu s node expected = .ok cpu) :
    written s = some (cpu : Int) := by
  obtain ⟨w, hw, h⟩ := bind_ok.mp h
  split_ifs at h
  · rw [← pure_ok.mp h]
    exact sdfParseNumber_written hw
  · cases h

lemma VirtualCpu.fromXml_read {vmName : String} {vcpus : List VirtualCpu} {vcpu : VirtualCpu}
    (h : VirtualCpu.fromXml filename config node child vmName vcpus = .ok vcpu) (hnone : node.attr "setvar_id" = none) :
    vcpu.setvarId = none ∧ VcpuKept child { vcpu with setvarId := child.attr "setvar_id" } := by
  obtain ⟨⟨⟩, -, h⟩ := bind_ok.mp h
  obtain ⟨s, hs, h⟩ := bind_ok.mp h
  obtain ⟨v, hv, h⟩ := bind_ok.mp h
  obtain ⟨-, h⟩ := failIf_bind.mp h
  obtain ⟨-, h⟩ := failIf_bind.mp h
  obtain ⟨hdenoted, hbounds⟩ := fromStrRadix_denoted le_rfl (by decide) (unwrapInt_ok hv)
  have hid : HasNumber decimal child "id" (BitVec.ofInt 64 v).toNat :=
    ⟨s, checkedLookup_ok hs, by rw [ofInt_toNat hbounds]; exact hdenoted⟩
  cases hattr : child.attr "cpu" with
  | some s =>
    rw [hattr] at h
    obtain ⟨cpu, hcpu, h⟩ := bind_ok.mp h
    obtain ⟨-, h⟩ := failIf_bind.mp h
    obtain rfl := pure_ok.mp h
    exact ⟨hnone, hid, by rw [hattr]; exact ⟨cpu, rfl, parseCpu_ok hcpu⟩, rfl⟩
  | none =>
    rw [hattr] at h
    obtain rfl := pure_ok.mp h
    exact ⟨hnone, hid, by rw [hattr], rfl⟩

/-- What the loop over a virtual machine has read of the elements `elements`. -/
lemma VirtualMachine.addChildren_read {vmName : String} {elements : List Node} {acc : List VirtualCpu × List SysMap}
    (h : elements.foldlM (VirtualMachine.addChild filename config node vmName) ([], []) = .ok acc)
    (hnone : node.attr "setvar_id" = none) :
    List.Forall₂ (fun child vcpu => vcpu.setvarId = none ∧
      VcpuKept child { vcpu with setvarId := child.attr "setvar_id" }) (elements.filter (·.tag == "vcpu")) acc.1 ∧
      List.Forall₂ MapKept (elements.filter (·.tag == "map")) acc.2 := by
  refine foldlM_prefix (P := fun elements (acc : List VirtualCpu × List SysMap) =>
    List.Forall₂ (fun child vcpu => vcpu.setvarId = none ∧
      VcpuKept child { vcpu with setvarId := child.attr "setvar_id" })
        (elements.filter (·.tag == "vcpu")) acc.1 ∧
      List.Forall₂ MapKept (elements.filter (·.tag == "map")) acc.2) ?_ ⟨.nil, .nil⟩ h
  rintro before child ⟨vcpus, maps⟩ acc' ⟨hvcpus, hmaps⟩ h
  unfold VirtualMachine.addChild at h
  dsimp only at h
  split_ifs at h with hvcpu hmap
  · obtain ⟨vcpu, hparsed, h⟩ := bind_ok.mp h
    obtain rfl := pure_ok.mp h
    rw [filter_snoc_of_tag hvcpu, filter_snoc_of_ne (by rw [hvcpu]; decide)]
    exact ⟨List.rel_append hvcpus (.cons (VirtualCpu.fromXml_read hparsed hnone) .nil), hmaps⟩
  · obtain ⟨map, hparsed, h⟩ := bind_ok.mp h
    obtain rfl := pure_ok.mp h
    rw [filter_snoc_of_ne hvcpu, filter_snoc_of_tag hmap]
    exact ⟨hvcpus, List.rel_append hmaps (.cons (SysMap.fromXml_kept hparsed) .nil)⟩
  · cases h

lemma VirtualMachine.fromXml_read {vm : VirtualMachine} (h : VirtualMachine.fromXml filename config node = .ok vm) :
    VmRead node vm := by
  obtain ⟨⟨⟩, hattrs, h⟩ := bind_ok.mp h
  obtain ⟨name, -, h⟩ := bind_ok.mp h
  obtain ⟨⟨budget, period⟩, hbudget, h⟩ := bind_ok.mp h
  obtain ⟨priority, hpriority, h⟩ := bind_ok.mp h
  obtain ⟨⟨vcpus, maps⟩, hchildren, h⟩ := bind_ok.mp h
  obtain ⟨-, h⟩ := failIf_bind.mp h
  obtain rfl := pure_ok.mp h
  obtain ⟨hvcpus, hmaps⟩ := VirtualMachine.addChildren_read hchildren (checkAttributes_ok hattrs (by decide))
  obtain ⟨hbudget, hperiod⟩ := parseBudget_ok hbudget
  exact ⟨hvcpus, hmaps, ⟨priority, numberOr_hasNumberOr hpriority, rfl⟩, hbudget, hperiod⟩

/-- The virtual machine keeps its element exactly if its priority fits in eight bits, and no virtual CPU asks for a setvar. -/
lemma VmRead.kept_iff {vm : VirtualMachine} (h : VmRead node vm) : VmKept node vm ↔
    (∀ vcpu ∈ node.tagged "vcpu", vcpu.attr "setvar_id" = none) ∧
      ∀ s v, node.attr "priority" = some s → written s = some v → v ≤ 255 := by
  constructor
  · intro hkept
    refine ⟨fun child hchild => ?_, fun s v hs hv => ?_⟩
    · have hboth := hkept.vcpus.mp (fun _ _ hkept hread => And.intro hkept hread) h.vcpus
      obtain ⟨vcpu, -, hvcpu, hnone, -⟩ := exists_of_forall₂_left hboth hchild
      exact hvcpu.setvarId.symm.trans hnone
    · have hpriority := hkept.priority
      unfold HasNumberOr at hpriority
      rw [hs] at hpriority
      obtain rfl := Option.some.inj (hv.symm.trans hpriority)
      have hlt := vm.priority.isLt
      omega
  · rintro ⟨hsetvars, hfits⟩
    refine ⟨?_, h.maps, ?_, h.budget, h.period⟩
    · have hmem := (List.forall₂_and_left (p := (· ∈ node.tagged "vcpu")) _ _).mpr ⟨fun _ h => h, h.vcpus⟩
      refine hmem.imp ?_
      rintro child vcpu ⟨hchild, hnone, hkept⟩
      rw [hsetvars child hchild] at hkept
      exact ⟨hkept.id, hkept.cpu, hnone.trans (hsetvars child hchild).symm⟩
    · obtain ⟨priority, hpriority, e⟩ := h.priority
      have hle : priority.toNat ≤ 255 := by
        unfold HasNumberOr at hpriority
        split at hpriority
        · rename_i s hs
          have hle := hfits s _ hs hpriority
          omega
        · omega
      have hword : vm.priority.toNat = priority.toNat := by
        rw [e, BitVec.toNat_setWidth, Nat.mod_eq_of_lt (by omega)]
      rwa [hword]

end vms

end NexsKernel.Sdf
