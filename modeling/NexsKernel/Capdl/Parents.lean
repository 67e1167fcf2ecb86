import NexsKernel.Capdl.Builder
import NexsKernel.Lib.Failing
import NexsKernel.Sdf.Flatten

/-!
# Parents

The builder takes the protection domains in the order of the list that the parser has flattened them to, and asserts
that it has come across the parent of each. With what flattening guarantees, the assertion never fails
(`parse_flattened`).
-/

namespace NexsKernel.Capdl

open Sdf Failing

/-- The assertion that a parent comes first. -/
def parentAssertion : Failure :=
  .panicked "assertion failed: pd_global_idx > pd_parent"

/-! ## What fails otherwise -/

section avoids

lemma panicWith_avoids {α : Type} {message : String} (h : message ≠ "assertion failed: pd_global_idx > pd_parent") :
    Avoids (· = parentAssertion) (panicWith message : M α) :=
  Avoids.throw fun e => h (Failure.panicked.inj e)

lemma unwrapOption_avoids {α : Type} (o : Option α) : Avoids (· = parentAssertion) (unwrapOption o) := by
  cases o with
  | none => exact panicWith_avoids (by decide)
  | some a => exact Avoids.pure a

lemma lookupKey_avoids {κ α : Type} [BEq κ] (table : List (κ × α)) (key : κ) :
    Avoids (· = parentAssertion) (lookupKey table key) := by
  unfold lookupKey
  cases table.lookup key with
  | none => exact panicWith_avoids (by decide)
  | some a => exact Avoids.pure a

lemma getRootObject_avoids (id : ObjectId) : Avoids (· = parentAssertion) (getRootObject id) := by
  unfold getRootObject
  refine Avoids.bind Avoids.get fun c => ?_
  cases c.objects[id]? with
  | none => exact panicWith_avoids (by decide)
  | some obj => exact Avoids.pure obj

lemma setObject_avoids (id : ObjectId) (obj : Object) : Avoids (· = parentAssertion) (setObject id obj) :=
  Avoids.modify _

lemma panicWith_bind_avoids {α β : Type} {message : String} {k : α → M β}
    (h : message ≠ "assertion failed: pd_global_idx > pd_parent") :
    Avoids (· = parentAssertion) (panicWith message >>= k) := by
  intro s e s' he
  rw [bind_error (m := panicWith message) rfl] at he
  cases he
  exact fun e => h (Failure.panicked.inj e)

lemma insertCapIntoCspace_avoids (cspace : ObjectId) (idx : Nat) (cap : Cap) :
    Avoids (· = parentAssertion) (insertCapIntoCspace cspace idx cap) := by
  unfold insertCapIntoCspace
  split_ifs with h
  · exact panicWith_bind_avoids (by decide)
  · refine Avoids.bind (getRootObject_avoids cspace) fun obj => ?_
    split
    · exact setObject_avoids _ _
    · refine panicWith_avoids fun e => ?_
      have hhead := congrArg (·.toList.head?) e
      simp [toString] at hhead

end avoids

lemma buildFaultEp_avoids {monitor : Monitor} {tables : PdTables} {pd : ProtectionDomain} {idx : Nat} {tcb : ObjectId}
    (h : ∀ parent, pd.parent = some parent → parent < idx) :
    Avoids (· = parentAssertion) (buildFaultEp monitor tables pd idx tcb) := by
  unfold buildFaultEp
  cases hparent : pd.parent with
  | none => exact Avoids.pure _
  | some parent =>
    dsimp only
    rw [if_neg (Nat.not_le.mpr (h parent hparent))]
    refine Avoids.bind (unwrapOption_avoids _) fun id => ?_
    refine Avoids.bind (lookupKey_avoids _ _) fun ep => ?_
    refine Avoids.bind (lookupKey_avoids _ _) fun cspace => ?_
    exact Avoids.bind (insertCapIntoCspace_avoids _ _ _) fun _ => Avoids.pure _

/-- The protection domains of a description that the parser accepts are those of its forest in preorder, each exactly
once, and the parent of each is the index of its actual parent, which is smaller. So the builder does not find a child
before its parent. -/
theorem parse_flattened {filename : String} {config : Config} {files : String → PrefillFile} {nodes : List Node}
    {sd : SystemDescription} (h : parse filename config files (.ok nodes) = .ok sd) :
    ∃ system forest flat, systemNode nodes = some system ∧
      List.Forall₂ (fun node tree => ProtectionDomain.fromXml filename config false node = .ok tree)
        (system.tagged "protection_domain") forest ∧
      pdFlatten filename forest = .ok flat ∧ List.Forall₂ SameButSetvars flat sd.protectionDomains ∧
      (∀ path, path ∈ forestPaths 0 forest ↔ ∃ pd, forestAt forest path = some pd) ∧
      (forestPaths 0 forest).Nodup ∧ (forestPaths 0 forest).Pairwise (List.Lex (· < ·)) ∧
      Flattened none 0 forest flat ∧
      ∀ pd idx, (pd, idx) ∈ sd.protectionDomains.zipIdx → ∀ monitor tables tcb c c',
        buildFaultEp monitor tables pd idx tcb c ≠ .error parentAssertion c' := by
  obtain ⟨_, system, body, flat, optimised, e, hs⟩ := parse_stages h
  cases e
  have hflat := pdFlatten_flattened hs.flattened
  have hsame := addChannels_same hs.channels
  refine ⟨system, body.rootPds, flat, hs.root, (TopLevel.run hs.elements).rootPds, hs.flattened, hsame,
    fun _ => mem_forestPaths_iff, forestPaths_nodup _, forestPaths_pairwise 0 _, hflat, ?_⟩
  intro pd idx hmem monitor tables tcb c c' hfails
  refine buildFaultEp_avoids ?_ c _ c' hfails rfl
  intro parent hparent
  have hget : sd.protectionDomains[idx]? = some pd := List.mem_zipIdx_iff_getElem?.mp hmem
  obtain ⟨hlt, rfl⟩ := List.getElem?_eq_some_iff.mp hget
  have hpd := List.Forall₂.get hsame (hsame.length_eq ▸ hlt) hlt
  exact hflat.parent_lt (List.getElem?_eq_getElem _) ((congrArg ProtectionDomain.parent hpd).symm.trans hparent)

/-- A protection domain with two children, the first of which has one of its own. -/
private def family : List Node :=
  [.element "system" [] ⟨1, 1⟩ [
    .element "protection_domain" [("name", "a")] ⟨2, 3⟩ [
      .element "program_image" [("path", "a.elf")] ⟨3, 5⟩ [],
      .element "protection_domain" [("name", "b"), ("id", "0")] ⟨4, 5⟩ [
        .element "program_image" [("path", "b.elf")] ⟨5, 7⟩ [],
        .element "protection_domain" [("name", "d"), ("id", "0")] ⟨6, 7⟩ [
          .element "program_image" [("path", "d.elf")] ⟨7, 9⟩ []]],
      .element "protection_domain" [("name", "c"), ("id", "1")] ⟨8, 5⟩ [
        .element "program_image" [("path", "c.elf")] ⟨9, 7⟩ []]]]]

private def familyConfig : Config :=
  ⟨.x86_64, false, false, 1, none, none, ⟨11, 4, 6, 5, 12, 12, 21, 12, 12⟩, x86_paSize⟩

/-- What differs between the protection domains. -/
private def familyMember (name image : String) (id : Option Word) (hasChildren : Bool) (parent : Option Nat)
    (textPos : TextPos) : ProtectionDomain :=
  { id, name, priority := 0, budget := 1000, period := 1000, passive := false, stackSize := 0x2000,
    smc := false, cpu := 0, programImage := image, programImageForSymbols := none, fpu := true, maps := [],
    irqs := [], ioports := [],
      setvars := []
    virtualMachine := none, hasChildren, parent, setvarId := none, textPos }

private def familyParsed : SystemDescription :=
  ⟨[familyMember "a" "a.elf" none true none ⟨2, 3⟩, familyMember "b" "b.elf" (some 0) true (some 0) ⟨4, 5⟩,
    familyMember "d" "d.elf" (some 0) false (some 1) ⟨6, 7⟩, familyMember "c" "c.elf" (some 1) false (some 0) ⟨8, 5⟩], [], []⟩

/-- A domain with two children, of which one has a child. -/
theorem parse_flattened_family :
    parse "family.system" familyConfig (fun _ => .notFound) (.ok family) = .ok familyParsed ∧
      ∃ system forest flat, systemNode family = some system ∧
        List.Forall₂ (fun node tree => ProtectionDomain.fromXml "family.system" familyConfig false node = .ok tree)
          (system.tagged "protection_domain") forest ∧
        pdFlatten "family.system" forest = .ok flat ∧ Flattened none 0 forest flat := by
  have hparsed : parse "family.system" familyConfig (fun _ => .notFound) (.ok family) = .ok familyParsed := by
    decide +kernel
  obtain ⟨system, forest, flat, hsystem, htrees, hflat, -, -, -, -, hflattened, -⟩ := parse_flattened hparsed
  exact ⟨hparsed, system, forest, flat, hsystem, htrees, hflat, hflattened⟩

end NexsKernel.Capdl
