import NexsKernel.Lib.Bits
import NexsKernel.Lib.Failing
import NexsKernel.System.Refused

/-!
# Addresses of capabilities

`decodeAddress` says what an address means: a CNode takes the bits of its guard, which must be its guard, and then
the bits of an index; the rest goes to the CNode in that slot. `resolveAddressBits` is this decoding, computed with
shifts and masks (`resolveAddressBits_eq`). In C a shift by the width of a word or more has no result, so
`resolveLevelsShifting` is the same loop with every shift checked.
-/

namespace NexsKernel

open Bits

/-- How a lookup ends. -/
inductive Resolved where
  | slot (slot : Slot) (bitsRemaining : Nat)
  | fault (fault : LookupFault)
  deriving DecidableEq, Repr

/-- `cap_get_capType(cap) == cap_cnode_cap`. -/
def isCNode : Cap → Bool
  | .cnode .. => true
  | _ => false

/-- What the fields of a `cnode_cap` can hold, if the CNode resolves any bits. -/
def CNodeFields : Cap → Prop
  | .cnode radix guardSize guard _ =>
    radix < 2 ^ Decode.wordRadix ∧ guardSize < 2 ^ Decode.wordRadix ∧ guard < 2 ^ wordBits ∧ 0 < radix + guardSize
  | _ => True

/-- What the bits of an address mean. A CNode that resolves no bits gives them no meaning. -/
def decodeAddress (cap : Slot → Cap) (nodeCap : Cap) (bits : List Bool) : Option Resolved :=
  match nodeCap with
  | .cnode radix guardSize guard ptr =>
    if radix + guardSize = 0 then
      none
    else if bits.length < guardSize ∨ bitsValue (bits.take guardSize) ≠ guard then
      some (.fault (.guardMismatch guard bits.length guardSize))
    else if (bits.drop guardSize).length < radix then
      some (.fault (.depthMismatch (radix + guardSize) bits.length))
    else
      let slot := slotAt ptr (bitsValue ((bits.drop guardSize).take radix))
      let rest := (bits.drop guardSize).drop radix
      if rest ≠ [] ∧ isCNode (cap slot) = true then
        decodeAddress cap (cap slot) rest
      else
        some (.slot slot rest.length)
  | _ => some (.fault .invalidRoot)
termination_by bits.length
decreasing_by
  simp only [List.length_drop] at *
  omega

/-- What the caller of a lookup sees. -/
def Resolved.result (s : System) : Resolved → EStateM.Result Stop System (Slot × Nat)
  | .slot found bitsRemaining => .ok (found, bitsRemaining) s
  | .fault reported => .error (.exception .lookupFault) { s with currentLookupFault := reported }

namespace Decode

/-- `a >> n`. -/
def shiftRight (a n : Nat) : Decode Nat :=
  if n < wordBits then pure (a / 2 ^ n) else throw (.halt .outOfBounds)

/-- `a & MASK(n)`; the mask is computed by a shift. -/
def andMask (a n : Nat) : Decode Nat :=
  if n < wordBits then pure (a % 2 ^ n) else throw (.halt .outOfBounds)

/-- `resolveLevels`, with its shifts checked. -/
def resolveLevelsShifting (capptr : Nat) : Nat → Cap → Nat → Decode (Slot × Nat)
  | 0, _, _ => throw (.halt .outOfFuel)
  | fuel + 1, .cnode radixBits guardBits capGuard ptr, nBits => do
    let levelBits := radixBits + guardBits
    if levelBits = 0 then
      throw (.halt .assertion)
    else
      let guard ← andMask (← shiftRight capptr (sub64 nBits guardBits % 2 ^ wordRadix)) guardBits
      if guardBits > nBits ∨ guard ≠ capGuard then do
        setLookupFault (.guardMismatch capGuard nBits guardBits)
        throw (.exception .lookupFault)
      else if levelBits > nBits then do
        setLookupFault (.depthMismatch levelBits nBits)
        throw (.exception .lookupFault)
      else
        let offset ← andMask (← shiftRight capptr (nBits - levelBits)) radixBits
        let slot := slotAt ptr offset
        if nBits = levelBits then
          return (slot, 0)
        else do
          match ← capOf slot with
          | .cnode radix size guard ptr =>
            resolveLevelsShifting capptr fuel (.cnode radix size guard ptr) (nBits - levelBits)
          | _ => return (slot, nBits - levelBits)
  | _, _, nBits => return (0, nBits)

/-- `resolveAddressBits`, with its shifts checked. -/
def resolveAddressBitsShifting (nodeCap : Cap) (capptr nBits : Nat) : Decode (Slot × Nat) :=
  match nodeCap with
  | .cnode radix size guard ptr => resolveLevelsShifting capptr (nBits + 1) (.cnode radix size guard ptr) nBits
  | _ => do
    setLookupFault .invalidRoot
    throw (.exception .lookupFault)

lemma shiftRight_eq {a n : Nat} (h : n < wordBits) : shiftRight a n = pure (a / 2 ^ n) :=
  if_pos h

lemma andMask_eq {a n : Nat} (h : n < wordBits) : andMask a n = pure (a % 2 ^ n) :=
  if_pos h

variable {s : System} {capptr : Nat}

/-- The shift that moves the guard to the right, without the mask that keeps it below the width of a word. -/
private lemma guard_shift {n g : Nat} (hn : n ≤ wordBits) (hg : g < 2 ^ wordRadix) (h : g ≤ n) :
    capptr / 2 ^ (sub64 n g % 2 ^ wordRadix) % 2 ^ g = capptr / 2 ^ (n - g) % 2 ^ g := by
  unfold wordBits at hn
  unfold wordRadix at *
  have hlt : n < 2 ^ 64 := by omega
  rw [sub64_eq h hlt]
  rcases Nat.eq_zero_or_pos g with rfl | hpos
  · rw [pow_zero, Nat.mod_one, Nat.mod_one]
  · have : (n - g) % 2 ^ 6 = n - g := Nat.mod_eq_of_lt (by omega)
    rw [this]

/-- The levels that a lookup goes through are those of the decoding. -/
lemma resolveLevels_eq (hs : ∀ t, CNodeFields (s.cspace.cap t)) :
    ∀ {fuel n radix guardSize guard ptr}, CNodeFields (.cnode radix guardSize guard ptr) → n ≤ wordBits → n < fuel →
      ∃ r, decodeAddress s.cspace.cap (.cnode radix guardSize guard ptr) (lowBits capptr n) = some r ∧
        resolveLevels capptr fuel (.cnode radix guardSize guard ptr) n s = r.result s ∧
        resolveLevelsShifting capptr fuel (.cnode radix guardSize guard ptr) n s = r.result s := by
  intro fuel
  induction fuel with
  | zero => exact fun _ _ h => absurd h (Nat.not_lt_zero _)
  | succ fuel ih =>
    intro n radix g guard ptr hf hn hfuel
    obtain ⟨hr, hg, hguard, hpos⟩ := hf
    have hrw : radix < wordBits := hr
    have hgw : g < wordBits := hg
    have hshift : sub64 n g % 2 ^ wordRadix < wordBits := Nat.mod_lt _ (by decide)
    rw [decodeAddress, resolveLevels, resolveLevelsShifting]
    simp only [if_neg hpos.ne', shiftRight_eq hshift, andMask_eq hgw, pure_bind, length_lowBits, List.length_drop]
    by_cases hmis : n < g ∨ bitsValue ((lowBits capptr n).take g) ≠ guard
    · -- the guard is longer than what is left of the address, or differs
      have hmis' : g > n ∨ capptr / 2 ^ (sub64 n g % 2 ^ wordRadix) % 2 ^ g ≠ guard := by
        rcases hmis with h | h
        · exact .inl h
        · rcases Nat.lt_or_ge n g with hlt | hle
          · exact .inl hlt
          · right
            rwa [guard_shift hn hg hle, ← take_lowBits hle]
      rw [if_pos hmis, if_pos hmis', if_pos hmis']
      exact ⟨_, rfl, rfl, rfl⟩
    · obtain ⟨hle, heq⟩ := not_or.mp hmis
      have hle : g ≤ n := Nat.not_lt.mp hle
      have hmis' : ¬ (g > n ∨ capptr / 2 ^ (sub64 n g % 2 ^ wordRadix) % 2 ^ g ≠ guard) := by
        rw [guard_shift hn hg hle, ← take_lowBits hle]
        exact hmis
      rw [if_neg hmis, if_neg hmis', if_neg hmis']
      by_cases hdepth : n - g < radix
      · have hdepth' : radix + g > n := by omega
        rw [if_pos hdepth, if_pos hdepth', if_pos hdepth']
        exact ⟨_, rfl, rfl, rfl⟩
      · have hdepth' : ¬ radix + g > n := by omega
        have hamount : n - (radix + g) < wordBits := by omega
        have hrest : n - g - radix = n - (radix + g) := by omega
        rw [if_neg hdepth, if_neg hdepth', if_neg hdepth']
        simp only [shiftRight_eq hamount, andMask_eq hrw, pure_bind]
        rw [drop_lowBits hle, drop_lowBits (Nat.not_lt.mp hdepth), take_lowBits (Nat.not_lt.mp hdepth), hrest]
        generalize hslot : slotAt ptr (capptr / 2 ^ (n - (radix + g)) % 2 ^ radix) = slot
        by_cases hend : n = radix + g
        · -- nothing is left
          have hnil : n - (radix + g) = 0 := by omega
          rw [if_pos hend, if_pos hend, hnil]
          exact ⟨_, rfl, rfl, rfl⟩
        · have hne : lowBits capptr (n - (radix + g)) ≠ [] := by
            apply List.ne_nil_of_length_pos
            rw [length_lowBits]
            omega
          rw [if_neg hend, if_neg hend]
          have hcap : capOf slot s = .ok (s.cspace.cap slot) s := rfl
          rw [Failing.bind_ok hcap, Failing.bind_ok hcap]
          have hslotf := hs slot
          cases hc : s.cspace.cap slot with
          | cnode radix' g' guard' ptr' =>
            rw [hc] at hslotf
            rw [if_pos ⟨hne, rfl⟩]
            exact ih hslotf (by omega) (by omega)
          | _ =>
            rw [if_neg (fun h => by cases h.2)]
            exact ⟨_, rfl, rfl, rfl⟩

/-- In every CSpace, `resolveAddressBits` returns, does what the decoding of the address says, and never shifts by the
width of a word or more. -/
theorem resolveAddressBits_eq {root : Cap} {nBits : Nat} (hroot : CNodeFields root)
    (hs : ∀ t, CNodeFields (s.cspace.cap t)) (hn : nBits ≤ wordBits) :
    ∃ r, decodeAddress s.cspace.cap root (lowBits capptr nBits) = some r ∧
      resolveAddressBits root capptr nBits s = r.result s ∧
      resolveAddressBitsShifting root capptr nBits s = r.result s := by
  cases root with
  | cnode radix guardSize guard ptr => exact resolveLevels_eq hs hroot hn (Nat.lt_succ_self _)
  | _ =>
    rw [decodeAddress]
    · exact ⟨_, rfl, rfl, rfl⟩
    · exact nofun

/-- A CNode with two slots and the guard 1; it is in its own first slot. -/
def loopCap : Cap :=
  .cnode 1 1 1 0x1000

/-- A machine with this CNode and nothing else. -/
def loopSystem : System :=
  { bootSystem with cspace := CSpace.empty.setCap 0x1000 loopCap }

/-- The CNode is gone through 32 times. -/
theorem resolveAddressBits_eq_loop :
    resolveAddressBits loopCap 0xaaaaaaaaaaaaaaaa wordBits loopSystem = .ok (0x1000, 0) loopSystem := by
  have hfields : CNodeFields loopCap := ⟨by decide, by decide, by decide, by decide⟩
  have hs : ∀ t, CNodeFields (loopSystem.cspace.cap t) := by
    intro t
    show CNodeFields (Function.update (fun _ => Cap.null) 0x1000 loopCap t)
    by_cases h : t = 0x1000
    · rw [h, Function.update_self]
      exact hfields
    · rw [Function.update_of_ne h]
      trivial
  obtain ⟨r, hr, hrun, -⟩ := @resolveAddressBits_eq loopSystem 0xaaaaaaaaaaaaaaaa loopCap wordBits hfields hs le_rfl
  have hdec : decodeAddress loopSystem.cspace.cap loopCap (lowBits 0xaaaaaaaaaaaaaaaa wordBits) =
    some (.slot 0x1000 0) := by
    decide +kernel
  cases hr.symm.trans hdec
  exact hrun

end Decode

end NexsKernel
