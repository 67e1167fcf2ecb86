import NexsKernel.CSpace.Indexing
import NexsKernel.CSpace.Safety
import NexsKernel.System.Refused
import NexsKernel.System.Resolve

/-!
# The lookup of the fastpath

`lookup_fp` shifts the bits that it has resolved out of the address, looks at the guard only where there is one, and
finds out at the end whether it has resolved more bits than there are. It comes to the capability that `lookupCap`
comes to, or to a null capability (`lookupFp_iff`).
-/

namespace NexsKernel

open Bits

/-- `a << n`, where C has a result. -/
def shiftLeft64 (a n : Nat) : Except Halt Nat :=
  if n < wordBits then .ok (a * 2 ^ n % 2 ^ 64) else .error .outOfBounds

/-- `a >> n`, where C has a result. -/
def shiftRight64 (a n : Nat) : Except Halt Nat :=
  if n < wordBits then .ok (a / 2 ^ n) else .error .outOfBounds

/-- Whether the guard of a CNode differs from the first bits of what is left of the address. -/
def guardDiffers (cptr2 guardBits capGuard : Nat) : Except Halt Bool :=
  if guardBits = 0 then
    return false
  else do
    let guard ← shiftRight64 cptr2 (wordBits - guardBits)
    return guard != capGuard

/-- The loop of `lookup_fp`. -/
def lookupFpLevels (cap : Slot → Cap) (cptr : Nat) : Nat → Nat → Cap → Except Halt Cap
  | 0, _, _ => .error .outOfFuel
  | fuel + 1, bits, .cnode radixBits guardBits capGuard ptr => do
    let cptr2 ← shiftLeft64 cptr bits
    if ← guardDiffers cptr2 guardBits capGuard then
      return .null
    else
      let radix ← shiftRight64 (← shiftLeft64 cptr2 guardBits) (wordBits - radixBits)
      let slot := slotAt ptr radix
      let bits := bits + (guardBits + radixBits)
      if bits < wordBits ∧ isCNode (cap slot) = true then
        lookupFpLevels cap cptr fuel bits (cap slot)
      else if bits > wordBits then
        -- more bits have been resolved than there are
        return .null
      else
        return cap slot
  | _, _, cap => return cap

/-- `lookup_fp`. -/
def lookupFp (cap : Slot → Cap) (root : Cap) (cptr : Nat) : Except Halt Cap :=
  if isCNode root = true then lookupFpLevels cap cptr wordBits 0 root else return .null

/-- `TCB_PTR_CTE_PTR(thread, tcbCTable)`. -/
def ctableSlot (thread : Nat) : Slot :=
  slotAt (tcbPtrCtePtr thread) TcbCNodeIndex.tcbCTable.pos

namespace Decode

/-- `lookupSlot`. -/
def lookupSlot (thread capptr : Nat) : Decode Slot := do
  let threadRoot ← capOf (ctableSlot thread)
  let (slot, _) ← resolveAddressBits threadRoot capptr wordBits
  return slot

/-- `lookupCap`. -/
def lookupCap (thread capptr : Nat) : Decode Cap := do
  let slot ← lookupSlot thread capptr
  capOf slot

end Decode

/-- The capability that a lookup comes to; after a fault there is none. -/
def Resolved.cap (cap : Slot → Cap) : Resolved → Cap
  | .slot found _ => cap found
  | .fault _ => .null

lemma shiftLeft64_eq {a n : Nat} (h : n < wordBits) : shiftLeft64 a n = .ok (a * 2 ^ n % 2 ^ 64) :=
  if_pos h

lemma shiftRight64_eq {a n : Nat} (h : n < wordBits) : shiftRight64 a n = .ok (a / 2 ^ n) :=
  if_pos h

/-- Shifting out what has been resolved brings the next bits to the top of the word. -/
lemma topBits {a b k : Nat} (h : b + k ≤ 64) :
    a * 2 ^ b % 2 ^ 64 / 2 ^ (64 - k) = a / 2 ^ (64 - b - k) % 2 ^ k := by
  have e1 : 2 ^ 64 = 2 ^ (64 - b) * 2 ^ b := by
    rw [← pow_add]
    congr 1
    omega
  have e2 : 2 ^ (64 - k) = 2 ^ (64 - b - k) * 2 ^ b := by
    rw [← pow_add]
    congr 1
    omega
  have e3 : 2 ^ (64 - b) = 2 ^ (64 - b - k) * 2 ^ k := by
    rw [← pow_add]
    congr 1
    omega
  calc a * 2 ^ b % 2 ^ 64 / 2 ^ (64 - k)
      = a % 2 ^ (64 - b) * 2 ^ b / (2 ^ (64 - b - k) * 2 ^ b) := by rw [e2, e1, Nat.mul_mod_mul_right]
    _ = a % 2 ^ (64 - b) / 2 ^ (64 - b - k) := Nat.mul_div_mul_right _ _ (Nat.two_pow_pos b)
    _ = a / 2 ^ (64 - b - k) % 2 ^ k := by rw [e3, Nat.mod_mul_right_div_self]

/-- The bits of the guard are shifted out after those that have been resolved. -/
lemma shiftLeft_shiftLeft (a b g : Nat) : a * 2 ^ b % 2 ^ 64 * 2 ^ g % 2 ^ 64 = a * 2 ^ (b + g) % 2 ^ 64 := by
  rw [Nat.mod_mul_mod, Nat.mul_assoc, ← pow_add]

/-- The guard of a CNode, when there are bits enough for it. -/
lemma guardDiffers_eq {cptr b g guard : Nat} (h : b + g ≤ 64) (hguard : guard < 2 ^ g) (hg : g < wordBits) :
    guardDiffers (cptr * 2 ^ b % 2 ^ 64) g guard =
      .ok (bitsValue ((lowBits cptr (64 - b)).take g) != guard) := by
  have hle : g ≤ 64 - b := by omega
  rw [take_lowBits hle]
  unfold guardDiffers
  rcases Nat.eq_zero_or_pos g with rfl | hpos
  · -- a guard without bits is 0
    have : guard = 0 := by omega
    rw [if_pos rfl, this, pow_zero, Nat.mod_one]
    rfl
  · have hamount : wordBits - g < wordBits := by
      unfold wordBits
      omega
    rw [if_neg hpos.ne', shiftRight64_eq hamount]
    show Except.ok (cptr * 2 ^ b % 2 ^ 64 / 2 ^ (64 - g) != guard) = _
    rw [topBits h]

lemma guardDiffers_ok {x g guard : Nat} (hg : g < wordBits) : ∃ d, guardDiffers x g guard = .ok d := by
  unfold guardDiffers
  split
  · exact ⟨_, rfl⟩
  · rename_i h0
    have hamount : wordBits - g < wordBits := by
      unfold wordBits at *
      omega
    rw [shiftRight64_eq hamount]
    exact ⟨_, rfl⟩

variable {cap : Slot → Cap} {cptr : Nat}

/-- One level of the fastpath; every shift has a result. -/
lemma lookupFpLevels_succ {fuel b radix g guard ptr d} (hi : Indexing (.cnode radix g guard ptr)) (hb : b < wordBits)
    (hd : guardDiffers (cptr * 2 ^ b % 2 ^ 64) g guard = .ok d) :
    lookupFpLevels cap cptr (fuel + 1) b (.cnode radix g guard ptr) =
      if d = true then .ok .null
      else
        let slot := slotAt ptr (cptr * 2 ^ (b + g) % 2 ^ 64 / 2 ^ (64 - radix))
        let bits := b + (g + radix)
        if bits < wordBits ∧ isCNode (cap slot) = true then lookupFpLevels cap cptr fuel bits (cap slot)
        else if bits > wordBits then .ok .null
        else .ok (cap slot) := by
  obtain ⟨⟨hradix, -⟩, hle, -⟩ := hi
  have hg : g < wordBits := by omega
  have hr : wordBits - radix < wordBits := by omega
  rw [lookupFpLevels, shiftLeft64_eq hb]
  show (guardDiffers (cptr * 2 ^ b % 2 ^ 64) g guard >>= _) = _
  rw [hd, ← shiftLeft_shiftLeft]
  cases d with
  | true => rfl
  | false =>
    show (shiftLeft64 (cptr * 2 ^ b % 2 ^ 64) g >>= _) = _
    rw [shiftLeft64_eq hg]
    show (shiftRight64 _ (wordBits - radix) >>= _) = _
    rw [shiftRight64_eq hr]
    rfl

/-- A CNode that resolves more bits than are left ends the lookup. -/
lemma lookupFpLevels_over {fuel b radix g guard ptr} (hi : Indexing (.cnode radix g guard ptr)) (hb : b < wordBits)
    (hover : wordBits < b + (g + radix)) :
    lookupFpLevels cap cptr (fuel + 1) b (.cnode radix g guard ptr) = .ok .null := by
  have ⟨⟨hradix, _⟩, hle, _⟩ := hi
  have hg : g < wordBits := by omega
  obtain ⟨d, hd⟩ := @guardDiffers_ok (cptr * 2 ^ b % 2 ^ 64) g guard hg
  rw [lookupFpLevels_succ hi hb hd]
  dsimp only
  split
  · rfl
  · rw [if_neg (fun h => absurd h.1 (Nat.not_lt.mpr hover.le))]

/-- The levels that the fastpath goes through are those of the decoding, as long as there are bits enough. -/
lemma lookupFpLevels_eq (hs : ∀ t, Indexing (cap t)) :
    ∀ {fuel b radix g guard ptr}, Indexing (.cnode radix g guard ptr) → b < wordBits → wordBits ≤ b + fuel →
      ∃ r, decodeAddress cap (.cnode radix g guard ptr) (lowBits cptr (wordBits - b)) = some r ∧
        lookupFpLevels cap cptr fuel b (.cnode radix g guard ptr) = .ok (r.cap cap) := by
  intro fuel
  induction fuel with
  | zero => exact fun _ hb hfuel => absurd hfuel (Nat.not_le.mpr hb)
  | succ fuel ih =>
    intro b radix g guard ptr hi hb hfuel
    have ⟨⟨hradix, _⟩, hle, hguard⟩ := hi
    have hpos : ¬ radix + g = 0 := by omega
    rw [decodeAddress]
    simp only [if_neg hpos, length_lowBits, List.length_drop]
    by_cases hover : wordBits < b + (g + radix)
    · -- a fault, of the guard or of the depth
      rw [lookupFpLevels_over hi hb hover]
      split
      · exact ⟨_, rfl, rfl⟩
      · rw [if_pos (by omega)]
        exact ⟨_, rfl, rfl⟩
    · have hg : g < wordBits := by omega
      have hbg : b + g ≤ wordBits := by omega
      have hbgr : b + g + radix ≤ wordBits := by omega
      have hle1 : g ≤ wordBits - b := by omega
      have hle2 : radix ≤ wordBits - b - g := by omega
      rw [lookupFpLevels_succ hi hb (guardDiffers_eq hbg hguard hg)]
      by_cases heq : bitsValue ((lowBits cptr (wordBits - b)).take g) = guard
      · have hmis : ¬ (wordBits - b < g ∨ bitsValue ((lowBits cptr (wordBits - b)).take g) ≠ guard) :=
          not_or.mpr ⟨Nat.not_lt.mpr hle1, not_not.mpr heq⟩
        have hsame : ¬ (bitsValue ((lowBits cptr (64 - b)).take g) != guard) = true := by
          rw [bne_iff_ne]
          exact not_not.mpr heq
        have hrest : wordBits - b - g - radix = wordBits - (b + (g + radix)) := by omega
        have hindex : cptr * 2 ^ (b + g) % 2 ^ 64 / 2 ^ (64 - radix) =
            cptr / 2 ^ (wordBits - (b + (g + radix))) % 2 ^ radix := by
          rw [topBits hbgr, Nat.sub_sub, Nat.add_assoc]
          rfl
        rw [if_neg hmis, if_neg (Nat.not_lt.mpr hle2), if_neg hsame, hindex]
        rw [drop_lowBits hle1, drop_lowBits hle2, take_lowBits hle2, hrest]
        dsimp only
        generalize slotAt ptr _ = slot
        rw [if_neg hover]
        have hmore : lowBits cptr (wordBits - (b + (g + radix))) ≠ [] ↔ b + (g + radix) < wordBits := by
          rw [← List.length_pos_iff, length_lowBits]
          omega
        by_cases hgo : b + (g + radix) < wordBits ∧ isCNode (cap slot) = true
        · rw [if_pos hgo, if_pos (hgo.imp_left hmore.mpr)]
          have hc := hs slot
          cases hcap : cap slot with
          | cnode radix' g' guard' ptr' =>
            rw [hcap] at hc
            exact ih hc hgo.1 (by omega)
          | _ =>
            rw [hcap] at hgo
            cases hgo.2
        · rw [if_neg hgo, if_neg (mt (And.imp_left hmore.mp) hgo)]
          exact ⟨_, rfl, rfl⟩
      · have hdiff : (bitsValue ((lowBits cptr (64 - b)).take g) != guard) = true := bne_iff_ne.mpr heq
        rw [if_pos (.inr heq), if_pos hdiff]
        exact ⟨_, rfl, rfl⟩

lemma Indexing.fields {c : Cap} (h : Indexing c) : CNodeFields c := by
  cases c with
  | cnode radix g guard ptr =>
    obtain ⟨⟨hradix, hlt⟩, hle, hguard⟩ := h
    have hg : g < wordBits := by omega
    exact ⟨hlt, hg, hguard.trans (Nat.pow_lt_pow_right (by decide) hg), by omega⟩
  | _ => trivial

namespace Decode

variable {s : System} {thread cptr : Nat}

lemma lookupCap_ok {found n s'} (h : resolveAddressBits (s.cspace.cap (ctableSlot thread)) cptr wordBits s =
    .ok (found, n) s') :
    lookupCap thread cptr s = .ok (s'.cspace.cap found) s' := by
  have hroot : capOf (ctableSlot thread) s = .ok (s.cspace.cap (ctableSlot thread)) s := rfl
  have hslot : lookupSlot thread cptr s = .ok found s' := by
    unfold lookupSlot
    rw [Failing.bind_ok hroot, Failing.bind_ok h]
    rfl
  unfold lookupCap
  rw [Failing.bind_ok hslot]
  rfl

lemma lookupCap_error {e s'} (h : resolveAddressBits (s.cspace.cap (ctableSlot thread)) cptr wordBits s = .error e s') :
    lookupCap thread cptr s = .error e s' := by
  have hroot : capOf (ctableSlot thread) s = .ok (s.cspace.cap (ctableSlot thread)) s := rfl
  have hslot : lookupSlot thread cptr s = .error e s' := by
    unfold lookupSlot
    rw [Failing.bind_ok hroot, Failing.bind_error h]
  unfold lookupCap
  rw [Failing.bind_error hslot]

/-- `lookup_fp` and `lookupCap` come to the same capability, if it is not null. -/
theorem lookupFp_iff {pf : Platform} (h : CSpace.Reachable pf s.cspace) :
    ∃ c, lookupFp s.cspace.cap (s.cspace.cap (ctableSlot thread)) cptr = .ok c ∧
      ∀ c', c' ≠ .null → (c = c' ↔ ∃ s', lookupCap thread cptr s = .ok c' s') := by
  have hs := h.indexed
  have ⟨r, hdec, hrun, _⟩ := @resolveAddressBits_eq s cptr (s.cspace.cap (ctableSlot thread)) wordBits
    (hs _).fields (fun t => (hs t).fields) le_rfl
  have hfast : lookupFp s.cspace.cap (s.cspace.cap (ctableSlot thread)) cptr = .ok (r.cap s.cspace.cap) := by
    have hroot := hs (ctableSlot thread)
    revert hdec hroot
    generalize s.cspace.cap (ctableSlot thread) = root
    intro hdec hroot
    cases root with
    | cnode radix g guard ptr =>
      obtain ⟨r', hdec', hfast⟩ := @lookupFpLevels_eq s.cspace.cap cptr hs wordBits 0 _ _ _ _ hroot (by decide) le_rfl
      cases hdec.symm.trans hdec'
      exact hfast
    | _ =>
      rw [decodeAddress] at hdec
      · cases hdec
        rfl
      · simp
  refine ⟨_, hfast, fun c' hc' => ?_⟩
  cases r with
  | slot found n =>
    rw [lookupCap_ok hrun]
    constructor
    · rintro rfl
      exact ⟨s, rfl⟩
    · rintro ⟨s', e⟩
      injection e
  | fault reported =>
    rw [lookupCap_error hrun]
    constructor
    · rintro rfl
      exact absurd rfl hc'
    · rintro ⟨s', e⟩
      injection e

/-- The initial thread finds its own TCB. -/
theorem lookupFp_iff_initThreadTCB :
    ∃ s', lookupCap (armVirtBoot.tcb + tcbOffset) RootCNodeCapSlot.initThreadTCB.pos bootSystem =
      .ok (.thread (armVirtBoot.tcb + tcbOffset)) s' := by
  have h : CSpace.Reachable (armVirt 1) bootSystem.cspace := by
    dsimp only [bootSystem]
    exact CSpace.reachable_armVirt
  obtain ⟨c, hc, hiff⟩ := @lookupFp_iff bootSystem (armVirtBoot.tcb + tcbOffset)
    RootCNodeCapSlot.initThreadTCB.pos _ h
  have hfast : lookupFp bootSystem.cspace.cap (bootSystem.cspace.cap (ctableSlot (armVirtBoot.tcb + tcbOffset)))
      RootCNodeCapSlot.initThreadTCB.pos = .ok (.thread (armVirtBoot.tcb + tcbOffset)) := by
    decide +kernel
  cases hc.symm.trans hfast
  exact (hiff (.thread (armVirtBoot.tcb + tcbOffset)) nofun).mp rfl

end Decode

end NexsKernel
