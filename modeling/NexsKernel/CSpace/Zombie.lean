import NexsKernel.CSpace.Delete

/-!
# The encoding of zombies

A zombie keeps the pointer to what it was and the number of slots that are left in one word, `capZombieID`
(`structures.h`). The number has the lowest bits, one more than the radix of the table of slots; the radix is in
another field, and a TCB has a type of its own there. What goes in comes out again (`zombie_roundTrip`), so the fields of
`Cap.zombie` stand for the words.
-/

namespace NexsKernel

/-- `TCB_CNODE_RADIX`. -/
def tcbCNodeRadix : Nat := 4

/-- The block `zombie_cap` of a kernel whose words have `2 ^ wordRadix` bits. -/
structure ZombieFormat where
  wordRadix : Nat
  /-- `seL4_SlotBits`. -/
  slotBits : Nat
  /-- Where `capZombieType` begins; it has `wordRadix + 1` bits. -/
  zombieTypeShift : Nat
  capTypeShift : Nat
  capTypeBits : Nat
  /-- The tag `cap_zombie_cap`. -/
  capZombieCap : Nat
  slotBits_pos : 0 < slotBits
  tcb_fits : tcbCNodeRadix + slotBits < 2 ^ wordRadix
  type_fits : zombieTypeShift + wordRadix + 1 < 2 ^ wordRadix
  capType_fits : capTypeShift + capTypeBits ≤ 2 ^ wordRadix
  apart : zombieTypeShift + wordRadix + 1 ≤ capTypeShift ∨ capTypeShift + capTypeBits ≤ zombieTypeShift

/-- `structures_64.bf`. -/
def zombieFormat64 : ZombieFormat where
  wordRadix := 6
  slotBits := 5
  zombieTypeShift := 0
  capTypeShift := 59
  capTypeBits := 5
  capZombieCap := 18
  slotBits_pos := by decide
  tcb_fits := by decide
  type_fits := by decide
  capType_fits := by decide
  apart := by decide

/-- `structures_32.bf`. -/
def zombieFormat32 : ZombieFormat where
  wordRadix := 5
  slotBits := 4
  zombieTypeShift := 8
  capTypeShift := 0
  capTypeBits := 8
  capZombieCap := 0x2e
  slotBits_pos := by decide
  tcb_fits := by decide
  type_fits := by decide
  capType_fits := by decide
  apart := by decide

namespace ZombieFormat

variable (f : ZombieFormat)

/-- `word_t`. -/
abbrev Word := BitVec (2 ^ f.wordRadix)

/-- `cap_t`. -/
structure CapT where
  words0 : f.Word
  words1 : f.Word
  deriving DecidableEq, Repr

/-- `MASK(n)`. -/
def maskWord (n : Nat) : f.Word :=
  1#(2 ^ f.wordRadix) <<< n - 1#(2 ^ f.wordRadix)

/-- `ZombieType_ZombieTCB`. -/
def zombieTypeZombieTcb : f.Word :=
  1#(2 ^ f.wordRadix) <<< f.wordRadix

/-- `ZombieType_ZombieCNode(n)`. -/
def zombieTypeZombieCNode (n : f.Word) : f.Word :=
  n &&& f.maskWord f.wordRadix

/-! ## The generated functions -/

/-- `cap_zombie_cap_new`. -/
def capZombieCapNew (capZombieID capZombieType : f.Word) : f.CapT where
  words0 := (capZombieType &&& f.maskWord (f.wordRadix + 1)) <<< f.zombieTypeShift |||
    (BitVec.ofNat _ f.capZombieCap &&& f.maskWord f.capTypeBits) <<< f.capTypeShift
  words1 := capZombieID

/-- `cap_get_capType`. -/
def capGetCapType (cap : f.CapT) : f.Word :=
  (cap.words0 >>> f.capTypeShift) &&& f.maskWord f.capTypeBits

/-- `cap_zombie_cap_get_capZombieID`. -/
def getCapZombieID (cap : f.CapT) : f.Word :=
  cap.words1

/-- `cap_zombie_cap_set_capZombieID`. -/
def setCapZombieID (cap : f.CapT) (capZombieID : f.Word) : f.CapT :=
  { cap with words1 := capZombieID }

/-- `cap_zombie_cap_get_capZombieType`. -/
def getCapZombieType (cap : f.CapT) : f.Word :=
  (cap.words0 >>> f.zombieTypeShift) &&& f.maskWord (f.wordRadix + 1)

/-! ## `structures.h` -/

/-- `Zombie_new`. -/
def zombieNew (number type ptr : f.Word) : f.CapT :=
  let mask := if type = f.zombieTypeZombieTcb then f.maskWord (tcbCNodeRadix + 1) else f.maskWord (type + 1).toNat
  f.capZombieCapNew (ptr &&& ~~~mask ||| number &&& mask) type

/-- `cap_zombie_cap_get_capZombieBits`. -/
def getCapZombieBits (cap : f.CapT) : f.Word :=
  let type := f.getCapZombieType cap
  if type = f.zombieTypeZombieTcb then BitVec.ofNat _ tcbCNodeRadix else f.zombieTypeZombieCNode type

/-- `cap_zombie_cap_get_capZombieNumber`. -/
def getCapZombieNumber (cap : f.CapT) : f.Word :=
  let radix := f.getCapZombieBits cap
  f.getCapZombieID cap &&& f.maskWord (radix + 1).toNat

/-- `cap_zombie_cap_get_capZombiePtr`. -/
def getCapZombiePtr (cap : f.CapT) : f.Word :=
  let radix := f.getCapZombieBits cap
  f.getCapZombieID cap &&& ~~~f.maskWord (radix + 1).toNat

/-- `cap_zombie_cap_set_capZombieNumber`. -/
def setCapZombieNumber (cap : f.CapT) (n : f.Word) : f.CapT :=
  let radix := f.getCapZombieBits cap
  let ptr := f.getCapZombieID cap &&& ~~~f.maskWord (radix + 1).toNat
  f.setCapZombieID cap (ptr ||| n &&& f.maskWord (radix + 1).toNat)

end ZombieFormat

/-! ## Zombies -/

/-- The radix of the table of slots of what a zombie was. -/
def ZombieType.radix : ZombieType → Nat
  | .tcb => tcbCNodeRadix
  | .cnode radix => radix

namespace ZombieFormat

section zombies

variable (f : ZombieFormat)

/-- The type of a zombie as it is given to `Zombie_new`. -/
def typeWord : ZombieType → f.Word
  | .tcb => f.zombieTypeZombieTcb
  | .cnode radix => f.zombieTypeZombieCNode (BitVec.ofNat _ radix)

/-- A table of slots as the kernel allocates it: a block of its size, at a multiple of the size. -/
structure Names (type : ZombieType) (ptr : f.Word) : Prop where
  fits : type.radix + f.slotBits < 2 ^ f.wordRadix
  aligned : 2 ^ (type.radix + f.slotBits) ∣ ptr.toNat

/-- A zombie of a type that has a pointer and a number of slots left. -/
structure Encodes (cap : f.CapT) (type : ZombieType) (number ptr : f.Word) : Prop where
  capType : f.capGetCapType cap = BitVec.ofNat _ f.capZombieCap &&& f.maskWord f.capTypeBits
  number : f.getCapZombieNumber cap = number
  ptr : f.getCapZombiePtr cap = ptr
  bits : f.getCapZombieBits cap = BitVec.ofNat _ type.radix
  type : f.getCapZombieType cap = f.typeWord type

end zombies

variable {f : ZombieFormat} {type : ZombieType} {number ptr n : f.Word} {k i : Nat}

/-! ## Masks -/

lemma maskWord_toNat (hk : k < 2 ^ f.wordRadix) : (f.maskWord k).toNat = 2 ^ k - 1 := by
  have hbit : (1#(2 ^ f.wordRadix) <<< k).toNat = 2 ^ k := by
    have hone : (1#(2 ^ f.wordRadix)).toNat = 1 := BitVec.toNat_one (Nat.two_pow_pos _)
    rw [BitVec.toNat_shiftLeft, hone, Nat.one_shiftLeft]
    exact Nat.mod_eq_of_lt (Nat.pow_lt_pow_right (by decide) hk)
  have hone : (1#(2 ^ f.wordRadix)).toNat = 1 := BitVec.toNat_one (Nat.two_pow_pos _)
  rw [maskWord, BitVec.toNat_sub_of_le, hbit, hone]
  rw [BitVec.le_def, hbit, hone]
  exact Nat.two_pow_pos k

lemma getLsbD_maskWord (hk : k < 2 ^ f.wordRadix) : (f.maskWord k).getLsbD i = decide (i < k) := by
  rw [BitVec.getLsbD, maskWord_toNat hk, Nat.testBit_two_pow_sub_one]

/-- What is below a mask is what it keeps. -/
lemma and_maskWord (hk : k < 2 ^ f.wordRadix) (h : n.toNat < 2 ^ k) : n &&& f.maskWord k = n := by
  apply BitVec.eq_of_toNat_eq
  rw [BitVec.toNat_and, maskWord_toNat hk, Nat.and_two_pow_sub_one_eq_mod, Nat.mod_eq_of_lt h]

/-- A multiple has no bits below a mask. -/
lemma and_not_maskWord (hk : k < 2 ^ f.wordRadix) (h : 2 ^ k ∣ ptr.toNat) : ptr &&& ~~~f.maskWord k = ptr := by
  apply BitVec.eq_of_getLsbD_eq
  intro i hi
  rw [BitVec.getLsbD_and, BitVec.getLsbD_not, getLsbD_maskWord hk, decide_eq_true hi, Bool.true_and]
  by_cases hik : i < k
  · obtain ⟨m, hm⟩ := h
    have hbit : ptr.getLsbD i = false := by
      rw [BitVec.getLsbD, hm, Nat.testBit_two_pow_mul, decide_eq_false (Nat.not_le.mpr hik), Bool.false_and]
    rw [hbit, Bool.false_and]
  · rw [decide_eq_false hik, Bool.not_false, Bool.and_true]

section split

variable {mask : f.Word}

/-- The two parts of a word, taken apart again. -/
lemma low_join : (ptr &&& ~~~mask ||| number &&& mask) &&& mask = number &&& mask := by
  apply BitVec.eq_of_getLsbD_eq
  intro i hi
  simp only [BitVec.getLsbD_and, BitVec.getLsbD_or, BitVec.getLsbD_not]
  cases mask.getLsbD i <;> simp

lemma high_join : (ptr &&& ~~~mask ||| number &&& mask) &&& ~~~mask = ptr &&& ~~~mask := by
  apply BitVec.eq_of_getLsbD_eq
  intro i hi
  simp only [BitVec.getLsbD_and, BitVec.getLsbD_or, BitVec.getLsbD_not]
  cases mask.getLsbD i <;> simp

end split

/-! ## The fields of the first word -/

/-- Of two fields that do not overlap, each is read back. -/
lemma field_join {x y : f.Word} {s t l m : Nat} (hx : x &&& f.maskWord l = x) (hy : y &&& f.maskWord m = y)
    (hl : l < 2 ^ f.wordRadix) (hm : m < 2 ^ f.wordRadix) (hfits : s + l ≤ 2 ^ f.wordRadix)
    (hapart : s + l ≤ t ∨ t + m ≤ s) : ((x <<< s ||| y <<< t) >>> s) &&& f.maskWord l = x := by
  apply BitVec.eq_of_getLsbD_eq
  intro i hi
  have hxi : x.getLsbD i = (x.getLsbD i && decide (i < l)) := by
    rw [← getLsbD_maskWord hl, ← BitVec.getLsbD_and, hx]
  have hyi : y.getLsbD (s + i - t) = (y.getLsbD (s + i - t) && decide (s + i - t < m)) := by
    rw [← getLsbD_maskWord hm, ← BitVec.getLsbD_and, hy]
  rw [BitVec.getLsbD_and, getLsbD_maskWord hl, BitVec.getLsbD_ushiftRight, BitVec.getLsbD_or, BitVec.getLsbD_shiftLeft,
    BitVec.getLsbD_shiftLeft]
  by_cases hil : i < l
  · have hside : (!decide (s + i < t) && y.getLsbD (s + i - t)) = false := by
      rcases hapart with h | h
      · rw [decide_eq_true (by omega : s + i < t), Bool.not_true, Bool.false_and]
      · rw [hyi, decide_eq_false (by omega : ¬ s + i - t < m), Bool.and_false, Bool.and_false]
    rw [Bool.and_assoc, Bool.and_assoc, hside, decide_eq_true (by omega : s + i < 2 ^ f.wordRadix),
      decide_eq_false (by omega : ¬ s + i < s), decide_eq_true hil, Nat.add_sub_cancel_left]
    simp
  · rw [hxi, decide_eq_false hil, Bool.and_false, Bool.and_false]

lemma capTypeBits_lt (f : ZombieFormat) : f.capTypeBits < 2 ^ f.wordRadix := by
  have h1 := f.type_fits
  have h2 := f.capType_fits
  have h3 := f.apart
  omega

lemma wordRadix_succ_lt (f : ZombieFormat) : f.wordRadix + 1 < 2 ^ f.wordRadix := by
  have h := f.type_fits
  omega

lemma getCapZombieType_new (id : f.Word) {word : f.Word} (h : word.toNat < 2 ^ (f.wordRadix + 1)) :
    f.getCapZombieType (f.capZombieCapNew id word) = word := by
  have hword := and_maskWord f.wordRadix_succ_lt h
  unfold getCapZombieType capZombieCapNew
  dsimp only
  rw [hword]
  refine field_join hword ?_ f.wordRadix_succ_lt f.capTypeBits_lt ?_ ?_
  · rw [BitVec.and_assoc, BitVec.and_self]
  · have hfits := f.type_fits
    omega
  · exact f.apart

lemma capGetCapType_new (id word : f.Word) :
    f.capGetCapType (f.capZombieCapNew id word) = BitVec.ofNat _ f.capZombieCap &&& f.maskWord f.capTypeBits := by
  unfold capGetCapType capZombieCapNew
  dsimp only
  rw [BitVec.or_comm]
  refine field_join ?_ ?_ f.capTypeBits_lt f.wordRadix_succ_lt f.capType_fits f.apart.symm
  · rw [BitVec.and_assoc, BitVec.and_self]
  · rw [BitVec.and_assoc, BitVec.and_self]

/-! ## The type -/

lemma zombieTypeZombieTcb_toNat (f : ZombieFormat) : f.zombieTypeZombieTcb.toNat = 2 ^ f.wordRadix := by
  have hone : (1#(2 ^ f.wordRadix)).toNat = 1 := BitVec.toNat_one (Nat.two_pow_pos _)
  rw [zombieTypeZombieTcb, BitVec.toNat_shiftLeft, hone, Nat.one_shiftLeft]
  exact Nat.mod_eq_of_lt (Nat.pow_lt_pow_right (by decide) Nat.lt_two_pow_self)

/-- A radix is smaller than the size of a word, so it is kept. -/
lemma zombieTypeZombieCNode_toNat {radix : Nat} (h : radix < 2 ^ f.wordRadix) :
    (f.zombieTypeZombieCNode (BitVec.ofNat _ radix)).toNat = radix := by
  rw [zombieTypeZombieCNode, BitVec.toNat_and, maskWord_toNat Nat.lt_two_pow_self, BitVec.toNat_ofNat,
    Nat.and_two_pow_sub_one_eq_mod, Nat.mod_eq_of_lt (h.trans Nat.lt_two_pow_self), Nat.mod_eq_of_lt h]

lemma Names.radix_lt (h : f.Names type ptr) : type.radix + 1 < 2 ^ f.wordRadix := by
  have hfits := h.fits
  have hpos := f.slotBits_pos
  omega

lemma Names.typeWord_lt (h : f.Names type ptr) : (f.typeWord type).toNat < 2 ^ (f.wordRadix + 1) := by
  have hpow : 2 ^ f.wordRadix < 2 ^ (f.wordRadix + 1) := Nat.pow_lt_pow_right (by decide) (Nat.lt_succ_self _)
  have hradix := h.radix_lt
  cases type with
  | tcb => exact (zombieTypeZombieTcb_toNat f).trans_lt hpow
  | cnode radix =>
    have hlt : radix < 2 ^ f.wordRadix := Nat.lt_of_succ_lt hradix
    exact (zombieTypeZombieCNode_toNat hlt).trans_lt (hlt.trans hpow)

lemma Names.typeWord_ne_tcb {radix : Nat} (h : f.Names (.cnode radix) ptr) : f.typeWord (.cnode radix) ≠
    f.zombieTypeZombieTcb := by
  have hlt : radix < 2 ^ f.wordRadix := Nat.lt_of_succ_lt h.radix_lt
  intro e
  have e' := congrArg BitVec.toNat e
  rw [zombieTypeZombieTcb_toNat, typeWord, zombieTypeZombieCNode_toNat hlt] at e'
  omega

/-- What the functions take for the radix of a type. -/
lemma Names.radix_eq (h : f.Names type ptr) :
    (if f.typeWord type = f.zombieTypeZombieTcb then BitVec.ofNat _ tcbCNodeRadix
      else f.zombieTypeZombieCNode (f.typeWord type)) = BitVec.ofNat _ type.radix := by
  have hradix := h.radix_lt
  cases type with
  | tcb => exact if_pos rfl
  | cnode radix =>
    have hlt : radix < 2 ^ f.wordRadix := Nat.lt_of_succ_lt hradix
    have htoNat := zombieTypeZombieCNode_toNat hlt
    rw [if_neg h.typeWord_ne_tcb]
    apply BitVec.eq_of_toNat_eq
    change (f.zombieTypeZombieCNode (BitVec.ofNat _ radix) &&& f.maskWord f.wordRadix).toNat =
      (BitVec.ofNat _ radix).toNat
    rw [and_maskWord Nat.lt_two_pow_self (htoNat.trans_lt hlt), htoNat, BitVec.toNat_ofNat]
    exact (Nat.mod_eq_of_lt (hlt.trans Nat.lt_two_pow_self)).symm

/-- One more than a radix, as the functions compute it. -/
lemma ofNat_succ_toNat (hk : k + 1 < 2 ^ f.wordRadix) : (BitVec.ofNat (2 ^ f.wordRadix) k + 1).toNat = k + 1 := by
  have hlt : k + 1 < 2 ^ 2 ^ f.wordRadix := hk.trans Nat.lt_two_pow_self
  have hone : (1 : f.Word).toNat = 1 := BitVec.toNat_one (Nat.two_pow_pos _)
  rw [BitVec.toNat_add, hone, BitVec.toNat_ofNat, Nat.mod_eq_of_lt (Nat.lt_of_succ_lt hlt), Nat.mod_eq_of_lt hlt]

/-- The mask that `Zombie_new` takes. -/
lemma Names.mask_eq (h : f.Names type ptr) :
    (if f.typeWord type = f.zombieTypeZombieTcb then f.maskWord (tcbCNodeRadix + 1)
      else f.maskWord (f.typeWord type + 1).toNat) = f.maskWord (type.radix + 1) := by
  cases type with
  | tcb => exact if_pos rfl
  | cnode radix =>
    have hlt : radix < 2 ^ f.wordRadix := Nat.lt_of_succ_lt h.radix_lt
    have hword : f.typeWord (.cnode radix) = BitVec.ofNat _ radix := by
      apply BitVec.eq_of_toNat_eq
      rw [typeWord, zombieTypeZombieCNode_toNat hlt, BitVec.toNat_ofNat,
        Nat.mod_eq_of_lt (hlt.trans Nat.lt_two_pow_self)]
    rw [if_neg h.typeWord_ne_tcb, hword]
    exact congrArg f.maskWord (ofNat_succ_toNat h.radix_lt)

/-! ## Round trips -/

/-- What a capability encodes, given the type in its first word and the two parts of its second. -/
lemma Names.encodes (h : f.Names type ptr) (hn : n.toNat ≤ 2 ^ type.radix) {cap : f.CapT}
    (hcapType : f.capGetCapType cap = BitVec.ofNat _ f.capZombieCap &&& f.maskWord f.capTypeBits)
    (htype : f.getCapZombieType cap = f.typeWord type)
    (hid : cap.words1 = ptr &&& ~~~f.maskWord (type.radix + 1) ||| n &&& f.maskWord (type.radix + 1)) :
    f.Encodes cap type n ptr := by
  have hbits : f.getCapZombieBits cap = BitVec.ofNat _ type.radix := by
    unfold getCapZombieBits
    dsimp only
    rw [htype]
    exact h.radix_eq
  have hpow : n.toNat < 2 ^ (type.radix + 1) := hn.trans_lt (Nat.pow_lt_pow_right (by decide) (Nat.lt_succ_self _))
  have hdvd : 2 ^ (type.radix + 1) ∣ ptr.toNat :=
    (pow_dvd_pow 2 (Nat.add_le_add_left f.slotBits_pos _)).trans h.aligned
  refine ⟨hcapType, ?_, ?_, hbits, htype⟩
  · unfold getCapZombieNumber getCapZombieID
    dsimp only
    rw [hbits, ofNat_succ_toNat h.radix_lt, hid, low_join, and_maskWord h.radix_lt hpow]
  · unfold getCapZombiePtr getCapZombieID
    dsimp only
    rw [hbits, ofNat_succ_toNat h.radix_lt, hid, high_join, and_not_maskWord h.radix_lt hdvd]

lemma Names.encodes_new (h : f.Names type ptr) (hnumber : number.toNat ≤ 2 ^ type.radix) :
    f.Encodes (f.zombieNew number (f.typeWord type) ptr) type number ptr := by
  refine h.encodes hnumber (capGetCapType_new _ _) (getCapZombieType_new _ h.typeWord_lt) ?_
  unfold zombieNew capZombieCapNew
  dsimp only
  rw [h.mask_eq]

lemma Names.encodes_set (h : f.Names type ptr) (hn : n.toNat ≤ 2 ^ type.radix) {cap : f.CapT}
    (hcap : f.Encodes cap type number ptr) : f.Encodes (f.setCapZombieNumber cap n) type n ptr := by
  refine h.encodes hn hcap.capType hcap.type ?_
  have hptr := hcap.ptr
  unfold getCapZombiePtr getCapZombieID at hptr
  dsimp only at hptr
  rw [hcap.bits, ofNat_succ_toNat h.radix_lt] at hptr
  unfold setCapZombieNumber setCapZombieID getCapZombieID
  dsimp only
  rw [hcap.bits, ofNat_succ_toNat h.radix_lt]
  have hsame : cap.words1 &&& ~~~f.maskWord (type.radix + 1) = ptr &&& ~~~f.maskWord (type.radix + 1) := by
    rw [← hptr, BitVec.and_assoc, BitVec.and_self]
  rw [hsame]

/-- The pointer, the number, the radix and the type that a zombie is made of are read back from it, and a new number
changes the number alone. -/
theorem zombie_roundTrip (f : ZombieFormat) (type : ZombieType) (ptr number n : f.Word) (h : f.Names type ptr)
    (hnumber : number.toNat ≤ 2 ^ type.radix) (hn : n.toNat ≤ 2 ^ type.radix) :
    f.Encodes (f.zombieNew number (f.typeWord type) ptr) type number ptr ∧
      f.Encodes (f.setCapZombieNumber (f.zombieNew number (f.typeWord type) ptr) n) type n ptr :=
  ⟨h.encodes_new hnumber, h.encodes_set hn (h.encodes_new hnumber)⟩

/-- A CNode with sixteen slots, one of which is left. -/
theorem zombie_roundTrip_cnode :
    zombieFormat64.Encodes (zombieFormat64.zombieNew 16 4 0xffffff8000200000) (.cnode 4) 16 0xffffff8000200000 ∧
      zombieFormat64.Encodes (zombieFormat64.setCapZombieNumber (zombieFormat64.zombieNew 16 4 0xffffff8000200000) 1)
        (.cnode 4) 1 0xffffff8000200000 :=
  zombie_roundTrip zombieFormat64 (.cnode 4) 0xffffff8000200000 16 1 ⟨by decide, by decide⟩ (by decide) (by decide)

end ZombieFormat

end NexsKernel
