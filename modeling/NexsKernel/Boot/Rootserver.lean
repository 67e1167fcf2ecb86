import Mathlib.Data.Nat.Size
import NexsKernel.Boot.Arm
import NexsKernel.Boot.Split

/-!
# The objects of the root server

`create_rootserver_objects` (`kernel/boot.c`) takes the objects that the initial task starts with from one block of
memory, the large ones first, so that each lies at a multiple of its size without a gap. Extra boot info has no fixed
size; it is taken at the first of three points where nothing larger comes after it.

`Packed` is what holds of the objects taken so far, and `Packed.alloc` is one call of `alloc_rootserver_obj`.
-/

namespace NexsKernel

/-- The fields of `rootserver` that objects are taken for. -/
inductive RootserverObj where
  | cnode
  | vspace
  | asidPool
  | ipcBuf
  | bootInfo
  | extraBi
  | tcb
  | sc
  | paging
  deriving DecidableEq, Repr

/-- `rootserver_mem` and `rootserver`; `allocated` are the fields that have been set, in order. -/
structure RootserverState where
  rootserverMem : Region
  rootserver : RootserverObj → Nat
  pagingEnd : Nat
  allocated : List RootserverObj

/-- Nothing has been taken. -/
def RootserverState.initial : RootserverState where
  rootserverMem := ⟨0, 0⟩
  rootserver := fun _ => 0
  pagingEnd := 0
  allocated := []

namespace Boot

/-- `clzl`. -/
def clzl (x : Nat) : Nat :=
  64 - Nat.size x

/-- `calculate_extra_bi_size_bits`. -/
def calculateExtraBiSizeBits (extraSize : Nat) : Nat :=
  if extraSize = 0 then 0
  else
    let msb := sub64 (wordBits - 1) (clzl (roundUp extraSize pageBits))
    if 2 ^ msb < extraSize then msb + 1 else msb

/-- `alloc_rootserver_obj`, for a field of `rootserver`. -/
def allocRootserverObj (o : RootserverObj) (sizeBits n : Nat) (s : RootserverState) : Except Halt RootserverState := do
  let allocated := s.rootserverMem.start
  assert (allocated % 2 ^ sizeBits = 0)
  let start := add64 allocated (n * 2 ^ sizeBits % 2 ^ 64)
  assert (start ≤ s.rootserverMem.stop)
  return { s with
    rootserverMem := { s.rootserverMem with start := start }
    rootserver := Function.update s.rootserver o allocated
    allocated := s.allocated ++ [o] }

/-- `maybe_alloc_extra_bi`. -/
def maybeAllocExtraBi (cmpSizeBits extraBiSizeBits : Nat) (s : RootserverState) : Except Halt RootserverState :=
  if cmpSizeBits ≤ extraBiSizeBits ∧ s.rootserver .extraBi = 0 then
    allocRootserverObj .extraBi extraBiSizeBits 1 s
  else
    return s

/-- The part of `create_rootserver_objects` that depends on which of the CNode and the VSpace is larger. -/
def createLarge (cfg : BootConfig) (extraBiSizeBits : Nat) (s : RootserverState) : Except Halt RootserverState := do
  let cnodeSizeBits := cfg.rootCNodeSizeBits + slotBits
  if cnodeSizeBits > cfg.vspaceBits then
    let s ← allocRootserverObj .cnode cnodeSizeBits 1 s
    let s ← maybeAllocExtraBi cfg.vspaceBits extraBiSizeBits s
    allocRootserverObj .vspace cfg.vspaceBits 1 s
  else
    let s ← allocRootserverObj .vspace cfg.vspaceBits 1 s
    let s ← maybeAllocExtraBi cnodeSizeBits extraBiSizeBits s
    allocRootserverObj .cnode cnodeSizeBits 1 s

/-- `rootserver.paging`. -/
def createPaging (nPaging : Nat) (s : RootserverState) : Except Halt RootserverState := do
  let s ← allocRootserverObj .paging pageTableBits nPaging s
  return { s with pagingEnd := add64 (s.rootserver .paging) (nPaging * 2 ^ pageTableBits % 2 ^ 64) }

/-- The part that depends on which of the TCB and the page tables are larger. -/
def createSmall (cfg : BootConfig) (nPaging : Nat) (s : RootserverState) : Except Halt RootserverState :=
  if cfg.tcbBits ≥ pageTableBits then do
    let s ← allocRootserverObj .tcb cfg.tcbBits 1 s
    createPaging nPaging s
  else do
    let s ← createPaging nPaging s
    allocRootserverObj .tcb cfg.tcbBits 1 s

/-- `create_rootserver_objects`, `nPaging` being `arch_get_n_paging(it_v_reg)`. -/
def createRootserverObjects (cfg : BootConfig) (start nPaging extraBiSizeBits : Nat) (s : RootserverState) :
    Except Halt RootserverState := do
  let s := { s with rootserverMem := ⟨start, add64 start (calculateRootserverSize cfg nPaging extraBiSizeBits)⟩ }
  let s ← maybeAllocExtraBi (rootserverMaxSizeBits cfg extraBiSizeBits) extraBiSizeBits s
  let s ← createLarge cfg extraBiSizeBits s
  let s ← maybeAllocExtraBi pageBits extraBiSizeBits s
  let s ← allocRootserverObj .asidPool asidPoolBits 1 s
  let s ← allocRootserverObj .ipcBuf pageBits 1 s
  let s ← allocRootserverObj .bootInfo bootInfoFrameBits 1 s
  let s ← createSmall cfg nPaging s
  let s ← allocRootserverObj .sc minSchedContextBits 1 s
  assert (s.rootserverMem.start = s.rootserverMem.stop)
  return s

/-! ## Sizes -/

variable {cfg : BootConfig} {nPaging extra start : Nat}

/-- The size of an object. -/
def objBits (cfg : BootConfig) (extra : Nat) : RootserverObj → Nat
  | .cnode => cfg.rootCNodeSizeBits + slotBits
  | .vspace => cfg.vspaceBits
  | .asidPool => asidPoolBits
  | .ipcBuf => pageBits
  | .bootInfo => bootInfoFrameBits
  | .extraBi => extra
  | .tcb => cfg.tcbBits
  | .sc => minSchedContextBits
  | .paging => pageTableBits

/-- How many objects of this size a field is for. -/
def objCount (nPaging : Nat) : RootserverObj → Nat
  | .paging => nPaging
  | _ => 1

/-- The bytes that a field is for. -/
def objBytes (cfg : BootConfig) (nPaging extra : Nat) (o : RootserverObj) : Nat :=
  objCount nPaging o * 2 ^ objBits cfg extra o

/-- The fields that are set. -/
def rootserverObjs (extra : Nat) : List RootserverObj :=
  [.cnode, .tcb, .ipcBuf, .bootInfo, .asidPool] ++ (if 0 < extra then [.extraBi] else []) ++ [.vspace, .sc, .paging]

/-- The bytes of a list of fields. -/
def totalBytes (cfg : BootConfig) (nPaging extra : Nat) (os : List RootserverObj) : Nat :=
  (os.map (objBytes cfg nPaging extra)).sum

/-- The sizes of a platform: the root CNode has at least a page, which is checked when the boot code is compiled, and
the other sizes are constants. -/
structure Sizes (cfg : BootConfig) : Prop where
  cnode : pageBits ≤ cfg.rootCNodeSizeBits + slotBits
  vspace : pageBits ≤ cfg.vspaceBits
  tcb : cfg.tcbBits ≤ pageBits
  sc : minSchedContextBits ≤ cfg.tcbBits

lemma calculateRootserverSize_eq (h : totalBytes cfg nPaging extra (rootserverObjs extra) < 2 ^ 64) :
    calculateRootserverSize cfg nPaging extra = totalBytes cfg nPaging extra (rootserverObjs extra) := by
  have e : totalBytes cfg nPaging extra (rootserverObjs extra) =
      2 ^ (cfg.rootCNodeSizeBits + slotBits) + 2 ^ cfg.tcbBits + 2 ^ pageBits + 2 ^ bootInfoFrameBits +
        2 ^ asidPoolBits +
        (if 0 < extra then 2 ^ extra else 0) + 2 ^ cfg.vspaceBits + 2 ^ minSchedContextBits + nPaging *
          2 ^ pageTableBits := by
    unfold totalBytes rootserverObjs
    split
    · simp [objBytes, objCount, objBits]
      ring
    · simp [objBytes, objCount, objBits]
      ring
  unfold calculateRootserverSize
  rw [← e, Nat.mod_eq_of_lt h]

/-- The root server gets a block of memory that can hold its largest object where it starts. -/
structure Block (cfg : BootConfig) (nPaging extra start : Nat) : Prop where
  sizes : Sizes cfg
  extraBits : extra = 0 ∨ pageBits ≤ extra
  aligned : 2 ^ rootserverMaxSizeBits cfg extra ∣ start
  pos : start ≠ 0
  fits : start + totalBytes cfg nPaging extra (rootserverObjs extra) < 2 ^ 64

lemma mem_rootserverObjs {o : RootserverObj} : o ∈ rootserverObjs extra ↔ o ≠ .extraBi ∨ 0 < extra := by
  unfold rootserverObjs
  split
  · rename_i h
    cases o <;> simp [h]
  · rename_i h
    cases o <;> simp [h]

lemma rootserverObjs_nodup : (rootserverObjs extra).Nodup := by
  unfold rootserverObjs
  split <;> decide

/-- No object is larger than the alignment of the block. -/
lemma objBits_le_max (z : Sizes cfg) (o : RootserverObj) : objBits cfg extra o ≤ rootserverMaxSizeBits cfg extra := by
  have hc := z.cnode
  have ht := z.tcb
  have hasid : asidPoolBits = pageBits := rfl
  have hboot : bootInfoFrameBits = pageBits := rfl
  have hpaging : pageTableBits = pageBits := rfl
  have hsc : minSchedContextBits ≤ pageBits := by decide
  unfold rootserverMaxSizeBits
  cases o <;> dsimp only [objBits] <;> omega

lemma totalBytes_append (os : List RootserverObj) (o : RootserverObj) :
    totalBytes cfg nPaging extra (os ++ [o]) = totalBytes cfg nPaging extra os + objBytes cfg nPaging extra o := by
  simp [totalBytes]

/-- Different fields take no more than all fields together. -/
lemma totalBytes_le {os : List RootserverObj} (hn : os.Nodup) (h : ∀ o ∈ os, o ∈ rootserverObjs extra) :
    totalBytes cfg nPaging extra os ≤ totalBytes cfg nPaging extra (rootserverObjs extra) := by
  obtain ⟨os', hperm, hsub⟩ := hn.subperm h
  unfold totalBytes
  rw [← (hperm.map _).sum_eq]
  exact (hsub.map _).sum_le_sum (fun _ _ => Nat.zero_le _)

/-- The objects taken so far lie one after the other, each at a multiple of its size. -/
structure Packed (cfg : BootConfig) (nPaging extra start : Nat) (s : RootserverState) : Prop where
  nodup : s.allocated.Nodup
  known : ∀ o ∈ s.allocated, o ∈ rootserverObjs extra
  next : s.rootserverMem.start = start + totalBytes cfg nPaging extra s.allocated
  stop : s.rootserverMem.stop = start + totalBytes cfg nPaging extra (rootserverObjs extra)
  placed : ∀ done o rest, s.allocated = done ++ o :: rest →
    s.rootserver o = start + totalBytes cfg nPaging extra done ∧ 2 ^ objBits cfg extra o ∣ s.rootserver o
  pending : s.rootserver .extraBi = 0 ↔ .extraBi ∉ s.allocated

namespace Packed

variable {s : RootserverState}

/-- The next object is taken, after larger ones. -/
lemma alloc (p : Packed cfg nPaging extra start s) (b : Block cfg nPaging extra start) {o : RootserverObj}
    (ho : o ∈ rootserverObjs extra) (hnew : o ∉ s.allocated)
    (hle : ∀ q ∈ s.allocated, objBits cfg extra o ≤ objBits cfg extra q) :
    ∃ s', allocRootserverObj o (objBits cfg extra o) (objCount nPaging o) s = .ok s' ∧
      Packed cfg nPaging extra start s' ∧ s'.allocated = s.allocated ++ [o] ∧ s'.pagingEnd = s.pagingEnd := by
  have hdvd : 2 ^ objBits cfg extra o ∣ s.rootserverMem.start := by
    rw [p.next]
    refine Nat.dvd_add ((Nat.pow_dvd_pow 2 (objBits_le_max b.sizes o)).trans b.aligned) ?_
    refine List.dvd_sum fun x hx => ?_
    obtain ⟨q, hq, rfl⟩ := List.mem_map.mp hx
    exact (Nat.pow_dvd_pow 2 (hle q hq)).trans (Nat.dvd_mul_left _ _)
  have hnodup : (s.allocated ++ [o]).Nodup := by
    rw [List.nodup_append_comm]
    exact List.nodup_cons.mpr ⟨hnew, p.nodup⟩
  have hknown : ∀ q ∈ s.allocated ++ [o], q ∈ rootserverObjs extra := by
    intro q hq
    rcases List.mem_append.mp hq with hq | hq
    · exact p.known q hq
    · obtain rfl := List.mem_singleton.mp hq
      exact ho
  have hroom := @totalBytes_le cfg nPaging extra _ hnodup hknown
  rw [totalBytes_append] at hroom
  have hfits := b.fits
  have hbytes : objCount nPaging o * 2 ^ objBits cfg extra o = objBytes cfg nPaging extra o := rfl
  have hstart : add64 s.rootserverMem.start (objCount nPaging o * 2 ^ objBits cfg extra o % 2 ^ 64) =
      start + totalBytes cfg nPaging extra (s.allocated ++ [o]) := by
    rw [hbytes, p.next, totalBytes_append, Nat.mod_eq_of_lt (by omega), add64_eq (by omega), Nat.add_assoc]
  have hle : start + totalBytes cfg nPaging extra (s.allocated ++ [o]) ≤ s.rootserverMem.stop := by
    rw [p.stop, totalBytes_append]
    omega
  have run : allocRootserverObj o (objBits cfg extra o) (objCount nPaging o) s = .ok { s with
      rootserverMem := ⟨start + totalBytes cfg nPaging extra (s.allocated ++ [o]), s.rootserverMem.stop⟩
      rootserver := Function.update s.rootserver o s.rootserverMem.start
      allocated := s.allocated ++ [o] } := by
    unfold allocRootserverObj
    dsimp only
    rw [assert_ok (decide_eq_true (Nat.mod_eq_zero_of_dvd hdvd)), hstart]
    show (assert (decide _) >>= _) = _
    rw [assert_ok (decide_eq_true hle)]
    rfl
  refine ⟨_, run, ⟨hnodup, hknown, rfl, p.stop, fun done q rest e => ?_, ?_⟩, rfl, rfl⟩
  · dsimp only at e ⊢
    rcases List.eq_nil_or_concat rest with rfl | ⟨rest, r, rfl⟩
    · -- the new object
      obtain ⟨rfl, eq⟩ := List.append_inj' e rfl
      obtain rfl := (List.cons.inj eq).1
      rw [Function.update_self]
      exact ⟨p.next, hdvd⟩
    · have e' : s.allocated ++ [o] = (done ++ q :: rest) ++ [r] := by
        rw [e]
        simp
      obtain ⟨before, -⟩ := List.append_inj' e' rfl
      have hq : q ≠ o := by
        rintro rfl
        rw [before] at hnew
        exact hnew (List.mem_append_right _ List.mem_cons_self)
      rw [Function.update_of_ne hq]
      exact p.placed done q rest before
  · dsimp only
    by_cases h : o = .extraBi
    · subst h
      rw [Function.update_self]
      refine iff_of_false ?_ (fun h => h (List.mem_append_right _ List.mem_cons_self))
      have := b.pos
      rw [p.next]
      omega
    · rw [Function.update_of_ne (Ne.symm h), p.pending]
      simp [Ne.symm h]

end Packed

/-- How far the objects have come: none smaller than `2 ^ bits` has been taken, the extra boot info is smaller than
`2 ^ limit` if it has not, and `done` are the other fields that have been set. -/
structure Stage (cfg : BootConfig) (nPaging extra start bits limit : Nat) (done : List RootserverObj)
    (s : RootserverState) : Prop extends Packed cfg nPaging extra start s where
  large : ∀ q ∈ s.allocated, bits ≤ objBits cfg extra q
  late : .extraBi ∉ s.allocated → extra < limit
  fields : ∀ q, q ≠ .extraBi → (q ∈ s.allocated ↔ q ∈ done)

namespace Stage

variable {s : RootserverState} {bits limit : Nat} {done : List RootserverObj}

lemma weaken (p : Stage cfg nPaging extra start bits limit done s) (limit' : Nat) (h : extra < limit → extra < limit') :
    Stage cfg nPaging extra start bits limit' done s :=
  ⟨p.toPacked, p.large, fun hn => h (p.late hn), p.fields⟩

lemma alloc (p : Stage cfg nPaging extra start bits limit done s) (b : Block cfg nPaging extra start)
    (o : RootserverObj) (ho : o ≠ .extraBi) (hnew : o ∉ done) (hle : objBits cfg extra o ≤ bits) :
    ∃ s', allocRootserverObj o (objBits cfg extra o) (objCount nPaging o) s = .ok s' ∧
      Stage cfg nPaging extra start (objBits cfg extra o) limit (done ++ [o]) s' := by
  obtain ⟨s', run, p', e, -⟩ := p.toPacked.alloc b (mem_rootserverObjs.mpr (.inl ho)) (mt (p.fields o ho).mp hnew)
    fun q hq => hle.trans (p.large q hq)
  refine ⟨s', run, p', fun q hq => ?_, fun hn => ?_, fun q hq => ?_⟩
  · rw [e] at hq
    rcases List.mem_append.mp hq with hq | hq
    · exact hle.trans (p.large q hq)
    · obtain rfl := List.mem_singleton.mp hq
      exact le_rfl
  · rw [e] at hn
    exact p.late fun h => hn (List.mem_append_left _ h)
  · rw [e, List.mem_append, List.mem_append, p.fields q hq]

/-- One of the points where the extra boot info may be taken. -/
lemma maybe (p : Stage cfg nPaging extra start bits limit done s) (b : Block cfg nPaging extra start) (cmp : Nat)
    (hpos : 0 < cmp) (hcmp : cmp ≤ bits) (hlimit : limit ≤ bits + 1) :
    ∃ s', maybeAllocExtraBi cmp extra s = .ok s' ∧ Stage cfg nPaging extra start cmp cmp done s' := by
  unfold maybeAllocExtraBi
  split
  · rename_i h
    have hn := p.pending.mp h.2
    have hlate := p.late hn
    have hextra : extra ≤ bits := by omega
    obtain ⟨s', run, p', e, -⟩ := p.toPacked.alloc b (o := .extraBi) (mem_rootserverObjs.mpr (.inr (by omega))) hn
      fun q hq => hextra.trans (p.large q hq)
    refine ⟨s', run, p', fun q hq => ?_, fun hn' => ?_, fun q hq => ?_⟩
    · rw [e] at hq
      rcases List.mem_append.mp hq with hq | hq
      · exact hcmp.trans (p.large q hq)
      · obtain rfl := List.mem_singleton.mp hq
        exact h.1
    · rw [e] at hn'
      exact absurd (List.mem_append_right _ List.mem_cons_self) hn'
    · rw [e, List.mem_append, p.fields q hq]
      exact or_iff_left fun h => hq (List.mem_singleton.mp h)
  · rename_i h
    refine ⟨s, rfl, p.toPacked, fun q hq => hcmp.trans (p.large q hq), fun hn => ?_, p.fields⟩
    by_contra hge
    exact h ⟨Nat.not_lt.mp hge, p.pending.mpr hn⟩

/-- `rootserver.paging.end` is not looked at. -/
lemma withPagingEnd (p : Stage cfg nPaging extra start bits limit done s) (pagingEnd : Nat) :
    Stage cfg nPaging extra start bits limit done { s with pagingEnd := pagingEnd } :=
  ⟨⟨p.nodup, p.known, p.next, p.stop, p.placed, p.pending⟩, p.large, p.late, p.fields⟩

/-- The CNode and the VSpace, the larger one first. -/
lemma createLarge (p : Stage cfg nPaging extra start bits limit [] s) (b : Block cfg nPaging extra start)
    (hbits : max (cfg.rootCNodeSizeBits + slotBits) cfg.vspaceBits ≤ bits)
    (hlimit : limit ≤ max (cfg.rootCNodeSizeBits + slotBits) cfg.vspaceBits + 1) :
    ∃ s' bits' limit', createLarge cfg extra s = .ok s' ∧ pageBits ≤ bits' ∧ limit' ≤ bits' + 1 ∧
      ∃ done', (∀ q, q ∈ done' ↔ q = .cnode ∨ q = .vspace) ∧
        Stage cfg nPaging extra start bits' limit' done' s' := by
  have hc := b.sizes.cnode
  have hv := b.sizes.vspace
  have hpos : 0 < pageBits := by decide
  have hcnode : objBits cfg extra .cnode = cfg.rootCNodeSizeBits + slotBits := rfl
  have hvspace : objBits cfg extra .vspace = cfg.vspaceBits := rfl
  unfold Boot.createLarge
  dsimp only
  split
  · obtain ⟨s1, e1, p1⟩ := p.alloc b .cnode nofun List.not_mem_nil (by omega)
    obtain ⟨s2, e2, p2⟩ := p1.maybe b cfg.vspaceBits (by omega) (by omega) (by omega)
    obtain ⟨s3, e3, p3⟩ := p2.alloc b .vspace nofun (by simp) le_rfl
    refine ⟨s3, _, _, bind_eq_ok.mpr ⟨s1, e1, bind_eq_ok.mpr ⟨s2, e2, e3⟩⟩, ?_, ?_, _, ?_, p3⟩
    · omega
    · omega
    · simp
  · obtain ⟨s1, e1, p1⟩ := p.alloc b .vspace nofun List.not_mem_nil (by omega)
    obtain ⟨s2, e2, p2⟩ := p1.maybe b (cfg.rootCNodeSizeBits + slotBits) (by omega) (by omega) (by omega)
    obtain ⟨s3, e3, p3⟩ := p2.alloc b .cnode nofun (by simp) le_rfl
    refine ⟨s3, _, _, bind_eq_ok.mpr ⟨s1, e1, bind_eq_ok.mpr ⟨s2, e2, e3⟩⟩, ?_, ?_, _, ?_, p3⟩
    · omega
    · omega
    · simp [or_comm]

/-- The page tables. -/
lemma createPaging (p : Stage cfg nPaging extra start bits limit done s) (b : Block cfg nPaging extra start)
    (hnew : .paging ∉ done) (hbits : pageTableBits ≤ bits) :
    ∃ s', createPaging nPaging s = .ok s' ∧ Stage cfg nPaging extra start pageTableBits limit
    (done ++ [.paging]) s' := by
  obtain ⟨s1, e1, p1⟩ := p.alloc b .paging nofun hnew hbits
  exact ⟨_, bind_eq_ok.mpr ⟨s1, e1, rfl⟩, p1.withPagingEnd _⟩

/-- The TCB and the page tables, the larger ones first. -/
lemma createSmall (p : Stage cfg nPaging extra start bits limit done s) (b : Block cfg nPaging extra start)
    (htcb : .tcb ∉ done) (hpaging : .paging ∉ done) (hbits : pageBits ≤ bits) :
    ∃ s' bits', createSmall cfg nPaging s = .ok s' ∧ cfg.tcbBits ≤ bits' ∧
      ∃ done', (∀ q, q ∈ done' ↔ q ∈ done ∨ q = .tcb ∨ q = .paging) ∧
        Stage cfg nPaging extra start bits' limit done' s' := by
  have ht := b.sizes.tcb
  have hpage : pageTableBits = pageBits := rfl
  have hobj : objBits cfg extra .tcb = cfg.tcbBits := rfl
  unfold Boot.createSmall
  split
  · obtain ⟨s1, e1, p1⟩ := p.alloc b .tcb nofun htcb (by omega)
    obtain ⟨s2, e2, p2⟩ := p1.createPaging b (by simp [hpaging]) (by omega)
    refine ⟨s2, _, bind_eq_ok.mpr ⟨s1, e1, e2⟩, by omega, _, fun q => ?_, p2⟩
    simp
  · obtain ⟨s1, e1, p1⟩ := p.createPaging b hpaging (by omega)
    obtain ⟨s2, e2, p2⟩ := p1.alloc b .tcb nofun (by simp [htcb]) (by omega)
    refine ⟨s2, _, bind_eq_ok.mpr ⟨s1, e1, e2⟩, le_rfl, _, fun q => ?_, p2⟩
    simp only [List.mem_append, List.mem_singleton]
    tauto

end Stage

/-- The memory of a field. -/
def objRegion (cfg : BootConfig) (nPaging extra : Nat) (s : RootserverState) (o : RootserverObj) : Region :=
  ⟨s.rootserver o, s.rootserver o + objBytes cfg nPaging extra o⟩

/-- Objects that lie one after the other are disjoint. -/
lemma Packed.disjoint {s : RootserverState} (p : Packed cfg nPaging extra start s) :
    s.allocated.Pairwise fun o q => (objRegion cfg nPaging extra s o).Disjoint (objRegion cfg nPaging extra s q) := by
  have suffix : ∀ rest done, s.allocated = done ++ rest → rest.Pairwise fun o q =>
      (objRegion cfg nPaging extra s o).Disjoint (objRegion cfg nPaging extra s q) := by
    intro rest
    induction rest with
    | nil => exact fun _ _ => .nil
    | cons o rest ih =>
      intro done e
      refine .cons (fun q hq x hx hx' => ?_) (ih (done ++ [o]) (by rw [e, List.append_assoc, List.singleton_append]))
      obtain ⟨mid, after, rfl⟩ := List.append_of_mem hq
      have ho := (p.placed done o _ e).1
      have hq := (p.placed (done ++ o :: mid) q after (by rw [e]; simp)).1
      simp only [objRegion, Region.mem_iff, totalBytes, List.map_append, List.map_cons, List.sum_append,
        List.sum_cons] at ho hq hx hx'
      omega
  exact suffix s.allocated [] rfl

/-! ## The size of the extra boot info -/

/-- A size that is rounded up to pages, and does not leave the address space. -/
lemma roundUp_spec {n : Nat} (hpos : 0 < n) (hn : n + 2 ^ pageBits ≤ 2 ^ 64) :
    n ≤ roundUp n pageBits ∧ roundUp n pageBits < n + 2 ^ pageBits ∧ 2 ^ pageBits ≤ roundUp n pageBits ∧
      roundUp n pageBits < 2 ^ 64 := by
  unfold roundUp
  change n + 2 ^ 12 ≤ 2 ^ 64 at hn
  change n ≤ (sub64 n 1 / 2 ^ 12 + 1) * 2 ^ 12 % 2 ^ 64 ∧ (sub64 n 1 / 2 ^ 12 + 1) * 2 ^ 12 % 2 ^ 64 < n + 2 ^ 12 ∧
    2 ^ 12 ≤ (sub64 n 1 / 2 ^ 12 + 1) * 2 ^ 12 % 2 ^ 64 ∧ (sub64 n 1 / 2 ^ 12 + 1) * 2 ^ 12 % 2 ^ 64 < 2 ^ 64
  rw [sub64_eq hpos (by omega)]
  omega

/-- `64 - 1 - clzl(x)` is the position of the highest bit. -/
lemma msb_spec {x : Nat} (hpos : 0 < x) (hx : x < 2 ^ 64) :
    2 ^ sub64 (wordBits - 1) (clzl x) ≤ x ∧ x < 2 ^ (sub64 (wordBits - 1) (clzl x) + 1) := by
  have h1 : 0 < Nat.size x := Nat.size_pos.mpr hpos
  have h2 : Nat.size x ≤ 64 := Nat.size_le.mpr hx
  have e : sub64 (wordBits - 1) (clzl x) = Nat.size x - 1 := by
    have hw : wordBits = 64 := rfl
    unfold clzl
    rw [sub64_eq (by omega) (by omega)]
    omega
  rw [e]
  constructor
  · exact Nat.lt_size.mp (by omega)
  · rw [Nat.sub_add_cancel h1]
    exact Nat.lt_size_self x

/-- The extra boot info gets no memory, or the smallest power of two that holds it, of a page at least. -/
structure ExtraBits (extraSize extra : Nat) : Prop where
  page : pageBits ≤ extra
  holds : extraSize ≤ 2 ^ extra
  least : pageBits < extra → 2 ^ (extra - 1) < extraSize

lemma calculateExtraBiSizeBits_spec {extraSize : Nat} (hpos : 0 < extraSize) (hw : extraSize < 2 ^ 64)
    (h : calculateExtraBiSizeBits extraSize < wordBits) :
    ExtraBits extraSize (calculateExtraBiSizeBits extraSize) := by
  unfold calculateExtraBiSizeBits at h ⊢
  rw [if_neg hpos.ne'] at h ⊢
  dsimp only at h ⊢
  by_cases hle : extraSize + 2 ^ pageBits ≤ 2 ^ 64
  · obtain ⟨h1, h2, h3, h4⟩ := roundUp_spec hpos hle
    generalize roundUp extraSize pageBits = r at *
    have hr : 0 < r := by omega
    obtain ⟨h5, h6⟩ := msb_spec hr h4
    generalize sub64 (wordBits - 1) (clzl r) = msb at *
    have hpage : pageBits ≤ msb := by
      have : 2 ^ pageBits < 2 ^ (msb + 1) := by omega
      have := (Nat.pow_lt_pow_iff_right (show 1 < 2 by decide)).mp this
      omega
    split
    · rename_i hlt
      have hholds : extraSize ≤ 2 ^ (msb + 1) := by omega
      refine ⟨by omega, hholds, fun _ => ?_⟩
      rwa [Nat.add_sub_cancel]
    · rename_i hlt
      refine ⟨hpage, by omega, fun hlt' => ?_⟩
      -- less than a page has been added
      have hhalf : 2 ^ msb = 2 ^ (msb - 1) + 2 ^ (msb - 1) := by
        rw [← Nat.two_mul, ← pow_succ', Nat.sub_add_cancel (by omega)]
      have : 2 ^ pageBits ≤ 2 ^ (msb - 1) := Nat.pow_le_pow_right (by decide) (by omega)
      omega
  · -- the size wraps to 0 when it is rounded up
    have hzero : roundUp extraSize pageBits = 0 := by
      unfold roundUp
      change ¬ extraSize + 2 ^ 12 ≤ 2 ^ 64 at hle
      change (sub64 extraSize 1 / 2 ^ 12 + 1) * 2 ^ 12 % 2 ^ 64 = 0
      rw [sub64_eq hpos hw]
      omega
    have hmsb : wordBits ≤ sub64 (wordBits - 1) (clzl 0) := by
      unfold clzl
      rw [Nat.size_zero]
      decide
    rw [hzero] at h
    generalize sub64 (wordBits - 1) (clzl 0) = msb at h hmsb
    split at h <;> omega

/-- Extra boot info that fits into memory. -/
lemma extra_lt_of_fits (h : totalBytes cfg nPaging extra (rootserverObjs extra) < 2 ^ 64) : extra < wordBits := by
  by_contra hge
  have hpos : 0 < extra := (show 0 < wordBits by decide).trans_le (Nat.not_lt.mp hge)
  have hone : totalBytes cfg nPaging extra [.extraBi] = 2 ^ extra := by
    simp [totalBytes, objBytes, objCount, objBits]
  have hle := @totalBytes_le cfg nPaging extra [.extraBi] (List.nodup_singleton _) fun o ho => by
    obtain rfl := List.mem_singleton.mp ho
    exact mem_rootserverObjs.mpr (.inr hpos)
  rw [hone] at hle
  have : 2 ^ wordBits ≤ 2 ^ extra := Nat.pow_le_pow_right (by decide) (Nat.not_lt.mp hge)
  exact absurd (this.trans hle) (Nat.not_le.mpr h)

/-- All objects are taken, in the order in which they are packed. -/
lemma Block.create (b : Block cfg nPaging extra start) :
    ∃ s, createRootserverObjects cfg start nPaging extra .initial = .ok s ∧ Packed cfg nPaging extra start s ∧
      s.allocated.Perm (rootserverObjs extra) := by
  have hfits := b.fits
  have hsize : calculateRootserverSize cfg nPaging extra = totalBytes cfg nPaging extra (rootserverObjs extra) :=
    calculateRootserverSize_eq (by omega)
  have hc := b.sizes.cnode
  have ht := b.sizes.tcb
  have hsc := b.sizes.sc
  have hpage : 0 < pageBits := by decide
  have hmax : rootserverMaxSizeBits cfg extra = max (max (cfg.rootCNodeSizeBits + slotBits) cfg.vspaceBits) extra := rfl
  have start0 : Stage cfg nPaging extra start (rootserverMaxSizeBits cfg extra) (rootserverMaxSizeBits cfg extra + 1) []
      { RootserverState.initial with
        rootserverMem := ⟨start, add64 start (calculateRootserverSize cfg nPaging extra)⟩ } := by
    refine ⟨⟨.nil, nofun, rfl, ?_, fun done o rest e => ?_, iff_of_true rfl List.not_mem_nil⟩, nofun, fun _ => ?_,
      fun _ _ => Iff.rfl⟩
    · show add64 start (calculateRootserverSize cfg nPaging extra) = _
      rw [hsize, add64_eq hfits]
    · cases done <;> cases e
    · omega
  obtain ⟨s1, e1, p1⟩ := start0.maybe b (rootserverMaxSizeBits cfg extra) (by omega) le_rfl le_rfl
  have p1 := p1.weaken (max (cfg.rootCNodeSizeBits + slotBits) cfg.vspaceBits) (by omega)
  obtain ⟨s2, bits, limit, e2, hbits, hlimit, done, hdone, p2⟩ := p1.createLarge b (by omega) (by omega)
  obtain ⟨s3, e3, p3⟩ := p2.maybe b pageBits hpage hbits hlimit
  obtain ⟨s4, e4, p4⟩ := p3.alloc b .asidPool nofun (by simp [hdone]) le_rfl
  obtain ⟨s5, e5, p5⟩ := p4.alloc b .ipcBuf nofun (by simp [hdone]) le_rfl
  obtain ⟨s6, e6, p6⟩ := p5.alloc b .bootInfo nofun (by simp [hdone]) le_rfl
  obtain ⟨s7, bits', e7, hbits', done', hdone', p7⟩ := p6.createSmall b (by simp [hdone]) (by simp [hdone]) le_rfl
  obtain ⟨s8, e8, p8⟩ := p7.alloc b .sc nofun (by simp [hdone', hdone]) (hsc.trans hbits')
  have hall : s8.allocated.Perm (rootserverObjs extra) := by
    refine (List.perm_ext_iff_of_nodup p8.nodup rootserverObjs_nodup).mpr fun o => ⟨p8.known o, fun ho => ?_⟩
    by_cases h : o = .extraBi
    · -- there was a point for it
      subst h
      by_contra hn
      have hlt := p8.late hn
      have hpos := (mem_rootserverObjs.mp ho).resolve_left (fun h => h rfl)
      rcases b.extraBits with h | h <;> omega
    · rw [p8.fields o h, List.mem_append, hdone']
      cases o <;> simp_all
  have hend : s8.rootserverMem.start = s8.rootserverMem.stop := by
    rw [p8.next, p8.stop]
    exact congrArg _ (hall.map _).sum_eq
  refine ⟨s8, ?_, p8.toPacked, hall⟩
  refine bind_eq_ok.mpr ⟨s1, e1, bind_eq_ok.mpr ⟨s2, e2, bind_eq_ok.mpr ⟨s3, e3, bind_eq_ok.mpr ⟨s4, e4,
    bind_eq_ok.mpr ⟨s5, e5, bind_eq_ok.mpr ⟨s6, e6, bind_eq_ok.mpr ⟨s7, e7, bind_eq_ok.mpr ⟨s8, e8, ?_⟩⟩⟩⟩⟩⟩⟩⟩
  rw [assert_ok (decide_eq_true hend)]
  rfl

/-- For any size of the extra boot info, and a block of memory that is aligned to the largest object, all objects are
taken, each once and at a multiple of its size; they are disjoint, and nothing of the block is left. -/
theorem createRootserverObjects_ok {extraSize : Nat} (z : Sizes cfg) (hw : extraSize < 2 ^ 64)
    (hextra : extra = calculateExtraBiSizeBits extraSize) (haligned : 2 ^ rootserverMaxSizeBits cfg extra ∣ start)
    (hpos : start ≠ 0) (hfits : start + totalBytes cfg nPaging extra (rootserverObjs extra) < 2 ^ 64) :
    (extraSize = 0 ∧ extra = 0 ∨ extraSize ≠ 0 ∧ ExtraBits extraSize extra) ∧
      ∃ s, createRootserverObjects cfg start nPaging extra .initial = .ok s ∧
        s.allocated.Perm (rootserverObjs extra) ∧
        (∀ o ∈ rootserverObjs extra, 2 ^ objBits cfg extra o ∣ s.rootserver o) ∧
        ((rootserverObjs extra).Pairwise fun o q =>
          (objRegion cfg nPaging extra s o).Disjoint (objRegion cfg nPaging extra s q)) ∧
        s.rootserverMem.start = start + calculateRootserverSize cfg nPaging extra ∧
        s.rootserverMem.stop = s.rootserverMem.start := by
  have hbits : extraSize = 0 ∧ extra = 0 ∨ extraSize ≠ 0 ∧ ExtraBits extraSize extra := by
    rcases Nat.eq_zero_or_pos extraSize with rfl | h0
    · exact .inl ⟨rfl, hextra⟩
    · have hlt : extra < wordBits := @extra_lt_of_fits cfg nPaging extra (by omega)
      subst hextra
      exact .inr ⟨h0.ne', calculateExtraBiSizeBits_spec h0 hw hlt⟩
  have b : Block cfg nPaging extra start :=
    ⟨z, hbits.imp And.right fun h => h.2.page, haligned, hpos, hfits⟩
  obtain ⟨s, run, p, hall⟩ := b.create
  refine ⟨hbits, s, run, hall, fun o ho => ?_, ?_, ?_, ?_⟩
  · obtain ⟨done, rest, e⟩ := List.append_of_mem (hall.mem_iff.mpr ho)
    exact (p.placed done o rest e).2
  · exact (hall.pairwise_iff fun h => h.symm).mp p.disjoint
  · rw [p.next, calculateRootserverSize_eq (by omega)]
    exact congrArg _ (hall.map _).sum_eq
  · rw [p.next, p.stop]
    exact congrArg _ (hall.map _).sum_eq.symm

/-- 5000 bytes of extra boot info get two pages. -/
theorem createRootserverObjects_ok_virt :
    ∃ s, createRootserverObjects virtConfig 0x807ffc0000 3 13 .initial = .ok s ∧
      s.allocated.Perm (rootserverObjs 13) ∧ s.rootserverMem.stop =
      0x807ffc0000 + calculateRootserverSize virtConfig 3 13 := by
  have z : Sizes virtConfig := ⟨by decide, by decide, by decide, by decide⟩
  have hextra : 13 = calculateExtraBiSizeBits 5000 := by decide +kernel
  obtain ⟨-, s, run, hall, -, -, hstart, hstop⟩ := @createRootserverObjects_ok virtConfig 3 13 0x807ffc0000 5000 z
    (by decide) hextra (by decide) (by decide) (by decide)
  exact ⟨s, run, hall, hstop.trans hstart⟩

end Boot

end NexsKernel
