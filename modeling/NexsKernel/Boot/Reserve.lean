import NexsKernel.Machine.Word
import NexsKernel.Api.Failures
import NexsKernel.Object.Cap
import NexsKernel.Lib.Regions

/-!
# Regions of memory at boot

`ndks_boot.reserved` and `ndks_boot.freemem` (`kernel/boot.c`). Physical regions are reserved in a sorted array of
fixed size; a region that touches others is merged with them. A free region takes the first empty entry of
`freemem` and is reserved too, so that it is not taken for device memory.

`reserveRegion_cases` is what a call of `reserve_region` can do to the array.
-/

namespace NexsKernel

/-- The constants of the configuration and the linker script that the boot code uses. -/
structure BootConfig where
  /-- `CONFIG_DEBUG_BUILD`. -/
  debugBuild : Bool
  pptrBase : Nat
  pptrTop : Nat
  /-- `PPTR_BASE_OFFSET`. -/
  pptrBaseOffset : Nat
  /-- `CONFIG_PADDR_USER_DEVICE_TOP`. -/
  paddrUserDeviceTop : Nat
  maxNumFreememReg : Nat
  maxNumResvReg : Nat
  /-- `CONFIG_MAX_NUM_BOOTINFO_UNTYPED_CAPS`. -/
  maxNumBootinfoUntypedCaps : Nat
  /-- `CONFIG_ROOT_CNODE_SIZE_BITS`. -/
  rootCNodeSizeBits : Nat
  /-- `seL4_TCBBits`. -/
  tcbBits : Nat
  /-- `seL4_VSpaceBits`. -/
  vspaceBits : Nat
  /-- `get_p_reg_kernel_img_boot`. -/
  kernelImgBoot : Region
  offset_le : pptrBaseOffset ≤ pptrTop
  pptrTop_lt : pptrTop < 2 ^ 64
  userDeviceTop_lt : paddrUserDeviceTop < 2 ^ 64
  freemem_pos : 0 < maxNumFreememReg
  resv_pos : 0 < maxNumResvReg

/-- `ndks_boot`, and `rootserver_mem` as `create_rootserver_objects` sets it. -/
structure NdksBoot where
  /-- The first `resv_count` entries. -/
  reserved : List Region
  freemem : List Region
  rootserverMem : Region
  slotPosCur : Nat
  /-- The arguments `device_memory`, `size_bits` and `pptr` of the capabilities provided. -/
  untypeds : List (Bool × Nat × Nat)
  deriving DecidableEq, Repr

/-- `assert`, which is left out of a release build. -/
def BootConfig.assert (cfg : BootConfig) (b : Bool) : Except Halt Unit :=
  if cfg.debugBuild then NexsKernel.assert b else .ok ()

lemma BootConfig.assert_ok (cfg : BootConfig) {b : Bool} (h : b = true) : cfg.assert b = .ok () := by
  unfold BootConfig.assert
  rw [NexsKernel.assert_ok h, ite_self]

namespace Boot

/-- `REG_EMPTY`. -/
def regEmpty : Region := ⟨0, 0⟩

/-- `is_reg_empty`. -/
def isRegEmpty (reg : Region) : Bool :=
  reg.start == reg.stop

/-- `paddr_to_pptr_reg`. -/
def paddrToPptrReg (cfg : BootConfig) (reg : Region) : Region :=
  ⟨add64 reg.start cfg.pptrBaseOffset, add64 reg.stop cfg.pptrBaseOffset⟩

/-- `pptr_to_paddr_reg`. -/
def pptrToPaddrReg (cfg : BootConfig) (reg : Region) : Region :=
  ⟨sub64 reg.start cfg.pptrBaseOffset, sub64 reg.stop cfg.pptrBaseOffset⟩

/-- The loop of `merge_regions`, `reg` being the entry at `i - 1`. -/
def mergeFrom (reg : Region) : List Region → List Region
  | [] => [reg]
  | next :: rest =>
    if reg.stop = next.start then mergeFrom { reg with stop := next.stop } rest
    else reg :: mergeFrom next rest

/-- `merge_regions`. -/
def mergeRegions : List Region → List Region
  | [] => []
  | reg :: rest => mergeFrom reg rest

/-- What the loop of `reserve_region` finds to do. -/
inductive Placement where
  | joined (reserved : List Region)
  | placed (reserved : List Region)
  | full

/-- The loop of `reserve_region` over the entries that are left. -/
def place (cfg : BootConfig) (resvCount : Nat) (reg : Region) : List Region → Placement
  | [] => if resvCount + 1 = cfg.maxNumResvReg then .full else .placed [reg]
  | r :: rest =>
    if r.start = reg.stop then .joined ({ r with start := reg.start } :: rest)
    else if r.stop = reg.start then .joined ({ r with stop := reg.stop } :: rest)
    else if reg.stop < r.start then
      if cfg.maxNumResvReg ≤ resvCount + 1 then .full else .placed (reg :: r :: rest)
    else
      match place cfg resvCount reg rest with
      | .joined rest => .joined (r :: rest)
      | .placed rest => .placed (r :: rest)
      | .full => .full

/-- `reserve_region`. -/
def reserveRegion (cfg : BootConfig) (reg : Region) (s : NdksBoot) : Except Halt (Bool × NdksBoot) := do
  cfg.assert (reg.start ≤ reg.stop)
  if reg.start = reg.stop then
    return (true, s)
  else
    match place cfg s.reserved.length reg s.reserved with
    | .joined reserved => return (true, { s with reserved := mergeRegions reserved })
    | .placed reserved => return (true, { s with reserved := reserved })
    | .full => return (false, s)

/-- The search of `insert_region` for an empty entry. -/
def fillEmpty (reg : Region) : List Region → Option (List Region)
  | [] => none
  | r :: rest => if isRegEmpty r then some (reg :: rest) else (fillEmpty reg rest).map (r :: ·)

/-- `insert_region`. -/
def insertRegion (cfg : BootConfig) (reg : Region) (s : NdksBoot) : Except Halt (Bool × NdksBoot) := do
  cfg.assert (reg.start ≤ reg.stop)
  if isRegEmpty reg then
    return (true, s)
  else
    match fillEmpty reg s.freemem with
    | some freemem =>
      -- the result of `reserve_region` is not looked at
      let (_, s) ← reserveRegion cfg (pptrToPaddrReg cfg reg) s
      return (true, { s with freemem := freemem })
    | none =>
      cfg.assert false
      return (false, s)

/-- Merging keeps the addresses and leaves no two regions that touch. -/
lemma mergeFrom_spec {reg t} (h : Ascending (reg :: t)) :
    Table (mergeFrom reg t) ∧ ∀ x, x ∈ cover (mergeFrom reg t) ↔ x ∈ reg ∨ x ∈ cover t := by
  induction t generalizing reg with
  | nil => exact ⟨Table.nil.cons (h.proper reg (.head _)) nofun, fun x => by simp [mergeFrom]⟩
  | cons next rest ih =>
    have hreg := h.proper reg (.head _)
    have hnext := h.proper next (.tail _ (.head _))
    have hle := List.rel_of_pairwise_cons h.sorted (.head _)
    rw [mergeFrom]
    split
    · rename_i heq
      have hrest : Ascending ({ reg with stop := next.stop } :: rest) :=
        h.tail.tail.cons (by dsimp only; omega) fun s hs => List.rel_of_pairwise_cons h.tail.sorted hs
      obtain ⟨table, hcover⟩ := ih hrest
      refine ⟨table, fun x => (hcover x).trans ?_⟩
      rw [mem_cover_cons, ← or_assoc]
      apply or_congr_left
      simp only [Region.mem_iff]
      omega
    · rename_i hne
      obtain ⟨table, hcover⟩ := ih h.tail
      refine ⟨table.cons hreg fun s hs => ?_, fun x => ?_⟩
      · -- whatever comes next starts at `next` or above it
        rcases (hcover s.start).mp ⟨s, hs, le_rfl, table.proper s hs⟩ with ⟨hs, -⟩ | hs
        · omega
        · have := h.tail.stop_le hs
          omega
      · rw [mem_cover_cons, hcover, mem_cover_cons]

lemma mergeRegions_spec {t} (h : Ascending t) :
    Table (mergeRegions t) ∧ ∀ x, x ∈ cover (mergeRegions t) ↔ x ∈ cover t := by
  cases t with
  | nil => exact ⟨Table.nil, fun _ => Iff.rfl⟩
  | cons reg t => exact (mergeFrom_spec h).imp_right fun hcover x => (hcover x).trans mem_cover_cons.symm

lemma mergeFrom_length (reg : Region) (t : List Region) : (mergeFrom reg t).length ≤ t.length + 1 := by
  induction t generalizing reg with
  | nil => exact le_rfl
  | cons next rest ih =>
    rw [mergeFrom]
    split
    · exact (ih _).trans (Nat.le_succ _)
    · exact Nat.succ_le_succ (ih next)

lemma mergeRegions_length (t : List Region) : (mergeRegions t).length ≤ t.length := by
  cases t with
  | nil => exact le_rfl
  | cons reg t => exact mergeFrom_length reg t

/-- What the loop of `reserve_region` finds for a region `reg` in a table `t`. -/
inductive Placement.Sound (cfg : BootConfig) (count : Nat) (reg : Region) (t : List Region) : Placement → Prop where
  | joined {t'} :
    (∃ r ∈ t, r.Touches reg) →
    Ascending t' →
    t'.length = t.length →
    (∀ x, x ∈ cover t' ↔ x ∈ cover t ∨ x ∈ reg) →
    Sound cfg count reg t (.joined t')
  | placed {t'} :
    (∀ r ∈ t, ¬ r.Touches reg) →
    count + 1 < cfg.maxNumResvReg →
    Table t' →
    t'.length = t.length + 1 →
    (∀ x, x ∈ cover t' ↔ x ∈ cover t ∨ x ∈ reg) →
    Sound cfg count reg t (.placed t')
  | full :
    (∀ r ∈ t, ¬ r.Touches reg) →
    cfg.maxNumResvReg ≤ count + 1 →
    Sound cfg count reg t .full

/-- A region that meets no entry is put in its place. -/
lemma place_sound {cfg count reg t} (ht : Table t) (hreg : reg.start < reg.stop)
    (hd : ∀ r ∈ t, r.Disjoint reg) (hcount : count < cfg.maxNumResvReg) :
    (place cfg count reg t).Sound cfg count reg t := by
  induction t with
  | nil =>
    rw [place]
    split
    · exact .full nofun (by omega)
    · exact .placed nofun (by omega) (Table.nil.cons hreg nofun) rfl fun x => by simp
  | cons r rest ih =>
    have hr := ht.proper r (.head _)
    have hrest : ∀ s ∈ rest, r.stop < s.start := fun s hs => List.rel_of_pairwise_cons ht.apart hs
    have apart := (hd r (.head _)).apart hr hreg
    rw [place]
    split
    · -- the entry starts where the region ends
      rename_i heq
      refine .joined ⟨r, .head _, .inr heq.symm⟩ ?_ rfl fun x => ?_
      · exact ht.ascending.tail.cons (by dsimp only; omega) fun s hs => (hrest s hs).le
      · simp only [mem_cover_cons, Region.mem_iff]
        constructor
        · rintro (hx | hx)
          · omega
          · exact .inl (.inr hx)
        · rintro ((hx | hx) | hx)
          · omega
          · exact .inr hx
          · omega
    split
    · -- the entry ends where the region starts
      rename_i hne heq
      have hle : ∀ s ∈ rest, reg.stop ≤ s.start := fun s hs => by
        have := ((hd s (.tail _ hs)).apart (ht.proper s (.tail _ hs)) hreg)
        have := hrest s hs
        have := ht.proper s (.tail _ hs)
        omega
      refine .joined ⟨r, .head _, .inl heq⟩ ?_ rfl fun x => ?_
      · exact ht.ascending.tail.cons (by dsimp only; omega) hle
      · simp only [mem_cover_cons, Region.mem_iff]
        constructor
        · rintro (hx | hx)
          · omega
          · exact .inl (.inr hx)
        · rintro ((hx | hx) | hx)
          · omega
          · exact .inr hx
          · omega
    rename_i hne1 hne2
    have hnot : ¬ r.Touches reg := fun h => h.elim hne2 fun h => hne1 h.symm
    split
    · -- the region lies below the entry
      rename_i hlt
      have hfar : ∀ s ∈ r :: rest, ¬ s.Touches reg := by
        intro s hs htouch
        rcases List.mem_cons.mp hs with rfl | hs
        · exact hnot htouch
        · have := hrest s hs
          have := ht.proper s (.tail _ hs)
          rcases htouch with h | h <;> omega
      split
      · exact .full hfar ‹_›
      · refine .placed hfar (by omega) (ht.cons hreg fun s hs => ?_) rfl fun x => ?_
        · rcases List.mem_cons.mp hs with rfl | hs
          · exact hlt
          · have := hrest s hs
            omega
        · rw [mem_cover_cons, or_comm]
    · -- the region lies above the entry, and the walk goes on
      have hlt : r.stop < reg.start := by omega
      have ih := ih ht.tail fun s hs => hd s (.tail _ hs)
      generalize place cfg count reg rest = p at ih ⊢
      cases ih with
      | joined htouch asc hlen hcover =>
        obtain ⟨s, hs, htouch⟩ := htouch
        have habove := ht.lt_of_cover hlt hcover asc.proper
        refine .joined ⟨s, .tail _ hs, htouch⟩ (asc.cons hr fun u hu => (habove u hu).le) (by simp [hlen]) fun x => ?_
        rw [mem_cover_cons, mem_cover_cons, hcover, or_assoc]
      | placed hfar room table hlen hcover =>
        refine .placed ?_ room (table.cons hr (ht.lt_of_cover hlt hcover table.proper)) (by simp [hlen]) fun x => ?_
        · intro s hs
          rcases List.mem_cons.mp hs with rfl | hs
          · exact hnot
          · exact hfar s hs
        · rw [mem_cover_cons, mem_cover_cons, hcover, or_assoc]
      | full hfar room =>
        refine .full ?_ room
        intro s hs
        rcases List.mem_cons.mp hs with rfl | hs
        · exact hnot
        · exact hfar s hs

/-- What a call of `reserve_region` does to the table of reserved regions. -/
inductive Reserved (cfg : BootConfig) (reg : Region) (t t' : List Region) : Prop where
  | joined :
    (∃ r ∈ t, r.Touches reg) →
    Table t' →
    t'.length ≤ t.length →
    (∀ x, x ∈ cover t' ↔ x ∈ cover t ∨ x ∈ reg) →
    Reserved cfg reg t t'
  | placed :
    (∀ r ∈ t, ¬ r.Touches reg) →
    t.length + 1 < cfg.maxNumResvReg →
    Table t' →
    t'.length = t.length + 1 →
    (∀ x, x ∈ cover t' ↔ x ∈ cover t ∨ x ∈ reg) →
    Reserved cfg reg t t'
  | dropped :
    (∀ r ∈ t, ¬ r.Touches reg) →
    cfg.maxNumResvReg ≤ t.length + 1 →
    t' = t →
    Reserved cfg reg t t'

lemma reserveRegion_cases {cfg reg s b s'} (ht : Table s.reserved) (hlen : s.reserved.length < cfg.maxNumResvReg)
    (hreg : reg.start < reg.stop) (hd : ∀ r ∈ s.reserved, r.Disjoint reg)
    (h : reserveRegion cfg reg s = .ok (b, s')) :
    ∃ t', s' = { s with reserved := t' } ∧ Reserved cfg reg s.reserved t' := by
  unfold reserveRegion at h
  obtain ⟨u, -, h⟩ := bind_eq_ok.mp h
  rw [if_neg hreg.ne] at h
  have sound := place_sound ht hreg hd hlen
  generalize place cfg s.reserved.length reg s.reserved = p at sound h
  cases sound with
  | @joined t' htouch asc hlen hcover =>
    obtain ⟨-, rfl⟩ := Prod.ext_iff.mp (Except.ok.inj h)
    obtain ⟨table, hcover'⟩ := mergeRegions_spec asc
    exact ⟨_, rfl, .joined htouch table ((mergeRegions_length t').trans hlen.le) fun x => (hcover' x).trans (hcover x)⟩
  | placed hfar room table hlen hcover =>
    obtain ⟨-, rfl⟩ := Prod.ext_iff.mp (Except.ok.inj h)
    exact ⟨_, rfl, .placed hfar room table hlen hcover⟩
  | full hfar room =>
    obtain ⟨-, rfl⟩ := Prod.ext_iff.mp (Except.ok.inj h)
    exact ⟨_, rfl, .dropped hfar room rfl⟩

end Boot

end NexsKernel
