import NexsKernel.CSpace.Retype

/-!
# The initial CSpace

What the boot code leaves: the root CNode with the capabilities of the initial thread (`boot.c` and its
AArch64 part), three of which are copied into the TCB. Each slot of the root CNode is written once, so the
writes are listed here by their position, not in the order of the source.

Where the objects lie is input: `BootInfo` holds the memory of the initial thread as
`create_rootserver_objects` has allocated it, and the regions of the user image and of the memory that is
left. That these regions do not meet is what `BootInfo.Valid` says.
-/

namespace NexsKernel

open Function (update update_self update_of_ne)

/-- `IT_ASID`. -/
def itASID : Nat := 1

/-- `seL4_RootCNodeCapSlots`: the slots of the root CNode with a fixed position. -/
inductive RootCNodeCapSlot where
  | initThreadTCB
  | initThreadCNode
  | initThreadVSpace
  | irqControl
  | asidControl
  | initThreadASIDPool
  | bootInfoFrame
  | initThreadIPCBuffer
  | domain
  | initThreadSC
  | smc
  deriving DecidableEq, Repr

/-- The position of a slot. -/
def RootCNodeCapSlot.pos : RootCNodeCapSlot → Nat
  | initThreadTCB => 1
  | initThreadCNode => 2
  | initThreadVSpace => 3
  | irqControl => 4
  | asidControl => 5
  | initThreadASIDPool => 6
  | bootInfoFrame => 9
  | initThreadIPCBuffer => 10
  | domain => 11
  | initThreadSC => 14
  | smc => 15

/-- `seL4_NumInitialCaps`. -/
def numInitialCaps : Nat := 16

/-- The slots of a TCB (`tcb_cnode_index_t`). -/
inductive TcbCNodeIndex where
  | tcbCTable
  | tcbVTable
  | tcbBuffer
  | tcbFaultHandler
  | tcbTimeoutHandler
  deriving DecidableEq, Repr

/-- The position of a slot of a TCB. -/
def TcbCNodeIndex.pos : TcbCNodeIndex → Nat
  | tcbCTable => 0
  | tcbVTable => 1
  | tcbBuffer => 2
  | tcbFaultHandler => 3
  | tcbTimeoutHandler => 4

/-- The memory that the boot code has allocated. Page tables and frames come with the address at which
they are mapped. -/
structure BootInfo where
  /-- `CONFIG_ROOT_CNODE_SIZE_BITS`. -/
  rootCNodeSizeBits : Nat
  cnode : Nat
  vspace : Nat
  asidPool : Nat
  ipcBuf : Nat × Nat
  bootInfo : Nat × Nat
  tcb : Nat
  sc : Nat
  paging : List (Nat × Nat)
  extraBi : List (Nat × Nat)
  userImage : List (Nat × Nat)
  /-- The arguments `device_memory`, `size_bits` and `pptr` of `provide_untyped_cap`. -/
  untypeds : List (Bool × Nat × Nat)
  /-- `KERNEL_TIMER_IRQ` on each core, and the other interrupts that the kernel keeps for itself. -/
  timerIRQs : List Nat
  ipiIRQs : List Nat
  reservedIRQs : List Nat

namespace BootInfo

variable (b : BootInfo)

/-- `create_root_cnode`. -/
def rootCNodeCap : Cap :=
  .cnode b.rootCNodeSizeBits (wordBits - b.rootCNodeSizeBits) 0 b.cnode

/-- `create_it_frame_cap` for a mapped small page. -/
def itFrameCap (frame : Nat × Nat) : Cap :=
  .arch (.frame itASID frame.1 .small frame.2 .readWrite false)

/-- `create_it_pud_cap`, `create_it_pd_cap` and `create_it_pt_cap`. -/
def itPageTableCap (table : Nat × Nat) : Cap :=
  .arch (.pageTable itASID table.1 true table.2)

/-- The capability of a slot with a fixed position. -/
def initialCap : RootCNodeCapSlot → Cap
  | .initThreadTCB => .thread (b.tcb + tcbOffset)
  | .initThreadCNode => b.rootCNodeCap
  | .initThreadVSpace => .arch (.vspace itASID b.vspace true)
  | .irqControl => .irqControl
  | .asidControl => .arch .asidControl
  | .initThreadASIDPool => .arch (.asidPool 0 b.asidPool)
  | .bootInfoFrame => itFrameCap b.bootInfo
  | .initThreadIPCBuffer => itFrameCap b.ipcBuf
  | .domain => .domain
  | .initThreadSC => .schedContext b.sc minSchedContextBits
  | .smc => .arch (.smc 0)

/-- The fixed slots, that of the root CNode first. -/
def fixedSlots : List RootCNodeCapSlot :=
  [.initThreadCNode, .domain, .irqControl, .smc, .initThreadVSpace, .bootInfoFrame, .initThreadIPCBuffer,
    .initThreadASIDPool, .asidControl, .initThreadTCB, .initThreadSC]

/-- The capabilities that `provide_cap` puts into the slots behind them, in this order. -/
def providedCaps (numNodes : Nat) : List Cap :=
  b.paging.map itPageTableCap ++ b.extraBi.map itFrameCap ++ (List.range numNodes).map .schedControl ++
    b.userImage.map itFrameCap ++ b.untypeds.map fun u => .untyped (maxFreeIndex u.2.1) u.1 u.2.1 u.2.2

/-- All capabilities of the root CNode, with their position. -/
def initialCaps (numNodes : Nat) : List (Nat × Cap) :=
  fixedSlots.map (fun s => (s.pos, b.initialCap s)) ++
    (b.providedCaps numNodes).zipIdx.map fun c => (numInitialCaps + c.2, c.1)

/-- The calls of `setIRQState` in `init_irqs`, and in `try_init_kernel_secondary_core` for other cores. -/
def irqStates (pf : Platform) : List (IRQState × Nat) :=
  (List.range pf.numIRQs).map (fun irq => (.inactive, irq)) ++ b.timerIRQs.map (fun irq => (.timer, irq)) ++
    b.ipiIRQs.map (fun irq => (.ipi, irq)) ++ b.reservedIRQs.map fun irq => (.reserved, irq)

/-- The regions that the boot code works with do not meet, and the root CNode is large enough. -/
structure Valid (pf : Platform) : Prop where
  room : numInitialCaps + (b.providedCaps pf.numNodes).length ≤ 2 ^ b.rootCNodeSizeBits
  tcb_aligned : 2 ^ tcbBits ∣ b.tcb
  wellFormed : ∀ c ∈ b.initialCaps pf.numNodes, WellFormed c.2
  disjoint : (b.initialCaps pf.numNodes).Pairwise fun c d => ¬ Overlap c.2 d.2
  outside : ∀ c ∈ b.initialCaps pf.numNodes, ∀ irq, irq < pf.numIRQs → capIsPhysical c.2 = true →
    capPtr c.2 ≤ pf.irqSlot irq → regionEnd c.2 ≤ pf.irqSlot irq

/-- The slot of the root CNode with a fixed position. -/
def rootSlot (s : RootCNodeCapSlot) : Slot :=
  slotAt b.cnode s.pos

/-- The slot of the TCB of the initial thread. -/
def tcbSlot (i : TcbCNodeIndex) : Slot :=
  slotAt b.tcb i.pos

end BootInfo

namespace CSpace

/-- Write a list of slots of a CNode. -/
def writeSlots (cnode : Nat) (caps : List (Nat × Cap)) (cs : CSpace) : CSpace :=
  caps.foldl (fun cs c => cs.writeSlot (slotAt cnode c.1) c.2) cs

/-- The part of `create_initial_thread` that fills the slots of the TCB. -/
def createInitialThread (b : BootInfo) (cs : CSpace) : Except Halt CSpace :=
  match cs.deriveCap (b.rootSlot .initThreadIPCBuffer) (b.initialCap .initThreadIPCBuffer) with
  | .error _ => .error .assertion
  | .ok ipcbufCap => do
    let cs ← cs.cteInsert b.rootCNodeCap (b.rootSlot .initThreadCNode) (b.tcbSlot .tcbCTable)
    let cs ← cs.cteInsert (b.initialCap .initThreadVSpace) (b.rootSlot .initThreadVSpace) (b.tcbSlot .tcbVTable)
    cs.cteInsert ipcbufCap (b.rootSlot .initThreadIPCBuffer) (b.tcbSlot .tcbBuffer)

/-- A list of calls of `setIRQState`. -/
def setIRQStates (states : List (IRQState × Nat)) (cs : CSpace) : CSpace :=
  states.foldl (fun cs s => cs.setIRQState s.1 s.2) cs

/-- The CSpace with which the initial thread starts. -/
def boot (pf : Platform) (b : BootInfo) : Except Halt CSpace :=
  createInitialThread b
    (writeSlots b.cnode (b.initialCaps pf.numNodes) (CSpace.empty.setIRQStates (b.irqStates pf)))

open Links

variable {pf : Platform} {cs : CSpace}

section WriteSlot

variable {slot : Slot} {c : Cap}

lemma writeSlot_cap_self : (cs.writeSlot slot c).cap slot = c :=
  update_self ..

lemma writeSlot_cap_of_ne {t} (h : t ≠ slot) : (cs.writeSlot slot c).cap t = cs.cap t :=
  update_of_ne h ..

private lemma writeSlot_history_self : (cs.writeSlot slot c).history slot = [cs.fresh] :=
  update_self ..

private lemma writeSlot_history_of_ne {t} (h : t ≠ slot) :
    (cs.writeSlot slot c).history t = cs.history t :=
  update_of_ne h ..

/-- Capabilities of the boot code that need not stand next to each other. Only those to control the
schedulers of several cores name one object. -/
structure Apart (pf : Platform) (c d : Cap) : Prop where
  overlap : ¬ Overlap c d
  object : objectOf c = objectOf d → objectOf c = none ∨ objectOf c = some (.schedControl 0) ∧ pf.numNodes ≠ 1

lemma Apart.symm {c d : Cap} (h : Apart pf c d) : Apart pf d c :=
  ⟨fun o => h.overlap o.symm, fun e => by rw [e]; exact h.object e.symm⟩

variable (w : cs.WellLinked) (hs : cs.cap slot = .null)
include w hs

/-- No run meets a slot that was empty. -/
private lemma run_writeSlot {P P' : Slot → Prop} {a b : Slot} (hP : ∀ x, x ≠ slot → P x → P' x)
    (r : Run cs.mdbNext P a b) : Run (cs.writeSlot slot c).mdbNext P' a b := by
  rw [w.writeSlot_mdbNext hs]
  exact (run_ne_null w hs r).mono fun x hx => hP x hx.1 hx.2

private lemma Covers.writeSlot {u t} (hu : u ≠ slot) (ht : t ≠ slot) (h : cs.Covers u t) :
    (cs.writeSlot slot c).Covers u t := by
  refine ⟨run_writeSlot w hs (fun x hx hin => ?_) h.run, ?_⟩
  · rwa [writeSlot_cap_of_ne hu, writeSlot_cap_of_ne hx]
  · rw [writeSlot_cap_of_ne hu, writeSlot_cap_of_ne ht]
    exact h.end_le

private lemma MemoryInv.writeSlot (m : cs.MemoryInv) (hw : WellFormed c)
    (hap : ∀ t, t ≠ slot → Apart pf c (cs.cap t)) : (cs.writeSlot slot c).MemoryInv := by
  have hno : ∀ {t}, t ≠ slot → ¬ Overlap ((cs.writeSlot slot c).cap slot) ((cs.writeSlot slot c).cap t) := by
    intro t ht
    rw [writeSlot_cap_self, writeSlot_cap_of_ne ht]
    exact (hap t ht).overlap
  refine ⟨fun s => ?_, fun s hu => ?_, fun s t hst hu ho => ?_, fun s t hst hu hu' ho => ?_⟩
  · by_cases e : s = slot
    · rw [e, writeSlot_cap_self]
      exact hw
    · rw [writeSlot_cap_of_ne e]
      exact m.wellFormed s
  · by_cases e : s = slot
    · subst e
      exact update_self ..
    · rw [writeSlot_cap_of_ne e] at hu
      exact (update_of_ne e ..).trans (m.revocable s hu)
  · by_cases es : s = slot
    · subst es
      exact absurd ho (hno hst.symm)
    by_cases et : t = slot
    · subst et
      exact absurd ho.symm (hno hst)
    rw [writeSlot_cap_of_ne es] at hu ho
    rw [writeSlot_cap_of_ne et] at ho ⊢
    exact (m.covers s t hst hu ho).imp (·.writeSlot w hs es et) fun h => ⟨h.1, h.2.writeSlot w hs et es⟩
  · by_cases es : s = slot
    · subst es
      exact absurd ho (hno hst.symm)
    by_cases et : t = slot
    · subst et
      exact absurd ho.symm (hno hst)
    rw [writeSlot_cap_of_ne es] at hu ho ⊢
    rw [writeSlot_cap_of_ne et] at hu' ho ⊢
    exact m.exclusive s t hst hu hu' ho

private lemma Contiguous.writeSlot {k} (hk : k = .schedControl 0 → pf.numNodes = 1) (h : cs.Contiguous k)
    (hap : ∀ t, t ≠ slot → Apart pf c (cs.cap t)) : (cs.writeSlot slot c).Contiguous k := by
  have hnew : ∀ {t}, t ≠ slot → objectOf c = some k → objectOf (cs.cap t) ≠ some k := by
    intro t ht hc e
    rcases (hap t ht).object (hc.trans e.symm) with h | ⟨h, hn⟩
    · rw [hc] at h
      cases h
    · rw [hc] at h
      cases h
      exact hn (hk rfl)
  intro s t hst hks hkt
  by_cases es : s = slot
  · subst es
    rw [writeSlot_cap_self] at hks
    rw [writeSlot_cap_of_ne hst.symm] at hkt
    exact absurd hkt (hnew hst.symm hks)
  by_cases et : t = slot
  · subst et
    rw [writeSlot_cap_self] at hkt
    rw [writeSlot_cap_of_ne hst] at hks
    exact absurd hks (hnew hst hkt)
  rw [writeSlot_cap_of_ne es] at hks
  rw [writeSlot_cap_of_ne et] at hkt
  have hrun : ∀ x, x ≠ slot → objectOf (cs.cap x) = some k → objectOf ((cs.writeSlot slot c).cap x) = some k := by
    intro x hx e
    rwa [writeSlot_cap_of_ne hx]
  exact (h s t hst hks hkt).imp (run_writeSlot w hs hrun) (run_writeSlot w hs hrun)

private lemma Lineage.writeSlot (l : cs.Lineage) : (cs.writeSlot slot c).Lineage := by
  have hfresh : ∀ t, cs.fresh ∉ cs.history t := fun t h => lt_irrefl _ (l.old t _ h)
  refine ⟨fun s h => ?_, fun s t hne e => ?_, fun s i hi => ?_, fun s t d => ?_⟩
  · by_cases e : s = slot
    · rw [e, writeSlot_history_self]
      nofun
    · rw [writeSlot_cap_of_ne e] at h
      rw [writeSlot_history_of_ne e]
      exact l.ne_nil s h
  · by_cases es : s = slot
    · by_cases et : t = slot
      · exact es.trans et.symm
      · rw [es, writeSlot_history_self, writeSlot_history_of_ne et] at e
        exact absurd (e ▸ List.mem_singleton_self _) (hfresh t)
    · rw [writeSlot_history_of_ne es] at hne e
      by_cases et : t = slot
      · rw [et, writeSlot_history_self] at e
        exact absurd (e.symm ▸ List.mem_singleton_self _) (hfresh s)
      · rw [writeSlot_history_of_ne et] at e
        exact l.inj s t hne e
  · change i < cs.fresh + 1
    by_cases e : s = slot
    · rw [e, writeSlot_history_self, List.mem_singleton] at hi
      exact hi ▸ Nat.lt_succ_self _
    · rw [writeSlot_history_of_ne e] at hi
      exact (l.old s i hi).trans (Nat.lt_succ_self _)
  · -- nothing is derived from the new capability, and it is derived from nothing
    by_cases es : s = slot
    · have hsuf := d.suffix
      have hne := d.ne
      rw [es, writeSlot_history_self] at hsuf hne
      by_cases et : t = slot
      · rw [et, writeSlot_history_self] at hne
        exact absurd rfl hne
      · rw [writeSlot_history_of_ne et] at hsuf
        exact absurd (hsuf.subset (List.mem_singleton_self _)) (hfresh t)
    by_cases et : t = slot
    · have hsuf := d.suffix
      have hnil := d.ne_nil
      have hne := d.ne
      rw [et, writeSlot_history_self] at hsuf hne
      rcases List.suffix_cons_iff.mp hsuf with h | h
      · exact absurd h hne
      · exact absurd (List.suffix_nil.mp h) hnil
    · have d' : cs.Derived s t := by
        obtain ⟨h1, h2, h3⟩ := d
        rw [writeSlot_history_of_ne es] at h1 h2 h3
        rw [writeSlot_history_of_ne et] at h2 h3
        exact ⟨h1, h2, h3⟩
      refine run_writeSlot w hs (fun x hx hf => ?_) (l.run s t d')
      rw [writeSlot_cap_of_ne es, writeSlot_cap_of_ne hx]
      exact (congrArg (fun fb => follows (cs.cap s) (cs.cap x) fb) (update_of_ne hx ..)).trans hf

end WriteSlot

private lemma TablesInv.writeSlot (ti : cs.TablesInv pf) {slot c} (hs : cs.cap slot = .null)
    (hl : ∃ t, Contains ((cs.writeSlot slot c).cap t) slot) (hh : ∀ irq, c ≠ .irqHandler irq)
    (hirq : ∀ irq, irq < pf.numIRQs → slot ≠ pf.irqSlot irq)
    (hout : ∀ irq, irq < pf.numIRQs → capIsPhysical c = true → capPtr c ≤ pf.irqSlot irq →
      regionEnd c ≤ pf.irqSlot irq) : (cs.writeSlot slot c).TablesInv pf := by
  refine ⟨?_, fun s h => ?_, fun s irq e => ?_, fun irq hi h => ?_, fun s irq hi hp hle => ?_⟩
  · refine (ti.finite.insert slot).subset fun s h => ?_
    by_cases e : s = slot
    · exact .inl e
    · change (cs.writeSlot slot c).cap s ≠ .null at h
      rw [writeSlot_cap_of_ne e] at h
      exact .inr h
  · by_cases e : s = slot
    · exact .inr (e ▸ hl)
    · rw [writeSlot_cap_of_ne e] at h
      rcases ti.located s h with h' | ⟨t, ht⟩
      · exact .inl h'
      · have hts : t ≠ slot := by
          rintro rfl
          exact ht.ne_null hs
        exact .inr ⟨t, by rwa [writeSlot_cap_of_ne hts]⟩
  · by_cases es : s = slot
    · rw [es, writeSlot_cap_self] at e
      exact absurd e (hh irq)
    · rw [writeSlot_cap_of_ne es] at e
      exact ti.irqHandler s irq e
  · rw [writeSlot_cap_of_ne (hirq irq hi).symm] at h ⊢
    exact ti.irqSlot irq hi h
  · by_cases e : s = slot
    · rw [e, writeSlot_cap_self] at hp hle ⊢
      exact hout irq hi hp hle
    · rw [writeSlot_cap_of_ne e] at hp hle ⊢
      exact ti.outside s irq hi hp hle

/-- Writing a capability to a new object into an empty slot of a table. -/
lemma Inv.writeSlot (i : Inv pf cs) {slot c} (hs : cs.cap slot = .null) (hc : c ≠ .null)
    (hw : WellFormed c) (hap : ∀ t, t ≠ slot → Apart pf c (cs.cap t))
    (hl : ∃ t, Contains ((cs.writeSlot slot c).cap t) slot) (hh : ∀ irq, c ≠ .irqHandler irq)
    (hirq : ∀ irq, irq < pf.numIRQs → slot ≠ pf.irqSlot irq)
    (hout : ∀ irq, irq < pf.numIRQs → capIsPhysical c = true → capPtr c ≤ pf.irqSlot irq →
      regionEnd c ≤ pf.irqSlot irq) : Inv pf (cs.writeSlot slot c) where
  linked := i.linked.writeSlot hs hc
  memory := i.memory.writeSlot i.linked hs hw hap
  contiguous k hk := (i.contiguous k hk).writeSlot i.linked hs hk hap
  lineage := i.lineage.writeSlot i.linked hs
  tables := i.tables.writeSlot hs hl hh hirq hout

lemma apart_null (c : Cap) : Apart pf c .null where
  overlap h := nomatch h.phys_right
  object e := .inl e

/-- Before the boot code writes anything. -/
lemma inv_empty (table : Nat → IRQState) (masked : Nat → Bool) :
    Inv pf { CSpace.empty with intStateIRQTable := table, irqMasked := masked } where
  linked := by
    exact ⟨⟨fun a b => ⟨nofun, nofun⟩, fun _ => 0, nofun⟩, fun s _ => ⟨rfl, rfl⟩⟩
  memory := ⟨fun _ => nofun, nofun, nofun, fun _ _ _ _ _ h => nomatch h.phys_left⟩
  contiguous := fun k _ s t _ h => nomatch h
  lineage := ⟨fun _ h => absurd rfl h, fun _ _ h => absurd rfl h, nofun, fun _ _ d => absurd rfl d.ne_nil⟩
  tables := by
    refine ⟨?_, fun s h => absurd rfl h, nofun, fun _ _ h => absurd rfl h, nofun⟩
    exact Set.finite_empty.subset fun s h => absurd rfl h

/-- What a list of capabilities must satisfy to be written into the root CNode. -/
structure Writable (pf : Platform) (radix : Nat) (c : Nat × Cap) : Prop where
  pos_lt : c.1 < 2 ^ radix
  ne_null : c.2 ≠ .null
  wellFormed : WellFormed c.2
  handler : ∀ irq, c.2 ≠ .irqHandler irq
  outside : ∀ irq, irq < pf.numIRQs → capIsPhysical c.2 = true → capPtr c.2 ≤ pf.irqSlot irq →
    regionEnd c.2 ≤ pf.irqSlot irq

/-- The slots of the root CNode have been written so far. -/
structure Written (pf : Platform) (radix cnode : Nat) (caps : List (Nat × Cap)) (cs : CSpace) : Prop where
  inv : Inv pf cs
  root : ∃ t g s, cs.cap t = .cnode radix g s cnode
  cap : ∀ c ∈ caps, cs.cap (slotAt cnode c.1) = c.2
  only : ∀ t, cs.cap t ≠ .null → ∃ c ∈ caps, t = slotAt cnode c.1

lemma Written.writeSlot {radix cnode caps c} (h : Written pf radix cnode caps cs) (hc : Writable pf radix c)
    (hnew : ∀ d ∈ caps, d.1 ≠ c.1 ∧ Apart pf d.2 c.2) :
    Written pf radix cnode (caps ++ [c]) (cs.writeSlot (slotAt cnode c.1) c.2) := by
  have hs : cs.cap (slotAt cnode c.1) = .null := by
    by_contra hne
    obtain ⟨d, hd, e⟩ := h.only _ hne
    exact (hnew d hd).1 (slotAt_inj e).symm
  obtain ⟨r, g, s, hr⟩ := h.root
  have hrne : r ≠ slotAt cnode c.1 := by
    rintro rfl
    rw [hr] at hs
    cases hs
  have hcont : Contains (cs.cap r) (slotAt cnode c.1) := by
    rw [hr]
    exact ⟨c.1, hc.pos_lt, rfl⟩
  refine ⟨?_, ⟨r, g, s, ?_⟩, fun d hd => ?_, fun t ht => ?_⟩
  · refine h.inv.writeSlot hs hc.ne_null hc.wellFormed (fun t ht => ?_) ⟨r, ?_⟩ hc.handler
      (fun irq hi => h.inv.tables.ne_irqSlot h.inv.memory.wellFormed hcont hi) hc.outside
    · by_cases hn : cs.cap t = .null
      · rw [hn]
        exact apart_null c.2
      · obtain ⟨d, hd, rfl⟩ := h.only t hn
        rw [h.cap d hd]
        exact (hnew d hd).2.symm
    · rwa [writeSlot_cap_of_ne hrne]
  · rwa [writeSlot_cap_of_ne hrne]
  · rcases List.mem_append.mp hd with hd | hd
    · have hne : slotAt cnode d.1 ≠ slotAt cnode c.1 := fun e => (hnew d hd).1 (slotAt_inj e)
      rw [writeSlot_cap_of_ne hne]
      exact h.cap d hd
    · rw [List.mem_singleton.mp hd]
      exact writeSlot_cap_self
  · by_cases e : t = slotAt cnode c.1
    · exact ⟨c, List.mem_append_right _ (List.mem_singleton_self c), e⟩
    · rw [writeSlot_cap_of_ne e] at ht
      obtain ⟨d, hd, e⟩ := h.only t ht
      exact ⟨d, List.mem_append_left _ hd, e⟩

lemma Written.writeSlots {radix cnode caps caps'} (h : Written pf radix cnode caps cs)
    (hgood : ∀ c ∈ caps', Writable pf radix c)
    (hpw : (caps ++ caps').Pairwise fun c d => c.1 ≠ d.1 ∧ Apart pf c.2 d.2) :
    Written pf radix cnode (caps ++ caps') (cs.writeSlots cnode caps') := by
  induction caps' generalizing caps cs with
  | nil =>
    rw [List.append_nil]
    exact h
  | cons c caps' ih =>
    have hnew : ∀ d ∈ caps, d.1 ≠ c.1 ∧ Apart pf d.2 c.2 := fun d hd =>
      (List.pairwise_append.mp hpw).2.2 d hd c List.mem_cons_self
    rw [List.append_cons] at hpw ⊢
    exact ih (h.writeSlot (hgood c List.mem_cons_self) hnew)
      (fun d hd => hgood d (List.mem_cons_of_mem c hd)) hpw

/-- Two capabilities of the boot code name one object only if that is the control of the schedulers. -/
private def NamesApart (pf : Platform) (c d : Cap) : Prop :=
  capIsPhysical c = false → objectOf c = objectOf d →
    objectOf c = none ∨ objectOf c = some (.schedControl 0) ∧ pf.numNodes ≠ 1

private lemma apart_of_names {c d : Cap} (ho : ¬ Overlap c d) (h : NamesApart pf c d) : Apart pf c d := by
  refine ⟨ho, fun e => ?_⟩
  cases hp : capIsPhysical c with
  | false => exact h hp e
  | true =>
    by_contra hn
    have hsome : objectOf c ≠ none := fun e => hn (.inl e)
    exact ho (((sameRegion_of_objectOf e hsome).inside hp).overlap hp)

variable {b : BootInfo}

private lemma initialCap_namesApart {s t} (h : s ≠ t) : NamesApart pf (b.initialCap s) (b.initialCap t) := by
  intro hp e
  cases s <;> cases hp <;> cases t <;> first | exact absurd rfl h | cases e

/-- The capabilities that are provided. -/
private lemma providedCaps_cases {n c} (h : c ∈ b.providedCaps n) :
    (∃ t, c = BootInfo.itPageTableCap t) ∨ (∃ f, c = BootInfo.itFrameCap f) ∨ (∃ i, c = .schedControl i) ∨
      ∃ dev size ptr, c = .untyped (maxFreeIndex size) dev size ptr := by
  simp only [BootInfo.providedCaps, List.mem_append, List.mem_map] at h
  rcases h with (((⟨t, -, rfl⟩ | ⟨f, -, rfl⟩) | ⟨i, -, rfl⟩) | ⟨f, -, rfl⟩) | ⟨u, -, rfl⟩
  · exact .inl ⟨t, rfl⟩
  · exact .inr (.inl ⟨f, rfl⟩)
  · exact .inr (.inr (.inl ⟨i, rfl⟩))
  · exact .inr (.inl ⟨f, rfl⟩)
  · exact .inr (.inr (.inr ⟨u.1, u.2.1, u.2.2, rfl⟩))

private lemma namesApart_of_physical {l : List Cap} (h : ∀ c ∈ l, capIsPhysical c = true) {c d}
    (hc : c ∈ l) : NamesApart pf c d := by
  intro hp
  rw [h c hc] at hp
  cases hp

private lemma provided_namesApart : (b.providedCaps pf.numNodes).Pairwise (NamesApart pf) := by
  have hall : ∀ {l : List Cap}, (∀ c ∈ l, capIsPhysical c = true) → l.Pairwise (NamesApart pf) := fun h =>
    List.Pairwise.imp_of_mem (fun hc _ _ => namesApart_of_physical h hc)
      (List.pairwise_of_forall fun _ _ => trivial)
  have hbefore : ∀ c ∈ b.paging.map BootInfo.itPageTableCap ++ b.extraBi.map BootInfo.itFrameCap,
      capIsPhysical c = true := by
    intro c hc
    simp only [List.mem_append, List.mem_map] at hc
    rcases hc with ⟨_, -, rfl⟩ | ⟨_, -, rfl⟩ <;> rfl
  have hframes : ∀ c ∈ b.userImage.map BootInfo.itFrameCap, capIsPhysical c = true := by
    intro c hc
    obtain ⟨_, -, rfl⟩ := List.mem_map.mp hc
    rfl
  have huntypeds : ∀ c ∈ b.untypeds.map fun u => Cap.untyped (maxFreeIndex u.2.1) u.1 u.2.1 u.2.2,
      capIsPhysical c = true := by
    intro c hc
    obtain ⟨_, -, rfl⟩ := List.mem_map.mp hc
    rfl
  have hcores : ((List.range pf.numNodes).map Cap.schedControl).Pairwise (NamesApart pf) := by
    rw [List.pairwise_map]
    refine List.pairwise_lt_range.imp_of_mem fun {i j} _ hj hlt _ _ => .inr ⟨rfl, ?_⟩
    have := List.mem_range.mp hj
    omega
  unfold BootInfo.providedCaps
  rw [List.pairwise_append, List.pairwise_append, List.pairwise_append]
  refine ⟨⟨⟨hall hbefore, hcores, fun c hc d _ => namesApart_of_physical hbefore hc⟩, hall hframes,
    fun c hc d hd => ?_⟩, hall huntypeds, fun c hc d hd => ?_⟩
  · rcases List.mem_append.mp hc with hc | hc
    · exact namesApart_of_physical hbefore hc
    · obtain ⟨_, -, rfl⟩ := List.mem_map.mp hc
      obtain ⟨_, -, rfl⟩ := List.mem_map.mp hd
      exact fun _ => nofun
  · rcases List.mem_append.mp hc with hc | hc
    · rcases List.mem_append.mp hc with hc | hc
      · exact namesApart_of_physical hbefore hc
      · obtain ⟨_, -, rfl⟩ := List.mem_map.mp hc
        obtain ⟨_, -, rfl⟩ := List.mem_map.mp hd
        exact fun _ => nofun
    · exact namesApart_of_physical hframes hc

private lemma fixed_provided_namesApart {n s d} (h : d ∈ b.providedCaps n) :
    NamesApart pf (b.initialCap s) d := by
  intro hp e
  rcases providedCaps_cases h with ⟨_, rfl⟩ | ⟨_, rfl⟩ | ⟨_, rfl⟩ | ⟨_, _, _, rfl⟩ <;> cases s <;>
    first | cases hp; done | cases e; done | exact .inl rfl

private lemma mem_initialCaps {n c} (h : c ∈ b.initialCaps n) :
    (∃ s, c = (s.pos, b.initialCap s)) ∨
      ∃ i < (b.providedCaps n).length, c.1 = numInitialCaps + i ∧ c.2 ∈ b.providedCaps n := by
  simp only [BootInfo.initialCaps, List.mem_append, List.mem_map] at h
  rcases h with ⟨s, -, rfl⟩ | ⟨d, hd, rfl⟩
  · exact .inl ⟨s, rfl⟩
  · obtain ⟨-, hlt, e⟩ := List.mem_zipIdx hd
    exact .inr ⟨d.2, by omega, rfl, e ▸ List.getElem_mem _⟩

lemma RootCNodeCapSlot.pos_lt (s : RootCNodeCapSlot) : s.pos < numInitialCaps := by
  cases s <;> decide

/-- The boot code writes every slot once. -/
private lemma initialCaps_pairwise_pos (n) : (b.initialCaps n).Pairwise fun c d => c.1 ≠ d.1 := by
  unfold BootInfo.initialCaps
  rw [List.pairwise_append]
  refine ⟨?_, ?_, fun c hc d hd => ?_⟩
  · rw [List.pairwise_map]
    exact (by decide : BootInfo.fixedSlots.Pairwise fun s t => s.pos ≠ t.pos)
  · rw [List.pairwise_map]
    have h : (((b.providedCaps n).zipIdx).map Prod.snd).Pairwise (· ≠ ·) := by
      rw [List.zipIdx_map_snd]
      exact List.nodup_range'
    rw [List.pairwise_map] at h
    exact h.imp fun hne e => hne (Nat.add_left_cancel e)
  · obtain ⟨s, -, rfl⟩ := List.mem_map.mp hc
    obtain ⟨p, -, rfl⟩ := List.mem_map.mp hd
    have := RootCNodeCapSlot.pos_lt s
    change s.pos ≠ numInitialCaps + p.2
    omega

private lemma initialCaps_namesApart :
    (b.initialCaps pf.numNodes).Pairwise fun c d => NamesApart pf c.2 d.2 := by
  unfold BootInfo.initialCaps
  rw [List.pairwise_append]
  refine ⟨?_, ?_, fun c hc d hd => ?_⟩
  · rw [List.pairwise_map]
    exact (by decide : BootInfo.fixedSlots.Pairwise fun s t => s ≠ t).imp initialCap_namesApart
  · rw [List.pairwise_map]
    have h := @provided_namesApart pf b
    rw [← List.zipIdx_map_fst 0 (b.providedCaps pf.numNodes), List.pairwise_map] at h
    exact h
  · obtain ⟨s, -, rfl⟩ := List.mem_map.mp hc
    obtain ⟨p, hp, rfl⟩ := List.mem_map.mp hd
    obtain ⟨-, -, e⟩ := List.mem_zipIdx hp
    exact fixed_provided_namesApart (e ▸ List.getElem_mem _)

lemma initialCaps_writable (v : b.Valid pf) {c} (h : c ∈ b.initialCaps pf.numNodes) :
    Writable pf b.rootCNodeSizeBits c := by
  have hroom := v.room
  refine ⟨?_, ?_, v.wellFormed c h, ?_, v.outside c h⟩
  · rcases mem_initialCaps h with ⟨s, rfl⟩ | ⟨i, hi, e, -⟩
    · exact (RootCNodeCapSlot.pos_lt s).trans_le ((Nat.le_add_right _ _).trans hroom)
    · omega
  · rcases mem_initialCaps h with ⟨s, rfl⟩ | ⟨i, -, -, hc⟩
    · cases s <;> nofun
    · rcases providedCaps_cases hc with ⟨_, e⟩ | ⟨_, e⟩ | ⟨_, e⟩ | ⟨_, _, _, e⟩ <;> rw [e] <;> nofun
  · intro irq
    rcases mem_initialCaps h with ⟨s, rfl⟩ | ⟨i, -, -, hc⟩
    · cases s <;> nofun
    · rcases providedCaps_cases hc with ⟨_, e⟩ | ⟨_, e⟩ | ⟨_, e⟩ | ⟨_, _, _, e⟩ <;> rw [e] <;> nofun

/-- The root CNode holds its own capability first. -/
private lemma initialCaps_eq_cons (n) : ∃ caps, b.initialCaps n =
    (RootCNodeCapSlot.initThreadCNode.pos, b.rootCNodeCap) :: caps :=
  ⟨_, rfl⟩

/-- Setting up the interrupts leaves the slots alone. -/
lemma setIRQStates_eq (states : List (IRQState × Nat)) (cs : CSpace) :
    ∃ table masked, cs.setIRQStates states = { cs with intStateIRQTable := table, irqMasked := masked } := by
  induction states generalizing cs with
  | nil => exact ⟨_, _, rfl⟩
  | cons s states ih =>
    obtain ⟨table, masked, e⟩ := ih (cs.setIRQState s.1 s.2)
    exact ⟨table, masked, e⟩

/-- The capabilities of the initial thread are written one by one. -/
lemma written_initialCaps (v : b.Valid pf) (states : List (IRQState × Nat)) :
    Written pf b.rootCNodeSizeBits b.cnode (b.initialCaps pf.numNodes)
      ((CSpace.empty.setIRQStates states).writeSlots b.cnode (b.initialCaps pf.numNodes)) := by
  obtain ⟨table, masked, estates⟩ := setIRQStates_eq states CSpace.empty
  rw [estates]
  have hgood := fun c (h : c ∈ b.initialCaps pf.numNodes) => initialCaps_writable v h
  have hpw : (b.initialCaps pf.numNodes).Pairwise fun c d => c.1 ≠ d.1 ∧ Apart pf c.2 d.2 :=
    (initialCaps_pairwise_pos _).and ((v.disjoint.and initialCaps_namesApart).imp fun h =>
      apart_of_names h.1 h.2)
  obtain ⟨caps, e⟩ := @initialCaps_eq_cons b pf.numNodes
  rw [e] at hgood hpw ⊢
  have hroot := hgood _ List.mem_cons_self
  let slot := slotAt b.cnode RootCNodeCapSlot.initThreadCNode.pos
  let cs0 : CSpace := { CSpace.empty with intStateIRQTable := table, irqMasked := masked }
  have hcont : Contains b.rootCNodeCap slot := ⟨_, hroot.pos_lt, rfl⟩
  have hirq : ∀ irq, irq < pf.numIRQs → slot ≠ pf.irqSlot irq := by
    intro irq hi e
    obtain ⟨hp, hle, hlt⟩ := hcont.mem_region hroot.wellFormed
    rw [e] at hle hlt
    exact absurd (hroot.outside irq hi hp hle) (not_le.mpr hlt)
  have hself : (cs0.writeSlot slot b.rootCNodeCap).cap slot = b.rootCNodeCap := writeSlot_cap_self
  have i : Inv pf (cs0.writeSlot slot b.rootCNodeCap) := by
    refine (inv_empty table masked).writeSlot rfl nofun hroot.wellFormed (fun t _ => apart_null _)
      ⟨slot, ?_⟩ nofun hirq hroot.outside
    rw [hself]
    exact hcont
  have first : Written pf b.rootCNodeSizeBits b.cnode
      [(RootCNodeCapSlot.initThreadCNode.pos, b.rootCNodeCap)] (cs0.writeSlot slot b.rootCNodeCap) := by
    refine ⟨i, ⟨slot, _, _, hself⟩, fun c hc => ?_, fun t ht => ?_⟩
    · rw [List.mem_singleton.mp hc]
      exact hself
    · by_contra hne
      refine ht (writeSlot_cap_of_ne fun e => hne ?_)
      exact ⟨_, List.mem_singleton_self _, e⟩
  exact first.writeSlots (fun c hc => hgood c (List.mem_cons_of_mem _ hc)) hpw

/-- `cteInsert` of a copy of a capability that is not untyped only writes the destination. -/
lemma cteInsert_cap (w : cs.WellLinked) {src dest c cs'} (hd : cs.cap dest = .null)
    (hs : cs.cap src ≠ .null) (hu : isUntyped (cs.cap src) = false) (h : cs.cteInsert c src dest = .ok cs') :
    cs'.cap = update cs.cap dest c := by
  rw [cteInsert_eq cs w c hd hs, setUntypedCapAsFull_eq] at h
  have e : markFull (cs.cap src) c = cs.cap src := by
    cases hc : cs.cap src with
    | untyped =>
      rw [hc] at hu
      cases hu
    | _ => rfl
  rw [e, setCap_same] at h
  cases h
  rfl

/-- The TCB of the initial thread is being filled. -/
structure Starting (pf : Platform) (b : BootInfo) (free : TcbCNodeIndex → Prop) (cs : CSpace) : Prop where
  inv : Inv pf cs
  root : ∀ s, cs.cap (b.rootSlot s) = b.initialCap s
  null : ∀ i, free i → cs.cap (b.tcbSlot i) = .null

lemma TcbCNodeIndex.pos_lt (i : TcbCNodeIndex) : i.pos < tcbArchCNodeEntries := by
  cases i <;> decide

private lemma TcbCNodeIndex.pos_inj {i j : TcbCNodeIndex} (h : i.pos = j.pos) : i = j := by
  cases i <;> cases j <;> first | rfl | cases h

private lemma tcbPtrCtePtr_tcb (v : b.Valid pf) : tcbPtrCtePtr (b.tcb + tcbOffset) = b.tcb := by
  obtain ⟨k, hk⟩ := v.tcb_aligned
  rw [hk]
  change 2 ^ 11 * k + 2 ^ 10 - (2 ^ 11 * k + 2 ^ 10) % 2 ^ 11 = 2 ^ 11 * k
  omega

lemma contains_tcbSlot (v : b.Valid pf) (i) :
    Contains (b.initialCap .initThreadTCB) (b.tcbSlot i) := by
  refine ⟨i.pos, TcbCNodeIndex.pos_lt i, ?_⟩
  change slotAt b.tcb i.pos = slotAt (tcbPtrCtePtr (b.tcb + tcbOffset)) i.pos
  rw [tcbPtrCtePtr_tcb v]

/-- One slot of the TCB of the initial thread is filled. -/
lemma Starting.step (v : b.Valid pf) {free s c i} (h : Starting pf b free cs)
    (hc : Copies (b.initialCap s) c) (hi : free i) :
    ∃ cs', cs.cteInsert c (b.rootSlot s) (b.tcbSlot i) = .ok cs' ∧
      Starting pf b (fun j => free j ∧ j ≠ i) cs' := by
  have hcont : Contains (cs.cap (b.rootSlot .initThreadTCB)) (b.tcbSlot i) := by
    rw [h.root]
    exact contains_tcbSlot v i
  have hs : cs.cap (b.rootSlot s) ≠ .null := by
    rw [h.root]
    cases s <;> nofun
  have hu : isUntyped (cs.cap (b.rootSlot s)) = false := by
    rw [h.root]
    cases s <;> rfl
  obtain ⟨cs', hins, inv⟩ := h.inv.cteInsert (h.null i hi) (by rwa [h.root]) (fun hu' => by
    rw [hu] at hu'
    cases hu') (.inr ⟨_, hcont⟩) fun irq hirq e =>
      absurd e (h.inv.tables.ne_irqSlot h.inv.memory.wellFormed hcont hirq)
  have hcap := cteInsert_cap h.inv.linked (h.null i hi) hs hu hins
  refine ⟨cs', hins, inv, fun t => ?_, fun j hj => ?_⟩
  · have hne : b.rootSlot t ≠ b.tcbSlot i := by
      intro e
      have h1 := h.root t
      rw [e, h.null i hi] at h1
      cases t <;> cases h1
    rw [hcap, update_of_ne hne, h.root]
  · have hne : b.tcbSlot j ≠ b.tcbSlot i := fun e => hj.2 (TcbCNodeIndex.pos_inj (slotAt_inj e))
    rw [hcap, update_of_ne hne]
    exact h.null j hj.1

/-- What every slot that is filled preserves holds after the slots of the TCB are filled. -/
lemma createInitialThread_ok (v : b.Valid pf) (h : Starting pf b (fun _ => True) cs) {P : CSpace → Prop} (hP : P cs)
    (hstep : ∀ {free s c i cs cs'}, Starting pf b free cs → cs.cteInsert c (b.rootSlot s) (b.tcbSlot i) = .ok cs' →
      P cs → P cs') : ∃ cs', createInitialThread b cs = .ok cs' ∧ Inv pf cs' ∧ P cs' := by
  have hcnode : Copies (b.initialCap .initThreadCNode) b.rootCNodeCap := .cnode ..
  have hvspace : Copies (b.initialCap .initThreadVSpace) (b.initialCap .initThreadVSpace) := .vspace ..
  have hframe : Copies (b.initialCap .initThreadIPCBuffer)
      (.arch (.frame asidInvalid b.ipcBuf.1 .small b.ipcBuf.2 .readWrite false)) := .frame
  obtain ⟨cs1, e1, h1⟩ := h.step v (i := .tcbCTable) hcnode trivial
  obtain ⟨cs2, e2, h2⟩ := h1.step v (i := .tcbVTable) hvspace ⟨trivial, nofun⟩
  obtain ⟨cs3, e3, h3⟩ := h2.step v (i := .tcbBuffer) hframe ⟨⟨trivial, nofun⟩, nofun⟩
  exact ⟨cs3, bind_eq_ok.mpr ⟨cs1, e1, bind_eq_ok.mpr ⟨cs2, e2, e3⟩⟩, h3.inv,
    hstep h2 e3 (hstep h1 e2 (hstep h e1 hP))⟩

lemma Written.rootSlot (h : Written pf b.rootCNodeSizeBits b.cnode (b.initialCaps pf.numNodes) cs) (s) :
    cs.cap (b.rootSlot s) = b.initialCap s := by
  refine h.cap (s.pos, b.initialCap s) (List.mem_append_left _ (List.mem_map.mpr ⟨s, ?_, rfl⟩))
  cases s <;> decide

/-- The TCB is not in the root CNode. -/
lemma Written.tcbSlot (v : b.Valid pf)
    (h : Written pf b.rootCNodeSizeBits b.cnode (b.initialCaps pf.numNodes) cs) (i) :
    cs.cap (b.tcbSlot i) = .null := by
  by_contra hne
  obtain ⟨c, hc, e⟩ := h.only _ hne
  have htcb := contains_tcbSlot v i
  rw [← h.rootSlot] at htcb
  have hcn : Contains (cs.cap (b.rootSlot .initThreadCNode)) (b.tcbSlot i) := by
    rw [h.rootSlot]
    exact ⟨c.1, (initialCaps_writable v hc).pos_lt, e⟩
  obtain ⟨p, hp⟩ := htcb.mem_region (h.inv.memory.wellFormed _)
  obtain ⟨q, hq⟩ := hcn.mem_region (h.inv.memory.wellFormed _)
  have hslots : b.rootSlot .initThreadTCB ≠ b.rootSlot .initThreadCNode := fun e =>
    absurd (slotAt_inj e) (by decide)
  have hex := h.inv.memory.exclusive _ _ hslots (by rw [h.rootSlot]; rfl) (by rw [h.rootSlot]; rfl)
    (overlap_of_mem p q hp hq)
  rw [h.rootSlot, h.rootSlot] at hex
  cases hex.1

lemma Written.starting (v : b.Valid pf) (h : Written pf b.rootCNodeSizeBits b.cnode (b.initialCaps pf.numNodes) cs) :
    Starting pf b (fun _ => True) cs :=
  ⟨h.inv, h.rootSlot, fun i _ => h.tcbSlot v i⟩

/-- The boot code leaves a CSpace that satisfies the invariant. -/
lemma boot_inv (v : b.Valid pf) : ∃ cs, boot pf b = .ok cs ∧ Inv pf cs := by
  obtain ⟨cs, e, i, -⟩ := createInitialThread_ok v ((written_initialCaps v (b.irqStates pf)).starting v)
    (P := fun _ => True) trivial fun _ _ => id
  exact ⟨cs, e, i⟩

end CSpace

/-- A small machine with some cores. -/
def armVirt (numNodes : Nat) : Platform where
  numNodes := numNodes
  numIRQs := 160
  intStateIRQNode := 0x80000f0000

/-- Its memory: a root CNode with 4096 slots, a page for the user image, and a page that is left. -/
def armVirtBoot : BootInfo where
  rootCNodeSizeBits := 12
  cnode := 0x8040000000
  vspace := 0x8040020000
  asidPool := 0x8040022000
  ipcBuf := (0x8040023000, 0x202000)
  bootInfo := (0x8040024000, 0x203000)
  tcb := 0x8040027000
  sc := 0x8040027800
  paging := [(0x8040025000, 0x200000), (0x8040026000, 0x200000)]
  extraBi := []
  userImage := [(0x8050000000, 0x200000)]
  untypeds := [(false, 12, 0x8060000000)]
  timerIRQs := [26]
  ipiIRQs := []
  reservedIRQs := [25, 27]

lemma armVirtBoot_valid : armVirtBoot.Valid (armVirt 1) ∧ armVirtBoot.Valid (armVirt 2) := by
  refine ⟨⟨?_, ?_, ?_, ?_, ?_⟩, ⟨?_, ?_, ?_, ?_, ?_⟩⟩ <;> decide +kernel

namespace CSpace

/-- The initial CSpace, when booting succeeds. -/
def bootState (pf : Platform) (b : BootInfo) : CSpace :=
  match boot pf b with
  | .ok cs => cs
  | .error _ => CSpace.empty

lemma boot_eq {pf : Platform} {b : BootInfo} (v : b.Valid pf) : boot pf b = .ok (bootState pf b) := by
  obtain ⟨cs, e, -⟩ := boot_inv v
  rw [bootState, e]

end CSpace

end NexsKernel
