import NexsKernel.Vspace.Mapping

/-!
# The steps keep the invariant

What an accepted invocation was checked for is what the lemmas about mapping and unmapping ask for. A capability that
is copied keeps its mapping if it stands for a table, a VSpace or a pool, and loses it if it stands for a frame.
-/

namespace NexsKernel.Vspace

open Function (update update_self update_of_ne)

/-! ## Capabilities -/

section Caps

variable {cfg : VspaceConfig} {s s' : State}

/-- A copy of a capability agrees with it, and with what agrees with it. -/
lemma derived_coherent {rights : CapRights} {src c : Cap} {a : ArchCap} (hm : maskCapRights rights src = .arch a)
    (hd : CSpace.archDeriveCap a = .ok c) :
    (¬Plain c → ¬Plain src ∧ capPtr src = capPtr c ∧ Coherent c src ∧ ∀ c', Coherent src c' → Coherent c c') ∧
      (∀ p, ¬Unmapped c p) ∧ ∀ asid base size addr rights dev, c = .arch (.frame asid base size addr rights dev) →
        asid = asidInvalid := by
  cases src with
  | arch b =>
    cases b with
    | frame asid base size addr vmRights dev =>
      obtain rfl := Cap.arch.inj hm
      obtain rfl := Except.ok.inj hd
      refine ⟨fun _ => ⟨id, rfl, .frame .., fun c' h => ?_⟩, fun _ => id, ?_⟩
      · cases h
        exact .frame ..
      · intro _ _ _ _ _ _ e
        injection e with e
        injection e with e
        exact e.symm
    | pageTable asid base m addr =>
      obtain rfl := Cap.arch.inj hm
      cases m with
      | false => cases hd
      | true =>
        obtain rfl := Except.ok.inj hd
        exact ⟨fun _ => ⟨id, rfl, .pageTable .., fun _ h => h⟩, fun _ => id, nofun⟩
    | vspace asid base m =>
      obtain rfl := Cap.arch.inj hm
      cases m with
      | false => cases hd
      | true =>
        obtain rfl := Except.ok.inj hd
        exact ⟨fun _ => ⟨id, rfl, .vspace .., fun _ h => h⟩, fun _ => id, nofun⟩
    | asidPool base pool =>
      obtain rfl := Cap.arch.inj hm
      obtain rfl := Except.ok.inj hd
      exact ⟨fun _ => ⟨id, rfl, .asidPool .., fun _ h => h⟩, fun _ => id, nofun⟩
    | _ =>
      obtain rfl := Cap.arch.inj hm
      obtain rfl := Except.ok.inj hd
      exact ⟨fun h => absurd trivial h, fun _ => id, nofun⟩
  | _ => cases hm

lemma State.Inv.copy (i : s.Inv cfg) {src dest : Slot} {rights : CapRights} {a : ArchCap} {c : Cap}
    (hdest : s.cap dest = .null) (hm : maskCapRights rights (s.cap src) = .arch a)
    (hd : CSpace.archDeriveCap a = .ok c) : (s.setCap dest c).Inv cfg := by
  obtain ⟨hco, hun, hasid⟩ := derived_coherent hm hd
  refine i.of_caps ?_ rfl rfl rfl fun c' hc' hh => State.holds_setCap hh ?_
  · refine i.toCapsInv.setCap (fun hp t hne hpt hptr => ?_) (fun p h => absurd h (hun p)) ?_
    · obtain ⟨hps, hptr', hself, htrans⟩ := hco hp
      by_cases e : t = src
      · exact e ▸ hself
      · exact htrans _ (i.coherent src t (Ne.symm e) hps hpt (hptr'.trans hptr.symm))
    · intro _ _ _ _ _ _ e hne
      exact absurd (hasid _ _ _ _ _ _ e) hne
  · rw [hdest]
    rintro rfl
    exact hc' trivial

/-- Capabilities change places. -/
lemma State.Inv.rename (i : s.Inv cfg) (f : Equiv.Perm Slot) {cap : Slot → Cap}
    (hcap : ∀ t, ¬Plain (cap t) ∨ ¬Plain (s.cap (f t)) → cap t = s.cap (f t)) :
    State.Inv cfg { s with cap := cap } := by
  refine i.of_caps ?_ rfl rfl rfl ?_
  · exact i.toCapsInv.of_rename rfl (fun t h => hcap t (.inl h)) fun _ _ _ _ e => f.injective e
  · rintro c hc ⟨t, rfl⟩
    refine ⟨f.symm t, ?_⟩
    have e := hcap (f.symm t) (.inr (by rwa [f.apply_symm_apply]))
    rwa [f.apply_symm_apply] at e

lemma State.Inv.swap (i : s.Inv cfg) (slot1 slot2 : Slot) :
    ((s.setCap slot1 (s.cap slot2)).setCap slot2 (s.cap slot1)).Inv cfg := by
  refine i.rename (Equiv.swap slot1 slot2) fun t _ => ?_
  by_cases e2 : t = slot2
  · subst e2
    rw [update_self, Equiv.swap_apply_right]
  · rw [update_of_ne e2]
    by_cases e1 : t = slot1
    · subst e1
      rw [Equiv.swap_apply_left]
      exact update_self ..
    · rw [Equiv.swap_apply_of_ne_of_ne e1 e2]
      exact update_of_ne e1 ..

lemma State.Inv.move (i : s.Inv cfg) {src dest : Slot} (hdest : s.cap dest = .null) :
    ((s.setCap dest (s.cap src)).setCap src .null).Inv cfg := by
  have := i.swap dest src
  rwa [hdest] at this

/-- Capabilities that mappings do not depend on. -/
lemma State.Inv.other (i : s.Inv cfg) {slot : Slot} {c : Cap} (hs : Plain (s.cap slot)) (hc : Plain c) :
    (s.setCap slot c).Inv cfg := by
  refine i.of_caps (i.toCapsInv.setPlain slot hc) rfl rfl rfl fun c' hc' hh => State.holds_setCap hh ?_
  rintro rfl
  exact hc' hs

lemma Created.spec {c : Cap} {table : Option Ptr} (h : Created c table) :
    (∀ p, Unmapped c p → table = some p) ∧
      ∀ asid base size addr rights dev, c = .arch (.frame asid base size addr rights dev) → asid = asidInvalid := by
  cases h with
  | frame base size rights dev =>
    refine ⟨fun _ h => h.elim, ?_⟩
    intro _ _ _ _ _ _ e
    injection e with e
    injection e with e
    exact e.symm
  | pageTable base | vspace base => exact ⟨fun _ h => congrArg some h, nofun⟩

lemma clearTable_loses (s : State) (table : Option Ptr) : Loses s (s.clearTable table) := by
  cases table with
  | none => exact .refl s
  | some base => exact .clearMemoryPT s base

lemma State.Inv.retype (i : s.Inv cfg) {slot : Slot} {c : Cap} {table : Option Ptr} (hslot : s.cap slot = .null)
    (hc : Created c table) (hf : s.Fresh (capPtr c)) : ((s.setCap slot c).clearTable table).Inv cfg := by
  -- first the memory is cleared
  have hloses := clearTable_loses s table
  have i1 := i.of_loses hloses
  have heq : (s.setCap slot c).clearTable table = (s.clearTable table).setCap slot c := by
    cases table <;> rfl
  rw [heq]
  refine i1.of_caps ?_ rfl rfl rfl fun c' hc' hh => State.holds_setCap hh ?_
  · refine i1.toCapsInv.setCap (fun _ t _ hp hptr => ?_) (fun p hu j => ?_) ?_
    · rw [hloses.cap] at hp hptr
      exact absurd hptr (hf t hp)
    · rw [hc.spec.1 p hu]
      exact clearMemoryPT_pte.trans (if_pos rfl)
    · intro _ _ _ _ _ _ e hne
      exact absurd (hc.spec.2 _ _ _ _ _ _ e) hne
  · rw [hloses.cap, hslot]
    rintro rfl
    exact hc' trivial

/-- Memory that is no table changes. -/
lemma State.Inv.scribbleTable (i : s.Inv cfg) {p : Ptr} {f : Nat → Pte} (h : ∀ t, tableBase (s.cap t) ≠ some p) :
    State.Inv cfg { s with pte := update s.pte p f } := by
  have hold : ∀ c, s.Holds c → State.Holds { s with pte := update s.pte p f } c := fun _ hc => hc
  refine i.of_sub ?_ (fun _ _ => id) (fun q hq j => ?_) i.pool (fun _ _ _ => hold _)
    (fun _ _ _ _ _ _ _ _ _ => hold _) fun _ _ _ _ _ _ _ rights _ _ _ _ _ _ hc => ⟨rights, hold _ hc⟩
  · refine i.toCapsInv.of_pte rfl fun t q hu j hj => ?_
    refine (congrFun (update_of_ne ?_ ..) j).trans hj
    rintro rfl
    apply h t
    cases hc : s.cap t with
    | arch a =>
      rw [hc] at hu
      cases a with
      | pageTable asid base m addr =>
        cases m with
        | false => exact congrArg some hu
        | true => exact hu.elim
      | vspace asid base m =>
        cases m with
        | false => exact congrArg some hu
        | true => exact hu.elim
      | _ => exact hu.elim
    | _ =>
      rw [hc] at hu
      exact hu.elim
  · refine .inl (congrFun (update_of_ne ?_ ..) j)
    rintro rfl
    obtain ⟨t, -, ht, -⟩ := i.reached_cap hq
    exact h t ht

/-- Memory that is no ASID pool changes. -/
lemma State.Inv.scribblePool (i : s.Inv cfg) {p : Ptr} {f : Nat → AsidMap} (h : ∀ t, poolBase (s.cap t) ≠ some p) :
    State.Inv cfg { s with asidPool := update s.asidPool p f } := by
  have hold : ∀ c, s.Holds c → State.Holds { s with asidPool := update s.asidPool p f } c := fun _ hc => hc
  refine i.of_sub (i.toCapsInv.of_pte rfl fun _ _ _ _ hj => hj) (fun asid root hl => ?_) (fun _ _ _ => .inl rfl) i.pool
    (fun _ _ _ => hold _) (fun _ _ _ _ _ _ _ _ _ => hold _)
    fun _ _ _ _ _ _ _ rights _ _ _ _ _ _ hc => ⟨rights, hold _ hc⟩
  obtain ⟨pool, hp, hr⟩ := live_iff.mp hl
  refine live_iff.mpr ⟨pool, hp, ?_⟩
  rwa [show ({ s with asidPool := update s.asidPool p f } : State).asidPool pool = s.asidPool pool from
    update_of_ne ?_ ..] at hr
  rintro rfl
  obtain ⟨t, ht⟩ := i.pool _ pool hp
  exact h t (by rw [ht]; rfl)

end Caps

/-! ## Invocations -/

section Invocations

variable {cfg : VspaceConfig} {s s' : State} {q : Request} {inv : Invocation}

lemma decodeRoot_ok {slot : Slot} {asid : Nat} {root : Ptr} (h : s.decodeRoot slot = .ok (asid, root)) :
    s.Live asid root := by
  unfold State.decodeRoot at h
  split at h
  · split at h
    · cases h
    · rename_i asid' root' _ root'' hlive
      split at h
      · cases h
      · obtain ⟨rfl, rfl⟩ := Prod.ext_iff.mp (Except.ok.inj h)
        exact hlive
  · cases h

/-- What is checked before a table is mapped or unmapped. -/
lemma decodePageTable_ok {final : Bool} {cte : Slot} {asid : Nat} {base : Ptr} {isMapped : Bool} {addr : Nat}
    (h : s.decodeARMPageTableInvocation cfg final cte asid base isMapped addr q = .ok inv) :
    final = true ∧ inv = .pageTableUnmap (.arch (.pageTable asid base isMapped addr)) cte ∨
      isMapped = false ∧ ∃ asid' root v l pt, s.Live asid' root ∧ v ≤ cfg.userTop ∧
        s.Walk cfg root v (l + 1) pt ∧
        inv = .pageTableMap (.arch (.pageTable asid' base true (roundDown v (ptBitsLeft (l + 1))))) cte (.table base)
          (pt, State.uptIndex cfg v (l + 1)) := by
  unfold State.decodeARMPageTableInvocation at h
  split at h
  · obtain ⟨hf, h⟩ := refuseIf_bind.mp h
    exact .inl ⟨Bool.not_eq_false _ ▸ hf, (Except.ok.inj h).symm⟩
  · split at h
    · rename_i v _ _ _ _ _ _
      obtain ⟨hm, h⟩ := refuseIf_bind.mp h
      split at h
      · cases h
      · obtain ⟨htop, h⟩ := refuseIf_bind.mp h
        obtain ⟨⟨asid', root⟩, hroot, h⟩ := bind_eq_ok.mp h
        obtain ⟨j, m, w, hlookup⟩ := lookupPTSlot_walk s cfg root v
        dsimp only at h
        rw [hlookup] at h
        obtain ⟨hbits, h⟩ := refuseIf_bind.mp h
        -- the walk does not end on the last level
        cases j with
        | zero => exact absurd (.inl rfl) hbits
        | succ l =>
          refine .inr ⟨Bool.not_eq_true _ ▸ hm, asid', root, v, l, m, decodeRoot_ok hroot, Nat.le_of_not_lt htop, w, ?_⟩
          exact (Except.ok.inj h).symm
    · cases h
  · cases h

/-- What is checked before a page is mapped. -/
lemma decodeFrame_ok {cte : Slot} {asid : Nat} {base : Ptr} {size : PageSize} {addr : Nat} {rights : VmRights}
    {dev : Bool} (h : s.decodeARMFrameInvocation cfg cte asid base size addr rights dev q = .ok inv) :
    inv = .pageUnmap (.arch (.frame asid base size addr rights dev)) cte ∨
      ∃ asid' root v l pt, s.Live asid' root ∧ v % 2 ^ pageBitsForSize size = 0 ∧
        (asid ≠ asidInvalid → asid = asid' ∧ addr = v) ∧ (asid = asidInvalid → v ≤ cfg.userTop) ∧
        s.Walk cfg root v l pt ∧ pageBitsForSize size = ptBitsLeft l ∧
        inv = .pageMap (.arch (.frame asid' base size v rights dev)) cte (makeUserPagePTE base size)
          (pt, State.uptIndex cfg v l) := by
  unfold State.decodeARMFrameInvocation at h
  split at h
  · exact .inl (Except.ok.inj h).symm
  · split at h
    · rename_i v _ _ _ _ _ _ _
      obtain ⟨⟨asid', root⟩, hroot, h⟩ := bind_eq_ok.mp h
      dsimp only at h
      obtain ⟨halign, h⟩ := refuseIf_bind.mp h
      obtain ⟨l, pt, w, hlookup⟩ := lookupPTSlot_walk s cfg root v
      rw [hlookup] at h
      split at h
      · rename_i hmapped
        obtain ⟨ha, h⟩ := refuseIf_bind.mp h
        obtain ⟨hv, h⟩ := refuseIf_bind.mp h
        obtain ⟨hb, h⟩ := refuseIf_bind.mp h
        exact .inr ⟨asid', root, v, l, pt, decodeRoot_ok hroot, not_not.mp halign, fun _ =>
          ⟨not_not.mp ha, not_not.mp hv⟩, fun e => absurd e hmapped, w, (not_not.mp hb).symm,
          (Except.ok.inj h).symm⟩
      · rename_i hnew
        obtain ⟨htop, h⟩ := refuseIf_bind.mp h
        obtain ⟨hb, h⟩ := refuseIf_bind.mp h
        have hpos := Nat.two_pow_pos (pageBitsForSize size)
        exact .inr ⟨asid', root, v, l, pt, decodeRoot_ok hroot, not_not.mp halign, fun e => absurd e hnew,
          fun _ => by omega, w, (not_not.mp hb).symm, (Except.ok.inj h).symm⟩
    · cases h
  · cases h

/-- What is checked before a pool is made. -/
lemma decodeASIDControl_ok {dest : Except SyscallError Slot} {noChildren : Except SyscallError Unit}
    (h : s.decodeASIDControl dest noChildren q = .ok inv) :
    ∃ frame slot parent j, inv = .makePool frame slot parent (j * 2 ^ asidLowBits) ∧ s.armKSASIDTable j = none ∧
      Plain (s.cap parent) ∧ s.cap slot = .null := by
  unfold State.decodeASIDControl at h
  split at h
  · split at h
    · rename_i parentSlot _ _ _ _
      split at h
      · cases h
      · rename_i j hj
        split at h
        · rename_i freeIndex dev size ptr hparent
          obtain ⟨-, h⟩ := refuseIf_bind.mp h
          obtain ⟨u, -, h⟩ := bind_eq_ok.mp h
          obtain ⟨slot, -, h⟩ := bind_eq_ok.mp h
          obtain ⟨hnull, h⟩ := refuseIf_bind.mp h
          refine ⟨ptr, slot, parentSlot, j, (Except.ok.inj h).symm, ?_, ?_, not_not.mp hnull⟩
          · simpa using List.find?_some hj
          · rw [hparent]
            trivial
        · cases h
    · cases h
  · cases h

/-- What is checked before a VSpace gets an ASID. -/
lemma decodeASIDPool_ok {base : Nat} {capPool : Ptr} (h : s.decodeASIDPool base capPool q = .ok inv) :
    ∃ j slot asid root, inv = .assign (base + j) capPool slot ∧ j < 2 ^ asidLowBits ∧ base + j ≠ 0 ∧
      s.armKSASIDTable (asidHigh base) = some capPool ∧ s.asidPool capPool j = .none ∧
      s.cap slot = .arch (.vspace asid root false) := by
  unfold State.decodeASIDPool at h
  split at h
  · split at h
    · rename_i slot _ _
      split at h
      · rename_i asid root hslot
        split at h
        · cases h
        · rename_i pool hp
          obtain ⟨hpool, h⟩ := refuseIf_bind.mp h
          split at h
          · cases h
          · rename_i j hj
            have hfree := of_decide_eq_true (p := base + j ≠ 0 ∧ s.asidPool pool j = .none) (List.find?_some hj :)
            have hmem := List.mem_range.mp (List.mem_of_find?_eq_some hj)
            have hinv := (Except.ok.inj h).symm
            obtain rfl := not_not.mp hpool
            exact ⟨j, slot, asid, root, hinv, hmem, hfree.1, hp, hfree.2, hslot⟩
      · cases h
    · cases h
  · cases h

/-- The ASIDs of a pool. -/
lemma asidHigh_add {base j : Nat} (h : asidHigh base * 2 ^ asidLowBits = base) (hj : j < 2 ^ asidLowBits) :
    asidHigh (base + j) = asidHigh base := by
  unfold asidHigh asidLowBits at *
  omega

/-- An invocation keeps the invariant. -/
lemma State.Inv.invoke (i : s.Inv cfg) {final : Bool} {dest : Except SyscallError Slot}
    {noChildren : Except SyscallError Unit} {cte : Slot} (hf : s.FinalAt cte final)
    (hd : s.decodeARMMMUInvocation cfg final dest noChildren cte q = .ok inv)
    (hfresh : ∀ frame slot parent base, inv = .makePool frame slot parent base → s.Fresh frame)
    (hp : s.perform cfg inv = .ok s') : s'.Inv cfg := by
  unfold State.decodeARMMMUInvocation at hd
  split at hd
  · rename_i asid base m addr hc
    rcases decodePageTable_ok hd with ⟨rfl, rfl⟩ | ⟨rfl, asid', root, v, l, pt, hl, hv, w, rfl⟩
    · -- the table is unmapped and cleared
      cases m with
      | true =>
        obtain ⟨s1, h1, hp⟩ := bind_eq_ok.mp hp
        obtain rfl := Except.ok.inj hp
        cases hu : s.unmapPageTable cfg asid addr base with
        | error e =>
          rw [hu] at h1
          cases h1
        | ok s0 =>
          rw [hu] at h1
          obtain rfl := Except.ok.inj h1
          refine i.unmapTable hc hf (by simpa using hu) (.clearMemoryPT s0 base) (.inr ⟨rfl, fun j => ?_⟩)
          exact clearMemoryPT_pte.trans (if_pos rfl)
      | false =>
        obtain rfl := Except.ok.inj hp
        refine i.unmapTable hc hf (@rfl _ (Except.ok s)) (.refl s) (.inr ⟨rfl, i.clear cte base ?_⟩)
        rw [hc]
        rfl
    · obtain rfl := Except.ok.inj hp
      exact i.mapTable (.inr ⟨asid, addr, hc⟩) hl (cfg.lt_of_le_userTop hv) w
  · rename_i asid base size addr rights dev hc
    rcases decodeFrame_ok hd with rfl | ⟨asid', root, v, l, pt, hl, halign, hmap, hv, w, hsize, rfl⟩
    · obtain rfl := Except.ok.inj hp
      exact i.unmapFrame hc (.inr rfl)
    · obtain rfl := Except.ok.inj hp
      have hlt : v < 2 ^ cfg.vaddrBits := by
        by_cases e : asid = asidInvalid
        · exact cfg.lt_of_le_userTop (hv e)
        · rw [← (hmap e).2]
          exact i.bounded cte _ _ _ _ _ _ hc e
      refine i.mapPage (.inr ⟨asid, addr, rights, hc, hmap⟩) hl hlt halign w hsize ?_
      cases size <;> rfl
  · obtain ⟨frame, slot, parent, j, rfl, -, hparent, hslot⟩ := decodeASIDControl_ok hd
    exact i.makePool (hfresh _ _ _ _ rfl) hparent hslot hp
  · rename_i base pool hc
    obtain ⟨j, slot, asid, root, rfl, hj, hne, hpool, -, hslot⟩ := decodeASIDPool_ok hd
    obtain rfl := Except.ok.inj hp
    -- the pool is where its capability says
    obtain ⟨t, ht⟩ := i.pool _ pool hpool
    have hhigh := asidHigh_add (i.pool_base ht hc) hj
    exact i.assign hslot (hhigh ▸ hpool) hne
  · cases hd

end Invocations

/-- A step keeps the invariant. -/
lemma State.Inv.step {cfg : VspaceConfig} {s s' : State} (i : s.Inv cfg) (h : State.Step cfg s s') : s'.Inv cfg := by
  cases h with
  | invoke hf hd hfresh hp => exact i.invoke hf hd hfresh hp
  | copy hdest hm hd => exact i.copy hdest hm hd
  | move hdest => exact i.move hdest
  | swap => exact i.swap _ _
  | delete hf h => exact i.deleteSlot hf h
  | retype hslot hc hf => exact i.retype hslot hc hf
  | other hs hc => exact i.other hs hc
  | scribbleTable h => exact i.scribbleTable h
  | scribblePool h => exact i.scribblePool h
  | @switch slot _ h =>
    have hcur : SameMaps s { s with curVTable := some slot } := ⟨rfl, rfl, rfl, fun _ _ => rfl⟩
    exact i.of_sameMaps (hcur.trans (setVMRoot_sameMaps h))
  | fastpath h => exact i.of_sameMaps (fastpathSwitch_sameMaps h)
  | idle => exact i.of_sameMaps ⟨rfl, rfl, rfl, fun _ _ => rfl⟩

end NexsKernel.Vspace
