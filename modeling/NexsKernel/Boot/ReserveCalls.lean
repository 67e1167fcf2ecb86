import NexsKernel.Boot.Split

/-!
# Reserving regions one after the other

The boot code calls `reserve_region` with regions in any order. Whatever has been accepted is what the table covers,
and the table stays sorted and merged. The last entry of the table is never filled: a region that touches no other one
is refused when one entry is left (`reserveCalls_iff`).
-/

namespace NexsKernel.Boot

/-- Calls of `reserve_region`, one after the other: the regions for which it has returned `true`, and the state. -/
def reserveCalls (cfg : BootConfig) : List Region → NdksBoot → Except Halt (List Region × NdksBoot)
  | [], s => return ([], s)
  | reg :: regs, s => do
    let (accepted, s) ← reserveRegion cfg reg s
    let (rest, s) ← reserveCalls cfg regs s
    return (if accepted then reg :: rest else rest, s)

/-- There is something that `reserve_region` can do with a region: it is empty, it can be merged, or an entry is left
besides the last one. -/
def HasRoom (cfg : BootConfig) (t : List Region) (reg : Region) : Prop :=
  reg.start = reg.stop ∨ (∃ r ∈ t, r.Touches reg) ∨ t.length + 1 < cfg.maxNumResvReg

/-- What a call of `reserve_region` returns, with the table that it leaves. -/
structure Answer (cfg : BootConfig) (reg : Region) (t : List Region) (b : Bool) (t' : List Region) : Prop where
  table : Table t'
  length : t'.length < cfg.maxNumResvReg
  cover : ∀ x, x ∈ cover t' ↔ x ∈ cover t ∨ b = true ∧ x ∈ reg
  room : b = true ↔ HasRoom cfg t reg
  same : b = false → t' = t

variable {cfg : BootConfig} {reg : Region} {s : NdksBoot}

/-- What a call answers, and the table that it leaves. -/
lemma reserveRegion_answer (ht : Table s.reserved) (hlen : s.reserved.length < cfg.maxNumResvReg)
    (hle : reg.start ≤ reg.stop) (hd : ∀ r ∈ s.reserved, r.Disjoint reg) :
    ∃ b t', reserveRegion cfg reg s = .ok (b, { s with reserved := t' }) ∧ Answer cfg reg s.reserved b t' := by
  have hassert := cfg.assert_ok (decide_eq_true hle)
  unfold reserveRegion
  rw [hassert]
  show ∃ b t', (if reg.start = reg.stop then _ else _) = _ ∧ _
  split
  · -- an empty region is accepted as it is
    rename_i hempty
    refine ⟨true, s.reserved, rfl, ht, hlen, fun x => ?_, iff_of_true rfl (.inl hempty), nofun⟩
    have hno : x ∉ reg := fun hx => absurd (hx.1.trans_lt hx.2) (hempty ▸ lt_irrefl _)
    exact (or_iff_left fun h => hno h.2).symm
  · rename_i hne
    have hlt : reg.start < reg.stop := lt_of_le_of_ne hle hne
    have sound := place_sound ht hlt hd hlen
    generalize place cfg s.reserved.length reg s.reserved = p at sound
    cases sound with
    | @joined t' htouch asc hl hcover =>
      obtain ⟨table, hcover'⟩ := mergeRegions_spec asc
      have hshort := mergeRegions_length t'
      refine ⟨true, _, rfl, table, by omega, fun x => ?_, iff_of_true rfl (.inr (.inl htouch)), nofun⟩
      rw [hcover', hcover]
      simp only [true_and]
    | @placed t' hfar room table hl hcover =>
      refine ⟨true, t', rfl, table, by omega, fun x => ?_, iff_of_true rfl (.inr (.inr room)), nofun⟩
      rw [hcover]
      simp only [true_and]
    | full hfar room =>
      have hno : ¬ HasRoom cfg s.reserved reg := by
        rintro (h | ⟨r, hr, h⟩ | h)
        · exact hne h
        · exact hfar r hr h
        · exact absurd h (Nat.not_lt.mpr room)
      refine ⟨false, s.reserved, rfl, ht, hlen, fun x => ?_, iff_of_false Bool.false_ne_true hno, fun _ => rfl⟩
      simp only [Bool.false_eq_true, false_and, or_false]

/-- Regions that do not meet what is reserved, and not one another. -/
structure Clear (t : List Region) (regs : List Region) : Prop where
  valid : ∀ r ∈ regs, r.start ≤ r.stop
  disjoint : regs.Pairwise Region.Disjoint
  clear : ∀ r ∈ regs, ∀ x ∈ cover t, x ∉ r

/-- One call, of more to come. -/
lemma Clear.step {t t' regs b} (h : Clear t (reg :: regs)) (a : Answer cfg reg t b t') : Clear t' regs where
  valid r hr := h.valid r (.tail _ hr)
  disjoint := h.disjoint.of_cons
  clear r hr x hx := by
    rcases (a.cover x).mp hx with hx | ⟨-, hx⟩
    · exact h.clear r (.tail _ hr) x hx
    · exact List.rel_of_pairwise_cons h.disjoint hr x hx

/-- A sequence of calls answers one after the other. -/
lemma reserveCalls_ok {regs} (ht : Table s.reserved) (hlen : s.reserved.length < cfg.maxNumResvReg)
    (h : Clear s.reserved regs) :
    ∃ accepted t', reserveCalls cfg regs s = .ok (accepted, { s with reserved := t' }) ∧ accepted.Sublist regs ∧
      Table t' ∧ t'.length < cfg.maxNumResvReg ∧
      ∀ x, x ∈ cover t' ↔ x ∈ cover s.reserved ∨ x ∈ cover accepted := by
  induction regs generalizing s with
  | nil => exact ⟨[], s.reserved, rfl, .slnil, ht, hlen, fun x => by simp⟩
  | cons reg regs ih =>
    have hd : ∀ r ∈ s.reserved, r.Disjoint reg := fun r hr x hx =>
      h.clear reg (.head _) x (mem_cover_of_mem hr hx)
    obtain ⟨b, t1, e1, a⟩ := reserveRegion_answer ht hlen (h.valid reg (.head _)) hd
    obtain ⟨accepted, t2, e2, hsub, table, hlen', hcover⟩ := @ih { s with reserved := t1 } a.table a.length (h.step a)
    have run : reserveCalls cfg (reg :: regs) s =
        .ok (if b then reg :: accepted else accepted, { s with reserved := t2 }) := by
      rw [reserveCalls, e1]
      show (reserveCalls cfg regs { s with reserved := t1 } >>= _) = _
      rw [e2]
      rfl
    refine ⟨_, t2, run, ?_, table, hlen', fun x => ?_⟩
    · cases b with
      | true => exact hsub.cons_cons reg
      | false => exact hsub.cons reg
    · rw [hcover, a.cover]
      cases b with
      | true =>
        simp only [if_true, true_and, mem_cover_cons]
        exact or_assoc
      | false => simp only [Bool.false_eq_true, if_false, false_and, or_false]

/-- After any calls with disjoint regions the table is sorted and merged and covers what was accepted. If the next call
returns `false` it changes nothing, and it returns `false` on a table that is not full exactly if there is no room
besides the last entry. -/
theorem reserveCalls_iff {regs : List Region} (hstart : s.reserved = []) (hle : ∀ r ∈ reg :: regs, r.start ≤ r.stop)
    (hd : (reg :: regs).Pairwise Region.Disjoint) :
    ∃ accepted s', reserveCalls cfg regs s = .ok (accepted, s') ∧ accepted.Sublist regs ∧
      Table s'.reserved ∧ cover s'.reserved = cover accepted ∧
      ∃ b s'', reserveRegion cfg reg s' = .ok (b, s'') ∧ (b = false → s'' = s') ∧
        ((b = false → s'.reserved.length = cfg.maxNumResvReg) ↔ HasRoom cfg s'.reserved reg) := by
  have hempty : ∀ x, x ∉ cover s.reserved := by
    rw [hstart]
    exact fun x => mem_cover_nil.mp
  have hclear : Clear s.reserved regs :=
    ⟨fun r hr => hle r (.tail _ hr), hd.of_cons, fun _ _ x hx => absurd hx (hempty x)⟩
  have htable : Table s.reserved := by
    rw [hstart]
    exact Table.nil
  have hlen : s.reserved.length < cfg.maxNumResvReg := by
    rw [hstart]
    exact cfg.resv_pos
  obtain ⟨accepted, t', run, hsub, table, hlen', hcover⟩ := reserveCalls_ok htable hlen hclear
  have hdisj : ∀ r ∈ t', r.Disjoint reg := by
    intro r hr x hx hreg
    rcases (hcover x).mp (mem_cover_of_mem hr hx) with hx | ⟨a, ha, hx⟩
    · exact hempty x hx
    · exact List.rel_of_pairwise_cons hd (hsub.subset ha) x hreg hx
  obtain ⟨b, t'', call, a⟩ := @reserveRegion_answer cfg reg { s with reserved := t' } table hlen'
    (hle reg (.head _)) hdisj
  refine ⟨accepted, _, run, hsub, table, ?_, b, _, call, fun hb => ?_, ?_⟩
  · ext x
    exact (hcover x).trans (or_iff_right (hempty x))
  · rw [a.same hb]
  · rw [← a.room]
    cases b with
    | true => exact iff_of_true nofun rfl
    | false => exact iff_of_false (fun h => hlen'.ne (h rfl)) Bool.false_ne_true

/-- Regions that do not touch. -/
def spacedRegions (n : Nat) : List Region :=
  (List.range n).map fun i => ⟨0x10000000 + i * 0x2000, 0x10001000 + i * 0x2000⟩

lemma spacedRegions_disjoint (n : Nat) : (spacedRegions n).Pairwise Region.Disjoint := by
  refine List.pairwise_map.mpr (List.pairwise_lt_range.imp fun hlt x hx hx' => ?_)
  simp only [Region.mem_iff] at hx hx'
  omega

/-- The state after they have been reserved. -/
def spacedState (n : Nat) : NdksBoot :=
  { virtStart with reserved := spacedRegions n }

/-- A region between two others is accepted. -/
theorem reserveCalls_iff_between :
    ∃ s, reserveRegion virtConfig ⟨0x10001000, 0x10002000⟩ (spacedState 3) = .ok (true, s) := by
  have hstart : (spacedState 0).reserved = [] := rfl
  have hle : ∀ r ∈ ⟨0x10001000, 0x10002000⟩ :: spacedRegions 3, r.start ≤ r.stop := by decide
  have hd : (⟨0x10001000, 0x10002000⟩ :: spacedRegions 3).Pairwise Region.Disjoint := by
    refine .cons (fun r hr x hx hx' => ?_) (spacedRegions_disjoint 3)
    obtain ⟨i, -, rfl⟩ := List.mem_map.mp hr
    simp only [Region.mem_iff] at hx hx'
    omega
  obtain ⟨accepted, s', run, -, -, -, b, s, call, -, hiff⟩ := @reserveCalls_iff virtConfig _ _ _ hstart hle hd
  have e : reserveCalls virtConfig (spacedRegions 3) (spacedState 0) = .ok (spacedRegions 3, spacedState 3) := by
    decide +kernel
  cases run.symm.trans e
  refine ⟨s, ?_⟩
  cases b with
  | true => exact call
  | false =>
    have hroom : HasRoom virtConfig (spacedState 3).reserved ⟨0x10001000, 0x10002000⟩ := .inr (.inr (by decide))
    exact absurd (hiff.mpr hroom rfl) (by decide)

/-- With 23 of 24 entries in use, a region is refused. -/
theorem reserveCalls_last_entry :
    reserveCalls virtConfig (spacedRegions 23) (spacedState 0) = .ok (spacedRegions 23, spacedState 23) ∧
      (spacedRegions 24).Pairwise Region.Disjoint ∧
      reserveRegion virtConfig ⟨0x1002e000, 0x1002f000⟩ (spacedState 23) = .ok (false, spacedState 23) ∧
      spacedRegions 24 = spacedRegions 23 ++ [⟨0x1002e000, 0x1002f000⟩] ∧
      (spacedState 23).reserved.length ≠ virtConfig.maxNumResvReg :=
  ⟨by decide +kernel, spacedRegions_disjoint 24, by decide +kernel, by decide, by decide⟩

end NexsKernel.Boot
