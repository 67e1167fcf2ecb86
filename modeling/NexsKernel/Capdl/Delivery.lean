import NexsKernel.Capdl.Calls
import NexsKernel.Microkit.Entries

/-!
# Channels

The tool puts the capabilities of a channel into the CSpaces of its ends, at the slots that libmicrokit invokes, and
chooses their badges; libmicrokit looks at the badge of a message to see what it stands for. The two agree: a message
over a channel leads to the entry point at the other end, with the id that the description gives that end
(`channels_deliver`).
-/

namespace NexsKernel.Capdl

open Sdf
open Microkit (Message entered)

/-- The id of an end of a channel, in its protection domain. -/
def idOf (e : ChannelEnd) : Nat × Word :=
  (e.pd, e.id)

/-- The ends of the channels. -/
def channelEnds (sd : SystemDescription) : List ChannelEnd :=
  sd.channels.flatMap fun ch => [ch.endA, ch.endB]

/-- The ids that are in use: those of the interrupts, and those of the ends of channels. -/
def idsInUse (sd : SystemDescription) : List (Nat × Word) :=
  (sd.protectionDomains.zipIdx.flatMap fun p => p.1.irqs.map fun irq => (p.2, irq.id)) ++ (channelEnds sd).map idOf

/-- The badge when the notifications of several ends are merged. -/
def mergedBadge (ends : List ChannelEnd) : Word :=
  ends.foldr (fun e badge => bit e.id ||| badge) 0

/-- What libmicrokit at one end of a channel invokes refers to the other end, with a badge for its id. -/
structure Connects (t : PdTables) (c : Container) (source target : ChannelEnd) : Prop where
  notify : source.notify = true → ∃ cspace ntfn, t.cspaces.lookup source.pd = some cspace ∧
    t.ntfns.lookup target.pd = some ntfn ∧
    c.InCspace cspace ⟨Microkit.baseOutputNotificationCap + source.id.toNat, makeNtfnCap ntfn (bit target.id)⟩
  call : source.pp = true → ∃ cspace ep, t.cspaces.lookup source.pd = some cspace ∧ t.eps.lookup target.pd = some ep ∧
    c.InCspace cspace ⟨Microkit.baseEndpointCap + source.id.toNat, makeEndpointCap ep (ppcBadge ||| target.id)⟩

/-! ## Ids -/

section ids

open Checks

variable {filename : String} {config : Config} {files : String → PrefillFile} {doc : Except String (List Node)}
  {pds : List ProtectionDomain} {ch : Channel} {sd : SystemDescription}

lemma checkChannel_ids {ids ids' : List (Nat × Word)} (h : checkChannel filename pds ids ch = .ok ids') :
    idOf ch.endA ∉ ids ∧ idOf ch.endB ∉ ids ∧ ids' = ids ++ [idOf ch.endA, idOf ch.endB] := by
  unfold checkChannel at h
  split at h
  · obtain ⟨ha, h⟩ := failIf_bind.mp h
    obtain ⟨hb, h⟩ := failIf_bind.mp h
    refine ⟨fun hmem => ha (List.contains_iff_mem.mpr hmem), fun hmem => hb (List.contains_iff_mem.mpr hmem), ?_⟩
    split at h
    · obtain ⟨⟨⟩, -, h⟩ := bind_ok.mp h
      exact (pure_ok.mp h).symm
    · split at h
      · obtain ⟨⟨⟩, -, h⟩ := bind_ok.mp h
        exact (pure_ok.mp h).symm
      · exact (pure_ok.mp h).symm
  · cases h

/-- In an accepted description no id is used twice, but perhaps by the two ends of one channel: these are compared with
the ids before them, and not with each other. -/
lemma parse_idsInUse (h : parse filename config files doc = .ok sd)
    (hends : ∀ ch ∈ sd.channels, idOf ch.endA ≠ idOf ch.endB) : (idsInUse sd).Nodup := by
  obtain ⟨system, body, flat, hparsed⟩ := parse_ok h
  obtain ⟨ids, ids', hirqs, hchannels⟩ := hparsed.checked.ids
  obtain ⟨hids, hnodup⟩ := checkUnique_ok hirqs List.nodup_nil
  have hrun : (∀ ch ∈ sd.channels, idOf ch.endA ≠ idOf ch.endB) →
      ids' = ids ++ (sd.channels.flatMap fun ch => [idOf ch.endA, idOf ch.endB]) ∧ ids'.Nodup := by
    refine foldlM_prefix (P := fun pre acc => (∀ ch ∈ pre, idOf ch.endA ≠ idOf ch.endB) →
      acc = ids ++ (pre.flatMap fun ch => [idOf ch.endA, idOf ch.endB]) ∧ acc.Nodup) ?_
      (fun _ => ⟨(List.append_nil _).symm, hnodup⟩) hchannels
    intro pre ch ids1 ids2 hpre hstep hall
    obtain ⟨hpre', hch⟩ := List.forall_mem_append.mp hall
    obtain ⟨rfl, hnodup1⟩ := hpre hpre'
    obtain ⟨ha, hb, rfl⟩ := checkChannel_ids hstep
    have hne := hch ch List.mem_cons_self
    refine ⟨by simp, hnodup1.append (List.nodup_cons.mpr ⟨by simpa using hne, List.nodup_singleton _⟩) ?_⟩
    simp only [List.disjoint_cons_right]
    exact ⟨ha, hb, List.disjoint_nil_right _⟩
  obtain ⟨hids', hnodup'⟩ := hrun hends
  rw [hids', hids, List.nil_append, List.map_flatMap] at hnodup'
  simpa only [idsInUse, channelEnds, List.map_flatMap, List.map_map, Function.comp_def, List.map_cons, List.map_nil]
    using hnodup'

end ids

/-! ## Badges -/

lemma getLsbD_bit {id : Word} (h : id.toNat ≤ pdMaxId) (i : Nat) : (bit id).getLsbD i = decide (i = id.toNat) := by
  unfold pdMaxId at h
  change (BitVec.ofNat 64 (1 <<< (id.toNat % 64))).getLsbD i = _
  rw [BitVec.getLsbD_ofNat, Nat.one_shiftLeft, Nat.testBit_two_pow, Nat.mod_eq_of_lt (by omega), ← Bool.decide_and]
  exact decide_eq_decide.mpr ⟨fun hi => hi.2.symm, fun hi => ⟨by omega, hi.symm⟩⟩

lemma getLsbD_mergedBadge {ends : List ChannelEnd} (h : ∀ e ∈ ends, e.id.toNat ≤ pdMaxId) (i : Nat) :
    (mergedBadge ends).getLsbD i = decide (i ∈ ends.map (·.id.toNat)) := by
  induction ends with
  | nil => exact BitVec.getLsbD_zero
  | cons e ends ih =>
    obtain ⟨he, hends⟩ := List.forall_mem_cons.mp h
    change (bit e.id ||| mergedBadge ends).getLsbD i = _
    rw [BitVec.getLsbD_or, getLsbD_bit he, ih hends, List.map_cons, ← Bool.decide_or]
    exact decide_eq_decide.mpr List.mem_cons.symm

/-- Merged notifications lead to `notified` for each of the ids. -/
lemma entries_mergedBadge {ends : List ChannelEnd} (h : ∀ e ∈ ends, e.id.toNat ≤ pdMaxId) {m : Message}
    (hm : m.badge = mergedBadge ends) :
    m.entries = ((List.range 64).filter fun i => i ∈ ends.map (·.id.toNat)).map .notified := by
  have hbits := getLsbD_mergedBadge h
  have hhigh : ∀ i, pdMaxId < i → m.badge.getLsbD i = false := by
    intro i hi
    rw [hm, hbits, decide_eq_false_iff_not, List.mem_map]
    rintro ⟨e, he, rfl⟩
    exact absurd (h e he) (Nat.not_le.mpr hi)
  have hfault : ¬ m.isFault := by
    rw [Microkit.isFault_iff, hhigh 62 (by decide)]
    exact Bool.false_ne_true
  have hendpoint : ¬ m.isEndpoint := by
    rw [Microkit.isEndpoint_iff, hhigh 63 (by decide)]
    exact Bool.false_ne_true
  unfold Message.entries
  rw [if_neg hfault, if_neg hendpoint, hm]
  exact congrArg _ (List.filter_congr fun i _ => hbits i)

/-- A protected procedure call leads to `protected`. -/
lemma entries_ppcBadge {id : Word} (h : id.toNat ≤ pdMaxId) {m : Message} (hm : m.badge = ppcBadge ||| id) :
    m.entries = [.protectedEntry id m.tag] := by
  unfold pdMaxId at h
  have hid : ∀ i, 6 ≤ i → id.getLsbD i = false := by
    intro i hi
    have hpow : 2 ^ 6 ≤ 2 ^ i := Nat.pow_le_pow_right (by decide) hi
    exact Nat.testBit_lt_two_pow (by omega)
  have hfault : ¬ m.isFault := by
    rw [Microkit.isFault_iff, hm, BitVec.getLsbD_or, hid 62 (by decide)]
    decide
  have hendpoint : m.isEndpoint := by
    rw [Microkit.isEndpoint_iff, hm, BitVec.getLsbD_or, hid 63 (by decide)]
    decide
  have hmask : m.badge &&& Microkit.channelMask = id := by
    have hlow : (m.badge &&& Microkit.channelMask).toNat = m.badge.toNat % 2 ^ 6 := by
      rw [BitVec.toNat_and]
      exact Nat.and_two_pow_sub_one_eq_mod _ 6
    refine BitVec.eq_of_toNat_eq ?_
    rw [hlow, hm, BitVec.toNat_or, Nat.or_mod_two_pow, Nat.mod_eq_of_lt (a := id.toNat) (by omega)]
    exact Nat.zero_or _
  unfold Message.entries
  rw [if_neg hfault, if_pos hendpoint, hmask]

/-! ## The capabilities of a channel -/

variable {sd : SystemDescription} {monitor : Monitor} {t : PdTables} {c : Container} {source target : ChannelEnd}
  {ch : Channel}

lemma connects (hid : source.id.toNat ≤ pdMaxId)
    (hcspace : ∀ {id : ObjectId} {cte : CapTableEntry}, cte.cap.isIpc = true →
      (id, cte) ∈ notifyIpc t source target ∨ (id, cte) ∈ ppIpc t source target → c.InCspace id cte)
    (hsource : (t.cspaces.lookup source.pd).isSome) (hntfn : (t.ntfns.lookup target.pd).isSome)
    (hep : source.pp = true → (t.eps.lookup target.pd).isSome) : Connects t c source target := by
  obtain ⟨cspace, hsource⟩ := Option.isSome_iff_exists.mp hsource
  constructor
  · intro hnotify
    obtain ⟨ntfn, hntfn⟩ := Option.isSome_iff_exists.mp hntfn
    refine ⟨cspace, ntfn, hsource, hntfn, hcspace rfl (.inl ?_)⟩
    rw [notifyIpc, if_pos hnotify, hsource, hntfn, slotOf_eq (by decide) hid]
    exact List.mem_singleton.mpr rfl
  · intro hpp
    obtain ⟨ep, hep⟩ := Option.isSome_iff_exists.mp (hep hpp)
    refine ⟨cspace, ep, hsource, hep, hcspace rfl (.inr (mem_ppIpc.mpr ⟨hpp, ep, hsource, hep, ?_⟩))⟩
    rw [slotOf_eq (by decide) hid]
    rfl

/-- In the spec of an accepted description, what libmicrokit invokes at one end of a channel reaches the other end, and
there libmicrokit calls the entry point that the channel is for, with the id of that end: `notified` once for each end
whose notification has come, however they were merged, and `protected` for a call. No two ends of a protection domain
have the same id, unless they are the two ends of one channel. -/
theorem channels_deliver {filename : String} {config : Config} {files : String → PrefillFile}
    {doc : Except String (List Node)} {elfs : List Elf} {u : Unit}
    (hparse : parse filename config files doc = .ok sd) (hbuild : buildObjects config elfs sd ⟨[], []⟩ = .ok u c) :
    (∃ monitor t base, Resolved sd monitor t base c ∧
      ∀ ch ∈ sd.channels, Connects t c ch.endA ch.endB ∧ Connects t c ch.endB ch.endA) ∧
    ((∀ ch ∈ sd.channels, idOf ch.endA ≠ idOf ch.endB) → (idsInUse sd).Nodup) ∧
    (∀ ends ⊆ channelEnds sd, ∀ (pd : Microkit.Pd) (s : Microkit.State) (m : Message), m.badge = mergedBadge ends →
      entered (s.handle pd m).events =
        entered s.events ++ ((List.range 64).filter fun i => i ∈ ends.map (·.id.toNat)).map .notified) ∧
    ∀ e ∈ channelEnds sd, ∀ (pd : Microkit.Pd) (s : Microkit.State) (m : Message), m.badge = ppcBadge ||| e.id →
      entered (s.handle pd m).events = entered s.events ++ [.protectedEntry e.id m.tag] := by
  have hids := parse_channelIds hparse
  have hends : ∀ e ∈ channelEnds sd, e.id.toNat ≤ pdMaxId := by
    intro e he
    obtain ⟨ch, hch, he⟩ := List.mem_flatMap.mp he
    rcases List.mem_pair.mp he with rfl | rfl
    · exact (hids ch hch).1
    · exact (hids ch hch).2
  refine ⟨?_, parse_idsInUse hparse, fun ends hsub pd s m hm => ?_, fun e he pd s m hm => ?_⟩
  · obtain ⟨monitor, t, base, hres, g⟩ := buildObjects_grants hbuild
    refine ⟨monitor, t, base, hres, fun ch hch => ?_⟩
    have hserved := hres.served ch hch
    have hmem : ∀ {id : ObjectId} {cte : CapTableEntry}, cte.cap.isIpc = true → (id, cte) ∈ channelIpc t ch →
        c.InCspace id cte := fun hipc hcte => (g.cspace_iff hipc).mpr (.inr (.inr ⟨ch, hch, hcte⟩))
    unfold channelIpc at hmem
    simp only [List.mem_append] at hmem
    constructor
    · exact connects (hids ch hch).1 (fun hipc hcte => hmem hipc (hcte.elim (.inl ∘ .inl ∘ .inl) (.inl ∘ .inr)))
        hserved.cspaces.1 hserved.ntfns.2 hserved.ppA
    · exact connects (hids ch hch).2 (fun hipc hcte => hmem hipc (hcte.elim (.inl ∘ .inl ∘ .inr) .inr))
        hserved.cspaces.2 hserved.ntfns.1 hserved.ppB
  · rw [Microkit.State.handle_entered, entries_mergedBadge (fun e he => hends e (hsub he)) hm]
  · rw [Microkit.State.handle_entered, entries_ppcBadge (hends e he) hm]

/-- The client of a server calls it. -/
theorem channels_deliver_call : ∃ c t, Connects t c ⟨0, 4, true, true, none⟩ ⟨1, 7, true, false, none⟩ ∧
    ∀ (pd : Microkit.Pd) (s : Microkit.State) (m : Message), m.badge = ppcBadge ||| 7 →
      entered (s.handle pd m).events = entered s.events ++ [.protectedEntry 7 m.tag] := by
  obtain ⟨u, c, hbuilt⟩ := call_built
  obtain ⟨⟨monitor, t, base, -, hconnects⟩, -, -, hcall⟩ := channels_deliver call_parsed hbuilt
  exact ⟨c, t, (hconnects _ List.mem_cons_self).1,
    hcall ⟨1, 7, true, false, none⟩ (List.mem_cons_of_mem _ List.mem_cons_self)⟩

end NexsKernel.Capdl
