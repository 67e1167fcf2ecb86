import NexsKernel.Sdf.Document

/-!
# Flattening

The trees of protection domains become one list. Where a protection domain is in the forest is a path: the index of
its tree, and then that of a child at each level. The list has the protection domains in the order of their paths,
which is the preorder of the forest, and the parent of each is the index at which its parent is in the list.
-/

namespace NexsKernel.Sdf

open Checks

/-! ## Paths -/

/-- The protection domain at the end of a path from the root of a tree. -/
def PdTree.at : PdTree → List Nat → Option ProtectionDomain
  | tree, [] => some tree.pd
  | tree, i :: path =>
    match tree.childPds[i]? with
    | some child => child.at path
    | none => none

/-- The protection domain at the end of a path in a forest. -/
def forestAt (forest : List PdTree) : List Nat → Option ProtectionDomain
  | [] => none
  | i :: path =>
    match forest[i]? with
    | some tree => tree.at path
    | none => none

mutual

/-- The paths in a tree, in preorder. -/
def PdTree.paths : PdTree → List (List Nat)
  | .node _ childPds => [] :: forestPaths 0 childPds

/-- The paths in a forest, in preorder. The index of its first tree is `i`. -/
def forestPaths (i : Nat) : List PdTree → List (List Nat)
  | [] => []
  | tree :: trees => tree.paths.map (i :: ·) ++ forestPaths (i + 1) trees

end

lemma forestPaths_append {i : Nat} {trees trees' : List PdTree} :
    forestPaths i (trees ++ trees') = forestPaths i trees ++ forestPaths (i + trees.length) trees' := by
  induction trees generalizing i with
  | nil => rfl
  | cons tree trees ih =>
    rw [List.cons_append, forestPaths, forestPaths, ih, List.append_assoc, List.length_cons]
    rw [show i + 1 + trees.length = i + (trees.length + 1) by omega]

lemma mem_forestPaths {i : Nat} {trees : List PdTree} {path : List Nat} :
    path ∈ forestPaths i trees ↔ ∃ k rest tree, path = (i + k) :: rest ∧ trees[k]? = some tree ∧ rest ∈ tree.paths := by
  induction trees generalizing i with
  | nil =>
    constructor
    · exact nofun
    · rintro ⟨k, rest, tree, -, htree, -⟩
      cases htree
  | cons tree trees ih =>
    rw [forestPaths, List.mem_append, List.mem_map, ih]
    constructor
    · rintro (⟨rest, hrest, rfl⟩ | ⟨k, rest, tree', rfl, htree', hrest⟩)
      · exact ⟨0, rest, tree, rfl, rfl, hrest⟩
      · exact ⟨k + 1, rest, tree', by rw [Nat.add_assoc, Nat.add_comm 1], htree', hrest⟩
    · rintro ⟨_ | k, rest, tree', rfl, htree', hrest⟩
      · cases htree'
        exact .inl ⟨rest, hrest, rfl⟩
      · exact .inr ⟨k, rest, tree', by rw [Nat.add_assoc, Nat.add_comm 1], htree', hrest⟩

/-- The paths in a tree are those at whose ends there is a protection domain. -/
lemma PdTree.mem_paths {tree : PdTree} {path : List Nat} : path ∈ tree.paths ↔ ∃ pd, tree.at path = some pd := by
  induction path generalizing tree with
  | nil =>
    cases tree with
    | node pd childPds => exact ⟨fun _ => ⟨pd, rfl⟩, fun _ => List.mem_cons_self⟩
  | cons i path ih =>
    cases tree with
    | node pd childPds =>
      have hpaths : i :: path ∈ (PdTree.node pd childPds).paths ↔ i :: path ∈ forestPaths 0 childPds := by
        rw [PdTree.paths, List.mem_cons]
        exact or_iff_right nofun
      rw [hpaths, mem_forestPaths, PdTree.at, PdTree.childPds]
      constructor
      · rintro ⟨k, rest, child, e, hchild, hrest⟩
        obtain ⟨rfl, rfl⟩ := List.cons.inj e
        rw [Nat.zero_add, hchild]
        exact ih.mp hrest
      · rintro ⟨pd', hpd'⟩
        cases hchild : childPds[i]? with
        | none =>
          rw [hchild] at hpd'
          cases hpd'
        | some child =>
          rw [hchild] at hpd'
          exact ⟨i, path, child, by rw [Nat.zero_add], hchild, ih.mpr ⟨pd', hpd'⟩⟩

lemma mem_forestPaths_iff {forest : List PdTree} {path : List Nat} :
    path ∈ forestPaths 0 forest ↔ ∃ pd, forestAt forest path = some pd := by
  rw [mem_forestPaths]
  constructor
  · rintro ⟨k, rest, tree, rfl, htree, hrest⟩
    rw [Nat.zero_add, forestAt, htree]
    exact PdTree.mem_paths.mp hrest
  · rintro ⟨pd, hpd⟩
    cases path with
    | nil => cases hpd
    | cons i path =>
      rw [forestAt] at hpd
      cases htree : forest[i]? with
      | none =>
        rw [htree] at hpd
        cases hpd
      | some tree =>
        rw [htree] at hpd
        exact ⟨i, path, tree, by rw [Nat.zero_add], htree, PdTree.mem_paths.mpr ⟨pd, hpd⟩⟩

mutual

/-- Paths are in lexicographic order: a protection domain comes before its children, and siblings in their order. -/
lemma PdTree.paths_pairwise : (tree : PdTree) → tree.paths.Pairwise (List.Lex (· < ·))
  | .node pd childPds => by
    rw [PdTree.paths]
    refine List.pairwise_cons.mpr ⟨fun path hpath => ?_, forestPaths_pairwise 0 childPds⟩
    obtain ⟨k, rest, -, rfl, -⟩ := mem_forestPaths.mp hpath
    exact .nil

lemma forestPaths_pairwise (i : Nat) : (trees : List PdTree) → (forestPaths i trees).Pairwise (List.Lex (· < ·))
  | [] => .nil
  | tree :: trees => by
    rw [forestPaths]
    refine List.pairwise_append.mpr ⟨?_, forestPaths_pairwise (i + 1) trees, fun path hpath path' hpath' => ?_⟩
    · exact List.pairwise_map.mpr (tree.paths_pairwise.imp fun h => .cons h)
    · obtain ⟨rest, -, rfl⟩ := List.mem_map.mp hpath
      obtain ⟨k, rest', -, rfl, -⟩ := mem_forestPaths.mp hpath'
      exact .rel (by omega)

end

lemma forestPaths_nodup (forest : List PdTree) : (forestPaths 0 forest).Nodup := by
  refine (forestPaths_pairwise 0 forest).imp ?_
  rintro path _ h rfl
  exact List.lex_irrefl Nat.lt_irrefl path h

/-! ## The list -/

/-- The protection domain at the index `i` of a list is that with the path `path`, whose parent is `rootParent` if it is
a root, or else is before it in the list. Indices of the list count from `base`. -/
structure Placed (rootParent : Option Nat) (base : Nat) (forest : List PdTree) (i : Nat) (path : List Nat)
    (pd : ProtectionDomain) : Prop where
  same : ∃ pd', forestAt forest path = some pd' ∧ pd = { pd' with parent := pd.parent }
  root : path.length ≤ 1 → pd.parent = rootParent
  nested : 1 < path.length → ∃ j < i, (forestPaths 0 forest)[j]? = some path.dropLast ∧ pd.parent = some (base + j)

/-- A list has the protection domains of a forest in preorder. -/
structure Flattened (rootParent : Option Nat) (base : Nat) (forest : List PdTree) (list : List ProtectionDomain) :
    Prop where
  length : list.length = (forestPaths 0 forest).length
  placed : ∀ {i path pd}, (forestPaths 0 forest)[i]? = some path → list[i]? = some pd →
    Placed rootParent base forest i path pd

lemma forestAt_append {trees trees' : List PdTree} {path : List Nat} {pd : ProtectionDomain}
    (h : forestAt trees path = some pd) : forestAt (trees ++ trees') path = some pd := by
  cases path with
  | nil => cases h
  | cons i path =>
    rw [forestAt] at h ⊢
    cases htree : trees[i]? with
    | none =>
      rw [htree] at h
      cases h
    | some tree =>
      rw [htree] at h
      rw [List.getElem?_append_left (List.getElem?_eq_some_iff.mp htree).1, htree]
      exact h

lemma forestPaths_snoc {trees : List PdTree} {tree : PdTree} :
    forestPaths 0 (trees ++ [tree]) = forestPaths 0 trees ++ tree.paths.map (trees.length :: ·) := by
  rw [forestPaths_append, Nat.zero_add, forestPaths, forestPaths, List.append_nil]

lemma forestPaths_singleton {tree : PdTree} : forestPaths 0 [tree] = tree.paths.map (0 :: ·) := by
  rw [forestPaths, forestPaths, List.append_nil]

section flattened

variable {rootParent : Option Nat} {base : Nat} {forest : List PdTree} {list : List ProtectionDomain}

lemma Flattened.nil : Flattened rootParent base [] [] :=
  ⟨rfl, nofun⟩

/-- One more tree. -/
lemma Flattened.snoc {tree : PdTree} {pds : List ProtectionDomain} (h : Flattened rootParent base forest list)
    (htree : Flattened rootParent (base + list.length) [tree] pds) :
    Flattened rootParent base (forest ++ [tree]) (list ++ pds) := by
  refine ⟨?_, ?_⟩
  · rw [forestPaths_snoc, List.length_append, List.length_append, h.length, htree.length, forestPaths_singleton,
      List.length_map, List.length_map]
  · intro i path pd hpath hpd
    rw [forestPaths_snoc] at hpath
    rcases Nat.lt_or_ge i list.length with hlt | hge
    · rw [List.getElem?_append_left hlt] at hpd
      rw [List.getElem?_append_left (h.length ▸ hlt)] at hpath
      have hp := h.placed hpath hpd
      obtain ⟨pd', hpd', e⟩ := hp.same
      refine ⟨⟨pd', forestAt_append hpd', e⟩, hp.root, fun hlen => ?_⟩
      obtain ⟨j, hj, hparent, e⟩ := hp.nested hlen
      refine ⟨j, hj, ?_, e⟩
      rw [forestPaths_snoc, List.getElem?_append_left (h.length ▸ hj.trans hlt)]
      exact hparent
    · -- in the new tree, whose paths are longer by its index
      rw [List.getElem?_append_right hge] at hpd
      rw [List.getElem?_append_right (h.length ▸ hge), ← h.length, List.getElem?_map] at hpath
      obtain ⟨rest, hrest, rfl⟩ := Option.map_eq_some_iff.mp hpath
      have hsingle : (forestPaths 0 [tree])[i - list.length]? = some (0 :: rest) := by
        rw [forestPaths_singleton, List.getElem?_map, hrest]
        rfl
      have hp := htree.placed hsingle hpd
      refine ⟨?_, hp.root, fun hlen => ?_⟩
      · obtain ⟨pd', hpd', e⟩ := hp.same
        refine ⟨pd', ?_, e⟩
        rw [forestAt, List.getElem?_concat_length]
        exact hpd'
      · obtain ⟨j, hj, hparent, e⟩ := hp.nested hlen
        have hne : rest ≠ [] := fun hnil => by
          rw [hnil] at hlen
          exact absurd hlen (lt_irrefl 1)
        rw [forestPaths_singleton, List.getElem?_map, List.dropLast_cons_of_ne_nil hne] at hparent
        obtain ⟨parent, hparent, e'⟩ := Option.map_eq_some_iff.mp hparent
        obtain rfl := (List.cons.inj e').2
        refine ⟨list.length + j, by omega, ?_, by rw [e, Nat.add_assoc]⟩
        rw [forestPaths_snoc, List.getElem?_append_right (h.length ▸ Nat.le_add_right _ _), ← h.length,
          Nat.add_sub_cancel_left, List.getElem?_map, hparent, List.dropLast_cons_of_ne_nil hne]
        rfl

/-- The root of a tree comes before its children, which have its index as their parent. -/
lemma Flattened.node {pd : ProtectionDomain} {parent : Option Nat} {idx : Nat}
    (h : Flattened (some idx) (idx + 1) forest list) :
    Flattened parent idx [.node pd forest] ({ pd with parent } :: list) := by
  have hpaths : forestPaths 0 [.node pd forest] = [0] :: (forestPaths 0 forest).map (0 :: ·) := by
    rw [forestPaths_singleton, PdTree.paths]
    rfl
  refine ⟨?_, ?_⟩
  · rw [hpaths, List.length_cons, List.length_cons, List.length_map, h.length]
  · intro i path pd' hpath hpd'
    rw [hpaths] at hpath
    cases i with
    | zero =>
      cases hpath
      cases hpd'
      exact ⟨⟨pd, rfl, rfl⟩, fun _ => rfl, fun hlen => absurd hlen (lt_irrefl 1)⟩
    | succ i =>
      rw [List.getElem?_cons_succ] at hpath hpd'
      rw [List.getElem?_map] at hpath
      obtain ⟨rest, hrest, rfl⟩ := Option.map_eq_some_iff.mp hpath
      have hp := h.placed hrest hpd'
      obtain ⟨pd0, hpd0, e⟩ := hp.same
      cases rest with
      | nil => cases hpd0
      | cons k rest =>
        refine ⟨⟨pd0, hpd0, e⟩, fun hlen => absurd hlen (by simp), fun _ => ?_⟩
        rw [hpaths, List.dropLast_cons_of_ne_nil (List.cons_ne_nil k rest)]
        rcases Nat.lt_or_ge 1 (k :: rest).length with hlen | hlen
        · obtain ⟨j, hj, hparent, e⟩ := hp.nested hlen
          refine ⟨j + 1, Nat.succ_lt_succ hj, ?_, by rw [e, Nat.add_assoc, Nat.add_comm 1]⟩
          rw [List.getElem?_cons_succ, List.getElem?_map, hparent]
          rfl
        · -- a child of the root
          obtain rfl : rest = [] := List.length_eq_zero_iff.mp (by simpa using hlen)
          exact ⟨0, Nat.succ_pos i, rfl, hp.root hlen⟩

/-- The parent of a protection domain comes before it. -/
lemma Flattened.parent_lt (h : Flattened none 0 forest list) {i : Nat} {pd : ProtectionDomain}
    (hpd : list[i]? = some pd) {parent : Nat} (hparent : pd.parent = some parent) : parent < i := by
  have hlt : i < (forestPaths 0 forest).length := h.length ▸ (List.getElem?_eq_some_iff.mp hpd).1
  have hp := h.placed (List.getElem?_eq_getElem hlt) hpd
  rcases Nat.lt_or_ge 1 (forestPaths 0 forest)[i].length with hlen | hlen
  · obtain ⟨j, hj, -, e⟩ := hp.nested hlen
    rw [hparent, Nat.zero_add] at e
    exact Option.some.inj e ▸ hj
  · cases hparent.symm.trans (hp.root hlen)

end flattened

section flatten

variable {filename : String}

mutual

lemma pdTreeToList_flattened {parent : Option Nat} {idx : Nat} {list : List ProtectionDomain} : (tree : PdTree) →
    pdTreeToList filename parent idx tree = .ok list → Flattened parent idx [tree] list
  | .node pd childPds => fun h => by
    rw [pdTreeToList] at h
    obtain ⟨⟨⟩, -, h⟩ := bind_ok.mp h
    obtain ⟨newChildPds, hchildren, h⟩ := bind_ok.mp h
    obtain rfl := pure_ok.mp h
    exact .node (childPdsToList_flattened childPds .nil hchildren)

lemma childPdsToList_flattened {parent : Nat} {before : List PdTree} {newChildPds list : List ProtectionDomain} :
    (trees : List PdTree) → Flattened (some parent) (parent + 1) before newChildPds →
    childPdsToList filename parent newChildPds trees = .ok list →
    Flattened (some parent) (parent + 1) (before ++ trees) list
  | [] => fun hbefore h => by
    rw [childPdsToList] at h
    obtain rfl := pure_ok.mp h
    rwa [List.append_nil]
  | child :: children => fun hbefore h => by
    rw [childPdsToList] at h
    obtain ⟨pds, hpds, h⟩ := bind_ok.mp h
    have hchild := pdTreeToList_flattened child hpds
    rw [Nat.add_right_comm] at hchild
    rw [List.append_cons]
    exact childPdsToList_flattened children (hbefore.snoc hchild) h

end

lemma pdFlatten_flattened {forest : List PdTree} {list : List ProtectionDomain}
    (h : pdFlatten filename forest = .ok list) : Flattened none 0 forest list := by
  refine foldlM_prefix (P := Flattened none 0) ?_ .nil h
  intro before tree allPds allPds' hb hstep
  obtain ⟨pds, hpds, e⟩ := bind_ok.mp hstep
  obtain rfl := pure_ok.mp e
  have htree := pdTreeToList_flattened tree hpds
  rw [← Nat.zero_add allPds.length] at htree
  exact hb.snoc htree

/-! ## Channels -/

/-- Channels add setvars to protection domains, and change nothing else. -/
def SameButSetvars (pd pd' : ProtectionDomain) : Prop :=
  pd' = { pd with setvars := pd'.setvars }

lemma sameButSetvars_refl (pds : List ProtectionDomain) : List.Forall₂ SameButSetvars pds pds :=
  List.forall₂_same.mpr fun _ _ => rfl

lemma sameButSetvars_trans {pds pds' pds'' : List ProtectionDomain} (h : List.Forall₂ SameButSetvars pds pds')
    (h' : List.Forall₂ SameButSetvars pds' pds'') : List.Forall₂ SameButSetvars pds pds'' := by
  refine forall₂_comp ?_ h h'
  intro pd pd' pd'' e e'
  unfold SameButSetvars at e e' ⊢
  rw [e', e]

lemma sameButSetvars_set {pds : List ProtectionDomain} {i : Nat} {pd pd' : ProtectionDomain} (hpd : pds[i]? = some pd)
    (h : SameButSetvars pd pd') : List.Forall₂ SameButSetvars pds (pds.set i pd') := by
  induction pds generalizing i with
  | nil => exact .nil
  | cons first rest ih =>
    cases i with
    | zero =>
      cases hpd
      exact .cons h (sameButSetvars_refl rest)
    | succ i => exact .cons rfl (ih hpd)

lemma addEndSetvar_same {pds pds' : List ProtectionDomain} {channelEnd : ChannelEnd} {node : Node}
    (h : addEndSetvar filename pds channelEnd node = .ok pds') : List.Forall₂ SameButSetvars pds pds' := by
  unfold addEndSetvar at h
  split at h
  · rename_i symbol pd _ hpd
    obtain ⟨setvars, -, h⟩ := bind_ok.mp h
    obtain rfl := pure_ok.mp h
    exact sameButSetvars_set hpd rfl
  · obtain rfl := pure_ok.mp h
    exact sameButSetvars_refl pds

lemma addChannel_same {acc acc' : List ProtectionDomain × List Channel} {node : Node}
    (h : addChannel filename acc node = .ok acc') : List.Forall₂ SameButSetvars acc.1 acc'.1 := by
  unfold addChannel at h
  obtain ⟨ch, -, h⟩ := bind_ok.mp h
  obtain ⟨pds1, h1, h⟩ := bind_ok.mp h
  obtain ⟨pds2, h2, h⟩ := bind_ok.mp h
  obtain rfl := pure_ok.mp h
  exact sameButSetvars_trans (addEndSetvar_same h1) (addEndSetvar_same h2)

lemma addChannels_same {acc acc' : List ProtectionDomain × List Channel} {nodes : List Node}
    (h : nodes.foldlM (addChannel filename) acc = .ok acc') : List.Forall₂ SameButSetvars acc.1 acc'.1 := by
  refine foldlM_ok (P := fun acc' => List.Forall₂ SameButSetvars acc.1 acc'.1) ?_ (sameButSetvars_refl acc.1) h
  intro node _ acc1 acc2 h1 hstep
  exact sameButSetvars_trans h1 (addChannel_same hstep)

end flatten

end NexsKernel.Sdf
