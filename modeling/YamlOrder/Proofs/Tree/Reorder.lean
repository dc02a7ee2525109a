import YamlOrder.Proofs.Tree.Repair
import YamlOrder.Proofs.Tree.Linked

/-!
This module contains the meaning of a tree after sorting: the same one as before, up to the order of
the pairs in mappings.
-/

namespace YamlOrder
namespace Tree

open Yaml
open Node (nodes)

variable {top nested : Comparator} {root n n' d d' : Node}

/-- Trees without aliases that are the same apart from the order of the pairs in mappings. -/
inductive Reordered : Expansion → Expansion → Prop
  | cut : Reordered .cut .cut
  | node {cs ds : List Expansion} (head : Node) (h : List.Forall₂ Reordered cs ds)
    : Reordered (.node head cs) (.node head ds)
  | mapping {cs : List Expansion} {ps qs : List (Expansion × Expansion)} (i : NodeInfo)
      (flow : Bool)
    (h : List.Forall₂ Reordered cs (ps.flatMap fun p => [p.1, p.2])) (hperm : ps.Perm qs)
    : Reordered (.node (.mapping i flow []) cs)
    (.node (.mapping i flow []) (qs.flatMap fun q => [q.1, q.2]))

theorem Reordered.head_eq {m m' : Node} {cs ds : List Expansion}
    (h : Reordered (.node m cs) (.node m' ds))
    : m = m' := by
  cases h
  all_goals rfl

/-- What sorting a tree makes of the tree and of what is below it. -/
def SortsTo (top nested : Comparator) (root n n' : Node) : Prop :=
  n' = sortNested nested n ∨ (n = root ∧ n' = sortRoot top nested root)

theorem head_sortNested (cmp : Comparator) (n : Node) : (sortNested cmp n).head = n.head := by
  cases n
  all_goals rfl

theorem head_sortRoot (top nested : Comparator) (n : Node)
    : (sortRoot top nested n).head = n.head := by
  cases n
  all_goals rfl

theorem SortsTo.head_eq (h : SortsTo top nested root n n') : n'.head = n.head := by
  obtain rfl | ⟨rfl, rfl⟩ := h
  . exact head_sortNested nested n
  . exact head_sortRoot top nested n

theorem preorder_sortNested_perm (cmp : Comparator) (n : Node)
    : (sortNested cmp n).preorder.Perm (n.preorder.map (sortNested cmp)) := by
  induction n using Node.induction_on_children with
  | h n ih =>
    rw [Node.preorder_eq, Node.preorder_eq, List.map_cons]
    apply List.Perm.cons
    refine ((children_sortNested_perm cmp n).flatMap_right _).trans ?_
    rw [List.flatMap_map, nodes, List.map_flatMap]
    exact List.Perm.flatMap_left _ ih

theorem exists_sortsTo (h : n' ∈ (sortRoot top nested root).preorder)
    : ∃ n ∈ root.preorder, SortsTo top nested root n n' := by
  rw [Node.preorder_eq, List.mem_cons] at h
  cases h with
  | inl h => exact ⟨root, Node.self_mem_preorder root, Or.inr ⟨rfl, h⟩⟩
  | inr h =>
    obtain ⟨c', hc', hn'⟩ := Node.mem_nodes.mp h
    obtain ⟨c, hc, rfl⟩ := List.mem_map.mp ((children_sortRoot_perm top nested root).mem_iff.mp hc')
    obtain ⟨n, hn, rfl⟩ := List.mem_map.mp ((preorder_sortNested_perm nested c).mem_iff.mp hn')
    exact ⟨n, Node.nodes_children_subset root (Node.mem_nodes.mpr ⟨c, hc, hn⟩), Or.inl rfl⟩

theorem anchors_sortRoot_perm (top nested : Comparator) (root : Node)
    : (sortRoot top nested root).anchors.Perm root.anchors := by
  apply filterMap_preorder_sortRoot_perm
  . exact fun n => Node.anchor_eq_of_head_eq (head_sortNested nested n)
  . exact Node.anchor_eq_of_head_eq (head_sortRoot top nested root)

theorem exists_findAnchor?_sortsTo (top nested : Comparator) {a : Anchor} (hlinked : Linked root)
    (hd : d ∈ root.preorder) (ha : d.anchor = some a)
    : ∃ d', findAnchor? a.number (sortRoot top nested root) = some d' ∧
      SortsTo top nested root d d' := by
  have hmem : a ∈ (sortRoot top nested root).anchors :=
    (anchors_sortRoot_perm top nested root).mem_iff.mpr (Node.mem_anchors.mpr ⟨d, hd, ha⟩)
  obtain ⟨d', hd'⟩ := Option.isSome_iff_exists.mp (isSome_findAnchor? hmem)
  obtain ⟨hmem', b, hb, hnumber⟩ := findAnchor?_eq_some hd'
  obtain ⟨e, he, hsorts⟩ := exists_sortsTo hmem'
  have heb : e.anchor = some b := by
    rw [← Node.anchor_eq_of_head_eq hsorts.head_eq, hb]
  obtain rfl := hlinked.node_eq he hd heb ha hnumber
  exact ⟨d', hd', hsorts⟩

theorem SortsTo.alias {i : NodeInfo} {name : Text} {target : Nat}
    (h : SortsTo top nested root (.alias i name target) n') : n' = .alias i name target := by
  obtain h | ⟨rfl, h⟩ := h
  . exact h
  . exact h

theorem SortsTo.follow (h : SortsTo top nested root n n') (hn : n ∈ root.preorder)
    (hlinked : Linked root)
    : follow root n ∈ root.preorder ∧
        SortsTo top nested root (follow root n) (follow (sortRoot top nested root) n') := by
  by_cases halias : n.isAlias = true
  . obtain ⟨i, name, target, rfl⟩ := Node.exists_alias halias
    obtain ⟨d, hd, ha⟩ := Node.mem_anchors.mp (hlinked.target i name target hn)
    obtain ⟨d', hd', hsorts⟩ := exists_findAnchor?_sortsTo top nested hlinked hd ha
    rw [h.alias, follow_alias (findAnchor?_of_mem hlinked hd ha), follow_alias hd']
    exact ⟨hd, hsorts⟩
  . have halias : n.isAlias = false := by simpa using halias
    have halias' := Node.isAlias_eq_of_head_eq h.head_eq
    rw [halias] at halias'
    rw [follow_of_not_alias halias, follow_of_not_alias halias']
    exact ⟨hn, h⟩

theorem sortBoth_eq (cmp : Comparator) (pairs : List (Node × Node))
    : sortBoth cmp pairs = pairs.map fun p => (sortNested cmp p.1, sortNested cmp p.2) := by
  induction pairs with
  | nil => rfl
  | cons p pairs ih =>
    obtain ⟨k, v⟩ := p
    rw [sortBoth, ih, List.map_cons]

theorem SortsTo.children (h : SortsTo top nested root n n')
    : n'.children = n.children.map (sortNested nested) ∨
        ∃ i flow pairs qs, n = .mapping i flow pairs ∧ n' = .mapping i flow qs ∧
          (pairs.map fun p => (sortNested nested p.1, sortNested nested p.2)).Perm qs := by
  have hpairs (cmp : Comparator) (pairs : List (Node × Node))
      : (pairs.map fun p => (sortNested nested p.1, sortNested nested p.2)).Perm
          (sortPairs cmp (sortBoth nested pairs)) := by
    rw [← sortBoth_eq]
    exact (List.mergeSort_perm _ _).symm
  have hnested (n : Node)
      : (sortNested nested n).children = n.children.map (sortNested nested) ∨
          ∃ i flow pairs qs, n = .mapping i flow pairs ∧ sortNested nested n = .mapping i flow qs ∧
            (pairs.map fun p => (sortNested nested p.1, sortNested nested p.2)).Perm qs := by
    match n with
    | .scalar _ _ _ => exact Or.inl rfl
    | .alias _ _ _ => exact Or.inl rfl
    | .sequence _ _ items => exact Or.inl (sortItems_eq items)
    | .mapping i flow pairs => exact Or.inr ⟨i, flow, pairs, _, rfl, rfl, hpairs nested pairs⟩
  obtain rfl | ⟨rfl, rfl⟩ := h
  . exact hnested n
  . match n with
    | .mapping i flow pairs => exact Or.inr ⟨i, flow, pairs, _, rfl, rfl, hpairs top pairs⟩
    | .scalar _ _ _ => exact hnested (.scalar _ _ _)
    | .alias _ _ _ => exact hnested (.alias _ _ _)
    | .sequence _ _ _ => exact hnested (.sequence _ _ _)

theorem map_flatten {α : Type} (f : Node → α) (pairs : List (Node × Node))
    : (flatten pairs).map f = (pairs.map fun p => (f p.1, f p.2)).flatMap fun p => [p.1, p.2] := by
  simp [flatten, List.map_flatMap, List.flatMap_map]

theorem forall₂_map {α β γ : Type} {r : β → γ → Prop} {xs : List α} {f : α → β} {g : α → γ}
    (h : ∀ x ∈ xs, r (f x) (g x)) : List.Forall₂ r (xs.map f) (xs.map g) := by
  rw [List.forall₂_map_left_iff, List.forall₂_map_right_iff, List.forall₂_same]
  exact h

/-- Sorting keeps what a node means, aliases being told by their numbers. -/
theorem SortsTo.reordered (h : SortsTo top nested root n n') (hn : n ∈ root.preorder)
    (hlinked : Linked root) (depth : Nat)
    : Reordered (expandLinks root depth n) (expandLinks (sortRoot top nested root) depth n') := by
  induction depth generalizing n n' with
  | zero => exact .cut
  | succ depth ih =>
    obtain ⟨hmem, hsorts⟩ := h.follow hn hlinked
    rw [expandLinks, expandLinks, hsorts.head_eq]
    have hchild : ∀ c ∈ (Tree.follow root n).children,
        Reordered (expandLinks root depth c)
          (expandLinks (sortRoot top nested root) depth (sortNested nested c)) := by
      intro c hc
      apply ih (Or.inl rfl)
      exact Node.preorder_subset_of_mem hmem
        (Node.nodes_children_subset _ (Node.mem_nodes_of_mem hc))
    obtain hchildren | ⟨i, flow, pairs, qs, hd, hd', hperm⟩ := hsorts.children
    . rw [hchildren, List.map_map]
      exact .node _ (forall₂_map hchild)
    . rw [hd] at hchild ⊢
      rw [hd', show (Node.mapping i flow qs).children = flatten qs from rfl, map_flatten _ qs]
      refine .mapping _ flow ?_ (hperm.map _)
      simpa only [Node.children, map_flatten, List.map_map, Function.comp_def]
        using forall₂_map hchild

end Tree
end YamlOrder
