import YamlOrder.Proofs.Tree.Parsed
import YamlOrder.Proofs.Tree.Reorder
import YamlOrder.Sorter

/-!
This module contains how far sorting keeps what aliases mean: told by its number, every node means
what it meant, but the name of an alias can lead to another node when several nodes have it.
-/

namespace YamlOrder
namespace Tree

open Yaml
open Node (nodes)

variable {top nested : Comparator} {root n n' : Node} {name : Text}

theorem mention?_sortNested (cmp : Comparator) (n : Node)
    : mention? name (sortNested cmp n) = mention? name n := by
  cases n
  all_goals rfl

theorem children_perm_of_sortsTo (h : SortsTo top nested root n n')
    : n'.children.Perm (n.children.map (sortNested nested)) := by
  obtain rfl | ⟨rfl, rfl⟩ := h
  . exact children_sortNested_perm nested n
  . exact children_sortRoot_perm top nested n

theorem numbersOf_sortRoot_perm (top nested : Comparator) (root : Node) (name : Text)
    : (numbersOf name (sortRoot top nested root).preorder).Perm (numbersOf name root.preorder) := by
  rw [numbersOf_eq, numbersOf_eq]
  exact ((anchors_sortRoot_perm top nested root).filter _).map _

theorem links_sortRoot_perm (top nested : Comparator) (root : Node)
    : ((sortRoot top nested root).preorder.filterMap link?).Perm
      (root.preorder.filterMap link?) := by
  apply filterMap_preorder_sortRoot_perm
  . intro n
    cases n
    all_goals rfl
  . cases root
    all_goals rfl

theorem mentions_children_perm (h : SortsTo top nested root n n') (name : Text)
    : (mentions name (nodes n'.children)).Perm (mentions name (nodes n.children)) := by
  unfold mentions
  rw [Node.filterMap_nodes, Node.filterMap_nodes]
  refine ((children_perm_of_sortsTo h).flatMap_right _).trans ?_
  rw [List.flatMap_map]
  exact List.Perm.flatMap_left _ fun c _ => filterMap_preorder_sortNested_perm
    (mention?_sortNested nested) c

theorem Shallow.sortRoot (h : Shallow root) (top nested : Comparator)
    : Shallow (sortRoot top nested root) := by
  intro d' hd' a ha hlink b hb hname
  obtain ⟨d, hd, hsorts⟩ := exists_sortsTo hd'
  have ha' : a ∈ d.anchor := by
    rw [← Node.anchor_eq_of_head_eq hsorts.head_eq]
    exact ha
  have hlink' := (links_sortRoot_perm top nested root).mem_iff.mp hlink
  have hb' := (anchors_sortRoot_perm top nested root).mem_iff.mp hb
  have hname' : Repeated root b.name := by
    unfold Repeated at hname ⊢
    rwa [(numbersOf_sortRoot_perm top nested root b.name).length_eq] at hname
  have hperm := mentions_children_perm hsorts b.name
  rwa [h d hd a ha' hlink' b hb' hname', List.perm_nil] at hperm

theorem reordered_of_anchor (top nested : Comparator) {a : Anchor} (hlinked : Linked root)
    (ha : a ∈ root.anchors)
    : ∃ d e, findAnchor? a.number root = some d ∧
        findAnchor? a.number (fixAnchors (sortRoot top nested root)) = some e ∧
        ∀ depth, Reordered (expandLinks root depth d)
          (expandLinks (fixAnchors (sortRoot top nested root)) depth e) := by
  have hsorted := hlinked.sortRoot top nested
  obtain ⟨d, hd, hanchor⟩ := Node.mem_anchors.mp ha
  obtain ⟨d', hd', hsorts⟩ := exists_findAnchor?_sortsTo top nested hlinked hd hanchor
  obtain ⟨hmem, b, hb, hnumber⟩ := findAnchor?_eq_some hd'
  obtain ⟨e, he, hrenews⟩ := exists_findAnchor?_renews hsorted (matches_fixAnchors hsorted)
    (anchors_fixAnchors_perm hsorted) hmem hb
  rw [hnumber] at he
  refine ⟨d, e, findAnchor?_of_mem hlinked hd hanchor, he, ?_⟩
  intro depth
  have hmatch : Matches (sortRoot top nested root) d' e :=
    .renew (.inl ⟨Node.isAlias_eq_false_of_anchor hb, rfl⟩) hrenews.1 hrenews.2
  rw [hmatch.expandLinks_eq (Node.preorder_subset_of_mem hmem) hsorted (matches_fixAnchors hsorted)
    (anchors_fixAnchors_perm hsorted)]
  exact hsorts.reordered hd hlinked depth

/--
Every alias, read as the nearest node before it with its name, means what it meant in the tree
before, up to the order of pairs.
-/
def KeepsAliases (root out : Node) : Prop :=
  ∀ before i name target after, out.preorder = before ++ .alias i name target :: after →
    ∃ k, (numbersOf name before).getLast? = some k ∧
      ∀ depth, Reordered (expandLinks root depth (.alias i name target))
      (expandLinks out depth (.alias i name k))

theorem expandLinks_alias {d : Node} {i : NodeInfo} {target : Nat}
    (h : findAnchor? target root = some d) (depth : Nat)
    : expandLinks root depth (.alias i name target) = expandLinks root depth d := by
  obtain ⟨-, a, ha, -⟩ := findAnchor?_eq_some h
  cases depth with
  | zero => rfl
  | succ depth =>
    rw [expandLinks, expandLinks, follow_alias h,
      follow_of_not_alias (Node.isAlias_eq_false_of_anchor ha)]

theorem KeepsAliases.of_scoped (hlinked : Linked root)
    (h : Scoped (fixAnchors (sortRoot top nested root)).preorder)
    : KeepsAliases root (fixAnchors (sortRoot top nested root)) := by
  intro before i name target after hsplit
  refine ⟨target, h before i name target after hsplit, ?_⟩
  intro depth
  have hmem := (linked_fixAnchors (hlinked.sortRoot top nested)).target i name target
    (by simp [hsplit])
  have ha := (anchors_sortRoot_perm top nested root).mem_iff.mp
    ((anchors_fixAnchors_perm (hlinked.sortRoot top nested)).mem_iff.mp hmem)
  obtain ⟨d, e, hd, he, hreordered⟩ := reordered_of_anchor top nested hlinked ha
  rw [expandLinks_alias hd, expandLinks_alias he]
  exact hreordered depth

end Tree

namespace Sorter

open YamlOrder.Tree

/--
What sorting does to the meaning of a document that has been read, where every alias stands for the
nearest node before it with its name. Told by their numbers, the document and all nodes that aliases
stand for mean what they meant, up to the order of pairs. Told by their names, as a reader of the
new text does, every alias stands for its own node again exactly if the sorted document is in order,
and then it means what it meant. The last part is about documents without names of several nodes
below the nodes that aliases stand for: these move together with what is below them.
-/
theorem arrange_keeps_meaning {text : Text} {t : Yaml.Tree} (top nested : Comparator)
    (h : Yaml.Tree.parse text = .ok (some t))
    : Scoped t.root.preorder ∧
      (∀ depth, Reordered (expandLinks t.root depth t.root)
        (expandLinks (arrange (some (top, nested)) t).root depth
          (arrange (some (top, nested)) t).root)) ∧
      (∀ a ∈ t.root.anchors, ∃ d e, findAnchor? a.number t.root = some d ∧
        findAnchor? a.number (arrange (some (top, nested)) t).root = some e ∧
        ∀ depth, Reordered (expandLinks t.root depth d)
          (expandLinks (arrange (some (top, nested)) t).root depth e)) ∧
      (Shallow t.root →
        (Scoped (arrange (some (top, nested)) t).root.preorder ↔
          InOrder (sortRoot top nested t.root).preorder) ∧
        (InOrder (sortRoot top nested t.root).preorder →
          KeepsAliases t.root (arrange (some (top, nested)) t).root)) := by
  have hlinked := linked_of_parse h
  have hsorted := hlinked.sortRoot top nested
  refine ⟨scoped_of_parse h, ?_, fun a ha => reordered_of_anchor _ _ hlinked ha, fun hshallow => ?_⟩
  . intro depth
    have hmatch := matches_fixAnchors hsorted
    rw [arrange, hmatch.expandLinks_eq (List.Subset.refl _) hsorted hmatch
      (anchors_fixAnchors_perm hsorted)]
    exact SortsTo.reordered (.inr ⟨rfl, rfl⟩) (Yaml.Node.self_mem_preorder _) hlinked depth
  . have hscoped := scoped_fixAnchors_iff hsorted (hshallow.sortRoot top nested)
    exact ⟨hscoped, fun horder => .of_scoped hlinked (hscoped.mpr horder)⟩

/-- The pair of a key and a number with the name `x`, in a line of a document. -/
def namedPair (line number : Nat) (key value : Text) : Yaml.Node × Yaml.Node :=
  (.scalar { tag := Yaml.Tag.str, line, column := 1 } key .plain,
    .scalar { tag := Yaml.Tag.int, anchor := some ⟨"x", number⟩, line, column := 4 } value .plain)

/-- The pair of a key and an alias with the name `x`. -/
def aliasPair (line target : Nat) (key : Text) : Yaml.Node × Yaml.Node :=
  (.scalar { tag := Yaml.Tag.str, line, column := 1 } key .plain,
    .alias { line, column := 4 } "x" target)

def mappingOf (pairs : List (Yaml.Node × Yaml.Node)) : Yaml.Node :=
  .mapping { tag := Yaml.Tag.map, line := 1, column := 1 } false pairs

/-- The orders of a sorter for which the keys `a`, `b` and `c` are keywords. -/
def alphabetical : Comparator × Comparator :=
  ({ settings := { keywords1 := ["a", "b", "c"] } } : Sorter).comparators 1

/-- The first of two nodes with a name moves to the alias before it. -/
theorem arrange_keeps_aliases_moved
    : Yaml.Tree.parse "b: &x 1\na: *x\nc: &x 2\n" =
        .ok
        (some
          { root := mappingOf [namedPair 1 0 "b" "1", aliasPair 2 0 "a", namedPair 3 1 "c" "2"] }) ∧
      KeepsAliases (mappingOf [namedPair 1 0 "b" "1", aliasPair 2 0 "a", namedPair 3 1 "c" "2"])
        (arrange (some alphabetical)
          { root := mappingOf [namedPair 1 0 "b" "1", aliasPair 2 0 "a",
            namedPair 3 1 "c" "2"] }).root := by
  have hparse : Yaml.Tree.parse "b: &x 1\na: *x\nc: &x 2\n" =
      .ok
      (some
      { root := mappingOf [namedPair 1 0 "b" "1", aliasPair 2 0 "a", namedPair 3 1 "c" "2"] }) := by
    decide +kernel
  have hba : alphabetical.1 "b" "a" = .gt := by decide +kernel
  have hac : alphabetical.1 "a" "c" = .lt := by decide +kernel
  have hbc : alphabetical.1 "b" "c" = .lt := by decide +kernel
  have hsort : sortRoot alphabetical.1 alphabetical.2
        (mappingOf [namedPair 1 0 "b" "1", aliasPair 2 0 "a", namedPair 3 1 "c" "2"]) =
      mappingOf [aliasPair 2 0 "a", namedPair 1 0 "b" "1", namedPair 3 1 "c" "2"] := by
    simp [mappingOf, namedPair, aliasPair, sortRoot, sortBoth, sortNested, sortPairs,
      List.mergeSort,
      List.MergeSort.Internal.splitInTwo, Yaml.Node.keyText, hba, hac, hbc]
  obtain ⟨-, -, -, h⟩ := arrange_keeps_meaning alphabetical.1 alphabetical.2 hparse
  obtain ⟨-, hkeeps⟩ := h (by decide +kernel)
  refine ⟨hparse, hkeeps ?_⟩
  rw [hsort]
  decide +kernel

/-- An alias comes to stand between another node with its name and its own one. -/
theorem arrange_breaks_aliases
    : ¬ ∀ (text : Text) (t : Yaml.Tree) (top nested : Comparator),
      Yaml.Tree.parse text = .ok (some t) →
        KeepsAliases t.root (arrange (some (top, nested)) t).root := by
  intro h
  have hparse : Yaml.Tree.parse "c: &x 1\nb: *x\na: &x 2\n" =
      .ok
      (some
      { root := mappingOf [namedPair 1 0 "c" "1", aliasPair 2 0 "b", namedPair 3 1 "a" "2"] }) := by
    decide +kernel
  have hcb : alphabetical.1 "c" "b" = .gt := by decide +kernel
  have hba : alphabetical.1 "b" "a" = .gt := by decide +kernel
  have hsort : sortRoot alphabetical.1 alphabetical.2
        (mappingOf [namedPair 1 0 "c" "1", aliasPair 2 0 "b", namedPair 3 1 "a" "2"]) =
      mappingOf [namedPair 3 1 "a" "2", aliasPair 2 0 "b", namedPair 1 0 "c" "1"] := by
    simp [mappingOf, namedPair, aliasPair, sortRoot, sortBoth, sortNested, sortPairs,
      List.mergeSort,
      List.MergeSort.Internal.splitInTwo, Yaml.Node.keyText, hba, hcb]
  have hfix : fixAnchors
    (mappingOf [namedPair 3 1 "a" "2", aliasPair 2 0 "b", namedPair 1 0 "c" "1"]) =
      mappingOf [namedPair 3 1 "a" "2", aliasPair 2 0 "b", namedPair 1 0 "c" "1"] := by
    decide +kernel
  have hkeeps := h _ _ alphabetical.1 alphabetical.2 hparse
  rw [arrange, hsort, hfix] at hkeeps
  obtain ⟨k, hk, hreordered⟩ := hkeeps
    [mappingOf [namedPair 3 1 "a" "2", aliasPair 2 0 "b", namedPair 1 0 "c" "1"],
      (namedPair 3 1 "a" "2").1,
      (namedPair 3 1 "a" "2").2, (aliasPair 2 0 "b").1]
    { line := 2, column := 4 } "x" 0 [(namedPair 1 0 "c" "1").1, (namedPair 1 0 "c" "1").2]
      (by decide +kernel)
  obtain rfl : 1 = k := by
    rw [← Option.some.injEq, ← hk]
    decide +kernel
  have hhead := (hreordered 1).head_eq
  revert hhead
  decide +kernel

end Sorter
end YamlOrder
