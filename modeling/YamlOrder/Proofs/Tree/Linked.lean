import Mathlib.Data.List.Nodup
import Mathlib.Data.List.Perm.Basic
import YamlOrder.Proofs.Tree.Children
import YamlOrder.Tree.Arrange

/-!
This module contains the trees in which every alias has a node to stand for. Sorting keeps them:
nodes change places, but none of them is lost.
-/

namespace YamlOrder
namespace Tree

open Yaml
open Node (nodes)

variable {root n d : Node} {a b : Anchor} {number : Nat} {cmp top nested : Comparator}

/--
A tree whose anchors have numbers of their own, so that a number tells a node, and in which every
alias has the name and the number of an anchor.
-/
structure Linked (root : Node) : Prop where
  nodup : (root.anchors.map (·.number)).Nodup
  target : ∀ i name number, .alias i name number ∈ root.preorder → ⟨name, number⟩ ∈ root.anchors

/-- Whether an alias has the name and the number of an anchor. -/
def hasTarget (root : Node) : Node → Bool
  | .alias _ name number => root.anchors.contains ⟨name, number⟩
  | _ => true

theorem linked_iff : Linked root ↔
    (root.anchors.map (·.number)).Nodup ∧ ∀ n ∈ root.preorder, hasTarget root n = true := by
  constructor
  . intro h
    refine ⟨h.nodup, ?_⟩
    intro n hn
    cases n
    all_goals simp only [hasTarget, List.contains_iff_mem]
    exact h.target _ _ _ hn
  . intro ⟨hnodup, htarget⟩
    refine ⟨hnodup, ?_⟩
    intro i name number hmem
    simpa [hasTarget] using htarget _ hmem

instance : Decidable (Linked root) := decidable_of_iff _ linked_iff.symm

theorem eq_of_nodup_filterMap {α β γ : Type} {f : α → Option β} {g : β → γ} {l : List α}
    {x y : α} {a b : β} (h : ((l.filterMap f).map g).Nodup) (hx : x ∈ l) (hy : y ∈ l)
    (hfx : f x = some a) (hfy : f y = some b) (hg : g a = g b) : x = y := by
  have hmem {z : α} {c : β} {l : List α} (hz : z ∈ l) (hfz : f z = some c) : g c ∈
    (l.filterMap f).map g :=
    List.mem_map_of_mem (List.mem_filterMap.mpr ⟨z, hz, hfz⟩)
  induction l with
  | nil => simp at hx
  | cons z l ih =>
    have htail : ((l.filterMap f).map g).Nodup := by
      refine h.sublist (List.Sublist.map g ?_)
      exact (List.sublist_cons_self z l).filterMap f
    rw [List.mem_cons] at hx hy
    rcases hx with rfl | hx
    . rcases hy with rfl | hy
      . rfl
      . rw [List.filterMap_cons_some hfx, List.map_cons, List.nodup_cons] at h
        exact absurd (hg ▸ hmem hy hfy) h.1
    . rcases hy with rfl | hy
      . rw [List.filterMap_cons_some hfy, List.map_cons, List.nodup_cons] at h
        exact absurd (hg ▸ hmem hx hfx) h.1
      . exact ih htail hx hy

theorem Linked.node_eq (h : Linked root) (hn : n ∈ root.preorder) (hd : d ∈ root.preorder)
    (ha : n.anchor = some a) (hb : d.anchor = some b) (hnumber : a.number = b.number) : n = d :=
  eq_of_nodup_filterMap h.nodup hn hd ha hb hnumber

theorem Linked.anchor_eq (h : Linked root) (ha : a ∈ root.anchors) (hb : b ∈ root.anchors)
    (hnumber : a.number = b.number) : a = b :=
  List.inj_on_of_nodup_map h.nodup ha hb hnumber

theorem findAnchor?_eq_some (h : findAnchor? number root = some d)
    : d ∈ root.preorder ∧ ∃ a, d.anchor = some a ∧ a.number = number := by
  refine ⟨List.mem_of_find?_eq_some h, ?_⟩
  have := List.find?_some h
  simpa [Option.any_eq_true] using this

theorem isSome_findAnchor? (ha : a ∈ root.anchors) : (findAnchor? a.number root).isSome = true := by
  obtain ⟨d, hd, hanchor⟩ := Node.mem_anchors.mp ha
  rw [findAnchor?, List.find?_isSome]
  exact ⟨d, hd, by simp [hanchor]⟩

theorem sortItems_eq (items : List Node) : sortItems cmp items = items.map (sortNested cmp) := by
  induction items with
  | nil => rfl
  | cons n rest ih => rw [sortItems, ih, List.map_cons]

theorem flatten_sortBoth (pairs : List (Node × Node))
    : flatten (sortBoth cmp pairs) = (flatten pairs).map (sortNested cmp) := by
  induction pairs with
  | nil => rfl
  | cons p pairs ih =>
    obtain ⟨k, v⟩ := p
    simp [sortBoth, ih]

theorem flatten_sortPairs_perm (pairs : List (Node × Node))
    : (flatten (sortPairs cmp pairs)).Perm (flatten pairs) :=
  (List.mergeSort_perm _ _).flatMap_right _

theorem children_sortNested_perm (cmp : Comparator) (n : Node)
    : (sortNested cmp n).children.Perm (n.children.map (sortNested cmp)) := by
  match n with
  | .scalar _ _ _ => exact List.Perm.refl _
  | .alias _ _ _ => exact List.Perm.refl _
  | .sequence _ _ items =>
    rw [sortNested, Node.children, sortItems_eq]
    exact List.Perm.refl _
  | .mapping _ _ pairs =>
    rw [sortNested, Node.children, Node.children, ← flatten_sortBoth]
    exact flatten_sortPairs_perm _

theorem children_sortRoot_perm (top nested : Comparator) (n : Node)
    : (sortRoot top nested n).children.Perm (n.children.map (sortNested nested)) := by
  match n with
  | .scalar _ _ _ => exact List.Perm.refl _
  | .alias _ _ _ => exact List.Perm.refl _
  | .sequence i flow items => exact children_sortNested_perm nested (.sequence i flow items)
  | .mapping _ _ pairs =>
    rw [sortRoot, Node.children, Node.children, ← flatten_sortBoth]
    exact flatten_sortPairs_perm _

section Facts

variable {β : Type} {f : Node → Option β}

theorem filterMap_preorder_perm {m n : Node} (hf : f m = f n)
    (hchildren : m.children.Perm (n.children.map (sortNested cmp)))
    (hbelow : ∀ c ∈ n.children,
      ((sortNested cmp c).preorder.filterMap f).Perm (c.preorder.filterMap f))
    : (m.preorder.filterMap f).Perm (n.preorder.filterMap f) := by
  rw [Node.filterMap_preorder, Node.filterMap_preorder, hf, Node.filterMap_nodes,
    Node.filterMap_nodes]
  apply List.Perm.append_left
  refine (hchildren.flatMap_right _).trans ?_
  rw [List.flatMap_map]
  exact List.Perm.flatMap_left _ hbelow

theorem filterMap_preorder_sortNested_perm (hf : ∀ n, f (sortNested cmp n) = f n) (n : Node)
    : ((sortNested cmp n).preorder.filterMap f).Perm (n.preorder.filterMap f) := by
  induction n using Node.induction_on_children with
  | h n ih => exact filterMap_preorder_perm (hf n) (children_sortNested_perm cmp n) ih

theorem filterMap_preorder_sortRoot_perm (hf : ∀ n, f (sortNested nested n) = f n)
    (hroot : f (sortRoot top nested root) = f root)
    : ((sortRoot top nested root).preorder.filterMap f).Perm (root.preorder.filterMap f) :=
  filterMap_preorder_perm hroot (children_sortRoot_perm top nested root) fun n _ =>
    filterMap_preorder_sortNested_perm hf n

end Facts

/-- The name and the number of an alias. -/
def link? : Node → Option Anchor
  | .alias _ name number => some ⟨name, number⟩
  | _ => none

theorem mem_links {a : Anchor}
    : a ∈ root.preorder.filterMap link? ↔ ∃ i, .alias i a.name a.number ∈ root.preorder := by
  rw [List.mem_filterMap]
  constructor
  . intro ⟨n, hn, hlink⟩
    cases n
    all_goals simp only [link?, Option.some.injEq, reduceCtorEq] at hlink
    subst hlink
    exact ⟨_, hn⟩
  . intro ⟨i, hmem⟩
    exact ⟨_, hmem, rfl⟩

theorem Linked.sortRoot (h : Linked root) (top nested : Comparator)
    : Linked (sortRoot top nested root) := by
  have hanchors : (Tree.sortRoot top nested root).anchors.Perm root.anchors := by
    apply filterMap_preorder_sortRoot_perm
    . intro n
      cases n
      all_goals rfl
    . cases root
      all_goals rfl
  have hlinks : ((Tree.sortRoot top nested root).preorder.filterMap link?).Perm
      (root.preorder.filterMap link?) := by
    apply filterMap_preorder_sortRoot_perm
    . intro n
      cases n
      all_goals rfl
    . cases root
      all_goals rfl
  constructor
  . exact (hanchors.map _).nodup_iff.mpr h.nodup
  . intro i name number hmem
    have hlink : (⟨name, number⟩ : Anchor) ∈ root.preorder.filterMap link? :=
      hlinks.mem_iff.mp (mem_links.mpr ⟨i, hmem⟩)
    obtain ⟨i', hmem'⟩ := mem_links.mp hlink
    exact hanchors.mem_iff.mpr (h.target i' name number hmem')

end Tree
end YamlOrder
