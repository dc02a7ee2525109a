import Mathlib.Data.List.Pairwise
import YamlOrder.Proofs.Tree.Arrange

/-!
This module contains that sorting makes one form of all the trees that differ in the order of pairs
only, that the opposite orders make the opposite form, and that a sorted tree stays as it is.
-/

namespace YamlOrder
namespace Yaml

/-- What a node has apart from its place in the source, with another way to number anchors. -/
def NodeInfo.unplaced (number : Nat → Nat) (i : NodeInfo) : NodeInfo :=
  { i with line := 0, column := 0, anchor :=
    i.anchor.map fun a => { a with number := number a.number } }

namespace Node

/-- The pairs of a mapping. Other nodes have none. -/
def pairs : Node → List (Node × Node)
  | .mapping _ _ ps => ps
  | _ => []

mutual

/-- A tree apart from places in the source, with another way to number anchors. -/
def unplaced (number : Nat → Nat) : Node → Node
  | .scalar i value style => .scalar (i.unplaced number) value style
  | .sequence i flow items => .sequence (i.unplaced number) flow (unplacedItems number items)
  | .mapping i flow ps => .mapping (i.unplaced number) flow (unplacedPairs number ps)
  | .alias i name target => .alias (i.unplaced number) name (number target)

def unplacedItems (number : Nat → Nat) : List Node → List Node
  | [] => []
  | n :: rest => n.unplaced number :: unplacedItems number rest

def unplacedPairs (number : Nat → Nat) : List (Node × Node) → List (Node × Node)
  | [] => []
  | (k, v) :: rest => (k.unplaced number, v.unplaced number) :: unplacedPairs number rest

end

mutual

/-- A tree with the pairs of every mapping in the opposite order. -/
def mirrored : Node → Node
  | .scalar i value style => .scalar i value style
  | .sequence i flow items => .sequence i flow (mirroredItems items)
  | .mapping i flow ps => .mapping i flow (mirroredPairs ps).reverse
  | .alias i name target => .alias i name target

def mirroredItems : List Node → List Node
  | [] => []
  | n :: rest => n.mirrored :: mirroredItems rest

/-- Mirrored keys and values, with the pairs in the order that they had. -/
def mirroredPairs : List (Node × Node) → List (Node × Node)
  | [] => []
  | (k, v) :: rest => (k.mirrored, v.mirrored) :: mirroredPairs rest

end

theorem unplacedItems_eq (number : Nat → Nat) (items : List Node)
    : unplacedItems number items = items.map (unplaced number) := by
  induction items with
  | nil => rfl
  | cons n rest ih => rw [unplacedItems, ih, List.map_cons]

theorem unplacedPairs_eq (number : Nat → Nat) (ps : List (Node × Node))
    : unplacedPairs number ps = ps.map (Prod.map (unplaced number) (unplaced number)) := by
  induction ps with
  | nil => rfl
  | cons p rest ih => rw [unplacedPairs, ih, List.map_cons, Prod.map]

theorem mirroredItems_eq (items : List Node) : mirroredItems items = items.map mirrored := by
  induction items with
  | nil => rfl
  | cons n rest ih => rw [mirroredItems, ih, List.map_cons]

theorem mirroredPairs_eq (ps : List (Node × Node))
    : mirroredPairs ps = ps.map (Prod.map mirrored mirrored) := by
  induction ps with
  | nil => rfl
  | cons p rest ih => rw [mirroredPairs, ih, List.map_cons, Prod.map]

theorem keyText_unplaced (number : Nat → Nat) (n : Node)
    : (n.unplaced number).keyText = n.keyText := by
  cases n
  all_goals simp [unplaced, keyText]

theorem keyText_mirrored (n : Node) : n.mirrored.keyText = n.keyText := by
  cases n
  all_goals simp [mirrored, keyText]

theorem pairs_unplaced (number : Nat → Nat) (n : Node)
    : (n.unplaced number).pairs = n.pairs.map (Prod.map (unplaced number) (unplaced number)) := by
  cases n
  all_goals simp [unplaced, pairs, unplacedPairs_eq]

theorem children_unplaced (number : Nat → Nat) (n : Node)
    : (n.unplaced number).children = n.children.map (unplaced number) := by
  cases n
  all_goals simp [unplaced, children, unplacedItems_eq, unplacedPairs_eq, Tree.flatten_map]

theorem preorder_unplaced (number : Nat → Nat) (n : Node)
    : (n.unplaced number).preorder = n.preorder.map (unplaced number) := by
  induction n using induction_on_children with
  | h n ih =>
    rw [preorder_eq, preorder_eq n, children_unplaced, List.map_cons, nodes, nodes,
      List.flatMap_map,
      List.map_flatMap]
    congr 1
    exact List.flatMap_congr ih

end Node
end Yaml

namespace Tree

open Yaml
open Node (nodes)
open YamlOrder.Order (reverseIf swap_eq)
open Std (OrientedCmp TransCmp)

variable {cmp top nested : Comparator} {n n' c : Node} {ps qs : List (Node × Node)}
  {f g : Node → Node}

/-- Pairs of which no two keys tie. -/
def Untied (cmp : Comparator) (ps : List (Node × Node)) : Prop :=
  ps.Pairwise fun p q => cmp p.1.keyText q.1.keyText ≠ .eq

instance (cmp : Comparator) (ps : List (Node × Node)) : Decidable (Untied cmp ps) :=
  inferInstanceAs (Decidable (List.Pairwise _ _))

/-- In no mapping of a tree two keys tie in the order that is used for it. -/
def TieFree (top nested : Comparator) (n : Node) : Prop :=
  Untied top n.pairs ∧ ∀ c ∈ nodes n.children, Untied nested c.pairs

instance (top nested : Comparator) (n : Node) : Decidable (TieFree top nested n) :=
  inferInstanceAs (Decidable (_ ∧ _))

/-- Trees that are the same up to the order of the pairs inside mappings, at every depth. -/
inductive Shuffled : Node → Node → Prop
  | scalar (i : NodeInfo) (value : Text) (style : ScalarStyle)
    : Shuffled (.scalar i value style) (.scalar i value style)
  | alias (i : NodeInfo) (name : Text) (target : Nat)
    : Shuffled (.alias i name target) (.alias i name target)
  | sequence (i : NodeInfo) (flow : Bool) {items items' : List Node}
      (h : List.Forall₂ Shuffled items items')
    : Shuffled (.sequence i flow items) (.sequence i flow items')
  | mapping (i : NodeInfo) (flow : Bool) {ps qs rs : List (Node × Node)}
    (h : List.Forall₂ Shuffled (flatten ps) (flatten qs)) (hperm : qs.Perm rs)
    : Shuffled (.mapping i flow ps) (.mapping i flow rs)

theorem TieFree.child (h : TieFree top nested n) (hc : c ∈ n.children) : TieFree nested nested c :=
  ⟨h.2 c (Node.mem_nodes_of_mem hc), fun d hd =>
    h.2 d (Node.mem_nodes.mpr ⟨c, hc, Node.nodes_children_subset c hd⟩)⟩

theorem Untied.map (h : Untied cmp ps) (hf : ∀ n, (f n).keyText = n.keyText)
    : Untied cmp (ps.map (Prod.map f f)) := by
  simpa [Untied, List.pairwise_map, hf] using h

theorem TieFree.unplaced (h : TieFree top nested n) (number : Nat → Nat)
    : TieFree top nested (n.unplaced number) := by
  unfold TieFree
  rw [Node.pairs_unplaced]
  refine ⟨h.1.map (Node.keyText_unplaced number), ?_⟩
  intro c hc
  obtain ⟨m', hm', hc⟩ := Node.mem_nodes.mp hc
  rw [Node.children_unplaced] at hm'
  obtain ⟨m, hm, rfl⟩ := List.mem_map.mp hm'
  rw [Node.preorder_unplaced] at hc
  obtain ⟨d, hd, rfl⟩ := List.mem_map.mp hc
  rw [Node.pairs_unplaced]
  exact (h.2 d (Node.mem_nodes.mpr ⟨m, hm, hd⟩)).map (Node.keyText_unplaced number)

theorem Untied.eq_of_tie [OrientedCmp cmp] (h : Untied cmp ps) {p q : Node × Node} (hp : p ∈ ps)
    (hq : q ∈ ps) (htie : cmp p.1.keyText q.1.keyText = .eq) : p = q := by
  -- `Pairwise` tells of pairs in the order of the list, and ties do not depend on it
  have : Std.Symm fun p q : Node × Node => cmp p.1.keyText q.1.keyText ≠ .eq :=
    ⟨fun _ _ hne heq => hne (OrientedCmp.eq_symm heq)⟩
  by_contra hne
  exact List.Pairwise.forall h hp hq hne htie

theorem sortPairs_eq_of_perm [TransCmp cmp] (h : Untied cmp ps) (hperm : ps.Perm qs)
    : sortPairs cmp ps = sortPairs cmp qs := by
  have hps : (sortPairs cmp ps).Perm ps := List.mergeSort_perm _ _
  have hqs : (sortPairs cmp qs).Perm qs := List.mergeSort_perm _ _
  refine List.Perm.eq_of_pairwise ?_ (pairwise_sortPairs ps) (pairwise_sortPairs qs)
    (hps.trans (hperm.trans hqs.symm))
  intro p q hp hq hpq hqp
  exact h.eq_of_tie (hps.mem_iff.mp hp) (hperm.mem_iff.mpr (hqs.mem_iff.mp hq))
    (OrientedCmp.isLE_antisymm hpq hqp)

theorem sortPairs_reverse [TransCmp cmp] (h : Untied cmp ps)
    : sortPairs (reverseIf true cmp) ps = (sortPairs cmp ps).reverse := by
  have hps : (sortPairs cmp ps).Perm ps := List.mergeSort_perm _ _
  have hps' : (sortPairs (reverseIf true cmp) ps).Perm ps := List.mergeSort_perm _ _
  have hreverse : (sortPairs cmp ps).reverse.Pairwise
      fun p q => (reverseIf true cmp p.1.keyText q.1.keyText).isLE = true := by
    rw [List.pairwise_reverse]
    refine (pairwise_sortPairs ps).imp ?_
    intro p q hpq
    simpa only [reverseIf, if_true, swap_eq cmp] using hpq
  refine List.Perm.eq_of_pairwise ?_ (pairwise_sortPairs ps) hreverse
    (hps'.trans (hps.symm.trans (List.reverse_perm _).symm))
  intro p q hp hq hpq hqp
  have htie : (cmp p.1.keyText q.1.keyText).swap = .eq := by
    simpa [reverseIf] using @OrientedCmp.isLE_antisymm _ (reverseIf true cmp) _ _ _ hpq hqp
  exact h.eq_of_tie (hps'.mem_iff.mp hp) (hps.mem_iff.mp (List.mem_reverse.mp hq))
    (by simpa using htie)

theorem sortPairs_sortPairs [TransCmp cmp] (ps : List (Node × Node))
    : sortPairs cmp (sortPairs cmp ps) = sortPairs cmp ps :=
  List.mergeSort_of_pairwise (pairwise_sortPairs ps)

theorem map_sortPairs (cmp : Comparator) (hf : ∀ n, (f n).keyText = n.keyText)
    (ps : List (Node × Node))
    : (sortPairs cmp ps).map (Prod.map f f) = sortPairs cmp (ps.map (Prod.map f f)) := by
  apply List.map_mergeSort
  intro p _ q _
  simp [hf]

theorem map_pairs_congr (h : ∀ c ∈ flatten ps, f c = g c)
    : ps.map (Prod.map f f) = ps.map (Prod.map g g) := by
  rw [← eq_map_pairs_iff, flatten_map]
  exact List.map_congr_left h

theorem keyText_sortNested (cmp : Comparator) (n : Node)
    : (sortNested cmp n).keyText = n.keyText := by
  cases n
  all_goals rfl

theorem TieFree.untied {i : NodeInfo} {flow : Bool} (h : TieFree top nested (.mapping i flow ps))
    : Untied top (ps.map (Prod.map (sortNested nested) (sortNested nested))) :=
  @Untied.map _ ps _ h.1 (keyText_sortNested nested)

theorem sortRoot_unplaced (top nested : Comparator) (number : Nat → Nat) (n : Node)
    : sortRoot top nested (n.unplaced number) = (sortRoot top nested n).unplaced number := by
  induction n using Node.induction_on_children generalizing top with
  | h n ih =>
    have hbelow : ∀ c ∈ n.children,
        (sortNested nested ∘ Node.unplaced number) c =
        (Node.unplaced number ∘ sortNested nested) c := by
      intro c hc
      simpa [sortRoot_self] using ih c hc nested
    match n with
    | .scalar _ _ _ => simp [Node.unplaced, sortRoot, sortNested]
    | .alias _ _ _ => simp [Node.unplaced, sortRoot, sortNested]
    | .sequence i flow items =>
      rw [Node.children] at hbelow
      rw [Node.unplaced, sortRoot_sequence, sortRoot_sequence, Node.unplaced, Node.unplacedItems_eq,
        Node.unplacedItems_eq, List.map_map, List.map_map, List.map_congr_left hbelow]
    | .mapping i flow ps =>
      rw [Node.children] at hbelow
      rw [Node.unplaced, sortRoot_mapping, sortRoot_mapping, Node.unplaced, Node.unplacedPairs_eq,
        Node.unplacedPairs_eq, map_sortPairs _ (Node.keyText_unplaced number), List.map_map,
        List.map_map,
        Prod.map_comp_map, Prod.map_comp_map, map_pairs_congr hbelow]

theorem sortRoot_sortRoot [TransCmp nested] (top : Comparator) [TransCmp top] (n : Node)
    : sortRoot top nested (sortRoot top nested n) = sortRoot top nested n := by
  induction n using Node.induction_on_children generalizing top with
  | h n ih =>
    have hbelow : ∀ c ∈ n.children, (sortNested nested ∘ sortNested nested) c =
      sortNested nested c := by
      intro c hc
      simpa [sortRoot_self] using ih c hc nested
    match n with
    | .scalar _ _ _ => simp [sortRoot, sortNested]
    | .alias _ _ _ => simp [sortRoot, sortNested]
    | .sequence i flow items =>
      rw [Node.children] at hbelow
      rw [sortRoot_sequence, sortRoot_sequence, List.map_map, List.map_congr_left hbelow]
    | .mapping i flow ps =>
      rw [Node.children] at hbelow
      rw [sortRoot_mapping, sortRoot_mapping, map_sortPairs _ (keyText_sortNested nested),
        List.map_map,
        Prod.map_comp_map, map_pairs_congr hbelow, sortPairs_sortPairs]

theorem sortRoot_reverse [TransCmp nested] (top : Comparator) [TransCmp top] (n : Node)
    (h : TieFree top nested n)
    : sortRoot (reverseIf true top) (reverseIf true nested) n =
      (sortRoot top nested n).mirrored := by
  induction n using Node.induction_on_children generalizing top with
  | h n ih =>
    have hbelow : ∀ c ∈ n.children,
        sortNested (reverseIf true nested) c = (Node.mirrored ∘ sortNested nested) c := by
      intro c hc
      simpa [sortRoot_self] using ih c hc nested (h.child hc)
    match n with
    | .scalar _ _ _ => simp [sortRoot, sortNested, Node.mirrored]
    | .alias _ _ _ => simp [sortRoot, sortNested, Node.mirrored]
    | .sequence i flow items =>
      rw [Node.children] at hbelow
      rw [sortRoot_sequence, sortRoot_sequence, Node.mirrored, Node.mirroredItems_eq, List.map_map,
        List.map_congr_left hbelow]
    | .mapping i flow ps =>
      rw [Node.children] at hbelow
      -- the pairs are turned round before what is in them is mirrored
      rw [sortRoot_mapping, sortRoot_mapping, Node.mirrored, Node.mirroredPairs_eq,
        ← List.map_reverse,
        ← sortPairs_reverse h.untied, map_sortPairs _ Node.keyText_mirrored,
        List.map_map, Prod.map_comp_map, map_pairs_congr hbelow]

theorem sortRoot_eq_of_shuffled [TransCmp nested] (top : Comparator) [TransCmp top]
    (hshuffled : Shuffled n n') (h : TieFree top nested n)
    : sortRoot top nested n = sortRoot top nested n' := by
  induction n using Node.induction_on_children generalizing top n' with
  | h n ih =>
    have hbelow : ∀ c ∈ n.children, ∀ d, Shuffled c d →
      sortNested nested d = sortNested nested c := by
      intro c hc d hcd
      simpa [sortRoot_self] using (ih c hc nested hcd (h.child hc)).symm
    match n with
    | .scalar _ _ _ =>
      cases hshuffled
      rfl
    | .alias _ _ _ =>
      cases hshuffled
      rfl
    | .sequence i flow items =>
      cases hshuffled with
      | sequence _ _ hitems =>
        rw [sortRoot_sequence, sortRoot_sequence, map_eq_of_forall₂ hitems hbelow]
    | .mapping i flow ps =>
      cases hshuffled with
      | @mapping _ _ _ qs rs hsides hperm =>
        have hsides : qs.map (Prod.map (sortNested nested) (sortNested nested))
            = ps.map (Prod.map (sortNested nested) (sortNested nested)) := by
          rw [← eq_map_pairs_iff, flatten_map]
          exact map_eq_of_forall₂ hsides hbelow
        rw [sortRoot_mapping, sortRoot_mapping,
          sortPairs_eq_of_perm h.untied (hsides ▸ hperm.map _)]

/--
Sorting makes a canonical form. Trees that are the same up to the order of pairs, to places in the
source and to how anchors are counted are sorted to the same tree, in this sense, if no keys tie.
Without ties the opposite orders make the opposite form. And with or without ties, a sorted tree
stays as it is.
-/
theorem sortRoot_canonical (top nested : Comparator) [TransCmp top] [TransCmp nested]
    : (∀ (n n' : Node) (number number' : Nat → Nat),
        Shuffled (n.unplaced number) (n'.unplaced number') →
        TieFree top nested n →
          (sortRoot top nested n).unplaced number = (sortRoot top nested n').unplaced number') ∧
      (∀ n, TieFree top nested n →
        sortRoot (reverseIf true top) (reverseIf true nested) n =
          (sortRoot top nested n).mirrored) ∧
      ∀ n, sortRoot top nested (sortRoot top nested n) = sortRoot top nested n := by
  refine ⟨?_, fun n h => sortRoot_reverse top n h, fun n => sortRoot_sortRoot top n⟩
  intro n n' number number' hshuffled h
  rw [← sortRoot_unplaced, ← sortRoot_unplaced]
  exact sortRoot_eq_of_shuffled top hshuffled (h.unplaced number)

/--
A tree with a mapping in it, and with two anchors that are counted in the order in which they stand.
-/
def bookings : Node :=
  .mapping { line := 1 } false
    [(wordNode "b", .mapping { anchor := some ⟨"y", 0⟩, line := 1 } true
        [(wordNode "d", wordNode "1"), (wordNode "c", wordNode "2")]),
      (wordNode "a", .sequence { anchor := some ⟨"x", 1⟩, line := 2 } true []),
      (wordNode "c", .alias { line := 3 } "y" 0)]

/--
The same tree with its pairs in another order, so that the anchors are counted the other way round.
-/
def rebookings : Node :=
  .mapping { line := 1 } false
    [(wordNode "a", .sequence { anchor := some ⟨"x", 0⟩, line := 1 } true []),
      (wordNode "b", .mapping { anchor := some ⟨"y", 1⟩, line := 2 } true
        [(wordNode "c", wordNode "2"), (wordNode "d", wordNode "1")]),
      (wordNode "c", .alias { line := 3 } "y" 1)]

theorem shuffled_bookings : Shuffled (bookings.unplaced (1 - ·)) (rebookings.unplaced id) := by
  have hkey (key : Text) : Shuffled (wordNode key) (wordNode key) := .scalar _ _ _
  have hinner : Shuffled
      (.mapping { anchor := some ⟨"y", 1⟩ } true
        [(wordNode "d", wordNode "1"), (wordNode "c", wordNode "2")])
      (.mapping { anchor := some ⟨"y", 1⟩ } true
        [(wordNode "c", wordNode "2"), (wordNode "d", wordNode "1")]) :=
    @Shuffled.mapping _ _ _ [(wordNode "d", wordNode "1"), (wordNode "c", wordNode "2")] _
      (.cons (hkey _) (.cons (hkey _) (.cons (hkey _) (.cons (hkey _) .nil)))) (.swap _ _ _)
  exact @Shuffled.mapping _ _ _
    [(wordNode "b", .mapping { anchor := some ⟨"y", 1⟩ } true
        [(wordNode "c", wordNode "2"), (wordNode "d", wordNode "1")]),
      (wordNode "a", .sequence { anchor := some ⟨"x", 0⟩ } true []),
      (wordNode "c", .alias {} "y" 1)] _
    (.cons (hkey _) (.cons hinner (.cons (hkey _) (.cons (.sequence _ _ .nil) (.cons (hkey _)
      (.cons (.alias _ _ _) .nil)))))) (.swap _ _ _)

/-- Pairs change places in a mapping and in one inside of it, and the anchors are counted anew. -/
theorem sortRoot_canonical_bookings
    : TransCmp bytewise ∧ Shuffled (bookings.unplaced (1 - ·)) (rebookings.unplaced id) ∧
      TieFree bytewise bytewise bookings ∧
      (sortRoot bytewise bytewise bookings).unplaced
      (1 - ·) = (sortRoot bytewise bytewise rebookings).unplaced id ∧
      sortRoot (reverseIf true bytewise) (reverseIf true bytewise) bookings
        = (sortRoot bytewise bytewise bookings).mirrored ∧
      sortRoot bytewise bytewise (sortRoot bytewise bytewise bookings) =
      sortRoot bytewise bytewise bookings := by
  have hties : TieFree bytewise bytewise bookings := by decide
  obtain ⟨hsame, hreverse, htwice⟩ := sortRoot_canonical bytewise bytewise
  exact ⟨inferInstance, shuffled_bookings, hties, hsame _ _ _ _ shuffled_bookings hties,
    hreverse _ hties, htwice _⟩

end Tree
end YamlOrder
