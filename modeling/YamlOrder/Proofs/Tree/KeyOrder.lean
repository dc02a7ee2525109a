import YamlOrder.Proofs.Tree.Canonical
import YamlOrder.Proofs.Tree.Scope

/-!
This module contains the trees that sorting leaves alone: those whose keys are in order. They stay
in order when anchors are repaired, unless a key is an alias or has an anchor. The repair leaves a
tree alone in which every alias comes after a node with its name.
-/

namespace YamlOrder
namespace Yaml

/-- The texts by which the keys of a mapping are compared. -/
def Node.keys (n : Node) : List Text := n.pairs.map (·.1.keyText)

end Yaml

namespace Tree

open Yaml
open Node (nodes)
open Std (TransCmp)

variable {cmp top nested : Comparator} {root fixed n n' d x c : Node} {ns : List Node}
  {ps qs : List (Node × Node)}
variable {keys : List Text} {written : List Anchor} {m : Moves} {a : Anchor}

/-- A moment of a walk on which no node has moved, and all names written have been defined. -/
structure Still (written : List Anchor) (m : Moves) : Prop where
  moved : m.moved = []
  defined : ∀ a ∈ written, a.name ∈ m.defined

theorem Still.define (h : Still written m) (a : Option Anchor)
    : Still (written ++ a.toList) (m.define a) := by
  constructor
  . rw [Moves.moved_define, h.moved]
  . intro b hb
    rw [Moves.mem_defined_define]
    obtain hb | hb := List.mem_append.mp hb
    . exact Or.inr (h.defined b hb)
    . exact Or.inl (List.mem_map_of_mem hb)

theorem Still.left?_eq_none (h : Still written m) (n : Node) : m.left? n = none := by
  rw [Moves.left?_eq_none_iff, h.moved]
  simp [Gone]

theorem Still.due?_eq_none (h : Still written m) (hlinked : Linked root) (ha : a ∈ root.anchors)
    (hname : a.name ∈ written.map (·.name)) : m.due? root a.number = none := by
  rw [Option.eq_none_iff_forall_ne_some]
  intro d hdue
  obtain ⟨-, hfind, hfree⟩ := Moves.due?_eq_some hdue
  obtain ⟨hd, b, hb, hnumber⟩ := findAnchor?_eq_some hfind
  obtain rfl := hlinked.anchor_eq (Node.mem_anchors.mpr ⟨d, hd, hb⟩) ha hnumber
  obtain ⟨c, hc, hname⟩ := List.mem_map.mp hname
  exact hfree b hb (hname ▸ h.defined c hc)

theorem fixItems_rests (enter : Node → Moves → Node × Moves)
    (hns : ∀ n ∈ ns, ∀ written m, Ordered written n.preorder → Still written m →
      ∃ m', visit root enter n (fixBelow root enter n) m = (n, m') ∧ Still
        (written ++ n.anchors) m')
    (hordered : Ordered written (nodes ns)) (h : Still written m)
    : ∃ m', fixItems root enter ns m = (ns, m') ∧
      Still (written ++ (nodes ns).filterMap Node.anchor) m' := by
  induction ns generalizing written m with
  | nil => exact ⟨m, rfl, by simpa using h⟩
  | cons n ns ih =>
    simp only [List.mem_cons, forall_eq_or_imp] at hns
    rw [Node.nodes_cons, ordered_append] at hordered
    obtain ⟨m₁, hvisit, hstill⟩ := hns.1 written m hordered.1 h
    obtain ⟨m', hitems, hrest⟩ := ih hns.2 hordered.2 hstill
    refine ⟨m', by simp only [fixItems, hvisit, hitems], ?_⟩
    rw [Node.nodes_cons, List.filterMap_append, ← List.append_assoc]
    exact hrest

theorem withChildren_children (n : Node) : withChildren n.children n = n := by
  cases n
  all_goals simp [withChildren, Node.children, pairUp_flatten]

theorem visit_rests (enter : Node → Moves → Node × Moves) (hlinked : Linked root)
    (hn : n.preorder ⊆ root.preorder) (hordered : Ordered written n.preorder) (h : Still written m)
    : ∃ m', visit root enter n (fixBelow root enter n) m = (n, m') ∧
      Still (written ++ n.anchors) m' := by
  induction n using Node.induction_on_children generalizing written m with
  | h n ih =>
    by_cases halias : n.isAlias = true
    . obtain ⟨i, name, target, rfl⟩ := Node.exists_alias halias
      have hanchor := hlinked.target i name target (hn (Node.self_mem_preorder _))
      have hdue := h.due?_eq_none hlinked hanchor (hordered.1 i name target rfl)
      refine ⟨m, by simp only [visit, hdue], ?_⟩
      rw [Node.anchors_eq]
      simpa [Node.children] using h
    . rw [Node.preorder_eq] at hordered
      obtain ⟨m', hitems, hstill⟩ := fixItems_rests enter
        (fun c hc written m => ih c hc (List.Subset.trans (preorder_subset_of_mem_children hc) hn))
        hordered.2 (h.define n.anchor)
      refine ⟨m', ?_, ?_⟩
      . rw [visit_of_not_alias (by simpa using halias), h.left?_eq_none n]
        simp only [fixBelow_eq, hitems, withChildren_children]
      . rw [Node.anchors_eq, ← List.append_assoc]
        exact hstill

theorem ordered_iff : Ordered written ns ↔
    ∀ before i name target after, ns = before ++ .alias i name target :: after →
      name ∈ (written ++ before.filterMap Node.anchor).map (·.name) := by
  constructor
  . rintro h before i name target after rfl
    exact h.name_mem
  . intro h
    induction ns generalizing written with
    | nil => trivial
    | cons n ns ih =>
      refine ⟨?_, ih ?_⟩
      . rintro i name target rfl
        simpa using h [] i name target ns rfl
      . intro before i name target after hsplit
        have hname := h (n :: before) i name target after (by rw [hsplit, List.cons_append])
        cases hanchor : n.anchor with
        | none => simpa [hanchor] using hname
        | some a => simpa [hanchor] using hname

theorem Scoped.ordered (h : Scoped ns) : Ordered [] ns := by
  rw [ordered_iff]
  intro before i name target after hsplit
  have hmem := List.mem_of_getLast? (h before i name target after hsplit)
  exact List.mem_map_of_mem (mem_numbersOf.mp hmem)

theorem fixAnchors_of_ordered (hlinked : Linked root) (h : Ordered [] root.preorder)
    : fixAnchors root = root := by
  have hstill : Still [] {} := ⟨rfl, by simp⟩
  obtain ⟨m', hvisit, -⟩ :=
    visit_rests (fixMoved root root.anchors.length) hlinked (List.Subset.refl _) h hstill
  rw [fixAnchors, fixWithin, hvisit]

/-- Keys of which none stands before one that the order puts before it. -/
def Ascending (cmp : Comparator) (keys : List Text) : Prop :=
    keys.Pairwise fun a b => (cmp a b).isLE = true

instance (cmp : Comparator) (keys : List Text) : Decidable (Ascending cmp keys) :=
  inferInstanceAs (Decidable (List.Pairwise _ _))

/-- The keys of each mapping of a tree are in the order that is used for it. -/
def InKeyOrder (top nested : Comparator) (n : Node) : Prop :=
  Ascending top n.keys ∧ ∀ c ∈ nodes n.children, Ascending nested c.keys

instance (top nested : Comparator) (n : Node) : Decidable (InKeyOrder top nested n) :=
  inferInstanceAs (Decidable (_ ∧ _))

theorem InKeyOrder.child (h : InKeyOrder top nested n) (hc : c ∈ n.children)
    : InKeyOrder nested nested c :=
  ⟨h.2 c (Node.mem_nodes_of_mem hc), fun d hd =>
    h.2 d (Node.mem_nodes.mpr ⟨c, hc, Node.nodes_children_subset c hd⟩)⟩

theorem sortPairs_of_ascending (h : Ascending cmp (ps.map (·.1.keyText))) : sortPairs cmp ps = ps :=
  List.mergeSort_of_pairwise (List.pairwise_map.mp h)

theorem map_pairs_eq_self {f : Node → Node} (h : ∀ c ∈ flatten ps, f c = c)
    : ps.map (Prod.map f f) = ps := by
  rw [map_pairs_congr (g := id) h]
  simp

theorem sortRoot_of_inKeyOrder (h : InKeyOrder top nested n) : sortRoot top nested n = n := by
  induction n using Node.induction_on_children generalizing top with
  | h n ih =>
    have hbelow : ∀ c ∈ n.children, sortNested nested c = c := by
      intro c hc
      simpa [sortRoot_self] using ih c hc (h.child hc)
    match n with
    | .scalar _ _ _ => rfl
    | .alias _ _ _ => rfl
    | .sequence i flow items =>
      rw [Node.children] at hbelow
      rw [sortRoot_sequence, List.map_congr_left hbelow, List.map_id']
    | .mapping i flow ps =>
      have hkeys : Ascending top (ps.map (·.1.keyText)) := h.1
      rw [sortRoot_mapping, map_pairs_eq_self hbelow, sortPairs_of_ascending hkeys]

/-- The keys of a tree are neither aliases nor nodes that aliases can stand for. -/
def OwnKeys (root : Node) : Prop :=
  ∀ n ∈ root.preorder, ∀ p ∈ n.pairs, p.1.isAlias = false ∧ p.1.anchor = none

instance (root : Node) : Decidable (OwnKeys root) :=
    inferInstanceAs (Decidable (∀ n ∈ root.preorder, _))

theorem pairs_sortRoot_perm (top nested : Comparator) (n : Node)
    : (sortRoot top nested n).pairs.Perm
      (n.pairs.map (Prod.map (sortNested nested) (sortNested nested))) := by
  match n with
  | .scalar _ _ _ => exact List.Perm.refl _
  | .alias _ _ _ => exact List.Perm.refl _
  | .sequence _ _ _ => exact List.Perm.refl _
  | .mapping _ _ ps =>
    rw [sortRoot_mapping]
    exact List.mergeSort_perm _ _

theorem OwnKeys.sortRoot (h : OwnKeys root) (top nested : Comparator)
    : OwnKeys (sortRoot top nested root) := by
  intro n' hn' p' hp'
  obtain ⟨n, hn, hsorts⟩ := exists_sortsTo hn'
  have hperm : n'.pairs.Perm (n.pairs.map (Prod.map (sortNested nested) (sortNested nested))) := by
    obtain rfl | ⟨rfl, rfl⟩ := hsorts
    . rw [← sortRoot_self]
      exact pairs_sortRoot_perm nested nested n
    . exact pairs_sortRoot_perm top nested n
  obtain ⟨p, hp, rfl⟩ := List.mem_map.mp (hperm.mem_iff.mp hp')
  have hhead := head_sortNested nested p.1
  rw [Prod.map_fst, Node.isAlias_eq_of_head_eq hhead, Node.anchor_eq_of_head_eq hhead]
  exact h n hn p hp

theorem keyText_eq_of_head_eq (h : n'.head = n.head) : n'.keyText = n.keyText := by
  cases n
  all_goals
    cases n'
    all_goals simp_all [Node.head, Node.keyText]

theorem Matches.keyText_eq (h : Matches root n n') (halias : n.isAlias = false)
    (hanchor : n.anchor = none)
    : n'.keyText = n.keyText := by
  cases h with
  | link => cases halias
  | leave _ ha => cases hanchor.symm.trans ha
  | renew hstands hhead _ =>
    obtain ⟨-, rfl⟩ | ⟨_, _, rfl, -, -⟩ := hstands
    . exact keyText_eq_of_head_eq hhead
    . cases halias

theorem Linked.isAlias_eq_false (h : Linked root) : root.isAlias = false := by
  rw [← Bool.not_eq_true]
  intro halias
  obtain ⟨i, name, target, rfl⟩ := Node.exists_alias halias
  simpa [Node.anchors, Node.preorder] using h.target i name target (Node.self_mem_preorder _)

/--
A key that an alias stands for changes places with the alias, and then it comes before a smaller
key.
-/
example : ¬ InKeyOrder bytewise bytewise (fixAnchors (.mapping {} false
    [(.alias {} "a" 0, wordNode "2"),
      (.scalar { anchor := some ⟨"a", 0⟩ } "b" .plain, wordNode "1")])) := by
  decide

/-- Trees that have the same keys in the same places, the second one under new names. -/
def SameKeys (rename : Text → Text) (n n' : Node) : Prop :=
  n'.preorder.map Node.keys = n.preorder.map fun c => c.keys.map rename

theorem ascending_map {rename : Text → Text}
    : Ascending cmp (keys.map rename) ↔ Ascending (Function.onFun cmp rename) keys :=
  List.pairwise_map

/-- Keys are in order under their new names if the order of the new names has them in order. -/
theorem SameKeys.inKeyOrder_iff {rename : Text → Text} (h : SameKeys rename n n')
    : InKeyOrder top nested n' ↔
        InKeyOrder (Function.onFun top rename) (Function.onFun nested rename) n := by
  rw [SameKeys, Node.preorder_eq, Node.preorder_eq n, List.map_cons, List.map_cons,
    List.cons.injEq] at h
  have hbelow : (∀ c ∈ nodes n'.children, Ascending nested c.keys) ↔
      ∀ keys ∈ (nodes n'.children).map Node.keys, Ascending nested keys := by
    simp
  unfold InKeyOrder
  rw [hbelow, h.1, h.2, ascending_map]
  simp [ascending_map]

end Tree
end YamlOrder
