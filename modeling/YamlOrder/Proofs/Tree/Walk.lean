import Mathlib.Data.List.Forall2
import YamlOrder.Proofs.Tree.Step

/-!
This module contains what the whole walk of the repair of anchors does: it writes every anchor once,
it writes no alias before its name, and every node of the result matches the node that was there
before.
-/

namespace YamlOrder
namespace Tree

open Yaml
open Node (nodes)

variable {root n n' d : Node} {ns ms rest : List Node} {written : List Anchor} {m m' : Moves}
variable {enter enter' : Node → Moves → Node × Moves} {bound : Nat}

/-- Nodes in which every alias has a name that was written before. -/
def Ordered (written : List Anchor) : List Node → Prop
  | [] => True
  | n :: rest =>
    (∀ i name target, n = .alias i name target → name ∈ written.map (·.name)) ∧
      Ordered (written ++ n.anchor.toList) rest

theorem ordered_append {written : List Anchor}
    : Ordered written (ns ++ ms) ↔
        Ordered written ns ∧ Ordered (written ++ ns.filterMap Node.anchor) ms := by
  induction ns generalizing written with
  | nil => simp [Ordered]
  | cons n ns ih =>
    have hanchors : n.anchor.toList ++ ns.filterMap Node.anchor =
      (n :: ns).filterMap Node.anchor := by
      cases h : n.anchor with
      | none => simp [h]
      | some a => simp [h]
    rw [List.cons_append, Ordered, Ordered, ih, List.append_assoc, hanchors, and_assoc]

/--
A node that another one stands for: itself, or for an alias the node of the tree with its anchor.
-/
def StandsFor (root n d : Node) : Prop :=
  (n.isAlias = false ∧ d = n) ∨
    ∃ i a, n = .alias i a.name a.number ∧ d ∈ root.preorder ∧ d.anchor = some a

/--
A node of the result and the node that was there before. Both are aliases of one anchor, or the node
has left an alias of its anchor, or they have the same head and matching children, an alias being
the same as the node it stands for.
-/
inductive Matches (root : Node) : Node → Node → Prop
  | link (i i' : NodeInfo) (name : Text) (target : Nat)
    : Matches root (.alias i name target) (.alias i' name target)
  | leave {n : Node} {a : Anchor} (i : NodeInfo) (h : n.anchor = some a)
    : Matches root n (.alias i a.name a.number)
  | renew {n d n' : Node} (h : StandsFor root n d) (hhead : n'.head = d.head)
    (hchildren : List.Forall₂ (Matches root) d.children n'.children) : Matches root n n'

/--
What a walk does with some nodes, in the order in which they are written. An alias stays as it is,
or the node that it stands for takes its place and is walked over there. A node that has moved
leaves an alias, and any other one is walked over in its place.
-/
inductive Walks (root : Node) : List Node → Moves → List Node → Moves → Prop
  | nil (m : Moves) : Walks root [] m [] m
  | keep {ns ns' : List Node} {m m' : Moves} (i : NodeInfo) (name : Text) (target : Nat)
    (hdue : m.due? root target = none) (hrest : Walks root ns m ns' m')
    : Walks root (.alias i name target :: ns) m (.alias i name target :: ns') m'
  | move {ns ns' : List Node} {d n' : Node} {m m₁ m' : Moves} (i : NodeInfo) (name : Text)
      (target : Nat)
    (hdue : m.due? root target = some d) (hhead : n'.head = d.head)
    (hbelow : Walks root d.children ((m.move target).define d.anchor) n'.children m₁)
    (hrest : Walks root ns m₁ ns' m') : Walks root (.alias i name target :: ns) m (n' :: ns') m'
  | leave {ns ns' : List Node} {n : Node} {a : Anchor} {m m' : Moves} (hleft : m.left? n = some a)
    (hrest : Walks root ns m ns' m') : Walks root (n :: ns) m (leaveAlias n.info a :: ns') m'
  | enter {ns ns' : List Node} {n n' : Node} {m m₁ m' : Moves} (halias : n.isAlias = false)
    (hleft : m.left? n = none) (hhead : n'.head = n.head)
    (hbelow : Walks root n.children (m.define n.anchor) n'.children m₁)
    (hrest : Walks root ns m₁ ns' m') : Walks root (n :: ns) m (n' :: ns') m'

theorem Walks.append {ns' ms' : List Node} {m₁ : Moves} (h : Walks root ns m ns' m₁)
    (hms : Walks root ms m₁ ms' m') : Walks root (ns ++ ms) m (ns' ++ ms') m' := by
  induction h with
  | nil => exact hms
  | keep i name target hdue _ ih => exact .keep i name target hdue (ih hms)
  | move i name target hdue hhead hbelow _ _ ih =>
    exact .move i name target hdue hhead hbelow (ih hms)
  | leave hleft _ ih => exact .leave hleft (ih hms)
  | enter halias hleft hhead hbelow _ _ ih => exact .enter halias hleft hhead hbelow (ih hms)

/-- What a walk over some nodes has done. -/
structure Walked (root : Node) (written : List Anchor) (m : Moves) (rest ns ns' : List Node)
    (m' : Moves) : Prop where
  pending : Pending root (written ++ (nodes ns').filterMap Node.anchor) m' rest
  ordered : Ordered written (nodes ns')
  matched : List.Forall₂ (Matches root) ns ns'
  walks : Walks root ns m ns' m'
  moved_le : m.moved.length ≤ m'.moved.length

theorem fixItems_flatten (pairs : List (Node × Node)) (m : Moves)
    : fixItems root enter (flatten pairs) m =
        (flatten (fixPairs root enter pairs m).1, (fixPairs root enter pairs m).2) := by
  induction pairs generalizing m with
  | nil => rfl
  | cons p pairs ih =>
    obtain ⟨k, v⟩ := p
    simp only [flatten_cons, fixItems, fixPairs, ih]

/-- The pairs of a list of keys and values. -/
def pairUp : List Node → List (Node × Node)
  | k :: v :: rest => (k, v) :: pairUp rest
  | _ => []

theorem pairUp_flatten (pairs : List (Node × Node)) : pairUp (flatten pairs) = pairs := by
  induction pairs with
  | nil => rfl
  | cons p pairs ih =>
    obtain ⟨k, v⟩ := p
    simp [pairUp, ih]

/-- A node with other children. -/
def withChildren (cs : List Node) : Node → Node
  | .sequence i flow _ => .sequence i flow cs
  | .mapping i flow _ => .mapping i flow (pairUp cs)
  | n => n

theorem head_withChildren (cs : List Node) (n : Node) : (withChildren cs n).head = n.head := by
  cases n
  all_goals rfl

theorem fixBelow_eq (n : Node) (m : Moves)
    : fixBelow root enter n m =
        (withChildren (fixItems root enter n.children (m.define n.anchor)).1 n,
          (fixItems root enter n.children (m.define n.anchor)).2) := by
  match n with
  | .scalar _ _ _ => rfl
  | .alias _ _ _ => rfl
  | .sequence _ _ _ => rfl
  | .mapping _ _ pairs =>
    simp only [Node.children, fixItems_flatten, withChildren, pairUp_flatten]
    rfl

theorem children_fixBelow (root : Node) (enter : Node → Moves → Node × Moves) (n : Node) (m : Moves)
    : (fixBelow root enter n m).1.children =
        (fixItems root enter n.children (m.define n.anchor)).1 := by
  match n with
  | .scalar _ _ _ => rfl
  | .alias _ _ _ => rfl
  | .sequence _ _ _ => rfl
  | .mapping _ _ pairs =>
    simp only [Node.children, fixItems_flatten]
    rfl

theorem nodes_singleton (n : Node) : nodes [n] = n :: nodes n.children := by
  rw [← Node.preorder_eq]
  simp

theorem walked_alias {i : NodeInfo} {name : Text} {target : Nat} (h : Pending root written m rest)
    (hname : name ∈ written.map (·.name)) (hmatch : Matches root n (.alias i name target))
    (hwalks : Walks root [n] m [.alias i name target] m)
    : Walked root written m rest [n] [.alias i name target] m := by
  have hnodes : nodes [.alias i name target] = [.alias i name target] := by
    rw [nodes_singleton]
    rfl
  constructor
  . rw [hnodes, List.filterMap_cons_none rfl]
    simpa using h
  . rw [hnodes]
    refine ⟨?_, trivial⟩
    rintro i' name' target' heq
    simp only [Node.alias.injEq] at heq
    exact heq.2.1 ▸ hname
  . exact List.Forall₂.cons hmatch List.Forall₂.nil
  . exact hwalks
  . exact Nat.le_refl _

theorem walked_renew {m₀ : Moves} (hstands : StandsFor root n d) (hd : d.isAlias = false)
    (hhead : n'.head = d.head)
    (h : Walked root (written ++ d.anchor.toList) m rest d.children n'.children m')
    (hwalks : Walks root d.children m n'.children m' → Walks root [n] m₀ [n'] m')
    (hmoved : m₀.moved.length ≤ m.moved.length) : Walked root written m₀ rest [n] [n'] m' := by
  have hanchor := Node.anchor_eq_of_head_eq hhead
  have hanchors : (nodes [n']).filterMap Node.anchor =
      d.anchor.toList ++ (nodes n'.children).filterMap Node.anchor := by
    rw [← hanchor, ← Node.anchors_eq]
    simp [Node.anchors]
  constructor
  . rw [hanchors, ← List.append_assoc]
    exact h.pending
  . rw [nodes_singleton]
    refine ⟨?_, hanchor ▸ h.ordered⟩
    rintro i name target rfl
    rw [← Node.isAlias_eq_of_head_eq hhead] at hd
    simp [Node.isAlias] at hd
  . exact List.Forall₂.cons (.renew hstands hhead h.matched) List.Forall₂.nil
  . exact hwalks h.walks
  . exact Nat.le_trans hmoved h.moved_le

theorem walked_nil (h : Pending root written m rest) : Walked root written m rest [] [] m := by
  constructor
  . simpa using h
  . trivial
  . exact List.Forall₂.nil
  . exact .nil m
  . exact Nat.le_refl _

theorem Walked.cons {m₁ : Moves} {ns' : List Node}
    (hn : Walked root written m (ns ++ rest) [n] [n'] m₁)
    (hns : Walked root (written ++ n'.anchors) m₁ rest ns ns' m')
    : Walked root written m rest (n :: ns) (n' :: ns') m' := by
  constructor
  . rw [Node.nodes_cons, List.filterMap_append, ← List.append_assoc]
    exact hns.pending
  . have := hn.ordered
    rw [Node.nodes_cons, ordered_append]
    exact ⟨by simpa using this, hns.ordered⟩
  . cases hn.matched with
    | cons hmatch _ => exact List.Forall₂.cons hmatch hns.matched
  . exact hn.walks.append hns.walks
  . exact Nat.le_trans hn.moved_le hns.moved_le

/-- What is below a node is walked over, and a larger bound makes no difference. -/
def Settled (root : Node) (bound : Nat) (n : Node) : Prop :=
  ∀ written m rest,
    Pending root (written ++ n.anchor.toList) (m.define n.anchor) (n.children ++ rest) →
    root.anchors.length ≤ bound + m.moved.length →
    ∃ n' m', (∀ k ≥ bound, fixBelow root (fixMoved root k) n m = (n', m')) ∧ n'.head = n.head ∧
      Walked root (written ++ n.anchor.toList) (m.define n.anchor) rest n.children n'.children m'

theorem visit_alias_walked {i : NodeInfo} {name : Text} {target : Nat} (hlinked : Linked root)
    (hmoved : ∀ j < bound, ∀ d, Settled root j d)
    (h : Pending root written m (.alias i name target :: rest))
    (hbound : root.anchors.length ≤ bound + m.moved.length)
    : ∃ n' m', (∀ k ≥ bound, ∀ below,
          visit root (fixMoved root k) (.alias i name target) below m = (n', m')) ∧
        Walked root written m rest [.alias i name target] [n'] m' := by
  have hmem : Node.alias i name target ∈ root.preorder := h.subset (Node.mem_nodes_of_mem (by simp))
  have hanchor := hlinked.target i name target hmem
  have hrest := h.keep rfl
  cases hdue : m.due? root target with
  | none =>
    refine ⟨.alias i name target, m, ?_, ?_⟩
    . intro k hk below
      simp only [visit, hdue]
    . exact walked_alias hrest (hrest.name_mem_of_due?_eq_none hlinked hanchor hdue) (.link ..)
        (.keep i name target hdue (.nil m))
  | some d =>
    have hlt := hrest.length_moved_lt hdue
    obtain ⟨hd, a, ha, hnumber⟩ := findAnchor?_eq_some (Moves.due?_eq_some hdue).2.1
    obtain rfl : a = ⟨name, target⟩ :=
      hlinked.anchor_eq (Node.mem_anchors.mpr ⟨d, hd, ha⟩) hanchor hnumber
    -- a node can still move, so the bound has not been reached
    obtain ⟨j, rfl⟩ : ∃ j, bound = j + 1 := ⟨bound - 1, by omega⟩
    have hpending := hrest.move hlinked hdue
    rw [← Node.anchor_withRemarks i.remarks d, ← Node.children_withRemarks i.remarks d] at hpending
    obtain ⟨n', m', hfix, hhead, hwalked⟩ :=
      hmoved j (Nat.lt_succ_self j) (d.withRemarks i.remarks) written (m.move target) rest hpending
        (by simp only [Moves.move, List.length_cons]; omega)
    rw [Node.head_withRemarks] at hhead
    rw [Node.anchor_withRemarks, Node.children_withRemarks] at hwalked
    refine ⟨n', m', ?_, ?_⟩
    . intro k hk below
      obtain ⟨k, rfl⟩ : ∃ k', k = k' + 1 := ⟨k - 1, by omega⟩
      simp only [visit, hdue, fixMoved]
      exact hfix k (by omega)
    . refine walked_renew (Or.inr ⟨i, _, rfl, hd, ha⟩) (Node.isAlias_eq_false_of_anchor ha)
        hhead hwalked
        (fun hbelow => .move i name target hdue hhead hbelow (.nil m')) ?_
      rw [Moves.moved_define, Moves.move]
      exact Nat.le_succ _

theorem visit_of_not_alias (hn : n.isAlias = false) (below : Moves → Node × Moves) (m : Moves)
    : visit root enter n below m =
        match m.left? n with
        | some a => (leaveAlias n.info a, m)
        | none => below m := by
  cases n
  all_goals
    first
    | rfl
    | simp [Node.isAlias] at hn

theorem visit_node_walked (hlinked : Linked root) (halias : n.isAlias = false)
    (hn : Settled root bound n) (h : Pending root written m (n :: rest))
    (hbound : root.anchors.length ≤ bound + m.moved.length)
    : ∃ n' m', (∀ k ≥ bound,
          visit root (fixMoved root k) n (fixBelow root (fixMoved root k) n) m = (n', m')) ∧
        Walked root written m rest [n] [n'] m' := by
  cases hleft : m.left? n with
  | some a =>
    refine ⟨leaveAlias n.info a, m, ?_, ?_⟩
    . intro k hk
      rw [visit_of_not_alias halias, hleft]
    . have hgone := Moves.left?_eq_some_iff.mp hleft
      have hmem : n ∈ root.preorder := h.subset (Node.mem_nodes_of_mem (by simp))
      have hname := h.name_mem_of_moved hlinked (Node.mem_anchors.mpr ⟨n, hmem, hgone.1⟩) hgone.2
      exact walked_alias (h.leave hleft) hname (.leave _ hgone.1) (.leave hleft (.nil m))
  | none =>
    obtain ⟨n', m', hfix, hhead, hwalked⟩ := hn written m rest (h.define hleft) hbound
    refine ⟨n', m', ?_, ?_⟩
    . intro k hk
      rw [visit_of_not_alias halias, hleft]
      exact hfix k hk
    . refine walked_renew (Or.inl ⟨halias, rfl⟩) halias hhead hwalked
        (fun hbelow => .enter halias hleft hhead hbelow (.nil m')) ?_
      simp only [Moves.moved_define, Nat.le_refl]

theorem visit_walked (hlinked : Linked root) (hmoved : ∀ j < bound, ∀ d, Settled root j d)
    (hn : Settled root bound n) (h : Pending root written m (n :: rest))
    (hbound : root.anchors.length ≤ bound + m.moved.length)
    : ∃ n' m', (∀ k ≥ bound,
          visit root (fixMoved root k) n (fixBelow root (fixMoved root k) n) m = (n', m')) ∧
        Walked root written m rest [n] [n'] m' := by
  by_cases halias : n.isAlias = true
  . obtain ⟨i, name, target, rfl⟩ := Node.exists_alias halias
    obtain ⟨n', m', hvisit, hwalked⟩ := visit_alias_walked hlinked hmoved h hbound
    exact ⟨n', m', fun k hk => hvisit k hk _, hwalked⟩
  . exact visit_node_walked hlinked (by simpa using halias) hn h hbound

theorem fixItems_walked (hlinked : Linked root) (hmoved : ∀ j < bound, ∀ d, Settled root j d)
    (hns : ∀ n ∈ ns, Settled root bound n) (h : Pending root written m (ns ++ rest))
    (hbound : root.anchors.length ≤ bound + m.moved.length)
    : ∃ ns' m', (∀ k ≥ bound, fixItems root (fixMoved root k) ns m = (ns', m')) ∧
        Walked root written m rest ns ns' m' := by
  induction ns generalizing written m with
  | nil => exact ⟨[], m, fun k hk => rfl, walked_nil h⟩
  | cons n ns ih =>
    simp only [List.mem_cons, forall_eq_or_imp] at hns
    obtain ⟨n', m₁, hvisit, hn⟩ := visit_walked hlinked hmoved hns.1 h hbound
    have hpending : Pending root (written ++ n'.anchors) m₁ (ns ++ rest) := by
      simpa [Node.anchors] using hn.pending
    have hmoved_le := hn.moved_le
    obtain ⟨ns', m', hitems, hwalked⟩ := ih hns.2 hpending (by omega)
    refine ⟨n' :: ns', m', ?_, hn.cons hwalked⟩
    intro k hk
    rw [fixItems, hvisit k hk]
    simp only [hitems k hk]

/-- The walk below every node ends. -/
theorem settled (hlinked : Linked root) (bound : Nat) (n : Node) : Settled root bound n := by
  -- a node that moves is walked over with a smaller bound, what is below a node with the same one
  induction bound using Nat.strongRecOn generalizing n with
  | ind bound ihbound =>
    induction n using Node.induction_on_children with
    | h n ih =>
      intro written m rest h hbound
      rw [← Moves.moved_define m n.anchor] at hbound
      obtain ⟨cs, m', hitems, hwalked⟩ := fixItems_walked hlinked ihbound ih h hbound
      refine ⟨withChildren cs n, m', ?_, head_withChildren cs n, ?_⟩
      . intro k hk
        rw [fixBelow_eq, hitems k hk]
      . have := children_fixBelow root (fixMoved root bound) n m
        rw [fixBelow_eq, hitems bound (Nat.le_refl _)] at this
        rw [this]
        exact hwalked

end Tree
end YamlOrder
