import Mathlib.Data.List.Basic
import YamlOrder.Yaml.Node

/-!
This module contains the view of a document tree as nodes with children, keys and values of a
mapping in one list, and the induction that goes with it.
-/

namespace YamlOrder
namespace Yaml

/-- The nodes of pairs, each key before its value. -/
def flatten (pairs : List (Node × Node)) : List Node := pairs.flatMap fun p => [p.1, p.2]

@[simp]
theorem flatten_nil : flatten [] = [] := rfl

@[simp]
theorem flatten_cons (p : Node × Node) (pairs : List (Node × Node))
    : flatten (p :: pairs) = p.1 :: p.2 :: flatten pairs := by
  simp [flatten]

theorem mem_flatten_of_mem {p : Node × Node} {ps : List (Node × Node)} (h : p ∈ ps)
    : p.1 ∈ flatten ps ∧ p.2 ∈ flatten ps :=
  ⟨List.mem_flatMap.mpr ⟨p, h, by simp⟩, List.mem_flatMap.mpr ⟨p, h, by simp⟩⟩

namespace Node

variable {n c : Node} {cs : List Node}

/-- The nodes right below a node. -/
def children : Node → List Node
  | .scalar _ _ _ => []
  | .sequence _ _ items => items
  | .mapping _ _ pairs => flatten pairs
  | .alias _ _ _ => []

def isAlias : Node → Bool
  | .alias _ _ _ => true
  | _ => false

/-- What a node is apart from its children, its comments and its place in the source. -/
def head : Node → Node
  | .scalar i value style => .scalar { i with line := 0, column := 0, remarks := {} } value style
  | .sequence i flow _ => .sequence { i with line := 0, column := 0, remarks := {} } flow []
  | .mapping i flow _ => .mapping { i with line := 0, column := 0, remarks := {} } flow []
  | .alias _ name _ => .alias {} name 0

theorem sizeOf_lt_of_mem_flatten {pairs : List (Node × Node)} (h : c ∈ flatten pairs)
    : sizeOf c < sizeOf pairs := by
  induction pairs with
  | nil => simp at h
  | cons p pairs ih =>
    obtain ⟨k, v⟩ := p
    simp only [flatten_cons, List.mem_cons] at h
    simp only [List.cons.sizeOf_spec, Prod.mk.sizeOf_spec]
    obtain rfl | rfl | h := h
    . omega
    . omega
    . have := ih h
      omega

theorem sizeOf_lt_of_mem_children (h : c ∈ n.children) : sizeOf c < sizeOf n := by
  match n with
  | .scalar _ _ _ => simp [children] at h
  | .alias _ _ _ => simp [children] at h
  | .sequence i flow items =>
    have : sizeOf c < sizeOf items := List.sizeOf_lt_of_mem h
    simp only [sequence.sizeOf_spec]
    omega
  | .mapping i flow pairs =>
    have : sizeOf c < sizeOf pairs := sizeOf_lt_of_mem_flatten h
    simp only [mapping.sizeOf_spec]
    omega

theorem induction_on_children {P : Node → Prop} (h : ∀ n, (∀ c ∈ n.children, P c) → P n) (n : Node)
    : P n := by
  apply h
  intro c hc
  exact induction_on_children h c
termination_by sizeOf n
decreasing_by exact sizeOf_lt_of_mem_children hc

/-- The nodes of a list of trees, each before what is below it. -/
def nodes (cs : List Node) : List Node := cs.flatMap preorder

@[simp]
theorem nodes_nil : nodes [] = [] := rfl

@[simp]
theorem nodes_cons (c : Node) (cs : List Node) : nodes (c :: cs) = c.preorder ++ nodes cs := by
  simp [nodes]

@[simp]
theorem nodes_append (cs ds : List Node) : nodes (cs ++ ds) = nodes cs ++ nodes ds := by
  simp [nodes]

theorem preorderItems_eq (items : List Node) : preorderItems items = nodes items := by
  induction items with
  | nil => simp [preorderItems]
  | cons n rest ih => simp [preorderItems, ih]

theorem preorderPairs_eq (pairs : List (Node × Node))
    : preorderPairs pairs = nodes (flatten pairs) := by
  induction pairs with
  | nil => simp [preorderPairs]
  | cons p rest ih =>
    obtain ⟨k, v⟩ := p
    simp [preorderPairs, ih]

theorem preorder_eq (n : Node) : n.preorder = n :: nodes n.children := by
  match n with
  | .scalar _ _ _ => simp [preorder, children]
  | .alias _ _ _ => simp [preorder, children]
  | .sequence _ _ _ => simp [preorder, children, preorderItems_eq]
  | .mapping _ _ _ => simp [preorder, children, preorderPairs_eq]

theorem self_mem_preorder (n : Node) : n ∈ n.preorder := by
  rw [preorder_eq]
  exact List.mem_cons_self

theorem mem_nodes : c ∈ nodes cs ↔ ∃ n ∈ cs, c ∈ n.preorder := List.mem_flatMap

theorem mem_nodes_of_mem (h : c ∈ cs) : c ∈ nodes cs := mem_nodes.mpr ⟨c, h, self_mem_preorder c⟩

theorem preorder_subset_of_mem {n c : Node} (h : c ∈ n.preorder) : c.preorder ⊆ n.preorder := by
  induction n using induction_on_children with
  | h n ih =>
    rw [preorder_eq n, List.mem_cons] at h
    cases h with
    | inl h =>
      rw [h]
      exact List.Subset.refl _
    | inr h =>
      obtain ⟨m, hm, hc⟩ := mem_nodes.mp h
      intro x hx
      rw [preorder_eq n]
      exact List.mem_cons_of_mem _ (mem_nodes.mpr ⟨m, hm, ih m hm hc hx⟩)

theorem nodes_children_subset (n : Node) : nodes n.children ⊆ n.preorder := by
  rw [preorder_eq]
  exact List.subset_cons_self _ _

theorem filterMap_preorder {β : Type} (f : Node → Option β) (n : Node)
    : n.preorder.filterMap f = (f n).toList ++ (nodes n.children).filterMap f := by
  rw [preorder_eq]
  cases h : f n with
  | none => simp [h]
  | some a => simp [h]

theorem filterMap_nodes {β : Type} (f : Node → Option β) (cs : List Node)
    : (nodes cs).filterMap f = cs.flatMap fun c => c.preorder.filterMap f := by
  simp [nodes, List.filterMap_flatMap]

theorem anchors_eq (n : Node) : n.anchors = n.anchor.toList ++
    (nodes n.children).filterMap anchor :=
  filterMap_preorder anchor n

theorem mem_anchors {a : Anchor} : a ∈ n.anchors ↔ ∃ c ∈ n.preorder, c.anchor = some a :=
  List.mem_filterMap

@[simp]
theorem anchor_alias (i : NodeInfo) (name : Text) (target : Nat)
    : (Node.alias i name target).anchor = none := rfl

theorem children_withRemarks (r : Remarks) (n : Node)
    : (n.withRemarks r).children = n.children := by
  cases n
  all_goals rfl

theorem anchor_withRemarks (r : Remarks) (n : Node) : (n.withRemarks r).anchor = n.anchor := by
  cases n
  all_goals rfl

theorem head_withRemarks (r : Remarks) (n : Node) : (n.withRemarks r).head = n.head := by
  cases n
  all_goals rfl

theorem anchor_eq_of_head_eq {m : Node} (h : n.head = m.head) : n.anchor = m.anchor := by
  cases n
  all_goals
    cases m
    all_goals simp_all [head, anchor, info]

theorem isAlias_eq_of_head_eq {m : Node} (h : n.head = m.head) : n.isAlias = m.isAlias := by
  cases n
  all_goals
    cases m
    all_goals simp_all [head, isAlias]

theorem exists_alias (h : n.isAlias = true) : ∃ i name target, n = .alias i name target := by
  cases n
  all_goals simp_all [isAlias]

theorem isAlias_eq_false_of_anchor {a : Anchor} (h : n.anchor = some a) : n.isAlias = false := by
  cases n
  all_goals simp_all [anchor, isAlias]

mutual

/-- The kinds, tags and values of a tree. -/
def data : Node → Node
  | .scalar i value _ => .scalar { tag := i.tag } value .plain
  | .sequence i _ items => .sequence { tag := i.tag } false (dataItems items)
  | .mapping i _ pairs => .mapping { tag := i.tag } false (dataPairs pairs)
  | .alias _ name target => .alias {} name target

def dataItems : List Node → List Node
  | [] => []
  | n :: rest => n.data :: dataItems rest

def dataPairs : List (Node × Node) → List (Node × Node)
  | [] => []
  | (k, v) :: rest => (k.data, v.data) :: dataPairs rest

end

mutual

/-- Whether two nodes are the same, comments and places included. -/
def same : Node → Node → Bool
  | .scalar i value style, .scalar j value' style' => i == j && value == value' && style == style'
  | .sequence i flow items, .sequence j flow' items' =>
    i == j && flow == flow' && sameItems items items'
  | .mapping i flow pairs, .mapping j flow' pairs' =>
    i == j && flow == flow' && samePairs pairs pairs'
  | .alias i name target, .alias j name' target' => i == j && name == name' && target == target'
  | _, _ => false

def sameItems : List Node → List Node → Bool
  | [], [] => true
  | n :: rest, n' :: rest' => same n n' && sameItems rest rest'
  | _, _ => false

def samePairs : List (Node × Node) → List (Node × Node) → Bool
  | [], [] => true
  | (k, v) :: rest, (k', v') :: rest' => same k k' && same v v' && samePairs rest rest'
  | _, _ => false

end

mutual

theorem same_iff (n n' : Node) : same n n' = true ↔ n = n' := by
  match n with
  | .scalar _ _ _ =>
    cases n'
    all_goals simp [same, and_assoc]
  | .sequence _ _ items =>
    cases n'
    all_goals simp [same, and_assoc, sameItems_iff items]
  | .mapping _ _ pairs =>
    cases n'
    all_goals simp [same, and_assoc, samePairs_iff pairs]
  | .alias _ _ _ =>
    cases n'
    all_goals simp [same, and_assoc]

theorem sameItems_iff (items items' : List Node) : sameItems items items' = true ↔
    items = items' := by
  match items, items' with
  | [], [] => simp [sameItems]
  | [], _ :: _ => simp [sameItems]
  | _ :: _, [] => simp [sameItems]
  | n :: rest, n' :: rest' => simp [sameItems, same_iff n n', sameItems_iff rest rest']

theorem samePairs_iff (pairs pairs' : List (Node × Node))
    : samePairs pairs pairs' = true ↔ pairs = pairs' := by
  match pairs, pairs' with
  | [], [] => simp [samePairs]
  | [], _ :: _ => simp [samePairs]
  | _ :: _, [] => simp [samePairs]
  | (k, v) :: rest, (k', v') :: rest' =>
    simp [samePairs, same_iff k k', same_iff v v', samePairs_iff rest rest']

end

instance : DecidableEq Node := fun n n' => decidable_of_iff _ (same_iff n n')

end Node

deriving instance DecidableEq for Tree

end Yaml
end YamlOrder
