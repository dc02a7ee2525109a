import YamlOrder.Proofs.Sorter.Pipeline

/-!
This module contains trees without comments and positions. They are enough to tell whether a tree
can be used with a schema.
-/

namespace YamlOrder
namespace Yaml

/-- What is known of a node apart from its comments and its position. -/
def NodeInfo.bare (i : NodeInfo) : NodeInfo :=
    { tag := i.tag, tagged := i.tagged, anchor := i.anchor }

namespace Node

mutual

/-- A tree without comments and positions. -/
def bare : Node → Node
  | .scalar i value style => .scalar i.bare value style
  | .sequence i flow items => .sequence i.bare flow (bareItems items)
  | .mapping i flow pairs => .mapping i.bare flow (barePairs pairs)
  | .alias i name target => .alias i.bare name target

def bareItems : List Node → List Node
  | [] => []
  | n :: rest => n.bare :: bareItems rest

def barePairs : List (Node × Node) → List (Node × Node)
  | [] => []
  | (k, v) :: rest => (k.bare, v.bare) :: barePairs rest

end

mutual

theorem preorder_bare (n : Node) : n.bare.preorder = n.preorder.map bare := by
  match n with
  | .scalar i value style => rfl
  | .sequence i flow items => simp only [bare, preorder, List.map_cons, preorderItems_bare items]
  | .mapping i flow pairs => simp only [bare, preorder, List.map_cons, preorderPairs_bare pairs]
  | .alias i name target => rfl

theorem preorderItems_bare (items : List Node)
    : preorderItems (bareItems items) = (preorderItems items).map bare := by
  match items with
  | [] => rfl
  | n :: rest =>
    simp only [bareItems, preorderItems, List.map_append, preorder_bare n, preorderItems_bare rest]

theorem preorderPairs_bare (pairs : List (Node × Node))
    : preorderPairs (barePairs pairs) = (preorderPairs pairs).map bare := by
  match pairs with
  | [] => rfl
  | (k, v) :: rest =>
    simp only [barePairs, preorderPairs, List.map_append, preorder_bare k, preorder_bare v,
      preorderPairs_bare rest]

end

end Node
end Yaml

namespace Tree

open Yaml (Node)

variable {n n' : Node} {pairs : List (Node × Node)} {seen : List (Text × Nat)} {s : Schema}

/-- What the keys of a mapping must not share. -/
def keyIds (pairs : List (Node × Node)) : List Text := pairs.filterMap fun p => keyId? p.1

theorem repeatedKey?_go_eq_none_iff (seen : List (Text × Nat)) (pairs : List (Node × Node))
    : repeatedKey?.go seen pairs = none ↔ (keyIds pairs).Nodup ∧ ∀ id ∈ keyIds pairs,
      id ∉ seen.map (·.1) := by
  induction pairs generalizing seen with
  | nil => simp [repeatedKey?.go, keyIds]
  | cons p rest ih =>
    obtain ⟨k, v⟩ := p
    unfold repeatedKey?.go
    cases hid : keyId? k with
    | none =>
      have hids : keyIds ((k, v) :: rest) = keyIds rest := List.filterMap_cons_none hid
      rw [hids]
      exact ih seen
    | some id =>
      have hids : keyIds ((k, v) :: rest) = id :: keyIds rest := List.filterMap_cons_some hid
      rw [hids]
      dsimp only
      cases hfind : seen.find? (·.1 == id) with
      | some first =>
        have hmem : id ∈ seen.map (·.1) := by
          have heq := List.find?_some hfind
          rw [beq_iff_eq] at heq
          exact List.mem_map.mpr ⟨first, List.mem_of_find?_eq_some hfind, heq⟩
        simp only [reduceCtorEq, false_iff]
        rintro ⟨-, hfree⟩
        exact hfree id List.mem_cons_self hmem
      | none =>
        have hfree : id ∉ seen.map (·.1) := by
          intro hmem
          obtain ⟨first, hfirst, heq⟩ := List.mem_map.mp hmem
          exact List.find?_eq_none.mp hfind first hfirst (beq_iff_eq.mpr heq)
        dsimp only
        rw [ih, List.nodup_cons]
        simp only [List.map_cons, List.mem_cons, not_or, forall_eq_or_imp]
        grind

theorem keyIds_barePairs (pairs : List (Node × Node))
    : keyIds (Node.barePairs pairs) = keyIds pairs := by
  have hkey (k : Node) : keyId? k.bare = keyId? k := by
    cases k
    all_goals rfl
  induction pairs with
  | nil => rfl
  | cons p rest ih =>
    simp only [keyIds, Node.barePairs, List.filterMap_cons, hkey] at ih ⊢
    rw [ih]

theorem checkKeys_mapping (i : Yaml.NodeInfo) (flow : Bool) (pairs : List (Node × Node))
    : checkKeys (.mapping i flow pairs) = .ok () ↔ (keyIds pairs).Nodup := by
  have hnone := repeatedKey?_go_eq_none_iff [] pairs
  simp only [List.map_nil, List.not_mem_nil, not_false_eq_true, implies_true, and_true] at hnone
  rw [← hnone, checkKeys, repeatedKey?]
  cases repeatedKey?.go [] pairs with
  | none => exact ⟨fun _ => rfl, fun _ => rfl⟩
  | some _ => exact ⟨nofun, nofun⟩

theorem checkKeys_bare (n : Node) : checkKeys n.bare = .ok () ↔ checkKeys n = .ok () := by
  cases n with
  | mapping i flow pairs => rw [Node.bare, checkKeys_mapping, checkKeys_mapping, keyIds_barePairs]
  | _ => rfl

theorem checkTag_eq_ok_iff (s : Schema) (n : Node)
    : checkTag s n = .ok () ↔ (n.info.tagged && !s.tags.contains n.tag) = false := by
  unfold checkTag
  cases n.info.tagged && !s.tags.contains n.tag
  all_goals simp

theorem checkTag_bare (s : Schema) (n : Node) : checkTag s n.bare = .ok () ↔
    checkTag s n = .ok () := by
  have hinfo : n.bare.info = n.info.bare := by
    cases n
    all_goals rfl
  rw [checkTag_eq_ok_iff, checkTag_eq_ok_iff, Node.tag, hinfo]
  rfl

theorem forM_eq_ok_iff {α ε : Type} {f : α → Except ε PUnit.{1}} {xs : List α}
    : xs.forM f = .ok () ↔ ∀ x ∈ xs, f x = .ok () := by
  induction xs with
  | nil => exact ⟨fun _ => nofun, fun _ => rfl⟩
  | cons x xs ih =>
    have hcons : (x :: xs).forM f = f x >>= fun _ => xs.forM f := rfl
    rw [hcons, Sorter.bind_eq_ok, List.forall_mem_cons, ← ih]
    exact ⟨fun ⟨_, hx, hxs⟩ => ⟨hx, hxs⟩, fun ⟨hx, hxs⟩ => ⟨(), hx, hxs⟩⟩

/-- Whether a tree can be used with a schema does not depend on its comments and positions. -/
theorem check_eq_ok_of_bare {t t' : Yaml.Tree} (hbare : t'.root.bare = t.root.bare)
    (h : check s t = .ok ())
    : check s t' = .ok () := by
  have hcheck (t : Yaml.Tree) : check s t = .ok () ↔
      (∀ n ∈ t.root.bare.preorder, checkKeys n = .ok ()) ∧ ∀ n ∈ t.root.bare.preorder,
      checkTag s n = .ok () := by
    simp only [Node.preorder_bare, List.forall_mem_map, checkKeys_bare, checkTag_bare,
      ← forM_eq_ok_iff]
    unfold check
    rw [Sorter.bind_eq_ok]
    exact ⟨fun ⟨_, hkeys, htags⟩ => ⟨hkeys, htags⟩, fun ⟨hkeys, htags⟩ => ⟨(), hkeys, htags⟩⟩
  rw [hcheck] at h ⊢
  rwa [hbare]

end Tree
end YamlOrder
