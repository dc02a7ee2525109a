import YamlOrder.Proofs.Tree.KeyOrder
import YamlOrder.Proofs.Tree.Settle

/-!
This module contains the keys of trees whose texts have got new names, and of trees that have been
read again.
-/

namespace YamlOrder
namespace Yaml

def NodeInfo.renamed (rename : Text → Text) (i : NodeInfo) : NodeInfo :=
  { i with tag := rename i.tag, anchor := i.anchor.map fun a => { a with name := rename a.name } }

mutual

/-- A node whose texts have got new names; comments keep theirs. -/
def Node.renamed (rename : Text → Text) : Node → Node
  | .scalar i value style => .scalar (i.renamed rename) (rename value) style
  | .sequence i flow items => .sequence (i.renamed rename) flow (renamedItems rename items)
  | .mapping i flow pairs => .mapping (i.renamed rename) flow (renamedPairs rename pairs)
  | .alias i name target => .alias (i.renamed rename) (rename name) target

def Node.renamedItems (rename : Text → Text) : List Node → List Node
  | [] => []
  | n :: rest => n.renamed rename :: renamedItems rename rest

def Node.renamedPairs (rename : Text → Text) : List (Node × Node) → List (Node × Node)
  | [] => []
  | (k, v) :: rest => (k.renamed rename, v.renamed rename) :: renamedPairs rename rest

end

def Tree.renamed (rename : Text → Text) (t : Tree) : Tree :=
    { t with root := t.root.renamed rename }

end Yaml

namespace Tree

open Yaml

variable {s : Schema} {o : StyleOptions} {spot : Spot} {inFlow : Bool} {rename : Text → Text}
  {n n' n'' : Node}

theorem keyText_renamed (hnil : rename [] = []) (n : Node)
    : (n.renamed rename).keyText = rename n.keyText := by
  cases n
  all_goals simp [Node.renamed, Node.keyText, hnil]

theorem map_keyText_renamedPairs (hnil : rename [] = []) (pairs : List (Node × Node))
    : (Node.renamedPairs rename pairs).map (·.1.keyText) =
      (pairs.map (·.1.keyText)).map rename := by
  induction pairs with
  | nil => rfl
  | cons p pairs ih =>
    obtain ⟨k, v⟩ := p
    rw [Node.renamedPairs, List.map_cons, List.map_cons, List.map_cons, keyText_renamed hnil, ih]

mutual

theorem sameKeys_renamed (hnil : rename [] = []) (n : Node)
    : SameKeys rename n (n.renamed rename) := by
  match n with
  | .scalar i value style => rfl
  | .alias i name target => rfl
  | .sequence i flow items =>
    simp only [SameKeys, Node.renamed, Node.preorder, List.map_cons]
    rw [map_keys_renamedItems hnil items]
    rfl
  | .mapping i flow pairs =>
    simp only [SameKeys, Node.renamed, Node.preorder, List.map_cons, Node.keys, Node.pairs]
    rw [map_keyText_renamedPairs hnil]
    exact congrArg _ (map_keys_renamedPairs hnil pairs)
termination_by structural n

theorem map_keys_renamedItems (hnil : rename [] = []) (items : List Node)
    : (Node.preorderItems (Node.renamedItems rename items)).map Node.keys =
        (Node.preorderItems items).map fun c => c.keys.map rename := by
  match items with
  | [] => rfl
  | n :: rest =>
    simp only [Node.renamedItems, Node.preorderItems, List.map_append]
    rw [sameKeys_renamed hnil n, map_keys_renamedItems hnil rest]
termination_by structural items

theorem map_keys_renamedPairs (hnil : rename [] = []) (pairs : List (Node × Node))
    : (Node.preorderPairs (Node.renamedPairs rename pairs)).map Node.keys =
        (Node.preorderPairs pairs).map fun c => c.keys.map rename := by
  match pairs with
  | [] => rfl
  | (k, v) :: rest =>
    simp only [Node.renamedPairs, Node.preorderPairs, List.map_append]
    rw [sameKeys_renamed hnil k, sameKeys_renamed hnil v, map_keys_renamedPairs hnil rest]
termination_by structural pairs

end

theorem Settles.keyText_eq (h : Settles s o spot n n') : n'.keyText = n.keyText := by
  unfold Settles at h
  split at h
  . exact h.2.1
  . rfl
  . rfl
  . exact h.2
  . exact h.elim

theorem SettlesPairs.map_keyText_eq {pairs pairs' : List (Node × Node)}
    (h : SettlesPairs s o inFlow pairs pairs')
    : pairs'.map (·.1.keyText) = pairs.map (·.1.keyText) := by
  induction pairs generalizing pairs' with
  | nil =>
    cases pairs' with
    | nil => rfl
    | cons p' pairs' => exact h.elim
  | cons p pairs ih =>
    cases pairs' with
    | nil => exact h.elim
    | cons p' pairs' =>
      rw [List.map_cons, List.map_cons, h.1.keyText_eq, ih h.2.2]

mutual

theorem Settles.map_keys_eq {spot : Spot} {n n' : Node} (h : Settles s o spot n n')
    : n'.preorder.map Node.keys = n.preorder.map Node.keys := by
  match n, n', h with
  | .scalar i value style, .scalar i' value' style', _ => rfl
  | .alias i name target, .alias i' name' target', _ => rfl
  | .sequence i flow items, .sequence i' flow' items', h =>
    simp only [Node.preorder, List.map_cons]
    rw [h.2.2.map_keys_eq]
    rfl
  | .mapping i flow pairs, .mapping i' flow' pairs', h =>
    simp only [Node.preorder, List.map_cons, Node.keys, Node.pairs]
    rw [h.2.2.map_keyText_eq]
    exact congrArg _ h.2.2.map_keys_eq
termination_by structural n

theorem SettlesItems.map_keys_eq {inFlow : Bool} {items items' : List Node}
    (h : SettlesItems s o inFlow items items')
    : (Node.preorderItems items').map Node.keys = (Node.preorderItems items).map Node.keys := by
  match items, items', h with
  | [], [], _ => rfl
  | n :: rest, n' :: rest', h =>
    simp only [Node.preorderItems, List.map_append]
    rw [h.1.map_keys_eq, h.2.map_keys_eq]
termination_by structural items

theorem SettlesPairs.map_keys_eq {inFlow : Bool} {pairs pairs' : List (Node × Node)}
    (h : SettlesPairs s o inFlow pairs pairs')
    : (Node.preorderPairs pairs').map Node.keys = (Node.preorderPairs pairs).map Node.keys := by
  match pairs, pairs', h with
  | [], [], _ => rfl
  | (k, v) :: rest, (k', v') :: rest', h =>
    simp only [Node.preorderPairs, List.map_append]
    rw [h.1.map_keys_eq, h.2.1.map_keys_eq, h.2.2.map_keys_eq]
termination_by structural pairs

end

/-- What is read of a tree with new names has the keys of the tree under their new names. -/
theorem SameKeys.trans_settles (h : SameKeys rename n n') (h' : Settles s o spot n' n'')
    : SameKeys rename n n'' :=
  h'.map_keys_eq.trans h

end Tree
end YamlOrder
