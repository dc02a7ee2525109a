import YamlOrder.Yaml.Node

/-!
This module contains the sorting of a document tree, and the repair of anchors after it. An alias
must not come before the node that it stands for, so the node moves to the place of the alias, and
the alias to the place of the node.
-/

namespace YamlOrder
namespace Tree

open Yaml

/-- An order of mapping keys. -/
abbrev Comparator := Text → Text → Ordering

/-- The pairs of a mapping in order; pairs that compare equal keep theirs. -/
def sortPairs (cmp : Comparator) (pairs : List (Node × Node)) : List (Node × Node) :=
  pairs.mergeSort fun a b => (cmp a.1.keyText b.1.keyText).isLE

mutual

/-- Sort every mapping below a node by one order. -/
def sortNested (cmp : Comparator) : Node → Node
  | .sequence i flow items => .sequence i flow (sortItems cmp items)
  | .mapping i flow pairs => .mapping i flow (sortPairs cmp (sortBoth cmp pairs))
  | .scalar i value style => .scalar i value style
  | .alias i name target => .alias i name target

def sortItems (cmp : Comparator) : List Node → List Node
  | [] => []
  | n :: rest => sortNested cmp n :: sortItems cmp rest

/-- Sort below both sides of every pair. -/
def sortBoth (cmp : Comparator) : List (Node × Node) → List (Node × Node)
  | [] => []
  | (k, v) :: rest => (sortNested cmp k, sortNested cmp v) :: sortBoth cmp rest

end

/-- Sort a mapping at the root by `top` and every other mapping by `nested`. -/
def sortRoot (top nested : Comparator) : Node → Node
  | .mapping i flow pairs => .mapping i flow (sortPairs top (sortBoth nested pairs))
  | n => sortNested nested n

/-- The node with an anchor of a number. -/
def findAnchor? (number : Nat) (root : Node) : Option Node :=
  root.preorder.find? (·.anchor.any (·.number == number))

/-- The names that have been defined so far, and the numbers of the nodes that have moved. -/
structure Moves where
  defined : List Text := []
  moved : List Nat := []

/-- The alias that takes the place of a node that has moved. -/
def leaveAlias (i : NodeInfo) (a : Anchor) : Node :=
  .alias { line := i.line, column := i.column, remarks := i.remarks } a.name a.number

namespace Moves

/-- A new definition of a name. -/
def define (m : Moves) (a : Option Anchor) : Moves :=
  match a with
  | some a => { m with defined := a.name :: m.defined }
  | none => m

/-- A node leaves its place. -/
def move (m : Moves) (number : Nat) : Moves := { m with moved := number :: m.moved }

/-- The anchor of a node that has moved. -/
def left? (m : Moves) (n : Node) : Option Anchor := n.anchor.filter (m.moved.contains ·.number)

/--
The node that an alias changes places with: the one it stands for, unless that one has moved or its
name has been defined.
-/
def due? (m : Moves) (root : Node) (target : Nat) : Option Node :=
  if m.moved.contains target then none
  else (findAnchor? target root).filter (!·.anchor.any (m.defined.contains ·.name))

end Moves

/--
What stands at the place of a node. `enter` walks over a node that takes the place of an alias, and
`below` over the node itself.
-/
def visit (root : Node) (enter : Node → Moves → Node × Moves) (n : Node)
    (below : Moves → Node × Moves) (m : Moves) : Node × Moves :=
  match n with
  | .alias i name target =>
    match m.due? root target with
    | some d => enter (d.withRemarks i.remarks) (m.move target)
    | none => (.alias i name target, m)
  | n =>
    match m.left? n with
    | some a => (leaveAlias n.info a, m)
    | none => below m

mutual

/--
Define the name of a node and walk over what is below it, in the order in which it is written.
-/
def fixBelow (root : Node) (enter : Node → Moves → Node × Moves) : Node → Moves → Node × Moves
  | .scalar i value style, m => (.scalar i value style, m.define i.anchor)
  | .sequence i flow items, m =>
    let (items, m) := fixItems root enter items (m.define i.anchor)
    (.sequence i flow items, m)
  | .mapping i flow pairs, m =>
    let (pairs, m) := fixPairs root enter pairs (m.define i.anchor)
    (.mapping i flow pairs, m)
  | .alias i name target, m => (.alias i name target, m)

def fixItems (root : Node) (enter : Node → Moves → Node × Moves)
    : List Node → Moves → List Node × Moves
  | [], m => ([], m)
  | n :: rest, m =>
    let (n, m) := visit root enter n (fixBelow root enter n) m
    let (rest, m) := fixItems root enter rest m
    (n :: rest, m)

def fixPairs (root : Node) (enter : Node → Moves → Node × Moves)
    : List (Node × Node) → Moves → List (Node × Node) × Moves
  | [], m => ([], m)
  | (k, v) :: rest, m =>
    let (k, m) := visit root enter k (fixBelow root enter k) m
    let (v, m) := visit root enter v (fixBelow root enter v) m
    let (rest, m) := fixPairs root enter rest m
    ((k, v) :: rest, m)

end

/--
Walk over a node that takes the place of an alias, with at most `bound` such nodes inside each
other.
-/
def fixMoved (root : Node) : Nat → Node → Moves → Node × Moves
  | 0, n, m => (n, m)
  | bound + 1, n, m => fixBelow root (fixMoved root bound) n m

/-- The tree with every name defined before it is used, if no more than `bound` nodes move. -/
def fixWithin (bound : Nat) (root : Node) : Node :=
  (visit root (fixMoved root bound) root (fixBelow root (fixMoved root bound) root) {}).1

/-- The tree with every name defined before it is used. No node moves twice. -/
def fixAnchors (root : Node) : Node := fixWithin root.anchors.length root

end Tree
end YamlOrder
