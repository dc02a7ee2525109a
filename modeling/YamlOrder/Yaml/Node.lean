import YamlOrder.Yaml.Tag
import YamlOrder.Yaml.Token

/-!
This module contains the document tree. An alias knows the number of the anchor that it stands for,
since a name can be given to several nodes.
-/

namespace YamlOrder
namespace Yaml

/-- The name of a node, and its number among the named nodes of the document. -/
structure Anchor where
  name : Text
  number : Nat
  deriving DecidableEq, Repr, Inhabited

/-- What all nodes have. `tagged` says that the tag was written out; an alias has no tag. -/
structure NodeInfo where
  tag : Text := []
  tagged : Bool := false
  anchor : Option Anchor := none
  line : Nat := 0
  column : Nat := 0
  remarks : Remarks := {}
  deriving DecidableEq, Repr, Inhabited

inductive Node where
  | scalar (info : NodeInfo) (value : Text) (style : ScalarStyle)
  | sequence (info : NodeInfo) (flow : Bool) (items : List Node)
  | mapping (info : NodeInfo) (flow : Bool) (pairs : List (Node × Node))
  | alias (info : NodeInfo) (name : Text) (target : Nat)
  deriving Repr, Inhabited

namespace Node

def info : Node → NodeInfo
  | .scalar i _ _ => i
  | .sequence i _ _ => i
  | .mapping i _ _ => i
  | .alias i _ _ => i

def withInfo (i : NodeInfo) : Node → Node
  | .scalar _ value style => .scalar i value style
  | .sequence _ flow items => .sequence i flow items
  | .mapping _ flow pairs => .mapping i flow pairs
  | .alias _ name target => .alias i name target

def remarks (n : Node) : Remarks := n.info.remarks

def withRemarks (r : Remarks) (n : Node) : Node := n.withInfo { n.info with remarks := r }

/-- The text by which a mapping key is compared; collections have none. -/
def keyText : Node → Text
  | .scalar _ value _ => value
  | .alias _ name _ => name
  | _ => []

/-- The tag of a node; an alias has none. -/
def tag (n : Node) : Text := n.info.tag

/--
The style of a node as a sum of flags: tagged 1, double quoted 2, single quoted 4, literal 8, folded
16, flow 32.
-/
def styleBits : Node → Nat
  | .scalar i _ style =>
    (if i.tagged then 1 else 0) +
      match style with
      | .plain => 0
      | .doubleQuoted => 2
      | .singleQuoted => 4
      | .literal => 8
      | .folded => 16
  | .sequence i flow _ => (if i.tagged then 1 else 0) + (if flow then 32 else 0)
  | .mapping i flow _ => (if i.tagged then 1 else 0) + (if flow then 32 else 0)
  | .alias _ _ _ => 0

mutual

/-- A node and all nodes below it, each before what is below it; keys come before their values. -/
def preorder : Node → List Node
  | .sequence i flow items => .sequence i flow items :: preorderItems items
  | .mapping i flow pairs => .mapping i flow pairs :: preorderPairs pairs
  | .scalar i value style => [.scalar i value style]
  | .alias i name target => [.alias i name target]

def preorderItems : List Node → List Node
  | [] => []
  | n :: rest => n.preorder ++ preorderItems rest

def preorderPairs : List (Node × Node) → List Node
  | [] => []
  | (k, v) :: rest => k.preorder ++ v.preorder ++ preorderPairs rest

end

/-- The anchor that a node carries; an alias carries none. -/
def anchor : Node → Option Anchor
  | .alias _ _ _ => none
  | n => n.info.anchor

/-- The anchors that the nodes of a tree carry, each before those below it. -/
def anchors (n : Node) : List Anchor := n.preorder.filterMap anchor

end Node

/-- A document: its root node, and the comments above and below everything else. -/
structure Tree where
  root : Node
  line : Nat := 1
  column : Nat := 1
  head : Text := []
  foot : Text := []
  deriving Repr, Inhabited

end Yaml
end YamlOrder
