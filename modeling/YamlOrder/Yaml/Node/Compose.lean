import YamlOrder.Yaml.Node
import YamlOrder.Yaml.Event.Parser
import YamlOrder.Yaml.Token.Scanner

/-!
This module contains the building of document trees from events.
-/

namespace YamlOrder
namespace Yaml

/-- A collection whose end has not been reached; what it holds is kept in reverse. -/
inductive Frame where
  | sequence (info : NodeInfo) (flow : Bool) (items : List Node)
  | mapping (info : NodeInfo) (flow : Bool) (pairs : List (Node × Node)) (key : Option Node)
  deriving Inhabited

/-- The tree so far. -/
structure Builder where
  frames : List Frame := []
  root : Option Node := none
  /-- The names that are known, the latest first. -/
  anchors : List Anchor := []
  nextAnchor : Nat := 0

namespace Builder

def setFoot (foot : Text) (n : Node) : Node := n.withRemarks { n.remarks with foot }

/--
A new key in a block mapping: its foot comment is that of the key before, which stands right above.
-/
def addKey (flow : Bool) (key : Node) : List (Node × Node) → List (Node × Node) × Node
  | (k, v) :: rest =>
    if !flow && !key.remarks.foot.isEmpty then
      ((setFoot key.remarks.foot k, v) :: rest, setFoot [] key)
    else
      ((k, v) :: rest, key)
  | [] => ([], key)

/-- A pair: the foot comment of the value is that of the key, unless the key has one. -/
def pair (key value : Node) : Node × Node :=
  if key.remarks.foot.isEmpty && !value.remarks.foot.isEmpty then
    (setFoot value.remarks.foot key, setFoot [] value)
  else
    (key, value)

/-- Put a complete node into the innermost open collection. -/
def attach (b : Builder) (n : Node) : Builder :=
  match b.frames with
  | [] => { b with root := some n }
  | .sequence info flow items :: rest =>
    { b with frames := .sequence info flow (n :: items) :: rest }
  | .mapping info flow pairs none :: rest =>
    let (pairs, key) := addKey flow n pairs
    { b with frames := .mapping info flow pairs (some key) :: rest }
  | .mapping info flow pairs (some key) :: rest =>
    { b with frames := .mapping info flow (pair key n :: pairs) none :: rest }

/-- The comments of a collection after its end. -/
def endRemarks (info : NodeInfo) (r : Remarks) : NodeInfo :=
  { info with remarks := { info.remarks with line := r.line, foot := r.foot } }

/-- A mapping at its end: the foot comment of a block mapping is that of its last key. -/
def closeMapping (info : NodeInfo) (flow : Bool) (pairs : List (Node × Node))
    (r : Remarks) : Node :=
  match pairs with
  | (k, v) :: rest =>
    if !flow && !r.foot.isEmpty then
      .mapping (endRemarks info { r with foot := [] }) flow ((setFoot r.foot k, v) :: rest).reverse
    else
      .mapping (endRemarks info r) flow pairs.reverse
  | [] => .mapping (endRemarks info r) flow []

/-- End the innermost open collection. -/
def close (b : Builder) (r : Remarks) : Builder :=
  match b.frames with
  | .sequence info flow items :: rest =>
    { b with frames := rest }.attach (.sequence (endRemarks info r) flow items.reverse)
  | .mapping info flow pairs _ :: rest =>
    { b with frames := rest }.attach (closeMapping info flow pairs r)
  | [] => b

/-- Give a name to the node that comes next. -/
def name (b : Builder) (anchor : Text) : Builder × Option Anchor :=
  if anchor.isEmpty then (b, none)
  else
    let a : Anchor := ⟨anchor, b.nextAnchor⟩
    ({ b with anchors := a :: b.anchors, nextAnchor := b.nextAnchor + 1 }, some a)

/--
The information on a node that its event gives. A tag that is a lone `!` asks for the default.
-/
def infoOf (e : Event) (anchor : Option Anchor) (tag default : Text) : NodeInfo :=
  let tagged := !tag.isEmpty && tag != [33]
  { tag := if tagged then Tag.short tag else default
    tagged
    anchor
    line := e.mark.line + 1
    column := e.mark.column + 1
    remarks := e.remarks }

/-- The tag of a scalar that names none. -/
def defaultTag (value : Text) (style : ScalarStyle) : Text :=
  if style != .plain then Tag.str
  else if value == [60, 60] then Tag.merge
  else Tag.implicit value

def step (b : Builder) (e : Event) : Except Fault Builder :=
  match e.kind with
  | .alias n =>
    match b.anchors.find? (·.name == n) with
    | some a => .ok (b.attach (.alias (infoOf e none [] []) n a.number))
    | none => .error (.unknownAnchor n)
  | .scalar anchor tag value style =>
    let (b, a) := b.name anchor
    .ok (b.attach (.scalar (infoOf e a tag (defaultTag value style)) value style))
  | .sequenceStart anchor tag flow =>
    let (b, a) := b.name anchor
    .ok { b with frames := .sequence (infoOf e a tag Tag.seq) flow [] :: b.frames }
  | .mappingStart anchor tag flow =>
    let (b, a) := b.name anchor
    .ok { b with frames := .mapping (infoOf e a tag Tag.map) flow [] none :: b.frames }
  | .sequenceEnd => .ok (b.close e.remarks)
  | .mappingEnd => .ok (b.close e.remarks)
  | _ => .ok b

end Builder

/-- The document tree of the first document of a stream; nothing if the stream has no document. -/
def Tree.ofEvents (es : EventStream) : Except Fault (Option Tree) := do
  let b ← es.events.foldlM Builder.step {}
  if let some e := es.fault then
    throw e
  let start := es.events.find? (·.kind == .documentStart)
  let stop := es.events.find? (·.kind == .documentEnd)
  match b.root, start, stop with
  | some root, some start, some stop =>
    return some {
      root
      line := start.mark.line + 1
      column := start.mark.column + 1
      head := start.remarks.head
      foot := stop.remarks.foot }
  | _, _, _ => return none

/-- Read the first document of a stream. -/
def Tree.parse (text : Text) : Except Fault (Option Tree) :=
  Tree.ofEvents (EventStream.ofTokens (TokenStream.ofSource (Source.ofText text)))

end Yaml
end YamlOrder
