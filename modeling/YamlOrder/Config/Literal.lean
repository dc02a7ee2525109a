import YamlOrder.Config.Scalar
import YamlOrder.Tree.Arrange

/-!
This module contains the notation in which messages show a collection that is used as a key.
-/

namespace YamlOrder
namespace Config

open Yaml

def monthNames : List Text :=
  ["January", "February", "March", "April", "May", "June", "July", "August", "September", "October",
    "November", "December"]

/-- A point in time by its parts. -/
def literalTime (t : Timestamp) : Text :=
  let numbers := [t.day, t.hour, t.minute, t.second, t.nanosecond].map Text.ofNat
  Text.ofString "time.Date(" ++ Text.ofNat t.year ++ ", time." ++
    monthNames.getD (t.month - 1) [] ++ ", " ++
    List.intercalate (Text.ofString ", ") numbers ++
    if t.offset == 0 then ", time.UTC)" else ", time.Location(\"\"))"

/-- A value that is no collection. -/
def literalValue : Value → Text
  | .null => "interface \x7b\x7d(nil)"
  | .bool b => if b then "true" else "false"
  | .int n => if n < Text.signedLimit then Text.ofInt n
      else Text.ofString "0x" ++ Text.hex 16 n.toNat
  | .double d => d.toText
  | .text t => Text.quote t
  | .time t => literalTime t
  | _ => []

/-- The order of keys: integers by their value, all others by their notation. -/
def literalLE : Option Int × Text → Option Int × Text → Bool
  | (some m, _), (some n, _) => m ≤ n
  | (_, a), (_, b) => (FileTree.compareBytes a b).isLE

def keyNumber : Node → Option Int
  | .scalar i value _ => if i.tag == Tag.int then some (integerOf value) else none
  | _ => none

def isTextKey (n : Node) : Bool := n.tag == Tag.str || n.tag == Tag.merge

def braced (kind : Text) (items : List Text) : Text :=
  kind ++ 123 :: List.intercalate (Text.ofString ", ") items ++ [125]

/-- A node of a document with the given root, with its type wherever it is a collection. -/
def literal (root : Node) : Nat → Node → Text
  | 0, _ => []
  | fuel + 1, n =>
    match n with
    | .scalar i value _ =>
      match scalarValue i value with
      | .ok v => literalValue v
      | .error _ => []
    | .sequence _ _ items => braced "[]interface \x7b\x7d" (items.map (literal root fuel))
    | .mapping _ _ pairs =>
      let kind : Text := if pairs.all (isTextKey ·.1) then "string" else "interface \x7b\x7d"
      let entries := pairs.map fun (k, v) =>
        ((keyNumber k, literal root fuel k), literal root fuel k ++ 58 :: literal root fuel v)
      let sorted := entries.mergeSort fun a b => literalLE a.1 b.1
      braced (Text.ofString "map[" ++ kind ++ "]interface \x7b\x7d") (sorted.map (·.2))
    | .alias _ _ target =>
      match Tree.findAnchor? target root with
      | some n => literal root fuel n
      | none => []

end Config
end YamlOrder
