import YamlOrder.Config.Literal
import YamlOrder.Tree.Arrange
import YamlOrder.Yaml.Node.Compose

/-!
This module contains the reading of settings files: a YAML document becomes a map of values.
-/

namespace YamlOrder
namespace Config

open Yaml

/-- A value as a key of a map that has other keys than texts. -/
def keyOf : Value → Option Text
  | .null => some "<nil>"
  | .bool b => some (if b then "true" else "false")
  | .int n => some (Text.ofInt n)
  | .double d => some d.toText
  | .time t => some t.display
  | .text t => some t
  | _ => none

/-- The kind of a node and the text that it holds itself. Keys must differ in one of them. -/
def identity : Node → Nat × Text
  | .scalar _ value _ => (0, value)
  | .sequence _ _ _ => (1, [])
  | .mapping _ _ _ => (2, [])
  | .alias _ name _ => (3, name)

/-- Every key that repeats an earlier one, by the earlier ones. -/
def repeatedKeys : List Node → List TypeFault
  | [] => []
  | k :: rest =>
    (rest.filter (identity · == identity k)).map
      (fun j => .repeatedKey j.info.line (identity j).2 k.info.line) ++ repeatedKeys rest

/-- Whether a key asks for the fields of another map. -/
def isMergeKey : Node → Bool
  | .scalar i value _ => value == [60, 60] && i.tag == Tag.merge
  | _ => false

/-- The faults so far, unless reading has to end. -/
abbrev Decoding := StateT (List TypeFault) (Except LoadFault)

def note (faults : List TypeFault) : Decoding PUnit := modify (· ++ faults)

/-- The fields that are new. -/
def addMissing (new old : Fields) : Fields :=
  new.foldl (fun fs f => if (fs.lookup f.1).isSome then fs else fs ++ [f]) old

mutual

/--
The value of a node of a document with the given root. `active` holds the numbers of the aliases
that are being followed, and `fuel` bounds the depth of the reading.
-/
def decodeNode (root : Node) : Nat → List Nat → Node → Decoding Value
  | 0, _, _ => return .null
  | fuel + 1, active, n =>
    match n with
    | .scalar i value _ => scalarValue i value
    | .sequence _ _ items => return .list (← items.mapM (decodeNode root fuel active))
    | .mapping _ _ pairs => return .map (← decodePairs root fuel active pairs)
    | .alias _ name target =>
      if active.contains target then throw (.selfContaining name)
      else
        match Tree.findAnchor? target root with
        | some n => decodeNode root fuel (target :: active) n
        | none => return .null

/-- The fields of a mapping below the root. -/
def decodePairs (root : Node) : Nat → List Nat → List (Node × Node) → Decoding Fields
  | 0, _, _ => return []
  | fuel + 1, active, pairs => do
    let repeated := repeatedKeys (pairs.map (·.1))
    note repeated
    if !repeated.isEmpty then
      return []
    let fields ← (pairs.filter (!isMergeKey ·.1)).foldlM (fun fs (k, v) => do
      match keyOf (← decodeNode root fuel active k) with
      | none => throw (LoadFault.badKey (literal root fuel k))
      | some key => return Fields.put key (← decodeNode root fuel active v) fs) ([] : Fields)
    (pairs.filter (isMergeKey ·.1)).foldlM (fun fs (_, v) => do
      return addMissing (← decodeMerged root fuel active v) fs) fields

/--
The fields that are merged into a mapping: those of a mapping, or of several, of which the first
wins.
-/
def decodeMerged (root : Node) : Nat → List Nat → Node → Decoding Fields
  | 0, _, _ => return []
  | fuel + 1, active, n =>
    match n with
    | .mapping _ _ pairs => decodePairs root fuel active pairs
    | .alias _ name target =>
      if active.contains target then throw (.selfContaining name)
      else
        match Tree.findAnchor? target root with
        | some (.mapping _ _ pairs) => decodePairs root fuel (target :: active) pairs
        | _ => throw .badMerge
    | .sequence _ _ items =>
      items.foldlM (fun fs n => do
        match n with
        | .sequence _ _ _ => throw LoadFault.badMerge
        | n => return addMissing (← decodeMerged root fuel active n) fs) []
    | .scalar _ _ _ => throw .badMerge

end

/-- The map that a settings file must hold. -/
def mapType : Text := "map[string]interface \x7b\x7d"

def mismatch (n : Node) (wanted : Text) : TypeFault :=
  match n with
  | .scalar i value _ => .mismatch i.line i.tag (some value) wanted
  | n => .mismatch n.info.line n.tag none wanted

/-- The key of a field of the root: the text of a scalar, whatever its tag, unless it is null. -/
def rootKey (root : Node) : Nat → Node → Decoding (Option Text)
  | 0, _ => return none
  | _, .scalar i value _ =>
    if i.tag == Tag.null then return none
    else if i.tag == Tag.binary then
      match Text.Base64.decode? value with
      | some bytes => return some bytes
      | none => throw .badBinary
    else return some value
  | fuel + 1, .alias _ _ target =>
    match Tree.findAnchor? target root with
    | some n => rootKey root fuel n
    | none => return none
  | _, n => do
    note [mismatch n "string"]
    return none

/-- The fields of the root. -/
def decodeRoot (fuel : Nat) (root : Node) : Decoding Fields :=
  match root with
  | .mapping _ _ pairs => do
    let repeated := repeatedKeys (pairs.map (·.1))
    note repeated
    if !repeated.isEmpty then
      return []
    let fields ← (pairs.filter (!isMergeKey ·.1)).foldlM (fun fs (k, v) => do
      match ← rootKey root fuel k with
      | none => return fs
      | some key => return Fields.put key (← decodeNode root fuel [] v) fs) ([] : Fields)
    (pairs.filter (isMergeKey ·.1)).foldlM (fun fs (_, v) => do
      return addMissing (← decodeMerged root fuel [] v) fs) fields
  | n =>
    if n.tag == Tag.null then return []
    else do
      note [mismatch n mapType]
      return []

/-- Read a settings file. A file without content has no fields. -/
def Fields.ofYaml (text : Text) : Except LoadFault Fields := do
  match Yaml.Tree.parse text with
  | .error fault => throw (.notYaml fault)
  | .ok none => return []
  | .ok (some t) =>
    let size := t.root.preorder.length + 2
    let (fields, faults) ← (decodeRoot (2 * size * size) t.root).run []
    if faults.isEmpty then return fields else throw (.types faults)

end Config
end YamlOrder
