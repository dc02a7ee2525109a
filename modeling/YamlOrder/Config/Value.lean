import YamlOrder.Config.Double
import YamlOrder.Settings.Field
import YamlOrder.Yaml.Scalar.Timestamp

/-!
This module contains the values that settings are gathered in before they are read: a tree of maps,
which later layers are merged into. A path names the keys from the root on, separated by dots.
-/

namespace YamlOrder
namespace Config

/-- A value of any type. A list of texts may be missing, which is not the same as empty. -/
inductive Value where
  | null
  | bool (b : Bool)
  | int (n : Int)
  | double (d : Double)
  | time (t : Yaml.Timestamp)
  | text (t : Text)
  | texts (ts : Option (List Text))
  | list (items : List Value)
  | map (fields : List (Text × Value))
  deriving Inhabited, Repr

/-- The fields of a map, each key once. -/
abbrev Fields := List (Text × Value)

namespace Fields

/-- The fields with a new value for a key, which comes last if it is new. -/
def put (key : Text) (v : Value) : Fields → Fields
  | [] => [(key, v)]
  | f :: fs => if key == f.1 then (key, v) :: fs else f :: put key v fs

theorem lookup_put_self (key : Text) (v : Value) (fs : Fields)
    : (put key v fs).lookup key = some v := by
  induction fs with
  | nil => simp [put]
  | cons f fs ih =>
    simp only [put]
    split
    . simp
    . next hne =>
      simp only [Bool.not_eq_true] at hne
      rw [List.lookup_cons]
      simp only [hne, ih]

end Fields

mutual

/-- What becomes of a value when a later layer has one for the same key. Only maps are merged. -/
def Value.over : Value → Option Value → Value
  | .map fields, some (.map old) => .map (mergeFields fields old)
  | v, _ => v

/-- The fields of a layer on top of older ones. -/
def mergeFields : List (Text × Value) → Fields → Fields
  | [], old => old
  | (key, v) :: rest, old => mergeFields rest (Fields.put key (Value.over v (old.lookup key)) old)

end

def dot : UInt8 := 46

/-- A value below the given keys. -/
def nest : List Text → Value → Value
  | [], v => v
  | key :: rest, v => .map [(key, nest rest v)]

/-- The fields of a value that is a map. -/
def Value.fields : Value → Fields
  | .map fields => fields
  | _ => []

/-- Put a value at a path. -/
def Fields.set (fs : Fields) (path : Text) (v : Value) : Fields :=
  mergeFields (nest (Text.splitOn dot path) v).fields fs

/-- The value below the given keys. -/
def Value.at? : Value → List Text → Option Value
  | v, [] => some v
  | .map fields, key :: rest =>
    match fields.lookup key with
    | some v => v.at? rest
    | none => none
  | _, _ :: _ => none

/--
The value at a path; the empty path leads to everything. A key that holds dots is found as a whole.
-/
def Fields.get? (fs : Fields) (path : Text) : Option Value :=
  if path.isEmpty then some (.map fs)
  else (Value.map fs).at? (Text.splitOn dot path) <|> fs.lookup path

/-- The value that a flag stands for. -/
def Value.ofFlag : Command.FlagValue → Value
  | .bool b => .bool b
  | .int n => .int n
  | .text t => .text t
  | .texts ts => .texts (some ts)
  | .range r => .text r.toText

/-- The value of a default. A list without entries counts as missing. -/
def Value.ofDefault : Command.FlagValue → Value
  | .texts [] => .texts none
  | v => .ofFlag v

/-- Settings as the lowest layer. -/
def Fields.ofSettings (s : Settings) : Fields :=
  Settings.Field.all.map fun f => (f.key, .ofDefault (s.get f))

end Config
end YamlOrder
