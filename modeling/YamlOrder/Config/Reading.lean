import YamlOrder.Config.Value
import YamlOrder.Text.Lower

/-!
This module contains the reading of settings out of a map of values. A value of another type than
its field is converted where that makes sense.
-/

namespace YamlOrder
namespace Config

open Settings (Field)

/-- Why a value does not suit its field. -/
inductive ReadingReason where
  | badInt (fault : Text.IntegerFault)
  | badBool
  | unconvertible (wanted found : Text)
  | notMap (found : Text)
  deriving DecidableEq, Repr

/-- A value that does not suit the field of a name; the settings as a whole have no name. -/
structure ReadingFault where
  name : Text
  reason : ReadingReason
  deriving DecidableEq, Repr

def ReadingReason.message : ReadingReason → Text
  | .badInt fault => Text.ofString "cannot parse value as 'int': strconv.ParseInt: " ++
      fault.message
  | .badBool => "cannot parse value as 'bool': strconv.ParseBool: invalid syntax"
  | .unconvertible wanted found =>
    Text.ofString "expected type '" ++ wanted ++ "', got unconvertible type '" ++ found ++ "'"
  | .notMap found => Text.ofString "expected a map or struct, got \"" ++ found ++ "\""

def ReadingFault.message (f : ReadingFault) : Text :=
  Text.ofString "'" ++ f.name ++ "' " ++ f.reason.message

/-- The type of a value, as messages name it. -/
def Value.typeName : Value → Text
  | .null => "<nil>"
  | .bool _ => "bool"
  | .int n => if n < Text.signedLimit then "int" else "uint64"
  | .double _ => "float64"
  | .time _ => "time.Time"
  | .text _ => "string"
  | .texts _ => "[]string"
  | .list _ => "[]interface \x7b\x7d"
  | .map _ => "map[string]interface \x7b\x7d"

/-- The kind of a value that is no map, as messages name it. -/
def Value.kindName : Value → Text
  | .texts _ | .list _ => "slice"
  | .map _ => "map"
  | v => v.typeName

def isAbsent : Value → Bool
  | .null => true
  | .texts none => true
  | _ => false

def Value.toText (wanted : Text) : Value → Except ReadingReason Text
  | .text t => .ok t
  | .bool b => .ok (if b then "1" else "0")
  | .int n => .ok (Text.ofInt n)
  | .double d => .ok d.positional
  | v => .error (.unconvertible wanted v.typeName)

/-- The integer of a value. It has 64 bits; an empty text counts as 0, and a fraction is dropped. -/
def Value.toInt : Value → Except ReadingReason Int
  | .int n => .ok (if n < Text.signedLimit then n else n - Text.wordLimit)
  | .double d => .ok d.truncate
  | .bool b => .ok (if b then 1 else 0)
  | .text t =>
    match if t.isEmpty then .ok 0 else Text.toIntAnyBase t with
    | .ok n => .ok n
    | .error fault => .error (.badInt fault)
  | v => .error (.unconvertible "int" v.typeName)

/-- The truth value of a value. An empty text counts as false, and any number but 0 as true. -/
def Value.toBool : Value → Except ReadingReason Bool
  | .bool b => .ok b
  | .int n => .ok (n != 0)
  | .double d => .ok !d.isZero
  | .text t =>
    match Text.toBool? t with
    | some b => .ok b
    | none => if t.isEmpty then .ok false else .error .badBool
  | v => .error (.unconvertible "bool" v.typeName)

/--
The values of a list. A single value counts as a list of its own, and an empty map as an empty list.
-/
def Value.items : Value → List Value
  | .list items => items
  | .texts ts => (ts.getD []).map .text
  | .map [] => []
  | v => [v]

/-- The texts of a list, each of which is named by its place. A missing one is empty. -/
def readTexts (name : Text) (v : Value) : Except (List ReadingFault) (List Text) :=
  go 0 v.items
where
  go (i : Nat) : List Value → Except (List ReadingFault) (List Text)
    | [] => .ok []
    | v :: rest =>
      let place := name ++ 91 :: Text.ofNat i ++ [93]
      let head := if isAbsent v then .ok [] else v.toText "string"
      match head, go (i + 1) rest with
      | .ok t, .ok ts => .ok (t :: ts)
      | .ok _, .error fs => .error fs
      | .error reason, .ok _ => .error [⟨place, reason⟩]
      | .error reason, .error fs => .error (⟨place, reason⟩ :: fs)

/-- Read the value of a field into settings. -/
def readField (f : Field) (v : Value) (s : Settings) : Except (List ReadingFault) Settings :=
  let named {α : Type} (r : Except ReadingReason α) : Except (List ReadingFault) α :=
    r.mapError fun reason => [⟨f.key, reason⟩]
  let string : Text := "string"
  if isAbsent v then .ok s
  else
    match f with
    | .locale => (named (v.toText string)).map ({ s with locale := · })
    | .schema => (named (v.toText "yamlsort.Schema")).map ({ s with schema := · })
    | .quotingType => (named (v.toText string)).map ({ s with quotingType := · })
    | .keywords1 => (readTexts f.key v).map ({ s with keywords1 := · })
    | .keywords2 => (readTexts f.key v).map ({ s with keywords2 := · })
    | .keywords3 => (readTexts f.key v).map ({ s with keywords3 := · })
    | .indent => (named v.toInt).map ({ s with indent := · })
    | .emptyLinesUntilLevel => (named v.toInt).map ({ s with emptyLinesUntilLevel := · })
    | .lineWidth => (named v.toInt).map ({ s with lineWidth := · })
    | .recursive => (named v.toBool).map ({ s with recursive := · })
    | .forceQuotes => (named v.toBool).map ({ s with forceQuotes := · })
    | .leadingDashes => (named v.toBool).map ({ s with leadingDashes := · })
    | .arrays => (named v.toBool).map ({ s with arrays := · })
    | .helm => (named v.toBool).map ({ s with helm := · })
    | .octal => (named v.toBool).map ({ s with octal := · })
    | .comments => (named v.toBool).map ({ s with comments := · })

/--
The value of a field: that of its key, or of a key that differs from it in the case of letters only.
-/
def fieldValue? (fs : Fields) (f : Field) : Option Value :=
  fs.lookup f.key <|> (fs.find? fun (key, _) => Text.equalFold key f.key).map (·.2)

/-- Read one field after the other; the faults of all of them are told. -/
def readFields (fs : Fields) (s : Settings) (faults : List ReadingFault)
    : List Field → Except (List ReadingFault) Settings
  | [] => if faults.isEmpty then .ok s else .error faults
  | f :: rest =>
    match fieldValue? fs f with
    | none => readFields fs s faults rest
    | some v =>
      match readField f v s with
      | .ok s => readFields fs s faults rest
      | .error new => readFields fs s (faults ++ new) rest

/-- The faults of reading a value, and whether they are those of several fields. -/
inductive ReadingFaults where
  | one (fault : ReadingFault)
  | several (faults : List ReadingFault)
  deriving DecidableEq, Repr

def ReadingFaults.message : ReadingFaults → Text
  | .one f => f.message
  | .several fs =>
    Text.ofString "decoding failed due to the following error(s):\n\n" ++
      Text.unlines (fs.map ReadingFault.message)

/--
Read settings out of a value. What it says nothing about stays blank; a point in time says nothing.
-/
def readSettings : Option Value → Except ReadingFaults Settings
  | none => .ok Settings.blank
  | some v =>
    if isAbsent v then .ok Settings.blank
    else
      match v with
      | .map fields => (readFields fields Settings.blank [] Field.all).mapError .several
      | .time _ => .ok Settings.blank
      | v => .error (.one ⟨[], .notMap v.kindName⟩)

mutual

/--
Read a map out of a value, on top of the map that has been read before. The maps of a list are
merged; an empty list or a point in time counts as an empty map.
-/
def readMapOver (name : Text) (old : Option Fields) : Value → Except ReadingFaults (Option Fields)
  | .null | .texts none => .ok old
  | .map fields => .ok (some (fields.foldl (fun fs (key, v) => Fields.put key v fs) (old.getD [])))
  | .list [] | .texts (some []) | .time _ => .ok (some (old.getD []))
  | .list (v :: rest) => readMapsOver name 0 old (v :: rest)
  | .texts (some (_ :: _)) => .error
      (.one ⟨name ++ Text.ofString "[0]", .notMap (Value.text []).kindName⟩)
  | v => .error (.one ⟨name, .notMap v.kindName⟩)

def readMapsOver (name : Text) (i : Nat) (old : Option Fields)
    : List Value → Except ReadingFaults (Option Fields)
  | [] => .ok old
  | v :: rest => do
    let old ← readMapOver (name ++ 91 :: Text.ofNat i ++ [93]) old v
    readMapsOver name (i + 1) old rest

end

/-- Read a map out of a value. -/
def readMap (v : Option Value) : Except ReadingFaults (Option Fields) :=
    readMapOver [] none (v.getD .null)

end Config
end YamlOrder
