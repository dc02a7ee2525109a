import YamlOrder.Config.Value
import YamlOrder.FileTree
import YamlOrder.Text.Base64
import YamlOrder.Text.Quoted
import YamlOrder.Yaml.Fault
import YamlOrder.Yaml.Node
import YamlOrder.Yaml.Tag

/-!
This module contains the values of the scalars in a settings file, and everything that can be wrong
with such a file.
-/

namespace YamlOrder
namespace Config

/-- A node that has no place in a map. -/
inductive TypeFault where
  /-- The node should be of another type. A collection is shown without its content. -/
  | mismatch (line : Nat) (tag : Text) (value : Option Text) (wanted : Text)
  | repeatedKey (line : Nat) (key : Text) (earlier : Nat)
  deriving DecidableEq, Repr

/-- A long value is cut. -/
def TypeFault.excerpt (value : Text) : Text :=
  if value.length > 10 then value.take 7 ++ "..." else value

def TypeFault.message : TypeFault → Text
  | .mismatch line tag value wanted =>
    let shown : Text := match value with
      | some v => Text.ofString " \x60" ++ excerpt v ++ "\x60"
      | none => []
    Text.ofString "line " ++ Text.ofNat line ++ ": cannot unmarshal " ++ tag ++ shown ++
      " into " ++ wanted
  | .repeatedKey line key earlier =>
    Text.ofString "line " ++ Text.ofNat line ++ ": mapping key " ++ Text.quote key ++
      Text.ofString " already defined at line " ++ Text.ofNat earlier

/-- Why a settings file cannot be loaded. -/
inductive LoadFault where
  | unreadable (path : Text) (reason : PathFault)
  | notYaml (fault : Yaml.Fault)
  | types (faults : List TypeFault)
  | selfContaining (name : Text)
  | badScalar (found value wanted : Text)
  | badBinary
  | badMerge
  /-- A collection cannot be the key of a map. -/
  | badKey (key : Text)
  deriving DecidableEq, Repr

def LoadFault.message : LoadFault → Text
  | .unreadable path reason => Text.ofString "read " ++ path ++ ": " ++ reason.message
  | .notYaml fault => fault.message
  | .types faults =>
    Text.ofString "yaml: unmarshal errors:" ++ faults.flatMap fun f =>
      Text.ofString "\n  " ++ f.message
  | .selfContaining name => Text.ofString "yaml: anchor '" ++ name ++ "' value contains itself"
  | .badScalar found value wanted =>
    Text.ofString "yaml: cannot decode " ++ found ++ " \x60" ++ value ++ "\x60 as a " ++ wanted
  | .badMerge => "yaml: map merge requires map or sequence of maps as the value"
  | .badBinary => "yaml: !!binary value contains invalid base64 data"
  | .badKey key => Text.ofString "yaml: invalid map key: " ++ key

open Yaml

/-- The value of an integer in any of the forms that a plain scalar can have. -/
def integerOf (value : Text) : Int :=
  let plain := value.filter (· != Text.underscore)
  let signed (negative : Bool) (n : Option Nat) : Int := if negative then -(n.getD 0) else n.getD 0
  let (negative, rest) := Text.splitSign plain
  match Number.natural? rest with
  | some n => signed negative (some n)
  | none =>
    match plain with
    | 48 :: 98 :: t =>
      let (negative, t) := Text.splitSign t
      signed negative (Number.digitsIn? 2 t)
    | 48 :: 111 :: t =>
      let (negative, t) := Text.splitSign t
      signed negative (Number.digitsIn? 8 t)
    | _ => 0

/--
The value of a number with a fraction or an exponent, or of a word for an infinite one or for none.
-/
def doubleOf (value : Text) : Double :=
  let (negative, rest) := Text.splitSign (value.filter (· != Text.underscore))
  match Number.decimal? rest with
  | some d =>
    .ofDecimal { negative, digits := (Number.digitsIn? 10 d.digits).getD 0, exponent := d.exponent }
  | none => if ([".nan", ".NaN", ".NAN"] : List Text).contains rest then .nan
      else .infinite negative

/-- The value of a scalar with a tag that fits it. -/
def valueAs (tag value : Text) : Value :=
  if tag == Tag.null then .null
  else if tag == Tag.bool then .bool ((["true", "True", "TRUE"] : List Text).contains value)
  else if tag == Tag.int then .int (integerOf value)
  else if tag == Tag.float then .double (doubleOf value)
  else if tag == Tag.timestamp then ((Timestamp.parse? value).map Value.time).getD (.text value)
  else .text value

/-- The tags that say how a scalar is read; a scalar with any other tag is a text. -/
def readableTags : List Text := [Tag.bool, Tag.int, Tag.float, Tag.null, Tag.timestamp]

/-- The value of a scalar. -/
def scalarValue (i : NodeInfo) (value : Text) : Except LoadFault Value :=
  if i.tag == Tag.binary then
    match Text.Base64.decode? value with
    | some bytes => .ok (.text bytes)
    | none => .error .badBinary
  else if !i.tagged || !readableTags.contains i.tag then .ok (valueAs i.tag value)
  else
    let found := Tag.implicit value
    if found == i.tag then .ok (valueAs found value)
    else if i.tag == Tag.float && found == Tag.int then
      .ok (.double (.ofInt (integerOf value)))
    else .error (.badScalar found value i.tag)

end Config
end YamlOrder
