import YamlOrder.LineRange
import YamlOrder.Schema

/-!
This module contains the reasons why a text cannot be sorted, formatted or accepted.
-/

namespace YamlOrder

/-- Which option cannot be used. -/
inductive OptionFault where
  | indent (n : Int)
  | emptyLines (n : Int)
  | quoting (given : Text)
  | schema (given : Text)
  | tabWidth (n : Int)
  | customSlot (n : Int)
  deriving DecidableEq, Repr

/-- The names of the schemas, as messages list them. -/
def Schema.listing : Text :=
  (91 : UInt8) :: List.intercalate [Text.space] (Schema.all.map Schema.name) ++ [93]

def OptionFault.message : OptionFault → Text
  | .indent n => Text.ofString "indent must be at least 1, got " ++ Text.ofInt n
  | .emptyLines n => Text.ofString "empty_lines_until_level must not be negative, got " ++
      Text.ofInt n
  | .quoting given => Text.ofString "quoting_type must be ' or \", got " ++ Text.quote given
  | .schema given =>
    Text.ofString "schema must be one of " ++ Schema.listing ++ ", got " ++ Text.quote given
  | .tabWidth n => Text.ofString "tab width must be at least 1, got " ++ Text.ofInt n
  | .customSlot n => Text.ofString "custom sort must be between 0 and 3, got " ++ Text.ofInt n

/-- What is done to a text. -/
inductive Activity where
  | sort
  | format
  | validate
  deriving DecidableEq, Repr

def Activity.name : Activity → Text
  | .sort => "sort"
  | .format => "format"
  | .validate => "validate"

inductive Error where
  | invalidYaml (fault : Yaml.Fault)
  /-- The text is YAML, but not of the strict form that validation asks for. -/
  | rejected
  | duplicateKey (key : Text) (line : Nat)
  | unknownTag (tag : Text) (line : Nat) (schema : Text)
  | invalidOption (fault : OptionFault)
  | invalidRange (fault : RangeFault)
  /-- A key level is indented too deep for blank lines. -/
  | levelTooDeep
  | inDocument (number : Nat) (error : Error)
  | during (activity : Activity) (error : Error)
  deriving DecidableEq, Repr

namespace Error

def message : Error → Text
  | .invalidYaml fault => Text.ofString "invalid yaml: " ++ fault.message
  | .rejected => "invalid yaml"
  | .duplicateKey key line =>
    Text.ofString "duplicate key: mapping key " ++ Text.quote key ++ " already defined at line " ++
      Text.ofNat line
  | .unknownTag tag line schema =>
    Text.ofString "unknown tag: " ++ tag ++ " at line " ++ Text.ofNat line ++
      " is not part of the " ++
      schema ++ " schema"
  | .invalidOption fault => Text.ofString "invalid option: " ++ fault.message
  | .invalidRange fault => Text.ofString "invalid range: " ++ fault.message
  | .levelTooDeep => "key level too deep"
  | .inDocument n e => Text.ofString "document " ++ Text.ofNat n ++ ": " ++ e.message
  | .during a e => a.name ++ ": " ++ e.message

/-- The reason behind where it came up. -/
def cause : Error → Error
  | .inDocument _ e => e.cause
  | .during _ e => e.cause
  | e => e

end Error
end YamlOrder
