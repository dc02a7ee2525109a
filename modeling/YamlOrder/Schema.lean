import YamlOrder.Yaml.Node

/-!
This module contains the schemas: which tags a document may use, and which tag a scalar has.
-/

namespace YamlOrder

open Yaml

/-- A schema, or a name that is none and behaves like the default. -/
inductive Schema where
  | default
  | core
  | failsafe
  | json
  | homeAssistant
  | cloudFormation
  | unknown (name : Text)
  deriving DecidableEq, Repr, Inhabited

namespace Schema

def all : List Schema := [.default, .core, .failsafe, .json, .homeAssistant, .cloudFormation]

def name : Schema → Text
  | .default => "default"
  | .core => "core"
  | .failsafe => "failsafe"
  | .json => "json"
  | .homeAssistant => "homeassistant"
  | .cloudFormation => "cloudformation"
  | .unknown name => name

def ofName (name : Text) : Schema := (all.find? (·.name == name)).getD (.unknown name)

def failsafeTags : List Text := [Tag.str, Tag.seq, Tag.map]

def jsonTags : List Text := failsafeTags ++ [Tag.null, Tag.bool, Tag.int, Tag.float]

def defaultTags : List Text :=
  jsonTags ++ [Tag.binary, Tag.timestamp, "!!omap", "!!pairs", "!!set", Tag.merge]

def homeAssistantTags : List Text :=
  ["!include", "!include_dir_list", "!include_dir_named", "!include_dir_merge_list",
    "!include_dir_merge_named", "!secret", "!env_var", "!input"]

def cloudFormationTags : List Text :=
  ["!Ref", "!Sub", "!GetAtt", "!GetAZs", "!ImportValue", "!Join", "!Select", "!Split", "!FindInMap",
    "!Base64", "!Cidr", "!Condition", "!Transform", "!If", "!Equals", "!Not", "!And", "!Or"]

/-- The tags that a document may write out. -/
def tags : Schema → List Text
  | .failsafe => failsafeTags
  | .core => jsonTags
  | .json => jsonTags
  | .homeAssistant => defaultTags ++ homeAssistantTags
  | .cloudFormation => defaultTags ++ cloudFormationTags
  | .default => defaultTags
  | .unknown _ => defaultTags

/-- What follows a whole number without a sign and without leading zeros. -/
def afterJsonInt? : Text → Option Text
  | 48 :: rest => some rest
  | b :: rest => if 49 ≤ b && b ≤ 57 then some (rest.dropWhile Text.isDigit) else none
  | [] => none

/-- The text without a minus sign in front. -/
def dropMinus : Text → Text
  | 45 :: rest => rest
  | t => t

def isJsonInt (t : Text) : Bool := afterJsonInt? (dropMinus t) == some []

def isJsonFloat (t : Text) : Bool :=
  match afterJsonInt? (dropMinus t) with
  | none => false
  | some rest =>
    let rest := match rest with
      | 46 :: digits => digits.dropWhile Text.isDigit
      | rest => rest
    (Number.exponent? rest).isSome

/-- The tag of a plain scalar in the JSON schema. -/
def resolveJson (t : Text) : Text :=
  if t == ("null" : Text) then Tag.null
  else if t == ("true" : Text) || t == ("false" : Text) then Tag.bool
  else if isJsonInt t then Tag.int
  else if isJsonFloat t then Tag.float
  else Tag.str

def isCoreInt (t : Text) : Bool :=
  (Text.digits? (Text.splitSign t).2).isSome ||
    match t with
    | 48 :: 111 :: digits => (Number.digitsIn1? 8 digits).isSome
    | 48 :: 120 :: digits => (Number.digitsIn1? 16 digits).isSome
    | _ => false

def isCoreFloat (t : Text) : Bool :=
  Number.isDecimal t ||
    ([".inf", ".Inf", ".INF"] : List Text).contains (Text.splitSign t).2 ||
    ([".nan", ".NaN", ".NAN"] : List Text).contains t

/-- The tag of a plain scalar in the core schema. -/
def resolveCore (t : Text) : Text :=
  if t.isEmpty || (["~", "null", "Null", "NULL"] : List Text).contains t then Tag.null
  else if (["true", "True", "TRUE", "false", "False", "FALSE"] : List Text).contains t then Tag.bool
  else if isCoreInt t then Tag.int
  else if isCoreFloat t then Tag.float
  else Tag.str

/--
The tag of a scalar: the one that it writes out, that of a string if it is quoted, or by its value.
-/
def resolve (s : Schema) (info : NodeInfo) (value : Text) (style : ScalarStyle) : Text :=
  if info.tagged then info.tag
  else if style != .plain then Tag.str
  else
    match s with
    | .failsafe => Tag.str
    | .json => resolveJson value
    | .core => resolveCore value
    | _ => info.tag

end Schema
end YamlOrder
