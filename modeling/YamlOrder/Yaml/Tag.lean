import YamlOrder.Yaml.Scalar.Number
import YamlOrder.Yaml.Scalar.Timestamp

/-!
This module contains tags: their short and their full form, and the tag that a plain scalar has
without saying so.
-/

namespace YamlOrder
namespace Yaml
namespace Tag

def str : Text := "!!str"
def null : Text := "!!null"
def bool : Text := "!!bool"
def int : Text := "!!int"
def float : Text := "!!float"
def timestamp : Text := "!!timestamp"
def merge : Text := "!!merge"
def seq : Text := "!!seq"
def map : Text := "!!map"
def binary : Text := "!!binary"

/-- What the full form of a standard tag starts with. -/
def longStart : Text := "tag:yaml.org,2002:"

/-- What the short form of a standard tag starts with. -/
def shortStart : Text := "!!"

/-- The short form of a tag. -/
def short (tag : Text) : Text :=
  if longStart.isPrefixOf tag then shortStart ++ tag.drop longStart.length else tag

/-- The full form of a tag. -/
def long (tag : Text) : Text :=
  if shortStart.isPrefixOf tag then longStart ++ tag.drop shortStart.length else tag

/-- The plain scalars with a meaning of their own. -/
def ofWord? (t : Text) : Option Text :=
  if t.isEmpty || (["~", "null", "Null", "NULL"] : List Text).contains t then some null
  else if (["true", "True", "TRUE", "false", "False", "FALSE"] : List Text).contains
    t then some bool
  else if ([".nan", ".NaN", ".NAN", ".inf", ".Inf", ".INF", "+.inf", "+.Inf", "+.INF",
    "-.inf", "-.Inf",
      "-.INF"] : List Text).contains t then some float
  else none

/-- The tag of a text that starts with a digit or a sign. -/
def ofDigits (t : Text) : Text :=
  if Timestamp.isTimestamp t then timestamp
  else
    let plain := t.filter (· != 95)
    if Number.isInteger plain then int
    else if Number.isFloat plain then float
    else if Number.isSignedInside plain then int
    else str

/-- The tag that a plain scalar has without saying so. -/
def implicit (t : Text) : Text :=
  match ofWord? t with
  | some tag => tag
  | none =>
    match t.head? with
    | some b =>
      if b == 46 then (if Number.isPointFloat t then float else str)
      else if Text.isDigit b || b == 43 || b == 45 then ofDigits t
      else str
    | none => null

end Tag
end Yaml
end YamlOrder
