import YamlOrder.Config.Value
import YamlOrder.Text.Base64
import YamlOrder.Yaml.Node.Render

/-!
This module contains the writing of a map of values as a YAML document, with its keys in an order
that is natural to people: numbers inside of keys count by their value.
-/

namespace YamlOrder
namespace Config

open Yaml

/-! The order of keys. -/

def isLetter (c : Char) : Bool := c.isAlpha || 0xAA ≤ c.toNat

/-- The value of the digits that a key goes on with, after a number `n`, and how many there are. -/
def leadingNumber (n : Nat) (cs : List Char) : Nat × Nat :=
  let digits := cs.takeWhile Char.isDigit
  (digits.foldl (fun n c => n * 10 + (c.toNat - 48)) n, digits.length)

/-- Whether digits that have been passed, the latest first, make zeros after them count. -/
def zerosCount (passed : List Char) : Bool := (passed.takeWhile Char.isDigit).any (· != '0')

/--
Whether a key comes before another one. `passed` is what they share, the latest character first.
Where they part, letters come after anything else, but before it if a number has just been passed;
and numbers are compared by their value.
-/
def keyLess (passed : List Char) : List Char → List Char → Bool
  | a :: as, b :: bs =>
    if a == b then keyLess (a :: passed) as bs
    else if isLetter a && isLetter b then a < b
    else if isLetter a || isLetter b then
      if passed.head?.any Char.isDigit then isLetter a else isLetter b
    else
      let start := if (a == '0' || b == '0') && zerosCount passed then 1 else 0
      let (m, i) := leadingNumber start (a :: as)
      let (n, j) := leadingNumber start (b :: bs)
      if m != n then m < n else if i != j then i < j else a < b
  | [], _ :: _ => true
  | _, [] => false

/-- The pairs of a map in the order in which they are written. -/
def sortPairs (pairs : List (Node × Node)) : List (Node × Node) :=
  pairs.mergeSort fun f g => !keyLess [] (Text.toChars g.1.keyText) (Text.toChars f.1.keyText)

/-! The style of texts. -/

/-- Words that older readers take for truth values. -/
def oldBools : List Text :=
  ["y", "Y", "yes", "Yes", "YES", "on", "On", "ON", "n", "N", "no", "No", "NO", "off", "Off", "OFF"]

/-- Whether a piece of a number in base 60 is a digit below 60, with or without a leading digit. -/
def isSexagesimal (t : Text) : Bool :=
  match t with
  | [b] => Text.isDigit b
  | [a, b] => 48 ≤ a && a ≤ 53 && Text.isDigit b
  | _ => false

def isDigitOrUnderscore (b : UInt8) : Bool := Text.isDigit b || b == Text.underscore

/-- Whether older readers take a text for a number in base 60, such as a time of the day. -/
def isBase60 (t : Text) : Bool :=
  match Text.splitOn 58 (Text.splitSign t).2 with
  | first :: rest =>
    match rest.reverse with
    | last :: middle =>
      let lastWhole := last.takeWhile (· != 46)
      first.head?.any Text.isDigit && first.all isDigitOrUnderscore && middle.all isSexagesimal &&
        isSexagesimal lastWhole && (last.drop (lastWhole.length + 1)).all isDigitOrUnderscore
    | [] => false
  | [] => false

/-- Whether every reader takes a text without quotes for a text. -/
def isPlain (t : Text) : Bool :=
  Tag.implicit t == Tag.str && !oldBools.contains t && !isBase60 t

/-- How many digits of base 64 stand on a line. -/
def binaryWidth : Nat := 70

/--
A text as a node: a literal if it has several lines, plain if it can be, and in double quotes else.
Bytes that are no text are written in base 64.
-/
def textNode (t : Text) : Node :=
  if (Text.toString? t).isSome then
    let style : ScalarStyle :=
      if t.contains Text.newline then .literal else if isPlain t then .plain else .doubleQuoted
    .scalar { tag := Tag.str } t style
  else
    let digits := Text.Base64.wrap binaryWidth (Text.Base64.encode t)
    let style : ScalarStyle := if digits.contains Text.newline then .literal else .plain
    .scalar { tag := Tag.binary, tagged := true } digits style

/-- A value other than a text as a plain scalar. -/
def plainNode (t : Text) : Node := .scalar { tag := Tag.implicit t } t .plain

mutual

def Value.toNode : Value → Node
  | .null => plainNode "null"
  | .bool b => plainNode (if b then "true" else "false")
  | .int n => plainNode (Text.ofInt n)
  | .double d => plainNode d.toYaml
  | .time t => plainNode t.toText
  | .text t => textNode t
  | .texts ts => .sequence { tag := Tag.seq } false ((ts.getD []).map textNode)
  | .list items => .sequence { tag := Tag.seq } false (toItems items)
  | .map fields =>
    .mapping { tag := Tag.map } false (sortPairs (toPairs fields))

def toItems : List Value → List Node
  | [] => []
  | v :: rest => v.toNode :: toItems rest

def toPairs : List (Text × Value) → List (Node × Node)
  | [] => []
  | (key, v) :: rest => (textNode key, v.toNode) :: toPairs rest

end

/-- The map as a document. -/
def Fields.dump (fs : Fields) : Text :=
  Yaml.Tree.render { root := (Value.map fs).toNode } 2

end Config
end YamlOrder
