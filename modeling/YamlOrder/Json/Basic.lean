import YamlOrder.Text.Quoted

/-!
This module contains JSON values, whose objects keep the order of their fields, and their text.
-/

namespace YamlOrder
namespace Json

inductive Value where
  | null
  | bool (b : Bool)
  | int (n : Int)
  | text (t : Text)
  | list (items : List Value)
  | object (fields : List (Text × Value))
  deriving Inhabited

/--
Which characters a writer escapes besides quotes, backslashes, control characters and line
separators.
-/
structure Escapes where
  /-- Whether backspace and form feed have letters. -/
  letters : Bool
  /-- Whether the characters that markup is made of are escaped. -/
  markup : Bool

/-- Escapes of a document that may stand inside of markup. -/
def Escapes.document : Escapes := ⟨true, true⟩

/-- Escapes of a log line. -/
def Escapes.line : Escapes := ⟨false, false⟩

/-- The letter that follows the backslash in the escape of a character. -/
def Escapes.letter? (e : Escapes) (c : Char) : Option Char :=
  match c.toNat with
  | 34 => some '"'
  | 92 => some '\\'
  | 10 => some 'n'
  | 13 => some 'r'
  | 9 => some 't'
  | 8 => if e.letters then some 'b' else none
  | 12 => if e.letters then some 'f' else none
  | _ => none

/-- Whether a character is written by its number. -/
def Escapes.byNumber (e : Escapes) (c : Char) : Bool :=
  c.toNat < 0x20 || c.toNat == 0x2028 || c.toNat == 0x2029 ||
    (e.markup && (c == '<' || c == '>' || c == '&'))

def escapeUnit (e : Escapes) : Text.Unit8 → Text
  | .stray _ => "\\ufffd"
  | .char c =>
    match e.letter? c with
    | some l => Text.ofChars ['\\', l]
    | none => if e.byNumber c then Text.ofString "\\u" ++ Text.hex 4 c.toNat else Text.ofChars [c]

/-- A text as a JSON string. -/
def string (e : Escapes) (t : Text) : Text := 34 :: (Text.units t).flatMap (escapeUnit e) ++ [34]

/-- The text of a value that is neither a list nor an object. -/
def leaf (e : Escapes) : Value → Text
  | .null => "null"
  | .bool b => if b then "true" else "false"
  | .int n => Text.ofInt n
  | .text t => string e t
  | .list _ => "[]"
  | .object _ => "\x7b\x7d"

/-- A line of its own, indented by two spaces for every level. -/
def onLine (depth : Nat) (t : Text) : Text := Text.newline :: Text.spaces (2 * depth) ++ t

mutual

/-- A value with every item and field on a line of its own. -/
def pretty (e : Escapes) (depth : Nat) : Value → Text
  | .list (v :: vs) =>
    Text.ofString "[" ++ prettyItems e (depth + 1) (v :: vs) ++ onLine depth "]"
  | .object (f :: fs) =>
    Text.ofString "\x7b" ++ prettyFields e (depth + 1) (f :: fs) ++ onLine depth "\x7d"
  | v => leaf e v

def prettyItems (e : Escapes) (depth : Nat) : List Value → Text
  | [] => []
  | [v] => onLine depth (pretty e depth v)
  | v :: vs => onLine depth (pretty e depth v) ++ [44] ++ prettyItems e depth vs

def prettyFields (e : Escapes) (depth : Nat) : List (Text × Value) → Text
  | [] => []
  | [(k, v)] => onLine depth (string e k ++ ": " ++ pretty e depth v)
  | (k, v) :: fs => onLine depth
      (string e k ++ ": " ++ pretty e depth v) ++ [44] ++ prettyFields e depth fs

end

/-- A value as a document that ends with a newline. -/
def Value.document (v : Value) : Text := pretty .document 0 v ++ [Text.newline]

end Json
end YamlOrder
