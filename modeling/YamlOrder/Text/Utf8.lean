import YamlOrder.Text.Basic

/-!
This module contains the reading of bytes as UTF-8. A byte that starts no character is kept apart
from the characters, so that each user can decide what it stands for.
-/

namespace YamlOrder
namespace Text

/-- The character that stands for a byte that starts no character. -/
def replacement : Char := Char.ofNat 0xFFFD

/-- The UTF-8 bytes of characters. -/
def ofChars (cs : List Char) : Text := cs.flatMap String.utf8EncodeChar

/-- Whether a number is the code point of a character. -/
def isScalar (n : Nat) : Bool := n < 0xD800 || (0xDFFF < n && n < 0x110000)

/--
The character that `n` continuation bytes complete, if they are there and it is neither a surrogate,
nor too large, nor below `least`, the smallest value that needs this many bytes.
-/
def decodeTail (least : Nat) : Nat → Nat → Text → Option Char
  | 0, value, _ => if least ≤ value && isScalar value then some (Char.ofNat value) else none
  | n + 1, value, b :: t =>
    if 0x80 ≤ b && b < 0xC0 then decodeTail least n (value * 64 + (b.toNat - 0x80)) t else none
  | _ + 1, _, [] => none

/-- The character that a text starts with and the number of its bytes. -/
def decodeHead : Text → Option (Char × Nat)
  | [] => none
  | b :: t =>
    let lead := b.toNat
    if lead < 0x80 then some (Char.ofNat lead, 1)
    else if lead < 0xC0 then none
    else if lead < 0xE0 then (decodeTail 0x80 1 (lead - 0xC0) t).map (·, 2)
    else if lead < 0xF0 then (decodeTail 0x800 2 (lead - 0xE0) t).map (·, 3)
    else if lead < 0xF8 then (decodeTail 0x10000 3 (lead - 0xF0) t).map (·, 4)
    else none

/-- A piece of a text: a character, or a byte that starts none. -/
inductive Unit8 where
  | char (c : Char)
  | stray (b : UInt8)
  deriving DecidableEq, Repr

/-- A text read as UTF-8, byte by byte where it is not valid. -/
def units (t : Text) : List Unit8 :=
  go t 0
where
  go : Text → Nat → List Unit8
    | [], _ => []
    | _ :: t, k + 1 => go t k
    | b :: t, 0 =>
      match decodeHead (b :: t) with
      | some (c, width) => .char c :: go t (width - 1)
      | none => .stray b :: go t 0

/-- The character a unit is counted and compared as. -/
def Unit8.toChar : Unit8 → Char
  | .char c => c
  | .stray _ => replacement

/-- The characters of a text, with the replacement character for every stray byte. -/
def toChars (t : Text) : List Char := (units t).map Unit8.toChar

/-- How many characters a text has, each stray byte counted as one. -/
def charCount (t : Text) : Nat := (units t).length

/-- Whether a text is valid UTF-8. -/
def isUtf8 (t : Text) : Bool :=
  (units t).all fun
    | .char _ => true
    | .stray _ => false

/-- The string a text spells, if it is valid UTF-8. -/
def toString? (t : Text) : Option String :=
  if isUtf8 t then some (String.ofList (toChars t)) else none

end Text
end YamlOrder
