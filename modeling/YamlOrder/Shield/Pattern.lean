import YamlOrder.Text.Utf8

/-!
This module contains the patterns of the text that is shielded from the YAML reader.
-/

namespace YamlOrder

/--
What a substitution looks for. `length?` is the length of a match at the start of a text; `accepts`
may refuse a match by the text before it and the text after it.
-/
structure Pattern where
  length? : Text → Option Nat
  accepts : Text → Text → Bool := fun _ _ => true

namespace Pattern

/-- The length of a match of `opening`, bytes that satisfy `p`, and `closing`. -/
def between? (opening : Text) (p : UInt8 → Bool) (closing : Text) (t : Text) : Option Nat :=
  if opening.isPrefixOf t then
    let inner := (t.drop opening.length).takeWhile p
    let rest := (t.drop opening.length).dropWhile p
    if closing.isPrefixOf rest then some (opening.length + inner.length + closing.length) else none
  else
    none

/-- An inline sequence without brackets inside, such as `[ a, b ]`. -/
def array : Pattern where
  length? := between? "[" (fun b => b != 91 && b != 93) "]"

/-- A template expression in double braces without braces inside. -/
def helm : Pattern where
  length? := between? "\x7b\x7b" (fun b => b != 123 && b != 125) "\x7d\x7d"

/-- Whether a byte would make a number part of a longer word. -/
def isWordByte (b : UInt8) : Bool :=
  (48 ≤ b && b ≤ 57) || (97 ≤ b && b ≤ 122) || (65 ≤ b && b ≤ 90) || b == 95 || b == 45 || b == 46

/-- Whether a match between two texts is not part of a longer word. -/
def standsAlone (before after : Text) : Bool :=
  !before.getLast?.any isWordByte && !after.head?.any isWordByte

/-- Four octal digits, the first of them 0, that stand alone. -/
def octal : Pattern where
  length?
    | 48 :: a :: b :: c :: _ => if [a, b, c].all fun d => 48 ≤ d && d ≤ 55 then some 4 else none
    | _ => none
  accepts := standsAlone

/-- A literal text; only on the first line, if wanted. -/
def literal (word : Text) (firstLine : Bool) : Pattern where
  length? t := if word.isPrefixOf t then some word.length else none
  accepts before _ := !firstLine || !before.contains Text.newline

/-- The offset and the length of every match, from left to right without overlaps. -/
def spans (p : Pattern) (text : Text) : List (Nat × Nat) :=
  go text 0 0
where
  /-- `skip` counts the bytes that belong to the match before. -/
  go : Text → Nat → Nat → List (Nat × Nat)
    | [], _, offset =>
      match p.length? [] with
      | some n => [(offset, n)]
      | none => []
    | _ :: t, skip + 1, offset => go t skip (offset + 1)
    | b :: t, 0, offset =>
      match p.length? (b :: t) with
      | some 0 => (offset, 0) :: go t ((Text.decodeHead (b :: t)).elim 0 (·.2 - 1)) (offset + 1)
      | some (n + 1) => (offset, n + 1) :: go t n (offset + 1)
      | none => go t 0 (offset + 1)

/-- The accepted matches of a text, in order. -/
def findAll (p : Pattern) (text : Text) : List Text :=
  (p.spans text).filterMap fun (offset, n) =>
    if p.accepts (text.take offset) (text.drop (offset + n)) then
      some ((text.drop offset).take n)
    else
      none

end Pattern
end YamlOrder
