import YamlOrder.Yaml.CharClass
import YamlOrder.Yaml.Fault

/-!
This module contains the place of a reader in a stream.
-/

namespace YamlOrder
namespace Yaml

/--
What is left of a stream, and where it starts. `newlines` counts the line breaks since the last
character that is neither a blank nor a break.
-/
structure Cursor where
  rest : List Char
  mark : Mark := {}
  newlines : Nat := 0
  /-- The fault of the bytes that comes after `rest`. -/
  fault : Option Problem := none
  /-- The characters between `rest` and the fault, which share a block with it. -/
  held : List Char := []
  /-- Whether more characters have been asked for than there are before the fault. -/
  short : Bool := false
  /--
  Where the first block ends, as long as it is in use and starts with a byte order mark; else 0.
  -/
  front : Nat := 0
  deriving Repr, Inhabited

namespace Cursor

/-- The character `n` places ahead, or the end. -/
def peek (c : Cursor) (n : Nat := 0) : Char := c.rest.getD n endChar

/-- Step over a character that is no line break. -/
def skip (c : Cursor) : Cursor :=
  { c with
    rest := c.rest.tail
    mark := { c.mark with index := c.mark.index + 1, column := c.mark.column + 1 }
    newlines := if isBlank c.peek then c.newlines else 0 }

/-- Leave the first block behind once `n` characters reach beyond it. -/
def leaveFront (n : Nat) (c : Cursor) : Cursor :=
  if c.front < c.mark.index + n && 0 < c.mark.index then { c with front := 0 } else c

/-- Whether `n` characters can be had before a fault of the bytes. -/
def has (n : Nat) (c : Cursor) : Bool := c.fault.isNone || !(c.rest.drop (n - 1)).isEmpty

/-- Ask for `n` characters. -/
def need (n : Nat) (c : Cursor) : Cursor :=
  let c := c.leaveFront n
  if c.has n then c else { c with short := true }

/-- Look `n` characters ahead. Where they cannot be had, those before the fault come into reach. -/
def glance (n : Nat) (c : Cursor) : Cursor :=
  let c := c.leaveFront n
  if c.has n then c else { c with rest := c.rest ++ c.held, held := [] }

/-- A fault found here in a token that started at `start`; one of the bytes comes first. -/
def problem (c : Cursor) (start : Mark) (p : Problem) : Fault :=
  match c.short, c.fault with
  | true, some q => .ofBytes q
  | _, _ => .ofToken start c.mark p

/-- Step over `n` characters. -/
def skipN : Nat → Cursor → Cursor
  | 0, c => c
  | n + 1, c => skipN n c.skip

/-- Whether a carriage return and a line feed are next. -/
def atPair (c : Cursor) : Bool := c.peek == '\r' && c.peek 1 == '\n'

/-- Step over a line break; a carriage return and a line feed are one. -/
def skipLine (c : Cursor) : Cursor :=
  let c := c.need 2
  if isBreak c.peek then
    let width := if c.atPair then 2 else 1
    { c with
      rest := c.rest.drop width
      mark := { index := c.mark.index + width, line := c.mark.line + 1, column := 0 }
      newlines := c.newlines + 1 }
  else
    c

/-- The break that `skipLine` steps over, as it is kept in a scalar. -/
def lineBreak (c : Cursor) : List Char :=
  if isBreak c.peek then
    if c.peek == Char.ofNat 0x2028 || c.peek == Char.ofNat 0x2029 then [c.peek] else ['\n']
  else
    []

/-- Step over the characters that satisfy a predicate, none of which is a line break. -/
def skipWhile (p : Char → Bool) (c : Cursor) : Cursor :=
  (skipN (c.rest.takeWhile p).length c).need 1

/-- The characters that `skipWhile` steps over. -/
def takeWhile (p : Char → Bool) (c : Cursor) : List Char := c.rest.takeWhile p

/-- Step over spaces and tabs. -/
def skipBlanks (c : Cursor) : Cursor := c.skipWhile isBlank

/-- Step to the end of the line. -/
def skipToBreak (c : Cursor) : Cursor := c.skipWhile (!isBreakOrEnd ·)

/-- Whether the next characters are a marker of a document at the start of a line. -/
def atMarker (c : Cursor) (m : Char) : Bool :=
  c.mark.column == 0 && c.peek == m && c.peek 1 == m && c.peek 2 == m && isBlankOrEnd (c.peek 3)

/-- Whether a document starts or ends here. -/
def atDocumentMarker (c : Cursor) : Bool := c.atMarker '-' || c.atMarker '.'

end Cursor
end Yaml
end YamlOrder
