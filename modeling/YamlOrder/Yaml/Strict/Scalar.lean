import YamlOrder.Yaml.Strict.Lexer

/-!
This module contains how the strict reader takes quoted texts, and block texts: their header, their
lines, and where they end.
-/

namespace YamlOrder
namespace Yaml
namespace Strict

/-- The escapes that stand for one character. -/
def simpleEscapes : List Char :=
  ['0', 'a', 'b', 't', 'n', 'v', 'f', 'r', 'e', ' ', '"', '/', '\\', 'N', '_', 'L', 'P', '\t']

/-- How many hexadecimal digits an escape takes. -/
def hexWidth? : Char → Option Nat
  | 'x' => some 2
  | 'u' => some 4
  | 'U' => some 8
  | _ => none

def isHexDigit (c : Char) : Bool := c.isDigit || ('a' ≤ c && c ≤ 'f') || ('A' ≤ c && c ≤ 'F')

namespace Lexer

/-- Step over the end of a line within a quoted text. No document starts or ends there. -/
def quotedLine (s : Lexer) : Option Lexer :=
  let s := s.newLine
  if isDocumentMarker s.rest then none else some s

/-- The part of a text in double quotes that follows a backslash. -/
def escaped (s : Lexer) : List Char → Option Lexer
  | [] => none
  | c :: rest =>
    if isNewline c then
      let width := if c == '\r' && rest.head? == some '\n' then 2 else 1
      some (s.skip width).newLine
    else
      match hexWidth? c with
      | some n =>
        if (rest.take n).length == n && (rest.take n).all isHexDigit then some
          (s.skip (n + 2)) else none
      | none => if simpleEscapes.contains c then some (s.skip 2) else none

/-- Step over one piece of a text in quotes. The flag tells the end. -/
def quotedPiece (quote : Char) (s : Lexer) : Option (Lexer × Bool) :=
  match s.rest with
  | [] => none
  | c :: rest =>
    if isNewline c then s.quotedLine.map (·, false)
    else if c == quote then
      if quote == '\'' && rest.head? == some quote then some (s.skip 2, false)
        else some (s.skip 1, true)
    else if c == '\\' && quote == '"' then (s.escaped rest).map (·, false)
    else some (s.skip 1, false)

/-- Step to the end of a text in quotes. Each piece takes a character. -/
def quotedRest (quote : Char) : Nat → Lexer → Option Lexer
  | 0, _ => none
  | fuel + 1, s =>
    match s.quotedPiece quote with
    | none => none
    | some (s, true) => some s
    | some (s, false) => quotedRest quote fuel s

/-- A text in quotes. -/
def quoted (s : Lexer) (quote : Char) : Option Lexer :=
  (quotedRest quote s.rest.length (s.skip 1)).map fun s' => (s'.push ⟨.quoted, s.place, []⟩).clear

end Lexer

namespace Block

/-- The text as its header asks for it, last character first. Line breaks alone are no text. -/
def body (b : Block) : List Char :=
  match b.chomp with
  | .strip => emptyIfBreak ((b.text.dropWhile (· == '\n')).dropWhile (· == ' '))
  | .clip =>
    match b.text with
    | '\n' :: rest => emptyIfBreak ('\n' :: rest.dropWhile (· == '\n'))
    | text => text
  | .keep => if b.text.isEmpty then ['\n'] else b.text
where
  emptyIfBreak (text : List Char) : List Char := if text == ['\n'] then [] else text

/-- Add a character. No text starts with a space. -/
def put (b : Block) (c : Char) : Block :=
  if c == ' ' && b.text.isEmpty then b else { b with text := c :: b.text }

/-- Add a space at the start of a line; those of the indentation are no part of the text. -/
def putIndent (b : Block) (column : Nat) : Block :=
  if b.first != 0 && b.first ≤ column then { b with text := ' ' :: b.text } else b

/-- Note the column at which a line starts. -/
def settle (b : Block) (column : Nat) : Block :=
  { b with
    first := if b.first == 0 then column else b.first
    current := if b.current == 0 then column else b.current }

/-- The line starts before the column that the header gives. -/
def isShort (b : Block) : Bool := b.explicit && b.current < b.first

def endLine (b : Block) (column : Nat) : Block :=
  { b with current := 0, blankWidth := if b.first == 0 then column - 1 else b.blankWidth }

/--
The block text of a header with these marks. Of a number and a sign, the number says how much deeper
than the delimiter the text stands.
-/
def ofMarks? (marks : List Char) (delimiter : Nat) : Option Block := do
  let chomp :=
    if marks.contains '-' then Chomp.strip else if marks.contains '+' then Chomp.keep
    else Chomp.clip
  match marks.filter fun c => c != '-' && c != '+' with
  | [] => return { chomp }
  | [d] =>
    guard ('1' ≤ d && d ≤ '9')
    return { chomp, explicit := true, first := delimiter + (d.toNat - '0'.toNat) }
  | _ => none

end Block

namespace Lexer

/--
The header of a block text, which is the rest of the line. A comment may follow after a mark or a
space. If no line follows, the last character does not count.
-/
def blockHeader (s : Lexer) : Option Lexer := do
  let line := s.rest.tail.takeWhile (!isNewline ·)
  let ending := s.rest.drop (line.length + 1)
  let value := if ending.isEmpty then line.dropLast else line
  let value := (value.reverse.dropWhile (· == ' ')).reverse
  let commented := value.contains '#' && value.head? != some '#'
  let marks := if commented then value.takeWhile (· != '#') else value
  let delimiter := if s.column == 1 then 1 else s.delimiter
  let block ← Block.ofMarks? (marks.reverse.dropWhile (· == ' ')).reverse delimiter
  let s := s.push ⟨.header, s.place, []⟩
  let s := if commented then s.push ⟨.comment, ⟨s.line, s.column + marks.length + 1⟩, []⟩ else s
  let s := { s.clear with delimiter, shift := .level, block := some block }
  return (s.skip (line.length + if ending.take 2 == ['\r', '\n'] then 2 else 1)).newLine

/-- A dash that starts a deeper line of a plain text turns the text into a block text. -/
def blockOfPlain (s : Lexer) : Lexer :=
  { s with block := some ({ chomp := .strip, text := ['-'] : Block }.settle s.column) }.skip 1

/-- End the block text here. -/
def endBlock (s : Lexer) (b : Block) : Lexer := (s.push ⟨.text, s.place, b.body.reverse⟩).clear

/--
Leave the block text before a line that is not indented enough. A block text without content has an
empty lexeme, unless it starts at the margin, where the text must not be missing.
-/
def leaveBlock (s : Lexer) (b : Block) : Option Lexer :=
  let column := if b.text.isSuffixOf b.raw then 1 else 0
  let s' :=
    if b.body.isEmpty then { s.clear with saved := none, residue := !b.text.isEmpty }
    else { s.push ⟨.text, s.saved.getD ⟨s.line, column⟩, b.body.reverse⟩ with saved := none }.clear
  match s'.last? with
  | some l =>
    if l.place.column == 1 then none
    else if l.sign == .text then some s'
    else some (s'.push ⟨.text, s.place, []⟩)
  | none => some s'

/-- Take a character of a block text. -/
def blockChar (s : Lexer) (b : Block) (c : Char) : Option Lexer :=
  let b := { b with raw := c :: b.raw }
  if s.rest.tail.isEmpty then
    let b := (if s.fresh && c == ' ' then b.putIndent s.column else b.put c).settle s.column
    if b.isShort then none else some ((s.endBlock b).skip 1)
  else if isNewline c then
    let b := (b.put c).endLine s.column
    let s := { s.newLine with block := some b }
    some (if isDocumentMarker s.rest then s.endBlock b else s)
  else if s.fresh && c == ' ' then
    some ({ s with block := some (b.putIndent s.column) }.skip 1)
  else if b.first == 0 && s.column < b.blankWidth then
    none
  else
    let b := b.settle s.column
    if b.isShort then none
    else
      let delimiter := if 1 < b.first then b.first - 1 else s.delimiter
      some ({ s with delimiter, block := some (b.put c) }.skip 1)

end Lexer
end Strict
end Yaml
end YamlOrder
