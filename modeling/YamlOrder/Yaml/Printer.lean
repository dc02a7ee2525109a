import YamlOrder.Text.Utf8
import YamlOrder.Yaml.Node
import YamlOrder.Yaml.Scalar.Analysis

/-!
This module contains the page that a document is written on: where the next character goes, and
which comments wait for their place.
-/

namespace YamlOrder
namespace Yaml

structure Printer where
  /-- The spaces of one level. -/
  width : Nat
  /-- What has been written, the last character first. -/
  out : List Char := []
  column : Nat := 0
  /-- The indentation of the open collection, negative outside of all. -/
  indent : Int := -1
  /-- Whether the last character was white space or an opening bracket. -/
  whitespace : Bool := true
  /-- Whether the line holds nothing but indentation and indicators so far. -/
  indention : Bool := true
  /-- The indentation at which a foot comment was written last; a blank line goes after it. -/
  footIndent : Int := -1
  flowLevel : Nat := 0
  /-- The comments that wait for their place. -/
  remarks : Remarks := {}
  /-- The foot of the key before, and the line comment of the key. -/
  tail : Text := []
  keyLine : Text := []

namespace Printer

def put (p : Printer) (c : Char) : Printer := { p with out := c :: p.out, column := p.column + 1 }

def putAll (p : Printer) (cs : List Char) : Printer := cs.foldl put p

/-- End the line. -/
def putBreak (p : Printer) : Printer :=
    { p with out := '\n' :: p.out, column := 0, indention := true }

/-- Write a line break of a value. -/
def putBreakChar (p : Printer) (c : Char) : Printer :=
  if c == '\n' then p.putBreak else { p with out := c :: p.out, column := 0, indention := true }

/-- Write a space unless there is white space already. -/
def separate (p : Printer) : Printer := if p.whitespace then p else p.put ' '

/-- Write an indicator, after a space if it needs one. -/
def indicator (p : Printer) (s : List Char) (spaced isOpening isIndention : Bool) : Printer :=
  let p := (if spaced then p.separate else p).putAll s
  { p with whitespace := isOpening, indention := p.indention && isIndention }

/-- Go to the indentation of the open collection, on a new line if this one is used. -/
def writeIndent (p : Printer) : Printer :=
  let indent := p.indent.toNat
  let used := !p.indention || indent < p.column || (p.column == indent && !p.whitespace)
  let p := if used then p.putBreak else p
  let p := if p.footIndent == indent then p.putBreak else p
  let p := p.putAll (List.replicate (indent - p.column) ' ')
  { p with whitespace := true, footIndent := -1 }

/-- Write a comment. Every line of it starts with the number sign. -/
def writeComment (p : Printer) (comment : Text) : Printer :=
  go (Text.toChars comment) false false p
where
  go : List Char → Bool → Bool → Printer → Printer
    | [], broken, _, p =>
      let p := if broken then p else p.putBreak
      { p with whitespace := true }
    | c :: rest, broken, pound, p =>
      if isBreak c then
        go rest true false (p.putBreakChar c)
      else
        let p := if broken then p.writeIndent else p
        let p := if !pound && c != '#' then p.putAll ['#', ' '] else p
        go rest false true { p.put c with indention := false }

/-- Remember where a foot comment was written. -/
def markFoot (p : Printer) : Printer := { p with footIndent := max p.indent 0 }

/-- Write the foot comment of the key before and the head comment. -/
def writeHead (p : Printer) : Printer :=
  let p :=
    if p.tail.isEmpty then p
    else { p.writeIndent.writeComment p.tail with tail := [] }.markFoot
  if p.remarks.head.isEmpty then p
  else
    let p' := p.writeIndent.writeComment p.remarks.head
    { p' with remarks := { p'.remarks with head := [] } }

/-- Write the comment at the end of the line. -/
def writeLine (p : Printer) : Printer :=
  if p.remarks.line.isEmpty then p
  else
    let p' := p.separate.writeComment p.remarks.line
    { p' with remarks := { p'.remarks with line := [] } }

/-- Write the foot comment. -/
def writeFoot (p : Printer) : Printer :=
  if p.remarks.foot.isEmpty then p
  else
    let p' := p.writeIndent.writeComment p.remarks.foot
    { p' with remarks := { p'.remarks with foot := [] } }.markFoot

/-- Write what stands after a node. -/
def writeAfter (p : Printer) : Printer := p.writeLine.writeFoot

/-- Let comments wait; a new comment takes the place of an old one. -/
def note (p : Printer) (r : Remarks) (tail : Text) : Printer :=
  let pick (new old : Text) : Text := if new.isEmpty then old else new
  { p with
    remarks := ⟨pick r.head p.remarks.head, pick r.line p.remarks.line, pick r.foot p.remarks.foot⟩
    tail := pick tail p.tail }

/-- Whether a comment waits that ends the line. -/
def hasTrail (p : Printer) : Bool :=
  !(p.remarks.line.isEmpty && p.remarks.foot.isEmpty && p.tail.isEmpty)

/--
The indentation of what is below a node. `entry` says that it stands after the dash of a sequence.
-/
def deeper (p : Printer) (flow entry : Bool) : Int :=
  if p.indent < 0 then (if flow then p.width else 0)
  else if entry then p.indent + 2
  else p.width * ((p.indent + p.width) / p.width)

/-- Write a plain scalar. -/
def writePlain (p : Printer) (value : List Char) : Printer :=
  if value.isEmpty then { p with indention := false }
  else { go value false p.separate with whitespace := false, indention := false }
where
  go : List Char → Bool → Printer → Printer
    | [], _, p => p
    | c :: rest, broken, p =>
      if c == ' ' then go rest broken (p.put c)
      else if isBreak c then
        let p := if !broken && c == '\n' then p.putBreak else p
        go rest true (p.putBreakChar c)
      else
        let p := if broken then p.writeIndent else p
        go rest false { p.put c with indention := false }

/-- Write a scalar in single quotes, where a quote is written twice. -/
def writeSingleQuoted (p : Printer) (value : List Char) : Printer :=
  let p := go value false (p.indicator ['\''] true false false)
  { p.indicator ['\''] false false false with whitespace := false, indention := false }
where
  go : List Char → Bool → Printer → Printer
    | [], _, p => p
    | c :: rest, broken, p =>
      if c == ' ' then go rest broken (p.put c)
      else if isBreak c then
        let p := if !broken && c == '\n' then p.putBreak else p
        go rest true (p.putBreakChar c)
      else
        let p := if broken then p.writeIndent else p
        let p := if c == '\'' then p.put c else p
        go rest false { p.put c with indention := false }

/-- Upper case hexadecimal digits. -/
def hexDigits (width n : Nat) : List Char :=
  let digits := (Nat.toDigits 16 n).map Char.toUpper
  List.replicate (width - digits.length) '0' ++ digits

/-- The escape sequence of a character. -/
def escape (c : Char) : List Char :=
  match c.toNat with
  | 0x00 => ['\\', '0']
  | 0x07 => ['\\', 'a']
  | 0x08 => ['\\', 'b']
  | 0x09 => ['\\', 't']
  | 0x0A => ['\\', 'n']
  | 0x0B => ['\\', 'v']
  | 0x0C => ['\\', 'f']
  | 0x0D => ['\\', 'r']
  | 0x1B => ['\\', 'e']
  | 0x22 => ['\\', '"']
  | 0x5C => ['\\', '\\']
  | 0x85 => ['\\', 'N']
  | 0xA0 => ['\\', '_']
  | 0x2028 => ['\\', 'L']
  | 0x2029 => ['\\', 'P']
  | n =>
    if n ≤ 0xFF then '\\' :: 'x' :: hexDigits 2 n
    else if n ≤ 0xFFFF then '\\' :: 'u' :: hexDigits 4 n
    else '\\' :: 'U' :: hexDigits 8 n

/-- Whether a character is escaped in double quotes. -/
def needsEscape (c : Char) : Bool :=
  !Analysis.isPrintable c || isBreak c || c == '"' || c == '\\'

/-- Write a scalar in double quotes. After a byte order mark at its start everything is escaped. -/
def writeDoubleQuoted (p : Printer) (value : List Char) : Printer :=
  let p := p.indicator ['"'] true false false
  let marked := value.head?.any isByteOrderMark
  let p := p.putAll (value.flatMap fun c => if marked || needsEscape c then escape c else [c])
  { p.indicator ['"'] false false false with whitespace := false, indention := false }

/-- The chomping sign of a block scalar, which its last two characters decide. -/
def chompingSign (value : List Char) : List Char :=
  match value.reverse with
  | [] => ['-']
  | [c] => if isBreak c then ['+'] else ['-']
  | c :: d :: _ => if isBreak c then (if isBreak d then ['+'] else []) else ['-']

/-- Write the header of a block scalar and the comment after it. -/
def writeBlockHeader (p : Printer) (sign : Char) (value : List Char) : Printer :=
  let p := p.indicator [sign] true false false
  let hint := value.head?.any fun c => c == ' ' || isBreak c
  let p := if hint then p.indicator (Nat.toDigits 10 p.width) false false false else p
  let p := p.indicator (chompingSign value) false false false
  { p.writeLine with whitespace := true }

/-- Write a literal block scalar. -/
def writeLiteral (p : Printer) (value : List Char) : Printer :=
  go value true (p.writeBlockHeader '|' value)
where
  go : List Char → Bool → Printer → Printer
    | [], _, p => p
    | c :: rest, broken, p =>
      if isBreak c then go rest true (p.putBreakChar c)
      else
        let p := if broken then p.writeIndent else p
        go rest false { p.put c with indention := false }

/--
Write a folded block scalar. A line break between two lines that do not start with a blank is
written twice, since a single one would be read as a space.
-/
def writeFolded (p : Printer) (value : List Char) : Printer :=
  go value true true (p.writeBlockHeader '>' value)
where
  /-- Whether the first character that is no line break is a blank. -/
  startsBlank : Bool := isBlankOrEnd ((value.dropWhile isBreak).headD endChar)
  go : List Char → Bool → Bool → Printer → Printer
    | [], _, _, p => p
    | c :: rest, broken, leading, p =>
      if isBreak c then
        let p := if !broken && !leading && c == '\n' && !startsBlank then p.putBreak else p
        go rest true leading (p.putBreakChar c)
      else
        let leading := if broken then isBlank c else leading
        let p := if broken then p.writeIndent else p
        go rest false leading { p.put c with indention := false }

def writeStyled (p : Printer) (style : ScalarStyle) (value : List Char) : Printer :=
  match style with
  | .plain => p.writePlain value
  | .singleQuoted => p.writeSingleQuoted value
  | .doubleQuoted => p.writeDoubleQuoted value
  | .literal => p.writeLiteral value
  | .folded => p.writeFolded value

end Printer
end Yaml
end YamlOrder
