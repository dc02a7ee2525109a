import YamlOrder.Text.Utf8
import YamlOrder.Yaml.Cursor
import YamlOrder.Yaml.Token

/-!
This module contains the reading of scalars: plain, quoted and block scalars, with the folding of
their line breaks.
-/

namespace YamlOrder
namespace Yaml

/-- A scalar that has been read, and the place after it. -/
structure ScannedScalar where
  token : Token
  cursor : Cursor
  /-- Whether the place after it is on a later line than its last character. -/
  brokeLine : Bool := false

/--
The white space between two words of a flow scalar. `leading` holds from the first line break on;
`breaks` are the line breaks after the first one.
-/
structure Gap where
  blanks : List Char := []
  leading : Bool := false
  firstBreak : List Char := []
  breaks : List Char := []

namespace Gap

/-- What a gap contributes to the value: a single line break becomes a space. -/
def folded (g : Gap) : List Char :=
  if g.leading then
    if g.firstBreak.head? == some '\n' then
      if g.breaks.isEmpty then [' '] else g.breaks
    else
      g.firstBreak ++ g.breaks
  else
    g.blanks

/-- Step over white space. A tab before column `least` of a new line is a fault. -/
def scan (start : Mark) (least : Nat) : Nat → Gap → Cursor → Except Fault (Gap × Cursor)
  | 0, g, c => .ok (g, c)
  | fuel + 1, g, c =>
    if isBlank c.peek then
      if g.leading && c.mark.column < least && c.peek == '\t' then
        .error (c.problem start .tabViolatesIndent)
      else
        let g := if g.leading then g else { g with blanks := g.blanks ++ [c.peek] }
        scan start least fuel g (c.skip.need 1)
    else if isBreak c.peek then
      let g :=
        if g.leading then { g with breaks := g.breaks ++ c.lineBreak }
        else { g with blanks := [], leading := true, firstBreak := c.lineBreak }
      scan start least fuel g (c.skipLine.need 1)
    else
      .ok (g, c)

end Gap

/-- How many characters belong to a plain scalar before the next blank or indicator. -/
def plainRun (inFlow : Bool) : List Char → Nat
  | [] => 0
  | c :: t =>
    if isBlankOrEnd c || (c == ':' && isBlankOrEnd (t.headD endChar)) ||
        (inFlow && [',', '?', '[', ']', '\x7b', '\x7d'].contains c) then
      0
    else
      plainRun inFlow t + 1

/--
Read a plain scalar. In the block context it ends where a line is indented less than `least`.
-/
def scanPlain (inFlow : Bool) (least : Nat) (c : Cursor) : Except Fault ScannedScalar :=
  go (c.rest.length + 1) c [] {} c.mark
where
  finish (now : Cursor) (value : List Char) (g : Gap) (last : Mark) : ScannedScalar :=
    { token := ⟨.scalar (Text.ofChars value) .plain, c.mark, last⟩
      cursor := now
      brokeLine := g.leading }
  go : Nat → Cursor → List Char → Gap → Mark → Except Fault ScannedScalar
    | 0, now, value, g, last => .ok (finish now value g last)
    | fuel + 1, now, value, g, last =>
      let now := now.need 4
      if now.atDocumentMarker || now.peek == '#' then
        .ok (finish now value g last)
      else
        let n := plainRun inFlow now.rest
        let word := now.rest.take n
        let value := if n == 0 then value else value ++ g.folded ++ word
        let g := if n == 0 then g else {}
        let now := if n == 0 then now else (now.skipN n).need 2
        let last := if n == 0 then last else now.mark
        if isBlank now.peek || isBreak now.peek then do
          let (g, now) ← g.scan c.mark least (now.rest.length + 1) now
          if !inFlow && now.mark.column < least then
            return finish now value g last
          else
            go fuel now value g last
        else
          .ok (finish now value g last)

/-- What follows a backslash: a character, or the number of digits of a character code. -/
inductive Escape where
  | char (c : Char)
  | code (digits : Nat)

def Escape.ofChar? (c : Char) : Option Escape :=
  match c with
  | '0' => some (.char (Char.ofNat 0x00))
  | 'a' => some (.char (Char.ofNat 0x07))
  | 'b' => some (.char (Char.ofNat 0x08))
  | 't' => some (.char '\t')
  | '\t' => some (.char '\t')
  | 'n' => some (.char '\n')
  | 'v' => some (.char (Char.ofNat 0x0B))
  | 'f' => some (.char (Char.ofNat 0x0C))
  | 'r' => some (.char '\r')
  | 'e' => some (.char (Char.ofNat 0x1B))
  | ' ' => some (.char ' ')
  | '"' => some (.char '"')
  | '\'' => some (.char '\'')
  | '\\' => some (.char '\\')
  | 'N' => some (.char (Char.ofNat 0x85))
  | '_' => some (.char (Char.ofNat 0xA0))
  | 'L' => some (.char (Char.ofNat 0x2028))
  | 'P' => some (.char (Char.ofNat 0x2029))
  | 'x' => some (.code 2)
  | 'u' => some (.code 4)
  | 'U' => some (.code 8)
  | _ => none

/-- The character of an escape sequence and the place after it. -/
def scanEscape (start : Mark) (c : Cursor) : Except Fault (Char × Cursor) :=
  match Escape.ofChar? (c.peek 1) with
  | none => .error (c.problem start .unknownEscape)
  | some (.char ch) => .ok (ch, c.skip.skip)
  | some (.code n) =>
    let c := c.skip.skip.need n
    let digits := (List.range n).map fun k => c.peek k
    if digits.all isHexDigit then
      let value := digits.foldl (fun v d => v * 16 + hexValue d) 0
      if (0xD800 ≤ value && value ≤ 0xDFFF) || 0x10FFFF < value then
        .error (c.problem start .badEscapeCode)
      else
        .ok (Char.ofNat value, c.skipN n)
    else
      .error (c.problem start .noHexDigit)

/--
The words of a quoted scalar between two gaps, in reverse, and whether they end with an escaped
break.
-/
def scanQuotedRun (start : Mark) (single : Bool)
    : Nat → List Char → Cursor → Except Fault (List Char × Bool × Cursor)
  | 0, acc, c => .ok (acc, false, c)
  | fuel + 1, acc, c =>
    if isBlankOrEnd c.peek then
      .ok (acc, false, c)
    else if single then
      if c.peek == '\'' then
        if c.peek 1 == '\'' then scanQuotedRun start single fuel ('\'' :: acc) (c.skip.skip.need 2)
        else .ok (acc, false, c)
      else
        scanQuotedRun start single fuel (c.peek :: acc) (c.skip.need 2)
    else if c.peek == '"' then
      .ok (acc, false, c)
    else if c.peek == '\\' then
      if isBreak (c.peek 1) then
        .ok (acc, true, (c.need 3).skip.skipLine)
      else do
        let (ch, c) ← scanEscape start c
        scanQuotedRun start single fuel (ch :: acc) (c.need 2)
    else
      scanQuotedRun start single fuel (c.peek :: acc) (c.skip.need 2)

/-- Read a scalar in single or double quotes. -/
def scanQuoted (single : Bool) (c : Cursor) : Except Fault ScannedScalar :=
  go (c.rest.length + 1) [] c.skip
where
  quote : Char := if single then '\'' else '"'
  style : ScalarStyle := if single then .singleQuoted else .doubleQuoted
  /-- The value so far is kept in reverse. -/
  go : Nat → List Char → Cursor → Except Fault ScannedScalar
    | 0, _, now => .error (now.problem c.mark .endInQuotes)
    | fuel + 1, acc, now =>
      let now := now.need 4
      if now.atDocumentMarker then
        .error (now.problem c.mark .documentMarkerInQuotes)
      else if isEnd now.peek then
        .error (now.problem c.mark .endInQuotes)
      else do
        let (acc, leading, now) ← scanQuotedRun c.mark single (now.rest.length + 1) acc now
        let now := now.need 1
        if now.peek == quote then
          let now := now.skip
          return {
            token := ⟨.scalar (Text.ofChars acc.reverse) style, c.mark, now.mark⟩
            cursor := now }
        else
          let (g, now) ← Gap.scan c.mark 0 (now.rest.length + 1) { leading } now
          go fuel (g.folded.reverse ++ acc) now

/-- What becomes of the line breaks at the end of a block scalar. -/
inductive Chomping where
  | strip
  | clip
  | keep
  deriving DecidableEq, Repr

def Chomping.ofChar? (c : Char) : Option Chomping :=
  if c == '+' then some .keep else if c == '-' then some .strip else none

/-- The indicators of a block scalar in either order: the chomping and the indentation. -/
def scanBlockHeader (start : Mark) (c : Cursor) : Except Fault (Chomping × Nat × Cursor) :=
  let c := c.need 1
  match Chomping.ofChar? c.peek with
  | some chomping => do
    let (n, c) ← digit (c.skip.need 1)
    return (chomping, n, c)
  | none => do
    let (n, c') ← digit c
    if n == 0 then
      return (.clip, 0, c')
    else
      let c' := c'.need 1
      match Chomping.ofChar? c'.peek with
      | some chomping => return (chomping, n, c'.skip)
      | none => return (.clip, n, c')
where
  digit (c : Cursor) : Except Fault (Nat × Cursor) :=
    if c.peek == '0' then .error (c.problem start .zeroIndent)
    else if c.peek.isDigit then .ok (c.peek.toNat - 48, c.skip)
    else .ok (0, c)

/-- The place after the indentation and the line breaks before the next line of a block scalar. -/
structure BlockBreaks where
  breaks : List Char
  indent : Nat
  last : Mark
  cursor : Cursor

/--
Step over the indentation and the empty lines of a block scalar. An indentation of 0 is not known
yet; then it becomes that of the deepest line, but at least `least`.
-/
def scanBlockBreaks (start : Mark) (least indent : Nat) (c : Cursor) : Except Fault BlockBreaks :=
  go (c.rest.length + 1) [] 0 c.mark c
where
  go : Nat → List Char → Nat → Mark → Cursor → Except Fault BlockBreaks
    | 0, breaks, deepest, last, c => .ok (finish breaks deepest last c)
    | fuel + 1, breaks, deepest, last, c =>
      let spaces := (c.takeWhile (· == ' ')).length
      let c :=
        (c.need 1).skipN (if indent == 0 then spaces else min spaces (indent - c.mark.column))
      let c := c.need 1
      let deepest := max deepest c.mark.column
      if (indent == 0 || c.mark.column < indent) && c.peek == '\t' then
        .error (c.problem start .tabInIndent)
      else if isBreak c.peek then
        go fuel (breaks ++ c.lineBreak) deepest c.skipLine.mark c.skipLine
      else
        .ok (finish breaks deepest last c)
  finish (breaks : List Char) (deepest : Nat) (last : Mark) (c : Cursor) : BlockBreaks :=
    { breaks
      indent := if indent == 0 then max deepest (max least 1) else indent
      last
      cursor := c }

/-- Whether a folded scalar joins two lines: neither of them starts with a blank. -/
def joinsLines (literal leadingBlank trailingBlank : Bool) (firstBreak : List Char) : Bool :=
  !literal && !leadingBlank && !trailingBlank && firstBreak.head? == some '\n'

/-- Read the lines of a block scalar after its header. `parent` is the indentation around it. -/
def scanBlockLines (start : Mark) (literal : Bool) (chomping : Chomping) (b : BlockBreaks)
    : Except Fault ScannedScalar :=
  go (b.cursor.rest.length + 1) [] [] false b
where
  finish (value firstBreak : List Char) (b : BlockBreaks) : ScannedScalar :=
    let tail := match chomping with
      | .strip => []
      | .clip => firstBreak
      | .keep => firstBreak ++ b.breaks
    { token :=
        ⟨.scalar (Text.ofChars (value ++ tail)) (if literal then .literal else .folded),
        start, b.last⟩
      cursor := b.cursor }
  go : Nat → List Char → List Char → Bool → BlockBreaks → Except Fault ScannedScalar
    | 0, value, firstBreak, _, b => .ok (finish value firstBreak b)
    | fuel + 1, value, firstBreak, leadingBlank, b =>
      let c := b.cursor
      if c.mark.column == b.indent && !isEnd c.peek then do
        let blank := isBlank c.peek
        let joint :=
          if joinsLines literal leadingBlank blank firstBreak then
            if b.breaks.isEmpty then [' '] else []
          else
            firstBreak
        let line := c.takeWhile (!isBreakOrEnd ·)
        let c := c.skipToBreak
        let next ← scanBlockBreaks start 0 b.indent c.skipLine
        go fuel (value ++ joint ++ b.breaks ++ line) c.lineBreak blank next
      else
        .ok (finish value firstBreak b)

end Yaml
end YamlOrder
