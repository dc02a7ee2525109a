import YamlOrder.Text.Utf8

/-!
This module contains the layout of the output: the width of tabs, the indentation the writer really
uses, the blank lines before keys, and the wrapping of folded block scalars, whose content lines are
broken at single spaces, where folding reads the line break as that space again.
-/

namespace YamlOrder
namespace Layout

/-- Whether a byte is one of the ASCII blanks tab, newline, form feed, carriage return and space. -/
def isBlankByte (b : UInt8) : Bool := b == 9 || b == 10 || b == 12 || b == 13 || b == 32

/--
Whether a line ends with the header of a folded block scalar: `>` after a blank or at the start,
then an indentation digit or none and a chomping sign or none.
-/
def isFoldedHeader (line : Text) : Bool :=
  let afterSign := match line.reverse with
    | b :: t => if b == 45 || b == 43 then t else b :: t
    | [] => []
  let afterDigit := match afterSign with
    | b :: t => if 49 ≤ b && b ≤ 57 then t else b :: t
    | [] => []
  match afterDigit with
  | 62 :: [] => true
  | 62 :: b :: _ => isBlankByte b
  | _ => false

/-- Whether the byte at an inner position is a space between two bytes that are none. -/
def isBreakable (body : Text) (i : Nat) : Bool :=
  1 ≤ i && body[i]? == some Text.space && body[i - 1]? != some Text.space &&
    i + 1 < body.length && body[i + 1]? != some Text.space

/--
Where to break a line body: the last breakable space whose line still fits the width, or the first
one if none fits.
-/
def breakAt? (indent width : Int) (body : Text) : Option Nat :=
  go (List.range body.length) none
where
  go : List Nat → Option Nat → Option Nat
    | [], best => best
    | i :: rest, best =>
      if isBreakable body i then
        if indent + Text.charCount (body.take i) > width then
          best <|> some i
        else
          go rest (some i)
      else
        go rest best

/-- A line as lines of at most the width, where it can be broken. -/
def wrapLine (line : Text) (indent : Nat) (width : Int) : List Text :=
  go (line.drop indent) (line.length + 1)
where
  go (body : Text) : Nat → List Text
    | 0 => [line.take indent ++ body]
    | fuel + 1 =>
      if indent + Text.charCount body > width then
        match breakAt? indent width body with
        | some i => (line.take indent ++ body.take i) :: go (body.drop (i + 1)) fuel
        | none => [line.take indent ++ body]
      else
        [line.take indent ++ body]

/-- Where the walk over the lines stands: outside of folded scalars, or inside of one. -/
inductive WrapState where
  | outside
  | inside (header : Nat) (content : Option Nat)
  deriving DecidableEq, Repr

/-- A line outside of folded scalars is kept; a header starts one. -/
def enter (line : Text) : WrapState :=
  if isFoldedHeader line && !Text.occursIn " #" line then .inside (Text.indent line) none
  else .outside

/-- What becomes of a line, and the state for the line after it. -/
def wrapStep (width : Int) : WrapState → Text → List Text × WrapState
  | .outside, line => ([line], enter line)
  | .inside header content, line =>
    if Text.isBlank line then
      ([line], .inside header content)
    else if Text.indent line ≤ header then
      ([line], enter line)
    else
      let indent := content.getD (Text.indent line)
      if Text.indent line == indent then
        (wrapLine line indent width, .inside header (some indent))
      else
        ([line], .inside header (some indent))

/-- The lines with every folded scalar wrapped. -/
def wrapLines (width : Int) : WrapState → List Text → List Text
  | _, [] => []
  | state, line :: rest =>
    let (out, state') := wrapStep width state line
    out ++ wrapLines width state' rest

/-- The text with the lines of its folded scalars wrapped; a width of 0 or less wraps nothing. -/
def wrapFolded (text : Text) (width : Int) : Text :=
  if width ≤ 0 || !text.contains 62 then text
  else Text.unlines (wrapLines width .outside (Text.lines text))

/--
The text with every tab replaced by `width` spaces. A text has any length here: that there is no
memory for the spaces of a huge width is not modelled.
-/
def expandTabs (text : Text) (width : Nat) : Text :=
  text.flatMap fun b => if b == Text.tab then Text.spaces width else [b]

/-- The indentation the writer uses: widths outside of 2 to 9 become 2. -/
def effectiveIndent (indent : Int) : Nat :=
  if indent < 2 || indent > 9 then 2 else indent.toNat

/-- Whether a byte belongs to the key of a nested line. -/
def isWordByte (b : UInt8) : Bool :=
  (48 ≤ b && b ≤ 57) || (97 ≤ b && b ≤ 122) || (65 ≤ b && b ≤ 90) || b == 95 || b == 45

/--
Whether a text starts with a key of the outermost level: its first byte is no blank, `#` or `-`, and
a colon follows on the same line.
-/
def startsTopKey : Text → Bool
  | b :: t =>
    !isBlankByte b && b != 35 && b != 45 &&
      (t.dropWhile fun c => c != Text.newline && c != 58).head? == some 58
  | [] => false

/-- Whether a text starts with a word and a colon after exactly `indent` spaces. -/
def startsNestedKey (indent : Nat) (t : Text) : Bool :=
  let word := t.drop indent
  (Text.spaces indent).isPrefixOf t && (word.takeWhile isWordByte).length != 0 &&
    (word.dropWhile isWordByte).head? == some 58

/-- Whether a text starts with a key that is nested `level` levels deep. -/
def startsKey (indent level : Nat) (t : Text) : Bool :=
  if level == 0 then startsTopKey t else startsNestedKey (level * indent) t

/--
The text with one more newline before every line that satisfies a predicate, the first line apart.
-/
def insertBlank (isKey : Text → Bool) : Text → Text
  | [] => []
  | b :: t =>
    if b == Text.newline && isKey t then b :: Text.newline :: insertBlank isKey t
    else b :: insertBlank isKey t

/-- The deepest indentation that a level can be recognised at. -/
def maxKeyIndent : Nat := 1000

/-- Whether the blank lines of `levels` levels can be inserted at all. -/
def blankLinesFit (levels indent : Nat) : Bool := (levels - 1) * indent ≤ maxKeyIndent

/--
The text with a blank line before every key that is nested less than `levels` deep. There is no
answer if a level is indented too deep to be recognised.
-/
def addBlankLines (text : Text) (levels indent : Nat) : Option Text :=
  if blankLinesFit levels indent then
    some ((List.range levels).foldl (fun t level => insertBlank (startsKey indent level) t) text)
  else
    none

end Layout
end YamlOrder
