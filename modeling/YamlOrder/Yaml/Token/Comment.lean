import YamlOrder.Text.Utf8
import YamlOrder.Yaml.Cursor
import YamlOrder.Yaml.Token

/-!
This module contains the search for comments. A comment after a token on its line belongs to the
token. Of the comment lines between two tokens, those right below the first one are its foot, and
those above the second one are its head.
-/

namespace YamlOrder
namespace Yaml

/-- How far ahead a comment is looked for. -/
def commentReach : Nat := 512

/-- The comment on the rest of the line, which the token at `token` takes. -/
def scanLineComment (token : Mark) (c : Cursor) : Option Comment × Cursor :=
  let blanks := (c.rest.takeWhile isBlank).length
  if 0 < c.newlines then
    (none, c)
  else if !c.has (min commentReach (blanks + 1)) || commentReach ≤ blanks ||
    c.peek blanks != '#' then
    (none, c.glance (min commentReach (blanks + 1)))
  else
    let c := c.skipN blanks
    let text := Text.ofChars (c.takeWhile (!isBreakOrEnd ·))
    (some { token, first := c.mark, line := text }, c.skipToBreak)

/-- The search for the comment lines between two tokens. -/
structure CommentSearch where
  cursor : Cursor
  /-- The characters that have been looked at but not stepped over. -/
  ahead : Nat := 0
  line : Nat
  column : Nat
  scan : Mark
  token : Mark
  /-- The comment that is being collected, and its position, whose column is counted from 1. -/
  text : Text := []
  first : Mark := {}
  /-- Whether no empty line has been seen so far. -/
  firstEmpty : Bool
  /-- Whether the last line was empty. -/
  recentEmpty : Bool := false
  found : List Comment := []

namespace CommentSearch

/-- The position that is being looked at. -/
def here (s : CommentSearch) : Mark := ⟨s.cursor.mark.index + s.ahead, s.line, s.column⟩

/-- End the collected comment as a foot of what the mark `token` belongs to. -/
def closeFoot (s : CommentSearch) (token : Mark) : CommentSearch :=
  { s with
    found :=
      s.found ++ [{ scan := s.scan, token, first := s.first, last := s.here, foot := s.text }]
    scan := s.here
    token := s.here
    text := [] }

/-- Step over blanks and line breaks up to an index. -/
def stepTo (index : Nat) : Nat → Cursor → Cursor
  | 0, c => c
  | fuel + 1, c =>
    if index ≤ c.mark.index then c
    else if isBreak c.peek then stepTo index fuel c.skipLine
    else stepTo index fuel c.skip

/-- Take the comment line that starts here. -/
def takeLine (s : CommentSearch) : CommentSearch :=
  let first := if s.text.isEmpty then s.here else s.first
  let text := if s.text.isEmpty then [] else s.text ++ [Text.newline]
  let c := stepTo (s.cursor.mark.index + s.ahead) (s.ahead + 1) s.cursor
  { s with
    first
    text := text ++ Text.ofChars (c.takeWhile (!isBreakOrEnd ·))
    cursor := c.skipToBreak
    ahead := 1
    column := 0
    line := c.mark.line
    recentEmpty := false }

/--
Where the surroundings of a comment leave no doubt: the flow level, the indentation, the foot line.
-/
structure Context where
  inFlow : Bool
  indent : Nat
  /-- The line on which a comment must start to be a foot of the token before. -/
  footLine : Option Nat
  /-- Whether the token before is an indicator of a mapping value. -/
  afterValue : Bool

/-- Whether the comment collected before a first empty line is a foot. -/
def isFoot (s : CommentSearch) (ctx : Context) : Bool :=
  s.firstEmpty &&
    ((some s.first.line == ctx.footLine && !ctx.afterValue) || s.first.column - 1 < ctx.indent)

/-- An empty line, the end, or the end of a flow collection: the collected comment may end here. -/
def endLine (s : CommentSearch) (ctx : Context) (closing : Bool) (atEnd : Bool) : CommentSearch :=
  if s.text.isEmpty then s
  else if closing || (!s.recentEmpty && s.isFoot ctx) then
    s.closeFoot (if s.first.column - 1 < ctx.indent then s.first else s.token)
  else if !s.recentEmpty && !atEnd then
    { s with text := s.text ++ [Text.newline] }
  else
    s

/-- Close a comment before something that is indented less than what surrounds it. -/
def closeDedented (s : CommentSearch) (ctx : Context) : CommentSearch :=
  if !s.text.isEmpty && s.column - 1 < ctx.indent && s.column !=
  s.first.column then s.closeFoot s.token
  else s

/-- Whether a character is a line break of several bytes. -/
def isWideBreak (c : Char) : Bool := isBreak c && 0x80 ≤ c.toNat

/-- Look at the lines up to the next token. A line break of several bytes ends the search. -/
def run (ctx : Context) : Nat → CommentSearch → CommentSearch
  | 0, s => s
  | fuel + 1, s =>
    if commentReach ≤ s.ahead then s
    else if !s.cursor.has (s.ahead + 1) then
      { s with cursor := s.cursor.glance (s.ahead + 1) }
    else
      let c := s.cursor.peek s.ahead
      let s := { s with cursor := s.cursor.glance (s.ahead + 1), column := s.column + 1 }
      if isBlank c then
        run ctx fuel { s with ahead := s.ahead + 1 }
      else
        let closing := ctx.inFlow && (c == ']' || c == '\x7d')
        if closing || isBreakOrEnd c then
          let s := s.endLine ctx closing (isEnd c)
          if isBreak c then
            let s :=
              { s with
                firstEmpty := false
                recentEmpty := true
                column := 0
                line := s.line + 1
                ahead := s.ahead + 1 }
            if isWideBreak c then { s with column := 1 }.closeDedented ctx else run ctx fuel s
          else
            s
        else
          let s := s.closeDedented ctx
          if c != '#' then s
          else
            let s := s.takeLine
            if isWideBreak s.cursor.peek then { s with column := 1 }.closeDedented ctx
            else run ctx fuel s

/-- All comments of the search; what is collected at its end is the head of the next token. -/
def comments (s : CommentSearch) : List Comment :=
  if s.text.isEmpty then s.found
  else
    s.found ++ [{
      scan := s.scan
      token := s.first
      first := s.first
      last := ⟨s.cursor.mark.index + s.ahead - 1, s.line, s.column⟩
      head := s.text }]

end CommentSearch

/--
The comment lines from here to the next token. `before` is the token that they may be a foot of,
`scan` the place where the search for the next token began.
-/
def scanComments (scan : Mark) (before : Token) (inFlow : Bool) (indent : Int) (c : Cursor)
    : List Comment × Cursor :=
  let footLine :=
    if scan.line == 0 then none
    else some
      (c.mark.line + 1 - c.newlines + (if c.newlines == 0 && 1 < c.mark.column then 1 else 0))
  let ctx : CommentSearch.Context :=
    { inFlow, indent := indent.toNat, footLine, afterValue := before.kind == .value }
  let s : CommentSearch :=
    { cursor := c
      line := c.mark.line
      column := c.mark.column
      scan
      token := before.first
      firstEmpty := c.newlines ≤ 1 }
  let s := s.run ctx (2 * c.rest.length + commentReach)
  (s.comments, s.cursor)

end Yaml
end YamlOrder
