import YamlOrder.Text.Basic

/-!
This module contains the full-line comments of a document: each is remembered with the line below
it, taken out, and put back above that line once the document has its new text. The line is searched
for in a text whose lines may have been moved, indented or quoted anew.
-/

namespace YamlOrder
namespace Anchor

/-- The offset of the last occurrence of a piece that is not empty. -/
def last? (text piece : Text) : Option Nat :=
  if piece.isEmpty then none else Text.findLast? piece text

/-- Look for the line as it is. -/
def whole? (text anchor : Text) : Option Nat := last? text anchor

/-- Look for the line without the white space around it, since its indentation may have changed. -/
def trimmed? (text anchor : Text) : Option Nat := last? text (Text.trim anchor)

/-- Look for the key before the first colon, since the value may be written differently. -/
def key? (text anchor : Text) : Option Nat :=
  match Text.cut? 58 anchor with
  | some (key, _) => last? text (Text.trim key)
  | none => none

/-- Try the line, the line without white space around it, and the key, in this order. -/
def search? (text anchor : Text) : Option Nat :=
  whole? text anchor <|> trimmed? text anchor <|> key? text anchor

end Anchor

/-- A comment line and the next line with content, or nothing if the document ends before one. -/
structure CommentPair where
  comment : Text
  anchor : Option Text
  deriving DecidableEq, Repr

namespace Comment

/-- Whether a line holds nothing but a comment. -/
def isComment (line : Text) : Bool := (line.dropWhile (· == Text.space)).head? == some 35

/-- The lines of a document without the white space around it. -/
def linesOf (text : Text) : List Text := Text.lines (Text.trim text)

/-- Every comment line with the next line that is not blank, in order. -/
def pairs : List Text → List CommentPair
  | [] => []
  | line :: rest =>
    if isComment line then ⟨line, rest.find? (!Text.isBlank ·)⟩ :: pairs rest else pairs rest

/-- The lines without the comment lines, as a text. -/
def strip (lines : List Text) : Text := Text.unlines (lines.filter (!isComment ·))

/-- Put a comment after everything else. -/
def append (text comment : Text) : Text :=
  if text.isEmpty then comment else Text.dropNewlines text ++ Text.newline :: comment

/-- The offset of the line that an offset lies on. -/
def lineStart (text : Text) (i : Nat) : Nat :=
  ((Text.findLast? [Text.newline] (text.take i)).map (· + 1)).getD 0

/-- Put a comment on a line of its own above the line that an offset lies on. -/
def insertAt (text : Text) (i : Nat) (comment : Text) : Text :=
  let start := lineStart text i
  let after := text.drop start
  if Text.isBlank after then append text comment
  else text.take start ++ comment ++ Text.newline :: after

/-- Whether a comment already stands above its anchor. -/
def isInPlace (text comment anchor : Text) : Bool :=
  Text.occursIn (comment ++ Text.newline :: anchor) text

/--
Put one comment back. A comment that stands above its anchor already, or has lost it, is left out.
-/
def applyOne (text : Text) (pair : CommentPair) : Text :=
  match pair.anchor with
  | none => append text pair.comment
  | some anchor =>
    if isInPlace text pair.comment anchor then text
    else
      match Anchor.search? text anchor with
      | some i => insertAt text i pair.comment
      | none => text

/-- Put all comments back, the last one first. -/
def apply (pairs : List CommentPair) (text : Text) : Text :=
  pairs.reverse.foldl applyOne text

/--
The comments whose anchors cannot be found while they are put back, in the order of the attempts.
-/
def lost (pairs : List CommentPair) (text : Text) : List (Text × Text) :=
  go pairs.reverse text
where
  go : List CommentPair → Text → List (Text × Text)
    | [], _ => []
    | pair :: rest, text =>
      let later := go rest (applyOne text pair)
      match pair.anchor with
      | none => later
      | some anchor =>
        if isInPlace text pair.comment anchor || (Anchor.search? text anchor).isSome then later
        else (pair.comment, anchor) :: later

end Comment
end YamlOrder
