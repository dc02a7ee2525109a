import YamlOrder.Text.Basic

/-!
This module contains the documents of a buffer: how a buffer is cut at its delimiter lines and how
the documents are put together again.
-/

namespace YamlOrder

/--
A document of a buffer together with the delimiter written before it. The delimiter of a first
document is empty or a single delimiter line; every later one also holds the blank lines that stood
before it.
-/
structure Document where
  delimiter : Text
  text : Text
  deriving DecidableEq, Repr, Inhabited

namespace Document

/-- The marker of a delimiter line. -/
def marker : Text := "---"

/--
The text after the marker of a delimiter line, or nothing if the line is none. The marker stands
alone or is followed by a space or a tab.
-/
def delimiterRest? (line : Text) : Option Text :=
  if line == marker then
    some []
  else if (marker ++ [Text.space]).isPrefixOf line || (marker ++ [Text.tab]).isPrefixOf line then
    some (Text.trim (line.drop marker.length))
  else
    none

/-- Whether a line is a directive. -/
def isDirective (line : Text) : Bool := line.head? == some 37

/--
The lines without the directives. A delimiter that ends directives at the start of a buffer goes
with them. `leading` holds until the first line with content, `pending` while directives wait for
their delimiter.
-/
def stripDirectives (lines : List Text) : List Text :=
  go true false lines
where
  go (leading pending : Bool) : List Text → List Text
    | [] => []
    | line :: rest =>
      if isDirective line then
        go leading leading rest
      else if pending then
        if Text.isBlank line then
          go leading true rest
        else
          match delimiterRest? line with
          | some [] => go false false rest
          | some after => after :: go false false rest
          | none => line :: go false false rest
      else
        line :: go (leading && Text.isBlank line) false rest

/--
The lines cut at the delimiter lines. What follows a marker on its line starts the next part.
-/
def parts : List Text → List Text × List (List Text)
  | [] => ([], [])
  | line :: rest =>
    let (first, later) := parts rest
    match delimiterRest? line with
    | some [] => ([], first :: later)
    | some after => ([], (after :: first) :: later)
    | none => (line :: first, later)

/-- How many lines at the end are blank. -/
def trailingBlanks (lines : List Text) : Nat := (lines.reverse.takeWhile Text.isBlank).length

/-- The documents of the parts of a buffer, the first of which is written after `delimiter`. -/
def ofParts (delimiter : Text) (lines : List Text) : List (List Text) → List Document
  | [] => [⟨delimiter, Text.unlines lines⟩]
  | next :: later =>
    let blanks := trailingBlanks lines
    let text := Text.unlines (lines.take (lines.length - blanks))
    let delimiter' := List.replicate (blanks + 1) Text.newline ++ marker ++ [Text.newline]
    ⟨delimiter, text⟩ :: ofParts delimiter' next later

/-- The documents of a buffer. There is always at least one. -/
def split (buffer : Text) : List Document :=
  match parts (stripDirectives (Text.lines (Text.normalizeNewlines buffer))) with
  | (first, next :: later) =>
    if first.all Text.isBlank then
      ofParts (marker ++ [Text.newline]) next later
    else
      ofParts [] first (next :: later)
  | (first, []) => ofParts [] first []

/--
The buffer so far with one more document. A newline at its end takes the place of the delimiter's.
-/
def append (buffer : Text) (d : Document) : Text :=
  let delimiter :=
    if buffer.getLast? == some Text.newline then Text.dropLeading [Text.newline] d.delimiter
    else d.delimiter
  buffer ++ delimiter ++ Text.dropNewlines d.text

/-- The documents as one buffer, which ends with exactly one newline or is empty. -/
def join (docs : List Document) : Text :=
  let buffer := Text.dropNewlines (docs.foldl append [])
  if Text.isBlank buffer then [] else buffer ++ [Text.newline]

end Document
end YamlOrder
