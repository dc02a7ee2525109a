import YamlOrder.Text.Integer

/-!
This module contains ranges of lines: their notation, and the replacement of the lines they select.
-/

namespace YamlOrder

/--
The lines from `first` to `last`, both included and counted from 1. The range 0 to 0 selects none.
-/
structure LineRange where
  first : Int := 0
  last : Int := 0
  deriving DecidableEq, Repr, Inhabited

/-- Why a range cannot be used. -/
inductive RangeFault where
  | noColon (given : Text)
  | badFirst (digits : Text) (fault : Text.IntegerFault)
  | badLast (digits : Text) (fault : Text.IntegerFault)
  | firstTooSmall (first : Int)
  | lastBeforeFirst (first last : Int)
  | beyondEnd (first last : Int) (lines : Nat)
  deriving DecidableEq, Repr

namespace RangeFault

/-- The text for an integer that cannot be read. -/
def integerMessage (digits : Text) (fault : Text.IntegerFault) : Text :=
  Text.ofString "strconv.Atoi: parsing " ++ Text.quote digits ++ ": " ++ fault.message

def message : RangeFault → Text
  | .noColon s => Text.quote s ++ " is not START:END"
  | .badFirst digits fault => Text.ofString "start: " ++ integerMessage digits fault
  | .badLast digits fault => Text.ofString "end: " ++ integerMessage digits fault
  | .firstTooSmall first => Text.ofString "start must be at least 1, got " ++ Text.ofInt first
  | .lastBeforeFirst first last =>
    Text.ofString "end " ++ Text.ofInt last ++ " is before start " ++ Text.ofInt first
  | .beyondEnd first last lines =>
    Text.ofInt first ++ ":" ++ Text.ofInt last ++ " exceeds " ++ Text.ofNat lines ++ " lines"

end RangeFault

namespace LineRange

/-- A usable range starts at line 1 or later and does not end before it starts. -/
def check (r : LineRange) : Except RangeFault PUnit :=
  if r.first < 1 then .error (.firstTooSmall r.first)
  else if r.last < r.first then .error (.lastBeforeFirst r.first r.last)
  else .ok ()

/-- The two numbers of the notation `first:last`, without a check of the range. -/
def read (s : Text) : Except RangeFault LineRange :=
  match Text.cut? 58 s with
  | none => .error (.noColon s)
  | some (before, after) =>
    let before := Text.trim before
    let after := Text.trim after
    match Text.toInt before with
    | .error fault => .error (.badFirst before fault)
    | .ok first =>
      match Text.toInt after with
      | .error fault => .error (.badLast after fault)
      | .ok last => .ok ⟨first, last⟩

/--
The usable range of a notation. The numbers of a range that can be read but not used, which the
program returns beside the error and which `set` does not look at, are left out.
-/
def parse (s : Text) : Except RangeFault LineRange := do
  let r ← read s
  r.check
  return r

/-- Whether a range selects nothing. -/
def isZero (r : LineRange) : Bool := r.first == 0 && r.last == 0

/-- The notation of a range, empty for the range that selects nothing. -/
def toText (r : LineRange) : Text :=
  if r.isZero then [] else Text.ofInt r.first ++ 58 :: Text.ofInt r.last

/-- Read a new range; a notation that cannot be used leaves the old one. -/
def set (r : LineRange) (s : Text) : LineRange × Except RangeFault PUnit :=
  match parse s with
  | .ok r' => (r', .ok ())
  | .error fault => (r, .error fault)

/-- The shorter of the indentations met so far and of a line, if the line has content. -/
def lowerIndent (least : Option Nat) (line : Text) : Option Nat :=
  if Text.isBlank line then least
  else some (least.elim (Text.indent line) (min · (Text.indent line)))

/-- The number of leading spaces that all lines with content share. -/
def commonIndent (lines : List Text) : Nat := (lines.foldl lowerIndent none).getD 0

/-- A line with indentation in front of it; an empty line stays empty. -/
def reindent (indent line : Text) : Text := if line.isEmpty then [] else indent ++ line

/-- The lines around a selection, and the selection without the indentation that its lines share. -/
structure Selection where
  before : List Text
  indent : Text
  text : Text
  after : List Text
  deriving DecidableEq, Repr

/-- Take the lines of a range out of a text. -/
def select (r : LineRange) (text : Text) : Except RangeFault Selection := do
  r.check
  let lines := Text.lines (Text.normalizeNewlines text)
  if r.last > lines.length then
    throw (.beyondEnd r.first r.last lines.length)
  let selected := (lines.take r.last.toNat).drop (r.first.toNat - 1)
  let indent := Text.spaces (commonIndent selected)
  return {
    before := lines.take (r.first.toNat - 1)
    indent
    text := Text.unlines (selected.map (Text.dropLeading indent))
    after := lines.drop r.last.toNat }

/--
Put new lines, indented, in the place of the selected ones. A newline at their end does not count.
-/
def Selection.replace (s : Selection) (out : Text) : Text :=
  let replaced := (Text.lines (Text.dropTrailing [Text.newline] out)).map (reindent s.indent)
  Text.unlines (s.before ++ replaced ++ s.after)

/--
The text with the selected lines replaced by what `f` makes of them. The indentation that they share
is taken away before and put back afterwards.
-/
def apply {ε : Type} (r : LineRange) (fault : RangeFault → ε) (f : Text → Except ε Text)
    (text : Text)
    : Except ε Text := do
  let selection ← (r.select text).mapError fault
  let out ← f selection.text
  return selection.replace out

end LineRange
end YamlOrder
