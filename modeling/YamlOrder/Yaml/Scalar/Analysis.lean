import YamlOrder.Yaml.CharClass
import YamlOrder.Yaml.Token

/-!
This module contains the choice of a style for a scalar: which styles can hold its value, and which
one is taken when the wanted one cannot.
-/

namespace YamlOrder
namespace Yaml

/-- The styles that a value can be written in. -/
structure Analysis where
  multiline : Bool
  flowPlain : Bool
  blockPlain : Bool
  singleQuoted : Bool
  block : Bool
  deriving DecidableEq, Repr

namespace Analysis

/-- Whether a character can be written as it is. -/
def isPrintable (c : Char) : Bool :=
  let n := c.toNat
  n == 0x0A || (0x20 ≤ n && n ≤ 0x7E) || (0xA0 ≤ n && n ≤ 0xD7FF) ||
    (0xE000 ≤ n && n ≤ 0xFFFD && n != 0xFEFF)

/--
What a character says about a plain scalar: whether it is an indicator in flow and in block context.
-/
structure Indicators where
  flow : Bool := false
  block : Bool := false

/-- The first character of a value. `blankAfter` says that a blank or nothing follows it. -/
def firstIndicators (c : Char) (blankAfter : Bool) : Indicators :=
  if ['#', ',', '[', ']', '\x7b', '\x7d', '&', '*', '!', '|', '>', '\'', '"', '%', '@',
      '\x60'].contains c then ⟨true, true⟩
  else if c == '?' || c == ':' then ⟨true, blankAfter⟩
  else if c == '-' then ⟨blankAfter, blankAfter⟩
  else {}

/-- A later character of a value. -/
def laterIndicators (blankBefore : Bool) (c : Char) (blankAfter : Bool) : Indicators :=
  if [',', '?', '[', ']', '\x7b', '\x7d'].contains c then ⟨true, false⟩
  else if c == ':' then ⟨true, blankAfter⟩
  else if c == '#' then ⟨blankBefore, blankBefore⟩
  else {}

/-- The indicators of all characters after the first one. -/
def restIndicators : Char → List Char → Indicators
  | _, [] => {}
  | before, c :: rest =>
    let i := laterIndicators (isBlankOrEnd before) c (rest.head?.all isBlank)
    let later := restIndicators c rest
    ⟨i.flow || later.flow, i.block || later.block⟩

/-- Whether a value looks like a marker of a document. -/
def startsMarker (value : List Char) : Bool :=
  ['-', '-', '-'].isPrefixOf value || ['.', '.', '.'].isPrefixOf value

def indicators (value : List Char) : Indicators :=
  match value with
  | [] => {}
  | c :: rest =>
    let i := firstIndicators c (rest.head?.all isBlank)
    let later := restIndicators c rest
    let marker := startsMarker value
    ⟨marker || i.flow || later.flow, marker || i.block || later.block⟩

/-- Whether somewhere in a value two neighbours satisfy two predicates. -/
def hasNeighbours (p q : Char → Bool) : List Char → Bool
  | a :: b :: rest => (p a && q b) || hasNeighbours p q (b :: rest)
  | _ => false

def ofValue (value : List Char) : Analysis :=
  if value.isEmpty then
    { multiline := false, flowPlain := false, blockPlain := true, singleQuoted :=
      true, block := false }
  else
    let isSpace := (· == ' ')
    let i := indicators value
    let breaks := value.any isBreak
    let tabs := value.any (· == '\t')
    let special := value.any fun c => c != '\t' && !isPrintable c
    let edgeSpace := value.head?.any isSpace || value.getLast?.any isSpace
    let edgeBreak := value.head?.any isBreak || value.getLast?.any isBreak
    let breakSpace := hasNeighbours isBreak isSpace value
    let spaceBreak := hasNeighbours isSpace isBreak value
    let unquotable := breakSpace || spaceBreak || tabs || special
    let plain := !(edgeSpace || edgeBreak || unquotable || breaks)
    { multiline := breaks
      flowPlain := plain && !i.flow
      blockPlain := plain && !i.block
      singleQuoted := !unquotable
      block := !(value.getLast?.any isSpace || spaceBreak || special) }

/-- The style in which a value is written. -/
def style (a : Analysis) (wanted : ScalarStyle) (isEmpty inFlow simpleKey : Bool) : ScalarStyle :=
  let wanted := if simpleKey && a.multiline then .doubleQuoted else wanted
  let plainFits := (if inFlow then a.flowPlain else a.blockPlain) &&
    !(isEmpty && (inFlow || simpleKey))
  match wanted with
  | .plain => if plainFits then .plain else if a.singleQuoted then .singleQuoted else .doubleQuoted
  | .singleQuoted => if a.singleQuoted then .singleQuoted else .doubleQuoted
  | .doubleQuoted => .doubleQuoted
  | .literal => if a.block && !inFlow && !simpleKey then .literal else .doubleQuoted
  | .folded => if a.block && !inFlow && !simpleKey then .folded else .doubleQuoted

end Analysis
end Yaml
end YamlOrder
