import YamlOrder.Log.Basic
import YamlOrder.Log.Terminal

/-!
This module contains the lines that a log is made of, in each of its formats.
-/

namespace YamlOrder
namespace Log

/-- Whether a character needs quotes wherever words are separated by spaces. -/
def isOdd (c : Char) : Bool :=
  c == Text.replacement || c == ' ' || !Text.isPrintable c

/-- The upper case name of a level. -/
def Level.heading (l : Level) : Text := Text.ofChars ((Text.toChars l.name).map Char.toUpper)

/-! Lines of JSON. -/

/-- An attribute without a name and without a value is left out. -/
def Record.named (r : Record) : List (Text × Value) :=
  r.attributes.filter fun (k, v) => !(k.isEmpty && v == .none)

def jsonField (f : Text × Json.Value) : Text :=
  Json.string .line f.1 ++ 58 :: Json.leaf .line f.2

def Record.json (r : Record) : Text :=
  let head : List (Text × Json.Value) :=
    [("level", .text r.level.heading), ("msg", .text r.message)]
  let fields := head ++ r.named.map fun (k, v) => (k, v.toJson)
  Text.ofString "\x7b" ++ List.intercalate [44] (fields.map jsonField) ++ Text.ofString "\x7d\n"

/-! Lines of keys and values. -/

/--
Whether a word of a line of keys and values is quoted. A backslash or a delete character alone is
not.
-/
def needsQuotes (t : Text) : Bool :=
  t.isEmpty || (Text.toChars t).any fun c => c == '"' || c == '=' || (isOdd c && c.toNat != 0x7F)

def word (t : Text) : Text := if needsQuotes t then Text.quote t else t

def Record.logfmt (r : Record) : Text :=
  let head : List (Text × Text) := [("level", r.level.heading), ("msg", r.message)]
  let fields := head ++ r.named.map fun (k, v) => (k, v.display)
  List.intercalate [Text.space] (fields.map fun (k, v) => word k ++ 61 :: word v) ++ [Text.newline]

/-! Lines for people. -/

/-- A text with four spaces for every tab. -/
def widenTabs (t : Text) : Text := t.flatMap fun b => if b == Text.tab then Text.spaces 4 else [b]

/-- A character as it is shown to people. A backslash stands for itself. -/
def showChar (escapeQuotes : Bool) (c : Char) : Text :=
  if c == '"' then if escapeQuotes then "\\\"" else Text.ofChars [c]
  else if Text.isPrintable c then Text.ofChars [c]
  else if c.toNat == 0x7F then "\\u007f"
  else Text.quoteChar c

def showText (escapeQuotes : Bool) (t : Text) : Text :=
    (Text.toChars t).flatMap (showChar escapeQuotes)

/-- Whether a value is shown in quotes. -/
def needsMarks (t : Text) : Bool := (Text.toChars t).any fun c => c == '"' || c == '=' || isOdd c

/-- The rule before each line of a value. -/
def margin : Text := dim "  │ "

/-- The lines of a value below its key. A last line that is empty is not shown. -/
def showLines (isLast : Bool) : List Text → Text
  | [] => []
  | [line] =>
    if line.isEmpty then [] else margin ++ showText false line ++ if isLast then []
      else [Text.newline]
  | line :: rest => margin ++ showText false line ++ Text.newline :: showLines isLast rest

/-- A text with a line feed for every pair of a carriage return and a line feed. -/
def joinPairs : Text → Text
  | [] => []
  | 13 :: 10 :: rest => 10 :: joinPairs rest
  | b :: rest => b :: joinPairs rest

/--
A key: its lines are dimmed and made as wide as the widest, and the sign that ends it is dimmed too.
-/
def showKey (key : Text) : Text :=
  List.intercalate [Text.newline]
  (padLines ((Text.lines (joinPairs (widenTabs key))).map dim)) ++ dim "="

/-- The keys that stand for parts of a record and are not shown as attributes. -/
def partKeys : List Text := ["time", "level", "caller", "prefix"]

/-- An attribute, with what separates it from what comes before, as it is written to a terminal. -/
def showAttribute (isLast : Bool) (key : Text) (v : Value) : Text :=
  let value := v.display
  if key == Text.ofString "msg" then if value.isEmpty then [] else Text.space :: widenTabs value
  else if key.isEmpty || partKeys.contains key then []
  else if value.contains Text.newline then
    Text.ofString "\n  " ++ showKey key ++ Text.newline :: showLines isLast (Text.lines value)
  else
    let shown :=
      if value.isEmpty then Text.ofString "\"\""
      else if needsMarks value then 34 :: showText true value ++ [34]
      else value
    Text.space :: showKey key ++ shown

def showAttributes : List (Text × Value) → Text
  | [] => []
  | (k, v) :: rest => showAttribute rest.isEmpty k v ++ showAttributes rest

/-- A line for people, without the control sequences for a terminal and those in the message. -/
def Record.plain (r : Record) : Text :=
  let message := if r.message.isEmpty then [] else Text.space :: widenTabs r.message
  dropControls (r.level.heading.take 4 ++ message ++ showAttributes r.attributes ++ [Text.newline])

/-- What a sink writes for a record. -/
def Sink.write (s : Sink) (r : Record) : Text :=
  if s.accepts r then
    match s.format with
    | .json => r.json
    | .logfmt => r.logfmt
    | .text => r.plain
  else
    []

/-- What a sink writes for records, one after the other. -/
def Sink.writeAll (s : Sink) (rs : List Record) : Text := rs.flatMap s.write

@[simp]
theorem Sink.writeAll_nil (s : Sink) : s.writeAll [] = [] := rfl

@[simp]
theorem Sink.writeAll_append (s : Sink) (rs qs : List Record)
    : s.writeAll (rs ++ qs) = s.writeAll rs ++ s.writeAll qs := by
  simp [Sink.writeAll]

end Log
end YamlOrder
