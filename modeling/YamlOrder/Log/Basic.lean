import YamlOrder.Json.Basic
import YamlOrder.Text.Lower

/-!
This module contains log records, the levels that decide which of them are written, and the names of
the formats that they are written in.
-/

namespace YamlOrder
namespace Log

/-- How severe a record is. -/
inductive Level where
  | error
  | warn
  | info
  | debug
  deriving DecidableEq, Repr, Inhabited

namespace Level

/-- All levels, the most severe one first. -/
def all : List Level := [.error, .warn, .info, .debug]

def name : Level → Text
  | .error => "error"
  | .warn => "warn"
  | .info => "info"
  | .debug => "debug"

/-- The number of a level; a more severe level has a greater one. -/
def number : Level → Int
  | .debug => -4
  | .info => 0
  | .warn => 4
  | .error => 8

/-- The level of a name as it is, or the level of ordinary records. -/
def ofName (t : Text) : Level := (all.find? (·.name == t)).getD .info

end Level

/-- What the lines of a log look like. -/
inductive Format where
  | json
  | logfmt
  | text
  deriving DecidableEq, Repr, Inhabited

namespace Format

def all : List Format := [.json, .logfmt, .text]

def name : Format → Text
  | .json => "json"
  | .logfmt => "logfmt"
  | .text => "text"

/-- The format of a name as it is, or lines for people. -/
def ofName (t : Text) : Format := (all.find? (·.name == t)).getD .text

end Format

/-- Why a log cannot be written as wanted. -/
inductive Fault where
  | unknownLevel (given : Text)
  | unknownFormat (given : Text)
  deriving DecidableEq, Repr

def Fault.message : Fault → Text
  | .unknownLevel given => Text.ofString "unknown log level: " ++ Text.quote given
  | .unknownFormat given => Text.ofString "unknown log format: " ++ Text.quote given

/-- Read the name of a level in any case. -/
def Level.parse (t : Text) : Except Fault Level :=
  let word := Text.lower t
  if word == Text.ofString "warning" then .ok .warn
  else
    match all.find? (·.name == word) with
    | some l => .ok l
    | none => .error (.unknownLevel t)

/-- Read the name of a format in any case. -/
def Format.parse (t : Text) : Except Fault Format :=
  match all.find? (·.name == Text.lower t) with
  | some f => .ok f
  | none => .error (.unknownFormat t)

/-- The value of an attribute. -/
inductive Value where
  | text (t : Text)
  | int (n : Int)
  | bool (b : Bool)
  | none
  deriving DecidableEq, Repr, Inhabited

/-- A value as it is shown outside of quotes. -/
def Value.display : Value → Text
  | .text t => t
  | .int n => Text.ofInt n
  | .bool b => if b then "true" else "false"
  | .none => "<nil>"

def Value.toJson : Value → Json.Value
  | .text t => .text t
  | .int n => .int n
  | .bool b => .bool b
  | .none => .null

/-- Something that happened, with its circumstances. -/
structure Record where
  level : Level
  message : Text
  attributes : List (Text × Value) := []
  deriving DecidableEq, Repr, Inhabited

/-- Where records go: those below a level are dropped, the others are written in a format. -/
structure Sink where
  level : Level := .info
  format : Format := .text
  deriving DecidableEq, Repr, Inhabited

/-- A sink from the names of its level and its format. The level is read first. -/
def Sink.parse (level format : Text) : Except Fault Sink := do
  let level ← Level.parse level
  let format ← Format.parse format
  return { level, format }

/-- Whether a record is written. -/
def Sink.accepts (s : Sink) (r : Record) : Bool := s.level.number ≤ r.level.number

end Log
end YamlOrder
