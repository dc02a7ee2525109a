import YamlOrder.Text.Basic

/-!
This module contains the reading of a record of values that are separated by commas. A value in
quotes may hold commas, line breaks, and quotes that are written twice.
-/

namespace YamlOrder
namespace Csv

/-- What is wrong with a record. -/
inductive Problem where
  | bareQuote
  | unbalancedQuote
  deriving DecidableEq, Repr

/-- What is wrong with a text that should hold a record, and where. -/
inductive Fault where
  | noRecord
  | at (problem : Problem) (startLine line column : Nat)
  deriving DecidableEq, Repr

def Problem.message : Problem → Text
  | .bareQuote => "bare \" in non-quoted field"
  | .unbalancedQuote => "extraneous or missing \" in quoted-field"

def Fault.message : Fault → Text
  | .noRecord => "EOF"
  | .at problem startLine line column =>
    let record : Text :=
      if startLine == line then [] else Text.ofString "record on line " ++
      Text.ofNat startLine ++ "; "
    record ++ "parse error on line " ++ Text.ofNat line ++ ", column " ++
      Text.ofNat column ++ ": " ++
      problem.message

def comma : UInt8 := 44

def quote : UInt8 := 34

/--
The place that is read: the line where the record starts, the line, and the column, from 1 on.
-/
structure Place where
  start : Nat
  line : Nat
  column : Nat := 1

def Place.forward (p : Place) (n : Nat) : Place := { p with column := p.column + n }

def Place.fault (p : Place) (problem : Problem) : Fault := .at problem p.start p.line p.column

/-- What is read at the moment: the start of a value, a value without quotes, or one in quotes. -/
inductive Mode where
  | start
  | plain
  | quoted
  deriving DecidableEq

/--
Read the values of a record. `value` is the current one, in reverse. A line that ends inside of
quotes goes on with the next line, which is numbered.
-/
def values (mode : Mode) (value : Text) (p : Place) : Text → Except Fault (List Text)
  | [] =>
    match mode with
    | .quoted => .error (p.fault .unbalancedQuote)
    | _ => .ok [value.reverse]
  | b :: t =>
    match mode with
    | .quoted =>
      if b == quote then
        match t with
        | [] => .ok [value.reverse]
        | c :: u =>
          if c == quote then values .quoted (quote :: value) (p.forward 2) u
          else if c == comma then do
            let rest ← values .start [] (p.forward 2) u
            return value.reverse :: rest
          else if c == Text.newline then .ok [value.reverse]
          else .error (p.fault .unbalancedQuote)
      else if b == Text.newline then
        let next := if t.isEmpty then p.forward 1 else { p with line := p.line + 1, column := 1 }
        values .quoted (b :: value) next t
      else values .quoted (b :: value) (p.forward 1) t
    | mode =>
      if b == quote then
        if mode == .start then values .quoted value (p.forward 1) t else .error (p.fault .bareQuote)
      else if b == comma then do
        let rest ← values .start [] (p.forward 1) t
        return value.reverse :: rest
      else if b == Text.newline then .ok [value.reverse]
      else values .plain (b :: value) (p.forward 1) t

/-- Carriage returns at the ends of lines are no part of them. -/
def normalize : Text → Text
  | [] => []
  | b :: t =>
    if b == Text.carriageReturn && (t.isEmpty || t.head? == some Text.newline) then normalize t
    else b :: normalize t

/-- Skip the empty lines before a record; the number counts them. -/
def skipEmpty : Nat → Text → Nat × Text
  | n, [] => (n, [])
  | n, b :: t => if b == Text.newline then skipEmpty (n + 1) t else (n, b :: t)

/-- The values of the first record of a text. -/
def record (t : Text) : Except Fault (List Text) :=
  match skipEmpty 1 (normalize t) with
  | (_, []) => .error .noRecord
  | (n, t) => values .start [] { start := n, line := n } t

end Csv
end YamlOrder
