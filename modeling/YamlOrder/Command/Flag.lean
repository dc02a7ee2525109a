import YamlOrder.LineRange
import YamlOrder.Text.Csv

/-!
This module contains the flags of a command line: how arguments are read as flags with values and as
positional arguments.
-/

namespace YamlOrder
namespace Command

/-- What kind of value a flag has. Only a flag that is on or off can be given without a value. -/
inductive FlagKind where
  | bool
  | int
  | text
  | texts
  | range
  deriving DecidableEq, Repr

structure Flag where
  name : Text
  kind : FlagKind
  usage : Text
  letter : Option UInt8 := none
  deriving DecidableEq, Repr

inductive FlagValue where
  | bool (b : Bool)
  | int (n : Int)
  | text (t : Text)
  | texts (ts : List Text)
  | range (r : LineRange)
  deriving DecidableEq, Repr

/-- Why a value does not suit a flag. -/
inductive ValueFault where
  | bool (given : Text)
  | int (given : Text) (fault : Text.IntegerFault)
  | texts (fault : Csv.Fault)
  | range (fault : RangeFault)
  deriving DecidableEq, Repr

def ValueFault.message : ValueFault → Text
  | .bool given => Text.ofString "strconv.ParseBool: parsing " ++ Text.quote given ++
      ": invalid syntax"
  | .int given fault =>
    Text.ofString "strconv.ParseInt: parsing " ++ Text.quote given ++ ": " ++ fault.message
  | .texts fault => fault.message
  | .range fault => Text.ofString "invalid range: " ++ fault.message

/-- Why arguments cannot be read. -/
inductive FlagFault where
  | helpRequested
  | badForm (argument : Text)
  | unknown (name : Text)
  | unknownLetter (letter : UInt8) (cluster : Text)
  | needsValue (argument : Text)
  | letterNeedsValue (letter : UInt8)
  | badValue (flag : Flag) (given : Text) (fault : ValueFault)
  deriving DecidableEq, Repr

/-- A letter in single quotes. -/
def quoteLetter (b : UInt8) : Text :=
  let c := Char.ofNat b.toNat
  let shown := if c == '\'' then Text.ofString "\\'" else if c == '"' then [34]
    else Text.quoteChar c
  39 :: shown ++ [39]

/-- A flag with its letter, if it has one, and its name. -/
def Flag.display (f : Flag) : Text :=
  match f.letter with
  | some l => 45 :: l :: Text.ofString ", --" ++ f.name
  | none => Text.ofString "--" ++ f.name

def FlagFault.message : FlagFault → Text
  | .helpRequested => "pflag: help requested"
  | .badForm argument => Text.ofString "bad flag syntax: " ++ argument
  | .unknown name => Text.ofString "unknown flag: --" ++ name
  | .unknownLetter letter cluster =>
    Text.ofString "unknown shorthand flag: " ++ quoteLetter letter ++ " in -" ++ cluster
  | .needsValue argument => Text.ofString "flag needs an argument: " ++ argument
  | .letterNeedsValue letter =>
    Text.ofString "flag needs an argument: " ++ quoteLetter letter ++ " in -" ++ [letter]
  | .badValue flag given fault =>
    Text.ofString "invalid argument " ++ Text.quote given ++ " for " ++ Text.quote flag.display ++
      " flag: " ++
      fault.message

/-- Read a value. A list that has been given before grows. -/
def Flag.read (f : Flag) (old : Option FlagValue) (value : Text) : Except FlagFault FlagValue :=
  match f.kind with
  | .bool =>
    match Text.toBool? value with
    | some b => .ok (.bool b)
    | none => .error (.badValue f value (.bool value))
  | .int =>
    match Text.toIntAnyBase value with
    | .ok n => .ok (.int n)
    | .error fault => .error (.badValue f value (.int value fault))
  | .text => .ok (.text value)
  | .texts =>
    match if value.isEmpty then .ok [] else Csv.record value with
    | .ok new =>
      match old with
      | some (.texts ts) => .ok (.texts (ts ++ new))
      | _ => .ok (.texts new)
    | .error fault => .error (.badValue f value (.texts fault))
  | .range =>
    match LineRange.parse value with
    | .ok r => .ok (.range r)
    | .error fault => .error (.badValue f value (.range fault))

/-- The flags that have been given, with their values, and the other arguments. -/
structure Arguments where
  given : List (Text × FlagValue) := []
  positional : List Text := []
  deriving DecidableEq, Repr, Inhabited

namespace Arguments

def value? (a : Arguments) (name : Text) : Option FlagValue := a.given.lookup name

/-- Give a flag a value, in the place of the one that it has. -/
def set (a : Arguments) (name : Text) (v : FlagValue) : Arguments :=
  { a with given := (a.given.filter (·.1 != name)) ++ [(name, v)] }

def bool (a : Arguments) (name : Text) : Bool :=
  match a.value? name with
  | some (.bool b) => b
  | _ => false

def int (a : Arguments) (name : Text) (default : Int) : Int :=
  match a.value? name with
  | some (.int n) => n
  | _ => default

def text (a : Arguments) (name default : Text) : Text :=
  match a.value? name with
  | some (.text t) => t
  | _ => default

def range (a : Arguments) (name : Text) : LineRange :=
  match a.value? name with
  | some (.range r) => r
  | _ => {}

end Arguments

/--
The arguments that have been read, a flag that waits for its value, and whether flags may follow.
-/
structure Reading where
  arguments : Arguments := {}
  waiting : Option (Flag × FlagFault) := none
  flagsEnded : Bool := false

namespace Reading

def set (s : Reading) (f : Flag) (value : Text) : Except FlagFault Reading := do
  let v ← f.read (s.arguments.value? f.name) value
  return { s with arguments := s.arguments.set f.name v, waiting := none }

def addPositional (s : Reading) (arg : Text) : Reading :=
  { s with arguments := { s.arguments with positional := s.arguments.positional ++ [arg] } }

/-- What a flag without a value stands for. -/
def on : Text := "true"

/-- The name of a flag, and the value that stands behind it after an equals sign. -/
def cut (body : Text) : Text × Option Text :=
  match Text.cut? 61 body with
  | some (name, value) => (name, some value)
  | none => (body, none)

/-- Read an argument that starts with two dashes, without them. -/
def long (s : Reading) (flags : List Flag) (body : Text) : Except FlagFault Reading :=
  let argument := Text.ofString "--" ++ body
  let (name, value) := cut body
  if body.head? == some 45 || body.head? == some 61 then .error (.badForm argument)
  else
    match flags.find? (·.name == name) with
    | none =>
      if name == Text.ofString "help" then .error .helpRequested else .error (.unknown name)
    | some f =>
      match value with
      | some value => s.set f value
      | none =>
        if f.kind == .bool then s.set f on
        else .ok { s with waiting := some (f, .needsValue argument) }

/-- What the switches of a test runner start with; they are passed over. -/
def testSwitch : Text := "test."

/-- Read letters that stand after one dash. The last one may have a value. -/
def cluster (flags : List Flag) (s : Reading) : Text → Except FlagFault Reading
  | [] => .ok s
  | c :: rest =>
    if testSwitch.isPrefixOf (c :: rest) then .ok s
    else
      match flags.find? (·.letter == some c) with
      | none => if c == 104 then .error .helpRequested else .error (.unknownLetter c (c :: rest))
      | some f =>
        if rest.head? == some 61 && rest.length > 1 then s.set f (rest.drop 1)
        else if f.kind == .bool then do
          let s ← s.set f on
          cluster flags s rest
        else if !rest.isEmpty then s.set f rest
        else .ok { s with waiting := some (f, .letterNeedsValue c) }

/-- Read one argument. -/
def step (flags : List Flag) (s : Reading) (arg : Text) : Except FlagFault Reading :=
  match s.waiting with
  | some (f, _) => s.set f arg
  | none =>
    if s.flagsEnded then .ok (s.addPositional arg)
    else
      match arg with
      | [45, 45] => .ok { s with flagsEnded := true }
      | 45 :: 45 :: body => s.long flags body
      | 45 :: c :: rest => cluster flags s (c :: rest)
      | _ => .ok (s.addPositional arg)

end Reading

/-- Read arguments. A flag that is given last and without its value is a fault. -/
def Arguments.parse (flags : List Flag) (args : List Text) : Except FlagFault Arguments := do
  let s ← args.foldlM (Reading.step flags) {}
  match s.waiting with
  | some (_, fault) => throw fault
  | none => return s.arguments

end Command
end YamlOrder
