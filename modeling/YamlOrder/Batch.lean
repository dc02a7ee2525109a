import YamlOrder.Error
import YamlOrder.FileTree
import YamlOrder.Log.Basic

/-!
This module contains the processing of many inputs. Each is read, handed to a job, and its result
printed, listed or written back. An input that fails is told of in the log, and the others are still
processed.
-/

namespace YamlOrder
namespace Batch

open Log (Record)

/-- The path that stands for the standard input. -/
def standardInput : Text := "-"

/-- Why an input fails. -/
inductive Fault where
  | notFound (path : Text) (reason : PathFault)
  | unreadable (path : Text) (reason : PathFault)
  | unwritable (path : Text) (reason : PathFault)
  | refused (error : Error)
  deriving DecidableEq, Repr

def Fault.message : Fault → Text
  | .notFound path reason => Text.ofString "read input: stat " ++ path ++ ": " ++ reason.message
  | .unreadable path reason => Text.ofString "read input: open " ++ path ++ ": " ++ reason.message
  | .unwritable path reason => Text.ofString "write output: open " ++ path ++ ": " ++ reason.message
  | .refused error => error.message

/-- An input: its path, and why it cannot be read, if that is known already. -/
structure Input where
  path : Text
  fault : Option Fault := none
  deriving DecidableEq, Repr

/--
What is done with a text, and what is told about it on the way. A job without a result only checks.
-/
structure Job where
  run : Text → Except Error (Option Text)
  records : Text → List Record

/-- The job whose result is a new text for every text that it accepts. -/
def Job.rewriting (f : Text → Except Error Text) (records : Text → List Record) : Job where
  run text := (f text).map some
  records := records

/-- Where results go. -/
structure Target where
  write : Bool := false
  list : Bool := false
  deriving DecidableEq, Repr

/--
What has happened so far: the files, what is left of the standard input, and all that was put out.
-/
structure State where
  files : FileTree
  input : Text := []
  output : Text := []
  records : List Record := []
  failed : Nat := 0
  /-- Whether an input was so unusual that the others are not processed any more. -/
  halted : Bool := false

namespace State

def log (s : State) (rs : List Record) : State := { s with records := s.records ++ rs }

def print (s : State) (t : Text) : State := { s with output := s.output ++ t }

/-- Count an input that has failed. -/
def fail (s : State) (path : Text) (fault : Fault) : State :=
  { s with failed := s.failed + 1 }.log
    [{ level := .error
       message := "process input"
       attributes := [("path", .text path), ("error", .text fault.message)] }]

/-- Read an input. The standard input can be read once, and is empty afterwards. -/
def read (s : State) (path : Text) : Except Fault (Text × State) :=
  if path == standardInput then .ok (s.input, { s with input := [] })
  else
    match s.files.read path with
    | .ok text => .ok (text, s)
    | .error reason => .error (.unreadable path reason)

/-- Write a file back. -/
def write (s : State) (path text : Text) : State :=
  match s.files.write path text with
  | .ok files =>
    { s with files }.log
      [{ level := .info, message := "rewrote file", attributes := [("path", .text path)] }]
  | .error reason => s.fail path (.unwritable path reason)

/-- Deliver the result for an input: its path if it has changed, a new file, or the text itself. -/
def deliver (s : State) (target : Target) (path old new : Text) : State :=
  let changed := new != old
  let s := s.log
    [{ level := .debug
       message := "processed"
       attributes := [("path", .text path), ("changed", .bool changed)] }]
  if target.list then if changed then s.print (path ++ [Text.newline]) else s
  else if target.write && path != standardInput then if changed then s.write path new else s
  else s.print new

/-- Process an input that can be read. -/
def process (s : State) (job : Job) (target : Target) (path : Text) : State :=
  match s.read path with
  | .error fault => s.fail path fault
  | .ok (text, s) =>
    let s := s.log (job.records text)
    match job.run text with
    | .error e => if e.cause == .levelTooDeep then { s with halted := true }
        else s.fail path (.refused e)
    | .ok none =>
      s.log [{ level := .debug, message := "valid", attributes := [("path", .text path)] }]
    | .ok (some new) => s.deliver target path text new

def step (job : Job) (target : Target) (s : State) (i : Input) : State :=
  if s.halted then s
  else
    match i.fault with
    | some fault => s.fail i.path fault
    | none => s.process job target i.path

end State

/-- Process all inputs, one after the other. -/
def run (job : Job) (target : Target) (inputs : List Input) (s : State) : State :=
  inputs.foldl (State.step job target) s

/-- Whether a file is taken from a directory. -/
def isYaml (path : Text) : Bool :=
    ([".yaml", ".yml"] : List Text).contains (FileTree.extension path)

/--
The inputs that an argument stands for: a file, or all files below a directory that hold YAML.
-/
def expand (files : FileTree) (arg : Text) : List Input :=
  if arg == standardInput then [{ path := arg }]
  else
    match files.find arg with
    | .error reason => [{ path := arg, fault := some (.notFound arg reason) }]
    | .ok (_, .file _) => [{ path := arg }]
    | .ok (r, .directory) => ((files.walk arg r).filter isYaml).map fun path => { path }

end Batch
end YamlOrder
