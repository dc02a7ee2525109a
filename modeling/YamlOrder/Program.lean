import YamlOrder.Batch
import YamlOrder.BuildInfo
import YamlOrder.Command.Completion
import YamlOrder.Config.Dump
import YamlOrder.Config.Loader
import YamlOrder.Log.Line
import YamlOrder.Profile
import YamlOrder.Settings.JsonSchema
import YamlOrder.Sorter.Trace

/-!
This module contains the program: what a command line does to files, and what it prints.
-/

namespace YamlOrder
namespace Program

open Command (Item Arguments)

/-- Everything around a run. -/
structure World where
  files : FileTree := {}
  env : Config.Environment := []
  input : Text := []
  /-- Whether the standard input is a terminal, where nobody waits to type. -/
  terminal : Bool := false
  build : BuildInfo := {}

/-- Why a run fails. -/
inductive Failure where
  | unknownCommand (unknown : Command.Unknown)
  | flags (fault : Command.FlagFault)
  | noWord
  | log (fault : Log.Fault)
  | profileStart (faults : List Profile.Fault)
  | config (fault : Config.Fault)
  | sorter (error : Error)
  | noInput
  | someFailed (failed total : Nat)
  | halted
  /-- The run has failed or not, and its profiles could not be written. -/
  | profileStop (failure : Option Failure) (faults : List Profile.Fault)
  deriving Repr

def Failure.message : Failure → Text
  | .unknownCommand unknown => unknown.message
  | .flags fault => fault.message
  | .noWord => "requires at least 1 arg(s), only received 0"
  | .log fault => Text.ofString "invalid argument: " ++ fault.message
  | .profileStart faults => Profile.messages faults
  | .config fault => fault.message
  | .sorter error => error.message
  | .noInput => "no input: pass files or pipe YAML to stdin"
  | .someFailed failed total =>
    Text.ofString "failed: " ++ Text.ofNat failed ++ " of " ++ Text.ofNat total ++ " inputs"
  | .halted => Error.levelTooDeep.message
  | .profileStop failure faults =>
    let before := match failure with
      | some f => f.message ++ [Text.newline]
      | none => []
    before ++ Text.ofString "profile: " ++ Profile.messages faults

/-- What a run leaves behind. -/
structure Outcome where
  files : FileTree
  output : Text := []
  records : List Log.Record := []
  /-- What is told to people besides the log. -/
  notes : Text := []
  failure : Option Failure := none

/-- How a sorter is used by a command. -/
def job (i : Item) (a : Arguments) (s : Sorter) : Batch.Job :=
  let range := a.range Command.rangeFlag.name
  let slot := a.int Command.customFlag.name 0
  match i with
  | .validate =>
    { run := fun text => (s.validate text).map fun _ => none
      records := s.validateRecords }
  | .format =>
    if range.isZero then .rewriting s.format s.formatRecords
    else .rewriting (s.formatLines · range) (Sorter.linesRecords range s.formatRecords)
  | _ =>
    if range.isZero then .rewriting (s.sort · slot) (s.sortRecords · slot)
    else .rewriting (s.sortLines · range slot) (Sorter.linesRecords range (s.sortRecords · slot))

/-- The inputs that arguments stand for: the standard input if there are none. -/
def inputs (w : World) (args : List Text) : Except Failure (List Batch.Input) :=
  if args.isEmpty then
    if w.terminal then .error .noInput else .ok [{ path := Batch.standardInput }]
  else
    .ok (args.flatMap (Batch.expand w.files))

/-- The sorter of a run. -/
def sorter (w : World) (a : Arguments) : Except Failure Sorter := do
  let settings ← (Config.load w.files w.env a).mapError .config
  (Sorter.make settings (Config.reversed a)).mapError .sorter

/-- Do a job with all inputs that arguments stand for. It fails if some of them do. -/
def runAll (w : World) (args : List Text) (target : Batch.Target) (job : Batch.Job) : Outcome :=
  match inputs w args with
  | .error failure => { files := w.files, failure := some failure }
  | .ok inputs =>
    let state := Batch.run job target inputs { files := w.files, input := w.input }
    { files := state.files
      output := state.output
      records := state.records
      failure :=
        if state.halted then some .halted
        else if state.failed > 0 then some (.someFailed state.failed inputs.length)
        else none }

/-- Sort, format or validate. -/
def runBatch (w : World) (i : Item) (a : Arguments) : Outcome :=
  match sorter w a with
  | .error failure => { files := w.files, failure := some failure }
  | .ok s =>
    let target : Batch.Target :=
      { write := a.bool Command.writeFlag.name, list := a.bool Command.listFlag.name }
    runAll w a.positional target (job i a s)

/-- Run a command whose arguments have been read. -/
def runItem (w : World) (i : Item) (a : Arguments) : Outcome :=
  match i with
  | .show =>
    match Config.gather w.files w.env a with
    | .ok l => { files := w.files, output := l.fields.dump }
    | .error fault => { files := w.files, failure := some (.config fault) }
  | .schema => { files := w.files, output := Settings.jsonSchema.document }
  | .version =>
    let info := w.build
    { files := w.files
      output := if a.bool Command.jsonFlag.name then info.toJson.document
        else info.summary ++ [Text.newline] }
  | i => runBatch w i a

def profilePaths (a : Arguments) : Profile.Paths where
  cpu := a.text Command.cpuProfileFlag.name []
  heap := a.text Command.heapProfileFlag.name []
  allocs := a.text Command.allocsProfileFlag.name []

/-- Stop the profiles of a run. -/
def stopProfile (a : Arguments) (s : Profile.State) (o : Outcome) : Outcome :=
  let (_, files, faults) := Profile.stop (profilePaths a) s o.files
  let failure := if faults.isEmpty then o.failure else some (.profileStop o.failure faults)
  { o with files, failure }

/-- Run a command with its profiles. -/
def runProfiled (w : World) (i : Item) (a : Arguments) : Outcome :=
  let (state, files, faults) := Profile.start (profilePaths a) {} w.files
  let o : Outcome :=
    if faults.isEmpty then runItem { w with files } i a
    else { files, failure := some (.profileStart faults) }
  stopProfile a state o

/-- The sink that arguments ask for. -/
def sink (a : Arguments) : Except Log.Fault Log.Sink :=
  Log.Sink.parse (a.text Command.logLevelFlag.name Log.Level.info.name)
    (a.text Command.logFormatFlag.name Log.Format.text.name)

/-- What a run leaves behind: files, output, messages, and why it failed if it did. -/
structure Result where
  files : FileTree
  output : Text := []
  messages : Text := []
  failure : Option Failure := none

/-- The log of an outcome as messages. -/
def Outcome.toResult (o : Outcome) (s : Log.Sink) : Result where
  files := o.files
  output := o.output
  messages := s.writeAll o.records ++ o.notes
  failure := o.failure

def failed (w : World) (f : Failure) : Result := { files := w.files, failure := some f }

/-- Complete a command line. The flags on it name profiles as if it were run. -/
def runComplete (w : World) (explain : Bool) (args : List Text) : Result :=
  if args.isEmpty then failed w .noWord
  else
    let o := Command.offer args
    let outcome := stopProfile o.arguments { started := true }
      { files := w.files, output := o.lines explain, notes := o.note }
    outcome.toResult {}

/-- Run a command with the arguments that are left for it. -/
def runCommand (w : World) (i : Item) (args : List Text) : Result :=
  match Arguments.parse (i.helpFlag :: i.flags) args with
  | .error fault => failed w (.flags fault)
  | .ok a =>
    if a.bool i.helpFlag.name || !i.isRunnable then { files := w.files }
    else
      match if i.takesNone then a.positional.head? else none with
      | some word => failed w (.unknownCommand { word, path := i.path })
      | none =>
        match sink a with
        | .error fault => failed w (.log fault)
        | .ok s => (runProfiled w i a).toResult s

/-- Run the program. -/
def run (w : World) (args : List Text) : Result :=
  match Command.dispatch args with
  | .error unknown => failed w (.unknownCommand unknown)
  | .ok (.complete explain, rest) => runComplete w explain rest
  | .ok (i, rest) => runCommand w i rest

end Program
end YamlOrder
