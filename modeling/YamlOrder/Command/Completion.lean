import YamlOrder.Command.Dispatch
import YamlOrder.FileTree

/-!
This module contains the completion of command lines: which words a shell may offer next.
-/

namespace YamlOrder
namespace Command

/-- What a shell does beyond offering words. -/
inductive Directive where
  | files
  | noFiles
  | filesWithExtension
  deriving DecidableEq, Repr

def Directive.number : Directive → Nat
  | .files => 0
  | .noFiles => 4
  | .filesWithExtension => 8

def Directive.name : Directive → Text
  | .files => "ShellCompDirectiveDefault"
  | .noFiles => "ShellCompDirectiveNoFileComp"
  | .filesWithExtension => "ShellCompDirectiveFilterFileExt"

/-- How the values of a flag are completed: by words, or by files with certain extensions. -/
inductive Completer where
  | words (ws : List Text)
  | extensions (es : List Text)
  deriving DecidableEq, Repr

/-- A group of flags that are completed together. -/
inductive FlagGroup where
  | settings
  | log
  | profile
  deriving DecidableEq, Repr

namespace FlagGroup

def flags : FlagGroup → List Flag
  | .settings => Settings.flags
  | .log => logFlags
  | .profile => profileFlags

/-- The flags with a completion of their own, in the order in which they get it. -/
def completers : FlagGroup → List (Text × Completer)
  | .settings =>
    let words (f : Settings.Field) (ws : List Text) : Text × Completer := (f.flagName, .words ws)
    [ words .schema (Schema.all.map Schema.name),
      words .quotingType [Settings.singleQuote, Settings.doubleQuote],
      (Settings.settingsFlag.name, .extensions ["yaml", "yml"]),
      words .locale [], words .indent [], words .lineWidth [], words .emptyLinesUntilLevel [],
      words .keywords1 [], words .keywords2 [], words .keywords3 [] ]
  | .log =>
    [ (logLevelFlag.name, .words (Log.Level.all.map Log.Level.name)),
      (logFormatFlag.name, .words (Log.Format.all.map Log.Format.name)) ]
  | .profile => [(profileRateFlag.name, .words [])]

end FlagGroup

/-- A completion for a flag that does not exist. -/
structure NoSuchFlag where
  name : Text
  completer : Completer
  deriving DecidableEq, Repr

def NoSuchFlag.message (f : NoSuchFlag) : Text :=
  let reason : Text := match f.completer with
    | .words _ => Text.ofString "RegisterFlagCompletionFunc: flag '" ++ f.name ++ "' does not exist"
    | .extensions _ => Text.ofString "no such flag -" ++ f.name
  Text.ofString "registering " ++ f.name ++ " completion: " ++ reason

/-- The completions of a group of which only some flags exist. -/
def register (flags : List Flag) (g : FlagGroup) : Except NoSuchFlag (List (Text × Completer)) :=
  match g.completers.find? fun (name, _) => !flags.any (·.name == name) with
  | some (name, completer) => .error ⟨name, completer⟩
  | none => .ok g.completers

/-- The completion of a flag. -/
def completerOf? (name : Text) : Option Completer :=
  (FlagGroup.settings.completers ++ FlagGroup.log.completers ++
  FlagGroup.profile.completers).lookup name

/-- What is offered: words, some with an explanation after a tab. -/
structure Offer where
  words : List Text := []
  directive : Directive := .files
  /-- The arguments that have been read on the way. -/
  arguments : Arguments := {}

/-- The part of a word before the first tab. -/
def withoutExplanation (word : Text) : Text := word.takeWhile (· != Text.tab)

/-- A word with an explanation. -/
def explain (word explanation : Text) : Text := word ++ Text.tab :: explanation

/-- What the last two arguments mean for completion. -/
structure Focus where
  flag : Option Flag := none
  /-- The name of a flag whose value is wanted and which does not exist. -/
  missing : Bool := false
  args : List Text
  word : Text

/-- Whether an argument is a flag with a name. -/
def isNamedFlag (arg : Text) : Bool :=
  match arg with
  | 45 :: 45 :: _ :: _ => true
  | 45 :: c :: _ => c != 45
  | _ => false

/-- A flag by its name, or by its letter. -/
def findFlag? (flags : List Flag) (name : Text) : Option Flag :=
  match name with
  | [c] => flags.find? (·.letter == some c)
  | name => flags.find? (·.name == name)

/-- The name of a flag in an argument: all after two dashes, or the last letter after one. -/
def flagNameOf (arg : Text) : Text :=
  match arg with
  | 45 :: 45 :: name => name
  | arg => arg.getLast?.toList

/-- Find out whether the value of a flag is being typed. -/
def focus (flags : List Flag) (args : List Text) (word : Text) : Focus :=
  let same : Focus := { args, word }
  match Text.cut? 61 word with
  | some (before, value) =>
    if isFlag word then
      match findFlag? flags (flagNameOf before) with
      | some f => { flag := some f, args, word := value }
      | none => { same with missing := true }
    else byPrevious same
  | none => if isFlag word then same else byPrevious same
where
  byPrevious (same : Focus) : Focus :=
    match same.args.getLast? with
    | none => same
    | some previous =>
      if !isNamedFlag previous || previous.contains 61 then same
      else
        match findFlag? flags (flagNameOf previous) with
        | none => { same with missing := true }
        | some f =>
          if f.kind == .bool then same else { same with flag := some f, args := same.args.dropLast }

def sortByName {α : Type} (name : α → Text) (xs : List α) : List α :=
  xs.mergeSort fun a b => (FileTree.compareBytes (name a) (name b)).isLE

/--
The names of flags that go on from a word. A flag that has been given is offered again if it is a
list.
-/
def offerFlags (i : Item) (a : Arguments) (word : Text) : List Text :=
  let helped := i.helpFlag :: i.ownFlags
  let groups := if i == .root then [helped ++ globalFlags] else [globalFlags, helped]
  groups.flatMap fun flags =>
    (sortByName Flag.name flags).flatMap fun f =>
      if (a.value? f.name).isSome && f.kind != .texts then []
      else
        let long := Text.ofString "--" ++ f.name
        let short := f.letter.toList.map fun l => ([45, l] : Text)
        ((long :: short).filter (word.isPrefixOf ·)).map (explain · f.usage)

/-- The commands below a command that go on from a word. -/
def offerCommands (i : Item) (word : Text) : List Text :=
  let offered := i.children.filter fun c => c.isSuggested || c == .help
  ((sortByName Item.name offered).filter fun c => word.isPrefixOf c.name).map fun c =>
    explain c.name c.summary

/--
A word that ends the flags stands among the words that `a` was read from: another one counts as
input.
-/
def endsFlags (flags : List Flag) (a : Arguments) (words : List Text) : Bool :=
  match Arguments.parse flags (words ++ [[45, 45]]) with
  | .ok b => a.positional.length < b.positional.length
  | .error _ => false

/-- What can follow arguments, of which the last one is still being typed. -/
def offer (args : List Text) : Offer :=
  let word := args.getLastD []
  match dispatch args.dropLast with
  | .error _ => {}
  | .ok (i, rest) =>
    let flags := i.helpFlag :: i.flags
    let f := focus flags rest word
    match Arguments.parse flags f.args with
    | .error _ => {}
    | .ok a =>
      let flagsEnded := endsFlags flags a f.args
      let flag := if flagsEnded then none else f.flag
      if f.missing && !flagsEnded then { arguments := a }
      else if a.bool i.helpFlag.name then { directive := .noFiles, arguments := a }
      else if isFlag f.word && f.flag.isNone && !f.word.contains 61 && !flagsEnded then
        { words := offerFlags i a f.word, directive := .noFiles, arguments := a }
      else
        match flag with
        | some flag =>
          match completerOf? flag.name with
          | some (.words ws) => { words := ws, directive := .noFiles, arguments := a }
          | some (.extensions es) =>
            { words := es, directive := .filesWithExtension, arguments := a }
          | none => { arguments := a }
        | none =>
          let ownGiven := i.ownFlags.any fun f => (a.value? f.name).isSome
          if f.flag.isSome || i.children.isEmpty || !a.positional.isEmpty ||
            ownGiven then { arguments := a }
          else { words := offerCommands i f.word, directive := .noFiles, arguments := a }

/-- The lines that a shell reads. -/
def Offer.lines (o : Offer) (explained : Bool) : Text :=
  let shown (w : Text) : Text := Text.trim (if explained then w else withoutExplanation w)
  o.words.flatMap (fun w => shown w ++ [Text.newline]) ++ 58 :: Text.ofNat o.directive.number ++
    [Text.newline]

/-- The line that tells people how completion has ended. -/
def Offer.note (o : Offer) : Text :=
  Text.ofString "Completion ended with directive: " ++ o.directive.name ++ [Text.newline]

end Command
end YamlOrder
