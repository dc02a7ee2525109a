import YamlOrder.Config.Decode
import YamlOrder.Config.Reading

/-!
This module contains the layers of settings. Defaults come first, then a settings file, then the
environment, and last the flags that were given; what a later layer says wins.
-/

namespace YamlOrder
namespace Config

/-- The variables of the environment. -/
abbrev Environment := List (Text × Text)

/-- Why settings cannot be had. -/
inductive Fault where
  | fileNotFound (path : Text)
  | load (path : Text) (fault : LoadFault)
  | reading (faults : ReadingFaults)
  | invalid (error : Error)
  deriving DecidableEq, Repr

def Fault.message : Fault → Text
  | .fileNotFound path => Text.ofString "settings file not found: " ++ path
  | .load path fault => Text.ofString "load settings: " ++ path ++ ": " ++ fault.message
  | .reading faults => faults.message
  | .invalid error => error.message

/-- Two underscores as one dot, from the left. -/
def dotted : Text → Text
  | 95 :: 95 :: t => dot :: dotted t
  | b :: t => b :: dotted t
  | [] => []

/-- The path that a variable stands for, if it is one of those with the given start. -/
def pathOfVariable? (start name : Text) : Option Text :=
  let start := start ++ Text.ofString "__"
  if start.isPrefixOf name then
    let path := dotted (Text.lower (name.drop start.length))
    if path.isEmpty then none else some path
  else
    none

/-- What the environment says. -/
def Fields.ofEnvironment (start : Text) (env : Environment) : Fields :=
  env.foldl (fun fs (name, value) =>
    match pathOfVariable? start name with
    | some path => fs.set path (.text value)
    | none => fs) []

/-- What the file at a path says. The empty path stands for no file. -/
def Fields.ofFile (files : FileTree) (path : Text) : Except Fault Fields :=
  if path.isEmpty then .ok []
  else
    match files.find path with
    | .error _ => .error (.fileNotFound path)
    | .ok (_, .directory) => .error (.load path (.unreadable path .isDirectory))
    | .ok (_, .file content) => (Fields.ofYaml content).mapError (.load path)

/-- The flags that were given, by name. -/
def sortedFlags (a : Command.Arguments) : List (Text × Command.FlagValue) :=
  a.given.mergeSort fun f g => (FileTree.compareBytes f.1 g.1).isLE

/-- The layers so far, merged. -/
structure Loader where
  fields : Fields := []

namespace Loader

/-- Add a layer. -/
def merge (l : Loader) (layer : Fields) : Loader where
  fields := mergeFields layer l.fields

/-- Set the value at a path. -/
def set (l : Loader) (path : Text) (v : Value) : Loader where
  fields := l.fields.set path v

/--
Load defaults, the file at a path, and the environment. Layers before the first that cannot be
loaded stay.
-/
def load (l : Loader) (defaults : Fields) (files : FileTree) (path start : Text)
    (env : Environment)
    : Loader × Except Fault PUnit :=
  let l := l.merge defaults
  match Fields.ofFile files path with
  | .error fault => (l, .error fault)
  | .ok layer => ((l.merge layer).merge (Fields.ofEnvironment start env), .ok ())

/-- Set what the flags say that were given; `keys` holds the path for every flag that has one. -/
def setFlags (l : Loader) (keys : List (Text × Text)) (a : Command.Arguments) : Loader :=
  (sortedFlags a).foldl (fun l (name, v) =>
    match keys.lookup name with
    | some path => l.set path (.ofFlag v)
    | none => l) l

/-- The settings at a path. -/
def settings (l : Loader) (path : Text) : Except Fault Settings :=
  (readSettings (l.fields.get? path)).mapError .reading

/-- The settings at a path, if they can be used. -/
def validSettings (l : Loader) (path : Text) : Except Fault Settings := do
  let s ← l.settings path
  s.validate.mapError .invalid
  return s

end Loader

/-- The keys of all flags that stand for settings. -/
def flagKeys : List (Text × Text) := Settings.Field.all.map fun f => (f.flagName, f.key)

/-- What the variables start with that stand for settings. -/
def variableStart : Text := "YAMLSORT"

/-- The settings file: the one that is named, or the usual one if it exists. -/
def settingsFile (files : FileTree) (a : Command.Arguments) : Text :=
  let named := a.text Settings.settingsFlag.name []
  if !named.isEmpty then named
  else
    match files.find Settings.defaultFile with
    | .ok _ => Settings.defaultFile
    | .error _ => []

/-- All layers of a run over the given defaults. -/
def gatherOver (defaults : Settings) (files : FileTree) (env : Environment)
    (a : Command.Arguments)
    : Except Fault Loader :=
  match ({} : Loader).load (Fields.ofSettings defaults) files (settingsFile files a)
  variableStart env with
  | (l, .ok _) => .ok (l.setFlags flagKeys a)
  | (_, .error fault) => .error fault

/-- All layers of a run. -/
def gather (files : FileTree) (env : Environment) (a : Command.Arguments) : Except Fault Loader :=
  gatherOver {} files env a

/-- The settings of a run. -/
def load (files : FileTree) (env : Environment) (a : Command.Arguments)
    : Except Fault Settings := do
  let l ← gather files env a
  let s ← l.validSettings []
  return s.normalize

/-- Whether the order of a run is reversed. -/
def reversed (a : Command.Arguments) : Bool := a.bool Settings.reverseFlag.name

end Config
end YamlOrder
