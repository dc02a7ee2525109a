import YamlOrder.Settings.Field
import YamlOrder.Log.Basic

/-!
This module contains the commands of the program, their flags, and what they are for.
-/

namespace YamlOrder
namespace Command

inductive Item where
  | root
  | sort
  | format
  | validate
  | config
  | show
  | schema
  | version
  | help
  | completion
  /-- The command that shells call to complete a command line, with explanations or without. -/
  | complete (explain : Bool)
  deriving DecidableEq, Repr

namespace Item

def name : Item → Text
  | .root => "yamlsort"
  | .sort => "sort"
  | .format => "format"
  | .validate => "validate"
  | .config => "config"
  | .show => "show"
  | .schema => "schema"
  | .version => "version"
  | .help => "help"
  | .completion => "completion"
  | .complete true => "__complete"
  | .complete false => "__completeNoDesc"

def summary : Item → Text
  | .root => "Sort and format YAML files"
  | .sort => "Sort mapping keys"
  | .format => "Normalize formatting without reordering keys"
  | .validate => "Check that inputs can be sorted"
  | .config => "Inspect settings"
  | .show => "Print the effective settings as YAML"
  | .schema => "Print the JSON Schema of the settings file"
  | .version => "Print build information"
  | .help => "Help about any command"
  | .completion => "Generate the autocompletion script for the specified shell"
  | .complete _ => "Request shell completion choices for the specified command-line"

def children : Item → List Item
  | .root =>
    [.sort, .format, .validate, .config, .version, .help, .complete true, .complete false,
      .completion]
  | .config => [.show, .schema]
  | _ => []

/-- The names from the root on. -/
def path : Item → Text
  | .root => Item.root.name
  | .show => Item.root.name ++ " config show"
  | .schema => Item.root.name ++ " config schema"
  | i => Item.root.name ++ Text.space :: i.name

/-- Whether a command is suggested for a word that is none. -/
def isSuggested : Item → Bool
  | .help => false
  | .complete _ => false
  | _ => true

/-- Whether a command does something by itself. -/
def isRunnable : Item → Bool
  | .root => false
  | .config => false
  | .completion => false
  | .help => false
  | _ => true

/-- Whether a command takes no positional arguments. -/
def takesNone : Item → Bool
  | .show => true
  | .schema => true
  | .version => true
  | _ => false

end Item

def writeFlag : Flag where
  name := "write"
  letter := some 119
  kind := .bool
  usage := "write results back to the source files"

def listFlag : Flag where
  name := "list"
  letter := some 108
  kind := .bool
  usage := "only list files whose content would change"

def rangeFlag : Flag where
  name := "range"
  kind := .range
  usage := "only process lines START:END (1-based, inclusive)"

def customFlag : Flag where
  name := "custom"
  letter := some 99
  kind := .int
  usage := "custom keyword order to apply at the top level, 1 to 3 (0 sorts by locale)"

def jsonFlag : Flag where
  name := "json"
  kind := .bool
  usage := "print as JSON"

/-- Names in brackets, separated by spaces. -/
def listing (names : List Text) : Text := 91 :: List.intercalate [Text.space] names ++ [93]

def logLevelFlag : Flag where
  name := "log-level"
  kind := .text
  usage := Text.ofString "log level, one of: " ++ listing (Log.Level.all.map Log.Level.name)

def logFormatFlag : Flag where
  name := "log-format"
  kind := .text
  usage := Text.ofString "log format, one of: " ++ listing (Log.Format.all.map Log.Format.name)

def cpuProfileFlag : Flag where
  name := "cpu-profile"
  kind := .text
  usage := "write a CPU profile to file"

def heapProfileFlag : Flag where
  name := "heap-profile"
  kind := .text
  usage := "write a heap profile to file"

def allocsProfileFlag : Flag where
  name := "allocs-profile"
  kind := .text
  usage := "write an allocs profile to file"

def profileRateFlag : Flag where
  name := "mem-profile-rate"
  kind := .int
  usage := "bytes allocated per heap sample"

def logFlags : List Flag := [logLevelFlag, logFormatFlag]

def profileFlags : List Flag :=
    [cpuProfileFlag, heapProfileFlag, allocsProfileFlag, profileRateFlag]

/-- The flags that every command has. -/
def globalFlags : List Flag := logFlags ++ profileFlags

/-- The flags that only some commands have. -/
def Item.ownFlags : Item → List Flag
  | .sort => [customFlag, writeFlag, listFlag, rangeFlag] ++ Settings.flags
  | .format => [writeFlag, listFlag, rangeFlag] ++ Settings.flags
  | .validate => Settings.flags
  | .show => Settings.flags
  | .version => [jsonFlag]
  | _ => []

def Item.helpFlag (i : Item) : Flag where
  name := "help"
  letter := some 104
  kind := .bool
  usage := Text.ofString "help for " ++ i.name

/-- The flags of a command, without the one for help. -/
def Item.flags (i : Item) : List Flag := i.ownFlags ++ globalFlags

end Command
end YamlOrder
