import YamlOrder.Command.Flag
import YamlOrder.Settings

/-!
This module contains the fields of the settings: the key of each in a settings file, its flag on the
command line, and what it is for.
-/

namespace YamlOrder
namespace Settings

inductive Field where
  | locale
  | schema
  | quotingType
  | keywords1
  | keywords2
  | keywords3
  | indent
  | emptyLinesUntilLevel
  | lineWidth
  | recursive
  | forceQuotes
  | leadingDashes
  | arrays
  | helm
  | octal
  | comments
  deriving DecidableEq, Repr

namespace Field

def all : List Field :=
  [.locale, .schema, .quotingType, .keywords1, .keywords2, .keywords3, .indent,
  .emptyLinesUntilLevel,
    .lineWidth, .recursive, .forceQuotes, .leadingDashes, .arrays, .helm, .octal, .comments]

/-- The key in a settings file. -/
def key : Field → Text
  | .locale => "locale"
  | .schema => "schema"
  | .quotingType => "quoting_type"
  | .keywords1 => "custom_sort_keywords_1"
  | .keywords2 => "custom_sort_keywords_2"
  | .keywords3 => "custom_sort_keywords_3"
  | .indent => "indent"
  | .emptyLinesUntilLevel => "empty_lines_until_level"
  | .lineWidth => "line_width"
  | .recursive => "use_custom_sort_recursively"
  | .forceQuotes => "force_quotes"
  | .leadingDashes => "use_leading_dashes"
  | .arrays => "use_array_processor"
  | .helm => "use_helm_processor"
  | .octal => "use_octal_processor"
  | .comments => "use_comment_processor"

/-- The name of the flag. -/
def flagName : Field → Text
  | .locale => "locale"
  | .schema => "schema"
  | .quotingType => "quoting-type"
  | .keywords1 => "keywords-1"
  | .keywords2 => "keywords-2"
  | .keywords3 => "keywords-3"
  | .indent => "indent"
  | .emptyLinesUntilLevel => "empty-lines-until-level"
  | .lineWidth => "line-width"
  | .recursive => "custom-sort-recursive"
  | .forceQuotes => "force-quotes"
  | .leadingDashes => "leading-dashes"
  | .arrays => "array-processor"
  | .helm => "helm-processor"
  | .octal => "octal-processor"
  | .comments => "comment-processor"

def kind : Field → Command.FlagKind
  | .locale | .schema | .quotingType => .text
  | .keywords1 | .keywords2 | .keywords3 => .texts
  | .indent | .emptyLinesUntilLevel | .lineWidth => .int
  | _ => .bool

/-- What the field is for, as a settings file explains it. -/
def description : Field → Text
  | .locale => "BCP 47 locale used to collate keys"
  | .schema => "schema used to resolve scalars and tags"
  | .quotingType => "quote character for quoted scalars"
  | .keywords1 => "keyword order used by custom sort 1"
  | .keywords2 => "keyword order used by custom sort 2"
  | .keywords3 => "keyword order used by custom sort 3"
  | .indent => "spaces per indentation level"
  | .emptyLinesUntilLevel => "insert a blank line before keys nested less than this depth"
  | .lineWidth => "fold string values longer than this; 0 or less disables folding"
  | .recursive => "apply the custom keyword order at every depth"
  | .forceQuotes => "quote every plain string value"
  | .leadingDashes => "start the output with a document marker"
  | .arrays => "keep inline arrays verbatim"
  | .helm => "shield double-brace template expressions"
  | .octal => "keep octal-looking numbers verbatim"
  | .comments => "move full-line comments together with the line below them"

/-- What the field is for, as its flag explains it. -/
def usage : Field → Text
  | .locale => "locale used to collate keys"
  | .schema => Text.ofString "schema, one of: " ++ Schema.listing
  | .keywords1 => "keyword order for custom sort 1"
  | .keywords2 => "keyword order for custom sort 2"
  | .keywords3 => "keyword order for custom sort 3"
  | .emptyLinesUntilLevel => "insert blank lines before keys nested less than this depth"
  | .lineWidth => "fold string values longer than this (0 disables)"
  | f => f.description

def flag (f : Field) : Command.Flag where
  name := f.flagName
  kind := f.kind
  usage := f.usage

end Field

/-- The value of a field. -/
def get (s : Settings) : Field → Command.FlagValue
  | .locale => .text s.locale
  | .schema => .text s.schema
  | .quotingType => .text s.quotingType
  | .keywords1 => .texts s.keywords1
  | .keywords2 => .texts s.keywords2
  | .keywords3 => .texts s.keywords3
  | .indent => .int s.indent
  | .emptyLinesUntilLevel => .int s.emptyLinesUntilLevel
  | .lineWidth => .int s.lineWidth
  | .recursive => .bool s.recursive
  | .forceQuotes => .bool s.forceQuotes
  | .leadingDashes => .bool s.leadingDashes
  | .arrays => .bool s.arrays
  | .helm => .bool s.helm
  | .octal => .bool s.octal
  | .comments => .bool s.comments

/-- Settings in which every field is empty, 0 or off. -/
def blank : Settings where
  locale := []
  schema := []
  quotingType := []
  indent := 0
  lineWidth := 0
  leadingDashes := false
  arrays := false
  helm := false
  comments := false

/-- The file that settings are read from if no other one is named and it exists. -/
def defaultFile : Text := ".yamlsort.yaml"

def settingsFlag : Command.Flag where
  name := "settings"
  kind := .text
  usage := Text.ofString "settings file (default " ++ defaultFile ++ " when present)"

def reverseFlag : Command.Flag where
  name := "reverse"
  kind := .bool
  usage := "reverse the key order"

/-- All flags that have to do with settings. -/
def flags : List Command.Flag := settingsFlag :: reverseFlag :: Field.all.map Field.flag

end Settings
end YamlOrder
