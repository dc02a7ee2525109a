import YamlOrder.Error

/-!
This module contains the settings of a sorter.
-/

namespace YamlOrder

structure Settings where
  locale : Text := "en"
  schema : Text := "default"
  quotingType : Text := "'"
  keywords1 : List Text := []
  keywords2 : List Text := []
  keywords3 : List Text := []
  indent : Int := 2
  emptyLinesUntilLevel : Int := 0
  lineWidth : Int := 500
  recursive : Bool := false
  forceQuotes : Bool := false
  leadingDashes : Bool := true
  arrays : Bool := true
  helm : Bool := true
  octal : Bool := false
  comments : Bool := true
  deriving DecidableEq, Repr, Inhabited

namespace Settings

def singleQuote : Text := "'"

def doubleQuote : Text := "\""

/-- The first setting that cannot be used. -/
def validate (s : Settings) : Except Error PUnit :=
  if s.indent < 1 then .error (.invalidOption (.indent s.indent))
  else if s.emptyLinesUntilLevel <
    0 then .error (.invalidOption (.emptyLines s.emptyLinesUntilLevel))
  else if s.quotingType != singleQuote && s.quotingType != doubleQuote then
    .error (.invalidOption (.quoting s.quotingType))
  else if !(Schema.all.map Schema.name).contains s.schema then
    .error (.invalidOption (.schema s.schema))
  else .ok ()

/-- The keywords of a custom order; only the slots 1, 2 and 3 have any. -/
def keywords (s : Settings) (slot : Int) : List Text :=
  if slot == 1 then s.keywords1
  else if slot == 2 then s.keywords2
  else if slot == 3 then s.keywords3
  else []

/-- The keywords of a list whose entries may hold several, separated by commas. -/
def splitKeywords (entries : List Text) : List Text :=
  (entries.flatMap fun entry => (Text.splitOn 44 entry).map Text.trim).filter (!·.isEmpty)

/-- The settings with every keyword an entry of its own. -/
def normalize (s : Settings) : Settings :=
  { s with
    keywords1 := splitKeywords s.keywords1
    keywords2 := splitKeywords s.keywords2
    keywords3 := splitKeywords s.keywords3 }

end Settings
end YamlOrder
