import YamlOrder.Json.Basic

/-!
This module contains what is known about the build of the program.
-/

namespace YamlOrder

/-- Facts about a build. Those that are not known are empty. -/
structure BuildInfo where
  version : Text := []
  revision : Text := []
  branch : Text := []
  user : Text := []
  date : Text := []
  compiler : Text := []
  system : Text := []
  architecture : Text := []
  deriving DecidableEq, Repr, Inhabited

namespace BuildInfo

/-- The version, or the word for a build without one. -/
def versionName (i : BuildInfo) : Text := if i.version.isEmpty then "devel" else i.version

def platform (i : BuildInfo) : Text := i.system ++ 47 :: i.architecture

/-- A phrase, unless what it is about is not known. -/
def phrase (fact : Text) (words : Text) : Text := if fact.isEmpty then [] else words ++ fact

/-- The facts on one line. Who made a build is told only together with its date. -/
def summary (i : BuildInfo) : Text :=
  let built := phrase i.date ", built " ++ if i.date.isEmpty then [] else phrase i.user " by "
  Text.ofString "yamlsort " ++ i.versionName ++ " (revision " ++ i.revision ++
    phrase i.branch ", branch " ++
    built ++ ", " ++ i.compiler ++ " " ++ i.platform ++ ")"

/-- A field, also if it is empty. -/
def field (name value : Text) : List (Text × Json.Value) := [(name, .text value)]

/-- A field, unless it is empty. -/
def fieldIfKnown (name value : Text) : List (Text × Json.Value) :=
  if value.isEmpty then [] else field name value

/-- The facts as an object. -/
def toJson (i : BuildInfo) : Json.Value :=
  .object (field "version" i.versionName ++ field "revision" i.revision ++
    fieldIfKnown "branch" i.branch ++ fieldIfKnown "buildUser" i.user ++
    fieldIfKnown "buildDate" i.date ++
    field "goVersion" i.compiler ++ field "platform" i.platform)

end BuildInfo
end YamlOrder
