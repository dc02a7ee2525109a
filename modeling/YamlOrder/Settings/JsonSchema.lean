import YamlOrder.Json.Basic
import YamlOrder.Settings.Field

/-!
This module contains the description of settings files in the JSON Schema language.
-/

namespace YamlOrder
namespace Settings

namespace Field

/-- The type of a field, and of its items if it is a list. -/
def typeProperties (f : Field) : List (Text × Json.Value) :=
  match f.kind with
  | .bool => [("type", .text "boolean")]
  | .int => [("type", .text "integer")]
  | .texts =>
    [("type", .list [.text "null", .text "array"]), ("items", .object [("type", .text "string")])]
  | _ => [("type", .text "string")]

/-- The default of a field; one that is empty, 0 or off is not told. -/
def defaultProperty (f : Field) : List (Text × Json.Value) :=
  match ({} : Settings).get f with
  | .text t => if t.isEmpty then [] else [("default", .text t)]
  | .int n => if n == 0 then [] else [("default", .int n)]
  | .bool b => if b then [("default", .bool true)] else []
  | _ => []

/-- The bounds of a field, or the values that it can have. -/
def limitProperties : Field → List (Text × Json.Value)
  | .schema => [("enum", .list (Schema.all.map (.text ·.name)))]
  | .quotingType => [("enum", .list [.text singleQuote, .text doubleQuote])]
  | .indent => [("minimum", .int 1)]
  | .emptyLinesUntilLevel => [("minimum", .int 0)]
  | _ => []

def jsonSchema (f : Field) : Json.Value :=
  let description : List (Text × Json.Value) := [("description", .text f.description)]
  .object (f.typeProperties ++ description ++ f.defaultProperty ++ f.limitProperties)

end Field

/-- The schema of a settings file. -/
def jsonSchema : Json.Value :=
  .object [
    ("type", .text "object"),
    ("properties", .object (Field.all.map fun f => (f.key, f.jsonSchema))),
    ("$schema", .text "https://json-schema.org/draft/2020-12/schema"),
    ("title", .text "yamlsort settings"),
    ("additionalProperties", .bool false)]

end Settings
end YamlOrder
