import YamlOrder.Error
import YamlOrder.Yaml.Node.Compose
import YamlOrder.Yaml.Strict

/-!
This module contains the checks of a document tree: no mapping repeats a key, and every tag that is
written out belongs to the schema.
-/

namespace YamlOrder
namespace Tree

open Yaml

/--
What two keys of a mapping must not share: tag and value. Collections, aliases and merge keys may.
-/
def keyId? : Node → Option Text
  | .scalar i value _ => if i.tag == Tag.merge then none else some (i.tag ++ Text.space :: value)
  | _ => none

/-- The first key that repeats an earlier one, and the line of that one. -/
def repeatedKey? (pairs : List (Node × Node)) : Option (Text × Nat) :=
  go [] pairs
where
  go : List (Text × Nat) → List (Node × Node) → Option (Text × Nat)
    | _, [] => none
    | seen, (k, _) :: rest =>
      match keyId? k with
      | none => go seen rest
      | some id =>
        match seen.find? (·.1 == id) with
        | some (_, line) => some (k.keyText, line)
        | none => go ((id, k.info.line) :: seen) rest

/-- A mapping without repeated keys; any other node passes. -/
def checkKeys : Node → Except Error PUnit
  | .mapping _ _ pairs =>
    match repeatedKey? pairs with
    | some (key, line) => .error (.duplicateKey key line)
    | none => .ok ()
  | _ => .ok ()

/-- A node whose tag is not written out or belongs to the schema. -/
def checkTag (s : Schema) (n : Node) : Except Error PUnit :=
  if n.info.tagged && !s.tags.contains n.tag then .error (.unknownTag n.tag n.info.line s.name)
  else .ok ()

/-- First all keys are checked, then all tags, from the root on. -/
def check (s : Schema) (t : Yaml.Tree) : Except Error PUnit := do
  t.root.preorder.forM checkKeys
  t.root.preorder.forM (checkTag s)

/-- Read a document; nothing if the text has no content. -/
def read (text : Text) : Except Error (Option Yaml.Tree) :=
  (Yaml.Tree.parse text).mapError .invalidYaml

/-- Read a document and check it. -/
def parse (text : Text) (s : Schema) : Except Error (Option Yaml.Tree) := do
  let t ← read text
  t.forM (check s)
  return t

/-- Ask the strict reader about a document before it is read and checked. -/
def parseStrict (text : Text) (s : Schema) : Except Error (Option Yaml.Tree) := do
  unless Yaml.accepts text do
    throw .rejected
  parse text s

end Tree
end YamlOrder
