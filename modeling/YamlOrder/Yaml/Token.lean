import YamlOrder.Yaml.Fault

/-!
This module contains the tokens and the events of a YAML stream, and the comments found between
them.
-/

namespace YamlOrder
namespace Yaml

/-- How a scalar is written. -/
inductive ScalarStyle where
  | plain
  | singleQuoted
  | doubleQuoted
  | literal
  | folded
  deriving DecidableEq, Repr, Inhabited

inductive TokenKind where
  | streamStart
  | streamEnd
  | versionDirective (major minor : Nat)
  | tagDirective (handle start : Text)
  | documentStart
  | documentEnd
  | blockSequenceStart
  | blockMappingStart
  | blockEnd
  | flowSequenceStart
  | flowSequenceEnd
  | flowMappingStart
  | flowMappingEnd
  | blockEntry
  | flowEntry
  | key
  | value
  | alias (name : Text)
  | anchor (name : Text)
  | tag (handle suffix : Text)
  | scalar (value : Text) (style : ScalarStyle)
  deriving DecidableEq, Repr, Inhabited

structure Token where
  kind : TokenKind
  first : Mark
  last : Mark
  deriving DecidableEq, Repr, Inhabited

/--
A run of comment lines. `token` is the position from which on a token takes the comment, `scan` the
position at which the search for it began.
-/
structure Comment where
  scan : Mark := {}
  token : Mark := {}
  first : Mark := {}
  last : Mark := {}
  head : Text := []
  line : Text := []
  foot : Text := []
  deriving DecidableEq, Repr, Inhabited

/-- The comments of a place: above it, on its line, and below it. -/
structure Remarks where
  head : Text := []
  line : Text := []
  foot : Text := []
  deriving DecidableEq, Repr, Inhabited

namespace Remarks

/-- One more comment below the ones that are there. -/
def join (old new : Text) : Text :=
  if new.isEmpty then old else if old.isEmpty then new else old ++ Text.newline :: new

def add (r : Remarks) (c : Comment) : Remarks where
  head := join r.head c.head
  line := join r.line c.line
  foot := join r.foot c.foot

end Remarks

/-- A token with the comments that become known when it is reached. -/
structure TokenItem where
  token : Token
  comments : List Comment
  deriving Repr, Inhabited

/-- The tokens of a stream in order, and the fault that ends them early. -/
structure TokenStream where
  items : List TokenItem
  fault : Option Fault
  deriving Repr

/-- An empty anchor or tag stands for none. -/
inductive EventKind where
  | streamStart
  | streamEnd
  | documentStart
  | documentEnd
  | alias (name : Text)
  | scalar (anchor tag value : Text) (style : ScalarStyle)
  | sequenceStart (anchor tag : Text) (flow : Bool)
  | sequenceEnd
  | mappingStart (anchor tag : Text) (flow : Bool)
  | mappingEnd
  deriving DecidableEq, Repr, Inhabited

structure Event where
  kind : EventKind
  mark : Mark
  remarks : Remarks := {}
  deriving DecidableEq, Repr, Inhabited

/--
The events of a stream up to the end of its first document, and the fault that ends them early.
-/
structure EventStream where
  events : List Event
  fault : Option Fault
  deriving Repr

end Yaml
end YamlOrder
