import YamlOrder.Schema
import YamlOrder.Shield.Substitution
import YamlOrder.Text.Utf8

/-!
This module contains the choice of scalar styles: quoted scalars get the configured quotes, and
string values may be quoted or folded.
-/

namespace YamlOrder
namespace Tree

open Yaml

/-- The quotes of quoted scalars. -/
inductive Quote where
  | single
  | double
  deriving DecidableEq, Repr, Inhabited

def Quote.style : Quote → ScalarStyle
  | .single => .singleQuoted
  | .double => .doubleQuoted

structure StyleOptions where
  quote : Quote
  lineWidth : Int
  force : Bool

/--
Whether a value stands for an inline sequence or a template expression, which must stay plain.
-/
def isShielded (value : Text) : Bool :=
  (Substitution.tokenStart "array").isPrefixOf value ||
  (Substitution.tokenStart "helm").isPrefixOf value

/-- Whether a value is folded because of its length. -/
def isTooLong (lineWidth : Int) (value : Text) : Bool :=
  lineWidth > 0 && Text.charCount value > lineWidth && !value.contains Text.newline

/-- The style of a scalar. Keys are never quoted or folded anew. -/
def restyle (s : Schema) (o : StyleOptions) (isKey : Bool) (info : NodeInfo) (value : Text)
    (style : ScalarStyle) : ScalarStyle :=
  match style with
  | .singleQuoted => o.quote.style
  | .doubleQuoted => o.quote.style
  | .literal => .literal
  | .folded => .folded
  | .plain =>
    if isKey || s.resolve info value .plain != Tag.str || isShielded value then .plain
    else if isTooLong o.lineWidth value then .folded
    else if o.force then o.quote.style
    else .plain

mutual

def styleNode (s : Schema) (o : StyleOptions) (isKey : Bool) : Node → Node
  | .scalar i value style => .scalar i value (restyle s o isKey i value style)
  | .sequence i flow items => .sequence i flow (styleItems s o items)
  | .mapping i flow pairs => .mapping i flow (stylePairs s o pairs)
  | .alias i name target => .alias i name target

def styleItems (s : Schema) (o : StyleOptions) : List Node → List Node
  | [] => []
  | n :: rest => styleNode s o false n :: styleItems s o rest

def stylePairs (s : Schema) (o : StyleOptions) : List (Node × Node) → List (Node × Node)
  | [] => []
  | (k, v) :: rest => (styleNode s o true k, styleNode s o false v) :: stylePairs s o rest

end

/-- The tree with all scalars in their style. -/
def applyStyles (s : Schema) (o : StyleOptions) (t : Yaml.Tree) : Yaml.Tree :=
  { t with root := styleNode s o false t.root }

end Tree
end YamlOrder
