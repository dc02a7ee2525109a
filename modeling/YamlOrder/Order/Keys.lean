import YamlOrder.Collation.Collator
import YamlOrder.Tree.Arrange

/-!
This module contains the orders of mapping keys: by the rules of a language, or by a list of
keywords.
-/

namespace YamlOrder
namespace Order

open YamlOrder.Tree (Comparator)
open Collation (Collator)

/-- The opposite order, if wanted. -/
def reverseIf (reverse : Bool) (cmp : Comparator) : Comparator :=
  fun a b => if reverse then (cmp a b).swap else cmp a b

/-- The order of a language. -/
def byCollator (c : Collator) : Comparator := c.compare

/-- The place of a key in a list of keywords, the first one if it is listed twice. -/
def position? (keywords : List Text) (key : Text) : Option Nat := keywords.findIdx? (· == key)

/--
Keywords come first, in the order of the list; all other keys are in the order of the fallback.
-/
def byKeywords (keywords : List Text) (fallback : Comparator) : Comparator :=
  fun a b =>
    match position? keywords a, position? keywords b with
    | some i, some j => compare i j
    | some _, none => .lt
    | none, some _ => .gt
    | none, none => fallback a b

/-- The order of a sort: by keywords only if a slot is chosen and keywords apply at every depth. -/
def select (c : Collator) (keywords : List Text) (slot : Int) (recursive reverse : Bool)
    : Comparator :=
  if slot > 0 && recursive then reverseIf reverse (byKeywords keywords (byCollator c))
  else reverseIf reverse (byCollator c)

end Order
end YamlOrder
