/-!
This module contains the weights by which texts are compared: a text becomes a list of elements, and
each element has a weight on three levels.
-/

namespace YamlOrder
namespace Collation

/-- A place in an order. Place 0 means that there is nothing to compare. -/
abbrev Weight := Nat

/--
Letters differ on the first level, marks on the second, and the forms of letters on the third.
-/
structure Element where
  primary : Weight
  secondary : Weight
  tertiary : Weight
  deriving DecidableEq, Repr, Inhabited

/-- The second weight of everything without a mark. -/
def commonSecondary : Weight := 32

/-- The third weight of everything that has no special form. -/
def commonTertiary : Weight := 2

/-- The place of capitals on the third level. -/
def capitalTertiary : Weight := 8

/-- The first level on which two neighbours of an order differ. -/
inductive Level where
  | primary
  | secondary
  | tertiary
  | identical
  deriving DecidableEq, Repr

/-- The number of levels before a level. -/
def Level.depth : Level → Nat
  | .primary => 0
  | .secondary => 1
  | .tertiary => 2
  | .identical => 3

namespace Element

/-- The element of a character with a place of its own. -/
def ofPrimary (p : Weight) : Element := ⟨p, commonSecondary, commonTertiary⟩

/-- The element of a mark. -/
def ofMark (s : Weight) : Element := ⟨0, s, commonTertiary⟩

/-- The element in another form. -/
def withTertiary (t : Weight) (e : Element) : Element := { e with tertiary := t }

/-- The elements at the next place on a level. Only what counts up to that level is kept. -/
def next (level : Level) : List Element → List Element
  | [] => []
  | e :: rest =>
    match level with
    | .primary => [.ofPrimary (e.primary + 1)]
    | .secondary => ⟨e.primary, e.secondary + 1, commonTertiary⟩ :: rest.filter (·.primary != 0)
    | .tertiary =>
      { e with tertiary := e.tertiary + 1 } :: rest.filter fun e => e.primary != 0 ||
        e.secondary != 0
    | .identical => e :: rest

/-- What elements have in common with all that differ from them on a level first. -/
def common (level : Level) (es : List Element) : List Element :=
  match level with
  | .primary => (es.filter (·.primary != 0)).map fun e => ⟨e.primary, 0, 0⟩
  | .secondary =>
    (es.filter fun e => e.primary != 0 || e.secondary != 0).map fun e => { e with tertiary := 0 }
  | .tertiary | .identical => es

end Element
end Collation
end YamlOrder
