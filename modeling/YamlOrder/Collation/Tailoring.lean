import YamlOrder.Collation.Segment

/-!
This module contains the tailoring of the common order to a language: rules that give characters,
alone or together, a place right after others.

The common order is never changed. Next to it stand chains of texts that rules have put after its
characters. When all rules are applied, the texts of a chain take the places that follow, one after
the other, without looking whether these places are free.
-/

namespace YamlOrder
namespace Collation

open Root (spellAll)

/-- A step in the writing of an order. -/
inductive Rule where
  /-- What follows comes right after a text. -/
  | after (text : List Char)
  /-- What follows comes right before a text. -/
  | before (text : List Char)
  /-- What follows comes after all characters. -/
  | atEnd
  /--
  A text comes after the one before; the first level on which they differ is given. The elements of
  `extension` are added to those of the text.
  -/
  | next (level : Level) (text extension : List Char)
  deriving Repr

namespace Rule

def isOperator (c : Char) : Bool := c == '&' || c == '<' || c == '=' || c == '/' || c == '['

/-- The text up to the next operator, without blanks. -/
def operand (cs : List Char) : List Char × List Char :=
  ((cs.takeWhile (!isOperator ·)).filter (· != ' '), cs.dropWhile (!isOperator ·))

/-- A text that comes after the one before, with its extension, and the rest. -/
def readNext (level : Level) (cs : List Char) : Rule × List Char :=
  match operand cs with
  | (text, '/' :: rest) =>
    let (extension, rest) := operand rest
    (.next level text extension, rest)
  | (text, rest) => (.next level text [], rest)

/--
The rules as they are written: `&` starts anew, `&[before]` starts before a text, `<`, `<<` and
`<<<` put a text after the one before on the first, second or third level, `=` gives it the same
place, and `/` adds the elements of more characters.
-/
def parse (written : String) : List Rule :=
  go written.length written.toList
where
  go : Nat → List Char → List Rule
    | 0, _ => []
    | fuel + 1, cs =>
      let next (level : Level) (rest : List Char) : List Rule :=
        let (rule, rest) := readNext level rest
        rule :: go fuel rest
      match cs with
      | '&' :: '[' :: rest =>
        let (text, rest) := operand ((rest.dropWhile (· != ']')).drop 1)
        .before text :: go fuel rest
      | '&' :: rest =>
        let (text, rest) := operand rest
        .after text :: go fuel rest
      | '<' :: '<' :: '<' :: rest => next .tertiary rest
      | '<' :: '<' :: rest => next .secondary rest
      | '<' :: rest => next .primary rest
      | '=' :: rest => next .identical rest
      | _ :: rest => go fuel rest
      | [] => []

end Rule

/--
A text that rules have put into the order, and the first level on which it differs from the one
before.
-/
structure Entry where
  level : Level
  text : List Char
  extension : List Char

/--
Texts in a row. They stand after all texts of the common order that have in common with `base` what
does not differ on `level`.
-/
structure Chain where
  level : Level
  base : List Element
  entries : List Entry

namespace Chain

/-- Whether a chain is the one after these elements on this level. -/
def isAfter (c : Chain) (level : Level) (es : List Element) : Bool :=
  c.level == level && Element.common level c.base == Element.common level es

/-- The entries up to one with this text, and those after it. -/
def split? (c : Chain) (text : List Char) : Option (List Entry × List Entry) :=
  if c.entries.any (·.text == text) then
    let front := c.entries.takeWhile (·.text != text)
    some (front ++ (c.entries.drop front.length).take 1, c.entries.drop (front.length + 1))
  else none

/-- The texts of a chain with the elements of their places. -/
def places (c : Chain) : List Contraction :=
  go c.base c.entries
where
  go : List Element → List Entry → List Contraction
    | _, [] => []
    | previous, e :: rest =>
      let elements := Element.next e.level previous
      (e.text, elements ++ e.extension.flatMap Root.elementsOf) :: go elements rest

end Chain

/-- Where the next text is put. -/
inductive Spot where
  /-- After a text of the common order with these elements. -/
  | root (elements : List Element)
  /-- After a text that rules have put into the order. -/
  | entry (text : List Char)
  /-- Before all texts that follow a place of the common order. -/
  | endOf (place : Weight)

/-- How far the rules have been applied. -/
structure Tailoring where
  chains : List Chain := []
  spot : Spot := .root []

namespace Tailoring

def isPlaced (t : Tailoring) (text : List Char) : Bool :=
    t.chains.any fun c => c.entries.any (·.text == text)

/--
The single characters of a text that rules have put into the order, with the elements of their
places.
-/
def placedCharacters (t : Tailoring) (cs : List Char) : List Contraction :=
  let isOne (text : List Char) : Bool := text.length == 1 && text.all cs.contains
  (t.chains.filter fun c => c.entries.any (isOne ·.text)).flatMap fun c =>
    c.places.filter (isOne ·.1)

/-- The elements of a text that rules have not put into the order as a whole. -/
def elementsOf (t : Tailoring) (cs : List Char) : List Element :=
  (pieces ((t.placedCharacters cs).foldl Contractions.put Root.contractions) cs).flatMap
  (·.elements)

/-- The last place before that of a text at which a character of the common order has remained. -/
def placeBefore (t : Tailoring) (cs : List Char) : Weight :=
  let place := ((t.elementsOf cs).head?.map (·.primary)).getD 0
  let before := (Root.places.takeWhile (·.2 < place)).reverse
  ((before.find? fun (c, _) => !t.isPlaced [c]).map (·.2)).getD 0

/-- Change the chain after elements on a level; it is made if there is none. -/
def modify (t : Tailoring) (level : Level) (es : List Element) (f : List Entry → List Entry)
    : Tailoring :=
  if t.chains.any (·.isAfter level es) then
    let change (c : Chain) : Chain :=
      if c.isAfter level es then { c with entries := f c.entries } else c
    { t with chains := t.chains.map change }
  else
    { t with chains := t.chains ++ [⟨level, es, f []⟩] }

/-- Take a text out of all chains. -/
def remove (t : Tailoring) (text : List Char) : Tailoring :=
  let change (c : Chain) : Chain := { c with entries := c.entries.filter (·.text != text) }
  { t with chains := t.chains.map change }

/--
Put an entry behind another one, and behind those that follow it and differ only on deeper levels.
-/
def insertBehind (t : Tailoring) (text : List Char) (e : Entry) : Tailoring :=
  match t.chains.findSome? fun c => (c.split? text).map fun split => (c, split) with
  | none => t
  | some (chain, front, rest) =>
    let isDeeper (other : Entry) : Bool := e.level.depth < other.level.depth
    if e.level.depth < chain.level.depth then
      t.modify e.level chain.base (e :: ·)
    else
      t.modify chain.level chain.base fun _ => front ++ rest.takeWhile isDeeper ++
        e :: rest.dropWhile isDeeper

/-- Apply one rule. -/
def step (t : Tailoring) : Rule → Tailoring
  | .after text =>
    let text := spellAll text
    { t with spot := if t.isPlaced text then .entry text else .root (t.elementsOf text) }
  | .before text => { t with spot := .endOf (t.placeBefore (spellAll text)) }
  | .atEnd => { t with spot := .root [.ofPrimary Root.lastPlace] }
  | .next level text extension =>
    let e : Entry := ⟨level, spellAll text, spellAll extension⟩
    let t := t.remove e.text
    let t := match t.spot with
      | .root es => t.modify level es (e :: ·)
      | .entry text => t.insertBehind text e
      | .endOf place => t.modify .primary [.ofPrimary place] (· ++ [{ e with level := .primary }])
    { t with spot := .entry e.text }

/-- The contractions of a language. -/
def ofRules (rules : List Rule) : Contractions :=
  ((rules.foldl step {}).chains.flatMap (·.places)).foldl Contractions.put Root.contractions

end Tailoring
end Collation
end YamlOrder
