import YamlOrder.Collation.Table

/-!
This module contains the division of a spelled text into pieces that have elements: single
characters and contractions, which are characters that count together.
-/

namespace YamlOrder
namespace Collation

open Root (CharMap classOf)

/-- Characters that count together, and their elements. -/
abbrev Contraction := List Char × List Element

/--
The characters and contractions that a language orders in its own way, by the first character. What
is not listed has the elements of the common order.
-/
abbrev Contractions := CharMap (List Contraction)

namespace Contractions

/-- The contractions that start with a character. -/
def startingWith (m : Contractions) (c : Char) : List Contraction := m.findD c []

/-- Add a contraction in place of one with the same characters. -/
def put (m : Contractions) (entry : Contraction) : Contractions :=
  match entry.1 with
  | [] => m
  | c :: _ => CharMap.put m c (entry :: (m.startingWith c).filter (·.1 != entry.1))

end Contractions

namespace Root

/-- The spellings of the characters that have a place of their own. -/
def contractions : Contractions :=
  let entries : List Contraction := (words wholeLetters).map fun (c, parts) => (parts, elementsOf c)
  let more : List Contraction := [
    (['l', '·'], elementsOf 'ŀ'), (['L', '·'], elementsOf 'Ŀ'),
    (['\u0fb2', '\u0f71', '\u0f80'], elementsOf '\u0f77'),
    (['\u0fb3', '\u0f71', '\u0f80'], elementsOf '\u0f79')]
  (entries ++ more).foldl Contractions.put {}

end Root

/-- The longest of the contractions that a text starts with. -/
def longest? (cs : List Char) (entries : List Contraction) : Option Contraction :=
  entries.foldl (fun best c =>
    if c.1.isPrefixOf cs && best.all fun (b : Contraction) => b.1.length <
      c.1.length then some c else best)
    none

/--
The longest contraction that the marks after `matched` complete. A mark may be skipped, but then no
mark whose class is not greater can be taken. The result holds the elements and the skipped marks
with all that follows.
-/
def takeMarks (entries : List Contraction) (matched : List Char) (found : List Element)
    (last : Nat)
    : List Char → List Element × List Char
  | [] => (found, [])
  | d :: rest =>
    if classOf d == 0 then (found, d :: rest)
    else if classOf d ≤ last then
      let (found, rest) := takeMarks entries matched found last rest
      (found, d :: rest)
    else
      match entries.find? (·.1 == matched ++ [d]) with
      | some (_, elements) => takeMarks entries (matched ++ [d]) elements last rest
      | none =>
        let (found, rest) := takeMarks entries matched found (classOf d) rest
        (found, d :: rest)

/-- The elements of the characters that a text starts with, and the rest. -/
def firstElements (m : Contractions) (c : Char) (rest : List Char) : List Element × List Char :=
  let entries := m.startingWith c
  match longest? (c :: rest) entries with
  | some (cs, elements) => takeMarks entries cs elements 0 ((c :: rest).drop cs.length)
  | none =>
    match rest with
    | d :: rest' =>
      if Root.isPrevowel c && Root.isConsonantAfterPrevowel d then
        (Root.elementsOf d ++ Root.elementsOf c, rest')
      else
        takeMarks entries [c] (Root.elementsOf c) 0 rest
    | [] => (Root.elementsOf c, [])

/-- The elements of the characters that count together, and the first of these characters. -/
structure Piece where
  first : Char
  elements : List Element

/-- The pieces of a spelled text. Each takes at least one character. -/
def pieces (m : Contractions) (cs : List Char) : List Piece :=
  go cs.length cs
where
  go : Nat → List Char → List Piece
    | 0, _ => []
    | _, [] => []
    | fuel + 1, c :: rest =>
      let (elements, rest) := firstElements m c rest
      ⟨c, elements⟩ :: go fuel rest

end Collation
end YamlOrder
