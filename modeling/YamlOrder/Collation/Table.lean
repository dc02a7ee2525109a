import Std.Data.HashMap
import YamlOrder.Collation.Element
import YamlOrder.Collation.Root.Compound
import YamlOrder.Collation.Root.Forms
import YamlOrder.Collation.Root.Order
import YamlOrder.Collation.Root.Spelling

/-!
This module contains the elements of characters in the common order, and the spelling of characters
as letters and marks.
-/

namespace YamlOrder
namespace Collation
namespace Root

/-- The characters from one to another. -/
def charRange (first last : Char) : List Char :=
  (List.range (last.toNat + 1 - first.toNat)).map fun i => Char.ofNat (first.toNat + i)

/-- The characters that a short form means. -/
def expand : List Char → List Char
  | '\\' :: c :: rest => c :: expand rest
  | a :: '-' :: '\\' :: b :: rest => charRange a b ++ expand rest
  | a :: '-' :: b :: rest => charRange a b ++ expand rest
  | c :: rest => c :: expand rest
  | [] => []

def expandAll (pieces : List String) : List Char := pieces.flatMap fun s => expand s.toList

/-- The words of lines: each is a character and what it is made of. -/
def words (lines : List String) : List (Char × List Char) :=
  lines.flatMap fun line => (line.splitOn " ").filterMap fun word =>
    match word.toList with
    | c :: rest => some (c, rest)
    | [] => none

/-- What belongs to characters, by their code points. -/
abbrev CharMap (α : Type) := Std.HashMap Nat α

namespace CharMap

def put {α : Type} (m : CharMap α) (c : Char) (a : α) : CharMap α := m.insert c.toNat a

def find? {α : Type} (m : CharMap α) (c : Char) : Option α := m[c.toNat]?

def findD {α : Type} (m : CharMap α) (c : Char) (default : α) : α := m.getD c.toNat default

end CharMap

/-- Whether a character is a Chinese one of the common range. -/
def isCommonHan (n : Nat) : Bool := (0x4E00 ≤ n && n ≤ 0x9FFF) || (0xF900 ≤ n && n ≤ 0xFAD9)

/-- Whether a character stands for a word or syllable and belongs to a rare range. -/
def isRareHan (n : Nat) : Bool :=
  [ (0x3006, 0x3007), (0x3021, 0x3029), (0x3038, 0x303A), (0x3400, 0x4DBF), (0x16FE4, 0x16FE4),
    (0x17000, 0x187F7), (0x18800, 0x18CD5), (0x18D00, 0x18D08), (0x1B170, 0x1B2FB),
    (0x20000, 0x2A6DF),
    (0x2A700, 0x2B739), (0x2B740, 0x2B81D), (0x2B820, 0x2CEA1), (0x2CEB0, 0x2EBE0),
    (0x2F800, 0x2FA1D),
    (0x30000, 0x3134A), (0x31350, 0x323AF) ].any fun (first, last) => first ≤ n && n ≤ last

/--
Characters without a place in the tables come after all others, in the order of their code points:
common Chinese, rare Chinese, the rest.
-/
def implicitPrimary (c : Char) : Weight :=
  let n := c.toNat
  n + if isCommonHan n then 0x10000 else if isRareHan n then 0x20000 else 0x50000

/-- The place after those of all characters. -/
def lastPlace : Weight := 0x160000

/-- The elements of characters. -/
abbrev Elements := CharMap (List Element)

/-- The elements of a character. -/
def Elements.ofChar (m : Elements) (c : Char) : List Element :=
    m.findD c [.ofPrimary (implicitPrimary c)]

/-- The first place. Smaller numbers are left to the counts of digits. -/
def firstPlace : Weight := 513

/-- The characters with a place of their own and their places. -/
def places : List (Char × Weight) :=
  let wide : CharMap Unit := (expandAll spaced).foldl (fun m c => m.put c ()) {}
  ((expandAll order).foldl (fun (found, place) c =>
    ((c, place) :: found, place + if (wide.find? c).isSome then 4 else 1))
      ([], firstPlace)).1.reverse

def addOrder (m : Elements) : Elements := places.foldl (fun m (c, p) => m.put c [.ofPrimary p]) m

/-- All marks in their order: those of characters, then the invented ones. -/
def allMarks : List Char := expandAll marks ++ inventedMarks

/-- Marks follow the common second weight. -/
def markWeight (i : Nat) : Weight := commonSecondary + 1 + i

def addMarks (m : Elements) : Elements :=
  let m := allMarks.zipIdx.foldl (fun m (c, i) => m.put c [.ofMark (markWeight i)]) m
  ((expandAll sameMarks.1).zip (expandAll sameMarks.2)).foldl
    (fun m (c, d) => m.put c (m.ofChar d)) m

def addIgnorable (m : Elements) : Elements :=
  (expandAll ignorable).foldl (fun m c => m.put c []) m

/-- The digits of a further script are told apart from the common ones on the second level. -/
def addDigits (m : Elements) : Elements :=
  (expandAll zeros).zipIdx.foldl (fun m (zero, i) =>
    (List.range 10).foldl (fun m d =>
      let digit := m.ofChar (Char.ofNat ('0'.toNat + d))
      m.put (Char.ofNat (zero.toNat + d)) (digit ++ [.ofMark (markWeight (allMarks.length + i))]))
        m) m

def addForms (m : Elements) : Elements :=
  forms.foldl (fun m (t, cs, ds) =>
    ((expandAll cs).zip (expandAll ds)).foldl (fun m (c, d) =>
      m.put c ((m.ofChar d).map (Element.withTertiary t))) m) m

/-- The place of everything after the second part of a compound on the third level. -/
def laterTertiary : Weight := 31

/-- An element as part of a compound, by its position. -/
def compoundElement (small capital : Nat) (e : Element) (i : Nat) : Element :=
  e.withTertiary <|
    if small != commonTertiary && 2 ≤ i then laterTertiary
    else if e.tertiary == capitalTertiary then capital
    else small

def addCompounds (m : Elements) : Elements :=
  compounds.foldl (fun m (small, capital, lines) =>
    (words lines).foldl (fun m (c, parts) =>
      m.put c ((parts.flatMap m.ofChar).zipIdx.map fun (e, i) => compoundElement small capital e i))
        m) m

/-- The elements of all characters of the common order. -/
def elements : Elements :=
  addCompounds (addForms (addDigits (addIgnorable (addMarks (addOrder {})))))

/-- The elements of one character. -/
def elementsOf (c : Char) : List Element := elements.ofChar c

/-- What characters are spelled as. -/
def spelled : CharMap (List Char) :=
  let m := (words spellings).foldl (fun m (c, parts) => m.put c parts) {}
  ((expandAll sameHan.1).zip (expandAll sameHan.2)).foldl (fun m (c, d) => m.put c [d]) m

/-- The class of a mark; 0 for a character that is no mark. -/
def markClass : CharMap Nat :=
  markClasses.foldl (fun m (k, cs) => (expandAll cs).foldl (fun m c => m.put c k) m) {}

/-- Syllables of Korean are spelled as two or three letters. -/
def spellHangul? (c : Char) : Option (List Char) :=
  let n := c.toNat
  if 0xAC00 ≤ n && n ≤ 0xD7A3 then
    let i := n - 0xAC00
    let last := i % 28
    some ([Char.ofNat (0x1100 + i / 588), Char.ofNat (0x1161 + i % 588 / 28)] ++
      if last == 0 then [] else [Char.ofNat (0x11A7 + last)])
  else
    none

/-- The letters that can be spelled out and have a place of their own, spelled out. -/
def wholeLetterSpellings : CharMap (List Char) :=
  (words wholeLetters).foldl (fun m (c, parts) => m.put c parts) {}

def spell (c : Char) : List Char :=
  (((spellHangul? c).orElse fun _ => spelled.find? c).orElse fun _ =>
  wholeLetterSpellings.find? c).getD [c]

def classOf (c : Char) : Nat := markClass.findD c 0

/-- Put a mark behind all marks whose class is not greater. -/
def insertMark (c : Char) : List Char → List Char
  | [] => [c]
  | d :: rest => if classOf d > classOf c then c :: d :: rest else d :: insertMark c rest

/-- The characters with each run of marks in the order of their classes. -/
def sortMarks (cs : List Char) : List Char :=
  go cs []
where
  go : List Char → List Char → List Char
    | [], run => run
    | c :: rest, run => if classOf c == 0 then run ++ c :: go rest []
        else go rest (insertMark c run)

/-- A text spelled as letters and marks, in the order in which they count. -/
def spellAll (cs : List Char) : List Char := sortMarks (cs.flatMap spell)

/-- Vowels of Thai, Lao and their neighbours that are written before the consonant they follow. -/
def isPrevowel (c : Char) : Bool :=
  let n := c.toNat
  (0xE40 ≤ n && n ≤ 0xE44) || (0xEC0 ≤ n && n ≤ 0xEC4) || (0x19B5 ≤ n && n ≤ 0x19B7) ||
    n == 0x19BA ||
    (0xAAB5 ≤ n && n ≤ 0xAAB6) || n == 0xAAB9 || (0xAABB ≤ n && n ≤ 0xAABC)

/-- The consonants that change places with such a vowel. -/
def isConsonantAfterPrevowel (c : Char) : Bool :=
  let n := c.toNat
  (0xE01 ≤ n && n ≤ 0xE2E) || (0xE81 ≤ n && n ≤ 0xEAE) || (0xEDC ≤ n && n ≤ 0xEDF) ||
    (0x1980 ≤ n && n ≤ 0x19AB) || (0xAA80 ≤ n && n ≤ 0xAAAF)

end Root
end Collation
end YamlOrder
