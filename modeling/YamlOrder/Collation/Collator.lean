import YamlOrder.Collation.Han.Jis
import YamlOrder.Collation.Han.Pinyin
import YamlOrder.Collation.Han.Reading
import YamlOrder.Collation.Han.Stroke
import YamlOrder.Collation.Rules
import YamlOrder.Language.Tag

/-!
This module contains the comparison of texts by the rules of a language: the choice of an order by
the language, the script and the name that a tag may hold, the key that each text has under it, and
the comparison of keys, level after level.
-/

namespace YamlOrder
namespace Collation

open YamlOrder.Language (Tag TagFault)
open Root (CharMap)

/-- The orders that Chinese characters have in some languages. -/
inductive HanOrder where
  /-- By their pronunciation. -/
  | pinyin
  /-- By the number of their strokes. -/
  | stroke
  /-- By their place in the character set of Japanese. -/
  | jis
  /-- Each after the syllable of Korean as which it is read. -/
  | reading
  deriving DecidableEq, Repr

namespace HanOrder

/-- Characters in a row after all others. -/
def afterAll (order : List String) (m : Contractions) : Contractions :=
  (Root.expandAll order).zipIdx.foldl
  (fun m (c, i) => m.put ([c], [.ofPrimary (Root.lastPlace + 1 + i)])) m

/-- The characters that are read like a syllable follow it one by one on the second level. -/
def afterSyllable (m : Contractions) (syllable : Char) (cs : List Char) : Contractions :=
  (cs.foldl (fun (m, es) c =>
      let es := Element.next .secondary es
      (Contractions.put m ([c], es), es))
    (m, (Root.spell syllable).flatMap Root.elementsOf)).1

/-- Add Chinese characters in an order. -/
def addTo (m : Contractions) : HanOrder → Contractions
  | .pinyin => afterAll Han.pinyin m
  | .stroke => afterAll Han.stroke m
  | .jis => afterAll Han.jis m
  | .reading => (Root.words Han.readings).foldl
      (fun m (syllable, cs) => afterSyllable m syllable cs) m

end HanOrder

/-- How a language changes the common order. -/
structure LanguageOrder where
  rules : List Rule := []
  han? : Option HanOrder := none

namespace LanguageOrder

/-- What the characters of a language have in its order. -/
def contractions (o : LanguageOrder) : Contractions :=
  let m := if o.rules.isEmpty then Root.contractions else Tailoring.ofRules o.rules
  match o.han? with
  | some han => han.addTo m
  | none => m

/-- Single languages of a group, and the language whose rules the group has. -/
def groups : List (String × String) := [
  ("als", "sq"), ("arb", "ar"), ("azj", "az"), ("cmn", "zh"), ("ekk", "et"), ("gaz", "om"),
  ("knn", "kok"),
  ("lvs", "lv"), ("nb", "no"), ("ory", "or"), ("pbu", "ps"), ("pes", "fa")]

/-- The language whose rules a tag asks for. -/
def ruleLanguage (t : Tag) : String :=
    ((groups.find? (·.1 == t.language)).map (·.2)).getD t.language

/-- The regions where a language is not written in its usual script, and the script. -/
def regionalScripts : List (String × List String × String) := [
  ("sr", ["ME", "RO", "TR"], "Latn"),
  ("zh", ["AU", "BN", "GB", "GF", "HK", "ID", "MO", "MY", "PA", "PF", "PH", "SR", "TH", "TW",
  "US", "VN"],
    "Hant")]

/-- The script of a tag, or else the one that its region writes the language in. -/
def scriptOf (t : Tag) : String :=
  if t.script != "" then t.script
  else match regionalScripts.find? fun (language, regions, _) =>
      language == ruleLanguage t && regions.contains t.region with
    | some (_, _, script) => script
    | none => ""

/-- The order of Chinese characters that a tag asks for. -/
def hanOf? (t : Tag) : Option HanOrder :=
  match ruleLanguage t with
  | "ja" => some .jis
  | "ko" => some .reading
  | "zh" =>
    some (if t.typeOf? "co" == some "stroke" || scriptOf t == "Hant" then .stroke else .pinyin)
  | _ => none

/--
The rules of a tag. Serbian in Latin letters is ordered like Croatian, and Bosnian in Cyrillic
letters like Serbian.
-/
def rulesOf (t : Tag) : List Rule :=
  let language := ruleLanguage t
  let named := (t.typeOf? "co").bind fun order => Rules.variants.find? (·.1 == (language, order))
  if language == "en" && t.region == "US" && t.typeOf? "va" == some "posix" then
    Rules.ascii
  else if language == "ja" then
    Rules.japanese
  else if let some (_, rules) := named then
    Rule.parse rules
  else if language == "sr" && scriptOf t == "Latn" then
    Rule.parse Rules.croatian
  else if language == "bs" && t.script == "Cyrl" then
    []
  else
    match Rules.languages.find? (·.1 == language) with
    | some (_, rules) => Rule.parse rules
    | none => []

/-- The order of a tag. -/
def ofTag (t : Tag) : LanguageOrder := ⟨rulesOf t, hanOf? t⟩

end LanguageOrder

/-- How texts are compared. -/
structure Collator where
  tag : Tag
  contractions : Contractions
  /-- Digits in a row count as one number. -/
  numeric : Bool
  /-- Marks are compared from the end of the text. -/
  backwards : Bool
  /-- Only signs that are left out of the comparison would count, and they are not kept. -/
  shifted : Bool
  secondary : Bool
  tertiary : Bool
  /-- Texts that are equal on all levels are compared byte by byte. -/
  identical : Bool

/-- What texts are compared by: the weights of each level. -/
abbrev Key := List (List Weight)

/-- Keys are compared level by level, levels weight by weight. -/
def Key.compare : Key → Key → Ordering := List.compareLex (List.compareLex Ord.compare)

namespace Collator

/-- Whether a setting of a tag is switched on. -/
def isOn (t : Tag) (key : String) : Bool := t.typeOf? key == some "true"

/-- The collator of a tag, with the settings that the tag makes. -/
def ofTag (t : Tag) : Collator where
  tag := t
  contractions := (LanguageOrder.ofTag t).contractions
  numeric := isOn t "kn"
  backwards := isOn t "kb"
  shifted := t.typeOf? "ka" == some "shifted"
  secondary := t.typeOf? "ks" != some "level1"
  tertiary := (t.typeOf? "ks" != some "level1" && t.typeOf? "ks" != some "level2") || isOn t "kc"
  identical := t.typeOf? "ks" == some "identic"

/-- The collator of a locale. A locale that is no language tag has the common order. -/
def ofLocale (locale : Text) : Collator := ofTag ((Tag.parse locale).toOption.getD {})

/-- The place of a digit. -/
def digitPlace (d : Nat) : Weight :=
  ((Root.elementsOf (Char.ofNat ('0'.toNat + d))).head?.map (·.primary)).getD 0

/-- Whether a character is a digit of a decimal system. -/
def isDecimalDigit (c : Char) : Bool :=
  let n := c.toNat
  c.isDigit || (0xFF10 ≤ n && n ≤ 0xFF19) || (0x1D7CE ≤ n && n ≤ 0x1D7FF) ||
    (Root.expandAll Root.zeros).any fun zero => zero.toNat ≤ n && n ≤ zero.toNat + 9

/-- The forms of digits from wide ones to lowered ones, on the third level. -/
def isDigitForm (t : Weight) : Bool := 3 ≤ t && t ≤ 21

/--
The value of a piece that is a digit. A digit in a special form counts as one only in a number whose
first character is a digit of a decimal system.
-/
def digit? (first : Char) (p : Piece) : Option Nat :=
  match p.elements with
  | e :: rest =>
    if rest.all (·.primary == 0) && e.secondary == commonSecondary &&
        (e.tertiary == commonTertiary || (isDigitForm e.tertiary && isDecimalDigit first)) then
      (List.range 10).find? fun d => digitPlace d == e.primary
    else none
  | [] => none

/--
The elements of a number: a start right after the digit nine, the count of its digits, and the
digits.
-/
def numberElements (digits : List Piece) : List Element :=
  .ofPrimary (digitPlace 9 + 1) :: .ofPrimary digits.length :: digits.flatMap (·.elements)

/-- A number that is being read: its first character, and its digits without zeros at the start. -/
structure NumberRun where
  first : Char
  digits : List Piece

/-- The elements of pieces with every row of digits as one number. -/
def numberPieces (ps : List Piece) : List Element :=
  go ps none
where
  go : List Piece → Option NumberRun → List Element
    | [], none => []
    | [], some run => numberElements run.digits
    | p :: rest, none =>
      match digit? p.first p with
      | some d => go rest (some ⟨p.first, if d == 0 then [] else [p]⟩)
      | none => p.elements ++ go rest none
    | p :: rest, some run =>
      match digit? run.first p with
      | some d =>
        go rest (some ⟨run.first, if d == 0 && run.digits.isEmpty then [] else run.digits ++ [p]⟩)
      | none => numberElements run.digits ++ p.elements ++ go rest none

/-- The elements of a text. -/
def elements (c : Collator) (text : Text) : List Element :=
  let ps := pieces c.contractions (Root.spellAll (Text.toChars text))
  if c.numeric then numberPieces ps else ps.flatMap (·.elements)

/-- The weights of one level, without those that are empty. -/
def level (f : Element → Weight) (es : List Element) : List Weight := (es.map f).filter (· != 0)

/-- The key of a text. -/
def key (c : Collator) (text : Text) : Key :=
  let es := if c.shifted then [] else c.elements text
  let marks := level (·.secondary) es
  [ level (·.primary) es,
    if c.secondary then (if c.backwards then marks.reverse else marks) else [],
    if c.tertiary then level (·.tertiary) es else [],
    if c.identical then text.map (·.toNat) else [] ]

/-- Which of two texts comes first. -/
def compare (c : Collator) (a b : Text) : Ordering := Key.compare (c.key a) (c.key b)

end Collator
end Collation
end YamlOrder
