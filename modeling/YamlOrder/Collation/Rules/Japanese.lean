import YamlOrder.Collation.Tailoring

/-!
This module contains the rules of Japanese: the two syllabaries and the narrow and wide forms of
characters count the same, the sign for a long vowel counts as that vowel, and the sign for a
repeated syllable as that syllable.
-/

namespace YamlOrder
namespace Collation
namespace Rules
namespace Japanese

/-- The second character has the place of the first. -/
def same (a b : Char) : List Rule := [.after [a], .next .identical [b] []]

def sameAll (pairs : List (Char × Char)) : List Rule := pairs.flatMap fun (a, b) => same a b

/-- The wide forms of signs, digits and letters. The wide backslash counts as an apostrophe. -/
def wideForms : List Rule :=
  sameAll ([(' ', '　'), (' ', '￣')] ++
    (Root.charRange '!' '~').map
    (fun c => (if c == '\\' then '\'' else c, Char.ofNat (c.toNat + 0xFEE0))) ++
    "¢£¬¦¥₩".toList.zip "￠￡￢￤￥￦".toList)

/-- Katakana and their narrow forms. -/
def narrowForms : List (Char × Char) :=
  ("。「」、・ヲァィゥェォャュョッーアイウエオカキクケコサシスセソタチツテトナニヌネノハヒフヘホマミムメモヤユヨラリルレロワン".toList ++
    ['\u3099', '\u309a']).zip (Root.charRange '｡' 'ﾟ') ++
    "│←↑→↓■○".toList.zip (Root.charRange '￨' '￮')

/-- The Hiragana letter for a Katakana letter. -/
def hiragana? (c : Char) : Option Char :=
  if 'ァ' ≤ c && c ≤ 'ヶ' then some (Char.ofNat (c.toNat - 0x60)) else none

/-- Katakana that are spelled with one letter, and their Hiragana. -/
def syllabaries : List (Char × Char) :=
  ((Root.charRange 'ァ' 'ヶ').filter fun c => Root.spell c == [c]).filterMap fun c =>
    (hiragana? c).map fun h => (c, h)

/-- The Katakana with each vowel, by the small letter of the vowel. -/
def rows : List (Char × String) := [
  ('ァ', "ァアカガサザタダナハバパマャヤラヮワヷヵㇵㇻ"),
  ('ィ', "ィイキギシジチヂニヒビピミリヰヸㇱㇶㇼ"),
  ('ゥ', "ゥウクグスズッツヅヌフブプムュユルヴㇰㇲㇴㇷㇺㇽ"),
  ('ェ', "ェエケゲセゼテデネヘベペメレヱヹヶㇸㇾ"),
  ('ォ', "ォオコゴソゾトドノホボポモョヨロヲヺㇳㇹㇿ")]

/-- The narrow form of a syllable, with its marks. -/
def narrow? (c : Char) : Option (List Char) :=
  (Root.spell c).mapM fun d => (narrowForms.find? (·.1 == d)).map (·.2)

/-- The texts in which the sign for a long vowel follows a syllable. -/
def prolonged (c : Char) : List (List Char) :=
  let wide := ([c] :: (hiragana? c).toList.map ([·])).map (· ++ ['ー'])
  wide ++ (narrow? c).toList.flatMap fun n => [n ++ ['ー'], n ++ ['ｰ']]

/-- The sign for a long vowel after a syllable with that vowel. -/
def longVowels : List Rule :=
  rows.flatMap fun (vowel, syllables) =>
    .before [vowel] :: syllables.toList.flatMap fun c => (prolonged c).map fun text =>
      .next .identical text [c]

/-- The sign for a repeated syllable after a syllable. -/
def repeated : List Rule :=
  syllabaries.flatMap fun (c, h) =>
    .before [c] :: ([[c, 'ヽ'], [h, 'ゝ']] ++ (narrow? c).toList.map (· ++ ['ヽ'])).map fun text =>
      .next .identical text [c]

end Japanese

def japanese : List Rule :=
  Japanese.wideForms ++ Japanese.sameAll (Japanese.narrowForms ++ Japanese.syllabaries) ++
    Japanese.same 'ヽ' 'ゝ' ++ Japanese.longVowels ++ Japanese.repeated

end Rules
end Collation
end YamlOrder
