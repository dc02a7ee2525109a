import YamlOrder.Collation.Table

/-!
This module contains the rules of Burmese, Dzongkha and Khmer, which are ordered by syllables. In
Burmese, a syllable is ordered by what ends it before the letters below its first consonant. In
Dzongkha, syllables are ordered by their main letter, and letters before it and above it come after
that.
-/

namespace YamlOrder
namespace Collation
namespace Rules
namespace Burmese

def consonants : List Char := Root.charRange 'က' 'အ'

/-- Whether a consonant at the end of a syllable can stand above the next one. -/
def canStack (c : Char) : Bool := !(['ဈ', 'ဝ', 'ဠ', 'အ'].contains c)

/--
The ways to write a consonant that ends a syllable: above the next consonant, and with the sign that
takes its vowel away.
-/
def endings (c : Char) : List String :=
  let killed := String.singleton c ++ "\u103a"
  if c == 'င' then [killed ++ "\u1039", killed]
  else if canStack c then [String.singleton c ++ "\u1039", killed]
  else [killed]

/-- The vowels before such a consonant, with the tall form that some have. -/
def vowels : List (List String) := [
  [""], ["\u102c", "\u102b"], ["\u102d"], ["\u102f"], ["\u1031"], ["\u1031\u102c", "\u1031\u102b"],
  ["\u102d\u102f"]]

/-- The rhymes that a consonant ends. -/
def rhymes (c : Char) : String :=
  String.join (vowels.map fun forms =>
    "<" ++ "<<".intercalate (forms.flatMap fun v => (endings c).map (v ++ ·)))

/-- The vowels that need no consonant, and what they are like. -/
def independentVowels : List (String × String) := [
  ("အ\u102d", "ဣ"), ("အ\u102f", "ဥ"), ("အ\u1031", "ဧ"), ("အ\u1031\u102c", "ဩ"),
  ("အ\u1031\u102c", "ဩ\u1031\u102c")]

/-- Independent vowels before a consonant that ends the syllable. -/
def independentRhymes (c : Char) : String :=
  String.join (independentVowels.flatMap fun (vowel, independent) =>
    ["\u1039", "\u103a"].map fun sign =>
      let ending := String.singleton c ++ sign
      "&" ++ vowel ++ ending ++ "<<<" ++ independent ++ ending)

/-- Signs and vowels before the rhymes. -/
def signs : String :=
  "&\u108c<\u1037<\u1038<\u1037\u1038&\u102c<<\u102b&\u1032<\u1031\u102c<<\u1031\u102b" ++
  "<\u1031\u102c\u103a<<\u1031\u102b\u103a&\u1034<\u1036<\u102d\u102f"

/--
What follows the rhymes: letters below others, independent vowels, and signs at the end of a
syllable.
-/
def medials : String :=
  "<\u105e<\u105f<\u103b<\u103c<\u1060<\u103d<\u1082<\u103e<\u103b\u103d<\u103c\u103d" ++
  "<\u103b\u103e<\u103c\u103e<\u103d\u103e<\u103b\u103d\u103e<\u103c\u103d\u103e&အ\u102d<<<ဣ" ++
  "&အ\u102e<<<ဤ&အ\u102f<<<ဥ&အ\u1030<<<ဦ&အ\u1031<<<ဧ<<<ဨ&အ\u1031\u102c<<<ဩ&အ\u1031\u102c\u103a" ++
  "<<<ဪ&\u102dမ\u103a<\u102d\u1036<\u102dမ\u103a\u1037<\u102d\u1036\u1037<\u102dမ\u103a\u1038" ++
  "<\u102d\u1036\u1038&\u102fမ\u103a<\u102f\u1036<\u102fမ\u103a\u1037<\u102f\u1036\u1037<\u102fမ" ++
  "\u103a\u1038<\u102f\u1036\u1038&အ\u102f\u1036<<<ဥ\u102f\u1036"

/-- Letters that are written in a short form. -/
def shortForms : String :=
  "&\u1031\u102cက\u103aက\u103b=\u1031\u102cက\u103a\u103b&န\u103aန\u102fပ\u103a=န\u103a\u102fပ" ++
  "\u103a&\u1031သ\u1039သ=\u1031ဿ&\u102dသ\u1039သ=\u102dဿ&\u102fသ\u1039သ=\u102fဿ&အ\u102dသ\u1039သ" ++
  "<<<ဣဿ&အ\u102fသ\u1039သ<<<ဥဿ&သ\u1039သ=ဿ&န\u103e\u102d\u102fက\u103a<<၌&ရ\u103d\u1031\u1037<<၍" ++
  "&လည\u103a\u1038က\u1031\u102cင\u103a\u1038<<၎င\u103a\u1038&အ\u102d<<၏&လက\u103aယ\u102c" ++
  "=လက\u103a\u103b\u102c&သမ\u102e=သ\u1039မ\u102e&ထမင\u103a\u1038=ထ\u1039မင\u103a\u1038" ++
  "&လက\u103aဘက\u103a=လ\u1039ဘက\u103a"

end Burmese

def burmese : String :=
  Burmese.signs ++ String.join (Burmese.consonants.map Burmese.rhymes) ++ Burmese.medials ++
    String.join ((Burmese.consonants.filter Burmese.canStack).map Burmese.independentRhymes) ++
    Burmese.shortForms

/--
Letters with another letter before or above them follow the letter, then come the vowels and the
letters below others.
-/
def dzongkha : String :=
  "&ཀར<ཀར\u0f90<ཀར\u0f9f<ཀར\u0f9e<ཀར\u0fa8<ཀར\u0fb4<ཀར\u0fb5&ཀལ<ཀལ\u0f90<ཀལ\u0fa4&ཀས<ཀས\u0fa8&གཉ" ++
  "<གཉ\u0fab&ཐར<ཐར\u0f90&པ\u0f74ས<པ\u0f74ས\u0f9f\u0f72&ཕལ<ཕལ\u0f92&བ\u0f72ལ<བ\u0f72ལ\u0fa6&མཉ" ++
  "<མཉ\u0fab&མར<མར\u0f92&ཝར<ཝར\u0f9f&ཤས<ཤས\u0f9f&སར<སར\u0f92&ཨར<ཨར\u0f92<ཨར\u0fb1=ཨཪ\u0fb1&ཨས" ++
  "<ཨས\u0fa8&[before]ཀ<།<<༎<<༏<<༐<<༑<<༔<<༴<་=༌&ཀ<<ྈ\u0f90<ཫ<དཀ<བཀ<ར\u0f90<ལ\u0f90<ས\u0f90" ++
  "<བར\u0f90<བས\u0f90&ཁ<<ྈ\u0f91<མཁ<འཁ&ག<དགག<དགང<དགད<དགན<དགབ<དགཝ<དགའ<དགར<དགལ<དགས<དག\u0f72" ++
  "<དག\u0f74<དག\u0f7a<དག\u0f7c<དག\u0fad<དག\u0fb1<དག\u0fb2<བགག<བགང<བགད<བགབ<བགམ<<<བག\u0f7e<བགཝ<བགའ" ++
  "<བགར<བགལ<བག\u0f72<བག\u0f74<བག\u0f7a<བག\u0f7c<བག\u0fad<བག\u0fb1<བག\u0fb2<བག\u0fb3<མགག<མགང<མགད" ++
  "<མགབ<མགའ<མགར<མགལ<མག\u0f72<མག\u0f74<མག\u0f7a<མག\u0f7c<མག\u0fad<མག\u0fb1<མག\u0fb2<འགག<འགང<འགད" ++
  "<འགན<འགབ<འགམ<<<འག\u0f7e<འགའ<འགར<འགལ<འགས<འག\u0f72<འག\u0f74<འག\u0f7a<འག\u0f7c<འག\u0fad<འག\u0fb1" ++
  "<འག\u0fb2<ར\u0f92<ལ\u0f92<ས\u0f92<བར\u0f92<བས\u0f92&ང<<<\u0f82<<<\u0f83<དངག<དངང<དངད<དངན<དངབ" ++
  "<དངའ<དངར<དངལ<དང\u0f72<དང\u0f74<དང\u0f7a<དང\u0f7c<མངག<མངང<མངད<མངན<མངབ<མངའ<མངར<མངལ<མང\u0f72" ++
  "<མང\u0f74<མང\u0f7a<མང\u0f7c<ར\u0f94<ལ\u0f94<ས\u0f94<བར\u0f94<བས\u0f94&ཅ<གཅ<བཅ<ལ\u0f95" ++
  "<བལ\u0f95&ཆ<མཆ<འཆ&ཇ<མཇ<འཇ<ར\u0f97<ལ\u0f97<བར\u0f97&ཉ<<ྋ\u0f99<གཉ<མཉ<ར\u0f99=ཪ\u0f99<ས\u0f99" ++
  "<བར\u0f99=བཪ\u0f99<བས\u0f99&ཏ<ཊ<ཏ\u0fad<ཏ\u0fb2<གཏ<བཏ<ར\u0f9f<ལ\u0f9f<ས\u0f9f<བར\u0f9f" ++
  "<བལ\u0f9f<བས\u0f9f&ཐ<ཋ<མཐ<འཐ&ད<ཌ<གདག<གདང<གདད<གདན<གདབ<གདམ<<<གད\u0f7e<གདའ<གདར<གདལ<གདས<གད\u0f72" ++
  "<གད\u0f74<གད\u0f7a<གད\u0f7c<གད\u0fad<བདག<བདང<བདད<བདབ<བདམ<<<བད\u0f7e<བདའ<བདར<བདལ<བདས<བད\u0f72" ++
  "<བད\u0f74<བད\u0f7a<བད\u0f7c<བད\u0fad<མདག<མདང<མདད<མདན<མདབ<མདའ<མདར<མདལ<མདས<མད\u0f72<མད\u0f74" ++
  "<མད\u0f7a<མད\u0f7c<མད\u0fad<འདག<འདང<འདད<འདན<འདབ<འདམ<<<འད\u0f7e<འདཝ<འདའ<འདར<འདལ<འདས<འད\u0f72" ++
  "<འད\u0f74<འད\u0f7a<འད\u0f7c<འད\u0fad<འད\u0fb2<ར\u0fa1<ལ\u0fa1<ས\u0fa1<བར\u0fa1<བལ\u0fa1" ++
  "<བས\u0fa1&ན<ཎ<གནག<གནང<གནད<གནན<གནབ<གནམ<<<གན\u0f7e<གནཝ<གནའ<གནར<གནལ<གནས<གན\u0f72<གན\u0f74" ++
  "<གན\u0f7a<གན\u0f7c<གན\u0fad<མནག<མནང<མནད<མནན<མནབ<མནམ<<<མན\u0f7e<མནའ<མནར<མནལ<མནས<མན\u0f72" ++
  "<མན\u0f74<མན\u0f7a<མན\u0f7c<མན\u0fad<ར\u0fa3<ས\u0fa3<བར\u0fa3<བས\u0fa3&པ<<ྉ\u0fa4<དཔག<དཔང<དཔད" ++
  "<དཔབ<དཔའ<དཔར<དཔལ<དཔས<དཔ\u0f72<དཔ\u0f74<དཔ\u0f7a<དཔ\u0f7c<དཔ\u0fb1<དཔ\u0fb2<ལ\u0fa4<ས\u0fa4&ཕ" ++
  "<<ྉ\u0fa5<འཕ&བ<དབག<དབང<དབད<དབན<དབབ<དབའ<དབར<དབལ<དབས<དབ\u0f72<དབ\u0f74<དབ\u0f7a<དབ\u0f7c" ++
  "<དབ\u0fb1<དབ\u0fb2<འབག<འབང<འབད<འབན<འབབ<འབམ<<<འབ\u0f7e<འབའ<འབར<འབལ<འབས<འབ\u0f72<འབ\u0f74" ++
  "<འབ\u0f7a<འབ\u0f7c<འབ\u0fb1<འབ\u0fb2<ར\u0fa6<ལ\u0fa6<ས\u0fa6&མ<<<\u0f7e<དམག<དམང<དམད<དམན<དམབ" ++
  "<དམཝ<དམའ<དམར<དམལ<དམས<དམ\u0f72<དམ\u0f74<དམ\u0f7a<དམ\u0f7c<དམ\u0fad<དམ\u0fb1<ར\u0fa8<ས\u0fa8&ཙ" ++
  "<གཙ<བཙ<ར\u0fa9<ས\u0fa9<བར\u0fa9<བས\u0fa9&ཚ<མཚ<འཚ&ཛ<མཛ<འཛ<ར\u0fab<བར\u0fab&ཞ<གཞ<བཞ&ཟ<གཟ<བཟ&ཡ" ++
  "<གཡ&ར<<<ཪ<ཬ<བར\u0fb3=བཪ\u0fb3&ཤ<ཥ<གཤ<བཤ&ས<གསག<གསང<གསད<གསན<གསབ<གསའ<གསར<གསལ<གསས<གས\u0f72" ++
  "<གས\u0f74<གས\u0f7a<གས\u0f7c<གས\u0fad<བསག<བསང<བསད<བསབ<བསམ<<<བས\u0f7e<བསའ<བསར<བསལ<བསས<བས\u0f72" ++
  "<བས\u0f74<བས\u0f7a<བས\u0f7c<བས\u0fad<བས\u0fb2<བས\u0fb3&ཧ<ལ\u0fb7&ཨ<\u0f71<\u0f72<\u0f71\u0f72" ++
  "<\u0f80<\u0f71\u0f80<\u0f74<\u0f71\u0f74<\u0f7a<\u0f7b=\u0f7a\u0f7a<\u0f7c<\u0f7d" ++
  "=\u0f7c\u0f7c<\u0f90<\u0f91<\u0f92<\u0f94<\u0f95<\u0f96<\u0f97<\u0f99<\u0f9f<\u0f9a<\u0fa0" ++
  "<\u0f9b<\u0fa1<\u0f9c<\u0fa3<\u0f9e<\u0fa4<\u0fa5<\u0fa6<\u0fa8<\u0fa9<\u0faa<\u0fab<\u0fad" ++
  "<<<\u0fba<\u0fae<\u0faf<\u0fb0<\u0fb1<<<\u0fbb<\u0fb2<<<\u0fbc<\u0fb3<\u0fb4<\u0fb5<\u0fb6" ++
  "<\u0fb7<\u0fb8&\u0f39<<\u0f84<<\u0f7f<<྅<<ྈ<<ྉ<<ྊ<<ྋ<<ྌ<<\u0f8d<<\u0f8e<<\u0f8f&ཨ\u0f7c\u0f7e" ++
  "=ༀ&\u0fb2\u0f71\u0f80=\u0f77&\u0fb3\u0f71\u0f80=\u0f79"

namespace Khmer

/--
The consonants that can stand below another one, with the vowels that are written like consonants.
-/
def consonants : String := "កខគឃងចឆជឈញដឋឌឍណតថទធនបផពភមយរឫឬលឭឮវឝឞសហឡអ"

/-- The sign above a consonant counts like the letter ro before it. -/
def raised : String :=
  String.join (consonants.toList.map fun c =>
    let c := String.singleton c
    "&រ\u17d2" ++ c ++ "<<" ++ c ++ "\u17cc")

/-- Independent vowels follow the letter that carries the same vowel. -/
def vowels : String :=
  "&អ=ឣ&អ\u17b6=ឤ&អ\u17b7<<ឥ&អ\u17b8<<ឦ&អ\u17bb<<ឧ&អ\u17bc<<ឩ&អ\u17c2<<ឯ&អ\u17c3<<ឰ&អ\u17c4<<ឱ" ++
  "&អ\u17c5<<ឳ&ឧក<<<ឨ&ឩវ<<<ឪ&ឱ<<<ឲ&\u17c5<\u17bb\u17c6<\u17c6<\u17b6\u17c6<\u17c7<\u17b7\u17c7" ++
  "<\u17bb\u17c7<\u17c1\u17c7<\u17c4\u17c7"

end Khmer

def khmer : String :=
  "&។ល។<<<៘&\u17c8<<\u17ce<<\u17cf<<\u17d1<<\u17d0<<\u17c8<<\u17dd<<\u17cb<<\u17c9<<\u17ca" ++
  "<<\u17cd&រ<ឫ<ឬ&ល<ឭ<ឮ" ++ Khmer.raised ++ "=ឣ\u17cc" ++ Khmer.vowels

end Rules
end Collation
end YamlOrder
