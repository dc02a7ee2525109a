import YamlOrder.Collation.Rules.Syllabic
import YamlOrder.Collation.Rules.Japanese
import YamlOrder.Collation.Tailoring

/-!
This module contains the rules of languages whose order differs from the common one. A language that
is not listed uses the common order.
-/

namespace YamlOrder
namespace Collation
namespace Rules

/-- The Nordic letters that are forms of common ones. -/
def nordicForms : String := "&D<<đ<<<Đ<<ð<<<Ð&t<<<þ/h&T<<<Þ/h&Y<<ü<<<Ü<<ű<<<Ű"

def norwegian : String :=
  nordicForms ++ "&[before]ǀ<æ<<<Æ<<ä<<<Ä<<ę<<<Ę<ø<<<Ø<<ö<<<Ö<<ő<<<Ő<<œ<<<Œ<å<<<Å<<<aa<<<Aa<<<AA"

def greenlandic : String :=
  "&Q<<ĸ<<<K'" ++ nordicForms ++ "&[before]ǀ<æ<<<Æ<<ä<<<Ä<<ę<<<Ę<ø<<<Ø<<ö<<<Ö<<ő<<<Ő<<œ<<<Œ<å<<<Å"

def swedish : String :=
  nordicForms ++ "&[before]ǀ<å<<<Å<ä<<<Ä<<æ<<<Æ<<ę<<<Ę<ö<<<Ö<<ø<<<Ø<<ő<<<Ő<<œ<<<Œ<<ô<<<Ô"

def finnish : String :=
  "&D<<đ<<<Đ&G<<ǥ<<<Ǥ&N<<ŋ<<<Ŋ&T<<ŧ<<<Ŧ&Y<<ü<<<Ü&Z<<ʒ<<<Ʒ" ++
  "&[before]ǀ<å<<<Å<ä<<<Ä<<æ<<<Æ<ö<<<Ö<<ø<<<Ø"

def icelandic : String :=
  "&[before]b<á<<<Á&d<<đ<<<Đ<ð<<<Ð&[before]f<é<<<É&[before]j<í<<<Í&[before]p<ó<<<Ó&[before]v<ú" ++
  "<<<Ú&[before]z<ý<<<Ý&[before]ǀ<æ<<<Æ<<ä<<<Ä<ö<<<Ö<<ø<<<Ø<å<<<Å"

def croatian : String :=
  "&C<č<<<Č<ć<<<Ć&D<dž<<<ǆ<<<Dž<<<ǅ<<<DŽ<<<Ǆ<đ<<<Đ&L<lj<<<ǉ<<<Lj<<<ǈ<<<LJ<<<Ǉ" ++
  "&N<nj<<<ǌ<<<Nj<<<ǋ<<<NJ<<<Ǌ&S<š<<<Š&Z<ž<<<Ž"

def hungarian : String :=
  "&C<cs<<<Cs<<<CS&D<dz<<<Dz<<<DZ&DZ<dzs<<<Dzs<<<DZS&G<gy<<<Gy<<<GY&L<ly<<<Ly<<<LY&N<ny<<<Ny" ++
  "<<<NY&O<ö<<<Ö<<ő<<<Ő&S<sz<<<Sz<<<SZ&T<ty<<<Ty<<<TY&U<ü<<<Ü<<ű<<<Ű&Z<zs<<<Zs<<<ZS&cs<<<ccs/cs" ++
  "&Cs<<<Ccs/cs&CS<<<CCS/CS&dz<<<ddz/dz&Dz<<<Ddz/dz&DZ<<<DDZ/DZ&dzs<<<ddzs/dzs&Dzs<<<Ddzs/dzs" ++
  "&DZS<<<DDZS/DZS&gy<<<ggy/gy&Gy<<<Ggy/gy&GY<<<GGY/GY&ly<<<lly/ly&Ly<<<Lly/ly&LY<<<LLY/LY&ny" ++
  "<<<nny/ny&Ny<<<Nny/ny&NY<<<NNY/NY&sz<<<ssz/sz&Sz<<<Ssz/sz&SZ<<<SSZ/SZ&ty<<<tty/ty&Ty<<<Tty/ty" ++
  "&TY<<<TTY/TY&zs<<<zzs/zs&Zs<<<Zzs/zs&ZS<<<ZZS/ZS"

def turkish : String :=
  "&C<ç<<<Ç&G<ğ<<<Ğ&[before]i<ı<<<I&i<<<İ&O<ö<<<Ö&S<ş<<<Ş&U<ü<<<Ü"

/-- Lingala as it is spoken: letters that make one sound count as one letter. -/
def lingala : String :=
  "&E<ɛ<<<Ɛ&O<<ɔ<<<Ɔ&G<gb<<<gB<<<Gb<<<GB&K<kp<<<kP<<<Kp<<<KP&M<mb<<<mB<<<Mb<<<MB<mf<<<mF<<<Mf" ++
  "<<<MF<mp<<<mP<<<Mp<<<MP<mv<<<mV<<<Mv<<<MV&N<nd<<<nD<<<Nd<<<ND<ng<<<nG<<<Ng<<<NG<ngb<<<ngB" ++
  "<<<nGb<<<nGB<<<Ngb<<<NgB<<<NGB<nk<<<nK<<<Nk<<<NK<ns<<<nS<<<Ns<<<NS<nt<<<nT<<<Nt<<<NT<ny<<<nY" ++
  "<<<Ny<<<NY<nz<<<nZ<<<Nz<<<NZ&S<sh<<<sH<<<Sh<<<SH&T<ts<<<tS<<<Ts<<<TS"

/--
The tones of Chinese syllables in Latin letters: a letter with a tone comes before the one without.
-/
def chinese : String :=
  "&[before]a<<ā<<<Ā<<á<<<Á<<ǎ<<<Ǎ<<à<<<À&[before]e<<ē<<<Ē<<é<<<É<<ě<<<Ě<<è<<<È" ++
  "&e<<ê\u0304<<<Ê\u0304<<ế<<<Ế<<ê\u030c<<<Ê\u030c<<ề<<<Ề<<ê<<<Ê" ++
  "&[before]i<<ī<<<Ī<<í<<<Í<<ǐ<<<Ǐ<<ì<<<Ì" ++
  "&[before]m<<m\u0304<<<M\u0304<<ḿ<<<Ḿ<<m\u030c<<<M\u030c<<m\u0300<<<M\u0300" ++
  "&[before]n<<n\u0304<<<N\u0304<<ń<<<Ń<<ň<<<Ň<<ǹ<<<Ǹ&[before]o<<ō<<<Ō<<ó<<<Ó<<ǒ<<<Ǒ<<ò<<<Ò" ++
  "&[before]u<<ū<<<Ū<<ú<<<Ú<<ǔ<<<Ǔ<<ù<<<Ù&U<<ǖ<<<Ǖ<<ǘ<<<Ǘ<<ǚ<<<Ǚ<<ǜ<<<Ǜ<<ü<<<Ü"

def vietnamese : String :=
  "&\u0300<<\u0309<<\u0303<<\u0301<<\u0323&A<ă<<<Ă<â<<<Â&D<đ<<<Đ&E<ê<<<Ê&O<ô<<<Ô<ơ<<<Ơ&U<ư<<<Ư"

def sami : String :=
  "&[before]b<á<<<Á&[before]d<č<<<Č<ʒ<<<Ʒ<ǯ<<<Ǯ&[before]e<đ<<<Đ<<ð<<<Ð&[before]ǥ<ǧ<<<Ǧ&[before]l" ++
  "<ǩ<<<Ǩ&ŋ<<ń<<<Ń<<ñ<<<Ñ&[before]t<š<<<Š&ŧ<<þ<<<Þ&y<<ü<<<Ü<<ű<<<Ű&[before]ǀ<ž<<<Ž<ø<<<Ø<<œ<<<Œ" ++
  "<æ<<<Æ<å<<<Å<<ȧ<<<Ȧ<ä<<<Ä<<ã<<<Ã<ö<<<Ö<<ő<<<Ő<<õ<<<Õ<<ô<<<Ô<<ǫ<<<Ǫ"

/-- Letters of Afar in an order of their own; the others follow. -/
def afar : String :=
  "&A<b<<<B<t<<<T<s<<<S<e<<<E<c<<<C<k<<<K<x<<<X<i<<<I<d<<<D<q<<<Q<r<<<R<f<<<F<g<<<G<o<<<O" ++
  "<l<<<L<m<<<M<n<<<N<u<<<U<w<<<W<h<<<H<y<<<Y"

/-- Signs of Devanagari that follow the sacred syllable. -/
def devanagari : String := "&ॐ<\u0902<<\u0901<\u0903"

def persian : String :=
  "&\u064e<<\u0650<<\u064f<<\u064b<<\u064d<<\u064c&[before]ا<آ" ++
  "&ا<<ٱ<ء<<أ<<ٲ<<إ<<ٳ<<ؤ<<ی\u0654<<<ى\u0654<<<ئ&ک<<ڪ<<ګ<<ك<<ڬ<<ڭ<<ڮ" ++
  "&ۏ<ه<<ە<<ہ<<ة<<ۃ<<ۀ<<ھ&ی<<ى<<ے<<ي<<ې<<ۑ<<ۍ<<ێ"

def pashto : String :=
  "&\u064e<<\u0650<<\u064f<<\u064b<<\u064d<<\u064c&[before]ا<آ&ا<<أ<<ٲ<<ٱ<<إ<<ٳ<ء&ت<ټ<<ٹ&ج<ځ" ++
  "<<ح\u0654&چ<څ&د<ډ<<ڈ&ر<ړ<<ڑ&ژ<ږ&ک<<ڪ<<ك&ګ<<گ&ڼ<<ڻ&و<<ؤ<<ۇ<<ۉ&ه<<<ۀ<<<ه\u0654<<ە<<ہ<<ھ<<ة<<ۃ&ی" ++
  "<<ى<<ے<<ي<<ې<<ۍ<<ی\u0654<<<ى\u0654<<<ئ&\u00a0<<\u200c<<\u200d"

/-- Vowels with an accent or a long mark are told apart from those without. -/
def tongan : String :=
  "&N<ng<<<Ng<<<NG<<<ŋ<<<Ŋ&Z<ʻ<<<ʽ&A<<á<<<Á<<ā<<<Ā&E<<é<<<É<<ē<<<Ē&I<<í<<<Í<<ī<<<Ī" ++
  "&O<<ó<<<Ó<<ō<<<Ō&U<<ú<<<Ú<<ū<<<Ū"

def urdu : String :=
  "&ا<<أ<آ<ب<بھ<پ<پھ<ت<تھ<ٹ<ٹھ<ث<ج<جھ<چ<چھ<ح<خ<د<دھ<ڈ<ڈھ<ذ<ر<رھ<ڑ<ڑھ<ز<ژ<س<ش<ص<ض<ط<ظ<ع<غ<ف<ق" ++
  "<ک<کھ<گ<گھ<ل<لھ<م<مھ<ن<نھ<ں<ںھ<و<<ؤ<وھ<ہ<<ۂ<ھ<ۃ<ء<ی<<ئ<یھ<ے<<ۓ" ++
  "&\u064d<<\u0652<<\u064e<<\u0650<<\u064f<<\u0670<<\u0656<<\u0657<<\u064b<<\u064d<<\u064c" ++
  "<<\u0654<<\u0651<<\u0658<<\u0653"

/-- Consonants of Tamil without their vowel come before those with it. -/
def tamil : String :=
  "&ஔ<\u0b82<ஃ<க\u0bcd<க<ங\u0bcd<ங<ச\u0bcd<ச<ஞ\u0bcd<ஞ<ட\u0bcd<ட<ண\u0bcd<ண<த\u0bcd<த<ந\u0bcd<ந" ++
  "<ப\u0bcd<ப<ம\u0bcd<ம<ய\u0bcd<ய<ர\u0bcd<ர<ல\u0bcd<ல<வ\u0bcd<வ<ழ\u0bcd<ழ<ள\u0bcd<ள<ற\u0bcd<ற" ++
  "<ன\u0bcd<ன<ஜ\u0bcd<ஜ<ஶ\u0bcd<ஶ<ஷ\u0bcd<ஷ<ஸ\u0bcd<ஸ<ஹ\u0bcd<ஹ<க\u0bcdஷ\u0bcd<க\u0bcdஷ"

/-- Final letters of Malayalam are forms of consonants without a vowel. -/
def malayalam : String :=
  "&\u0d03<<ഽ&\u0d4c=\u0d57&ക\u0d4d<<ക\u0d4d\u200d<<<ൿ&ണ\u0d4d<<ണ\u0d4d\u200d<<<ൺ" ++
  "&ന\u0d4d<<ന\u0d4d\u200d<<<ൻ&ര\u0d4d<<ര\u0d4d\u200d<<<ർ&ല\u0d4d<<ല\u0d4d\u200d<<<ൽ" ++
  "&ള\u0d4d<<ള\u0d4d\u200d<<<ൾ&മ\u0d4d<<\u0d02&ന\u0d4d<<<ൻ\u0d4d"

def thai : String :=
  "&[before]๚<ฯ&๛<ๆ&\u0e4e<<\u0e4c<<\u0e47<<\u0e48<<\u0e49<<\u0e4a<<\u0e4b&[before]ะ<\u0e4d&า" ++
  "<<<ๅ&า\u0e4d<<<\u0e4dา<<<ำ&\u0e4dๅ<<<ๅ\u0e4d&ไ<\u0e3a"

/-- The rules of languages. -/
def languages : List (String × String) := [
  ("aa", afar),
  ("af", "&N<<<ŉ"),
  ("az", turkish ++ "&K<q<<<Q&E<ə<<<Ə&H<x<<<X"),
  ("ar", "&ت<<ة<<<ﺔ<<<ﺓ&ي<<ى<<<ﯨ<<<ﯩ<<<ﻰ<<<ﻯ<<<ﲐ<<<ﱝ"),
  ("as", "&ঔ<\u0982<\u0981<\u0983&[before]ত<ৎ=ত\u09cd\u200d&হ<ক\u09cdষ"),
  ("be", "&Е<ё<<<Ё&у<ў<<<Ў"),
  ("bn", "&ঔ<\u0982<\u0983<\u0981"),
  ("bs", croatian),
  ("ca", "&L<<ŀ=l·<<<Ŀ=L·"),
  ("cs", "&C<č<<<Č&H<ch<<<cH<<<Ch<<<CH&R<ř<<<Ř&S<š<<<Š&Z<ž<<<Ž"),
  ("cy", "&C<ch<<<Ch<<<CH&D<dd<<<Dd<<<DD&F<ff<<<Ff<<<FF&G<ng<<<Ng<<<NG&L<ll<<<Ll<<<LL" ++
    "&P<ph<<<Ph<<<PH&R<rh<<<Rh<<<RH&T<th<<<Th<<<TH"),
  ("da", norwegian),
  ("dz", dzongkha),
  ("ee", "&\u030c<<\u0302&D<dz<<<Dz<<<DZ<ɖ<<<Ɖ&E<ɛ<<<Ɛ&F<ƒ<<<Ƒ&G<gb<<<Gb<<<GB<ɣ<<<Ɣ&H<x<<<X&K<kp<<<Kp" ++
    "<<<KP&N<ny<<<Ny<<<NY<ŋ<<<Ŋ&O<ɔ<<<Ɔ&T<ts<<<Ts<<<TS&V<ʋ<<<Ʋ"),
  ("eo", "&C<ĉ<<<Ĉ&G<ĝ<<<Ĝ&H<ĥ<<<Ĥ&J<ĵ<<<Ĵ&S<ŝ<<<Ŝ&U<ŭ<<<Ŭ"),
  ("es", "&N<ñ<<<Ñ"),
  ("et", "&[before]T<š<<<Š<z<<<Z<ž<<<Ž&[before]X<õ<<<Õ<ä<<<Ä<ö<<<Ö<ü<<<Ü"),
  ("fa", persian),
  ("fi", finnish),
  ("fil", "&N<ñ<<<Ñ<ng<<<Ng<<<NG"),
  ("fo", norwegian),
  ("gu", "&ૐ<\u0a82<<\u0a81<\u0a83"),
  ("ha", "&B<ɓ<<<Ɓ&D<ɗ<<<Ɗ&K<ƙ<<<Ƙ&S<sh<<<Sh<<<SH&T<ts<<<Ts<<<TS&Y<ƴ<<<'y<<<Ƴ<<<'Y"),
  ("haw", "&a<e<<<E<i<<<I<o<<<O<u<<<U&w<ʻ"),
  ("he", "&[before]'<<׳&[before]\"<<״"),
  ("hi", devanagari),
  ("hr", croatian),
  ("hu", hungarian),
  ("hy", "&ք<և<<<Եւ"),
  ("ig",
  "&B<ch<<<Ch<<<CH&G<gb<<<Gb<<<GB<gh<<<Gh<<<GH<gw<<<Gw<<<GW&I<ị<<<Ị&K<kp<<<Kp<<<KP<kw<<<Kw<<<KW" ++
    "&N<ṅ<<<Ṅ<nw<<<Nw<<<NW<ny<<<Ny<<<NY&O<ọ<<<Ọ&S<sh<<<Sh<<<SH&U<ụ<<<Ụ"),
  ("is", icelandic),
  ("kk", "&Е<ё<<<Ё&Ұ<ү<<<Ү&ь<і<<<І"),
  ("kl", greenlandic),
  ("km", khmer),
  ("kn", "&ಔ<\u0c82<\u0c83<ೱ<ೲ"),
  ("kok", devanagari ++ "&ह<ळ<क\u094dष"),
  ("ln", "&E<ɛ<<<Ɛ&O<<ɔ<<<Ɔ"),
  ("lt", "&A<<ą<<<Ą&C<č<<<Č&E<<ę<<<Ę<<ė<<<Ė&I<<į<<<Į<<y<<<Y&S<š<<<Š&U<<ų<<<Ų<<ū<<<Ū&Z<ž<<<Ž"),
  ("lv", "&C<č<<<Č&G<ģ<<<Ģ&K<ķ<<<Ķ&L<ļ<<<Ļ&N<ņ<<<Ņ&R<ŗ<<<Ŗ&S<š<<<Š&Z<ž<<<Ž"),
  ("mk", "&ԃ<ѓ<<<Ѓ&ћ<ќ<<<Ќ"),
  ("ml", malayalam),
  ("mr", devanagari ++ "&ह<ळ<क\u094dष<ज\u094dञ"),
  ("my", burmese),
  ("mt",
  "&[before]C<ċ<<<Ċ&[before]G<ġ<<<Ġ&[before]H<għ<<<gĦ<<<Għ<<<GĦ&[before]I<ħ<<<Ħ&[before]Z<ż<<<Ż"),
  ("nn", norwegian),
  ("nso", "&E<ê<<<Ê&O<ô<<<Ô&S<š<<<Š"),
  ("om", "&Z<ch<<<Ch<<<CH<dh<<<Dh<<<DH<kh<<<Kh<<<KH<ny<<<Ny<<<NY<ph<<<Ph<<<PH<sh<<<Sh<<<SH"),
  ("or", "&ଔ<\u0b01<\u0b02<\u0b03&ହ<କ\u0b4dଷ&ଯ<<ୟ"),
  ("pa", "&\u0a03<<\u0a71<<\u0a70<<\u0a02<<\u0a01<<\u0a3c" ++
    "&ੜ<\u0a4d<\u0a3e<\u0a3f<\u0a40<\u0a41<\u0a42<\u0a47<\u0a48<\u0a4b<\u0a4c"),
  ("pl", "&A<ą<<<Ą&C<ć<<<Ć&E<ę<<<Ę&L<ł<<<Ł&N<ń<<<Ń&O<ó<<<Ó&S<ś<<<Ś&Z<ź<<<Ź<ż<<<Ż"),
  ("ps", pashto),
  ("ro", "&A<ă<<<Ă<â<<<Â&I<î<<<Î&S<ş=ș<<<Ş=Ș&T<ţ=ț<<<Ţ=Ț"),
  ("se", sami),
  ("si", "&ඖ<\u0d82<\u0d83&ඥ<ඤ"),
  ("sk", "&A<ä<<<Ä&C<č<<<Č&H<ch<<<cH<<<Ch<<<CH&O<ô<<<Ô&R<ř<<<Ř&S<š<<<Š&Z<ž<<<Ž"),
  ("sl", "&C<č<<<Č<ć<<<Ć&D<đ<<<Đ&S<š<<<Š&Z<ž<<<Ž"),
  ("sq",
  "&C<ç<<<Ç&D<dh<<<Dh<<<DH&E<ë<<<Ë&G<gj<<<Gj<<<GJ&L<ll<<<Ll<<<LL&N<nj<<<Nj<<<NJ&R<rr<<<Rr<<<RR" ++
    "&S<sh<<<Sh<<<SH&T<th<<<Th<<<TH&X<xh<<<Xh<<<XH&Z<zh<<<Zh<<<ZH"),
  ("sv", swedish),
  ("ta", tamil),
  ("te", "&ఔ<\u0c01<\u0c02<\u0c03"),
  ("th", thai),
  ("tn", "&E<ê<<<Ê&O<ô<<<Ô&S<š<<<Š"),
  ("to", tongan),
  ("tr", turkish),
  ("uk", "&Г<ґ<<<Ґ&ꙇ<ї<<<Ї"),
  ("ur", urdu),
  ("vi", vietnamese),
  ("wae", "&á=aa&ã=ää&č=ch&é=ee&í=ii&ó=oo&õ=öö&š=sch&ú=uu&ũ=üü"),
  ("zh", chinese),
  ("yo", "&E<ẹ<<<Ẹ&G<gb<<<Gb<<<GB&O<ọ<<<Ọ&S<ṣ<<<Ṣ")]

/-- The rules of further orders that some languages have, by the name of the order. -/
def variants : List ((String × String) × String) := [
  (("de", "phonebk"), "&AE<<ä<<<Ä&OE<<ö<<<Ö&UE<<ü<<<Ü"),
  (("fi", "standard"), finnish ++ "&V<<w<<<W&ö<<õ<<<Õ<<œ<<<Œ"),
  (("ln", "phonetic"), lingala),
  (("sv", "standard"), swedish ++ "&V<<w<<<W")]

/-- The characters from space to tilde in the order of their codes, after the letter A. -/
def ascii : List Rule :=
  .after ['A'] :: (Root.charRange ' ' '~').map fun c => .next .primary [c] []

end Rules
end Collation
end YamlOrder
