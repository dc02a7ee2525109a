/-!
This module contains the characters that are forms of other characters: capitals, wide and narrow
letters, letters in circles, raised and lowered ones, the shapes of Arabic letters.

Lists of characters are in the short form of the module on the common order.
-/

namespace YamlOrder
namespace Collation
namespace Root

/--
The characters that differ from another one in form only. Each entry holds the place of the form
among all forms, the characters, and what they are forms of.
-/
def forms : List (Nat × List String × List String) := [
  (2,
    [
      "΄౸-౾፩-፱៰-៹᧚᾿ↅ〇〡-〩𐄇-𐄏𐅂𐅃𐅈𐅏𐅘-𐅟𐅳𐆊𐌠𐌡𐏑𐏒𐡘𐡙𐡚𐤖𐤚𐤛𐩀-𐩃𐩽𐭘-𐭛𐭸-𐭻𐹠-𐹨𑁒-𑁚𒐀-𒐱𒐴-𒑙𝍠-𝍨"],
    [
      "´0-31231-90-91᾽60-91-91555111222255015121231231-411-41-41-91-92-93-94-91-91-5233-91233",
      "4512334533444467778899992-61-445523121-9"]),
  (3,
    [
      "\u3000！-＠［-｠￠-￦"],
    [
      " -@[-~⦅⦆¢£¬¯¦¥₩"]),
  (4,
    [
      "µ\u0363-\u036fͺϐϑϕϖϰϱϲϵٴۥۦ༪-༳\u102b\u1680\u1a58-\u1a5b\u1a64ᮺᯁᯃᯄᯆᯈᯊᯌᯍᯏᯓᯕᯗᯙᯚᯜᯟ\u1be8",
      "\u1beb\u1bed\u1befᳪᳫᳬᳮ-ᳱ\u1dca\u1dd2\u1dda-\u1de4\u1de6\u2002-\u2006\u2008\u2009\u200a",
      "․\u205fℵ-ℸⅰⅴⅹⅼ-ⅿ\u2de0-\u2df4\u2df6-\u2dff〶ㄱ-ㆎꘐꘑꘒꘪꘫꙩꙫꙭꙮ\ua674\ua675\ua677-\ua67b",
      "\ua69fꣳ-ꣷꦬ\ua9b5﹉-﹏𖼆𖼓𖼥𖼿"],
    [
      "μaeioucdhmrtvxιβθφπκρσεءوي1-90\u102c ᨦᨦᨻᨻ\u1a63ᮃᯀᯂᯂᯅᯇᯉᯋᯋᯎᯒᯔᯖᯘᯘᯛᯞ\u1be7\u1bea\u1bec",
      "\u1beeᳩᳩᳩᳩᳩᳩᳩrꝯgɢklʟᴍnɴʀꝛsz        . א-דivxlcdmб-джзк-тх-щѳаеꙉꙋѣюꙗѧѫѭ〒ᄀᄁᆪᄂᆬᆭᄃᄄᄅ",
      "ᆰ-ᆵᄚᄆᄇᄈᄡᄉ-하-ᅵᅠᄔᄕᇇᇈᇌᇎᇓᇗᇙᄜᇝᇟᄝᄞᄠᄢᄣᄧᄩᄫ-ᄯᄲᄶᅀᅇᅌᇱᇲᅗᅘᅙᆄᆅᆈᆑᆒᆔᆞᆡꕘꕪꖇꕮ",
      "ꗑооооєиуъыьѡѥꣲꣲꣲꣲꣲꦫ\ua9b4‾‾‾‾___𖼄𖼐𖼣𖼽"]),
  (5,
    [
      "ℊℎℓℯℴℹℼℽ⅀ⅆ-ⅉﬠ-﬩𝐚-𝐳𝑎-𝑔𝑖-𝑧𝒂-𝒛𝒶-𝒹𝒻𝒽-𝓃𝓅-𝓏𝓪-𝔃𝔞-𝔷𝕒-𝕫𝖆-𝖟𝖺-𝗓𝗮-𝘇𝘢-𝘻𝙖-𝙯𝚊-𝚥𝛁-𝛡𝛻-𝜛𝜵-𝝕𝝯-𝞏𝞩-𝟉𝟋𝟎-𝟿𞸀-𞸃",
      "𞸅-𞸟𞸡𞸢𞸤𞸧𞸩-𞸲𞸴-𞸷𞸹𞸻𞹂𞹇𞹉𞹋𞹍𞹎𞹏𞹑𞹒𞹔𞹗𞹙𞹛𞹝𞹟𞹡𞹢𞹤𞹧-𞹪𞹬-𞹲𞹴-𞹷𞹹-𞹼𞹾𞺀-𞺉𞺋-𞺛𞺡𞺢𞺣𞺥-𞺩𞺫-𞺻"],
    [
      "ghleoiπγ∑deijעאדהכלמרת+a-za-gi-za-za-dfh-np-za-za-za-za-za-za-za-za-za-zıȷ∇α-ρσσ-ω∂εθκ",
      "φρπ∇α-ρσσ-ω∂εθκφρπ∇α-ρσσ-ω∂εθκφρπ∇α-ρσσ-ω∂εθκφρπ∇α-ρσσ-ω∂εθκφρπϝ0-90-90-90-90-9ابجدوزح",
      "طيك-نسعفصقرشتثخذضظغٮںڡٯبجهحيك-نسعفصقشتثخضغجحيلنسعصقشخضغںٯبجهحطيكمنسعفصقشتثخضظغٮڡابجدهو",
      "زحطيلمنسعفصقرشتثخذضظغبجدوزحطيلمنسعفصقرشتثخذضظغ"]),
  (6,
    [
      "①-⑨ⓐ-⓪⓵-⓽⓿❶-❾➀-➈➊-➒㉠-㉭"],
    [
      "1-9a-z0-90-91-91-9ᄀᄂᄃᄅᄆᄇᄉᄋᄌᄎ-ᄒ"]),
  (8,
    [
      "A-ZÞŊŦƁƂƄƆƇƉƊƋƎ-ƑƓƔƖƗƘƜƝƟƢƤƦƧƩƬƮƱƲƳƵƷƸƼǤǶǷȜȠȢȤȺȻȽȾɁɃ-ɆɈɊɌɎͰͲͶΑ-ΡΣ-ΩϘϚϜϞϠϢϤϦϨϪϬϮϷϺϽ-ЯѠѢ",
      "ѤѦѨѪѬѮѰѲѴѶѸѺѼѾҀҊҌҎҒҔҖҘҚҜҞҠҢҤҦҨҪҬҮҰҲҴҶҸҺҼҾӀӁӃӅӇӉӋӍӐӒӔӖӘӚӜӞӠӢӤӦӨӪӬӮӰӲӴӶӸӺӼӾԀԂԄԆԈԊԌԎԐԒԔԖԘ",
      "ԚԜԞԠԢԤԦԱ-ՖႠ-ჅჇჍᎠ-ᏴỼỾℲↃⰀ-ⰮⱠⱢⱣⱤⱧⱩⱫⱭ-ⱰⱲⱵⱾⱿⲀⲂⲄⲆⲈⲊⲌⲎⲐⲒⲔⲖⲘⲚⲜⲞⲠⲢⲤⲦⲨⲪⲬⲮⲰⲲⲴⲶⲸⲺⲼⲾⳀⳂⳄⳆⳈⳊⳌⳎⳐⳒⳔⳖⳘⳚⳜ",
      "ⳞⳠⳢⳫⳭⳲꙀꙂꙄꙆꙈꙊꙌꙎꙐꙒꙔꙖꙘꙚꙜꙞꙠꙢꙤꙦꚀꚂꚄꚆꚈꚊꚌꚎꚐꚒꚔꚖꜢꜤꜦꜪꜬꜮꜾꝀꝂꝄꝆꝈꝊꝌꝐꝒꝔꝖꝘꝚꝜꝞꝢꝤꝦꝨꝪꝬꝮꝾꞀꞋꞍꞐꞒꞪ𐐀-𐐧"],
    [
      "a-zþŋŧɓƃƅɔƈɖɗƌǝəɛƒɠɣɩɨƙɯɲɵƣƥʀƨʃƭʈʊʋƴƶʒƹƽǥƕƿȝƞȣȥⱥȼƚⱦɂƀʉʌɇɉɋɍɏͱͳͷα-ρσ-ωϙϛϝϟϡϣϥϧϩϫϭϯϸϻͻͼͽ",
      "ѐ-џа-яѡѣѥѧѩѫѭѯѱѳѵѷѹѻѽѿҁҋҍҏғҕҗҙқҝҟҡңҥҧҩҫҭүұҳҵҷҹһҽҿӏӂӄӆӈӊӌӎӑӓӕӗәӛӝӟӡӣӥӧөӫӭӯӱӳӵӷӹӻӽӿԁԃԅԇԉ",
      "ԋԍԏԑԓԕԗԙԛԝԟԡԣԥԧա-ֆⴀ-ⴥⴧⴭᎠ-Ᏼỽỿⅎↄⰰ-ⱞⱡɫᵽɽⱨⱪⱬɑɱɐɒⱳⱶȿɀⲁⲃⲅⲇⲉⲋⲍⲏⲑⲓⲕⲗⲙⲛⲝⲟⲡⲣⲥⲧⲩⲫⲭⲯⲱⲳⲵⲷⲹⲻⲽⲿⳁⳃⳅⳇⳉⳋ",
      "ⳍⳏⳑⳓⳕⳗⳙⳛⳝⳟⳡⳣⳬⳮⳳꙁꙃꙅꙇꙉꙋꙍꙏꙑꙓꙕꙗꙙꙛꙝꙟꙡꙣꙥꙧꚁꚃꚅꚇꚉꚋꚍꚏꚑꚓꚕꚗꜣꜥꜧꜫꜭꜯꜿꝁꝃꝅꝇꝉꝋꝍꝑꝓꝕꝗꝙꝛꝝꝟꝣꝥꝧꝩꝫꝭꝯꝿꞁꞌɥꞑꞓɦ𐐨-𐑏"]),
  (9,
    [
      "Ａ-Ｚ"],
    [
      "a-z"]),
  (10,
    [
      "ϒϴϹℇⅠⅤⅩⅬ-ⅯꙨꙪꙬ"],
    [
      "υθσɛivxlcdmооо"]),
  (11,
    [
      "ℂℋℌℍℐℑℒℕℙ-ℝℤℨℬℭℰℱℳℾℿⅅ𝐀-𝐙𝐴-𝑍𝑨-𝒁𝒜𝒞𝒟𝒢𝒥𝒦𝒩-𝒬𝒮-𝒵𝓐-𝓩𝔄𝔅𝔇-𝔊𝔍-𝔔𝔖-𝔜𝔸𝔹𝔻-𝔾𝕀-𝕄𝕆𝕊-𝕐𝕬-𝖅𝖠-𝖹𝗔-𝗭𝘈-𝘡𝘼-𝙕𝙰-𝚉",
      "𝚨-𝛀𝛢-𝛺𝜜-𝜴𝝖-𝝮𝞐-𝞨𝟊"],
    [
      "chhhiilnpqrrrzzbcefmγπda-za-za-zacdgjkn-qs-za-zabd-gj-qs-yabd-gi-mos-ya-za-za-za-za-z",
      "a-zα-ρθσ-ωα-ρθσ-ωα-ρθσ-ωα-ρθσ-ωα-ρθσ-ωϝ"]),
  (12,
    [
      "Ⓐ-Ⓩ🄫🄬🅐-🅩"],
    [
      "a-zcra-z"]),
  (13,
    [
      "ぁぃぅぇぉっゃゅょゎゕゖ"],
    [
      "ぁぃぅぇぉっゃゅょゎゕゖ"]),
  (14,
    [
      "あいうえおかきくけこさしすせそたちつてとな-はひふへほま-もやゆよ-ろわ-ん"],
    [
      "ぁぃぅぇぉゕきくゖこさしすせそたちってとな-はひふへほま-ゃゅょら-ゎゐ-ん"]),
  (15,
    [
      "ァィゥェォッャュョヮヵヶㇰ-ㇿ﹐﹑﹒﹔-﹦﹨-﹫"],
    [
      "ぁぃぅぇぉっゃゅょゎゕゖくしすとぬはひふへほむら-ろ,、.;:?!—()\x7b\x7d〔〕#&*+\\-<>=",
      "\\\\$%@"]),
  (16,
    [
      "ｧ-ｯ"],
    [
      "ぁぃぅぇぉゃゅょっ"]),
  (17,
    [
      "アイウエオカキクケコサシスセソタチツテトナ-ハヒフヘホマ-モヤユヨ-ロワ-ン𛀀"],
    [
      "ぁぃぅぇぉゕきくゖこさしすせそたちってとな-はひふへほま-ゃゅょら-ゎゐ-ん𛀀"]),
  (18,
    [
      "｡-ｦｰ-ﾾￂ-ￇￊ-ￏￒ-ￗￚￛￜ￨-￮"],
    [
      "。「」、・をーぁぃぅぇぉゕきくゖこさしすせそたちってとな-はひふへほま-ゃゅょら-ゎん",
      "\u3099\u309aᅠᄀᄁᆪᄂᆬᆭᄃᄄᄅᆰ-ᆵᄚᄆᄇᄈᄡᄉ-하-ᅵ│←-↓■○"]),
  (19,
    [
      "㋐-㋾"],
    [
      "ぁぃぅぇぉゕきくゖこさしすせそたちってとな-はひふへほま-ゃゅょら-ゎゐゑを"]),
  (20,
    [
      "ª²³¹ºʰ-ʸˠ-ˤჼᵃ-ᵡᵸᶛᶜᶝᶟ-ᶿ⁰ⁱ⁴-ⁿꝰ"],
    [
      "a231ohɦjrɹɻʁwyɣlsxʕნaɐɑᴂbdeəɛᴈgᴉkmŋoɔᴖᴗptuᴝɯvᴥβγδφχнɒcɕɜfɟɡɥɨɩɪᵻʝɭᶅʟɱɰɲ-ɵɸʂʃƫʉʊᴜʋʌzʐʑʒ",
      "θ0i4-9+−=()nꝯ"]),
  (21,
    [
      "ᵢ-ᵪ₀-₎ₐ-ₜⱼ"],
    [
      "iruvβγρφχ0-9+−=()aeoxəhk-npstj"]),
  (22,
    [
      "︐-︘︱-﹄﹇﹈"],
    [
      ",、。:;!?〖〗—–__()\x7b\x7d〔〕【】《》〈〉「-』[]"]),
  (23,
    [
      "ﭔﭘﭜﭠﭤﭨﭬﭰﭴﭸﭼﮀﮐﮔﮘﮜﮢﮨﮬﯕﯦﯨﯾﺋﺑﺗﺛﺟﺣﺧﺳﺷﺻﺿﻃﻇﻋﻏﻓﻗﻛﻟﻣﻧﻫﻳ"],
    [
      "ٻپڀٺٿٹڤڦڄڃچڇکگڳڱڻہھڭېىیئبت-خس-غف-هي"]),
  (24,
    [
      "ﭕﭙﭝﭡﭥﭩﭭﭱﭵﭹﭽﮁﮑﮕﮙﮝﮣﮩﮭﯖﯧﯩﯿﹱﹷﹹﹻﹽﹿﺌﺒﺘﺜﺠﺤﺨﺴﺸﺼﻀﻄﻈﻌﻐﻔﻘﻜﻠﻤﻨﻬﻴ"],
    [
      "ٻپڀٺٿٹڤڦڄڃچڇکگڳڱڻہھڭېىی\u064b\u064e-\u0652ئبت-خس-غف-هي"]),
  (25,
    [
      "ςךםןףץܤᮾᮿㆴ-ㆷﭑﭓﭗﭛﭟﭣﭧﭫﭯﭳﭷﭻﭿﮃﮅﮇﮉﮋﮍﮏﮓﮗﮛﮟﮡﮧﮫﮯﯔﯘﯚﯜﯟﯡﯣﯥﯽﺂﺄﺆﺈﺊﺎﺐﺔﺖﺚﺞﺢﺦﺪﺬﺮﺰﺲﺶﺺﺾﻂﻆﻊﻎﻒﻖﻚﻞﻢﻦﻪﻮﻰﻲ"],
    [
      "σכמנפצܣᮊᮙㄆㄊㄎㄏٱٻپڀٺٿٹڤڦڄڃچڇڍڌڎڈژڑکگڳڱںڻہھےڭۇۆۈۋۅۉېیآ-غف-ي"]),
  (26,
    [
      "ﭐﭒﭖﭚﭞﭢﭦﭪﭮﭲﭶﭺﭾﮂﮄﮆﮈﮊﮌﮎﮒﮖﮚﮞﮠﮦﮪﮮﯓﯗﯙﯛﯞﯠﯢﯤﯼﹰﹲﹴﹶﹸﹺﹼﹾﺀﺁﺃﺅﺇﺉﺍﺏﺓﺕﺙﺝﺡﺥﺩﺫﺭﺯﺱﺵﺹﺽﻁﻅﻉﻍﻑﻕﻙﻝﻡﻥﻩﻭﻯﻱ"],
    [
      "ٱٻپڀٺٿٹڤڦڄڃچڇڍڌڎڈژڑکگڳڱںڻہھےڭۇۆۈۋۅۉېی\u064b-\u0652ء-غف-ي"]),
  (27,
    [
      "\u00a0༌\u2007‑\u202f"],
    [
      " ་ ‐ "]),
  (28,
    [
      "🈂"],
    [
      "さ"]),
  (29,
    [
      "ᴬᴮᴰ-ᴺᴼ-ᵂⱽ🄰-🅉🅰-🆊"],
    [
      "abdeǝg-oȣprtuwva-za-zp"])]

end Root
end Collation
end YamlOrder
