/-!
This module contains the characters that are made of several: ligatures, fractions, numbers in
brackets, words in a square.
-/

namespace YamlOrder
namespace Collation
namespace Root

/--
Marks that stand for no character: they tell a ligature or a letter of an old alphabet from the
letters it is made of.
-/
def inventedMarks : List Char := ['\ue000', '\ue001', '\ue002', '\ue003', '\ue004']

/--
The characters that are made of several. Each entry holds the places of the form for small letters
and for capitals, and words of a character and what it is made of.
-/
def compounds : List (Nat × Nat × List String) := [
  (2, 8, [
    "ØO\u0338 øo\u0338 ĐD\u0335 đd\u0335 ĦH\u0335 ħh\u0335 ĿL\ue000 ŀl\ue000 ŁL\u0335",
    "łl\u0335 ℏh\u0335 〲〱\u3099 〴〳\u3099 﨎﨎 﨏﨏 﨑﨑 﨓﨓 﨔﨔 﨟﨟 﨡﨡 﨣﨣 﨤﨤",
    "﨧﨧 﨨﨨 﨩﨩"]),
  (4, 10, [
    "ÆA\ue000e ÐD\ue000 ßs\ue000s æa\ue000e ðd\ue000 ĲIJ ĳij ŉʼn ŒO\ue000e œo\ue000e ſs\ue001",
    "ƍzw ƾts ǄDZ\u030c ǅDz\u030c ǆdz\u030c ǇLJ ǈLj ǉlj ǊNJ ǋNj ǌnj ǱDZ ǲDz ǳdz ȸdb ȹqp ʣdz",
    "ʤdʒ ʥdʑ ʦts ʧtʃ ʨtɕ ʩfŋ ʪls ʫlz ϏΚαι ϗκαι ҐГ\ue001 ґг\ue001 ևեւ װוו ױוי ײיי ٵاء ٶوء ٷۇء",
    "ٸيء ۽ء\ue001 ۾م\ue001 ܔܓ\ue001 ܜܛ\ue001 ܧܦ\ue001 ܭܒ\ue002 ܮܓ\ue002 ܯܕ\ue002 ߨߖ\ue000",
    "ߩߗ\ue000 ߪߙ\ue000 ৎত\u09cd ൎര\u0d4d ൺണ\u0d4d ൻന\u0d4d ർര\u0d4d ൽല\u0d4d ൾള\u0d4d",
    "ൿക\u0d4d ໜຫນ ໝຫມ ༀཨ\u0f7c\u0902 ཪར\ue001 \u0fba\u0fad\ue001 \u0fbb\u0fb1\ue001",
    "\u0fbc\u0fb2\ue001 ဿသ\u1039သ ᚡᚠ\ue000 ᚤᚢ\ue000 ᚥᚢ\ue001 ᚧᚦ\ue000 ᚩᚨ\ue000 ᚬᚨ\ue001",
    "ᚭᚨ\ue002 ᚮᚨ\ue003 ᚳᚲ\ue000 ᚴᚲ\ue001 ᚵᚲ\ue002 ᚶᚲ\ue003 ᚻᚺ\ue000 ᚼᚺ\ue001 ᚽᚺ\ue002",
    "ᚿᚾ\ue000 ᛀᚾ\ue001 ᛂᛁ\ue000 ᛄᛃ\ue000 ᛆᛅ\ue000 ᛋᛊ\ue000 ᛌᛊ\ue002 ᛍᛊ\ue003 ᛎᛊ\ue004",
    "ᛐᛏ\ue000 ᛑᛏ\ue001 ᛓᛒ\ue000 ᛔᛒ\ue001 ᛕᛈ\ue000 ᛘᛗ\ue000 ᛙᛗ\ue001 ᛛᛚ\ue000 ᛝᛜ\ue000",
    "ᛧᛦ\ue000 ᛨᛦ\ue001 ᛩᚹ\ue000 ᛪᛊ\ue001 ᛮᛅᛚ ᛯᛗ\ue000ᛗ\ue000 ᛰᚦᚦ ᧞ᦜᦶ ᧟ᦜᦶᧁ ᩔᩆ\u1a60ᩆ ᵹg\ue001",
    "ᵺt\ue000h \u1dd3a\ue000 \u1dd4a\ue000e \u1dd5ao \u1dd6av \u1dd7c\u0327 \u1dd8d\ue001",
    "\u1dd9d\ue000 \u1de5s\ue001 ẚaʾ ẞS\ue000s ỺLL ỻll ‥.. …... ″′′ ‴′′′ ‶‵‵ ‷‵‵‵ ‼!! ⁇?? ⁈?!",
    "⁉!? ⁗′′′′ ₨Rs ℀a/c ℁a/s ℃°C ℅c/o ℆c/u ℉°F №No ℡TEl ℻FAx ⅍A/s ⅡII ⅢIIi ⅣIV ⅥVI ⅦVIi ⅧVIii",
    "ⅨIX ⅪXI ⅫXIi ⅱii ⅲiii ⅳiv ⅵvi ⅶvii ⅷviii ⅸix ⅺxi ⅻxii ∬∫∫ ∭∫∫∫ ∯∮∮ ∰∮∮∮ ⑴(1) ⑵(2) ⑶(3)",
    "⑷(4) ⑸(5) ⑹(6) ⑺(7) ⑻(8) ⑼(9) ⑽(10) ⑾(11) ⑿(12) ⒀(13) ⒁(14) ⒂(15) ⒃(16) ⒄(17) ⒅(18)",
    "⒆(19) ⒇(20) ⒈1. ⒉2. ⒊3. ⒋4. ⒌5. ⒍6. ⒎7. ⒏8. ⒐9. ⒑10. ⒒11. ⒓12. ⒔13. ⒕14. ⒖15. ⒗16. ⒘17.",
    "⒙18. ⒚19. ⒛20. ⒜(a) ⒝(b) ⒞(c) ⒟(d) ⒠(e) ⒡(f) ⒢(g) ⒣(h) ⒤(i) ⒥(j) ⒦(k) ⒧(l) ⒨(m) ⒩(n)",
    "⒪(o) ⒫(p) ⒬(q) ⒭(r) ⒮(s) ⒯(t) ⒰(u) ⒱(v) ⒲(w) ⒳(x) ⒴(y) ⒵(z) ⨌∫∫∫∫ ⩴::= ⩵== ⩶=== ⳤⲕⲁⲓ",
    "\u2df5ст ⺀丶\ue000 ⺁厂\ue000 ⺂乛 ⺃乚 ⺄乙\ue000 ⺅亻 ⺆冂\ue000 ⺇几\ue000",
    "⺈刀\ue000 ⺉刂 ⺊卜\ue000 ⺋卩\ue000 ⺌小\ue000 ⺍小\ue001 ⺎尢\ue000 ⺏尣 ⺐尢",
    "⺑尣\ue000 ⺒巳 ⺓幺 ⺔彑 ⺕彐\ue000 ⺖忄 ⺗心\ue000 ⺘扌 ⺙攵 ⺛旡 ⺜日\ue000",
    "⺝月\ue000 ⺞歺\ue000 ⺟母 ⺠民 ⺡氵 ⺢氺 ⺣灬 ⺤爫 ⺥爫\ue000 ⺦丬 ⺧牛\ue000 ⺨犭",
    "⺩王\ue000 ⺪疋\ue000 ⺫目\ue000 ⺬示\ue000 ⺭礻 ⺮竹\ue000 ⺯糹 ⺰纟 ⺱罓 ⺲罒",
    "⺳罓\ue000 ⺴罓\ue001 ⺵罒\ue000 ⺶羊\ue000 ⺷羊\ue001 ⺸羋 ⺹耂 ⺺肀 ⺻聿\ue000",
    "⺼肉\ue000 ⺽臼\ue000 ⺾艹 ⺿艹\ue000 ⻀艹\ue001 ⻁虎 ⻂衤 ⻃覀 ⻄西 ⻅见 ⻆角",
    "⻇角\ue000 ⻈讠 ⻉贝 ⻊足\ue000 ⻋车 ⻌辶 ⻍辶\ue000 ⻎辶\ue001 ⻏邑\ue000 ⻐钅 ⻑長",
    "⻒镸 ⻓长 ⻔门 ⻕阜\ue000 ⻖阝 ⻗雨\ue000 ⻘青 ⻙韦 ⻚页 ⻛风 ⻜飞 ⻝食 ⻞飠\ue000 ⻟飠",
    "⻠饣 ⻡首\ue000 ⻢马 ⻣骨\ue000 ⻤鬼\ue000 ⻥鱼 ⻦鸟 ⻧鹵\ue000 ⻨麦 ⻩黄 ⻪黾",
    "⻫齊\ue000 ⻬齐 ⻭齒\ue000 ⻮齿 ⻯龍\ue000 ⻰龙 ⻱龜\ue000 ⻲龜\ue001 ⻳龟 ⼀一 ⼁丨",
    "⼂丶 ⼃丿 ⼄乙 ⼅亅 ⼆二 ⼇亠 ⼈人 ⼉儿 ⼊入 ⼋八 ⼌冂 ⼍冖 ⼎冫 ⼏几 ⼐凵 ⼑刀 ⼒力",
    "⼓勹 ⼔匕 ⼕匚 ⼖匸 ⼗十 ⼘卜 ⼙卩 ⼚厂 ⼛厶 ⼜又 ⼝口 ⼞囗 ⼟土 ⼠士 ⼡夂 ⼢夊 ⼣夕",
    "⼤大 ⼥女 ⼦子 ⼧宀 ⼨寸 ⼩小 ⼪尢 ⼫尸 ⼬屮 ⼭山 ⼮巛 ⼯工 ⼰己 ⼱巾 ⼲干 ⼳幺 ⼴广",
    "⼵廴 ⼶廾 ⼷弋 ⼸弓 ⼹彐 ⼺彡 ⼻彳 ⼼心 ⼽戈 ⼾戶 ⼿手 ⽀支 ⽁攴 ⽂文 ⽃斗 ⽄斤 ⽅方",
    "⽆无 ⽇日 ⽈曰 ⽉月 ⽊木 ⽋欠 ⽌止 ⽍歹 ⽎殳 ⽏毋 ⽐比 ⽑毛 ⽒氏 ⽓气 ⽔水 ⽕火 ⽖爪",
    "⽗父 ⽘爻 ⽙爿 ⽚片 ⽛牙 ⽜牛 ⽝犬 ⽞玄 ⽟玉 ⽠瓜 ⽡瓦 ⽢甘 ⽣生 ⽤用 ⽥田 ⽦疋 ⽧疒",
    "⽨癶 ⽩白 ⽪皮 ⽫皿 ⽬目 ⽭矛 ⽮矢 ⽯石 ⽰示 ⽱禸 ⽲禾 ⽳穴 ⽴立 ⽵竹 ⽶米 ⽷糸 ⽸缶",
    "⽹网 ⽺羊 ⽻羽 ⽼老 ⽽而 ⽾耒 ⽿耳 ⾀聿 ⾁肉 ⾂臣 ⾃自 ⾄至 ⾅臼 ⾆舌 ⾇舛 ⾈舟 ⾉艮",
    "⾊色 ⾋艸 ⾌虍 ⾍虫 ⾎血 ⾏行 ⾐衣 ⾑襾 ⾒見 ⾓角 ⾔言 ⾕谷 ⾖豆 ⾗豕 ⾘豸 ⾙貝 ⾚赤",
    "⾛走 ⾜足 ⾝身 ⾞車 ⾟辛 ⾠辰 ⾡辵 ⾢邑 ⾣酉 ⾤釆 ⾥里 ⾦金 ⾧長 ⾨門 ⾩阜 ⾪隶 ⾫隹",
    "⾬雨 ⾭靑 ⾮非 ⾯面 ⾰革 ⾱韋 ⾲韭 ⾳音 ⾴頁 ⾵風 ⾶飛 ⾷食 ⾸首 ⾹香 ⾺馬 ⾻骨 ⾼高",
    "⾽髟 ⾾鬥 ⾿鬯 ⿀鬲 ⿁鬼 ⿂魚 ⿃鳥 ⿄鹵 ⿅鹿 ⿆麥 ⿇麻 ⿈黃 ⿉黍 ⿊黑 ⿋黹 ⿌黽 ⿍鼎",
    "⿎鼓 ⿏鼠 ⿐鼻 ⿑齊 ⿒齒 ⿓龍 ⿔龜 ⿕龠 〆しめ 〸十 〹卄 〺卅 〼ます ㆠㄅ\ue001",
    "ㆡㄗ\ue001 ㆢㄐ\ue001 ㆣㄍ\ue001 ㆥㆤ\ue001 ㆧㄛ\ue001 ㆨㄨ\ue002 ㆩㄚ\ue001 ㆪㄧ\ue001",
    "ㆫㄨ\ue001 ㆮㄞ\ue001 ㆯㄠ\ue001 ㈀(ᄀ) ㈁(ᄂ) ㈂(ᄃ) ㈃(ᄅ) ㈄(ᄆ) ㈅(ᄇ) ㈆(ᄉ) ㈇(ᄋ)",
    "㈈(ᄌ) ㈉(ᄎ) ㈊(ᄏ) ㈋(ᄐ) ㈌(ᄑ) ㈍(ᄒ) ㈎(가) ㈏(나) ㈐(다) ㈑(라) ㈒(마)",
    "㈓(바) ㈔(사) ㈕(아) ㈖(자) ㈗(차) ㈘(카) ㈙(타) ㈚(파) ㈛(하) ㈜(주)",
    "㈝(오전) ㈞(오후) ㈠(一) ㈡(二) ㈢(三) ㈣(四) ㈤(五) ㈥(六) ㈦(七) ㈧(八) ㈨(九)",
    "㈩(十) ㈪(月) ㈫(火) ㈬(水) ㈭(木) ㈮(金) ㈯(土) ㈰(日) ㈱(株) ㈲(有) ㈳(社) ㈴(名)",
    "㈵(特) ㈶(財) ㈷(祝) ㈸(労) ㈹(代) ㈺(呼) ㈻(学) ㈼(監) ㈽(企) ㈾(資) ㈿(協) ㉀(祭)",
    "㉁(休) ㉂(自) ㉃(至) ㋀1月 ㋁2月 ㋂3月 ㋃4月 ㋄5月 ㋅6月 ㋆7月 ㋇8月 ㋈9月 ㋉10月 ㋊11月",
    "㋋12月 ㍘0点 ㍙1点 ㍚2点 ㍛3点 ㍜4点 ㍝5点 ㍞6点 ㍟7点 ㍠8点 ㍡9点 ㍢10点 ㍣11点 ㍤12点",
    "㍥13点 ㍦14点 ㍧15点 ㍨16点 ㍩17点 ㍪18点 ㍫19点 ㍬20点 ㍭21点 ㍮22点 ㍯23点 ㍰24点",
    "㏠1日 ㏡2日 ㏢3日 ㏣4日 ㏤5日 ㏥6日 ㏦7日 ㏧8日 ㏨9日 ㏩10日 ㏪11日 ㏫12日 ㏬13日 ㏭14日",
    "㏮15日 ㏯16日 ㏰17日 ㏱18日 ㏲19日 ㏳20日 ㏴21日 ㏵22日 ㏶23日 ㏷24日 ㏸25日 ㏹26日",
    "㏺27日 ㏻28日 ㏼29日 ㏽30日 ㏾31日 ꘓꔌꘋ ꘔꔞꘋ ꘕꔳꘋ ꘖꕇꘌ ꘗꕒꘋ ꘘꕘꘌ ꘙꕚꘌ ꘚꕠꘋ ꘛꖅꘋ ꘜꖴꘋ ꘝꗋꘋ ꘞꗑꘌ ꘟꗘꘋ",
    "\ua676і\u0308 ꜨTz ꜩtz ꜲAA ꜳaa ꜴAO ꜵao ꜶAU ꜷau ꜸAV ꜹav ꜺA\ue000v ꜻa\ue000v ꜼAY ꜽay ꝎOO",
    "ꝏoo ꝠVY ꝡvy ꝹD\ue001 ꝺd\ue001 ꝻF\ue001 ꝼf\ue001 ꝽG\ue001 ꞂR\ue001 ꞃr\ue001 ꞄS\ue001",
    "ꞅs\ue001 ꞆT\ue001 ꞇt\ue001 ꞠG\u0336 ꞡg\u0336 ꞢK\u0336 ꞣk\u0336 ꞤN\u0336 ꞥn\u0336",
    "ꞦR\u0336 ꞧr\u0336 ꞨS\u0336 ꞩs\u0336 ﬀff ﬁfi ﬂfl ﬃffi ﬄffl ﬅs\ue001t ﬆst ﬓմն ﬔմե ﬕմի ﬖվն",
    "ﬗմխ ﭏאל 𐦀𐦠\ue000 𐦁𐦡\ue000 𐦂𐦢\ue000 𐦃𐦣\ue000 𐦄𐦤\ue000 𐦅𐦥\ue000 𐦆𐦦\ue000 𐦇𐦦\ue001 𐦈𐦧\ue000",
    "𐦉𐦨\ue000 𐦊𐦩\ue000 𐦋𐦩\ue001 𐦌𐦪\ue000 𐦍𐦪\ue001 𐦎𐦫\ue000 𐦏𐦫\ue001 𐦐𐦬\ue000 𐦑𐦭\ue000",
    "𐦒𐦮\ue000 𐦓𐦯\ue001 𐦔𐦯\ue002 𐦕𐦱\ue000 𐦖𐦲\ue000 𐦗𐦳\ue000 𐦘𐦴\ue000 𐦙𐦴\ue001 𐦚𐦵\ue000",
    "𐦛𐦵\ue001 𐦜𐦶\ue000 𐦝𐦷\ue000 𐦰𐦯\ue000 𐬮𐬭\ue000 𐰁𐰀\ue000 𐰄𐰃\ue000 𐰈𐰇\ue000 𐰊𐰉\ue000",
    "𐰌𐰋\ue000 𐰎𐰍\ue000 𐰐𐰏\ue000 𐰒𐰑\ue000 𐰕𐰔\ue000 𐰗𐰖\ue000 𐰙𐰘\ue000 𐰛𐰚\ue000 𐰝𐰜\ue000",
    "𐰟𐰞\ue000 𐰥𐰤\ue000 𐰧𐰦\ue000 𐰩𐰨\ue000 𐰫𐰪\ue000 𐰮𐰭\ue000 𐰳𐰲\ue000 𐰵𐰴\ue000 𐰷𐰶\ue000",
    "𐰹𐰸\ue000 𐰻𐰺\ue000 𐱀𐰿\ue000 𐱂𐱁\ue000 𐱄𐱃\ue000 𐱆𐱅\ue000 🄀0. 🄁0, 🄂1, 🄃2, 🄄3, 🄅4, 🄆5, 🄇6,",
    "🄈7, 🄉8, 🄊9, 🄐(A) 🄑(B) 🄒(C) 🄓(D) 🄔(E) 🄕(F) 🄖(G) 🄗(H) 🄘(I) 🄙(J) 🄚(K) 🄛(L) 🄜(M) 🄝(N) 🄞(O)",
    "🄟(P) 🄠(Q) 🄡(R) 🄢(S) 🄣(T) 🄤(U) 🄥(V) 🄦(W) 🄧(X) 🄨(Y) 🄩(Z) 🄪〔S〕 🉀〔本〕 🉁〔三〕 🉂〔二〕",
    "🉃〔安〕 🉄〔点〕 🉅〔打〕 🉆〔盗〕 🉇〔勝〕 🉈〔敗〕"]),
  (6, 12, [
    "⑩10 ⑪11 ⑫12 ⑬13 ⑭14 ⑮15 ⑯16 ⑰17 ⑱18 ⑲19 ⑳20 ⓫11 ⓬12 ⓭13 ⓮14 ⓯15 ⓰16 ⓱17 ⓲18 ⓳19 ⓴20 ⓾10",
    "❿10 ➉10 ➓10 ㉄問 ㉅幼 ㉆文 ㉇箏 ㉈10 ㉉20 ㉊30 ㉋40 ㉌50 ㉍60 ㉎70 ㉏80 ㉑21 ㉒22 ㉓23 ㉔24 ㉕25",
    "㉖26 ㉗27 ㉘28 ㉙29 ㉚30 ㉛31 ㉜32 ㉝33 ㉞34 ㉟35 ㉮가 ㉯나 ㉰다 ㉱라 ㉲마 ㉳바",
    "㉴사 ㉵아 ㉶자 ㉷차 ㉸카 ㉹타 ㉺파 ㉻하 ㉼참고 ㉽주의 ㉾우 ㊀一 ㊁二 ㊂三",
    "㊃四 ㊄五 ㊅六 ㊆七 ㊇八 ㊈九 ㊉十 ㊊月 ㊋火 ㊌水 ㊍木 ㊎金 ㊏土 ㊐日 ㊑株 ㊒有 ㊓社",
    "㊔名 ㊕特 ㊖財 ㊗祝 ㊘労 ㊙秘 ㊚男 ㊛女 ㊜適 ㊝優 ㊞印 ㊟注 ㊠項 ㊡休 ㊢写 ㊣正 ㊤上",
    "㊥中 ㊦下 ㊧左 ㊨右 ㊩医 ㊪宗 ㊫学 ㊬監 ㊭企 ㊮資 ㊯協 ㊰夜 ㊱36 ㊲37 ㊳38 ㊴39 ㊵40",
    "㊶41 ㊷42 ㊸43 ㊹44 ㊺45 ㊻46 ㊼47 ㊽48 ㊾49 ㊿50 🄭CD 🄮WZ 🉐得 🉑可"]),
  (20, 29, [
    "ᴭa\ue000e ᶞd\ue000 ℠sm ™tm ㆒一 ㆓二 ㆔三 ㆕四 ㆖上 ㆗中 ㆘下 ㆙甲 ㆚乙 ㆛丙 ㆜丁 ㆝天",
    "㆞地 ㆟人 ꟸh\u0335 ꟹo\ue000e 🅪mc 🅫md"]),
  (22, 22, [
    "ゟょり ヿこと ㆳㄧ\ue001 ︙... ︰.."]),
  (23, 23, [
    "ﯸئې ﯻئى ﲗئج ﲘئح ﲙئخ ﲚئم ﲛئه ﲜبج ﲝبح ﲞبخ ﲟبم ﲠبه ﲡتج ﲢتح ﲣتخ ﲤتم ﲥته ﲦثم ﲧجح ﲨجم ﲩحج ﲪحم",
    "ﲫخج ﲬخم ﲭسج ﲮسح ﲯسخ ﲰسم ﲱصح ﲲصخ ﲳصم ﲴضج ﲵضح ﲶضخ ﲷضم ﲸطح ﲹظم ﲺعج ﲻعم ﲼغج ﲽغم ﲾفج ﲿفح ﳀفخ",
    "ﳁفم ﳂقح ﳃقم ﳄكج ﳅكح ﳆكخ ﳇكل ﳈكم ﳉلج ﳊلح ﳋلخ ﳌلم ﳍله ﳎمج ﳏمح ﳐمخ ﳑمم ﳒنج ﳓنح ﳔنخ ﳕنم ﳖنه",
    "ﳗهج ﳘهم ﳙه\u0670 ﳚيج ﳛيح ﳜيخ ﳝيم ﳞيه ﴭشج ﴮشح ﴯشخ ﴰشم ﴱسه ﴲشه ﴳطم ﵐتجم ﵒتحج ﵓتحم ﵔتخم",
    "ﵕتمج ﵖتمح ﵗتمخ ﵙجمح ﵜسحج ﵝسجح ﵠسمح ﵡسمج ﵣسمم ﵥصحح ﵨشحم ﵫشمخ ﵭشمم ﵰضخم ﵲطمح ﵳطمم ﵷعمم",
    "ﵽفخم ﶃلجج ﶆلخم ﶈلمح ﶉمحج ﶊمحم ﶌمجح ﶍمجم ﶎمخج ﶏمخم ﶒمجخ ﶓهمج ﶔهمم ﶕنحم ﶘنجم ﶝيمم ﶴقمح",
    "ﶵلحم ﶸنجح ﶺلجم ﷃكمم ﷄعجم ﷅصمم"]),
  (24, 24, [
    "ﳟئم ﳠئه ﳡبم ﳢبه ﳣتم ﳤته ﳥثم ﳦثه ﳧسم ﳨسه ﳩشم ﳪشه ﳫكل ﳬكم ﳭلم ﳮنم ﳯنه ﳰيم ﳱيه",
    "ﳲ\u064e\u0651 ﳳ\u064f\u0651 ﳴ\u0650\u0651 ﴴسج ﴵسح ﴶسخ ﴷشج ﴸشح ﴹشخ ﴺطم ﴻظم"]),
  (25, 25, [
    "ﮥە\u0654 ﮱے\u0654 ﯫئا ﯭئە ﯯئو ﯱئۇ ﯳئۆ ﯵئۈ ﯷئې ﯺئى ﱤئر ﱥئز ﱦئم ﱧئن ﱨئى ﱩئي ﱪبر ﱫبز ﱬبم",
    "ﱭبن ﱮبى ﱯبي ﱰتر ﱱتز ﱲتم ﱳتن ﱴتى ﱵتي ﱶثر ﱷثز ﱸثم ﱹثن ﱺثى ﱻثي ﱼفى ﱽفي ﱾقى ﱿقي ﲀكا ﲁكل ﲂكم",
    "ﲃكى ﲄكي ﲅلم ﲆلى ﲇلي ﲈما ﲉمم ﲊنر ﲋنز ﲌنم ﲍنن ﲎنى ﲏني ﲐى\u0670 ﲑير ﲒيز ﲓيم ﲔين ﲕيى ﲖيي ﴑطى",
    "ﴒطي ﴓعى ﴔعي ﴕغى ﴖغي ﴗسى ﴘسي ﴙشى ﴚشي ﴛحى ﴜحي ﴝجى ﴞجي ﴟخى ﴠخي ﴡصى ﴢصي ﴣضى ﴤضي ﴥشج ﴦشح ﴧشخ",
    "ﴨشم ﴩشر ﴪسر ﴫصر ﴬضر ﴼا\u064b ﵑتحج ﵘجمح ﵚحمي ﵛحمى ﵞسجى ﵟسمح ﵢسمم ﵤصحح ﵦصمم ﵧشحم ﵩشجي ﵪشمخ",
    "ﵬشمم ﵮضحى ﵯضخم ﵱطمح ﵴطمي ﵵعجم ﵶعمم ﵸعمى ﵹغمم ﵺغمي ﵻغمى ﵼفخم ﵾقمح ﵿقمم ﶀلحم ﶁلحي ﶂلحى",
    "ﶄلجج ﶅلخم ﶇلمح ﶋمحي ﶖنحى ﶗنجم ﶙنجى ﶚنمي ﶛنمى ﶜيمم ﶞبخي ﶟتجي ﶠتجى ﶡتخي ﶢتخى ﶣتمي ﶤتمى",
    "ﶥجمي ﶦجحى ﶧجمى ﶨسخى ﶩصحي ﶪشحي ﶫضحي ﶬلجي ﶭلمي ﶮيحي ﶯيجي ﶰيمي ﶱممي ﶲقمي ﶳنحي ﶶعمي ﶷكمي",
    "ﶹمخي ﶻكمم ﶼلجم ﶽنجح ﶾجحي ﶿحجي ﷀمجي ﷁفمي ﷂبحي ﷆسخي ﷇنجي ﻶلآ ﻸلأ ﻺلإ ﻼلا"]),
  (26, 26, [
    "ﮤە\u0654 ﮰے\u0654 ﯝۇء ﯪئا ﯬئە ﯮئو ﯰئۇ ﯲئۆ ﯴئۈ ﯶئې ﯹئى ﰀئج ﰁئح ﰂئم ﰃئى ﰄئي ﰅبج ﰆبح ﰇبخ",
    "ﰈبم ﰉبى ﰊبي ﰋتج ﰌتح ﰍتخ ﰎتم ﰏتى ﰐتي ﰑثج ﰒثم ﰓثى ﰔثي ﰕجح ﰖجم ﰗحج ﰘحم ﰙخج ﰚخح ﰛخم ﰜسج ﰝسح",
    "ﰞسخ ﰟسم ﰠصح ﰡصم ﰢضج ﰣضح ﰤضخ ﰥضم ﰦطح ﰧطم ﰨظم ﰩعج ﰪعم ﰫغج ﰬغم ﰭفج ﰮفح ﰯفخ ﰰفم ﰱفى ﰲفي ﰳقح",
    "ﰴقم ﰵقى ﰶقي ﰷكا ﰸكج ﰹكح ﰺكخ ﰻكل ﰼكم ﰽكى ﰾكي ﰿلج ﱀلح ﱁلخ ﱂلم ﱃلى ﱄلي ﱅمج ﱆمح ﱇمخ ﱈمم ﱉمى",
    "ﱊمي ﱋنج ﱌنح ﱍنخ ﱎنم ﱏنى ﱐني ﱑهج ﱒهم ﱓهى ﱔهي ﱕيج ﱖيح ﱗيخ ﱘيم ﱙيى ﱚيي ﱛذ\u0670 ﱜر\u0670",
    "ﱝى\u0670 ﱞ\u064c\u0651 ﱟ\u064d\u0651 ﱠ\u064e\u0651 ﱡ\u064f\u0651 ﱢ\u0650\u0651",
    "ﱣ\u0651\u0670 ﳵطى ﳶطي ﳷعى ﳸعي ﳹغى ﳺغي ﳻسى ﳼسي ﳽشى ﳾشي ﳿحى ﴀحي ﴁجى ﴂجي ﴃخى ﴄخي ﴅصى ﴆصي",
    "ﴇضى ﴈضي ﴉشج ﴊشح ﴋشخ ﴌشم ﴍشر ﴎسر ﴏصر ﴐضر ﴽا\u064b ﷰصلے ﷱقلے ﷲالله ﷳاكبر ﷴمحمد ﷵصلعم ﷶرسول",
    "ﷷعليه ﷸوسلم ﷹصلى ﷺصلى\u00a0الله\u00a0عليه\u00a0وسلم ﷻجل\u00a0جلاله ﷼ریال ﻵلآ ﻷلأ ﻹلإ ﻻلا"]),
  (28, 29, [
    "㉐PTe ㋌Hg ㋍erg ㋎eV ㋏LTd ㌀ぁは\u309aーと ㌁ぁるふぁ ㌂ぁんへ\u309aぁ ㌃ぁーる",
    "㌄ぃにんく\u3099 ㌅ぃんち ㌆ぅぉん ㌇ぇすくーと\u3099 ㌈ぇーゕー ㌉ぉんす ㌊ぉーむ",
    "㌋ゕぃり ㌌ゕらっと ㌍ゕろりー ㌎ゕ\u3099ろん ㌏ゕ\u3099んま ㌐き\u3099ゕ\u3099",
    "㌑き\u3099にー ㌒きゅりー ㌓き\u3099るた\u3099ー ㌔きろ ㌕きろく\u3099らむ",
    "㌖きろめーとる ㌗きろゎっと ㌘く\u3099らむ ㌙く\u3099らむとん ㌚くるせ\u3099ぃろ",
    "㌛くろーね ㌜ゖーす ㌝こるな ㌞こーほ\u309a ㌟さぃくる ㌠さんちーむ ㌡しりんく\u3099",
    "㌢せんち ㌣せんと ㌤た\u3099ーす ㌥て\u3099し ㌦と\u3099る ㌧とん ㌨なの ㌩のっと",
    "㌪はぃっ ㌫は\u309aーせんと ㌬は\u309aーっ ㌭は\u3099ーれる ㌮ひ\u309aぁすとる",
    "㌯ひ\u309aくる ㌰ひ\u309aこ ㌱ひ\u3099る ㌲ふぁらっと\u3099 ㌳ふぃーと",
    "㌴ふ\u3099っしぇる ㌵ふらん ㌶へくたーる ㌷へ\u309aそ ㌸へ\u309aにひ ㌹へるっ",
    "㌺へ\u309aんす ㌻へ\u309aーし\u3099 ㌼へ\u3099ーた ㌽ほ\u309aぃんと ㌾ほ\u3099ると",
    "㌿ほん ㍀ほ\u309aんと\u3099 ㍁ほーる ㍂ほーん ㍃まぃくろ ㍄まぃる ㍅まっは ㍆まるく",
    "㍇まんしょん ㍈みくろん ㍉みり ㍊みりは\u3099ーる ㍋めゕ\u3099 ㍌めゕ\u3099とん",
    "㍍めーとる ㍎ゃーと\u3099 ㍏ゃーる ㍐ゅぁん ㍑りっとる ㍒りら ㍓るひ\u309aー",
    "㍔るーふ\u3099る ㍕れむ ㍖れんとゖ\u3099ん ㍗ゎっと ㍱hPa ㍲da ㍳AU ㍴bar ㍵oV ㍶pc ㍷dm",
    "㍸dm2 ㍹dm3 ㍺IU ㍻平成 ㍼昭和 ㍽大正 ㍾明治 ㍿株式会社 ㎀pA ㎁nA ㎂μA ㎃mA ㎄kA ㎅KB",
    "㎆MB ㎇GB ㎈cal ㎉kcal ㎊pF ㎋nF ㎌μF ㎍μg ㎎mg ㎏kg ㎐Hz ㎑kHz ㎒MHz ㎓GHz ㎔THz ㎕μl",
    "㎖ml ㎗dl ㎘kl ㎙fm ㎚nm ㎛μm ㎜mm ㎝cm ㎞km ㎟mm2 ㎠cm2 ㎡m2 ㎢km2 ㎣mm3 ㎤cm3 ㎥m3",
    "㎦km3 ㎧m∕s ㎨m∕s2 ㎩Pa ㎪kPa ㎫MPa ㎬GPa ㎭rad ㎮rad∕s ㎯rad∕s2 ㎰ps ㎱ns ㎲μs ㎳ms",
    "㎴pV ㎵nV ㎶μV ㎷mV ㎸kV ㎹MV ㎺pW ㎻nW ㎼μW ㎽mW ㎾kW ㎿MW ㏀kΩ ㏁MΩ ㏂a.m. ㏃Bq ㏄cc",
    "㏅cd ㏆C∕kg ㏇Co. ㏈dB ㏉Gy ㏊ha ㏋HP ㏌in ㏍KK ㏎KM ㏏kt ㏐lm ㏑ln ㏒log ㏓lx ㏔mb",
    "㏕mil ㏖mol ㏗PH ㏘p.m. ㏙PPm ㏚PR ㏛sr ㏜Sv ㏝Wb ㏞V∕m ㏟A∕m ㏿gal 🅊HV 🅋MV 🅌SD 🅍SS 🅎PPv",
    "🅏WC 🆋IC 🆌PA 🆍SA 🆎AB 🆏WC 🆐DJ 🆑CL 🆒COol 🆓FRee 🆔ID 🆕NEw 🆖NG 🆗OK 🆘SOs 🆙UP! 🆚VS",
    "🈀ほゕ 🈁ここ 🈐手 🈑字 🈒双 🈓て\u3099 🈔二 🈕多 🈖解 🈗天 🈘交 🈙映 🈚無 🈛料 🈜前",
    "🈝後 🈞再 🈟新 🈠初 🈡終 🈢生 🈣販 🈤声 🈥吹 🈦演 🈧投 🈨捕 🈩一 🈪三 🈫遊 🈬左 🈭中",
    "🈮右 🈯指 🈰走 🈱打 🈲禁 🈳空 🈴合 🈵満 🈶有 🈷月 🈸申 🈹割 🈺営"]),
  (30, 30, [
    "¼1⁄4 ½1⁄2 ¾3⁄4 ⅐1⁄7 ⅑1⁄9 ⅒1⁄10 ⅓1⁄3 ⅔2⁄3 ⅕1⁄5 ⅖2⁄5 ⅗3⁄5 ⅘4⁄5 ⅙1⁄6 ⅚5⁄6 ⅛1⁄8 ⅜3⁄8 ⅝5⁄8",
    "⅞7⁄8 ⅟1⁄ ↉0⁄3"])]

end Root
end Collation
end YamlOrder
