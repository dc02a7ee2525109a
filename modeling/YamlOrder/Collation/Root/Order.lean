/-!
This module contains the common order of characters, before any language changes it: which
characters stand for letters, digits and signs of their own, which are marks on other characters,
and which do not count at all.

Lists of characters are written in a short form: `x-y` means all characters from `x` to `y`, and a
backslash takes the next character as it is.
-/

namespace YamlOrder
namespace Collation
namespace Root

/-- The characters with a place of their own: white space, punctuation, signs, digits, letters. -/
def order : List String := [
  "\x09-\x0d\u0085\u2028\u2029 ‾_‗\\-֊᐀᭠᠆᠇‐‒-―⸺⸻⁓⸗〜〰゠・,⸴⸲՝،؍٫٬߸᠂᠈꓾꘍꛵、﹅﹆;؛⁏⸵꛶:։؞܃-܈࠰-࠾፡",
  "፣-፦᠄᠅༔៖᭝꧇᛫᛬᛭꛴!¡՜߹᥄?¿⸮՞؟܉፧᥅⳺⳻꘏꛷꫱𑅃‽⸘.᠁۔܁܂።᠃᠉᙮᭜⳹⳾⸰꓿꘎꛳。·⸱⸳।॥꣎꣏᰻᰼꡶꡷᜵᜶꤯၊။។៕᪨-᪫᭞᭟꧈꧉꩝꩞꩟꫰꯫𐩖𐩗𑁇𑁈𑃀𑃁𑅁𑅂𑇅𑇆",
  "᱾᱿܀߷჻፠፨᨞᨟᭚᭛꧁-꧆꧊-꧍꛲꥟𐡗𐬺-𐬿𑂾𑂿𑅀𑇈⁕⁖⁘-⁞⸪-⸭⳼⳿⸙𐤿𐄀𐄁𐄂𐎟𐏐𐤟𒑰-𒑳'‘-‛‹›\"“-‟〝〞〟«»()[]\x7b\x7d༺-༽᚛᚜⁅⁆⌈-⌋⧼⧽",
  "⦃-⦘⟅⟆⟦-⟯❨-❵⸂-⸅⸉⸊⸌⸍⸜⸝⸠-⸩〈-】〔-〛﴾﴿‖⧘-⧛§⸹¶⁋@*⁎⁑٭꙳/\\\\&⁊#%٪‰؉‱؊†‡⸶⸷⸸•‣‧⁃⁌⁍′‵〃〽‸※‿⁔⁀⁐⁁⁂⸀⸁⸆⸇",
  "⸈⸋⸎-⸖⸚⸛⸞⸟꙾՚՛՟־׀׃׆׳״܊-܍࡞᠀॰꣸꣹꣺૰෴๏๚๛꫞꫟༄-༊࿐࿑་།-༒྅࿒࿓࿔࿙࿚᰽᰾᰿၌-၏៘៙៚᪠-᪦᪬᪭᳀-᳇⵰꡴꡵᯼-᯿꤮꧞꧟꩜𑁉-𑁍𐩐-𐩕𐩘𐬹𑂻𑂼𑇇\x60",
  "´˜^¯˘˙¨˚˝¸˛᾽῾῀゛゜ʹ͵ʺ˂-ˏ˒-˗˞˟˥-˭˯-˿᎐-᎙꜀-꜡ꞈ꞉꞊°҂؈𞻰𞻱؎؏۞۩﷽﮲-﯁߶৺୰௳-௸௺౿൹꠨-꠫꠶꠷꠹༁༂༃༓༕༖༗༚-༟༴༶༸྾-࿅࿇-࿌࿎",
  "࿏࿕-࿘᙭᥀႞႟꩷꩸꩹᧠-᧿᭡-᭪᭴-᭼©®℄℈℔℗℘℞℟℣℥℧℩℮℺⅁-⅄⅊⅌⅏←→↑↓-↙↜-↭↯-⇌⇐-∃∅-∈∊∋∍϶∎-∑+±÷×<=>¬|¦~−⁒∓∔∕⁄∖-∛؆∜؇∝-∣",
  "∥∧-∫∮∱-≀≂≃≅≆≈≊-≟≡≣-≬≲≳≶≷≺-≿⊂⊃⊆⊇⊊-⊫⊰-⊼⅋⊽-⋟⋤-⋩⋮-⌇⌌-⌨⌫-⏳␀-␦⑀-⑊─-☯☸-♬♰-⚉⚐-⛿🇦-🇿✁-❧➔-⟄⟇-⟥⟰-⟿⤀-⦂",
  "⦙-⧗⧜-⧻⧾-⨋⨍-⩳⩷-⫛⫝-⭌⭐-⭙⳥-⳪⠀-⣿⚊-⚏☰-☷䷀-䷿𝌀-𝍖꒐-꓆𐄷-𐄿𐅹-𐆉𐆐-𐆛𐇐-𐇼𝀀-𝃵𝄀-𝄦♭♮♯𝄪-𝄹𝄩𝄺-𝅝𝅪𝅫𝅬𝆃𝆄𝆌-𝆩𝆮-𝆺𝇁-𝇝𝈀-𝉁𝉅",
  "🀀-🀫🀰-🂓🂠-🂮🂱-🂾🃁-🃏🃑-🃟🌀-🌠🌰-🌵🌷-🍼🎀-🎓🎠-🏄🏆-🏊🏠-🏰🐀-🐾👀👂-📷📹-📼🔀-🔽🕀-🕃🕐-🕧🗻-🙀",
  "🙅-🙏🚀-🛅🜀-🝳⿰-⿻㇀-㇣〄〒〓〠〷〾〿㆐㆑㉿￼�ːˑॱๆໆៗᪧꧏꩰꫝꫳꫴ々〻〱〳〵ゝーヽ¤¢$£¥֏؋৲৳৻૱꠸௹฿៛₠-₧",
  "₩-₺0-9৴-৹୲-୷꠰-꠵௰௱௲൰-൵፲-፼ↀↁↂↆↇↈ𐹩-𐹾⳽𐌢𐌣𐄐-𐄳𐅀𐅁𐅄-𐅇𐅉-𐅎𐅐-𐅗𐅠-𐅲𐅴-𐅸𐏓𐏔𐏕𐩾𐤗𐤘𐤙𐡛-𐡟𐭜-𐭟𐭼-𐭿𑁛-𑁥𐩄-𐩇𒐲𒐳𒑚-𒑢𝍩-𝍱aᴀⱥᶏᴁᴂ",
  "ɐɑᶐɒbʙƀᴯᴃᵬᶀɓƃcᴄȼꞓƈɕↄꜿdᴅᴆᵭᶁɖɗᶑƌȡꝱẟeᴇɇᶒⱸǝⱻəᶕɛᶓɘɚɜᶔᴈɝɞʚɤfꜰᵮᶂƒⅎꟻgɡɢǥᶃɠʛᵷꝿɣƣhʜƕɦⱨⱶꜧɧʻʽiıɪꟾᴉɨᵻᶖɩᵼj",
  "ȷᴊɉʝɟʄkᴋᶄƙⱪꝁꝃꝅʞlʟꝇᴌꝉƚⱡɫɬᶅɭꞎȴꝲɮꞁƛʎmᴍᵯᶆɱꟽꟿꝳnɴᴻᴎᵰɲƞꞑᶇɳȵꝴŋoᴏᴑɶᴔᴓɔᴐᴒᶗꝍᴖᴗⱺɵꝋɷȣᴕpᴘᵽꝑᵱᶈƥꝓꝕꟼɸⱷqꝗꝙʠɋĸr",
  "ʀꝛᴙɍᵲɹᴚɺᶉɻⱹɼɽɾᵳɿʁꝵꝶꝝsꜱᵴᶊʂȿẜẝʃᶋƪʅᶘʆtᴛŧⱦᵵƫƭʈȶꝷʇuᴜᴝᴞᵫʉᵾᶙɥʮʯɯꟺᴟɰʊᵿvᴠꝟᶌʋⱱⱴỽʌwᴡⱳʍxᶍyʏɏƴỿȝzᴢƶᵶᶎȥʐʑɀ",
  "ⱬꝣʒᴣƹᶚƺʓþꝥꝧƿꝩꝫꝭꝯꝸƻꜫꜭꜯƨƽƅʔɂˀʼˮʾꜣꞌʕʿˁᴤᴥꜥʡʢʖǀ-ǃʗʘʬʭαβγᴦδεϝͷϛζͱηθιϳκλᴧμ-πᴨϻϟϙρᴩϼσͼͻͽτ-ψᴪωϡͳϸⲁⲃⲅⲇ",
  "ⲉⲷⲋⲍⲏⲑⲓⲕⲹⲗⲙⲛⲻⲽⲝⲟⲡⲣⲥⲧⲩⲫⲭⲯⲱⲿⳁϣⳬⳃⳅⳇϥϧⳳⳉϩⳋⳍⳏⳑⳓⳕϫⳮⳗϭⳙⳛⳝϯⲳⲵⳟⳡⳣаӑӓәӛӕбвгғӻҕӷдԁꚁђꙣԃѓҙеѐӗёєжӂӝꚅҗзӟꙁԅԑ",
  "ꙃѕꙅӡꚉԇꚃиѝӣӥҋіꙇїйјꙉкқӄҡҟҝԟԛлᴫӆԓԡљꙥԉԕмӎꙧнӊңӈԣҥњԋоӧөӫпԥҧҁрҏԗсԍҫтꚍԏҭꚋћќуӯўӱӳүұꙋѹфхӽӿҳһԧꚕѡѿꙍѽѻцꙡꚏ",
  "ҵꚑчӵꚓҷӌҹꚇҽҿџшꚗщꙏⸯꙿъꙑыӹьҍѣꙓэӭюꙕꙗяԙѥѧꙙѫꙛѩꙝѭѯѱѳѵѷꙟҩԝӏⰰ-ⱞაⴀბⴁგⴂდⴃეⴄვⴅზⴆჱⴡთⴇიⴈკⴉლⴊმⴋნⴌჲⴢოⴍპⴎჟⴏრⴐს",
  "ⴑტⴒჳⴣუⴓფⴔქⴕღⴖყⴗშⴘჩⴙცⴚძⴛწⴜჭⴝხⴞჴⴤჯⴟჰⴠჵⴥჶჷⴧჸჹჺჽⴭჾჿա-ֆՙא-יכלמנסעפצ-ת𐤀-𐤕ࠀ-\u0817ࠚ\u081bءآأٲٱؤإٳݳݴ",
  "ئࢨࢩࢬاٮبٻپڀݐ-ݕࢠݖةتثٹٺټٽٿجڃڄچڿڇࢢحخځڂڅݗݘݮݯݲݼدذڈ-ڐۮݙݚرزڑ-ڙۯݛݫݬݱࢪسشښڛڜۺݜݭݰݽݾصضڝڞۻطظڟࢣعغڠۼݝݞݟفڡ-ڤࢤ",
  "ڥڦݠݡٯقڧڨࢥكک-ڬݿڭ-ڴݢػؼݣݤلڵ-ڸݪࢦمݥݦࢧنں-ڽڹݧݨݩهھہۃۿەوۄ-ۋۏݸݹࢫىيیۍێېۑؽؾؿؠݵݶݷےݺݻܐܒܓܖܕܗܘܙݍܚܛܝܞܟݎܠ-ܣܥܦݏ",
  "ܨ-ܬࡀ-ࡘހޙޚށނރޜބ-އޢޣވޥމފދޛތޘޠޡލގޤޏސޝޞޟޑ-ޗޱ\u07a6-\u07b0ߊ-ߧߴߵⴰ-ⴻⵦⴼ-ⵓⵧⵔ-ⵥⵯሀ-ሏⶀሐ-ሟᎀ-ᎃⶁሠ-ሯⶂሰ-ሷⶃꬁ-ꬆ",
  "ሸ-ሿⶄቀ-ቈቊ-ቍቐ-ቖቘቚ-ቝበ-ቧᎄ-ᎇⶅቨ-ቷⶆቸ-ቿⶇኀ-ኈኊ-ኍነ-ኗⶈኘ-ኟⶉአ-ኧⶊከ-ኰኲ-ኵኸ-ኾዀዂ-ዅወ-ዖዘ-ዟⶋꬑ-ꬖዠ-ዷⶌꬉ-ꬎዸ-ዿⶍጀ-ጇⶎገ-ጐ",
  "ጒ-ጕጘ-ጟⶓ-ⶖጠ-ጧⶏጨ-ጯⶐꬠ-ꬦጰ-ጷⶑጸ-ጿꬨ-ꬮፀ-ፏᎈ-ᎋፐ-ፗᎌ-ᎏⶒፘፙፚⶠ-ⶦⶨ-ⶮⶰ-ⶶⶸ-ⶾⷀ-ⷆⷈ-ⷎⷐ-ⷖⷘ-ⷞॐॲऄअआॳ-ॷइ-ऋॠऌॡऍ-गॻघ-जॹ",
  "ॼझ-डॾढ-नपफबॿभमयॺरलळव-हऽॽᳩᳵᳶꣲꣻ\u093e\u093a\u093b\u094f\u0956\u0957\u093f-\u0944\u0962\u0963",
  "\u0945\u0955\u0946\u0947\u094e\u0948-\u094dঅ-ঋৠঌৡএঐও-নপ-রৰলৱশ-হঽ-\u09c4\u09e2\u09e3\u09c7",
  "\u09c8\u09cb\u09cc\u09cd\u09d7ੴੳਉਊਓਅਆਐਔੲਇਈਏਸਹ\u0a51ਕ-ਨਪ-ਯ\u0a75ਰਲਵੜ\u0a3e-\u0a42\u0a47\u0a48",
  "\u0a4b\u0a4c\u0a4dૐઅ-ઋૠઌૡઍએઐઑઓ-નપ-રલવ-હળઽ-\u0ac4\u0ae2\u0ae3\u0ac5\u0ac7\u0ac8\u0ac9\u0acb",
  "\u0acc\u0acdଅ-ଋୠଌୡଏଐଓ-ନପ-ଯୟରଲଳଵୱଶ-ହଽ-\u0b44\u0b62\u0b63\u0b47\u0b48\u0b4b\u0b4c\u0b4d\u0b56",
  "\u0b57ௐஅ-ஊஎஏஐஒஓஔஃகஙசஞடணதநபமயரலவழளறனஜஶ-ஹ\u0bbe-\u0bc2\u0bc6\u0bc7\u0bc8\u0bca-\u0bcd\u0bd7అ-ఋ",
  "ౠఌౡఎఏఐఒ-చౘఛజౙఝ-నప-లవ-హళఽ-\u0c44\u0c62\u0c63\u0c46\u0c47\u0c48\u0c4a-\u0c4d\u0c55\u0c56ಅ-ಋೠಌೡ",
  "ಎಏಐಒ-ನಪ-ಲವ-ಹಳೞಽೱೲ\u0cbe-\u0cc4\u0ce2\u0ce3\u0cc6\u0cc7\u0cc8\u0cca-\u0ccd\u0cd5\u0cd6അ-ഋൠഌൡഎ",
  "ഏഐഒ-രലവ-ഹളഴറഺഽ-\u0d44\u0d62\u0d63\u0d46\u0d47\u0d48\u0d4a\u0d4b\u0d4c\u0d57\u0d4dඅ-ඖක-නඳ-රල",
  "ව-ෆ\u0dcf-\u0dd4\u0dd6\u0dd8\u0df2\u0ddf\u0df3\u0dd9-\u0dde\u0dcaꫲꯀ-ꯚꫠ-ꫪ\uabe3-\uabea",
  "\uaaeb-\uaaef\uaaf5ꯛ-ꯢ\uabed\uaaf6ꠀ-ꠊꠌ-\ua827ꢂ-\ua8c4𑂃-𑂙𑂛𑂝-𑂪𑂬-𑂹𑇄𑆃-𑆲𑇁𑇂𑇃𑆳-𑇀𑚀-𑚉𑚨𑚧𑚩𑚊-𑚦𑚪𑚭-𑚶ᮃ-ᮊᮮ",
  "ᮋ-ᮘᮽᮙ\u1bacᮚ\u1ba1ᮛ\u1ba2ᮻᮜ\u1ba3ᮼᮝ\u1badᮞᮟᮯᮠ\u1ba4-\u1bab𑀅-𑀳𑀃𑀄𑀴-𑁆𐨀-𐨃𐨅𐨆𐨌𐨐𐨲𐨑𐨒𐨓𐨕𐨖𐨗𐨙𐨚𐨛𐨳𐨜-𐨱𐨿",
  "ก-\u0e3aเ-ๅໞກຂຄງຈສຊໟຍດ-ທນ-ຟມຢຣລວຫອ-\u0eb9\u0ebb\u0ebcຽເ-ໄꪀ-\uaabeꫀꫂꫛꫜཀ\u0f90ཫཁ\u0f91ག\u0f92ང",
  "\u0f94ཅ\u0f95ཆ\u0f96ཇ\u0f97ཉ\u0f99ཊ\u0f9aཋ\u0f9bཌ\u0f9cཎ\u0f9eཏ\u0f9fཐ\u0fa0ད\u0fa1ན\u0fa3པ",
  "\u0fa4ཕ\u0fa5བ\u0fa6མ\u0fa8ཙ\u0fa9ཚ\u0faaཛ\u0fabཝ\u0fadཞ\u0faeཟ\u0fafའ\u0fb0ཡ\u0fb1ར\u0fb2ཬལ",
  "\u0fb3ཤ\u0fb4ཥ\u0fb5ས\u0fb6ཧ\u0fb7ཨ\u0fb8ྈ\u0f8dྉ\u0f8eྌ\u0f8fྊྋ\u0f71\u0f72\u0f73\u0f80",
  "\u0f81\u0f74-\u0f7d\u0f84ᰀ-ᰉᱍᱎᱏᰊ-ᰚ\u1c24ᰛ\u1c25ᰜ-ᰣ\u1c36\u1c26-\u1c35ꡀ-ꡇꡩ-ꡬꡈ-ꡓꡧꡔ-ꡗꡨꡭꡘꡱꡲꡙꡚꡮꡛꡜ",
  "ꡯꡰꡝꡢ-ꡥꡞ-ꡡꡦꡳᤀ-ᤜ\u1920-\u192b\u1930-\u1938ᜀ-ᜌᜎ-\u1714ᜠ-\u1734ᝀ-\u1753ᝠ-ᝬᝮᝯᝰ\u1772\u1773",
  "ᨀ-\u1a1bᯀᯂᯅᯇᯉᯋᯎᯐᯑᯒᯔᯖᯘᯛᯝᯞᯠ-ᯥ\u1be7\u1be9\u1bea\u1bec\u1bee\u1bf0-\u1bf3ꤰ-\ua953ꤊ-\ua92aကၵခၶဂၷ",
  "ꩠဃငၚစၸꩡဆꩢဇꩣၹꩲဈၛꩤၡဉၺꩥညဋꩦဌꩧဍꩨဎꩩဏၮတထဒၻဓꩪနၼꩫ\u105eပဖၽၾꩯႎဗၿဘမ\u105fယ\u103bရꩳꩺ\u103cလ\u1060ဝ\u103d",
  "\u1082ႀၐၑၥသꩬဟႁꩭ\u103eꩮꩱဠၜၝၯၰၦအ-ဦၒ-ၕဧ-ဪ\u102c\u1083\u1072\u109c\u102d\u1071\u102e\u1033\u102f",
  "\u1073\u1074\u1030\u1056-\u1059\u1031\u1084\u1035\u1085\u1032\u109d\u1034\u1062\u1067\u1068",
  "\u1086\u1039\u103a\u1063\u1064\u1069-\u106d\u1087\u108b\u1088\u108c\u1089\u108a\u108f",
  "\u109a\u109b\uaa7bꩴꩵꩶ𑄃-𑄴ក-អៜឣ-ឳ\u17b6-\u17c5\u17d2ᥐ-ᥭᥰ-ᥴᦀ-ᦫᦰ-ᧉᨠ-ᩌᩓ\u1a6b\u1a55\u1a56\u1a57",
  "\u1a5c\u1a5d\u1a5eᩍ-ᩒ\u1a61\u1a6c\u1a62\u1a63\u1a65-\u1a6a\u1a6e\u1a6f\u1a73\u1a70\u1a71",
  "\u1a72\u1a6d\u1a60ꨀ-ꨨ\uaa33-\uaa36\uaa29-\uaa32ꩀ-\uaa4dᬅ-ᬓᭅᭆᬔ-ᬢᭇᬣ-ᬧᭈᬨ-ᬯᭉᬰᬱᬲᭊᭋᬳ\u1b35-\u1b44",
  "ꦄ-ꦪ\ua9beꦫ\ua9bfꦭ-ꦲ\ua9b4\ua9bc\ua9b6-\ua9b9\ua9bd\ua9ba\ua9bb\ua9c0ᢀ-\u1886ᡃᠠᢇᠡᡄᡝᠢᡅᡞᡳᢈᡟᠣᡆᠤᡇ",
  "ᡡᠥᡈᠦᡉᡠᠧᠨᠩᡊᡢᢊᢛᠪᡋᠫᡌᡦᠬᡍᠭᡎᡤᢚᡥᠮᡏᠯᠰᠱᡧᢜᢝᢢᢤᢥᠲᡐᡨᠳᡑᡩᠴᡒᡱᡜᢋᠵᡓᡪᡷᠶᡕᡲᠷᡵᠸᡖᠹᡫᡶᠺᡗᡣᡴᢉᠻᠼᡔᡮᠽᡯᡘᡬᠾᡙᡭᠿ-ᡂᡚᡛᡰᢌᢞᢍᢎᢟᢏᢐᢘᢠ",
  "ᢑᢡᢒᢓᢨᢔᢣᢕᢙᢖᢗᢦᢧᢪ\u18a9ᱚ-ᱽᎠ-Ᏼᐁ-ᕻᕽᙯᕾ-ᖍᙰᖎ-ᖕᙱ-ᙶᖖ-ᖦᕼᖧ-ᙬᙷ-ᙿᢰ-ᣵᚁ-ᚚᚠᚢᚦᚨᚯ-ᚲᚷᚹᚺᚾᛁᛃᛅᛇ-ᛊᛏᛒᛖᛗᛚᛜᛞᛟᚪᚫᚣᛠᛣᚸᛤᛡᛢᛥ",
  "ᛦ𐰀𐰂𐰃𐰅𐰆𐰇𐰉𐰋𐰍𐰏𐰑𐰓𐰔𐰖𐰘𐰚𐰜𐰞𐰠-𐰤𐰦𐰨𐰪𐰬𐰭𐰯-𐰲𐰴𐰶𐰸𐰺𐰼-𐰿𐱁𐱃𐱅𐱇𐱈ꔀ-ꘌꚠ-ꛯ𖠀-𖨸ᄀ-ᅞꥠ-ꥼᅟ-ᆧힰ-ퟆᆨ-ᇿퟋ-ퟻぁぃぅ𛀀ぇぉゕきく",
  "ゖこさしすせそたちってとな-はひふへほま-ゃゅょら-ゎゐ-ん𛀁ㄅㄆㄇㆬㄈㄪㄉ-ㄎㄫㆭㄏ-ㄒㄬㄓ-ㄙ",
  "ㆸㆹㆺㄚㄛㆦㄜㄝㆤㄞ-ㄤㆲㄥㆰㆱㄦ-ㄩㄭꀀ-ꒌꓸ-ꓻꓽꓼꓐ-ꓩꓫꓭꓪꓬꓮ-ꓷ𖼀-𖼅𖼇-𖼒𖼔-𖼤𖼦-𖼾𖽀-𖽄𖽐-𖽾𖾏-𖾟𐊀-𐊜𐊠-𐋐𐤠-𐤹𐌀-𐌞",
  "𐌰-𐍊𐐨-𐒝𑃐-𑃨𐀀-𐀋𐀍-𐀦𐀨-𐀺𐀼𐀽𐀿-𐁍𐁐-𐁝𐂀-𐃺𐠀-𐠅𐠈𐠊-𐠵𐠷𐠸𐠼𐠿𐩠-𐩼𐬀-𐬭𐬯-𐬵𐡀-𐡕𐭀-𐭕𐭠-𐭲𐎀-𐎝𐎠-𐏃𐏈-𐏏𒀀-𒉢𒋔𒋕𒉣-𒋓𒋖-𒍮𓀀-𓐮𐦠-𐦯𐦱-𐦷𐦾𐦿𐦞𐦟"]

/-- The letters after which three places are left free. -/
def spaced : List String := [
  "aɐɑɒbʙƀɓƃcȼƈɕdɖɗƌȡeɇǝəɛɘɚɜɝɞʚɤfƒgɡɢǥɠʛɣƣhʜƕɦɧiıɪɨɩjȷɉʝɟʄkƙʞlʟƚɫɬɭȴɮƛʎmɱnɴɲƞɳȵŋoɶɔɵɷȣpƥɸqʠɋĸr",
  "ʀɍɹ-ɿʁsʂȿʃƪʅʆtŧƫƭʈȶʇuʉɥʮʯɯɰʊvʋʌwʍxyʏɏƴȝzƶȥʐʑɀʒƹƺʓþƿƻƨƽƅʔɂʕʡʢʖǀ-ǃʗʘʬʭаӑӓәӛӕбвгғӻҕӷдђѓҙеѐӗёєжӂ",
  "ӝҗзӟѕӡиѝӣӥҋіїйјкқӄҡҟҝлӆљмӎнӊңӈҥњоӧөӫпҧҁрҏсҫтҭћќуӯўӱӳүұѹфхӽӿҳһѡѿѽѻцҵчӵҷӌҹҽҿџш-ыӹьҍѣэӭюяѥѧѫѩѭѯ",
  "ѱѳѵѷҩӏ"]

/-- The marks, which only tell apart texts with the same letters. -/
def marks : List String := [
  "\u0332\u0313\u0314\u0301\u0300\u0306\u0302\u030c\u030a\u0342\u0308\u030b\u0303\u0307\u0338",
  "\u0327\u0328\u0304\u030d\u0316\u0336\u20dd\u3099\u309a\u0335\u0305\u0309\u030f\u0310\u0311",
  "\u031b\u0321-\u0326\u032d\u032e\u0330\u0331\u0334\u0339\u0345\u0358\u0360\u0361\u0483\ua66f",
  "\u05b0-\u05b9\u05bb\u05c2\u05c1\u05bc\u05bf\ufb1e\u081c\u081e\u0821ࠤ\u0826ࠨ\u082b\u082c",
  "\u0818\u0819\u082d\u064b\u08f0\u08e7\u064c\u08f1\u08e8\u064d\u08f2\u08e9\u064e\u08e4\u08f4",
  "\u08f5\u064f\u08e5\u08fe\u0650\u08e6\u08f6\u0651-\u0655\u065f\u0656-\u065e\u08f7\u08f8\u08fd",
  "\u08fb\u08fc\u08f9\u08fa\u0670\u0711\u0730-\u073f\u07eb-\u07f3\u135f\u135e\u135d\ua6f0\ua6f1",
  "\u093c\u0900\u0902\u0903\u0a70\u0a71\u1b03\ua982\u1b81\uabec𐨹𐨺𐨸\u0e4e\u0e47-\u0e4d",
  "\u0ec8-\u0ecd\uaabf\uaac1\u0f39\ua92b\ua92c\ua92d\u1037\u108d\u17c8\u17c9\u17ca\u1a75-\u1a7c",
  "\u1939\u193a\u193b\u302a-\u302f\u20d0\u20d1\u20d2\u20d4-\u20d7\u20db\u20dc\u20e1\u20e6-\u20e9𐇽"]

/-- Further marks, and the marks that they count as. -/
def sameMarks : List String × List String := (
  [
    "\u030e\u0312\u0315\u0317-\u031a\u031c-\u0320\u0329-\u032c\u032f\u0333\u0337\u033a-\u033f",
    "\u0346-\u034e\u0350-\u0357\u0359-\u035f\u0362\u0484-\u0487\u05ba\u05c7\u0741\u0742\u0745",
    "\u0746\u081d\u081f\u0820\u0822\u0823\u0825\u0827\u0829\u082a\u0859\u085a\u085b\u0901\u0953",
    "\u0954\u0981\u0982\u0983\u09bc\u0a01\u0a02\u0a03\u0a3c\u0a81\u0a82\u0a83\u0abc\u0b01\u0b02",
    "\u0b03\u0b3c\u0b82\u0c01\u0c02\u0c03\u0c82\u0c83\u0cbc\u0d02\u0d03\u0d82\u0d83\u0f7e\u0f7f",
    "\u1036\u1038\u17c6\u17c7\u17cb-\u17d1\u17dd\u1a74\u1b00\u1b01\u1b02\u1b04\u1b34\u1b80\u1b82",
    "\u1be6\u1c37\u1cedᳲᳳ\u1dc0-\u1dc9\u1dcb-\u1dd1\u1dfc-\u1dff\u20d3\u20d8\u20d9\u20da\u20de",
    "\u20df\u20e0\u20e2-\u20e5\u20ea-\u20f0\u2cef\u2cf0\u2cf1\ua67c\ua67d\ua80b\ua880\ua881\ua980",
    "\ua981\ua983\ua9b3\ufe20\ufe22𐨍𐨎𐨏𑀀𑀁𑀂𑂀𑂁𑂂𑂺𑄀𑄁𑄂𑆀𑆁𑆂𑚫𑚬𑚷"],
  [
    "\u030d\u030d\u030d\u0316\u0316\u0316\u030d\u0316\u0316\u0316\u0316\u0316\u0316\u0316\u0316",
    "\u0316\u0316\u0316\u0336\u0316\u0316\u0316\u030d\u030d\u030d\u030d\u0316\u0316\u0316\u030d",
    "\u030d\u030d\u0316\u0316\u030d\u030d\u030d\u0316\u0316\u0316\u0316\u030d\u0316\u0316\u030d",
    "\u0316\u030d\u030d\u0316\u0316\u030d\u0314\u0313\u030d\u05b9\u05b8\u030d\u0316\u030d\u0316",
    "\u081c\u081e\u081e\u0821\u0821ࠤ\u0826ࠨࠨ\u0316\u0316\u0316\u0900\u0300\u0301\u0900\u0902",
    "\u0903\u093c\u0900\u0902\u0903\u093c\u0900\u0902\u0903\u093c\u0900\u0902\u0903\u093c\u0902",
    "\u0900\u0902\u0903\u0902\u0903\u093c\u0902\u0903\u0902\u0903\u0902\u0903\u0902\u0903\u0902",
    "\u0903\u030d\u030d\u030d\u030d\u030d\u030d\u030d\u030d\u0902\u0900\u0900\u0902\u0903\u093c",
    "\u0902\u0903\u093c\u093c\u0902\u0903\u0903\u030d\u030d\u0316\u030d\u030d\u030d\u030d\u030d",
    "\u030d\u030d\u030d\u030d\u030d\u030d\u0316\u0316\u030d\u0316\u0316\u030d\u0316\u20d2\u0336",
    "\u0336\u0336\u20dd\u20dd\u20dd\u20dd\u20dd\u20dd\u0336\u0336\u0336\u0316\u0316\u0316\u0316",
    "\u030d\u030d\u0314\u0313\u030d\u030d\u0902\u0902\u0903\u0900\u0902\u0903\u093c\u0361\u0360",
    "\u0316\u0902\u0903\u0900\u0902\u0903\u0900\u0902\u0903\u093c\u0900\u0902\u0903\u0900\u0902",
    "\u0903\u0902\u0903\u093c"])

/-- The characters that do not count. -/
def ignorable : List String := [
  "\x00-\x08\x0e-\x1f\x7f-\u0084\u0086-\u009f\u00ad\u034f\u0488\u0489\u0591-\u05af\u05bd\u05c4",
  "\u05c5\u0600-\u0604\u0610-\u061aـ\u06d6-\u06dd\u06df-\u06e4\u06e7\u06e8\u06ea-\u06ed\u070f",
  "\u0740\u0743\u0744\u0747-\u074aߺ\u08ea-\u08ef\u08f3\u0951\u0952\u0f18\u0f19\u0f35\u0f37",
  "\u0f3e\u0f3f\u0f82\u0f83\u0f86\u0f87\u0fc6\u17b4\u17b5\u17d3᠊-\u180e\u1a7f\u1b6b-\u1b73",
  "\u1cd0-\u1ce8\u1cf4\u200b-\u200f\u202a-\u202e\u2060-\u2064\u206a-\u206f\u2d7f\ua670\ua671",
  "\ua672\ua8e0-\ua8f1\ufe00-\ufe0f\ufe21\ufe23-\ufe26ﹳ\ufeff\ufff9\ufffa\ufffb𑂽𝅥-𝅩𝅭-𝆂𝆅-𝆋𝆪-𝆭𝉂𝉃𝉄",
  "󠀁󠀠-󠁿󠄀-󠇯"]

/-- The zeros of further scripts; the digits from one to nine follow each. -/
def zeros : List String := [
  "٠۰߀०০੦૦୦௦౦೦൦๐໐༠၀႐០᠐᥆᧐᪀᪐᭐᮰᱀᱐꘠꣐꤀꧐꩐꯰𐒠𑁦𑃰𑄶𑇐𑛀"]

end Root
end Collation
end YamlOrder
