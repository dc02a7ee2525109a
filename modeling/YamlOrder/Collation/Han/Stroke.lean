/-!
This module contains Chinese characters in the order of the number of strokes with which they are
written. The list is in the short form of the module on the common order.
-/

namespace YamlOrder
namespace Collation
namespace Han

/-- Chinese characters in the order of the number of their strokes. -/
def stroke : List String := [
  "一丨丶丿乀乁⺄乙乚乛𠃊-𠃍𠃑亅𠄌〆〇〡〥〻丁-丆丩丷乂乃乄𠂆𠂇𠂊乜九了𠄎二亠人亻儿入八⺆冂冖冫",
  "⺇几凵⺈刀刁刂力勹匕匚匸十⺊卜卩厂厶⺀又巜讠⻏⻖𨸏〢〤〦万-丌亐卄㐄个丫丸义久-么乊乞也习亇亍",
  "于亏亡亼-亿兀兦凡凢凣刃刄劜勺卂千㔾卪卫叉口囗土士夂夊夕大夨女子-孓宀寸⺌⺍小尢𡯁𡯂尸屮山巛川",
  "𡿨工己已巳巾干乡幺广廴廾弋弓⺕彐彑彡彳忄扌才氵犭纟⺾艹⻌门阝飞饣马々〣〧不-专中-丰丹为之乌尹",
  "乣-书予云-亖亢亣什-仓允兂元內公-兯冃-冈㓁冗冘凤𠘰凶𠙶刅-刈劝办勻-匂㔫化匹区㔹卅-午卝卞卬",
  "厃-历厷厸厹及-収圠圡𡈼壬夃天-夭孔尐少尣尤尺屯乢屲巴巿帀币幻廿开弌弔引弖心忆戈戶户戸手扎𢩦支",
  "攴攵文斗斤方无旡⺜日曰⺝月木朩𣎴欠止歹殳毋毌比毛氏气水火灬⺥爪爫父爻丬爿片㸦牙⺧牛牜犬王𤣩礻",
  "𥘅罓耂肀⺼见计-讥贝车⻍辶闩韦风〨〩丗㐀且丕世丘-丝丱主丼乍-乐𠂔乧亗㐰-㐷仔-仭𠆩𠆫兄充㒰兰",
  "冉-册𠕇写冚冬-冯凥処凧凷-击刉-刍功-劢匃-匇北匛-匞卉半卌卟-卢卭卮卯𠨑厇厈厉厺去厼叏叐发古-叾",
  "𠮨𠮩囘-囜㘦圢-圧壭处外夗夘央-头奴奵奶孕宁-宄对尒-尕尻尼屳-屷左巧巨㠲㠳市-帅平幼庀-広弁弍弗弘",
  "归㣺必忇忉忊𢖯戉戊戋戹扐-扖扏斥旦旧𣄽曱未-朰正歺母氐民氕氺氶-氹氻氾-汁汃汄汅汇汈汉灭犮犯犰玄",
  "玉玊玌玍瓜瓦甘生用甩田-电⺪疋𤴓疒癶白皮皿目矛矢石⺬示禸禾穴立纠罒𦉪𦉫肊艺衤𧘇讦-讱轧辷邒邓钅",
  "长闪阞队饤饥驭鸟龙㐁丞-丢乑-乔乨-买争亘亙亚㐫交-产㐸㐹㐻㐿㑀仮-伬佤𠇁𠇔兆-兊全氽共-兴再冎军",
  "农冰-冴𠖳凨-凫凼刎-创劣-动匈匟-匢㔻卋卍-卐印危㕂厊-厍厽厾叒㕦叿-吗𠮿𠯆囝-団在-场𡉏壮夅夙多夛",
  "夵-夼㚥奷-妈𡚸𡚺孖-孙𡥄宅-安寺寻导尖尗尘尥尦尧尽𡰪屰屸-岃𡵆州巟巩巪㠴㠵㠶帆帇师年幵并庄庅庆",
  "廵异弎式弐弙-弜当彴彵忈忋忏忓-忖忙忚忛𢖾戌-成扗-扞扠-扬扟攰收攷旨-旯㬰曲曳有㭁朱-权次欢此死",
  "毎毕氒氖気氘氼汆汊-汕汗-汝江-汤汷灮-灳爷牝牞牟犱-犵犷犸𤜥㺨㺩㺪玎-玑甪甶百癿⺮礼穵竹米糸糹",
  "纡-纫缶网⺶羊𦍋𦍌羽老考而耒耳聿𦘒肉肋-肎臣自至臼𦥑舌舛舟艮色艸艻-节虍虫血行衣襾西覀观讲-诀贞",
  "负贠赱轨辸-辽邔邖-邝钆钇闫-闯阠-阤页饦饧驮驯驰齐丣两严丽𠀡串𠁨乕乱乲亊𠄘亜亨亩亪㑆伭-佋位-佣",
  "佥-佨𠇲克-兑㒳兵冏冝㓈况-冻凬㓟刜-刭助-労匉𠣕㔰匣匤匥㔷医卣卤卲-卵厎-厑县叓㕭㕰㕲吘-呜𠯋𠯢𠯫",
  "𠯻𠯿囤-囵㘩㘫㘭㘮㘰圻-坠𡉼壯-壳夆夋夽-奂㚪㚬妉-妌妎-妫𡛀𡛁𡛂𡛓𡛕孚-孞宊-宒寽対寿尨-尬尾-屃",
  "岄-岌岎-岜岍巠巫巵㠷㠸㠹㠻帉-帐庇-应廷弃弄弅弝-张𢎽形彣彤彶-彻㤀忌忍忎忐忑忒志忘応㤈忟忡忣忤",
  "忦忧忨忪-忴忶-忼忾怀怃-怆我戒戓𢦓戺戻戼㧑扭-扷批-找技-报扸攸-攼𢻯斈斘旰-旸更曵㭂-㭆杄-杩极𣏌",
  "欤㱐步歼𣧂每毐𣫮毜毝氙氚求汖汞汥-汫汭-汶汸-汿沁-沉沋-沒沔沕沖沘-沜沞-沪𣲙𣲚𣲛㶥灴-炀牠-牤𤘘",
  "状犹-犿狁-狈𤜯㺭玒-玛𤣰-𤣳瓧甫甬㽕男-町甼疓-疗皀-皃盀盁盯矣矴矵矶𥐙礽䄦禿-秃究穷竌竍糺系纶",
  "纬-纵纷-纾罕耴肐-肠臫良芃-芓芕芖芗𦬅𦬊虬𧘌見觃⻆角𧢲言訁证-诒谷豆豕豸貝贡财赤走⻊足身車轩轪",
  "轫辛辰辵巡达-迉𨑨𨑬𨑳邑邞-邪邬𨚪𨚫酉釆里针-钌闰-闷阥-阶𨸶𨸹韧飏饨-饮驱-驴鸠鸡麦龟並丧丳乖",
  "乳-乸𠃮事些亝亞亟㐭享京佌㑌㑐佩-侭𠈄𠈌𠈔兒-兖𠒇兩其具典冐冞冼-净𠗃凭凮凯函㓤刮-剂𠜎剆㔚劵-势",
  "勆匊匋匌𠤖匦匼卑-卖卥卦卧𠧧卶-卺厒-厕𠩐叀叁参叔-变㕷㕸呝-呯呱味-咝𠰋𠰍𠰠𠰴𠰺𠰻𠱁𠱂𠱃㘠囶-图",
  "㘱-㘵坡-垊𡊨𡊩𡊰备夌夜夝奃-奉奋奌奍𡘊奔㚰㚱㚵㚹㚼㛁妬-委姖姗𡛟𡛦𡛧𡛨𡛺𡛻𡛼𡛾㝀孟-孧𡥘宓-审𡧛",
  "尀尙尚尭屄-届㞹㞾岝-峅𡶐㠰巶帑-帜𢁾幷幸庘底庖店庙庚府-废延㢠廸廹弆弡-弪𢏐彔录㣌𢒋彼-径忝忞忠",
  "忢忥忩念忽忿态怂㤔怇-怍怏怐怑怓-怗怙-怜怞怟怡怢怦性怩-怰怲-怶怺怽怾怿𢘛𢘜𢘫戔-戗戽-所承㧔㧕",
  "㧙㧚㧜-㧟抦-拎拐-招拝-择𢫏𢫕㪁攽放斉𣁄斦-斩斺斻於𣃚旹-昙曶㬳朊-服㭇-㭐杪-枀枂-枭𣏞𣏦𣏴𣏵𣏹𣏺",
  "𣏾𣐀柹㰠欣欥欦欧武-歩歽-殁殴毑毞毟氓氛氜氝汬沀沊沓沝㳋㳍㳑沫-沮沰-泈泊-泙泛-泯泱泲泳泷-泾𣲵",
  "𣲷𣳇𣳈𣳉洰炇炁-炆炈-炞𤆣𤆤𤆥𤆬𤆵爬爭爸牀版㸯牥-牬𤘪狀㹢㹩狉狋-狞玜-玱𤣻𤣿𤤀𤤁𤤌瓝瓨瓩甙画",
  "甽-畅疌疘-疡癷的皯盂盰-盵矤知矷-码𥐥社-祃秄-秊䆒穸-穻䇄竎竏竺竻籴籵籶䊵糼-糿线-绐缷罔罖罗罙",
  "羋羌者耓耵肃肏䏙股-胁臤臥臽臾舍舎舏舠艰芘-芺芼芽芾苀-苏茾𦬓𦬕𦬨芿虎虏虭-虲𧗠补表规觅诓-诩豖",
  "责-贯軋转-轰迊-迟迬﨤𨒂邭-邻𨚼采金釒钍-钗長镸門闸闹阜阷-陉隶隹⻗雨靑青非靣顶顷饯-饴驵-骀鱼鸢",
  "鸣鸤黾鼡齿临举乗㐠乹-乼亭-亲侮-俭𠉛兗兘兙𠒎兪兹养冑冒冟冠凁凂凃𠗊𠗐𠗕凾剃剄剅則-剑勀-勅勇-勋",
  "匍匧匨匩匽南単卻卼卽厖-厛叙-叝呰呲㖄咞-哟𠱓𠱥𠱷𠱸𠱼𠲍𠲖𠲜㘢囿圀𡇙㘶-㘹㘻㘾型-垵城𡋣壴壵夈変",
  "复㚚奎-奓奕奖𡘓𡘙姕㛃㛄㛅㛇㛈妍姘-姫姭-娃娅-娈𡜍𡜐𡜦娍孨孩孪客-宦宨-宫𡧳封専将尛尜尝尮尯",
  "屋-屏峆-峧𡶶𡶺𡷊𡷑峸巬巭巷-巻帝-帧𢂚幽庛庠-度𢈈庰建廻廼𢌡𢌥弇弈弫-弯𢏗彖彥彦待-徍徔怎怒怘思",
  "怠怣怤急怨怱怷怸怹总怼㤢㤦㤧㤭恀恂-恊恌恍恎恑-恔恗恘恛恜恞-恢恤恦恨恪恫恬恮恰恱恲恸-恽𢙨战扁",
  "扂扃㧘拏拜㧡㧢㧥㧦拪-拱拴-拾挀-指按-挏挑-挘挜-挧𢫦𢫨𢬎𢬢攱政㪃㪄㪅敀-故㪼㪽斪斫㫆施-旀既㫞㫠",
  "昚-昿𣅽𣆂曷朎-朑㭑-㭗枮-枼枾-柠柢-柳柵-柸柺-树桒㰦欨欩欪㱔歪歫殂-殇段殶毒㲋毖毗毘毠毡𣭚氞-氢",
  "沗沯泉泴泶㳖㳜泚泿-洌洎-洕洗-洛洝-洮洱-浅浇-浕𣳼-𣳿㶭炟-烃𤇍𤇢爮爯爰𤔅爼牁牉牊牭-牵狊狟-狲𤞏",
  "玅㺱玲-玹玻玽-珑𤤖𤤗𤤙𤤯𤤳𤤴瓪-瓲甚甠甭甮㽘㽙畆-畓㽼疢-疯疺癸癹発皅-皈盃-盈䀝盶-眍𥄫矜矦矧矨",
  "䂚泵砂-砜𥐯𥐰䄀祄-祎视𥘵禹禺䄲秋-秗𥝲䆕穼-窃𥥆竐-竗竼-笃𥫩䉺娄籷-粂䊶䊷䊹紀-紉绑-统䍂缸罘罚",
  "羍美羏羑𦍑羾羿𦏵𦏸耇耍-耑耔耶耷䏟胂-胓胕-胫脉致臿舡-舤芔苐-茇茉-茑茓茔茕𦭐-𦭓𦭛茺虐虳-蚃䘏衁",
  "衂衍衎𧗤衦衧衩-衬𧘲𧘹要覌觇览觉觓觔訂-計诪-诶貞貟負贰-贻赲-赵趴軌軍轱-轻迠-迫迭-迳邼-郋郍-郑",
  "郓郕𨛘𨛦郱酊酋重釓釔钘-钯閁閂闺-阂陊-陕𨹥𨹦面革韋韨韭音頁顸-须風飐飑飒飛⻞食飠饵-饼首𩠐香",
  "骁-骉⻣鳬鸥-鸩𠀾丵乘乽亳㑥㑦修-倿𠉴𠉵𠊙𠊞𠊠偖党兛𠒑𠒒兺兼冓冔冡-冧𠖎凄-凎𠗟𠗠𠙖剒-剧𠜱勌-勑",
  "𠡳匎匪匫卿厜-原虒叞叟㖗㖘哠-唋唍-唧𠲵𠲸𠳏𠳓-𠳖𠳝𠳭𠳿𠴕㘣圁-圆垶-埍埏-埛﨏𡋾𡌂-𡌅堲壶夎夏夞𡖖",
  "奊套-奚㛎㛑㛓㛔㛖㛝㛡㛢姬娉-娌娎-娪娭-娴𡜺𡜻𡜼𡝗㝃孫孬孭𡥪宧宬-宾尃射尅㞗屐-屘𡱰峨-峷峹-崅𡷫",
  "𡷹㠫差巼帨-帱𢃇𢇃座-庯廽弉弰-弳彧彨𢒑徎-従徕𢓭㤠㤫恁恋恏恐恕恖恙恚恝恣恥恧恩恭息恳-恷㤱㤳㤴",
  "㤶-㤹恾悀-悅悇悈悋-悏悑-悗悙-悟悢悦悧悩悭悮悯𢙺𢚖𢚘戙扄-扇㧬拲拳拿挈挐挙挚挛㧸挨-挱挳-挺",
  "挼-捤𢬿𢭃𢭪揤㪇㪈㪉敆-敌𣁋斊斋料斚㫉旁-旆旊晀-晖𣆤𣆥晟晠書曺曻㬴㬵朒-朕朗枽柡柴㭘-㭧栒-桑",
  "桓-桪𣐿𣑐𣑯𣑲欫-欱欴歬歭㱡殈-残殷毙毢-毪氣-氩泰洜洯浆㳯洍洖浖-涍涏-涘涚-涩𣵀𣵛㶴烄-烮𤇼𤈛爱",
  "爹牂𤕸㸠牶-牺㹴狳-狾猀-猃玆㺸玺玼㺿㻂㻇珒-珲琉𤤾-𤥃珹瓞瓟瓳瓴瓵甡畔-畟疍疰-疴疶-疹疻-痉畠",
  "皊-皍𤽜㿭皰皱䀀盉-监𥁒䀦眎-眤眧-眬眿𥅈矝矩䂨砝-砥砧-硁𥑆𥑬𥑮䄃祏-祠祢𥙑𥜽秘-称窄-窎𥥖䇊竘-竞",
  "䇗䇛笅-笕笄粃-粑䊼紊-紧绠-绨䍃缹缺缼罛-罢羐羒羓羔羖-羙翀-翆𦐂𦐐𦐑𦐒耄耆耊耕-耙耸-聂肁肂䏭",
  "胭-能胿-脈脊-脓𦚯𦚱𦚵臬臭𦤹舀舁舐䑥舥-舱艳䒟䒠䒢芻茈茖-茜茞-茢茤-茹茼茽茿-荅荇-荒荔-荘荚-荪",
  "荬-药𦭵𦮂𦮖𦮗𦮝𦮳荓虑虓虔蚄-蚇蚉-蚪蚬衃衄䘕衏衭-袇𧙕𧙖𧙗覍覎觊訉-訚𧥧请-谊谸豇豈豗豹豺豻",
  "財-貤𧴯贼-赆䞘赶起赸䟕趵-趸躬軎-軕轼-较辱迴-逊邕郖-郧酌-酒釕-釢钰-铎閃閄閅𨳊𨳍阃-阆陖-陙",
  "陛-险陚𨺗隺-难顼-预飢飣飤饽-馂馬骊-骏骨高髟鬥鬯鬲鬼鱽鸪-鸶龀㐢乾乿亀㑤偀-偕偗-偧偩-偿𠊷𠊿𠋀",
  "𠋥兜兝兞兽㒼冕冨减凐凑𠗫凰剨剪-剱剶𠝹㔠勒-勖勘務勚匏匐匓㔭匘匙㔱匬匭匮匾匿區卙卨卾厠-厣厩參",
  "叄唌㖡㖥㖭唨-啘啚-啞啠-啪啬-啹𠴨𠴱𠴲𠵆-𠵉𠵌𠵍𠵎𠵯𠵱𠵴𠵼𠵾𠵿𠶖𠶜𠶧𠶲啫営圇-國圏㙇㙈㙉埜-埩",
  "埫-堕𡌶𡌺埪堵壷壸够夠奛-奞𡘾奟奢娫娽㛥㛦娬娵-娼娾-婶𡝬-𡝱𡝳𡝴媎孮孯孰孲宿-寉𡨭𡨴將專尉屙-屝",
  "屠崆-崰𡸜𡸷𡸽巢巣㠱帲-帼帾庱-庼庾弴-弹𢏺彗彩彫彬徖-徙徛-徤𢔓𢔛㤰㤲㤵㤻恿悆悉悊悐悘悠悡患悤悥",
  "您悪悫悬㤿㥍悰悱悴悵悷悸悺-惀惂惃情-惈惊惋惍惏惐惓惔惕惗-惟惤惦惧惨惬-惯𢛴𢛵𢛶𢜒𢜔𢜛𢜟戚-戝",
  "扈挲挻㧻㧾㨀-㨄㨆捥-掋掍-掓掕-探掤-掯掳-掽𢯊𢯎掲㪊-㪎啟敍-敛敝斍斎斏斛斜斬断㫋旇旈旉旋-族旣",
  "㫰㫲勗晗-晞晡-晩曽𣆳𣇈𣇉曹曼㬶㬷朖朘-望㭨-㭵㭷桫-梳梵-棂楖㰯欲欳欵-欸㱢殌-殓殸-殻毫-毮氪氫𣱣",
  "㳫涎㴀㴄涙涪-添淽淿-渂渄-渗渚湴𣵾𣶏𣶶-𣶽𣷣𣷸㶿烯-烺烼-焓焕-焘𤉋𤉖𤉙焔爽㸺㸼㸾㹀牻-牿犁𤙥狿猄",
  "猅猇-猊猍-猑猓-猡猪率玈㻊㻌㻐珳-珶珸珺-琈琊-琓𤥢𤥣𤥴𤥵𤥶㼎瓠㼦瓶瓷瓸甛甜產産畡-畧畩異疵痊-痖",
  "皉皎-皑皲䀁䀂盒-盘盛眥眦眭-眾睁𥅽𥅾着矪矫砦硂-硛祡䄄祣祤祥祧-祯視𥚃离䄻䅁䅃䅅秱-秾稆窏-窕窚",
  "竡笖-笾畨粒-粝粣𥹉紨紩紬-経𥿡𥿢绩-缁䍄䍅缻缽罣羕羚-羟翇-習耈耉耚-耟聃-聍胬䏲脕-脟脡-脸𦛚𦛨𦛼",
  "𦤎舂舑舲-舻𦨭𦨮艴荙荫茝茣荰-莙莛-莬莮-莺莼莽𦯀𦯷𦰡莭彪處-虚蚫蚭-蛏﨡𧊀𧊅𧊋衅衐-衔䘦袈-袮袰袯",
  "覂䙺規-覔觋觕-觙𧣈䚼訛-訳𧥺谋-谞谹谺谻豉䝆䝇豘-豝豼豽貥-貮赇-赊赥赦赧䞛赹-赿﨣趹趺趻趽-跄躭",
  "躮躯𨈘𨈚䡆-䡊軖-軣𨋍辄辅辆䢛逋-逧𨔁邫郔部-郰郲郳郴郷郸都𨜏𨜓䣭酓-酞𨠄釈野釣-釼𨥈𨥉铏-铷镹镺",
  "閆-閊𨳒阇-阐陪-陱陳-険陼𨺬𨺲𨺳隿雀雩雪雫𩇕𩇫靪竟章頂頃頄颅-颈飡飥飦馃-馆馗骐-骖髙魚鱾鳥鸷-鸿",
  "鹵鹿麥麸麻黒龁龚龛𠁆亁亴亵偨㑳㑺傀-傩𠌊𠌥兟兠𠒣最凒-凖凱凲凿㓻剩割-創勛-勞匑匒𠤣𠥔㔸博厤-厨",
  "叅㖿㗁㗄㗅㗇㗊㗎啙啺-喌喎-喵喷-喾噅𠷈𠸄𠸉𠸊𠸍-𠸑𠸖𠸝嗞圌圍圎圐㙎堖-報堳場堶-堼堾-塂塄-塈𡍵𡍶",
  "𡎎𡎘𡎜壹壺壻夡奠奡奣奤奥㛵㜀㜁㜃㜄婷-媍媏媑-媯嫏𡞫𡞰-𡞵𡟃𡟇𡟙-𡟜𡟟孱𡥼𡦀孳㝢寊-寕寪𡩅𡩋尊尋",
  "尌尞尰就属屟屡𡲢𡲥崱-嵉嵋-嵝﨑𡺉𡺤𡺨嵫㠭巯巽𢁅𢁉帽帿-幇幉𢃼幈幾庽庿-廃廊廄弑强-弾彘彭徚徥-徫",
  "𢔰悲悳悶悹惁惄惉惌惎惑惒惖惠-惣惥惩惪惫㥡㥢㥥惰惱惲惴惵惶惸惺-愀愃愄愅愇愉-愌愎愐-愖愘愜愝愞",
  "愠-愦慨𢜪𢝵𢞁㦸戞戟扉扊掌掔掣掰掱㨗㨘掾-揄揆-揣揥揦揨揩揪揬-揰揲-搅摒𢰦𢰧𢰸𢱌𢱑𢱕摡攲㪏㪐㪗",
  "敜敞-敪𢽴斌斐斑㪸斝𣁽𣁾斞㫀斮斯斱旐旑𣄃㫻㬀晪-晷晹-暃暑𣇷𣇸𣇹𣈏曾替朁朂㬸朜-期梴㭶㭸-㮀棃-椮",
  "𣓥𣔙𣔰楮楰欹-欿歮歯㱤㱦㱨㱩殔-殚殼殽殾毯-毶氬-氰淼淾㴓㴝㴠㴢渃渘渙減-湫湭-湳湵-溌滋滞𣸑𣸬-𣸱",
  "𣸹烻㷆㷇㷉㷌㷍焙-煀煮𤉶𤉷𤉸𤊄𤊓𤊕𤊥爲牋牌牍𤗈牚㹃犀犂-犋𤙴猆猋猌猒猫猢-猩猬猭猯-猶猸猹𤟠㻑㻖",
  "㻚㻛珷琔-琝琟-琦琨-琼𤥻𤥿𤦂𤦈-𤦏𤦔𤦤𤦧𤦩𤦫𤦬𤦭瓹-瓼甤甥甦甯𤰉番-畯畲畳畴畱疎疏㾓㾘痗-痫𤶸登",
  "發皒-皖皳皴䀃盙盚盜䀹䁀睂-睑矞矟矬短硜-硷䄉祦祰-祸禄𥚕禼秿-稅稇-税𥟇窖-窙窛窜窝竢-竧䇭䇮䇯",
  "笿-筝筬䊃粞-粢粤-粭紪紫絍-絚絜-絷絾䌻缂-缘缾缿罀罤罥罦䍮䍯羠羡羢翓-翚耋耠聎-联聠𦕲胔胾脔脠㬹",
  "䐀䐁䐂脹-腏腑-腚𦜖𦝁腴臦臮臯臰𦤑臵-臹舃舄舒舜舼-舿𦨴艵䒰䒷䓀茒茻荆莚莾-菘菚-萤萦萧著𦱀𦱾-𦲂",
  "𦲤𦲷𦲸𦲽𦳀萸虛虝䖭䖯蚈蛐-蛕蛗-蛴𧊲𧊶衆-衉衕衖街袱-裉裗𧚔褁覃覄覙覕覗覘覚觌觍觚觛觝觞䛏䛐",
  "訴-訽詀-詠𧦠谟-谧䝈豞-象豾-貃貯貰貱貳-賁𧵓𧵔赋-赕䞡䞣趀-趋䟭跅-跏跑-跞践𧿹𨀂𨀉躰䡒軤-軬軮-軽",
  "𨋢辇-辎辜辝𨐒逨-逻𨔼𨔽郵䣐郹郻郼郾-鄊鄬䣳酟-酥釉释量䤞䤠釽-鈬𨥖𨥤铸-锕镻開-閗阑-阕陲陻陽-階",
  "隐𨻙𨻧雁-雈雬-雳𩂈𩂋靓靔靟靫-靱韌韩項-須颉-颏颩颪𩖞飓飧-飫飭飯飰飲馇馈馊馋馭馮骗-骛骩髠鱿-鲃",
  "鳦鹀-鹈黃黄黍黑黹鼋龂亂亃亄亶亷㑽㑾傪-働𠍁𠍅𠍆𠍇𠎵兡兾兿凗剷-剿募-勧㔲㔳㔴匯厀厁厪厫厯叠﨎㗒",
  "㗖㗛㗝㗠喍喿-嗝嗟-嗵𠹌𠹭𠹳𠹵-𠹻𠺌𠺖𠺘𠺝𠺢𠺪𠺫𠺬𠺶圑-圕㙟堽塃塉-塱𡏅𡏆壼奦奧奨𡙡㜈㜊㜍媐媰-嫎",
  "嫐-嫔𡟯𡟵𡟶𡟸-𡟼孴𡦃𡦈孶㝦寖-寝尟尠尲尳尴𡲬㟲㟸嵊嵞-嵪嵬-嵶𡻈𡻕巰幊-幏幹廅-廉廋廌𢉼弒弿-彂彙",
  "彚𢑥彮徬-徰㥣㥤㥦想惷惹愁愂愆愈愍意愗愙愚愛感愧愩愪愫愭-愲愴-愷愹愺愼愽愾慀慃-慆慉慊慌-慏慑",
  "𢞴𢞵𢟍戦戠-戥揧揫揱㨠㨣㨦㨩㨪搆-搪搬-搰搲搳搵-携搼搽搾摀-摊𢱢𢲈𢲛𢲡𢲩𢲲揅搱敭敫敬敮敯数斒𩖰",
  "斟新旒-旕旤晸㬁-㬌暄-暐暒-暙𣈥𣈯𣈱-𣈴會朠朡㮖㮙椯-楕楗-業楯楱-榉榋榌榔榘﨓𣕚𣕧𣖕𣖙𣖜㰼㰾",
  "歀-歈歱歲歳㱮殛殜殿-毂𣪧毓毷-毽氱湬㴦㴲㴳㴻溍-滊滍滏-滔滖-滙滛滜滝滟-滪漓𣺈-𣺋𣺹𣺿滚㮡㷓㷛",
  "煁-煔煖-煚煜-煭煯-煸煺𤋁𤋉𤋊𤋮𤋺𤔡爺牃牎-牒㹈犌-犑𤚗献猷獁猺-獀獂獅-獊𤠒𤠣㻗琧㻞㻡㻢琞琽-瑟",
  "𤦷-𤦻𤧅𤧐𤧚𤧞𤧟𤧣𤧥瑯瓡瓽瓾瓿甁甝甞㽣畵-畺𤲞𤲟痬-瘆𤷪𤷫瘏瘐皗皘皙𤾂𤾆皵䀄盝盞盟䁅睒-睠睢-睭",
  "𥇍𥇣𥇦𥇧睡睹矠矮䂻䂿硸-硽硿-碜碰䄎祹-禃禅禆禽萬稏-稥𥟟𥟠𥟡窞-窧𥦬䇏竨-竫𥪕䇸䇹䇻-䈀筞-筫",
  "筭-筴筶-简節𥭴𥮉䊌粮-粵糀𥺁𥺂𥺃絛絸-絽絿-綕綗-綛𦀩缙-缤罧-置署𦋐羣-羪翛翜翝耡耢聕-聘肄肅肆䐓",
  "幐腛-腳腵-腾舅舝艀-艉𦩂䓅䓎莻菙营萨-萫萭-萷萹-葖葘-蒉蒋-蒏𦳃𦳑𦴢-𦴪𦵑蓅蓈蓱蔇虜虞號蛖蛵-蜐",
  "蜓-蜗蝆𧋦蝍衘衙裊-裖裘-裡裣裤裥覅䚀覛覜觎觜觟-觧訾訿詡-誊誠𧧝谨-谬谼豊豋豢-豦貄-貊貲賂-賎𧵦",
  "𧵳𧶄赖赗赨赩赪䞦趌-趔跐趼跟-跴跶-跻𨀞𨀣𨀤䠷躱躲軭軾-輌辏-辔辞辟辠農逼-遗𨕬郌鄋-鄗酦-酱𨠫",
  "鈮-鉴銏𨥨𨥬𨥾锖-锱䦉閘-閠阖-阙随䧟隑-隘﨩雉雊雋雍雎雏雴-雾𩂓靕靖靲-靹韪韫韮韴韵頉䪴頊-頓",
  "颐-颖颫颬飔䬦飬飮飱飳-飷飹飻-飿馉馌-馐馚馯-馵骜-骟骪-骮𩨨髡髢鬽魛-魞鲄-鲐鳧-鳫鳭-鳰鹉-鹔麀麁",
  "麂𪋿黽鼌鼎鼓鼔鼠龃-龆𠁎𢆡僎-僱僳僴僷𠍾𠍿𠎀𠎠𠎧僲兢冩凘凳凴㔀㔄㔆劀-劄㔢勨-勭㔵匰匱匲㕑厬厭厮",
  "厰叆𠬍㕡嗶-嘞嘡-嘧噑𠻗𠻘𠻝𠻸-𠻻𠼝𠼦𠼭𠼮𠼰𠼱𠼻𠽌嘟嘨圖-圙㙥㙦塲-塿墁-墛𡏭𡏾𡐓𡐖墭壽壾夐夢-夥",
  "奩-奬㜜㜞㜠㜢嫕-嫲𡠠𡠨𡠩𡠪𡠭𡠹𡠺𡠻𡡀𡡅嫳孵孷𡦖寞-寨對尡屢屣㟻㠀㠁㠄嵷-嶎幑-幙幛𢄪幣廍-廙廜弊",
  "㣃彃-彆㣑彯彰徱徳徴𢕔徶愨愬愳愸愻愿慁慂慇慈態慐㦀慒慓慔慖慘慚慛慞-慣慥慩慪慬慯慱-慵慷慺慻慽",
  "憀憁憆憈𢠃戧-戬搫搴搻搿㨯㨱-㨹摋-摑摓摔摕摗-摠摢-摧摪-摭摱-摸摺-摿撁撂撄撇𢲷𢳂𢳆𢳉𢴇𢴈𢴒摖撦",
  "敱敲敳斠斡斲𣂷旖旗㬍-㬐暚-暨𣉢朄朅㬺㬻朢㮼榊榍-榓榕榖榗榙-槡樮﨔𣗍𣗎𣗏𣗳𣘀樃歉-歍歰歴殝-殡毃",
  "毄𣫺毾氲氳滎㴽㵆滌滫-滿漁-漊漌-漏漑漒演-漥漧-漼漾潀潂-潍𣻗𣻷-𣻼𣼵𣽁潎潳煕煛㷧㷨煹煻-熙蒸𤌍𤌚",
  "𤌴𤍈爳爾牄㸢牓牔犒-犗獓獃獄獌獍獏-獒獔獕㻧㻩瑠-瑨瑪瑫瑭瑮瑰-瑸𤧬𤧭𤧶-𤧹𤧻𤨎𤨒𤨓甀甂-甆𤭮甧畻",
  "畼畽疐疑瘇-瘎瘑-瘘瘧皶-皹盠-監䁓睮-睸睺-瞆𥈠𥈡䃈硾碝-碯碱-碹磁禇-禙䅧稦-稳穊稵窨-窭𥧌竬竭端",
  "竰𥪜竮筵䈁-䈍箁-箫𥮳𥮴𥯆箸粶-粿糁𥺦𥺼綖緐䋨䋩䋬䋭䋱綜-総緑緒緔緕𦁈𦁤缥-缫罁罂罯罰罱罳罴羫",
  "翞-翤𦑊翥耣耤耥䎺聙-聟聡聢聣𦖠肇肈腐䐠䐥䐦腿-膏膑𦞙𦞳𦞴𦟌臧臺與舓舔舕舞艊-艍𦩑𦩒䓝䓟䓤䓩-䓬",
  "蒐-蒷蒹-蓄蓆蓇蓉-蓝蓟蓡-蓤蓦𦵴𦶠-𦶧𦶮𦷜𦷪𦷫𦷰蓥虠虡𧇍蜑蜒蜫蜘-蜪蜬-蝅蝇-蝋蝕蝫裢䘻裧-褀褂褃",
  "褄褚覝-覡觏觨-觫誋-誔誖-誟誡-誮𧧽𧨊𧨎谭-谲谽豧-豪貋貌貍㕢賏-賘𧶏𧶘赘-赛赫趕-趚䟴跼-踎𨁈躳躴",
  "躵輍-輕𨌆𨌘辕辖辗辡辢辣遘-遥郒鄘-鄥䣺酲-酿鈭䤤䤥䤦䤪鉵-鉻鉽-銎銐-銱𨦉𨦨𨦪𨦫鋮鉼锲-镅閡-閪阚",
  "隙-隡雌雐雑雒𨿅䨏雿需霁𩂯𩂰𩂱靗靘静靤靺-鞆韍韎韬韶韷𩐝頙䪸頔-領頚颗䫿䬀颭-颱𩖸飖飕飗䬬飸",
  "餀-餇餉餌餎餏馑馒䭯馛馜馝䭻䭾馶-駇骠骡骢䯈骯骰骱髚髣-髪𩬅𩬎鬦鬾-魂𩲭魟-魢𩵚鲑-鲟鳱-鳶鹕鹖鹗",
  "鹙-鹜麧麼麽鼻齊龇龈㒓㒖㒘僵僶僸-儏𠏉𠏋儰凙-凜𠘑劅-劏勮-勲匔匳厱厲𠪴㕙叇噓㗱㗲㗳嘠嘩-噄噆-噐",
  "噒噔噖-噝噴𠽤𠾍𠾐𠾭𠾴𠾵𠾶𠾼𡀔圚墀墜-墧墩-墬墮-墹𡐤𡐿𡑒𡑔𡑕壿夀𡕷夦奭㜣㜥㜦嫴-嬏𡡒𡡞𡡡-𡡤𡡷𡡻",
  "𡢃𡢄𡢅㝯審寫-寮導𡭄尵㞠層-屧㠏嶏-嶥𡼏𡼕巤㡡幚幜-幢幤幥幩廚廛廝-廤彇彈彉影徲徵德-徺慕慗慙慜慝",
  "慤慦慧慫慮慰慶慸慹慼慾慿憂-憅憇㦉㦊㦒慭憉憋憍-憐憒-憕憘憚憛憜憞憟憡-憤憦憧憪-憱憳𢡟𢡠𢡱戭戮",
  "戯㨼摨摩摮摯摰摹撀撃㩋撅撆撈撊-撥撧-撺擆𢵄𢵌𢵧敵-敻𢿌斳𣂼㬑-㬖暩-暷𣊁𣊊暼㬼㬽㬾膤槩㮾㯂㯄",
  "槢-槨槪-樂樄-樧権-樭樯樰樱橥𣘚𣘼𣙀𣙙𣙟𣙷歎-歓歵歶㱳㱴殢-殦毅毆毿-氂滕漀漐漦漿潁㵌㵎㵑漋漽",
  "潏-潝潟-潲潴-潿澁澂澄-澘澚-澝濐𣽊𣽿-𣾂𣾏𣾴𣾷濆熦㷫熚-熥熧-熵黙𤍢-𤍥𤎌𤎖𤎜噕爴牅牕牖牗犘-犛𤛔",
  "獎獋獖-獢獤𤢂瑩瑬㻫㻰㻳㻴瑹-瑾璀-璌璎璓𤨕𤨡-𤨪𤨾甇甈甉㽓𤯵畾畿瘟㾷㿀瘙-瘞瘠-瘦瘨-瘫𤸻𤹐㿥",
  "皚-皞𤾗𤾚皺盤䁗瞇-瞓𥉐確-磀磂-磕磗磘磙磤𥔱𥔵𥔿禚-禣𥛣䅬䅮䅵稴稶-穃𥡗窮-窴䈎-䈕䈚䈜䈠䈢䈣䈦䈩",
  "箬-箷箹-箿篁-篈篊-篓𥯤𥯨𥰁𥰆䊔糂-糎𥻗𥻘䋴䋻䋼䌀䌁䌄緓緖-縇𦂃𦂗𦂤𦂥䌾缬-缯罵-罸羬-羰翦-翭𦑩䎬",
  "耦耧聤-聫𦖭䐭䐳䐴膒-膣臱舖舗䑺艎-艔䓴蒊蓠蓧-蓰蓲-蔆蔈-蔼𦸀𦸅𦸇𦸒𦹂-𦹅𦹮𦹲𦹷𦺄蔽蕏虢蝌蝎-蝔",
  "蝖-蝪蝬-蝸蝺-螀蟡𧎚螂衚-衝𧗽䙅䙆裦褅-褙褛褜褝𧜏覢-覥𧡘覩觐觑觬-觰誕䛵誯-諚諩𧨾𧩓𧩙諛諸谳谴谵",
  "谾豌豍豎𧯴豬貎貏䝼賙-賭赜赭䞶趛-趤䠀䠁䠋踏-踪踬-踯踺𨂃𨂐踫踷躶-躼𨉖䡝輖-輬𨌯𨌺辘辤辳遦-遱遳",
  "遷郶䣝鄦鄧鄩鄪鄫鄭-鄲醀-醌䤭銲-鋊鋌-鋭鋯-鋶﨧𨦸𨦼𨧀𨧜𨧞𨧡𨧣𨧤镆-镕镼閫-閴𨴴䧥隢-隥雓霂-霊𩃀",
  "靚靠靥鞇-鞒韏韐韑韯𩐠頛-頣頦-頬题-额颲颳飘䬷飺餈養餋餍餑-餙馓馔駈-駠𩢤骣骲-骷髛髫髬髮-髴鬧䰠",
  "魃-魆䰻䰾魣-魹𩵼鲠-鲬䲮䲰䲷鳷-鴉鴋-鴎𩾷鹘鹝-鹤鹶麃麄𪊓麨-麫麹麾黎墨黓鼏鼐鼑齑齒龉龊亸儐-儞儫",
  "𠏵𠏼兣𠓼冀冪凝凞𠘕劐-劔勳匴叡㗻㗾㘀-㘄噞-噳噵-噼𠿟𠿪-𠿭𡀝𡀞圛圜墺-壌夁奮奯㜫㜬㜭嬐-嬢嬴𡢞-𡢢",
  "𡢾𡢿嬨學孹寯寰嶦-嶶㡢㡣㡤幦幧幨𢅛幯廥-廪彊彋彛彜𢑱𢒰徻徼憊憌憑憖憗憙憝憠憥憨憩憲㦙憴憶-憺",
  "憽-懁懄懅懆懈懊懌-懐懒懓懔𢢭𢣁憻戱戰撉㩒㩔㩗撻-擅擇擈擉擋擌操擏-擗擙-擞𢶍𢶕𢶠𢶣𢶤𢶷擳攳整",
  "敼-敿𢿣斓斢斴旘旙㬗-㬟暸-暻暽-曍𣊉𣊫𣊬𣊭曏㬱朆㬿朣朤朥樨橴㯗㯝樲-橤橦-橳橵-橼𣚦𣚭𣚺𣛟𣛮歔-歚",
  "歷殧-殫毇毈氃-氇潞澃㵟㵢㵥㵩㵪澙澞-澨澪-濅濇-濋濍濎濏濑濒濓濖𣿅𣿫-𣿰𤀑瀄㷳㷷㷼㷽熶-燞𤎽𤏁𤏩",
  "𤏪𤏲犜-犟獣獥-獭瑿㻼璍璏璑璒璔璕璖璘-璡璣璤𤩂𤩅𤩊𤩎-𤩑𤩝𤩥𤩦𤩧璢瓢甊-甎疀疁疂𤳉瘬-瘿癊皟皠皡",
  "皻盥盦盧𥂝䁢䁥䁪瞔-瞣𥊙瞥磖磜䃘磚磛磝-磣磥-磮𥕛-𥕞𥕢𥕥𥕦禤禥禦禩𥛶穄-穈穋-穒𥡝𥡲穓䆲窵-窽竱",
  "𥪮䈪䈫䈭䈮䈰䈱䈲築篔-篯簑𥰡𥱊𥱥篹䨀糏-糘縈-縨缰-缴罃罹-罼羱羲翮-翱耨耩耪𦔒䏁聬聭𦖿聮膐䐻",
  "膦-膶𦠜𦡮膷膹臲臻興舆舉舘艕-艙䔀䔃䔄䔉䔋蓞蔾-蕎蕐-蕖蕘-蕵𦺙𦻐-𦻗𦼦薌虣-虦䗝蝹螁螃-螩䘗衞-衡",
  "𧗾䙏褞-褲褴𧜵𧜶𧝁覦覧覨親𧡰觱諜-諨諪-諷諹-謃𧩹𧪄謔䝎豫豭豮貐-貓賮-賵𧶽赝-赠赬赮趥趦趧踰-踶踸",
  "踹踻-蹅𨂽𨂾躽躾輭-輼𨍥辙辚辥-辪䢭遲遴遵遶選-遼邆𨗨𨗴𨘀郺鄳-鄷䤀䤆醍-醗鋋䤵鋷-錧錩-鍆鍈﨨𨧧𨧨",
  "𨧹-𨧼𨨏𨨖𨨥𨨩鍺镖-镠䦡䦧閵閶閸-閿闁闂闍阛䧧隦-隫隷雔雕䨝霋-霗𩃤𩃥𩃬𩃭靛靜靦鞓-鞙韒韰韸頤頥",
  "頭-頽𩓐𩓙𩓚颞-颡颴颵𩗗飙飚餐餝餚餛餜餞-餤餦-餩𩜠餴馞馟馠駡-駲𩣑骸-骼𩩍骿髭髵-髻鬇鬨鬳魇䱉",
  "魺-鮅鮇-鮘鮣𩶘𩶛鲭-鲻鴊鴏-鴛鴝-鴬𩿞鹥-鹨鹷鹾麅-麈𪊟䴴麬麭麮麺黅黆黔-默黺鼒鼼鼽齓龍龜償-優儬",
  "𠐓𠐔𠐟儲凟𠘙𠘚劕㔥㔦勴勵勶匵㕓厳𠮏噽-嚓𡁏𡁜𡁯𡁵-𡁸𡁻𡂈㙺壍-壗𡒊𡒗𡚒嬣-嬧嬩-嬳嬵嬶嬷𡣑𡣖-𡣙孺",
  "孻寱寲尶尷屨㠙嶷-嶺嶼-嶿𡽪嶻㡥㡦幪幫幬彌徽徾𢖍憵憼懂懃懇應懋懑懗懙-懞懠懡懢懤-懨𢣷戲戴擊擎擘",
  "㩜㩞擟-擤擦擨擩擫-擱𢷮斀-斃斣斵斶旚㬠㬡㬢曎曐-曗曚𣋒曙㬲㭀㯬㯲㯳㯴橽-檪𣜃𣜖𣜠𣜭𣜯𣜿櫛㱆歛歜",
  "歝殬殭殮毚氈氉氊澩濌㵯㵳㵵澀濔濕濗-濲濴濵濶濸𣿀𤀹-𤀽𤁗㸀㸁㸂營-燷𤏸𤐄爵牆㹕犠獮-獴㻺璐璗㻿㼀",
  "㼁璥璦璨-璴𤩱𤩷-𤩺㼿甏-甒疃疄𤳙癀-癉癋-癎𤺥𤺧皢-皥皼䀉盨盩盪䁯䁱瞤瞦-瞷𥋇矯矰䃟磯-礅𥖁𥖄𥖏禧",
  "禨禪禫𥜆䅿穉穔-穞䆹窾-竂竲竳竴𥪯簕䈻䉀-䉅篰-篸篺-簐簒簓簔簖簗𥲑𥲤𥳀簘䊢糙-糢糨縩-繇繉繊繌繍",
  "𦄂𦄡繈罄罅罆罽罾罿羁𦎾翲-翶翼𦒄𦒈𦒉耫耬聯-聴𦘦膥膸膺-臊臌𦡆𦡞臨臩𦧲艚-艝艱䔖䔝䔠䔦䔧蕗蕶-薋",
  "薍-薨薪薫薬薮𦽳𦽴𦾟𦾡薭薯虧虨䗩䗮螪-蟒𧐢蟞䙛褳褵-襅襔襒𧝞覫-覯觲觳𧤤䜀謄-謓謕-謢𧪽𧪾䜦谿豀豁",
  "豏豯-豳貔貕貖賶-賽𧷜赡赢赯趨蹆-蹓𨃨𨃩𨃴輽-轅𨍭𨍽辫䢮遽-邅邉𨘋鄸鄹醘-醤𨤳䤼錨鍇鍉-鍹鍻-鎇𨨲𨨶",
  "𨩄-𨩋𨩙𨩚𨪁𨪂𨪃鎡鎯镡-镫闀閷闃-闌闎闏隬-隲隸䨁䨂雖䨤霘-霠𩄍𩄐霡䩊鞚-鞡韓韔韕韱䫑顀-顊𩓥𩓧䬐",
  "颶颷𩗩𩗴䬠餥餪-餭餯-餳餵餷𩜲饂饆馘䭰䭲馡馢馣䮎䮐駴-騃𩣪駳骤骽骾髼-鬂鬴魈魉鮆䱋䱌䱍鮙-鮢鮤-鮴",
  "鮺鯎鲼鲽鲿-鳋鲾鴜䳍䳔鴭-鵉𪀔鵧鹩-鹬麉麊麋𪊲麯麰黇黈黉黏黚-點𪐴黻黿鼢鼣鼤鼾鼿齋𪗆齔齢龋龌龠儭",
  "儮儯儱㒯𠓾冁𠖥𠫂叢㘉嚔-嚤𡂖𡂝𡂴𡂿𡃀𡃁𡃇𡃈𡃉𡃏𡃓嚮壘壙𡒶夑夓奰㜰㜱嬸嬺嬻嬼𡣺屩屪巀巁巂幭幮廫",
  "彍彝彞㦛懕懖懘懟懣㦡懩懪懫懭懮懰懱懳懴戳擧擪㩡㩦㩧擥擲擴-擿攁-攆𢸍㪫贁𣁦斔𣂎斷旛㬣-㬨曘曛曜",
  "𣋠𣋡朦檫-櫊𣝦𣞁櫡櫭歞歟歸殯毉氋濷㵽濹-瀃瀅-瀔𤂅𤂋𤂌𤂍𤂑瀦㸄燸-爁爃𤐵𤐶𦦨獵獶獷璧璵璶璸璹璻璼",
  "璾-瓂𤪌𤪓-𤪖𤪤-𤪧甓甔甕疅癏-癞癤皦皧皨𤾩㿹皽盫盬瞸-矂𥋘礆-礖䄠禬-禯穟-穣𥣈竄竅竵䉎䉕簙-簫",
  "簭-簲𥳁𥳾𥴠䊦糣-糧𥼚䌘繎-繥繧繱𦅙-𦅜罇罈罉𦉘羀羂羳羴羵䎗翷-翻𦒍𦒘耭耮聵聶職䑃䑄䑅臍-臓𦢈舊舙",
  "艞艟艠䒏䔮䔳䔻䔽䔿䕀䕃䕄薩薰-藐藒藓𦾾𦿞𦿟𧀎䖛虩蟗蟓蟔蟖蟘-蟝蟟蟠蟢-蟵蠎𧑐𧒄𧒆襆-襑襓襕𧞄𧞅覆",
  "䚍覰-観觴鵤謣-謾𧫴譇豂豐豴豵貗貘貙賾賿贀贂-贅趩䠠蹔-蹧蹮躀𨄮蹩躿軀軁𨉼䡱轆-轌𨎊辬邇邈𨘥鄨",
  "鄺-鄾醥-醬釐䤾䥄䥅䥇鎈-鎠鎢-鎨鎪-鎮鎰-鎿𨪚𨪛𨪜𨫀𨫆𨫋𨫌𨫎镬-镱闐-闘𨶙隳䨃雗-雠離䨦霢-霥靝",
  "鞢-鞰䪖韖-韚韹韺𩐳頿頾顋-顕颢颣颸颹颺䭉䭋䭌餮餶餸-饁馤馥䮓䮖䮗騄-験𩣱𩤃𩤅髀髁髜䰀䰁鬃-鬆鬈鬩",
  "鬵鬶䰦魊-魏鮵-鮹鮻-鯄鯆-鯍鯏-鯓鯽𩷶鳌-鳒鵊-鵠鵢鵣鵥鹭-鹰䴦麌-麐𪊴𪊶𪊺𪊽䴶麱麲麿黊黋黟黠黡鼀",
  "鼁鼂鼕鼖鼥-鼬齌齕龎㐦㒣儳儴儵劖勷勸匶厴壡嚥-嚭嚯嚰𡃤𡃴𡃵𡃶壚-壠壢夒嬽㜲-㜵嬹嬾嬿𡤃𡤄𡤅孼寳寴",
  "寵屫㠠㠢巃巄巅𡾞𡾡幰𢅳廬廭龐彟徿懬懯懲懵懶懷𢤦𢤹懻攀攇-攐攒𢸶𢹂斄旜旝旞㬩㬪曝-曢㰀㰁㰂㰄",
  "櫋-櫚櫜-櫠櫢-櫦櫫𣞢𣞼𣟂櫧歠殰殱𣫛氌㶅㶊濳瀕-瀥瀧瀨瀩瀫-瀮𤃉𤃡爂㸆爄-爊爌爍爎爕𤑚𤑛牘犡-犦獸",
  "獹獺璷璽㼄㼆瓃-瓋𤪱𤪲𤪳𤪺𤪻𤪼瓣甖疆疇癟癠癡癣皩𥀬矃-矊𥌎𥌑𥌓矱礗-礡𥖹禰禱𥜝穤-穫𥣡竆簬䉏䉠",
  "簳-籂𥴰𥵃糩-糭𥽋䌠繋繦繨-繰繲-繺缵罊罋羃-羆羶-羹翽翾聸臋䑆臔臕臗臘𦢊𦢓𦤦舋舚艡-艥艶䕅䕆䕑﨟",
  "藑藕-藭藯-藵𧁋𧁒𧁓藷藸蠁蟕蟶-蠀蠂-蠍蠏蠞襖-襢覇覈覴-覸觵觶謿-譄譆譈-譌譎-譜𧬆𧬋𧬘谶豃豷豶貚",
  "贆-贌趪-趭䠦蹨蹪-蹭蹯-蹿𨅏𨅝𨅯躇軂-軅轍-轔辭辴邊邋邌𨘻鄿酀酂䤑醭-醱䥉䥑䥓鎩鏀-鏲鏹𨫞-𨫣𨫥𨫪",
  "𨫼𨬌镲镽闙-闝隴䨄雡難霦-霭𩄼𩅍𩅛靡鞱-鞷韜-韟韲韻韼䫤顖-類颤䬙颻-飀䭓饃饄饅饇饈饉馦馧𩡗䮝",
  "騔-騨𩤯骥髂髃髅䰄䰇鬉-鬏鬷鯅䱛鯔-鯵𩸆𩸭鯺鳓-鳛鵡䳡鵦鵨-鶏鶑𪂇鹱鹲鹸麑-麗麳麴黀䵌黢黣黼鼃鼄鼗",
  "鼭齀齁齍齖齗齘龏𪚩㒥儶匷嚱-嚹𡄯嚼壣壤壥𡓨㜶㜷㜸孀-孆𡤐𡤑𡤒𡤕孽孾寶巆-巊巌幱𢅺廮廯廰忀忁㦤懸",
  "懹懺𢥏㩰攓-攚斅斆旟㬫曣-曨𣌀朧㰉㰊㰍㰑櫨櫩櫪櫬櫮-櫶𣟕𣟖𣟗櫹瀪㶏㶑瀯-灁𤄄灂㸊爋爏-爔爖爗爘𤑳",
  "𤒇𤒈犧犨𤜆獻獼獽璺瓌-瓒𤫀𤫇疈疉癢癥癦皪皫㿺皾盭矋-矏矲礢-礬禲穬-穯竇競竷籃-籏籕䊮糮糯糰䌦",
  "繻-纃𦆭𦆮𦆲罌𦌵羺翿耀耯聹-聼臖臙-臜𦦵艦-艩䕒䕔䕕䕗䕜蘤藮藶藹-蘑蘓蘔蘢𧂈𧂭𧂮𧂯蘒蘛蘰䘀䘁蠐-蠙",
  "襣-襨覹覺覻觷觸觹䜓䜘譍譝-譲𧬸𧬹𧬺豑𧰒贍贎贏趮躁-躆躈躉𨆉軆轕-轚辮邍酁酃醲-醸釋鏳鏵-鏸鏺-鐨",
  "𨬓𨬡𨬢𨬫𨬬𨬭𨬯𨭆𨭌𨭎𨭐鐯鐼镳镴闞-闡𨶹隵霮-霱霳霴𩅞𩅰䩋鞸-鞻韛韠韽韾響顟-顣颥飁-飄饊-饎饐-饓",
  "饙馨騩-騸𩥇𩥈𩥉𩥝𩥪骦骧髄髆-髌鬐-鬓鬪鬸魐鯻䱭鯶-鯹鯼鯾-鰛鰠𩹨鱀鳜-鳟䳭鶐鶒-鶫𪂹𪃡𪃭𪃳𪃸鶿鹹",
  "麘-麛麵黁𪎩䵍黤-黪𪑛鼍鼮鼯鼰𪗋齙齚齛齝-齡齣龑㒧儷-儺兤劗劘𠠬卛嚺嚻嚽-囄囍𡄻𡄽𡅅𡅈𡅏壦𡓽夔㜹",
  "孇孈孉𡤜寷屬巋㠦巍巏巐廱忂懼懽懾攑攛攜攝𢹸斕曩𣌊朇㰕櫸櫺-欅欌殲灃-灍灏灐𤄏𤄙㸍爙爚爛𤒹爝獾瓓",
  "瓔瓖𤫊𤫑甗㿗癧-癫皬𤾸矐-矓礭-礴𥗕𥗛𥜥𥤃竃竈竉籖䉪籐-籔糲纄-纐罍羻羼耰臝艪䕢藔蘕-蘚蘜-蘡蘣",
  "蘥-蘫蘭蘮蘯𧃍𧃸𧄉𧄌䘂蠚-蠝蠟-蠤蠩蠫衊襩-襮覼覽觺譅譳-譽𧭈贐-贔赣趯趰躊-躏𨆯𨆼軇轛-轟辯邎酄酅",
  "酆醹醺醻䥥鏴鐩-鐮鐰-鐻鐽-鑁𨭣-𨭦𨭬𨮏闢-闦雤露霵-霻靧鞼-鞿韡韢𩐿顤-顨颦飅-飊飜饏饖饗饘馩騹-驇",
  "髍髎髏鬔-鬘鬹鬺魑-魔䱽鰜-鰟鰡-鰰𩺬䲣䲤鳠-鳣鶬-鶾鷀-鷊鷌-鷏𪃾𪄇𪄣鹺鹻麜麝䵎黫-黯鼅鼘-鼛鼱齎齜",
  "齤-齩𪘁龒龝龡亹儻儼𠑥𠥹㘘囅-囋囎圝奱㜺孊孋孌𡤢𡤧孿巎巑-巕巗廲彎彲懿戂𢥧𢥫戵攞-攢攤攦攧𢺋𣀳㬬",
  "㬭㰘櫷欆-欋欍欎歡氍灑灒灔-灘𤄿𤅀𤅄爜爞爟爠犩獿玀瓕瓗瓘瓙瓤疊癬癭癮𤼎皭礵𥗠禳禴穰穱竊竸籗-籝",
  "籟籠籡糱糴䌫纑纒𦇝罎罏𦉡羇耱耲聽聾臞臟𦧺艫䕧䕪蘬蘲-蘷𧄍𧄦𧄧䘆蠥-蠨蠪蠬襯-襲覾覿𧢝觻觼䜠譾-讆",
  "豄贕-贘躐-躗躚轠轡轢酇酈䥪䥭鑂-鑔鑧𨮙𨮜𨮝镵镶镾闧霼-靀𩆜韀-韃韣顩顪顫飋饔饕饚饛𩟔驈-驕𩦝髐髒",
  "髝鬝䰎鬙-鬜𩯕鬫鬻魕魖䲁鰱-鰿鱁-鱈鷠𩻃鱉鳤鷋鷐-鷟𪄳𪄴𪅐鷩鷵鹳鹴麞𪋟麶黐黰黱鼲-鼵齂䶜齪齫齬龓",
  "龔龕龢儽劙劚𠫍㘚囌囏囐壧壨𡖂奲孍巖巘巚彏戀戁戃戄攣㩷攥攨-攫斖㬮曪曫曬欏-欒𣠺毊灓灙-灜𤅎𤅕𤅖",
  "𤅗𤅜𤅟爡爢𤒼𤓎𤓓𤓖玁玂玃瓚𤫟癯癰矔礶礷禵籞䉴籢-籨糵纓-纖臢𦣇艬䕷蘱蘸-虁𧈛蠴蠭-蠳襳襴襶覉觽觾",
  "讇-讐豅贙贚趱躘躙躛躜𨊛轣轤邏邐醼䥲鑕-鑦𨯂𨯅𨯔𨯗𨯙𨯚䨵靁𩆨靨韄韅頀顬-顯颧饜馪驖-驜髑髓體髞鬞",
  "鬟鬠鱊-鱛𩻸鱪䴀鷡-鷨鷪-鷴鷶鷷鷸鷻鷼𪆒𪆓𪆫麟黂黲黳黴鼆鼇鼜鼶-鼹齃齄齏齭-齱𪘲儾𠓗囑囒囓𡆀㚁壩",
  "孎孏屭巙𢦀攬攭曭曮欓欔欕灝-灡爣瓛瓥癱癲𤿂矕矗矖䃺礸禶禷穳穲䉶籪纗罐羈羉艭艷虃虅𧅤𧅥蠵-蠺衋衢",
  "襵襷𧟌讑-讖贛躝-躠軈醽-釀釂鑨-鑬𨯧-𨯬𨯵雥雦靂-靈韆韇韈韤韥𩑈顰饝驝驞驟髕鬡鬢鬬鬭魗魘魙𩴾",
  "鱜-鱧鱩鱫𩼣鱰鷺䴉鷹鷽-鸊𪆴鹼鹽麠鼞齅齆齲-齷囔囕𡆇壪廳戅戆攮斸㬯曯欖-欛欝灢灣爤爥爦犪𤴆矘矙矡",
  "礹籩籫-籮糶纘-纛臠臡虂虆-虉蠻𧕴襸-襼覊觀觿讗讘讙豒貛贜𧹍躡-躥釁鑭-鑳𨯿𨰃靉顱顲饞饟馕䮽𩧃𩧉髖",
  "鬣鱨鱬-鱯𩼰鸋-鸒𪇟麡黌黵鼈鼉鼝鼟齇齸-齻𪙊龣㔶圞㜻彠欜氎灎灤灦𤫢癳矚籯籰𥸎糳虄虪蠼讚讛𧹏趲躦",
  "躧釃釄鑴-鑺𨰉𨰜𨰝靊韉䮾驠-驣驥髗鱱-鱶鸓鸔𪇵黶鼊𪙛龤龥灥灧灨𤅷𤅺犫糷纜纝虊蠽蠾蠿襽讜讝讞豓貜",
  "躩躪軉轥釅鑻-鑾𨰣𨰦靋-靎顳顴飌飍飝饠饡馫驤驦驧鬤鬮鬰鱷鱸鸕鸖鸗黷齈囖戇𢺳𣌟欞欟爧𤫩㿜癴𧅵虌豔",
  "躨𨈇鑿-钂𨰫𨰰雧䯀驨驩鸘鸙鸚𪈠麢黸鼺齼齽龞爨纞虋讟䥹钃钄靏驪鬱鱹鸛鸜麷厵癵䆐籱䖅𨰹韊饢驫𩱳鱺",
  "鸝鸞𪈳䶑灩𧖣䴐麣灪籲𨰻龖𡤻爩鱻麤龗齾齉靐龘"]

end Han
end Collation
end YamlOrder
