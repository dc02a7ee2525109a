/-!
This module contains Chinese characters in the order of their pronunciation, written in Latin
letters with tones. The list is in the short form of the module on the common order.
-/

namespace YamlOrder
namespace Collation
namespace Han

/-- Chinese characters in the order of their pronunciation. -/
def pinyin : List String := [
  "阿呵锕嗄啊哎哀唉埃娭挨欸溾嗳銰锿噯鎄啀捱皑溰嘊敱敳皚癌騃毐昹娾矮蔼躷濭藹霭靄艾伌爱砹硋隘嗌塧",
  "嫒愛碍叆暧瑷閡僾壒嬡懓薆鴱懝曖璦餲皧瞹馤礙譪譺鑀靉鱫安侒峖桉氨庵菴谙媕萻葊痷腤鹌蓭誝鞌鞍盦諳",
  "馣盫鵪韽鶕玵啽雸儑垵俺唵埯铵隌揞罯銨犴岸按洝荌案胺豻堓婩晻暗錌闇鮟黯肮骯卬岇昂昻枊盎醠凹柪梎",
  "軪爊敖厫隞嗷嗸嶅廒滶獓蔜遨摮熬獒璈磝翱聱螯謷謸翺鳌鏖鰲鷔鼇抝芺拗袄镺媪媼襖岙扷坳垇岰傲奡奥奧",
  "嫯慠骜隩墺嶴懊澳擙鏊驁翶八仈扒朳玐夿岜芭峇柭疤哵巼捌粑羓蚆釛釟豝鲃叐犮抜坺妭拔茇炦癹胈菝詙跋",
  "軷颰魃墢鼥把钯鈀靶坝弝爸垻耙跁鲅鲌鮊覇矲霸壩灞欛巴叭吧笆紦罢魞罷挀掰擘白百佰柏栢捭瓸粨絔摆擺",
  "襬庍拝败拜敗猈稗蛽粺贁韛竡薭扳攽班般颁斑搬斒頒瘢鳻螌褩癍辬阪坂岅昄板版瓪钣粄舨鈑蝂魬闆办半伴",
  "坢姅怑拌绊柈秚湴絆鉡靽辦瓣扮螁邦垹帮捠梆浜邫幇幚縍幫鞤绑綁榜牓膀髈玤蚌傍棒棓谤塝搒稖蒡蜯磅镑",
  "艕謗鎊勹包孢苞枹胞笣煲龅蕔褒襃闁齙窇嫑雹薄宝怉饱保鸨宲珤堡堢媬葆寚飽褓駂鳵緥鴇賲寳寶靌勽报抱",
  "豹趵铇菢蚫袌報鉋鲍靤骲暴髱虣鮑儤曓爆忁鑤鸔佨藵陂卑杯盃桮悲揹椑禆碑鹎錃藣鵯北鉳贝孛狈貝邶备昁",
  "牬苝背郥钡俻倍悖狽被偝偹梖珼鄁備僃惫焙琲軰辈愂碚蓓犕褙誖鞁骳輩鋇憊糒鞴鐾呗唄禙奔泍贲栟犇锛錛",
  "本苯奙畚翉楍坋坌倴捹桳渀笨逩撪獖輽伻祊奟崩絣閍傰嵭痭嘣綳甭埄埲绷菶琣琫繃鞛泵迸逬塴甏镚蹦鏰蠯",
  "揼屄偪毴逼楅豍螕鵖鲾鎞鰏荸鼻匕比夶朼佊吡妣沘疕彼柀秕俾笔粃舭啚筆鄙箄聛貏币必毕闭佖坒庇诐邲妼",
  "怭怶枈畀苾哔柲毖珌疪荜陛毙狴畢笓粊袐铋婢庳敝梐萆閇閉堛弻弼愊愎湢皕筚詖貱賁赑嗶彃滗滭煏痹痺睤",
  "腷蓖蓽蜌裨跸鉍閟飶幣弊熚獙碧箅箆綼蔽鄪馝潷獘罼駜髲壁嬖廦篦篳縪薜觱避鮅斃濞臂蹕髀奰璧鄨鏎饆繴",
  "襞襣鞸韠魓躃躄驆贔鐴鷝鷩鼊匂萞幤襅嬶边辺砭笾揙猵编煸牑甂箯編蝙邉鍽鳊邊鞭鯾鯿籩贬扁窆匾貶惼萹",
  "碥稨褊糄鴘藊卞弁匥忭抃汳汴苄釆变玣便変昪覍徧缏遍閞辡緶艑辧辨辩辫辮辯變峅炞灬杓标飑骉髟淲彪猋",
  "脿颩墂幖摽滮蔈颮骠標熛膘瘭磦镖飙飚儦颷瀌藨謤爂臕贆鏢穮镳飆飇飈驃鑣驫表婊裱諘褾錶檦俵鳔鰾飊憋",
  "蟞鳖鱉鼈虌龞別别咇莂蛂徶襒蹩瘪癟彆汃邠玢砏宾彬梹傧斌椕滨缤槟瑸豩賓賔镔儐濒濱虨豳檳璸瀕霦繽鑌",
  "顮摈殡膑髩擯鬂殯臏髌鬓髕鬢氞濵冫仌仒氷冰兵掤丙邴陃怲抦秉苪昞昺柄炳饼眪窉蛃摒禀稟鈵鉼餅餠鞞并",
  "並併幷庰倂栤病竝偋傡寎棅誁鮩靐垪鞆鋲癶帗拨波癷玻剝剥哱盋砵袚钵饽紴缽菠袰碆鉢僠嶓撥播餑鮁蹳驋",
  "鱍仢伯犻肑驳帛狛瓝苩侼勃胉郣亳挬浡瓟秡袯钹铂脖舶袹博渤葧鹁愽搏猼鈸鉑馎僰煿牔箔艊蔔馛駁踣鋍镈",
  "馞駮襏豰嚗懪礡簙鎛餺鵓犦髆髉欂襮礴鑮跛箥簸孹檗糪譒蘗卜啵萡膊峬庯逋晡鈽誧鳪轐醭卟补哺捕喸補鵏",
  "不布佈吥步咘怖抪歨歩柨钚勏埔埗悑捗荹部钸埠瓿蔀踄郶餔篰餢簿嚓擦攃礤遪囃偲婇猜才犲材财財裁溨纔",
  "毝采倸啋寀彩採睬跴綵踩埰菜棌蔡縩参參叄飡骖叅喰湌傪嬠餐驂残蚕惭殘慚蝅慙嬱蠶蠺惨朁慘憯穇篸黪黲",
  "灿掺孱粲摻澯薒燦璨謲儏爘仓仺伧沧苍鸧倉舱傖嵢滄獊蒼艙螥鶬藏鑶賶濸罉欌撡操糙曺曹嘈嶆漕蓸槽褿艚",
  "螬鏪艸草愺懆騲肏鄵襙艹冊册侧厕恻拺测敇畟側厠笧粣萗廁惻測策萴筞筴蓛墄箣憡簎嵾岑涔笒梣曽噌层曾",
  "層嶒竲驓蹭叉扠杈肞臿挿偛嗏插揷馇銟锸艖疀鍤餷秅垞查茬茶嵖搽猹靫槎詧察碴檫衩蹅镲鑔奼汊岔侘诧姹",
  "差紁詫芆拆钗釵侪柴豺祡喍儕齜茝虿袃訍瘥蠆囆辿觇梴搀覘裧鉆鋓幨襜攙婵谗棎湹禅馋煘缠僝獑蝉誗鋋儃",
  "嬋廛潹潺緾澶磛禪毚鄽镡瀍蟬儳劖蟾酁嚵巉瀺欃纏纒躔镵艬讒鑱饞产刬旵丳斺浐剗谄啴產産铲阐蒇剷嵼摌",
  "滻嘽幝蕆諂閳骣燀簅冁繟譂辴鏟闡囅灛讇忏硟摲懴颤懺羼韂顫壥伥昌倀娼淐猖菖阊晿琩裮锠錩閶鲳鯧鼚仧",
  "兏肠苌镸尝偿常徜瓺萇甞腸嘗塲嫦瑺膓鋿償嚐鲿鏛鱨厂场昶惝場僘厰廠氅鋹怅玚畅倡鬯唱悵焻瑒暢畼誯韔",
  "敞椙蟐抄弨怊欩钞訬焯超鈔勦牊晁巢巣朝鄛鼌漅嘲樔潮窲罺轈鼂謿吵炒眧焣煼麨巐仦仯耖觘车伡車俥砗唓",
  "莗硨蛼扯偖撦屮彻坼迠烢聅掣硩頙徹撤澈勶瞮爡抻郴捵琛嗔綝瞋諃賝縝謓尘臣忱沈沉辰陈迧茞宸莀莐陳敐",
  "訦谌軙愖揨鈂煁蔯塵樄瘎霃螴諶薼麎曟鷐趻硶碜墋夦磣踸鍖贂醦衬疢龀趁趂榇齓儬齔儭嚫谶櫬襯讖烥晨阷",
  "泟柽爯棦浾琤称偁蛏湞牚赪僜憆摚稱靗撐撑緽橕瞠赬頳檉竀穪蟶鏳鏿饓丞成朾呈承枨诚郕乗城娍宬峸洆荿",
  "乘埕挰晟珹脀掁珵碀窚脭铖堘惩棖椉程筬絾裎塍塖溗誠畻酲鋮憕澂澄橙檙瀓懲騬侱徎悜逞骋庱睈騁秤鯎吃",
  "侙哧彨胵蚩鸱瓻眵笞喫訵嗤媸摛痴絺噄瞝誺螭鴟癡魑齝彲黐弛池驰迟坻岻茌持竾荎歭蚳赿筂貾遅趍遟馳箎",
  "墀漦踟遲篪謘尺叺呎侈卶齿垑胣恥粎耻蚇袳欼歯袲裭鉹褫齒彳叱斥杘灻赤饬抶勅恜炽勑翄翅敕烾痓啻湁硳",
  "飭傺痸腟跮鉓雴憏瘈翤遫銐慗瘛翨熾懘趩饎鶒鷘妛麶充冲忡沖茺浺珫翀舂嘃摏徸憃憧衝罿艟蹖虫崇崈隀褈",
  "緟蝩蟲爞宠埫寵铳揰銃抽婤搊瘳篘犨犫仇怞俦帱栦惆紬绸菗椆畴絒愁皗稠筹裯酧綢踌儔雔嚋嬦幬懤薵燽雠",
  "疇籌躊醻讎讐丑丒吜杻杽侴偢瞅醜矁魗臭臰遚殠酬出岀初摴樗貙齣刍除芻厨滁蒢豠锄媰耡蒭蜍趎鉏雏犓蕏",
  "廚篨鋤橱幮櫉藸躇雛櫥蹰鶵躕処杵础椘储楮褚濋儲檚礎齭鸀齼亍处竌怵拀绌豖柷欪竐俶敊畜埱珿絀處傗琡",
  "鄐搐滀蓫触踀閦儊嘼諔憷斶歜臅黜觸矗楚榋橻璴蟵欻歘揣搋膗啜嘬膪踹巛川氚穿剶猭瑏伝传舡舩船圌遄傳",
  "椽暷篅輲舛荈喘歂僢踳汌串玔钏釧賗鶨刅疮窓窗牎摐牕瘡窻床牀噇幢闯傸摤磢闖创怆刱剏剙凔創愴吹炊垂",
  "倕埀陲捶菙搥棰椎腄槌锤箠錘鎚顀龡旾杶春萅堾媋暙椿瑃箺蝽橁輴膥櫄鰆鶞纯陙唇浱純莼淳脣湻犉滣蒓漘",
  "蓴醇醕錞鯙偆萶惷睶賰蠢鹑鶉逴踔戳辶辵娕娖婼惙涰绰腏辍酫綽趠輟龊擉磭繛歠嚽齪鑡呲疵赼趀偨跐縒骴",
  "髊蠀齹词珁垐柌祠茈茨堲瓷詞辝慈甆辞磁雌鹚糍辤飺餈嬨濨薋鴜礠辭鶿鷀此佌泚玼皉紪鮆朿次伺佽刺刾庛",
  "茦栨莿絘蛓赐螆賜匆囪囱苁忩枞怱悤棇焧葱漗聡蓯蔥骢暰樅樬熜瑽璁緫聦聪燪瞛篵聰蟌鍯繱鏦騘驄从丛従",
  "婃孮徖從悰淙琮慒漎潀潨誴賨賩樷藂叢灇欉爜憁謥茐凑湊腠辏輳粗觕麁麄麤徂殂促猝脨酢瘄蔟誎趗噈憱踧",
  "醋瘯簇縬蹙鼀蹴蹵顣汆撺鋑镩蹿攛躥鑹櫕巑欑穳窜殩熶篡簒竄爨崔催凗缞墔嶉慛摧榱獕槯磪縗鏙漼璀趡皠",
  "伜忰疩倅粋紣翆脃脆啐啛悴淬萃毳焠脺瘁粹綷翠膵膬濢竁襊顇臎乼邨村皴踆澊竴存侟拵刌忖寸吋籿搓瑳遳",
  "磋撮蹉醝虘嵯嵳痤睉矬蒫蔖鹾酂鹺躦脞剉剒厝夎挫莝莡措逪斮棤锉蓌错歵銼錯咑哒耷荅笚嗒搭褡噠撘鎝达",
  "迖呾妲怛沓炟羍荙畗剳匒畣笪逹答詚達阘靼薘鞑蟽鎉躂鐽韃龖龘打大汏眔垯瘩墶燵繨呆呔獃懛歹逮傣代轪",
  "垈岱帒甙绐迨骀带待怠柋殆玳贷帯軑埭帶紿袋軚貸軩瑇廗叇曃緿鴏戴艜黛簤蹛瀻霴襶黱靆鮘丹妉单担単眈",
  "砃耼耽郸聃躭單媅殚瘅匰箪褝鄲頕儋勯擔殫甔癉襌簞聸伔刐抌玬瓭胆衴疸紞掸赕亶撢撣澸黕膽黮旦但帎沊",
  "狚诞柦疍啖啗弹惮淡萏蛋啿弾氮腅蜑觛窞誕僤噉馾髧嘾彈憚憺暺澹禫蓞駳鴠癚嚪繵贉霮饏泹当珰裆筜當噹",
  "澢璫襠簹艡蟷挡党谠擋譡黨攩灙欓讜氹凼圵宕砀垱荡档菪婸愓瓽逿嵣雼潒碭儅瞊蕩趤壋檔璗盪礑簜蘯闣铛",
  "鐺刀刂叨忉朷氘舠釖鱽魛捯导岛島捣祷禂搗隝嶋嶌導隯壔嶹擣蹈禱到倒悼焘盗菿盜道稲箌翢噵稻衜檤衟燾",
  "翿軇瓙纛屶陦椡槝嘚恴淂惪棏锝徳德鍀地的得脦扥扽灯登豋噔嬁燈璒竳簦覴蹬朩等戥邓凳鄧隥墱嶝瞪磴镫",
  "櫈鐙艠氐仾低奃彽袛羝隄堤趆滴樀镝磾鍉鞮廸狄籴苖迪唙敌涤荻梑笛觌靮滌馰髢嘀嫡翟蔋蔐頔敵篴嚁藡豴",
  "蹢鬄鏑糴覿鸐厎坘诋邸阺呧底弤抵拞茋柢牴砥埞掋菧觝詆軧聜骶坔弟旳杕玓怟俤帝埊娣递逓偙啇啲梊焍珶",
  "眱祶第菂谛釱媂棣渧睇缔蒂僀禘腣遞鉪墑墬摕碲蔕蝃遰慸甋締嶳諦踶螮鯳嗲甸敁掂傎厧嵮滇槇槙瘨颠蹎巅",
  "顚顛癫巓巔攧癲齻典奌点婰猠敟跕碘蒧蕇踮點嚸电佃阽坫店垫扂玷钿婝惦淀奠琔殿蜔電墊壂橂橝澱靛癜簟",
  "驔椣刁叼汈虭凋奝弴彫蛁琱貂碉鳭殦瞗雕鮉鲷鼦鯛鵰扚屌弔伄吊钓窎訋调掉釣铞铫竨蓧銱雿魡調瘹窵鋽藋",
  "鑃簓爹跌褺苵迭垤峌恎挕昳绖胅瓞眣戜谍喋堞惵揲畳絰耋臷詄趃镻叠殜牃牒嵽碟蜨褋艓蝶諜蹀鲽曡疉鰈疊",
  "氎哋耊眰幉疂丁仃叮帄玎疔盯钉耵虰酊釘靪奵顶頂鼎嵿鼑濎薡鐤订忊饤矴定訂飣啶铤椗腚碇锭碠蝊鋌錠磸",
  "顁萣聢丟丢铥銩东冬咚岽東苳昸氡倲鸫埬娻崠崬涷笗菄徚氭蝀鴤鼕鯟鶇董墥嬞懂箽蕫諌动冻侗垌姛峒恫挏",
  "栋洞胨迵凍戙胴動硐棟湩絧腖働駧霘鮗鶫吺唗都兜兠蔸橷篼阧抖枓枡陡唞蚪鈄斗豆郖浢荳逗饾鬥梪毭脰酘",
  "痘閗窦鬦餖斣闘竇鬪鬭鬬乧艔厾剢阇嘟督醏闍毒独涜读渎椟牍犊碡裻読蝳獨錖凟匵嬻瀆櫝殰牘犢瓄皾騳黩",
  "讀豄贕韣髑鑟韇韥黷讟笃堵帾琽赌睹覩賭篤芏妒杜肚妬度荰秺渡靯镀螙殬鍍簵蠧蠹耑偳剬媏端褍鍴短段断",
  "塅缎葮椴煅瑖腶碫锻緞毈簖鍛斷躖籪襨垖堆塠嵟痽磓鴭鐜頧队对兊兌兑対祋怼陮隊碓綐對憞憝濧薱镦懟瀩",
  "譈鐓吨惇敦蜳墩墪撴獤噸撉橔犜礅蹲蹾驐盹趸躉伅囤庉沌炖盾砘逇钝顿遁鈍楯頓遯潡燉踲碷多夛咄哆畓剟",
  "崜掇敠毲裰嚉夺铎剫敓敚喥悳敪痥鈬奪凙踱鮵鐸朶哚垛垜挅挆埵缍椯趓躱躲憜綞亸鍺軃嚲奲刴剁陊陏饳尮",
  "柁柮炨桗堕舵惰跢跥跺飿墮嶞墯鵽朵枤妸妿娿婀屙钶痾讹吪囮迗俄娥峨峩涐莪珴訛皒睋鈋锇鹅蛾磀誐頟额",
  "魤隲額鵝鵞譌鰪枙砈頋噁騀厄屵戹歺岋阨呃扼苊阸呝砐轭咢咹垩姶峉匎恶砨蚅饿偔卾堊悪掠略硆谔軛鄂阏",
  "堮崿惡愕湂萼豟軶遌遏鈪廅搤搹琧腭詻僫蝁锷魥鹗蕚頞颚餓噩覨諤閼餩貖鍔鳄歞顎礘櫮鰐鶚讍齃鑩齶鱷擜",
  "鵈诶誒奀恩蒽煾峎摁鞥儿而児侕兒陑峏洏荋栭胹唲袻鸸粫聏輀鲕隭髵鮞鴯轜厼尒尓尔耳迩洱饵栮毦珥铒爾",
  "餌駬薾邇趰二弍弐佴刵咡贰貮衈貳誀鉺樲发沷発傠發酦彂醱乏伐姂垡浌疺罚茷阀栰砝筏瞂罰閥罸橃藅佱法",
  "灋珐琺髪蕟髮鍅帆訉番勫噃嬏幡憣蕃旙旛繙翻藩轓颿籓飜鱕凡凢凣忛杋柉矾籵钒烦舧笲棥渢煩緐墦樊橎燔",
  "璠膰薠繁襎羳蹯瀪瀿礬蘩鐇鐢蠜鷭反払返釩氾犯奿汎泛饭范贩畈軓婏梵盕笵販軬飯飰滼嬎範舤匚方邡汸芳",
  "枋牥钫淓蚄鈁鴋防妨房肪埅鲂魴鰟仿访彷纺昉昘瓬眆倣旊紡舫訪髣鶭放趽坊堏錺飞妃非飛啡婓渄绯菲扉猆",
  "靟裶緋蜚霏鲱餥馡騑騛飝肥淝腓蜰蟦朏匪诽奜悱斐棐榧翡蕜誹篚吠芾废杮沸狒肺昲胇费俷剕厞疿陫屝萉廃",
  "費痱镄廢曊癈鼣濷櫠鯡鐨靅婔暃分吩帉纷芬昐氛哛衯兺紛翂兝棻訜酚鈖雰朆燓餴饙坟妢岎汾朌枌炃肦羒蚠",
  "蚡梤棼焚蒶馚隫墳幩濆蕡魵橨燌豮鼢羵鼖豶轒鐼馩黂粉黺份弅奋忿秎偾愤粪僨憤奮膹糞鲼瀵鱝竕躮丰风仹",
  "凨凬妦沣沨凮枫封疯盽砜風峯峰偑桻烽崶猦葑锋楓犎蜂瘋碸僼篈鄷鋒檒闏豐鏠酆寷灃蘴霻蠭靊飌麷冯夆捀",
  "浲逢堸馮摓漨綘艂讽覂唪諷凤奉甮俸湗焨煈缝赗鳯鳳鴌縫賵琒溄鎽蘕覅仏坲梻紑裦缶否妚缹缻殕雬鴀伕邞",
  "呋妋姇玞肤怤柎砆荂衭垺娐尃荴旉紨趺麸痡稃跗鈇筟綒鄜孵豧敷膚鳺麩糐麬麱懯乀巿弗伏凫甶佛冹刜孚扶",
  "芙芣咈岪彿怫拂服枎泭绂绋苻茀俘垘柫氟洑炥玸畉畐祓罘茯郛韨哹栿浮砩莩蚨匐桴涪烰琈符笰紱紼翇艴菔",
  "虙幅棴絥罦葍福粰綍艀蜉辐鉘鉜颫鳧榑稪箙韍幞澓蝠髴鴔諨踾輻鮄癁襆黻鵩鶝呒抚乶府弣拊斧俌俛胕郙鳬",
  "俯釜釡捬辅焤盙腑滏蜅腐輔嘸撨撫頫鬴簠黼阝父讣付妇负附坿竎阜驸复峊祔訃負赴蚥袝陚偩冨副婦蚹媍富",
  "復秿萯蛗詂赋圑椱缚腹鲋複褔赙緮蕧蝜蝮賦駙嬔縛輹鮒賻鍑鍢鳆覆馥鰒夫甫咐袱酜傅椨覄禣鮲旮呷嘎嘠钆",
  "尜噶錷尕玍尬魀侅该郂陔垓姟峐荄晐赅畡祴絯該豥賅忋改絠丐乢匃匄阣杚钙盖摡溉葢鈣隑戤概槩蓋賌漑槪",
  "瓂甘忓芉迀攼杆玕肝坩泔矸苷乹柑竿疳酐乾粓亁凲尲尴筸漧鳱尶尷魐仠扞皯秆衦赶敢桿笴稈感澉趕橄擀簳",
  "鰔鳡鱤干旰汵盰绀倝凎淦紺詌骭幹榦檊贑赣贛灨冈罓冮刚杠纲肛岡牨疘矼缸钢剛罡堈掆釭棡犅堽綱罁鋼鎠",
  "岗崗港焵筻槓戅戆皋羔羙高皐髙臯滜槔睾膏槹橰篙糕餻櫜鷎鼛鷱夰杲菒搞缟暠槀槁稾稿镐縞藁檺藳吿告勂",
  "叝诰郜祮祰锆煰筶禞誥鋯韟戈仡圪犵纥戓肐牫疙咯牱哥胳袼鸽割搁滒戨歌鴐鴚擱謌鴿鎶呄佮匌挌茖阁革敋",
  "格鬲愅臵葛蛒裓隔嗝塥滆觡搿槅膈閣閤獦镉鞈韐骼諽輵鮯韚轕鞷騔哿舸个各虼個硌铬嗰箇彁櫊给給根跟哏",
  "艮亘亙茛揯刯庚畊浭耕菮搄焿絚赓鹒緪縆羮賡羹鶊郠哽埂峺挭绠耿莄梗綆鲠骾鯁更堩暅掶椩工弓公厷功攻",
  "杛供玜糼肱宫宮恭躬龚匑塨幊愩觥躳熕碽髸觵龏龔廾巩汞拱拲栱珙輁鋛鞏共贡羾唝貢莻蚣慐勾佝沟钩袧缑",
  "鈎溝鉤緱褠篝鞲韝芶岣狗苟枸玽耇耉笱耈蚼豿坸构诟购垢姤茩冓够夠訽媾彀搆詬遘雊構煹觏撀覯購估呱姑",
  "孤沽泒苽柧轱唂罛鸪笟菰蛄觚軱軲辜酤鈲箍箛嫴橭鮕鴣鶻夃古扢汩诂谷股牯骨唃罟羖钴啒淈脵蛊蛌尳愲蓇",
  "詁馉鹄榾毂鈷鼓鼔嘏榖皷鹘穀縎糓薣濲皼臌轂餶瀔盬瞽蠱固故凅顾堌崓崮梏牿棝祻雇痼稒锢僱錮鲴鯝顧咕",
  "峠逧傦菇篐瓜刮胍栝鸹歄煱聒趏劀緺踻銽颳鴰騧冎叧剐剮寡卦坬诖挂啩掛罣絓罫褂詿颪乖掴摑拐枴柺箉夬",
  "叏怪恠关观官冠覌倌棺蒄窤関瘝癏観闗鳏關鰥觀鱞莞馆琯痯筦管輨舘錧館鳤毌丱贯泴悺惯掼涫貫悹祼慣摜",
  "潅遦樌盥罆雚鏆灌爟瓘矔礶鹳罐鑵鱹鸛光灮侊炗炛咣垙姯洸茪桄烡胱僙輄銧黆广広犷廣獷臩俇珖逛臦撗炚",
  "欟归圭妫龟规邽皈茥闺帰珪胿亀傀硅窐袿規媯廆椝瑰郌嫢摫閨鲑嬀槻槼螝璝膭鮭龜巂歸鬶騩瓌鬹櫷宄氿朹",
  "轨庋佹匦诡陒垝姽恑攱癸軌鬼庪祪匭晷湀蛫觤詭厬瞡簋蟡攰刽刿昋柜炔贵桂桧猤筀貴蓕跪匱劊劌嶡撌槶檜",
  "瞶禬簂櫃癐襘鳜鞼鱖鱥椢丨衮惃绲袞袬辊滚蓘滾緄蔉磙輥鲧鮌鯀棍睔睴璭謴呙咼埚郭堝崞鈛锅墎瘑嘓彉濄",
  "蝈鍋彍蟈囯囶囻国圀國帼腘幗慖漍聝蔮膕虢馘果惈淉猓菓馃椁槨粿綶蜾裹輠錁餜鐹过過啯哈铪蛤奤丷咍咳",
  "嗨还孩頦骸還海胲烸酼醢亥妎骇害氦嗐餀駭饚塰嚡佄炶顸蚶酣頇嫨谽憨馠歛鼾邗含邯函咁肣凾虷唅圅娢浛",
  "崡晗梒涵焓琀寒嵅韩甝筨蜬澏鋡魽韓丆厈罕浫喊蔊阚豃鬫汉屽汗闬旱岾哻垾悍捍涆猂莟晘晥焊菡釬閈皔睅",
  "傼蛿颔馯撖漢蜭貋暵熯銲鋎憾撼翰螒頷顄駻譀雗瀚蘫鶾兯爳夯苀迒斻杭绗珩笐航蚢颃貥筕絎頏魧沆垳茠蒿",
  "嚆薅薧毜蚝毫椃嗥獆貉噑獔豪嘷獋諕儫嚎壕濠籇蠔譹好郝号昊昦秏哠峼恏悎浩耗晧淏傐皓鄗滈聕號暤暭澔",
  "皜皞曍皡薃皥鎬颢灏顥鰝灝竓诃抲欱喝訶嗬蠚禾合何劾厒咊和姀河郃峆曷柇狢盇籺紇阂饸哬敆核盉盍荷啝",
  "涸渮盒秴菏萂蚵龁惒訸颌楁毼澕詥貈輅鉌阖鲄熆鹖麧頜篕翮螛魺礉闔鞨齕覈鶡皬鑉龢佫垎贺袔焃賀嗃煂碋",
  "熇褐赫鹤穒翯壑癋謞爀鶮鶴靎鸖靏粭靍黒黑嘿潶拫痕鞎佷很狠詪恨亨哼悙啈脝姮恆恒桁烆胻鸻横橫衡鴴蘅",
  "鑅堼涥鵆噷叿吽呍灴轰哄訇烘軣揈渹焢硡谾薨輷嚝鍧轟仜弘妅红吰宏汯玒纮闳宖泓苰垬娂洪竑紅荭虹峵浤",
  "紘翃耾硔紭谹鸿渱竤粠葒葓鈜閎綋翝谼潂鉷鞃魟鋐彋蕻霐黉霟鴻黌晎嗊讧訌閧撔澋澒銾闂鬨齁侯矦鄇喉帿",
  "猴葔瘊睺篌糇翭骺翵鍭餱鯸吼犼后郈厚垕後洉逅堠豞鲎鲘鮜鱟候乯匢虍呼垀忽昒曶泘苸恗烀轷匫唿惚淴虖",
  "軤嘑寣滹雐幠戯歑膴謼囫抇弧狐瓳胡壶隺壷斛焀喖壺媩搰湖猢絗葫楜煳瑚嘝蔛鹕槲箶蝴衚魱縠螜醐頶觳鍸",
  "餬鵠瀫鬍鰗鶘鶦乕汻虎浒俿萀琥虝滸乥互弖戶户戸冱冴芐帍护沍沪岵怙戽昈枑怘祜笏婟扈瓠楛嗀綔鄠雽嫭",
  "嫮摢滬蔰槴熩鳸簄鍙嚛鹱護鳠韄頀鱯鸌乎粐唬糊錿鯱花芲哗嘩蒊錵华姡骅華釪釫铧滑猾搳撶磆蕐螖鋘譁鏵",
  "驊鷨化划夻杹画话崋桦婳畫嬅畵觟話劃摦樺嫿槬澅諣黊繣舙譮埖婲椛硴糀璍誮怀徊淮槐褢踝懐褱懷瀤櫰耲",
  "蘹坏咶諙壊壞蘾犿歓鴅鵍酄嚾懽獾讙貛驩环郇峘洹狟荁桓萈萑寏絙雈綄羦貆鉮锾圜嬛寰澴缳阛環豲鍰镮鹮",
  "糫繯轘鐶闤鬟瓛缓緩攌幻奂肒奐宦唤换浣涣烉患梙焕逭喚喛嵈愌換渙痪睆煥瑍豢漶瘓槵鲩擐澣藧鯇鰀欢瞣",
  "歡巟肓荒衁朚塃慌皇偟凰隍黄喤堭媓崲徨惶湟葟遑黃楻煌瑝墴潢獚锽熿璜篁篊艎蝗癀磺穔諻簧蟥鍠餭鳇趪",
  "韹鐄騜兤鰉鱑鷬怳恍炾宺晄奛谎幌詤熀謊櫎愰滉榥曂皝鎤皩晃縨灰诙咴恢拻挥洃虺袆晖烣珲豗婎媈揮翚辉",
  "隓暉楎煇禈詼幑睳褘噅撝噕翬輝麾徽隳瀈蘳鰴囘回囬佪廻廽恛洄茴迴烠蚘逥痐蛔蛕蜖鮰悔毀毁毇檓燬譭卉",
  "汇会讳泋哕浍绘芔荟诲恚恵烩贿彗晦秽喙惠湏絵缋翙阓匯彙彚會滙詯賄颒僡嘒瘣蔧誨圚寭慧憓暳槥潓蕙噦",
  "嬒徻橞殨澮濊獩薈薉諱頮燴璯篲藱餯嚖瞺穢繢蟪櫘繪翽譓儶鏸闠孈鐬靧譿顪屷灳璤懳昏昬荤婚惛涽阍棔殙",
  "葷睧睯閽忶浑梡馄堚渾琿魂餛繉轋鼲鯶诨俒倱圂掍混焝溷慁觨諢吙剨耠锪劐嚄鍃豁攉騞佸活秮秳火伙邩钬",
  "鈥漷夥沎或货咟砉俰捇眓获閄掝祸貨惑旤楇湱禍蒦奯濩獲霍檴謋矆穫镬嚯瀖耯艧藿蠖嚿曤臛癨矐鑊靃丌讥",
  "击刉叽饥乩刏圾机玑肌芨矶鸡枅咭姫迹剞唧姬屐积笄飢基绩喞嵆嵇敧朞犄筓缉赍勣嗘畸稘跡跻鳮僟毄箕銈",
  "嘰槣畿稽緝觭賫躸齑墼機激璣禨積襀錤隮擊磯簊績羁賷鄿櫅耭蹟雞譏韲鶏譤鐖饑躋鞿鷄齎羇虀鑇覉鑙齏羈",
  "鸄覊亼及伋吉岌彶忣汲级即极皀亟佶诘郆钑卽姞急狤皍笈級揤疾脊觙偮卙庴焏谻戢棘極殛湒集塉嫉愱楫蒺",
  "趌槉禝耤膌銡嶯撃潗濈瘠箿蕀蕺踖鹡橶檝螏擮藉襋蹐鍓艥籍轚鏶霵鶺鷑雦雧几己丮妀犱泲虮挤掎鱾幾戟鈘",
  "嵴麂魢撠擠穖蟣魕彐彑旡计记伎纪坖妓忌技芰际剂季哜垍峜既洎济紀茍茤荠計剤紒继觊記偈寂寄徛悸旣梞",
  "済祭塈惎臮葪蔇兾痵継蓟裚褀際鬾暨漃漈稩穊誋跽霁鲚暩稷諅鲫冀劑曁穄薊髻嚌檕濟繋罽薺覬檵鵋齌懻癠",
  "穧蘎骥鯚瀱繼蘮鱀蘻霽鰶鰿鱭驥亽辑樭輯廭癪加乫夹伽夾抸佳拁泇茄迦枷毠浃珈埉家浹痂梜笳耞袈傢猳葭",
  "跏犌腵鉫嘉鉿镓豭貑鎵麚圿忦扴郏荚郟唊恝莢戛袷铗戞蛱裌颊蛺跲鞂餄鋏頬頰鴶鵊甲仮岬叚玾胛斚贾钾假",
  "婽徦斝椵賈鉀榎槚瘕檟价驾架嫁幏榢價駕稼糘戋奸尖幵坚歼间冿戔玪肩艰姦姧兼监偂堅惤猏笺菅菺豜湔牋",
  "犍缄葌間搛椷椾煎瑊睷碊缣蒹豣監箋樫熞緘蕑蕳鲣鳽鹣熸篯縑艱鞬餰馢麉瀐鞯鳒礛覸鵳瀸鐧櫼殲鶼韀鰹囏",
  "虃鑯韉囝拣枧俭柬茧倹挸捡笕减剪梘检湕趼堿揀揃検減睑硷裥詃锏弿暕瑐筧简絸谫戩戬碱儉翦撿檢藆襇襉",
  "謇蹇瞼礆簡繭謭鬋鰎鹸瀽蠒鐗劗鹻籛譾襺鹼见件見建饯剑洊牮荐贱俴健剣栫涧珔舰剱徤渐袸谏釼寋旔楗毽",
  "溅腱臶葥践賎鉴键僭榗漸蔪劍劎澗箭糋諓賤趝踐踺劒劔薦諫鋻鍵餞瞷磵螹鍳擶濺繝瀳覵鏩艦譼轞鐱鑑鑒鑬",
  "鑳彅墹橺礀殱江姜将茳浆畕豇將葁畺摪翞僵漿螀壃缰薑橿殭螿鳉疅礓疆繮韁鱂讲奖桨傋蒋奨奬蔣槳獎耩膙",
  "講顜匞夅弜降洚绛弶袶絳酱勥滰嵹摾彊犟糡醤糨醬謽匠杢櫤艽芁交郊姣娇峧浇茭茮骄胶椒焦蛟跤僬嘄虠鲛",
  "嬌嶕嶣憍澆膠蕉燋膲礁穚鮫鵁鹪簥蟭轇鐎鷍驕鷦鷮臫角佼侥恔挢狡绞饺捁晈烄皎矫脚铰搅湫絞剿敫湬煍腳",
  "賋僥摷暞踋鉸餃儌劋徺撟撹隦徼憿敽敿燞缴曒璬矯皦蟜繳譑孂攪灚鱎叫呌峤挍訆珓窌轿较敎教窖滘較嘂嘦",
  "斠漖酵噍嶠潐噭嬓獥藠趭轎醮譥皭釂鵤櫵纐阶疖皆接掲痎秸菨階喈嗟堦媘嫅揭椄湝脻街煯稭擑蝔癤謯鶛卩",
  "卪孑尐节讦刦刧劫岊昅刼劼杰疌衱拮洁结迼倢桀莭訐偼婕崨捷袺傑喼結絜颉嵥楬楶滐睫節蜐蝍詰鉣魝截榤",
  "碣竭蓵鲒潔羯誱踕鞊幯鍻鮚巀櫭蠞蠘蠽毑媎解觧飷檞丯介吤岕庎戒芥屆届玠界畍疥砎衸诫借悈蚧徣堺楐琾",
  "蛶骱犗誡褯魪鎅躤姐桝巾今斤钅兓金津矜荕衿觔埐珒紟惍堻筋釿嶜鹶黅襟仅尽侭卺巹紧堇菫僅厪谨锦嫤廑",
  "漌盡緊蓳馑槿瑾儘錦謹饉伒劤劲妗近进枃勁浕荩晉晋浸烬赆唫琎祲進寖搢溍禁缙靳墐暜瑨僸凚歏殣璡觐噤",
  "濅縉賮嚍嬧濜藎燼璶覲贐齽釒砛琻壗坕坙巠京泾经茎亰秔荆荊涇莖婛惊旌旍猄経菁晶稉腈葏粳經兢精聙鲸",
  "鵛鯨鶁鶄麖鼱驚麠井丼阱刭坓宑汫汬肼剄穽颈景儆頚幜憬憼暻燛璟璥頸蟼警妌净弪径迳俓婙浄胫倞凈弳徑",
  "痉竞逕婧桱梷淨竫脛竟敬痙竧靓傹靖境獍誩踁静靚曔镜靜濪瀞鏡競竸睛橸燝冂冋坰扃埛絅駉駫蘏蘔冏囧泂",
  "炅迥侰炯逈浻烱煚窘颎綗僒煛熲澃褧丩勼纠朻牞究糺鸠糾赳阄萛啾揂揪揫鳩摎樛鬏鬮九久乆乣奺灸玖舏韭",
  "紤酒镹韮匛旧臼咎疚柩柾倃捄桕匓厩救媨就廄廐舅僦廏慦殧舊鹫匶鯦麔齨鷲汣杦欍凥刟抅匊居拘泃狙苴驹",
  "挶疽痀眗砠罝陱娵婮崌掬梮涺菹椐琚腒趄跔锔裾雎艍蜛踘踙鋦駒鮈鴡鞠鞫鶋局泦侷狊桔毩啹婅淗焗菊郹椈",
  "毱湨犑輂僪粷跼閰諊趜躹橘檋駶鵙蹫鵴巈蘜鶪鼳驧咀弆沮举莒挙椇筥榉榘蒟龃聥舉踽擧櫸齟欅巨句乬巪讵",
  "姖岠怇拒洰苣邭具怐怚拠昛歫炬秬钜俱倨倶冣剧粔耟蚷袓埧埾惧据詎距犋跙鉅飓虡豦锯寠愳窭聚駏劇勮屦",
  "踞鮔壉懅據澽窶遽鋸屨颶貗簴躆醵懼鐻矩爠襷姢娟捐涓焆瓹脧裐鹃勬镌鎸鵑鐫蠲卷呟帣埍捲菤锩臇錈奆劵",
  "巻倦勌桊狷绢隽淃眷鄄睊絭罥雋睠絹飬慻蔨餋獧縳羂噘撅撧屩蹻亅孒孓决刔氒诀弡抉決芵泬玦玨挗珏疦砄",
  "绝虳觉倔捔欮蚗崛掘斍桷殌覐觖訣赽趹逫傕厥焳絕絶覚趉鈌劂勪瑴谲駃嶥憰熦爴獗瘚蕝蕨鴂鴃噱憠橛橜爵",
  "臄镢蟨蟩屫爑譎蹶蹷鶌匷嚼矍覺鐍鐝爝觼彏戄攫玃鷢欔矡龣貜躩钁军君均汮姰袀軍钧莙蚐桾皲菌鈞碅皸皹",
  "覠銁銞鲪麇鍕鮶麏麕呁俊郡陖埈峻捃浚馂骏晙焌珺棞畯竣儁箘箟蜠寯懏餕燇濬駿鵔鵘攈攟咔咖喀衉擖卡佧",
  "胩鉲垰裃开奒揩锎開鐦凯剀垲恺闿铠凱剴嘅慨蒈塏嵦愷楷輆暟锴鍇鎧闓颽忾炌炏欬烗勓愒愾鎎刊栞勘龛堪",
  "嵁戡龕冚坎侃砍莰偘埳惂欿塪歁槛輡檻顑竷轗看衎崁墈瞰磡闞矙忼闶砊粇康嫝嵻慷漮槺穅糠躿鏮鱇扛摃亢",
  "伉匟邟囥抗犺炕钪鈧閌尻髛丂攷考拷洘栲烤稁鲓燺铐犒銬靠鮳鯌匼苛柯牁珂科胢轲疴砢趷棵萪軻颏嗑搕犐",
  "稞窠鈳榼薖颗樖瞌磕蝌錒醘顆髁礚壳揢殼翗可坷岢炣渇嵑敤渴嶱礍克刻剋勀勊客恪娔尅课堁氪骒缂愙溘锞",
  "碦緙艐課礊騍嵙肎肯肻垦恳啃豤龈墾錹懇齦掯裉褃劥阬吭坑妔挳硁牼硜铿硻摼誙銵鍞鏗空倥埪崆悾涳硿箜",
  "錓鵼孔恐控鞚躻抠芤眍剾彄摳瞘口劶叩扣敂冦宼寇釦窛筘滱蔲蔻瞉簆鷇扝刳矻郀枯胐哭桍堀崫圐跍窟骷鮬",
  "狜苦库俈绔庫秙趶焅袴喾絝裤瘔酷廤褲嚳夸姱誇侉咵垮銙挎胯跨骻舿蒯擓巜凷块快侩郐哙狯脍塊筷鲙儈墤",
  "鄶噲廥獪膾旝糩鱠圦宽寛寬臗髋髖欵款歀窾窽鑧匡劻诓邼匩哐恇洭框硄筐誆軭忹抂狂诳軖誑鵟夼儣懭卝邝",
  "圹纩况旷岲況矿昿贶眖眶絖貺軦鉱鄺壙黋懬曠爌躀矌礦穬纊鑛砿絋筺亏刲岿悝盔窥聧窺虧顝闚巋蘬奎晆逵",
  "鄈隗頄馗喹揆葵骙戣暌楏楑魁睽蝰頯櫆藈鍨鍷騤夔蘷巙虁犪躨煃跬頍蹞尯匮欳喟媿愦愧溃腃蒉馈瞆嘳嬇憒",
  "潰篑聩聭蕢樻謉餽簣聵籄鐀饋鑎坤昆堃婫崐崑晜猑菎裈焜琨髠裩貇锟髡鹍蜫褌髨瑻醌錕鲲騉鯤鵾鶤悃捆阃",
  "壸梱祵硱稇裍壼稛綑閫閸齫困涃睏堒尡潉熴扩拡括挄桰筈萿葀蛞阔廓頢髺擴濶闊鞟懖霩鞹鬠韕垃拉柆翋菈",
  "搚邋旯剌砬揦磖喇藞腊揧楋瘌蜡蝋辢辣蝲臈攋爉臘鬎瓎镴鯻蠟鑞啦溂鞡嚹来來俫倈崃徕涞莱郲婡崍庲徠梾",
  "淶猍萊逨棶琜筙铼箂錸騋鯠鶆麳唻赉睐睞赖賚濑賴頼顂癞鵣瀨瀬籁藾櫴癩襰籟兰岚拦栏婪惏嵐葻阑蓝谰厱",
  "澜褴儖斓篮懢燣燷藍襕镧闌璼襤譋幱攔瀾灆籃繿蘭斕欄礷襴囒灡籣欗讕躝钄韊览浨揽缆榄漤罱醂壈懒覧擥",
  "嬾懶孄覽孏攬灠囕欖顲纜烂滥燗嚂濫爁爛瓓爤鑭糷爦襽啷勆郎郞欴狼阆嫏廊斏桹琅蓈榔瑯硠稂锒筤艆蜋螂",
  "躴鋃鎯駺朗朖烺塱蓢樃誏朤埌崀浪莨蒗閬唥郒捞撈劳労牢窂哰唠崂浶勞痨铹僗嘮嶗憥癆磱簩蟧醪鐒顟髝耂",
  "老佬咾姥恅狫荖栳铑銠潦橑轑涝烙耢酪嫪憦澇躼橯耮軂珯硓粩蛯朥鮱肋仂阞乐叻忇扐氻艻玏泐竻砳楽韷樂",
  "簕鳓鰳了饹餎勒雷嫘缧蔂畾擂檑縲礌镭櫑瓃羸礧纍罍蘲蠝鐳轠儽壨鑘靁虆欙纝鼺厽耒诔垒絫腂傫誄樏磊蕌",
  "磥蕾儡壘癗藟櫐礨灅蘽讄鑸鸓泪洡类涙淚累酹銇頛頪錑攂颣類纇蘱禷塁嘞鱩崚塄棱楞碐稜輘薐冷倰堎愣睖",
  "踜刕杝厘剓离荲骊悡梨梩梸犁琍粚菞喱棃犂鹂剺漓睝筣缡艃蓠蜊嫠孷樆璃盠貍糎蔾褵鋫鲡黎篱縭罹錅蟍謧",
  "醨嚟藜邌釐離斄瓈鏫鯬鵹黧囄攡灕蘺蠡騹孋廲劙鑗穲籬纚驪鱺鸝礼里俚峛峢娌峲浬逦理锂粴裏豊鋰鲤兣澧",
  "禮鯉蟸醴鳢邐鱧欚力历厉屴立吏朸丽利励呖坜沥苈例岦戾枥沴疠苙隶俐俪栎疬砅茘荔赲轹郦唎悧栗栛涖猁",
  "珕砺砾秝莅莉唳婯笠粒粝脷蚸蛎傈凓厤棙痢蛠詈跞雳厯塛慄搮溧蒚蒞鉝鳨厲暦歴瑮綟蜧蝷勵曆歷篥隷鴗巁",
  "濿癘磿隸鬁儮曞櫔爄犡禲蠇鎘嚦壢攊櫟瀝瓅矋礪藶麗櫪爏瓑皪盭礫糲蠣儷癧礰蠫酈鷅麜囇攦觻躒轢欐讈轣",
  "攭瓥靂鱱鱳靋李栃哩娳狸裡檪鯏俩倆奁连帘怜涟莲連梿联裢亷嗹廉慩溓漣蓮匲奩槤熑覝劆匳噒嫾憐磏聫褳",
  "鲢濂濓縺翴聮薕螊櫣燫聯臁謰蹥鎌镰簾蠊鬑鐮鰱籢籨敛琏脸裣摙璉蔹嬚斂臉鄻襝羷蘞练炼恋浰殓僆堜媡湅",
  "萰链楝煉瑓潋練澰錬殮鍊鏈瀲蘝鰊戀纞聨良俍凉梁涼椋辌粮粱墚綡踉樑輬糧両两兩唡啢掚脼裲緉蜽魉魎亮",
  "哴悢谅辆喨晾湸量輌諒輛鍄煷簗撩蹽辽疗聊僚寥嵺憀漻膋嘹嫽寮嶚嶛敹獠缭遼暸燎璙膫療鹩屪廫簝繚蟟豂",
  "賿蹘鐐髎藔飉鷯叾钌釕鄝蓼憭瞭曢镽爒尥尦炓料尞廖撂窷镣爎列劣冽劽姴挒洌茢迾哷埒埓栵浖烈捩猎脟蛚",
  "裂煭睙聗趔巤颲儠鮤鴷擸獵犣躐鬛鬣鱲毟咧挘烮猟拎厸邻林临冧矝啉崊淋晽琳粦痳碄箖粼鄰隣嶙潾獜遴斴",
  "暽燐璘辚霖瞵磷臨繗翷麐轔壣瀶鏻鳞驎鱗麟菻亃凛凜撛廩廪懍懔澟檁檩癛癝吝恡悋赁焛賃僯蔺橉甐膦閵疄",
  "藺蹸躏躙躪轥〇刢灵囹坽夌姈岺彾泠狑苓昤朎柃玲瓴凌皊砱秢竛铃陵鸰婈掕棂淩琌笭紷绫羚翎聆舲菱蛉衑",
  "祾詅跉軨裬鈴閝零龄綾蔆霊駖澪蕶錂魿鲮鴒鹷燯霛霝齢酃鯪孁蘦齡櫺醽靈欞爧麢龗阾岭袊领領嶺令另呤炩",
  "伶蓤霗瀮溜熘蹓刘沠畄浏流留旈琉畱硫裗媹嵧旒蒥蓅遛馏骝榴瑠飗劉瑬瘤磂镏駠鹠橊璢疁镠癅蟉駵嚠懰瀏",
  "藰鎏鎦麍鏐飀騮飅鰡鶹驑柳栁珋桺绺锍鉚飹綹熮罶鋶橮嬼羀六畂翏塯廇澑磟鹨霤餾雡鐂飂鬸鷚桞囖龙屸咙",
  "泷茏昽栊珑胧眬砻竜笼聋隆湰滝嶐漋蕯癃篭龍嚨巃巄瀧簼蘢鏧霳曨朧櫳爖瓏矓礱礲襱龒籠聾蠪蠬豅躘鑨靇",
  "驡鸗陇垄垅拢篢儱隴壟壠攏竉龓哢挵梇徿贚槞窿瞜剅娄偻婁溇蒌僂楼廔慺漊蔞遱樓熡耧蝼耬艛螻謱軁髅鞻",
  "髏嵝搂塿嶁摟甊篓簍陋屚漏瘘镂瘺瘻鏤喽嘍噜撸卢庐芦垆泸炉栌胪轳鸬玈舻颅鲈魲盧櫚嚧壚廬攎瀘獹璷蘆",
  "曥櫨爐瓐臚矑籚纑罏艫蠦轤鑪顱髗鱸鸕黸卤虏掳鹵硵鲁虜塷滷蓾樐魯擄橹磠镥嚕擼瀂櫓氌艣鏀艪鐪鑥圥甪",
  "陆侓坴彔录峍勎赂辂陸娽淕淥渌硉菉逯鹿椂琭禄祿僇剹勠盝睩碌稑賂路塶廘摝漉箓粶蔍戮樚熝膔觮趢踛辘",
  "醁潞穋蕗錄録錴璐簏螰簶蹗轆騄鹭簬鏕鯥鵦鵱麓鏴露騼籙虂鷺枦舮鈩澛氇驴郘闾榈閭馿氀膢藘鷜驢吕呂侣",
  "侶挔捛捋旅梠祣稆铝屡絽缕屢膂褛鋁履膐褸儢穞縷穭寽垏律虑率绿嵂氯葎滤綠緑慮箻膟勴繂濾櫖爈鑢焒娈",
  "孪峦挛栾鸾脔滦銮鵉圝奱孌孿巒攣曫欒灓羉臠圞灤虊鑾癴癵鸞卵乱釠亂畧锊稤圙鋝鋢擽抡掄仑伦囵沦纶侖",
  "轮倫陯圇婨崘崙惀淪菕棆腀綸蜦踚輪錀鯩埨碖稐耣论溣論磮罗啰頱囉罖猡脶萝逻椤腡覙锣箩骡镙螺羅覶鏍",
  "儸覼騾攞玀蘿邏欏驘鸁籮鑼饠剆倮蓏裸躶瘰蠃臝曪癳泺峈洛络荦骆洜珞硦笿絡落嗠摞漯犖鉻雒駱鮥鴼鵅濼",
  "纙呣妈孖媽嬤嬷麻痲蔴犘蟇马玛码蚂馬溤瑪碼螞鎷鰢鷌犸杩祃閁骂唛傌獁睰嘜榪禡罵駡礣鬕亇吗嗎遤嘛嫲",
  "蟆埋薶霾买荬買嘪蕒鷶劢迈佅売麦卖脉脈麥衇勱賣邁霡霢嫚颟姏悗蛮僈谩慲馒樠瞒瞞鞔謾饅鳗顢鬗鬘鰻蠻",
  "屘満睌满滿螨襔蟎鏋矕曼鄤墁幔慢摱漫獌缦蔄蔓槾熳澷镘縵鏝蘰牤邙吂忙汒芒尨杗杧氓盲恾笀茫哤娏庬浝",
  "狵牻硭釯铓痝蛖鋩駹莽莾硥茻壾漭蟒蠎猫貓毛矛枆牦茅茆旄罞兞渵軞酕堥锚嫹髦氂犛蝥髳錨蟊鶜冇卯夘乮",
  "戼峁泖昴铆笷蓩冃皃芼冐茂冒柕眊贸耄袤覒媢帽萺貿鄚愗暓楙毷瑁瞀貌鄮蝐懋么麼嚒濹嚜癦呅坆沒没枚玫",
  "苺栂眉娒脄莓梅珻脢郿堳媒嵋湄湈猸睂葿楣楳煤瑂禖塺槑酶镅鹛鋂霉穈徾鎇矀攗蘪鶥黴毎每凂美挴浼媄嵄",
  "渼媺腜镁嬍燘鎂黣妹抺沬旀昧祙袂眛媚寐痗跊鬽煝睸韎魅篃蝞躾门扪玧钔門閅捫菛璊鍆亹虋闷焖悶暪燜懑",
  "懣们們椚甿虻冡莔萌萠盟蒙甍儚橗瞢蕄蝱鄳鄸幪懞濛曚朦檬氋矇礞鯍鹲艨蘉矒霿靀饛顭鼆鸏勐猛瓾锰艋蜢",
  "懜獴錳懵蠓鯭孟梦夢溕夣霥掹擝咪眯瞇冞弥罙祢迷猕谜蒾詸謎醚彌擟糜縻麊麋禰靡瀰獼麛镾戂攠瓕蘼爢醾",
  "醿鸍釄米芈侎沵羋弭洣敉眫脒渳葞蔝銤濔孊灖冖糸汨沕宓泌觅峚祕宻秘密淧淿覓覔幂谧塓幎覛嘧榓滵漞熐",
  "蔤蜜鼏冪樒幦濗藌謐櫁簚羃宀芇眠婂绵媔棉綿緜臱蝒嬵檰櫋矈矊矏丏汅免沔黾勉眄娩偭冕勔渑喕愐湎缅葂",
  "絻腼黽緬麫澠鮸靣面糆麪麺麵喵苗媌描瞄鹋緢鶓鱙杪眇秒淼渺缈篎緲藐邈妙庙玅竗庿廟乜吀咩哶孭灭烕覕",
  "搣滅蔑薎鴓幭懱篾櫗蠛衊鑖鱴民姄岷忞怋旻旼苠珉盿砇罠崏捪琘缗敯瑉痻碈鈱緍緡錉鴖鍲皿冺刡闵抿泯勄",
  "敃闽悯敏笢惽湣閔愍暋閩僶慜憫潣簢鳘蠠鰵垊笽名明鸣洺眀茗冥朙眳铭鄍嫇溟猽蓂暝榠銘鳴瞑螟覭佲姳凕",
  "慏酩命椧詺掵谬謬摸谟嫫馍摹模膜麽摩橅磨糢謨嚤擵饃嚩嚰蘑髍魔劘饝抹懡末劰圽妺帓歾歿殁沫茉陌帞昩",
  "枺唜皌眜眿砞秣莈莫眽粖絈湐蛨貃嗼塻寞漠獏蓦貊暯銆靺嫼黙瘼瞐瞙镆魩墨默瀎謩貘藦蟔鏌爅驀礳纆耱庅",
  "怽尛魹麿哞牟侔劺恈洠眸谋蛑缪踎鉾謀瞴繆鍪鴾麰某毪氁墲母亩牡坶姆峔牳畆畒胟畝畞砪畮鉧踇木仫朰目",
  "沐狇炑牧苜毣莯蚞钼募雮墓幕幙慔楘睦鉬慕暮艒霂穆縸鞪凩拇嗯拏拿挐嗱镎鎿乸哪雫那妠纳肭娜衲钠納袦",
  "捺笝豽軜貀鈉蒳靹魶腉熋摨孻乃奶艿氖疓妳廼迺倷釢嬭奈柰耏耐萘渿鼐褦螚錼囡男枏枬侽南柟娚畘莮难喃",
  "暔楠諵難赧揇湳萳腩蝻戁婻遖囔乪嚢譨囊蠰鬞馕欜饢擃曩攮灢儾齉孬呶怓挠峱硇铙猱蛲詉碙撓嶩憹蟯夒譊",
  "鐃巎垴恼悩脑匘堖惱嫐瑙腦碯獶獿闹婥淖閙鬧臑脳疒讷抐眲訥吶呐呢娞馁脮腇餒鮾鯘內内氝錗恁嫩嫰能妮",
  "尼坭怩泥籾倪屔秜郳铌埿婗淣猊蚭棿跜腝聣蜺觬貎輗霓鲵鯓鯢麑齯臡伱你拟抳狔苨柅旎晲孴鈮馜儗儞隬擬",
  "薿檷聻屰氼伲迡昵胒逆匿眤堄惄嫟愵溺睨腻暱縌誽膩嬺袮拈蔫年秊秥鲇鮎鲶黏鯰涊捻淰焾跈辇辗撚撵碾輦",
  "簐蹍攆蹨躎卄廿念姩唸埝艌鼰哖鵇嬢孃酿醸釀娘鸟茑袅鳥嫋裊蔦樢嬝褭嬲尿脲捏揑苶帇圼枿陧涅痆聂臬啮",
  "惗菍隉喦敜湼嗫嵲踂噛摰槷踗镊镍嶭篞臲錜颞蹑嚙聶鎳闑孼孽櫱籋蘖囁齧糱糵蠥鑈囓讘躡鑷顳钀巕囜您拰",
  "脌宁咛拧狞苧柠聍寍寕甯寗寜寧儜凝嚀嬣擰獰薴檸聹鑏鬡鸋橣矃佞侫泞濘澝妞牛汼忸扭狃纽炄钮紐莥鈕靵",
  "衂牜农侬哝浓脓秾農儂辳噥濃蕽檂燶禯膿穠襛醲欁繷弄挊癑齈羺啂槈耨獳檽鎒鐞譳奴孥驽笯駑伮努弩砮胬",
  "怒傉搙女钕籹釹沑恧朒衄奻渜暖煖煗餪疟虐硸瘧黁郍挪梛傩儺橠诺喏掿逽愞搦锘搻榒稬諾蹃糑懦懧糥穤糯",
  "喔噢哦筽讴沤欧殴瓯鸥塸漚歐毆熰甌鴎櫙謳鏂鷗膒齵吘呕偶腢嘔耦蕅藕怄慪藲妑皅趴舥啪葩杷爬掱琶筢潖",
  "帊帕怕袙拍俳徘排猅棑牌輫簰簲犤廹哌派湃蒎鎃眅砙畨潘攀爿洀盘跘媻幋蒰搫槃盤磐縏磻蹒瀊蟠蹣鎜鞶冸",
  "判沜拚泮炍叛牉盼畔聁袢詊溿頖鋬襻鑻鵥乓沗胮雱滂膖霶厐庞厖逄旁舽嫎徬螃鳑龎龐嗙耪覫炐肨胖抛拋脬",
  "刨咆垉庖狍炰爮袍匏軳鞄麃麅跑奅泡炮疱皰砲麭礟礮萢褜呸怌肧柸胚衃醅阫陪培毰赔锫裴裵賠駍俖伂沛佩",
  "帔姵斾旆浿珮配笩辔馷嶏霈轡蓜喷噴歕瓫盆湓葐呠翸喯匉怦抨恲砰梈烹硑軯閛漰嘭澎磞芃朋挷竼倗莑堋弸",
  "彭棚椖塳硼稝蓬鹏槰樥熢憉輣篣膨錋韸髼蟚蟛鬅纄韼鵬騯鬔鑝捧淎皏剻掽椪碰踫篷丕伓伾批纰邳坯披抷炋",
  "狉砒悂秛秠紕铍旇翍耚豾鈈鈚鈹鉟銔劈磇駓髬噼錍魾鮍憵礔礕霹皮阰芘岯枇毞狓肶毗毘疲蚍郫陴啤埤崥蚽",
  "蚾豼焷琵脾腗鲏罴膍蜱魮壀篺螷貔鵧羆朇鼙匹庀疋仳圮苉脴痞銢諀鴄擗噽癖嚭屁淠渒揊釽媲嫓睥辟潎稫僻",
  "澼嚊甓疈譬闢鷿鸊榌囨偏媥犏篇翩鍂鶣骈胼腁楄楩賆跰諚骿蹁駢騈覑谝貵諞片骗騗騙魸剽慓缥飘旚翲螵犥",
  "飃飄魒嫖瓢竂薸闝殍彯瞟篻縹醥皫顠票僄勡嘌徱漂氕撇撆暼瞥丿苤鐅嫳姘拼礗穦馪驞玭贫娦貧琕嫔频頻嬪",
  "獱薲嚬矉蠙颦顰品榀牝汖聘乒甹俜娉涄砯聠艵竮頩平评凭呯坪泙苹郱屏帡枰洴玶胓荓瓶屛帲淜萍蚲幈焩甁",
  "缾蓱蛢評軿鲆凴慿箳輧憑鮃檘簈蘋岼塀钋坡岥泊颇溌鉕頗鏺婆嘙蔢鄱皤謈櫇叵尀钷笸駊岶炇迫敀昢洦珀烞",
  "破砶釙粕蒪魄醗泼桲潑剖娝抔抙捊掊裒箁錇咅哣婄犃廍仆攴扑陠噗撲潽擈鯆匍莆脯菩菐葡蒱蒲僕酺墣獛璞",
  "濮瞨穙镤襥纀鏷圤朴圃浦烳普溥谱諩樸氆檏镨譜蹼鐠铺舖舗鋪瀑曝巬巭駇贌七迉沏妻柒倛凄栖桤郪娸悽桼",
  "淒萋攲期棲欺蛣僛嘁慽榿漆緀慼槭諆諿霋蹊魌鏚鶈亓祁齐圻岐岓忯芪亝其奇斉歧畁祇祈肵俟疧竒剘斊旂耆",
  "脐蚑蚔蚚颀埼崎帺掑淇猉畦萁萕跂軝釮骐骑棊棋琦琪祺蛴愭碁碕锜頎鬿旗粸綥綦綨蜝蜞齊璂禥蕲踑錡鲯懠",
  "濝藄檱櫀臍騎騏鳍蘄鯕鵸鶀麒纃艩蠐鬐鰭玂麡乞邔企屺岂芑启呇杞玘盀唘豈起啓啔婍啟绮晵棨綮綺諬闙气",
  "讫忔気汔迄弃汽矵芞呮泣炁盵咠契砌栔氣訖唭欫夡棄湆湇葺碛摖暣甈碶噐憇器憩磜磧磩罊蟿鼜缼戚渏褄緕",
  "螧簯簱籏掐葜拤跒酠圶冾帢恰洽殎硈愘髂鞐千仟阡圱圲奷扦汘芊迁佥岍杄汧瓩茾欦臤钎拪牵粁兛悭蚈谸铅",
  "婜孯牽釺掔谦鈆雃僉愆签鉛骞鹐慳搴撁箞諐遷褰謙顅檶攐攑櫏簽鵮孅攓騫鬝鬜籤韆仱岒忴扲拑前钤歬虔钱",
  "钳掮揵軡媊鈐靬鉗墘榩箝銭潛潜羬蕁橬錢黔黚騝濳騚灊鰬凵浅肷淺脥嗛嵰遣槏膁蜸谴缱繾譴欠刋芡俔茜倩",
  "悓堑傔嵌棈椠慊皘蒨塹歉綪蔳儙槧篏輤篟壍縴鰜竏鎆鏲籖鑓呛羌戕戗斨枪玱羗猐跄椌溬腔嗆蜣锖嶈戧槍牄",
  "瑲羫锵篬錆謒蹌镪蹡鎗鏘丬強强墙嫱蔷樯漒蔃墻嬙廧薔檣牆艢蘠抢羟搶羥墏繈襁繦鏹炝唴熗羻嗴獇悄硗郻",
  "嵪跷鄡鄥劁敲毃踍锹墝頝骹墽幧橇燆缲磽鍫鍬繑趬蹺鐰乔侨荍荞桥硚菬喬僑谯嘺嫶憔蕎鞒樵橋癄瞧礄藮趫",
  "鐈鞽顦巧釥愀髜俏诮陗峭帩窍殻翘誚髚僺撬撽鞘韒竅翹譙躈槗犞癿聺且切妾怯郄匧窃悏挈洯惬淁笡愜蛪朅",
  "箧緁锲篋踥穕藒鍥鯜鐑竊苆倿媫籡亲侵钦衾骎媇嵚欽綅誛嶔親顉駸鮼寴庈芩芹埁珡秦耹菦蚙捦菳琴琹禽鈙",
  "雂勤嗪嫀溱靲慬噙擒斳鳹懄檎澿瘽螓懃蠄鬵鵭坅昑笉梫赾寑锓寝寢鋟螼吢吣抋沁唚菣揿搇撳瀙藽狅靑青氢",
  "轻倾卿郬圊埥寈氫淸清傾蜻輕鲭鑋夝甠剠勍情殑晴棾氰葝暒擏樈擎檠黥苘顷请庼頃廎漀請檾庆凊掅殸碃箐",
  "靘慶磘磬罄謦硘櫦芎匔卭邛宆穷穹茕桏笻筇赹惸焪焭琼舼蛩蛬煢睘跫銎瞏窮儝憌橩璚藑瓊竆藭瓗熍丘丠邱",
  "坵恘秋秌蚯媝萩楸蓲鹙篍緧蝵穐趥鳅蟗鞦鞧鰌鰍鶖蠤龝叴囚扏犰玌汓肍求虬泅虯俅觓訄訅酋釓唒浗紌莍逎",
  "逑釚梂殏毬球赇崷巯渞湭皳盚遒煪絿蛷裘巰觩賕璆蝤銶醔鮂鼽鯄鰽搝糗釻蘒区曲伹佉匤岖诎阹驱坥屈岨岴",
  "抾浀祛胠袪區紶蛆躯筁粬蛐詘趋嶇憈駆敺誳镼駈麹髷魼趨麯覰軀麴黢覻驅鰸鱋佢劬斪朐胊菃鸲淭渠絇翑葋",
  "軥蕖璖磲螶鴝璩蟝瞿鼩蘧忂灈戵欋氍籧臞癯蠷衢躣蠼鑺鸜取竘娶詓竬蝺龋齲厺去刞呿唟耝阒觑趣閴麮闃覷",
  "鼁迲衐峑弮恮悛圈圏棬駩鐉全权佺诠姾泉洤荃拳牷辁啳埢婘惓痊硂铨湶犈筌絟葲搼瑔觠詮跧輇蜷銓権踡縓",
  "醛鳈鬈騡孉巏鰁權齤蠸颧顴犬汱畎烇绻綣虇劝券牶勧韏勸犭椦楾闎缺蒛阙瘸却卻埆崅寉悫琷雀硞确阕塙搉",
  "皵碏愨榷墧慤確碻趞燩闋礐闕灍礭鹊鵲夋囷峮逡宭帬裙羣群裠呥肰衻袇蚦袡蚺然髥嘫髯燃繎冄冉姌苒染珃",
  "媣橪蒅穣儴勷瀼獽蘘禳瓤穰躟鬤壌嚷壤攘爙纕让懹譲讓娆荛饶桡嬈蕘橈襓饒扰隢擾绕遶繞惹热熱人亻仁壬",
  "忈朲忎秂芢鈓魜銋鵀忍荏栠栣荵秹棯稔刃刄认仞仭讱任屻岃扨纫妊杒牣纴肕轫韧饪姙祍紉衽紝訒軔梕袵軠",
  "絍腍葚靭靱韌飪認餁綛躵扔仍辸礽陾芿日驲囸釰鈤馹茸戎肜栄狨绒茙荣容毧烿媶嵘搑絨羢嫆嵤搈榵溶蓉榕",
  "榮熔瑢穁縙蝾褣镕融螎駥髶嬫嶸爃鎔巆瀜曧蠑冗宂坈傇軵氄鴧穃厹禸柔媃揉渘葇煣瑈糅蝚蹂輮鍒鞣瓇騥鰇",
  "鶔粈楺韖肉宍腬邚如侞帤茹桇袽铷渪筎蒘銣蕠蝡儒鴑嚅嬬孺濡薷鴽曘燸襦蠕颥醹顬鱬汝肗乳辱鄏擩入洳嗕",
  "媷溽缛蓐褥縟扖込杁鳰嶿挼堧撋壖阮朊软耎偄軟媆瑌碝緛輭瓀礝婑桵甤緌蕤蕊蕋橤繠蘂蘃汭芮枘蚋锐瑞蜹",
  "睿銳鋭叡壡瞤闰润閏閠潤橍膶捼叒若偌弱鄀渃焫楉蒻箬篛爇鰙鰯鶸嵶仨挱挲撒洒訯靸潵灑躠卅泧飒脎萨鈒",
  "摋馺颯薩櫒虄隡毢愢揌塞毸腮噻鳃顋鰓嗮赛僿賽簺嘥三弎叁毵毿犙鬖仐伞傘糁糂馓糝糣糤繖鏒鏾霰饊俕帴",
  "悷散閐壭毶厁橵桒桑嗓搡磉褬颡鎟顙丧喪槡掻慅搔溞骚缫繅臊鳋騒騷鰠鱢扫掃嫂埽瘙氉矂髞螦閪色洓栜涩",
  "啬铯雭歮琗嗇瑟歰銫澁懎擌濇瘷穑澀璱瀒穡繬轖鏼譅飋渋濏穯森椮槮襂僧鬙杀沙纱乷刹剎砂唦殺猀粆紗莎",
  "桬毮铩痧硰煞蔱裟榝樧魦鲨鎩鯊鯋傻儍倽唼啑啥帹萐厦喢廈歃翜箑翣閯霎繌筛酾篩簁簛釃繺晒閷曬山彡邖",
  "删刪杉芟姍姗苫衫钐埏挻柵狦珊舢痁脠軕笘跚剼搧嘇幓煽潸澘檆縿膻鯅羴羶闪陕陝閃晱煔睒熌覢讪汕疝剡",
  "扇訕赸掞釤傓善銏骟僐鄯墠墡潬缮嬗擅樿歚膳磰謆赡繕蟮蟺譱贍鐥饍騸鳝灗鱓鱔圸杣閊敾伤殇商觞傷墒慯",
  "滳漡蔏殤熵螪觴謪鬺垧扄晌赏賞贘鑜丄上尙尚恦绱緔鞝仩裳弰捎烧莦梢焼稍旓筲艄蛸輎燒颵髾鮹勺芍苕柖",
  "玿竰韶少劭卲邵绍哨娋袑紹睄綤潲蕱奢猞赊畬畲輋賒賖檨舌佘虵蛇蛥舍捨厍设社厙射涉涻渉設赦弽慑摂摄",
  "滠慴摵蔎歙蠂韘騇懾攝灄麝欇舎申屾扟伸身侁呻妽籶绅诜姺柛氠珅穼籸娠峷甡眒砷莘敒深紳兟棽葠裑訷蓡",
  "詵甧蔘燊薓駪鲹曑鵢鯵鰺什甚神邥弞审矤哂矧宷谂谉婶渖訠審諗頣魫曋頥瞫嬸瀋覾讅肾侺昚胂涁眘渗祳脤",
  "腎愼慎椹瘆罧蜃蜄滲鋠瘮堔榊鰰升生阩呏声斘昇泩狌苼栍殅牲珄陞陹笙湦焺甥鉎聲鼪鵿绳憴繩譝省眚偗渻",
  "圣胜晠剰盛剩勝貹嵊琞聖墭榺蕂賸竔曻橳尸失师呞虱诗邿鸤屍施浉狮師絁釶湤湿葹鈟溮溼獅蒒蓍詩鉇鉈瑡",
  "鳲蝨鳾褷鲺濕鍦鯴鰤鶳襹十饣石辻乭时实実旹飠姼峕炻祏蚀食埘時莳寔湜遈塒溡蒔鉐實榯蝕鲥鼫鼭鰣史矢",
  "乨豕使始驶兘宩屎笶鉂駛士氏礻丗世仕市示似卋式忕亊叓戺事侍势呩柹视试饰冟室恀恃拭是昰枾柿眂贳适",
  "栻烒眎眡舐轼逝铈視豉釈媞崼弑徥揓谥貰释勢嗜弒睗筮觢試軾鈰鉃飾舓誓適鉽奭銴餙餝噬嬕澨諟諡遾螫謚",
  "簭襫釋佦竍识拾匙嵵榁煶篒鮖籂識鰘収收手守垨首艏寿受狩兽售授涭绶痩壽夀瘦綬獸鏉扌獣书殳尗抒纾叔",
  "杸枢陎姝倏倐書殊紓掓梳淑焂菽軗鄃疎疏舒摅毹綀输瑹跾踈樞蔬輸橾鮛儵攄鵨秫婌孰赎塾熟璹贖鼡属暑暏",
  "黍署蜀鼠潻薥薯曙癙藷襡襩屬钃朮术戍束沭述侸凁咰怷树竖荗恕捒庶庻絉蒁術隃尌裋数竪腧鉥墅漱潄數澍",
  "豎樹濖錰鏣鶐虪瀭糬蠴鱪鱰刷唰耍誜衰摔甩帅帥蟀卛闩拴閂栓涮腨双霜雙孀骦孇騻欆礵鷞鹴艭驦鸘爽塽慡",
  "漺樉縔灀鏯谁脽誰水帨涗涚祱稅税裞睡瞓氵氺閖吮顺舜順蕣橓瞚瞬鬊说哾說説妁烁朔铄欶硕矟搠蒴槊獡碩",
  "箾鎙爍鑠厶纟丝司糹私咝泀思虒鸶媤斯絲缌蛳楒禗鉰飔凘厮榹禠罳蜤锶嘶噝廝撕澌磃緦蕬鋖燍螄蟖蟴颸騦",
  "鐁鷥鼶籭死巳亖四寺汜佀兕姒泤祀価孠杫泗饲驷娰柶牭洍涘肂飤笥耜釲竢覗嗣肆貄鈶鈻飼禩駟蕼儩瀃俬恖",
  "銯忪松枀娀柗倯凇崧庺梥淞菘嵩硹蜙憽濍檧鍶鬆怂悚耸竦傱愯楤嵷慫聳駷讼宋诵送颂訟頌誦餸枩鎹捜鄋嗖",
  "廀廋搜溲獀蒐蓃馊摉飕摗锼艘螋醙鎪餿颼颾騪叜叟傁嗾瞍擞薮擻藪櫢籔膄瘶嗽苏甦酥稣窣穌蘇蘓櫯囌俗玊",
  "夙泝肃洬涑珟素莤速宿梀殐粛骕傃粟谡嗉塐塑嫊愫溯溸肅遡鹔僳愬榡膆蔌觫趚遬憟樎樕潥碿鋉餗潚縤橚璛",
  "簌藗謖蹜驌鱐鷫诉訴鯂狻痠酸匴祘笇筭蒜算夊攵芕虽倠哸浽荽荾眭葰滖睢綏熣濉鞖雖绥隋随遀隨瓍瀡膸髄",
  "髓亗岁砕祟谇埣嵗遂歲歳煫睟碎隧嬘澻穂誶賥檖燧璲禭檅穗穟繀襚邃旞繐繸譢鐆鐩韢孙狲荪孫飧搎猻蓀飱",
  "槂蕵薞损笋隼筍損榫箰簨鎨鶽唆娑莏傞桫梭睃嗍羧蓑摍缩趖簑簔縮髿鮻所乺唢索琐惢锁嗩暛溑瑣褨璅鎈鎍",
  "鎖鎻鏁逤溹蜶琑嗦他它她牠祂趿铊塌榙溻褟嚃闧蹹塔溚墖獭鳎獺鰨亣拓挞狧闼崉涾搨跶遝遢榻毾禢撻澾誻",
  "踏橽錔濌蹋鞜鮙闒鞳嚺闥譶躢侤咜囼孡胎冭台旲邰坮抬苔枱炱炲菭跆鲐箈臺颱駘儓鮐嬯擡薹檯籉太夳忲汰",
  "态肽钛泰舦酞鈦溙態燤粏坍抩贪怹痑舑貪摊滩瘫擹攤灘癱坛昙倓谈郯婒惔覃榃痰锬谭墰墵憛潭談醈壇曇燂",
  "錟餤檀磹顃罈藫壜譚貚醰譠罎忐坦袒钽菼毯鉭嗿憳憻醓璮襢叹炭埮探傝湠僋嘆碳舕歎賧汤坣铴湯嘡耥劏羰",
  "蝪薚镗蹚鏜鐋鞺鼞饧唐堂傏啺棠鄌塘搪溏蓎隚榶漟煻瑭禟膅樘磄糃膛橖篖糖螗踼糛螳赯醣餳鎕餹闛饄鶶伖",
  "帑倘偒淌傥躺镋鎲儻戃曭爣矘钂烫摥趟燙夲弢涛绦掏絛詜嫍幍慆搯滔槄瑫韬飸縚縧濤謟轁鞱韜饕匋迯咷洮",
  "逃桃陶啕梼淘绹萄祹裪綯蜪鞀醄鞉鋾錭駣檮饀騊鼗讨討套忑忒特貣蚮铽慝鋱螣蟘熥膯鼟疼痋幐腾誊漛滕邆",
  "縢駦謄儯藤騰籐鰧籘驣霯虅剔梯锑踢擿鷈鷉苐厗荑绨偍啼崹惿提稊缇罤遆鹈嗁瑅綈碮褆徲漽緹蕛蝭銻题趧",
  "蹄醍謕蹏鍗鳀鴺題鮷鵜騠鯷鶗鶙禵鷤体挮躰骵鮧軆體戻迏剃朑洟倜悌涕逖悐惕掦逷惖揥替楴裼褅歒殢髰薙",
  "嚏鬀嚔瓋籊趯屉屜笹嵜天兲婖添酟靔黇靝田屇沺恬畋畑盷胋畠甛甜菾湉塡填搷鈿阗緂磌窴璳闐鷆鷏忝殄倎",
  "唺悿淟晪琠腆觍痶睓舔餂覥賟錪鍩靦掭睼舚碵鴫旫佻庣恌挑祧聎芀条岧岹迢祒條笤萔蓚蓨趒龆樤蜩鋚鞗髫",
  "鲦鯈鎥齠鰷宨晀朓脁窕誂斢窱嬥眺粜絩覜跳糶螩帖怗贴萜聑貼铁蛈僣銕鋨鴩鐡鐵驖呫飻餮厅庁汀艼听町耓",
  "厛烃桯烴綎鞓聴聼廰聽廳邒廷亭庭莛停婷嵉渟筳葶蜓楟榳閮霆聤蝏諪鼮圢甼侹娗挺涏梃烶珽脡艇颋誔頲囲",
  "炵通痌嗵蓪仝同佟彤峂庝哃峝狪茼晍桐浵烔砼蚒眮秱铜童粡筩詷赨酮鉖僮勭鉵銅餇鲖潼獞曈朣橦氃燑犝膧",
  "瞳鮦统捅桶筒統綂樋恸痛衕慟憅偷偸婾媮鋀鍮亠头投骰緰頭妵钭紏敨飳黈蘣透綉凸宊禿秃怢突唋涋捸堗湥",
  "痜葖嶀鋵鵚鼵図图凃峹庩徒悇捈荼途屠梌菟揬稌圕塗嵞瘏筡腯蒤鈯圖圗廜潳跿酴馟鍎駼鵌鶟鷋鷵土圡吐钍",
  "釷兎迌兔堍鵵汢涂莵湍猯煓貒团団抟剸團慱摶漙槫篿檲鏄糰鷒鷻疃彖湪褖推蓷藬弚颓隤尵頹頺頽魋穨蘈蹪",
  "俀腿僓蹆骽侻退娧煺蛻蜕褪駾吞呑涒啍朜焞噋暾黗屯坉忳芚饨豘豚軘飩鲀魨霕臀臋氽畽旽乇仛讬托扡汑饦",
  "杔侂咃拕拖沰挩捝莌袥託涶脫脱飥魠驝驮佗陀陁坨岮沱沲狏迱砣砤袉鸵紽堶跎酡碢馱槖駄駞橐鮀鴕鼧騨鼍",
  "驒鼉彵妥庹媠椭楕嫷橢鵎鬌鰖柝毤唾萚跅毻箨蘀籜驼駝穵劸挖洼娲畖窊媧嗗蛙搲溛漥窪鼃攨娃瓦佤邷咓袜",
  "聉嗢腽膃襪韈韤屲瓲哇歪喎竵崴外夞顡弯剜婠帵塆湾蜿潫豌彎壪灣丸刓汍纨芄完岏抏玩紈捖顽烷琓頑翫宛",
  "倇唍挽盌埦婉惋晚梚绾脘菀萖晩晼椀琬皖畹睕碗綩綰輓踠鋄鋔万卍卐妧忨捥脕貦萬腕輐澫薍錽蟃贃鎫贎邜",
  "杤笂尣尪尫汪尩亡亾兦王仼彺莣蚟罒网往徃罔徍惘菵暀棢蛧辋網蝄誷輞瀇魍妄忘迋旺盳望朢枉焹危威烓偎",
  "萎逶隇隈喴媙愄揋揻渨葨葳微椳楲溦煨詴蜲蝛覣薇燰鳂巍鰃鰄囗韦圩围帏沩违闱峗峞洈韋桅涠唯帷惟硙维",
  "喡圍媁嵬幃湋溈琟違潍維蓶鄬潙潿磑醀濰鍏闈鮠癓覹犩霺欈厃伟伪尾纬芛苇委炜玮洧娓屗浘荱诿偉偽崣梶",
  "痏硊骩嵔徫愇猥葦蒍骪骫暐椲煒瑋痿腲艉韪僞撱磈鲔寪緯蔿諉踓韑頠薳儰濻鍡鮪壝瀢韙颹韡蘤斖卫为未位",
  "味苿為畏胃叞軎尉菋谓喂媦渭爲煟碨蔚蜼慰熭犚緭衛懀璏罻衞謂餧鮇螱褽餵魏藯轊鏏霨鳚蘶饖讆躗讏躛捤",
  "煀猬墛縅蝟嶶昷塭温榅殟溫瑥辒瘟蕰豱輼轀鳁鞰鰛鰮匁文彣纹芠炆玟闻紋蚉蚊珳阌琝雯瘒聞馼魰鳼鴍螡閺",
  "閿蟁闅鼤闦刎吻忟抆呡肳紊桽脗稳穏穩问妏汶莬問渂揾搵顐璺呚鈫鎾翁嗡滃鹟螉鎓鶲勜奣塕嵡蓊暡瞈聬瓮",
  "蕹甕罋齆挝倭涡莴唩涹渦猧萵窝窩蜗撾蝸踒我婐捰仴沃肟卧枂臥偓捾涴媉幄握渥焥硪楃腛斡瞃擭濣瓁臒雘",
  "龌齷乌圬弙汙汚污邬呜巫杇屋洿诬钨烏剭窏鄔嗚歍誣箼螐鴮鎢鰞无毋吳吴吾呉芜郚唔娪洖浯茣莁梧珸祦無",
  "铻鹀禑蜈誈蕪璑蟱鯃鵐譕鼯鷡五午仵妩庑忤怃旿武玝侮俉倵捂啎娬牾珷摀碔鹉熓瑦舞嫵廡憮潕儛橆甒鵡躌",
  "兀勿戊阢伆屼扤坞岉杌芴迕忢物矹卼敄误悞悟悮粅逜晤焐婺嵍痦隖靰骛塢奦嵨溩雺雾寤熃誤鹜遻鋈窹霚鼿",
  "霧齀蘁騖鶩乄务伍務錻夕兮吸忚扱汐覀希扸卥昔析穸肸肹俙徆怸恓郗饻唏奚屖悕氥浠牺狶莃唽悉惜捿晞桸",
  "欷淅烯焁焈琋硒菥赥釸傒惁晰晳焟焬犀睎稀粞翕舾鄎厀嵠徯溪皙蒠锡僖榽煕熄熈熙緆蜥豨餏嘻噏嬆嬉嶲潝",
  "瘜磎膝凞憙樨橀熹熺熻窸縘羲螅螇錫燨瞦蟋谿豀豯貕糦繥雟鵗觹譆醯鏭隵巇曦爔犧酅觽鼷蠵鸂觿鑴习郋席",
  "習袭觋媳椺蒵蓆嶍漝覡趘槢薂隰檄謵鎴霫鳛飁騱騽襲鰼驨枲洗玺徙铣喜葈葸鈢鉨鉩屣漇蓰憘暿歖禧諰壐縰",
  "謑蟢蹝璽囍鱚矖躧匸卌戏屃系饩呬忥怬矽细係咥恄盻郤欯绤細釳阋喺椞翖舃舄趇隙慀滊禊綌赩隟墍熂犔稧",
  "潟澙蕮覤戱黖戲磶虩餼鬩繫嚱闟霼屭衋西息渓橲犠礂鯑虲疨虾谺傄閕煆煵颬瞎蝦鰕匣侠狎俠峡柙炠狭陜峽",
  "烚狹珨祫硖翈舺陿硤遐敮暇瑕筪舝碬辖磍縀蕸縖赮魻轄鍜霞鎋黠騢鶷閜丅下乤吓疜夏睱嚇懗罅鎼夓鏬圷梺",
  "溊仚屳先奾纤佡忺氙杴祆秈苮枮籼珗莶掀訮铦跹酰锨僊嘕銛鲜暹韯嬐憸薟鍁褼韱鮮蹮馦廯攕纎鶱襳躚纖鱻",
  "伭闲妶弦贤咸唌挦涎胘娴娹婱絃舷蚿衔啣痫蛝閑閒鹇嫌衘甉銜嫺嫻憪撏澖稴誸賢燅諴輱醎癇癎瞯藖礥鹹麙",
  "贒鷳鷴鷼冼狝显险崄毨烍猃蚬険赻筅尟尠搟禒跣銑箲險嶮獫獮藓鍌燹顕幰攇櫶蘚譣玁韅顯灦伣县咞岘苋现",
  "线臽限姭宪県陥哯垷娊娨峴涀莧陷晛現硍馅睍絤缐羡献粯羨腺蜆僩僴綫誢撊線鋧憲橌縣錎餡壏豏麲瀗臔獻",
  "糮鼸仙僲繊鑦乡芗相香郷厢啌鄉鄊廂湘缃葙鄕稥薌箱緗膷襄忀骧麘欀瓖镶鑲驤瓨佭详庠栙祥絴翔詳跭享亯",
  "响饷晑飨想銄餉鲞曏蠁鮝鯗響饗饟鱶向姠巷蚃项珦象塂缿萫衖項像勨嶑銗橡襐嚮蟓闀鐌鱌楿鱜灱灲呺枭侾",
  "哓枵骁哮宯宵庨消绡虓逍鸮婋梟焇猇萧痚痟硝硣窙翛萷销揱綃嘋嘐歊潇箫踃嘵憢獢銷霄彇膮蕭魈鴞穘簘藃",
  "蟂蟏鴵嚣瀟簫蟰髇櫹嚻囂髐蠨驍毊虈洨笅郩崤淆訤殽筊誵小晓暁筱筿皛曉篠謏皢孝肖効咲俲效校涍笑啸傚",
  "敩詨嘨誟嘯歗熽鞩斅斆恷滧些揳猲楔歇蝎蠍劦协旪邪協胁垥奊峫恊拹挟挾脅脇衺偕斜谐翓嗋愶携瑎綊熁膎",
  "勰撷擕緳缬蝢鞋頡諧燲擷鞵襭攜纈讗龤写冩寫藛伳灺泄泻祄绁缷卸洩炧卨娎屑屓偞偰徢械烲焎禼紲亵媟屟",
  "渫絏絬谢僁塮榍榭褉噧屧暬緤嶰廨懈澥獬糏薢薤邂韰燮褻謝駴瀉鞢瀣爕繲蟹蠏齘齛齥齂躞脋夑心邤妡忻芯",
  "辛昕杺欣炘盺俽惞訢鈊锌新歆廞鋅嬜薪馨鑫馫枔襑鐔伈阠伩囟孞信軐脪衅訫焮煡馸顖舋釁忄噺星垶骍惺猩",
  "煋瑆腥蛵觪箵篂鮏曐觲鍟騂皨鯹刑行邢形陉侀郉型洐荥钘陘娙硎铏鈃滎鉶銒鋞睲醒擤兴杏姓幸性荇倖莕婞",
  "悻涬緈興嬹臖哘裄謃凶兄兇匈讻忷汹哅恟洶胷胸訩詾賯雄熊焽诇焸詗夐敻休俢修咻庥烋烌羞脩脙鸺臹貅馐",
  "樇銝髤髹鎀鵂鏅饈鱃飍苬朽滫綇糔秀岫峀珛绣袖琇锈嗅溴璓褎褏銹螑繍繡鏥鏽齅鮴吁戌旴疞盱欨胥须晇訏",
  "顼虗虚谞媭幁揟湑虛裇須楈窢頊嘘墟需魆噓嬃歔縃蕦蝑諝譃繻魖驉鑐鬚俆徐蒣许呴姁诩冔栩珝偦許暊詡稰",
  "鄦糈醑盨旭伵序汿芧侐卹怴沀叙恤昫洫垿欰殈烅珬勖敍敘勗烼绪续酗喣壻婿朂溆絮訹慉煦蓄賉槒漵潊盢瞁",
  "緒聟銊獝稸緖魣藇瞲藚續鱮聓続蓿吅轩昍宣弲軒梋谖喧塇媗愃愋揎萱萲暄煊瑄蓒睻儇禤箮縇翧蝖鋗懁蕿諠",
  "諼鍹駽矎翾藼蘐蠉譞玄玹痃悬旋琁蜁嫙漩暶璇檈璿懸咺选晅烜選顈癣癬怰泫昡炫绚眩袨铉琄眴衒渲絢楥楦",
  "鉉碹蔙镟鞙颴縼繏鏇讂贙鰚削疶蒆靴薛辥辪鞾穴斈乴学岤峃茓泶袕鸴踅壆學嶨澩燢觷雤鷽雪鳕鱈血吷坹狘",
  "桖谑趐謔瀥膤樰艝轌坃勋埙焄勛塤熏窨蔒勲勳薫駨壎獯薰曛燻臐矄蘍壦纁醺廵寻旬巡驯杊畃询峋恂洵浔紃",
  "荀荨栒桪毥珣偱尋循揗槆潃詢馴鄩鲟噚潯攳樳燖璕蟳鱏鱘灥卂讯伨汛迅侚巺徇狥迿逊殉訊訙奞巽殾稄遜愻",
  "賐噀潠蕈鵕爋顨鑂训訓嚑丫圧压吖庘押枒垭鸦桠鸭埡孲椏鴉錏鴨壓鵶鐚牙伢厑岈芽厓玡琊笌蚜堐崕崖涯猚",
  "瑘睚衙漄齖厊庌哑唖啞痖雅瘂蕥劜圠轧亚襾讶亜犽迓亞軋娅挜砑俹氩婭掗訝铔揠氬猰聐圔稏窫齾乛呀恹剦",
  "烟珚胭偣啱崦淊淹焉焑菸阉湮猒腌煙硽鄢嫣漹醃閹嬮懨篶懕臙黫讠延严妍芫言岩昖沿炎郔姸娫狿研莚娮盐",
  "琂硏閆阎嵒嵓湺筵綖蜒塩揅楌詽碞蔅颜厳虤閻檐顏顔嚴壛巌簷櫩黬壧孍巗巖礹鹽麣夵抁沇乵兖奄俨兗匽弇",
  "衍偃厣掩眼萒郾酓嵃愝扊揜棪渰渷琰遃隒椼罨裺演褗嶖戭蝘魇噞躽縯檿験黡厴甗鰋鶠黤齞龑儼黭顩鼴巘巚",
  "曮魘鼹齴黶厌闫妟觃牪咽姲彥彦砚唁宴晏烻艳覎验偐焔谚隁喭堰敥焰焱硯葕雁傿椻溎滟鳫厭墕暥酽嬊谳餍",
  "鴈燄燕諺赝鬳曕鴳酀騐嚥嬿艶贋曣爓醶騴鷃灔贗觾讌醼饜驗鷰艷灎釅驠灧讞豓豔灩訁熖樮軅欕央咉姎抰泱",
  "殃胦眏秧鸯鉠雵鞅鴦扬羊阦阳旸杨炀飏佯劷氜疡钖垟徉昜洋羏烊珜眻陽崵崸揚蛘敭暘楊煬禓瘍諹輰鍚鴹颺",
  "鐊鰑霷鸉仰佒坱岟养柍炴氧痒紻傟楧軮慃氱蝆養駚懩攁癢怏恙样羕詇様漾樣瀁奍羪礢幺夭吆妖枖殀祅訞喓",
  "葽楆腰鴁邀爻尧尭肴垚姚峣轺倄烑珧窑傜堯揺谣軺嗂媱徭愮搖摇猺遙遥暚榣瑤瑶銚飖餆嶢嶤窯窰餚繇謠謡",
  "鎐鳐颻蘨邎顤鰩仸宎岆抭杳狕苭咬柼眑窅窈舀偠婹崾溔蓔榚鴢鼼闄騕齩鷕穾药要钥袎窔筄葯詏熎覞靿獟鹞",
  "薬曜燿艞藥矅耀纅鷂讑鑰倻掖椰暍噎潱蠮耶捓揶铘釾鋣鎁擨也吔冶埜野嘢漜壄业叶曳页曵邺夜抴亱枼頁晔",
  "枽烨啘液谒堨殗腋葉鄓墷楪業馌僷曄曅歋燁擛皣瞱鄴靥嶪嶫澲謁餣嚈擫曗瞸鍱擪爗礏鎑饁鵺鐷靨驜鸈爷亪",
  "爺一乊弌伊衣医吚壱依祎咿洢悘猗郼铱壹揖欹蛜禕嫛漪稦銥嬄噫夁瑿鹥繄檹毉醫黟譩鷖黳乁仪匜圯夷迆冝",
  "宐沂诒侇怡沶狋衪迤饴咦姨峓恞拸柂珆瓵贻迻宧巸弬扅栘桋眙胰袘訑貤痍移耛萓凒羠蛦詑詒貽遗媐暆椸誃",
  "跠頉颐飴疑儀熪箷遺嶬彛彜螔頤寲嶷簃顊彝彞謻鏔觺讉鸃乙已以钇佁攺矣肔苡苢庡舣蚁釔倚扆笖逘酏偯崺",
  "旑椅鉯鳦裿旖踦輢敼螘檥礒艤蟻顗轙齮乂义亿弋刈忆艺肊议亦伇屹异芅伿佚劮呓坄役抑杙耴苅译邑佾呭呹",
  "峄怈怿易枍欥泆炈秇绎诣驿俋奕帟帠弈枻洂浂玴疫羿衵轶唈垼悒挹捙栧栺欭浥浳益袣谊陭勚埶埸悥掜殹異",
  "硛羛翊翌訲訳豙豛逸釴隿幆敡晹棭殔湙焲蛡詍跇軼鈠骮亄兿意溢獈痬睪竩缢義肄裔裛詣勩嫕廙榏潩瘗膉蓺",
  "蜴靾駅億撎槸毅熠熤熼瘞誼镒鹝鹢黓劓圛墿嬑嬟嶧憶懌曀殪澺燚瘱瞖穓縊艗薏螠褹寱斁曎檍歝燡燱翳翼臆",
  "賹鮨癔藙藝贀鎰镱繶繹豷霬鯣鶂鶃瀷蘙譯議醳醷饐囈鐿鷁鷊懿襼驛鷧虉鷾讛齸辷匇衤宜畩萟椬鶍籎囙因阥",
  "阴侌垔姻洇茵荫音骃栶殷氤陰凐秵裀铟陻隂喑堙婣愔筃絪歅溵禋蔭慇摿瘖銦緸鞇諲霒駰噾闉霠韾冘乑吟犾",
  "苂斦烎垠泿圁峾狺珢荶訔訚婬寅崟崯淫訡银鈝龂滛碒鄞夤蔩銀噖殥璌誾嚚檭蟫霪齗鷣乚廴尹引吲饮蚓赺隐",
  "淾鈏飲隠靷飮朄輑磤趛檃瘾隱嶾濥濦螾蘟櫽癮讔印茚洕胤垽堷湚猌廕蒑酳慭癊憖憗鮣懚檼粌应応英偀桜莺",
  "啨婴媖渶绬朠煐瑛嫈碤锳嘤撄甇緓缨罂蝧賏樱璎罃褮鍈霙鴬鹦嬰應膺韺甖鹰鶑鶧嚶孆孾攖罌蘡譍櫻瓔礯譻",
  "鶯鑍纓蠳鷪鷹鸎鸚盁迎茔盈荧莹営萤营萦蛍溁溋萾僌塋楹滢蓥潆熒瑩蝿嬴營縈螢濙濚濴藀覮謍赢瀅鎣攍瀛",
  "瀠瀯櫿瀴贏籝籯矨郢浧梬颍颕颖摬影潁璄瘿穎頴巊廮癭映暎硬媵膡噟鞕鐛鱦珱愥蝇縄攚蠅灐灜軈哟唷喲佣",
  "拥痈邕庸傭嗈鄘雍墉嫞慵滽槦噰壅擁澭郺镛臃癕雝鏞鳙廱灉饔鱅鷛癰喁揘牅颙顒鰫永甬咏泳俑勇勈栐埇悀",
  "柡涌恿傛惥愑湧硧詠塎嵱彮愹蛹慂踊禜鲬踴鯒用苚醟怺砽优忧攸呦怮泑幽逌悠麀滺憂優鄾嚘瀀櫌纋耰尢尤",
  "由沋犹邮油肬怣斿疣峳浟秞莜莸郵铀偤蚰訧逰游猶遊鱿楢猷鈾鲉輏駀蕕蝣魷輶鮋櫾有丣卣苃酉羑庮栯羐莠",
  "梄聈脜铕湵禉蜏銪槱牖黝懮又右幼佑侑狖糿哊囿姷宥峟柚牰祐诱迶唀蚴亴貁釉酭誘鼬友孧蒏牗扜纡迂迃穻",
  "陓紆虶唹淤盓毺瘀箊亐于邘伃余妤扵杅欤玗玙於盂臾衧鱼乻俞兪禺竽舁茰娛娯娱桙狳谀酑馀渔萸隅雩魚堣",
  "堬崳嵎嵛愉揄楰渝湡畭硢腴萮逾骬愚旕楡榆歈牏瑜艅虞觎漁睮窬舆褕歶羭蕍蝓諛雓餘嬩澞覦踰歟璵螸輿鍝",
  "謣髃鮽旟籅騟蘛鰅鷠鸆与予伛宇屿羽雨俁俣禹语圄峿祤偊匬圉庾敔鄅斞萭傴寙楀瑀瘐與語窳鋙頨龉噳嶼懙",
  "貐斔麌蘌齬肀玉驭圫聿芋芌妪忬饫育郁昱狱秗茟俼峪彧浴砡钰预喐域堉悆惐欲淢淯谕逳阈喅喩喻媀寓庽御",
  "棛棜棫焴琙矞硲裕遇飫馭鹆愈滪煜稢罭艈蒮蓣誉鈺預嫗嶎戫毓獄瘉緎蜟蜮輍銉噊慾潏稶蓹薁豫遹鋊鳿澦燏",
  "燠蕷諭錥閾鴥鴪儥礇禦魊鹬癒礖礜穥篽繘醧鵒櫲饇譽轝鐭霱欎驈鬻籞鱊鷸鸒欝龥軉鬰鬱灪籲爩挧荢澚鯲囦",
  "鸢剈冤悁眢鸳寃渁渆渊渕惌淵葾棩蒬蜎裷鹓箢鳶蜵駌鴛嬽鵷灁鼘鼝元円贠邧员园沅杬垣爰貟原員圆笎蚖袁",
  "厡圎援湲猨缘茒鼋園圓塬媴嫄源溒猿獂蒝榞榬辕緣縁蝝蝯魭橼羱薗螈謜轅黿鎱櫞邍騵鶢鶰厵远盶逺遠鋺夗",
  "肙妴苑怨院垸衏傆媛掾瑗禐愿裫褑褤噮願酛鈨曰曱约約箹矱彟彠月戉刖妜岄抈礿岳玥恱悅悦蚎蚏軏钺阅捳",
  "跀跃粤越鈅粵鉞閱閲嬳樾篗嶽龠籆瀹蘥黦爚禴躍籥鸑籰鸙晕缊蒀暈氲煴蒕氳奫蝹縕赟頵馧贇云勻匀囩妘沄",
  "纭芸昀畇眃秐郧涢紜耘耺鄖雲愪溳筠筼蒷榲熉澐蕓鋆橒篔縜饂允阭夽抎狁陨荺殒喗鈗隕殞褞馻磒賱霣齳孕",
  "运枟郓恽鄆酝傊惲愠運慍腪韫韵熅熨緷緼蕴薀醖醞餫藴韗韞蘊韻抣繧帀匝沞迊咂拶紥紮鉔魳臜臢杂砸偺喒",
  "韴雑嶻磼襍雜囋囐雥咋災灾甾哉栽烖菑渽睵賳宰崽再在扗侢洅载傤載酨儎縡兂糌簪簮鐕鐟咱昝沯桚寁揝噆",
  "撍儧攅攒儹攢趱礸趲暂暫賛赞錾鄼濽蹔瓉贊鏨瓒酇灒讃瓚禶襸讚饡匨牂羘赃賍臧蔵賘贓髒贜驵駔奘弉脏塟",
  "葬銺臓臟傮遭糟蹧醩凿鑿早枣蚤棗澡璪薻繰藻灶皁皂唕唣造梍喿慥艁噪簉燥竃譟趮躁竈栆则択沢择泎泽责",
  "迮則荝唶啧帻笮舴責溭矠嘖嫧幘箦樍諎赜擇澤皟瞔簀礋襗謮賾蠌齚齰鸅夨仄庂汄昃昗捑崱伬蔶贼戝賊鲗鯽",
  "蠈鰂鱡怎谮譖譛囎増鄫增憎缯橧熷璔矰磳罾繒譄锃鋥甑赠贈鱛扎吒抯奓挓柤査哳偧喳揸渣楂劄摣皶樝觰皻",
  "譇齄齇札甴闸蚻铡煠牐閘箚耫鍘譗厏拃苲眨砟搩鲊鲝踷鮓鮺乍灹诈咤柞栅炸宱痄蚱溠詐搾榨霅醡捚斋斎摘",
  "榸齋宅檡窄鉙债砦債寨瘵夈粂沾毡旃栴粘蛅飦惉詀趈詹閚谵噡嶦薝邅霑氈氊瞻鹯旜譫饘鳣驙魙鱣鸇讝斩飐",
  "展盏崭斬椫琖搌盞嶃嶄榐颭嫸醆橏輾黵占佔战栈桟站偡绽菚棧湛戦綻嶘輚戰虥虦覱轏譧蘸驏张張章傽鄣墇",
  "嫜彰慞漳獐粻蔁遧暲樟璋餦蟑騿鱆麞仉长長涨掌漲礃丈仗扙帐杖胀账帳涱脹痮障嶂幛賬瘬瘴瞕粀幥鏱鐣佋",
  "钊妱巶招昭盄釗啁鉊駋窼鍣皽爪找沼瑵召兆诏枛垗炤狣赵笊肁旐棹詔照罩肇肈趙曌燳鮡櫂瞾羄爫罀蜇嗻嫬",
  "遮厇折歽矺砓籷虴哲埑粍袩啠悊晢晣辄喆蛰詟谪馲摺輒磔輙銸辙蟄嚞謫謺鮿轍讁讋者乽啫禇锗赭褶襵这柘",
  "浙這淛樜潪鹧蟅鷓着著蔗贞针侦浈珍珎胗貞帪栕桢眞真砧祯針偵桭酙寊葴遉嫃搸斟楨獉甄禎蒖蓁鉁靕榛殝",
  "瑧碪禛潧箴樼澵臻薽錱轃鍼籈鱵诊抮枕弫昣轸屒畛疹眕袗紾聄裖診軫絼缜稹駗縥鬒黰圳阵纼甽侲挋陣鸩振",
  "朕栚紖眹赈酖塦揕敶瑱誫賑镇震鴆鎭鎮萙鋴争佂姃征怔爭诤埩峥挣炡狰烝眐钲崝崢掙猙睁聇铮媜揁筝徰蒸",
  "睜踭鉦徴箏錚徵篜鬇鯖癥氶抍糽拯掟晸愸撜整正证郑帧政症幀証塣諍鄭鴊證凧之支卮汁芝吱巵汥坧枝泜知",
  "织肢栀祗秓秖胑胝衼倁疷祬秪脂隻梔戠椥臸搘禔稙綕榰蜘馶鳷鴲鵄織蘵鼅执侄妷直姪値值聀釞埴執淔职貭",
  "植殖犆禃絷褁跖嗭瓡鉄墌摭馽嬂慹漐踯樴膱儨縶職蟙蹠軄躑夂止只劧旨阯址坁帋扺汦沚纸芷怾抧祉咫恉指",
  "枳洔砋衹轵淽疻紙訨趾軹黹酯藢襧阤至芖志忮扻豸制厔垁帙帜治炙质迣郅峙庢庤挃柣栉洷祑陟娡徏挚晊桎",
  "狾秩致袟贽轾乿偫徝掷梽楖猘畤痔秲秷窒紩翐袠觗铚鸷傂崻彘智滞痣蛭軽骘寘廌搱滍稚筫置跱輊锧雉墆滯",
  "潌疐製覟誌銍幟憄摯熫稺膣觯質踬鋕擳旘瀄緻駤鴙劕懥擲櫛穉螲懫贄櫍瓆觶騭鯯礩豑騺驇躓鷙鑕豒凪俧徔",
  "謢中伀汷刣妐彸忠泈炂终柊盅衳钟舯衷終鈡幒蔠锺銿螤螽鍾鼨蹱鐘籦肿种冢喠尰塚塜歱煄腫瘇種踵穜仲众",
  "妕狆祌茽衶重蚛偅眾堹媑筗衆諥迚州舟诌侜周洲诪烐珘辀郮徟掫淍矪週鸼喌粥赒輈銂賙輖霌盩謅鵃騆譸妯",
  "轴軸肘疛菷晭睭箒鯞纣伷呪咒宙绉冑咮昼紂胄荮皱酎晝粙葤詋甃詶僽皺駎噣縐骤籀籕籒驟帚炿駲朱劯侏诛",
  "邾洙茱株珠诸猪硃秼袾铢絑蛛誅跦槠潴蝫銖橥諸豬駯鮢鴸瀦櫫櫧鯺鼄蠩竹泏竺炢笁茿烛窋逐笜舳瘃築燭蠋",
  "躅鱁孎灟曯欘爥蠾丶主宔拄罜陼渚煮煑詝嘱濐麈瞩劚囑斸矚伫佇住助纻苎坾杼注贮迬驻壴柱殶炷祝疰眝砫",
  "祩竚莇紵紸羜蛀嵀筑註貯跓軴铸筯鉒馵箸翥樦鋳駐篫霔麆鑄墸抓檛膼簻髽拽跩专叀専砖專鄟塼嫥瑼甎磗膞",
  "颛磚諯蟤顓鱄转孨転竱轉灷啭堟蒃瑑腞僎赚撰篆馔篹襈賺譔饌囀籑妆庄妝荘娤桩莊梉湷粧装裝樁糚壮壯状",
  "狀壵焋漴撞戇庒隹追骓锥錐騅鵻沝坠桘笍娷惴甀缒畷硾膇墜赘縋諈醊錣餟礈贅譵轛鑆缀綴宒迍肫窀谆諄衠",
  "准埻準綧訰稕凖卓拙炪倬捉桌棁涿棳穛穱蠿圴彴汋犳灼叕妰茁斫浊丵浞烵诼酌啄啅娺梲斱晫椓琸硺窡罬撯",
  "擆斲槕禚諁諑鋜濁篧擢斀斵濯櫡謶镯鐯鵫灂蠗鐲籗鷟籱劅窧乲孜茊兹咨姕姿茲栥玆紎赀资淄秶缁谘嗞孳嵫",
  "椔湽滋粢葘辎鄑孶禌觜訾貲資趑锱稵緇鈭镃龇輜鼒澬諮趦輺錙髭鲻鍿鎡璾頿頾鯔鶅齍鰦蓻仔吇姉姊杍矷秄",
  "胏呰秭籽耔虸笫梓釨啙紫滓訿榟字自芓茡倳剚恣牸渍眥眦胔胾漬子崰橴宗倧综骔堫嵏嵕惾棕猣腙葼朡椶嵸",
  "稯綜緃熧緵翪蝬踨踪磫鍐豵蹤騌鬃騣鬉鬷鯮鯼鑁总偬捴惣愡揔搃傯蓗摠総縂總鏓纵昮疭倊猔碂粽糉瘲縦錝",
  "縱糭潈邹驺诹郰陬菆棷棸鄒箃緅諏鄹鲰鯫黀騶齱齺赱走奏揍楱鯐租葅蒩卆足卒哫崒崪族傶箤踤踿镞鏃诅阻",
  "组俎爼珇祖組詛靻鎺钻躜鑽繤缵纂纉籫纘攥鑚厜朘嗺樶蟕纗嶊嘴嶵噿璻栬絊酔最晬祽稡罪辠槜酻蕞醉檇鋷",
  "錊檌枠穝尊墫壿嶟遵樽繜罇鐏鳟鱒鷷僔噂撙譐捘銌鶎昨秨莋捽椊琢稓筰鈼左佐唨繓作坐阼岝岞怍侳祚胙唑",
  "座袏做葃葄飵糳咗蓙"]

end Han
end Collation
end YamlOrder
