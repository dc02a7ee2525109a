/-!
This module contains the Chinese characters that Korean uses, by the syllable as which they are
read. Each word is a syllable and these characters in their order.
-/

namespace YamlOrder
namespace Collation
namespace Han

/-- Syllables of Korean, each followed by the Chinese characters that are read like it. -/
def readings : List String := [
  "가伽佳假價加可呵哥嘉嫁家暇架枷柯歌珂痂稼苛茄街袈訶賈跏軻迦駕仮傢咖哿坷宊斝榎檟珈笳耞舸葭謌",
  "각刻却各恪慤殼珏脚覺角閣卻咯埆搉擱桷",
  "간侃刊墾奸姦干幹懇揀杆柬桿澗癎看磵稈竿簡肝艮艱諫間偘慳栞榦玕秆茛衎赶迀齦",
  "갈乫喝曷渴碣竭葛褐蝎鞨噶楬秸羯蠍鶡",
  "감勘坎堪嵌感憾戡敢柑橄減甘疳監瞰紺邯鑑鑒龕坩埳嵁弇憨撼欿歛泔淦澉矙轗酣鹻 갑匣岬甲胛鉀閘韐",
  "강剛堈姜岡崗康强彊慷江畺疆糠絳綱羌腔舡薑襁講鋼降鱇傋僵壃忼扛杠橿殭矼穅繈罡羗羫茳豇韁",
  "개介价個凱塏愷愾慨改槪漑疥皆盖箇芥蓋鎧開剴匃揩槩玠磕闓 객喀客 갱坑粳羹硜賡鏗 갹醵",
  "거倨去居巨拒据據擧渠炬祛距踞遽鉅鋸呿昛秬筥籧胠腒苣莒蕖蘧袪裾駏",
  "건乾件健巾建愆楗腱虔蹇鍵騫揵犍睷褰謇鞬 걸乞傑杰桀乬朅榤 검儉劍劒檢瞼鈐黔撿芡 겁劫怯迲刦刧",
  "게偈憩揭 격擊格檄激膈覡隔挌毄闃骼鬲鴃 견堅牽犬甄絹繭肩見譴遣鵑樫狷畎筧縳繾羂蠲鰹",
  "결抉決潔結缺訣玦觖闋 겸兼慊箝謙鉗鎌傔嗛岒拑歉縑蒹黚鼸",
  "경京俓倞傾儆勁勍卿坰境庚徑慶憬擎敬景暻更梗涇炅烱璟璥瓊痙硬磬竟競絅經耕耿脛莖警輕逕鏡頃頸驚鯨冏剄哽惸憼扃檠煢焭熲畊竸綆顈罄褧謦駉鯁黥",
  "계係啓堺契季屆悸戒桂械棨溪界癸磎稽系繫繼計誡谿階鷄堦烓瘈禊筓綮縘罽葪薊雞髻",
  "고古叩告呱固姑孤尻庫拷攷故敲暠枯槁沽痼皐睾稿羔考股膏苦苽菰藁蠱袴誥辜錮雇顧高鼓估凅刳塙杲栲槀槹櫜牯皋盬瞽稁箍篙糕罟羖翺胯觚詁郜酤鈷靠鴣鷱",
  "곡哭斛曲梏穀谷鵠嚳槲縠觳轂 곤困坤崑昆梱棍滾琨袞鯤堃崐悃捆緄衮裍褌錕閫髡鵾鶤齫 골汨骨搰榾矻鶻",
  "공供公共功孔工恐恭拱控攻珙空蚣貢鞏倥崆悾栱槓箜蛩蛬贛跫釭龔 곶串",
  "과寡戈果瓜科菓誇課跨過鍋顆侉堝夥夸撾猓稞窠蝌裹踝銙騍 곽廓槨藿郭椁癨躩霍鞹",
  "관冠官寬慣棺款灌琯瓘管罐菅觀貫關館丱涫爟盥祼窾筦綰輨錧鑵雚顴髖鸛 괄刮恝括适佸栝筈聒髺鴰",
  "광侊光匡壙廣曠洸炚狂珖筐胱鑛恇桄框爌獷磺絖纊茪誆誑 괘卦掛罫咼挂罣詿",
  "괴乖傀塊壞怪愧拐槐魁媿廥恠瑰璝蒯襘 괵馘 굉宏紘肱轟浤觥訇閎",
  "교交僑咬喬嬌嶠巧攪敎校橋狡皎矯絞翹膠蕎蛟較轎郊餃驕鮫佼嘄嘐噭嚙姣憍撟晈暞榷磽窖趫蹻鉸骹鵁齩",
  "구丘久九仇俱具勾區口句咎嘔坵垢寇嶇廐懼拘救枸柩構歐毆毬求溝灸狗玖球瞿矩究絿耉臼舅舊苟衢謳購軀逑邱鉤銶駒驅鳩鷗龜佉佝俅傴冓劬匶厹叴坸姤媾嫗屨岣彀戵扣捄搆摳昫榘漚璆甌疚痀癯窛窶篝糗胊蒟蚯裘覯詬遘釦韝韭韮颶駈鬮鷇鸜",
  "국國局菊鞠鞫麴匊掬跼麯 군君窘群裙軍郡捃桾皸 굴堀屈掘窟倔崛淈詘 궁宮弓穹窮芎躬躳",
  "권倦券勸卷圈拳捲權淃眷勌惓棬睠綣蜷 궐厥獗蕨蹶闕 궤机櫃潰詭軌饋佹几劂匱憒撅樻氿簋繢跪闠餽麂",
  "귀晷歸貴鬼 규叫圭奎揆槻珪硅窺竅糾葵規赳逵閨刲嫢嬀巋暌楏樛潙睽糺虬虯跬邽闚頍馗",
  "균勻均畇筠菌鈞囷麏 귤橘 극克剋劇戟棘極隙亟尅屐郄",
  "근僅劤勤懃斤根槿瑾筋芹菫覲謹近饉卺厪墐巹廑漌觔跟釿靳 금今妗擒昑檎琴禁禽芩衾衿襟錦唫噤嶔笒黅",
  "급伋及急扱汲級給圾岌皀礏笈芨 긍亘兢矜肯亙殑",
  "기企伎其冀嗜器圻基埼夔奇妓寄岐崎己幾忌技旗旣朞期杞棋棄機欺氣汽沂淇玘琦琪璂璣畸畿碁磯祁祇祈祺箕紀綺羈耆耭肌記譏豈起錡錤飢饑騎騏驥麒僛剞墍屺庋弃忮愭掎攲旂暣曁棊歧炁猉禨綥綦羇肵芪芰蘄虁蜝蟣覉覬跂隑頎鬐鰭黖",
  "긴緊 길佶吉拮桔姞蛣 김金 끽喫 나儺娜懦拏拿那挐挪梛糥糯 낙諾 난暖煖難偄煗赧餪 날捏捺",
  "남南枏楠湳男喃柟 납納衲 낭囊娘曩 내乃內奈柰耐匂奶嬭迺鼐 녀女 녁惄 년年撚秊碾 념念恬拈捻",
  "녕寧寗佞儜嚀濘 노努奴弩怒瑙駑呶孥峱猱笯臑 농濃膿農儂噥穠醲 뇌惱腦餒 뇨尿嫋嬲淖磠裊鐃 누啂耨",
  "눈嫩 눌訥吶肭 뉴杻紐忸靵 뉵衄 능能 니尼泥呢怩柅祢禰膩 닉匿溺昵暱 다多茶爹",
  "단丹亶但單團壇彖斷旦檀段湍短端簞緞蛋袒鄲鍛慱担椴漙癉耑胆腶蜑 달撻澾獺疸達妲怛闥靼韃",
  "담啖坍憺擔曇淡湛潭澹痰聃膽蕁覃談譚錟儋啗噉墰壜毯禫罎薝郯黮黵 답沓畓答踏遝",
  "당唐堂塘幢戇撞棠當糖螳黨倘儻党搪檔溏瑭璫瞠礑蟷襠讜鏜鐺餳餹",
  "대代垈坮大對岱帶待戴擡玳臺袋貸隊黛儓懟旲汏碓鐓 댁宅 덕德悳",
  "도倒刀到圖堵塗導屠島嶋度徒悼挑掉搗桃棹櫂淘渡滔濤燾盜睹禱稻萄覩賭跳蹈逃途道都鍍陶韜叨壔弢忉慆掏搯擣檮洮涂稌菟酴闍鞀鞱饕鼗",
  "독毒瀆牘犢獨督禿篤纛讀櫝黷 돈墩惇敦旽暾沌焞燉豚頓弴潡躉 돌乭突咄堗",
  "동仝冬凍動同憧東桐棟洞潼疼瞳童胴董銅侗僮哃垌峒彤朣橦涷艟苳茼蕫蝀錬鮗",
  "두兜斗杜枓痘竇荳豆逗頭抖斁肚脰蚪蠹陡 둔屯臀芚遁遯鈍窀迍 둘乧 득得",
  "등嶝橙燈登等藤謄鄧騰凳墱滕磴籐縢螣鐙 라喇懶癩羅蘿螺裸邏倮囉曪瘰砢臝鑼騾驘",
  "락洛烙珞絡落酪駱嗠犖 란亂卵欄欒瀾爛蘭鸞嬾幱攔灓襴鑾闌 랄剌辣埒辢 람嵐擥攬欖濫籃纜藍襤覽婪惏",
  "랍拉臘蠟鑞 랑廊朗浪狼琅瑯螂郞榔硠稂莨蜋閬 래來崍徠萊淶騋 랭冷 략掠略畧",
  "량亮倆兩凉梁樑粮粱糧良諒輛量喨悢椋涼踉魎",
  "려侶儷勵呂廬慮戾旅櫚濾礪藜蠣閭驢驪麗黎儢厲唳梠癘糲膂臚蠡邌鑢 력力曆歷瀝礫轢靂攊櫟櫪癧轣酈",
  "련憐戀攣漣煉璉練聯蓮輦連鍊孌楝湅臠鏈鰊鰱 렬冽列劣洌烈裂挒捩颲 렴廉斂殮濂簾奩瀲磏 렵獵躐鬣",
  "령令伶囹岺嶺怜玲笭羚翎聆逞鈴零靈領齡另呤姈岭昤欞泠秢苓蛉軨鴒鹷 례例澧禮醴隷隸鱧",
  "로勞撈擄櫓潞瀘爐盧老蘆虜路輅露魯鷺鹵壚滷玈癆窂艪艫轤鐪鑪顱髗鱸鸕",
  "록碌祿綠菉錄鹿麓圥彔淥漉簏轆騄 론論 롱壟弄朧瀧瓏籠聾儱攏曨礱蘢隴龎",
  "뢰儡瀨牢磊賂賚賴雷攂礌礧籟纇罍耒蕾誄酹顂 료了僚寮廖料燎療瞭聊蓼遼鬧嘹嫽撩暸潦獠繚膋醪鐐飂飉",
  "룡龍龒 루壘婁屢樓淚漏瘻累縷蔞褸鏤陋僂嘍嶁慺耬螻髏 류劉旒柳榴流溜瀏琉瑠留瘤硫謬類橊縲纍遛鶹",
  "륙六戮陸勠 륜侖倫崙淪綸輪掄 률律慄栗嵂溧 륭隆癃窿 륵勒肋泐 름凜凛廩澟 릉凌楞稜綾菱陵倰蔆",
  "리俚利厘吏唎履悧李梨浬犁狸理璃痢籬罹羸莉裏裡里釐離鯉俐剺哩嫠涖漓离莅蜊螭貍邐魑黐",
  "린吝潾燐璘藺躪隣鱗麟嶙悋獜磷粦粼繗躙轔鄰鏻驎 림林淋琳臨霖痳 립砬立笠粒岦",
  "마摩瑪痲碼磨馬魔麻劘媽螞蟇麽麿 막寞幕漠膜莫邈瞙鏌",
  "만万卍娩巒彎慢挽晩曼滿漫灣瞞萬蔓蠻輓饅鰻墁嫚幔縵謾蹣鏋鏝鬘 말唜抹末沫茉襪靺帕秣",
  "망亡妄忘忙望網罔芒茫莽輞邙惘汒漭莾蟒魍 매埋妹媒寐昧枚梅每煤罵買賣邁魅呆楳沬玫眛苺莓酶霉",
  "맥脈貊陌驀麥脉貃貘 맹孟氓猛盲盟萌儚甍甿虻 멱冪覓幎糸 면免冕勉棉沔眄眠綿緬面麵俛湎糆緜麪",
  "멸滅蔑篾衊 명冥名命明暝椧溟皿瞑茗蓂螟酩銘鳴洺 몌袂",
  "모侮冒募姆帽慕摸摹暮某模母毛牟牡瑁眸矛耗芼茅謀謨貌侔姥媢嫫恈旄皃眊粍糢耄蝥蟊鉾髦",
  "목木沐牧目睦穆鶩凩苜 몰歿沒 몽夢朦蒙幪懞曚溕濛瞢矇艨雺鸏 묘卯墓妙廟描昴杳渺猫竗苗錨淼眇藐貓",
  "무務巫憮懋戊拇撫无楙武毋無珷畝繆舞茂蕪誣貿霧鵡儛嘸廡膴騖 묵墨默嘿",
  "문們刎吻問文汶紊紋聞蚊門雯匁悗懣抆捫炆璊 물勿沕物",
  "미味媚尾嵋彌微未梶楣渼湄眉米美薇謎迷靡黴亹娓媄媺弥弭敉瀰獼糜縻苿蘼麋",
  "민岷悶愍憫敏旻旼民泯玟珉緡閔忞忟暋湣緍罠苠閩鰵黽 밀密蜜謐樒滵",
  "박剝博拍搏撲朴樸泊珀璞箔粕縛膊舶薄迫雹駁亳欂牔鎛駮髆",
  "반伴半反叛拌搬攀斑槃泮潘班畔瘢盤盼磐磻礬絆般蟠返頒飯媻扳搫攽朌胖螌頖",
  "발勃拔撥渤潑發跋醱鉢髮魃哱浡脖鈸鵓",
  "방倣傍坊妨尨幇彷房放方旁昉枋榜滂磅紡肪膀舫芳蒡蚌訪謗邦防龐仿厖幫徬搒旊梆牓舽螃鎊髣魴",
  "배倍俳培徘拜排杯湃焙盃背胚裴裵褙賠輩配陪坏坯扒琲蓓 백伯佰帛柏栢白百魄粨",
  "번幡樊煩燔番繁蕃藩飜繙翻膰蘩袢 벌伐筏罰閥橃罸 범凡帆梵氾汎泛犯範范笵訉颿 법法琺",
  "벽僻劈壁擘檗璧癖碧蘗闢霹擗甓疈襞鷿鼊 변卞弁變辨辯邊忭抃籩辮腁賆駢骿鴘 별別瞥鱉鼈彆鷩",
  "병丙倂兵屛幷昞昺柄棅炳甁病秉竝輧餠騈並塀絣缾迸鈵鋲鉼",
  "보保堡報寶普步洑湺潽珤甫菩補褓譜輔俌盙簠葆靌鴇黼",
  "복伏僕匐卜宓復服福腹茯蔔複覆輹輻馥鰒墣幞扑濮箙菔蝠蝮鵩 본本 볼乶",
  "봉俸奉封峯峰捧棒烽熢琫縫蓬蜂逢鋒鳳丰夆篷綘菶鴌",
  "부不付俯傅剖副否咐埠夫婦孚孵富府扶敷斧浮溥父符簿缶腐腑膚艀芙莩訃負賦賻赴趺部釜阜附駙鳧仆俘媍抔拊掊桴榑涪玞祔筟罘罦胕芣苻蔀蚨蜉袝裒跗鈇頫鮒麩",
  "북北 분分吩噴墳奔奮忿憤扮昐汾焚盆粉糞紛芬賁雰体坌帉枌棻棼氛湓濆犇畚砏笨肦膹蕡轒黺鼢",
  "불佛弗彿拂岪祓紱艴茀韍髴黻 붕崩朋棚硼繃鵬堋漰鬅",
  "비丕備匕匪卑妃婢庇悲憊扉批斐枇榧比毖毗毘沸琵痺砒碑秕秘粃緋翡肥脾臂菲蜚裨誹譬費鄙非飛鼻仳俾剕圮埤妣屁庳悱棐椑沘淝淠濞狉狒痞痹睥祕篦紕羆腓芘芾萆蓖蚍貔贔轡邳郫閟陴霏鞴騑騛髀鼙",
  "빈嚬嬪彬斌檳殯浜濱瀕牝玭貧賓頻儐擯矉繽臏蘋豳邠鑌霦顰鬂鬢 빙憑氷聘騁冰凭凴娉",
  "사乍事些仕伺似使俟僿史司唆嗣四士奢娑寫寺射巳師徙思捨斜斯柶査梭死沙泗渣瀉獅砂社祀祠私篩紗絲肆舍莎蓑蛇裟詐詞謝賜赦辭邪飼駟麝傞剚卸咋姒楂榭汜痧皶竢笥缷蜡覗駛魦鯊鰤",
  "삭削朔槊爍蒴鑠 산傘刪山散汕珊産疝算蒜酸霰剷姍孿橵潸澘狻繖訕鏟閊毿 살乷撒殺煞薩",
  "삼三杉森渗芟蔘衫糝釤鬖 삽揷澁鈒颯卅唼歃翣鍤霅霎",
  "상上傷像償商喪嘗孀尙峠常床庠廂想桑橡湘爽牀狀相祥箱翔裳觴詳象賞霜塽徜晌殤甞緗鎟顙鬺",
  "새塞璽賽鰓 색嗇穡索色槭濇瀒 생牲生甥笙眚鉎",
  "서墅壻嶼序庶徐恕抒捿敍暑曙書栖棲犀瑞筮絮緖署胥舒薯西誓逝鋤黍鼠噬婿揟撕湑澨紓耡芧鉏",
  "석夕奭席惜昔晳析汐淅潟石碩蓆釋錫晰矽腊舃蜥鉐鼫",
  "선仙僊先善嬋宣扇敾旋渲煽琁瑄璇璿癬禪線繕羨腺膳船蘚蟬詵跣選銑鐥饍鮮墡嫙尟尠屳愃歚熯筅綫譔譱鏇騸鱓鱻",
  "설卨屑楔泄洩渫舌薛褻設說雪齧偰媟揲暬爇碟稧紲 섬剡暹殲纖蟾贍閃陝孅憸摻睒譫銛韱",
  "섭攝涉燮囁懾灄聶躡鑷顳 성城姓宬性惺成星晟猩珹盛省筬聖聲腥誠醒瑆騂 세世勢歲洗稅笹細貰帨洒繐蛻",
  "소召嘯塑宵小少巢所掃搔昭梳沼消溯瀟炤燒甦疏疎瘙笑篠簫素紹蔬蕭蘇訴逍遡邵銷韶騷佋俏卲嗉埽塐愬捎樔泝筱箾繅翛膆艘蛸踈酥霄魈鮹鰺",
  "속俗屬束涑粟續謖贖速洬遬 손孫巽損蓀遜飡飧飱 솔率窣蟀 송宋悚松淞訟誦送頌柗竦鬆",
  "쇄刷灑碎鎖惢曬瑣 쇠衰釗",
  "수修受嗽囚垂壽嫂守岫峀帥愁戍手授搜收數樹殊水洙漱燧狩獸琇璲瘦睡秀穗竪粹綏綬繡羞脩茱蒐蓚藪袖誰讐輸遂邃酬銖銹隋隧隨雖需須首髓鬚叟售廋晬殳泅溲濉睟睢瞍祟籔脺膄膸讎豎陲颼饈",
  "숙叔塾夙孰宿淑潚熟琡璹肅菽俶倏儵婌橚驌鷫",
  "순巡徇循恂旬栒楯橓殉洵淳珣盾瞬筍純脣舜荀蓴蕣詢諄醇錞順馴侚狥盹眴紃肫駨鬊鶉 술戌術述鉥絉",
  "숭崇崧嵩菘 쉬倅淬焠 슬瑟膝蝨虱 습濕拾習褶襲慴熠隰 승丞乘僧勝升承昇繩蠅陞塍鬙",
  "시侍匙嘶始媤尸屎屍市弑恃施是時枾柴猜矢示翅蒔蓍視試詩諡豕豺偲兕厮啻塒廝枲柹澌緦翤諟諰豉釃鍉顋",
  "식埴寔式息拭植殖湜熄篒蝕識軾食飾喰媳栻",
  "신伸侁信呻娠宸愼新晨燼申神紳腎臣莘薪藎蜃訊身辛迅哂噺囟姺汛矧脤贐頣駪 실失室實悉蟋飋",
  "심審尋心沁深瀋甚芯諶梣潯燖葚鐔鱏 십什十辻 쌍雙 씨氏",
  "아亞俄兒啞娥峨我牙芽莪蛾衙訝阿雅餓鴉鵝丫哦娿婀峩疴砑笌迓錏鵞",
  "악堊岳嶽幄惡愕握樂渥鄂鍔顎鰐齷偓卾咢喔噩腭萼覨諤鶚齶 안安岸按晏案眼雁鞍顔鮟桉犴贋鴈",
  "알斡謁軋閼嘎戞揠穵訐遏頞鴶 암唵岩巖庵暗癌菴闇啽媕嵓晻腤葊蓭諳頷馣黯 압壓押狎鴨",
  "앙仰央怏昻殃秧鴦卬坱泱盎鞅 애厓哀埃崖愛曖涯碍艾隘靄僾唉啀噯娭崕挨捱欸漄獃皚睚瞹磑礙薆藹靉騃",
  "액厄扼掖液縊腋額呝戹搤阨 앵櫻罌鶯鸚嚶嫈罃鷪 야也倻冶夜惹揶椰爺耶野埜",
  "약弱約若葯蒻藥躍爚禴篛籥鑰鰯鶸龠",
  "양佯壤孃恙揚攘敭暘楊樣洋瀁煬痒瘍禳穰羊襄讓釀陽養徉漾瀼烊癢眻蘘輰鑲颺驤",
  "어圄御於漁瘀禦語馭魚齬圉敔淤飫 억億憶抑檍臆繶 언偃堰彦焉言諺傿匽嫣讞鄢鼴鼹 얼孼蘖臬",
  "엄俺儼嚴奄掩淹崦广曮罨醃閹 업嶪業嶫鄴 에恚曀 엔円 여予余如歟汝璵礖與艅茹輿轝餘舁",
  "역亦域役易疫繹譯逆驛嶧懌淢閾",
  "연嚥堧姸娟宴延捐挻椽沇沿涎涓淵演烟然煙燃燕硏硯筵緣縯衍軟鉛鳶兗囦埏嬿悁掾曣櫞渷臙莚蜵蠕讌鷰",
  "열悅涅熱閱噎 염厭染炎焰琰艶苒閻髥鹽冉塩懕扊檿檶灎灩釅饜魘黶 엽曄燁葉曅熀爗靨",
  "영塋嶸影映暎楹榮永泳渶潁濚瀛瀯煐營獰瑛瓔盈穎纓英詠迎鍈霙咏嬴嬰浧濴癭碤縈蠑贏郢韺",
  "예乂倪刈叡曳汭濊猊睿穢芮藝蘂裔詣譽豫銳霓預囈嫛拽掜枘獩睨瞖繄翳苅蕊蕋薉蚋蜺鯢鷖麑",
  "오五伍俉傲午吾吳嗚塢墺奧娛寤悟懊敖旿晤梧汚澳烏熬獒筽蜈誤鰲鼇仵俣唔嗷噁圬媪嫯忤慠捂汙窹聱茣襖謷迃迕遨鏊鏖隩驁鼯",
  "옥屋沃獄玉鈺 온溫瑥瘟穩縕蘊媼慍昷氳熅薀轀醞韞饂鰮 올兀嗢膃",
  "옹壅擁瓮甕癰翁邕雍饔喁廱滃癕禺罋蓊雝顒 와渦瓦窩窪臥蛙蝸訛哇囮婐枙洼猧窊萵譌",
  "완婉完宛梡椀浣玩琓琬碗緩翫脘腕莞豌阮頑刓垸妧岏忨惋涴盌 왈曰 왕往旺枉汪王尫瀇迬 왜倭娃歪矮媧",
  "외外嵬巍猥畏偎崴嵔渨煨碨磈聵隗",
  "요僥凹堯夭妖姚寥嶢拗搖撓擾曜橈燿瑤窈窯繇繞耀腰蟯要謠遙邀饒偠喓坳墝嬈幺徭徼殀澆祅穾窅蕘遶鷂",
  "욕慾欲浴縟褥辱溽蓐 용俑傭冗勇埇墉容庸慂榕涌湧溶熔瑢用甬聳茸蓉踊鎔鏞傛宂嵱慵憃槦硧舂蛹踴",
  "우于佑偶優又友右宇寓尤愚憂旴牛玗瑀盂祐禑禹紆羽芋藕虞迂遇郵釪隅雨雩亏亴俁偊吁堣嵎庽杅疣盱竽耦耰謣踽鍝麀麌齲",
  "욱勖彧旭昱栯煜稶郁頊燠 운云橒殞澐熉耘芸蕓運隕雲韻惲沄篔紜霣韵 울蔚鬱亐 웅熊雄",
  "원元原員圓園垣媛嫄寃怨愿援沅洹湲源爰猿瑗苑袁轅遠院願鴛冤圜杬楥猨綩芫薗蜿謜鋺騵鵷黿",
  "월月越鉞刖粤",
  "위位偉僞危圍委威尉慰暐渭爲瑋緯胃萎葦蔿蝟衛褘謂違韋魏喟幃煒熨痿葳衞諉逶闈韙韡餧骪",
  "유乳侑儒兪唯喩孺宥幼幽庾悠惟愈愉揄攸有柔柚楡楢油洧游濡猶猷瑜由癒維臾萸裕誘諛諭踰蹂遊逾遺酉釉鍮冘呦囿壝帷揉斿泑牖瘉瘐窬窳籲糅緌腴莠蕕蕤蚰蚴蝤褕讉逌鞣鮪黝鼬龥",
  "육堉毓肉育儥 윤允奫尹潤玧胤贇鈗閏昀鋆 율聿潏矞 융戎瀜絨融狨",
  "은垠恩慇殷誾銀隱听嚚圁垽憖檼溵狺珢癮訔鄞齗 을乙鳦 음吟淫蔭陰音飮喑崟廕愔霪 읍揖泣邑悒挹浥",
  "응凝應膺鷹 의依倚儀宜意懿擬椅毅疑矣義艤薏蟻衣誼議醫儗凒劓嶷欹漪猗礒螘饐",
  "이二以伊夷姨已弛彛怡爾珥異痍移而耳肄苡荑貽貳邇飴餌咿坨尔彝栮洟珆訑詑迤隶",
  "익瀷益翊翌翼謚弋熤鷁 인人仁刃印咽因姻寅引忍湮絪茵蚓認靭靷仞堙夤婣扨氤洇禋籾芢裀",
  "일一佚佾壹日溢逸鎰馹泆軼 임任壬妊姙恁稔荏賃絍衽銋飪 입入卄廿 잉仍剩孕芿媵",
  "자仔刺咨姉姿子字孜恣慈滋炙煮玆瓷疵磁紫者自茨蔗藉諮資雌呰嬨孖孶柘泚牸眥眦粢耔胾茈茲莿虸觜訾貲赭鎡頿髭鮓鶿鷓",
  "작作勺嚼斫昨灼炸爵綽芍酌雀鵲岝怍斱柞汋焯犳碏 잔孱棧殘潺盞剗戔驏 잠岑暫潛箴簪蠶涔潜濳",
  "잡雜卡囃眨磼襍",
  "장丈仗匠場墻壯奬將帳庄張掌暲杖樟檣欌漿牆獐璋章粧腸臟臧莊葬蔣薔藏裝贓醬長障傽奘妝嬙嶂廧戕漳牂瘴糚羘萇装賬鄣鏘餦麞",
  "재再哉在宰才材栽梓渽滓災縡裁財載齋齎夈崽扗榟灾纔 쟁爭箏諍錚崢猙琤鎗",
  "저佇低儲咀姐底抵杵楮樗沮渚狙猪疽箸紵苧菹著藷詛貯躇這邸雎齟宁岨杼柢氐潴瀦牴罝羝苴蛆袛褚觝詆豬陼",
  "적勣吊嫡寂摘敵滴狄的積笛籍績翟荻謫賊赤跡蹟迪迹適鏑樀磧糴菂覿逖馰",
  "전佃佺傳全典前剪塡塼奠專展廛悛戰栓殿氈澱煎琠田甸畑癲筌箋箭篆纏詮輾轉鈿銓錢鐫電顚顫餞吮囀嫥屇巓戩揃旃栴槇湔澶牋瑱甎畋畠痊癜磚籛羶翦腆膞荃躔輇邅鄽鋑錪靛靦顓飦餰鬋鱣鸇",
  "절切截折浙癤竊節絶岊晢窃 점占岾店漸点粘霑鮎點佔墊玷笘簟苫蔪蛅覘颭黏 접接摺蝶椄楪蜨跕蹀鰈",
  "정丁井亭停偵呈姃定幀庭廷征情挺政整旌晶晸柾楨檉正汀淀淨渟湞瀞炡玎珽町睛碇禎程穽精綎艇訂諪貞鄭酊釘鉦鋌錠霆靖靜頂鼎佂叮婧婷怔掟桯梃棖灯珵疔筳莛証遉酲鋥靚",
  "제制劑啼堤帝弟悌提梯濟祭第臍薺製諸蹄醍除際霽題齊儕娣擠猘瑅睇禔稊緹踶蹏躋鍗隄韲鮧鯷",
  "조俎兆凋助嘲弔彫措操早晁曺曹朝條棗槽漕潮照燥爪璪眺祖祚租稠窕粗糟組繰肇藻蚤詔調趙躁造遭釣阻雕鳥佻傮刁厝嘈噪嬥徂懆找殂澡琱皁祧竈笊糙糶絩絛胙臊艚蔦蜩誂譟鈟銚鋽鯛鵰鼂",
  "족族簇足鏃瘯 존存尊拵 졸卒拙猝 종倧宗從悰慫棕淙琮種終綜縱腫踪踵鍾鐘伀慒柊椶樅瑽瘇粽螽蹤",
  "좌佐坐左座挫剉痤莝髽 죄罪",
  "주主住侏做姝胄呪周嗾奏宙州廚晝朱柱株注洲湊澍炷珠疇籌紂紬綢舟蛛註誅走躊輳週酎酒鑄駐丟侜儔尌幬拄硃籒肘腠蔟蛀裯詋賙趎輈遒鉒霌霔鼄",
  "죽竹粥 준俊儁准埈寯峻晙樽浚準濬焌畯竣蠢逡遵雋駿噂埻墫惷撙皴綧罇踆蹲鐏隼餕鱒鵔 줄茁乼",
  "중中仲衆重眾 즉卽即喞 즐櫛騭 즙楫汁葺檝蕺 증增憎曾拯烝甑症繒蒸證贈嶒矰罾",
  "지之只咫地址志持指摯支旨智枝枳止池沚漬知砥祉祗紙肢脂至芝芷蜘誌贄趾遲坻墀扺榰泜痣秪篪舐踟躓軹阯鮨鷙",
  "직直稙稷織職禝",
  "진唇嗔塵振搢晉晋桭榛殄津溱珍瑨璡畛疹盡眞瞋秦縉縝臻蔯袗診賑軫辰進鎭陣陳震侲儘珒稹蓁螴趁鉁鬒",
  "질侄叱姪嫉帙桎瓆疾秩窒膣蛭質跌迭垤絰蒺郅鑕 짐斟朕鴆 집執潗緝輯鏶集咠戢 징徵懲澄澂瀓癥瞪",
  "차且侘借叉嗟嵯差次此磋箚蹉車遮佽偖奓岔徣槎瑳硨 착捉搾着窄錯鑿齪戳擉斲",
  "찬撰澯燦璨瓚竄簒纂粲纘讚贊鑽餐饌儧儹劗巑攢欑爨趲 찰刹察擦札紮扎拶",
  "참僭參塹慘慙懺斬站讒讖儳叅嶄巉慚憯攙槧欃毚譖鏨鑱饞驂黲",
  "창倉倡創唱娼廠彰愴敞昌昶暢槍滄漲猖瘡窓脹艙菖蒼倀傖凔刱悵惝戧搶椙氅瑲窗窻蹌鋹錆閶鬯鶬",
  "채債埰寀寨彩採砦綵菜蔡采釵棌茝 책冊柵策責嘖幘磔笧簀蚱 처凄妻悽處淒萋褄覷郪",
  "척倜剔尺慽戚拓擲斥滌瘠脊蹠陟隻呎坧塉惕捗摭蜴跖躑",
  "천仟千喘天川擅泉淺玔穿舛薦賤踐遷釧闡阡韆俴倩僢儃洊濺瓩祆粁臶芊茜荐蒨蕆蚕辿靝",
  "철凸哲喆徹撤澈綴輟轍鐵剟啜埑惙掇歠銕錣飻餮 첨僉尖沾添甛瞻簽籤詹諂幨忝惉檐櫼瀸簷襜",
  "첩堞妾帖捷牒疊睫諜貼輒倢呫喋怗褺 청廳晴淸聽菁請靑鯖凊圊蜻鶄",
  "체剃替涕滯締諦逮遞體嚏彘棣殢砌蒂蔕蕞軆靆髰",
  "초初剿哨憔抄招梢椒楚樵炒焦硝礁礎秒稍肖艸苕草蕉貂超酢醋醮偢僬劭勦噍嫶岧峭嶕怊悄愀杪燋綃耖誚譙趠軺迢鈔鍫鍬鞘顦髫鷦齠",
  "촉促囑燭矗蜀觸曯爥矚薥躅髑 촌寸忖村邨吋 총叢塚寵悤憁摠總聰蔥銃葱蓯鏦騘驄 촬撮",
  "최催崔最嘬摧榱漼璀磪縗脧",
  "추墜抽推椎楸樞湫皺秋芻萩諏趨追鄒酋醜錐錘鎚雛騶鰍僦啾娵帚惆捶揫搥甃瘳龝箒箠簉縋縐蒭陬隹鞦騅魋鰌鵻鶖鶵麄麤",
  "축丑畜祝竺筑築縮蓄蹙蹴軸逐妯舳豖蹜鼀 춘春椿瑃 출出朮黜秫 충充忠沖蟲衝衷冲忡珫",
  "췌悴膵萃贅惴揣疩瘁顇 취取吹嘴娶就炊翠聚脆臭趣醉驟鷲冣橇毳 측側仄厠惻測廁昃 층層",
  "치侈値嗤峙幟恥梔治淄熾痔痴癡稚穉緇緻置致蚩輜雉馳齒卮哆寘巵畤痓絺菑薙褫豸跱錙阤鯔鴙鴟鵄",
  "칙則勅飭敕 친親櫬藽襯齔 칠七柒漆 침侵寢枕沈浸琛砧針鍼寖忱椹沉郴鋟駸 칩蟄 칭秤稱 쾌快噲夬",
  "타他咤唾墮妥惰打拖朶楕舵陀馱駝佗垞拕柁橢沱詫跎躱駞鮀鴕鼉",
  "탁倬卓啄坼托擢晫柝濁濯琢琸託鐸拆橐沰涿矺籜蘀踔逴 탄呑嘆坦彈憚歎灘炭綻誕憻攤殫癱驒 탈奪脫侻",
  "탐探眈耽貪嗿忐酖 탑塔搭榻傝塌搨 탕宕帑湯蕩燙盪碭蘯",
  "태兌台太怠態殆汰泰笞胎苔跆邰颱埭娧孡抬迨駄駘 택擇澤 탱撑撐牚 터攄 토兎吐土討 톤噋噸瓲",
  "통慟桶痛筒統通恫樋筩 퇴堆槌腿褪退頹隤 투偸套妬投透鬪妒渝骰 퉁佟 특慝特忒 틈闖",
  "파坡婆巴把播擺杷波派爬琶破罷芭跛頗叵妑岥怕灞爸玻皤笆簸耙菠葩鄱 판判坂板版瓣販辦鈑阪汴",
  "팔八叭捌朳汃 패佩唄悖敗沛浿牌狽稗覇貝孛旆珮霈霸 팽彭澎烹膨砰祊蟚蟛 퍅愎",
  "편便偏扁片篇編翩遍鞭騙匾徧惼緶艑萹蝙褊諞 폄貶砭窆 평坪平枰萍評怦抨泙苹蓱鮃",
  "폐吠嬖幣廢弊斃肺蔽閉陛敝狴獘癈",
  "포佈包匍匏咆哺圃布怖抛抱捕泡浦疱砲胞脯苞葡蒲袍褒逋鋪飽鮑儤庖晡曓炮炰舖誧鉋鞄餔鯆",
  "폭幅暴曝瀑爆 표俵剽彪慓杓標漂瓢票表豹飇飄驃僄勡嘌嫖摽殍熛縹裱鏢鑣髟鰾 품品稟禀",
  "풍楓諷豊風馮瘋葑 피彼披疲皮被避陂詖辟鞁髲 픽腷",
  "필匹弼必泌珌畢疋筆苾馝佖咇滭篳罼蓽觱蹕鞸韠駜鵯 핍乏逼偪",
  "하下何厦夏廈昰河瑕荷蝦賀遐霞鰕呀嚇岈懗煆瘕罅鍜 학壑學虐謔鶴狢瘧皬确郝鷽",
  "한寒恨悍旱汗漢澣瀚罕翰閑閒限韓僩嫺嫻捍暵閈駻鷳鼾 할割轄瞎",
  "함函含咸啣喊檻涵緘艦銜陷鹹莟菡諴轞闞 합合哈盒蛤閤闔陜匌嗑柙榼溘盍郃",
  "항亢伉姮嫦巷恒抗杭桁沆港缸肛航項夯恆炕缿頏",
  "해亥偕咳垓奚孩害懈楷海瀣蟹解該諧邂駭骸咍嶰廨欬獬瑎痎薤醢頦鮭 핵劾核翮覈 행倖幸杏荇行悻",
  "향享向嚮珦鄕響餉饗香薌 허噓墟虛許歔 헌憲櫶獻軒巚幰攇 헐歇 험險驗嶮獫玁 혁奕爀赫革弈洫焱鬩",
  "현俔峴弦懸晛泫炫玄玹現眩睍絃絢縣舷衒賢鉉顯儇嬛昡琄痃県繯翾蜆誢鋗駽 혈孑穴血頁絜趐 혐嫌",
  "협俠協夾峽挾浹狹脅脇莢鋏頰匧叶埉恊悏愜篋",
  "형亨兄刑型形泂滎瀅灐炯熒珩瑩荊螢衡逈邢鎣馨夐娙詗迥陘 혜兮彗惠慧暳蕙蹊醯鞋傒嘒寭徯槥盻謑譿",
  "호乎互呼壕壺好岵弧戶扈昊晧毫浩淏湖滸澔濠濩灝狐琥瑚瓠皓祜糊縞胡芦葫蒿虎號蝴護豪鎬頀顥儫冱嘷嫭嫮怙沍滈滬犒猢皜皞箎聕醐餬鬍",
  "혹惑或酷 혼婚昏混渾琿魂圂惛溷焜閽 홀忽惚笏囫 홍哄弘汞泓洪烘紅虹訌鴻晎澒篊鉷鬨",
  "화化和嬅樺火畵禍禾花華話譁貨靴俰嘩婲擭畫驊龢 확擴攫確碻穫矍矡礭鑊",
  "환丸喚奐宦幻患換歡晥桓渙煥環紈還驩鰥寰懽擐瓛皖睆絙豢轘鍰鐶鬟 활活滑猾豁闊蛞",
  "황凰幌徨恍惶愰慌晃晄榥況湟滉潢煌璜皇篁簧荒蝗遑隍黃喤媓怳瑝肓貺鎤",
  "회匯回廻徊恢悔懷晦會檜淮澮灰獪繪膾茴蛔誨賄佪栃洄滙盔詼迴頮鱠 획劃獲嚄 횡宖橫鐄澋鈜黌",
  "효哮嚆孝效斅曉梟涍淆爻肴酵驍傚囂崤殽熇皛虓餚",
  "후侯候厚后吼喉嗅帿後朽煦珝逅吽喣垕堠涸猴篌詡譃酗餱 훈勛勳塤壎焄熏燻薰訓暈曛爋獯纁葷鑂 훌欻",
  "훙薨 훤喧暄煊萱烜諠諼 훼卉喙毁燬芔虫虺 휘彙徽揮暉煇諱輝麾撝翬 휴休携烋畦虧咻擕隳髹鵂",
  "휼恤譎鷸卹 흉兇凶匈洶胸恟胷 흑黑 흔昕欣炘痕很忻掀焮訢釁 흘吃屹紇訖仡汔疙迄齕 흠欠欽歆廞",
  "흡吸恰洽翕噏歙潝翖 흥興 희僖凞喜噫囍姬嬉希憙憘戱晞曦熙熹熺犧禧稀羲咥唏嘻悕戲暿欷燹爔豨餼",
  "힐詰犵纈襭頡黠"]

end Han
end Collation
end YamlOrder
