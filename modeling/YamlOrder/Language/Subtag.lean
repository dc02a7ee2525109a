/-!
This module contains the subtags that language tags are made of. A list is written as words that are
separated by spaces.
-/

namespace YamlOrder
namespace Language
namespace Subtag

/-- The languages with a code of two letters. -/
def twoLetters : String :=
  "aa ab ae af ak am an ar as av ay az ba be bg bh bi bm bn bo br bs ca ce ch co cr cs cu cv cy " ++
  "da de dv dz ee el en eo es et eu fa ff fi fj fo fr fy ga gd gl gn gu gv ha he hi ho hr ht hu " ++
  "hy hz ia id ie ig ii ik in io is it iu iw ja ji jv jw ka kg ki kj kk kl km kn ko kr ks ku kv " ++
  "kw ky la lb lg li ln lo lt lu lv mg mh mi mk ml mn mo mr ms mt my na nb nd ne ng nl nn no nr " ++
  "nv ny oc oj om or os pa pi pl ps pt qu rm rn ro ru rw sa sc sd se sg sh si sk sl sm sn so sq " ++
  "sr ss st su sv sw ta te tg th ti tk tl tn to tr ts tt tw ty ug uk ur uz ve vi vo wa wo xh yi " ++
  "yo za zh zu"

/-- The languages with a code of three letters only: two letters, and then every third letter. -/
def threeLetters : String :=
  "aaabcdefghiklmnopqstuvwxz ababcdefghilmnopqrstuvwxyz acabdefhmnpqrstuvwxyz " ++
  "adabdefghijlnopqrstuwxyz aeabcdeklmnqrsuwyz afabdeghiknopsuz agabcdefghijklmnopqrstuvwxyz " ++
  "ahabghiklmnoprst aiabcdefgijklmnopqrstwxy ajaginptuwz akbcdefghiklopqrstuvwz " ++
  "alabcdefghijklmnopqrstuvwxyz amabcefgijkmnopqrstuvwxyz anabcdefghijklmnopqrstuvwxyz " ++
  "aoabcdefgijklmnrstxz apabcdefghijklmnoprstuvwxyz aqacdgklmnrtz arbcdehijklmnopqrstuvwxyz " ++
  "asabcdefghijklnopqrstuvwxyz atabcdeghijklmnopqrstuvwxyz auacdefghijklmnopqrstuwyz " ++
  "avbdiklmnostuv awabcdeghikmnorstuvwxy axbegklmx ayabcdeghiklnopqrstuxz azbcdgjmnotz " ++
  "baabcdefghijlnopqrstuvwxyz bbabcdefgijklmnopqrstuvwxy bcabcdefghijklmnopqrstuvwyz " ++
  "bdabcdefghijklmnopqrstuvwxyz beabcdefhijkmopqrstuvwxyz bfabcdefghijklmnopqstuwxyz " ++
  "bgabcdfgijmnopqrstuvwxyz bhabcdefghijklmnopqrstuvwyz biabcdefghklmnopqrtuvwxyz " ++
  "bjabcdfghijklmnopqrstuvwxyz bkabcdfghijklmnopqrstuvwxyz blabcdefghijkmnopqrstvwxyz " ++
  "bmabcdefghijklmnopqrsuvwxz bnabcdefgijkmnopqrstuvwxyz boabefghjklmnopqrtuvwxyz " ++
  "bpacdeghijklmopqrstuvwxyz bqabcdfgijklmnopqrstuvwxyz brabcdfghijklmnopqrstuvwxyz " ++
  "bsabcefhijklmnopqrstuvwxy btabcdefghijkmnopqrstuvwxyz buabcdefghijkmnopqrstuvwxyz " ++
  "bvabcdefghijklmnoqrtuvwxyz bwabcdefghijklmopqrstuwxyz bxabcfghijklmnopqrsuvwz " ++
  "byabcdefhijklmnprsvwxz bzabcdefhijklmnopqrstuvwxyz caabcdefghijklmnopqrsuvwxyz " ++
  "cbabcdgijklnoqrstuvwy cccdeghjlmnopqrs cdcdefhijmnorsz ceabgklnty cfadgm cgacgk " ++
  "chbdfghijklmnopqrtwxyz ciabcehmnprwy cjaehikmnoprsvy ckablmnoqrstuvxyz clacdehijklmostuwy " ++
  "cmacegiklnorst cnabcghiklpqrstwx coabcdefghjklmopqtuxyz cpabcefginopsuxy cqdu " ++
  "crabcdfghijklmnopqrstvwxyz csabcdefghjklmnopqrstuvwyz ctacdeghlmnopstuyz cuabchijklopstuvxy " ++
  "cvgn cwabdegt cxh cyabo czehknt daacdefghijklmopqrsuvwxyz dbabdefgijlmnopqtuvwy dccr " ++
  "ddadegijnorsw decdefghiklmnqrsvz dgabcdeghiklnorstwxz dhdgilmnorsuvwx " ++
  "diabcdfghijklnopqrstuwxyz djabcdefijklmnoruw dkagklrsx dlgmn dmabcdefgklmnorsuvwxy " ++
  "dnadegijknortuvwy doabcefhiklnopqrstvwxy dpp draceghilnoqrstuwy dsbehiklnoq dtabdhikmoprstuy " ++
  "duabcdefghijklmnopqrstuvwxyz dva dwaklrsuwyz dyabdgimnoruy dzadegln eaa ebcgkoru ecrsy efaei " ++
  "egalmoxy ehsu eiptv eja ekaegiklmopry elekmopux emabegikmnpsuwxz enabcdfhlmnoqrvwx eot epi " ++
  "eraghikrstw eseghiklmnosuxy etbhnorstuxz eudq evehn ewo ext eyao ezae faabdfghijklmnprtuxyz " ++
  "fbl fcs fer ffim fgr fiaeflprtuw fkkv flahilnry fmpu fnbgi fodimnrsx fpe fqs frcdekmopqrst " ++
  "fsels fubcdefhimnqrtuvy fvr fwae gaabcdefghijklmnopqrstuvwxyz gbabcdefghijklmnopqrsuvwxyz " ++
  "gccdflnrt gdbcdefghijklmnoqrstux geabcdfghijklmoqrsvwxyz gfkx ggabdegklnortuw ghaceknorst " ++
  "giabcdeghlmnopqrstxyz gjkmnru gkadenopu glbcdhijkloruw gmabdeghlmnqruvwxyz " ++
  "gnabcdeghijklmnoqrtuwz goabcdefghijklmnopqrstuvwxy gpaen gqanr grabcdeghijkmqrstuvwxyz " ++
  "gseglmnopsw gtaiu guabcdefghiklmnopqrstuvwxz gvacefjlmnoprsy gwabcdefgijmnrtuwx gxx " ++
  "gyabdefgilmnoryz gzain haabcdefghijklmnopqrsvwxyz hbabnosu hch hdnsy headghim hgmw hhiry " ++
  "hiabdfghijklmortwx hji hkaehks hlabdetu hmabdfjmnpqrstuvwxyz hnadeghijmnos " ++
  "hoabcdehijklmoprstvwy hpos hracekmoprtuwxz hsbhlns htiosux hubcdefghiklmprstuvwxyz hvceknv " ++
  "hwaco hyawx iainr ibabdeghilmnruy icaehlr idabcdeirstu ifabefkmuy igbeglmnosw ihbipw iinr " ++
  "ijcejnos ikehikloprstvwxz ilabgiklmopsuvw imilnorsty inbceghjlnopst ioruw ipio iquw " ++
  "iraehiknouxy isacdeghikmnortu itbcdeiklmorstvwxyz ium ivbv iwkmos ixcl iyaox izhimrz " ++
  "jaabcdefhjklmnoqrstuwxyz jbeijkmnortuw jcst jdagt jebeghiklnrtu jgbeko jhis jiabcdeglmtuvy " ++
  "jjer jkamosu jles jmabcdilnrswx jnadgijls jobdgrsw jparx jqr jrabrtu jsl juabdhiklmnoprstuwy " ++
  "jvdn jwi jyaey kaabcdghijkmopqrvwxy kbabcdeghijklmnopqrstuvwxyz kcabcdefghijklmnopqstuvwyz " ++
  "kdacdefghijklmnopqrtvwxyz keabcdefghiklmnorstuvwxyz kfabcdefghiklmnopqrsuvwxyz " ++
  "kgabcdefhijklmopqrstuvwxy khabcdefghijklnopqrstuvwxyz kiabcdefghjlmopqstuvwxyz " ++
  "kjabcdeghijklmnopqrstuxyz kkabcdefghijklmopqrstuvwxyz klabcdefghijklmnopqrstuvwxyz " ++
  "kmabcdefghijklmnopqrstuvwxyz knabcdefgijklmnopqrstuvwxyz koacdefghijklopqstuvwyz " ++
  "kpacdefghijklmnopqrstuvwxyz kqabcdefghijklmnopqrstuvwxyz krabcdefhijklmnoprstuvwxyz " ++
  "ksbcdefghijklmnopqrstuvwxz ktabcdefghijklmnopqrstuvwxyz kubcdefghijklmnopqstuvwxyz " ++
  "kvabcdefghijklmnopqrstvwxyz kwabcdefghijklmnopqrstuvwxyz kxabcdefijklmnopqrtvwxyz " ++
  "kyabcdefghijklmnoqrstuvwxyz kzabcdefhijklmnoprstuvwxyz laabcdeghijklmnpqrsuwxz " ++
  "lbbefijklmnoqrstuvwxyz lccdefhlmpqs ldabdghijklmnopq leabcdefghijklmnopqrstuvwxyz lfan " ++
  "lgabghiklmnoqrtuz lhahimnstu liabcdefghijklopqrsuvwxyz ljaeilpwx lkabcdehijlmnorstuy " ++
  "llabcdefgijklmnopqsux lmabcdefghijklmnopqruvwxy lnabdghijlmnsuwz loabceghijklmnopqrstuwxyz " ++
  "lpaenox lqr lracgiklmnortvz lsadeilmnoprstvwy ltcghinosu luacdefhijklmnopqrstuvwyz lvaiklsu " ++
  "lwaeghlmostw lxm lyan lzhlnz maabcdefgijkmnopqstuvwxyz mbabcdfhijklmnopqrstuvwxyz " ++
  "mcabcdefghijklmnopqrstuvwxyz mdabcdefghijklmnpqrstuvwxyz meabcdeghjklmnopqrstuvwyz " ++
  "mfabcdefghijklmnopqrstuvwxyz mgabcdefghijklmnopqrstuvwxyz mhbcdefgijklmnopqrstuwxyz " ++
  "miabcdefghijklmnopqrstuwxyz mjbcdeghijklmnqrstuvwxyz mkabcefhijklmnoprstvwxyz " ++
  "mlabcefhijklnoprsuvwxz mmabcdefghimnopqrtuvwxyz mnabcdefghijklmnopqrstuvwxyz " ++
  "moacdefghijklmopqrstuvwxyz mpabcdeghijklmnopqrstuvwxyz mqabcefghijklmnopqrstuvwxyz " ++
  "mrabcdefghjklmnopqrstuvwxyz msbdefghijklmnopqrstuvwxyz mtabcdefghijklmnopqrstuvwxy " ++
  "muabcdeghijklmnopqrstuvxyz mvadefghklnopqrstuvwxyz mwabcdefghijklmnopqrstuvwz " ++
  "mxabcdefghijklmnopqrstuvwxyz mybcdefghjklmnprtuvwxyz mzabcdeghijklmnopqrtuvwxyz " ++
  "naabcdefghijklmnopqrstwxyz nbabcdefhijkmnopqrstuvwxy ncabcdefghijklmnopqrstuxz " ++
  "ndabcdfghijklmnpqrstuvwxyz neabcdeghijkmnoqrtuwxyz nfadlru ngabcdefghijklmnpqrstuvwxyz " ++
  "nhabcdefgikmnopqrtuvwxyz niabcdefghijlmnoqrstuvwxyz njabdhijlmnorstuxyz " ++
  "nkabcdefghijkmnoqrstuvwxz nlacegijkmnoqruvwxyz nmabcdefghijklmnopqrstuvwxz " ++
  "nnabcdefghijklmnpqrstuvwxyz noacdefghijkmnopqstuvwy npbghilnosuxy nqgklmnoqty " ++
  "nrabefgiklmnpuxz nsabcdefghiklmnopqrstuvwxyz ntdegijkmoprsuxyz nuabcdefghijkmnopqrstuvwxyz " ++
  "nvhmo nwbcegimorwx nxadegiklnoqrux nybcdefghijklmnopqrstuvwxy nzabdikmrsuyz oaacrv " ++
  "obiklmortu ocahou odaktu ofsu ogbcgou ohtu oiaen ojbcgsvw okabcdegiklmorsuvxz oladekmortu " ++
  "omabcgiklopqrtuvwx onaegijknoprstux oodnr opakmoty oracegnorstuvwxyz osacioptux " ++
  "otabdeiklmnoqrstuwxyz oubeimn ovd owil oybdmy ozm paabcdefghiklmopqrstuvwxyz " ++
  "pbbcefghilmnoprstuvy pcabcdefghijkmnprw pdacnotu peabdegiklmopqrsvxyz pfael pgadgiklnsuz " ++
  "phdghiklmnortuvw piabcdfghjlmnoprstuvwxyz pjt pkabghnoprsu plabcdefghklnorstuvwz " ++
  "pmabcdefhijklmnoqrstuwxyz pnabcdeghijklmnopqrstvwyz pocefghikmnopqstvwyz ppaeiklmnopqrst " ++
  "pqaemw pracdefghiklmopqrstuwxyz psacdeghilmnopqrstuw ptahinoprtuv puabcdefgijmopqrtuwxyz " ++
  "pwabgmnorw pxm pyemnsuxy pzehn quabcdfghiklmnpqrsvwxyz qvacehijlmnopswz qwacehmst " ++
  "qxachlnopqrtuw qyap raabcdfghijkmnopqrsvwxyz rbbklp rcf rdb reabegijlmnsty rganrsu rhgp " ++
  "riabflmnrtu rjgis rkabhimtw rmabcdefghiklmnopqrstuwxyz rnbdglnrw roabcdefglmopruw rpnt " ++
  "rrimot rsiklmnw rtchmw rubcefgikmopqtuyz rwaklmor rxdw ryu saabcdefhijklmopqrstuvwxyz " ++
  "sbabcdeghijklmnopqrstuvwxyz scabcefghiklnoprstuvwx sdabcefghjklnoqrsuvx " ++
  "seabcdefghijklmnopqrstuvwyz sfbemsw sgabcdeghijlmnprstuwxyz shabcdeghijkmnopqrstuvwyz " ++
  "siabdefghijklmopqrstuvwxyz sjabcdeglmnprtuw skabcdefghijkmnopqrstuvwxyz " ++
  "slacdfghijlmnoprsuwxyz smabcdfghijklnpqrstuwxyz snbcefgijklmnopqrsuvwxyz " ++
  "soabcdegiklnopqrsuvwxyz spbcdegiklmnopqrstvy sqahjkmoqstux srabcefghiklmnoqrstuvwxyz " ++
  "ssabcdefghjlmnopqrstuvxyz stabefghijklmnopqrstuvwy suabcegijklmoqrstvwxyz svabcekms " ++
  "swbcfghijklmopqrstuvwxy sxbenrsuw syabcdiklmnorswxy szabcdglnpsvwy taabcdefgijklnopqrsuvwxyz " ++
  "tbacdefghijklmnopqstuvwxyz tcabcdefghikmnopqsuwxyz tdabcdefghijklmnoqrstuvxy " ++
  "teabcdeghikmnopqrstuvwxyz tfinort tgabcdefghijlnopqstuvwxyz thcdefhiklmpqrstuvwxyz " ++
  "tibcdefghijklmnopqstuvwxy tjagijlnopsuw tkabdefgklpqrstuvwxz tlabcdfghijklmnpqrstuvwxy " ++
  "tmabcdefghijklmnopqrtuvwyz tnabcdefghiklmnopqrstvwxy tobcdfghijklmopqrsuvwxyz " ++
  "tpacefgijklmnoprtuvwxyz tqblmnoptuw trabcefghijklmnopqrstuvwxyz tsabcdefghijlmpqrstuvwxyz " ++
  "ttbcdefhijklmnopqrstuvwyz tuabcdefghijlmnopqstuvwxyz tvadeiklmnostuwx twabdefghlmnopqrtuwxy " ++
  "txaegijmnoqstuxy tyaehijlnprstuvxyz tzahjlmnox uamr ubailruy udaegijlmu ues ufi ugabehnoy " ++
  "uhan uisv uji ukaghiklpqsuvwy ulabcefikmnuwy umabdgimnoprsu unaegikmnpruxz uokn upiv " ++
  "urabcefghijkmnoprtuvwxyz usahikpsu utaehpru uumr uvehl uwa uya uzns vaaefghijlmnoprsuvy vbbk " ++
  "vecmopr vgrt vicdfglntv vjk vkajklmnoptuz vlps vmabcdefghijklmpqrsuwxyz vnkmp vort vraost " ++
  "vsilv vto vumnt vwa waabcdefghijklmnpqrstuvwxyz wbabefhijklmpqrstvw wcai wddgjktuy " ++
  "wecdghilmnoprstuw wfg wgabgiouwy whagku wibcefghijklmnrtuvwy wjai wkadrwy wlaeghimorsuvwx " ++
  "wmabcdehimnostwx wnbcdegikmnopuwy woabcdefgikmnorsw wpc wrbghiklmoprsuvwxz wsagikrsuv " ++
  "wtbfhikmw wuabdlmnrtuvxy wwaborw wxw wybimnry xaabcdegijklmnopqrstuvwy xbabcdegijmnoprwxy " ++
  "xcbceghlmnortuvwy xdackmoqy xebdglmprstu xfa xgabdfgilmnruw xhacdemrtuv xiabilnprsvy xjbt " ++
  "xkabcdefghijklnopqrstuvwxyz xlabcdeginopsuy xmabcdefghjklmnopqrstuvwxyz xnabdghijkmnoqrstuyz " ++
  "xocdgikmnoprw xpabcdefghijklmnopqrstuvwxyz xqat xrabdegimnqrtuw xsabcdehijlmnopqrsuvy " ++
  "xtabcdeghijlmnopqrstuvwyz xuabdgjlmnoprtu xveinos xwacdegjklortw xxbkmrt xyabjklty xzhmp " ++
  "yaabcdefghijklmnopqrstuvwxyz ybabdehijlmnoxy yclnr ydadegks yeaceijlnrstuvy ygailmprsuw yhds " ++
  "yiaghijlmrsvy ykaghikmory ylabegilruy ymabegklmnopt ynabdgklqsu yobgiklmnsty ypk " ++
  "yrabeklmoswy ysdlmnprsy ytwy yuabcdefgijlmnpqrtuwxz yvat ywagnqruw yxaglmuy yyru " ++
  "zaabcdefghijkmopqrstuvwxyz zbaceltuw zcah zdj zeaghmn zgabhmnr zhdinwx ziabklmnrwz " ++
  "zkabdoptuz zlaejmnqsuw zmabcdefghijklmnopqrstuvwxyz znadegks zochmoqrs " ++
  "zpabcdefghijklmnopqrstuvwxyz zqe zrgnops zsalmru zteglmnpqstuxy zuhmny zwa zxx zybgjnp zzaj"

/-- Codes of three letters, each followed by the code of two letters for the same language. -/
def longCodes : String :=
  "aaraa abkab afraf akaak amham araar argan asmas avaav aveae aymay azeaz bakba bambm belbe " ++
  "benbn bisbi bodbo bosbs brebr bulbg catca cescs chach chece chucu chvcv corkw cosco crecr " ++
  "cymcy danda deude divdv dzodz ellel engen epoeo estet euseu eweee faofo fasfa fijfj finfi " ++
  "frafr fryfy fulff glagd glega glggl glvgv grngn gujgu hatht hauha hebhe herhz hinhi hmoho " ++
  "hrvhr hunhu hyehy iboig idoio iiiii ikuiu ileie inaia indid ipkik islis itait javjv jpnja " ++
  "kalkl kankn kasks katka kaukr kazkk khmkm kikki kinrw kirky komkv konkg korko kuakj kurku " ++
  "laolo latla lavlv limli linln litlt ltzlb lublu luglg mahmh malml marmr mkdmk mlgmg mltmt " ++
  "monmn mrimi msams myamy nauna navnv nblnr ndend ndong nepne nldnl nnonn nobnb norno nyany " ++
  "ocioc ojioj orior ormom ossos panpa plipi polpl porpt pusps quequ rohrm ronro runrn rusru " ++
  "sagsg sansa sinsi slksk slvsl smese smosm snasn sndsd somso sotst spaes sqisq srdsc srpsr " ++
  "sswss sunsu swasw swesv tahty tamta tattt telte tgktg thath tirti tonto tsntn tsots tuktk " ++
  "turtr twitw uigug ukruk urdur uzbuz venve vievi volvo wlnwa wolwo xhoxh yidyi yoryo zhaza " ++
  "zhozh zulzu"

/-- The scripts. -/
def scripts : String :=
  "Adlm Afak Aghb Ahom Arab Aran Armi Armn Avst Bali Bamu Bass Batk Beng Berf Bhks Blis Bopo " ++
  "Brah Brai Bugi Buhd Cakm Cans Cari Cham Cher Chrs Cirt Copt Cpmn Cprt Cyrl Cyrs Deva Diak " ++
  "Dogr Dsrt Dupl Egyd Egyh Egyp Elba Elym Ethi Gara Geok Geor Glag Gong Gonm Goth Gran Grek " ++
  "Gujr Gukh Guru Hanb Hang Hani Hano Hans Hant Hatr Hebr Hira Hluw Hmng Hmnp Hrkt Hung Inds " ++
  "Ital Jamo Java Jpan Jurc Kali Kana Kawi Khar Khmr Khoj Kits Knda Kore Kpel Krai Kthi Lana " ++
  "Laoo Latf Latg Latn Lepc Limb Lina Linb Lisu Loma Lyci Lydi Mahj Maka Mand Mani Marc Maya " ++
  "Medf Mend Merc Mero Mlym Modi Mong Moon Mroo Mtei Mult Mymr Nagm Nand Narb Nbat Newa Nkgb " ++
  "Nkoo Nshu Ogam Olck Onao Orkh Orya Osge Osma Ougr Palm Pauc Perm Phag Phli Phlp Phlv Phnx " ++
  "Plrd Prti Qaag Rjng Rohg Roro Runr Samr Sara Sarb Saur Sgnw Shaw Shrd Sidd Sidt Sind Sinh " ++
  "Sogd Sogo Sora Soyo Sund Sunu Sylo Syrc Syre Syrj Syrn Tagb Takr Tale Talu Taml Tang Tavt " ++
  "Tayo Telu Teng Tfng Tglg Thaa Thai Tibt Tirh Tnsa Todr Tols Toto Tutg Ugar Vaii Visp Vith " ++
  "Wara Wcho Wole Xpeo Xsux Yezi Yiii Zanb Zinh Zmth Zsye Zsym Zxxx Zyyy Zzzz"

/-- The regions with a code of two letters. -/
def regions : String :=
  "AA AC AD AE AF AG AI AL AM AN AO AQ AR AS AT AU AW AX AZ BA BB BD BE BF BG BH BI BJ BL BM BN " ++
  "BO BQ BR BS BT BU BV BW BY BZ CA CC CD CF CG CH CI CK CL CM CN CO CP CQ CR CS CU CV CW CX CY " ++
  "CZ DD DE DG DJ DK DM DO DY DZ EA EC EE EG EH ER ES ET EU EZ FI FJ FK FM FO FR FX GA GB GD GE " ++
  "GF GG GH GI GL GM GN GP GQ GR GS GT GU GW GY HK HM HN HR HT HU HV IC ID IE IL IM IN IO IQ IR " ++
  "IS IT JE JM JO JP KE KG KH KI KM KN KP KR KW KY KZ LA LB LC LI LK LR LS LT LU LV LY MA MC MD " ++
  "ME MF MG MH MK ML MM MN MO MP MQ MR MS MT MU MV MW MX MY MZ NA NC NE NF NG NH NI NL NO NP NR " ++
  "NU NZ OM PA PE PF PG PH PK PL PM PN PR PS PT PW PY QA QM QN QO QP QQ QR QS QT QU QV QW QX QY " ++
  "QZ RE RH RO RS RU RW SA SB SC SD SE SG SH SI SJ SK SL SM SN SO SR SS ST SU SV SX SY SZ TA TC " ++
  "TD TF TG TH TJ TK TL TM TN TO TP TR TT TV TW TZ UA UG UK UM UN US UY UZ VA VC VD VE VG VI VN " ++
  "VU WF WS XA XB XC XD XE XF XG XH XI XJ XK XL XM XN XO XP XQ XR XS XT XU XV XW XX XY XZ YD YE " ++
  "YT YU ZA ZM ZR ZW ZZ"

/-- Codes of three letters, each followed by the code of two letters for the same region. -/
def longRegions : String :=
  "ANDAD AREAE AFGAF ATGAG AIAAI ALBAL ARMAM AGOAO ATAAQ ARGAR ASMAS AUTAT AUSAU ABWAW ALAAX " ++
  "AZEAZ BIHBA BRBBB BGDBD BELBE BFABF BGRBG BHRBH BDIBI BENBJ BLMBL BMUBM BRNBN BOLBO BESBQ " ++
  "BRABR BHSBS BTNBT BVTBV BWABW BLRBY BLZBZ CANCA CCKCC CODCD CAFCF COGCG CHECH CIVCI COKCK " ++
  "CHLCL CMRCM CHNCN COLCO CRICR CUBCU CPVCV CUWCW CXRCX CYPCY CZECZ DEUDE DJIDJ DNKDK DMADM " ++
  "DOMDO DZADZ ECUEC ESTEE EGYEG ESHEH ERIER ESPES ETHET FINFI FJIFJ FLKFK FSMFM FROFO FRAFR " ++
  "GABGA GBRGB GRDGD GEOGE GUFGF GGYGG GHAGH GIBGI GRLGL GMBGM GINGN GLPGP GNQGQ GRCGR SGSGS " ++
  "GTMGT GUMGU GNBGW GUYGY HKGHK HMDHM HNDHN HRVHR HTIHT HUNHU IDNID IRLIE ISRIL IMNIM INDIN " ++
  "IOTIO IRQIQ IRNIR ISLIS ITAIT JEYJE JAMJM JORJO JPNJP KENKE KGZKG KHMKH KIRKI COMKM KNAKN " ++
  "PRKKP KORKR KWTKW CYMKY KAZKZ LAOLA LBNLB LCALC LIELI LKALK LBRLR LSOLS LTULT LUXLU LVALV " ++
  "LBYLY MARMA MCOMC MDAMD MNEME MAFMF MDGMG MHLMH MKDMK MLIML MMRMM MNGMN MACMO MNPMP MTQMQ " ++
  "MRTMR MSRMS MLTMT MUSMU MDVMV MWIMW MEXMX MYSMY MOZMZ NAMNA NCLNC NERNE NFKNF NGANG NICNI " ++
  "NLDNL NORNO NPLNP NRUNR NIUNU NZLNZ OMNOM PANPA PERPE PYFPF PNGPG PHLPH PAKPK POLPL SPMPM " ++
  "PCNPN PRIPR PSEPS PRTPT PLWPW PRYPY QATQA REURE ROURO SRBRS RUSRU RWARW SAUSA SLBSB SYCSC " ++
  "SDNSD SWESE SGPSG SHNSH SVNSI SJMSJ SVKSK SLESL SMRSM SENSN SOMSO SURSR SSDSS STPST SLVSV " ++
  "SXMSX SYRSY SWZSZ TCATC TCDTD ATFTF TGOTG THATH TJKTJ TKLTK TLSTL TKMTM TUNTN TONTO TURTR " ++
  "TTOTT TUVTV TWNTW TZATZ UKRUA UGAUG UMIUM USAUS URYUY UZBUZ VATVA VCTVC VENVE VGBVG VIRVI " ++
  "VNMVN VUTVU WLFWF WSMWS YEMYE MYTYT ZAFZA ZMBZM ZWEZW"

/-- Codes of three digits, each followed by the code of two letters for the same region. -/
def numericRegions : String :=
  "004AF 008AL 010AQ 012DZ 016AS 020AD 024AO 028AG 031AZ 032AR 036AU 040AT 044BS 048BH 050BD " ++
  "051AM 052BB 056BE 060BM 064BT 068BO 070BA 072BW 074BV 076BR 084BZ 086IO 090SB 092VG 096BN " ++
  "100BG 104MM 108BI 112BY 116KH 120CM 124CA 132CV 136KY 140CF 144LK 148TD 152CL 156CN 158TW " ++
  "162CX 166CC 170CO 174KM 175YT 178CG 180CD 184CK 188CR 191HR 192CU 196CY 203CZ 204BJ 208DK " ++
  "212DM 214DO 218EC 222SV 226GQ 231ET 232ER 233EE 234FO 238FK 239GS 242FJ 246FI 248AX 250FR " ++
  "254GF 258PF 260TF 262DJ 266GA 268GE 270GM 275PS 276DE 288GH 292GI 296KI 300GR 304GL 308GD " ++
  "312GP 316GU 320GT 324GN 328GY 332HT 334HM 336VA 340HN 344HK 348HU 352IS 356IN 360ID 364IR " ++
  "368IQ 372IE 376IL 380IT 384CI 388JM 392JP 398KZ 400JO 404KE 408KP 410KR 414KW 417KG 418LA " ++
  "422LB 426LS 428LV 430LR 434LY 438LI 440LT 442LU 446MO 450MG 454MW 458MY 462MV 466ML 470MT " ++
  "474MQ 478MR 480MU 484MX 492MC 496MN 498MD 499ME 500MS 504MA 508MZ 512OM 516NA 520NR 524NP " ++
  "528NL 531CW 533AW 534SX 535BQ 540NC 548VU 554NZ 558NI 562NE 566NG 570NU 574NF 578NO 580MP " ++
  "581UM 583FM 584MH 585PW 586PK 591PA 598PG 600PY 604PE 608PH 612PN 616PL 620PT 624GW 626TL " ++
  "630PR 634QA 638RE 642RO 643RU 646RW 652BL 654SH 659KN 660AI 662LC 663MF 666PM 670VC 674SM " ++
  "678ST 682SA 686SN 688RS 690SC 694SL 702SG 703SK 704VN 705SI 706SO 710ZA 716ZW 724ES 728SS " ++
  "729SD 732EH 740SR 744SJ 748SZ 752SE 756CH 760SY 762TJ 764TH 768TG 772TK 776TO 780TT 784AE " ++
  "788TN 792TR 795TM 796TC 798TV 800UG 804UA 807MK 818EG 826GB 831GG 832JE 833IM 834TZ 840US " ++
  "850VI 854BF 858UY 860UZ 862VE 876WF 882WS 887YE 894ZM 958AA 959QM 960QN 961QO 962QP 963QQ " ++
  "964QR 965QS 966QT 967EU 968QV 969QW 970QX 971QY 972QZ 973XA 974XB 975XC 976XD 977XE 978XF " ++
  "979XG 980XH 981XI 982XJ 983XK 984XL 985XM 986XN 987XO 988XP 989XQ 990XR 991XS 992XT 993XU " ++
  "994XV 995XW 996XX 997XY 998XZ 999ZZ"

/-- The regions with a code of three digits only. -/
def areas : String :=
  "001 002 003 005 009 011 013 014 015 017 018 019 021 029 030 034 035 039 053 054 057 061 142 " ++
  "143 145 150 151 154 155 202 419"

/--
The variants in the order in which they are written: those that build on another one come after the
others, and those that suit any language come last.
-/
def variants : String :=
  "1606nict 1694acad 1901 1959acad 1996 abl1943 akuapem aluku ao1990 aranes arevela arevmda " ++
  "arkaika asante auvern baku1926 balanka barla basiceng bauddha bciav bcizbl biscayan bohoric " ++
  "boont bornholm cisaup colb1945 cornu creiss dajnko ekavsk emodeng gallo gascon grclass " ++
  "grital grmistr hepburn hognorsk hsistemo ijekavsk itihasa ivanchov jauer jyutping kkcor " ++
  "kociewie kscor laukika lemosin lengadoc ltg1929 ltg2007 luna1918 metelko monoton ndyuka " ++
  "nedis newfound nicard nulik oxendict pahawh2 pahawh3 pahawh4 pamaka peano petr1708 pinyin " ++
  "polyton provenc puter rigik rozaj rumgr scotland scouse sotav spanglis surmiran sursilv " ++
  "sutsilv synnejyl tarask tongyong tunumiis uccor ucrcor ulster unifon vaidika valencia " ++
  "vallader vecdruka vivarau wadegile xsistemo biske lipaw njiva osojs solba 1994 heploc " ++
  "alalc97 fonipa fonkirsh fonnapa fonupa fonxsamp simple"

/-- Codes that are no longer used and what is used in their place. -/
def replaced : List (String × String) := [
  ("aam", "aas"), ("adp", "dz"), ("alb", "sq"), ("arm", "hy"), ("aue", "ktz"), ("ayx", "nun"),
  ("baq", "eu"), ("bgm", "bcg"), ("bh", "bho"), ("bjd", "drl"), ("bur", "my"), ("ccq", "rki"),
  ("chi", "zh"), ("cjr", "mom"), ("cka", "cmr"), ("cmk", "xch"), ("coy", "pij"), ("cqu", "quh"),
  ("cze", "cs"), ("drh", "khk"), ("drw", "fa"), ("dut", "nl"), ("fre", "fr"), ("gav", "dev"),
  ("geo", "ka"), ("ger", "de"), ("gfx", "vaj"), ("ggn", "gvr"), ("gre", "el"), ("gti", "nyc"),
  ("guv", "duz"), ("hbs", "sr-Latn"), ("hrr", "jal"), ("ibi", "opa"), ("ice", "is"), ("ilw", "gal"),
  ("in", "id"), ("iw", "he"), ("jeg", "oyb"), ("ji", "yi"), ("jw", "jv"), ("kgc", "tdf"),
  ("kgh", "kml"), ("koj", "kwv"), ("krm", "bmf"), ("ktr", "dtp"), ("kvs", "gdj"), ("kwq", "yam"),
  ("kxe", "tvd"), ("kzj", "dtp"), ("kzt", "dtp"), ("lii", "raq"), ("lmm", "rmx"), ("mac", "mk"),
  ("mao", "mi"), ("may", "ms"), ("meg", "cir"), ("mo", "ro-MD"), ("mol", "ro-MD"), ("mst", "mry"),
  ("mwj", "vaj"), ("myt", "mry"), ("nad", "xny"), ("ncp", "kdz"), ("nnx", "ngv"), ("nts", "pij"),
  ("oun", "vaj"), ("pcr", "adx"), ("per", "fa"), ("pmc", "huw"), ("pmu", "phr"), ("ppa", "bfy"),
  ("ppr", "lcq"), ("prs", "fa"), ("pry", "prt"), ("puz", "pub"), ("rum", "ro"), ("sca", "hle"),
  ("scc", "sr"), ("scr", "hr"), ("sh", "sr-Latn"), ("skk", "oyb"), ("slo", "sk"), ("swc", "sw"),
  ("tdu", "dtp"), ("tgl", "fil"), ("thc", "tpo"), ("thx", "oyb"), ("tib", "bo"), ("tie", "ras"),
  ("tkk", "twm"), ("tl", "fil"), ("tlw", "weo"), ("tmp", "tyj"), ("tne", "kak"), ("tnf", "fa"),
  ("tsf", "taj"), ("uok", "ema"), ("wel", "cy"), ("xba", "cax"), ("xia", "acn"), ("xkh", "waw"),
  ("xsj", "suj"), ("ybd", "rki"), ("yma", "lrr"), ("ymt", "mtm"), ("yos", "zom"), ("yuu", "yug")]

/-- Regions that are no longer there, each followed by the region that has taken its place. -/
def replacedRegions : String :=
  "BUMM DDDE DYBJ FXFR HVBF NHVU QUEU RHZW TPTL UKGB VDVN YDYE ZRCD"

/-- Tags that do not follow the rules, or are replaced as a whole. -/
def irregular : List (String × String) := [
  ("art-lojban", "jbo"), ("cel-gaulish", "xtg-x-cel-gaulish"), ("en-gb-oed", "en-GB-oxendict"),
  ("en-us-posix", "en-US-u-va-posix"), ("i-ami", "ami"), ("i-bnn", "bnn"),
  ("i-default", "en-x-i-default"),
  ("i-enochian", "und-x-i-enochian"), ("i-hak", "hak"), ("i-klingon", "tlh"), ("i-lux", "lb"),
  ("i-mingo", "see-x-i-mingo"), ("i-navajo", "nv"), ("i-pwn", "pwn"), ("i-tao", "tao"),
  ("i-tay", "tay"),
  ("i-tsu", "tsu"), ("no-bok", "nb"), ("no-nyn", "nn"), ("root", "und"), ("sgn-be-fr", "sfb"),
  ("sgn-be-nl", "vgt"), ("sgn-ch-de", "sgg"), ("zh-guoyu", "cmn"), ("zh-hakka", "hak"),
  ("zh-min", "nan-x-zh-min"), ("zh-min-nan", "nan"), ("zh-xiang", "hsn")]

/-- The words of a list that is separated by spaces. -/
def has (list word : String) : Bool := (list.splitOn " ").contains word

/-- The rest of the word of a list that starts with a code. -/
def restOf? (list code : String) : Option String :=
  ((list.splitOn " ").find? fun word => code.toList.isPrefixOf word.toList).map fun word =>
    String.ofList (word.toList.drop code.length)

/-- Whether a code of three letters is that of a language. -/
def isLanguage (code : String) : Bool :=
  match restOf? threeLetters (String.ofList (code.toList.take 2)) with
  | some letters => (code.toList.drop 2).all letters.toList.contains
  | none => false

/-- The place of a variant in their order. -/
def variantPlace? (word : String) : Option Nat := (variants.splitOn " ").idxOf? word

end Subtag
end Language
end YamlOrder
