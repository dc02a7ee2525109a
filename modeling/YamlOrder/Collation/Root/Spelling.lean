/-!
This module contains the characters that are a letter with marks, spelled out, and the classes of
marks, which say in what order several marks on one letter are taken.

Words are a character and what it is spelled as; lists of characters are in the short form of the
module on the common order.
-/

namespace YamlOrder
namespace Collation
namespace Root

/-- The characters that mean the same as a letter with marks, or as another character. -/
def spellings : List String := [
  "ÀA\u0300 ÁA\u0301 ÂA\u0302 ÃA\u0303 ÄA\u0308 ÅA\u030a ÇC\u0327 ÈE\u0300 ÉE\u0301",
  "ÊE\u0302 ËE\u0308 ÌI\u0300 ÍI\u0301 ÎI\u0302 ÏI\u0308 ÑN\u0303 ÒO\u0300 ÓO\u0301",
  "ÔO\u0302 ÕO\u0303 ÖO\u0308 ÙU\u0300 ÚU\u0301 ÛU\u0302 ÜU\u0308 ÝY\u0301 àa\u0300",
  "áa\u0301 âa\u0302 ãa\u0303 äa\u0308 åa\u030a çc\u0327 èe\u0300 ée\u0301 êe\u0302",
  "ëe\u0308 ìi\u0300 íi\u0301 îi\u0302 ïi\u0308 ñn\u0303 òo\u0300 óo\u0301 ôo\u0302",
  "õo\u0303 öo\u0308 ùu\u0300 úu\u0301 ûu\u0302 üu\u0308 ýy\u0301 ÿy\u0308 ĀA\u0304",
  "āa\u0304 ĂA\u0306 ăa\u0306 ĄA\u0328 ąa\u0328 ĆC\u0301 ćc\u0301 ĈC\u0302 ĉc\u0302",
  "ĊC\u0307 ċc\u0307 ČC\u030c čc\u030c ĎD\u030c ďd\u030c ĒE\u0304 ēe\u0304 ĔE\u0306",
  "ĕe\u0306 ĖE\u0307 ėe\u0307 ĘE\u0328 ęe\u0328 ĚE\u030c ěe\u030c ĜG\u0302 ĝg\u0302",
  "ĞG\u0306 ğg\u0306 ĠG\u0307 ġg\u0307 ĢG\u0327 ģg\u0327 ĤH\u0302 ĥh\u0302 ĨI\u0303",
  "ĩi\u0303 ĪI\u0304 īi\u0304 ĬI\u0306 ĭi\u0306 ĮI\u0328 įi\u0328 İI\u0307 ĴJ\u0302",
  "ĵj\u0302 ĶK\u0327 ķk\u0327 ĹL\u0301 ĺl\u0301 ĻL\u0327 ļl\u0327 ĽL\u030c ľl\u030c",
  "ŃN\u0301 ńn\u0301 ŅN\u0327 ņn\u0327 ŇN\u030c ňn\u030c ŌO\u0304 ōo\u0304 ŎO\u0306",
  "ŏo\u0306 ŐO\u030b őo\u030b ŔR\u0301 ŕr\u0301 ŖR\u0327 ŗr\u0327 ŘR\u030c řr\u030c",
  "ŚS\u0301 śs\u0301 ŜS\u0302 ŝs\u0302 ŞS\u0327 şs\u0327 ŠS\u030c šs\u030c ŢT\u0327",
  "ţt\u0327 ŤT\u030c ťt\u030c ŨU\u0303 ũu\u0303 ŪU\u0304 ūu\u0304 ŬU\u0306 ŭu\u0306",
  "ŮU\u030a ůu\u030a ŰU\u030b űu\u030b ŲU\u0328 ųu\u0328 ŴW\u0302 ŵw\u0302 ŶY\u0302",
  "ŷy\u0302 ŸY\u0308 ŹZ\u0301 źz\u0301 ŻZ\u0307 żz\u0307 ŽZ\u030c žz\u030c ƠO\u031b",
  "ơo\u031b ƯU\u031b ưu\u031b ǍA\u030c ǎa\u030c ǏI\u030c ǐi\u030c ǑO\u030c ǒo\u030c",
  "ǓU\u030c ǔu\u030c ǕU\u0308\u0304 ǖu\u0308\u0304 ǗU\u0308\u0301 ǘu\u0308\u0301",
  "ǙU\u0308\u030c ǚu\u0308\u030c ǛU\u0308\u0300 ǜu\u0308\u0300 ǞA\u0308\u0304",
  "ǟa\u0308\u0304 ǠA\u0307\u0304 ǡa\u0307\u0304 ǢÆ\u0304 ǣæ\u0304 ǦG\u030c ǧg\u030c",
  "ǨK\u030c ǩk\u030c ǪO\u0328 ǫo\u0328 ǬO\u0328\u0304 ǭo\u0328\u0304 ǮƷ\u030c ǯʒ\u030c",
  "ǰj\u030c ǴG\u0301 ǵg\u0301 ǸN\u0300 ǹn\u0300 ǺA\u030a\u0301 ǻa\u030a\u0301 ǼÆ\u0301",
  "ǽæ\u0301 ǾØ\u0301 ǿø\u0301 ȀA\u030f ȁa\u030f ȂA\u0311 ȃa\u0311 ȄE\u030f ȅe\u030f",
  "ȆE\u0311 ȇe\u0311 ȈI\u030f ȉi\u030f ȊI\u0311 ȋi\u0311 ȌO\u030f ȍo\u030f ȎO\u0311",
  "ȏo\u0311 ȐR\u030f ȑr\u030f ȒR\u0311 ȓr\u0311 ȔU\u030f ȕu\u030f ȖU\u0311 ȗu\u0311",
  "ȘS\u0326 șs\u0326 ȚT\u0326 țt\u0326 ȞH\u030c ȟh\u030c ȦA\u0307 ȧa\u0307 ȨE\u0327",
  "ȩe\u0327 ȪO\u0308\u0304 ȫo\u0308\u0304 ȬO\u0303\u0304 ȭo\u0303\u0304 ȮO\u0307 ȯo\u0307",
  "ȰO\u0307\u0304 ȱo\u0307\u0304 ȲY\u0304 ȳy\u0304 \u0340\u0300 \u0341\u0301 \u0343\u0313",
  "\u0344\u0308\u0301 ʹʹ ;; ΅¨\u0301 ΆΑ\u0301 ·· ΈΕ\u0301 ΉΗ\u0301 ΊΙ\u0301 ΌΟ\u0301",
  "ΎΥ\u0301 ΏΩ\u0301 ΐι\u0308\u0301 ΪΙ\u0308 ΫΥ\u0308 άα\u0301 έε\u0301 ήη\u0301 ίι\u0301",
  "ΰυ\u0308\u0301 ϊι\u0308 ϋυ\u0308 όο\u0301 ύυ\u0301 ώω\u0301 ϓϒ\u0301 ϔϒ\u0308 ۀە\u0654",
  "ۂہ\u0654 ۓے\u0654 ऩन\u093c ऱर\u093c ऴळ\u093c क़क\u093c ख़ख\u093c ग़ग\u093c ज़ज\u093c",
  "ड़ड\u093c ढ़ढ\u093c फ़फ\u093c य़य\u093c ড়ড\u09bc ঢ়ঢ\u09bc য়য\u09bc ਲ਼ਲ\u0a3c ਸ਼ਸ\u0a3c",
  "ਖ਼ਖ\u0a3c ਗ਼ਗ\u0a3c ਜ਼ਜ\u0a3c ਫ਼ਫ\u0a3c ଡ଼ଡ\u0b3c ଢ଼ଢ\u0b3c གྷག\u0fb7 ཌྷཌ\u0fb7 དྷད\u0fb7",
  "བྷབ\u0fb7 ཛྷཛ\u0fb7 ཀྵཀ\u0fb5 \u0f93\u0f92\u0fb7 \u0f9d\u0f9c\u0fb7 \u0fa2\u0fa1\u0fb7",
  "\u0fa7\u0fa6\u0fb7 \u0fac\u0fab\u0fb7 \u0fb9\u0f90\u0fb5 ḀA\u0325 ḁa\u0325 ḂB\u0307",
  "ḃb\u0307 ḄB\u0323 ḅb\u0323 ḆB\u0331 ḇb\u0331 ḈC\u0327\u0301 ḉc\u0327\u0301 ḊD\u0307",
  "ḋd\u0307 ḌD\u0323 ḍd\u0323 ḎD\u0331 ḏd\u0331 ḐD\u0327 ḑd\u0327 ḒD\u032d ḓd\u032d",
  "ḔE\u0304\u0300 ḕe\u0304\u0300 ḖE\u0304\u0301 ḗe\u0304\u0301 ḘE\u032d ḙe\u032d ḚE\u0330",
  "ḛe\u0330 ḜE\u0327\u0306 ḝe\u0327\u0306 ḞF\u0307 ḟf\u0307 ḠG\u0304 ḡg\u0304 ḢH\u0307",
  "ḣh\u0307 ḤH\u0323 ḥh\u0323 ḦH\u0308 ḧh\u0308 ḨH\u0327 ḩh\u0327 ḪH\u032e ḫh\u032e",
  "ḬI\u0330 ḭi\u0330 ḮI\u0308\u0301 ḯi\u0308\u0301 ḰK\u0301 ḱk\u0301 ḲK\u0323 ḳk\u0323",
  "ḴK\u0331 ḵk\u0331 ḶL\u0323 ḷl\u0323 ḸL\u0323\u0304 ḹl\u0323\u0304 ḺL\u0331 ḻl\u0331",
  "ḼL\u032d ḽl\u032d ḾM\u0301 ḿm\u0301 ṀM\u0307 ṁm\u0307 ṂM\u0323 ṃm\u0323 ṄN\u0307",
  "ṅn\u0307 ṆN\u0323 ṇn\u0323 ṈN\u0331 ṉn\u0331 ṊN\u032d ṋn\u032d ṌO\u0303\u0301",
  "ṍo\u0303\u0301 ṎO\u0303\u0308 ṏo\u0303\u0308 ṐO\u0304\u0300 ṑo\u0304\u0300",
  "ṒO\u0304\u0301 ṓo\u0304\u0301 ṔP\u0301 ṕp\u0301 ṖP\u0307 ṗp\u0307 ṘR\u0307 ṙr\u0307",
  "ṚR\u0323 ṛr\u0323 ṜR\u0323\u0304 ṝr\u0323\u0304 ṞR\u0331 ṟr\u0331 ṠS\u0307 ṡs\u0307",
  "ṢS\u0323 ṣs\u0323 ṤS\u0301\u0307 ṥs\u0301\u0307 ṦS\u030c\u0307 ṧs\u030c\u0307",
  "ṨS\u0323\u0307 ṩs\u0323\u0307 ṪT\u0307 ṫt\u0307 ṬT\u0323 ṭt\u0323 ṮT\u0331 ṯt\u0331",
  "ṰT\u032d ṱt\u032d ṲU\u0324 ṳu\u0324 ṴU\u0330 ṵu\u0330 ṶU\u032d ṷu\u032d ṸU\u0303\u0301",
  "ṹu\u0303\u0301 ṺU\u0304\u0308 ṻu\u0304\u0308 ṼV\u0303 ṽv\u0303 ṾV\u0323 ṿv\u0323",
  "ẀW\u0300 ẁw\u0300 ẂW\u0301 ẃw\u0301 ẄW\u0308 ẅw\u0308 ẆW\u0307 ẇw\u0307 ẈW\u0323",
  "ẉw\u0323 ẊX\u0307 ẋx\u0307 ẌX\u0308 ẍx\u0308 ẎY\u0307 ẏy\u0307 ẐZ\u0302 ẑz\u0302",
  "ẒZ\u0323 ẓz\u0323 ẔZ\u0331 ẕz\u0331 ẖh\u0331 ẗt\u0308 ẘw\u030a ẙy\u030a ẛſ\u0307",
  "ẠA\u0323 ạa\u0323 ẢA\u0309 ảa\u0309 ẤA\u0302\u0301 ấa\u0302\u0301 ẦA\u0302\u0300",
  "ầa\u0302\u0300 ẨA\u0302\u0309 ẩa\u0302\u0309 ẪA\u0302\u0303 ẫa\u0302\u0303",
  "ẬA\u0323\u0302 ậa\u0323\u0302 ẮA\u0306\u0301 ắa\u0306\u0301 ẰA\u0306\u0300",
  "ằa\u0306\u0300 ẲA\u0306\u0309 ẳa\u0306\u0309 ẴA\u0306\u0303 ẵa\u0306\u0303",
  "ẶA\u0323\u0306 ặa\u0323\u0306 ẸE\u0323 ẹe\u0323 ẺE\u0309 ẻe\u0309 ẼE\u0303 ẽe\u0303",
  "ẾE\u0302\u0301 ếe\u0302\u0301 ỀE\u0302\u0300 ềe\u0302\u0300 ỂE\u0302\u0309",
  "ểe\u0302\u0309 ỄE\u0302\u0303 ễe\u0302\u0303 ỆE\u0323\u0302 ệe\u0323\u0302 ỈI\u0309",
  "ỉi\u0309 ỊI\u0323 ịi\u0323 ỌO\u0323 ọo\u0323 ỎO\u0309 ỏo\u0309 ỐO\u0302\u0301",
  "ốo\u0302\u0301 ỒO\u0302\u0300 ồo\u0302\u0300 ỔO\u0302\u0309 ổo\u0302\u0309",
  "ỖO\u0302\u0303 ỗo\u0302\u0303 ỘO\u0323\u0302 ộo\u0323\u0302 ỚO\u031b\u0301",
  "ớo\u031b\u0301 ỜO\u031b\u0300 ờo\u031b\u0300 ỞO\u031b\u0309 ởo\u031b\u0309",
  "ỠO\u031b\u0303 ỡo\u031b\u0303 ỢO\u031b\u0323 ợo\u031b\u0323 ỤU\u0323 ụu\u0323 ỦU\u0309",
  "ủu\u0309 ỨU\u031b\u0301 ứu\u031b\u0301 ỪU\u031b\u0300 ừu\u031b\u0300 ỬU\u031b\u0309",
  "ửu\u031b\u0309 ỮU\u031b\u0303 ữu\u031b\u0303 ỰU\u031b\u0323 ựu\u031b\u0323 ỲY\u0300",
  "ỳy\u0300 ỴY\u0323 ỵy\u0323 ỶY\u0309 ỷy\u0309 ỸY\u0303 ỹy\u0303 ἀα\u0313 ἁα\u0314",
  "ἂα\u0313\u0300 ἃα\u0314\u0300 ἄα\u0313\u0301 ἅα\u0314\u0301 ἆα\u0313\u0342",
  "ἇα\u0314\u0342 ἈΑ\u0313 ἉΑ\u0314 ἊΑ\u0313\u0300 ἋΑ\u0314\u0300 ἌΑ\u0313\u0301",
  "ἍΑ\u0314\u0301 ἎΑ\u0313\u0342 ἏΑ\u0314\u0342 ἐε\u0313 ἑε\u0314 ἒε\u0313\u0300",
  "ἓε\u0314\u0300 ἔε\u0313\u0301 ἕε\u0314\u0301 ἘΕ\u0313 ἙΕ\u0314 ἚΕ\u0313\u0300",
  "ἛΕ\u0314\u0300 ἜΕ\u0313\u0301 ἝΕ\u0314\u0301 ἠη\u0313 ἡη\u0314 ἢη\u0313\u0300",
  "ἣη\u0314\u0300 ἤη\u0313\u0301 ἥη\u0314\u0301 ἦη\u0313\u0342 ἧη\u0314\u0342 ἨΗ\u0313",
  "ἩΗ\u0314 ἪΗ\u0313\u0300 ἫΗ\u0314\u0300 ἬΗ\u0313\u0301 ἭΗ\u0314\u0301 ἮΗ\u0313\u0342",
  "ἯΗ\u0314\u0342 ἰι\u0313 ἱι\u0314 ἲι\u0313\u0300 ἳι\u0314\u0300 ἴι\u0313\u0301",
  "ἵι\u0314\u0301 ἶι\u0313\u0342 ἷι\u0314\u0342 ἸΙ\u0313 ἹΙ\u0314 ἺΙ\u0313\u0300",
  "ἻΙ\u0314\u0300 ἼΙ\u0313\u0301 ἽΙ\u0314\u0301 ἾΙ\u0313\u0342 ἿΙ\u0314\u0342 ὀο\u0313",
  "ὁο\u0314 ὂο\u0313\u0300 ὃο\u0314\u0300 ὄο\u0313\u0301 ὅο\u0314\u0301 ὈΟ\u0313 ὉΟ\u0314",
  "ὊΟ\u0313\u0300 ὋΟ\u0314\u0300 ὌΟ\u0313\u0301 ὍΟ\u0314\u0301 ὐυ\u0313 ὑυ\u0314",
  "ὒυ\u0313\u0300 ὓυ\u0314\u0300 ὔυ\u0313\u0301 ὕυ\u0314\u0301 ὖυ\u0313\u0342",
  "ὗυ\u0314\u0342 ὙΥ\u0314 ὛΥ\u0314\u0300 ὝΥ\u0314\u0301 ὟΥ\u0314\u0342 ὠω\u0313 ὡω\u0314",
  "ὢω\u0313\u0300 ὣω\u0314\u0300 ὤω\u0313\u0301 ὥω\u0314\u0301 ὦω\u0313\u0342",
  "ὧω\u0314\u0342 ὨΩ\u0313 ὩΩ\u0314 ὪΩ\u0313\u0300 ὫΩ\u0314\u0300 ὬΩ\u0313\u0301",
  "ὭΩ\u0314\u0301 ὮΩ\u0313\u0342 ὯΩ\u0314\u0342 ὰα\u0300 άα\u0301 ὲε\u0300 έε\u0301",
  "ὴη\u0300 ήη\u0301 ὶι\u0300 ίι\u0301 ὸο\u0300 όο\u0301 ὺυ\u0300 ύυ\u0301 ὼω\u0300",
  "ώω\u0301 ᾀα\u0313\u0345 ᾁα\u0314\u0345 ᾂα\u0313\u0300\u0345 ᾃα\u0314\u0300\u0345",
  "ᾄα\u0313\u0301\u0345 ᾅα\u0314\u0301\u0345 ᾆα\u0313\u0342\u0345 ᾇα\u0314\u0342\u0345",
  "ᾈΑ\u0313\u0345 ᾉΑ\u0314\u0345 ᾊΑ\u0313\u0300\u0345 ᾋΑ\u0314\u0300\u0345",
  "ᾌΑ\u0313\u0301\u0345 ᾍΑ\u0314\u0301\u0345 ᾎΑ\u0313\u0342\u0345 ᾏΑ\u0314\u0342\u0345",
  "ᾐη\u0313\u0345 ᾑη\u0314\u0345 ᾒη\u0313\u0300\u0345 ᾓη\u0314\u0300\u0345",
  "ᾔη\u0313\u0301\u0345 ᾕη\u0314\u0301\u0345 ᾖη\u0313\u0342\u0345 ᾗη\u0314\u0342\u0345",
  "ᾘΗ\u0313\u0345 ᾙΗ\u0314\u0345 ᾚΗ\u0313\u0300\u0345 ᾛΗ\u0314\u0300\u0345",
  "ᾜΗ\u0313\u0301\u0345 ᾝΗ\u0314\u0301\u0345 ᾞΗ\u0313\u0342\u0345 ᾟΗ\u0314\u0342\u0345",
  "ᾠω\u0313\u0345 ᾡω\u0314\u0345 ᾢω\u0313\u0300\u0345 ᾣω\u0314\u0300\u0345",
  "ᾤω\u0313\u0301\u0345 ᾥω\u0314\u0301\u0345 ᾦω\u0313\u0342\u0345 ᾧω\u0314\u0342\u0345",
  "ᾨΩ\u0313\u0345 ᾩΩ\u0314\u0345 ᾪΩ\u0313\u0300\u0345 ᾫΩ\u0314\u0300\u0345",
  "ᾬΩ\u0313\u0301\u0345 ᾭΩ\u0314\u0301\u0345 ᾮΩ\u0313\u0342\u0345 ᾯΩ\u0314\u0342\u0345",
  "ᾰα\u0306 ᾱα\u0304 ᾲα\u0300\u0345 ᾳα\u0345 ᾴα\u0301\u0345 ᾶα\u0342 ᾷα\u0342\u0345",
  "ᾸΑ\u0306 ᾹΑ\u0304 ᾺΑ\u0300 ΆΑ\u0301 ᾼΑ\u0345 ιι ῁¨\u0342 ῂη\u0300\u0345 ῃη\u0345",
  "ῄη\u0301\u0345 ῆη\u0342 ῇη\u0342\u0345 ῈΕ\u0300 ΈΕ\u0301 ῊΗ\u0300 ΉΗ\u0301 ῌΗ\u0345",
  "῍᾿\u0300 ῎᾿\u0301 ῏᾿\u0342 ῐι\u0306 ῑι\u0304 ῒι\u0308\u0300 ΐι\u0308\u0301 ῖι\u0342",
  "ῗι\u0308\u0342 ῘΙ\u0306 ῙΙ\u0304 ῚΙ\u0300 ΊΙ\u0301 ῝῾\u0300 ῞῾\u0301 ῟῾\u0342 ῠυ\u0306",
  "ῡυ\u0304 ῢυ\u0308\u0300 ΰυ\u0308\u0301 ῤρ\u0313 ῥρ\u0314 ῦυ\u0342 ῧυ\u0308\u0342",
  "ῨΥ\u0306 ῩΥ\u0304 ῪΥ\u0300 ΎΥ\u0301 ῬΡ\u0314 ῭¨\u0300 ΅¨\u0301 `\x60 ῲω\u0300\u0345",
  "ῳω\u0345 ῴω\u0301\u0345 ῶω\u0342 ῷω\u0342\u0345 ῸΟ\u0300 ΌΟ\u0301 ῺΩ\u0300 ΏΩ\u0301",
  "ῼΩ\u0345 ´´ \u2000\u2002 \u2001\u2003 ΩΩ KK ÅA\u030a ↚←\u0338 ↛→\u0338 ↮↔\u0338 ⇍⇐\u0338",
  "⇎⇔\u0338 ⇏⇒\u0338 ∄∃\u0338 ∉∈\u0338 ∌∋\u0338 ∤∣\u0338 ∦∥\u0338 ≁∼\u0338 ≄≃\u0338",
  "≇≅\u0338 ≉≈\u0338 ≠=\u0338 ≢≡\u0338 ≭≍\u0338 ≮<\u0338 ≯>\u0338 ≰≤\u0338 ≱≥\u0338",
  "≴≲\u0338 ≵≳\u0338 ≸≶\u0338 ≹≷\u0338 ⊀≺\u0338 ⊁≻\u0338 ⊄⊂\u0338 ⊅⊃\u0338 ⊈⊆\u0338",
  "⊉⊇\u0338 ⊬⊢\u0338 ⊭⊨\u0338 ⊮⊩\u0338 ⊯⊫\u0338 ⋠≼\u0338 ⋡≽\u0338 ⋢⊑\u0338 ⋣⊒\u0338",
  "⋪⊲\u0338 ⋫⊳\u0338 ⋬⊴\u0338 ⋭⊵\u0338 〈〈 〉〉 ⫝̸⫝\u0338 がか\u3099 ぎき\u3099 ぐく\u3099",
  "げけ\u3099 ごこ\u3099 ざさ\u3099 じし\u3099 ずす\u3099 ぜせ\u3099 ぞそ\u3099 だた\u3099",
  "ぢち\u3099 づつ\u3099 でて\u3099 どと\u3099 ばは\u3099 ぱは\u309a びひ\u3099 ぴひ\u309a",
  "ぶふ\u3099 ぷふ\u309a べへ\u3099 ぺへ\u309a ぼほ\u3099 ぽほ\u309a ゔう\u3099 ゞゝ\u3099",
  "ガカ\u3099 ギキ\u3099 グク\u3099 ゲケ\u3099 ゴコ\u3099 ザサ\u3099 ジシ\u3099 ズス\u3099",
  "ゼセ\u3099 ゾソ\u3099 ダタ\u3099 ヂチ\u3099 ヅツ\u3099 デテ\u3099 ドト\u3099 バハ\u3099",
  "パハ\u309a ビヒ\u3099 ピヒ\u309a ブフ\u3099 プフ\u309a ベヘ\u3099 ペヘ\u309a ボホ\u3099",
  "ポホ\u309a ヴウ\u3099 ヷワ\u3099 ヸヰ\u3099 ヹヱ\u3099 ヺヲ\u3099 ヾヽ\u3099 יִי\u05b4",
  "ײַײ\u05b7 שׁש\u05c1 שׂש\u05c2 שּׁש\u05bc\u05c1 שּׂש\u05bc\u05c2 אַא\u05b7 אָא\u05b8 אּא\u05bc",
  "בּב\u05bc גּג\u05bc דּד\u05bc הּה\u05bc וּו\u05bc זּז\u05bc טּט\u05bc יּי\u05bc ךּך\u05bc",
  "כּכ\u05bc לּל\u05bc מּמ\u05bc נּנ\u05bc סּס\u05bc ףּף\u05bc פּפ\u05bc צּצ\u05bc קּק\u05bc",
  "רּר\u05bc שּש\u05bc תּת\u05bc וֹו\u05b9 בֿב\u05bf כֿכ\u05bf פֿפ\u05bf 𑂚𑂚 𑂜𑂜 𑂫𑂫 𝅗𝅥𝅗𝅥 𝅘𝅥𝅘𝅥 𝅘𝅥𝅮𝅘𝅥𝅮",
  "𝅘𝅥𝅯𝅘𝅥𝅯 𝅘𝅥𝅰𝅘𝅥𝅰 𝅘𝅥𝅱𝅘𝅥𝅱 𝅘𝅥𝅲𝅘𝅥𝅲 𝆹𝅥𝆹𝅥 𝆺𝅥𝆺𝅥 𝆹𝅥𝅮𝆹𝅥𝅮 𝆺𝅥𝅮𝆺𝅥𝅮 𝆹𝅥𝅯𝆹𝅥𝅯 𝆺𝅥𝅯𝆺𝅥𝅯"]

/-- Chinese characters that mean the same as others, and those others. -/
def sameHan : List String × List String := (
  [
    "豈-嗀塚晴凞-羽蘒諸逸都飯-舘並-龎丽-𪘀"],
  [
    "豈更車賈滑串句龜龜契金喇奈懶癩羅蘿螺裸邏樂洛烙珞落酪駱亂卵欄爛蘭鸞嵐濫藍襤拉臘蠟廊朗浪狼郎來",
    "冷勞擄櫓爐盧老蘆虜路露魯鷺碌祿綠菉錄鹿論壟弄籠聾牢磊賂雷壘屢樓淚漏累縷陋勒肋凜凌稜綾菱陵讀拏",
    "樂諾丹寧怒率異北磻便復不泌數索參塞省葉說殺辰沈拾若掠略亮兩凉梁糧良諒量勵呂女廬旅濾礪閭驪麗黎",
    "力曆歷轢年憐戀撚漣煉璉秊練聯輦蓮連鍊列劣咽烈裂說廉念捻殮簾獵令囹寧嶺怜玲瑩羚聆鈴零靈領例禮醴",
    "隸惡了僚寮尿料樂燎療蓼遼龍暈阮劉杻柳流溜琉留硫紐類六戮陸倫崙淪輪律慄栗率隆利吏履易李梨泥理痢",
    "罹裏裡里離匿溺吝燐璘藺隣鱗麟林淋臨立笠粒狀炙識什茶刺切度拓糖宅洞暴輻行降見廓兀嗀塚晴凞猪益礼",
    "神祥福靖精羽蘒諸逸都飯飼館鶴郞隷侮僧免勉勤卑喝嘆器塀墨層屮悔慨憎懲敏既暑梅海渚漢煮爫琢碑社祉",
    "祈祐祖祝禍禎穀突節練縉繁署者臭艹艹著褐視謁謹賓贈辶逸難響頻恵𤋮舘並况全侀充冀勇勺喝啕喙嗢塚墳",
    "奄奔婢嬨廒廙彩徭惘慎愈憎慠懲戴揄搜摒敖晴朗望杖歹殺流滛滋漢瀞煮瞧爵犯猪瑱甆画瘝瘟益盛直睊着磌",
    "窱節类絛練缾者荒華蝹襁覆視調諸請謁諾諭謹變贈輸遲醙鉶陼難靖韛響頋頻鬒龜𢡊𢡄𣏕㮝䀘䀹𥉉𥳐𧻓齃龎",
    "丽丸乁𠄢你侮侻倂偺備僧像㒞𠘺免兔兤具𠔜㒹內再𠕋冗冤仌冬况𩇟凵刃㓟刻剆割剷㔕勇勉勤勺包匆北卉卑",
    "博即卽卿卿卿𠨬灰及叟𠭣叫叱吆咞吸呈周咢哶唐啓啣善善喙喫喳嗂圖嘆圗噑噴切壮城埴堍型堲報墬𡓤売壷",
    "夆多夢奢𡚨𡛪姬娛娧姘婦㛮㛼嬈嬾嬾𡧈寃寘寧寳𡬘寿将当尢㞁屠屮峀岍𡷤嵃𡷦嵮嵫嵼巡巢㠯巽帨帽幩㡢𢆃",
    "㡼庰庳庶廊𪎒廾𢌱𢌱舁弢弢㣇𣊸𦇚形彫㣣徚忍志忹悁㤺㤜悔𢛔惇慈慌慎慌慺憎憲憤憯懞懲懶成戛扝抱拔捐",
    "𢬌挽拼捨掃揤𢯱搢揅掩㨮摩摾撝摷㩬敏敬𣀊旣書晉㬙暑㬈㫤冒冕最暜肭䏙朗望朡杞杓𣏃㭉柺枅桒梅𣑭梎栟",
    "椔㮝楂榣槪檨𣚣櫛㰘次𣢧歔㱎歲殟殺殻𣪍𡴋𣫺汎𣲼沿泍汧洖派海流浩浸涅𣴞洴港湮㴳滋滇𣻑淹潮𣽞𣾎濆瀹",
    "瀞瀛㶖灊災灷炭𠔥煅𤉣熜𤎫爨爵牐𤘈犀犕𤜵𤠔獺王㺬玥㺸㺸瑇瑜瑱璅瓊㼛甤𤰶甾𤲒異𢆟瘐𤾡𤾸𥁄㿼䀈直𥃳",
    "𥃲𥄙𥄳眞真真睊䀹瞋䁆䂖𥐝硎碌磌䃣𥘦祖𥚚𥛅福秫䄯穀穊穏𥥼𥪧𥪧竮䈂𥮫篆築䈧𥲀糒䊠糨糣紀𥾆絣䌁緇縂",
    "繅䌴𦈨𦉇䍙𦋙罺𦌾羕翺者𦓚𦔣聠𦖨聰𣍟䏕育脃䐋脾媵𦞧𦞵𣎓𣎜舁舄辞䑫芑芋芝劳花芳芽苦𦬼若茝荣莭茣莽",
    "菧著荓菊菌菜𦰶𦵫𦳕䔫蓱蓳蔖𧏊蕤𦼬䕝䕡𦾱𧃒䕫虐虜虧虩蚩蚈蜎蛢蝹蜨蝫螆䗗蟡蠁䗹衠衣𧙧裗裞䘵裺㒻𧢮",
    "𧥦䚾䛇誠諭變豕𧲨貫賁贛起𧼯𠠄跋趼跰𠣞軔輸𨗒𨗭邔郱鄑𨜮鄛鈸鋗鋘鉼鏹鐕𨯺開䦕閷𨵷䧦雃嶲霣𩅅𩈚䩮䩶",
    "韠𩐊䪲𩒖頋頋頩𩖶飢䬳餩馧駂駾䯎𩬰鬒鱀鳽䳎䳭鵧𪃎䳸𪄅𪈎𪊑麻䵖黹黾鼅鼏鼖鼻𪘀"])

/-- The characters that have a place of their own although they can be spelled out. -/
def wholeLetters : List String := [
  "ЀЕ\u0300 ЁЕ\u0308 ЃГ\u0301 ЇІ\u0308 ЌК\u0301 ЍИ\u0300 ЎУ\u0306 ЙИ\u0306 йи\u0306",
  "ѐе\u0300 ёе\u0308 ѓг\u0301 їі\u0308 ќк\u0301 ѝи\u0300 ўу\u0306 ѶѴ\u030f ѷѵ\u030f",
  "ӁЖ\u0306 ӂж\u0306 ӐА\u0306 ӑа\u0306 ӒА\u0308 ӓа\u0308 ӖЕ\u0306 ӗе\u0306 ӚӘ\u0308",
  "ӛә\u0308 ӜЖ\u0308 ӝж\u0308 ӞЗ\u0308 ӟз\u0308 ӢИ\u0304 ӣи\u0304 ӤИ\u0308 ӥи\u0308",
  "ӦО\u0308 ӧо\u0308 ӪӨ\u0308 ӫө\u0308 ӬЭ\u0308 ӭэ\u0308 ӮУ\u0304 ӯу\u0304 ӰУ\u0308",
  "ӱу\u0308 ӲУ\u030b ӳу\u030b ӴЧ\u0308 ӵч\u0308 ӸЫ\u0308 ӹы\u0308 آا\u0653 أا\u0654",
  "ؤو\u0654 إا\u0655 ئي\u0654 \u09cb\u09c7\u09be \u09cc\u09c7\u09d7 \u0b48\u0b47\u0b56",
  "\u0b4b\u0b47\u0b3e \u0b4c\u0b47\u0b57 ஔஒ\u0bd7 \u0bca\u0bc6\u0bbe \u0bcb\u0bc7\u0bbe",
  "\u0bcc\u0bc6\u0bd7 \u0c48\u0c46\u0c56 \u0cc0\u0cbf\u0cd5 \u0cc7\u0cc6\u0cd5",
  "\u0cc8\u0cc6\u0cd6 \u0cca\u0cc6\u0cc2 \u0ccb\u0cc6\u0cc2\u0cd5 \u0d4a\u0d46\u0d3e",
  "\u0d4b\u0d47\u0d3e \u0d4c\u0d46\u0d57 \u0dda\u0dd9\u0dca \u0ddc\u0dd9\u0dcf",
  "\u0ddd\u0dd9\u0dcf\u0dca \u0dde\u0dd9\u0ddf \u0f73\u0f71\u0f72 \u0f75\u0f71\u0f74",
  "\u0f76\u0fb2\u0f80 \u0f78\u0fb3\u0f80 \u0f81\u0f71\u0f80 ဦဥ\u102e ᬆᬅ\u1b35 ᬈᬇ\u1b35",
  "ᬊᬉ\u1b35 ᬌᬋ\u1b35 ᬎᬍ\u1b35 ᬒᬑ\u1b35 \u1b3b\u1b3a\u1b35 \u1b3d\u1b3c\u1b35",
  "\u1b40\u1b3e\u1b35 \u1b41\u1b3f\u1b35 \u1b43\u1b42\u1b35 𑄮𑄮 𑄯𑄯"]

/-- The classes of the marks. -/
def markClasses : List (Nat × List String) := [
  (1, [
    "\u0334-\u0338\u1cd4\u1ce2-\u1ce8\u20d2\u20d3\u20d8\u20d9\u20da\u20e5\u20e6\u20ea\u20eb",
    "𐨹𝅧𝅨𝅩"]),
  (7, [
    "\u093c\u09bc\u0a3c\u0abc\u0b3c\u0cbc\u1037\u1b34\u1be6\u1c37\ua9b3𑂺𑚷"]),
  (8, [
    "\u3099\u309a"]),
  (9, [
    "\u094d\u09cd\u0a4d\u0acd\u0b4d\u0bcd\u0c4d\u0ccd\u0d4d\u0dca\u0e3a\u0f84\u1039\u103a",
    "\u1714\u1734\u17d2\u1a60\u1b44\u1baa\u1bab\u1bf2\u1bf3\u2d7f\ua806\ua8c4\ua953\ua9c0",
    "\uaaf6\uabed𐨿𑁆𑂹𑄳𑄴𑇀𑚶"]),
  (10, [
    "\u05b0"]),
  (11, [
    "\u05b1"]),
  (12, [
    "\u05b2"]),
  (13, [
    "\u05b3"]),
  (14, [
    "\u05b4"]),
  (15, [
    "\u05b5"]),
  (16, [
    "\u05b6"]),
  (17, [
    "\u05b7"]),
  (18, [
    "\u05b8\u05c7"]),
  (19, [
    "\u05b9\u05ba"]),
  (20, [
    "\u05bb"]),
  (21, [
    "\u05bc"]),
  (22, [
    "\u05bd"]),
  (23, [
    "\u05bf"]),
  (24, [
    "\u05c1"]),
  (25, [
    "\u05c2"]),
  (26, [
    "\ufb1e"]),
  (27, [
    "\u064b\u08f0"]),
  (28, [
    "\u064c\u08f1"]),
  (29, [
    "\u064d\u08f2"]),
  (30, [
    "\u0618\u064e"]),
  (31, [
    "\u0619\u064f"]),
  (32, [
    "\u061a\u0650"]),
  (33, [
    "\u0651"]),
  (34, [
    "\u0652"]),
  (35, [
    "\u0670"]),
  (36, [
    "\u0711"]),
  (84, [
    "\u0c55"]),
  (91, [
    "\u0c56"]),
  (103, [
    "\u0e38\u0e39"]),
  (107, [
    "\u0e48-\u0e4b"]),
  (118, [
    "\u0eb8\u0eb9"]),
  (122, [
    "\u0ec8-\u0ecb"]),
  (129, [
    "\u0f71"]),
  (130, [
    "\u0f72\u0f7a-\u0f7d\u0f80"]),
  (132, [
    "\u0f74"]),
  (202, [
    "\u0321\u0322\u0327\u0328\u1dd0"]),
  (214, [
    "\u1dce"]),
  (216, [
    "\u031b\u0f39𝅥𝅦𝅮-𝅲"]),
  (218, [
    "\u302a"]),
  (220, [
    "\u0316-\u0319\u031c-\u0320\u0323-\u0326\u0329-\u0333\u0339-\u033c\u0347\u0348\u0349",
    "\u034d\u034e\u0353-\u0356\u0359\u035a\u0591\u0596\u059b\u05a2-\u05a7\u05aa\u05c5\u0655",
    "\u0656\u065c\u065f\u06e3\u06ea\u06ed\u0731\u0734\u0737\u0738\u0739\u073b\u073c\u073e",
    "\u0742\u0744\u0746\u0748\u07f2\u0859\u085a\u085b\u08e6\u08e9\u08ed\u08ee\u08ef\u08f6",
    "\u08f9\u08fa\u0952\u0f18\u0f19\u0f35\u0f37\u0fc6\u108d\u193b\u1a18\u1a7f\u1b6c",
    "\u1cd5-\u1cd9\u1cdc-\u1cdf\u1ced\u1dc2\u1dca\u1dcf\u1dfd\u1dff\u20e8\u20ec-\u20ef",
    "\ua92b\ua92c\ua92d\uaab4𐇽𐨍𐨺𝅻-𝆂𝆊𝆋"]),
  (222, [
    "\u059a\u05ad\u1939\u302d"]),
  (224, [
    "\u302e\u302f"]),
  (226, [
    "𝅭"]),
  (228, [
    "\u05ae\u18a9\u302b"]),
  (230, [
    "\u0300-\u0314\u033d-\u0344\u0346\u034a\u034b\u034c\u0350\u0351\u0352\u0357\u035b",
    "\u0363-\u036f\u0483-\u0487\u0592-\u0595\u0597\u0598\u0599\u059c-\u05a1\u05a8\u05a9",
    "\u05ab\u05ac\u05af\u05c4\u0610-\u0617\u0653\u0654\u0657-\u065b\u065d\u065e",
    "\u06d6-\u06dc\u06df-\u06e2\u06e4\u06e7\u06e8\u06eb\u06ec\u0730\u0732\u0733\u0735\u0736",
    "\u073a\u073d\u073f\u0740\u0741\u0743\u0745\u0747\u0749\u074a\u07eb-\u07f1\u07f3",
    "\u0816-\u0819\u081b-\u0823\u0825\u0826\u0827\u0829-\u082d\u08e4\u08e5\u08e7\u08e8",
    "\u08ea\u08eb\u08ec\u08f3\u08f4\u08f5\u08f7\u08f8\u08fb-\u08fe\u0951\u0953\u0954\u0f82",
    "\u0f83\u0f86\u0f87\u135d\u135e\u135f\u17dd\u193a\u1a17\u1a75-\u1a7c\u1b6b\u1b6d-\u1b73",
    "\u1cd0\u1cd1\u1cd2\u1cda\u1cdb\u1ce0\u1cf4\u1dc0\u1dc1\u1dc3-\u1dc9\u1dcb\u1dcc",
    "\u1dd1-\u1de6\u1dfe\u20d0\u20d1\u20d4-\u20d7\u20db\u20dc\u20e1\u20e7\u20e9\u20f0\u2cef",
    "\u2cf0\u2cf1\u2de0-\u2dff\ua66f\ua674-\ua67d\ua69f\ua6f0\ua6f1\ua8e0-\ua8f1\uaab0",
    "\uaab2\uaab3\uaab7\uaab8\uaabe\uaabf\uaac1\ufe20-\ufe26𐨏𐨸𑄀𑄁𑄂𝆅-𝆉𝆪-𝆭𝉂𝉃𝉄"]),
  (232, [
    "\u0315\u031a\u0358\u302c"]),
  (233, [
    "\u035c\u035f\u0362\u1dfc"]),
  (234, [
    "\u035d\u035e\u0360\u0361\u1dcd"]),
  (240, [
    "\u0345"])]

end Root
end Collation
end YamlOrder
