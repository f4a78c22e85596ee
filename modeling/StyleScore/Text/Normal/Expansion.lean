import StyleScore.Text.Basic

/-!
The characters that stand for other text: letters with marks, ligatures, forms and digits of style.
The syllables of Hangul are no part of the table, since they are made by a rule.
-/
namespace StyleScore.Text.Normal

/-- Every character of Unicode 3.2 with an expansion, and then its full expansion, with
paragraph signs between them. -/
def expansionTable : List String :=
  ["  ¶¨ ̈¶ªa¶¯ ̄¶²2¶³3¶´ ́¶µμ¶¸ ̧¶¹1¶ºo¶¼1⁄4¶½1⁄2¶¾3⁄4¶ÀÀ¶ÁÁ¶ÂÂ¶ÃÃ¶ÄÄ¶ÅÅ¶ÇÇ¶ÈÈ¶ÉÉ¶ÊÊ",
    "ËË¶ÌÌ¶ÍÍ¶ÎÎ¶ÏÏ¶ÑÑ¶ÒÒ¶ÓÓ¶ÔÔ¶ÕÕ¶ÖÖ¶ÙÙ¶ÚÚ¶ÛÛ¶ÜÜ¶ÝÝ¶àà¶áá¶ââ¶ãã¶ää¶åå¶çç",
    "èè¶éé¶êê¶ëë¶ìì¶íí¶îî¶ïï¶ññ¶òò¶óó¶ôô¶õõ¶öö¶ùù¶úú¶ûû¶üü¶ýý¶ÿÿ¶ĀĀ¶āā¶ĂĂ",
    "ăă¶ĄĄ¶ąą¶ĆĆ¶ćć¶ĈĈ¶ĉĉ¶ĊĊ¶ċċ¶ČČ¶čč¶ĎĎ¶ďď¶ĒĒ¶ēē¶ĔĔ¶ĕĕ¶ĖĖ¶ėė¶ĘĘ¶ęę¶ĚĚ¶ěě",
    "ĜĜ¶ĝĝ¶ĞĞ¶ğğ¶ĠĠ¶ġġ¶ĢĢ¶ģģ¶ĤĤ¶ĥĥ¶ĨĨ¶ĩĩ¶ĪĪ¶īī¶ĬĬ¶ĭĭ¶ĮĮ¶įį¶İİ¶ĲIJ¶ĳij¶ĴĴ¶ĵĵ",
    "ĶĶ¶ķķ¶ĹĹ¶ĺĺ¶ĻĻ¶ļļ¶ĽĽ¶ľľ¶ĿL·¶ŀl·¶ŃŃ¶ńń¶ŅŅ¶ņņ¶ŇŇ¶ňň¶ŉʼn¶ŌŌ¶ōō¶ŎŎ¶ŏŏ¶ŐŐ¶őő",
    "ŔŔ¶ŕŕ¶ŖŖ¶ŗŗ¶ŘŘ¶řř¶ŚŚ¶śś¶ŜŜ¶ŝŝ¶ŞŞ¶şş¶ŠŠ¶šš¶ŢŢ¶ţţ¶ŤŤ¶ťť¶ŨŨ¶ũũ¶ŪŪ¶ūū¶ŬŬ",
    "ŭŭ¶ŮŮ¶ůů¶ŰŰ¶űű¶ŲŲ¶ųų¶ŴŴ¶ŵŵ¶ŶŶ¶ŷŷ¶ŸŸ¶ŹŹ¶źź¶ŻŻ¶żż¶ŽŽ¶žž¶ſs¶ƠƠ¶ơơ¶ƯƯ¶ưư",
    "ǄDŽ¶ǅDž¶ǆdž¶ǇLJ¶ǈLj¶ǉlj¶ǊNJ¶ǋNj¶ǌnj¶ǍǍ¶ǎǎ¶ǏǏ¶ǐǐ¶ǑǑ¶ǒǒ¶ǓǓ¶ǔǔ¶ǕǕ¶ǖǖ¶ǗǗ¶ǘǘ",
    "ǙǙ¶ǚǚ¶ǛǛ¶ǜǜ¶ǞǞ¶ǟǟ¶ǠǠ¶ǡǡ¶ǢǢ¶ǣǣ¶ǦǦ¶ǧǧ¶ǨǨ¶ǩǩ¶ǪǪ¶ǫǫ¶ǬǬ¶ǭǭ¶ǮǮ¶ǯǯ",
    "ǰǰ¶ǱDZ¶ǲDz¶ǳdz¶ǴǴ¶ǵǵ¶ǸǸ¶ǹǹ¶ǺǺ¶ǻǻ¶ǼǼ¶ǽǽ¶ǾǾ¶ǿǿ¶ȀȀ¶ȁȁ¶ȂȂ¶ȃȃ¶ȄȄ¶ȅȅ¶ȆȆ¶ȇȇ",
    "ȈȈ¶ȉȉ¶ȊȊ¶ȋȋ¶ȌȌ¶ȍȍ¶ȎȎ¶ȏȏ¶ȐȐ¶ȑȑ¶ȒȒ¶ȓȓ¶ȔȔ¶ȕȕ¶ȖȖ¶ȗȗ¶ȘȘ¶șș¶ȚȚ¶țț¶ȞȞ¶ȟȟ¶ȦȦ",
    "ȧȧ¶ȨȨ¶ȩȩ¶ȪȪ¶ȫȫ¶ȬȬ¶ȭȭ¶ȮȮ¶ȯȯ¶ȰȰ¶ȱȱ¶ȲȲ¶ȳȳ¶ʰh¶ʱɦ¶ʲj¶ʳr¶ʴɹ¶ʵɻ¶ʶʁ¶ʷw¶ʸy¶˘ ̆",
    "˙ ̇¶˚ ̊¶˛ ̨¶˜ ̃¶˝ ̋¶ˠɣ¶ˡl¶ˢs¶ˣx¶ˤʕ¶̀̀¶́́¶̓̓¶̈́̈́¶ʹʹ¶ͺ ͅ¶;;¶΄ ́¶΅ ̈́¶ΆΆ¶··¶ΈΈ¶ΉΉ¶ΊΊ¶ΌΌ",
    "ΎΎ¶ΏΏ¶ΐΐ¶ΪΪ¶ΫΫ¶άά¶έέ¶ήή¶ίί¶ΰΰ¶ϊϊ¶ϋϋ¶όό¶ύύ¶ώώ¶ϐβ¶ϑθ¶ϒΥ¶ϓΎ¶ϔΫ¶ϕφ¶ϖπ¶ϰκ¶ϱρ",
    "ϲς¶ϴΘ¶ϵε¶ЀЀ¶ЁЁ¶ЃЃ¶ЇЇ¶ЌЌ¶ЍЍ¶ЎЎ¶ЙЙ¶йй¶ѐѐ¶ёё¶ѓѓ¶її¶ќќ¶ѝѝ¶ўў¶ѶѶ¶ѷѷ¶ӁӁ¶ӂӂ",
    "ӐӐ¶ӑӑ¶ӒӒ¶ӓӓ¶ӖӖ¶ӗӗ¶ӚӚ¶ӛӛ¶ӜӜ¶ӝӝ¶ӞӞ¶ӟӟ¶ӢӢ¶ӣӣ¶ӤӤ¶ӥӥ¶ӦӦ¶ӧӧ¶ӪӪ¶ӫӫ¶ӬӬ¶ӭӭ¶ӮӮ",
    "ӯӯ¶ӰӰ¶ӱӱ¶ӲӲ¶ӳӳ¶ӴӴ¶ӵӵ¶ӸӸ¶ӹӹ¶ևեւ¶آآ¶أأ¶ؤؤ¶إإ¶ئئ¶ٵاٴ¶ٶوٴ¶ٷۇٴ¶ٸيٴ¶ۀۀ¶ۂۂ¶ۓۓ¶ऩऩ",
    "ऱऱ¶ऴऴ¶क़क़¶ख़ख़¶ग़ग़¶ज़ज़¶ड़ड़¶ढ़ढ़¶फ़फ़¶य़य़¶োো¶ৌৌ¶ড়ড়¶ঢ়ঢ়¶য়য়¶ਲ਼ਲ਼¶ਸ਼ਸ਼¶ਖ਼ਖ਼¶ਗ਼ਗ਼¶ਜ਼ਜ਼¶ਫ਼ਫ਼¶ୈୈ¶ୋୋ",
    "ୌୌ¶ଡ଼ଡ଼¶ଢ଼ଢ଼¶ஔஔ¶ொொ¶ோோ¶ௌௌ¶ైై¶ೀೀ¶ೇೇ¶ೈೈ¶ೊೊ¶ೋೋ¶ൊൊ¶ോോ¶ൌൌ¶ේේ¶ොො¶ෝෝ¶ෞෞ¶ำํา¶ຳໍາ",
    "ໜຫນ¶ໝຫມ¶༌་¶གྷགྷ¶ཌྷཌྷ¶དྷདྷ¶བྷབྷ¶ཛྷཛྷ¶ཀྵཀྵ¶ཱཱིི¶ཱཱུུ¶ྲྀྲྀ¶ཷྲཱྀ¶ླྀླྀ¶ཹླཱྀ¶ཱཱྀྀ¶ྒྷྒྷ¶ྜྷྜྷ¶ྡྷྡྷ¶ྦྷྦྷ¶ྫྷྫྷ¶ྐྵྐྵ",
    "ဦဦ¶ḀḀ¶ḁḁ¶ḂḂ¶ḃḃ¶ḄḄ¶ḅḅ¶ḆḆ¶ḇḇ¶ḈḈ¶ḉḉ¶ḊḊ¶ḋḋ¶ḌḌ¶ḍḍ¶ḎḎ¶ḏḏ¶ḐḐ¶ḑḑ¶ḒḒ¶ḓḓ¶ḔḔ",
    "ḕḕ¶ḖḖ¶ḗḗ¶ḘḘ¶ḙḙ¶ḚḚ¶ḛḛ¶ḜḜ¶ḝḝ¶ḞḞ¶ḟḟ¶ḠḠ¶ḡḡ¶ḢḢ¶ḣḣ¶ḤḤ¶ḥḥ¶ḦḦ¶ḧḧ¶ḨḨ¶ḩḩ",
    "ḪḪ¶ḫḫ¶ḬḬ¶ḭḭ¶ḮḮ¶ḯḯ¶ḰḰ¶ḱḱ¶ḲḲ¶ḳḳ¶ḴḴ¶ḵḵ¶ḶḶ¶ḷḷ¶ḸḸ¶ḹḹ¶ḺḺ¶ḻḻ¶ḼḼ¶ḽḽ¶ḾḾ¶ḿḿ",
    "ṀṀ¶ṁṁ¶ṂṂ¶ṃṃ¶ṄṄ¶ṅṅ¶ṆṆ¶ṇṇ¶ṈṈ¶ṉṉ¶ṊṊ¶ṋṋ¶ṌṌ¶ṍṍ¶ṎṎ¶ṏṏ¶ṐṐ¶ṑṑ¶ṒṒ¶ṓṓ¶ṔṔ",
    "ṕṕ¶ṖṖ¶ṗṗ¶ṘṘ¶ṙṙ¶ṚṚ¶ṛṛ¶ṜṜ¶ṝṝ¶ṞṞ¶ṟṟ¶ṠṠ¶ṡṡ¶ṢṢ¶ṣṣ¶ṤṤ¶ṥṥ¶ṦṦ¶ṧṧ¶ṨṨ¶ṩṩ",
    "ṪṪ¶ṫṫ¶ṬṬ¶ṭṭ¶ṮṮ¶ṯṯ¶ṰṰ¶ṱṱ¶ṲṲ¶ṳṳ¶ṴṴ¶ṵṵ¶ṶṶ¶ṷṷ¶ṸṸ¶ṹṹ¶ṺṺ¶ṻṻ¶ṼṼ¶ṽṽ¶ṾṾ¶ṿṿ",
    "ẀẀ¶ẁẁ¶ẂẂ¶ẃẃ¶ẄẄ¶ẅẅ¶ẆẆ¶ẇẇ¶ẈẈ¶ẉẉ¶ẊẊ¶ẋẋ¶ẌẌ¶ẍẍ¶ẎẎ¶ẏẏ¶ẐẐ¶ẑẑ¶ẒẒ¶ẓẓ¶ẔẔ¶ẕẕ¶ẖẖ",
    "ẗẗ¶ẘẘ¶ẙẙ¶ẚaʾ¶ẛṡ¶ẠẠ¶ạạ¶ẢẢ¶ảả¶ẤẤ¶ấấ¶ẦẦ¶ầầ¶ẨẨ¶ẩẩ¶ẪẪ¶ẫẫ¶ẬẬ¶ậậ¶ẮẮ",
    "ắắ¶ẰẰ¶ằằ¶ẲẲ¶ẳẳ¶ẴẴ¶ẵẵ¶ẶẶ¶ặặ¶ẸẸ¶ẹẹ¶ẺẺ¶ẻẻ¶ẼẼ¶ẽẽ¶ẾẾ¶ếế¶ỀỀ¶ềề",
    "ỂỂ¶ểể¶ỄỄ¶ễễ¶ỆỆ¶ệệ¶ỈỈ¶ỉỉ¶ỊỊ¶ịị¶ỌỌ¶ọọ¶ỎỎ¶ỏỏ¶ỐỐ¶ốố¶ỒỒ¶ồồ¶ỔỔ¶ổổ",
    "ỖỖ¶ỗỗ¶ỘỘ¶ộộ¶ỚỚ¶ớớ¶ỜỜ¶ờờ¶ỞỞ¶ởở¶ỠỠ¶ỡỡ¶ỢỢ¶ợợ¶ỤỤ¶ụụ¶ỦỦ¶ủủ¶ỨỨ",
    "ứứ¶ỪỪ¶ừừ¶ỬỬ¶ửử¶ỮỮ¶ữữ¶ỰỰ¶ựự¶ỲỲ¶ỳỳ¶ỴỴ¶ỵỵ¶ỶỶ¶ỷỷ¶ỸỸ¶ỹỹ¶ἀἀ¶ἁἁ¶ἂἂ",
    "ἃἃ¶ἄἄ¶ἅἅ¶ἆἆ¶ἇἇ¶ἈἈ¶ἉἉ¶ἊἊ¶ἋἋ¶ἌἌ¶ἍἍ¶ἎἎ¶ἏἏ¶ἐἐ¶ἑἑ¶ἒἒ¶ἓἓ¶ἔἔ¶ἕἕ",
    "ἘἘ¶ἙἙ¶ἚἚ¶ἛἛ¶ἜἜ¶ἝἝ¶ἠἠ¶ἡἡ¶ἢἢ¶ἣἣ¶ἤἤ¶ἥἥ¶ἦἦ¶ἧἧ¶ἨἨ¶ἩἩ¶ἪἪ¶ἫἫ¶ἬἬ",
    "ἭἭ¶ἮἮ¶ἯἯ¶ἰἰ¶ἱἱ¶ἲἲ¶ἳἳ¶ἴἴ¶ἵἵ¶ἶἶ¶ἷἷ¶ἸἸ¶ἹἹ¶ἺἺ¶ἻἻ¶ἼἼ¶ἽἽ¶ἾἾ¶ἿἿ",
    "ὀὀ¶ὁὁ¶ὂὂ¶ὃὃ¶ὄὄ¶ὅὅ¶ὈὈ¶ὉὉ¶ὊὊ¶ὋὋ¶ὌὌ¶ὍὍ¶ὐὐ¶ὑὑ¶ὒὒ¶ὓὓ¶ὔὔ¶ὕὕ¶ὖὖ",
    "ὗὗ¶ὙὙ¶ὛὛ¶ὝὝ¶ὟὟ¶ὠὠ¶ὡὡ¶ὢὢ¶ὣὣ¶ὤὤ¶ὥὥ¶ὦὦ¶ὧὧ¶ὨὨ¶ὩὩ¶ὪὪ¶ὫὫ¶ὬὬ¶ὭὭ",
    "ὮὮ¶ὯὯ¶ὰὰ¶άά¶ὲὲ¶έέ¶ὴὴ¶ήή¶ὶὶ¶ίί¶ὸὸ¶όό¶ὺὺ¶ύύ¶ὼὼ¶ώώ¶ᾀᾀ¶ᾁᾁ¶ᾂᾂ¶ᾃᾃ",
    "ᾄᾄ¶ᾅᾅ¶ᾆᾆ¶ᾇᾇ¶ᾈᾈ¶ᾉᾉ¶ᾊᾊ¶ᾋᾋ¶ᾌᾌ¶ᾍᾍ¶ᾎᾎ¶ᾏᾏ¶ᾐᾐ¶ᾑᾑ¶ᾒᾒ¶ᾓᾓ",
    "ᾔᾔ¶ᾕᾕ¶ᾖᾖ¶ᾗᾗ¶ᾘᾘ¶ᾙᾙ¶ᾚᾚ¶ᾛᾛ¶ᾜᾜ¶ᾝᾝ¶ᾞᾞ¶ᾟᾟ¶ᾠᾠ¶ᾡᾡ¶ᾢᾢ¶ᾣᾣ",
    "ᾤᾤ¶ᾥᾥ¶ᾦᾦ¶ᾧᾧ¶ᾨᾨ¶ᾩᾩ¶ᾪᾪ¶ᾫᾫ¶ᾬᾬ¶ᾭᾭ¶ᾮᾮ¶ᾯᾯ¶ᾰᾰ¶ᾱᾱ¶ᾲᾲ¶ᾳᾳ¶ᾴᾴ",
    "ᾶᾶ¶ᾷᾷ¶ᾸᾸ¶ᾹᾹ¶ᾺᾺ¶ΆΆ¶ᾼᾼ¶᾽ ̓¶ιι¶᾿ ̓¶῀ ͂¶῁ ̈͂¶ῂῂ¶ῃῃ¶ῄῄ¶ῆῆ¶ῇῇ¶ῈῈ¶ΈΈ¶ῊῊ¶ΉΉ¶ῌῌ",
    "῍ ̓̀¶῎ ̓́¶῏ ̓͂¶ῐῐ¶ῑῑ¶ῒῒ¶ΐΐ¶ῖῖ¶ῗῗ¶ῘῘ¶ῙῙ¶ῚῚ¶ΊΊ¶῝ ̔̀¶῞ ̔́¶῟ ̔͂¶ῠῠ¶ῡῡ¶ῢῢ¶ΰΰ",
    "ῤῤ¶ῥῥ¶ῦῦ¶ῧῧ¶ῨῨ¶ῩῩ¶ῪῪ¶ΎΎ¶ῬῬ¶῭ ̈̀¶΅ ̈́¶``¶ῲῲ¶ῳῳ¶ῴῴ¶ῶῶ¶ῷῷ¶ῸῸ¶ΌΌ¶ῺῺ¶ΏΏ",
    "ῼῼ¶´ ́¶῾ ̔¶  ¶  ¶  ¶  ¶  ¶  ¶  ¶  ¶  ¶  ¶  ¶‑‐¶‗ ̳¶․.¶‥..¶…...¶  ¶″′′¶‴′′′¶‶‵‵¶‷‵‵‵¶‼!!",
    "‾ ̅¶⁇??¶⁈?!¶⁉!?¶⁗′′′′¶  ¶⁰0¶ⁱi¶⁴4¶⁵5¶⁶6¶⁷7¶⁸8¶⁹9¶⁺+¶⁻−¶⁼=¶⁽(¶⁾)¶ⁿn¶₀0¶₁1¶₂2¶₃3¶₄4¶₅5¶₆6¶₇7",
    "₈8¶₉9¶₊+¶₋−¶₌=¶₍(¶₎)¶₨Rs¶℀a/c¶℁a/s¶ℂC¶℃°C¶℅c/o¶℆c/u¶ℇƐ¶℉°F¶ℊg¶ℋH¶ℌH¶ℍH¶ℎh¶ℏħ¶ℐI¶ℑI¶ℒL¶ℓl¶ℕN",
    "№No¶ℙP¶ℚQ¶ℛR¶ℜR¶ℝR¶℠SM¶℡TEL¶™TM¶ℤZ¶ΩΩ¶ℨZ¶KK¶ÅÅ¶ℬB¶ℭC¶ℯe¶ℰE¶ℱF¶ℳM¶ℴo¶ℵא¶ℶב¶ℷג¶ℸד¶ℹi¶ℽγ¶ℾΓ",
    "ℿΠ¶⅀∑¶ⅅD¶ⅆd¶ⅇe¶ⅈi¶ⅉj¶⅓1⁄3¶⅔2⁄3¶⅕1⁄5¶⅖2⁄5¶⅗3⁄5¶⅘4⁄5¶⅙1⁄6¶⅚5⁄6¶⅛1⁄8¶⅜3⁄8¶⅝5⁄8¶⅞7⁄8¶⅟1⁄¶ⅠI¶ⅡII",
    "ⅢIII¶ⅣIV¶ⅤV¶ⅥVI¶ⅦVII¶ⅧVIII¶ⅨIX¶ⅩX¶ⅪXI¶ⅫXII¶ⅬL¶ⅭC¶ⅮD¶ⅯM¶ⅰi¶ⅱii¶ⅲiii¶ⅳiv¶ⅴv¶ⅵvi¶ⅶvii¶ⅷviii",
    "ⅸix¶ⅹx¶ⅺxi¶ⅻxii¶ⅼl¶ⅽc¶ⅾd¶ⅿm¶↚↚¶↛↛¶↮↮¶⇍⇍¶⇎⇎¶⇏⇏¶∄∄¶∉∉¶∌∌¶∤∤¶∦∦¶∬∫∫¶∭∫∫∫¶∯∮∮¶∰∮∮∮",
    "≁≁¶≄≄¶≇≇¶≉≉¶≠≠¶≢≢¶≭≭¶≮≮¶≯≯¶≰≰¶≱≱¶≴≴¶≵≵¶≸≸¶≹≹¶⊀⊀¶⊁⊁¶⊄⊄¶⊅⊅¶⊈⊈¶⊉⊉¶⊬⊬¶⊭⊭",
    "⊮⊮¶⊯⊯¶⋠⋠¶⋡⋡¶⋢⋢¶⋣⋣¶⋪⋪¶⋫⋫¶⋬⋬¶⋭⋭¶〈〈¶〉〉¶①1¶②2¶③3¶④4¶⑤5¶⑥6¶⑦7¶⑧8¶⑨9¶⑩10¶⑪11¶⑫12¶⑬13",
    "⑭14¶⑮15¶⑯16¶⑰17¶⑱18¶⑲19¶⑳20¶⑴(1)¶⑵(2)¶⑶(3)¶⑷(4)¶⑸(5)¶⑹(6)¶⑺(7)¶⑻(8)¶⑼(9)¶⑽(10)¶⑾(11)¶⑿(12)",
    "⒀(13)¶⒁(14)¶⒂(15)¶⒃(16)¶⒄(17)¶⒅(18)¶⒆(19)¶⒇(20)¶⒈1.¶⒉2.¶⒊3.¶⒋4.¶⒌5.¶⒍6.¶⒎7.¶⒏8.¶⒐9.¶⒑10.",
    "⒒11.¶⒓12.¶⒔13.¶⒕14.¶⒖15.¶⒗16.¶⒘17.¶⒙18.¶⒚19.¶⒛20.¶⒜(a)¶⒝(b)¶⒞(c)¶⒟(d)¶⒠(e)¶⒡(f)¶⒢(g)¶⒣(h)",
    "⒤(i)¶⒥(j)¶⒦(k)¶⒧(l)¶⒨(m)¶⒩(n)¶⒪(o)¶⒫(p)¶⒬(q)¶⒭(r)¶⒮(s)¶⒯(t)¶⒰(u)¶⒱(v)¶⒲(w)¶⒳(x)¶⒴(y)¶⒵(z)",
    "ⒶA¶ⒷB¶ⒸC¶ⒹD¶ⒺE¶ⒻF¶ⒼG¶ⒽH¶ⒾI¶ⒿJ¶ⓀK¶ⓁL¶ⓂM¶ⓃN¶ⓄO¶ⓅP¶ⓆQ¶ⓇR¶ⓈS¶ⓉT¶ⓊU¶ⓋV¶ⓌW¶ⓍX¶ⓎY¶ⓏZ¶ⓐa¶ⓑb¶ⓒc¶ⓓd",
    "ⓔe¶ⓕf¶ⓖg¶ⓗh¶ⓘi¶ⓙj¶ⓚk¶ⓛl¶ⓜm¶ⓝn¶ⓞo¶ⓟp¶ⓠq¶ⓡr¶ⓢs¶ⓣt¶ⓤu¶ⓥv¶ⓦw¶ⓧx¶ⓨy¶ⓩz¶⓪0¶⨌∫∫∫∫¶⩴::=¶⩵==¶⩶===",
    "⫝̸⫝̸¶⺟母¶⻳龟¶⼀一¶⼁丨¶⼂丶¶⼃丿¶⼄乙¶⼅亅¶⼆二¶⼇亠¶⼈人¶⼉儿¶⼊入¶⼋八¶⼌冂¶⼍冖¶⼎冫¶⼏几¶⼐凵¶⼑刀¶⼒力¶⼓勹¶⼔匕¶⼕匚¶⼖匸¶⼗十¶⼘卜¶⼙卩¶⼚厂",
    "⼛厶¶⼜又¶⼝口¶⼞囗¶⼟土¶⼠士¶⼡夂¶⼢夊¶⼣夕¶⼤大¶⼥女¶⼦子¶⼧宀¶⼨寸¶⼩小¶⼪尢¶⼫尸¶⼬屮¶⼭山¶⼮巛¶⼯工¶⼰己¶⼱巾¶⼲干¶⼳幺¶⼴广¶⼵廴¶⼶廾¶⼷弋¶⼸弓",
    "⼹彐¶⼺彡¶⼻彳¶⼼心¶⼽戈¶⼾戶¶⼿手¶⽀支¶⽁攴¶⽂文¶⽃斗¶⽄斤¶⽅方¶⽆无¶⽇日¶⽈曰¶⽉月¶⽊木¶⽋欠¶⽌止¶⽍歹¶⽎殳¶⽏毋¶⽐比¶⽑毛¶⽒氏¶⽓气¶⽔水¶⽕火¶⽖爪",
    "⽗父¶⽘爻¶⽙爿¶⽚片¶⽛牙¶⽜牛¶⽝犬¶⽞玄¶⽟玉¶⽠瓜¶⽡瓦¶⽢甘¶⽣生¶⽤用¶⽥田¶⽦疋¶⽧疒¶⽨癶¶⽩白¶⽪皮¶⽫皿¶⽬目¶⽭矛¶⽮矢¶⽯石¶⽰示¶⽱禸¶⽲禾¶⽳穴¶⽴立",
    "⽵竹¶⽶米¶⽷糸¶⽸缶¶⽹网¶⽺羊¶⽻羽¶⽼老¶⽽而¶⽾耒¶⽿耳¶⾀聿¶⾁肉¶⾂臣¶⾃自¶⾄至¶⾅臼¶⾆舌¶⾇舛¶⾈舟¶⾉艮¶⾊色¶⾋艸¶⾌虍¶⾍虫¶⾎血¶⾏行¶⾐衣¶⾑襾¶⾒見",
    "⾓角¶⾔言¶⾕谷¶⾖豆¶⾗豕¶⾘豸¶⾙貝¶⾚赤¶⾛走¶⾜足¶⾝身¶⾞車¶⾟辛¶⾠辰¶⾡辵¶⾢邑¶⾣酉¶⾤釆¶⾥里¶⾦金¶⾧長¶⾨門¶⾩阜¶⾪隶¶⾫隹¶⾬雨¶⾭靑¶⾮非¶⾯面¶⾰革",
    "⾱韋¶⾲韭¶⾳音¶⾴頁¶⾵風¶⾶飛¶⾷食¶⾸首¶⾹香¶⾺馬¶⾻骨¶⾼高¶⾽髟¶⾾鬥¶⾿鬯¶⿀鬲¶⿁鬼¶⿂魚¶⿃鳥¶⿄鹵¶⿅鹿¶⿆麥¶⿇麻¶⿈黃¶⿉黍¶⿊黑¶⿋黹¶⿌黽¶⿍鼎¶⿎鼓",
    "⿏鼠¶⿐鼻¶⿑齊¶⿒齒¶⿓龍¶⿔龜¶⿕龠¶　 ¶〶〒¶〸十¶〹卄¶〺卅¶がが¶ぎぎ¶ぐぐ¶げげ¶ごご¶ざざ¶じじ¶ずず¶ぜぜ¶ぞぞ¶だだ¶ぢぢ¶づづ¶でで",
    "どど¶ばば¶ぱぱ¶びび¶ぴぴ¶ぶぶ¶ぷぷ¶べべ¶ぺぺ¶ぼぼ¶ぽぽ¶ゔゔ¶゛ ゙¶゜ ゚¶ゞゞ¶ゟより¶ガガ¶ギギ¶ググ¶ゲゲ¶ゴゴ¶ザザ¶ジジ",
    "ズズ¶ゼゼ¶ゾゾ¶ダダ¶ヂヂ¶ヅヅ¶デデ¶ドド¶ババ¶パパ¶ビビ¶ピピ¶ブブ¶ププ¶ベベ¶ペペ¶ボボ¶ポポ¶ヴヴ¶ヷヷ¶ヸヸ¶ヹヹ¶ヺヺ",
    "ヾヾ¶ヿコト¶ㄱᄀ¶ㄲᄁ¶ㄳᆪ¶ㄴᄂ¶ㄵᆬ¶ㄶᆭ¶ㄷᄃ¶ㄸᄄ¶ㄹᄅ¶ㄺᆰ¶ㄻᆱ¶ㄼᆲ¶ㄽᆳ¶ㄾᆴ¶ㄿᆵ¶ㅀᄚ¶ㅁᄆ¶ㅂᄇ¶ㅃᄈ¶ㅄᄡ¶ㅅᄉ¶ㅆᄊ¶ㅇᄋ¶ㅈᄌ¶ㅉᄍ¶ㅊᄎ¶ㅋᄏ¶ㅌᄐ",
    "ㅍᄑ¶ㅎᄒ¶ㅏᅡ¶ㅐᅢ¶ㅑᅣ¶ㅒᅤ¶ㅓᅥ¶ㅔᅦ¶ㅕᅧ¶ㅖᅨ¶ㅗᅩ¶ㅘᅪ¶ㅙᅫ¶ㅚᅬ¶ㅛᅭ¶ㅜᅮ¶ㅝᅯ¶ㅞᅰ¶ㅟᅱ¶ㅠᅲ¶ㅡᅳ¶ㅢᅴ¶ㅣᅵ¶ㅤᅠ¶ㅥᄔ¶ㅦᄕ¶ㅧᇇ¶ㅨᇈ¶ㅩᇌ¶ㅪᇎ",
    "ㅫᇓ¶ㅬᇗ¶ㅭᇙ¶ㅮᄜ¶ㅯᇝ¶ㅰᇟ¶ㅱᄝ¶ㅲᄞ¶ㅳᄠ¶ㅴᄢ¶ㅵᄣ¶ㅶᄧ¶ㅷᄩ¶ㅸᄫ¶ㅹᄬ¶ㅺᄭ¶ㅻᄮ¶ㅼᄯ¶ㅽᄲ¶ㅾᄶ¶ㅿᅀ¶ㆀᅇ¶ㆁᅌ¶ㆂᇱ¶ㆃᇲ¶ㆄᅗ¶ㆅᅘ¶ㆆᅙ¶ㆇᆄ¶ㆈᆅ",
    "ㆉᆈ¶ㆊᆑ¶ㆋᆒ¶ㆌᆔ¶ㆍᆞ¶ㆎᆡ¶㆒一¶㆓二¶㆔三¶㆕四¶㆖上¶㆗中¶㆘下¶㆙甲¶㆚乙¶㆛丙¶㆜丁¶㆝天¶㆞地¶㆟人¶㈀(ᄀ)¶㈁(ᄂ)¶㈂(ᄃ)¶㈃(ᄅ)¶㈄(ᄆ)¶㈅(ᄇ)",
    "㈆(ᄉ)¶㈇(ᄋ)¶㈈(ᄌ)¶㈉(ᄎ)¶㈊(ᄏ)¶㈋(ᄐ)¶㈌(ᄑ)¶㈍(ᄒ)¶㈎(가)¶㈏(나)¶㈐(다)¶㈑(라)¶㈒(마)¶㈓(바)¶㈔(사)¶㈕(아)",
    "㈖(자)¶㈗(차)¶㈘(카)¶㈙(타)¶㈚(파)¶㈛(하)¶㈜(주)¶㈠(一)¶㈡(二)¶㈢(三)¶㈣(四)¶㈤(五)¶㈥(六)¶㈦(七)¶㈧(八)¶㈨(九)¶㈩(十)",
    "㈪(月)¶㈫(火)¶㈬(水)¶㈭(木)¶㈮(金)¶㈯(土)¶㈰(日)¶㈱(株)¶㈲(有)¶㈳(社)¶㈴(名)¶㈵(特)¶㈶(財)¶㈷(祝)¶㈸(労)¶㈹(代)¶㈺(呼)¶㈻(学)",
    "㈼(監)¶㈽(企)¶㈾(資)¶㈿(協)¶㉀(祭)¶㉁(休)¶㉂(自)¶㉃(至)¶㉑21¶㉒22¶㉓23¶㉔24¶㉕25¶㉖26¶㉗27¶㉘28¶㉙29¶㉚30¶㉛31¶㉜32¶㉝33",
    "㉞34¶㉟35¶㉠ᄀ¶㉡ᄂ¶㉢ᄃ¶㉣ᄅ¶㉤ᄆ¶㉥ᄇ¶㉦ᄉ¶㉧ᄋ¶㉨ᄌ¶㉩ᄎ¶㉪ᄏ¶㉫ᄐ¶㉬ᄑ¶㉭ᄒ¶㉮가¶㉯나¶㉰다¶㉱라¶㉲마¶㉳바¶㉴사¶㉵아¶㉶자¶㉷차",
    "㉸카¶㉹타¶㉺파¶㉻하¶㊀一¶㊁二¶㊂三¶㊃四¶㊄五¶㊅六¶㊆七¶㊇八¶㊈九¶㊉十¶㊊月¶㊋火¶㊌水¶㊍木¶㊎金¶㊏土¶㊐日¶㊑株¶㊒有¶㊓社¶㊔名¶㊕特¶㊖財¶㊗祝¶㊘労",
    "㊙秘¶㊚男¶㊛女¶㊜適¶㊝優¶㊞印¶㊟注¶㊠項¶㊡休¶㊢写¶㊣正¶㊤上¶㊥中¶㊦下¶㊧左¶㊨右¶㊩医¶㊪宗¶㊫学¶㊬監¶㊭企¶㊮資¶㊯協¶㊰夜¶㊱36¶㊲37¶㊳38¶㊴39¶㊵40",
    "㊶41¶㊷42¶㊸43¶㊹44¶㊺45¶㊻46¶㊼47¶㊽48¶㊾49¶㊿50¶㋀1月¶㋁2月¶㋂3月¶㋃4月¶㋄5月¶㋅6月¶㋆7月¶㋇8月¶㋈9月¶㋉10月¶㋊11月¶㋋12月",
    "㋐ア¶㋑イ¶㋒ウ¶㋓エ¶㋔オ¶㋕カ¶㋖キ¶㋗ク¶㋘ケ¶㋙コ¶㋚サ¶㋛シ¶㋜ス¶㋝セ¶㋞ソ¶㋟タ¶㋠チ¶㋡ツ¶㋢テ¶㋣ト¶㋤ナ¶㋥ニ¶㋦ヌ¶㋧ネ¶㋨ノ¶㋩ハ¶㋪ヒ¶㋫フ¶㋬ヘ¶㋭ホ",
    "㋮マ¶㋯ミ¶㋰ム¶㋱メ¶㋲モ¶㋳ヤ¶㋴ユ¶㋵ヨ¶㋶ラ¶㋷リ¶㋸ル¶㋹レ¶㋺ロ¶㋻ワ¶㋼ヰ¶㋽ヱ¶㋾ヲ¶㌀アパート¶㌁アルファ¶㌂アンペア¶㌃アール¶㌄イニング¶㌅インチ",
    "㌆ウォン¶㌇エスクード¶㌈エーカー¶㌉オンス¶㌊オーム¶㌋カイリ¶㌌カラット¶㌍カロリー¶㌎ガロン¶㌏ガンマ¶㌐ギガ¶㌑ギニー¶㌒キュリー¶㌓ギルダー¶㌔キロ",
    "㌕キログラム¶㌖キロメートル¶㌗キロワット¶㌘グラム¶㌙グラムトン¶㌚クルゼイロ¶㌛クローネ¶㌜ケース¶㌝コルナ¶㌞コーポ¶㌟サイクル¶㌠サンチーム¶㌡シリング¶㌢センチ",
    "㌣セント¶㌤ダース¶㌥デシ¶㌦ドル¶㌧トン¶㌨ナノ¶㌩ノット¶㌪ハイツ¶㌫パーセント¶㌬パーツ¶㌭バーレル¶㌮ピアストル¶㌯ピクル¶㌰ピコ¶㌱ビル¶㌲ファラッド",
    "㌳フィート¶㌴ブッシェル¶㌵フラン¶㌶ヘクタール¶㌷ペソ¶㌸ペニヒ¶㌹ヘルツ¶㌺ペンス¶㌻ページ¶㌼ベータ¶㌽ポイント¶㌾ボルト¶㌿ホン¶㍀ポンド¶㍁ホール",
    "㍂ホーン¶㍃マイクロ¶㍄マイル¶㍅マッハ¶㍆マルク¶㍇マンション¶㍈ミクロン¶㍉ミリ¶㍊ミリバール¶㍋メガ¶㍌メガトン¶㍍メートル¶㍎ヤード¶㍏ヤール¶㍐ユアン¶㍑リットル",
    "㍒リラ¶㍓ルピー¶㍔ルーブル¶㍕レム¶㍖レントゲン¶㍗ワット¶㍘0点¶㍙1点¶㍚2点¶㍛3点¶㍜4点¶㍝5点¶㍞6点¶㍟7点¶㍠8点¶㍡9点¶㍢10点¶㍣11点¶㍤12点",
    "㍥13点¶㍦14点¶㍧15点¶㍨16点¶㍩17点¶㍪18点¶㍫19点¶㍬20点¶㍭21点¶㍮22点¶㍯23点¶㍰24点¶㍱hPa¶㍲da¶㍳AU¶㍴bar¶㍵oV¶㍶pc¶㍻平成",
    "㍼昭和¶㍽大正¶㍾明治¶㍿株式会社¶㎀pA¶㎁nA¶㎂μA¶㎃mA¶㎄kA¶㎅KB¶㎆MB¶㎇GB¶㎈cal¶㎉kcal¶㎊pF¶㎋nF¶㎌μF¶㎍μg¶㎎mg¶㎏kg¶㎐Hz",
    "㎑kHz¶㎒MHz¶㎓GHz¶㎔THz¶㎕μl¶㎖ml¶㎗dl¶㎘kl¶㎙fm¶㎚nm¶㎛μm¶㎜mm¶㎝cm¶㎞km¶㎟mm2¶㎠cm2¶㎡m2¶㎢km2¶㎣mm3¶㎤cm3",
    "㎥m3¶㎦km3¶㎧m∕s¶㎨m∕s2¶㎩Pa¶㎪kPa¶㎫MPa¶㎬GPa¶㎭rad¶㎮rad∕s¶㎯rad∕s2¶㎰ps¶㎱ns¶㎲μs¶㎳ms¶㎴pV¶㎵nV¶㎶μV¶㎷mV",
    "㎸kV¶㎹MV¶㎺pW¶㎻nW¶㎼μW¶㎽mW¶㎾kW¶㎿MW¶㏀kΩ¶㏁MΩ¶㏂a.m.¶㏃Bq¶㏄cc¶㏅cd¶㏆C∕kg¶㏇Co.¶㏈dB¶㏉Gy¶㏊ha¶㏋HP¶㏌in",
    "㏍KK¶㏎KM¶㏏kt¶㏐lm¶㏑ln¶㏒log¶㏓lx¶㏔mb¶㏕mil¶㏖mol¶㏗PH¶㏘p.m.¶㏙PPM¶㏚PR¶㏛sr¶㏜Sv¶㏝Wb¶㏠1日¶㏡2日¶㏢3日¶㏣4日",
    "㏤5日¶㏥6日¶㏦7日¶㏧8日¶㏨9日¶㏩10日¶㏪11日¶㏫12日¶㏬13日¶㏭14日¶㏮15日¶㏯16日¶㏰17日¶㏱18日¶㏲19日¶㏳20日¶㏴21日¶㏵22日¶㏶23日",
    "㏷24日¶㏸25日¶㏹26日¶㏺27日¶㏻28日¶㏼29日¶㏽30日¶㏾31日¶豈豈¶更更¶車車¶賈賈¶滑滑¶串串¶句句¶龜龜¶龜龜¶契契¶金金¶喇喇¶奈奈¶懶懶¶癩癩¶羅羅¶蘿蘿",
    "螺螺¶裸裸¶邏邏¶樂樂¶洛洛¶烙烙¶珞珞¶落落¶酪酪¶駱駱¶亂亂¶卵卵¶欄欄¶爛爛¶蘭蘭¶鸞鸞¶嵐嵐¶濫濫¶藍藍¶襤襤¶拉拉¶臘臘¶蠟蠟¶廊廊¶朗朗¶浪浪¶狼狼¶郎郎¶來來¶冷冷",
    "勞勞¶擄擄¶櫓櫓¶爐爐¶盧盧¶老老¶蘆蘆¶虜虜¶路路¶露露¶魯魯¶鷺鷺¶碌碌¶祿祿¶綠綠¶菉菉¶錄錄¶鹿鹿¶論論¶壟壟¶弄弄¶籠籠¶聾聾¶牢牢¶磊磊¶賂賂¶雷雷¶壘壘¶屢屢¶樓樓",
    "淚淚¶漏漏¶累累¶縷縷¶陋陋¶勒勒¶肋肋¶凜凜¶凌凌¶稜稜¶綾綾¶菱菱¶陵陵¶讀讀¶拏拏¶樂樂¶諾諾¶丹丹¶寧寧¶怒怒¶率率¶異異¶北北¶磻磻¶便便¶復復¶不不¶泌泌¶數數¶索索",
    "參參¶塞塞¶省省¶葉葉¶說說¶殺殺¶辰辰¶沈沈¶拾拾¶若若¶掠掠¶略略¶亮亮¶兩兩¶凉凉¶梁梁¶糧糧¶良良¶諒諒¶量量¶勵勵¶呂呂¶女女¶廬廬¶旅旅¶濾濾¶礪礪¶閭閭¶驪驪¶麗麗",
    "黎黎¶力力¶曆曆¶歷歷¶轢轢¶年年¶憐憐¶戀戀¶撚撚¶漣漣¶煉煉¶璉璉¶秊秊¶練練¶聯聯¶輦輦¶蓮蓮¶連連¶鍊鍊¶列列¶劣劣¶咽咽¶烈烈¶裂裂¶說說¶廉廉¶念念¶捻捻¶殮殮¶簾簾",
    "獵獵¶令令¶囹囹¶寧寧¶嶺嶺¶怜怜¶玲玲¶瑩瑩¶羚羚¶聆聆¶鈴鈴¶零零¶靈靈¶領領¶例例¶禮禮¶醴醴¶隸隸¶惡惡¶了了¶僚僚¶寮寮¶尿尿¶料料¶樂樂¶燎燎¶療療¶蓼蓼¶遼遼¶龍龍",
    "暈暈¶阮阮¶劉劉¶杻杻¶柳柳¶流流¶溜溜¶琉琉¶留留¶硫硫¶紐紐¶類類¶六六¶戮戮¶陸陸¶倫倫¶崙崙¶淪淪¶輪輪¶律律¶慄慄¶栗栗¶率率¶隆隆¶利利¶吏吏¶履履¶易易¶李李¶梨梨",
    "泥泥¶理理¶痢痢¶罹罹¶裏裏¶裡裡¶里里¶離離¶匿匿¶溺溺¶吝吝¶燐燐¶璘璘¶藺藺¶隣隣¶鱗鱗¶麟麟¶林林¶淋淋¶臨臨¶立立¶笠笠¶粒粒¶狀狀¶炙炙¶識識¶什什¶茶茶¶刺刺¶切切",
    "度度¶拓拓¶糖糖¶宅宅¶洞洞¶暴暴¶輻輻¶行行¶降降¶見見¶廓廓¶兀兀¶嗀嗀¶塚塚¶晴晴¶凞凞¶猪猪¶益益¶礼礼¶神神¶祥祥¶福福¶靖靖¶精精¶羽羽¶蘒蘒¶諸諸¶逸逸¶都都¶飯飯",
    "飼飼¶館館¶鶴鶴¶侮侮¶僧僧¶免免¶勉勉¶勤勤¶卑卑¶喝喝¶嘆嘆¶器器¶塀塀¶墨墨¶層層¶屮屮¶悔悔¶慨慨¶憎憎¶懲懲¶敏敏¶既既¶暑暑¶梅梅¶海海¶渚渚¶漢漢¶煮煮¶爫爫¶琢琢",
    "碑碑¶社社¶祉祉¶祈祈¶祐祐¶祖祖¶祝祝¶禍禍¶禎禎¶穀穀¶突突¶節節¶練練¶縉縉¶繁繁¶署署¶者者¶臭臭¶艹艹¶艹艹¶著著¶褐褐¶視視¶謁謁¶謹謹¶賓賓¶贈贈¶辶辶¶逸逸¶難難",
    "響響¶頻頻¶ﬀff¶ﬁfi¶ﬂfl¶ﬃffi¶ﬄffl¶ﬅst¶ﬆst¶ﬓմն¶ﬔմե¶ﬕմի¶ﬖվն¶ﬗմխ¶יִיִ¶ײַײַ¶ﬠע¶ﬡא¶ﬢד¶ﬣה¶ﬤכ¶ﬥל¶ﬦם¶ﬧר¶ﬨת",
    "﬩+¶שׁשׁ¶שׂשׂ¶שּׁשּׁ¶שּׂשּׂ¶אַאַ¶אָאָ¶אּאּ¶בּבּ¶גּגּ¶דּדּ¶הּהּ¶וּוּ¶זּזּ¶טּטּ¶יּיּ¶ךּךּ¶כּכּ¶לּלּ¶מּמּ¶נּנּ¶סּסּ",
    "ףּףּ¶פּפּ¶צּצּ¶קּקּ¶רּרּ¶שּשּ¶תּתּ¶וֹוֹ¶בֿבֿ¶כֿכֿ¶פֿפֿ¶ﭏאל¶ﭐٱ¶ﭑٱ¶ﭒٻ¶ﭓٻ¶ﭔٻ¶ﭕٻ¶ﭖپ¶ﭗپ¶ﭘپ¶ﭙپ¶ﭚڀ¶ﭛڀ¶ﭜڀ¶ﭝڀ",
    "ﭞٺ¶ﭟٺ¶ﭠٺ¶ﭡٺ¶ﭢٿ¶ﭣٿ¶ﭤٿ¶ﭥٿ¶ﭦٹ¶ﭧٹ¶ﭨٹ¶ﭩٹ¶ﭪڤ¶ﭫڤ¶ﭬڤ¶ﭭڤ¶ﭮڦ¶ﭯڦ¶ﭰڦ¶ﭱڦ¶ﭲڄ¶ﭳڄ¶ﭴڄ¶ﭵڄ¶ﭶڃ¶ﭷڃ¶ﭸڃ¶ﭹڃ¶ﭺچ¶ﭻچ",
    "ﭼچ¶ﭽچ¶ﭾڇ¶ﭿڇ¶ﮀڇ¶ﮁڇ¶ﮂڍ¶ﮃڍ¶ﮄڌ¶ﮅڌ¶ﮆڎ¶ﮇڎ¶ﮈڈ¶ﮉڈ¶ﮊژ¶ﮋژ¶ﮌڑ¶ﮍڑ¶ﮎک¶ﮏک¶ﮐک¶ﮑک¶ﮒگ¶ﮓگ¶ﮔگ¶ﮕگ¶ﮖڳ¶ﮗڳ¶ﮘڳ¶ﮙڳ",
    "ﮚڱ¶ﮛڱ¶ﮜڱ¶ﮝڱ¶ﮞں¶ﮟں¶ﮠڻ¶ﮡڻ¶ﮢڻ¶ﮣڻ¶ﮤۀ¶ﮥۀ¶ﮦہ¶ﮧہ¶ﮨہ¶ﮩہ¶ﮪھ¶ﮫھ¶ﮬھ¶ﮭھ¶ﮮے¶ﮯے¶ﮰۓ¶ﮱۓ¶ﯓڭ¶ﯔڭ¶ﯕڭ¶ﯖڭ¶ﯗۇ",
    "ﯘۇ¶ﯙۆ¶ﯚۆ¶ﯛۈ¶ﯜۈ¶ﯝۇٴ¶ﯞۋ¶ﯟۋ¶ﯠۅ¶ﯡۅ¶ﯢۉ¶ﯣۉ¶ﯤې¶ﯥې¶ﯦې¶ﯧې¶ﯨى¶ﯩى¶ﯪئا¶ﯫئا¶ﯬئە¶ﯭئە¶ﯮئو¶ﯯئو¶ﯰئۇ",
    "ﯱئۇ¶ﯲئۆ¶ﯳئۆ¶ﯴئۈ¶ﯵئۈ¶ﯶئې¶ﯷئې¶ﯸئې¶ﯹئى¶ﯺئى¶ﯻئى¶ﯼی¶ﯽی¶ﯾی¶ﯿی¶ﰀئج¶ﰁئح¶ﰂئم¶ﰃئى¶ﰄئي",
    "ﰅبج¶ﰆبح¶ﰇبخ¶ﰈبم¶ﰉبى¶ﰊبي¶ﰋتج¶ﰌتح¶ﰍتخ¶ﰎتم¶ﰏتى¶ﰐتي¶ﰑثج¶ﰒثم¶ﰓثى¶ﰔثي¶ﰕجح¶ﰖجم¶ﰗحج¶ﰘحم¶ﰙخج¶ﰚخح¶ﰛخم",
    "ﰜسج¶ﰝسح¶ﰞسخ¶ﰟسم¶ﰠصح¶ﰡصم¶ﰢضج¶ﰣضح¶ﰤضخ¶ﰥضم¶ﰦطح¶ﰧطم¶ﰨظم¶ﰩعج¶ﰪعم¶ﰫغج¶ﰬغم¶ﰭفج¶ﰮفح¶ﰯفخ¶ﰰفم¶ﰱفى¶ﰲفي",
    "ﰳقح¶ﰴقم¶ﰵقى¶ﰶقي¶ﰷكا¶ﰸكج¶ﰹكح¶ﰺكخ¶ﰻكل¶ﰼكم¶ﰽكى¶ﰾكي¶ﰿلج¶ﱀلح¶ﱁلخ¶ﱂلم¶ﱃلى¶ﱄلي¶ﱅمج¶ﱆمح¶ﱇمخ¶ﱈمم¶ﱉمى",
    "ﱊمي¶ﱋنج¶ﱌنح¶ﱍنخ¶ﱎنم¶ﱏنى¶ﱐني¶ﱑهج¶ﱒهم¶ﱓهى¶ﱔهي¶ﱕيج¶ﱖيح¶ﱗيخ¶ﱘيم¶ﱙيى¶ﱚيي¶ﱛذٰ¶ﱜرٰ¶ﱝىٰ¶ﱞ ٌّ¶ﱟ ٍّ",
    "ﱠ َّ¶ﱡ ُّ¶ﱢ ِّ¶ﱣ ّٰ¶ﱤئر¶ﱥئز¶ﱦئم¶ﱧئن¶ﱨئى¶ﱩئي¶ﱪبر¶ﱫبز¶ﱬبم¶ﱭبن¶ﱮبى¶ﱯبي¶ﱰتر¶ﱱتز¶ﱲتم¶ﱳتن",
    "ﱴتى¶ﱵتي¶ﱶثر¶ﱷثز¶ﱸثم¶ﱹثن¶ﱺثى¶ﱻثي¶ﱼفى¶ﱽفي¶ﱾقى¶ﱿقي¶ﲀكا¶ﲁكل¶ﲂكم¶ﲃكى¶ﲄكي¶ﲅلم¶ﲆلى¶ﲇلي¶ﲈما¶ﲉمم¶ﲊنر",
    "ﲋنز¶ﲌنم¶ﲍنن¶ﲎنى¶ﲏني¶ﲐىٰ¶ﲑير¶ﲒيز¶ﲓيم¶ﲔين¶ﲕيى¶ﲖيي¶ﲗئج¶ﲘئح¶ﲙئخ¶ﲚئم¶ﲛئه¶ﲜبج¶ﲝبح¶ﲞبخ¶ﲟبم",
    "ﲠبه¶ﲡتج¶ﲢتح¶ﲣتخ¶ﲤتم¶ﲥته¶ﲦثم¶ﲧجح¶ﲨجم¶ﲩحج¶ﲪحم¶ﲫخج¶ﲬخم¶ﲭسج¶ﲮسح¶ﲯسخ¶ﲰسم¶ﲱصح¶ﲲصخ¶ﲳصم¶ﲴضج¶ﲵضح¶ﲶضخ",
    "ﲷضم¶ﲸطح¶ﲹظم¶ﲺعج¶ﲻعم¶ﲼغج¶ﲽغم¶ﲾفج¶ﲿفح¶ﳀفخ¶ﳁفم¶ﳂقح¶ﳃقم¶ﳄكج¶ﳅكح¶ﳆكخ¶ﳇكل¶ﳈكم¶ﳉلج¶ﳊلح¶ﳋلخ¶ﳌلم¶ﳍله",
    "ﳎمج¶ﳏمح¶ﳐمخ¶ﳑمم¶ﳒنج¶ﳓنح¶ﳔنخ¶ﳕنم¶ﳖنه¶ﳗهج¶ﳘهم¶ﳙهٰ¶ﳚيج¶ﳛيح¶ﳜيخ¶ﳝيم¶ﳞيه¶ﳟئم¶ﳠئه¶ﳡبم¶ﳢبه¶ﳣتم",
    "ﳤته¶ﳥثم¶ﳦثه¶ﳧسم¶ﳨسه¶ﳩشم¶ﳪشه¶ﳫكل¶ﳬكم¶ﳭلم¶ﳮنم¶ﳯنه¶ﳰيم¶ﳱيه¶ﳲـَّ¶ﳳـُّ¶ﳴـِّ¶ﳵطى¶ﳶطي¶ﳷعى¶ﳸعي¶ﳹغى",
    "ﳺغي¶ﳻسى¶ﳼسي¶ﳽشى¶ﳾشي¶ﳿحى¶ﴀحي¶ﴁجى¶ﴂجي¶ﴃخى¶ﴄخي¶ﴅصى¶ﴆصي¶ﴇضى¶ﴈضي¶ﴉشج¶ﴊشح¶ﴋشخ¶ﴌشم¶ﴍشر¶ﴎسر¶ﴏصر¶ﴐضر",
    "ﴑطى¶ﴒطي¶ﴓعى¶ﴔعي¶ﴕغى¶ﴖغي¶ﴗسى¶ﴘسي¶ﴙشى¶ﴚشي¶ﴛحى¶ﴜحي¶ﴝجى¶ﴞجي¶ﴟخى¶ﴠخي¶ﴡصى¶ﴢصي¶ﴣضى¶ﴤضي¶ﴥشج¶ﴦشح¶ﴧشخ",
    "ﴨشم¶ﴩشر¶ﴪسر¶ﴫصر¶ﴬضر¶ﴭشج¶ﴮشح¶ﴯشخ¶ﴰشم¶ﴱسه¶ﴲشه¶ﴳطم¶ﴴسج¶ﴵسح¶ﴶسخ¶ﴷشج¶ﴸشح¶ﴹشخ¶ﴺطم¶ﴻظم¶ﴼاً¶ﴽاً",
    "ﵐتجم¶ﵑتحج¶ﵒتحج¶ﵓتحم¶ﵔتخم¶ﵕتمج¶ﵖتمح¶ﵗتمخ¶ﵘجمح¶ﵙجمح¶ﵚحمي¶ﵛحمى¶ﵜسحج¶ﵝسجح¶ﵞسجى¶ﵟسمح¶ﵠسمح¶ﵡسمج",
    "ﵢسمم¶ﵣسمم¶ﵤصحح¶ﵥصحح¶ﵦصمم¶ﵧشحم¶ﵨشحم¶ﵩشجي¶ﵪشمخ¶ﵫشمخ¶ﵬشمم¶ﵭشمم¶ﵮضحى¶ﵯضخم¶ﵰضخم¶ﵱطمح¶ﵲطمح¶ﵳطمم",
    "ﵴطمي¶ﵵعجم¶ﵶعمم¶ﵷعمم¶ﵸعمى¶ﵹغمم¶ﵺغمي¶ﵻغمى¶ﵼفخم¶ﵽفخم¶ﵾقمح¶ﵿقمم¶ﶀلحم¶ﶁلحي¶ﶂلحى¶ﶃلجج¶ﶄلجج¶ﶅلخم",
    "ﶆلخم¶ﶇلمح¶ﶈلمح¶ﶉمحج¶ﶊمحم¶ﶋمحي¶ﶌمجح¶ﶍمجم¶ﶎمخج¶ﶏمخم¶ﶒمجخ¶ﶓهمج¶ﶔهمم¶ﶕنحم¶ﶖنحى¶ﶗنجم¶ﶘنجم¶ﶙنجى",
    "ﶚنمي¶ﶛنمى¶ﶜيمم¶ﶝيمم¶ﶞبخي¶ﶟتجي¶ﶠتجى¶ﶡتخي¶ﶢتخى¶ﶣتمي¶ﶤتمى¶ﶥجمي¶ﶦجحى¶ﶧجمى¶ﶨسخى¶ﶩصحي¶ﶪشحي¶ﶫضحي",
    "ﶬلجي¶ﶭلمي¶ﶮيحي¶ﶯيجي¶ﶰيمي¶ﶱممي¶ﶲقمي¶ﶳنحي¶ﶴقمح¶ﶵلحم¶ﶶعمي¶ﶷكمي¶ﶸنجح¶ﶹمخي¶ﶺلجم¶ﶻكمم¶ﶼلجم¶ﶽنجح",
    "ﶾجحي¶ﶿحجي¶ﷀمجي¶ﷁفمي¶ﷂبحي¶ﷃكمم¶ﷄعجم¶ﷅصمم¶ﷆسخي¶ﷇنجي¶ﷰصلے¶ﷱقلے¶ﷲالله¶ﷳاكبر¶ﷴمحمد¶ﷵصلعم¶ﷶرسول",
    "ﷷعليه¶ﷸوسلم¶ﷹصلى¶ﷺصلى الله عليه وسلم¶ﷻجل جلاله¶﷼ریال¶︰..¶︱—¶︲–¶︳_¶︴_¶︵(¶︶)¶︷\x7b¶︸\x7d¶︹〔",
    "︺〕¶︻【¶︼】¶︽《¶︾》¶︿〈¶﹀〉¶﹁「¶﹂」¶﹃『¶﹄』¶﹉ ̅¶﹊ ̅¶﹋ ̅¶﹌ ̅¶﹍_¶﹎_¶﹏_¶﹐,¶﹑、¶﹒.¶﹔;¶﹕:¶﹖?¶﹗!¶﹘—¶﹙(¶﹚)",
    "﹛\x7b¶﹜\x7d¶﹝〔¶﹞〕¶﹟#¶﹠&¶﹡*¶﹢+¶﹣-¶﹤<¶﹥>¶﹦=¶﹨\\¶﹩$¶﹪%¶﹫@¶ﹰ ً¶ﹱـً¶ﹲ ٌ¶ﹴ ٍ¶ﹶ َ¶ﹷـَ¶ﹸ ُ¶ﹹـُ¶ﹺ ِ",
    "ﹻـِ¶ﹼ ّ¶ﹽـّ¶ﹾ ْ¶ﹿـْ¶ﺀء¶ﺁآ¶ﺂآ¶ﺃأ¶ﺄأ¶ﺅؤ¶ﺆؤ¶ﺇإ¶ﺈإ¶ﺉئ¶ﺊئ¶ﺋئ¶ﺌئ¶ﺍا¶ﺎا¶ﺏب¶ﺐب¶ﺑب¶ﺒب¶ﺓة",
    "ﺔة¶ﺕت¶ﺖت¶ﺗت¶ﺘت¶ﺙث¶ﺚث¶ﺛث¶ﺜث¶ﺝج¶ﺞج¶ﺟج¶ﺠج¶ﺡح¶ﺢح¶ﺣح¶ﺤح¶ﺥخ¶ﺦخ¶ﺧخ¶ﺨخ¶ﺩد¶ﺪد¶ﺫذ¶ﺬذ¶ﺭر¶ﺮر¶ﺯز¶ﺰز¶ﺱس",
    "ﺲس¶ﺳس¶ﺴس¶ﺵش¶ﺶش¶ﺷش¶ﺸش¶ﺹص¶ﺺص¶ﺻص¶ﺼص¶ﺽض¶ﺾض¶ﺿض¶ﻀض¶ﻁط¶ﻂط¶ﻃط¶ﻄط¶ﻅظ¶ﻆظ¶ﻇظ¶ﻈظ¶ﻉع¶ﻊع¶ﻋع¶ﻌع¶ﻍغ¶ﻎغ¶ﻏغ",
    "ﻐغ¶ﻑف¶ﻒف¶ﻓف¶ﻔف¶ﻕق¶ﻖق¶ﻗق¶ﻘق¶ﻙك¶ﻚك¶ﻛك¶ﻜك¶ﻝل¶ﻞل¶ﻟل¶ﻠل¶ﻡم¶ﻢم¶ﻣم¶ﻤم¶ﻥن¶ﻦن¶ﻧن¶ﻨن¶ﻩه¶ﻪه¶ﻫه¶ﻬه¶ﻭو",
    "ﻮو¶ﻯى¶ﻰى¶ﻱي¶ﻲي¶ﻳي¶ﻴي¶ﻵلآ¶ﻶلآ¶ﻷلأ¶ﻸلأ¶ﻹلإ¶ﻺلإ¶ﻻلا¶ﻼلا¶！!¶＂\"¶＃#¶＄$¶％%¶＆&¶＇'¶（(¶）)¶＊*",
    "＋+¶，,¶－-¶．.¶／/¶０0¶１1¶２2¶３3¶４4¶５5¶６6¶７7¶８8¶９9¶：:¶；;¶＜<¶＝=¶＞>¶？?¶＠@¶ＡA¶ＢB¶ＣC¶ＤD¶ＥE¶ＦF¶ＧG¶ＨH",
    "ＩI¶ＪJ¶ＫK¶ＬL¶ＭM¶ＮN¶ＯO¶ＰP¶ＱQ¶ＲR¶ＳS¶ＴT¶ＵU¶ＶV¶ＷW¶ＸX¶ＹY¶ＺZ¶［[¶＼\\¶］]¶＾^¶＿_¶｀`¶ａa¶ｂb¶ｃc¶ｄd¶ｅe¶ｆf",
    "ｇg¶ｈh¶ｉi¶ｊj¶ｋk¶ｌl¶ｍm¶ｎn¶ｏo¶ｐp¶ｑq¶ｒr¶ｓs¶ｔt¶ｕu¶ｖv¶ｗw¶ｘx¶ｙy¶ｚz¶｛\x7b¶｜|¶｝\x7d¶～~¶｟⦅¶｠⦆¶｡。¶｢「",
    "｣」¶､、¶･・¶ｦヲ¶ｧァ¶ｨィ¶ｩゥ¶ｪェ¶ｫォ¶ｬャ¶ｭュ¶ｮョ¶ｯッ¶ｰー¶ｱア¶ｲイ¶ｳウ¶ｴエ¶ｵオ¶ｶカ¶ｷキ¶ｸク¶ｹケ¶ｺコ¶ｻサ¶ｼシ¶ｽス¶ｾセ¶ｿソ¶ﾀタ",
    "ﾁチ¶ﾂツ¶ﾃテ¶ﾄト¶ﾅナ¶ﾆニ¶ﾇヌ¶ﾈネ¶ﾉノ¶ﾊハ¶ﾋヒ¶ﾌフ¶ﾍヘ¶ﾎホ¶ﾏマ¶ﾐミ¶ﾑム¶ﾒメ¶ﾓモ¶ﾔヤ¶ﾕユ¶ﾖヨ¶ﾗラ¶ﾘリ¶ﾙル¶ﾚレ¶ﾛロ¶ﾜワ¶ﾝン¶ﾞ゙",
    "ﾟ゚¶ﾠᅠ¶ﾡᄀ¶ﾢᄁ¶ﾣᆪ¶ﾤᄂ¶ﾥᆬ¶ﾦᆭ¶ﾧᄃ¶ﾨᄄ¶ﾩᄅ¶ﾪᆰ¶ﾫᆱ¶ﾬᆲ¶ﾭᆳ¶ﾮᆴ¶ﾯᆵ¶ﾰᄚ¶ﾱᄆ¶ﾲᄇ¶ﾳᄈ¶ﾴᄡ¶ﾵᄉ¶ﾶᄊ¶ﾷᄋ¶ﾸᄌ¶ﾹᄍ¶ﾺᄎ¶ﾻᄏ¶ﾼᄐ",
    "ﾽᄑ¶ﾾᄒ¶ￂᅡ¶ￃᅢ¶ￄᅣ¶ￅᅤ¶ￆᅥ¶ￇᅦ¶ￊᅧ¶ￋᅨ¶ￌᅩ¶ￍᅪ¶ￎᅫ¶ￏᅬ¶ￒᅭ¶ￓᅮ¶ￔᅯ¶ￕᅰ¶ￖᅱ¶ￗᅲ¶ￚᅳ¶ￛᅴ¶ￜᅵ¶￠¢¶￡£¶￢¬¶￣ ̄¶￤¦¶￥¥¶￦₩",
    "￨│¶￩←¶￪↑¶￫→¶￬↓¶￭■¶￮○¶𝅗𝅥𝅗𝅥¶𝅘𝅥𝅘𝅥¶𝅘𝅥𝅮𝅘𝅥𝅮¶𝅘𝅥𝅯𝅘𝅥𝅯¶𝅘𝅥𝅰𝅘𝅥𝅰¶𝅘𝅥𝅱𝅘𝅥𝅱¶𝅘𝅥𝅲𝅘𝅥𝅲¶𝆹𝅥𝆹𝅥¶𝆺𝅥𝆺𝅥¶𝆹𝅥𝅮𝆹𝅥𝅮¶𝆺𝅥𝅮𝆺𝅥𝅮¶𝆹𝅥𝅯𝆹𝅥𝅯¶𝆺𝅥𝅯𝆺𝅥𝅯¶𝐀A¶𝐁B¶𝐂C",
    "𝐃D¶𝐄E¶𝐅F¶𝐆G¶𝐇H¶𝐈I¶𝐉J¶𝐊K¶𝐋L¶𝐌M¶𝐍N¶𝐎O¶𝐏P¶𝐐Q¶𝐑R¶𝐒S¶𝐓T¶𝐔U¶𝐕V¶𝐖W¶𝐗X¶𝐘Y¶𝐙Z¶𝐚a¶𝐛b¶𝐜c¶𝐝d¶𝐞e¶𝐟f¶𝐠g",
    "𝐡h¶𝐢i¶𝐣j¶𝐤k¶𝐥l¶𝐦m¶𝐧n¶𝐨o¶𝐩p¶𝐪q¶𝐫r¶𝐬s¶𝐭t¶𝐮u¶𝐯v¶𝐰w¶𝐱x¶𝐲y¶𝐳z¶𝐴A¶𝐵B¶𝐶C¶𝐷D¶𝐸E¶𝐹F¶𝐺G¶𝐻H¶𝐼I¶𝐽J¶𝐾K",
    "𝐿L¶𝑀M¶𝑁N¶𝑂O¶𝑃P¶𝑄Q¶𝑅R¶𝑆S¶𝑇T¶𝑈U¶𝑉V¶𝑊W¶𝑋X¶𝑌Y¶𝑍Z¶𝑎a¶𝑏b¶𝑐c¶𝑑d¶𝑒e¶𝑓f¶𝑔g¶𝑖i¶𝑗j¶𝑘k¶𝑙l¶𝑚m¶𝑛n¶𝑜o¶𝑝p",
    "𝑞q¶𝑟r¶𝑠s¶𝑡t¶𝑢u¶𝑣v¶𝑤w¶𝑥x¶𝑦y¶𝑧z¶𝑨A¶𝑩B¶𝑪C¶𝑫D¶𝑬E¶𝑭F¶𝑮G¶𝑯H¶𝑰I¶𝑱J¶𝑲K¶𝑳L¶𝑴M¶𝑵N¶𝑶O¶𝑷P¶𝑸Q¶𝑹R¶𝑺S¶𝑻T",
    "𝑼U¶𝑽V¶𝑾W¶𝑿X¶𝒀Y¶𝒁Z¶𝒂a¶𝒃b¶𝒄c¶𝒅d¶𝒆e¶𝒇f¶𝒈g¶𝒉h¶𝒊i¶𝒋j¶𝒌k¶𝒍l¶𝒎m¶𝒏n¶𝒐o¶𝒑p¶𝒒q¶𝒓r¶𝒔s¶𝒕t¶𝒖u¶𝒗v¶𝒘w¶𝒙x",
    "𝒚y¶𝒛z¶𝒜A¶𝒞C¶𝒟D¶𝒢G¶𝒥J¶𝒦K¶𝒩N¶𝒪O¶𝒫P¶𝒬Q¶𝒮S¶𝒯T¶𝒰U¶𝒱V¶𝒲W¶𝒳X¶𝒴Y¶𝒵Z¶𝒶a¶𝒷b¶𝒸c¶𝒹d¶𝒻f¶𝒽h¶𝒾i¶𝒿j¶𝓀k¶𝓂m",
    "𝓃n¶𝓅p¶𝓆q¶𝓇r¶𝓈s¶𝓉t¶𝓊u¶𝓋v¶𝓌w¶𝓍x¶𝓎y¶𝓏z¶𝓐A¶𝓑B¶𝓒C¶𝓓D¶𝓔E¶𝓕F¶𝓖G¶𝓗H¶𝓘I¶𝓙J¶𝓚K¶𝓛L¶𝓜M¶𝓝N¶𝓞O¶𝓟P¶𝓠Q¶𝓡R",
    "𝓢S¶𝓣T¶𝓤U¶𝓥V¶𝓦W¶𝓧X¶𝓨Y¶𝓩Z¶𝓪a¶𝓫b¶𝓬c¶𝓭d¶𝓮e¶𝓯f¶𝓰g¶𝓱h¶𝓲i¶𝓳j¶𝓴k¶𝓵l¶𝓶m¶𝓷n¶𝓸o¶𝓹p¶𝓺q¶𝓻r¶𝓼s¶𝓽t¶𝓾u¶𝓿v",
    "𝔀w¶𝔁x¶𝔂y¶𝔃z¶𝔄A¶𝔅B¶𝔇D¶𝔈E¶𝔉F¶𝔊G¶𝔍J¶𝔎K¶𝔏L¶𝔐M¶𝔑N¶𝔒O¶𝔓P¶𝔔Q¶𝔖S¶𝔗T¶𝔘U¶𝔙V¶𝔚W¶𝔛X¶𝔜Y¶𝔞a¶𝔟b¶𝔠c¶𝔡d¶𝔢e",
    "𝔣f¶𝔤g¶𝔥h¶𝔦i¶𝔧j¶𝔨k¶𝔩l¶𝔪m¶𝔫n¶𝔬o¶𝔭p¶𝔮q¶𝔯r¶𝔰s¶𝔱t¶𝔲u¶𝔳v¶𝔴w¶𝔵x¶𝔶y¶𝔷z¶𝔸A¶𝔹B¶𝔻D¶𝔼E¶𝔽F¶𝔾G¶𝕀I¶𝕁J¶𝕂K",
    "𝕃L¶𝕄M¶𝕆O¶𝕊S¶𝕋T¶𝕌U¶𝕍V¶𝕎W¶𝕏X¶𝕐Y¶𝕒a¶𝕓b¶𝕔c¶𝕕d¶𝕖e¶𝕗f¶𝕘g¶𝕙h¶𝕚i¶𝕛j¶𝕜k¶𝕝l¶𝕞m¶𝕟n¶𝕠o¶𝕡p¶𝕢q¶𝕣r¶𝕤s¶𝕥t",
    "𝕦u¶𝕧v¶𝕨w¶𝕩x¶𝕪y¶𝕫z¶𝕬A¶𝕭B¶𝕮C¶𝕯D¶𝕰E¶𝕱F¶𝕲G¶𝕳H¶𝕴I¶𝕵J¶𝕶K¶𝕷L¶𝕸M¶𝕹N¶𝕺O¶𝕻P¶𝕼Q¶𝕽R¶𝕾S¶𝕿T¶𝖀U¶𝖁V¶𝖂W¶𝖃X",
    "𝖄Y¶𝖅Z¶𝖆a¶𝖇b¶𝖈c¶𝖉d¶𝖊e¶𝖋f¶𝖌g¶𝖍h¶𝖎i¶𝖏j¶𝖐k¶𝖑l¶𝖒m¶𝖓n¶𝖔o¶𝖕p¶𝖖q¶𝖗r¶𝖘s¶𝖙t¶𝖚u¶𝖛v¶𝖜w¶𝖝x¶𝖞y¶𝖟z¶𝖠A¶𝖡B",
    "𝖢C¶𝖣D¶𝖤E¶𝖥F¶𝖦G¶𝖧H¶𝖨I¶𝖩J¶𝖪K¶𝖫L¶𝖬M¶𝖭N¶𝖮O¶𝖯P¶𝖰Q¶𝖱R¶𝖲S¶𝖳T¶𝖴U¶𝖵V¶𝖶W¶𝖷X¶𝖸Y¶𝖹Z¶𝖺a¶𝖻b¶𝖼c¶𝖽d¶𝖾e¶𝖿f",
    "𝗀g¶𝗁h¶𝗂i¶𝗃j¶𝗄k¶𝗅l¶𝗆m¶𝗇n¶𝗈o¶𝗉p¶𝗊q¶𝗋r¶𝗌s¶𝗍t¶𝗎u¶𝗏v¶𝗐w¶𝗑x¶𝗒y¶𝗓z¶𝗔A¶𝗕B¶𝗖C¶𝗗D¶𝗘E¶𝗙F¶𝗚G¶𝗛H¶𝗜I¶𝗝J",
    "𝗞K¶𝗟L¶𝗠M¶𝗡N¶𝗢O¶𝗣P¶𝗤Q¶𝗥R¶𝗦S¶𝗧T¶𝗨U¶𝗩V¶𝗪W¶𝗫X¶𝗬Y¶𝗭Z¶𝗮a¶𝗯b¶𝗰c¶𝗱d¶𝗲e¶𝗳f¶𝗴g¶𝗵h¶𝗶i¶𝗷j¶𝗸k¶𝗹l¶𝗺m¶𝗻n",
    "𝗼o¶𝗽p¶𝗾q¶𝗿r¶𝘀s¶𝘁t¶𝘂u¶𝘃v¶𝘄w¶𝘅x¶𝘆y¶𝘇z¶𝘈A¶𝘉B¶𝘊C¶𝘋D¶𝘌E¶𝘍F¶𝘎G¶𝘏H¶𝘐I¶𝘑J¶𝘒K¶𝘓L¶𝘔M¶𝘕N¶𝘖O¶𝘗P¶𝘘Q¶𝘙R",
    "𝘚S¶𝘛T¶𝘜U¶𝘝V¶𝘞W¶𝘟X¶𝘠Y¶𝘡Z¶𝘢a¶𝘣b¶𝘤c¶𝘥d¶𝘦e¶𝘧f¶𝘨g¶𝘩h¶𝘪i¶𝘫j¶𝘬k¶𝘭l¶𝘮m¶𝘯n¶𝘰o¶𝘱p¶𝘲q¶𝘳r¶𝘴s¶𝘵t¶𝘶u¶𝘷v",
    "𝘸w¶𝘹x¶𝘺y¶𝘻z¶𝘼A¶𝘽B¶𝘾C¶𝘿D¶𝙀E¶𝙁F¶𝙂G¶𝙃H¶𝙄I¶𝙅J¶𝙆K¶𝙇L¶𝙈M¶𝙉N¶𝙊O¶𝙋P¶𝙌Q¶𝙍R¶𝙎S¶𝙏T¶𝙐U¶𝙑V¶𝙒W¶𝙓X¶𝙔Y¶𝙕Z",
    "𝙖a¶𝙗b¶𝙘c¶𝙙d¶𝙚e¶𝙛f¶𝙜g¶𝙝h¶𝙞i¶𝙟j¶𝙠k¶𝙡l¶𝙢m¶𝙣n¶𝙤o¶𝙥p¶𝙦q¶𝙧r¶𝙨s¶𝙩t¶𝙪u¶𝙫v¶𝙬w¶𝙭x¶𝙮y¶𝙯z¶𝙰A¶𝙱B¶𝙲C¶𝙳D",
    "𝙴E¶𝙵F¶𝙶G¶𝙷H¶𝙸I¶𝙹J¶𝙺K¶𝙻L¶𝙼M¶𝙽N¶𝙾O¶𝙿P¶𝚀Q¶𝚁R¶𝚂S¶𝚃T¶𝚄U¶𝚅V¶𝚆W¶𝚇X¶𝚈Y¶𝚉Z¶𝚊a¶𝚋b¶𝚌c¶𝚍d¶𝚎e¶𝚏f¶𝚐g¶𝚑h",
    "𝚒i¶𝚓j¶𝚔k¶𝚕l¶𝚖m¶𝚗n¶𝚘o¶𝚙p¶𝚚q¶𝚛r¶𝚜s¶𝚝t¶𝚞u¶𝚟v¶𝚠w¶𝚡x¶𝚢y¶𝚣z¶𝚨Α¶𝚩Β¶𝚪Γ¶𝚫Δ¶𝚬Ε¶𝚭Ζ¶𝚮Η¶𝚯Θ¶𝚰Ι¶𝚱Κ¶𝚲Λ¶𝚳Μ",
    "𝚴Ν¶𝚵Ξ¶𝚶Ο¶𝚷Π¶𝚸Ρ¶𝚹Θ¶𝚺Σ¶𝚻Τ¶𝚼Υ¶𝚽Φ¶𝚾Χ¶𝚿Ψ¶𝛀Ω¶𝛁∇¶𝛂α¶𝛃β¶𝛄γ¶𝛅δ¶𝛆ε¶𝛇ζ¶𝛈η¶𝛉θ¶𝛊ι¶𝛋κ¶𝛌λ¶𝛍μ¶𝛎ν¶𝛏ξ¶𝛐ο¶𝛑π",
    "𝛒ρ¶𝛓ς¶𝛔σ¶𝛕τ¶𝛖υ¶𝛗φ¶𝛘χ¶𝛙ψ¶𝛚ω¶𝛛∂¶𝛜ε¶𝛝θ¶𝛞κ¶𝛟φ¶𝛠ρ¶𝛡π¶𝛢Α¶𝛣Β¶𝛤Γ¶𝛥Δ¶𝛦Ε¶𝛧Ζ¶𝛨Η¶𝛩Θ¶𝛪Ι¶𝛫Κ¶𝛬Λ¶𝛭Μ¶𝛮Ν¶𝛯Ξ",
    "𝛰Ο¶𝛱Π¶𝛲Ρ¶𝛳Θ¶𝛴Σ¶𝛵Τ¶𝛶Υ¶𝛷Φ¶𝛸Χ¶𝛹Ψ¶𝛺Ω¶𝛻∇¶𝛼α¶𝛽β¶𝛾γ¶𝛿δ¶𝜀ε¶𝜁ζ¶𝜂η¶𝜃θ¶𝜄ι¶𝜅κ¶𝜆λ¶𝜇μ¶𝜈ν¶𝜉ξ¶𝜊ο¶𝜋π¶𝜌ρ¶𝜍ς",
    "𝜎σ¶𝜏τ¶𝜐υ¶𝜑φ¶𝜒χ¶𝜓ψ¶𝜔ω¶𝜕∂¶𝜖ε¶𝜗θ¶𝜘κ¶𝜙φ¶𝜚ρ¶𝜛π¶𝜜Α¶𝜝Β¶𝜞Γ¶𝜟Δ¶𝜠Ε¶𝜡Ζ¶𝜢Η¶𝜣Θ¶𝜤Ι¶𝜥Κ¶𝜦Λ¶𝜧Μ¶𝜨Ν¶𝜩Ξ¶𝜪Ο¶𝜫Π",
    "𝜬Ρ¶𝜭Θ¶𝜮Σ¶𝜯Τ¶𝜰Υ¶𝜱Φ¶𝜲Χ¶𝜳Ψ¶𝜴Ω¶𝜵∇¶𝜶α¶𝜷β¶𝜸γ¶𝜹δ¶𝜺ε¶𝜻ζ¶𝜼η¶𝜽θ¶𝜾ι¶𝜿κ¶𝝀λ¶𝝁μ¶𝝂ν¶𝝃ξ¶𝝄ο¶𝝅π¶𝝆ρ¶𝝇ς¶𝝈σ¶𝝉τ",
    "𝝊υ¶𝝋φ¶𝝌χ¶𝝍ψ¶𝝎ω¶𝝏∂¶𝝐ε¶𝝑θ¶𝝒κ¶𝝓φ¶𝝔ρ¶𝝕π¶𝝖Α¶𝝗Β¶𝝘Γ¶𝝙Δ¶𝝚Ε¶𝝛Ζ¶𝝜Η¶𝝝Θ¶𝝞Ι¶𝝟Κ¶𝝠Λ¶𝝡Μ¶𝝢Ν¶𝝣Ξ¶𝝤Ο¶𝝥Π¶𝝦Ρ¶𝝧Θ",
    "𝝨Σ¶𝝩Τ¶𝝪Υ¶𝝫Φ¶𝝬Χ¶𝝭Ψ¶𝝮Ω¶𝝯∇¶𝝰α¶𝝱β¶𝝲γ¶𝝳δ¶𝝴ε¶𝝵ζ¶𝝶η¶𝝷θ¶𝝸ι¶𝝹κ¶𝝺λ¶𝝻μ¶𝝼ν¶𝝽ξ¶𝝾ο¶𝝿π¶𝞀ρ¶𝞁ς¶𝞂σ¶𝞃τ¶𝞄υ¶𝞅φ",
    "𝞆χ¶𝞇ψ¶𝞈ω¶𝞉∂¶𝞊ε¶𝞋θ¶𝞌κ¶𝞍φ¶𝞎ρ¶𝞏π¶𝞐Α¶𝞑Β¶𝞒Γ¶𝞓Δ¶𝞔Ε¶𝞕Ζ¶𝞖Η¶𝞗Θ¶𝞘Ι¶𝞙Κ¶𝞚Λ¶𝞛Μ¶𝞜Ν¶𝞝Ξ¶𝞞Ο¶𝞟Π¶𝞠Ρ¶𝞡Θ¶𝞢Σ¶𝞣Τ",
    "𝞤Υ¶𝞥Φ¶𝞦Χ¶𝞧Ψ¶𝞨Ω¶𝞩∇¶𝞪α¶𝞫β¶𝞬γ¶𝞭δ¶𝞮ε¶𝞯ζ¶𝞰η¶𝞱θ¶𝞲ι¶𝞳κ¶𝞴λ¶𝞵μ¶𝞶ν¶𝞷ξ¶𝞸ο¶𝞹π¶𝞺ρ¶𝞻ς¶𝞼σ¶𝞽τ¶𝞾υ¶𝞿φ¶𝟀χ¶𝟁ψ",
    "𝟂ω¶𝟃∂¶𝟄ε¶𝟅θ¶𝟆κ¶𝟇φ¶𝟈ρ¶𝟉π¶𝟎0¶𝟏1¶𝟐2¶𝟑3¶𝟒4¶𝟓5¶𝟔6¶𝟕7¶𝟖8¶𝟗9¶𝟘0¶𝟙1¶𝟚2¶𝟛3¶𝟜4¶𝟝5¶𝟞6¶𝟟7¶𝟠8¶𝟡9¶𝟢0¶𝟣1",
    "𝟤2¶𝟥3¶𝟦4¶𝟧5¶𝟨6¶𝟩7¶𝟪8¶𝟫9¶𝟬0¶𝟭1¶𝟮2¶𝟯3¶𝟰4¶𝟱5¶𝟲6¶𝟳7¶𝟴8¶𝟵9¶𝟶0¶𝟷1¶𝟸2¶𝟹3¶𝟺4¶𝟻5¶𝟼6¶𝟽7¶𝟾8¶𝟿9¶丽丽¶丸丸",
    "乁乁¶𠄢𠄢¶你你¶侮侮¶侻侻¶倂倂¶偺偺¶備備¶僧僧¶像像¶㒞㒞¶𠘺𠘺¶免免¶兔兔¶兤兤¶具具¶𠔜𠔜¶㒹㒹¶內內¶再再¶𠕋𠕋¶冗冗¶冤冤¶仌仌¶冬冬¶况况¶𩇟𩇟¶凵凵¶刃刃¶㓟㓟",
    "刻刻¶剆剆¶割割¶剷剷¶㔕㔕¶勇勇¶勉勉¶勤勤¶勺勺¶包包¶匆匆¶北北¶卉卉¶卑卑¶博博¶即即¶卽卽¶卿卿¶卿卿¶卿卿¶𠨬𠨬¶灰灰¶及及¶叟叟¶𠭣𠭣¶叫叫¶叱叱¶吆吆¶咞咞¶吸吸",
    "呈呈¶周周¶咢咢¶哶哶¶唐唐¶啓啓¶啣啣¶善善¶善善¶喙喙¶喫喫¶喳喳¶嗂嗂¶圖圖¶嘆嘆¶圗圗¶噑噑¶噴噴¶切切¶壮壮¶城城¶埴埴¶堍堍¶型型¶堲堲¶報報¶墬墬¶𡓤𡓤¶売売¶壷壷",
    "夆夆¶多多¶夢夢¶奢奢¶𡚨𡚨¶𡛪𡛪¶姬姬¶娛娛¶娧娧¶姘姘¶婦婦¶㛮㛮¶㛼𡍪¶嬈嬈¶嬾嬾¶嬾嬾¶𡧈𡧈¶寃寃¶寘寘¶寧寧¶寳寳¶𡬘𡬘¶寿寿¶将将¶当弳¶尢尢¶㞁㞁¶屠屠¶屮屮¶峀峀",
    "岍岍¶𡷤𡷤¶嵃嵃¶𡷦𡷦¶嵮嵮¶嵫嵫¶嵼嵼¶巡巡¶巢巢¶㠯㠯¶巽巽¶帨帨¶帽帽¶幩幩¶㡢㡢¶𢆃𢆃¶㡼㡼¶庰庰¶庳庳¶庶庶¶廊廊¶𪎒𪎒¶廾廾¶𢌱𢌱¶𢌱𢌱¶舁舁¶弢弢¶弢弢¶㣇㣇¶𣊸𣊸",
    "𦇚𦇚¶形形¶彫彫¶㣣㣣¶徚徚¶忍忍¶志志¶忹忹¶悁悁¶㤺㤺¶㤜㤜¶悔悔¶𢛔𢛔¶惇惇¶慈慈¶慌慌¶慎慎¶慌慌¶慺慺¶憎憎¶憲憲¶憤憤¶憯憯¶懞懞¶懲懲¶懶懶¶成成¶戛戛¶扝扝¶抱抱",
    "拔拔¶捐捐¶𢬌𢬌¶挽挽¶拼拼¶捨捨¶掃掃¶揤揤¶𢯱𢯱¶搢搢¶揅揅¶掩掩¶㨮㨮¶摩摩¶摾摾¶撝撝¶摷摷¶㩬㩬¶敏敏¶敬敬¶𣀊𣀊¶旣旣¶書書¶晉晉¶㬙㬙¶暑暑¶㬈㬈¶㫤㫤¶冒冒¶冕冕",
    "最最¶暜暜¶肭肭¶䏙䏙¶朗朗¶望望¶朡朡¶杞杞¶杓杓¶𣏃𣏃¶㭉㭉¶柺柺¶枅枅¶桒桒¶梅梅¶𣑭𣑭¶梎梎¶栟栟¶椔椔¶㮝㮝¶楂楂¶榣榣¶槪槪¶檨檨¶𣚣𣚣¶櫛櫛¶㰘㰘¶次次¶𣢧𣢧¶歔歔",
    "㱎㱎¶歲歲¶殟殟¶殺殺¶殻殻¶𣪍𣪍¶𡴋𡴋¶𣫺𣫺¶汎汎¶𣲼𣲼¶沿沿¶泍泍¶汧汧¶洖洖¶派派¶海海¶流流¶浩浩¶浸浸¶涅涅¶𣴞𣴞¶洴洴¶港港¶湮湮¶㴳㴳¶滋滋¶滇滇¶𣻑𣻑¶淹淹¶潮潮",
    "𣽞𣽞¶𣾎𣾎¶濆濆¶瀹瀹¶瀞瀞¶瀛瀛¶㶖㶖¶灊灊¶災災¶灷灷¶炭炭¶𠔥𠔥¶煅煅¶𤉣𤉣¶熜熜¶𤎫䎫¶爨爨¶爵爵¶牐牐¶𤘈𤘈¶犀犀¶犕犕¶𤜵𤜵¶𤠔𤠔¶獺獺¶王王¶㺬㺬¶玥玥¶㺸㺸¶㺸㺸",
    "瑇瑇¶瑜瑜¶瑱瑱¶璅璅¶瓊瓊¶㼛㼛¶甤甤¶𤰶𤰶¶甾甾¶𤲒𤲒¶異異¶𢆟𢆟¶瘐瘐¶𤾡𤾡¶𤾸𤾸¶𥁄𥁄¶㿼㿼¶䀈䀈¶直直¶𥃳𥃳¶𥃲𥃲¶𥄙𥄙¶𥄳𥄳¶眞眞¶真真¶真真¶睊睊¶䀹䀹¶瞋瞋¶䁆䁆",
    "䂖䂖¶𥐝𥐝¶硎硎¶碌碌¶磌磌¶䃣䃣¶𥘦𥘦¶祖祖¶𥚚𥚚¶𥛅𥛅¶福福¶秫秫¶䄯䄯¶穀穀¶穊穊¶穏穏¶𥥼𥥼¶𥪧𥪧¶𥪧𥪧¶竮窮¶䈂䈂¶𥮫𥮫¶篆篆¶築築¶䈧䈧¶𥲀𥲀¶糒糒¶䊠䊠¶糨糨¶糣糣",
    "紀紀¶𥾆𥾆¶絣絣¶䌁䌁¶緇緇¶縂縂¶繅繅¶䌴䌴¶𦈨𦈨¶𦉇𦉇¶䍙䍙¶𦋙𦋙¶罺罺¶𦌾𦌾¶羕羕¶翺翺¶者者¶𦓚𦓚¶𦔣𦔣¶聠聠¶𦖨𦖨¶聰聰¶𣍟𣍟¶䏕䏕¶育育¶脃脃¶䐋䐋¶脾脾¶媵媵¶𦞧𦞧",
    "𦞵𦞵¶𣎓𣎓¶𣎜𣎜¶舁舁¶舄舄¶辞辞¶䑫䑫¶芑芑¶芋芋¶芝芝¶劳劳¶花花¶芳芳¶芽芽¶苦苦¶𦬼𦬼¶若若¶茝茝¶荣荣¶莭莭¶茣茣¶莽莽¶菧菧¶著著¶荓荓¶菊菊¶菌菌¶菜菜¶𦰶𦰶¶𦵫𦵫",
    "𦳕𦳕¶䔫䔫¶蓱蓱¶蓳蓳¶蔖蔖¶𧏊𧏊¶蕤蕤¶𦼬𦼬¶䕝䕝¶䕡䕡¶𦾱𦾱¶𧃒𧃒¶䕫䕫¶虐虐¶虜虜¶虧虧¶虩虩¶蚩蚩¶蚈蚈¶蜎蜎¶蛢蛢¶蝹蝹¶蜨蜨¶蝫蝫¶螆螆¶䗗䵗¶蟡蟡¶蠁蠁¶䗹䗹¶衠衠",
    "衣衣¶𧙧𧙧¶裗裗¶裞裞¶䘵䘵¶裺裺¶㒻㒻¶𧢮𧢮¶𧥦𧥦¶䚾䚾¶䛇䛇¶誠誠¶諭諭¶變變¶豕豕¶𧲨𧲨¶貫貫¶賁賁¶贛贛¶起起¶𧼯𧼯¶𠠄𠠄¶跋跋¶趼趼¶跰跰¶𠣞𠣞¶軔軔¶輸輸¶𨗒𨗒¶𨗭𨗭",
    "邔邔¶郱郱¶鄑鄑¶𨜮𨜮¶鄛鄛¶鈸鈸¶鋗鋗¶鋘鋘¶鉼鉼¶鏹鏹¶鐕鐕¶𨯺𨯺¶開開¶䦕䦕¶閷閷¶𨵷𨵷¶䧦䧦¶雃雃¶嶲嶲¶霣霣¶𩅅𩅅¶𩈚𩈚¶䩮䩮¶䩶䩶¶韠韠¶𩐊𩐊¶䪲䪲¶𩒖𩒖¶頋頋¶頋頋",
    "頩頩¶𩖶𩖶¶飢飢¶䬳䬳¶餩餩¶馧馧¶駂駂¶駾駾¶䯎䯎¶𩬰𩬰¶鬒鬒¶鱀鱀¶鳽鳽¶䳎䳎¶䳭䳭¶鵧鵧¶𪃎𪃎¶䳸䳸¶𪄅𪄅¶𪈎𪈎¶𪊑𪊑¶麻麻¶䵖䵖¶黹黹¶黾黾¶鼅鼅¶鼏鼏¶鼖鼖¶鼻鼻¶𪘀𪘀"]

/-- The characters that have an expansion, with it. -/
def expansions : List (Char × Text) :=
  (expansionTable.flatMap fun row => Text.splitAt '¶' row.toList).filterMap fun
    | [] => none
    | c :: expansion => some (c, expansion)

end StyleScore.Text.Normal
