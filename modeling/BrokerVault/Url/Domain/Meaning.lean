import BrokerVault.Text.Split

/-! What a character stands for in a domain: capitals stand for small letters, and characters of
another width, style or place for the plain ones that they are made of (UTS #46, after Unicode
17). Characters that stand for one that no domain may hold are left out. -/
namespace BrokerVault.Url.Domain

def replacedLetters : List String := [
  "ªa²2³3µμ¹1ºoÀàÁáÂâÃãÄäÅåÆæÇçÈèÉéÊêËëÌìÍíÎîÏïÐðÑñÒòÓóÔôÕõÖöØøÙùÚúÛûÜüÝýÞþĀāĂă",
  "ĄąĆćĈĉĊċČčĎďĐđĒēĔĕĖėĘęĚěĜĝĞğĠġĢģĤĥĦħĨĩĪīĬĭĮįĴĵĶķĹĺĻļĽľŁłŃńŅņŇňŊŋŌōŎŏŐőŒœŔŕŖŗ",
  "ŘřŚśŜŝŞşŠšŢţŤťŦŧŨũŪūŬŭŮůŰűŲųŴŵŶŷŸÿŹźŻżŽžſsƁɓƂƃƄƅƆɔƇƈƉɖƊɗƋƌƎǝƏəƐɛƑƒƓɠƔɣƖɩƗɨƘƙ",
  "ƜɯƝɲƟɵƠơƢƣƤƥƦʀƧƨƩʃƬƭƮʈƯưƱʊƲʋƳƴƵƶƷʒƸƹƼƽǍǎǏǐǑǒǓǔǕǖǗǘǙǚǛǜǞǟǠǡǢǣǤǥǦǧǨǩǪǫǬǭǮǯǴǵǶƕ",
  "ǷƿǸǹǺǻǼǽǾǿȀȁȂȃȄȅȆȇȈȉȊȋȌȍȎȏȐȑȒȓȔȕȖȗȘșȚțȜȝȞȟȠƞȢȣȤȥȦȧȨȩȪȫȬȭȮȯȰȱȲȳȺⱥȻȼȽƚȾⱦɁɂɃƀɄʉ",
  "ɅʌɆɇɈɉɊɋɌɍɎɏʰhʱɦʲjʳrʴɹʵɻʶʁʷwʸyˠɣˡlˢsˣxˤʕ\u0340\u0300\u0341\u0301\u0343\u0313",
  "\u0345ιͰͱͲͳ\u0374ʹͶͷ\u037e;ͿϳΆά\u0387·ΈέΉήΊίΌόΎύΏώΑαΒβΓγΔδΕεΖζΗηΘθΙιΚκΛλΜμΝν",
  "ΞξΟοΠπΡρΣσΤτΥυΦφΧχΨψΩωΪϊΫϋϏϗϐβϑθϒυϓύϔϋϕφϖπϘϙϚϛϜϝϞϟϠϡϢϣϤϥϦϧϨϩϪϫϬϭϮϯϰκϱρϲσϴθϵε",
  "ϷϸϹσϺϻϽͻϾͼϿͽЀѐЁёЂђЃѓЄєЅѕІіЇїЈјЉљЊњЋћЌќЍѝЎўЏџАаБбВвГгДдЕеЖжЗзИиЙйКкЛлМмНнОоПп",
  "РрСсТтУуФфХхЦцЧчШшЩщЪъЫыЬьЭэЮюЯяѠѡѢѣѤѥѦѧѨѩѪѫѬѭѮѯѰѱѲѳѴѵѶѷѸѹѺѻѼѽѾѿҀҁҊҋҌҍҎҏҐґҒғ",
  "ҔҕҖҗҘҙҚқҜҝҞҟҠҡҢңҤҥҦҧҨҩҪҫҬҭҮүҰұҲҳҴҵҶҷҸҹҺһҼҽҾҿӀӏӁӂӃӄӅӆӇӈӉӊӋӌӍӎӐӑӒӓӔӕӖӗӘәӚӛӜӝӞӟ",
  "ӠӡӢӣӤӥӦӧӨөӪӫӬӭӮӯӰӱӲӳӴӵӶӷӸӹӺӻӼӽӾӿԀԁԂԃԄԅԆԇԈԉԊԋԌԍԎԏԐԑԒԓԔԕԖԗԘԙԚԛԜԝԞԟԠԡԢԣԤԥԦԧԨԩԪԫ",
  "ԬԭԮԯԱաԲբԳգԴդԵեԶզԷէԸըԹթԺժԻիԼլԽխԾծԿկՀհՁձՂղՃճՄմՅյՆնՇշՈոՉչՊպՋջՌռՍսՎվՏտՐրՑցՒւՓփՔք",
  "ՕօՖֆ༌་ႠⴀႡⴁႢⴂႣⴃႤⴄႥⴅႦⴆႧⴇႨⴈႩⴉႪⴊႫⴋႬⴌႭⴍႮⴎႯⴏႰⴐႱⴑႲⴒႳⴓႴⴔႵⴕႶⴖႷⴗႸⴘႹⴙႺⴚႻⴛႼⴜႽⴝႾⴞႿⴟჀⴠჁⴡჂⴢ",
  "ჃⴣჄⴤჅⴥჇⴧჍⴭჼნᏸᏰᏹᏱᏺᏲᏻᏳᏼᏴᏽᏵᲀвᲁдᲂоᲃсᲄтᲅтᲆъᲇѣᲈꙋᲉᲊᲐაᲑბᲒგᲓდᲔეᲕვᲖზᲗთᲘიᲙკᲚლᲛმᲜნᲝოᲞპᲟჟ",
  "ᲠრᲡსᲢტᲣუᲤფᲥქᲦღᲧყᲨშᲩჩᲪცᲫძᲬწᲭჭᲮხᲯჯᲰჰᲱჱᲲჲᲳჳᲴჴᲵჵᲶჶᲷჷᲸჸᲹჹᲺჺᲽჽᲾჾᲿჿᴬaᴭæᴮbᴰdᴱeᴲǝᴳgᴴh",
  "ᴵiᴶjᴷkᴸlᴹmᴺnᴼoᴽȣᴾpᴿrᵀtᵁuᵂwᵃaᵄɐᵅɑᵆᴂᵇbᵈdᵉeᵊəᵋɛᵌɜᵍgᵏkᵐmᵑŋᵒoᵓɔᵔᴖᵕᴗᵖpᵗtᵘuᵙᴝᵚɯᵛvᵜᴥ",
  "ᵝβᵞγᵟδᵠφᵡχᵢiᵣrᵤuᵥvᵦβᵧγᵨρᵩφᵪχᵸнᶛɒᶜcᶝɕᶞðᶟɜᶠfᶡɟᶢɡᶣɥᶤɨᶥɩᶦɪᶧᵻᶨʝᶩɭᶪᶅᶫʟᶬɱᶭɰᶮɲᶯɳᶰɴᶱɵ",
  "ᶲɸᶳʂᶴʃᶵƫᶶʉᶷʊᶸᴜᶹʋᶺʌᶻzᶼʐᶽʑᶾʒᶿθḀḁḂḃḄḅḆḇḈḉḊḋḌḍḎḏḐḑḒḓḔḕḖḗḘḙḚḛḜḝḞḟḠḡḢḣḤḥḦḧḨḩḪḫḬḭḮḯ",
  "ḰḱḲḳḴḵḶḷḸḹḺḻḼḽḾḿṀṁṂṃṄṅṆṇṈṉṊṋṌṍṎṏṐṑṒṓṔṕṖṗṘṙṚṛṜṝṞṟṠṡṢṣṤṥṦṧṨṩṪṫṬṭṮṯṰṱṲṳṴṵṶṷṸṹṺṻ",
  "ṼṽṾṿẀẁẂẃẄẅẆẇẈẉẊẋẌẍẎẏẐẑẒẓẔẕẛṡẞßẠạẢảẤấẦầẨẩẪẫẬậẮắẰằẲẳẴẵẶặẸẹẺẻẼẽẾếỀềỂểỄễỆệỈỉỊịỌọ",
  "ỎỏỐốỒồỔổỖỗỘộỚớỜờỞởỠỡỢợỤụỦủỨứỪừỬửỮữỰựỲỳỴỵỶỷỸỹỺỻỼỽỾỿἈἀἉἁἊἂἋἃἌἄἍἅἎἆἏἇἘἐἙἑἚἒἛἓἜἔ",
  "ἝἕἨἠἩἡἪἢἫἣἬἤἭἥἮἦἯἧἸἰἹἱἺἲἻἳἼἴἽἵἾἶἿἷὈὀὉὁὊὂὋὃὌὄὍὅὙὑὛὓὝὕὟὗὨὠὩὡὪὢὫὣὬὤὭὥὮὦὯὧ",
  "\u1f71ά\u1f73έ\u1f75ή\u1f77ί\u1f79ό\u1f7bύ\u1f7dώᾸᾰᾹᾱᾺὰ\u1fbbά\u1fbeιῈὲ",
  "\u1fc9έῊὴ\u1fcbή\u1fd3ΐῘῐῙῑῚὶ\u1fdbί\u1fe3ΰῨῠῩῡῪὺ\u1febύῬῥ\u1fef`Ὸὸ\u1ff9όῺὼ",
  "\u1ffbώ‑‐⁰0ⁱi⁴4⁵5⁶6⁷7⁸8⁹9⁺+⁻−⁼=⁽(⁾)ⁿn₀0₁1₂2₃3₄4₅5₆6₇7₈8₉9₊+₋−₌=₍(₎)ₐaₑeₒoₓx",
  "ₔəₕhₖkₗlₘmₙnₚpₛsₜtℂcℇɛℊgℋhℌhℍhℎhℏħℐiℑiℒlℓlℕnℙpℚqℛrℜrℝrℤz\u2126ωℨz\u212ak",
  "\u212båℬbℭcℯeℰeℱfℲⅎℳmℴoℵ\u05d0ℶ\u05d1ℷ\u05d2ℸ\u05d3ℹiℼπℽγℾγℿπ⅀∑ⅅdⅆdⅇeⅈiⅉjⅠi",
  "ⅤvⅩxⅬlⅭcⅮdⅯmⅰiⅴvⅹxⅼlⅽcⅾdⅿmↃↄ\u2329〈\u232a〉①1②2③3④4⑤5⑥6⑦7⑧8⑨9ⒶaⒷbⒸcⒹdⒺeⒻfⒼgⒽh",
  "ⒾiⒿjⓀkⓁlⓂmⓃnⓄoⓅpⓆqⓇrⓈsⓉtⓊuⓋvⓌwⓍxⓎyⓏzⓐaⓑbⓒcⓓdⓔeⓕfⓖgⓗhⓘiⓙjⓚkⓛlⓜmⓝnⓞoⓟpⓠqⓡrⓢsⓣt",
  "ⓤuⓥvⓦwⓧxⓨyⓩz⓪0ⰀⰰⰁⰱⰂⰲⰃⰳⰄⰴⰅⰵⰆⰶⰇⰷⰈⰸⰉⰹⰊⰺⰋⰻⰌⰼⰍⰽⰎⰾⰏⰿⰐⱀⰑⱁⰒⱂⰓⱃⰔⱄⰕⱅⰖⱆⰗⱇⰘⱈⰙⱉⰚⱊⰛⱋⰜⱌⰝⱍⰞⱎ",
  "ⰟⱏⰠⱐⰡⱑⰢⱒⰣⱓⰤⱔⰥⱕⰦⱖⰧⱗⰨⱘⰩⱙⰪⱚⰫⱛⰬⱜⰭⱝⰮⱞⰯⱟⱠⱡⱢɫⱣᵽⱤɽⱧⱨⱩⱪⱫⱬⱭɑⱮɱⱯɐⱰɒⱲⱳⱵⱶⱼjⱽvⱾȿⱿɀⲀⲁⲂⲃⲄⲅⲆⲇ",
  "ⲈⲉⲊⲋⲌⲍⲎⲏⲐⲑⲒⲓⲔⲕⲖⲗⲘⲙⲚⲛⲜⲝⲞⲟⲠⲡⲢⲣⲤⲥⲦⲧⲨⲩⲪⲫⲬⲭⲮⲯⲰⲱⲲⲳⲴⲵⲶⲷⲸⲹⲺⲻⲼⲽⲾⲿⳀⳁⳂⳃⳄⳅⳆⳇⳈⳉⳊⳋⳌⳍⳎⳏⳐⳑⳒⳓ",
  "ⳔⳕⳖⳗⳘⳙⳚⳛⳜⳝⳞⳟⳠⳡⳢⳣⳫⳬⳭⳮⳲⳳⵯⵡ⺟母⻳龟⼀一⼁丨⼂丶⼃丿⼄乙⼅亅⼆二⼇亠⼈人⼉儿⼊入⼋八⼌冂⼍冖⼎冫⼏几⼐凵⼑刀⼒力⼓勹⼔匕⼕匚⼖匸⼗十",
  "⼘卜⼙卩⼚厂⼛厶⼜又⼝口⼞囗⼟土⼠士⼡夂⼢夊⼣夕⼤大⼥女⼦子⼧宀⼨寸⼩小⼪尢⼫尸⼬屮⼭山⼮巛⼯工⼰己⼱巾⼲干⼳幺⼴广⼵廴⼶廾⼷弋⼸弓⼹彐⼺彡⼻彳⼼心⼽戈",
  "⼾戶⼿手⽀支⽁攴⽂文⽃斗⽄斤⽅方⽆无⽇日⽈曰⽉月⽊木⽋欠⽌止⽍歹⽎殳⽏毋⽐比⽑毛⽒氏⽓气⽔水⽕火⽖爪⽗父⽘爻⽙爿⽚片⽛牙⽜牛⽝犬⽞玄⽟玉⽠瓜⽡瓦⽢甘⽣生",
  "⽤用⽥田⽦疋⽧疒⽨癶⽩白⽪皮⽫皿⽬目⽭矛⽮矢⽯石⽰示⽱禸⽲禾⽳穴⽴立⽵竹⽶米⽷糸⽸缶⽹网⽺羊⽻羽⽼老⽽而⽾耒⽿耳⾀聿⾁肉⾂臣⾃自⾄至⾅臼⾆舌⾇舛⾈舟⾉艮",
  "⾊色⾋艸⾌虍⾍虫⾎血⾏行⾐衣⾑襾⾒見⾓角⾔言⾕谷⾖豆⾗豕⾘豸⾙貝⾚赤⾛走⾜足⾝身⾞車⾟辛⾠辰⾡辵⾢邑⾣酉⾤釆⾥里⾦金⾧長⾨門⾩阜⾪隶⾫隹⾬雨⾭靑⾮非⾯面",
  "⾰革⾱韋⾲韭⾳音⾴頁⾵風⾶飛⾷食⾸首⾹香⾺馬⾻骨⾼高⾽髟⾾鬥⾿鬯⿀鬲⿁鬼⿂魚⿃鳥⿄鹵⿅鹿⿆麥⿇麻⿈黃⿉黍⿊黑⿋黹⿌黽⿍鼎⿎鼓⿏鼠⿐鼻⿑齊⿒齒⿓龍⿔龜⿕龠",
  "。.〶〒〸十〹卄〺卅ㄱᄀㄲᄁㄳᆪㄴᄂㄵᆬㄶᆭㄷᄃㄸᄄㄹᄅㄺᆰㄻᆱㄼᆲㄽᆳㄾᆴㄿᆵㅀᄚㅁᄆㅂᄇㅃᄈㅄᄡㅅᄉㅆᄊㅇᄋㅈᄌㅉᄍㅊᄎㅋᄏㅌᄐㅍᄑㅎᄒㅏᅡㅐᅢㅑᅣ",
  "ㅒᅤㅓᅥㅔᅦㅕᅧㅖᅨㅗᅩㅘᅪㅙᅫㅚᅬㅛᅭㅜᅮㅝᅯㅞᅰㅟᅱㅠᅲㅡᅳㅢᅴㅣᅵㅥᄔㅦᄕㅧᇇㅨᇈㅩᇌㅪᇎㅫᇓㅬᇗㅭᇙㅮᄜㅯᇝㅰᇟㅱᄝㅲᄞㅳᄠㅴᄢㅵᄣㅶᄧㅷᄩㅸᄫ",
  "ㅹᄬㅺᄭㅻᄮㅼᄯㅽᄲㅾᄶㅿᅀㆀᅇㆁᅌㆂᇱㆃᇲㆄᅗㆅᅘㆆᅙㆇᆄㆈᆅㆉᆈㆊᆑㆋᆒㆌᆔㆍᆞㆎᆡ㆒一㆓二㆔三㆕四㆖上㆗中㆘下㆙甲㆚乙㆛丙㆜丁㆝天㆞地㆟人㉄問㉅幼",
  "㉆文㉇箏㉠ᄀ㉡ᄂ㉢ᄃ㉣ᄅ㉤ᄆ㉥ᄇ㉦ᄉ㉧ᄋ㉨ᄌ㉩ᄎ㉪ᄏ㉫ᄐ㉬ᄑ㉭ᄒ㉮가㉯나㉰다㉱라㉲마㉳바㉴사㉵아㉶자㉷차㉸카㉹타㉺파㉻하㉾우㊀一㊁二㊂三㊃四㊄五㊅六㊆七",
  "㊇八㊈九㊉十㊊月㊋火㊌水㊍木㊎金㊏土㊐日㊑株㊒有㊓社㊔名㊕特㊖財㊗祝㊘労㊙秘㊚男㊛女㊜適㊝優㊞印㊟注㊠項㊡休㊢写㊣正㊤上㊥中㊦下㊧左㊨右㊩医㊪宗㊫学㊬監",
  "㊭企㊮資㊯協㊰夜㋐ア㋑イ㋒ウ㋓エ㋔オ㋕カ㋖キ㋗ク㋘ケ㋙コ㋚サ㋛シ㋜ス㋝セ㋞ソ㋟タ㋠チ㋡ツ㋢テ㋣ト㋤ナ㋥ニ㋦ヌ㋧ネ㋨ノ㋩ハ㋪ヒ㋫フ㋬ヘ㋭ホ㋮マ㋯ミ㋰ム㋱メ",
  "㋲モ㋳ヤ㋴ユ㋵ヨ㋶ラ㋷リ㋸ル㋹レ㋺ロ㋻ワ㋼ヰ㋽ヱ㋾ヲꙀꙁꙂꙃꙄꙅꙆꙇꙈꙉꙊꙋꙌꙍꙎꙏꙐꙑꙒꙓꙔꙕꙖꙗꙘꙙꙚꙛꙜꙝꙞꙟꙠꙡꙢꙣꙤꙥꙦꙧꙨꙩꙪꙫꙬꙭꚀꚁꚂꚃ",
  "ꚄꚅꚆꚇꚈꚉꚊꚋꚌꚍꚎꚏꚐꚑꚒꚓꚔꚕꚖꚗꚘꚙꚚꚛꚜъꚝьꜢꜣꜤꜥꜦꜧꜨꜩꜪꜫꜬꜭꜮꜯꜲꜳꜴꜵꜶꜷꜸꜹꜺꜻꜼꜽꜾꜿꝀꝁꝂꝃꝄꝅꝆꝇꝈꝉꝊꝋꝌꝍꝎꝏꝐꝑꝒꝓ",
  "ꝔꝕꝖꝗꝘꝙꝚꝛꝜꝝꝞꝟꝠꝡꝢꝣꝤꝥꝦꝧꝨꝩꝪꝫꝬꝭꝮꝯꝰꝯꝹꝺꝻꝼꝽᵹꝾꝿꞀꞁꞂꞃꞄꞅꞆꞇꞋꞌꞍɥꞐꞑꞒꞓꞖꞗꞘꞙꞚꞛꞜꞝꞞꞟꞠꞡꞢꞣꞤꞥꞦꞧꞨꞩꞪɦ",
  "ꞫɜꞬɡꞭɬꞮɪꞰʞꞱʇꞲʝꞳꭓꞴꞵꞶꞷꞸꞹꞺꞻꞼꞽꞾꞿꟀꟁꟂꟃꟄꞔꟅʂꟆᶎꟇꟈꟉꟊꟋɤꟌꟍ꟎꟏Ꟑꟑ꟒ꟓ꟔ꟕꟖꟗꟘꟙꟚꟛꟜƛ꟱sꟲcꟳfꟴqꟵꟶꟸħꟹœ",
  "ꭜꜧꭝꬷꭞɫꭟꭒꭩʍꭰᎠꭱᎡꭲᎢꭳᎣꭴᎤꭵᎥꭶᎦꭷᎧꭸᎨꭹᎩꭺᎪꭻᎫꭼᎬꭽᎭꭾᎮꭿᎯꮀᎰꮁᎱꮂᎲꮃᎳꮄᎴꮅᎵꮆᎶꮇᎷꮈᎸꮉᎹꮊᎺꮋᎻꮌᎼꮍᎽꮎᎾꮏᎿꮐᏀ",
  "ꮑᏁꮒᏂꮓᏃꮔᏄꮕᏅꮖᏆꮗᏇꮘᏈꮙᏉꮚᏊꮛᏋꮜᏌꮝᏍꮞᏎꮟᏏꮠᏐꮡᏑꮢᏒꮣᏓꮤᏔꮥᏕꮦᏖꮧᏗꮨᏘꮩᏙꮪᏚꮫᏛꮬᏜꮭᏝꮮᏞꮯᏟꮰᏠꮱᏡꮲᏢꮳᏣꮴᏤꮵᏥꮶᏦ",
  "ꮷᏧꮸᏨꮹᏩꮺᏪꮻᏫꮼᏬꮽᏭꮾᏮꮿᏯ\ufb20\u05e2\ufb21\u05d0\ufb22\u05d3\ufb23\u05d4",
  "\ufb24\u05db\ufb25\u05dc\ufb26\u05dd\ufb27\u05e8\ufb28\u05ea﬩+\ufb50\u0671",
  "\ufb51\u0671\ufb52\u067b\ufb53\u067b\ufb54\u067b\ufb55\u067b\ufb56\u067e",
  "\ufb57\u067e\ufb58\u067e\ufb59\u067e\ufb5a\u0680\ufb5b\u0680\ufb5c\u0680",
  "\ufb5d\u0680\ufb5e\u067a\ufb5f\u067a\ufb60\u067a\ufb61\u067a\ufb62\u067f",
  "\ufb63\u067f\ufb64\u067f\ufb65\u067f\ufb66\u0679\ufb67\u0679\ufb68\u0679",
  "\ufb69\u0679\ufb6a\u06a4\ufb6b\u06a4\ufb6c\u06a4\ufb6d\u06a4\ufb6e\u06a6",
  "\ufb6f\u06a6\ufb70\u06a6\ufb71\u06a6\ufb72\u0684\ufb73\u0684\ufb74\u0684",
  "\ufb75\u0684\ufb76\u0683\ufb77\u0683\ufb78\u0683\ufb79\u0683\ufb7a\u0686",
  "\ufb7b\u0686\ufb7c\u0686\ufb7d\u0686\ufb7e\u0687\ufb7f\u0687\ufb80\u0687",
  "\ufb81\u0687\ufb82\u068d\ufb83\u068d\ufb84\u068c\ufb85\u068c\ufb86\u068e",
  "\ufb87\u068e\ufb88\u0688\ufb89\u0688\ufb8a\u0698\ufb8b\u0698\ufb8c\u0691",
  "\ufb8d\u0691\ufb8e\u06a9\ufb8f\u06a9\ufb90\u06a9\ufb91\u06a9\ufb92\u06af",
  "\ufb93\u06af\ufb94\u06af\ufb95\u06af\ufb96\u06b3\ufb97\u06b3\ufb98\u06b3",
  "\ufb99\u06b3\ufb9a\u06b1\ufb9b\u06b1\ufb9c\u06b1\ufb9d\u06b1\ufb9e\u06ba",
  "\ufb9f\u06ba\ufba0\u06bb\ufba1\u06bb\ufba2\u06bb\ufba3\u06bb\ufba4\u06c0",
  "\ufba5\u06c0\ufba6\u06c1\ufba7\u06c1\ufba8\u06c1\ufba9\u06c1\ufbaa\u06be",
  "\ufbab\u06be\ufbac\u06be\ufbad\u06be\ufbae\u06d2\ufbaf\u06d2\ufbb0\u06d3",
  "\ufbb1\u06d3\ufbd3\u06ad\ufbd4\u06ad\ufbd5\u06ad\ufbd6\u06ad\ufbd7\u06c7",
  "\ufbd8\u06c7\ufbd9\u06c6\ufbda\u06c6\ufbdb\u06c8\ufbdc\u06c8\ufbde\u06cb",
  "\ufbdf\u06cb\ufbe0\u06c5\ufbe1\u06c5\ufbe2\u06c9\ufbe3\u06c9\ufbe4\u06d0",
  "\ufbe5\u06d0\ufbe6\u06d0\ufbe7\u06d0\ufbe8\u0649\ufbe9\u0649\ufbfc\u06cc",
  "\ufbfd\u06cc\ufbfe\u06cc\ufbff\u06cc︐,︑、︔;︕!︗〖︘〗︱—︲–︳_︴_︵(︶)︷\x7b︸\x7d︹〔︺〕︻【",
  "︼】︽《︾》︿〈﹀〉﹁「﹂」﹃『﹄』﹍_﹎_﹏_﹐,﹑、﹔;﹗!﹘—﹙(﹚)﹛\x7b﹜\x7d﹝〔﹞〕﹠&﹡*﹢+﹣-﹦=﹩$\ufe80\u0621",
  "\ufe81\u0622\ufe82\u0622\ufe83\u0623\ufe84\u0623\ufe85\u0624\ufe86\u0624",
  "\ufe87\u0625\ufe88\u0625\ufe89\u0626\ufe8a\u0626\ufe8b\u0626\ufe8c\u0626",
  "\ufe8d\u0627\ufe8e\u0627\ufe8f\u0628\ufe90\u0628\ufe91\u0628\ufe92\u0628",
  "\ufe93\u0629\ufe94\u0629\ufe95\u062a\ufe96\u062a\ufe97\u062a\ufe98\u062a",
  "\ufe99\u062b\ufe9a\u062b\ufe9b\u062b\ufe9c\u062b\ufe9d\u062c\ufe9e\u062c",
  "\ufe9f\u062c\ufea0\u062c\ufea1\u062d\ufea2\u062d\ufea3\u062d\ufea4\u062d",
  "\ufea5\u062e\ufea6\u062e\ufea7\u062e\ufea8\u062e\ufea9\u062f\ufeaa\u062f",
  "\ufeab\u0630\ufeac\u0630\ufead\u0631\ufeae\u0631\ufeaf\u0632\ufeb0\u0632",
  "\ufeb1\u0633\ufeb2\u0633\ufeb3\u0633\ufeb4\u0633\ufeb5\u0634\ufeb6\u0634",
  "\ufeb7\u0634\ufeb8\u0634\ufeb9\u0635\ufeba\u0635\ufebb\u0635\ufebc\u0635",
  "\ufebd\u0636\ufebe\u0636\ufebf\u0636\ufec0\u0636\ufec1\u0637\ufec2\u0637",
  "\ufec3\u0637\ufec4\u0637\ufec5\u0638\ufec6\u0638\ufec7\u0638\ufec8\u0638",
  "\ufec9\u0639\ufeca\u0639\ufecb\u0639\ufecc\u0639\ufecd\u063a\ufece\u063a",
  "\ufecf\u063a\ufed0\u063a\ufed1\u0641\ufed2\u0641\ufed3\u0641\ufed4\u0641",
  "\ufed5\u0642\ufed6\u0642\ufed7\u0642\ufed8\u0642\ufed9\u0643\ufeda\u0643",
  "\ufedb\u0643\ufedc\u0643\ufedd\u0644\ufede\u0644\ufedf\u0644\ufee0\u0644",
  "\ufee1\u0645\ufee2\u0645\ufee3\u0645\ufee4\u0645\ufee5\u0646\ufee6\u0646",
  "\ufee7\u0646\ufee8\u0646\ufee9\u0647\ufeea\u0647\ufeeb\u0647\ufeec\u0647",
  "\ufeed\u0648\ufeee\u0648\ufeef\u0649\ufef0\u0649\ufef1\u064a\ufef2\u064a",
  "\ufef3\u064a\ufef4\u064a！!＂\"＄$＆&＇'（(）)＊*＋+，,－-．.０0１1２2３3４4５5６6７7８8９9；;＝=Ａa",
  "ＢbＣcＤdＥeＦfＧgＨhＩiＪjＫkＬlＭmＮnＯoＰpＱqＲrＳsＴtＵuＶvＷwＸxＹyＺz＿_｀`ａaｂbｃcｄdｅeｆfｇgｈhｉiｊjｋk",
  "ｌlｍmｎnｏoｐpｑqｒrｓsｔtｕuｖvｗwｘxｙyｚz｛\x7b｝\x7d～~｟⦅｠⦆｡.｢「｣」､、･・ｦヲｧァｨィｩゥｪェｫォｬャｭュｮョｯッ",
  "ｰーｱアｲイｳウｴエｵオｶカｷキｸクｹケｺコｻサｼシｽスｾセｿソﾀタﾁチﾂツﾃテﾄトﾅナﾆニﾇヌﾈネﾉノﾊハﾋヒﾌフﾍヘﾎホﾏマﾐミﾑムﾒメﾓモﾔヤﾕユ",
  "ﾖヨﾗラﾘリﾙルﾚレﾛロﾜワﾝンﾞ\u3099ﾟ\u309aﾡᄀﾢᄁﾣᆪﾤᄂﾥᆬﾦᆭﾧᄃﾨᄄﾩᄅﾪᆰﾫᆱﾬᆲﾭᆳﾮᆴﾯᆵﾰᄚﾱᄆﾲᄇﾳᄈﾴᄡﾵᄉﾶᄊﾷᄋ",
  "ﾸᄌﾹᄍﾺᄎﾻᄏﾼᄐﾽᄑﾾᄒￂᅡￃᅢￄᅣￅᅤￆᅥￇᅦￊᅧￋᅨￌᅩￍᅪￎᅫￏᅬￒᅭￓᅮￔᅯￕᅰￖᅱￗᅲￚᅳￛᅴￜᅵ￠¢￡£￢¬￤¦￥¥￦₩￨│￩←￪↑￫→",
  "￬↓￭■￮○𐐀𐐨𐐁𐐩𐐂𐐪𐐃𐐫𐐄𐐬𐐅𐐭𐐆𐐮𐐇𐐯𐐈𐐰𐐉𐐱𐐊𐐲𐐋𐐳𐐌𐐴𐐍𐐵𐐎𐐶𐐏𐐷𐐐𐐸𐐑𐐹𐐒𐐺𐐓𐐻𐐔𐐼𐐕𐐽𐐖𐐾𐐗𐐿𐐘𐑀𐐙𐑁𐐚𐑂𐐛𐑃𐐜𐑄𐐝𐑅𐐞𐑆𐐟𐑇𐐠𐑈𐐡𐑉𐐢𐑊",
  "𐐣𐑋𐐤𐑌𐐥𐑍𐐦𐑎𐐧𐑏𐒰𐓘𐒱𐓙𐒲𐓚𐒳𐓛𐒴𐓜𐒵𐓝𐒶𐓞𐒷𐓟𐒸𐓠𐒹𐓡𐒺𐓢𐒻𐓣𐒼𐓤𐒽𐓥𐒾𐓦𐒿𐓧𐓀𐓨𐓁𐓩𐓂𐓪𐓃𐓫𐓄𐓬𐓅𐓭𐓆𐓮𐓇𐓯𐓈𐓰𐓉𐓱𐓊𐓲𐓋𐓳𐓌𐓴𐓍𐓵𐓎𐓶𐓏𐓷𐓐𐓸",
  "𐓑𐓹𐓒𐓺𐓓𐓻𐕰𐖗𐕱𐖘𐕲𐖙𐕳𐖚𐕴𐖛𐕵𐖜𐕶𐖝𐕷𐖞𐕸𐖟𐕹𐖠𐕺𐖡𐕼𐖣𐕽𐖤𐕾𐖥𐕿𐖦𐖀𐖧𐖁𐖨𐖂𐖩𐖃𐖪𐖄𐖫𐖅𐖬𐖆𐖭𐖇𐖮𐖈𐖯𐖉𐖰𐖊𐖱𐖌𐖳𐖍𐖴𐖎𐖵𐖏𐖶𐖐𐖷𐖑𐖸𐖒𐖹𐖔𐖻𐖕𐖼",
  "𐞁ː𐞂ˑ𐞃æ𐞄ʙ𐞅ɓ𐞇ʣ𐞈ꭦ𐞉ʥ𐞊ʤ𐞋ɖ𐞌ɗ𐞍ᶑ𐞎ɘ𐞏ɞ𐞐ʩ𐞑ɤ𐞒ɢ𐞓ɠ𐞔ʛ𐞕ħ𐞖ʜ𐞗ɧ𐞘ʄ𐞙ʪ𐞚ʫ𐞛ɬ𐞜𝼄𐞝ꞎ𐞞ɮ𐞟𝼅𐞠ʎ𐞡𝼆𐞢ø𐞣ɶ𐞤ɷ𐞥q𐞦ɺ𐞧𝼈",
  "𐞨ɽ𐞩ɾ𐞪ʀ𐞫ʨ𐞬ʦ𐞭ꭧ𐞮ʧ𐞯ʈ𐞰ⱱ𐞲ʏ𐞳ʡ𐞴ʢ𐞵ʘ𐞶ǀ𐞷ǁ𐞸ǂ𐞹𝼊𐞺𝼞𐲀𐳀𐲁𐳁𐲂𐳂𐲃𐳃𐲄𐳄𐲅𐳅𐲆𐳆𐲇𐳇𐲈𐳈𐲉𐳉𐲊𐳊𐲋𐳋𐲌𐳌𐲍𐳍𐲎𐳎𐲏𐳏𐲐𐳐𐲑𐳑𐲒𐳒𐲓𐳓",
  "𐲔𐳔𐲕𐳕𐲖𐳖𐲗𐳗𐲘𐳘𐲙𐳙𐲚𐳚𐲛𐳛𐲜𐳜𐲝𐳝𐲞𐳞𐲟𐳟𐲠𐳠𐲡𐳡𐲢𐳢𐲣𐳣𐲤𐳤𐲥𐳥𐲦𐳦𐲧𐳧𐲨𐳨𐲩𐳩𐲪𐳪𐲫𐳫𐲬𐳬𐲭𐳭𐲮𐳮𐲯𐳯𐲰𐳰𐲱𐳱𐲲𐳲𐵐𐵰𐵑𐵱𐵒𐵲𐵓𐵳𐵔𐵴𐵕𐵵𐵖𐵶",
  "𐵗𐵷𐵘𐵸𐵙𐵹𐵚𐵺𐵛𐵻𐵜𐵼𐵝𐵽𐵞𐵾𐵟𐵿𐵠𐶀𐵡𐶁𐵢𐶂𐵣𐶃𐵤𐶄𐵥𐶅𑢠𑣀𑢡𑣁𑢢𑣂𑢣𑣃𑢤𑣄𑢥𑣅𑢦𑣆𑢧𑣇𑢨𑣈𑢩𑣉𑢪𑣊𑢫𑣋𑢬𑣌𑢭𑣍𑢮𑣎𑢯𑣏𑢰𑣐𑢱𑣑𑢲𑣒𑢳𑣓𑢴𑣔𑢵𑣕𑢶𑣖",
  "𑢷𑣗𑢸𑣘𑢹𑣙𑢺𑣚𑢻𑣛𑢼𑣜𑢽𑣝𑢾𑣞𑢿𑣟𖹀𖹠𖹁𖹡𖹂𖹢𖹃𖹣𖹄𖹤𖹅𖹥𖹆𖹦𖹇𖹧𖹈𖹨𖹉𖹩𖹊𖹪𖹋𖹫𖹌𖹬𖹍𖹭𖹎𖹮𖹏𖹯𖹐𖹰𖹑𖹱𖹒𖹲𖹓𖹳𖹔𖹴𖹕𖹵𖹖𖹶𖹗𖹷𖹘𖹸𖹙𖹹𖹚𖹺𖹛𖹻𖹜𖹼",
  "𖹝𖹽𖹞𖹾𖹟𖹿𖺠𖺻𖺡𖺼𖺢𖺽𖺣𖺾𖺤𖺿𖺥𖻀𖺦𖻁𖺧𖻂𖺨𖻃𖺩𖻄𖺪𖻅𖺫𖻆𖺬𖻇𖺭𖻈𖺮𖻉𖺯𖻊𖺰𖻋𖺱𖻌𖺲𖻍𖺳𖻎𖺴𖻏𖺵𖻐𖺶𖻑𖺷𖻒𖺸𖻓𜳖a𜳗b𜳘c𜳙d𜳚e𜳛f𜳜g𜳝h𜳞i𜳟j",
  "𜳠k𜳡l𜳢m𜳣n𜳤o𜳥p𜳦q𜳧r𜳨s𜳩t𜳪u𜳫v𜳬w𜳭x𜳮y𜳯z𜳰0𜳱1𜳲2𜳳3𜳴4𜳵5𜳶6𜳷7𜳸8𜳹9𝐀a𝐁b𝐂c𝐃d𝐄e𝐅f𝐆g𝐇h𝐈i𝐉j𝐊k𝐋l",
  "𝐌m𝐍n𝐎o𝐏p𝐐q𝐑r𝐒s𝐓t𝐔u𝐕v𝐖w𝐗x𝐘y𝐙z𝐚a𝐛b𝐜c𝐝d𝐞e𝐟f𝐠g𝐡h𝐢i𝐣j𝐤k𝐥l𝐦m𝐧n𝐨o𝐩p𝐪q𝐫r𝐬s𝐭t𝐮u𝐯v𝐰w𝐱x",
  "𝐲y𝐳z𝐴a𝐵b𝐶c𝐷d𝐸e𝐹f𝐺g𝐻h𝐼i𝐽j𝐾k𝐿l𝑀m𝑁n𝑂o𝑃p𝑄q𝑅r𝑆s𝑇t𝑈u𝑉v𝑊w𝑋x𝑌y𝑍z𝑎a𝑏b𝑐c𝑑d𝑒e𝑓f𝑔g𝑖i𝑗j𝑘k",
  "𝑙l𝑚m𝑛n𝑜o𝑝p𝑞q𝑟r𝑠s𝑡t𝑢u𝑣v𝑤w𝑥x𝑦y𝑧z𝑨a𝑩b𝑪c𝑫d𝑬e𝑭f𝑮g𝑯h𝑰i𝑱j𝑲k𝑳l𝑴m𝑵n𝑶o𝑷p𝑸q𝑹r𝑺s𝑻t𝑼u𝑽v𝑾w",
  "𝑿x𝒀y𝒁z𝒂a𝒃b𝒄c𝒅d𝒆e𝒇f𝒈g𝒉h𝒊i𝒋j𝒌k𝒍l𝒎m𝒏n𝒐o𝒑p𝒒q𝒓r𝒔s𝒕t𝒖u𝒗v𝒘w𝒙x𝒚y𝒛z𝒜a𝒞c𝒟d𝒢g𝒥j𝒦k𝒩n𝒪o𝒫p",
  "𝒬q𝒮s𝒯t𝒰u𝒱v𝒲w𝒳x𝒴y𝒵z𝒶a𝒷b𝒸c𝒹d𝒻f𝒽h𝒾i𝒿j𝓀k𝓁l𝓂m𝓃n𝓅p𝓆q𝓇r𝓈s𝓉t𝓊u𝓋v𝓌w𝓍x𝓎y𝓏z𝓐a𝓑b𝓒c𝓓d𝓔e𝓕f",
  "𝓖g𝓗h𝓘i𝓙j𝓚k𝓛l𝓜m𝓝n𝓞o𝓟p𝓠q𝓡r𝓢s𝓣t𝓤u𝓥v𝓦w𝓧x𝓨y𝓩z𝓪a𝓫b𝓬c𝓭d𝓮e𝓯f𝓰g𝓱h𝓲i𝓳j𝓴k𝓵l𝓶m𝓷n𝓸o𝓹p𝓺q𝓻r",
  "𝓼s𝓽t𝓾u𝓿v𝔀w𝔁x𝔂y𝔃z𝔄a𝔅b𝔇d𝔈e𝔉f𝔊g𝔍j𝔎k𝔏l𝔐m𝔑n𝔒o𝔓p𝔔q𝔖s𝔗t𝔘u𝔙v𝔚w𝔛x𝔜y𝔞a𝔟b𝔠c𝔡d𝔢e𝔣f𝔤g𝔥h𝔦i",
  "𝔧j𝔨k𝔩l𝔪m𝔫n𝔬o𝔭p𝔮q𝔯r𝔰s𝔱t𝔲u𝔳v𝔴w𝔵x𝔶y𝔷z𝔸a𝔹b𝔻d𝔼e𝔽f𝔾g𝕀i𝕁j𝕂k𝕃l𝕄m𝕆o𝕊s𝕋t𝕌u𝕍v𝕎w𝕏x𝕐y𝕒a𝕓b",
  "𝕔c𝕕d𝕖e𝕗f𝕘g𝕙h𝕚i𝕛j𝕜k𝕝l𝕞m𝕟n𝕠o𝕡p𝕢q𝕣r𝕤s𝕥t𝕦u𝕧v𝕨w𝕩x𝕪y𝕫z𝕬a𝕭b𝕮c𝕯d𝕰e𝕱f𝕲g𝕳h𝕴i𝕵j𝕶k𝕷l𝕸m𝕹n",
  "𝕺o𝕻p𝕼q𝕽r𝕾s𝕿t𝖀u𝖁v𝖂w𝖃x𝖄y𝖅z𝖆a𝖇b𝖈c𝖉d𝖊e𝖋f𝖌g𝖍h𝖎i𝖏j𝖐k𝖑l𝖒m𝖓n𝖔o𝖕p𝖖q𝖗r𝖘s𝖙t𝖚u𝖛v𝖜w𝖝x𝖞y𝖟z",
  "𝖠a𝖡b𝖢c𝖣d𝖤e𝖥f𝖦g𝖧h𝖨i𝖩j𝖪k𝖫l𝖬m𝖭n𝖮o𝖯p𝖰q𝖱r𝖲s𝖳t𝖴u𝖵v𝖶w𝖷x𝖸y𝖹z𝖺a𝖻b𝖼c𝖽d𝖾e𝖿f𝗀g𝗁h𝗂i𝗃j𝗄k𝗅l",
  "𝗆m𝗇n𝗈o𝗉p𝗊q𝗋r𝗌s𝗍t𝗎u𝗏v𝗐w𝗑x𝗒y𝗓z𝗔a𝗕b𝗖c𝗗d𝗘e𝗙f𝗚g𝗛h𝗜i𝗝j𝗞k𝗟l𝗠m𝗡n𝗢o𝗣p𝗤q𝗥r𝗦s𝗧t𝗨u𝗩v𝗪w𝗫x",
  "𝗬y𝗭z𝗮a𝗯b𝗰c𝗱d𝗲e𝗳f𝗴g𝗵h𝗶i𝗷j𝗸k𝗹l𝗺m𝗻n𝗼o𝗽p𝗾q𝗿r𝘀s𝘁t𝘂u𝘃v𝘄w𝘅x𝘆y𝘇z𝘈a𝘉b𝘊c𝘋d𝘌e𝘍f𝘎g𝘏h𝘐i𝘑j",
  "𝘒k𝘓l𝘔m𝘕n𝘖o𝘗p𝘘q𝘙r𝘚s𝘛t𝘜u𝘝v𝘞w𝘟x𝘠y𝘡z𝘢a𝘣b𝘤c𝘥d𝘦e𝘧f𝘨g𝘩h𝘪i𝘫j𝘬k𝘭l𝘮m𝘯n𝘰o𝘱p𝘲q𝘳r𝘴s𝘵t𝘶u𝘷v",
  "𝘸w𝘹x𝘺y𝘻z𝘼a𝘽b𝘾c𝘿d𝙀e𝙁f𝙂g𝙃h𝙄i𝙅j𝙆k𝙇l𝙈m𝙉n𝙊o𝙋p𝙌q𝙍r𝙎s𝙏t𝙐u𝙑v𝙒w𝙓x𝙔y𝙕z𝙖a𝙗b𝙘c𝙙d𝙚e𝙛f𝙜g𝙝h",
  "𝙞i𝙟j𝙠k𝙡l𝙢m𝙣n𝙤o𝙥p𝙦q𝙧r𝙨s𝙩t𝙪u𝙫v𝙬w𝙭x𝙮y𝙯z𝙰a𝙱b𝙲c𝙳d𝙴e𝙵f𝙶g𝙷h𝙸i𝙹j𝙺k𝙻l𝙼m𝙽n𝙾o𝙿p𝚀q𝚁r𝚂s𝚃t",
  "𝚄u𝚅v𝚆w𝚇x𝚈y𝚉z𝚊a𝚋b𝚌c𝚍d𝚎e𝚏f𝚐g𝚑h𝚒i𝚓j𝚔k𝚕l𝚖m𝚗n𝚘o𝚙p𝚚q𝚛r𝚜s𝚝t𝚞u𝚟v𝚠w𝚡x𝚢y𝚣z𝚤ı𝚥ȷ𝚨α𝚩β𝚪γ𝚫δ",
  "𝚬ε𝚭ζ𝚮η𝚯θ𝚰ι𝚱κ𝚲λ𝚳μ𝚴ν𝚵ξ𝚶ο𝚷π𝚸ρ𝚹θ𝚺σ𝚻τ𝚼υ𝚽φ𝚾χ𝚿ψ𝛀ω𝛁∇𝛂α𝛃β𝛄γ𝛅δ𝛆ε𝛇ζ𝛈η𝛉θ𝛊ι𝛋κ𝛌λ𝛍μ𝛎ν𝛏ξ𝛐ο𝛑π",
  "𝛒ρ𝛓σ𝛔σ𝛕τ𝛖υ𝛗φ𝛘χ𝛙ψ𝛚ω𝛛∂𝛜ε𝛝θ𝛞κ𝛟φ𝛠ρ𝛡π𝛢α𝛣β𝛤γ𝛥δ𝛦ε𝛧ζ𝛨η𝛩θ𝛪ι𝛫κ𝛬λ𝛭μ𝛮ν𝛯ξ𝛰ο𝛱π𝛲ρ𝛳θ𝛴σ𝛵τ𝛶υ𝛷φ",
  "𝛸χ𝛹ψ𝛺ω𝛻∇𝛼α𝛽β𝛾γ𝛿δ𝜀ε𝜁ζ𝜂η𝜃θ𝜄ι𝜅κ𝜆λ𝜇μ𝜈ν𝜉ξ𝜊ο𝜋π𝜌ρ𝜍σ𝜎σ𝜏τ𝜐υ𝜑φ𝜒χ𝜓ψ𝜔ω𝜕∂𝜖ε𝜗θ𝜘κ𝜙φ𝜚ρ𝜛π𝜜α𝜝β",
  "𝜞γ𝜟δ𝜠ε𝜡ζ𝜢η𝜣θ𝜤ι𝜥κ𝜦λ𝜧μ𝜨ν𝜩ξ𝜪ο𝜫π𝜬ρ𝜭θ𝜮σ𝜯τ𝜰υ𝜱φ𝜲χ𝜳ψ𝜴ω𝜵∇𝜶α𝜷β𝜸γ𝜹δ𝜺ε𝜻ζ𝜼η𝜽θ𝜾ι𝜿κ𝝀λ𝝁μ𝝂ν𝝃ξ",
  "𝝄ο𝝅π𝝆ρ𝝇σ𝝈σ𝝉τ𝝊υ𝝋φ𝝌χ𝝍ψ𝝎ω𝝏∂𝝐ε𝝑θ𝝒κ𝝓φ𝝔ρ𝝕π𝝖α𝝗β𝝘γ𝝙δ𝝚ε𝝛ζ𝝜η𝝝θ𝝞ι𝝟κ𝝠λ𝝡μ𝝢ν𝝣ξ𝝤ο𝝥π𝝦ρ𝝧θ𝝨σ𝝩τ",
  "𝝪υ𝝫φ𝝬χ𝝭ψ𝝮ω𝝯∇𝝰α𝝱β𝝲γ𝝳δ𝝴ε𝝵ζ𝝶η𝝷θ𝝸ι𝝹κ𝝺λ𝝻μ𝝼ν𝝽ξ𝝾ο𝝿π𝞀ρ𝞁σ𝞂σ𝞃τ𝞄υ𝞅φ𝞆χ𝞇ψ𝞈ω𝞉∂𝞊ε𝞋θ𝞌κ𝞍φ𝞎ρ𝞏π",
  "𝞐α𝞑β𝞒γ𝞓δ𝞔ε𝞕ζ𝞖η𝞗θ𝞘ι𝞙κ𝞚λ𝞛μ𝞜ν𝞝ξ𝞞ο𝞟π𝞠ρ𝞡θ𝞢σ𝞣τ𝞤υ𝞥φ𝞦χ𝞧ψ𝞨ω𝞩∇𝞪α𝞫β𝞬γ𝞭δ𝞮ε𝞯ζ𝞰η𝞱θ𝞲ι𝞳κ𝞴λ𝞵μ",
  "𝞶ν𝞷ξ𝞸ο𝞹π𝞺ρ𝞻σ𝞼σ𝞽τ𝞾υ𝞿φ𝟀χ𝟁ψ𝟂ω𝟃∂𝟄ε𝟅θ𝟆κ𝟇φ𝟈ρ𝟉π𝟊ϝ𝟋ϝ𝟎0𝟏1𝟐2𝟑3𝟒4𝟓5𝟔6𝟕7𝟖8𝟗9𝟘0𝟙1𝟚2𝟛3𝟜4𝟝5",
  "𝟞6𝟟7𝟠8𝟡9𝟢0𝟣1𝟤2𝟥3𝟦4𝟧5𝟨6𝟩7𝟪8𝟫9𝟬0𝟭1𝟮2𝟯3𝟰4𝟱5𝟲6𝟳7𝟴8𝟵9𝟶0𝟷1𝟸2𝟹3𝟺4𝟻5𝟼6𝟽7𝟾8𝟿9𞀰а𞀱б𞀲в𞀳г",
  "𞀴д𞀵е𞀶ж𞀷з𞀸и𞀹к𞀺л𞀻м𞀼о𞀽п𞀾р𞀿с𞁀т𞁁у𞁂ф𞁃х𞁄ц𞁅ч𞁆ш𞁇ы𞁈э𞁉ю𞁊ꚉ𞁋ә𞁌і𞁍ј𞁎ө𞁏ү𞁐ӏ𞁑а𞁒б𞁓в𞁔г𞁕д𞁖е𞁗ж𞁘з𞁙и",
  "𞁚к𞁛л𞁜о𞁝п𞁞с𞁟у𞁠ф𞁡х𞁢ц𞁣ч𞁤ш𞁥ъ𞁦ы𞁧ґ𞁨і𞁩ѕ𞁪џ𞁫ҫ𞁬ꙑ𞁭ұ𞤀𞤢𞤁𞤣𞤂𞤤𞤃𞤥𞤄𞤦𞤅𞤧𞤆𞤨𞤇𞤩𞤈𞤪𞤉𞤫𞤊𞤬𞤋𞤭𞤌𞤮𞤍𞤯𞤎𞤰𞤏𞤱𞤐𞤲𞤑𞤳",
  "𞤒𞤴𞤓𞤵𞤔𞤶𞤕𞤷𞤖𞤸𞤗𞤹𞤘𞤺𞤙𞤻𞤚𞤼𞤛𞤽𞤜𞤾𞤝𞤿𞤞𞥀𞤟𞥁𞤠𞥂𞤡𞥃𞸀\u0627𞸁\u0628𞸂\u062c𞸃\u062f𞸅\u0648𞸆\u0632",
  "𞸇\u062d𞸈\u0637𞸉\u064a𞸊\u0643𞸋\u0644𞸌\u0645𞸍\u0646𞸎\u0633𞸏\u0639𞸐\u0641",
  "𞸑\u0635𞸒\u0642𞸓\u0631𞸔\u0634𞸕\u062a𞸖\u062b𞸗\u062e𞸘\u0630𞸙\u0636𞸚\u0638",
  "𞸛\u063a𞸜\u066e𞸝\u06ba𞸞\u06a1𞸟\u066f𞸡\u0628𞸢\u062c𞸤\u0647𞸧\u062d𞸩\u064a",
  "𞸪\u0643𞸫\u0644𞸬\u0645𞸭\u0646𞸮\u0633𞸯\u0639𞸰\u0641𞸱\u0635𞸲\u0642𞸴\u0634",
  "𞸵\u062a𞸶\u062b𞸷\u062e𞸹\u0636𞸻\u063a𞹂\u062c𞹇\u062d𞹉\u064a𞹋\u0644𞹍\u0646",
  "𞹎\u0633𞹏\u0639𞹑\u0635𞹒\u0642𞹔\u0634𞹗\u062e𞹙\u0636𞹛\u063a𞹝\u06ba𞹟\u066f",
  "𞹡\u0628𞹢\u062c𞹤\u0647𞹧\u062d𞹨\u0637𞹩\u064a𞹪\u0643𞹬\u0645𞹭\u0646𞹮\u0633",
  "𞹯\u0639𞹰\u0641𞹱\u0635𞹲\u0642𞹴\u0634𞹵\u062a𞹶\u062b𞹷\u062e𞹹\u0636𞹺\u0638",
  "𞹻\u063a𞹼\u066e𞹾\u06a1𞺀\u0627𞺁\u0628𞺂\u062c𞺃\u062f𞺄\u0647𞺅\u0648𞺆\u0632",
  "𞺇\u062d𞺈\u0637𞺉\u064a𞺋\u0644𞺌\u0645𞺍\u0646𞺎\u0633𞺏\u0639𞺐\u0641𞺑\u0635",
  "𞺒\u0642𞺓\u0631𞺔\u0634𞺕\u062a𞺖\u062b𞺗\u062e𞺘\u0630𞺙\u0636𞺚\u0638𞺛\u063a",
  "𞺡\u0628𞺢\u062c𞺣\u062f𞺥\u0648𞺦\u0632𞺧\u062d𞺨\u0637𞺩\u064a𞺫\u0644𞺬\u0645",
  "𞺭\u0646𞺮\u0633𞺯\u0639𞺰\u0641𞺱\u0635𞺲\u0642𞺳\u0631𞺴\u0634𞺵\u062a𞺶\u062b",
  "𞺷\u062e𞺸\u0630𞺹\u0636𞺺\u0638𞺻\u063a🄫c🄬r🄰a🄱b🄲c🄳d🄴e🄵f🄶g🄷h🄸i🄹j🄺k🄻l🄼m🄽n🄾o🄿p🅀q🅁r",
  "🅂s🅃t🅄u🅅v🅆w🅇x🅈y🅉z🈂サ🈐手🈑字🈒双🈓デ🈔二🈕多🈖解🈗天🈘交🈙映🈚無🈛料🈜前🈝後🈞再🈟新🈠初🈡終🈢生🈣販🈤声🈥吹🈦演🈧投🈨捕🈩一🈪三🈫遊🈬左",
  "🈭中🈮右🈯指🈰走🈱打🈲禁🈳空🈴合🈵満🈶有🈷月🈸申🈹割🈺営🈻配🉐得🉑可🯰0🯱1🯲2🯳3🯴4🯵5🯶6🯷7🯸8🯹9"]

def spelledLetters : List String := [
  "¼1⁄4 ½1⁄2 ¾3⁄4 İi\u0307 Ĳij ĳij Ŀl· ŀl· ŉʼn Ǆdž ǅdž ǆdž Ǉlj ǈlj ǉlj Ǌnj ǋnj ǌnj Ǳdz",
  "ǲdz ǳdz \u0344\u0308\u0301 ևեւ \u0675\u0627\u0674 \u0676\u0648\u0674",
  "\u0677\u06c7\u0674 \u0678\u064a\u0674 \u0958क\u093c \u0959ख\u093c \u095aग\u093c",
  "\u095bज\u093c \u095cड\u093c \u095dढ\u093c \u095eफ\u093c \u095fय\u093c \u09dcড\u09bc",
  "\u09ddঢ\u09bc \u09dfয\u09bc \u0a33ਲ\u0a3c \u0a36ਸ\u0a3c \u0a59ਖ\u0a3c \u0a5aਗ\u0a3c",
  "\u0a5bਜ\u0a3c \u0a5eਫ\u0a3c \u0b5cଡ\u0b3c \u0b5dଢ\u0b3c ำ\u0e4dา ຳ\u0ecdາ ໜຫນ ໝຫມ",
  "\u0f43ག\u0fb7 \u0f4dཌ\u0fb7 \u0f52ད\u0fb7 \u0f57བ\u0fb7 \u0f5cཛ\u0fb7 \u0f69ཀ\u0fb5",
  "\u0f73\u0f71\u0f72 \u0f75\u0f71\u0f74 \u0f76\u0fb2\u0f80 \u0f77\u0fb2\u0f71\u0f80",
  "\u0f78\u0fb3\u0f80 \u0f79\u0fb3\u0f71\u0f80 \u0f81\u0f71\u0f80 \u0f93\u0f92\u0fb7",
  "\u0f9d\u0f9c\u0fb7 \u0fa2\u0fa1\u0fb7 \u0fa7\u0fa6\u0fb7 \u0fac\u0fab\u0fb7",
  "\u0fb9\u0f90\u0fb5 ẚaʾ ᾀἀι ᾁἁι ᾂἂι ᾃἃι ᾄἄι ᾅἅι ᾆἆι ᾇἇι ᾈἀι ᾉἁι ᾊἂι ᾋἃι ᾌἄι ᾍἅι ᾎἆι",
  "ᾏἇι ᾐἠι ᾑἡι ᾒἢι ᾓἣι ᾔἤι ᾕἥι ᾖἦι ᾗἧι ᾘἠι ᾙἡι ᾚἢι ᾛἣι ᾜἤι ᾝἥι ᾞἦι ᾟἧι ᾠὠι ᾡὡι ᾢὢι ᾣὣι",
  "ᾤὤι ᾥὥι ᾦὦι ᾧὧι ᾨὠι ᾩὡι ᾪὢι ᾫὣι ᾬὤι ᾭὥι ᾮὦι ᾯὧι ᾲὰι ᾳαι ᾴάι ᾷᾶι ᾼαι ῂὴι ῃηι ῄήι ῇῆι",
  "ῌηι ῲὼι ῳωι ῴώι ῷῶι ῼωι ″′′ ‴′′′ ‶‵‵ ‷‵‵‵ ‼!! ⁗′′′′ ₨rs ℃°c ℉°f №no ℠sm ℡tel ™tm",
  "℻fax ⅐1⁄7 ⅑1⁄9 ⅒1⁄10 ⅓1⁄3 ⅔2⁄3 ⅕1⁄5 ⅖2⁄5 ⅗3⁄5 ⅘4⁄5 ⅙1⁄6 ⅚5⁄6 ⅛1⁄8 ⅜3⁄8 ⅝5⁄8 ⅞7⁄8 ⅟1⁄",
  "Ⅱii Ⅲiii Ⅳiv Ⅵvi Ⅶvii Ⅷviii Ⅸix Ⅺxi Ⅻxii ⅱii ⅲiii ⅳiv ⅵvi ⅶvii ⅷviii ⅸix ⅺxi ⅻxii",
  "↉0⁄3 ∬∫∫ ∭∫∫∫ ∯∮∮ ∰∮∮∮ ⑩10 ⑪11 ⑫12 ⑬13 ⑭14 ⑮15 ⑯16 ⑰17 ⑱18 ⑲19 ⑳20 ⑴(1) ⑵(2) ⑶(3)",
  "⑷(4) ⑸(5) ⑹(6) ⑺(7) ⑻(8) ⑼(9) ⑽(10) ⑾(11) ⑿(12) ⒀(13) ⒁(14) ⒂(15) ⒃(16) ⒄(17) ⒅(18)",
  "⒆(19) ⒇(20) ⒜(a) ⒝(b) ⒞(c) ⒟(d) ⒠(e) ⒡(f) ⒢(g) ⒣(h) ⒤(i) ⒥(j) ⒦(k) ⒧(l) ⒨(m) ⒩(n)",
  "⒪(o) ⒫(p) ⒬(q) ⒭(r) ⒮(s) ⒯(t) ⒰(u) ⒱(v) ⒲(w) ⒳(x) ⒴(y) ⒵(z) ⨌∫∫∫∫ ⩵== ⩶===",
  "\u2adc⫝\u0338 ゟより ヿコト ㈀(ᄀ) ㈁(ᄂ) ㈂(ᄃ) ㈃(ᄅ) ㈄(ᄆ) ㈅(ᄇ) ㈆(ᄉ) ㈇(ᄋ) ㈈(ᄌ) ㈉(ᄎ) ㈊(ᄏ) ㈋(ᄐ)",
  "㈌(ᄑ) ㈍(ᄒ) ㈎(가) ㈏(나) ㈐(다) ㈑(라) ㈒(마) ㈓(바) ㈔(사) ㈕(아) ㈖(자) ㈗(차) ㈘(카) ㈙(타) ㈚(파) ㈛(하) ㈜(주)",
  "㈝(오전) ㈞(오후) ㈠(一) ㈡(二) ㈢(三) ㈣(四) ㈤(五) ㈥(六) ㈦(七) ㈧(八) ㈨(九) ㈩(十) ㈪(月) ㈫(火) ㈬(水) ㈭(木)",
  "㈮(金) ㈯(土) ㈰(日) ㈱(株) ㈲(有) ㈳(社) ㈴(名) ㈵(特) ㈶(財) ㈷(祝) ㈸(労) ㈹(代) ㈺(呼) ㈻(学) ㈼(監) ㈽(企) ㈾(資)",
  "㈿(協) ㉀(祭) ㉁(休) ㉂(自) ㉃(至) ㉐pte ㉑21 ㉒22 ㉓23 ㉔24 ㉕25 ㉖26 ㉗27 ㉘28 ㉙29 ㉚30 ㉛31 ㉜32 ㉝33",
  "㉞34 ㉟35 ㉼참고 ㉽주의 ㊱36 ㊲37 ㊳38 ㊴39 ㊵40 ㊶41 ㊷42 ㊸43 ㊹44 ㊺45 ㊻46 ㊼47 ㊽48 ㊾49 ㊿50 ㋀1月 ㋁2月",
  "㋂3月 ㋃4月 ㋄5月 ㋅6月 ㋆7月 ㋇8月 ㋈9月 ㋉10月 ㋊11月 ㋋12月 ㋌hg ㋍erg ㋎ev ㋏ltd ㋿令和 ㌀アパート ㌁アルファ ㌂アンペア",
  "㌃アール ㌄イニング ㌅インチ ㌆ウォン ㌇エスクード ㌈エーカー ㌉オンス ㌊オーム ㌋カイリ ㌌カラット ㌍カロリー ㌎ガロン ㌏ガンマ ㌐ギガ ㌑ギニー",
  "㌒キュリー ㌓ギルダー ㌔キロ ㌕キログラム ㌖キロメートル ㌗キロワット ㌘グラム ㌙グラムトン ㌚クルゼイロ ㌛クローネ ㌜ケース ㌝コルナ ㌞コーポ ㌟サイクル",
  "㌠サンチーム ㌡シリング ㌢センチ ㌣セント ㌤ダース ㌥デシ ㌦ドル ㌧トン ㌨ナノ ㌩ノット ㌪ハイツ ㌫パーセント ㌬パーツ ㌭バーレル ㌮ピアストル ㌯ピクル",
  "㌰ピコ ㌱ビル ㌲ファラッド ㌳フィート ㌴ブッシェル ㌵フラン ㌶ヘクタール ㌷ペソ ㌸ペニヒ ㌹ヘルツ ㌺ペンス ㌻ページ ㌼ベータ ㌽ポイント ㌾ボルト ㌿ホン",
  "㍀ポンド ㍁ホール ㍂ホーン ㍃マイクロ ㍄マイル ㍅マッハ ㍆マルク ㍇マンション ㍈ミクロン ㍉ミリ ㍊ミリバール ㍋メガ ㍌メガトン ㍍メートル ㍎ヤード",
  "㍏ヤール ㍐ユアン ㍑リットル ㍒リラ ㍓ルピー ㍔ルーブル ㍕レム ㍖レントゲン ㍗ワット ㍘0点 ㍙1点 ㍚2点 ㍛3点 ㍜4点 ㍝5点 ㍞6点 ㍟7点 ㍠8点",
  "㍡9点 ㍢10点 ㍣11点 ㍤12点 ㍥13点 ㍦14点 ㍧15点 ㍨16点 ㍩17点 ㍪18点 ㍫19点 ㍬20点 ㍭21点 ㍮22点 ㍯23点 ㍰24点 ㍱hpa",
  "㍲da ㍳au ㍴bar ㍵ov ㍶pc ㍷dm ㍸dm2 ㍹dm3 ㍺iu ㍻平成 ㍼昭和 ㍽大正 ㍾明治 ㍿株式会社 ㎀pa ㎁na ㎂μa ㎃ma ㎄ka ㎅kb",
  "㎆mb ㎇gb ㎈cal ㎉kcal ㎊pf ㎋nf ㎌μf ㎍μg ㎎mg ㎏kg ㎐hz ㎑khz ㎒mhz ㎓ghz ㎔thz ㎕μl ㎖ml ㎗dl ㎘kl",
  "㎙fm ㎚nm ㎛μm ㎜mm ㎝cm ㎞km ㎟mm2 ㎠cm2 ㎡m2 ㎢km2 ㎣mm3 ㎤cm3 ㎥m3 ㎦km3 ㎧m∕s ㎨m∕s2 ㎩pa ㎪kpa",
  "㎫mpa ㎬gpa ㎭rad ㎮rad∕s ㎯rad∕s2 ㎰ps ㎱ns ㎲μs ㎳ms ㎴pv ㎵nv ㎶μv ㎷mv ㎸kv ㎹mv ㎺pw ㎻nw ㎼μw",
  "㎽mw ㎾kw ㎿mw ㏀kω ㏁mω ㏃bq ㏄cc ㏅cd ㏆c∕kg ㏈db ㏉gy ㏊ha ㏋hp ㏌in ㏍kk ㏎km ㏏kt ㏐lm ㏑ln ㏒log",
  "㏓lx ㏔mb ㏕mil ㏖mol ㏗ph ㏙ppm ㏚pr ㏛sr ㏜sv ㏝wb ㏞v∕m ㏟a∕m ㏠1日 ㏡2日 ㏢3日 ㏣4日 ㏤5日 ㏥6日 ㏦7日 ㏧8日",
  "㏨9日 ㏩10日 ㏪11日 ㏫12日 ㏬13日 ㏭14日 ㏮15日 ㏯16日 ㏰17日 ㏱18日 ㏲19日 ㏳20日 ㏴21日 ㏵22日 ㏶23日 ㏷24日 ㏸25日",
  "㏹26日 ㏺27日 ㏻28日 ㏼29日 ㏽30日 ㏾31日 ㏿gal ﬀff ﬁfi ﬂfl ﬃffi ﬄffl ﬅst ﬆst ﬓմն ﬔմե ﬕմի ﬖվն ﬗմխ",
  "\ufb1d\u05d9\u05b4 \ufb1f\u05f2\u05b7 \ufb2a\u05e9\u05c1 \ufb2b\u05e9\u05c2",
  "\ufb2c\u05e9\u05bc\u05c1 \ufb2d\u05e9\u05bc\u05c2 \ufb2e\u05d0\u05b7",
  "\ufb2f\u05d0\u05b8 \ufb30\u05d0\u05bc \ufb31\u05d1\u05bc \ufb32\u05d2\u05bc",
  "\ufb33\u05d3\u05bc \ufb34\u05d4\u05bc \ufb35\u05d5\u05bc \ufb36\u05d6\u05bc",
  "\ufb38\u05d8\u05bc \ufb39\u05d9\u05bc \ufb3a\u05da\u05bc \ufb3b\u05db\u05bc",
  "\ufb3c\u05dc\u05bc \ufb3e\u05de\u05bc \ufb40\u05e0\u05bc \ufb41\u05e1\u05bc",
  "\ufb43\u05e3\u05bc \ufb44\u05e4\u05bc \ufb46\u05e6\u05bc \ufb47\u05e7\u05bc",
  "\ufb48\u05e8\u05bc \ufb49\u05e9\u05bc \ufb4a\u05ea\u05bc \ufb4b\u05d5\u05b9",
  "\ufb4c\u05d1\u05bf \ufb4d\u05db\u05bf \ufb4e\u05e4\u05bf \ufb4f\u05d0\u05dc",
  "\ufbdd\u06c7\u0674 \ufbea\u0626\u0627 \ufbeb\u0626\u0627 \ufbec\u0626\u06d5",
  "\ufbed\u0626\u06d5 \ufbee\u0626\u0648 \ufbef\u0626\u0648 \ufbf0\u0626\u06c7",
  "\ufbf1\u0626\u06c7 \ufbf2\u0626\u06c6 \ufbf3\u0626\u06c6 \ufbf4\u0626\u06c8",
  "\ufbf5\u0626\u06c8 \ufbf6\u0626\u06d0 \ufbf7\u0626\u06d0 \ufbf8\u0626\u06d0",
  "\ufbf9\u0626\u0649 \ufbfa\u0626\u0649 \ufbfb\u0626\u0649 \ufc00\u0626\u062c",
  "\ufc01\u0626\u062d \ufc02\u0626\u0645 \ufc03\u0626\u0649 \ufc04\u0626\u064a",
  "\ufc05\u0628\u062c \ufc06\u0628\u062d \ufc07\u0628\u062e \ufc08\u0628\u0645",
  "\ufc09\u0628\u0649 \ufc0a\u0628\u064a \ufc0b\u062a\u062c \ufc0c\u062a\u062d",
  "\ufc0d\u062a\u062e \ufc0e\u062a\u0645 \ufc0f\u062a\u0649 \ufc10\u062a\u064a",
  "\ufc11\u062b\u062c \ufc12\u062b\u0645 \ufc13\u062b\u0649 \ufc14\u062b\u064a",
  "\ufc15\u062c\u062d \ufc16\u062c\u0645 \ufc17\u062d\u062c \ufc18\u062d\u0645",
  "\ufc19\u062e\u062c \ufc1a\u062e\u062d \ufc1b\u062e\u0645 \ufc1c\u0633\u062c",
  "\ufc1d\u0633\u062d \ufc1e\u0633\u062e \ufc1f\u0633\u0645 \ufc20\u0635\u062d",
  "\ufc21\u0635\u0645 \ufc22\u0636\u062c \ufc23\u0636\u062d \ufc24\u0636\u062e",
  "\ufc25\u0636\u0645 \ufc26\u0637\u062d \ufc27\u0637\u0645 \ufc28\u0638\u0645",
  "\ufc29\u0639\u062c \ufc2a\u0639\u0645 \ufc2b\u063a\u062c \ufc2c\u063a\u0645",
  "\ufc2d\u0641\u062c \ufc2e\u0641\u062d \ufc2f\u0641\u062e \ufc30\u0641\u0645",
  "\ufc31\u0641\u0649 \ufc32\u0641\u064a \ufc33\u0642\u062d \ufc34\u0642\u0645",
  "\ufc35\u0642\u0649 \ufc36\u0642\u064a \ufc37\u0643\u0627 \ufc38\u0643\u062c",
  "\ufc39\u0643\u062d \ufc3a\u0643\u062e \ufc3b\u0643\u0644 \ufc3c\u0643\u0645",
  "\ufc3d\u0643\u0649 \ufc3e\u0643\u064a \ufc3f\u0644\u062c \ufc40\u0644\u062d",
  "\ufc41\u0644\u062e \ufc42\u0644\u0645 \ufc43\u0644\u0649 \ufc44\u0644\u064a",
  "\ufc45\u0645\u062c \ufc46\u0645\u062d \ufc47\u0645\u062e \ufc48\u0645\u0645",
  "\ufc49\u0645\u0649 \ufc4a\u0645\u064a \ufc4b\u0646\u062c \ufc4c\u0646\u062d",
  "\ufc4d\u0646\u062e \ufc4e\u0646\u0645 \ufc4f\u0646\u0649 \ufc50\u0646\u064a",
  "\ufc51\u0647\u062c \ufc52\u0647\u0645 \ufc53\u0647\u0649 \ufc54\u0647\u064a",
  "\ufc55\u064a\u062c \ufc56\u064a\u062d \ufc57\u064a\u062e \ufc58\u064a\u0645",
  "\ufc59\u064a\u0649 \ufc5a\u064a\u064a \ufc5b\u0630\u0670 \ufc5c\u0631\u0670",
  "\ufc5d\u0649\u0670 \ufc64\u0626\u0631 \ufc65\u0626\u0632 \ufc66\u0626\u0645",
  "\ufc67\u0626\u0646 \ufc68\u0626\u0649 \ufc69\u0626\u064a \ufc6a\u0628\u0631",
  "\ufc6b\u0628\u0632 \ufc6c\u0628\u0645 \ufc6d\u0628\u0646 \ufc6e\u0628\u0649",
  "\ufc6f\u0628\u064a \ufc70\u062a\u0631 \ufc71\u062a\u0632 \ufc72\u062a\u0645",
  "\ufc73\u062a\u0646 \ufc74\u062a\u0649 \ufc75\u062a\u064a \ufc76\u062b\u0631",
  "\ufc77\u062b\u0632 \ufc78\u062b\u0645 \ufc79\u062b\u0646 \ufc7a\u062b\u0649",
  "\ufc7b\u062b\u064a \ufc7c\u0641\u0649 \ufc7d\u0641\u064a \ufc7e\u0642\u0649",
  "\ufc7f\u0642\u064a \ufc80\u0643\u0627 \ufc81\u0643\u0644 \ufc82\u0643\u0645",
  "\ufc83\u0643\u0649 \ufc84\u0643\u064a \ufc85\u0644\u0645 \ufc86\u0644\u0649",
  "\ufc87\u0644\u064a \ufc88\u0645\u0627 \ufc89\u0645\u0645 \ufc8a\u0646\u0631",
  "\ufc8b\u0646\u0632 \ufc8c\u0646\u0645 \ufc8d\u0646\u0646 \ufc8e\u0646\u0649",
  "\ufc8f\u0646\u064a \ufc90\u0649\u0670 \ufc91\u064a\u0631 \ufc92\u064a\u0632",
  "\ufc93\u064a\u0645 \ufc94\u064a\u0646 \ufc95\u064a\u0649 \ufc96\u064a\u064a",
  "\ufc97\u0626\u062c \ufc98\u0626\u062d \ufc99\u0626\u062e \ufc9a\u0626\u0645",
  "\ufc9b\u0626\u0647 \ufc9c\u0628\u062c \ufc9d\u0628\u062d \ufc9e\u0628\u062e",
  "\ufc9f\u0628\u0645 \ufca0\u0628\u0647 \ufca1\u062a\u062c \ufca2\u062a\u062d",
  "\ufca3\u062a\u062e \ufca4\u062a\u0645 \ufca5\u062a\u0647 \ufca6\u062b\u0645",
  "\ufca7\u062c\u062d \ufca8\u062c\u0645 \ufca9\u062d\u062c \ufcaa\u062d\u0645",
  "\ufcab\u062e\u062c \ufcac\u062e\u0645 \ufcad\u0633\u062c \ufcae\u0633\u062d",
  "\ufcaf\u0633\u062e \ufcb0\u0633\u0645 \ufcb1\u0635\u062d \ufcb2\u0635\u062e",
  "\ufcb3\u0635\u0645 \ufcb4\u0636\u062c \ufcb5\u0636\u062d \ufcb6\u0636\u062e",
  "\ufcb7\u0636\u0645 \ufcb8\u0637\u062d \ufcb9\u0638\u0645 \ufcba\u0639\u062c",
  "\ufcbb\u0639\u0645 \ufcbc\u063a\u062c \ufcbd\u063a\u0645 \ufcbe\u0641\u062c",
  "\ufcbf\u0641\u062d \ufcc0\u0641\u062e \ufcc1\u0641\u0645 \ufcc2\u0642\u062d",
  "\ufcc3\u0642\u0645 \ufcc4\u0643\u062c \ufcc5\u0643\u062d \ufcc6\u0643\u062e",
  "\ufcc7\u0643\u0644 \ufcc8\u0643\u0645 \ufcc9\u0644\u062c \ufcca\u0644\u062d",
  "\ufccb\u0644\u062e \ufccc\u0644\u0645 \ufccd\u0644\u0647 \ufcce\u0645\u062c",
  "\ufccf\u0645\u062d \ufcd0\u0645\u062e \ufcd1\u0645\u0645 \ufcd2\u0646\u062c",
  "\ufcd3\u0646\u062d \ufcd4\u0646\u062e \ufcd5\u0646\u0645 \ufcd6\u0646\u0647",
  "\ufcd7\u0647\u062c \ufcd8\u0647\u0645 \ufcd9\u0647\u0670 \ufcda\u064a\u062c",
  "\ufcdb\u064a\u062d \ufcdc\u064a\u062e \ufcdd\u064a\u0645 \ufcde\u064a\u0647",
  "\ufcdf\u0626\u0645 \ufce0\u0626\u0647 \ufce1\u0628\u0645 \ufce2\u0628\u0647",
  "\ufce3\u062a\u0645 \ufce4\u062a\u0647 \ufce5\u062b\u0645 \ufce6\u062b\u0647",
  "\ufce7\u0633\u0645 \ufce8\u0633\u0647 \ufce9\u0634\u0645 \ufcea\u0634\u0647",
  "\ufceb\u0643\u0644 \ufcec\u0643\u0645 \ufced\u0644\u0645 \ufcee\u0646\u0645",
  "\ufcef\u0646\u0647 \ufcf0\u064a\u0645 \ufcf1\u064a\u0647 \ufcf2\u0640\u064e\u0651",
  "\ufcf3\u0640\u064f\u0651 \ufcf4\u0640\u0650\u0651 \ufcf5\u0637\u0649",
  "\ufcf6\u0637\u064a \ufcf7\u0639\u0649 \ufcf8\u0639\u064a \ufcf9\u063a\u0649",
  "\ufcfa\u063a\u064a \ufcfb\u0633\u0649 \ufcfc\u0633\u064a \ufcfd\u0634\u0649",
  "\ufcfe\u0634\u064a \ufcff\u062d\u0649 \ufd00\u062d\u064a \ufd01\u062c\u0649",
  "\ufd02\u062c\u064a \ufd03\u062e\u0649 \ufd04\u062e\u064a \ufd05\u0635\u0649",
  "\ufd06\u0635\u064a \ufd07\u0636\u0649 \ufd08\u0636\u064a \ufd09\u0634\u062c",
  "\ufd0a\u0634\u062d \ufd0b\u0634\u062e \ufd0c\u0634\u0645 \ufd0d\u0634\u0631",
  "\ufd0e\u0633\u0631 \ufd0f\u0635\u0631 \ufd10\u0636\u0631 \ufd11\u0637\u0649",
  "\ufd12\u0637\u064a \ufd13\u0639\u0649 \ufd14\u0639\u064a \ufd15\u063a\u0649",
  "\ufd16\u063a\u064a \ufd17\u0633\u0649 \ufd18\u0633\u064a \ufd19\u0634\u0649",
  "\ufd1a\u0634\u064a \ufd1b\u062d\u0649 \ufd1c\u062d\u064a \ufd1d\u062c\u0649",
  "\ufd1e\u062c\u064a \ufd1f\u062e\u0649 \ufd20\u062e\u064a \ufd21\u0635\u0649",
  "\ufd22\u0635\u064a \ufd23\u0636\u0649 \ufd24\u0636\u064a \ufd25\u0634\u062c",
  "\ufd26\u0634\u062d \ufd27\u0634\u062e \ufd28\u0634\u0645 \ufd29\u0634\u0631",
  "\ufd2a\u0633\u0631 \ufd2b\u0635\u0631 \ufd2c\u0636\u0631 \ufd2d\u0634\u062c",
  "\ufd2e\u0634\u062d \ufd2f\u0634\u062e \ufd30\u0634\u0645 \ufd31\u0633\u0647",
  "\ufd32\u0634\u0647 \ufd33\u0637\u0645 \ufd34\u0633\u062c \ufd35\u0633\u062d",
  "\ufd36\u0633\u062e \ufd37\u0634\u062c \ufd38\u0634\u062d \ufd39\u0634\u062e",
  "\ufd3a\u0637\u0645 \ufd3b\u0638\u0645 \ufd3c\u0627\u064b \ufd3d\u0627\u064b",
  "\ufd50\u062a\u062c\u0645 \ufd51\u062a\u062d\u062c \ufd52\u062a\u062d\u062c",
  "\ufd53\u062a\u062d\u0645 \ufd54\u062a\u062e\u0645 \ufd55\u062a\u0645\u062c",
  "\ufd56\u062a\u0645\u062d \ufd57\u062a\u0645\u062e \ufd58\u062c\u0645\u062d",
  "\ufd59\u062c\u0645\u062d \ufd5a\u062d\u0645\u064a \ufd5b\u062d\u0645\u0649",
  "\ufd5c\u0633\u062d\u062c \ufd5d\u0633\u062c\u062d \ufd5e\u0633\u062c\u0649",
  "\ufd5f\u0633\u0645\u062d \ufd60\u0633\u0645\u062d \ufd61\u0633\u0645\u062c",
  "\ufd62\u0633\u0645\u0645 \ufd63\u0633\u0645\u0645 \ufd64\u0635\u062d\u062d",
  "\ufd65\u0635\u062d\u062d \ufd66\u0635\u0645\u0645 \ufd67\u0634\u062d\u0645",
  "\ufd68\u0634\u062d\u0645 \ufd69\u0634\u062c\u064a \ufd6a\u0634\u0645\u062e",
  "\ufd6b\u0634\u0645\u062e \ufd6c\u0634\u0645\u0645 \ufd6d\u0634\u0645\u0645",
  "\ufd6e\u0636\u062d\u0649 \ufd6f\u0636\u062e\u0645 \ufd70\u0636\u062e\u0645",
  "\ufd71\u0637\u0645\u062d \ufd72\u0637\u0645\u062d \ufd73\u0637\u0645\u0645",
  "\ufd74\u0637\u0645\u064a \ufd75\u0639\u062c\u0645 \ufd76\u0639\u0645\u0645",
  "\ufd77\u0639\u0645\u0645 \ufd78\u0639\u0645\u0649 \ufd79\u063a\u0645\u0645",
  "\ufd7a\u063a\u0645\u064a \ufd7b\u063a\u0645\u0649 \ufd7c\u0641\u062e\u0645",
  "\ufd7d\u0641\u062e\u0645 \ufd7e\u0642\u0645\u062d \ufd7f\u0642\u0645\u0645",
  "\ufd80\u0644\u062d\u0645 \ufd81\u0644\u062d\u064a \ufd82\u0644\u062d\u0649",
  "\ufd83\u0644\u062c\u062c \ufd84\u0644\u062c\u062c \ufd85\u0644\u062e\u0645",
  "\ufd86\u0644\u062e\u0645 \ufd87\u0644\u0645\u062d \ufd88\u0644\u0645\u062d",
  "\ufd89\u0645\u062d\u062c \ufd8a\u0645\u062d\u0645 \ufd8b\u0645\u062d\u064a",
  "\ufd8c\u0645\u062c\u062d \ufd8d\u0645\u062c\u0645 \ufd8e\u0645\u062e\u062c",
  "\ufd8f\u0645\u062e\u0645 \ufd92\u0645\u062c\u062e \ufd93\u0647\u0645\u062c",
  "\ufd94\u0647\u0645\u0645 \ufd95\u0646\u062d\u0645 \ufd96\u0646\u062d\u0649",
  "\ufd97\u0646\u062c\u0645 \ufd98\u0646\u062c\u0645 \ufd99\u0646\u062c\u0649",
  "\ufd9a\u0646\u0645\u064a \ufd9b\u0646\u0645\u0649 \ufd9c\u064a\u0645\u0645",
  "\ufd9d\u064a\u0645\u0645 \ufd9e\u0628\u062e\u064a \ufd9f\u062a\u062c\u064a",
  "\ufda0\u062a\u062c\u0649 \ufda1\u062a\u062e\u064a \ufda2\u062a\u062e\u0649",
  "\ufda3\u062a\u0645\u064a \ufda4\u062a\u0645\u0649 \ufda5\u062c\u0645\u064a",
  "\ufda6\u062c\u062d\u0649 \ufda7\u062c\u0645\u0649 \ufda8\u0633\u062e\u0649",
  "\ufda9\u0635\u062d\u064a \ufdaa\u0634\u062d\u064a \ufdab\u0636\u062d\u064a",
  "\ufdac\u0644\u062c\u064a \ufdad\u0644\u0645\u064a \ufdae\u064a\u062d\u064a",
  "\ufdaf\u064a\u062c\u064a \ufdb0\u064a\u0645\u064a \ufdb1\u0645\u0645\u064a",
  "\ufdb2\u0642\u0645\u064a \ufdb3\u0646\u062d\u064a \ufdb4\u0642\u0645\u062d",
  "\ufdb5\u0644\u062d\u0645 \ufdb6\u0639\u0645\u064a \ufdb7\u0643\u0645\u064a",
  "\ufdb8\u0646\u062c\u062d \ufdb9\u0645\u062e\u064a \ufdba\u0644\u062c\u0645",
  "\ufdbb\u0643\u0645\u0645 \ufdbc\u0644\u062c\u0645 \ufdbd\u0646\u062c\u062d",
  "\ufdbe\u062c\u062d\u064a \ufdbf\u062d\u062c\u064a \ufdc0\u0645\u062c\u064a",
  "\ufdc1\u0641\u0645\u064a \ufdc2\u0628\u062d\u064a \ufdc3\u0643\u0645\u0645",
  "\ufdc4\u0639\u062c\u0645 \ufdc5\u0635\u0645\u0645 \ufdc6\u0633\u062e\u064a",
  "\ufdc7\u0646\u062c\u064a \ufdf0\u0635\u0644\u06d2 \ufdf1\u0642\u0644\u06d2",
  "\ufdf2\u0627\u0644\u0644\u0647 \ufdf3\u0627\u0643\u0628\u0631",
  "\ufdf4\u0645\u062d\u0645\u062f \ufdf5\u0635\u0644\u0639\u0645",
  "\ufdf6\u0631\u0633\u0648\u0644 \ufdf7\u0639\u0644\u064a\u0647",
  "\ufdf8\u0648\u0633\u0644\u0645 \ufdf9\u0635\u0644\u0649",
  "\ufdfc\u0631\u06cc\u0627\u0644 \ufe71\u0640\u064b \ufe77\u0640\u064e",
  "\ufe79\u0640\u064f \ufe7b\u0640\u0650 \ufe7d\u0640\u0651 \ufe7f\u0640\u0652",
  "\ufef5\u0644\u0622 \ufef6\u0644\u0622 \ufef7\u0644\u0623 \ufef8\u0644\u0623",
  "\ufef9\u0644\u0625 \ufefa\u0644\u0625 \ufefb\u0644\u0627 \ufefc\u0644\u0627 𝅗𝅥𝅗𝅥 𝅘𝅥𝅘𝅥",
  "𝅘𝅥𝅮𝅘𝅥𝅮 𝅘𝅥𝅯𝅘𝅥𝅯 𝅘𝅥𝅰𝅘𝅥𝅰 𝅘𝅥𝅱𝅘𝅥𝅱 𝅘𝅥𝅲𝅘𝅥𝅲 𝆹𝅥𝆹𝅥 𝆺𝅥𝆺𝅥 𝆹𝅥𝅮𝆹𝅥𝅮 𝆺𝅥𝅮𝆺𝅥𝅮 𝆹𝅥𝅯𝆹𝅥𝅯 𝆺𝅥𝅯𝆺𝅥𝅯 🄁0, 🄂1, 🄃2, 🄄3, 🄅4, 🄆5, 🄇6, 🄈7,",
  "🄉8, 🄊9, 🄐(a) 🄑(b) 🄒(c) 🄓(d) 🄔(e) 🄕(f) 🄖(g) 🄗(h) 🄘(i) 🄙(j) 🄚(k) 🄛(l) 🄜(m) 🄝(n) 🄞(o)",
  "🄟(p) 🄠(q) 🄡(r) 🄢(s) 🄣(t) 🄤(u) 🄥(v) 🄦(w) 🄧(x) 🄨(y) 🄩(z) 🄪〔s〕 🄭cd 🄮wz 🅊hv 🅋mv 🅌sd 🅍ss",
  "🅎ppv 🅏wc 🅪mc 🅫md 🅬mr 🆐dj 🈀ほか 🈁ココ 🉀〔本〕 🉁〔三〕 🉂〔二〕 🉃〔安〕 🉄〔点〕 🉅〔打〕 🉆〔盗〕 🉇〔勝〕 🉈〔敗〕"]

def ideographs : Array Nat := #[
  0x8C48, 0x66F4, 0x8ECA, 0x8CC8, 0x6ED1, 0x4E32, 0x53E5, 0x9F9C, 0x9F9C, 0x5951, 0x91D1, 0x5587,
  0x5948, 0x61F6, 0x7669, 0x7F85, 0x863F, 0x87BA, 0x88F8, 0x908F, 0x6A02, 0x6D1B, 0x70D9, 0x73DE,
  0x843D, 0x916A, 0x99F1, 0x4E82, 0x5375, 0x6B04, 0x721B, 0x862D, 0x9E1E, 0x5D50, 0x6FEB, 0x85CD,
  0x8964, 0x62C9, 0x81D8, 0x881F, 0x5ECA, 0x6717, 0x6D6A, 0x72FC, 0x90CE, 0x4F86, 0x51B7, 0x52DE,
  0x64C4, 0x6AD3, 0x7210, 0x76E7, 0x8001, 0x8606, 0x865C, 0x8DEF, 0x9732, 0x9B6F, 0x9DFA, 0x788C,
  0x797F, 0x7DA0, 0x83C9, 0x9304, 0x9E7F, 0x8AD6, 0x58DF, 0x5F04, 0x7C60, 0x807E, 0x7262, 0x78CA,
  0x8CC2, 0x96F7, 0x58D8, 0x5C62, 0x6A13, 0x6DDA, 0x6F0F, 0x7D2F, 0x7E37, 0x964B, 0x52D2, 0x808B,
  0x51DC, 0x51CC, 0x7A1C, 0x7DBE, 0x83F1, 0x9675, 0x8B80, 0x62CF, 0x6A02, 0x8AFE, 0x4E39, 0x5BE7,
  0x6012, 0x7387, 0x7570, 0x5317, 0x78FB, 0x4FBF, 0x5FA9, 0x4E0D, 0x6CCC, 0x6578, 0x7D22, 0x53C3,
  0x585E, 0x7701, 0x8449, 0x8AAA, 0x6BBA, 0x8FB0, 0x6C88, 0x62FE, 0x82E5, 0x63A0, 0x7565, 0x4EAE,
  0x5169, 0x51C9, 0x6881, 0x7CE7, 0x826F, 0x8AD2, 0x91CF, 0x52F5, 0x5442, 0x5973, 0x5EEC, 0x65C5,
  0x6FFE, 0x792A, 0x95AD, 0x9A6A, 0x9E97, 0x9ECE, 0x529B, 0x66C6, 0x6B77, 0x8F62, 0x5E74, 0x6190,
  0x6200, 0x649A, 0x6F23, 0x7149, 0x7489, 0x79CA, 0x7DF4, 0x806F, 0x8F26, 0x84EE, 0x9023, 0x934A,
  0x5217, 0x52A3, 0x54BD, 0x70C8, 0x88C2, 0x8AAA, 0x5EC9, 0x5FF5, 0x637B, 0x6BAE, 0x7C3E, 0x7375,
  0x4EE4, 0x56F9, 0x5BE7, 0x5DBA, 0x601C, 0x73B2, 0x7469, 0x7F9A, 0x8046, 0x9234, 0x96F6, 0x9748,
  0x9818, 0x4F8B, 0x79AE, 0x91B4, 0x96B8, 0x60E1, 0x4E86, 0x50DA, 0x5BEE, 0x5C3F, 0x6599, 0x6A02,
  0x71CE, 0x7642, 0x84FC, 0x907C, 0x9F8D, 0x6688, 0x962E, 0x5289, 0x677B, 0x67F3, 0x6D41, 0x6E9C,
  0x7409, 0x7559, 0x786B, 0x7D10, 0x985E, 0x516D, 0x622E, 0x9678, 0x502B, 0x5D19, 0x6DEA, 0x8F2A,
  0x5F8B, 0x6144, 0x6817, 0x7387, 0x9686, 0x5229, 0x540F, 0x5C65, 0x6613, 0x674E, 0x68A8, 0x6CE5,
  0x7406, 0x75E2, 0x7F79, 0x88CF, 0x88E1, 0x91CC, 0x96E2, 0x533F, 0x6EBA, 0x541D, 0x71D0, 0x7498,
  0x85FA, 0x96A3, 0x9C57, 0x9E9F, 0x6797, 0x6DCB, 0x81E8, 0x7ACB, 0x7B20, 0x7C92, 0x72C0, 0x7099,
  0x8B58, 0x4EC0, 0x8336, 0x523A, 0x5207, 0x5EA6, 0x62D3, 0x7CD6, 0x5B85, 0x6D1E, 0x66B4, 0x8F3B,
  0x884C, 0x964D, 0x898B, 0x5ED3, 0x5140, 0x55C0, 0x0, 0x0, 0x585A, 0x0, 0x6674, 0x0, 0x0, 0x51DE,
  0x732A, 0x76CA, 0x793C, 0x795E, 0x7965, 0x798F, 0x9756, 0x7CBE, 0x7FBD, 0x0, 0x8612, 0x0,
  0x8AF8, 0x0, 0x0, 0x9038, 0x90FD, 0x0, 0x0, 0x0, 0x98EF, 0x98FC, 0x9928, 0x9DB4, 0x90DE, 0x96B7,
  0x4FAE, 0x50E7, 0x514D, 0x52C9, 0x52E4, 0x5351, 0x559D, 0x5606, 0x5668, 0x5840, 0x58A8, 0x5C64,
  0x5C6E, 0x6094, 0x6168, 0x618E, 0x61F2, 0x654F, 0x65E2, 0x6691, 0x6885, 0x6D77, 0x6E1A, 0x6F22,
  0x716E, 0x722B, 0x7422, 0x7891, 0x793E, 0x7949, 0x7948, 0x7950, 0x7956, 0x795D, 0x798D, 0x798E,
  0x7A40, 0x7A81, 0x7BC0, 0x7DF4, 0x7E09, 0x7E41, 0x7F72, 0x8005, 0x81ED, 0x8279, 0x8279, 0x8457,
  0x8910, 0x8996, 0x8B01, 0x8B39, 0x8CD3, 0x8D08, 0x8FB6, 0x9038, 0x96E3, 0x97FF, 0x983B, 0x6075,
  0x242EE, 0x8218, 0x0, 0x0, 0x4E26, 0x51B5, 0x5168, 0x4F80, 0x5145, 0x5180, 0x52C7, 0x52FA,
  0x559D, 0x5555, 0x5599, 0x55E2, 0x585A, 0x58B3, 0x5944, 0x5954, 0x5A62, 0x5B28, 0x5ED2, 0x5ED9,
  0x5F69, 0x5FAD, 0x60D8, 0x614E, 0x6108, 0x618E, 0x6160, 0x61F2, 0x6234, 0x63C4, 0x641C, 0x6452,
  0x6556, 0x6674, 0x6717, 0x671B, 0x6756, 0x6B79, 0x6BBA, 0x6D41, 0x6EDB, 0x6ECB, 0x6F22, 0x701E,
  0x716E, 0x77A7, 0x7235, 0x72AF, 0x732A, 0x7471, 0x7506, 0x753B, 0x761D, 0x761F, 0x76CA, 0x76DB,
  0x76F4, 0x774A, 0x7740, 0x78CC, 0x7AB1, 0x7BC0, 0x7C7B, 0x7D5B, 0x7DF4, 0x7F3E, 0x8005, 0x8352,
  0x83EF, 0x8779, 0x8941, 0x8986, 0x8996, 0x8ABF, 0x8AF8, 0x8ACB, 0x8B01, 0x8AFE, 0x8AED, 0x8B39,
  0x8B8A, 0x8D08, 0x8F38, 0x9072, 0x9199, 0x9276, 0x967C, 0x96E3, 0x9756, 0x97DB, 0x97FF, 0x980B,
  0x983B, 0x9B12, 0x9F9C, 0x2284A, 0x22844, 0x233D5, 0x3B9D, 0x4018, 0x4039, 0x25249, 0x25CD0,
  0x27ED3, 0x9F43, 0x9F8E]

def furtherIdeographs : Array Nat := #[
  0x4E3D, 0x4E38, 0x4E41, 0x20122, 0x4F60, 0x4FAE, 0x4FBB, 0x5002, 0x507A, 0x5099, 0x50E7, 0x50CF,
  0x349E, 0x2063A, 0x514D, 0x5154, 0x5164, 0x5177, 0x2051C, 0x34B9, 0x5167, 0x518D, 0x2054B,
  0x5197, 0x51A4, 0x4ECC, 0x51AC, 0x51B5, 0x291DF, 0x51F5, 0x5203, 0x34DF, 0x523B, 0x5246, 0x5272,
  0x5277, 0x3515, 0x52C7, 0x52C9, 0x52E4, 0x52FA, 0x5305, 0x5306, 0x5317, 0x5349, 0x5351, 0x535A,
  0x5373, 0x537D, 0x537F, 0x537F, 0x537F, 0x20A2C, 0x7070, 0x53CA, 0x53DF, 0x20B63, 0x53EB,
  0x53F1, 0x5406, 0x549E, 0x5438, 0x5448, 0x5468, 0x54A2, 0x54F6, 0x5510, 0x5553, 0x5563, 0x5584,
  0x5584, 0x5599, 0x55AB, 0x55B3, 0x55C2, 0x5716, 0x5606, 0x5717, 0x5651, 0x5674, 0x5207, 0x58EE,
  0x57CE, 0x57F4, 0x580D, 0x578B, 0x5832, 0x5831, 0x58AC, 0x214E4, 0x58F2, 0x58F7, 0x5906, 0x591A,
  0x5922, 0x5962, 0x216A8, 0x216EA, 0x59EC, 0x5A1B, 0x5A27, 0x59D8, 0x5A66, 0x36EE, 0x36FC,
  0x5B08, 0x5B3E, 0x5B3E, 0x219C8, 0x5BC3, 0x5BD8, 0x5BE7, 0x5BF3, 0x21B18, 0x5BFF, 0x5C06,
  0x5F53, 0x5C22, 0x3781, 0x5C60, 0x5C6E, 0x5CC0, 0x5C8D, 0x21DE4, 0x5D43, 0x21DE6, 0x5D6E,
  0x5D6B, 0x5D7C, 0x5DE1, 0x5DE2, 0x382F, 0x5DFD, 0x5E28, 0x5E3D, 0x5E69, 0x3862, 0x22183, 0x387C,
  0x5EB0, 0x5EB3, 0x5EB6, 0x5ECA, 0x2A392, 0x5EFE, 0x22331, 0x22331, 0x8201, 0x5F22, 0x5F22,
  0x38C7, 0x232B8, 0x261DA, 0x5F62, 0x5F6B, 0x38E3, 0x5F9A, 0x5FCD, 0x5FD7, 0x5FF9, 0x6081,
  0x393A, 0x391C, 0x6094, 0x226D4, 0x60C7, 0x6148, 0x614C, 0x614E, 0x614C, 0x617A, 0x618E, 0x61B2,
  0x61A4, 0x61AF, 0x61DE, 0x61F2, 0x61F6, 0x6210, 0x621B, 0x625D, 0x62B1, 0x62D4, 0x6350, 0x22B0C,
  0x633D, 0x62FC, 0x6368, 0x6383, 0x63E4, 0x22BF1, 0x6422, 0x63C5, 0x63A9, 0x3A2E, 0x6469, 0x647E,
  0x649D, 0x6477, 0x3A6C, 0x654F, 0x656C, 0x2300A, 0x65E3, 0x66F8, 0x6649, 0x3B19, 0x6691, 0x3B08,
  0x3AE4, 0x5192, 0x5195, 0x6700, 0x669C, 0x80AD, 0x43D9, 0x6717, 0x671B, 0x6721, 0x675E, 0x6753,
  0x233C3, 0x3B49, 0x67FA, 0x6785, 0x6852, 0x6885, 0x2346D, 0x688E, 0x681F, 0x6914, 0x3B9D,
  0x6942, 0x69A3, 0x69EA, 0x6AA8, 0x236A3, 0x6ADB, 0x3C18, 0x6B21, 0x238A7, 0x6B54, 0x3C4E,
  0x6B72, 0x6B9F, 0x6BBA, 0x6BBB, 0x23A8D, 0x21D0B, 0x23AFA, 0x6C4E, 0x23CBC, 0x6CBF, 0x6CCD,
  0x6C67, 0x6D16, 0x6D3E, 0x6D77, 0x6D41, 0x6D69, 0x6D78, 0x6D85, 0x23D1E, 0x6D34, 0x6E2F, 0x6E6E,
  0x3D33, 0x6ECB, 0x6EC7, 0x23ED1, 0x6DF9, 0x6F6E, 0x23F5E, 0x23F8E, 0x6FC6, 0x7039, 0x701E,
  0x701B, 0x3D96, 0x704A, 0x707D, 0x7077, 0x70AD, 0x20525, 0x7145, 0x24263, 0x719C, 0x243AB,
  0x7228, 0x7235, 0x7250, 0x24608, 0x7280, 0x7295, 0x24735, 0x24814, 0x737A, 0x738B, 0x3EAC,
  0x73A5, 0x3EB8, 0x3EB8, 0x7447, 0x745C, 0x7471, 0x7485, 0x74CA, 0x3F1B, 0x7524, 0x24C36, 0x753E,
  0x24C92, 0x7570, 0x2219F, 0x7610, 0x24FA1, 0x24FB8, 0x25044, 0x3FFC, 0x4008, 0x76F4, 0x250F3,
  0x250F2, 0x25119, 0x25133, 0x771E, 0x771F, 0x771F, 0x774A, 0x4039, 0x778B, 0x4046, 0x4096,
  0x2541D, 0x784E, 0x788C, 0x78CC, 0x40E3, 0x25626, 0x7956, 0x2569A, 0x256C5, 0x798F, 0x79EB,
  0x412F, 0x7A40, 0x7A4A, 0x7A4F, 0x2597C, 0x25AA7, 0x25AA7, 0x7AEE, 0x4202, 0x25BAB, 0x7BC6,
  0x7BC9, 0x4227, 0x25C80, 0x7CD2, 0x42A0, 0x7CE8, 0x7CE3, 0x7D00, 0x25F86, 0x7D63, 0x4301,
  0x7DC7, 0x7E02, 0x7E45, 0x4334, 0x26228, 0x26247, 0x4359, 0x262D9, 0x7F7A, 0x2633E, 0x7F95,
  0x7FFA, 0x8005, 0x264DA, 0x26523, 0x8060, 0x265A8, 0x8070, 0x2335F, 0x43D5, 0x80B2, 0x8103,
  0x440B, 0x813E, 0x5AB5, 0x267A7, 0x267B5, 0x23393, 0x2339C, 0x8201, 0x8204, 0x8F9E, 0x446B,
  0x8291, 0x828B, 0x829D, 0x52B3, 0x82B1, 0x82B3, 0x82BD, 0x82E6, 0x26B3C, 0x82E5, 0x831D, 0x8363,
  0x83AD, 0x8323, 0x83BD, 0x83E7, 0x8457, 0x8353, 0x83CA, 0x83CC, 0x83DC, 0x26C36, 0x26D6B,
  0x26CD5, 0x452B, 0x84F1, 0x84F3, 0x8516, 0x273CA, 0x8564, 0x26F2C, 0x455D, 0x4561, 0x26FB1,
  0x270D2, 0x456B, 0x8650, 0x865C, 0x8667, 0x8669, 0x86A9, 0x8688, 0x870E, 0x86E2, 0x8779, 0x8728,
  0x876B, 0x8786, 0x45D7, 0x87E1, 0x8801, 0x45F9, 0x8860, 0x8863, 0x27667, 0x88D7, 0x88DE, 0x4635,
  0x88FA, 0x34BB, 0x278AE, 0x27966, 0x46BE, 0x46C7, 0x8AA0, 0x8AED, 0x8B8A, 0x8C55, 0x27CA8,
  0x8CAB, 0x8CC1, 0x8D1B, 0x8D77, 0x27F2F, 0x20804, 0x8DCB, 0x8DBC, 0x8DF0, 0x208DE, 0x8ED4,
  0x8F38, 0x285D2, 0x285ED, 0x9094, 0x90F1, 0x9111, 0x2872E, 0x911B, 0x9238, 0x92D7, 0x92D8,
  0x927C, 0x93F9, 0x9415, 0x28BFA, 0x958B, 0x4995, 0x95B7, 0x28D77, 0x49E6, 0x96C3, 0x5DB2,
  0x9723, 0x29145, 0x2921A, 0x4A6E, 0x4A76, 0x97E0, 0x2940A, 0x4AB2, 0x29496, 0x980B, 0x980B,
  0x9829, 0x295B6, 0x98E2, 0x4B33, 0x9929, 0x99A7, 0x99C2, 0x99FE, 0x4BCE, 0x29B30, 0x9B12,
  0x9C40, 0x9CFD, 0x4CCE, 0x4CED, 0x9D67, 0x2A0CE, 0x4CF8, 0x2A105, 0x2A20E, 0x2A291, 0x9EBB,
  0x4D56, 0x9EF9, 0x9EFE, 0x9F05, 0x9F0F, 0x9F16, 0x9F3B, 0x2A600]

def replacements : List Char → List (Char × List Char)
  | letter :: meant :: rest => (letter, [meant]) :: replacements rest
  | _ => []

def spellings (line : String) : List (Char × List Char) :=
  (Text.splitOn (· == ' ') line.toList).filterMap fun entry =>
    match entry with
    | letter :: meant => some (letter, meant)
    | [] => none

def letters : List (Char × List Char) :=
  (replacedLetters.flatMap fun line => replacements line.toList) ++ spelledLetters.flatMap spellings

def ideographFrom? (first : Nat) (table : Array Nat) (c : Char) : Option (List Char) :=
  if first ≤ c.toNat then
    (table[c.toNat - first]?.filter (· != 0)).map fun meant => [.ofNat meant]
  else none

def meaning? (c : Char) : Option (List Char) :=
  if c.toNat < 0x80 then if c.isUpper then some [c.toLower] else none
  else
    ideographFrom? 0xF900 ideographs c <|> ideographFrom? 0x2F800 furtherIdeographs c
      <|> letters.lookup c

end BrokerVault.Url.Domain
