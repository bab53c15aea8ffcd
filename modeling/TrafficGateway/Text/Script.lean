import TrafficGateway.Text.Runs

/-!
# Scripts of characters

The script that a code point belongs to, by the four-letter code of the script.

## Main definitions

* `Script.ofCodePoint`: the code of the script of a code point.
* `Script.codeOf?`: the code of a script by its code or its name.
-/

namespace TrafficGateway.Script

/-- The code of the script of a code point that belongs to none. -/
def unknown : String := "Zzzz"

/-- The scripts of all code points. -/
def runText : String :=
  "Zyyy65Latn26Zyyy6Latn26Zyyy47LatnZyyy15LatnZyyy5Latn23ZyyyLatn31ZyyyLatn449Zyyy39Latn5" ++
  "Zyyy5Bopo2Zyyy20Zinh112Grek4ZyyyGrek3Zzzz2Grek4ZyyyGrekZzzz4GrekZyyyGrekZyyyGrek3ZzzzGrek" ++
  "ZzzzGrek20ZzzzGrek63Copt14Grek16Cyrl133Zinh2Cyrl169ZzzzArmn38Zzzz2Armn50Zzzz2Armn3Zzzz" ++
  "Hebr55Zzzz8Hebr27Zzzz4Hebr6Zzzz11Arab5ZyyyArab6ZyyyArab14ZyyyArab3ZyyyArab32ZyyyArab10" ++
  "Zinh11Arab26ZinhArab108ZyyyArab34Syrc14ZzzzSyrc60Zzzz2Syrc3Arab48Thaa50Zzzz14Nkoo59Zzzz2" ++
  "Nkoo3Samr46Zzzz2Samr15ZzzzMand28Zzzz2MandZzzzSyrc11Zzzz5Arab34Zzzz5Arab75ZyyyArab29Deva81" ++
  "Zinh4Deva15Zyyy2Deva26Beng4ZzzzBeng8Zzzz2Beng2Zzzz2Beng22ZzzzBeng7ZzzzBengZzzz3Beng4Zzzz2" ++
  "Beng9Zzzz2Beng2Zzzz2Beng4Zzzz8BengZzzz4Beng2ZzzzBeng5Zzzz2Beng25Zzzz2Guru3ZzzzGuru6Zzzz4" ++
  "Guru2Zzzz2Guru22ZzzzGuru7ZzzzGuru2ZzzzGuru2ZzzzGuru2Zzzz2GuruZzzzGuru5Zzzz4Guru2Zzzz2Guru3" ++
  "Zzzz3GuruZzzz7Guru4ZzzzGuruZzzz7Guru17Zzzz10Gujr3ZzzzGujr9ZzzzGujr3ZzzzGujr22ZzzzGujr7Zzzz" ++
  "Gujr2ZzzzGujr5Zzzz2Gujr10ZzzzGujr3ZzzzGujr3Zzzz2GujrZzzz15Gujr4Zzzz2Gujr12Zzzz7Gujr7Zzzz" ++
  "Orya3ZzzzOrya8Zzzz2Orya2Zzzz2Orya22ZzzzOrya7ZzzzOrya2ZzzzOrya5Zzzz2Orya9Zzzz2Orya2Zzzz2" ++
  "Orya3Zzzz7Orya3Zzzz4Orya2ZzzzOrya5Zzzz2Orya18Zzzz10Taml2ZzzzTaml6Zzzz3Taml3ZzzzTaml4Zzzz3" ++
  "Taml2ZzzzTamlZzzzTaml2Zzzz3Taml2Zzzz3Taml3Zzzz3Taml12Zzzz4Taml5Zzzz3Taml3ZzzzTaml4Zzzz2" ++
  "TamlZzzz6TamlZzzz14Taml21Zzzz5Telu13ZzzzTelu3ZzzzTelu23ZzzzTelu16Zzzz2Telu9ZzzzTelu3Zzzz" ++
  "Telu4Zzzz7Telu2ZzzzTelu3ZzzzTelu2Zzzz2Telu4Zzzz2Telu10Zzzz7Telu9Knda13ZzzzKnda3ZzzzKnda23" ++
  "ZzzzKnda10ZzzzKnda5Zzzz2Knda9ZzzzKnda3ZzzzKnda4Zzzz7Knda2Zzzz5Knda3ZzzzKnda4Zzzz2Knda10" ++
  "ZzzzKnda3Zzzz12Mlym13ZzzzMlym3ZzzzMlym51ZzzzMlym3ZzzzMlym6Zzzz4Mlym16Zzzz2Mlym26ZzzzSinh3" ++
  "ZzzzSinh18Zzzz3Sinh24ZzzzSinh9ZzzzSinhZzzz2Sinh7Zzzz3SinhZzzz4Sinh6ZzzzSinhZzzzSinh8Zzzz6" ++
  "Sinh10Zzzz2Sinh3Zzzz12Thai58Zzzz4ZyyyThai28Zzzz37Laoo2ZzzzLaooZzzzLaoo5ZzzzLaoo24ZzzzLaoo" ++
  "ZzzzLaoo23Zzzz2Laoo5ZzzzLaooZzzzLaoo7ZzzzLaoo10Zzzz2Laoo4Zzzz32Tibt72ZzzzTibt36Zzzz4Tibt39" ++
  "ZzzzTibt36ZzzzTibt15ZzzzTibt7Zyyy4Tibt2Zzzz37Mymr160Geor38ZzzzGeorZzzz5GeorZzzz2Geor43Zyyy" ++
  "Geor4Hang256Ethi73ZzzzEthi4Zzzz2Ethi7ZzzzEthiZzzzEthi4Zzzz2Ethi41ZzzzEthi4Zzzz2Ethi33Zzzz" ++
  "Ethi4Zzzz2Ethi7ZzzzEthiZzzzEthi4Zzzz2Ethi15ZzzzEthi57ZzzzEthi4Zzzz2Ethi67Zzzz2Ethi32Zzzz3" ++
  "Ethi26Zzzz6Cher86Zzzz2Cher6Zzzz2Cans640Ogam29Zzzz3Runr75Zyyy3Runr11Zzzz7Tglg22Zzzz9Tglg" ++
  "Hano21Zyyy2Zzzz9Buhd20Zzzz12Tagb13ZzzzTagb3ZzzzTagb2Zzzz12Khmr94Zzzz2Khmr10Zzzz6Khmr10" ++
  "Zzzz6Mong2Zyyy2MongZyyyMong20Zzzz6Mong89Zzzz7Mong43Zzzz5Cans70Zzzz10Limb31ZzzzLimb12Zzzz4" ++
  "Limb12Zzzz4LimbZzzz3Limb12Tale30Zzzz2Tale5Zzzz11Talu44Zzzz4Talu26Zzzz6Talu11Zzzz3Talu2" ++
  "Khmr32Bugi28Zzzz2Bugi2Lana63ZzzzLana29Zzzz2Lana11Zzzz6Lana10Zzzz6Lana14Zzzz2Zinh46Zzzz2" ++
  "Zinh12Zzzz20Bali77ZzzzBali50Sund64Batk52Zzzz8Batk4Lepc56Zzzz3Lepc15Zzzz3Lepc3Olck48Cyrl11" ++
  "Zzzz5Geor43Zzzz2Geor3Sund8Zzzz8Zinh3ZyyyZinh13ZyyyZinh7Zyyy4ZinhZyyy6ZinhZyyy3Zinh2Zyyy" ++
  "Zzzz5Latn38Grek5CyrlLatn49Grek5Latn4Grek5Latn13CyrlLatn70GrekZinh64Latn256Grek22Zzzz2Grek6" ++
  "Zzzz2Grek38Zzzz2Grek6Zzzz2Grek8ZzzzGrekZzzzGrekZzzzGrekZzzzGrek31Zzzz2Grek53ZzzzGrek15Zzzz" ++
  "Grek14Zzzz2Grek6ZzzzGrek19Zzzz2Grek3ZzzzGrek9ZzzzZyyy12Zinh2Zyyy87ZzzzZyyy11LatnZzzz2" ++
  "Zyyy11LatnZyyy15ZzzzLatn13Zzzz3Zyyy34Zzzz14Zinh33Zzzz15Zyyy38GrekZyyy3Latn2Zyyy6LatnZyyy27" ++
  "LatnZyyy17Latn41Zyyy3Zzzz4Zyyy666Zzzz22Zyyy11Zzzz21Zyyy928Brai256Zyyy628Zzzz2Zyyy138Glag96" ++
  "Latn32Copt116Zzzz5Copt7Geor38ZzzzGeorZzzz5GeorZzzz2Tfng56Zzzz7Tfng2Zzzz14TfngEthi23Zzzz9" ++
  "Ethi7ZzzzEthi7ZzzzEthi7ZzzzEthi7ZzzzEthi7ZzzzEthi7ZzzzEthi7ZzzzEthi7ZzzzCyrl32Zyyy94Zzzz34" ++
  "Hani26ZzzzHani89Zzzz12Hani214Zzzz26Zyyy21HaniZyyyHaniZyyy25Hani9Zinh4Hang2Zyyy8Hani4Zyyy4" ++
  "ZzzzHira86Zzzz2Zinh2Zyyy2Hira3ZyyyKana90Zyyy2Kana3Zzzz5Bopo43ZzzzHang94ZzzzZyyy16Bopo32" ++
  "Zyyy38Zzzz9ZyyyKana16Hang31ZzzzZyyy64Hang31Zyyy81Kana47ZyyyKana88Zyyy168Hani6592Zyyy64" ++
  "Hani20992Yiii1165Zzzz3Yiii55Zzzz9Lisu48Vaii300Zzzz20Cyrl96Bamu88Zzzz8Zyyy34Latn102Zyyy3" ++
  "Latn82Zzzz20Latn15Sylo45Zzzz3Zyyy10Zzzz6Phag56Zzzz8Saur70Zzzz8Saur12Zzzz6Deva32Kali46Zyyy" ++
  "KaliRjng36Zzzz11RjngHang29Zzzz3Java78ZzzzZyyyJava10Zzzz4Java2Mymr31ZzzzCham55Zzzz9Cham14" ++
  "Zzzz2Cham10Zzzz2Cham4Mymr32Tavt67Zzzz24Tavt5Mtei23Zzzz10Ethi6Zzzz2Ethi6Zzzz2Ethi6Zzzz9" ++
  "Ethi7ZzzzEthi7ZzzzLatn43ZyyyLatn9GrekLatn4Zyyy2Zzzz4Cher80Mtei46Zzzz2Mtei10Zzzz6Hang11172" ++
  "Zzzz12Hang23Zzzz4Hang49Zzzz4Zzzz2048Zzzz6400Hani366Zzzz2Hani106Zzzz38Latn7Zzzz12Armn5Zzzz5" ++
  "Hebr26ZzzzHebr5ZzzzHebrZzzzHebr2ZzzzHebr2ZzzzHebr10Arab494Zyyy2Arab144Zzzz32Arab16Zinh16" ++
  "Zyyy10Zzzz6Zinh14Cyrl2Zyyy35ZzzzZyyy19ZzzzZyyy4Zzzz4Arab5ZzzzArab135Zzzz2ZyyyZzzzZyyy32" ++
  "Latn26Zyyy6Latn26Zyyy11Kana10ZyyyKana45Zyyy2Hang31Zzzz3Hang6Zzzz2Hang6Zzzz2Hang6Zzzz2Hang3" ++
  "Zzzz3Zyyy7ZzzzZyyy7Zzzz10Zyyy5Zzzz2Linb12ZzzzLinb26ZzzzLinb19ZzzzLinb2ZzzzLinb15Zzzz2" ++
  "Linb14Zzzz34Linb123Zzzz5Zyyy3Zzzz4Zyyy45Zzzz3Zyyy9Grek79ZzzzZyyy13Zzzz3GrekZzzz47Zyyy45" ++
  "ZinhZzzz130Lyci29Zzzz3Cari49Zzzz15ZinhZyyy27Zzzz4Ital36Zzzz9Ital3Goth27Zzzz5Perm43Zzzz5" ++
  "Ugar30ZzzzUgarXpeo36Zzzz4Xpeo14Zzzz42Dsrt80Shaw48Osma30Zzzz2Osma10Zzzz6Osge36Zzzz4Osge36" ++
  "Zzzz4Elba40Zzzz8Aghb52Zzzz11AghbVith11ZzzzVith15ZzzzVith7ZzzzVith2ZzzzVith11ZzzzVith15Zzzz" ++
  "Vith7ZzzzVith2Zzzz3Todr52Zzzz12Lina311Zzzz9Lina22Zzzz10Lina8Zzzz24Latn6ZzzzLatn42ZzzzLatn9" ++
  "Zzzz69Cprt6Zzzz2CprtZzzzCprt44ZzzzCprt2Zzzz3CprtZzzz2CprtArmi22ZzzzArmi9Palm32Nbat31Zzzz8" ++
  "Nbat9Zzzz48Hatr19ZzzzHatr2Zzzz5Hatr5Phnx28Zzzz3PhnxLydi26Zzzz5LydiSidt26Zzzz38Mero32Merc24" ++
  "Zzzz4Merc20Zzzz2Merc46Khar4ZzzzKhar2Zzzz5Khar8ZzzzKhar3ZzzzKhar29Zzzz2Khar3Zzzz4Khar10" ++
  "Zzzz7Khar9Zzzz7Sarb32Narb32Zzzz32Mani39Zzzz4Mani12Zzzz9Avst54Zzzz3Avst7Prti22Zzzz2Prti8" ++
  "Phli19Zzzz5Phli8Phlp18Zzzz7Phlp4Zzzz12Phlp7Zzzz80Orkh73Zzzz55Hung51Zzzz13Hung51Zzzz7Hung6" ++
  "Rohg40Zzzz8Rohg10Zzzz6Gara38Zzzz3Gara29Zzzz8Gara2Zzzz208Arab31ZzzzYezi42ZzzzYezi3Zzzz2" ++
  "Yezi2Zzzz16Arab6Zzzz8Arab9Zzzz33Arab6Sogo40Zzzz8Sogd42Zzzz22Ougr26Zzzz38Chrs28Zzzz20Elym23" ++
  "Zzzz9Brah78Zzzz4Brah36Zzzz9BrahKthi67Zzzz10KthiZzzz2Sora25Zzzz7Sora10Zzzz6Cakm53ZzzzCakm18" ++
  "Zzzz8Mahj39Zzzz9Shrd96ZzzzSinh20Zzzz11Khoj18ZzzzKhoj47Zzzz62Mult7ZzzzMultZzzzMult4Zzzz" ++
  "Mult15ZzzzMult11Zzzz6Sind59Zzzz5Sind10Zzzz6Gran4ZzzzGran8Zzzz2Gran2Zzzz2Gran22ZzzzGran7" ++
  "ZzzzGran2ZzzzGran5ZzzzZinhGran9Zzzz2Gran2Zzzz2Gran3Zzzz2GranZzzz6GranZzzz5Gran7Zzzz2Gran7" ++
  "Zzzz3Gran5Zzzz11Tutg10ZzzzTutgZzzz2TutgZzzzTutg38ZzzzTutg10ZzzzTutgZzzz2TutgZzzzTutg4Zzzz" ++
  "Tutg10ZzzzTutg2Zzzz8Tutg2Zzzz29Newa92ZzzzNewa5Zzzz30Tirh72Zzzz8Tirh10Zzzz166Sidd54Zzzz2" ++
  "Sidd38Zzzz34Modi69Zzzz11Modi10Zzzz6Mong13Zzzz19Takr58Zzzz6Takr10Zzzz6Mymr20Zzzz28Ahom27" ++
  "Zzzz2Ahom15Zzzz4Ahom23Zzzz185Dogr60Zzzz100Wara83Zzzz12WaraDiak7Zzzz2DiakZzzz2Diak8Zzzz" ++
  "Diak2ZzzzDiak30ZzzzDiak2Zzzz2Diak12Zzzz9Diak10Zzzz70Nand8Zzzz2Nand46Zzzz2Nand11Zzzz27" ++
  "Zanb72Zzzz8Soyo83Zzzz13Cans16Pauc57Zzzz7Deva10Zzzz86Shrd8Zzzz88Sunu34Zzzz14Sunu10Zzzz6" ++
  "Bhks9ZzzzBhks45ZzzzBhks14Zzzz10Bhks29Zzzz3Marc32Zzzz2Marc22ZzzzMarc14Zzzz73Gonm7ZzzzGonm2" ++
  "ZzzzGonm44Zzzz3GonmZzzzGonm2ZzzzGonm9Zzzz8Gonm10Zzzz6Gong6ZzzzGong2ZzzzGong37ZzzzGong2Zzzz" ++
  "Gong6Zzzz7Gong10Zzzz6Tols44Zzzz4Tols10Zzzz246Maka25Zzzz7Kawi17ZzzzKawi41Zzzz3Kawi29Zzzz85" ++
  "LisuZzzz15Taml50Zzzz13TamlXsux922Zzzz102Xsux111ZzzzXsux5Zzzz11Xsux196Zzzz2636Cpmn99Zzzz13" ++
  "Egyp1110Zzzz10Egyp3995Zzzz5Hluw583Zzzz6841Gukh58Zzzz1734Bamu569Zzzz7Mroo31ZzzzMroo10Zzzz4" ++
  "Mroo2Tnsa79ZzzzTnsa10Zzzz6Bass30Zzzz2Bass6Zzzz10Hmng70Zzzz10Hmng10ZzzzHmng7ZzzzHmng21Zzzz5" ++
  "Hmng19Zzzz432Krai58Zzzz198Medf91Zzzz5Berf25Zzzz2Berf25Zzzz44Plrd75Zzzz4Plrd57Zzzz7Plrd17" ++
  "Zzzz64TangNshuHani2KitsZzzz11Hani7Zzzz9Tang6912Kits470Zzzz41KitsTang31Zzzz97Tang115" ++
  "Zzzz8701Kana4ZzzzKana7ZzzzKana2ZzzzKanaHira287Kana3Zzzz15HiraZzzz29Hira3Zzzz2KanaZzzz14" ++
  "Kana4Zzzz8Nshu396Zzzz2308Dupl107Zzzz5Dupl13Zzzz3Dupl9Zzzz7Dupl10Zzzz2Dupl4Zyyy4Zzzz3932" ++
  "Zyyy253Zzzz3Zyyy436Zzzz6Zyyy23Zzzz15Zyyy17Zzzz15Zinh46Zzzz2Zinh23Zzzz9Zyyy116Zzzz60Zyyy246" ++
  "Zzzz10Zyyy39Zzzz2Zyyy62Zinh3Zyyy17Zinh8Zyyy2Zinh7Zyyy30Zinh4Zyyy61Zzzz21Grek70Zzzz122" ++
  "Zyyy20Zzzz12Zyyy20Zzzz12Zyyy87Zzzz9Zyyy25Zzzz135Zyyy85ZzzzZyyy71ZzzzZyyy2Zzzz2ZyyyZzzz2" ++
  "Zyyy2Zzzz2Zyyy4ZzzzZyyy12ZzzzZyyyZzzzZyyy7ZzzzZyyy65ZzzzZyyy4Zzzz2Zyyy8ZzzzZyyy7ZzzzZyyy28" ++
  "ZzzzZyyy4ZzzzZyyy5ZzzzZyyyZzzz3Zyyy7ZzzzZyyy340Zzzz2Zyyy292Zzzz2Zyyy50Sgnw652Zzzz15Sgnw5" ++
  "ZzzzSgnw15Zzzz1104Latn31Zzzz6Latn6Zzzz213Glag7ZzzzGlag17Zzzz2Glag7ZzzzGlag2ZzzzGlag5Zzzz5" ++
  "Cyrl62Zzzz33CyrlZzzz112Hmnp45Zzzz3Hmnp14Zzzz2Hmnp10Zzzz4Hmnp2Zzzz320Toto31Zzzz17Wcho58" ++
  "Zzzz5WchoZzzz464Nagm42Zzzz214Onao43Zzzz4OnaoZzzz192Tayo31ZzzzTayo22Zzzz8Tayo2Zzzz224Ethi7" ++
  "ZzzzEthi4ZzzzEthi2ZzzzEthi15ZzzzMend197Zzzz2Mend16Zzzz41Adlm76Zzzz4Adlm10Zzzz4Adlm2Zzzz785" ++
  "Zyyy68Zzzz76Zyyy61Zzzz194Arab4ZzzzArab27ZzzzArab2ZzzzArabZzzz2ArabZzzzArab10ZzzzArab4Zzzz" ++
  "ArabZzzzArabZzzz6ArabZzzz4ArabZzzzArabZzzzArabZzzzArab3ZzzzArab2ZzzzArabZzzz2ArabZzzzArab" ++
  "ZzzzArabZzzzArabZzzzArabZzzzArab2ZzzzArabZzzz2Arab4ZzzzArab7ZzzzArab4ZzzzArab4ZzzzArabZzzz" ++
  "Arab10ZzzzArab17Zzzz5Arab3ZzzzArab5ZzzzArab17Zzzz52Arab2Zzzz270Zyyy44Zzzz4Zyyy100Zzzz12" ++
  "Zyyy15Zzzz2Zyyy15ZzzzZyyy15ZzzzZyyy37Zzzz10Zyyy174Zzzz56Zyyy26HiraZyyy2Zzzz13Zyyy44Zzzz4" ++
  "Zyyy9Zzzz7Zyyy2Zzzz14Zyyy6Zzzz154Zyyy985Zzzz3Zyyy17Zzzz3Zyyy13Zzzz3Zyyy218Zzzz6Zyyy12Zzzz4" ++
  "ZyyyZzzz15Zyyy12Zzzz4Zyyy56Zzzz8Zyyy10Zzzz6Zyyy40Zzzz8Zyyy30Zzzz2Zyyy12Zzzz4Zyyy2Zzzz14" ++
  "Zyyy9Zzzz39Zyyy344Zzzz8Zyyy14Zzzz2Zyyy13Zzzz3Zyyy11Zzzz3Zyyy57ZzzzZyyyZzzz4Zyyy16Zzzz2" ++
  "Zyyy12Zzzz4Zyyy10Zzzz7Zyyy147ZzzzZyyy103Zzzz1029Hani42720Zzzz32Hani4382Zzzz2Hani5774Zzzz2" ++
  "Hani7473Zzzz15Hani622Zzzz2466Hani542Zzzz1506Hani4939Zzzz5Hani8490Zzzz707463ZyyyZzzz30" ++
  "Zyyy96Zzzz128Zinh240Zzzz196112"

/-- The runs of code points of the same script. -/
def runs : Array (Run String) :=
  Run.table id runText

/-- The code of the script of a code point. -/
def ofCodePoint (code : Nat) : String :=
  if code < 0x110000 then (Run.lookup runs code).getD unknown else unknown

/-- The names of the scripts, in lower case and without separators, and their codes. -/
def names : List (String × String) :=
  [("adlam", "Adlm"), ("caucasianalbanian", "Aghb"), ("ahom", "Ahom"),
    ("anatolianhieroglyphs", "Hluw"), ("arabic", "Arab"), ("armenian", "Armn"),
    ("avestan", "Avst"), ("balinese", "Bali"), ("bamum", "Bamu"), ("bassavah", "Bass"),
    ("batak", "Batk"), ("bengali", "Beng"), ("beriaerfe", "Berf"), ("bhaiksuki", "Bhks"),
    ("bopomofo", "Bopo"), ("brahmi", "Brah"), ("braille", "Brai"), ("buginese", "Bugi"),
    ("buhid", "Buhd"), ("canadianaboriginal", "Cans"), ("carian", "Cari"), ("chakma", "Cakm"),
    ("cham", "Cham"), ("cherokee", "Cher"), ("chorasmian", "Chrs"), ("common", "Zyyy"),
    ("coptic", "Copt"), ("cuneiform", "Xsux"), ("cypriot", "Cprt"), ("cyprominoan", "Cpmn"),
    ("cyrillic", "Cyrl"), ("deseret", "Dsrt"), ("devanagari", "Deva"), ("divesakuru", "Diak"),
    ("dogra", "Dogr"), ("duployan", "Dupl"), ("egyptianhieroglyphs", "Egyp"), ("elbasan", "Elba"),
    ("elymaic", "Elym"), ("ethiopic", "Ethi"), ("garay", "Gara"), ("georgian", "Geor"),
    ("glagolitic", "Glag"), ("gothic", "Goth"), ("grantha", "Gran"), ("greek", "Grek"),
    ("gujarati", "Gujr"), ("gunjalagondi", "Gong"), ("gurmukhi", "Guru"), ("gurungkhema", "Gukh"),
    ("han", "Hani"), ("hangul", "Hang"), ("hanifirohingya", "Rohg"), ("hanunoo", "Hano"),
    ("hatran", "Hatr"), ("hebrew", "Hebr"), ("hiragana", "Hira"), ("imperialaramaic", "Armi"),
    ("inherited", "Zinh"), ("inscriptionalpahlavi", "Phli"), ("inscriptionalparthian", "Prti"),
    ("javanese", "Java"), ("kaithi", "Kthi"), ("kannada", "Knda"), ("katakana", "Kana"),
    ("kawi", "Kawi"), ("kayahli", "Kali"), ("kharoshthi", "Khar"), ("khitansmallscript", "Kits"),
    ("khmer", "Khmr"), ("khojki", "Khoj"), ("khudawadi", "Sind"), ("kiratrai", "Krai"),
    ("lao", "Laoo"), ("latin", "Latn"), ("lepcha", "Lepc"), ("limbu", "Limb"),
    ("lineara", "Lina"), ("linearb", "Linb"), ("lisu", "Lisu"), ("lycian", "Lyci"),
    ("lydian", "Lydi"), ("mahajani", "Mahj"), ("makasar", "Maka"), ("malayalam", "Mlym"),
    ("mandaic", "Mand"), ("manichaean", "Mani"), ("marchen", "Marc"), ("masaramgondi", "Gonm"),
    ("medefaidrin", "Medf"), ("meeteimayek", "Mtei"), ("mendekikakui", "Mend"),
    ("meroiticcursive", "Merc"), ("meroitichieroglyphs", "Mero"), ("miao", "Plrd"),
    ("modi", "Modi"), ("mongolian", "Mong"), ("mro", "Mroo"), ("multani", "Mult"),
    ("myanmar", "Mymr"), ("nabataean", "Nbat"), ("nagmundari", "Nagm"), ("nandinagari", "Nand"),
    ("newtailue", "Talu"), ("newa", "Newa"), ("nko", "Nkoo"), ("nushu", "Nshu"),
    ("nyiakengpuachuehmong", "Hmnp"), ("ogham", "Ogam"), ("olchiki", "Olck"), ("olonal", "Onao"),
    ("oldhungarian", "Hung"), ("olditalic", "Ital"), ("oldnortharabian", "Narb"),
    ("oldpermic", "Perm"), ("oldpersian", "Xpeo"), ("oldsogdian", "Sogo"),
    ("oldsoutharabian", "Sarb"), ("oldturkic", "Orkh"), ("olduyghur", "Ougr"), ("oriya", "Orya"),
    ("osage", "Osge"), ("osmanya", "Osma"), ("pahawhhmong", "Hmng"), ("palmyrene", "Palm"),
    ("paucinhau", "Pauc"), ("phagspa", "Phag"), ("phoenician", "Phnx"),
    ("psalterpahlavi", "Phlp"), ("rejang", "Rjng"), ("runic", "Runr"), ("samaritan", "Samr"),
    ("saurashtra", "Saur"), ("sharada", "Shrd"), ("shavian", "Shaw"), ("siddham", "Sidd"),
    ("sidetic", "Sidt"), ("signwriting", "Sgnw"), ("sinhala", "Sinh"), ("sogdian", "Sogd"),
    ("sorasompeng", "Sora"), ("soyombo", "Soyo"), ("sundanese", "Sund"), ("sunuwar", "Sunu"),
    ("sylotinagri", "Sylo"), ("syriac", "Syrc"), ("tagalog", "Tglg"), ("tagbanwa", "Tagb"),
    ("taile", "Tale"), ("taitham", "Lana"), ("taiviet", "Tavt"), ("taiyo", "Tayo"),
    ("takri", "Takr"), ("tamil", "Taml"), ("tangsa", "Tnsa"), ("tangut", "Tang"),
    ("telugu", "Telu"), ("thaana", "Thaa"), ("thai", "Thai"), ("tibetan", "Tibt"),
    ("tifinagh", "Tfng"), ("tirhuta", "Tirh"), ("todhri", "Todr"), ("tolongsiki", "Tols"),
    ("toto", "Toto"), ("tulutigalari", "Tutg"), ("ugaritic", "Ugar"), ("unknown", "Zzzz"),
    ("vai", "Vaii"), ("vithkuqi", "Vith"), ("wancho", "Wcho"), ("warangciti", "Wara"),
    ("yezidi", "Yezi"), ("yi", "Yiii"), ("zanabazarsquare", "Zanb"), ("unknown", "Zzzz"),
    ("qaai", "Zinh"), ("qaac", "Copt")]

/-- The code of a script by its code or its name, in lower case and without separators. -/
def codeOf? (name : String) : Option String :=
  match names.find? fun n => n.1 == name with
  | some n => some n.2
  | none => (names.find? fun n => n.2.map Char.toLower == name).map (·.2)

end TrafficGateway.Script
