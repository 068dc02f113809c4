import Billing.Text.Mark

/-!
# Composed texts

A letter with a mark can often be written in one character or in two. A text is composed
(`isComposed`) if it is written in the fewest characters and its marks stand in the order of their
classes.

* `compose_nil`: a text of marks only has nothing to join them to.
-/

namespace Billing.Text

/-! ## Pairs of characters -/

/-- What marks make of the characters before them: each character is followed by the one that it
makes together with the mark. -/
def compositions : List (Nat × String) :=
  [(0x300,
      "AÀEÈIÌNǸOÒUÙWẀYỲaàeèiìnǹoòuùwẁyỳ¨῭ÂẦÊỀÔỒÜǛâầêềôồüǜĂẰăằĒḔēḕŌṐ" ++
      "ōṑƠỜơờƯỪưừΑᾺΕῈΗῊΙῚΟῸΥῪΩῺαὰεὲηὴιὶοὸυὺωὼϊῒϋῢЕЀИЍеѐиѝἀἂἁἃἈἊἉἋἐἒ" ++
      "ἑἓἘἚἙἛἠἢἡἣἨἪἩἫἰἲἱἳἸἺἹἻὀὂὁὃὈὊὉὋὐὒὑὓὙὛὠὢὡὣὨὪὩὫ᾿῍῾῝"),
    (0x301,
      "AÁCĆEÉGǴIÍKḰLĹMḾNŃOÓPṔRŔSŚUÚWẂYÝZŹaácćeégǵiíkḱlĺmḿnńoópṕrŕsś" ++
      "uúwẃyýzź¨΅ÂẤÅǺÆǼÇḈÊẾÏḮÔỐÕṌØǾÜǗâấåǻæǽçḉêếïḯôốõṍøǿüǘĂẮăắĒḖēḗŌṒ" ++
      "ōṓŨṸũṹƠỚơớƯỨưứΑΆΕΈΗΉΙΊΟΌΥΎΩΏαάεέηήιίοόυύωώϊΐϋΰϒϓГЃКЌгѓкќἀἄἁἅ" ++
      "ἈἌἉἍἐἔἑἕἘἜἙἝἠἤἡἥἨἬἩἭἰἴἱἵἸἼἹἽὀὄὁὅὈὌὉὍὐὔὑὕὙὝὠὤὡὥὨὬὩὭ᾿῎῾῞"),
    (0x302,
      "AÂCĈEÊGĜHĤIÎJĴOÔSŜUÛWŴYŶZẐaâcĉeêgĝhĥiîjĵoôsŝuûwŵyŷzẑẠẬạậẸỆẹệ" ++
      "ỌỘọộ"),
    (0x303, "AÃEẼIĨNÑOÕUŨVṼYỸaãeẽiĩnñoõuũvṽyỹÂẪÊỄÔỖâẫêễôỗĂẴăẵƠỠơỡƯỮưữ"),
    (0x304,
      "AĀEĒGḠIĪOŌUŪYȲaāeēgḡiīoōuūyȳÄǞÆǢÕȬÖȪÜǕäǟæǣõȭöȫüǖǪǬǫǭȦǠȧǡȮȰȯȱ" ++
      "ΑᾹΙῙΥῩαᾱιῑυῡИӢУӮиӣуӯḶḸḷḹṚṜṛṝ"),
    (0x306,
      "AĂEĔGĞIĬOŎUŬaăeĕgğiĭoŏuŭȨḜȩḝΑᾸΙῘΥῨαᾰιῐυῠАӐЕӖЖӁИЙУЎаӑеӗжӂийуў" ++
      "ẠẶạặ"),
    (0x307,
      "AȦBḂCĊDḊEĖFḞGĠHḢIİMṀNṄOȮPṖRṘSṠTṪWẆXẊYẎZŻaȧbḃcċdḋeėfḟgġhḣmṁnṅ" ++
      "oȯpṗrṙsṡtṫwẇxẋyẏzżŚṤśṥŠṦšṧſẛṢṨṣṩ"),
    (0x308,
      "AÄEËHḦIÏOÖUÜWẄXẌYŸaäeëhḧiïoötẗuüwẅxẍyÿÕṎõṏŪṺūṻΙΪΥΫιϊυϋϒϔІЇАӒ" ++
      "ЕЁЖӜЗӞИӤОӦУӰЧӴЫӸЭӬаӓеёжӝзӟиӥоӧуӱчӵыӹэӭіїӘӚәӛӨӪөӫ"),
    (0x309, "AẢEẺIỈOỎUỦYỶaảeẻiỉoỏuủyỷÂẨÊỂÔỔâẩêểôổĂẲăẳƠỞơởƯỬưử"),
    (0x30A, "AÅUŮaåuůwẘyẙ"),
    (0x30B, "OŐUŰoőuűУӲуӳ"),
    (0x30C,
      "AǍCČDĎEĚGǦHȞIǏKǨLĽNŇOǑRŘSŠTŤUǓZŽaǎcčdďeěgǧhȟiǐjǰkǩlľnňoǒrřsš" ++
      "tťuǔzžÜǙüǚƷǮʒǯ"),
    (0x30F, "AȀEȄIȈOȌRȐUȔaȁeȅiȉoȍrȑuȕѴѶѵѷ"),
    (0x311, "AȂEȆIȊOȎRȒUȖaȃeȇiȋoȏrȓuȗ"),
    (0x313, "ΑἈΕἘΗἨΙἸΟὈΩὨαἀεἐηἠιἰοὀρῤυὐωὠ"),
    (0x314, "ΑἉΕἙΗἩΙἹΟὉΡῬΥὙΩὩαἁεἑηἡιἱοὁρῥυὑωὡ"),
    (0x31B, "OƠUƯoơuư"),
    (0x323,
      "AẠBḄDḌEẸHḤIỊKḲLḶMṂNṆOỌRṚSṢTṬUỤVṾWẈYỴZẒaạbḅdḍeẹhḥiịkḳlḷmṃnṇoọ" ++
      "rṛsṣtṭuụvṿwẉyỵzẓƠỢơợƯỰưự"),
    (0x324, "UṲuṳ"),
    (0x325, "AḀaḁ"),
    (0x326, "SȘTȚsștț"),
    (0x327, "CÇDḐEȨGĢHḨKĶLĻNŅRŖSŞTŢcçdḑeȩgģhḩkķlļnņrŗsştţ"),
    (0x328, "AĄEĘIĮOǪUŲaąeęiįoǫuų"),
    (0x32D, "DḒEḘLḼNṊTṰUṶdḓeḙlḽnṋtṱuṷ"),
    (0x32E, "HḪhḫ"),
    (0x330, "EḚIḬUṴeḛiḭuṵ"),
    (0x331, "BḆDḎKḴLḺNṈRṞTṮZẔbḇdḏhẖkḵlḻnṉrṟtṯzẕ"),
    (0x338,
      "<≮=≠>≯←↚→↛↔↮⇐⇍⇒⇏⇔⇎∃∄∈∉∋∌∣∤∥∦∼≁≃≄≅≇≈≉≍≭≡≢≤≰≥≱≲≴≳≵≶≸≷≹≺⊀≻⊁≼⋠≽⋡" ++
      "⊂⊄⊃⊅⊆⊈⊇⊉⊑⋢⊒⋣⊢⊬⊨⊭⊩⊮⊫⊯⊲⋪⊳⋫⊴⋬⊵⋭"),
    (0x342, "¨῁αᾶηῆιῖυῦωῶϊῗϋῧἀἆἁἇἈἎἉἏἠἦἡἧἨἮἩἯἰἶἱἷἸἾἹἿὐὖὑὗὙὟὠὦὡὧὨὮὩὯ᾿῏῾῟"),
    (0x345,
      "ΑᾼΗῌΩῼάᾴήῄαᾳηῃωῳώῴἀᾀἁᾁἂᾂἃᾃἄᾄἅᾅἆᾆἇᾇἈᾈἉᾉἊᾊἋᾋἌᾌἍᾍἎᾎἏᾏἠᾐἡᾑἢᾒἣᾓἤᾔ" ++
      "ἥᾕἦᾖἧᾗἨᾘἩᾙἪᾚἫᾛἬᾜἭᾝἮᾞἯᾟὠᾠὡᾡὢᾢὣᾣὤᾤὥᾥὦᾦὧᾧὨᾨὩᾩὪᾪὫᾫὬᾬὭᾭὮᾮὯᾯὰᾲὴῂὼῲ" ++
      "ᾶᾷῆῇῶῷ"),
    (0x653, "اآ"),
    (0x654, "اأوؤيئہۂےۓەۀ"),
    (0x655, "اإ"),
    (0x93C, "नऩरऱळऴ"),
    (0x9BE, "েো"),
    (0x9D7, "েৌ"),
    (0xB3E, "େୋ"),
    (0xB56, "େୈ"),
    (0xB57, "େୌ"),
    (0xBBE, "ெொேோ"),
    (0xBD7, "ஒஔெௌ"),
    (0xC56, "ెై"),
    (0xCC2, "ೆೊ"),
    (0xCD5, "ಿೀೆೇೊೋ"),
    (0xCD6, "ೆೈ"),
    (0xD3E, "െൊേോ"),
    (0xD57, "െൌ"),
    (0xDCA, "ෙේොෝ"),
    (0xDCF, "ෙො"),
    (0xDDF, "ෙෞ"),
    (0x102E, "ဥဦ"),
    (0x1B35, "ᬅᬆᬇᬈᬉᬊᬋᬌᬍᬎᬑᬒᬺᬻᬼᬽᬾᭀᬿᭁᭂᭃ"),
    (0x3099,
      "うゔかがきぎくぐけげこごさざしじすずせぜそぞただちぢつづてでとどはばひびふぶへべほぼゝゞウヴカガキギクグケゲコゴサザシジ" ++
      "スズセゼソゾタダチヂツヅテデトドハバヒビフブヘベホボワヷヰヸヱヹヲヺヽヾ"),
    (0x309A, "はぱひぴふぷへぺほぽハパヒピフプヘペホポ"),
    (0x110BA, "𑂙𑂚𑂛𑂜𑂥𑂫"),
    (0x11127, "𑄱𑄮𑄲𑄯"),
    (0x1133E, "𑍇𑍋"),
    (0x11357, "𑍇𑍌"),
    (0x114B0, "𑒹𑒼"),
    (0x114BA, "𑒹𑒻"),
    (0x114BD, "𑒹𑒾"),
    (0x115AF, "𑖸𑖺𑖹𑖻"),
    (0x11930, "𑤵𑤸")]

/-- Characters that no composed text holds, as they stand for other characters. -/
def restoredBlocks : Blocks :=
  [(0x340, 0x341), (0x343, 0x344), (0x374, 0x374), (0x37E, 0x37E), (0x387, 0x387),
    (0x958, 0x95F), (0x9DC, 0x9DD), (0x9DF, 0x9DF), (0xA33, 0xA33), (0xA36, 0xA36),
    (0xA59, 0xA5B), (0xA5E, 0xA5E), (0xB5C, 0xB5D), (0xF43, 0xF43), (0xF4D, 0xF4D),
    (0xF52, 0xF52), (0xF57, 0xF57), (0xF5C, 0xF5C), (0xF69, 0xF69), (0xF73, 0xF73),
    (0xF75, 0xF76), (0xF78, 0xF78), (0xF81, 0xF81), (0xF93, 0xF93), (0xF9D, 0xF9D),
    (0xFA2, 0xFA2), (0xFA7, 0xFA7), (0xFAC, 0xFAC), (0xFB9, 0xFB9), (0x1F71, 0x1F71),
    (0x1F73, 0x1F73), (0x1F75, 0x1F75), (0x1F77, 0x1F77), (0x1F79, 0x1F79), (0x1F7B, 0x1F7B),
    (0x1F7D, 0x1F7D), (0x1FBB, 0x1FBB), (0x1FBE, 0x1FBE), (0x1FC9, 0x1FC9), (0x1FCB, 0x1FCB),
    (0x1FD3, 0x1FD3), (0x1FDB, 0x1FDB), (0x1FE3, 0x1FE3), (0x1FEB, 0x1FEB), (0x1FEE, 0x1FEF),
    (0x1FF9, 0x1FF9), (0x1FFB, 0x1FFB), (0x1FFD, 0x1FFD), (0x2000, 0x2001), (0x2126, 0x2126),
    (0x212A, 0x212B), (0x2329, 0x232A), (0x2ADC, 0x2ADC), (0xF900, 0xFA0D), (0xFA10, 0xFA10),
    (0xFA12, 0xFA12), (0xFA15, 0xFA1E), (0xFA20, 0xFA20), (0xFA22, 0xFA22), (0xFA25, 0xFA26),
    (0xFA2A, 0xFA6D), (0xFA70, 0xFAD9), (0xFB1D, 0xFB1D), (0xFB1F, 0xFB1F), (0xFB2A, 0xFB36),
    (0xFB38, 0xFB3C), (0xFB3E, 0xFB3E), (0xFB40, 0xFB41), (0xFB43, 0xFB44), (0xFB46, 0xFB4E),
    (0x1D15E, 0x1D164), (0x1D1BB, 0x1D1C0), (0x2F800, 0x2FA1D)]

/-- The characters two by two. -/
def pairUp : List Char → List (Char × Char)
  | a :: b :: s => (a, b) :: pairUp s
  | _ => []

/-- The first leading part of a Korean syllable. -/
def leadingPart : Nat := 0x1100

/-- How many leading parts there are. -/
def leadingCount : Nat := 19

/-- The first middle part of a Korean syllable. -/
def middlePart : Nat := 0x1161

/-- How many middle parts there are. -/
def middleCount : Nat := 21

/-- The code before the first final part of a Korean syllable; it stands for none. -/
def finalPart : Nat := 0x11A7

/-- How many final parts there are, with none among them. -/
def finalCount : Nat := 28

/-- The first Korean syllable. -/
def firstSyllable : Nat := 0xAC00

/-- How many Korean syllables there are. -/
def syllableCount : Nat := leadingCount * middleCount * finalCount

/-- The syllable that two characters make. -/
def syllable? (a b : Char) : Option Char :=
  let leading := a.toNat - leadingPart
  let middle := b.toNat - middlePart
  let syllable := a.toNat - firstSyllable
  let final := b.toNat - finalPart
  if leadingPart ≤ a.toNat && leading < leadingCount && middlePart ≤ b.toNat &&
      middle < middleCount then
    some (Char.ofNat (firstSyllable + (leading * middleCount + middle) * finalCount))
  else if firstSyllable ≤ a.toNat && syllable < syllableCount && syllable % finalCount = 0 &&
      finalPart < b.toNat && final < finalCount then
    some (Char.ofNat (a.toNat + final))
  else none

/-- The character that two characters make. -/
def pair? (a b : Char) : Option Char :=
  match compositions.lookup b.toNat with
  | some made => (pairUp made.toList).lookup a
  | none => syllable? a b

/-- The two characters that a syllable is made of. -/
def syllableParts? (c : Char) : Option (Char × Char) :=
  let syllable := c.toNat - firstSyllable
  let final := syllable % finalCount
  let pair := syllable / finalCount
  if c.toNat < firstSyllable || syllableCount ≤ syllable then none
  else if final = 0 then
    some (Char.ofNat (leadingPart + pair / middleCount),
      Char.ofNat (middlePart + pair % middleCount))
  else some (Char.ofNat (c.toNat - final), Char.ofNat (finalPart + final))

/-- The two characters that a character is made of. -/
def parts? (c : Char) : Option (Char × Char) :=
  (compositions.findSome? fun (mark, made) =>
    ((pairUp made.toList).find? (·.2 = c)).map fun pair => (pair.1, Char.ofNat mark)).or
      (syllableParts? c)

/-! ## Texts -/

/-- How many marks a character may hold at most, and one more. -/
def partDepth : Nat := 4

/-- The characters that a character is made of. -/
def decompose : Nat → Char → List Char
  | 0, c => [c]
  | depth + 1, c =>
    match parts? c with
    | some (a, b) => decompose depth a ++ [b]
    | none => [c]

/-- A character in front of a text, behind the marks of lower classes if it is a mark. -/
def placeMark (c : Char) : List Char → List Char
  | [] => [c]
  | d :: s =>
    if 0 < markClass d && markClass d < markClass c then d :: placeMark c s else c :: d :: s

/-- The text with its marks in the order of their classes. -/
def orderMarks (s : List Char) : List Char := s.foldr placeMark []

/-- The text composed, after a character and the characters kept behind it, in reverse. A mark joins
the character unless one of its own or a higher class is kept. -/
def compose (start : Char) (kept : List Char) : List Char → List Char
  | [] => start :: kept.reverse
  | c :: s =>
    let isFree := kept.head?.all (markClass · < markClass c)
    match if isFree then pair? start c else none with
    | some made => compose made kept s
    | none =>
      if markClass c = 0 then start :: kept.reverse ++ compose c [] s
      else compose start (c :: kept) s

theorem compose_nil (start : Char) (kept : List Char) :
    compose start kept [] = start :: kept.reverse := rfl

/-- The text in composed form, unless it holds characters that no composed text holds. -/
def composed (s : List Char) : List Char :=
  let parts := orderMarks (s.flatMap (decompose partDepth))
  let isLoose (c : Char) : Bool := markClass c != 0
  match parts.dropWhile isLoose with
  | [] => parts
  | start :: rest => parts.takeWhile isLoose ++ compose start [] rest

/-- Whether a text is in composed form. -/
def isComposed (s : List Char) : Bool :=
  s.all (!isInBlocks restoredBlocks ·) && composed s = s

end Billing.Text
