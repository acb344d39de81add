import GuestLint.Text.Marks
/-!
# Composed text

Many letters with a mark can be written in two ways: as one character, or as the letter and the
mark. `composed` brings a text into the form that has as few characters as possible, with marks of
different classes in ascending order, so that texts which read the same are the same.
-/
namespace GuestLint.Text

/-- Marks, each with the letters that it joins and the characters that they become. -/
def joins : List (Nat × String × String) :=
  [(0x300, "aeinouwyâêôüăēōơưαεηιουωϊϋеиἀἁἐἑἠἡἰἱὀὁὐὑὠὡ",
      "àèìǹòùẁỳầềồǜằḕṑờừὰὲὴὶὸὺὼῒῢѐѝἂἃἒἓἢἣἲἳὂὃὒὓὢὣ"),
    (0x301, "acegiklmnoprsuwyzâåæçêïôõøüăēōũơưαεηιουωϊϋгкἀἁἐἑἠἡἰἱὀὁὐὑὠὡ",
      "áćéǵíḱĺḿńóṕŕśúẃýźấǻǽḉếḯốṍǿǘắḗṓṹớứάέήίόύώΐΰѓќἄἅἔἕἤἥἴἵὄὅὔὕὤὥ"),
    (0x302, "aceghijosuwyzạẹọ", "âĉêĝĥîĵôŝûŵŷẑậệộ"),
    (0x303, "aeinouvyâêôăơư", "ãẽĩñõũṽỹẫễỗẵỡữ"),
    (0x304, "aegiouyäæõöüǫȧȯαιυиуḷṛ", "āēḡīōūȳǟǣȭȫǖǭǡȱᾱῑῡӣӯḹṝ"),
    (0x306, "aegiouȩαιυаежиуạ", "ăĕğĭŏŭḝᾰῐῠӑӗӂйўặ"),
    (0x307, "abcdefghmnoprstwxyzśšṣ𐗒𐗚", "ȧḃċḋėḟġḣṁṅȯṗṙṡṫẇẋẏżṥṧṩ𐗉𐗤"),
    (0x308, "aehiotuwxyõūιυаежзиоучыэіәө", "äëḧïöẗüẅẍÿṏṻϊϋӓёӝӟӥӧӱӵӹӭїӛӫ"),
    (0x309, "aeiouyâêôăơư", "ảẻỉỏủỷẩểổẳởử"),
    (0x30A, "auwy", "åůẘẙ"),
    (0x30B, "ouу", "őűӳ"),
    (0x30C, "acdeghijklnorstuzüʒ", "ǎčďěǧȟǐǰǩľňǒřšťǔžǚǯ"),
    (0x30F, "aeioruѵ", "ȁȅȉȍȑȕѷ"),
    (0x311, "aeioru", "ȃȇȋȏȓȗ"),
    (0x313, "αεηιορυω", "ἀἐἠἰὀῤὐὠ"),
    (0x314, "αεηιορυω", "ἁἑἡἱὁῥὑὡ"),
    (0x31B, "ou", "ơư"),
    (0x323, "abdehiklmnorstuvwyzơư", "ạḅḍẹḥịḳḷṃṇọṛṣṭụṿẉỵẓợự"),
    (0x324, "u", "ṳ"),
    (0x325, "a", "ḁ"),
    (0x326, "st", "șț"),
    (0x327, "cdeghklnrst", "çḑȩģḩķļņŗşţ"),
    (0x328, "aeiou", "ąęįǫų"),
    (0x32D, "delntu", "ḓḙḽṋṱṷ"),
    (0x32E, "h", "ḫ"),
    (0x330, "eiu", "ḛḭṵ"),
    (0x331, "bdhklnrtz", "ḇḏẖḵḻṉṟṯẕ"),
    (0x338, "<=>←→↔⇐⇒⇔∃∈∋∣∥∼≃≅≈≍≡≤≥≲≳≶≷≺≻≼≽⊂⊃⊆⊇⊑⊒⊢⊨⊩⊫⊲⊳⊴⊵",
      "≮≠≯↚↛↮⇍⇏⇎∄∉∌∤∦≁≄≇≉≭≢≰≱≴≵≸≹⊀⊁⋠⋡⊄⊅⊈⊉⋢⋣⊬⊭⊮⊯⋪⋫⋬⋭"),
    (0x342, "αηιυωϊϋἀἁἠἡἰἱὐὑὠὡ", "ᾶῆῖῦῶῗῧἆἇἦἧἶἷὖὗὦὧ"),
    (0x653, "ا", "آ"),
    (0x654, "اويہےە", "أؤئۂۓۀ"),
    (0x655, "ا", "إ"),
    (0x93C, "नरळ", "ऩऱऴ"),
    (0x9BE, "ে", "ো"),
    (0x9D7, "ে", "ৌ"),
    (0xB3E, "େ", "ୋ"),
    (0xB56, "େ", "ୈ"),
    (0xB57, "େ", "ୌ"),
    (0xBBE, "ெே", "ொோ"),
    (0xBD7, "ஒெ", "ஔௌ"),
    (0xC56, "ె", "ై"),
    (0xCC2, "ೆ", "ೊ"),
    (0xCD5, "ಿೆೊ", "ೀೇೋ"),
    (0xCD6, "ೆ", "ೈ"),
    (0xD3E, "െേ", "ൊോ"),
    (0xD57, "െ", "ൌ"),
    (0xDCA, "ෙො", "ේෝ"),
    (0xDCF, "ෙ", "ො"),
    (0xDDF, "ෙ", "ෞ"),
    (0x102E, "ဥ", "ဦ"),
    (0x1B35, "ᬅᬇᬉᬋᬍᬑᬺᬼᬾᬿᭂ", "ᬆᬈᬊᬌᬎᬒᬻᬽᭀᭁᭃ"),
    (0x3099, "うかきくけこさしすせそたちつてとはひふへほゝウカキクケコサシスセソタチツテトハヒフヘホワヰヱヲヽ",
      "ゔがぎぐげござじずぜぞだぢづでどばびぶべぼゞヴガギグゲゴザジズゼゾダヂヅデドバビブベボヷヸヹヺヾ"),
    (0x309A, "はひふへほハヒフヘホ", "ぱぴぷぺぽパピプペポ"),
    (0x110BA, "𑂙𑂛𑂥", "𑂚𑂜𑂫"),
    (0x11127, "𑄱𑄲", "𑄮𑄯"),
    (0x1133E, "𑍇", "𑍋"),
    (0x11357, "𑍇", "𑍌"),
    (0x113B8, "𑏂", "𑏇"),
    (0x113BB, "𑎄", "𑎅"),
    (0x113C2, "𑎎", "𑎎𑏅"),
    (0x113C9, "𑎂𑎐𑏂", "𑎃𑎑𑏈"),
    (0x114B0, "𑒹", "𑒼"),
    (0x114BA, "𑒹", "𑒻"),
    (0x114BD, "𑒹", "𑒾"),
    (0x115AF, "𑖸𑖹", "𑖺𑖻"),
    (0x11930, "𑤵", "𑤸"),
    (0x1611E, "𖄞", "𖄡"),
    (0x1611F, "𖄡𖄡𖄩𖄩", "𖄣𖄦𖄧𖄤"),
    (0x16120, "𖄡𖄞", "𖄥𖄨"),
    (0x16129, "𖄞", "𖄢"),
    (0x16D67, "𖵩𖵩", "𖵪𖵧𖵪")]

/-- A syllable of Hangul from its first part and its vowel, or from a syllable without a final part
and that part. -/
def joinedSyllable? (first next : Nat) : Option Char :=
  if 0x1100 ≤ first ∧ first ≤ 0x1112 ∧ 0x1161 ≤ next ∧ next ≤ 0x1175 then
    some (Char.ofNat (0xAC00 + ((first - 0x1100) * 21 + (next - 0x1161)) * 28))
  else if 0xAC00 ≤ first ∧ first ≤ 0xD7A3 ∧ (first - 0xAC00) % 28 = 0 ∧
      0x11A8 ≤ next ∧ next ≤ 0x11C2 then
    some (Char.ofNat (first + (next - 0x11A7)))
  else none

/-- The character that a letter and the mark behind it become. -/
def joined? (letter mark : Char) : Option Char :=
  match joins.lookup mark.toNat with
  | some (letters, results) => do
    let place ← letters.toList.idxOf? letter
    results.toList[place]?
  | none => joinedSyllable? letter.toNat mark.toNat

/-- The letter and the mark that a character has been joined from. -/
def parts? (c : Char) : Option (Char × Char) :=
  if c.toNat < 0x80 then none
  else
    joins.findSome? fun (mark, letters, results) => do
      let place ← results.toList.idxOf? c
      pure (← letters.toList[place]?, Char.ofNat mark)

/-- Takes a character apart, at most `fuel` times. -/
def apart : (fuel : Nat) → Char → List Char
  | 0, c => [c]
  | fuel + 1, c =>
    match parts? c with
    | some (letter, mark) => apart fuel letter ++ [mark]
    | none => [c]

/-- The most marks that one character has been joined from. -/
def maxJoined : Nat := 4

/-- Puts a mark behind the marks of lower classes that follow it. -/
def settleMark (c : Char) : List Char → List Char
  | [] => [c]
  | d :: rest =>
    if markClass d ≠ 0 ∧ markClass d < markClass c then d :: settleMark c rest else c :: d :: rest

/-- Brings neighbouring marks into the order of their classes; those of one class stay in order. -/
def ordered (text : List Char) : List Char :=
  text.foldr settleMark []

/-- Joins marks to the letter before them. A mark cannot be joined across another one of its class
or of a higher class; `passed` are the marks that stay between, of classes up to `highest`. -/
def joinFrom (letter : Char) (passed : List Char) (highest : Nat) : List Char → List Char
  | [] => letter :: passed
  | c :: rest =>
    let reached := passed.isEmpty || highest < markClass c
    match if reached then joined? letter c else none with
    | some both => joinFrom both passed highest rest
    | none =>
      if markClass c = 0 then letter :: passed ++ joinFrom c [] 0 rest
      else joinFrom letter (passed ++ [c]) (markClass c) rest

/-- The composed form of a text. -/
def composed (text : List Char) : List Char :=
  match ordered (text.flatMap (apart maxJoined)) with
  | [] => []
  | c :: rest => joinFrom c [] 0 rest

end GuestLint.Text
