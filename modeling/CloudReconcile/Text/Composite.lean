import CloudReconcile.Text.CombiningClass

/-!
# Composite characters

A letter with a mark may be one character or two.  `composed` writes a text with as few characters
as it can: everything is taken apart, the marks on each letter are put in the order of their
classes, and each letter then takes in the marks that it can.
-/

namespace CloudReconcile
namespace Text
namespace Composite

/-! ## Composites in general -/

/-- For each second character, texts that alternate between a first one and their composite. -/
def rows : List (Nat × String) :=
  [(0x300, "AÀEÈIÌOÒUÙaàeèiìoòuùÜǛüǜNǸnǹЕЀИЍеѐиѝĒḔēḕŌṐōṑWẀwẁÂẦâầĂẰăằÊỀêềÔỒôồƠỜơờƯỪưừYỲyỳἀἂἁἃ"),
   (0x300, "ἈἊἉἋἐἒἑἓἘἚἙἛἠἢἡἣἨἪἩἫἰἲἱἳἸἺἹἻὀὂὁὃὈὊὉὋὐὒὑὓὙὛὠὢὡὣὨὪὩὫαὰεὲηὴιὶοὸυὺωὼΑᾺΕῈΗῊ᾿῍ϊῒΙῚ῾῝ϋῢ"),
   (0x300, "ΥῪ¨῭ΟῸΩῺ"),
   (0x301, "AÁEÉIÍOÓUÚYÝaáeéiíoóuúyýCĆcćLĹlĺNŃnńRŔrŕSŚsśZŹzźÜǗüǘGǴgǵÅǺåǻÆǼæǽØǾøǿ¨΅ΑΆΕΈΗΉΙΊΟΌ"),
   (0x301, "ΥΎΩΏϊΐαάεέηήιίϋΰοόυύωώϒϓГЃКЌгѓкќÇḈçḉĒḖēḗÏḮïḯKḰkḱMḾmḿÕṌõṍŌṒōṓPṔpṕŨṸũṹWẂwẃÂẤâấĂẮăắ"),
   (0x301, "ÊẾêếÔỐôốƠỚơớƯỨưứἀἄἁἅἈἌἉἍἐἔἑἕἘἜἙἝἠἤἡἥἨἬἩἭἰἴἱἵἸἼἹἽὀὄὁὅὈὌὉὍὐὔὑὕὙὝὠὤὡὥὨὬὩὭ᾿῎῾῞"),
   (0x302, "AÂEÊIÎOÔUÛaâeêiîoôuûCĈcĉGĜgĝHĤhĥJĴjĵSŜsŝWŴwŵYŶyŷZẐzẑẠẬạậẸỆẹệỌỘọộ"),
   (0x303, "AÃNÑOÕaãnñoõIĨiĩUŨuũVṼvṽÂẪâẫĂẴăẵEẼeẽÊỄêễÔỖôỗƠỠơỡƯỮưữYỸyỹ"),
   (0x304, "AĀaāEĒeēIĪiīOŌoōUŪuūÜǕüǖÄǞäǟȦǠȧǡÆǢæǣǪǬǫǭÖȪöȫÕȬõȭȮȰȯȱYȲyȳИӢиӣУӮуӯGḠgḡḶḸḷḹṚṜṛṝαᾱΑᾹ"),
   (0x304, "ιῑΙῙυῡΥῩ"),
   (0x306, "AĂaăEĔeĕGĞgğIĬiĭOŎoŏUŬuŭУЎИЙийуўЖӁжӂАӐаӑЕӖеӗȨḜȩḝẠẶạặαᾰΑᾸιῐΙῘυῠΥῨ"),
   (0x307, "CĊcċEĖeėGĠgġIİZŻzżAȦaȧOȮoȯBḂbḃDḊdḋFḞfḟHḢhḣMṀmṁNṄnṅPṖpṗRṘrṙSṠsṡŚṤśṥŠṦšṧṢṨṣṩTṪtṫWẆ"),
   (0x307, "wẇXẊxẋYẎyẏſẛ𐗒𐗉𐗚𐗤"),
   (0x308, "AÄEËIÏOÖUÜaäeëiïoöuüyÿYŸΙΪΥΫιϊυϋϒϔЕЁІЇеёіїАӒаӓӘӚәӛЖӜжӝЗӞзӟИӤиӥОӦоӧӨӪөӫЭӬэӭУӰуӱЧӴ"),
   (0x308, "чӵЫӸыӹHḦhḧÕṎõṏŪṺūṻWẄwẅXẌxẍtẗ"),
   (0x309, "AẢaảÂẨâẩĂẲăẳEẺeẻÊỂêểIỈiỉOỎoỏÔỔôổƠỞơởUỦuủƯỬưửYỶyỷ"), (0x30a, "AÅaåUŮuůwẘyẙ"),
   (0x30b, "OŐoőUŰuűУӲуӳ"),
   (0x30c, "CČcčDĎdďEĚeěLĽlľNŇnňRŘrřSŠsšTŤtťZŽzžAǍaǎIǏiǐOǑoǒUǓuǔÜǙüǚGǦgǧKǨkǩƷǮʒǯjǰHȞhȟ"),
   (0x30f, "AȀaȁEȄeȅIȈiȉOȌoȍRȐrȑUȔuȕѴѶѵѷ"), (0x311, "AȂaȃEȆeȇIȊiȋOȎoȏRȒrȓUȖuȗ"),
   (0x313, "αἀΑἈεἐΕἘηἠΗἨιἰΙἸοὀΟὈυὐωὠΩὨρῤ"), (0x314, "αἁΑἉεἑΕἙηἡΗἩιἱΙἹοὁΟὉυὑΥὙωὡΩὩρῥΡῬ"),
   (0x31b, "OƠoơUƯuư"),
   (0x323, "BḄbḅDḌdḍHḤhḥKḲkḳLḶlḷMṂmṃNṆnṇRṚrṛSṢsṣTṬtṭVṾvṿWẈwẉZẒzẓAẠaạEẸeẹIỊiịOỌoọƠỢơợUỤuụƯỰưự"),
   (0x323, "YỴyỵ"), (0x324, "UṲuṳ"), (0x325, "AḀaḁ"), (0x326, "SȘsșTȚtț"),
   (0x327, "CÇcçGĢgģKĶkķLĻlļNŅnņRŖrŗSŞsşTŢtţEȨeȩDḐdḑHḨhḩ"), (0x328, "AĄaąEĘeęIĮiįUŲuųOǪoǫ"),
   (0x32d, "DḒdḓEḘeḙLḼlḽNṊnṋTṰtṱUṶuṷ"), (0x32e, "HḪhḫ"), (0x330, "EḚeḛIḬiḭUṴuṵ"),
   (0x331, "BḆbḇDḎdḏKḴkḵLḺlḻNṈnṉRṞrṟTṮtṯZẔzẕhẖ"),
   (0x338, "←↚→↛↔↮⇐⇍⇔⇎⇒⇏∃∄∈∉∋∌∣∤∥∦∼≁≃≄≅≇≈≉=≠≡≢≍≭<≮>≯≤≰≥≱≲≴≳≵≶≸≷≹≺⊀≻⊁⊂⊄⊃⊅⊆⊈⊇⊉⊢⊬⊨⊭⊩⊮⊫⊯≼⋠≽⋡⊑⋢⊒⋣"),
   (0x338, "⊲⋪⊳⋫⊴⋬⊵⋭"), (0x342, "ἀἆἁἇἈἎἉἏἠἦἡἧἨἮἩἯἰἶἱἷἸἾἹἿὐὖὑὗὙὟὠὦὡὧὨὮὩὯαᾶ¨῁ηῆ᾿῏ιῖϊῗ῾῟υῦϋῧωῶ"),
   (0x345, "ἀᾀἁᾁἂᾂἃᾃἄᾄἅᾅἆᾆἇᾇἈᾈἉᾉἊᾊἋᾋἌᾌἍᾍἎᾎἏᾏἠᾐἡᾑἢᾒἣᾓἤᾔἥᾕἦᾖἧᾗἨᾘἩᾙἪᾚἫᾛἬᾜἭᾝἮᾞἯᾟὠᾠὡᾡὢᾢὣᾣὤᾤὥᾥὦᾦὧᾧ"),
   (0x345, "ὨᾨὩᾩὪᾪὫᾫὬᾬὭᾭὮᾮὯᾯὰᾲαᾳάᾴᾶᾷΑᾼὴῂηῃήῄῆῇΗῌὼῲωῳώῴῶῷΩῼ"), (0x653, "\u0627\u0622"),
   (0x654, "\u0627\u0623\u0648\u0624\u064a\u0626\u06d5\u06c0\u06c1\u06c2\u06d2\u06d3"),
   (0x655, "\u0627\u0625"), (0x93c, "नऩरऱळऴ"), (0x9be, "\u09c7\u09cb"), (0x9d7, "\u09c7\u09cc"),
   (0xb3e, "\u0b47\u0b4b"), (0xb56, "\u0b47\u0b48"), (0xb57, "\u0b47\u0b4c"),
   (0xbbe, "\u0bc6\u0bca\u0bc7\u0bcb"), (0xbd7, "ஒஔ\u0bc6\u0bcc"), (0xc56, "\u0c46\u0c48"),
   (0xcc2, "\u0cc6\u0cca"), (0xcd5, "\u0cbf\u0cc0\u0cc6\u0cc7\u0cca\u0ccb"),
   (0xcd6, "\u0cc6\u0cc8"), (0xd3e, "\u0d46\u0d4a\u0d47\u0d4b"), (0xd57, "\u0d46\u0d4c"),
   (0xdca, "\u0dd9\u0dda\u0ddc\u0ddd"), (0xdcf, "\u0dd9\u0ddc"), (0xddf, "\u0dd9\u0dde"),
   (0x102e, "ဥဦ"),
   (0x1b35, "ᬅᬆᬇᬈᬉᬊᬋᬌᬍᬎᬑᬒ\u1b3a\u1b3b\u1b3c\u1b3d\u1b3e\u1b40\u1b3f\u1b41\u1b42\u1b43"),
   (0x3099, "かがきぎくぐけげこごさざしじすずせぜそぞただちぢつづてでとどはばひびふぶへべほぼうゔゝゞカガキギクグケゲコゴサザシジスズセゼソゾタダチヂツヅテデトドハバヒビフブ"),
   (0x3099, "ヘベホボウヴワヷヰヸヱヹヲヺヽヾ"), (0x309a, "はぱひぴふぷへぺほぽハパヒピフプヘペホポ"), (0x110ba, "𑂙𑂚𑂛𑂜𑂥𑂫"),
   (0x11127, "𑄱𑄮𑄲𑄯"), (0x1133e, "𑍇𑍋"), (0x11357, "𑍇𑍌"), (0x113b8, "𑏅𑎸"), (0x113bb, "𑎄𑎅"),
   (0x113c2, "𑎋𑎎𑏅𑏂"), (0x113c9, "𑎂𑎃𑎐𑎑𑏅𑏉"), (0x114b0, "𑒹𑒼"), (0x114ba, "𑒹𑒻"), (0x114bd, "𑒹𑒾"),
   (0x115af, "𑖸𑖺𑖹𑖻"), (0x11930, "𑤵𑤸"), (0x1611e, "𖄡𖄞"), (0x1611f, "𖄦𖄩𖄤𖄡𖄦𖄢𖄧"),
   (0x16120, "𖄨𖄡𖄨"), (0x16129, "𖄡𖄩"), (0x16d67, "𖵨𖵧𖵣𖵩𖵩𖵪")]

def pairs : List Char → List (Char × Char)
  | first :: whole :: rest => (first, whole) :: pairs rest
  | _ => []

def table : List (Char × List (Char × Char)) :=
  rows.map fun (second, text) => (Char.ofNat second, pairs text.toList)

/-! ## Syllables -/

def syllables : Nat := 0xac00

def syllableCount : Nat := 11172

def leads : Nat := 0x1100

def vowels : Nat := 0x1161

/-- Where the trailing consonants begin; the first place stands for none. -/
def trails : Nat := 0x11a7

/-- Put a lead and a vowel, or an open syllable and a trail, together. -/
def syllable? (first second : Char) : Option Char :=
  let a := first.toNat
  let b := second.toNat
  if leads ≤ a ∧ a < leads + 19 ∧ vowels ≤ b ∧ b < vowels + 21 then
    some (Char.ofNat (syllables + ((a - leads) * 21 + (b - vowels)) * 28))
  else if syllables ≤ a ∧ a < syllables + syllableCount ∧ (a - syllables) % 28 = 0 ∧
      trails < b ∧ b < trails + 28 then
    some (Char.ofNat (a + (b - trails)))
  else none

/-- Take the trail off a closed syllable, or an open one apart. -/
def splitSyllable? (c : Char) : Option (Char × Char) :=
  let n := c.toNat - syllables
  if syllables ≤ c.toNat ∧ c.toNat < syllables + syllableCount then
    if n % 28 = 0 then
      some (Char.ofNat (leads + n / 588), Char.ofNat (vowels + n % 588 / 28))
    else some (Char.ofNat (c.toNat - n % 28), Char.ofNat (trails + n % 28))
  else none

/-! ## Taking apart -/

def splitOnce? (c : Char) : Option (Char × Char) :=
  if c.toNat < 0xc0 then none
  else (splitSyllable? c).or
    (table.findSome? fun (second, firsts) =>
      (firsts.find? (·.2 = c)).map fun (first, _) => (first, second))

def merge? (first second : Char) : Option Char :=
  (syllable? first second).or
    (table.findSome? fun (c, firsts) => if c = second then firsts.lookup first else none)

/-- The characters that a composite stands for in the end; none goes deeper than `depth`. -/
def pieces : Nat → Char → List Char
  | 0, c => [c]
  | depth + 1, c =>
    match splitOnce? c with
    | some (first, second) => pieces depth first ++ [second]
    | none => [c]

/-- The greatest number of marks that one composite takes in. -/
def depth : Nat := 4

/-! ## The order of marks -/

/-- Put a mark behind those of lower classes. -/
def place (c : Char) : List Char → List Char
  | [] => [c]
  | d :: rest =>
    if 0 < combiningClass d ∧ combiningClass d < combiningClass c then d :: place c rest
    else c :: d :: rest

def reorder (text : List Char) : List Char := text.foldr place []

/-! ## Putting together -/

/-- Let a letter take in what it can of the rest; `marks` are those it could not, the last one
first, and nothing of their classes or below reaches the letter any more. -/
def join (letter : Char) (marks : List Char) : List Char → List Char
  | [] => letter :: marks.reverse
  | c :: rest =>
    let reaches := marks.head?.all fun mark => combiningClass mark < combiningClass c
    match if reaches then merge? letter c else none with
    | some whole => join whole marks rest
    | none =>
      if combiningClass c = 0 then letter :: marks.reverse ++ join c [] rest
      else join letter (c :: marks) rest

end Composite

open Composite in
def composed (text : List Char) : List Char :=
  match reorder (text.flatMap (pieces depth)) with
  | [] => []
  | c :: rest => join c [] rest

end Text
end CloudReconcile
