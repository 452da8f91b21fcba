/-!
This module contains the characters that stand for a base together with a mark.
-/

namespace ForwardProxy.Unicode

/-- For a second character, the first ones it composes with, each before the composed character. -/
def composites : List (Char × String) := [
  ('\u0300', "AÀEÈIÌOÒUÙaàeèiìoòuùÜǛüǜNǸnǹЕЀИЍеѐиѝĒḔēḕŌṐōṑWẀwẁÂẦâầĂẰăằÊỀêềÔỒôồƠỜơờƯỪ"),
  ('\u0300', "ưừYỲyỳἀἂἁἃἈἊἉἋἐἒἑἓἘἚἙἛἠἢἡἣἨἪἩἫἰἲἱἳἸἺἹἻὀὂὁὃὈὊὉὋὐὒὑὓὙὛὠὢὡὣὨὪὩὫαὰεὲηὴιὶοὸ"),
  ('\u0300', "υὺωὼΑᾺΕῈΗῊ᾿῍ϊῒΙῚ῾῝ϋῢΥῪ¨῭ΟῸΩῺ"),
  ('\u0301', "AÁEÉIÍOÓUÚYÝaáeéiíoóuúyýCĆcćLĹlĺNŃnńRŔrŕSŚsśZŹzźÜǗüǘGǴgǵÅǺåǻÆǼæǽØǾøǿ¨΅"),
  ('\u0301', "ΑΆΕΈΗΉΙΊΟΌΥΎΩΏϊΐαάεέηήιίϋΰοόυύωώϒϓГЃКЌгѓкќÇḈçḉĒḖēḗÏḮïḯKḰkḱMḾmḿÕṌõṍŌṒōṓ"),
  ('\u0301', "PṔpṕŨṸũṹWẂwẃÂẤâấĂẮăắÊẾêếÔỐôốƠỚơớƯỨưứἀἄἁἅἈἌἉἍἐἔἑἕἘἜἙἝἠἤἡἥἨἬἩἭἰἴἱἵἸἼἹἽὀὄ"),
  ('\u0301', "ὁὅὈὌὉὍὐὔὑὕὙὝὠὤὡὥὨὬὩὭ᾿῎῾῞"),
  ('\u0302', "AÂEÊIÎOÔUÛaâeêiîoôuûCĈcĉGĜgĝHĤhĥJĴjĵSŜsŝWŴwŵYŶyŷZẐzẑẠẬạậẸỆẹệỌỘọộ"),
  ('\u0303', "AÃNÑOÕaãnñoõIĨiĩUŨuũVṼvṽÂẪâẫĂẴăẵEẼeẽÊỄêễÔỖôỗƠỠơỡƯỮưữYỸyỹ"),
  ('\u0304', "AĀaāEĒeēIĪiīOŌoōUŪuūÜǕüǖÄǞäǟȦǠȧǡÆǢæǣǪǬǫǭÖȪöȫÕȬõȭȮȰȯȱYȲyȳИӢиӣУӮуӯGḠgḡḶḸ"),
  ('\u0304', "ḷḹṚṜṛṝαᾱΑᾹιῑΙῙυῡΥῩ"),
  ('\u0306', "AĂaăEĔeĕGĞgğIĬiĭOŎoŏUŬuŭУЎИЙийуўЖӁжӂАӐаӑЕӖеӗȨḜȩḝẠẶạặαᾰΑᾸιῐΙῘυῠΥῨ"),
  ('\u0307', "CĊcċEĖeėGĠgġIİZŻzżAȦaȧOȮoȯBḂbḃDḊdḋFḞfḟHḢhḣMṀmṁNṄnṅPṖpṗRṘrṙSṠsṡŚṤśṥŠṦšṧ"),
  ('\u0307', "ṢṨṣṩTṪtṫWẆwẇXẊxẋYẎyẏſẛ𐗒𐗉𐗚𐗤"),
  ('\u0308', "AÄEËIÏOÖUÜaäeëiïoöuüyÿYŸΙΪΥΫιϊυϋϒϔЕЁІЇеёіїАӒаӓӘӚәӛЖӜжӝЗӞзӟИӤиӥОӦоӧӨӪөӫ"),
  ('\u0308', "ЭӬэӭУӰуӱЧӴчӵЫӸыӹHḦhḧÕṎõṏŪṺūṻWẄwẅXẌxẍtẗ"),
  ('\u0309', "AẢaảÂẨâẩĂẲăẳEẺeẻÊỂêểIỈiỉOỎoỏÔỔôổƠỞơởUỦuủƯỬưửYỶyỷ"),
  ('\u030a', "AÅaåUŮuůwẘyẙ"),
  ('\u030b', "OŐoőUŰuűУӲуӳ"),
  ('\u030c', "CČcčDĎdďEĚeěLĽlľNŇnňRŘrřSŠsšTŤtťZŽzžAǍaǎIǏiǐOǑoǒUǓuǔÜǙüǚGǦgǧKǨkǩƷǮʒǯjǰ"),
  ('\u030c', "HȞhȟ"),
  ('\u030f', "AȀaȁEȄeȅIȈiȉOȌoȍRȐrȑUȔuȕѴѶѵѷ"),
  ('\u0311', "AȂaȃEȆeȇIȊiȋOȎoȏRȒrȓUȖuȗ"),
  ('\u0313', "αἀΑἈεἐΕἘηἠΗἨιἰΙἸοὀΟὈυὐωὠΩὨρῤ"),
  ('\u0314', "αἁΑἉεἑΕἙηἡΗἩιἱΙἹοὁΟὉυὑΥὙωὡΩὩρῥΡῬ"),
  ('\u031b', "OƠoơUƯuư"),
  ('\u0323', "BḄbḅDḌdḍHḤhḥKḲkḳLḶlḷMṂmṃNṆnṇRṚrṛSṢsṣTṬtṭVṾvṿWẈwẉZẒzẓAẠaạEẸeẹIỊiịOỌoọƠỢ"),
  ('\u0323', "ơợUỤuụƯỰưựYỴyỵ"),
  ('\u0324', "UṲuṳ"),
  ('\u0325', "AḀaḁ"),
  ('\u0326', "SȘsșTȚtț"),
  ('\u0327', "CÇcçGĢgģKĶkķLĻlļNŅnņRŖrŗSŞsşTŢtţEȨeȩDḐdḑHḨhḩ"),
  ('\u0328', "AĄaąEĘeęIĮiįUŲuųOǪoǫ"),
  ('\u032d', "DḒdḓEḘeḙLḼlḽNṊnṋTṰtṱUṶuṷ"),
  ('\u032e', "HḪhḫ"),
  ('\u0330', "EḚeḛIḬiḭUṴuṵ"),
  ('\u0331', "BḆbḇDḎdḏKḴkḵLḺlḻNṈnṉRṞrṟTṮtṯZẔzẕhẖ"),
  ('\u0338', "←↚→↛↔↮⇐⇍⇔⇎⇒⇏∃∄∈∉∋∌∣∤∥∦∼≁≃≄≅≇≈≉=≠≡≢≍≭<≮>≯≤≰≥≱≲≴≳≵≶≸≷≹≺⊀≻⊁⊂⊄⊃⊅⊆⊈⊇⊉⊢⊬⊨⊭⊩⊮"),
  ('\u0338', "⊫⊯≼⋠≽⋡⊑⋢⊒⋣⊲⋪⊳⋫⊴⋬⊵⋭"),
  ('\u0342', "ἀἆἁἇἈἎἉἏἠἦἡἧἨἮἩἯἰἶἱἷἸἾἹἿὐὖὑὗὙὟὠὦὡὧὨὮὩὯαᾶ¨῁ηῆ᾿῏ιῖϊῗ῾῟υῦϋῧωῶ"),
  ('\u0345', "ἀᾀἁᾁἂᾂἃᾃἄᾄἅᾅἆᾆἇᾇἈᾈἉᾉἊᾊἋᾋἌᾌἍᾍἎᾎἏᾏἠᾐἡᾑἢᾒἣᾓἤᾔἥᾕἦᾖἧᾗἨᾘἩᾙἪᾚἫᾛἬᾜἭᾝἮᾞἯᾟὠᾠὡᾡὢᾢ"),
  ('\u0345', "ὣᾣὤᾤὥᾥὦᾦὧᾧὨᾨὩᾩὪᾪὫᾫὬᾬὭᾭὮᾮὯᾯὰᾲαᾳάᾴᾶᾷΑᾼὴῂηῃήῄῆῇΗῌὼῲωῳώῴῶῷΩῼ"),
  ('\u0653', "اآ"),
  ('\u0654', "اأوؤيئەۀہۂےۓ"),
  ('\u0655', "اإ"),
  ('\u093c', "नऩरऱळऴ"),
  ('\u09be', "\u09c7\u09cb"),
  ('\u09d7', "\u09c7\u09cc"),
  ('\u0b3e', "\u0b47\u0b4b"),
  ('\u0b56', "\u0b47\u0b48"),
  ('\u0b57', "\u0b47\u0b4c"),
  ('\u0bbe', "\u0bc6\u0bca\u0bc7\u0bcb"),
  ('\u0bd7', "ஒஔ\u0bc6\u0bcc"),
  ('\u0c56', "\u0c46\u0c48"),
  ('\u0cc2', "\u0cc6\u0cca"),
  ('\u0cd5', "\u0cbf\u0cc0\u0cc6\u0cc7\u0cca\u0ccb"),
  ('\u0cd6', "\u0cc6\u0cc8"),
  ('\u0d3e', "\u0d46\u0d4a\u0d47\u0d4b"),
  ('\u0d57', "\u0d46\u0d4c"),
  ('\u0dca', "\u0dd9\u0dda\u0ddc\u0ddd"),
  ('\u0dcf', "\u0dd9\u0ddc"),
  ('\u0ddf', "\u0dd9\u0dde"),
  ('\u102e', "ဥဦ"),
  ('\u1b35', "ᬅᬆᬇᬈᬉᬊᬋᬌᬍᬎᬑᬒ\u1b3a\u1b3b\u1b3c\u1b3d\u1b3e\u1b40\u1b3f\u1b41"),
  ('\u1b35', "\u1b42\u1b43"),
  ('\u3099', "かがきぎくぐけげこごさざしじすずせぜそぞただちぢつづてでとどはばひびふぶへべほぼうゔゝゞカガキギクグケゲコゴサザシジスズセゼソゾタダチヂツヅ"),
  ('\u3099', "テデトドハバヒビフブヘベホボウヴワヷヰヸヱヹヲヺヽヾ"),
  ('\u309a', "はぱひぴふぷへぺほぽハパヒピフプヘペホポ"),
  ('𑂺', "𑂙𑂚𑂛𑂜𑂥𑂫"),
  ('𑄧', "𑄱𑄮𑄲𑄯"),
  ('𑌾', "𑍇𑍋"),
  ('𑍗', "𑍇𑍌"),
  ('𑎸', "𑏅𑎸"),
  ('𑎻', "𑎄𑎅"),
  ('𑏂', "𑎋𑎎𑏅𑏂"),
  ('𑏉', "𑎂𑎃𑎐𑎑𑏅𑏉"),
  ('𑒰', "𑒹𑒼"),
  ('𑒺', "𑒹𑒻"),
  ('𑒽', "𑒹𑒾"),
  ('𑖯', "𑖸𑖺𑖹𑖻"),
  ('𑤰', "𑤵𑤸"),
  ('𖄞', "𖄡𖄞"),
  ('𖄟', "𖄦𖄩𖄤𖄡𖄦𖄢𖄧"),
  ('𖄠', "𖄨𖄡𖄨"),
  ('𖄩', "𖄡𖄩"),
  ('𖵧', "𖵨𖵧𖵣𖵩𖵩𖵪")]

def primaryComposite? (first second : Char) : Option Char :=
  composites.findSome? fun row => if row.1 = second then go row.2.toList else none
where
  go : List Char → Option Char
    | base :: composed :: rest => if base = first then some composed else go rest
    | _ => none

def canonicalPair? (c : Char) : Option (Char × Char) :=
  composites.findSome? fun row => (go row.2.toList).map (·, row.1)
where
  go : List Char → Option Char
    | base :: composed :: rest => if composed = c then some base else go rest
    | _ => none

end ForwardProxy.Unicode
