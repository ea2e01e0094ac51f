import ExprLang.Text.CharClass

/-!
# ExprLang.RegExp.CharSet.Script

The script each character belongs to and the scripts it is used in, by Unicode 16.0, with the names
of the scripts as patterns may write them.
-/

namespace ExprLang

/-- The names of each script, without case, blanks and underscores; a script is its place here. -/
def scriptNames : List (List String) := [
  ["common", "zyyy"], ["latin", "latn"], ["bopo", "bopomofo"], ["inherited", "qaai", "zinh"],
  ["greek", "grek"], ["copt", "coptic", "qaac"], ["cyrillic", "cyrl"], ["armenian", "armn"],
  ["hebr", "hebrew"], ["arab", "arabic"], ["syrc", "syriac"], ["thaa", "thaana"], ["nko", "nkoo"],
  ["samaritan", "samr"], ["mand", "mandaic"], ["deva", "devanagari"], ["beng", "bengali"],
  ["gurmukhi", "guru"], ["gujarati", "gujr"], ["oriya", "orya"], ["tamil", "taml"],
  ["telu", "telugu"], ["kannada", "knda"], ["malayalam", "mlym"], ["sinh", "sinhala"], ["thai"],
  ["lao", "laoo"], ["tibetan", "tibt"], ["myanmar", "mymr"], ["geor", "georgian"],
  ["hang", "hangul"], ["ethi", "ethiopic"], ["cher", "cherokee"], ["canadianaboriginal", "cans"],
  ["ogam", "ogham"], ["runic", "runr"], ["tagalog", "tglg"], ["hano", "hanunoo"],
  ["buhd", "buhid"], ["tagb", "tagbanwa"], ["khmer", "khmr"], ["mong", "mongolian"],
  ["limb", "limbu"], ["taile", "tale"], ["newtailue", "talu"], ["bugi", "buginese"],
  ["lana", "taitham"], ["bali", "balinese"], ["sund", "sundanese"], ["batak", "batk"],
  ["lepc", "lepcha"], ["olchiki", "olck"], ["brai", "braille"], ["glag", "glagolitic"],
  ["tfng", "tifinagh"], ["han", "hani"], ["hira", "hiragana"], ["kana", "katakana"],
  ["yi", "yiii"], ["lisu"], ["vai", "vaii"], ["bamu", "bamum"], ["sylo", "sylotinagri"],
  ["phag", "phagspa"], ["saur", "saurashtra"], ["kali", "kayahli"], ["rejang", "rjng"],
  ["java", "javanese"], ["cham"], ["taiviet", "tavt"], ["meeteimayek", "mtei"],
  ["linb", "linearb"], ["lyci", "lycian"], ["cari", "carian"], ["ital", "olditalic"],
  ["goth", "gothic"], ["oldpermic", "perm"], ["ugar", "ugaritic"], ["oldpersian", "xpeo"],
  ["deseret", "dsrt"], ["shavian", "shaw"], ["osma", "osmanya"], ["osage", "osge"],
  ["elba", "elbasan"], ["aghb", "caucasianalbanian"], ["vith", "vithkuqi"], ["todhri", "todr"],
  ["lina", "lineara"], ["cprt", "cypriot"], ["armi", "imperialaramaic"], ["palm", "palmyrene"],
  ["nabataean", "nbat"], ["hatr", "hatran"], ["phnx", "phoenician"], ["lydi", "lydian"],
  ["mero", "meroitichieroglyphs"], ["merc", "meroiticcursive"], ["khar", "kharoshthi"],
  ["oldsoutharabian", "sarb"], ["narb", "oldnortharabian"], ["mani", "manichaean"],
  ["avestan", "avst"], ["inscriptionalparthian", "prti"], ["inscriptionalpahlavi", "phli"],
  ["phlp", "psalterpahlavi"], ["oldturkic", "orkh"], ["hung", "oldhungarian"],
  ["hanifirohingya", "rohg"], ["gara", "garay"], ["yezi", "yezidi"], ["oldsogdian", "sogo"],
  ["sogd", "sogdian"], ["olduyghur", "ougr"], ["chorasmian", "chrs"], ["elym", "elymaic"],
  ["brah", "brahmi"], ["kaithi", "kthi"], ["sora", "sorasompeng"], ["cakm", "chakma"],
  ["mahajani", "mahj"], ["sharada", "shrd"], ["khoj", "khojki"], ["mult", "multani"],
  ["khudawadi", "sind"], ["gran", "grantha"], ["tulutigalari", "tutg"], ["newa"],
  ["tirh", "tirhuta"], ["sidd", "siddham"], ["modi"], ["takr", "takri"], ["ahom"],
  ["dogr", "dogra"], ["wara", "warangciti"], ["diak", "divesakuru"], ["nand", "nandinagari"],
  ["zanabazarsquare", "zanb"], ["soyo", "soyombo"], ["pauc", "paucinhau"], ["sunu", "sunuwar"],
  ["bhaiksuki", "bhks"], ["marc", "marchen"], ["gonm", "masaramgondi"], ["gong", "gunjalagondi"],
  ["maka", "makasar"], ["kawi"], ["cuneiform", "xsux"], ["cpmn", "cyprominoan"],
  ["egyp", "egyptianhieroglyphs"], ["anatolianhieroglyphs", "hluw"], ["gukh", "gurungkhema"],
  ["mro", "mroo"], ["tangsa", "tnsa"], ["bass", "bassavah"], ["hmng", "pahawhhmong"],
  ["kiratrai", "krai"], ["medefaidrin", "medf"], ["miao", "plrd"], ["tang", "tangut"],
  ["nshu", "nushu"], ["khitansmallscript", "kits"], ["dupl", "duployan"], ["sgnw", "signwriting"],
  ["hmnp", "nyiakengpuachuehmong"], ["toto"], ["wancho", "wcho"], ["nagm", "nagmundari"],
  ["olonal", "onao"], ["mend", "mendekikakui"], ["adlam", "adlm"]]

set_option maxRecDepth 20000 in
/-- Runs of characters of one script: the first character of each, and the script counted from one;
zero stands for no script. -/
def scriptRuns : Array (Nat × Nat) := #[
  (0x0, 1), (0x41, 2), (0x5B, 1), (0x61, 2), (0x7B, 1), (0xAA, 2), (0xAB, 1), (0xBA, 2),
  (0xBB, 1), (0xC0, 2), (0xD7, 1), (0xD8, 2), (0xF7, 1), (0xF8, 2), (0x2B9, 1), (0x2E0, 2),
  (0x2E5, 1), (0x2EA, 3), (0x2EC, 1), (0x300, 4), (0x370, 5), (0x374, 1), (0x375, 5), (0x378, 0),
  (0x37A, 5), (0x37E, 1), (0x37F, 5), (0x380, 0), (0x384, 5), (0x385, 1), (0x386, 5), (0x387, 1),
  (0x388, 5), (0x38B, 0), (0x38C, 5), (0x38D, 0), (0x38E, 5), (0x3A2, 0), (0x3A3, 5), (0x3E2, 6),
  (0x3F0, 5), (0x400, 7), (0x485, 4), (0x487, 7), (0x530, 0), (0x531, 8), (0x557, 0), (0x559, 8),
  (0x58B, 0), (0x58D, 8), (0x590, 0), (0x591, 9), (0x5C8, 0), (0x5D0, 9), (0x5EB, 0), (0x5EF, 9),
  (0x5F5, 0), (0x600, 10), (0x605, 1), (0x606, 10), (0x60C, 1), (0x60D, 10), (0x61B, 1),
  (0x61C, 10), (0x61F, 1), (0x620, 10), (0x640, 1), (0x641, 10), (0x64B, 4), (0x656, 10),
  (0x670, 4), (0x671, 10), (0x6DD, 1), (0x6DE, 10), (0x700, 11), (0x70E, 0), (0x70F, 11),
  (0x74B, 0), (0x74D, 11), (0x750, 10), (0x780, 12), (0x7B2, 0), (0x7C0, 13), (0x7FB, 0),
  (0x7FD, 13), (0x800, 14), (0x82E, 0), (0x830, 14), (0x83F, 0), (0x840, 15), (0x85C, 0),
  (0x85E, 15), (0x85F, 0), (0x860, 11), (0x86B, 0), (0x870, 10), (0x88F, 0), (0x890, 10),
  (0x892, 0), (0x897, 10), (0x8E2, 1), (0x8E3, 10), (0x900, 16), (0x951, 4), (0x955, 16),
  (0x964, 1), (0x966, 16), (0x980, 17), (0x984, 0), (0x985, 17), (0x98D, 0), (0x98F, 17),
  (0x991, 0), (0x993, 17), (0x9A9, 0), (0x9AA, 17), (0x9B1, 0), (0x9B2, 17), (0x9B3, 0),
  (0x9B6, 17), (0x9BA, 0), (0x9BC, 17), (0x9C5, 0), (0x9C7, 17), (0x9C9, 0), (0x9CB, 17),
  (0x9CF, 0), (0x9D7, 17), (0x9D8, 0), (0x9DC, 17), (0x9DE, 0), (0x9DF, 17), (0x9E4, 0),
  (0x9E6, 17), (0x9FF, 0), (0xA01, 18), (0xA04, 0), (0xA05, 18), (0xA0B, 0), (0xA0F, 18),
  (0xA11, 0), (0xA13, 18), (0xA29, 0), (0xA2A, 18), (0xA31, 0), (0xA32, 18), (0xA34, 0),
  (0xA35, 18), (0xA37, 0), (0xA38, 18), (0xA3A, 0), (0xA3C, 18), (0xA3D, 0), (0xA3E, 18),
  (0xA43, 0), (0xA47, 18), (0xA49, 0), (0xA4B, 18), (0xA4E, 0), (0xA51, 18), (0xA52, 0),
  (0xA59, 18), (0xA5D, 0), (0xA5E, 18), (0xA5F, 0), (0xA66, 18), (0xA77, 0), (0xA81, 19),
  (0xA84, 0), (0xA85, 19), (0xA8E, 0), (0xA8F, 19), (0xA92, 0), (0xA93, 19), (0xAA9, 0),
  (0xAAA, 19), (0xAB1, 0), (0xAB2, 19), (0xAB4, 0), (0xAB5, 19), (0xABA, 0), (0xABC, 19),
  (0xAC6, 0), (0xAC7, 19), (0xACA, 0), (0xACB, 19), (0xACE, 0), (0xAD0, 19), (0xAD1, 0),
  (0xAE0, 19), (0xAE4, 0), (0xAE6, 19), (0xAF2, 0), (0xAF9, 19), (0xB00, 0), (0xB01, 20),
  (0xB04, 0), (0xB05, 20), (0xB0D, 0), (0xB0F, 20), (0xB11, 0), (0xB13, 20), (0xB29, 0),
  (0xB2A, 20), (0xB31, 0), (0xB32, 20), (0xB34, 0), (0xB35, 20), (0xB3A, 0), (0xB3C, 20),
  (0xB45, 0), (0xB47, 20), (0xB49, 0), (0xB4B, 20), (0xB4E, 0), (0xB55, 20), (0xB58, 0),
  (0xB5C, 20), (0xB5E, 0), (0xB5F, 20), (0xB64, 0), (0xB66, 20), (0xB78, 0), (0xB82, 21),
  (0xB84, 0), (0xB85, 21), (0xB8B, 0), (0xB8E, 21), (0xB91, 0), (0xB92, 21), (0xB96, 0),
  (0xB99, 21), (0xB9B, 0), (0xB9C, 21), (0xB9D, 0), (0xB9E, 21), (0xBA0, 0), (0xBA3, 21),
  (0xBA5, 0), (0xBA8, 21), (0xBAB, 0), (0xBAE, 21), (0xBBA, 0), (0xBBE, 21), (0xBC3, 0),
  (0xBC6, 21), (0xBC9, 0), (0xBCA, 21), (0xBCE, 0), (0xBD0, 21), (0xBD1, 0), (0xBD7, 21),
  (0xBD8, 0), (0xBE6, 21), (0xBFB, 0), (0xC00, 22), (0xC0D, 0), (0xC0E, 22), (0xC11, 0),
  (0xC12, 22), (0xC29, 0), (0xC2A, 22), (0xC3A, 0), (0xC3C, 22), (0xC45, 0), (0xC46, 22),
  (0xC49, 0), (0xC4A, 22), (0xC4E, 0), (0xC55, 22), (0xC57, 0), (0xC58, 22), (0xC5B, 0),
  (0xC5D, 22), (0xC5E, 0), (0xC60, 22), (0xC64, 0), (0xC66, 22), (0xC70, 0), (0xC77, 22),
  (0xC80, 23), (0xC8D, 0), (0xC8E, 23), (0xC91, 0), (0xC92, 23), (0xCA9, 0), (0xCAA, 23),
  (0xCB4, 0), (0xCB5, 23), (0xCBA, 0), (0xCBC, 23), (0xCC5, 0), (0xCC6, 23), (0xCC9, 0),
  (0xCCA, 23), (0xCCE, 0), (0xCD5, 23), (0xCD7, 0), (0xCDD, 23), (0xCDF, 0), (0xCE0, 23),
  (0xCE4, 0), (0xCE6, 23), (0xCF0, 0), (0xCF1, 23), (0xCF4, 0), (0xD00, 24), (0xD0D, 0),
  (0xD0E, 24), (0xD11, 0), (0xD12, 24), (0xD45, 0), (0xD46, 24), (0xD49, 0), (0xD4A, 24),
  (0xD50, 0), (0xD54, 24), (0xD64, 0), (0xD66, 24), (0xD80, 0), (0xD81, 25), (0xD84, 0),
  (0xD85, 25), (0xD97, 0), (0xD9A, 25), (0xDB2, 0), (0xDB3, 25), (0xDBC, 0), (0xDBD, 25),
  (0xDBE, 0), (0xDC0, 25), (0xDC7, 0), (0xDCA, 25), (0xDCB, 0), (0xDCF, 25), (0xDD5, 0),
  (0xDD6, 25), (0xDD7, 0), (0xDD8, 25), (0xDE0, 0), (0xDE6, 25), (0xDF0, 0), (0xDF2, 25),
  (0xDF5, 0), (0xE01, 26), (0xE3B, 0), (0xE3F, 1), (0xE40, 26), (0xE5C, 0), (0xE81, 27),
  (0xE83, 0), (0xE84, 27), (0xE85, 0), (0xE86, 27), (0xE8B, 0), (0xE8C, 27), (0xEA4, 0),
  (0xEA5, 27), (0xEA6, 0), (0xEA7, 27), (0xEBE, 0), (0xEC0, 27), (0xEC5, 0), (0xEC6, 27),
  (0xEC7, 0), (0xEC8, 27), (0xECF, 0), (0xED0, 27), (0xEDA, 0), (0xEDC, 27), (0xEE0, 0),
  (0xF00, 28), (0xF48, 0), (0xF49, 28), (0xF6D, 0), (0xF71, 28), (0xF98, 0), (0xF99, 28),
  (0xFBD, 0), (0xFBE, 28), (0xFCD, 0), (0xFCE, 28), (0xFD5, 1), (0xFD9, 28), (0xFDB, 0),
  (0x1000, 29), (0x10A0, 30), (0x10C6, 0), (0x10C7, 30), (0x10C8, 0), (0x10CD, 30), (0x10CE, 0),
  (0x10D0, 30), (0x10FB, 1), (0x10FC, 30), (0x1100, 31), (0x1200, 32), (0x1249, 0), (0x124A, 32),
  (0x124E, 0), (0x1250, 32), (0x1257, 0), (0x1258, 32), (0x1259, 0), (0x125A, 32), (0x125E, 0),
  (0x1260, 32), (0x1289, 0), (0x128A, 32), (0x128E, 0), (0x1290, 32), (0x12B1, 0), (0x12B2, 32),
  (0x12B6, 0), (0x12B8, 32), (0x12BF, 0), (0x12C0, 32), (0x12C1, 0), (0x12C2, 32), (0x12C6, 0),
  (0x12C8, 32), (0x12D7, 0), (0x12D8, 32), (0x1311, 0), (0x1312, 32), (0x1316, 0), (0x1318, 32),
  (0x135B, 0), (0x135D, 32), (0x137D, 0), (0x1380, 32), (0x139A, 0), (0x13A0, 33), (0x13F6, 0),
  (0x13F8, 33), (0x13FE, 0), (0x1400, 34), (0x1680, 35), (0x169D, 0), (0x16A0, 36), (0x16EB, 1),
  (0x16EE, 36), (0x16F9, 0), (0x1700, 37), (0x1716, 0), (0x171F, 37), (0x1720, 38), (0x1735, 1),
  (0x1737, 0), (0x1740, 39), (0x1754, 0), (0x1760, 40), (0x176D, 0), (0x176E, 40), (0x1771, 0),
  (0x1772, 40), (0x1774, 0), (0x1780, 41), (0x17DE, 0), (0x17E0, 41), (0x17EA, 0), (0x17F0, 41),
  (0x17FA, 0), (0x1800, 42), (0x1802, 1), (0x1804, 42), (0x1805, 1), (0x1806, 42), (0x181A, 0),
  (0x1820, 42), (0x1879, 0), (0x1880, 42), (0x18AB, 0), (0x18B0, 34), (0x18F6, 0), (0x1900, 43),
  (0x191F, 0), (0x1920, 43), (0x192C, 0), (0x1930, 43), (0x193C, 0), (0x1940, 43), (0x1941, 0),
  (0x1944, 43), (0x1950, 44), (0x196E, 0), (0x1970, 44), (0x1975, 0), (0x1980, 45), (0x19AC, 0),
  (0x19B0, 45), (0x19CA, 0), (0x19D0, 45), (0x19DB, 0), (0x19DE, 45), (0x19E0, 41), (0x1A00, 46),
  (0x1A1C, 0), (0x1A1E, 46), (0x1A20, 47), (0x1A5F, 0), (0x1A60, 47), (0x1A7D, 0), (0x1A7F, 47),
  (0x1A8A, 0), (0x1A90, 47), (0x1A9A, 0), (0x1AA0, 47), (0x1AAE, 0), (0x1AB0, 4), (0x1ACF, 0),
  (0x1B00, 48), (0x1B4D, 0), (0x1B4E, 48), (0x1B80, 49), (0x1BC0, 50), (0x1BF4, 0), (0x1BFC, 50),
  (0x1C00, 51), (0x1C38, 0), (0x1C3B, 51), (0x1C4A, 0), (0x1C4D, 51), (0x1C50, 52), (0x1C80, 7),
  (0x1C8B, 0), (0x1C90, 30), (0x1CBB, 0), (0x1CBD, 30), (0x1CC0, 49), (0x1CC8, 0), (0x1CD0, 4),
  (0x1CD3, 1), (0x1CD4, 4), (0x1CE1, 1), (0x1CE2, 4), (0x1CE9, 1), (0x1CED, 4), (0x1CEE, 1),
  (0x1CF4, 4), (0x1CF5, 1), (0x1CF8, 4), (0x1CFA, 1), (0x1CFB, 0), (0x1D00, 2), (0x1D26, 5),
  (0x1D2B, 7), (0x1D2C, 2), (0x1D5D, 5), (0x1D62, 2), (0x1D66, 5), (0x1D6B, 2), (0x1D78, 7),
  (0x1D79, 2), (0x1DBF, 5), (0x1DC0, 4), (0x1E00, 2), (0x1F00, 5), (0x1F16, 0), (0x1F18, 5),
  (0x1F1E, 0), (0x1F20, 5), (0x1F46, 0), (0x1F48, 5), (0x1F4E, 0), (0x1F50, 5), (0x1F58, 0),
  (0x1F59, 5), (0x1F5A, 0), (0x1F5B, 5), (0x1F5C, 0), (0x1F5D, 5), (0x1F5E, 0), (0x1F5F, 5),
  (0x1F7E, 0), (0x1F80, 5), (0x1FB5, 0), (0x1FB6, 5), (0x1FC5, 0), (0x1FC6, 5), (0x1FD4, 0),
  (0x1FD6, 5), (0x1FDC, 0), (0x1FDD, 5), (0x1FF0, 0), (0x1FF2, 5), (0x1FF5, 0), (0x1FF6, 5),
  (0x1FFF, 0), (0x2000, 1), (0x200C, 4), (0x200E, 1), (0x2065, 0), (0x2066, 1), (0x2071, 2),
  (0x2072, 0), (0x2074, 1), (0x207F, 2), (0x2080, 1), (0x208F, 0), (0x2090, 2), (0x209D, 0),
  (0x20A0, 1), (0x20C1, 0), (0x20D0, 4), (0x20F1, 0), (0x2100, 1), (0x2126, 5), (0x2127, 1),
  (0x212A, 2), (0x212C, 1), (0x2132, 2), (0x2133, 1), (0x214E, 2), (0x214F, 1), (0x2160, 2),
  (0x2189, 1), (0x218C, 0), (0x2190, 1), (0x242A, 0), (0x2440, 1), (0x244B, 0), (0x2460, 1),
  (0x2800, 53), (0x2900, 1), (0x2B74, 0), (0x2B76, 1), (0x2B96, 0), (0x2B97, 1), (0x2C00, 54),
  (0x2C60, 2), (0x2C80, 6), (0x2CF4, 0), (0x2CF9, 6), (0x2D00, 30), (0x2D26, 0), (0x2D27, 30),
  (0x2D28, 0), (0x2D2D, 30), (0x2D2E, 0), (0x2D30, 55), (0x2D68, 0), (0x2D6F, 55), (0x2D71, 0),
  (0x2D7F, 55), (0x2D80, 32), (0x2D97, 0), (0x2DA0, 32), (0x2DA7, 0), (0x2DA8, 32), (0x2DAF, 0),
  (0x2DB0, 32), (0x2DB7, 0), (0x2DB8, 32), (0x2DBF, 0), (0x2DC0, 32), (0x2DC7, 0), (0x2DC8, 32),
  (0x2DCF, 0), (0x2DD0, 32), (0x2DD7, 0), (0x2DD8, 32), (0x2DDF, 0), (0x2DE0, 7), (0x2E00, 1),
  (0x2E5E, 0), (0x2E80, 56), (0x2E9A, 0), (0x2E9B, 56), (0x2EF4, 0), (0x2F00, 56), (0x2FD6, 0),
  (0x2FF0, 1), (0x3005, 56), (0x3006, 1), (0x3007, 56), (0x3008, 1), (0x3021, 56), (0x302A, 4),
  (0x302E, 31), (0x3030, 1), (0x3038, 56), (0x303C, 1), (0x3040, 0), (0x3041, 57), (0x3097, 0),
  (0x3099, 4), (0x309B, 1), (0x309D, 57), (0x30A0, 1), (0x30A1, 58), (0x30FB, 1), (0x30FD, 58),
  (0x3100, 0), (0x3105, 3), (0x3130, 0), (0x3131, 31), (0x318F, 0), (0x3190, 1), (0x31A0, 3),
  (0x31C0, 1), (0x31E6, 0), (0x31EF, 1), (0x31F0, 58), (0x3200, 31), (0x321F, 0), (0x3220, 1),
  (0x3260, 31), (0x327F, 1), (0x32D0, 58), (0x32FF, 1), (0x3300, 58), (0x3358, 1), (0x3400, 56),
  (0x4DC0, 1), (0x4E00, 56), (0xA000, 59), (0xA48D, 0), (0xA490, 59), (0xA4C7, 0), (0xA4D0, 60),
  (0xA500, 61), (0xA62C, 0), (0xA640, 7), (0xA6A0, 62), (0xA6F8, 0), (0xA700, 1), (0xA722, 2),
  (0xA788, 1), (0xA78B, 2), (0xA7CE, 0), (0xA7D0, 2), (0xA7D2, 0), (0xA7D3, 2), (0xA7D4, 0),
  (0xA7D5, 2), (0xA7DD, 0), (0xA7F2, 2), (0xA800, 63), (0xA82D, 0), (0xA830, 1), (0xA83A, 0),
  (0xA840, 64), (0xA878, 0), (0xA880, 65), (0xA8C6, 0), (0xA8CE, 65), (0xA8DA, 0), (0xA8E0, 16),
  (0xA900, 66), (0xA92E, 1), (0xA92F, 66), (0xA930, 67), (0xA954, 0), (0xA95F, 67), (0xA960, 31),
  (0xA97D, 0), (0xA980, 68), (0xA9CE, 0), (0xA9CF, 1), (0xA9D0, 68), (0xA9DA, 0), (0xA9DE, 68),
  (0xA9E0, 29), (0xA9FF, 0), (0xAA00, 69), (0xAA37, 0), (0xAA40, 69), (0xAA4E, 0), (0xAA50, 69),
  (0xAA5A, 0), (0xAA5C, 69), (0xAA60, 29), (0xAA80, 70), (0xAAC3, 0), (0xAADB, 70), (0xAAE0, 71),
  (0xAAF7, 0), (0xAB01, 32), (0xAB07, 0), (0xAB09, 32), (0xAB0F, 0), (0xAB11, 32), (0xAB17, 0),
  (0xAB20, 32), (0xAB27, 0), (0xAB28, 32), (0xAB2F, 0), (0xAB30, 2), (0xAB5B, 1), (0xAB5C, 2),
  (0xAB65, 5), (0xAB66, 2), (0xAB6A, 1), (0xAB6C, 0), (0xAB70, 33), (0xABC0, 71), (0xABEE, 0),
  (0xABF0, 71), (0xABFA, 0), (0xAC00, 31), (0xD7A4, 0), (0xD7B0, 31), (0xD7C7, 0), (0xD7CB, 31),
  (0xD7FC, 0), (0xF900, 56), (0xFA6E, 0), (0xFA70, 56), (0xFADA, 0), (0xFB00, 2), (0xFB07, 0),
  (0xFB13, 8), (0xFB18, 0), (0xFB1D, 9), (0xFB37, 0), (0xFB38, 9), (0xFB3D, 0), (0xFB3E, 9),
  (0xFB3F, 0), (0xFB40, 9), (0xFB42, 0), (0xFB43, 9), (0xFB45, 0), (0xFB46, 9), (0xFB50, 10),
  (0xFBC3, 0), (0xFBD3, 10), (0xFD3E, 1), (0xFD40, 10), (0xFD90, 0), (0xFD92, 10), (0xFDC8, 0),
  (0xFDCF, 10), (0xFDD0, 0), (0xFDF0, 10), (0xFE00, 4), (0xFE10, 1), (0xFE1A, 0), (0xFE20, 4),
  (0xFE2E, 7), (0xFE30, 1), (0xFE53, 0), (0xFE54, 1), (0xFE67, 0), (0xFE68, 1), (0xFE6C, 0),
  (0xFE70, 10), (0xFE75, 0), (0xFE76, 10), (0xFEFD, 0), (0xFEFF, 1), (0xFF00, 0), (0xFF01, 1),
  (0xFF21, 2), (0xFF3B, 1), (0xFF41, 2), (0xFF5B, 1), (0xFF66, 58), (0xFF70, 1), (0xFF71, 58),
  (0xFF9E, 1), (0xFFA0, 31), (0xFFBF, 0), (0xFFC2, 31), (0xFFC8, 0), (0xFFCA, 31), (0xFFD0, 0),
  (0xFFD2, 31), (0xFFD8, 0), (0xFFDA, 31), (0xFFDD, 0), (0xFFE0, 1), (0xFFE7, 0), (0xFFE8, 1),
  (0xFFEF, 0), (0xFFF9, 1), (0xFFFE, 0), (0x10000, 72), (0x1000C, 0), (0x1000D, 72), (0x10027, 0),
  (0x10028, 72), (0x1003B, 0), (0x1003C, 72), (0x1003E, 0), (0x1003F, 72), (0x1004E, 0),
  (0x10050, 72), (0x1005E, 0), (0x10080, 72), (0x100FB, 0), (0x10100, 1), (0x10103, 0),
  (0x10107, 1), (0x10134, 0), (0x10137, 1), (0x10140, 5), (0x1018F, 0), (0x10190, 1),
  (0x1019D, 0), (0x101A0, 5), (0x101A1, 0), (0x101D0, 1), (0x101FD, 4), (0x101FE, 0),
  (0x10280, 73), (0x1029D, 0), (0x102A0, 74), (0x102D1, 0), (0x102E0, 4), (0x102E1, 1),
  (0x102FC, 0), (0x10300, 75), (0x10324, 0), (0x1032D, 75), (0x10330, 76), (0x1034B, 0),
  (0x10350, 77), (0x1037B, 0), (0x10380, 78), (0x1039E, 0), (0x1039F, 78), (0x103A0, 79),
  (0x103C4, 0), (0x103C8, 79), (0x103D6, 0), (0x10400, 80), (0x10450, 81), (0x10480, 82),
  (0x1049E, 0), (0x104A0, 82), (0x104AA, 0), (0x104B0, 83), (0x104D4, 0), (0x104D8, 83),
  (0x104FC, 0), (0x10500, 84), (0x10528, 0), (0x10530, 85), (0x10564, 0), (0x1056F, 85),
  (0x10570, 86), (0x1057B, 0), (0x1057C, 86), (0x1058B, 0), (0x1058C, 86), (0x10593, 0),
  (0x10594, 86), (0x10596, 0), (0x10597, 86), (0x105A2, 0), (0x105A3, 86), (0x105B2, 0),
  (0x105B3, 86), (0x105BA, 0), (0x105BB, 86), (0x105BD, 0), (0x105C0, 87), (0x105F4, 0),
  (0x10600, 88), (0x10737, 0), (0x10740, 88), (0x10756, 0), (0x10760, 88), (0x10768, 0),
  (0x10780, 2), (0x10786, 0), (0x10787, 2), (0x107B1, 0), (0x107B2, 2), (0x107BB, 0),
  (0x10800, 89), (0x10806, 0), (0x10808, 89), (0x10809, 0), (0x1080A, 89), (0x10836, 0),
  (0x10837, 89), (0x10839, 0), (0x1083C, 89), (0x1083D, 0), (0x1083F, 89), (0x10840, 90),
  (0x10856, 0), (0x10857, 90), (0x10860, 91), (0x10880, 92), (0x1089F, 0), (0x108A7, 92),
  (0x108B0, 0), (0x108E0, 93), (0x108F3, 0), (0x108F4, 93), (0x108F6, 0), (0x108FB, 93),
  (0x10900, 94), (0x1091C, 0), (0x1091F, 94), (0x10920, 95), (0x1093A, 0), (0x1093F, 95),
  (0x10940, 0), (0x10980, 96), (0x109A0, 97), (0x109B8, 0), (0x109BC, 97), (0x109D0, 0),
  (0x109D2, 97), (0x10A00, 98), (0x10A04, 0), (0x10A05, 98), (0x10A07, 0), (0x10A0C, 98),
  (0x10A14, 0), (0x10A15, 98), (0x10A18, 0), (0x10A19, 98), (0x10A36, 0), (0x10A38, 98),
  (0x10A3B, 0), (0x10A3F, 98), (0x10A49, 0), (0x10A50, 98), (0x10A59, 0), (0x10A60, 99),
  (0x10A80, 100), (0x10AA0, 0), (0x10AC0, 101), (0x10AE7, 0), (0x10AEB, 101), (0x10AF7, 0),
  (0x10B00, 102), (0x10B36, 0), (0x10B39, 102), (0x10B40, 103), (0x10B56, 0), (0x10B58, 103),
  (0x10B60, 104), (0x10B73, 0), (0x10B78, 104), (0x10B80, 105), (0x10B92, 0), (0x10B99, 105),
  (0x10B9D, 0), (0x10BA9, 105), (0x10BB0, 0), (0x10C00, 106), (0x10C49, 0), (0x10C80, 107),
  (0x10CB3, 0), (0x10CC0, 107), (0x10CF3, 0), (0x10CFA, 107), (0x10D00, 108), (0x10D28, 0),
  (0x10D30, 108), (0x10D3A, 0), (0x10D40, 109), (0x10D66, 0), (0x10D69, 109), (0x10D86, 0),
  (0x10D8E, 109), (0x10D90, 0), (0x10E60, 10), (0x10E7F, 0), (0x10E80, 110), (0x10EAA, 0),
  (0x10EAB, 110), (0x10EAE, 0), (0x10EB0, 110), (0x10EB2, 0), (0x10EC2, 10), (0x10EC5, 0),
  (0x10EFC, 10), (0x10F00, 111), (0x10F28, 0), (0x10F30, 112), (0x10F5A, 0), (0x10F70, 113),
  (0x10F8A, 0), (0x10FB0, 114), (0x10FCC, 0), (0x10FE0, 115), (0x10FF7, 0), (0x11000, 116),
  (0x1104E, 0), (0x11052, 116), (0x11076, 0), (0x1107F, 116), (0x11080, 117), (0x110C3, 0),
  (0x110CD, 117), (0x110CE, 0), (0x110D0, 118), (0x110E9, 0), (0x110F0, 118), (0x110FA, 0),
  (0x11100, 119), (0x11135, 0), (0x11136, 119), (0x11148, 0), (0x11150, 120), (0x11177, 0),
  (0x11180, 121), (0x111E0, 0), (0x111E1, 25), (0x111F5, 0), (0x11200, 122), (0x11212, 0),
  (0x11213, 122), (0x11242, 0), (0x11280, 123), (0x11287, 0), (0x11288, 123), (0x11289, 0),
  (0x1128A, 123), (0x1128E, 0), (0x1128F, 123), (0x1129E, 0), (0x1129F, 123), (0x112AA, 0),
  (0x112B0, 124), (0x112EB, 0), (0x112F0, 124), (0x112FA, 0), (0x11300, 125), (0x11304, 0),
  (0x11305, 125), (0x1130D, 0), (0x1130F, 125), (0x11311, 0), (0x11313, 125), (0x11329, 0),
  (0x1132A, 125), (0x11331, 0), (0x11332, 125), (0x11334, 0), (0x11335, 125), (0x1133A, 0),
  (0x1133B, 4), (0x1133C, 125), (0x11345, 0), (0x11347, 125), (0x11349, 0), (0x1134B, 125),
  (0x1134E, 0), (0x11350, 125), (0x11351, 0), (0x11357, 125), (0x11358, 0), (0x1135D, 125),
  (0x11364, 0), (0x11366, 125), (0x1136D, 0), (0x11370, 125), (0x11375, 0), (0x11380, 126),
  (0x1138A, 0), (0x1138B, 126), (0x1138C, 0), (0x1138E, 126), (0x1138F, 0), (0x11390, 126),
  (0x113B6, 0), (0x113B7, 126), (0x113C1, 0), (0x113C2, 126), (0x113C3, 0), (0x113C5, 126),
  (0x113C6, 0), (0x113C7, 126), (0x113CB, 0), (0x113CC, 126), (0x113D6, 0), (0x113D7, 126),
  (0x113D9, 0), (0x113E1, 126), (0x113E3, 0), (0x11400, 127), (0x1145C, 0), (0x1145D, 127),
  (0x11462, 0), (0x11480, 128), (0x114C8, 0), (0x114D0, 128), (0x114DA, 0), (0x11580, 129),
  (0x115B6, 0), (0x115B8, 129), (0x115DE, 0), (0x11600, 130), (0x11645, 0), (0x11650, 130),
  (0x1165A, 0), (0x11660, 42), (0x1166D, 0), (0x11680, 131), (0x116BA, 0), (0x116C0, 131),
  (0x116CA, 0), (0x116D0, 29), (0x116E4, 0), (0x11700, 132), (0x1171B, 0), (0x1171D, 132),
  (0x1172C, 0), (0x11730, 132), (0x11747, 0), (0x11800, 133), (0x1183C, 0), (0x118A0, 134),
  (0x118F3, 0), (0x118FF, 134), (0x11900, 135), (0x11907, 0), (0x11909, 135), (0x1190A, 0),
  (0x1190C, 135), (0x11914, 0), (0x11915, 135), (0x11917, 0), (0x11918, 135), (0x11936, 0),
  (0x11937, 135), (0x11939, 0), (0x1193B, 135), (0x11947, 0), (0x11950, 135), (0x1195A, 0),
  (0x119A0, 136), (0x119A8, 0), (0x119AA, 136), (0x119D8, 0), (0x119DA, 136), (0x119E5, 0),
  (0x11A00, 137), (0x11A48, 0), (0x11A50, 138), (0x11AA3, 0), (0x11AB0, 34), (0x11AC0, 139),
  (0x11AF9, 0), (0x11B00, 16), (0x11B0A, 0), (0x11BC0, 140), (0x11BE2, 0), (0x11BF0, 140),
  (0x11BFA, 0), (0x11C00, 141), (0x11C09, 0), (0x11C0A, 141), (0x11C37, 0), (0x11C38, 141),
  (0x11C46, 0), (0x11C50, 141), (0x11C6D, 0), (0x11C70, 142), (0x11C90, 0), (0x11C92, 142),
  (0x11CA8, 0), (0x11CA9, 142), (0x11CB7, 0), (0x11D00, 143), (0x11D07, 0), (0x11D08, 143),
  (0x11D0A, 0), (0x11D0B, 143), (0x11D37, 0), (0x11D3A, 143), (0x11D3B, 0), (0x11D3C, 143),
  (0x11D3E, 0), (0x11D3F, 143), (0x11D48, 0), (0x11D50, 143), (0x11D5A, 0), (0x11D60, 144),
  (0x11D66, 0), (0x11D67, 144), (0x11D69, 0), (0x11D6A, 144), (0x11D8F, 0), (0x11D90, 144),
  (0x11D92, 0), (0x11D93, 144), (0x11D99, 0), (0x11DA0, 144), (0x11DAA, 0), (0x11EE0, 145),
  (0x11EF9, 0), (0x11F00, 146), (0x11F11, 0), (0x11F12, 146), (0x11F3B, 0), (0x11F3E, 146),
  (0x11F5B, 0), (0x11FB0, 60), (0x11FB1, 0), (0x11FC0, 21), (0x11FF2, 0), (0x11FFF, 21),
  (0x12000, 147), (0x1239A, 0), (0x12400, 147), (0x1246F, 0), (0x12470, 147), (0x12475, 0),
  (0x12480, 147), (0x12544, 0), (0x12F90, 148), (0x12FF3, 0), (0x13000, 149), (0x13456, 0),
  (0x13460, 149), (0x143FB, 0), (0x14400, 150), (0x14647, 0), (0x16100, 151), (0x1613A, 0),
  (0x16800, 62), (0x16A39, 0), (0x16A40, 152), (0x16A5F, 0), (0x16A60, 152), (0x16A6A, 0),
  (0x16A6E, 152), (0x16A70, 153), (0x16ABF, 0), (0x16AC0, 153), (0x16ACA, 0), (0x16AD0, 154),
  (0x16AEE, 0), (0x16AF0, 154), (0x16AF6, 0), (0x16B00, 155), (0x16B46, 0), (0x16B50, 155),
  (0x16B5A, 0), (0x16B5B, 155), (0x16B62, 0), (0x16B63, 155), (0x16B78, 0), (0x16B7D, 155),
  (0x16B90, 0), (0x16D40, 156), (0x16D7A, 0), (0x16E40, 157), (0x16E9B, 0), (0x16F00, 158),
  (0x16F4B, 0), (0x16F4F, 158), (0x16F88, 0), (0x16F8F, 158), (0x16FA0, 0), (0x16FE0, 159),
  (0x16FE1, 160), (0x16FE2, 56), (0x16FE4, 161), (0x16FE5, 0), (0x16FF0, 56), (0x16FF2, 0),
  (0x17000, 159), (0x187F8, 0), (0x18800, 159), (0x18B00, 161), (0x18CD6, 0), (0x18CFF, 161),
  (0x18D00, 159), (0x18D09, 0), (0x1AFF0, 58), (0x1AFF4, 0), (0x1AFF5, 58), (0x1AFFC, 0),
  (0x1AFFD, 58), (0x1AFFF, 0), (0x1B000, 58), (0x1B001, 57), (0x1B120, 58), (0x1B123, 0),
  (0x1B132, 57), (0x1B133, 0), (0x1B150, 57), (0x1B153, 0), (0x1B155, 58), (0x1B156, 0),
  (0x1B164, 58), (0x1B168, 0), (0x1B170, 160), (0x1B2FC, 0), (0x1BC00, 162), (0x1BC6B, 0),
  (0x1BC70, 162), (0x1BC7D, 0), (0x1BC80, 162), (0x1BC89, 0), (0x1BC90, 162), (0x1BC9A, 0),
  (0x1BC9C, 162), (0x1BCA0, 1), (0x1BCA4, 0), (0x1CC00, 1), (0x1CCFA, 0), (0x1CD00, 1),
  (0x1CEB4, 0), (0x1CF00, 4), (0x1CF2E, 0), (0x1CF30, 4), (0x1CF47, 0), (0x1CF50, 1),
  (0x1CFC4, 0), (0x1D000, 1), (0x1D0F6, 0), (0x1D100, 1), (0x1D127, 0), (0x1D129, 1),
  (0x1D167, 4), (0x1D16A, 1), (0x1D17B, 4), (0x1D183, 1), (0x1D185, 4), (0x1D18C, 1),
  (0x1D1AA, 4), (0x1D1AE, 1), (0x1D1EB, 0), (0x1D200, 5), (0x1D246, 0), (0x1D2C0, 1),
  (0x1D2D4, 0), (0x1D2E0, 1), (0x1D2F4, 0), (0x1D300, 1), (0x1D357, 0), (0x1D360, 1),
  (0x1D379, 0), (0x1D400, 1), (0x1D455, 0), (0x1D456, 1), (0x1D49D, 0), (0x1D49E, 1),
  (0x1D4A0, 0), (0x1D4A2, 1), (0x1D4A3, 0), (0x1D4A5, 1), (0x1D4A7, 0), (0x1D4A9, 1),
  (0x1D4AD, 0), (0x1D4AE, 1), (0x1D4BA, 0), (0x1D4BB, 1), (0x1D4BC, 0), (0x1D4BD, 1),
  (0x1D4C4, 0), (0x1D4C5, 1), (0x1D506, 0), (0x1D507, 1), (0x1D50B, 0), (0x1D50D, 1),
  (0x1D515, 0), (0x1D516, 1), (0x1D51D, 0), (0x1D51E, 1), (0x1D53A, 0), (0x1D53B, 1),
  (0x1D53F, 0), (0x1D540, 1), (0x1D545, 0), (0x1D546, 1), (0x1D547, 0), (0x1D54A, 1),
  (0x1D551, 0), (0x1D552, 1), (0x1D6A6, 0), (0x1D6A8, 1), (0x1D7CC, 0), (0x1D7CE, 1),
  (0x1D800, 163), (0x1DA8C, 0), (0x1DA9B, 163), (0x1DAA0, 0), (0x1DAA1, 163), (0x1DAB0, 0),
  (0x1DF00, 2), (0x1DF1F, 0), (0x1DF25, 2), (0x1DF2B, 0), (0x1E000, 54), (0x1E007, 0),
  (0x1E008, 54), (0x1E019, 0), (0x1E01B, 54), (0x1E022, 0), (0x1E023, 54), (0x1E025, 0),
  (0x1E026, 54), (0x1E02B, 0), (0x1E030, 7), (0x1E06E, 0), (0x1E08F, 7), (0x1E090, 0),
  (0x1E100, 164), (0x1E12D, 0), (0x1E130, 164), (0x1E13E, 0), (0x1E140, 164), (0x1E14A, 0),
  (0x1E14E, 164), (0x1E150, 0), (0x1E290, 165), (0x1E2AF, 0), (0x1E2C0, 166), (0x1E2FA, 0),
  (0x1E2FF, 166), (0x1E300, 0), (0x1E4D0, 167), (0x1E4FA, 0), (0x1E5D0, 168), (0x1E5FB, 0),
  (0x1E5FF, 168), (0x1E600, 0), (0x1E7E0, 32), (0x1E7E7, 0), (0x1E7E8, 32), (0x1E7EC, 0),
  (0x1E7ED, 32), (0x1E7EF, 0), (0x1E7F0, 32), (0x1E7FF, 0), (0x1E800, 169), (0x1E8C5, 0),
  (0x1E8C7, 169), (0x1E8D7, 0), (0x1E900, 170), (0x1E94C, 0), (0x1E950, 170), (0x1E95A, 0),
  (0x1E95E, 170), (0x1E960, 0), (0x1EC71, 1), (0x1ECB5, 0), (0x1ED01, 1), (0x1ED3E, 0),
  (0x1EE00, 10), (0x1EE04, 0), (0x1EE05, 10), (0x1EE20, 0), (0x1EE21, 10), (0x1EE23, 0),
  (0x1EE24, 10), (0x1EE25, 0), (0x1EE27, 10), (0x1EE28, 0), (0x1EE29, 10), (0x1EE33, 0),
  (0x1EE34, 10), (0x1EE38, 0), (0x1EE39, 10), (0x1EE3A, 0), (0x1EE3B, 10), (0x1EE3C, 0),
  (0x1EE42, 10), (0x1EE43, 0), (0x1EE47, 10), (0x1EE48, 0), (0x1EE49, 10), (0x1EE4A, 0),
  (0x1EE4B, 10), (0x1EE4C, 0), (0x1EE4D, 10), (0x1EE50, 0), (0x1EE51, 10), (0x1EE53, 0),
  (0x1EE54, 10), (0x1EE55, 0), (0x1EE57, 10), (0x1EE58, 0), (0x1EE59, 10), (0x1EE5A, 0),
  (0x1EE5B, 10), (0x1EE5C, 0), (0x1EE5D, 10), (0x1EE5E, 0), (0x1EE5F, 10), (0x1EE60, 0),
  (0x1EE61, 10), (0x1EE63, 0), (0x1EE64, 10), (0x1EE65, 0), (0x1EE67, 10), (0x1EE6B, 0),
  (0x1EE6C, 10), (0x1EE73, 0), (0x1EE74, 10), (0x1EE78, 0), (0x1EE79, 10), (0x1EE7D, 0),
  (0x1EE7E, 10), (0x1EE7F, 0), (0x1EE80, 10), (0x1EE8A, 0), (0x1EE8B, 10), (0x1EE9C, 0),
  (0x1EEA1, 10), (0x1EEA4, 0), (0x1EEA5, 10), (0x1EEAA, 0), (0x1EEAB, 10), (0x1EEBC, 0),
  (0x1EEF0, 10), (0x1EEF2, 0), (0x1F000, 1), (0x1F02C, 0), (0x1F030, 1), (0x1F094, 0),
  (0x1F0A0, 1), (0x1F0AF, 0), (0x1F0B1, 1), (0x1F0C0, 0), (0x1F0C1, 1), (0x1F0D0, 0),
  (0x1F0D1, 1), (0x1F0F6, 0), (0x1F100, 1), (0x1F1AE, 0), (0x1F1E6, 1), (0x1F200, 57),
  (0x1F201, 1), (0x1F203, 0), (0x1F210, 1), (0x1F23C, 0), (0x1F240, 1), (0x1F249, 0),
  (0x1F250, 1), (0x1F252, 0), (0x1F260, 1), (0x1F266, 0), (0x1F300, 1), (0x1F6D8, 0),
  (0x1F6DC, 1), (0x1F6ED, 0), (0x1F6F0, 1), (0x1F6FD, 0), (0x1F700, 1), (0x1F777, 0),
  (0x1F77B, 1), (0x1F7DA, 0), (0x1F7E0, 1), (0x1F7EC, 0), (0x1F7F0, 1), (0x1F7F1, 0),
  (0x1F800, 1), (0x1F80C, 0), (0x1F810, 1), (0x1F848, 0), (0x1F850, 1), (0x1F85A, 0),
  (0x1F860, 1), (0x1F888, 0), (0x1F890, 1), (0x1F8AE, 0), (0x1F8B0, 1), (0x1F8BC, 0),
  (0x1F8C0, 1), (0x1F8C2, 0), (0x1F900, 1), (0x1FA54, 0), (0x1FA60, 1), (0x1FA6E, 0),
  (0x1FA70, 1), (0x1FA7D, 0), (0x1FA80, 1), (0x1FA8A, 0), (0x1FA8F, 1), (0x1FAC7, 0),
  (0x1FACE, 1), (0x1FADD, 0), (0x1FADF, 1), (0x1FAEA, 0), (0x1FAF0, 1), (0x1FAF9, 0),
  (0x1FB00, 1), (0x1FB93, 0), (0x1FB94, 1), (0x1FBFA, 0), (0x20000, 56), (0x2A6E0, 0),
  (0x2A700, 56), (0x2B73A, 0), (0x2B740, 56), (0x2B81E, 0), (0x2B820, 56), (0x2CEA2, 0),
  (0x2CEB0, 56), (0x2EBE1, 0), (0x2EBF0, 56), (0x2EE5E, 0), (0x2F800, 56), (0x2FA1E, 0),
  (0x30000, 56), (0x3134B, 0), (0x31350, 56), (0x323B0, 0), (0xE0001, 1), (0xE0002, 0),
  (0xE0020, 1), (0xE0080, 0), (0xE0100, 4), (0xE01F0, 0)]

/-- The script of a character, counted from one, or zero. -/
def scriptOf (c : Char) : Nat :=
  let runs := scriptRuns
  let i := boundsBelow (fun i => (runs.getD i (0, 0)).1) c.toNat runs.size 0 runs.size
  (runs.getD (i - 1) (0, 0)).2

/-- Runs of characters used in other scripts than the one they belong to: the first and the last
character of each, and the scripts. -/
def sharedRuns : Array (Nat × Nat × List Nat) := #[
  (0xB7, 0xB7, [2, 5, 6, 30, 54, 56, 74, 76, 77, 81, 84, 95, 102, 120, 144, 162]),
  (0x2BC, 0x2BC, [2, 7, 16, 17, 26, 60, 165]), (0x2C7, 0x2C7, [2, 3]), (0x2C9, 0x2CB, [2, 3]),
  (0x2CD, 0x2CD, [2, 60]), (0x2D7, 0x2D7, [2, 26]), (0x2D9, 0x2D9, [2, 3]),
  (0x300, 0x300, [2, 5, 6, 7, 33, 44, 77, 140]), (0x301, 0x301, [2, 5, 7, 33, 44, 83, 87, 140]),
  (0x302, 0x302, [2, 7, 33, 55]), (0x303, 0x303, [2, 11, 26, 54, 140]),
  (0x304, 0x304, [2, 5, 6, 7, 11, 33, 55, 76, 83, 85, 87]),
  (0x305, 0x305, [2, 6, 54, 58, 76, 84]), (0x306, 0x306, [2, 5, 7, 55, 77]),
  (0x307, 0x307, [2, 6, 9, 11, 44, 55, 77, 87, 162]),
  (0x308, 0x308, [2, 5, 7, 8, 9, 11, 44, 55, 76, 77, 162]), (0x309, 0x309, [2, 55]),
  (0x30A, 0x30A, [2, 11, 162]), (0x30B, 0x30B, [2, 7, 33, 83]), (0x30C, 0x30C, [2, 33, 44]),
  (0x30D, 0x30D, [2, 140]), (0x30E, 0x30E, [2, 32]), (0x310, 0x310, [2, 140]),
  (0x311, 0x311, [2, 7, 87]), (0x313, 0x313, [2, 5, 77, 87]),
  (0x323, 0x323, [2, 11, 33, 55, 58, 162]), (0x324, 0x324, [2, 11, 33, 162]),
  (0x325, 0x325, [2, 11]), (0x32D, 0x32D, [2, 11, 140]), (0x32E, 0x32E, [2, 11]),
  (0x330, 0x330, [2, 11, 33]), (0x331, 0x331, [2, 11, 26, 33, 76, 85, 140]), (0x342, 0x342, [5]),
  (0x345, 0x345, [5]), (0x358, 0x358, [2, 83]), (0x35E, 0x35E, [2, 85, 87]), (0x363, 0x36F, [2]),
  (0x374, 0x375, [5, 6]), (0x483, 0x483, [7, 77]), (0x484, 0x484, [7, 54]),
  (0x485, 0x486, [2, 7]), (0x487, 0x487, [7, 54]), (0x589, 0x589, [8, 30, 54]),
  (0x60C, 0x60C, [10, 11, 12, 13, 108, 109, 110]),
  (0x61B, 0x61B, [10, 11, 12, 13, 108, 109, 110]), (0x61C, 0x61C, [10, 11, 12]),
  (0x61F, 0x61F, [10, 11, 12, 13, 108, 109, 110, 170]),
  (0x640, 0x640, [10, 11, 15, 101, 105, 108, 112, 113, 170]), (0x64B, 0x655, [10, 11]),
  (0x660, 0x669, [10, 12, 110]), (0x670, 0x670, [10, 11]), (0x6D4, 0x6D4, [10, 108]),
  (0x951, 0x951, [2, 16, 17, 18, 19, 20, 21, 22, 23, 24, 121, 125, 127, 128, 136]),
  (0x952, 0x952, [2, 16, 17, 18, 19, 20, 21, 22, 23, 24, 125, 127, 128]),
  (0x964, 0x964, [16, 17, 18, 19, 20, 21, 22, 23, 24, 25, 63, 120, 124, 125, 128, 131, 133, 136, 143, 144, 168]),
  (0x965, 0x965, [16, 17, 18, 19, 20, 21, 22, 23, 24, 25, 43, 63, 120, 124, 125, 128, 131, 133, 136, 143, 144, 151, 168]),
  (0x966, 0x96F, [16, 117, 120, 133]), (0x9E6, 0x9EF, [17, 63, 119]), (0xA66, 0xA6F, [18, 123]),
  (0xAE6, 0xAEF, [19, 122]), (0xBE6, 0xBF3, [21, 125]), (0xCE6, 0xCEF, [23, 126, 136]),
  (0x1040, 0x1049, [29, 44, 119]), (0x10FB, 0x10FB, [2, 30, 54]), (0x16EB, 0x16ED, [36]),
  (0x1735, 0x1736, [37, 38, 39, 40]), (0x1802, 0x1803, [42, 64]), (0x1805, 0x1805, [42, 64]),
  (0x1CD0, 0x1CD0, [16, 17, 23, 125]), (0x1CD1, 0x1CD1, [16]),
  (0x1CD2, 0x1CD2, [16, 17, 23, 125]), (0x1CD3, 0x1CD3, [16, 23, 125]), (0x1CD4, 0x1CD4, [16]),
  (0x1CD5, 0x1CD5, [16, 17, 22, 127, 128]), (0x1CD6, 0x1CD6, [16, 17, 22]),
  (0x1CD7, 0x1CD7, [16, 121, 127]), (0x1CD8, 0x1CD8, [16, 17, 22, 127]),
  (0x1CD9, 0x1CD9, [16, 121]), (0x1CDA, 0x1CDA, [16, 20, 21, 22, 23, 24]), (0x1CDB, 0x1CDB, [16]),
  (0x1CDC, 0x1CDD, [16, 121]), (0x1CDE, 0x1CDF, [16]), (0x1CE0, 0x1CE0, [16, 121]),
  (0x1CE1, 0x1CE1, [16, 17]), (0x1CE2, 0x1CE2, [16, 127, 128]), (0x1CE3, 0x1CE8, [16]),
  (0x1CE9, 0x1CE9, [16, 127, 136]), (0x1CEA, 0x1CEA, [16, 17, 121]), (0x1CEB, 0x1CEB, [16, 127]),
  (0x1CEC, 0x1CEC, [16]), (0x1CED, 0x1CED, [16, 17, 121, 127]), (0x1CEE, 0x1CF1, [16]),
  (0x1CF2, 0x1CF2, [16, 17, 20, 22, 23, 24, 25, 125, 126, 128, 136]), (0x1CF3, 0x1CF3, [16, 125]),
  (0x1CF4, 0x1CF4, [16, 23, 125, 126]), (0x1CF5, 0x1CF6, [16, 17]), (0x1CF7, 0x1CF7, [17]),
  (0x1CF8, 0x1CF9, [16, 125]), (0x1CFA, 0x1CFA, [136]), (0x1DC0, 0x1DC1, [5]),
  (0x1DF8, 0x1DF8, [2, 7, 11]), (0x1DFA, 0x1DFA, [11]), (0x202F, 0x202F, [2, 42, 64]),
  (0x204F, 0x204F, [10, 170]), (0x205A, 0x205A, [30, 54, 73, 74, 106, 107]),
  (0x205D, 0x205D, [5, 74, 96, 107]), (0x20F0, 0x20F0, [2, 16, 125]), (0x2E17, 0x2E17, [2, 6]),
  (0x2E30, 0x2E30, [102, 106]), (0x2E31, 0x2E31, [14, 30, 74, 95, 102, 107, 117]),
  (0x2E3C, 0x2E3C, [162]), (0x2E41, 0x2E41, [10, 107, 170]), (0x2E43, 0x2E43, [7, 54]),
  (0x2FF0, 0x2FFF, [56, 159]), (0x3001, 0x3001, [3, 31, 42, 56, 57, 58, 59]),
  (0x3002, 0x3002, [3, 31, 42, 56, 57, 58, 59, 64]), (0x3003, 0x3003, [3, 31, 56, 57, 58]),
  (0x3006, 0x3006, [56]), (0x3008, 0x3009, [3, 28, 31, 42, 56, 57, 58, 59]),
  (0x300A, 0x300B, [3, 28, 31, 42, 56, 57, 58, 59, 60]),
  (0x300C, 0x3011, [3, 31, 56, 57, 58, 59]), (0x3013, 0x3013, [3, 31, 56, 57, 58]),
  (0x3014, 0x301B, [3, 31, 56, 57, 58, 59]), (0x301C, 0x301F, [3, 31, 56, 57, 58]),
  (0x302A, 0x302D, [3, 56]), (0x3030, 0x3030, [3, 31, 56, 57, 58]), (0x3031, 0x3035, [57, 58]),
  (0x3037, 0x3037, [3, 31, 56, 57, 58]), (0x303C, 0x303D, [56, 57, 58]), (0x303E, 0x303F, [56]),
  (0x3099, 0x309C, [57, 58]), (0x30A0, 0x30A0, [57, 58]),
  (0x30FB, 0x30FB, [3, 31, 56, 57, 58, 59]), (0x30FC, 0x30FC, [57, 58]), (0x3190, 0x319F, [56]),
  (0x31C0, 0x31E5, [56]), (0x31EF, 0x31EF, [56, 159]), (0x3220, 0x3247, [56]),
  (0x3280, 0x32B0, [56]), (0x32C0, 0x32CB, [56]), (0x32FF, 0x32FF, [56]), (0x3358, 0x3370, [56]),
  (0x337B, 0x337F, [56]), (0x33E0, 0x33FE, [56]), (0xA66F, 0xA66F, [7, 54]),
  (0xA700, 0xA707, [2, 56]),
  (0xA830, 0xA832, [16, 18, 19, 23, 24, 117, 120, 121, 122, 124, 126, 128, 130, 131, 133, 136]),
  (0xA833, 0xA835, [16, 18, 19, 23, 117, 120, 121, 122, 124, 126, 128, 130, 131, 133, 136]),
  (0xA836, 0xA837, [16, 18, 19, 117, 120, 122, 124, 128, 130, 131, 133]),
  (0xA838, 0xA838, [16, 18, 19, 117, 120, 121, 122, 124, 128, 130, 131, 133]),
  (0xA839, 0xA839, [16, 18, 19, 117, 120, 122, 124, 128, 130, 131, 133]),
  (0xA8F1, 0xA8F1, [16, 17, 126]), (0xA8F3, 0xA8F3, [16, 21]), (0xA92E, 0xA92E, [2, 29, 66]),
  (0xA9CF, 0xA9CF, [46, 68]), (0xFD3E, 0xFD3F, [10, 13]), (0xFDF2, 0xFDF2, [10, 12]),
  (0xFDFD, 0xFDFD, [10, 12]), (0xFE45, 0xFE46, [3, 31, 56, 57, 58]),
  (0xFF61, 0xFF65, [3, 31, 56, 57, 58, 59]), (0xFF70, 0xFF70, [57, 58]),
  (0xFF9E, 0xFF9F, [57, 58]), (0x10100, 0x10101, [72, 89, 148]), (0x10102, 0x10102, [72, 89]),
  (0x10107, 0x10133, [72, 88, 89]), (0x10137, 0x1013F, [72, 89]), (0x102E0, 0x102FB, [6, 10]),
  (0x10AF2, 0x10AF2, [101, 113]), (0x11301, 0x11301, [21, 125]), (0x11303, 0x11303, [21, 125]),
  (0x1133B, 0x1133C, [21, 125]), (0x11FD0, 0x11FD1, [21, 125]), (0x11FD3, 0x11FD3, [21, 125]),
  (0x1BCA0, 0x1BCA3, [162]), (0x1D360, 0x1D371, [56]), (0x1F250, 0x1F251, [56])]

/-- The scripts that a character is used in: those listed for it, else the one it belongs to. -/
def scriptsOf (c : Char) : List Nat :=
  let runs := sharedRuns
  let i := boundsBelow (fun i => (runs.getD i (0, 0, [])).1) c.toNat runs.size 0 runs.size
  let (_, last, scripts) := runs.getD (i - 1) (0, 0, [])
  if 0 < i ∧ c.toNat ≤ last then scripts else [scriptOf c]

end ExprLang
