import Registrar.Text.Ranges

/-!
The scripts of characters, edition 16.0 of the Unicode Standard. A script is known by the names in
`names`; its characters are the runs that carry its position in that list. A character that several
scripts use has them all in `shared`.
-/

namespace Registrar.Text.Script

/-- The names of each script, in small letters and without separators. -/
def names : List (List String) := [
    ["adlam", "adlm"], ["ahom"], ["anatolianhieroglyphs", "hluw"], ["arabic", "arab"],
    ["armenian", "armn"], ["avestan", "avst"], ["balinese", "bali"], ["bamum", "bamu"],
    ["bassavah", "bass"], ["batak", "batk"], ["bengali", "beng"], ["bhaiksuki", "bhks"],
    ["bopomofo", "bopo"], ["brahmi", "brah"], ["braille", "brai"], ["buginese", "bugi"],
    ["buhid", "buhd"], ["canadianaboriginal", "cans"], ["carian", "cari"],
    ["caucasianalbanian", "aghb"], ["chakma", "cakm"], ["cham"], ["cherokee", "cher"],
    ["chorasmian", "chrs"], ["common", "zyyy"], ["coptic", "copt", "qaac"], ["cuneiform", "xsux"],
    ["cypriot", "cprt"], ["cyprominoan", "cpmn"], ["cyrillic", "cyrl"], ["deseret", "dsrt"],
    ["devanagari", "deva"], ["divesakuru", "diak"], ["dogra", "dogr"], ["duployan", "dupl"],
    ["egyptianhieroglyphs", "egyp"], ["elbasan", "elba"], ["elymaic", "elym"], ["ethiopic", "ethi"],
    ["garay", "gara"], ["georgian", "geor"], ["glagolitic", "glag"], ["gothic", "goth"],
    ["grantha", "gran"], ["greek", "grek"], ["gujarati", "gujr"], ["gunjalagondi", "gong"],
    ["gurmukhi", "guru"], ["gurungkhema", "gukh"], ["han", "hani"], ["hangul", "hang"],
    ["hanifirohingya", "rohg"], ["hanunoo", "hano"], ["hatran", "hatr"], ["hebrew", "hebr"],
    ["hiragana", "hira"], ["imperialaramaic", "armi"], ["inherited", "zinh", "qaai"],
    ["inscriptionalpahlavi", "phli"], ["inscriptionalparthian", "prti"], ["javanese", "java"],
    ["kaithi", "kthi"], ["kannada", "knda"], ["katakana", "kana"], ["kawi"], ["kayahli", "kali"],
    ["kharoshthi", "khar"], ["khitansmallscript", "kits"], ["khmer", "khmr"], ["khojki", "khoj"],
    ["khudawadi", "sind"], ["kiratrai", "krai"], ["lao", "laoo"], ["latin", "latn"],
    ["lepcha", "lepc"], ["limbu", "limb"], ["lineara", "lina"], ["linearb", "linb"], ["lisu"],
    ["lycian", "lyci"], ["lydian", "lydi"], ["mahajani", "mahj"], ["makasar", "maka"],
    ["malayalam", "mlym"], ["mandaic", "mand"], ["manichaean", "mani"], ["marchen", "marc"],
    ["masaramgondi", "gonm"], ["medefaidrin", "medf"], ["meeteimayek", "mtei"],
    ["mendekikakui", "mend"], ["meroiticcursive", "merc"], ["meroitichieroglyphs", "mero"],
    ["miao", "plrd"], ["modi"], ["mongolian", "mong"], ["mro", "mroo"], ["multani", "mult"],
    ["myanmar", "mymr"], ["nabataean", "nbat"], ["nagmundari", "nagm"], ["nandinagari", "nand"],
    ["newa"], ["newtailue", "talu"], ["nko", "nkoo"], ["nushu", "nshu"],
    ["nyiakengpuachuehmong", "hmnp"], ["ogham", "ogam"], ["olchiki", "olck"],
    ["oldhungarian", "hung"], ["olditalic", "ital"], ["oldnortharabian", "narb"],
    ["oldpermic", "perm"], ["oldpersian", "xpeo"], ["oldsogdian", "sogo"],
    ["oldsoutharabian", "sarb"], ["oldturkic", "orkh"], ["olduyghur", "ougr"], ["olonal", "onao"],
    ["oriya", "orya"], ["osage", "osge"], ["osmanya", "osma"], ["pahawhhmong", "hmng"],
    ["palmyrene", "palm"], ["paucinhau", "pauc"], ["phagspa", "phag"], ["phoenician", "phnx"],
    ["psalterpahlavi", "phlp"], ["rejang", "rjng"], ["runic", "runr"], ["samaritan", "samr"],
    ["saurashtra", "saur"], ["sharada", "shrd"], ["shavian", "shaw"], ["siddham", "sidd"],
    ["signwriting", "sgnw"], ["sinhala", "sinh"], ["sogdian", "sogd"], ["sorasompeng", "sora"],
    ["soyombo", "soyo"], ["sundanese", "sund"], ["sunuwar", "sunu"], ["sylotinagri", "sylo"],
    ["syriac", "syrc"], ["tagalog", "tglg"], ["tagbanwa", "tagb"], ["taile", "tale"],
    ["taitham", "lana"], ["taiviet", "tavt"], ["takri", "takr"], ["tamil", "taml"],
    ["tangsa", "tnsa"], ["tangut", "tang"], ["telugu", "telu"], ["thaana", "thaa"], ["thai"],
    ["tibetan", "tibt"], ["tifinagh", "tfng"], ["tirhuta", "tirh"], ["todhri", "todr"], ["toto"],
    ["tulutigalari", "tutg"], ["ugaritic", "ugar"], ["vai", "vaii"], ["vithkuqi", "vith"],
    ["wancho", "wcho"], ["warangciti", "wara"], ["yezidi", "yezi"], ["yi", "yiii"],
    ["zanabazarsquare", "zanb"]
]

def firstRuns : List (Nat × Nat × Nat) := [
    (0x0, 0x40, 24), (0x41, 0x5A, 73), (0x5B, 0x60, 24), (0x61, 0x7A, 73), (0x7B, 0xA9, 24),
    (0xAA, 0xAA, 73), (0xAB, 0xB9, 24), (0xBA, 0xBA, 73), (0xBB, 0xBF, 24), (0xC0, 0xD6, 73),
    (0xD7, 0xD7, 24), (0xD8, 0xF6, 73), (0xF7, 0xF7, 24), (0xF8, 0x2B8, 73), (0x2B9, 0x2DF, 24),
    (0x2E0, 0x2E4, 73), (0x2E5, 0x2E9, 24), (0x2EA, 0x2EB, 12), (0x2EC, 0x2FF, 24),
    (0x300, 0x36F, 57), (0x370, 0x373, 44), (0x374, 0x374, 24), (0x375, 0x377, 44),
    (0x37A, 0x37D, 44), (0x37E, 0x37E, 24), (0x37F, 0x37F, 44), (0x384, 0x384, 44),
    (0x385, 0x385, 24), (0x386, 0x386, 44), (0x387, 0x387, 24), (0x388, 0x38A, 44),
    (0x38C, 0x38C, 44), (0x38E, 0x3A1, 44), (0x3A3, 0x3E1, 44), (0x3E2, 0x3EF, 25),
    (0x3F0, 0x3FF, 44), (0x400, 0x484, 29), (0x485, 0x486, 57), (0x487, 0x52F, 29),
    (0x531, 0x556, 4), (0x559, 0x58A, 4), (0x58D, 0x58F, 4), (0x591, 0x5C7, 54), (0x5D0, 0x5EA, 54),
    (0x5EF, 0x5F4, 54), (0x600, 0x604, 3), (0x605, 0x605, 24), (0x606, 0x60B, 3),
    (0x60C, 0x60C, 24), (0x60D, 0x61A, 3), (0x61B, 0x61B, 24), (0x61C, 0x61E, 3),
    (0x61F, 0x61F, 24), (0x620, 0x63F, 3), (0x640, 0x640, 24), (0x641, 0x64A, 3),
    (0x64B, 0x655, 57), (0x656, 0x66F, 3), (0x670, 0x670, 57), (0x671, 0x6DC, 3),
    (0x6DD, 0x6DD, 24), (0x6DE, 0x6FF, 3), (0x700, 0x70D, 143), (0x70F, 0x74A, 143),
    (0x74D, 0x74F, 143), (0x750, 0x77F, 3), (0x780, 0x7B1, 154), (0x7C0, 0x7FA, 104),
    (0x7FD, 0x7FF, 104), (0x800, 0x82D, 130), (0x830, 0x83E, 130), (0x840, 0x85B, 84),
    (0x85E, 0x85E, 84), (0x860, 0x86A, 143), (0x870, 0x88E, 3), (0x890, 0x891, 3),
    (0x897, 0x8E1, 3), (0x8E2, 0x8E2, 24), (0x8E3, 0x8FF, 3), (0x900, 0x950, 31),
    (0x951, 0x954, 57), (0x955, 0x963, 31), (0x964, 0x965, 24), (0x966, 0x97F, 31),
    (0x980, 0x983, 10), (0x985, 0x98C, 10), (0x98F, 0x990, 10), (0x993, 0x9A8, 10),
    (0x9AA, 0x9B0, 10), (0x9B2, 0x9B2, 10), (0x9B6, 0x9B9, 10), (0x9BC, 0x9C4, 10),
    (0x9C7, 0x9C8, 10), (0x9CB, 0x9CE, 10), (0x9D7, 0x9D7, 10), (0x9DC, 0x9DD, 10),
    (0x9DF, 0x9E3, 10), (0x9E6, 0x9FE, 10), (0xA01, 0xA03, 47), (0xA05, 0xA0A, 47),
    (0xA0F, 0xA10, 47), (0xA13, 0xA28, 47), (0xA2A, 0xA30, 47), (0xA32, 0xA33, 47),
    (0xA35, 0xA36, 47), (0xA38, 0xA39, 47), (0xA3C, 0xA3C, 47), (0xA3E, 0xA42, 47),
    (0xA47, 0xA48, 47), (0xA4B, 0xA4D, 47), (0xA51, 0xA51, 47), (0xA59, 0xA5C, 47),
    (0xA5E, 0xA5E, 47), (0xA66, 0xA76, 47), (0xA81, 0xA83, 45), (0xA85, 0xA8D, 45),
    (0xA8F, 0xA91, 45), (0xA93, 0xAA8, 45), (0xAAA, 0xAB0, 45), (0xAB2, 0xAB3, 45),
    (0xAB5, 0xAB9, 45), (0xABC, 0xAC5, 45), (0xAC7, 0xAC9, 45), (0xACB, 0xACD, 45),
    (0xAD0, 0xAD0, 45), (0xAE0, 0xAE3, 45), (0xAE6, 0xAF1, 45), (0xAF9, 0xAFF, 45),
    (0xB01, 0xB03, 119), (0xB05, 0xB0C, 119), (0xB0F, 0xB10, 119), (0xB13, 0xB28, 119),
    (0xB2A, 0xB30, 119), (0xB32, 0xB33, 119), (0xB35, 0xB39, 119), (0xB3C, 0xB44, 119),
    (0xB47, 0xB48, 119), (0xB4B, 0xB4D, 119), (0xB55, 0xB57, 119), (0xB5C, 0xB5D, 119),
    (0xB5F, 0xB63, 119), (0xB66, 0xB77, 119), (0xB82, 0xB83, 150), (0xB85, 0xB8A, 150),
    (0xB8E, 0xB90, 150), (0xB92, 0xB95, 150), (0xB99, 0xB9A, 150), (0xB9C, 0xB9C, 150),
    (0xB9E, 0xB9F, 150), (0xBA3, 0xBA4, 150), (0xBA8, 0xBAA, 150), (0xBAE, 0xBB9, 150),
    (0xBBE, 0xBC2, 150), (0xBC6, 0xBC8, 150), (0xBCA, 0xBCD, 150), (0xBD0, 0xBD0, 150),
    (0xBD7, 0xBD7, 150), (0xBE6, 0xBFA, 150), (0xC00, 0xC0C, 153), (0xC0E, 0xC10, 153),
    (0xC12, 0xC28, 153), (0xC2A, 0xC39, 153), (0xC3C, 0xC44, 153), (0xC46, 0xC48, 153),
    (0xC4A, 0xC4D, 153), (0xC55, 0xC56, 153), (0xC58, 0xC5A, 153), (0xC5D, 0xC5D, 153),
    (0xC60, 0xC63, 153), (0xC66, 0xC6F, 153), (0xC77, 0xC7F, 153), (0xC80, 0xC8C, 62),
    (0xC8E, 0xC90, 62), (0xC92, 0xCA8, 62), (0xCAA, 0xCB3, 62), (0xCB5, 0xCB9, 62),
    (0xCBC, 0xCC4, 62), (0xCC6, 0xCC8, 62), (0xCCA, 0xCCD, 62), (0xCD5, 0xCD6, 62),
    (0xCDD, 0xCDE, 62), (0xCE0, 0xCE3, 62), (0xCE6, 0xCEF, 62), (0xCF1, 0xCF3, 62),
    (0xD00, 0xD0C, 83), (0xD0E, 0xD10, 83), (0xD12, 0xD44, 83), (0xD46, 0xD48, 83),
    (0xD4A, 0xD4F, 83), (0xD54, 0xD63, 83), (0xD66, 0xD7F, 83), (0xD81, 0xD83, 136),
    (0xD85, 0xD96, 136), (0xD9A, 0xDB1, 136), (0xDB3, 0xDBB, 136), (0xDBD, 0xDBD, 136),
    (0xDC0, 0xDC6, 136), (0xDCA, 0xDCA, 136), (0xDCF, 0xDD4, 136), (0xDD6, 0xDD6, 136),
    (0xDD8, 0xDDF, 136), (0xDE6, 0xDEF, 136), (0xDF2, 0xDF4, 136), (0xE01, 0xE3A, 155),
    (0xE3F, 0xE3F, 24), (0xE40, 0xE5B, 155), (0xE81, 0xE82, 72), (0xE84, 0xE84, 72),
    (0xE86, 0xE8A, 72), (0xE8C, 0xEA3, 72), (0xEA5, 0xEA5, 72), (0xEA7, 0xEBD, 72),
    (0xEC0, 0xEC4, 72), (0xEC6, 0xEC6, 72), (0xEC8, 0xECE, 72), (0xED0, 0xED9, 72),
    (0xEDC, 0xEDF, 72), (0xF00, 0xF47, 156), (0xF49, 0xF6C, 156), (0xF71, 0xF97, 156),
    (0xF99, 0xFBC, 156), (0xFBE, 0xFCC, 156), (0xFCE, 0xFD4, 156), (0xFD5, 0xFD8, 24),
    (0xFD9, 0xFDA, 156), (0x1000, 0x109F, 98), (0x10A0, 0x10C5, 40), (0x10C7, 0x10C7, 40),
    (0x10CD, 0x10CD, 40), (0x10D0, 0x10FA, 40), (0x10FB, 0x10FB, 24), (0x10FC, 0x10FF, 40),
    (0x1100, 0x11FF, 50), (0x1200, 0x1248, 38), (0x124A, 0x124D, 38), (0x1250, 0x1256, 38),
    (0x1258, 0x1258, 38), (0x125A, 0x125D, 38), (0x1260, 0x1288, 38), (0x128A, 0x128D, 38),
    (0x1290, 0x12B0, 38), (0x12B2, 0x12B5, 38), (0x12B8, 0x12BE, 38), (0x12C0, 0x12C0, 38),
    (0x12C2, 0x12C5, 38), (0x12C8, 0x12D6, 38), (0x12D8, 0x1310, 38), (0x1312, 0x1315, 38),
    (0x1318, 0x135A, 38), (0x135D, 0x137C, 38), (0x1380, 0x1399, 38), (0x13A0, 0x13F5, 22),
    (0x13F8, 0x13FD, 22), (0x1400, 0x167F, 17), (0x1680, 0x169C, 107), (0x16A0, 0x16EA, 129),
    (0x16EB, 0x16ED, 24), (0x16EE, 0x16F8, 129), (0x1700, 0x1715, 144), (0x171F, 0x171F, 144),
    (0x1720, 0x1734, 52), (0x1735, 0x1736, 24), (0x1740, 0x1753, 16), (0x1760, 0x176C, 145),
    (0x176E, 0x1770, 145), (0x1772, 0x1773, 145), (0x1780, 0x17DD, 68), (0x17E0, 0x17E9, 68),
    (0x17F0, 0x17F9, 68), (0x1800, 0x1801, 95), (0x1802, 0x1803, 24), (0x1804, 0x1804, 95),
    (0x1805, 0x1805, 24), (0x1806, 0x1819, 95), (0x1820, 0x1878, 95), (0x1880, 0x18AA, 95),
    (0x18B0, 0x18F5, 17), (0x1900, 0x191E, 75), (0x1920, 0x192B, 75), (0x1930, 0x193B, 75),
    (0x1940, 0x1940, 75), (0x1944, 0x194F, 75), (0x1950, 0x196D, 146), (0x1970, 0x1974, 146),
    (0x1980, 0x19AB, 103), (0x19B0, 0x19C9, 103), (0x19D0, 0x19DA, 103), (0x19DE, 0x19DF, 103),
    (0x19E0, 0x19FF, 68), (0x1A00, 0x1A1B, 15), (0x1A1E, 0x1A1F, 15), (0x1A20, 0x1A5E, 147),
    (0x1A60, 0x1A7C, 147), (0x1A7F, 0x1A89, 147), (0x1A90, 0x1A99, 147), (0x1AA0, 0x1AAD, 147),
    (0x1AB0, 0x1ACE, 57), (0x1B00, 0x1B4C, 6), (0x1B4E, 0x1B7F, 6), (0x1B80, 0x1BBF, 140),
    (0x1BC0, 0x1BF3, 9), (0x1BFC, 0x1BFF, 9), (0x1C00, 0x1C37, 74), (0x1C3B, 0x1C49, 74),
    (0x1C4D, 0x1C4F, 74), (0x1C50, 0x1C7F, 108), (0x1C80, 0x1C8A, 29), (0x1C90, 0x1CBA, 40),
    (0x1CBD, 0x1CBF, 40), (0x1CC0, 0x1CC7, 140), (0x1CD0, 0x1CD2, 57), (0x1CD3, 0x1CD3, 24),
    (0x1CD4, 0x1CE0, 57), (0x1CE1, 0x1CE1, 24), (0x1CE2, 0x1CE8, 57), (0x1CE9, 0x1CEC, 24),
    (0x1CED, 0x1CED, 57), (0x1CEE, 0x1CF3, 24), (0x1CF4, 0x1CF4, 57), (0x1CF5, 0x1CF7, 24),
    (0x1CF8, 0x1CF9, 57), (0x1CFA, 0x1CFA, 24), (0x1D00, 0x1D25, 73), (0x1D26, 0x1D2A, 44),
    (0x1D2B, 0x1D2B, 29), (0x1D2C, 0x1D5C, 73), (0x1D5D, 0x1D61, 44)
]

def secondRuns : List (Nat × Nat × Nat) := [
    (0x1D62, 0x1D65, 73), (0x1D66, 0x1D6A, 44), (0x1D6B, 0x1D77, 73), (0x1D78, 0x1D78, 29),
    (0x1D79, 0x1DBE, 73), (0x1DBF, 0x1DBF, 44), (0x1DC0, 0x1DFF, 57), (0x1E00, 0x1EFF, 73),
    (0x1F00, 0x1F15, 44), (0x1F18, 0x1F1D, 44), (0x1F20, 0x1F45, 44), (0x1F48, 0x1F4D, 44),
    (0x1F50, 0x1F57, 44), (0x1F59, 0x1F59, 44), (0x1F5B, 0x1F5B, 44), (0x1F5D, 0x1F5D, 44),
    (0x1F5F, 0x1F7D, 44), (0x1F80, 0x1FB4, 44), (0x1FB6, 0x1FC4, 44), (0x1FC6, 0x1FD3, 44),
    (0x1FD6, 0x1FDB, 44), (0x1FDD, 0x1FEF, 44), (0x1FF2, 0x1FF4, 44), (0x1FF6, 0x1FFE, 44),
    (0x2000, 0x200B, 24), (0x200C, 0x200D, 57), (0x200E, 0x2064, 24), (0x2066, 0x2070, 24),
    (0x2071, 0x2071, 73), (0x2074, 0x207E, 24), (0x207F, 0x207F, 73), (0x2080, 0x208E, 24),
    (0x2090, 0x209C, 73), (0x20A0, 0x20C0, 24), (0x20D0, 0x20F0, 57), (0x2100, 0x2125, 24),
    (0x2126, 0x2126, 44), (0x2127, 0x2129, 24), (0x212A, 0x212B, 73), (0x212C, 0x2131, 24),
    (0x2132, 0x2132, 73), (0x2133, 0x214D, 24), (0x214E, 0x214E, 73), (0x214F, 0x215F, 24),
    (0x2160, 0x2188, 73), (0x2189, 0x218B, 24), (0x2190, 0x2429, 24), (0x2440, 0x244A, 24),
    (0x2460, 0x27FF, 24), (0x2800, 0x28FF, 14), (0x2900, 0x2B73, 24), (0x2B76, 0x2B95, 24),
    (0x2B97, 0x2BFF, 24), (0x2C00, 0x2C5F, 41), (0x2C60, 0x2C7F, 73), (0x2C80, 0x2CF3, 25),
    (0x2CF9, 0x2CFF, 25), (0x2D00, 0x2D25, 40), (0x2D27, 0x2D27, 40), (0x2D2D, 0x2D2D, 40),
    (0x2D30, 0x2D67, 157), (0x2D6F, 0x2D70, 157), (0x2D7F, 0x2D7F, 157), (0x2D80, 0x2D96, 38),
    (0x2DA0, 0x2DA6, 38), (0x2DA8, 0x2DAE, 38), (0x2DB0, 0x2DB6, 38), (0x2DB8, 0x2DBE, 38),
    (0x2DC0, 0x2DC6, 38), (0x2DC8, 0x2DCE, 38), (0x2DD0, 0x2DD6, 38), (0x2DD8, 0x2DDE, 38),
    (0x2DE0, 0x2DFF, 29), (0x2E00, 0x2E5D, 24), (0x2E80, 0x2E99, 49), (0x2E9B, 0x2EF3, 49),
    (0x2F00, 0x2FD5, 49), (0x2FF0, 0x3004, 24), (0x3005, 0x3005, 49), (0x3006, 0x3006, 24),
    (0x3007, 0x3007, 49), (0x3008, 0x3020, 24), (0x3021, 0x3029, 49), (0x302A, 0x302D, 57),
    (0x302E, 0x302F, 50), (0x3030, 0x3037, 24), (0x3038, 0x303B, 49), (0x303C, 0x303F, 24),
    (0x3041, 0x3096, 55), (0x3099, 0x309A, 57), (0x309B, 0x309C, 24), (0x309D, 0x309F, 55),
    (0x30A0, 0x30A0, 24), (0x30A1, 0x30FA, 63), (0x30FB, 0x30FC, 24), (0x30FD, 0x30FF, 63),
    (0x3105, 0x312F, 12), (0x3131, 0x318E, 50), (0x3190, 0x319F, 24), (0x31A0, 0x31BF, 12),
    (0x31C0, 0x31E5, 24), (0x31EF, 0x31EF, 24), (0x31F0, 0x31FF, 63), (0x3200, 0x321E, 50),
    (0x3220, 0x325F, 24), (0x3260, 0x327E, 50), (0x327F, 0x32CF, 24), (0x32D0, 0x32FE, 63),
    (0x32FF, 0x32FF, 24), (0x3300, 0x3357, 63), (0x3358, 0x33FF, 24), (0x3400, 0x4DBF, 49),
    (0x4DC0, 0x4DFF, 24), (0x4E00, 0x9FFF, 49), (0xA000, 0xA48C, 168), (0xA490, 0xA4C6, 168),
    (0xA4D0, 0xA4FF, 78), (0xA500, 0xA62B, 163), (0xA640, 0xA69F, 29), (0xA6A0, 0xA6F7, 7),
    (0xA700, 0xA721, 24), (0xA722, 0xA787, 73), (0xA788, 0xA78A, 24), (0xA78B, 0xA7CD, 73),
    (0xA7D0, 0xA7D1, 73), (0xA7D3, 0xA7D3, 73), (0xA7D5, 0xA7DC, 73), (0xA7F2, 0xA7FF, 73),
    (0xA800, 0xA82C, 142), (0xA830, 0xA839, 24), (0xA840, 0xA877, 125), (0xA880, 0xA8C5, 131),
    (0xA8CE, 0xA8D9, 131), (0xA8E0, 0xA8FF, 31), (0xA900, 0xA92D, 65), (0xA92E, 0xA92E, 24),
    (0xA92F, 0xA92F, 65), (0xA930, 0xA953, 128), (0xA95F, 0xA95F, 128), (0xA960, 0xA97C, 50),
    (0xA980, 0xA9CD, 60), (0xA9CF, 0xA9CF, 24), (0xA9D0, 0xA9D9, 60), (0xA9DE, 0xA9DF, 60),
    (0xA9E0, 0xA9FE, 98), (0xAA00, 0xAA36, 21), (0xAA40, 0xAA4D, 21), (0xAA50, 0xAA59, 21),
    (0xAA5C, 0xAA5F, 21), (0xAA60, 0xAA7F, 98), (0xAA80, 0xAAC2, 148), (0xAADB, 0xAADF, 148),
    (0xAAE0, 0xAAF6, 89), (0xAB01, 0xAB06, 38), (0xAB09, 0xAB0E, 38), (0xAB11, 0xAB16, 38),
    (0xAB20, 0xAB26, 38), (0xAB28, 0xAB2E, 38), (0xAB30, 0xAB5A, 73), (0xAB5B, 0xAB5B, 24),
    (0xAB5C, 0xAB64, 73), (0xAB65, 0xAB65, 44), (0xAB66, 0xAB69, 73), (0xAB6A, 0xAB6B, 24),
    (0xAB70, 0xABBF, 22), (0xABC0, 0xABED, 89), (0xABF0, 0xABF9, 89), (0xAC00, 0xD7A3, 50),
    (0xD7B0, 0xD7C6, 50), (0xD7CB, 0xD7FB, 50), (0xF900, 0xFA6D, 49), (0xFA70, 0xFAD9, 49),
    (0xFB00, 0xFB06, 73), (0xFB13, 0xFB17, 4), (0xFB1D, 0xFB36, 54), (0xFB38, 0xFB3C, 54),
    (0xFB3E, 0xFB3E, 54), (0xFB40, 0xFB41, 54), (0xFB43, 0xFB44, 54), (0xFB46, 0xFB4F, 54),
    (0xFB50, 0xFBC2, 3), (0xFBD3, 0xFD3D, 3), (0xFD3E, 0xFD3F, 24), (0xFD40, 0xFD8F, 3),
    (0xFD92, 0xFDC7, 3), (0xFDCF, 0xFDCF, 3), (0xFDF0, 0xFDFF, 3), (0xFE00, 0xFE0F, 57),
    (0xFE10, 0xFE19, 24), (0xFE20, 0xFE2D, 57), (0xFE2E, 0xFE2F, 29), (0xFE30, 0xFE52, 24),
    (0xFE54, 0xFE66, 24), (0xFE68, 0xFE6B, 24), (0xFE70, 0xFE74, 3), (0xFE76, 0xFEFC, 3),
    (0xFEFF, 0xFEFF, 24), (0xFF01, 0xFF20, 24), (0xFF21, 0xFF3A, 73), (0xFF3B, 0xFF40, 24),
    (0xFF41, 0xFF5A, 73), (0xFF5B, 0xFF65, 24), (0xFF66, 0xFF6F, 63), (0xFF70, 0xFF70, 24),
    (0xFF71, 0xFF9D, 63), (0xFF9E, 0xFF9F, 24), (0xFFA0, 0xFFBE, 50), (0xFFC2, 0xFFC7, 50),
    (0xFFCA, 0xFFCF, 50), (0xFFD2, 0xFFD7, 50), (0xFFDA, 0xFFDC, 50), (0xFFE0, 0xFFE6, 24),
    (0xFFE8, 0xFFEE, 24), (0xFFF9, 0xFFFD, 24), (0x10000, 0x1000B, 77), (0x1000D, 0x10026, 77),
    (0x10028, 0x1003A, 77), (0x1003C, 0x1003D, 77), (0x1003F, 0x1004D, 77), (0x10050, 0x1005D, 77),
    (0x10080, 0x100FA, 77), (0x10100, 0x10102, 24), (0x10107, 0x10133, 24), (0x10137, 0x1013F, 24),
    (0x10140, 0x1018E, 44), (0x10190, 0x1019C, 24), (0x101A0, 0x101A0, 44), (0x101D0, 0x101FC, 24),
    (0x101FD, 0x101FD, 57), (0x10280, 0x1029C, 79), (0x102A0, 0x102D0, 18), (0x102E0, 0x102E0, 57),
    (0x102E1, 0x102FB, 24), (0x10300, 0x10323, 110), (0x1032D, 0x1032F, 110),
    (0x10330, 0x1034A, 42), (0x10350, 0x1037A, 112), (0x10380, 0x1039D, 162),
    (0x1039F, 0x1039F, 162), (0x103A0, 0x103C3, 113), (0x103C8, 0x103D5, 113),
    (0x10400, 0x1044F, 30), (0x10450, 0x1047F, 133), (0x10480, 0x1049D, 121),
    (0x104A0, 0x104A9, 121), (0x104B0, 0x104D3, 120), (0x104D8, 0x104FB, 120),
    (0x10500, 0x10527, 36), (0x10530, 0x10563, 19), (0x1056F, 0x1056F, 19), (0x10570, 0x1057A, 164),
    (0x1057C, 0x1058A, 164), (0x1058C, 0x10592, 164), (0x10594, 0x10595, 164),
    (0x10597, 0x105A1, 164), (0x105A3, 0x105B1, 164), (0x105B3, 0x105B9, 164),
    (0x105BB, 0x105BC, 164), (0x105C0, 0x105F3, 159), (0x10600, 0x10736, 76),
    (0x10740, 0x10755, 76), (0x10760, 0x10767, 76), (0x10780, 0x10785, 73), (0x10787, 0x107B0, 73),
    (0x107B2, 0x107BA, 73), (0x10800, 0x10805, 27), (0x10808, 0x10808, 27), (0x1080A, 0x10835, 27),
    (0x10837, 0x10838, 27), (0x1083C, 0x1083C, 27), (0x1083F, 0x1083F, 27), (0x10840, 0x10855, 56),
    (0x10857, 0x1085F, 56), (0x10860, 0x1087F, 123), (0x10880, 0x1089E, 99), (0x108A7, 0x108AF, 99),
    (0x108E0, 0x108F2, 53), (0x108F4, 0x108F5, 53), (0x108FB, 0x108FF, 53), (0x10900, 0x1091B, 126),
    (0x1091F, 0x1091F, 126), (0x10920, 0x10939, 80), (0x1093F, 0x1093F, 80), (0x10980, 0x1099F, 92),
    (0x109A0, 0x109B7, 91), (0x109BC, 0x109CF, 91), (0x109D2, 0x109FF, 91), (0x10A00, 0x10A03, 66),
    (0x10A05, 0x10A06, 66), (0x10A0C, 0x10A13, 66), (0x10A15, 0x10A17, 66), (0x10A19, 0x10A35, 66),
    (0x10A38, 0x10A3A, 66), (0x10A3F, 0x10A48, 66), (0x10A50, 0x10A58, 66), (0x10A60, 0x10A7F, 115),
    (0x10A80, 0x10A9F, 111), (0x10AC0, 0x10AE6, 85), (0x10AEB, 0x10AF6, 85), (0x10B00, 0x10B35, 5),
    (0x10B39, 0x10B3F, 5), (0x10B40, 0x10B55, 59), (0x10B58, 0x10B5F, 59), (0x10B60, 0x10B72, 58),
    (0x10B78, 0x10B7F, 58), (0x10B80, 0x10B91, 127), (0x10B99, 0x10B9C, 127),
    (0x10BA9, 0x10BAF, 127), (0x10C00, 0x10C48, 116), (0x10C80, 0x10CB2, 109),
    (0x10CC0, 0x10CF2, 109), (0x10CFA, 0x10CFF, 109), (0x10D00, 0x10D27, 51),
    (0x10D30, 0x10D39, 51), (0x10D40, 0x10D65, 39), (0x10D69, 0x10D85, 39), (0x10D8E, 0x10D8F, 39),
    (0x10E60, 0x10E7E, 3), (0x10E80, 0x10EA9, 167), (0x10EAB, 0x10EAD, 167),
    (0x10EB0, 0x10EB1, 167), (0x10EC2, 0x10EC4, 3), (0x10EFC, 0x10EFF, 3), (0x10F00, 0x10F27, 114),
    (0x10F30, 0x10F59, 137), (0x10F70, 0x10F89, 117), (0x10FB0, 0x10FCB, 23)
]

def thirdRuns : List (Nat × Nat × Nat) := [
    (0x10FE0, 0x10FF6, 37), (0x11000, 0x1104D, 13), (0x11052, 0x11075, 13), (0x1107F, 0x1107F, 13),
    (0x11080, 0x110C2, 61), (0x110CD, 0x110CD, 61), (0x110D0, 0x110E8, 138),
    (0x110F0, 0x110F9, 138), (0x11100, 0x11134, 20), (0x11136, 0x11147, 20), (0x11150, 0x11176, 81),
    (0x11180, 0x111DF, 132), (0x111E1, 0x111F4, 136), (0x11200, 0x11211, 69),
    (0x11213, 0x11241, 69), (0x11280, 0x11286, 97), (0x11288, 0x11288, 97), (0x1128A, 0x1128D, 97),
    (0x1128F, 0x1129D, 97), (0x1129F, 0x112A9, 97), (0x112B0, 0x112EA, 70), (0x112F0, 0x112F9, 70),
    (0x11300, 0x11303, 43), (0x11305, 0x1130C, 43), (0x1130F, 0x11310, 43), (0x11313, 0x11328, 43),
    (0x1132A, 0x11330, 43), (0x11332, 0x11333, 43), (0x11335, 0x11339, 43), (0x1133B, 0x1133B, 57),
    (0x1133C, 0x11344, 43), (0x11347, 0x11348, 43), (0x1134B, 0x1134D, 43), (0x11350, 0x11350, 43),
    (0x11357, 0x11357, 43), (0x1135D, 0x11363, 43), (0x11366, 0x1136C, 43), (0x11370, 0x11374, 43),
    (0x11380, 0x11389, 161), (0x1138B, 0x1138B, 161), (0x1138E, 0x1138E, 161),
    (0x11390, 0x113B5, 161), (0x113B7, 0x113C0, 161), (0x113C2, 0x113C2, 161),
    (0x113C5, 0x113C5, 161), (0x113C7, 0x113CA, 161), (0x113CC, 0x113D5, 161),
    (0x113D7, 0x113D8, 161), (0x113E1, 0x113E2, 161), (0x11400, 0x1145B, 102),
    (0x1145D, 0x11461, 102), (0x11480, 0x114C7, 158), (0x114D0, 0x114D9, 158),
    (0x11580, 0x115B5, 134), (0x115B8, 0x115DD, 134), (0x11600, 0x11644, 94),
    (0x11650, 0x11659, 94), (0x11660, 0x1166C, 95), (0x11680, 0x116B9, 149),
    (0x116C0, 0x116C9, 149), (0x116D0, 0x116E3, 98), (0x11700, 0x1171A, 1), (0x1171D, 0x1172B, 1),
    (0x11730, 0x11746, 1), (0x11800, 0x1183B, 33), (0x118A0, 0x118F2, 166), (0x118FF, 0x118FF, 166),
    (0x11900, 0x11906, 32), (0x11909, 0x11909, 32), (0x1190C, 0x11913, 32), (0x11915, 0x11916, 32),
    (0x11918, 0x11935, 32), (0x11937, 0x11938, 32), (0x1193B, 0x11946, 32), (0x11950, 0x11959, 32),
    (0x119A0, 0x119A7, 101), (0x119AA, 0x119D7, 101), (0x119DA, 0x119E4, 101),
    (0x11A00, 0x11A47, 169), (0x11A50, 0x11AA2, 139), (0x11AB0, 0x11ABF, 17),
    (0x11AC0, 0x11AF8, 124), (0x11B00, 0x11B09, 31), (0x11BC0, 0x11BE1, 141),
    (0x11BF0, 0x11BF9, 141), (0x11C00, 0x11C08, 11), (0x11C0A, 0x11C36, 11), (0x11C38, 0x11C45, 11),
    (0x11C50, 0x11C6C, 11), (0x11C70, 0x11C8F, 86), (0x11C92, 0x11CA7, 86), (0x11CA9, 0x11CB6, 86),
    (0x11D00, 0x11D06, 87), (0x11D08, 0x11D09, 87), (0x11D0B, 0x11D36, 87), (0x11D3A, 0x11D3A, 87),
    (0x11D3C, 0x11D3D, 87), (0x11D3F, 0x11D47, 87), (0x11D50, 0x11D59, 87), (0x11D60, 0x11D65, 46),
    (0x11D67, 0x11D68, 46), (0x11D6A, 0x11D8E, 46), (0x11D90, 0x11D91, 46), (0x11D93, 0x11D98, 46),
    (0x11DA0, 0x11DA9, 46), (0x11EE0, 0x11EF8, 82), (0x11F00, 0x11F10, 64), (0x11F12, 0x11F3A, 64),
    (0x11F3E, 0x11F5A, 64), (0x11FB0, 0x11FB0, 78), (0x11FC0, 0x11FF1, 150),
    (0x11FFF, 0x11FFF, 150), (0x12000, 0x12399, 26), (0x12400, 0x1246E, 26), (0x12470, 0x12474, 26),
    (0x12480, 0x12543, 26), (0x12F90, 0x12FF2, 28), (0x13000, 0x13455, 35), (0x13460, 0x143FA, 35),
    (0x14400, 0x14646, 2), (0x16100, 0x16139, 48), (0x16800, 0x16A38, 7), (0x16A40, 0x16A5E, 96),
    (0x16A60, 0x16A69, 96), (0x16A6E, 0x16A6F, 96), (0x16A70, 0x16ABE, 151),
    (0x16AC0, 0x16AC9, 151), (0x16AD0, 0x16AED, 8), (0x16AF0, 0x16AF5, 8), (0x16B00, 0x16B45, 122),
    (0x16B50, 0x16B59, 122), (0x16B5B, 0x16B61, 122), (0x16B63, 0x16B77, 122),
    (0x16B7D, 0x16B8F, 122), (0x16D40, 0x16D79, 71), (0x16E40, 0x16E9A, 88), (0x16F00, 0x16F4A, 93),
    (0x16F4F, 0x16F87, 93), (0x16F8F, 0x16F9F, 93), (0x16FE0, 0x16FE0, 152),
    (0x16FE1, 0x16FE1, 105), (0x16FE2, 0x16FE3, 49), (0x16FE4, 0x16FE4, 67), (0x16FF0, 0x16FF1, 49),
    (0x17000, 0x187F7, 152), (0x18800, 0x18AFF, 152), (0x18B00, 0x18CD5, 67),
    (0x18CFF, 0x18CFF, 67), (0x18D00, 0x18D08, 152), (0x1AFF0, 0x1AFF3, 63), (0x1AFF5, 0x1AFFB, 63),
    (0x1AFFD, 0x1AFFE, 63), (0x1B000, 0x1B000, 63), (0x1B001, 0x1B11F, 55), (0x1B120, 0x1B122, 63),
    (0x1B132, 0x1B132, 55), (0x1B150, 0x1B152, 55), (0x1B155, 0x1B155, 63), (0x1B164, 0x1B167, 63),
    (0x1B170, 0x1B2FB, 105), (0x1BC00, 0x1BC6A, 34), (0x1BC70, 0x1BC7C, 34), (0x1BC80, 0x1BC88, 34),
    (0x1BC90, 0x1BC99, 34), (0x1BC9C, 0x1BC9F, 34), (0x1BCA0, 0x1BCA3, 24), (0x1CC00, 0x1CCF9, 24),
    (0x1CD00, 0x1CEB3, 24), (0x1CF00, 0x1CF2D, 57), (0x1CF30, 0x1CF46, 57), (0x1CF50, 0x1CFC3, 24),
    (0x1D000, 0x1D0F5, 24), (0x1D100, 0x1D126, 24), (0x1D129, 0x1D166, 24), (0x1D167, 0x1D169, 57),
    (0x1D16A, 0x1D17A, 24), (0x1D17B, 0x1D182, 57), (0x1D183, 0x1D184, 24), (0x1D185, 0x1D18B, 57),
    (0x1D18C, 0x1D1A9, 24), (0x1D1AA, 0x1D1AD, 57), (0x1D1AE, 0x1D1EA, 24), (0x1D200, 0x1D245, 44),
    (0x1D2C0, 0x1D2D3, 24), (0x1D2E0, 0x1D2F3, 24), (0x1D300, 0x1D356, 24), (0x1D360, 0x1D378, 24),
    (0x1D400, 0x1D454, 24), (0x1D456, 0x1D49C, 24), (0x1D49E, 0x1D49F, 24), (0x1D4A2, 0x1D4A2, 24),
    (0x1D4A5, 0x1D4A6, 24), (0x1D4A9, 0x1D4AC, 24), (0x1D4AE, 0x1D4B9, 24), (0x1D4BB, 0x1D4BB, 24),
    (0x1D4BD, 0x1D4C3, 24), (0x1D4C5, 0x1D505, 24), (0x1D507, 0x1D50A, 24), (0x1D50D, 0x1D514, 24),
    (0x1D516, 0x1D51C, 24), (0x1D51E, 0x1D539, 24), (0x1D53B, 0x1D53E, 24), (0x1D540, 0x1D544, 24),
    (0x1D546, 0x1D546, 24), (0x1D54A, 0x1D550, 24), (0x1D552, 0x1D6A5, 24), (0x1D6A8, 0x1D7CB, 24),
    (0x1D7CE, 0x1D7FF, 24), (0x1D800, 0x1DA8B, 135), (0x1DA9B, 0x1DA9F, 135),
    (0x1DAA1, 0x1DAAF, 135), (0x1DF00, 0x1DF1E, 73), (0x1DF25, 0x1DF2A, 73), (0x1E000, 0x1E006, 41),
    (0x1E008, 0x1E018, 41), (0x1E01B, 0x1E021, 41), (0x1E023, 0x1E024, 41), (0x1E026, 0x1E02A, 41),
    (0x1E030, 0x1E06D, 29), (0x1E08F, 0x1E08F, 29), (0x1E100, 0x1E12C, 106),
    (0x1E130, 0x1E13D, 106), (0x1E140, 0x1E149, 106), (0x1E14E, 0x1E14F, 106),
    (0x1E290, 0x1E2AE, 160), (0x1E2C0, 0x1E2F9, 165), (0x1E2FF, 0x1E2FF, 165),
    (0x1E4D0, 0x1E4F9, 100), (0x1E5D0, 0x1E5FA, 118), (0x1E5FF, 0x1E5FF, 118),
    (0x1E7E0, 0x1E7E6, 38), (0x1E7E8, 0x1E7EB, 38), (0x1E7ED, 0x1E7EE, 38), (0x1E7F0, 0x1E7FE, 38),
    (0x1E800, 0x1E8C4, 90), (0x1E8C7, 0x1E8D6, 90), (0x1E900, 0x1E94B, 0), (0x1E950, 0x1E959, 0),
    (0x1E95E, 0x1E95F, 0), (0x1EC71, 0x1ECB4, 24), (0x1ED01, 0x1ED3D, 24), (0x1EE00, 0x1EE03, 3),
    (0x1EE05, 0x1EE1F, 3), (0x1EE21, 0x1EE22, 3), (0x1EE24, 0x1EE24, 3), (0x1EE27, 0x1EE27, 3),
    (0x1EE29, 0x1EE32, 3), (0x1EE34, 0x1EE37, 3), (0x1EE39, 0x1EE39, 3), (0x1EE3B, 0x1EE3B, 3),
    (0x1EE42, 0x1EE42, 3), (0x1EE47, 0x1EE47, 3), (0x1EE49, 0x1EE49, 3), (0x1EE4B, 0x1EE4B, 3),
    (0x1EE4D, 0x1EE4F, 3), (0x1EE51, 0x1EE52, 3), (0x1EE54, 0x1EE54, 3), (0x1EE57, 0x1EE57, 3),
    (0x1EE59, 0x1EE59, 3), (0x1EE5B, 0x1EE5B, 3), (0x1EE5D, 0x1EE5D, 3), (0x1EE5F, 0x1EE5F, 3),
    (0x1EE61, 0x1EE62, 3), (0x1EE64, 0x1EE64, 3), (0x1EE67, 0x1EE6A, 3), (0x1EE6C, 0x1EE72, 3),
    (0x1EE74, 0x1EE77, 3), (0x1EE79, 0x1EE7C, 3), (0x1EE7E, 0x1EE7E, 3), (0x1EE80, 0x1EE89, 3),
    (0x1EE8B, 0x1EE9B, 3), (0x1EEA1, 0x1EEA3, 3), (0x1EEA5, 0x1EEA9, 3), (0x1EEAB, 0x1EEBB, 3),
    (0x1EEF0, 0x1EEF1, 3), (0x1F000, 0x1F02B, 24), (0x1F030, 0x1F093, 24), (0x1F0A0, 0x1F0AE, 24),
    (0x1F0B1, 0x1F0BF, 24), (0x1F0C1, 0x1F0CF, 24), (0x1F0D1, 0x1F0F5, 24), (0x1F100, 0x1F1AD, 24),
    (0x1F1E6, 0x1F1FF, 24), (0x1F200, 0x1F200, 55), (0x1F201, 0x1F202, 24), (0x1F210, 0x1F23B, 24),
    (0x1F240, 0x1F248, 24), (0x1F250, 0x1F251, 24), (0x1F260, 0x1F265, 24), (0x1F300, 0x1F6D7, 24),
    (0x1F6DC, 0x1F6EC, 24), (0x1F6F0, 0x1F6FC, 24), (0x1F700, 0x1F776, 24), (0x1F77B, 0x1F7D9, 24),
    (0x1F7E0, 0x1F7EB, 24), (0x1F7F0, 0x1F7F0, 24), (0x1F800, 0x1F80B, 24), (0x1F810, 0x1F847, 24),
    (0x1F850, 0x1F859, 24), (0x1F860, 0x1F887, 24), (0x1F890, 0x1F8AD, 24), (0x1F8B0, 0x1F8BB, 24),
    (0x1F8C0, 0x1F8C1, 24), (0x1F900, 0x1FA53, 24), (0x1FA60, 0x1FA6D, 24), (0x1FA70, 0x1FA7C, 24),
    (0x1FA80, 0x1FA89, 24), (0x1FA8F, 0x1FAC6, 24), (0x1FACE, 0x1FADC, 24), (0x1FADF, 0x1FAE9, 24),
    (0x1FAF0, 0x1FAF8, 24), (0x1FB00, 0x1FB92, 24), (0x1FB94, 0x1FBF9, 24), (0x20000, 0x2A6DF, 49),
    (0x2A700, 0x2B739, 49), (0x2B740, 0x2B81D, 49), (0x2B820, 0x2CEA1, 49), (0x2CEB0, 0x2EBE0, 49),
    (0x2EBF0, 0x2EE5D, 49), (0x2F800, 0x2FA1D, 49), (0x30000, 0x3134A, 49), (0x31350, 0x323AF, 49),
    (0xE0001, 0xE0001, 24), (0xE0020, 0xE007F, 24), (0xE0100, 0xE01EF, 57)
]

/-- First and last character of a run, and the position of its script. -/
def runs : List (Nat × Nat × Nat) :=
  firstRuns ++ secondRuns ++ thirdRuns

/-- Characters that do not belong to their script alone: first, last, and the positions of all
scripts that use them. -/
def shared : List (Nat × Nat × List Nat) := [
    (0xB7, 0xB7, [5, 18, 25, 34, 36, 40, 41, 42, 44, 46, 49, 73, 80, 81, 112, 133]),
    (0x2BC, 0x2BC, [10, 29, 31, 73, 78, 155, 160]), (0x2C7, 0x2C7, [12, 73]),
    (0x2C9, 0x2CB, [12, 73]), (0x2CD, 0x2CD, [73, 78]), (0x2D7, 0x2D7, [73, 155]),
    (0x2D9, 0x2D9, [12, 73]), (0x300, 0x300, [22, 25, 29, 44, 73, 112, 141, 146]),
    (0x301, 0x301, [22, 29, 44, 73, 120, 141, 146, 159]), (0x302, 0x302, [22, 29, 73, 157]),
    (0x303, 0x303, [41, 73, 141, 143, 155]),
    (0x304, 0x304, [19, 22, 25, 29, 42, 44, 73, 120, 143, 157, 159]),
    (0x305, 0x305, [25, 36, 41, 42, 63, 73]), (0x306, 0x306, [29, 44, 73, 112, 157]),
    (0x307, 0x307, [25, 34, 54, 73, 112, 143, 146, 157, 159]),
    (0x308, 0x308, [4, 29, 34, 42, 44, 54, 73, 112, 143, 146, 157]), (0x309, 0x309, [73, 157]),
    (0x30A, 0x30A, [34, 73, 143]), (0x30B, 0x30B, [22, 29, 73, 120]), (0x30C, 0x30C, [22, 73, 146]),
    (0x30D, 0x30D, [73, 141]), (0x30E, 0x30E, [38, 73]), (0x310, 0x310, [73, 141]),
    (0x311, 0x311, [29, 73, 159]), (0x313, 0x313, [44, 73, 112, 159]),
    (0x323, 0x323, [22, 34, 63, 73, 143, 157]), (0x324, 0x324, [22, 34, 73, 143]),
    (0x325, 0x325, [73, 143]), (0x32D, 0x32D, [73, 141, 143]), (0x32E, 0x32E, [73, 143]),
    (0x330, 0x330, [22, 73, 143]), (0x331, 0x331, [19, 22, 42, 73, 141, 143, 155]),
    (0x342, 0x342, [44]), (0x345, 0x345, [44]), (0x358, 0x358, [73, 120]),
    (0x35E, 0x35E, [19, 73, 159]), (0x363, 0x36F, [73]), (0x374, 0x375, [25, 44]),
    (0x483, 0x483, [29, 112]), (0x484, 0x484, [29, 41]), (0x485, 0x486, [29, 73]),
    (0x487, 0x487, [29, 41]), (0x589, 0x589, [4, 40, 41]),
    (0x60C, 0x60C, [3, 39, 51, 104, 143, 154, 167]),
    (0x61B, 0x61B, [3, 39, 51, 104, 143, 154, 167]), (0x61C, 0x61C, [3, 143, 154]),
    (0x61F, 0x61F, [0, 3, 39, 51, 104, 143, 154, 167]),
    (0x640, 0x640, [0, 3, 51, 84, 85, 117, 127, 137, 143]), (0x64B, 0x655, [3, 143]),
    (0x660, 0x669, [3, 154, 167]), (0x670, 0x670, [3, 143]), (0x6D4, 0x6D4, [3, 51]),
    (0x951, 0x951, [10, 31, 43, 45, 47, 62, 73, 83, 101, 102, 119, 132, 150, 153, 158]),
    (0x952, 0x952, [10, 31, 43, 45, 47, 62, 73, 83, 102, 119, 150, 153, 158]),
    (0x964, 0x964, [10, 31, 33, 43, 45, 46, 47, 62, 70, 81, 83, 87, 101, 118, 119, 136, 142, 149,
      150, 153, 158]),
    (0x965, 0x965, [10, 31, 33, 43, 45, 46, 47, 48, 62, 70, 75, 81, 83, 87, 101, 118, 119, 136,
      142, 149, 150, 153, 158]),
    (0x966, 0x96F, [31, 33, 61, 81]), (0x9E6, 0x9EF, [10, 20, 142]), (0xA66, 0xA6F, [47, 97]),
    (0xAE6, 0xAEF, [45, 69]), (0xBE6, 0xBF3, [43, 150]), (0xCE6, 0xCEF, [62, 101, 161]),
    (0x1040, 0x1049, [20, 98, 146]), (0x10FB, 0x10FB, [40, 41, 73]), (0x16EB, 0x16ED, [129]),
    (0x1735, 0x1736, [16, 52, 144, 145]), (0x1802, 0x1803, [95, 125]), (0x1805, 0x1805, [95, 125]),
    (0x1CD0, 0x1CD0, [10, 31, 43, 62]), (0x1CD1, 0x1CD1, [31]), (0x1CD2, 0x1CD2, [10, 31, 43, 62]),
    (0x1CD3, 0x1CD3, [31, 43, 62]), (0x1CD4, 0x1CD4, [31]),
    (0x1CD5, 0x1CD5, [10, 31, 102, 153, 158]), (0x1CD6, 0x1CD6, [10, 31, 153]),
    (0x1CD7, 0x1CD7, [31, 102, 132]), (0x1CD8, 0x1CD8, [10, 31, 102, 153]),
    (0x1CD9, 0x1CD9, [31, 132]), (0x1CDA, 0x1CDA, [31, 62, 83, 119, 150, 153]),
    (0x1CDB, 0x1CDB, [31]), (0x1CDC, 0x1CDD, [31, 132]), (0x1CDE, 0x1CDF, [31]),
    (0x1CE0, 0x1CE0, [31, 132]), (0x1CE1, 0x1CE1, [10, 31]), (0x1CE2, 0x1CE2, [31, 102, 158]),
    (0x1CE3, 0x1CE8, [31]), (0x1CE9, 0x1CE9, [31, 101, 102]), (0x1CEA, 0x1CEA, [10, 31, 132]),
    (0x1CEB, 0x1CEB, [31, 102]), (0x1CEC, 0x1CEC, [31]), (0x1CED, 0x1CED, [10, 31, 102, 132]),
    (0x1CEE, 0x1CF1, [31]), (0x1CF2, 0x1CF2, [10, 31, 43, 62, 83, 101, 119, 136, 153, 158, 161]),
    (0x1CF3, 0x1CF3, [31, 43]), (0x1CF4, 0x1CF4, [31, 43, 62, 161]), (0x1CF5, 0x1CF6, [10, 31]),
    (0x1CF7, 0x1CF7, [10]), (0x1CF8, 0x1CF9, [31, 43]), (0x1CFA, 0x1CFA, [101]),
    (0x1DC0, 0x1DC1, [44]), (0x1DF8, 0x1DF8, [29, 73, 143]), (0x1DFA, 0x1DFA, [143]),
    (0x202F, 0x202F, [73, 95, 125]), (0x204F, 0x204F, [0, 3]),
    (0x205A, 0x205A, [18, 40, 41, 79, 109, 116]), (0x205D, 0x205D, [18, 44, 92, 109]),
    (0x20F0, 0x20F0, [31, 43, 73]), (0x2E17, 0x2E17, [25, 73]), (0x2E30, 0x2E30, [5, 116]),
    (0x2E31, 0x2E31, [5, 18, 40, 61, 80, 109, 130]), (0x2E3C, 0x2E3C, [34]),
    (0x2E41, 0x2E41, [0, 3, 109]), (0x2E43, 0x2E43, [29, 41]), (0x2FF0, 0x2FFF, [49, 152]),
    (0x3001, 0x3001, [12, 49, 50, 55, 63, 95, 168]),
    (0x3002, 0x3002, [12, 49, 50, 55, 63, 95, 125, 168]), (0x3003, 0x3003, [12, 49, 50, 55, 63]),
    (0x3006, 0x3006, [49]), (0x3008, 0x3009, [12, 49, 50, 55, 63, 95, 156, 168]),
    (0x300A, 0x300B, [12, 49, 50, 55, 63, 78, 95, 156, 168]),
    (0x300C, 0x3011, [12, 49, 50, 55, 63, 168]), (0x3013, 0x3013, [12, 49, 50, 55, 63]),
    (0x3014, 0x301B, [12, 49, 50, 55, 63, 168]), (0x301C, 0x301F, [12, 49, 50, 55, 63]),
    (0x302A, 0x302D, [12, 49]), (0x3030, 0x3030, [12, 49, 50, 55, 63]), (0x3031, 0x3035, [55, 63]),
    (0x3037, 0x3037, [12, 49, 50, 55, 63]), (0x303C, 0x303D, [49, 55, 63]), (0x303E, 0x303F, [49]),
    (0x3099, 0x309C, [55, 63]), (0x30A0, 0x30A0, [55, 63]),
    (0x30FB, 0x30FB, [12, 49, 50, 55, 63, 168]), (0x30FC, 0x30FC, [55, 63]), (0x3190, 0x319F, [49]),
    (0x31C0, 0x31E5, [49]), (0x31EF, 0x31EF, [49, 152]), (0x3220, 0x3247, [49]),
    (0x3280, 0x32B0, [49]), (0x32C0, 0x32CB, [49]), (0x32FF, 0x32FF, [49]), (0x3358, 0x3370, [49]),
    (0x337B, 0x337F, [49]), (0x33E0, 0x33FE, [49]), (0xA66F, 0xA66F, [29, 41]),
    (0xA700, 0xA707, [49, 73]),
    (0xA830, 0xA832, [31, 33, 45, 47, 61, 62, 69, 70, 81, 83, 94, 101, 132, 149, 158, 161]),
    (0xA833, 0xA835, [31, 33, 45, 47, 61, 62, 69, 70, 81, 94, 101, 132, 149, 158, 161]),
    (0xA836, 0xA837, [31, 33, 45, 47, 61, 69, 70, 81, 94, 149, 158]),
    (0xA838, 0xA838, [31, 33, 45, 47, 61, 69, 70, 81, 94, 132, 149, 158]),
    (0xA839, 0xA839, [31, 33, 45, 47, 61, 69, 70, 81, 94, 149, 158]),
    (0xA8F1, 0xA8F1, [10, 31, 161]), (0xA8F3, 0xA8F3, [31, 150]), (0xA92E, 0xA92E, [65, 73, 98]),
    (0xA9CF, 0xA9CF, [15, 60]), (0xFD3E, 0xFD3F, [3, 104]), (0xFDF2, 0xFDF2, [3, 154]),
    (0xFDFD, 0xFDFD, [3, 154]), (0xFE45, 0xFE46, [12, 49, 50, 55, 63]),
    (0xFF61, 0xFF65, [12, 49, 50, 55, 63, 168]), (0xFF70, 0xFF70, [55, 63]),
    (0xFF9E, 0xFF9F, [55, 63]), (0x10100, 0x10101, [27, 28, 77]), (0x10102, 0x10102, [27, 77]),
    (0x10107, 0x10133, [27, 76, 77]), (0x10137, 0x1013F, [27, 77]), (0x102E0, 0x102FB, [3, 25]),
    (0x10AF2, 0x10AF2, [85, 117]), (0x11301, 0x11301, [43, 150]), (0x11303, 0x11303, [43, 150]),
    (0x1133B, 0x1133C, [43, 150]), (0x11FD0, 0x11FD1, [43, 150]), (0x11FD3, 0x11FD3, [43, 150]),
    (0x1BCA0, 0x1BCA3, [34]), (0x1D360, 0x1D371, [49]), (0x1F250, 0x1F251, [49])
]

def position? (name : String) : Option Nat := names.findIdx? fun known => known.contains name

def ofPosition (position : Nat) : Ranges :=
  runs.filterMap fun (low, high, script) =>
    if script = position then some (low, high) else none

/-- The characters that the script at a position uses. -/
def usedBy (position : Nat) : Ranges :=
  .union (.diff (ofPosition position) (shared.map fun (low, high, _) => (low, high)))
    (shared.filterMap fun (low, high, scripts) =>
      if scripts.contains position then some (low, high) else none)

def find? (name : String) : Option Ranges := (position? name).map ofPosition

/-- The characters that the script with the given name uses. -/
def findUsed? (name : String) : Option Ranges := (position? name).map usedBy

end Registrar.Text.Script
