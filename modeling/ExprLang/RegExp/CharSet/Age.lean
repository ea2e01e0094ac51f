import ExprLang.Text.CharClass

/-!
# ExprLang.RegExp.CharSet.Age

The version of Unicode that introduced each character, up to Unicode 16.0, and the names of the
versions as patterns may write them.
-/

namespace ExprLang

/-- The names of each version, without case and underscores, the oldest first; a version is its
place here. -/
def ageNames : List (List String) := [
  ["1.1", "v11"], ["2.0", "v20"], ["2.1", "v21"], ["3.0", "v30"], ["3.1", "v31"], ["3.2", "v32"],
  ["4.0", "v40"], ["4.1", "v41"], ["5.0", "v50"], ["5.1", "v51"], ["5.2", "v52"], ["6.0", "v60"],
  ["6.1", "v61"], ["6.2", "v62"], ["6.3", "v63"], ["7.0", "v70"], ["8.0", "v80"], ["9.0", "v90"],
  ["10.0", "v100"], ["11.0", "v110"], ["12.0", "v120"], ["12.1", "v121"], ["13.0", "v130"],
  ["14.0", "v140"], ["15.0", "v150"], ["15.1", "v151"], ["16.0", "v160"]]

set_option maxRecDepth 20000 in
/-- Runs of characters introduced by one version: the first character of each, and the version
counted from one; zero stands for none. -/
def ageRuns : Array (Nat × Nat) := #[
  (0x0, 1), (0x1F6, 4), (0x1FA, 1), (0x218, 4), (0x220, 6), (0x221, 7), (0x222, 4), (0x234, 7),
  (0x237, 8), (0x242, 9), (0x250, 1), (0x2A9, 4), (0x2AE, 7), (0x2B0, 1), (0x2DF, 4), (0x2E0, 1),
  (0x2EA, 4), (0x2EF, 7), (0x300, 1), (0x346, 4), (0x34F, 6), (0x350, 7), (0x358, 8), (0x35D, 7),
  (0x360, 1), (0x362, 4), (0x363, 6), (0x370, 10), (0x374, 1), (0x376, 10), (0x378, 0),
  (0x37A, 1), (0x37B, 9), (0x37E, 1), (0x37F, 16), (0x380, 0), (0x384, 1), (0x38B, 0), (0x38C, 1),
  (0x38D, 0), (0x38E, 1), (0x3A2, 0), (0x3A3, 1), (0x3CF, 10), (0x3D0, 1), (0x3D7, 4), (0x3D8, 6),
  (0x3DA, 1), (0x3DB, 4), (0x3DC, 1), (0x3DD, 4), (0x3DE, 1), (0x3DF, 4), (0x3E0, 1), (0x3E1, 4),
  (0x3E2, 1), (0x3F4, 5), (0x3F6, 6), (0x3F7, 7), (0x3FC, 8), (0x400, 4), (0x401, 1), (0x40D, 4),
  (0x40E, 1), (0x450, 4), (0x451, 1), (0x45D, 4), (0x45E, 1), (0x487, 10), (0x488, 4), (0x48A, 6),
  (0x48C, 4), (0x490, 1), (0x4C5, 6), (0x4C7, 1), (0x4C9, 6), (0x4CB, 1), (0x4CD, 6), (0x4CF, 9),
  (0x4D0, 1), (0x4EC, 4), (0x4EE, 1), (0x4F6, 8), (0x4F8, 1), (0x4FA, 9), (0x500, 6), (0x510, 9),
  (0x514, 10), (0x524, 11), (0x526, 12), (0x528, 16), (0x530, 0), (0x531, 1), (0x557, 0),
  (0x559, 1), (0x560, 20), (0x561, 1), (0x588, 20), (0x589, 1), (0x58A, 4), (0x58B, 0),
  (0x58D, 16), (0x58F, 13), (0x590, 0), (0x591, 2), (0x5A2, 8), (0x5A3, 2), (0x5B0, 1),
  (0x5BA, 9), (0x5BB, 1), (0x5C4, 2), (0x5C5, 8), (0x5C8, 0), (0x5D0, 1), (0x5EB, 0), (0x5EF, 20),
  (0x5F0, 1), (0x5F5, 0), (0x600, 7), (0x604, 13), (0x605, 16), (0x606, 10), (0x60B, 8),
  (0x60C, 1), (0x60D, 7), (0x616, 10), (0x61B, 1), (0x61C, 15), (0x61D, 24), (0x61E, 8),
  (0x61F, 1), (0x620, 12), (0x621, 1), (0x63B, 10), (0x640, 1), (0x653, 4), (0x656, 7),
  (0x659, 8), (0x65F, 12), (0x660, 1), (0x66E, 6), (0x670, 1), (0x6B8, 4), (0x6BA, 1), (0x6BF, 4),
  (0x6C0, 1), (0x6CF, 4), (0x6D0, 1), (0x6EE, 7), (0x6F0, 1), (0x6FA, 4), (0x6FF, 7), (0x700, 4),
  (0x70E, 0), (0x70F, 4), (0x72D, 7), (0x730, 4), (0x74B, 0), (0x74D, 7), (0x750, 8), (0x76E, 10),
  (0x780, 4), (0x7B1, 6), (0x7B2, 0), (0x7C0, 9), (0x7FB, 0), (0x7FD, 20), (0x800, 11),
  (0x82E, 0), (0x830, 11), (0x83F, 0), (0x840, 12), (0x85C, 0), (0x85E, 12), (0x85F, 0),
  (0x860, 19), (0x86B, 0), (0x870, 24), (0x88F, 0), (0x890, 24), (0x892, 0), (0x897, 27),
  (0x898, 24), (0x8A0, 13), (0x8A1, 16), (0x8A2, 13), (0x8AD, 16), (0x8B3, 17), (0x8B5, 24),
  (0x8B6, 18), (0x8BE, 23), (0x8C8, 24), (0x8D3, 20), (0x8D4, 18), (0x8E3, 17), (0x8E4, 13),
  (0x8FF, 16), (0x900, 11), (0x901, 1), (0x904, 7), (0x905, 1), (0x93A, 12), (0x93C, 1),
  (0x94E, 11), (0x94F, 12), (0x950, 1), (0x955, 11), (0x956, 12), (0x958, 1), (0x971, 10),
  (0x973, 12), (0x978, 16), (0x979, 11), (0x97B, 9), (0x97D, 8), (0x97E, 9), (0x980, 16),
  (0x981, 1), (0x984, 0), (0x985, 1), (0x98D, 0), (0x98F, 1), (0x991, 0), (0x993, 1), (0x9A9, 0),
  (0x9AA, 1), (0x9B1, 0), (0x9B2, 1), (0x9B3, 0), (0x9B6, 1), (0x9BA, 0), (0x9BC, 1), (0x9BD, 7),
  (0x9BE, 1), (0x9C5, 0), (0x9C7, 1), (0x9C9, 0), (0x9CB, 1), (0x9CE, 8), (0x9CF, 0), (0x9D7, 1),
  (0x9D8, 0), (0x9DC, 1), (0x9DE, 0), (0x9DF, 1), (0x9E4, 0), (0x9E6, 1), (0x9FB, 11),
  (0x9FC, 19), (0x9FE, 20), (0x9FF, 0), (0xA01, 7), (0xA02, 1), (0xA03, 7), (0xA04, 0),
  (0xA05, 1), (0xA0B, 0), (0xA0F, 1), (0xA11, 0), (0xA13, 1), (0xA29, 0), (0xA2A, 1), (0xA31, 0),
  (0xA32, 1), (0xA34, 0), (0xA35, 1), (0xA37, 0), (0xA38, 1), (0xA3A, 0), (0xA3C, 1), (0xA3D, 0),
  (0xA3E, 1), (0xA43, 0), (0xA47, 1), (0xA49, 0), (0xA4B, 1), (0xA4E, 0), (0xA51, 10), (0xA52, 0),
  (0xA59, 1), (0xA5D, 0), (0xA5E, 1), (0xA5F, 0), (0xA66, 1), (0xA75, 10), (0xA76, 20),
  (0xA77, 0), (0xA81, 1), (0xA84, 0), (0xA85, 1), (0xA8C, 7), (0xA8D, 1), (0xA8E, 0), (0xA8F, 1),
  (0xA92, 0), (0xA93, 1), (0xAA9, 0), (0xAAA, 1), (0xAB1, 0), (0xAB2, 1), (0xAB4, 0), (0xAB5, 1),
  (0xABA, 0), (0xABC, 1), (0xAC6, 0), (0xAC7, 1), (0xACA, 0), (0xACB, 1), (0xACE, 0), (0xAD0, 1),
  (0xAD1, 0), (0xAE0, 1), (0xAE1, 7), (0xAE4, 0), (0xAE6, 1), (0xAF0, 13), (0xAF1, 7), (0xAF2, 0),
  (0xAF9, 17), (0xAFA, 19), (0xB00, 0), (0xB01, 1), (0xB04, 0), (0xB05, 1), (0xB0D, 0),
  (0xB0F, 1), (0xB11, 0), (0xB13, 1), (0xB29, 0), (0xB2A, 1), (0xB31, 0), (0xB32, 1), (0xB34, 0),
  (0xB35, 7), (0xB36, 1), (0xB3A, 0), (0xB3C, 1), (0xB44, 10), (0xB45, 0), (0xB47, 1), (0xB49, 0),
  (0xB4B, 1), (0xB4E, 0), (0xB55, 23), (0xB56, 1), (0xB58, 0), (0xB5C, 1), (0xB5E, 0), (0xB5F, 1),
  (0xB62, 10), (0xB64, 0), (0xB66, 1), (0xB71, 7), (0xB72, 12), (0xB78, 0), (0xB82, 1),
  (0xB84, 0), (0xB85, 1), (0xB8B, 0), (0xB8E, 1), (0xB91, 0), (0xB92, 1), (0xB96, 0), (0xB99, 1),
  (0xB9B, 0), (0xB9C, 1), (0xB9D, 0), (0xB9E, 1), (0xBA0, 0), (0xBA3, 1), (0xBA5, 0), (0xBA8, 1),
  (0xBAB, 0), (0xBAE, 1), (0xBB6, 8), (0xBB7, 1), (0xBBA, 0), (0xBBE, 1), (0xBC3, 0), (0xBC6, 1),
  (0xBC9, 0), (0xBCA, 1), (0xBCE, 0), (0xBD0, 10), (0xBD1, 0), (0xBD7, 1), (0xBD8, 0), (0xBE6, 8),
  (0xBE7, 1), (0xBF3, 7), (0xBFB, 0), (0xC00, 16), (0xC01, 1), (0xC04, 20), (0xC05, 1),
  (0xC0D, 0), (0xC0E, 1), (0xC11, 0), (0xC12, 1), (0xC29, 0), (0xC2A, 1), (0xC34, 16), (0xC35, 1),
  (0xC3A, 0), (0xC3C, 24), (0xC3D, 10), (0xC3E, 1), (0xC45, 0), (0xC46, 1), (0xC49, 0),
  (0xC4A, 1), (0xC4E, 0), (0xC55, 1), (0xC57, 0), (0xC58, 10), (0xC5A, 17), (0xC5B, 0),
  (0xC5D, 24), (0xC5E, 0), (0xC60, 1), (0xC62, 10), (0xC64, 0), (0xC66, 1), (0xC70, 0),
  (0xC77, 21), (0xC78, 10), (0xC80, 18), (0xC81, 16), (0xC82, 1), (0xC84, 20), (0xC85, 1),
  (0xC8D, 0), (0xC8E, 1), (0xC91, 0), (0xC92, 1), (0xCA9, 0), (0xCAA, 1), (0xCB4, 0), (0xCB5, 1),
  (0xCBA, 0), (0xCBC, 7), (0xCBE, 1), (0xCC5, 0), (0xCC6, 1), (0xCC9, 0), (0xCCA, 1), (0xCCE, 0),
  (0xCD5, 1), (0xCD7, 0), (0xCDD, 24), (0xCDE, 1), (0xCDF, 0), (0xCE0, 1), (0xCE2, 9), (0xCE4, 0),
  (0xCE6, 1), (0xCF0, 0), (0xCF1, 9), (0xCF3, 25), (0xCF4, 0), (0xD00, 19), (0xD01, 16),
  (0xD02, 1), (0xD04, 23), (0xD05, 1), (0xD0D, 0), (0xD0E, 1), (0xD11, 0), (0xD12, 1),
  (0xD29, 12), (0xD2A, 1), (0xD3A, 12), (0xD3B, 19), (0xD3D, 10), (0xD3E, 1), (0xD44, 10),
  (0xD45, 0), (0xD46, 1), (0xD49, 0), (0xD4A, 1), (0xD4E, 12), (0xD4F, 18), (0xD50, 0),
  (0xD54, 18), (0xD57, 1), (0xD58, 18), (0xD5F, 17), (0xD60, 1), (0xD62, 10), (0xD64, 0),
  (0xD66, 1), (0xD70, 10), (0xD76, 18), (0xD79, 10), (0xD80, 0), (0xD81, 23), (0xD82, 4),
  (0xD84, 0), (0xD85, 4), (0xD97, 0), (0xD9A, 4), (0xDB2, 0), (0xDB3, 4), (0xDBC, 0), (0xDBD, 4),
  (0xDBE, 0), (0xDC0, 4), (0xDC7, 0), (0xDCA, 4), (0xDCB, 0), (0xDCF, 4), (0xDD5, 0), (0xDD6, 4),
  (0xDD7, 0), (0xDD8, 4), (0xDE0, 0), (0xDE6, 16), (0xDF0, 0), (0xDF2, 4), (0xDF5, 0), (0xE01, 1),
  (0xE3B, 0), (0xE3F, 1), (0xE5C, 0), (0xE81, 1), (0xE83, 0), (0xE84, 1), (0xE85, 0), (0xE86, 21),
  (0xE87, 1), (0xE89, 21), (0xE8A, 1), (0xE8B, 0), (0xE8C, 21), (0xE8D, 1), (0xE8E, 21),
  (0xE94, 1), (0xE98, 21), (0xE99, 1), (0xEA0, 21), (0xEA1, 1), (0xEA4, 0), (0xEA5, 1),
  (0xEA6, 0), (0xEA7, 1), (0xEA8, 21), (0xEAA, 1), (0xEAC, 21), (0xEAD, 1), (0xEBA, 21),
  (0xEBB, 1), (0xEBE, 0), (0xEC0, 1), (0xEC5, 0), (0xEC6, 1), (0xEC7, 0), (0xEC8, 1), (0xECE, 25),
  (0xECF, 0), (0xED0, 1), (0xEDA, 0), (0xEDC, 1), (0xEDE, 13), (0xEE0, 0), (0xF00, 2), (0xF48, 0),
  (0xF49, 2), (0xF6A, 4), (0xF6B, 10), (0xF6D, 0), (0xF71, 2), (0xF8C, 12), (0xF90, 2),
  (0xF96, 4), (0xF97, 2), (0xF98, 0), (0xF99, 2), (0xFAE, 4), (0xFB1, 2), (0xFB8, 4), (0xFB9, 2),
  (0xFBA, 4), (0xFBD, 0), (0xFBE, 4), (0xFCD, 0), (0xFCE, 10), (0xFCF, 4), (0xFD0, 8),
  (0xFD2, 10), (0xFD5, 11), (0xFD9, 12), (0xFDB, 0), (0x1000, 4), (0x1022, 10), (0x1023, 4),
  (0x1028, 10), (0x1029, 4), (0x102B, 10), (0x102C, 4), (0x1033, 10), (0x1036, 4), (0x103A, 10),
  (0x1040, 4), (0x105A, 10), (0x109A, 11), (0x109E, 10), (0x10A0, 1), (0x10C6, 0), (0x10C7, 13),
  (0x10C8, 0), (0x10CD, 13), (0x10CE, 0), (0x10D0, 1), (0x10F7, 6), (0x10F9, 8), (0x10FB, 1),
  (0x10FC, 8), (0x10FD, 13), (0x1100, 1), (0x115A, 11), (0x115F, 1), (0x11A3, 11), (0x11A8, 1),
  (0x11FA, 11), (0x1200, 4), (0x1207, 8), (0x1208, 4), (0x1247, 8), (0x1248, 4), (0x1249, 0),
  (0x124A, 4), (0x124E, 0), (0x1250, 4), (0x1257, 0), (0x1258, 4), (0x1259, 0), (0x125A, 4),
  (0x125E, 0), (0x1260, 4), (0x1287, 8), (0x1288, 4), (0x1289, 0), (0x128A, 4), (0x128E, 0),
  (0x1290, 4), (0x12AF, 8), (0x12B0, 4), (0x12B1, 0), (0x12B2, 4), (0x12B6, 0), (0x12B8, 4),
  (0x12BF, 0), (0x12C0, 4), (0x12C1, 0), (0x12C2, 4), (0x12C6, 0), (0x12C8, 4), (0x12CF, 8),
  (0x12D0, 4), (0x12D7, 0), (0x12D8, 4), (0x12EF, 8), (0x12F0, 4), (0x130F, 8), (0x1310, 4),
  (0x1311, 0), (0x1312, 4), (0x1316, 0), (0x1318, 4), (0x131F, 8), (0x1320, 4), (0x1347, 8),
  (0x1348, 4), (0x135B, 0), (0x135D, 12), (0x135F, 8), (0x1361, 4), (0x137D, 0), (0x1380, 8),
  (0x139A, 0), (0x13A0, 4), (0x13F5, 17), (0x13F6, 0), (0x13F8, 17), (0x13FE, 0), (0x1400, 11),
  (0x1401, 4), (0x1677, 11), (0x1680, 4), (0x169D, 0), (0x16A0, 4), (0x16F1, 16), (0x16F9, 0),
  (0x1700, 6), (0x170D, 24), (0x170E, 6), (0x1715, 24), (0x1716, 0), (0x171F, 24), (0x1720, 6),
  (0x1737, 0), (0x1740, 6), (0x1754, 0), (0x1760, 6), (0x176D, 0), (0x176E, 6), (0x1771, 0),
  (0x1772, 6), (0x1774, 0), (0x1780, 4), (0x17DD, 7), (0x17DE, 0), (0x17E0, 4), (0x17EA, 0),
  (0x17F0, 7), (0x17FA, 0), (0x1800, 4), (0x180F, 24), (0x1810, 4), (0x181A, 0), (0x1820, 4),
  (0x1878, 20), (0x1879, 0), (0x1880, 4), (0x18AA, 10), (0x18AB, 0), (0x18B0, 11), (0x18F6, 0),
  (0x1900, 7), (0x191D, 16), (0x191F, 0), (0x1920, 7), (0x192C, 0), (0x1930, 7), (0x193C, 0),
  (0x1940, 7), (0x1941, 0), (0x1944, 7), (0x196E, 0), (0x1970, 7), (0x1975, 0), (0x1980, 8),
  (0x19AA, 11), (0x19AC, 0), (0x19B0, 8), (0x19CA, 0), (0x19D0, 8), (0x19DA, 11), (0x19DB, 0),
  (0x19DE, 8), (0x19E0, 7), (0x1A00, 8), (0x1A1C, 0), (0x1A1E, 8), (0x1A20, 11), (0x1A5F, 0),
  (0x1A60, 11), (0x1A7D, 0), (0x1A7F, 11), (0x1A8A, 0), (0x1A90, 11), (0x1A9A, 0), (0x1AA0, 11),
  (0x1AAE, 0), (0x1AB0, 16), (0x1ABF, 23), (0x1AC1, 24), (0x1ACF, 0), (0x1B00, 9), (0x1B4C, 24),
  (0x1B4D, 0), (0x1B4E, 27), (0x1B50, 9), (0x1B7D, 24), (0x1B7F, 27), (0x1B80, 10), (0x1BAB, 13),
  (0x1BAE, 10), (0x1BBA, 13), (0x1BC0, 12), (0x1BF4, 0), (0x1BFC, 12), (0x1C00, 10), (0x1C38, 0),
  (0x1C3B, 10), (0x1C4A, 0), (0x1C4D, 10), (0x1C80, 18), (0x1C89, 27), (0x1C8B, 0), (0x1C90, 20),
  (0x1CBB, 0), (0x1CBD, 20), (0x1CC0, 13), (0x1CC8, 0), (0x1CD0, 11), (0x1CF3, 13), (0x1CF7, 19),
  (0x1CF8, 16), (0x1CFA, 21), (0x1CFB, 0), (0x1D00, 7), (0x1D6C, 8), (0x1DC4, 9), (0x1DCB, 10),
  (0x1DE7, 16), (0x1DF6, 19), (0x1DFA, 24), (0x1DFB, 18), (0x1DFC, 12), (0x1DFD, 11), (0x1DFE, 9),
  (0x1E00, 1), (0x1E9B, 2), (0x1E9C, 10), (0x1EA0, 1), (0x1EFA, 10), (0x1F00, 1), (0x1F16, 0),
  (0x1F18, 1), (0x1F1E, 0), (0x1F20, 1), (0x1F46, 0), (0x1F48, 1), (0x1F4E, 0), (0x1F50, 1),
  (0x1F58, 0), (0x1F59, 1), (0x1F5A, 0), (0x1F5B, 1), (0x1F5C, 0), (0x1F5D, 1), (0x1F5E, 0),
  (0x1F5F, 1), (0x1F7E, 0), (0x1F80, 1), (0x1FB5, 0), (0x1FB6, 1), (0x1FC5, 0), (0x1FC6, 1),
  (0x1FD4, 0), (0x1FD6, 1), (0x1FDC, 0), (0x1FDD, 1), (0x1FF0, 0), (0x1FF2, 1), (0x1FF5, 0),
  (0x1FF6, 1), (0x1FFF, 0), (0x2000, 1), (0x202F, 4), (0x2030, 1), (0x2047, 6), (0x2048, 4),
  (0x204E, 6), (0x2053, 7), (0x2055, 8), (0x2057, 6), (0x2058, 8), (0x205F, 6), (0x2064, 10),
  (0x2065, 0), (0x2066, 15), (0x206A, 1), (0x2071, 6), (0x2072, 0), (0x2074, 1), (0x208F, 0),
  (0x2090, 8), (0x2095, 12), (0x209D, 0), (0x20A0, 1), (0x20AB, 2), (0x20AC, 3), (0x20AD, 4),
  (0x20B0, 6), (0x20B2, 8), (0x20B6, 11), (0x20B9, 12), (0x20BA, 14), (0x20BB, 16), (0x20BE, 17),
  (0x20BF, 19), (0x20C0, 24), (0x20C1, 0), (0x20D0, 1), (0x20E2, 4), (0x20E4, 6), (0x20EB, 8),
  (0x20EC, 9), (0x20F0, 10), (0x20F1, 0), (0x2100, 1), (0x2139, 4), (0x213B, 7), (0x213C, 8),
  (0x213D, 6), (0x214C, 8), (0x214D, 9), (0x214F, 10), (0x2150, 11), (0x2153, 1), (0x2183, 4),
  (0x2184, 9), (0x2185, 10), (0x2189, 11), (0x218A, 17), (0x218C, 0), (0x2190, 1), (0x21EB, 4),
  (0x21F4, 6), (0x2200, 1), (0x22F2, 6), (0x2300, 1), (0x2301, 4), (0x2302, 1), (0x237B, 4),
  (0x237C, 6), (0x237D, 4), (0x239B, 6), (0x23CF, 7), (0x23D1, 8), (0x23DC, 9), (0x23E8, 11),
  (0x23E9, 12), (0x23F4, 16), (0x23FB, 18), (0x23FF, 19), (0x2400, 1), (0x2425, 4), (0x2427, 27),
  (0x242A, 0), (0x2440, 1), (0x244B, 0), (0x2460, 1), (0x24EB, 6), (0x24FF, 7), (0x2500, 1),
  (0x2596, 6), (0x25A0, 1), (0x25F0, 4), (0x25F8, 6), (0x2600, 1), (0x2614, 7), (0x2616, 6),
  (0x2618, 8), (0x2619, 4), (0x261A, 1), (0x2670, 4), (0x2672, 6), (0x267E, 8), (0x2680, 6),
  (0x268A, 7), (0x2692, 8), (0x269D, 10), (0x269E, 11), (0x26A0, 7), (0x26A2, 8), (0x26B2, 9),
  (0x26B3, 10), (0x26BD, 11), (0x26C0, 10), (0x26C4, 11), (0x26CE, 12), (0x26CF, 11),
  (0x26E2, 12), (0x26E3, 11), (0x26E4, 12), (0x26E8, 11), (0x2700, 16), (0x2701, 1), (0x2705, 12),
  (0x2706, 1), (0x270A, 12), (0x270C, 1), (0x2728, 12), (0x2729, 1), (0x274C, 12), (0x274D, 1),
  (0x274E, 12), (0x274F, 1), (0x2753, 12), (0x2756, 1), (0x2757, 11), (0x2758, 1), (0x275F, 12),
  (0x2761, 1), (0x2768, 6), (0x2776, 1), (0x2795, 12), (0x2798, 1), (0x27B0, 12), (0x27B1, 1),
  (0x27BF, 12), (0x27C0, 8), (0x27C7, 9), (0x27CB, 13), (0x27CC, 10), (0x27CD, 13), (0x27CE, 12),
  (0x27D0, 6), (0x27EC, 10), (0x27F0, 6), (0x2800, 4), (0x2900, 6), (0x2B00, 7), (0x2B0E, 8),
  (0x2B14, 9), (0x2B1B, 10), (0x2B20, 9), (0x2B24, 10), (0x2B4D, 16), (0x2B50, 10), (0x2B55, 11),
  (0x2B5A, 16), (0x2B74, 0), (0x2B76, 16), (0x2B96, 0), (0x2B97, 23), (0x2B98, 16), (0x2BBA, 20),
  (0x2BBD, 16), (0x2BC9, 21), (0x2BCA, 16), (0x2BD2, 19), (0x2BD3, 20), (0x2BEC, 17),
  (0x2BF0, 20), (0x2BFF, 21), (0x2C00, 8), (0x2C2F, 24), (0x2C30, 8), (0x2C5F, 24), (0x2C60, 9),
  (0x2C6D, 10), (0x2C70, 11), (0x2C71, 10), (0x2C74, 9), (0x2C78, 10), (0x2C7E, 11), (0x2C80, 8),
  (0x2CEB, 11), (0x2CF2, 13), (0x2CF4, 0), (0x2CF9, 8), (0x2D26, 0), (0x2D27, 13), (0x2D28, 0),
  (0x2D2D, 13), (0x2D2E, 0), (0x2D30, 8), (0x2D66, 13), (0x2D68, 0), (0x2D6F, 8), (0x2D70, 12),
  (0x2D71, 0), (0x2D7F, 12), (0x2D80, 8), (0x2D97, 0), (0x2DA0, 8), (0x2DA7, 0), (0x2DA8, 8),
  (0x2DAF, 0), (0x2DB0, 8), (0x2DB7, 0), (0x2DB8, 8), (0x2DBF, 0), (0x2DC0, 8), (0x2DC7, 0),
  (0x2DC8, 8), (0x2DCF, 0), (0x2DD0, 8), (0x2DD7, 0), (0x2DD8, 8), (0x2DDF, 0), (0x2DE0, 10),
  (0x2E00, 8), (0x2E18, 10), (0x2E1C, 8), (0x2E1E, 10), (0x2E31, 11), (0x2E32, 13), (0x2E3C, 16),
  (0x2E43, 18), (0x2E45, 19), (0x2E4A, 20), (0x2E4F, 21), (0x2E50, 23), (0x2E53, 24), (0x2E5E, 0),
  (0x2E80, 4), (0x2E9A, 0), (0x2E9B, 4), (0x2EF4, 0), (0x2F00, 4), (0x2FD6, 0), (0x2FF0, 4),
  (0x2FFC, 26), (0x3000, 1), (0x3038, 4), (0x303B, 6), (0x303E, 4), (0x303F, 1), (0x3040, 0),
  (0x3041, 1), (0x3095, 6), (0x3097, 0), (0x3099, 1), (0x309F, 6), (0x30A1, 1), (0x30FF, 6),
  (0x3100, 0), (0x3105, 1), (0x312D, 10), (0x312E, 19), (0x312F, 20), (0x3130, 0), (0x3131, 1),
  (0x318F, 0), (0x3190, 1), (0x31A0, 4), (0x31B8, 12), (0x31BB, 23), (0x31C0, 8), (0x31D0, 10),
  (0x31E4, 27), (0x31E6, 0), (0x31EF, 26), (0x31F0, 6), (0x3200, 1), (0x321D, 7), (0x321F, 0),
  (0x3220, 1), (0x3244, 11), (0x3250, 7), (0x3251, 6), (0x3260, 1), (0x327C, 7), (0x327E, 8),
  (0x327F, 1), (0x32B1, 6), (0x32C0, 1), (0x32CC, 7), (0x32D0, 1), (0x32FF, 22), (0x3300, 1),
  (0x3377, 7), (0x337B, 1), (0x33DE, 7), (0x33E0, 1), (0x33FF, 7), (0x3400, 4), (0x4DB6, 23),
  (0x4DC0, 7), (0x4E00, 1), (0x9FA6, 8), (0x9FBC, 10), (0x9FC4, 11), (0x9FCC, 13), (0x9FCD, 17),
  (0x9FD6, 19), (0x9FEB, 20), (0x9FF0, 23), (0x9FFD, 24), (0xA000, 4), (0xA48D, 0), (0xA490, 4),
  (0xA4A2, 6), (0xA4A4, 4), (0xA4B4, 6), (0xA4B5, 4), (0xA4C1, 6), (0xA4C2, 4), (0xA4C5, 6),
  (0xA4C6, 4), (0xA4C7, 0), (0xA4D0, 11), (0xA500, 10), (0xA62C, 0), (0xA640, 10), (0xA660, 12),
  (0xA662, 10), (0xA674, 13), (0xA67C, 10), (0xA698, 16), (0xA69E, 17), (0xA69F, 13),
  (0xA6A0, 11), (0xA6F8, 0), (0xA700, 8), (0xA717, 9), (0xA71B, 10), (0xA720, 9), (0xA722, 10),
  (0xA78D, 12), (0xA78F, 17), (0xA790, 12), (0xA792, 13), (0xA794, 16), (0xA7A0, 12),
  (0xA7AA, 13), (0xA7AB, 16), (0xA7AE, 18), (0xA7AF, 20), (0xA7B0, 16), (0xA7B2, 17),
  (0xA7B8, 20), (0xA7BA, 21), (0xA7C0, 24), (0xA7C2, 21), (0xA7C7, 23), (0xA7CB, 27), (0xA7CE, 0),
  (0xA7D0, 24), (0xA7D2, 0), (0xA7D3, 24), (0xA7D4, 0), (0xA7D5, 24), (0xA7DA, 27), (0xA7DD, 0),
  (0xA7F2, 24), (0xA7F5, 23), (0xA7F7, 16), (0xA7F8, 13), (0xA7FA, 12), (0xA7FB, 10), (0xA800, 8),
  (0xA82C, 23), (0xA82D, 0), (0xA830, 11), (0xA83A, 0), (0xA840, 9), (0xA878, 0), (0xA880, 10),
  (0xA8C5, 18), (0xA8C6, 0), (0xA8CE, 10), (0xA8DA, 0), (0xA8E0, 11), (0xA8FC, 17), (0xA8FE, 20),
  (0xA900, 10), (0xA954, 0), (0xA95F, 10), (0xA960, 11), (0xA97D, 0), (0xA980, 11), (0xA9CE, 0),
  (0xA9CF, 11), (0xA9DA, 0), (0xA9DE, 11), (0xA9E0, 16), (0xA9FF, 0), (0xAA00, 10), (0xAA37, 0),
  (0xAA40, 10), (0xAA4E, 0), (0xAA50, 10), (0xAA5A, 0), (0xAA5C, 10), (0xAA60, 11), (0xAA7C, 16),
  (0xAA80, 11), (0xAAC3, 0), (0xAADB, 11), (0xAAE0, 13), (0xAAF7, 0), (0xAB01, 12), (0xAB07, 0),
  (0xAB09, 12), (0xAB0F, 0), (0xAB11, 12), (0xAB17, 0), (0xAB20, 12), (0xAB27, 0), (0xAB28, 12),
  (0xAB2F, 0), (0xAB30, 16), (0xAB60, 17), (0xAB64, 16), (0xAB66, 21), (0xAB68, 23), (0xAB6C, 0),
  (0xAB70, 17), (0xABC0, 11), (0xABEE, 0), (0xABF0, 11), (0xABFA, 0), (0xAC00, 2), (0xD7A4, 0),
  (0xD7B0, 11), (0xD7C7, 0), (0xD7CB, 11), (0xD7FC, 0), (0xD800, 2), (0xE000, 1), (0xFA2E, 13),
  (0xFA30, 6), (0xFA6B, 11), (0xFA6E, 0), (0xFA70, 8), (0xFADA, 0), (0xFB00, 1), (0xFB07, 0),
  (0xFB13, 1), (0xFB18, 0), (0xFB1D, 4), (0xFB1E, 1), (0xFB37, 0), (0xFB38, 1), (0xFB3D, 0),
  (0xFB3E, 1), (0xFB3F, 0), (0xFB40, 1), (0xFB42, 0), (0xFB43, 1), (0xFB45, 0), (0xFB46, 1),
  (0xFBB2, 12), (0xFBC2, 24), (0xFBC3, 0), (0xFBD3, 1), (0xFD40, 24), (0xFD50, 1), (0xFD90, 0),
  (0xFD92, 1), (0xFDC8, 0), (0xFDCF, 24), (0xFDD0, 5), (0xFDF0, 1), (0xFDFC, 6), (0xFDFD, 7),
  (0xFDFE, 24), (0xFE00, 6), (0xFE10, 8), (0xFE1A, 0), (0xFE20, 1), (0xFE24, 10), (0xFE27, 16),
  (0xFE2E, 17), (0xFE30, 1), (0xFE45, 6), (0xFE47, 7), (0xFE49, 1), (0xFE53, 0), (0xFE54, 1),
  (0xFE67, 0), (0xFE68, 1), (0xFE6C, 0), (0xFE70, 1), (0xFE73, 6), (0xFE74, 1), (0xFE75, 0),
  (0xFE76, 1), (0xFEFD, 0), (0xFEFF, 1), (0xFF00, 0), (0xFF01, 1), (0xFF5F, 6), (0xFF61, 1),
  (0xFFBF, 0), (0xFFC2, 1), (0xFFC8, 0), (0xFFCA, 1), (0xFFD0, 0), (0xFFD2, 1), (0xFFD8, 0),
  (0xFFDA, 1), (0xFFDD, 0), (0xFFE0, 1), (0xFFE7, 0), (0xFFE8, 1), (0xFFEF, 0), (0xFFF9, 4),
  (0xFFFC, 3), (0xFFFD, 1), (0x10000, 7), (0x1000C, 0), (0x1000D, 7), (0x10027, 0), (0x10028, 7),
  (0x1003B, 0), (0x1003C, 7), (0x1003E, 0), (0x1003F, 7), (0x1004E, 0), (0x10050, 7),
  (0x1005E, 0), (0x10080, 7), (0x100FB, 0), (0x10100, 7), (0x10103, 0), (0x10107, 7),
  (0x10134, 0), (0x10137, 7), (0x10140, 8), (0x1018B, 16), (0x1018D, 18), (0x1018F, 0),
  (0x10190, 10), (0x1019C, 23), (0x1019D, 0), (0x101A0, 16), (0x101A1, 0), (0x101D0, 10),
  (0x101FE, 0), (0x10280, 10), (0x1029D, 0), (0x102A0, 10), (0x102D1, 0), (0x102E0, 16),
  (0x102FC, 0), (0x10300, 5), (0x1031F, 16), (0x10320, 5), (0x10324, 0), (0x1032D, 19),
  (0x10330, 5), (0x1034B, 0), (0x10350, 16), (0x1037B, 0), (0x10380, 7), (0x1039E, 0),
  (0x1039F, 7), (0x103A0, 8), (0x103C4, 0), (0x103C8, 8), (0x103D6, 0), (0x10400, 5),
  (0x10426, 7), (0x10428, 5), (0x1044E, 7), (0x1049E, 0), (0x104A0, 7), (0x104AA, 0),
  (0x104B0, 18), (0x104D4, 0), (0x104D8, 18), (0x104FC, 0), (0x10500, 16), (0x10528, 0),
  (0x10530, 16), (0x10564, 0), (0x1056F, 16), (0x10570, 24), (0x1057B, 0), (0x1057C, 24),
  (0x1058B, 0), (0x1058C, 24), (0x10593, 0), (0x10594, 24), (0x10596, 0), (0x10597, 24),
  (0x105A2, 0), (0x105A3, 24), (0x105B2, 0), (0x105B3, 24), (0x105BA, 0), (0x105BB, 24),
  (0x105BD, 0), (0x105C0, 27), (0x105F4, 0), (0x10600, 16), (0x10737, 0), (0x10740, 16),
  (0x10756, 0), (0x10760, 16), (0x10768, 0), (0x10780, 24), (0x10786, 0), (0x10787, 24),
  (0x107B1, 0), (0x107B2, 24), (0x107BB, 0), (0x10800, 7), (0x10806, 0), (0x10808, 7),
  (0x10809, 0), (0x1080A, 7), (0x10836, 0), (0x10837, 7), (0x10839, 0), (0x1083C, 7),
  (0x1083D, 0), (0x1083F, 7), (0x10840, 11), (0x10856, 0), (0x10857, 11), (0x10860, 16),
  (0x1089F, 0), (0x108A7, 16), (0x108B0, 0), (0x108E0, 17), (0x108F3, 0), (0x108F4, 17),
  (0x108F6, 0), (0x108FB, 17), (0x10900, 9), (0x1091A, 11), (0x1091C, 0), (0x1091F, 9),
  (0x10920, 10), (0x1093A, 0), (0x1093F, 10), (0x10940, 0), (0x10980, 13), (0x109B8, 0),
  (0x109BC, 17), (0x109BE, 13), (0x109C0, 17), (0x109D0, 0), (0x109D2, 17), (0x10A00, 8),
  (0x10A04, 0), (0x10A05, 8), (0x10A07, 0), (0x10A0C, 8), (0x10A14, 0), (0x10A15, 8),
  (0x10A18, 0), (0x10A19, 8), (0x10A34, 20), (0x10A36, 0), (0x10A38, 8), (0x10A3B, 0),
  (0x10A3F, 8), (0x10A48, 20), (0x10A49, 0), (0x10A50, 8), (0x10A59, 0), (0x10A60, 11),
  (0x10A80, 16), (0x10AA0, 0), (0x10AC0, 16), (0x10AE7, 0), (0x10AEB, 16), (0x10AF7, 0),
  (0x10B00, 11), (0x10B36, 0), (0x10B39, 11), (0x10B56, 0), (0x10B58, 11), (0x10B73, 0),
  (0x10B78, 11), (0x10B80, 16), (0x10B92, 0), (0x10B99, 16), (0x10B9D, 0), (0x10BA9, 16),
  (0x10BB0, 0), (0x10C00, 11), (0x10C49, 0), (0x10C80, 17), (0x10CB3, 0), (0x10CC0, 17),
  (0x10CF3, 0), (0x10CFA, 17), (0x10D00, 20), (0x10D28, 0), (0x10D30, 20), (0x10D3A, 0),
  (0x10D40, 27), (0x10D66, 0), (0x10D69, 27), (0x10D86, 0), (0x10D8E, 27), (0x10D90, 0),
  (0x10E60, 11), (0x10E7F, 0), (0x10E80, 23), (0x10EAA, 0), (0x10EAB, 23), (0x10EAE, 0),
  (0x10EB0, 23), (0x10EB2, 0), (0x10EC2, 27), (0x10EC5, 0), (0x10EFC, 27), (0x10EFD, 25),
  (0x10F00, 20), (0x10F28, 0), (0x10F30, 20), (0x10F5A, 0), (0x10F70, 24), (0x10F8A, 0),
  (0x10FB0, 23), (0x10FCC, 0), (0x10FE0, 21), (0x10FF7, 0), (0x11000, 12), (0x1104E, 0),
  (0x11052, 12), (0x11070, 24), (0x11076, 0), (0x1107F, 16), (0x11080, 11), (0x110C2, 24),
  (0x110C3, 0), (0x110CD, 20), (0x110CE, 0), (0x110D0, 13), (0x110E9, 0), (0x110F0, 13),
  (0x110FA, 0), (0x11100, 13), (0x11135, 0), (0x11136, 13), (0x11144, 20), (0x11147, 23),
  (0x11148, 0), (0x11150, 16), (0x11177, 0), (0x11180, 13), (0x111C9, 17), (0x111CD, 16),
  (0x111CE, 23), (0x111D0, 13), (0x111DA, 16), (0x111DB, 17), (0x111E0, 0), (0x111E1, 16),
  (0x111F5, 0), (0x11200, 16), (0x11212, 0), (0x11213, 16), (0x1123E, 18), (0x1123F, 25),
  (0x11242, 0), (0x11280, 17), (0x11287, 0), (0x11288, 17), (0x11289, 0), (0x1128A, 17),
  (0x1128E, 0), (0x1128F, 17), (0x1129E, 0), (0x1129F, 17), (0x112AA, 0), (0x112B0, 16),
  (0x112EB, 0), (0x112F0, 16), (0x112FA, 0), (0x11300, 17), (0x11301, 16), (0x11304, 0),
  (0x11305, 16), (0x1130D, 0), (0x1130F, 16), (0x11311, 0), (0x11313, 16), (0x11329, 0),
  (0x1132A, 16), (0x11331, 0), (0x11332, 16), (0x11334, 0), (0x11335, 16), (0x1133A, 0),
  (0x1133B, 20), (0x1133C, 16), (0x11345, 0), (0x11347, 16), (0x11349, 0), (0x1134B, 16),
  (0x1134E, 0), (0x11350, 17), (0x11351, 0), (0x11357, 16), (0x11358, 0), (0x1135D, 16),
  (0x11364, 0), (0x11366, 16), (0x1136D, 0), (0x11370, 16), (0x11375, 0), (0x11380, 27),
  (0x1138A, 0), (0x1138B, 27), (0x1138C, 0), (0x1138E, 27), (0x1138F, 0), (0x11390, 27),
  (0x113B6, 0), (0x113B7, 27), (0x113C1, 0), (0x113C2, 27), (0x113C3, 0), (0x113C5, 27),
  (0x113C6, 0), (0x113C7, 27), (0x113CB, 0), (0x113CC, 27), (0x113D6, 0), (0x113D7, 27),
  (0x113D9, 0), (0x113E1, 27), (0x113E3, 0), (0x11400, 18), (0x1145A, 23), (0x1145B, 18),
  (0x1145C, 0), (0x1145D, 18), (0x1145E, 20), (0x1145F, 21), (0x11460, 23), (0x11462, 0),
  (0x11480, 16), (0x114C8, 0), (0x114D0, 16), (0x114DA, 0), (0x11580, 16), (0x115B6, 0),
  (0x115B8, 16), (0x115CA, 17), (0x115DE, 0), (0x11600, 16), (0x11645, 0), (0x11650, 16),
  (0x1165A, 0), (0x11660, 18), (0x1166D, 0), (0x11680, 13), (0x116B8, 21), (0x116B9, 24),
  (0x116BA, 0), (0x116C0, 13), (0x116CA, 0), (0x116D0, 27), (0x116E4, 0), (0x11700, 17),
  (0x1171A, 20), (0x1171B, 0), (0x1171D, 17), (0x1172C, 0), (0x11730, 17), (0x11740, 24),
  (0x11747, 0), (0x11800, 20), (0x1183C, 0), (0x118A0, 16), (0x118F3, 0), (0x118FF, 16),
  (0x11900, 23), (0x11907, 0), (0x11909, 23), (0x1190A, 0), (0x1190C, 23), (0x11914, 0),
  (0x11915, 23), (0x11917, 0), (0x11918, 23), (0x11936, 0), (0x11937, 23), (0x11939, 0),
  (0x1193B, 23), (0x11947, 0), (0x11950, 23), (0x1195A, 0), (0x119A0, 21), (0x119A8, 0),
  (0x119AA, 21), (0x119D8, 0), (0x119DA, 21), (0x119E5, 0), (0x11A00, 19), (0x11A48, 0),
  (0x11A50, 19), (0x11A84, 21), (0x11A86, 19), (0x11A9D, 20), (0x11A9E, 19), (0x11AA3, 0),
  (0x11AB0, 24), (0x11AC0, 16), (0x11AF9, 0), (0x11B00, 25), (0x11B0A, 0), (0x11BC0, 27),
  (0x11BE2, 0), (0x11BF0, 27), (0x11BFA, 0), (0x11C00, 18), (0x11C09, 0), (0x11C0A, 18),
  (0x11C37, 0), (0x11C38, 18), (0x11C46, 0), (0x11C50, 18), (0x11C6D, 0), (0x11C70, 18),
  (0x11C90, 0), (0x11C92, 18), (0x11CA8, 0), (0x11CA9, 18), (0x11CB7, 0), (0x11D00, 19),
  (0x11D07, 0), (0x11D08, 19), (0x11D0A, 0), (0x11D0B, 19), (0x11D37, 0), (0x11D3A, 19),
  (0x11D3B, 0), (0x11D3C, 19), (0x11D3E, 0), (0x11D3F, 19), (0x11D48, 0), (0x11D50, 19),
  (0x11D5A, 0), (0x11D60, 20), (0x11D66, 0), (0x11D67, 20), (0x11D69, 0), (0x11D6A, 20),
  (0x11D8F, 0), (0x11D90, 20), (0x11D92, 0), (0x11D93, 20), (0x11D99, 0), (0x11DA0, 20),
  (0x11DAA, 0), (0x11EE0, 20), (0x11EF9, 0), (0x11F00, 25), (0x11F11, 0), (0x11F12, 25),
  (0x11F3B, 0), (0x11F3E, 25), (0x11F5A, 27), (0x11F5B, 0), (0x11FB0, 23), (0x11FB1, 0),
  (0x11FC0, 21), (0x11FF2, 0), (0x11FFF, 21), (0x12000, 9), (0x1236F, 16), (0x12399, 17),
  (0x1239A, 0), (0x12400, 9), (0x12463, 16), (0x1246F, 0), (0x12470, 9), (0x12474, 16),
  (0x12475, 0), (0x12480, 17), (0x12544, 0), (0x12F90, 24), (0x12FF3, 0), (0x13000, 11),
  (0x1342F, 25), (0x13430, 21), (0x13439, 25), (0x13456, 0), (0x13460, 27), (0x143FB, 0),
  (0x14400, 17), (0x14647, 0), (0x16100, 27), (0x1613A, 0), (0x16800, 12), (0x16A39, 0),
  (0x16A40, 16), (0x16A5F, 0), (0x16A60, 16), (0x16A6A, 0), (0x16A6E, 16), (0x16A70, 24),
  (0x16ABF, 0), (0x16AC0, 24), (0x16ACA, 0), (0x16AD0, 16), (0x16AEE, 0), (0x16AF0, 16),
  (0x16AF6, 0), (0x16B00, 16), (0x16B46, 0), (0x16B50, 16), (0x16B5A, 0), (0x16B5B, 16),
  (0x16B62, 0), (0x16B63, 16), (0x16B78, 0), (0x16B7D, 16), (0x16B90, 0), (0x16D40, 27),
  (0x16D7A, 0), (0x16E40, 20), (0x16E9B, 0), (0x16F00, 13), (0x16F45, 21), (0x16F4B, 0),
  (0x16F4F, 21), (0x16F50, 13), (0x16F7F, 21), (0x16F88, 0), (0x16F8F, 13), (0x16FA0, 0),
  (0x16FE0, 18), (0x16FE1, 19), (0x16FE2, 21), (0x16FE4, 23), (0x16FE5, 0), (0x16FF0, 23),
  (0x16FF2, 0), (0x17000, 18), (0x187ED, 20), (0x187F2, 21), (0x187F8, 0), (0x18800, 18),
  (0x18AF3, 23), (0x18CD6, 0), (0x18CFF, 27), (0x18D00, 23), (0x18D09, 0), (0x1AFF0, 24),
  (0x1AFF4, 0), (0x1AFF5, 24), (0x1AFFC, 0), (0x1AFFD, 24), (0x1AFFF, 0), (0x1B000, 12),
  (0x1B002, 19), (0x1B11F, 24), (0x1B123, 0), (0x1B132, 25), (0x1B133, 0), (0x1B150, 21),
  (0x1B153, 0), (0x1B155, 25), (0x1B156, 0), (0x1B164, 21), (0x1B168, 0), (0x1B170, 19),
  (0x1B2FC, 0), (0x1BC00, 16), (0x1BC6B, 0), (0x1BC70, 16), (0x1BC7D, 0), (0x1BC80, 16),
  (0x1BC89, 0), (0x1BC90, 16), (0x1BC9A, 0), (0x1BC9C, 16), (0x1BCA4, 0), (0x1CC00, 27),
  (0x1CCFA, 0), (0x1CD00, 27), (0x1CEB4, 0), (0x1CF00, 24), (0x1CF2E, 0), (0x1CF30, 24),
  (0x1CF47, 0), (0x1CF50, 24), (0x1CFC4, 0), (0x1D000, 5), (0x1D0F6, 0), (0x1D100, 5),
  (0x1D127, 0), (0x1D129, 10), (0x1D12A, 5), (0x1D1DE, 17), (0x1D1E9, 24), (0x1D1EB, 0),
  (0x1D200, 8), (0x1D246, 0), (0x1D2C0, 25), (0x1D2D4, 0), (0x1D2E0, 20), (0x1D2F4, 0),
  (0x1D300, 7), (0x1D357, 0), (0x1D360, 9), (0x1D372, 20), (0x1D379, 0), (0x1D400, 5),
  (0x1D455, 0), (0x1D456, 5), (0x1D49D, 0), (0x1D49E, 5), (0x1D4A0, 0), (0x1D4A2, 5),
  (0x1D4A3, 0), (0x1D4A5, 5), (0x1D4A7, 0), (0x1D4A9, 5), (0x1D4AD, 0), (0x1D4AE, 5),
  (0x1D4BA, 0), (0x1D4BB, 5), (0x1D4BC, 0), (0x1D4BD, 5), (0x1D4C1, 7), (0x1D4C2, 5),
  (0x1D4C4, 0), (0x1D4C5, 5), (0x1D506, 0), (0x1D507, 5), (0x1D50B, 0), (0x1D50D, 5),
  (0x1D515, 0), (0x1D516, 5), (0x1D51D, 0), (0x1D51E, 5), (0x1D53A, 0), (0x1D53B, 5),
  (0x1D53F, 0), (0x1D540, 5), (0x1D545, 0), (0x1D546, 5), (0x1D547, 0), (0x1D54A, 5),
  (0x1D551, 0), (0x1D552, 5), (0x1D6A4, 8), (0x1D6A6, 0), (0x1D6A8, 5), (0x1D7CA, 9),
  (0x1D7CC, 0), (0x1D7CE, 5), (0x1D800, 17), (0x1DA8C, 0), (0x1DA9B, 17), (0x1DAA0, 0),
  (0x1DAA1, 17), (0x1DAB0, 0), (0x1DF00, 24), (0x1DF1F, 0), (0x1DF25, 25), (0x1DF2B, 0),
  (0x1E000, 18), (0x1E007, 0), (0x1E008, 18), (0x1E019, 0), (0x1E01B, 18), (0x1E022, 0),
  (0x1E023, 18), (0x1E025, 0), (0x1E026, 18), (0x1E02B, 0), (0x1E030, 25), (0x1E06E, 0),
  (0x1E08F, 25), (0x1E090, 0), (0x1E100, 21), (0x1E12D, 0), (0x1E130, 21), (0x1E13E, 0),
  (0x1E140, 21), (0x1E14A, 0), (0x1E14E, 21), (0x1E150, 0), (0x1E290, 24), (0x1E2AF, 0),
  (0x1E2C0, 21), (0x1E2FA, 0), (0x1E2FF, 21), (0x1E300, 0), (0x1E4D0, 25), (0x1E4FA, 0),
  (0x1E5D0, 27), (0x1E5FB, 0), (0x1E5FF, 27), (0x1E600, 0), (0x1E7E0, 24), (0x1E7E7, 0),
  (0x1E7E8, 24), (0x1E7EC, 0), (0x1E7ED, 24), (0x1E7EF, 0), (0x1E7F0, 24), (0x1E7FF, 0),
  (0x1E800, 16), (0x1E8C5, 0), (0x1E8C7, 16), (0x1E8D7, 0), (0x1E900, 18), (0x1E94B, 21),
  (0x1E94C, 0), (0x1E950, 18), (0x1E95A, 0), (0x1E95E, 18), (0x1E960, 0), (0x1EC71, 20),
  (0x1ECB5, 0), (0x1ED01, 21), (0x1ED3E, 0), (0x1EE00, 13), (0x1EE04, 0), (0x1EE05, 13),
  (0x1EE20, 0), (0x1EE21, 13), (0x1EE23, 0), (0x1EE24, 13), (0x1EE25, 0), (0x1EE27, 13),
  (0x1EE28, 0), (0x1EE29, 13), (0x1EE33, 0), (0x1EE34, 13), (0x1EE38, 0), (0x1EE39, 13),
  (0x1EE3A, 0), (0x1EE3B, 13), (0x1EE3C, 0), (0x1EE42, 13), (0x1EE43, 0), (0x1EE47, 13),
  (0x1EE48, 0), (0x1EE49, 13), (0x1EE4A, 0), (0x1EE4B, 13), (0x1EE4C, 0), (0x1EE4D, 13),
  (0x1EE50, 0), (0x1EE51, 13), (0x1EE53, 0), (0x1EE54, 13), (0x1EE55, 0), (0x1EE57, 13),
  (0x1EE58, 0), (0x1EE59, 13), (0x1EE5A, 0), (0x1EE5B, 13), (0x1EE5C, 0), (0x1EE5D, 13),
  (0x1EE5E, 0), (0x1EE5F, 13), (0x1EE60, 0), (0x1EE61, 13), (0x1EE63, 0), (0x1EE64, 13),
  (0x1EE65, 0), (0x1EE67, 13), (0x1EE6B, 0), (0x1EE6C, 13), (0x1EE73, 0), (0x1EE74, 13),
  (0x1EE78, 0), (0x1EE79, 13), (0x1EE7D, 0), (0x1EE7E, 13), (0x1EE7F, 0), (0x1EE80, 13),
  (0x1EE8A, 0), (0x1EE8B, 13), (0x1EE9C, 0), (0x1EEA1, 13), (0x1EEA4, 0), (0x1EEA5, 13),
  (0x1EEAA, 0), (0x1EEAB, 13), (0x1EEBC, 0), (0x1EEF0, 13), (0x1EEF2, 0), (0x1F000, 10),
  (0x1F02C, 0), (0x1F030, 10), (0x1F094, 0), (0x1F0A0, 12), (0x1F0AF, 0), (0x1F0B1, 12),
  (0x1F0BF, 16), (0x1F0C0, 0), (0x1F0C1, 12), (0x1F0D0, 0), (0x1F0D1, 12), (0x1F0E0, 16),
  (0x1F0F6, 0), (0x1F100, 11), (0x1F10B, 16), (0x1F10D, 23), (0x1F110, 11), (0x1F12F, 20),
  (0x1F130, 12), (0x1F131, 11), (0x1F132, 12), (0x1F13D, 11), (0x1F13E, 12), (0x1F13F, 11),
  (0x1F140, 12), (0x1F142, 11), (0x1F143, 12), (0x1F146, 11), (0x1F147, 12), (0x1F14A, 11),
  (0x1F14F, 12), (0x1F157, 11), (0x1F158, 12), (0x1F15F, 11), (0x1F160, 12), (0x1F16A, 13),
  (0x1F16C, 21), (0x1F16D, 23), (0x1F170, 12), (0x1F179, 11), (0x1F17A, 12), (0x1F17B, 11),
  (0x1F17D, 12), (0x1F17F, 11), (0x1F180, 12), (0x1F18A, 11), (0x1F18E, 12), (0x1F190, 11),
  (0x1F191, 12), (0x1F19B, 18), (0x1F1AD, 23), (0x1F1AE, 0), (0x1F1E6, 12), (0x1F200, 11),
  (0x1F201, 12), (0x1F203, 0), (0x1F210, 11), (0x1F232, 12), (0x1F23B, 18), (0x1F23C, 0),
  (0x1F240, 11), (0x1F249, 0), (0x1F250, 12), (0x1F252, 0), (0x1F260, 19), (0x1F266, 0),
  (0x1F300, 12), (0x1F321, 16), (0x1F32D, 17), (0x1F330, 12), (0x1F336, 16), (0x1F337, 12),
  (0x1F37D, 16), (0x1F37E, 17), (0x1F380, 12), (0x1F394, 16), (0x1F3A0, 12), (0x1F3C5, 16),
  (0x1F3C6, 12), (0x1F3CB, 16), (0x1F3CF, 17), (0x1F3D4, 16), (0x1F3E0, 12), (0x1F3F1, 16),
  (0x1F3F8, 17), (0x1F400, 12), (0x1F43F, 16), (0x1F440, 12), (0x1F441, 16), (0x1F442, 12),
  (0x1F4F8, 16), (0x1F4F9, 12), (0x1F4FD, 16), (0x1F4FF, 17), (0x1F500, 12), (0x1F53E, 16),
  (0x1F540, 13), (0x1F544, 16), (0x1F54B, 17), (0x1F550, 12), (0x1F568, 16), (0x1F57A, 18),
  (0x1F57B, 16), (0x1F5A4, 18), (0x1F5A5, 16), (0x1F5FB, 12), (0x1F600, 13), (0x1F601, 12),
  (0x1F611, 13), (0x1F612, 12), (0x1F615, 13), (0x1F616, 12), (0x1F617, 13), (0x1F618, 12),
  (0x1F619, 13), (0x1F61A, 12), (0x1F61B, 13), (0x1F61C, 12), (0x1F61F, 13), (0x1F620, 12),
  (0x1F626, 13), (0x1F628, 12), (0x1F62C, 13), (0x1F62D, 12), (0x1F62E, 13), (0x1F630, 12),
  (0x1F634, 13), (0x1F635, 12), (0x1F641, 16), (0x1F643, 17), (0x1F645, 12), (0x1F650, 16),
  (0x1F680, 12), (0x1F6C6, 16), (0x1F6D0, 17), (0x1F6D1, 18), (0x1F6D3, 19), (0x1F6D5, 21),
  (0x1F6D6, 23), (0x1F6D8, 0), (0x1F6DC, 25), (0x1F6DD, 24), (0x1F6E0, 16), (0x1F6ED, 0),
  (0x1F6F0, 16), (0x1F6F4, 18), (0x1F6F7, 19), (0x1F6F9, 20), (0x1F6FA, 21), (0x1F6FB, 23),
  (0x1F6FD, 0), (0x1F700, 12), (0x1F774, 25), (0x1F777, 0), (0x1F77B, 25), (0x1F780, 16),
  (0x1F7D5, 20), (0x1F7D9, 25), (0x1F7DA, 0), (0x1F7E0, 21), (0x1F7EC, 0), (0x1F7F0, 24),
  (0x1F7F1, 0), (0x1F800, 16), (0x1F80C, 0), (0x1F810, 16), (0x1F848, 0), (0x1F850, 16),
  (0x1F85A, 0), (0x1F860, 16), (0x1F888, 0), (0x1F890, 16), (0x1F8AE, 0), (0x1F8B0, 23),
  (0x1F8B2, 27), (0x1F8BC, 0), (0x1F8C0, 27), (0x1F8C2, 0), (0x1F900, 19), (0x1F90C, 23),
  (0x1F90D, 21), (0x1F910, 17), (0x1F919, 18), (0x1F91F, 19), (0x1F920, 18), (0x1F928, 19),
  (0x1F930, 18), (0x1F931, 19), (0x1F933, 18), (0x1F93F, 21), (0x1F940, 18), (0x1F94C, 19),
  (0x1F94D, 20), (0x1F950, 18), (0x1F95F, 19), (0x1F96C, 20), (0x1F971, 21), (0x1F972, 23),
  (0x1F973, 20), (0x1F977, 23), (0x1F979, 24), (0x1F97A, 20), (0x1F97B, 21), (0x1F97C, 20),
  (0x1F980, 17), (0x1F985, 18), (0x1F992, 19), (0x1F998, 20), (0x1F9A3, 23), (0x1F9A5, 21),
  (0x1F9AB, 23), (0x1F9AE, 21), (0x1F9B0, 20), (0x1F9BA, 21), (0x1F9C0, 17), (0x1F9C1, 20),
  (0x1F9C3, 21), (0x1F9CB, 23), (0x1F9CC, 24), (0x1F9CD, 21), (0x1F9D0, 19), (0x1F9E7, 20),
  (0x1FA00, 21), (0x1FA54, 0), (0x1FA60, 20), (0x1FA6E, 0), (0x1FA70, 21), (0x1FA74, 23),
  (0x1FA75, 25), (0x1FA78, 21), (0x1FA7B, 24), (0x1FA7D, 0), (0x1FA80, 21), (0x1FA83, 23),
  (0x1FA87, 25), (0x1FA89, 27), (0x1FA8A, 0), (0x1FA8F, 27), (0x1FA90, 21), (0x1FA96, 23),
  (0x1FAA9, 24), (0x1FAAD, 25), (0x1FAB0, 23), (0x1FAB7, 24), (0x1FABB, 25), (0x1FABE, 27),
  (0x1FABF, 25), (0x1FAC0, 23), (0x1FAC3, 24), (0x1FAC6, 27), (0x1FAC7, 0), (0x1FACE, 25),
  (0x1FAD0, 23), (0x1FAD7, 24), (0x1FADA, 25), (0x1FADC, 27), (0x1FADD, 0), (0x1FADF, 27),
  (0x1FAE0, 24), (0x1FAE8, 25), (0x1FAE9, 27), (0x1FAEA, 0), (0x1FAF0, 24), (0x1FAF7, 25),
  (0x1FAF9, 0), (0x1FB00, 23), (0x1FB93, 0), (0x1FB94, 23), (0x1FBCB, 27), (0x1FBF0, 23),
  (0x1FBFA, 0), (0x1FFFE, 2), (0x20000, 5), (0x2A6D7, 23), (0x2A6DE, 24), (0x2A6E0, 0),
  (0x2A700, 11), (0x2B735, 24), (0x2B739, 25), (0x2B73A, 0), (0x2B740, 12), (0x2B81E, 0),
  (0x2B820, 17), (0x2CEA2, 0), (0x2CEB0, 19), (0x2EBE1, 0), (0x2EBF0, 26), (0x2EE5E, 0),
  (0x2F800, 5), (0x2FA1E, 0), (0x2FFFE, 2), (0x30000, 23), (0x3134B, 0), (0x31350, 25),
  (0x323B0, 0), (0x3FFFE, 2), (0x40000, 0), (0x4FFFE, 2), (0x50000, 0), (0x5FFFE, 2),
  (0x60000, 0), (0x6FFFE, 2), (0x70000, 0), (0x7FFFE, 2), (0x80000, 0), (0x8FFFE, 2),
  (0x90000, 0), (0x9FFFE, 2), (0xA0000, 0), (0xAFFFE, 2), (0xB0000, 0), (0xBFFFE, 2),
  (0xC0000, 0), (0xCFFFE, 2), (0xD0000, 0), (0xDFFFE, 2), (0xE0000, 0), (0xE0001, 5),
  (0xE0002, 0), (0xE0020, 5), (0xE0080, 0), (0xE0100, 7), (0xE01F0, 0), (0xEFFFE, 2)]

/-- The version that introduced a character, counted from one, or zero. -/
def ageOf (c : Char) : Nat :=
  let runs := ageRuns
  let i := boundsBelow (fun i => (runs.getD i (0, 0)).1) c.toNat runs.size 0 runs.size
  (runs.getD (i - 1) (0, 0)).2

end ExprLang
