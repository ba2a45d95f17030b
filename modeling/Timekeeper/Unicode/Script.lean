import Timekeeper.Unicode.CodeSet

/-!
# Scripts

The characters of each script, and the names that a pattern can give the script: its full name and
its four letter code, written without case, spaces, hyphens and underscores.
-/

namespace Timekeeper

namespace Unicode

/-- The script Adlam. -/
def adlamScript : CodeSet := ⟨[
    0x1e900, 0x1e94c, 0x1e950, 0x1e95a, 0x1e95e, 0x1e960]⟩

/-- The script Ahom. -/
def ahomScript : CodeSet := ⟨[
    0x11700, 0x1171b, 0x1171d, 0x1172c, 0x11730, 0x11747]⟩

/-- The script Anatolian Hieroglyphs. -/
def anatolianHieroglyphsScript : CodeSet := ⟨[
    0x14400, 0x14647]⟩

/-- The script Arabic. -/
def arabicScript : CodeSet := ⟨[
    0x600, 0x605, 0x606, 0x60c, 0x60d, 0x61b, 0x61c, 0x61f, 0x620, 0x640, 0x641, 0x64b, 0x656,
    0x670, 0x671, 0x6dd, 0x6de, 0x700, 0x750, 0x780, 0x870, 0x88f, 0x890, 0x892, 0x897, 0x8e2,
    0x8e3, 0x900, 0xfb50, 0xfbc3, 0xfbd3, 0xfd3e, 0xfd40, 0xfd90, 0xfd92, 0xfdc8, 0xfdcf, 0xfdd0,
    0xfdf0, 0xfe00, 0xfe70, 0xfe75, 0xfe76, 0xfefd, 0x10e60, 0x10e7f, 0x10ec2, 0x10ec5, 0x10efc,
    0x10f00, 0x1ee00, 0x1ee04, 0x1ee05, 0x1ee20, 0x1ee21, 0x1ee23, 0x1ee24, 0x1ee25, 0x1ee27,
    0x1ee28, 0x1ee29, 0x1ee33, 0x1ee34, 0x1ee38, 0x1ee39, 0x1ee3a, 0x1ee3b, 0x1ee3c, 0x1ee42,
    0x1ee43, 0x1ee47, 0x1ee48, 0x1ee49, 0x1ee4a, 0x1ee4b, 0x1ee4c, 0x1ee4d, 0x1ee50, 0x1ee51,
    0x1ee53, 0x1ee54, 0x1ee55, 0x1ee57, 0x1ee58, 0x1ee59, 0x1ee5a, 0x1ee5b, 0x1ee5c, 0x1ee5d,
    0x1ee5e, 0x1ee5f, 0x1ee60, 0x1ee61, 0x1ee63, 0x1ee64, 0x1ee65, 0x1ee67, 0x1ee6b, 0x1ee6c,
    0x1ee73, 0x1ee74, 0x1ee78, 0x1ee79, 0x1ee7d, 0x1ee7e, 0x1ee7f, 0x1ee80, 0x1ee8a, 0x1ee8b,
    0x1ee9c, 0x1eea1, 0x1eea4, 0x1eea5, 0x1eeaa, 0x1eeab, 0x1eebc, 0x1eef0, 0x1eef2]⟩

/-- The script Armenian. -/
def armenianScript : CodeSet := ⟨[
    0x531, 0x557, 0x559, 0x58b, 0x58d, 0x590, 0xfb13, 0xfb18]⟩

/-- The script Avestan. -/
def avestanScript : CodeSet := ⟨[
    0x10b00, 0x10b36, 0x10b39, 0x10b40]⟩

/-- The script Balinese. -/
def balineseScript : CodeSet := ⟨[
    0x1b00, 0x1b4d, 0x1b4e, 0x1b80]⟩

/-- The script Bamum. -/
def bamumScript : CodeSet := ⟨[
    0xa6a0, 0xa6f8, 0x16800, 0x16a39]⟩

/-- The script Bassa Vah. -/
def bassaVahScript : CodeSet := ⟨[
    0x16ad0, 0x16aee, 0x16af0, 0x16af6]⟩

/-- The script Batak. -/
def batakScript : CodeSet := ⟨[
    0x1bc0, 0x1bf4, 0x1bfc, 0x1c00]⟩

/-- The script Bengali. -/
def bengaliScript : CodeSet := ⟨[
    0x980, 0x984, 0x985, 0x98d, 0x98f, 0x991, 0x993, 0x9a9, 0x9aa, 0x9b1, 0x9b2, 0x9b3, 0x9b6,
    0x9ba, 0x9bc, 0x9c5, 0x9c7, 0x9c9, 0x9cb, 0x9cf, 0x9d7, 0x9d8, 0x9dc, 0x9de, 0x9df, 0x9e4,
    0x9e6, 0x9ff]⟩

/-- The script Bhaiksuki. -/
def bhaiksukiScript : CodeSet := ⟨[
    0x11c00, 0x11c09, 0x11c0a, 0x11c37, 0x11c38, 0x11c46, 0x11c50, 0x11c6d]⟩

/-- The script Bopomofo. -/
def bopomofoScript : CodeSet := ⟨[
    0x2ea, 0x2ec, 0x3105, 0x3130, 0x31a0, 0x31c0]⟩

/-- The script Brahmi. -/
def brahmiScript : CodeSet := ⟨[
    0x11000, 0x1104e, 0x11052, 0x11076, 0x1107f, 0x11080]⟩

/-- The script Braille. -/
def brailleScript : CodeSet := ⟨[
    0x2800, 0x2900]⟩

/-- The script Buginese. -/
def bugineseScript : CodeSet := ⟨[
    0x1a00, 0x1a1c, 0x1a1e, 0x1a20]⟩

/-- The script Buhid. -/
def buhidScript : CodeSet := ⟨[
    0x1740, 0x1754]⟩

/-- The script Canadian Aboriginal. -/
def canadianAboriginalScript : CodeSet := ⟨[
    0x1400, 0x1680, 0x18b0, 0x18f6, 0x11ab0, 0x11ac0]⟩

/-- The script Carian. -/
def carianScript : CodeSet := ⟨[
    0x102a0, 0x102d1]⟩

/-- The script Caucasian Albanian. -/
def caucasianAlbanianScript : CodeSet := ⟨[
    0x10530, 0x10564, 0x1056f, 0x10570]⟩

/-- The script Chakma. -/
def chakmaScript : CodeSet := ⟨[
    0x11100, 0x11135, 0x11136, 0x11148]⟩

/-- The script Cham. -/
def chamScript : CodeSet := ⟨[
    0xaa00, 0xaa37, 0xaa40, 0xaa4e, 0xaa50, 0xaa5a, 0xaa5c, 0xaa60]⟩

/-- The script Cherokee. -/
def cherokeeScript : CodeSet := ⟨[
    0x13a0, 0x13f6, 0x13f8, 0x13fe, 0xab70, 0xabc0]⟩

/-- The script Chorasmian. -/
def chorasmianScript : CodeSet := ⟨[
    0x10fb0, 0x10fcc]⟩

/-- The script Common. -/
def commonScript : CodeSet := ⟨[
    0x0, 0x41, 0x5b, 0x61, 0x7b, 0xaa, 0xab, 0xba, 0xbb, 0xc0, 0xd7, 0xd8, 0xf7, 0xf8, 0x2b9, 0x2e0,
    0x2e5, 0x2ea, 0x2ec, 0x300, 0x374, 0x375, 0x37e, 0x37f, 0x385, 0x386, 0x387, 0x388, 0x605,
    0x606, 0x60c, 0x60d, 0x61b, 0x61c, 0x61f, 0x620, 0x640, 0x641, 0x6dd, 0x6de, 0x8e2, 0x8e3,
    0x964, 0x966, 0xe3f, 0xe40, 0xfd5, 0xfd9, 0x10fb, 0x10fc, 0x16eb, 0x16ee, 0x1735, 0x1737,
    0x1802, 0x1804, 0x1805, 0x1806, 0x1cd3, 0x1cd4, 0x1ce1, 0x1ce2, 0x1ce9, 0x1ced, 0x1cee, 0x1cf4,
    0x1cf5, 0x1cf8, 0x1cfa, 0x1cfb, 0x2000, 0x200c, 0x200e, 0x2065, 0x2066, 0x2071, 0x2074, 0x207f,
    0x2080, 0x208f, 0x20a0, 0x20c1, 0x2100, 0x2126, 0x2127, 0x212a, 0x212c, 0x2132, 0x2133, 0x214e,
    0x214f, 0x2160, 0x2189, 0x218c, 0x2190, 0x242a, 0x2440, 0x244b, 0x2460, 0x2800, 0x2900, 0x2b74,
    0x2b76, 0x2b96, 0x2b97, 0x2c00, 0x2e00, 0x2e5e, 0x2ff0, 0x3005, 0x3006, 0x3007, 0x3008, 0x3021,
    0x3030, 0x3038, 0x303c, 0x3040, 0x309b, 0x309d, 0x30a0, 0x30a1, 0x30fb, 0x30fd, 0x3190, 0x31a0,
    0x31c0, 0x31e6, 0x31ef, 0x31f0, 0x3220, 0x3260, 0x327f, 0x32d0, 0x32ff, 0x3300, 0x3358, 0x3400,
    0x4dc0, 0x4e00, 0xa700, 0xa722, 0xa788, 0xa78b, 0xa830, 0xa83a, 0xa92e, 0xa92f, 0xa9cf, 0xa9d0,
    0xab5b, 0xab5c, 0xab6a, 0xab6c, 0xfd3e, 0xfd40, 0xfe10, 0xfe1a, 0xfe30, 0xfe53, 0xfe54, 0xfe67,
    0xfe68, 0xfe6c, 0xfeff, 0xff00, 0xff01, 0xff21, 0xff3b, 0xff41, 0xff5b, 0xff66, 0xff70, 0xff71,
    0xff9e, 0xffa0, 0xffe0, 0xffe7, 0xffe8, 0xffef, 0xfff9, 0xfffe, 0x10100, 0x10103, 0x10107,
    0x10134, 0x10137, 0x10140, 0x10190, 0x1019d, 0x101d0, 0x101fd, 0x102e1, 0x102fc, 0x1bca0,
    0x1bca4, 0x1cc00, 0x1ccfa, 0x1cd00, 0x1ceb4, 0x1cf50, 0x1cfc4, 0x1d000, 0x1d0f6, 0x1d100,
    0x1d127, 0x1d129, 0x1d167, 0x1d16a, 0x1d17b, 0x1d183, 0x1d185, 0x1d18c, 0x1d1aa, 0x1d1ae,
    0x1d1eb, 0x1d2c0, 0x1d2d4, 0x1d2e0, 0x1d2f4, 0x1d300, 0x1d357, 0x1d360, 0x1d379, 0x1d400,
    0x1d455, 0x1d456, 0x1d49d, 0x1d49e, 0x1d4a0, 0x1d4a2, 0x1d4a3, 0x1d4a5, 0x1d4a7, 0x1d4a9,
    0x1d4ad, 0x1d4ae, 0x1d4ba, 0x1d4bb, 0x1d4bc, 0x1d4bd, 0x1d4c4, 0x1d4c5, 0x1d506, 0x1d507,
    0x1d50b, 0x1d50d, 0x1d515, 0x1d516, 0x1d51d, 0x1d51e, 0x1d53a, 0x1d53b, 0x1d53f, 0x1d540,
    0x1d545, 0x1d546, 0x1d547, 0x1d54a, 0x1d551, 0x1d552, 0x1d6a6, 0x1d6a8, 0x1d7cc, 0x1d7ce,
    0x1d800, 0x1ec71, 0x1ecb5, 0x1ed01, 0x1ed3e, 0x1f000, 0x1f02c, 0x1f030, 0x1f094, 0x1f0a0,
    0x1f0af, 0x1f0b1, 0x1f0c0, 0x1f0c1, 0x1f0d0, 0x1f0d1, 0x1f0f6, 0x1f100, 0x1f1ae, 0x1f1e6,
    0x1f200, 0x1f201, 0x1f203, 0x1f210, 0x1f23c, 0x1f240, 0x1f249, 0x1f250, 0x1f252, 0x1f260,
    0x1f266, 0x1f300, 0x1f6d8, 0x1f6dc, 0x1f6ed, 0x1f6f0, 0x1f6fd, 0x1f700, 0x1f777, 0x1f77b,
    0x1f7da, 0x1f7e0, 0x1f7ec, 0x1f7f0, 0x1f7f1, 0x1f800, 0x1f80c, 0x1f810, 0x1f848, 0x1f850,
    0x1f85a, 0x1f860, 0x1f888, 0x1f890, 0x1f8ae, 0x1f8b0, 0x1f8bc, 0x1f8c0, 0x1f8c2, 0x1f900,
    0x1fa54, 0x1fa60, 0x1fa6e, 0x1fa70, 0x1fa7d, 0x1fa80, 0x1fa8a, 0x1fa8f, 0x1fac7, 0x1face,
    0x1fadd, 0x1fadf, 0x1faea, 0x1faf0, 0x1faf9, 0x1fb00, 0x1fb93, 0x1fb94, 0x1fbfa, 0xe0001,
    0xe0002, 0xe0020, 0xe0080]⟩

/-- The script Coptic. -/
def copticScript : CodeSet := ⟨[
    0x3e2, 0x3f0, 0x2c80, 0x2cf4, 0x2cf9, 0x2d00]⟩

/-- The script Cuneiform. -/
def cuneiformScript : CodeSet := ⟨[
    0x12000, 0x1239a, 0x12400, 0x1246f, 0x12470, 0x12475, 0x12480, 0x12544]⟩

/-- The script Cypriot. -/
def cypriotScript : CodeSet := ⟨[
    0x10800, 0x10806, 0x10808, 0x10809, 0x1080a, 0x10836, 0x10837, 0x10839, 0x1083c, 0x1083d,
    0x1083f, 0x10840]⟩

/-- The script Cypro Minoan. -/
def cyproMinoanScript : CodeSet := ⟨[
    0x12f90, 0x12ff3]⟩

/-- The script Cyrillic. -/
def cyrillicScript : CodeSet := ⟨[
    0x400, 0x485, 0x487, 0x530, 0x1c80, 0x1c8b, 0x1d2b, 0x1d2c, 0x1d78, 0x1d79, 0x2de0, 0x2e00,
    0xa640, 0xa6a0, 0xfe2e, 0xfe30, 0x1e030, 0x1e06e, 0x1e08f, 0x1e090]⟩

/-- The script Deseret. -/
def deseretScript : CodeSet := ⟨[
    0x10400, 0x10450]⟩

/-- The script Devanagari. -/
def devanagariScript : CodeSet := ⟨[
    0x900, 0x951, 0x955, 0x964, 0x966, 0x980, 0xa8e0, 0xa900, 0x11b00, 0x11b0a]⟩

/-- The script Dives Akuru. -/
def divesAkuruScript : CodeSet := ⟨[
    0x11900, 0x11907, 0x11909, 0x1190a, 0x1190c, 0x11914, 0x11915, 0x11917, 0x11918, 0x11936,
    0x11937, 0x11939, 0x1193b, 0x11947, 0x11950, 0x1195a]⟩

/-- The script Dogra. -/
def dograScript : CodeSet := ⟨[
    0x11800, 0x1183c]⟩

/-- The script Duployan. -/
def duployanScript : CodeSet := ⟨[
    0x1bc00, 0x1bc6b, 0x1bc70, 0x1bc7d, 0x1bc80, 0x1bc89, 0x1bc90, 0x1bc9a, 0x1bc9c, 0x1bca0]⟩

/-- The script Egyptian Hieroglyphs. -/
def egyptianHieroglyphsScript : CodeSet := ⟨[
    0x13000, 0x13456, 0x13460, 0x143fb]⟩

/-- The script Elbasan. -/
def elbasanScript : CodeSet := ⟨[
    0x10500, 0x10528]⟩

/-- The script Elymaic. -/
def elymaicScript : CodeSet := ⟨[
    0x10fe0, 0x10ff7]⟩

/-- The script Ethiopic. -/
def ethiopicScript : CodeSet := ⟨[
    0x1200, 0x1249, 0x124a, 0x124e, 0x1250, 0x1257, 0x1258, 0x1259, 0x125a, 0x125e, 0x1260, 0x1289,
    0x128a, 0x128e, 0x1290, 0x12b1, 0x12b2, 0x12b6, 0x12b8, 0x12bf, 0x12c0, 0x12c1, 0x12c2, 0x12c6,
    0x12c8, 0x12d7, 0x12d8, 0x1311, 0x1312, 0x1316, 0x1318, 0x135b, 0x135d, 0x137d, 0x1380, 0x139a,
    0x2d80, 0x2d97, 0x2da0, 0x2da7, 0x2da8, 0x2daf, 0x2db0, 0x2db7, 0x2db8, 0x2dbf, 0x2dc0, 0x2dc7,
    0x2dc8, 0x2dcf, 0x2dd0, 0x2dd7, 0x2dd8, 0x2ddf, 0xab01, 0xab07, 0xab09, 0xab0f, 0xab11, 0xab17,
    0xab20, 0xab27, 0xab28, 0xab2f, 0x1e7e0, 0x1e7e7, 0x1e7e8, 0x1e7ec, 0x1e7ed, 0x1e7ef, 0x1e7f0,
    0x1e7ff]⟩

/-- The script Garay. -/
def garayScript : CodeSet := ⟨[
    0x10d40, 0x10d66, 0x10d69, 0x10d86, 0x10d8e, 0x10d90]⟩

/-- The script Georgian. -/
def georgianScript : CodeSet := ⟨[
    0x10a0, 0x10c6, 0x10c7, 0x10c8, 0x10cd, 0x10ce, 0x10d0, 0x10fb, 0x10fc, 0x1100, 0x1c90, 0x1cbb,
    0x1cbd, 0x1cc0, 0x2d00, 0x2d26, 0x2d27, 0x2d28, 0x2d2d, 0x2d2e]⟩

/-- The script Glagolitic. -/
def glagoliticScript : CodeSet := ⟨[
    0x2c00, 0x2c60, 0x1e000, 0x1e007, 0x1e008, 0x1e019, 0x1e01b, 0x1e022, 0x1e023, 0x1e025,
    0x1e026, 0x1e02b]⟩

/-- The script Gothic. -/
def gothicScript : CodeSet := ⟨[
    0x10330, 0x1034b]⟩

/-- The script Grantha. -/
def granthaScript : CodeSet := ⟨[
    0x11300, 0x11304, 0x11305, 0x1130d, 0x1130f, 0x11311, 0x11313, 0x11329, 0x1132a, 0x11331,
    0x11332, 0x11334, 0x11335, 0x1133a, 0x1133c, 0x11345, 0x11347, 0x11349, 0x1134b, 0x1134e,
    0x11350, 0x11351, 0x11357, 0x11358, 0x1135d, 0x11364, 0x11366, 0x1136d, 0x11370, 0x11375]⟩

/-- The script Greek. -/
def greekScript : CodeSet := ⟨[
    0x370, 0x374, 0x375, 0x378, 0x37a, 0x37e, 0x37f, 0x380, 0x384, 0x385, 0x386, 0x387, 0x388,
    0x38b, 0x38c, 0x38d, 0x38e, 0x3a2, 0x3a3, 0x3e2, 0x3f0, 0x400, 0x1d26, 0x1d2b, 0x1d5d, 0x1d62,
    0x1d66, 0x1d6b, 0x1dbf, 0x1dc0, 0x1f00, 0x1f16, 0x1f18, 0x1f1e, 0x1f20, 0x1f46, 0x1f48, 0x1f4e,
    0x1f50, 0x1f58, 0x1f59, 0x1f5a, 0x1f5b, 0x1f5c, 0x1f5d, 0x1f5e, 0x1f5f, 0x1f7e, 0x1f80, 0x1fb5,
    0x1fb6, 0x1fc5, 0x1fc6, 0x1fd4, 0x1fd6, 0x1fdc, 0x1fdd, 0x1ff0, 0x1ff2, 0x1ff5, 0x1ff6, 0x1fff,
    0x2126, 0x2127, 0xab65, 0xab66, 0x10140, 0x1018f, 0x101a0, 0x101a1, 0x1d200, 0x1d246]⟩

/-- The script Gujarati. -/
def gujaratiScript : CodeSet := ⟨[
    0xa81, 0xa84, 0xa85, 0xa8e, 0xa8f, 0xa92, 0xa93, 0xaa9, 0xaaa, 0xab1, 0xab2, 0xab4, 0xab5,
    0xaba, 0xabc, 0xac6, 0xac7, 0xaca, 0xacb, 0xace, 0xad0, 0xad1, 0xae0, 0xae4, 0xae6, 0xaf2,
    0xaf9, 0xb00]⟩

/-- The script Gunjala Gondi. -/
def gunjalaGondiScript : CodeSet := ⟨[
    0x11d60, 0x11d66, 0x11d67, 0x11d69, 0x11d6a, 0x11d8f, 0x11d90, 0x11d92, 0x11d93, 0x11d99,
    0x11da0, 0x11daa]⟩

/-- The script Gurmukhi. -/
def gurmukhiScript : CodeSet := ⟨[
    0xa01, 0xa04, 0xa05, 0xa0b, 0xa0f, 0xa11, 0xa13, 0xa29, 0xa2a, 0xa31, 0xa32, 0xa34, 0xa35,
    0xa37, 0xa38, 0xa3a, 0xa3c, 0xa3d, 0xa3e, 0xa43, 0xa47, 0xa49, 0xa4b, 0xa4e, 0xa51, 0xa52,
    0xa59, 0xa5d, 0xa5e, 0xa5f, 0xa66, 0xa77]⟩

/-- The script Gurung Khema. -/
def gurungKhemaScript : CodeSet := ⟨[
    0x16100, 0x1613a]⟩

/-- The script Han. -/
def hanScript : CodeSet := ⟨[
    0x2e80, 0x2e9a, 0x2e9b, 0x2ef4, 0x2f00, 0x2fd6, 0x3005, 0x3006, 0x3007, 0x3008, 0x3021, 0x302a,
    0x3038, 0x303c, 0x3400, 0x4dc0, 0x4e00, 0xa000, 0xf900, 0xfa6e, 0xfa70, 0xfada, 0x16fe2,
    0x16fe4, 0x16ff0, 0x16ff2, 0x20000, 0x2a6e0, 0x2a700, 0x2b73a, 0x2b740, 0x2b81e, 0x2b820,
    0x2cea2, 0x2ceb0, 0x2ebe1, 0x2ebf0, 0x2ee5e, 0x2f800, 0x2fa1e, 0x30000, 0x3134b, 0x31350,
    0x323b0]⟩

/-- The script Hangul. -/
def hangulScript : CodeSet := ⟨[
    0x1100, 0x1200, 0x302e, 0x3030, 0x3131, 0x318f, 0x3200, 0x321f, 0x3260, 0x327f, 0xa960, 0xa97d,
    0xac00, 0xd7a4, 0xd7b0, 0xd7c7, 0xd7cb, 0xd7fc, 0xffa0, 0xffbf, 0xffc2, 0xffc8, 0xffca, 0xffd0,
    0xffd2, 0xffd8, 0xffda, 0xffdd]⟩

/-- The script Hanifi Rohingya. -/
def hanifiRohingyaScript : CodeSet := ⟨[
    0x10d00, 0x10d28, 0x10d30, 0x10d3a]⟩

/-- The script Hanunoo. -/
def hanunooScript : CodeSet := ⟨[
    0x1720, 0x1735]⟩

/-- The script Hatran. -/
def hatranScript : CodeSet := ⟨[
    0x108e0, 0x108f3, 0x108f4, 0x108f6, 0x108fb, 0x10900]⟩

/-- The script Hebrew. -/
def hebrewScript : CodeSet := ⟨[
    0x591, 0x5c8, 0x5d0, 0x5eb, 0x5ef, 0x5f5, 0xfb1d, 0xfb37, 0xfb38, 0xfb3d, 0xfb3e, 0xfb3f,
    0xfb40, 0xfb42, 0xfb43, 0xfb45, 0xfb46, 0xfb50]⟩

/-- The script Hiragana. -/
def hiraganaScript : CodeSet := ⟨[
    0x3041, 0x3097, 0x309d, 0x30a0, 0x1b001, 0x1b120, 0x1b132, 0x1b133, 0x1b150, 0x1b153, 0x1f200,
    0x1f201]⟩

/-- The script Imperial Aramaic. -/
def imperialAramaicScript : CodeSet := ⟨[
    0x10840, 0x10856, 0x10857, 0x10860]⟩

/-- The script Inherited. -/
def inheritedScript : CodeSet := ⟨[
    0x300, 0x370, 0x485, 0x487, 0x64b, 0x656, 0x670, 0x671, 0x951, 0x955, 0x1ab0, 0x1acf, 0x1cd0,
    0x1cd3, 0x1cd4, 0x1ce1, 0x1ce2, 0x1ce9, 0x1ced, 0x1cee, 0x1cf4, 0x1cf5, 0x1cf8, 0x1cfa, 0x1dc0,
    0x1e00, 0x200c, 0x200e, 0x20d0, 0x20f1, 0x302a, 0x302e, 0x3099, 0x309b, 0xfe00, 0xfe10, 0xfe20,
    0xfe2e, 0x101fd, 0x101fe, 0x102e0, 0x102e1, 0x1133b, 0x1133c, 0x1cf00, 0x1cf2e, 0x1cf30,
    0x1cf47, 0x1d167, 0x1d16a, 0x1d17b, 0x1d183, 0x1d185, 0x1d18c, 0x1d1aa, 0x1d1ae, 0xe0100,
    0xe01f0]⟩

/-- The script Inscriptional Pahlavi. -/
def inscriptionalPahlaviScript : CodeSet := ⟨[
    0x10b60, 0x10b73, 0x10b78, 0x10b80]⟩

/-- The script Inscriptional Parthian. -/
def inscriptionalParthianScript : CodeSet := ⟨[
    0x10b40, 0x10b56, 0x10b58, 0x10b60]⟩

/-- The script Javanese. -/
def javaneseScript : CodeSet := ⟨[
    0xa980, 0xa9ce, 0xa9d0, 0xa9da, 0xa9de, 0xa9e0]⟩

/-- The script Kaithi. -/
def kaithiScript : CodeSet := ⟨[
    0x11080, 0x110c3, 0x110cd, 0x110ce]⟩

/-- The script Kannada. -/
def kannadaScript : CodeSet := ⟨[
    0xc80, 0xc8d, 0xc8e, 0xc91, 0xc92, 0xca9, 0xcaa, 0xcb4, 0xcb5, 0xcba, 0xcbc, 0xcc5, 0xcc6,
    0xcc9, 0xcca, 0xcce, 0xcd5, 0xcd7, 0xcdd, 0xcdf, 0xce0, 0xce4, 0xce6, 0xcf0, 0xcf1, 0xcf4]⟩

/-- The script Katakana. -/
def katakanaScript : CodeSet := ⟨[
    0x30a1, 0x30fb, 0x30fd, 0x3100, 0x31f0, 0x3200, 0x32d0, 0x32ff, 0x3300, 0x3358, 0xff66, 0xff70,
    0xff71, 0xff9e, 0x1aff0, 0x1aff4, 0x1aff5, 0x1affc, 0x1affd, 0x1afff, 0x1b000, 0x1b001,
    0x1b120, 0x1b123, 0x1b155, 0x1b156, 0x1b164, 0x1b168]⟩

/-- The script Kawi. -/
def kawiScript : CodeSet := ⟨[
    0x11f00, 0x11f11, 0x11f12, 0x11f3b, 0x11f3e, 0x11f5a]⟩

/-- The script Kayah Li. -/
def kayahLiScript : CodeSet := ⟨[
    0xa900, 0xa92e, 0xa92f, 0xa930]⟩

/-- The script Kharoshthi. -/
def kharoshthiScript : CodeSet := ⟨[
    0x10a00, 0x10a04, 0x10a05, 0x10a07, 0x10a0c, 0x10a14, 0x10a15, 0x10a18, 0x10a19, 0x10a36,
    0x10a38, 0x10a3b, 0x10a3f, 0x10a49, 0x10a50, 0x10a59]⟩

/-- The script Khitan Small Script. -/
def khitanSmallScriptScript : CodeSet := ⟨[
    0x16fe4, 0x16fe5, 0x18b00, 0x18cd6, 0x18cff, 0x18d00]⟩

/-- The script Khmer. -/
def khmerScript : CodeSet := ⟨[
    0x1780, 0x17de, 0x17e0, 0x17ea, 0x17f0, 0x17fa, 0x19e0, 0x1a00]⟩

/-- The script Khojki. -/
def khojkiScript : CodeSet := ⟨[
    0x11200, 0x11212, 0x11213, 0x11242]⟩

/-- The script Khudawadi. -/
def khudawadiScript : CodeSet := ⟨[
    0x112b0, 0x112eb, 0x112f0, 0x112fa]⟩

/-- The script Kirat Rai. -/
def kiratRaiScript : CodeSet := ⟨[
    0x16d40, 0x16d7a]⟩

/-- The script Lao. -/
def laoScript : CodeSet := ⟨[
    0xe81, 0xe83, 0xe84, 0xe85, 0xe86, 0xe8b, 0xe8c, 0xea4, 0xea5, 0xea6, 0xea7, 0xebe, 0xec0,
    0xec5, 0xec6, 0xec7, 0xec8, 0xecf, 0xed0, 0xeda, 0xedc, 0xee0]⟩

/-- The script Latin. -/
def latinScript : CodeSet := ⟨[
    0x41, 0x5b, 0x61, 0x7b, 0xaa, 0xab, 0xba, 0xbb, 0xc0, 0xd7, 0xd8, 0xf7, 0xf8, 0x2b9, 0x2e0,
    0x2e5, 0x1d00, 0x1d26, 0x1d2c, 0x1d5d, 0x1d62, 0x1d66, 0x1d6b, 0x1d78, 0x1d79, 0x1dbf, 0x1e00,
    0x1f00, 0x2071, 0x2072, 0x207f, 0x2080, 0x2090, 0x209d, 0x212a, 0x212c, 0x2132, 0x2133, 0x214e,
    0x214f, 0x2160, 0x2189, 0x2c60, 0x2c80, 0xa722, 0xa788, 0xa78b, 0xa7ce, 0xa7d0, 0xa7d2, 0xa7d3,
    0xa7d4, 0xa7d5, 0xa7dd, 0xa7f2, 0xa800, 0xab30, 0xab5b, 0xab5c, 0xab65, 0xab66, 0xab6a, 0xfb00,
    0xfb07, 0xff21, 0xff3b, 0xff41, 0xff5b, 0x10780, 0x10786, 0x10787, 0x107b1, 0x107b2, 0x107bb,
    0x1df00, 0x1df1f, 0x1df25, 0x1df2b]⟩

/-- The script Lepcha. -/
def lepchaScript : CodeSet := ⟨[
    0x1c00, 0x1c38, 0x1c3b, 0x1c4a, 0x1c4d, 0x1c50]⟩

/-- The script Limbu. -/
def limbuScript : CodeSet := ⟨[
    0x1900, 0x191f, 0x1920, 0x192c, 0x1930, 0x193c, 0x1940, 0x1941, 0x1944, 0x1950]⟩

/-- The script Linear A. -/
def linearAScript : CodeSet := ⟨[
    0x10600, 0x10737, 0x10740, 0x10756, 0x10760, 0x10768]⟩

/-- The script Linear B. -/
def linearBScript : CodeSet := ⟨[
    0x10000, 0x1000c, 0x1000d, 0x10027, 0x10028, 0x1003b, 0x1003c, 0x1003e, 0x1003f, 0x1004e,
    0x10050, 0x1005e, 0x10080, 0x100fb]⟩

/-- The script Lisu. -/
def lisuScript : CodeSet := ⟨[
    0xa4d0, 0xa500, 0x11fb0, 0x11fb1]⟩

/-- The script Lycian. -/
def lycianScript : CodeSet := ⟨[
    0x10280, 0x1029d]⟩

/-- The script Lydian. -/
def lydianScript : CodeSet := ⟨[
    0x10920, 0x1093a, 0x1093f, 0x10940]⟩

/-- The script Mahajani. -/
def mahajaniScript : CodeSet := ⟨[
    0x11150, 0x11177]⟩

/-- The script Makasar. -/
def makasarScript : CodeSet := ⟨[
    0x11ee0, 0x11ef9]⟩

/-- The script Malayalam. -/
def malayalamScript : CodeSet := ⟨[
    0xd00, 0xd0d, 0xd0e, 0xd11, 0xd12, 0xd45, 0xd46, 0xd49, 0xd4a, 0xd50, 0xd54, 0xd64, 0xd66,
    0xd80]⟩

/-- The script Mandaic. -/
def mandaicScript : CodeSet := ⟨[
    0x840, 0x85c, 0x85e, 0x85f]⟩

/-- The script Manichaean. -/
def manichaeanScript : CodeSet := ⟨[
    0x10ac0, 0x10ae7, 0x10aeb, 0x10af7]⟩

/-- The script Marchen. -/
def marchenScript : CodeSet := ⟨[
    0x11c70, 0x11c90, 0x11c92, 0x11ca8, 0x11ca9, 0x11cb7]⟩

/-- The script Masaram Gondi. -/
def masaramGondiScript : CodeSet := ⟨[
    0x11d00, 0x11d07, 0x11d08, 0x11d0a, 0x11d0b, 0x11d37, 0x11d3a, 0x11d3b, 0x11d3c, 0x11d3e,
    0x11d3f, 0x11d48, 0x11d50, 0x11d5a]⟩

/-- The script Medefaidrin. -/
def medefaidrinScript : CodeSet := ⟨[
    0x16e40, 0x16e9b]⟩

/-- The script Meetei Mayek. -/
def meeteiMayekScript : CodeSet := ⟨[
    0xaae0, 0xaaf7, 0xabc0, 0xabee, 0xabf0, 0xabfa]⟩

/-- The script Mende Kikakui. -/
def mendeKikakuiScript : CodeSet := ⟨[
    0x1e800, 0x1e8c5, 0x1e8c7, 0x1e8d7]⟩

/-- The script Meroitic Cursive. -/
def meroiticCursiveScript : CodeSet := ⟨[
    0x109a0, 0x109b8, 0x109bc, 0x109d0, 0x109d2, 0x10a00]⟩

/-- The script Meroitic Hieroglyphs. -/
def meroiticHieroglyphsScript : CodeSet := ⟨[
    0x10980, 0x109a0]⟩

/-- The script Miao. -/
def miaoScript : CodeSet := ⟨[
    0x16f00, 0x16f4b, 0x16f4f, 0x16f88, 0x16f8f, 0x16fa0]⟩

/-- The script Modi. -/
def modiScript : CodeSet := ⟨[
    0x11600, 0x11645, 0x11650, 0x1165a]⟩

/-- The script Mongolian. -/
def mongolianScript : CodeSet := ⟨[
    0x1800, 0x1802, 0x1804, 0x1805, 0x1806, 0x181a, 0x1820, 0x1879, 0x1880, 0x18ab, 0x11660,
    0x1166d]⟩

/-- The script Mro. -/
def mroScript : CodeSet := ⟨[
    0x16a40, 0x16a5f, 0x16a60, 0x16a6a, 0x16a6e, 0x16a70]⟩

/-- The script Multani. -/
def multaniScript : CodeSet := ⟨[
    0x11280, 0x11287, 0x11288, 0x11289, 0x1128a, 0x1128e, 0x1128f, 0x1129e, 0x1129f, 0x112aa]⟩

/-- The script Myanmar. -/
def myanmarScript : CodeSet := ⟨[
    0x1000, 0x10a0, 0xa9e0, 0xa9ff, 0xaa60, 0xaa80, 0x116d0, 0x116e4]⟩

/-- The script Nabataean. -/
def nabataeanScript : CodeSet := ⟨[
    0x10880, 0x1089f, 0x108a7, 0x108b0]⟩

/-- The script Nag Mundari. -/
def nagMundariScript : CodeSet := ⟨[
    0x1e4d0, 0x1e4fa]⟩

/-- The script Nandinagari. -/
def nandinagariScript : CodeSet := ⟨[
    0x119a0, 0x119a8, 0x119aa, 0x119d8, 0x119da, 0x119e5]⟩

/-- The script New Tai Lue. -/
def newTaiLueScript : CodeSet := ⟨[
    0x1980, 0x19ac, 0x19b0, 0x19ca, 0x19d0, 0x19db, 0x19de, 0x19e0]⟩

/-- The script Newa. -/
def newaScript : CodeSet := ⟨[
    0x11400, 0x1145c, 0x1145d, 0x11462]⟩

/-- The script Nko. -/
def nkoScript : CodeSet := ⟨[
    0x7c0, 0x7fb, 0x7fd, 0x800]⟩

/-- The script Nushu. -/
def nushuScript : CodeSet := ⟨[
    0x16fe1, 0x16fe2, 0x1b170, 0x1b2fc]⟩

/-- The script Nyiakeng Puachue Hmong. -/
def nyiakengPuachueHmongScript : CodeSet := ⟨[
    0x1e100, 0x1e12d, 0x1e130, 0x1e13e, 0x1e140, 0x1e14a, 0x1e14e, 0x1e150]⟩

/-- The script Ogham. -/
def oghamScript : CodeSet := ⟨[
    0x1680, 0x169d]⟩

/-- The script Ol Chiki. -/
def olChikiScript : CodeSet := ⟨[
    0x1c50, 0x1c80]⟩

/-- The script Ol Onal. -/
def olOnalScript : CodeSet := ⟨[
    0x1e5d0, 0x1e5fb, 0x1e5ff, 0x1e600]⟩

/-- The script Old Hungarian. -/
def oldHungarianScript : CodeSet := ⟨[
    0x10c80, 0x10cb3, 0x10cc0, 0x10cf3, 0x10cfa, 0x10d00]⟩

/-- The script Old Italic. -/
def oldItalicScript : CodeSet := ⟨[
    0x10300, 0x10324, 0x1032d, 0x10330]⟩

/-- The script Old North Arabian. -/
def oldNorthArabianScript : CodeSet := ⟨[
    0x10a80, 0x10aa0]⟩

/-- The script Old Permic. -/
def oldPermicScript : CodeSet := ⟨[
    0x10350, 0x1037b]⟩

/-- The script Old Persian. -/
def oldPersianScript : CodeSet := ⟨[
    0x103a0, 0x103c4, 0x103c8, 0x103d6]⟩

/-- The script Old Sogdian. -/
def oldSogdianScript : CodeSet := ⟨[
    0x10f00, 0x10f28]⟩

/-- The script Old South Arabian. -/
def oldSouthArabianScript : CodeSet := ⟨[
    0x10a60, 0x10a80]⟩

/-- The script Old Turkic. -/
def oldTurkicScript : CodeSet := ⟨[
    0x10c00, 0x10c49]⟩

/-- The script Old Uyghur. -/
def oldUyghurScript : CodeSet := ⟨[
    0x10f70, 0x10f8a]⟩

/-- The script Oriya. -/
def oriyaScript : CodeSet := ⟨[
    0xb01, 0xb04, 0xb05, 0xb0d, 0xb0f, 0xb11, 0xb13, 0xb29, 0xb2a, 0xb31, 0xb32, 0xb34, 0xb35,
    0xb3a, 0xb3c, 0xb45, 0xb47, 0xb49, 0xb4b, 0xb4e, 0xb55, 0xb58, 0xb5c, 0xb5e, 0xb5f, 0xb64,
    0xb66, 0xb78]⟩

/-- The script Osage. -/
def osageScript : CodeSet := ⟨[
    0x104b0, 0x104d4, 0x104d8, 0x104fc]⟩

/-- The script Osmanya. -/
def osmanyaScript : CodeSet := ⟨[
    0x10480, 0x1049e, 0x104a0, 0x104aa]⟩

/-- The script Pahawh Hmong. -/
def pahawhHmongScript : CodeSet := ⟨[
    0x16b00, 0x16b46, 0x16b50, 0x16b5a, 0x16b5b, 0x16b62, 0x16b63, 0x16b78, 0x16b7d, 0x16b90]⟩

/-- The script Palmyrene. -/
def palmyreneScript : CodeSet := ⟨[
    0x10860, 0x10880]⟩

/-- The script Pau Cin Hau. -/
def pauCinHauScript : CodeSet := ⟨[
    0x11ac0, 0x11af9]⟩

/-- The script Phags Pa. -/
def phagsPaScript : CodeSet := ⟨[
    0xa840, 0xa878]⟩

/-- The script Phoenician. -/
def phoenicianScript : CodeSet := ⟨[
    0x10900, 0x1091c, 0x1091f, 0x10920]⟩

/-- The script Psalter Pahlavi. -/
def psalterPahlaviScript : CodeSet := ⟨[
    0x10b80, 0x10b92, 0x10b99, 0x10b9d, 0x10ba9, 0x10bb0]⟩

/-- The script Rejang. -/
def rejangScript : CodeSet := ⟨[
    0xa930, 0xa954, 0xa95f, 0xa960]⟩

/-- The script Runic. -/
def runicScript : CodeSet := ⟨[
    0x16a0, 0x16eb, 0x16ee, 0x16f9]⟩

/-- The script Samaritan. -/
def samaritanScript : CodeSet := ⟨[
    0x800, 0x82e, 0x830, 0x83f]⟩

/-- The script Saurashtra. -/
def saurashtraScript : CodeSet := ⟨[
    0xa880, 0xa8c6, 0xa8ce, 0xa8da]⟩

/-- The script Sharada. -/
def sharadaScript : CodeSet := ⟨[
    0x11180, 0x111e0]⟩

/-- The script Shavian. -/
def shavianScript : CodeSet := ⟨[
    0x10450, 0x10480]⟩

/-- The script Siddham. -/
def siddhamScript : CodeSet := ⟨[
    0x11580, 0x115b6, 0x115b8, 0x115de]⟩

/-- The script SignWriting. -/
def signwritingScript : CodeSet := ⟨[
    0x1d800, 0x1da8c, 0x1da9b, 0x1daa0, 0x1daa1, 0x1dab0]⟩

/-- The script Sinhala. -/
def sinhalaScript : CodeSet := ⟨[
    0xd81, 0xd84, 0xd85, 0xd97, 0xd9a, 0xdb2, 0xdb3, 0xdbc, 0xdbd, 0xdbe, 0xdc0, 0xdc7, 0xdca,
    0xdcb, 0xdcf, 0xdd5, 0xdd6, 0xdd7, 0xdd8, 0xde0, 0xde6, 0xdf0, 0xdf2, 0xdf5, 0x111e1, 0x111f5]⟩

/-- The script Sogdian. -/
def sogdianScript : CodeSet := ⟨[
    0x10f30, 0x10f5a]⟩

/-- The script Sora Sompeng. -/
def soraSompengScript : CodeSet := ⟨[
    0x110d0, 0x110e9, 0x110f0, 0x110fa]⟩

/-- The script Soyombo. -/
def soyomboScript : CodeSet := ⟨[
    0x11a50, 0x11aa3]⟩

/-- The script Sundanese. -/
def sundaneseScript : CodeSet := ⟨[
    0x1b80, 0x1bc0, 0x1cc0, 0x1cc8]⟩

/-- The script Sunuwar. -/
def sunuwarScript : CodeSet := ⟨[
    0x11bc0, 0x11be2, 0x11bf0, 0x11bfa]⟩

/-- The script Syloti Nagri. -/
def sylotiNagriScript : CodeSet := ⟨[
    0xa800, 0xa82d]⟩

/-- The script Syriac. -/
def syriacScript : CodeSet := ⟨[
    0x700, 0x70e, 0x70f, 0x74b, 0x74d, 0x750, 0x860, 0x86b]⟩

/-- The script Tagalog. -/
def tagalogScript : CodeSet := ⟨[
    0x1700, 0x1716, 0x171f, 0x1720]⟩

/-- The script Tagbanwa. -/
def tagbanwaScript : CodeSet := ⟨[
    0x1760, 0x176d, 0x176e, 0x1771, 0x1772, 0x1774]⟩

/-- The script Tai Le. -/
def taiLeScript : CodeSet := ⟨[
    0x1950, 0x196e, 0x1970, 0x1975]⟩

/-- The script Tai Tham. -/
def taiThamScript : CodeSet := ⟨[
    0x1a20, 0x1a5f, 0x1a60, 0x1a7d, 0x1a7f, 0x1a8a, 0x1a90, 0x1a9a, 0x1aa0, 0x1aae]⟩

/-- The script Tai Viet. -/
def taiVietScript : CodeSet := ⟨[
    0xaa80, 0xaac3, 0xaadb, 0xaae0]⟩

/-- The script Takri. -/
def takriScript : CodeSet := ⟨[
    0x11680, 0x116ba, 0x116c0, 0x116ca]⟩

/-- The script Tamil. -/
def tamilScript : CodeSet := ⟨[
    0xb82, 0xb84, 0xb85, 0xb8b, 0xb8e, 0xb91, 0xb92, 0xb96, 0xb99, 0xb9b, 0xb9c, 0xb9d, 0xb9e,
    0xba0, 0xba3, 0xba5, 0xba8, 0xbab, 0xbae, 0xbba, 0xbbe, 0xbc3, 0xbc6, 0xbc9, 0xbca, 0xbce,
    0xbd0, 0xbd1, 0xbd7, 0xbd8, 0xbe6, 0xbfb, 0x11fc0, 0x11ff2, 0x11fff, 0x12000]⟩

/-- The script Tangsa. -/
def tangsaScript : CodeSet := ⟨[
    0x16a70, 0x16abf, 0x16ac0, 0x16aca]⟩

/-- The script Tangut. -/
def tangutScript : CodeSet := ⟨[
    0x16fe0, 0x16fe1, 0x17000, 0x187f8, 0x18800, 0x18b00, 0x18d00, 0x18d09]⟩

/-- The script Telugu. -/
def teluguScript : CodeSet := ⟨[
    0xc00, 0xc0d, 0xc0e, 0xc11, 0xc12, 0xc29, 0xc2a, 0xc3a, 0xc3c, 0xc45, 0xc46, 0xc49, 0xc4a,
    0xc4e, 0xc55, 0xc57, 0xc58, 0xc5b, 0xc5d, 0xc5e, 0xc60, 0xc64, 0xc66, 0xc70, 0xc77, 0xc80]⟩

/-- The script Thaana. -/
def thaanaScript : CodeSet := ⟨[
    0x780, 0x7b2]⟩

/-- The script Thai. -/
def thaiScript : CodeSet := ⟨[
    0xe01, 0xe3b, 0xe40, 0xe5c]⟩

/-- The script Tibetan. -/
def tibetanScript : CodeSet := ⟨[
    0xf00, 0xf48, 0xf49, 0xf6d, 0xf71, 0xf98, 0xf99, 0xfbd, 0xfbe, 0xfcd, 0xfce, 0xfd5, 0xfd9,
    0xfdb]⟩

/-- The script Tifinagh. -/
def tifinaghScript : CodeSet := ⟨[
    0x2d30, 0x2d68, 0x2d6f, 0x2d71, 0x2d7f, 0x2d80]⟩

/-- The script Tirhuta. -/
def tirhutaScript : CodeSet := ⟨[
    0x11480, 0x114c8, 0x114d0, 0x114da]⟩

/-- The script Todhri. -/
def todhriScript : CodeSet := ⟨[
    0x105c0, 0x105f4]⟩

/-- The script Toto. -/
def totoScript : CodeSet := ⟨[
    0x1e290, 0x1e2af]⟩

/-- The script Tulu Tigalari. -/
def tuluTigalariScript : CodeSet := ⟨[
    0x11380, 0x1138a, 0x1138b, 0x1138c, 0x1138e, 0x1138f, 0x11390, 0x113b6, 0x113b7, 0x113c1,
    0x113c2, 0x113c3, 0x113c5, 0x113c6, 0x113c7, 0x113cb, 0x113cc, 0x113d6, 0x113d7, 0x113d9,
    0x113e1, 0x113e3]⟩

/-- The script Ugaritic. -/
def ugariticScript : CodeSet := ⟨[
    0x10380, 0x1039e, 0x1039f, 0x103a0]⟩

/-- The script Vai. -/
def vaiScript : CodeSet := ⟨[
    0xa500, 0xa62c]⟩

/-- The script Vithkuqi. -/
def vithkuqiScript : CodeSet := ⟨[
    0x10570, 0x1057b, 0x1057c, 0x1058b, 0x1058c, 0x10593, 0x10594, 0x10596, 0x10597, 0x105a2,
    0x105a3, 0x105b2, 0x105b3, 0x105ba, 0x105bb, 0x105bd]⟩

/-- The script Wancho. -/
def wanchoScript : CodeSet := ⟨[
    0x1e2c0, 0x1e2fa, 0x1e2ff, 0x1e300]⟩

/-- The script Warang Citi. -/
def warangCitiScript : CodeSet := ⟨[
    0x118a0, 0x118f3, 0x118ff, 0x11900]⟩

/-- The script Yezidi. -/
def yezidiScript : CodeSet := ⟨[
    0x10e80, 0x10eaa, 0x10eab, 0x10eae, 0x10eb0, 0x10eb2]⟩

/-- The script Yi. -/
def yiScript : CodeSet := ⟨[
    0xa000, 0xa48d, 0xa490, 0xa4c7]⟩

/-- The script Zanabazar Square. -/
def zanabazarSquareScript : CodeSet := ⟨[
    0x11a00, 0x11a48]⟩

/-- The scripts with their names. -/
def scripts : List (List String × CodeSet) := [
  (["adlm", "adlam"], adlamScript),
  (["ahom"], ahomScript),
  (["hluw", "anatolianhieroglyphs"], anatolianHieroglyphsScript),
  (["arab", "arabic"], arabicScript),
  (["armn", "armenian"], armenianScript),
  (["avst", "avestan"], avestanScript),
  (["bali", "balinese"], balineseScript),
  (["bamu", "bamum"], bamumScript),
  (["bass", "bassavah"], bassaVahScript),
  (["batk", "batak"], batakScript),
  (["beng", "bengali"], bengaliScript),
  (["bhks", "bhaiksuki"], bhaiksukiScript),
  (["bopo", "bopomofo"], bopomofoScript),
  (["brah", "brahmi"], brahmiScript),
  (["brai", "braille"], brailleScript),
  (["bugi", "buginese"], bugineseScript),
  (["buhd", "buhid"], buhidScript),
  (["cans", "canadianaboriginal"], canadianAboriginalScript),
  (["cari", "carian"], carianScript),
  (["aghb", "caucasianalbanian"], caucasianAlbanianScript),
  (["cakm", "chakma"], chakmaScript),
  (["cham"], chamScript),
  (["cher", "cherokee"], cherokeeScript),
  (["chrs", "chorasmian"], chorasmianScript),
  (["zyyy", "common"], commonScript),
  (["copt", "coptic", "qaac"], copticScript),
  (["xsux", "cuneiform"], cuneiformScript),
  (["cprt", "cypriot"], cypriotScript),
  (["cpmn", "cyprominoan"], cyproMinoanScript),
  (["cyrl", "cyrillic"], cyrillicScript),
  (["dsrt", "deseret"], deseretScript),
  (["deva", "devanagari"], devanagariScript),
  (["diak", "divesakuru"], divesAkuruScript),
  (["dogr", "dogra"], dograScript),
  (["dupl", "duployan"], duployanScript),
  (["egyp", "egyptianhieroglyphs"], egyptianHieroglyphsScript),
  (["elba", "elbasan"], elbasanScript),
  (["elym", "elymaic"], elymaicScript),
  (["ethi", "ethiopic"], ethiopicScript),
  (["gara", "garay"], garayScript),
  (["geor", "georgian"], georgianScript),
  (["glag", "glagolitic"], glagoliticScript),
  (["goth", "gothic"], gothicScript),
  (["gran", "grantha"], granthaScript),
  (["grek", "greek"], greekScript),
  (["gujr", "gujarati"], gujaratiScript),
  (["gong", "gunjalagondi"], gunjalaGondiScript),
  (["guru", "gurmukhi"], gurmukhiScript),
  (["gukh", "gurungkhema"], gurungKhemaScript),
  (["hani", "han"], hanScript),
  (["hang", "hangul"], hangulScript),
  (["rohg", "hanifirohingya"], hanifiRohingyaScript),
  (["hano", "hanunoo"], hanunooScript),
  (["hatr", "hatran"], hatranScript),
  (["hebr", "hebrew"], hebrewScript),
  (["hira", "hiragana"], hiraganaScript),
  (["armi", "imperialaramaic"], imperialAramaicScript),
  (["zinh", "inherited", "qaai"], inheritedScript),
  (["phli", "inscriptionalpahlavi"], inscriptionalPahlaviScript),
  (["prti", "inscriptionalparthian"], inscriptionalParthianScript),
  (["java", "javanese"], javaneseScript),
  (["kthi", "kaithi"], kaithiScript),
  (["knda", "kannada"], kannadaScript),
  (["kana", "katakana"], katakanaScript),
  (["kawi"], kawiScript),
  (["kali", "kayahli"], kayahLiScript),
  (["khar", "kharoshthi"], kharoshthiScript),
  (["kits", "khitansmallscript"], khitanSmallScriptScript),
  (["khmr", "khmer"], khmerScript),
  (["khoj", "khojki"], khojkiScript),
  (["sind", "khudawadi"], khudawadiScript),
  (["krai", "kiratrai"], kiratRaiScript),
  (["laoo", "lao"], laoScript),
  (["latn", "latin"], latinScript),
  (["lepc", "lepcha"], lepchaScript),
  (["limb", "limbu"], limbuScript),
  (["lina", "lineara"], linearAScript),
  (["linb", "linearb"], linearBScript),
  (["lisu"], lisuScript),
  (["lyci", "lycian"], lycianScript),
  (["lydi", "lydian"], lydianScript),
  (["mahj", "mahajani"], mahajaniScript),
  (["maka", "makasar"], makasarScript),
  (["mlym", "malayalam"], malayalamScript),
  (["mand", "mandaic"], mandaicScript),
  (["mani", "manichaean"], manichaeanScript),
  (["marc", "marchen"], marchenScript),
  (["gonm", "masaramgondi"], masaramGondiScript),
  (["medf", "medefaidrin"], medefaidrinScript),
  (["mtei", "meeteimayek"], meeteiMayekScript),
  (["mend", "mendekikakui"], mendeKikakuiScript),
  (["merc", "meroiticcursive"], meroiticCursiveScript),
  (["mero", "meroitichieroglyphs"], meroiticHieroglyphsScript),
  (["plrd", "miao"], miaoScript),
  (["modi"], modiScript),
  (["mong", "mongolian"], mongolianScript),
  (["mroo", "mro"], mroScript),
  (["mult", "multani"], multaniScript),
  (["mymr", "myanmar"], myanmarScript),
  (["nbat", "nabataean"], nabataeanScript),
  (["nagm", "nagmundari"], nagMundariScript),
  (["nand", "nandinagari"], nandinagariScript),
  (["talu", "newtailue"], newTaiLueScript),
  (["newa"], newaScript),
  (["nkoo", "nko"], nkoScript),
  (["nshu", "nushu"], nushuScript),
  (["hmnp", "nyiakengpuachuehmong"], nyiakengPuachueHmongScript),
  (["ogam", "ogham"], oghamScript),
  (["olck", "olchiki"], olChikiScript),
  (["onao", "olonal"], olOnalScript),
  (["hung", "oldhungarian"], oldHungarianScript),
  (["ital", "olditalic"], oldItalicScript),
  (["narb", "oldnortharabian"], oldNorthArabianScript),
  (["perm", "oldpermic"], oldPermicScript),
  (["xpeo", "oldpersian"], oldPersianScript),
  (["sogo", "oldsogdian"], oldSogdianScript),
  (["sarb", "oldsoutharabian"], oldSouthArabianScript),
  (["orkh", "oldturkic"], oldTurkicScript),
  (["ougr", "olduyghur"], oldUyghurScript),
  (["orya", "oriya"], oriyaScript),
  (["osge", "osage"], osageScript),
  (["osma", "osmanya"], osmanyaScript),
  (["hmng", "pahawhhmong"], pahawhHmongScript),
  (["palm", "palmyrene"], palmyreneScript),
  (["pauc", "paucinhau"], pauCinHauScript),
  (["phag", "phagspa"], phagsPaScript),
  (["phnx", "phoenician"], phoenicianScript),
  (["phlp", "psalterpahlavi"], psalterPahlaviScript),
  (["rjng", "rejang"], rejangScript),
  (["runr", "runic"], runicScript),
  (["samr", "samaritan"], samaritanScript),
  (["saur", "saurashtra"], saurashtraScript),
  (["shrd", "sharada"], sharadaScript),
  (["shaw", "shavian"], shavianScript),
  (["sidd", "siddham"], siddhamScript),
  (["sgnw", "signwriting"], signwritingScript),
  (["sinh", "sinhala"], sinhalaScript),
  (["sogd", "sogdian"], sogdianScript),
  (["sora", "sorasompeng"], soraSompengScript),
  (["soyo", "soyombo"], soyomboScript),
  (["sund", "sundanese"], sundaneseScript),
  (["sunu", "sunuwar"], sunuwarScript),
  (["sylo", "sylotinagri"], sylotiNagriScript),
  (["syrc", "syriac"], syriacScript),
  (["tglg", "tagalog"], tagalogScript),
  (["tagb", "tagbanwa"], tagbanwaScript),
  (["tale", "taile"], taiLeScript),
  (["lana", "taitham"], taiThamScript),
  (["tavt", "taiviet"], taiVietScript),
  (["takr", "takri"], takriScript),
  (["taml", "tamil"], tamilScript),
  (["tnsa", "tangsa"], tangsaScript),
  (["tang", "tangut"], tangutScript),
  (["telu", "telugu"], teluguScript),
  (["thaa", "thaana"], thaanaScript),
  (["thai"], thaiScript),
  (["tibt", "tibetan"], tibetanScript),
  (["tfng", "tifinagh"], tifinaghScript),
  (["tirh", "tirhuta"], tirhutaScript),
  (["todr", "todhri"], todhriScript),
  (["toto"], totoScript),
  (["tutg", "tulutigalari"], tuluTigalariScript),
  (["ugar", "ugaritic"], ugariticScript),
  (["vaii", "vai"], vaiScript),
  (["vith", "vithkuqi"], vithkuqiScript),
  (["wcho", "wancho"], wanchoScript),
  (["wara", "warangciti"], warangCitiScript),
  (["yezi", "yezidi"], yezidiScript),
  (["yiii", "yi"], yiScript),
  (["zanb", "zanabazarsquare"], zanabazarSquareScript)]

end Unicode

end Timekeeper
