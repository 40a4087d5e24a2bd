import MediaScraper.Unicode.CharSet

/-!
# Scripts

The script of a character, such as Greek. Names are given as they compare: in small letters, without
separators. Some characters are shared by several scripts (*script extensions*): for the scripts to
which sharing makes a difference, `extended` lists all characters that they use.
-/

namespace MediaScraper.Script

/-! ## The runs of each script -/

def adlam : List Nat :=
  [125184, 76, 4, 10, 4, 2]

def caucasianAlbanian : List Nat :=
  [66864, 52, 11, 1]

def ahom : List Nat :=
  [71424, 27, 2, 15, 4, 23]

def arabic : List Nat :=
  [1536, 5, 1, 6, 1, 14, 1, 3, 1, 32, 1, 10, 11, 26, 1, 108, 1, 34, 80, 48, 240, 31, 1, 2, 5,
   75, 1, 29, 62032, 115, 16, 363, 2, 80, 2, 54, 7, 1, 32, 16, 112, 5, 1, 135, 3939, 31, 67, 3,
   55, 4, 57088, 4, 1, 27, 1, 2, 1, 1, 2, 1, 1, 10, 1, 4, 1, 1, 1, 1, 6, 1, 4, 1, 1, 1, 1, 1, 1,
   3, 1, 2, 1, 1, 2, 1, 1, 1, 1, 1, 1, 1, 1, 1, 1, 2, 1, 1, 2, 4, 1, 7, 1, 4, 1, 4, 1, 1, 1, 10,
   1, 17, 5, 3, 1, 5, 1, 17, 52, 2]

def imperialAramaic : List Nat :=
  [67648, 22, 1, 9]

def armenian : List Nat :=
  [1329, 38, 2, 50, 2, 3, 62851, 5]

def avestan : List Nat :=
  [68352, 54, 3, 7]

def balinese : List Nat :=
  [6912, 77, 1, 50]

def bamum : List Nat :=
  [42656, 88, 49416, 569]

def bassaVah : List Nat :=
  [92880, 30, 2, 6]

def batak : List Nat :=
  [7104, 52, 8, 4]

def bengali : List Nat :=
  [2432, 4, 1, 8, 2, 2, 2, 22, 1, 7, 1, 1, 3, 4, 2, 9, 2, 2, 2, 4, 8, 1, 4, 2, 1, 5, 2, 25]

def bhaiksuki : List Nat :=
  [72704, 9, 1, 45, 1, 14, 10, 29]

def bopomofo : List Nat :=
  [746, 2, 11801, 43, 112, 32]

def brahmi : List Nat :=
  [69632, 78, 4, 36, 9, 1]

def braille : List Nat :=
  [10240, 256]

def buginese : List Nat :=
  [6656, 28, 2, 2]

def buhid : List Nat :=
  [5952, 20]

def chakma : List Nat :=
  [69888, 53, 1, 18]

def canadianAboriginal : List Nat :=
  [5120, 640, 560, 70, 65978, 16]

def carian : List Nat :=
  [66208, 49]

def cham : List Nat :=
  [43520, 55, 9, 14, 2, 10, 2, 4]

def cherokee : List Nat :=
  [5024, 86, 2, 6, 38770, 80]

def chorasmian : List Nat :=
  [69552, 28]

def coptic : List Nat :=
  [994, 14, 10384, 116, 5, 7]

def cyproMinoan : List Nat :=
  [77712, 99]

def cypriot : List Nat :=
  [67584, 6, 2, 1, 1, 44, 1, 2, 3, 1, 2, 1]

def cyrillic : List Nat :=
  [1024, 133, 2, 169, 5968, 11, 160, 1, 76, 1, 4199, 32, 30784, 96, 22414, 2, 57856, 62, 33, 1]

def devanagari : List Nat :=
  [2304, 81, 4, 15, 2, 26, 40800, 32, 29184, 10]

def divesAkuru : List Nat :=
  [71936, 7, 2, 1, 2, 8, 1, 2, 1, 30, 1, 2, 2, 12, 9, 10]

def dogra : List Nat :=
  [71680, 60]

def deseret : List Nat :=
  [66560, 80]

def duployan : List Nat :=
  [113664, 107, 5, 13, 3, 9, 7, 10, 2, 4]

def egyptianHieroglyphs : List Nat :=
  [77824, 1110, 10, 3995]

def elbasan : List Nat :=
  [66816, 40]

def elymaic : List Nat :=
  [69600, 23]

def ethiopic : List Nat :=
  [4608, 73, 1, 4, 2, 7, 1, 1, 1, 4, 2, 41, 1, 4, 2, 33, 1, 4, 2, 7, 1, 1, 1, 4, 2, 15, 1, 57,
   1, 4, 2, 67, 2, 32, 3, 26, 6630, 23, 9, 7, 1, 7, 1, 7, 1, 7, 1, 7, 1, 7, 1, 7, 1, 7, 32034,
   6, 2, 6, 2, 6, 9, 7, 1, 7, 81073, 7, 1, 4, 1, 2, 1, 15]

def garay : List Nat :=
  [68928, 38, 3, 29, 8, 2]

def georgian : List Nat :=
  [4256, 38, 1, 1, 5, 1, 2, 43, 1, 4, 2960, 43, 2, 3, 4160, 38, 1, 1, 5, 1]

def glagolitic : List Nat :=
  [11264, 96, 111520, 7, 1, 17, 2, 7, 1, 2, 1, 5]

def gunjalaGondi : List Nat :=
  [73056, 6, 1, 2, 1, 37, 1, 2, 1, 6, 7, 10]

def masaramGondi : List Nat :=
  [72960, 7, 1, 2, 1, 44, 3, 1, 1, 2, 1, 9, 8, 10]

def gothic : List Nat :=
  [66352, 27]

def grantha : List Nat :=
  [70400, 4, 1, 8, 2, 2, 2, 22, 1, 7, 1, 2, 1, 5, 2, 9, 2, 2, 2, 3, 2, 1, 6, 1, 5, 7, 2, 7, 3, 5]

def greek : List Nat :=
  [880, 4, 1, 3, 2, 4, 1, 1, 4, 1, 1, 1, 1, 3, 1, 1, 1, 20, 1, 63, 14, 16, 6438, 5, 50, 5, 4, 5,
   84, 1, 320, 22, 2, 6, 2, 38, 2, 6, 2, 8, 1, 1, 1, 1, 1, 1, 1, 31, 2, 53, 1, 15, 1, 14, 2, 6,
   1, 19, 2, 3, 1, 9, 295, 1, 35390, 1, 21978, 79, 17, 1, 53343, 70]

def gujarati : List Nat :=
  [2689, 3, 1, 9, 1, 3, 1, 22, 1, 7, 1, 2, 1, 5, 2, 10, 1, 3, 1, 3, 2, 1, 15, 4, 2, 12, 7, 7]

def gurungKhema : List Nat :=
  [90368, 58]

def gurmukhi : List Nat :=
  [2561, 3, 1, 6, 4, 2, 2, 22, 1, 7, 1, 2, 1, 2, 1, 2, 2, 1, 1, 5, 4, 2, 2, 3, 3, 1, 7, 4, 1, 1,
   7, 17]

def hani : List Nat :=
  [11904, 26, 1, 89, 12, 214, 47, 1, 1, 1, 25, 9, 14, 4, 964, 6592, 64, 20992, 22784, 366, 2,
   106, 29960, 2, 12, 2, 36878, 42720, 32, 4154, 6, 222, 2, 5762, 14, 7473, 15, 622, 2466, 542,
   1506, 4939, 5, 4192]

def hangul : List Nat :=
  [4352, 256, 7726, 2, 257, 94, 113, 31, 65, 31, 30433, 29, 643, 11172, 12, 23, 4, 49, 10148,
   31, 3, 6, 2, 6, 2, 6, 2, 3]

def hanunoo : List Nat :=
  [5920, 21]

def hatran : List Nat :=
  [67808, 19, 1, 2, 5, 5]

def hebrew : List Nat :=
  [1425, 55, 8, 27, 4, 6, 62760, 26, 1, 5, 1, 1, 1, 2, 1, 2, 1, 10]

def hiragana : List Nat :=
  [12353, 86, 6, 3, 98145, 287, 18, 1, 29, 3, 16557, 1]

def anatolianHieroglyphs : List Nat :=
  [82944, 583]

def pahawhHmong : List Nat :=
  [92928, 70, 10, 10, 1, 7, 1, 21, 5, 19]

def nyiakengPuachueHmong : List Nat :=
  [123136, 45, 3, 14, 2, 10, 4, 2]

def oldHungarian : List Nat :=
  [68736, 51, 13, 51, 7, 6]

def oldItalic : List Nat :=
  [66304, 36, 9, 3]

def javanese : List Nat :=
  [43392, 78, 2, 10, 4, 2]

def kayahLi : List Nat :=
  [43264, 46, 1, 1]

def katakana : List Nat :=
  [12449, 90, 2, 3, 240, 16, 208, 47, 1, 88, 52238, 10, 1, 45, 45138, 4, 1, 7, 1, 2, 1, 1, 287,
   3, 50, 1, 14, 4]

def kawi : List Nat :=
  [73472, 17, 1, 41, 3, 28]

def kharoshthi : List Nat :=
  [68096, 4, 1, 2, 5, 8, 1, 3, 1, 29, 2, 3, 4, 10, 7, 9]

def khmer : List Nat :=
  [6016, 94, 2, 10, 6, 10, 486, 32]

def khojki : List Nat :=
  [70144, 18, 1, 47]

def khitanSmallScript : List Nat :=
  [94180, 1, 6939, 470]

def kannada : List Nat :=
  [3200, 13, 1, 3, 1, 23, 1, 10, 1, 5, 2, 9, 1, 3, 1, 4, 7, 2, 6, 2, 1, 4, 2, 10, 1, 3]

def kiratRai : List Nat :=
  [93504, 58]

def kaithi : List Nat :=
  [69760, 67, 10, 1]

def taiTham : List Nat :=
  [6688, 63, 1, 29, 2, 11, 6, 10, 6, 14]

def laoo : List Nat :=
  [3713, 2, 1, 1, 1, 5, 1, 24, 1, 1, 1, 23, 2, 5, 1, 1, 1, 7, 1, 10, 2, 4]

def latin : List Nat :=
  [65, 26, 6, 26, 47, 1, 15, 1, 5, 23, 1, 31, 1, 449, 39, 5, 6683, 38, 6, 49, 5, 4, 5, 13, 1,
   70, 65, 256, 369, 1, 13, 1, 16, 13, 141, 2, 6, 1, 27, 1, 17, 41, 2775, 32, 31394, 102, 3, 67,
   2, 2, 1, 1, 1, 8, 21, 14, 816, 43, 1, 9, 1, 4, 20374, 7, 1050, 26, 6, 26, 2085, 6, 1, 42, 1,
   9, 55109, 31, 6, 6]

def lepcha : List Nat :=
  [7168, 56, 3, 15, 3, 3]

def limbu : List Nat :=
  [6400, 31, 1, 12, 4, 12, 4, 1, 3, 12]

def linearA : List Nat :=
  [67072, 311, 9, 22, 10, 8]

def linearB : List Nat :=
  [65536, 12, 1, 26, 1, 19, 1, 2, 1, 15, 2, 14, 34, 123]

def lisu : List Nat :=
  [42192, 48, 31408, 1]

def lycian : List Nat :=
  [66176, 29]

def lydian : List Nat :=
  [67872, 26, 5, 1]

def mahajani : List Nat :=
  [69968, 39]

def makasar : List Nat :=
  [73440, 25]

def mandaic : List Nat :=
  [2112, 28, 2, 1]

def manichaean : List Nat :=
  [68288, 39, 4, 12]

def marchen : List Nat :=
  [72816, 32, 2, 22, 1, 14]

def medefaidrin : List Nat :=
  [93760, 91]

def mendeKikakui : List Nat :=
  [124928, 197, 2, 16]

def meroiticCursive : List Nat :=
  [68000, 24, 4, 20, 2, 46]

def meroiticHieroglyphs : List Nat :=
  [67968, 32]

def plrd : List Nat :=
  [93952, 75, 4, 57, 7, 17]

def malayalam : List Nat :=
  [3328, 13, 1, 3, 1, 51, 1, 3, 1, 6, 4, 16, 2, 26]

def modi : List Nat :=
  [71168, 69, 11, 10]

def mongolian : List Nat :=
  [6144, 2, 2, 1, 1, 20, 6, 89, 7, 43, 64949, 13]

def mroo : List Nat :=
  [92736, 31, 1, 10, 4, 2]

def meeteiMayek : List Nat :=
  [43744, 23, 201, 46, 2, 10]

def multani : List Nat :=
  [70272, 7, 1, 1, 1, 4, 1, 15, 1, 11]

def myanmar : List Nat :=
  [4096, 160, 39232, 31, 97, 32, 27728, 20]

def nagMundari : List Nat :=
  [124112, 42]

def nandinagari : List Nat :=
  [72096, 8, 2, 46, 2, 11]

def oldNorthArabian : List Nat :=
  [68224, 32]

def nabataean : List Nat :=
  [67712, 31, 8, 9]

def newa : List Nat :=
  [70656, 92, 1, 5]

def nkoo : List Nat :=
  [1984, 59, 2, 3]

def nushu : List Nat :=
  [94177, 1, 16782, 396]

def ogham : List Nat :=
  [5760, 29]

def olChiki : List Nat :=
  [7248, 48]

def olOnal : List Nat :=
  [124368, 43, 4, 1]

def oldTurkic : List Nat :=
  [68608, 73]

def oriya : List Nat :=
  [2817, 3, 1, 8, 2, 2, 2, 22, 1, 7, 1, 2, 1, 5, 2, 9, 2, 2, 2, 3, 7, 3, 4, 2, 1, 5, 2, 18]

def osage : List Nat :=
  [66736, 36, 4, 36]

def osmanya : List Nat :=
  [66688, 30, 2, 10]

def oldUyghur : List Nat :=
  [69488, 26]

def palmyrene : List Nat :=
  [67680, 32]

def pauCinHau : List Nat :=
  [72384, 57]

def oldPermic : List Nat :=
  [66384, 43]

def phagsPa : List Nat :=
  [43072, 56]

def inscriptionalPahlavi : List Nat :=
  [68448, 19, 5, 8]

def psalterPahlavi : List Nat :=
  [68480, 18, 7, 4, 12, 7]

def phoenician : List Nat :=
  [67840, 28, 3, 1]

def inscriptionalParthian : List Nat :=
  [68416, 22, 2, 8]

def inherited : List Nat :=
  [768, 112, 277, 2, 452, 11, 26, 1, 736, 4, 4443, 31, 513, 3, 1, 13, 1, 7, 4, 1, 6, 1, 3, 2,
   198, 64, 524, 2, 194, 33, 3897, 4, 107, 2, 52581, 16, 16, 14, 975, 1, 226, 1, 4186, 1, 48068,
   46, 2, 23, 544, 3, 17, 8, 2, 7, 30, 4, 798546, 240]

def rejang : List Nat :=
  [43312, 36, 11, 1]

def hanifiRohingya : List Nat :=
  [68864, 40, 8, 10]

def runic : List Nat :=
  [5792, 75, 3, 11]

def samaritan : List Nat :=
  [2048, 46, 2, 15]

def oldSouthArabian : List Nat :=
  [68192, 32]

def saurashtra : List Nat :=
  [43136, 70, 8, 12]

def signwriting : List Nat :=
  [120832, 652, 15, 5, 1, 15]

def shavian : List Nat :=
  [66640, 48]

def sharada : List Nat :=
  [70016, 96]

def siddham : List Nat :=
  [71040, 54, 2, 38]

def khudawadi : List Nat :=
  [70320, 59, 5, 10]

def sinhala : List Nat :=
  [3457, 3, 1, 18, 3, 24, 1, 9, 1, 1, 2, 7, 3, 1, 4, 6, 1, 1, 1, 8, 6, 10, 2, 3, 66540, 20]

def sogdian : List Nat :=
  [69424, 42]

def oldSogdian : List Nat :=
  [69376, 40]

def soraSompeng : List Nat :=
  [69840, 25, 7, 10]

def soyombo : List Nat :=
  [72272, 83]

def sundanese : List Nat :=
  [7040, 64, 256, 8]

def sunuwar : List Nat :=
  [72640, 34, 14, 10]

def sylotiNagri : List Nat :=
  [43008, 45]

def syriac : List Nat :=
  [1792, 14, 1, 60, 2, 3, 272, 11]

def tagbanwa : List Nat :=
  [5984, 13, 1, 3, 1, 2]

def takri : List Nat :=
  [71296, 58, 6, 10]

def taiLe : List Nat :=
  [6480, 30, 2, 5]

def newTaiLue : List Nat :=
  [6528, 44, 4, 26, 6, 11, 3, 2]

def tamil : List Nat :=
  [2946, 2, 1, 6, 3, 3, 1, 4, 3, 2, 1, 1, 1, 2, 3, 2, 3, 3, 3, 12, 4, 5, 3, 3, 1, 4, 2, 1, 6, 1,
   14, 21, 70597, 50, 13, 1]

def tangut : List Nat :=
  [94176, 1, 31, 6136, 8, 768, 512, 9]

def taiViet : List Nat :=
  [43648, 67, 24, 5]

def telugu : List Nat :=
  [3072, 13, 1, 3, 1, 23, 1, 16, 2, 9, 1, 3, 1, 4, 7, 2, 1, 3, 2, 1, 2, 4, 2, 10, 7, 9]

def tifinagh : List Nat :=
  [11568, 56, 7, 2, 14, 1]

def tagalog : List Nat :=
  [5888, 22, 9, 1]

def thaana : List Nat :=
  [1920, 50]

def thai : List Nat :=
  [3585, 58, 5, 28]

def tibetan : List Nat :=
  [3840, 72, 1, 36, 4, 39, 1, 36, 1, 15, 1, 7, 4, 2]

def tirhuta : List Nat :=
  [70784, 72, 8, 10]

def tangsa : List Nat :=
  [92784, 79, 1, 10]

def todhri : List Nat :=
  [67008, 52]

def toto : List Nat :=
  [123536, 31]

def tuluTigalari : List Nat :=
  [70528, 10, 1, 1, 2, 1, 1, 38, 1, 10, 1, 1, 2, 1, 1, 4, 1, 10, 1, 2, 8, 2]

def ugaritic : List Nat :=
  [66432, 30, 1, 1]

def vaii : List Nat :=
  [42240, 300]

def vithkuqi : List Nat :=
  [66928, 11, 1, 15, 1, 7, 1, 2, 1, 11, 1, 15, 1, 7, 1, 2]

def warangCiti : List Nat :=
  [71840, 83, 12, 1]

def wancho : List Nat :=
  [123584, 58, 5, 1]

def oldPersian : List Nat :=
  [66464, 36, 4, 14]

def cuneiform : List Nat :=
  [73728, 922, 102, 111, 1, 5, 11, 196]

def yezidi : List Nat :=
  [69248, 42, 1, 3, 2, 2]

def yiii : List Nat :=
  [40960, 1165, 3, 55]

def zanabazarSquare : List Nat :=
  [72192, 72]

def common : List Nat :=
  [0, 65, 26, 6, 26, 47, 1, 15, 1, 5, 23, 1, 31, 1, 449, 39, 5, 5, 2, 20, 116, 1, 9, 1, 6, 1, 1,
   1, 637, 1, 6, 1, 14, 1, 3, 1, 32, 1, 156, 1, 516, 1, 129, 2, 1241, 1, 405, 4, 290, 1, 1519,
   3, 71, 2, 203, 2, 1, 1, 1229, 1, 13, 1, 7, 4, 1, 6, 1, 3, 2, 1, 773, 12, 2, 87, 1, 11, 3, 11,
   1, 15, 17, 33, 63, 38, 1, 3, 2, 6, 1, 27, 1, 17, 41, 3, 4, 663, 25, 11, 21, 928, 256, 628, 2,
   32, 1, 105, 512, 94, 402, 12, 4, 5, 1, 1, 1, 25, 15, 8, 4, 4, 91, 2, 3, 1, 90, 2, 147, 16,
   32, 36, 60, 64, 31, 81, 47, 1, 88, 168, 6592, 64, 22784, 34, 102, 3, 165, 10, 244, 1, 160, 1,
   395, 1, 14, 2, 20946, 2, 208, 10, 22, 35, 1, 19, 1, 4, 147, 1, 1, 32, 26, 6, 26, 11, 10, 1,
   45, 2, 64, 7, 1, 7, 10, 5, 258, 3, 4, 45, 3, 9, 80, 13, 51, 45, 228, 27, 47524, 4, 4780, 116,
   60, 246, 10, 39, 2, 62, 3, 17, 8, 2, 7, 30, 4, 61, 213, 20, 12, 20, 12, 87, 9, 25, 135, 85,
   1, 71, 1, 2, 2, 1, 2, 2, 2, 4, 1, 12, 1, 1, 1, 7, 1, 65, 1, 4, 2, 8, 1, 7, 1, 28, 1, 4, 1, 5,
   1, 1, 3, 7, 1, 340, 2, 292, 2, 50, 5233, 68, 76, 61, 706, 44, 4, 100, 12, 15, 2, 15, 1, 15,
   1, 37, 10, 174, 56, 26, 1, 2, 13, 44, 4, 9, 7, 2, 14, 6, 154, 984, 4, 17, 3, 13, 3, 119, 4,
   95, 6, 12, 4, 1, 15, 12, 4, 56, 8, 10, 6, 40, 8, 30, 2, 2, 78, 340, 12, 14, 2, 13, 3, 9, 7,
   46, 1, 7, 8, 14, 4, 9, 7, 9, 7, 147, 1, 55, 37, 10, 787463, 1, 30, 96]

/-! ## The runs of what the scripts use -/

def adlamUsers : List Nat :=
  [1567, 1, 32, 1, 123583, 76, 4, 10, 4, 2]

def arabicUsers : List Nat :=
  [1536, 5, 1, 215, 1, 34, 80, 48, 240, 31, 1, 2, 5, 75, 1, 29, 62032, 115, 16, 445, 2, 54, 7,
   1, 32, 16, 112, 5, 1, 135, 995, 28, 2916, 31, 67, 3, 55, 4, 57088, 4, 1, 27, 1, 2, 1, 1, 2,
   1, 1, 10, 1, 4, 1, 1, 1, 1, 6, 1, 4, 1, 1, 1, 1, 1, 1, 3, 1, 2, 1, 1, 2, 1, 1, 1, 1, 1, 1, 1,
   1, 1, 1, 2, 1, 1, 2, 4, 1, 7, 1, 4, 1, 4, 1, 1, 1, 10, 1, 17, 5, 3, 1, 5, 1, 17, 52, 2]

def bengaliUsers : List Nat :=
  [2385, 2, 17, 2, 26, 4, 1, 8, 2, 2, 2, 22, 1, 7, 1, 1, 3, 4, 2, 9, 2, 2, 2, 4, 8, 1, 4, 2, 1,
   5, 2, 25, 4817, 1, 1, 1, 2, 2, 1, 1, 8, 1, 8, 1, 2, 1, 4, 1, 2, 3, 35833, 1]

def bopomofoUsers : List Nat :=
  [746, 2, 11541, 3, 4, 10, 1, 13, 10, 4, 2, 1, 6, 1, 195, 1, 9, 43, 112, 32, 52357, 2, 282, 5]

def bugineseUsers : List Nat :=
  [6656, 28, 2, 2, 36783, 1]

def buhidUsers : List Nat :=
  [5941, 2, 9, 20]

def chakmaUsers : List Nat :=
  [2534, 10, 1616, 10, 65718, 53, 1, 18]

def copticUsers : List Nat :=
  [994, 14, 10384, 116, 5, 7, 54752, 28]

def cyproMinoanUsers : List Nat :=
  [65792, 2, 11918, 99]

def cypriotUsers : List Nat :=
  [65792, 3, 4, 45, 3, 9, 1728, 6, 2, 1, 1, 44, 1, 2, 3, 1, 2, 1]

def cyrillicUsers : List Nat :=
  [1024, 304, 5968, 11, 160, 1, 76, 1, 127, 1, 4071, 32, 67, 1, 30716, 96, 22414, 2, 57856, 62,
   33, 1]

def devanagariUsers : List Nat :=
  [2304, 83, 2, 43, 4944, 39, 1, 2, 1014, 1, 34623, 10, 166, 32, 29184, 10]

def dograUsers : List Nat :=
  [2404, 12, 40640, 10, 28614, 60]

def duployanUsers : List Nat :=
  [113664, 107, 5, 13, 3, 9, 7, 10, 2, 8]

def georgianUsers : List Nat :=
  [4256, 38, 1, 1, 5, 1, 2, 48, 2960, 43, 2, 3, 4160, 38, 1, 1, 5, 1]

def glagoliticUsers : List Nat :=
  [1156, 1, 2, 1, 10104, 96, 483, 1, 30763, 1, 80272, 7, 1, 17, 2, 7, 1, 2, 1, 5]

def gunjalaGondiUsers : List Nat :=
  [2404, 2, 70650, 6, 1, 2, 1, 37, 1, 2, 1, 6, 7, 10]

def masaramGondiUsers : List Nat :=
  [2404, 2, 70554, 7, 1, 2, 1, 44, 3, 1, 1, 2, 1, 9, 8, 10]

def granthaUsers : List Nat :=
  [2385, 2, 17, 2, 640, 14, 4316, 1, 1, 2, 30, 3, 3, 2, 1014, 1, 61967, 4, 1, 8, 2, 2, 2, 22, 1,
   7, 1, 2, 1, 5, 1, 10, 2, 2, 2, 3, 2, 1, 6, 1, 5, 7, 2, 7, 3, 5, 3163, 2, 1, 1]

def greekUsers : List Nat :=
  [834, 1, 2, 1, 42, 4, 1, 3, 2, 4, 1, 1, 4, 1, 1, 1, 1, 3, 1, 1, 1, 20, 1, 63, 14, 16, 6438, 5,
   50, 5, 4, 5, 84, 3, 318, 22, 2, 6, 2, 38, 2, 6, 2, 8, 1, 1, 1, 1, 1, 1, 1, 31, 2, 53, 1, 15,
   1, 14, 2, 6, 1, 19, 2, 3, 1, 9, 295, 1, 35390, 1, 21978, 79, 17, 1, 53343, 70]

def gujaratiUsers : List Nat :=
  [2385, 2, 17, 2, 283, 3, 1, 9, 1, 3, 1, 22, 1, 7, 1, 2, 1, 5, 2, 10, 1, 3, 1, 3, 2, 1, 15, 4,
   2, 12, 7, 7, 40240, 10]

def gurmukhiUsers : List Nat :=
  [2385, 2, 17, 2, 155, 3, 1, 6, 4, 2, 2, 22, 1, 7, 1, 2, 1, 2, 1, 2, 2, 1, 1, 5, 4, 2, 2, 3, 3,
   1, 7, 4, 1, 1, 7, 17, 40377, 10]

def haniUsers : List Nat :=
  [11904, 26, 1, 89, 12, 214, 43, 3, 1, 13, 1, 13, 1, 13, 2, 1, 6, 9, 187, 1, 148, 16, 32, 36,
   60, 40, 56, 49, 15, 12, 51, 1, 88, 25, 10, 5, 96, 31, 1, 6592, 64, 20992, 1792, 8, 20984,
   366, 2, 106, 875, 2, 282, 5, 28796, 2, 12, 2, 25454, 18, 7902, 2, 3502, 42720, 32, 4154, 6,
   222, 2, 5762, 14, 7473, 15, 622, 2466, 542, 1506, 4939, 5, 4192]

def hangulUsers : List Nat :=
  [4352, 256, 7681, 3, 4, 10, 1, 13, 14, 3, 6, 1, 195, 1, 53, 94, 113, 31, 65, 31, 30433, 29,
   643, 11172, 12, 23, 4, 49, 9801, 2, 282, 5, 58, 31, 3, 6, 2, 6, 2, 6, 2, 3]

def hanunooUsers : List Nat :=
  [5920, 23]

def hiraganaUsers : List Nat :=
  [12289, 3, 4, 10, 1, 13, 16, 6, 1, 1, 4, 2, 3, 86, 2, 8, 90, 2, 52552, 2, 282, 5, 10, 1, 45,
   2, 45153, 287, 18, 1, 29, 3, 16557, 1]

def javaneseUsers : List Nat :=
  [43392, 78, 1, 11, 4, 2]

def kayahLiUsers : List Nat :=
  [43264, 48]

def katakanaUsers : List Nat :=
  [12289, 3, 4, 10, 1, 13, 16, 6, 1, 1, 4, 2, 91, 4, 3, 96, 240, 16, 208, 47, 1, 88, 51949, 2,
   282, 63, 45136, 4, 1, 7, 1, 2, 1, 1, 287, 3, 50, 1, 14, 4]

def khojkiUsers : List Nat :=
  [2790, 10, 40256, 10, 27078, 18, 1, 47]

def kannadaUsers : List Nat :=
  [2385, 2, 17, 2, 794, 13, 1, 3, 1, 23, 1, 10, 1, 5, 2, 9, 1, 3, 1, 4, 7, 2, 6, 2, 1, 4, 2, 10,
   1, 3, 4060, 1, 1, 1, 7, 1, 23, 1, 1, 1, 35643, 6]

def kaithiUsers : List Nat :=
  [2406, 10, 40640, 10, 26694, 67, 10, 1]

def latinUsers : List Nat :=
  [65, 26, 6, 26, 47, 1, 15, 1, 5, 23, 1, 31, 1, 449, 39, 5, 126, 13, 277, 2, 1226, 2, 1960, 1,
   3076, 38, 6, 49, 5, 4, 5, 13, 1, 70, 65, 256, 303, 1, 65, 1, 13, 1, 16, 13, 83, 1, 57, 2, 6,
   1, 27, 1, 17, 41, 2775, 32, 31360, 8, 26, 102, 3, 67, 2, 2, 1, 1, 1, 8, 21, 14, 302, 1, 513,
   43, 1, 9, 1, 4, 20374, 7, 1050, 26, 6, 26, 2085, 6, 1, 42, 1, 9, 55109, 31, 6, 6]

def limbuUsers : List Nat :=
  [2405, 1, 3994, 31, 1, 12, 4, 12, 4, 1, 3, 12]

def linearAUsers : List Nat :=
  [65799, 45, 1228, 311, 9, 22, 10, 8]

def linearBUsers : List Nat :=
  [65536, 12, 1, 26, 1, 19, 1, 2, 1, 15, 2, 14, 34, 123, 5, 3, 4, 45, 3, 9]

def mahajaniUsers : List Nat :=
  [2404, 12, 40640, 10, 26902, 39]

def mandaicUsers : List Nat :=
  [1600, 1, 511, 28, 2, 1]

def manichaeanUsers : List Nat :=
  [1600, 1, 66687, 39, 4, 12]

def malayalamUsers : List Nat :=
  [2385, 2, 17, 2, 922, 13, 1, 3, 1, 51, 1, 3, 1, 6, 4, 16, 2, 26, 3930, 1, 35669, 3]

def modiUsers : List Nat :=
  [43056, 10, 28102, 69, 11, 10]

def mongolianUsers : List Nat :=
  [6144, 26, 6, 89, 7, 43, 1924, 1, 63024, 13]

def multaniUsers : List Nat :=
  [2662, 10, 67600, 7, 1, 1, 1, 4, 1, 15, 1, 11]

def myanmarUsers : List Nat :=
  [4096, 160, 39054, 1, 177, 31, 97, 32, 27728, 20]

def nandinagariUsers : List Nat :=
  [2404, 2, 896, 10, 4089, 1, 8, 1, 7, 1, 35637, 6, 29034, 8, 2, 46, 2, 11]

def nkooUsers : List Nat :=
  [1548, 1, 14, 1, 3, 1, 416, 59, 2, 3, 62782, 2]

def oriyaUsers : List Nat :=
  [2385, 2, 17, 2, 411, 3, 1, 8, 2, 2, 2, 22, 1, 7, 1, 2, 1, 5, 2, 9, 2, 2, 2, 3, 7, 3, 4, 2, 1,
   5, 2, 18, 4450, 1, 23, 1]

def oldUyghurUsers : List Nat :=
  [1600, 1, 66737, 1, 1149, 26]

def oldPermicUsers : List Nat :=
  [1155, 1, 65228, 43]

def phagsPaUsers : List Nat :=
  [6146, 2, 1, 1, 36922, 56]

def psalterPahlaviUsers : List Nat :=
  [1600, 1, 66879, 18, 7, 4, 12, 7]

def inheritedUsers : List Nat :=
  [768, 66, 1, 2, 1, 29, 1520, 2, 4443, 31, 755, 54, 1, 1, 1, 5, 524, 2, 194, 32, 56592, 16, 16,
   14, 975, 1, 52482, 46, 2, 23, 544, 3, 17, 8, 2, 7, 30, 4, 798546, 240]

def hanifiRohingyaUsers : List Nat :=
  [1548, 1, 14, 1, 3, 1, 32, 1, 147, 1, 67115, 40, 8, 10]

def sharadaUsers : List Nat :=
  [2385, 1, 4997, 1, 1, 1, 2, 2, 2, 1, 62623, 96]

def khudawadiUsers : List Nat :=
  [2404, 2, 40650, 10, 27254, 59, 5, 10]

def sinhalaUsers : List Nat :=
  [2404, 2, 1051, 3, 1, 18, 3, 24, 1, 9, 1, 1, 2, 7, 3, 1, 4, 6, 1, 1, 1, 8, 6, 10, 2, 3, 66540,
   20]

def sogdianUsers : List Nat :=
  [1600, 1, 67823, 42]

def sylotiNagriUsers : List Nat :=
  [2404, 2, 128, 10, 40464, 45]

def syriacUsers : List Nat :=
  [1548, 1, 14, 2, 2, 1, 32, 1, 10, 11, 26, 1, 143, 14, 1, 60, 2, 3, 272, 11, 5517, 1, 1, 1]

def tagbanwaUsers : List Nat :=
  [5941, 2, 41, 13, 1, 3, 1, 2]

def takriUsers : List Nat :=
  [2404, 2, 40650, 10, 28230, 58, 6, 10]

def taiLeUsers : List Nat :=
  [4160, 10, 2310, 30, 2, 5]

def tamilUsers : List Nat :=
  [2385, 2, 17, 2, 540, 2, 1, 6, 3, 3, 1, 4, 3, 2, 1, 1, 1, 2, 3, 2, 3, 3, 3, 12, 4, 5, 3, 3, 1,
   4, 2, 1, 6, 1, 14, 21, 4319, 1, 35864, 1, 27149, 1, 1, 1, 55, 2, 3203, 50, 13, 1]

def teluguUsers : List Nat :=
  [2385, 2, 17, 2, 666, 13, 1, 3, 1, 23, 1, 16, 2, 9, 1, 3, 1, 4, 7, 2, 1, 3, 2, 1, 2, 4, 2, 10,
   7, 9, 4186, 1, 23, 1]

def tagalogUsers : List Nat :=
  [5888, 22, 9, 1, 21, 2]

def thaanaUsers : List Nat :=
  [1548, 1, 14, 2, 2, 1, 64, 10, 278, 50, 63040, 1, 10, 1]

def tirhutaUsers : List Nat :=
  [2385, 2, 17, 2, 5004, 1, 35645, 10, 27718, 72, 8, 10]

def yezidiUsers : List Nat :=
  [1548, 1, 14, 1, 3, 1, 64, 10, 67606, 42, 1, 3, 2, 2]

def yiiiUsers : List Nat :=
  [12289, 2, 5, 10, 2, 8, 223, 1, 28420, 1165, 3, 55, 23194, 5]

def commonUsers : List Nat :=
  [0, 65, 26, 6, 26, 47, 1, 15, 1, 5, 23, 1, 31, 1, 449, 39, 5, 5, 2, 20, 116, 1, 9, 1, 6, 1, 1,
   1, 637, 1, 215, 1, 516, 1, 1372, 1, 405, 4, 1810, 3, 2322, 12, 2, 33, 1, 53, 1, 11, 3, 11, 1,
   15, 17, 33, 63, 38, 1, 3, 2, 6, 1, 27, 1, 17, 41, 3, 4, 663, 25, 11, 21, 928, 256, 628, 2,
   32, 1, 105, 512, 67, 1, 26, 402, 12, 4, 1, 3, 1, 13, 1, 13, 1, 21, 1, 529, 24, 31, 1, 49, 15,
   12, 4, 161, 10, 5, 96, 31, 1, 6592, 64, 22792, 26, 102, 3, 976, 1, 14, 2, 21156, 10, 22, 21,
   2, 12, 1, 19, 1, 4, 147, 1, 1, 32, 26, 6, 26, 6, 127, 7, 1, 7, 10, 5, 402, 13, 51, 45, 52563,
   116, 60, 246, 10, 39, 2, 62, 3, 17, 8, 2, 7, 30, 4, 61, 213, 20, 12, 20, 12, 87, 27, 7, 135,
   85, 1, 71, 1, 2, 2, 1, 2, 2, 2, 4, 1, 12, 1, 1, 1, 7, 1, 65, 1, 4, 2, 8, 1, 7, 1, 28, 1, 4,
   1, 5, 1, 1, 3, 7, 1, 340, 2, 292, 2, 50, 5233, 68, 76, 61, 706, 44, 4, 100, 12, 15, 2, 15, 1,
   15, 1, 37, 10, 174, 56, 26, 1, 2, 13, 44, 4, 9, 23, 6, 154, 984, 4, 17, 3, 13, 3, 119, 4, 95,
   6, 12, 4, 1, 15, 12, 4, 56, 8, 10, 6, 40, 8, 30, 2, 2, 78, 340, 12, 14, 2, 13, 3, 9, 7, 46,
   1, 7, 8, 14, 4, 9, 7, 9, 7, 147, 1, 55, 37, 10, 787463, 1, 30, 96]

/-! ## Names -/

/-- The names of a script and its characters, as runs. -/
def table : List (List String × List Nat) :=
  [(["adlm", "adlam"], adlam),
    (["aghb", "caucasianalbanian"], caucasianAlbanian),
    (["ahom"], ahom),
    (["arab", "arabic"], arabic),
    (["armi", "imperialaramaic"], imperialAramaic),
    (["armn", "armenian"], armenian),
    (["avst", "avestan"], avestan),
    (["bali", "balinese"], balinese),
    (["bamu", "bamum"], bamum),
    (["bass", "bassavah"], bassaVah),
    (["batk", "batak"], batak),
    (["beng", "bengali"], bengali),
    (["bhks", "bhaiksuki"], bhaiksuki),
    (["bopo", "bopomofo"], bopomofo),
    (["brah", "brahmi"], brahmi),
    (["brai", "braille"], braille),
    (["bugi", "buginese"], buginese),
    (["buhd", "buhid"], buhid),
    (["cakm", "chakma"], chakma),
    (["cans", "canadianaboriginal"], canadianAboriginal),
    (["cari", "carian"], carian),
    (["cham"], cham),
    (["cher", "cherokee"], cherokee),
    (["chrs", "chorasmian"], chorasmian),
    (["copt", "qaac", "coptic"], coptic),
    (["cpmn", "cyprominoan"], cyproMinoan),
    (["cprt", "cypriot"], cypriot),
    (["cyrl", "cyrillic"], cyrillic),
    (["deva", "devanagari"], devanagari),
    (["diak", "divesakuru"], divesAkuru),
    (["dogr", "dogra"], dogra),
    (["dsrt", "deseret"], deseret),
    (["dupl", "duployan"], duployan),
    (["egyp", "egyptianhieroglyphs"], egyptianHieroglyphs),
    (["elba", "elbasan"], elbasan),
    (["elym", "elymaic"], elymaic),
    (["ethi", "ethiopic"], ethiopic),
    (["gara", "garay"], garay),
    (["geor", "georgian"], georgian),
    (["glag", "glagolitic"], glagolitic),
    (["gong", "gunjalagondi"], gunjalaGondi),
    (["gonm", "masaramgondi"], masaramGondi),
    (["goth", "gothic"], gothic),
    (["gran", "grantha"], grantha),
    (["grek", "greek"], greek),
    (["gujr", "gujarati"], gujarati),
    (["gukh", "gurungkhema"], gurungKhema),
    (["guru", "gurmukhi"], gurmukhi),
    (["han", "hani"], hani),
    (["hang", "hangul"], hangul),
    (["hano", "hanunoo"], hanunoo),
    (["hatr", "hatran"], hatran),
    (["hebr", "hebrew"], hebrew),
    (["hira", "hiragana"], hiragana),
    (["hluw", "anatolianhieroglyphs"], anatolianHieroglyphs),
    (["hmng", "pahawhhmong"], pahawhHmong),
    (["hmnp", "nyiakengpuachuehmong"], nyiakengPuachueHmong),
    (["hung", "oldhungarian"], oldHungarian),
    (["ital", "olditalic"], oldItalic),
    (["java", "javanese"], javanese),
    (["kali", "kayahli"], kayahLi),
    (["kana", "katakana"], katakana),
    (["kawi"], kawi),
    (["khar", "kharoshthi"], kharoshthi),
    (["khmr", "khmer"], khmer),
    (["khoj", "khojki"], khojki),
    (["kits", "khitansmallscript"], khitanSmallScript),
    (["knda", "kannada"], kannada),
    (["krai", "kiratrai"], kiratRai),
    (["kthi", "kaithi"], kaithi),
    (["lana", "taitham"], taiTham),
    (["lao", "laoo"], laoo),
    (["latn", "latin"], latin),
    (["lepc", "lepcha"], lepcha),
    (["limb", "limbu"], limbu),
    (["lina", "lineara"], linearA),
    (["linb", "linearb"], linearB),
    (["lisu"], lisu),
    (["lyci", "lycian"], lycian),
    (["lydi", "lydian"], lydian),
    (["mahj", "mahajani"], mahajani),
    (["maka", "makasar"], makasar),
    (["mand", "mandaic"], mandaic),
    (["mani", "manichaean"], manichaean),
    (["marc", "marchen"], marchen),
    (["medf", "medefaidrin"], medefaidrin),
    (["mend", "mendekikakui"], mendeKikakui),
    (["merc", "meroiticcursive"], meroiticCursive),
    (["mero", "meroitichieroglyphs"], meroiticHieroglyphs),
    (["miao", "plrd"], plrd),
    (["mlym", "malayalam"], malayalam),
    (["modi"], modi),
    (["mong", "mongolian"], mongolian),
    (["mro", "mroo"], mroo),
    (["mtei", "meeteimayek"], meeteiMayek),
    (["mult", "multani"], multani),
    (["mymr", "myanmar"], myanmar),
    (["nagm", "nagmundari"], nagMundari),
    (["nand", "nandinagari"], nandinagari),
    (["narb", "oldnortharabian"], oldNorthArabian),
    (["nbat", "nabataean"], nabataean),
    (["newa"], newa),
    (["nko", "nkoo"], nkoo),
    (["nshu", "nushu"], nushu),
    (["ogam", "ogham"], ogham),
    (["olck", "olchiki"], olChiki),
    (["onao", "olonal"], olOnal),
    (["orkh", "oldturkic"], oldTurkic),
    (["orya", "oriya"], oriya),
    (["osge", "osage"], osage),
    (["osma", "osmanya"], osmanya),
    (["ougr", "olduyghur"], oldUyghur),
    (["palm", "palmyrene"], palmyrene),
    (["pauc", "paucinhau"], pauCinHau),
    (["perm", "oldpermic"], oldPermic),
    (["phag", "phagspa"], phagsPa),
    (["phli", "inscriptionalpahlavi"], inscriptionalPahlavi),
    (["phlp", "psalterpahlavi"], psalterPahlavi),
    (["phnx", "phoenician"], phoenician),
    (["prti", "inscriptionalparthian"], inscriptionalParthian),
    (["qaai", "zinh", "inherited"], inherited),
    (["rjng", "rejang"], rejang),
    (["rohg", "hanifirohingya"], hanifiRohingya),
    (["runr", "runic"], runic),
    (["samr", "samaritan"], samaritan),
    (["sarb", "oldsoutharabian"], oldSouthArabian),
    (["saur", "saurashtra"], saurashtra),
    (["sgnw", "signwriting"], signwriting),
    (["shaw", "shavian"], shavian),
    (["shrd", "sharada"], sharada),
    (["sidd", "siddham"], siddham),
    (["sind", "khudawadi"], khudawadi),
    (["sinh", "sinhala"], sinhala),
    (["sogd", "sogdian"], sogdian),
    (["sogo", "oldsogdian"], oldSogdian),
    (["sora", "sorasompeng"], soraSompeng),
    (["soyo", "soyombo"], soyombo),
    (["sund", "sundanese"], sundanese),
    (["sunu", "sunuwar"], sunuwar),
    (["sylo", "sylotinagri"], sylotiNagri),
    (["syrc", "syriac"], syriac),
    (["tagb", "tagbanwa"], tagbanwa),
    (["takr", "takri"], takri),
    (["tale", "taile"], taiLe),
    (["talu", "newtailue"], newTaiLue),
    (["taml", "tamil"], tamil),
    (["tang", "tangut"], tangut),
    (["tavt", "taiviet"], taiViet),
    (["telu", "telugu"], telugu),
    (["tfng", "tifinagh"], tifinagh),
    (["tglg", "tagalog"], tagalog),
    (["thaa", "thaana"], thaana),
    (["thai"], thai),
    (["tibt", "tibetan"], tibetan),
    (["tirh", "tirhuta"], tirhuta),
    (["tnsa", "tangsa"], tangsa),
    (["todr", "todhri"], todhri),
    (["toto"], toto),
    (["tutg", "tulutigalari"], tuluTigalari),
    (["ugar", "ugaritic"], ugaritic),
    (["vai", "vaii"], vaii),
    (["vith", "vithkuqi"], vithkuqi),
    (["wara", "warangciti"], warangCiti),
    (["wcho", "wancho"], wancho),
    (["xpeo", "oldpersian"], oldPersian),
    (["xsux", "cuneiform"], cuneiform),
    (["yezi", "yezidi"], yezidi),
    (["yi", "yiii"], yiii),
    (["zanb", "zanabazarsquare"], zanabazarSquare),
    (["zyyy", "common"], common)]

/-- The short name of a script and all characters that it uses, as runs. -/
def extended : List (String × List Nat) :=
  [("adlm", adlamUsers),
    ("arab", arabicUsers),
    ("beng", bengaliUsers),
    ("bopo", bopomofoUsers),
    ("bugi", bugineseUsers),
    ("buhd", buhidUsers),
    ("cakm", chakmaUsers),
    ("copt", copticUsers),
    ("cpmn", cyproMinoanUsers),
    ("cprt", cypriotUsers),
    ("cyrl", cyrillicUsers),
    ("deva", devanagariUsers),
    ("dogr", dograUsers),
    ("dupl", duployanUsers),
    ("geor", georgianUsers),
    ("glag", glagoliticUsers),
    ("gong", gunjalaGondiUsers),
    ("gonm", masaramGondiUsers),
    ("gran", granthaUsers),
    ("grek", greekUsers),
    ("gujr", gujaratiUsers),
    ("guru", gurmukhiUsers),
    ("han", haniUsers),
    ("hang", hangulUsers),
    ("hano", hanunooUsers),
    ("hira", hiraganaUsers),
    ("java", javaneseUsers),
    ("kali", kayahLiUsers),
    ("kana", katakanaUsers),
    ("khoj", khojkiUsers),
    ("knda", kannadaUsers),
    ("kthi", kaithiUsers),
    ("latn", latinUsers),
    ("limb", limbuUsers),
    ("lina", linearAUsers),
    ("linb", linearBUsers),
    ("mahj", mahajaniUsers),
    ("mand", mandaicUsers),
    ("mani", manichaeanUsers),
    ("mlym", malayalamUsers),
    ("modi", modiUsers),
    ("mong", mongolianUsers),
    ("mult", multaniUsers),
    ("mymr", myanmarUsers),
    ("nand", nandinagariUsers),
    ("nko", nkooUsers),
    ("orya", oriyaUsers),
    ("ougr", oldUyghurUsers),
    ("perm", oldPermicUsers),
    ("phag", phagsPaUsers),
    ("phlp", psalterPahlaviUsers),
    ("qaai", inheritedUsers),
    ("rohg", hanifiRohingyaUsers),
    ("shrd", sharadaUsers),
    ("sind", khudawadiUsers),
    ("sinh", sinhalaUsers),
    ("sogd", sogdianUsers),
    ("sylo", sylotiNagriUsers),
    ("syrc", syriacUsers),
    ("tagb", tagbanwaUsers),
    ("takr", takriUsers),
    ("tale", taiLeUsers),
    ("taml", tamilUsers),
    ("telu", teluguUsers),
    ("tglg", tagalogUsers),
    ("thaa", thaanaUsers),
    ("tirh", tirhutaUsers),
    ("yezi", yezidiUsers),
    ("yi", yiiiUsers),
    ("zyyy", commonUsers)]

end MediaScraper.Script
