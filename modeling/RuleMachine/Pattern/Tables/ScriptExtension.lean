/-!
# Script extensions

The code points whose script extensions include each script, in Unicode 16.0. A code point
without extensions of its own counts for its script alone.
Every table is a text of base-36 numbers separated by spaces, read in pairs: the gap from the end of the
previous range (from zero for the first) to the start of a range, then the range's length less one.
-/

namespace RuleMachine

namespace Unicode

/-- Code points whose script extensions include Adlam. -/
def extensionAdlam : String :=
  "17j 0 w 0 55a 0 2r5 0 2fge 23 4 9 4 1"

/-- Code points whose script extensions include Ahom. -/
def extensionAhom : String :=
  "1j40 q 2 e 4 m"

/-- Code points whose script extensions include Anatolian Hieroglyphs. -/
def extensionAnatolianHieroglyphs : String :=
  "1s00 g6"

/-- Code points whose script extensions include Arabic. -/
def extensionArabic : String :=
  "16o 4 1 5y 1 x 28 1b 6o u 1 1 5 22 1 s 4lr 0 2r5 0 14i6 36 g cc 2 1h 7 0 w f 34 4 1 3q rn r 290 u 1v 2 1j 3 181s 3 1 q 1 1 1 0 2 0 1 9 1 3 1 0 1 0 6 0 4 0 1 0 1 0 1 2 1 1 1 0 2 0 1 0 1 0 1 0 1 0 1 1 1 0 2 3 1 6 1 3 1 3 1 0 1 9 1 g 5 2 1 4 1 g 1g 1"

/-- Code points whose script extensions include Armenian. -/
def extensionArmenian : String :=
  "lk 0 fc 11 2 1d 2 2 1chv 4"

/-- Code points whose script extensions include Avestan. -/
def extensionAvestan : String :=
  "53 0 8zc 1 17m6 1h 3 6"

/-- Code points whose script extensions include Balinese. -/
def extensionBalinese : String :=
  "5c0 24 1 1d"

/-- Code points whose script extensions include Bamum. -/
def extensionBamum : String :=
  "www 2f 124o fs"

/-- Code points whose script extensions include Bassa Vah. -/
def extensionBassaVah : String :=
  "1zo0 t 2 5"

/-- Code points whose script extensions include Batak. -/
def extensionBatak : String :=
  "5hc 1f 8 3"

/-- Code points whose script extensions include Bengali. -/
def extensionBengali : String :=
  "jg 0 1as 1 h 1 q 3 1 7 2 1 2 l 1 6 1 0 3 3 2 8 2 1 2 3 8 0 4 1 1 4 2 o 3pt 0 1 0 2 1 1 0 8 0 8 0 2 0 4 0 2 2 rnd 0"

/-- Code points whose script extensions include Bhaiksuki. -/
def extensionBhaiksuki : String :=
  "1k3k 8 1 18 1 d a s"

/-- Code points whose script extensions include Bopomofo. -/
def extensionBopomofo : String :=
  "jr 0 1 2 d 0 g 1 8wl 2 4 9 1 c a 3 2 0 6 0 5f 0 9 16 34 v 14ed 1 7u 4"

/-- Code points whose script extensions include Brahmi. -/
def extensionBrahmi : String :=
  "1hq8 25 4 z 9 0"

/-- Code points whose script extensions include Braille. -/
def extensionBraille : String :=
  "7wg 73"

/-- Code points whose script extensions include Buginese. -/
def extensionBuginese : String :=
  "54w r 2 1 sdr 0"

/-- Code points whose script extensions include Buhid. -/
def extensionBuhid : String :=
  "4l1 1 9 j"

/-- Code points whose script extensions include Canadian Aboriginal. -/
def extensionCanadianAboriginal : String :=
  "3y8 hr fk 1x 1ewq f"

/-- Code points whose script extensions include Carian. -/
def extensionCarian : String :=
  "53 0 68y 0 2 0 2qb 0 15ym 1c"

/-- Code points whose script extensions include Caucasian Albanian. -/
def extensionCaucasianAlbanian : String :=
  "lg 0 18 0 18 0 1exd 1f b 0"

/-- Code points whose script extensions include Chakma. -/
def extensionChakma : String :=
  "1ye 9 18w 9 1epi 1g 1 h"

/-- Code points whose script extensions include Cham. -/
def extensionCham : String :=
  "xkw 1i 9 d 2 9 2 3"

/-- Code points whose script extensions include Cherokee. -/
def extensionCherokee : String :=
  "lc 2 1 0 6 1 m 1 b 1 38u 2d 2 5 twy 27"

/-- Code points whose script extensions include Chorasmian. -/
def extensionChorasmian : String :=
  "1ho0 r"

/-- Code points whose script extensions include Common. -/
def extensionCommon : String :=
  "0 1s q 5 q 1a 1 b 1 1 1 4 n 0 v 0 ch 2 1 9 1 0 3 0 1 8 1 0 1 5 5 4 2 j 3i 0 6 0 1 0 hp 0 5z 0 ec 0 124 0 b9 3 36v b 2 w 1 u 1 9 1 1 1 6 1 a 3 a 1 e h w 1r 11 1 2 2 5 1 q 1 g 15 2 4 ih m a l pr 74 hf 2 v 1 2w e8 m 1 n 2 9 1 3 1 0 1 p bm 0 3 0 d 0 d 0 l 0 ep n v 0 1d e c 3 4h 9 5 2n v 0 534 1r hl4 p 2u 2 r4 0 e 1 gbo 9 m k 2 b 1 i 1 3 43 0 1 v q 5 q 5 3j 6 1 6 a 4 b6 c 1f 18 13wj 6x 6 c3 4c 37 1o 6t a 12 2 1p 3 g 8 1 7 t 4 1o 5x j c j c 2e r 6 3r 2c 1 1y 1 1 2 0 2 1 2 3 1 b 1 0 1 6 1 1s 1 3 2 7 1 6 1 r 1 3 1 4 1 0 3 6 1 9f 2 83 2 1d 41d 1v 24 1o jm 17 4 2r c e 2 e 1 e 1 10 a 4t 1k p 1 1 d 17 4 8 n 5 4a rb 4 g 3 c 3 3a 4 2m 6 b 4 0 f b 4 1j 8 9 6 13 8 t 2 b 4 1 1q 9f c d 2 c 3 9 5 1j 7 e 2 a 6 8 7 42 1 2t gvlz 0 u 2n"

/-- Code points whose script extensions include Coptic. -/
def extensionCoptic : String :=
  "53 0 g8 0 3 1 1 0 30 1 30 d 80g 37 5 6 7r 0 1614 r"

/-- Code points whose script extensions include Cuneiform. -/
def extensionCuneiform : String :=
  "1kw0 pl 2u 32 1 4 b 5f"

/-- Code points whose script extensions include Cypriot. -/
def extensionCypriot : String :=
  "1erk 2 4 18 3 8 1c0 5 2 0 1 17 1 1 3 0 2 0"

/-- Code points whose script extensions include Cypro Minoan. -/
def extensionCyproMinoan : String :=
  "1erk 1 972 2q"

/-- Code points whose script extensions include Cyrillic. -/
def extensionCyrillic : String :=
  "jg 0 1v 2 1 0 1 0 1 0 2 0 5 0 6m 8f 4ls a 4g 0 24 0 3j 0 353 v 1v 0 np8 2n ham 1 18n4 1p x 0"

/-- Code points whose script extensions include Deseret. -/
def extensionDeseret : String :=
  "1fcw 27"

/-- Code points whose script extensions include Devanagari. -/
def extensionDevanagari : String :=
  "jg 0 18j 2a 2 16 3tc 12 1 1 s6 0 qpr 9 4m v mio 9"

/-- Code points whose script extensions include Dives Akuru. -/
def extensionDivesAkuru : String :=
  "1ji8 6 2 0 2 7 1 1 1 t 1 1 2 b 9 9"

/-- Code points whose script extensions include Dogra. -/
def extensionDogra : String :=
  "1us b vcw 9 m2u 1n"

/-- Code points whose script extensions include Duployan. -/
def extensionDuployan : String :=
  "53 0 gf 1 1 0 o 1 8if 0 26kj 2y 5 c 3 8 7 9 2 7"

/-- Code points whose script extensions include Egyptian Hieroglyphs. -/
def extensionEgyptianHieroglyphs : String :=
  "1o1s ut a 32y"

/-- Code points whose script extensions include Elbasan. -/
def extensionElbasan : String :=
  "53 0 gd 0 1eyi 13"

/-- Code points whose script extensions include Elymaic. -/
def extensionElymaic : String :=
  "1hpc m"

/-- Code points whose script extensions include Ethiopic. -/
def extensionEthiopic : String :=
  "lq 0 2y9 20 1 3 2 6 1 0 1 3 2 14 1 3 2 w 1 3 2 6 1 0 1 3 2 e 1 1k 1 3 2 1u 2 v 3 p 546 m 9 6 1 6 1 6 1 6 1 6 1 6 1 6 1 6 opu 5 2 5 2 5 9 6 1 6 1qk1 6 1 3 1 1 1 e"

/-- Code points whose script extensions include Garay. -/
def extensionGaray : String :=
  "170 0 e 0 3 0 1fz4 11 3 s 8 1"

/-- Code points whose script extensions include Georgian. -/
def extensionGeorgian : String :=
  "53 0 y9 0 26u 11 1 0 5 0 2 1b 2a8 16 2 2 pm 0 2hx 11 1 0 5 0 77 0"

/-- Code points whose script extensions include Glagolitic. -/
def extensionGlagolitic : String :=
  "53 0 gb 0 1 0 am 0 2 0 75 0 29d 0 31a 0 2at 2n df 0 nqj 0 1pxs 6 1 g 2 6 1 1 1 4"

/-- Code points whose script extensions include Gothic. -/
def extensionGothic : String :=
  "53 0 gc 1 2 0 14 0 1eke q"

/-- Code points whose script extensions include Grantha. -/
def extensionGrantha : String :=
  "1u9 1 h 1 hs d 3bw 0 1 1 u 2 3 1 s6 0 1btb 3 1 7 2 1 2 l 1 6 1 1 1 4 1 9 2 1 2 2 2 0 6 0 5 6 2 6 3 4 2fv 1 1 0"

/-- Code points whose script extensions include Greek. -/
def extensionGreek : String :=
  "53 0 g8 1 2 0 1 0 1 0 a 0 1a 0 2 0 16 7 2 3 1 0 4 0 1 0 1 2 1 0 1 j 1 1q e f 4yu 4 1e 4 4 4 2c 2 8u l 2 5 2 11 2 5 2 7 1 0 1 0 1 0 1 u 2 1g 1 e 1 d 2 5 1 i 2 2 1 8 2m 0 5k 0 rb2 0 gyi 26 h 0 155r 1x"

/-- Code points whose script extensions include Gujarati. -/
def extensionGujarati : String :=
  "1u9 1 h 1 7v 2 1 8 1 2 1 l 1 6 1 1 1 4 2 9 1 2 1 2 2 0 f 3 2 b 7 6 v1s 9"

/-- Code points whose script extensions include Gunjala Gondi. -/
def extensionGunjalaGondi : String :=
  "53 0 1po 1 1iii 5 1 1 1 10 1 1 1 5 7 9"

/-- Code points whose script extensions include Gurmukhi. -/
def extensionGurmukhi : String :=
  "1u9 1 h 1 4b 2 1 5 4 1 2 l 1 6 1 1 1 1 1 1 2 0 1 4 4 1 2 2 3 0 7 3 1 0 7 g v5l 9"

/-- Code points whose script extensions include Gurung Khema. -/
def extensionGurungKhema : String :=
  "1ut 0 1vve 1l"

/-- Code points whose script extensions include Han. -/
def extensionHan : String :=
  "53 0 91k p 1 2g c 5x q f 1 2 1 c 1 c 1 c 2 0 6 8 57 0 44 f w 11 9 0 1c 13 1k 1c f b 1f 0 2g o a 4 2o u 1 533 1s g73 1ds 7 g6w a5 2 2x ob 1 7u 4 m7w 1 c 1 jn2 h 63i 1 2pa wyn w 37d 6 65 2 4g1 e 5rk f h9 1wi f1 15u 3t6 5 38f"

/-- Code points whose script extensions include Hangul. -/
def extensionHangul : String :=
  "3cw 73 5xd 2 4 9 1 c e 2 6 0 5f 0 1h 2l 35 u 1t u nhd s hv 8mb c m 4 1c 7k9 1 7u 4 1m u 3 5 2 5 2 5 2 2"

/-- Code points whose script extensions include Hanifi Rohingya. -/
def extensionHanifiRohingya : String :=
  "170 0 e 0 3 0 w 0 43 0 1fsb 13 8 9"

/-- Code points whose script extensions include Hanunoo. -/
def extensionHanunoo : String :=
  "4kg m"

/-- Code points whose script extensions include Hatran. -/
def extensionHatran : String :=
  "1gbk i 1 1 5 4"

/-- Code points whose script extensions include Hebrew. -/
def extensionHebrew : String :=
  "lj 1 i0 1i 8 q 4 5 1cfc p 1 4 1 0 1 1 1 1 1 9"

/-- Code points whose script extensions include Hiragana. -/
def extensionHiragana : String :=
  "9hd 2 4 9 1 c g 5 1 0 4 1 3 2d 2 7 2i 1 14js 1 7u 4 a 0 19 1 yu9 7y i 0 t 2 crx 0"

/-- Code points whose script extensions include Imperial Aramaic. -/
def extensionImperialAramaic : String :=
  "1g74 l 1 8"

/-- Code points whose script extensions include Inherited. -/
def extensionInherited : String :=
  "ll 0 5 0 2 0 1 b 1 1 3 6 2 0 2 f 1 1 1 h 1 4 1 3 168 1 3ff u kz 1h 1 0 1 4 ek 1 5e v 17o0 f g d r3 0 14hu 19 2 m f4 2 h 7 2 6 u 3 h45u 6n"

/-- Code points whose script extensions include Inscriptional Pahlavi. -/
def extensionInscriptionalPahlavi : String :=
  "1gtc i 5 7"

/-- Code points whose script extensions include Inscriptional Parthian. -/
def extensionInscriptionalParthian : String :=
  "1gsg l 2 7"

/-- Code points whose script extensions include Javanese. -/
def extensionJavanese : String :=
  "xhc 25 1 a 4 1"

/-- Code points whose script extensions include Kaithi. -/
def extensionKaithi : String :=
  "1uu 9 79d 0 o3i 9 kli 1u a 0"

/-- Code points whose script extensions include Kannada. -/
def extensionKannada : String :=
  "1u9 1 h 1 m2 c 1 2 1 m 1 9 1 4 2 8 1 2 1 3 7 1 6 1 1 3 2 9 1 2 34s 0 1 1 6 0 n 0 1 0 ri3 5"

/-- Code points whose script extensions include Katakana. -/
def extensionKatakana : String :=
  "lh 0 t 0 8v1 2 4 9 1 c g 5 1 0 4 1 2j 3 3 2n 6o f 5s 1a 1 2f 1431 1 7u 1q yts 3 1 6 1 1 1 0 7z 2 1e 0 e 3"

/-- Code points whose script extensions include Kawi. -/
def extensionKawi : String :=
  "1kow g 1 14 3 s"

/-- Code points whose script extensions include Kayah Li. -/
def extensionKayahLi : String :=
  "xds 1b"

/-- Code points whose script extensions include Kharoshthi. -/
def extensionKharoshthi : String :=
  "1gjk 3 1 1 5 7 1 2 1 s 2 2 4 9 7 8"

/-- Code points whose script extensions include Khitan Small Script. -/
def extensionKhitanSmallScript : String :=
  "20o4 0 5cr d1 15 0"

/-- Code points whose script extensions include Khmer. -/
def extensionKhmer : String :=
  "4n4 2l 2 9 6 9 di v"

/-- Code points whose script extensions include Khojki. -/
def extensionKhojki : String :=
  "25i 9 v28 9 kw6 h 1 1a"

/-- Code points whose script extensions include Khudawadi. -/
def extensionKhudawadi : String :=
  "1us 1 vd6 9 l12 1m 5 9"

/-- Code points whose script extensions include Kirat Rai. -/
def extensionKiratRai : String :=
  "205c 1l"

/-- Code points whose script extensions include Lao. -/
def extensionLao : String :=
  "2v5 1 1 0 1 4 1 n 1 0 1 m 2 4 1 0 1 6 1 9 2 3"

/-- Code points whose script extensions include Latin. -/
def extensionLatin : String :=
  "1t p 6 p 1b 0 c 0 2 0 5 m 1 u 1 cg 3 0 a 0 1 2 1 0 9 0 1 0 6 4 r 8 1 4 1 1 1 0 c 0 2 2 7 1 1 1 12 0 5 0 4 c 7p 1 y2 1 1ig 0 2dg 11 6 1c 5 3 5 c 1 1x 1l 0 7 73 8f 0 1t 0 d 0 g c 2b 0 1l 1 6 0 r 0 h 14 253 v bb 0 nvs 7 q 2t 3 1u 2 1 1 0 1 7 l d 8e 0 e9 16 1 8 1 3 fpy 6 t6 p 6 p 1lx 5 1 15 1 8 16it u 6 5"

/-- Code points whose script extensions include Lepcha. -/
def extensionLepcha : String :=
  "5j4 1j 3 e 3 2"

/-- Code points whose script extensions include Limbu. -/
def extensionLimbu : String :=
  "1ut 0 32y u 1 b 4 b 4 0 3 b"

/-- Code points whose script extensions include Linear A. -/
def extensionLinearA : String :=
  "1err 18 y4 8m 9 l a 7"

/-- Code points whose script extensions include Linear B. -/
def extensionLinearB : String :=
  "1ekg b 1 p 1 i 1 1 1 e 2 d y 3e 5 2 4 18 3 8"

/-- Code points whose script extensions include Lisu. -/
def extensionLisu : String :=
  "jg 0 g 0 8xo 1 n2c 1b o8g 0"

/-- Code points whose script extensions include Lycian. -/
def extensionLycian : String :=
  "6e2 0 18o5 s"

/-- Code points whose script extensions include Lydian. -/
def extensionLydian : String :=
  "53 0 8zd 0 178u p 5 0"

/-- Code points whose script extensions include Mahajani. -/
def extensionMahajani : String :=
  "53 0 1po b vcw 9 kra 12"

/-- Code points whose script extensions include Makasar. -/
def extensionMakasar : String :=
  "1ko0 o"

/-- Code points whose script extensions include Malayalam. -/
def extensionMalayalam : String :=
  "1u9 1 h 1 pm c 1 2 1 1e 1 2 1 5 4 f 2 p 316 0 n 0 ri5 2"

/-- Code points whose script extensions include Mandaic. -/
def extensionMandaic : String :=
  "18g 0 e7 r 2 0"

/-- Code points whose script extensions include Manichaean. -/
def extensionManichaean : String :=
  "18g 0 1fgf 12 4 b"

/-- Code points whose script extensions include Marchen. -/
def extensionMarchen : String :=
  "1k6o v 2 l 1 d"

/-- Code points whose script extensions include Masaram Gondi. -/
def extensionMasaramGondi : String :=
  "1us 1 1ifu 6 1 1 1 17 3 0 1 1 1 8 8 9"

/-- Code points whose script extensions include Medefaidrin. -/
def extensionMedefaidrin : String :=
  "20cg 2i"

/-- Code points whose script extensions include Meetei Mayek. -/
def extensionMeeteiMayek : String :=
  "xr4 m 5l 19 2 9"

/-- Code points whose script extensions include Mende Kikakui. -/
def extensionMendeKikakui : String :=
  "2oe8 5g 2 f"

/-- Code points whose script extensions include Meroitic Cursive. -/
def extensionMeroiticCursive : String :=
  "1ggw n 4 j 2 19"

/-- Code points whose script extensions include Meroitic Hieroglyphs. -/
def extensionMeroiticHieroglyphs : String :=
  "6e5 0 1a1u v"

/-- Code points whose script extensions include Miao. -/
def extensionMiao : String :=
  "20hs 22 4 1k 7 g"

/-- Code points whose script extensions include Modi. -/
def extensionModi : String :=
  "x80 9 lom 1w b 9"

/-- Code points whose script extensions include Mongolian. -/
def extensionMongolian : String :=
  "4qo p 6 2g 7 16 1hg 0 34h 1 5 3 19hw c"

/-- Code points whose script extensions include Mro. -/
def extensionMro : String :=
  "1zk0 u 1 9 4 1"

/-- Code points whose script extensions include Multani. -/
def extensionMultani : String :=
  "21y 9 1g5s 6 1 0 1 3 1 e 1 a"

/-- Code points whose script extensions include Myanmar. -/
def extensionMyanmar : String :=
  "35s 4f u4u 0 4x u 2p v le8 j"

/-- Code points whose script extensions include Nabataean. -/
def extensionNabataean : String :=
  "1g8w u 8 8"

/-- Code points whose script extensions include Nag Mundari. -/
def extensionNagMundari : String :=
  "2nrk 15"

/-- Code points whose script extensions include Nandinagari. -/
def extensionNandinagari : String :=
  "1u9 0 i 1 ow 9 35l 0 8 0 7 0 rhx 5 mei 7 2 19 2 a"

/-- Code points whose script extensions include New Tai Lue. -/
def extensionNewTaiLue : String :=
  "51c 17 4 p 6 a 3 1"

/-- Code points whose script extensions include Newa. -/
def extensionNewa : String :=
  "1iio 2j 1 4"

/-- Code points whose script extensions include Nko. -/
def extensionNko : String :=
  "170 0 e 0 3 0 bk 1m 2 2 1cfy 1"

/-- Code points whose script extensions include Nushu. -/
def extensionNushu : String :=
  "20o1 0 cy6 az"

/-- Code points whose script extensions include Nyiakeng Puachue Hmong. -/
def extensionNyiakengPuachueHmong : String :=
  "2n0g 18 3 d 2 9 4 1"

/-- Code points whose script extensions include Ogham. -/
def extensionOgham : String :=
  "4g0 s"

/-- Code points whose script extensions include Ol Chiki. -/
def extensionOlChiki : String :=
  "5lc 1b"

/-- Code points whose script extensions include Ol Onal. -/
def extensionOlOnal : String :=
  "1us 1 2m3u 16 4 0"

/-- Code points whose script extensions include Old Hungarian. -/
def extensionOldHungarian : String :=
  "6e2 0 2 0 2qb 0 f 0 17we 1e d 1e 7 5"

/-- Code points whose script extensions include Old Italic. -/
def extensionOldItalic : String :=
  "1f5s z 9 2"

/-- Code points whose script extensions include Old North Arabian. -/
def extensionOldNorthArabian : String :=
  "1gn4 v"

/-- Code points whose script extensions include Old Permic. -/
def extensionOldPermic : String :=
  "53 0 g8 0 5 2 a 0 a7 0 1ebw 16"

/-- Code points whose script extensions include Old Persian. -/
def extensionOldPersian : String :=
  "1fa8 z 4 d"

/-- Code points whose script extensions include Old Sogdian. -/
def extensionOldSogdian : String :=
  "1hj4 13"

/-- Code points whose script extensions include Old South Arabian. -/
def extensionOldSouthArabian : String :=
  "1gm8 v"

/-- Code points whose script extensions include Old Turkic. -/
def extensionOldTurkic : String :=
  "6e2 0 2qd 0 17tb 20"

/-- Code points whose script extensions include Old Uyghur. -/
def extensionOldUyghur : String :=
  "18g 0 1fht 0 vx p"

/-- Code points whose script extensions include Oriya. -/
def extensionOriya : String :=
  "1u9 1 h 1 bf 2 1 7 2 1 2 l 1 6 1 1 1 4 2 8 2 1 2 2 7 2 4 1 1 4 2 h 3fm 0 n 0"

/-- Code points whose script extensions include Osage. -/
def extensionOsage : String :=
  "ld 0 2 0 6 0 24 0 1etz z 4 z"

/-- Code points whose script extensions include Osmanya. -/
def extensionOsmanya : String :=
  "1fgg t 2 9"

/-- Code points whose script extensions include Pahawh Hmong. -/
def extensionPahawhHmong : String :=
  "1zpc 1x a 9 1 6 1 k 5 i"

/-- Code points whose script extensions include Palmyrene. -/
def extensionPalmyrene : String :=
  "1g80 v"

/-- Code points whose script extensions include Pau Cin Hau. -/
def extensionPauCinHau : String :=
  "1juo 1k"

/-- Code points whose script extensions include Phags Pa. -/
def extensionPhagsPa : String :=
  "4qq 1 1 0 1m1 0 34i 0 nr1 1j"

/-- Code points whose script extensions include Phoenician. -/
def extensionPhoenician : String :=
  "1gcg r 3 0"

/-- Code points whose script extensions include Psalter Pahlavi. -/
def extensionPsalterPahlavi : String :=
  "18g 0 1flr h 7 3 c 6"

/-- Code points whose script extensions include Rejang. -/
def extensionRejang : String :=
  "xf4 z b 0"

/-- Code points whose script extensions include Runic. -/
def extensionRunic : String :=
  "4gw 2g"

/-- Code points whose script extensions include Samaritan. -/
def extensionSamaritan : String :=
  "1kw 19 2 e 7hu 0"

/-- Code points whose script extensions include Saurashtra. -/
def extensionSaurashtra : String :=
  "xa8 1x 8 b"

/-- Code points whose script extensions include Sharada. -/
def extensionSharada : String :=
  "1u9 0 3ut 0 1 0 2 1 2 0 rin 5 2 0 ksn 2n"

/-- Code points whose script extensions include Shavian. -/
def extensionShavian : String :=
  "53 0 1fa0 1b"

/-- Code points whose script extensions include Siddham. -/
def extensionSiddham : String :=
  "1itc 1h 2 11"

/-- Code points whose script extensions include SignWriting. -/
def extensionSignWriting : String :=
  "2l8g i3 f 4 1 e"

/-- Code points whose script extensions include Sinhala. -/
def extensionSinhala : String :=
  "1us 1 t7 2 1 h 3 n 1 8 1 0 2 6 3 0 4 5 1 0 1 7 6 9 2 2 2yl 0 1cdq j"

/-- Code points whose script extensions include Sogdian. -/
def extensionSogdian : String :=
  "18g 0 1gbz 15"

/-- Code points whose script extensions include Sora Sompeng. -/
def extensionSoraSompeng : String :=
  "1hw0 o 7 9"

/-- Code points whose script extensions include Soyombo. -/
def extensionSoyombo : String :=
  "1jrk 2a"

/-- Code points whose script extensions include Sundanese. -/
def extensionSundanese : String :=
  "5fk 1r 74 7"

/-- Code points whose script extensions include Sunuwar. -/
def extensionSunuwar : String :=
  "lc 1 1 0 9 0 2 0 s 0 3 0 1jf2 x e 9"

/-- Code points whose script extensions include Syloti Nagri. -/
def extensionSylotiNagri : String :=
  "1us 1 3k 9 v80 18"

/-- Code points whose script extensions include Syriac. -/
def extensionSyriac : String :=
  "lf 1 2 1 1 0 l 0 2 2 7 1 1 0 kb 0 e 1 2 0 w 0 a a q 0 3z d 1 1n 2 2 7k a 499 0 1 0"

/-- Code points whose script extensions include Tagalog. -/
def extensionTagalog : String :=
  "4jk l 9 0 l 1"

/-- Code points whose script extensions include Tagbanwa. -/
def extensionTagbanwa : String :=
  "4l1 1 15 c 1 2 1 1"

/-- Code points whose script extensions include Tai Le. -/
def extensionTaiLe : String :=
  "lc 1 5 1 3 0 2lv 9 1s6 t 2 4"

/-- Code points whose script extensions include Tai Tham. -/
def extensionTaiTham : String :=
  "55s 1q 1 s 2 a 6 9 6 d"

/-- Code points whose script extensions include Tai Viet. -/
def extensionTaiViet : String :=
  "xog 1u o 4"

/-- Code points whose script extensions include Takri. -/
def extensionTakri : String :=
  "1us 1 vd6 9 ls6 1l 6 9"

/-- Code points whose script extensions include Tamil. -/
def extensionTamil : String :=
  "1u9 1 h 1 f0 1 1 5 3 2 1 3 3 1 1 0 1 1 3 1 3 2 3 b 4 4 3 2 1 3 2 0 6 0 e k 3bz 0 ro8 0 ky5 0 1 0 1j 1 2gz 1d d 0"

/-- Code points whose script extensions include Tangsa. -/
def extensionTangsa : String :=
  "1zlc 26 1 9"

/-- Code points whose script extensions include Tangut. -/
def extensionTangut : String :=
  "9gw f dr 0 1qsw 0 v 4qf 8 lb e8 8"

/-- Code points whose script extensions include Telugu. -/
def extensionTelugu : String :=
  "1u9 1 h 1 ii c 1 2 1 m 1 f 2 8 1 2 1 3 7 1 1 2 2 0 2 3 2 9 7 8 38a 0 n 0"

/-- Code points whose script extensions include Thaana. -/
def extensionThaana : String :=
  "170 0 e 1 2 0 1s 9 7q 1d 1cn4 0 a 0"

/-- Code points whose script extensions include Thai. -/
def extensionThai : String :=
  "jg 0 q 0 17 0 19 0 24v 1l 5 r"

/-- Code points whose script extensions include Tibetan. -/
def extensionTibetan : String :=
  "2yo 1z 1 z 4 12 1 z 1 e 1 6 4 1 6ct 3"

/-- Code points whose script extensions include Tifinagh. -/
def extensionTifinagh : String :=
  "8xc 1j 7 1 e 0"

/-- Code points whose script extensions include Tirhuta. -/
def extensionTirhuta : String :=
  "1u9 1 h 1 3v0 0 ri5 9 ldy 1z 8 9"

/-- Code points whose script extensions include Todhri. -/
def extensionTodhri : String :=
  "ld 0 2 0 2 0 9 0 1 0 22 0 1f1d 1f"

/-- Code points whose script extensions include Toto. -/
def extensionToto : String :=
  "jg 0 2ms3 u"

/-- Code points whose script extensions include Tulu Tigalari. -/
def extensionTuluTigalari : String :=
  "2jq 9 35u 0 1 0 ri3 5 57 0 l1q 9 1 0 2 0 1 11 1 9 1 0 2 0 1 3 1 9 1 1 8 1"

/-- Code points whose script extensions include Ugaritic. -/
def extensionUgaritic : String :=
  "1f9c t 1 0"

/-- Code points whose script extensions include Vai. -/
def extensionVai : String :=
  "wlc 8b"

/-- Code points whose script extensions include Vithkuqi. -/
def extensionVithkuqi : String :=
  "1fn4 a 1 e 1 6 1 1 1 a 1 e 1 6 1 1"

/-- Code points whose script extensions include Wancho. -/
def extensionWancho : String :=
  "2ncw 1l 5 0"

/-- Code points whose script extensions include Warang Citi. -/
def extensionWarangCiti : String :=
  "1jfk 2a c 0"

/-- Code points whose script extensions include Yezidi. -/
def extensionYezidi : String :=
  "170 0 e 0 3 0 1s 9 1g5y 15 1 2 2 1"

/-- Code points whose script extensions include Yi. -/
def extensionYi : String :=
  "9hd 1 5 9 2 7 67 0 lxg wc 3 1i hwa 4"

/-- Code points whose script extensions include Zanabazar Square. -/
def extensionZanabazarSquare : String :=
  "1jpc 1z"

/-- The scripts with the tables of their extensions. -/
def extensionTables : List (String × String) :=
  [("Adlam", extensionAdlam),
   ("Ahom", extensionAhom),
   ("Anatolian_Hieroglyphs", extensionAnatolianHieroglyphs),
   ("Arabic", extensionArabic),
   ("Armenian", extensionArmenian),
   ("Avestan", extensionAvestan),
   ("Balinese", extensionBalinese),
   ("Bamum", extensionBamum),
   ("Bassa_Vah", extensionBassaVah),
   ("Batak", extensionBatak),
   ("Bengali", extensionBengali),
   ("Bhaiksuki", extensionBhaiksuki),
   ("Bopomofo", extensionBopomofo),
   ("Brahmi", extensionBrahmi),
   ("Braille", extensionBraille),
   ("Buginese", extensionBuginese),
   ("Buhid", extensionBuhid),
   ("Canadian_Aboriginal", extensionCanadianAboriginal),
   ("Carian", extensionCarian),
   ("Caucasian_Albanian", extensionCaucasianAlbanian),
   ("Chakma", extensionChakma),
   ("Cham", extensionCham),
   ("Cherokee", extensionCherokee),
   ("Chorasmian", extensionChorasmian),
   ("Common", extensionCommon),
   ("Coptic", extensionCoptic),
   ("Cuneiform", extensionCuneiform),
   ("Cypriot", extensionCypriot),
   ("Cypro_Minoan", extensionCyproMinoan),
   ("Cyrillic", extensionCyrillic),
   ("Deseret", extensionDeseret),
   ("Devanagari", extensionDevanagari),
   ("Dives_Akuru", extensionDivesAkuru),
   ("Dogra", extensionDogra),
   ("Duployan", extensionDuployan),
   ("Egyptian_Hieroglyphs", extensionEgyptianHieroglyphs),
   ("Elbasan", extensionElbasan),
   ("Elymaic", extensionElymaic),
   ("Ethiopic", extensionEthiopic),
   ("Garay", extensionGaray),
   ("Georgian", extensionGeorgian),
   ("Glagolitic", extensionGlagolitic),
   ("Gothic", extensionGothic),
   ("Grantha", extensionGrantha),
   ("Greek", extensionGreek),
   ("Gujarati", extensionGujarati),
   ("Gunjala_Gondi", extensionGunjalaGondi),
   ("Gurmukhi", extensionGurmukhi),
   ("Gurung_Khema", extensionGurungKhema),
   ("Han", extensionHan),
   ("Hangul", extensionHangul),
   ("Hanifi_Rohingya", extensionHanifiRohingya),
   ("Hanunoo", extensionHanunoo),
   ("Hatran", extensionHatran),
   ("Hebrew", extensionHebrew),
   ("Hiragana", extensionHiragana),
   ("Imperial_Aramaic", extensionImperialAramaic),
   ("Inherited", extensionInherited),
   ("Inscriptional_Pahlavi", extensionInscriptionalPahlavi),
   ("Inscriptional_Parthian", extensionInscriptionalParthian),
   ("Javanese", extensionJavanese),
   ("Kaithi", extensionKaithi),
   ("Kannada", extensionKannada),
   ("Katakana", extensionKatakana),
   ("Kawi", extensionKawi),
   ("Kayah_Li", extensionKayahLi),
   ("Kharoshthi", extensionKharoshthi),
   ("Khitan_Small_Script", extensionKhitanSmallScript),
   ("Khmer", extensionKhmer),
   ("Khojki", extensionKhojki),
   ("Khudawadi", extensionKhudawadi),
   ("Kirat_Rai", extensionKiratRai),
   ("Lao", extensionLao),
   ("Latin", extensionLatin),
   ("Lepcha", extensionLepcha),
   ("Limbu", extensionLimbu),
   ("Linear_A", extensionLinearA),
   ("Linear_B", extensionLinearB),
   ("Lisu", extensionLisu),
   ("Lycian", extensionLycian),
   ("Lydian", extensionLydian),
   ("Mahajani", extensionMahajani),
   ("Makasar", extensionMakasar),
   ("Malayalam", extensionMalayalam),
   ("Mandaic", extensionMandaic),
   ("Manichaean", extensionManichaean),
   ("Marchen", extensionMarchen),
   ("Masaram_Gondi", extensionMasaramGondi),
   ("Medefaidrin", extensionMedefaidrin),
   ("Meetei_Mayek", extensionMeeteiMayek),
   ("Mende_Kikakui", extensionMendeKikakui),
   ("Meroitic_Cursive", extensionMeroiticCursive),
   ("Meroitic_Hieroglyphs", extensionMeroiticHieroglyphs),
   ("Miao", extensionMiao),
   ("Modi", extensionModi),
   ("Mongolian", extensionMongolian),
   ("Mro", extensionMro),
   ("Multani", extensionMultani),
   ("Myanmar", extensionMyanmar),
   ("Nabataean", extensionNabataean),
   ("Nag_Mundari", extensionNagMundari),
   ("Nandinagari", extensionNandinagari),
   ("New_Tai_Lue", extensionNewTaiLue),
   ("Newa", extensionNewa),
   ("Nko", extensionNko),
   ("Nushu", extensionNushu),
   ("Nyiakeng_Puachue_Hmong", extensionNyiakengPuachueHmong),
   ("Ogham", extensionOgham),
   ("Ol_Chiki", extensionOlChiki),
   ("Ol_Onal", extensionOlOnal),
   ("Old_Hungarian", extensionOldHungarian),
   ("Old_Italic", extensionOldItalic),
   ("Old_North_Arabian", extensionOldNorthArabian),
   ("Old_Permic", extensionOldPermic),
   ("Old_Persian", extensionOldPersian),
   ("Old_Sogdian", extensionOldSogdian),
   ("Old_South_Arabian", extensionOldSouthArabian),
   ("Old_Turkic", extensionOldTurkic),
   ("Old_Uyghur", extensionOldUyghur),
   ("Oriya", extensionOriya),
   ("Osage", extensionOsage),
   ("Osmanya", extensionOsmanya),
   ("Pahawh_Hmong", extensionPahawhHmong),
   ("Palmyrene", extensionPalmyrene),
   ("Pau_Cin_Hau", extensionPauCinHau),
   ("Phags_Pa", extensionPhagsPa),
   ("Phoenician", extensionPhoenician),
   ("Psalter_Pahlavi", extensionPsalterPahlavi),
   ("Rejang", extensionRejang),
   ("Runic", extensionRunic),
   ("Samaritan", extensionSamaritan),
   ("Saurashtra", extensionSaurashtra),
   ("Sharada", extensionSharada),
   ("Shavian", extensionShavian),
   ("Siddham", extensionSiddham),
   ("SignWriting", extensionSignWriting),
   ("Sinhala", extensionSinhala),
   ("Sogdian", extensionSogdian),
   ("Sora_Sompeng", extensionSoraSompeng),
   ("Soyombo", extensionSoyombo),
   ("Sundanese", extensionSundanese),
   ("Sunuwar", extensionSunuwar),
   ("Syloti_Nagri", extensionSylotiNagri),
   ("Syriac", extensionSyriac),
   ("Tagalog", extensionTagalog),
   ("Tagbanwa", extensionTagbanwa),
   ("Tai_Le", extensionTaiLe),
   ("Tai_Tham", extensionTaiTham),
   ("Tai_Viet", extensionTaiViet),
   ("Takri", extensionTakri),
   ("Tamil", extensionTamil),
   ("Tangsa", extensionTangsa),
   ("Tangut", extensionTangut),
   ("Telugu", extensionTelugu),
   ("Thaana", extensionThaana),
   ("Thai", extensionThai),
   ("Tibetan", extensionTibetan),
   ("Tifinagh", extensionTifinagh),
   ("Tirhuta", extensionTirhuta),
   ("Todhri", extensionTodhri),
   ("Toto", extensionToto),
   ("Tulu_Tigalari", extensionTuluTigalari),
   ("Ugaritic", extensionUgaritic),
   ("Vai", extensionVai),
   ("Vithkuqi", extensionVithkuqi),
   ("Wancho", extensionWancho),
   ("Warang_Citi", extensionWarangCiti),
   ("Yezidi", extensionYezidi),
   ("Yi", extensionYi),
   ("Zanabazar_Square", extensionZanabazarSquare)]

end Unicode

end RuleMachine
