/-!
# Scripts

The code points of each script of Unicode 16.0, by the script's long name. Code points of
no script have no table.
Every table is a text of base-36 numbers separated by spaces, read in pairs: the gap from the end of the
previous range (from zero for the first) to the start of a range, then the range's length less one.
-/

namespace RuleMachine

namespace Unicode

/-- Code points of the Adlam script. -/
def scriptAdlam : String :=
  "2olc 23 4 9 4 1"

/-- Code points of the Ahom script. -/
def scriptAhom : String :=
  "1j40 q 2 e 4 m"

/-- Code points of the Anatolian Hieroglyphs script. -/
def scriptAnatolianHieroglyphs : String :=
  "1s00 g6"

/-- Code points of the Arabic script. -/
def scriptArabic : String :=
  "16o 4 1 5 1 d 1 2 1 v 1 9 b p 1 2z 1 x 28 1b 6o u 1 1 5 22 1 s 1bv4 36 g a2 2 27 2 1h 7 0 w f 34 4 1 3q 31f u 1v 2 1j 3 181s 3 1 q 1 1 1 0 2 0 1 9 1 3 1 0 1 0 6 0 4 0 1 0 1 0 1 2 1 1 1 0 2 0 1 0 1 0 1 0 1 0 1 1 1 0 2 3 1 6 1 3 1 3 1 0 1 9 1 g 5 2 1 4 1 g 1g 1"

/-- Code points of the Armenian script. -/
def scriptArmenian : String :=
  "10x 11 2 1d 2 2 1chv 4"

/-- Code points of the Avestan script. -/
def scriptAvestan : String :=
  "1gqo 1h 3 6"

/-- Code points of the Balinese script. -/
def scriptBalinese : String :=
  "5c0 24 1 1d"

/-- Code points of the Bamum script. -/
def scriptBamum : String :=
  "www 2f 124o fs"

/-- Code points of the Bassa Vah script. -/
def scriptBassaVah : String :=
  "1zo0 t 2 5"

/-- Code points of the Batak script. -/
def scriptBatak : String :=
  "5hc 1f 8 3"

/-- Code points of the Bengali script. -/
def scriptBengali : String :=
  "1vk 3 1 7 2 1 2 l 1 6 1 0 3 3 2 8 2 1 2 3 8 0 4 1 1 4 2 o"

/-- Code points of the Bhaiksuki script. -/
def scriptBhaiksuki : String :=
  "1k3k 8 1 18 1 d a s"

/-- Code points of the Bopomofo script. -/
def scriptBopomofo : String :=
  "kq 1 93t 16 34 v"

/-- Code points of the Brahmi script. -/
def scriptBrahmi : String :=
  "1hq8 25 4 z 9 0"

/-- Code points of the Braille script. -/
def scriptBraille : String :=
  "7wg 73"

/-- Code points of the Buginese script. -/
def scriptBuginese : String :=
  "54w r 2 1"

/-- Code points of the Buhid script. -/
def scriptBuhid : String :=
  "4lc j"

/-- Code points of the Canadian Aboriginal script. -/
def scriptCanadianAboriginal : String :=
  "3y8 hr fk 1x 1ewq f"

/-- Code points of the Carian script. -/
def scriptCarian : String :=
  "1f34 1c"

/-- Code points of the Caucasian Albanian script. -/
def scriptCaucasianAlbanian : String :=
  "1flc 1f b 0"

/-- Code points of the Chakma script. -/
def scriptChakma : String :=
  "1hxc 1g 1 h"

/-- Code points of the Cham script. -/
def scriptCham : String :=
  "xkw 1i 9 d 2 9 2 3"

/-- Code points of the Cherokee script. -/
def scriptCherokee : String :=
  "3vk 2d 2 5 twy 27"

/-- Code points of the Chorasmian script. -/
def scriptChorasmian : String :=
  "1ho0 r"

/-- Code points of the Common script. -/
def scriptCommon : String :=
  "0 1s q 5 q 1a 1 e 1 4 n 0 v 0 ch 12 5 4 2 j 38 0 9 0 6 0 1 0 hp 0 6 0 e 0 3 0 w 0 4c 0 ec 0 3l 1 yh 0 b9 3 82 0 167 2 1z 1 5n 1 1 0 y5 0 d 0 7 3 1 5 1 2 2 0 lh b 2 2e 1 a 3 a 1 e h w 1r 11 1 2 2 5 1 q 1 g 15 2 4 ih m a l pr 74 hf 2 v 1 2w e8 2l b6 k 1 0 1 o f 7 4 3 2j 1 3 0 2i 1 43 f w 11 9 0 1c 1r v 28 1b 0 2g 4n 534 1r hkw x 2u 2 4l 9 6s 0 4g 0 az 0 e 1 g5u 1 5s 9 m y 1 i 1 3 43 0 1 v q 5 q a a 0 19 1 1s 6 1 6 a 4 76 2 4 18 3 8 28 c 1f 18 6c q 10o4 3 318 6x 6 c3 4c 37 1o 6t a 12 2 1p 3 g 8 1 7 t 4 1o 5x j c j c 2e 9 o 3r 2c 1 1y 1 1 2 0 2 1 2 3 1 b 1 0 1 6 1 1s 1 3 2 7 1 6 1 r 1 3 1 4 1 0 3 6 1 9f 2 83 2 1d 41d 1v 24 1o jm 17 4 2r c e 2 e 1 e 1 10 a 4t 1k p 1 1 d 17 4 8 7 1 e 5 4a rb 4 g 3 c 3 3a 4 2m 6 b 4 0 f b 4 1j 8 9 6 13 8 t 2 b 4 1 1q 9f c d 2 c 3 9 5 1j 7 e 2 a 6 8 7 42 1 2t gvlz 0 u 2n"

/-- Code points of the Coptic script. -/
def scriptCoptic : String :=
  "rm d 80g 37 5 6"

/-- Code points of the Cuneiform script. -/
def scriptCuneiform : String :=
  "1kw0 pl 2u 32 1 4 b 5f"

/-- Code points of the Cypriot script. -/
def scriptCypriot : String :=
  "1g5c 5 2 0 1 17 1 1 3 0 2 0"

/-- Code points of the Cypro Minoan script. -/
def scriptCyproMinoan : String :=
  "1nyo 2q"

/-- Code points of the Cyrillic script. -/
def scriptCyrillic : String :=
  "sg 3o 2 4o 4ls a 4g 0 24 0 38n v nr4 2n ham 1 18n4 1p x 0"

/-- Code points of the Deseret script. -/
def scriptDeseret : String :=
  "1fcw 27"

/-- Code points of the Devanagari script. -/
def scriptDevanagari : String :=
  "1s0 28 4 e 2 p vhc v mio 9"

/-- Code points of the Dives Akuru script. -/
def scriptDivesAkuru : String :=
  "1ji8 6 2 0 2 7 1 1 1 t 1 1 2 b 9 9"

/-- Code points of the Dogra script. -/
def scriptDogra : String :=
  "1jb4 1n"

/-- Code points of the Duployan script. -/
def scriptDuployan : String :=
  "2fpc 2y 5 c 3 8 7 9 2 3"

/-- Code points of the Egyptian Hieroglyphs script. -/
def scriptEgyptianHieroglyphs : String :=
  "1o1s ut a 32y"

/-- Code points of the Elbasan script. -/
def scriptElbasan : String :=
  "1fk0 13"

/-- Code points of the Elymaic script. -/
def scriptElymaic : String :=
  "1hpc m"

/-- Code points of the Ethiopic script. -/
def scriptEthiopic : String :=
  "3k0 20 1 3 2 6 1 0 1 3 2 14 1 3 2 w 1 3 2 6 1 0 1 3 2 e 1 1k 1 3 2 1u 2 v 3 p 546 m 9 6 1 6 1 6 1 6 1 6 1 6 1 6 1 6 opu 5 2 5 2 5 9 6 1 6 1qk1 6 1 3 1 1 1 e"

/-- Code points of the Garay script. -/
def scriptGaray : String :=
  "1h6o 11 3 s 8 1"

/-- Code points of the Georgian script. -/
def scriptGeorgian : String :=
  "3a8 11 1 0 5 0 2 16 1 3 2a8 16 2 2 37k 11 1 0 5 0"

/-- Code points of the Glagolitic script. -/
def scriptGlagolitic : String :=
  "8ow 2n 2e1s 6 1 g 2 6 1 1 1 4"

/-- Code points of the Gothic script. -/
def scriptGothic : String :=
  "1f74 q"

/-- Code points of the Grantha script. -/
def scriptGrantha : String :=
  "1ibk 3 1 7 2 1 2 l 1 6 1 1 1 4 2 8 2 1 2 2 2 0 6 0 5 6 2 6 3 4"

/-- Code points of the Greek script. -/
def scriptGreek : String :=
  "og 3 1 2 2 3 1 0 4 0 1 0 1 2 1 0 1 j 1 1q e f 4yu 4 1e 4 4 4 2c 0 8w l 2 5 2 11 2 5 2 7 1 0 1 0 1 0 1 u 2 1g 1 e 1 d 2 5 1 i 2 2 1 8 87 0 rb2 0 gyi 26 h 0 155r 1x"

/-- Code points of the Gujarati script. -/
def scriptGujarati : String :=
  "22p 2 1 8 1 2 1 l 1 6 1 1 1 4 2 9 1 2 1 2 2 0 f 3 2 b 7 6"

/-- Code points of the Gunjala Gondi script. -/
def scriptGunjalaGondi : String :=
  "1kdc 5 1 1 1 10 1 1 1 5 7 9"

/-- Code points of the Gurmukhi script. -/
def scriptGurmukhi : String :=
  "1z5 2 1 5 4 1 2 l 1 6 1 1 1 1 1 1 2 0 1 4 4 1 2 2 3 0 7 3 1 0 7 g"

/-- Code points of the Gurung Khema script. -/
def scriptGurungKhema : String :=
  "1xq8 1l"

/-- Code points of the Han script. -/
def scriptHan : String :=
  "96o p 1 2g c 5x 1b 0 1 0 p 8 e 3 qs 533 1s g73 hkw a5 2 2x n48 1 c 1 sge wyn w 37d 6 65 2 4g1 e 5rk f h9 1wi f1 15u 3t6 5 38f"

/-- Code points of the Hangul script. -/
def scriptHangul : String :=
  "3cw 73 5ym 1 75 2l 35 u 1t u nhd s hv 8mb c m 4 1c 7tw u 3 5 2 5 2 5 2 2"

/-- Code points of the Hanifi Rohingya script. -/
def scriptHanifiRohingya : String :=
  "1h4w 13 8 9"

/-- Code points of the Hanunoo script. -/
def scriptHanunoo : String :=
  "4kg k"

/-- Code points of the Hatran script. -/
def scriptHatran : String :=
  "1gbk i 1 1 5 4"

/-- Code points of the Hebrew script. -/
def scriptHebrew : String :=
  "13l 1i 8 q 4 5 1cfc p 1 4 1 0 1 1 1 1 1 9"

/-- Code points of the Hiragana script. -/
def scriptHiragana : String :=
  "9j5 2d 6 2 23q9 7y i 0 t 2 crx 0"

/-- Code points of the Imperial Aramaic script. -/
def scriptImperialAramaic : String :=
  "1g74 l 1 8"

/-- Code points of the Inherited script. -/
def scriptInherited : String :=
  "lc 33 7p 1 ck a q 0 kg 3 3ff u e9 2 1 c 1 6 4 0 6 0 3 1 5i 1r ek 1 5e w 309 3 2z 1 14kl f g d r3 0 6a 0 38a 0 1138 19 2 m f4 2 h 7 2 6 u 3 h45u 6n"

/-- Code points of the Inscriptional Pahlavi script. -/
def scriptInscriptionalPahlavi : String :=
  "1gtc i 5 7"

/-- Code points of the Inscriptional Parthian script. -/
def scriptInscriptionalParthian : String :=
  "1gsg l 2 7"

/-- Code points of the Javanese script. -/
def scriptJavanese : String :=
  "xhc 25 2 9 4 1"

/-- Code points of the Kaithi script. -/
def scriptKaithi : String :=
  "1hts 1u a 0"

/-- Code points of the Kannada script. -/
def scriptKannada : String :=
  "2gw c 1 2 1 m 1 9 1 4 2 8 1 2 1 3 7 1 6 1 1 3 2 9 1 2"

/-- Code points of the Katakana script. -/
def scriptKatakana : String :=
  "9lt 2h 2 2 6o f 5s 1a 1 2f 14b2 9 1 18 ytu 3 1 6 1 1 1 0 7z 2 1e 0 e 3"

/-- Code points of the Kawi script. -/
def scriptKawi : String :=
  "1kow g 1 14 3 s"

/-- Code points of the Kayah Li script. -/
def scriptKayahLi : String :=
  "xds 19 1 0"

/-- Code points of the Kharoshthi script. -/
def scriptKharoshthi : String :=
  "1gjk 3 1 1 5 7 1 2 1 s 2 2 4 9 7 8"

/-- Code points of the Khitan Small Script script. -/
def scriptKhitanSmallScript : String :=
  "20o4 0 5cr d1 15 0"

/-- Code points of the Khmer script. -/
def scriptKhmer : String :=
  "4n4 2l 2 9 6 9 di v"

/-- Code points of the Khojki script. -/
def scriptKhojki : String :=
  "1i4g h 1 1a"

/-- Code points of the Khudawadi script. -/
def scriptKhudawadi : String :=
  "1i9c 1m 5 9"

/-- Code points of the Kirat Rai script. -/
def scriptKiratRai : String :=
  "205c 1l"

/-- Code points of the Lao script. -/
def scriptLao : String :=
  "2v5 1 1 0 1 4 1 n 1 0 1 m 2 4 1 0 1 6 1 9 2 3"

/-- Code points of the Latin script. -/
def scriptLatin : String :=
  "1t p 6 p 1b 0 f 0 5 m 1 u 1 cg 13 4 55n 11 6 1c 5 3 5 c 1 1x 1t 73 a9 0 d 0 g c 3x 1 6 0 r 0 h 14 253 v o82 2t 3 1u 2 1 1 0 1 7 l d mo 16 1 8 1 3 fpy 6 t6 p 6 p 1lx 5 1 15 1 8 16it u 6 5"

/-- Code points of the Lepcha script. -/
def scriptLepcha : String :=
  "5j4 1j 3 e 3 2"

/-- Code points of the Limbu script. -/
def scriptLimbu : String :=
  "4xs u 1 b 4 b 4 0 3 b"

/-- Code points of the Linear A script. -/
def scriptLinearA : String :=
  "1fr4 8m 9 l a 7"

/-- Code points of the Linear B script. -/
def scriptLinearB : String :=
  "1ekg b 1 p 1 i 1 1 1 e 2 d y 3e"

/-- Code points of the Lisu script. -/
def scriptLisu : String :=
  "wk0 1b o8g 0"

/-- Code points of the Lycian script. -/
def scriptLycian : String :=
  "1f28 s"

/-- Code points of the Lydian script. -/
def scriptLydian : String :=
  "1gdc p 5 0"

/-- Code points of the Mahajani script. -/
def scriptMahajani : String :=
  "1hzk 12"

/-- Code points of the Makasar script. -/
def scriptMakasar : String :=
  "1ko0 o"

/-- Code points of the Malayalam script. -/
def scriptMalayalam : String :=
  "2kg c 1 2 1 1e 1 2 1 5 4 f 2 p"

/-- Code points of the Mandaic script. -/
def scriptMandaic : String :=
  "1mo r 2 0"

/-- Code points of the Manichaean script. -/
def scriptManichaean : String :=
  "1gow 12 4 b"

/-- Code points of the Marchen script. -/
def scriptMarchen : String :=
  "1k6o v 2 l 1 d"

/-- Code points of the Masaram Gondi script. -/
def scriptMasaramGondi : String :=
  "1kao 6 1 1 1 17 3 0 1 1 1 8 8 9"

/-- Code points of the Medefaidrin script. -/
def scriptMedefaidrin : String :=
  "20cg 2i"

/-- Code points of the Meetei Mayek script. -/
def scriptMeeteiMayek : String :=
  "xr4 m 5l 19 2 9"

/-- Code points of the Mende Kikakui script. -/
def scriptMendeKikakui : String :=
  "2oe8 5g 2 f"

/-- Code points of the Meroitic Cursive script. -/
def scriptMeroiticCursive : String :=
  "1ggw n 4 j 2 19"

/-- Code points of the Meroitic Hieroglyphs script. -/
def scriptMeroiticHieroglyphs : String :=
  "1gg0 v"

/-- Code points of the Miao script. -/
def scriptMiao : String :=
  "20hs 22 4 1k 7 g"

/-- Code points of the Modi script. -/
def scriptModi : String :=
  "1iww 1w b 9"

/-- Code points of the Mongolian script. -/
def scriptMongolian : String :=
  "4qo 1 2 0 1 j 6 2g 7 16 1e45 c"

/-- Code points of the Mro script. -/
def scriptMro : String :=
  "1zk0 u 1 9 4 1"

/-- Code points of the Multani script. -/
def scriptMultani : String :=
  "1i80 6 1 0 1 3 1 e 1 a"

/-- Code points of the Myanmar script. -/
def scriptMyanmar : String :=
  "35s 4f u9s u 2p v le8 j"

/-- Code points of the Nabataean script. -/
def scriptNabataean : String :=
  "1g8w u 8 8"

/-- Code points of the Nag Mundari script. -/
def scriptNagMundari : String :=
  "2nrk 15"

/-- Code points of the Nandinagari script. -/
def scriptNandinagari : String :=
  "1jmo 7 2 19 2 a"

/-- Code points of the New Tai Lue script. -/
def scriptNewTaiLue : String :=
  "51c 17 4 p 6 a 3 1"

/-- Code points of the Newa script. -/
def scriptNewa : String :=
  "1iio 2j 1 4"

/-- Code points of the Nko script. -/
def scriptNko : String :=
  "1j4 1m 2 2"

/-- Code points of the Nushu script. -/
def scriptNushu : String :=
  "20o1 0 cy6 az"

/-- Code points of the Nyiakeng Puachue Hmong script. -/
def scriptNyiakengPuachueHmong : String :=
  "2n0g 18 3 d 2 9 4 1"

/-- Code points of the Ogham script. -/
def scriptOgham : String :=
  "4g0 s"

/-- Code points of the Ol Chiki script. -/
def scriptOlChiki : String :=
  "5lc 1b"

/-- Code points of the Ol Onal script. -/
def scriptOlOnal : String :=
  "2nyo 16 4 0"

/-- Code points of the Old Hungarian script. -/
def scriptOldHungarian : String :=
  "1h1c 1e d 1e 7 5"

/-- Code points of the Old Italic script. -/
def scriptOldItalic : String :=
  "1f5s z 9 2"

/-- Code points of the Old North Arabian script. -/
def scriptOldNorthArabian : String :=
  "1gn4 v"

/-- Code points of the Old Permic script. -/
def scriptOldPermic : String :=
  "1f80 16"

/-- Code points of the Old Persian script. -/
def scriptOldPersian : String :=
  "1fa8 z 4 d"

/-- Code points of the Old Sogdian script. -/
def scriptOldSogdian : String :=
  "1hj4 13"

/-- Code points of the Old South Arabian script. -/
def scriptOldSouthArabian : String :=
  "1gm8 v"

/-- Code points of the Old Turkic script. -/
def scriptOldTurkic : String :=
  "1gxs 20"

/-- Code points of the Old Uyghur script. -/
def scriptOldUyghur : String :=
  "1hm8 p"

/-- Code points of the Oriya script. -/
def scriptOriya : String :=
  "269 2 1 7 2 1 2 l 1 6 1 1 1 4 2 8 2 1 2 2 7 2 4 1 1 4 2 h"

/-- Code points of the Osage script. -/
def scriptOsage : String :=
  "1fhs z 4 z"

/-- Code points of the Osmanya script. -/
def scriptOsmanya : String :=
  "1fgg t 2 9"

/-- Code points of the Pahawh Hmong script. -/
def scriptPahawhHmong : String :=
  "1zpc 1x a 9 1 6 1 k 5 i"

/-- Code points of the Palmyrene script. -/
def scriptPalmyrene : String :=
  "1g80 v"

/-- Code points of the Pau Cin Hau script. -/
def scriptPauCinHau : String :=
  "1juo 1k"

/-- Code points of the Phags Pa script. -/
def scriptPhagsPa : String :=
  "x8g 1j"

/-- Code points of the Phoenician script. -/
def scriptPhoenician : String :=
  "1gcg r 3 0"

/-- Code points of the Psalter Pahlavi script. -/
def scriptPsalterPahlavi : String :=
  "1gu8 h 7 3 c 6"

/-- Code points of the Rejang script. -/
def scriptRejang : String :=
  "xf4 z b 0"

/-- Code points of the Runic script. -/
def scriptRunic : String :=
  "4gw 22 3 a"

/-- Code points of the Samaritan script. -/
def scriptSamaritan : String :=
  "1kw 19 2 e"

/-- Code points of the Saurashtra script. -/
def scriptSaurashtra : String :=
  "xa8 1x 8 b"

/-- Code points of the Sharada script. -/
def scriptSharada : String :=
  "1i0w 2n"

/-- Code points of the Shavian script. -/
def scriptShavian : String :=
  "1ff4 1b"

/-- Code points of the Siddham script. -/
def scriptSiddham : String :=
  "1itc 1h 2 11"

/-- Code points of the SignWriting script. -/
def scriptSignWriting : String :=
  "2l8g i3 f 4 1 e"

/-- Code points of the Sinhala script. -/
def scriptSinhala : String :=
  "2o1 2 1 h 3 n 1 8 1 0 2 6 3 0 4 5 1 0 1 7 6 9 2 2 1fcc j"

/-- Code points of the Sogdian script. -/
def scriptSogdian : String :=
  "1hkg 15"

/-- Code points of the Sora Sompeng script. -/
def scriptSoraSompeng : String :=
  "1hw0 o 7 9"

/-- Code points of the Soyombo script. -/
def scriptSoyombo : String :=
  "1jrk 2a"

/-- Code points of the Sundanese script. -/
def scriptSundanese : String :=
  "5fk 1r 74 7"

/-- Code points of the Sunuwar script. -/
def scriptSunuwar : String :=
  "1k1s x e 9"

/-- Code points of the Syloti Nagri script. -/
def scriptSylotiNagri : String :=
  "x6o 18"

/-- Code points of the Syriac script. -/
def scriptSyriac : String :=
  "1ds d 1 1n 2 2 7k a"

/-- Code points of the Tagalog script. -/
def scriptTagalog : String :=
  "4jk l 9 0"

/-- Code points of the Tagbanwa script. -/
def scriptTagbanwa : String :=
  "4m8 c 1 2 1 1"

/-- Code points of the Tai Le script. -/
def scriptTaiLe : String :=
  "500 t 2 4"

/-- Code points of the Tai Tham script. -/
def scriptTaiTham : String :=
  "55s 1q 1 s 2 a 6 9 6 d"

/-- Code points of the Tai Viet script. -/
def scriptTaiViet : String :=
  "xog 1u o 4"

/-- Code points of the Takri script. -/
def scriptTakri : String :=
  "1j0g 1l 6 9"

/-- Code points of the Tamil script. -/
def scriptTamil : String :=
  "29u 1 1 5 3 2 1 3 3 1 1 0 1 1 3 1 3 2 3 b 4 4 3 2 1 3 2 0 6 0 e k 1ih1 1d d 0"

/-- Code points of the Tangsa script. -/
def scriptTangsa : String :=
  "1zlc 26 1 9"

/-- Code points of the Tangut script. -/
def scriptTangut : String :=
  "20o0 0 v 4qf 8 lb e8 8"

/-- Code points of the Telugu script. -/
def scriptTelugu : String :=
  "2dc c 1 2 1 m 1 f 2 8 1 2 1 3 7 1 1 2 2 0 2 3 2 9 7 8"

/-- Code points of the Thaana script. -/
def scriptThaana : String :=
  "1hc 1d"

/-- Code points of the Thai script. -/
def scriptThai : String :=
  "2rl 1l 5 r"

/-- Code points of the Tibetan script. -/
def scriptTibetan : String :=
  "2yo 1z 1 z 4 12 1 z 1 e 1 6 4 1"

/-- Code points of the Tifinagh script. -/
def scriptTifinagh : String :=
  "8xc 1j 7 1 e 0"

/-- Code points of the Tirhuta script. -/
def scriptTirhuta : String :=
  "1im8 1z 8 9"

/-- Code points of the Todhri script. -/
def scriptTodhri : String :=
  "1fpc 1f"

/-- Code points of the Toto script. -/
def scriptToto : String :=
  "2nbk u"

/-- Code points of the Tulu Tigalari script. -/
def scriptTuluTigalari : String :=
  "1if4 9 1 0 2 0 1 11 1 9 1 0 2 0 1 3 1 9 1 1 8 1"

/-- Code points of the Ugaritic script. -/
def scriptUgaritic : String :=
  "1f9c t 1 0"

/-- Code points of the Vai script. -/
def scriptVai : String :=
  "wlc 8b"

/-- Code points of the Vithkuqi script. -/
def scriptVithkuqi : String :=
  "1fn4 a 1 e 1 6 1 1 1 a 1 e 1 6 1 1"

/-- Code points of the Wancho script. -/
def scriptWancho : String :=
  "2ncw 1l 5 0"

/-- Code points of the Warang Citi script. -/
def scriptWarangCiti : String :=
  "1jfk 2a c 0"

/-- Code points of the Yezidi script. -/
def scriptYezidi : String :=
  "1hfk 15 1 2 2 1"

/-- Code points of the Yi script. -/
def scriptYi : String :=
  "vls wc 3 1i"

/-- Code points of the Zanabazar Square script. -/
def scriptZanabazarSquare : String :=
  "1jpc 1z"

/-- The scripts with their tables. -/
def scriptTables : List (String × String) :=
  [("Adlam", scriptAdlam),
   ("Ahom", scriptAhom),
   ("Anatolian_Hieroglyphs", scriptAnatolianHieroglyphs),
   ("Arabic", scriptArabic),
   ("Armenian", scriptArmenian),
   ("Avestan", scriptAvestan),
   ("Balinese", scriptBalinese),
   ("Bamum", scriptBamum),
   ("Bassa_Vah", scriptBassaVah),
   ("Batak", scriptBatak),
   ("Bengali", scriptBengali),
   ("Bhaiksuki", scriptBhaiksuki),
   ("Bopomofo", scriptBopomofo),
   ("Brahmi", scriptBrahmi),
   ("Braille", scriptBraille),
   ("Buginese", scriptBuginese),
   ("Buhid", scriptBuhid),
   ("Canadian_Aboriginal", scriptCanadianAboriginal),
   ("Carian", scriptCarian),
   ("Caucasian_Albanian", scriptCaucasianAlbanian),
   ("Chakma", scriptChakma),
   ("Cham", scriptCham),
   ("Cherokee", scriptCherokee),
   ("Chorasmian", scriptChorasmian),
   ("Common", scriptCommon),
   ("Coptic", scriptCoptic),
   ("Cuneiform", scriptCuneiform),
   ("Cypriot", scriptCypriot),
   ("Cypro_Minoan", scriptCyproMinoan),
   ("Cyrillic", scriptCyrillic),
   ("Deseret", scriptDeseret),
   ("Devanagari", scriptDevanagari),
   ("Dives_Akuru", scriptDivesAkuru),
   ("Dogra", scriptDogra),
   ("Duployan", scriptDuployan),
   ("Egyptian_Hieroglyphs", scriptEgyptianHieroglyphs),
   ("Elbasan", scriptElbasan),
   ("Elymaic", scriptElymaic),
   ("Ethiopic", scriptEthiopic),
   ("Garay", scriptGaray),
   ("Georgian", scriptGeorgian),
   ("Glagolitic", scriptGlagolitic),
   ("Gothic", scriptGothic),
   ("Grantha", scriptGrantha),
   ("Greek", scriptGreek),
   ("Gujarati", scriptGujarati),
   ("Gunjala_Gondi", scriptGunjalaGondi),
   ("Gurmukhi", scriptGurmukhi),
   ("Gurung_Khema", scriptGurungKhema),
   ("Han", scriptHan),
   ("Hangul", scriptHangul),
   ("Hanifi_Rohingya", scriptHanifiRohingya),
   ("Hanunoo", scriptHanunoo),
   ("Hatran", scriptHatran),
   ("Hebrew", scriptHebrew),
   ("Hiragana", scriptHiragana),
   ("Imperial_Aramaic", scriptImperialAramaic),
   ("Inherited", scriptInherited),
   ("Inscriptional_Pahlavi", scriptInscriptionalPahlavi),
   ("Inscriptional_Parthian", scriptInscriptionalParthian),
   ("Javanese", scriptJavanese),
   ("Kaithi", scriptKaithi),
   ("Kannada", scriptKannada),
   ("Katakana", scriptKatakana),
   ("Kawi", scriptKawi),
   ("Kayah_Li", scriptKayahLi),
   ("Kharoshthi", scriptKharoshthi),
   ("Khitan_Small_Script", scriptKhitanSmallScript),
   ("Khmer", scriptKhmer),
   ("Khojki", scriptKhojki),
   ("Khudawadi", scriptKhudawadi),
   ("Kirat_Rai", scriptKiratRai),
   ("Lao", scriptLao),
   ("Latin", scriptLatin),
   ("Lepcha", scriptLepcha),
   ("Limbu", scriptLimbu),
   ("Linear_A", scriptLinearA),
   ("Linear_B", scriptLinearB),
   ("Lisu", scriptLisu),
   ("Lycian", scriptLycian),
   ("Lydian", scriptLydian),
   ("Mahajani", scriptMahajani),
   ("Makasar", scriptMakasar),
   ("Malayalam", scriptMalayalam),
   ("Mandaic", scriptMandaic),
   ("Manichaean", scriptManichaean),
   ("Marchen", scriptMarchen),
   ("Masaram_Gondi", scriptMasaramGondi),
   ("Medefaidrin", scriptMedefaidrin),
   ("Meetei_Mayek", scriptMeeteiMayek),
   ("Mende_Kikakui", scriptMendeKikakui),
   ("Meroitic_Cursive", scriptMeroiticCursive),
   ("Meroitic_Hieroglyphs", scriptMeroiticHieroglyphs),
   ("Miao", scriptMiao),
   ("Modi", scriptModi),
   ("Mongolian", scriptMongolian),
   ("Mro", scriptMro),
   ("Multani", scriptMultani),
   ("Myanmar", scriptMyanmar),
   ("Nabataean", scriptNabataean),
   ("Nag_Mundari", scriptNagMundari),
   ("Nandinagari", scriptNandinagari),
   ("New_Tai_Lue", scriptNewTaiLue),
   ("Newa", scriptNewa),
   ("Nko", scriptNko),
   ("Nushu", scriptNushu),
   ("Nyiakeng_Puachue_Hmong", scriptNyiakengPuachueHmong),
   ("Ogham", scriptOgham),
   ("Ol_Chiki", scriptOlChiki),
   ("Ol_Onal", scriptOlOnal),
   ("Old_Hungarian", scriptOldHungarian),
   ("Old_Italic", scriptOldItalic),
   ("Old_North_Arabian", scriptOldNorthArabian),
   ("Old_Permic", scriptOldPermic),
   ("Old_Persian", scriptOldPersian),
   ("Old_Sogdian", scriptOldSogdian),
   ("Old_South_Arabian", scriptOldSouthArabian),
   ("Old_Turkic", scriptOldTurkic),
   ("Old_Uyghur", scriptOldUyghur),
   ("Oriya", scriptOriya),
   ("Osage", scriptOsage),
   ("Osmanya", scriptOsmanya),
   ("Pahawh_Hmong", scriptPahawhHmong),
   ("Palmyrene", scriptPalmyrene),
   ("Pau_Cin_Hau", scriptPauCinHau),
   ("Phags_Pa", scriptPhagsPa),
   ("Phoenician", scriptPhoenician),
   ("Psalter_Pahlavi", scriptPsalterPahlavi),
   ("Rejang", scriptRejang),
   ("Runic", scriptRunic),
   ("Samaritan", scriptSamaritan),
   ("Saurashtra", scriptSaurashtra),
   ("Sharada", scriptSharada),
   ("Shavian", scriptShavian),
   ("Siddham", scriptSiddham),
   ("SignWriting", scriptSignWriting),
   ("Sinhala", scriptSinhala),
   ("Sogdian", scriptSogdian),
   ("Sora_Sompeng", scriptSoraSompeng),
   ("Soyombo", scriptSoyombo),
   ("Sundanese", scriptSundanese),
   ("Sunuwar", scriptSunuwar),
   ("Syloti_Nagri", scriptSylotiNagri),
   ("Syriac", scriptSyriac),
   ("Tagalog", scriptTagalog),
   ("Tagbanwa", scriptTagbanwa),
   ("Tai_Le", scriptTaiLe),
   ("Tai_Tham", scriptTaiTham),
   ("Tai_Viet", scriptTaiViet),
   ("Takri", scriptTakri),
   ("Tamil", scriptTamil),
   ("Tangsa", scriptTangsa),
   ("Tangut", scriptTangut),
   ("Telugu", scriptTelugu),
   ("Thaana", scriptThaana),
   ("Thai", scriptThai),
   ("Tibetan", scriptTibetan),
   ("Tifinagh", scriptTifinagh),
   ("Tirhuta", scriptTirhuta),
   ("Todhri", scriptTodhri),
   ("Toto", scriptToto),
   ("Tulu_Tigalari", scriptTuluTigalari),
   ("Ugaritic", scriptUgaritic),
   ("Vai", scriptVai),
   ("Vithkuqi", scriptVithkuqi),
   ("Wancho", scriptWancho),
   ("Warang_Citi", scriptWarangCiti),
   ("Yezidi", scriptYezidi),
   ("Yi", scriptYi),
   ("Zanabazar_Square", scriptZanabazarSquare)]

end Unicode

end RuleMachine
