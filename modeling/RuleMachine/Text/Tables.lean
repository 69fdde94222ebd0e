/-!
# Character classes of the text routines

The text routines follow Unicode 17.0: the characters that are not printable (the controls,
format characters, surrogates, private use, unassigned code points, separators other than the
ASCII space, and the default-ignorable code points, which show nothing), the marks that extend
the grapheme before them, and the alphabetic and numeric characters.
Every table is a text of base-36 numbers separated by spaces, read in pairs: the gap from the end of the
previous range (from zero for the first) to the start of a range, then the range's length less one.
-/

namespace RuleMachine

namespace Text

/-- Characters that are not printable: controls, format characters, surrogates,
private use, unassigned code points, separators other than the space, and default-ignorable
code points. -/
def unprintableTable : String :=
  "0 v 2n x c 0 ip 0 14 1 6 3 7 0 1 0 k 0 b1 0 12 1 1e 1 3 0 1j 7 r 3 6 g m 0 5c 0 1c 1 1n 1 2t d 1n 1 1d 1 f 0 s 1 1 0 b 4 w 6 23 0 4h 0 8 1 2 1 m 0 7 0 1 2 4 1 9 1 2 1 4 7 1 3 2 0 5 1 p 1 3 0 6 3 2 1 m 0 7 0 2 0 2 0 2 1 1 0 5 3 2 1 3 2 1 6 4 0 1 6 h 9 3 0 9 0 3 0 m 0 7 0 2 0 5 1 a 0 3 0 3 1 1 e 4 1 c 6 7 0 3 0 8 1 2 1 m 0 7 0 2 0 5 1 9 1 2 1 3 6 3 3 2 0 5 1 i 9 2 0 6 2 3 0 4 2 2 0 1 0 2 2 2 2 3 2 c 3 5 2 3 0 4 1 1 5 1 d l 4 d 0 3 0 n 0 g 1 9 0 3 0 4 6 2 0 3 0 2 1 4 1 a 6 m 0 3 0 n 0 a 0 5 1 9 0 3 0 4 6 2 4 3 0 4 1 a 0 3 b d 0 3 0 1f 0 3 0 6 3 g 1 q 0 3 0 i 2 o 0 9 0 1 1 7 2 1 3 6 0 1 0 8 5 a 1 3 b 1m 3 t 10 2 0 1 0 5 0 o 0 1 0 n 1 5 0 1 0 7 0 a 1 4 v 20 0 10 3 13 0 10 0 f 0 d 10 5i 0 1 4 1 1 3z 1 6g 0 4 1 7 0 1 0 4 1 15 0 4 1 x 0 4 1 7 0 1 0 4 1 f 0 1l 0 4 1 1v 1 w 2 q 5 2e 1 6 1 hs 0 s 2 2h 6 m 8 o 8 k b d 0 3 0 2 b 1g 1 14 1 a 5 a 5 b 4 a 5 2h 6 17 4 1y 9 v 0 c 3 c 3 1 2 16 1 5 a 18 3 q 5 b 2 1q 1 1t 0 t 1 b 5 a 5 e 1 1a 1 c j 25 0 4m 7 1o 2 f 2 1q 4 17 1 b 7 17 4 eu 1 6 1 12 1 6 1 8 0 1 0 1 0 1 0 v 1 1h 0 f 0 e 1 6 0 j 1 3 0 9 g o 7 1b g 2 1 r 0 d 2 y d x e 3w 3 ii l b k 1ec 1 am 4 19 0 1 4 1 1 1k 6 2 d o 8 7 0 7 0 7 0 7 0 7 0 7 0 7 0 7 0 3i x q 0 2h b 5y p g 0 1r 0 2e 1 2v 4 17 0 1f 0 16 0 2e 8 1c 0 mlp 2 1j 8 9o j 54 7 65 j 1o 2 a 5 1k 7 1y 7 c 5 38 a u 2 26 0 b 3 x 0 1j 8 e 1 a 1 2v n s 9 6 1 6 1 6 8 7 0 7 0 1o 3 3i 1 a 5 8mc b n 3 1d 6ir a6 1 2y 11 7 b 5 4 q 0 5 0 1 0 2 0 2 0 i2 v g f a 5 1f 0 j 0 4 3 5 0 3r 3 4f 0 u 2 6 1 6 1 6 1 3 2 7 0 7 c 2 1 c 0 q 0 j 0 2 0 f 1 e x 3f 4 3 3 19 2 2g 0 d 2 1 1a 1a 3l t 2 1d e s 3 10 8 u 4 17 4 u 0 11 3 e 15 4e 1 a 5 10 3 10 3 14 7 1g a c 0 f 0 7 0 2 0 b 0 f 0 7 0 2 2 1g b 8n 8 m 9 8 n 6 0 16 0 9 1w 6 1 1 0 18 0 2 2 1 1 n 0 20 7 9 1b j 0 2 4 x 2 r 4 r 11 1k 3 k 1 1e 0 2 4 8 0 3 0 t 1 3 3 a 6 9 6 1s v 13 3 c 8 1i 2 t 1 r 4 q 6 4 b 7 27 21 1i 1f c 1f 6 1a 7 a 5 12 2 t 7 2 5r v 0 16 0 3 1 2 f 6 7 9 w 1a 7 16 l q 11 s j n 8 26 3 10 8 1q 0 5 c p 6 a 5 1h 0 i 7 13 8 2o 0 k a i 0 1b 1p 7 0 1 0 4 0 f 0 b 5 1n 4 a 5 4 0 8 1 2 1 m 0 7 0 2 0 5 0 a 1 2 1 3 1 1 5 1 4 7 1 7 2 5 a a 0 1 1 1 0 12 0 a 0 1 1 1 0 4 0 a 0 2 7 2 s 2k 0 5 t 20 7 a 4l 1i 1 12 x 1x a a 5 d i 1m 5 a 5 k r r 1 f 3 n 54 1o 2r 2b b 8 1 1 1 8 0 2 0 u 0 2 1 c 8 a 1x 8 1 1a 1 b q 20 7 2b c 21 6 a 2d 8 2f y d a 5 9 0 19 0 e 9 t 2 w 1 m 0 e 20 7 0 2 0 18 2 1 0 2 0 9 7 a 5 6 0 2 0 11 0 2 0 6 6 a 5 18 3 a 6t p 6 h 0 15 2 t 2c 1 e 1e c pn 2t 33 0 5 a 5g 217 2r c ts f m 9 32z 4 g7 5a0 1m 1c5 ft 6 v 0 a 3 29 0 a 5 u 1 6 9 1y 9 a 0 7 0 l 4 j bz 1m 5h 2j 4 p 1 p 17 23 3 1l 6 h 1r 5 a 7 8 5p2 14 w 2o 37 6po 4 0 7 0 2 0 83 e 1 s 3 1 1 d 4 7 b0 1s3 2z 4 d 2 9 6 a 1 4 31b 71 2 c4 5 n e h e 1a 1 n 8 38 1n 6u 9 13 1 22 7 34 k 1y 3d k b k b 2f 8 p 3q 2d 0 1z 0 2 1 1 1 2 1 4 0 c 0 1 0 7 0 1t 0 4 1 8 0 7 0 s 0 4 0 5 0 1 2 7 0 9g 1 84 1 ji e 5 0 f un v 5 6 5w 7 0 h 1 7 0 2 0 5 4 1q w 1 33 19 2 e 1 a 3 2 8v v g 1m 4 1 cv 16 5x 17 3 1 5b v 0 m 7 2 67 7 0 4 0 2 0 f 0 5h 1 g 14 24 3 a 3 2 ls 1w 23 1p 5d 4 0 r 0 2 0 1 1 1 0 a 0 4 0 1 0 1 5 1 3 1 0 1 0 1 0 3 0 2 0 1 1 1 0 1 0 1 0 1 0 1 0 2 0 1 1 4 0 7 0 4 0 4 0 1 0 a 0 h 4 3 0 5 0 h 1f 2 7h 18 3 2s b f 1 f 0 f 0 11 9 4u 1j t c 18 3 9 6 2 d 6 49 rd 2 h 2 d 2 62 5 c 3 1 e c 3 1k 7 a 5 14 7 u 1 c 3 2 d 9 12 9k 7 e 1 d 2 b 2 1l 0 1 3 g 1 c 3 a 6 43 0 2v sk wyo v 3dq 1 4ge 1 5rl e ha 1wh f2 15t 3t7 4 6ju jdl1"

/-- Marks (general categories Mn, Mc and Me) that extend the grapheme before them. -/
def extendingTable : String :=
  "lc 33 7n 6 7b 18 1 0 1 1 1 1 1 0 20 a 1c k g 0 2t 6 2 5 2 1 1 3 z 0 u q 2j a 1m 8 9 0 o 3 1 8 1 2 1 4 17 2 1n 8 16 n 1 v 1j 0 1 0 4 7 4 0 3 6 a 1 t 0 1m 0 1 0 2 3 8 0 9 0 a 1 q 0 2 1 1l 0 4 1 4 1 2 2 3 0 u 1 3 0 b 1 1l 0 4 4 1 1 4 0 k 1 m 5 1 0 1m 0 1 1 1 3 8 0 7 2 a 1 u 0 1n 0 1 0 c 0 9 0 14 0 3 0 1j 0 1 2 5 2 1 3 7 1 b 1 t 0 1m 0 2 1 1 0 3 2 1 3 7 1 b 1 s 1 1l 1 1 0 2 3 8 0 9 0 a 1 t 0 20 0 4 0 2 2 1 0 8 0 29 0 2 6 c 7 2q 0 2 8 b 6 21 1 r 0 1 0 1 0 1j d 1 4 1 1 5 a 1 z 9 0 2u 3 1 5 1 1 2 1 p 1 4 2 g 3 d 0 2 1 6 0 f 0 jj 2 qa 3 s 2 t 1 u 1 1s 1 1 6 8 0 2 a 9 0 19 2 1 0 39 1 y 0 3a 2 4 1 9 0 6 2 63 1 2 0 1m 0 1 6 1 0 1 0 2 7 6 9 2 0 1c 19 2 b k 3 1c 9 4 2 12 8 c 1 w 3 2 5 1k 0 1 1 3 0 1 4 1k 7 2 1 48 2 1 c 1 6 4 0 6 0 3 1 5i 1r k0 w 2da 2 3x 0 2o v fe 5 2x 1 n9w 3 1 9 w 1 28 1 7k 0 3 0 4 0 p 1 5 0 47 1 q h d 0 12 7 p a 1 0 18 2 1c 0 2 3 2 1 2 0 10 0 1v 5 2 1 2 1 c 0 8 0 1b 0 1f 0 1 2 2 1 5 1 1 0 16 1 8 0 6m 0 2 0 4 0 fn4 0 kh f g f r1 0 6a 0 45 4 1ae 2 1 1 5 3 14 2 4 0 4l 1 fx 3 1t 4 8t 1 25 5 1y a 1d 3 3f 0 1i e 15 0 2 1 a 2 1d 3 2 1 7 0 1p 2 10 4 1 7 1q 0 c 1 1g 8 1 0 8 3 2 0 2n 2 2 3 6 0 2 0 4d 0 3 7 l 1 1l 1 1 0 1 0 c 0 9 0 e 6 3 4 1v 0 2 5 1 0 2 0 1 2 4 2 1 0 e 1 2d 7 2 2 1 0 n 0 29 0 2 5 1 0 2 0 1 1 1 1 6j 0 2 3 6 1 1 1 r 1 2d 7 2 0 1 1 2y 0 1 0 2 7 2t 0 1 0 2 3 1 4 77 8 1 1 6t 0 a 3 4 0 40 3 2 1 4 0 w 9 14 5 2 3 8 0 9 5 2 2 1a c 1 1 5i 0 1 2 1 0 5l 6 1 5 1 0 2a l 2 6 1 1 1 1 3e 5 3 0 1 1 1 6 1 0 20 1 3 0 1 0 9n 1 b 1 1g 4 5 2 n 0 44l 0 6 e 8ug b 3 2 1xc 4 1n 6 t4 0 1r 3 29 0 b 1 f57 1 3mp 19 2 m f2 4 3 5 8 7 2 6 u 3 44 2 1iz 1i 4 1d 8 0 e 0 m 4 1 e 11s 6 1 g 2 6 1 1 1 4 2s 0 4g 6 af 0 1p 3 e4 3 72 1 6r 0 2 0 7 1 5 0 d6 6 31 6 gzhx 6n"

/-- Alphabetic characters. -/
def alphabeticTable : String :=
  "1t p 6 p 1b 0 a 0 4 0 5 m 1 u 1 cp 4 b e 4 7 0 1 0 2e 0 t h 1 1 2 3 1 0 6 0 1 2 1 0 1 j 1 2a 1 3u 8 4l 1 11 2 0 6 14 13 d 1 0 1 1 1 1 1 0 8 q 4 3 t a 5 1j 1 6 e 2t 1 7 4 7 4 2 a 2 2 0 g 1b d 2s o w 9 1 4 0 5 n 2 i j o 7 a 5 n 1 6 7 0 8 15 a b 3 6 6 23 1 f 1 2 4 e d i 1 7 2 1 2 l 1 6 1 0 3 3 3 7 2 1 2 1 1 0 8 0 4 1 1 4 c 1 a 0 4 2 1 5 4 1 2 l 1 6 1 1 1 1 1 1 4 4 4 1 2 1 4 0 7 3 1 0 h 5 b 2 1 8 1 2 1 l 1 6 1 1 1 4 3 8 1 2 1 1 3 0 f 3 l 3 4 2 1 7 2 1 2 l 1 6 1 1 1 4 3 7 2 1 2 1 9 1 4 1 1 4 d 0 g 1 1 5 3 2 1 3 3 1 1 0 1 1 3 1 3 2 3 b 4 4 3 2 1 2 3 0 6 0 14 c 1 2 1 m 1 f 3 7 1 2 1 2 8 1 1 2 1 1 2 3 s 3 1 7 1 2 1 m 1 9 1 4 3 7 1 2 1 2 8 1 5 2 1 3 d 2 c c 1 2 1 14 2 7 1 2 1 2 1 0 5 3 7 4 m 5 1 2 1 h 3 n 1 8 1 0 2 6 8 5 1 0 1 7 i 1 d 1l 5 6 6 0 1f 1 1 0 1 4 1 n 1 0 1 i 1 2 2 4 1 0 6 0 e 3 w 0 1r 7 1 z 4 i 4 f 1 z 1v 1i 1 0 2 4 g 1r a 3 2 11 1 0 5 0 2 16 1 98 1 3 2 6 1 0 1 3 2 14 1 3 2 w 1 3 2 6 1 0 1 3 2 e 1 1k 1 3 2 1u 11 f g 2d 2 5 3 h7 2 g 1 p 5 22 3 a 7 j b k c j c c 1 2 1 1 c 1f 2 i e 0 4 0 1v 2g 7 16 5 1x a u 1 b 4 8 n t 2 4 b 17 4 p 1i r 4 1q 2 j 1e 0 n 1 b 2 1d 1f 1 e 1 7 1f 15 2 3 a 17 1 a e 1i m 2 a z 2 a 5 16 2 2 15 3 1 5 1 1 3 0 5 5b j x b 7p 2 5 2 11 2 5 2 7 1 0 1 0 1 0 1 u 2 1g 1 6 1 0 3 2 1 6 3 3 2 5 4 c 5 2 1 6 38 0 d 0 g c 2t 0 4 0 2 9 1 0 3 4 6 0 1 0 1 0 1 3 1 a 2 3 5 4 4 0 h 14 ml 1f 1ee 6c 6 3 3 1 c 11 1 0 5 0 2 1j 7 0 g m 9 6 1 6 1 6 1 6 1 6 1 6 1 6 1 6 1 v 1b 0 d1 2 p 8 7 4 2 4 4 2d 6 2 1 2h 1 3 5 16 1 2l h v 1c f e8 533 1s h3g 1v 19 2 7g 3 f a 1 k 1a 5 7 3 34 13 8 2 2u 2 29 k k 1 w o 1f c 1v 1 0 18 5 3 0 1 2 a w 5 y d s 3 1e 1 b f 0 g f a 4 1 1i 9 d i m 3 1w 1 0 1 0 o 2 2 f 2 3 b 5 2 5 2 5 9 6 1 6 1 16 1 d 6 3e l 8mb c m 4 1c 6is a5 2 2x 12 6 c 4 5 b 1 c 1 4 1 0 1 1 1 1 1 2z x a2 i 1r 2 1h 14 b 38 4 1 3q 10 p 6 p b 2g 3 5 2 5 2 5 2 2 z b 1 p 1 i 1 1 1 e 2 d y 3e 1x 1g 7f s 3 1c 1b v d t 5 16 5 t 2 z 4 7 1 4 16 4d i z 4 z 4 13 8 1f c a 1 e 1 6 1 1 1 a 1 e 1 6 1 1 3 1f c 8m 9 l a 7 o 5 1 15 1 8 1x 5 2 0 1 17 1 1 3 0 2 m a m 9 u 1t i 1 1 a l a p 6 p 12 1j 6 1 1s 3 1 1 5 7 1 2 1 s 16 s 3 s z 7 1 r r 1h a l a i d h 32 20 1j 1e d 1e d 13 y r 3 0 5 m 6y 15 1 1 3 1 g 5 1e 2 3 s a 0 8 l 16 h 1a k r m 9 1x 17 4 a 1k 9 0 d o n 1e h 3 8 y 3 0 9 1r 1 3 9 1 a 0 1 0 z h 1 x 2 0 6 3 1q 6 1 0 1 3 1 e 1 9 7 1k n 3 1 7 2 1 2 l 1 6 1 1 1 4 3 7 2 1 2 1 3 0 6 0 5 6 s 9 1 0 2 0 1 11 1 9 1 0 2 0 1 3 1 1 3 0 1 0 18 1t 1 2 1 3 k 2 u 1t 2 1 1 0 54 1h 2 6 p 5 y 1q 1 0 3 0 1n 1h 2 0 1z q 2 d l 6 55 1k 2v 1r v 7 2 0 2 7 1 1 1 t 1 1 2 1 2 3 2l 7 2 19 2 5 1 0 1 1 r 1e 2 9 h 1z 5 0 i 20 2v 7 2g w v 8 1 18 1 6 1 0 1d t 2 l 1 d 21 6 1 1 1 17 3 0 1 1 1 2 1 0 2 1 o 5 1 1 1 10 1 1 1 3 1 0 n 17 78 m 9 g 1 14 3 2 33 0 27 pl 2u 32 h 5f 218 2o f tr h 5 p 32y 5 g6 5a1 1a 1ch fs 7 u h 26 h t i 1b g 3 v k 5 i c0 18 5v 1r w o 2 o 18 22 4 1k 7 g 1s 1 1 0 c 6 9 5p1 15 v 2p 36 6pp 3 1 6 1 1 1 82 f 0 t 2 2 0 e 3 8 az 1s4 2y 5 c 3 8 7 9 4 0 4m9 2c 1 1y 1 1 2 0 2 1 2 3 1 b 1 0 1 6 1 1s 1 3 2 7 1 6 1 r 1 3 1 4 1 0 3 6 1 9f 2 o 1 o 1 u 1 o 1 u 1 o 1 u 1 o 1 u 1 o 1 7 1f8 u 6 5 5x 6 1 g 2 6 1 1 1 4 5 1p x 0 34 18 a 6 g 0 8x t i 17 dg r 6c t 2 0 5r u 1 l 8 1 68 6 1 3 1 1 1 e 1 5g 1n 1v 3 0 3 0 xg 3 1 q 1 1 1 0 2 0 1 9 1 3 1 0 1 0 6 0 4 0 1 0 1 0 1 2 1 1 1 0 2 0 1 0 1 0 1 0 1 0 1 1 1 0 2 3 1 6 1 3 1 3 1 0 1 9 1 g 5 2 1 4 1 g hg p 6 p 6 p 2uu wyn w 3dp 2 4gd 2 5rk f h9 1wi f1 15u 3t6 5 6jt"

/-- Numeric characters: general categories Nd, Nl and No. -/
def numericTable : String :=
  "1c 9 3c 1 5 0 2 2 141 9 3q 9 5i 9 bg 9 3a 9 4 5 30 9 3a 9 3a 9 2 5 32 c 37 9 8 6 2v 9 2w 6 7 i 31 9 2o 9 3a 9 1y j 7g 9 1y 9 jz j oh 2 6n 9 6 9 m 9 8c 9 3k a 4l 9 6 9 52 9 2e 9 3q 9 6 9 t2 0 3 5 6 9 5i 1e 2 4 k6 1n 26 l hi t 12h 0 ll 0 p 8 e 2 9j 3 3u 9 u 7 1 e w 9 13 e msg 9 58 9 8w 5 4a 9 12 9 5i 9 m 9 2e 9 ba 9 geu 9 dp 18 c 1k h 1 9h q 10 3 t 0 8 0 3q 4 5m 9 q6 7 p 6 13 8 23 4 m 5 4g 1 2 f 2 19 1s 8 1g 1 u 2 23 4 2w 7 o 7 15 6 96 5 1c 9 6 9 7q u 4e 9 16 3 34 6 3q t 3k 9 1o 9 40 9 7 j 6z 9 9i 9 3a 9 ae 9 2u 9 6 j 24 b bo i 2l 9 ie 9 2e s 6b 9 1y 9 1i 9 9y 9 2u k tn 32 c01 9 1t2 9 2e 9 3q 9 1 6 em 9 7a m 9p 2 id5 9 152 j c j 30 o ut 1d 1ts 9 bq 9 dy 9 6v 9 jw 8 3k 9 lz 1m 1 2 1 3 24 18 1 e qq c 25f 9"

end Text

end RuleMachine
