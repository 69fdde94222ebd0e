/-!
# Binary64 numbers as words

A number of the rule language is an IEEE 754 binary64 word. This module keeps the word
(`Binary64`), reads it as an exact quantity (`Binary64.Exact`: not a number, an infinity, or
`m · 2^q` with a sign), and builds words from exact ratios by rounding to the nearest word, a
tie going to the even significand. Classification, comparison, negation, truncation and the
remainder are computed exactly from the word; sums, products, quotients and the elementary
functions are the machine's correctly rounded operations.
-/

-- Powers of naturals and integers are the core ones, whatever other instances are in scope.
attribute [local instance (default + 100)] instPowNat

namespace RuleMachine

/-- An IEEE 754 binary64 word. Two words are the same number when `Binary64.compare` says
`equal`, not when their bits agree: `0.0` and `-0.0` differ in bits and are equal numbers. -/
structure Binary64 where
  /-- The sixty-four bits of the word. -/
  bits : UInt64
  deriving DecidableEq, Inhabited

namespace Binary64

/-- The number held by a word, read exactly. -/
inductive Exact where
  /-- A word whose exponent field is all ones and whose fraction is not zero. -/
  | nan
  /-- An infinity of the given sign. -/
  | infinite (negative : Bool)
  /-- The finite value `(-1)^negative · m · 2^q`. -/
  | finite (negative : Bool) (m : Nat) (q : Int)
  deriving DecidableEq, Inhabited

/-- The largest significand plus one: finite significands are below `2^53`. -/
def significandLimit : Nat := 2 ^ (53 : Nat)

/-- The smallest normal significand `2^52`. -/
def hiddenBit : Nat := 2 ^ (52 : Nat)

/-- The sign bit. -/
def negative (x : Binary64) : Bool := x.bits.toNat / 2 ^ (63 : Nat) % 2 == 1

/-- The biased exponent field, eleven bits. -/
def exponentField (x : Binary64) : Nat := x.bits.toNat / hiddenBit % 2048

/-- The fraction field, fifty-two bits. -/
def fractionField (x : Binary64) : Nat := x.bits.toNat % hiddenBit

/-- Reads the word as an exact quantity. A normal word carries the hidden bit; a subnormal
word has the exponent of the smallest normal one. -/
def exact (x : Binary64) : Exact :=
  let e := x.exponentField
  let f := x.fractionField
  if e = 2047 then
    if f = 0 then .infinite x.negative else .nan
  else if e = 0 then
    .finite x.negative f (-1074)
  else
    .finite x.negative (f + hiddenBit) ((e : Int) - 1075)

/-- The word that holds the machine float. -/
def ofFloat (f : Float) : Binary64 := ⟨f.toBits⟩

/-- The machine float that holds the word. -/
def toFloat (x : Binary64) : Float := Float.ofBits x.bits

/-- Positive zero. -/
def zero : Binary64 := ⟨0⟩

/-- Not a number, with the quiet bit set. -/
def nan : Binary64 := ⟨0x7FF8000000000000⟩

/-- The infinity of the given sign. -/
def infinity (negative : Bool) : Binary64 :=
  ⟨if negative then 0xFFF0000000000000 else 0x7FF0000000000000⟩

/-- The word with the sign bit flipped: exact negation. -/
def neg (x : Binary64) : Binary64 := ⟨x.bits ^^^ 0x8000000000000000⟩

/-- The word with the sign bit cleared: exact magnitude. -/
def abs (x : Binary64) : Binary64 := ⟨x.bits &&& 0x7FFFFFFFFFFFFFFF⟩

/-- Whether the word is not a number. -/
def isNaN (x : Binary64) : Bool := x.exact == .nan

/-- Whether the word is neither an infinity nor not a number. -/
def isFinite (x : Binary64) : Bool := x.exponentField != 2047

/-- Whether the word is a zero of either sign. -/
def isZero (x : Binary64) : Bool := x.exponentField == 0 && x.fractionField == 0

/-! ## Building words by rounding -/

/-- The pair `(n, d)` with `n / d = num / (den · 2^q)`. -/
def scaleByPow2 (num den : Nat) (q : Int) : Nat × Nat :=
  if 0 ≤ q then (num, den * 2 ^ q.toNat) else (num * 2 ^ (-q).toNat, den)

/-- The exponent `q` of the grid `2^q` on which `num / den` gets its significand: the
significand lies in `[2^52, 2^53)` when the ratio is normal, and `q` stops at `-1074`. -/
def gridExponent (num den : Nat) : Int :=
  let l : Int := (num.log2 : Int) - den.log2
  let (n, d) := scaleByPow2 num den l
  let floorLog : Int := if n < d then l - 1 else l
  max (floorLog - 52) (-1074)

/-- Division rounded to the nearest integer, a tie going to the even quotient. -/
def roundHalfEven (n d : Nat) : Nat :=
  let r := n / d
  let twice := 2 * (n % d)
  if twice < d then r
  else if d < twice then r + 1
  else if r % 2 = 0 then r else r + 1

/-- The significand and grid exponent that `num / den` rounds to. -/
def roundedRatio (num den : Nat) : Nat × Int :=
  let q := gridExponent num den
  let (n, d) := scaleByPow2 num den q
  let r := roundHalfEven n d
  if r = significandLimit then (hiddenBit, q + 1) else (r, q)

/-- The word nearest to `(-1)^negative · num / den`, ties to an even significand; a ratio past
the largest finite word becomes an infinity. The denominator must not be zero. -/
def ofRatio (negative : Bool) (num den : Nat) : Binary64 :=
  let sign : Nat := if negative then 2 ^ (63 : Nat) else 0
  if num = 0 then ⟨UInt64.ofNat sign⟩
  else
    let (r, q) := roundedRatio num den
    if r < hiddenBit then ⟨UInt64.ofNat (sign + r)⟩
    else
      let biased := q + 1075
      if 2047 ≤ biased then infinity negative
      else ⟨UInt64.ofNat (sign + biased.toNat * hiddenBit + (r - hiddenBit))⟩

/-- Counts decimal digits; zero has one. -/
def decimalLength (n : Nat) : Nat :=
  if n < 10 then 1 else decimalLength (n / 10) + 1

/-- The word nearest to `(-1)^negative · m · 10^e`. Exponents far outside the range of
finite words go straight to zero or infinity, which the rounding would give as well. -/
def ofDecimal (negative : Bool) (m : Nat) (e : Int) : Binary64 :=
  if m = 0 then ofRatio negative 0 1
  else
    let top := e + decimalLength m
    if 330 < top then infinity negative
    else if top < -330 then ofRatio negative 0 1
    else if 0 ≤ e then ofRatio negative (m * 10 ^ e.toNat) 1
    else ofRatio negative m (10 ^ (-e).toNat)

/-- The word nearest to an integer. -/
def ofInt (n : Int) : Binary64 := ofRatio (n < 0) n.natAbs 1

/-! ## Exact readings -/

/-- The finite value as a ratio `(sign, numerator, denominator)`. -/
def Exact.ratio (negative : Bool) (m : Nat) (q : Int) : Bool × Nat × Nat :=
  if 0 ≤ q then (negative, m * 2 ^ q.toNat, 1) else (negative, m, 2 ^ (-q).toNat)

/-- Whether a finite word holds an integer. -/
def isIntegral (x : Binary64) : Bool :=
  match x.exact with
  | .finite _ m q => 0 ≤ q || m % 2 ^ (-q).toNat == 0
  | _ => false

/-- The integer part of a finite word, rounding toward zero. Not a number and the infinities
read as zero. -/
def truncInt (x : Binary64) : Int :=
  match x.exact with
  | .finite neg m q =>
    let n : Nat := if 0 ≤ q then m * 2 ^ q.toNat else m / 2 ^ (-q).toNat
    if neg then -(n : Int) else n
  | _ => 0

/-- Truncation toward zero as a word: not a number and the infinities are kept, the sign of a
zero result is the sign of the argument. -/
def trunc (x : Binary64) : Binary64 :=
  match x.exact with
  | .finite neg m q =>
    if 0 ≤ q then x
    else ofRatio neg (m / 2 ^ (-q).toNat) 1
  | _ => x

/-- Compares two words as numbers; `none` when either is not a number. Zeros of both signs are
equal. -/
def compare (x y : Binary64) : Option Ordering :=
  match x.exact, y.exact with
  | .nan, _ => none
  | _, .nan => none
  | .infinite a, .infinite b =>
    some (if a == b then .eq else if a then .lt else .gt)
  | .infinite a, .finite _ _ _ => some (if a then .lt else .gt)
  | .finite _ _ _, .infinite b => some (if b then .gt else .lt)
  | .finite a m q, .finite b n r =>
    -- signed ratios compared by cross-multiplication; zeros lose their sign here
    let (_, xn, xd) := Exact.ratio a m q
    let (_, yn, yd) := Exact.ratio b n r
    let lhs : Int := (if a then -(xn : Int) else xn) * yd
    let rhs : Int := (if b then -(yn : Int) else yn) * xd
    some (Ord.compare lhs rhs)

/-- Numeric equality: false when either side is not a number. -/
def eq (x y : Binary64) : Bool := compare x y == some .eq

/-- Numeric order: false when either side is not a number. -/
def lt (x y : Binary64) : Bool := compare x y == some .lt

/-- The remainder of truncating division, `x - trunc (x / y) · y` computed exactly: it has the
sign of `x` and is smaller than `y` in magnitude. Not a number when `x` is infinite, `y` is
zero, or either is not a number; `x` itself when `y` is infinite. -/
def fmod (x y : Binary64) : Binary64 :=
  match x.exact, y.exact with
  | .finite a m q, .finite _ n r =>
    if n = 0 then nan
    else
      -- both on the grid of the smaller exponent, where the remainder is exact
      let s := min q r
      let xm := m * 2 ^ (q - s).toNat
      let yn := n * 2 ^ (r - s).toNat
      let rem := xm % yn
      if 0 ≤ s then ofRatio a (rem * 2 ^ s.toNat) 1 else ofRatio a rem (2 ^ (-s).toNat)
  | .finite _ _ _, .infinite _ => x
  | _, _ => nan

/-! ## Machine operations -/

/-- Correctly rounded sum. -/
def add (x y : Binary64) : Binary64 := ofFloat (x.toFloat + y.toFloat)

/-- Correctly rounded difference. -/
def sub (x y : Binary64) : Binary64 := ofFloat (x.toFloat - y.toFloat)

/-- Correctly rounded product. -/
def mul (x y : Binary64) : Binary64 := ofFloat (x.toFloat * y.toFloat)

/-- Correctly rounded quotient. -/
def div (x y : Binary64) : Binary64 := ofFloat (x.toFloat / y.toFloat)

/-- Applies a machine function of one float. -/
def lift (f : Float → Float) (x : Binary64) : Binary64 := ofFloat (f x.toFloat)

/-- Applies a machine function of two floats. -/
def lift₂ (f : Float → Float → Float) (x y : Binary64) : Binary64 :=
  ofFloat (f x.toFloat y.toFloat)

instance : OfScientific Binary64 where
  ofScientific m s e := if s then ofDecimal false m (-(e : Int)) else ofDecimal false m e

end Binary64

end RuleMachine
