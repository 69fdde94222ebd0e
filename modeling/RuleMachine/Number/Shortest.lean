import RuleMachine.Number.Binary64

/-!
# Shortest decimal digits of a binary64 word

A finite non-zero word `m · 2^q` owns the interval of reals that round to it: half-way to its
neighbours on both sides, the ends included when `m` is even. The shortest digits are found
on the decimal grids `10^k` with one, two, ... seventeen significant digits: on each grid only
the value's two neighbours can lie in the interval, the first grid with a neighbour inside wins,
and of two neighbours inside the nearer is taken. An exact tie between the two is settled by a
`Tie` rule, which differs between printers.

All arithmetic is on natural numbers: the value and the ends of its interval are ratios
`n / d` with a common denominator.
-/

-- Powers of naturals and integers are the core ones, whatever other instances are in scope.
attribute [local instance (default + 100)] instPowNat

namespace RuleMachine

/-- A positive decimal `digits · 10^exponent`. -/
structure Decimal where
  /-- The significant digits as a number. -/
  digits : Nat
  /-- The power of ten of the last digit. -/
  exponent : Int
  deriving DecidableEq, Inhabited

/-- Which of two equally near candidates a printer keeps. -/
inductive Tie where
  /-- The candidate whose last digit is even. -/
  | even
  /-- The larger candidate. -/
  | up
  deriving DecidableEq, Inhabited

namespace Decimal

/-- Compares `c · 10^k` with the ratio `n / d`. -/
def compareScaled (c : Nat) (k : Int) (n d : Nat) : Ordering :=
  if 0 ≤ k then Ord.compare (c * 10 ^ k.toNat * d) n
  else Ord.compare (c * d) (n * 10 ^ (-k).toNat)

/-- The integer part of `(n / d) / 10^k`. -/
def floorScaled (n d : Nat) (k : Int) : Nat :=
  if 0 ≤ k then n / (d * 10 ^ k.toNat) else n * 10 ^ (-k).toNat / d

/-- The power of ten of the leading digit of `n / d`, for positive `n` and `d`: the digit
counts of `n` and `d` fix it up to one, and one comparison decides. -/
def leadingExponent (n d : Nat) : Int :=
  let l : Int := (Binary64.decimalLength n : Int) - Binary64.decimalLength d
  if compareScaled 1 l n d == .gt then l - 1 else l

/-- Removes trailing zero digits, moving them into the exponent. -/
def trim (c : Nat) (k : Int) : Decimal :=
  if h : c ≠ 0 ∧ c % 10 = 0 then
    have : c / 10 < c := Nat.div_lt_self (Nat.pos_of_ne_zero h.1) (by decide)
    trim (c / 10) (k + 1)
  else ⟨c, k⟩
termination_by c

/-- The reals that round to a word, as ratios over a common denominator: the value, the
lower end, the upper end, the denominator, and whether the ends belong to it. -/
structure Interval where
  value : Nat
  lower : Nat
  upper : Nat
  denominator : Nat
  closed : Bool

/-- The rounding interval of `m · 2^q` for `m > 0`. The lower neighbour is nearer, at half the
spacing, when `m` is the smallest normal significand above the smallest exponent. -/
def interval (m : Nat) (q : Int) : Interval :=
  let lowerGap : Nat := if m = Binary64.hiddenBit ∧ -1074 < q then 1 else 2
  -- every quantity is scaled by 4, on the grid 2^(q-2)
  let (v, l, u) := (4 * m, 4 * m - lowerGap, 4 * m + 2)
  if 2 ≤ q then
    let s := 2 ^ (q - 2).toNat
    ⟨v * s, l * s, u * s, 1, m % 2 == 0⟩
  else ⟨v, l, u, 2 ^ (2 - q).toNat, m % 2 == 0⟩

/-- Whether `c · 10^k` lies in the interval. -/
def Interval.contains (i : Interval) (c : Nat) (k : Int) : Bool :=
  let lo := compareScaled c k i.lower i.denominator
  let hi := compareScaled c k i.upper i.denominator
  if i.closed then lo != .lt && hi != .gt else lo == .gt && hi == .lt

/-- The candidate on the grid `10^k` if one of the value's two neighbours there lies in the
interval: the nearer of two, a tie going as `tie` says. -/
def onGrid (tie : Tie) (i : Interval) (k : Int) : Option Decimal :=
  let lo := floorScaled i.value i.denominator k
  let hi := lo + 1
  match i.contains lo k, i.contains hi k with
  | true, true =>
    -- the midpoint of the neighbours against the value decides which is nearer
    match compareScaled (2 * lo + 1) k (2 * i.value) i.denominator with
    | .gt => some (trim lo k)
    | .lt => some (trim hi k)
    | .eq =>
      match tie with
      | .up => some (trim hi k)
      | .even => some (trim (if lo % 2 = 0 then lo else hi) k)
  | true, false => some (trim lo k)
  | false, true => some (trim hi k)
  | false, false => none

/-- The first grid, by increasing number of significant digits, that holds a candidate. -/
def firstGrid (tie : Tie) (i : Interval) (lead : Int) : List Nat → Option Decimal
  | [] => none
  | n :: rest =>
    match onGrid tie i (lead - n + 1) with
    | some d => some d
    | none => firstGrid tie i lead rest

/-- The shortest decimal that rounds to `m · 2^q` (for `m > 0`), nearest of the shortest.
Seventeen digits always suffice; the value rounded to seventeen digits stands behind that. -/
def shortest (tie : Tie) (m : Nat) (q : Int) : Decimal :=
  let i := interval m q
  let lead := leadingExponent i.value i.denominator
  match firstGrid tie i lead (List.range' 1 17) with
  | some d => d
  | none => trim (floorScaled i.value i.denominator (lead - 16)) (lead - 16)

end Decimal

end RuleMachine
