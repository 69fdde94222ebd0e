import RuleMachine.Number.Shortest

/-!
# Laying out the digits of a finite word

Printers agree on the digits (`Decimal.shortest`) up to how they break a tie, and differ in
how they lay the digits out. A `Layout` records those decisions: which leading exponents are
written positionally, whether an integral value keeps a trailing `.0`, whether a non-negative
exponent carries a `+`, and the tie rule. `Layout.render` writes a finite word with them.
-/

namespace RuleMachine

/-- The decisions of one printer of finite binary64 words. -/
structure Layout where
  /-- The smallest power of ten of the leading digit that is written positionally. -/
  positionalFrom : Int
  /-- The largest power of ten of the leading digit that is written positionally. -/
  positionalTo : Int
  /-- Whether a positional integral value ends in `.0`. -/
  pointZero : Bool
  /-- Whether a non-negative exponent is written with `+`. -/
  plusExponent : Bool
  /-- How a tie between two shortest candidates is broken. -/
  tie : Tie

namespace Layout

/-- `n` zero digits. -/
def zeros (n : Nat) : String := String.ofList (List.replicate n '0')

/-- The digits `d` laid out with the leading digit at power `lead`. -/
def positional (l : Layout) (s : String) (lead : Int) (k : Int) : String :=
  if 0 ≤ k then
    s ++ zeros k.toNat ++ (if l.pointZero then ".0" else "")
  else if 0 ≤ lead then
    let cut := (lead + 1).toNat
    String.ofList (s.toList.take cut) ++ "." ++ String.ofList (s.toList.drop cut)
  else
    "0." ++ zeros (-lead - 1).toNat ++ s

/-- The digits `d` in scientific notation: one digit, the rest after a point, the exponent. -/
def scientific (l : Layout) (s : String) (lead : Int) : String :=
  let cs := s.toList
  let mantissa := match cs with
    | [] => ""
    | [c] => String.singleton c
    | c :: rest => String.singleton c ++ "." ++ String.ofList rest
  let sign := if lead < 0 then "-" else if l.plusExponent then "+" else ""
  mantissa ++ "e" ++ sign ++ toString lead.natAbs

/-- Writes a decimal, positionally when its leading power is in range. -/
def decimal (l : Layout) (d : Decimal) : String :=
  let s := toString d.digits
  let lead : Int := d.exponent + s.length - 1
  if l.positionalFrom ≤ lead ∧ lead ≤ l.positionalTo then l.positional s lead d.exponent
  else l.scientific s lead

/-- Writes a finite word: a sign for negative words (negative zero included), then zero or
the shortest digits. Not a number and the infinities have no layout and give `""`. -/
def render (l : Layout) (x : Binary64) : String :=
  match x.exact with
  | .finite neg m q =>
    let sign := if neg then "-" else ""
    if m = 0 then sign ++ (if l.pointZero then "0.0" else "0")
    else sign ++ l.decimal (Decimal.shortest l.tie m q)
  | _ => ""

end Layout

end RuleMachine
