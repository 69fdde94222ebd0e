import RuleMachine.Value.Basic
import RuleMachine.Number.Layout
import RuleMachine.Text.Blank

/-!
# Coercions: ToNumber and ToString

`Value.toNumber` and `Value.toText` are the JavaScript-style conversions that operators apply
to their operands.

A string reads as a number by `Number.readText`: blanks at both ends are ignored, the empty
text is zero, `Infinity` may carry a sign, `0x` or `0X` starts a signed 64-bit hexadecimal
integer, and otherwise the text must be a decimal literal made of digits, one point, and an
exponent (`+42`, `.5`, `5.`, `4.2e1`), read to the nearest word. Anything else is not a number.

A word prints by `Number.text`: integral words below `10^21` in magnitude with all their
digits, and the others with the shortest digits that read back, never with an exponent.
-/

-- Powers of naturals and integers are the core ones, whatever other instances are in scope.
attribute [local instance (default + 100)] instPowNat

namespace RuleMachine

namespace Number

/-- Value of a hexadecimal digit. -/
def hexDigitValue (c : Char) : Option Nat :=
  if '0' ≤ c ∧ c ≤ '9' then some (c.toNat - 48)
  else if 'a' ≤ c ∧ c ≤ 'f' then some (c.toNat - 87)
  else if 'A' ≤ c ∧ c ≤ 'F' then some (c.toNat - 55)
  else none

/-- The digits of a non-empty digit string in base `base`, or nothing. -/
def digitsValue (base : Nat) (digit : Char → Option Nat) : List Char → Option Nat
  | [] => none
  | cs => cs.foldl (fun acc c => acc.bind fun a => (digit c).map (a * base + ·)) (some 0)

/-- The sign a numeral starts with, if any, and the text after it; only `-` negates. -/
def splitSign (cs : List Char) : Bool × List Char :=
  match cs with
  | '+' :: rest => (false, rest)
  | '-' :: rest => (true, rest)
  | _ => (false, cs)

/-- A signed 64-bit hexadecimal integer: an optional sign, then at least one digit, within
`[-2^63, 2^63 - 1]`. -/
def readHex (cs : List Char) : Option Int :=
  let (negative, digits) := splitSign cs
  (digitsValue 16 hexDigitValue digits).bind fun n =>
    let v : Int := if negative then -(n : Int) else n
    if -(2 ^ (63 : Nat) : Int) ≤ v ∧ v < 2 ^ (63 : Nat) then some v else none

/-- The value of a decimal digit. -/
def decimalDigit (c : Char) : Option Nat :=
  if '0' ≤ c ∧ c ≤ '9' then some (c.toNat - 48) else none

/-- The exponent that ends a decimal literal: none, or `e` or `E`, an optional sign and at
least one digit. -/
def readExponent : List Char → Option Int
  | [] => some 0
  | e :: more =>
    if e = 'e' ∨ e = 'E' then
      let (negative, ds) := splitSign more
      (digitsValue 10 decimalDigit ds).map fun n => if negative then -(n : Int) else n
    else none

/-- A decimal literal: an optional sign, digits with at most one point and at least one
digit, and an optional exponent `e` or `E` with an optional sign and at least one digit. The
result is the sign, the digits as one number, and the power of ten of the last digit. -/
def readDecimal (cs : List Char) : Option (Bool × Nat × Int) :=
  let (negative, rest) := splitSign cs
  let whole := rest.takeWhile Char.isDigit
  let rest := rest.dropWhile Char.isDigit
  let (fraction, rest) := match rest with
    | '.' :: more => (more.takeWhile Char.isDigit, more.dropWhile Char.isDigit)
    | _ => ([], rest)
  let mantissa := whole ++ fraction
  if mantissa.isEmpty then none
  else
    (readExponent rest).bind fun e =>
      (digitsValue 10 decimalDigit mantissa).map fun m => (negative, m, e - fraction.length)

/-- Reads a string as a number, as JavaScript's `Number(text)` does for the forms above. -/
def readText (s : String) : Binary64 :=
  let cs := Text.trimBlanks s
  if cs.isEmpty then Binary64.zero
  else if cs = "Infinity".toList ∨ cs = "+Infinity".toList then Binary64.infinity false
  else if cs = "-Infinity".toList then Binary64.infinity true
  else match cs with
    | '0' :: x :: hex =>
      if x = 'x' ∨ x = 'X' then
        match readHex hex with
        | some n => Binary64.ofInt n
        | none => Binary64.nan
      else readPlain cs
    | _ => readPlain cs
where
  /-- Only digits, points, exponent letters and signs may make a decimal literal. -/
  readPlain (cs : List Char) : Binary64 :=
    if cs.all fun c => c.isDigit || c == '.' || c == 'e' || c == 'E' || c == '+' || c == '-' then
      match readDecimal cs with
      | some (negative, m, e) => Binary64.ofDecimal negative m e
      | none => Binary64.nan
    else Binary64.nan

/-- The display layout: shortest digits, a tie to the larger candidate, always positional,
and no `.0` on integral values. -/
def Layout.display : Layout := ⟨-400, 400, false, false, .up⟩

/-- The text of a word: `NaN`, `Infinity`, `-Infinity`, the digits of an integral word below
`10^21` in magnitude (`-0` for negative zero), or the shortest positional digits. -/
def text (x : Binary64) : String :=
  match x.exact with
  | .nan => "NaN"
  | .infinite negative => if negative then "-Infinity" else "Infinity"
  | .finite negative _ _ =>
    if x.isIntegral && x.truncInt.natAbs < 10 ^ (21 : Nat) then
      (if negative then "-" else "") ++ toString x.truncInt.natAbs
    else Layout.display.render x

end Number

namespace Value

mutual

/-- JavaScript `String(v)`: arrays join their items with commas, null items as nothing. -/
def toText : Value → String
  | .null => "null"
  | .bool b => if b then "true" else "false"
  | .int n => toString n
  | .float x => Number.text x
  | .string s => s
  | .array items => joinTexts items
  | .object _ => "[object Object]"

/-- The items' texts joined by commas, a null item contributing nothing. -/
def joinTexts : List Value → String
  | [] => ""
  | [v] => itemText v
  | v :: rest => itemText v ++ "," ++ joinTexts rest

/-- The text of an array item: nothing for null. -/
def itemText : Value → String
  | .null => ""
  | v => toText v

end

/-- Texts joined by a separator, null items contributing nothing. -/
def joinWith (sep : String) (items : List Value) : String :=
  sep.intercalate (items.map fun v => if v.isNull then "" else v.toText)

/-- JavaScript `ToNumber`: null is zero, booleans are one and zero, strings and arrays are
read from their text, objects are not a number. -/
def toNumber : Value → Binary64
  | .null => Binary64.zero
  | .bool b => if b then Binary64.ofInt 1 else Binary64.zero
  | .int n => Binary64.ofInt n
  | .float x => x
  | .string s => Number.readText s
  | v@(.array _) => Number.readText v.toText
  | .object _ => Binary64.nan

end Value

end RuleMachine
