import RuleMachine.Value.Compare

/-!
# What operators compute on values

The meaning of each builtin operator on values that are already computed, shared by everything
that runs rules:

* arithmetic works on `toNumber`s and gives the word back as a value (`ofWord`), so a result
  is an integer whenever it is a small whole number;
* the four orderings hold when `compare` gives the asked answer, and none holds when it gives
  none;
* `max` and `min` are not-a-number as soon as one operand is, and otherwise the extreme of the
  operands' numbers, from minus (plus) infinity up;
* membership looks for an item of an array by `sameValueZero`, or for a part of a string by
  the needle's text;
* a step of `reduce` sees the accumulator, the current item and its index, and the source
  array as `data` when it is asked for.
-/

namespace RuleMachine

namespace Value

/-- JavaScript `ToNumber` as a value. -/
def number (v : Value) : Value := ofWord v.toNumber

/-- A word operation on the `toNumber`s of two values, as a value. -/
def arith (f : Binary64 → Binary64 → Binary64) (a b : Value) : Value :=
  ofWord (f a.toNumber b.toNumber)

/-- JavaScript `a > b`. -/
def greater (a b : Value) : Bool := a.compare b == some .gt

/-- JavaScript `a >= b`: greater or equal, not merely "not less". -/
def greaterEq (a b : Value) : Bool := a.compare b == some .gt || a.compare b == some .eq

/-- JavaScript `a < b`. -/
def less (a b : Value) : Bool := a.compare b == some .lt

/-- JavaScript `a <= b`: less or equal, not merely "not greater". -/
def lessEq (a b : Value) : Bool := a.compare b == some .lt || a.compare b == some .eq

/-- The larger of two numbers by `compare`, the first on a tie. -/
def larger (x y : Binary64) : Binary64 := if x.lt y then y else x

/-- The smaller of two numbers by `compare`, the first on a tie. -/
def smaller (x y : Binary64) : Binary64 := if y.lt x then y else x

/-- Not a number when an operand is not a number, else the extreme of the operands' numbers
by `pick`, starting from `empty`. -/
def extreme (values : List Value) (empty : Binary64) (pick : Binary64 → Binary64 → Binary64) :
    Binary64 :=
  let numbers := values.map Value.toNumber
  if numbers.any Binary64.isNaN then Binary64.nan else numbers.foldl pick empty

/-- JavaScript `Math.max` of the values. -/
def maximum (values : List Value) : Value := ofWord (extreme values (Binary64.infinity true) larger)

/-- JavaScript `Math.min` of the values. -/
def minimum (values : List Value) : Value :=
  ofWord (extreme values (Binary64.infinity false) smaller)

/-- Whether `part` occurs in `text` as consecutive characters. -/
def occursIn (part : List Char) : List Char → Bool
  | [] => part.isEmpty
  | c :: rest => part.isPrefixOf (c :: rest) || occursIn part rest

/-- Whether a needle is in a haystack: an item of an array by `sameValueZero`, or a part of a
string by text; no answer for any other haystack. -/
def memberOf? (needle haystack : Value) : Option Bool :=
  match haystack with
  | .array items => some (items.any (·.sameValueZero needle))
  | .string text => some (occursIn needle.toText.toList text.toList)
  | _ => none

/-- The context object of one reduce step. -/
def reduceContext (accumulator current : Value) (index : Nat) (data : Option Value) : Value :=
  .object ([("accumulator", accumulator), ("current", current), ("index", .int index)] ++
    match data with
    | some d => [("data", d)]
    | none => [])

end Value

end RuleMachine
