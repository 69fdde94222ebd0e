import RuleMachine.Value.Coerce

/-!
# Equality and order of values

Three equalities and one order, as JavaScript defines them for these values:

* `strictEq`: same kind and same content; numbers by numeric value (an integer and a word are
  equal when their words are), arrays item by item, objects key by key.
* `looseEq`: null equals only null; two arrays or objects compare strictly; otherwise a
  boolean becomes its number, an array or object its text, and the comparison starts again;
  two strings compare as strings and anything else by `toNumber`.
* `sameValueZero`: `strictEq`, except that not-a-number equals itself.
* `compare`: arrays and objects become their text; two strings compare by code points, and
  anything else by `toNumber`, with no answer when a side is not a number.
-/

namespace RuleMachine

namespace Value

mutual

/-- JavaScript `===`, structural on arrays and objects. -/
def strictEq : Value → Value → Bool
  | .null, .null => true
  | .bool a, .bool b => a == b
  | .string a, .string b => a == b
  | .array xs, .array ys => xs.length == ys.length && itemsStrictEq xs ys
  | .object xs, .object ys => xs.length == ys.length && membersStrictIn xs ys
  | .int n, .int m => (Binary64.ofInt n).eq (Binary64.ofInt m)
  | .int n, .float y => (Binary64.ofInt n).eq y
  | .float x, .int m => x.eq (Binary64.ofInt m)
  | .float x, .float y => x.eq y
  | _, _ => false

/-- Items equal pairwise, up to the shorter list. -/
def itemsStrictEq : List Value → List Value → Bool
  | x :: xs, y :: ys => strictEq x y && itemsStrictEq xs ys
  | _, _ => true

/-- Every member of the first list has a strictly equal member of that key in the second. -/
def membersStrictIn : List (String × Value) → List (String × Value) → Bool
  | [], _ => true
  | (k, x) :: rest, ys =>
    (match ys.lookup k with
      | some y => strictEq x y
      | none => false) && membersStrictIn rest ys

end

/-- Whether a value is an array or an object. -/
def isContainer : Value → Bool
  | .array _ | .object _ => true
  | _ => false

/-- How many conversions a loose comparison may still make on a value: one for a boolean, an
array or an object, none for the rest. -/
def looseRank : Value → Nat
  | .bool _ | .array _ | .object _ => 1
  | _ => 0

theorem looseRank_ofWord (x : Binary64) : (ofWord x).looseRank = 0 := by
  unfold ofWord
  split <;> rfl

/-- JavaScript `==`, arm by arm: null equals only null, two arrays or objects compare strictly,
a boolean becomes its number and an array or object against anything else its text, and the
comparison starts again; two strings compare as strings and anything else by `toNumber`. Each
new start has converted a boolean, an array or an object into a number or a string, so at most
two conversions happen. -/
def looseEq : Value → Value → Bool
  | .null, .null => true
  | .null, _ => false
  | _, .null => false
  | a@(.array _), b@(.array _) | a@(.array _), b@(.object _)
  | a@(.object _), b@(.array _) | a@(.object _), b@(.object _) => a.strictEq b
  | a@(.bool _), b => (ofWord a.toNumber).looseEq b
  | a, b@(.bool _) => a.looseEq (ofWord b.toNumber)
  | a@(.array _), b | a@(.object _), b => (string a.toText).looseEq b
  | a, b@(.array _) | a, b@(.object _) => a.looseEq (string b.toText)
  | .string x, .string y => x == y
  | a, b => a.toNumber.eq b.toNumber
termination_by a b => a.looseRank + b.looseRank
decreasing_by
  all_goals
    try rw [looseRank_ofWord]
    simp only [looseRank]
    omega

/-- SameValueZero: strict equality in which not-a-number equals itself. -/
def sameValueZero (a b : Value) : Bool :=
  match a.asWord?, b.asWord? with
  | some x, some y => (x.isNaN && y.isNaN) || a.strictEq b
  | _, _ => a.strictEq b

/-- The primitive a value stands for in a relational comparison. -/
def relPrimitive (v : Value) : Value :=
  if v.isContainer then .string v.toText else v

/-- JavaScript's relational comparison; `none` when a side is not a number. -/
def compare (a b : Value) : Option Ordering :=
  match a.relPrimitive, b.relPrimitive with
  | .string x, .string y => some (Ord.compare x y)
  | x, y => x.toNumber.compare y.toNumber

end Value

end RuleMachine
