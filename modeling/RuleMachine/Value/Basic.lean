import RuleMachine.Number.Binary64

/-!
# Dynamic values

The values that rules read, compute and return: null, booleans, integers, binary64 words,
strings, arrays and objects. Integers and words are one kind of number: they are kept apart
only so that integral results print as integers. `Value.ofWord` is the one place where a
computed word becomes a value, and it folds an integral word of magnitude at most `2^53 - 1`
(negative zero included) into an integer.

Truthiness comes in two forms: `jsTruthy` is JavaScript's (every array and object is true),
`truthy` is the rule language's (an empty array is false).
-/

-- Powers of naturals and integers are the core ones, whatever other instances are in scope.
attribute [local instance (default + 100)] instPowNat

namespace RuleMachine

/-- A dynamic value. Object members are a list of distinct keys with their values; their
order carries no meaning. -/
inductive Value where
  | null
  | bool (b : Bool)
  | int (n : Int)
  | float (x : Binary64)
  | string (s : String)
  | array (items : List Value)
  | object (members : List (String × Value))
  deriving Inhabited

namespace Value

/-- The largest integer that every smaller one can reach exactly as a word: `2^53 - 1`. -/
def maxSafe : Nat := 2 ^ (53 : Nat) - 1

/-- A computed word as a value: integral words within `2^53 - 1` of zero become integers. -/
def ofWord (x : Binary64) : Value :=
  if x.isIntegral && x.truncInt.natAbs ≤ maxSafe then .int x.truncInt else .float x

/-- The number a value holds, if it is a number. -/
def asWord? : Value → Option Binary64
  | .int n => some (Binary64.ofInt n)
  | .float x => some x
  | _ => none

/-- Whether a value is null. -/
def isNull : Value → Bool
  | .null => true
  | _ => false

/-- JavaScript truthiness: null, false, zero, not-a-number and the empty string are false. -/
def jsTruthy : Value → Bool
  | .null => false
  | .bool b => b
  | .int n => n != 0
  | .float x => !x.isZero && !x.isNaN
  | .string s => !s.isEmpty
  | .array _ => true
  | .object _ => true

/-- Rule truthiness: an array is true when it has an item, all else as in JavaScript. -/
def truthy : Value → Bool
  | .array items => !items.isEmpty
  | v => v.jsTruthy

/-- The name of a value's type. -/
def typeName : Value → String
  | .null => "null"
  | .bool _ => "boolean"
  | .int _ | .float _ => "number"
  | .string _ => "string"
  | .array _ => "array"
  | .object _ => "object"

/-- Items of arrays spliced in, other values kept: one level of flattening. -/
def flattenOnce : List Value → List Value
  | [] => []
  | .array xs :: rest => xs ++ flattenOnce rest
  | v :: rest => v :: flattenOnce rest

end Value

end RuleMachine
