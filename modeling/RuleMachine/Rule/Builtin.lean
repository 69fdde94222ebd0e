/-!
# Builtin operators

The operators that every rule may use, by key. `?:` is another key for `if`. Some operators
take a fixed range of argument counts, stated by `Builtin.arity` together with the words an
error uses for it.
-/

namespace RuleMachine

/-- A builtin operator. -/
inductive Builtin where
  | var | missing | missingSome
  | cond | eq | strictEq | ne | strictNe | not | notNot | and | or
  | gt | gte | lt | lte | max | min | add | sub | mul | div | mod
  | map | filter | reduce | allOf | noneOf | someOf | merge | member
  | cat | substr | log
  deriving DecidableEq, Inhabited, Repr

/-- The argument counts an operator accepts, and how an error states them. -/
structure Arity where
  least : Nat
  most : Option Nat
  words : String

/-- Whether an arity admits `n` arguments. -/
def Arity.admits (a : Arity) (n : Nat) : Bool :=
  a.least ≤ n && match a.most with
    | some m => n ≤ m
    | none => true

namespace Builtin

/-- Every builtin operator. -/
def all : List Builtin :=
  [.var, .missing, .missingSome, .cond, .eq, .strictEq, .ne, .strictNe, .not, .notNot, .and, .or,
   .gt, .gte, .lt, .lte, .max, .min, .add, .sub, .mul, .div, .mod,
   .map, .filter, .reduce, .allOf, .noneOf, .someOf, .merge, .member, .cat, .substr, .log]

/-- The canonical key of an operator. -/
def name : Builtin → String
  | .var => "var" | .missing => "missing" | .missingSome => "missing_some"
  | .cond => "if" | .eq => "==" | .strictEq => "===" | .ne => "!=" | .strictNe => "!=="
  | .not => "!" | .notNot => "!!" | .and => "and" | .or => "or"
  | .gt => ">" | .gte => ">=" | .lt => "<" | .lte => "<="
  | .max => "max" | .min => "min" | .add => "+" | .sub => "-" | .mul => "*" | .div => "/"
  | .mod => "%" | .map => "map" | .filter => "filter" | .reduce => "reduce" | .allOf => "all"
  | .noneOf => "none" | .someOf => "some" | .merge => "merge" | .member => "in" | .cat => "cat"
  | .substr => "substr" | .log => "log"

/-- The operator a key names: its canonical key, or `?:` for `if`. -/
def ofName (key : String) : Option Builtin :=
  if key = "?:" then some .cond else all.find? (·.name == key)

/-- Exactly `n` arguments. -/
def exactly (n : Nat) (words : String) : Arity := ⟨n, some n, words⟩

/-- The argument counts an operator checks, if it checks them. -/
def arity : Builtin → Option Arity
  | .eq | .strictEq | .ne | .strictNe | .div | .mod => some (exactly 2 "exactly 2 arguments")
  | .map | .filter | .allOf | .noneOf | .someOf | .member => some (exactly 2 "exactly 2 arguments")
  | .not | .notNot | .log => some (exactly 1 "exactly 1 argument")
  | .gt | .gte | .lt | .lte | .substr => some ⟨2, some 3, "2 or 3 arguments"⟩
  | .reduce => some ⟨2, some 3, "2 to 3 arguments"⟩
  | .sub => some ⟨1, some 2, "1 or 2 arguments"⟩
  | .add => some ⟨1, none, "1 or more arguments"⟩
  | .mul => some ⟨1, none, "at least 1 argument"⟩
  | _ => none

end Builtin

end RuleMachine
