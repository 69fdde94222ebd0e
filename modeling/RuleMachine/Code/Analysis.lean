import RuleMachine.Rule.Basic
import RuleMachine.Rule.Catalog

/-!
# What a rule's outermost operator guarantees

Three classifiers look at the outermost operator of a rule, through the catalog of the
compilation, so that a builtin shadowed by an extension guarantees nothing. A `true` answer is
a guarantee about every value the rule can give; `false` means only that nothing is known.

* `isArray`: a list, or `map`, `filter`, `merge`, `missing`, `missing_some`.
* `isNonArray`: a literal; an operator whose result is a boolean, a number or a string; `and`
  and `or` whose operands are all non-arrays (the result is one of them); `if` whose branches
  are all non-arrays (fewer than two arguments give null).
* `isNumeric`: a number literal, or an arithmetic operator, `max` or `min`.

An `Analysis` bundles three such answers. The compiler leaves out a truthiness normalization
for non-arrays, a number conversion for numbers, and the guard of an iteration over arrays;
`Analysis.blind` knows nothing and so leaves out nothing.
-/

namespace RuleMachine

namespace Rule

/-- The builtin an operation applies under a catalog, unless an extension shadows it. -/
def builtinIn (c : Catalog) : Rule → Option Builtin
  | .operation key _ _ => c.builtin? key
  | _ => none

/-- Whether every value of the rule is an array. -/
def isArray (c : Catalog) (r : Rule) : Bool :=
  match r with
  | .list _ => true
  | .operation _ _ _ =>
    match r.builtinIn c with
    | some .map | some .filter | some .merge | some .missing | some .missingSome => true
    | _ => false
  | _ => false

/-- Whether a builtin's result is a boolean, a number or a string. -/
def Builtin.givesScalar : Builtin → Bool
  | .eq | .strictEq | .ne | .strictNe | .not | .notNot | .gt | .gte | .lt | .lte
  | .max | .min | .add | .sub | .mul | .div | .mod | .cat | .substr | .member
  | .allOf | .noneOf | .someOf => true
  | _ => false

mutual

/-- Whether no value of the rule is an array. -/
def isNonArray (c : Catalog) : Rule → Bool
  | .literal _ => true
  | .list _ => false
  | .operation key args _ =>
    match c.builtin? key with
    | some .and | some .or => allNonArray c args
    | some .cond => args.length < 2 || branchesNonArray c args
    | some b => Builtin.givesScalar b
    | none => false

/-- Whether every rule of a list is a non-array. -/
def allNonArray (c : Catalog) : List Rule → Bool
  | [] => true
  | r :: rest => isNonArray c r && allNonArray c rest

/-- Whether every branch of an `if` chain (each second argument of a pair, and the last
argument when one is left over) is a non-array. -/
def branchesNonArray (c : Catalog) : List Rule → Bool
  | [] => true
  | [otherwise] => isNonArray c otherwise
  | _ :: thenBranch :: rest => isNonArray c thenBranch && branchesNonArray c rest

end

/-- Whether every value of the rule is a number. -/
def isNumeric (c : Catalog) (r : Rule) : Bool :=
  match r with
  | .literal (.int _) | .literal (.float _) => true
  | .operation _ _ _ =>
    match r.builtinIn c with
    | some .add | some .sub | some .mul | some .div | some .mod | some .max | some .min => true
    | _ => false
  | _ => false

end Rule

/-- What a compilation knows about the values of rules. Each answer `true` is a guarantee;
`false` means that nothing is known. -/
structure Analysis where
  /-- Every value of the rule is an array. -/
  isArray : Rule → Bool
  /-- No value of the rule is an array. -/
  isNonArray : Rule → Bool
  /-- Every value of the rule is a number. -/
  isNumeric : Rule → Bool

namespace Analysis

/-- The classifiers of this module under a catalog: what compilations use. -/
def ofCatalog (c : Catalog) : Analysis := ⟨Rule.isArray c, Rule.isNonArray c, Rule.isNumeric c⟩

/-- Knowing nothing: every condition is normalized, every arithmetic operand converted and
every iteration guarded. -/
def blind : Analysis := ⟨fun _ => false, fun _ => false, fun _ => false⟩

/-- Whether a condition needs the rule-truthiness normalization: unless it is a non-array. -/
def needsTruthy (facts : Analysis) (r : Rule) : Bool := !facts.isNonArray r

end Analysis

end RuleMachine
