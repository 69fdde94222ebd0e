import RuleMachine.Rule.Basic
import RuleMachine.Value.Coerce

/-!
# The path of a `var`

The first argument of a `var` says what it reads: the whole data (no path, null or the empty
string), a literal path (a string split at dots, or the one segment a boolean or a number
spells), or a path that an operation computes while the rule runs. A list is no path.
-/

namespace RuleMachine

namespace Rule

/-- The path segments a literal `var` path names: a string split at dots, a boolean's word,
a number's text. -/
def literalPath : Value → Option (List String)
  | .string s => some (s.splitOn ".")
  | .bool b => some [if b then "true" else "false"]
  | v@(.int _) => some [Number.text v.toNumber]
  | v@(.float _) => some [Number.text v.toNumber]
  | _ => none

/-- What the first argument of a `var` asks for. -/
inductive VarPath where
  /-- The whole scope: no path, null, or the empty string. -/
  | whole
  /-- A path computed at run time by an operation. -/
  | computed
  /-- A literal path. -/
  | segments (path : List String)
  /-- A list, which is no path. -/
  | illegal

/-- Classifies the first argument of a `var`. -/
def varPath : Rule → VarPath
  | .literal .null => .whole
  | .literal (.string "") => .whole
  | .literal v =>
    match literalPath v with
    | some path => .segments path
    | none => .illegal
  | .list _ => .illegal
  | .operation _ _ _ => .computed

end Rule

end RuleMachine
