import RuleMachine.Value.Basic

/-!
# Paths into values

A path is a list of segments. A segment names an object member, or an array position
written in decimal (an optional `+`, then digits, below `2^64`). `lookupPath` follows the
segments and gives nothing when a segment is missing or when it meets null on the way or at
the end.
-/

-- Powers of naturals and integers are the core ones, whatever other instances are in scope.
attribute [local instance (default + 100)] instPowNat

namespace RuleMachine

namespace Value

/-- An array position: an optional `+` and at least one decimal digit, below `2^64`. -/
def position? (segment : String) : Option Nat :=
  let cs := match segment.toList with
    | '+' :: rest => rest
    | cs => cs
  if cs.isEmpty || !cs.all Char.isDigit then none
  else
    let n := cs.foldl (fun acc c => acc * 10 + (c.toNat - 48)) 0
    if n < 2 ^ (64 : Nat) then some n else none

/-- The member or item that one segment names. -/
def segment? (v : Value) (segment : String) : Option Value :=
  match v with
  | .object members => members.lookup segment
  | .array items => (position? segment).bind fun i => items[i]?
  | _ => none

/-- Follows a path; nothing when a segment is missing or null is met on the way or at the
end. -/
def lookupPath (v : Value) : List String → Option Value
  | [] => if v.isNull then none else some v
  | s :: rest =>
    if v.isNull then none
    else match v.segment? s with
      | some w => w.lookupPath rest
      | none => none

end Value

end RuleMachine
