import RuleMachine.Number.Binary64

/-!
# JSON documents

A JSON document as the rule language reads it. Numbers keep the form they were read in: a
non-negative integer (below `2^64`), a negative integer (at least `-2^63`), or a binary64
word. Objects keep their members sorted by key with no key twice, so two documents with the
same members in a different order are the same document; `Json.insert` keeps that order and
lets the last write of a key win.
-/

namespace RuleMachine

/-- A JSON number in the form it was read in. -/
inductive Json.Number where
  /-- A non-negative integer. -/
  | nat (n : Nat)
  /-- A negative integer. -/
  | neg (n : Int)
  /-- A number with a fraction or an exponent, or one out of the integer ranges. -/
  | float (x : Binary64)
  deriving DecidableEq, Inhabited

/-- A JSON document. -/
inductive Json where
  | null
  | bool (b : Bool)
  | number (n : Json.Number)
  | string (s : String)
  | array (items : List Json)
  /-- Members sorted by key, each key once. -/
  | object (members : List (String × Json))
  deriving Inhabited

namespace Json

/-- Inserts a member into a sorted member list; an existing key gets the new value in place. -/
def insert (key : String) (value : Json) : List (String × Json) → List (String × Json)
  | [] => [(key, value)]
  | (k, v) :: rest =>
    if key < k then (key, value) :: (k, v) :: rest
    else if key = k then (key, value) :: rest
    else (k, v) :: insert key value rest

/-- The value of a member, if the object has it. -/
def field? (j : Json) (key : String) : Option Json :=
  match j with
  | .object members => members.lookup key
  | _ => none

end Json

end RuleMachine
