import RuleMachine.Value.Basic
import RuleMachine.Json.Write

/-!
# Values and JSON documents

`Value.ofJson` reads a document as a value: an integer within 64 bits signed stays an integer,
every other number becomes a word. `Value.toJson` writes a value back as a document with its
numbers normalized: a word goes through `Value.ofWord`, so integral words within `2^53 - 1`
become integers, and a word that is not finite becomes null.

`Value.serialText` is the value's own JSON text, with no normalization: a word keeps its
form (`2.0`, `-0.0`), and a word that is not finite is written `null`.
-/

-- Powers of naturals and integers are the core ones, whatever other instances are in scope.
attribute [local instance (default + 100)] instPowNat

namespace RuleMachine

namespace Value

/-- The value of a JSON number. -/
def ofNumber : Json.Number → Value
  | .nat n => if n < 2 ^ (63 : Nat) then .int n else .float (Binary64.ofInt n)
  | .neg n => .int n
  | .float x => .float x

mutual

/-- The value a document stands for. -/
def ofJson : Json → Value
  | .null => .null
  | .bool b => .bool b
  | .number n => ofNumber n
  | .string s => .string s
  | .array items => .array (ofJsonItems items)
  | .object members => .object (ofJsonMembers members)

/-- Values of array items. -/
def ofJsonItems : List Json → List Value
  | [] => []
  | j :: rest => ofJson j :: ofJsonItems rest

/-- Values of object members. -/
def ofJsonMembers : List (String × Json) → List (String × Value)
  | [] => []
  | (k, j) :: rest => (k, ofJson j) :: ofJsonMembers rest

end

/-- The JSON number of an integer. -/
def intNumber (n : Int) : Json.Number :=
  if 0 ≤ n then .nat n.toNat else .neg n

/-- A word as a normalized JSON number, or null when it is not finite. -/
def wordJson (x : Binary64) : Json :=
  match ofWord x with
  | .int n => .number (intNumber n)
  | _ => if x.isFinite then .number (.float x) else .null

/-- Inserts members into a sorted member list, the last of a key winning. -/
def sortMembers (members : List (String × Json)) : List (String × Json) :=
  members.foldl (fun acc (k, v) => Json.insert k v acc) []

mutual

/-- A value as a document, numbers normalized. -/
def toJson : Value → Json
  | .null => .null
  | .bool b => .bool b
  | .int n => .number (intNumber n)
  | .float x => wordJson x
  | .string s => .string s
  | .array items => .array (toJsonItems items)
  | .object members => .object (sortMembers (toJsonMembers members))

/-- Documents of array items. -/
def toJsonItems : List Value → List Json
  | [] => []
  | v :: rest => toJson v :: toJsonItems rest

/-- Documents of object members. -/
def toJsonMembers : List (String × Value) → List (String × Json)
  | [] => []
  | (k, v) :: rest => (k, toJson v) :: toJsonMembers rest

end

mutual

/-- The value's own JSON text: words keep their form, and a word that is not finite is
written `null`. -/
def serialText : Value → String
  | .null => "null"
  | .bool b => if b then "true" else "false"
  | .int n => toString n
  | .float x => Json.floatText x
  | .string s => Json.quote s
  | .array items => "[" ++ serialItems items ++ "]"
  | .object members => "\x7b" ++ serialMembers members ++ "\x7d"

/-- Texts of array items, separated by commas. -/
def serialItems : List Value → String
  | [] => ""
  | [v] => serialText v
  | v :: rest => serialText v ++ "," ++ serialItems rest

/-- Texts of object members, separated by commas. -/
def serialMembers : List (String × Value) → String
  | [] => ""
  | [(k, v)] => Json.quote k ++ ":" ++ serialText v
  | (k, v) :: rest => Json.quote k ++ ":" ++ serialText v ++ "," ++ serialMembers rest

end

end Value

end RuleMachine
