import RuleMachine.Value.Json

/-!
# Rule trees

A rule is a JSON document read as a tree: an object with exactly one member is an operation
(its key names the operator, its value holds the arguments), an array is a list of rules, and
anything else is a literal. An operation's arguments are the items of its value when that is
an array, and the value itself otherwise; `bracketed` records which, so that the rule prints
back as it was written.

`Rule.ofJson` fails on the first object, in document order, that does not have exactly one
member; `Rule.toJson` prints a rule back with its numbers normalized as values print them.
-/

namespace RuleMachine

/-- A rule tree. -/
inductive Rule where
  /-- A scalar: null, a boolean, a number or a string. -/
  | literal (v : Value)
  /-- A list of rules, evaluated item by item into an array. -/
  | list (items : List Rule)
  /-- An operator applied to arguments; `bracketed` is false when the one argument was
  written without brackets. -/
  | operation (key : String) (args : List Rule) (bracketed : Bool)
  deriving Inhabited

namespace Rule

/-- The operator key of an operation. -/
def key? : Rule → Option String
  | .operation key _ _ => some key
  | _ => none

/-- The arguments of an operation; other rules have none. -/
def args : Rule → List Rule
  | .operation _ args _ => args
  | _ => []

mutual

/-- Reads a document as a rule; an object that does not have exactly one member is
malformed, and the first such object in document order is reported as a document. -/
def ofJson : Json → Except Json Rule
  | .array items => (ofJsonItems items).map .list
  | .object [(key, value)] =>
    match value with
    | .array items => (ofJsonItems items).map fun args => .operation key args true
    | single => (ofJson single).map fun arg => .operation key [arg] false
  | j@(.object _) => .error j
  | j => .ok (.literal (Value.ofJson j))

/-- Reads the items of an array in order, stopping at the first malformed one. -/
def ofJsonItems : List Json → Except Json (List Rule)
  | [] => .ok []
  | j :: rest =>
    match ofJson j with
    | .error e => .error e
    | .ok r => (ofJsonItems rest).map (r :: ·)

end

mutual

/-- The document a rule prints as; literal numbers are normalized. -/
def toJson : Rule → Json
  | .literal v => v.toJson
  | .list items => .array (toJsonItems items)
  | .operation key args bracketed =>
    let items := toJsonItems args
    match bracketed, items with
    | false, [arg] => .object [(key, arg)]
    | _, _ => .object [(key, .array items)]

/-- Documents of a list of rules. -/
def toJsonItems : List Rule → List Json
  | [] => []
  | r :: rest => toJson r :: toJsonItems rest

end

/-- The compact text of a rule. -/
def text (r : Rule) : String := r.toJson.render

end Rule

end RuleMachine
