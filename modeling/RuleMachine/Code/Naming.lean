import RuleMachine.Code.Routine

/-!
# Identifiers for extension operators

Each compilation names the extension operators it calls. A key keeps its first identifier and
slot; slots count up in order of first request. The identifier of a new key is

1. the key itself, if it is identifier-shaped (`[_a-zA-Z$][_a-zA-Z0-9$]*`), else the key with
   each `-` dropped and an ASCII letter or digit after it upper-cased (`is-nan` is `isNan`);
2. if that is not identifier-shaped, the next positional name;
3. if it is reserved (a keyword, a scope name, a host name or a routine name), prefixed by `_`;
4. if that name is already claimed, the next positional name.

Positional names are `_0`, `_1`, ... from a counter that moves on at every try, skipping
claimed names.
-/

namespace RuleMachine

namespace Naming

/-- Words of the host language that no identifier may be. -/
def keywords : List String :=
  ["null", "undefined", "true", "false", "if", "else", "switch", "function", "default", "break",
   "return", "continue", "case", "for", "while", "do", "class", "isinstance", "goto", "extends",
   "in", "throw", "super", "typeof", "yield", "export", "import", "from", "var", "let", "const",
   "this", "with", "delete", "new", "void", "try", "catch", "finally", "debugger"]

/-- Names that evaluation scopes bind. -/
def scopeNames : List String :=
  ["arg", "item", "accumulator", "context", "key", "current", "data", "index"]

/-- Names of the host environment. -/
def hostNames : List String := ["hasOwnProperty", "String", "Array", "Object", "Math", "console"]

/-- Whether a name is reserved. -/
def isReserved (name : String) : Bool :=
  keywords.contains name || scopeNames.contains name || hostNames.contains name ||
    Routine.all.any (·.name == name)

/-- Whether a character may start an identifier. -/
def isIdentStart (c : Char) : Bool := c.isAlpha || c == '_' || c == '$'

/-- Whether a character may continue an identifier. -/
def isIdentPart (c : Char) : Bool := c.isAlphanum || c == '_' || c == '$'

/-- Whether a name matches `[_a-zA-Z$][_a-zA-Z0-9$]*`. -/
def isIdentifier (name : String) : Bool :=
  match name.toList with
  | [] => false
  | c :: rest => isIdentStart c && rest.all isIdentPart

/-- Drops each `-`, upper-casing the character after it when that is an ASCII letter or
digit. -/
def camelOfKebab : List Char → List Char
  | [] => []
  | '-' :: c :: rest => if c.isAlphanum then c.toUpper :: camelOfKebab rest else camelOfKebab (c :: rest)
  | '-' :: [] => []
  | c :: rest => c :: camelOfKebab rest

end Naming

/-- An identifier and the slot it was given. -/
structure Binding where
  identifier : String
  slot : Nat
  deriving DecidableEq, Inhabited, Repr

/-- The names given so far in one compilation. -/
structure Naming where
  /-- Keys with their bindings, in slot order. -/
  bindings : List (String × Binding) := []
  /-- Identifiers taken. -/
  claimed : List String := []
  /-- The counter of positional names. -/
  positional : Nat := 0
  deriving Inhabited

namespace Naming

/-- The next positional name not yet claimed, and the counter after it. The counter moves on
at every try; among `claimed.length + 1` tries one name is free. -/
def nextPositional (claimed : List String) (counter : Nat) : String × Nat :=
  go (claimed.length + 1) counter
where
  go : Nat → Nat → String × Nat
    | 0, n => ("_" ++ toString n, n + 1)
    | fuel + 1, n =>
      let name := "_" ++ toString n
      if claimed.contains name then go fuel (n + 1) else (name, n + 1)

/-- The identifier for a new key, and the positional counter after choosing it. -/
def synthesize (claimed : List String) (counter : Nat) (key : String) : String × Nat :=
  let candidate :=
    if isIdentifier key then key else String.ofList (camelOfKebab key.toList)
  if !isIdentifier candidate then nextPositional claimed counter
  else
    let candidate := if isReserved candidate then "_" ++ candidate else candidate
    if claimed.contains candidate then nextPositional claimed counter else (candidate, counter)

/-- The binding of a key: its first one, or a new one in the next slot. -/
def resolve (n : Naming) (key : String) : Binding × Naming :=
  match n.bindings.lookup key with
  | some b => (b, n)
  | none =>
    let (identifier, counter) := synthesize n.claimed n.positional key
    let b : Binding := ⟨identifier, n.bindings.length⟩
    (b, { bindings := n.bindings ++ [(key, b)], claimed := identifier :: n.claimed,
          positional := counter })

/-- Resolves keys in turn with one fresh naming. -/
def resolveAll (keys : List String) : List Binding :=
  (keys.foldl (fun (acc : List Binding × Naming) key =>
    let (b, n) := acc.2.resolve key
    (b :: acc.1, n)) ([], {})).1.reverse

end Naming

end RuleMachine
