import RuleMachine.Rule.Builtin
import RuleMachine.Value.Basic

/-!
# Operator catalogs

A catalog adds extension operators to the builtin ones for one compilation. An extension is
a function of its argument values that either gives a value or fails with a message; every
call of one is an event of the run, as every logged value is. Looking up a key finds an
extension first and a builtin second, so an extension shadows the builtin of the same key.
-/

namespace RuleMachine

/-- An extension operator. -/
abbrev Operation := List Value → Except String Value

/-- What a run shows outside itself: a value passed to `log`, or an extension operator called,
by its key, with its arguments. -/
inductive Event where
  | logged (v : Value)
  | called (key : String) (args : List Value)

/-- What a key names in a catalog. -/
inductive Entry where
  | builtin (b : Builtin)
  | extension (op : Operation)

/-- Extension operators by key, each key once. -/
structure Catalog where
  extensions : List (String × Operation) := []

namespace Catalog

/-- Adds an extension; an extension of the same key is replaced. -/
def insert (c : Catalog) (key : String) (op : Operation) : Catalog :=
  ⟨(key, op) :: c.extensions.filter (·.1 != key)⟩

/-- What a key names: an extension first, a builtin second. -/
def lookup (c : Catalog) (key : String) : Option Entry :=
  match c.extensions.lookup key with
  | some op => some (.extension op)
  | none => (Builtin.ofName key).map .builtin

/-- The builtin a key names, unless an extension shadows it. -/
def builtin? (c : Catalog) (key : String) : Option Builtin :=
  match c.lookup key with
  | some (.builtin b) => some b
  | _ => none

end Catalog

end RuleMachine
