import RuleMachine.Rule.Basic
import RuleMachine.Rule.Builtin
import RuleMachine.Json.Read
import RuleMachine.Text.Quoted

/-!
# Compile errors

Why a rule does not compile. The first four causes are found while reading the rule text and
checking the tree; the rule or document they carry is printed in the message as compact JSON.
-/

namespace RuleMachine

/-- Why a rule does not compile. -/
inductive CompileError where
  /-- The rule text is not JSON. -/
  | parse (e : Json.ReadError)
  /-- An object that does not have exactly one member. -/
  | malformedNode (node : Json)
  /-- An operation whose key is neither an extension nor a builtin. -/
  | unrecognizedOperator (key : String) (node : Rule)
  /-- A builtin applied to a number of arguments outside its arity. -/
  | arity (op : Builtin) (expected : String) (node : Rule)
  /-- A `var` whose path is a list. -/
  | illegalVarKey (key : Rule)
  deriving Inhabited

namespace CompileError

/-- The name of the cause. -/
def kind : CompileError → String
  | .parse _ => "Parse"
  | .malformedNode _ => "MalformedNode"
  | .unrecognizedOperator _ _ => "UnrecognizedOperator"
  | .arity _ _ _ => "Arity"
  | .illegalVarKey _ => "IllegalVarKey"

/-- The words for the cause. -/
def message : CompileError → String
  | .parse e => "Parse error: " ++ e.message
  | .malformedNode node =>
    "Malformed node, an operation must have exactly one key: " ++ node.render
  | .unrecognizedOperator key node =>
    "Unrecognized operator " ++ Text.quoted key ++ ": " ++ node.text
  | .arity op expected node => op.name ++ " needs " ++ expected ++ ": " ++ node.text
  | .illegalVarKey key => "Illegal var key: " ++ key.text

end CompileError

end RuleMachine
