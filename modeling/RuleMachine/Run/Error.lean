import RuleMachine.Code.Routine

/-!
# Run errors

Why running a rule stops. A compiled rule can only fail by a type mismatch or by an extension
operator's failure; the other causes mark code that was not compiled from a rule, or a program
run without what it was linked with.
-/

namespace RuleMachine

/-- Why a run stops. -/
inductive RunError where
  /-- An operation met a value of the wrong kind. -/
  | typeMismatch (message : String)
  /-- An extension operator failed. -/
  | operation (message : String)
  /-- An instruction needed more operands than the stack held. -/
  | stackUnderflow
  /-- A routine was called that the program was not linked with. -/
  | unlinked (r : Routine)
  /-- An extension slot was called that the program has no operator for. -/
  | unboundOperation (slot : Nat)
  deriving Inhabited

namespace RunError

/-- The name of the cause. -/
def kind : RunError → String
  | .typeMismatch _ => "TypeMismatch"
  | .operation _ => "Operation"
  | .stackUnderflow => "StackUnderflow"
  | .unlinked _ => "Unlinked"
  | .unboundOperation _ => "UnboundOperation"

/-- The words for the cause. -/
def message : RunError → String
  | .typeMismatch m => "Type mismatch: " ++ m
  | .operation m => m
  | .stackUnderflow => "Stack underflow"
  | .unlinked r => "Support routine " ++ r.name ++ " is not linked"
  | .unboundOperation slot => "No extension operator bound to slot " ++ toString slot

end RunError

end RuleMachine
