import RuleMachine.Proofs.Simulation.Iterations

/-!
# Every rule simulates

The lemmas of this directory give one compilation scheme each; here they are dispatched on what
the catalog makes of an operation's key and put together by induction on the rule. An unknown
key never compiles, an extension compiles to a call of its slot, and each builtin to its own
scheme.
-/

namespace RuleMachine

open Machine Rule

section Rules

variable {c : Catalog} {facts : Analysis} {L : Linked} {root : Value} {N : Naming}
variable {key : String} {args : List Rule} {br : Bool}

/-- An operation whose key the catalog does not know does not compile. -/
theorem simulates_unknown (hl : c.lookup key = none) :
    Simulates c facts L root N (.operation key args br) := by
  intro scope base n part n' hc
  exact absurd hc (compile_unknown_ok hl)

/-- A builtin operation simulates when its operands do: each builtin by its own scheme, the
families by the scheme they share. -/
theorem simulates_builtin (hf : facts.Within c) {b : Builtin} (hb : c.builtin? key = some b)
    (ih : ∀ a ∈ args, Simulates c facts L root N a) :
    Simulates c facts L root N (.operation key args br) := by
  cases b
  case var => exact simulates_var hf hb ih
  case missing => exact simulates_missing hb ih
  case missingSome => exact simulates_missingSome hb ih
  case cond => exact simulates_cond hf hb ih
  case eq | strictEq | ne | strictNe | div | mod => exact simulates_binary hf hb rfl ih
  case not => exact simulates_not hf hb ih
  case notNot => exact simulates_notNot hf hb ih
  case and | or => exact simulates_connective hf hb rfl ih
  case gt | gte | lt | lte => exact simulates_order hf hb rfl ih
  case max | min => exact simulates_extreme hf hb rfl ih
  case add => exact simulates_add hf hb ih
  case sub => exact simulates_sub hf hb ih
  case mul => exact simulates_mul hf hb ih
  case map | filter | allOf | noneOf | someOf => exact simulates_iteration hf hb rfl ih
  case reduce => exact simulates_reduce hf hb ih
  case merge => exact simulates_merge hb ih
  case member => exact simulates_member hf hb ih
  case cat => exact simulates_cat hf hb ih
  case substr => exact simulates_substr hf hb ih
  case log => exact simulates_log hf hb ih

/-- Compiled into a program whose naming ends valid as `N` and whose extensions are bound by
`N`, every rule simulates. -/
theorem simulates_rule (hf : facts.Within c) (hN : N.Valid) (hL : L.Binds c N) :
    ∀ r, Simulates c facts L root N r := by
  intro r
  induction r using Rule.induction with
  | literal v => exact simulates_literal hf v
  | list items ih => exact simulates_list ih
  | operation key args br ih =>
    -- the catalog decides the scheme: extensions first, then the builtins
    rcases hl : c.lookup key with _ | entry
    · exact simulates_unknown hl
    cases entry with
    | extension op => exact simulates_extension hf hl hN hL ih
    | builtin b => exact simulates_builtin (b := b) hf (by simp [Catalog.builtin?, hl]) ih

end Rules

end RuleMachine
