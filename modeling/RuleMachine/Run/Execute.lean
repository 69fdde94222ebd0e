import RuleMachine.Run.Machine

/-!
# The machine's loop

`Machine.execute` runs a block as the machine's loop does: each instruction in turn from `pc`,
a jump setting `pc` to its target wherever that is, and each body run by the loop itself. Such
a run need not end, so it carries a clock: every step, in a block or in a body, spends a tick,
and a run whose clock runs out fails in `ClockedM`. On code whose jumps all go forward it does
what `Machine.runBlock` does (`Linked.execute_eq_evaluate`).
-/

namespace RuleMachine

/-- A run of the machine's loop, which may also run out of its clock. -/
abbrev ClockedM := OptionT RunM

namespace Machine

/-- What an iteration instruction gives from the value it pops, each body run by `run`. -/
def iterateWith (run : Value → ClockedM Value) (kind : IterKind) (guarded : Bool) :
    Value → ClockedM Value
  | .array items =>
    let test (x : Value) : ClockedM Bool := Value.jsTruthy <$> run x
    match kind with
    | .map => do pure (.array (← items.mapM run))
    | .filter => do pure (.array (← items.filterM test))
    | .all => if items.isEmpty then pure (.bool false) else do pure (.bool (← items.allM test))
    | .some => do pure (.bool (← items.anyM test))
    | .none => do pure (.bool !(← items.anyM test))
  | other =>
    if guarded then pure kind.fallback
    else throwThe RunError (.typeMismatch (kind.name ++ " expects an array, got " ++ other.typeName))

/-- What a reduce instruction gives from the initial value and the source it pops, each body
run by `run`: the items after the first one folded, each with its position in the array. -/
def reduceWith (run : Value → ClockedM Value) (guarded withData : Bool) (initial : Option Value) :
    Value → ClockedM Value
  | .array items =>
    let data := if withData then some (.array items) else none
    let fold (acc : Value) (start : Nat) (rest : List Value) : ClockedM Value :=
      (rest.zipIdx start).foldlM (fun acc p => run (Value.reduceContext acc p.1 p.2 data)) acc
    match initial, items with
    | some acc, _ => fold acc 0 items
    | none, first :: rest => fold first 1 rest
    | none, [] => throwThe RunError (.typeMismatch "reduce of empty array with no initial value")
  | other =>
    if guarded then pure .null
    else throwThe RunError (.typeMismatch ("reduce expects an array, got " ++ other.typeName))

/-- Runs a block from `pc` with the machine's loop, for at most `clock` steps of the deepest
run: `failure` when the clock runs out. -/
def execute (linked : Linked) (root : Value) : Nat → List Instr → Nat → ClockedM Unit
  | 0, _, _ => failure
  | clock + 1, code, pc =>
    let runBody (body : List Instr) (binding : Value) : ClockedM Value := do
      enter binding
      execute linked root clock body 0
      let v ← pop
      leave
      pure v
    match code[pc]? with
    | none => pure ()
    | some (.jump t) => execute linked root clock code t
    | some (.jumpIfFalse t) => do
      if !(← pop).jsTruthy then execute linked root clock code t
      else execute linked root clock code (pc + 1)
    | some (.jumpIfTrue t) => do
      if (← pop).jsTruthy then execute linked root clock code t
      else execute linked root clock code (pc + 1)
    | some (.jumpIfPresent t) => do
      if !(← peek).isNull then execute linked root clock code t
      else
        let _ ← pop
        execute linked root clock code (pc + 1)
    | some (.iterate kind body guarded) => do
      push (← iterateWith (runBody body) kind guarded (← pop))
      execute linked root clock code (pc + 1)
    | some (.reduce body guarded seeded withData) => do
      let initial ← if seeded then (some <$> pop) else pure none
      push (← reduceWith (runBody body) guarded withData initial (← pop))
      execute linked root clock code (pc + 1)
    | some i => do
      simple linked root i
      execute linked root clock code (pc + 1)

end Machine

namespace Linked

/-- Runs the program on a record with the machine's loop and a clock: nothing when the clock runs
out, and otherwise the value on top of the stack or the error that stopped the run, with the
events until then, in order. -/
def execute (linked : Linked) (clock : Nat) (record : Value) :
    Option (Except RunError Value × List Event) :=
  let run : ClockedM Value := do
    Machine.execute linked record clock linked.code 0
    Machine.pop
  match ((run.run).run).run {} with
  | (.ok none, _) => none
  | (.ok (some v), state) => some (.ok v, state.log.reverse)
  | (.error e, state) => some (.error e, state.log.reverse)

end Linked

end RuleMachine
