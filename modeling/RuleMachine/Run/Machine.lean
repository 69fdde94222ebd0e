import RuleMachine.Run.Routines
import RuleMachine.Run.Error
import RuleMachine.Value.Operators
import RuleMachine.Code.Program
import RuleMachine.Rule.Catalog

/-!
# Running stack code

A linked program is its code, the routines attached to it and the extension operators by slot.
A run keeps an operand stack, the frames of the iteration bodies being run, and the events so
far. `runBlock` runs a block of compiled code, whose jumps all go forward: a jump to its own
position or before it ends the block (`Machine.execute` runs any code, with a clock).
-/

namespace RuleMachine

/-- A program ready to run. -/
structure Linked where
  code : List Instr
  routines : List Routine
  /-- The extension operators by slot, with their keys. -/
  operations : List (String × Operation)

/-- Links a compiled program with the catalog it was compiled under: its routines are
attached, and each binding's extension takes its slot. -/
def Program.link (c : Catalog) (p : Program) : Linked :=
  ⟨p.code, p.routines,
   p.bindings.map fun (key, _) => (key, (c.extensions.lookup key).getD fun _ => .ok .null)⟩

/-- The machine's state during a run. -/
structure MachineState where
  /-- Operands, the top first. -/
  stack : List Value := []
  /-- Frames of the bodies being run, the innermost first. -/
  frames : List Value := []
  /-- Events so far, the latest first. -/
  log : List Event := []

/-- A run step may fail, and keeps the state it reached when it does. -/
abbrev RunM := ExceptT RunError (StateM MachineState)

namespace Machine

/-- Pushes an operand. -/
def push (v : Value) : RunM Unit := modify fun s => { s with stack := v :: s.stack }

/-- Pops the top operand. -/
def pop : RunM Value := do
  match (← get).stack with
  | v :: rest => modify (fun s => { s with stack := rest }); pure v
  | [] => throw .stackUnderflow

/-- The top operand, left in place. -/
def peek : RunM Value := do
  match (← get).stack with
  | v :: _ => pure v
  | [] => throw .stackUnderflow

/-- Pops the top `n` operands, in the order they were pushed. -/
def popN (n : Nat) : RunM (List Value) := do
  let stack := (← get).stack
  if stack.length < n then throw .stackUnderflow
  modify fun s => { s with stack := stack.drop n }
  pure (stack.take n).reverse

/-- The data a scope reads: the record, or the innermost frame (the record when there is
none). -/
def scopeData (root : Value) (scope : Scope) : RunM Value := do
  match scope with
  | .arg => pure root
  | .item | .context => pure ((← get).frames.headD root)

/-- Pops two operands and pushes a number computed from their `toNumber`s. -/
def arithmetic (f : Binary64 → Binary64 → Binary64) : RunM Unit := do
  let b ← pop
  let a ← pop
  push (Value.arith f a b)

/-- Pops two operands and pushes a comparison of them. -/
def comparison (f : Value → Value → Bool) : RunM Unit := do
  let b ← pop
  let a ← pop
  push (.bool (f a b))

/-- Membership of a needle in a haystack; for a haystack that is neither an array nor a
string, null when guarded and a type mismatch otherwise. -/
def includes (guarded : Bool) (needle haystack : Value) : Except RunError Value :=
  match needle.memberOf? haystack with
  | some b => .ok (.bool b)
  | none =>
    if guarded then .ok .null
    else .error (.typeMismatch ("in expects an array or string, got " ++ haystack.typeName))

/-- Calls a routine on its arguments. -/
def callRoutine (linked : Linked) (r : Routine) (args : List Value) : RunM Value := do
  if !linked.routines.contains r then throw (.unlinked r)
  let arg (i : Nat) : Value := args.getD i .null
  match r with
  | .resolve => pure (Support.resolve (arg 0) (arg 1) (arg 2))
  | .missing =>
    match args with
    | data :: keys => pure (.array (Support.missing data keys))
    | [] => throw .stackUnderflow
  | .missingSome => pure (.array (Support.missingSome (arg 0) (arg 1) (arg 2)))
  | .truthy => pure (.bool (arg 0).truthy)
  | .substr => pure (.string (Support.substr (arg 0) (arg 1) args[2]?))
  | .merge => pure (.array (Value.flattenOnce args))
  | .log =>
    let v := arg 0
    modify fun s => { s with log := .logged v :: s.log }
    pure v

/-- Runs one instruction that neither jumps nor has a body. -/
def simple (linked : Linked) (root : Value) : Instr → RunM Unit
  | .push v => push v
  | .pop => discard pop
  | .dup => do push (← peek)
  | .makeArray n => do push (.array (← popN n))
  | .load scope => do push (← scopeData root scope)
  | .loadPath scope path => do
    let data ← scopeData root scope
    push ((data.lookupPath path).getD .null)
  | .toNumber => do push (← pop).number
  | .add => arithmetic Binary64.add
  | .sub => arithmetic Binary64.sub
  | .mul => arithmetic Binary64.mul
  | .div => arithmetic Binary64.div
  | .mod => arithmetic Binary64.fmod
  | .neg => do push (Value.ofWord (← pop).toNumber.neg)
  | .max n => do push (Value.maximum (← popN n))
  | .min n => do push (Value.minimum (← popN n))
  | .eq => comparison Value.looseEq
  | .strictEq => comparison Value.strictEq
  | .ne => comparison fun a b => !a.looseEq b
  | .strictNe => comparison fun a b => !a.strictEq b
  | .gt => comparison Value.greater
  | .gte => comparison Value.greaterEq
  | .lt => comparison Value.less
  | .lte => comparison Value.lessEq
  | .not => do push (.bool !(← pop).jsTruthy)
  | .toBool => do push (.bool (← pop).jsTruthy)
  | .concat n => do push (.array (Value.flattenOnce (← popN n)))
  | .includes guarded => do
    let haystack ← pop
    let needle ← pop
    match includes guarded needle haystack with
    | .ok v => push v
    | .error e => throw e
  | .toText => do push (.string (← pop).toText)
  | .join n => do push (.string (Value.joinWith "" (← popN n)))
  | .callRoutine r argc => do
    let args ← popN argc
    push (← callRoutine linked r args)
  | .callOp slot argc => do
    let args ← popN argc
    match linked.operations[slot]? with
    | none => throw (.unboundOperation slot)
    | some (key, op) =>
      modify fun s => { s with log := .called key args :: s.log }
      match op args with
      | .ok v => push v
      | .error m => throw (.operation m)
  -- jumps and bodies are run by `runBlock`
  | _ => pure ()

/-- Enters a frame. -/
def enter (binding : Value) : RunM Unit :=
  modify fun s => { s with frames := binding :: s.frames }

/-- Leaves the innermost frame. -/
def leave : RunM Unit := modify fun s => { s with frames := s.frames.drop 1 }

theorem sizeOf_body_lt {code : List Instr} {pc : Nat} (h : pc < code.length) {body : List Instr}
    (hb : sizeOf body < sizeOf code[pc]) : sizeOf body < sizeOf code := by
  have := List.sizeOf_lt_of_mem (List.getElem_mem h)
  omega

mutual

/-- Runs a block from position `pc` to its end. -/
def runBlock (linked : Linked) (root : Value) (code : List Instr) (pc : Nat) : RunM Unit :=
  if h : pc < code.length then
    match hi : code[pc] with
    | .jump t => if pc < t then runBlock linked root code t else pure ()
    | .jumpIfFalse t => do
      if !(← pop).jsTruthy then
        if pc < t then runBlock linked root code t else pure ()
      else runBlock linked root code (pc + 1)
    | .jumpIfTrue t => do
      if (← pop).jsTruthy then
        if pc < t then runBlock linked root code t else pure ()
      else runBlock linked root code (pc + 1)
    | .jumpIfPresent t => do
      if !(← peek).isNull then
        if pc < t then runBlock linked root code t else pure ()
      else
        let _ ← pop
        runBlock linked root code (pc + 1)
    | .iterate kind body guarded => do
      let result ← match ← pop with
        | .array items =>
          match kind with
          | .map => do pure (.array (← mapItems linked root body items))
          | .filter => do pure (.array (← filterItems linked root body items))
          | .all => if items.isEmpty then pure (.bool false)
                    else do pure (.bool (← allItems linked root body items))
          | .some => do pure (.bool (← anyItem linked root body items))
          | .none => do pure (.bool !(← anyItem linked root body items))
        | other =>
          if guarded then pure kind.fallback
          else throw (.typeMismatch (kind.name ++ " expects an array, got " ++ other.typeName))
      push result
      runBlock linked root code (pc + 1)
    | .reduce body guarded seeded withData => do
      let initial ← if seeded then (some <$> pop) else pure none
      let result ← match ← pop with
        | .array items =>
          let data := if withData then some (.array items) else none
          match initial, items with
          | some acc, _ => reduceItems linked root body data items acc 0
          | none, first :: rest => reduceItems linked root body data rest first 1
          | none, [] => throw (.typeMismatch "reduce of empty array with no initial value")
        | other =>
          if guarded then pure .null
          else throw (.typeMismatch ("reduce expects an array, got " ++ other.typeName))
      push result
      runBlock linked root code (pc + 1)
    | i => do
      simple linked root i
      runBlock linked root code (pc + 1)
  else pure ()
termination_by (sizeOf code, 1, code.length - pc)
decreasing_by
  all_goals first
    | (apply Prod.Lex.right; apply Prod.Lex.right; omega)
    | (apply Prod.Lex.left; apply sizeOf_body_lt h; rw [hi];
       simp only [Instr.iterate.sizeOf_spec, Instr.reduce.sizeOf_spec]; omega)

/-- Runs a body with `binding` as its frame and takes its result off the stack. -/
def runBody (linked : Linked) (root : Value) (body : List Instr) (binding : Value) :
    RunM Value := do
  enter binding
  runBlock linked root body 0
  let v ← pop
  leave
  pure v
termination_by (sizeOf body, 1, body.length + 1)
decreasing_by apply Prod.Lex.right; apply Prod.Lex.right; omega

/-- The body's results for each item. -/
def mapItems (linked : Linked) (root : Value) (body : List Instr) :
    List Value → RunM (List Value)
  | [] => pure []
  | x :: rest => do
    let v ← runBody linked root body x
    let vs ← mapItems linked root body rest
    pure (v :: vs)
termination_by items => (sizeOf body, 2, items.length)
decreasing_by
  all_goals first
    | (apply Prod.Lex.right; apply Prod.Lex.left; omega)
    | (apply Prod.Lex.right; apply Prod.Lex.right; simp)

/-- The items whose body result is truthy. -/
def filterItems (linked : Linked) (root : Value) (body : List Instr) :
    List Value → RunM (List Value)
  | [] => pure []
  | x :: rest => do
    let v ← runBody linked root body x
    let vs ← filterItems linked root body rest
    pure (if v.jsTruthy then x :: vs else vs)
termination_by items => (sizeOf body, 2, items.length)
decreasing_by
  all_goals first
    | (apply Prod.Lex.right; apply Prod.Lex.left; omega)
    | (apply Prod.Lex.right; apply Prod.Lex.right; simp)

/-- Whether the body is truthy for every item, stopping at the first falsy one. -/
def allItems (linked : Linked) (root : Value) (body : List Instr) :
    List Value → RunM Bool
  | [] => pure true
  | x :: rest => do
    if (← runBody linked root body x).jsTruthy then allItems linked root body rest
    else pure false
termination_by items => (sizeOf body, 2, items.length)
decreasing_by
  all_goals first
    | (apply Prod.Lex.right; apply Prod.Lex.left; omega)
    | (apply Prod.Lex.right; apply Prod.Lex.right; simp)

/-- Whether the body is truthy for some item, stopping at the first truthy one. -/
def anyItem (linked : Linked) (root : Value) (body : List Instr) :
    List Value → RunM Bool
  | [] => pure false
  | x :: rest => do
    if (← runBody linked root body x).jsTruthy then pure true
    else anyItem linked root body rest
termination_by items => (sizeOf body, 2, items.length)
decreasing_by
  all_goals first
    | (apply Prod.Lex.right; apply Prod.Lex.left; omega)
    | (apply Prod.Lex.right; apply Prod.Lex.right; simp)

/-- Folds the items into the accumulator, the body's result becoming the next accumulator;
`index` counts positions in the whole array. -/
def reduceItems (linked : Linked) (root : Value) (body : List Instr) (data : Option Value) :
    List Value → Value → Nat → RunM Value
  | [], acc, _ => pure acc
  | x :: rest, acc, index => do
    let acc ← runBody linked root body (Value.reduceContext acc x index data)
    reduceItems linked root body data rest acc (index + 1)
termination_by items _ _ => (sizeOf body, 2, items.length)
decreasing_by
  all_goals first
    | (apply Prod.Lex.right; apply Prod.Lex.left; omega)
    | (apply Prod.Lex.right; apply Prod.Lex.right; simp)

end

end Machine

namespace Linked

/-- Runs the program on a record: the value on top of the stack at the end, or the error that
stopped the run, with the events until then, in order. -/
def evaluate (linked : Linked) (record : Value) : Except RunError Value × List Event :=
  let run : RunM Value := do
    Machine.runBlock linked record linked.code 0
    Machine.pop
  let (result, state) := (run.run).run {}
  (result, state.log.reverse)

end Linked

end RuleMachine
