import Mathlib.Tactic
import RuleMachine.Run.Machine
import RuleMachine.Rule.Evaluate

/-!
# Code that runs as an evaluation

The proofs about compiled code read a block in segments: from position `b`, the code does
what an evaluation `m` of the scope's data does and goes on at position `e` with the result
pushed (`Machine.Pushes`). The statement covers every state the machine may be in, so
segments compose (`Pushes.bind`), and an instruction that takes the values a segment pushed
extends it (`Pushes.consume`). An evaluation's failure is the run's failure, with the same
log; a defect of the rule never happens in code that compiled.

`Machine.exec` and `evalRun` run the two monads from a state, and the equations of
`runBlock` below give its step at each kind of instruction.
-/

namespace RuleMachine

/-- Runs an evaluation from a log. -/
def evalRun (m : EvalM α) (log : List Event) : Except EvalError α × List Event := m.run.run log

/-- A direct evaluation that returns at once keeps the log. -/
@[simp] theorem evalRun_pure (a : α) (log : List Event) :
    evalRun (pure a : EvalM α) log = (.ok a, log) :=
  rfl

/-- A direct evaluation that fails at once keeps the log. -/
@[simp] theorem evalRun_throw (e : EvalError) (log : List Event) :
    evalRun (throw e : EvalM α) log = (.error e, log) :=
  rfl

/-- A sequenced evaluation runs its second part on the log the first leaves, unless the first
fails. -/
theorem evalRun_bind (m : EvalM α) (f : α → EvalM β) (log : List Event) :
    evalRun (m >>= f) log =
      match evalRun m log with
      | (.ok a, log') => evalRun (f a) log'
      | (.error e, log') => (.error e, log') := by
  unfold evalRun
  simp only [ExceptT.run_bind, StateT.run_bind]
  rcases m.run.run log with ⟨_ | _, _⟩ <;> rfl

/-- Mapping over an evaluation maps its value and keeps its log and failure. -/
theorem evalRun_map (f : α → β) (m : EvalM α) (log : List Event) :
    evalRun (f <$> m) log =
      match evalRun m log with
      | (.ok a, log') => (.ok (f a), log')
      | (.error e, log') => (.error e, log') := by
  rw [← bind_pure_comp, evalRun_bind]
  rcases evalRun m log with ⟨_ | _, _⟩ <;> rfl

/-! ## What an evaluation can end in -/

/-- Every value that `m` can give satisfies `p`. -/
def Gives (m : EvalM α) (p : α → Prop) : Prop :=
  ∀ log x log', evalRun m log = (.ok x, log') → p x

/-- Every failure that `m` can end in satisfies `q`. -/
def Fails (m : EvalM α) (q : EvalError → Prop) : Prop :=
  ∀ log e log', evalRun m log = (.error e, log') → q e

namespace Gives

variable {m : EvalM α} {p : β → Prop}

/-- A returned value that satisfies `p` is all an evaluation gives. -/
theorem pure {a : β} (h : p a) : Gives (Pure.pure a : EvalM β) p := by
  intro log x log' hx
  simp only [evalRun_pure, Prod.mk.injEq, Except.ok.injEq] at hx
  exact hx.1 ▸ h

/-- A failure gives no value, so it satisfies every property. -/
theorem throw (e : EvalError) : Gives (MonadExcept.throw e : EvalM β) p := by
  intro log x log' hx
  simp at hx

/-- Sequencing gives what the second part gives from every value the first gives. -/
theorem bind {q : α → Prop} {f : α → EvalM β} (h : Gives m q) (hf : ∀ a, q a → Gives (f a) p) :
    Gives (m >>= f) p := by
  intro log x log' hx
  rw [evalRun_bind] at hx
  rcases hm : evalRun m log with ⟨e | a, l⟩
  all_goals rw [hm] at hx
  · simp at hx
  · exact hf a (h _ _ _ hm) _ _ _ hx

/-- Mapping gives the image of every value the evaluation gives. -/
theorem map {q : α → Prop} {f : α → β} (h : Gives m q) (hf : ∀ a, q a → p (f a)) :
    Gives (f <$> m) p := by
  rw [← bind_pure_comp]
  exact h.bind fun a ha => pure (hf a ha)

/-- What an evaluation gives may be weakened. -/
theorem mono {q r : α → Prop} (h : Gives m q) (hq : ∀ a, q a → r a) : Gives m r :=
  fun log x log' hx => hq x (h log x log' hx)

/-- Every evaluation gives values that satisfy the trivial property. -/
theorem any (m : EvalM α) : Gives m fun _ => True :=
  fun _ _ _ _ => True.intro

/-- A sequence gives what its second part gives from any value. -/
theorem bind_any {f : α → EvalM β} (hf : ∀ a, Gives (f a) p) : Gives (m >>= f) p :=
  (any m).bind fun a _ => hf a

/-- A sequence that ends by returning a function of any value gives what that function gives. -/
theorem bind_pure {f : α → β} (hf : ∀ a, p (f a)) : Gives (m >>= fun a => Pure.pure (f a)) p :=
  bind_any fun a => pure (hf a)

/-- Failing first, a sequence gives no value. -/
theorem throw_bind (e : EvalError) (f : α → EvalM β) :
    Gives (MonadExcept.throw e >>= f : EvalM β) p :=
  (throw (p := fun _ => False) e).bind fun _ h => h.elim

/-- Continuations that agree on every value an evaluation can give make the same
evaluation. -/
theorem bind_congr {q : α → Prop} {f g : α → EvalM β} (hm : Gives m q)
    (h : ∀ a, q a → f a = g a) : m >>= f = m >>= g := by
  refine ExceptT.ext (StateT.ext fun log => ?_)
  change evalRun (m >>= f) log = evalRun (m >>= g) log
  rw [evalRun_bind, evalRun_bind]
  rcases hx : evalRun m log with ⟨e | a, log'⟩
  · rfl
  · simp only
    rw [h a (hm _ _ _ hx)]

end Gives

namespace Fails

variable {m : EvalM α} {q : EvalError → Prop}

/-- Returning a value is no failure. -/
theorem pure (a : α) : Fails (Pure.pure a : EvalM α) q := by
  intro log e log' he
  simp at he

/-- A failure whose error satisfies `q` fails as `q` allows. -/
theorem throw {e : EvalError} (h : q e) : Fails (MonadExcept.throw e : EvalM α) q := by
  intro log e' log' he
  simp only [evalRun_throw, Prod.mk.injEq, Except.error.injEq] at he
  exact he.1 ▸ h

/-- Adding to the events never fails. -/
theorem modify (f : List Event → List Event) : Fails (modify f : EvalM Unit) q := by
  intro log e log' he
  cases he

/-- A failure of `m >>= f` is one of `m`, or one of `f` on a value `m` gives. -/
theorem bind {p : α → Prop} {f : α → EvalM β} (h : Fails m q) (hg : Gives m p)
    (hf : ∀ a, p a → Fails (f a) q) : Fails (m >>= f) q := by
  intro log e log' he
  rw [evalRun_bind] at he
  rcases hm : evalRun m log with ⟨e' | a, l⟩
  all_goals rw [hm] at he
  · simp only [Prod.mk.injEq, Except.error.injEq] at he
    exact he.1 ▸ h _ _ _ hm
  · exact hf a (hg _ _ _ hm) _ _ _ he

/-- A sequence whose parts fail only as allowed fails only as allowed. -/
theorem bind_of {f : α → EvalM β} (h : Fails m q) (hf : ∀ a, Fails (f a) q) :
    Fails (m >>= f) q :=
  h.bind (p := fun _ => True) (fun _ _ _ _ => trivial) fun a _ => hf a

/-- Mapping keeps the failures of an evaluation. -/
theorem map {f : α → β} (h : Fails m q) : Fails (f <$> m) q := by
  rw [← bind_pure_comp]
  exact h.bind_of fun a => pure _

end Fails

/-- The data a scope reads under a stack of frames: the record, or the innermost frame. -/
def Scope.read (root : Value) : Scope → List Value → Value
  | .arg, _ => root
  | .item, frames => frames.headD root
  | .context, frames => frames.headD root

namespace Instr

/-- Whether an instruction goes on to the next one by itself: neither a jump nor an
iteration. -/
def flows : Instr → Bool
  | .jump _ | .jumpIfFalse _ | .jumpIfTrue _ | .jumpIfPresent _ => false
  | .iterate _ _ _ | .reduce _ _ _ _ => false
  | _ => true

end Instr

namespace Machine

/-- Runs a machine computation from a state. -/
def exec (m : RunM α) (st : MachineState) : Except RunError α × MachineState := m.run.run st

/-- A machine step that returns at once leaves the state alone. -/
@[simp] theorem exec_pure (a : α) (st : MachineState) : exec (pure a : RunM α) st = (.ok a, st) :=
  rfl

/-- A machine step that fails at once leaves the state alone. -/
@[simp] theorem exec_throw (e : RunError) (st : MachineState) :
    exec (throw e : RunM α) st = (.error e, st) :=
  rfl

/-- A sequenced machine step runs its second part on the state the first leaves, unless the
first fails. -/
theorem exec_bind (m : RunM α) (f : α → RunM β) (st : MachineState) :
    exec (m >>= f) st =
      match exec m st with
      | (.ok a, st') => exec (f a) st'
      | (.error e, st') => (.error e, st') := by
  unfold exec
  simp only [ExceptT.run_bind, StateT.run_bind]
  rcases m.run.run st with ⟨_ | _, _⟩ <;> rfl

/-- After a first part that returns, a sequence runs the second from the state it left. -/
theorem exec_bind_of_ok {m : RunM α} {st st' : MachineState} {a : α} (f : α → RunM β)
    (h : exec m st = (.ok a, st')) : exec (m >>= f) st = exec (f a) st' := by
  rw [exec_bind, h]

/-- After a first part that fails, a sequence fails with the same error and state. -/
theorem exec_bind_of_error {m : RunM α} {st st' : MachineState} {e : RunError} (f : α → RunM β)
    (h : exec m st = (.error e, st')) : exec (m >>= f) st = (.error e, st') := by
  rw [exec_bind, h]

section Stack

variable {st : MachineState}

/-- Pushing puts the value on top of the stack. -/
@[simp] theorem exec_push (v : Value) (st : MachineState) :
    exec (push v) st = (.ok (), { st with stack := v :: st.stack }) :=
  rfl

/-- Popping a nonempty stack returns its top and removes it. -/
theorem exec_pop {v : Value} {rest : List Value} (h : st.stack = v :: rest) :
    exec pop st = (.ok v, { st with stack := rest }) := by
  obtain ⟨stack, frames, log⟩ := st
  subst h
  rfl

/-- Peeking at a nonempty stack returns its top and changes nothing. -/
theorem exec_peek {v : Value} {rest : List Value} (h : st.stack = v :: rest) :
    exec peek st = (.ok v, st) := by
  obtain ⟨stack, frames, log⟩ := st
  subst h
  rfl

/-- `popN` takes the last `n` values pushed, in the order they were pushed. -/
theorem exec_popN {vs rest : List Value} (h : st.stack = vs.reverse ++ rest) :
    exec (popN vs.length) st = (.ok vs, { st with stack := rest }) := by
  obtain ⟨stack, frames, log⟩ := st
  subst h
  have hlen : ¬ (vs.reverse ++ rest).length < vs.length := by simp
  simp only [popN, exec, ExceptT.run_bind, StateT.run_bind]
  change StateT.run (ExceptT.run (if (vs.reverse ++ rest).length < vs.length then _ else _)) _ = _
  rw [if_neg hlen]
  have htake : (vs.reverse ++ rest).take vs.length = vs.reverse := by
    simp
  have hdrop : (vs.reverse ++ rest).drop vs.length = rest := by
    simp
  simp only [htake, hdrop, List.reverse_reverse]
  rfl

/-- `dup` copies the top of the stack. -/
theorem exec_simple_dup {v : Value} {rest : List Value} (L : Linked) (root : Value)
    (h : st.stack = v :: rest) :
    exec (simple L root .dup) st = (.ok (), { st with stack := v :: v :: rest }) := by
  obtain ⟨stack, frames, log⟩ := st
  subst h
  rfl

/-- `pop` removes the top of the stack. -/
theorem exec_simple_pop {v : Value} {rest : List Value} (L : Linked) (root : Value)
    (h : st.stack = v :: rest) :
    exec (simple L root .pop) st = (.ok (), { st with stack := rest }) := by
  obtain ⟨stack, frames, log⟩ := st
  subst h
  rfl

/-- Reading a scope's data changes nothing and returns that scope's value. -/
theorem exec_scopeData (root : Value) (scope : Scope) (st : MachineState) :
    exec (scopeData root scope) st = (.ok (scope.read root st.frames), st) := by
  cases scope <;> rfl

end Stack

/-- What an iterate instruction computes from the value it pops. -/
def iterateResult (L : Linked) (root : Value) (kind : IterKind) (body : List Instr)
    (guarded : Bool) : Value → RunM Value
  | .array items =>
    match kind with
    | .map => do pure (.array (← mapItems L root body items))
    | .filter => do pure (.array (← filterItems L root body items))
    | .all =>
      if items.isEmpty then pure (.bool false) else do pure (.bool (← allItems L root body items))
    | .some => do pure (.bool (← anyItem L root body items))
    | .none => do pure (.bool !(← anyItem L root body items))
  | other =>
    if guarded then pure kind.fallback
    else throw (.typeMismatch (kind.name ++ " expects an array, got " ++ other.typeName))

/-- What a reduce instruction computes from the initial value and the source it pops. -/
def reduceResult (L : Linked) (root : Value) (body : List Instr) (guarded withData : Bool)
    (initial : Option Value) : Value → RunM Value
  | .array items =>
    let data := if withData then some (.array items) else none
    match initial, items with
    | some acc, _ => reduceItems L root body data items acc 0
    | none, first :: rest => reduceItems L root body data rest first 1
    | none, [] => throw (.typeMismatch "reduce of empty array with no initial value")
  | other =>
    if guarded then pure .null
    else throw (.typeMismatch ("reduce expects an array, got " ++ other.typeName))

section Block

variable {L : Linked} {root : Value} {code : List Instr} {pc : Nat}

/-- A block run from its end or past it does nothing. -/
theorem runBlock_of_length_le (h : code.length ≤ pc) : runBlock L root code pc = pure () := by
  rw [runBlock, dif_neg (by omega)]

/-- An instruction that flows on runs and is followed by the next one. -/
theorem runBlock_flows {i : Instr} (h : code[pc]? = some i) (hi : i.flows) :
    runBlock L root code pc = (do simple L root i; runBlock L root code (pc + 1)) := by
  obtain ⟨hpc, rfl⟩ := List.getElem?_eq_some_iff.1 h
  rw [runBlock, dif_pos hpc]
  split <;> simp_all [Instr.flows]

/-- A jump goes on at its target when that is forward, and otherwise ends the block. -/
theorem runBlock_jump {t : Nat} (h : code[pc]? = some (.jump t)) :
    runBlock L root code pc = if pc < t then runBlock L root code t else pure () := by
  obtain ⟨hpc, hi⟩ := List.getElem?_eq_some_iff.1 h
  rw [runBlock, dif_pos hpc]
  split <;> simp_all

/-- `jump_if_false` pops the test and jumps forward on a false value. -/
theorem runBlock_jumpIfFalse {t : Nat} (h : code[pc]? = some (.jumpIfFalse t)) :
    runBlock L root code pc = (do
      if !(← pop).jsTruthy then
        if pc < t then runBlock L root code t else pure ()
      else runBlock L root code (pc + 1)) := by
  obtain ⟨hpc, hi⟩ := List.getElem?_eq_some_iff.1 h
  rw [runBlock, dif_pos hpc]
  split <;> simp_all

/-- `jump_if_true` pops the test and jumps forward on a true value. -/
theorem runBlock_jumpIfTrue {t : Nat} (h : code[pc]? = some (.jumpIfTrue t)) :
    runBlock L root code pc = (do
      if (← pop).jsTruthy then
        if pc < t then runBlock L root code t else pure ()
      else runBlock L root code (pc + 1)) := by
  obtain ⟨hpc, hi⟩ := List.getElem?_eq_some_iff.1 h
  rw [runBlock, dif_pos hpc]
  split <;> simp_all

/-- `jump_if_present` keeps a present value and jumps forward, or pops the null and goes on. -/
theorem runBlock_jumpIfPresent {t : Nat} (h : code[pc]? = some (.jumpIfPresent t)) :
    runBlock L root code pc = (do
      if !(← peek).isNull then
        if pc < t then runBlock L root code t else pure ()
      else
        let _ ← pop
        runBlock L root code (pc + 1)) := by
  obtain ⟨hpc, hi⟩ := List.getElem?_eq_some_iff.1 h
  rw [runBlock, dif_pos hpc]
  split <;> simp_all

/-- An iteration pops its source, runs its body over it and pushes the result. -/
theorem runBlock_iterate {kind : IterKind} {body : List Instr} {guarded : Bool}
    (h : code[pc]? = some (.iterate kind body guarded)) :
    runBlock L root code pc = (do
      let x ← pop
      let r ← iterateResult L root kind body guarded x
      push r
      runBlock L root code (pc + 1)) := by
  obtain ⟨hpc, hi⟩ := List.getElem?_eq_some_iff.1 h
  rw [runBlock, dif_pos hpc]
  split
  case h_5 heq =>
    rw [hi] at heq
    injection heq with h₁ h₂ h₃
    subst h₁ h₂ h₃
    refine congrArg (pop >>= ·) (funext fun x => ?_)
    cases x
    case array items =>
      -- the inline match and iterateResult agree up to the monad laws
      cases kind
      case all =>
        simp only [iterateResult]
        split <;> simp
      all_goals simp [iterateResult]
    -- a value that is not an array: the fallback, or the failure
    all_goals cases guarded <;> rfl
  all_goals simp_all

/-- A reduce pops its initial value when seeded, then its source, folds the body over it and
pushes the result. -/
theorem runBlock_reduce {body : List Instr} {guarded seeded withData : Bool}
    (h : code[pc]? = some (.reduce body guarded seeded withData)) :
    runBlock L root code pc =
      (if seeded then (some <$> pop) else pure none) >>= fun initial => (do
        let x ← pop
        let r ← reduceResult L root body guarded withData initial x
        push r
        runBlock L root code (pc + 1)) := by
  obtain ⟨hpc, hi⟩ := List.getElem?_eq_some_iff.1 h
  rw [runBlock, dif_pos hpc]
  split
  case h_6 heq =>
    rw [hi] at heq
    injection heq with h₁ h₂ h₃ h₄
    subst h₁ h₂ h₃ h₄
    -- the join point after the seed is opened for each value of the flag
    cases seeded <;> dsimp only <;> simp only [Bool.false_eq_true, ↓reduceIte]
    all_goals
      refine congrArg (_ >>= ·) (funext fun initial => congrArg (pop >>= ·) (funext fun x => ?_))
      cases x
      case array items =>
        rcases initial with _ | acc
        · cases items <;> simp [reduceResult]
        · simp [reduceResult]
      all_goals cases guarded <;> rfl
  all_goals (cases guarded <;> cases seeded <;> cases withData <;> simp_all)

end Block

/-! ## Placing code -/

/-- `part` sits in `code` from position `b` on. -/
def CodeAt (code : List Instr) (b : Nat) (part : List Instr) : Prop :=
  ∀ i (h : i < part.length), code[b + i]? = some part[i]

namespace CodeAt

variable {code : List Instr} {b : Nat}

/-- Code placed at `b` is two parts placed one after the other. -/
theorem append {p q : List Instr} :
    CodeAt code b (p ++ q) ↔ CodeAt code b p ∧ CodeAt code (b + p.length) q := by
  constructor
  · intro h
    refine ⟨fun i hi => ?_, fun i hi => ?_⟩
    · rw [h i (by simp; omega), List.getElem_append_left hi]
    · rw [Nat.add_assoc, h (p.length + i) (by simp; omega)]
      simp
  · rintro ⟨hp, hq⟩ i hi
    by_cases hlt : i < p.length
    · rw [hp i hlt, List.getElem_append_left hlt]
    · have := hq (i - p.length) (by simp at hi; omega)
      rw [show b + p.length + (i - p.length) = b + i by omega] at this
      rw [this, List.getElem_append_right (by omega)]

/-- One instruction placed at `b` is the instruction at `b`. -/
theorem singleton {i : Instr} : CodeAt code b [i] ↔ code[b]? = some i := by
  constructor
  · intro h
    simpa using h 0 (by simp)
  · intro h j hj
    obtain rfl : j = 0 := by simpa using hj
    simpa using h

/-- The first part of placed code is placed at the same position. -/
theorem left {p q : List Instr} (h : CodeAt code b (p ++ q)) : CodeAt code b p :=
  (append.1 h).1

/-- The second part of placed code is placed after the first. -/
theorem right {p q : List Instr} (h : CodeAt code b (p ++ q)) : CodeAt code (b + p.length) q :=
  (append.1 h).2

/-- A block is placed at its own start. -/
theorem whole : CodeAt code 0 code := by
  intro i hi
  simp [hi]

end CodeAt

/-! ## Segments -/

section Segments

variable (L : Linked) (root : Value)

/-- Running `code` from `b` does what the outcome of an evaluation says and goes on at `e`: on
a result `x` it reaches `e` with the stack `after x` and the evaluation's log; on an operation's
failure it stops with that failure and that log. A defect never happens. -/
def Goes (code : List Instr) (b e : Nat) (st : MachineState) (after : α → List Value) :
    Except EvalError α × List Event → Prop
  | (.ok x, log) =>
    exec (runBlock L root code b) st =
      exec (runBlock L root code e) { st with stack := after x, log := log }
  | (.error (.run err), log) =>
    ∃ st', exec (runBlock L root code b) st = (.error err, st') ∧ st'.log = log
  | (.error (.defect _), _) => False

/-- One step `r` from `st` does what the outcome of an evaluation says, with the stack
`after x` on a result `x`. -/
def Ends (r : Except RunError Unit × MachineState) (st : MachineState) (after : α → List Value) :
    Except EvalError α × List Event → Prop
  | (.ok x, log) => r = (.ok (), { st with stack := after x, log := log })
  | (.error (.run err), log) => r.1 = .error err ∧ r.2.log = log
  | (.error (.defect _), _) => False

/-- A computation returning `r` from `st` returns what an evaluation gives, with its log. -/
def Returns (r : Except RunError α × MachineState) (st : MachineState) :
    Except EvalError α × List Event → Prop
  | (.ok x, log) => r = (.ok x, { st with log := log })
  | (.error (.run err), log) => r.1 = .error err ∧ r.2.log = log
  | (.error (.defect _), _) => False

/-- From `b`, `code` evaluates `m` on its scope's data, pushes `push` of the result on the stack
it found, and goes on at `e`. -/
def Pushes (scope : Scope) (code : List Instr) (b e : Nat) (m : Value → EvalM α)
    (push : α → List Value) : Prop :=
  ∀ st : MachineState,
    Goes L root code b e st (fun x => push x ++ st.stack) (evalRun (m (scope.read root st.frames)) st.log)

/-- From `b`, `code` runs as `m` and goes on at `e` with its value pushed. -/
def Runs (scope : Scope) (code : List Instr) (b e : Nat) (m : Value → EvalM Value) : Prop :=
  Pushes L root scope code b e m ([·])

/-- From `b`, `code` runs as `ms` and goes on at `e` with its values pushed in order. -/
def RunsAll (scope : Scope) (code : List Instr) (b e : Nat) (ms : Value → EvalM (List Value)) :
    Prop :=
  Pushes L root scope code b e ms List.reverse

/-- An instruction that finds `vs` on top of the stack, the last pushed first, takes them off
and pushes what `f vs` gives. -/
def Consumes (i : Instr) (n : Nat) (f : List Value → EvalM Value) : Prop :=
  ∀ vs rest (st : MachineState), vs.length = n → st.stack = vs.reverse ++ rest →
    Ends (exec (simple L root i) st) st (fun v => v :: rest) (evalRun (f vs) st.log)

/-- From `b`, with a value `acc` on top of the stack, `code` runs as `m acc` and goes on at `e`
with the result in place of `acc`: the tail of a fold. -/
def Folds (scope : Scope) (code : List Instr) (b e : Nat) (m : Value → Value → EvalM Value) :
    Prop :=
  ∀ (st : MachineState) acc rest, st.stack = acc :: rest →
    Goes L root code b e st (fun v => v :: rest) (evalRun (m acc (scope.read root st.frames)) st.log)

end Segments

/-- Every result of `m` satisfies `p`, whatever the data. -/
def Yields (m : Value → EvalM α) (p : α → Prop) : Prop :=
  ∀ d, Gives (m d) p

section Calculus

variable {L : Linked} {root : Value} {scope : Scope} {code : List Instr}

/-- A run that fails from one position fails alike from a position that runs the same. -/
theorem Goes.error_of {b e b' e' : Nat} {st : MachineState} {after : α → List Value}
    {after' : β → List Value} {err : EvalError} {log : List Event}
    (hb : exec (runBlock L root code b) st = exec (runBlock L root code b') st)
    (h : Goes L root code b' e' st after' (.error err, log)) :
    Goes L root code b e st after (.error err, log) := by
  rcases err with err | err
  · exact h
  · simpa [Goes, hb] using h

/-- A segment that starts where a run from `b` goes on. -/
theorem Goes.of_exec {b m e : Nat} {st st' : MachineState} {after : α → List Value}
    {o : Except EvalError α × List Event}
    (hb : exec (runBlock L root code b) st = exec (runBlock L root code m) st')
    (h : Goes L root code m e st' after o) (hframes : st'.frames = st.frames) :
    Goes L root code b e st after o := by
  obtain ⟨⟨err | err⟩ | x, log⟩ := o
  · exact h.elim
  · simpa only [Goes, hb] using h
  · simp only [Goes] at h ⊢
    rw [hb, h]
    obtain ⟨stack, frames, log'⟩ := st'
    simp only at hframes
    subst hframes
    rfl

/-- Mapping the result of an evaluation keeps a segment, the stacks read through the map. -/
theorem Goes.map {b e : Nat} {st : MachineState} {after : α → List Value}
    {after' : β → List Value} {f : α → β} {m : EvalM α} {log : List Event}
    (hf : ∀ x, after' (f x) = after x) (h : Goes L root code b e st after (evalRun m log)) :
    Goes L root code b e st after' (evalRun (f <$> m) log) := by
  rw [evalRun_map]
  rcases hm : evalRun m log with ⟨⟨err | err⟩ | x, log'⟩
  all_goals rw [hm] at h
  · exact h.elim
  · exact h
  · simpa only [Goes, hf] using h

/-- Mapping the meaning of a pushing segment pushes the mapped values. -/
theorem Pushes.map {b e : Nat} {m : Value → EvalM α} {p : α → List Value} {q : β → List Value}
    {f : α → β} (h : Pushes L root scope code b e m p) (hf : ∀ x, q (f x) = p x) :
    Pushes L root scope code b e (fun d => f <$> m d) q :=
  fun st => Goes.map (fun x => by simp only [hf]) (h st)

/-- Two pushing segments one after the other push both their values, the second on top. -/
theorem Pushes.bind {b m e : Nat} {m₁ : Value → EvalM α} {m₂ : Value → EvalM β}
    {p₁ : α → List Value} {p₂ : β → List Value}
    (h₁ : Pushes L root scope code b m m₁ p₁) (h₂ : Pushes L root scope code m e m₂ p₂) :
    Pushes L root scope code b e (fun d => do let x ← m₁ d; let y ← m₂ d; pure (x, y))
      (fun xy => p₂ xy.2 ++ p₁ xy.1) := by
  intro st
  have g₁ := h₁ st
  rw [evalRun_bind]
  rcases hx : evalRun (m₁ (scope.read root st.frames)) st.log with ⟨err | x, log₁⟩
  all_goals rw [hx] at g₁
  · exact Goes.error_of rfl g₁
  · -- the second segment starts from the state the first one reached
    simp only [Goes] at g₁
    have g₂ := h₂ { st with stack := p₁ x ++ st.stack, log := log₁ }
    refine Goes.of_exec g₁ ?_ rfl
    simp only [bind_pure_comp]
    exact Goes.map (fun y => by simp) g₂

/-- A step that ends as an outcome says makes the segment of one instruction. -/
theorem Goes.of_ends {pc : Nat} {i : Instr} {st : MachineState} {after : α → List Value}
    {o : Except EvalError α × List Event}
    (hrun : runBlock L root code pc = (do simple L root i; runBlock L root code (pc + 1)))
    (h : Ends (exec (simple L root i) st) st after o) :
    Goes L root code pc (pc + 1) st after o := by
  obtain ⟨⟨err | err⟩ | x, log⟩ := o
  · exact h.elim
  · obtain ⟨h₁, h₂⟩ := h
    refine ⟨(exec (simple L root i) st).2, ?_, h₂⟩
    rw [hrun, exec_bind]
    rcases hr : exec (simple L root i) st with ⟨_ | _, st'⟩
    · simp_all
    · simp_all
  · simp only [Goes]
    simp only [Ends] at h
    rw [hrun, exec_bind, h]

/-- An empty segment pushes nothing. -/
theorem Pushes.nil {b : Nat} : RunsAll L root scope code b b (fun _ => pure []) := by
  intro st
  simp only [evalRun_pure, Goes, List.reverse_nil, List.nil_append]

/-- One instruction that pushes what an evaluation of the scope's data gives. -/
theorem Pushes.single {b : Nat} {i : Instr} {m : Value → EvalM α} {p : α → List Value}
    (hi : code[b]? = some i) (hflow : i.flows)
    (h : ∀ st : MachineState, Ends (exec (simple L root i) st) st (fun x => p x ++ st.stack)
      (evalRun (m (scope.read root st.frames)) st.log)) :
    Pushes L root scope code b (b + 1) m p :=
  fun st => Goes.of_ends (runBlock_flows hi hflow) (h st)

/-- A segment followed by an instruction that takes what it pushed. -/
theorem Pushes.step {b e : Nat} {i : Instr} {m : Value → EvalM α} {p : α → List Value}
    {P : α → Prop} {f : α → EvalM β} {q : β → List Value}
    (h : Pushes L root scope code b e m p) (hP : Yields m P) (hi : code[e]? = some i)
    (hflow : i.flows)
    (hstep : ∀ x rest (st : MachineState), P x → st.stack = p x ++ rest →
      Ends (exec (simple L root i) st) st (fun y => q y ++ rest) (evalRun (f x) st.log)) :
    Pushes L root scope code b (e + 1) (fun d => m d >>= f) q := by
  intro st
  have g := h st
  rw [evalRun_bind]
  rcases hx : evalRun (m (scope.read root st.frames)) st.log with ⟨err | x, log₁⟩
  all_goals rw [hx] at g
  · exact Goes.error_of rfl g
  · simp only [Goes] at g
    exact Goes.of_exec g (Goes.of_ends (runBlock_flows hi hflow)
      (hstep x st.stack _ (hP _ _ _ _ hx) rfl)) rfl

/-- Values pushed one after the other, as a list. -/
theorem RunsAll.cons {b m e : Nat} {m₁ : Value → EvalM Value} {ms : Value → EvalM (List Value)}
    (h₁ : Runs L root scope code b m m₁) (h₂ : RunsAll L root scope code m e ms) :
    RunsAll L root scope code b e (fun d => do let v ← m₁ d; let vs ← ms d; pure (v :: vs)) := by
  have h := (Pushes.bind h₁ h₂).map (f := fun xy => xy.1 :: xy.2) (q := List.reverse)
    (fun xy => by simp)
  simp only [map_bind, map_pure] at h
  exact h

/-- A segment that runs as an evaluation pushes its one value. -/
theorem Runs.toRunsAll {b e : Nat} {m : Value → EvalM Value} (h : Runs L root scope code b e m) :
    RunsAll L root scope code b e (fun d => (fun v => [v]) <$> m d) :=
  h.map (fun _ => rfl)

/-- An instruction that takes the `n` values a segment pushed. -/
theorem RunsAll.consume {b e n : Nat} {i : Instr} {ms : Value → EvalM (List Value)}
    {f : List Value → EvalM Value} (h : RunsAll L root scope code b e ms)
    (hn : Yields ms (·.length = n)) (hi : code[e]? = some i) (hflow : i.flows)
    (hf : Consumes L root i n f) : Runs L root scope code b (e + 1) (fun d => ms d >>= f) :=
  Pushes.step h hn hi hflow fun vs rest st hlen hst => hf vs rest st hlen hst

/-- An instruction that takes the value a segment pushed. -/
theorem Runs.consume {b e : Nat} {i : Instr} {m : Value → EvalM Value}
    {f : List Value → EvalM Value} (h : Runs L root scope code b e m) (hi : code[e]? = some i)
    (hflow : i.flows) (hf : Consumes L root i 1 f) :
    Runs L root scope code b (e + 1) (fun d => m d >>= fun v => f [v]) := by
  have hn : Yields (fun d => (fun v => [v]) <$> m d) (·.length = 1) := by
    intro d log x log' hx
    rw [evalRun_map] at hx
    rcases hm : evalRun (m d) log with ⟨err | v, l⟩
    all_goals rw [hm] at hx
    · simp at hx
    · simp only [Prod.mk.injEq, Except.ok.injEq] at hx
      rw [← hx.1]
      rfl
  simpa only [bind_map_left] using h.toRunsAll.consume hn hi hflow hf

/-- An empty segment folds nothing and keeps the accumulator. -/
theorem Folds.nil {b : Nat} : Folds L root scope code b b fun acc _ => pure acc := by
  intro st acc rest hst
  obtain ⟨stack, frames, log⟩ := st
  simp only at hst
  subst hst
  rfl

/-- The tail of a fold, then more of it. -/
theorem Folds.trans {b m e : Nat} {f₁ f₂ : Value → Value → EvalM Value}
    (h₁ : Folds L root scope code b m f₁) (h₂ : Folds L root scope code m e f₂) :
    Folds L root scope code b e fun acc d => f₁ acc d >>= fun a => f₂ a d := by
  intro st acc rest hst
  have g₁ := h₁ st acc rest hst
  rw [evalRun_bind]
  rcases hx : evalRun (f₁ acc (scope.read root st.frames)) st.log with ⟨err | a, log₁⟩
  all_goals rw [hx] at g₁
  · exact Goes.error_of rfl g₁
  · simp only [Goes] at g₁
    exact Goes.of_exec g₁ (h₂ _ a rest rfl) rfl

/-- One step of a fold: an operand, then an instruction that combines it with the value
below. -/
theorem Folds.step {b p : Nat} {i : Instr} {mx : Value → EvalM Value}
    {g : List Value → EvalM Value} (h : Runs L root scope code b p mx) (hi : code[p]? = some i)
    (hflow : i.flows) (hg : Consumes L root i 2 g) :
    Folds L root scope code b (p + 1) fun acc d => mx d >>= fun v => g [acc, v] := by
  intro st acc rest hst
  have g₁ := h st
  rw [evalRun_bind]
  rcases hx : evalRun (mx (scope.read root st.frames)) st.log with ⟨err | v, log₁⟩
  all_goals rw [hx] at g₁
  · exact Goes.error_of rfl g₁
  · simp only [Goes] at g₁
    refine Goes.of_exec g₁ (Goes.of_ends (runBlock_flows hi hflow) ?_) rfl
    exact hg [acc, v] rest _ rfl (by simp [hst])

/-- A value, then the tail of a fold from it. -/
theorem Runs.fold {b p e : Nat} {m : Value → EvalM Value} {f : Value → Value → EvalM Value}
    (h : Runs L root scope code b p m) (hf : Folds L root scope code p e f) :
    Runs L root scope code b e fun d => m d >>= fun a => f a d := by
  intro st
  have g := h st
  rw [evalRun_bind]
  rcases hx : evalRun (m (scope.read root st.frames)) st.log with ⟨err | a, log₁⟩
  all_goals rw [hx] at g
  · exact Goes.error_of rfl g
  · simp only [Goes] at g
    exact Goes.of_exec g (hf _ a st.stack rfl) rfl

end Calculus

/-! ## What single instructions do -/

section Instructions

variable {L : Linked} {root : Value}

/-- The result of an operation that may fail as an evaluation. -/
def liftRun : Except RunError α → EvalM α
  | .ok a => pure a
  | .error e => throw (.run e)

/-- An instruction that pops `n` values and pushes a value made of them. -/
theorem consumes_popN {i : Instr} {n : Nat} {g : List Value → Value}
    (hi : simple L root i = (do push (g (← popN n)))) :
    Consumes L root i n (fun vs => pure (g vs)) := by
  intro vs rest st hlen hst
  subst hlen
  rw [hi, exec_bind, exec_popN hst]
  rfl

/-- An instruction that pops two values and pushes a value made of them. -/
theorem consumes_pop₂ {i : Instr} {g : Value → Value → Value}
    (hi : simple L root i = (do let b ← pop; let a ← pop; push (g a b))) :
    Consumes L root i 2 (fun vs => pure (Rule.binary g vs)) := by
  intro vs rest st hlen hst
  match vs, hlen with
  | [a, b], _ =>
    obtain ⟨stack, frames, log⟩ := st
    simp only at hst
    subst hst
    rw [hi]
    rfl

/-- An instruction that pops one value and pushes a value made of it. -/
theorem consumes_pop {i : Instr} {g : Value → Value}
    (hi : simple L root i = (do push (g (← pop)))) :
    Consumes L root i 1 (fun vs => pure (g (vs.headD .null))) := by
  intro vs rest st hlen hst
  match vs, hlen with
  | [a], _ =>
    obtain ⟨stack, frames, log⟩ := st
    simp only at hst
    subst hst
    rw [hi]
    rfl

/-- `make_array n` takes `n` values and pushes them as an array. -/
theorem consumes_makeArray (n : Nat) :
    Consumes L root (.makeArray n) n (fun vs => pure (.array vs)) :=
  consumes_popN rfl

/-- `concat n` takes `n` values and pushes them flattened one level. -/
theorem consumes_concat (n : Nat) :
    Consumes L root (.concat n) n (fun vs => pure (.array (Value.flattenOnce vs))) :=
  consumes_popN rfl

/-- `join n` takes `n` values and pushes their texts joined. -/
theorem consumes_join (n : Nat) :
    Consumes L root (.join n) n (fun vs => pure (.string (Value.joinWith "" vs))) :=
  consumes_popN rfl

/-- A routine call as an evaluation: what `callRoutine` computes once the routine is linked. -/
def routineCall (r : Routine) (args : List Value) : EvalM Value :=
  let arg (i : Nat) : Value := args.getD i .null
  match r with
  | .resolve => pure (Support.resolve (arg 0) (arg 1) (arg 2))
  | .missing =>
    match args with
    | data :: keys => pure (.array (Support.missing data keys))
    | [] => throw (.run .stackUnderflow)
  | .missingSome => pure (.array (Support.missingSome (arg 0) (arg 1) (arg 2)))
  | .truthy => pure (.bool (arg 0).truthy)
  | .substr => pure (.string (Support.substr (arg 0) (arg 1) args[2]?))
  | .merge => pure (.array (Value.flattenOnce args))
  | .log => do Rule.record (arg 0); pure (arg 0)

/-- A call of a linked routine takes its arguments and pushes the routine's result. -/
theorem consumes_callRoutine {r : Routine} (hr : r ∈ L.routines) (n : Nat) :
    Consumes L root (.callRoutine r n) n (routineCall r) := by
  intro vs rest st hlen hst
  subst hlen
  have hc : L.routines.contains r = true := List.contains_iff_mem.2 hr
  simp only [simple]
  rw [exec_bind, exec_popN hst]
  simp only [Machine.callRoutine, hc, Bool.not_true, Bool.false_eq_true, ↓reduceIte]
  cases r
  case missing =>
    cases vs with
    | nil => exact ⟨rfl, rfl⟩
    | cons d keys => rfl
  all_goals rfl

/-- An extension call takes its arguments off the stack and does what calling the extension
does in an evaluation: the call is an event, then its value or its failure. -/
theorem consumes_callOp {slot : Nat} {key : String} {op : Operation}
    (hop : L.operations[slot]? = some (key, op)) (n : Nat) :
    Consumes L root (.callOp slot n) n (Rule.callExtension key op) := by
  intro vs rest st hlen hst
  subst hlen
  simp only [simple]
  rw [exec_bind, exec_popN hst]
  simp only [hop, Rule.callExtension]
  cases op vs
  · exact ⟨rfl, rfl⟩
  · rfl

/-- `includes` takes the needle and then the haystack, as `Machine.includes` reads them. -/
theorem consumes_includes (guarded : Bool) :
    Consumes L root (.includes guarded) 2
      (fun vs => liftRun (includes guarded (vs.getD 0 .null) (vs.getD 1 .null))) := by
  intro vs rest st hlen hst
  match vs, hlen with
  | [needle, haystack], _ =>
    obtain ⟨stack, frames, log⟩ := st
    simp only at hst
    subst hst
    -- the haystack is popped first, then the needle
    simp only [List.getD_cons_zero, List.getD_cons_succ, simple]
    rw [exec_bind_of_ok _ (exec_pop rfl), exec_bind_of_ok _ (exec_pop rfl)]
    cases includes guarded needle haystack
    · exact ⟨rfl, rfl⟩
    · rfl

variable {scope : Scope} {code : List Instr} {b : Nat}

/-- `push v` runs as the constant `v`. -/
theorem runs_push {v : Value} (hi : code[b]? = some (.push v)) :
    Runs L root scope code b (b + 1) (fun _ => pure v) :=
  Pushes.single hi rfl fun _ => rfl

/-- `load` of the code's scope runs as that scope's data. -/
theorem runs_load (hi : code[b]? = some (.load scope)) :
    Runs L root scope code b (b + 1) pure := by
  refine Pushes.single hi rfl fun st => ?_
  simp only [simple, exec_bind, exec_scopeData]
  rfl

/-- `load_path` runs as the path's lookup in the data, or null. -/
theorem runs_loadPath {path : List String} (hi : code[b]? = some (.loadPath scope path)) :
    Runs L root scope code b (b + 1) (fun d => pure ((d.lookupPath path).getD .null)) := by
  refine Pushes.single hi rfl fun st => ?_
  simp only [simple, exec_bind, exec_scopeData]
  rfl

end Instructions

end Machine

end RuleMachine
