import RuleMachine.Proofs.Segments

/-!
# Jumps in compiled code

Compiled code jumps only forward and only in four patterns, each proved here as one step that
the proofs about whole chains repeat:

* a branch of `if`: a condition, `jump_if_false` past the branch, the branch, `jump` to the end;
* a leading operand of `and`/`or` (and a comparison of a chain): the operand, `dup`, a test
  that normalizes the copy, `jump_if_false`/`jump_if_true` to the end, `pop`;
* a literal `var` path with a default: `load_path`, `jump_if_present` past the default.

Each lemma reads the step as the evaluation that picks between the two ways on.
-/

namespace RuleMachine

/-- A path never leads to null: a null on the way or at the end is a missing path. -/
theorem Value.isNull_of_lookupPath {v w : Value} {path : List String}
    (h : v.lookupPath path = some w) : w.isNull = false := by
  induction path generalizing v with
  | nil =>
    rw [Value.lookupPath] at h
    split at h
    · simp at h
    · rename_i hv
      simp only [Option.some.injEq] at h
      subst h
      simpa using hv
  | cons s rest ih =>
    rw [Value.lookupPath] at h
    split at h
    · simp at h
    · split at h
      · exact ih h
      · simp at h

namespace Machine

variable {L : Linked} {root : Value} {code : List Instr}

section Jumps

variable {pc t : Nat} {st : MachineState} {v : Value} {rest : List Value}

theorem exec_runBlock_jump (h : code[pc]? = some (.jump t)) (hlt : pc < t) :
    exec (runBlock L root code pc) st = exec (runBlock L root code t) st := by
  rw [runBlock_jump h, if_pos hlt]

/-- `jump_if_false` pops the top and goes on at the next position when it is truthy, at its
target otherwise. -/
theorem exec_runBlock_jumpIfFalse (h : code[pc]? = some (.jumpIfFalse t)) (hlt : pc < t)
    (hst : st.stack = v :: rest) :
    exec (runBlock L root code pc) st =
      exec (runBlock L root code (if v.jsTruthy then pc + 1 else t)) { st with stack := rest } := by
  rw [runBlock_jumpIfFalse h, exec_bind_of_ok _ (exec_pop hst)]
  cases v.jsTruthy <;> simp [hlt]

/-- `jump_if_true` pops the top and goes on at its target when it is truthy, at the next
position otherwise. -/
theorem exec_runBlock_jumpIfTrue (h : code[pc]? = some (.jumpIfTrue t)) (hlt : pc < t)
    (hst : st.stack = v :: rest) :
    exec (runBlock L root code pc) st =
      exec (runBlock L root code (if v.jsTruthy then t else pc + 1)) { st with stack := rest } := by
  rw [runBlock_jumpIfTrue h, exec_bind_of_ok _ (exec_pop hst)]
  cases v.jsTruthy <;> simp [hlt]

/-- `jump_if_present` keeps a top that is not null and goes on at its target; it pops a null
and goes on at the next position. -/
theorem exec_runBlock_jumpIfPresent (h : code[pc]? = some (.jumpIfPresent t)) (hlt : pc < t)
    (hst : st.stack = v :: rest) :
    exec (runBlock L root code pc) st =
      if v.isNull then exec (runBlock L root code (pc + 1)) { st with stack := rest }
      else exec (runBlock L root code t) st := by
  rw [runBlock_jumpIfPresent h, exec_bind_of_ok _ (exec_peek hst)]
  cases hv : v.isNull
  · simp [hlt]
  · simp only [Bool.not_true, Bool.false_eq_true, ↓reduceIte]
    rw [exec_bind_of_ok _ (exec_pop hst)]

end Jumps

section Steps

variable {scope : Scope}

/-- A segment that ends on a forward jump ends at the jump's target. -/
theorem Goes.jump {b j t : Nat} {st : MachineState} {after : α → List Value}
    {o : Except EvalError α × List Event} (h : Goes L root code b j st after o)
    (hj : code[j]? = some (.jump t)) (hlt : j < t) : Goes L root code b t st after o := by
  obtain ⟨⟨err | err⟩ | x, log⟩ := o
  · exact h.elim
  · exact h
  · simp only [Goes] at h ⊢
    rw [h, exec_runBlock_jump hj hlt]

/-- A branch of an `if` chain: the condition's code up to `c`, `jump_if_false` past the
branch, the branch up to `j`, and a `jump` to the end. -/
theorem Runs.branch {pos c j stop : Nat} {mc mt mr : Value → EvalM Value}
    (hcond : Runs L root scope code pos c mc) (hjf : code[c]? = some (.jumpIfFalse (j + 1)))
    (hcj : c ≤ j) (hthen : Runs L root scope code (c + 1) j mt)
    (hj : code[j]? = some (.jump stop)) (hlt : j < stop)
    (hrest : Runs L root scope code (j + 1) stop mr) :
    Runs L root scope code pos stop
      (fun d => do let v ← mc d; if v.jsTruthy then mt d else mr d) := by
  intro st
  have g := hcond st
  rw [evalRun_bind]
  rcases hx : evalRun (mc (scope.read root st.frames)) st.log with ⟨err | v, log₁⟩
  all_goals rw [hx] at g
  · exact Goes.error_of rfl g
  simp only [Goes] at g
  refine Goes.of_exec g ?_ rfl
  -- the jump pops the condition; both ways on start from the stack the chain found
  have hpop : exec (runBlock L root code c) { st with stack := [v] ++ st.stack, log := log₁ } =
      _ := exec_runBlock_jumpIfFalse hjf (by omega) rfl
  cases hv : v.jsTruthy
  · simp only [hv, Bool.false_eq_true, ↓reduceIte] at hpop ⊢
    exact Goes.of_exec hpop (hrest _) rfl
  · simp only [hv, ↓reduceIte] at hpop ⊢
    exact Goes.of_exec hpop ((hthen _).jump hj hlt) rfl

/-- A leading operand of `and` or `or`: its code up to `p`, `dup`, a test from `p + 1` to `q`
that turns the copy into `test v`, then `jump_if_false` (for `and`) or `jump_if_true` (for
`or`) to the end, and `pop`. The chain goes on when the test says so and gives the operand
otherwise. -/
theorem Runs.shortStep {pos p q stop : Nat} {isAnd : Bool} {test : Value → Value}
    {mv mr : Value → EvalM Value} (hv : Runs L root scope code pos p mv)
    (hdup : code[p]? = some .dup)
    (htest : ∀ (st : MachineState) v rest, st.stack = v :: rest →
      exec (runBlock L root code (p + 1)) st =
        exec (runBlock L root code q) { st with stack := test v :: rest })
    (hjump : code[q]? = some (if isAnd then .jumpIfFalse stop else .jumpIfTrue stop))
    (hlt : q < stop) (hpop : code[q + 1]? = some .pop)
    (hrest : Runs L root scope code (q + 2) stop mr) :
    Runs L root scope code pos stop
      (fun d => do let v ← mv d; if (test v).jsTruthy = isAnd then mr d else pure v) := by
  intro st
  have g := hv st
  rw [evalRun_bind]
  rcases hx : evalRun (mv (scope.read root st.frames)) st.log with ⟨err | v, log₁⟩
  all_goals rw [hx] at g
  · exact Goes.error_of rfl g
  simp only [Goes] at g
  refine Goes.of_exec g ?_ rfl
  -- `dup`, then the test of the copy, then the jump that pops it
  have hd : exec (runBlock L root code p) { st with stack := [v] ++ st.stack, log := log₁ } =
      exec (runBlock L root code q)
        { st with stack := test v :: v :: st.stack, log := log₁ } := by
    rw [runBlock_flows hdup rfl, exec_bind_of_ok _ (exec_simple_dup L root rfl),
      htest _ v (v :: st.stack) rfl]
  have hp : exec (runBlock L root code (q + 1)) { st with stack := v :: st.stack, log := log₁ } =
      exec (runBlock L root code (q + 2)) { st with log := log₁ } := by
    rw [runBlock_flows hpop rfl, exec_bind_of_ok _ (exec_simple_pop L root rfl)]
  cases isAnd <;> cases ht : (test v).jsTruthy
  all_goals simp only [↓reduceIte, Bool.false_eq_true] at hjump
  · -- `or`, a falsy operand: the chain goes on
    rw [exec_runBlock_jumpIfTrue hjump hlt rfl, ht] at hd
    simp only [Bool.false_eq_true, ↓reduceIte] at hd
    simpa [ht] using Goes.of_exec (hd.trans hp) (hrest _) rfl
  · -- `or`, a truthy operand: it is the result
    rw [exec_runBlock_jumpIfTrue hjump hlt rfl, ht] at hd
    simp only [↓reduceIte] at hd
    simp only [ht, Bool.true_eq_false, ↓reduceIte, evalRun_pure, Goes]
    exact hd
  · -- `and`, a falsy operand: it is the result
    rw [exec_runBlock_jumpIfFalse hjump hlt rfl, ht] at hd
    simp only [Bool.false_eq_true, ↓reduceIte] at hd
    simp only [ht, Bool.false_eq_true, ↓reduceIte, evalRun_pure, Goes]
    exact hd
  · -- `and`, a truthy operand: the chain goes on
    rw [exec_runBlock_jumpIfFalse hjump hlt rfl, ht] at hd
    simp only [↓reduceIte] at hd
    simpa [ht] using Goes.of_exec (hd.trans hp) (hrest _) rfl

/-- A literal path with a default: `load_path`, then `jump_if_present` past the default. -/
theorem Runs.loadPathOr {b e : Nat} {path : List String} {md : Value → EvalM Value}
    (hload : code[b]? = some (.loadPath scope path))
    (hjump : code[b + 1]? = some (.jumpIfPresent e)) (hlt : b + 1 < e)
    (hdefault : Runs L root scope code (b + 2) e md) :
    Runs L root scope code b e (fun d =>
      match d.lookupPath path with
      | some v => pure v
      | none => md d) := by
  intro st
  dsimp only
  have hl : exec (runBlock L root code b) st = exec (runBlock L root code (b + 1))
      { st with stack := ((scope.read root st.frames).lookupPath path).getD .null :: st.stack } := by
    rw [runBlock_flows hload rfl, exec_bind_of_ok _ (by
      simp only [simple, exec_bind, exec_scopeData]; rfl)]
  rw [exec_runBlock_jumpIfPresent hjump hlt rfl] at hl
  cases hp : (scope.read root st.frames).lookupPath path with
  | none =>
    simp only [hp, Option.getD_none, Value.isNull, ↓reduceIte] at hl
    exact Goes.of_exec hl (hdefault _) rfl
  | some v =>
    simp only [hp, Option.getD_some, Value.isNull_of_lookupPath hp, Bool.false_eq_true,
      ↓reduceIte] at hl
    simp only [evalRun_pure, Goes]
    rw [hl]
    rfl

end Steps

end Machine

end RuleMachine
