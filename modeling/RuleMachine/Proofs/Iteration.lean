import RuleMachine.Proofs.Segments

/-!
# Iteration bodies

An iteration body is a block of its own, run once per item with the item (or the reduce context)
as its frame. When the body's code runs as an evaluation `mb` (`Machine.Runs` from its first
position to its end), a body run returns what `mb` gives on the frame, and each way of running
it over items — `mapItems`, `filterItems`, `allItems`, `anyItem`, `reduceItems` — returns what
the matching list combinator gives over `mb`. `iterateValue` and `reduceValue` are then what an
iterate and a reduce instruction do with the values they pop.
-/

namespace RuleMachine

theorem filterAuxM_eq {m : Type → Type v} [Monad m] [LawfulMonad m] (p : α → m Bool)
    (xs acc : List α) :
    List.filterAuxM p xs acc = (· ++ acc) <$> List.filterAuxM p xs [] := by
  induction xs generalizing acc with
  | nil => simp [List.filterAuxM]
  | cons x xs ih =>
    simp only [List.filterAuxM, map_bind]
    congr 1
    funext b
    rw [ih, ih (cond b [x] [])]
    cases b <;> simp

/-- `filterM` tests the head first and keeps it in front of what the tail gives. -/
theorem filterM_cons_eq {m : Type → Type v} [Monad m] [LawfulMonad m] (p : α → m Bool)
    (x : α) (xs : List α) :
    (x :: xs).filterM p = (do
      let b ← p x
      let ys ← xs.filterM p
      pure (if b then x :: ys else ys)) := by
  simp only [List.filterM, List.filterAuxM, bind_assoc, pure_bind]
  congr 1
  funext b
  rw [filterAuxM_eq]
  cases b <;> simp

/-- What an iteration over `items` gives, the body evaluating as `mb`; a body's result is
tested as the machine tests it. -/
def iterateItems (kind : IterKind) (mb : Value → EvalM Value) (items : List Value) :
    EvalM Value :=
  let test (x : Value) : EvalM Bool := Value.jsTruthy <$> mb x
  match kind with
  | .map => .array <$> items.mapM mb
  | .filter => .array <$> items.filterM test
  | .all => if items.isEmpty then pure (.bool false) else .bool <$> items.allM test
  | .some => .bool <$> items.anyM test
  | .none => (fun b => .bool !b) <$> items.anyM test

/-- What an iterate instruction does with the value it pops. -/
def iterateValue (kind : IterKind) (mb : Value → EvalM Value) (guarded : Bool) :
    Value → EvalM Value
  | .array items => iterateItems kind mb items
  | other =>
    if guarded then pure kind.fallback
    else throw (.run (.typeMismatch (kind.name ++ " expects an array, got " ++ other.typeName)))

/-- What a reduce instruction does with the initial value and the source it pops. -/
def reduceValue (mb : Value → EvalM Value) (guarded withData : Bool) (initial : Option Value) :
    Value → EvalM Value
  | .array items =>
    let data := if withData then some (.array items) else none
    let step (acc : Value) (p : Value × Nat) : EvalM Value :=
      mb (Value.reduceContext acc p.1 p.2 data)
    match initial, items with
    | some acc, _ => items.zipIdx.foldlM step acc
    | none, first :: rest => (rest.zipIdx 1).foldlM step first
    | none, [] => throw (.run (.typeMismatch "reduce of empty array with no initial value"))
  | other =>
    if guarded then pure .null
    else throw (.run (.typeMismatch ("reduce expects an array, got " ++ other.typeName)))

/-- A body's scope reads the frame it is run with. -/
theorem Scope.read_cons {scope : Scope} (hs : scope ≠ .arg) (root x : Value) (frames : List Value) :
    scope.read root (x :: frames) = x := by
  cases scope <;> simp_all [Scope.read]

namespace Machine

variable {L : Linked} {root : Value}

section Returns

theorem Returns.pure (a : α) (st : MachineState) :
    Returns (exec (Pure.pure a : RunM α) st) st (evalRun (Pure.pure a : EvalM α) st.log) :=
  rfl

theorem Returns.throw (e : RunError) (st : MachineState) :
    Returns (exec (MonadExcept.throw e : RunM α) st) st
      (evalRun (MonadExcept.throw (EvalError.run e) : EvalM α) st.log) :=
  ⟨rfl, rfl⟩

/-- Returning computations compose as their evaluations do. -/
theorem Returns.bind {m : RunM α} {f : α → RunM β} {em : EvalM α} {ef : α → EvalM β}
    {st : MachineState} (h : Returns (exec m st) st (evalRun em st.log))
    (hf : ∀ a (st : MachineState), Returns (exec (f a) st) st (evalRun (ef a) st.log)) :
    Returns (exec (m >>= f) st) st (evalRun (em >>= ef) st.log) := by
  rw [exec_bind, evalRun_bind]
  rcases he : evalRun em st.log with ⟨⟨err | err⟩ | a, log⟩
  all_goals rw [he] at h
  · exact h.elim
  · obtain ⟨h₁, h₂⟩ := h
    rcases hr : exec m st with ⟨_ | _, st'⟩
    all_goals rw [hr] at h₁ h₂
    · simp_all [Returns]
    · simp at h₁
  · simp only [Returns] at h
    rw [h]
    dsimp only
    have := hf a { st with log := log }
    dsimp only at this
    rcases hb : evalRun (ef a) log with ⟨⟨err | err⟩ | b, log'⟩
    all_goals rw [hb] at this
    · exact this.elim
    · exact this
    · exact this

end Returns

section Bodies

variable {scope : Scope} {body : List Instr} {mb : Value → EvalM Value}

/-- A body run returns what the body's evaluation gives on the frame. -/
theorem returns_runBody (h : Runs L root scope body 0 body.length mb) (hs : scope ≠ .arg)
    (x : Value) (st : MachineState) :
    Returns (exec (runBody L root body x) st) st (evalRun (mb x) st.log) := by
  have g := h { st with frames := x :: st.frames }
  simp only [Scope.read_cons hs root] at g
  have henter : exec (enter x) st = (.ok (), { st with frames := x :: st.frames }) := rfl
  rw [runBody, exec_bind_of_ok _ henter]
  rcases ho : evalRun (mb x) st.log with ⟨⟨err | err⟩ | v, log⟩
  all_goals rw [ho] at g
  · exact g.elim
  · obtain ⟨st', hrun, hlog⟩ := g
    rw [exec_bind_of_error _ hrun]
    exact ⟨rfl, hlog⟩
  · simp only [Goes, runBlock_of_length_le le_rfl, exec_pure] at g
    rw [exec_bind_of_ok _ g, exec_bind_of_ok _ (exec_pop rfl)]
    rfl

variable {body : List Instr} {mb : Value → EvalM Value}
  (hb : ∀ x (st : MachineState), Returns (exec (runBody L root body x) st) st (evalRun (mb x) st.log))
include hb

theorem returns_mapItems (items : List Value) (st : MachineState) :
    Returns (exec (mapItems L root body items) st) st (evalRun (items.mapM mb) st.log) := by
  induction items generalizing st with
  | nil =>
    rw [mapItems]
    exact Returns.pure _ st
  | cons x rest ih =>
    rw [mapItems, List.mapM_cons]
    exact Returns.bind (hb x st) fun v st => Returns.bind (ih st) fun vs st => Returns.pure _ st

theorem returns_filterItems (items : List Value) (st : MachineState) :
    Returns (exec (filterItems L root body items) st) st
      (evalRun (items.filterM fun x => Value.jsTruthy <$> mb x) st.log) := by
  induction items generalizing st with
  | nil =>
    rw [filterItems]
    exact Returns.pure _ st
  | cons x rest ih =>
    rw [filterItems, filterM_cons_eq, bind_map_left]
    exact Returns.bind (hb x st) fun v st => Returns.bind (ih st) fun vs st => Returns.pure _ st

theorem returns_allItems (items : List Value) (st : MachineState) :
    Returns (exec (allItems L root body items) st) st
      (evalRun (items.allM fun x => Value.jsTruthy <$> mb x) st.log) := by
  induction items generalizing st with
  | nil =>
    rw [allItems]
    exact Returns.pure _ st
  | cons x rest ih =>
    rw [allItems, List.allM_cons, bind_map_left]
    refine Returns.bind (hb x st) fun v st => ?_
    by_cases hv : v.jsTruthy = true
    · simp only [hv, ↓reduceIte]
      exact ih st
    · simp only [hv, Bool.false_eq_true, ↓reduceIte]
      exact Returns.pure _ st

theorem returns_anyItem (items : List Value) (st : MachineState) :
    Returns (exec (anyItem L root body items) st) st
      (evalRun (items.anyM fun x => Value.jsTruthy <$> mb x) st.log) := by
  induction items generalizing st with
  | nil =>
    rw [anyItem]
    exact Returns.pure _ st
  | cons x rest ih =>
    rw [anyItem, List.anyM_cons, bind_map_left]
    refine Returns.bind (hb x st) fun v st => ?_
    by_cases hv : v.jsTruthy = true
    · simp only [hv, ↓reduceIte]
      exact Returns.pure _ st
    · simp only [hv, Bool.false_eq_true, ↓reduceIte]
      exact ih st

theorem returns_reduceItems (data : Option Value) (items : List Value) (acc : Value) (index : Nat)
    (st : MachineState) :
    Returns (exec (reduceItems L root body data items acc index) st) st
      (evalRun ((items.zipIdx index).foldlM
        (fun acc p => mb (Value.reduceContext acc p.1 p.2 data)) acc) st.log) := by
  induction items generalizing acc index st with
  | nil =>
    rw [reduceItems]
    exact Returns.pure _ st
  | cons x rest ih =>
    rw [reduceItems, List.zipIdx_cons, List.foldlM_cons]
    exact Returns.bind (hb _ st) fun acc st => ih acc (index + 1) st

/-- An iterate instruction computes what `iterateValue` gives on the value it popped. -/
theorem returns_iterateResult {kind : IterKind} {guarded : Bool} (v : Value) (st : MachineState) :
    Returns (exec (iterateResult L root kind body guarded v) st) st
      (evalRun (iterateValue kind mb guarded v) st.log) := by
  cases v
  case array items =>
    cases kind with
    | map => exact Returns.bind (returns_mapItems hb items st) fun _ _ => Returns.pure _ _
    | filter => exact Returns.bind (returns_filterItems hb items st) fun _ _ => Returns.pure _ _
    | all =>
      by_cases he : items.isEmpty = true
      · simp only [iterateResult, iterateValue, iterateItems, he, ↓reduceIte]
        exact Returns.pure _ _
      · simp only [iterateResult, iterateValue, iterateItems, he, Bool.false_eq_true, ↓reduceIte]
        exact Returns.bind (returns_allItems hb items st) fun _ _ => Returns.pure _ _
    | some => exact Returns.bind (returns_anyItem hb items st) fun _ _ => Returns.pure _ _
    | none => exact Returns.bind (returns_anyItem hb items st) fun _ _ => Returns.pure _ _
  all_goals
    cases guarded
    · exact Returns.throw _ _
    · exact Returns.pure _ _

/-- A reduce instruction computes what `reduceValue` gives on the values it popped. -/
theorem returns_reduceResult {guarded withData : Bool} (initial : Option Value) (v : Value)
    (st : MachineState) :
    Returns (exec (reduceResult L root body guarded withData initial v) st) st
      (evalRun (reduceValue mb guarded withData initial v) st.log) := by
  cases v
  case array items =>
    rcases initial with _ | acc
    · cases items with
      | nil => exact Returns.throw _ _
      | cons first rest => exact returns_reduceItems hb _ rest first 1 st
    · exact returns_reduceItems hb _ items acc 0 st
  all_goals
    cases guarded
    · exact Returns.throw _ _
    · exact Returns.pure _ _

end Bodies

section Instructions

variable {scope : Scope} {code : List Instr}

/-- The segment of an instruction that pops a value, computes a result from it, pushes the
result and goes on; `s` is the state in which it pops. -/
theorem Goes.of_pop_returns {e : Nat} {R : Value → RunM Value} {st s : MachineState}
    {v : Value} {rest : List Value} {o : Except EvalError Value × List Event}
    (hrun : exec (runBlock L root code e) st = exec (do
      let x ← pop
      let r ← R x
      push r
      runBlock L root code (e + 1)) s)
    (hst : s.stack = v :: rest) (hframes : s.frames = st.frames)
    (hR : Returns (exec (R v) { s with stack := rest }) { s with stack := rest } o) :
    Goes L root code e (e + 1) st (fun r => r :: rest) o := by
  have hpop := exec_bind_of_ok (fun x => do let r ← R x; push r; runBlock L root code (e + 1))
    (exec_pop hst)
  obtain ⟨⟨err | err⟩ | r, log⟩ := o
  · exact hR.elim
  · obtain ⟨h₁, h₂⟩ := hR
    refine ⟨(exec (R v) { s with stack := rest }).2, ?_, h₂⟩
    rw [hrun, hpop, exec_bind]
    rcases hr : exec (R v) { s with stack := rest } with ⟨_ | _, st''⟩
    · simp_all
    · simp_all
  · simp only [Returns] at hR
    simp only [Goes]
    rw [hrun, hpop, exec_bind_of_ok _ hR]
    obtain ⟨stack, frames, log'⟩ := s
    simp only at hframes
    subst hframes
    rfl

/-- An iterate instruction after the segment of its source. -/
theorem Runs.iterate {b e : Nat} {m : Value → EvalM Value} {kind : IterKind}
    {body : List Instr} {guarded : Bool} {bodyScope : Scope} {mb : Value → EvalM Value}
    (h : Runs L root scope code b e m) (hi : code[e]? = some (.iterate kind body guarded))
    (hbody : Runs L root bodyScope body 0 body.length mb) (hs : bodyScope ≠ .arg) :
    Runs L root scope code b (e + 1) (fun d => m d >>= iterateValue kind mb guarded) := by
  intro st
  have g := h st
  rw [evalRun_bind]
  rcases hx : evalRun (m (scope.read root st.frames)) st.log with ⟨err | v, log₁⟩
  all_goals rw [hx] at g
  · exact Goes.error_of rfl g
  · simp only [Goes] at g
    exact Goes.of_exec g (Goes.of_pop_returns (by rw [runBlock_iterate hi]) rfl rfl
      (returns_iterateResult (fun x st => returns_runBody hbody hs x st) v _)) rfl

/-- A reduce instruction finds the initial value on top of the source when it is seeded. -/
theorem exec_initial {seeded : Bool} {initial : Option Value} {rest : List Value}
    {st : MachineState} (hseed : initial.isSome = seeded)
    (hst : st.stack = initial.toList ++ rest) :
    exec (if seeded then (some <$> pop) else pure none) st =
      (.ok initial, { st with stack := rest }) := by
  obtain ⟨stack, frames, log⟩ := st
  simp only at hst
  subst hst hseed
  rcases initial with _ | init <;> rfl

/-- A reduce instruction after the segments of its source and of its initial value (none when
it is not seeded). -/
theorem Runs.reduce {b m e : Nat} {msrc : Value → EvalM Value}
    {minit : Value → EvalM (Option Value)} {body : List Instr} {guarded seeded withData : Bool}
    {bodyScope : Scope} {mb : Value → EvalM Value}
    (hsrc : Runs L root scope code b m msrc)
    (hinit : Pushes L root scope code m e minit Option.toList)
    (hseed : Yields minit (·.isSome = seeded))
    (hi : code[e]? = some (.reduce body guarded seeded withData))
    (hbody : Runs L root bodyScope body 0 body.length mb) (hs : bodyScope ≠ .arg) :
    Runs L root scope code b (e + 1) (fun d => do
      let src ← msrc d
      let initial ← minit d
      reduceValue mb guarded withData initial src) := by
  intro st
  have g₁ := hsrc st
  rw [evalRun_bind]
  rcases hx : evalRun (msrc (scope.read root st.frames)) st.log with ⟨err | src, log₁⟩
  all_goals rw [hx] at g₁
  · exact Goes.error_of rfl g₁
  simp only [Goes] at g₁
  refine Goes.of_exec g₁ ?_ rfl
  -- the initial value's segment starts where the source's ended
  have g₂ := hinit { st with stack := [src] ++ st.stack, log := log₁ }
  simp only at g₂ ⊢
  rw [evalRun_bind]
  rcases hy : evalRun (minit (scope.read root st.frames)) log₁ with ⟨err | initial, log₂⟩
  all_goals rw [hy] at g₂
  · exact Goes.error_of rfl g₂
  simp only [Goes] at g₂
  refine Goes.of_exec g₂
    (Goes.of_pop_returns (s := { st with stack := [src] ++ st.stack, log := log₂ }) ?_ rfl rfl
    (returns_reduceResult (fun x st => returns_runBody hbody hs x st) initial src _)) rfl
  rw [runBlock_reduce hi, exec_bind_of_ok _ (exec_initial (hseed _ _ _ _ hy) rfl)]

end Instructions

end Machine

end RuleMachine
