import RuleMachine.Proofs.Simulation.Chains

/-!
# Iterations

`map`, `filter`, `all`, `none`, `some` and `reduce` run their body as a block of its own, once
per item, with the item (for `reduce`, the step's context) as the body's data. The body's code
runs as its meaning on every frame. With the analysis's promise that an unguarded source is an
array, an iteration fails only where its body does, and gives what direct evaluation gives:
`iterationOf` says what direct evaluation makes of a source value, and
`iterateValue_eq_iterationOf` that the instruction makes the same of it. A reduce body that does
not read `data` is run without it, which changes nothing (`DataFree`).
-/

namespace RuleMachine

open Machine Rule

/-! ## Failures of iterations -/

section Failures

variable {q : EvalError → Prop}

theorem Fails.mapM {f : α → EvalM β} (h : ∀ x, Fails (f x) q) :
    ∀ xs : List α, Fails (xs.mapM f) q
  | [] => by
    rw [List.mapM_nil]
    exact Fails.pure _
  | x :: xs => by
    rw [List.mapM_cons]
    exact (h x).bind_of fun _ => (Fails.mapM h xs).bind_of fun _ => Fails.pure _

theorem Fails.filterM {p : α → EvalM Bool} (h : ∀ x, Fails (p x) q) :
    ∀ xs : List α, Fails (xs.filterM p) q
  | [] => Fails.pure _
  | x :: xs => by
    rw [filterM_cons_eq]
    exact (h x).bind_of fun _ => (Fails.filterM h xs).bind_of fun _ => Fails.pure _

theorem Fails.allM {p : α → EvalM Bool} (h : ∀ x, Fails (p x) q) :
    ∀ xs : List α, Fails (xs.allM p) q
  | [] => Fails.pure _
  | x :: xs => by
    rw [List.allM_cons]
    exact (h x).bind_of fun b => by
      split
      exacts [Fails.allM h xs, Fails.pure _]

theorem Fails.anyM {p : α → EvalM Bool} (h : ∀ x, Fails (p x) q) :
    ∀ xs : List α, Fails (xs.anyM p) q
  | [] => Fails.pure _
  | x :: xs => by
    rw [List.anyM_cons]
    exact (h x).bind_of fun b => by
      split
      exacts [Fails.pure _, Fails.anyM h xs]

theorem Fails.foldlM {f : β → α → EvalM β} (h : ∀ b x, Fails (f b x) q) :
    ∀ (xs : List α) (b : β), Fails (xs.foldlM f b) q
  | [], b => Fails.pure b
  | x :: xs, b => by
    rw [List.foldlM_cons]
    exact (h b x).bind_of fun b' => Fails.foldlM h xs b'

end Failures

/-! ## What an iteration gives -/

/-- The iteration a builtin is. -/
def Builtin.iterKind? : Builtin → Option IterKind
  | .map => some .map
  | .filter => some .filter
  | .allOf => some .all
  | .noneOf => some .none
  | .someOf => some .some
  | _ => none

/-- The test compiled after an iteration's body: none for `map`, which keeps the body's values,
the condition's test for the others. -/
def iterTest (facts : Analysis) (kind : IterKind) (body : Rule) : List Instr :=
  match kind with
  | .map => []
  | _ => truthyCall facts body

/-- What direct evaluation makes of an iteration's source value, its body evaluating as `f`. -/
def iterationOf (kind : IterKind) (f : Value → EvalM Value) : Value → EvalM Value
  | .array items =>
    let test (x : Value) : EvalM Bool := Value.truthy <$> f x
    match kind with
    | .map => .array <$> items.mapM f
    | .filter => .array <$> items.filterM test
    | .all => if items.isEmpty then pure (.bool false) else .bool <$> items.allM test
    | .some => .bool <$> items.anyM test
    | .none => (fun b => .bool !b) <$> items.anyM test
  | _ => pure kind.fallback

/-- An iteration instruction makes of a value what direct evaluation does, where it is
unguarded only on arrays and its body tests as the rule's body does. -/
theorem iterateValue_eq_iterationOf {kind : IterKind} {mb f : Value → EvalM Value}
    {guarded : Bool} {v : Value} (hv : guarded = false → v.isArray = true)
    (hmap : kind = .map → mb = f)
    (htest : kind ≠ .map → ∀ x, Value.jsTruthy <$> mb x = Value.truthy <$> f x) :
    iterateValue kind mb guarded v = iterationOf kind f v := by
  cases v
  case array items =>
    cases kind with
    | map => simp only [iterateValue, iterateItems, iterationOf, hmap rfl]
    | filter => simp only [iterateValue, iterateItems, iterationOf, htest (by decide)]
    | all => simp only [iterateValue, iterateItems, iterationOf, htest (by decide)]
    | some => simp only [iterateValue, iterateItems, iterationOf, htest (by decide)]
    | none => simp only [iterateValue, iterateItems, iterationOf, htest (by decide)]
  all_goals
    cases guarded
    · exact absurd (hv rfl) (by simp [Value.isArray])
    · rfl

/-- An iteration instruction fails only where its body does, where it is unguarded only on
arrays. -/
theorem Fails.iterateValue {kind : IterKind} {mb : Value → EvalM Value} {guarded : Bool}
    {v : Value} (hmb : ∀ x, Fails (mb x) EvalError.Allowed)
    (hv : guarded = false → v.isArray = true) :
    Fails (iterateValue kind mb guarded v) EvalError.Allowed := by
  cases v
  case array items =>
    have htest : ∀ x, Fails (Value.jsTruthy <$> mb x) EvalError.Allowed := fun x => (hmb x).map
    cases kind with
    | map => exact (Fails.mapM hmb items).map
    | filter => exact (Fails.filterM htest items).map
    | all =>
      simp only [RuleMachine.iterateValue, iterateItems]
      split
      · exact Fails.pure _
      · exact (Fails.allM htest items).map
    | some => exact (Fails.anyM htest items).map
    | none => exact (Fails.anyM htest items).map
  all_goals
    cases guarded
    · exact absurd (hv rfl) (by simp [Value.isArray])
    · exact Fails.pure _

/-- `map` and `filter` give arrays, or fail. -/
theorem isArray_iterateValue {kind : IterKind} {mb : Value → EvalM Value} {guarded : Bool}
    (hk : kind = .map ∨ kind = .filter) (v : Value) :
    Gives (iterateValue kind mb guarded v) (·.isArray = true) := by
  rcases hk with rfl | rfl
  all_goals
    cases v
    case array items => exact (Gives.any _).map fun _ _ => rfl
    all_goals
      simp only [iterateValue]
      split
      · exact Gives.pure rfl
      · exact Gives.throw _

section Iterate

variable {c : Catalog} {facts : Analysis} {L : Linked} {root : Value} {N : Naming}
variable {key : String} {br : Bool}

/-- Direct evaluation of an iteration: the source, then what `iterationOf` makes of it. -/
theorem evaluate_iteration {b : Builtin} {kind : IterKind} {source body : Rule}
    (hb : c.builtin? key = some b) (hk : b.iterKind? = some kind) (d : Value) :
    (operation key [source, body] br).evaluate c d =
      source.evaluate c d >>= iterationOf kind fun x => body.evaluate c x := by
  rw [evaluate.eq_def]
  cases b <;> simp only [Builtin.iterKind?, reduceCtorEq, Option.some.injEq] at hk
  all_goals
    subst hk
    simp only [Catalog.lookup_of_builtin? hb, Builtin.arity, Builtin.exactly, Arity.admits,
      List.length_cons, List.length_nil, Nat.reduceAdd, Nat.le_refl, decide_true, Bool.and_self,
      Bool.not_true, Bool.false_eq_true, ↓reduceIte]
    refine congrArg (_ >>= ·) (funext fun v => ?_)
  -- `all` of an empty array is false: direct evaluation makes it a case of its own
  case allOf =>
    cases v
    case array items => cases items <;> simp [iterationOf, map_eq_bind_pure_comp]
    all_goals simp [iterationOf, IterKind.fallback]
  all_goals cases v <;> simp [iterationOf, IterKind.fallback, map_eq_bind_pure_comp]

/-- What the block of an iteration's body runs as, the body's code running as `m`: `m` itself
for `map`, its test value for the others. -/
def iterMeaning (facts : Analysis) (kind : IterKind) (body : Rule) (m : Value → EvalM Value) :
    Value → EvalM Value :=
  match kind with
  | .map => m
  | _ => fun x => m x >>= fun v => pure (testValue facts body v)

theorem blockSlots_iterTest (facts : Analysis) (kind : IterKind) (body : Rule) :
    blockSlots (iterTest facts kind body) = [] := by
  cases kind <;> simp [iterTest, blockSlots]

/-- The block of an iteration's body: the body's code, then its test unless it is `map`. -/
theorem runs_iterBlock {kind : IterKind} {body : Rule} {bodyCode : List Instr}
    {m : Value → EvalM Value}
    (hm : Runs L root .item (bodyCode ++ iterTest facts kind body) 0 (0 + bodyCode.length) m)
    (hr : ∀ x ∈ blockRoutines (iterTest facts kind body), x ∈ L.routines) :
    Runs L root .item (bodyCode ++ iterTest facts kind body) 0
      (bodyCode ++ iterTest facts kind body).length (iterMeaning facts kind body m) := by
  have hcode : CodeAt (bodyCode ++ iterTest facts kind body) (0 + bodyCode.length)
      (iterTest facts kind body) := CodeAt.whole.right
  cases kind
  case map => simpa [iterTest, iterMeaning] using hm
  all_goals simpa [iterTest, iterMeaning] using hm.test hcode hr

/-- The block of an iteration's body fails only where the body does, and tests as direct
evaluation of the body does. -/
theorem iterMeaning_spec (hf : facts.Within c) {kind : IterKind} {body : Rule}
    {m : Value → EvalM Value} (hmean : Meaning c facts body m) :
    (∀ x, Fails (iterMeaning facts kind body m x) EvalError.Allowed) ∧
    (body.Scalar → body.KeepsNumbers facts c →
      (kind = .map → iterMeaning facts kind body m = fun x => body.evaluate c x) ∧
      (kind ≠ .map → ∀ x, Value.jsTruthy <$> iterMeaning facts kind body m x =
        Value.truthy <$> body.evaluate c x)) := by
  refine ⟨fun x => ?_, fun hs hk => ⟨fun hmap => ?_, fun hmap x => ?_⟩⟩
  · cases kind
    case map => exact hmean.safe x
    all_goals exact (hmean.safe x).bind_of fun _ => Fails.pure _
  · subst hmap
    exact funext fun x => hmean.eval hs hk x
  · have htest : Value.jsTruthy <$> (body.evaluate c x >>= fun v => pure (testValue facts body v)) =
        Value.truthy <$> body.evaluate c x := by
      rw [map_bind, ← bind_pure_comp]
      simp only [map_pure]
      exact (jsTruthy_testValue hf hs x).bind_congr fun v hv => by rw [hv]
    cases kind
    case map => exact absurd rfl hmap
    all_goals simpa only [iterMeaning, hmean.eval hs hk x] using htest

/-- An instruction whose body is compiled code tracks as its body does. -/
theorem Tracked.nest {n n' : Naming} {body : List Instr} {i : Instr} (h : Tracked n body n')
    (hs : blockSlots [i] = blockSlots body) : Tracked n [i] n' :=
  ⟨h.grows, h.valid, fun hn s hs' => h.slots hn s (hs ▸ hs')⟩

/-- An iteration whose source's code runs as `msrc` and whose body's block runs as `mb` on every
item: the source, then the instruction, unguarded only where the analysis promises an array. -/
theorem runsAs_iterate {r source : Rule} {kind : IterKind} {scope : Scope}
    {code block sourceCode : List Instr} {base : Nat} {msrc mb : Value → EvalM Value}
    (hm : Runs L root scope code base (base + sourceCode.length) msrc)
    (hmean : Meaning c facts source msrc)
    (hfree : readsData sourceCode = false → scope = .context → DataFree msrc)
    (hi : code[base + sourceCode.length]? = some (Instr.iterate kind block (!facts.isArray source)))
    (hblock : Runs L root .item block 0 block.length mb)
    (hsafe : ∀ x, Fails (mb x) EvalError.Allowed)
    (harray : facts.isArray r = true → kind = .map ∨ kind = .filter)
    (heval : r.Scalar → r.KeepsNumbers facts c → ∀ d,
      r.evaluate c d = msrc d >>= iterateValue kind mb (!facts.isArray source)) :
    RunsAs c facts L root scope code base
      (sourceCode ++ [Instr.iterate kind block (!facts.isArray source)]) r := by
  refine ⟨_, ?_, ⟨fun d => ?_, fun h d => ?_, fun hs hk d => (heval hs hk d).symm⟩, ?_⟩
  · simpa only [List.length_append, List.length_singleton, Nat.add_assoc] using
      Runs.iterate hm hi hblock (by decide)
  · exact (hmean.safe d).bind (hmean.unguarded d) fun v hv => Fails.iterateValue hsafe hv
  · exact Gives.bind_any (isArray_iterateValue (harray h))
  · intro hread hsc acc x index src
    simp only [readsData_append, Bool.or_eq_false_iff] at hread
    simp only [hfree hread.1 hsc acc x index src]

/-- What compiling an iteration gives: the source's code, then the instruction over the block of
the body. -/
theorem compile_iteration {b : Builtin} {kind : IterKind} {args : List Rule} {scope : Scope}
    {base : Nat} {n n' : Naming} {part : List Instr}
    (hb : c.builtin? key = some b) (hk : b.iterKind? = some kind)
    (hc : ((operation key args br).compile c facts scope base).run n = .ok (part, n')) :
    ∃ source body sourceCode bodyCode n₁, args = [source, body] ∧
      (source.compile c facts scope base).run n = .ok (sourceCode, n₁) ∧
      (body.compile c facts .item 0).run n₁ = .ok (bodyCode, n') ∧
      part = sourceCode ++
        [Instr.iterate kind (bodyCode ++ iterTest facts kind body) (!facts.isArray source)] := by
  rw [compile.eq_def] at hc
  cases b <;> simp only [Builtin.iterKind?, reduceCtorEq, Option.some.injEq] at hk
  all_goals
    subst hk
    simp only [Catalog.lookup_of_builtin? hb, Builtin.arity, Builtin.exactly, Arity.admits] at hc
    obtain ⟨hadm, hc⟩ := CompileM.run_unless_throw_ok hc
    have h2 : args.length = 2 := by rw [admits_eq_false] at hadm; omega
    obtain ⟨source, body, rfl⟩ := List.length_eq_two.1 h2
    obtain ⟨sourceCode, n₁, h₁, hc⟩ := CompileM.run_bind_ok hc
    obtain ⟨bodyCode, h₂, rfl⟩ := CompileM.run_bind_pure_ok hc
    exact ⟨source, body, sourceCode, bodyCode, n₁, rfl, h₁, h₂, by simp [iterTest]⟩

/-- `map`, `filter`, `all`, `none` and `some`: the source, then the body's block over its
items, the body tested as a condition except for `map`. -/
theorem simulates_iteration (hf : facts.Within c) {b : Builtin} {kind : IterKind}
    {args : List Rule} (hb : c.builtin? key = some b) (hk : b.iterKind? = some kind)
    (ih : ∀ a ∈ args, Simulates c facts L root N a) :
    Simulates c facts L root N (.operation key args br) := by
  intro scope base n part n' hc
  obtain ⟨source, body, sourceCode, bodyCode, n₁, rfl, h₁, h₂, rfl⟩ := compile_iteration hb hk hc
  obtain ⟨t₁, hr₁⟩ := ih source (by simp) scope base n sourceCode n₁ h₁
  obtain ⟨t₂, hr₂⟩ := ih body (by simp) .item 0 n₁ bodyCode n' h₂
  refine ⟨t₁.append (t₂.nest (by simp [Instr.slots, blockSlots_iterTest])),
    fun code hcode hfits => ?_⟩
  rw [CodeAt.append, CodeAt.singleton] at hcode
  obtain ⟨msrc, hm, hmean, hfree⟩ := hr₁ code hcode.1 (hfits.left t₂.grows)
  -- the body is a block of its own, compiled last
  obtain ⟨mbody, hmb, hmeanb, -⟩ := hr₂ (bodyCode ++ iterTest facts kind body) CodeAt.whole.left
    ⟨hfits.within, fun x hx => hfits.routines x (by simp [Instr.routines, hx])⟩
  have hblock := runs_iterBlock hmb fun x hx => hfits.routines x (by simp [Instr.routines, hx])
  obtain ⟨hsafe, hbody⟩ := @iterMeaning_spec _ _ hf kind _ _ hmeanb
  refine runsAs_iterate hm hmean hfree hcode.2 hblock hsafe (fun h => ?_) fun hs hkeep d => ?_
  · have hr := hf.isArray _ h
    cases b <;> simp_all [isArray, builtinIn, Builtin.iterKind?]
  · obtain ⟨hmap, htest⟩ := hbody (hs.of_mem_args (by simp)) (hkeep.of_mem_args (by simp))
    have hsrc := hmean.eval (hs.of_mem_args (by simp)) (hkeep.of_mem_args (by simp)) d
    rw [evaluate_iteration hb hk, hsrc]
    refine (hsrc ▸ hmean.unguarded d).bind_congr fun v hv => ?_
    exact (iterateValue_eq_iterationOf hv hmap htest).symm

end Iterate

/-! ## `reduce` -/

/-- What direct evaluation makes of a reduce's source value from an initial value, its body
evaluating as `f` on each step's context. -/
def reductionOf (f : Value → EvalM Value) (initial : Option Value) : Value → EvalM Value
  | .array items =>
    let step (acc : Value) (x : Value × Nat) : EvalM Value :=
      f (Value.reduceContext acc x.1 x.2 (some (.array items)))
    match initial, items with
    | some acc, _ => items.zipIdx.foldlM step acc
    | none, first :: others => (others.zipIdx 1).foldlM step first
    | none, [] => throw (.run (.typeMismatch "reduce of empty array with no initial value"))
  | _ => pure .null

/-- The initial value of a reduce: its third argument's value, if it has one. -/
def initialOf (c : Catalog) (d : Value) : List Rule → EvalM (Option Value)
  | init :: _ => some <$> init.evaluate c d
  | [] => pure none

/-- A reduce instruction makes of a value what direct evaluation does, where it is unguarded only
on arrays and runs a body that does not read `data` without it. -/
theorem reduceValue_eq_reductionOf {mb : Value → EvalM Value} {guarded withData : Bool}
    {initial : Option Value} {v : Value} (hv : guarded = false → v.isArray = true)
    (hfree : withData = false → DataFree mb) :
    reduceValue mb guarded withData initial v = reductionOf mb initial v := by
  cases v
  case array items =>
    -- the steps see the same context, whether the data is in it or not
    have hstep (acc : Value) (p : Value × Nat) :
        mb (Value.reduceContext acc p.1 p.2 (if withData then some (.array items) else none)) =
          mb (Value.reduceContext acc p.1 p.2 (some (.array items))) := by
      cases withData
      · exact hfree rfl acc p.1 p.2 (.array items)
      · rfl
    rcases initial with _ | acc <;> rcases items with _ | ⟨first, others⟩ <;>
      simp only [reduceValue, reductionOf, hstep]
  all_goals
    cases guarded
    · exact absurd (hv rfl) (by simp [Value.isArray])
    · rfl

/-- A reduce instruction fails only where its body does, or on an empty array with no initial
value, where it is unguarded only on arrays. -/
theorem Fails.reduceValue {mb : Value → EvalM Value} {guarded withData : Bool}
    {initial : Option Value} {v : Value} (hmb : ∀ x, Fails (mb x) EvalError.Allowed)
    (hv : guarded = false → v.isArray = true) :
    Fails (reduceValue mb guarded withData initial v) EvalError.Allowed := by
  cases v
  case array items =>
    simp only [RuleMachine.reduceValue]
    split
    · exact Fails.foldlM (fun _ _ => hmb _) _ _
    · exact Fails.foldlM (fun _ _ => hmb _) _ _
    · exact Fails.throw rfl
  all_goals
    cases guarded
    · exact absurd (hv rfl) (by simp [Value.isArray])
    · exact Fails.pure _

theorem Machine.Pushes.none {L : Linked} {root : Value} {scope : Scope} {code : List Instr}
    {b : Nat} : Pushes L root scope code b b (fun _ => pure none) Option.toList := by
  intro st
  simp only [evalRun_pure, Goes, Option.toList, List.nil_append]

section Reduce

variable {c : Catalog} {facts : Analysis} {L : Linked} {root : Value} {N : Naming}
variable {key : String} {br : Bool}

/-- Direct evaluation of a reduce: the source, the initial value, then what `reductionOf` makes
of them. -/
theorem evaluate_reduce (hb : c.builtin? key = some .reduce) {source body : Rule}
    {rest : List Rule} (hlen : rest.length ≤ 1) (d : Value) :
    (operation key (source :: body :: rest) br).evaluate c d = (do
      let src ← source.evaluate c d
      let initial ← initialOf c d rest
      reductionOf (fun x => body.evaluate c x) initial src) := by
  rw [evaluate.eq_def]
  have hadm : (!(decide (2 ≤ rest.length + 1 + 1) && decide (rest.length + 1 + 1 ≤ 3))) =
      false := by
    simp only [Bool.not_eq_false', Bool.and_eq_true, decide_eq_true_eq]
    omega
  simp only [Catalog.lookup_of_builtin? hb, Builtin.arity, Arity.admits, List.length_cons, hadm,
    Bool.false_eq_true, ↓reduceIte]
  refine congrArg (_ >>= ·) (funext fun src => ?_)
  cases rest <;> cases src <;> rfl

/-- A reduce whose source's code runs as `msrc`, its initial value's as `minit` and its body's
as `mb` on every step's context: the source, the initial value, then the instruction, unguarded
only where the analysis promises an array and given the data only where the body reads it. -/
theorem runsAs_reduce {r source : Rule} {scope : Scope} {code sourceCode initCode bodyCode : List Instr}
    {base : Nat} {seeded : Bool} {msrc mb : Value → EvalM Value}
    {minit : Value → EvalM (Option Value)}
    (hm : Runs L root scope code base (base + sourceCode.length) msrc)
    (hmean : Meaning c facts source msrc)
    (hfree : readsData sourceCode = false → scope = .context → DataFree msrc)
    (hinit : Pushes L root scope code (base + sourceCode.length)
      (base + sourceCode.length + initCode.length) minit Option.toList)
    (hseed : Yields minit (·.isSome = seeded)) (hisafe : ∀ d, Fails (minit d) EvalError.Allowed)
    (hifree : readsData initCode = false → scope = .context → DataFree minit)
    (hi : code[base + sourceCode.length + initCode.length]? =
      some (Instr.reduce bodyCode (!facts.isArray source) seeded (readsData bodyCode)))
    (hbody : Runs L root .context bodyCode 0 bodyCode.length mb)
    (hbsafe : ∀ x, Fails (mb x) EvalError.Allowed)
    (hbfree : readsData bodyCode = false → DataFree mb)
    (harray : facts.isArray r = true → False)
    (heval : r.Scalar → r.KeepsNumbers facts c → ∀ d, r.evaluate c d = do
      let src ← msrc d
      let initial ← minit d
      reductionOf mb initial src) :
    RunsAs c facts L root scope code base (sourceCode ++ initCode ++
      [Instr.reduce bodyCode (!facts.isArray source) seeded (readsData bodyCode)]) r := by
  refine ⟨fun d => do
      let src ← msrc d
      let initial ← minit d
      reduceValue mb (!facts.isArray source) (readsData bodyCode) initial src,
    ?_, ⟨fun d => ?_, fun h => (harray h).elim, fun hs hk d => ?_⟩, ?_⟩
  · simpa only [List.length_append, List.length_singleton, Nat.add_assoc] using
      Runs.reduce hm hinit hseed hi hbody (by decide)
  · exact (hmean.safe d).bind (hmean.unguarded d) fun v hv =>
      (hisafe d).bind_of fun _ => Fails.reduceValue hbsafe hv
  · rw [heval hs hk d]
    refine (hmean.unguarded d).bind_congr fun v hv => ?_
    exact congrArg (minit d >>= ·) (funext fun _ => reduceValue_eq_reductionOf hv hbfree)
  · intro hread hsc acc x index src
    simp only [readsData_append, Bool.or_eq_false_iff] at hread
    simp only [hfree hread.1.1 hsc acc x index src, hifree hread.1.2 hsc acc x index src]

/-- `reduce`: the source, the initial value if there is one, then the body over the source's
items, as a block of its own that reads each step's context. -/
theorem simulates_reduce (hf : facts.Within c) {args : List Rule}
    (hb : c.builtin? key = some .reduce) (ih : ∀ a ∈ args, Simulates c facts L root N a) :
    Simulates c facts L root N (.operation key args br) := by
  intro scope base n part n' hc
  have hnot : facts.isArray (operation key args br) = true → False :=
    hf.array_absurd (by simp [isArray, builtinIn, hb])
  obtain ⟨source, body, rest, sourceCode, initCode, bodyCode, n₁, n₂, rfl, hlen, h₁, hinit, h₃, rfl⟩ :=
    compile_reduce_ok (Catalog.lookup_of_builtin? hb) hc
  obtain ⟨t₁, hr₁⟩ := ih source (by simp) scope base n sourceCode n₁ h₁
  obtain ⟨t₂, hinitRuns⟩ : Tracked n₁ initCode n₂ ∧
      (∀ code, CodeAt code (base + sourceCode.length) initCode → Fits L N n₂ initCode →
        ∃ minit, Pushes L root scope code (base + sourceCode.length)
          (base + sourceCode.length + initCode.length) minit Option.toList ∧
          Yields minit (·.isSome = (rest.length == 1)) ∧
          (∀ d, Fails (minit d) EvalError.Allowed) ∧
          ((∀ a ∈ rest, a.Scalar ∧ a.KeepsNumbers facts c) → ∀ d, minit d = initialOf c d rest) ∧
          (readsData initCode = false → scope = .context → DataFree minit)) := by
    rcases hinit with ⟨rfl, rfl, rfl⟩ | ⟨init, rfl, h₂⟩
    · exact ⟨Tracked.of_slots rfl, fun code _ _ => ⟨_, Pushes.none,
        fun _ => Gives.pure rfl, fun _ => Fails.pure _, fun _ d => rfl,
        fun _ _ _ _ _ _ => rfl⟩⟩
    · obtain ⟨t₂, hr₂⟩ := ih init (by simp) scope _ n₁ initCode n₂ h₂
      refine ⟨t₂, fun code hcode hfits => ?_⟩
      obtain ⟨m, hm, hmean, hfree⟩ := hr₂ code hcode hfits
      refine ⟨_, hm.map (f := some) (q := Option.toList) fun _ => rfl,
        fun d => (Gives.any _).map fun _ _ => rfl, fun d => (hmean.safe d).map,
        fun hall d => by rw [hmean.eval (hall init (by simp)).1 (hall init (by simp)).2 d]; rfl,
        fun hread hsc acc x index src => by simp only [hfree hread hsc acc x index src]⟩
  obtain ⟨t₃, hr₃⟩ := ih body (by simp) .context 0 n₂ bodyCode _ h₃
  refine ⟨(t₁.append t₂).append (t₃.nest (by simp [Instr.slots])), fun code hcode hfits => ?_⟩
  rw [CodeAt.append, CodeAt.append, CodeAt.singleton] at hcode
  obtain ⟨⟨hc₁, hc₂⟩, hi⟩ := hcode
  obtain ⟨msrc, hm, hmean, hfree⟩ := hr₁ code hc₁ ((hfits.left t₃.grows).left t₂.grows)
  obtain ⟨minit, hminit, hseed, hisafe, hieval, hifree⟩ :=
    hinitRuns code hc₂ ((hfits.left t₃.grows).right)
  obtain ⟨mb, hmb, hmeanb, hbfree⟩ := hr₃ bodyCode CodeAt.whole
    ⟨hfits.within, fun x hx => hfits.routines x (by simp [Instr.routines, hx])⟩
  rw [List.length_append, ← Nat.add_assoc] at hi
  refine runsAs_reduce hm hmean hfree hminit hseed hisafe hifree hi (by simpa using hmb)
    hmeanb.safe (fun h => hbfree h rfl) hnot fun hs hk d => ?_
  have hsub := subRules hs hk
  rw [evaluate_reduce hb hlen, hmean.eval (hsub source (by simp)).1 (hsub source (by simp)).2,
    hieval (fun a ha => hsub a (by simp [ha])) d,
    funext fun x => hmeanb.eval (hsub body (by simp)).1 (hsub body (by simp)).2 x]

end Reduce

end RuleMachine
