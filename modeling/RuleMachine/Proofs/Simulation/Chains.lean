import RuleMachine.Proofs.Simulation.Data

/-!
# Conditions, connectives and comparison chains

The operators whose code jumps: `if`, `and`, `or` and the comparisons of three operands, and
with them `!` and `!!`, which test a value as the jumps do. A jump tests JavaScript
truthiness, which differs from a rule's truthiness on arrays only: compiled code therefore
turns a condition into the boolean of its truthiness (`call truthy/1`) unless the analysis
calls it a non-array. `jsTruthy_testValue` says that both ways give the rule's truthiness;
each chain is then proved by recursion on its operands, one `Runs.branch` or
`Runs.shortStep` per step.
-/

namespace RuleMachine

open Machine Rule

/-! ## Tests of truthiness -/

/-- What the code of a condition leaves for a jump to test: the boolean of its truthiness where
the analysis cannot rule out an array, the value itself otherwise. -/
def testValue (facts : Analysis) (r : Rule) (v : Value) : Value :=
  if facts.needsTruthy r then .bool v.truthy else v

@[simp] theorem blockSlots_truthyCall (facts : Analysis) (r : Rule) :
    blockSlots (truthyCall facts r) = [] := by
  unfold truthyCall
  split <;> rfl

@[simp] theorem readsData_truthyCall (facts : Analysis) (r : Rule) :
    readsData (truthyCall facts r) = false := by
  unfold truthyCall
  split <;> rfl

section Tests

variable {c : Catalog} {facts : Analysis} {L : Linked} {root : Value} {N : Naming}

/-- A jump after the code of a condition of scalars tests the rule's truthiness of its value:
the boolean made of it, or the value itself where it is not an array. -/
theorem jsTruthy_testValue (hf : facts.Within c) {r : Rule} (hs : r.Scalar) (d : Value) :
    Gives (r.evaluate c d) fun v => (testValue facts r v).jsTruthy = v.truthy := by
  unfold testValue Analysis.needsTruthy
  cases h : facts.isNonArray r
  · exact (Gives.any _).mono fun v _ => rfl
  · exact (isNonArray_sound hs (hf.isNonArray r h) d).mono fun v hv => by
      simp [Value.truthy_eq_jsTruthy hv]

variable {scope : Scope} {code : List Instr}

/-- A run, then code that replaces the value on top of the stack by `g` of it. -/
theorem Machine.Runs.replaceTop {b p q : Nat} {m : Value → EvalM Value} {g : Value → Value}
    (h : Runs L root scope code b p m)
    (hx : ∀ (st : MachineState) v rest, st.stack = v :: rest →
      exec (runBlock L root code p) st =
        exec (runBlock L root code q) { st with stack := g v :: rest }) :
    Runs L root scope code b q fun d => m d >>= fun v => pure (g v) := by
  intro st
  have g₁ := h st
  rw [evalRun_bind]
  rcases hm : evalRun (m (scope.read root st.frames)) st.log with ⟨err | v, log₁⟩
  all_goals rw [hm] at g₁
  · exact Goes.error_of rfl g₁
  · simp only [Goes] at g₁
    simp only [evalRun_pure, Goes]
    rw [g₁, hx _ v st.stack rfl]
    rfl

/-- `call truthy/1` where the analysis asks for it: the value on top becomes its test value. -/
theorem exec_truthyCall {r : Rule} {p : Nat} (hcode : CodeAt code p (truthyCall facts r))
    (hr : ∀ x ∈ blockRoutines (truthyCall facts r), x ∈ L.routines) (st : MachineState)
    (v : Value) (rest : List Value) (hst : st.stack = v :: rest) :
    exec (runBlock L root code p) st =
      exec (runBlock L root code (p + (truthyCall facts r).length))
        { st with stack := testValue facts r v :: rest } := by
  unfold testValue
  unfold truthyCall at hcode hr ⊢
  cases hn : facts.needsTruthy r
  · simp only [Bool.false_eq_true, ↓reduceIte, List.length_nil, Nat.add_zero]
    obtain ⟨stack, frames, log⟩ := st
    simp only at hst
    subst hst
    rfl
  · simp only [hn, ↓reduceIte] at hcode hr ⊢
    have hcall : exec (simple L root (.callRoutine .truthy 1)) st =
        (.ok (), { st with stack := .bool v.truthy :: rest }) :=
      consumes_callRoutine (hr .truthy (by simp [blockRoutines, Instr.routines])) 1 [v] rest st
        rfl hst
    rw [runBlock_flows (CodeAt.singleton.1 hcode) rfl, exec_bind_of_ok _ hcall]
    rfl

/-- The code of a condition: its value as the test value. -/
theorem Machine.Runs.test {b p : Nat} {r : Rule} {m : Value → EvalM Value}
    (h : Runs L root scope code b p m) (hcode : CodeAt code p (truthyCall facts r))
    (hr : ∀ x ∈ blockRoutines (truthyCall facts r), x ∈ L.routines) :
    Runs L root scope code b (p + (truthyCall facts r).length)
      fun d => m d >>= fun v => pure (testValue facts r v) :=
  h.replaceTop (exec_truthyCall hcode hr)

end Tests

/-! ## `!` and `!!` -/

section Negations

variable {c : Catalog} {facts : Analysis} {L : Linked} {root : Value} {N : Naming}
variable {key : String} {args : List Rule} {br : Bool}

/-- `!`: the operand, its test, then `not`. -/
theorem simulates_not (hf : facts.Within c) (hb : c.builtin? key = some .not)
    (ih : ∀ a ∈ args, Simulates c facts L root N a) :
    Simulates c facts L root N (.operation key args br) := by
  intro scope base n part n' hc
  have hadm := compile_admits (Catalog.lookup_of_builtin? hb) rfl hc
  obtain ⟨operand, code₁, rfl, h₁, rfl⟩ := compile_not_ok (Catalog.lookup_of_builtin? hb) hc
  obtain ⟨t₁, hr₁⟩ := ih operand (by simp) scope base n code₁ _ h₁
  refine ⟨(t₁.append (Tracked.of_slots (blockSlots_truthyCall facts operand))).append
    (Tracked.of_slots rfl), fun code hcode hfits => ?_⟩
  rw [CodeAt.append, CodeAt.append, CodeAt.singleton] at hcode
  obtain ⟨⟨hc₁, hct⟩, hi⟩ := hcode
  obtain ⟨m, hm, hmean, hfree⟩ :=
    hr₁ code hc₁ (hfits.part (List.prefix_refl _) fun x hx => by simp [blockRoutines, hx])
  have htest := hm.test hct fun x hx => hfits.routines x (by simp [hx])
  rw [List.length_append, ← Nat.add_assoc] at hi
  have hrun := htest.consume hi rfl (consumes_pop rfl)
  have hend : base + (code₁ ++ truthyCall facts operand ++ [Instr.not]).length =
      base + code₁.length + (truthyCall facts operand).length + 1 := by
    simp only [List.length_append, List.length_singleton]
    omega
  refine ⟨_, by rw [hend]; exact hrun, ⟨fun d => ?_,
    hf.array_absurd (by simp [isArray, builtinIn, hb]), fun hs hk d => ?_⟩, ?_⟩
  · exact ((hmean.safe d).bind_of fun _ => Fails.pure _).bind_of fun _ => Fails.pure _
  · rw [hmean.eval (hs.of_mem_args (by simp)) (hk.of_mem_args (by simp)),
      evaluate.eq_def c d (operation key [operand] br)]
    simp only [Catalog.lookup_of_builtin? hb, Builtin.arity, hadm, Bool.not_true,
      Bool.false_eq_true, ↓reduceIte, bind_assoc, pure_bind, List.headD_cons]
    exact (jsTruthy_testValue hf (hs.of_mem_args (by simp)) d).bind_congr fun v hv => by rw [hv]
  · intro hread hsc acc x index src
    simp only [readsData_append, Bool.or_eq_false_iff] at hread
    simp only [hfree hread.1.1 hsc acc x index src]

/-- `!!`: the operand, then the boolean of its truthiness, by the routine where the analysis
cannot rule out an array. -/
theorem simulates_notNot (hf : facts.Within c) (hb : c.builtin? key = some .notNot)
    (ih : ∀ a ∈ args, Simulates c facts L root N a) :
    Simulates c facts L root N (.operation key args br) := by
  intro scope base n part n' hc
  have hadm := compile_admits (Catalog.lookup_of_builtin? hb) rfl hc
  obtain ⟨operand, code₁, rfl, h₁, rfl⟩ := compile_notNot_ok (Catalog.lookup_of_builtin? hb) hc
  obtain ⟨t₁, hr₁⟩ := ih operand (by simp) scope base n code₁ _ h₁
  have hone : (if facts.needsTruthy operand then [Instr.callRoutine .truthy 1] else [.toBool]) =
      [if facts.needsTruthy operand then .callRoutine .truthy 1 else .toBool] := by
    split <;> rfl
  rw [hone]
  refine ⟨t₁.append (Tracked.of_slots (by split <;> rfl)), fun code hcode hfits => ?_⟩
  rw [CodeAt.append, CodeAt.singleton] at hcode
  obtain ⟨m, hm, hmean, hfree⟩ := hr₁ code hcode.1 (hfits.left (List.prefix_refl _))
  have hcons : Consumes L root (if facts.needsTruthy operand then .callRoutine .truthy 1 else .toBool)
      1 fun vs => pure (.bool (testValue facts operand (vs.headD .null)).jsTruthy) := by
    unfold testValue
    cases hn : facts.needsTruthy operand
    · simp only [Bool.false_eq_true, ↓reduceIte]
      exact consumes_pop (g := fun v => .bool v.jsTruthy) rfl
    · simp only [↓reduceIte]
      refine (consumes_callRoutine (hfits.routines .truthy (by simp [hn, Instr.routines])) 1).congr
        fun vs hvs => ?_
      obtain ⟨v, rfl⟩ := List.length_eq_one_iff.1 hvs
      rfl
  have hrun := hm.consume hcode.2 (by split <;> rfl) hcons
  refine ⟨_, by simpa only [List.length_append, List.length_singleton, Nat.add_assoc] using hrun,
    ⟨fun d => (hmean.safe d).bind_of fun _ => Fails.pure _,
      hf.array_absurd (by simp [isArray, builtinIn, hb]), fun hs hk d => ?_⟩, ?_⟩
  · rw [hmean.eval (hs.of_mem_args (by simp)) (hk.of_mem_args (by simp)),
      evaluate.eq_def c d (operation key [operand] br)]
    simp only [Catalog.lookup_of_builtin? hb, Builtin.arity, hadm, Bool.not_true,
      Bool.false_eq_true, ↓reduceIte, List.headD_cons]
    exact (jsTruthy_testValue hf (hs.of_mem_args (by simp)) d).bind_congr fun v hv => by rw [hv]
  · intro hread hsc acc x index src
    simp only [readsData_append, Bool.or_eq_false_iff] at hread
    simp only [hfree hread.1 hsc acc x index src]

end Negations

/-! ## `and` and `or` -/

theorem CodeAt.pair {code : List Instr} {b : Nat} {i j : Instr} :
    CodeAt code b [i, j] ↔ code[b]? = some i ∧ code[b + 1]? = some j := by
  rw [show [i, j] = [i] ++ [j] from rfl, CodeAt.append, CodeAt.singleton, CodeAt.singleton]
  rfl

/-- The code of `and` (`isAnd`) or `or` whose jumps go to `stop`: each leading operand kept,
tested and dropped, then the last. -/
def shortCode (isAnd : Bool) (stop : Nat) (parts : List (List Instr)) (last : List Instr) :
    List Instr :=
  (parts.map fun p => p ++ [if isAnd then .jumpIfFalse stop else .jumpIfTrue stop, .pop]).flatten ++
    last

theorem assembleShort_eq (isAnd : Bool) (base : Nat) (parts : List (List Instr))
    (last : List Instr) :
    assembleShort isAnd base parts last =
      shortCode isAnd (base + (parts.map (·.length + 2)).sum + last.length) parts last :=
  rfl

section Short

variable {isAnd : Bool} {stop : Nat} {parts : List (List Instr)} {last : List Instr}

@[simp] theorem shortCode_nil : shortCode isAnd stop [] last = last :=
  rfl

theorem shortCode_cons (p : List Instr) :
    shortCode isAnd stop (p :: parts) last =
      p ++ [if isAnd then Instr.jumpIfFalse stop else .jumpIfTrue stop, .pop] ++
        shortCode isAnd stop parts last := by
  simp [shortCode]

theorem length_shortCode :
    (shortCode isAnd stop parts last).length = (parts.map (·.length + 2)).sum + last.length := by
  induction parts with
  | nil => simp
  | cons p parts ih =>
    simp only [shortCode_cons, List.length_append, ih, List.map_cons, List.sum_cons,
      List.length_cons, List.length_nil]
    omega

end Short

section Connectives

variable {c : Catalog} {facts : Analysis} {L : Linked} {root : Value} {N : Naming}

/-- The connective `isAnd` chooses: `and` or `or`. -/
def connective (c : Catalog) (isAnd : Bool) (d : Value) (args : List Rule) : EvalM Value :=
  if isAnd then evaluateAnd c d args else evaluateOr c d args

/-- A leading operand of a connective: the chain goes on where it does not decide. -/
theorem connective_cons (hf : facts.Within c) (isAnd : Bool) {r : Rule} (hs : r.Scalar)
    {rest : List Rule} (hrest : rest ≠ []) (d : Value) :
    connective c isAnd d (r :: rest) = r.evaluate c d >>= fun v =>
      if (testValue facts r v).jsTruthy = isAnd then connective c isAnd d rest else pure v := by
  unfold connective
  cases isAnd
  · simp only [Bool.false_eq_true, ↓reduceIte]
    rw [evaluateOr.eq_3 _ _ _ _ hrest]
    refine ((jsTruthy_testValue hf hs d).bind_congr fun v hv => ?_).symm
    rw [hv]
    cases v.truthy <;> rfl
  · simp only [↓reduceIte]
    rw [evaluateAnd.eq_3 _ _ _ _ hrest]
    refine ((jsTruthy_testValue hf hs d).bind_congr fun v hv => ?_).symm
    rw [hv]

/-- The operands of `and` (`isAnd`) or `or`, placed with their jumps to `stop`, run as the
connective: the first operand that decides it, else the last; null for none. -/
theorem simulatesShort (hf : facts.Within c) (isAnd : Bool) :
    ∀ {args : List Rule}, (∀ a ∈ args, Simulates c facts L root N a) →
    ∀ scope base n parts last n',
      (compileShort c facts scope base args).run n = .ok ((parts, last), n') →
    ∀ stop, Tracked n (shortCode isAnd stop parts last) n' ∧
      ∀ code, CodeAt code base (shortCode isAnd stop parts last) →
        base + (shortCode isAnd stop parts last).length = stop →
        Fits L N n' (shortCode isAnd stop parts last) →
        ∃ m, Runs L root scope code base stop m ∧ (∀ d, Fails (m d) EvalError.Allowed) ∧
          ((∀ a ∈ args, a.Scalar ∧ a.KeepsNumbers facts c) →
            ∀ d, m d = connective c isAnd d args) ∧
          (readsData (shortCode isAnd stop parts last) = false → scope = .context → DataFree m)
  | [], _, scope, base, n, parts, last, n', hc, stop => by
    rw [compileShort] at hc
    obtain ⟨hpl, rfl⟩ := CompileM.run_pure_ok hc
    obtain ⟨rfl, rfl⟩ := Prod.mk.inj hpl
    refine ⟨Tracked.of_slots rfl, fun code hcode hlen _ => ⟨fun _ => pure .null, ?_,
      fun _ => Fails.pure _, fun _ d => ?_, fun _ _ _ _ _ _ => rfl⟩⟩
    · rw [← hlen]
      exact runs_push (CodeAt.singleton.1 hcode)
    · unfold connective
      cases isAnd <;> simp [evaluateAnd, evaluateOr]
  | [r], ih, scope, base, n, parts, last, n', hc, stop => by
    rw [compileShort] at hc
    obtain ⟨code₁, n₁, h₁, hc⟩ := CompileM.run_bind_ok hc
    obtain ⟨hpl, rfl⟩ := CompileM.run_pure_ok hc
    obtain ⟨rfl, rfl⟩ := Prod.mk.inj hpl
    obtain ⟨t₁, hr₁⟩ := ih r (by simp) scope base n _ _ h₁
    refine ⟨t₁, fun code hcode hlen hfits => ?_⟩
    obtain ⟨m, hm, hmean, hfree⟩ := hr₁ code hcode hfits
    refine ⟨m, hlen ▸ hm, hmean.safe, fun hall d => ?_, hfree⟩
    rw [hmean.eval (hall r (by simp)).1 (hall r (by simp)).2 d]
    unfold connective
    cases isAnd <;> simp [evaluateAnd, evaluateOr]
  | r :: s :: rest, ih, scope, base, n, parts, last, n', hc, stop => by
    rw [compileShort.eq_3 _ _ _ _ _ _ (List.cons_ne_nil s rest)] at hc
    obtain ⟨code₁, n₁, h₁, hc⟩ := CompileM.run_bind_ok hc
    obtain ⟨⟨parts', last'⟩, n₂, h₂, hc⟩ := CompileM.run_bind_ok hc
    obtain ⟨hpl, rfl⟩ := CompileM.run_pure_ok hc
    obtain ⟨rfl, rfl⟩ := Prod.mk.inj hpl
    obtain ⟨t₁, hr₁⟩ := ih r (by simp) scope base n code₁ n₁ h₁
    obtain ⟨t₂, hr₂⟩ := simulatesShort hf isAnd (fun a ha => ih a (List.mem_cons_of_mem r ha))
      scope _ n₁ _ _ _ h₂ stop
    rw [shortCode_cons]
    refine ⟨(((t₁.append (Tracked.of_slots rfl)).append
      (Tracked.of_slots (blockSlots_truthyCall facts r))).append
      (Tracked.of_slots (by cases isAnd <;> rfl))).append t₂, fun code hcode hlen hfits => ?_⟩
    rw [CodeAt.append, CodeAt.append, CodeAt.append, CodeAt.append, CodeAt.singleton,
      CodeAt.pair] at hcode
    obtain ⟨⟨⟨⟨hc₁, hdup⟩, htc⟩, hjump, hpop⟩, hrest⟩ := hcode
    have e₁ : base + (code₁ ++ [Instr.dup]).length = base + code₁.length + 1 := by simp; omega
    have e₂ : base + (code₁ ++ [Instr.dup] ++ truthyCall facts r).length =
        base + code₁.length + 1 + (truthyCall facts r).length := by simp; omega
    have e₃ : base + (code₁ ++ [Instr.dup] ++ truthyCall facts r ++
        [if isAnd then Instr.jumpIfFalse stop else .jumpIfTrue stop, .pop]).length =
        base + (code₁ ++ [Instr.dup] ++ truthyCall facts r).length + 2 := by simp; omega
    rw [e₁] at htc
    rw [e₂] at hjump hpop
    rw [e₃] at hrest
    have hlen' := hlen
    simp only [List.length_append, List.length_cons, List.length_nil] at hlen'
    have hend : base + (code₁ ++ [Instr.dup] ++ truthyCall facts r).length + 2 +
        (shortCode isAnd stop parts' last).length = stop := by
      simp only [List.length_append, List.length_cons, List.length_nil]
      omega
    obtain ⟨mv, hmv, hmean, hfree⟩ :=
      hr₁ code hc₁ (hfits.part t₂.grows fun x hx => by simp [blockRoutines, hx])
    obtain ⟨mr, hmr, hsafe, heval, hfreer⟩ := hr₂ code hrest hend hfits.right
    rw [e₂] at hmr
    have hrun := Runs.shortStep hmv hdup
      (exec_truthyCall htc fun x hx => hfits.routines x (by simp [blockRoutines, hx])) hjump
      (by omega) hpop hmr
    refine ⟨_, hrun, fun d => ?_, fun hall d => ?_, ?_⟩
    · exact (hmean.safe d).bind_of fun v => by split; exacts [hsafe d, Fails.pure _]
    · have hr := hall r (by simp)
      rw [hmean.eval hr.1 hr.2 d, connective_cons hf isAnd hr.1 (List.cons_ne_nil s rest) d]
      simp only [heval fun a ha => hall a (List.mem_cons_of_mem r ha)]
    · intro hread hsc acc x index src
      simp only [readsData_append, Bool.or_eq_false_iff] at hread
      simp only [hfree hread.1.1.1.1 hsc acc x index src, hfreer hread.2 hsc acc x index src]

variable {key : String} {args : List Rule} {br : Bool}

/-- Which connective a builtin is: `and` or `or`. -/
def Builtin.connective? : Builtin → Option Bool
  | .and => some true
  | .or => some false
  | _ => none

/-- `and` and `or`: null for no operand; else each leading operand kept, tested and dropped
where it does not decide, then the last. -/
theorem simulates_connective (hf : facts.Within c) {b : Builtin} {isAnd : Bool}
    (hb : c.builtin? key = some b) (hkind : b.connective? = some isAnd)
    (ih : ∀ a ∈ args, Simulates c facts L root N a) :
    Simulates c facts L root N (.operation key args br) := by
  intro scope base n part n' hc
  have hnot : (operation key args br).isArray c = false := by
    cases b <;> simp_all [isArray, builtinIn, Builtin.connective?]
  have heval : ∀ d, (operation key args br).evaluate c d = connective c isAnd d args := by
    intro d
    rw [evaluate.eq_def]
    cases b <;> simp only [Builtin.connective?, reduceCtorEq, Option.some.injEq] at hkind
    all_goals
      subst hkind
      simp only [Catalog.lookup_of_builtin? hb, Builtin.arity, connective, ↓reduceIte,
        Bool.false_eq_true]
  have hc' : (if args.isEmpty then pure [Instr.push .null] else do
      let code ← compileShort c facts scope base args
      pure (assembleShort isAnd base code.1 code.2) : CompileM (List Instr)).run n =
        .ok (part, n') := by
    rw [compile.eq_def] at hc
    cases b <;> simp only [Builtin.connective?, reduceCtorEq, Option.some.injEq] at hkind
    all_goals
      subst hkind
      simpa only [Catalog.lookup_of_builtin? hb, Builtin.arity] using hc
  split at hc'
  · rename_i hempty
    rw [List.isEmpty_iff] at hempty
    subst hempty
    obtain ⟨rfl, rfl⟩ := CompileM.run_pure_ok hc'
    refine ⟨Tracked.of_slots rfl, fun code hcode _ => runsAs_push hcode (hf.array_absurd hnot)
      fun _ _ d => ?_⟩
    rw [heval]
    unfold connective
    cases isAnd <;> simp [evaluateAnd, evaluateOr]
  · obtain ⟨⟨parts, last⟩, n₁, h₁, hc'⟩ := CompileM.run_bind_ok hc'
    dsimp only at hc'
    obtain ⟨rfl, rfl⟩ := CompileM.run_pure_ok hc'
    rw [assembleShort_eq]
    obtain ⟨ht, hr⟩ := simulatesShort hf isAnd ih scope base n parts last _ h₁ _
    refine ⟨ht, fun code hcode hfits => ?_⟩
    obtain ⟨m, hm, hsafe, heval', hfree⟩ :=
      hr code hcode (by rw [length_shortCode]; omega) hfits
    refine ⟨m, by rwa [length_shortCode, ← Nat.add_assoc], ⟨hsafe, hf.array_absurd hnot,
      fun hs hk d => by rw [heval' (subRules hs hk) d, heval]⟩, hfree⟩

end Connectives

/-! ## `if` -/

theorem assembleIf_eq (base : Nat) (pairs : List (List Instr × List Instr)) (last : List Instr) :
    assembleIf base pairs last = assembleIf.go last
      (base + ((pairs.map fun (cc, tc) => cc.length + tc.length + 2).sum + last.length)) base
      pairs :=
  rfl

section IfCode

variable {last : List Instr} {stop pos : Nat} {pairs : List (List Instr × List Instr)}

theorem assembleIf_go_cons (cc tc : List Instr) :
    assembleIf.go last stop pos ((cc, tc) :: pairs) =
      cc ++ [Instr.jumpIfFalse (pos + cc.length + tc.length + 2)] ++ tc ++ [Instr.jump stop] ++
        assembleIf.go last stop (pos + cc.length + tc.length + 2) pairs := by
  rw [assembleIf.go]

theorem length_assembleIf_go :
    (assembleIf.go last stop pos pairs).length =
      (pairs.map fun (cc, tc) => cc.length + tc.length + 2).sum + last.length := by
  induction pairs generalizing pos with
  | nil => simp [assembleIf.go]
  | cons pair pairs ih =>
    obtain ⟨cc, tc⟩ := pair
    simp only [assembleIf_go_cons, List.length_append, List.length_singleton, ih, List.map_cons,
      List.sum_cons]
    omega

end IfCode

section Branches

variable {c : Catalog} {facts : Analysis} {L : Linked} {root : Value} {N : Naming}

/-- The pairs of an `if` chain and its last branch, placed with their jumps to `stop`, run as
the chain: the branch after the first truthy condition, else the argument left over, else
null. -/
theorem simulatesBranches (hf : facts.Within c) :
    ∀ {args : List Rule}, (∀ a ∈ args, Simulates c facts L root N a) →
    ∀ scope base n pairs last n',
      (compileBranches c facts scope base args).run n = .ok ((pairs, last), n') →
    ∀ stop, Tracked n (assembleIf.go last stop base pairs) n' ∧
      ∀ code, CodeAt code base (assembleIf.go last stop base pairs) →
        base + (assembleIf.go last stop base pairs).length = stop →
        Fits L N n' (assembleIf.go last stop base pairs) →
        ∃ m, Runs L root scope code base stop m ∧ (∀ d, Fails (m d) EvalError.Allowed) ∧
          ((∀ a ∈ args, a.Scalar ∧ a.KeepsNumbers facts c) →
            ∀ d, m d = evaluateChain c d args) ∧
          (readsData (assembleIf.go last stop base pairs) = false → scope = .context →
            DataFree m)
  | [], _, scope, base, n, pairs, last, n', hc, stop => by
    rw [compileBranches] at hc
    obtain ⟨hpl, rfl⟩ := CompileM.run_pure_ok hc
    obtain ⟨rfl, rfl⟩ := Prod.mk.inj hpl
    refine ⟨Tracked.of_slots rfl, fun code hcode hlen _ => ⟨fun _ => pure .null, ?_,
      fun _ => Fails.pure _, fun _ d => by rw [evaluateChain], fun _ _ _ _ _ _ => rfl⟩⟩
    rw [← hlen]
    exact runs_push (CodeAt.singleton.1 hcode)
  | [otherwise], ih, scope, base, n, pairs, last, n', hc, stop => by
    rw [compileBranches] at hc
    obtain ⟨code₁, n₁, h₁, hc⟩ := CompileM.run_bind_ok hc
    obtain ⟨hpl, rfl⟩ := CompileM.run_pure_ok hc
    obtain ⟨rfl, rfl⟩ := Prod.mk.inj hpl
    obtain ⟨t₁, hr₁⟩ := ih otherwise (by simp) scope base n _ _ h₁
    refine ⟨t₁, fun code hcode hlen hfits => ?_⟩
    obtain ⟨m, hm, hmean, hfree⟩ := hr₁ code hcode hfits
    refine ⟨m, hlen ▸ hm, hmean.safe, fun hall d => ?_, hfree⟩
    rw [hmean.eval (hall otherwise (by simp)).1 (hall otherwise (by simp)).2 d, evaluateChain]
  | cond :: thenBranch :: rest, ih, scope, base, n, pairs, last, n', hc, stop => by
    rw [compileBranches.eq_3] at hc
    obtain ⟨code₁, n₁, h₁, hc⟩ := CompileM.run_bind_ok hc
    obtain ⟨code₂, n₂, h₂, hc⟩ := CompileM.run_bind_ok hc
    obtain ⟨⟨pairs', last'⟩, n₃, h₃, hc⟩ := CompileM.run_bind_ok hc
    obtain ⟨hpl, rfl⟩ := CompileM.run_pure_ok hc
    obtain ⟨rfl, rfl⟩ := Prod.mk.inj hpl
    obtain ⟨t₁, hr₁⟩ := ih cond (by simp) scope base n code₁ n₁ h₁
    obtain ⟨t₂, hr₂⟩ := ih thenBranch (by simp) scope _ n₁ code₂ n₂ h₂
    obtain ⟨t₃, hr₃⟩ := simulatesBranches hf (fun a ha => ih a (by simp [ha]))
      scope _ n₂ _ _ _ h₃ stop
    rw [assembleIf_go_cons]
    refine ⟨((((t₁.append (Tracked.of_slots (blockSlots_truthyCall facts cond))).append
      (Tracked.of_slots rfl)).append t₂).append (Tracked.of_slots rfl)).append t₃,
      fun code hcode hlen hfits => ?_⟩
    rw [CodeAt.append, CodeAt.append, CodeAt.append, CodeAt.append, CodeAt.append,
      CodeAt.singleton, CodeAt.singleton] at hcode
    obtain ⟨⟨⟨⟨⟨hc₁, hct⟩, hjf⟩, hc₂⟩, hj⟩, hrest⟩ := hcode
    have e₁ : base + (code₁ ++ truthyCall facts cond ++
        [Instr.jumpIfFalse (base + (code₁ ++ truthyCall facts cond).length + code₂.length + 2)]).length =
        base + (code₁ ++ truthyCall facts cond).length + 1 := by simp; omega
    have e₂ : base + (code₁ ++ truthyCall facts cond ++
        [Instr.jumpIfFalse (base + (code₁ ++ truthyCall facts cond).length + code₂.length + 2)] ++
          code₂).length =
        base + (code₁ ++ truthyCall facts cond).length + 1 + code₂.length := by simp; omega
    have e₃ : base + (code₁ ++ truthyCall facts cond ++
        [Instr.jumpIfFalse (base + (code₁ ++ truthyCall facts cond).length + code₂.length + 2)] ++
          code₂ ++ [Instr.jump stop]).length =
        base + (code₁ ++ truthyCall facts cond).length + code₂.length + 2 := by simp; omega
    have e₄ : base + (code₁ ++ truthyCall facts cond).length + code₂.length + 2 =
        base + (code₁ ++ truthyCall facts cond).length + 1 + code₂.length + 1 := by omega
    rw [e₁] at hc₂
    rw [e₂] at hj
    rw [e₃] at hrest
    have hlen' := hlen
    simp only [List.length_append, List.length_singleton] at hlen'
    have hend : base + (code₁ ++ truthyCall facts cond).length + code₂.length + 2 +
        (assembleIf.go last stop (base + (code₁ ++ truthyCall facts cond).length + code₂.length + 2)
          pairs').length = stop := by
      simp only [List.length_append]
      omega
    obtain ⟨mc, hmc, hmeanc, hfreec⟩ :=
      hr₁ code hc₁ (hfits.part (t₂.grows.trans t₃.grows) fun x hx => by
        simp [blockRoutines, hx])
    obtain ⟨mt, hmt, hmeant, hfreet⟩ :=
      hr₂ code hc₂ (hfits.part t₃.grows fun x hx => by simp [blockRoutines, hx])
    obtain ⟨mr, hmr, hsafe, heval, hfreer⟩ := hr₃ code hrest hend hfits.right
    have htest := hmc.test (by simpa using hct) fun x hx => hfits.routines x (by simp [hx])
    rw [Nat.add_assoc, ← List.length_append] at htest
    rw [e₄] at hjf hmr
    have hrun := Runs.branch htest hjf (by omega) hmt hj (by omega) hmr
    refine ⟨_, hrun, fun d => ?_, fun hall d => ?_, ?_⟩
    · exact ((hmeanc.safe d).bind_of fun _ => Fails.pure _).bind_of fun v => by
        split
        exacts [hmeant.safe d, hsafe d]
    · have hcond := hall cond (by simp)
      have hthen := hall thenBranch (by simp)
      simp only [bind_assoc, pure_bind, hmeanc.eval hcond.1 hcond.2 d,
        hmeant.eval hthen.1 hthen.2 d, heval (fun a ha => hall a (by simp [ha])) d]
      rw [evaluateChain.eq_3]
      exact (jsTruthy_testValue hf hcond.1 d).bind_congr fun v hv => by rw [hv]
    · intro hread hsc acc x index src
      simp only [readsData_append, Bool.or_eq_false_iff] at hread
      simp only [hfreec hread.1.1.1.1.1 hsc acc x index src,
        hfreet hread.1.1.2 hsc acc x index src, hfreer hread.2 hsc acc x index src]

variable {key : String} {args : List Rule} {br : Bool}

/-- `if`: null for fewer than two arguments; else each condition tested with a jump past its
branch, each branch with a jump to the end, then the argument left over or null. -/
theorem simulates_cond (hf : facts.Within c) (hb : c.builtin? key = some .cond)
    (ih : ∀ a ∈ args, Simulates c facts L root N a) :
    Simulates c facts L root N (.operation key args br) := by
  intro scope base n part n' hc
  have hnot : (operation key args br).isArray c = false := by simp [isArray, builtinIn, hb]
  have heval : ∀ d, (operation key args br).evaluate c d =
      if args.length < 2 then pure .null else evaluateChain c d args := by
    intro d
    rw [evaluate.eq_def]
    simp only [Catalog.lookup_of_builtin? hb, Builtin.arity]
  rw [compile.eq_def] at hc
  simp only [Catalog.lookup_of_builtin? hb, Builtin.arity] at hc
  split at hc
  · rename_i hlt
    obtain ⟨rfl, rfl⟩ := CompileM.run_pure_ok hc
    exact ⟨Tracked.of_slots rfl, fun code hcode _ => runsAs_push hcode (hf.array_absurd hnot)
      fun _ _ d => by rw [heval, if_pos hlt]⟩
  · rename_i hlt
    obtain ⟨⟨pairs, last⟩, h₁, rfl⟩ := CompileM.run_bind_pure_ok hc
    rw [assembleIf_eq]
    obtain ⟨ht, hr⟩ := simulatesBranches hf ih scope base n pairs last _ h₁ _
    refine ⟨ht, fun code hcode hfits => ?_⟩
    obtain ⟨m, hm, hsafe, heval', hfree⟩ := hr code hcode (by rw [length_assembleIf_go]) hfits
    refine ⟨m, by rwa [length_assembleIf_go], ⟨hsafe, hf.array_absurd hnot,
      fun hs hk d => by rw [heval' (subRules hs hk) d, heval, if_neg hlt]⟩, hfree⟩

end Branches

/-! ## Comparison chains -/

/-- The comparisons: the instruction each compiles to and the test it makes. -/
def Builtin.orderStep : Builtin → Option (Instr × (Value → Value → Bool))
  | .gt => some (.gt, Value.greater)
  | .gte => some (.gte, Value.greaterEq)
  | .lt => some (.lt, Value.less)
  | .lte => some (.lte, Value.lessEq)
  | _ => none

section Comparisons

variable {c : Catalog} {facts : Analysis} {L : Linked} {root : Value} {N : Naming}
variable {key : String} {args : List Rule} {br : Bool}

/-- A comparison instruction takes two values and pushes the boolean of its test. -/
theorem Builtin.consumes_orderStep {b : Builtin} {cmp : Instr} {test : Value → Value → Bool}
    (h : b.orderStep = some (cmp, test)) :
    Consumes L root cmp 2 fun vs => pure (binary (fun x y => .bool (test x y)) vs) := by
  cases b <;> simp only [Builtin.orderStep, reduceCtorEq, Option.some.injEq, Prod.mk.injEq] at h
  all_goals
    obtain ⟨rfl, rfl⟩ := h
    exact consumes_pop₂ rfl

theorem Builtin.quiet_orderStep {b : Builtin} {cmp : Instr} {test : Value → Value → Bool}
    (h : b.orderStep = some (cmp, test)) :
    cmp.flows = true ∧ cmp.slots = [] ∧ cmp.routines = [] ∧ readsData [cmp] = false := by
  cases b <;> simp only [Builtin.orderStep, reduceCtorEq, Option.some.injEq, Prod.mk.injEq] at h
  all_goals
    obtain ⟨rfl, rfl⟩ := h
    exact ⟨rfl, rfl, rfl, rfl⟩

/-- A comparison of two or three operands: each window of two operands and the comparison;
between the two windows of three operands, a test of the first comparison that keeps `false`
as the result and goes to the end. -/
theorem simulates_order (hf : facts.Within c) {b : Builtin} {cmp : Instr}
    {test : Value → Value → Bool} (hb : c.builtin? key = some b)
    (hstep : b.orderStep = some (cmp, test)) (ih : ∀ a ∈ args, Simulates c facts L root N a) :
    Simulates c facts L root N (.operation key args br) := by
  intro scope base n part n' hc
  have hnot : (operation key args br).isArray c = false := by
    cases b <;> simp_all [isArray, builtinIn, Builtin.orderStep]
  have hcons : Consumes L root cmp 2 _ := Builtin.consumes_orderStep hstep
  obtain ⟨hflow, hslots, hroutines, hreads⟩ := Builtin.quiet_orderStep hstep
  -- the arity check and the code of the chain, the same for the four comparisons
  have hcomp : (2 ≤ args.length ∧ args.length ≤ 3) ∧ (do
      let windows ← compileWindows c facts scope base args
      pure (assembleChain cmp base windows) : CompileM (List Instr)).run n = .ok (part, n') := by
    rw [compile.eq_def] at hc
    cases b <;> simp only [Builtin.orderStep, reduceCtorEq, Option.some.injEq, Prod.mk.injEq]
      at hstep
    all_goals
      obtain ⟨rfl, rfl⟩ := hstep
      simp only [Catalog.lookup_of_builtin? hb, Builtin.arity, Arity.admits] at hc
      obtain ⟨hadm, hc⟩ := CompileM.run_unless_throw_ok hc
      exact ⟨admits_eq_false.1 hadm, hc⟩
  obtain ⟨hadm, hc⟩ := hcomp
  have heval : ∀ d, (operation key args br).evaluate c d = evaluateOrder c d test args := by
    intro d
    rw [evaluate.eq_def]
    cases b <;> simp only [Builtin.orderStep, reduceCtorEq, Option.some.injEq, Prod.mk.injEq]
      at hstep
    all_goals
      obtain ⟨rfl, rfl⟩ := hstep
      simp only [Catalog.lookup_of_builtin? hb, Builtin.arity, Arity.admits,
        admits_eq_false.2 hadm, Bool.false_eq_true, ↓reduceIte]
  obtain ⟨windows, h₁, rfl⟩ := CompileM.run_bind_pure_ok hc
  rcases (show args.length = 2 ∨ args.length = 3 by omega) with hl | hl
  · -- two operands: one window and the comparison
    obtain ⟨left, right, rfl⟩ := List.length_eq_two.1 hl
    rw [compileWindows] at h₁
    obtain ⟨code₁, n₂, h₂, h₁⟩ := CompileM.run_bind_ok h₁
    obtain ⟨code₂, h₃, rfl⟩ := CompileM.run_bind_pure_ok h₁
    have hasm : assembleChain cmp base [code₁ ++ code₂] = code₁ ++ code₂ ++ [cmp] := by
      simp [assembleChain, assembleChain.go]
    rw [hasm]
    obtain ⟨t₁, hr₁⟩ := ih left (by simp) scope base n code₁ n₂ h₂
    obtain ⟨t₂, hr₂⟩ := ih right (by simp) scope _ n₂ code₂ _ h₃
    refine ⟨(t₁.append t₂).append (Tracked.of_slots (by simp [hslots])),
      fun code hcode hfits => ?_⟩
    rw [CodeAt.append, CodeAt.append, CodeAt.singleton] at hcode
    obtain ⟨⟨hc₁, hc₂⟩, hi⟩ := hcode
    obtain ⟨m₁, hm₁, hmean₁, hfree₁⟩ :=
      hr₁ code hc₁ ((hfits.left (List.prefix_refl _)).left t₂.grows)
    obtain ⟨m₂, hm₂, hmean₂, hfree₂⟩ := hr₂ code hc₂ (hfits.left (List.prefix_refl _)).right
    rw [List.length_append, ← Nat.add_assoc] at hi
    have hrun := Runs.pairThen hm₁ hm₂ hi hflow hcons
    refine ⟨_, by simpa only [List.length_append, List.length_singleton, Nat.add_assoc] using hrun,
      ⟨fun d => (hmean₁.safe d).bind_of fun _ => (hmean₂.safe d).bind_of fun _ => Fails.pure _,
        hf.array_absurd hnot, fun hs hk d => ?_⟩, ?_⟩
    · rw [heval, evaluateOrder, hmean₁.eval (hs.of_mem_args (by simp)) (hk.of_mem_args (by simp)),
        hmean₂.eval (hs.of_mem_args (by simp)) (hk.of_mem_args (by simp))]
      rfl
    · intro hread hsc acc x index src
      simp only [readsData_append, Bool.or_eq_false_iff] at hread
      simp only [hfree₁ hread.1.1 hsc acc x index src, hfree₂ hread.1.2 hsc acc x index src]
  · -- three operands: two windows, the middle operand in both
    obtain ⟨left, mid, right, rfl⟩ := List.length_eq_three.1 hl
    rw [compileWindows] at h₁
    obtain ⟨code₁, n₂, h₂, h₁⟩ := CompileM.run_bind_ok h₁
    obtain ⟨code₂, n₃, h₃, h₁⟩ := CompileM.run_bind_ok h₁
    obtain ⟨code₃, n₄, h₄, h₁⟩ := CompileM.run_bind_ok h₁
    obtain ⟨code₄, h₅, rfl⟩ := CompileM.run_bind_pure_ok h₁
    have hasm : assembleChain cmp base [code₁ ++ code₂, code₃ ++ code₄] =
        code₁ ++ code₂ ++ [cmp] ++ [Instr.dup] ++
          [Instr.jumpIfFalse (base + code₁.length + code₂.length + 1 + 3 + code₃.length +
            code₄.length + 1), .pop] ++ code₃ ++ code₄ ++ [cmp] := by
      simp [assembleChain, assembleChain.go]
      omega
    rw [hasm]
    obtain ⟨t₁, hr₁⟩ := ih left (by simp) scope base n code₁ n₂ h₂
    obtain ⟨t₂, hr₂⟩ := ih mid (by simp) scope _ n₂ code₂ n₃ h₃
    obtain ⟨t₃, hr₃⟩ := ih mid (by simp) scope _ n₃ code₃ n₄ h₄
    obtain ⟨t₄, hr₄⟩ := ih right (by simp) scope _ n₄ code₄ _ h₅
    refine ⟨((((((t₁.append t₂).append (Tracked.of_slots (by simp [hslots]))).append
      (Tracked.of_slots rfl)).append (Tracked.of_slots rfl)).append t₃).append t₄).append
      (Tracked.of_slots (by simp [hslots])), fun code hcode hfits => ?_⟩
    rw [CodeAt.append, CodeAt.append, CodeAt.append, CodeAt.append, CodeAt.append, CodeAt.append,
      CodeAt.append, CodeAt.singleton, CodeAt.singleton, CodeAt.pair, CodeAt.singleton] at hcode
    obtain ⟨⟨⟨⟨⟨⟨⟨hc₁, hc₂⟩, hi₁⟩, hdup⟩, hjump, hpop⟩, hc₃⟩, hc₄⟩, hi₂⟩ := hcode
    simp only [List.length_append, List.length_cons, List.length_nil, ← Nat.add_assoc]
      at hi₁ hdup hjump hpop hc₃ hc₄ hi₂
    obtain ⟨m₁, hm₁, hmean₁, hfree₁⟩ := hr₁ code hc₁
      (hfits.part (t₂.grows.trans (t₃.grows.trans t₄.grows)) fun x hx => by
        simp [blockRoutines, hx])
    obtain ⟨m₂, hm₂, hmean₂, hfree₂⟩ :=
      hr₂ code hc₂ (hfits.part (t₃.grows.trans t₄.grows) fun x hx => by simp [blockRoutines, hx])
    obtain ⟨m₃, hm₃, hmean₃, hfree₃⟩ :=
      hr₃ code hc₃ (hfits.part t₄.grows fun x hx => by simp [blockRoutines, hx])
    obtain ⟨m₄, hm₄, hmean₄, hfree₄⟩ := hr₄ code hc₄ (hfits.left (List.prefix_refl _)).right
    -- the first comparison is tested: `false` is the result, else the second one is
    have hskip : ∀ (st : MachineState) (v : Value) rest, st.stack = v :: rest →
        exec (runBlock L root code (base + code₁.length + code₂.length + 1 + 1)) st =
          exec (runBlock L root code (base + code₁.length + code₂.length + 1 + 1))
            { st with stack := id v :: rest } := by
      intro st v rest hst
      obtain ⟨stack, frames, log⟩ := st
      simp only at hst
      subst hst
      rfl
    have hjump' : code[base + code₁.length + code₂.length + 1 + 1]? = some
        (if true then .jumpIfFalse (base + code₁.length + code₂.length + 1 + 3 + code₃.length +
          code₄.length + 1) else .jumpIfTrue (base + code₁.length + code₂.length + 1 + 3 +
          code₃.length + code₄.length + 1)) := hjump
    have hrun := Runs.shortStep (Runs.pairThen hm₁ hm₂ hi₁ hflow hcons) hdup hskip hjump'
      (by omega) hpop (Runs.pairThen hm₃ hm₄ hi₂ hflow hcons)
    refine ⟨_, by simpa only [List.length_append, List.length_singleton, List.length_cons,
      List.length_nil, ← Nat.add_assoc] using hrun, ⟨fun d => ?_, hf.array_absurd hnot,
      fun hs hk d => ?_⟩, ?_⟩
    · refine ((hmean₁.safe d).bind_of fun _ => (hmean₂.safe d).bind_of fun _ =>
        Fails.pure _).bind_of fun v => ?_
      split
      · exact (hmean₃.safe d).bind_of fun _ => (hmean₄.safe d).bind_of fun _ => Fails.pure _
      · exact Fails.pure _
    · have hsub := subRules hs hk
      rw [heval, evaluateOrder, hmean₁.eval (hsub left (by simp)).1 (hsub left (by simp)).2,
        hmean₂.eval (hsub mid (by simp)).1 (hsub mid (by simp)).2,
        hmean₃.eval (hsub mid (by simp)).1 (hsub mid (by simp)).2,
        hmean₄.eval (hsub right (by simp)).1 (hsub right (by simp)).2]
      simp only [bind_assoc, pure_bind]
      refine congrArg (_ >>= ·) (funext fun x => congrArg (_ >>= ·) (funext fun y => ?_))
      simp only [binary, id, Value.jsTruthy]
      by_cases h : test x y <;> simp [h]
    · intro hread hsc acc x index src
      simp only [readsData_append, Bool.or_eq_false_iff] at hread
      simp only [hfree₁ hread.1.1.1.1.1.1.1 hsc acc x index src,
        hfree₂ hread.1.1.1.1.1.1.2 hsc acc x index src, hfree₃ hread.1.1.2 hsc acc x index src,
        hfree₄ hread.1.2 hsc acc x index src]

end Comparisons

end RuleMachine
