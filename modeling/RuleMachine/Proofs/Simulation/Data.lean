import RuleMachine.Proofs.Simulation.Operands

/-!
# Reading the data

`var`, `missing_some` and `in`. A `var` loads the whole data, follows a literal path with one
instruction (and jumps past its default when the path is present), or hands a computed path to
a routine; `missing_some` loads the data below its two operands; `in` looks for its needle with
an instruction that fails on a haystack that is neither an array nor a string unless it is
guarded, and compiled code leaves it unguarded only where the analysis promises an array.

In a reduce body a literal path reads the step's context: unless it starts at `data`, what it
finds does not depend on the data that the context carries.
-/

namespace RuleMachine

open Machine Rule

/-! ## Literal paths in a reduce context -/

theorem splitOnAux_ne_nil (s sep : String) (b i j : String.Pos.Raw) (r : List String) :
    String.splitOnAux s sep b i j r ≠ [] := by
  fun_induction String.splitOnAux s sep b i j r <;> simp_all

/-- Splitting a string gives at least one part. -/
theorem splitOn_ne_nil (s sep : String) : s.splitOn sep ≠ [] := by
  unfold String.splitOn
  split
  · simp
  · exact splitOnAux_ne_nil _ _ _ _ _ _

theorem literalPath_ne_nil {v : Value} {segs : List String} (h : literalPath v = some segs) :
    segs ≠ [] := by
  unfold literalPath at h
  split at h <;> cases h <;> simp [splitOn_ne_nil]

/-- A literal path has at least one segment, so it never names the whole context. -/
theorem varPath_segments_ne_nil {path : Rule} {segs : List String}
    (h : varPath path = .segments segs) : segs ≠ [] := by
  rw [varPath.eq_def] at h
  split at h
  · cases h
  · cases h
  · split at h
    · rename_i hp
      cases h
      exact literalPath_ne_nil hp
    · cases h
  · cases h
  · cases h

theorem segment?_reduceContext {s : String} (hs : s ≠ "data") (acc x : Value) (index : Nat)
    (src : Value) :
    (Value.reduceContext acc x index none).segment? s =
      (Value.reduceContext acc x index (some src)).segment? s := by
  simp [Value.reduceContext, Value.segment?, List.lookup_cons, beq_eq_false_iff_ne.2 hs]

/-- A path that does not start at `data` finds the same in a reduce step's context with the
data and without it. -/
theorem lookupPath_reduceContext {segs : List String} (hne : segs ≠ [])
    (hd : ∀ rest, segs ≠ "data" :: rest) (acc x : Value) (index : Nat) (src : Value) :
    (Value.reduceContext acc x index none).lookupPath segs =
      (Value.reduceContext acc x index (some src)).lookupPath segs := by
  obtain ⟨s, rest, rfl⟩ := List.exists_cons_of_ne_nil hne
  have hs : s ≠ "data" := fun h => hd rest (by rw [h])
  rw [Value.lookupPath, Value.lookupPath, segment?_reduceContext hs]
  rfl

/-! ## Literals and the data -/

section Data

variable {c : Catalog} {facts : Analysis} {L : Linked} {root : Value} {N : Naming}

/-- A literal: one instruction that pushes it. -/
theorem simulates_literal (hf : facts.Within c) (v : Value) :
    Simulates c facts L root N (.literal v) := by
  intro scope base n part n' hc
  rw [compile_literal] at hc
  obtain ⟨rfl, rfl⟩ := CompileM.run_pure_ok hc
  exact ⟨Tracked.of_slots rfl, fun code hcode _ =>
    runsAs_push hcode (hf.array_absurd (by simp [isArray])) fun _ _ d => by rw [evaluate]⟩

/-- The data, loaded by one instruction: it reads `data` in a reduce body. -/
theorem runsAs_load {r : Rule} {scope : Scope} {code : List Instr} {base : Nat}
    (hcode : CodeAt code base [.load scope]) (harray : facts.isArray r = true → False)
    (heval : r.Scalar → r.KeepsNumbers facts c → ∀ d, r.evaluate c d = pure d) :
    RunsAs c facts L root scope code base [.load scope] r :=
  ⟨pure, runs_load (CodeAt.singleton.1 hcode),
    ⟨fun _ => Fails.pure _, fun h => (harray h).elim, fun hs hk d => (heval hs hk d).symm⟩,
    fun hread hsc => by subst hsc; simp [readsData] at hread⟩

/-- The data, two values after it, then a routine that takes the three: the code runs as the
routine applied to the data and the two values. -/
theorem runs_loadTwoCall {rt : Routine} {p₁ p₂ : List Instr} {m₁ m₂ : Value → EvalM Value}
    {scope : Scope} {code : List Instr} {base : Nat}
    (hcode : CodeAt code base ([Instr.load scope] ++ p₁ ++ p₂ ++ [Instr.callRoutine rt 3]))
    (hrt : rt ∈ L.routines)
    (h₁ : Runs L root scope code (base + 1) (base + 1 + p₁.length) m₁)
    (h₂ : Runs L root scope code (base + 1 + p₁.length) (base + 1 + p₁.length + p₂.length) m₂) :
    Runs L root scope code base
      (base + ([Instr.load scope] ++ p₁ ++ p₂ ++ [Instr.callRoutine rt 3]).length)
      (fun d => m₁ d >>= fun x => m₂ d >>= fun y => routineCall rt [d, x, y]) := by
  rw [CodeAt.append, CodeAt.singleton] at hcode
  obtain ⟨hc, hi⟩ := hcode
  have hload := CodeAt.singleton.1 hc.left.left
  have hpos : base + ([Instr.load scope] ++ p₁ ++ p₂).length = base + 1 + p₁.length + p₂.length := by
    simp only [List.length_append, List.length_singleton]
    omega
  rw [hpos] at hi
  -- the three values go on the stack in order, and the routine takes them
  have hrun := (RunsAll.cons (runs_load hload) (RunsAll.cons h₁ (RunsAll.cons h₂ Pushes.nil))).consume
    (n := 3) (fun d => by
      simp only [pure_bind, bind_assoc]
      exact Gives.bind_any fun _ => Gives.bind_any fun _ => Gives.pure rfl)
    hi rfl (consumes_callRoutine hrt 3)
  have hm : (fun d => (do
      let v ← pure d
      let vs ← (do
        let v ← m₁ d
        let vs ← (do let v ← m₂ d; let vs ← pure []; pure (v :: vs))
        pure (v :: vs))
      pure (v :: vs)) >>= routineCall rt) =
      fun d => m₁ d >>= fun x => m₂ d >>= fun y => routineCall rt [d, x, y] := by
    funext d
    simp only [pure_bind, bind_assoc]
  rw [hm] at hrun
  have hend : base + ([Instr.load scope] ++ p₁ ++ p₂ ++ [Instr.callRoutine rt 3]).length =
      base + 1 + p₁.length + p₂.length + 1 := by
    simp only [List.length_append, List.length_singleton]
    omega
  rw [hend]
  exact hrun

/-- The data, two values after it, then a routine that takes the three. -/
theorem runsAs_loadTwoCall {r : Rule} {rt : Routine} {p₁ p₂ : List Instr}
    {m₁ m₂ : Value → EvalM Value} {scope : Scope} {code : List Instr} {base : Nat}
    (hcode : CodeAt code base ([Instr.load scope] ++ p₁ ++ p₂ ++ [Instr.callRoutine rt 3]))
    (hrt : rt ∈ L.routines)
    (h₁ : Runs L root scope code (base + 1) (base + 1 + p₁.length) m₁)
    (h₂ : Runs L root scope code (base + 1 + p₁.length) (base + 1 + p₁.length + p₂.length) m₂)
    (hsafe₁ : ∀ d, Fails (m₁ d) EvalError.Allowed) (hsafe₂ : ∀ d, Fails (m₂ d) EvalError.Allowed)
    (hcall : ∀ d x y, Fails (routineCall rt [d, x, y]) EvalError.Allowed)
    (harray : facts.isArray r = true → ∀ d x y, Gives (routineCall rt [d, x, y]) (·.isArray = true))
    (heval : r.Scalar → r.KeepsNumbers facts c → ∀ d,
      r.evaluate c d = m₁ d >>= fun x => m₂ d >>= fun y => routineCall rt [d, x, y]) :
    RunsAs c facts L root scope code base ([Instr.load scope] ++ p₁ ++ p₂ ++ [Instr.callRoutine rt 3])
      r := by
  refine ⟨_, runs_loadTwoCall hcode hrt h₁ h₂,
    ⟨fun d => ?_, fun h d => ?_, fun hs hk d => (heval hs hk d).symm⟩, ?_⟩
  · exact (hsafe₁ d).bind_of fun x => (hsafe₂ d).bind_of fun y => hcall d x y
  · exact Gives.bind_any fun x => Gives.bind_any fun y => harray h d x y
  · intro hread hsc
    subst hsc
    simp [readsData] at hread

variable {key : String} {args : List Rule} {br : Bool}

/-- The default of a `var`, or null when it has none. -/
theorem simulates_headD {rest : List Rule} (hf : facts.Within c)
    (ih : ∀ a ∈ rest, Simulates c facts L root N a) :
    Simulates c facts L root N (rest.headD (.literal .null)) := by
  cases rest with
  | nil => exact simulates_literal hf .null
  | cons d _ => exact ih d (by simp)

theorem headD_of_subRules {rest : List Rule}
    (h : ∀ a ∈ rest, a.Scalar ∧ a.KeepsNumbers facts c) :
    (rest.headD (.literal .null)).Scalar ∧ (rest.headD (.literal .null)).KeepsNumbers facts c := by
  cases rest with
  | nil => exact ⟨.literal rfl, .literal trivial⟩
  | cons d _ => exact h d (by simp)

/-- `var` with a path that an operation computes: the data, the path, the default (or null),
then the routine that resolves the path. -/
theorem simulates_computedVar (hf : facts.Within c) (hb : c.builtin? key = some .var)
    {path : Rule} {rest : List Rule} (hv : varPath path = .computed)
    (ih : ∀ a ∈ path :: rest, Simulates c facts L root N a) :
    Simulates c facts L root N (.operation key (path :: rest) br) := by
  intro scope base n part n' hc
  rw [compile_var (Catalog.lookup_of_builtin? hb), compileVar, hv] at hc
  obtain ⟨pathCode, n₁, h₁, hc⟩ := CompileM.run_bind_ok hc
  -- no default compiles as the literal null
  obtain ⟨defaultCode, n₂, h₂, hc⟩ : ∃ defaultCode n₂,
      (compile c facts scope (base + 1 + pathCode.length) (rest.headD (.literal .null))).run n₁ =
        .ok (defaultCode, n₂) ∧
      (pure ([Instr.load scope] ++ pathCode ++ defaultCode ++ [Instr.callRoutine .resolve 3]) :
        CompileM (List Instr)).run n₂ = .ok (part, n') := by
    cases rest with
    | nil =>
      rw [List.headD_nil, compile]
      exact CompileM.run_bind_ok hc
    | cons d _ => exact CompileM.run_bind_ok hc
  obtain ⟨rfl, rfl⟩ := CompileM.run_pure_ok hc
  obtain ⟨t₁, hr₁⟩ := ih path (by simp) scope (base + 1) n pathCode n₁ h₁
  obtain ⟨t₂, hr₂⟩ := simulates_headD hf (fun a ha => ih a (List.mem_cons_of_mem path ha))
    scope _ n₁ defaultCode _ h₂
  refine ⟨(((Tracked.of_slots rfl).append t₁).append t₂).append (Tracked.of_slots rfl),
    fun code hcode hfits => ?_⟩
  have hc₁ : CodeAt code (base + 1) pathCode := hcode.left.left.right
  have hc₂ : CodeAt code (base + 1 + pathCode.length) defaultCode := by
    have h := hcode.left.right
    have hpos : base + ([Instr.load scope] ++ pathCode).length = base + 1 + pathCode.length := by
      simp only [List.length_append, List.length_singleton]
      omega
    rwa [hpos] at h
  obtain ⟨m₁, hm₁, hmean₁, -⟩ :=
    hr₁ code hc₁ (hfits.part t₂.grows fun x hx => by simp [blockRoutines, hx])
  obtain ⟨m₂, hm₂, hmean₂, -⟩ := hr₂ code hc₂ (hfits.left (List.prefix_refl _)).right
  refine runsAs_loadTwoCall hcode
    (hfits.routines .resolve (by simp [blockRoutines, Instr.routines])) hm₁ hm₂ hmean₁.safe
    hmean₂.safe (fun _ _ _ => Fails.pure _)
    (hf.array_absurd (by simp [isArray, builtinIn, hb])) fun hs hk d => ?_
  have hsub := subRules hs hk
  rw [hmean₁.eval (hsub path (by simp)).1 (hsub path (by simp)).2,
    hmean₂.eval (headD_of_subRules fun a ha => hsub a (List.mem_cons_of_mem path ha)).1
      (headD_of_subRules fun a ha => hsub a (List.mem_cons_of_mem path ha)).2,
    evaluate.eq_def c d (operation key (path :: rest) br)]
  simp only [Catalog.lookup_of_builtin? hb, Builtin.arity]
  rw [evaluateVar.eq_def]
  dsimp only
  rw [hv]
  cases rest with
  | nil => simp only [List.headD_nil, evaluate, pure_bind]; rfl
  | cons d _ => rfl

/-- `var` with a literal path: one instruction that follows it, and when there is a default, a
jump past the default when the path is present. -/
theorem simulates_segmentsVar (hf : facts.Within c) (hb : c.builtin? key = some .var)
    {path : Rule} {rest : List Rule} {segs : List String} (hv : varPath path = .segments segs)
    (ih : ∀ a ∈ path :: rest, Simulates c facts L root N a) :
    Simulates c facts L root N (.operation key (path :: rest) br) := by
  intro scope base n part n' hc
  have hnot : facts.isArray (operation key (path :: rest) br) = true → False :=
    hf.array_absurd (by simp [isArray, builtinIn, hb])
  have heval : ∀ d, (operation key (path :: rest) br).evaluate c d =
      (d.lookupPath segs).elim ((rest.headD (.literal .null)).evaluate c d) pure := by
    intro d
    rw [evaluate.eq_def]
    simp only [Catalog.lookup_of_builtin? hb, Builtin.arity]
    rw [evaluateVar.eq_def]
    dsimp only
    rw [hv]
    dsimp only
    cases d.lookupPath segs <;> cases rest <;> rfl
  rw [compile_var (Catalog.lookup_of_builtin? hb), compileVar, hv] at hc
  cases rest with
  | nil =>
    obtain ⟨rfl, rfl⟩ := CompileM.run_pure_ok hc
    refine ⟨Tracked.of_slots rfl, fun code hcode _ => ⟨_, runs_loadPath (CodeAt.singleton.1 hcode),
      ⟨fun _ => Fails.pure _, fun h => (hnot h).elim, fun _ _ d => ?_⟩, ?_⟩⟩
    · rw [heval]
      cases d.lookupPath segs <;> rfl
    · intro hread hsc acc x index src
      subst hsc
      dsimp only
      rw [lookupPath_reduceContext (varPath_segments_ne_nil hv)
        (fun rest h => by subst h; simp [readsData] at hread)]
  | cons dflt more =>
    obtain ⟨defaultCode, h₁, rfl⟩ := CompileM.run_bind_pure_ok hc
    obtain ⟨t₁, hr₁⟩ := ih dflt (by simp) scope (base + 2) n defaultCode _ h₁
    refine ⟨(Tracked.of_slots rfl).append t₁, fun code hcode hfits => ?_⟩
    rw [CodeAt.append, show [Instr.loadPath scope segs, .jumpIfPresent (base + 2 + defaultCode.length)] =
      [Instr.loadPath scope segs] ++ [Instr.jumpIfPresent (base + 2 + defaultCode.length)] from rfl,
      CodeAt.append, CodeAt.singleton, CodeAt.singleton] at hcode
    obtain ⟨⟨hload, hjump⟩, hc₁⟩ := hcode
    obtain ⟨md, hmd, hmean, hfree⟩ := hr₁ code hc₁ hfits.right
    have hrun := Runs.loadPathOr hload hjump (by omega) hmd
    have hend : base + ([Instr.loadPath scope segs, .jumpIfPresent (base + 2 + defaultCode.length)] ++
        defaultCode).length = base + 2 + defaultCode.length := by
      simp only [List.length_append, List.length_cons, List.length_nil]
      omega
    refine ⟨_, by rw [hend]; exact hrun, ⟨fun d => ?_, fun h => (hnot h).elim, fun hs hk d => ?_⟩, ?_⟩
    · split
      · exact Fails.pure _
      · exact hmean.safe d
    · rw [heval, hmean.eval (hs.of_mem_args (by simp)) (hk.of_mem_args (by simp))]
      cases d.lookupPath segs <;> rfl
    · -- neither the path nor the default reads `data`
      intro hread hsc acc x index src
      subst hsc
      simp only [readsData_append, Bool.or_eq_false_iff] at hread
      dsimp only
      rw [lookupPath_reduceContext (varPath_segments_ne_nil hv)
        (fun rest h => by subst h; simp [readsData] at hread), hfree hread.2 rfl acc x index src]

/-- `var`: the whole data, a literal path or a computed one; a list is no path and does not
compile. -/
theorem simulates_var (hf : facts.Within c) (hb : c.builtin? key = some .var)
    (ih : ∀ a ∈ args, Simulates c facts L root N a) :
    Simulates c facts L root N (.operation key args br) := by
  have hnot : facts.isArray (operation key args br) = true → False :=
    hf.array_absurd (by simp [isArray, builtinIn, hb])
  cases args with
  | nil =>
    intro scope base n part n' hc
    rw [compile_var (Catalog.lookup_of_builtin? hb)] at hc
    simp only [compileVar] at hc
    obtain ⟨rfl, rfl⟩ := CompileM.run_pure_ok hc
    refine ⟨Tracked.of_slots rfl, fun code hcode _ => runsAs_load hcode hnot fun _ _ d => ?_⟩
    rw [evaluate.eq_def]
    simp only [Catalog.lookup_of_builtin? hb, Builtin.arity, evaluateVar]
  | cons path rest =>
    cases hv : varPath path with
    | whole =>
      intro scope base n part n' hc
      rw [compile_var (Catalog.lookup_of_builtin? hb), compileVar, hv] at hc
      obtain ⟨rfl, rfl⟩ := CompileM.run_pure_ok hc
      refine ⟨Tracked.of_slots rfl, fun code hcode _ => runsAs_load hcode hnot fun _ _ d => ?_⟩
      rw [evaluate.eq_def]
      simp only [Catalog.lookup_of_builtin? hb, Builtin.arity]
      rw [evaluateVar.eq_def]
      dsimp only
      rw [hv]
    | computed => exact simulates_computedVar hf hb hv ih
    | segments segs => exact simulates_segmentsVar hf hb hv ih
    | illegal =>
      intro scope base n part n' hc
      rw [compile_var (Catalog.lookup_of_builtin? hb), compileVar, hv] at hc
      exact absurd hc CompileM.run_throw_ok

/-- `missing_some`: the data, the minimum (or 0), the keys (or none), then the routine. -/
theorem simulates_missingSome (hb : c.builtin? key = some .missingSome)
    (ih : ∀ a ∈ args, Simulates c facts L root N a) :
    Simulates c facts L root N (.operation key args br) := by
  intro scope base n part n' hc
  have heval : ∀ d, (operation key args br).evaluate c d = evaluateMissingSome c d args := by
    intro d
    rw [evaluate.eq_def]
    simp only [Catalog.lookup_of_builtin? hb, Builtin.arity]
  have hcall : ∀ d x y, Fails (routineCall .missingSome [d, x, y]) EvalError.Allowed :=
    fun _ _ _ => Fails.pure _
  have harray : facts.isArray (operation key args br) = true →
      ∀ d x y, Gives (routineCall .missingSome [d, x, y]) (·.isArray = true) :=
    fun _ _ _ _ => Gives.pure rfl
  have hroutine : ∀ {p₁ p₂ : List Instr},
      Fits L N n' ([Instr.load scope] ++ p₁ ++ p₂ ++ [Instr.callRoutine .missingSome 3]) →
        .missingSome ∈ L.routines :=
    fun hfits => hfits.routines .missingSome (by simp [blockRoutines, Instr.routines])
  rw [compile_missingSome (Catalog.lookup_of_builtin? hb)] at hc
  rcases args with _ | ⟨least, _ | ⟨keys, more⟩⟩
  · -- neither operand: 0 and no keys
    rw [compileMissingSome] at hc
    obtain ⟨rfl, rfl⟩ := CompileM.run_pure_ok hc
    refine ⟨Tracked.of_slots rfl, fun code hcode hfits => ?_⟩
    have hcode' : CodeAt code base ([Instr.load scope] ++ [Instr.push (.int 0)] ++
        [Instr.push (.array [])] ++ [Instr.callRoutine .missingSome 3]) := hcode
    have hfits' : Fits L N _ ([Instr.load scope] ++ [Instr.push (.int 0)] ++
        [Instr.push (.array [])] ++ [Instr.callRoutine .missingSome 3]) := hfits
    exact runsAs_loadTwoCall hcode' (hroutine hfits')
      (runs_push (CodeAt.singleton.1 hcode'.left.left.right))
      (runs_push (CodeAt.singleton.1 hcode'.left.right)) (fun _ => Fails.pure _)
      (fun _ => Fails.pure _) hcall harray fun _ _ d => by rw [heval, evaluateMissingSome]; rfl
  · -- the minimum alone: no keys
    rw [compileMissingSome] at hc
    obtain ⟨code₁, h₁, rfl⟩ := CompileM.run_bind_pure_ok hc
    obtain ⟨t₁, hr₁⟩ := ih least (by simp) scope (base + 1) n code₁ _ h₁
    have hpart : [Instr.load scope] ++ code₁ ++ [Instr.push (.array []), .callRoutine .missingSome 3] =
        [Instr.load scope] ++ code₁ ++ [Instr.push (.array [])] ++
          [Instr.callRoutine .missingSome 3] := by simp
    rw [hpart]
    refine ⟨(((Tracked.of_slots rfl).append t₁).append (Tracked.of_slots rfl)).append
      (Tracked.of_slots rfl), fun code hcode hfits => ?_⟩
    obtain ⟨m₁, hm₁, hmean₁, -⟩ := hr₁ code hcode.left.left.right
      (hfits.part (List.prefix_refl _) fun x hx => by simp [blockRoutines, hx])
    have hpush : Runs L root scope code (base + 1 + code₁.length) (base + 1 + code₁.length + 1)
        fun _ => pure (.array []) := by
      have h := CodeAt.singleton.1 hcode.left.right
      rw [List.length_append, List.length_singleton, ← Nat.add_assoc] at h
      exact runs_push h
    refine runsAs_loadTwoCall hcode (hroutine hfits) hm₁ hpush hmean₁.safe
      (fun _ => Fails.pure _) hcall harray fun hs hk d => ?_
    rw [heval, evaluateMissingSome, hmean₁.eval (hs.of_mem_args (by simp))
      (hk.of_mem_args (by simp))]
    simp only [pure_bind]
    rfl
  · -- the minimum and the keys; further operands are ignored
    rw [compileMissingSome] at hc
    obtain ⟨code₁, n₁, h₁, hc⟩ := CompileM.run_bind_ok hc
    obtain ⟨code₂, h₂, rfl⟩ := CompileM.run_bind_pure_ok hc
    obtain ⟨t₁, hr₁⟩ := ih least (by simp) scope (base + 1) n code₁ n₁ h₁
    obtain ⟨t₂, hr₂⟩ := ih keys (by simp) scope _ n₁ code₂ _ h₂
    refine ⟨(((Tracked.of_slots rfl).append t₁).append t₂).append (Tracked.of_slots rfl),
      fun code hcode hfits => ?_⟩
    have hc₂ := hcode.left.right
    rw [List.length_append, List.length_singleton, ← Nat.add_assoc] at hc₂
    obtain ⟨m₁, hm₁, hmean₁, -⟩ := hr₁ code hcode.left.left.right
      (hfits.part t₂.grows fun x hx => by simp [blockRoutines, hx])
    obtain ⟨m₂, hm₂, hmean₂, -⟩ := hr₂ code hc₂ (hfits.left (List.prefix_refl _)).right
    refine runsAs_loadTwoCall hcode (hroutine hfits) hm₁ hm₂ hmean₁.safe hmean₂.safe hcall
      harray fun hs hk d => ?_
    rw [heval, evaluateMissingSome, hmean₁.eval (hs.of_mem_args (by simp))
      (hk.of_mem_args (by simp)), hmean₂.eval (hs.of_mem_args (by simp)) (hk.of_mem_args (by simp))]
    rfl

/-- Code that is left unguarded, where the analysis calls `r` an array, finds an array. -/
theorem Meaning.unguarded {r : Rule} {m : Value → EvalM Value} (h : Meaning c facts r m)
    (d : Value) : Gives (m d) fun v => (!facts.isArray r) = false → v.isArray = true := by
  cases ha : facts.isArray r
  · exact (Gives.any _).mono fun _ _ h => absurd h (by simp)
  · exact (h.array ha d).mono fun _ hv _ => hv

/-- Two values one after the other, then an instruction that takes both. -/
theorem Machine.Runs.pairThen {scope : Scope} {code : List Instr} {b p e : Nat} {i : Instr}
    {m₁ m₂ : Value → EvalM Value} {f : List Value → EvalM Value}
    (h₁ : Runs L root scope code b p m₁) (h₂ : Runs L root scope code p e m₂)
    (hi : code[e]? = some i) (hflow : i.flows) (hf : Consumes L root i 2 f) :
    Runs L root scope code b (e + 1) fun d => m₁ d >>= fun x => m₂ d >>= fun y => f [x, y] := by
  have h := (RunsAll.cons h₁ (RunsAll.cons h₂ Pushes.nil)).consume (n := 2)
    (fun d => by
      simp only [pure_bind, bind_assoc]
      exact Gives.bind_any fun _ => Gives.bind_any fun _ => Gives.pure rfl) hi hflow hf
  simpa only [pure_bind, bind_assoc] using h

/-- Looking for a needle gives what `in` gives wherever the instruction is unguarded only on
arrays. -/
theorem liftRun_includes {guarded : Bool} {needle haystack : Value}
    (h : guarded = false → haystack.isArray = true) :
    liftRun (includes guarded needle haystack) = pure (membership [needle, haystack]) := by
  simp only [includes, membership]
  cases hm : needle.memberOf? haystack with
  | some b => rfl
  | none =>
    cases guarded
    · -- an array always decides membership
      cases haystack <;> simp_all [Value.memberOf?, Value.isArray]
    · rfl

/-- `in`: the needle, the haystack, then the instruction that looks for the one in the other,
unguarded only where the analysis promises an array. -/
theorem simulates_member (hf : facts.Within c) (hb : c.builtin? key = some .member)
    (ih : ∀ a ∈ args, Simulates c facts L root N a) :
    Simulates c facts L root N (.operation key args br) := by
  intro scope base n part n' hc
  have hadm := compile_admits (Catalog.lookup_of_builtin? hb) rfl hc
  obtain ⟨needle, haystack, code₁, code₂, n₁, rfl, h₁, h₂, rfl⟩ :=
    compile_member_ok (Catalog.lookup_of_builtin? hb) hc
  obtain ⟨t₁, hr₁⟩ := ih needle (by simp) scope base n code₁ n₁ h₁
  obtain ⟨t₂, hr₂⟩ := ih haystack (by simp) scope _ n₁ code₂ _ h₂
  refine ⟨(t₁.append t₂).append (Tracked.of_slots rfl), fun code hcode hfits => ?_⟩
  rw [CodeAt.append, CodeAt.append, CodeAt.singleton] at hcode
  obtain ⟨⟨hc₁, hc₂⟩, hi⟩ := hcode
  obtain ⟨m₁, hm₁, hmean₁, hfree₁⟩ :=
    hr₁ code hc₁ ((hfits.left (List.prefix_refl _)).left t₂.grows)
  obtain ⟨m₂, hm₂, hmean₂, hfree₂⟩ := hr₂ code hc₂ (hfits.left (List.prefix_refl _)).right
  rw [List.length_append, ← Nat.add_assoc] at hi
  have hrun := Runs.pairThen hm₁ hm₂ hi rfl (consumes_includes _)
  have hm : (fun d => m₁ d >>= fun x => m₂ d >>= fun y =>
        liftRun (includes (!facts.isArray haystack) ([x, y].getD 0 .null) ([x, y].getD 1 .null))) =
      fun d => m₁ d >>= fun a => m₂ d >>= fun h => pure (membership [a, h]) := by
    funext d
    simp only [List.getD_cons_zero, List.getD_cons_succ]
    exact congrArg (m₁ d >>= ·) (funext fun a => (hmean₂.unguarded d).bind_congr fun h hh => liftRun_includes hh)
  rw [hm] at hrun
  have hend : base + (code₁ ++ code₂ ++ [Instr.includes (!facts.isArray haystack)]).length =
      base + code₁.length + code₂.length + 1 := by
    simp only [List.length_append, List.length_singleton]
    omega
  refine ⟨_, by rw [hend]; exact hrun, ⟨fun d => ?_,
    hf.array_absurd (by simp [isArray, builtinIn, hb]), fun hs hk d => ?_⟩, ?_⟩
  · exact (hmean₁.safe d).bind_of fun _ => (hmean₂.safe d).bind_of fun _ => Fails.pure _
  · rw [hmean₁.eval (hs.of_mem_args (by simp)) (hk.of_mem_args (by simp)),
      hmean₂.eval (hs.of_mem_args (by simp)) (hk.of_mem_args (by simp)),
      evaluate.eq_def c d (operation key [needle, haystack] br)]
    simp only [Catalog.lookup_of_builtin? hb, Builtin.arity, hadm, Bool.not_true,
      Bool.false_eq_true, ↓reduceIte, evaluateAll, bind_assoc, pure_bind]
  · intro hread hsc acc x index src
    simp only [readsData_append, Bool.or_eq_false_iff] at hread
    simp only [hfree₁ hread.1.1 hsc acc x index src, hfree₂ hread.1.2 hsc acc x index src]

end Data

end RuleMachine
