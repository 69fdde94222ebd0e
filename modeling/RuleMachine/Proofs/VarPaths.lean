import RuleMachine.Proofs.Relocation
import RuleMachine.Proofs.Branching

/-!
# A path written out and a path computed

A `var` reads its path in two ways. A literal string `p` is split at dots when the rule is
compiled: the code follows the segments with one instruction and, when there is a default,
jumps past the default's code when it finds a value, so the default runs only when the path is
not empty and the data does not hold it (`Rule.literalVar`). A path that an operation computes,
such as `{"cat": [p]}`, is handed at run time to the `resolve` routine, which splits it then,
reads the whole data for an empty path, and takes the default, computed beforehand, where the
data holds nothing (`Rule.computedVar`).

Both forms run their default as its code compiled on its own does (`Machine.Runs.embed`), so
they agree: without a default they compute the same value, and with one they compute the same
value whenever the default does.
-/

namespace RuleMachine

namespace Support

/-- Resolving a string path: the whole data for the empty path, and otherwise the value the
segments reach, or the default. -/
theorem resolve_string (d : Value) (p : String) (y : Value) :
    resolve d (.string p) y = if p = "" then d else (d.lookupPath (p.splitOn ".")).getD y := by
  simp only [resolve, Value.toText, String.isEmpty_iff]

end Support

namespace Rule

/-- What `var` with the literal path `p` computes, with a default that runs as `m`: the
default's value where the path is not empty and the data does not hold it, and otherwise the
path resolved, the default not run. -/
def literalVar (p : String) (m : Value → EvalM Value) (d : Value) : EvalM Value :=
  if p ≠ "" ∧ (d.lookupPath (p.splitOn ".")).isNone then m d
  else pure (Support.resolve d (.string p) .null)

/-- What `var` with a computed path that gives `p` computes, with a default that runs as `m`:
the default first, then the path resolved with it. -/
def computedVar (p : String) (m : Value → EvalM Value) (d : Value) : EvalM Value := do
  let y ← m d
  pure (Support.resolve d (.string p) y)

/-- Where the default of a literal path succeeds, both forms give the same value. -/
theorem literalVar_agrees {p : String} {m : Value → EvalM Value} {d v : Value}
    {log log' : List Event} (h : evalRun (m d) log = (.ok v, log')) :
    (evalRun (literalVar p m d) log).1 = (evalRun (computedVar p m d) log).1 := by
  rw [literalVar, computedVar, evalRun_bind, h]
  simp only [evalRun_pure, Support.resolve_string]
  by_cases hp : p = ""
  · simp [hp]
  · cases d.lookupPath (p.splitOn ".") <;> simp [hp, h]

/-- A string path reads the whole data when it is empty, and its segments otherwise. -/
theorem varPath_string (p : String) :
    varPath (.literal (.string p)) = if p = "" then .whole else .segments (p.splitOn ".") := by
  by_cases hp : p = ""
  · subst hp
    rfl
  · rw [if_neg hp, varPath.eq_def]
    split
    · rename_i h
      cases h
    · rename_i h
      cases h
      exact absurd rfl hp
    · rename_i heq
      injection heq with heq
      subst heq
      rfl
    all_goals rename_i h; cases h


/-! ## What the two forms compile to -/

section Compiling

variable {c : Catalog} {facts : Analysis} {var cat : String} {scope : Scope} {b : Nat}
  {n n' : Naming} {p : String} {br br' : Bool}

/-- The empty literal path reads the whole data; a default is not compiled. -/
theorem compile_var_empty (hvar : c.builtin? var = some .var) (rest : List Rule) :
    ((operation var (.literal (.string "") :: rest) br).compile c facts scope b).run n =
      .ok ([.load scope], n) := by
  rw [compile_var (Catalog.lookup_of_builtin? hvar), compileVar, varPath_string, if_pos rfl]
  rfl

/-- A literal path with no default: one instruction that follows its segments. -/
theorem compile_var_segments (hvar : c.builtin? var = some .var) (hp : p ≠ "") :
    ((operation var [.literal (.string p)] br).compile c facts scope b).run n =
      .ok ([.loadPath scope (p.splitOn ".")], n) := by
  rw [compile_var (Catalog.lookup_of_builtin? hvar), compileVar, varPath_string, if_neg hp]
  rfl

/-- A literal path with a default: the instruction that follows the segments, the jump past
the default, and the default's code compiled from position 0 and moved into place. -/
theorem compile_var_segments_default (hvar : c.builtin? var = some .var) (hp : p ≠ "")
    {D : Rule} {D₀ : List Instr} (hD : (D.compile c facts scope 0).run n = .ok (D₀, n')) :
    ((operation var [.literal (.string p), D] br).compile c facts scope b).run n =
      .ok ([Instr.loadPath scope (p.splitOn "."), .jumpIfPresent (b + 2 + D₀.length)] ++
        shiftJumps (b + 2) D₀, n') := by
  have hmoved := compile_relocates D scope 0 (b + 2) n D₀ n' hD
  rw [Nat.zero_add] at hmoved
  rw [compile_var (Catalog.lookup_of_builtin? hvar), compileVar, varPath_string, if_neg hp]
  simp only
  rw [CompileM.run_bind_of_ok _ hmoved, length_shiftJumps]
  rfl

/-- The path `{"cat": [p]}`: the string pushed, then turned into text. -/
theorem compile_cat_single (hcat : c.builtin? cat = some .cat) :
    ((operation cat [.literal (.string p)] br).compile c facts scope b).run n =
      .ok ([.push (.string p), .toText], n) := by
  rw [compile.eq_def]
  simp only [Catalog.lookup_of_builtin? hcat, Builtin.arity]
  rfl

/-- The path `{"cat": [p]}` with a default: the data, the path, the default's code compiled
from position 0 and moved into place, then the routine that resolves the path. -/
theorem compile_var_computed (hvar : c.builtin? var = some .var)
    (hcat : c.builtin? cat = some .cat) {D : Rule} {D₀ : List Instr}
    (hD : (D.compile c facts scope 0).run n = .ok (D₀, n')) :
    ((operation var [.operation cat [.literal (.string p)] br', D] br).compile c facts scope
        b).run n =
      .ok ([Instr.load scope] ++ [Instr.push (.string p), .toText] ++ shiftJumps (b + 3) D₀ ++
        [Instr.callRoutine .resolve 3], n') := by
  have hmoved := compile_relocates D scope 0 (b + 3) n D₀ n' hD
  rw [Nat.zero_add] at hmoved
  rw [compile_var (Catalog.lookup_of_builtin? hvar), compileVar]
  simp only [varPath]
  rw [CompileM.run_bind_of_ok _ (compile_cat_single hcat)]
  simp only [List.length_cons, List.length_nil]
  rw [show b + 1 + (0 + 1 + 1) = b + 3 by omega, CompileM.run_bind_of_ok _ hmoved]
  rfl

/-- The path `{"cat": [p]}` with no default: null stands for the default. -/
theorem compile_var_computed_null (hvar : c.builtin? var = some .var)
    (hcat : c.builtin? cat = some .cat) :
    ((operation var [.operation cat [.literal (.string p)] br'] br).compile c facts scope b).run n =
      .ok ([Instr.load scope] ++ [Instr.push (.string p), .toText] ++ [Instr.push .null] ++
        [Instr.callRoutine .resolve 3], n) := by
  rw [compile_var (Catalog.lookup_of_builtin? hvar), compileVar]
  simp only [varPath]
  rw [CompileM.run_bind_of_ok _ (compile_cat_single hcat)]
  rfl

end Compiling


/-! ## How the two forms run -/

section Running

open Machine

variable {L : Linked} {root : Value} {scope : Scope} {code : List Instr} {b : Nat} {p : String}

/-- The path `{"cat": [p]}` pushes the string `p`. -/
theorem runs_cat_single (hcode : CodeAt code b [.push (.string p), .toText]) :
    Runs L root scope code b (b + 2) (fun _ => pure (.string p)) := by
  obtain ⟨hpush, htext⟩ := CodeAt.pair.1 hcode
  have hp : Runs L root scope code b (b + 1) (fun _ => pure (.string p)) := runs_push hpush
  have h := hp.consume htext rfl (consumes_pop (g := fun v => .string v.toText) rfl)
  simpa [Value.toText] using h

/-- The empty literal path reads the whole data, as resolving it does. -/
theorem runs_var_empty (hcode : CodeAt code b [.load scope]) :
    Runs L root scope code b (b + 1) (fun d => pure (Support.resolve d (.string "") .null)) := by
  have h : Runs L root scope code b (b + 1) pure := runs_load (CodeAt.singleton.1 hcode)
  simpa [Support.resolve_string] using h

/-- A literal path with no default reads what the segments reach, or null, as resolving it
does. -/
theorem runs_var_segments (hp : p ≠ "") (hcode : CodeAt code b [.loadPath scope (p.splitOn ".")]) :
    Runs L root scope code b (b + 1) (fun d => pure (Support.resolve d (.string p) .null)) := by
  have h : Runs L root scope code b (b + 1)
      fun d => pure ((d.lookupPath (p.splitOn ".")).getD .null) :=
    runs_loadPath (CodeAt.singleton.1 hcode)
  simpa [Support.resolve_string, hp] using h

/-- A literal path with a default, the default's code running on its own as `m`: the code
runs as `literalVar p m`. -/
theorem runs_var_segments_default (hp : p ≠ "") {D₀ : List Instr} {m : Value → EvalM Value}
    (hclosed : Closed D₀) (hm : Runs L root scope D₀ 0 D₀.length m)
    (hcode : CodeAt code b ([Instr.loadPath scope (p.splitOn "."),
      .jumpIfPresent (b + 2 + D₀.length)] ++ shiftJumps (b + 2) D₀)) :
    Runs L root scope code b (b + 2 + D₀.length) (literalVar p m) := by
  rw [CodeAt.append, CodeAt.pair] at hcode
  obtain ⟨⟨hload, hjump⟩, hdefault⟩ := hcode
  simp only [List.length_cons, List.length_nil, Nat.zero_add, Nat.reduceAdd] at hdefault
  have h := Runs.loadPathOr hload hjump (by omega) (Runs.embed hclosed hdefault hm)
  -- the jump keeps what the segments reach and runs the default where they reach nothing
  convert h using 1
  funext d
  cases hl : d.lookupPath (p.splitOn ".") <;> simp [literalVar, hp, hl, Support.resolve_string]

/-- The path `{"cat": [p]}` with a default whose code runs on its own as `m`: the code runs as
`computedVar p m`, the default run first. -/
theorem runs_var_computed (hres : .resolve ∈ L.routines) {D₀ : List Instr}
    {m : Value → EvalM Value} (hclosed : Closed D₀) (hm : Runs L root scope D₀ 0 D₀.length m)
    (hcode : CodeAt code b ([Instr.load scope] ++ [Instr.push (.string p), .toText] ++
      shiftJumps (b + 3) D₀ ++ [Instr.callRoutine .resolve 3])) :
    Runs L root scope code b (b + 4 + D₀.length) (computedVar p m) := by
  have hpath : Runs L root scope code (b + 1) (b + 3) fun _ => pure (.string p) :=
    runs_cat_single hcode.left.left.right
  have hdefault : Runs L root scope code (b + 3) (b + 3 + D₀.length) m :=
    Runs.embed hclosed hcode.left.right hm
  have h := runs_loadTwoCall hcode hres (by simpa using hpath) (by simpa using hdefault)
  have hmeaning : computedVar p m = fun d => (pure (.string p) : EvalM Value) >>= fun x =>
      m d >>= fun y => routineCall .resolve [d, x, y] := by
    funext d
    simp [computedVar, routineCall]
  rw [hmeaning, show b + 4 + D₀.length = b + ([Instr.load scope] ++
    [Instr.push (.string p), .toText] ++ shiftJumps (b + 3) D₀ ++
    [Instr.callRoutine .resolve 3]).length by simp; omega]
  exact h

/-- The path `{"cat": [p]}` with no default resolves it with null. -/
theorem runs_var_computed_null (hres : .resolve ∈ L.routines)
    (hcode : CodeAt code b ([Instr.load scope] ++ [Instr.push (.string p), .toText] ++
      [Instr.push .null] ++ [Instr.callRoutine .resolve 3])) :
    Runs L root scope code b (b + 5) (fun d => pure (Support.resolve d (.string p) .null)) := by
  have hpath : Runs L root scope code (b + 1) (b + 3) fun _ => pure (.string p) :=
    runs_cat_single hcode.left.left.right
  have hnull : Runs L root scope code (b + 3) (b + 4) fun _ => pure .null :=
    runs_push (CodeAt.singleton.1 hcode.left.right)
  have h := runs_loadTwoCall hcode hres (by simpa using hpath) (by simpa using hnull)
  simpa [routineCall] using h

end Running


/-! ## The two forms side by side -/

section Forms

open Machine

variable (c : Catalog) (facts : Analysis) (L : Linked) (root : Value)

/-- `r` compiles at `b` in `scope`, from the names `n`, into code that runs as `m` wherever it is
placed at `b`. -/
def CompilesAs (scope : Scope) (b : Nat) (n : Naming) (r : Rule) (m : Value → EvalM Value) :
    Prop :=
  ∃ part n', (r.compile c facts scope b).run n = .ok (part, n') ∧
    ∀ code, CodeAt code b part → Runs L root scope code b (b + part.length) m

variable {c facts L root} {var cat : String} {scope : Scope} {b : Nat} {n n' : Naming}
  {p : String} {br br' : Bool}

/-- A literal path with no default resolves it with null. -/
theorem compilesAs_var_literal (hvar : c.builtin? var = some .var) :
    CompilesAs c facts L root scope b n (operation var [.literal (.string p)] br)
      (fun d => pure (Support.resolve d (.string p) .null)) := by
  by_cases hp : p = ""
  · subst hp
    exact ⟨_, n, compile_var_empty hvar [], fun _ hcode => runs_var_empty hcode⟩
  · exact ⟨_, n, compile_var_segments hvar hp, fun _ hcode => runs_var_segments hp hcode⟩

/-- The path `{"cat": [p]}` with no default resolves it with null. -/
theorem compilesAs_var_computed (hvar : c.builtin? var = some .var)
    (hcat : c.builtin? cat = some .cat) (hres : .resolve ∈ L.routines) :
    CompilesAs c facts L root scope b n
      (operation var [.operation cat [.literal (.string p)] br'] br)
      (fun d => pure (Support.resolve d (.string p) .null)) :=
  ⟨_, n, compile_var_computed_null hvar hcat, fun _ hcode => runs_var_computed_null hres hcode⟩

/-- A literal path with a default whose code, compiled from position 0, runs as `m`. -/
theorem compilesAs_var_literal_default (hvar : c.builtin? var = some .var) {D : Rule}
    {D₀ : List Instr} {m : Value → EvalM Value}
    (hD : (D.compile c facts scope 0).run n = .ok (D₀, n'))
    (hm : Runs L root scope D₀ 0 D₀.length m) :
    CompilesAs c facts L root scope b n (operation var [.literal (.string p), D] br)
      (literalVar p m) := by
  by_cases hp : p = ""
  · subst hp
    refine ⟨_, n, compile_var_empty hvar [D], fun _ hcode => ?_⟩
    have hwhole : literalVar "" m = fun d => pure (Support.resolve d (.string "") .null) := by
      funext d
      simp [literalVar]
    rw [hwhole]
    exact runs_var_empty hcode
  · refine ⟨_, n', compile_var_segments_default hvar hp hD, fun _ hcode => ?_⟩
    have h := runs_var_segments_default hp (closed_of_compile hD) hm hcode
    convert h using 1
    simp only [List.length_append, List.length_cons, List.length_nil, length_shiftJumps]
    omega

/-- The path `{"cat": [p]}` with a default whose code, compiled from position 0, runs as `m`. -/
theorem compilesAs_var_computed_default (hvar : c.builtin? var = some .var)
    (hcat : c.builtin? cat = some .cat) (hres : .resolve ∈ L.routines) {D : Rule}
    {D₀ : List Instr} {m : Value → EvalM Value}
    (hD : (D.compile c facts scope 0).run n = .ok (D₀, n'))
    (hm : Runs L root scope D₀ 0 D₀.length m) :
    CompilesAs c facts L root scope b n
      (operation var [.operation cat [.literal (.string p)] br', D] br) (computedVar p m) := by
  refine ⟨_, n', compile_var_computed hvar hcat hD, fun _ hcode => ?_⟩
  have h := runs_var_computed hres (closed_of_compile hD) hm hcode
  convert h using 1
  simp only [List.length_append, List.length_cons, List.length_nil, length_shiftJumps]
  omega

variable (root) {N : Naming}

/-- A literal path and the same path computed by `{"cat": [p]}` read a record alike. Without a
default both compile into code that resolves the path with null. With a default `D` that
compiles, both run `D` as one meaning `m` of it: the literal form as `literalVar p m`, which
runs the default only when the path is not empty and the record does not hold it, the computed
form as `computedVar p m`, which runs it first; wherever the default succeeds they give the same
value. This holds in every scope, at every position of every program that binds the catalog's
extensions and links the routine that resolves a path. -/
theorem var_paths_agree (hf : facts.Within c) (hN : N.Valid) (hL : L.Binds c N)
    (hvar : c.builtin? var = some .var) (hcat : c.builtin? cat = some .cat)
    (hres : .resolve ∈ L.routines) (p : String) (scope : Scope) (b : Nat) (n : Naming) :
    (CompilesAs c facts L root scope b n (operation var [.literal (.string p)] br)
        (fun d => pure (Support.resolve d (.string p) .null)) ∧
      CompilesAs c facts L root scope b n
        (operation var [.operation cat [.literal (.string p)] br'] br)
        (fun d => pure (Support.resolve d (.string p) .null))) ∧
    ∀ D D₀ n', (D.compile c facts scope 0).run n = .ok (D₀, n') → Fits L N n' D₀ →
      ∃ m, Meaning c facts D m ∧
        CompilesAs c facts L root scope b n (operation var [.literal (.string p), D] br)
          (literalVar p m) ∧
        CompilesAs c facts L root scope b n
          (operation var [.operation cat [.literal (.string p)] br', D] br) (computedVar p m) ∧
        ∀ d log v log', evalRun (m d) log = (.ok v, log') →
          (evalRun (literalVar p m d) log).1 = (evalRun (computedVar p m d) log).1 := by
  refine ⟨⟨compilesAs_var_literal hvar, compilesAs_var_computed hvar hcat hres⟩, ?_⟩
  intro D D₀ n' hD hfits
  obtain ⟨m, hm, hmean, -⟩ :=
    ((simulates_rule hf hN hL D) scope 0 n D₀ n' hD).2 D₀ CodeAt.whole hfits
  rw [Nat.zero_add] at hm
  exact ⟨m, hmean, compilesAs_var_literal_default hvar hD hm,
    compilesAs_var_computed_default hvar hcat hres hD hm,
    fun _ _ _ _ hd => literalVar_agrees hd⟩

/-- The dotted path "a.b" with the default "none", in a program that links only the routine that
resolves a path. -/
theorem var_paths_agree_dotted :
    (Analysis.ofCatalog {}).Within {} ∧ Naming.Valid {} ∧
      Linked.Binds ⟨[], [.resolve], []⟩ {} {} ∧ Catalog.builtin? {} "var" = some .var ∧
      Catalog.builtin? {} "cat" = some .cat ∧ Routine.resolve ∈ [Routine.resolve] ∧
      ((literal (.string "none")).compile {} (Analysis.ofCatalog {}) .arg 0).run {} =
        .ok ([.push (.string "none")], {}) ∧
      Fits ⟨[], [.resolve], []⟩ {} {} [.push (.string "none")] ∧
      ∃ m, Meaning {} (Analysis.ofCatalog {}) (literal (.string "none")) m ∧
        CompilesAs {} (Analysis.ofCatalog {}) ⟨[], [.resolve], []⟩ .null .arg 0 {}
          (operation "var" [.literal (.string "a.b"), .literal (.string "none")] true)
          (literalVar "a.b" m) ∧
        CompilesAs {} (Analysis.ofCatalog {}) ⟨[], [.resolve], []⟩ .null .arg 0 {}
          (operation "var" [.operation "cat" [.literal (.string "a.b")] true,
            .literal (.string "none")] true) (computedVar "a.b" m) := by
  have hD : ((literal (.string "none")).compile {} (Analysis.ofCatalog {}) .arg 0).run {} =
      .ok ([.push (.string "none")], {}) := rfl
  have hfits : Fits ⟨[], [.resolve], []⟩ {} {} [.push (.string "none")] :=
    ⟨List.prefix_refl _, fun x hx => by simp [blockRoutines, Instr.routines] at hx⟩
  have hvar : Catalog.builtin? {} "var" = some .var := rfl
  have hcat : Catalog.builtin? {} "cat" = some .cat := rfl
  obtain ⟨m, hmean, hlit, hdyn, -⟩ := (var_paths_agree (L := ⟨[], [.resolve], []⟩) .null
    (Analysis.within_ofCatalog {}) Naming.valid_empty rfl hvar hcat (List.mem_singleton_self _)
    "a.b" .arg 0 {}).2 _ _ _ hD hfits
  exact ⟨Analysis.within_ofCatalog {}, Naming.valid_empty, rfl, hvar, hcat,
    List.mem_singleton_self _, hD, hfits, m, hmean, hlit, hdyn⟩

end Forms

end Rule

end RuleMachine
