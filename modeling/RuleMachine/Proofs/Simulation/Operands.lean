import RuleMachine.Proofs.Simulation.Sequences

/-!
# Operators that take all their operands at once

Most operators compile their arguments one after the other and then take all their values with
one instruction: lists, equality and arithmetic, `max` and `min`, `merge`, `cat`, `substr`,
`log` and extension calls; `missing` first loads the data it looks in. `runsAs_seqThen` proves
such a node once, from what the instruction computes on the values and what direct evaluation
does with them; each operator then only names its instruction.
-/

namespace RuleMachine

open Machine Rule

theorem Machine.Consumes.congr {L : Linked} {root : Value} {i : Instr} {n : Nat}
    {f g : List Value → EvalM Value} (h : Consumes L root i n f)
    (hfg : ∀ vs, vs.length = n → f vs = g vs) : Consumes L root i n g :=
  fun vs rest st hlen hst => hfg vs hlen ▸ h vs rest st hlen hst

section Operands

variable {c : Catalog} {facts : Analysis} {L : Linked} {root : Value} {N : Naming}

/-- The arguments of an operation satisfy what the operation does. -/
theorem subRules {key : String} {args : List Rule} {br : Bool}
    (hs : (operation key args br).Scalar) (hk : (operation key args br).KeepsNumbers facts c) :
    ∀ a ∈ args, a.Scalar ∧ a.KeepsNumbers facts c :=
  fun _ ha => ⟨hs.of_mem_args ha, hk.of_mem_args ha⟩

/-- An analysis within the catalog's calls no rule an array that the catalog does not. -/
theorem Analysis.Within.array_absurd (hf : facts.Within c) {r : Rule} (hr : r.isArray c = false)
    {p : Prop} (h : facts.isArray r = true) : p :=
  absurd (hf.isArray r h) (by simp [hr])

/-- Arguments compiled one after the other, placed with an instruction `i` that takes their
values and gives what `g` gives. -/
theorem runsAs_seqThen_of {r : Rule} {args : List Rule} {i : Instr} {g : List Value → EvalM Value}
    {scope : Scope} {base : Nat} {n n' : Naming} {code₁ : List Instr}
    (hargs : SimulatesSeq c facts L root N args)
    (h₁ : (compileSeq c facts scope base args).run n = .ok (code₁, n'))
    (hflow : i.flows) (hreads : readsData [i] = false)
    (hcons : (∀ x ∈ i.routines, x ∈ L.routines) → Consumes L root i args.length g)
    (hsafe : ∀ vs, Fails (g vs) EvalError.Allowed)
    (harray : facts.isArray r = true → ∀ vs, Gives (g vs) (·.isArray = true))
    (hsub : r.Scalar → r.KeepsNumbers facts c → ∀ a ∈ args, a.Scalar ∧ a.KeepsNumbers facts c)
    (heval : r.Scalar → r.KeepsNumbers facts c → ∀ d, r.evaluate c d = evaluateAll c d args >>= g)
    (code : List Instr) (hcode : CodeAt code base (code₁ ++ [i]))
    (hfits : Fits L N n' (code₁ ++ [i])) : RunsAs c facts L root scope code base (code₁ ++ [i]) r := by
  obtain ⟨-, hr₁⟩ := hargs scope base n code₁ n' h₁
  rw [CodeAt.append, CodeAt.singleton] at hcode
  obtain ⟨ms, hms, hmean, hfree⟩ := hr₁ code hcode.1 (hfits.left (List.prefix_refl _))
  have hroutines : ∀ x ∈ i.routines, x ∈ L.routines :=
    fun x hx => hfits.routines x (by simp [hx])
  refine ⟨fun d => ms d >>= g, ?_, ⟨?_, ?_, ?_⟩, ?_⟩
  · simpa [Nat.add_assoc] using hms.consume (fun d => hmean.length d) hcode.2 hflow (hcons hroutines)
  · exact fun d => (hmean.safe d).bind_of hsafe
  · exact fun h d => Gives.bind_any (harray h)
  · intro hs hk d
    rw [heval hs hk d, hmean.eval (hsub hs hk) d]
  · intro hread hsc acc x index src
    simp only [readsData_append, hreads, Bool.or_false] at hread
    simp only [hfree hread hsc acc x index src]

/-- Arguments compiled one after the other and an instruction `i`, calling no extension, that
takes their values and gives what `g` gives. -/
theorem runsAs_seqThen {r : Rule} {args : List Rule} {i : Instr} {g : List Value → EvalM Value}
    {scope : Scope} {base : Nat} {n n' : Naming} {part : List Instr}
    (hargs : SimulatesSeq c facts L root N args)
    (hc : (do
      let code ← compileSeq c facts scope base args
      pure (code ++ [i]) : CompileM (List Instr)).run n = .ok (part, n'))
    (hflow : i.flows) (hslots : i.slots = []) (hreads : readsData [i] = false)
    (hcons : (∀ x ∈ i.routines, x ∈ L.routines) → Consumes L root i args.length g)
    (hsafe : ∀ vs, Fails (g vs) EvalError.Allowed)
    (harray : facts.isArray r = true → ∀ vs, Gives (g vs) (·.isArray = true))
    (hsub : r.Scalar → r.KeepsNumbers facts c → ∀ a ∈ args, a.Scalar ∧ a.KeepsNumbers facts c)
    (heval : r.Scalar → r.KeepsNumbers facts c → ∀ d, r.evaluate c d = evaluateAll c d args >>= g) :
    Tracked n part n' ∧ ∀ code, CodeAt code base part → Fits L N n' part →
      RunsAs c facts L root scope code base part r := by
  obtain ⟨code₁, h₁, rfl⟩ := CompileM.run_bind_pure_ok hc
  exact ⟨((hargs scope base n code₁ _ h₁).1).append (Tracked.of_slots (by simp [hslots])),
    runsAs_seqThen_of hargs h₁ hflow hreads hcons hsafe harray hsub heval⟩

variable {key : String} {args : List Rule} {br : Bool}

/-- The binary operators: the instruction each compiles to and the value it gives of its two
operands. -/
def Builtin.binaryStep : Builtin → Option (Instr × (Value → Value → Value))
  | .eq => some (.eq, fun a b => .bool (a.looseEq b))
  | .strictEq => some (.strictEq, fun a b => .bool (a.strictEq b))
  | .ne => some (.ne, fun a b => .bool !(a.looseEq b))
  | .strictNe => some (.strictNe, fun a b => .bool !(a.strictEq b))
  | .div => some (.div, Value.arith Binary64.div)
  | .mod => some (.mod, Value.arith Binary64.fmod)
  | _ => none

/-- The binary operators: both operands, then one instruction. -/
theorem simulates_binary {b : Builtin} {step : Instr × (Value → Value → Value)}
    (hf : facts.Within c) (hb : c.builtin? key = some b) (hstep : b.binaryStep = some step)
    (ih : ∀ a ∈ args, Simulates c facts L root N a) :
    Simulates c facts L root N (.operation key args br) := by
  intro scope base n part n' hc
  have hnot : (operation key args br).isArray c = false := by
    cases b <;> simp_all [isArray, builtinIn, Builtin.binaryStep]
  rw [compile.eq_def] at hc
  simp only [Catalog.lookup_of_builtin? hb] at hc
  cases b <;> simp only [Builtin.binaryStep, reduceCtorEq, Option.some.injEq] at hstep
  all_goals
    subst hstep
    simp only [Builtin.arity, Builtin.exactly, Arity.admits] at hc
    obtain ⟨hadm, hc⟩ := CompileM.run_unless_throw_ok hc
    have h2 : args.length = 2 := by rw [admits_eq_false] at hadm; omega
    refine runsAs_seqThen (simulatesSeq ih) hc rfl rfl rfl (fun _ => h2 ▸ consumes_pop₂ rfl)
      (fun _ => Fails.pure _) (hf.array_absurd hnot) subRules fun _ _ d => ?_
    rw [evaluate.eq_def]
    simp only [Catalog.lookup_of_builtin? hb, Builtin.arity, Builtin.exactly, Arity.admits, hadm,
      Bool.false_eq_true, ↓reduceIte]

/-- `max` and `min`: the instruction each compiles to, for a number of operands, and the value
it gives of them. -/
def Builtin.extremeStep : Builtin → Option ((Nat → Instr) × (List Value → Value))
  | .max => some (.max, Value.maximum)
  | .min => some (.min, Value.minimum)
  | _ => none

/-- `max` and `min`: all operands, then one instruction. -/
theorem simulates_extreme {b : Builtin} {step : (Nat → Instr) × (List Value → Value)}
    (hf : facts.Within c) (hb : c.builtin? key = some b) (hstep : b.extremeStep = some step)
    (ih : ∀ a ∈ args, Simulates c facts L root N a) :
    Simulates c facts L root N (.operation key args br) := by
  intro scope base n part n' hc
  have hnot : (operation key args br).isArray c = false := by
    cases b <;> simp_all [isArray, builtinIn, Builtin.extremeStep]
  rw [compile.eq_def] at hc
  simp only [Catalog.lookup_of_builtin? hb] at hc
  cases b <;> simp only [Builtin.extremeStep, reduceCtorEq, Option.some.injEq] at hstep
  all_goals
    subst hstep
    simp only [Builtin.arity] at hc
    refine runsAs_seqThen (simulatesSeq ih) hc rfl rfl rfl (fun _ => consumes_popN rfl)
      (fun _ => Fails.pure _) (hf.array_absurd hnot) subRules fun _ _ d => ?_
    rw [evaluate.eq_def]
    simp only [Catalog.lookup_of_builtin? hb, Builtin.arity]

/-- `-`: a negation of one operand or a difference of two. -/
theorem simulates_sub (hf : facts.Within c) (hb : c.builtin? key = some .sub)
    (ih : ∀ a ∈ args, Simulates c facts L root N a) :
    Simulates c facts L root N (.operation key args br) := by
  intro scope base n part n' hc
  rw [compile.eq_def] at hc
  simp only [Catalog.lookup_of_builtin? hb, Builtin.arity, Arity.admits] at hc
  obtain ⟨hadm, hc⟩ := CompileM.run_unless_throw_ok hc
  rw [admits_eq_false] at hadm
  have hcons : Consumes L root (if args.length == 1 then .neg else .sub) args.length
      fun vs => pure (difference vs) := by
    rcases (show args.length = 1 ∨ args.length = 2 by omega) with h1 | h2
    · simp only [h1, beq_self_eq_true, ↓reduceIte]
      refine (consumes_pop rfl).congr fun vs hvs => ?_
      obtain ⟨a, rfl⟩ := List.length_eq_one_iff.1 hvs
      rfl
    · simp only [h2, Nat.reduceBEq, Bool.false_eq_true, ↓reduceIte]
      refine (consumes_pop₂ rfl).congr fun vs hvs => ?_
      obtain ⟨a, b, rfl⟩ := List.length_eq_two.1 hvs
      rfl
  refine runsAs_seqThen (simulatesSeq ih) hc (by split <;> rfl) (by split <;> rfl)
    (by split <;> rfl) (fun _ => hcons) (fun _ => Fails.pure _)
    (hf.array_absurd (by simp [isArray, builtinIn, hb])) subRules fun _ _ d => ?_
  rw [evaluate.eq_def]
  simp only [Catalog.lookup_of_builtin? hb, Builtin.arity, Arity.admits, admits_eq_false.2 hadm,
    Bool.false_eq_true, ↓reduceIte]

/-- `substr`: its two or three operands, then the routine. -/
theorem simulates_substr (hf : facts.Within c) (hb : c.builtin? key = some .substr)
    (ih : ∀ a ∈ args, Simulates c facts L root N a) :
    Simulates c facts L root N (.operation key args br) := by
  intro scope base n part n' hc
  rw [compile.eq_def] at hc
  simp only [Catalog.lookup_of_builtin? hb, Builtin.arity, Arity.admits] at hc
  obtain ⟨hadm, hc⟩ := CompileM.run_unless_throw_ok hc
  refine runsAs_seqThen (simulatesSeq ih) hc rfl rfl rfl
    (fun h => consumes_callRoutine (h .substr (by simp [Instr.routines])) _)
    (fun _ => Fails.pure _)
    (hf.array_absurd (by simp [isArray, builtinIn, hb])) subRules fun _ _ d => ?_
  rw [evaluate.eq_def]
  simp only [Catalog.lookup_of_builtin? hb, Builtin.arity, Arity.admits, hadm, Bool.false_eq_true,
    ↓reduceIte]
  rfl

/-- `log`: its operand, then the routine that records it. -/
theorem simulates_log (hf : facts.Within c) (hb : c.builtin? key = some .log)
    (ih : ∀ a ∈ args, Simulates c facts L root N a) :
    Simulates c facts L root N (.operation key args br) := by
  intro scope base n part n' hc
  rw [compile.eq_def] at hc
  simp only [Catalog.lookup_of_builtin? hb, Builtin.arity, Builtin.exactly, Arity.admits] at hc
  obtain ⟨hadm, hc⟩ := CompileM.run_unless_throw_ok hc
  have h1 : args.length = 1 := by rw [admits_eq_false] at hadm; omega
  refine runsAs_seqThen (g := routineCall .log) (simulatesSeq ih) hc rfl rfl rfl
    (fun h => by rw [h1]; exact consumes_callRoutine (h .log (by simp [Instr.routines])) 1)
    (fun _ => (Fails.modify _).bind_of fun _ => Fails.pure _)
    (hf.array_absurd (by simp [isArray, builtinIn, hb])) subRules fun _ _ d => ?_
  obtain ⟨operand, rfl⟩ := List.length_eq_one_iff.1 h1
  rw [evaluate.eq_def]
  simp only [Catalog.lookup_of_builtin? hb, Builtin.arity, Builtin.exactly, Arity.admits, hadm,
    Bool.false_eq_true, ↓reduceIte, evaluateAll, bind_assoc, pure_bind]
  rfl

/-! ## Constants -/

theorem evaluateAll_of_constantItems {items : List Rule}
    (h : ∀ r ∈ items, ∀ {v}, r.constant? = some v → ∀ d, r.evaluate c d = pure v) :
    ∀ {vs}, constantItems items = some vs → ∀ d, evaluateAll c d items = pure vs := by
  induction items with
  | nil =>
    intro vs hvs d
    simp only [constantItems, Option.some.injEq] at hvs
    subst hvs
    rw [evaluateAll]
  | cons r rest ih =>
    intro vs hvs d
    rw [constantItems] at hvs
    split at hvs
    · rename_i v vs' hv hvs'
      simp only [Option.some.injEq] at hvs
      subst hvs
      rw [evaluateAll, h r (by simp) hv d, ih (fun x hx => h x (by simp [hx])) hvs' d]
      rfl
    · cases hvs

/-- A rule made of literals and lists only evaluates to its constant value. -/
theorem evaluate_of_constant (r : Rule) : ∀ {v}, r.constant? = some v → ∀ d, r.evaluate c d = pure v := by
  induction r using Rule.induction with
  | literal w =>
    intro v hv d
    simp only [constant?, Option.some.injEq] at hv
    subst hv
    rw [evaluate]
  | list items ih =>
    intro v hv d
    simp only [constant?, Option.map_eq_some_iff] at hv
    obtain ⟨vs, hvs, rfl⟩ := hv
    rw [evaluate, evaluateAll_of_constantItems ih hvs d, pure_bind]
  | operation => simp [constant?]

/-- A constant pushed by one instruction. -/
theorem runsAs_push {r : Rule} {v : Value} {scope : Scope} {code : List Instr} {base : Nat}
    (hcode : CodeAt code base [.push v]) (harray : facts.isArray r = true → v.isArray = true)
    (heval : r.Scalar → r.KeepsNumbers facts c → ∀ d, r.evaluate c d = pure v) :
    RunsAs c facts L root scope code base [.push v] r :=
  ⟨fun _ => pure v, runs_push (CodeAt.singleton.1 hcode),
    ⟨fun _ => Fails.pure _, fun h _ => Gives.pure (harray h), fun hs hk d => (heval hs hk d).symm⟩,
    fun _ _ _ _ _ _ => rfl⟩

/-! ## Lists and the operators that gather arrays or texts -/

/-- A list: a constant array, or its items one after the other and the array of them. -/
theorem simulates_list {items : List Rule} (ih : ∀ a ∈ items, Simulates c facts L root N a) :
    Simulates c facts L root N (.list items) := by
  intro scope base n part n' hc
  rw [compile] at hc
  split at hc
  · rename_i vs hvs
    obtain ⟨rfl, rfl⟩ := CompileM.run_pure_ok hc
    refine ⟨Tracked.of_slots rfl, fun code hcode _ => runsAs_push hcode (fun _ => rfl)
      fun _ _ d => evaluate_of_constant (.list items) (by simp [constant?, hvs]) d⟩
  · exact runsAs_seqThen (simulatesSeq ih) hc rfl rfl rfl (fun _ => consumes_makeArray _)
      (fun _ => Fails.pure _) (fun _ _ => Gives.pure rfl)
      (fun hs hk _ ha => ⟨hs.of_mem_items ha, hk.of_mem_items ha⟩)
      fun _ _ d => by rw [evaluate]

/-- `merge`: a constant array, or its operands one after the other and their concatenation. -/
theorem simulates_merge (hb : c.builtin? key = some .merge)
    (ih : ∀ a ∈ args, Simulates c facts L root N a) :
    Simulates c facts L root N (.operation key args br) := by
  intro scope base n part n' hc
  have heval : ∀ d, (operation key args br).evaluate c d =
      evaluateAll c d args >>= fun vs => pure (.array (Value.flattenOnce vs)) := by
    intro d
    rw [evaluate.eq_def]
    simp only [Catalog.lookup_of_builtin? hb, Builtin.arity]
  rw [compile.eq_def] at hc
  simp only [Catalog.lookup_of_builtin? hb, Builtin.arity] at hc
  split at hc
  · rename_i vs hvs
    obtain ⟨rfl, rfl⟩ := CompileM.run_pure_ok hc
    refine ⟨Tracked.of_slots rfl, fun code hcode _ => runsAs_push hcode (fun _ => rfl)
      fun _ _ d => ?_⟩
    rw [heval, evaluateAll_of_constantItems (fun r _ => evaluate_of_constant r) hvs d, pure_bind]
  · -- arrays are concatenated by an instruction, anything else by the routine; both flatten
    by_cases hall : args.all facts.isArray = true
    · simp only [hall, ↓reduceIte] at hc
      exact runsAs_seqThen (simulatesSeq ih) hc rfl rfl rfl (fun _ => consumes_concat _)
        (fun _ => Fails.pure _) (fun _ _ => Gives.pure rfl) subRules fun _ _ => heval
    · simp only [hall, Bool.false_eq_true, ↓reduceIte] at hc
      exact runsAs_seqThen (simulatesSeq ih) hc rfl rfl rfl
        (fun h => consumes_callRoutine (h .merge (by simp [Instr.routines])) _)
        (fun _ => Fails.pure _) (fun _ _ => Gives.pure rfl) subRules fun _ _ => heval

/-- `cat`: the empty text for no operand, the text of one, or the texts of several joined. -/
theorem simulates_cat (hf : facts.Within c) (hb : c.builtin? key = some .cat)
    (ih : ∀ a ∈ args, Simulates c facts L root N a) :
    Simulates c facts L root N (.operation key args br) := by
  intro scope base n part n' hc
  have heval : ∀ d, (operation key args br).evaluate c d =
      evaluateAll c d args >>= fun vs => pure (concatenation vs) := by
    intro d
    rw [evaluate.eq_def]
    simp only [Catalog.lookup_of_builtin? hb, Builtin.arity]
  have hnot : (operation key args br).isArray c = false := by simp [isArray, builtinIn, hb]
  rw [compile.eq_def] at hc
  simp only [Catalog.lookup_of_builtin? hb, Builtin.arity] at hc
  split at hc
  · rename_i hempty
    obtain ⟨rfl, rfl⟩ := CompileM.run_pure_ok hc
    rw [List.isEmpty_iff] at hempty
    subst hempty
    exact ⟨Tracked.of_slots rfl, fun code hcode _ => runsAs_push hcode (hf.array_absurd hnot)
      fun _ _ d => by rw [heval, evaluateAll, pure_bind]; rfl⟩
  · split at hc
    · rename_i _ h1
      simp only [beq_iff_eq] at h1
      refine runsAs_seqThen (simulatesSeq ih) hc rfl rfl rfl (fun _ => ?_) (fun _ => Fails.pure _)
        (hf.array_absurd hnot) subRules fun _ _ => heval
      rw [h1]
      refine (consumes_pop rfl).congr fun vs hvs => ?_
      obtain ⟨a, rfl⟩ := List.length_eq_one_iff.1 hvs
      rfl
    · rename_i hne h1
      simp only [beq_iff_eq] at h1
      refine runsAs_seqThen (simulatesSeq ih) hc rfl rfl rfl
        (fun _ => (consumes_join _).congr fun vs hvs => ?_) (fun _ => Fails.pure _)
        (hf.array_absurd hnot) subRules fun _ _ => heval
      rcases vs with _ | ⟨_, _ | ⟨_, _⟩⟩
      · exact absurd (List.length_eq_zero_iff.1 hvs.symm) (by simpa using hne)
      · exact absurd hvs.symm h1
      · rfl

/-! ## Operators that read the data or call extensions -/

/-- `missing`: the data, the keys one after the other, then the routine. -/
theorem simulates_missing (hb : c.builtin? key = some .missing)
    (ih : ∀ a ∈ args, Simulates c facts L root N a) :
    Simulates c facts L root N (.operation key args br) := by
  intro scope base n part n' hc
  obtain ⟨code₁, h₁, rfl⟩ := compile_missing_ok (Catalog.lookup_of_builtin? hb) hc
  obtain ⟨t₁, hr₁⟩ := simulatesSeq ih scope (base + 1) n code₁ _ h₁
  refine ⟨((Tracked.of_slots rfl).append t₁).append (Tracked.of_slots rfl),
    fun code hcode hfits => ?_⟩
  rw [CodeAt.append, CodeAt.append, CodeAt.singleton, CodeAt.singleton] at hcode
  obtain ⟨⟨hload, hc₁⟩, hcall⟩ := hcode
  obtain ⟨ms, hms, hmean, hfree⟩ := hr₁ code hc₁ (hfits.left (List.prefix_refl _)).right
  have hrun := (RunsAll.cons (runs_load hload) hms).consume (n := args.length + 1)
    (fun d => Gives.bind_any fun _ => (hmean.length d).bind fun vs hvs => Gives.pure (by simp [hvs]))
    (by rw [show base + 1 + code₁.length = base + ([Instr.load scope] ++ code₁).length by
      simp only [List.length_append, List.length_singleton]; omega]; exact hcall) rfl
    (consumes_callRoutine (hfits.routines .missing (by simp [blockRoutines, Instr.routines])) _)
  have hm : (fun d => (do let v ← pure d; let vs ← ms d; pure (v :: vs)) >>= routineCall .missing) =
      fun d => ms d >>= fun vs => pure (.array (Support.missing d vs)) := by
    funext d
    simp only [pure_bind, bind_assoc]
    rfl
  rw [hm] at hrun
  refine ⟨_, by simpa [Nat.add_assoc, Nat.add_comm, Nat.add_left_comm] using hrun,
    ⟨fun d => (hmean.safe d).bind_of fun _ => Fails.pure _,
      fun _ d => Gives.bind_any fun _ => Gives.pure rfl, fun hs hk d => ?_⟩, ?_⟩
  · rw [hmean.eval (subRules hs hk) d, evaluate.eq_def]
    simp only [Catalog.lookup_of_builtin? hb, Builtin.arity]
  · -- the code loads the whole data, so it reads `data` in a reduce body
    intro hread hsc
    subst hsc
    simp [readsData] at hread

/-- An extension: the operands one after the other, then a call of the extension's slot. -/
theorem simulates_extension {op : Operation} (hf : facts.Within c)
    (hl : c.lookup key = some (.extension op)) (hN : N.Valid) (hL : L.Binds c N)
    (ih : ∀ a ∈ args, Simulates c facts L root N a) :
    Simulates c facts L root N (.operation key args br) := by
  intro scope base n part n' hc
  have hnone : c.builtin? key = none := by simp [Catalog.builtin?, hl]
  obtain ⟨code₁, h₁, rfl⟩ := compile_extension_ok hl hc
  obtain ⟨t₁, -⟩ := simulatesSeq ih scope base _ code₁ _ h₁
  have hlookup := Naming.lookup_resolve n key
  refine ⟨⟨(Naming.bindings_prefix_resolve n key).trans t₁.grows,
      fun hn => t₁.valid (hn.resolve key), fun hn s hs => ?_⟩, fun code hcode hfits => ?_⟩
  · simp only [blockSlots_append, blockSlots_singleton, Instr.slots, List.mem_append,
      List.mem_singleton] at hs
    rcases hs with hs | rfl
    · exact t₁.slots (hn.resolve key) s hs
    · have hat := (hn.resolve key).getElem?_slot hlookup
      exact Nat.lt_of_lt_of_le (List.getElem?_eq_some_iff.1 hat).1 t₁.grows.length_le
  · have hatN := hN.getElem?_slot
      (Naming.lookup_of_prefix (t₁.grows.trans hfits.within) hlookup)
    have hop : L.operations[(n.resolve key).1.slot]? = some (key, op) := by
      have hext : c.extensions.lookup key = some op := by
        unfold Catalog.lookup at hl
        split at hl <;> simp_all
      rw [hL, List.getElem?_map, hatN]
      simp [hext]
    exact runsAs_seqThen_of (simulatesSeq ih) h₁ rfl rfl (fun _ => consumes_callOp hop _)
      (fun vs => (Fails.modify _).bind_of fun _ => by split; exacts [Fails.pure _, Fails.throw trivial])
      (hf.array_absurd (by simp [isArray, builtinIn, hnone])) subRules
      (fun _ _ d => by rw [evaluate.eq_def]; simp only [hl]) code hcode hfits

/-! ## Sums and products -/

/-- The conversion compiled code makes of an operand of `+`: none when `facts` calls the operand
numeric. -/
def numberConv (facts : Analysis) (r : Rule) (v : Value) : Value :=
  if facts.isNumeric r then v else v.number

theorem converts_numberCall : Converts L root (numberCall facts) (numberConv facts) := by
  intro r scope code b p m hm hcode
  unfold numberCall at hcode ⊢
  unfold numberConv
  cases hn : facts.isNumeric r
  · simp only [hn, Bool.false_eq_true, ↓reduceIte] at hcode ⊢
    exact hm.consume (CodeAt.singleton.1 hcode) rfl (consumes_pop rfl)
  · simp only [↓reduceIte, List.length_nil, Nat.add_zero, bind_pure]
    exact hm

/-- An operand of `+` whose conversion is left out gives a value that the conversion keeps, as
far as `KeepsNumbers` asks: a computed number always, a literal as the rule promises. -/
theorem keepsNumber_of_kept (hf : facts.Within c) {r : Rule} (hr : facts.isNumeric r = true)
    {lone : Bool} (hlit : ∀ v, r = .literal v → KeepsNumber lone v) (d : Value) :
    Gives (r.evaluate c d) (KeepsNumber lone) := by
  cases r with
  | literal v =>
    rw [evaluate]
    exact Gives.pure (hlit v rfl)
  | list => exact absurd (hf.isNumeric _ hr) (by simp [isNumeric])
  | operation key args br =>
    refine (number_eq_of_isNumeric (hf.isNumeric _ hr) (by simp) d).mono fun v hv => ?_
    cases lone <;> simp [KeepsNumber, hv]

/-- `+`: each operand converted unless numeric, added into the first as it comes. -/
theorem simulates_add (hf : facts.Within c) (hb : c.builtin? key = some .add)
    (ih : ∀ a ∈ args, Simulates c facts L root N a) :
    Simulates c facts L root N (.operation key args br) := by
  intro scope base n part n' hc
  rw [compile.eq_def] at hc
  simp only [Catalog.lookup_of_builtin? hb, Builtin.arity, Arity.admits] at hc
  obtain ⟨hadm, hc⟩ := CompileM.run_unless_throw_ok hc
  have hne : args ≠ [] := by
    intro h
    simp [h] at hadm
  obtain ⟨r, rest, rfl⟩ := List.exists_cons_of_ne_nil hne
  rw [compileSum] at hc
  simp only [↓reduceIte, List.append_nil] at hc
  obtain ⟨code₁, n₁, h₁, hc⟩ := CompileM.run_bind_ok hc
  obtain ⟨code₂, h₂, rfl⟩ := CompileM.run_bind_pure_ok hc
  have htail := @simulatesFoldTail c facts L root N
    (fun s b => compileSum c facts s b false) _ _ Value.number _ _ (fun _ _ => by rw [compileSum])
    (fun _ _ _ _ => by rw [compileSum]; simp only [Bool.false_eq_true, ↓reduceIte])
    (converts_numberCall : Converts L root (numberCall facts) (numberConv facts))
    (fun x => by unfold numberCall; split <;> simp [blockSlots, blockRoutines, Instr.slots,
      Instr.routines, readsData])
    (consumes_pop₂ (i := .add) rfl) rfl ⟨rfl, rfl, rfl⟩
    rest (fun x (hx : x ∈ rest) => ih x (List.mem_cons_of_mem r hx))
  obtain ⟨t₁, hr₁⟩ := ih r (by simp) scope base n code₁ n₁ h₁
  obtain ⟨t₂, hr₂⟩ := htail scope _ n₁ code₂ _ h₂
  have hconvQuiet : blockSlots (numberCall facts r) = [] ∧ blockRoutines (numberCall facts r) = [] ∧
      readsData (numberCall facts r) = false := by
    unfold numberCall
    split <;> simp [blockSlots, blockRoutines, Instr.slots, Instr.routines, readsData]
  refine ⟨(t₁.append (Tracked.of_slots hconvQuiet.1)).append t₂, fun code hcode hfits => ?_⟩
  rw [CodeAt.append, CodeAt.append] at hcode
  obtain ⟨⟨hc₁, hcx⟩, hc₂⟩ := hcode
  obtain ⟨m, hm, hmean, hfree⟩ := hr₁ code hc₁ ((hfits.left t₂.grows).left (List.prefix_refl _))
  obtain ⟨F, hF, hsafe, heval, hFfree⟩ := hr₂ code hc₂ hfits.right
  have hfirst := converts_numberCall r scope code base _ m hm hcx
  rw [List.length_append, ← Nat.add_assoc] at hF
  have hend : base + (code₁ ++ numberCall facts r ++ code₂).length =
      base + code₁.length + (numberCall facts r).length + code₂.length := by
    simp only [List.length_append]
    omega
  refine ⟨_, (by rw [hend]; exact hfirst.fold hF), ⟨?_, ?_, ?_⟩, ?_⟩
  · exact fun d => ((hmean.safe d).bind_of fun _ => Fails.pure _).bind_of fun a => hsafe a d
  · exact hf.array_absurd (by simp [isArray, builtinIn, hb])
  · intro hs hk d
    have hkeep := hk.self
    simp only at hkeep
    have hkept : ∀ x ∈ r :: rest, facts.isNumeric x = true →
        ∀ d, Gives (x.evaluate c d) (KeepsNumber ((r :: rest).length == 1)) :=
      fun x hx hx' => keepsNumber_of_kept hf hx' fun v hv => ((hkeep v (hv ▸ hx) (hv ▸ hx')).1 hb)
    have htailEval := heval fun x hx => ⟨hs.of_mem_args (List.mem_cons_of_mem r hx),
      hk.of_mem_args (List.mem_cons_of_mem r hx), fun d => by
        unfold numberConv
        split
        · rename_i hx'
          refine (hkept x (by simp [hx]) hx' d).mono fun v hv => ?_
          have hlen : ((r :: rest).length == 1) = false := by
            cases rest with
            | nil => simp at hx
            | cons => simp
          simp only [KeepsNumber, hlen, Bool.false_eq_true, ↓reduceIte] at hv
          exact hv.symm
        · exact (Gives.any _).mono fun _ _ => rfl⟩
    -- the first operand starts the sum: as a value alone, as a number among others
    have hstart : Gives (r.evaluate c d) fun v => ∀ vs : List Value, vs.length = rest.length →
        vs.foldl (fun a w => Value.arith Binary64.add a w.number) (numberConv facts r v) =
          vs.foldl (fun a w => Value.arith Binary64.add a w.number) v.number := by
      unfold numberConv
      split
      · rename_i hr
        refine (hkept r (by simp) hr d).mono fun v hv vs hvs => ?_
        cases rest with
        | nil =>
          simp only [List.length_cons, List.length_nil, Nat.reduceAdd, beq_self_eq_true,
            KeepsNumber, ↓reduceIte] at hv
          rw [hv]
        | cons y ys =>
          have hlen : ((r :: y :: ys).length == 1) = false := by simp
          simp only [KeepsNumber, hlen, Bool.false_eq_true, ↓reduceIte] at hv
          exact foldl_arith_congr hv.symm (List.ne_nil_of_length_pos (by simp [hvs]))
      · exact (Gives.any _).mono fun _ _ _ _ => rfl
    rw [hmean.eval (hs.of_mem_args (by simp)) (hk.of_mem_args (by simp)) d]
    simp only [htailEval, bind_assoc, pure_bind]
    rw [evaluate.eq_def c d (operation key (r :: rest) br)]
    simp only [Catalog.lookup_of_builtin? hb, Builtin.arity, Arity.admits, hadm,
      Bool.false_eq_true, ↓reduceIte, evaluateAll, bind_assoc, pure_bind, sum]
    refine hstart.bind_congr fun v hv => ?_
    refine (evaluateAll_length c d rest).bind_congr fun vs hvs => ?_
    rw [hv vs hvs]
  · intro hread hsc acc x index src
    simp only [readsData_append, Bool.or_eq_false_iff] at hread
    have hF' (b : Value) := hFfree hread.2 hsc b acc x index src
    simp only [hfree hread.1.1 hsc acc x index src, hF']

theorem converts_none : Converts L root (fun _ => []) fun _ v => v := by
  intro r scope code b p m hm _
  simpa using hm

/-- `*`: a lone operand converted unless numeric, or the operands multiplied as they come. -/
theorem simulates_mul (hf : facts.Within c) (hb : c.builtin? key = some .mul)
    (ih : ∀ a ∈ args, Simulates c facts L root N a) :
    Simulates c facts L root N (.operation key args br) := by
  intro scope base n part n' hc
  have hnot : (operation key args br).isArray c = false := by simp [isArray, builtinIn, hb]
  have hadm := compile_admits (Catalog.lookup_of_builtin? hb) rfl hc
  have heval : ∀ d, (operation key args br).evaluate c d =
      evaluateAll c d args >>= fun vs => pure (product vs) := by
    intro d
    rw [evaluate.eq_def]
    simp only [Catalog.lookup_of_builtin? hb, Builtin.arity, hadm, Bool.not_true,
      Bool.false_eq_true, ↓reduceIte]
  rcases compile_mul_ok (Catalog.lookup_of_builtin? hb) hc with
    ⟨single, code₁, rfl, h₁, rfl⟩ | ⟨h2, hc⟩
  · -- a lone operand
    obtain ⟨t₁, hr₁⟩ := ih single (by simp) scope base n code₁ _ h₁
    have hconvQuiet : blockSlots (numberCall facts single) = [] ∧
        readsData (numberCall facts single) = false := by
      unfold numberCall
      split <;> simp [blockSlots, Instr.slots, readsData]
    refine ⟨t₁.append (Tracked.of_slots hconvQuiet.1), fun code hcode hfits => ?_⟩
    rw [CodeAt.append] at hcode
    obtain ⟨m, hm, hmean, hfree⟩ := hr₁ code hcode.1 (hfits.left (List.prefix_refl _))
    have hrun := (converts_numberCall : Converts L root (numberCall facts) (numberConv facts))
      single scope code base _ m hm hcode.2
    refine ⟨_, by simpa [Nat.add_assoc] using hrun,
      ⟨fun d => (hmean.safe d).bind_of fun _ => Fails.pure _, hf.array_absurd hnot, ?_⟩, ?_⟩
    · intro hs hk d
      have hkeep := hk.self
      simp only at hkeep
      rw [hmean.eval (hs.of_mem_args (by simp)) (hk.of_mem_args (by simp)) d, heval,
        evaluateAll, evaluateAll]
      simp only [bind_assoc, pure_bind, product]
      unfold numberConv
      split
      · rename_i hr
        refine ((@keepsNumber_of_kept _ _ hf _ hr true fun v hv =>
          ?_) d).bind_congr fun v hv => ?_
        · subst hv
          simpa [KeepsNumber] using (hkeep v (by simp) hr).2 hb rfl
        · simp only [KeepsNumber, ↓reduceIte] at hv
          rw [hv]
      · rfl
    · intro hread hsc acc x index src
      simp only [readsData_append, hconvQuiet.2, Bool.or_false] at hread
      simp only [hfree hread hsc acc x index src]
  · -- several operands
    obtain ⟨r, rest, rfl⟩ :=
      List.exists_cons_of_ne_nil (List.ne_nil_of_length_pos (show 0 < args.length by omega))
    have hrest : rest ≠ [] := by
      rintro rfl
      simp at h2
    rw [compileProduct] at hc
    simp only [↓reduceIte, List.append_nil] at hc
    obtain ⟨code₁, n₁, h₁, hc⟩ := CompileM.run_bind_ok hc
    obtain ⟨code₂, h₂, rfl⟩ := CompileM.run_bind_pure_ok hc
    have htail := @simulatesFoldTail c facts L root N
      (fun s b => compileProduct c facts s b false) _ _ id _ _ (fun _ _ => by rw [compileProduct])
      (fun _ _ _ _ => by rw [compileProduct]; simp) converts_none (fun _ => ⟨rfl, rfl, rfl⟩)
      (consumes_pop₂ (i := .mul) rfl) rfl ⟨rfl, rfl, rfl⟩
      rest (fun x (hx : x ∈ rest) => ih x (List.mem_cons_of_mem r hx))
    obtain ⟨t₁, hr₁⟩ := ih r (by simp) scope base n code₁ n₁ h₁
    obtain ⟨t₂, hr₂⟩ := htail scope _ n₁ code₂ _ h₂
    refine ⟨t₁.append t₂, fun code hcode hfits => ?_⟩
    rw [CodeAt.append] at hcode
    obtain ⟨m, hm, hmean, hfree⟩ := hr₁ code hcode.1 (hfits.left t₂.grows)
    obtain ⟨F, hF, hsafe, htailEval, hFfree⟩ := hr₂ code hcode.2 hfits.right
    refine ⟨_, by simpa [Nat.add_assoc] using hm.fold hF,
      ⟨fun d => (hmean.safe d).bind_of fun a => hsafe a d, hf.array_absurd hnot, ?_⟩, ?_⟩
    · intro hs hk d
      have hall := htailEval fun x hx => ⟨hs.of_mem_args (List.mem_cons_of_mem r hx),
        hk.of_mem_args (List.mem_cons_of_mem r hx), fun _ => (Gives.any _).mono fun _ _ => rfl⟩
      rw [hmean.eval (hs.of_mem_args (by simp)) (hk.of_mem_args (by simp)) d, heval, evaluateAll]
      simp only [hall, bind_assoc, pure_bind]
      refine Gives.bind_congr (Gives.any _) fun v _ => ?_
      refine (evaluateAll_length c d rest).bind_congr fun vs hvs => ?_
      obtain ⟨w, ws, rfl⟩ := List.exists_cons_of_ne_nil
        (List.ne_nil_of_length_pos (by rw [hvs]; exact List.length_pos_of_ne_nil hrest))
      rfl
    · intro hread hsc acc x index src
      simp only [readsData_append, Bool.or_eq_false_iff] at hread
      have hF' (b : Value) := hFfree hread.2 hsc b acc x index src
      simp only [hfree hread.1 hsc acc x index src, hF']

end Operands

end RuleMachine
