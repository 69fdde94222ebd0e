import RuleMachine.Proofs.Simulation.Rules
import RuleMachine.Proofs.Programs

/-!
# Compiled programs compute their rules

A program compiled from a rule runs, from the empty machine, as a meaning of the rule
(`Program.runs`); what `Linked.evaluate` answers is then that meaning's outcome, its failure
read as an operation's failure. Hence the compiled program answers as the direct evaluation
of its rule whenever the numeric shortcut keeps the rule's numbers, and the programs compiled
with the catalog's analysis and with none answer alike. Where a literal operand of `+`, or the
one operand of `*`, is an integer that the conversion to a float does not keep, such as
2^53 + 1, the shortcut changes the answer.
-/

namespace RuleMachine

open Machine Rule

/-- Compiling keeps the names given before and calls only slots that it has named. -/
theorem compile_tracked {c : Catalog} {facts : Analysis} (hf : facts.Within c) {r : Rule}
    {scope : Scope} {base : Nat} {n n' : Naming} {part : List Instr}
    (hc : (r.compile c facts scope base).run n = .ok (part, n')) : Tracked n part n' :=
  -- what compiling does to the naming does not depend on the program the code is placed in
  (@simulates_rule c facts ⟨[], [], []⟩ .null _ hf Naming.valid_empty rfl r
    scope base n part n' hc).1

namespace Program

variable {c : Catalog} {facts : Analysis} {r : Rule} {p : Program}

/-- A compiled program, linked with its catalog, runs from its first instruction to its end as
a meaning of its rule, on every record. -/
theorem runs (hf : facts.Within c) (h : ofRuleWith c facts r = .ok p) (root : Value) :
    ∃ m, Runs (p.link c) root .arg p.code 0 p.code.length m ∧ Meaning c facts r m := by
  obtain ⟨N, hc, hroutines, hbindings⟩ := ofRuleWith_ok h
  have hN : N.Valid := (compile_tracked hf hc).valid Naming.valid_empty
  have hL : (p.link c).Binds c N := by rw [Linked.Binds, Program.link, hbindings]
  have hfits : Fits (p.link c) N N p.code :=
    ⟨List.prefix_refl _, fun x hx => by
      simpa [Program.link, hroutines, Routine.mem_sortUnique] using hx⟩
  obtain ⟨m, hm, hmean, -⟩ := ((simulates_rule hf hN hL r) .arg 0 {} p.code N hc).2 p.code
    CodeAt.whole hfits
  exact ⟨m, by simpa using hm, hmean⟩

end Program

/-- A linked program's answer: the outcome of running its code from the empty state and popping,
with the values logged in order. -/
theorem Linked.evaluate_eq_exec (L : Linked) (root : Value) :
    L.evaluate root = (fun (o : Except RunError Value × MachineState) => (o.1, o.2.log.reverse))
      (exec (runBlock L root L.code 0 >>= fun _ => pop) {}) := rfl

/-- A program that runs from its first instruction to its end as `m` answers what `m` gives on
the record, its failure read as an operation's failure, with the values logged in order. -/
theorem Linked.evaluate_of_runs {L : Linked} {root : Value} {m : Value → EvalM Value}
    (h : Runs L root .arg L.code 0 L.code.length m) :
    Prod.map (Except.mapError EvalError.run) id (L.evaluate root) =
      Prod.map id List.reverse (evalRun (m root) []) := by
  have g := h {}
  simp only [Scope.read] at g
  rw [Linked.evaluate_eq_exec, exec_bind]
  rcases hx : evalRun (m root) [] with ⟨_ | x, log⟩
  all_goals rw [hx] at g
  case ok =>
    -- the block ends with the value alone on the stack, and the last step pops it
    simp only [Goes] at g
    rw [g, runBlock_of_length_le (le_refl _), exec_pure]
    rfl
  case error e =>
    cases e with
    | defect _ => exact g.elim
    | run err =>
      obtain ⟨st', hst, hlog⟩ := g
      rw [hst]
      simp [hlog, Except.mapError]

/-- Reading a machine's failure as an operation's failure loses nothing. -/
theorem mapError_run_injective :
    Function.Injective
      (Prod.map (Except.mapError EvalError.run : Except RunError Value → Except EvalError Value)
        (id : List Event → List Event)) := by
  rintro ⟨a, la⟩ ⟨b, lb⟩ h
  simp only [Prod.map, id, Prod.mk.injEq] at h
  obtain ⟨ha, rfl⟩ := h
  cases a <;> cases b <;> simp_all [Except.mapError]

namespace Program

variable {c : Catalog} {facts : Analysis} {r : Rule} {p : Program}

/-- What a compiled program answers on a record is the outcome there of a meaning of its rule. -/
theorem evaluate_link (hf : facts.Within c) (h : ofRuleWith c facts r = .ok p) (d : Value) :
    ∃ m, Meaning c facts r m ∧
      Prod.map (Except.mapError EvalError.run) id ((p.link c).evaluate d) =
        Prod.map id List.reverse (evalRun (m d) []) := by
  obtain ⟨m, hm, hmean⟩ := runs hf h d
  exact ⟨m, hmean, Linked.evaluate_of_runs hm⟩

/-- A program compiled under an analysis that claims no more than the catalog's classifiers
answers as the direct evaluation of its rule, when the rule's literals are scalars and the
numeric shortcut keeps its numbers. -/
theorem run_eq_evaluate_link (hf : facts.Within c) (h : ofRuleWith c facts r = .ok p)
    (hs : r.Scalar) (hk : r.KeepsNumbers facts c) (d : Value) :
    r.run c d = Prod.map (Except.mapError EvalError.run) id ((p.link c).evaluate d) := by
  obtain ⟨m, hmean, hrun⟩ := evaluate_link hf h d
  rw [hrun, hmean.eval hs hk d]
  rfl

/-- A rule read from a document and compiled with its catalog's analysis answers, once linked,
as its direct evaluation does on every record: the same value, the same failure and the same
values logged, as long as every literal operand of `+`, or the one operand of `*`, whose
conversion to a number the analysis leaves out keeps its number under that conversion. -/
theorem evaluate_link_ofRule {j : Json} (hr : Rule.ofJson j = .ok r) (hp : ofRule c r = .ok p)
    (hk : r.KeepsNumbers (Analysis.ofCatalog c) c) (d : Value) :
    r.run c d = Prod.map (Except.mapError EvalError.run) id ((p.link c).evaluate d) :=
  run_eq_evaluate_link (Analysis.within_ofCatalog c) hp (scalar_of_ofJson hr) hk d

/-- A sum of a literal and a variable: the analysis knows the literal to be a number, so only the
variable is converted before the addition. -/
theorem evaluate_link_ofRule_sum :
    Rule.ofJson (.object [("+", .array [.number (.nat 1), .object [("var", .string "a")]])]) =
      .ok (.operation "+" [.literal (.int 1), .operation "var" [.literal (.string "a")] false]
        true) ∧
    ofRule {} (.operation "+" [.literal (.int 1), .operation "var" [.literal (.string "a")] false]
        true) = .ok ⟨[.push (.int 1), .loadPath .arg ["a"], .toNumber, .add], [], []⟩ ∧
    (Rule.operation "+" [.literal (.int 1), .operation "var" [.literal (.string "a")] false]
        true).KeepsNumbers (Analysis.ofCatalog {}) {} ∧
    (Rule.operation "+" [.literal (.int 1), .operation "var" [.literal (.string "a")] false]
        true).run {} (.object [("a", .string "2")]) =
      Prod.map (Except.mapError EvalError.run) id
        ((Program.link {} ⟨[.push (.int 1), .loadPath .arg ["a"], .toNumber, .add], [], []⟩)
          |>.evaluate (.object [("a", .string "2")])) := by
  have hr : Rule.ofJson (.object [("+", .array [.number (.nat 1),
      .object [("var", .string "a")]])]) = .ok (.operation "+" [.literal (.int 1),
        .operation "var" [.literal (.string "a")] false] true) :=
    rfl
  have hp : ofRule {} (.operation "+" [.literal (.int 1), .operation "var"
      [.literal (.string "a")] false] true) =
      .ok ⟨[.push (.int 1), .loadPath .arg ["a"], .toNumber, .add], [], []⟩ := by
    cbv
  have hk : (Rule.operation "+" [.literal (.int 1), .operation "var" [.literal (.string "a")]
      false] true).KeepsNumbers (Analysis.ofCatalog {}) {} := by
    refine .operation (fun v hv _ => ⟨fun _ => ?_, fun h => ?_⟩) fun a ha => ?_
    · simp only [List.mem_cons, Rule.literal.injEq, reduceCtorEq, List.not_mem_nil, or_false] at hv
      subst hv
      show Rule.KeepsNumber false (.int 1)
      rfl
    · cases h.symm.trans (by decide : Catalog.builtin? {} "+" = some .add)
    simp only [List.mem_cons, List.not_mem_nil, or_false] at ha
    rcases ha with rfl | rfl
    · exact .literal trivial
    refine .operation (fun v _ _ => ⟨fun h => ?_, fun h => ?_⟩) fun a ha => ?_
    · cases h.symm.trans (by decide : Catalog.builtin? {} "var" = some .var)
    · cases h.symm.trans (by decide : Catalog.builtin? {} "var" = some .var)
    simp only [List.mem_cons, List.not_mem_nil, or_false] at ha
    subst ha
    exact .literal trivial
  exact ⟨hr, hp, hk, evaluate_link_ofRule hr hp hk _⟩

/-- The analysis's shortcuts do not change what a rule read from a document computes. Compiled
with its catalog's analysis and with an analysis that knows nothing, the rule answers alike on
every record, as long as every literal operand of `+`, or the one operand of `*`, whose
conversion to a number the analysis leaves out keeps its number under that conversion. The
classifiers the shortcuts rest on are sound on every rule whose literals are scalars: where one
answers, every value the rule evaluates to is an array, is not one, or is a number. -/
theorem evaluate_link_blind {j : Json} {q : Program} (hr : Rule.ofJson j = .ok r)
    (hp : ofRule c r = .ok p) (hq : ofRuleWith c .blind r = .ok q)
    (hk : r.KeepsNumbers (Analysis.ofCatalog c) c) :
    (∀ d, (p.link c).evaluate d = (q.link c).evaluate d) ∧
    ∀ s : Rule, s.Scalar → ∀ d,
      (s.isArray c = true → Gives (s.evaluate c d) (·.isArray = true)) ∧
      (s.isNonArray c = true → Gives (s.evaluate c d) (·.isArray = false)) ∧
      (s.isNumeric c = true → Gives (s.evaluate c d) (·.isNumber = true)) := by
  have hs := scalar_of_ofJson hr
  refine ⟨fun d => mapError_run_injective ?_, fun s hs d =>
    ⟨fun h => isArray_sound h d, fun h => isNonArray_sound hs h d, fun h => isNumeric_sound h d⟩⟩
  rw [← run_eq_evaluate_link (Analysis.within_ofCatalog c) hp hs hk d,
    ← run_eq_evaluate_link (Analysis.within_blind c) hq hs (keepsNumbers_blind r) d]

/-- A negated comparison: the analysis knows that the comparison gives no array and leaves out
the truthiness test that the program compiled without it makes. -/
theorem evaluate_link_blind_negation :
    Rule.ofJson (.object [("!", .array [.object [("==", .array [.object [("var", .string "a")],
        .string "x"])]])]) =
      .ok (.operation "!" [.operation "==" [.operation "var" [.literal (.string "a")] false,
        .literal (.string "x")] true] true) ∧
    ofRule {} (.operation "!" [.operation "==" [.operation "var" [.literal (.string "a")] false,
        .literal (.string "x")] true] true) =
      .ok ⟨[.loadPath .arg ["a"], .push (.string "x"), .eq, .not], [], []⟩ ∧
    ofRuleWith {} .blind (.operation "!" [.operation "==" [.operation "var"
        [.literal (.string "a")] false, .literal (.string "x")] true] true) =
      .ok ⟨[.loadPath .arg ["a"], .push (.string "x"), .eq, .callRoutine .truthy 1, .not],
        [.truthy], []⟩ ∧
    (Rule.operation "!" [.operation "==" [.operation "var" [.literal (.string "a")] false,
        .literal (.string "x")] true] true).KeepsNumbers (Analysis.ofCatalog {}) {} ∧
    (∀ d, (Program.link {} ⟨[.loadPath .arg ["a"], .push (.string "x"), .eq, .not], [], []⟩).evaluate
        d = (Program.link {} ⟨[.loadPath .arg ["a"], .push (.string "x"), .eq,
          .callRoutine .truthy 1, .not], [.truthy], []⟩).evaluate d) := by
  have hr : Rule.ofJson (.object [("!", .array [.object [("==", .array [.object
      [("var", .string "a")], .string "x"])]])]) = .ok (.operation "!" [.operation "=="
        [.operation "var" [.literal (.string "a")] false, .literal (.string "x")] true] true) :=
    rfl
  have hp : ofRule {} (.operation "!" [.operation "==" [.operation "var"
      [.literal (.string "a")] false, .literal (.string "x")] true] true) =
      .ok ⟨[.loadPath .arg ["a"], .push (.string "x"), .eq, .not], [], []⟩ := by
    cbv
  have hq : ofRuleWith {} .blind (.operation "!" [.operation "==" [.operation "var"
      [.literal (.string "a")] false, .literal (.string "x")] true] true) =
      .ok ⟨[.loadPath .arg ["a"], .push (.string "x"), .eq, .callRoutine .truthy 1, .not],
        [.truthy], []⟩ := by
    cbv
  have hk : (Rule.operation "!" [.operation "==" [.operation "var" [.literal (.string "a")] false,
      .literal (.string "x")] true] true).KeepsNumbers (Analysis.ofCatalog {}) {} := by
    -- no operation is a sum or a product
    refine .operation (fun v _ _ => ⟨fun h => ?_, fun h => ?_⟩) fun a ha => ?_
    · cases h.symm.trans (by decide : Catalog.builtin? {} "!" = some .not)
    · cases h.symm.trans (by decide : Catalog.builtin? {} "!" = some .not)
    simp only [List.mem_cons, List.not_mem_nil, or_false] at ha
    subst ha
    refine .operation (fun v _ _ => ⟨fun h => ?_, fun h => ?_⟩) fun a ha => ?_
    · cases h.symm.trans (by decide : Catalog.builtin? {} "==" = some .eq)
    · cases h.symm.trans (by decide : Catalog.builtin? {} "==" = some .eq)
    simp only [List.mem_cons, List.not_mem_nil, or_false] at ha
    rcases ha with rfl | rfl
    · refine .operation (fun v _ _ => ⟨fun h => ?_, fun h => ?_⟩) fun a ha => ?_
      · cases h.symm.trans (by decide : Catalog.builtin? {} "var" = some .var)
      · cases h.symm.trans (by decide : Catalog.builtin? {} "var" = some .var)
      simp only [List.mem_cons, List.not_mem_nil, or_false] at ha
      subst ha
      exact .literal trivial
    · exact .literal trivial
  exact ⟨hr, hp, hq, hk, (evaluate_link_blind hr hp hq hk).1⟩

end Program

end RuleMachine
