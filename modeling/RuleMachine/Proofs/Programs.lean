import RuleMachine.Proofs.Emitting

/-!
# Compiled programs

`Program.ofRuleWith` builds its program from the compiler's output, so it is the offset
compiler's program (`Program.ofRuleWith_eq_compile`): the code compiled from position 0 under the
empty naming, the routines that code calls, and the bindings of the naming it ends with, each
binding's slot being its position. Hence a rule compiles exactly when its walk meets no defect,
and fails with the first one otherwise; a document likewise, after its malformed nodes.
-/

namespace RuleMachine

namespace Program

variable {c : Catalog} {facts : Analysis} {r : Rule}

/-- In a valid naming each binding's slot is its position, so numbering the operators the names
ask for gives the bindings back. -/
theorem bindings_operationsIn {N : Naming} (hN : N.Valid) :
    ((N.operationsIn c).zipIdx.map fun (b, slot) => (b.key, (⟨b.identifier, slot⟩ : Binding))) =
      N.bindings := by
  refine List.ext_getElem (by simp [Naming.operationsIn]) fun i h₁ h₂ => ?_
  simp only [Naming.operationsIn, List.getElem_map, List.getElem_zipIdx, Nat.zero_add]
  have hslot := hN.slot_eq i h₂
  generalize N.bindings[i] = x at hslot ⊢
  rw [← hslot]

/-- The program compiled from a rule is the offset compiler's: its code from position 0, the
routines that code calls, and the bindings of the names it ends with. -/
theorem ofRuleWith_eq_compile :
    ofRuleWith c facts r =
      match (r.compile c facts .arg 0).run {} with
      | .error e => .error e
      | .ok (code, N) => .ok ⟨code, Routine.sortUnique (blockRoutines code), N.bindings⟩ := by
  rw [ofRuleWith, Output.ofRule_eq_compile]
  rcases hc : (r.compile c facts .arg 0).run {} with e | ⟨code, N⟩
  · rfl
  · simp only [ofOutput, bindings_operationsIn (Rule.valid_of_compile hc)]

/-- What compiling a rule into a program gives: the rule's code from the empty naming, the
routines it calls, and the bindings of the naming it ends with. -/
theorem ofRuleWith_ok {p : Program} (h : ofRuleWith c facts r = .ok p) :
    ∃ N, (r.compile c facts .arg 0).run {} = .ok (p.code, N) ∧
      p.routines = Routine.sortUnique (blockRoutines p.code) ∧ p.bindings = N.bindings := by
  rw [ofRuleWith_eq_compile] at h
  split at h
  · cases h
  · rename_i code N hc
    cases h
    exact ⟨N, hc, rfl, rfl⟩

/-- A rule compiles into a program exactly when its walk meets no defect, and fails with the
first one otherwise. -/
theorem ofRuleWith_error_iff {e : CompileError} :
    ofRuleWith c facts r = .error e ↔ r.firstDefect c = some e := by
  rw [← @Rule.compile_faultsAs c facts r .arg 0 {} e, ofRuleWith_eq_compile]
  split <;> simp_all

theorem ofRuleWith_ok_iff : (∃ p, ofRuleWith c facts r = .ok p) ↔ r.firstDefect c = none := by
  constructor
  · rintro ⟨p, hp⟩
    cases hd : r.firstDefect c with
    | none => rfl
    | some e => rw [← ofRuleWith_error_iff, hp] at hd; cases hd
  · intro hd
    cases hp : ofRuleWith c facts r with
    | ok p => exact ⟨p, rfl⟩
    | error e => rw [ofRuleWith_error_iff, hd] at hp; cases hp

/-- Compiling a document fails with a malformed node exactly when reading it as a rule fails,
with the same node, whatever else is wrong with it. A document that reads as a rule compiles
exactly when no node of the walk is defective, and fails otherwise with the defect that the
walk meets first: a depth-first walk, each node before its parts, that looks at the arguments
each operation compiles, in the order it compiles them. -/
theorem ofJson_error_iff (c : Catalog) (j : Json) :
    (∀ node, ofJson c j = .error (.malformedNode node) ↔ Rule.ofJson j = .error node) ∧
    ∀ r, Rule.ofJson j = .ok r →
      ((∃ p, ofJson c j = .ok p) ↔ ∀ s ∈ r.walk c, s.defect c = none) ∧
      ∀ e, ofJson c j = .error e ↔ ∃ before s after, r.walk c = before ++ s :: after ∧
        (∀ t ∈ before, t.defect c = none) ∧ s.defect c = some e := by
  refine ⟨fun node => ?_, fun r hr => ?_⟩
  · cases hj : Rule.ofJson j with
    | error node' => simp [ofJson, hj]
    | ok r =>
      simp only [ofJson, hj, reduceCtorEq, iff_false, ofRule]
      rw [ofRuleWith_error_iff]
      exact Rule.firstDefect_ne_malformedNode
  · simp only [ofJson, hr, ofRule]
    refine ⟨?_, fun e => ?_⟩
    · rw [ofRuleWith_ok_iff, Rule.firstDefect, List.findSome?_eq_none_iff]
    · rw [ofRuleWith_error_iff, Rule.firstDefect, List.findSome?_eq_some_iff]
      constructor
      · rintro ⟨before, s, after, hsplit, hs, hbefore⟩
        exact ⟨before, s, after, hsplit, hbefore, hs⟩
      · rintro ⟨before, s, after, hsplit, hbefore, hs⟩
        exact ⟨before, s, after, hsplit, hs, hbefore⟩

/-- A reduction whose initial value and body both name unknown operators is refused for its
initial value: the walk, like the compiler, visits the initial value before the body. -/
theorem ofJson_reduce_refuses_initial :
    Rule.ofJson (.object [("reduce", .array [.array [.number (.nat 1)],
        .object [("body", .array [])], .object [("start", .array [])]])]) =
      .ok (.operation "reduce" [.list [.literal (.int 1)], .operation "body" [] true,
        .operation "start" [] true] true) ∧
    ofJson {} (.object [("reduce", .array [.array [.number (.nat 1)],
        .object [("body", .array [])], .object [("start", .array [])]])]) =
      .error (.unrecognizedOperator "start" (.operation "start" [] true)) := by
  have hr : Rule.ofJson (.object [("reduce", .array [.array [.number (.nat 1)],
      .object [("body", .array [])], .object [("start", .array [])]])]) =
      .ok (.operation "reduce" [.list [.literal (.int 1)], .operation "body" [] true,
        .operation "start" [] true] true) := rfl
  refine ⟨hr, (((ofJson_error_iff {} _).2 _ hr).2 _).2
    ⟨[.operation "reduce" [.list [.literal (.int 1)], .operation "body" [] true,
        .operation "start" [] true] true, .list [.literal (.int 1)], .literal (.int 1)],
      .operation "start" [] true, [.operation "body" [] true], ?_, ?_, rfl⟩⟩
  · simp [Rule.walk_operation, Rule.visitedArgs, Catalog.builtin?, Catalog.lookup,
      Builtin.ofName, Builtin.all, Builtin.name, Rule.walk]
  · simp [Rule.defect, Catalog.lookup, Builtin.ofName, Builtin.all, Builtin.name,
      Builtin.arity, Arity.admits]

end Program

end RuleMachine
