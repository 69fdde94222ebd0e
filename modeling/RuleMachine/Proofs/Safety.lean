import RuleMachine.Proofs.Shape

/-!
# Compiled programs cannot go wrong

A compiled program, linked with the catalog it was compiled under, is safe (`Program.Safe`):
each of its blocks, the top-level code and every iteration body nested in it at any depth, runs
from any state as an evaluation (`Runs`): it pushes one value on the stack it found, whatever
that stack holds, and leaves the frames as it found them, or it fails; and it fails only in the
two ways compiled code may, a reduce of an empty array without an initial value or an extension
operator's own failure (`EvalError.Allowed`). Every routine the code calls is attached and every
extension slot it calls is bound, so evaluating the program never runs short of operands, never
misses a routine or an operator, and never applies an unguarded iteration, reduce or `in` to a
value that is not an array.

The top-level code is `Program.runs`. A nested body is the code of a rule compiled in a scope of
its own (`innerBlocks_compiled`), with names among the program's and routines among its code's;
the simulation of compiled code then runs it as a meaning of its rule, which fails only as
allowed.
-/

namespace RuleMachine

open Machine Rule

theorem mem_blockRoutines {x : Routine} {code : List Instr} :
    x ∈ blockRoutines code ↔ ∃ i ∈ code, x ∈ i.routines := by
  induction code with
  | nil => simp [blockRoutines]
  | cons i rest ih => simp [blockRoutines, ih]

/-- A block nested in code, at any depth, calls only routines that the code calls. -/
theorem blockRoutines_of_mem_innerBlocks {code B : List Instr} (hB : B ∈ innerBlocks code)
    {x : Routine} (hx : x ∈ blockRoutines B) : x ∈ blockRoutines code := by
  obtain ⟨i, hi, hB⟩ := mem_innerBlocks.1 hB
  have hsize := List.sizeOf_lt_of_mem hi
  refine mem_blockRoutines.2 ⟨i, hi, ?_⟩
  cases i
  case iterate kind body guarded =>
    rcases List.mem_cons.1 hB with rfl | hB
    · simpa [Instr.routines] using hx
    · simpa [Instr.routines] using blockRoutines_of_mem_innerBlocks hB hx
  case reduce body guarded seeded withData =>
    rcases List.mem_cons.1 hB with rfl | hB
    · simpa [Instr.routines] using hx
    · simpa [Instr.routines] using blockRoutines_of_mem_innerBlocks hB hx
  all_goals simp [Instr.nested] at hB
termination_by sizeOf code
decreasing_by
  all_goals
    first
      | (simp only [Instr.iterate.sizeOf_spec] at hsize; omega)
      | (simp only [Instr.reduce.sizeOf_spec] at hsize; omega)

section Blocks

variable {c : Catalog} {facts : Analysis} {L : Linked} {root : Value} {N : Naming}

/-- A block that compiling places as a body, in a linked program that binds the names of its
compilation and holds the routines it calls, runs as an evaluation that fails only as allowed:
the body's meaning, then the iteration's test. -/
theorem BodyBlock.runs (hf : facts.Within c) (hN : N.Valid) (hL : L.Binds c N) {B : List Instr}
    (hB : BodyBlock c facts N B) (hr : ∀ x ∈ blockRoutines B, x ∈ L.routines) :
    ∃ scope m, Runs L root scope B 0 B.length m ∧ ∀ d, Fails (m d) EvalError.Allowed := by
  rcases hB with ⟨kind, body, n₁, n₂, code, hc, hn, rfl⟩ | ⟨body, n₁, n₂, hc, hn⟩
  · have hfits : Fits L N n₂ code := ⟨hn, fun x hx => hr x (by simp [hx])⟩
    obtain ⟨m, hm, hmean, -⟩ :=
      ((simulates_rule hf hN hL body) .item 0 n₁ code n₂ hc).2 _ CodeAt.whole.left hfits
    exact ⟨.item, _, runs_iterBlock hm fun x hx => hr x (by simp [hx]),
      (iterMeaning_spec hf hmean).1⟩
  · obtain ⟨m, hm, hmean, -⟩ :=
      ((simulates_rule hf hN hL body) .context 0 n₁ B n₂ hc).2 B CodeAt.whole ⟨hn, hr⟩
    exact ⟨.context, m, by simpa using hm, hmean.safe⟩

end Blocks

/-- A linked program that cannot go wrong: each of its blocks, at any depth, runs from any state
as an evaluation that fails only as compiled code may; the routines its code calls are attached
and the slots it calls are bound; and evaluating it fails only on a reduce of an empty array
without an initial value or by an extension operator's own failure. -/
structure Program.Safe (c : Catalog) (p : Program) : Prop where
  blocks : ∀ root, ∀ B ∈ p.code :: innerBlocks p.code, ∃ scope m,
    Runs (p.link c) root scope B 0 B.length m ∧ ∀ d, Fails (m d) EvalError.Allowed
  routines : ∀ x ∈ blockRoutines p.code, x ∈ (p.link c).routines
  slots : ∀ slot ∈ blockSlots p.code, slot < (p.link c).operations.length
  evaluate : ∀ d e log, (p.link c).evaluate d = (.error e, log) →
    e = .typeMismatch "reduce of empty array with no initial value" ∨ ∃ message, e = .operation message

namespace Program

variable {c : Catalog} {facts : Analysis} {r : Rule} {p : Program}

/-- A program compiled under an analysis that claims no more than the catalog's classifiers,
linked with that catalog, is safe. -/
theorem ofRuleWith_safe (hf : facts.Within c) (h : ofRuleWith c facts r = .ok p) : p.Safe c := by
  obtain ⟨N, hc, hroutines, hbindings⟩ := ofRuleWith_ok h
  have htracked := compile_tracked hf hc
  have hN : N.Valid := htracked.valid Naming.valid_empty
  have hL : (p.link c).Binds c N := by rw [Linked.Binds, Program.link, hbindings]
  have hattached : ∀ x ∈ blockRoutines p.code, x ∈ (p.link c).routines := fun x hx => by
    simpa [Program.link, hroutines, Routine.mem_sortUnique] using hx
  refine ⟨fun root B hB => ?_, hattached, fun slot hs => ?_, fun d e log he => ?_⟩
  · rcases List.mem_cons.1 hB with rfl | hB
    · obtain ⟨m, hm, hmean⟩ := runs hf h root
      exact ⟨.arg, m, hm, hmean.safe⟩
    · -- a nested body: compiled in a scope of its own, with routines among the code's
      have he := (compile_emits r _ _ _ _ _ hc).emits
      exact (innerBlocks_compiled _ he B hB).runs hf hN hL fun x hx =>
        hattached x (blockRoutines_of_mem_innerBlocks hB hx)
  · simpa [Program.link, hbindings] using htracked.slots Naming.valid_empty slot hs
  · -- the answer's failure is the failure of a meaning of the rule
    obtain ⟨m, hmean, hrun⟩ := evaluate_link hf h d
    rcases hx : evalRun (m d) [] with ⟨res, l⟩
    rw [he, hx] at hrun
    simp only [Prod.map, id, Prod.mk.injEq] at hrun
    obtain ⟨hres, -⟩ := hrun
    have hallowed := hmean.safe d [] (.run e) l (by rw [hx]; cases res <;> simp_all [Except.mapError])
    cases e <;> simp_all [EvalError.Allowed]

/-- A reduce whose source the analysis cannot call an array: it is guarded, and the program is
safe. -/
theorem ofRuleWith_safe_reduce :
    ofRule {} (.operation "reduce" [.operation "var" [.literal (.string "xs")] false,
        .literal (.int 0)] true) =
      .ok ⟨[.loadPath .arg ["xs"], .reduce [.push (.int 0)] true false false], [], []⟩ ∧
    Safe {} ⟨[.loadPath .arg ["xs"], .reduce [.push (.int 0)] true false false], [], []⟩ := by
  have hp : ofRule {} (.operation "reduce" [.operation "var" [.literal (.string "xs")] false,
      .literal (.int 0)] true) =
      .ok ⟨[.loadPath .arg ["xs"], .reduce [.push (.int 0)] true false false], [], []⟩ := by
    cbv
  exact ⟨hp, ofRuleWith_safe (Analysis.within_ofCatalog {}) hp⟩

end Program

end RuleMachine
