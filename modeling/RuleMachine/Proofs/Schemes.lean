import RuleMachine.Proofs.Classifiers

/-!
# What compiling an operation gives

Compiling threads the names given to extension keys and may fail, so a compilation is a run of
`CompileM` from a naming. A run that succeeded is taken apart by the run lemmas of `CompileM`: a
bind that succeeded ran both its sides, a value returned leaves the names as they were, and an
arity check that passed let the rest run.

For the builtins whose code the invariants of compiled code take apart one by one (where its
jumps go, which calls it makes, how it moves with its position, how it runs), the code of an
operation is given here once, as a do-block over the code of its operands
(`compile_not`, `compile_notNot`, `compile_member`, `compile_missing`, `compile_mul_single`,
`compile_mul_product`), or as the compilation of its arguments that it hands on to
(`compile_var`, `compile_missingSome`); likewise an unknown key (`compile_unknown`) and an
extension (`compile_extension`). The other way round, a compilation of such an operation that
succeeded had the operands its arity asks for and ran that do-block (`compile_not_ok`,
`compile_reduce_ok` and the like); its arity check passed (`compile_admits`).
-/

namespace RuleMachine

/-! ## Runs of compilations -/

namespace CompileM

variable {n n' n'' : Naming}

/-- A sequence that compiles has a first part that compiles and a second that compiles after it. -/
theorem run_bind_ok {m : CompileM α} {f : α → CompileM β} {y : β}
    (h : (m >>= f).run n = .ok (y, n'')) :
    ∃ x n', m.run n = .ok (x, n') ∧ (f x).run n' = .ok (y, n'') := by
  rw [StateT.run_bind] at h
  rcases hm : m.run n with e | ⟨x, n'⟩
  · rw [hm] at h
    cases h
  · rw [hm] at h
    exact ⟨x, n', rfl, h⟩

/-- Returning at once gives the value and keeps the names. -/
theorem run_pure_ok {x y : α} (h : (pure x : CompileM α).run n = .ok (y, n')) :
    y = x ∧ n' = n := by
  simp only [StateT.run_pure] at h
  cases h
  exact ⟨rfl, rfl⟩

/-- A compilation that returns a function of what a first one gave ran the first one to the
end. -/
theorem run_bind_pure_ok {m : CompileM α} {f : α → β} {y : β}
    (h : (m >>= fun x => pure (f x)).run n = .ok (y, n')) :
    ∃ x, m.run n = .ok (x, n') ∧ y = f x := by
  obtain ⟨x, n₁, h₁, h⟩ := run_bind_ok h
  obtain ⟨rfl, rfl⟩ := run_pure_ok h
  exact ⟨x, h₁, rfl⟩

/-- A refusal never compiles. -/
theorem run_throw_ok {e : CompileError} {y : α} :
    (throw e : CompileM α).run n ≠ .ok (y, n') := by
  intro h
  cases h

/-- A builtin's arity check lets compilation go on only when it admits the arguments. -/
theorem run_unless_throw_ok {b : Bool} {e : CompileError} {m : CompileM α} {y : α}
    (h : (if b = true then (throw e >>= fun (_ : PUnit) => m) else m).run n = .ok (y, n')) :
    b = false ∧ m.run n = .ok (y, n') := by
  split at h
  · obtain ⟨_, _, h, -⟩ := run_bind_ok h
    exact absurd h run_throw_ok
  · exact ⟨by simpa using ‹¬b = true›, h⟩

/-- After a first part that compiles, a sequence compiles as its second part. -/
theorem run_bind_of_ok {m : CompileM α} {x : α} (f : α → CompileM β)
    (h : m.run n = .ok (x, n')) : (m >>= f).run n = (f x).run n' := by
  rw [StateT.run_bind, h]
  rfl

/-- An arity check that passes lets the checked compilation run. -/
theorem run_unless_of_false {b : Bool} {e : CompileError} {m : CompileM α} (hb : b = false) :
    (if b = true then (throw e >>= fun (_ : PUnit) => m) else m).run n = m.run n := by
  subst hb
  rfl

end CompileM

namespace Rule

section Schemes

variable {c : Catalog} {facts : Analysis} {key : String} {args : List Rule} {br : Bool}
variable {scope : Scope} {base : Nat} {n n' : Naming} {part : List Instr}

/-! ## Unknown keys and extensions -/

/-- An operation whose key the catalog does not know is refused as it stands. -/
theorem compile_unknown (hl : c.lookup key = none) :
    (operation key args br).compile c facts scope base =
      throw (.unrecognizedOperator key (operation key args br)) := by
  rw [compile.eq_def]
  simp [hl]

/-- A key the catalog does not know is refused. -/
theorem compile_unknown_ok (hl : c.lookup key = none) :
    ((operation key args br).compile c facts scope base).run n ≠ .ok (part, n') := by
  rw [compile_unknown hl]
  exact CompileM.run_throw_ok

/-- An extension operation: its key named first, its operands, then the call of its slot. -/
theorem compile_extension {op : Operation} (hl : c.lookup key = some (.extension op)) :
    (operation key args br).compile c facts scope base =
      (do
        let b ← modifyGet fun n => n.resolve key
        let code ← compileSeq c facts scope base args
        pure (code ++ [Instr.callOp b.slot args.length])) := by
  rw [compile.eq_def]
  simp [hl]

/-- An extension operation names its key, compiles its arguments and calls the key's slot. -/
theorem compile_extension_ok {op : Operation} (hl : c.lookup key = some (.extension op))
    (hc : ((operation key args br).compile c facts scope base).run n = .ok (part, n')) :
    ∃ code, (compileSeq c facts scope base args).run (n.resolve key).2 = .ok (code, n') ∧
      part = code ++ [Instr.callOp (n.resolve key).1.slot args.length] := by
  rw [compile_extension hl] at hc
  obtain ⟨b, n₁, h₀, hc⟩ := CompileM.run_bind_ok hc
  simp only [StateT.run_modifyGet] at h₀
  cases h₀
  exact CompileM.run_bind_pure_ok hc

/-! ## The arity check -/

/-- A builtin's arity check passed in every compilation of its operation that succeeded. -/
theorem compile_admits {b : Builtin} {a : Arity} (hl : c.lookup key = some (.builtin b))
    (ha : b.arity = some a)
    (hc : ((operation key args br).compile c facts scope base).run n = .ok (part, n')) :
    a.admits args.length = true := by
  rw [compile.eq_def] at hc
  simp only [hl, ha] at hc
  obtain ⟨hadm, -⟩ := CompileM.run_unless_throw_ok hc
  simpa using hadm

/-- A builtin that takes exactly `k` arguments compiles only with `k` of them. -/
theorem length_of_compile_exactly {b : Builtin} {k : Nat} {words : String}
    (hl : c.lookup key = some (.builtin b)) (ha : b.arity = some (Builtin.exactly k words))
    (hc : ((operation key args br).compile c facts scope base).run n = .ok (part, n')) :
    args.length = k := by
  have hadm := compile_admits hl ha hc
  simp only [Builtin.exactly, Arity.admits, Bool.and_eq_true] at hadm
  have hlo := of_decide_eq_true hadm.1
  have hhi := of_decide_eq_true hadm.2
  omega

/-! ## Schemes of single builtins -/

/-- `!`: the operand, its test, then `not`. -/
theorem compile_not (hl : c.lookup key = some (.builtin .not)) (x : Rule) :
    (operation key [x] br).compile c facts scope base =
      (do
        let code ← x.compile c facts scope base
        pure (code ++ truthyCall facts x ++ [Instr.not])) := by
  rw [compile.eq_def]
  simp [hl, Builtin.arity, Builtin.exactly, Arity.admits]

/-- `!` compiles its one argument, its truthiness test and `not`. -/
theorem compile_not_ok (hl : c.lookup key = some (.builtin .not))
    (hc : ((operation key args br).compile c facts scope base).run n = .ok (part, n')) :
    ∃ x code, args = [x] ∧ (x.compile c facts scope base).run n = .ok (code, n') ∧
      part = code ++ truthyCall facts x ++ [Instr.not] := by
  obtain ⟨x, rfl⟩ := List.length_eq_one_iff.1 (length_of_compile_exactly hl rfl hc)
  rw [compile_not hl] at hc
  obtain ⟨code, h₁, rfl⟩ := CompileM.run_bind_pure_ok hc
  exact ⟨x, code, rfl, h₁, rfl⟩

/-- `!!`: the operand, then its conversion to a boolean. -/
theorem compile_notNot (hl : c.lookup key = some (.builtin .notNot)) (x : Rule) :
    (operation key [x] br).compile c facts scope base =
      (do
        let code ← x.compile c facts scope base
        pure (code ++ if facts.needsTruthy x then [Instr.callRoutine .truthy 1] else [.toBool])) := by
  rw [compile.eq_def]
  simp [hl, Builtin.arity, Builtin.exactly, Arity.admits]

/-- `!!` compiles its one argument and the test that makes it a boolean. -/
theorem compile_notNot_ok (hl : c.lookup key = some (.builtin .notNot))
    (hc : ((operation key args br).compile c facts scope base).run n = .ok (part, n')) :
    ∃ x code, args = [x] ∧ (x.compile c facts scope base).run n = .ok (code, n') ∧
      part = code ++ if facts.needsTruthy x then [Instr.callRoutine .truthy 1] else [.toBool] := by
  obtain ⟨x, rfl⟩ := List.length_eq_one_iff.1 (length_of_compile_exactly hl rfl hc)
  rw [compile_notNot hl] at hc
  obtain ⟨code, h₁, rfl⟩ := CompileM.run_bind_pure_ok hc
  exact ⟨x, code, rfl, h₁, rfl⟩

/-- `in`: the needle, the haystack after it, then `includes`, guarded unless the haystack is
known to be an array. -/
theorem compile_member (hl : c.lookup key = some (.builtin .member)) (x y : Rule) :
    (operation key [x, y] br).compile c facts scope base =
      (do
        let needleCode ← x.compile c facts scope base
        let hayCode ← y.compile c facts scope (base + needleCode.length)
        pure (needleCode ++ hayCode ++ [Instr.includes (!facts.isArray y)])) := by
  rw [compile.eq_def]
  simp [hl, Builtin.arity, Builtin.exactly, Arity.admits]

/-- `in` compiles the needle and the haystack, then `includes`, guarded unless the haystack is an
array. -/
theorem compile_member_ok (hl : c.lookup key = some (.builtin .member))
    (hc : ((operation key args br).compile c facts scope base).run n = .ok (part, n')) :
    ∃ x y needleCode hayCode n₁, args = [x, y] ∧
      (x.compile c facts scope base).run n = .ok (needleCode, n₁) ∧
      (y.compile c facts scope (base + needleCode.length)).run n₁ = .ok (hayCode, n') ∧
      part = needleCode ++ hayCode ++ [Instr.includes (!facts.isArray y)] := by
  obtain ⟨x, y, rfl⟩ := List.length_eq_two.1 (length_of_compile_exactly hl rfl hc)
  rw [compile_member hl] at hc
  obtain ⟨needleCode, n₁, h₁, hc⟩ := CompileM.run_bind_ok hc
  obtain ⟨hayCode, h₂, rfl⟩ := CompileM.run_bind_pure_ok hc
  exact ⟨x, y, needleCode, hayCode, n₁, rfl, h₁, h₂, rfl⟩

/-- `missing`: the data, the keys one after the other, then the routine over them all. -/
theorem compile_missing (hl : c.lookup key = some (.builtin .missing)) :
    (operation key args br).compile c facts scope base =
      (do
        let code ← compileSeq c facts scope (base + 1) args
        pure ([Instr.load scope] ++ code ++ [Instr.callRoutine .missing (args.length + 1)])) := by
  rw [compile.eq_def]
  simp [hl, Builtin.arity]

/-- `missing` loads the data, compiles its keys and calls the routine on them all. -/
theorem compile_missing_ok (hl : c.lookup key = some (.builtin .missing))
    (hc : ((operation key args br).compile c facts scope base).run n = .ok (part, n')) :
    ∃ code, (compileSeq c facts scope (base + 1) args).run n = .ok (code, n') ∧
      part = [Instr.load scope] ++ code ++ [Instr.callRoutine .missing (args.length + 1)] := by
  rw [compile_missing hl] at hc
  exact CompileM.run_bind_pure_ok hc

/-- `*` of a lone operand: the operand, then its conversion to a number. -/
theorem compile_mul_single (hl : c.lookup key = some (.builtin .mul)) (x : Rule) :
    (operation key [x] br).compile c facts scope base =
      (do
        let code ← x.compile c facts scope base
        pure (code ++ numberCall facts x)) := by
  rw [compile.eq_def]
  simp [hl, Builtin.arity, Arity.admits]

/-- `*` of several operands: their product, from the second on. -/
theorem compile_mul_product (hl : c.lookup key = some (.builtin .mul)) (h : 2 ≤ args.length) :
    (operation key args br).compile c facts scope base =
      compileProduct c facts scope base true args := by
  rw [compile.eq_def]
  have h1 : (args.length == 1) = false := by simp only [beq_eq_false_iff_ne]; omega
  have hadm : (!(Arity.mk 1 none "at least 1 argument").admits args.length) = false := by
    simp only [Arity.admits, Bool.and_true, Bool.not_eq_false', decide_eq_true_eq]
    omega
  simp only [hl, Builtin.arity, hadm, h1]
  rfl

/-- `*` compiles one operand with its conversion to a number, or several operands multiplied. -/
theorem compile_mul_ok (hl : c.lookup key = some (.builtin .mul))
    (hc : ((operation key args br).compile c facts scope base).run n = .ok (part, n')) :
    (∃ x code, args = [x] ∧ (x.compile c facts scope base).run n = .ok (code, n') ∧
      part = code ++ numberCall facts x) ∨
    (2 ≤ args.length ∧ (compileProduct c facts scope base true args).run n = .ok (part, n')) := by
  have hadm := compile_admits hl rfl hc
  simp only [Arity.admits, Bool.and_true, decide_eq_true_eq] at hadm
  rcases Nat.lt_or_ge args.length 2 with hlt | h2
  · obtain ⟨x, rfl⟩ := List.length_eq_one_iff.1 (show args.length = 1 by omega)
    rw [compile_mul_single hl] at hc
    obtain ⟨code, h₁, rfl⟩ := CompileM.run_bind_pure_ok hc
    exact .inl ⟨x, code, rfl, h₁, rfl⟩
  · rw [compile_mul_product hl h2] at hc
    exact .inr ⟨h2, hc⟩

/-- `var`: the path and the default, as the path reads. -/
theorem compile_var (hl : c.lookup key = some (.builtin .var)) :
    (operation key args br).compile c facts scope base = compileVar c facts scope base args := by
  rw [compile.eq_def]
  simp [hl, Builtin.arity]

/-- `missing_some`: the data, the minimum and the keys, then the routine. -/
theorem compile_missingSome (hl : c.lookup key = some (.builtin .missingSome)) :
    (operation key args br).compile c facts scope base =
      compileMissingSome c facts scope base args := by
  rw [compile.eq_def]
  simp [hl, Builtin.arity]

/-- `reduce`: the source, the initial value if there is one, then the instruction over the
body, compiled last as a block of its own that reads each step's context. -/
theorem compile_reduce_ok (hl : c.lookup key = some (.builtin .reduce))
    (hc : ((operation key args br).compile c facts scope base).run n = .ok (part, n')) :
    ∃ source body rest sourceCode initCode bodyCode n₁ n₂,
      args = source :: body :: rest ∧ rest.length ≤ 1 ∧
      (source.compile c facts scope base).run n = .ok (sourceCode, n₁) ∧
      (rest = [] ∧ initCode = [] ∧ n₂ = n₁ ∨ ∃ init, rest = [init] ∧
        (init.compile c facts scope (base + sourceCode.length)).run n₁ = .ok (initCode, n₂)) ∧
      (body.compile c facts .context 0).run n₂ = .ok (bodyCode, n') ∧
      part = sourceCode ++ initCode ++
        [Instr.reduce bodyCode (!facts.isArray source) (rest.length == 1) (readsData bodyCode)] := by
  have hadm := compile_admits hl rfl hc
  simp only [Arity.admits, Bool.and_eq_true] at hadm
  have hlo := of_decide_eq_true hadm.1
  have hhi := of_decide_eq_true hadm.2
  obtain ⟨source, body, rest, rfl⟩ := exists_cons_cons_of_two_le hlo
  have hlen : rest.length ≤ 1 := by simp only [List.length_cons] at hhi; omega
  rw [compile.eq_def] at hc
  simp only [hl, Builtin.arity] at hc
  obtain ⟨-, hc⟩ := CompileM.run_unless_throw_ok hc
  obtain ⟨sourceCode, n₁, h₁, hc⟩ := CompileM.run_bind_ok hc
  cases rest with
  | nil =>
    simp only [pure_bind] at hc
    obtain ⟨bodyCode, h₃, rfl⟩ := CompileM.run_bind_pure_ok hc
    exact ⟨source, body, [], sourceCode, [], bodyCode, n₁, n₁, rfl, hlen, h₁,
      .inl ⟨rfl, rfl, rfl⟩, h₃, rfl⟩
  | cons init more =>
    obtain rfl : more = [] := by simpa using hlen
    simp only at hc
    obtain ⟨initCode, n₂, h₂, hc⟩ := CompileM.run_bind_ok hc
    obtain ⟨bodyCode, h₃, rfl⟩ := CompileM.run_bind_pure_ok hc
    exact ⟨source, body, [init], sourceCode, initCode, bodyCode, n₁, n₂, rfl, hlen, h₁,
      .inr ⟨init, rfl, h₂⟩, h₃, rfl⟩

end Schemes

end Rule

end RuleMachine
