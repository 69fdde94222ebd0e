import RuleMachine.Proofs.Classifiers

/-!
# What compiling rejects

Compiling a rule walks it depth first, each node before its parts, and stops at the first
node that is wrong in itself (`Rule.defect`): an operation whose key the catalog does not
know, a builtin given a number of arguments outside its arity, or a `var` whose path is a list.
The walk (`Rule.walk`) looks at every argument of an operation except where the compiler
never looks (`Rule.visitedArgs`): the argument of a one-argument `if`, whatever follows the
path of a `var` that reads the whole data, what follows the second argument of `var` and of
`missing_some`. It looks at the arguments from left to right, except that `reduce` looks at
its initial value before its body.

Main statement: `Rule.compile_faultsAs`, a compilation fails, whatever names it starts from,
exactly with the first defect of the walk (`Rule.firstDefect`). What this says of compiling
documents is `Program.ofJson_error_iff`.
-/

namespace RuleMachine

namespace Rule

/-- The arguments of an operation that compiling it looks at, in the order it looks at them:
all of them, except that a one-argument `if` looks at none, a `var` looks at no more than
its path and default and at neither when its path is the whole data, `missing_some` looks at
no more than two, and `reduce` looks at its initial value before its body. -/
def visitedArgs (c : Catalog) (key : String) (args : List Rule) : List Rule :=
  match c.builtin? key, args with
  | some .var, path :: rest =>
    match varPath path with
    | .whole => []
    | _ => path :: rest.take 1
  | some .missingSome, args => args.take 2
  | some .cond, args => if args.length < 2 then [] else args
  | some .reduce, source :: body :: init :: _ => [source, init, body]
  | _, args => args

/-- The arguments the walk visits are arguments of the operation. -/
theorem mem_of_mem_visitedArgs {c : Catalog} {key : String} {args : List Rule} {x : Rule}
    (h : x ∈ visitedArgs c key args) : x ∈ args := by
  unfold visitedArgs at h
  split at h
  · split at h
    · simp at h
    · simp only [List.mem_cons] at h ⊢
      exact h.imp_right List.mem_of_mem_take
  · exact List.mem_of_mem_take h
  · split at h
    · simp at h
    · exact h
  · simp only [List.mem_cons, List.not_mem_nil, or_false] at h ⊢
    rcases h with rfl | rfl | rfl <;> simp
  · exact h

/-- The subrules that compiling a rule looks at, in the order it meets them: each node
before its parts. -/
def walk (c : Catalog) : Rule → List Rule
  | .literal v => [.literal v]
  | .list items => .list items :: items.flatMap (walk c)
  | .operation key args br =>
    .operation key args br :: (visitedArgs c key args).attach.flatMap fun ⟨x, _⟩ => walk c x
termination_by r => sizeOf r
decreasing_by
  all_goals first
    | (have h := List.sizeOf_lt_of_mem ‹_ ∈ items›; simp only [Rule.list.sizeOf_spec]; omega)
    | (have h := List.sizeOf_lt_of_mem (mem_of_mem_visitedArgs ‹_ ∈ visitedArgs _ _ _›)
       simp only [Rule.operation.sizeOf_spec]; omega)

/-- The walk visits an operation, then what it visits of each argument, in order. -/
theorem walk_operation (c : Catalog) (key : String) (args : List Rule) (br : Bool) :
    walk c (.operation key args br) =
      .operation key args br :: (visitedArgs c key args).flatMap (walk c) := by
  rw [walk]
  simp

/-- What is wrong with a node itself, before its parts are looked at: an operation whose key
the catalog does not know, a builtin given a number of arguments outside its arity, or a
`var` whose path is a list. -/
def defect (c : Catalog) : Rule → Option CompileError
  | node@(.operation key args _) =>
    match c.lookup key with
    | none => some (.unrecognizedOperator key node)
    | some (.extension _) => none
    | some (.builtin op) =>
      match op.arity with
      | some a => if !a.admits args.length then some (.arity op a.words node) else none
      | none =>
        match op, args with
        | .var, path :: _ =>
          match varPath path with
          | .illegal => some (.illegalVarKey path)
          | _ => none
        | _, _ => none
  | _ => none

/-- The first defect that the walk meets. -/
def firstDefect (c : Catalog) (r : Rule) : Option CompileError :=
  (r.walk c).findSome? (defect c)

end Rule

/-- The first answer of a list is its head's answer, or else the tail's. -/
theorem List.findSome?_cons_eq_or {f : α → Option β} (a : α) (l : List α) :
    (a :: l).findSome? f = (f a).or (l.findSome? f) := by
  rw [← List.singleton_append, List.findSome?_append, List.findSome?_singleton]

/-- The first answer over a flattened list is found list by list. -/
theorem List.findSome?_flatMap' {f : β → Option γ} (g : α → List β) (l : List α) :
    (l.flatMap g).findSome? f = l.findSome? fun x => (g x).findSome? f := by
  induction l with
  | nil => rfl
  | cons x rest ih => rw [List.flatMap_cons, List.findSome?_append, ih, List.findSome?_cons_eq_or]

namespace Rule

variable {c : Catalog}

/-- A literal has no defect. -/
@[simp] theorem firstDefect_literal (v : Value) : (literal v).firstDefect c = none := by
  simp [firstDefect, walk, defect]

/-- The first defect of a list is the first defect among its items. -/
theorem firstDefect_list (items : List Rule) :
    (list items).firstDefect c = items.findSome? (firstDefect c) := by
  rw [firstDefect, walk, List.findSome?_cons_eq_or, List.findSome?_flatMap']
  rfl

/-- The first defect of an operation is its own, or else the first among the arguments it visits. -/
theorem firstDefect_operation (key : String) (args : List Rule) (br : Bool) :
    (operation key args br).firstDefect c =
      ((operation key args br).defect c).or
        ((visitedArgs c key args).findSome? (firstDefect c)) := by
  rw [firstDefect, walk_operation, List.findSome?_cons_eq_or, List.findSome?_flatMap']
  rfl

/-- A rule made only of literals and lists has no defect. -/
theorem firstDefect_of_constant (r : Rule) :
    ∀ v, r.constant? = some v → r.firstDefect c = none := by
  induction r using Rule.induction with
  | literal w => exact fun _ _ => firstDefect_literal w
  | list items ih =>
    intro v hv
    simp only [constant?, Option.map_eq_some_iff] at hv
    obtain ⟨vs, hvs, -⟩ := hv
    rw [firstDefect_list, List.findSome?_eq_none_iff]
    exact fun x hx => by
      obtain ⟨w, hw⟩ := constant_of_mem_constantItems hvs hx
      exact ih x hx w hw
  | operation => simp [constant?]
where
  constant_of_mem_constantItems : ∀ {items : List Rule} {vs : List Value},
      constantItems items = some vs → ∀ {x}, x ∈ items → ∃ w, x.constant? = some w
    | [], _, _, _, hx => absurd hx List.not_mem_nil
    | r :: rest, vs, h, x, hx => by
      rw [constantItems] at h
      split at h
      · rename_i w ws hw hws
        rcases List.mem_cons.1 hx with rfl | hx
        · exact ⟨w, hw⟩
        · exact constant_of_mem_constantItems hws hx
      · cases h

/-- A defect is never a malformed document: that fault belongs to reading. -/
theorem defect_ne_malformedNode {r : Rule} {node : Json} :
    r.defect c ≠ some (.malformedNode node) := by
  unfold defect
  split
  · split
    · simp
    · simp
    · split
      · split <;> simp
      · split
        · split <;> simp
        · simp
  · simp

/-- No defect of a rule tree is a malformed object: that fault comes from reading. -/
theorem firstDefect_ne_malformedNode {r : Rule} {node : Json} :
    r.firstDefect c ≠ some (.malformedNode node) := by
  intro h
  obtain ⟨s, -, hs⟩ := List.exists_of_findSome?_eq_some h
  exact defect_ne_malformedNode hs

end Rule

/-! ## Failures of compilations -/

/-- A compilation fails, whatever names it starts from, exactly with the fault that `d`
names, and succeeds when `d` names none. -/
def FaultsAs (m : CompileM α) (d : Option CompileError) : Prop :=
  ∀ n e, m.run n = .error e ↔ d = some e

namespace FaultsAs

variable {m : CompileM α} {d d' : Option CompileError}

/-- Returning at once never fails. -/
theorem pure (x : α) : FaultsAs (Pure.pure x : CompileM α) none := by
  intro n e
  simp only [StateT.run_pure, reduceCtorEq, iff_false]
  nofun

/-- A refusal fails with its fault. -/
theorem throw (e : CompileError) : FaultsAs (MonadExcept.throw e : CompileM α) (some e) := by
  intro n e'
  simp only [StateT.run_throw, Option.some.injEq]
  exact ⟨fun h => (Except.error.inj h), fun h => h ▸ rfl⟩

/-- Naming never fails. -/
theorem modifyGet (g : Naming → α × Naming) :
    FaultsAs (MonadStateOf.modifyGet g : CompileM α) none := by
  intro n e
  simp only [reduceCtorEq, iff_false]
  nofun

/-- A sequence fails with the first part's fault, or else with the rest's. -/
theorem bind {f : α → CompileM β} (hm : FaultsAs m d) (hf : ∀ x, FaultsAs (f x) d') :
    FaultsAs (m >>= f) (d.or d') := by
  intro n e
  rw [StateT.run_bind]
  rcases h : m.run n with e' | ⟨x, n'⟩
  · obtain rfl : d = some e' := (hm n e').1 h
    simp only [Option.some_or, Option.some.injEq]
    exact ⟨fun h' => Except.error.inj h', fun h' => h' ▸ rfl⟩
  · -- the first part went through, so it names no fault
    have hd : d = none := by
      cases d with
      | none => rfl
      | some e₀ => rw [(hm n e₀).2 rfl] at h; cases h
    rw [hd, Option.none_or]
    exact hf x n' e

/-- Mapping keeps the fault of a compilation. -/
theorem map {f : α → β} (hm : FaultsAs m d) : FaultsAs (f <$> m) d := by
  rw [← bind_pure_comp, ← Option.or_none (o := d)]
  exact hm.bind fun x => pure (f x)

/-- An arity check fails with its own fault before what it guards is run. -/
theorem check {b : Bool} {e : CompileError} {m : CompileM α} (hm : b = false → FaultsAs m d) :
    FaultsAs (if b = true then (MonadExcept.throw e >>= fun (_ : PUnit) => m) else m)
      ((if b = true then some e else none).or d) := by
  cases b
  · simpa using hm rfl
  · intro n e'
    simp only [if_true, Option.some_or, Option.some.injEq]
    rw [StateT.run_bind, StateT.run_throw]
    exact ⟨fun h => Except.error.inj h, fun h => h ▸ rfl⟩

end FaultsAs

namespace Rule

variable {c : Catalog} {facts : Analysis}

/-- Compiling `r` at any place fails exactly with its first defect. -/
def FaultsFirst (c : Catalog) (facts : Analysis) (r : Rule) : Prop :=
  ∀ scope base, FaultsAs (r.compile c facts scope base) (r.firstDefect c)

section Sequences

variable {scope : Scope}

/-- Compiling operands one after the other fails with the first defect among them. -/
theorem faultsAs_compileSeq {xs : List Rule} (ih : ∀ x ∈ xs, x.FaultsFirst c facts) :
    ∀ base, FaultsAs (compileSeq c facts scope base xs) (xs.findSome? (firstDefect c)) := by
  induction xs with
  | nil => exact fun _ => FaultsAs.pure _
  | cons x rest hrest =>
    intro base
    rw [compileSeq, List.findSome?_cons_eq_or, ← Option.or_none (o := rest.findSome? _)]
    exact (ih x (by simp) scope base).bind fun code =>
      (hrest (fun y hy => ih y (by simp [hy])) _).bind fun _ => FaultsAs.pure _

/-- Compiling the operands of `+` fails with the first defect among them. -/
theorem faultsAs_compileSum {xs : List Rule} (ih : ∀ x ∈ xs, x.FaultsFirst c facts) :
    ∀ base first,
      FaultsAs (compileSum c facts scope base first xs) (xs.findSome? (firstDefect c)) := by
  induction xs with
  | nil => exact fun _ _ => FaultsAs.pure _
  | cons x rest hrest =>
    intro base first
    rw [compileSum, List.findSome?_cons_eq_or, ← Option.or_none (o := rest.findSome? _)]
    exact (ih x (by simp) scope base).bind fun code =>
      (hrest (fun y hy => ih y (by simp [hy])) _ false).bind fun _ => FaultsAs.pure _

/-- Compiling the operands of `*` fails with the first defect among them. -/
theorem faultsAs_compileProduct {xs : List Rule} (ih : ∀ x ∈ xs, x.FaultsFirst c facts) :
    ∀ base first, FaultsAs (compileProduct c facts scope base first xs)
      (xs.findSome? (firstDefect c)) := by
  induction xs with
  | nil => exact fun _ _ => FaultsAs.pure _
  | cons x rest hrest =>
    intro base first
    rw [compileProduct, List.findSome?_cons_eq_or, ← Option.or_none (o := rest.findSome? _)]
    exact (ih x (by simp) scope base).bind fun code =>
      (hrest (fun y hy => ih y (by simp [hy])) _ false).bind fun _ => FaultsAs.pure _

/-- Compiling the operands of `and` and `or` fails with the first defect among them. -/
theorem faultsAs_compileShort :
    ∀ {xs : List Rule}, (∀ x ∈ xs, x.FaultsFirst c facts) →
      ∀ base, FaultsAs (compileShort c facts scope base xs) (xs.findSome? (firstDefect c))
  | [], _, _ => FaultsAs.pure _
  | [x], ih, base => by
    rw [compileShort, List.findSome?_cons_eq_or, List.findSome?_nil, ← Option.or_none (o := none)]
    exact (ih x (by simp) scope base).bind fun _ => FaultsAs.pure _
  | x :: y :: rest, ih, base => by
    rw [compileShort, List.findSome?_cons_eq_or]
    · rw [← Option.or_none (o := (y :: rest).findSome? _)]
      refine (ih x (by simp) scope base).bind fun code =>
        (faultsAs_compileShort (fun z hz => ih z (List.mem_cons_of_mem x hz)) _).bind ?_
      rintro ⟨parts, last⟩
      exact FaultsAs.pure _
    · exact List.cons_ne_nil y rest

/-- Compiling an `if` chain fails with the first defect among its arguments. -/
theorem faultsAs_compileBranches :
    ∀ {xs : List Rule}, (∀ x ∈ xs, x.FaultsFirst c facts) →
      ∀ base, FaultsAs (compileBranches c facts scope base xs) (xs.findSome? (firstDefect c))
  | [], _, _ => FaultsAs.pure _
  | [x], ih, base => by
    rw [compileBranches, List.findSome?_cons_eq_or, List.findSome?_nil,
      ← Option.or_none (o := none)]
    exact (ih x (by simp) scope base).bind fun _ => FaultsAs.pure _
  | x :: y :: rest, ih, base => by
    rw [compileBranches, List.findSome?_cons_eq_or, List.findSome?_cons_eq_or]
    rw [← Option.or_none (o := rest.findSome? _)]
    refine (ih x (by simp) scope base).bind fun cond =>
      (ih y (by simp) scope _).bind fun _ =>
        (faultsAs_compileBranches (fun z hz => ih z (by simp [hz])) _).bind ?_
    rintro ⟨pairs, last⟩
    exact FaultsAs.pure _

/-- Compiling operands and then rearranging their code fails with the first defect among them. -/
theorem faultsAs_seqThen {xs : List Rule} (ih : ∀ x ∈ xs, x.FaultsFirst c facts) (base : Nat)
    (f : List Instr → List Instr) :
    FaultsAs (do let code ← compileSeq c facts scope base xs; pure (f code) : CompileM (List Instr))
      (xs.findSome? (firstDefect c)) := by
  rw [← Option.or_none (o := xs.findSome? _)]
  exact (faultsAs_compileSeq ih base).bind fun _ => FaultsAs.pure _

/-- Compiling a chain of two or three comparands fails with the first defect among them. -/
theorem faultsAs_compileWindows {xs : List Rule} (ih : ∀ x ∈ xs, x.FaultsFirst c facts)
    (hlen : 2 ≤ xs.length ∧ xs.length ≤ 3) (base : Nat) :
    FaultsAs (compileWindows c facts scope base xs) (xs.findSome? (firstDefect c)) := by
  match xs, hlen with
  | [a, b], _ =>
    rw [compileWindows]
    simp only [List.findSome?_cons_eq_or, List.findSome?_nil]
    exact (ih a (by simp) scope base).bind fun _ =>
      (ih b (by simp) scope _).bind fun _ => FaultsAs.pure _
  | [a, b, d], _ =>
    rw [compileWindows]
    -- the middle operand is compiled twice; its second compilation can fail only as the first
    have hb : (firstDefect c b).or ((firstDefect c b).or ((firstDefect c d).or none)) =
        (firstDefect c b).or ((firstDefect c d).or none) := by
      cases firstDefect c b <;> rfl
    simp only [List.findSome?_cons_eq_or, List.findSome?_nil]
    rw [← hb]
    exact (ih a (by simp) scope base).bind fun _ => (ih b (by simp) scope _).bind fun _ =>
      (ih b (by simp) scope _).bind fun _ => (ih d (by simp) scope _).bind fun _ =>
        FaultsAs.pure _

/-- `missing_some` fails with the first defect of its first two arguments. -/
theorem faultsAs_compileMissingSome {xs : List Rule} (ih : ∀ x ∈ xs, x.FaultsFirst c facts)
    (base : Nat) :
    FaultsAs (compileMissingSome c facts scope base xs)
      ((xs.take 2).findSome? (firstDefect c)) := by
  match xs with
  | [] => exact FaultsAs.pure _
  | [least] =>
    rw [compileMissingSome]
    simp only [List.take, List.findSome?_cons_eq_or, List.findSome?_nil]
    exact (ih least (by simp) scope _).bind fun _ => FaultsAs.pure _
  | least :: keys :: rest =>
    rw [compileMissingSome]
    simp only [List.take, List.findSome?_cons_eq_or, List.findSome?_nil]
    exact (ih least (by simp) scope _).bind fun _ => (ih keys (by simp) scope _).bind fun _ =>
      FaultsAs.pure _

end Sequences

section Var

variable {scope : Scope}

/-- A `var` fails only for a list as its path, or as its path or its default fail. -/
theorem faultsAs_compileVar {xs : List Rule} (ih : ∀ x ∈ xs, x.FaultsFirst c facts)
    (base : Nat) :
    FaultsAs (compileVar c facts scope base xs)
      ((match xs with
        | path :: _ =>
          match varPath path with
          | .illegal => some (CompileError.illegalVarKey path)
          | _ => none
        | [] => none).or
       (List.findSome? (firstDefect c)
        (match xs with
          | path :: rest =>
            match varPath path with
            | .whole => []
            | _ => path :: rest.take 1
          | [] => []))) := by
  match xs with
  | [] => exact FaultsAs.pure _
  | path :: rest =>
    have hpath := ih path (by simp)
    have hrest : ∀ d ∈ rest.take 1, d.FaultsFirst c facts :=
      fun d hd => ih d (List.mem_cons_of_mem _ (List.mem_of_mem_take hd))
    rw [compileVar]
    rcases hv : varPath path with _ | _ | segments | _
    · simp only [hv, List.findSome?_nil, Option.none_or]
      exact FaultsAs.pure _
    · -- a computed path, then the default or null, both compiled
      simp only [hv, Option.none_or, List.findSome?_cons_eq_or]
      match rest, hrest with
      | [], _ =>
        simp only [List.take_nil, List.findSome?_nil]
        exact (hpath scope _).bind fun _ => (FaultsAs.pure _).bind fun _ => FaultsAs.pure _
      | d :: _, hrest =>
        simp only [List.take_succ_cons, List.take_zero, List.findSome?_cons_eq_or,
          List.findSome?_nil]
        exact (hpath scope _).bind fun _ => (hrest d (by simp) scope _).bind fun _ =>
          FaultsAs.pure _
    · -- a literal path, which has no defect, then the default
      obtain ⟨v, rfl⟩ : ∃ v, path = .literal v := by
        cases path with
        | literal v => exact ⟨v, rfl⟩
        | list => simp [varPath] at hv
        | operation => simp [varPath] at hv
      simp only [hv, Option.none_or, List.findSome?_cons_eq_or, firstDefect_literal]
      match rest, hrest with
      | [], _ => exact FaultsAs.pure _
      | d :: _, hrest =>
        simp only [List.take_succ_cons, List.take_zero, List.findSome?_cons_eq_or,
          List.findSome?_nil]
        exact (hrest d (by simp) scope _).bind fun _ => FaultsAs.pure _
    · simpa [hv] using @FaultsAs.throw (List Instr) (CompileError.illegalVarKey path)

end Var

section Operations

variable {key : String} {args : List Rule} {br : Bool}

/-- The argument counts a builtin's arity admits, read off the failed check. -/
theorem length_of_admits {a : Arity} {n : Nat} (h : (!a.admits n) = false) :
    a.least ≤ n ∧ ∀ m, a.most = some m → n ≤ m := by
  rcases a with ⟨least, _ | most, words⟩ <;> simp_all [Arity.admits]

/-- The arguments that pass a check for exactly `k` of them number `k`. -/
theorem length_of_admits_exactly {k n : Nat} {words : String}
    (h : (!(Arity.mk k (some k) words).admits n) = false) : n = k := by
  have hn := length_of_admits h
  simp only [Option.some.injEq, forall_eq'] at hn
  omega

/-- A builtin operation fails with its own defect, or else with the first defect of the
arguments it looks at, in the order it looks at them. -/
theorem faultsFirst_builtin {op : Builtin} (hl : c.lookup key = some (.builtin op))
    (ih : ∀ x ∈ args, x.FaultsFirst c facts) : (operation key args br).FaultsFirst c facts := by
  intro scope base
  rw [firstDefect_operation, compile.eq_def]
  simp only [hl, defect, visitedArgs, Catalog.builtin?]
  cases op <;> simp only [Builtin.arity, Builtin.exactly, Option.none_or]
  case var =>
    cases args with
    | nil => exact FaultsAs.pure _
    | cons path rest => exact faultsAs_compileVar ih base
  case missing => exact faultsAs_seqThen ih _ _
  case missingSome => exact faultsAs_compileMissingSome ih base
  case cond =>
    split_ifs
    · exact FaultsAs.pure _
    · rw [← Option.or_none (o := args.findSome? _)]
      exact (faultsAs_compileBranches ih base).bind fun _ => FaultsAs.pure _
  case eq | strictEq | ne | strictNe | div | mod | sub | substr | log =>
    exact FaultsAs.check fun _ => faultsAs_seqThen ih base _
  case max | min => exact faultsAs_seqThen ih base _
  case not | notNot =>
    refine FaultsAs.check fun hadm => ?_
    obtain ⟨x, rfl⟩ := List.length_eq_one_iff.1 (length_of_admits_exactly hadm)
    simp only [List.findSome?_cons_eq_or, List.findSome?_nil]
    exact (ih x (by simp) scope base).bind fun _ => FaultsAs.pure _
  case and | or =>
    split_ifs with hempty
    · rw [List.isEmpty_iff.1 hempty]
      exact FaultsAs.pure _
    · rw [← Option.or_none (o := args.findSome? _)]
      exact (faultsAs_compileShort ih base).bind fun _ => FaultsAs.pure _
  case gt | gte | lt | lte =>
    refine FaultsAs.check fun hadm => ?_
    have hlen := length_of_admits hadm
    simp only [Option.some.injEq, forall_eq'] at hlen
    rw [← Option.or_none (o := args.findSome? _)]
    exact (faultsAs_compileWindows ih hlen base).bind fun _ => FaultsAs.pure _
  case add => exact FaultsAs.check fun _ => faultsAs_compileSum ih base true
  case mul =>
    refine FaultsAs.check fun _ => ?_
    split_ifs with hone
    · obtain ⟨x, rfl⟩ := List.length_eq_one_iff.1 (by simpa using hone)
      simp only [List.findSome?_cons_eq_or, List.findSome?_nil]
      exact (ih x (by simp) scope base).bind fun _ => FaultsAs.pure _
    · exact faultsAs_compileProduct ih base true
  case map | filter | allOf | noneOf | someOf | member =>
    refine FaultsAs.check fun hadm => ?_
    obtain ⟨x, y, rfl⟩ := List.length_eq_two.1 (length_of_admits_exactly hadm)
    simp only [List.findSome?_cons_eq_or, List.findSome?_nil]
    exact (ih x (by simp) scope _).bind fun _ => (ih y (by simp) _ _).bind fun _ =>
      FaultsAs.pure _
  case reduce =>
    -- the source, then the initial value if there is one, then the body
    refine FaultsAs.check fun hadm => ?_
    have hlen := length_of_admits hadm
    simp only [Option.some.injEq, forall_eq'] at hlen
    obtain ⟨source, body, rfl⟩ | ⟨source, body, init, rfl⟩ :
        (∃ source body, args = [source, body]) ∨ ∃ source body init, args = [source, body, init] :=
      (show args.length = 2 ∨ args.length = 3 by omega).imp List.length_eq_two.1
        List.length_eq_three.1
    · -- the source and the body
      simp only [List.findSome?_cons_eq_or, List.findSome?_nil]
      exact (ih source (by simp) scope _).bind fun _ => (FaultsAs.pure _).bind fun _ =>
        (ih body (by simp) _ _).bind fun _ => FaultsAs.pure _
    · -- the source, the body and the initial value
      simp only [List.findSome?_cons_eq_or, List.findSome?_nil]
      exact (ih source (by simp) scope _).bind fun _ => (ih init (by simp) _ _).bind fun _ =>
        (ih body (by simp) _ _).bind fun _ => FaultsAs.pure _
  case merge =>
    split
    · -- arguments made only of literals and lists have no defect
      rename_i vs hvs
      have hnone :=
        firstDefect_of_constant (c := c) (.list args) (.array vs) (by simp [constant?, hvs])
      rw [firstDefect_list] at hnone
      rw [hnone]
      exact FaultsAs.pure _
    · rw [← Option.or_none (o := args.findSome? _)]
      exact (faultsAs_compileSeq ih base).bind fun _ => by
        split <;> exact FaultsAs.pure _
  case cat =>
    split_ifs with hempty
    · rw [List.isEmpty_iff.1 hempty]
      exact FaultsAs.pure _
    · exact faultsAs_seqThen ih base _
    · exact faultsAs_seqThen ih base _

/-- An extension operation has no defect of its own: it fails as its arguments do. -/
theorem faultsFirst_extension {op : Operation} (hl : c.lookup key = some (.extension op))
    (ih : ∀ x ∈ args, x.FaultsFirst c facts) : (operation key args br).FaultsFirst c facts := by
  intro scope base
  rw [firstDefect_operation, compile.eq_def]
  simp only [hl, defect, visitedArgs, Catalog.builtin?, Option.none_or]
  exact (FaultsAs.modifyGet _).bind fun _ => faultsAs_seqThen ih base _

end Operations

/-- Compiling a rule fails, at any place and whatever names it starts from, exactly with the
first defect of its walk. -/
theorem compile_faultsAs (r : Rule) : r.FaultsFirst c facts := by
  induction r using Rule.induction with
  | literal v =>
    intro scope base
    rw [compile_literal, firstDefect_literal]
    exact FaultsAs.pure _
  | list items ih =>
    intro scope base
    rw [compile, firstDefect_list]
    split
    · rename_i vs hvs
      have hnone :=
        firstDefect_of_constant (c := c) (.list items) (.array vs) (by simp [constant?, hvs])
      rw [firstDefect_list] at hnone
      rw [hnone]
      exact FaultsAs.pure _
    · exact faultsAs_seqThen ih base _
  | operation key args br ih =>
    intro scope base
    rcases hl : c.lookup key with _ | entry
    · -- an unknown key is the node's own defect
      rw [firstDefect_operation, compile.eq_def]
      simp only [hl, defect]
      exact FaultsAs.throw _
    · cases entry with
      | builtin op => exact faultsFirst_builtin hl ih scope base
      | extension op => exact faultsFirst_extension hl ih scope base

end Rule

end RuleMachine
