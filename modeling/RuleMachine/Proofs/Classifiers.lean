import RuleMachine.Proofs.Numbers
import RuleMachine.Proofs.Segments
import RuleMachine.Code.Analysis
import RuleMachine.Code.Compile

/-!
# The classifiers are sound

A rule read from a document holds only scalars in its literals (`Rule.Scalar`). For such a
rule, every value that direct evaluation gives agrees with what the classifiers of
`Code/Analysis.lean` claim: `Rule.isArray` answers true only for rules whose values are arrays,
`Rule.isNonArray` only for rules whose values are not, and `Rule.isNumeric` only for rules
whose values are numbers — the result of arithmetic, `max` and `min` being a number that
`ToNumber` leaves as it is. A builtin shadowed by an extension is unknown to the classifiers,
so an extension's value is never claimed.
-/

namespace RuleMachine

namespace Value

/-- Whether a value is an array. -/
def isArray : Value → Bool
  | .array _ => true
  | _ => false

/-- Whether a value is a number. -/
def isNumber : Value → Bool
  | .int _ | .float _ => true
  | _ => false

/-- Whether a value is a scalar: neither an array nor an object. -/
def isScalar : Value → Bool
  | .array _ | .object _ => false
  | _ => true

/-- A computed word is never an array. -/
@[simp] theorem isArray_ofWord (x : Binary64) : (ofWord x).isArray = false := by
  unfold ofWord
  split <;> rfl

/-- A computed word is a number. -/
@[simp] theorem isNumber_ofWord (x : Binary64) : (ofWord x).isNumber = true := by
  unfold ofWord
  split <;> rfl

/-- Rule truthiness is JavaScript truthiness except on arrays. -/
theorem truthy_eq_jsTruthy {v : Value} (h : v.isArray = false) : v.truthy = v.jsTruthy := by
  cases v <;> simp_all [isArray, truthy]

end Value

namespace Rule

/-- Induction on rules, with the hypothesis for every item of a list and every argument of an
operation. -/
@[elab_as_elim]
theorem induction {motive : Rule → Prop} (literal : ∀ v, motive (.literal v))
    (list : ∀ items, (∀ r ∈ items, motive r) → motive (.list items))
    (operation : ∀ key args bracketed, (∀ r ∈ args, motive r) →
      motive (.operation key args bracketed)) :
    ∀ r, motive r
  | .literal v => literal v
  | .list items => list items fun r hr =>
    have := List.sizeOf_lt_of_mem hr
    induction literal list operation r
  | .operation key args bracketed => operation key args bracketed fun r hr =>
    have := List.sizeOf_lt_of_mem hr
    induction literal list operation r
termination_by r => sizeOf r
decreasing_by all_goals simp only [Rule.list.sizeOf_spec, Rule.operation.sizeOf_spec]; omega

/-- `p` holds at every node of the rule. -/
inductive Every (p : Rule → Prop) : Rule → Prop
  | literal {v : Value} : p (.literal v) → Every p (.literal v)
  | list {items : List Rule} : p (.list items) → (∀ r ∈ items, Every p r) → Every p (.list items)
  | operation {key : String} {args : List Rule} {bracketed : Bool} :
      p (.operation key args bracketed) → (∀ r ∈ args, Every p r) →
        Every p (.operation key args bracketed)

namespace Every

variable {p : Rule → Prop}

/-- A property of every node holds of the root. -/
theorem self {r : Rule} (h : Every p r) : p r := by
  cases h <;> assumption

/-- A property of every node holds of every node of each argument. -/
theorem of_mem_args {key : String} {args : List Rule} {bracketed : Bool}
    (h : Every p (.operation key args bracketed)) {r : Rule} (hr : r ∈ args) : Every p r := by
  cases h with
  | operation _ hargs => exact hargs r hr

/-- A property of every node holds of every node of each item. -/
theorem of_mem_items {items : List Rule} (h : Every p (.list items)) {r : Rule}
    (hr : r ∈ items) : Every p r := by
  cases h with
  | list _ hitems => exact hitems r hr

end Every

/-- Every literal of the rule holds a scalar, as in a rule read from a document. -/
def Scalar (r : Rule) : Prop :=
  r.Every fun
    | .literal v => v.isScalar = true
    | _ => True

/-- A document that is neither an array nor an object reads as a scalar literal. -/
theorem literal_scalar : ∀ {j : Json}, (∀ items, j ≠ .array items) → (∀ ms, j ≠ .object ms) →
    (Rule.literal (Value.ofJson j)).Scalar
  | .null, _, _ | .bool _, _, _ | .string _, _, _ => .literal rfl
  | .number n, _, _ => by
    refine .literal ?_
    cases n <;> simp only [Value.ofJson, Value.ofNumber]
    · split <;> rfl
    all_goals rfl
  | .array items, h, _ => (h items rfl).elim
  | .object ms, _, h => (h ms rfl).elim

mutual

/-- Every literal of a rule read from a document is a scalar. -/
theorem scalar_of_ofJson : ∀ {j : Json} {r : Rule}, Rule.ofJson j = .ok r → r.Scalar
  | .array items, r, h => by
    rw [Rule.ofJson] at h
    cases hs : ofJsonItems items with
    | error e => simp [hs, Except.map] at h
    | ok rs =>
      simp only [hs, Except.map, Except.ok.injEq] at h
      subst h
      exact .list trivial fun x hx => scalarItems_of_ofJsonItems hs x hx
  | .object [(key, value)], r, h => by
    cases value
    case array items =>
      simp only [Rule.ofJson] at h
      cases hs : ofJsonItems items with
      | error e => simp [hs, Except.map] at h
      | ok rs =>
        simp only [hs, Except.map, Except.ok.injEq] at h
        subst h
        exact .operation trivial fun x hx => scalarItems_of_ofJsonItems hs x hx
    case object members =>
      -- a single object argument written without brackets
      simp only [Rule.ofJson, Except.map] at h
      split at h
      · simp at h
      · rename_i arg hs
        simp only [Except.ok.injEq] at h
        subst h
        refine .operation trivial fun x hx => ?_
        simp only [List.mem_singleton] at hx
        exact hx ▸ scalar_of_ofJson hs
    -- a single scalar argument written without brackets
    all_goals
      simp only [Rule.ofJson, Except.map, Except.ok.injEq] at h
      subst h
      refine .operation trivial fun x hx => ?_
      simp only [List.mem_singleton] at hx
      subst hx
      exact literal_scalar (by simp) (by simp)
  | .object [], r, h => by simp [Rule.ofJson] at h
  | .object (_ :: _ :: _), r, h => by simp [Rule.ofJson] at h
  | .null, r, h | .bool _, r, h | .number _, r, h | .string _, r, h => by
    simp only [Rule.ofJson, Except.ok.injEq] at h
    subst h
    exact literal_scalar (by simp) (by simp)

/-- Every literal of rules read from a list of documents is a scalar. -/
theorem scalarItems_of_ofJsonItems : ∀ {js : List Json} {rs : List Rule},
    Rule.ofJsonItems js = .ok rs → ∀ r ∈ rs, r.Scalar
  | [], rs, h => by
    simp only [Rule.ofJsonItems, Except.ok.injEq] at h
    subst h
    simp
  | j :: rest, rs, h => by
    rw [Rule.ofJsonItems] at h
    cases hj : ofJson j with
    | error e => simp [hj] at h
    | ok r =>
      cases hrest : ofJsonItems rest with
      | error e => simp [hj, hrest, Except.map] at h
      | ok more =>
        simp only [hj, hrest, Except.map, Except.ok.injEq] at h
        subst h
        intro x hx
        rcases List.mem_cons.1 hx with rfl | hx
        · exact scalar_of_ofJson hj
        · exact scalarItems_of_ofJsonItems hrest x hx

end

end Rule

/-- A key the catalog reads as a builtin looks that builtin up. -/
theorem Catalog.lookup_of_builtin? {c : Catalog} {key : String} {b : Builtin}
    (h : c.builtin? key = some b) : c.lookup key = some (.builtin b) := by
  unfold Catalog.builtin? at h
  split at h <;> simp_all

namespace Rule

/-! ## Values of the list operations -/

/-- A comparison of values gives no array. -/
theorem isArray_binary_bool {f : Value → Value → Bool} (vs : List Value) :
    (binary (fun a b => .bool (f a b)) vs).isArray = false := by
  unfold binary
  split <;> rfl

/-- Arithmetic on two values gives no array. -/
theorem isArray_binary_arith {f : Binary64 → Binary64 → Binary64} (vs : List Value) :
    (binary (Value.arith f) vs).isArray = false := by
  unfold binary
  split
  · exact Value.isArray_ofWord _
  · rfl

/-- A sum is a computed number; there is no sum of nothing. -/
theorem sum_eq_ofWord {vs : List Value} (h : vs ≠ []) : ∃ w, sum vs = Value.ofWord w := by
  obtain ⟨first, rest, rfl⟩ := List.exists_cons_of_ne_nil h
  simp only [sum]
  induction rest using List.reverseRecOn with
  | nil => exact ⟨_, rfl⟩
  | append_singleton rest v _ => exact ⟨_, by rw [List.foldl_append]; rfl⟩

/-- A product of one value or more is a computed word. -/
theorem product_eq_ofWord {vs : List Value} (h : vs ≠ []) : ∃ w, product vs = Value.ofWord w := by
  match vs, h with
  | [single], _ => exact ⟨_, rfl⟩
  | first :: second :: rest, _ =>
    simp only [product]
    induction rest using List.reverseRecOn with
    | nil => exact ⟨_, rfl⟩
    | append_singleton rest v _ =>
      exact ⟨_, by rw [← List.cons_append, List.foldl_append]; rfl⟩

/-- A difference or a negation is a computed word. -/
theorem difference_eq_ofWord {vs : List Value} (h : vs.length = 1 ∨ vs.length = 2) :
    ∃ w, difference vs = Value.ofWord w := by
  match vs, h with
  | [single], _ => exact ⟨_, rfl⟩
  | [a, b], _ => exact ⟨_, rfl⟩

/-- Arithmetic on two values is a computed word. -/
theorem binary_arith_eq_ofWord {f : Binary64 → Binary64 → Binary64} {vs : List Value}
    (h : vs.length = 2) : ∃ w, binary (Value.arith f) vs = Value.ofWord w := by
  match vs, h with
  | [a, b], _ => exact ⟨_, rfl⟩

/-- Evaluating rules one after the other gives one value for each. -/
theorem evaluateAll_length (c : Catalog) (d : Value) (rs : List Rule) :
    Gives (evaluateAll c d rs) (·.length = rs.length) := by
  induction rs with
  | nil => exact Gives.pure rfl
  | cons r rest ih =>
    rw [evaluateAll]
    exact Gives.bind_any fun v => ih.bind fun vs hvs => Gives.pure (by simp [hvs])

/-- A sum gives no array. -/
theorem isArray_sum (vs : List Value) : (sum vs).isArray = false := by
  cases vs with
  | nil => rfl
  | cons v rest =>
    obtain ⟨w, hw⟩ := sum_eq_ofWord (List.cons_ne_nil v rest)
    rw [hw, Value.isArray_ofWord]

/-- A product gives no array. -/
theorem isArray_product (vs : List Value) : (product vs).isArray = false := by
  cases vs with
  | nil => rfl
  | cons v rest =>
    obtain ⟨w, hw⟩ := product_eq_ofWord (List.cons_ne_nil v rest)
    rw [hw, Value.isArray_ofWord]

/-- A difference gives no array. -/
theorem isArray_difference (vs : List Value) : (difference vs).isArray = false := by
  unfold difference
  split
  · exact Value.isArray_ofWord _
  · exact Value.isArray_ofWord _
  · rfl

/-- A membership test gives no array. -/
theorem isArray_membership (vs : List Value) : (membership vs).isArray = false := by
  unfold membership
  split
  · split <;> rfl
  · rfl

/-! ## Soundness

Each classifier is sound on the values of direct evaluation. An arity defect stops evaluation
before any value, so only the admitted argument counts matter. -/

section Soundness

variable {c : Catalog} {d : Value} {p : Value → Prop}

/-- A builtin's arity check either stops evaluation or lets the rest run. -/
theorem Gives.unless_throw {b : Bool} {e : EvalError} {m : EvalM α} {q : α → Prop}
    (h : b = false → Gives m q) :
    Gives (if b = true then (throw e >>= fun (_ : PUnit) => m) else m) q := by
  split
  · exact Gives.throw_bind _ _
  · rename_i hb
    exact h (by simpa using hb)

/-- The arguments a range admits. -/
theorem admits_eq_false {lo hi n : Nat} :
    (!(decide (lo ≤ n) && decide (n ≤ hi))) = false ↔ lo ≤ n ∧ n ≤ hi := by
  simp

/-- Arguments that pass a check for at least two of them start with two. -/
theorem exists_cons_cons_of_two_le {xs : List α} (h : 2 ≤ xs.length) :
    ∃ first second rest, xs = first :: second :: rest := by
  rcases xs with _ | ⟨first, _ | ⟨second, rest⟩⟩
  · simp at h
  · simp at h
  · exact ⟨first, second, rest, rfl⟩

/-- `and` gives one of its operands, or null for none. -/
theorem gives_evaluateAnd (hnull : p .null) :
    ∀ {args : List Rule}, (∀ r ∈ args, Gives (r.evaluate c d) p) → Gives (evaluateAnd c d args) p
  | [], _ => by rw [evaluateAnd]; exact Gives.pure hnull
  | [last], h => by rw [evaluateAnd]; exact h last (by simp)
  | r :: s :: rest, h => by
    rw [evaluateAnd.eq_3 _ _ _ _ (List.cons_ne_nil s rest)]
    refine (h r (by simp)).bind fun v hv => ?_
    split
    · exact gives_evaluateAnd hnull fun x hx => h x (List.mem_cons_of_mem _ hx)
    · exact Gives.pure hv

/-- `or` gives one of its operands, or null for none. -/
theorem gives_evaluateOr (hnull : p .null) :
    ∀ {args : List Rule}, (∀ r ∈ args, Gives (r.evaluate c d) p) → Gives (evaluateOr c d args) p
  | [], _ => by rw [evaluateOr]; exact Gives.pure hnull
  | [last], h => by rw [evaluateOr]; exact h last (by simp)
  | r :: s :: rest, h => by
    rw [evaluateOr.eq_3 _ _ _ _ (List.cons_ne_nil s rest)]
    refine (h r (by simp)).bind fun v hv => ?_
    split
    · exact Gives.pure hv
    · exact gives_evaluateOr hnull fun x hx => h x (List.mem_cons_of_mem _ hx)

/-- An `if` chain gives one of its branches, or null. -/
theorem gives_evaluateChain (hnull : p .null) :
    ∀ {args : List Rule}, branchesNonArray c args = true →
      (∀ r ∈ args, isNonArray c r = true → Gives (r.evaluate c d) p) →
        Gives (evaluateChain c d args) p
  | [], _, _ => by rw [evaluateChain]; exact Gives.pure hnull
  | [otherwise], hb, h => by
    rw [evaluateChain]
    exact h otherwise (by simp) (by simpa [branchesNonArray] using hb)
  | cond :: thenBranch :: rest, hb, h => by
    simp only [branchesNonArray, Bool.and_eq_true] at hb
    rw [evaluateChain]
    refine Gives.bind_any fun v => ?_
    split
    · exact h thenBranch (by simp) hb.1
    · exact gives_evaluateChain hnull hb.2 fun x hx => h x (by simp [hx])

/-- A comparison gives a boolean, or null for a wrong number of operands. -/
theorem isArray_evaluateOrder (test : Value → Value → Bool) (args : List Rule) :
    Gives (evaluateOrder c d test args) (·.isArray = false) := by
  match args with
  | [a, b] =>
    rw [evaluateOrder]
    exact Gives.bind_any fun _ => Gives.bind_any fun _ => Gives.pure rfl
  | [a, b, e] =>
    rw [evaluateOrder]
    refine Gives.bind_any fun _ => Gives.bind_any fun _ => ?_
    split
    · exact Gives.bind_any fun _ => Gives.bind_any fun _ => Gives.pure rfl
    · exact Gives.pure rfl
  | [] | [_] | _ :: _ :: _ :: _ :: _ =>
    rw [evaluateOrder.eq_3 _ _ _ _ (by simp) (by simp)]
    exact Gives.pure rfl

/-- `allNonArray` holds exactly when every rule it is given is a non-array. -/
theorem allNonArray_iff {args : List Rule} :
    allNonArray c args = true ↔ ∀ r ∈ args, isNonArray c r = true := by
  induction args with
  | nil => simp [allNonArray]
  | cons r rest ih => simp [allNonArray, ih]

/-- `isNonArray` is sound on rules whose literals are scalars. -/
theorem isNonArray_sound {r : Rule} (hs : r.Scalar) (h : r.isNonArray c = true) (d : Value) :
    Gives (r.evaluate c d) (·.isArray = false) := by
  induction hs generalizing d with
  | @literal v hv =>
    rw [evaluate]
    exact Gives.pure (by cases v <;> simp_all [Value.isScalar, Value.isArray])
  | list _ _ _ => simp [isNonArray] at h
  | @operation key args br _ _ ih =>
    rw [isNonArray] at h
    rw [evaluate.eq_def]
    split at h
    case h_1 hb | h_2 hb =>
      -- `and` and `or` give one of their operands
      rw [allNonArray_iff] at h
      simp only [Catalog.lookup_of_builtin? hb, Builtin.arity]
      first
        | exact gives_evaluateAnd (p := (·.isArray = false)) rfl fun x hx => ih x hx (h x hx) d
        | exact gives_evaluateOr (p := (·.isArray = false)) rfl fun x hx => ih x hx (h x hx) d
    case h_3 hb =>
      -- an `if` chain gives one of its branches, or null
      simp only [Catalog.lookup_of_builtin? hb, Builtin.arity]
      split
      · exact Gives.pure rfl
      · rename_i hlt
        simp only [hlt, decide_false, Bool.false_or] at h
        exact gives_evaluateChain (p := (·.isArray = false)) rfl h fun x hx hx' => ih x hx hx' d
    case h_5 => simp at h
    case h_4 b _ _ _ hb =>
      simp only [Catalog.lookup_of_builtin? hb]
      cases b
      all_goals simp only [Builtin.givesScalar, Bool.false_eq_true] at h
      all_goals simp only [Builtin.arity, Builtin.exactly, Arity.admits]
      case eq | strictEq | ne | strictNe =>
        exact Gives.unless_throw fun _ => Gives.bind_pure isArray_binary_bool
      case div | mod => exact Gives.unless_throw fun _ => Gives.bind_pure isArray_binary_arith
      case max | min => exact Gives.bind_pure fun _ => Value.isArray_ofWord _
      case add => exact Gives.unless_throw fun _ => Gives.bind_pure isArray_sum
      case sub => exact Gives.unless_throw fun _ => Gives.bind_pure isArray_difference
      case mul => exact Gives.unless_throw fun _ => Gives.bind_pure isArray_product
      case cat => exact Gives.bind_any fun vs => Gives.pure (by unfold concatenation; split <;> rfl)
      case substr => exact Gives.unless_throw fun _ => (Gives.bind_any fun _ => Gives.pure rfl)
      case member => exact Gives.unless_throw fun _ => Gives.bind_pure isArray_membership
      case gt | gte | lt | lte => exact Gives.unless_throw fun _ => (isArray_evaluateOrder _ args)
      case not | notNot =>
        refine Gives.unless_throw fun _ => ?_
        split
        · exact Gives.bind_any fun _ => Gives.pure rfl
        · exact Gives.pure rfl
      case allOf =>
        refine Gives.unless_throw fun _ => ?_
        split
        · refine Gives.bind_any fun v => ?_
          split
          · exact Gives.pure rfl
          · exact Gives.bind_any fun _ => Gives.pure rfl
          · exact Gives.pure rfl
        · exact Gives.pure rfl
      case someOf | noneOf =>
        refine Gives.unless_throw fun _ => ?_
        split
        · refine Gives.bind_any fun v => ?_
          split
          · exact Gives.bind_any fun _ => Gives.pure rfl
          · exact Gives.pure rfl
        · exact Gives.pure rfl

/-- `missing_some` gives an array. -/
theorem isArray_evaluateMissingSome (args : List Rule) :
    Gives (evaluateMissingSome c d args) (·.isArray = true) := by
  match args with
  | [] => exact Gives.pure rfl
  | [least] =>
    rw [evaluateMissingSome]
    exact Gives.bind_any fun _ => Gives.pure rfl
  | least :: keys :: _ =>
    rw [evaluateMissingSome]
    exact Gives.bind_any fun _ => Gives.bind_any fun _ => Gives.pure rfl

/-- `isArray` is sound: the rules it names give arrays only. -/
theorem isArray_sound {r : Rule} (h : r.isArray c = true) (d : Value) :
    Gives (r.evaluate c d) (·.isArray = true) := by
  cases r with
  | literal v => simp [isArray] at h
  | list items =>
    rw [evaluate]
    exact Gives.bind_any fun _ => Gives.pure rfl
  | operation key args br =>
    simp only [isArray, builtinIn] at h
    rw [evaluate.eq_def]
    split at h
    case h_1 hb | h_2 hb =>
      -- `map` and `filter` admit exactly a source and a body
      simp only [Catalog.lookup_of_builtin? hb, Builtin.arity, Builtin.exactly, Arity.admits]
      refine Gives.unless_throw fun ha => ?_
      have h2 : args.length = 2 := by rw [admits_eq_false] at ha; omega
      obtain ⟨source, body, rfl⟩ := List.length_eq_two.1 h2
      refine Gives.bind_any fun v => ?_
      split
      · exact Gives.bind_any fun _ => Gives.pure rfl
      · exact Gives.pure rfl
    case h_3 hb | h_4 hb =>
      simp only [Catalog.lookup_of_builtin? hb, Builtin.arity]
      exact Gives.bind_any fun _ => Gives.pure rfl
    case h_5 hb =>
      simp only [Catalog.lookup_of_builtin? hb, Builtin.arity]
      exact isArray_evaluateMissingSome args
    case h_6 => simp at h

/-- The arithmetic operators and `max`, `min` give computed numbers. -/
theorem isNumeric_operation {key : String} {args : List Rule} {br : Bool}
    (h : (operation key args br).isNumeric c = true) (d : Value) :
    Gives ((operation key args br).evaluate c d) fun v => ∃ w, v = Value.ofWord w := by
  simp only [isNumeric, builtinIn] at h
  rw [evaluate.eq_def]
  have hlen := evaluateAll_length c d args
  split at h
  case h_8 => simp at h
  all_goals
    rename_i hb
    simp only [Catalog.lookup_of_builtin? hb, Builtin.arity, Builtin.exactly, Arity.admits]
  -- `+` and `*` admit one argument or more
  case h_1 =>
    refine Gives.unless_throw fun ha => hlen.bind fun vs hvs => Gives.pure ?_
    simp only [Bool.and_true, Bool.not_eq_false', decide_eq_true_eq] at ha
    exact sum_eq_ofWord (List.ne_nil_of_length_pos (by omega))
  case h_3 =>
    refine Gives.unless_throw fun ha => hlen.bind fun vs hvs => Gives.pure ?_
    simp only [Bool.and_true, Bool.not_eq_false', decide_eq_true_eq] at ha
    exact product_eq_ofWord (List.ne_nil_of_length_pos (by omega))
  case h_2 =>
    refine Gives.unless_throw fun ha => hlen.bind fun vs hvs => Gives.pure ?_
    rw [admits_eq_false] at ha
    exact difference_eq_ofWord (by omega)
  case h_4 | h_5 =>
    refine Gives.unless_throw fun ha => hlen.bind fun vs hvs => Gives.pure ?_
    rw [admits_eq_false] at ha
    exact binary_arith_eq_ofWord (by omega)
  case h_6 | h_7 => exact Gives.bind_any fun _ => Gives.pure ⟨_, rfl⟩

/-- `isNumeric` is sound: the rules it names give integers or floats. -/
theorem isNumeric_sound {r : Rule} (h : r.isNumeric c = true) (d : Value) :
    Gives (r.evaluate c d) (·.isNumber = true) := by
  match r, h with
  | .literal (.int _), _ | .literal (.float _), _ =>
    rw [evaluate]
    exact Gives.pure rfl
  | .operation key args br, h =>
    exact (isNumeric_operation h d).mono fun v ⟨w, hw⟩ => hw ▸ Value.isNumber_ofWord w

/-- A numeric rule's value is one that `ToNumber` keeps, if its literal is. -/
theorem number_eq_of_isNumeric {r : Rule} (h : r.isNumeric c = true)
    (hlit : ∀ v, r = .literal v → v.number = v) (d : Value) :
    Gives (r.evaluate c d) fun v => v.number = v := by
  cases r with
  | literal v =>
    rw [evaluate]
    exact Gives.pure (hlit v rfl)
  | list => simp [isNumeric] at h
  | operation key args br =>
    exact (isNumeric_operation h d).mono fun v ⟨w, hw⟩ => hw ▸ Value.number_ofWord w

end Soundness

end Rule

end RuleMachine
