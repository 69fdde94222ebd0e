import RuleMachine.Proofs.Schemes
import RuleMachine.Proofs.Iteration
import RuleMachine.Proofs.Branching
import RuleMachine.Proofs.Naming

/-!
# Compiled code runs as a meaning of its rule

The statement that the proofs of this directory establish for every rule. Compiled under an
analysis `facts` that claims no more than the catalog's classifiers (`Analysis.Within`), a
rule's code runs, wherever it is placed, as a *meaning* of the rule (`Meaning`): an evaluation
of its scope's data that fails only as compiled code may, gives arrays where `facts` says so,
and is the rule's direct evaluation when the numeric shortcut keeps its numbers
(`KeepsNumbers`). Compiling also keeps the names given before (`Tracked`).
-/

namespace RuleMachine

open Machine

/-- The failures that compiled code may end in: a reduce of an empty array without an initial
value, and an extension operator's own failure. -/
def EvalError.Allowed : EvalError → Prop
  | .run (.typeMismatch message) => message = "reduce of empty array with no initial value"
  | .run (.operation _) => True
  | _ => False

namespace Analysis

/-- An analysis that claims nothing that the catalog's classifiers do not. -/
structure Within (facts : Analysis) (c : Catalog) : Prop where
  isArray : ∀ r, facts.isArray r = true → r.isArray c = true
  isNonArray : ∀ r, facts.isNonArray r = true → r.isNonArray c = true
  isNumeric : ∀ r, facts.isNumeric r = true → r.isNumeric c = true

theorem within_ofCatalog (c : Catalog) : (ofCatalog c).Within c :=
  ⟨fun _ h => h, fun _ h => h, fun _ h => h⟩

theorem within_blind (c : Catalog) : blind.Within c :=
  ⟨fun _ h => Bool.noConfusion h, fun _ h => Bool.noConfusion h, fun _ h => Bool.noConfusion h⟩

end Analysis

namespace Rule

/-- What leaving out the conversion of a literal operand `v` to a number assumes: that the
conversion keeps the value when the operand is the whole result (`lone`), and its number when
the operand is added to others. -/
def KeepsNumber (lone : Bool) (v : Value) : Prop :=
  if lone then v.number = v else v.number.toNumber = v.toNumber

/-- Every literal operand of `+`, or lone operand of `*`, that `facts` calls numeric, so that
its conversion to a number is left out, is a number that the conversion keeps. -/
def KeepsNumbers (facts : Analysis) (c : Catalog) (r : Rule) : Prop :=
  r.Every fun
    | .operation key args _ =>
      ∀ v, .literal v ∈ args → facts.isNumeric (.literal v) = true →
        (c.builtin? key = some .add → KeepsNumber (args.length == 1) v) ∧
        (c.builtin? key = some .mul → args.length = 1 → v.number = v)
    | _ => True

/-- Knowing nothing, an analysis leaves out no conversion. -/
theorem keepsNumbers_blind {c : Catalog} (r : Rule) : r.KeepsNumbers Analysis.blind c := by
  induction r using Rule.induction with
  | literal v => exact .literal trivial
  | list items ih => exact .list trivial ih
  | operation key args br ih => exact .operation (fun v _ h => Bool.noConfusion h) ih

end Rule

/-- A meaning in a reduce body that does not look at the `data` member of its context. -/
def DataFree (m : Value → EvalM α) : Prop :=
  ∀ acc x index src,
    m (Value.reduceContext acc x index none) = m (Value.reduceContext acc x index (some src))

mutual

/-- The extension slots an instruction calls, its body included. -/
def Instr.slots : Instr → List Nat
  | .callOp slot _ => [slot]
  | .iterate _ body _ => blockSlots body
  | .reduce body _ _ _ => blockSlots body
  | _ => []

/-- The extension slots a block calls, bodies included. -/
def blockSlots : List Instr → List Nat
  | [] => []
  | i :: rest => i.slots ++ blockSlots rest

end

@[simp] theorem blockSlots_append (p q : List Instr) :
    blockSlots (p ++ q) = blockSlots p ++ blockSlots q := by
  induction p with
  | nil => rfl
  | cons i rest ih => simp [blockSlots, ih]

@[simp] theorem blockRoutines_append (p q : List Instr) :
    blockRoutines (p ++ q) = blockRoutines p ++ blockRoutines q := by
  induction p with
  | nil => rfl
  | cons i rest ih => simp [blockRoutines, ih]

@[simp] theorem blockSlots_singleton (i : Instr) : blockSlots [i] = i.slots := by
  simp [blockSlots]

@[simp] theorem blockRoutines_singleton (i : Instr) : blockRoutines [i] = i.routines := by
  simp [blockRoutines]

@[simp] theorem readsData_append (p q : List Instr) :
    Rule.readsData (p ++ q) = (Rule.readsData p || Rule.readsData q) := by
  simp [Rule.readsData, List.any_append]

/-- What compiling does to the names given so far: it keeps the bindings made before, keeps
the naming valid, and calls only slots that it has bound. -/
structure Tracked (n : Naming) (part : List Instr) (n' : Naming) : Prop where
  grows : n.bindings <+: n'.bindings
  valid : n.Valid → n'.Valid
  slots : n.Valid → ∀ slot ∈ blockSlots part, slot < n'.bindings.length

namespace Tracked

variable {n n₁ n₂ : Naming} {p q : List Instr}

/-- Code that calls no extension and names nothing. -/
theorem of_slots (h : blockSlots p = []) : Tracked n p n :=
  ⟨List.prefix_refl _, id, fun _ s hs => by simp [h] at hs⟩

theorem append (h₁ : Tracked n p n₁) (h₂ : Tracked n₁ q n₂) : Tracked n (p ++ q) n₂ where
  grows := h₁.grows.trans h₂.grows
  valid hn := h₂.valid (h₁.valid hn)
  slots hn s hs := by
    rw [blockSlots_append, List.mem_append] at hs
    rcases hs with hs | hs
    · exact Nat.lt_of_lt_of_le (h₁.slots hn s hs) h₂.grows.length_le
    · exact h₂.slots (h₁.valid hn) s hs

end Tracked

/-- A linked program fits code compiled up to the naming `n'` of a compilation that ends with
the naming `N`: the bindings of `n'` are among those of `N`, and the routines the code calls
are attached. -/
structure Fits (L : Linked) (N n' : Naming) (part : List Instr) : Prop where
  within : n'.bindings <+: N.bindings
  routines : ∀ x ∈ blockRoutines part, x ∈ L.routines

namespace Fits

variable {L : Linked} {N n₁ n₂ : Naming} {p q : List Instr}

theorem left (h : Fits L N n₂ (p ++ q)) (hp : n₁.bindings <+: n₂.bindings) : Fits L N n₁ p :=
  ⟨hp.trans h.within, fun x hx => h.routines x (by simp [hx])⟩

theorem right (h : Fits L N n₂ (p ++ q)) : Fits L N n₂ q :=
  ⟨h.within, fun x hx => h.routines x (by simp [hx])⟩

/-- Any part of code that fits, compiled to names that come before the whole's, fits. -/
theorem part (h : Fits L N n₂ q) (hn : n₁.bindings <+: n₂.bindings)
    (hp : ∀ x ∈ blockRoutines p, x ∈ blockRoutines q) : Fits L N n₁ p :=
  ⟨hn.trans h.within, fun x hx => h.routines x (hp x hx)⟩

end Fits

/-- A linked program holds, in each slot of `N`, the catalog's extension for that slot's key. -/
def Linked.Binds (L : Linked) (c : Catalog) (N : Naming) : Prop :=
  L.operations = N.bindings.map fun (key, _) => (key, (c.extensions.lookup key).getD fun _ => .ok .null)

/-! ## Meanings -/

section Meanings

variable (c : Catalog) (facts : Analysis)

/-- What code compiled from `r` runs as: an evaluation `m` of its scope's data that fails only
as compiled code may, gives arrays where the analysis says so, and is the direct evaluation of
`r` when its literals are scalars and the numeric shortcut keeps them. -/
structure Meaning (r : Rule) (m : Value → EvalM Value) : Prop where
  safe : ∀ d, Fails (m d) EvalError.Allowed
  array : facts.isArray r = true → ∀ d, Gives (m d) (·.isArray = true)
  eval : r.Scalar → r.KeepsNumbers facts c → ∀ d, m d = r.evaluate c d

/-- What code compiled from rules one after the other runs as: their values in order. -/
structure MeaningAll (rs : List Rule) (ms : Value → EvalM (List Value)) : Prop where
  safe : ∀ d, Fails (ms d) EvalError.Allowed
  length : ∀ d, Gives (ms d) (·.length = rs.length)
  eval : (∀ r ∈ rs, r.Scalar ∧ r.KeepsNumbers facts c) → ∀ d, ms d = Rule.evaluateAll c d rs

variable (L : Linked) (root : Value) (N : Naming)

/-- The code `part` of `r`, placed at `b` in `code`, runs as a meaning of `r`, which in a reduce
body that does not read `data` does not depend on it. -/
def RunsAs (scope : Scope) (code : List Instr) (b : Nat) (part : List Instr) (r : Rule) : Prop :=
  ∃ m, Runs L root scope code b (b + part.length) m ∧ Meaning c facts r m ∧
    (Rule.readsData part = false → scope = .context → DataFree m)

/-- The code `part` of rules one after the other runs as their meanings in order. -/
def RunsAllAs (scope : Scope) (code : List Instr) (b : Nat) (part : List Instr) (rs : List Rule) :
    Prop :=
  ∃ ms, RunsAll L root scope code b (b + part.length) ms ∧ MeaningAll c facts rs ms ∧
    (Rule.readsData part = false → scope = .context → DataFree ms)

/-- Every compilation of `r`, at any position, in any scope and from any naming, is tracked and
runs as a meaning of `r` wherever it is placed in a program that fits it. -/
def Simulates (r : Rule) : Prop :=
  ∀ scope base n part n', (r.compile c facts scope base).run n = .ok (part, n') →
    Tracked n part n' ∧
      ∀ code, CodeAt code base part → Fits L N n' part → RunsAs c facts L root scope code base part r

/-- `Simulates` for rules compiled one after the other. -/
def SimulatesSeq (rs : List Rule) : Prop :=
  ∀ scope base n part n', (Rule.compileSeq c facts scope base rs).run n = .ok (part, n') →
    Tracked n part n' ∧
      ∀ code, CodeAt code base part → Fits L N n' part →
        RunsAllAs c facts L root scope code base part rs

end Meanings

end RuleMachine
