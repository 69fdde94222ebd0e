import RuleMachine.Proofs.Simulation.Chains
import RuleMachine.Proofs.Faults
import RuleMachine.Code.Program

/-!
# The compiler with labels computes the offset compiler's code

Emitting a rule follows compiling it at the position the block has reached
(`Rule.emitsFollow`): the same failure, or the same names and the code `Rule.compile` gives.
The labels an emission makes are its own: each is placed exactly once, inside the emission, so
resolving the whole block sends every jump where the offset compiler aims it. The routine set
is the set of routines the code calls, and the operators are in step with the names
(`Emitter.InStep`). Hence `Output.ofRule_eq_compile`, and `Program.ofRuleWith` is the offset
compiler's program.
-/

namespace RuleMachine

/-! ## Labels -/

namespace Block

variable {P Q : List (Nat × Nat)} {l : Nat}

/-- A label placed in `P` resolves in `P ++ Q` as in `P`. -/
theorem labelAt_append_of_mem (h : l ∈ P.map Prod.fst) : labelAt (P ++ Q) l = labelAt P l := by
  obtain ⟨⟨l', pos⟩, hmem, rfl⟩ := List.mem_map.1 h
  have hfind : (P.find? (·.1 == l')).isSome := List.find?_isSome.2 ⟨_, hmem, by simp⟩
  obtain ⟨x, hx⟩ := Option.isSome_iff_exists.1 hfind
  simp [labelAt, List.find?_append, hx]

/-- A label not placed in `P` resolves in `P ++ Q` as in `Q`. -/
theorem labelAt_append_of_not_mem (h : l ∉ P.map Prod.fst) :
    labelAt (P ++ Q) l = labelAt Q l := by
  have hnone : P.find? (·.1 == l) = none := by
    rw [List.find?_eq_none]
    intro x hx hl
    exact h (List.mem_map.2 ⟨x, hx, by simpa using hl⟩)
  simp [labelAt, List.find?_append, hnone]

/-- A label placed once resolves to its position. -/
@[simp] theorem labelAt_singleton (pos : Nat) : labelAt [(l, pos)] l = pos := by
  simp [labelAt]

end Block

/-- Instructions `E` with the placements `P`, made while the label counter went from `k` to `k'`:
`P` places each label of `[k, k')` and no other, and `E` is `code` under every resolution that
`outer` admits and that sends each label of `[k, k')` to its first placement in `P`. -/
structure Resolves (E : List Instr) (P : List (Nat × Nat)) (k k' : Nat)
    (outer : (Nat → Nat) → Prop) (code : List Instr) : Prop where
  le : k ≤ k'
  length : E.length = code.length
  placed : ∀ l, l ∈ P.map Prod.fst ↔ k ≤ l ∧ l < k'
  resolves : ∀ σ, outer σ → (∀ l, k ≤ l → l < k' → σ l = Block.labelAt P l) →
    E.map (Instr.retarget σ) = code

namespace Resolves

variable {E E₂ : List Instr} {P P₂ : List (Nat × Nat)} {k k₁ k' : Nat}
  {outer : (Nat → Nat) → Prop} {code code₂ : List Instr}

/-- No instruction. -/
theorem nil : Resolves [] [] k k outer [] where
  le := le_rfl
  length := rfl
  placed l := by simp
  resolves _ _ _ := rfl

/-- One instruction that makes no label, which every admitted resolution makes `i'`. -/
theorem single {i i' : Instr} (h : ∀ σ, outer σ → i.retarget σ = i') :
    Resolves [i] [] k k outer [i'] where
  le := le_rfl
  length := rfl
  placed l := by simp
  resolves σ ho _ := by simp [h σ ho]

/-- Two emissions one after the other: the labels of the first are placed in the first, so the
placements of the second do not change where they resolve, and the other way round. -/
theorem append (h₁ : Resolves E P k k₁ outer code) (h₂ : Resolves E₂ P₂ k₁ k' outer code₂) :
    Resolves (E ++ E₂) (P ++ P₂) k k' outer (code ++ code₂) where
  le := h₁.le.trans h₂.le
  length := by simp [h₁.length, h₂.length]
  placed l := by
    rw [List.map_append, List.mem_append, h₁.placed, h₂.placed]
    have := h₁.le
    have := h₂.le
    omega
  resolves σ ho hσ := by
    rw [List.map_append]
    congr 1
    · refine h₁.resolves σ ho fun l hl hl' => ?_
      rw [hσ l hl (by have := h₂.le; omega),
        Block.labelAt_append_of_mem ((h₁.placed l).2 ⟨hl, hl'⟩)]
    · refine h₂.resolves σ ho fun l hl hl' => ?_
      have hnot : l ∉ P.map Prod.fst := fun hm => by have := (h₁.placed l).1 hm; omega
      rw [hσ l (by have := h₁.le; omega) hl', Block.labelAt_append_of_not_mem hnot]

/-- A label made first and placed last, after instructions that resolve, for every place `t` of
the label, to `code t`: all of it resolves to the code for the place the label was put at. -/
theorem label {pos : Nat} {code : Nat → List Instr}
    (h : ∀ t, Resolves E P (k + 1) k' (fun σ => σ k = t ∧ outer σ) (code t)) :
    Resolves E (P ++ [(k, pos)]) k k' outer (code pos) where
  le := by have := (h 0).le; omega
  length := (h pos).length
  placed l := by
    rw [List.map_append, List.mem_append, (h 0).placed]
    simp only [List.map_cons, List.map_nil, List.mem_singleton]
    have := (h 0).le
    omega
  resolves σ ho hσ := by
    have hk : k ∉ P.map Prod.fst := fun hm => by have := ((h 0).placed k).1 hm; omega
    refine (h pos).resolves σ ⟨?_, ho⟩ fun l hl hl' => ?_
    · rw [hσ k le_rfl (by have := (h 0).le; omega), Block.labelAt_append_of_not_mem hk,
        Block.labelAt_singleton]
    · rw [hσ l (by omega) hl', Block.labelAt_append_of_mem (((h 0).placed l).2 ⟨hl, hl'⟩)]

/-- Fewer admitted resolutions. -/
theorem mono {outer' : (Nat → Nat) → Prop} (h : Resolves E P k k' outer code)
    (ho : ∀ σ, outer' σ → outer σ) : Resolves E P k k' outer' code :=
  ⟨h.le, h.length, h.placed, fun σ hσ => h.resolves σ (ho σ hσ)⟩

/-- Instructions from a fresh counter, resolved at their own placements. -/
theorem resolveLabels (h : Resolves E P 0 k' (fun _ => True) code) :
    E.map (Instr.retarget (Block.labelAt P)) = code :=
  h.resolves _ trivial fun _ _ _ => rfl

end Resolves

/-! ## Emissions -/

namespace Emitter

/-- Emitting from `s` to `s'` gave `code`: the block grew by instructions and placements that
resolve to `code` under what `outer` admits, and the routines of `code` joined the set. -/
structure Emits (s s' : Emitter) (code : List Instr) (outer : (Nat → Nat) → Prop) : Prop where
  block : ∃ E P, s'.block.instructions = s.block.instructions ++ E ∧
    s'.block.labels = s.block.labels ++ P ∧
    Resolves E P s.block.labelCounter s'.block.labelCounter outer code
  support : ∀ x, x ∈ s'.support.members ↔ x ∈ s.support.members ∨ x ∈ blockRoutines code

namespace Emits

variable {s s₁ s₂ s' : Emitter} {code code₂ : List Instr} {outer : (Nat → Nat) → Prop}

/-- The block grew by as many instructions as the code has. -/
theorem length (h : Emits s s' code outer) :
    s'.block.instructions.length = s.block.instructions.length + code.length := by
  obtain ⟨E, P, hE, -, hr⟩ := h.block
  rw [hE, List.length_append, hr.length]

/-- One emitted instruction moves the position by one. -/
theorem length_singleton {i : Instr} (h : Emits s s' [i] outer) :
    s'.block.instructions.length = s.block.instructions.length + 1 :=
  h.length

/-- Emitting one part, then another. -/
theorem append (h₁ : Emits s s₁ code outer) (h₂ : Emits s₁ s₂ code₂ outer) :
    Emits s s₂ (code ++ code₂) outer where
  block := by
    obtain ⟨E, P, hE, hP, hr⟩ := h₁.block
    obtain ⟨E₂, P₂, hE₂, hP₂, hr₂⟩ := h₂.block
    exact ⟨E ++ E₂, P ++ P₂, by rw [hE₂, hE, List.append_assoc],
      by rw [hP₂, hP, List.append_assoc], hr.append hr₂⟩
  support x := by
    rw [h₂.support, h₁.support, blockRoutines_append, List.mem_append]
    tauto

/-- Fewer admitted resolutions. -/
theorem mono {outer' : (Nat → Nat) → Prop} (h : Emits s s' code outer)
    (ho : ∀ σ, outer' σ → outer σ) : Emits s s' code outer' where
  block := by
    obtain ⟨E, P, hE, hP, hr⟩ := h.block
    exact ⟨E, P, hE, hP, hr.mono ho⟩
  support := h.support

end Emits

/-- The state after appending an instruction. -/
def appended (s : Emitter) (i : Instr) : Emitter :=
  { s with block := { s.block with instructions := s.block.instructions ++ [i] } }

/-- Emitting an instruction appends it. -/
@[simp] theorem run_emit (s : Emitter) (i : Instr) : (emit i).run s = .ok ((), s.appended i) :=
  rfl

/-- Appending an instruction names nothing. -/
@[simp] theorem appended_names (s : Emitter) (i : Instr) : (s.appended i).names = s.names := rfl

/-- Appending an instruction adds no operator. -/
@[simp] theorem appended_operations (s : Emitter) (i : Instr) :
    (s.appended i).operations = s.operations :=
  rfl

/-- An instruction whose routines are in the set already, which every admitted resolution makes
`i'`. -/
theorem emits_emit {s : Emitter} {i i' : Instr} {outer : (Nat → Nat) → Prop}
    (h : ∀ σ, outer σ → i.retarget σ = i') (hr : ∀ x ∈ i'.routines, x ∈ s.support.members) :
    Emits s (s.appended i) [i'] outer where
  block := ⟨[i], [], rfl, (List.append_nil _).symm, Resolves.single h⟩
  support x := by
    rw [blockRoutines_singleton]
    exact ⟨Or.inl, fun h => h.elim id (hr x)⟩

/-- An instruction that is no jump and calls no routine. -/
theorem emits_plain {s : Emitter} {i : Instr} {outer : (Nat → Nat) → Prop}
    (h : ∀ σ, i.retarget σ = i) (hr : i.routines = []) : Emits s (s.appended i) [i] outer :=
  emits_emit (fun σ _ => h σ) (by simp [hr])

/-- A jump to a label `l` that every admitted resolution sends to `t`. -/
theorem emits_jump {s : Emitter} {j : Nat → Instr} {l t : Nat} {outer : (Nat → Nat) → Prop}
    (hj : ∀ σ l, (j l).retarget σ = j (σ l)) (hr : ∀ l, (j l).routines = [])
    (ht : ∀ σ, outer σ → σ l = t) : Emits s (s.appended (j l)) [j t] outer :=
  emits_emit (fun σ hσ => by rw [hj, ht σ hσ]) (by simp [hr])

/-- The state after a routine call: the routine in the set and the call appended. -/
def called (s : Emitter) (r : Routine) (argc : Nat) : Emitter :=
  { s with support := s.support.insert r }.appended (.callRoutine r argc)

/-- Emitting a routine call adds the routine to the set and appends the call. -/
@[simp] theorem run_emitSupport (s : Emitter) (r : Routine) (argc : Nat) :
    (emitSupport r argc).run s = .ok ((), s.called r argc) :=
  rfl

/-- A routine call names nothing. -/
@[simp] theorem called_names (s : Emitter) (r : Routine) (argc : Nat) :
    (s.called r argc).names = s.names :=
  rfl

/-- A routine call adds no operator. -/
@[simp] theorem called_operations (s : Emitter) (r : Routine) (argc : Nat) :
    (s.called r argc).operations = s.operations :=
  rfl

/-- A routine call adds its routine to the set. -/
theorem emits_emitSupport {s : Emitter} (r : Routine) (argc : Nat) {outer : (Nat → Nat) → Prop} :
    Emits s (s.called r argc) [.callRoutine r argc] outer where
  block :=
    ⟨[.callRoutine r argc], [], rfl, (List.append_nil _).symm, Resolves.single fun _ _ => rfl⟩
  support x := by
    simp only [called, appended, RoutineSet.insert, Routine.mem_sortUnique, List.mem_cons,
      blockRoutines_singleton,
      Instr.routines]
    tauto

/-- Nothing emitted. -/
theorem emits_nil {s : Emitter} {outer : (Nat → Nat) → Prop} : Emits s s [] outer where
  block := ⟨[], [], (List.append_nil _).symm, (List.append_nil _).symm, Resolves.nil⟩
  support x := by simp [blockRoutines]

/-! ## Following a compilation -/

/-- Emitting with `m` from `s` follows compiling with `m'` from the names of `s`: both fail with
the same error, or both go through, `m` to the names `m'` reaches, with `R` holding of their
results and the state `m` reached. -/
def Follows (m : EmitM β) (m' : CompileM α) (s : Emitter) (R : β → α → Emitter → Prop) : Prop :=
  match m.run s, m'.run s.names with
  | .error e, .error e' => e = e'
  | .ok (b, s'), .ok (a, n') => s'.names = n' ∧ R b a s'
  | _, _ => False

namespace Follows

variable {s s₁ : Emitter} {m : EmitM β} {m' : CompileM α} {R : β → α → Emitter → Prop}

/-- Following composes along binds. -/
theorem bind {k : β → EmitM γ} {k' : α → CompileM δ} {R' : γ → δ → Emitter → Prop}
    (h : Follows m m' s R) (hk : ∀ b a s', R b a s' → Follows (k b) (k' a) s' R') :
    Follows (m >>= k) (m' >>= k') s R' := by
  unfold Follows at h ⊢
  rw [StateT.run_bind, StateT.run_bind]
  rcases hm : m.run s with e | ⟨b, s'⟩ <;> rcases hm' : m'.run s.names with e' | ⟨a, n'⟩ <;>
    rw [hm, hm'] at h
  · exact h
  · exact h.elim
  · exact h.elim
  · obtain ⟨rfl, hR⟩ := h
    exact hk b a s' hR

/-- Returning at once follows returning at once. -/
theorem pure {b : β} {a : α} (h : R b a s) : Follows (Pure.pure b) (Pure.pure a) s R :=
  ⟨rfl, h⟩

/-- A refusal follows the same refusal. -/
theorem throw (e : CompileError) :
    Follows (MonadExcept.throw e : EmitM β) (MonadExcept.throw e : CompileM α) s R :=
  rfl

/-- A step of both that cannot fail. -/
theorem joint {b : β} {a : α} {k : β → EmitM γ} {k' : α → CompileM δ}
    {R' : γ → δ → Emitter → Prop} (hm : m.run s = .ok (b, s₁))
    (hm' : m'.run s.names = .ok (a, s₁.names)) (h : Follows (k b) (k' a) s₁ R') :
    Follows (m >>= k) (m' >>= k') s R' := by
  refine bind (R := fun b' a' s' => b' = b ∧ a' = a ∧ s' = s₁) ?_ ?_
  · unfold Follows
    rw [hm, hm']
    exact ⟨rfl, rfl, rfl, rfl⟩
  · rintro b' a' s' ⟨rfl, rfl, rfl⟩
    exact h

/-- A step of the emitter alone that cannot fail and names nothing. -/
theorem step {b : β} {k : β → EmitM γ} {R' : γ → α → Emitter → Prop}
    (hm : m.run s = .ok (b, s₁)) (hn : s₁.names = s.names) (h : Follows (k b) m' s₁ R') :
    Follows (m >>= k) m' s R' := by
  unfold Follows at h ⊢
  rw [StateT.run_bind, hm, ← hn]
  exact h

/-- A compilation that returns a function of its result. -/
theorem map {f : α → δ} {R' : β → δ → Emitter → Prop}
    (h : Follows m m' s fun b a s' => R' b (f a) s') :
    Follows m (m' >>= fun a => Pure.pure (f a)) s R' := by
  rw [← bind_pure m]
  exact h.bind fun b a s' hR => pure hR

/-- A weaker relation. -/
theorem mono {R' : β → α → Emitter → Prop} (h : Follows m m' s R)
    (hR : ∀ b a s', R b a s' → R' b a s') : Follows m m' s R' := by
  unfold Follows at h ⊢
  rcases hm : m.run s with e | ⟨b, s'⟩ <;> rcases hm' : m'.run s.names with e' | ⟨a, n'⟩ <;>
    rw [hm, hm'] at h
  · exact h
  · exact h.elim
  · exact h.elim
  · exact ⟨h.1, hR b a s' h.2⟩

/-- Following, read off the two runs. -/
theorem outcome (h : Follows m m' s R) :
    (∃ e, m.run s = .error e ∧ m'.run s.names = .error e) ∨
      ∃ b a s', m.run s = .ok (b, s') ∧ m'.run s.names = .ok (a, s'.names) ∧ R b a s' := by
  unfold Follows at h
  rcases hm : m.run s with e | ⟨b, s'⟩ <;> rcases hm' : m'.run s.names with e' | ⟨a, n'⟩ <;>
    rw [hm, hm'] at h
  · exact Or.inl ⟨e, rfl, h ▸ rfl⟩
  · exact h.elim
  · exact h.elim
  · obtain ⟨rfl, hR⟩ := h
    exact Or.inr ⟨b, a, s', rfl, rfl, hR⟩

end Follows

/-! ## Operators in step with the names -/

/-- The operators are in step with the names: one per binding, in slot order, with the binding's
key and identifier, each the catalog's extension for its key. -/
structure InStep (c : Catalog) (s : Emitter) : Prop where
  valid : s.names.Valid
  keys : s.operations.map (fun o => (o.key, o.identifier)) =
    s.names.bindings.map fun b => (b.1, b.2.identifier)
  extension : ∀ o ∈ s.operations, c.lookup o.key = some (.extension o.operation)

/-- Being in step reads only the names and the operators. -/
theorem InStep.congr {c : Catalog} {s s' : Emitter} (h : InStep c s) (hn : s'.names = s.names)
    (ho : s'.operations = s.operations) : InStep c s' := by
  obtain ⟨hv, hk, he⟩ := h
  exact ⟨hn ▸ hv, hn ▸ ho ▸ hk, ho ▸ he⟩

/-- The empty state: no names and no operators. -/
theorem InStep.empty (c : Catalog) : InStep c {} where
  valid := Naming.valid_empty
  keys := rfl
  extension _ h := (List.not_mem_nil h).elim

/-- The state after binding an extension key: the key resolved, and its operator pushed when
its slot is the next one. -/
def bound (s : Emitter) (key : String) (op : Operation) : Emitter :=
  let r := s.names.resolve key
  { s with
    names := r.2
    operations :=
      if r.1.slot == s.operations.length then s.operations ++ [⟨key, r.1.identifier, op⟩]
      else s.operations }

/-- Binding an extension key names it and returns its binding. -/
theorem run_bindExtension (s : Emitter) (key : String) (op : Operation) :
    (bindExtension key op).run s = .ok ((s.names.resolve key).1, s.bound key op) := by
  show Except.ok (_, if _ then _ else _) = _
  unfold Emitter.bound
  split <;> simp_all

/-- Binding an extension key keeps the operators in step: a key bound before has a slot below
the count of operators, and a new key's slot is that count, so its operator is pushed. -/
theorem InStep.bound {c : Catalog} {s : Emitter} {key : String} {op : Operation} (h : InStep c s)
    (hl : c.lookup key = some (.extension op)) : InStep c (s.bound key op) := by
  have hlen : s.operations.length = s.names.bindings.length := by
    simpa using congrArg List.length h.keys
  unfold Emitter.bound
  cases hb : s.names.bindings.lookup key with
  | some b =>
    have hslot := (List.getElem?_eq_some_iff.1 (h.valid.getElem?_slot hb)).1
    simp only [Naming.resolve_of_lookup hb, hlen, beq_iff_eq, Nat.ne_of_lt hslot, ↓reduceIte]
    exact h.congr rfl rfl
  | none =>
    rcases hs : Naming.synthesize s.names.claimed s.names.positional key with ⟨name, counter⟩
    have hv := h.valid.resolve key
    simp only [Naming.resolve_of_lookup_none hb hs, hlen, beq_self_eq_true, ↓reduceIte] at hv ⊢
    refine ⟨hv, ?_, ?_⟩
    · simp [h.keys]
    · intro o ho
      rcases List.mem_append.1 ho with ho | ho
      · exact h.extension o ho
      · rw [List.mem_singleton.1 ho]
        exact hl

/-! ## Code added by the emitter alone -/

/-- `t` appends `code` to any block, under every resolution, without naming anything. -/
def Adds (t : EmitM Unit) (code : List Instr) : Prop :=
  ∀ s, ∃ s', t.run s = .ok ((), s') ∧ s'.names = s.names ∧ s'.operations = s.operations ∧
    ∀ outer, Emits s s' code outer

namespace Adds

variable {t t₂ : EmitM Unit} {code code₂ : List Instr}

/-- Returning at once adds no code. -/
theorem pure : Adds (Pure.pure ()) [] :=
  fun s => ⟨s, rfl, rfl, rfl, fun _ => emits_nil⟩

/-- An instruction that is no jump and calls no routine adds itself. -/
theorem emit {i : Instr} (h : ∀ σ, i.retarget σ = i) (hr : i.routines = []) :
    Adds (Emitter.emit i) [i] :=
  fun s => ⟨s.appended i, rfl, rfl, rfl, fun _ => emits_plain h hr⟩

/-- A routine call adds the call. -/
theorem emitSupport (r : Routine) (argc : Nat) :
    Adds (Emitter.emitSupport r argc) [.callRoutine r argc] :=
  fun s => ⟨s.called r argc, rfl, rfl, rfl, fun _ => emits_emitSupport r argc⟩

/-- Two parts one after the other add their code in order. -/
theorem bind (h : Adds t code) (h₂ : Adds t₂ code₂) :
    Adds (t >>= fun _ => t₂) (code ++ code₂) := by
  intro s
  obtain ⟨s₁, hr, hn, ho, he⟩ := h s
  obtain ⟨s₂, hr₂, hn₂, ho₂, he₂⟩ := h₂ s₁
  refine ⟨s₂, ?_, hn₂.trans hn, ho₂.trans ho, fun outer => (he outer).append (he₂ outer)⟩
  rw [StateT.run_bind, hr]
  exact hr₂

/-- The truthiness test of a condition adds the code the compiler gives it. -/
theorem normalize (facts : Analysis) (r : Rule) :
    Adds (Emitter.normalize facts r) (Rule.truthyCall facts r) := by
  unfold Emitter.normalize Rule.truthyCall
  split
  · exact emitSupport .truthy 1
  · exact pure

/-- The conversion of an operand to a number adds the code the compiler gives it. -/
theorem toNumber (facts : Analysis) (r : Rule) :
    Adds (Emitter.toNumber facts r) (Rule.numberCall facts r) := by
  unfold Emitter.toNumber Rule.numberCall
  split
  · exact pure
  · exact emit (fun _ => rfl) rfl

/-- An instruction from the second operand on. -/
theorem unlessFirst (first : Bool) (i : Instr) (h : ∀ σ, i.retarget σ = i) (hr : i.routines = []) :
    Adds (Emitter.emitIf (!first) i) (if first then [] else [i]) := by
  unfold Emitter.emitIf
  cases first
  · exact emit h hr
  · exact pure

/-- Either of two additions, as a test chooses. -/
theorem ite {p : Prop} [Decidable p] (h₁ : Adds t code) (h₂ : Adds t₂ code₂) :
    Adds (if p then t else t₂) (if p then code else code₂) := by
  by_cases hp : p
  · rw [if_pos hp, if_pos hp]
    exact h₁
  · rw [if_neg hp, if_neg hp]
    exact h₂

/-- The normalization of an iteration's body, which a map does without. -/
theorem normalizeUnlessMap (kind : IterKind) (facts : Analysis) (r : Rule) :
    Adds (if (kind != .map) = true then Emitter.normalize facts r else Pure.pure ())
      (if kind = .map then [] else Rule.truthyCall facts r) := by
  by_cases h : kind = .map
  · subst h
    simp only [bne_self_eq_false, Bool.false_eq_true, ↓reduceIte]
    exact pure
  · simp only [bne_iff_ne, ne_eq, h, not_false_eq_true, ↓reduceIte]
    exact normalize facts r

end Adds

/-- Emitting went from `s` to `s'` as compiling `code` does, under the resolutions `outer`
admits, and kept the operators in step. -/
def Went (c : Catalog) (outer : (Nat → Nat) → Prop) (s : Emitter) (_ : Unit) (code : List Instr)
    (s' : Emitter) : Prop :=
  Emits s s' code outer ∧ InStep c s'

namespace Follows

variable {c : Catalog} {s s₀ : Emitter} {outer : (Nat → Nat) → Prop}

/-- Following into an emission with the operators in step, continued from each of its results. -/
theorem bind_and {m : EmitM β} {m' : CompileM α} {E : β → α → Emitter → Prop}
    {k : β → EmitM γ} {k' : α → CompileM δ} {R' : γ → δ → Emitter → Prop}
    (h : Follows m m' s fun b a s' => E b a s' ∧ InStep c s')
    (hk : ∀ b a s', E b a s' → InStep c s' → Follows (k b) (k' a) s' R') :
    Follows (m >>= k) (m' >>= k') s R' :=
  h.bind fun b a s' hR => hk b a s' hR.1 hR.2

/-- A weaker emission, the operators still in step. -/
theorem mono_and {m : EmitM β} {m' : CompileM α} {E E' : β → α → Emitter → Prop}
    (h : Follows m m' s fun b a s' => E b a s' ∧ InStep c s')
    (hE : ∀ b a s', E b a s' → E' b a s') :
    Follows m m' s fun b a s' => E' b a s' ∧ InStep c s' :=
  h.mono fun b a s' hR => ⟨hE b a s' hR.1, hR.2⟩

/-- Both take the branch of the same test. -/
theorem ite {p : Prop} [Decidable p] {m₁ m₂ : EmitM β} {m₁' m₂' : CompileM α}
    {R : β → α → Emitter → Prop} (h₁ : p → Follows m₁ m₁' s R) (h₂ : ¬p → Follows m₂ m₂' s R) :
    Follows (if p then m₁ else m₂) (if p then m₁' else m₂') s R := by
  by_cases hp : p
  · rw [if_pos hp, if_pos hp]
    exact h₁ hp
  · rw [if_neg hp, if_neg hp]
    exact h₂ hp

/-- An arity check: both refuse with the same error, or both go on. -/
theorem check {b : Bool} {e : CompileError} {m : EmitM β} {m' : CompileM α}
    {R : β → α → Emitter → Prop} (h : b = false → Follows m m' s R) :
    Follows (if b = true then (MonadExcept.throw e : EmitM Unit) >>= fun _ => m else m)
      (if b = true then (MonadExcept.throw e : CompileM Unit) >>= fun _ => m' else m') s R :=
  ite (fun _ => rfl) fun hb => h (Bool.eq_false_iff.2 hb)

/-- Code added by the emitter alone, before what is followed. -/
theorem after_adds {t : EmitM Unit} {pre : List Instr} {m : EmitM β} {m' : CompileM α}
    {R : β → α → Emitter → Prop} (ht : Adds t pre) (hs : InStep c s)
    (h : ∀ s₁, (∀ outer, Emits s s₁ pre outer) → InStep c s₁ → Follows m m' s₁ R) :
    Follows (t >>= fun _ => m) m' s R := by
  obtain ⟨s₁, hr, hn, ho, he⟩ := ht s
  exact step hr hn (h s₁ he (hs.congr hn ho))

/-- A jump to a label `l` that the admitted resolutions send to `t`, before what is followed. -/
theorem after_jump {j : Nat → Instr} {l t : Nat} {m : EmitM β} {m' : CompileM α}
    {R : β → α → Emitter → Prop} (hj : ∀ σ l, (j l).retarget σ = j (σ l))
    (hr : ∀ l, (j l).routines = []) (ht : ∀ σ, outer σ → σ l = t) (hs : InStep c s)
    (h : ∀ s₁, Emits s s₁ [j t] outer → InStep c s₁ → Follows m m' s₁ R) :
    Follows (Emitter.emit (j l) >>= fun _ => m) m' s R :=
  step (run_emit s (j l)) rfl (h _ (emits_jump hj hr ht) (hs.congr rfl rfl))

/-- Code added by the emitter alone, while compiling returns outright. -/
theorem adds_pure {t : EmitM Unit} {tail : List Instr} {a : α} {R : Unit → α → Emitter → Prop}
    (ht : Adds t tail) (h : ∀ s', (∀ outer, Emits s s' tail outer) → s'.names = s.names →
      s'.operations = s.operations → R () a s') :
    Follows t (Pure.pure a) s R := by
  obtain ⟨s', hr, hn, ho, he⟩ := ht s
  unfold Follows
  rw [hr]
  exact ⟨hn, h s' he hn ho⟩

/-- Code added by the emitter alone, at the end of what was followed. -/
theorem finish {t : EmitM Unit} {code tail : List Instr} (ht : Adds t tail)
    (he : Emits s₀ s code outer) (hs : InStep c s) :
    Follows t (Pure.pure (code ++ tail)) s (Went c outer s₀) :=
  adds_pure ht fun _ he' hn ho => ⟨he.append (he' outer), hs.congr hn ho⟩

/-- Code added by the emitter alone, which compiling gives outright. -/
theorem adds {t : EmitM Unit} {code : List Instr} (ht : Adds t code) (hs : InStep c s) :
    Follows t (Pure.pure code) s (Went c outer s) :=
  finish ht emits_nil hs

/-- Code followed, then code added by the emitter alone. -/
theorem then_adds {m : EmitM Unit} {m' : CompileM (List Instr)} {t : EmitM Unit}
    {tail : List Instr} (h : Follows m m' s (Went c outer s)) (ht : Adds t tail) :
    Follows (m >>= fun _ => t) (m' >>= fun code => Pure.pure (code ++ tail)) s (Went c outer s) :=
  h.bind_and fun _ _ _ he hs => finish ht he hs

/-- Code followed, then code added by the emitter alone after the compilation is done. -/
theorem then_adds_only {m : EmitM Unit} {m' : CompileM (List Instr)} {t : EmitM Unit}
    {tail : List Instr} (h : Follows m m' s (Went c outer s)) (ht : Adds t tail) :
    Follows (m >>= fun _ => t) m' s fun _ code s' => Emits s s' (code ++ tail) outer ∧
      InStep c s' := by
  rw [← bind_pure m']
  exact h.bind_and fun _ _ s₁ he hs₁ =>
    adds_pure ht fun _ he' hn ho => ⟨he.append (he' outer), hs₁.congr hn ho⟩

end Follows

/-! ## Labels of an emission -/

/-- The state after making a label. -/
def withLabel (s : Emitter) : Emitter :=
  { s with block := { s.block with labelCounter := s.block.labelCounter + 1 } }

/-- The state after placing label `l` where the block has reached. -/
def placedAt (s : Emitter) (l : Nat) : Emitter :=
  { s with block := { s.block with labels := s.block.labels ++ [(l, s.block.instructions.length)] } }

/-- Making a label keeps the operators in step. -/
theorem InStep.withLabel {c : Catalog} {s : Emitter} (h : InStep c s) : InStep c s.withLabel :=
  h.congr rfl rfl

/-- A new label takes the block's counter, which moves on. -/
@[simp] theorem run_newLabel (s : Emitter) :
    newLabel.run s = .ok (s.block.labelCounter, s.withLabel) :=
  rfl

/-- Placing a label records it at the current position. -/
@[simp] theorem run_placeLabel (s : Emitter) (l : Nat) :
    (placeLabel l).run s = .ok ((), s.placedAt l) :=
  rfl

/-- A label made before an emission and placed after it: the emission, which resolves for every
place `t` of the label to `code t`, resolves to the code for the place the label was put at. -/
theorem Emits.label {s s₁ : Emitter} {outer : (Nat → Nat) → Prop} {code : Nat → List Instr}
    (h : ∀ t, Emits s.withLabel s₁ (code t) (fun σ => σ s.block.labelCounter = t ∧ outer σ)) :
    Emits s (s₁.placedAt s.block.labelCounter) (code s₁.block.instructions.length) outer where
  block := by
    obtain ⟨E, P, hE, hP, -⟩ := (h 0).block
    refine ⟨E, P ++ [(s.block.labelCounter, s₁.block.instructions.length)], hE, ?_,
      Resolves.label fun t => ?_⟩
    · simp only [placedAt, hP, List.append_assoc]
      rfl
    · obtain ⟨E', P', hE', hP', hr⟩ := (h t).block
      obtain rfl : E' = E := List.append_cancel_left (hE'.symm.trans hE)
      obtain rfl : P' = P := List.append_cancel_left (hP'.symm.trans hP)
      exact hr
  support := (h _).support

/-- Following for each of a family of relations is following for all of them at once. -/
theorem Follows.forall {m : EmitM β} {m' : CompileM α} {s : Emitter}
    {R : Nat → β → α → Emitter → Prop} (h : ∀ t, Follows m m' s (R t)) :
    Follows m m' s fun b a s' => ∀ t, R t b a s' := by
  have h0 := h 0
  unfold Follows at h0 ⊢
  rcases hm : m.run s with e | ⟨b, s'⟩ <;> rcases hm' : m'.run s.names with e' | ⟨a, n'⟩ <;>
    rw [hm, hm'] at h0
  · exact h0
  · exact h0.elim
  · exact h0.elim
  · refine ⟨h0.1, fun t => ?_⟩
    have ht := h t
    unfold Follows at ht
    rw [hm, hm'] at ht
    exact ht.2

/-- An emission under a label made before it and placed after it follows what its body follows,
the label placed at the end of the body's code. -/
theorem Follows.labelled {c : Catalog} {s : Emitter} {body : Nat → EmitM Unit} {m' : CompileM α}
    {code : α → Nat → List Instr} {outer : (Nat → Nat) → Prop}
    (h : ∀ t, Follows (body s.block.labelCounter) m' s.withLabel fun _ a s₁ =>
      Emits s.withLabel s₁ (code a t) (fun σ => σ s.block.labelCounter = t ∧ outer σ) ∧
        InStep c s₁) :
    Follows (labelled body) m' s fun _ a s' =>
      Emits s s' (code a (s.block.instructions.length + (code a 0).length)) outer ∧
        InStep c s' := by
  unfold Emitter.labelled
  refine Follows.step (run_newLabel s) rfl ?_
  rw [← bind_pure m']
  refine (Follows.forall h).bind fun _ a s₁ hR => ?_
  have hlen := (hR 0).1.length
  unfold Follows
  rw [run_placeLabel]
  refine ⟨rfl, ?_, (hR 0).2.congr rfl rfl⟩
  have he := Emits.label fun t => (hR t).1
  rwa [hlen] at he

/-- A fresh block keeps the operators in step. -/
theorem InStep.fresh {c : Catalog} {s : Emitter} (h : InStep c s) :
    InStep c { s with block := {} } :=
  h.congr rfl rfl

/-- Two compilations in a row, followed as one that returns both results. -/
theorem Follows.pair {s : Emitter} {m : EmitM β} {m₁' : CompileM α} {m₂' : α → CompileM γ}
    {k : β → EmitM δ} {k' : α → γ → CompileM ε} {R : β → α × γ → Emitter → Prop}
    {R' : δ → ε → Emitter → Prop}
    (h : Follows m (m₁' >>= fun a => m₂' a >>= fun b => Pure.pure (a, b)) s R)
    (hk : ∀ b p s', R b p s' → Follows (k b) (k' p.1 p.2) s' R') :
    Follows (m >>= k) (m₁' >>= fun a => m₂' a >>= fun b => k' a b) s R' := by
  have h' := h.bind hk
  simpa only [bind_assoc, pure_bind] using h'

/-! ## Blocks of their own -/

/-- An instruction appended after an emission that left the block as it was and added the
instruction's routines to the set. -/
theorem emits_appended_of_block {s s₁ : Emitter} {i : Instr} {outer : (Nat → Nat) → Prop}
    (hb : s₁.block = s.block)
    (hsup : ∀ x, x ∈ s₁.support.members ↔ x ∈ s.support.members ∨ x ∈ i.routines)
    (hi : ∀ σ, i.retarget σ = i) : Emits s (s₁.appended i) [i] outer where
  block := by
    refine ⟨[i], [], by simp [appended, hb], by simp [appended, hb], ?_⟩
    show Resolves [i] [] s.block.labelCounter s₁.block.labelCounter outer [i]
    rw [hb]
    exact Resolves.single fun σ _ => hi σ
  support x := by
    rw [blockRoutines_singleton]
    exact hsup x

/-- Emitting from an empty block gave a block that resolves, at its own labels, to the code. -/
theorem Emits.resolveLabels {s₀ s' : Emitter} {code : List Instr}
    (h : Emits s₀ s' code fun _ => True) (h₀ : s₀.block = {}) : s'.block.resolveLabels = code := by
  obtain ⟨E, P, hE, hP, hr⟩ := h.block
  rw [h₀] at hE hP hr
  rw [Block.resolveLabels, hE, hP]
  exact hr.resolveLabels

/-- A block of its own: the body, emitted from an empty block and resolved at its own labels,
is the code compiling it gives, and the enclosing block is put back as it was. -/
theorem Follows.inBlock {c : Catalog} {s : Emitter} {m : EmitM Unit} {m' : CompileM α}
    {code : α → List Instr}
    (h : Follows m m' { s with block := {} } fun _ a s₁ =>
      Emits { s with block := {} } s₁ (code a) (fun _ => True) ∧ InStep c s₁) :
    Follows (Emitter.inBlock m) m' s fun body a s' => body = code a ∧ s'.block = s.block ∧
      (∀ x, x ∈ s'.support.members ↔ x ∈ s.support.members ∨ x ∈ blockRoutines (code a)) ∧
        InStep c s' := by
  unfold Emitter.inBlock
  refine Follows.step rfl rfl ?_
  rw [← bind_pure m']
  refine h.bind_and fun _ a s₁ he hs₁ => ?_
  unfold Follows
  exact ⟨rfl, he.resolveLabels rfl, rfl, he.support, hs₁.congr rfl rfl⟩

/-- A body emitted in a block of its own, then the instruction over that block. -/
theorem Follows.block {c : Catalog} {s s₀ : Emitter} {outer : (Nat → Nat) → Prop}
    {pre : List Instr} {body : EmitM Unit} {m' : CompileM α} {code whole : α → List Instr}
    {mk : List Instr → Instr} (hmk : ∀ σ b, (mk b).retarget σ = mk b)
    (hroutines : ∀ b, (mk b).routines = blockRoutines b) (he : Emits s₀ s pre outer)
    (h : Follows body m' { s with block := {} } fun _ a s₁ =>
      Emits { s with block := {} } s₁ (code a) (fun _ => True) ∧ InStep c s₁)
    (hwhole : ∀ a, pre ++ [mk (code a)] = whole a) :
    Follows (Emitter.inBlock body >>= fun b => Emitter.emit (mk b))
      (m' >>= fun a => Pure.pure (whole a)) s (Went c outer s₀) := by
  refine (Follows.inBlock h).bind ?_
  rintro _ a s₁ ⟨rfl, hblock, hsup, hs₁⟩
  unfold Follows
  refine ⟨rfl, ?_, hs₁.congr rfl rfl⟩
  show Emits s₀ (s₁.appended (mk (code a))) (whole a) outer
  rw [← hwhole a]
  refine he.append (emits_appended_of_block hblock (fun x => ?_) (hmk · _))
  rw [hroutines]
  exact hsup x

end Emitter

/-! ## Rules -/

namespace Rule

open Emitter

variable (c : Catalog) (facts : Analysis) in
/-- Emitting `r` follows compiling it at the position the block has reached, under every scope
and from every state whose operators are in step. -/
def EmitsFollow (r : Rule) : Prop :=
  ∀ scope (s : Emitter), InStep c s →
    Follows (r.emit c facts scope) (r.compile c facts scope s.block.instructions.length) s
      (Went c (fun _ => True) s)

variable {c : Catalog} {facts : Analysis} {scope : Scope} {s : Emitter}

/-- Code that resolves under every resolution resolves under those `outer` admits. -/
theorem EmitsFollow.under {r : Rule} (h : r.EmitsFollow c facts) (hs : InStep c s)
    (outer : (Nat → Nat) → Prop) :
    Follows (r.emit c facts scope) (r.compile c facts scope s.block.instructions.length) s
      (Went c outer s) :=
  (h scope s hs).mono_and fun _ _ _ he => he.mono fun _ _ => trivial

/-! ### Operands one after the other -/

/-- Emitting operands one after the other follows compiling them one after the other. -/
theorem follows_emitAll {args : List Rule} (ih : ∀ x ∈ args, x.EmitsFollow c facts)
    (outer : (Nat → Nat) → Prop) (hs : InStep c s) :
    Follows (emitAll c facts scope args)
      (compileSeq c facts scope s.block.instructions.length args) s (Went c outer s) := by
  induction args generalizing s with
  | nil =>
    rw [emitAll, compileSeq]
    exact Follows.pure ⟨emits_nil, hs⟩
  | cons x rest hrest =>
    rw [emitAll, compileSeq]
    refine ((ih x (List.mem_cons_self ..)).under hs outer).bind_and fun _ code s₁ he hs₁ => ?_
    rw [← he.length]
    exact Follows.map ((hrest (fun y hy => ih y (List.mem_cons_of_mem _ hy)) hs₁).mono_and
      fun _ _ _ he₂ => he.append he₂)

/-- Emitting the operands of `+` follows compiling them. -/
theorem follows_emitSum {args : List Rule} (ih : ∀ x ∈ args, x.EmitsFollow c facts)
    (first : Bool) (hs : InStep c s) :
    Follows (emitSum c facts scope first args)
      (compileSum c facts scope s.block.instructions.length first args) s
      (Went c (fun _ => True) s) := by
  induction args generalizing first s with
  | nil =>
    rw [emitSum, compileSum]
    exact Follows.pure ⟨emits_nil, hs⟩
  | cons x rest hrest =>
    rw [emitSum, compileSum]
    refine (ih x (List.mem_cons_self ..) scope s hs).bind_and fun _ code s₁ e₁ hs₁ => ?_
    refine Follows.after_adds (Adds.toNumber facts x) hs₁ fun s₂ e₂ hs₂ => ?_
    refine Follows.after_adds (Adds.unlessFirst first .add (fun _ => rfl) rfl) hs₂
      fun s₃ e₃ hs₃ => ?_
    have e₁₃ := (e₁.append (e₂ _)).append (e₃ _)
    dsimp only
    rw [← e₁₃.length]
    exact Follows.map ((hrest (fun y hy => ih y (List.mem_cons_of_mem _ hy)) false hs₃).mono_and
      fun _ _ _ e₄ => e₁₃.append e₄)

/-- Emitting the operands of `*` follows compiling them. -/
theorem follows_emitProduct {args : List Rule} (ih : ∀ x ∈ args, x.EmitsFollow c facts)
    (first : Bool) (hs : InStep c s) :
    Follows (emitProduct c facts scope first args)
      (compileProduct c facts scope s.block.instructions.length first args) s
      (Went c (fun _ => True) s) := by
  induction args generalizing first s with
  | nil =>
    rw [emitProduct, compileProduct]
    exact Follows.pure ⟨emits_nil, hs⟩
  | cons x rest hrest =>
    rw [emitProduct, compileProduct]
    refine (ih x (List.mem_cons_self ..) scope s hs).bind_and fun _ code s₁ e₁ hs₁ => ?_
    refine Follows.after_adds (Adds.unlessFirst first .mul (fun _ => rfl) rfl) hs₁
      fun s₂ e₂ hs₂ => ?_
    have e₁₂ := e₁.append (e₂ _)
    dsimp only
    rw [← e₁₂.length]
    exact Follows.map ((hrest (fun y hy => ih y (List.mem_cons_of_mem _ hy)) false hs₂).mono_and
      fun _ _ _ e₃ => e₁₂.append e₃)

/-! ### Data access -/

/-- Emitting the path and default of `var`, with a label past the default, follows compiling
them. -/
theorem follows_emitVar {args : List Rule} (ih : ∀ x ∈ args, x.EmitsFollow c facts)
    (hs : InStep c s) :
    Follows (emitVar c facts scope args)
      (compileVar c facts scope s.block.instructions.length args) s (Went c (fun _ => True) s) := by
  rcases args with _ | ⟨path, _ | ⟨d, more⟩⟩
  · rw [emitVar, compileVar]
    exact Follows.adds (Adds.emit (fun _ => rfl) rfl) hs
  · rw [emitVar, compileVar]
    cases hv : varPath path with
    | whole => exact Follows.adds (Adds.emit (fun _ => rfl) rfl) hs
    | computed =>
      simp only [pure_bind]
      refine Follows.after_adds (Adds.emit (fun _ => rfl) rfl) hs fun s₁ e₁ hs₁ => ?_
      rw [← (e₁ fun _ => True).length_singleton]
      refine ((ih path (by simp)).under hs₁ fun _ => True).bind_and fun _ pc s₂ e₂ hs₂ => ?_
      refine Follows.after_adds (Adds.emit (fun _ => rfl) rfl) hs₂ fun s₃ e₃ hs₃ => ?_
      exact Follows.finish (Adds.emitSupport _ _) (((e₁ _).append e₂).append (e₃ _)) hs₃
    | segments segments =>
      refine Follows.after_adds (Adds.emit (fun _ => rfl) rfl) hs fun s₁ e₁ hs₁ => ?_
      exact Follows.pure ⟨e₁ _, hs₁⟩
    | illegal => exact Follows.throw _
  · rw [emitVar, compileVar]
    cases hv : varPath path with
    | whole => exact Follows.adds (Adds.emit (fun _ => rfl) rfl) hs
    | computed =>
      dsimp only
      refine Follows.after_adds (Adds.emit (fun _ => rfl) rfl) hs fun s₁ e₁ hs₁ => ?_
      rw [← (e₁ fun _ => True).length_singleton]
      refine ((ih path (by simp)).under hs₁ fun _ => True).bind_and fun _ pc s₂ e₂ hs₂ => ?_
      rw [← e₂.length]
      refine ((ih d (by simp)).under hs₂ fun _ => True).bind_and fun _ dc s₃ e₃ hs₃ => ?_
      exact Follows.finish (Adds.emitSupport _ _) (((e₁ _).append e₂).append e₃) hs₃
    | segments segments =>
      -- the default sits under a label placed after it, which the jump over it names
      refine Follows.after_adds (Adds.emit (fun _ => rfl) rfl) hs fun s₁ e₁ hs₁ => ?_
      have h₁ := (e₁ fun _ => True).length_singleton
      refine Follows.map (Follows.mono_and (@Follows.labelled _ c s₁ _ _
        (fun dc t => [.jumpIfPresent t] ++ dc) (fun _ => True) fun t => ?_)
        fun _ dc s' e₂ => ?_)
      · refine Follows.after_jump (j := Instr.jumpIfPresent) (fun _ _ => rfl) (fun _ => rfl)
          (fun σ (hσ : σ s₁.block.labelCounter = t ∧ True) => hσ.1) (hs₁.congr rfl rfl)
          fun s₂ e₂ hs₂ => ?_
        have h₂ : s.block.instructions.length + 2 = s₂.block.instructions.length := by
          simp only [e₂.length, withLabel, h₁, List.length_singleton]
        rw [h₂]
        exact ((ih d (by simp)).under hs₂ fun σ => σ s₁.block.labelCounter = t ∧ True).mono_and
          fun _ dc s₃ e₃ => e₂.append e₃
      · have hpos : s₁.block.instructions.length + ([Instr.jumpIfPresent 0] ++ dc).length =
            s.block.instructions.length + 2 + dc.length := by
          simp only [h₁, List.length_append, List.length_singleton]
          omega
        rw [hpos] at e₂
        exact (e₁ _).append e₂
    | illegal => exact Follows.throw _

/-- Emitting the arguments of `missing_some` follows compiling them. -/
theorem follows_emitMissingSome {args : List Rule} (ih : ∀ x ∈ args, x.EmitsFollow c facts)
    (hs : InStep c s) :
    Follows (emitMissingSome c facts scope args)
      (compileMissingSome c facts scope s.block.instructions.length args) s
      (Went c (fun _ => True) s) := by
  rcases args with _ | ⟨least, _ | ⟨keys, more⟩⟩
  · rw [emitMissingSome, compileMissingSome]
    exact Follows.adds ((Adds.emit (fun _ => rfl) rfl).bind ((Adds.emit (fun _ => rfl) rfl).bind
      ((Adds.emit (fun _ => rfl) rfl).bind (Adds.emitSupport _ _)))) hs
  · rw [emitMissingSome, compileMissingSome]
    refine Follows.after_adds (Adds.emit (fun _ => rfl) rfl) hs fun s₁ e₁ hs₁ => ?_
    rw [← (e₁ fun _ => True).length_singleton]
    refine ((ih least (by simp)).under hs₁ fun _ => True).bind_and fun _ code s₂ e₂ hs₂ => ?_
    exact Follows.finish ((Adds.emit (fun _ => rfl) rfl).bind (Adds.emitSupport _ _))
      ((e₁ _).append e₂) hs₂
  · rw [emitMissingSome, compileMissingSome]
    refine Follows.after_adds (Adds.emit (fun _ => rfl) rfl) hs fun s₁ e₁ hs₁ => ?_
    rw [← (e₁ fun _ => True).length_singleton]
    refine ((ih least (by simp)).under hs₁ fun _ => True).bind_and fun _ lc s₂ e₂ hs₂ => ?_
    rw [← e₂.length]
    refine ((ih keys (by simp)).under hs₂ fun _ => True).bind_and fun _ kc s₃ e₃ hs₃ => ?_
    exact Follows.finish (Adds.emitSupport _ _) (((e₁ _).append e₂).append e₃) hs₃

/-! ### Jumps to the end of the enclosing emission -/

section Labelled

variable {k t : Nat} {outer : (Nat → Nat) → Prop}

/-- The pairs of an `if` chain, each test jumping to its pair's own label and each branch to
`k`, which the admitted resolutions send to `t`. -/
theorem follows_emitBranches {args : List Rule} (ih : ∀ x ∈ args, x.EmitsFollow c facts)
    (hs : InStep c s) :
    Follows (emitBranches c facts scope k args)
      (compileBranches c facts scope s.block.instructions.length args) s fun _ x s' =>
        Emits s s' (assembleIf.go x.2 t s.block.instructions.length x.1)
          (fun σ => σ k = t ∧ outer σ) ∧ InStep c s' := by
  -- a pair and the pairs after it: the induction steps over two arguments at a time
  induction args using List.twoStepInduction generalizing s with
  | nil =>
    rw [emitBranches, compileBranches]
    exact Follows.adds_pure (Adds.emit (fun _ => rfl) rfl) fun _ he hn ho =>
      ⟨he _, hs.congr hn ho⟩
  | singleton otherwise =>
    rw [emitBranches, compileBranches]
    exact Follows.map ((ih otherwise (by simp)).under hs _)
  | cons_cons cond thenBranch rest hrest _ =>
    rw [emitBranches, compileBranches]
    dsimp only
    refine Follows.pair (@Follows.labelled _ c s _ _
      (fun p next => p.1 ++ truthyCall facts cond ++ [.jumpIfFalse next] ++ p.2 ++ [.jump t])
      (fun σ => σ k = t ∧ outer σ) fun next => ?_) ?_
    · refine ((ih cond (by simp)).under (show InStep c s.withLabel from hs.congr rfl rfl)
        fun σ => σ s.block.labelCounter = next ∧ σ k = t ∧ outer σ).bind_and
        fun _ cc s₂ e₂ hs₂ => ?_
      refine Follows.after_adds (Adds.normalize facts cond) hs₂ fun s₃ e₃ hs₃ => ?_
      refine Follows.after_jump (j := Instr.jumpIfFalse) (fun _ _ => rfl) (fun _ => rfl)
        (fun σ (hσ : σ s.block.labelCounter = next ∧ σ k = t ∧ outer σ) => hσ.1) hs₃
        fun s₄ e₄ hs₄ => ?_
      have h₄ : s.block.instructions.length + (cc ++ truthyCall facts cond).length + 1 =
          s₄.block.instructions.length := by
        simp only [e₄.length, (e₃ fun _ => True).length, e₂.length, withLabel, List.length_append,
          List.length_singleton]
        omega
      rw [h₄]
      refine ((ih thenBranch (by simp)).under hs₄
        fun σ => σ s.block.labelCounter = next ∧ σ k = t ∧ outer σ).bind_and
        fun _ tc s₅ e₅ hs₅ => ?_
      unfold Follows
      exact ⟨rfl, (((e₂.append (e₃ _)).append e₄).append e₅).append
        (emits_jump (j := Instr.jump) (fun _ _ => rfl) (fun _ => rfl) fun σ hσ => hσ.2.1),
        hs₅.congr rfl rfl⟩
    · -- the remaining pairs start where this one ends
      rintro - p s₁ ⟨e₁, hs₁⟩
      have hpos : s.block.instructions.length +
          (p.1 ++ truthyCall facts cond ++ [Instr.jumpIfFalse 0] ++ p.2 ++ [Instr.jump t]).length =
          s₁.block.instructions.length := by
        rw [e₁.length]
        simp
      have hb : s.block.instructions.length + (p.1 ++ truthyCall facts cond).length +
          p.2.length + 2 = s₁.block.instructions.length := by
        rw [← hpos]
        simp
        omega
      rw [hpos] at e₁
      rw [hb]
      refine Follows.map (f := fun x : List (List Instr × List Instr) × List Instr =>
        ((p.1 ++ truthyCall facts cond, p.2) :: x.1, x.2)) ?_
      refine (hrest (fun y hy => ih y (by simp [hy])) hs₁).mono_and fun _ x s₂ e₂ => ?_
      rw [assembleIf_go_cons, hb]
      exact e₁.append e₂

/-- The operands of `and` (`isAnd`) or `or`: each but the last kept, tested with a jump to `k`,
which the admitted resolutions send to `t`, and dropped. -/
theorem follows_emitShort {isAnd : Bool} {args : List Rule} (hne : args ≠ [])
    (ih : ∀ x ∈ args, x.EmitsFollow c facts) (hs : InStep c s) :
    Follows (emitShort c facts scope isAnd k args)
      (compileShort c facts scope s.block.instructions.length args) s fun _ x s' =>
        Emits s s' (shortCode isAnd t x.1 x.2) (fun σ => σ k = t ∧ outer σ) ∧ InStep c s' := by
  induction args generalizing s with
  | nil => exact absurd rfl hne
  | cons r rest hrest =>
    rcases rest with _ | ⟨r', rest⟩
    · rw [emitShort, compileShort]
      exact Follows.map ((ih r (by simp)).under hs _)
    rw [emitShort.eq_3 _ _ _ _ _ _ _ (List.cons_ne_nil _ _),
      compileShort.eq_3 _ _ _ _ _ _ (List.cons_ne_nil _ _)]
    dsimp only
    refine ((ih r (by simp)).under hs fun σ => σ k = t ∧ outer σ).bind_and
      fun _ code s₁ e₁ hs₁ => ?_
    refine Follows.after_adds (Adds.emit (fun _ => rfl) rfl) hs₁ fun s₂ e₂ hs₂ => ?_
    refine Follows.after_adds (Adds.normalize facts r) hs₂ fun s₃ e₃ hs₃ => ?_
    refine Follows.after_jump (j := fun l => if isAnd then Instr.jumpIfFalse l else .jumpIfTrue l)
      (fun _ _ => by cases isAnd <;> rfl) (fun _ => by cases isAnd <;> rfl)
      (fun σ (hσ : σ k = t ∧ outer σ) => hσ.1) hs₃ fun s₄ e₄ hs₄ => ?_
    refine Follows.after_adds (Adds.emit (fun _ => rfl) rfl) hs₄ fun s₅ e₅ hs₅ => ?_
    have hb : s.block.instructions.length + (code ++ [Instr.dup] ++ truthyCall facts r).length + 2 =
        s₅.block.instructions.length := by
      simp only [(e₅ fun _ => True).length, e₄.length, (e₃ fun _ => True).length,
        (e₂ fun _ => True).length, e₁.length, List.length_append, List.length_singleton]
      omega
    rw [hb]
    refine Follows.map (f := fun x : List (List Instr) × List Instr =>
      ((code ++ [Instr.dup] ++ truthyCall facts r) :: x.1, x.2)) ?_
    refine (hrest (List.cons_ne_nil _ _) (fun y hy => ih y (List.mem_cons_of_mem _ hy))
      hs₅).mono_and fun _ x s₆ e₆ => ?_
    rw [shortCode_cons]
    simpa only [List.append_assoc, List.cons_append, List.nil_append] using
      ((((e₁.append (e₂ _)).append (e₃ _)).append e₄).append (e₅ _)).append e₆

/-- The windows of a comparison chain of two or three operands; between two windows, a test of
the first comparison that jumps to `k`, which the admitted resolutions send to `t`. -/
theorem follows_emitWindows {cmp : Instr} (hcmp : ∀ σ, cmp.retarget σ = cmp)
    (hcr : cmp.routines = []) {args : List Rule} (ih : ∀ x ∈ args, x.EmitsFollow c facts)
    (hs : InStep c s) :
    Follows (emitWindows c facts scope cmp k args)
      (compileWindows c facts scope s.block.instructions.length args) s fun _ ws s' =>
        Emits s s' (assembleChain.go cmp t true ws) (fun σ => σ k = t ∧ outer σ) ∧
          InStep c s' := by
  -- a chain of fewer than two or more than three operands has no windows
  rcases args with _ | ⟨a, _ | ⟨b, _ | ⟨d, _ | ⟨_, _⟩⟩⟩⟩
  · exact Follows.pure ⟨emits_nil, hs⟩
  · exact Follows.pure ⟨emits_nil, hs⟩
  · rw [emitWindows, compileWindows]
    refine ((ih a (by simp)).under hs fun σ => σ k = t ∧ outer σ).bind_and
      fun _ ac s₁ e₁ hs₁ => ?_
    rw [← e₁.length]
    refine ((ih b (by simp)).under hs₁ fun σ => σ k = t ∧ outer σ).bind_and
      fun _ bc s₂ e₂ hs₂ => ?_
    exact Follows.adds_pure (Adds.emit hcmp hcr) fun _ e₃ hn ho =>
      ⟨by simpa [assembleChain.go] using (e₁.append e₂).append (e₃ _), hs₂.congr hn ho⟩
  · rw [emitWindows, compileWindows]
    dsimp only
    refine ((ih a (by simp)).under hs fun σ => σ k = t ∧ outer σ).bind_and
      fun _ ac s₁ e₁ hs₁ => ?_
    rw [← e₁.length]
    refine ((ih b (by simp)).under hs₁ fun σ => σ k = t ∧ outer σ).bind_and
      fun _ bc s₂ e₂ hs₂ => ?_
    refine Follows.after_adds (Adds.emit hcmp hcr) hs₂ fun s₃ e₃ hs₃ => ?_
    refine Follows.after_adds (Adds.emit (fun _ => rfl) rfl) hs₃ fun s₄ e₄ hs₄ => ?_
    refine Follows.after_jump (j := Instr.jumpIfFalse) (fun _ _ => rfl) (fun _ => rfl)
      (fun σ (hσ : σ k = t ∧ outer σ) => hσ.1) hs₄ fun s₅ e₅ hs₅ => ?_
    refine Follows.after_adds (Adds.emit (fun _ => rfl) rfl) hs₅ fun s₆ e₆ hs₆ => ?_
    -- the middle operand is compiled again after the test
    have e₂₆ := (((e₂.append (e₃ _)).append (e₄ _)).append e₅).append (e₆ _)
    have h₆ : s₁.block.instructions.length + bc.length + 1 + 3 = s₆.block.instructions.length := by
      rw [e₂₆.length]
      simp only [List.length_append, List.length_singleton]
      omega
    rw [h₆]
    refine ((ih b (by simp)).under hs₆ fun σ => σ k = t ∧ outer σ).bind_and
      fun _ bc₂ s₇ e₇ hs₇ => ?_
    rw [← e₇.length]
    refine ((ih d (by simp)).under hs₇ fun σ => σ k = t ∧ outer σ).bind_and
      fun _ dc s₈ e₈ hs₈ => ?_
    exact Follows.adds_pure (Adds.emit hcmp hcr) fun _ e₉ hn ho =>
      ⟨by simpa [assembleChain.go] using (((e₁.append e₂₆).append e₇).append e₈).append (e₉ _),
        hs₈.congr hn ho⟩
  · exact Follows.pure ⟨emits_nil, hs⟩

/-- The length of a comparison chain does not depend on where its test jumps. -/
theorem length_assembleChain_go (cmp : Instr) (stop : Nat) (first : Bool)
    (ws : List (List Instr)) : (assembleChain.go cmp stop first ws).length =
      (ws.map (·.length + 1)).sum + 3 * (ws.length - if first then 1 else 0) := by
  induction ws generalizing first with
  | nil => simp [assembleChain.go]
  | cons w rest ih =>
    rw [assembleChain.go, List.length_append, List.length_append, List.length_append, ih false]
    cases first <;> simp <;> omega

/-- The jumps of a comparison chain go to the position where the whole chain ends. -/
theorem assembleChain_eq (cmp : Instr) (base : Nat) (ws : List (List Instr)) :
    assembleChain cmp base ws =
      assembleChain.go cmp (base + (assembleChain.go cmp 0 true ws).length) true ws := by
  rw [length_assembleChain_go, assembleChain, ← Nat.add_assoc]
  simp

/-- `if` of at least two arguments: the pairs under a label for the end. -/
theorem follows_ifChain {args : List Rule} (ih : ∀ x ∈ args, x.EmitsFollow c facts)
    (hs : InStep c s) :
    Follows (labelled fun stop => emitBranches c facts scope stop args)
      (compileBranches c facts scope s.block.instructions.length args >>= fun x =>
        Pure.pure (assembleIf s.block.instructions.length x.1 x.2)) s
      (Went c (fun _ => True) s) := by
  refine Follows.map (Follows.mono_and (@Follows.labelled _ c s _ _
    (fun x t => assembleIf.go x.2 t s.block.instructions.length x.1) (fun _ => True)
    fun _ => follows_emitBranches ih hs.withLabel) fun _ x s' e => ?_)
  rw [assembleIf_eq]
  rwa [length_assembleIf_go] at e

/-- `and` (`isAnd`) or `or` of at least one operand: the operands under a label for the end. -/
theorem follows_connective {isAnd : Bool} {args : List Rule}
    (ih : ∀ x ∈ args, x.EmitsFollow c facts) (hne : args ≠ []) (hs : InStep c s) :
    Follows (labelled fun stop => emitShort c facts scope isAnd stop args)
      (compileShort c facts scope s.block.instructions.length args >>= fun x =>
        Pure.pure (assembleShort isAnd s.block.instructions.length x.1 x.2)) s
      (Went c (fun _ => True) s) := by
  refine Follows.map (Follows.mono_and (@Follows.labelled _ c s _ _
    (fun x t => shortCode isAnd t x.1 x.2) (fun _ => True)
    fun _ => follows_emitShort hne ih hs.withLabel) fun _ x s' e => ?_)
  rw [assembleShort_eq]
  rwa [length_shortCode, ← Nat.add_assoc] at e

/-- A comparison chain: its windows under a label for the end. -/
theorem follows_chain {cmp : Instr} (hcmp : ∀ σ, cmp.retarget σ = cmp) (hcr : cmp.routines = [])
    {args : List Rule} (ih : ∀ x ∈ args, x.EmitsFollow c facts) (hs : InStep c s) :
    Follows (labelled fun stop => emitWindows c facts scope cmp stop args)
      (compileWindows c facts scope s.block.instructions.length args >>= fun ws =>
        Pure.pure (assembleChain cmp s.block.instructions.length ws)) s
      (Went c (fun _ => True) s) := by
  refine Follows.map (Follows.mono_and (@Follows.labelled _ c s _ _
    (fun ws t => assembleChain.go cmp t true ws) (fun _ => True)
    fun _ => follows_emitWindows hcmp hcr ih hs.withLabel) fun _ ws s' e => ?_)
  rw [assembleChain_eq]
  exact e

end Labelled

/-! ### Operations -/

/-- An iteration: its source, then its body in a block of its own, normalized unless the
iteration maps. -/
theorem follows_iteration {source body : Rule} (hsource : source.EmitsFollow c facts)
    (hbody : body.EmitsFollow c facts) (kind : IterKind) {f : List Instr → List Instr}
    (hf : ∀ bc, f bc = bc ++ if kind = .map then [] else truthyCall facts body)
    (hs : InStep c s) :
    Follows (source.emit c facts scope >>= fun _ =>
        Emitter.inBlock (body.emit c facts .item >>= fun _ =>
          if (kind != .map) = true then Emitter.normalize facts body else Pure.pure ()) >>=
        fun bc => Emitter.emit (.iterate kind bc (!facts.isArray source)))
      (source.compile c facts scope s.block.instructions.length >>= fun sc =>
        body.compile c facts .item 0 >>= fun bc =>
          Pure.pure (sc ++ [.iterate kind (f bc) (!facts.isArray source)]))
      s (Went c (fun _ => True) s) := by
  refine (hsource scope s hs).bind_and fun _ sc s₁ e₁ hs₁ => ?_
  exact Follows.block (fun _ _ => rfl) (fun _ => rfl) e₁
    ((hbody .item _ hs₁.fresh).then_adds_only (Adds.normalizeUnlessMap kind facts body))
    fun bc => by rw [hf]

/-- A builtin operation: its arity checked as compiling checks it, then its own scheme. -/
theorem follows_builtin {key : String} {args : List Rule} {br : Bool} {op : Builtin}
    (hl : c.lookup key = some (.builtin op)) (ih : ∀ x ∈ args, x.EmitsFollow c facts) :
    (operation key args br).EmitsFollow c facts := by
  intro scope s hs
  rw [Rule.emit.eq_def, Rule.compile.eq_def]
  cases op
  all_goals simp only [hl, Builtin.arity, Builtin.exactly]
  case var => exact follows_emitVar ih hs
  case missing =>
    refine Follows.after_adds (Adds.emit (fun _ => rfl) rfl) hs fun s₁ e₁ hs₁ => ?_
    have h₁ : s₁.block.instructions.length = s.block.instructions.length + 1 :=
      (e₁ fun _ => True).length
    rw [← h₁]
    exact (follows_emitAll ih _ hs₁).bind_and fun _ _ s₂ e₂ hs₂ =>
      Follows.finish (Adds.emitSupport _ _) ((e₁ _).append e₂) hs₂
  case missingSome => exact follows_emitMissingSome ih hs
  case cond =>
    exact Follows.ite (fun _ => Follows.adds (Adds.emit (fun _ => rfl) rfl) hs)
      fun _ => follows_ifChain ih hs
  case eq | strictEq | ne | strictNe | div | mod =>
    exact Follows.check fun _ => (follows_emitAll ih _ hs).then_adds (Adds.emit (fun _ => rfl) rfl)
  case max | min => exact (follows_emitAll ih _ hs).then_adds (Adds.emit (fun _ => rfl) rfl)
  case substr | log =>
    exact Follows.check fun _ => (follows_emitAll ih _ hs).then_adds (Adds.emitSupport _ _)
  case sub =>
    exact Follows.check fun _ => (follows_emitAll ih _ hs).then_adds
      (Adds.emit (fun _ => by split <;> rfl) (by split <;> rfl))
  case add => exact Follows.check fun _ => follows_emitSum ih true hs
  case mul =>
    refine Follows.check fun _ => Follows.ite (fun h1 => ?_) fun _ => follows_emitProduct ih true hs
    obtain ⟨x, rfl⟩ := List.length_eq_one_iff.1 (by simpa using h1)
    exact ((ih x (by simp)) scope s hs).then_adds (Adds.toNumber facts x)
  case not =>
    refine Follows.check fun hadm => ?_
    obtain ⟨x, rfl⟩ := List.length_eq_one_iff.1 (length_of_admits_exactly hadm)
    refine ((ih x (by simp)) scope s hs).bind_and fun _ _ s₁ e₁ hs₁ => ?_
    refine Follows.after_adds (Adds.normalize facts x) hs₁ fun s₂ e₂ hs₂ => ?_
    exact Follows.finish (Adds.emit (fun _ => rfl) rfl) (e₁.append (e₂ _)) hs₂
  case notNot =>
    refine Follows.check fun hadm => ?_
    obtain ⟨x, rfl⟩ := List.length_eq_one_iff.1 (length_of_admits_exactly hadm)
    exact ((ih x (by simp)) scope s hs).then_adds
      (Adds.ite (Adds.emitSupport _ _) (Adds.emit (i := .toBool) (fun _ => rfl) rfl))
  case and | or =>
    exact Follows.ite (fun _ => Follows.adds (Adds.emit (fun _ => rfl) rfl) hs)
      fun hne => follows_connective ih (by simpa using hne) hs
  case gt | gte | lt | lte => exact Follows.check fun _ => follows_chain (fun _ => rfl) rfl ih hs
  case map =>
    refine Follows.check fun hadm => ?_
    obtain ⟨source, body, rfl⟩ := List.length_eq_two.1 (length_of_admits_exactly hadm)
    exact follows_iteration (ih source (by simp)) (ih body (by simp)) .map (fun _ => by simp) hs
  case filter | allOf | noneOf | someOf =>
    refine Follows.check fun hadm => ?_
    obtain ⟨source, body, rfl⟩ := List.length_eq_two.1 (length_of_admits_exactly hadm)
    exact follows_iteration (ih source (by simp)) (ih body (by simp)) _ (fun _ => by simp) hs
  case reduce =>
    refine Follows.check fun hadm => ?_
    obtain ⟨source, body, rest, rfl⟩ := exists_cons_cons_of_two_le (length_of_admits hadm).1
    refine ((ih source (by simp)) scope s hs).bind_and fun _ sc s₁ e₁ hs₁ => ?_
    cases rest with
    | nil =>
      simp only [pure_bind]
      exact Follows.block (fun _ _ => rfl) (fun _ => rfl) e₁
        ((ih body (by simp)) .context _ hs₁.fresh) fun _ => by simp
    | cons init more =>
      rw [← e₁.length]
      refine ((ih init (by simp)) scope s₁ hs₁).bind_and fun _ ic s₂ e₂ hs₂ => ?_
      exact Follows.block (fun _ _ => rfl) (fun _ => rfl) (e₁.append e₂)
        ((ih body (by simp)) .context _ hs₂.fresh) fun _ => rfl
  case merge =>
    cases constantItems args with
    | some vs => exact Follows.adds (Adds.emit (fun _ => rfl) rfl) hs
    | none =>
      refine (follows_emitAll ih (fun _ => True) hs).bind_and fun _ _ s₁ e₁ hs₁ => ?_
      exact Follows.ite (fun _ => Follows.finish (Adds.emit (fun _ => rfl) rfl) e₁ hs₁)
        fun _ => Follows.finish (Adds.emitSupport _ _) e₁ hs₁
  case member =>
    refine Follows.check fun hadm => ?_
    obtain ⟨needle, haystack, rfl⟩ := List.length_eq_two.1 (length_of_admits_exactly hadm)
    refine ((ih needle (by simp)) scope s hs).bind_and fun _ nc s₁ e₁ hs₁ => ?_
    rw [← e₁.length]
    exact ((ih haystack (by simp)) scope s₁ hs₁).bind_and fun _ _ s₂ e₂ hs₂ =>
      Follows.finish (Adds.emit (fun _ => rfl) rfl) (e₁.append e₂) hs₂
  case cat =>
    rcases args with _ | ⟨x, _ | ⟨y, rest⟩⟩
    · rw [if_pos (show ([] : List Rule).isEmpty = true from rfl)]
      exact Follows.adds (Adds.emit (fun _ => rfl) rfl) hs
    · rw [if_neg (show ¬[x].isEmpty = true by simp), if_pos (show ([x].length == 1) = true by simp)]
      simp only [compileSeq, bind_assoc, pure_bind, List.append_nil]
      exact ((ih x (by simp)) scope s hs).then_adds (Adds.emit (fun _ => rfl) rfl)
    · rw [if_neg (show ¬(x :: y :: rest).isEmpty = true by simp),
        if_neg (show ¬((x :: y :: rest).length == 1) = true by simp)]
      exact (follows_emitAll ih _ hs).then_adds (Adds.emit (fun _ => rfl) rfl)

/-- An extension operation: its key bound, and its operator pushed when the key is new, then
its operands and the call of its slot. -/
theorem follows_extension {key : String} {args : List Rule} {br : Bool} {op : Operation}
    (hl : c.lookup key = some (.extension op)) (ih : ∀ x ∈ args, x.EmitsFollow c facts) :
    (operation key args br).EmitsFollow c facts := by
  intro scope s hs
  rw [Rule.emit.eq_def, Rule.compile.eq_def]
  simp only [hl]
  -- binding the key changes neither the block nor the routines
  exact Follows.joint (run_bindExtension s key op) rfl
    (((follows_emitAll ih _ (hs.bound hl)).then_adds (Adds.emit (fun _ => rfl) rfl)).mono_and
      fun _ _ _ he => ⟨he.block, he.support⟩)

/-- Emitting any rule follows compiling it: the same failure, or the same names, the code
compiled at the position the block has reached, and the operators still in step. -/
theorem emitsFollow (r : Rule) : r.EmitsFollow c facts := by
  induction r using Rule.induction with
  | literal v =>
    intro scope s hs
    rw [emit_literal, compile_literal]
    exact Follows.adds (Adds.emit (fun _ => rfl) rfl) hs
  | list items ih =>
    intro scope s hs
    rw [Rule.emit, Rule.compile]
    cases constantItems items with
    | some vs => exact Follows.adds (Adds.emit (fun _ => rfl) rfl) hs
    | none => exact (follows_emitAll ih _ hs).then_adds (Adds.emit (fun _ => rfl) rfl)
  | operation key args br ih =>
    rcases hl : c.lookup key with _ | entry
    · intro scope s hs
      rw [Rule.emit.eq_def, Rule.compile.eq_def]
      simp only [hl]
      exact Follows.throw _
    · cases entry with
      | builtin op => exact follows_builtin hl ih
      | extension op => exact follows_extension hl ih

/-- The names the offset compiler ends with, compiling from the empty naming, are valid. -/
theorem valid_of_compile {r : Rule} {code : List Instr} {N : Naming}
    (hc : (r.compile c facts .arg 0).run {} = .ok (code, N)) : N.Valid := by
  rcases (emitsFollow r .arg {} (InStep.empty c)).outcome with
    ⟨e, -, h₂⟩ | ⟨_, code', s, -, h₂, -, hs⟩
  · have h₂' : (r.compile c facts .arg 0).run {} = .error e := h₂
    rw [hc] at h₂'
    cases h₂'
  · have h₂' : (r.compile c facts .arg 0).run {} = .ok (code', s.names) := h₂
    rw [hc] at h₂'
    cases h₂'
    exact hs.valid

end Rule

/-! ## The compiler's output -/

/-- The catalog's extension for each key the names bind, with its identifier, in slot order. -/
def Naming.operationsIn (N : Naming) (c : Catalog) : List OperationBinding :=
  N.bindings.map fun (key, b) =>
    ⟨key, b.identifier, (c.extensions.lookup key).getD fun _ => .ok .null⟩

/-- A key the catalog names as an extension is among its extensions. -/
theorem Catalog.extensions_lookup_of_lookup {c : Catalog} {key : String} {op : Operation}
    (h : c.lookup key = some (.extension op)) : c.extensions.lookup key = some op := by
  unfold Catalog.lookup at h
  split at h
  · cases h
    assumption
  · simp at h

/-- Operators in step are the catalog's extensions for the names' keys, in slot order. -/
theorem Emitter.InStep.operations_eq {c : Catalog} {s : Emitter} (h : InStep c s) :
    s.operations = s.names.operationsIn c := by
  have hop : ∀ o ∈ s.operations,
      o = ⟨o.key, o.identifier, (c.extensions.lookup o.key).getD fun _ => .ok .null⟩ := by
    intro o ho
    rw [Catalog.extensions_lookup_of_lookup (h.extension o ho)]
    rfl
  calc s.operations
      = (s.operations.map fun o => (o.key, o.identifier)).map fun p =>
          ⟨p.1, p.2, (c.extensions.lookup p.1).getD fun _ => .ok .null⟩ := by
        rw [List.map_map]
        exact (List.map_id _).symm.trans (List.map_congr_left hop)
    _ = s.names.operationsIn c := by
        rw [h.keys, List.map_map, Naming.operationsIn]
        rfl

/-- The compiler's output is the offset compiler's code from position 0, the routines that code
calls, and the catalog's extension for each key of the names it ends with, in slot order. -/
theorem Output.ofRule_eq_compile (c : Catalog) (facts : Analysis) (r : Rule) :
    Output.ofRule c facts r =
      match (r.compile c facts .arg 0).run {} with
      | .error e => .error e
      | .ok (code, N) => .ok ⟨code, Routine.sortUnique (blockRoutines code), N.operationsIn c⟩ := by
  rcases (Rule.emitsFollow r .arg {} (Emitter.InStep.empty c)).outcome with
    ⟨e, h₁, h₂⟩ | ⟨⟨⟩, code, s, h₁, h₂, he, hs⟩
  · have h₂' : (r.compile c facts .arg 0).run {} = .error e := h₂
    rw [Output.ofRule, h₁, h₂']
  · have h₂' : (r.compile c facts .arg 0).run {} = .ok (code, s.names) := h₂
    rw [Output.ofRule, h₁, h₂']
    have hsupport : s.support.members = Routine.sortUnique (blockRoutines code) := by
      rw [← s.support.sorted]
      exact Routine.sortUnique_congr fun x => (he.support x).trans (by simp)
    dsimp only
    rw [he.resolveLabels rfl, hsupport, hs.operations_eq]

end RuleMachine
