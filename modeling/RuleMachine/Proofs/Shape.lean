import RuleMachine.Proofs.Correctness
import RuleMachine.Proofs.Faults

/-!
# The shape of compiled code

What compiling may place in a block is said once, instruction by instruction
(`Instr.Emitted`): a load reads the scope the code is compiled for, along a nonempty path; a
jump goes forward, within the code of the node that placed it; an iteration's body is a rule's
code compiled from position 0 in a scope of its own. `compile_emits` shows this of every
compilation, and `innerBlocks_compiled` carries it into the blocks nested at every depth, so
every jump of a compiled program goes forward within its own block (`Program.jumps_forward`).
-/

namespace RuleMachine

open Rule

/-- Where a jump goes. -/
def Instr.target? : Instr → Option Nat
  | .jump t | .jumpIfFalse t | .jumpIfTrue t | .jumpIfPresent t => some t
  | _ => none

mutual

/-- The blocks nested in an instruction, at any depth: its body, then those nested in the
body. -/
def Instr.nested : Instr → List (List Instr)
  | .iterate _ body _ => body :: innerBlocks body
  | .reduce body _ _ _ => body :: innerBlocks body
  | _ => []

/-- The blocks nested in the instructions of a block, at any depth. -/
def innerBlocks : List Instr → List (List Instr)
  | [] => []
  | i :: rest => i.nested ++ innerBlocks rest

end

/-- The blocks nested in two blocks one after the other are theirs in order. -/
@[simp] theorem innerBlocks_append (p q : List Instr) :
    innerBlocks (p ++ q) = innerBlocks p ++ innerBlocks q := by
  induction p with
  | nil => rfl
  | cons i rest ih => simp [innerBlocks, ih]

/-- A block nested in code is nested in one of its instructions. -/
theorem mem_innerBlocks {B code : List Instr} :
    B ∈ innerBlocks code ↔ ∃ i ∈ code, B ∈ i.nested := by
  induction code with
  | nil => simp [innerBlocks]
  | cons i rest ih => simp [innerBlocks, ih]

/-- Every jump of a block and of the bodies nested in it, at any depth, goes forward within its
own block: from position `pc` to a target `t` with `pc < t`, at most the block's length. -/
def JumpsForward (code : List Instr) : Prop :=
  ∀ B ∈ code :: innerBlocks code, ∀ pc i t, B[pc]? = some i → i.target? = some t →
    pc < t ∧ t ≤ B.length

/-! ## What compiling may emit -/

section Emitted

variable (c : Catalog) (facts : Analysis)

/-- What compiling for `scope` may place at position `pc` of a block, within the code of a node
that ends at `stop`, in a compilation whose names end as `N`. -/
def Instr.Emitted (N : Naming) (scope : Scope) (stop pc : Nat) : Instr → Prop
  | .load s => s = scope
  | .loadPath s path => s = scope ∧ path ≠ []
  | .jump t | .jumpIfFalse t | .jumpIfTrue t | .jumpIfPresent t => pc < t ∧ t ≤ stop
  | .iterate kind block _ => ∃ (body : Rule) (n₁ n₂ : Naming) (code : List Instr),
      (body.compile c facts .item 0).run n₁ = .ok (code, n₂) ∧ n₂.bindings <+: N.bindings ∧
        block = code ++ iterTest facts kind body
  | .reduce block _ _ withData => ∃ (body : Rule) (n₁ n₂ : Naming),
      (body.compile c facts .context 0).run n₁ = .ok (block, n₂) ∧
        n₂.bindings <+: N.bindings ∧ withData = readsData block
  | _ => True

/-- Code placed at `base` of its block, each instruction of which compiling may place there. -/
def Emits (N : Naming) (scope : Scope) (base stop : Nat) (part : List Instr) : Prop :=
  ∀ pc (i : Instr), part[pc]? = some i → i.Emitted c facts N scope stop (base + pc)

/-- A compilation from the names `n` to `n'` of `part`, placed at `base`: it keeps the names
given before, and places only what compiling may, its jumps within `part`. -/
structure Emitting (scope : Scope) (base : Nat) (n : Naming) (part : List Instr) (n' : Naming) :
    Prop where
  grows : n.bindings <+: n'.bindings
  emits : Emits c facts n' scope base (base + part.length) part

/-- Every compilation of `r`, at any place and from any names, is `Emitting`. -/
def Rule.EmitsWell (r : Rule) : Prop :=
  ∀ scope base n part n', (r.compile c facts scope base).run n = .ok (part, n') →
    Emitting c facts scope base n part n'

/-- Whether compiling may place an instruction anywhere: it reads no scope, jumps nowhere and
carries no body. -/
def Instr.free : Instr → Bool
  | .load _ | .loadPath _ _ => false
  | i => i.flows

end Emitted

section Combinators

variable {c : Catalog} {facts : Analysis} {N N' : Naming} {scope : Scope}

/-- What may be placed stays so under more names and a later end. -/
theorem Instr.Emitted.mono {stop stop' pc : Nat} {i : Instr}
    (h : i.Emitted c facts N scope stop pc) (hN : N.bindings <+: N'.bindings) (hs : stop ≤ stop') :
    i.Emitted c facts N' scope stop' pc := by
  cases i
  case jump | jumpIfFalse | jumpIfTrue | jumpIfPresent => exact ⟨h.1, h.2.trans hs⟩
  case iterate =>
    obtain ⟨body, n₁, n₂, code, hc, hn, hb⟩ := h
    exact ⟨body, n₁, n₂, code, hc, hn.trans hN, hb⟩
  case reduce =>
    obtain ⟨body, n₁, n₂, hc, hn, hw⟩ := h
    exact ⟨body, n₁, n₂, hc, hn.trans hN, hw⟩
  all_goals exact h

/-- An instruction that reads no scope, jumps nowhere and has no body may be placed anywhere. -/
theorem Instr.Emitted.of_free {i : Instr} (h : i.free = true) (stop pc : Nat) :
    i.Emitted c facts N scope stop pc := by
  cases i
  case load | loadPath | jump | jumpIfFalse | jumpIfTrue | jumpIfPresent | iterate | reduce =>
    cases h
  all_goals exact True.intro

/-- Each instruction of code that reads no scope, jumps nowhere and has no body may be placed
anywhere. -/
theorem Instr.emitted_of_all_free {p : List Instr} (h : p.all Instr.free = true) :
    ∀ i ∈ p, ∀ N stop pc, i.Emitted c facts N scope stop pc :=
  fun _ hi _ stop pc => Instr.Emitted.of_free (List.all_eq_true.1 h _ hi) stop pc

/-- A truthiness test may be placed anywhere. -/
@[simp] theorem truthyCall_all_free (r : Rule) : (truthyCall facts r).all Instr.free = true := by
  unfold truthyCall
  split <;> rfl

/-- A conversion to a number may be placed anywhere. -/
@[simp] theorem numberCall_all_free (r : Rule) : (numberCall facts r).all Instr.free = true := by
  unfold numberCall
  split <;> rfl

/-- An iteration's test may be placed anywhere. -/
@[simp] theorem iterTest_all_free (kind : IterKind) (r : Rule) :
    (iterTest facts kind r).all Instr.free = true := by
  cases kind <;> simp [iterTest]

namespace Emits

variable {base stop : Nat} {p q : List Instr}

/-- Code that may be placed stays so under more names and a later end. -/
theorem mono (h : Emits c facts N scope base stop p) (hN : N.bindings <+: N'.bindings)
    {stop' : Nat} (hs : stop ≤ stop') : Emits c facts N' scope base stop' p :=
  fun pc i hi => (h pc i hi).mono hN hs

/-- Two parts that may be placed one after the other may be placed together. -/
theorem append (hp : Emits c facts N scope base stop p)
    (hq : Emits c facts N scope (base + p.length) stop q) :
    Emits c facts N scope base stop (p ++ q) := by
  intro pc i hi
  by_cases hpc : pc < p.length
  · rw [List.getElem?_append_left hpc] at hi
    exact hp pc i hi
  · rw [List.getElem?_append_right (by omega)] at hi
    have h := hq (pc - p.length) i hi
    rwa [show base + p.length + (pc - p.length) = base + pc by omega] at h

/-- One instruction as code may be placed at `base` exactly when the instruction may be. -/
theorem singleton {i : Instr} :
    Emits c facts N scope base stop [i] ↔ i.Emitted c facts N scope stop base := by
  constructor
  · intro h
    simpa using h 0 i rfl
  · intro h pc j hj
    obtain ⟨rfl, rfl⟩ : pc = 0 ∧ i = j := by
      cases pc <;> simp_all
    simpa using h

/-- What may be placed at one position may be placed at an equal one. -/
theorem of_base_eq {base' : Nat} (h : Emits c facts N scope base stop p) (hb : base = base') :
    Emits c facts N scope base' stop p :=
  hb ▸ h

/-- Code may be placed when its first instruction and the rest, after it, may be. -/
theorem cons {i : Instr} :
    Emits c facts N scope base stop (i :: p) ↔
      i.Emitted c facts N scope stop base ∧ Emits c facts N scope (base + 1) stop p := by
  constructor
  · intro h
    refine ⟨by simpa using h 0 i rfl, fun pc j hj => ?_⟩
    simpa [Nat.add_assoc, Nat.add_comm 1] using h (pc + 1) j (by simpa using hj)
  · rintro ⟨hi, hp⟩ pc j hj
    cases pc with
    | zero => simp_all
    | succ pc => simpa [Nat.add_assoc, Nat.add_comm 1] using hp pc j (by simpa using hj)

/-- Code that reads no scope, jumps nowhere and has no body may be placed anywhere. -/
theorem of_free (h : p.all Instr.free = true) : Emits c facts N scope base stop p :=
  fun _ i hi => Instr.Emitted.of_free (List.all_eq_true.1 h i (List.mem_of_getElem? hi)) _ _

/-- Each instruction of emitted code is emitted at its own position. -/
theorem emitted_of_mem (h : Emits c facts N scope base stop p) {i : Instr} (hi : i ∈ p) :
    ∃ pc, i.Emitted c facts N scope stop pc := by
  obtain ⟨pc, hpc, rfl⟩ := List.getElem_of_mem hi
  exact ⟨base + pc, h pc _ (List.getElem?_eq_getElem hpc)⟩

end Emits

namespace Emitting

variable {base : Nat} {n n₁ n₂ : Naming} {p q : List Instr}

/-- Two compilations one after the other are one compilation of their code together. -/
theorem append (h₁ : Emitting c facts scope base n p n₁)
    (h₂ : Emitting c facts scope (base + p.length) n₁ q n₂) :
    Emitting c facts scope base n (p ++ q) n₂ where
  grows := h₁.grows.trans h₂.grows
  emits := by
    refine (h₁.emits.mono h₂.grows (by simp)).append ?_
    simpa [Nat.add_assoc] using h₂.emits

/-- A compilation placed at one position is placed at an equal one. -/
theorem of_base_eq {base' : Nat} (h : Emitting c facts scope base n p n₁) (hb : base = base') :
    Emitting c facts scope base' n p n₁ :=
  hb ▸ h

/-- Code that names nothing and whose instructions compiling may place anywhere. -/
theorem plain (h : ∀ i ∈ p, ∀ N stop pc, i.Emitted c facts N scope stop pc) :
    Emitting c facts scope base n p n :=
  ⟨List.prefix_refl _, fun _ i hi => h i (List.mem_of_getElem? hi) _ _ _⟩

/-- Code made only of free instructions, such as the tests, conversions and calls that follow an
operation's operands. -/
theorem free (h : p.all Instr.free = true) : Emitting c facts scope base n p n :=
  ⟨List.prefix_refl _, Emits.of_free h⟩

/-- A load of the scope compiled for. -/
theorem load : Emitting c facts scope base n [.load scope] n :=
  plain fun _ hi _ _ _ => by rw [List.mem_singleton.1 hi]; exact rfl

end Emitting

end Combinators

/-! ## Every compilation emits only what compiling may -/

namespace Rule

variable {c : Catalog} {facts : Analysis} {scope : Scope} {base : Nat} {n n' : Naming}
  {part : List Instr}

section Sequences

/-- Compiling operands one after the other places only what compiling may. -/
theorem emitting_compileSeq {xs : List Rule} (ih : ∀ x ∈ xs, x.EmitsWell c facts) :
    ∀ {base n code n'}, (compileSeq c facts scope base xs).run n = .ok (code, n') →
      Emitting c facts scope base n code n' := by
  induction xs with
  | nil =>
    intro base n code n' h
    obtain ⟨rfl, rfl⟩ := CompileM.run_pure_ok h
    exact Emitting.plain (by simp)
  | cons x rest hrest =>
    intro base n code n' h
    rw [compileSeq] at h
    obtain ⟨code₁, n₁, h₁, h⟩ := CompileM.run_bind_ok h
    obtain ⟨code₂, h₂, rfl⟩ := CompileM.run_bind_pure_ok h
    exact (ih x (by simp) _ _ _ _ _ h₁).append (hrest (fun y hy => ih y (by simp [hy])) h₂)

/-- Compiled operands, then instructions that compiling may place anywhere. -/
theorem emitting_seqThen {xs : List Rule} (ih : ∀ x ∈ xs, x.EmitsWell c facts)
    {post : List Instr} (hpost : ∀ i ∈ post, ∀ N stop pc, i.Emitted c facts N scope stop pc)
    (hc : (do let code ← compileSeq c facts scope base xs; pure (code ++ post) :
      CompileM (List Instr)).run n = .ok (part, n')) :
    Emitting c facts scope base n part n' := by
  obtain ⟨code, h₁, rfl⟩ := CompileM.run_bind_pure_ok hc
  exact (emitting_compileSeq ih h₁).append (Emitting.plain hpost)

/-- Compiling the operands of `+` places only what compiling may. -/
theorem emitting_compileSum {xs : List Rule} (ih : ∀ x ∈ xs, x.EmitsWell c facts) :
    ∀ {base first n code n'}, (compileSum c facts scope base first xs).run n = .ok (code, n') →
      Emitting c facts scope base n code n' := by
  induction xs with
  | nil =>
    intro base first n code n' h
    obtain ⟨rfl, rfl⟩ := CompileM.run_pure_ok h
    exact Emitting.plain (by simp)
  | cons x rest hrest =>
    intro base first n code n' h
    rw [compileSum] at h
    obtain ⟨code₁, n₁, h₁, h⟩ := CompileM.run_bind_ok h
    obtain ⟨code₂, h₂, rfl⟩ := CompileM.run_bind_pure_ok h
    have hconv : Emitting c facts scope (base + code₁.length) n₁
        (numberCall facts x ++ (if first then [] else [Instr.add])) n₁ := by
      refine Emitting.free ?_
      rw [List.all_append, numberCall_all_free]
      split <;> rfl
    have hfirst : Emitting c facts scope base n
        (code₁ ++ numberCall facts x ++ (if first then [] else [Instr.add])) n₁ := by
      rw [List.append_assoc]
      exact (ih x (by simp) _ _ _ _ _ h₁).append hconv
    exact hfirst.append (hrest (fun y hy => ih y (by simp [hy])) h₂)

/-- Compiling the operands of `*` places only what compiling may. -/
theorem emitting_compileProduct {xs : List Rule} (ih : ∀ x ∈ xs, x.EmitsWell c facts) :
    ∀ {base first n code n'}, (compileProduct c facts scope base first xs).run n = .ok (code, n') →
      Emitting c facts scope base n code n' := by
  induction xs with
  | nil =>
    intro base first n code n' h
    obtain ⟨rfl, rfl⟩ := CompileM.run_pure_ok h
    exact Emitting.plain (by simp)
  | cons x rest hrest =>
    intro base first n code n' h
    rw [compileProduct] at h
    obtain ⟨code₁, n₁, h₁, h⟩ := CompileM.run_bind_ok h
    obtain ⟨code₂, h₂, rfl⟩ := CompileM.run_bind_pure_ok h
    have hmul : Emitting c facts scope (base + code₁.length) n₁ (if first then [] else [.mul]) n₁ :=
      Emitting.free (by split <;> rfl)
    exact ((ih x (by simp) _ _ _ _ _ h₁).append hmul).append
      (hrest (fun y hy => ih y (by simp [hy])) h₂)

/-- Compiling the arguments of `missing_some` places only what compiling may. -/
theorem emitting_compileMissingSome {xs : List Rule} (ih : ∀ x ∈ xs, x.EmitsWell c facts)
    (hc : (compileMissingSome c facts scope base xs).run n = .ok (part, n')) :
    Emitting c facts scope base n part n' := by
  have hload : Emitting c facts scope base n [.load scope] n := Emitting.load
  match xs, ih with
  | [], _ =>
    obtain ⟨rfl, rfl⟩ := CompileM.run_pure_ok hc
    exact hload.append (Emitting.free rfl)
  | [least], ih =>
    rw [compileMissingSome] at hc
    obtain ⟨code, h₁, rfl⟩ := CompileM.run_bind_pure_ok hc
    exact (hload.append (ih least (by simp) _ _ _ _ _ h₁)).append
      (Emitting.free rfl)
  | least :: keys :: _, ih =>
    rw [compileMissingSome] at hc
    obtain ⟨code₁, n₁, h₁, hc⟩ := CompileM.run_bind_ok hc
    obtain ⟨code₂, h₂, rfl⟩ := CompileM.run_bind_pure_ok hc
    refine ((hload.append (ih least (by simp) _ _ _ _ _ h₁)).append
      ((ih keys (by simp) _ _ _ _ _ h₂).of_base_eq (by simp; omega))).append
      (Emitting.free rfl)

end Sequences

section Var

/-- A `var`: the whole scope, a literal path with its default behind a jump to the end, or a
computed path; every load reads the scope compiled for. -/
theorem emitting_compileVar {xs : List Rule} (ih : ∀ x ∈ xs, x.EmitsWell c facts)
    (hc : (compileVar c facts scope base xs).run n = .ok (part, n')) :
    Emitting c facts scope base n part n' := by
  have hload : Emitting c facts scope base n [.load scope] n := Emitting.load
  match xs, ih with
  | [], _ =>
    obtain ⟨rfl, rfl⟩ := CompileM.run_pure_ok hc
    exact hload
  | path :: rest, ih =>
    rw [compileVar] at hc
    rcases hv : varPath path with _ | _ | segs | _
    · simp only [hv] at hc
      obtain ⟨rfl, rfl⟩ := CompileM.run_pure_ok hc
      exact hload
    · -- a computed path, then the default or null, both compiled after the load
      simp only [hv] at hc
      obtain ⟨pathCode, n₁, h₁, hc⟩ := CompileM.run_bind_ok hc
      have hpath := hload.append (ih path (by simp) _ _ _ _ _ h₁)
      cases rest with
      | nil =>
        obtain ⟨defaultCode, n₂, h₂, hc⟩ := CompileM.run_bind_ok hc
        obtain ⟨rfl, rfl⟩ := CompileM.run_pure_ok h₂
        obtain ⟨rfl, rfl⟩ := CompileM.run_pure_ok hc
        exact (hpath.append (Emitting.free rfl)).append
          (Emitting.free rfl)
      | cons d _ =>
        obtain ⟨defaultCode, h₂, rfl⟩ := CompileM.run_bind_pure_ok hc
        exact (hpath.append ((ih d (by simp) _ _ _ _ _ h₂).of_base_eq (by simp; omega))).append
          (Emitting.free rfl)
    · -- a literal path, and a default that the jump passes over when the path is present
      simp only [hv] at hc
      have hne := varPath_segments_ne_nil hv
      cases rest with
      | nil =>
        obtain ⟨rfl, rfl⟩ := CompileM.run_pure_ok hc
        exact Emitting.plain (by simp [Instr.Emitted, hne])
      | cons d _ =>
        obtain ⟨defaultCode, h₁, rfl⟩ := CompileM.run_bind_pure_ok hc
        have hd := ih d (by simp) _ _ _ _ _ h₁
        refine ⟨hd.grows, Emits.cons.2 ⟨⟨rfl, hne⟩, Emits.cons.2 ⟨⟨by omega, by simp; omega⟩, ?_⟩⟩⟩
        rw [show base + 1 + 1 = base + 2 by omega]
        exact hd.emits.mono (List.prefix_refl _) (by simp; omega)
    · simp only [hv] at hc
      exact absurd hc CompileM.run_throw_ok

end Var

section Chains

/-- The branches of an `if` chain, placed from `base` on: each condition, a jump past its
branch, the branch and a jump to `stop`, then the last branch. -/
theorem emitting_compileBranches {xs : List Rule} (ih : ∀ x ∈ xs, x.EmitsWell c facts) :
    ∀ {base n pairs last n'},
      (compileBranches c facts scope base xs).run n = .ok ((pairs, last), n') →
      n.bindings <+: n'.bindings ∧
        ∀ stop, base + (assembleIf.go last stop base pairs).length ≤ stop →
          Emits c facts n' scope base stop (assembleIf.go last stop base pairs) := by
  match xs, ih with
  | [], _ =>
    intro base n pairs last n' h
    rw [compileBranches] at h
    cases h
    exact ⟨List.prefix_refl _, fun stop _ => Emits.singleton.2 trivial⟩
  | [x], ih =>
    intro base n pairs last n' h
    rw [compileBranches] at h
    obtain ⟨code, n₁, h₁, h⟩ := CompileM.run_bind_ok h
    cases h
    have hx := ih x (by simp) _ _ _ _ _ h₁
    exact ⟨hx.grows, fun stop hs =>
      hx.emits.mono (List.prefix_refl _) (by simpa [assembleIf.go] using hs)⟩
  | x :: y :: rest, ih =>
    intro base n pairs last n' h
    rw [compileBranches] at h
    obtain ⟨condCode, n₁, h₁, h⟩ := CompileM.run_bind_ok h
    obtain ⟨thenCode, n₂, h₂, h⟩ := CompileM.run_bind_ok h
    obtain ⟨⟨pairs', last'⟩, n₃, h₃, h⟩ := CompileM.run_bind_ok h
    cases h
    have hx := ih x (by simp) _ _ _ _ _ h₁
    have hy := ih y (by simp) _ _ _ _ _ h₂
    obtain ⟨hgrows, hrest⟩ :=
      emitting_compileBranches (fun z hz => ih z (by simp [hz])) h₃
    refine ⟨hx.grows.trans (hy.grows.trans hgrows), fun stop hs => ?_⟩
    rw [assembleIf_go_cons] at hs ⊢
    simp only [List.length_append, List.length_singleton] at hs
    have hcond : Emits c facts n' scope base stop (condCode ++ truthyCall facts x) := by
      exact (hx.emits.mono (hy.grows.trans hgrows) (by omega)).append
        (Emits.of_free (truthyCall_all_free x))
    have hlen : (condCode ++ truthyCall facts x).length =
        condCode.length + (truthyCall facts x).length := List.length_append
    refine (((hcond.append ?_).append ?_).append ?_).append ?_
    · exact Emits.singleton.2 ⟨by omega, by omega⟩
    · simpa [Nat.add_assoc] using hy.emits.mono hgrows (show _ ≤ stop by simp; omega)
    · exact Emits.singleton.2
        ⟨by simp only [List.length_append, List.length_singleton]; omega, le_rfl⟩
    · simpa [Nat.add_assoc] using hrest stop (by simp; omega)

/-- The leading operands of `and` and `or`, placed from `base` on: each kept, tested and
dropped by a jump to `stop` and a pop, then the last operand. -/
theorem emitting_compileShort {xs : List Rule} (ih : ∀ x ∈ xs, x.EmitsWell c facts) :
    ∀ {base n parts last n'}, (compileShort c facts scope base xs).run n = .ok ((parts, last), n') →
      n.bindings <+: n'.bindings ∧ ∀ isAnd stop,
        base + (shortCode isAnd stop parts last).length ≤ stop →
          Emits c facts n' scope base stop (shortCode isAnd stop parts last) := by
  match xs, ih with
  | [], _ =>
    intro base n parts last n' h
    rw [compileShort] at h
    cases h
    exact ⟨List.prefix_refl _, fun _ stop _ => Emits.singleton.2 trivial⟩
  | [x], ih =>
    intro base n parts last n' h
    rw [compileShort] at h
    obtain ⟨code, n₁, h₁, h⟩ := CompileM.run_bind_ok h
    cases h
    have hx := ih x (by simp) _ _ _ _ _ h₁
    exact ⟨hx.grows, fun _ stop hs => hx.emits.mono (List.prefix_refl _) (by simpa using hs)⟩
  | x :: y :: rest, ih =>
    intro base n parts last n' h
    rw [compileShort] at h
    · obtain ⟨code, n₁, h₁, h⟩ := CompileM.run_bind_ok h
      obtain ⟨⟨parts', last'⟩, n₂, h₂, h⟩ := CompileM.run_bind_ok h
      cases h
      have hx := ih x (by simp) _ _ _ _ _ h₁
      obtain ⟨hgrows, hrest⟩ :=
        emitting_compileShort (fun z hz => ih z (List.mem_cons_of_mem x hz)) h₂
      refine ⟨hx.grows.trans hgrows, fun isAnd stop hs => ?_⟩
      rw [shortCode_cons] at hs ⊢
      simp only [List.length_append, List.length_cons, List.length_nil] at hs
      have hpart :
          Emits c facts n' scope base stop (code ++ [Instr.dup] ++ truthyCall facts x) := by
        rw [List.append_assoc]
        refine (hx.emits.mono hgrows (show base + code.length ≤ stop by omega)).append
          (Emits.of_free ?_)
        rw [List.all_append, truthyCall_all_free]
        rfl
      have hlt : base + (code ++ [Instr.dup] ++ truthyCall facts x).length < stop := by
        simp only [List.length_append, List.length_singleton]
        omega
      have hjump : Emits c facts n' scope
          (base + (code ++ [Instr.dup] ++ truthyCall facts x).length) stop
          [if isAnd then .jumpIfFalse stop else .jumpIfTrue stop, .pop] := by
        refine Emits.cons.2 ⟨?_, Emits.singleton.2 trivial⟩
        cases isAnd <;> exact ⟨hlt, le_rfl⟩
      refine (hpart.append hjump).append ?_
      simpa [Nat.add_assoc] using hrest isAnd stop (by simp; omega)
    · exact List.cons_ne_nil y rest

/-- A comparison of two or three operands: each window and the comparison; between the two
windows of three operands, the test of the first comparison with its jump to the end. -/
theorem emitting_chain {cmp : Instr} (hcmp : ∀ N stop pc, cmp.Emitted c facts N scope stop pc)
    {xs : List Rule} (ih : ∀ x ∈ xs, x.EmitsWell c facts) (hlen : 2 ≤ xs.length ∧ xs.length ≤ 3)
    (hc : (do let windows ← compileWindows c facts scope base xs
              pure (assembleChain cmp base windows) : CompileM (List Instr)).run n =
            .ok (part, n')) :
    Emitting c facts scope base n part n' := by
  obtain ⟨windows, h₁, rfl⟩ := CompileM.run_bind_pure_ok hc
  have hcmp' : ∀ b n, Emitting c facts scope b n [cmp] n :=
    fun _ _ => Emitting.plain (by simpa using hcmp)
  match xs, hlen, ih with
  | [a, b], _, ih =>
    rw [compileWindows] at h₁
    obtain ⟨code₁, n₂, h₂, h₁⟩ := CompileM.run_bind_ok h₁
    obtain ⟨code₂, h₃, rfl⟩ := CompileM.run_bind_pure_ok h₁
    have hasm : assembleChain cmp base [code₁ ++ code₂] = code₁ ++ code₂ ++ [cmp] := by
      simp [assembleChain, assembleChain.go]
    rw [hasm]
    exact ((ih a (by simp) _ _ _ _ _ h₂).append (ih b (by simp) _ _ _ _ _ h₃)).append (hcmp' _ _)
  | [a, b, d], _, ih =>
    rw [compileWindows] at h₁
    obtain ⟨code₁, n₂, h₂, h₁⟩ := CompileM.run_bind_ok h₁
    obtain ⟨code₂, n₃, h₃, h₁⟩ := CompileM.run_bind_ok h₁
    obtain ⟨code₃, n₄, h₄, h₁⟩ := CompileM.run_bind_ok h₁
    obtain ⟨code₄, h₅, rfl⟩ := CompileM.run_bind_pure_ok h₁
    have hasm : assembleChain cmp base [code₁ ++ code₂, code₃ ++ code₄] =
        (code₁ ++ code₂ ++ [cmp]) ++ ([Instr.dup, .jumpIfFalse (base + code₁.length +
          code₂.length + 1 + 3 + code₃.length + code₄.length + 1), .pop] ++
            (code₃ ++ code₄ ++ [cmp])) := by
      simp [assembleChain, assembleChain.go]
      omega
    rw [hasm]
    have h₁ := ((ih a (by simp) _ _ _ _ _ h₂).append (ih b (by simp) _ _ _ _ _ h₃)).append
      (hcmp' _ _)
    have h₂ := ((ih b (by simp) _ _ _ _ _ h₄).append (ih d (by simp) _ _ _ _ _ h₅)).append
      (hcmp' _ _)
    refine ⟨h₁.grows.trans h₂.grows, ?_⟩
    -- the test between the windows jumps to the end of the whole chain
    refine (h₁.emits.mono h₂.grows (by simp)).append
      (Emits.cons.2 ⟨trivial, Emits.cons.2 ⟨⟨by simp; omega, by simp; omega⟩,
        Emits.cons.2 ⟨trivial, ?_⟩⟩⟩)
    exact (h₂.emits.mono (List.prefix_refl _) (by simp; omega)).of_base_eq (by simp; omega)

end Chains

section Operations

variable {key : String} {args : List Rule} {br : Bool}

/-- An iteration: its source, then the instruction over its body's block, the body compiled
last. -/
theorem emitting_iteration {b : Builtin} {kind : IterKind} (hb : c.builtin? key = some b)
    (hk : b.iterKind? = some kind) (ih : ∀ x ∈ args, x.EmitsWell c facts)
    (hc : ((operation key args br).compile c facts scope base).run n = .ok (part, n')) :
    Emitting c facts scope base n part n' := by
  obtain ⟨source, body, sourceCode, bodyCode, n₁, rfl, h₁, h₂, rfl⟩ := compile_iteration hb hk hc
  have hbody := ih body (by simp) _ _ _ _ _ h₂
  refine (ih source (by simp) _ _ _ _ _ h₁).append ⟨hbody.grows, Emits.singleton.2 ?_⟩
  exact ⟨body, n₁, n', bodyCode, h₂, List.prefix_refl _, rfl⟩

/-- A reduce: its source, its initial value if it has one, then the instruction over its body,
compiled last; the contexts hold the source exactly when the body reads `data`. -/
theorem emitting_reduce (hb : c.builtin? key = some .reduce) (ih : ∀ x ∈ args, x.EmitsWell c facts)
    (hc : ((operation key args br).compile c facts scope base).run n = .ok (part, n')) :
    Emitting c facts scope base n part n' := by
  obtain ⟨source, body, rest, sourceCode, initCode, bodyCode, n₁, n₂, rfl, -, h₁, hinit, h₃, rfl⟩ :=
    compile_reduce_ok (Catalog.lookup_of_builtin? hb) hc
  replace hinit : Emitting c facts scope (base + sourceCode.length) n₁ initCode n₂ := by
    rcases hinit with ⟨rfl, rfl, rfl⟩ | ⟨init, rfl, h₂⟩
    · exact Emitting.plain (by simp)
    · exact ih init (by simp) _ _ _ _ _ h₂
  have hbody := ih body (by simp) _ _ _ _ _ h₃
  refine ((ih source (by simp) _ _ _ _ _ h₁).append hinit).append
    ⟨hbody.grows, Emits.singleton.2 ?_⟩
  exact ⟨body, n₂, n', h₃, List.prefix_refl _, rfl⟩

/-- A builtin operation emits only what compiling may, when its operands do: each builtin by
its own scheme. -/
theorem emitsWell_builtin {op : Builtin} (hl : c.lookup key = some (.builtin op))
    (ih : ∀ x ∈ args, x.EmitsWell c facts) : (operation key args br).EmitsWell c facts := by
  intro scope base n part n' hc
  have hb : c.builtin? key = some op := by simp [Catalog.builtin?, hl]
  cases op
  case map | filter | allOf | noneOf | someOf => exact emitting_iteration hb rfl ih hc
  case reduce => exact emitting_reduce hb ih hc
  case missing =>
    obtain ⟨code, h₁, rfl⟩ := compile_missing_ok hl hc
    exact (Emitting.load.append
      ((emitting_compileSeq ih h₁).of_base_eq (by simp))).append
      (Emitting.free rfl)
  case not =>
    obtain ⟨x, code, rfl, h₁, rfl⟩ := compile_not_ok hl hc
    rw [List.append_assoc]
    refine (ih x (by simp) _ _ _ _ _ h₁).append (Emitting.free ?_)
    rw [List.all_append, truthyCall_all_free]
    rfl
  case notNot =>
    obtain ⟨x, code, rfl, h₁, rfl⟩ := compile_notNot_ok hl hc
    exact (ih x (by simp) _ _ _ _ _ h₁).append (Emitting.free (by split <;> rfl))
  case mul =>
    rcases compile_mul_ok hl hc with ⟨x, code, rfl, h₁, rfl⟩ | ⟨-, hc⟩
    · exact (ih x (by simp) _ _ _ _ _ h₁).append
        (Emitting.free (numberCall_all_free x))
    · exact emitting_compileProduct ih hc
  case member =>
    obtain ⟨x, y, code₁, code₂, n₁, rfl, h₁, h₂, rfl⟩ := compile_member_ok hl hc
    exact ((ih x (by simp) _ _ _ _ _ h₁).append (ih y (by simp) _ _ _ _ _ h₂)).append
      (Emitting.free rfl)
  all_goals
    rw [compile.eq_def] at hc
    simp only [hl, Builtin.arity, Builtin.exactly] at hc
  case var => exact emitting_compileVar ih hc
  case missingSome => exact emitting_compileMissingSome ih hc
  case cond =>
    split at hc
    · obtain ⟨rfl, rfl⟩ := CompileM.run_pure_ok hc
      exact Emitting.free rfl
    · obtain ⟨⟨pairs, last⟩, n₁, h₁, hc⟩ := CompileM.run_bind_ok hc
      obtain ⟨rfl, rfl⟩ := CompileM.run_pure_ok hc
      obtain ⟨hgrows, hemits⟩ := emitting_compileBranches ih h₁
      rw [assembleIf_eq]
      refine ⟨hgrows, ?_⟩
      rw [length_assembleIf_go]
      exact hemits _ (by rw [length_assembleIf_go])
  case eq | strictEq | ne | strictNe | div | mod | substr | log =>
    obtain ⟨-, hc⟩ := CompileM.run_unless_throw_ok hc
    exact emitting_seqThen ih (Instr.emitted_of_all_free rfl) hc
  case sub =>
    obtain ⟨-, hc⟩ := CompileM.run_unless_throw_ok hc
    exact emitting_seqThen ih (Instr.emitted_of_all_free (by split <;> rfl)) hc
  case max | min => exact emitting_seqThen ih (Instr.emitted_of_all_free rfl) hc
  case and | or =>
    split at hc
    · obtain ⟨rfl, rfl⟩ := CompileM.run_pure_ok hc
      exact Emitting.free rfl
    · obtain ⟨⟨parts, last⟩, n₁, h₁, hc⟩ := CompileM.run_bind_ok hc
      obtain ⟨rfl, rfl⟩ := CompileM.run_pure_ok hc
      obtain ⟨hgrows, hemits⟩ := emitting_compileShort ih h₁
      refine ⟨hgrows, ?_⟩
      rw [assembleShort_eq, length_shortCode, ← Nat.add_assoc]
      exact hemits _ _ (by rw [length_shortCode, Nat.add_assoc])
  case gt | gte | lt | lte =>
    obtain ⟨hadm, hc⟩ := CompileM.run_unless_throw_ok hc
    have hlen := length_of_admits hadm
    simp only [Option.some.injEq, forall_eq'] at hlen
    exact emitting_chain (fun _ stop pc => Instr.Emitted.of_free rfl stop pc) ih hlen hc
  case add =>
    obtain ⟨-, hc⟩ := CompileM.run_unless_throw_ok hc
    exact emitting_compileSum ih hc
  case merge =>
    split at hc
    · obtain ⟨rfl, rfl⟩ := CompileM.run_pure_ok hc
      exact Emitting.free rfl
    · obtain ⟨code, n₁, h₁, hc⟩ := CompileM.run_bind_ok hc
      split at hc
      all_goals
        obtain ⟨rfl, rfl⟩ := CompileM.run_pure_ok hc
        exact (emitting_compileSeq ih h₁).append (Emitting.free rfl)
  case cat =>
    split at hc
    · obtain ⟨rfl, rfl⟩ := CompileM.run_pure_ok hc
      exact Emitting.free rfl
    · split at hc
      all_goals exact emitting_seqThen ih (Instr.emitted_of_all_free rfl) hc

/-- An extension operation: its key named before its operands are compiled, then the call of
its slot. -/
theorem emitsWell_extension {op : Operation} (hl : c.lookup key = some (.extension op))
    (ih : ∀ x ∈ args, x.EmitsWell c facts) : (operation key args br).EmitsWell c facts := by
  intro scope base n part n' hc
  obtain ⟨code, h₁, rfl⟩ := compile_extension_ok hl hc
  have hargs := emitting_compileSeq ih h₁
  refine ⟨(Naming.bindings_prefix_resolve n key).trans hargs.grows,
    (hargs.append (Emitting.free rfl)).emits⟩

end Operations

/-- Every compilation of every rule, at any place and from any names, keeps the names given
before and emits only what compiling may. -/
theorem compile_emits (r : Rule) : r.EmitsWell c facts := by
  induction r using Rule.induction with
  | literal v =>
    intro scope base n part n' hc
    obtain ⟨rfl, rfl⟩ := CompileM.run_pure_ok hc
    exact Emitting.free rfl
  | list items ih =>
    intro scope base n part n' hc
    rw [compile] at hc
    split at hc
    · obtain ⟨rfl, rfl⟩ := CompileM.run_pure_ok hc
      exact Emitting.free rfl
    · exact emitting_seqThen ih (Instr.emitted_of_all_free rfl) hc
  | operation key args br ih =>
    rcases hl : c.lookup key with _ | entry
    · intro scope base n part n' hc
      exact absurd hc (compile_unknown_ok hl)
    · cases entry with
      | builtin op => exact emitsWell_builtin hl ih
      | extension op => exact emitsWell_extension hl ih

end Rule

/-! ## Nested blocks -/

section Blocks

variable (c : Catalog) (facts : Analysis)

/-- A block that compiling places as an iteration's body: the code of a rule compiled in a
scope of its own from position 0, with names that end among `N`'s, then the test of the
iteration for `map`, `filter`, `all`, `none` and `some`, or nothing for `reduce`. -/
def BodyBlock (N : Naming) (B : List Instr) : Prop :=
  (∃ (kind : IterKind) (body : Rule) (n₁ n₂ : Naming) (code : List Instr),
    (body.compile c facts .item 0).run n₁ = .ok (code, n₂) ∧ n₂.bindings <+: N.bindings ∧
      B = code ++ iterTest facts kind body) ∨
  (∃ (body : Rule) (n₁ n₂ : Naming), (body.compile c facts .context 0).run n₁ = .ok (B, n₂) ∧
    n₂.bindings <+: N.bindings)

variable {c facts} {N : Naming}

/-- Where an emitted jump goes: forward, to at most the end of its node's code. -/
theorem Instr.Emitted.target {scope : Scope} {stop pc t : Nat} {i : Instr}
    (h : i.Emitted c facts N scope stop pc) (ht : i.target? = some t) : pc < t ∧ t ≤ stop := by
  cases i <;> simp only [Instr.target?, reduceCtorEq, Option.some.injEq] at ht
  all_goals
    subst ht
    exact h

/-- The body of an emitted `map`, `filter`, `all`, `none` or `some` is code emitted for its
items. -/
theorem Instr.Emitted.iterate_emits {scope : Scope} {stop pc : Nat} {kind : IterKind}
    {block : List Instr} {guarded : Bool}
    (h : (Instr.iterate kind block guarded).Emitted c facts N scope stop pc) :
    Emits c facts N .item 0 block.length block := by
  obtain ⟨body, n₁, n₂, code, hc, hn, rfl⟩ := h
  exact ((Rule.compile_emits body _ _ _ _ _ hc).emits.mono hn (by simp)).append
    (Emits.of_free (iterTest_all_free kind body))

/-- The body of an emitted reduce is code emitted for its contexts, and the contexts hold the
source exactly when the body reads `data`. -/
theorem Instr.Emitted.reduce_emits {scope : Scope} {stop pc : Nat} {block : List Instr}
    {guarded seeded withData : Bool}
    (h : (Instr.reduce block guarded seeded withData).Emitted c facts N scope stop pc) :
    Emits c facts N .context 0 block.length block ∧ withData = readsData block := by
  obtain ⟨body, n₁, n₂, hc, hn, hw⟩ := h
  exact ⟨by simpa using (Rule.compile_emits body _ _ _ _ _ hc).emits.mono hn le_rfl, hw⟩

/-- The body of an emitted iteration is emitted code in its turn. -/
theorem emits_of_bodyBlock {B : List Instr} (h : BodyBlock c facts N B) :
    ∃ scope, Emits c facts N scope 0 B.length B := by
  rcases h with ⟨kind, body, n₁, n₂, code, hc, hn, rfl⟩ | ⟨body, n₁, n₂, hc, hn⟩
  · exact ⟨.item, ((Rule.compile_emits body _ _ _ _ _ hc).emits.mono hn (by simp)).append
      (Emits.of_free (iterTest_all_free kind body))⟩
  · exact ⟨.context, by simpa using (Rule.compile_emits body _ _ _ _ _ hc).emits.mono hn le_rfl⟩

/-- Every block nested in emitted code, at any depth, is the body of an iteration as compiling
places it. -/
theorem innerBlocks_compiled {scope : Scope} {base stop : Nat} (part : List Instr)
    (h : Emits c facts N scope base stop part) : ∀ B ∈ innerBlocks part, BodyBlock c facts N B := by
  intro B hB
  obtain ⟨i, hi, hB⟩ := mem_innerBlocks.1 hB
  obtain ⟨pc, he⟩ := h.emitted_of_mem hi
  have hsize := List.sizeOf_lt_of_mem hi
  cases i
  case iterate kind block guarded =>
    obtain ⟨body, n₁, n₂, code, hc, hn, rfl⟩ := he
    have hbody : BodyBlock c facts N (code ++ iterTest facts kind body) :=
      Or.inl ⟨kind, body, n₁, n₂, code, hc, hn, rfl⟩
    rcases List.mem_cons.1 hB with rfl | hB
    · exact hbody
    · obtain ⟨scope', he'⟩ := emits_of_bodyBlock hbody
      exact innerBlocks_compiled _ he' B hB
  case reduce block guarded seeded withData =>
    obtain ⟨body, n₁, n₂, hc, hn, -⟩ := he
    have hbody : BodyBlock c facts N block := Or.inr ⟨body, n₁, n₂, hc, hn⟩
    rcases List.mem_cons.1 hB with rfl | hB
    · exact hbody
    · obtain ⟨scope', he'⟩ := emits_of_bodyBlock hbody
      exact innerBlocks_compiled _ he' B hB
  all_goals simp [Instr.nested] at hB
termination_by sizeOf part
decreasing_by
  all_goals
    first
      | (simp only [Instr.iterate.sizeOf_spec] at hsize; omega)
      | (simp only [Instr.reduce.sizeOf_spec] at hsize; omega)

/-- The jumps of a nested block go forward within it. -/
theorem BodyBlock.jumps {B : List Instr} (h : BodyBlock c facts N B) {pc t : Nat} {i : Instr}
    (hi : B[pc]? = some i) (ht : i.target? = some t) : pc < t ∧ t ≤ B.length := by
  obtain ⟨scope, he⟩ := emits_of_bodyBlock h
  simpa using (he pc i hi).target ht

end Blocks

namespace Program

variable {c : Catalog} {facts : Analysis} {r : Rule} {p : Program}

/-- Every jump of a compiled program, at position `pc` of its top-level code or of a body
nested at any depth, goes forward within that block: to a target `t` with `pc < t`, at most
the block's length, where the block ends. -/
theorem jumps_forward (h : ofRuleWith c facts r = .ok p) : JumpsForward p.code := by
  obtain ⟨N, hc, -, -⟩ := ofRuleWith_ok h
  have he := (Rule.compile_emits r _ _ _ _ _ hc).emits
  intro B hB pc i t hi ht
  rcases List.mem_cons.1 hB with rfl | hB
  · simpa using (he pc i hi).target ht
  · exact (innerBlocks_compiled p.code he B hB).jumps hi ht

end Program

end RuleMachine
