import RuleMachine.Proofs.Shape

/-!
# Compiled code can be placed anywhere

The compiler is told the position `base` where a rule's code will start, and uses it for jump
targets only: compiling `k` positions further down gives the same code with every jump target
moved by `k` (`Rule.compile_relocates`), from the same names to the same names. Bodies of
iterations are blocks of their own, compiled from position 0, and do not move.

Compiled code also runs as a block of its own (`runBlock_embed`): a block whose jumps go forward
and stay within it (`Closed`), placed at `b` with its targets moved by `b`, runs from `b` as the
block alone does and then goes on after it. So the code of a rule behaves, wherever it is
placed, as its code compiled from position 0 does (`Machine.Runs.embed`).
-/

namespace RuleMachine

namespace Instr

/-- Adds `d` to the target of a jump; other instructions stay as they are. -/
def shiftJumps (d : Nat) : Instr → Instr
  | .jump t => .jump (t + d)
  | .jumpIfFalse t => .jumpIfFalse (t + d)
  | .jumpIfTrue t => .jumpIfTrue (t + d)
  | .jumpIfPresent t => .jumpIfPresent (t + d)
  | i => i

end Instr

/-- Adds `d` to every jump target of a block; the bodies it carries are blocks of their own and
stay as they are. -/
def shiftJumps (d : Nat) (code : List Instr) : List Instr := code.map (Instr.shiftJumps d)

section ShiftJumps

variable {d : Nat} {p q : List Instr}

@[simp] theorem length_shiftJumps : (shiftJumps d p).length = p.length := List.length_map _

@[simp] theorem shiftJumps_nil : shiftJumps d [] = [] := rfl

@[simp] theorem shiftJumps_cons (i : Instr) :
    shiftJumps d (i :: p) = i.shiftJumps d :: shiftJumps d p :=
  rfl

@[simp] theorem shiftJumps_append : shiftJumps d (p ++ q) = shiftJumps d p ++ shiftJumps d q :=
  List.map_append

/-- An instruction without a target does not move. -/
theorem Instr.shiftJumps_of_target {i : Instr} (h : i.target? = none) : i.shiftJumps d = i := by
  cases i
  case jump | jumpIfFalse | jumpIfTrue | jumpIfPresent => cases h
  all_goals rfl

/-- Code without jumps does not move. -/
theorem shiftJumps_of_targets (h : ∀ i ∈ p, i.target? = none) : shiftJumps d p = p := by
  induction p with
  | nil => rfl
  | cons i rest ih =>
    rw [shiftJumps_cons, Instr.shiftJumps_of_target (h i (by simp)),
      ih fun j hj => h j (by simp [hj])]

@[simp] theorem shiftJumps_truthyCall (facts : Analysis) (r : Rule) :
    shiftJumps d (Rule.truthyCall facts r) = Rule.truthyCall facts r := by
  unfold Rule.truthyCall
  split <;> rfl

@[simp] theorem shiftJumps_numberCall (facts : Analysis) (r : Rule) :
    shiftJumps d (Rule.numberCall facts r) = Rule.numberCall facts r := by
  unfold Rule.numberCall
  split <;> rfl

end ShiftJumps

/-! ## Compiling further down -/

section Relocation

variable (c : Catalog) (facts : Analysis)

/-- Every compilation of `r`, placed `k` positions further down, gives the same code with its
jump targets moved by `k`, from the same names to the same names. -/
def Rule.Relocates (r : Rule) : Prop :=
  ∀ scope base k n part n', (r.compile c facts scope base).run n = .ok (part, n') →
    (r.compile c facts scope (base + k)).run n = .ok (shiftJumps k part, n')

end Relocation

namespace Rule

variable {c : Catalog} {facts : Analysis} {scope : Scope} {base k : Nat} {n n' : Naming}
  {part : List Instr}

/-- Code compiled `j` positions into a block moves with the block. -/
theorem Relocates.within {r : Rule} (h : r.Relocates c facts) {j : Nat}
    (hc : (r.compile c facts scope (base + j)).run n = .ok (part, n')) :
    (r.compile c facts scope (base + k + j)).run n = .ok (shiftJumps k part, n') := by
  rw [Nat.add_right_comm]
  exact h _ _ k _ _ _ hc

/-- Code compiled right after a block `p` moves with it, behind the moved block. -/
theorem Relocates.after {r : Rule} (h : r.Relocates c facts) {p : List Instr}
    (hc : (r.compile c facts scope (base + p.length)).run n = .ok (part, n')) :
    (r.compile c facts scope (base + k + (shiftJumps k p).length)).run n =
      .ok (shiftJumps k part, n') := by
  rw [length_shiftJumps]
  exact h.within hc

section Sequences

theorem relocates_compileSeq {xs : List Rule} (ih : ∀ x ∈ xs, x.Relocates c facts) :
    ∀ {base k n code n'}, (compileSeq c facts scope base xs).run n = .ok (code, n') →
      (compileSeq c facts scope (base + k) xs).run n = .ok (shiftJumps k code, n') := by
  induction xs with
  | nil =>
    intro base k n code n' h
    obtain ⟨rfl, rfl⟩ := CompileM.run_pure_ok h
    rfl
  | cons x rest hrest =>
    intro base k n code n' h
    rw [compileSeq] at h ⊢
    obtain ⟨code₁, n₁, h₁, h⟩ := CompileM.run_bind_ok h
    obtain ⟨code₂, h₂, rfl⟩ := CompileM.run_bind_pure_ok h
    have h₂' := hrest (k := k) (fun y hy => ih y (by simp [hy])) h₂
    rw [Nat.add_right_comm, ← length_shiftJumps (d := k)] at h₂'
    rw [CompileM.run_bind_of_ok _ (ih x (by simp) _ _ k _ _ _ h₁), CompileM.run_bind_of_ok _ h₂',
      shiftJumps_append]
    rfl

/-- Compiled operands, then instructions without jumps. -/
theorem relocates_seqThen {xs : List Rule} (ih : ∀ x ∈ xs, x.Relocates c facts)
    {post : List Instr} (hpost : ∀ i ∈ post, i.target? = none)
    (hc : (do let code ← compileSeq c facts scope base xs; pure (code ++ post) :
      CompileM (List Instr)).run n = .ok (part, n')) :
    (do let code ← compileSeq c facts scope (base + k) xs; pure (code ++ post) :
      CompileM (List Instr)).run n = .ok (shiftJumps k part, n') := by
  obtain ⟨code, h₁, rfl⟩ := CompileM.run_bind_pure_ok hc
  rw [CompileM.run_bind_of_ok _ (relocates_compileSeq ih h₁), shiftJumps_append,
    shiftJumps_of_targets hpost]
  rfl

theorem relocates_compileSum {xs : List Rule} (ih : ∀ x ∈ xs, x.Relocates c facts) :
    ∀ {base k first n code n'}, (compileSum c facts scope base first xs).run n = .ok (code, n') →
      (compileSum c facts scope (base + k) first xs).run n = .ok (shiftJumps k code, n') := by
  induction xs with
  | nil =>
    intro base k first n code n' h
    obtain ⟨rfl, rfl⟩ := CompileM.run_pure_ok h
    rfl
  | cons x rest hrest =>
    intro base k first n code n' h
    rw [compileSum] at h ⊢
    obtain ⟨code₁, n₁, h₁, h⟩ := CompileM.run_bind_ok h
    obtain ⟨code₂, h₂, rfl⟩ := CompileM.run_bind_pure_ok h
    have h₂' := hrest (k := k) (fun y hy => ih y (by simp [hy])) h₂
    rw [CompileM.run_bind_of_ok _ (ih x (by simp) _ _ k _ _ _ h₁)]
    simp only [List.length_append, length_shiftJumps] at h₂' ⊢
    rw [Nat.add_right_comm base k, CompileM.run_bind_of_ok _ h₂']
    -- the operand's conversion and the addition have no jumps
    cases first <;> simp [shiftJumps_append] <;> rfl

theorem relocates_compileProduct {xs : List Rule} (ih : ∀ x ∈ xs, x.Relocates c facts) :
    ∀ {base k first n code n'},
      (compileProduct c facts scope base first xs).run n = .ok (code, n') →
      (compileProduct c facts scope (base + k) first xs).run n = .ok (shiftJumps k code, n') := by
  induction xs with
  | nil =>
    intro base k first n code n' h
    obtain ⟨rfl, rfl⟩ := CompileM.run_pure_ok h
    rfl
  | cons x rest hrest =>
    intro base k first n code n' h
    rw [compileProduct] at h ⊢
    obtain ⟨code₁, n₁, h₁, h⟩ := CompileM.run_bind_ok h
    obtain ⟨code₂, h₂, rfl⟩ := CompileM.run_bind_pure_ok h
    have h₂' := hrest (k := k) (fun y hy => ih y (by simp [hy])) h₂
    rw [CompileM.run_bind_of_ok _ (ih x (by simp) _ _ k _ _ _ h₁)]
    simp only [List.length_append, length_shiftJumps] at h₂' ⊢
    rw [Nat.add_right_comm base k, CompileM.run_bind_of_ok _ h₂']
    cases first <;> simp [shiftJumps_append] <;> rfl

theorem relocates_compileMissingSome {xs : List Rule} (ih : ∀ x ∈ xs, x.Relocates c facts)
    (hc : (compileMissingSome c facts scope base xs).run n = .ok (part, n')) :
    (compileMissingSome c facts scope (base + k) xs).run n = .ok (shiftJumps k part, n') := by
  match xs, ih with
  | [], _ =>
    obtain ⟨rfl, rfl⟩ := CompileM.run_pure_ok hc
    rfl
  | [least], ih =>
    rw [compileMissingSome] at hc ⊢
    obtain ⟨code, h₁, rfl⟩ := CompileM.run_bind_pure_ok hc
    rw [CompileM.run_bind_of_ok _ ((ih least (by simp)).within h₁)]
    simp [Instr.shiftJumps]
    rfl
  | least :: keys :: _, ih =>
    rw [compileMissingSome] at hc ⊢
    obtain ⟨code₁, n₁, h₁, hc⟩ := CompileM.run_bind_ok hc
    obtain ⟨code₂, h₂, rfl⟩ := CompileM.run_bind_pure_ok hc
    have h₂' := ih keys (by simp) _ _ k _ _ _ h₂
    rw [show base + 1 + code₁.length + k = base + k + 1 + (shiftJumps k code₁).length by
      simp; omega] at h₂'
    rw [CompileM.run_bind_of_ok _ ((ih least (by simp)).within h₁), CompileM.run_bind_of_ok _ h₂']
    simp [Instr.shiftJumps]
    rfl

end Sequences

section Var

/-- A `var`: the whole scope, a literal path with the jump past its default, or a computed
path; only the jump past the default has a target. -/
theorem relocates_compileVar {xs : List Rule} (ih : ∀ x ∈ xs, x.Relocates c facts)
    (hc : (compileVar c facts scope base xs).run n = .ok (part, n')) :
    (compileVar c facts scope (base + k) xs).run n = .ok (shiftJumps k part, n') := by
  match xs, ih with
  | [], _ =>
    obtain ⟨rfl, rfl⟩ := CompileM.run_pure_ok hc
    rfl
  | path :: rest, ih =>
    rw [compileVar] at hc ⊢
    rcases hv : varPath path with _ | _ | segs | _
    · simp only [hv] at hc ⊢
      obtain ⟨rfl, rfl⟩ := CompileM.run_pure_ok hc
      rfl
    · simp only [hv] at hc ⊢
      obtain ⟨pathCode, n₁, h₁, hc⟩ := CompileM.run_bind_ok hc
      rw [CompileM.run_bind_of_ok _ ((ih path (by simp)).within h₁)]
      cases rest with
      | nil =>
        obtain ⟨defaultCode, n₂, h₂, hc⟩ := CompileM.run_bind_ok hc
        obtain ⟨rfl, rfl⟩ := CompileM.run_pure_ok h₂
        obtain ⟨rfl, rfl⟩ := CompileM.run_pure_ok hc
        simp [Instr.shiftJumps]
        rfl
      | cons d _ =>
        obtain ⟨defaultCode, h₂, rfl⟩ := CompileM.run_bind_pure_ok hc
        have h₂' := ih d (by simp) _ _ k _ _ _ h₂
        rw [show base + 1 + pathCode.length + k = base + k + 1 + (shiftJumps k pathCode).length by
          simp; omega] at h₂'
        simp only [CompileM.run_bind_of_ok _ h₂']
        simp [Instr.shiftJumps]
        rfl
    · simp only [hv] at hc ⊢
      cases rest with
      | nil =>
        obtain ⟨rfl, rfl⟩ := CompileM.run_pure_ok hc
        rfl
      | cons d _ =>
        obtain ⟨defaultCode, h₁, rfl⟩ := CompileM.run_bind_pure_ok hc
        -- the default moves, and the jump past it moves with it
        rw [CompileM.run_bind_of_ok _ ((ih d (by simp)).within h₁)]
        simp only [shiftJumps_cons, shiftJumps_append, length_shiftJumps, Instr.shiftJumps]
        rw [show base + k + 2 + defaultCode.length = base + 2 + defaultCode.length + k by omega]
        rfl
    · simp only [hv] at hc
      exact absurd hc CompileM.run_throw_ok

end Var

section Chains

/-- Moved pairs and a moved last branch, assembled `k` further down, are the moved chain. -/
theorem assembleIf_go_shiftJumps (last : List Instr) (stop : Nat) :
    ∀ (pos : Nat) (pairs : List (List Instr × List Instr)),
      assembleIf.go (shiftJumps k last) (stop + k) (pos + k)
          (pairs.map fun (cc, tc) => (shiftJumps k cc, shiftJumps k tc)) =
        shiftJumps k (assembleIf.go last stop pos pairs)
  | pos, [] => rfl
  | pos, (cc, tc) :: pairs => by
    rw [List.map_cons, assembleIf_go_cons, assembleIf_go_cons, length_shiftJumps,
      length_shiftJumps, show pos + k + cc.length + tc.length + 2 =
        pos + cc.length + tc.length + 2 + k by omega, assembleIf_go_shiftJumps last stop]
    simp [Instr.shiftJumps]

theorem assembleIf_shiftJumps (pairs : List (List Instr × List Instr)) (last : List Instr) :
    assembleIf (base + k) (pairs.map fun (cc, tc) => (shiftJumps k cc, shiftJumps k tc))
        (shiftJumps k last) = shiftJumps k (assembleIf base pairs last) := by
  rw [assembleIf_eq, assembleIf_eq, ← assembleIf_go_shiftJumps]
  congr 1
  simp only [List.map_map, length_shiftJumps]
  rw [show (fun (x : List Instr × List Instr) => x.1.length + x.2.length + 2) ∘
      (fun (x : List Instr × List Instr) => (shiftJumps k x.1, shiftJumps k x.2)) =
      fun x => x.1.length + x.2.length + 2 from funext fun x => by simp]
  omega

theorem relocates_compileBranches {xs : List Rule} (ih : ∀ x ∈ xs, x.Relocates c facts) :
    ∀ {base k n pairs last n'},
      (compileBranches c facts scope base xs).run n = .ok ((pairs, last), n') →
      (compileBranches c facts scope (base + k) xs).run n =
        .ok ((pairs.map fun (cc, tc) => (shiftJumps k cc, shiftJumps k tc), shiftJumps k last),
          n') := by
  match xs, ih with
  | [], _ =>
    intro base k n pairs last n' h
    rw [compileBranches] at h
    cases h
    rfl
  | [x], ih =>
    intro base k n pairs last n' h
    rw [compileBranches] at h ⊢
    obtain ⟨code, n₁, h₁, h⟩ := CompileM.run_bind_ok h
    cases h
    rw [CompileM.run_bind_of_ok _ (ih x (by simp) _ _ k _ _ _ h₁)]
    rfl
  | x :: y :: rest, ih =>
    intro base k n pairs last n' h
    rw [compileBranches] at h ⊢
    obtain ⟨condCode, n₁, h₁, h⟩ := CompileM.run_bind_ok h
    obtain ⟨thenCode, n₂, h₂, h⟩ := CompileM.run_bind_ok h
    obtain ⟨⟨pairs', last'⟩, n₃, h₃, h⟩ := CompileM.run_bind_ok h
    cases h
    have h₂' := ih y (by simp) _ _ k _ _ _ h₂
    have h₃' := relocates_compileBranches (fun z hz => ih z (by simp [hz])) (k := k) h₃
    rw [show base + (condCode ++ truthyCall facts x).length + 1 + k =
      base + k + (shiftJumps k condCode ++ truthyCall facts x).length + 1 by simp; omega] at h₂'
    rw [show base + (condCode ++ truthyCall facts x).length + thenCode.length + 2 + k =
      base + k + (shiftJumps k condCode ++ truthyCall facts x).length +
        (shiftJumps k thenCode).length + 2 by simp; omega] at h₃'
    rw [CompileM.run_bind_of_ok _ (ih x (by simp) _ _ k _ _ _ h₁)]
    simp only
    rw [CompileM.run_bind_of_ok _ h₂', CompileM.run_bind_of_ok _ h₃']
    simp [shiftJumps_append]
    rfl

theorem shortCode_shiftJumps (isAnd : Bool) (stop : Nat) (last : List Instr) :
    ∀ parts : List (List Instr),
      shortCode isAnd (stop + k) (parts.map (shiftJumps k)) (shiftJumps k last) =
        shiftJumps k (shortCode isAnd stop parts last)
  | [] => rfl
  | p :: parts => by
    rw [List.map_cons, shortCode_cons, shortCode_cons, shortCode_shiftJumps isAnd stop last parts]
    cases isAnd <;> simp [Instr.shiftJumps]

theorem assembleShort_shiftJumps (isAnd : Bool) (parts : List (List Instr)) (last : List Instr) :
    assembleShort isAnd (base + k) (parts.map (shiftJumps k)) (shiftJumps k last) =
      shiftJumps k (assembleShort isAnd base parts last) := by
  rw [assembleShort_eq, assembleShort_eq, ← shortCode_shiftJumps]
  congr 1
  simp only [List.map_map, length_shiftJumps]
  rw [show (fun (p : List Instr) => p.length + 2) ∘ shiftJumps k = fun p => p.length + 2 from
    funext fun p => by simp]
  omega

theorem relocates_compileShort {xs : List Rule} (ih : ∀ x ∈ xs, x.Relocates c facts) :
    ∀ {base k n parts last n'},
      (compileShort c facts scope base xs).run n = .ok ((parts, last), n') →
      (compileShort c facts scope (base + k) xs).run n =
        .ok ((parts.map (shiftJumps k), shiftJumps k last), n') := by
  match xs, ih with
  | [], _ =>
    intro base k n parts last n' h
    rw [compileShort] at h
    cases h
    rfl
  | [x], ih =>
    intro base k n parts last n' h
    rw [compileShort] at h ⊢
    obtain ⟨code, n₁, h₁, h⟩ := CompileM.run_bind_ok h
    cases h
    rw [CompileM.run_bind_of_ok _ (ih x (by simp) _ _ k _ _ _ h₁)]
    rfl
  | x :: y :: rest, ih =>
    intro base k n parts last n' h
    rw [compileShort] at h ⊢
    · obtain ⟨code, n₁, h₁, h⟩ := CompileM.run_bind_ok h
      obtain ⟨⟨parts', last'⟩, n₂, h₂, h⟩ := CompileM.run_bind_ok h
      cases h
      have h₂' := relocates_compileShort (fun z hz => ih z (List.mem_cons_of_mem x hz)) (k := k) h₂
      rw [show base + (code ++ [Instr.dup] ++ truthyCall facts x).length + 2 + k =
        base + k + (shiftJumps k code ++ [Instr.dup] ++ truthyCall facts x).length + 2 by
          simp; omega] at h₂'
      rw [CompileM.run_bind_of_ok _ (ih x (by simp) _ _ k _ _ _ h₁)]
      simp only
      rw [CompileM.run_bind_of_ok _ h₂']
      simp [shiftJumps_append, Instr.shiftJumps]
      rfl
    · exact List.cons_ne_nil y rest
    · exact List.cons_ne_nil y rest

theorem assembleChain_go_shiftJumps {cmp : Instr} (hcmp : cmp.target? = none) (stop : Nat) :
    ∀ (first : Bool) (windows : List (List Instr)),
      assembleChain.go cmp (stop + k) first (windows.map (shiftJumps k)) =
        shiftJumps k (assembleChain.go cmp stop first windows)
  | _, [] => rfl
  | first, w :: rest => by
    have hfix : cmp.shiftJumps k = cmp := by
      cases cmp <;> simp_all [Instr.target?, Instr.shiftJumps]
    rw [List.map_cons, assembleChain.go, assembleChain.go,
      assembleChain_go_shiftJumps hcmp stop false rest]
    cases first <;> simp only [shiftJumps_append, shiftJumps_cons, shiftJumps_nil, hfix] <;>
      simp [Instr.shiftJumps]

theorem assembleChain_shiftJumps {cmp : Instr} (hcmp : cmp.target? = none)
    (windows : List (List Instr)) :
    assembleChain cmp (base + k) (windows.map (shiftJumps k)) =
      shiftJumps k (assembleChain cmp base windows) := by
  unfold assembleChain
  rw [← assembleChain_go_shiftJumps hcmp]
  refine congrArg (fun stop => assembleChain.go cmp stop true (windows.map (shiftJumps k))) ?_
  simp only [List.map_map, List.length_map]
  rw [show (fun (w : List Instr) => w.length + 1) ∘ shiftJumps k = fun w => w.length + 1 from
    funext fun w => by simp]
  omega

theorem relocates_compileWindows {xs : List Rule} (ih : ∀ x ∈ xs, x.Relocates c facts)
    {windows : List (List Instr)}
    (hc : (compileWindows c facts scope base xs).run n = .ok (windows, n')) :
    (compileWindows c facts scope (base + k) xs).run n = .ok (windows.map (shiftJumps k), n') := by
  match xs, ih with
  | [a, b], ih =>
    rw [compileWindows] at hc ⊢
    obtain ⟨code₁, n₁, h₁, hc⟩ := CompileM.run_bind_ok hc
    obtain ⟨code₂, h₂, rfl⟩ := CompileM.run_bind_pure_ok hc
    rw [CompileM.run_bind_of_ok _ (ih a (by simp) _ _ k _ _ _ h₁),
      CompileM.run_bind_of_ok _ ((ih b (by simp)).after h₂)]
    simp
    rfl
  | [a, b, d], ih =>
    rw [compileWindows] at hc ⊢
    obtain ⟨code₁, n₁, h₁, hc⟩ := CompileM.run_bind_ok hc
    obtain ⟨code₂, n₂, h₂, hc⟩ := CompileM.run_bind_ok hc
    obtain ⟨code₃, n₃, h₃, hc⟩ := CompileM.run_bind_ok hc
    obtain ⟨code₄, h₄, rfl⟩ := CompileM.run_bind_pure_ok hc
    have h₃' := ih b (by simp) _ _ k _ _ _ h₃
    have h₄' := ih d (by simp) _ _ k _ _ _ h₄
    rw [show base + code₁.length + code₂.length + 1 + 3 + k = base + k +
      (shiftJumps k code₁).length + (shiftJumps k code₂).length + 1 + 3 by simp; omega] at h₃'
    rw [show base + code₁.length + code₂.length + 1 + 3 + code₃.length + k = base + k +
      (shiftJumps k code₁).length + (shiftJumps k code₂).length + 1 + 3 +
        (shiftJumps k code₃).length by simp; omega] at h₄'
    rw [CompileM.run_bind_of_ok _ (ih a (by simp) _ _ k _ _ _ h₁),
      CompileM.run_bind_of_ok _ ((ih b (by simp)).after h₂), CompileM.run_bind_of_ok _ h₃',
      CompileM.run_bind_of_ok _ h₄']
    simp
    rfl
  | [], _ | [_], _ | _ :: _ :: _ :: _ :: _, _ =>
    simp only [compileWindows] at hc ⊢
    obtain ⟨rfl, rfl⟩ := CompileM.run_pure_ok hc
    rfl

end Chains

section Operations

variable {key : String} {args : List Rule} {br : Bool}

/-- A rule that compiles at one place compiles at every place: compiling fails only with a
defect of the rule, wherever it is placed. -/
theorem compile_ok_of_ok {r : Rule} (hc : (r.compile c facts scope base).run n = .ok (part, n'))
    (base' : Nat) : ∃ part' n'', (r.compile c facts scope base').run n = .ok (part', n'') := by
  have hnone : r.firstDefect c = none := by
    cases hd : r.firstDefect c with
    | none => rfl
    | some e =>
      rw [← Rule.compile_faultsAs r scope base n e, hc] at hd
      cases hd
  rcases h : (r.compile c facts scope base').run n with e | ⟨part', n''⟩
  · rw [Rule.compile_faultsAs r scope base' n e, hnone] at h
    cases h
  · exact ⟨part', n'', rfl⟩

/-- An iteration: its source moves, and its body, a block of its own, stays. -/
theorem relocates_iteration {b : Builtin} {kind : IterKind} (hb : c.builtin? key = some b)
    (hk : b.iterKind? = some kind) (ih : ∀ x ∈ args, x.Relocates c facts)
    (hc : ((operation key args br).compile c facts scope base).run n = .ok (part, n')) :
    ((operation key args br).compile c facts scope (base + k)).run n =
      .ok (shiftJumps k part, n') := by
  obtain ⟨source, body, sourceCode, bodyCode, n₁, rfl, h₁, h₂, rfl⟩ := compile_iteration hb hk hc
  obtain ⟨part', n'', hc'⟩ := compile_ok_of_ok hc (base + k)
  obtain ⟨source', body', sourceCode', bodyCode', n₁', hargs, h₁', h₂', rfl⟩ :=
    compile_iteration hb hk hc'
  obtain ⟨rfl, rfl⟩ : source' = source ∧ body' = body := by simpa using hargs.symm
  rw [ih _ (by simp) _ _ k _ _ _ h₁, Except.ok.injEq, Prod.mk.injEq] at h₁'
  obtain ⟨rfl, rfl⟩ := h₁'
  rw [h₂, Except.ok.injEq, Prod.mk.injEq] at h₂'
  obtain ⟨rfl, rfl⟩ := h₂'
  rw [hc', shiftJumps_append]
  rfl

/-- A reduce: its source and initial value move, and its body stays. -/
theorem relocates_reduce (hb : c.builtin? key = some .reduce) (ih : ∀ x ∈ args, x.Relocates c facts)
    (hc : ((operation key args br).compile c facts scope base).run n = .ok (part, n')) :
    ((operation key args br).compile c facts scope (base + k)).run n =
      .ok (shiftJumps k part, n') := by
  rw [compile.eq_def] at hc ⊢
  simp only [Catalog.lookup_of_builtin? hb, Builtin.arity] at hc ⊢
  obtain ⟨hadm, hc⟩ := CompileM.run_unless_throw_ok hc
  rw [CompileM.run_unless_of_false hadm]
  simp only [Arity.admits, admits_eq_false] at hadm
  obtain ⟨source, body, rest, rfl⟩ := exists_cons_cons_of_two_le hadm.1
  obtain ⟨sourceCode, n₁, h₁, hc⟩ := CompileM.run_bind_ok hc
  rw [CompileM.run_bind_of_ok _ (ih source (by simp) _ _ k _ _ _ h₁)]
  cases rest with
  | nil =>
    simp only [pure_bind] at hc ⊢
    obtain ⟨bodyCode, h₂, rfl⟩ := CompileM.run_bind_pure_ok hc
    rw [CompileM.run_bind_of_ok _ h₂]
    simp [Instr.shiftJumps]
    rfl
  | cons init more =>
    simp only at hc ⊢
    obtain ⟨initCode, n₂, h₂, hc⟩ := CompileM.run_bind_ok hc
    obtain ⟨bodyCode, h₃, rfl⟩ := CompileM.run_bind_pure_ok hc
    rw [CompileM.run_bind_of_ok _ ((ih init (by simp)).after h₂), CompileM.run_bind_of_ok _ h₃]
    simp [Instr.shiftJumps]
    rfl

/-- A builtin operation moves as a whole when its operands do: each builtin by its own
scheme. -/
theorem relocates_builtin {op : Builtin} (hl : c.lookup key = some (.builtin op))
    (ih : ∀ x ∈ args, x.Relocates c facts) : (operation key args br).Relocates c facts := by
  intro scope base k n part n' hc
  have hb : c.builtin? key = some op := by simp [Catalog.builtin?, hl]
  cases op
  case map | filter | allOf | noneOf | someOf => exact relocates_iteration hb rfl ih hc
  case reduce => exact relocates_reduce hb ih hc
  case missing =>
    obtain ⟨code, h₁, rfl⟩ := compile_missing_ok hl hc
    have h₁' := relocates_compileSeq ih (k := k) h₁
    rw [Nat.add_right_comm] at h₁'
    rw [compile_missing hl, CompileM.run_bind_of_ok _ h₁']
    simp [Instr.shiftJumps]
    rfl
  case not =>
    obtain ⟨x, code, rfl, h₁, rfl⟩ := compile_not_ok hl hc
    rw [compile_not hl, CompileM.run_bind_of_ok _ (ih x (by simp) _ _ k _ _ _ h₁)]
    simp [Instr.shiftJumps]
    rfl
  case notNot =>
    obtain ⟨x, code, rfl, h₁, rfl⟩ := compile_notNot_ok hl hc
    rw [compile_notNot hl, CompileM.run_bind_of_ok _ (ih x (by simp) _ _ k _ _ _ h₁)]
    split <;> simp [Instr.shiftJumps] <;> rfl
  case mul =>
    rcases compile_mul_ok hl hc with ⟨x, code, rfl, h₁, rfl⟩ | ⟨h2, hc⟩
    · rw [compile_mul_single hl, CompileM.run_bind_of_ok _ (ih x (by simp) _ _ k _ _ _ h₁)]
      simp
      rfl
    · rw [compile_mul_product hl h2]
      exact relocates_compileProduct ih hc
  case member =>
    obtain ⟨x, y, code₁, code₂, n₁, rfl, h₁, h₂, rfl⟩ := compile_member_ok hl hc
    rw [compile_member hl, CompileM.run_bind_of_ok _ (ih x (by simp) _ _ k _ _ _ h₁),
      CompileM.run_bind_of_ok _ ((ih y (by simp)).after h₂)]
    simp [Instr.shiftJumps]
    rfl
  all_goals
    rw [compile.eq_def] at hc ⊢
    simp only [hl, Builtin.arity, Builtin.exactly] at hc ⊢
  case var => exact relocates_compileVar ih hc
  case missingSome => exact relocates_compileMissingSome ih hc
  case cond =>
    split
    · rename_i hlt
      rw [if_pos hlt] at hc
      obtain ⟨rfl, rfl⟩ := CompileM.run_pure_ok hc
      rfl
    · rename_i hlt
      rw [if_neg hlt] at hc
      obtain ⟨⟨pairs, last⟩, h₁, rfl⟩ := CompileM.run_bind_pure_ok hc
      rw [CompileM.run_bind_of_ok _ (relocates_compileBranches ih (k := k) h₁),
        assembleIf_shiftJumps]
      rfl
  case eq | strictEq | ne | strictNe | div | mod | substr | log =>
    obtain ⟨hadm, hc⟩ := CompileM.run_unless_throw_ok hc
    rw [CompileM.run_unless_of_false hadm]
    exact relocates_seqThen ih (by simp [Instr.target?]) hc
  case sub =>
    obtain ⟨hadm, hc⟩ := CompileM.run_unless_throw_ok hc
    rw [CompileM.run_unless_of_false hadm]
    exact relocates_seqThen ih (fun i hi => by split at hi <;> simp_all [Instr.target?]) hc
  case max | min => exact relocates_seqThen ih (by simp [Instr.target?]) hc
  case and | or =>
    split
    · rename_i hnil
      rw [if_pos hnil] at hc
      obtain ⟨rfl, rfl⟩ := CompileM.run_pure_ok hc
      rfl
    · rename_i hnil
      rw [if_neg hnil] at hc
      obtain ⟨⟨parts, last⟩, h₁, rfl⟩ := CompileM.run_bind_pure_ok hc
      rw [CompileM.run_bind_of_ok _ (relocates_compileShort ih (k := k) h₁),
        assembleShort_shiftJumps]
      rfl
  case gt | gte | lt | lte =>
    obtain ⟨hadm, hc⟩ := CompileM.run_unless_throw_ok hc
    rw [CompileM.run_unless_of_false hadm]
    obtain ⟨windows, h₁, rfl⟩ := CompileM.run_bind_pure_ok hc
    rw [CompileM.run_bind_of_ok _ (relocates_compileWindows ih (k := k) h₁),
      assembleChain_shiftJumps rfl]
    rfl
  case add =>
    obtain ⟨hadm, hc⟩ := CompileM.run_unless_throw_ok hc
    rw [CompileM.run_unless_of_false hadm]
    exact relocates_compileSum ih hc
  case merge =>
    rcases hk : constantItems args with _ | vs
    · simp only [hk] at hc ⊢
      obtain ⟨code, n₁, h₁, hc⟩ := CompileM.run_bind_ok hc
      rw [CompileM.run_bind_of_ok _ (relocates_compileSeq ih (k := k) h₁)]
      by_cases harr : args.all facts.isArray = true
      all_goals
        simp only [harr, ↓reduceIte, Bool.false_eq_true] at hc ⊢
        obtain ⟨rfl, rfl⟩ := CompileM.run_pure_ok hc
        simp [Instr.shiftJumps]
        rfl
    · simp only [hk] at hc ⊢
      obtain ⟨rfl, rfl⟩ := CompileM.run_pure_ok hc
      rfl
  case cat =>
    split
    · rename_i hnil
      rw [if_pos hnil] at hc
      obtain ⟨rfl, rfl⟩ := CompileM.run_pure_ok hc
      rfl
    · rename_i hnil
      rw [if_neg hnil] at hc
      -- one operand is turned into text, several are joined; neither has a jump
      split
      · rename_i hone
        rw [if_pos hone] at hc
        exact relocates_seqThen ih (by simp [Instr.target?]) hc
      · rename_i hone
        rw [if_neg hone] at hc
        exact relocates_seqThen ih (by simp [Instr.target?]) hc

/-- An extension operation: its key named, its operands, then the call of its slot. -/
theorem relocates_extension {op : Operation} (hl : c.lookup key = some (.extension op))
    (ih : ∀ x ∈ args, x.Relocates c facts) : (operation key args br).Relocates c facts := by
  intro scope base k n part n' hc
  rw [compile_extension hl] at hc ⊢
  obtain ⟨bnd, n₁, h₀, hc⟩ := CompileM.run_bind_ok hc
  rw [CompileM.run_bind_of_ok _ h₀]
  exact relocates_seqThen ih (by simp [Instr.target?]) hc

end Operations

/-- Every compilation of every rule, placed `k` positions further down, gives the same code
with its jump targets moved by `k`, from the same names to the same names. -/
theorem compile_relocates (r : Rule) : r.Relocates c facts := by
  induction r using Rule.induction with
  | literal v =>
    intro scope base k n part n' hc
    obtain ⟨rfl, rfl⟩ := CompileM.run_pure_ok hc
    rfl
  | list items ih =>
    intro scope base k n part n' hc
    rw [compile] at hc ⊢
    split at hc
    · obtain ⟨rfl, rfl⟩ := CompileM.run_pure_ok hc
      rfl
    · exact relocates_seqThen ih (by simp [Instr.target?]) hc
  | operation key args br ih =>
    rcases hl : c.lookup key with _ | entry
    · intro scope base k n part n' hc
      exact absurd hc (compile_unknown_ok hl)
    · cases entry with
      | builtin op => exact relocates_builtin hl ih
      | extension op => exact relocates_extension hl ih

end Rule

/-! ## Running a placed block -/

/-- A block whose jumps go forward and end within it, at most at its end. -/
def Closed (part : List Instr) : Prop :=
  ∀ pc i t, part[pc]? = some i → i.target? = some t → pc < t ∧ t ≤ part.length

/-- An instruction that goes on by itself has no target to move. -/
theorem Instr.shiftJumps_of_flows {i : Instr} (h : i.flows = true) (d : Nat) :
    i.shiftJumps d = i := by
  cases i <;> simp_all [Instr.flows, Instr.shiftJumps]

/-- Code compiled from position 0 is closed: its jumps go forward within it. -/
theorem Rule.closed_of_compile {c : Catalog} {facts : Analysis} {r : Rule} {scope : Scope}
    {n n' : Naming} {part : List Instr} (hc : (r.compile c facts scope 0).run n = .ok (part, n')) :
    Closed part := by
  intro pc i t hi ht
  have h := ((Rule.compile_emits r scope 0 n part n' hc).emits pc i hi).target ht
  simpa using h

namespace Machine

open Machine

variable {L : Linked} {root : Value} {code part : List Instr} {b : Nat}

/-- A closed block placed at `b` of a larger block, with its targets moved by `b`, runs from
each of its positions as the block alone does, and then goes on from its end. -/
theorem runBlock_embed (hp : Closed part) (hcode : CodeAt code b (shiftJumps b part)) :
    ∀ i ≤ part.length, runBlock L root code (b + i) =
      runBlock L root part i >>= fun _ => runBlock L root code (b + part.length) := by
  intro i hi
  -- induction on how far the position is from the end; every jump goes forward
  induction hm : part.length - i using Nat.strong_induction_on generalizing i with
  | _ m ih =>
  have next : ∀ j, i < j → j ≤ part.length → runBlock L root code (b + j) =
      runBlock L root part j >>= fun _ => runBlock L root code (b + part.length) :=
    fun j hij hj => ih (part.length - j) (by omega) j hj rfl
  by_cases hlt : i < part.length
  · obtain ⟨ins, hins⟩ : ∃ ins, part[i]? = some ins := ⟨_, List.getElem?_eq_getElem hlt⟩
    have hat : code[b + i]? = some (ins.shiftJumps b) := by
      obtain ⟨_, hget⟩ := List.getElem?_eq_some_iff.1 hins
      have := hcode i (by simpa using hlt)
      simpa [shiftJumps, hget] using this
    have hstep := next (i + 1) (by omega) (by omega)
    rw [← Nat.add_assoc] at hstep
    by_cases hf : ins.flows = true
    · -- an instruction that goes on by itself, the same in both blocks
      rw [Instr.shiftJumps_of_flows hf] at hat
      rw [runBlock_flows hat hf, runBlock_flows hins hf, bind_assoc, hstep]
    · cases ins
      case jump t =>
        obtain ⟨hit, htl⟩ := hp i _ t hins rfl
        rw [runBlock_jump hat, runBlock_jump hins, if_pos (by omega), if_pos hit, Nat.add_comm t b,
          next t hit htl]
      case jumpIfFalse t =>
        obtain ⟨hit, htl⟩ := hp i _ t hins rfl
        rw [runBlock_jumpIfFalse hat, runBlock_jumpIfFalse hins, bind_assoc]
        refine congrArg (pop >>= ·) (funext fun v => ?_)
        split
        · rw [if_pos (by omega), Nat.add_comm t b, next t hit htl]
        · rw [hstep]
      case jumpIfTrue t =>
        obtain ⟨hit, htl⟩ := hp i _ t hins rfl
        rw [runBlock_jumpIfTrue hat, runBlock_jumpIfTrue hins, bind_assoc]
        refine congrArg (pop >>= ·) (funext fun v => ?_)
        split
        · rw [if_pos (by omega), Nat.add_comm t b, next t hit htl]
        · rw [hstep]
      case jumpIfPresent t =>
        obtain ⟨hit, htl⟩ := hp i _ t hins rfl
        rw [runBlock_jumpIfPresent hat, runBlock_jumpIfPresent hins, bind_assoc]
        refine congrArg (peek >>= ·) (funext fun v => ?_)
        split
        · rw [if_pos (by omega), Nat.add_comm t b, next t hit htl]
        · rw [bind_assoc, hstep]
      case iterate kind body guarded =>
        rw [runBlock_iterate hat, runBlock_iterate hins]
        simp only [bind_assoc, hstep]
      case reduce body guarded seeded withData =>
        rw [runBlock_reduce hat, runBlock_reduce hins]
        simp only [bind_assoc, hstep]
      all_goals simp [Instr.flows] at hf
  · have hend : i = part.length := by omega
    subst hend
    rw [runBlock_of_length_le (le_refl _), pure_bind]

/-- A closed block that runs on its own as `m` runs as `m` wherever it is placed, its targets
moved with it. -/
theorem Runs.embed {scope : Scope} {m : Value → EvalM Value} (hp : Closed part)
    (hcode : CodeAt code b (shiftJumps b part)) (h : Runs L root scope part 0 part.length m) :
    Runs L root scope code b (b + part.length) m := by
  intro st
  have g := h st
  have hrun : runBlock L root code (b + 0) = runBlock L root part 0 >>= fun _ =>
      runBlock L root code (b + part.length) := runBlock_embed hp hcode 0 (Nat.zero_le _)
  rw [Nat.add_zero] at hrun
  revert g
  generalize evalRun (m (scope.read root st.frames)) st.log = o
  rcases o with ⟨err | v, log⟩
  · cases err with
    | defect _ => exact False.elim
    | run err =>
      rintro ⟨st', hst, hlog⟩
      exact ⟨st', by rw [hrun, exec_bind_of_error _ hst], hlog⟩
  · intro g
    simp only [Goes] at g ⊢
    rw [runBlock_of_length_le (le_refl _)] at g
    rw [hrun, exec_bind_of_ok _ g]

end Machine

end RuleMachine
