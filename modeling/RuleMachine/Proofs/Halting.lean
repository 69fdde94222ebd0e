import RuleMachine.Run.Execute
import RuleMachine.Proofs.Shape

/-!
# The machine's loop halts on compiled code

The loop (`Machine.execute`) sets `pc` to a jump's target wherever it is, so on a block that
jumps back it never finishes (`execute_jump_self`). On a block whose jumps all go forward, at
every depth (`JumpsForward`), a clock of one tick per instruction of each block on the way down
(`blockClock`) lets it finish, doing what `Machine.runBlock` does (`finishes_execute`). Compiled
programs are such blocks, so their runs halt with the outcome of `Linked.evaluate`.
-/

namespace RuleMachine

open Machine

/-! ## Clocked runs that finish -/

/-- A clocked run finishes, doing what a run of the machine does. -/
def Finishes (x : ClockedM α) (m : RunM α) : Prop := x.run = some <$> m

namespace Finishes

variable {x : ClockedM α} {m : RunM α}

/-- Returning at once finishes as returning at once. -/
theorem pure (a : α) : Finishes (Pure.pure a : ClockedM α) (Pure.pure a) := by
  simp [Finishes]

/-- A machine step lifted into the loop finishes as that step. -/
theorem lift (m : RunM α) : Finishes (liftM m : ClockedM α) m := by
  simp [Finishes, liftM, monadLift, MonadLift.monadLift]

/-- A run error finishes as the same error. -/
theorem throw (e : RunError) : Finishes (throwThe RunError e : ClockedM α) (MonadExcept.throw e) :=
  rfl

/-- A sequence of finishing parts finishes as the sequence of what they do. -/
theorem bind {f : α → ClockedM β} {g : α → RunM β} (hx : Finishes x m)
    (hf : ∀ a, Finishes (f a) (g a)) : Finishes (x >>= f) (m >>= g) := by
  unfold Finishes at hx hf ⊢
  simp [OptionT.run_bind, hx, Option.elimM, hf]

/-- Mapping keeps a run finishing. -/
theorem map (f : α → β) (hx : Finishes x m) : Finishes (f <$> x) (f <$> m) := by
  rw [map_eq_pure_bind, map_eq_pure_bind]
  exact hx.bind fun a => pure (f a)

/-- Branches that each finish finish as the branch taken. -/
theorem ite {p : Prop} [Decidable p] {x₂ : ClockedM α} {m₂ : RunM α} (h₁ : p → Finishes x m)
    (h₂ : ¬p → Finishes x₂ m₂) : Finishes (if p then x else x₂) (if p then m else m₂) := by
  by_cases hp : p
  · rw [if_pos hp, if_pos hp]
    exact h₁ hp
  · rw [if_neg hp, if_neg hp]
    exact h₂ hp

end Finishes

/-! ## Bodies and the items they run over -/

/-- A body run by the loop with the clock left. -/
def clockedBody (L : Linked) (root : Value) (clock : Nat) (body : List Instr) (binding : Value) :
    ClockedM Value := do
  enter binding
  execute L root clock body 0
  let v ← pop
  leave
  pure v

section Items

variable {L : Linked} {root : Value} {body : List Instr} {run : Value → ClockedM Value}

/-- A body whose block finishes runs as `runBody`, with its frame entered and left. -/
theorem Finishes.clockedBody {clock : Nat}
    (h : Finishes (execute L root clock body 0) (runBlock L root body 0)) (binding : Value) :
    Finishes (clockedBody L root clock body binding) (runBody L root body binding) := by
  rw [runBody]
  exact (Finishes.lift _).bind fun _ => h.bind fun _ => (Finishes.lift _).bind fun v =>
    (Finishes.lift _).bind fun _ => Finishes.pure v

variable (h : ∀ v, Finishes (run v) (runBody L root body v))
include h

/-- `map` with finishing bodies finishes as `mapItems`. -/
theorem Finishes.mapM (items : List Value) :
    Finishes (items.mapM run) (mapItems L root body items) := by
  induction items with
  | nil =>
    rw [mapItems]
    exact Finishes.pure _
  | cons x rest ih =>
    rw [mapItems, List.mapM_cons]
    exact (h x).bind fun v => ih.bind fun vs => Finishes.pure _

/-- `filter` with finishing bodies finishes as `filterItems`. -/
theorem Finishes.filterM (items : List Value) :
    Finishes (items.filterM fun x => Value.jsTruthy <$> run x) (filterItems L root body items) := by
  induction items with
  | nil =>
    rw [filterItems]
    exact Finishes.pure _
  | cons x rest ih =>
    rw [filterItems, filterM_cons_eq, map_eq_pure_bind, bind_assoc]
    exact (h x).bind fun v => (Finishes.pure _).bind fun _ => ih.bind fun vs => Finishes.pure _

/-- `all` with finishing bodies finishes as `allItems`. -/
theorem Finishes.allM (items : List Value) :
    Finishes (items.allM fun x => Value.jsTruthy <$> run x) (allItems L root body items) := by
  induction items with
  | nil =>
    rw [allItems]
    exact Finishes.pure _
  | cons x rest ih =>
    rw [allItems, List.allM, map_eq_pure_bind, bind_assoc]
    refine (h x).bind fun v => ?_
    rw [pure_bind]
    cases v.jsTruthy
    · exact Finishes.pure _
    · exact ih

/-- `some` and `none` with finishing bodies finish as `anyItem`. -/
theorem Finishes.anyM (items : List Value) :
    Finishes (items.anyM fun x => Value.jsTruthy <$> run x) (anyItem L root body items) := by
  induction items with
  | nil =>
    rw [anyItem]
    exact Finishes.pure _
  | cons x rest ih =>
    rw [anyItem, List.anyM, map_eq_pure_bind, bind_assoc]
    refine (h x).bind fun v => ?_
    rw [pure_bind]
    cases v.jsTruthy
    · exact ih
    · exact Finishes.pure _

/-- The fold of a reduce: the items numbered from `start`, each run in its context. -/
theorem Finishes.foldlM (data : Option Value) (rest : List Value) (acc : Value) (start : Nat) :
    Finishes ((rest.zipIdx start).foldlM
        (fun acc p => run (Value.reduceContext acc p.1 p.2 data)) acc)
      (reduceItems L root body data rest acc start) := by
  induction rest generalizing acc start with
  | nil =>
    rw [reduceItems]
    exact Finishes.pure _
  | cons x rest ih =>
    rw [reduceItems, List.zipIdx_cons, List.foldlM_cons]
    exact (h _).bind fun acc => ih acc (start + 1)

/-- An iteration with finishing bodies finishes as `iterateResult`. -/
theorem Finishes.iterateWith (kind : IterKind) (guarded : Bool) (x : Value) :
    Finishes (Machine.iterateWith run kind guarded x)
      (iterateResult L root kind body guarded x) := by
  cases x
  case array items =>
    cases kind
    case map => exact (Finishes.mapM h items).bind fun _ => Finishes.pure _
    case filter => exact (Finishes.filterM h items).bind fun _ => Finishes.pure _
    case all =>
      exact Finishes.ite (fun _ => Finishes.pure _) fun _ =>
        (Finishes.allM h items).bind fun _ => Finishes.pure _
    case some => exact (Finishes.anyM h items).bind fun _ => Finishes.pure _
    case none => exact (Finishes.anyM h items).bind fun _ => Finishes.pure _
  -- a value that is not an array: the fallback, or the failure
  all_goals exact Finishes.ite (fun _ => Finishes.pure _) fun _ => Finishes.throw _

/-- A reduce with finishing bodies finishes as `reduceResult`. -/
theorem Finishes.reduceWith (guarded withData : Bool) (initial : Option Value) (x : Value) :
    Finishes (Machine.reduceWith run guarded withData initial x)
      (reduceResult L root body guarded withData initial x) := by
  cases x
  case array items =>
    rcases initial with _ | acc
    · cases items with
      | nil => exact Finishes.throw _
      | cons first rest => exact Finishes.foldlM h _ rest first 1
    · exact Finishes.foldlM h _ items acc 0
  all_goals exact Finishes.ite (fun _ => Finishes.pure _) fun _ => Finishes.throw _

end Items

/-! ## A step of the loop -/

section Steps

variable {L : Linked} {root : Value} {clock : Nat} {code : List Instr} {pc : Nat}

/-- With a tick left, the loop ends at the end of its block. -/
theorem execute_of_length_le (h : code.length ≤ pc) :
    execute L root (clock + 1) code pc = pure () := by
  rw [execute, List.getElem?_eq_none h]

/-- An instruction that flows on runs and the loop goes on at the next one, a tick spent. -/
theorem execute_flows {i : Instr} (h : code[pc]? = some i) (hi : i.flows) :
    execute L root (clock + 1) code pc =
      (do simple L root i; execute L root clock code (pc + 1)) := by
  rw [execute, h]
  cases i <;> simp_all [Instr.flows]

/-- A jump sets `pc` to its target, forward or not, a tick spent. -/
theorem execute_jump {t : Nat} (h : code[pc]? = some (.jump t)) :
    execute L root (clock + 1) code pc = execute L root clock code t := by
  rw [execute, h]

/-- `jump_if_false` pops the test and goes to its target on a false value. -/
theorem execute_jumpIfFalse {t : Nat} (h : code[pc]? = some (.jumpIfFalse t)) :
    execute L root (clock + 1) code pc = (do
      if !(← pop).jsTruthy then execute L root clock code t
      else execute L root clock code (pc + 1)) := by
  rw [execute, h]

/-- `jump_if_true` pops the test and goes to its target on a true value. -/
theorem execute_jumpIfTrue {t : Nat} (h : code[pc]? = some (.jumpIfTrue t)) :
    execute L root (clock + 1) code pc = (do
      if (← pop).jsTruthy then execute L root clock code t
      else execute L root clock code (pc + 1)) := by
  rw [execute, h]

/-- `jump_if_present` keeps a present value and goes to its target, or pops the null and goes on. -/
theorem execute_jumpIfPresent {t : Nat} (h : code[pc]? = some (.jumpIfPresent t)) :
    execute L root (clock + 1) code pc = (do
      if !(← peek).isNull then execute L root clock code t
      else
        let _ ← pop
        execute L root clock code (pc + 1)) := by
  rw [execute, h]

/-- An iteration runs its bodies with the clock left and pushes the result. -/
theorem execute_iterate {kind : IterKind} {body : List Instr} {guarded : Bool}
    (h : code[pc]? = some (.iterate kind body guarded)) :
    execute L root (clock + 1) code pc = (do
      push (← iterateWith (clockedBody L root clock body) kind guarded (← pop))
      execute L root clock code (pc + 1)) := by
  rw [execute, h]
  rfl

/-- A reduce pops its initial value when seeded, folds its bodies with the clock left and pushes
the result. -/
theorem execute_reduce {body : List Instr} {guarded seeded withData : Bool}
    (h : code[pc]? = some (.reduce body guarded seeded withData)) :
    execute L root (clock + 1) code pc =
      (if seeded then (some <$> pop) else pure none : ClockedM (Option Value)) >>= fun initial =>
        (do
          push (← reduceWith (clockedBody L root clock body) guarded withData initial (← pop))
          execute L root clock code (pc + 1)) := by
  rw [execute, h]
  -- the join point after the seed is opened for each value of the flag
  cases seeded <;> rfl

/-- A jump to its own position never finishes: the loop spends its whole clock on it. -/
theorem execute_jump_self (h : code[pc]? = some (.jump pc)) :
    (execute L root clock code pc).run = Pure.pure none := by
  induction clock with
  | zero => rfl
  | succ clock ih => rw [execute_jump h, ih]

end Steps

/-! ## The clock of a block -/

mutual

/-- The clock the body of an instruction needs: its block's clock. -/
def Instr.clock : Instr → Nat
  | .iterate _ body _ => body.length + 1 + bodiesClock body
  | .reduce body _ _ _ => body.length + 1 + bodiesClock body
  | _ => 0

/-- The clock the most demanding body of a block needs. -/
def bodiesClock : List Instr → Nat
  | [] => 0
  | i :: rest => max i.clock (bodiesClock rest)

end

/-- The clock that lets the loop run a block whose jumps go forward: a tick for each of its
instructions and one for its end, above the clock of any of its bodies. -/
def blockClock (code : List Instr) : Nat := code.length + 1 + bodiesClock code

/-- No body of a block needs more clock than the block's most demanding one. -/
theorem clock_le_bodiesClock {code : List Instr} {pc : Nat} {i : Instr} (h : code[pc]? = some i) :
    i.clock ≤ bodiesClock code := by
  induction code generalizing pc with
  | nil => simp at h
  | cons j rest ih =>
    rw [bodiesClock]
    cases pc with
    | zero =>
      obtain rfl : j = i := by simpa using h
      exact le_max_left _ _
    | succ pc => exact (ih (by simpa using h)).trans (le_max_right _ _)

/-! ## Forward blocks finish -/

/-- A jump of a block whose jumps go forward goes forward within it. -/
theorem JumpsForward.target {code : List Instr} (h : JumpsForward code) {pc t : Nat} {i : Instr}
    (hi : code[pc]? = some i) (ht : i.target? = some t) : pc < t ∧ t ≤ code.length :=
  h code (List.mem_cons_self ..) pc i t hi ht

/-- The body of an instruction of a forward block is a forward block. -/
theorem JumpsForward.body {code body : List Instr} (h : JumpsForward code) {pc : Nat} {i : Instr}
    (hi : code[pc]? = some i) (hb : i.nested = body :: innerBlocks body) : JumpsForward body := by
  intro B hB
  exact h B (List.mem_cons_of_mem _ (mem_innerBlocks.2 ⟨i, List.mem_of_getElem? hi, hb ▸ hB⟩))

variable {L : Linked} {root : Value}

/-- The loop runs a forward block from `pc` as `runBlock` does, once its clock covers the rest
of the block: a tick for each instruction left and one for the end, above the clock of any
body. -/
theorem finishes_execute {clock : Nat} :
    ∀ {code : List Instr} {pc : Nat}, JumpsForward code → pc ≤ code.length →
      blockClock code ≤ clock + pc →
      Finishes (execute L root clock code pc) (runBlock L root code pc) := by
  -- the clock counts down one step at a time, bodies included, so the induction is on it
  induction clock with
  | zero =>
    intro code pc _ hpc hclock
    simp only [blockClock] at hclock
    omega
  | succ clock ih =>
    intro code pc hj hpc hclock
    rcases hi : code[pc]? with _ | i
    · have hlen : code.length ≤ pc := List.getElem?_eq_none_iff.1 hi
      rw [execute_of_length_le hlen, runBlock_of_length_le hlen]
      exact Finishes.pure ()
    have hlt : pc < code.length := (List.getElem?_eq_some_iff.1 hi).1
    have hnext : ∀ pc', pc < pc' → pc' ≤ code.length → blockClock code ≤ clock + pc' := by
      intro pc' h₁ _
      omega
    have hstep : Finishes (execute L root clock code (pc + 1)) (runBlock L root code (pc + 1)) :=
      ih hj hlt (hnext _ (by omega) hlt)
    have htaken : ∀ t, i.target? = some t →
        Finishes (execute L root clock code t)
          (if pc < t then runBlock L root code t else pure ()) := by
      intro t ht
      obtain ⟨hpt, htl⟩ := hj.target hi ht
      rw [if_pos hpt]
      exact ih hj htl (hnext t hpt htl)
    have hbody : ∀ body, i.nested = body :: innerBlocks body → i.clock = blockClock body →
        Finishes (execute L root clock body 0) (runBlock L root body 0) := by
      intro body hb hc
      have hle := clock_le_bodiesClock hi
      refine ih (hj.body hi hb) (Nat.zero_le _) ?_
      simp only [blockClock] at hclock hc ⊢
      omega
    by_cases hf : i.flows
    · rw [execute_flows hi hf, runBlock_flows hi hf]
      exact (Finishes.lift _).bind fun _ => hstep
    cases i <;> simp [Instr.flows] at hf
    case jump t =>
      rw [execute_jump hi, runBlock_jump hi]
      exact htaken t rfl
    case jumpIfFalse t =>
      rw [execute_jumpIfFalse hi, runBlock_jumpIfFalse hi]
      exact (Finishes.lift _).bind fun _ => Finishes.ite (fun _ => htaken t rfl) fun _ => hstep
    case jumpIfTrue t =>
      rw [execute_jumpIfTrue hi, runBlock_jumpIfTrue hi]
      exact (Finishes.lift _).bind fun _ => Finishes.ite (fun _ => htaken t rfl) fun _ => hstep
    case jumpIfPresent t =>
      rw [execute_jumpIfPresent hi, runBlock_jumpIfPresent hi]
      exact (Finishes.lift _).bind fun _ => Finishes.ite (fun _ => htaken t rfl) fun _ =>
        (Finishes.lift _).bind fun _ => hstep
    case iterate kind body guarded =>
      have hb := hbody body rfl rfl
      rw [execute_iterate hi, runBlock_iterate hi]
      exact (Finishes.lift _).bind fun x =>
        (Finishes.iterateWith (Finishes.clockedBody hb) kind guarded x).bind fun _ =>
          (Finishes.lift _).bind fun _ => hstep
    case reduce body guarded seeded withData =>
      have hb := hbody body rfl rfl
      rw [execute_reduce hi, runBlock_reduce hi]
      refine (Finishes.ite (p := seeded = true) (fun _ => Finishes.map some (Finishes.lift _))
        fun _ => Finishes.pure none).bind fun initial => ?_
      exact (Finishes.lift _).bind fun x =>
        (Finishes.reduceWith (Finishes.clockedBody hb) guarded withData initial x).bind fun _ =>
          (Finishes.lift _).bind fun _ => hstep

/-- Running a program with the loop and a clock that covers its code gives what evaluating it
gives: the same value or error and the same events. -/
theorem Linked.execute_eq_evaluate (hj : JumpsForward L.code) {clock : Nat}
    (hclock : blockClock L.code ≤ clock) (record : Value) :
    L.execute clock record = some (L.evaluate record) := by
  have h : Finishes (do Machine.execute L record clock L.code 0; pop)
      (do runBlock L record L.code 0; pop) :=
    (finishes_execute hj (Nat.zero_le _) (by simpa using hclock)).bind fun _ => Finishes.lift _
  unfold Linked.execute Linked.evaluate
  dsimp only
  rw [h, ExceptT.run_map, StateT.run_map]
  rcases (runBlock L record L.code 0 >>= fun _ => pop).run.run {} with ⟨_ | v, st⟩ <;> rfl

namespace Program

variable {c : Catalog} {facts : Analysis} {r : Rule} {p : Program}

/-- Every jump of a compiled program, in its top-level code and in every body at any depth, goes
forward within its own block, so the machine's loop halts on it on every record once its clock
covers the code, with the value or error and the events of evaluating it. -/
theorem ofRuleWith_halts (h : ofRuleWith c facts r = .ok p) :
    JumpsForward p.code ∧ ∀ clock, blockClock p.code ≤ clock → ∀ record,
      (p.link c).execute clock record = some ((p.link c).evaluate record) := by
  have hj : JumpsForward p.code := jumps_forward h
  exact ⟨hj, fun clock hclock record => Linked.execute_eq_evaluate hj hclock record⟩

/-- A condition inside the body of a `map`: the body is a block of its own, whose jumps go to its
own positions 5 and 6 within its six instructions. -/
theorem ofRuleWith_halts_map_condition :
    ofRule {} (.operation "map" [.operation "var" [.literal (.string "xs")] false,
        .operation "if" [.operation "var" [.literal (.string "")] false, .literal (.int 1),
          .literal (.int 2)] true] true) =
      .ok ⟨[.loadPath .arg ["xs"], .iterate .map [.load .item, .callRoutine .truthy 1,
        .jumpIfFalse 5, .push (.int 1), .jump 6, .push (.int 2)] true], [.truthy], []⟩ ∧
    JumpsForward [.loadPath .arg ["xs"], .iterate .map [.load .item, .callRoutine .truthy 1,
        .jumpIfFalse 5, .push (.int 1), .jump 6, .push (.int 2)] true] ∧
    ∀ clock, blockClock [.loadPath .arg ["xs"], .iterate .map [.load .item,
        .callRoutine .truthy 1, .jumpIfFalse 5, .push (.int 1), .jump 6, .push (.int 2)] true] ≤
          clock → ∀ record,
      (Program.link {} ⟨[.loadPath .arg ["xs"], .iterate .map [.load .item,
        .callRoutine .truthy 1, .jumpIfFalse 5, .push (.int 1), .jump 6, .push (.int 2)] true],
          [.truthy], []⟩).execute clock record =
        some ((Program.link {} ⟨[.loadPath .arg ["xs"], .iterate .map [.load .item,
          .callRoutine .truthy 1, .jumpIfFalse 5, .push (.int 1), .jump 6, .push (.int 2)] true],
            [.truthy], []⟩).evaluate record) := by
  have hp : ofRule {} (.operation "map" [.operation "var" [.literal (.string "xs")] false,
      .operation "if" [.operation "var" [.literal (.string "")] false, .literal (.int 1),
        .literal (.int 2)] true] true) =
      .ok ⟨[.loadPath .arg ["xs"], .iterate .map [.load .item, .callRoutine .truthy 1,
        .jumpIfFalse 5, .push (.int 1), .jump 6, .push (.int 2)] true], [.truthy], []⟩ := by
    cbv
  exact ⟨hp, ofRuleWith_halts hp⟩

end Program

end RuleMachine
