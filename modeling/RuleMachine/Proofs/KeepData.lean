import RuleMachine.Proofs.Shape

/-!
# Reduce contexts without their data

A reduce instruction says whether the context objects of its steps hold the source array as
`data`; the compiler asks for it only where the body's code reads `data` at its own level
(`readsData`). Leaving it out is unobservable: a compiled program answers on every record as
the same program with every reduce, at any depth, keeping the data (`Instr.keepDataBlock`) —
the same value or failure, and the same values logged (`Program.evaluate_keepData`).

The two programs run in lockstep. Their states differ only in their frames, where a reduce
context of the compiled program may lack the `data` of the other's (`MachineState.Alike`).
Instructions other than loads never look at the frames (`FrameFree`), and a load reads the
innermost frame only. That frame differs only inside a reduce body that does not read `data`,
whose loads are all of its own scope along nonempty paths (`Instr.Emitted`), so they find the
same in both contexts.
-/

namespace RuleMachine

open Machine Rule

/-! ## Computations that ignore the frames -/

/-- A computation that neither reads nor changes the frames: run under other frames, it does the
same and keeps them. -/
def FrameFree (m : RunM α) : Prop :=
  ∀ st F, exec m { st with frames := F } = ((exec m st).1, { (exec m st).2 with frames := F })

namespace FrameFree

/-- Returning a value does not look at the frames. -/
theorem pure (a : α) : FrameFree (Pure.pure a : RunM α) := fun _ _ => rfl

/-- Failing does not look at the frames. -/
theorem throw (e : RunError) : FrameFree (MonadExcept.throw e : RunM α) := fun _ _ => rfl

/-- A sequence of steps that do not look at the frames does not either. -/
theorem bind {m : RunM α} {f : α → RunM β} (hm : FrameFree m) (hf : ∀ a, FrameFree (f a)) :
    FrameFree (m >>= f) := by
  intro st F
  rw [exec_bind, exec_bind, hm st F]
  rcases exec m st with ⟨_ | a, st'⟩
  · rfl
  · exact hf a st' F

/-- Reading the state is free of the frames when only the rest of it is used. -/
theorem get_bind {k : MachineState → RunM α} (hk : ∀ s, FrameFree (k s))
    (hs : ∀ s F, k { s with frames := F } = k s) : FrameFree (get >>= k) := by
  intro st F
  have h : ∀ s, exec (get >>= k) s = exec (k s) s := fun _ => rfl
  rw [h, h, hs, hk]

/-- Mapping keeps a step from looking at the frames. -/
theorem map {m : RunM α} (hm : FrameFree m) (f : α → β) : FrameFree (f <$> m) := by
  rw [← bind_pure_comp]
  exact hm.bind fun _ => pure _

/-- A state change that commutes with setting the frames does not look at them. -/
theorem modify {g : MachineState → MachineState}
    (hg : ∀ s F, g { s with frames := F } = { g s with frames := F }) :
    FrameFree (modify g : RunM Unit) := by
  intro st F
  show (Except.ok (), g { st with frames := F }) = (Except.ok (), { g st with frames := F })
  rw [hg]

end FrameFree

/-- Popping does not look at the frames. -/
theorem frameFree_pop : FrameFree pop := by
  intro st F
  rcases st with ⟨_ | ⟨v, rest⟩, frames, log⟩ <;> rfl

/-- Peeking does not look at the frames. -/
theorem frameFree_peek : FrameFree peek := by
  intro st F
  rcases st with ⟨_ | ⟨v, rest⟩, frames, log⟩ <;> rfl

/-- Pushing does not look at the frames. -/
theorem frameFree_push (v : Value) : FrameFree (push v) := fun _ _ => rfl

/-- Popping several values does not look at the frames. -/
theorem frameFree_popN (n : Nat) : FrameFree (popN n) := by
  refine FrameFree.get_bind (fun s => ?_) fun _ _ => rfl
  dsimp only
  split
  · exact FrameFree.throw _
  · exact (FrameFree.modify fun _ _ => rfl).bind fun _ => FrameFree.pure _

/-- A routine call does not look at the frames. -/
theorem frameFree_callRoutine (L : Linked) (r : Routine) (args : List Value) :
    FrameFree (callRoutine L r args) := by
  unfold callRoutine
  dsimp only
  split
  · exact FrameFree.throw _
  · cases r <;> dsimp only
    case missing =>
      split
      · exact FrameFree.pure _
      · exact FrameFree.throw _
    case log => exact (FrameFree.modify fun _ _ => rfl).bind fun _ => FrameFree.pure _
    all_goals exact FrameFree.pure _

/-- Every instruction but the loads ignores the frames. -/
theorem frameFree_simple (L : Linked) (root : Value) {i : Instr} (hl : ∀ s, i ≠ .load s)
    (hp : ∀ s path, i ≠ .loadPath s path) : FrameFree (simple L root i) := by
  cases i
  case push v => exact frameFree_push v
  case pop => exact frameFree_pop.bind fun _ => FrameFree.pure _
  case dup => exact frameFree_peek.bind frameFree_push
  case toNumber | neg | not | toBool | toText => exact frameFree_pop.bind fun _ => frameFree_push _
  case add | sub | mul | div | mod | eq | strictEq | ne | strictNe | gt | gte | lt | lte =>
    exact frameFree_pop.bind fun _ => frameFree_pop.bind fun _ => frameFree_push _
  case makeArray | max | min | concat | join =>
    exact (frameFree_popN _).bind fun _ => frameFree_push _
  case includes =>
    refine frameFree_pop.bind fun _ => frameFree_pop.bind fun _ => ?_
    split
    · exact frameFree_push _
    · exact FrameFree.throw _
  case callRoutine r argc =>
    exact (frameFree_popN _).bind fun _ => (frameFree_callRoutine L r _).bind frameFree_push
  case callOp =>
    refine (frameFree_popN _).bind fun _ => ?_
    split
    · exact FrameFree.throw _
    · refine (FrameFree.modify fun _ _ => rfl).bind fun _ => ?_
      split
      · exact frameFree_push _
      · exact FrameFree.throw _
  case jump | jumpIfFalse | jumpIfTrue | jumpIfPresent | iterate | reduce => exact FrameFree.pure _
  case load s => exact absurd rfl (hl s)
  case loadPath s path => exact absurd rfl (hp s path)

/-! ## Two runs in lockstep -/

/-- Two frames alike but for the `data` of a reduce context, which only the second holds. -/
def Value.SameButData (x y : Value) : Prop :=
  x = y ∨ ∃ acc cur index src,
    x = Value.reduceContext acc cur index none ∧ y = Value.reduceContext acc cur index (some src)

/-- Machine states alike but for the `data` of reduce contexts among their frames. -/
structure MachineState.Alike (st₁ st₂ : MachineState) : Prop where
  stack : st₁.stack = st₂.stack
  log : st₁.log = st₂.log
  frames : List.Forall₂ Value.SameButData st₁.frames st₂.frames

/-- The outcomes of two runs: the same result, alike states, and on success the frames `F₁` and
`F₂`. -/
structure Agree (F₁ F₂ : List Value) (o₁ o₂ : Except RunError α × MachineState) : Prop where
  result : o₁.1 = o₂.1
  alike : o₁.2.Alike o₂.2
  frames : ∀ a, o₁.1 = .ok a → o₁.2.frames = F₁ ∧ o₂.2.frames = F₂

/-- Two computations that, from alike states, agree and keep the frames. -/
def Lockstep (m₁ m₂ : RunM α) : Prop :=
  ∀ st₁ st₂, st₁.Alike st₂ → Agree st₁.frames st₂.frames (exec m₁ st₁) (exec m₂ st₂)

section Agreement

variable {st₁ st₂ : MachineState} {F₁ F₂ G₁ G₂ : List Value}

namespace Agree

/-- Returning at once from alike states agrees, with the frames the states hold. -/
theorem pure (h : st₁.Alike st₂) (h₁ : st₁.frames = F₁) (h₂ : st₂.frames = F₂) (a : α) :
    Agree F₁ F₂ (exec (Pure.pure a : RunM α) st₁) (exec (Pure.pure a) st₂) :=
  ⟨rfl, h, fun _ _ => ⟨h₁, h₂⟩⟩

/-- Agreeing runs compose: the second part starts from the alike states the first ends in. -/
theorem bind {m₁ m₂ : RunM α} {f₁ f₂ : α → RunM β}
    (h : Agree F₁ F₂ (exec m₁ st₁) (exec m₂ st₂))
    (hf : ∀ a (s₁ s₂ : MachineState), s₁.Alike s₂ → s₁.frames = F₁ → s₂.frames = F₂ →
      Agree G₁ G₂ (exec (f₁ a) s₁) (exec (f₂ a) s₂)) :
    Agree G₁ G₂ (exec (m₁ >>= f₁) st₁) (exec (m₂ >>= f₂) st₂) := by
  rw [exec_bind, exec_bind]
  rcases h₁ : exec m₁ st₁ with ⟨r₁, s₁⟩
  rcases h₂ : exec m₂ st₂ with ⟨r₂, s₂⟩
  rw [h₁, h₂] at h
  obtain ⟨hres, halike, hframes⟩ := h
  dsimp only at hres halike hframes
  subst hres
  cases r₁ with
  | error e => exact ⟨rfl, halike, fun _ h => by cases h⟩
  | ok a =>
    obtain ⟨hf₁, hf₂⟩ := hframes a rfl
    exact hf a s₁ s₂ halike hf₁ hf₂

end Agree

namespace Lockstep

/-- Two steps in lockstep agree from alike states, keeping the frames they started with. -/
theorem agree {m₁ m₂ : RunM α} (h : Lockstep m₁ m₂) (hs : st₁.Alike st₂) (h₁ : st₁.frames = F₁)
    (h₂ : st₂.frames = F₂) : Agree F₁ F₂ (exec m₁ st₁) (exec m₂ st₂) :=
  h₁ ▸ h₂ ▸ h st₁ st₂ hs

/-- Returning the same value is in lockstep. -/
theorem pure (a : α) : Lockstep (Pure.pure a : RunM α) (Pure.pure a) :=
  fun _ _ h => Agree.pure h rfl rfl a

/-- Failing with the same error is in lockstep. -/
theorem throw (e : RunError) : Lockstep (MonadExcept.throw e : RunM α) (MonadExcept.throw e) :=
  fun _ _ h => ⟨rfl, h, fun _ h => by cases h⟩

/-- Sequences of steps in lockstep are in lockstep. -/
theorem bind {m₁ m₂ : RunM α} {f₁ f₂ : α → RunM β} (h : Lockstep m₁ m₂)
    (hf : ∀ a, Lockstep (f₁ a) (f₂ a)) : Lockstep (m₁ >>= f₁) (m₂ >>= f₂) :=
  fun _ _ hs => (h _ _ hs).bind fun a _ _ hs' h₁ h₂ => (hf a).agree hs' h₁ h₂

/-- Branches on one condition, each in lockstep, are in lockstep. -/
theorem ite {c : Prop} [Decidable c] {a₁ a₂ b₁ b₂ : RunM α} (ha : c → Lockstep a₁ a₂)
    (hb : ¬c → Lockstep b₁ b₂) : Lockstep (if c then a₁ else b₁) (if c then a₂ else b₂) := by
  split
  · exact ha ‹_›
  · exact hb ‹_›

end Lockstep

/-- A computation that ignores the frames runs alike from alike states. -/
theorem FrameFree.lockstep {m : RunM α} (hm : FrameFree m) : Lockstep m m := by
  intro st₁ st₂ h
  have h₁ := hm st₁ st₁.frames
  have h₂ := hm st₁ st₂.frames
  have e₂ : { st₁ with frames := st₂.frames } = st₂ := by
    obtain ⟨s, f, l⟩ := st₁
    obtain ⟨s', f', l'⟩ := st₂
    obtain ⟨hs, hl, -⟩ := h
    dsimp only at hs hl
    subst hs hl
    rfl
  rw [e₂] at h₂
  rw [h₂]
  refine ⟨rfl, ⟨rfl, rfl, ?_⟩, fun _ _ => ⟨?_, rfl⟩⟩
  · rw [h₁]
    exact h.frames
  · rw [h₁]

end Agreement

/-! ## Loads -/

/-- The data a scope reads under frames with the same innermost frame. -/
theorem Scope.read_eq_of_head {root : Value} (scope : Scope) {f₁ f₂ : List Value}
    (h : f₁.head? = f₂.head?) : scope.read root f₁ = scope.read root f₂ := by
  cases scope <;> cases f₁ <;> cases f₂ <;> simp_all [Scope.read]

/-- A path that does not start at `data` finds the same in frames alike but for their data. -/
theorem lookupPath_read_alike {root : Value} {scope : Scope} {f₁ f₂ : List Value}
    (h : List.Forall₂ Value.SameButData f₁ f₂) {path : List String} (hne : path ≠ [])
    (hd : ∀ rest, path ≠ "data" :: rest) :
    (scope.read root f₁).lookupPath path = (scope.read root f₂).lookupPath path := by
  cases h with
  | nil => rfl
  | cons hxy _ =>
    cases scope
    · rfl
    all_goals
      rcases hxy with rfl | ⟨acc, cur, index, src, rfl, rfl⟩
      · rfl
      · exact lookupPath_reduceContext hne hd acc cur index src

/-- What `load scope` and `load_path` of code that reads the `data` of its context at its own
level find. -/
theorem readsData_of_mem {code : List Instr} (h : Instr.load .context ∈ code ∨
    ∃ rest, Instr.loadPath .context ("data" :: rest) ∈ code) : readsData code = true := by
  simp only [readsData, List.any_eq_true]
  rcases h with h | ⟨rest, h⟩
  · exact ⟨_, h, rfl⟩
  · exact ⟨_, h, rfl⟩

/-- The data that the loads of `code`, compiled for `scope`, read is the same under both frame
stacks: the record, the same innermost frame, or a reduce context whose `data` the code does not
read. -/
def Sees (scope : Scope) (code : List Instr) (F₁ F₂ : List Value) : Prop :=
  scope = .arg ∨ F₁.head? = F₂.head? ∨ (scope = .context ∧ readsData code = false)

section Loads

variable {c : Catalog} {facts : Analysis} {N : Naming} {scope : Scope} {stop pc : Nat}
  {code : List Instr} {L L' : Linked} {root : Value} {st₁ st₂ : MachineState}

/-- `load` pushes the data of its scope. -/
theorem exec_simple_load (s : Scope) (st : MachineState) :
    exec (simple L root (.load s)) st = exec (push (s.read root st.frames)) st := by
  rw [simple, exec_bind, exec_scopeData]

/-- `load_path` pushes the path's lookup in the data of its scope, or null. -/
theorem exec_simple_loadPath (s : Scope) (path : List String) (st : MachineState) :
    exec (simple L root (.loadPath s path)) st =
      exec (push (((s.read root st.frames).lookupPath path).getD .null)) st := by
  rw [simple, exec_bind, exec_scopeData]

/-- A load that compiling emitted reads the same in states that its block sees alike. -/
theorem agree_load {s : Scope} (hmem : Instr.load s ∈ code)
    (he : (Instr.load s).Emitted c facts N scope stop pc) (hst : st₁.Alike st₂)
    (hsees : Sees scope code st₁.frames st₂.frames) :
    Agree st₁.frames st₂.frames (exec (simple L root (.load s)) st₁)
      (exec (simple L' root (.load s)) st₂) := by
  have hs : s = scope := he
  subst hs
  have hread : s.read root st₁.frames = s.read root st₂.frames := by
    rcases hsees with rfl | hhead | ⟨rfl, hread⟩
    · rfl
    · exact s.read_eq_of_head hhead
    · exact absurd (readsData_of_mem (Or.inl hmem)) (by simp [hread])
  rw [exec_simple_load, exec_simple_load, hread]
  exact (frameFree_push _).lockstep st₁ st₂ hst

/-- A load along a literal path that compiling emitted reads the same in states that its block
sees alike. -/
theorem agree_loadPath {s : Scope} {path : List String} (hmem : Instr.loadPath s path ∈ code)
    (he : (Instr.loadPath s path).Emitted c facts N scope stop pc) (hst : st₁.Alike st₂)
    (hsees : Sees scope code st₁.frames st₂.frames) :
    Agree st₁.frames st₂.frames (exec (simple L root (.loadPath s path)) st₁)
      (exec (simple L' root (.loadPath s path)) st₂) := by
  obtain ⟨hs, hne⟩ : s = scope ∧ path ≠ [] := he
  subst hs
  have hread : (s.read root st₁.frames).lookupPath path = (s.read root st₂.frames).lookupPath path := by
    rcases hsees with rfl | hhead | ⟨rfl, hread⟩
    · rfl
    · rw [s.read_eq_of_head hhead]
    · -- a path into `data` would make the code read it
      refine lookupPath_read_alike hst.frames hne fun rest h => ?_
      subst h
      exact absurd (readsData_of_mem (Or.inr ⟨rest, hmem⟩)) (by simp [hread])
  rw [exec_simple_loadPath, exec_simple_loadPath, hread]
  exact (frameFree_push _).lockstep st₁ st₂ hst

end Loads

/-! ## Bodies -/

section Bodies

variable {L L' : Linked} {root : Value} {body body' : List Instr}

/-- Entering frames alike but for `data` agrees, with those frames on top. -/
theorem agree_enter {st₁ st₂ : MachineState} {x x' : Value} (h : st₁.Alike st₂)
    (hx : Value.SameButData x x') :
    Agree (x :: st₁.frames) (x' :: st₂.frames) (exec (enter x) st₁) (exec (enter x') st₂) :=
  ⟨rfl, ⟨h.stack, h.log, .cons hx h.frames⟩, fun _ _ => ⟨rfl, rfl⟩⟩

/-- Leaving alike frames agrees, with the frames below them. -/
theorem agree_leave {st₁ st₂ : MachineState} {x x' : Value} {F₁ F₂ : List Value}
    (h : st₁.Alike st₂) (h₁ : st₁.frames = x :: F₁) (h₂ : st₂.frames = x' :: F₂) :
    Agree F₁ F₂ (exec leave st₁) (exec leave st₂) := by
  have hf := h.frames
  rw [h₁, h₂] at hf
  refine ⟨rfl, ⟨h.stack, h.log, ?_⟩, fun _ _ => ?_⟩
  · show List.Forall₂ _ (st₁.frames.drop 1) (st₂.frames.drop 1)
    rw [h₁, h₂]
    exact (List.forall₂_cons.1 hf).2
  · show st₁.frames.drop 1 = F₁ ∧ st₂.frames.drop 1 = F₂
    simp [h₁, h₂]

/-- A body run with frames `x` and `x'` that its block sees alike runs in lockstep. -/
theorem lockstep_runBody {x x' : Value} (hx : Value.SameButData x x')
    (hb : ∀ s₁ s₂ : MachineState, s₁.Alike s₂ → s₁.frames.head? = some x →
      s₂.frames.head? = some x' →
      Agree s₁.frames s₂.frames (exec (runBlock L root body 0) s₁) (exec (runBlock L' root body' 0) s₂)) :
    Lockstep (runBody L root body x) (runBody L' root body' x') := by
  intro st₁ st₂ hst
  rw [runBody, runBody]
  refine (agree_enter hst hx).bind fun _ s₁ s₂ hs h₁ h₂ => ?_
  refine (h₁ ▸ h₂ ▸ hb s₁ s₂ hs (by simp [h₁]) (by simp [h₂])).bind fun _ t₁ t₂ ht g₁ g₂ => ?_
  refine (frameFree_pop.lockstep.agree ht g₁ g₂).bind fun v u₁ u₂ hu k₁ k₂ => ?_
  exact (agree_leave hu k₁ k₂).bind fun _ w₁ w₂ hw l₁ l₂ => Agree.pure hw l₁ l₂ v

variable (hb : ∀ x, Lockstep (runBody L root body x) (runBody L' root body' x))
include hb

/-- `map` over bodies in lockstep runs in lockstep. -/
theorem lockstep_mapItems (items : List Value) :
    Lockstep (mapItems L root body items) (mapItems L' root body' items) := by
  induction items with
  | nil =>
    rw [mapItems, mapItems]
    exact Lockstep.pure _
  | cons x rest ih =>
    rw [mapItems, mapItems]
    exact (hb x).bind fun _ => ih.bind fun _ => Lockstep.pure _

/-- `filter` over bodies in lockstep runs in lockstep. -/
theorem lockstep_filterItems (items : List Value) :
    Lockstep (filterItems L root body items) (filterItems L' root body' items) := by
  induction items with
  | nil =>
    rw [filterItems, filterItems]
    exact Lockstep.pure _
  | cons x rest ih =>
    rw [filterItems, filterItems]
    exact (hb x).bind fun _ => ih.bind fun _ => Lockstep.pure _

/-- `all` over bodies in lockstep runs in lockstep. -/
theorem lockstep_allItems (items : List Value) :
    Lockstep (allItems L root body items) (allItems L' root body' items) := by
  induction items with
  | nil =>
    rw [allItems, allItems]
    exact Lockstep.pure _
  | cons x rest ih =>
    rw [allItems, allItems]
    exact (hb x).bind fun _ => Lockstep.ite (fun _ => ih) fun _ => Lockstep.pure _

/-- `some` and `none` over bodies in lockstep run in lockstep. -/
theorem lockstep_anyItem (items : List Value) :
    Lockstep (anyItem L root body items) (anyItem L' root body' items) := by
  induction items with
  | nil =>
    rw [anyItem, anyItem]
    exact Lockstep.pure _
  | cons x rest ih =>
    rw [anyItem, anyItem]
    exact (hb x).bind fun _ => Lockstep.ite (fun _ => Lockstep.pure _) fun _ => ih

/-- An iterate instruction over bodies that run in lockstep on every item. -/
theorem lockstep_iterateResult (kind : IterKind) (guarded : Bool) (x : Value) :
    Lockstep (iterateResult L root kind body guarded x)
      (iterateResult L' root kind body' guarded x) := by
  cases x
  case array items =>
    cases kind
    case map => exact (lockstep_mapItems hb items).bind fun _ => Lockstep.pure _
    case filter => exact (lockstep_filterItems hb items).bind fun _ => Lockstep.pure _
    case all =>
      exact Lockstep.ite (fun _ => Lockstep.pure _) fun _ =>
        (lockstep_allItems hb items).bind fun _ => Lockstep.pure _
    case some => exact (lockstep_anyItem hb items).bind fun _ => Lockstep.pure _
    case none => exact (lockstep_anyItem hb items).bind fun _ => Lockstep.pure _
  all_goals exact Lockstep.ite (fun _ => Lockstep.pure _) fun _ => Lockstep.throw _

end Bodies

section Reductions

variable {L L' : Linked} {root : Value} {body body' : List Instr}

/-- A fold over bodies in lockstep on its contexts runs in lockstep. -/
theorem lockstep_reduceItems {d₁ d₂ : Option Value}
    (hb : ∀ acc x index, Lockstep (runBody L root body (Value.reduceContext acc x index d₁))
      (runBody L' root body' (Value.reduceContext acc x index d₂))) :
    ∀ (items : List Value) (acc : Value) (index : Nat),
      Lockstep (reduceItems L root body d₁ items acc index)
        (reduceItems L' root body' d₂ items acc index)
  | [], acc, index => by
    rw [reduceItems, reduceItems]
    exact Lockstep.pure _
  | x :: rest, acc, index => by
    rw [reduceItems, reduceItems]
    exact (hb acc x index).bind fun acc' => lockstep_reduceItems hb rest acc' (index + 1)

/-- A reduce instruction whose contexts hold the source as `data` only where `withData` says,
against one whose contexts always hold it, over bodies that run in lockstep on such contexts. -/
theorem lockstep_reduceResult {withData : Bool}
    (hb : ∀ src acc x index,
      Lockstep (runBody L root body
          (Value.reduceContext acc x index (if withData then some src else none)))
        (runBody L' root body' (Value.reduceContext acc x index (some src))))
    (guarded : Bool) (initial : Option Value) (x : Value) :
    Lockstep (reduceResult L root body guarded withData initial x)
      (reduceResult L' root body' guarded true initial x) := by
  cases x
  case array items =>
    simp only [reduceResult, if_true]
    split
    · exact lockstep_reduceItems (hb _) _ _ _
    · exact lockstep_reduceItems (hb _) _ _ _
    · exact Lockstep.throw _
  all_goals exact Lockstep.ite (fun _ => Lockstep.pure _) fun _ => Lockstep.throw _

end Reductions

/-! ## Whole blocks -/

namespace Instr

/-- Setting `with_data` in a block sets it in each instruction. -/
theorem keepDataBlock_eq_map : ∀ code : List Instr, keepDataBlock code = code.map keepData
  | [] => by rw [keepDataBlock, List.map_nil]
  | i :: rest => by rw [keepDataBlock, List.map_cons, keepDataBlock_eq_map rest]

/-- Setting `with_data` keeps the length of a block. -/
@[simp] theorem length_keepDataBlock (code : List Instr) : (keepDataBlock code).length = code.length := by
  rw [keepDataBlock_eq_map, List.length_map]

/-- Setting `with_data` in a block sets it in the instruction at each position. -/
theorem getElem?_keepDataBlock (code : List Instr) (pc : Nat) :
    (keepDataBlock code)[pc]? = code[pc]?.map keepData := by
  rw [keepDataBlock_eq_map, List.getElem?_map]

/-- An instruction that flows on has no reduce to change. -/
theorem keepData_of_flows {i : Instr} (h : i.flows) : keepData i = i := by
  cases i <;> simp_all [flows, keepData]

end Instr

section Blocks

variable {c : Catalog} {facts : Analysis} {N : Naming} {scope : Scope} {stop pc : Nat}
  {code : List Instr} {L : Linked} {K : List Instr} {root : Value} {st₁ st₂ : MachineState}

/-- The instructions that neither jump nor run a body agree in the two programs. -/
theorem agree_simple {i : Instr} (hmem : i ∈ code) (he : i.Emitted c facts N scope stop pc)
    (hst : st₁.Alike st₂) (hsees : Sees scope code st₁.frames st₂.frames) :
    Agree st₁.frames st₂.frames (exec (simple L root i) st₁)
      (exec (simple { L with code := K } root i) st₂) := by
  cases i
  case load s => exact agree_load hmem he hst hsees
  case loadPath s path => exact agree_loadPath hmem he hst hsees
  all_goals exact (frameFree_simple L root (by simp) (by simp)).lockstep st₁ st₂ hst

/-- A reduce context that holds `data` only where asked is alike to one that always holds it. -/
theorem sameButData_reduceContext (withData : Bool) (acc x : Value) (index : Nat) (src : Value) :
    Value.SameButData (Value.reduceContext acc x index (if withData then some src else none))
      (Value.reduceContext acc x index (some src)) := by
  cases withData
  · exact Or.inr ⟨acc, x, index, src, rfl, rfl⟩
  · exact Or.inl rfl

/-- A reduce body sees its two contexts alike: they are equal where it asks for the data, and
otherwise it does not read the data. -/
theorem sees_reduceBody {body : List Instr} {withData : Bool} (hw : withData = readsData body)
    {F₁ F₂ : List Value} {acc x : Value} {index : Nat} {src : Value}
    (h₁ : F₁.head? = some (Value.reduceContext acc x index (if withData then some src else none)))
    (h₂ : F₂.head? = some (Value.reduceContext acc x index (some src))) :
    Sees .context body F₁ F₂ := by
  cases withData
  · exact Or.inr (Or.inr ⟨rfl, hw.symm⟩)
  · exact Or.inr (Or.inl (by rw [h₁, h₂]; rfl))

/-- A block that compiling emitted runs in lockstep with the same block keeping the data of
every reduce context, from states alike but for that data and frames under which its loads
see alike. The recursion follows `runBlock`'s: into the bodies, along the block. -/
theorem agree_runBlock_keepData (L : Linked) (K : List Instr) (root : Value) {scope : Scope}
    {base stop : Nat} {code : List Instr} (hcode : Emits c facts N scope base stop code)
    (pc : Nat) (st₁ st₂ : MachineState) (hst : st₁.Alike st₂)
    (hsees : Sees scope code st₁.frames st₂.frames) :
    Agree st₁.frames st₂.frames (exec (runBlock L root code pc) st₁)
      (exec (runBlock { L with code := K } root (Instr.keepDataBlock code) pc) st₂) := by
  rcases hi : code[pc]? with _ | i
  case none =>
    have hlen : code.length ≤ pc := List.getElem?_eq_none_iff.1 hi
    rw [runBlock_of_length_le hlen, runBlock_of_length_le (by simpa using hlen)]
    exact Agree.pure hst rfl rfl ()
  have hpc : pc < code.length := (List.getElem?_eq_some_iff.1 hi).1
  have hk : (Instr.keepDataBlock code)[pc]? = some i.keepData := by
    rw [Instr.getElem?_keepDataBlock, hi, Option.map_some]
  have he := hcode pc i hi
  have next : ∀ (s₁ s₂ : MachineState), s₁.Alike s₂ → s₁.frames = st₁.frames →
      s₂.frames = st₂.frames → Agree st₁.frames st₂.frames (exec (runBlock L root code (pc + 1)) s₁)
        (exec (runBlock { L with code := K } root (Instr.keepDataBlock code) (pc + 1)) s₂) :=
    fun s₁ s₂ hs h₁ h₂ => h₁ ▸ h₂ ▸
      agree_runBlock_keepData L K root hcode (pc + 1) s₁ s₂ hs (h₁ ▸ h₂ ▸ hsees)
  by_cases hf : i.flows
  case pos =>
    rw [Instr.keepData_of_flows hf] at hk
    rw [runBlock_flows hi hf, runBlock_flows hk hf]
    exact (agree_simple (List.mem_of_getElem? hi) he hst hsees).bind fun _ => next
  cases i
  case jump t =>
    rw [runBlock_jump hi, runBlock_jump hk]
    split
    · exact agree_runBlock_keepData L K root hcode t st₁ st₂ hst hsees
    · exact Agree.pure hst rfl rfl ()
  case jumpIfFalse t | jumpIfTrue t =>
    first | rw [runBlock_jumpIfFalse hi, runBlock_jumpIfFalse hk]
          | rw [runBlock_jumpIfTrue hi, runBlock_jumpIfTrue hk]
    refine (frameFree_pop.lockstep st₁ st₂ hst).bind fun _ s₁ s₂ hs h₁ h₂ => ?_
    split
    · split
      · exact h₁ ▸ h₂ ▸ agree_runBlock_keepData L K root hcode t s₁ s₂ hs (h₁ ▸ h₂ ▸ hsees)
      · exact Agree.pure hs h₁ h₂ ()
    · exact next s₁ s₂ hs h₁ h₂
  case jumpIfPresent t =>
    rw [runBlock_jumpIfPresent hi, runBlock_jumpIfPresent hk]
    refine (frameFree_peek.lockstep st₁ st₂ hst).bind fun _ s₁ s₂ hs h₁ h₂ => ?_
    split
    · split
      · exact h₁ ▸ h₂ ▸ agree_runBlock_keepData L K root hcode t s₁ s₂ hs (h₁ ▸ h₂ ▸ hsees)
      · exact Agree.pure hs h₁ h₂ ()
    · exact (frameFree_pop.lockstep.agree hs h₁ h₂).bind fun _ => next
  case iterate kind body guarded =>
    have hlt : sizeOf body < sizeOf code := by
      have := List.sizeOf_lt_of_mem (List.mem_of_getElem? hi)
      simp only [Instr.iterate.sizeOf_spec] at this
      omega
    have hbody := he.iterate_emits
    -- every item is the body's innermost frame in both runs
    have hb : ∀ x, Lockstep (runBody L root body x)
        (runBody { L with code := K } root (Instr.keepDataBlock body) x) :=
      fun x => lockstep_runBody (Or.inl rfl) fun s₁ s₂ hs h₁ h₂ =>
        agree_runBlock_keepData L K root hbody 0 s₁ s₂ hs (Or.inr (Or.inl (h₁.trans h₂.symm)))
    rw [runBlock_iterate hi, runBlock_iterate hk]
    refine (frameFree_pop.lockstep st₁ st₂ hst).bind fun x s₁ s₂ hs h₁ h₂ => ?_
    refine ((lockstep_iterateResult hb kind guarded x).agree hs h₁ h₂).bind fun r _ _ hs h₁ h₂ => ?_
    exact ((frameFree_push r).lockstep.agree hs h₁ h₂).bind fun _ => next
  case reduce body guarded seeded withData =>
    have hlt : sizeOf body < sizeOf code := by
      have := List.sizeOf_lt_of_mem (List.mem_of_getElem? hi)
      simp only [Instr.reduce.sizeOf_spec] at this
      omega
    obtain ⟨hbody, hw⟩ := he.reduce_emits
    -- the contexts differ at most in a `data` the body does not read
    have hb : ∀ src acc x index, Lockstep
        (runBody L root body (Value.reduceContext acc x index (if withData then some src else none)))
        (runBody { L with code := K } root (Instr.keepDataBlock body)
          (Value.reduceContext acc x index (some src))) :=
      fun src acc x index => lockstep_runBody (sameButData_reduceContext withData acc x index src)
        fun s₁ s₂ hs h₁ h₂ => agree_runBlock_keepData L K root hbody 0 s₁ s₂ hs (sees_reduceBody hw h₁ h₂)
    rw [runBlock_reduce hi, runBlock_reduce hk]
    have hinit : Lockstep (if seeded then (some <$> pop) else pure none)
        (if seeded then (some <$> pop) else pure none) :=
      Lockstep.ite (fun _ => (frameFree_pop.map some).lockstep) fun _ => Lockstep.pure none
    refine (hinit st₁ st₂ hst).bind fun initial s₁ s₂ hs h₁ h₂ => ?_
    refine (frameFree_pop.lockstep.agree hs h₁ h₂).bind fun x s₁ s₂ hs h₁ h₂ => ?_
    refine ((lockstep_reduceResult hb guarded initial x).agree hs h₁ h₂).bind
      fun r _ _ hs h₁ h₂ => ?_
    exact ((frameFree_push r).lockstep.agree hs h₁ h₂).bind fun _ => next
  all_goals simp [Instr.flows] at hf
termination_by (sizeOf code, code.length - pc)
decreasing_by
  all_goals first
    | (apply Prod.Lex.right; omega)
    | (apply Prod.Lex.left; assumption)

end Blocks

namespace Program

variable {c : Catalog} {facts : Analysis} {r : Rule} {p : Program}

/-- Whatever routines and extensions it is linked with, a compiled program answers every record
as the program whose reduce contexts, at every depth, all hold the source array as `data`: the
same value or failure, and the same values logged. -/
theorem evaluate_keepData (h : ofRuleWith c facts r = .ok p) (L : Linked) (hL : L.code = p.code)
    (record : Value) :
    L.evaluate record = { L with code := Instr.keepDataBlock L.code }.evaluate record := by
  obtain ⟨N, hc, -, -⟩ := ofRuleWith_ok h
  have he : Emits c facts N .arg 0 L.code.length L.code := by
    simpa [hL] using (Rule.compile_emits r _ _ _ _ _ hc).emits
  -- the program runs from the empty state, whose frames are seen alike by a block of the record
  have hrun := (agree_runBlock_keepData L (Instr.keepDataBlock L.code) record he 0 {} {}
    ⟨rfl, rfl, .nil⟩ (Or.inl rfl)).bind fun _ s₁ s₂ hs h₁ h₂ =>
      frameFree_pop.lockstep.agree hs h₁ h₂
  rw [Linked.evaluate_eq_exec, Linked.evaluate_eq_exec]
  exact Prod.ext hrun.result (congrArg List.reverse hrun.alike.log)

/-- A reduce whose body reads nothing of its context: its contexts go without the data. -/
theorem evaluate_keepData_constant :
    ofRule {} (.operation "reduce" [.operation "var" [.literal (.string "xs")] false,
        .literal (.int 0)] true) =
      .ok ⟨[.loadPath .arg ["xs"], .reduce [.push (.int 0)] true false false], [], []⟩ ∧
    Linked.evaluate ⟨[.loadPath .arg ["xs"], .reduce [.push (.int 0)] true false false], [], []⟩
        (.object [("xs", .array [.int 1, .int 2])]) =
      Linked.evaluate ⟨Instr.keepDataBlock [.loadPath .arg ["xs"],
          .reduce [.push (.int 0)] true false false], [], []⟩
        (.object [("xs", .array [.int 1, .int 2])]) := by
  have hp : ofRule {} (.operation "reduce" [.operation "var" [.literal (.string "xs")] false,
      .literal (.int 0)] true) =
      .ok ⟨[.loadPath .arg ["xs"], .reduce [.push (.int 0)] true false false], [], []⟩ := by
    cbv
  exact ⟨hp, evaluate_keepData hp _ rfl _⟩

end Program

end RuleMachine
