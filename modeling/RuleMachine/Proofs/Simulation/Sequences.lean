import RuleMachine.Proofs.Simulation.Basic

/-!
# Operands compiled one after the other

The arguments of most operators are compiled one after the other and leave their values on the
stack in order; the operator's instruction then takes them all. The operands of `+` and `*` are
instead folded as they come: each one after the first is added (multiplied) into the value
below it at once.
-/

namespace RuleMachine

open Machine Rule

section Sequences

variable {c : Catalog} {facts : Analysis} {L : Linked} {root : Value} {N : Naming}

/-- Rules that each simulate simulate one after the other. -/
theorem simulatesSeq {rs : List Rule} (h : ∀ r ∈ rs, Simulates c facts L root N r) :
    SimulatesSeq c facts L root N rs := by
  induction rs with
  | nil =>
    intro scope base n part n' hc
    rw [compileSeq] at hc
    obtain ⟨rfl, rfl⟩ := CompileM.run_pure_ok hc
    refine ⟨Tracked.of_slots rfl, fun code _ _ => ⟨fun _ => pure [], ?_, ?_, ?_⟩⟩
    · simpa using Pushes.nil
    · exact ⟨fun _ => Fails.pure _, fun _ => Gives.pure rfl, fun _ _ => by rw [evaluateAll]⟩
    · exact fun _ _ _ _ _ _ => rfl
  | cons r rest ih =>
    intro scope base n part n' hc
    rw [compileSeq] at hc
    obtain ⟨code₁, n₁, h₁, hc⟩ := CompileM.run_bind_ok hc
    obtain ⟨code₂, h₂, rfl⟩ := CompileM.run_bind_pure_ok hc
    obtain ⟨t₁, hr₁⟩ := h r (by simp) scope base n code₁ n₁ h₁
    obtain ⟨t₂, hr₂⟩ := ih (fun x hx => h x (by simp [hx])) scope (base + code₁.length) n₁ code₂ _ h₂
    refine ⟨t₁.append t₂, fun code hcode hfits => ?_⟩
    rw [CodeAt.append] at hcode
    obtain ⟨m, hm, hmean, hfree⟩ := hr₁ code hcode.1 (hfits.left t₂.grows)
    obtain ⟨ms, hms, hmeans, hfrees⟩ := hr₂ code hcode.2 hfits.right
    refine ⟨fun d => do let v ← m d; let vs ← ms d; pure (v :: vs), ?_, ⟨?_, ?_, ?_⟩, ?_⟩
    · simpa only [List.length_append, Nat.add_assoc] using RunsAll.cons hm hms
    · exact fun d => (hmean.safe d).bind_of fun v => (hmeans.safe d).bind_of fun _ => Fails.pure _
    · exact fun d => Gives.bind_any fun v =>
        (hmeans.length d).bind fun vs hvs => Gives.pure (by simp [hvs])
    · intro hall d
      rw [hmean.eval (hall r (by simp)).1 (hall r (by simp)).2 d,
        hmeans.eval (fun x hx => hall x (by simp [hx])) d, evaluateAll]
    · intro hread hs acc x index src
      simp only [readsData_append, Bool.or_eq_false_iff] at hread
      dsimp only
      rw [hfree hread.1 hs, hfrees hread.2 hs]

/-- The value a word operation computes reads its operands' numbers only. -/
theorem arith_congr_right {f : Binary64 → Binary64 → Binary64} (a : Value) {v w : Value}
    (h : v.toNumber = w.toNumber) : Value.arith f a v = Value.arith f a w := by
  rw [Value.arith, Value.arith, h]

/-- A fold whose first step reads its start's number only. -/
theorem foldl_arith_congr {f : Binary64 → Binary64 → Binary64} {g : Value → Value}
    {a b : Value} (h : a.toNumber = b.toNumber) {vs : List Value} (hvs : vs ≠ []) :
    vs.foldl (fun acc v => Value.arith f acc (g v)) a =
      vs.foldl (fun acc v => Value.arith f acc (g v)) b := by
  obtain ⟨v, rest, rfl⟩ := List.exists_cons_of_ne_nil hvs
  simp only [List.foldl_cons, Value.arith, h]

/-- Instructions `extra r` after the code of an operand `r` that turn its value `v` into
`conv r v`. -/
def Converts (L : Linked) (root : Value) (extra : Rule → List Instr) (conv : Rule → Value → Value) :
    Prop :=
  ∀ r scope code b p (m : Value → EvalM Value), Runs L root scope code b p m →
    CodeAt code p (extra r) →
      Runs L root scope code b (p + (extra r).length) fun d => m d >>= fun v => pure (conv r v)

/-- The operands of a sum or product after the first: each compiled, converted by `extra`, and
combined by `op` into the value below it. With `norm` the conversion that direct evaluation
makes, the tail runs as the fold of the operands' values when `conv` and `norm` agree on their
numbers. -/
theorem simulatesFoldTail {tail : Scope → Nat → List Rule → CompileM (List Instr)}
    {extra : Rule → List Instr} {conv : Rule → Value → Value} {norm : Value → Value}
    {op : Instr} {f : Binary64 → Binary64 → Binary64}
    (hnil : ∀ scope base, tail scope base [] = pure [])
    (hcons : ∀ scope base r rest, tail scope base (r :: rest) = (do
      let code ← r.compile c facts scope base
      let more ← tail scope (base + (code ++ extra r ++ [op]).length) rest
      pure (code ++ extra r ++ [op] ++ more)))
    (hconv : Converts L root extra conv)
    (hquiet : ∀ r, blockSlots (extra r) = [] ∧ blockRoutines (extra r) = [] ∧
      readsData (extra r) = false)
    (hop : Consumes L root op 2 fun vs => pure (binary (Value.arith f) vs)) (hflow : op.flows)
    (hopQuiet : op.slots = [] ∧ op.routines = [] ∧ readsData [op] = false)
    {rs : List Rule} (h : ∀ r ∈ rs, Simulates c facts L root N r) :
    ∀ scope base n part n', (tail scope base rs).run n = .ok (part, n') →
      Tracked n part n' ∧ ∀ code, CodeAt code base part → Fits L N n' part →
        ∃ F, Folds L root scope code base (base + part.length) F ∧
          (∀ acc d, Fails (F acc d) EvalError.Allowed) ∧
          ((∀ r ∈ rs, r.Scalar ∧ r.KeepsNumbers facts c ∧
              ∀ d, Gives (r.evaluate c d) fun v => (conv r v).toNumber = (norm v).toNumber) →
            ∀ acc d, F acc d = (do
              let vs ← evaluateAll c d rs
              pure (vs.foldl (fun a v => Value.arith f a (norm v)) acc))) ∧
          (readsData part = false → scope = .context → ∀ acc, DataFree (F acc)) := by
  induction rs with
  | nil =>
    intro scope base n part n' hc
    rw [hnil] at hc
    obtain ⟨rfl, rfl⟩ := CompileM.run_pure_ok hc
    refine ⟨Tracked.of_slots rfl, fun code _ _ => ⟨fun acc _ => pure acc, ?_, ?_, ?_, ?_⟩⟩
    · simpa using Folds.nil
    · exact fun _ _ => Fails.pure _
    · intro _ acc d
      simp [evaluateAll]
    · exact fun _ _ _ _ _ _ _ => rfl
  | cons r rest ih =>
    intro scope base n part n' hc
    rw [hcons] at hc
    obtain ⟨code₁, n₁, h₁, hc⟩ := CompileM.run_bind_ok hc
    obtain ⟨code₂, h₂, rfl⟩ := CompileM.run_bind_pure_ok hc
    obtain ⟨hslots, hroutines, hreads⟩ := hquiet r
    obtain ⟨hopSlots, hopRoutines, hopReads⟩ := hopQuiet
    obtain ⟨t₁, hr₁⟩ := h r (by simp) scope base n code₁ n₁ h₁
    obtain ⟨t₂, hr₂⟩ := ih (fun x hx => h x (by simp [hx])) scope _ n₁ code₂ _ h₂
    refine ⟨((t₁.append (Tracked.of_slots hslots)).append
      (Tracked.of_slots (by simp [hopSlots]))).append t₂, fun code hcode hfits => ?_⟩
    rw [CodeAt.append, CodeAt.append, CodeAt.append, CodeAt.singleton] at hcode
    obtain ⟨⟨⟨hc₁, hcx⟩, hcop⟩, hc₂⟩ := hcode
    have hfits₁ : Fits L N n₁ code₁ := hfits.part t₂.grows fun x hx => by simp [hx]
    obtain ⟨m, hm, hmean, hfree⟩ := hr₁ code hc₁ hfits₁
    obtain ⟨F, hF, hsafe, heval, hFfree⟩ := hr₂ code (by simpa [Nat.add_assoc] using hc₂)
      hfits.right
    -- the operand, its conversion, then `op` on the value below and the converted one
    have hlen : (code₁ ++ extra r ++ [op]).length = code₁.length + (extra r).length + 1 := by
      simp only [List.length_append, List.length_singleton]
    have hend : base + (code₁ ++ extra r ++ [op] ++ code₂).length =
        base + code₁.length + (extra r).length + 1 + code₂.length := by
      simp only [List.length_append, List.length_singleton]
      omega
    rw [List.length_append] at hcop
    rw [hlen, ← Nat.add_assoc, ← Nat.add_assoc] at hF
    have hstep := Folds.step (hconv r scope code base _ m hm hcx) (by rwa [Nat.add_assoc]) hflow hop
    refine ⟨_, (by rw [hend]; exact hstep.trans hF), ?_, ?_, ?_⟩
    · intro acc d
      exact (((hmean.safe d).bind_of fun _ => Fails.pure _).bind_of fun _ => Fails.pure _).bind_of
        fun a => hsafe a d
    · intro hall acc d
      obtain ⟨hs, hk, hnum⟩ := hall r (by simp)
      have hrest := heval fun x hx => hall x (by simp [hx])
      simp only [hmean.eval hs hk d, hrest, evaluateAll, bind_assoc, pure_bind, binary,
        List.foldl_cons]
      refine (hnum d).bind_congr fun v hv => ?_
      rw [arith_congr_right acc hv]
    · intro hread hsc acc a x index src
      simp only [readsData_append, Bool.or_eq_false_iff] at hread
      have hF' (b : Value) := hFfree hread.2 hsc b a x index src
      simp only [hfree hread.1.1.1 hsc a x index src, hF']

end Sequences

end RuleMachine
