import RuleMachine.Proofs.Shape

/-!
# What a compiled program records, and how it links

The extension calls of a rule are read off its walk (`Rule.extensionCalls`): for each extension
operation it reaches, in order, its key and its number of arguments. Compiling names these keys
in that order, and the calls of the code at any depth (`blockCalls`) are exactly these calls at
the slots of their keys (`Requesting`). `Output.ofRule_records` collects what this gives the
compiler's output: its routines, its operators and its calls are exactly those of the code, and
linking attaches the routines and puts each operator in its slot.
-/

namespace RuleMachine

open Rule

mutual

/-- The extension calls of an instruction, its bodies included: the slot called and the number
of arguments. -/
def Instr.calls : Instr → List (Nat × Nat)
  | .callOp slot argc => [(slot, argc)]
  | .iterate _ body _ => blockCalls body
  | .reduce body _ _ _ => blockCalls body
  | _ => []

/-- The extension calls of a block, bodies included. -/
def blockCalls : List Instr → List (Nat × Nat)
  | [] => []
  | i :: rest => i.calls ++ blockCalls rest

end

/-- An empty block makes no call. -/
@[simp] theorem blockCalls_nil : blockCalls [] = [] := by
  rw [blockCalls]

/-- The calls of a block are those of its first instruction, then of the rest. -/
@[simp] theorem blockCalls_cons (i : Instr) (rest : List Instr) :
    blockCalls (i :: rest) = i.calls ++ blockCalls rest := by
  rw [blockCalls]

/-- The calls of two blocks one after the other are theirs in order. -/
@[simp] theorem blockCalls_append (p q : List Instr) :
    blockCalls (p ++ q) = blockCalls p ++ blockCalls q := by
  induction p with
  | nil => simp
  | cons i rest ih => simp [ih]

/-- A truthiness test calls no extension. -/
@[simp] theorem blockCalls_truthyCall (facts : Analysis) (r : Rule) :
    blockCalls (truthyCall facts r) = [] := by
  unfold truthyCall
  split <;> simp [Instr.calls]

/-- A conversion to a number calls no extension. -/
@[simp] theorem blockCalls_numberCall (facts : Analysis) (r : Rule) :
    blockCalls (numberCall facts r) = [] := by
  unfold numberCall
  split <;> simp [Instr.calls]

/-- An iteration's test calls no extension. -/
@[simp] theorem blockCalls_iterTest (facts : Analysis) (kind : IterKind) (r : Rule) :
    blockCalls (iterTest facts kind r) = [] := by
  cases kind <;> simp [iterTest]

/-! ## The extension calls of a rule -/

namespace Rule

variable {c : Catalog}

/-- The extension an operation node calls, with its number of arguments. -/
def extensionCall? (c : Catalog) : Rule → Option (String × Nat)
  | .operation key args _ =>
    match c.lookup key with
    | some (.extension _) => some (key, args.length)
    | _ => none
  | _ => none

/-- The extension calls of a rule, in the order its walk reaches their operations. -/
def extensionCalls (c : Catalog) (r : Rule) : List (String × Nat) :=
  (r.walk c).filterMap (extensionCall? c)

/-- A literal calls no extension. -/
@[simp] theorem extensionCalls_literal (v : Value) : (literal v).extensionCalls c = [] := by
  simp [extensionCalls, walk, extensionCall?]

/-- A list calls the extensions its items call, in order. -/
theorem extensionCalls_list (items : List Rule) :
    (list items).extensionCalls c = items.flatMap (extensionCalls c) := by
  rw [extensionCalls, walk, List.filterMap_cons, List.filterMap_flatMap]
  rfl

/-- An operation calls its own extension, if any, then those of the arguments the walk visits. -/
theorem extensionCalls_operation (key : String) (args : List Rule) (br : Bool) :
    (operation key args br).extensionCalls c =
      ((operation key args br).extensionCall? c).toList ++
        (visitedArgs c key args).flatMap (extensionCalls c) := by
  rw [extensionCalls, walk_operation, List.filterMap_cons, List.filterMap_flatMap]
  cases (operation key args br).extensionCall? c <;> rfl

/-- An extension operation calls its key, then what each argument calls. -/
theorem extensionCalls_extension {key : String} {args : List Rule} {br : Bool} {op : Operation}
    (hl : c.lookup key = some (.extension op)) :
    (operation key args br).extensionCalls c =
      (key, args.length) :: args.flatMap (extensionCalls c) := by
  have hv : visitedArgs c key args = args := by
    simp [visitedArgs, Catalog.builtin?, hl]
  rw [extensionCalls_operation, hv]
  simp [extensionCall?, hl]

/-- A builtin operation calls what the arguments the walk visits call. -/
theorem extensionCalls_builtin {key : String} {args : List Rule} {br : Bool} {b : Builtin}
    (hl : c.lookup key = some (.builtin b)) :
    (operation key args br).extensionCalls c =
      (visitedArgs c key args).flatMap (extensionCalls c) := by
  rw [extensionCalls_operation]
  simp [extensionCall?, hl]

/-- A builtin that looks at all its arguments, in order. -/
theorem visitedArgs_of_ne {key : String} {args : List Rule} {b : Builtin}
    (hb : c.builtin? key = some b) (hv : b ≠ .var) (hm : b ≠ .missingSome) (hc : b ≠ .cond)
    (hr : b ≠ .reduce) : visitedArgs c key args = args := by
  unfold visitedArgs
  rw [hb]
  split <;> simp_all

/-- A rule made of literals and lists calls no extension. -/
theorem extensionCalls_of_constant (r : Rule) :
    ∀ v, r.constant? = some v → r.extensionCalls c = [] := by
  induction r using Rule.induction with
  | literal w => exact fun _ _ => extensionCalls_literal w
  | list items ih =>
    intro v hv
    simp only [constant?, Option.map_eq_some_iff] at hv
    obtain ⟨vs, hvs, -⟩ := hv
    rw [extensionCalls_list, List.flatMap_eq_nil_iff]
    intro x hx
    obtain ⟨w, hw⟩ := firstDefect_of_constant.constant_of_mem_constantItems hvs hx
    exact ih x hx w hw
  | operation => simp [constant?]

/-- A list of constants calls no extension. -/
theorem flatMap_extensionCalls_of_constantItems {items : List Rule} {vs : List Value}
    (h : constantItems items = some vs) : items.flatMap (extensionCalls c) = [] := by
  rw [List.flatMap_eq_nil_iff]
  intro x hx
  obtain ⟨w, hw⟩ := firstDefect_of_constant.constant_of_mem_constantItems h hx
  exact extensionCalls_of_constant x w hw

/-- A literal path calls no extension. -/
theorem extensionCalls_of_varPath_segments {path : Rule} {segs : List String}
    (h : varPath path = .segments segs) : path.extensionCalls c = [] := by
  cases path with
  | literal v => exact extensionCalls_literal v
  | list _ => simp [varPath] at h
  | operation => simp [varPath] at h

/-- The calls of a rule are those of the extension operations its walk reaches. -/
theorem mem_extensionCalls {r : Rule} {key : String} {argc : Nat} :
    (key, argc) ∈ r.extensionCalls c ↔
      ∃ args br op, operation key args br ∈ r.walk c ∧ c.lookup key = some (.extension op) ∧
        args.length = argc := by
  simp only [extensionCalls, List.mem_filterMap]
  constructor
  · rintro ⟨node, hnode, hcall⟩
    cases node with
    | operation k args br =>
      simp only [extensionCall?] at hcall
      split at hcall
      · rename_i op hl
        obtain ⟨rfl, rfl⟩ := Prod.mk.inj (Option.some.inj hcall)
        exact ⟨args, br, op, hnode, hl, rfl⟩
      · cases hcall
    | literal => simp [extensionCall?] at hcall
    | list => simp [extensionCall?] at hcall
  · rintro ⟨args, br, op, hnode, hl, rfl⟩
    exact ⟨_, hnode, by simp [extensionCall?, hl]⟩

end Rule

/-! ## Naming keys in turn -/

namespace Naming

/-- Resolves keys in turn. -/
def resolveEach (n : Naming) (keys : List String) : Naming :=
  keys.foldl (fun n key => (n.resolve key).2) n

/-- Resolving no key changes nothing. -/
@[simp] theorem resolveEach_nil (n : Naming) : n.resolveEach [] = n := rfl

/-- Resolving keys in turn resolves the first, then the rest. -/
theorem resolveEach_cons (n : Naming) (key : String) (keys : List String) :
    n.resolveEach (key :: keys) = (n.resolve key).2.resolveEach keys := rfl

/-- Resolving two lists of keys in turn resolves the first list, then the second. -/
theorem resolveEach_append (n : Naming) (keys keys' : List String) :
    n.resolveEach (keys ++ keys') = (n.resolveEach keys).resolveEach keys' := by
  simp [resolveEach, List.foldl_append]

/-- Resolving keys keeps the bindings made before. -/
theorem bindings_prefix_resolveEach (n : Naming) (keys : List String) :
    n.bindings <+: (n.resolveEach keys).bindings := by
  induction keys generalizing n with
  | nil => exact List.prefix_refl _
  | cons key rest ih => exact (bindings_prefix_resolve n key).trans (ih _)

/-- After resolving keys in turn, each of them is bound. -/
theorem lookup_resolveEach {n : Naming} {keys : List String} {key : String} (hk : key ∈ keys) :
    ∃ b, (n.resolveEach keys).bindings.lookup key = some b := by
  induction keys generalizing n with
  | nil => cases hk
  | cons k rest ih =>
    rw [resolveEach_cons]
    rcases List.mem_cons.1 hk with rfl | hk
    · exact ⟨_, lookup_of_prefix (bindings_prefix_resolveEach _ rest) (lookup_resolve n key)⟩
    · exact ih hk

/-- Resolving keys that are all bound changes nothing. -/
theorem resolveEach_of_bound {n : Naming} {keys : List String}
    (h : ∀ key ∈ keys, ∃ b, n.bindings.lookup key = some b) : n.resolveEach keys = n := by
  induction keys with
  | nil => rfl
  | cons key rest ih =>
    obtain ⟨b, hb⟩ := h key List.mem_cons_self
    rw [resolveEach_cons, resolve_of_lookup hb]
    exact ih fun k hk => h k (List.mem_cons_of_mem key hk)

/-- In a valid naming the binding at a slot is the one its key looks up. -/
theorem Valid.lookup_of_getElem? {n : Naming} (hn : n.Valid) {i : Nat} {key : String}
    {b : Binding} (h : n.bindings[i]? = some (key, b)) :
    n.bindings.lookup key = some b ∧ b.slot = i := by
  obtain ⟨hi, hat⟩ := List.getElem?_eq_some_iff.1 h
  have hslot : b.slot = i := by
    have := hn.slot_eq i hi
    rwa [hat] at this
  have hsplit : n.bindings = n.bindings.take i ++ (key, b) :: n.bindings.drop (i + 1) := by
    rw [← hat, ← List.drop_eq_getElem_cons hi, List.take_append_drop]
  -- no key before position `i` is `key`, which is bound once
  have hnd := hn.keys_nodup
  rw [hsplit, List.map_append, List.map_cons] at hnd
  refine ⟨List.lookup_eq_some_iff.2 ⟨_, _, hsplit, fun q hq => ?_⟩, hslot⟩
  rw [bne_iff_ne]
  rintro rfl
  exact List.disjoint_of_nodup_append hnd (List.mem_map_of_mem hq) List.mem_cons_self

end Naming

/-- The call an extension operation compiles to under the names `bindings`: the slot of its key
and its number of arguments. -/
def slotCall (bindings : List (String × Binding)) (call : String × Nat) : Option (Nat × Nat) :=
  (bindings.lookup call.1).map fun b => (b.slot, call.2)

/-! ## Compiling makes the calls of the rule -/

/-- What compiling did with extensions while making the calls `made` (key and argument count),
going from the names `n` to `n'` and emitting `part`: it named the keys of the calls in turn,
and the calls of the code, at any depth, are exactly these calls at the slots of their keys, under
any names that keep those of `n'`. -/
structure Requesting (made : List (String × Nat)) (n : Naming) (part : List Instr) (n' : Naming) :
    Prop where
  names : n' = n.resolveEach (made.map Prod.fst)
  calls : ∀ N : Naming, n'.bindings <+: N.bindings →
    ∀ call, call ∈ blockCalls part ↔ call ∈ made.filterMap (slotCall N.bindings)

namespace Requesting

variable {made made₁ made₂ made₃ : List (String × Nat)} {n n₁ n₂ : Naming} {p q : List Instr}

/-- Requesting keeps the bindings made before. -/
theorem grows (h : Requesting made n p n₁) : n.bindings <+: n₁.bindings :=
  h.names ▸ Naming.bindings_prefix_resolveEach n _

/-- Two parts one after the other request their calls in order. -/
theorem append (h₁ : Requesting made₁ n p n₁) (h₂ : Requesting made₂ n₁ q n₂) :
    Requesting (made₁ ++ made₂) n (p ++ q) n₂ where
  names := by rw [h₂.names, h₁.names, List.map_append, Naming.resolveEach_append]
  calls N hN call := by
    rw [blockCalls_append, List.filterMap_append, List.mem_append, List.mem_append,
      h₁.calls N (h₂.grows.trans hN), h₂.calls N hN]

/-- Code without extension calls names nothing. -/
theorem plain (h : blockCalls p = []) : Requesting [] n p n :=
  ⟨rfl, fun _ _ _ => by simp [h]⟩

/-- Code without calls after a part requests nothing more. -/
theorem append_plain (h : Requesting made n p n₁) (hq : blockCalls q = []) :
    Requesting made n (p ++ q) n₁ := by
  simpa using h.append (plain hq)

/-- Code without calls before a part requests nothing more. -/
theorem plain_append (hp : blockCalls p = []) (h : Requesting made n q n₁) :
    Requesting made n (p ++ q) n₁ :=
  (plain hp).append h

/-- Code whose calls are those of code that made them. -/
theorem of_calls_eq (h : Requesting made n p n₁) (hq : blockCalls q = blockCalls p) :
    Requesting made n q n₁ :=
  ⟨h.names, fun N hN call => hq ▸ h.calls N hN call⟩

/-- Calls made again right after they were made name nothing new and add no call. -/
theorem again (h : Requesting (made₁ ++ made₂ ++ made₂ ++ made₃) n p n₁) :
    Requesting (made₁ ++ made₂ ++ made₃) n p n₁ where
  names := by
    rw [h.names]
    simp only [List.map_append, Naming.resolveEach_append]
    congr 1
    exact Naming.resolveEach_of_bound fun _ hk => Naming.lookup_resolveEach hk
  calls N hN call := by
    rw [h.calls N hN call]
    simp only [List.filterMap_append, List.mem_append, or_self_left, or_assoc]

end Requesting

section Compiling

variable (c : Catalog) (facts : Analysis)

/-- Every compilation of the rule, at any place and from any names, makes the rule's extension
calls. -/
def Rule.RequestsWell (r : Rule) : Prop :=
  ∀ scope base n part n', (r.compile c facts scope base).run n = .ok (part, n') →
    Requesting (r.extensionCalls c) n part n'

end Compiling

namespace Rule

variable {c : Catalog} {facts : Analysis} {scope : Scope} {base : Nat} {n n' : Naming}
  {part : List Instr}

section Sequences

/-- Compiling operands one after the other requests their calls in order. -/
theorem requesting_compileSeq {xs : List Rule} (ih : ∀ x ∈ xs, x.RequestsWell c facts) :
    ∀ {base n code n'}, (compileSeq c facts scope base xs).run n = .ok (code, n') →
      Requesting (xs.flatMap (extensionCalls c)) n code n' := by
  induction xs with
  | nil =>
    intro base n code n' h
    obtain ⟨rfl, rfl⟩ := CompileM.run_pure_ok h
    exact Requesting.plain rfl
  | cons x rest hrest =>
    intro base n code n' h
    rw [compileSeq] at h
    obtain ⟨code₁, n₁, h₁, h⟩ := CompileM.run_bind_ok h
    obtain ⟨code₂, h₂, rfl⟩ := CompileM.run_bind_pure_ok h
    rw [List.flatMap_cons]
    exact (ih x (by simp) _ _ _ _ _ h₁).append (hrest (fun y hy => ih y (by simp [hy])) h₂)

/-- Compiled operands, then instructions without extension calls. -/
theorem requesting_seqThen {xs : List Rule} (ih : ∀ x ∈ xs, x.RequestsWell c facts)
    {post : List Instr} (hpost : blockCalls post = [])
    (hc : (do let code ← compileSeq c facts scope base xs; pure (code ++ post) :
      CompileM (List Instr)).run n = .ok (part, n')) :
    Requesting (xs.flatMap (extensionCalls c)) n part n' := by
  obtain ⟨code, h₁, rfl⟩ := CompileM.run_bind_pure_ok hc
  exact (requesting_compileSeq ih h₁).append_plain hpost

/-- Compiling the operands of `+` requests their calls in order. -/
theorem requesting_compileSum {xs : List Rule} (ih : ∀ x ∈ xs, x.RequestsWell c facts) :
    ∀ {base first n code n'}, (compileSum c facts scope base first xs).run n = .ok (code, n') →
      Requesting (xs.flatMap (extensionCalls c)) n code n' := by
  induction xs with
  | nil =>
    intro base first n code n' h
    obtain ⟨rfl, rfl⟩ := CompileM.run_pure_ok h
    exact Requesting.plain rfl
  | cons x rest hrest =>
    intro base first n code n' h
    rw [compileSum] at h
    obtain ⟨code₁, n₁, h₁, h⟩ := CompileM.run_bind_ok h
    obtain ⟨code₂, h₂, rfl⟩ := CompileM.run_bind_pure_ok h
    rw [List.flatMap_cons]
    refine (((ih x (by simp) _ _ _ _ _ h₁).append_plain
      (blockCalls_numberCall facts x)).append_plain ?_).append
        (hrest (fun y hy => ih y (by simp [hy])) h₂)
    split <;> simp [Instr.calls]

/-- Compiling the operands of `*` requests their calls in order. -/
theorem requesting_compileProduct {xs : List Rule} (ih : ∀ x ∈ xs, x.RequestsWell c facts) :
    ∀ {base first n code n'}, (compileProduct c facts scope base first xs).run n = .ok (code, n') →
      Requesting (xs.flatMap (extensionCalls c)) n code n' := by
  induction xs with
  | nil =>
    intro base first n code n' h
    obtain ⟨rfl, rfl⟩ := CompileM.run_pure_ok h
    exact Requesting.plain rfl
  | cons x rest hrest =>
    intro base first n code n' h
    rw [compileProduct] at h
    obtain ⟨code₁, n₁, h₁, h⟩ := CompileM.run_bind_ok h
    obtain ⟨code₂, h₂, rfl⟩ := CompileM.run_bind_pure_ok h
    rw [List.flatMap_cons]
    refine ((ih x (by simp) _ _ _ _ _ h₁).append_plain ?_).append
      (hrest (fun y hy => ih y (by simp [hy])) h₂)
    split <;> simp [Instr.calls]

/-- The minimum and the keys of `missing_some`: its first two arguments. -/
theorem requesting_compileMissingSome {xs : List Rule} (ih : ∀ x ∈ xs, x.RequestsWell c facts)
    (hc : (compileMissingSome c facts scope base xs).run n = .ok (part, n')) :
    Requesting ((xs.take 2).flatMap (extensionCalls c)) n part n' := by
  match xs, ih with
  | [], _ =>
    obtain ⟨rfl, rfl⟩ := CompileM.run_pure_ok hc
    exact Requesting.plain (by simp [Instr.calls])
  | [least], ih =>
    rw [compileMissingSome] at hc
    obtain ⟨code, h₁, rfl⟩ := CompileM.run_bind_pure_ok hc
    have h := ((ih least (by simp) _ _ _ _ _ h₁).plain_append
      (show blockCalls [.load scope] = [] by simp [Instr.calls])).append_plain
        (show blockCalls [.push (.array []), .callRoutine .missingSome 3] = [] by
          simp [Instr.calls])
    simpa using h
  | least :: keys :: _, ih =>
    rw [compileMissingSome] at hc
    obtain ⟨code₁, n₁, h₁, hc⟩ := CompileM.run_bind_ok hc
    obtain ⟨code₂, h₂, rfl⟩ := CompileM.run_bind_pure_ok hc
    have h := (((ih least (by simp) _ _ _ _ _ h₁).plain_append
      (show blockCalls [.load scope] = [] by simp [Instr.calls])).append
        (ih keys (by simp) _ _ _ _ _ h₂)).append_plain
          (show blockCalls [.callRoutine .missingSome 3] = [] by simp [Instr.calls])
    simpa using h

end Sequences

section Var

/-- A `var`: nothing for the whole scope; its path, then its default when it has one. -/
theorem requesting_compileVar {key : String} (hb : c.builtin? key = some .var) {xs : List Rule}
    (ih : ∀ x ∈ xs, x.RequestsWell c facts)
    (hc : (compileVar c facts scope base xs).run n = .ok (part, n')) :
    Requesting ((visitedArgs c key xs).flatMap (extensionCalls c)) n part n' := by
  match xs, ih with
  | [], _ =>
    obtain ⟨rfl, rfl⟩ := CompileM.run_pure_ok hc
    simp only [visitedArgs, hb]
    exact Requesting.plain (by simp [Instr.calls])
  | path :: rest, ih =>
    rw [compileVar] at hc
    rcases hv : varPath path with _ | _ | segs | _
    · simp only [hv] at hc
      obtain ⟨rfl, rfl⟩ := CompileM.run_pure_ok hc
      simp only [visitedArgs, hb, hv]
      exact Requesting.plain (by simp [Instr.calls])
    · -- a computed path, then the default or null
      simp only [hv] at hc
      obtain ⟨pathCode, n₁, h₁, hc⟩ := CompileM.run_bind_ok hc
      have hpath := (ih path (by simp) _ _ _ _ _ h₁).plain_append
        (show blockCalls [.load scope] = [] by simp [Instr.calls])
      simp only [visitedArgs, hb, hv]
      cases rest with
      | nil =>
        obtain ⟨defaultCode, n₂, h₂, hc⟩ := CompileM.run_bind_ok hc
        obtain ⟨rfl, rfl⟩ := CompileM.run_pure_ok h₂
        obtain ⟨rfl, rfl⟩ := CompileM.run_pure_ok hc
        simpa using (hpath.append_plain
          (show blockCalls [.push .null] = [] by simp [Instr.calls])).append_plain
            (show blockCalls [.callRoutine .resolve 3] = [] by simp [Instr.calls])
      | cons d _ =>
        obtain ⟨defaultCode, h₂, rfl⟩ := CompileM.run_bind_pure_ok hc
        simpa using (hpath.append (ih d (by simp) _ _ _ _ _ h₂)).append_plain
          (show blockCalls [.callRoutine .resolve 3] = [] by simp [Instr.calls])
    · -- a literal path, then the default behind its jump
      simp only [hv] at hc
      simp only [visitedArgs, hb, hv, List.flatMap_cons, extensionCalls_of_varPath_segments hv,
        List.nil_append]
      cases rest with
      | nil =>
        obtain ⟨rfl, rfl⟩ := CompileM.run_pure_ok hc
        exact Requesting.plain (by simp [Instr.calls])
      | cons d _ =>
        obtain ⟨defaultCode, h₁, rfl⟩ := CompileM.run_bind_pure_ok hc
        simpa using (ih d (by simp) _ _ _ _ _ h₁).plain_append
          (p := [.loadPath scope segs, .jumpIfPresent (base + 2 + defaultCode.length)])
            (by simp [Instr.calls])
    · simp only [hv] at hc
      exact absurd hc CompileM.run_throw_ok

end Var

section Chains

/-- The branches of an `if` chain, wherever they are placed. -/
theorem requesting_compileBranches {xs : List Rule} (ih : ∀ x ∈ xs, x.RequestsWell c facts) :
    ∀ {base n pairs last n'},
      (compileBranches c facts scope base xs).run n = .ok ((pairs, last), n') →
      ∀ stop pos,
        Requesting (xs.flatMap (extensionCalls c)) n (assembleIf.go last stop pos pairs) n' := by
  match xs, ih with
  | [], _ =>
    intro base n pairs last n' h stop pos
    rw [compileBranches] at h
    cases h
    exact Requesting.plain (by simp [assembleIf.go, Instr.calls])
  | [x], ih =>
    intro base n pairs last n' h stop pos
    rw [compileBranches] at h
    obtain ⟨code, n₁, h₁, h⟩ := CompileM.run_bind_ok h
    cases h
    simpa [assembleIf.go] using ih x (by simp) _ _ _ _ _ h₁
  | x :: y :: rest, ih =>
    intro base n pairs last n' h stop pos
    rw [compileBranches] at h
    obtain ⟨condCode, n₁, h₁, h⟩ := CompileM.run_bind_ok h
    obtain ⟨thenCode, n₂, h₂, h⟩ := CompileM.run_bind_ok h
    obtain ⟨⟨pairs', last'⟩, n₃, h₃, h⟩ := CompileM.run_bind_ok h
    cases h
    have hrest := requesting_compileBranches (fun z hz => ih z (by simp [hz])) h₃ stop
      (pos + (condCode ++ truthyCall facts x).length + thenCode.length + 2)
    rw [assembleIf_go_cons]
    have h := (((((ih x (by simp) _ _ _ _ _ h₁).append_plain
      (blockCalls_truthyCall facts x)).append_plain
        (show blockCalls [.jumpIfFalse (pos + (condCode ++ truthyCall facts x).length +
          thenCode.length + 2)] = [] by simp [Instr.calls])).append
      (ih y (by simp) _ _ _ _ _ h₂)).append_plain
        (show blockCalls [.jump stop] = [] by simp [Instr.calls])).append hrest
    simpa [List.flatMap_cons, List.append_assoc] using h

/-- The operands of `and` and `or`, wherever they are placed. -/
theorem requesting_compileShort {xs : List Rule} (ih : ∀ x ∈ xs, x.RequestsWell c facts) :
    ∀ {base n parts last n'},
      (compileShort c facts scope base xs).run n = .ok ((parts, last), n') →
      ∀ isAnd stop,
        Requesting (xs.flatMap (extensionCalls c)) n (shortCode isAnd stop parts last) n' := by
  match xs, ih with
  | [], _ =>
    intro base n parts last n' h isAnd stop
    rw [compileShort] at h
    cases h
    exact Requesting.plain (by simp [Instr.calls])
  | [x], ih =>
    intro base n parts last n' h isAnd stop
    rw [compileShort] at h
    obtain ⟨code, n₁, h₁, h⟩ := CompileM.run_bind_ok h
    cases h
    simpa using ih x (by simp) _ _ _ _ _ h₁
  | x :: y :: rest, ih =>
    intro base n parts last n' h isAnd stop
    rw [compileShort] at h
    · obtain ⟨code, n₁, h₁, h⟩ := CompileM.run_bind_ok h
      obtain ⟨⟨parts', last'⟩, n₂, h₂, h⟩ := CompileM.run_bind_ok h
      cases h
      have hrest :=
        requesting_compileShort (fun z hz => ih z (List.mem_cons_of_mem x hz)) h₂ isAnd stop
      rw [shortCode_cons]
      have h := ((((ih x (by simp) _ _ _ _ _ h₁).append_plain
        (show blockCalls [.dup] = [] by simp [Instr.calls])).append_plain
          (blockCalls_truthyCall facts x)).append_plain
        (show blockCalls [if isAnd then .jumpIfFalse stop else .jumpIfTrue stop, .pop] = [] by
          cases isAnd <;> simp [Instr.calls])).append hrest
      simpa [List.flatMap_cons] using h
    · exact List.cons_ne_nil y rest

/-- A comparison of two or three operands; the middle one of three is compiled twice. -/
theorem requesting_chain {cmp : Instr} (hcmp : cmp.calls = []) {xs : List Rule}
    (ih : ∀ x ∈ xs, x.RequestsWell c facts) (hlen : 2 ≤ xs.length ∧ xs.length ≤ 3)
    (hc : (do let windows ← compileWindows c facts scope base xs
              pure (assembleChain cmp base windows) : CompileM (List Instr)).run n =
            .ok (part, n')) :
    Requesting (xs.flatMap (extensionCalls c)) n part n' := by
  obtain ⟨windows, h₁, rfl⟩ := CompileM.run_bind_pure_ok hc
  match xs, hlen, ih with
  | [a, b], _, ih =>
    rw [compileWindows] at h₁
    obtain ⟨code₁, n₂, h₂, h₁⟩ := CompileM.run_bind_ok h₁
    obtain ⟨code₂, h₃, rfl⟩ := CompileM.run_bind_pure_ok h₁
    have h := (ih a (by simp) _ _ _ _ _ h₂).append (ih b (by simp) _ _ _ _ _ h₃)
    refine (by simpa using h : Requesting _ n _ _).of_calls_eq ?_
    simp [assembleChain, assembleChain.go, hcmp]
  | [a, b, d], _, ih =>
    rw [compileWindows] at h₁
    obtain ⟨code₁, n₂, h₂, h₁⟩ := CompileM.run_bind_ok h₁
    obtain ⟨code₂, n₃, h₃, h₁⟩ := CompileM.run_bind_ok h₁
    obtain ⟨code₃, n₄, h₄, h₁⟩ := CompileM.run_bind_ok h₁
    obtain ⟨code₄, h₅, rfl⟩ := CompileM.run_bind_pure_ok h₁
    have h := ((((ih a (by simp) _ _ _ _ _ h₂).append (ih b (by simp) _ _ _ _ _ h₃)).append
      (ih b (by simp) _ _ _ _ _ h₄)).append (ih d (by simp) _ _ _ _ _ h₅)).again
    refine (by simpa using h : Requesting _ n _ _).of_calls_eq ?_
    simp [assembleChain, assembleChain.go, hcmp, Instr.calls]

end Chains

section Operations

variable {key : String} {args : List Rule} {br : Bool}

/-- An iteration: its source, then its body inside the instruction. -/
theorem requesting_iteration {b : Builtin} {kind : IterKind} (hb : c.builtin? key = some b)
    (hk : b.iterKind? = some kind) (ih : ∀ x ∈ args, x.RequestsWell c facts)
    (hc : ((operation key args br).compile c facts scope base).run n = .ok (part, n')) :
    Requesting (args.flatMap (extensionCalls c)) n part n' := by
  obtain ⟨source, body, sourceCode, bodyCode, n₁, rfl, h₁, h₂, rfl⟩ := compile_iteration hb hk hc
  have hbody : Requesting (body.extensionCalls c) n₁
      [.iterate kind (bodyCode ++ iterTest facts kind body) (!facts.isArray source)] n' :=
    (ih body (by simp) _ _ _ _ _ h₂).of_calls_eq (by simp [Instr.calls])
  simpa using (ih source (by simp) _ _ _ _ _ h₁).append hbody

/-- A reduce: its source, its initial value if it has one, then its body inside the
instruction. -/
theorem requesting_reduce (hb : c.builtin? key = some .reduce)
    (ih : ∀ x ∈ args, x.RequestsWell c facts)
    (hc : ((operation key args br).compile c facts scope base).run n = .ok (part, n')) :
    Requesting ((visitedArgs c key args).flatMap (extensionCalls c)) n part n' := by
  obtain ⟨source, body, rest, sourceCode, initCode, bodyCode, n₁, n₂, rfl, -, h₁, hinit, h₃, rfl⟩ :=
    compile_reduce_ok (Catalog.lookup_of_builtin? hb) hc
  have hsource := ih source (by simp) _ _ _ _ _ h₁
  have hbody : Requesting (body.extensionCalls c) n₂ [.reduce bodyCode (!facts.isArray source)
      (rest.length == 1) (readsData bodyCode)] n' :=
    (ih body (by simp) _ _ _ _ _ h₃).of_calls_eq (by simp [Instr.calls])
  simp only [visitedArgs, hb]
  rcases hinit with ⟨rfl, rfl, rfl⟩ | ⟨init, rfl, h₂⟩
  · simpa using (hsource.append_plain (show blockCalls [] = [] from rfl)).append hbody
  · simpa using (hsource.append (ih init (by simp) _ _ _ _ _ h₂)).append hbody

/-- A builtin operation makes the calls of the arguments it looks at, in order, each builtin by
its own scheme. -/
theorem requestsWell_builtin {op : Builtin} (hl : c.lookup key = some (.builtin op))
    (ih : ∀ x ∈ args, x.RequestsWell c facts) : (operation key args br).RequestsWell c facts := by
  intro scope base n part n' hc
  have hb : c.builtin? key = some op := by simp [Catalog.builtin?, hl]
  rw [extensionCalls_builtin hl]
  cases op
  case reduce => exact requesting_reduce hb ih hc
  case var =>
    rw [compile.eq_def] at hc
    simp only [hl, Builtin.arity] at hc
    exact requesting_compileVar hb ih hc
  case missingSome =>
    rw [compile.eq_def] at hc
    simp only [hl, Builtin.arity] at hc
    simp only [visitedArgs, hb]
    exact requesting_compileMissingSome ih hc
  case cond =>
    rw [compile.eq_def] at hc
    simp only [hl, Builtin.arity] at hc
    simp only [visitedArgs, hb]
    split at hc
    · obtain ⟨rfl, rfl⟩ := CompileM.run_pure_ok hc
      rw [if_pos ‹_›]
      exact Requesting.plain (by simp [Instr.calls])
    · obtain ⟨⟨pairs, last⟩, n₁, h₁, hc⟩ := CompileM.run_bind_ok hc
      obtain ⟨rfl, rfl⟩ := CompileM.run_pure_ok hc
      rw [if_neg ‹_›, assembleIf_eq]
      exact requesting_compileBranches ih h₁ _ _
  all_goals rw [visitedArgs_of_ne hb (by simp) (by simp) (by simp) (by simp)]
  case map | filter | allOf | noneOf | someOf => exact requesting_iteration hb rfl ih hc
  case missing =>
    obtain ⟨code, h₁, rfl⟩ := compile_missing_ok hl hc
    exact ((requesting_compileSeq ih h₁).plain_append
      (show blockCalls [.load scope] = [] by simp [Instr.calls])).append_plain
        (show blockCalls [.callRoutine .missing (args.length + 1)] = [] by simp [Instr.calls])
  case not =>
    obtain ⟨x, code, rfl, h₁, rfl⟩ := compile_not_ok hl hc
    simpa using ((ih x (by simp) _ _ _ _ _ h₁).append_plain
      (blockCalls_truthyCall facts x)).append_plain
        (show blockCalls [.not] = [] by simp [Instr.calls])
  case notNot =>
    obtain ⟨x, code, rfl, h₁, rfl⟩ := compile_notNot_ok hl hc
    simpa using (ih x (by simp) _ _ _ _ _ h₁).append_plain (by split <;> simp [Instr.calls])
  case mul =>
    rcases compile_mul_ok hl hc with ⟨x, code, rfl, h₁, rfl⟩ | ⟨-, hc⟩
    · simpa using (ih x (by simp) _ _ _ _ _ h₁).append_plain (blockCalls_numberCall facts x)
    · exact requesting_compileProduct ih hc
  case member =>
    obtain ⟨x, y, code₁, code₂, n₁, rfl, h₁, h₂, rfl⟩ := compile_member_ok hl hc
    simpa using ((ih x (by simp) _ _ _ _ _ h₁).append (ih y (by simp) _ _ _ _ _ h₂)).append_plain
      (by simp [Instr.calls])
  all_goals
    rw [compile.eq_def] at hc
    simp only [hl, Builtin.arity, Builtin.exactly] at hc
  case eq | strictEq | ne | strictNe | div | mod | substr | log =>
    obtain ⟨-, hc⟩ := CompileM.run_unless_throw_ok hc
    exact requesting_seqThen ih (by simp [Instr.calls]) hc
  case sub =>
    obtain ⟨-, hc⟩ := CompileM.run_unless_throw_ok hc
    exact requesting_seqThen ih (by split <;> simp [Instr.calls]) hc
  case max | min => exact requesting_seqThen ih (by simp [Instr.calls]) hc
  case and | or =>
    split at hc
    next hempty =>
      obtain ⟨rfl, rfl⟩ := CompileM.run_pure_ok hc
      rw [List.isEmpty_iff.1 hempty]
      exact Requesting.plain (by simp [Instr.calls])
    next =>
      obtain ⟨⟨parts, last⟩, h₁, rfl⟩ := CompileM.run_bind_pure_ok hc
      rw [assembleShort_eq]
      exact requesting_compileShort ih h₁ _ _
  case gt | gte | lt | lte =>
    obtain ⟨hadm, hc⟩ := CompileM.run_unless_throw_ok hc
    have hlen := length_of_admits hadm
    simp only [Option.some.injEq, forall_eq'] at hlen
    exact requesting_chain (by simp [Instr.calls]) ih hlen hc
  case add =>
    obtain ⟨-, hc⟩ := CompileM.run_unless_throw_ok hc
    exact requesting_compileSum ih hc
  case merge =>
    split at hc
    · -- constant operands, merged while compiling
      obtain ⟨rfl, rfl⟩ := CompileM.run_pure_ok hc
      rw [flatMap_extensionCalls_of_constantItems ‹_›]
      exact Requesting.plain (by simp [Instr.calls])
    · obtain ⟨code, n₁, h₁, hc⟩ := CompileM.run_bind_ok hc
      split at hc
      all_goals
        obtain ⟨rfl, rfl⟩ := CompileM.run_pure_ok hc
        exact (requesting_compileSeq ih h₁).append_plain (by simp [Instr.calls])
  case cat =>
    split at hc
    next hempty =>
      obtain ⟨rfl, rfl⟩ := CompileM.run_pure_ok hc
      rw [List.isEmpty_iff.1 hempty]
      exact Requesting.plain (by simp [Instr.calls])
    · split at hc
      all_goals exact requesting_seqThen ih (by simp [Instr.calls]) hc

/-- An extension operation: its key named before its operands are compiled, then the call of
its slot. -/
theorem requestsWell_extension {op : Operation} (hl : c.lookup key = some (.extension op))
    (ih : ∀ x ∈ args, x.RequestsWell c facts) : (operation key args br).RequestsWell c facts := by
  intro scope base n part n' hc
  rw [extensionCalls_extension hl]
  obtain ⟨code, h₁, rfl⟩ := compile_extension_ok hl hc
  have hargs := requesting_compileSeq ih h₁
  refine ⟨?_, fun N hN call => ?_⟩
  · rw [hargs.names, List.map_cons, Naming.resolveEach_cons]
  · -- the key keeps the binding it was given first
    have hkey : N.bindings.lookup key = some (n.resolve key).1 :=
      Naming.lookup_of_prefix (hargs.grows.trans hN) (Naming.lookup_resolve n key)
    rw [blockCalls_append, List.mem_append, hargs.calls N hN call]
    simp [slotCall, hkey, Instr.calls, or_comm]

end Operations

/-- Every compilation of every rule, at any place and from any names, names the keys of the
rule's extension calls in turn and emits exactly those calls. -/
theorem compile_requests (r : Rule) : r.RequestsWell c facts := by
  induction r using Rule.induction with
  | literal v =>
    intro scope base n part n' hc
    obtain ⟨rfl, rfl⟩ := CompileM.run_pure_ok hc
    rw [extensionCalls_literal]
    exact Requesting.plain (by simp [Instr.calls])
  | list items ih =>
    intro scope base n part n' hc
    rw [compile] at hc
    rw [extensionCalls_list]
    split at hc
    · obtain ⟨rfl, rfl⟩ := CompileM.run_pure_ok hc
      rw [flatMap_extensionCalls_of_constantItems ‹_›]
      exact Requesting.plain (by simp [Instr.calls])
    · exact requesting_seqThen ih (by simp [Instr.calls]) hc
  | operation key args br ih =>
    rcases hl : c.lookup key with _ | entry
    · intro scope base n part n' hc
      exact absurd hc (compile_unknown_ok hl)
    · cases entry with
      | builtin op => exact requestsWell_builtin hl ih
      | extension op => exact requestsWell_extension hl ih

end Rule

/-! ## The records of the compiler's output -/

/-- What the compiler's output records about its code, and where linking puts it. -/
structure Output.Records (c : Catalog) (r : Rule) (o : Output) : Prop where
  /-- The support routines are those the code calls, at any depth. -/
  support : ∀ rt, rt ∈ o.support ↔ rt ∈ blockRoutines o.code
  /-- Each routine once, in reporting order. -/
  support_sublist : List.Sublist o.support Routine.all
  /-- One operator per key of the rule's extension calls, in the order the walk first reaches
  the key. -/
  keys : o.operations.map (·.key) = ((r.extensionCalls c).map Prod.fst).eraseDups
  /-- Each operator's identifier is the one a fresh naming gives its key, the keys named in the
  order the walk reaches them. -/
  identifiers : o.operations.map (fun b => (b.key, b.identifier)) =
    (Naming.ofKeys ((r.extensionCalls c).map Prod.fst)).bindings.map fun kb =>
      (kb.1, kb.2.identifier)
  /-- Each operator is the catalog's extension for its key. -/
  operations : ∀ b ∈ o.operations, c.lookup b.key = some (.extension b.operation)
  /-- Every call of the code, at any depth, is made for an extension operation that the walk
  reaches, with its number of arguments, at the slot of the operator of its key; and every such
  operation has its call. -/
  calls : ∀ slot argc, (slot, argc) ∈ blockCalls o.code ↔
    ∃ (key : String) (args : List Rule) (br : Bool) (op : Operation),
      Rule.operation key args br ∈ r.walk c ∧ c.lookup key = some (.extension op) ∧
        args.length = argc ∧ (o.operations[slot]?).map (·.key) = some key
  /-- Linking attaches the support routines, in their order. -/
  link_routines : ((Program.ofOutput o).link c).routines = o.support
  /-- Linking puts each operator in its slot. -/
  link_operations : ((Program.ofOutput o).link c).operations =
    o.operations.map fun b => (b.key, b.operation)

/-- A key bound by compiling a rule is the key of one of its extension operations. -/
theorem Rule.extension_of_mem_ofKeys {c : Catalog} {r : Rule} {key : String} {b : Binding}
    (h : (key, b) ∈ (Naming.ofKeys ((r.extensionCalls c).map Prod.fst)).bindings) :
    ∃ args br op, Rule.operation key args br ∈ r.walk c ∧ c.lookup key = some (.extension op) := by
  have hk : key ∈ (r.extensionCalls c).map Prod.fst := by
    rw [← List.mem_eraseDups, ← Naming.keys_ofKeys]
    exact List.mem_map.2 ⟨(key, b), h, rfl⟩
  obtain ⟨⟨k, argc⟩, hmem, rfl⟩ := List.mem_map.1 hk
  obtain ⟨args, br, op, hnode, hl, -⟩ := Rule.mem_extensionCalls.1 hmem
  exact ⟨args, br, op, hnode, hl⟩

/-- The key of the operator at a slot is the key bound at that slot. -/
theorem Naming.key_operationsIn (N : Naming) (c : Catalog) (slot : Nat) :
    ((N.operationsIn c)[slot]?).map (·.key) = (N.bindings[slot]?).map Prod.fst := by
  simp only [Naming.operationsIn, List.getElem?_map, Option.map_map]
  rfl

/-- A call made at a slot under a valid naming is the call of an extension operation that the
walk reaches, with its number of arguments, whose key is bound at that slot. -/
theorem Rule.mem_filterMap_slotCall {c : Catalog} {r : Rule} {N : Naming} (hvalid : N.Valid)
    {slot argc : Nat} :
    (slot, argc) ∈ (r.extensionCalls c).filterMap (slotCall N.bindings) ↔
      ∃ (key : String) (args : List Rule) (br : Bool) (op : Operation),
        Rule.operation key args br ∈ r.walk c ∧ c.lookup key = some (.extension op) ∧
          args.length = argc ∧ (N.bindings[slot]?).map Prod.fst = some key := by
  rw [List.mem_filterMap]
  constructor
  · rintro ⟨⟨key, argc'⟩, hmem, hcall⟩
    obtain ⟨b, hb, hcall⟩ := Option.map_eq_some_iff.1 hcall
    obtain ⟨rfl, rfl⟩ := Prod.mk.inj hcall
    obtain ⟨args, br, op, hnode, hl, hlen⟩ := Rule.mem_extensionCalls.1 hmem
    exact ⟨key, args, br, op, hnode, hl, hlen, by simp [hvalid.getElem?_slot hb]⟩
  · rintro ⟨key, args, br, op, hnode, hl, rfl, hat⟩
    obtain ⟨⟨key', b⟩, hat', rfl⟩ := Option.map_eq_some_iff.1 hat
    obtain ⟨hb, hslot⟩ := hvalid.lookup_of_getElem? hat'
    exact ⟨(key', args.length), Rule.mem_extensionCalls.2 ⟨args, br, op, hnode, hl, rfl⟩,
      by simp [slotCall, hb, hslot]⟩

/-- Linking reads each operator by its key, so where every operator of an output is the
catalog's extension for its key, each lands in its own slot. -/
theorem Program.link_ofOutput_operations {c : Catalog} {o : Output}
    (h : ∀ b ∈ o.operations, c.lookup b.key = some (.extension b.operation)) :
    ((Program.ofOutput o).link c).operations = o.operations.map fun b => (b.key, b.operation) := by
  simp only [Program.link, Program.ofOutput, List.map_map]
  change List.map ((fun b : OperationBinding =>
    (b.key, (c.extensions.lookup b.key).getD fun _ => .ok .null)) ∘ Prod.fst) _ = _
  rw [← List.map_map, List.zipIdx_map_fst]
  refine List.map_congr_left fun b hb => ?_
  rw [Catalog.extensions_lookup_of_lookup (h b hb)]
  rfl

namespace Output

variable {c : Catalog} {facts : Analysis} {r : Rule} {o : Output}

/-- The compiler's output records exactly the routines and extension calls of its code, each
operator with its key's identifier, and linking binds them slot for slot. -/
theorem ofRule_records (h : Output.ofRule c facts r = .ok o) : o.Records c r := by
  rw [Output.ofRule_eq_compile] at h
  split at h
  · cases h
  rename_i code N hc
  cases h
  have hreq := Rule.compile_requests r _ _ _ _ _ hc
  have hN : N = Naming.ofKeys ((r.extensionCalls c).map Prod.fst) := hreq.names
  have hvalid : N.Valid := hN ▸ Naming.valid_ofKeys _
  have hop : ∀ kb ∈ N.bindings,
      c.lookup kb.1 = some (.extension ((c.extensions.lookup kb.1).getD fun _ => .ok .null)) := by
    intro kb hkb
    obtain ⟨-, -, op, -, hl⟩ := Rule.extension_of_mem_ofKeys (hN ▸ hkb)
    rw [Catalog.extensions_lookup_of_lookup hl]
    exact hl
  have hops : ∀ b ∈ N.operationsIn c, c.lookup b.key = some (.extension b.operation) := by
    intro b hb
    obtain ⟨kb, hkb, rfl⟩ := List.mem_map.1 hb
    exact hop kb hkb
  refine ⟨fun rt => Routine.mem_sortUnique, List.filter_sublist, ?_, ?_, hops, ?_, rfl,
    Program.link_ofOutput_operations hops⟩
  · simp only [Naming.operationsIn, List.map_map]
    rw [hN, ← Naming.keys_ofKeys]
    rfl
  · simp only [Naming.operationsIn, List.map_map, hN]
    rfl
  · intro slot argc
    rw [hreq.calls N (List.prefix_refl _), Naming.key_operationsIn]
    exact Rule.mem_filterMap_slotCall hvalid

/-- An extension called inside the body of a `map`: its operator takes slot 0, with the key as
its identifier, and the call in the body is the call of that slot with one argument. -/
theorem ofRule_records_map_call :
    Output.ofRule ⟨[("f", fun _ => .ok .null)]⟩ (Analysis.ofCatalog ⟨[("f", fun _ => .ok .null)]⟩)
        (.operation "map" [.list [.literal (.int 1), .literal (.int 2)],
          .operation "f" [.operation "var" [.literal (.string "")] false] true] true) =
      .ok ⟨[.push (.array [.int 1, .int 2]), .iterate .map [.load .item, .callOp 0 1] false], [],
        [⟨"f", "f", fun _ => .ok .null⟩]⟩ ∧
    Records ⟨[("f", fun _ => .ok .null)]⟩
      (.operation "map" [.list [.literal (.int 1), .literal (.int 2)],
        .operation "f" [.operation "var" [.literal (.string "")] false] true] true)
      ⟨[.push (.array [.int 1, .int 2]), .iterate .map [.load .item, .callOp 0 1] false], [],
        [⟨"f", "f", fun _ => .ok .null⟩]⟩ := by
  have ho : Output.ofRule ⟨[("f", fun _ => .ok .null)]⟩
      (Analysis.ofCatalog ⟨[("f", fun _ => .ok .null)]⟩)
      (.operation "map" [.list [.literal (.int 1), .literal (.int 2)],
        .operation "f" [.operation "var" [.literal (.string "")] false] true] true) =
      .ok ⟨[.push (.array [.int 1, .int 2]), .iterate .map [.load .item, .callOp 0 1] false], [],
        [⟨"f", "f", fun _ => .ok .null⟩]⟩ := by
    cbv
  exact ⟨ho, ofRule_records ho⟩

end Output

end RuleMachine
