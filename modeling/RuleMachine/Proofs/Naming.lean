import Mathlib
import RuleMachine.Code.Naming

/-!
# Naming extension keys

A compilation names the extension keys it calls by `Naming.resolve`. Over any sequence of
requests from a fresh naming the answers are consistent and collision-free: a key asked
again gets its first binding back, distinct keys get distinct identifiers, every identifier
is identifier-shaped and not reserved, slots count up in order of first request, and a new
key gets the name it prefers unless that name is taken, else the least positional name not
yet taken.

The last point rests on an invariant of the positional counter: every positional name below
it is taken. The counter's search is bounded by fuel, and a pigeonhole count shows that the
fuel always reaches a free name.
-/

namespace RuleMachine

namespace Naming

/-- The positional name `_n`. -/
def positionalName (n : Nat) : String := "_" ++ toString n

/-- The name a key asks for: the key itself when it is identifier-shaped, else its
kebab-to-camel form when that is, prefixed by `_` when reserved; nothing otherwise. -/
def preferred (key : String) : Option String :=
  let candidate := if isIdentifier key then key else String.ofList (camelOfKebab key.toList)
  if isIdentifier candidate then
    some (if isReserved candidate then "_" ++ candidate else candidate)
  else none

/-- `name` is the least positional name that `claimed` does not hold. -/
def LeastFree (claimed : List String) (name : String) : Prop :=
  ∃ n, name = positionalName n ∧ name ∉ claimed ∧ ∀ m < n, positionalName m ∈ claimed

/-- `name` is what a key met for the first time receives while `claimed` holds the names
taken so far: its preferred name unless that is taken, else the least free positional
name. -/
def Fresh (claimed : List String) (key name : String) : Prop :=
  match preferred key with
  | some wanted => if wanted ∈ claimed then LeastFree claimed name else name = wanted
  | none => LeastFree claimed name

/-! ## Shapes of names -/

theorem toList_positionalName (n : Nat) :
    (positionalName n).toList = '_' :: Nat.toDigits 10 n := by
  simp [positionalName]

theorem positionalName_injective : Function.Injective positionalName := by
  intro m n h
  have hd : Nat.toDigits 10 m = Nat.toDigits 10 n := by
    simpa [toList_positionalName] using congrArg String.toList h
  rw [← Nat.ofDigitChars_ten_toDigits (n := m), hd, Nat.ofDigitChars_ten_toDigits]

/-- A `_` in front of identifier characters makes an identifier. -/
theorem isIdentifier_underscore {s : String} (h : s.toList.all isIdentPart = true) :
    isIdentifier ("_" ++ s) = true := by
  simp only [isIdentifier, String.toList_append]
  simpa [isIdentStart] using h

theorem all_isIdentPart_of_isIdentifier {s : String} (h : isIdentifier s = true) :
    s.toList.all isIdentPart = true := by
  unfold isIdentifier at h
  split at h
  · simp at h
  · rename_i c rest hs
    rw [hs]
    simp only [Bool.and_eq_true] at h
    have hc : isIdentPart c = true := by
      simp only [isIdentStart, Bool.or_eq_true, beq_iff_eq] at h
      simp only [isIdentPart, Char.isAlphanum, Bool.or_eq_true, beq_iff_eq]
      tauto
    simp [hc, h.2]

theorem isIdentifier_positionalName (n : Nat) : isIdentifier (positionalName n) = true := by
  apply isIdentifier_underscore
  rw [Nat.toString_eq_ofList_toDigits, String.toList_ofList, List.all_eq_true]
  intro c hc
  have hd := Nat.isDigit_of_mem_toDigits (by decide) (by decide) hc
  simp [isIdentPart, Char.isAlphanum, hd]

/-- No reserved word starts with `_`. -/
theorem isReserved_eq_false_of_head {name : String} (h : name.toList.head? = some '_') :
    isReserved name = false := by
  have hk : ∀ w ∈ keywords, w.toList.head? ≠ some '_' := by decide
  have hs : ∀ w ∈ scopeNames, w.toList.head? ≠ some '_' := by decide
  have hh : ∀ w ∈ hostNames, w.toList.head? ≠ some '_' := by decide
  have hr : ∀ r ∈ Routine.all, r.name.toList.head? ≠ some '_' := by decide
  simp only [isReserved, Bool.or_eq_false_iff, List.any_eq_false, beq_iff_eq]
  refine ⟨⟨⟨?_, ?_⟩, ?_⟩, fun r hm he => hr r hm (he ▸ h)⟩
  · simpa using fun hm => hk _ hm h
  · simpa using fun hm => hs _ hm h
  · simpa using fun hm => hh _ hm h

theorem isReserved_underscore (s : String) : isReserved ("_" ++ s) = false :=
  isReserved_eq_false_of_head (by simp)

theorem isReserved_positionalName (n : Nat) : isReserved (positionalName n) = false :=
  isReserved_underscore _

/-- A preferred name is an identifier and not reserved. -/
theorem preferred_valid {key wanted : String} (h : preferred key = some wanted) :
    isIdentifier wanted = true ∧ isReserved wanted = false := by
  simp only [preferred] at h
  generalize (if isIdentifier key = true then key else String.ofList (camelOfKebab key.toList)) = c
    at h
  by_cases hid : isIdentifier c = true
  · rw [if_pos hid, Option.some.injEq] at h
    subst h
    by_cases hres : isReserved c = true
    · rw [if_pos hres]
      exact ⟨isIdentifier_underscore (all_isIdentPart_of_isIdentifier hid),
        isReserved_underscore _⟩
    · rw [if_neg hres]
      exact ⟨hid, by simpa using hres⟩
  · rw [if_neg hid] at h
    cases h

/-! ## The positional search -/

/-- The search from `n` with enough fuel stops at the first free positional name. -/
theorem nextPositional_go_spec (claimed : List String) :
    ∀ (fuel n : Nat), (∃ m, n ≤ m ∧ m ≤ n + fuel ∧ positionalName m ∉ claimed) →
      ∃ N, nextPositional.go claimed fuel n = (positionalName N, N + 1) ∧ n ≤ N ∧
        positionalName N ∉ claimed ∧ ∀ m, n ≤ m → m < N → positionalName m ∈ claimed := by
  intro fuel
  induction fuel with
  | zero =>
    rintro n ⟨m, hnm, hmn, hfree⟩
    obtain rfl : m = n := by omega
    exact ⟨m, rfl, le_rfl, hfree, fun k hk hk' => absurd hk' (by omega)⟩
  | succ fuel ih =>
    rintro n ⟨m, hnm, hmn, hfree⟩
    by_cases hc : positionalName n ∈ claimed
    · -- the name at `n` is taken, so the free one lies further on
      have hne : m ≠ n := fun he => hfree (he ▸ hc)
      obtain ⟨N, hgo, hle, hN, hskip⟩ := ih (n + 1) ⟨m, by omega, by omega, hfree⟩
      refine ⟨N, ?_, by omega, hN, fun k hk hkN => ?_⟩
      · have hc' : claimed.contains ("_" ++ toString n) = true := List.contains_iff_mem.2 hc
        simp only [nextPositional.go]
        rw [if_pos hc']
        exact hgo
      · rcases Nat.eq_or_lt_of_le hk with rfl | hk
        · exact hc
        · exact hskip k hk hkN
    · refine ⟨n, ?_, le_rfl, hc, fun k hk hkN => absurd hkN (by omega)⟩
      have hc' : claimed.contains ("_" ++ toString n) = false := by
        simpa [positionalName] using hc
      simp only [nextPositional.go, hc', Bool.false_eq_true, ↓reduceIte]
      rfl

/-- Among `claimed.length + 1` consecutive positional names one is free. -/
theorem exists_free_positional (claimed : List String) (n : Nat) :
    ∃ m, n ≤ m ∧ m ≤ n + claimed.length ∧ positionalName m ∉ claimed := by
  by_contra hall
  push Not at hall
  have hsub : (List.range' n (claimed.length + 1)).map positionalName ⊆ claimed := by
    intro x hx
    obtain ⟨m, hm, rfl⟩ := List.mem_map.1 hx
    rw [List.mem_range'_1] at hm
    exact hall m hm.1 (by omega)
  have hnodup := (List.nodup_range' (s := n) (n := claimed.length + 1)).map
    positionalName_injective
  have hlen := (hnodup.subperm hsub).length_le
  simp at hlen

/-- When every positional name below the counter is taken, the search gives the least free
positional name of all. -/
theorem nextPositional_spec {claimed : List String} {counter : Nat}
    (hbelow : ∀ m < counter, positionalName m ∈ claimed) :
    ∃ N, nextPositional claimed counter = (positionalName N, N + 1) ∧ counter ≤ N ∧
      LeastFree claimed (positionalName N) := by
  obtain ⟨m, h₁, h₂, h₃⟩ := exists_free_positional claimed counter
  obtain ⟨N, hgo, hle, hfree, hskip⟩ :=
    nextPositional_go_spec claimed (claimed.length + 1) counter ⟨m, h₁, by omega, h₃⟩
  refine ⟨N, hgo, hle, N, rfl, hfree, fun k hk => ?_⟩
  by_cases h : k < counter
  · exact hbelow k h
  · exact hskip k (by omega) hk

/-! ## Choosing a name -/

theorem synthesize_eq (claimed : List String) (counter : Nat) (key : String) :
    synthesize claimed counter key =
      match preferred key with
      | some wanted =>
        if wanted ∈ claimed then nextPositional claimed counter else (wanted, counter)
      | none => nextPositional claimed counter := by
  simp only [synthesize, preferred]
  generalize (if isIdentifier key = true then key else String.ofList (camelOfKebab key.toList)) = c
  by_cases hc : isIdentifier c = true <;> simp [hc]

theorem LeastFree.not_mem {claimed : List String} {name : String}
    (h : LeastFree claimed name) : name ∉ claimed := by
  obtain ⟨_, _, hfree, _⟩ := h
  exact hfree

theorem Fresh.not_mem {claimed : List String} {key name : String}
    (h : Fresh claimed key name) : name ∉ claimed := by
  unfold Fresh at h
  split at h
  · split at h
    · exact h.not_mem
    · rename_i hw
      exact h ▸ hw
  · exact h.not_mem

/-- A fresh name is an identifier and not reserved. -/
theorem Fresh.valid {claimed : List String} {key name : String}
    (h : Fresh claimed key name) : isIdentifier name = true ∧ isReserved name = false := by
  have hpos : LeastFree claimed name → isIdentifier name = true ∧ isReserved name = false := by
    rintro ⟨n, rfl, _, _⟩
    exact ⟨isIdentifier_positionalName n, isReserved_positionalName n⟩
  unfold Fresh at h
  split at h
  · rename_i wanted hp
    split at h
    · exact hpos h
    · exact h ▸ preferred_valid hp
  · exact hpos h

/-- Freshness reads the claimed names only through membership. -/
theorem Fresh.congr {claimed claimed' : List String} {key name : String}
    (hmem : ∀ x, x ∈ claimed ↔ x ∈ claimed') (h : Fresh claimed key name) :
    Fresh claimed' key name := by
  have hleast : LeastFree claimed name → LeastFree claimed' name := by
    rintro ⟨n, hn, hfree, hbelow⟩
    exact ⟨n, hn, fun h' => hfree ((hmem _).2 h'), fun m hm => (hmem _).1 (hbelow m hm)⟩
  unfold Fresh at h ⊢
  split at h
  · rename_i wanted hp
    by_cases hw : wanted ∈ claimed
    · rw [if_pos hw] at h
      rw [if_pos ((hmem _).1 hw)]
      exact hleast h
    · rw [if_neg hw] at h
      rw [if_neg (fun h' => hw ((hmem _).2 h'))]
      exact h
  · exact hleast h

/-- The name chosen for a new key is fresh, and every positional name below the new counter
is then taken. -/
theorem synthesize_spec {claimed : List String} {counter counter' : Nat} {key name : String}
    (hbelow : ∀ m < counter, positionalName m ∈ claimed)
    (h : synthesize claimed counter key = (name, counter')) :
    Fresh claimed key name ∧ ∀ m < counter', positionalName m ∈ name :: claimed := by
  have hpos : nextPositional claimed counter = (name, counter') →
      LeastFree claimed name ∧ ∀ m < counter', positionalName m ∈ name :: claimed := by
    intro hn
    obtain ⟨N, hN, -, hleast⟩ := nextPositional_spec hbelow
    rw [hN, Prod.mk.injEq] at hn
    obtain ⟨rfl, rfl⟩ := hn
    refine ⟨hleast, fun m hm => ?_⟩
    rcases Nat.lt_succ_iff_lt_or_eq.1 hm with hm | rfl
    · obtain ⟨n, hn, -, hless⟩ := hleast
      obtain rfl := positionalName_injective hn
      exact List.mem_cons_of_mem _ (hless m hm)
    · exact List.mem_cons_self
  rw [synthesize_eq] at h
  unfold Fresh
  split at h
  · rename_i wanted hp
    by_cases hw : wanted ∈ claimed
    · rw [if_pos hw] at h ⊢
      exact hpos h
    · rw [if_neg hw] at h ⊢
      rw [Prod.mk.injEq] at h
      obtain ⟨rfl, rfl⟩ := h
      exact ⟨rfl, fun m hm => List.mem_cons_of_mem _ (hbelow m hm)⟩
  · exact hpos h

/-! ## The invariant of a naming -/

/-- What every naming reached from a fresh one satisfies. -/
structure Valid (n : Naming) : Prop where
  /-- Each key is bound once. -/
  keys_nodup : (n.bindings.map Prod.fst).Nodup
  /-- A binding's slot is its position. -/
  slot_eq : ∀ i (h : i < n.bindings.length), n.bindings[i].2.slot = i
  /-- The claimed names are the identifiers given, the latest first. -/
  claimed_eq : n.claimed = (n.bindings.map (·.2.identifier)).reverse
  /-- No identifier is given twice. -/
  ids_nodup : (n.bindings.map (·.2.identifier)).Nodup
  /-- Each identifier was fresh when its key was first named. -/
  fresh : ∀ i (h : i < n.bindings.length),
    Fresh ((n.bindings.take i).map (·.2.identifier)) n.bindings[i].1 n.bindings[i].2.identifier
  /-- Every positional name below the counter is claimed. -/
  below : ∀ m < n.positional, positionalName m ∈ n.claimed

theorem valid_empty : Valid {} where
  keys_nodup := List.nodup_nil
  slot_eq i h := absurd h (Nat.not_lt_zero i)
  claimed_eq := rfl
  ids_nodup := List.nodup_nil
  fresh i h := absurd h (Nat.not_lt_zero i)
  below m h := absurd h (Nat.not_lt_zero m)

theorem resolve_of_lookup {n : Naming} {key : String} {b : Binding}
    (h : n.bindings.lookup key = some b) : n.resolve key = (b, n) := by
  simp [resolve, h]

theorem resolve_of_lookup_none {n : Naming} {key name : String} {counter : Nat}
    (h : n.bindings.lookup key = none)
    (hs : synthesize n.claimed n.positional key = (name, counter)) :
    n.resolve key = (⟨name, n.bindings.length⟩,
      { bindings := n.bindings ++ [(key, ⟨name, n.bindings.length⟩)],
        claimed := name :: n.claimed, positional := counter }) := by
  simp [resolve, h, hs]

/-- Resolving keeps every binding already made. -/
theorem bindings_prefix_resolve (n : Naming) (key : String) :
    n.bindings <+: (n.resolve key).2.bindings := by
  cases hl : n.bindings.lookup key with
  | some b => rw [resolve_of_lookup hl]
  | none =>
    rcases hs : synthesize n.claimed n.positional key with ⟨name, counter⟩
    rw [resolve_of_lookup_none hl hs]
    exact List.prefix_append _ _

/-- The answer to a request is the key's entry in the naming after it. -/
theorem lookup_resolve (n : Naming) (key : String) :
    (n.resolve key).2.bindings.lookup key = some (n.resolve key).1 := by
  cases hl : n.bindings.lookup key with
  | some b => rw [resolve_of_lookup hl]; exact hl
  | none =>
    rcases hs : synthesize n.claimed n.positional key with ⟨name, counter⟩
    rw [resolve_of_lookup_none hl hs]
    simp [List.lookup_append, hl]

theorem mem_of_lookup {l : List (String × Binding)} {key : String} {b : Binding}
    (h : l.lookup key = some b) : (key, b) ∈ l := by
  obtain ⟨l₁, l₂, rfl, -⟩ := List.lookup_eq_some_iff.1 h
  simp

theorem lookup_eq_none_of_not_mem {l : List (String × Binding)} {key : String}
    (h : key ∉ l.map Prod.fst) : l.lookup key = none := by
  rw [List.lookup_eq_none_iff]
  intro p hp
  simpa using fun he : key = p.1 => h (he ▸ List.mem_map_of_mem hp)

theorem lookup_of_prefix {l l' : List (String × Binding)} (hp : l <+: l') {key : String}
    {b : Binding} (h : l.lookup key = some b) : l'.lookup key = some b := by
  obtain ⟨t, rfl⟩ := hp
  simp [List.lookup_append, h]

/-- One request keeps the invariant. -/
theorem Valid.resolve {n : Naming} (hn : n.Valid) (key : String) : (n.resolve key).2.Valid := by
  cases hl : n.bindings.lookup key with
  | some b => rw [resolve_of_lookup hl]; exact hn
  | none =>
    rcases hs : synthesize n.claimed n.positional key with ⟨name, counter⟩
    obtain ⟨hfresh, hbelow⟩ := synthesize_spec hn.below hs
    have hnew : key ∉ n.bindings.map Prod.fst := by
      rw [List.lookup_eq_none_iff] at hl
      intro hm
      obtain ⟨p, hp, rfl⟩ := List.mem_map.1 hm
      simpa using hl p hp
    -- the names claimed so far are the identifiers given so far
    have hclaimed : ∀ x, x ∈ n.claimed ↔ x ∈ n.bindings.map (·.2.identifier) := by
      simp [hn.claimed_eq]
    have hname : name ∉ n.bindings.map (·.2.identifier) :=
      fun h => hfresh.not_mem ((hclaimed name).2 h)
    rw [resolve_of_lookup_none hl hs]
    refine ⟨?_, ?_, ?_, ?_, ?_, ?_⟩
    · rw [List.map_append, List.map_singleton, ← List.concat_eq_append, List.nodup_concat]
      exact ⟨hnew, hn.keys_nodup⟩
    · intro i hi
      simp only [List.length_append, List.length_singleton] at hi
      rcases Nat.lt_succ_iff_lt_or_eq.1 hi with hi | rfl
      · rw [List.getElem_append_left hi]
        exact hn.slot_eq i hi
      · simp
    · simp [hn.claimed_eq]
    · rw [List.map_append, List.map_singleton, ← List.concat_eq_append, List.nodup_concat]
      exact ⟨hname, hn.ids_nodup⟩
    · intro i hi
      simp only [List.length_append, List.length_singleton] at hi
      rcases Nat.lt_succ_iff_lt_or_eq.1 hi with hi | rfl
      · rw [List.getElem_append_left hi, List.take_append_of_le_length hi.le]
        exact hn.fresh i hi
      · simpa using hfresh.congr hclaimed
    · simpa using hbelow

/-- In a valid naming a key's binding sits at its slot. -/
theorem Valid.getElem?_slot {n : Naming} (hn : n.Valid) {key : String} {b : Binding}
    (h : n.bindings.lookup key = some b) : n.bindings[b.slot]? = some (key, b) := by
  obtain ⟨l₁, l₂, hsplit, -⟩ := List.lookup_eq_some_iff.1 h
  have hlen : l₁.length < n.bindings.length := by simp [hsplit]
  have hat : n.bindings[l₁.length] = (key, b) := by simp [hsplit]
  have hslot : b.slot = l₁.length := by
    have := hn.slot_eq l₁.length hlen
    rwa [hat] at this
  rw [hslot, List.getElem?_eq_getElem hlen, hat]

/-! ## Runs of requests -/

/-- The naming after resolving `keys` in turn from a fresh one. -/
def ofKeys (keys : List String) : Naming := keys.foldl (fun n key => (n.resolve key).2) {}

private theorem foldl_answers_snd (keys : List String) (acc : List Binding × Naming) :
    (keys.foldl (fun (acc : List Binding × Naming) key =>
      let (b, n) := acc.2.resolve key
      (b :: acc.1, n)) acc).2 = keys.foldl (fun n key => (n.resolve key).2) acc.2 := by
  induction keys generalizing acc with
  | nil => rfl
  | cons key keys ih => exact ih _

theorem ofKeys_append_singleton (keys : List String) (key : String) :
    ofKeys (keys ++ [key]) = ((ofKeys keys).resolve key).2 := by
  simp [ofKeys, List.foldl_append]

theorem resolveAll_append_singleton (keys : List String) (key : String) :
    resolveAll (keys ++ [key]) = resolveAll keys ++ [((ofKeys keys).resolve key).1] := by
  simp only [resolveAll, List.foldl_append, List.foldl_cons, List.foldl_nil, List.reverse_cons]
  rw [foldl_answers_snd]
  rfl

@[simp] theorem length_resolveAll (keys : List String) :
    (resolveAll keys).length = keys.length := by
  induction keys using List.reverseRecOn with
  | nil => rfl
  | append_singleton keys key ih => simp [resolveAll_append_singleton, ih]

theorem valid_ofKeys (keys : List String) : (ofKeys keys).Valid := by
  induction keys using List.reverseRecOn with
  | nil => exact valid_empty
  | append_singleton keys key ih =>
    rw [ofKeys_append_singleton]
    exact ih.resolve key

theorem exists_mem_zip_resolveAll {keys : List String} {key : String} (hk : key ∈ keys) :
    ∃ b, (key, b) ∈ keys.zip (resolveAll keys) := by
  obtain ⟨i, hi, rfl⟩ := List.getElem_of_mem hk
  have hb : i < (resolveAll keys).length := by simpa using hi
  have hz : i < (keys.zip (resolveAll keys)).length := by simp [hi]
  exact ⟨(resolveAll keys)[i], List.mem_iff_getElem.2 ⟨i, hz, by simp⟩⟩

/-- Every request is answered by its key's entry in the final naming. -/
theorem lookup_ofKeys_of_mem_zip (keys : List String) :
    ∀ k b, (k, b) ∈ keys.zip (resolveAll keys) → (ofKeys keys).bindings.lookup k = some b := by
  induction keys using List.reverseRecOn with
  | nil => simp
  | append_singleton keys key ih =>
    intro k b hkb
    rw [resolveAll_append_singleton, List.zip_append (by simp)] at hkb
    rw [ofKeys_append_singleton]
    rcases List.mem_append.1 hkb with hkb | hkb
    · exact lookup_of_prefix (bindings_prefix_resolve _ key) (ih k b hkb)
    · simp only [List.zip_cons_cons, List.zip_nil_right, List.mem_singleton,
        Prod.mk.injEq] at hkb
      obtain ⟨rfl, rfl⟩ := hkb
      exact lookup_resolve _ _

/-- The final naming binds the distinct keys in order of first request. -/
theorem keys_ofKeys (keys : List String) :
    (ofKeys keys).bindings.map Prod.fst = keys.eraseDups := by
  induction keys using List.reverseRecOn with
  | nil => rfl
  | append_singleton keys key ih =>
    rw [ofKeys_append_singleton, List.eraseDups_append, ← ih]
    by_cases hk : key ∈ keys
    · -- a key asked before keeps its binding
      obtain ⟨b, hkb⟩ := exists_mem_zip_resolveAll hk
      rw [resolve_of_lookup (lookup_ofKeys_of_mem_zip keys key b hkb)]
      simp [List.removeAll, hk]
    · have hl : (ofKeys keys).bindings.lookup key = none := by
        apply lookup_eq_none_of_not_mem
        rwa [ih, List.mem_eraseDups]
      rcases hs : synthesize (ofKeys keys).claimed (ofKeys keys).positional key with
        ⟨name, counter⟩
      rw [resolve_of_lookup_none hl hs]
      simp [List.removeAll, hk, List.eraseDups_cons]

theorem lookup_ofKeys_eq_none {keys : List String} {key : String} (hk : key ∉ keys) :
    (ofKeys keys).bindings.lookup key = none := by
  apply lookup_eq_none_of_not_mem
  rwa [keys_ofKeys, List.mem_eraseDups]

/-- The names claimed after a run are the identifiers of its answers. -/
theorem mem_claimed_ofKeys (keys : List String) (x : String) :
    x ∈ (ofKeys keys).claimed ↔ x ∈ (resolveAll keys).map (·.identifier) := by
  induction keys using List.reverseRecOn with
  | nil => simp [ofKeys, resolveAll]
  | append_singleton keys key ih =>
    rw [ofKeys_append_singleton, resolveAll_append_singleton, List.map_append, List.mem_append,
      ← ih]
    cases hl : (ofKeys keys).bindings.lookup key with
    | some b =>
      -- a key asked before gets an identifier that is claimed already
      have hb : b.identifier ∈ (ofKeys keys).claimed := by
        rw [(valid_ofKeys keys).claimed_eq, List.mem_reverse]
        exact List.mem_map_of_mem (f := (·.2.identifier)) (mem_of_lookup hl)
      rw [resolve_of_lookup hl]
      constructor
      · exact Or.inl
      · rintro (h | h)
        · exact h
        · simp only [List.map_cons, List.map_nil, List.mem_singleton] at h
          exact h ▸ hb
    | none =>
      rcases hs : synthesize (ofKeys keys).claimed (ofKeys keys).positional key with
        ⟨name, counter⟩
      rw [resolve_of_lookup_none hl hs]
      simp [or_comm]

/-- A key asked for the first time gets a fresh name for the names handed out before. -/
theorem fresh_resolve_ofKeys {keys : List String} {key : String} (hk : key ∉ keys) :
    Fresh ((resolveAll keys).map (·.identifier)) key ((ofKeys keys).resolve key).1.identifier := by
  rcases hs : synthesize (ofKeys keys).claimed (ofKeys keys).positional key with ⟨name, counter⟩
  rw [resolve_of_lookup_none (lookup_ofKeys_eq_none hk) hs]
  exact (synthesize_spec (valid_ofKeys keys).below hs).1.congr (mem_claimed_ofKeys keys)

/-- The answers to a prefix of the requests are a prefix of the answers. -/
theorem resolveAll_take (keys : List String) (i : Nat) :
    resolveAll (keys.take i) = (resolveAll keys).take i := by
  induction keys using List.reverseRecOn with
  | nil => simp [resolveAll]
  | append_singleton keys key ih =>
    rw [resolveAll_append_singleton]
    by_cases hi : i ≤ keys.length
    · rw [List.take_append_of_le_length hi, ih,
        List.take_append_of_le_length (by simpa using hi)]
    · rw [List.take_of_length_le (by simp; omega), List.take_of_length_le (by simp; omega),
        resolveAll_append_singleton]

/-- The answer to request `i`, when that is the first request of its key. -/
theorem getElem_resolveAll_of_first {keys : List String} {i : Nat} (hk : i < keys.length)
    (hb : i < (resolveAll keys).length) :
    (resolveAll keys)[i] = ((ofKeys (keys.take i)).resolve keys[i]).1 := by
  have htake : keys.take (i + 1) = keys.take i ++ [keys[i]] := List.take_succ_eq_append_getElem hk
  have hlast := congrArg (·[i]?) (resolveAll_take keys (i + 1))
  simp only [htake, resolveAll_append_singleton] at hlast
  have hlen : (resolveAll (keys.take i)).length = i := by simp; omega
  rw [List.getElem?_append_right (by omega), hlen, Nat.sub_self] at hlast
  have hat : (resolveAll keys)[i]? = some ((ofKeys (keys.take i)).resolve keys[i]).1 := by
    simpa [List.getElem?_take] using hlast.symm
  exact Option.some.inj ((List.getElem?_eq_getElem hb).symm.trans hat)

/-- Resolving keys in turn with one fresh naming is consistent and collision-free: the
answers match the requests one for one; a key asked again gets its first binding back;
distinct keys get distinct identifiers; every identifier is identifier-shaped and not
reserved; a key's slot is its position among the distinct keys in order of first request;
and a key asked for the first time gets its preferred name unless that is taken, else the
least positional name not yet taken. -/
theorem resolveAll_consistent (keys : List String) :
    (resolveAll keys).length = keys.length ∧
    (∀ k b b', (k, b) ∈ keys.zip (resolveAll keys) → (k, b') ∈ keys.zip (resolveAll keys) →
      b = b') ∧
    (∀ k k' b b', (k, b) ∈ keys.zip (resolveAll keys) → (k', b') ∈ keys.zip (resolveAll keys) →
      b.identifier = b'.identifier → k = k') ∧
    (∀ b ∈ resolveAll keys, isIdentifier b.identifier = true ∧ isReserved b.identifier = false) ∧
    (∀ k b, (k, b) ∈ keys.zip (resolveAll keys) → b.slot = keys.eraseDups.idxOf k) ∧
    (∀ i (hk : i < keys.length) (hb : i < (resolveAll keys).length), keys[i] ∉ keys.take i →
      Fresh (((resolveAll keys).take i).map (·.identifier)) keys[i]
        (resolveAll keys)[i].identifier) := by
  have hv := valid_ofKeys keys
  have hlookup := lookup_ofKeys_of_mem_zip keys
  refine ⟨length_resolveAll keys, ?_, ?_, ?_, ?_, ?_⟩
  · intro k b b' hb hb'
    exact Option.some.inj ((hlookup k b hb).symm.trans (hlookup k b' hb'))
  · intro k k' b b' hb hb' hid
    have hpair := List.inj_on_of_nodup_map hv.ids_nodup (mem_of_lookup (hlookup k b hb))
      (mem_of_lookup (hlookup k' b' hb')) hid
    exact (Prod.mk.inj hpair).1
  · intro b hb
    obtain ⟨i, hi, rfl⟩ := List.getElem_of_mem hb
    have hk : i < keys.length := by simpa using hi
    have hz : i < (keys.zip (resolveAll keys)).length := by simp [hk]
    obtain ⟨j, hj, hat⟩ := List.getElem_of_mem (mem_of_lookup (hlookup keys[i]
      (resolveAll keys)[i] (List.mem_iff_getElem.2 ⟨i, hz, by simp⟩)))
    have hfresh := hv.fresh j hj
    rw [hat] at hfresh
    exact hfresh.valid
  · intro k b hkb
    have hat := hv.getElem?_slot (hlookup k b hkb)
    have hkeys : ((ofKeys keys).bindings.map Prod.fst)[b.slot]? = some k := by
      simp [hat]
    obtain ⟨hs, hks⟩ := List.getElem?_eq_some_iff.1 hkeys
    rw [← keys_ofKeys, ← hks]
    exact (hv.keys_nodup.idxOf_getElem b.slot hs).symm
  · intro i hk hb hfirst
    rw [getElem_resolveAll_of_first hk hb, ← resolveAll_take]
    exact fresh_resolve_ofKeys hfirst

/-- Colliding candidates: `isNan` is taken by `is-nan`, so the key `isNan` falls back to
`_0`, and the key `_0` then falls back to `_1`. -/
example : (resolveAll ["is-nan", "isNan", "_0"]).map (·.identifier) = ["isNan", "_0", "_1"] := by
  decide

end Naming

end RuleMachine
