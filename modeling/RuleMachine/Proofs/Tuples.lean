import RuleMachine.Proofs.Classifiers
import RuleMachine.Proofs.Documents
import RuleMachine.Extension.Bundle

/-!
# Products and transpositions of arrays

The bundled operators `combinations` and `zip` read their arguments as arrays
(`Extension.arrays`). Both fail exactly when some argument is not an array, and the message
names the type of the first such argument (`Extension.arrays_eq_error_iff`).

`combinations` gives the cartesian product. Its loop extends every tuple built so far by each
item of the next list, so after any prefix of the lists the tuples are those of the prefix
(`Extension.foldl_product`). The result holds the items at every index tuple, the index tuples
in lexicographic order (`Extension.indexTuples`): each index below the length of its list, the
first varying slowest, `|L₁| * ... * |Lₖ|` tuples in all, and one empty tuple for no lists.

`zip` gives, for each index below the shortest length, the items at that index: its `i`-th
tuple exists exactly when every list has an `i`-th item, and no list is read past its end
(`Extension.getElem?_zipLists`).
-/

namespace RuleMachine

namespace Extension

/-! ## Reading the arguments -/

/-- Arrays are read as their items. -/
theorem arrays_map_array (name : String) (lists : List (List Value)) :
    arrays name (lists.map .array) = .ok lists := by
  induction lists with
  | nil => rfl
  | cons l ls ih => simp [arrays, ih, Except.map]

/-- Reading fails exactly at the first argument that is not an array, and names its type. -/
theorem arrays_eq_error_iff (name : String) (args : List Value) (msg : String) :
    arrays name args = .error msg ↔
      ∃ v, args.find? (fun a => !a.isArray) = some v ∧
        msg = name ++ " expects arrays, got " ++ v.typeName := by
  induction args with
  | nil => simp [arrays]
  | cons a rest ih =>
    cases a
    case array items =>
      have hmap : (arrays name rest).map (items :: ·) = .error msg ↔
          arrays name rest = .error msg := by
        cases arrays name rest <;> simp [Except.map]
      simp only [arrays, hmap, ih, List.find?_cons, Value.isArray, Bool.not_true]
    all_goals simp [arrays, Value.isArray, eq_comm]

/-! ## The product -/

/-- The index tuples of lists with the given lengths in lexicographic order: each index below
its list's length, the first varying slowest. -/
def indexTuples : List Nat → List (List Nat)
  | [] => [[]]
  | n :: ns => (List.range n).flatMap fun i => (indexTuples ns).map (i :: ·)

/-- The items at an index tuple, one from each list. -/
def pick (lists : List (List Value)) (indices : List Nat) : List Value :=
  List.zipWith (fun l i => l.getD i .null) lists indices

/-- The tuples of items at every index tuple, in the order of the index tuples. -/
def tuples (lists : List (List Value)) : List (List Value) :=
  (indexTuples (lists.map List.length)).map (pick lists)

/-- An index tuple holds one index below each length. -/
theorem mem_indexTuples {ns is : List Nat} : is ∈ indexTuples ns ↔ List.Forall₂ (· < ·) is ns := by
  induction ns generalizing is with
  | nil => cases is <;> simp [indexTuples]
  | cons n ns ih =>
    cases is with
    | nil => simp [indexTuples]
    | cons i is => simp [indexTuples, ih, and_comm]

/-- There are as many index tuples as the product of the lengths. -/
theorem length_indexTuples (ns : List Nat) : (indexTuples ns).length = ns.prod := by
  induction ns with
  | nil => rfl
  | cons n ns ih => simp [indexTuples, List.length_flatMap, ih]

/-- The index tuples come in strictly increasing lexicographic order. -/
theorem pairwise_indexTuples (ns : List Nat) : (indexTuples ns).Pairwise (· < ·) := by
  induction ns with
  | nil => simp [indexTuples]
  | cons n ns ih =>
    rw [indexTuples, List.pairwise_flatMap]
    refine ⟨fun i _ => ?_, ?_⟩
    · -- one block: a fixed first index, the rest in their own order
      rw [List.pairwise_map]
      exact ih.imp fun h => List.cons_lt_cons_iff.2 (.inr ⟨rfl, h⟩)
    · -- two blocks: the first indices decide
      refine List.pairwise_lt_range.imp fun hij => ?_
      simp only [List.mem_map]
      rintro _ ⟨a, -, rfl⟩ _ ⟨b, -, rfl⟩
      exact List.cons_lt_cons_iff.2 (.inl hij)

/-- A list is the items at its indices. -/
theorem map_getD_range (l : List Value) :
    (List.range l.length).map (fun i => l.getD i .null) = l := by
  apply List.ext_getElem
  · simp
  · intro i h _
    simp [List.getElem?_eq_getElem (by simpa using h)]

/-- The tuples of no lists: the empty tuple alone. -/
@[simp] theorem tuples_nil : tuples [] = [[]] := rfl

/-- The tuples of a list before others: each item of the first list, in order, before every
tuple of the others. -/
theorem tuples_cons (l : List Value) (ls : List (List Value)) :
    tuples (l :: ls) = l.flatMap fun x => (tuples ls).map (x :: ·) := by
  conv_rhs => rw [← map_getD_range l]
  simp only [tuples, List.map_cons, indexTuples, List.map_flatMap, List.map_map, List.flatMap_map]
  rfl

/-- The loop of `product` after any lists: every tuple it started from, extended by each tuple
of those lists. -/
theorem foldl_product (lists : List (List Value)) (acc : List (List Value)) :
    lists.foldl (fun acc list => acc.flatMap fun tuple => list.map fun item => tuple ++ [item])
      acc = acc.flatMap fun t => (tuples lists).map (t ++ ·) := by
  induction lists generalizing acc with
  | nil => simp
  | cons l ls ih =>
    rw [List.foldl_cons, ih, tuples_cons]
    simp [List.flatMap_assoc, List.map_flatMap, List.flatMap_map, Function.comp_def]

/-- `product` gives the tuples of its lists. -/
theorem product_eq_tuples (lists : List (List Value)) : product lists = tuples lists := by
  rw [product, foldl_product]
  simp

/-- A tuple of the product draws its items one from each list, in the lists' order. -/
theorem mem_tuples {lists : List (List Value)} {t : List Value} :
    t ∈ tuples lists ↔ List.Forall₂ (· ∈ ·) t lists := by
  induction lists generalizing t with
  | nil => cases t <;> simp
  | cons l ls ih =>
    rw [tuples_cons]
    cases t with
    | nil => simp
    | cons x t => simp [ih]

/-- The product has as many tuples as the product of the lengths. -/
theorem length_tuples (lists : List (List Value)) :
    (tuples lists).length = (lists.map List.length).prod := by
  rw [tuples, List.length_map, length_indexTuples]

/-! ## The transposition -/

/-- The `i`-th items of all lists, when every list has one. -/
theorem mapM_getElem? (lists : List (List Value)) (i : Nat) :
    lists.mapM (·[i]?) =
      if ∀ l ∈ lists, i < l.length then some (lists.map fun l => l.getD i .null) else none := by
  induction lists with
  | nil => simp
  | cons l ls ih =>
    rw [List.mapM_cons, ih]
    by_cases hl : i < l.length
    · by_cases hs : ∀ l ∈ ls, i < l.length
      · have hall : ∀ l' ∈ l :: ls, i < l'.length := List.forall_mem_cons.2 ⟨hl, hs⟩
        rw [if_pos hs, if_pos hall]
        simp [List.getElem?_eq_getElem hl]
      · have hall : ¬ ∀ l' ∈ l :: ls, i < l'.length := fun h => hs (List.forall_mem_cons.1 h).2
        rw [if_neg hs, if_neg hall]
        simp [List.getElem?_eq_getElem hl]
    · have hall : ¬ ∀ l' ∈ l :: ls, i < l'.length := fun h => hl (List.forall_mem_cons.1 h).1
      rw [if_neg hall]
      simp [List.getElem?_eq_none (Nat.le_of_not_lt hl)]

/-- The count `zip` runs to is the shortest length. -/
theorem foldl_min_length (first : List Value) (rest : List (List Value)) :
    rest.foldl (fun n l => min n l.length) first.length =
      (((first :: rest).map List.length).min?).getD 0 := by
  rw [← List.foldl_map]
  simp only [List.foldl_min, List.map_cons, List.min?_cons]
  rcases (rest.map List.length).min? with _ | m <;> simp

/-- An index is below the shortest length exactly when every list has an item there. -/
theorem lt_min_length_iff (first : List Value) (rest : List (List Value)) (i : Nat) :
    i < (((first :: rest).map List.length).min?).getD 0 ↔ ∀ l ∈ first :: rest, i < l.length := by
  have hfirst : first.length ∈ (first :: rest).map List.length :=
    List.mem_map_of_mem List.mem_cons_self
  obtain ⟨m, hm⟩ := Option.isSome_iff_exists.1 (List.isSome_min?_of_mem hfirst)
  rw [hm, Option.getD_some]
  obtain ⟨hmem, hle⟩ := List.min?_eq_some_iff.1 hm
  constructor
  · intro hi l hl
    exact Nat.lt_of_lt_of_le hi (hle _ (List.mem_map_of_mem hl))
  · intro h
    obtain ⟨l, hl, rfl⟩ := List.mem_map.1 hmem
    exact h l hl

/-- The `i`-th tuple of `zip` is the list of `i`-th items, present exactly when every list has
one; no lists give no tuples. -/
theorem getElem?_zipLists (lists : List (List Value)) (i : Nat) :
    (zipLists lists)[i]? = if lists = [] then none else lists.mapM (·[i]?) := by
  cases lists with
  | nil => simp [zipLists]
  | cons first rest =>
    have hcount := lt_min_length_iff first rest i
    rw [if_neg (List.cons_ne_nil _ _), mapM_getElem?]
    simp only [zipLists, foldl_min_length, List.getElem?_map]
    by_cases h : ∀ l ∈ first :: rest, i < l.length
    · rw [List.getElem?_range (hcount.2 h), if_pos h]
      rfl
    · rw [List.getElem?_eq_none (by simpa using mt hcount.1 h), if_neg h]
      rfl

/-- `zip` gives as many tuples as the shortest list has items, none for no lists. -/
theorem length_zipLists (lists : List (List Value)) :
    (zipLists lists).length = ((lists.map List.length).min?).getD 0 := by
  cases lists with
  | nil => rfl
  | cons first rest => simp [zipLists, foldl_min_length]

/-! ## The operators -/

/-- `combinations` and `zip` fail exactly when some argument is not an array, naming the type of
the first such argument. On arrays `L₁, ..., Lₖ`, `combinations` gives the items at every index
tuple (`tuples`): every tuple drawing its `i`-th item from `Lᵢ`, `|L₁| * ... * |Lₖ|` of them,
the index tuples in strictly increasing lexicographic order with the first index varying
slowest; and `zip` gives, for each `i` below the shortest length, the `i`-th items of all lists,
and nothing for no lists. -/
theorem combinations_zip_tuples :
    (∀ args msg, combinationsOperation args = .error msg ↔
      ∃ v, args.find? (fun a => !a.isArray) = some v ∧
        msg = "combinations expects arrays, got " ++ v.typeName) ∧
    (∀ args msg, zipOperation args = .error msg ↔
      ∃ v, args.find? (fun a => !a.isArray) = some v ∧
        msg = "zip expects arrays, got " ++ v.typeName) ∧
    (∀ lists : List (List Value),
      combinationsOperation (lists.map .array) = .ok (.array ((tuples lists).map .array)) ∧
      tuples lists = (indexTuples (lists.map List.length)).map (pick lists) ∧
      (∀ t, t ∈ tuples lists ↔ List.Forall₂ (· ∈ ·) t lists) ∧
      (tuples lists).length = (lists.map List.length).prod ∧
      zipOperation (lists.map .array) = .ok (.array ((zipLists lists).map .array)) ∧
      (zipLists lists).length = ((lists.map List.length).min?).getD 0 ∧
      ∀ i : Nat, (zipLists lists)[i]? = if lists = [] then none else lists.mapM (·[i]?)) ∧
    (∀ ns, (indexTuples ns).Pairwise (· < ·) ∧
      ∀ is, is ∈ indexTuples ns ↔ List.Forall₂ (· < ·) is ns) := by
  refine ⟨fun args msg => ?_, fun args msg => ?_, fun lists => ?_, fun ns => ?_⟩
  · rw [combinationsOperation, Except.map_eq_error_iff, arrays_eq_error_iff]
    rfl
  · rw [zipOperation, Except.map_eq_error_iff, arrays_eq_error_iff]
    rfl
  · refine ⟨?_, rfl, fun t => mem_tuples, length_tuples lists, ?_, length_zipLists lists,
      getElem?_zipLists lists⟩
    · simp [combinationsOperation, arrays_map_array, product_eq_tuples, Except.map]
    · simp [zipOperation, arrays_map_array, Except.map]
  · exact ⟨pairwise_indexTuples ns, fun _ => mem_indexTuples⟩

end Extension

end RuleMachine
