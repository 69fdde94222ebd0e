import RuleMachine.Proofs.Numbers
import RuleMachine.Rule.Basic

/-!
# Reading documents as rules

`Rule.ofJson` reads exactly the rule language. It fails precisely when some object of the
document does not have exactly one member, and it then reports the first such object in
pre-order (`Json.objects`: an object before the objects inside it, array items from left to
right). A rule it reads prints back as the document it came from with each number normalized
(`Json.normalized`: a number goes through `Value.ofNumber` and `Value.toJson`), and reading
that print gives the rule again (`Rule.same`: structural equality with literals compared by
strict equality), for every document whose numbers a JSON reader can hold
(`Json.numbersValid`).

Numbers are the one place where printing and reading may drift apart: an integral word within
`2^53 - 1` of zero prints as an integer. It reads back as an integer whose word is an equal
number, negative zero included (`Value.strictEq_ofJson_toJson_ofNumber`).
-/

namespace RuleMachine

namespace Json

/-- Whether a document is an object with exactly one member, the form of an operation. -/
def isOperation : Json → Bool
  | .object [_] => true
  | _ => false

mutual

/-- The objects of a document in pre-order: an object before the objects inside its
members, array items from left to right. -/
def objects : Json → List Json
  | .array items => itemObjects items
  | .object members => .object members :: memberObjects members
  | _ => []

/-- The objects of array items, in order. -/
def itemObjects : List Json → List Json
  | [] => []
  | j :: rest => objects j ++ itemObjects rest

/-- The objects of member values, in order. -/
def memberObjects : List (String × Json) → List Json
  | [] => []
  | (_, j) :: rest => objects j ++ memberObjects rest

end

/-- The first object in pre-order that is not an operation. -/
def firstMalformed (j : Json) : Option Json := j.objects.find? fun o => !o.isOperation

mutual

/-- The document with each number replaced by the print of its value. -/
def normalized : Json → Json
  | .number n => (Value.ofNumber n).toJson
  | .array items => .array (normalizedItems items)
  | .object members => .object (normalizedMembers members)
  | j => j

/-- Normalized array items. -/
def normalizedItems : List Json → List Json
  | [] => []
  | j :: rest => normalized j :: normalizedItems rest

/-- Normalized member values. -/
def normalizedMembers : List (String × Json) → List (String × Json)
  | [] => []
  | (k, j) :: rest => (k, normalized j) :: normalizedMembers rest

end

/-- A number as a JSON reader holds it: an integer within 64 bits, unsigned when it is not
negative, or a finite word. -/
def Number.isValid : Json.Number → Bool
  | .nat n => decide (n < 2 ^ 64)
  | .neg n => decide (-2 ^ 63 ≤ n ∧ n < 0)
  | .float x => x.isFinite

mutual

/-- Whether every number of a document is one a JSON reader can hold. -/
def numbersValid : Json → Bool
  | .number n => n.isValid
  | .array items => itemsValid items
  | .object members => membersValid members
  | _ => true

/-- Whether every number of the items is valid. -/
def itemsValid : List Json → Bool
  | [] => true
  | j :: rest => numbersValid j && itemsValid rest

/-- Whether every number of the member values is valid. -/
def membersValid : List (String × Json) → Bool
  | [] => true
  | (_, j) :: rest => numbersValid j && membersValid rest

end

end Json

namespace Rule

mutual

/-- Equality of rule trees: the same shape, keys and bracketing, with literals compared by
strict equality. -/
def same : Rule → Rule → Bool
  | .literal v, .literal w => v.strictEq w
  | .list xs, .list ys => sameItems xs ys
  | .operation k xs b, .operation k' ys b' => k == k' && b == b' && sameItems xs ys
  | _, _ => false

/-- Pairwise equality of two lists of rules of one length. -/
def sameItems : List Rule → List Rule → Bool
  | [], [] => true
  | x :: xs, y :: ys => same x y && sameItems xs ys
  | _, _ => false

end

end Rule

/-- A mapped result is a success exactly when the result was one. -/
theorem Except.map_eq_ok_iff {ε α β : Type} {x : Except ε α} {f : α → β} {y : β} :
    x.map f = .ok y ↔ ∃ a, x = .ok a ∧ f a = y := by
  cases x <;> simp [Except.map]

/-- Mapping a result keeps its error. -/
theorem Except.map_eq_error_iff {ε α β : Type} {x : Except ε α} {f : α → β} {e : ε} :
    x.map f = .error e ↔ x = .error e := by
  cases x <;> simp [Except.map]

/-! ## Numbers read back -/

namespace Value

/-- A number prints as a number, or as null when it is not finite. -/
theorem toJson_ofNumber_scalar (n : Json.Number) :
    (ofNumber n).toJson = .null ∨ ∃ m, (ofNumber n).toJson = .number m := by
  have hword (x : Binary64) : wordJson x = .null ∨ ∃ m, wordJson x = .number m := by
    unfold wordJson
    split
    · exact .inr ⟨_, rfl⟩
    · split
      · exact .inr ⟨_, rfl⟩
      · exact .inl rfl
  cases n
  case nat k =>
    simp only [ofNumber]
    split
    · exact .inr ⟨_, rfl⟩
    · exact hword _
  case neg k => exact .inr ⟨_, rfl⟩
  case float x => exact hword x

/-- An integer below `2^63` prints as a JSON number that reads back as the integer. -/
theorem ofNumber_intNumber {m : Int} (h : m < 2 ^ 63) : ofNumber (intNumber m) = .int m := by
  unfold intNumber
  split
  · rename_i hm
    simp only [ofNumber, Int.toNat_of_nonneg hm]
    rw [if_pos (by omega)]
  · rfl

/-- An integer within 64 bits is strictly equal to itself. -/
theorem strictEq_int_self {m : Int} (h : m.natAbs < 2 ^ 64) :
    (Value.int m).strictEq (.int m) = true :=
  Binary64.eq_self_of_isNaN (Binary64.isNaN_of_isFinite (Binary64.isFinite_ofInt h))

/-- What folding a word into an integer asks of it. -/
theorem ofWord_eq_int {x : Binary64} {m : Int} (h : ofWord x = .int m) :
    x.isIntegral = true ∧ x.truncInt = m ∧ m.natAbs ≤ maxSafe := by
  unfold ofWord at h
  split at h
  · rename_i hx
    simp only [Bool.and_eq_true, decide_eq_true_eq] at hx
    cases h
    exact ⟨hx.1, rfl, hx.2⟩
  · cases h

/-- A finite word prints as a document that reads back as an equal number. -/
theorem strictEq_ofJson_wordJson {x : Binary64} (hx : x.isFinite = true) :
    (ofJson (wordJson x)).strictEq (.float x) = true := by
  unfold wordJson
  split
  · rename_i m hm
    obtain ⟨hi, ht, hsafe⟩ := ofWord_eq_int hm
    have h53 : m.natAbs < 2 ^ 53 := by unfold maxSafe at hsafe; omega
    simp only [ofJson, ofNumber_intNumber (show m < 2 ^ 63 by omega), strictEq]
    exact Binary64.eq_of_truncInt_eq (Binary64.isIntegral_ofInt h53) hi
      (by rw [Binary64.truncInt_ofInt h53, ht])
  · rw [if_pos hx]
    exact Binary64.eq_self_of_isNaN (Binary64.isNaN_of_isFinite hx)

/-- A number a JSON reader holds prints as a document that reads back as an equal number:
integers keep their value, and an integral word within `2^53 - 1` turns into an integer
strictly equal to it. -/
theorem strictEq_ofJson_toJson_ofNumber {n : Json.Number} (h : n.isValid = true) :
    (ofJson (ofNumber n).toJson).strictEq (ofNumber n) = true := by
  cases n
  case nat k =>
    simp only [Json.Number.isValid, decide_eq_true_eq] at h
    simp only [ofNumber]
    split
    · rename_i hk
      simp only [toJson, ofJson, ofNumber_intNumber (show (k : Int) < 2 ^ 63 by omega)]
      exact strictEq_int_self (by omega)
    · exact strictEq_ofJson_wordJson (Binary64.isFinite_ofInt (by omega))
  case neg k =>
    simp only [Json.Number.isValid, decide_eq_true_eq] at h
    show (ofJson (Value.int k).toJson).strictEq (.int k) = true
    rw [toJson, ofJson, ofNumber_intNumber (by omega)]
    exact strictEq_int_self (by omega)
  case float x => exact strictEq_ofJson_wordJson h

end Value

/-! ## Objects of a document -/

namespace Json

@[simp] theorem objects_operation (key : String) (value : Json) :
    objects (.object [(key, value)]) = .object [(key, value)] :: objects value := by
  simp [objects, memberObjects]

@[simp] theorem normalized_operation (key : String) (value : Json) :
    normalized (.object [(key, value)]) = .object [(key, normalized value)] := by
  simp [normalized, normalizedMembers]

mutual

/-- Only objects are listed. -/
theorem object_of_mem_objects : ∀ {j o : Json}, o ∈ j.objects →
    ∃ members, o = .object members
  | .array items, _, h => object_of_mem_itemObjects h
  | .object members, _, h => by
    rw [objects, List.mem_cons] at h
    rcases h with rfl | h
    · exact ⟨members, rfl⟩
    · exact object_of_mem_memberObjects h
  | .null, _, h | .bool _, _, h | .number _, _, h | .string _, _, h => by simp [objects] at h

theorem object_of_mem_itemObjects : ∀ {items : List Json} {o : Json}, o ∈ itemObjects items →
    ∃ members, o = .object members
  | [], _, h => by simp [itemObjects] at h
  | j :: rest, _, h => by
    rw [itemObjects, List.mem_append] at h
    exact h.elim object_of_mem_objects object_of_mem_itemObjects

theorem object_of_mem_memberObjects : ∀ {members : List (String × Json)} {o : Json},
    o ∈ memberObjects members → ∃ members', o = .object members'
  | [], _, h => by simp [memberObjects] at h
  | (_, j) :: rest, _, h => by
    rw [memberObjects, List.mem_append] at h
    exact h.elim object_of_mem_objects object_of_mem_memberObjects

end

/-- A non-array document normalizes to a non-array one. -/
theorem normalized_ne_array {j : Json} (h : ∀ items, j ≠ .array items) :
    ∀ items, j.normalized ≠ .array items := by
  intro items
  cases j
  case array items' => exact absurd rfl (h items')
  case number n =>
    rcases Value.toJson_ofNumber_scalar n with hn | ⟨m, hn⟩ <;> simp [normalized, hn]
  all_goals simp [normalized]

/-- An object is an operation exactly when it has one member. -/
theorem isOperation_object (members : List (String × Json)) :
    (Json.object members).isOperation = decide (members.length = 1) := by
  rcases members with _ | ⟨m, _ | ⟨m', rest⟩⟩ <;> simp [isOperation]

/-- Some object is not an operation exactly when one has zero members or several. -/
theorem firstMalformed_isSome_iff (j : Json) : j.firstMalformed.isSome ↔
    ∃ members, Json.object members ∈ j.objects ∧ members.length ≠ 1 := by
  rw [firstMalformed, List.find?_isSome]
  constructor
  · rintro ⟨o, ho, hbad⟩
    obtain ⟨members, rfl⟩ := object_of_mem_objects ho
    exact ⟨members, ho, by simpa [isOperation_object] using hbad⟩
  · rintro ⟨members, hm, hlen⟩
    exact ⟨_, hm, by simp [isOperation_object, hlen]⟩

end Json

/-! ## Reading and printing -/

namespace Rule

open Json

/-- An operation whose value is not an array has that value as its one argument. -/
theorem ofJson_single {key : String} {value : Json} (h : ∀ items, value ≠ .array items) :
    Rule.ofJson (.object [(key, value)]) =
      (Rule.ofJson value).map fun arg => .operation key [arg] false := by
  cases value
  case array items => exact absurd rfl (h items)
  all_goals rfl

/-- A number prints as a document that reads as a literal. -/
theorem ofJson_toJson_ofNumber (n : Json.Number) :
    Rule.ofJson (Value.ofNumber n).toJson =
      .ok (.literal (Value.ofJson (Value.ofNumber n).toJson)) := by
  rcases Value.toJson_ofNumber_scalar n with hn | ⟨m, hn⟩ <;> rw [hn] <;> rfl

mutual

/-- Reading fails on the first object that is not an operation. -/
theorem ofJson_eq_error_iff_find : ∀ (j : Json) {e : Json},
    Rule.ofJson j = .error e ↔ j.objects.find? (fun o => !o.isOperation) = some e
  | .array items, e => by
    rw [Rule.ofJson, objects, Except.map_eq_error_iff, ofJsonItems_eq_error_iff_find items]
  | .object [(key, value)], e => by
    rw [objects_operation, List.find?_cons_of_neg (by simp [isOperation])]
    by_cases hv : ∃ items, value = .array items
    · obtain ⟨items, rfl⟩ := hv
      rw [Rule.ofJson, objects, Except.map_eq_error_iff, ofJsonItems_eq_error_iff_find items]
    · -- a single argument written without brackets
      simp only [not_exists] at hv
      rw [ofJson_single hv, Except.map_eq_error_iff, ofJson_eq_error_iff_find value]
  | .object [], e => by simp [Rule.ofJson, objects, memberObjects, isOperation]
  | .object (_ :: _ :: _), e => by simp [Rule.ofJson, objects, isOperation]
  | .null, e | .bool _, e | .number _, e | .string _, e => by simp [Rule.ofJson, objects]

/-- Reading items fails on the first object, in item order, that is not an operation. -/
theorem ofJsonItems_eq_error_iff_find : ∀ (items : List Json) {e : Json},
    Rule.ofJsonItems items = .error e ↔
      (itemObjects items).find? (fun o => !o.isOperation) = some e
  | [], e => by simp [ofJsonItems, itemObjects]
  | j :: rest, e => by
    rw [ofJsonItems, itemObjects, List.find?_append]
    cases hj : Rule.ofJson j with
    | error e' =>
      rw [ofJson_eq_error_iff_find j] at hj
      simp [hj]
    | ok r =>
      -- the first item reads, so the failure, if any, is in the rest
      have hnone : j.objects.find? (fun o => !o.isOperation) = none := by
        cases hf : j.objects.find? (fun o => !o.isOperation) with
        | none => rfl
        | some o => rw [← ofJson_eq_error_iff_find j, hj] at hf; cases hf
      rw [hnone, Option.none_or, ← ofJsonItems_eq_error_iff_find rest, Except.map_eq_error_iff]

end

mutual

/-- A rule read from a document prints as the document with its numbers normalized. -/
theorem toJson_of_ofJson : ∀ {j : Json} {t : Rule}, Rule.ofJson j = .ok t →
    t.toJson = j.normalized
  | .array items, t, h => by
    rw [Rule.ofJson, Except.map_eq_ok_iff] at h
    obtain ⟨ts, hs, rfl⟩ := h
    simp [toJson, normalized, toJsonItems_of_ofJsonItems hs]
  | .object [(key, value)], t, h => by
    by_cases hv : ∃ items, value = .array items
    · obtain ⟨items, rfl⟩ := hv
      rw [Rule.ofJson, Except.map_eq_ok_iff] at h
      obtain ⟨ts, hs, rfl⟩ := h
      simp [toJson, normalized, normalizedMembers, toJsonItems_of_ofJsonItems hs]
    · simp only [not_exists] at hv
      rw [ofJson_single hv, Except.map_eq_ok_iff] at h
      obtain ⟨arg, ha, rfl⟩ := h
      simp [toJson, toJsonItems, toJson_of_ofJson ha]
  | .object [], t, h | .object (_ :: _ :: _), t, h => by simp [Rule.ofJson] at h
  | .null, t, h | .bool _, t, h | .number _, t, h | .string _, t, h => by
    simp only [Rule.ofJson, Except.ok.injEq] at h
    subst h
    simp [toJson, normalized, Value.ofJson, Value.toJson]

/-- Rules read from items print as the normalized items. -/
theorem toJsonItems_of_ofJsonItems : ∀ {items : List Json} {ts : List Rule},
    Rule.ofJsonItems items = .ok ts → toJsonItems ts = normalizedItems items
  | [], ts, h => by
    simp only [ofJsonItems, Except.ok.injEq] at h
    subst h
    rfl
  | j :: rest, ts, h => by
    rw [ofJsonItems] at h
    cases hj : Rule.ofJson j with
    | error e => simp [hj] at h
    | ok r =>
      rw [hj, Except.map_eq_ok_iff] at h
      obtain ⟨rs, hrs, rfl⟩ := h
      simp [toJsonItems, normalizedItems, toJson_of_ofJson hj, toJsonItems_of_ofJsonItems hrs]

end

mutual

/-- Reading the normalized document gives the same rule again, when its numbers are ones a
JSON reader holds. -/
theorem ofJson_normalized : ∀ {j : Json} {t : Rule}, Rule.ofJson j = .ok t →
    j.numbersValid = true → ∃ t', Rule.ofJson j.normalized = .ok t' ∧ t'.same t = true
  | .array items, t, h, hv => by
    rw [Rule.ofJson, Except.map_eq_ok_iff] at h
    obtain ⟨ts, hs, rfl⟩ := h
    obtain ⟨ts', hs', hsame⟩ := ofJsonItems_normalized hs (by simpa [numbersValid] using hv)
    exact ⟨.list ts', by simp [normalized, Rule.ofJson, hs', Except.map],
      by simpa [same] using hsame⟩
  | .object [(key, value)], t, h, hv => by
    have hvv : value.numbersValid = true := by simpa [numbersValid, membersValid] using hv
    rw [normalized_operation]
    by_cases ha : ∃ items, value = .array items
    · obtain ⟨items, rfl⟩ := ha
      rw [Rule.ofJson, Except.map_eq_ok_iff] at h
      obtain ⟨ts, hs, rfl⟩ := h
      obtain ⟨ts', hs', hsame⟩ := ofJsonItems_normalized hs (by simpa [numbersValid] using hvv)
      exact ⟨.operation key ts' true, by simp [normalized, Rule.ofJson, hs', Except.map],
        by simpa [same] using hsame⟩
    · simp only [not_exists] at ha
      rw [ofJson_single ha, Except.map_eq_ok_iff] at h
      obtain ⟨arg, harg, rfl⟩ := h
      obtain ⟨arg', harg', hsame⟩ := ofJson_normalized harg hvv
      refine ⟨.operation key [arg'] false, ?_, by simp [same, sameItems, hsame]⟩
      rw [ofJson_single (normalized_ne_array ha), harg']
      rfl
  | .object [], t, h, _ | .object (_ :: _ :: _), t, h, _ => by simp [Rule.ofJson] at h
  | .number n, t, h, hv => by
    simp only [Rule.ofJson, Except.ok.injEq] at h
    subst h
    exact ⟨_, ofJson_toJson_ofNumber n, Value.strictEq_ofJson_toJson_ofNumber hv⟩
  | .null, t, h, _ | .bool _, t, h, _ | .string _, t, h, _ => by
    simp only [Rule.ofJson, Except.ok.injEq] at h
    subst h
    exact ⟨_, rfl, by simp [same, normalized, Value.ofJson, Value.strictEq]⟩

/-- Reading normalized items gives the same rules again. -/
theorem ofJsonItems_normalized : ∀ {items : List Json} {ts : List Rule},
    Rule.ofJsonItems items = .ok ts → itemsValid items = true →
      ∃ ts', Rule.ofJsonItems (normalizedItems items) = .ok ts' ∧ sameItems ts' ts = true
  | [], ts, h, _ => by
    simp only [ofJsonItems, Except.ok.injEq] at h
    subst h
    exact ⟨[], rfl, rfl⟩
  | j :: rest, ts, h, hv => by
    simp only [itemsValid, Bool.and_eq_true] at hv
    rw [ofJsonItems] at h
    cases hj : Rule.ofJson j with
    | error e => simp [hj] at h
    | ok r =>
      rw [hj, Except.map_eq_ok_iff] at h
      obtain ⟨rs, hrs, rfl⟩ := h
      obtain ⟨r', hr', hsame⟩ := ofJson_normalized hj hv.1
      obtain ⟨rs', hrs', hsames⟩ := ofJsonItems_normalized hrs hv.2
      exact ⟨r' :: rs', by simp [normalizedItems, ofJsonItems, hr', hrs', Except.map],
        by simp [sameItems, hsame, hsames]⟩

end

/-- Reading a document fails exactly when some object in it does not have one member, and
then reports the first such object in pre-order; a rule read prints back as the normalized
document, which reads back as the same rule when its numbers are ones a JSON reader holds. -/
theorem ofJson_reads_rule_language (j : Json) :
    ((∃ e, Rule.ofJson j = .error e) ↔
        ∃ members, Json.object members ∈ j.objects ∧ members.length ≠ 1) ∧
      (∀ e, Rule.ofJson j = .error e ↔ j.firstMalformed = some e) ∧
      ∀ t, Rule.ofJson j = .ok t → t.toJson = j.normalized ∧
        (j.numbersValid = true → ∃ t', Rule.ofJson t.toJson = .ok t' ∧ t'.same t = true) := by
  refine ⟨?_, fun e => ofJson_eq_error_iff_find j, fun t ht => ⟨toJson_of_ofJson ht, ?_⟩⟩
  · rw [← firstMalformed_isSome_iff, Option.isSome_iff_exists]
    exact exists_congr fun e => ofJson_eq_error_iff_find j
  · intro hv
    rw [toJson_of_ofJson ht]
    exact ofJson_normalized ht hv

/-- The sum of two, negative zero and one and a half, written as words: the integral ones
print as integers and read back as equal numbers. -/
theorem ofJson_reads_rule_language_sum :
    (Json.object [("+", .array [.number (.float ⟨0x4000000000000000⟩),
      .number (.float ⟨0x8000000000000000⟩), .number (.float ⟨0x3FF8000000000000⟩)])]).numbersValid
        = true ∧
    ∃ t, Rule.ofJson (.object [("+", .array [.number (.float ⟨0x4000000000000000⟩),
      .number (.float ⟨0x8000000000000000⟩), .number (.float ⟨0x3FF8000000000000⟩)])]) = .ok t ∧
      ∃ t', Rule.ofJson t.toJson = .ok t' ∧ t'.same t = true := by
  have hv : (Json.object [("+", .array [.number (.float ⟨0x4000000000000000⟩),
      .number (.float ⟨0x8000000000000000⟩), .number (.float ⟨0x3FF8000000000000⟩)])]).numbersValid
        = true := by decide
  exact ⟨hv, _, rfl, ((ofJson_reads_rule_language _).2.2 _ rfl).2 hv⟩

end Rule

end RuleMachine
