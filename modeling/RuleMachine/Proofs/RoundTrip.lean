import RuleMachine.Proofs.Documents
import RuleMachine.Proofs.Relations

/-!
# Values and documents, there and back

A document read as a value and written back is the document with its numbers folded
(`Json.foldNumbers`): an integer of 64 bits signed is kept, an integral float of magnitude at
most `2^53 - 1` (negative zero included) becomes that integer, and an integer above `2^63 - 1`
and every other float become the word they read as. This holds for every document a JSON reader
holds: numbers within its ranges (`Json.numbersValid`) and objects with strictly increasing keys
(`Json.keysSorted`), as its sorted maps keep them.

A value written as a document and read back is strictly equal to the value, for every value
whose objects hold each key once (`Value.DistinctKeys`) and whose words are finite
(`Value.numbersFinite`): sorting the members of an object permutes them
(`Value.sortMembers_perm`), and a number comes back as an equal number.

Writing sorts object members by inserting them one by one (`Value.sortMembers`); for members
that are already in order every insertion appends (`Json.insert_of_lt`), so sorting changes
nothing.
-/

namespace RuleMachine

namespace Binary64

/-- Rounding a quotient to the nearest integer gives at least its floor. -/
theorem div_le_roundHalfEven (n d : Nat) : n / d ≤ roundHalfEven n d := by
  simp only [roundHalfEven]
  split_ifs <;> omega

/-- A nonzero integer's rounded significand is normal: at least `2^52`. -/
theorem hiddenBit_le_roundedRatio {N : Nat} (h0 : N ≠ 0) : hiddenBit ≤ (roundedRatio N 1).1 := by
  have hl : 2 ^ N.log2 ≤ N := Nat.log2_self_le h0
  -- the scaled quotient is at least `2^52`, and rounding gives at least its floor
  have hq : 2 ^ 52 ≤ (scaleByPow2 N 1 ((N.log2 : Int) - 52)).1 /
      (scaleByPow2 N 1 ((N.log2 : Int) - 52)).2 := by
    unfold scaleByPow2
    split
    · rw [one_mul, Nat.le_div_iff_mul_le (by positivity), ← pow_add]
      calc 2 ^ (52 + ((N.log2 : Int) - 52).toNat) = 2 ^ N.log2 := by congr 1; omega
        _ ≤ N := hl
    · rw [Nat.div_one]
      calc 2 ^ 52 = 2 ^ N.log2 * 2 ^ (-((N.log2 : Int) - 52)).toNat := by
            rw [← pow_add]; congr 1; omega
        _ ≤ N * 2 ^ (-((N.log2 : Int) - 52)).toNat := Nat.mul_le_mul_right _ hl
  have hr := div_le_roundHalfEven (scaleByPow2 N 1 ((N.log2 : Int) - 52)).1
    (scaleByPow2 N 1 ((N.log2 : Int) - 52)).2
  unfold roundedRatio
  simp only [gridExponent_of_ne_zero h0]
  split_ifs <;> simp only [hiddenBit] <;> omega

/-- An infinity is not integral. -/
theorem isIntegral_infinity (negative : Bool) : (infinity negative).isIntegral = false := by
  cases negative <;> decide

/-- What the word of a nonzero integer is: below `2^53` in significand, either an infinity or
the finite word with the rounded significand and exponent. -/
theorem ofInt_cases {n : Int} (h0 : n.natAbs ≠ 0) :
    ofInt n = infinity (decide (n < 0)) ∨
      (ofInt n).exact = .finite (decide (n < 0)) (roundedRatio n.natAbs 1).1
        (roundedRatio n.natAbs 1).2 := by
  have hnorm := hiddenBit_le_roundedRatio h0
  obtain ⟨hr, hq₀, -⟩ := roundedRatio_bound h0
  unfold ofInt ofRatio
  simp only [h0, ↓reduceIte]
  rcases hrq : roundedRatio n.natAbs 1 with ⟨r, q⟩
  rw [hrq] at hr hq₀ hnorm
  dsimp only at hr hq₀ hnorm ⊢
  rw [if_neg (Nat.not_lt.2 hnorm)]
  split
  · exact .inl rfl
  · -- a normal word: the hidden bit is the significand's top bit
    refine .inr ?_
    rw [exact_of_fields _ _ _ (by omega) (by omega) (by simp only [hiddenBit] at hnorm ⊢; omega),
      Nat.sub_add_cancel hnorm, Exact.finite.injEq]
    exact ⟨rfl, rfl, by omega⟩

/-- An integer of magnitude at least `2^53` rounds to a word that is no safe integer: an
infinity, or a finite word whose integer part is at least `2^53` in magnitude. -/
theorem not_safe_ofInt {n : Int} (h53 : 2 ^ 53 ≤ n.natAbs) :
    ¬ ((ofInt n).isIntegral = true ∧ (ofInt n).truncInt.natAbs ≤ Value.maxSafe) := by
  have h0 : n.natAbs ≠ 0 := by omega
  have hl : 53 ≤ n.natAbs.log2 := (Nat.le_log2 h0).2 h53
  have hnorm := hiddenBit_le_roundedRatio h0
  obtain ⟨-, hq₀, -⟩ := roundedRatio_bound h0
  rintro ⟨hi, hsafe⟩
  rcases ofInt_cases h0 with h | h
  · rw [h, isIntegral_infinity] at hi
    cases hi
  · -- the integer part is the significand, at least `2^52`, times at least two
    have hq : 1 ≤ (roundedRatio n.natAbs 1).2 := by omega
    have htrunc : (ofInt n).truncInt.natAbs =
        (roundedRatio n.natAbs 1).1 * 2 ^ (roundedRatio n.natAbs 1).2.toNat := by
      simp only [truncInt, h, show 0 ≤ (roundedRatio n.natAbs 1).2 by omega, ↓reduceIte]
      cases decide (n < 0) <;>
        simp only [Bool.false_eq_true, ↓reduceIte, Int.natAbs_neg, Int.natAbs_natCast]
    have hpow : 2 ≤ 2 ^ (roundedRatio n.natAbs 1).2.toNat :=
      Nat.le_self_pow (by omega) 2
    have hbig : 2 ^ 53 ≤ (roundedRatio n.natAbs 1).1 * 2 ^ (roundedRatio n.natAbs 1).2.toNat :=
      calc 2 ^ 53 = hiddenBit * 2 := by simp [hiddenBit]
        _ ≤ _ := Nat.mul_le_mul hnorm hpow
    simp only [Value.maxSafe] at hsafe
    omega

end Binary64

/-! ## Folding numbers -/

namespace Json

/-- A number as the round trip through a value leaves it: an integer of 64 bits signed is
kept; a float that is integral with magnitude at most `2^53 - 1`, negative zero included,
becomes that integer; an integer above `2^63 - 1` and every other float become the word they
read as. -/
def Number.fold : Json.Number → Json.Number
  | .nat n => if n < 2 ^ 63 then .nat n else .float (Binary64.ofInt n)
  | .neg n => .neg n
  | .float x =>
    if x.isIntegral ∧ x.truncInt.natAbs ≤ Value.maxSafe then
      if 0 ≤ x.truncInt then .nat x.truncInt.toNat else .neg x.truncInt
    else .float x

mutual

/-- The document with every number folded, at every depth. -/
def foldNumbers : Json → Json
  | .number n => .number n.fold
  | .array items => .array (foldItems items)
  | .object members => .object (foldMembers members)
  | j => j

/-- Array items with their numbers folded. -/
def foldItems : List Json → List Json
  | [] => []
  | j :: rest => foldNumbers j :: foldItems rest

/-- Member values with their numbers folded. -/
def foldMembers : List (String × Json) → List (String × Json)
  | [] => []
  | (k, j) :: rest => (k, foldNumbers j) :: foldMembers rest

end

mutual

/-- Whether every object of the document, at any depth, has strictly increasing keys, as the
sorted maps of a JSON reader do. -/
def keysSorted : Json → Bool
  | .array items => itemsKeysSorted items
  | .object members =>
    decide ((members.map Prod.fst).Pairwise (· < ·)) && membersKeysSorted members
  | _ => true

/-- Whether every object of the items has strictly increasing keys. -/
def itemsKeysSorted : List Json → Bool
  | [] => true
  | j :: rest => keysSorted j && itemsKeysSorted rest

/-- Whether every object of the member values has strictly increasing keys. -/
def membersKeysSorted : List (String × Json) → Bool
  | [] => true
  | (_, j) :: rest => keysSorted j && membersKeysSorted rest

end

/-- Folding keeps the keys. -/
@[simp] theorem keys_foldMembers (members : List (String × Json)) :
    (foldMembers members).map Prod.fst = members.map Prod.fst := by
  induction members with
  | nil => rfl
  | cons m rest ih => simp [foldMembers, ih]

/-- Inserting a key above every key of a sorted member list appends it. -/
theorem insert_of_lt (key : String) (value : Json) : ∀ {members : List (String × Json)},
    (∀ m ∈ members, m.1 < key) → insert key value members = members ++ [(key, value)]
  | [], _ => rfl
  | (k, v) :: rest, h => by
    have hk : k < key := h (k, v) List.mem_cons_self
    rw [insert, if_neg (String.lt_asymm hk), if_neg (String.ne_of_lt hk).symm,
      insert_of_lt key value fun m hm => h m (List.mem_cons_of_mem _ hm)]
    rfl

/-- Inserting a new key adds its member, in some place. -/
theorem insert_perm (key : String) (value : Json) : ∀ (members : List (String × Json)),
    key ∉ members.map Prod.fst → (insert key value members).Perm ((key, value) :: members)
  | [], _ => List.Perm.refl _
  | (k, v) :: rest, h => by
    simp only [List.map_cons, List.mem_cons, not_or] at h
    rw [insert]
    split
    · exact List.Perm.refl _
    · rw [if_neg h.1]
      exact ((insert_perm key value rest h.2).cons _).trans (List.Perm.swap _ _ _)

end Json

namespace Value

/-- Sorting members in order inserts each at the end. -/
theorem foldl_insert_of_sorted : ∀ (members acc : List (String × Json)),
    ((acc ++ members).map Prod.fst).Pairwise (· < ·) →
      members.foldl (fun acc (k, v) => Json.insert k v acc) acc = acc ++ members
  | [], acc, _ => by simp
  | (k, v) :: rest, acc, h => by
    have hlt : ∀ m ∈ acc, m.1 < k := by
      rw [List.map_append, List.pairwise_append] at h
      exact fun m hm => h.2.2 m.1 (List.mem_map.2 ⟨m, hm, rfl⟩) k List.mem_cons_self
    rw [List.foldl_cons]
    simp only
    rw [Json.insert_of_lt k v hlt, foldl_insert_of_sorted rest _ (by simpa using h)]
    simp

/-- Sorting members already in increasing key order changes nothing. -/
theorem sortMembers_of_sorted {members : List (String × Json)}
    (h : (members.map Prod.fst).Pairwise (· < ·)) : sortMembers members = members :=
  foldl_insert_of_sorted members [] h

/-- Inserting members with distinct keys permutes them. -/
theorem foldl_insert_perm : ∀ (members acc : List (String × Json)),
    ((acc ++ members).map Prod.fst).Nodup →
      (members.foldl (fun acc (k, v) => Json.insert k v acc) acc).Perm (acc ++ members)
  | [], acc, _ => by simp
  | (k, v) :: rest, acc, h => by
    have hk : k ∉ acc.map Prod.fst := by
      rw [List.map_append, List.nodup_append] at h
      exact fun hk => h.2.2 _ hk _ List.mem_cons_self rfl
    -- the member inserted first sits where the order puts it; the rest follow
    have hins : (Json.insert k v acc ++ rest).Perm (acc ++ (k, v) :: rest) :=
      ((Json.insert_perm k v acc hk).append_right rest).trans List.perm_middle.symm
    rw [List.foldl_cons]
    exact (foldl_insert_perm rest _ ((hins.map Prod.fst).nodup_iff.2 h)).trans hins

/-- Sorting members with distinct keys permutes them. -/
theorem sortMembers_perm {members : List (String × Json)} (h : (members.map Prod.fst).Nodup) :
    (sortMembers members).Perm members :=
  foldl_insert_perm members [] h

/-! ## Documents there and back -/

/-- A number a JSON reader holds, read and written, is the folded number. -/
theorem toJson_ofNumber_fold {n : Json.Number} (h : n.isValid = true) :
    (ofNumber n).toJson = .number n.fold := by
  cases n
  case nat k =>
    simp only [Json.Number.isValid, decide_eq_true_eq] at h
    simp only [ofNumber, Json.Number.fold]
    split
    · simp [toJson, intNumber]
    · -- a u64 above the i64 range becomes its finite word
      rename_i hk
      have hw : ofWord (Binary64.ofInt k) = .float (Binary64.ofInt k) := by
        rw [ofWord, if_neg]
        simpa using Binary64.not_safe_ofInt (n := (k : Int)) (by omega)
      simp [toJson, wordJson, hw, Binary64.isFinite_ofInt (show (k : Int).natAbs < 2 ^ 64 by omega)]
  case neg k =>
    simp only [Json.Number.isValid, decide_eq_true_eq] at h
    simp [ofNumber, toJson, intNumber, Json.Number.fold, show ¬ 0 ≤ k by omega]
  case float x =>
    simp only [Json.Number.isValid] at h
    by_cases hc : x.isIntegral = true ∧ x.truncInt.natAbs ≤ maxSafe
    · have hw : ofWord x = .int x.truncInt := by simp [ofWord, hc.1, hc.2]
      simp only [ofNumber, toJson, wordJson, hw, Json.Number.fold, if_pos hc]
      rfl
    · have hw : ofWord x = .float x := by
        simp only [ofWord, Bool.and_eq_true, decide_eq_true_eq]
        rw [if_neg hc]
      simp only [ofNumber, toJson, wordJson, hw, h, ↓reduceIte, Json.Number.fold, if_neg hc]

mutual

/-- A document a JSON reader holds, read as a value and written back, is the document with its
numbers folded. -/
theorem toJson_ofJson : ∀ {j : Json}, j.numbersValid = true → j.keysSorted = true →
    (ofJson j).toJson = j.foldNumbers
  | .null, _, _ | .bool _, _, _ | .string _, _, _ => rfl
  | .number n, hv, _ => by
    rw [ofJson, toJson_ofNumber_fold hv, Json.foldNumbers]
  | .array items, hv, hs => by
    rw [ofJson, toJson, Json.foldNumbers, toJsonItems_ofJsonItems hv hs]
  | .object members, hv, hs => by
    simp only [Json.keysSorted, Bool.and_eq_true, decide_eq_true_eq] at hs
    rw [ofJson, toJson, Json.foldNumbers, toJsonMembers_ofJsonMembers hv hs.2,
      sortMembers_of_sorted (by rw [Json.keys_foldMembers]; exact hs.1)]

/-- Items there and back. -/
theorem toJsonItems_ofJsonItems : ∀ {items : List Json}, Json.itemsValid items = true →
    Json.itemsKeysSorted items = true → toJsonItems (ofJsonItems items) = Json.foldItems items
  | [], _, _ => rfl
  | j :: rest, hv, hs => by
    simp only [Json.itemsValid, Json.itemsKeysSorted, Bool.and_eq_true] at hv hs
    rw [ofJsonItems, toJsonItems, Json.foldItems, toJson_ofJson hv.1 hs.1,
      toJsonItems_ofJsonItems hv.2 hs.2]

/-- Member values there and back. -/
theorem toJsonMembers_ofJsonMembers : ∀ {members : List (String × Json)},
    Json.membersValid members = true → Json.membersKeysSorted members = true →
      toJsonMembers (ofJsonMembers members) = Json.foldMembers members
  | [], _, _ => rfl
  | (k, j) :: rest, hv, hs => by
    simp only [Json.membersValid, Json.membersKeysSorted, Bool.and_eq_true] at hv hs
    rw [ofJsonMembers, toJsonMembers, Json.foldMembers, toJson_ofJson hv.1 hs.1,
      toJsonMembers_ofJsonMembers hv.2 hs.2]

end

mutual

/-- Whether every word of the value, at any depth, is finite. -/
def numbersFinite : Value → Bool
  | .float x => x.isFinite
  | .array items => itemsFinite items
  | .object members => membersFinite members
  | _ => true

/-- Whether every word of the items is finite. -/
def itemsFinite : List Value → Bool
  | [] => true
  | v :: rest => numbersFinite v && itemsFinite rest

/-- Whether every word of the member values is finite. -/
def membersFinite : List (String × Value) → Bool
  | [] => true
  | (_, v) :: rest => numbersFinite v && membersFinite rest

end

/-- An integer comes back as an equal number: itself, or its word when it is beyond the signed
64-bit range. -/
theorem strictEq_ofJson_toJson_int (n : Int) : (ofJson (Value.int n).toJson).strictEq (.int n) = true := by
  have hself : (Binary64.ofInt n).eq (Binary64.ofInt n) = true :=
    Binary64.eq_self_of_isNaN (Binary64.isNaN_ofInt n)
  simp only [toJson, intNumber, ofJson]
  split
  · rename_i hn
    simp only [ofNumber, Int.toNat_of_nonneg hn]
    split <;> simpa [strictEq] using hself
  · simpa [ofNumber, strictEq] using hself

/-- Writing members and reading them back maps each value by the round trip, in the order
sorting gives. -/
theorem ofJsonMembers_eq_map (members : List (String × Json)) :
    ofJsonMembers members = members.map fun m => (m.1, ofJson m.2) := by
  induction members with
  | nil => rfl
  | cons m rest ih => simp [ofJsonMembers, ih]

theorem toJsonMembers_eq_map (members : List (String × Value)) :
    toJsonMembers members = members.map fun m => (m.1, m.2.toJson) := by
  induction members with
  | nil => rfl
  | cons m rest ih => simp [toJsonMembers, ih]

mutual

/-- A value whose objects hold each key once and whose words are finite, written as a document
and read back, is strictly equal to itself. -/
theorem strictEq_ofJson_toJson : ∀ {v : Value}, v.DistinctKeys → v.numbersFinite = true →
    (ofJson v.toJson).strictEq v = true
  | .null, _, _ | .bool _, _, _ => by simp [toJson, ofJson, strictEq]
  | .string _, _, _ => by simp [toJson, ofJson, strictEq]
  | .int n, _, _ => strictEq_ofJson_toJson_int n
  | .float x, _, hf => strictEq_ofJson_wordJson hf
  | .array items, hd, hf => by
    have hall : ∀ v ∈ items, v.DistinctKeys := by
      cases hd with
      | scalar h => simp [isContainer] at h
      | array h => exact h
    simp only [toJson, ofJson, strictEq, Bool.and_eq_true, beq_iff_eq]
    exact itemsStrictEq_ofJson_toJson hall hf
  | .object members, hd, hf => by
    obtain ⟨hnd, hall⟩ : (members.map Prod.fst).Nodup ∧ ∀ m ∈ members, m.2.DistinctKeys := by
      cases hd with
      | scalar h => simp [isContainer] at h
      | object hnd hall => exact ⟨hnd, hall⟩
    have hback := membersStrictEq_ofJson_toJson hall hf
    -- sorting permutes the written members, so reading gives each value back under its key
    have hperm : (ofJsonMembers (sortMembers (toJsonMembers members))).Perm
        (members.map fun m => (m.1, ofJson m.2.toJson)) := by
      rw [ofJsonMembers_eq_map]
      refine ((sortMembers_perm ?_).map _).trans ?_
      · simpa [toJsonMembers_eq_map, Function.comp_def] using hnd
      · simp [toJsonMembers_eq_map, Function.comp_def]
    simp only [toJson, ofJson, strictEq, Bool.and_eq_true, beq_iff_eq, membersStrictIn_iff]
    refine ⟨by simp [hperm.length_eq], fun m hm => ?_⟩
    obtain ⟨⟨k, v⟩, hkv, rfl⟩ := List.mem_map.1 (hperm.mem_iff.1 hm)
    exact ⟨v, lookup_of_mem hnd hkv, hback _ hkv⟩

/-- Items there and back: as many, each strictly equal to its original. -/
theorem itemsStrictEq_ofJson_toJson : ∀ {items : List Value}, (∀ v ∈ items, v.DistinctKeys) →
    itemsFinite items = true →
      (ofJsonItems (toJsonItems items)).length = items.length ∧
        itemsStrictEq (ofJsonItems (toJsonItems items)) items = true
  | [], _, _ => ⟨rfl, rfl⟩
  | v :: rest, hd, hf => by
    simp only [itemsFinite, Bool.and_eq_true] at hf
    obtain ⟨hlen, hrest⟩ :=
      itemsStrictEq_ofJson_toJson (fun w hw => hd w (List.mem_cons_of_mem _ hw)) hf.2
    refine ⟨by simp [toJsonItems, ofJsonItems, hlen], ?_⟩
    simp only [toJsonItems, ofJsonItems, itemsStrictEq, Bool.and_eq_true]
    exact ⟨strictEq_ofJson_toJson (hd v List.mem_cons_self) hf.1, hrest⟩

/-- Member values there and back, each strictly equal to its original. -/
theorem membersStrictEq_ofJson_toJson : ∀ {members : List (String × Value)},
    (∀ m ∈ members, m.2.DistinctKeys) → membersFinite members = true →
      ∀ m ∈ members, (ofJson m.2.toJson).strictEq m.2 = true
  | [], _, _ => by simp
  | (k, v) :: rest, hd, hf => by
    simp only [membersFinite, Bool.and_eq_true] at hf
    have hrest := membersStrictEq_ofJson_toJson (fun m hm => hd m (List.mem_cons_of_mem _ hm)) hf.2
    rw [List.forall_mem_cons]
    exact ⟨strictEq_ofJson_toJson (hd (k, v) List.mem_cons_self) hf.1, hrest⟩

end

/-- Values and documents convert into each other inversely up to the folding of numbers: a
document a JSON reader holds (numbers within its ranges, object keys strictly increasing), read
as a value and written back, is the document with every number folded at every depth; and a
value whose objects hold each key once and whose words are all finite, written as a document
and read back, is strictly equal to the value. -/
theorem round_trip_json :
    (∀ j : Json, j.numbersValid = true → j.keysSorted = true →
      (ofJson j).toJson = j.foldNumbers) ∧
    (∀ v : Value, v.DistinctKeys → v.numbersFinite = true → (ofJson v.toJson).strictEq v = true) :=
  ⟨fun _ hv hs => toJson_ofJson hv hs, fun _ hd hf => strictEq_ofJson_toJson hd hf⟩

/-- An object with a float `2.5`, the float `2.0` and negative zero, read and written back with
its numbers folded; and a value whose members are out of key order, written and read back. -/
theorem round_trip_json_object :
    let j := Json.object [("f", .number (.float ⟨0x4004000000000000⟩)),
      ("l", .array [.bool true, .null]), ("n", .number (.float ⟨0x4000000000000000⟩)),
      ("z", .number (.float ⟨0x8000000000000000⟩))]
    let v := Value.object [("s", .string "x"), ("n", .int 1), ("f", .float ⟨0x4004000000000000⟩)]
    j.numbersValid = true ∧ j.keysSorted = true ∧ (ofJson j).toJson = j.foldNumbers ∧
      v.DistinctKeys ∧ v.numbersFinite = true ∧ (ofJson v.toJson).strictEq v = true := by
  intro j v
  have hj : j.numbersValid = true := by decide
  have hs : j.keysSorted = true := by decide
  have hd : v.DistinctKeys := .object (by decide) fun m hm => by
    simp only [List.mem_cons, List.mem_nil_iff, or_false] at hm
    rcases hm with rfl | rfl | rfl <;> exact .scalar rfl
  have hf : v.numbersFinite = true := by decide
  exact ⟨hj, hs, round_trip_json.1 j hj hs, hd, hf, round_trip_json.2 v hd hf⟩

end Value

end RuleMachine
