import RuleMachine.Proofs.Relations
import RuleMachine.Run.Routines

/-!
# Missing keys

`missing` and `missing_some` report the keys that a record lacks. The keys are the first
argument when that is an array and the whole argument list otherwise (`keyList`); a key is
lacking when the record resolves its text to null or to the empty string (`isMissing`). Each
distinct text is checked once, in the order it first appears, and reported as the key that
first had it (`Support.absentKeys`), however many keys share the text; `missing_some` counts
the present names as the distinct names less the absent ones, a difference that never goes
below zero.

The loop of `missingKeys` keeps the names seen so far and the keys found absent, newest first;
`Support.foldl_missing` says what it holds after every prefix of the keys, taking one appended
key at a time.
-/

namespace RuleMachine

namespace Support

/-- The distinct names of keys (their texts), in order of first appearance. -/
def keyNames (keys : List Value) : List String := (keys.map Value.toText).eraseDups

/-- For each distinct name that the data lacks, in order of first appearance, the first key
with that name. -/
def absentKeys (data : Value) (keys : List Value) : List Value :=
  ((keyNames keys).filter (isMissing data)).filterMap fun name => keys.find? (·.toText == name)

theorem keyNames_append_singleton (keys : List Value) (key : Value) :
    keyNames (keys ++ [key]) =
      if key.toText ∈ keyNames keys then keyNames keys else keyNames keys ++ [key.toText] := by
  unfold keyNames
  rw [List.map_append, List.eraseDups_append]
  have hmem : key.toText ∈ (keys.map Value.toText).eraseDups ↔ key.toText ∈ keys.map Value.toText :=
    List.mem_eraseDups
  split <;> simp_all [List.removeAll, List.eraseDups_cons]

/-- A name that some key already has is found among those keys, before any key appended. -/
theorem find?_append_of_mem {keys : List Value} (key : Value) {name : String}
    (h : name ∈ keyNames keys) :
    (keys ++ [key]).find? (·.toText == name) = keys.find? (·.toText == name) := by
  rw [keyNames, List.mem_eraseDups, List.mem_map] at h
  obtain ⟨k, hk, rfl⟩ := h
  have hsome : (keys.find? (·.toText == k.toText)).isSome :=
    List.find?_isSome.2 ⟨k, hk, beq_self_eq_true _⟩
  obtain ⟨x, hx⟩ := Option.isSome_iff_exists.1 hsome
  rw [List.find?_append, hx, Option.some_or]

theorem absentKeys_append_singleton (data : Value) (keys : List Value) (key : Value) :
    absentKeys data (keys ++ [key]) =
      if key.toText ∈ keyNames keys then absentKeys data keys
      else absentKeys data keys ++ if isMissing data key.toText then [key] else [] := by
  have hold : ∀ name ∈ (keyNames keys).filter (isMissing data),
      (keys ++ [key]).find? (·.toText == name) = keys.find? (·.toText == name) :=
    fun name hn => find?_append_of_mem key (List.mem_filter.1 hn).1
  unfold absentKeys
  rw [keyNames_append_singleton]
  split
  · exact List.filterMap_congr hold
  · rename_i hnew
    have hfind : keys.find? (·.toText == key.toText) = none := by
      rw [List.find?_eq_none]
      intro k hk he
      exact hnew (by rw [keyNames, List.mem_eraseDups]; exact List.mem_map.2 ⟨k, hk, by simpa using he⟩)
    rw [List.filter_append, List.filterMap_append, List.filterMap_congr hold]
    congr 1
    by_cases hm : isMissing data key.toText <;> simp [hm, List.find?_append, hfind]

/-- The loop of `missingKeys`, from nothing seen: the names seen are the distinct names, and the
keys kept are the absent ones, both newest first. -/
theorem foldl_missing {data : Value} {f : List String × List Value → Value → List String × List Value}
    (hf : ∀ seen absent key, f (seen, absent) key =
      if seen.contains key.toText then (seen, absent)
      else (key.toText :: seen, if isMissing data key.toText then key :: absent else absent))
    (keys : List Value) :
    keys.foldl f ([], []) = ((keyNames keys).reverse, (absentKeys data keys).reverse) := by
  induction keys using List.reverseRecOn with
  | nil => rfl
  | append_singleton keys key ih =>
    rw [List.foldl_append, ih, List.foldl_cons, List.foldl_nil, hf, keyNames_append_singleton,
      absentKeys_append_singleton]
    by_cases h : key.toText ∈ keyNames keys
    · simp [h]
    · by_cases hm : isMissing data key.toText <;> simp [h, hm]

/-- What `missingKeys` reports: the absent keys, and the number of distinct names. -/
theorem missingKeys_eq (data : Value) (keys : List Value) :
    missingKeys data keys = (absentKeys data keys, (keyNames keys).length) := by
  unfold missingKeys
  rw [foldl_missing (fun _ _ _ => rfl)]
  simp

/-- No more keys are absent than there are distinct names. -/
theorem length_absentKeys_le (data : Value) (keys : List Value) :
    (absentKeys data keys).length ≤ (keyNames keys).length :=
  (List.length_filterMap_le _ _).trans (List.length_filter_le _ _)

/-- `missing` reports the absent keys of its key list. -/
theorem missing_eq (data : Value) (args : List Value) :
    missing data args = absentKeys data (keyList args) := by
  rw [missing, missingKeys_eq]

/-- `missing_some` reports nothing when at least `least` of the distinct names are present, and
the absent keys otherwise. -/
theorem missingSome_eq (data least keys : Value) :
    missingSome data least keys =
      let list := keyList (match keys with | .array items => items | .null => [] | v => [v])
      let present := Binary64.ofInt ((keyNames list).length - (absentKeys data list).length)
      if least.toNumber.lt present || least.toNumber.eq present then [] else absentKeys data list := by
  simp only [missingSome, missingKeys_eq]
  generalize keyList (match keys with | .array items => items | .null => [] | v => [v]) = list
  -- the count of present names is a true difference, and comparing it the other way round
  -- reverses the answer
  rw [Nat.cast_sub (length_absentKeys_le data list), Binary64.compare_swap least.toNumber,
    Binary64.lt, Binary64.eq]
  rcases least.toNumber.compare _ with _ | (_ | _ | _) <;> rfl

/-- `missing` and `missing_some` report the documented keys: for each distinct name of the key
list that the data lacks, in order of first appearance, the first key with that name;
`missing_some` reads its keys as a list first, reports nothing when at least `least` names are
present, and counts the present names by a subtraction that never goes below zero. -/
theorem missing_documented (data : Value) (args : List Value) (least keys : Value) :
    missing data args = absentKeys data (keyList args) ∧
      (∀ list, (missingKeys data list).1.length ≤ (missingKeys data list).2) ∧
      missingSome data least keys =
        let list := keyList (match keys with | .array items => items | .null => [] | v => [v])
        let present := Binary64.ofInt ((keyNames list).length - (absentKeys data list).length)
        if least.toNumber.lt present || least.toNumber.eq present then [] else
          absentKeys data list := by
  refine ⟨missing_eq data args, fun list => ?_, missingSome_eq data least keys⟩
  rw [missingKeys_eq]
  exact length_absentKeys_le data list

end Support

end RuleMachine
