import RuleMachine.Proofs.Numbers

/-!
# Equality and order of values are symmetric

The machine pops the right operand of a comparison first and hands both operands, in the order
they were pushed, to `looseEq`, `strictEq`, `sameValueZero` or `compare`. No answer depends on
that order: the equalities are symmetric and `compare` reverses its answer when its operands are
swapped (`Value.relations_symmetric`).

Objects are maps, each key held once (`Value.DistinctKeys`). Strict equality of two objects asks
for as many members on both sides and a strictly equal member under each key of the first; with
distinct keys the two key sets are then the same, and each member of the second finds its
partner in the first (`Value.membersStrictIn_flip`). A list of members with a key twice breaks
this.

`looseEq` starts again after converting a boolean to its number, or an array or object to its
text. Each start turns a side of rank one (`Value.looseRank`) into one of rank zero, so there are
at most two conversions, and the answer is the one `Value.looseEqDirect` gives in one step from
the two sides' primitives (`Value.looseEq_eq_direct`).
-/

namespace RuleMachine

namespace Binary64

/-- Comparing the other way round reverses the answer; not-a-number on either side gives no
answer either way. -/
theorem compare_swap (x y : Binary64) : y.compare x = (x.compare y).map Ordering.swap := by
  unfold compare
  rcases x.exact with _ | a | ⟨a, m, q⟩ <;> rcases y.exact with _ | b | ⟨b, n, r⟩
  all_goals simp only [Option.map_some, Option.map_none]
  case infinite.infinite => cases a <;> cases b <;> rfl
  case infinite.finite => cases a <;> rfl
  case finite.infinite => cases b <;> rfl
  case finite.finite => rw [Int.compare_swap]

/-- Numeric equality does not depend on the order of its operands. -/
theorem eq_comm (x y : Binary64) : x.eq y = y.eq x := by
  simp only [eq, compare_swap y x]
  rcases y.compare x with _ | (_ | _ | _) <;> rfl

end Binary64

namespace Value

/-- Every object in the value, at any depth, holds each key once, as the maps of the rule
language do. -/
inductive DistinctKeys : Value → Prop
  | scalar {v : Value} : v.isContainer = false → DistinctKeys v
  | array {items : List Value} : (∀ v ∈ items, DistinctKeys v) → DistinctKeys (.array items)
  | object {members : List (String × Value)} : (members.map Prod.fst).Nodup →
      (∀ m ∈ members, DistinctKeys m.2) → DistinctKeys (.object members)

/-- `membersStrictIn` finds, under the key of each member of the first list, a strictly equal
member in the second. -/
theorem membersStrictIn_iff {xs ys : List (String × Value)} :
    membersStrictIn xs ys = true ↔
      ∀ m ∈ xs, ∃ y, ys.lookup m.1 = some y ∧ strictEq m.2 y = true := by
  induction xs with
  | nil => simp [membersStrictIn]
  | cons m rest ih =>
    obtain ⟨k, x⟩ := m
    rw [membersStrictIn, Bool.and_eq_true, ih, List.forall_mem_cons]
    cases ys.lookup k <;> simp

/-- In a list with distinct keys, a member is what its key looks up. -/
theorem lookup_of_mem {ys : List (String × Value)} (hy : (ys.map Prod.fst).Nodup) {k : String}
    {y : Value} (hm : (k, y) ∈ ys) : ys.lookup k = some y := by
  induction ys with
  | nil => simp at hm
  | cons m rest ih =>
    obtain ⟨k', y'⟩ := m
    rw [List.map_cons, List.nodup_cons] at hy
    rcases List.mem_cons.1 hm with h | h
    · simp_all
    · have hk : k ≠ k' := by
        rintro rfl
        exact hy.1 (List.mem_map.2 ⟨_, h, rfl⟩)
      simp [List.lookup_cons, beq_false_of_ne hk, ih hy.2 h]

/-- What a key looks up is a member under that key. -/
theorem mem_of_lookup {ys : List (String × Value)} {k : String} {y : Value}
    (h : ys.lookup k = some y) : (k, y) ∈ ys := by
  obtain ⟨l₁, l₂, rfl, -⟩ := List.lookup_eq_some_iff.1 h
  simp

/-- Two lists of members with distinct keys and as many members: when each member of the first
has a strictly equal partner under its key in the second, the key sets agree, and each member
of the second has its partner in the first. -/
theorem membersStrictIn_flip {xs ys : List (String × Value)} (hx : (xs.map Prod.fst).Nodup)
    (hy : (ys.map Prod.fst).Nodup) (hlen : xs.length = ys.length)
    (hsymm : ∀ m ∈ xs, ∀ m' ∈ ys, strictEq m.2 m'.2 = true → strictEq m'.2 m.2 = true)
    (h : membersStrictIn xs ys = true) : membersStrictIn ys xs = true := by
  rw [membersStrictIn_iff] at h ⊢
  -- the keys of `xs` are keys of `ys`; distinct and as many, they are all of them
  have hsub : xs.map Prod.fst ⊆ ys.map Prod.fst := by
    intro k hk
    obtain ⟨m, hm, rfl⟩ := List.mem_map.1 hk
    obtain ⟨y, hl, -⟩ := h m hm
    exact List.mem_map.2 ⟨_, mem_of_lookup hl, rfl⟩
  have hperm : (xs.map Prod.fst).Perm (ys.map Prod.fst) :=
    (hx.subperm hsub).perm_of_length_le (by simp [hlen])
  rintro ⟨k, y⟩ hm
  obtain ⟨⟨k', x⟩, hxm, hk⟩ := List.mem_map.1 (hperm.mem_iff.2 (List.mem_map.2 ⟨_, hm, rfl⟩))
  obtain rfl : k' = k := hk
  obtain ⟨y', hl, he⟩ := h _ hxm
  obtain rfl : y' = y := Option.some.inj ((lookup_of_mem hy hm).symm.trans hl).symm
  exact ⟨x, lookup_of_mem hx hxm, hsymm _ hxm _ hm he⟩

/-- Items equal pairwise, in either order. -/
theorem itemsStrictEq_comm {xs ys : List Value}
    (ih : ∀ x ∈ xs, ∀ y, DistinctKeys y → strictEq x y = strictEq y x)
    (hy : ∀ y ∈ ys, DistinctKeys y) : itemsStrictEq xs ys = itemsStrictEq ys xs := by
  induction xs generalizing ys with
  | nil => cases ys <;> rfl
  | cons x rest ihr =>
    cases ys with
    | nil => rfl
    | cons y ys =>
      simp only [itemsStrictEq, List.forall_mem_cons] at ih hy ⊢
      rw [ih.1 y hy.1, ihr ih.2 hy.2]

/-- Strict equality does not depend on the order of its operands, for values whose objects
hold each key once. -/
theorem strictEq_comm {a b : Value} (ha : a.DistinctKeys) (hb : b.DistinctKeys) :
    a.strictEq b = b.strictEq a := by
  induction ha generalizing b with
  | @scalar a hs =>
    cases hb with
    | @scalar b hs' => cases a <;> cases b <;> simp_all [isContainer, strictEq, Binary64.eq_comm, BEq.comm]
    | array => cases a <;> simp_all [isContainer, strictEq]
    | object => cases a <;> simp_all [isContainer, strictEq]
  | @array xs _ ih =>
    cases hb with
    | @scalar b hs => cases b <;> simp_all [isContainer, strictEq]
    | @array ys hys =>
      simp only [strictEq]
      rw [itemsStrictEq_comm ih hys, BEq.comm]
    | object => simp [strictEq]
  | @object xs hx _ ih =>
    cases hb with
    | @scalar b hs => cases b <;> simp_all [isContainer, strictEq]
    | array => simp [strictEq]
    | @object ys hy hys =>
      simp only [strictEq]
      by_cases hlen : xs.length = ys.length
      · -- as many members on both sides: each side finds partners in the other
        have hiff : membersStrictIn xs ys = true ↔ membersStrictIn ys xs = true :=
          ⟨membersStrictIn_flip hx hy hlen fun m hm m' hm' h => by
              rwa [ih m hm (hys m' hm')] at h,
           membersStrictIn_flip hy hx hlen.symm fun m' hm' m hm h => by
              rwa [ih m hm (hys m' hm')]⟩
        simp [hlen, Bool.eq_iff_iff.2 hiff]
      · rw [beq_false_of_ne hlen, beq_false_of_ne (Ne.symm hlen), Bool.false_and, Bool.false_and]

/-- SameValueZero does not depend on the order of its operands. -/
theorem sameValueZero_comm {a b : Value} (ha : a.DistinctKeys) (hb : b.DistinctKeys) :
    a.sameValueZero b = b.sameValueZero a := by
  unfold sameValueZero
  rw [strictEq_comm ha hb]
  cases a.asWord? <;> cases b.asWord? <;> simp [Bool.and_comm]

/-- The primitive a value stands for in a loose comparison: a boolean its number, an array or
object its text, anything else itself. -/
def loosePrimitive : Value → Value
  | .bool b => if b then .int 1 else .int 0
  | v@(.array _) => .string v.toText
  | v@(.object _) => .string v.toText
  | v => v

/-- A boolean's number, as a loose comparison converts it. -/
theorem ofWord_toNumber_bool (b : Bool) :
    ofWord (Value.bool b).toNumber = if b then .int 1 else .int 0 := by
  cases b
  · exact ofWord_ofInt (n := 0) (by decide)
  · exact ofWord_ofInt (n := 1) (by decide)

/-- Loose equality computed in one step, with no recursion: null equals only null, two arrays or
objects compare strictly, and otherwise the two sides' primitives compare as strings or by
number. -/
def looseEqDirect (a b : Value) : Bool :=
  match a, b with
  | .null, .null => true
  | .null, _ | _, .null => false
  | _, _ =>
    if a.isContainer && b.isContainer then a.strictEq b
    else
      match a.loosePrimitive, b.loosePrimitive with
      | .string x, .string y => x == y
      | x, y => x.toNumber.eq y.toNumber

/-- The recursion of a loose comparison ends, after at most one conversion of each side, with
the direct answer. -/
theorem looseEq_eq_direct (a b : Value) : a.looseEq b = a.looseEqDirect b := by
  rcases a with _ | (_ | _) | n | x | s | items | members <;>
  rcases b with _ | (_ | _) | m | y | t | items' | members' <;>
  simp [looseEq, looseEqDirect, loosePrimitive, isContainer, ofWord_toNumber_bool]

/-- Loose equality does not depend on the order of its operands. -/
theorem looseEq_comm {a b : Value} (ha : a.DistinctKeys) (hb : b.DistinctKeys) :
    a.looseEq b = b.looseEq a := by
  rw [looseEq_eq_direct a b, looseEq_eq_direct b a]
  have hs := strictEq_comm ha hb
  rcases a with _ | (_ | _) | n | x | s | items | members <;>
  rcases b with _ | (_ | _) | m | y | t | items' | members' <;>
  simp [looseEqDirect, loosePrimitive, isContainer, hs, Binary64.eq_comm, BEq.comm]

/-- Comparing the other way round reverses the answer, and gives none exactly when the
comparison gives none. -/
theorem compare_swap (a b : Value) : b.compare a = (a.compare b).map Ordering.swap := by
  unfold compare
  generalize a.relPrimitive = p
  generalize b.relPrimitive = q
  cases p <;> cases q
  case string.string x y => exact congrArg some Std.OrientedOrd.eq_swap
  all_goals exact Binary64.compare_swap _ _

/-- The equalities are symmetric and the order is reversed by swapping its operands, for values
whose objects hold each key once; and a loose comparison ends, after converting each side at most
once, with the direct answer. -/
theorem relations_symmetric {a b : Value} (ha : a.DistinctKeys) (hb : b.DistinctKeys) :
    a.looseEq b = b.looseEq a ∧ a.strictEq b = b.strictEq a ∧
      a.sameValueZero b = b.sameValueZero a ∧ a.compare b = (b.compare a).map Ordering.swap ∧
      a.looseEq b = a.looseEqDirect b :=
  ⟨looseEq_comm ha hb, strictEq_comm ha hb, sameValueZero_comm ha hb, compare_swap b a,
    looseEq_eq_direct a b⟩

/-- A boolean against an array: `true` becomes `1` and `[1]` becomes `"1"`, whichever side each
stands on. -/
theorem relations_symmetric_bool_array :
    (Value.bool true).DistinctKeys ∧ (Value.array [.int 1]).DistinctKeys ∧
      ((Value.bool true).looseEq (.array [.int 1]) = (Value.array [.int 1]).looseEq (.bool true) ∧
      (Value.bool true).strictEq (.array [.int 1]) = (Value.array [.int 1]).strictEq (.bool true) ∧
      (Value.bool true).sameValueZero (.array [.int 1]) =
        (Value.array [.int 1]).sameValueZero (.bool true) ∧
      (Value.bool true).compare (.array [.int 1]) =
        ((Value.array [.int 1]).compare (.bool true)).map Ordering.swap ∧
      (Value.bool true).looseEq (.array [.int 1]) =
        (Value.bool true).looseEqDirect (.array [.int 1])) :=
  have ha : (Value.bool true).DistinctKeys := .scalar rfl
  have hb : (Value.array [.int 1]).DistinctKeys := .array fun v hv => by
    rw [List.mem_singleton] at hv
    exact hv ▸ .scalar rfl
  ⟨ha, hb, relations_symmetric ha hb⟩

end Value

end RuleMachine