import Mathlib.Data.EReal.Operations
import RuleMachine.Run.Routines

/-!
# Substrings by character positions

`substr` takes a substring of the characters of a value's text, as PHP does. Its positions are
integer parts of numbers: truncated toward zero, not-a-number read as zero and the infinities
kept, an extended real (`Binary64.truncE`). Among `n` characters the substring starts at
`Support.windowStart`: a negative start counts from the end, and the start is clamped into
`[0, n]`. It stops at the end when there is no third operand; a negative third operand drops
that many characters from the end of what follows the start; any other is a length, cut at the
end (`Support.windowStop`).

The routine computes with integers clamped to the length (`Support.indexOf`). Clamping there
moves none of the positions above, and every position lands in `[0, n]` with the start not
after the stop, so the slice is never out of range (`Support.substr_window`).
-/

namespace RuleMachine

namespace Binary64

/-- Truncation toward zero as an extended real: not-a-number is zero, the infinities stay. -/
noncomputable def truncE (x : Binary64) : EReal :=
  match x.exact with
  | .nan => 0
  | .infinite negative => if negative then ⊥ else ⊤
  | .finite _ _ _ => (x.truncInt : ℝ)

/-- Zero reads as the smallest subnormal grid's zero. -/
theorem exact_zero : zero.exact = .finite false 0 (-1074) := by
  decide

/-- A number below zero is minus infinity or a negative finite word. -/
theorem exact_of_lt_zero {x : Binary64} (h : x.lt zero = true) :
    x.exact = .infinite true ∨ ∃ m q, x.exact = .finite true m q := by
  unfold lt compare at h
  rw [exact_zero] at h
  rcases hx : x.exact with _ | negative | ⟨negative, m, q⟩ <;> rw [hx] at h
  · cases h
  · cases negative
    · cases h
    · exact .inl rfl
  · cases negative
    · -- a finite word without its sign set is not below zero
      have hy : (Exact.ratio false 0 (-1074)).2.1 = 0 := rfl
      simp only [hy, Nat.cast_zero, Bool.false_eq_true, ↓reduceIte, zero_mul, beq_iff_eq,
        Option.some.injEq, compare_lt_iff_lt] at h
      exact absurd h (not_lt.2 (Int.mul_nonneg (Int.natCast_nonneg _) (Int.natCast_nonneg _)))
    · exact .inr ⟨m, q, rfl⟩

end Binary64

namespace Support

/-! ## Integers among the extended reals -/

/-- An integer as an extended real. -/
noncomputable def intE (z : ℤ) : EReal := ((z : ℝ) : EReal)

theorem natCast_eq_intE (n : ℕ) : (n : EReal) = intE n := by
  simp [intE]

theorem zero_eq_intE : (0 : EReal) = intE 0 := by
  simp [intE]

theorem intE_add (a b : ℤ) : intE a + intE b = intE (a + b) := by
  simp [intE, ← EReal.coe_add]

theorem intE_sub (a b : ℤ) : intE a - intE b = intE (a - b) := by
  simp [intE, ← EReal.coe_sub]

theorem intE_max (a b : ℤ) : max (intE a) (intE b) = intE (max a b) := by
  simp only [intE, Int.cast_max]
  exact EReal.coe_strictMono.monotone.map_max.symm

theorem intE_min (a b : ℤ) : min (intE a) (intE b) = intE (min a b) := by
  simp only [intE, Int.cast_min]
  exact EReal.coe_strictMono.monotone.map_min.symm

theorem intE_lt_intE {a b : ℤ} : intE a < intE b ↔ a < b := by
  simp [intE, EReal.coe_lt_coe_iff]

theorem intE_inj {a b : ℤ} : intE a = intE b ↔ a = b := by
  simp [intE, EReal.coe_eq_coe_iff]

/-! ## The positions of a substring -/

/-- Where a substring of `n` characters starts for a start of integer part `a`: counted from the
end when negative, clamped into `[0, n]`. -/
noncomputable def windowStart (n : ℕ) (a : EReal) : EReal :=
  if a < 0 then max (n + a) 0 else min a n

/-- Where a substring of `n` characters from `lo` stops: at the end when there is no third
operand; for a negative one, that many characters (its integer part) before the end, but not
before the start; for any other, after as many characters as its integer part, but not past
the end. -/
noncomputable def windowStop (n : ℕ) (lo : EReal) : Option Binary64 → EReal
  | none => n
  | some e =>
    if e.lt Binary64.zero then max lo (n + e.truncE)
    else lo + min (max e.truncE 0) (n - lo)

/-- The index a number gives among `b` places, against its integer part: the bound with the sign
of an infinity, or the integer part clamped into `[-b, b]`. -/
theorem indexOf_cases (b : ℕ) (x : Binary64) :
    (indexOf b x = -(b : ℤ) ∧ x.truncE = ⊥) ∨ (indexOf b x = b ∧ x.truncE = ⊤) ∨
      ∃ a : ℤ, indexOf b x = max (-(b : ℤ)) (min (b : ℤ) a) ∧ x.truncE = intE a := by
  rcases hx : x.exact with _ | negative | ⟨negative, m, q⟩
  · refine .inr (.inr ⟨0, ?_, ?_⟩)
    · simp only [indexOf, hx]
      omega
    · simp [Binary64.truncE, hx, intE]
  · cases negative
    · exact .inr (.inl ⟨by simp [indexOf, hx], by simp [Binary64.truncE, hx]⟩)
    · exact .inl ⟨by simp [indexOf, hx], by simp [Binary64.truncE, hx]⟩
  · exact .inr (.inr ⟨x.truncInt, by simp [indexOf, hx], by simp [Binary64.truncE, hx, intE]⟩)

/-- The index of a number below zero: the bound's negation for minus infinity, or an integer
part that is not above zero, clamped. -/
theorem indexOf_cases_of_lt_zero (b : ℕ) {x : Binary64} (h : x.lt Binary64.zero = true) :
    (indexOf b x = -(b : ℤ) ∧ x.truncE = ⊥) ∨
      ∃ a : ℤ, a ≤ 0 ∧ indexOf b x = max (-(b : ℤ)) (min (b : ℤ) a) ∧ x.truncE = intE a := by
  rcases Binary64.exact_of_lt_zero h with hx | ⟨m, q, hx⟩
  · exact .inl ⟨by simp [indexOf, hx], by simp [Binary64.truncE, hx]⟩
  · have hneg : x.truncInt ≤ 0 := by
      simp only [Binary64.truncInt, hx, ↓reduceIte]
      omega
    exact .inr ⟨x.truncInt, hneg, by simp [indexOf, hx], by simp [Binary64.truncE, hx, intE]⟩

/-- The routine's start is the substring's start, a position among the characters. -/
theorem sliceStart_window (n : ℕ) (x : Binary64) :
    ∃ i : ℕ, sliceStart n x = i ∧ i ≤ n ∧ (i : EReal) = windowStart n x.truncE := by
  rcases indexOf_cases n x with ⟨hi, ht⟩ | ⟨hi, ht⟩ | ⟨a, hi, ht⟩
  · -- minus infinity: the first character
    refine ⟨0, ?_, Nat.zero_le n, by simp [windowStart, ht]⟩
    simp only [sliceStart, hi]
    omega
  · -- plus infinity: past the last character
    refine ⟨n, ?_, le_refl n, by simp [windowStart, ht]⟩
    simp only [sliceStart, hi]
    omega
  · -- an integer part, counted from the end when negative
    refine ⟨(if a < 0 then max (n + a) 0 else min a n).toNat, ?_, by omega, ?_⟩
    · simp only [sliceStart, hi]
      omega
    · simp only [windowStart, ht, natCast_eq_intE, zero_eq_intE, intE_add, intE_max, intE_min,
        intE_lt_intE]
      split <;> rw [intE_inj] <;> omega

/-- A negative third operand: the routine keeps as many characters after the start as the
substring's stop says. -/
theorem negativeStop_window (n i : ℕ) (hi : i ≤ n) {e : Binary64}
    (he : e.lt Binary64.zero = true) :
    ∃ k : ℕ, (max (((n - i : ℕ) : ℤ) + indexOf (n - i) e) 0).toNat = k ∧ k ≤ n - i ∧
      ((i + k : ℕ) : EReal) = max (i : EReal) (n + e.truncE) := by
  rcases indexOf_cases_of_lt_zero (n - i) he with ⟨hx, ht⟩ | ⟨a, ha, hx, ht⟩
  · -- minus infinity drops every character
    refine ⟨0, ?_, Nat.zero_le _, by simp [ht]⟩
    rw [hx]
    omega
  · refine ⟨(max (n - i + a) 0).toNat, ?_, by omega, ?_⟩
    · rw [hx]
      omega
    · simp only [ht, natCast_eq_intE, intE_add, intE_max, intE_inj]
      omega

/-- Any other third operand is a length: the routine keeps as many characters after the start as
the substring's stop says. -/
theorem lengthStop_window (n i : ℕ) (hi : i ≤ n) (e : Binary64) :
    ∃ k : ℕ, (max 0 (min (indexOf n e) ((n : ℤ) - i))).toNat = k ∧ k ≤ n - i ∧
      ((i + k : ℕ) : EReal) = i + min (max e.truncE 0) (n - i) := by
  rcases indexOf_cases n e with ⟨hx, ht⟩ | ⟨hx, ht⟩ | ⟨a, hx, ht⟩
  · -- minus infinity keeps nothing
    refine ⟨0, ?_, Nat.zero_le _, ?_⟩
    · rw [hx]
      omega
    · simp only [ht, bot_le, max_eq_right, natCast_eq_intE, zero_eq_intE, intE_sub, intE_min,
        intE_add, intE_inj]
      omega
  · -- plus infinity keeps everything after the start
    refine ⟨n - i, ?_, le_refl _, ?_⟩
    · rw [hx]
      omega
    · simp only [ht, le_top, max_eq_left, min_eq_right, natCast_eq_intE, intE_sub,
        intE_add, intE_inj]
      omega
  · refine ⟨(min (max a 0) (n - i)).toNat, ?_, by omega, ?_⟩
    · rw [hx]
      omega
    · simp only [ht, natCast_eq_intE, zero_eq_intE, intE_sub, intE_max, intE_min, intE_add,
        intE_inj]
      omega

/-- A slice with no length runs to the end. -/
theorem slice_none_eq_drop {chars : List Char} {x : Binary64} {i : ℕ}
    (h : sliceStart chars.length x = i) : slice chars x none = chars.drop i := by
  simp only [slice, h, Int.toNat_natCast]
  exact List.take_of_length_le (by simp)

/-- `substr` is the substring of the characters of the source's text from `windowStart` to
`windowStop`, with the integer parts of the start and of the third operand truncated toward
zero, not-a-number as zero and the infinities kept. Both positions are natural numbers, the
start at most the stop and the stop at most the length: the routine never slices out of range,
and the clamp of its length is never given crossed bounds. -/
theorem substr_window (source start : Value) (stop : Option Value) :
    let s := source.toText.toList
    let lo := windowStart s.length start.toNumber.truncE
    ∃ i j : ℕ, (i : EReal) = lo ∧ (j : EReal) = windowStop s.length lo (stop.map Value.toNumber) ∧
      i ≤ j ∧ j ≤ s.length ∧ substr source start stop = String.ofList ((s.drop i).take (j - i)) := by
  intro s lo
  have hs : source.toText.toList = s := rfl
  obtain ⟨i, hstart, hin, hlo⟩ := sliceStart_window s.length start.toNumber
  have htail := slice_none_eq_drop hstart
  cases stop with
  | none =>
    refine ⟨i, s.length, hlo, rfl, hin, le_refl _, ?_⟩
    simp only [substr, hs, htail]
    rw [List.take_of_length_le (by simp)]
  | some e =>
    by_cases hneg : e.toNumber.lt Binary64.zero
    · -- a negative third operand drops characters from the end
      obtain ⟨k, hk, hkn, hj⟩ := negativeStop_window s.length i hin hneg
      refine ⟨i, i + k, hlo, ?_, by omega, by omega, ?_⟩
      · simp only [Option.map_some, windowStop, hneg, ↓reduceIte]
        rw [hj, hlo]
      · simp only [substr, hs, hneg, ↓reduceIte, htail, List.length_drop]
        rw [hk, Nat.add_sub_cancel_left]
    · -- any other is a length
      obtain ⟨k, hk, hkn, hj⟩ := lengthStop_window s.length i hin e.toNumber
      refine ⟨i, i + k, hlo, ?_, by omega, by omega, ?_⟩
      · simp only [Option.map_some, windowStop, hneg, Bool.false_eq_true, ↓reduceIte]
        rw [hj, hlo]
      · simp only [substr, hs, hneg, Bool.false_eq_true, ↓reduceIte, slice, hstart,
          Int.toNat_natCast]
        rw [hk, Nat.add_sub_cancel_left]

end Support

end RuleMachine
