import Mathlib.Tactic
import RuleMachine.Value.Operators

/-!
# Integers as words

An integer below `2^53` in magnitude is a word exactly: `Binary64.ofInt n` reads back as the
finite value `±|n|`, integral, truncating to `n`. So `Value.ofWord` turns the word of such an
integer back into the integer (`Value.ofWord_ofInt`), and `ToNumber` is the identity on every
value that `Value.ofWord` builds (`Value.number_ofWord`): the results of arithmetic, `max` and
`min` are already numbers in the form a conversion gives.

Numeric equality compares the exact quantities, so two integral words with the same integer
part are equal numbers (`Binary64.eq_of_truncInt_eq`), a negative zero and a positive one
included; and every integer below `2^64` in magnitude rounds to a finite word
(`Binary64.isFinite_ofInt`): its significand stays below `2^53` and its exponent far from the
top of the range. Rounding any ratio gives a finite word or an infinity, never NaN
(`Binary64.isNaN_ofRatio`): the grid exponent leaves the scaled ratio below `2^53`.
-/

namespace RuleMachine

namespace Binary64

theorem log2_one : Nat.log2 1 = 0 := by
  have := (Nat.log2_lt one_ne_zero).2 (show 1 < 2 ^ 1 by norm_num)
  omega

theorem gridExponent_of_ne_zero {N : Nat} (h0 : N ≠ 0) :
    gridExponent N 1 = (N.log2 : Int) - 52 := by
  have hl : 2 ^ N.log2 ≤ N := Nat.log2_self_le h0
  simp only [gridExponent, scaleByPow2, log2_one, Nat.cast_zero, sub_zero,
    Nat.cast_nonneg, ↓reduceIte, Int.toNat_natCast, one_mul, not_lt.2 hl]
  omega

theorem roundedRatio_of_lt {N : Nat} (h0 : N ≠ 0) (h53 : N < 2 ^ 53) :
    roundedRatio N 1 = (N * 2 ^ (52 - N.log2), (N.log2 : Int) - 52) := by
  have hl : 2 ^ N.log2 ≤ N := Nat.log2_self_le h0
  have hl53 : N.log2 < 53 := (Nat.log2_lt h0).2 h53
  have hlt : N < 2 ^ (N.log2 + 1) := Nat.lt_log2_self
  have hr : N * 2 ^ (52 - N.log2) < 2 ^ 53 := by
    calc N * 2 ^ (52 - N.log2) < 2 ^ (N.log2 + 1) * 2 ^ (52 - N.log2) :=
          Nat.mul_lt_mul_of_pos_right hlt (by positivity)
      _ = 2 ^ 53 := by rw [← pow_add]; congr 1; omega
  have hscale : scaleByPow2 N 1 ((N.log2 : Int) - 52) = (N * 2 ^ (52 - N.log2), 1) := by
    unfold scaleByPow2
    split
    · have : N.log2 = 52 := by omega
      simp [this]
    · congr 1
      congr 2
      omega
  simp only [roundedRatio, gridExponent_of_ne_zero h0, hscale, roundHalfEven, Nat.div_one,
    Nat.mod_one, mul_zero, Nat.zero_lt_one, ↓reduceIte, significandLimit]
  rw [if_neg (by omega)]

theorem exact_of_fields (s : Bool) (e f : Nat) (he0 : e ≠ 0) (he : e < 2047) (hf : f < 2 ^ 52) :
    (⟨UInt64.ofNat ((if s then 2 ^ 63 else 0) + e * hiddenBit + f)⟩ : Binary64).exact =
      .finite s (f + hiddenBit) ((e : Int) - 1075) := by
  have hX : (if s then 2 ^ 63 else 0) + e * hiddenBit + f < 2 ^ 64 := by
    cases s <;> simp [hiddenBit] <;> omega
  have hexp : ((if s then 2 ^ 63 else 0) + e * hiddenBit + f) / hiddenBit % 2048 = e := by
    cases s <;> simp [hiddenBit] <;> omega
  have hfrac : ((if s then 2 ^ 63 else 0) + e * hiddenBit + f) % hiddenBit = f := by
    cases s <;> simp [hiddenBit] <;> omega
  have hsign : (((if s then 2 ^ 63 else 0) + e * hiddenBit + f) / 2 ^ 63 % 2 == 1) = s := by
    cases s <;> simp [hiddenBit] <;> omega
  simp only [exact, exponentField, fractionField, negative, UInt64.toNat_ofNat',
    Nat.mod_eq_of_lt hX, hexp, hfrac, hsign]
  rw [if_neg (by omega), if_neg he0]

theorem exact_ofInt {n : Int} (h0 : n ≠ 0) (h53 : n.natAbs < 2 ^ 53) :
    (ofInt n).exact =
      .finite (decide (n < 0)) (n.natAbs * 2 ^ (52 - n.natAbs.log2)) ((n.natAbs.log2 : Int) - 52) := by
  have hN : n.natAbs ≠ 0 := Int.natAbs_ne_zero.2 h0
  have hl : 2 ^ n.natAbs.log2 ≤ n.natAbs := Nat.log2_self_le hN
  have hl53 : n.natAbs.log2 < 53 := (Nat.log2_lt hN).2 h53
  have hr : hiddenBit ≤ n.natAbs * 2 ^ (52 - n.natAbs.log2) := by
    calc hiddenBit = 2 ^ n.natAbs.log2 * 2 ^ (52 - n.natAbs.log2) := by
          rw [hiddenBit, ← pow_add]; congr 1; omega
      _ ≤ _ := Nat.mul_le_mul_right _ hl
  have hr53 : n.natAbs * 2 ^ (52 - n.natAbs.log2) < 2 ^ 53 := by
    have hlt : n.natAbs < 2 ^ (n.natAbs.log2 + 1) := Nat.lt_log2_self
    calc n.natAbs * 2 ^ (52 - n.natAbs.log2) < 2 ^ (n.natAbs.log2 + 1) * 2 ^ (52 - n.natAbs.log2) :=
          Nat.mul_lt_mul_of_pos_right hlt (by positivity)
      _ = 2 ^ 53 := by rw [← pow_add]; congr 1; omega
  have hbiased : (((n.natAbs.log2 : Int) - 52 + 1075).toNat) = n.natAbs.log2 + 1023 := by omega
  simp only [ofInt, ofRatio, hN, ↓reduceIte, roundedRatio_of_lt hN h53, not_lt.2 hr,
    show ¬ (2047 ≤ (n.natAbs.log2 : Int) - 52 + 1075) by omega, hbiased]
  have hf : n.natAbs * 2 ^ (52 - n.natAbs.log2) - hiddenBit < 2 ^ 52 := by
    have h2 : (2 : Nat) ^ 53 = 2 * 2 ^ 52 := by norm_num
    rw [hiddenBit]
    omega
  rw [exact_of_fields _ _ _ (by omega) (by omega) hf, Nat.sub_add_cancel hr,
    Exact.finite.injEq]
  refine ⟨rfl, rfl, by omega⟩

theorem exact_ofInt_zero : (ofInt 0).exact = .finite false 0 (-1074) := by
  decide

theorem isIntegral_ofInt {n : Int} (h53 : n.natAbs < 2 ^ 53) : (ofInt n).isIntegral = true := by
  by_cases h0 : n = 0
  · subst h0
    simp only [isIntegral, exact_ofInt_zero, Nat.zero_mod, beq_self_eq_true, Bool.or_true]
  · have hl53 : n.natAbs.log2 < 53 := (Nat.log2_lt (Int.natAbs_ne_zero.2 h0)).2 h53
    simp only [isIntegral, exact_ofInt h0 h53, Bool.or_eq_true, decide_eq_true_eq, beq_iff_eq]
    right
    rw [show (-((n.natAbs.log2 : Int) - 52)).toNat = 52 - n.natAbs.log2 by omega]
    exact Nat.mul_mod_left _ _

theorem truncInt_ofInt {n : Int} (h53 : n.natAbs < 2 ^ 53) : (ofInt n).truncInt = n := by
  by_cases h0 : n = 0
  · subst h0
    simp only [truncInt, exact_ofInt_zero, Nat.zero_div, zero_mul, ite_self, Bool.false_eq_true,
      ↓reduceIte, Nat.cast_zero]
  · have hl53 : n.natAbs.log2 < 53 := (Nat.log2_lt (Int.natAbs_ne_zero.2 h0)).2 h53
    have hN : (if 0 ≤ (n.natAbs.log2 : Int) - 52
        then n.natAbs * 2 ^ (52 - n.natAbs.log2) * 2 ^ ((n.natAbs.log2 : Int) - 52).toNat
        else n.natAbs * 2 ^ (52 - n.natAbs.log2) / 2 ^ (-((n.natAbs.log2 : Int) - 52)).toNat) =
        n.natAbs := by
      split
      · rw [show 52 - n.natAbs.log2 = 0 by omega, show ((n.natAbs.log2 : Int) - 52).toNat = 0 by omega]
        simp
      · rw [show (-((n.natAbs.log2 : Int) - 52)).toNat = 52 - n.natAbs.log2 by omega]
        exact Nat.mul_div_cancel _ (by positivity)
    simp only [truncInt, exact_ofInt h0 h53, hN]
    by_cases hn : n < 0
    · simp only [hn, decide_true, ↓reduceIte]
      omega
    · simp only [hn, decide_false, Bool.false_eq_true, ↓reduceIte]
      omega

/-! ## Equal numbers and finite words -/

/-- A word that is a number equals itself. -/
theorem eq_self_of_isNaN {x : Binary64} (h : x.isNaN = false) : x.eq x = true := by
  simp only [isNaN, beq_eq_false_iff_ne, ne_eq] at h
  unfold eq compare
  rcases hx : x.exact with _ | a | ⟨a, m, q⟩
  · exact absurd hx h
  · cases a <;> rfl
  · simp

/-- The signed numerator of an integral finite word is its integer part times the
denominator. -/
theorem signedNum_of_integral {x : Binary64} {a : Bool} {m : Nat} {q : Int}
    (hx : x.exact = .finite a m q) (hi : x.isIntegral = true) :
    (if a then -((Exact.ratio a m q).2.1 : Int) else (Exact.ratio a m q).2.1) =
      x.truncInt * (Exact.ratio a m q).2.2 := by
  simp only [isIntegral, hx, Bool.or_eq_true, decide_eq_true_eq, beq_iff_eq] at hi
  simp only [truncInt, hx, Exact.ratio]
  by_cases hq : 0 ≤ q
  · cases a <;> simp [hq]
  · have hm : m = m / 2 ^ (-q).toNat * 2 ^ (-q).toNat :=
      (Nat.div_mul_cancel (Nat.dvd_of_mod_eq_zero (hi.resolve_left hq))).symm
    cases a <;> simp only [hq, ↓reduceIte, Bool.false_eq_true] <;> push_cast <;>
      (conv_lhs => rw [hm]) <;> push_cast <;> ring

/-- An integral word is finite. -/
theorem exact_of_isIntegral {x : Binary64} (h : x.isIntegral = true) :
    ∃ a m q, x.exact = .finite a m q := by
  unfold isIntegral at h
  split at h
  · exact ⟨_, _, _, ‹_›⟩
  · exact absurd h Bool.false_ne_true

/-- Two integral words with the same integer part are equal numbers, whatever the signs of
their zeros. -/
theorem eq_of_truncInt_eq {x y : Binary64} (hx : x.isIntegral = true) (hy : y.isIntegral = true)
    (h : x.truncInt = y.truncInt) : x.eq y = true := by
  obtain ⟨a, m, q, hex⟩ := exact_of_isIntegral hx
  obtain ⟨b, n, r, hey⟩ := exact_of_isIntegral hy
  have hsx := signedNum_of_integral hex hx
  have hsy := signedNum_of_integral hey hy
  simp only [eq, compare, hex, hey]
  rw [hsx, hsy, h, Int.mul_right_comm]
  simp

/-- Rounding a quotient to the nearest integer gives at most one more than its floor. -/
theorem roundHalfEven_le (n d : Nat) : roundHalfEven n d ≤ n / d + 1 := by
  simp only [roundHalfEven]
  split_ifs <;> omega

/-- A nonzero integer's significand before the final carry: below `2^53` plus one, on the grid
of exponent `log2 - 52`. -/
theorem roundedRatio_bound {N : Nat} (h0 : N ≠ 0) :
    (roundedRatio N 1).1 < 2 ^ 53 ∧ (N.log2 : Int) - 52 ≤ (roundedRatio N 1).2 ∧
      (roundedRatio N 1).2 ≤ (N.log2 : Int) - 51 := by
  have hlt : N < 2 ^ (N.log2 + 1) := Nat.lt_log2_self
  -- the scaled quotient is below `2^53`, so rounding gives at most `2^53`
  have hq : (scaleByPow2 N 1 ((N.log2 : Int) - 52)).1 / (scaleByPow2 N 1 ((N.log2 : Int) - 52)).2
      < 2 ^ 53 := by
    unfold scaleByPow2
    split
    · rename_i hnn
      simp only [one_mul]
      rw [Nat.div_lt_iff_lt_mul (by positivity), ← pow_add]
      calc N < 2 ^ (N.log2 + 1) := hlt
        _ = 2 ^ (53 + ((N.log2 : Int) - 52).toNat) := by congr 1; omega
    · rename_i hneg
      simp only [Nat.div_one]
      calc N * 2 ^ (-((N.log2 : Int) - 52)).toNat < 2 ^ (N.log2 + 1) * 2 ^ (-((N.log2 : Int) - 52)).toNat :=
            Nat.mul_lt_mul_of_pos_right hlt (by positivity)
        _ = 2 ^ 53 := by rw [← pow_add]; congr 1; omega
  have hr := roundHalfEven_le (scaleByPow2 N 1 ((N.log2 : Int) - 52)).1
    (scaleByPow2 N 1 ((N.log2 : Int) - 52)).2
  unfold roundedRatio
  simp only [gridExponent_of_ne_zero h0]
  split_ifs with hc
  · simp [hiddenBit]
  · simp only [significandLimit] at hc
    refine ⟨by omega, by omega, by omega⟩

/-- A word read as a finite quantity is finite. -/
theorem isFinite_of_exact {x : Binary64} {a : Bool} {m : Nat} {q : Int}
    (h : x.exact = .finite a m q) : x.isFinite = true := by
  unfold isFinite
  by_cases he : x.exponentField = 2047
  · simp only [exact, he, ↓reduceIte] at h
    split at h <;> cases h
  · simp [he]

/-- A word whose exponent field is zero is finite. -/
theorem isFinite_of_small (s : Bool) {r : Nat} (hr : r < 2 ^ 52) :
    (⟨UInt64.ofNat ((if s then 2 ^ 63 else 0) + r)⟩ : Binary64).isFinite = true := by
  have hX : (if s then 2 ^ 63 else 0) + r < 2 ^ 64 := by cases s <;> simp <;> omega
  simp only [isFinite, exponentField, UInt64.toNat_ofNat', Nat.mod_eq_of_lt hX, hiddenBit,
    bne_iff_ne, ne_eq]
  cases s <;> simp <;> omega

/-- Every integer below `2^64` in magnitude rounds to a finite word. -/
theorem isFinite_ofInt {n : Int} (h : n.natAbs < 2 ^ 64) : (ofInt n).isFinite = true := by
  unfold ofInt ofRatio
  by_cases h0 : n.natAbs = 0
  · have hzero := isFinite_of_small (decide (n < 0)) (r := 0) (by norm_num)
    simp only [Nat.add_zero] at hzero
    simp only [h0, ↓reduceIte]
    exact hzero
  · have hl : n.natAbs.log2 < 64 := (Nat.log2_lt h0).2 h
    obtain ⟨hr, hq₀, hq⟩ := roundedRatio_bound h0
    simp only [h0, ↓reduceIte]
    rcases hrq : roundedRatio n.natAbs 1 with ⟨r, q⟩
    rw [hrq] at hr hq₀ hq
    dsimp only at hr hq₀ hq ⊢
    generalize decide (n < 0) = s
    by_cases hsmall : r < hiddenBit
    · rw [if_pos hsmall]
      exact isFinite_of_small s hsmall
    · rw [if_neg hsmall, if_neg (by omega)]
      refine isFinite_of_exact (exact_of_fields s (q + 1075).toNat (r - hiddenBit) ?_ ?_ ?_)
      all_goals simp only [hiddenBit] at hsmall ⊢; omega

/-- A finite word is a number. -/
theorem isNaN_of_isFinite {x : Binary64} (h : x.isFinite = true) : x.isNaN = false := by
  simp only [isFinite, bne_iff_ne, ne_eq] at h
  simp only [isNaN, exact, h, ↓reduceIte]
  split <;> rfl

/-- An infinity is a number. -/
theorem isNaN_infinity (negative : Bool) : (infinity negative).isNaN = false := by
  cases negative <;> decide

/-- Scaling by a power of two divides the ratio by it. -/
theorem scaleByPow2_ratio (num den : ℕ) (q : ℤ) :
    ((scaleByPow2 num den q).1 : ℚ) / (scaleByPow2 num den q).2 = (num : ℚ) / den / 2 ^ q := by
  unfold scaleByPow2
  split_ifs with hq
  · have h2 : (2 : ℚ) ^ q = 2 ^ q.toNat := by
      rw [← zpow_natCast, Int.toNat_of_nonneg hq]
    push_cast
    rw [h2, div_div]
  · have h2 : (2 : ℚ) ^ q = ((2 : ℚ) ^ (-q).toNat)⁻¹ := by
      rw [← zpow_natCast, Int.toNat_of_nonneg (by omega), zpow_neg, inv_inv]
    push_cast
    rw [h2, div_inv_eq_mul, mul_div_right_comm]


/-- The grid exponent leaves the ratio below `2^53` units of its grid. -/
theorem ratio_lt_gridExponent {num den : ℕ} (hden : den ≠ 0) :
    (num : ℚ) / den < 2 ^ (gridExponent num den + 53) := by
  unfold gridExponent
  dsimp only
  set l : ℤ := (num.log2 : ℤ) - den.log2 with hl
  -- `l` is the difference of the logarithms: the ratio is below `2^(l + 1)`
  have hlt : (num : ℚ) / den < 2 ^ (l + 1) := by
    have hnum' : (num : ℚ) < 2 ^ (num.log2 + 1) := by exact_mod_cast Nat.lt_log2_self
    have hden' : (2 : ℚ) ^ den.log2 ≤ den := by exact_mod_cast Nat.log2_self_le hden
    rw [div_lt_iff₀ (by positivity)]
    calc (num : ℚ) < 2 ^ (num.log2 + 1) := hnum'
      _ = 2 ^ (l + 1) * 2 ^ den.log2 := by
        rw [← zpow_natCast, ← zpow_natCast, ← zpow_add₀ two_ne_zero]
        congr 1
        push_cast
        ring
      _ ≤ 2 ^ (l + 1) * den := by gcongr
  split_ifs with hnd
  · -- the scaled ratio is below one, so the ratio is below `2^l`
    have hd : (0 : ℚ) < (scaleByPow2 num den l).2 := by
      unfold scaleByPow2
      split_ifs <;> positivity
    have hbelow : (num : ℚ) / den / 2 ^ l < 1 := by
      rw [← scaleByPow2_ratio, div_lt_one hd]
      exact_mod_cast hnd
    rw [div_lt_one (by positivity)] at hbelow
    calc (num : ℚ) / den < 2 ^ l := hbelow
      _ ≤ 2 ^ (max (l - 1 - 52) (-1074) + 53) := zpow_le_zpow_right₀ one_le_two (by omega)
  · calc (num : ℚ) / den < 2 ^ (l + 1) := hlt
      _ ≤ 2 ^ (max (l - 52) (-1074) + 53) := zpow_le_zpow_right₀ one_le_two (by omega)


/-- A rounded significand is below `2^53`, on a grid no finer than `2^-1074`. -/
theorem roundedRatio_lt {num den : ℕ} (hden : den ≠ 0) :
    (roundedRatio num den).1 < 2 ^ 53 ∧ -1074 ≤ (roundedRatio num den).2 := by
  have hq : -1074 ≤ gridExponent num den := by
    unfold gridExponent
    exact le_max_right _ _
  have hd : 0 < (scaleByPow2 num den (gridExponent num den)).2 := by
    unfold scaleByPow2
    split_ifs <;> positivity
  -- the scaled quotient is below `2^53`, so rounding gives at most `2^53`
  have hquot : (scaleByPow2 num den (gridExponent num den)).1 /
      (scaleByPow2 num den (gridExponent num den)).2 < 2 ^ 53 := by
    rw [Nat.div_lt_iff_lt_mul hd]
    have hr : ((scaleByPow2 num den (gridExponent num den)).1 : ℚ) /
        (scaleByPow2 num den (gridExponent num den)).2 < 2 ^ 53 := by
      rw [scaleByPow2_ratio, div_lt_iff₀ (by positivity)]
      calc (num : ℚ) / den < 2 ^ (gridExponent num den + 53) := ratio_lt_gridExponent hden
        _ = 2 ^ 53 * 2 ^ gridExponent num den := by
          rw [zpow_add₀ two_ne_zero, mul_comm]
          rfl
    exact_mod_cast (div_lt_iff₀ (by exact_mod_cast hd)).1 hr
  have hround := roundHalfEven_le (scaleByPow2 num den (gridExponent num den)).1
    (scaleByPow2 num den (gridExponent num den)).2
  unfold roundedRatio
  dsimp only
  split_ifs with hc
  · exact ⟨by simp [hiddenBit], by omega⟩
  · simp only [significandLimit] at hc
    exact ⟨by omega, hq⟩


/-- Rounding a ratio never gives NaN: it gives a finite word or an infinity. -/
theorem isNaN_ofRatio (negative : Bool) (num : ℕ) {den : ℕ} (hden : den ≠ 0) :
    (ofRatio negative num den).isNaN = false := by
  unfold ofRatio
  by_cases h0 : num = 0
  · have hzero := isFinite_of_small negative (show 0 < 2 ^ 52 by norm_num)
    simp only [Nat.add_zero] at hzero
    simp only [h0, ↓reduceIte]
    exact isNaN_of_isFinite hzero
  · obtain ⟨hr, hq⟩ : (roundedRatio num den).1 < 2 ^ 53 ∧ -1074 ≤ (roundedRatio num den).2 :=
      roundedRatio_lt hden
    simp only [h0, ↓reduceIte]
    rcases hrq : roundedRatio num den with ⟨r, q⟩
    rw [hrq] at hr hq
    dsimp only at hr hq ⊢
    by_cases hsmall : r < hiddenBit
    · rw [if_pos hsmall]
      exact isNaN_of_isFinite (isFinite_of_small negative hsmall)
    · rw [if_neg hsmall]
      by_cases hbig : 2047 ≤ q + 1075
      · rw [if_pos hbig]
        exact isNaN_infinity negative
      · rw [if_neg hbig]
        refine isNaN_of_isFinite (isFinite_of_exact
          (exact_of_fields negative (q + 1075).toNat (r - hiddenBit) ?_ ?_ ?_))
        all_goals simp only [hiddenBit] at hsmall ⊢; omega

/-- A decimal never reads as NaN. -/
theorem isNaN_ofDecimal (negative : Bool) (m : ℕ) (e : ℤ) :
    (ofDecimal negative m e).isNaN = false := by
  unfold ofDecimal
  dsimp only
  split_ifs
  · exact isNaN_ofRatio negative 0 one_ne_zero
  · exact isNaN_infinity negative
  · exact isNaN_ofRatio negative 0 one_ne_zero
  · exact isNaN_ofRatio negative _ one_ne_zero
  · exact isNaN_ofRatio negative m (pow_ne_zero _ (by norm_num))

/-- Every integer rounds to a number: a finite word, or an infinity when it is too large. -/
theorem isNaN_ofInt (n : Int) : (ofInt n).isNaN = false :=
  isNaN_ofRatio _ _ one_ne_zero

end Binary64

namespace Value

/-- An integer within `2^53 - 1` of zero is what its word reads back as. -/
theorem ofWord_ofInt {n : Int} (h : n.natAbs ≤ maxSafe) : ofWord (Binary64.ofInt n) = .int n := by
  have h53 : n.natAbs < 2 ^ 53 := by
    unfold maxSafe at h
    omega
  simp [ofWord, Binary64.isIntegral_ofInt h53, Binary64.truncInt_ofInt h53, h]

/-- Converting a computed number changes nothing. -/
theorem number_ofWord (x : Binary64) : (ofWord x).number = ofWord x := by
  by_cases h : x.isIntegral = true ∧ x.truncInt.natAbs ≤ maxSafe
  · have hw : ofWord x = .int x.truncInt := by simp [ofWord, h.1, h.2]
    rw [hw, number, toNumber, ofWord_ofInt h.2]
  · have hw : ofWord x = .float x := by
      simp only [ofWord, Bool.and_eq_true, decide_eq_true_eq]
      rw [if_neg h]
    rw [hw, number, toNumber, hw]

end Value

end RuleMachine
