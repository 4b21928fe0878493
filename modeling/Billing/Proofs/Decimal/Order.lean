import Billing.Proofs.Decimal.Correctness

/-! # Comparison

`Decimal.cmp` compares two finite decimals by sign, then by the place of the leading digit,
then by the coefficients brought to the smaller exponent. This is the order of their values
(`cmp_eq_compare`), so the check `Decimal.lt` on finite decimals answers as their values do
(`lt_finite`). -/

namespace Billing

namespace Decimal

/-- A comparison is unchanged by a common positive factor. -/
theorem compare_mul_pos {x y k : ℚ} (hk : 0 < k) : compare (x * k) (y * k) = compare x y := by
  rcases lt_trichotomy x y with h | rfl | h
  · rw [compare_lt_iff_lt.mpr h, compare_lt_iff_lt.mpr (mul_lt_mul_of_pos_right h hk)]
  · rw [compare_eq_iff_eq.mpr rfl, compare_eq_iff_eq.mpr rfl]
  · rw [compare_gt_iff_gt.mpr h, compare_gt_iff_gt.mpr (mul_lt_mul_of_pos_right h hk)]

/-- Natural numbers compare as their values. -/
theorem compare_natCast (x y : ℕ) : compare (x : ℚ) (y : ℚ) = compare x y := by
  rcases lt_trichotomy x y with h | rfl | h
  · rw [compare_lt_iff_lt.mpr h, compare_lt_iff_lt.mpr (by exact_mod_cast h)]
  · rw [compare_eq_iff_eq.mpr rfl, compare_eq_iff_eq.mpr rfl]
  · rw [compare_gt_iff_gt.mpr h, compare_gt_iff_gt.mpr (by exact_mod_cast h)]

/-- Negation reverses a comparison. -/
theorem compare_neg (x y : ℚ) : compare (-x) (-y) = (compare x y).swap := by
  rcases lt_trichotomy x y with h | rfl | h
  · rw [compare_lt_iff_lt.mpr h, compare_gt_iff_gt.mpr (neg_lt_neg h)]
    rfl
  · rw [compare_eq_iff_eq.mpr rfl, compare_eq_iff_eq.mpr rfl]
    rfl
  · rw [compare_gt_iff_gt.mpr h, compare_lt_iff_lt.mpr (neg_lt_neg h)]
    rfl

/-- A nonzero coefficient has a positive value at every exponent. -/
theorem coeff_pos {c : ℕ} (e : ℤ) (hc : c ≠ 0) : (0 : ℚ) < c * 10 ^ e :=
  mul_pos (by exact_mod_cast Nat.pos_of_ne_zero hc) (zpow_pos (by norm_num) e)

/-- A magnitude whose leading digit stands lower is the smaller one. -/
theorem lt_of_adjusted_lt {c c' : ℕ} {e e' : ℤ} (hc : c ≠ 0) (hc' : c' ≠ 0)
    (h : (numDigits c : ℤ) + e < numDigits c' + e') : (c : ℚ) * 10 ^ e < c' * 10 ^ e' := by
  by_contra hle
  have hlog := Int.log_mono_right (b := 10) (coeff_pos e' hc') (not_lt.mp hle)
  rw [log_coeff hc, log_coeff hc'] at hlog
  omega

/-- Two nonzero magnitudes compare by the place of their leading digits, or, at the same
place, by their coefficients brought to the smaller exponent. -/
theorem compare_magnitudes {c c' : ℕ} {e e' : ℤ} (hc : c ≠ 0) (hc' : c' ≠ 0) :
    (if (numDigits c : ℤ) + e ≠ numDigits c' + e' then
        compare ((numDigits c : ℤ) + e) (numDigits c' + e')
      else compare (c * Nat.pow 10 (e - e').toNat) (c' * Nat.pow 10 (e' - e).toNat)) =
      compare ((c : ℚ) * 10 ^ e) ((c' : ℚ) * 10 ^ e') := by
  split
  · rename_i hne
    rcases lt_or_gt_of_ne hne with h | h
    · rw [compare_lt_iff_lt.mpr h, compare_lt_iff_lt.mpr (lt_of_adjusted_lt hc hc' h)]
    · rw [compare_gt_iff_gt.mpr h, compare_gt_iff_gt.mpr (lt_of_adjusted_lt hc' hc h)]
  · -- both magnitudes are their coefficients at the smaller exponent times its power
    have hshift : ∀ (c : ℕ) (e e' : ℤ),
        (c : ℚ) * 10 ^ e = ((c * Nat.pow 10 (e - e').toNat : ℕ) : ℚ) * 10 ^ min e e' := by
      intro c e e'
      rw [Nat.pow_eq, Nat.cast_mul, Nat.cast_pow, mul_assoc, Nat.cast_ofNat, ← zpow_natCast,
        ← zpow_add₀ (by norm_num)]
      congr 2
      omega
    rw [hshift c e e', hshift c' e' e, min_comm e' e, compare_mul_pos (zpow_pos (by norm_num) _),
      compare_natCast]

/-- Two finite decimals compare as their values. -/
theorem cmp_eq_compare {a b : Decimal} (ha : a.isFinite = true) (hb : b.isFinite = true) :
    cmp a b = compare a.toRat b.toRat := by
  cases a <;> cases b <;> simp only [isFinite, Bool.false_eq_true] at ha hb
  rename_i s c e s' c' e'
  rw [toRat_finite, toRat_finite, eq_comm, compare_iff]
  simp only [cmp]
  by_cases hzero : c = 0 ∧ c' = 0
  · -- two zeros are equal, whatever their signs
    obtain ⟨rfl, rfl⟩ := hzero
    cases s <;> cases s' <;> simp [Ordering.Compares]
  rw [if_neg hzero]
  by_cases hc : c = 0
  · -- a zero against a nonzero number: the other's sign decides
    have hv' := coeff_pos e' (show c' ≠ 0 by omega)
    subst hc
    cases s <;> cases s' <;> simp [Ordering.Compares, hv']
  rw [if_neg hc]
  by_cases hc' : c' = 0
  · have hv := coeff_pos e hc
    subst hc'
    cases s <;> cases s' <;> simp [Ordering.Compares, hv]
  rw [if_neg hc']
  have hv := coeff_pos e hc
  have hv' := coeff_pos e' hc'
  by_cases hsign : s ≠ s'
  · -- opposite signs: the negative one is the smaller
    cases s <;> cases s' <;> simp at hsign <;> simp [Ordering.Compares] <;> linarith
  rw [if_neg hsign]
  -- one sign: the magnitudes decide, reversed between negative numbers
  obtain rfl : s = s' := not_not.mp hsign
  rw [compare_magnitudes hc hc', ← compare_iff]
  cases s
  · rfl
  · simp [compare_neg]

/-- `Decimal.lt` on finite decimals answers whether the first value is below the second. -/
theorem lt_finite {a b : Decimal} (ha : a.isFinite = true) (hb : b.isFinite = true) :
    Decimal.lt a b = .ok (decide (a.toRat < b.toRat)) := by
  have hnan : ¬(a.isNaN = true ∨ b.isNaN = true) := by
    cases a <;> cases b <;> simp_all [isFinite, isNaN]
  simp only [Decimal.lt, compareOrd, if_neg hnan, Except.map, cmp_eq_compare ha hb]
  simp [compare_lt_iff_lt]

end Decimal

end Billing
