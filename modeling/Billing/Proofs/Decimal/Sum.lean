import Billing.Proofs.Decimal.Correctness

/-! # Sums round once

A sum of finite decimals is its exact value rounded once to the context (`add_toRat`).

Two nonzero addends are brought to a common exponent and added exactly, except when the
smaller one lies wholly below the last digit that the rounding can keep. It is then
replaced by a single unit at a place `bound` just below that digit. The sum changes, but
not its rounding: the exact sum and the replaced one lie in one cell five units of `bound`
wide, on the side of the larger addend where the smaller one puts them
(`roundMag_add_sticky`, `roundMag_sub_sticky`). -/
namespace Billing

namespace Decimal

variable {ctx : Context} {d : Decimal}

section Sticky

variable {hc : ℕ} {he bound : ℤ} {L : ℚ}

/-- The larger addend `hc · 10^he` counted in cells five units of a lower place `bound`
wide: there are `2 · hc · 10^m` of them, where `he = bound + 1 + m`. -/
theorem coeff_cell (hbe : bound < he) :
    (hc : ℚ) * 10 ^ he = 5 * ((2 * hc * 10 ^ (he - bound - 1).toNat : ℕ) : ℚ) * 10 ^ bound := by
  obtain ⟨m, hm⟩ : ∃ m : ℕ, he = bound + 1 + m := ⟨(he - bound - 1).toNat, by omega⟩
  rw [show (he - bound - 1).toNat = m by omega, hm, zpow_add₀ (by norm_num),
    zpow_add₀ (by norm_num), zpow_natCast]
  push_cast
  ring

/-- When the precision's digits of the larger addend end two places or more above `bound`,
the addend less a unit at `bound` still has the precision's digits above `bound`. -/
theorem pow_le_coeff_sub (hhc : hc ≠ 0)
    (hbd : bound + ctx.precision ≤ he + numDigits hc - 2) :
    (10 : ℚ) ^ (bound + ctx.precision) ≤ hc * 10 ^ he - 10 ^ bound := by
  have hnd := numDigits_pos hc
  -- both `10^(bound + precision)` and `10^bound` are at most a tenth of the leading digit's
  -- place `10^(he + numDigits hc - 1)`
  have h₁ : (10 : ℚ) ^ (bound + ctx.precision) ≤ 10 ^ (he + numDigits hc - 2) :=
    zpow_le_zpow_right₀ (by norm_num) hbd
  have h₂ : (10 : ℚ) ^ bound ≤ 10 ^ (he + numDigits hc - 2) :=
    zpow_le_zpow_right₀ (by norm_num) (by omega)
  have hlo : ((10 ^ (numDigits hc - 1) : ℕ) : ℚ) ≤ hc := by
    exact_mod_cast pow_pred_numDigits_le (Nat.pos_of_ne_zero hhc)
  have h₃ : 10 * (10 : ℚ) ^ (he + numDigits hc - 2) ≤ hc * 10 ^ he := by
    have hpow : 10 * (10 : ℚ) ^ (he + numDigits hc - 2) = ((10 ^ (numDigits hc - 1) : ℕ) : ℚ) * 10 ^ he := by
      push_cast
      rw [← zpow_natCast, ← zpow_one_add₀ (by norm_num), ← zpow_add₀ (by norm_num)]
      congr 1
      omega
    rw [hpow]
    exact mul_le_mul_of_nonneg_right hlo (zpow_pos (by norm_num) he).le
  have hP : (0 : ℚ) < 10 ^ (he + numDigits hc - 2) := zpow_pos (by norm_num) _
  linarith

/-- The larger addend plus a positive `L` below `10^bound` rounds as the addend plus
`10^bound`: both lie in the cell just above the addend. -/
theorem roundMag_add_sticky (hhc : hc ≠ 0) (hbe : bound < he)
    (hbd : bound + ctx.precision ≤ he + numDigits hc - 2) (hL₀ : 0 < L) (hL : L < 10 ^ bound) :
    ctx.roundMag (hc * 10 ^ he + 10 ^ bound) = ctx.roundMag (hc * 10 ^ he + L) := by
  have hU : (0 : ℚ) < 10 ^ bound := zpow_pos (by norm_num) bound
  have hj : 0 < 2 * hc * 10 ^ (he - bound - 1).toNat := by positivity
  have hcell : ∀ z : ℚ, 0 < z → z ≤ 10 ^ bound →
      5 * ((2 * hc * 10 ^ (he - bound - 1).toNat : ℕ) : ℚ) * 10 ^ bound < hc * 10 ^ he + z ∧
        hc * 10 ^ he + z < 5 * ((2 * hc * 10 ^ (he - bound - 1).toNat : ℕ) + 1) * 10 ^ bound := by
    intro z hz₀ hz
    rw [coeff_cell hbe]
    constructor <;> linarith
  have hsub := pow_le_coeff_sub hhc hbd
  exact ctx.roundMag_eq_of_cell hj (hcell L hL₀ hL.le) (hcell _ hU le_rfl)
    (Context.lt_quantum_of_le (by linarith))

/-- The larger addend less a positive `L` below `10^bound` rounds as the addend less
`10^bound`: both lie in the cell just below the addend. -/
theorem roundMag_sub_sticky (hhc : hc ≠ 0) (hbe : bound < he)
    (hbd : bound + ctx.precision ≤ he + numDigits hc - 2) (hL₀ : 0 < L) (hL : L < 10 ^ bound) :
    ctx.roundMag (hc * 10 ^ he - 10 ^ bound) = ctx.roundMag (hc * 10 ^ he - L) := by
  have hU : (0 : ℚ) < 10 ^ bound := zpow_pos (by norm_num) bound
  -- the cell below the addend is the `(2 · hc · 10^m - 1)`-th
  have hj : 0 < 2 * hc * 10 ^ (he - bound - 1).toNat - 1 := by
    have : 0 < hc * 10 ^ (he - bound - 1).toNat := by positivity
    rw [Nat.mul_assoc]
    omega
  have hcast : (((2 * hc * 10 ^ (he - bound - 1).toNat - 1 : ℕ) : ℚ) + 1) =
      ((2 * hc * 10 ^ (he - bound - 1).toNat : ℕ) : ℚ) := by
    rw [Nat.cast_sub (by omega), Nat.cast_one, sub_add_cancel]
  have hcell : ∀ z : ℚ, 0 < z → z ≤ 10 ^ bound →
      5 * ((2 * hc * 10 ^ (he - bound - 1).toNat - 1 : ℕ) : ℚ) * 10 ^ bound < hc * 10 ^ he - z ∧
        hc * 10 ^ he - z < 5 * ((2 * hc * 10 ^ (he - bound - 1).toNat - 1 : ℕ) + 1) * 10 ^ bound := by
    intro z hz₀ hz
    rw [hcast, coeff_cell hbe, ← hcast]
    constructor <;> linarith
  have hsub := pow_le_coeff_sub hhc hbd
  exact ctx.roundMag_eq_of_cell hj (hcell L hL₀ hL.le) (hcell _ hU le_rfl)
    (Context.lt_quantum_of_le (by linarith))

end Sticky

/-- Two magnitudes of one sign add. -/
theorem signed_add_same (s : Bool) (a b : ℚ) :
    (if s then -a else a) + (if s then -b else b) = if s then -(a + b) else a + b := by
  split_ifs <;> ring

/-- Two magnitudes of opposite signs subtract, the first one's sign kept. -/
theorem signed_add_opp (s : Bool) (a b : ℚ) :
    (if s then -a else a) + (if !s then -b else b) = if s then -(a - b) else a - b := by
  cases s <;> simp only [Bool.not_false, Bool.not_true, Bool.false_eq_true, if_true, if_false] <;>
    ring

/-- A sum of two finite decimals brought to the lower exponent `le` of the second: exact in
the coefficients, then rounded once; a sum of zero is a zero at any exponent `z`. -/
theorem aligned_toRat (hp : 0 < ctx.precision) {hs ls : Bool} {hc lc : ℕ} {he le z : ℤ}
    (hle : le ≤ he)
    (h : (if hs = ls then ctx.fix hs (hc * 10 ^ (he - le).toNat + lc) le
      else if hc * 10 ^ (he - le).toNat = lc then ctx.fix false 0 z
      else if lc < hc * 10 ^ (he - le).toNat then ctx.fix hs (hc * 10 ^ (he - le).toNat - lc) le
      else ctx.fix ls (lc - hc * 10 ^ (he - le).toNat) le) = .ok d) :
    d.toRat = ctx.round ((finite hs hc he).toRat + (finite ls lc le).toRat) := by
  have hH : ((hc * 10 ^ (he - le).toNat : ℕ) : ℚ) * 10 ^ le = hc * 10 ^ he := by
    push_cast
    rw [mul_assoc, ← zpow_natCast, ← zpow_add₀ (by norm_num), Int.toNat_of_nonneg (by omega)]
    congr 2
    ring
  rw [toRat_finite hs hc he, ← hH, toRat_finite]
  generalize hc * 10 ^ (he - le).toNat = H at h ⊢
  split at h
  · -- one sign: the magnitudes add
    rename_i hsl
    subst hsl
    rw [fix_toRat hp h, signed_add_same, ← add_mul, ← Nat.cast_add,
      round_signed ctx hs (by positivity)]
  -- opposite signs
  rename_i hsl
  obtain rfl : ls = !hs := by cases hs <;> cases ls <;> simp_all
  rw [signed_add_opp, ← sub_mul]
  split at h
  · -- equal magnitudes: the sum is zero
    rename_i hHl
    subst hHl
    rw [fix_toRat hp h]
    simp [Context.round]
  split at h
  · -- the first magnitude is larger: its sign wins
    rename_i hHl hlt
    rw [fix_toRat hp h, ← Nat.cast_sub hlt.le, round_signed ctx hs (by positivity)]
  · -- the second is larger: the difference is negated
    rename_i hHl hlt
    have hlt' : H < lc := by omega
    have hneg : ((H : ℚ) - lc) * 10 ^ le = -(((lc - H : ℕ) : ℚ) * 10 ^ le) := by
      rw [Nat.cast_sub hlt'.le]
      ring
    have hflip : ∀ x : ℚ, (if hs then -(-x) else -x) = if !hs then -x else x := by
      intro x
      cases hs <;> simp
    rw [fix_toRat hp h, hneg, hflip, round_signed ctx (!hs) (by positivity)]

/-- The sum of two nonzero addends does not depend on their order. -/
theorem addNonzero_swap {s s' : Bool} {c c' : ℕ} {e e' : ℤ} (hlt : e < e') :
    addNonzero ctx s c e s' c' e' = addNonzero ctx s' c' e' s c e := by
  simp only [addNonzero, hlt, if_true, not_lt.mpr hlt.le, if_false, min_comm e e']

/-- Replacing a smaller addend that lies wholly below `10^bound` by a unit at `bound` leaves
the rounded sum alone. -/
theorem round_replaced {s s' : Bool} {c c' : ℕ} {e e' bound : ℤ} (hc : c ≠ 0) (hc' : c' ≠ 0)
    (hbe : bound < e) (hbd : bound + ctx.precision ≤ e + numDigits c - 2)
    (hrep : (numDigits c' : ℤ) + e' - 1 < bound) :
    ctx.round ((finite s c e).toRat + (finite s' 1 bound).toRat) =
      ctx.round ((finite s c e).toRat + (finite s' c' e').toRat) := by
  have hL₀ : (0 : ℚ) < c' * 10 ^ e' :=
    mul_pos (by exact_mod_cast Nat.pos_of_ne_zero hc') (zpow_pos (by norm_num) e')
  have hL : (c' : ℚ) * 10 ^ e' < 10 ^ bound := by
    have hc'lt : (c' : ℚ) < 10 ^ numDigits c' := by exact_mod_cast lt_pow_numDigits c'
    calc (c' : ℚ) * 10 ^ e' < 10 ^ numDigits c' * 10 ^ e' :=
          mul_lt_mul_of_pos_right hc'lt (zpow_pos (by norm_num) e')
      _ = 10 ^ ((numDigits c' : ℤ) + e') := by rw [zpow_add₀ (by norm_num), zpow_natCast]
      _ ≤ 10 ^ bound := zpow_le_zpow_right₀ (by norm_num) (by omega)
  have hsub := pow_le_coeff_sub hc hbd
  have hpos : (0 : ℚ) < 10 ^ (bound + ctx.precision) := zpow_pos (by norm_num) _
  rw [toRat_finite, toRat_finite, toRat_finite, Nat.cast_one, one_mul]
  obtain rfl | rfl : s' = s ∨ s' = !s := by cases s <;> cases s' <;> simp
  · -- one sign: both sums lie just above the larger addend
    rw [signed_add_same, signed_add_same, round_signed _ _ (by positivity),
      round_signed _ _ (by positivity), roundMag_add_sticky hc hbe hbd hL₀ hL]
  · -- opposite signs: both lie just below it
    rw [signed_add_opp, signed_add_opp, round_signed _ _ (by linarith),
      round_signed _ _ (by linarith), roundMag_sub_sticky hc hbe hbd hL₀ hL]

/-- The sum of two nonzero addends, the first with the larger exponent, rounds once. -/
theorem addNonzero_lead_toRat (hp : 0 < ctx.precision) {s s' : Bool} {c c' : ℕ} {e e' : ℤ}
    (hc : c ≠ 0) (hc' : c' ≠ 0) (hle : e' ≤ e) (h : addNonzero ctx s c e s' c' e' = .ok d) :
    d.toRat = ctx.round ((finite s c e).toRat + (finite s' c' e').toRat) := by
  unfold addNonzero at h
  simp only [not_lt.mpr hle, if_false] at h
  generalize hb : e + min (-1) ((numDigits c : ℤ) - ctx.precision - 2) = bound at h
  by_cases hrep : (numDigits c' : ℤ) + e' - 1 < bound
  · -- the smaller addend is replaced by a unit at `bound`
    simp only [hrep, if_true, Nat.pow_eq] at h
    rw [aligned_toRat hp (by omega) h, round_replaced hc hc' (by omega) (by omega) hrep]
  · simp only [hrep, if_false, Nat.pow_eq] at h
    exact aligned_toRat hp hle h

/-- The sum of two nonzero finite decimals rounds once. -/
theorem addNonzero_toRat (hp : 0 < ctx.precision) {s s' : Bool} {c c' : ℕ} {e e' : ℤ}
    (hc : c ≠ 0) (hc' : c' ≠ 0) (h : addNonzero ctx s c e s' c' e' = .ok d) :
    d.toRat = ctx.round ((finite s c e).toRat + (finite s' c' e').toRat) := by
  by_cases hlt : e < e'
  · rw [addNonzero_swap hlt] at h
    rw [addNonzero_lead_toRat hp hc' hc hlt.le h, add_comm]
  · exact addNonzero_lead_toRat hp hc hc' (not_lt.mp hlt) h

/-- A coefficient brought down to a lower exponent keeps its value through the context's
rounding. -/
theorem fix_scaled_toRat (hp : 0 < ctx.precision) {s : Bool} {c : ℕ} {e exp : ℤ} (hle : exp ≤ e)
    (h : ctx.fix s (c * 10 ^ (e - exp).toNat) exp = .ok d) :
    d.toRat = ctx.round (finite s c e).toRat := by
  have hval : ((c * 10 ^ (e - exp).toNat : ℕ) : ℚ) * 10 ^ exp = c * 10 ^ e := by
    push_cast
    rw [mul_assoc, ← zpow_natCast, ← zpow_add₀ (by norm_num), Int.toNat_of_nonneg (by omega),
      sub_add_cancel]
  rw [fix_toRat hp h, hval, toRat_finite, round_signed _ _ (by positivity)]

/-- A sum of finite decimals is the exact sum rounded once to the context. -/
theorem add_toRat (hp : 0 < ctx.precision) {s s' : Bool} {c c' : ℕ} {e e' : ℤ}
    (h : add ctx (.finite s c e) (.finite s' c' e') = .ok d) :
    d.toRat = ctx.round ((finite s c e).toRat + (finite s' c' e').toRat) := by
  simp only [add, nanOperand?, Nat.pow_eq] at h
  split at h
  · -- two zeros
    rename_i hz
    obtain ⟨rfl, rfl⟩ := hz
    rw [fix_toRat hp h]
    simp [toRat, Context.round]
  split at h
  · -- a zero addend: the other is brought to an exponent it keeps exactly
    rename_i hz hc
    subst hc
    rw [fix_scaled_toRat hp (by omega) h]
    simp [toRat]
  split at h
  · rename_i hz hc hc'
    subst hc'
    rw [fix_scaled_toRat hp (by omega) h]
    simp [toRat]
  · rename_i hz hc hc'
    exact addNonzero_toRat hp hc hc' h

/-! ## Operations on finite operands

The three operations read as statements about any finite decimals: the result is finite
and its value is the exact one rounded once. -/

/-- A rounded result of the context is finite. -/
theorem fix_isFinite {neg : Bool} {c : ℕ} {e : ℤ} (h : ctx.fix neg c e = .ok d) :
    d.isFinite = true := by
  obtain ⟨c', e', rfl, -⟩ := fix_shape h
  rfl

theorem mul_rounds (hp : 0 < ctx.precision) {a b : Decimal} (ha : a.isFinite = true)
    (hb : b.isFinite = true) (h : mul ctx a b = .ok d) :
    d.isFinite = true ∧ d.toRat = ctx.round (a.toRat * b.toRat) := by
  cases a <;> cases b <;> simp only [isFinite, Bool.false_eq_true] at ha hb
  refine ⟨?_, mul_toRat hp h⟩
  simp only [mul, nanOperand?] at h
  exact fix_isFinite h

theorem div_rounds (hp : 0 < ctx.precision) {a b : Decimal} (ha : a.isFinite = true)
    (hb : b.isFinite = true) (hb₀ : b.toRat ≠ 0) (h : div ctx a b = .ok d) :
    d.isFinite = true ∧ d.toRat = ctx.round (a.toRat / b.toRat) := by
  cases a <;> cases b <;> simp only [isFinite, Bool.false_eq_true] at ha hb
  rename_i s c e s' c' e'
  have hc' : c' ≠ 0 := by
    rintro rfl
    simp [toRat] at hb₀
  refine ⟨?_, div_toRat hp hc' h⟩
  simp only [div, nanOperand?, hc', if_false] at h
  repeat' split at h
  all_goals exact fix_isFinite h

theorem add_rounds (hp : 0 < ctx.precision) {a b : Decimal} (ha : a.isFinite = true)
    (hb : b.isFinite = true) (h : add ctx a b = .ok d) :
    d.isFinite = true ∧ d.toRat = ctx.round (a.toRat + b.toRat) := by
  cases a <;> cases b <;> simp only [isFinite, Bool.false_eq_true] at ha hb
  refine ⟨?_, add_toRat hp h⟩
  simp only [add, nanOperand?] at h
  repeat' split at h
  all_goals first
    | exact fix_isFinite h
    | (simp only [addNonzero] at h
       repeat' split at h
       all_goals exact fix_isFinite h)

end Decimal

end Billing
