import Billing.Proofs.Decimal.Nearest
import Mathlib.Tactic.LinearCombination

/-! # Decimal operations round once

The context's rounding of a finite result is `Context.round` of its exact value
(`fix_toRat`), and so a product or a quotient of finite decimals is its exact value rounded
once to the context (`mul_toRat`, `div_toRat`). Quantizing to the units place, half up, is
rounding to the nearest integer with ties away from zero (`Money.roundMinor_eq`).

The quotient is the delicate case. It is computed to one digit beyond the precision, and an
inexact quotient whose last digit is 0 or 5 is nudged up by one, so that the rounding, which
sees only the computed digits, mistakes it neither for an exact quotient nor for a tie. The
nudged quotient and the exact one lie in one cell five units of the last digit wide, where
they round alike (`Context.roundMag_eq_of_cell`). -/
namespace Billing

namespace Decimal

/-- A positive number is at least ten to the power of its digits less one. -/
theorem pow_pred_numDigits_le {n : ℕ} (hn : 0 < n) : 10 ^ (numDigits n - 1) ≤ n := by
  induction n using Nat.strongRecOn with
  | ind n ih =>
    unfold numDigits
    split
    · simp
      omega
    · have h := ih (n / 10) (by omega) (by omega)
      obtain ⟨k, hk⟩ : ∃ k, numDigits (n / 10) = k + 1 :=
        ⟨_, (Nat.succ_pred_eq_of_pos (numDigits_pos (n / 10))).symm⟩
      rw [hk] at h ⊢
      simp only [Nat.add_sub_cancel] at h ⊢
      rw [Nat.pow_succ]
      omega

/-- The logarithm of a nonzero coefficient times a power of ten: its digits less one, plus
the exponent. -/
theorem log_coeff {c : ℕ} (hc : c ≠ 0) (e : ℤ) :
    Int.log 10 ((c : ℚ) * 10 ^ e) = (numDigits c : ℤ) - 1 + e := by
  have hpos : 0 < numDigits c := numDigits_pos c
  have hlo : ((10 ^ (numDigits c - 1) : ℕ) : ℚ) ≤ c := by
    exact_mod_cast pow_pred_numDigits_le (Nat.pos_of_ne_zero hc)
  have hhi : (c : ℚ) < ((10 ^ numDigits c : ℕ) : ℚ) := by
    exact_mod_cast lt_pow_numDigits c
  have hE : (0 : ℚ) < 10 ^ e := zpow_pos (by norm_num) e
  apply log_eq_of_bounds
  · rw [zpow_add₀ (by norm_num), show (numDigits c : ℤ) - 1 = ((numDigits c - 1 : ℕ) : ℤ) by omega,
      zpow_natCast]
    push_cast at hlo
    exact mul_le_mul_of_nonneg_right hlo hE.le
  · rw [show (numDigits c : ℤ) - 1 + e + 1 = (numDigits c : ℕ) + e by ring, zpow_add₀ (by norm_num),
      zpow_natCast]
    push_cast at hhi
    exact mul_lt_mul_of_pos_right hhi hE

/-- The quantum of a nonzero coefficient times a power of ten: the exponent at which the
context's digits end, or the least subnormal one. -/
theorem quantum_coeff (ctx : Context) {c : ℕ} (hc : c ≠ 0) (e : ℤ) :
    ctx.quantum ((c : ℚ) * 10 ^ e) = max ((numDigits c : ℤ) + e - ctx.precision) ctx.etiny := by
  rw [Context.quantum, log_coeff hc]
  congr 1
  ring

/-- The value of a finite decimal, sign apart. -/
theorem toRat_finite (neg : Bool) (c : ℕ) (e : ℤ) :
    (finite neg c e).toRat = if neg then -((c : ℚ) * 10 ^ e) else (c : ℚ) * 10 ^ e := by
  cases neg <;> simp [toRat]

/-- Rounding a signed magnitude rounds the magnitude and keeps the sign; a zero of either
sign stays zero. -/
theorem round_signed (ctx : Context) (neg : Bool) {v : ℚ} (hv : 0 ≤ v) :
    ctx.round (if neg then -v else v) = if neg then -ctx.roundMag v else ctx.roundMag v := by
  cases neg with
  | false => simp [Context.round, not_lt.mpr hv]
  | true =>
    rcases hv.eq_or_lt with rfl | hv
    · simp [Context.round]
    · simp [Context.round, hv]

variable {ctx : Context} {neg : Bool} {c : ℕ} {e : ℤ} {d : Decimal}

/-- Cutting a coefficient at the quantum of its value rounds the value there: the kept
digits are the nearest integer of the value in units of the quantum. -/
theorem roundOff_quantum (hc : c ≠ 0) {E : ℤ} (hE : ctx.quantum ((c : ℚ) * 10 ^ e) = E)
    (he : e < E) :
    ((roundOff ctx.rounding c (E - e).toNat : ℕ) : ℚ) * 10 ^ E = ctx.roundMag ((c : ℚ) * 10 ^ e) := by
  have hk : ((E - e).toNat : ℤ) = E - e := Int.toNat_of_nonneg (by omega)
  have hscale : (c : ℚ) * 10 ^ e / 10 ^ E = c / 10 ^ (E - e).toNat := by
    rw [← zpow_natCast, hk, zpow_sub₀ (by norm_num)]
    field_simp
  rw [Context.roundMag, hE, hscale, ← roundOff_eq]
  push_cast
  rfl

/-- A rounded coefficient that gained a digit is the power of ten just past the precision:
the coefficient itself was below that power in units of the quantum. -/
theorem roundOff_carry (hp : 0 < ctx.precision) {E : ℤ}
    (hE : (numDigits c : ℤ) + e - ctx.precision ≤ E) (he : e < E)
    (hq : ctx.precision < numDigits (roundOff ctx.rounding c (E - e).toNat)) :
    roundOff ctx.rounding c (E - e).toNat = 10 ^ ctx.precision := by
  generalize hk : (E - e).toNat = k at hq ⊢
  have hdig : numDigits c ≤ ctx.precision + k := by omega
  have hlt : c / 10 ^ k < 10 ^ ctx.precision := by
    rw [Nat.div_lt_iff_lt_mul (by positivity), ← Nat.pow_add]
    exact lt_of_lt_of_le (lt_pow_numDigits c) (Nat.pow_le_pow_right (by omega) hdig)
  have hle := roundOff_le ctx.rounding c k
  -- a zero would have one digit, no more than the precision
  have hpos : 0 < roundOff ctx.rounding c k := by
    by_contra h0
    rw [show roundOff ctx.rounding c k = 0 by omega, numDigits_of_lt (by norm_num)] at hq
    omega
  have hge := pow_pred_numDigits_le hpos
  have hpow : 10 ^ ctx.precision ≤ 10 ^ (numDigits (roundOff ctx.rounding c k) - 1) :=
    Nat.pow_le_pow_right (by omega) (by omega)
  simp only [Nat.pow_eq] at hle
  omega

/-- The context's rounding of a finite result gives the exact value's magnitude rounded
to the context, with the result's sign. -/
theorem fix_toRat (hp : 0 < ctx.precision) (h : ctx.fix neg c e = .ok d) :
    d.toRat = if neg then -ctx.roundMag ((c : ℚ) * 10 ^ e) else ctx.roundMag ((c : ℚ) * 10 ^ e) := by
  unfold Context.fix at h
  split at h
  · cases h
    subst c
    simp [toRat]
  rename_i hc
  have hq := quantum_coeff ctx hc e
  dsimp only at h
  split at h
  · cases h
  split at h
  · -- digits are dropped: the coefficient is cut at the quantum, a carry adding a digit
    rename_i he
    have hround := roundOff_quantum hc hq (by omega)
    split at h
    · rename_i hcarry
      split at h
      · cases h
      · cases h
        -- the carry gives `10^precision`, one digit too many: it drops a zero
        have h10 := roundOff_carry hp (le_max_left _ _) (by omega) hcarry
        have hdiv : ∀ E : ℤ, ((10 ^ ctx.precision / 10 : ℕ) : ℚ) * 10 ^ (E + 1) =
            ((10 ^ ctx.precision : ℕ) : ℚ) * 10 ^ E := by
          intro E
          obtain ⟨p, hp'⟩ : ∃ p, ctx.precision = p + 1 := ⟨ctx.precision - 1, by omega⟩
          rw [hp', Nat.pow_succ, Nat.mul_div_cancel _ (by norm_num), zpow_add_one₀ (by norm_num)]
          push_cast
          ring
        rw [toRat_finite, h10, hdiv, ← h10, hround]
    · split at h
      · cases h
      · cases h
        rw [toRat_finite, hround]
  · -- the coefficient fits: no more digits than the precision, at an exponent in range
    cases h
    have hfits : c < 10 ^ ctx.precision :=
      lt_of_lt_of_le (lt_pow_numDigits c) (Nat.pow_le_pow_right (by norm_num) (by omega))
    rw [toRat_finite, Context.roundMag_of_digits hfits (by omega)]

/-- A product of finite decimals is the exact product rounded once to the context. -/
theorem mul_toRat (hp : 0 < ctx.precision) {s s' : Bool} {c c' : ℕ} {e e' : ℤ}
    (h : mul ctx (.finite s c e) (.finite s' c' e') = .ok d) :
    d.toRat = ctx.round ((finite s c e).toRat * (finite s' c' e').toRat) := by
  simp only [mul, nanOperand?] at h
  have hprod : (finite s c e).toRat * (finite s' c' e').toRat =
      if (s != s') then -(((c * c' : ℕ) : ℚ) * 10 ^ (e + e'))
      else ((c * c' : ℕ) : ℚ) * 10 ^ (e + e') := by
    rw [toRat_finite, toRat_finite, zpow_add₀ (by norm_num)]
    push_cast
    cases s <;> cases s' <;> simp <;> ring
  rw [fix_toRat hp h, hprod, round_signed _ _ (by positivity)]

/-- Dropping trailing zeros keeps the value. -/
theorem stripZeros_value (q : ℕ) (e ideal : ℤ) :
    ((stripZeros q e ideal).1 : ℚ) * 10 ^ (stripZeros q e ideal).2 = q * 10 ^ e := by
  fun_induction stripZeros q e ideal with
  | case1 q e h ih =>
    rw [ih]
    obtain ⟨k, rfl⟩ : 10 ∣ q := Nat.dvd_of_mod_eq_zero h.2.1
    rw [Nat.mul_div_cancel_left _ (by norm_num), zpow_add_one₀ (by norm_num)]
    push_cast
    ring
  | case2 => rfl

/-- The nudged quotient rounds as the exact one. An inexact quotient `num / den` above
`10 ^ precision` lies strictly between its integer part `q` and `q + 1`; `q`, or `q + 1` when
`q` ends in 0 or 5, lies with it in one cell `(5j, 5j + 5)`, finer than the quantum. -/
theorem roundMag_nudged (hp : 0 < ctx.precision) {num den : ℕ} (hden : 0 < den) (hbig : 10 ^ ctx.precision * den < num)
    (hr : num % den ≠ 0) (exp : ℤ) :
    ctx.roundMag (((if num / den % 5 = 0 then num / den + 1 else num / den : ℕ) : ℚ) * 10 ^ exp) =
      ctx.roundMag ((num : ℚ) / den * 10 ^ exp) := by
  have hD : (0 : ℚ) < den := by exact_mod_cast hden
  have hU : (0 : ℚ) < 10 ^ exp := zpow_pos (by norm_num) exp
  -- the exact quotient lies strictly between `q` and `q + 1`
  have hlo : ((num / den : ℕ) : ℚ) < num / den := by
    rw [lt_div_iff₀ hD]
    have hdm := Nat.div_add_mod num den
    have : num / den * den < num := by
      rw [Nat.mul_comm]
      have := Nat.pos_of_ne_zero hr
      omega
    exact_mod_cast this
  have hhi : (num : ℚ) / den < (num / den : ℕ) + 1 := by
    rw [div_lt_iff₀ hD]
    have : num < (num / den + 1) * den := by
      rw [Nat.mul_comm]
      exact Nat.lt_mul_div_succ num hden
    exact_mod_cast this
  -- `q` has more digits than the precision, so its cell is not the first
  have hq : 10 ^ ctx.precision ≤ num / den := (Nat.le_div_iff_mul_le hden).mpr hbig.le
  have hj : 0 < num / den / 5 := by
    have : 10 ^ 1 ≤ 10 ^ ctx.precision := Nat.pow_le_pow_right (by norm_num) hp
    omega
  have hfloor : 5 * (num / den / 5) ≤ num / den ∧ num / den < 5 * (num / den / 5) + 5 := by omega
  have hcell : ∀ z : ℚ, (5 : ℚ) * (num / den / 5 : ℕ) < z → z < 5 * ((num / den / 5 : ℕ) + 1) →
      5 * ((num / den / 5 : ℕ) : ℚ) * 10 ^ exp < z * 10 ^ exp ∧
        z * 10 ^ exp < 5 * ((num / den / 5 : ℕ) + 1) * 10 ^ exp :=
    fun z h₁ h₂ => ⟨mul_lt_mul_of_pos_right h₁ hU, mul_lt_mul_of_pos_right h₂ hU⟩
  have hlow : (5 : ℚ) * (num / den / 5 : ℕ) ≤ (num / den : ℕ) := by exact_mod_cast hfloor.1
  have hupp : ((num / den : ℕ) : ℚ) + 1 ≤ 5 * ((num / den / 5 : ℕ) + 1) := by
    have : num / den + 1 ≤ 5 * (num / den / 5 + 1) := by omega
    exact_mod_cast this
  -- the exact value keeps the precision's digits above `exp`, so its quantum is higher
  have hquant : exp < ctx.quantum ((num : ℚ) / den * 10 ^ exp) := by
    have hX : (10 : ℚ) ^ (exp + ctx.precision) ≤ (num : ℚ) / den * 10 ^ exp := by
      rw [zpow_add₀ (by norm_num), zpow_natCast, mul_comm]
      apply mul_le_mul_of_nonneg_right _ hU.le
      rw [le_div_iff₀ hD]
      exact_mod_cast hbig.le
    exact Context.lt_quantum_of_le hX
  refine ctx.roundMag_eq_of_cell hj (hcell _ (by linarith) (by linarith)) (hcell _ ?_ ?_) hquant
  · -- the nudged quotient is above `5j`: it is `5j + 1`, or `q` itself, not a multiple of 5
    split_ifs with h5
    · push_cast; linarith
    · have : 5 * (num / den / 5) < num / den := by omega
      exact_mod_cast this
  · split_ifs with h5
    · have : num / den + 1 < 5 * (num / den / 5 + 1) := by omega
      exact_mod_cast this
    · linarith

/-- A quotient `num / den` above `10 ^ precision`, exact or nudged, is the exact quotient
rounded to the context. -/
theorem quotient_toRat (hp : 0 < ctx.precision) {num den : ℕ} {exp ideal : ℤ} (hden : 0 < den)
    (hbig : 10 ^ ctx.precision * den < num)
    (h : (if num % den ≠ 0 then
        ctx.fix neg (if num / den % 5 = 0 then num / den + 1 else num / den) exp
      else ctx.fix neg (stripZeros (num / den) exp ideal).1 (stripZeros (num / den) exp ideal).2) =
        .ok d) :
    d.toRat = if neg then -ctx.roundMag ((num : ℚ) / den * 10 ^ exp)
      else ctx.roundMag ((num : ℚ) / den * 10 ^ exp) := by
  split at h
  · rename_i hr
    rw [fix_toRat hp h, roundMag_nudged hp hden hbig hr]
  · -- an exact quotient: dropping its trailing zeros keeps its value
    rename_i hr
    have hexact : (num : ℚ) / den = (num / den : ℕ) := by
      rw [div_eq_iff (by positivity)]
      have : num = num / den * den := (Nat.div_mul_cancel (Nat.dvd_of_mod_eq_zero (not_not.mp hr))).symm
      exact_mod_cast this
    rw [fix_toRat hp h, stripZeros_value, hexact]

/-- A quotient of finite decimals by a nonzero one is the exact quotient rounded once to the
context. -/
theorem div_toRat (hp : 0 < ctx.precision) {s s' : Bool} {c c' : ℕ} {e e' : ℤ} (hc' : c' ≠ 0)
    (h : div ctx (.finite s c e) (.finite s' c' e') = .ok d) :
    d.toRat = ctx.round ((finite s c e).toRat / (finite s' c' e').toRat) := by
  have hquot : (finite s c e).toRat / (finite s' c' e').toRat =
      if (s != s') then -((c : ℚ) * 10 ^ e / (c' * 10 ^ e'))
      else (c : ℚ) * 10 ^ e / (c' * 10 ^ e') := by
    rw [toRat_finite, toRat_finite]
    cases s <;> cases s' <;> simp [neg_div, div_neg]
  rw [hquot, round_signed _ _ (by positivity)]
  simp only [div, nanOperand?, hc', if_false] at h
  split at h
  · -- a zero dividend
    rename_i hc
    subst hc
    rw [fix_toRat hp h]
    simp
  rename_i hc
  have hlo := pow_pred_numDigits_le (Nat.pos_of_ne_zero hc)
  have hhi := lt_pow_numDigits c'
  have hnd := numDigits_pos c
  have hc'₀ : (0 : ℚ) < c' := by exact_mod_cast Nat.pos_of_ne_zero hc'
  simp only [Nat.pow_eq] at h hhi
  -- the quotient is taken to `precision + 1` digits: the dividend or the divisor is scaled
  generalize hS : (numDigits c' : ℤ) - numDigits c + ctx.precision + 1 = S at h
  split at h
  · rename_i hS₀
    obtain ⟨k, rfl⟩ : ∃ k : ℕ, S = k := ⟨S.toNat, by omega⟩
    simp only [Int.toNat_natCast] at h
    have hbig : 10 ^ ctx.precision * c' < c * 10 ^ k := by
      have hexp : numDigits c - 1 + k = numDigits c' + ctx.precision := by omega
      calc 10 ^ ctx.precision * c' < 10 ^ ctx.precision * 10 ^ numDigits c' :=
            Nat.mul_lt_mul_of_pos_left hhi (by positivity)
        _ = 10 ^ (numDigits c - 1) * 10 ^ k := by rw [← Nat.pow_add, ← Nat.pow_add, hexp, Nat.add_comm]
        _ ≤ c * 10 ^ k := Nat.mul_le_mul_right _ hlo
    rw [quotient_toRat hp (Nat.pos_of_ne_zero hc') hbig h]
    have hval : ((c * 10 ^ k : ℕ) : ℚ) / c' * 10 ^ (e - e' - k) = c * 10 ^ e / (c' * 10 ^ e') := by
      have hpow : (10 : ℚ) ^ k * 10 ^ (e - e' - k) * 10 ^ e' = 10 ^ e := by
        rw [← zpow_natCast, ← zpow_add₀ (by norm_num), ← zpow_add₀ (by norm_num)]
        congr 1
        ring
      field_simp
      push_cast
      rw [← hpow]
      ring
    rw [hval]
  · rename_i hS₀
    obtain ⟨k, hk⟩ : ∃ k : ℕ, -S = k := ⟨(-S).toNat, by omega⟩
    simp only [hk, Int.toNat_natCast] at h
    have hbig : 10 ^ ctx.precision * (c' * 10 ^ k) < c := by
      have hexp : ctx.precision + numDigits c' + k = numDigits c - 1 := by omega
      calc 10 ^ ctx.precision * (c' * 10 ^ k) < 10 ^ ctx.precision * (10 ^ numDigits c' * 10 ^ k) :=
            Nat.mul_lt_mul_of_pos_left (Nat.mul_lt_mul_of_pos_right hhi (by positivity)) (by positivity)
        _ = 10 ^ (numDigits c - 1) := by rw [← Nat.pow_add, ← Nat.pow_add, ← Nat.add_assoc, hexp]
        _ ≤ c := hlo
    rw [quotient_toRat hp (by positivity) hbig h]
    have hval : (c : ℚ) / ((c' * 10 ^ k : ℕ) : ℚ) * 10 ^ (e - e' - S) = c * 10 ^ e / (c' * 10 ^ e') := by
      have hpow : (10 : ℚ) ^ (e - e' - S) * 10 ^ e' = 10 ^ k * 10 ^ e := by
        rw [← zpow_natCast, ← zpow_add₀ (by norm_num), ← zpow_add₀ (by norm_num)]
        congr 1
        omega
      field_simp
      push_cast
      linear_combination (c' : ℚ) * hpow
    rw [hval]

/-- Bringing a coefficient to the units place rounds its value to the nearest integer. -/
theorem rescale_units (mode : Rounding) (c : ℕ) (e : ℤ) :
    (rescale mode c e 0 : ℤ) = mode.nearest ((c : ℚ) * 10 ^ e) := by
  unfold rescale
  split
  · -- a whole number already: nothing is dropped
    obtain ⟨k, rfl⟩ : ∃ k : ℕ, e = k := ⟨e.toNat, by omega⟩
    rw [zpow_natCast, show ((c : ℚ) * 10 ^ k) = ((c * 10 ^ k : ℕ) : ℚ) by push_cast; ring,
      Rounding.nearest_natCast]
    simp [Nat.pow_eq]
  · obtain ⟨k, rfl⟩ : ∃ k : ℕ, e = -k := ⟨(-e).toNat, by omega⟩
    rw [show (0 - -(k : ℤ)).toNat = k by omega, roundOff_eq, zpow_neg, zpow_natCast, div_eq_mul_inv]

end Decimal

namespace Money

open Decimal

/-- Rounding to minor units succeeds only on a finite decimal, and rounds its value to the
nearest integer, a tie away from zero. -/
theorem roundMinor_eq {d : Decimal} {n : ℤ} (h : roundMinor d = .ok n) :
    d.isFinite = true ∧ n = roundAway d.toRat := by
  obtain ⟨neg, c, e, rfl, rfl⟩ := roundMinor_finite h
  refine ⟨rfl, ?_⟩
  have hv : (0 : ℚ) ≤ c * 10 ^ e := by positivity
  rw [toRat_finite, rescale_units]
  cases neg with
  | false => simp [roundAway, not_lt.mpr hv]
  | true =>
    rcases hv.eq_or_lt with hz | hpos
    · simp [roundAway, ← hz]
    · simp [roundAway, hpos]

end Money

end Billing
