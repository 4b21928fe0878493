import Billing.Money.Basic
import Mathlib.Tactic.Linarith
import Mathlib.Algebra.Order.Field.Basic

/-! # Rounding a decimal to minor units

A finite decimal stands for the rational number `±c · 10^e`. Rounding it to a whole
number of minor units (`Money.roundMinor`) moves it by at most one half, and never below
zero when it is not negative (`Money.roundMinor_near`, `Money.roundMinor_nonneg`). Signs
are tracked through products, quotients by a positive number and the context's rounding:
none of them turns a number that is not negative into a negative one. -/
namespace Billing

namespace Decimal

/-- The value of a finite decimal; infinities and not-a-numbers count as zero. -/
def toRat : Decimal → ℚ
  | .finite neg c e => (if neg then -(c : ℚ) else c) * (10 : ℚ) ^ e
  | _ => 0

/-- A decimal that is not below zero: a positive sign, or a zero of either sign. -/
def NotNeg : Decimal → Prop
  | .finite neg c _ => neg = false ∨ c = 0
  | .infinity neg => neg = false
  | .nan .. => False

theorem toRat_nonneg {d : Decimal} (h : d.NotNeg) : 0 ≤ d.toRat := by
  cases d with
  | finite neg c e =>
    rcases h with rfl | rfl
    · simp only [toRat, Bool.false_eq_true, if_false]
      exact mul_nonneg (Nat.cast_nonneg c) (zpow_nonneg (by norm_num) e)
    · simp [toRat]
  | infinity neg => simp [toRat]
  | nan => exact h.elim

/-- Rounding half up drops the last `k` digits and lands within half a unit of the
`k`-th place. -/
theorem roundOff_halfUp_near (c k : Nat) (hk : 0 < k) :
    2 * c ≤ 2 * (roundOff .halfUp c k * 10 ^ k) + 10 ^ k ∧
      2 * (roundOff .halfUp c k * 10 ^ k) ≤ 2 * c + 10 ^ k := by
  have hpow : 10 ^ k = 2 * (5 * 10 ^ (k - 1)) := by
    obtain ⟨j, rfl⟩ : ∃ j, k = j + 1 := ⟨k - 1, by omega⟩
    simp only [Nat.add_sub_cancel, Nat.pow_succ]
    omega
  unfold roundOff
  rw [if_neg (by omega)]
  split
  · -- fewer digits than are dropped: the number is below a tenth of the unit
    rename_i hdig
    have hlt : c < 10 ^ (k - 1) :=
      lt_of_lt_of_le (lt_pow_numDigits c) (Nat.pow_le_pow_right (by omega) (by omega))
    simp only [Nat.zero_mul, Nat.mul_zero, Nat.zero_add]
    omega
  · simp only [Nat.pow_eq]
    have hdiv := Nat.div_add_mod c (10 ^ k)
    have hmod := Nat.mod_lt c (show 0 < 10 ^ k by positivity)
    generalize c / 10 ^ k = q at hdiv ⊢
    generalize c % 10 ^ k = r at hdiv hmod ⊢
    generalize hP : 10 ^ k = P at hpow hdiv hmod ⊢
    have hm : q * P = P * q := Nat.mul_comm q P
    split
    · rw [Nat.add_mul, Nat.one_mul, hm]
      omega
    · rw [hm]
      omega

theorem rescale_zero (mode : Rounding) (e q : Int) : rescale mode 0 e q = 0 := by
  unfold rescale roundOff
  split
  · simp
  · split
    · rfl
    · split
      · rfl
      · cases mode <;> simp

/-- Bringing a coefficient to the units place, half up, moves its value by at most one
half. -/
theorem rescale_units_near (c : Nat) (e : Int) :
    |((rescale .halfUp c e 0 : Nat) : ℚ) - c * (10 : ℚ) ^ e| ≤ 1 / 2 := by
  unfold rescale
  split
  · -- a whole number already: nothing is dropped
    obtain ⟨k, rfl⟩ : ∃ k : Nat, e = k := ⟨e.toNat, by omega⟩
    simp [Nat.pow_eq]
  · obtain ⟨k, hk, rfl⟩ : ∃ k : Nat, 0 < k ∧ e = -k := ⟨(-e).toNat, by omega, by omega⟩
    have hkk : (0 - -(k : Int)).toNat = k := by omega
    rw [hkk]
    obtain ⟨h1, h2⟩ := roundOff_halfUp_near c k hk
    have h1' : (2 : ℚ) * c ≤ 2 * (roundOff .halfUp c k * 10 ^ k) + 10 ^ k := by exact_mod_cast h1
    have h2' : (2 : ℚ) * (roundOff .halfUp c k * 10 ^ k) ≤ 2 * c + 10 ^ k := by exact_mod_cast h2
    have hP : (0 : ℚ) < 10 ^ k := by positivity
    have hx : (c : ℚ) * (10 : ℚ) ^ (-(k : Int)) * 10 ^ k = c := by
      rw [zpow_neg, zpow_natCast, mul_assoc, inv_mul_cancel₀ hP.ne', mul_one]
    generalize (c : ℚ) * (10 : ℚ) ^ (-(k : Int)) = x at hx ⊢
    rw [abs_sub_le_iff]
    constructor <;> nlinarith

theorem ofInt_notNeg {n : Int} (h : 0 ≤ n) : (ofInt n).NotNeg := by
  simp only [ofInt, NotNeg, decide_eq_false_iff_not]
  exact .inl (by omega)

theorem zero_eq : (0 : Decimal) = .finite false 0 0 := rfl

/-- The context's rounding keeps the sign it is given, and a zero stays a zero. -/
theorem fix_shape {ctx : Context} {neg : Bool} {c : Nat} {e : Int} {d : Decimal}
    (h : ctx.fix neg c e = .ok d) : ∃ c' e', d = .finite neg c' e' ∧ (c = 0 → c' = 0) := by
  unfold Context.fix at h
  split at h
  · cases h
    exact ⟨0, _, rfl, fun _ => rfl⟩
  · rename_i hc
    dsimp only at h
    repeat' split at h
    all_goals first
      | (cases h; exact ⟨_, _, rfl, fun h0 => absurd h0 hc⟩)
      | cases h

theorem fix_notNeg {ctx : Context} {neg : Bool} {c : Nat} {e : Int} {d : Decimal}
    (h : ctx.fix neg c e = .ok d) (hs : neg = false ∨ c = 0) : d.NotNeg := by
  obtain ⟨c', e', rfl, hz⟩ := fix_shape h
  rcases hs with rfl | hc
  · exact .inl rfl
  · exact .inr (hz hc)

/-- A number compared with zero and found not below it is not negative. -/
theorem notNeg_of_lt_zero {w : Decimal} (h : Decimal.lt w 0 = .ok false) : w.NotNeg := by
  cases w with
  | finite neg c e =>
    by_cases hc : c = 0
    · exact .inr hc
    · cases neg with
      | false => exact .inl rfl
      | true => simp [Decimal.lt, Except.map, compareOrd, isNaN, cmp, hc, zero_eq] at h
  | infinity neg =>
    cases neg with
    | false => rfl
    | true => simp [Decimal.lt, Except.map, compareOrd, isNaN, cmp, zero_eq] at h
  | nan => simp [Decimal.lt, Except.map, compareOrd, isNaN, zero_eq] at h

/-- A number compared with zero and found above it is a positive finite number or the
positive infinity. -/
theorem pos_of_le_zero {b : Decimal} (h : Decimal.le b 0 = .ok false) :
    (∃ c e, b = .finite false c e ∧ c ≠ 0) ∨ b = .infinity false := by
  cases b with
  | finite neg c e =>
    by_cases hc : c = 0
    · simp [Decimal.le, Except.map, compareOrd, isNaN, cmp, hc, zero_eq] at h
    · cases neg with
      | false => exact .inl ⟨c, e, rfl, hc⟩
      | true => simp [Decimal.le, Except.map, compareOrd, isNaN, cmp, hc, zero_eq] at h
  | infinity neg =>
    cases neg with
    | false => exact .inr rfl
    | true => simp [Decimal.le, Except.map, compareOrd, isNaN, cmp, zero_eq] at h
  | nan => simp [Decimal.le, Except.map, compareOrd, isNaN, zero_eq] at h

/-- A product of numbers that are not negative is not negative. -/
theorem mul_notNeg {ctx : Context} {a b d : Decimal} (h : mul ctx a b = .ok d) (ha : a.NotNeg)
    (hb : b.NotNeg) : d.NotNeg := by
  cases a with
  | nan => exact ha.elim
  | finite s c e =>
    cases b with
    | nan => exact hb.elim
    | finite s' c' e' =>
      simp only [mul, nanOperand?] at h
      refine fix_notNeg h ?_
      rcases ha with rfl | rfl <;> rcases hb with rfl | rfl <;> simp
    | infinity s' =>
      simp only [mul, nanOperand?] at h
      split at h
      · cases h
      · cases h
        rcases ha with rfl | rfl
        · simpa [NotNeg] using hb
        · contradiction
  | infinity s =>
    cases b with
    | nan => exact hb.elim
    | finite s' c' e' =>
      simp only [mul, nanOperand?] at h
      split at h
      · cases h
      · cases h
        rcases hb with rfl | rfl
        · simpa [NotNeg] using ha
        · contradiction
    | infinity s' =>
      simp only [mul, nanOperand?, Except.ok.injEq] at h
      subst h
      simp only [NotNeg] at ha hb
      simp [NotNeg, ha, hb]

/-- A quotient of a number that is not negative by a positive one is not negative. -/
theorem div_notNeg {ctx : Context} {a b d : Decimal} (h : div ctx a b = .ok d) (ha : a.NotNeg)
    (hb : Decimal.le b 0 = .ok false) : d.NotNeg := by
  rcases pos_of_le_zero hb with ⟨c', e', rfl, hc'⟩ | rfl
  · cases a with
    | nan => exact ha.elim
    | infinity s =>
      simp only [div, nanOperand?, Except.ok.injEq] at h
      subst h
      simpa [NotNeg] using ha
    | finite s c e =>
      simp only [div, nanOperand?, hc', if_false] at h
      split at h
      · exact fix_notNeg h (.inr rfl)
      · -- a nonzero dividend that is not negative is positive: the quotient is too
        have hs : s = false := by
          rcases ha with hs | hc
          · exact hs
          · contradiction
        subst hs
        simp only [Bool.bne_false] at h
        repeat' split at h
        all_goals exact fix_notNeg h (.inl rfl)
  · cases a with
    | nan => exact ha.elim
    | infinity s => simp [div, nanOperand?] at h
    | finite s c e =>
      simp only [div, nanOperand?, Except.ok.injEq] at h
      subst h
      exact .inr rfl

end Decimal

namespace Money

open Decimal

/-- Quantizing a finite decimal to the units place keeps its sign and brings its
coefficient there, half up. -/
theorem quantize_units {neg : Bool} {c : Nat} {e : Int} {r : Decimal}
    (h : quantize moneyContext .halfUp (.finite neg c e) 0 = .ok r) :
    r = .finite neg (rescale .halfUp c e 0) 0 := by
  simp only [quantize] at h
  split at h
  · cases h
  split at h
  · rename_i hc
    subst hc
    simp only [Context.fix, if_true, Except.ok.injEq] at h
    rw [← h, rescale_zero]
    congr
  split at h
  · cases h
  split at h
  · cases h
  rename_i hdig
  by_cases hz : rescale .halfUp c e 0 = 0
  · rw [hz] at h ⊢
    simp only [Context.fix, if_true, Except.ok.injEq] at h
    rw [← h]
    congr
  · -- at most 28 digits at the units place: the context keeps them as they are
    have hle : numDigits (rescale .halfUp c e 0) ≤ 28 := by
      simp only [moneyContext, Context.standard] at hdig
      omega
    rw [fix_small _ _ _ _ hz (by simp only [moneyContext, Context.standard]; omega)
      (by simp only [moneyContext, Context.standard, Context.etiny]; omega)
      (by simp only [moneyContext, Context.standard, Context.etop]; omega)] at h
    exact (Except.ok.inj h).symm

/-- A successful rounding to minor units is of a finite decimal, and gives its coefficient
brought to the units place, half up, with the decimal's sign. -/
theorem roundMinor_finite {d : Decimal} {n : Int} (h : roundMinor d = .ok n) :
    ∃ neg c e, d = .finite neg c e ∧
      n = if neg then -(rescale .halfUp c e 0 : Int) else rescale .halfUp c e 0 := by
  unfold roundMinor at h
  cases d with
  | nan neg sig p =>
    cases sig <;> simp [quantize, Decimal.truncate?] at h
  | infinity neg => simp [quantize] at h
  | finite neg c e =>
    refine ⟨neg, c, e, rfl, ?_⟩
    cases hq : quantize moneyContext .halfUp (.finite neg c e) 0 with
    | error s => simp [hq] at h
    | ok r =>
      simp only [hq, quantize_units hq, Decimal.truncate?, le_refl, if_true, Int.toNat_zero,
        Nat.pow_eq, Nat.pow_zero, Nat.mul_one, Except.ok.injEq] at h
      exact h.symm

/-- Rounding to minor units succeeds only on a finite decimal, and moves it by at most one
half. -/
theorem roundMinor_near {d : Decimal} {n : Int} (h : roundMinor d = .ok n) :
    d.isFinite = true ∧ |(n : ℚ) - d.toRat| ≤ 1 / 2 := by
  obtain ⟨neg, c, e, rfl, rfl⟩ := roundMinor_finite h
  have hnear := rescale_units_near c e
  refine ⟨rfl, ?_⟩
  cases neg with
  | false => simpa [toRat] using hnear
  | true =>
    -- a negative decimal rounds to the negative of its magnitude's rounding
    rw [← abs_neg]
    simpa [toRat, neg_mul, neg_add_eq_sub] using hnear

/-- A decimal that is not negative rounds to minor units that are not negative. -/
theorem roundMinor_nonneg {d : Decimal} {n : Int} (h : roundMinor d = .ok n) (hd : d.NotNeg) :
    0 ≤ n := by
  obtain ⟨-, hnear⟩ := roundMinor_near h
  have hv := toRat_nonneg hd
  have hn : (-1 : ℚ) < n := by
    rw [abs_sub_le_iff] at hnear
    linarith [hnear.2]
  exact_mod_cast (show (-1 : Int) < n by exact_mod_cast hn)

end Money

end Billing
