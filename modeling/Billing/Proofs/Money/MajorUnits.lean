import Billing.Proofs.Money.Arithmetic
import Billing.Proofs.Money.TextForm

/-! # Major units

An amount in minor units is shown in major units by moving the point left by the currency's
digits (`Money.major`), and brought back by multiplying by ten to that power
(`Money.ofMajorDecimal`, and the round trip `MoneyDefaults.roundTrip`), each step in the
28-digit context and the last one rounded to whole minor units. Below `10^28` minor units
every step is exact, so the amount comes back as it was; from `10^28` on the amount has more
digits than the context keeps, and bringing it back always fails
(`major_units_round_trip`). -/
namespace Billing

namespace Currency

/-- No currency has more than four minor-unit digits. -/
theorem precision_le (code : String) : precision code ≤ 4 := by
  have htable : ∀ e ∈ digitsTable, e.2 ≤ 4 := by decide +kernel
  unfold precision
  cases h : digitsTable.lookup code with
  | none => decide
  | some v =>
    obtain ⟨l₁, l₂, hl, -⟩ := List.lookup_eq_some_iff.1 h
    exact htable (code, v) (by rw [hl]; simp)

end Currency

namespace Decimal

variable {ctx : Context}

/-- A number below `10^k` has at most `k` digits. -/
theorem numDigits_le_of_lt {c k : ℕ} (hk : 0 < k) (h : c < 10 ^ k) : numDigits c ≤ k := by
  rcases Nat.eq_zero_or_pos c with rfl | hc
  · rw [numDigits_of_lt (by decide)]
    exact hk
  · by_contra hlt
    have hpow := pow_pred_numDigits_le hc
    have : 10 ^ k ≤ 10 ^ (numDigits c - 1) := Nat.pow_le_pow_right (by decide) (by omega)
    omega

/-- A nonzero coefficient whose value is below `10^k` ends its digits below `k`. -/
theorem digits_lt_of_lt {c : ℕ} {e k : ℤ} (hc : c ≠ 0) (h : (c : ℚ) * 10 ^ e < 10 ^ k) :
    (numDigits c : ℤ) - 1 + e < k := by
  have hpos : (0 : ℚ) < c * 10 ^ e :=
    mul_pos (by exact_mod_cast Nat.pos_of_ne_zero hc) (zpow_pos (by norm_num) e)
  rw [← log_coeff hc]
  exact (Int.lt_zpow_iff_log_lt (b := 10) (by norm_num) hpos).mp h

/-- The context's rounding succeeds on every number below the largest it can hold, with
room for the carry of a rounding. -/
theorem fix_ok {neg : Bool} {c : ℕ} {e : ℤ} (ht : ctx.etiny < ctx.etop)
    (h : (c : ℚ) * 10 ^ e < 10 ^ (ctx.etop + ctx.precision - 1)) : ∃ d, ctx.fix neg c e = .ok d := by
  unfold Context.fix
  split
  · exact ⟨_, rfl⟩
  · rename_i hc
    have hdig := digits_lt_of_lt hc h
    dsimp only
    rw [if_neg (by omega)]
    split
    · split <;> (rw [if_neg (by omega)]; exact ⟨_, rfl⟩)
    · exact ⟨_, rfl⟩

/-- The magnitude of a finite decimal. -/
theorem abs_toRat_finite (neg : Bool) (c : ℕ) (e : ℤ) : |(finite neg c e).toRat| = (c : ℚ) * 10 ^ e := by
  rw [toRat_finite]
  cases neg <;> simp [abs_of_nonneg (by positivity : (0 : ℚ) ≤ c * 10 ^ e)]

/-- A product of finite decimals succeeds below the largest number the context holds. -/
theorem mul_ok (ht : ctx.etiny < ctx.etop) {a b : Decimal} (ha : a.isFinite = true)
    (hb : b.isFinite = true) (h : |a.toRat * b.toRat| < 10 ^ (ctx.etop + ctx.precision - 1)) :
    ∃ d, mul ctx a b = .ok d := by
  cases a <;> cases b <;> simp only [isFinite, Bool.false_eq_true] at ha hb
  rename_i s c e s' c' e'
  simp only [mul, nanOperand?]
  apply fix_ok ht
  rw [abs_mul, abs_toRat_finite, abs_toRat_finite] at h
  calc ((c * c' : ℕ) : ℚ) * 10 ^ (e + e') = (c * 10 ^ e) * (c' * 10 ^ e') := by
        rw [zpow_add₀ (by norm_num)]
        push_cast
        ring
    _ < _ := h

/-- Moving the point of a finite decimal succeeds within the context's range of shifts and
below the largest number it holds. -/
theorem scaleb_ok (ht : ctx.etiny < ctx.etop) {s : Bool} {c : ℕ} {e n : ℤ}
    (hn : |n| ≤ 2 * (ctx.emax + ctx.precision))
    (h : (c : ℚ) * 10 ^ (e + n) < 10 ^ (ctx.etop + ctx.precision - 1)) :
    ∃ d, scaleb ctx (.finite s c e) n = .ok d := by
  simp only [scaleb]
  rw [if_neg (by rw [abs_le] at hn; omega)]
  exact fix_ok ht h

/-- Moving the point of a finite decimal is its exact value rounded once to the context. -/
theorem scaleb_rounds (hp : 0 < ctx.precision) {a d : Decimal} {n : ℤ} (ha : a.isFinite = true)
    (h : scaleb ctx a n = .ok d) : d.isFinite = true ∧ d.toRat = ctx.round (a.toRat * 10 ^ n) := by
  cases a with
  | finite s c e =>
    simp only [scaleb] at h
    split at h
    · cases h
    · have hv : (finite s c e).toRat * 10 ^ n =
          if s then -((c : ℚ) * 10 ^ (e + n)) else (c : ℚ) * 10 ^ (e + n) := by
        rw [toRat_finite, zpow_add₀ (by norm_num)]
        cases s <;> simp [mul_assoc]
      refine ⟨fix_isFinite h, ?_⟩
      rw [fix_toRat hp h, hv, round_signed _ _ (by positivity)]
  | infinity => simp [isFinite] at ha
  | nan => simp [isFinite] at ha

/-- The magnitude of a rounded number is its magnitude rounded. -/
theorem abs_round (x : ℚ) : |ctx.round x| = ctx.roundMag |x| := by
  unfold Context.round
  split
  · rename_i hx
    rw [abs_neg, abs_of_nonneg (Context.roundMag_nonneg (by linarith)), abs_of_neg hx]
  · rename_i hx
    rw [abs_of_nonneg (Context.roundMag_nonneg (not_lt.mp hx)), abs_of_nonneg (not_lt.mp hx)]

/-- A number at least `10^k` in magnitude rounds to one at least `10^k`, when the context
keeps the exponent `k`: the power itself is kept, and rounding is monotone. -/
theorem pow_le_abs_round (hp : 0 < ctx.precision) {x : ℚ} {k : ℤ} (hk : ctx.etiny ≤ k)
    (h : (10 : ℚ) ^ k ≤ |x|) : (10 : ℚ) ^ k ≤ |ctx.round x| := by
  have hkeep : ctx.roundMag ((1 : ℕ) * 10 ^ k) = (1 : ℕ) * 10 ^ k :=
    Context.roundMag_of_digits (Nat.one_lt_pow hp.ne' (by decide)) hk
  simp only [Nat.cast_one, one_mul] at hkeep
  rw [abs_round, ← hkeep]
  exact Context.roundMag_mono hp (zpow_nonneg (by norm_num) k) h

/-- A whole multiple of `10^k` with fewer digits than the precision is kept, when the context
keeps the exponent `k`. -/
theorem round_intCast_mul_pow {n k : ℤ} (hn : n.natAbs < 10 ^ ctx.precision) (hk : ctx.etiny ≤ k) :
    ctx.round (n * 10 ^ k) = n * 10 ^ k := by
  have hkeep := Context.roundMag_of_digits hn hk
  have hmag : ((n.natAbs : ℕ) : ℚ) = |(n : ℚ)| := by rw [Nat.cast_natAbs, Int.cast_abs]
  rw [hmag] at hkeep
  rcases lt_or_ge n 0 with hneg | hnn
  · have hv : (n : ℚ) * 10 ^ k = -(|(n : ℚ)| * 10 ^ k) := by
      rw [abs_of_neg (by exact_mod_cast hneg)]
      ring
    have hr := round_signed ctx true (v := |(n : ℚ)| * 10 ^ k) (by positivity)
    simp only [if_true] at hr
    rw [hv, hr, hkeep]
  · have hv : (n : ℚ) * 10 ^ k = |(n : ℚ)| * 10 ^ k := by
      rw [abs_of_nonneg (by exact_mod_cast hnn)]
    have hr := round_signed ctx false (v := |(n : ℚ)| * 10 ^ k) (by positivity)
    simp only [Bool.false_eq_true, if_false] at hr
    rw [hv, hr, hkeep]

end Decimal

namespace Money

open Decimal

/-- Quantizing to the units place keeps at most 28 digits: a larger result is refused. -/
theorem quantize_units_lt {neg : Bool} {c : ℕ} {e : ℤ} {r : Decimal}
    (h : quantize moneyContext .halfUp (.finite neg c e) 0 = .ok r) :
    rescale .halfUp c e 0 < 10 ^ 28 := by
  simp only [quantize] at h
  split at h
  · cases h
  split at h
  · rename_i hc
    subst hc
    rw [rescale_zero]
    decide
  split at h
  · cases h
  split at h
  · cases h
  rename_i hdig
  have hle : numDigits (rescale .halfUp c e 0) ≤ 28 := by
    simp only [moneyContext, Context.standard] at hdig
    omega
  exact Nat.lt_of_lt_of_le (lt_pow_numDigits _) (Nat.pow_le_pow_right (by decide) hle)

/-- Quantizing to the units place succeeds on a number within `10^28 - 1/2` of zero. -/
theorem quantize_units_ok {neg : Bool} {c : ℕ} {e : ℤ} (h : (c : ℚ) * 10 ^ e + 1 / 2 < 10 ^ 28) :
    ∃ r, quantize moneyContext .halfUp (.finite neg c e) 0 = .ok r := by
  have ht : moneyContext.etiny < moneyContext.etop := by decide
  have hroom : (10 : ℚ) ^ (28 : ℤ) ≤ 10 ^ (moneyContext.etop + moneyContext.precision - 1) :=
    zpow_le_zpow_right₀ (by norm_num) (by decide)
  simp only [quantize]
  rw [if_neg (by decide)]
  split
  · exact fix_ok ht (by simp only [Nat.cast_zero, zero_mul]; positivity)
  rename_i hc
  -- the whole digits: fewer than 28 before rounding, and at most 28 after
  have hadj := digits_lt_of_lt hc (show (c : ℚ) * 10 ^ e < 10 ^ (28 : ℤ) by push_cast; linarith)
  have hnear := Rounding.halfUp.abs_nearest_sub_le ((c : ℚ) * 10 ^ e)
  rw [← rescale_units, abs_sub_le_iff] at hnear
  have hunits : ((rescale .halfUp c e 0 : ℕ) : ℚ) < 10 ^ (28 : ℤ) := by
    have := hnear.1
    push_cast at this ⊢
    linarith
  have hdigits := numDigits_le_of_lt (by decide) (show rescale .halfUp c e 0 < 10 ^ 28 by exact_mod_cast hunits)
  rw [if_neg (by simp only [moneyContext, Context.standard]; omega),
    if_neg (by simp only [moneyContext, Context.standard]; omega)]
  exact fix_ok ht (by rw [zpow_zero, mul_one]; linarith)

/-- Whole minor units have at most 28 digits: rounding a larger number is an invalid
operation. -/
theorem roundMinor_lt {d : Decimal} {n : ℤ} (h : roundMinor d = .ok n) : n.natAbs < 10 ^ 28 := by
  obtain ⟨neg, c, e, rfl, rfl⟩ := roundMinor_finite h
  unfold roundMinor at h
  cases hq : quantize moneyContext .halfUp (.finite neg c e) 0 with
  | error s => simp [hq] at h
  | ok r =>
    have hlt := quantize_units_lt hq
    cases neg <;> simpa using hlt

/-- Rounding to minor units succeeds on every finite decimal within `10^28 - 1/2` of zero,
and rounds it to the nearest integer, a tie away from zero. -/
theorem roundMinor_ok {d : Decimal} (hd : d.isFinite = true) (h : |d.toRat| + 1 / 2 < 10 ^ 28) :
    roundMinor d = .ok (roundAway d.toRat) := by
  obtain ⟨n, hn⟩ : ∃ n, roundMinor d = .ok n := by
    cases d with
    | finite neg c e =>
      have hv : (c : ℚ) * 10 ^ e + 1 / 2 < 10 ^ 28 := by rwa [abs_toRat_finite] at h
      obtain ⟨r, hr⟩ := @quantize_units_ok neg c e hv
      rw [quantize_units hr] at hr
      exact ⟨_, by simp only [roundMinor, hr]; rfl⟩
    | infinity => simp [isFinite] at hd
    | nan => simp [isFinite] at hd
  rw [hn, (roundMinor_eq hn).2]

/-- An amount built from a decimal holds the decimal's whole minor units. -/
theorem roundMinor_of_ofDecimal {d : Decimal} {cur : Value} {r : Money}
    (h : ofDecimal d cur = .ok r) : roundMinor d = .ok r.amount := by
  have hfin := (ofDecimal_ok h).1
  unfold ofDecimal amountOfDecimal at h
  cases hr : roundMinor d with
  | error e => simp [hfin, hr, bind, Except.bind, Except.map] at h
  | ok n =>
    simp only [hfin, hr, if_true, Except.map, bind, Except.bind, build] at h
    cases hc : currencyOf cur with
    | error k => simp [hc] at h
    | ok c =>
      simp only [hc, Except.ok.injEq] at h
      rw [← h]

/-- The code of a known currency is its own upper case. -/
theorem codeText_known {c : String} (h : Currency.isKnown c = true) : codeText (.str c) = .ok c := by
  rw [codeText, Text.upper_of_capitals (Currency.capitals_of_known h).2]

/-- Ten to a currency's digits, as a decimal. -/
theorem toRat_scale (p : ℕ) : (ofInt (Int.pow 10 p)).toRat = 10 ^ p := by
  rw [toRat_ofInt]
  push_cast [Int.pow_eq]
  rfl

/-- The major units of an amount: its minor units moved left by the currency's digits,
rounded once to the context. -/
theorem major_rounds {m : Money} {d : Decimal} (h : m.major = .ok d) :
    d.isFinite = true ∧
      d.toRat = moneyContext.round (m.amount * 10 ^ (-(Currency.precision m.currency : ℤ))) := by
  rw [major, decimalOutcome_eq_ok] at h
  have hr := scaleb_rounds moneyContext_precision (ofInt_isFinite _) h
  rwa [toRat_ofInt] at hr

/-- The magnitude of an amount, as a rational. -/
theorem natAbs_cast (n : ℤ) : ((n.natAbs : ℕ) : ℚ) = |(n : ℚ)| := by
  rw [Nat.cast_natAbs, Int.cast_abs]

/-- An amount of at most 28 digits stays a whole unit below `10^28`. -/
theorem abs_add_one_le {n : ℤ} (h : n.natAbs < 10 ^ 28) : |(n : ℚ)| + 1 ≤ 10 ^ 28 := by
  rw [← natAbs_cast]
  exact_mod_cast Nat.succ_le_of_lt h

/-- Below `10^28` minor units the major units are exact. -/
theorem major_exact {m : Money} (h : m.amount.natAbs < 10 ^ 28) :
    ∃ d, m.major = .ok d ∧ d.isFinite = true ∧
      d.toRat = m.amount * 10 ^ (-(Currency.precision m.currency : ℤ)) := by
  have hp := Currency.precision_le m.currency
  obtain ⟨d, hd⟩ : ∃ d, m.major = .ok d := by
    have hv : (m.amount.natAbs : ℚ) * 10 ^ ((0 : ℤ) + -(Currency.precision m.currency : ℤ)) <
        10 ^ (moneyContext.etop + moneyContext.precision - 1) :=
      calc (m.amount.natAbs : ℚ) * 10 ^ ((0 : ℤ) + -(Currency.precision m.currency : ℤ))
          ≤ m.amount.natAbs :=
            mul_le_of_le_one_right (by positivity) (zpow_le_one_of_nonpos₀ (by norm_num) (by omega))
        _ < 10 ^ (28 : ℤ) := by exact_mod_cast h
        _ ≤ _ := zpow_le_zpow_right₀ (by norm_num) (by decide)
    obtain ⟨d, hd⟩ := scaleb_ok (s := decide (m.amount < 0)) (by decide)
      (by simp only [abs_neg, Nat.abs_cast, moneyContext, Context.standard]; omega) hv
    exact ⟨d, by rw [major, ofInt, hd]; rfl⟩
  obtain ⟨hfin, hval⟩ := major_rounds hd
  exact ⟨d, hd, hfin, by rw [hval, round_intCast_mul_pow h
    (by simp only [Context.etiny, moneyContext, Context.standard]; omega)]⟩

/-- Bringing back major units of a known currency: their product with the currency's scale,
then whole minor units. -/
theorem ofMajorDecimal_known {c : String} (hc : Currency.isKnown c = true) (d : Decimal) :
    ofMajorDecimal d (.str c) = (do
      let b ← decimalOutcome (mul moneyContext d (ofInt (Int.pow 10 (Currency.precision c))))
      ofDecimal b (.str c)) := by
  rw [ofMajorDecimal, codeText_known hc]
  rfl

/-- The round trip is the major units followed by bringing them back. -/
theorem roundTrip_eq {m : Money} (hc : Currency.isKnown m.currency = true) :
    MoneyDefaults.roundTrip m = (do
      let d ← m.major
      pure (d, ← ofMajorDecimal d (.str m.currency))) := by
  simp only [MoneyDefaults.roundTrip, ofMajorDecimal_known hc, bind_assoc]

/-- Exact major units of an amount below `10^28` minor units bring back the amount. -/
theorem ofMajorDecimal_exact {m : Money} (hc : Currency.isKnown m.currency = true)
    (h : m.amount.natAbs < 10 ^ 28) {d : Decimal} (hd : d.isFinite = true)
    (hv : d.toRat = m.amount * 10 ^ (-(Currency.precision m.currency : ℤ))) :
    ofMajorDecimal d (.str m.currency) = .ok m := by
  have hscale := ofInt_isFinite (Int.pow 10 (Currency.precision m.currency))
  have hprod : d.toRat * (ofInt (Int.pow 10 (Currency.precision m.currency))).toRat = m.amount := by
    rw [hv, toRat_scale, ← zpow_natCast, mul_assoc, ← zpow_add₀ (by norm_num), neg_add_cancel,
      zpow_zero, mul_one]
  have hsmall := abs_add_one_le h
  have ht : moneyContext.etiny < moneyContext.etop := by decide
  obtain ⟨b, hb⟩ := mul_ok ht hd hscale (by
    rw [hprod]
    calc |(m.amount : ℚ)| < 10 ^ (28 : ℤ) := by push_cast; linarith
      _ ≤ _ := zpow_le_zpow_right₀ (by norm_num) (by decide))
  obtain ⟨hbf, hbv⟩ := mul_rounds moneyContext_precision hd hscale hb
  rw [hprod, Context.round_intCast h (by decide)] at hbv
  have hround := roundMinor_ok hbf (by rw [hbv]; linarith)
  rw [hbv, roundAway_intCast] at hround
  rw [ofMajorDecimal_known hc, hb]
  simp [decimalOutcome, ofDecimal, amountOfDecimal, hbf, hround, build, currencyOf_str_known hc,
    bind, Except.bind, Except.map, Except.mapError]

/-- From `10^28` minor units on, the major units bring back no amount: the scaled value
keeps at least `10^28` minor units, more than an amount of 28 digits holds. -/
theorem ofMajorDecimal_large {m : Money} (hc : Currency.isKnown m.currency = true)
    (h : 10 ^ 28 ≤ m.amount.natAbs) {d : Decimal} (hd : m.major = .ok d) (r : Money) :
    ofMajorDecimal d (.str m.currency) ≠ .ok r := by
  intro hr
  have hp := Currency.precision_le m.currency
  obtain ⟨hdf, hdv⟩ := major_rounds hd
  -- the major units keep at least `10^(28 - p)`, since rounding keeps a power of ten
  have hbig : (10 : ℚ) ^ ((28 : ℤ) - Currency.precision m.currency) ≤ |d.toRat| := by
    rw [hdv]
    apply pow_le_abs_round moneyContext_precision
      (by simp only [Context.etiny, moneyContext, Context.standard]; omega)
    rw [abs_mul, abs_of_pos (zpow_pos (by norm_num : (0 : ℚ) < 10) _), ← natAbs_cast,
      zpow_sub₀ (by norm_num),
      div_eq_mul_inv, ← zpow_neg]
    exact mul_le_mul_of_nonneg_right (by exact_mod_cast h) (by positivity)
  rw [ofMajorDecimal_known hc] at hr
  cases hb : mul moneyContext d (ofInt (Int.pow 10 (Currency.precision m.currency))) with
  | error e =>
    simp only [hb, decimalOutcome, Except.mapError, bind, Except.bind] at hr
    cases hr
  | ok b =>
    simp only [hb, decimalOutcome, Except.mapError, bind, Except.bind] at hr
    obtain ⟨hbf, hbv⟩ := mul_rounds moneyContext_precision hdf (ofInt_isFinite _) hb
    -- and times the scale, at least `10^28`
    have hbbig : (10 : ℚ) ^ (28 : ℤ) ≤ |b.toRat| := by
      rw [hbv]
      apply pow_le_abs_round moneyContext_precision (by decide)
      rw [abs_mul, toRat_scale,
        abs_of_pos (show (0 : ℚ) < 10 ^ Currency.precision m.currency by positivity)]
      calc (10 : ℚ) ^ (28 : ℤ)
          = 10 ^ ((28 : ℤ) - Currency.precision m.currency) * 10 ^ Currency.precision m.currency := by
            rw [← zpow_natCast, ← zpow_add₀ (by norm_num), sub_add_cancel]
        _ ≤ _ := mul_le_mul_of_nonneg_right hbig (by positivity)
    -- while whole minor units within a half of it stay below `10^28`
    have hn := roundMinor_of_ofDecimal hr
    have hsmall := abs_add_one_le (roundMinor_lt hn)
    have hnear := (roundMinor_near hn).2
    have hgap := abs_sub_abs_le_abs_sub b.toRat r.amount
    rw [abs_sub_comm] at hgap
    push_cast at hbbig
    linarith

/-- Major units round-trip exactly for every amount of a known currency below `10^28` minor
units, both through `ofMajorDecimal` and through the round trip; from `10^28` on, neither
brings the amount back. -/
theorem major_units_round_trip (m : Money) (hc : Currency.isKnown m.currency = true) :
    (m.amount.natAbs < 10 ^ 28 → ∃ d, m.major = .ok d ∧
        ofMajorDecimal d (.str m.currency) = .ok m ∧ MoneyDefaults.roundTrip m = .ok (d, m)) ∧
    (10 ^ 28 ≤ m.amount.natAbs →
        (∀ d r, m.major = .ok d → ofMajorDecimal d (.str m.currency) ≠ .ok r) ∧
        ∀ x, MoneyDefaults.roundTrip m ≠ .ok x) := by
  refine ⟨fun h => ?_, fun h => ⟨fun d r hd => ofMajorDecimal_large hc h hd r, fun x hx => ?_⟩⟩
  · obtain ⟨d, hd, hfin, hval⟩ := major_exact h
    have hback := ofMajorDecimal_exact hc h hfin hval
    refine ⟨d, hd, hback, ?_⟩
    rw [roundTrip_eq hc, hd]
    simp only [bind, Except.bind, hback]
    rfl
  · rw [roundTrip_eq hc] at hx
    cases hd : m.major with
    | error e => simp [hd, bind, Except.bind] at hx
    | ok d =>
      cases hb : ofMajorDecimal d (.str m.currency) with
      | error e => simp [hd, hb, bind, Except.bind] at hx
      | ok r => exact ofMajorDecimal_large hc h hd r hb

theorem dollars_round_trip :
    Currency.isKnown "USD" = true ∧ ∃ d, Money.major ⟨1234, "USD"⟩ = .ok d ∧
      ofMajorDecimal d (.str "USD") = .ok ⟨1234, "USD"⟩ ∧
      MoneyDefaults.roundTrip ⟨1234, "USD"⟩ = .ok (d, ⟨1234, "USD"⟩) := by
  have hk : Currency.isKnown "USD" = true := by decide +kernel
  exact ⟨hk, (major_units_round_trip ⟨1234, "USD"⟩ hk).1 (by decide)⟩

/-- Ten to the 28th cents have major units, but they do not bring the amount back. -/
theorem round_trip_fails_past_28_digits :
    (do let d ← Money.major ⟨10 ^ 28, "USD"⟩; ofMajorDecimal d (.str "USD")).toOption = none ∧
      (MoneyDefaults.roundTrip ⟨10 ^ 28, "USD"⟩).toOption = none := by
  decide +kernel

end Money

end Billing
