import Billing.Proofs.Decimal.Sum
import Billing.Proofs.Money.Allocation

/-! # Money arithmetic rounds twice

An operation on an amount of money computes in the 28-digit context and rounds the result
to whole minor units, half away from zero. Each step of the context rounds once, so a
product, a quotient, a percentage, an amount net of tax and a conversion are the exact
value rounded to 28 significant digits, ties to even, and then to minor units
(`arithmetic_rounds_in_context`). The first rounding is exact for operands of few digits,
and then the result is the exact value rounded half away from zero. It is not in general:
a factor just below one half times one minor unit reaches exactly one half in the context
and then rounds up to a whole unit (`multiply_near_half_rounds_up`). -/
namespace Billing

namespace Decimal

@[simp] theorem toRat_ofInt (n : ℤ) : (ofInt n).toRat = n := by
  rcases lt_or_ge n 0 with h | h
  · simp [ofInt, toRat, h, Nat.cast_natAbs, abs_of_neg h]
  · simp [ofInt, toRat, not_lt.mpr h, Nat.cast_natAbs, abs_of_nonneg h]

@[simp] theorem ofInt_isFinite (n : ℤ) : (ofInt n).isFinite = true := rfl

end Decimal

namespace Money

open Decimal

theorem moneyContext_precision : 0 < moneyContext.precision := by decide

/-- An amount made from a decimal is the decimal rounded to minor units, half away from
zero; only a finite decimal makes one. -/
theorem ofDecimal_ok {d : Decimal} {cur : Value} {r : Money} (h : ofDecimal d cur = .ok r) :
    d.isFinite = true ∧ r.amount = roundAway d.toRat := by
  unfold ofDecimal amountOfDecimal at h
  cases hfin : d.isFinite with
  | false => simp [hfin, bind, Except.bind, build] at h
  | true =>
    cases hr : roundMinor d with
    | error e => simp [hfin, hr, bind, Except.bind, Except.map] at h
    | ok n =>
      simp only [hfin, hr, if_true, Except.map, bind, Except.bind, build] at h
      cases hc : currencyOf cur with
      | error k => simp [hc] at h
      | ok c =>
        simp only [hc, Except.ok.injEq] at h
        subst h
        exact ⟨rfl, (roundMinor_eq hr).2⟩

/-- A finite decimal that compares unequal to zero has a value other than zero. -/
theorem toRat_ne_zero {f : Decimal} (hf : f.isFinite = true) (h : Decimal.eqValue f 0 = .ok false) :
    f.toRat ≠ 0 := by
  cases f with
  | finite s c e =>
    have hc : c ≠ 0 := by
      rintro rfl
      simp [Decimal.eqValue, Decimal.cmp, zero_eq] at h
    cases s <;> simp [toRat, hc, zpow_ne_zero e (show (10 : ℚ) ≠ 0 by norm_num)]
  | infinity => simp [isFinite] at hf
  | nan => simp [isFinite] at hf

/-- An amount made from the product of an integer and a finite decimal is the exact
product rounded in the context, then to minor units. -/
theorem ofDecimal_mul {a : ℤ} {f p : Decimal} {cur : Value} {r : Money} (hf : f.isFinite = true)
    (hp : Decimal.mul moneyContext (ofInt a) f = .ok p) (h : ofDecimal p cur = .ok r) :
    r.amount = roundAway (moneyContext.round (a * f.toRat)) := by
  rw [(ofDecimal_ok h).2, (mul_rounds moneyContext_precision (ofInt_isFinite _) hf hp).2,
    toRat_ofInt]

/-- An amount times a finite decimal: the exact product rounded in the context, then to
minor units. -/
theorem mulDecimal_ok {m r : Money} {f : Decimal} (hf : f.isFinite = true)
    (h : m.mulDecimal f = .ok r) :
    r.amount = roundAway (moneyContext.round (m.amount * f.toRat)) := by
  simp only [mulDecimal, withDecimal, bind, Except.bind] at h
  cases hp : decimalOutcome (Decimal.mul moneyContext (ofInt m.amount) f) with
  | error e => simp [hp] at h
  | ok p =>
    simp only [hp] at h
    rw [decimalOutcome_eq_ok] at hp
    exact ofDecimal_mul hf hp h

/-- An amount over a finite decimal: the divisor is not zero, and the exact quotient is
rounded in the context, then to minor units. -/
theorem divDecimal_ok {m r : Money} {f : Decimal} (hf : f.isFinite = true)
    (h : m.divDecimal f = .ok r) :
    f.toRat ≠ 0 ∧ r.amount = roundAway (moneyContext.round (m.amount / f.toRat)) := by
  simp only [divDecimal, withDecimal, bind, Except.bind] at h
  cases hz : Decimal.eqValue f 0 with
  | error e => simp [hz, Except.mapError] at h
  | ok isZero =>
    cases isZero with
    | true => simp [hz, Except.mapError] at h
    | false =>
      have hne := toRat_ne_zero hf hz
      simp only [hz, Except.mapError, Bool.false_eq_true, if_false] at h
      cases hq : decimalOutcome (Decimal.div moneyContext (ofInt m.amount) f) with
      | error e => simp [hq] at h
      | ok q =>
        simp only [hq] at h
        rw [decimalOutcome_eq_ok] at hq
        refine ⟨hne, ?_⟩
        rw [(ofDecimal_ok h).2, (div_rounds moneyContext_precision (ofInt_isFinite _) hf hne hq).2,
          toRat_ofInt]

/-- A percentage of an amount: the rate over a hundred, then the amount times it, each
rounded in the context, and the product rounded to minor units. -/
theorem percentDecimal_ok {m r : Money} {f : Decimal} (hf : f.isFinite = true)
    (h : m.percentDecimal f = .ok r) :
    r.amount = roundAway (moneyContext.round (m.amount * moneyContext.round (f.toRat / 100))) := by
  simp only [percentDecimal, bind, Except.bind] at h
  cases hp : decimalOutcome (Decimal.div moneyContext f 100) with
  | error e => simp [hp] at h
  | ok p =>
    simp only [hp] at h
    rw [decimalOutcome_eq_ok] at hp
    obtain ⟨hpf, hpv⟩ := div_rounds moneyContext_precision hf (ofInt_isFinite 100)
      (by rw [toRat_ofInt]; norm_num) hp
    rw [mulDecimal_ok hpf h, hpv, toRat_ofInt, Int.cast_ofNat]

/-- The amount net of a tax contained in it: the amount over `1 + rate/100`, the rate over a
hundred, the sum and the quotient each rounded in the context, and the quotient rounded to
minor units. -/
theorem taxFromGross_ok {m : Money} {x : Value} {f : Decimal} {t : TaxBreakdown}
    (hx : x.toDecimal = .ok f) (hf : f.isFinite = true) (h : m.taxFromGross x = .ok t) :
    t.withoutTax.amount = roundAway (moneyContext.round
      (m.amount / moneyContext.round (1 + moneyContext.round (f.toRat / 100)))) := by
  simp only [taxFromGross, hx, bind, Except.bind] at h
  cases hp : decimalOutcome (Decimal.div moneyContext f 100) with
  | error e => simp [hp] at h
  | ok p =>
    simp only [hp] at h
    rw [decimalOutcome_eq_ok] at hp
    obtain ⟨hpf, hpv⟩ := div_rounds moneyContext_precision hf (ofInt_isFinite 100)
      (by rw [toRat_ofInt]; norm_num) hp
    cases hg : decimalOutcome (Decimal.add moneyContext 1 p) with
    | error e => simp [hg] at h
    | ok g =>
      simp only [hg] at h
      rw [decimalOutcome_eq_ok] at hg
      obtain ⟨hgf, hgv⟩ := add_rounds moneyContext_precision (ofInt_isFinite 1) hpf hg
      cases hn : m.divDecimal g with
      | error e => simp [hn] at h
      | ok net =>
        simp only [hn] at h
        cases hs : m.sub net with
        | error e => simp [hs] at h
        | ok diff =>
          simp only [hs, pure, Except.pure, Except.ok.injEq] at h
          subst h
          rw [(divDecimal_ok hgf hn).2, hgv, hpv, toRat_ofInt, toRat_ofInt, Int.cast_one, Int.cast_ofNat]

/-- An amount converted at a rate: the exact product rounded in the context, then to minor
units. -/
theorem convert_ok {m r : Money} {cur x : Value} {f : Decimal} (hx : x.toDecimal = .ok f)
    (hf : f.isFinite = true) (h : m.convert cur x = .ok r) :
    r.amount = roundAway (moneyContext.round (m.amount * f.toRat)) := by
  simp only [convert, hx, bind, Except.bind] at h
  cases hz : (Decimal.le f 0).mapError Error.decimal with
  | error e => simp [hz] at h
  | ok b =>
    simp only [hz] at h
    cases b with
    | true => simp at h
    | false =>
      simp only [Bool.false_eq_true, if_false] at h
      cases hp : decimalOutcome (Decimal.mul moneyContext (ofInt m.amount) f) with
      | error e => simp [hp] at h
      | ok p =>
        simp only [hp] at h
        rw [decimalOutcome_eq_ok] at hp
        exact ofDecimal_mul hf hp h

/-- Money arithmetic on a finite number rounds twice: each operation's exact value is
rounded to 28 significant digits, ties to even, at every step the context takes, and the
last result to whole minor units, ties away from zero. -/
theorem arithmetic_rounds_in_context (m : Money) (x : Value) (f : Decimal)
    (hx : x.toDecimal = .ok f) (hf : f.isFinite = true) :
    (∀ r, m.mulBy x = .ok r → r.amount = roundAway (moneyContext.round (m.amount * f.toRat))) ∧
    (∀ r, m.divBy x = .ok r → r.amount = roundAway (moneyContext.round (m.amount / f.toRat))) ∧
    (∀ r, m.percent x = .ok r →
      r.amount = roundAway (moneyContext.round (m.amount * moneyContext.round (f.toRat / 100)))) ∧
    (∀ t, m.taxFromGross x = .ok t → t.withoutTax.amount = roundAway (moneyContext.round
      (m.amount / moneyContext.round (1 + moneyContext.round (f.toRat / 100))))) ∧
    (∀ cur r, m.convert cur x = .ok r →
      r.amount = roundAway (moneyContext.round (m.amount * f.toRat))) := by
  refine ⟨fun r h => ?_, fun r h => ?_, fun r h => ?_, fun t h => taxFromGross_ok hx hf h,
    fun cur r h => convert_ok hx hf h⟩
  · simp only [mulBy, hx, bind, Except.bind] at h
    exact mulDecimal_ok hf h
  · simp only [divBy, hx, bind, Except.bind] at h
    exact (divDecimal_ok hf h).2
  · simp only [percent, hx, bind, Except.bind] at h
    exact percentDecimal_ok hf h

/-- A thousand minor units and the factor 3: every operation rounds as stated. -/
theorem thousand_and_three_round_in_context :
    Value.toDecimal (.int 3) = .ok (ofInt 3) ∧ (ofInt 3).isFinite = true ∧
    ((∀ r, (⟨1000, "USD"⟩ : Money).mulBy (.int 3) = .ok r →
        r.amount = roundAway (moneyContext.round ((1000 : ℤ) * (ofInt 3).toRat))) ∧
      (∀ r, (⟨1000, "USD"⟩ : Money).divBy (.int 3) = .ok r →
        r.amount = roundAway (moneyContext.round ((1000 : ℤ) / (ofInt 3).toRat))) ∧
      (∀ r, (⟨1000, "USD"⟩ : Money).percent (.int 3) = .ok r →
        r.amount = roundAway (moneyContext.round
          ((1000 : ℤ) * moneyContext.round ((ofInt 3).toRat / 100)))) ∧
      (∀ t, (⟨1000, "USD"⟩ : Money).taxFromGross (.int 3) = .ok t →
        t.withoutTax.amount = roundAway (moneyContext.round
          ((1000 : ℤ) / moneyContext.round (1 + moneyContext.round ((ofInt 3).toRat / 100))))) ∧
      (∀ cur r, (⟨1000, "USD"⟩ : Money).convert cur (.int 3) = .ok r →
        r.amount = roundAway (moneyContext.round ((1000 : ℤ) * (ofInt 3).toRat)))) :=
  ⟨rfl, rfl, arithmetic_rounds_in_context ⟨1000, "USD"⟩ (.int 3) (ofInt 3) rfl rfl⟩

/-- One minor unit times 0.49999999999999999999999999995 is less than one half, so it
rounds to nothing; but the context keeps 28 digits and rounds the product to 0.5, a tie
that then rounds up to a whole unit. -/
theorem multiply_near_half_rounds_up :
    (⟨1, "TWD"⟩ : Money).mulBy (.str "0.49999999999999999999999999995") = .ok ⟨1, "TWD"⟩ ∧
      roundAway (1 * (49999999999999999999999999995 / 10 ^ 29)) = 0 := by
  refine ⟨Outcome.ok_of_toOption (by decide +kernel), ?_⟩
  rw [roundAway, if_neg (by norm_num)]
  exact Rounding.halfUp.nearest_of_lt_half (by norm_num) (by norm_num)

end Money

end Billing
