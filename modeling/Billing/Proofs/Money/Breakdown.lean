import Billing.Proofs.Decimal.Order
import Billing.Proofs.Money.MajorUnits

/-! # Discounts and taxes

For an amount that is not negative: a discount the function gives (its rate is then a finite
number from 0 to 100) takes off between nothing and the whole amount, and what remains is
the amount less the discount; a tax at a rate that is not negative is not negative and is
added on top; a tax contained in a gross amount leaves a net part between nothing and the
amount, and the two parts add up to it (`breakdowns_within_amount`). Each bound comes from
the monotonicity of every rounding on the way, the rate over a hundred, the product or
quotient in the 28-digit context and the whole minor units, and, past `10^28` minor units,
from the 28 digits that whole minor units are limited to. -/

namespace Billing

namespace Money

open Decimal

/-- Whole minor units of a value between zero and an amount, rounded once in the context, lie
between zero and the amount, when they have at most 28 digits as every result does. -/
theorem share_between {a n : ℤ} {x : ℚ} (hx : 0 ≤ x) (hxa : x ≤ a)
    (hn : n = roundAway (moneyContext.round x)) (hlt : n.natAbs < 10 ^ 28) : 0 ≤ n ∧ n ≤ a := by
  refine ⟨hn ▸ roundAway_nonneg (Context.round_nonneg hx), ?_⟩
  by_cases hsmall : a.natAbs < 10 ^ 28
  · -- the context keeps the amount itself, and each rounding is monotone
    calc n = roundAway (moneyContext.round x) := hn
      _ ≤ roundAway (moneyContext.round a) :=
          roundAway_mono (Context.round_mono moneyContext_precision hxa)
      _ = a := by rw [Context.round_intCast hsmall (by decide), roundAway_intCast]
  · have ha : (0 : ℚ) ≤ a := hx.trans hxa
    have ha' : 0 ≤ a := by exact_mod_cast ha
    omega

/-- Every amount built from a decimal has at most 28 digits. -/
theorem ofDecimal_lt {d : Decimal} {cur : Value} {r : Money} (h : ofDecimal d cur = .ok r) :
    r.amount.natAbs < 10 ^ 28 :=
  roundMinor_lt (roundMinor_of_ofDecimal h)

/-- A product has at most 28 digits. -/
theorem mulDecimal_lt {m r : Money} {f : Decimal} (h : m.mulDecimal f = .ok r) :
    r.amount.natAbs < 10 ^ 28 := by
  simp only [mulDecimal, withDecimal, bind, Except.bind] at h
  split at h
  · cases h
  · exact ofDecimal_lt h

/-- A percentage has at most 28 digits. -/
theorem percentDecimal_lt {m r : Money} {f : Decimal} (h : m.percentDecimal f = .ok r) :
    r.amount.natAbs < 10 ^ 28 := by
  simp only [percentDecimal, bind, Except.bind] at h
  split at h
  · cases h
  · exact mulDecimal_lt h

/-- A quotient has at most 28 digits. -/
theorem divDecimal_lt {m r : Money} {f : Decimal} (h : m.divDecimal f = .ok r) :
    r.amount.natAbs < 10 ^ 28 := by
  simp only [divDecimal, withDecimal, bind, Except.bind] at h
  repeat' split at h
  all_goals first | cases h | exact ofDecimal_lt h

/-- A difference in one currency: the amounts subtracted, in the first one's currency, which
the second one shares. -/
theorem sub_ok {m n r : Money} (h : m.sub n = .ok r) :
    m.currency = n.currency ∧ r = ⟨m.amount - n.amount, m.currency⟩ := by
  by_cases hc : m.currency = n.currency
  · simp only [sub, sameCurrency, if_pos hc, bind, Except.bind, pure, Except.pure,
      Except.ok.injEq] at h
    exact ⟨hc, h.symm⟩
  · simp [sub, sameCurrency, hc, bind, Except.bind] at h

/-- What a difference leaves adds back to the amount. -/
theorem add_of_sub {m n r : Money} (h : m.sub n = .ok r) : n.add r = .ok m := by
  obtain ⟨hc, rfl⟩ := sub_ok h
  simp only [add, sameCurrency, withAmount, bind, Except.bind, pure, Except.pure, add_sub_cancel,
    ← hc, ↓reduceIte]

/-- A rate that passes the discount's two checks is a finite number from zero to a hundred:
a not-a-number fails them, and an infinite rate is below zero or above a hundred. -/
theorem discountRate_between {r : Decimal} (hlo : Decimal.lt r 0 = .ok false)
    (hhi : Decimal.lt 100 r = .ok false) : r.isFinite = true ∧ 0 ≤ r.toRat ∧ r.toRat ≤ 100 := by
  cases r with
  | finite s c e =>
    have h0 : (0 : Decimal).toRat = 0 := by
      show (ofInt 0).toRat = 0
      simp
    have h100 : (100 : Decimal).toRat = 100 := by
      show (ofInt 100).toRat = 100
      simp
    rw [lt_finite rfl rfl, h0] at hlo
    rw [lt_finite rfl rfl, h100] at hhi
    simp only [Except.ok.injEq, decide_eq_false_iff_not, not_lt] at hlo hhi
    exact ⟨rfl, hlo, hhi⟩
  | infinity s =>
    cases s
    · have habove : Decimal.lt 100 (.infinity false) = .ok true := rfl
      rw [habove] at hhi
      cases hhi
    · have hbelow : Decimal.lt (.infinity true) 0 = .ok true := rfl
      rw [hbelow] at hlo
      cases hlo
  | nan => simp [Decimal.lt, compareOrd, isNaN, Except.map] at hlo

/-- A percentage of an amount that is not negative, at a rate that is not negative, is not
negative: the sign carries through the rate over a hundred and the product. -/
theorem percentDecimal_nonneg {m r : Money} {f : Decimal} (hm : 0 ≤ m.amount) (hf : f.NotNeg)
    (h : m.percentDecimal f = .ok r) : 0 ≤ r.amount := by
  simp only [percentDecimal, mulDecimal, withDecimal, bind, Except.bind] at h
  cases hp : Decimal.div moneyContext f 100 with
  | error e => simp [hp, decimalOutcome, Except.mapError] at h
  | ok p =>
    cases hq : Decimal.mul moneyContext (ofInt m.amount) p with
    | error e => simp [hp, hq, decimalOutcome, Except.mapError] at h
    | ok q =>
      simp only [hp, hq, decimalOutcome, Except.mapError] at h
      have hpn := div_notNeg hp hf rfl
      have hqn := mul_notNeg hq (ofInt_notNeg hm) hpn
      exact roundMinor_nonneg (roundMinor_of_ofDecimal h) hqn

/-- A discount that is given: its rate passed both checks, the discount is that percentage
of the amount, and what remains is the amount less the discount. -/
theorem discount_ok {m : Money} {x : Value} {b : DiscountBreakdown} (h : m.discount x = .ok b) :
    ∃ r, x.toDecimal = .ok r ∧ Decimal.lt r 0 = .ok false ∧ Decimal.lt 100 r = .ok false ∧
      m.percentDecimal r = .ok b.discount ∧ m.sub b.discount = .ok b.final := by
  simp only [discount, bind, Except.bind] at h
  cases hx : x.toDecimal with
  | error e => simp [hx] at h
  | ok r =>
    cases hlo : Decimal.lt r 0 with
    | error e => simp [hx, hlo, Except.mapError] at h
    | ok below =>
      cases hhi : Decimal.lt 100 r with
      | error e => simp [hx, hlo, hhi, Except.mapError] at h
      | ok above =>
        cases below <;> cases above <;>
          simp only [hx, hlo, hhi, Except.mapError, Bool.or_self, Bool.or_true, Bool.true_or,
            Bool.false_eq_true, ↓reduceIte, reduceCtorEq] at h
        cases hd : m.percentDecimal r with
        | error e => simp [hd] at h
        | ok d =>
          cases hs : m.sub d with
          | error e => simp [hd, hs] at h
          | ok fin =>
            simp only [hd, hs, pure, Except.pure, Except.ok.injEq] at h
            subst h
            exact ⟨r, rfl, hlo, hhi, hd, hs⟩

/-- The context keeps one as it is. -/
theorem round_one : moneyContext.round 1 = 1 := by
  have h : moneyContext.round ((1 : ℤ) : ℚ) = ((1 : ℤ) : ℚ) :=
    Context.round_intCast (by decide) (by decide)
  push_cast at h
  exact h

/-- A discount given on an amount that is not negative takes off between nothing and the
whole amount, and what remains, the amount less the discount, is not negative. -/
theorem discount_within {m : Money} {x : Value} {b : DiscountBreakdown} (hm : 0 ≤ m.amount)
    (h : m.discount x = .ok b) :
    0 ≤ b.discount.amount ∧ b.discount.amount ≤ m.amount ∧ m.sub b.discount = .ok b.final ∧
      0 ≤ b.final.amount := by
  obtain ⟨r, -, hlo, hhi, hd, hs⟩ := discount_ok h
  obtain ⟨hfin, hr0, hr100⟩ := discountRate_between hlo hhi
  -- the rate over a hundred, rounded, is a fraction from zero to one
  have hp0 : 0 ≤ moneyContext.round (r.toRat / 100) := Context.round_nonneg (by positivity)
  have hp1 : moneyContext.round (r.toRat / 100) ≤ 1 := by
    calc moneyContext.round (r.toRat / 100) ≤ moneyContext.round 1 :=
          Context.round_mono moneyContext_precision (by linarith)
      _ = 1 := round_one
  have hma : (0 : ℚ) ≤ m.amount := by exact_mod_cast hm
  obtain ⟨hd0, hda⟩ := share_between (mul_nonneg hma hp0) (mul_le_of_le_one_right hma hp1)
    (percentDecimal_ok hfin hd) (percentDecimal_lt hd)
  obtain ⟨-, hfinal⟩ := sub_ok hs
  refine ⟨hd0, hda, hs, ?_⟩
  rw [hfinal]
  show 0 ≤ m.amount - b.discount.amount
  omega

/-- A tax on top of an amount: the tax is the rate's percentage of the amount, the total the
amount plus the tax, and the amount without tax the amount itself. -/
theorem tax_ok {m : Money} {x : Value} {t : TaxBreakdown} (h : m.tax x = .ok t) :
    ∃ f, x.toDecimal = .ok f ∧ m.percentDecimal f = .ok t.tax ∧ m.add t.tax = .ok t.withTax ∧
      t.withoutTax = m := by
  simp only [tax, percent, bind, Except.bind] at h
  cases hx : x.toDecimal with
  | error e => simp [hx] at h
  | ok f =>
    cases hp : m.percentDecimal f with
    | error e => simp [hx, hp] at h
    | ok tx =>
      cases ha : m.add tx with
      | error e => simp [hx, hp, ha] at h
      | ok w =>
        simp only [hx, hp, ha, pure, Except.pure, Except.ok.injEq] at h
        subst h
        exact ⟨f, rfl, hp, ha, rfl⟩

/-- A tax contained in a gross amount: the rate over a hundred, one plus that, the amount over
the factor as the net part, the tax what the amount has beyond it, and the gross the amount
itself. -/
theorem taxFromGross_shape {m : Money} {x : Value} {t : TaxBreakdown}
    (h : m.taxFromGross x = .ok t) :
    ∃ f p g, x.toDecimal = .ok f ∧ Decimal.div moneyContext f 100 = .ok p ∧
      Decimal.add moneyContext 1 p = .ok g ∧ m.divDecimal g = .ok t.withoutTax ∧
      m.sub t.withoutTax = .ok t.tax ∧ t.withTax = m := by
  simp only [taxFromGross, bind, Except.bind] at h
  cases hx : x.toDecimal with
  | error e => simp [hx] at h
  | ok f =>
    cases hp : Decimal.div moneyContext f 100 with
    | error e => simp [hx, hp, decimalOutcome, Except.mapError] at h
    | ok p =>
      cases hg : Decimal.add moneyContext 1 p with
      | error e => simp [hx, hp, hg, decimalOutcome, Except.mapError] at h
      | ok g =>
        simp only [hx, hp, hg, decimalOutcome, Except.mapError] at h
        cases hn : m.divDecimal g with
        | error e => simp [hn] at h
        | ok net =>
          cases hs : m.sub net with
          | error e => simp [hn, hs] at h
          | ok tx =>
            simp only [hn, hs, pure, Except.pure, Except.ok.injEq] at h
            subst h
            exact ⟨f, p, g, rfl, hp, hg, hn, hs, rfl⟩

/-- Over an infinite divisor every amount is zero. -/
theorem divDecimal_infinity {m r : Money} {s : Bool} (h : m.divDecimal (.infinity s) = .ok r) :
    r.amount = 0 := by
  have hz : Decimal.eqValue (.infinity s) 0 = .ok false := by cases s <;> rfl
  have hq : Decimal.div moneyContext (ofInt m.amount) (.infinity s) =
      .ok (.finite (decide (m.amount < 0) != s) 0 moneyContext.etiny) := rfl
  simp only [divDecimal, withDecimal, hz, hq, Except.mapError, decimalOutcome, bind, Except.bind,
    Bool.false_eq_true, ↓reduceIte] at h
  rw [(ofDecimal_ok h).2, toRat_finite]
  simpa using roundAway_intCast 0

/-- The net part of a gross amount that is not negative, at a rate that is not negative, lies
between nothing and the amount: the factor it is divided by is at least one, or infinite. -/
theorem taxFromGross_net_between {m : Money} {x : Value} {f : Decimal} {t : TaxBreakdown}
    (hm : 0 ≤ m.amount) (hx : x.toDecimal = .ok f) (hf : f.NotNeg)
    (h : m.taxFromGross x = .ok t) : 0 ≤ t.withoutTax.amount ∧ t.withoutTax.amount ≤ m.amount := by
  obtain ⟨f', p, g, hx', hp, hg, hn, -, -⟩ := taxFromGross_shape h
  rw [hx, Except.ok.injEq] at hx'
  subst hx'
  cases f with
  | finite s c e =>
    have hnet := taxFromGross_ok hx rfl h
    have hma : (0 : ℚ) ≤ m.amount := by exact_mod_cast hm
    have hq0 : 0 ≤ moneyContext.round ((finite s c e).toRat / 100) :=
      Context.round_nonneg (div_nonneg (toRat_nonneg hf) (by norm_num))
    -- one plus the rounded rate is at least one, and stays so once rounded
    have hg1 : 1 ≤ moneyContext.round (1 + moneyContext.round ((finite s c e).toRat / 100)) :=
      calc (1 : ℚ) = moneyContext.round 1 := round_one.symm
        _ ≤ _ := Context.round_mono moneyContext_precision (by linarith)
    exact share_between (div_nonneg hma (by linarith)) (div_le_self hma hg1) hnet (divDecimal_lt hn)
  | infinity s =>
    -- only the positive infinity is not negative, and it makes the factor infinite
    obtain rfl : s = false := hf
    rw [show Decimal.div moneyContext (.infinity false) 100 = .ok (.infinity false) from rfl,
      Except.ok.injEq] at hp
    subst hp
    rw [show Decimal.add moneyContext 1 (.infinity false) = .ok (.infinity false) from rfl,
      Except.ok.injEq] at hg
    subst hg
    rw [divDecimal_infinity hn]
    exact ⟨le_refl 0, hm⟩
  | nan => exact hf.elim

/-- On an amount that is not negative: a discount that is given takes off between nothing and
the amount and leaves the amount less the discount, which is not negative; at a rate that is
not negative, a tax on top is not negative and the total is the amount plus it, and a tax
contained in the amount leaves a net part between nothing and the amount that adds back to
the amount with the tax. -/
theorem breakdowns_within_amount (m : Money) (x : Value) (hm : 0 ≤ m.amount) :
    (∀ b, m.discount x = .ok b → 0 ≤ b.discount.amount ∧ b.discount.amount ≤ m.amount ∧
        m.sub b.discount = .ok b.final ∧ 0 ≤ b.final.amount) ∧
    ∀ f, x.toDecimal = .ok f → f.NotNeg →
      (∀ t, m.tax x = .ok t → 0 ≤ t.tax.amount ∧ m.add t.tax = .ok t.withTax) ∧
      (∀ t, m.taxFromGross x = .ok t → 0 ≤ t.withoutTax.amount ∧
        t.withoutTax.amount ≤ m.amount ∧ t.withoutTax.add t.tax = .ok m) := by
  refine ⟨fun b h => discount_within hm h, fun f hx hf => ⟨fun t h => ?_, fun t h => ?_⟩⟩
  · obtain ⟨f', hx', hp, ha, -⟩ := tax_ok h
    rw [hx, Except.ok.injEq] at hx'
    subst hx'
    exact ⟨percentDecimal_nonneg hm hf hp, ha⟩
  · obtain ⟨-, -, -, -, -, -, -, hs, -⟩ := taxFromGross_shape h
    obtain ⟨h0, ha⟩ := taxFromGross_net_between hm hx hf h
    exact ⟨h0, ha, add_of_sub hs⟩

/-- Ten dollars holding a tax of fifteen percent. -/
theorem fifteen_percent_within_amount :
    (0 : ℤ) ≤ 1000 ∧ Value.toDecimal (.int 15) = .ok (ofInt 15) ∧ (ofInt 15).NotNeg ∧
      ∀ t, (⟨1000, "USD"⟩ : Money).taxFromGross (.int 15) = .ok t →
        0 ≤ t.withoutTax.amount ∧ t.withoutTax.amount ≤ 1000 ∧
          t.withoutTax.add t.tax = .ok ⟨1000, "USD"⟩ := by
  have hm : (0 : ℤ) ≤ 1000 := by decide
  have hx : Value.toDecimal (.int 15) = .ok (ofInt 15) := rfl
  have hf : (ofInt 15).NotNeg := ofInt_notNeg (by decide)
  exact ⟨hm, hx, hf, ((breakdowns_within_amount ⟨1000, "USD"⟩ (.int 15) hm).2 _ hx hf).2⟩

end Money

end Billing
