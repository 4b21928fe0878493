import Billing.Proofs.Money.Arithmetic
import Billing.Proofs.Calendar.Periods
import Billing.Subscription.Lifecycle

/-! # Proration is monotone

The value of the rest of a period is the amount times the days left, over the period's
length or the cadence's average length, the product and the quotient each rounded in the
28-digit context and the quotient then to minor units (`prorateRemaining_ok`). Each of these
roundings is monotone, so for a valid cycle and period the value is never negative for an
amount that is not, shrinks as the day moves on, is nothing once the period is over, and
grows with the amount; a plan change to a larger amount costs, to a smaller one refunds
(`proration_bounded_monotone`).

Exact proration never charges more than the amount, and charges all of it from the
period's first day, as long as the amount times the period's days fits in the context's 28
digits. Beyond that the product is rounded before it is divided, and the rounding can lift
the share above the amount (`exact_proration_exceeds_amount`). -/
namespace Billing

namespace Money

open Decimal

/-- Nothing in a currency is an amount of zero. -/
theorem zero_amount {cur : Value} {m : Money} (h : Money.zero cur = .ok m) : m.amount = 0 := by
  simp only [Money.zero, ofValues, amountOf, build, bind, Except.bind] at h
  cases hc : currencyOf cur with
  | error k => simp [hc] at h
  | ok c =>
    simp only [hc, Except.ok.injEq] at h
    rw [← h]

/-- A difference of amounts is the difference of their minor units. -/
theorem sub_amount {a b r : Money} (h : a.sub b = .ok r) : r.amount = a.amount - b.amount := by
  simp only [Money.sub, bind, Except.bind] at h
  split at h
  · cases h
  · simp only [pure, Except.pure, Except.ok.injEq] at h
    rw [← h]
    rfl

/-- The share of `a` minor units for `r` days out of `D`, as proration computes it: the
product and then the quotient rounded in the context, the quotient then to minor units. -/
def prorated (a r D : ℤ) : ℤ :=
  roundAway (moneyContext.round (moneyContext.round (a * r) / D))

section Prorated

variable {a a' r r' D : ℤ}

/-- The share grows with the product of amount and days: every rounding on the way is
monotone. -/
theorem prorated_mono (hD : 0 < D) (h : a * r ≤ a' * r') : prorated a r D ≤ prorated a' r' D := by
  have hD' : (0 : ℚ) ≤ D := by exact_mod_cast hD.le
  have h' : (a : ℚ) * r ≤ a' * r' := by exact_mod_cast h
  unfold prorated
  apply roundAway_mono
  apply Context.round_mono moneyContext_precision
  apply div_le_div_of_nonneg_right _ hD'
  exact Context.round_mono moneyContext_precision h'

theorem prorated_nonneg (ha : 0 ≤ a) (hr : 0 ≤ r) (hD : 0 < D) : 0 ≤ prorated a r D := by
  have hD' : (0 : ℚ) ≤ D := by exact_mod_cast hD.le
  have har : (0 : ℚ) ≤ a * r := by exact_mod_cast mul_nonneg ha hr
  exact roundAway_nonneg (Context.round_nonneg
    (div_nonneg (Context.round_nonneg har) hD'))

/-- An integer of at most 28 digits is kept by the context. -/
theorem round_of_fits {n : ℤ} (h0 : 0 ≤ n) (h : n < 10 ^ 28) : moneyContext.round n = n :=
  Context.round_intCast (by simp only [moneyContext, Context.standard]; omega) (by decide)

/-- The whole period's share is the amount when the amount times the period's days fits in
the context: neither rounding changes anything. -/
theorem prorated_self (ha : 0 ≤ a) (hD : 0 < D) (hfit : a * D < 10 ^ 28) : prorated a D D = a := by
  have hD' : (D : ℚ) ≠ 0 := by exact_mod_cast hD.ne'
  have haD : a ≤ a * D := le_mul_of_one_le_right ha hD
  have hprod : moneyContext.round ((a : ℚ) * D) = a * D := by
    exact_mod_cast round_of_fits (mul_nonneg ha hD.le) hfit
  unfold prorated
  rw [hprod, mul_div_cancel_right₀ _ hD', round_of_fits ha (by omega), roundAway_intCast]

/-- A part of the period is charged at most the amount, when the amount times the period's
days fits in the context. -/
theorem prorated_le (ha : 0 ≤ a) (hD : 0 < D) (hrD : r ≤ D) (hfit : a * D < 10 ^ 28) :
    prorated a r D ≤ a :=
  calc prorated a r D ≤ prorated a D D := prorated_mono hD (mul_le_mul_of_nonneg_left hrD ha)
    _ = a := prorated_self ha hD hfit

/-- The share proration computes from an amount `a`, `r` days and the length `D`. A length
of zero would be a division by zero, which stops the computation. -/
theorem share_ok {a r D : ℤ} {cur : Value} {m : Money}
    (h : (do
      let part ← decimalOutcome (mul moneyContext (ofInt a) (ofInt r))
      let share ← decimalOutcome (div moneyContext part (ofInt D))
      ofDecimal share cur) = .ok m) :
    m.amount = prorated a r D := by
  simp only [bind, Except.bind] at h
  cases hp : decimalOutcome (mul moneyContext (ofInt a) (ofInt r)) with
  | error e => simp [hp] at h
  | ok part =>
  simp only [hp] at h
  rw [decimalOutcome_eq_ok] at hp
  obtain ⟨hpf, hpv⟩ := mul_rounds moneyContext_precision (ofInt_isFinite a) (ofInt_isFinite r) hp
  cases hq : decimalOutcome (div moneyContext part (ofInt D)) with
  | error e => simp [hq] at h
  | ok share =>
  simp only [hq] at h
  rw [decimalOutcome_eq_ok] at hq
  have hD : (ofInt D).toRat ≠ 0 := by
    rw [toRat_ofInt, Int.cast_ne_zero]
    rintro rfl
    cases part <;> simp [isFinite, div, nanOperand?, ofInt] at hpf hq
  obtain ⟨-, hsv⟩ := div_rounds moneyContext_precision hpf (ofInt_isFinite D) hD hq
  rw [(ofDecimal_ok h).2, hsv, hpv, toRat_ofInt, toRat_ofInt, toRat_ofInt]
  rfl

end Prorated

end Money

namespace Date

theorem lt_iff_toOrdinal {a b : Date} : a < b ↔ a.toOrdinal < b.toOrdinal := Iff.rfl

theorem le_iff_toOrdinal {a b : Date} : a ≤ b ↔ a.toOrdinal ≤ b.toOrdinal := Iff.rfl

end Date

namespace Period

variable {p : Period} {d d' : Date}

/-- The days left in a period never grow as the day moves on. -/
theorem remainingDays_antitone (hp : p.Valid) (h : d ≤ d') :
    p.remainingDays d' ≤ p.remainingDays d := by
  have hord := Date.le_iff_toOrdinal.mp hp.ordered
  rw [Date.le_iff_toOrdinal] at h
  unfold remainingDays duration Date.daysUntil
  simp only [Date.lt_iff_toOrdinal]
  split_ifs <;> omega

/-- No more days are left than the period has, and none are negative. -/
theorem remainingDays_mem (hp : p.Valid) (d : Date) :
    0 ≤ p.remainingDays d ∧ p.remainingDays d ≤ p.duration := by
  have hord := Date.le_iff_toOrdinal.mp hp.ordered
  unfold remainingDays duration Date.daysUntil
  simp only [Date.lt_iff_toOrdinal]
  split_ifs <;> omega

/-- From the period's first day on or before it, every day is left. -/
theorem remainingDays_of_le_start (hp : p.Valid) (h : d ≤ p.startDate) :
    p.remainingDays d = p.duration := by
  have hord := Date.le_iff_toOrdinal.mp hp.ordered
  rw [Date.le_iff_toOrdinal] at h
  unfold remainingDays duration Date.daysUntil
  simp only [Date.lt_iff_toOrdinal]
  split_ifs <;> omega

/-- After the period's last day none is left. -/
theorem remainingDays_of_end_lt (h : p.endDate < d) : p.remainingDays d = 0 := by
  simp [remainingDays, h]

end Period

namespace Cycle

/-- The days a share is taken out of: the period's own length for exact proration, the
cadence's average length otherwise. -/
def prorationLength (c : Cycle) (p : Period) : ProrationMethod → ℤ
  | .exact => p.duration
  | .cadenceAverage => c.totalDays

/-- The value of the rest of a period from a day: nothing when no day remains, else the
share of the amount for the remaining days out of the proration's length. -/
theorem prorateRemaining_ok {c : Cycle} {p : Period} {d : Date} {amount m : Money}
    {method : ProrationMethod} (h : c.prorateRemaining p d amount method = .ok m) :
    m.amount = if p.remainingDays d ≤ 0 then 0
      else Money.prorated amount.amount (p.remainingDays d) (c.prorationLength p method) := by
  unfold prorateRemaining at h
  by_cases hr : p.remainingDays d ≤ 0
  · rw [if_pos hr] at h ⊢
    exact Money.zero_amount h
  rw [if_neg hr] at h ⊢
  simp only [bind, Except.bind] at h
  generalize (if d < p.startDate then p.startDate else d) = day at h
  cases hs : day.addDays (p.remainingDays d) with
  | error e => simp [hs] at h
  | ok stop =>
  simp only [hs] at h
  -- the charge runs from the first day charged to the remaining days after it
  have hdays : day.daysUntil stop = p.remainingDays d := by
    have := (Date.addDays_ok hs).1
    unfold Date.daysUntil
    omega
  unfold proration at h
  simp only [hdays, hr, if_false] at h
  cases method <;> simp only [prorationLength, pure, Except.pure, bind, Except.bind] at h ⊢ <;>
    exact Money.share_ok h

/-- A valid cycle and period give a positive length to prorate over. -/
theorem prorationLength_pos {c : Cycle} {p : Period} (hc : c.Valid) (hp : p.Valid)
    (method : ProrationMethod) : 0 < c.prorationLength p method := by
  cases method with
  | exact => exact p.duration_pos hp.ordered
  | cadenceAverage =>
    unfold prorationLength totalDays
    cases hcad : c.cadence with
    | custom =>
      -- a custom cadence carries its interval, of at least one day
      obtain ⟨n, hn⟩ := Option.isSome_iff_exists.mp (hc.custom_iff.mp hcad)
      have := hc.interval_pos n hn
      simp only [hn, Option.getD_some]
      omega
    | _ => simp [Cadence.averageDays]

section Remaining

variable {c : Cycle} {p : Period} {method : ProrationMethod}

/-- The rest of a period is never worth less than nothing for an amount that is not. -/
theorem prorateRemaining_nonneg (hc : c.Valid) (hp : p.Valid) {d : Date} {a m : Money}
    (ha : 0 ≤ a.amount) (h : c.prorateRemaining p d a method = .ok m) : 0 ≤ m.amount := by
  rw [prorateRemaining_ok h]
  split_ifs
  · exact le_rfl
  · exact Money.prorated_nonneg ha (p.remainingDays_mem hp d).1 (prorationLength_pos hc hp method)

/-- The rest of a period is worth less the later the day, for an amount that is not
negative. -/
theorem prorateRemaining_antitone (hc : c.Valid) (hp : p.Valid) {d d' : Date} {a m m' : Money}
    (ha : 0 ≤ a.amount) (hd : d ≤ d') (h : c.prorateRemaining p d a method = .ok m)
    (h' : c.prorateRemaining p d' a method = .ok m') : m'.amount ≤ m.amount := by
  have hle := p.remainingDays_antitone hp hd
  have hm := prorateRemaining_nonneg hc hp ha h
  rw [prorateRemaining_ok h']
  by_cases hr' : p.remainingDays d' ≤ 0
  · rw [if_pos hr']
    exact hm
  · rw [prorateRemaining_ok h, if_neg hr', if_neg (by omega)]
    exact Money.prorated_mono (prorationLength_pos hc hp method)
      (mul_le_mul_of_nonneg_left hle ha)

/-- On one day, the rest of a period is worth more for a larger amount. -/
theorem prorateRemaining_mono (hc : c.Valid) (hp : p.Valid) {d : Date} {a a' m m' : Money}
    (ha : a.amount ≤ a'.amount) (h : c.prorateRemaining p d a method = .ok m)
    (h' : c.prorateRemaining p d a' method = .ok m') : m.amount ≤ m'.amount := by
  rw [prorateRemaining_ok h, prorateRemaining_ok h']
  split_ifs
  · exact le_rfl
  · exact Money.prorated_mono (prorationLength_pos hc hp method)
      (mul_le_mul_of_nonneg_right ha (p.remainingDays_mem hp d).1)

/-- Exact proration charges at most the amount, and all of it from the period's first day
on, when the amount times the period's days fits in the context. -/
theorem prorateRemaining_exact_le (hp : p.Valid) {d : Date} {a m : Money} (ha : 0 ≤ a.amount)
    (hfit : a.amount * p.duration < 10 ^ 28) (h : c.prorateRemaining p d a .exact = .ok m) :
    m.amount ≤ a.amount ∧ (d ≤ p.startDate → m.amount = a.amount) := by
  have hD := p.duration_pos hp.ordered
  rw [prorateRemaining_ok h]
  refine ⟨?_, fun hs => ?_⟩
  · split_ifs
    · exact ha
    · exact Money.prorated_le ha hD (p.remainingDays_mem hp d).2 hfit
  · rw [p.remainingDays_of_le_start hp hs, if_neg (by omega)]
    exact Money.prorated_self ha hD hfit

end Remaining

end Cycle

namespace Subscription

/-- A plan change credits the rest of the period at the old amount, charges it at the new
one, and nets the two. -/
theorem planChange_ok {s : Subscription} {a : Money} {day : Date} {method : ProrationMethod}
    {pc : PlanChange} (h : s.planChange a day method = .ok pc) :
    s.cycle.prorateRemaining s.period day s.amount method = .ok pc.credit ∧
      s.cycle.prorateRemaining s.period day a method = .ok pc.charge ∧
      pc.net.amount = pc.charge.amount - pc.credit.amount := by
  simp only [planChange, bind, Except.bind] at h
  cases hcr : s.cycle.prorateRemaining s.period day s.amount method with
  | error e => simp [hcr] at h
  | ok credit =>
  cases hch : s.cycle.prorateRemaining s.period day a method with
  | error e => simp [hcr, hch] at h
  | ok charge =>
  cases hn : charge.sub credit with
  | error e => simp [hcr, hch, hn] at h
  | ok net =>
  simp only [hcr, hch, hn, pure, Except.pure, Except.ok.injEq] at h
  subst h
  exact ⟨rfl, rfl, Money.sub_amount hn⟩

end Subscription

/-- What proration on the cycle `c` and period `p` by `method` does, whenever it gives a
value: for an amount that is not negative the rest of the period is worth something not
negative, less the later the day, and nothing once the period is over; on one day it grows
with the amount. Exact proration charges at most the amount, and all of it from the
period's first day on, when the amount times the period's days fits in the 28-digit
context. A plan change nets the charge against the credit, costing when the new amount is
larger and refunding when it is smaller. -/
structure Cycle.ProrationMonotone (c : Cycle) (p : Period) (method : ProrationMethod) : Prop where
  nonneg : ∀ d a m, 0 ≤ a.amount → c.prorateRemaining p d a method = .ok m → 0 ≤ m.amount
  antitone : ∀ d d' a m m', 0 ≤ a.amount → d ≤ d' → c.prorateRemaining p d a method = .ok m →
    c.prorateRemaining p d' a method = .ok m' → m'.amount ≤ m.amount
  expired : ∀ d a m, p.endDate < d → c.prorateRemaining p d a method = .ok m → m.amount = 0
  mono : ∀ d a a' m m', a.amount ≤ a'.amount → c.prorateRemaining p d a method = .ok m →
    c.prorateRemaining p d a' method = .ok m' → m.amount ≤ m'.amount
  exact_le : method = .exact → ∀ d a m, 0 ≤ a.amount → a.amount * p.duration < 10 ^ 28 →
    c.prorateRemaining p d a method = .ok m →
      m.amount ≤ a.amount ∧ (d ≤ p.startDate → m.amount = a.amount)
  planChange : ∀ (s : Subscription) (a : Money) (day : Date) (pc : Subscription.PlanChange),
    s.cycle = c → s.period = p → s.planChange a day method = .ok pc →
      pc.net.amount = pc.charge.amount - pc.credit.amount ∧
      (s.amount.amount ≤ a.amount → 0 ≤ pc.net.amount) ∧
      (a.amount ≤ s.amount.amount → pc.net.amount ≤ 0)

/-- Proration on every valid cycle and period, by either method, is bounded and monotone
as `Cycle.ProrationMonotone` says. -/
theorem proration_bounded_monotone (c : Cycle) (p : Period) (method : ProrationMethod)
    (hc : c.Valid) (hp : p.Valid) : c.ProrationMonotone p method where
  nonneg _ _ _ ha h := Cycle.prorateRemaining_nonneg hc hp ha h
  antitone _ _ _ _ _ ha hd h h' := Cycle.prorateRemaining_antitone hc hp ha hd h h'
  expired d a m hd h := by
    rw [Cycle.prorateRemaining_ok h, p.remainingDays_of_end_lt hd, if_pos le_rfl]
  mono _ _ _ _ _ ha h h' := Cycle.prorateRemaining_mono hc hp ha h h'
  exact_le hm _ _ _ ha hfit h := by
    subst hm
    exact Cycle.prorateRemaining_exact_le hp ha hfit h
  planChange s a day pc hsc hsp h := by
    obtain ⟨hcredit, hcharge, hnet⟩ := Subscription.planChange_ok h
    rw [hsc, hsp] at hcredit hcharge
    refine ⟨hnet, fun hle => ?_, fun hle => ?_⟩
    · have := Cycle.prorateRemaining_mono hc hp hle hcredit hcharge
      omega
    · have := Cycle.prorateRemaining_mono hc hp hle hcharge hcredit
      omega

/-- The monthly cycle and January 2024 are valid, and exact proration on them behaves. -/
theorem january_proration_monotone :
    Cycle.Valid ⟨.monthly, none, none⟩ ∧ Period.Valid ⟨⟨2024, 1, 1⟩, ⟨2024, 1, 31⟩, 1⟩ ∧
      Cycle.ProrationMonotone ⟨.monthly, none, none⟩ ⟨⟨2024, 1, 1⟩, ⟨2024, 1, 31⟩, 1⟩ .exact := by
  have hc : Cycle.Valid ⟨.monthly, none, none⟩ :=
    ⟨(fun n h => by cases h), (fun a h => by cases h), rfl, by decide⟩
  have hp : Period.Valid ⟨⟨2024, 1, 1⟩, ⟨2024, 1, 31⟩, 1⟩ :=
    ⟨by decide, by decide, by decide, by decide⟩
  exact ⟨hc, hp, proration_bounded_monotone _ _ _ hc hp⟩

/-- The whole of January from its first day, for an amount of 28 digits: the amount times
31 days is rounded to 28 digits before it is divided, and the share comes out above the
amount. -/
theorem exact_proration_exceeds_amount :
    (⟨.monthly, none, none⟩ : Cycle).prorateRemaining ⟨⟨2024, 1, 1⟩, ⟨2024, 1, 31⟩, 1⟩
        ⟨2024, 1, 1⟩ ⟨4999999999999999999999999999, "TWD"⟩ .exact =
      .ok ⟨5000000000000000000000000000, "TWD"⟩ :=
  Outcome.ok_of_toOption (by decide +kernel)

end Billing
