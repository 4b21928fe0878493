import Billing.Calendar.Date
import Mathlib

/-! # Ordinals of the calendar

The ordinal numbering of dates is exact: every ordinal from 0001-01-01 to 9999-12-31 is
the ordinal of a date of the calendar, which `ofOrdinal` finds (`ofOrdinal_spec`), and
ordinals follow the order of months (`toOrdinal_lt_of_month_lt`). So adding days moves a
date by exactly that many days, and moving by whole months lands in a later month; both
fail only by leaving the calendar. -/
namespace Billing

/-- The errors of calendar arithmetic: a date or a year beyond the calendar, or a span of
days too long to be a duration. -/
def Error.isCalendar : Error → Bool
  | .dateOutOfRange | .yearOutOfRange _ | .machineIntOverflow | .durationDays _ => true
  | _ => false

namespace Date

section Months

variable (y : Int)

theorem daysBeforeMonth_eq_sum (m : Nat) :
    daysBeforeMonth y m = ((List.range (m - 1)).map fun i => daysInMonth y (i + 1)).sum := rfl

theorem daysBeforeMonth_succ {m : Nat} (hm : 1 ≤ m) :
    daysBeforeMonth y (m + 1) = daysBeforeMonth y m + daysInMonth y m := by
  obtain ⟨k, rfl⟩ : ∃ k, m = k + 1 := ⟨m - 1, by omega⟩
  simp [daysBeforeMonth_eq_sum, List.range_succ]

theorem daysBeforeMonth_mono {m m' : Nat} (h : m ≤ m') :
    daysBeforeMonth y m ≤ daysBeforeMonth y m' := by
  rw [daysBeforeMonth_eq_sum, daysBeforeMonth_eq_sum]
  obtain ⟨k, hk⟩ : ∃ k, m' - 1 = (m - 1) + k := ⟨m' - 1 - (m - 1), by omega⟩
  rw [hk, List.range_add]
  simp

/-- The days before a thirteenth month are the days of the year. -/
theorem daysBeforeMonth_thirteen : daysBeforeMonth y 13 = if isLeap y then 366 else 365 := by
  cases h : isLeap y <;> simp [daysBeforeMonth_eq_sum, List.range_succ, daysInMonth, h]

theorem daysBeforeYear_succ : daysBeforeYear (y + 1) = daysBeforeYear y + daysBeforeMonth y 13 := by
  rw [daysBeforeMonth_thirteen]
  simp only [daysBeforeYear, isLeap]
  by_cases h : y % 4 = 0 ∧ (y % 100 ≠ 0 ∨ y % 400 = 0) <;> simp [h] <;> omega

theorem daysBeforeYear_mono {y y' : Int} (h : y ≤ y') : daysBeforeYear y ≤ daysBeforeYear y' := by
  simp only [daysBeforeYear]
  omega

/-- The days before a year given in whole 400-, 100-, 4- and 1-year cycles: 146097 days a
400-year cycle, 36524 a century, 1461 four years, and a leap day after the fourth year of a
four-year cycle. -/
theorem daysBeforeYear_cycles {a b c d : Int} (hb : 0 ≤ b) (hc : 0 ≤ c) (hd : 0 ≤ d)
    (hcd : 4 * c + d < 100) (hbcd : 100 * b + 4 * c + d < 400) :
    daysBeforeYear (400 * a + 100 * b + 4 * c + d + 1) =
      146097 * a + 36524 * b + 1461 * c + 365 * d + d / 4 := by
  simp only [daysBeforeYear]
  have h4 : (400 * a + 100 * b + 4 * c + d + 1 - 1) / 4 = 100 * a + 25 * b + c + d / 4 := by omega
  have h100 : (400 * a + 100 * b + 4 * c + d + 1 - 1) / 100 = 4 * a + b := by omega
  have h400 : (400 * a + 100 * b + 4 * c + d + 1 - 1) / 400 = a := by omega
  rw [h4, h100, h400]
  omega

/-- Walking the months from month `m` finds the day `n` after that month's start: its month
and day lie in the year, and they are the same day. -/
theorem monthDay_go : ∀ (fuel m n : Nat), 1 ≤ m → m + fuel = 13 →
    daysBeforeMonth y m + n < daysBeforeMonth y 13 →
    1 ≤ (monthDay.go y m n fuel).1 ∧ (monthDay.go y m n fuel).1 ≤ 12 ∧
      1 ≤ (monthDay.go y m n fuel).2 ∧
      (monthDay.go y m n fuel).2 ≤ daysInMonth y (monthDay.go y m n fuel).1 ∧
      daysBeforeMonth y (monthDay.go y m n fuel).1 + (monthDay.go y m n fuel).2 =
        daysBeforeMonth y m + n + 1
  | 0, m, n, hm, hf, hn => by
    -- past the twelfth month no day is left
    have : m = 13 := by omega
    subst this
    omega
  | fuel + 1, m, n, hm, hf, hn => by
    unfold monthDay.go
    split
    · simp only
      omega
    · have hs := daysBeforeMonth_succ y hm
      have := monthDay_go fuel (m + 1) (n - daysInMonth y m) (by omega) (by omega) (by omega)
      omega

theorem monthDay_spec (n : Nat) (h : n < daysBeforeMonth y 13) :
    1 ≤ (monthDay y n).1 ∧ (monthDay y n).1 ≤ 12 ∧ 1 ≤ (monthDay y n).2 ∧
      (monthDay y n).2 ≤ daysInMonth y (monthDay y n).1 ∧
      daysBeforeMonth y (monthDay y n).1 + (monthDay y n).2 = n + 1 := by
  have h0 : daysBeforeMonth y 1 = 0 := rfl
  have hgo := monthDay_go y 12 1 n (Nat.le_refl 1) rfl (by omega)
  rw [h0, Nat.zero_add] at hgo
  exact hgo

theorem toOrdinal_lastDay : (⟨y, 12, 31⟩ : Date).toOrdinal = daysBeforeYear (y + 1) := by
  rw [daysBeforeYear_succ, daysBeforeMonth_thirteen, toOrdinal]
  cases h : isLeap y <;> simp [daysBeforeMonth_eq_sum, List.range_succ, daysInMonth, h] <;> omega

end Months

/-- Every ordinal of the calendar names a date of the calendar, whose ordinal it is. -/
theorem ofOrdinal_spec {o : Int} (h1 : minOrdinal ≤ o) (h2 : o ≤ maxOrdinal) :
    (ofOrdinal o).toOrdinal = o ∧ (ofOrdinal o).isValid = true := by
  unfold ofOrdinal
  simp only
  simp only [minOrdinal, maxOrdinal] at h1 h2
  -- the ordinal less one in whole 400-, 100-, 4- and 1-year cycles, and the day of the year
  generalize ha : (o - 1) / 146097 = a
  generalize hb : (o - 1) % 146097 / 36524 = b
  generalize hc : (o - 1) % 146097 % 36524 / 1461 = c
  generalize hd : (o - 1) % 146097 % 36524 % 1461 / 365 = d
  generalize hr : (o - 1) % 146097 % 36524 % 1461 % 365 = r
  have hsplit : o - 1 = 146097 * a + 36524 * b + 1461 * c + 365 * d + r := by omega
  have hbounds : 0 ≤ a ∧ 0 ≤ b ∧ b ≤ 4 ∧ 0 ≤ c ∧ c ≤ 24 ∧ 0 ≤ d ∧ d ≤ 4 ∧ 0 ≤ r ∧ r < 365 := by
    omega
  split
  · -- a fifth year of a four-year cycle, or a fifth century: the leap day before it
    rename_i hcase
    rw [toOrdinal_lastDay]
    have hvalid : ∀ y : Int, 1 ≤ y → y ≤ 9999 → (⟨y, 12, 31⟩ : Date).isValid = true := by
      intro y hy1 hy2
      simp only [isValid, daysInMonth, decide_eq_true_eq]
      omega
    rcases hcase with hd4 | hb4
    · have hb3 : b ≤ 3 := by omega
      have hc23 : c ≤ 23 := by omega
      have hy : a * 400 + 1 + b * 100 + c * 4 + d - 1 + 1 = 400 * a + 100 * b + 4 * c + 4 + 1 := by
        omega
      rw [hy, daysBeforeYear_cycles (by omega) (by omega) (by omega) (by omega) (by omega)]
      exact ⟨by omega, hvalid _ (by omega) (by omega)⟩
    · have hy : a * 400 + 1 + b * 100 + c * 4 + d - 1 + 1 = 400 * (a + 1) + 100 * 0 + 4 * 0 + 0 + 1 := by
        omega
      rw [hy, daysBeforeYear_cycles (by omega) (by omega) (by omega) (by omega) (by omega)]
      exact ⟨by omega, hvalid _ (by omega) (by omega)⟩
  · rename_i hcase
    have hyear : a * 400 + 1 + b * 100 + c * 4 + d = 400 * a + 100 * b + 4 * c + d + 1 := by omega
    rw [hyear]
    generalize hy : 400 * a + 100 * b + 4 * c + d + 1 = y
    have hdays : daysBeforeYear y = 146097 * a + 36524 * b + 1461 * c + 365 * d := by
      rw [← hy, daysBeforeYear_cycles (by omega) (by omega) (by omega) (by omega) (by omega)]
      omega
    have hlen : 365 ≤ daysBeforeMonth y 13 := by
      rw [daysBeforeMonth_thirteen]
      split <;> omega
    obtain ⟨hm1, hm12, hd1, hdim, hsum⟩ := monthDay_spec y r.toNat (by omega)
    refine ⟨?_, ?_⟩
    · simp only [toOrdinal]
      omega
    · simp only [isValid, decide_eq_true_eq]
      omega

/-- Ordinals follow the order of months: a day of the calendar comes before every day of a
later month. -/
theorem toOrdinal_lt_of_month_lt {a b : Date} (ham : 1 ≤ a.month) (ham' : a.month ≤ 12)
    (had : a.day ≤ daysInMonth a.year a.month) (hbd : 1 ≤ b.day)
    (h : a.year < b.year ∨ a.year = b.year ∧ a.month < b.month) : a.toOrdinal < b.toOrdinal := by
  have hb : b.toOrdinal = daysBeforeYear b.year + daysBeforeMonth b.year b.month + b.day := rfl
  -- `a` comes before the first day of the month after it
  have hnext : a.toOrdinal ≤ daysBeforeYear a.year + daysBeforeMonth a.year (a.month + 1) := by
    rw [toOrdinal, daysBeforeMonth_succ a.year ham]
    omega
  rcases h with hy | ⟨hy, hm⟩
  · have hm := daysBeforeMonth_mono a.year (show a.month + 1 ≤ 13 by omega)
    have hyear := daysBeforeYear_succ a.year
    have hmono := daysBeforeYear_mono (show a.year + 1 ≤ b.year by omega)
    omega
  · have hm := daysBeforeMonth_mono a.year (show a.month + 1 ≤ b.month by omega)
    rw [← hy] at hb
    omega

theorem checkSpan_error {n : Int} {err : Error} (h : checkSpan n = .error err) :
    err.isCalendar = true := by
  unfold checkSpan at h
  split at h
  · cases h
    rfl
  · split at h
    · cases h
      rfl
    · cases h

section Shifts

variable {d d' : Date} {n : Int} {err : Error}

/-- Adding days moves the ordinal by exactly that many days, to a date of the calendar. -/
theorem addDays_ok (h : d.addDays n = .ok d') :
    d'.toOrdinal = d.toOrdinal + n ∧ d'.isValid = true := by
  simp only [addDays, checkSpan, bind, Except.bind] at h
  split at h
  · cases h
  · split at h
    · cases h
    · cases h
      exact ofOrdinal_spec (by omega) (by omega)

theorem addDays_error (h : d.addDays n = .error err) : err.isCalendar = true := by
  simp only [addDays, bind, Except.bind] at h
  cases hs : checkSpan n with
  | error e =>
    rw [hs] at h
    cases h
    exact checkSpan_error hs
  | ok u =>
    rw [hs] at h
    dsimp only at h
    split at h
    · cases h
      rfl
    · cases h

/-- Moving by months counts months exactly and lands in a month of the calendar, on the
same day or the month's last one. -/
theorem addMonths_ok (hm : 1 ≤ d.month) (h : d.addMonths n = .ok d') :
    d'.year * 12 + d'.month = d.year * 12 + d.month + n ∧ 1 ≤ d'.year ∧ d'.year ≤ 9999 ∧
      1 ≤ d'.month ∧ d'.month ≤ 12 ∧ d'.day = Nat.min d.day (daysInMonth d'.year d'.month) := by
  simp only [addMonths] at h
  split at h
  · cases h
  · cases h
    dsimp only
    refine ⟨?_, ?_, ?_, ?_, ?_, rfl⟩ <;> omega

theorem addMonths_error (h : d.addMonths n = .error err) : err.isCalendar = true := by
  simp only [addMonths] at h
  split at h
  · cases h
    rfl
  · cases h

/-- Every day of the month that moving forward by months lands in comes after the date it
started from, and is a date of the calendar. -/
theorem lt_of_addMonths {next : Date} (hd : d.isValid = true) (hn : 1 ≤ n)
    (h : d.addMonths n = .ok next) {day : Nat} (h1 : 1 ≤ day)
    (h2 : day ≤ daysInMonth next.year next.month) :
    d < ⟨next.year, next.month, day⟩ ∧ (⟨next.year, next.month, day⟩ : Date).isValid = true := by
  simp only [isValid, decide_eq_true_eq] at hd
  obtain ⟨hidx, hy1, hy2, hm1, hm2, -⟩ := addMonths_ok (by omega) h
  refine ⟨toOrdinal_lt_of_month_lt (by omega) (by omega) (by omega) h1 (by dsimp only; omega), ?_⟩
  simp only [isValid, decide_eq_true_eq]
  omega

end Shifts

end Date

end Billing
