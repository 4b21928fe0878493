import Billing.Cycle.Period
import Billing.Proofs.Calendar.Ordinal

/-! # Periods of a valid cycle

A cycle's next billing date is strictly later than the date it starts from, whatever the
cadence: days move the ordinal forward, months land in a later month (`nextDate_lt`). So
the period from a date, which ends the day before the next billing date, never ends before
it starts, and the period after a valid period is valid again (`nextPeriod_ok`). Forming a
period fails only when a date leaves the calendar (`nextPeriod_error`), never on the checks
of the period itself. -/
namespace Billing

/-- A cycle as its checks accept it: an interval of at least one day, an anchor from 1 to 31,
an anchor only on a monthly, quarterly or yearly cadence, and an interval on exactly the
custom cadence. -/
structure Cycle.Valid (c : Cycle) : Prop where
  interval_pos : ∀ n, c.intervalDays = some n → 1 ≤ n
  anchor_mem : ∀ a, c.anchorDay = some a → 1 ≤ a ∧ a ≤ 31
  anchored : (c.anchorDay.isNone || c.cadence.isAnchored) = true
  custom_iff : c.cadence = .custom ↔ c.intervalDays.isSome = true

/-- A period as its checks accept it: two dates of the calendar, the first not after the
second, and a cycle number of at least 1. -/
structure Period.Valid (p : Period) : Prop where
  start_valid : p.startDate.isValid = true
  end_valid : p.endDate.isValid = true
  ordered : p.startDate ≤ p.endDate
  numbered : 1 ≤ p.cycleNumber

namespace Cycle

variable {c : Cycle} {d d' : Date} {err : Error}

/-- The next billing date of a valid cycle is a later date of the calendar. -/
theorem nextDate_lt (hc : c.Valid) (hd : d.isValid = true) (h : c.nextDate d = .ok d') :
    d < d' ∧ d'.isValid = true := by
  -- daily, weekly and custom cycles move by a positive number of days
  have byDays : ∀ n : Int, 1 ≤ n → d.addDays n = .ok d' → d < d' ∧ d'.isValid = true := by
    intro n hn hadd
    obtain ⟨hord, hv⟩ := Date.addDays_ok hadd
    exact ⟨show d.toOrdinal < d'.toOrdinal by omega, hv⟩
  unfold nextDate at h
  split at h
  · exact byDays 1 (Int.le_refl 1) h
  · exact byDays 7 (by decide) h
  · rename_i hcad
    obtain ⟨n, hn⟩ := Option.isSome_iff_exists.mp (hc.custom_iff.mp hcad)
    rw [hn] at h
    exact byDays n (hc.interval_pos n hn) h
  -- the others move by whole months, then to the anchor day or the month's last day
  · rename_i hdaily hweekly hcustom
    have hk : 1 ≤ c.cadence.months := by
      cases hcad : c.cadence <;> simp_all [Cadence.months]
    simp only [bind, Except.bind] at h
    split at h
    · cases h
    · rename_i next hnext
      have hpos := Date.daysInMonth_pos next.year next.month
      have hday : 1 ≤ next.day ∧ next.day ≤ Date.daysInMonth next.year next.month := by
        obtain ⟨-, -, -, -, -, hday⟩ := Date.addMonths_ok (by simp [Date.isValid] at hd; omega) hnext
        simp only [Date.isValid, decide_eq_true_eq] at hd
        rw [hday]
        exact ⟨show 1 ≤ min _ _ by omega, Nat.min_le_right _ _⟩
      split at h
      · rename_i a ha
        split at h
        · cases h
          have := hc.anchor_mem a ha
          exact Date.lt_of_addMonths hd (by omega) hnext (show 1 ≤ min _ _ by omega)
            (Nat.min_le_right _ _)
        · cases h
          exact Date.lt_of_addMonths hd (by omega) hnext hday.1 hday.2
      · cases h
        exact Date.lt_of_addMonths hd (by omega) hnext hday.1 hday.2

/-- A next billing date fails only by leaving the calendar. -/
theorem nextDate_error (h : c.nextDate d = .error err) : err.isCalendar = true := by
  unfold nextDate at h
  split at h
  · exact Date.addDays_error h
  · exact Date.addDays_error h
  · exact Date.addDays_error h
  · simp only [bind, Except.bind] at h
    split at h
    · cases h
      exact Date.addMonths_error ‹_›
    · repeat' split at h
      all_goals cases h

variable {start : Date} {n : Int} {p q : Period}

/-- A period that can be formed from a date of the calendar is valid and starts there. -/
theorem period_ok (hs : start.isValid = true) (h : c.period start n = .ok p) :
    p.Valid ∧ p.startDate = start := by
  simp only [period, bind, Except.bind] at h
  split at h
  · cases h
  · split at h
    · cases h
    · rename_i stop hstop
      obtain ⟨-, hstopv⟩ := Date.addDays_ok hstop
      simp only [Period.make] at h
      split at h
      · cases h
      · split at h
        · cases h
        · rename_i hn hlt
          cases h
          exact ⟨⟨hs, hstopv, Int.not_lt.mp hlt, Int.not_lt.mp hn⟩, rfl⟩

/-- The period of a valid cycle from a date of the calendar fails only by leaving the
calendar: its end, the day before the next billing date, never comes before its start. -/
theorem period_error (hc : c.Valid) (hs : start.isValid = true) (hn : 1 ≤ n)
    (h : c.period start n = .error err) : err.isCalendar = true := by
  simp only [period, bind, Except.bind] at h
  split at h
  · cases h
    exact nextDate_error ‹_›
  · rename_i next hnext
    split at h
    · cases h
      exact Date.addDays_error ‹_›
    · rename_i stop hstop
      have hlater : start.toOrdinal < next.toOrdinal := (nextDate_lt hc hs hnext).1
      have hord := (Date.addDays_ok hstop).1
      simp only [Period.make] at h
      split at h
      · omega
      · split at h
        · rename_i hlt
          exact absurd hlt (show ¬stop.toOrdinal < start.toOrdinal by omega)
        · cases h

/-- The period after a valid period is valid and starts later. -/
theorem nextPeriod_ok (hc : c.Valid) (hp : p.Valid) (h : c.nextPeriod p = .ok q) :
    q.Valid ∧ p.startDate < q.startDate := by
  simp only [nextPeriod, bind, Except.bind] at h
  split at h
  · cases h
  · rename_i start hstart
    obtain ⟨hlt, hv⟩ := nextDate_lt hc hp.start_valid hstart
    obtain ⟨hq, hqs⟩ := period_ok hv h
    exact ⟨hq, hqs ▸ hlt⟩

/-- The period after a valid period fails only by leaving the calendar. -/
theorem nextPeriod_error (hc : c.Valid) (hp : p.Valid) (h : c.nextPeriod p = .error err) :
    err.isCalendar = true := by
  simp only [nextPeriod, bind, Except.bind] at h
  split at h
  · cases h
    exact nextDate_error ‹_›
  · rename_i start hstart
    have hn := hp.numbered
    exact period_error hc (nextDate_lt hc hp.start_valid hstart).2 (by omega) h

end Cycle

end Billing
