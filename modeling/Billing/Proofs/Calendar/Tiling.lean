import Billing.Proofs.Calendar.Periods

/-! # Periods tile the calendar

A period as a cycle lays it out ends the day before the cycle's next billing date after its
start (`Period.Aligned`); forming a period and moving to the next one both lay periods out
so. Two such periods in a row leave no gap and do not overlap: the day after the first ends
is the day the second starts (`Period.Aligned.adjacent`). So the chain of periods of a valid
cycle from a date of the calendar tiles the calendar, numbered one after another
(`chain_tiles`).

An anchored cycle does not drift. Its next billing date lies exactly one, three or twelve
months later, on the anchor day or on the last day of a shorter month (`nextDate_anchored`),
and it fails only when that month lies beyond the year 9999. So the `k`-th period of its
chain starts `k` steps of months after the first, on the anchor day clamped to that month
(`chain_anchored`): a short month does not pull the later ones back. -/
namespace Billing

namespace Date

variable {a b d d' : Date}

/-- The number of the month of a date, counted from a month before the first of year 0. -/
def monthIndex (d : Date) : Int := d.year * 12 + d.month

/-- Every date of the calendar has an ordinal within the calendar's. -/
theorem toOrdinal_mem (hd : d.isValid = true) : minOrdinal ≤ d.toOrdinal ∧ d.toOrdinal ≤ maxOrdinal := by
  simp only [isValid, decide_eq_true_eq] at hd
  obtain ⟨hy1, hy2, hm1, hm2, hd1, hdim⟩ := hd
  constructor
  · -- no year before the first has days, and the day counts from one
    have hy : daysBeforeYear 1 ≤ daysBeforeYear d.year := daysBeforeYear_mono hy1
    have h1 : daysBeforeYear 1 = 0 := by simp [daysBeforeYear]
    simp only [toOrdinal, minOrdinal]
    omega
  · -- the last day of the calendar comes after every other day
    have hlast : (⟨9999, 12, 31⟩ : Date).toOrdinal = maxOrdinal := by
      rw [toOrdinal_lastDay]
      simp [daysBeforeYear, maxOrdinal]
    by_cases hend : d.year = 9999 ∧ d.month = 12
    · have hdays : d.day ≤ 31 := by
        rw [hend.2] at hdim
        simpa [daysInMonth] using hdim
      rw [← hlast]
      simp only [toOrdinal, hend.1, hend.2]
      omega
    · rw [← hlast]
      exact Int.le_of_lt (toOrdinal_lt_of_month_lt hm1 hm2 hdim (by decide) (by dsimp only; omega))

theorem one_le_month (hd : d.isValid = true) : 1 ≤ d.month := by
  simp only [isValid, decide_eq_true_eq] at hd
  exact hd.2.2.1

/-- Dates of the calendar are told apart by their ordinals. -/
theorem toOrdinal_inj (ha : a.isValid = true) (hb : b.isValid = true) (h : a.toOrdinal = b.toOrdinal) :
    a = b := by
  have ha' := ha
  have hb' := hb
  simp only [isValid, decide_eq_true_eq] at ha' hb'
  -- a date in an earlier month would have a smaller ordinal
  have hmonth : a.year = b.year ∧ a.month = b.month := by
    by_contra hne
    rcases Int.lt_or_gt_of_ne (show a.year * 12 + a.month ≠ b.year * 12 + b.month by omega) with hlt | hlt
    · have := toOrdinal_lt_of_month_lt (a := a) (b := b) (by omega) (by omega) (by omega) (by omega) (by omega)
      omega
    · have := toOrdinal_lt_of_month_lt (a := b) (b := a) (by omega) (by omega) (by omega) (by omega) (by omega)
      omega
  obtain ⟨ay, am, ad⟩ := a
  obtain ⟨by', bm, bd⟩ := b
  obtain ⟨rfl, rfl⟩ := hmonth
  simp only [toOrdinal] at h
  have : ad = bd := by omega
  rw [this]

/-- Moving a date of the calendar by a span of days lands on the date of the calendar whose
ordinal is that many days further. -/
theorem addDays_of_toOrdinal {n : Int} (hd' : d'.isValid = true)
    (h : d'.toOrdinal = d.toOrdinal + n) (hn : -999999999 ≤ n ∧ n ≤ 999999999) :
    d.addDays n = .ok d' := by
  obtain ⟨hmin, hmax⟩ := toOrdinal_mem hd'
  have hback : ofOrdinal d'.toOrdinal = d' := by
    obtain ⟨hord, hvalid⟩ := ofOrdinal_spec hmin hmax
    exact toOrdinal_inj hvalid hd' hord
  have hspan : checkSpan n = .ok () := by
    simp only [checkSpan]
    split
    · omega
    · split
      · omega
      · rfl
  simp only [addDays, hspan, bind, Except.bind]
  split
  · rename_i hout
    simp only [minOrdinal, maxOrdinal] at hout hmin hmax
    omega
  · rw [← h, hback]

end Date

/-- A period as its cycle lays it out: it ends the day before the cycle's next billing date
after its start. -/
def Period.Aligned (c : Cycle) (p : Period) : Prop :=
  ∃ next, c.nextDate p.startDate = .ok next ∧ next.addDays (-1) = .ok p.endDate

namespace Cycle

variable {c : Cycle} {start d d' : Date} {n A : Int} {p q : Period} {err : Error}

/-- A period formed from a date starts there, with the number asked for, and is laid out by
its cycle. -/
theorem period_spec (h : c.period start n = .ok p) :
    p.Aligned c ∧ p.startDate = start ∧ p.cycleNumber = n := by
  simp only [period, bind, Except.bind] at h
  split at h
  · cases h
  · rename_i next hnext
    split at h
    · cases h
    · rename_i stop hstop
      simp only [Period.make] at h
      split at h
      · cases h
      · split at h
        · cases h
        · cases h
          exact ⟨⟨next, hnext, hstop⟩, rfl, rfl⟩

/-- The period after `p` is laid out by the cycle, starts on the next billing date after
`p` starts, and is numbered one higher. -/
theorem nextPeriod_spec (h : c.nextPeriod p = .ok q) :
    q.Aligned c ∧ c.nextDate p.startDate = .ok q.startDate ∧ q.cycleNumber = p.cycleNumber + 1 := by
  simp only [nextPeriod, bind, Except.bind] at h
  split at h
  · cases h
  · rename_i next hnext
    obtain ⟨hq, hstart, hnum⟩ := period_spec h
    exact ⟨hq, hstart ▸ hnext, hnum⟩

end Cycle

/-- Two periods of a valid cycle in a row neither overlap nor leave a gap: the second starts
the day after the first ends. -/
theorem Period.Aligned.adjacent {c : Cycle} {p q : Period} (hc : c.Valid) (hp : p.Valid)
    (ha : p.Aligned c) (h : c.nextPeriod p = .ok q) : p.endDate.addDays 1 = .ok q.startDate := by
  obtain ⟨next, hnext, hend⟩ := ha
  obtain ⟨-, hstart, -⟩ := Cycle.nextPeriod_spec h
  rw [hnext] at hstart
  cases hstart
  have hvalid := (Cycle.nextDate_lt hc hp.start_valid hnext).2
  have hord := (Date.addDays_ok hend).1
  exact Date.addDays_of_toOrdinal hvalid (by omega) (by decide)

namespace Cycle

variable {c : Cycle} {start d d' : Date} {A count : Int} {p : Period} {ps : List Period} {err : Error}

/-- Only a monthly, quarterly or yearly cycle carries an anchor day. -/
theorem Valid.isAnchored (hc : c.Valid) (hA : c.anchorDay = some A) : c.cadence.isAnchored = true := by
  have h := hc.anchored
  rw [hA] at h
  simpa using h

/-- The next billing date of an anchored cycle lies exactly its cadence's months later, on
the anchor day or, in a shorter month, on that month's last day. -/
theorem nextDate_anchored (hcad : c.cadence.isAnchored = true) (hA : c.anchorDay = some A)
    (hA1 : 1 ≤ A) (hm : 1 ≤ d.month) (h : c.nextDate d = .ok d') :
    d'.monthIndex = d.monthIndex + c.cadence.months ∧
      (d'.day : Int) = min A (Date.daysInMonth d'.year d'.month) := by
  unfold nextDate at h
  split at h
  all_goals try (rename_i hc; rw [hc] at hcad; cases hcad)
  simp only [bind, Except.bind] at h
  split at h
  · cases h
  · rename_i next hnext
    obtain ⟨hidx, -, -, -, -, -⟩ := Date.addMonths_ok hm hnext
    rw [hA] at h
    have hA0 : A ≠ 0 := by omega
    simp only [ne_eq, hA0, not_false_eq_true, if_true, pure, Except.pure, Except.ok.injEq] at h
    subst h
    refine ⟨?_, ?_⟩
    · simp only [Date.monthIndex, Date.withDayAtMost]
      omega
    · simp only [Date.withDayAtMost, Nat.min_def]
      split <;> omega

/-- The next billing date of an anchored cycle fails only when the month it would lie in is
beyond the year 9999. -/
theorem nextDate_anchored_error (hcad : c.cadence.isAnchored = true) (hd : d.isValid = true)
    (h : c.nextDate d = .error err) : 9999 < (d.monthIndex - 1 + c.cadence.months) / 12 := by
  simp only [Date.isValid, decide_eq_true_eq] at hd
  unfold nextDate at h
  split at h
  all_goals try (rename_i hc; rw [hc] at hcad; cases hcad)
  simp only [bind, Except.bind] at h
  split at h
  · rename_i e hmonths
    simp only [Date.addMonths] at hmonths
    split at hmonths
    · simp only [Date.monthIndex]
      omega
    · cases hmonths
  · repeat' split at h
    all_goals cases h

/-- A chain of periods from a valid period laid out by a valid cycle: every period is valid
and laid out by the cycle, and each one after the first is the next period of the one
before it, starting the day after that one ends. -/
theorem periodsFrom_tiles (hc : c.Valid) : ∀ (k : Nat) {p : Period} {ps : List Period},
    p.Valid → p.Aligned c → c.periodsFrom p k = .ok ps →
    ps.head? = some p ∧ (∀ q ∈ ps, q.Valid ∧ q.Aligned c) ∧
      ∀ i (hi : i < ps.length) (hj : i + 1 < ps.length), c.nextPeriod ps[i] = .ok ps[i + 1] ∧
        ps[i].endDate.addDays 1 = .ok ps[i + 1].startDate
  | 0, p, ps, hp, ha, h => by
    simp only [periodsFrom, pure, Except.pure, Except.ok.injEq] at h
    subst h
    refine ⟨rfl, fun q hq => ?_, fun i _ hj => absurd hj (by simp)⟩
    rw [List.mem_singleton] at hq
    exact hq ▸ ⟨hp, ha⟩
  | k + 1, p, ps, hp, ha, h => by
    simp only [periodsFrom, bind, Except.bind, pure, Except.pure] at h
    split at h
    · cases h
    · rename_i q hq
      split at h
      · cases h
      · rename_i rest hrest
        cases h
        -- the rest of the chain starts at the next period, which is valid and laid out again
        have hqv := (nextPeriod_ok hc hp hq).1
        have hqa := (nextPeriod_spec hq).1
        obtain ⟨hhead, hall, hnext⟩ := periodsFrom_tiles hc k hqv hqa hrest
        cases rest with
        | nil => cases hhead
        | cons r rest' =>
          simp only [List.head?_cons, Option.some.injEq] at hhead
          subst hhead
          refine ⟨rfl, ?_, ?_⟩
          · intro x hx
            rcases List.mem_cons.mp hx with rfl | hx
            · exact ⟨hp, ha⟩
            · exact hall x hx
          · intro i hi hj
            cases i with
            | zero => exact ⟨hq, ha.adjacent hc hp hq⟩
            | succ i => exact hnext i (by simpa using hi) (by simpa using hj)

/-- A chain from a valid period fails only by leaving the calendar. -/
theorem periodsFrom_error (hc : c.Valid) : ∀ (k : Nat) {p : Period},
    p.Valid → c.periodsFrom p k = .error err → err.isCalendar = true
  | 0, p, hp, h => by
    simp [periodsFrom, pure, Except.pure] at h
  | k + 1, p, hp, h => by
    simp only [periodsFrom, bind, Except.bind, pure, Except.pure] at h
    split at h
    · cases h
      exact nextPeriod_error hc hp ‹_›
    · rename_i q hq
      split at h
      · cases h
        exact periodsFrom_error hc k (nextPeriod_ok hc hp hq).1 ‹_›
      · cases h

/-- The chain of periods of a valid cycle from a date of the calendar starts with the period
from that date, numbered 1; its periods are valid and laid out by the cycle, and each one
after the first is the next period of the one before it, starting the day after that one
ends. -/
theorem chain_tiles (hc : c.Valid) (hs : start.isValid = true) (h : c.chain start count = .ok ps) :
    (∃ p, c.period start 1 = .ok p ∧ ps.head? = some p) ∧ (∀ q ∈ ps, q.Valid ∧ q.Aligned c) ∧
      ∀ i (hi : i < ps.length) (hj : i + 1 < ps.length), c.nextPeriod ps[i] = .ok ps[i + 1] ∧
        ps[i].endDate.addDays 1 = .ok ps[i + 1].startDate := by
  simp only [chain, bind, Except.bind] at h
  split at h
  · cases h
  · rename_i p hp
    obtain ⟨hhead, hall, hnext⟩ :=
      periodsFrom_tiles hc _ (period_ok hs hp).1 (period_spec hp).1 h
    exact ⟨⟨p, hp, hhead⟩, hall, hnext⟩

/-- The chain of periods of a valid cycle from a date of the calendar fails only by leaving
the calendar. -/
theorem chain_error (hc : c.Valid) (hs : start.isValid = true) (h : c.chain start count = .error err) :
    err.isCalendar = true := by
  simp only [chain, bind, Except.bind] at h
  split at h
  · cases h
    exact period_error hc hs (Int.le_refl 1) ‹_›
  · rename_i p hp
    exact periodsFrom_error hc _ (period_ok hs hp).1 h

/-- An anchored cycle does not drift: the `i`-th period of its chain from a date of the
calendar starts `i` steps of the cadence's months after that date's month, and after the
first on the anchor day, or on the last day of a shorter month. -/
theorem chain_anchored (hc : c.Valid) (hA : c.anchorDay = some A)
    (hs : start.isValid = true) (h : c.chain start count = .ok ps) :
    ∀ i (hi : i < ps.length), ps[i].startDate.monthIndex = start.monthIndex + i * c.cadence.months ∧
      (1 ≤ i → (ps[i].startDate.day : Int) =
        min A (Date.daysInMonth ps[i].startDate.year ps[i].startDate.month)) := by
  obtain ⟨⟨p, hp, hhead⟩, hall, hnext⟩ := chain_tiles hc hs h
  have hcad := hc.isAnchored hA
  have hA1 := (hc.anchor_mem A hA).1
  -- each start date is the next billing date after the one before
  have hstep : ∀ i (hi : i + 1 < ps.length),
      ps[i + 1].startDate.monthIndex = ps[i].startDate.monthIndex + c.cadence.months ∧
        (ps[i + 1].startDate.day : Int) =
          min A (Date.daysInMonth ps[i + 1].startDate.year ps[i + 1].startDate.month) := by
    intro i hi
    have hm := Date.one_le_month (hall ps[i] (List.getElem_mem _)).1.start_valid
    exact nextDate_anchored hcad hA hA1 hm (nextPeriod_spec (hnext i (by omega) hi).1).2.1
  intro i hi
  induction i with
  | zero =>
    have h0 : ps[0] = p := by
      rw [List.head?_eq_getElem?, List.getElem?_eq_getElem hi, Option.some.injEq] at hhead
      exact hhead
    rw [h0, (period_spec hp).2.1]
    simp
  | succ i ih =>
    obtain ⟨hidx, hday⟩ := hstep i hi
    refine ⟨?_, fun _ => hday⟩
    rw [hidx, (ih (by omega)).1]
    push_cast
    ring

end Cycle

end Billing
