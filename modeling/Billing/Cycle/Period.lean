import Billing.Cycle.Basic
import Billing.Money.Basic

/-! # Billing periods and proration

A period is a closed range of billing days with its cycle number. The period that starts
on a date ends the day before the cycle's next billing date, so consecutive periods neither
overlap nor leave a gap. A part of a period is charged in proportion to its days, over the
cadence's average length or over the period's real length.

Main statements: `duration_pos`, a period has at least one day, and `chain_length`, a chain
of periods has as many periods as asked for, and at least one. -/
namespace Billing

/-- A closed range of billing days and its number in the subscription's life. -/
structure Period where
  startDate : Date
  endDate : Date
  cycleNumber : Int
  deriving DecidableEq, Inhabited

namespace Period

/-- Checks a period's cycle number (at least 1) and that it does not end before it
starts. -/
def check (start stop : Date) (number : Value) : Checked Period := do
  let n ← Checked.field "cycle_number" (Field.int number >>= Field.atLeast 1)
  Checked.rule (decide (start ≤ stop)) "Start date must not be after end date" ⟨start, stop, n⟩

/-- A period from a record: `start_date` and `end_date` are required ISO dates, read in
that order, and `cycle_number` is 1 when absent. -/
def ofRecord (r : Value) : Outcome Period := do
  let start ← (← Field.need r "start_date").isoDate
  let stop ← (← Field.need r "end_date").isoDate
  (check start stop (Field.entry r "cycle_number" (.int 1))).run

/-- The number of billed days, both ends included. -/
def duration (p : Period) : Int := Date.daysUntil p.startDate p.endDate + 1

theorem duration_pos (p : Period) (h : p.startDate ≤ p.endDate) : 0 < p.duration := by
  unfold duration Date.daysUntil
  have : p.startDate.toOrdinal ≤ p.endDate.toOrdinal := h
  omega

/-- Whether a day lies in the period. -/
def contains (p : Period) (d : Date) : Bool := decide (p.startDate ≤ d) && decide (d ≤ p.endDate)

/-- Days left in the period counting `d` itself: all of them before it starts, none after. -/
def remainingDays (p : Period) (d : Date) : Int :=
  if p.endDate < d then 0
  else if d < p.startDate then p.duration
  else Date.daysUntil d p.endDate + 1

/-- Whether the period is over on day `d`. -/
def isExpired (p : Period) (d : Date) : Bool := decide (p.endDate < d)

/-- Whether at most `threshold` days, and at least one, are left on day `d`. -/
def isExpiringSoon (p : Period) (d : Date) (threshold : Int) : Bool :=
  let r := p.remainingDays d
  0 < r && r ≤ threshold

/-- Whether at least one day, and at most `threshold` days, are left on day `d`, for a
threshold given as a value: a number is compared exactly, and anything else cannot be
compared once days are left. -/
def isExpiringSoonBy (p : Period) (d : Date) (threshold : Value) : Outcome Bool :=
  let r := p.remainingDays d
  if r ≤ 0 then .ok false
  else
    match threshold with
    | .int n => .ok (r ≤ n)
    | .bool b => .ok (r ≤ (if b then 1 else 0))
    | .float x => .ok (!x.isNaN && Float.compareInt x r != .lt)
    | other => .error (.unordered "<=" "int" other.kindName)

/-- A period from its days and number: a number below 1 or an end before the start is
refused. -/
def make (start stop : Date) (number : Int) : Outcome Period :=
  if number < 1 then .error (Error.issue ["cycle_number"] .greaterThanEqual)
  else if stop < start then .error (Error.issue [] (.rule "Start date must not be after end date"))
  else .ok ⟨start, stop, number⟩

/-- The record form of a period. -/
def toValue (p : Period) : Value :=
  .dict [("start_date", .str p.startDate.text), ("end_date", .str p.endDate.text),
    ("cycle_number", .int p.cycleNumber)]

end Period

namespace Cycle

/-- The period starting on a day: it ends the day before the next billing date. -/
def period (c : Cycle) (start : Date) (number : Int) : Outcome Period := do
  let next ← c.nextDate start
  Period.make start (← next.addDays (-1)) number

/-- The period right after `p`, numbered one higher. -/
def nextPeriod (c : Cycle) (p : Period) : Outcome Period := do
  c.period (← c.nextDate p.startDate) (p.cycleNumber + 1)

/-- `p` and the `n` periods after it, each numbered one higher than the one before. -/
def periodsFrom (c : Cycle) (p : Period) : Nat → Outcome (List Period)
  | 0 => pure [p]
  | n + 1 => do pure (p :: (← c.periodsFrom (← c.nextPeriod p) n))

/-- The first `count` periods from `start`, numbered from 1; the first period is always
there, and no period after the last one is computed. -/
def chain (c : Cycle) (start : Date) (count : Int) : Outcome (List Period) := do
  c.periodsFrom (← c.period start 1) (count - 1).toNat

/-- How many periods follow the first when `count` periods are asked for by a value: an
integer (or a truth value, as 1 or 0) less one, none when that is below zero. A fraction
cannot count periods, and a value that is not a number cannot be lessened by one. -/
def laterCount (count : Value) : Outcome Nat :=
  match count with
  | .int n => .ok (n - 1).toNat
  | .bool _ => .ok 0
  | .float _ => .error (.arguments (Text.quote "float" ++ " object cannot be interpreted as an integer"))
  | other => .error (.operands "-" other.kindName "int")

/-- The periods from `start` for a count given as a value: the first period is worked out
before the count is read. -/
def chainBy (c : Cycle) (start : Date) (count : Value) : Outcome (List Period) := do
  let first ← c.period start 1
  c.periodsFrom first (← laterCount count)

theorem periodsFrom_length (c : Cycle) (p : Period) (n : Nat) (ps : List Period)
    (h : c.periodsFrom p n = .ok ps) : ps.length = n + 1 := by
  induction n generalizing p ps with
  | zero =>
    simp only [periodsFrom, pure, Except.pure, Except.ok.injEq] at h
    subst h
    rfl
  | succ n ih =>
    simp only [periodsFrom, bind, Except.bind, pure, Except.pure] at h
    split at h
    · cases h
    · split at h
      · cases h
      · rename_i rest hrest
        cases h
        simp [ih _ _ hrest]

theorem chain_length (c : Cycle) (start : Date) (count : Int) (ps : List Period)
    (h : c.chain start count = .ok ps) : ps.length = (count - 1).toNat + 1 := by
  simp only [chain, bind, Except.bind] at h
  split at h
  · cases h
  · exact periodsFrom_length c _ _ ps h

/-- The charge for the days from `start` up to `stop` (not included): the amount times the
days over the cadence's average length, or over the length of `period` (by default the
period starting at `start`) for exact proration. Nothing when `stop` is not later. -/
def proration (c : Cycle) (start stop : Date) (amount : Money) (method : ProrationMethod)
    (period : Option Period) : Outcome Money := do
  let days := Date.daysUntil start stop
  if days ≤ 0 then Money.zero (.str amount.currency)
  else
    let denominator ← match method with
      | .exact =>
        match period with
        | some p => pure p.duration
        | none => do pure (← c.period start 1).duration
      | .cadenceAverage => pure c.totalDays
    let part ← decimalOutcome (Decimal.mul moneyContext (Decimal.ofInt amount.amount) (Decimal.ofInt days))
    let share ← decimalOutcome (Decimal.div moneyContext part (Decimal.ofInt denominator))
    Money.ofDecimal share (.str amount.currency)

/-- The value of the rest of a period from day `d` on; nothing once no day remains. -/
def prorateRemaining (c : Cycle) (p : Period) (d : Date) (amount : Money)
    (method : ProrationMethod) : Outcome Money := do
  let remaining := p.remainingDays d
  if remaining ≤ 0 then Money.zero (.str amount.currency)
  else
    let day := if d < p.startDate then p.startDate else d
    c.proration day (← day.addDays remaining) amount method (some p)

end Cycle

end Billing
