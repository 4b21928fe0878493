import Billing.Error

/-! # Calendar dates

Dates of the proleptic Gregorian calendar from 0001-01-01 to 9999-12-31, numbered by their
ordinal (0001-01-01 is day 1). Adding days beyond either end is `dateOutOfRange`; moving by
whole months keeps the day of the month unless the target month is shorter, and a year
beyond 1 to 9999 is `yearOutOfRange`.

The examples below fix the numbering; `daysInMonth_pos` says that every month has a day. -/
namespace Billing

/-- A calendar date. -/
structure Date where
  year : Int
  month : Nat
  day : Nat
  deriving DecidableEq, Inhabited

namespace Date

/-- Leap years: divisible by 4, and by 400 when divisible by 100. -/
def isLeap (y : Int) : Bool := y % 4 = 0 ∧ (y % 100 ≠ 0 ∨ y % 400 = 0)

/-- The number of days of a month. -/
def daysInMonth (y : Int) (m : Nat) : Nat :=
  match m with
  | 2 => if isLeap y then 29 else 28
  | 4 | 6 | 9 | 11 => 30
  | _ => 31

theorem daysInMonth_pos (y : Int) (m : Nat) : 0 < daysInMonth y m := by
  unfold daysInMonth; split <;> (try split) <;> decide

/-- Days of the months before month `m`. -/
def daysBeforeMonth (y : Int) (m : Nat) : Nat :=
  ((List.range (m - 1)).map fun i => daysInMonth y (i + 1)).foldr (· + ·) 0

/-- Days of the years before year `y`. -/
def daysBeforeYear (y : Int) : Int :=
  let p := y - 1
  p * 365 + p / 4 - p / 100 + p / 400

/-- The ordinal of a date: 0001-01-01 is 1. -/
def toOrdinal (d : Date) : Int := daysBeforeYear d.year + daysBeforeMonth d.year d.month + d.day

/-- The ordinal of 0001-01-01. -/
def minOrdinal : Int := 1

/-- The ordinal of 9999-12-31. -/
def maxOrdinal : Int := 3652059

/-- The month and day of the `n`-th day (from 0) of a year, found by walking its months. -/
def monthDay (y : Int) (n : Nat) : Nat × Nat :=
  go 1 n 12
where
  go (m n : Nat) : Nat → Nat × Nat
    | 0 => (m, n + 1)
    | fuel + 1 => if n < daysInMonth y m then (m, n + 1) else go (m + 1) (n - daysInMonth y m) fuel

/-- The date of an ordinal: whole 400-, 100-, 4- and 1-year cycles first, then the months. -/
def ofOrdinal (ord : Int) : Date :=
  let n := ord - 1
  let n400 := n / 146097
  let n := n % 146097
  let n100 := n / 36524
  let n := n % 36524
  let n4 := n / 1461
  let n := n % 1461
  let n1 := n / 365
  let n := n % 365
  let year := n400 * 400 + 1 + n100 * 100 + n4 * 4 + n1
  if n1 = 4 ∨ n100 = 4 then ⟨year - 1, 12, 31⟩
  else
    let (m, d) := monthDay year n.toNat
    ⟨year, m, d⟩

example : ofOrdinal 1 = ⟨1, 1, 1⟩ := by decide
example : ofOrdinal 738945 = ⟨2024, 2, 29⟩ := by decide
example : (⟨2024, 2, 29⟩ : Date).toOrdinal = 738945 := by decide
example : ofOrdinal maxOrdinal = ⟨9999, 12, 31⟩ := by decide

/-- Checks the whole days of a duration: they must fit a 32-bit machine integer and lie
within 999999999 days either way. -/
def checkSpan (days : Int) : Outcome Unit :=
  if days < -2147483648 ∨ days > 2147483647 then .error .machineIntOverflow
  else if days < -999999999 ∨ days > 999999999 then .error (.durationDays days)
  else .ok ()

/-- The date `n` days later (earlier for negative `n`), within the calendar; `n` must be a
valid duration. -/
def addDays (d : Date) (n : Int) : Outcome Date := do
  checkSpan n
  let o := d.toOrdinal + n
  if o < minOrdinal ∨ o > maxOrdinal then .error .dateOutOfRange else .ok (ofOrdinal o)

/-- The number of days from `a` to `b`. -/
def daysUntil (a b : Date) : Int := b.toOrdinal - a.toOrdinal

/-- The date in the same day of a month `n` months later, or the month's last day when it is
shorter; the year must stay within 1 to 9999. -/
def addMonths (d : Date) (n : Int) : Outcome Date :=
  let total := (d.year * 12 + (d.month - 1 : Nat)) + n
  let year := total / 12
  let month := (total % 12).toNat + 1
  if year < 1 ∨ year > 9999 then .error (.yearOutOfRange year)
  else .ok ⟨year, month, Nat.min d.day (daysInMonth year month)⟩

/-- The same date in a month whose day is replaced, capped at the month's last day. -/
def withDayAtMost (d : Date) (day : Nat) : Date :=
  ⟨d.year, d.month, Nat.min day (daysInMonth d.year d.month)⟩

/-- Whether a year, month and day name a date of the calendar. -/
def isValid (d : Date) : Bool :=
  1 ≤ d.year ∧ d.year ≤ 9999 ∧ 1 ≤ d.month ∧ d.month ≤ 12 ∧ 1 ≤ d.day ∧
    d.day ≤ daysInMonth d.year d.month

/-- Chronological order. -/
def compareTo (a b : Date) : Ordering := compare a.toOrdinal b.toOrdinal

instance : LT Date := ⟨fun a b => a.toOrdinal < b.toOrdinal⟩
instance : LE Date := ⟨fun a b => a.toOrdinal ≤ b.toOrdinal⟩
instance (a b : Date) : Decidable (a < b) := inferInstanceAs (Decidable (a.toOrdinal < b.toOrdinal))
instance (a b : Date) : Decidable (a ≤ b) := inferInstanceAs (Decidable (a.toOrdinal ≤ b.toOrdinal))

/-- `n` written with at least `w` digits. -/
def padded (w : Nat) (n : Nat) : String :=
  let ds := Nat.toDigits 10 n
  String.ofList (List.replicate (w - ds.length) '0' ++ ds)

/-- `YYYY-MM-DD`. -/
def text (d : Date) : String :=
  padded 4 d.year.toNat ++ "-" ++ padded 2 d.month ++ "-" ++ padded 2 d.day

end Date

end Billing
