import Billing.Calendar.Date

/-! # Date and time of day

A date with a time of day to the microsecond, and optionally the offset of its time zone
from UTC. Times with offsets are compared by the instant they name; times without one by
their face value; comparing one of each is `naiveAwareComparison`. Text is ISO 8601:
`YYYY-MM-DDTHH:MM:SS[.ffffff][+HH:MM[:SS[.ffffff]]]`, with microseconds only when they are
not zero, and the offset's seconds only when it has some. -/
namespace Billing

/-- A date and time of day, with the UTC offset in microseconds when it is known. -/
structure DateTime where
  date : Date
  hour : Nat
  minute : Nat
  second : Nat
  micro : Nat
  offset : Option Int
  deriving DecidableEq, Inhabited

/-- Microseconds in a day. -/
def microsPerDay : Int := 86400000000

namespace DateTime

/-- Microseconds since 0001-01-01T00:00 on the face of the clock. -/
def localMicros (t : DateTime) : Int :=
  (t.date.toOrdinal - 1) * microsPerDay +
    ((((t.hour * 60 + t.minute) * 60 + t.second) * 1000000 + t.micro : Nat) : Int)

/-- The time whose face value is `m` microseconds, with an offset. -/
def ofLocalMicros (m : Int) (offset : Option Int) : DateTime :=
  let days := m / microsPerDay
  let rest := (m % microsPerDay).toNat
  let secs := rest / 1000000
  ⟨Date.ofOrdinal (days + 1), secs / 3600, secs / 60 % 60, secs % 60, rest % 1000000, offset⟩

/-- The time `d` microseconds later, within the calendar. -/
def addMicros (t : DateTime) (d : Int) : Outcome DateTime :=
  let m := t.localMicros + d
  let ord := m / microsPerDay + 1
  if ord < Date.minOrdinal ∨ ord > Date.maxOrdinal then .error .dateOutOfRange
  else .ok (ofLocalMicros m t.offset)

/-- A span of microseconds as a duration: its whole days, rounded down, must be a valid
span of days. -/
def checkDuration (us : Int) : Outcome Int := do
  Date.checkSpan (us / microsPerDay)
  pure us

/-- The time `n` days later; `n` must be a valid duration. -/
def addDays (t : DateTime) (n : Int) : Outcome DateTime := do
  t.addMicros (← checkDuration (n * microsPerDay))

/-- The time `m` whole minutes later. -/
def addMinutes (t : DateTime) (m : Int) : Outcome DateTime := do
  t.addMicros (← checkDuration (m * 60000000))

/-- The instant in microseconds, for a time with an offset. -/
def utcMicros (t : DateTime) : Int := t.localMicros - t.offset.getD 0

/-- Chronological order: by instant when both have offsets, by face value when neither
has; an error otherwise. -/
def compareTo (a b : DateTime) : Outcome Ordering :=
  match a.offset, b.offset with
  | some _, some _ => .ok (compare a.utcMicros b.utcMicros)
  | none, none => .ok (compare a.localMicros b.localMicros)
  | _, _ => .error .naiveAwareComparison

/-- `a < b`. -/
def lt (a b : DateTime) : Outcome Bool := (a.compareTo b).map (· = .lt)

/-- `a ≤ b`. -/
def le (a b : DateTime) : Outcome Bool := (a.compareTo b).map (· ≠ .gt)

/-- Whether two times name the same moment; one with an offset and one without never do. -/
def same (a b : DateTime) : Bool :=
  match a.compareTo b with
  | .ok o => o = .eq
  | .error _ => false

/-- The sign and `HH:MM[:SS[.ffffff]]` of an offset. -/
def offsetText (o : Int) : String :=
  let sign := if o < 0 then "-" else "+"
  let a := o.natAbs
  let secs := a / 1000000
  let us := a % 1000000
  sign ++ Date.padded 2 (secs / 3600) ++ ":" ++ Date.padded 2 (secs / 60 % 60) ++
    (if secs % 60 = 0 ∧ us = 0 then "" else ":" ++ Date.padded 2 (secs % 60)) ++
    (if us = 0 then "" else "." ++ Date.padded 6 us)

/-- `YYYY-MM-DDTHH:MM:SS[.ffffff][±HH:MM]`. -/
def text (t : DateTime) : String :=
  t.date.text ++ "T" ++ Date.padded 2 t.hour ++ ":" ++ Date.padded 2 t.minute ++ ":" ++
    Date.padded 2 t.second ++ (if t.micro = 0 then "" else "." ++ Date.padded 6 t.micro) ++
    (match t.offset with
     | some o => offsetText o
     | none => "")

/-- Midnight of a date, without an offset. -/
def ofDate (d : Date) : DateTime := ⟨d, 0, 0, 0, 0, none⟩

end DateTime

/-- Whole part of a double, toward zero. -/
def Float.wholePart (x : Float) : Int :=
  if x ≥ 0 then (x.floor.toUInt64.toNat : Int) else -((-x).floor.toUInt64.toNat : Int)

/-- `n · 2^e` rounded to the 53 significant bits of a double, to nearest with a tie to the
even neighbour, as a significand and an exponent. -/
def roundToDouble (n : Nat) (e : Int) : Nat × Int :=
  let extra := n.log2 + 1 - 53
  if extra = 0 then (n, e)
  else
    let q := n / Nat.pow 2 extra
    let rem := n % Nat.pow 2 extra
    let half := Nat.pow 2 (extra - 1)
    (if rem > half ∨ (rem = half ∧ q % 2 = 1) then q + 1 else q, e + extra)

/-- Microseconds in `m · 2^e` units of `perUnit` microseconds, as a duration is built from a
double: the whole units exactly, then the fraction times the unit rounded to a double, whose
own fraction is rounded to the nearest microsecond (a half to even). The fraction of a double
and the fraction of the product are exact in double arithmetic, and the product is below the
unit, so only the one rounding of the product to a double takes place. -/
def unitsMicros (m : Nat) (e : Int) (perUnit : Nat) : Nat :=
  if 0 ≤ e then m * Nat.pow 2 e.toNat * perUnit
  else
    let d := Nat.pow 2 (-e).toNat
    let (q, s) := roundToDouble (m % d * perUnit) e
    let den := Nat.pow 2 (-s).toNat
    let whole := m / d * perUnit + q * Nat.pow 2 s.toNat / den
    let rest := q * Nat.pow 2 s.toNat % den
    if 2 * rest < den then whole
    else if 2 * rest > den then whole + 1
    else if whole % 2 = 0 then whole else whole + 1

/-- Microseconds in `x` units of `perUnit` microseconds, as a duration is built from a double,
with the sign of `x`. An infinity or a NaN has no duration. -/
def Float.unitsToMicros (x : Float) (perUnit : Nat) : Outcome Int :=
  match Float.parts x with
  | .nan => .error .floatNanToInteger
  | .infinity _ => .error .floatInfinityToInteger
  | .finite neg m e _ =>
    let us : Int := unitsMicros m e perUnit
    .ok (if neg then -us else us)

/-- The time `x` minutes later, to the nearest microsecond. -/
def DateTime.addFloatMinutes (t : DateTime) (x : Float) : Outcome DateTime := do
  t.addMicros (← DateTime.checkDuration (← Float.unitsToMicros x 60000000))

/-- The time a number of days later, the number given as a value: an integer or a truth
value counts whole days, a double is taken to the nearest microsecond, and anything else
is not a number of days. -/
def DateTime.addDayCount (t : DateTime) (days : Value) : Outcome DateTime :=
  match days with
  | .int n => t.addDays n
  | .bool b => t.addDays (if b then 1 else 0)
  | .float x => do t.addMicros (← DateTime.checkDuration (← Float.unitsToMicros x 86400000000))
  | other => .error (.durationComponent "days" other.kindName)

end Billing
