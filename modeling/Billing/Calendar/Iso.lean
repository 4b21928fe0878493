import Billing.Calendar.DateTime

/-! # Reading ISO 8601 dates and times

Text is read byte by byte in UTF-8, with a NUL past its end. A date alone is 7, 8 or 10
bytes: `YYYY-MM-DD` or `YYYYMMDD`, or an ISO week date `YYYY-Www[-D]` or `YYYYWww[D]`,
whose missing weekday is Monday. A date and time is a date, one separator character and a time;
where the date ends is read off its fifth to eleventh bytes, since the date forms differ
there. A time is a clock, then an optional offset: `Z`, or a sign and a clock. A clock is
`HH[:MM[:SS]]` or `HH[MM[SS]]`, then a fraction after `.` or `,` whose first six digits
count. Bytes left over after a clock are refused, unless an offset follows.

Text that does not fit is `invalidIsoText`. Week dates of year 0 fall before the first
day of the calendar and so have no month. A zero offset is UTC, whatever its fraction;
any other offset must be less than a day either way, else `offsetOutOfRange`. Then the
fields are checked in order: year, month, day, hour, minute, second.

Main statements: `weekDate_monday`, the first day of week 1 is a Monday, and the examples
that fix each form. -/
namespace Billing

namespace Iso

/-- Byte `i` of `b`; NUL past the end. -/
def byteAt (b : ByteArray) (i : Nat) : Nat := (b.data.getD i 0).toNat

/-- Whether a byte is an ASCII digit. -/
def isDigit (c : Nat) : Bool := 48 ≤ c && c ≤ 57

/-- The value of the `n` ASCII digits from byte `i` on. -/
def digitsAt (b : ByteArray) (i : Nat) : Nat → Option Nat
  | 0 => some 0
  | n + 1 => do
    let v ← digitsAt b i n
    let c := byteAt b (i + n)
    if isDigit c then some (10 * v + (c - 48)) else none

/-- The number of ASCII digits from byte `i` on. -/
def digitRun (b : ByteArray) (i : Nat) : Nat :=
  ((List.range (b.size - i)).map fun k => byteAt b (i + k)).takeWhile isDigit |>.length

/-- The weekday of an ordinal, 0 for Monday. -/
def weekday (ord : Int) : Int := (ord + 6) % 7

/-- The ordinal of the Monday of ISO week 1 of a year: the Monday on or before January 1
when that is a Monday to Thursday, the Monday after it otherwise. -/
def weekOneMonday (year : Int) : Int :=
  let jan1 := Date.toOrdinal ⟨year, 1, 1⟩
  jan1 - weekday jan1 + (if weekday jan1 > 3 then 7 else 0)

/-- The date of weekday `day` of ISO week `week` of `year`. The year must be 1 to 9999, the
week must exist (week 53 only in a year that starts on a Thursday, or a leap year that
starts on a Wednesday) and the day must be 1 to 7. -/
def weekDate (year week day : Nat) : Option Date :=
  if year < 1 ∨ year > 9999 then none
  else
    let w := weekday (Date.toOrdinal ⟨year, 1, 1⟩)
    let longYear := w = 3 ∨ (w = 2 ∧ Date.isLeap year)
    if week < 1 ∨ week > 53 ∨ (week = 53 ∧ ¬longYear) then none
    else if day < 1 ∨ day > 7 then none
    else some (Date.ofOrdinal (weekOneMonday year + ((week - 1) * 7 + day - 1 : Nat)))

theorem weekDate_monday (year : Nat) (h1 : 1 ≤ year) (h2 : year ≤ 9999) :
    weekDate year 1 1 = some (Date.ofOrdinal (weekOneMonday year)) := by
  unfold weekDate
  rw [if_neg (by omega)]
  simp

/-- The year, month and day of the date in the first `len` bytes, not yet checked. -/
def dateFields (b : ByteArray) (len : Nat) : Option (Int × Nat × Nat) := do
  let year ← digitsAt b 0 4
  let dashed := byteAt b 4 = '-'.toNat
  let p := if dashed then 5 else 4
  if byteAt b p = 'W'.toNat then
    let week ← digitsAt b (p + 1) 2
    let q := p + 3
    let day ← if q < len then
        if dashed then (if byteAt b q = '-'.toNat then digitsAt b (q + 1) 1 else none)
        else digitsAt b q 1
      else some 1
    if year = 0 then
      -- Week dates of year 0 run up to the last day before the calendar starts, where the
      -- month of year 1 comes out below 1; only weeks 1 to 52 of it are read.
      if week < 1 ∨ week > 52 ∨ day < 1 ∨ day > 7 then none else some (1, 0, 0)
    else
      let d ← weekDate year week day
      some (d.year, d.month, d.day)
  else
    let month ← digitsAt b p 2
    let q := p + 2
    let r ← if dashed then (if byteAt b q = '-'.toNat then some (q + 1) else none) else some q
    let day ← digitsAt b r 2
    some (year, month, day)

/-- Checks a year, month and day. -/
def checkDate (y : Int) (m d : Nat) : Outcome Date :=
  if y < 1 ∨ y > 9999 then .error (.yearOutOfRange y)
  else if m < 1 ∨ m > 12 then .error (.calendarField "month must be in 1..12")
  else if d < 1 ∨ d > Date.daysInMonth y m then .error (.calendarField "day is out of range for month")
  else .ok ⟨y, m, d⟩

/-- The bytes of the separator whose UTF-8 encoding starts with byte `c`, told by its lead
byte alone. -/
def separatorWidth (c : Nat) : Nat :=
  if c < 0x80 then 1
  else if c / 16 = 0xe then 3
  else if c / 16 = 0xf then 4
  else 2

/-- Where the date of a date and time of `len` bytes ends: after 10 bytes for `YYYY-MM-DD`,
after 8 for `YYYYMMDD` and `YYYY-Www`, and for week dates as the digits after the week
show; `none` where no date form fits. -/
def separatorAt (b : ByteArray) (len : Nat) : Option Nat :=
  if len = 7 then some 7
  else if byteAt b 4 = '-'.toNat then
    if byteAt b 5 = 'W'.toNat then
      if len < 8 then none
      else if len > 8 ∧ byteAt b 8 = '-'.toNat then
        if len = 9 then none
        else if len > 10 ∧ isDigit (byteAt b 10) then some 8
        else some 10
      else some 8
    else some 10
  else if byteAt b 4 = 'W'.toNat then
    let idx := 7 + (((List.range (len - 7)).map fun k => byteAt b (7 + k)).takeWhile isDigit).length
    if idx < 9 then some idx
    else if idx % 2 = 0 then some 7 else some 8
  else some 8

/-- A clock: hour, minute, second, microsecond, and whether a byte other than NUL followed
it. -/
structure Clock where
  hour : Nat
  minute : Nat
  second : Nat
  micro : Nat
  trailing : Bool

/-- What follows a field of two digits. -/
inductive Next where
  /-- The clock ends; whether the byte read was not NUL. -/
  | done (trailing : Bool)
  /-- The next field starts at a byte. -/
  | field (p : Nat)
  /-- The fraction starts at a byte. -/
  | fraction (p : Nat)
  /-- A separator where none belongs. -/
  | bad

/-- What follows the field ending at byte `q` of a clock that ends at `stop`: with colons
(`colons`) the next field comes after a colon, without them right away; a point or comma
starts the fraction. -/
def next (b : ByteArray) (stop : Nat) (colons : Bool) (q : Nat) : Next :=
  let c := byteAt b q
  if q + 1 ≥ stop then .done (c ≠ 0)
  else if colons ∧ c = ':'.toNat then .field (q + 1)
  else if c = '.'.toNat ∨ c = ','.toNat then .fraction (q + 1)
  else if ¬colons then .field q
  else .bad

/-- A fraction from byte `p`, up to six digits before `stop` counted, more digits skipped:
its microseconds, and whether a byte other than NUL follows it. -/
def fractionAt (b : ByteArray) (p stop : Nat) : Option (Nat × Bool) := do
  let n := Nat.min (stop - p) 6
  let v ← digitsAt b p n
  let rest := p + n + digitRun b (p + n)
  some (v * Nat.pow 10 (6 - n), byteAt b rest ≠ 0)

/-- The clock from byte `start`, ending at `stop`. -/
def clockAt (b : ByteArray) (start stop : Nat) : Option Clock := do
  let h ← digitsAt b start 2
  let colons := byteAt b (start + 2) = ':'.toNat
  let withFraction (m s p : Nat) : Option Clock := do
    let (us, t) ← fractionAt b p stop
    some ⟨h, m, s, us, t⟩
  match next b stop colons (start + 2) with
  | .done t => some ⟨h, 0, 0, 0, t⟩
  | .bad => none
  | .fraction p => withFraction 0 0 p
  | .field p =>
    let m ← digitsAt b p 2
    match next b stop colons (p + 2) with
    | .done t => some ⟨h, m, 0, 0, t⟩
    | .bad => none
    | .fraction p => withFraction m 0 p
    | .field p =>
      let s ← digitsAt b p 2
      match next b stop colons (p + 2) with
      | .done t => some ⟨h, m, s, 0, t⟩
      | .bad => none
      | .fraction p | .field p => withFraction m s p

/-- Whether a byte starts an offset. -/
def isZoneMark (c : Nat) : Bool := c = 'Z'.toNat ∨ c = '+'.toNat ∨ c = '-'.toNat

/-- The first byte from `start` on, before `len` (the byte at `start` is looked at in any
case), that starts an offset; the end when there is none. -/
def zoneAt (b : ByteArray) (start len : Nat) : Nat :=
  let stop := Nat.max len (start + 1)
  match (List.range (stop - start)).find? (fun k => isZoneMark (byteAt b (start + k))) with
  | some k => start + k
  | none => stop

/-- The clock and the offset in microseconds of the time from byte `start` to `len`. A zero
offset in whole seconds is UTC, its fraction dropped. -/
def timeAt (b : ByteArray) (start len : Nat) : Option (Clock × Option Int) := do
  let zone := zoneAt b start len
  let clock ← clockAt b start zone
  if zone ≥ len then
    if clock.trailing then none else some (clock, none)
  else if byteAt b zone = 'Z'.toNat then
    if byteAt b (zone + 1) ≠ 0 then none else some (clock, some 0)
  else
    let off ← clockAt b (zone + 1) len
    if off.trailing then none
    else
      let sign : Int := if byteAt b zone = '-'.toNat then -1 else 1
      let secs : Int := sign * (off.hour * 3600 + off.minute * 60 + off.second)
      some (clock, some (if secs = 0 then 0 else secs * 1000000 + sign * off.micro))

end Iso

namespace Date

/-- Reads an ISO 8601 date of 7, 8 or 10 bytes. -/
def ofText (s : String) : Outcome Date :=
  let b := s.toUTF8
  if b.size = 7 ∨ b.size = 8 ∨ b.size = 10 then
    match Iso.dateFields b b.size with
    | some (y, m, d) => Iso.checkDate y m d
    | none => .error (.invalidIsoText s)
  else .error (.invalidIsoText s)

end Date

namespace DateTime

/-- Reads an ISO 8601 date and time: a date, a separator character and a time, or a date
alone for midnight. -/
def ofText (s : String) : Outcome DateTime := do
  let b := s.toUTF8
  let len := b.size
  let bad : Error := .invalidIsoText s
  let some sep := Iso.separatorAt b len | .error bad
  let some (y, m, d) := Iso.dateFields b sep | .error bad
  let (clock, zone) ← if len > sep then
      match Iso.timeAt b (sep + Iso.separatorWidth (Iso.byteAt b sep)) len with
      | some r => pure r
      | none => .error bad
    else pure (⟨0, 0, 0, 0, false⟩, none)
  let offset ← match zone with
    | some o =>
      if o ≤ -microsPerDay ∨ o ≥ microsPerDay then .error (.offsetOutOfRange o) else pure (some o)
    | none => pure none
  let date ← Iso.checkDate y m d
  if clock.hour > 23 then .error (.calendarField "hour must be in 0..23")
  else if clock.minute > 59 then .error (.calendarField "minute must be in 0..59")
  else if clock.second > 59 then .error (.calendarField "second must be in 0..59")
  else pure ⟨date, clock.hour, clock.minute, clock.second, clock.micro, offset⟩

end DateTime

/-- A calendar day, or a date with a time of day. -/
inductive DateOrTime where
  | day (d : Date)
  | moment (t : DateTime)
  deriving DecidableEq, Inhabited

namespace DateOrTime

/-- The calendar day: a time's own date, not converted to UTC. -/
def date : DateOrTime → Date
  | .day d => d
  | .moment t => t.date

/-- Reads text: with a `T` it is a date and time, otherwise a date. -/
def ofText (s : String) : Outcome DateOrTime :=
  if s.contains 'T' then (DateTime.ofText s).map .moment else (Date.ofText s).map .day

/-- The text of a day or a time. -/
def text : DateOrTime → String
  | .day d => d.text
  | .moment t => t.text

end DateOrTime

namespace Value

/-- A date from text; anything else is not ISO text. -/
def isoDate : Value → Outcome Date
  | .str s => Date.ofText s
  | _ => .error .isoNotText

/-- A date and time from text; anything else is not ISO text. -/
def isoDateTime : Value → Outcome DateTime
  | .str s => DateTime.ofText s
  | _ => .error .isoNotText

/-- A date and time from text, nothing from null. -/
def isoDateTime? : Value → Outcome (Option DateTime)
  | .null => .ok none
  | v => v.isoDateTime.map some

/-- A day or a time from text, told apart by a `T` in it. Text, lists and records can be
searched for a `T`, but only text is then read; other values cannot be searched. -/
def dateish : Value → Outcome DateOrTime
  | .str s => DateOrTime.ofText s
  | .list _ | .dict _ => .error .isoNotText
  | v => .error (.notIterable v.kindName)

end Value

example : (DateTime.ofText "2024W017T00:00").toOption.map DateTime.text = some "2024-01-07T00:00:00" := by
  decide +kernel
example : (DateTime.ofText "2024-01-31T12:+05:00").toOption.map DateTime.text =
    some "2024-01-31T12:00:00+05:00" := by decide +kernel
example : (DateTime.ofText "2024-01-31T1230:45").toOption = none := by decide +kernel
example : (Date.ofText "2024-W01-1").toOption = some ⟨2024, 1, 1⟩ := by decide +kernel

end Billing
