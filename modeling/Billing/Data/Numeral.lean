import Billing.Error
import Billing.Text.Blank

/-! # Numbers written as field text

Integer and double fields accept text. Integer text is trimmed of white space and read as
an optional sign and ASCII digits. Text that does not read so is cleaned once and read
again: after its sign, leading zeros (and underscores among them) are skipped, a fraction
made of zeros only is dropped (`5.000`), and underscores are dropped when none of them
starts or ends what is left or follows another. Integer text over 4300 bytes is refused as
too large.

Double text is an optional sign and then `inf`, `infinity` or `nan` in any letter case, or
digits with an optional point and exponent; underscores are dropped, under the same rule
as for integers, when the text does not read as it is. A double stands for an integer only when it is
whole and strictly between `-2^63` and `2^63`.

Main statements: `machineInt?_digits`, a run of digits reads as its value,
`dropZeroFraction_of_no_point`, text without a point keeps its end, and
`dropUnderscores?_none`, text without underscores is not read again. -/
namespace Billing.Numeral

/-- The sign at the front of text, and the rest. -/
def sign : List Char → Bool × List Char
  | '-' :: r => (true, r)
  | '+' :: r => (false, r)
  | r => (false, r)

/-- The value of ASCII digits. -/
def digitsValue (ds : List Char) : Nat := ds.foldl (fun v c => 10 * v + (c.toNat - 48)) 0

/-- A value with a sign. -/
def signed (neg : Bool) (n : Nat) : Int := if neg then -(n : Int) else n

/-- Integer text as it stands: an optional sign and one or more ASCII digits. -/
def machineInt? (cs : List Char) : Option Int :=
  let (neg, ds) := sign cs
  if !ds.isEmpty && ds.all Char.isDigit then some (signed neg (digitsValue ds)) else none

/-- Text after a leading zero, with the zeros and underscores that follow it skipped: the
text from the first other digit or sign on, the text from the character before a point
(so that `0.5` keeps its zero), or the last character when nothing else follows. Any other
character makes the text no integer. -/
def afterZeros (prev : Char) : List Char → Option (List Char)
  | [] => some [prev]
  | c :: rest =>
    if c = '0' ∨ c = '_' then afterZeros c rest
    else if ('1' ≤ c ∧ c ≤ '9') ∨ c = '-' ∨ c = '+' then some (c :: rest)
    else if c = '.' then some (prev :: c :: rest)
    else none

/-- Integer text without its leading zeros; text that starts with neither a digit nor a
sign is no integer. -/
def dropLeadingZeros? : List Char → Option (List Char)
  | '0' :: rest => afterZeros '0' rest
  | c :: rest =>
    if ('1' ≤ c ∧ c ≤ '9') ∨ c = '-' ∨ c = '+' then some (c :: rest) else none
  | [] => none

/-- The text before its last point, when one or more zeros and nothing else follow that
point; the text itself otherwise. -/
def dropZeroFraction (cs : List Char) : List Char :=
  let frac := (cs.reverse.takeWhile (· ≠ '.')).reverse
  if cs.contains '.' && !frac.isEmpty && frac.all (· = '0') then
    cs.take (cs.length - frac.length - 1)
  else cs

/-- Whether text has two underscores in a row. -/
def doubleUnderscore : List Char → Bool
  | '_' :: '_' :: _ => true
  | _ :: rest => doubleUnderscore rest
  | [] => false

/-- The text without its underscores, when it has some and none of them starts or ends the
text or follows another; `none` otherwise. -/
def dropUnderscores? (cs : List Char) : Option (List Char) :=
  if cs.head? == some '_' || cs.getLast? == some '_' || !cs.contains '_' || doubleUnderscore cs then
    none
  else some (cs.filter (· != '_'))

/-- Integer text in the shape it is read in when it does not read as it stands: its sign
kept, then the rest without leading zeros, without a fraction of zeros only, and without
underscores where they may be dropped. -/
def cleaned? (cs : List Char) : Option (List Char) :=
  let (sgn, body) : List Char × List Char := match cs with
    | '+' :: r => (['+'], r)
    | '-' :: r => (['-'], r)
    | r => ([], r)
  (dropLeadingZeros? body).map fun lead =>
    let whole := dropZeroFraction lead
    sgn ++ (dropUnderscores? whole).getD whole

/-- Integer text read as an integer field reads it: trimmed of white space, then an
optional sign and ASCII digits, as it stands or once cleaned. -/
def int (s : String) : Except IssueKind Int :=
  let t := Text.trimWhiteSpace s
  let cs := t.toList
  if t.utf8ByteSize > 4300 then .error .intParsingSize
  else
    match machineInt? cs <|> (cleaned? cs >>= machineInt?) with
    | some n => .ok n
    | none => .error .intParsing

/-- The integer a double stands for: a whole double strictly between `-2^63` and `2^63`. -/
def ofDouble (x : Float) : Except IssueKind Int :=
  if x.isNaN || x.isInf then .error .finiteNumber
  else
    match Float.truncInt? x with
    | none => .error .finiteNumber
    | some n =>
      if Float.compareInt x n != .eq then .error .intFromFloat
      else if -(Int.pow 2 63) < n ∧ n < Int.pow 2 63 then .ok n
      else .error .intParsingSize

/-- Infinity. -/
def infinity : Float := 1.0 / 0.0

/-- Integers whose nearest double is finite: below `2^1024 - 2^970` either way, the point
from which the nearest double rounds up to `2^1024`. -/
def fitsDouble (n : Int) : Bool := n.natAbs < Nat.pow 2 1024 - Nat.pow 2 970

/-- The double nearest to an integer, for integers that fit a double. -/
def toDouble (n : Int) : Outcome Float :=
  if fitsDouble n then .ok (Float.ofInt n) else .error .intTooLargeForFloat

/-- The double nearest to `m · 10^e`, negated when `neg`. Values whose digits lie far
outside the range of doubles are infinity or zero at once, without the power being formed. -/
def scaled (neg : Bool) (m : Nat) (e : Int) : Float :=
  let x : Float :=
    if m = 0 then 0.0
    else
      let magnitude : Int := (Nat.toDigits 10 m).length + e
      if magnitude > 310 then infinity
      else if magnitude < -330 then 0.0
      else if e < 0 then Float.ofScientific m true e.natAbs
      else Float.ofScientific m false e.toNat
  if neg then -x else x

/-- The exponent after a mark: an optional sign and one or more ASCII digits. -/
def exponent? (cs : List Char) : Option Int := machineInt? cs

/-- Decimal text of a double, as it stands: an optional sign, then `inf`, `infinity` or `nan`
in any letter case, or digits with at most one point and a digit on one side of it at
least, then an optional exponent (`e` or `E`, an optional sign, digits). -/
def double? (cs : List Char) : Option Float :=
  let (neg, body) := sign cs
  let word := String.ofList (body.map Char.toLower)
  if word = "inf" ∨ word = "infinity" then some (if neg then -infinity else infinity)
  else if word = "nan" then some (0.0 / 0.0)
  else
    let whole := body.takeWhile Char.isDigit
    let afterWhole := body.dropWhile Char.isDigit
    let (frac, rest) := match afterWhole with
      | '.' :: r => (r.takeWhile Char.isDigit, r.dropWhile Char.isDigit)
      | r => ([], r)
    if whole.isEmpty && frac.isEmpty then none
    else
      let e? : Option Int := match rest with
        | [] => some 0
        | c :: r => if c = 'e' ∨ c = 'E' then exponent? r else none
      e?.map fun e => scaled neg (digitsValue (whole ++ frac)) (e - frac.length)

/-- Double text read as a double field reads it: trimmed of white space first, and then,
untrimmed, without its underscores when it does not read as it is. -/
def double (s : String) : Except IssueKind Float :=
  match double? (Text.trimWhiteSpace s).toList with
  | some x => .ok x
  | none =>
    match dropUnderscores? s.toList >>= double? with
    | some x => .ok x
    | none => .error .floatParsing

theorem machineInt?_digits (ds : List Char) (h : ds ≠ []) (hd : ds.all Char.isDigit)
    (hs : ds.head? ≠ some '-' ∧ ds.head? ≠ some '+') :
    machineInt? ds = some (digitsValue ds) := by
  cases ds with
  | nil => exact absurd rfl h
  | cons c r =>
    have hc1 : c ≠ '-' := fun e => hs.1 (by simp [e])
    have hc2 : c ≠ '+' := fun e => hs.2 (by simp [e])
    have hsign : sign (c :: r) = (false, c :: r) := by
      unfold sign
      split
      · rename_i heq; cases heq; exact absurd rfl hc1
      · rename_i heq; cases heq; exact absurd rfl hc2
      · rfl
    simp [machineInt?, hsign, hd, signed]

theorem dropZeroFraction_of_no_point (cs : List Char) (h : '.' ∉ cs) :
    dropZeroFraction cs = cs := by
  unfold dropZeroFraction
  rw [if_neg (by simp [h])]

theorem dropUnderscores?_none (cs : List Char) (h : '_' ∉ cs) : dropUnderscores? cs = none := by
  unfold dropUnderscores?
  rw [if_pos (by simp [h])]

example : (int " 5").toOption = some 5 := by decide +kernel
example : (int "5.000").toOption = some 5 := by decide +kernel
example : (int "1_000").toOption = some 1000 := by decide +kernel
example : (int "1__000").toOption = none := by decide +kernel
example : (int "+_1").toOption = none := by decide +kernel
example : (int "0-_5").toOption = some (-5) := by decide +kernel
example : (int "1_0.0").toOption = some 10 := by decide +kernel
example : (int "3.").toOption = none := by decide +kernel

end Billing.Numeral
