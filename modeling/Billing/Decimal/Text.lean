import Billing.Decimal.Basic
import Billing.Text.Blank
import Billing.Text.Digit

/-! # Decimal numbers as text

Reading is exact: `1.50` keeps its two places and `1E+2` its exponent. Blanks around the
number are dropped, underscores are ignored and digits of any script count; a number is
read only when its exponent can be held exactly. Writing uses
scientific notation when the exponent is positive or the number is very small, so that a
written number reads back to the same coefficient and exponent (see the
examples below). -/
namespace Billing.Decimal

/-- The characters a number is read from, once the blanks around it are gone: underscores
dropped, other blanks turned into spaces and digits of other scripts into ASCII digits;
`none` for the character `NUL` and for any other non-ASCII character. -/
def normalizeChars : List Char → Option (List Char)
  | [] => some []
  | c :: rest =>
    if c = '_' then normalizeChars rest
    else if 0 < c.toNat ∧ c.toNat < 128 then (normalizeChars rest).map (c :: ·)
    else if Text.isBlank c then (normalizeChars rest).map (' ' :: ·)
    else match Text.digitValue? c with
      | some d => (normalizeChars rest).map (Char.ofNat (48 + d) :: ·)
      | none => none

/-- The value of a run of ASCII digits. -/
def digitsNat (ds : List Char) : Nat := ds.foldl (fun v c => 10 * v + (c.toNat - 48)) 0

/-- Splits off the longest prefix of ASCII digits. -/
def spanDigits (cs : List Char) : List Char × List Char := (cs.takeWhile Char.isDigit, cs.dropWhile Char.isDigit)

/-- Reads `[e|E][sign]digits` to its end, giving the exponent. -/
def exponentPart? : List Char → Option Int
  | [] => some 0
  | c :: rest =>
    if c = 'e' ∨ c = 'E' then
      let (neg, rest) := match rest with
        | '-' :: r => (true, r)
        | '+' :: r => (false, r)
        | r => (false, r)
      let (ds, tail) := spanDigits rest
      if ds.isEmpty ∨ !tail.isEmpty then none
      else some (if neg then -(digitsNat ds : Int) else digitsNat ds)
    else none

/-- Reads an unsigned finite number `digits[.digits][exponent]` or `.digits[exponent]`. -/
def finitePart? (neg : Bool) (cs : List Char) : Option Decimal :=
  let (whole, rest) := spanDigits cs
  let (frac, rest) := match rest with
    | '.' :: r => spanDigits r
    | r => ([], r)
  if whole.isEmpty ∧ frac.isEmpty then none
  else (exponentPart? rest).map fun e =>
    .finite neg (digitsNat (whole ++ frac)) (e - frac.length)

/-- Reads a not-a-number's payload: digits, of any number, or nothing. -/
def payload? (cs : List Char) : Option Nat :=
  if cs.all Char.isDigit then some (digitsNat cs) else none

/-- Reads an unsigned number, an infinity or a not-a-number after its sign. -/
def unsigned? (neg : Bool) (cs : List Char) : Option Decimal :=
  let low := cs.map Char.toLower
  if low = "inf".toList ∨ low = "infinity".toList then some (.infinity neg)
  else match low with
    | 'n' :: 'a' :: 'n' :: rest => (payload? rest).map (.nan neg false)
    | 's' :: 'n' :: 'a' :: 'n' :: rest => (payload? rest).map (.nan neg true)
    | _ => finitePart? neg cs

/-- The largest adjusted exponent a number may be read with. -/
def readEmax : Int := 999999999999999999

/-- The least exponent a number may be read with when it is that small; a read number below
`10 ^ (-readEmax)` is exact only down to this exponent. -/
def readEtiny : Int := -1999999999999999997

/-- A read number, refused as an invalid operation when its exponent lies beyond what can be
held exactly: an adjusted exponent (that of its first digit) over `readEmax`, or an
exponent under `readEtiny` for a number whose adjusted exponent is under `-readEmax`. -/
def exactRange : Decimal → Except Signal Decimal
  | .finite neg c e =>
    let adjusted := e + numDigits c - 1
    if adjusted > readEmax then .error .invalidOperation
    else if adjusted < -readEmax ∧ e < readEtiny then .error .invalidOperation
    else .ok (.finite neg c e)
  | d => .ok d

/-- Reads a number exactly. The blanks around it go first, then the characters are
normalized; text that is not a number is a conversion syntax error, and a number beyond the
exponents that can be held exactly an invalid operation. -/
def ofString (s : String) : Except Signal Decimal :=
  let cs := ((s.toList.dropWhile Text.isBlank).reverse.dropWhile Text.isBlank).reverse
  let read : Option Decimal := do
    match ← normalizeChars cs with
    | '-' :: rest => unsigned? true rest
    | '+' :: rest => unsigned? false rest
    | cs => unsigned? false cs
  match read with
  | some d => exactRange d
  | none => .error .conversionSyntax

/-- The ASCII digits of a natural number. -/
def natDigits (n : Nat) : List Char := Nat.toDigits 10 n

/-- Writes a number in scientific notation where needed: positional when the exponent is
at most zero and the number is not below `1E-6`; otherwise one digit before the point and
an exponent `E+n` or `E-n`. -/
def toString : Decimal → String
  | .infinity s => (if s then "-" else "") ++ "Infinity"
  | .nan s q p =>
    (if s then "-" else "") ++ (if q then "sNaN" else "NaN") ++
      (if p = 0 then "" else String.ofList (natDigits p))
  | .finite s c e =>
    let ds := natDigits c
    let n : Int := ds.length
    let left := e + n
    let dot : Int := if e ≤ 0 ∧ left > -6 then left else 1
    let body : List Char :=
      if dot ≤ 0 then '0' :: '.' :: (List.replicate (-dot).toNat '0' ++ ds)
      else if dot ≥ n then ds ++ List.replicate (dot - n).toNat '0'
      else ds.take dot.toNat ++ '.' :: ds.drop dot.toNat
    let expo : List Char :=
      if left = dot then []
      else
        let x := left - dot
        'E' :: (if x < 0 then '-' else '+') :: natDigits x.natAbs
    String.ofList ((if s then ['-'] else []) ++ body ++ expo)

instance : ToString Decimal := ⟨Decimal.toString⟩

example : ((ofString "1.50").map toString).toOption = some "1.50" := by decide +kernel
example : ((ofString "1e3").map toString).toOption = some "1E+3" := by decide +kernel
example : ((ofString " -0.0000001 ").map toString).toOption = some "-1E-7" := by decide +kernel
example : ((ofString "_ 5").map toString).toOption = none := by decide +kernel
example : ((ofString "0e1000000000000000000").map toString).toOption = none := by decide +kernel

end Billing.Decimal
