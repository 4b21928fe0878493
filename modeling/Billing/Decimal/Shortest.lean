import Billing.Decimal.Basic

/-! # The shortest decimal of a double

A finite double is `m * 2^e`. The reals that round to it form an interval around it, with
its ends when `m` is even. The shortest decimal of the double is the decimal with the
fewest significant digits in that interval, and of two such the nearer one (an exact tie
goes to the even one). For each count of digits only the two neighbours of the double on
that decimal grid need testing: if any point of the grid lies in the interval, one of the
two does.

The text of a double writes those digits positionally when the point falls between
`1e-4` and `1e16`, always with a fractional part (`100.0`), and otherwise as
`d.ddde+XX` with at least two exponent digits. -/
namespace Billing

/-- The digits of a finite double: its value is `0.digits * 10^point`, with no trailing zero
in `digits` (zero is `0` with `point = 1`). -/
structure FloatDigits where
  neg : Bool
  digits : Nat
  point : Int
  deriving DecidableEq

/-- A double split into its sign, its integer significand and binary exponent, and whether
the gap to its lower neighbour is half the gap above (at a power of two). -/
inductive FloatParts where
  | nan
  | infinity (neg : Bool)
  | finite (neg : Bool) (m : Nat) (e : Int) (narrowBelow : Bool)

/-- Splits a double into its parts. -/
def Float.parts (x : Float) : FloatParts :=
  let b : Nat := x.toBits.toNat
  let neg := b / Nat.pow 2 63 % 2 = 1
  let be : Nat := b / Nat.pow 2 52 % Nat.pow 2 11
  let f : Nat := b % Nat.pow 2 52
  if be = 2047 then (if f = 0 then .infinity neg else .nan)
  else if be = 0 then .finite neg f (-1074) false
  else .finite neg (f + Nat.pow 2 52) ((be : Int) - 1075) (f = 0 ∧ be > 1)

/-- The integer part of a double, toward zero, exactly; `none` for a NaN or an infinity. -/
def Float.truncInt? (x : Float) : Option Int :=
  match Float.parts x with
  | .finite neg m e _ =>
    let v : Nat := if e ≥ 0 then m * Nat.pow 2 e.toNat else m / Nat.pow 2 (-e).toNat
    some (if neg then -(v : Int) else v)
  | _ => none

/-- Compares a double with an integer exactly; a NaN is unordered and counts as equal. -/
def Float.compareInt (x : Float) (n : Int) : Ordering :=
  match Float.parts x with
  | .finite neg m e _ =>
    let v : Int := if neg then -(m : Int) else m
    compare (v * Nat.pow 2 e.toNat) (n * Nat.pow 2 (-e).toNat)
  | .infinity neg => if neg then .lt else .gt
  | .nan => .eq

/-- Compares `d * 10^k` with `x * 2^s` exactly. -/
def cmpScaled (d : Nat) (k : Int) (x : Nat) (s : Int) : Ordering :=
  compare (d * Nat.pow 10 k.toNat * Nat.pow 2 (-s).toNat) (x * Nat.pow 2 s.toNat * Nat.pow 10 (-k).toNat)

/-- `⌊x * 2^s / 10^k⌋`. -/
def floorScaled (x : Nat) (s k : Int) : Nat :=
  (x * Nat.pow 2 s.toNat * Nat.pow 10 (-k).toNat) / (Nat.pow 2 (-s).toNat * Nat.pow 10 k.toNat)

/-- `⌊log₁₀ (n / d)⌋` for positive `n` and `d`. -/
def log10Floor (n d : Nat) : Int :=
  if n ≥ d then (Decimal.numDigits (n / d) : Int) - 1
  else
    let j := Decimal.numDigits d - Decimal.numDigits n
    if n * Nat.pow 10 j ≥ d then -(j : Int) else -((j : Int) + 1)

/-- Removes trailing zeros of a coefficient. -/
def dropTrailingZeros (d : Nat) : Nat :=
  if d % 10 = 0 ∧ d ≠ 0 then dropTrailingZeros (d / 10) else d
termination_by d
decreasing_by omega

/-- The shortest digits of a positive double `m * 2^e`: for `n = 1, 2, …, 17` digits, the
neighbours of the double on the grid of `n`-digit decimals, the first count with a
neighbour inside the rounding interval winning. Seventeen digits always suffice. -/
def shortestPositive (m : Nat) (e : Int) (narrowBelow : Bool) : Nat × Int :=
  -- in units of 2^(e-2): the value is 4m, the interval [4m - below, 4m + 2]
  let s := e - 2
  let v := 4 * m
  let below := if narrowBelow then 1 else 2
  let closed := m % 2 = 0
  let top := log10Floor (v * Nat.pow 2 s.toNat) (Nat.pow 2 (-s).toNat)
  let inside (d : Nat) (k : Int) : Bool :=
    let lo := cmpScaled d k (v - below) s
    let hi := cmpScaled d k (v + 2) s
    (lo = .gt ∨ (closed ∧ lo = .eq)) ∧ (hi = .lt ∨ (closed ∧ hi = .eq))
  let pick (n : Nat) : Option (Nat × Int) :=
    let k := top - n + 1
    let lo := floorScaled v s k
    let hi := lo + 1
    match inside lo k, inside hi k with
    | true, true =>
      -- the nearer one; of two equally near, the even one
      let dLo := cmpScaled lo k v s
      let dLo' := compare (v * Nat.pow 2 s.toNat * Nat.pow 10 (-k).toNat - lo * Nat.pow 10 k.toNat * Nat.pow 2 (-s).toNat)
        (hi * Nat.pow 10 k.toNat * Nat.pow 2 (-s).toNat - v * Nat.pow 2 s.toNat * Nat.pow 10 (-k).toNat)
      if dLo = .eq then some (lo, k)
      else match dLo' with
        | .lt => some (lo, k)
        | .gt => some (hi, k)
        | .eq => some (if lo % 2 = 0 then lo else hi, k)
    | true, false => some (lo, k)
    | false, true => some (hi, k)
    | false, false => none
  let found := (List.range 17).findSome? fun i => pick (i + 1)
  let (d, k) := found.getD (floorScaled v s (top - 16), top - 16)
  let d' := dropTrailingZeros d
  (d', k + (Decimal.numDigits d : Int) - Decimal.numDigits d')

/-- The shortest digits of a finite double, `none` for an infinity or a not-a-number. -/
def Float.shortest? (x : Float) : Option FloatDigits :=
  match Float.parts x with
  | .finite neg m e narrow =>
    if m = 0 then some ⟨neg, 0, 1⟩
    else
      let (d, k) := shortestPositive m e narrow
      some ⟨neg, d, k + Decimal.numDigits d⟩
  | _ => none

/-- The ASCII digits of a natural number. -/
def natText (n : Nat) : List Char := Nat.toDigits 10 n

/-- The text of a double: `nan`, `inf`, `-inf`, or its shortest digits, positionally when
`-4 < point ≤ 16` and with an exponent otherwise. -/
def Float.text (x : Float) : String :=
  match Float.parts x, Float.shortest? x with
  | .nan, _ => "nan"
  | .infinity neg, _ => if neg then "-inf" else "inf"
  | _, none => "nan"
  | _, some ⟨neg, d, p⟩ =>
    let ds := natText d
    let n : Int := ds.length
    let body : List Char :=
      if p ≤ -4 ∨ p > 16 then
        let x := p - 1
        let ex := natText x.natAbs
        ds.take 1 ++ (if n > 1 then '.' :: ds.drop 1 else []) ++ 'e' ::
          (if x < 0 then '-' else '+') :: (if ex.length < 2 then '0' :: ex else ex)
      else if p ≤ 0 then '0' :: '.' :: (List.replicate (-p).toNat '0' ++ ds)
      else if p ≥ n then ds ++ List.replicate (p - n).toNat '0' ++ ['.', '0']
      else ds.take p.toNat ++ '.' :: ds.drop p.toNat
    String.ofList ((if neg then ['-'] else []) ++ body)

namespace Decimal

/-- The decimal that the text of a double reads as: its shortest digits, with one zero
after the point when the text is positional and whole (`100.0` has exponent -1). -/
def ofFloat (x : Float) : Decimal :=
  match Float.parts x, Float.shortest? x with
  | .nan, _ => .nan false false 0
  | .infinity neg, _ => .infinity neg
  | _, none => .nan false false 0
  | _, some ⟨neg, d, p⟩ =>
    let n : Int := numDigits d
    if ¬(p ≤ -4 ∨ p > 16) ∧ p ≥ n then .finite neg (d * Nat.pow 10 (p - n + 1).toNat) (-1)
    else .finite neg d (p - n)

end Decimal

end Billing
