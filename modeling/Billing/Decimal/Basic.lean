/-! # Decimal numbers and their arithmetic

A decimal number is a sign, a coefficient and a power of ten, or an infinity, or a
not-a-number. Arithmetic follows the general decimal arithmetic: the exact result is
rounded to the context's number of digits, a tie going to the even neighbour, and the
exponent stays within the context's limits. Quantizing rounds to a fixed exponent instead.

Main statements: `roundOff_le` and `roundOff_ge` bound a rounded coefficient by its
truncation, and `fix_small` says that a result that already fits is left alone. -/
namespace Billing

/-- A decimal number of the general decimal arithmetic. -/
inductive Decimal where
  /-- `(-1)^neg * coeff * 10^exp`; a zero keeps its sign and exponent. -/
  | finite (neg : Bool) (coeff : Nat) (exp : Int)
  | infinity (neg : Bool)
  /-- A quiet or signaling not-a-number with a diagnostic payload (0 for none). -/
  | nan (neg : Bool) (signaling : Bool) (payload : Nat)
  deriving DecidableEq, Inhabited

namespace Decimal

/-- The exceptional conditions that stop a computation. -/
inductive Signal where
  | invalidOperation
  | conversionSyntax
  | divisionByZero
  | divisionUndefined
  | overflow
  deriving DecidableEq

/-- How a coefficient is rounded when digits are dropped. -/
inductive Rounding where
  | halfEven
  | halfUp
  deriving DecidableEq

/-- Precision, rounding and exponent limits of an arithmetic context. -/
structure Context where
  precision : Nat
  rounding : Rounding
  emax : Int
  emin : Int

/-- Twenty-eight digits, ties to even, exponents within ±999999. -/
def Context.standard : Context := ⟨28, .halfEven, 999999, -999999⟩

/-- The least exponent of a subnormal result. -/
def Context.etiny (c : Context) : Int := c.emin - c.precision + 1

/-- The greatest exponent of a result with a full coefficient. -/
def Context.etop (c : Context) : Int := c.emax - c.precision + 1

/-- The number of decimal digits of a natural number; zero has one. -/
def numDigits (n : Nat) : Nat :=
  if n < 10 then 1 else numDigits (n / 10) + 1
termination_by n
decreasing_by omega

theorem numDigits_pos (n : Nat) : 0 < numDigits n := by
  unfold numDigits; split <;> omega

theorem numDigits_of_lt {n : Nat} (h : n < 10) : numDigits n = 1 := by
  unfold numDigits; simp [h]

theorem lt_pow_numDigits (n : Nat) : n < Nat.pow 10 (numDigits n) := by
  induction n using Nat.strongRecOn with
  | ind n ih =>
    unfold numDigits
    split
    · simpa using ‹n < 10›
    · have h := ih (n / 10) (by omega)
      show n < Nat.pow 10 (numDigits (n / 10)) * 10
      omega

/-- Drops the last `k` digits of `c`, rounding by `mode`. -/
def roundOff (mode : Rounding) (c k : Nat) : Nat :=
  if k = 0 then c
  else if numDigits c < k then 0
  else
    let q := c / Nat.pow 10 k
    let r := c % Nat.pow 10 k
    let half := 5 * Nat.pow 10 (k - 1)
    match mode with
    | .halfEven => if r > half ∨ (r = half ∧ q % 2 = 1) then q + 1 else q
    | .halfUp => if r ≥ half then q + 1 else q

theorem roundOff_le (mode : Rounding) (c k : Nat) : roundOff mode c k ≤ c / Nat.pow 10 k + 1 := by
  unfold roundOff
  split
  · subst ‹k = 0›; simp
  · split
    · exact Nat.zero_le _
    · cases mode <;> simp only <;> split <;> omega

theorem roundOff_ge (mode : Rounding) (c k : Nat) (h : k ≤ numDigits c) :
    c / Nat.pow 10 k ≤ roundOff mode c k := by
  unfold roundOff
  split
  · subst ‹k = 0›; simp
  · split
    · omega
    · cases mode <;> simp only <;> split <;> omega

/-- The result of an operation: a number or the condition that stopped it. -/
abbrev Result := Except Signal Decimal

/-- Rounds a finite result to the context: at most `precision` digits, an exponent no
lower than `etiny`, and a signal when the number exceeds `emax`. -/
def Context.fix (ctx : Context) (neg : Bool) (c : Nat) (e : Int) : Result :=
  if c = 0 then
    .ok (.finite neg 0 (min (max e ctx.etiny) ctx.emax))
  else
    let expMin := (numDigits c : Int) + e - ctx.precision
    if expMin > ctx.etop then .error .overflow
    else
      let expMin := max expMin ctx.etiny
      if e < expMin then
        let q := roundOff ctx.rounding c (expMin - e).toNat
        let (q, expMin) := if numDigits q > ctx.precision then (q / 10, expMin + 1) else (q, expMin)
        if expMin > ctx.etop then .error .overflow else .ok (.finite neg q expMin)
      else .ok (.finite neg c e)

theorem fix_small (ctx : Context) (neg : Bool) (c : Nat) (e : Int) (hc : c ≠ 0)
    (hp : (numDigits c : Int) + e - ctx.precision ≤ e) (ht : e ≥ ctx.etiny)
    (hm : (numDigits c : Int) + e - ctx.precision ≤ ctx.etop) :
    ctx.fix neg c e = .ok (.finite neg c e) := by
  unfold Context.fix
  simp only [hc, if_false]
  rw [if_neg (by omega), if_neg (by omega)]

/-- Whether a number is finite. -/
def isFinite : Decimal → Bool
  | .finite .. => true
  | _ => false

/-- Whether a number is a not-a-number. -/
def isNaN : Decimal → Bool
  | .nan .. => true
  | _ => false

/-- Whether a number is a zero of either sign. -/
def isZero : Decimal → Bool
  | .finite _ c _ => c == 0
  | _ => false

/-- The exact value of an integer. -/
def ofInt (n : Int) : Decimal := .finite (n < 0) n.natAbs 0

instance (n : Nat) : OfNat Decimal n := ⟨ofInt n⟩

/-- The number with its sign changed, nothing else. -/
def copyNeg : Decimal → Decimal
  | .finite s c e => .finite (!s) c e
  | .infinity s => .infinity (!s)
  | .nan s q p => .nan (!s) q p

/-- What an operation on a not-a-number gives: a signal for a signaling one, else the first
quiet one. `none` when neither operand is a not-a-number. -/
def nanOperand? (a b : Decimal) : Option Result :=
  match a, b with
  | .nan _ true _, _ => some (.error .invalidOperation)
  | _, .nan _ true _ => some (.error .invalidOperation)
  | .nan s _ p, _ => some (.ok (.nan s false p))
  | _, .nan s _ p => some (.ok (.nan s false p))
  | _, _ => none

/-- Removes trailing zeros of an exact quotient while its exponent is below `ideal`. -/
def stripZeros (q : Nat) (e ideal : Int) : Nat × Int :=
  if e < ideal ∧ q % 10 = 0 ∧ q ≠ 0 then stripZeros (q / 10) (e + 1) ideal else (q, e)
termination_by (ideal - e).toNat
decreasing_by omega

/-- The product, rounded to the context. -/
def mul (ctx : Context) (a b : Decimal) : Result :=
  match nanOperand? a b with
  | some r => r
  | none =>
    match a, b with
    | .finite s c e, .finite s' c' e' => ctx.fix (s != s') (c * c') (e + e')
    | .infinity s, .finite s' c' _ =>
      if c' = 0 then .error .invalidOperation else .ok (.infinity (s != s'))
    | .finite s c _, .infinity s' =>
      if c = 0 then .error .invalidOperation else .ok (.infinity (s != s'))
    | .infinity s, .infinity s' => .ok (.infinity (s != s'))
    | _, _ => .error .invalidOperation

/-- The quotient: exact at the ideal exponent when it fits, else rounded to the context. An
inexact quotient is computed to one digit beyond the precision, and a last digit of 0 or 5
is nudged up so that the rounding sees that the quotient is inexact. -/
def div (ctx : Context) (a b : Decimal) : Result :=
  match nanOperand? a b with
  | some r => r
  | none =>
    match a, b with
    | .infinity _, .infinity _ => .error .invalidOperation
    | .infinity s, .finite s' _ _ => .ok (.infinity (s != s'))
    | .finite s _ _, .infinity s' => .ok (.finite (s != s') 0 ctx.etiny)
    | .finite s c e, .finite s' c' e' =>
      let neg := s != s'
      if c' = 0 then .error (if c = 0 then .divisionUndefined else .divisionByZero)
      else if c = 0 then ctx.fix neg 0 (e - e')
      else
        let shift : Int := (numDigits c' : Int) - numDigits c + ctx.precision + 1
        let exp := e - e' - shift
        let (num, den) :=
          if shift ≥ 0 then (c * Nat.pow 10 shift.toNat, c') else (c, c' * Nat.pow 10 (-shift).toNat)
        let q := num / den
        if num % den ≠ 0 then
          ctx.fix neg (if q % 5 = 0 then q + 1 else q) exp
        else
          let (q, exp) := stripZeros q exp (e - e')
          ctx.fix neg q exp
    | _, _ => .error .invalidOperation

/-- The sum of two nonzero finite numbers. When one addend lies wholly below the last digit
that the rounding can keep, it is replaced by a single unit just below that digit: the
rounded sum is the same and the coefficients stay small. -/
def addNonzero (ctx : Context) (s : Bool) (c : Nat) (e : Int) (s' : Bool) (c' : Nat)
    (e' : Int) : Result :=
  -- `hi` has the larger exponent
  let (hs, hc, he, ls, lc, le) := if e < e' then (s', c', e', s, c, e) else (s, c, e, s', c', e')
  let bound := he + min (-1) ((numDigits hc : Int) - ctx.precision - 2)
  let (lc, le) := if (numDigits lc : Int) + le - 1 < bound then (1, bound) else (lc, le)
  let hc := hc * Nat.pow 10 (he - le).toNat
  if hs = ls then ctx.fix hs (hc + lc) le
  else if hc = lc then ctx.fix false 0 (min e e')
  else if lc < hc then ctx.fix hs (hc - lc) le
  else ctx.fix ls (lc - hc) le

/-- The sum, rounded to the context. -/
def add (ctx : Context) (a b : Decimal) : Result :=
  match nanOperand? a b with
  | some r => r
  | none =>
    match a, b with
    | .infinity s, .infinity s' => if s != s' then .error .invalidOperation else .ok (.infinity s)
    | .infinity s, _ => .ok (.infinity s)
    | _, .infinity s => .ok (.infinity s)
    | .finite s c e, .finite s' c' e' =>
      let exp := min e e'
      if c = 0 ∧ c' = 0 then ctx.fix (s && s') 0 exp
      else if c = 0 then
        let exp := max exp (e' - ctx.precision - 1)
        ctx.fix s' (c' * Nat.pow 10 (e' - exp).toNat) exp
      else if c' = 0 then
        let exp := max exp (e - ctx.precision - 1)
        ctx.fix s (c * Nat.pow 10 (e - exp).toNat) exp
      else addNonzero ctx s c e s' c' e'
    | _, _ => .error .invalidOperation

/-- The difference, rounded to the context. -/
def sub (ctx : Context) (a b : Decimal) : Result := add ctx a b.copyNeg

/-- The absolute value, rounded to the context. -/
def abs (ctx : Context) : Decimal → Result
  | .finite _ c e => ctx.fix false c e
  | .infinity _ => .ok (.infinity false)
  | .nan _ true _ => .error .invalidOperation
  | .nan s false p => .ok (.nan s false p)

/-- The negation, rounded to the context; the negation of a zero is a positive zero. -/
def neg (ctx : Context) : Decimal → Result
  | .finite s c e => ctx.fix (if c = 0 then false else !s) c e
  | .infinity s => .ok (.infinity (!s))
  | .nan _ true _ => .error .invalidOperation
  | .nan s false p => .ok (.nan s false p)

/-- Compares two numbers that are not not-a-numbers: signs first, then magnitudes by their
leading digit's place, then by the coefficients at a common exponent. -/
def cmp : Decimal → Decimal → Ordering
  | .infinity s, .infinity s' => if s = s' then .eq else if s then .lt else .gt
  | .infinity s, _ => if s then .lt else .gt
  | _, .infinity s' => if s' then .gt else .lt
  | .finite s c e, .finite s' c' e' =>
    if c = 0 ∧ c' = 0 then .eq
    else if c = 0 then (if s' then .gt else .lt)
    else if c' = 0 then (if s then .lt else .gt)
    else if s ≠ s' then (if s then .lt else .gt)
    else
      let adj : Int := numDigits c + e
      let adj' : Int := numDigits c' + e'
      let mag : Ordering :=
        if adj ≠ adj' then compare adj adj'
        else compare (c * Nat.pow 10 (e - e').toNat) (c' * Nat.pow 10 (e' - e).toNat)
      if s then mag.swap else mag
  | _, _ => .eq

/-- Ordering comparison: a not-a-number operand is an invalid operation. -/
def compareOrd (a b : Decimal) : Except Signal Ordering :=
  if a.isNaN ∨ b.isNaN then .error .invalidOperation else .ok (cmp a b)

/-- Equality of values: a signaling not-a-number is an invalid operation, a quiet one is
equal to nothing. -/
def eqValue (a b : Decimal) : Except Signal Bool :=
  match a, b with
  | .nan _ true _, _ => .error .invalidOperation
  | _, .nan _ true _ => .error .invalidOperation
  | .nan .., _ => .ok false
  | _, .nan .. => .ok false
  | _, _ => .ok (cmp a b = .eq)

/-- `a < b`. -/
def lt (a b : Decimal) : Except Signal Bool := (compareOrd a b).map (· = .lt)

/-- `a ≤ b`. -/
def le (a b : Decimal) : Except Signal Bool := (compareOrd a b).map (· ≠ .gt)

/-- The coefficient and exponent of a finite number brought to exponent `q`, rounding by
`mode` when digits are dropped. -/
def rescale (mode : Rounding) (c : Nat) (e q : Int) : Nat :=
  if e ≥ q then c * Nat.pow 10 (e - q).toNat else roundOff mode c (q - e).toNat

/-- The number rounded to exponent `q` by `mode`. It is an invalid operation when the
result would need more digits than the context has, or the number is infinite. -/
def quantize (ctx : Context) (mode : Rounding) (a : Decimal) (q : Int) : Result :=
  match a with
  | .nan _ true _ => .error .invalidOperation
  | .nan s false p => .ok (.nan s false p)
  | .infinity _ => .error .invalidOperation
  | .finite s c e =>
    if q < ctx.etiny ∨ q > ctx.emax then .error .invalidOperation
    else if c = 0 then ctx.fix s 0 q
    else
      let adj : Int := (numDigits c : Int) + e - 1
      if adj > ctx.emax ∨ adj - q + 1 > ctx.precision then .error .invalidOperation
      else
        let c' := rescale mode c e q
        if (numDigits c' : Int) + q - 1 > ctx.emax ∨ numDigits c' > ctx.precision then
          .error .invalidOperation
        else ctx.fix s c' q

/-- The number times `10 ^ n`, rounded to the context. -/
def scaleb (ctx : Context) (a : Decimal) (n : Int) : Result :=
  match a with
  | .nan _ true _ => .error .invalidOperation
  | .nan s false p => .ok (.nan s false p)
  | .infinity s => .ok (.infinity s)
  | .finite s c e =>
    let lim : Int := 2 * (ctx.emax + ctx.precision)
    if n < -lim ∨ n > lim then .error .invalidOperation else ctx.fix s c (e + n)

/-- The integer part of a finite number, truncated toward zero. -/
def truncate? : Decimal → Option Int
  | .finite s c e =>
    let m : Nat := if e ≥ 0 then c * Nat.pow 10 e.toNat else c / Nat.pow 10 (-e).toNat
    some (if s then -(m : Int) else m)
  | _ => none

end Decimal

end Billing
