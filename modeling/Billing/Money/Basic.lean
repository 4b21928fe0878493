import Billing.Decimal.Text
import Billing.Error
import Billing.Money.Currency
import Billing.Text.Case

/-! # Money

An amount of money is a whole number of minor units (cents) tagged with an ISO 4217 code.
Every operation builds a new amount: arithmetic on decimals runs in the standard 28-digit
context and the result is rounded half away from zero to a whole minor unit. Combining two
currencies is a `currencyMismatch` error.

Main statement: `add_comm`, addition in one currency does not depend on the order. -/
namespace Billing

/-- A whole number of minor units in a currency. -/
structure Money where
  amount : Int
  currency : String
  deriving DecidableEq, Inhabited

/-- The standard context of money arithmetic: 28 digits, ties to even. -/
def moneyContext : Decimal.Context := Decimal.Context.standard

/-- Reads a number argument as a decimal through its text: integers exactly, as long as
their text may be written (4300 digits at most), doubles through their shortest text, text
through the decimal reader. A truth value is refused, and anything else is not a number. -/
def Value.toDecimal : Value → Outcome Decimal
  | .bool _ => .error .booleanAmount
  | .int n =>
    if (Nat.toDigits 10 n.natAbs).length > 4300 then .error .intTextTooLong
    else .ok (Decimal.ofInt n)
  | .float x => .ok (Decimal.ofFloat x)
  | .str s =>
    match Decimal.ofString s with
    | .ok d => .ok d
    | .error e => .error (.decimal e)
  | _ => .error (.decimal .conversionSyntax)

/-- An integer is read exactly when its magnitude has at most 4300 digits, and refused
otherwise. -/
theorem Value.toDecimal_int (n : Int) :
    Value.toDecimal (.int n) =
      if n.natAbs < Nat.pow 10 4300 then .ok (Decimal.ofInt n) else .error .intTextTooLong := by
  have hlen := Nat.length_toDigits_le_iff (b := 10) (n := n.natAbs) (k := 4300) (by decide) (by decide)
  by_cases hn : n.natAbs < Nat.pow 10 4300
  · have hshort : ¬ (Nat.toDigits 10 n.natAbs).length > 4300 := Nat.not_lt.mpr (hlen.mpr hn)
    simp only [Value.toDecimal, hshort, hn, if_false, if_true]
  · have hlong : (Nat.toDigits 10 n.natAbs).length > 4300 := Nat.lt_of_not_le (mt hlen.mp hn)
    simp only [Value.toDecimal, hlong, hn, if_false, if_true]

namespace Money

/-- A decimal rounded to a whole number of minor units, halves away from zero. More than
28 digits, or an infinity, is an invalid operation; a not-a-number has no integer. -/
def roundMinor (d : Decimal) : Outcome Int :=
  match Decimal.quantize moneyContext .halfUp d 0 with
  | .error s => .error (.decimal s)
  | .ok r =>
    match r.truncate? with
    | some n => .ok n
    | none => .error (if r.isNaN then .nanToInteger else .infinityToInteger)

/-- The amount that a decimal gives: a refusal when it is not finite. -/
def amountOfDecimal (d : Decimal) : Outcome (Except IssueKind Int) :=
  if d.isFinite then (roundMinor d).map .ok
  else .ok (.error (.rule "Amount must be finite"))

/-- The amount that a caller's value gives. Integers are taken as they are; a truth value
is an error of its own; a value that is not a number is refused with its literal. -/
def amountOf (v : Value) : Outcome (Except IssueKind Int) :=
  match v with
  | .int n => .ok (.ok n)
  | .bool _ => .error .booleanAmount
  | _ =>
    match v.toDecimal with
    | .error (.decimal _) => .ok (.error (.rule ("Amount is not a number: " ++ v.literal)))
    | .error e => .error e
    | .ok d => amountOfDecimal d

/-- The currency code that a caller's value gives: three characters, upper-cased, in the
ISO list. -/
def currencyOf (v : Value) : Except IssueKind String :=
  match v with
  | .str s =>
    if s.length ≠ 3 then .error (.rule "Currency must be a 3-character ISO code")
    else
      let code := Text.upper s
      if Currency.isKnown code then .ok code else .error (.rule ("Invalid currency code: " ++ s))
  | _ => .error (.rule "Currency must be a 3-character ISO code")

/-- Builds an amount from a checked amount and a currency value; the refusals of both
fields are reported together, the amount's first. -/
def build (amount : Except IssueKind Int) (currency : Value) : Outcome Money :=
  match amount, currencyOf currency with
  | .ok n, .ok c => .ok ⟨n, c⟩
  | a, c =>
    let issues := (match a with
      | .error k => [⟨["amount"], k⟩]
      | .ok _ => []) ++ (match c with
      | .error k => [⟨["currency"], k⟩]
      | .ok _ => [])
    .error (.invalid issues)

/-- An amount from a caller's amount and currency values. -/
def ofValues (amount currency : Value) : Outcome Money := do
  build (← amountOf amount) currency

/-- An amount from a record with `amount` (0 when absent) and `currency` (TWD when
absent). -/
def ofRecord (r : Value) : Outcome Money :=
  ofValues ((r.get? "amount").getD (.int 0)) ((r.get? "currency").getD (.str "TWD"))

/-- The record form of an amount. -/
def toValue (m : Money) : Value := .dict [("amount", .int m.amount), ("currency", .str m.currency)]

/-- An amount from a decimal number of minor units. -/
def ofDecimal (d : Decimal) (currency : Value) : Outcome Money := do
  build (← amountOfDecimal d) currency

/-- An amount in the same currency. -/
def withAmount (m : Money) (n : Int) : Money := ⟨n, m.currency⟩

/-- A decimal number of minor units in the same currency. -/
def withDecimal (m : Money) (d : Decimal) : Outcome Money := ofDecimal d (.str m.currency)

/-- Nothing, in a currency. -/
def zero (currency : Value) : Outcome Money := ofValues (.int 0) currency

/-- A credit: the amount rounded to minor units and made negative. -/
def negative (amount currency : Value) : Outcome Money := do
  let n ← roundMinor (← amount.toDecimal)
  ofValues (.int (-(n.natAbs : Int))) currency

/-- The currency code of a value for looking up its digits: text upper-cased; other values
have no upper case. -/
def codeText (currency : Value) : Outcome String :=
  match currency with
  | .str s => .ok (Text.upper s)
  | v => .error (.missingAttribute (Text.quote v.kindName ++ " object") "upper")

/-- An amount given as a decimal number of major units: the decimal times the currency's
scale, rounded to minor units. -/
def ofMajorDecimal (d : Decimal) (currency : Value) : Outcome Money := do
  let scale := Decimal.ofInt (Int.pow 10 (Currency.precision (← codeText currency)))
  let m ← decimalOutcome (Decimal.mul moneyContext d scale)
  ofDecimal m currency

/-- An amount given in major units (`12.34` dollars is 1234 cents). -/
def ofMajor (amount currency : Value) : Outcome Money := do
  ofMajorDecimal (← amount.toDecimal) currency

/-- Splits `-?digits` then three capital letters, with at most a final line break after. -/
def parseText? (s : String) : Option (Int × String) :=
  let cs := match s.toList.reverse with
    | '\n' :: r => r.reverse
    | _ => s.toList
  let (neg, rest) := match cs with
    | '-' :: r => (true, r)
    | r => (false, r)
  let ds := rest.takeWhile Text.isDigit
  let code := rest.dropWhile Text.isDigit
  match Text.digitsValue? ds, code with
  | some n, [a, b, c] =>
    if [a, b, c].all fun x => 'A' ≤ x ∧ x ≤ 'Z' then
      some (if neg then -(n : Int) else n, String.ofList [a, b, c])
    else none
  | _, _ => none

/-- Reads the form `<minor units><CODE>` that `text` writes. An amount of more than 4300
digits, leading zeros counted, is refused as too long to read. -/
def ofString (s : String) : Outcome Money :=
  match parseText? s with
  | some (n, code) =>
    let count := (s.toList.filter Text.isDigit).length
    if count > 4300 then .error (.tooManyDigits count) else ofValues (.int n) (.str code)
  | none => .error (.money ("Invalid money string format: " ++ Text.quote s))

/-- The error for two currencies that cannot be combined. -/
def mismatch (a b : Money) : Error := .billing (.currencyMismatch a.currency b.currency)

/-- Checks that two amounts share their currency. -/
def sameCurrency (a b : Money) : Outcome Unit :=
  if a.currency = b.currency then .ok () else .error (mismatch a b)

/-- The sum of two amounts in one currency. -/
def add (a b : Money) : Outcome Money := do
  sameCurrency a b
  pure (a.withAmount (a.amount + b.amount))

/-- The difference of two amounts in one currency; it may be negative. -/
def sub (a b : Money) : Outcome Money := do
  sameCurrency a b
  pure (a.withAmount (a.amount - b.amount))

/-- The difference, refused when it would be negative. -/
def subNonneg (a b : Money) : Outcome Money := do
  sameCurrency a b
  if a.amount < b.amount then
    .error (.billing (.money "Insufficient amount"
      [("amount", .int a.amount), ("subtrahend", .int b.amount)]))
  else pure (a.withAmount (a.amount - b.amount))

/-- The total of amounts of one currency: zero in `currency` when there are none, else
starting from zero in `currency` (or in the first amount's currency when it is absent or
empty). -/
def sum (items : List Money) (currency : Option Value) : Outcome Money := do
  match items, currency with
  | [], none => .error (.money "At least one amount or a currency is required")
  | [], some c => zero c
  | first :: _, c =>
    let start := match c with
      | some v => if v.isFalsy then Value.str first.currency else v
      | none => Value.str first.currency
    let z ← zero start
    items.foldlM add z

/-- The amount times a decimal factor. -/
def mulDecimal (m : Money) (f : Decimal) : Outcome Money := do
  m.withDecimal (← decimalOutcome (Decimal.mul moneyContext (Decimal.ofInt m.amount) f))

/-- The amount times a number. -/
def mulBy (m : Money) (factor : Value) : Outcome Money := do
  m.mulDecimal (← factor.toDecimal)

/-- The amount divided by a decimal; a zero divisor is refused. -/
def divDecimal (m : Money) (d : Decimal) : Outcome Money := do
  let isZero ← (Decimal.eqValue d 0).mapError .decimal
  if isZero then .error (.money "Cannot divide by zero")
  else m.withDecimal (← decimalOutcome (Decimal.div moneyContext (Decimal.ofInt m.amount) d))

/-- The amount divided by a number. -/
def divBy (m : Money) (divisor : Value) : Outcome Money := do
  m.divDecimal (← divisor.toDecimal)

/-- `rate` percent of the amount, for a decimal rate. -/
def percentDecimal (m : Money) (rate : Decimal) : Outcome Money := do
  m.mulDecimal (← decimalOutcome (Decimal.div moneyContext rate 100))

/-- `rate` percent of the amount (`5` is five percent). -/
def percent (m : Money) (rate : Value) : Outcome Money := do
  m.percentDecimal (← rate.toDecimal)

/-- The amount with its sign changed. -/
def neg (m : Money) : Money := m.withAmount (-m.amount)

/-- The amount without its sign. -/
def abs (m : Money) : Money := m.withAmount (m.amount.natAbs : Int)

/-- The amount converted to another currency at a positive exchange rate. -/
def convert (m : Money) (currency : Value) (rate : Value) : Outcome Money := do
  let r ← rate.toDecimal
  let nonpositive ← (Decimal.le r 0).mapError .decimal
  if nonpositive then .error (.money "Exchange rate must be positive")
  else ofDecimal (← decimalOutcome (Decimal.mul moneyContext (Decimal.ofInt m.amount) r)) currency

/-- Tax on an amount: the tax, the amount with tax, and the amount without it. -/
structure TaxBreakdown where
  tax : Money
  withTax : Money
  withoutTax : Money

/-- Tax at `rate` percent on top of a net amount. -/
def tax (m : Money) (rate : Value) : Outcome TaxBreakdown := do
  let t ← m.percent rate
  pure ⟨t, ← m.add t, m⟩

/-- Tax at `rate` percent contained in a gross amount: the net part is the amount divided
by `1 + rate/100`, the tax the rest. -/
def taxFromGross (m : Money) (rate : Value) : Outcome TaxBreakdown := do
  let r ← rate.toDecimal
  let part ← decimalOutcome (Decimal.div moneyContext r 100)
  let factor ← decimalOutcome (Decimal.add moneyContext 1 part)
  let net ← m.divDecimal factor
  pure ⟨← m.sub net, m, net⟩

/-- A discount: what is taken off and what remains. -/
structure DiscountBreakdown where
  discount : Money
  final : Money

/-- A discount of `rate` percent, for a rate from 0 to 100. -/
def discount (m : Money) (rate : Value) : Outcome DiscountBreakdown := do
  let r ← rate.toDecimal
  let below ← (Decimal.lt r 0).mapError .decimal
  let above ← (Decimal.lt 100 r).mapError .decimal
  if below || above then .error (.money "Discount rate must be between 0 and 100")
  else
    let d ← m.percentDecimal r
    pure ⟨d, ← m.sub d⟩

/-- The shares of an amount for the leading weights: each the amount times its weight over
the total, rounded to minor units. -/
def leadingShares (m : Money) (total : Decimal) : List Decimal → Outcome (List Int)
  | [] => .ok []
  | w :: ws => do
    let p ← decimalOutcome (Decimal.mul moneyContext (Decimal.ofInt m.amount) w)
    let q ← decimalOutcome (Decimal.div moneyContext p total)
    let s ← roundMinor q
    pure (s :: (← leadingShares m total ws))

/-- Whether some weight is negative, looking at them in order and stopping at the first
negative one; a not-a-number met before it cannot be ordered. -/
def anyNegative : List Decimal → Except Decimal.Signal Bool
  | [] => .ok false
  | w :: ws => do
    if ← Decimal.lt w 0 then pure true else anyNegative ws

/-- Splits an amount in proportion to decimal weights: every share but the last is rounded
on its own and the last takes the remainder, so that the shares add up to the amount. -/
def allocateDecimal (m : Money) (weights : List Decimal) : Outcome (List Money) := do
  if weights.isEmpty then .error (.money "Ratios cannot be empty")
  else
    let negative ← (anyNegative weights).mapError .decimal
    if negative then .error (.money "Ratios cannot be negative")
    else
      let total ← weights.foldlM (fun acc w => decimalOutcome (Decimal.add moneyContext acc w)) 0
      let nonpositive ← (Decimal.le total 0).mapError .decimal
      if nonpositive then .error (.money "Total ratio must be positive")
      else
        let shares ← m.leadingShares total weights.dropLast
        pure ((shares ++ [m.amount - shares.foldr (· + ·) 0]).map m.withAmount)

/-- Splits an amount in proportion to ratios. -/
def allocate (m : Money) (ratios : List Value) : Outcome (List Money) := do
  if ratios.isEmpty then .error (.money "Ratios cannot be empty")
  else m.allocateDecimal (← ratios.mapM Value.toDecimal)

/-- Splits an amount into `parts` equal shares, the remainder on the last. -/
def split (m : Money) (parts : Int) : Outcome (List Money) :=
  if parts ≤ 0 then .error (.money "Parts must be positive")
  else m.allocateDecimal (List.replicate parts.toNat 1)

/-- Compares two amounts of one currency. -/
def compareTo (a b : Money) : Outcome Ordering := do
  sameCurrency a b
  pure (compare a.amount b.amount)

/-- The smaller of two amounts of one currency, the first on a tie. -/
def min (a b : Money) : Outcome Money := do
  let o ← a.compareTo b
  pure (if o ≠ .gt then a else b)

/-- The larger of two amounts of one currency, the first on a tie. -/
def max (a b : Money) : Outcome Money := do
  let o ← a.compareTo b
  pure (if o ≠ .lt then a else b)

/-- The amount in major units, rounded to the 28-digit context. -/
def major (m : Money) : Outcome Decimal :=
  decimalOutcome (Decimal.scaleb moneyContext (Decimal.ofInt m.amount)
    (-(Currency.precision m.currency : Int)))

/-- `<minor units><CODE>`, the form that `ofString` reads. -/
def text (m : Money) : String := toString m.amount ++ m.currency

/-- `Money(<minor units>, '<CODE>')`. -/
def literal (m : Money) : String :=
  "Money(" ++ toString m.amount ++ ", " ++ Text.quote m.currency ++ ")"

theorem add_comm (a b : Money) (h : a.currency = b.currency) : a.add b = b.add a := by
  simp [add, sameCurrency, h, withAmount, Int.add_comm]

end Money

end Billing
