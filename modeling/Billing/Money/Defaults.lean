import Billing.Money.Format
import Billing.Settings

/-! # Default currency and locale

Creating and showing amounts with a default currency and a default locale, checked when
they are set: an unknown currency is an error, an unknown locale falls back to `zh_TW`.
Also the splits that money handling needs: by percentages that add up to 100, and into
named taxes on a gross amount. -/
namespace Billing

/-- A default currency and a default locale for creating and showing amounts. -/
structure MoneyDefaults where
  currency : String
  locale : String
  deriving Inhabited

namespace MoneyDefaults

/-- A locale identifier as given when it resolves to a locale with data, or `zh_TW`. -/
def checkLocale (id : String) : String :=
  match Locale.resolve? id with
  | some _ => id
  | none => "zh_TW"

/-- Defaults from a currency code (any case) and a locale identifier. -/
def make (currency : String) (locale : String) : Outcome MoneyDefaults :=
  let code := Text.upper currency
  if Currency.isKnown code then .ok ⟨code, checkLocale locale⟩
  else .error (.unknownCurrency currency)

/-- An amount in minor units, in `currency` or the default one. -/
def create (d : MoneyDefaults) (amount : Value) (currency : Option Value) : Outcome Money :=
  Money.ofValues amount (match currency with
    | some c => if c.isFalsy then .str d.currency else c
    | none => .str d.currency)

/-- An amount shown in `locale`, or in the default locale when none is given. -/
def format (d : MoneyDefaults) (m : Money) (locale : Option String) : Outcome String :=
  let id := match locale with
    | some l => if l.isEmpty then d.locale else l
    | none => d.locale
  m.format ((Locale.resolve? (checkLocale id)).getD "zh_Hant_TW")

/-- An amount as a record: minor units, currency, major units as text, and its text in the
default locale. -/
def toValue (d : MoneyDefaults) (m : Money) : Outcome Value := do
  let major ← m.major
  let shown ← d.format m none
  pure (.dict [("amount", .int m.amount), ("currency", .str m.currency),
    ("amount_in_major_unit", .str major.toString), ("formatted", .str shown)])

/-- An amount from a record with `amount` and `currency`; a missing key is an error. -/
def ofRecord (r : Value) : Outcome Money := do
  let some a := r.get? "amount" | .error (.missingKey "amount")
  let some c := r.get? "currency" | .error (.missingKey "currency")
  Money.ofValues a c

/-- An amount through major units and back: its major units, then those units times the
currency's scale, rounded again to minor units. -/
def roundTrip (m : Money) : Outcome (Decimal × Money) := do
  let major ← m.major
  let scale := Decimal.ofInt (Int.pow 10 (Currency.precision m.currency))
  let back ← decimalOutcome (Decimal.mul moneyContext major scale)
  pure (major, ← Money.ofDecimal back (.str m.currency))

end MoneyDefaults

namespace Money

/-- Splits an amount by percentages, each from 0 to 100 and together 100 within 0.01. -/
def allocatePercent (m : Money) (percentages : List Value) : Outcome (List Money) := do
  let ps ← percentages.mapM Value.toDecimal
  let outside ← (anyOutside ps).mapError .decimal
  if outside then .error (.money "Percentages must be between 0 and 100")
  else
    let total ← ps.foldlM (fun acc p => decimalOutcome (Decimal.add moneyContext acc p)) 0
    let gap ← decimalOutcome (Decimal.sub moneyContext total 100)
    let gap ← decimalOutcome (Decimal.abs moneyContext gap)
    let tolerance : Decimal := .finite false 1 (-2)
    let far ← (Decimal.lt tolerance gap).mapError .decimal
    if far then .error (.money "Percentages must sum to 100")
    else m.allocateDecimal ps
where
  /-- Whether some percentage is below 0 or above 100, stopping at the first one. -/
  anyOutside : List Decimal → Except Decimal.Signal Bool
    | [] => .ok false
    | p :: ps => do
      if ← Decimal.lt p 0 then pure true
      else if ← Decimal.lt 100 p then pure true
      else anyOutside ps

/-- A named tax on a gross amount: its rate and its amount. -/
structure TaxLine where
  name : String
  rate : Decimal
  amount : Money

/-- Taxes on a gross amount: the lines, their total, and what remains net. -/
structure TaxAllocation where
  net : Money
  taxes : List TaxLine
  total : Money
  gross : Money

/-- Splits a gross amount into named taxes, each `rate` percent of the gross, and the net
rest. -/
def allocateTaxes (gross : Money) (rates : List (String × Value)) : Outcome TaxAllocation := do
  let lines ← rates.mapM fun (name, rate) => do
    let r ← rate.toDecimal
    pure (⟨name, r, ← gross.percent rate⟩ : TaxLine)
  let total ← Money.sum (lines.map (·.amount)) (some (.str gross.currency))
  pure ⟨← gross.sub total, lines, total, gross⟩

end Money

end Billing
