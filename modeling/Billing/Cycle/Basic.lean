import Billing.Data.Field

/-! # Billing cycles

A cycle says how often a subscription is billed: every day, week, month, quarter or year,
or every `n` days. Monthly, quarterly and yearly cycles may be anchored to a day of the
month; a month shorter than the anchor bills on its last day. The next billing date is
exactly one cadence unit later: one month after 31 January is the last day of February.

Main statements: `nextDate_daily` and `nextDate_custom` give the fixed-length cadences. -/
namespace Billing

/-- How often billing recurs. -/
inductive Cadence where
  | daily
  | weekly
  | monthly
  | quarterly
  | yearly
  | custom
  deriving DecidableEq, Inhabited

namespace Cadence

/-- The name of a cadence. -/
def name : Cadence → String
  | .daily => "DAILY"
  | .weekly => "WEEKLY"
  | .monthly => "MONTHLY"
  | .quarterly => "QUARTERLY"
  | .yearly => "YEARLY"
  | .custom => "CUSTOM"

/-- Cadences by name. -/
def table : List (String × Cadence) :=
  [.daily, .weekly, .monthly, .quarterly, .yearly, .custom].map fun c => (c.name, c)

/-- Cadences that bill on a day of the month. -/
def isAnchored : Cadence → Bool
  | .monthly | .quarterly | .yearly => true
  | _ => false

/-- Months in one step of a monthly, quarterly or yearly cadence. -/
def months : Cadence → Nat
  | .monthly => 1
  | .quarterly => 3
  | .yearly => 12
  | _ => 0

/-- The average length of a cadence in days, the denominator of average proration. -/
def averageDays : Cadence → Int
  | .daily => 1
  | .weekly => 7
  | .monthly => 30
  | .quarterly => 90
  | .yearly => 365
  | .custom => 0

end Cadence

/-- How a part of a period is priced: against the cadence's average length or against
the period's real length. -/
inductive ProrationMethod where
  | cadenceAverage
  | exact
  deriving DecidableEq, Inhabited

namespace ProrationMethod

/-- The name of a method. -/
def name : ProrationMethod → String
  | .cadenceAverage => "cadence_average"
  | .exact => "exact"

/-- Methods by name. -/
def table : List (String × ProrationMethod) := [("cadence_average", .cadenceAverage), ("exact", .exact)]

/-- The method with a name; another value is not a member. -/
def ofValue (v : Value) : Outcome ProrationMethod :=
  match v with
  | .str s =>
    match table.lookup s with
    | some m => .ok m
    | none => .error (.notAMember v.literal "ProrationMethod")
  | _ => .error (.notAMember v.literal "ProrationMethod")

end ProrationMethod

/-- A billing cycle: a cadence, the length of a custom cadence, and an anchor day. -/
structure Cycle where
  cadence : Cadence
  intervalDays : Option Int
  anchorDay : Option Int
  deriving DecidableEq, Inhabited

namespace Cycle

/-- Checks a cycle's fields (an interval of at least one day, an anchor from 1 to 31), then
its rules: an anchor only for monthly, quarterly and yearly cadences, an interval exactly
for custom ones. -/
def check (cadence interval anchor : Value) : Checked Cycle := do
  let fields := Checked.both (Checked.field "cadence" (Field.oneOf Cadence.table cadence))
    (Checked.both
      (Checked.field "interval_days" (do
        match ← Field.optInt interval with
        | some n => some <$> Field.atLeast 1 n
        | none => pure none))
      (Checked.field "anchor_day" (do
        match ← Field.optInt anchor with
        | some n => some <$> (Field.atLeast 1 n >>= Field.atMost 31)
        | none => pure none)))
  let (c, i, a) ← fields
  let cycle : Cycle := ⟨c, i, a⟩
  let cycle ← Checked.rule (a.isNone || c.isAnchored)
    ("Anchor day is not supported for " ++ c.name ++ " cycles") cycle
  let cycle ← Checked.rule (c ≠ .custom || i.isSome) "Custom cycles require interval_days" cycle
  Checked.rule (c = .custom || i.isNone) "interval_days is only valid for custom cycles" cycle

/-- A cycle from a record with the entries `cadence` (monthly when absent), `interval_days`
and `anchor_day`. -/
def ofRecord (r : Value) : Outcome Cycle :=
  (check (Field.entry r "cadence" (.str "MONTHLY")) (Field.entry r "interval_days" .null)
    (Field.entry r "anchor_day" .null)).run

/-- A monthly cycle, optionally anchored. -/
def monthly (anchor : Value) : Outcome Cycle := (check (.str "MONTHLY") .null anchor).run

/-- A yearly cycle, optionally anchored. -/
def yearly (anchor : Value) : Outcome Cycle := (check (.str "YEARLY") .null anchor).run

/-- A cycle of `interval` days. -/
def custom (interval : Value) : Outcome Cycle := (check (.str "CUSTOM") interval .null).run

/-- The cycle named by a cadence, blanks and case ignored; an unknown name is monthly, and a
custom cadence cannot be named without its interval. -/
def ofName (s : String) : Outcome Cycle :=
  match Cadence.table.lookup (Text.upper (Text.trim s)) with
  | none => .ok ⟨.monthly, none, none⟩
  | some .custom =>
    .error (.billing (.billingCycle "Custom cycles need interval_days" [("value", .str s)]))
  | some c => .ok ⟨c, none, none⟩

/-- The parameters of the named cycle constructors, and how many of them are required. -/
def constructorParameters : String → Option (List String × Nat)
  | "monthly" | "yearly" => some (["anchor_day"], 0)
  | "custom" => some (["interval_days"], 1)
  | "from_string" => some (["value"], 1)
  | _ => none

/-- A cycle from a named constructor and its arguments by name: `monthly` and `yearly` take
an optional anchor day, `custom` an interval and `from_string` a cadence name. An unknown
constructor, an unknown argument or a missing one is refused as a call would be. -/
def ofConstructor (name : Value) (args : Fields) : Outcome Cycle := do
  let .str n := name | .error (.arguments ("attribute name must be string, not " ++ Text.quote name.kindName))
  let some (params, required) := constructorParameters n
    | .error (.missingAttribute ("type object " ++ Text.quote "BillingCycle") n)
  let callee := "BillingCycle." ++ n ++ "()"
  if let some (k, _) := args.find? (fun e => !params.contains e.1) then
    .error (.arguments (callee ++ " got an unexpected keyword argument " ++ Text.quote k))
  let missing := (params.take required).filter fun p => (args.lookup p).isNone
  if let p :: _ := missing then
    .error (.arguments (callee ++ " missing 1 required positional argument: " ++ Text.quote p))
  let arg (k : String) : Value := (args.lookup k).getD .null
  match n with
  | "monthly" => monthly (arg "anchor_day")
  | "yearly" => yearly (arg "anchor_day")
  | "custom" => custom (arg "interval_days")
  | _ =>
    match arg "value" with
    | .str s => ofName s
    | v => .error (.missingAttribute (Text.quote v.kindName ++ " object") "strip")

/-- A cycle given by name, by a named constructor (the entry `factory`) with its arguments,
or as a record. Anything else cannot be searched for a constructor, or is not a record. -/
def ofSpec (v : Value) : Outcome Cycle :=
  match v with
  | .str s => ofName s
  | .dict fs =>
    match fs.lookup "factory" with
    | some f => ofConstructor f (fs.filter fun e => e.1 ≠ "factory")
    | none => ofRecord v
  | .list _ => .error (.arguments ("recurring_billing.billing_cycle.BillingCycle() argument after ** " ++
      "must be a mapping, not list"))
  | other => .error (.notIterable other.kindName)

/-- `daily`, `monthly on day 15`, `every 10 days`. -/
def description (c : Cycle) : String :=
  match c.cadence with
  | .custom => "every " ++ (match c.intervalDays with
    | some n => toString n
    | none => "None") ++ " days"
  | cad =>
    let label := Text.lower cad.name
    match c.anchorDay with
    | some a => if a ≠ 0 then label ++ " on day " ++ toString a else label
    | none => label

/-- The average length of the cycle in days: the interval of a custom cycle. -/
def totalDays (c : Cycle) : Int :=
  match c.cadence with
  | .custom => c.intervalDays.getD 0
  | cad => cad.averageDays

/-- The next billing date: one cadence unit later, moved to the anchor day (or the month's
last day) for an anchored cycle. -/
def nextDate (c : Cycle) (d : Date) : Outcome Date :=
  match c.cadence with
  | .daily => d.addDays 1
  | .weekly => d.addDays 7
  | .custom => d.addDays (c.intervalDays.getD 0)
  | cad => do
    let next ← d.addMonths cad.months
    match c.anchorDay with
    | some a => if a ≠ 0 then pure (next.withDayAtMost a.toNat) else pure next
    | none => pure next

theorem nextDate_daily (a i : Option Int) (d : Date) : (⟨.daily, i, a⟩ : Cycle).nextDate d = d.addDays 1 := rfl

theorem nextDate_custom (a : Option Int) (n : Int) (d : Date) :
    (⟨.custom, some n, a⟩ : Cycle).nextDate d = d.addDays n := rfl

/-- The record form of a cycle. -/
def toValue (c : Cycle) : Value :=
  let opt : Option Int → Value := fun o => match o with
    | some n => .int n
    | none => .null
  .dict [("cadence", .str c.cadence.name), ("interval_days", opt c.intervalDays),
    ("anchor_day", opt c.anchorDay)]

end Cycle

end Billing
