import Billing.Data.Value
import Billing.Decimal.Basic

/-! # Errors

Two kinds of failure leave the engine. Domain errors (`BillingError`) carry a machine code,
an HTTP-like status, a context record and a recovery hint; their family decides the
defaults. Every other failure is a cause of its own (`Error`): invalid fields of a record,
a decimal signal, a date beyond the calendar, and so on. Each cause has one class name
and one message, given by `Error.className` and `Error.message`. -/
namespace Billing

/-- The families of domain errors. -/
inductive ErrorKind where
  | billing
  | money
  | currencyMismatch
  | billingCycle
  | subscription
  | subscriptionNotFound
  | subscriptionState
  | payment
  | paymentNotFound
  | paymentState
  | refund
  | infrastructure
  | gatewayUnavailable
  | persistence
  | collaboratorUnavailable
  deriving DecidableEq, Inhabited

namespace ErrorKind

/-- The class name of a family. -/
def className : ErrorKind → String
  | .billing => "BillingError"
  | .money => "MoneyError"
  | .currencyMismatch => "CurrencyMismatchError"
  | .billingCycle => "BillingCycleError"
  | .subscription => "SubscriptionError"
  | .subscriptionNotFound => "SubscriptionNotFoundError"
  | .subscriptionState => "SubscriptionStateError"
  | .payment => "PaymentError"
  | .paymentNotFound => "PaymentNotFoundError"
  | .paymentState => "PaymentStateError"
  | .refund => "RefundError"
  | .infrastructure => "InfrastructureError"
  | .gatewayUnavailable => "GatewayUnavailableError"
  | .persistence => "PersistenceError"
  | .collaboratorUnavailable => "CollaboratorUnavailableError"

/-- All families, for looking one up by its class name. -/
def all : List ErrorKind :=
  [.billing, .money, .currencyMismatch, .billingCycle, .subscription, .subscriptionNotFound,
   .subscriptionState, .payment, .paymentNotFound, .paymentState, .refund, .infrastructure,
   .gatewayUnavailable, .persistence, .collaboratorUnavailable]

/-- The family with a class name. -/
def ofClassName? (name : String) : Option ErrorKind := all.find? (·.className == name)

/-- Errors of money arithmetic. -/
def isMoney : ErrorKind → Bool
  | .money | .currencyMismatch => true
  | _ => false

/-- Errors about subscriptions. -/
def isSubscription : ErrorKind → Bool
  | .subscription | .subscriptionNotFound | .subscriptionState => true
  | _ => false

/-- Errors about payments. -/
def isPayment : ErrorKind → Bool
  | .payment | .paymentNotFound | .paymentState | .refund => true
  | _ => false

/-- Faults of a collaborator, safe to retry once it recovers. -/
def isInfrastructure : ErrorKind → Bool
  | .infrastructure | .gatewayUnavailable | .persistence | .collaboratorUnavailable => true
  | _ => false

end ErrorKind

/-- A domain error. -/
structure BillingError where
  kind : ErrorKind
  message : String
  code : String
  status : Int
  context : Fields
  hint : Option String
  deriving Inhabited

namespace BillingError

/-- The hint of infrastructure faults. -/
def retryHint : String := "Retry the billing run once the dependency is reachable"

/-- A money error. -/
def money (message : String) (context : Fields) : BillingError :=
  ⟨.money, message, "MONEY_ERROR", 400, context, none⟩

/-- Two amounts in different currencies were combined. -/
def currencyMismatch (left right : String) : BillingError :=
  ⟨.currencyMismatch, s!"Currency mismatch: {left} != {right}", "CURRENCY_MISMATCH", 400,
    [("left_currency", .str left), ("right_currency", .str right)],
    some "Convert one amount explicitly before combining them"⟩

/-- Inconsistent cycle or period parameters. -/
def billingCycle (message : String) (context : Fields) : BillingError :=
  ⟨.billingCycle, message, "BILLING_CYCLE_ERROR", 400, context,
    some "Check cadence, interval days and anchor day"⟩

/-- A subscription that is not stored. -/
def subscriptionNotFound (message : String) (id : Option String) : BillingError :=
  ⟨.subscriptionNotFound, message, "SUBSCRIPTION_NOT_FOUND", 404,
    match id with
    | some i => if i.isEmpty then [] else [("subscription_id", .str i)]
    | none => [],
    some "Verify the subscription ID and ensure it exists"⟩

/-- A subscription transition that is not allowed. -/
def subscriptionState (message current requested : String) : BillingError :=
  ⟨.subscriptionState, message, "INVALID_SUBSCRIPTION_STATE", 400,
    [("current_state", .str current), ("requested_state", .str requested)],
    some s!"Cannot transition from {current} to {requested}. Check subscription status first."⟩

/-- A payment that is not stored. -/
def paymentNotFound (message : String) (id : Option String) : BillingError :=
  ⟨.paymentNotFound, message, "PAYMENT_NOT_FOUND", 404,
    match id with
    | some i => if i.isEmpty then [] else [("payment_id", .str i)]
    | none => [],
    none⟩

/-- A payment transition that is not allowed. -/
def paymentState (message current requested : String) : BillingError :=
  ⟨.paymentState, message, "INVALID_PAYMENT_STATE", 400,
    [("current_state", .str current), ("requested_state", .str requested)],
    some s!"Cannot move payment from {current} to {requested}"⟩

/-- A refund that cannot be applied. -/
def refund (message : String) (paymentId : Option String) : BillingError :=
  ⟨.refund, message, "REFUND_ERROR", 400,
    match paymentId with
    | some i => if i.isEmpty then [] else [("payment_id", .str i)]
    | none => [],
    some "Refund at most the amount not yet refunded, in the payment currency"⟩

/-- The gateway could not be reached. -/
def gatewayUnavailable (message : String) (subscriptionId : Option String) : BillingError :=
  ⟨.gatewayUnavailable, message, "GATEWAY_UNAVAILABLE", 503,
    match subscriptionId with
    | some i => if i.isEmpty then [] else [("subscription_id", .str i)]
    | none => [],
    some retryHint⟩

/-- The repository refused a read or a write. -/
def persistence (message : String) (entityId : Option String) : BillingError :=
  ⟨.persistence, message, "PERSISTENCE_ERROR", 503,
    match entityId with
    | some i => if i.isEmpty then [] else [("entity_id", .str i)]
    | none => [],
    some retryHint⟩

/-- The payment-method validator or the discount resolver failed. -/
def collaboratorUnavailable (message collaborator : String) (subscriptionId : Option String) :
    BillingError :=
  ⟨.collaboratorUnavailable, message, "COLLABORATOR_UNAVAILABLE", 503,
    ("collaborator", .str collaborator) ::
      (match subscriptionId with
       | some i => if i.isEmpty then [] else [("subscription_id", .str i)]
       | none => []),
    some retryHint⟩

/-- The error as a record: code, message, status, context and hint. -/
def toFields (e : BillingError) : Fields :=
  [("error_code", .str e.code), ("message", .str e.message), ("status_code", .int e.status),
   ("context", .dict e.context), ("recovery_hint", match e.hint with
     | some h => .str h
     | none => .null)]

end BillingError

/-- Why a field of a record was refused. -/
inductive IssueKind where
  | greaterThanEqual
  | greaterThan
  | lessThan
  | lessThanEqual
  | enum
  | missing
  | intParsing
  /-- Integer text too long, or a double too large, for an integer field. -/
  | intParsingSize
  | intFromFloat
  /-- An infinity or NaN where a finite number is needed. -/
  | finiteNumber
  | intType
  | floatParsing
  | floatType
  | stringType
  | boolParsing
  | boolType
  | dateParsing
  | dateType
  | dateFromDatetimeInexact
  | datetimeParsing
  | datetimeType
  | dictType
  | listType
  | modelType
  /-- A rule of the record itself refused the value, with its reason. -/
  | rule (reason : String)
  deriving DecidableEq, Inhabited

/-- The code of an issue kind. -/
def IssueKind.code : IssueKind → String
  | .greaterThanEqual => "greater_than_equal"
  | .greaterThan => "greater_than"
  | .lessThan => "less_than"
  | .lessThanEqual => "less_than_equal"
  | .enum => "enum"
  | .missing => "missing"
  | .intParsing => "int_parsing"
  | .intParsingSize => "int_parsing_size"
  | .finiteNumber => "finite_number"
  | .intFromFloat => "int_from_float"
  | .intType => "int_type"
  | .floatParsing => "float_parsing"
  | .floatType => "float_type"
  | .stringType => "string_type"
  | .boolParsing => "bool_parsing"
  | .boolType => "bool_type"
  | .dateParsing => "date_parsing"
  | .dateType => "date_type"
  | .dateFromDatetimeInexact => "date_from_datetime_inexact"
  | .datetimeParsing => "datetime_parsing"
  | .datetimeType => "datetime_type"
  | .dictType => "dict_type"
  | .listType => "list_type"
  | .modelType => "model_type"
  | .rule reason => "value_error:" ++ reason

/-- A refused field: where it is (empty for a rule over the whole record) and why. -/
structure Issue where
  loc : List String
  kind : IssueKind
  deriving DecidableEq, Inhabited

/-- `loc:code`, the path joined by dots. -/
def Issue.text (i : Issue) : String := ".".intercalate i.loc ++ ":" ++ i.kind.code

/-- The same issue one level deeper, under field `name`. -/
def Issue.under (name : String) (i : Issue) : Issue := ⟨name :: i.loc, i.kind⟩

/-- Why an operation failed. -/
inductive Error where
  /-- A domain error. -/
  | billing (e : BillingError)
  /-- Fields of a record were refused. -/
  | invalid (issues : List Issue)
  /-- A decimal operation signalled. -/
  | decimal (s : Decimal.Signal)
  /-- A truth value was given as an amount. -/
  | booleanAmount
  /-- A time with an offset was compared with one without. -/
  | naiveAwareComparison
  /-- A date beyond 9999-12-31 or before 0001-01-01. -/
  | dateOutOfRange
  /-- A year beyond 1 to 9999 in calendar arithmetic. -/
  | yearOutOfRange (year : Int)
  /-- A double operation overflowed. -/
  | floatOverflow
  /-- A value that is not one of a closed set of names, shown as its literal. -/
  | notAMember (literal : String) (setName : String)
  /-- A currency code that is not in the ISO 4217 list. -/
  | unknownCurrency (code : String)
  /-- A jitter ratio outside `[0, 1)`. -/
  | jitterRatio
  /-- A record lacks a key. -/
  | missingKey (key : String)
  /-- A not-a-number where an integer was needed. -/
  | nanToInteger
  /-- An infinity where an integer was needed. -/
  | infinityToInteger
  /-- An argument list that does not fit a constructor. -/
  | arguments (message : String)
  /-- Text that is not an ISO 8601 date or time. -/
  | invalidIsoText (text : String)
  /-- A date or time field beyond its range, with the rule it breaks. -/
  | calendarField (rule : String)
  /-- A duration of more than 999999999 days either way. -/
  | durationDays (days : Int)
  /-- A whole number beyond the 32-bit machine range where one was needed. -/
  | machineIntOverflow
  /-- A whole number beyond the range of doubles where a double was needed. -/
  | intTooLargeForFloat
  /-- A double infinity where an integer was needed. -/
  | floatInfinityToInteger
  /-- A double NaN where an integer was needed. -/
  | floatNanToInteger
  /-- Two values compared with an operator that does not order them. -/
  | unordered (op left right : String)
  /-- A negative number of slots for concurrent runs. -/
  | negativeSlots
  /-- A component of a duration given as something other than a number. -/
  | durationComponent (unit kind : String)
  /-- Integer text with more digits than an integer may be read from (4300). -/
  | tooManyDigits (count : Nat)
  /-- An integer with more digits than may be written out as text (4300). -/
  | intTextTooLong
  /-- A request naming something this library does not offer. -/
  | unsupported (message : String)
  /-- A trial of a negative number of days. -/
  | negativeTrial
  /-- A UTC offset, in microseconds, of a full day or more either way. -/
  | offsetOutOfRange (micros : Int)
  /-- ISO 8601 reading was given something other than text. -/
  | isoNotText
  /-- A membership test on a value that holds no members, named by its kind. -/
  | notIterable (kind : String)
  /-- An attribute that a thing does not have: the thing as messages name it, and the
  attribute. -/
  | missingAttribute (owner attr : String)
  /-- An operator applied to operands of kinds it does not take. -/
  | operands (op left right : String)
  /-- A prefix operator applied to an operand of a kind it does not take. -/
  | unaryOperand (op kind : String)
  /-- Text or a list repeated a number of times that is not whole. -/
  | sequenceTimes (kind : String)
  deriving Inhabited

namespace Error

/-- A money error. -/
def money (message : String) : Error := .billing (.money message [])

/-- One refused field. -/
def issue (loc : List String) (kind : IssueKind) : Error := .invalid [⟨loc, kind⟩]

/-- The class name of an error. -/
def className : Error → String
  | .billing e => e.kind.className
  | .invalid _ => "ValidationError"
  | .decimal .divisionByZero => "DivisionByZero"
  | .decimal .overflow => "Overflow"
  | .decimal _ => "InvalidOperation"
  | .booleanAmount | .naiveAwareComparison | .arguments _ | .isoNotText | .notIterable _
  | .durationComponent .. | .unordered .. | .operands .. | .unaryOperand .. | .sequenceTimes _ =>
    "TypeError"
  | .dateOutOfRange | .floatOverflow | .infinityToInteger | .durationDays _
  | .machineIntOverflow | .intTooLargeForFloat | .floatInfinityToInteger => "OverflowError"
  | .yearOutOfRange _ | .notAMember .. | .unknownCurrency _ | .jitterRatio | .nanToInteger
  | .invalidIsoText _ | .calendarField _ | .unsupported _ | .negativeTrial
  | .offsetOutOfRange _ | .floatNanToInteger | .tooManyDigits _ | .intTextTooLong
  | .negativeSlots => "ValueError"
  | .missingKey _ => "KeyError"
  | .missingAttribute .. => "AttributeError"

/-- The name a decimal signal is listed under. -/
def signalName : Decimal.Signal → String
  | .invalidOperation => "InvalidOperation"
  | .conversionSyntax => "ConversionSyntax"
  | .divisionByZero => "DivisionByZero"
  | .divisionUndefined => "DivisionUndefined"
  | .overflow => "Overflow"

/-- A span of microseconds as a duration literal: its days, seconds and microseconds once
the seconds and microseconds are brought into their ranges, each shown when it is not zero,
and `0` when none is. -/
def durationLiteral (us : Int) : String :=
  let day : Int := 86400000000
  let days := us / day
  let secs := us % day / 1000000
  let micro := us % 1000000
  let parts := (if days ≠ 0 then [s!"days={days}"] else []) ++
    (if secs ≠ 0 then [s!"seconds={secs}"] else []) ++
    (if micro ≠ 0 then [s!"microseconds={micro}"] else [])
  "datetime.timedelta(" ++ (if parts.isEmpty then "0" else ", ".intercalate parts) ++ ")"

example : durationLiteral (-86400000000) = "datetime.timedelta(days=-1)" := by decide +kernel

/-- The message of an error. -/
def message : Error → String
  | .billing e => e.message
  | .invalid issues => "; ".intercalate (issues.map Issue.text)
  | .decimal s => "[<class " ++ Text.quote ("decimal." ++ signalName s) ++ ">]"
  | .booleanAmount => "Booleans are not amounts"
  | .naiveAwareComparison => "can" ++ String.singleton Text.apostrophe ++
      "t compare offset-naive and offset-aware datetimes"
  | .dateOutOfRange => "date value out of range"
  | .yearOutOfRange y => s!"year {y} is out of range"
  | .floatOverflow => "(34, " ++ Text.quote "Numerical result out of range" ++ ")"
  | .notAMember lit setName => s!"{lit} is not a valid {setName}"
  | .unknownCurrency code => s!"Invalid currency code: {code}"
  | .jitterRatio => "Jitter ratio must be in [0, 1)"
  | .missingKey key => Text.quote key
  | .nanToInteger => "cannot convert NaN to integer"
  | .infinityToInteger => "cannot convert Infinity to integer"
  | .arguments m => m
  | .invalidIsoText t => "Invalid isoformat string: " ++ Text.quote t
  | .calendarField rule => rule
  | .durationDays d => s!"days={d}; must have magnitude <= 999999999"
  | .machineIntOverflow => "Python int too large to convert to C int"
  | .intTooLargeForFloat => "int too large to convert to float"
  | .floatInfinityToInteger => "cannot convert float infinity to integer"
  | .floatNanToInteger => "cannot convert float NaN to integer"
  | .unordered op left right =>
    Text.quote op ++ " not supported between instances of " ++ Text.quote left ++ " and " ++ Text.quote right
  | .negativeSlots => "Semaphore initial value must be >= 0"
  | .durationComponent unit kind => "unsupported type for timedelta " ++ unit ++ " component: " ++ kind
  | .tooManyDigits n => "Exceeds the limit (4300 digits) for integer string conversion: value has " ++
      toString n ++ " digits; use sys.set_int_max_str_digits() to increase the limit"
  | .intTextTooLong => "Exceeds the limit (4300 digits) for integer string conversion; " ++
      "use sys.set_int_max_str_digits() to increase the limit"
  | .unsupported m => m
  | .negativeTrial => "trial_days cannot be negative"
  | .offsetOutOfRange us => "offset must be a timedelta strictly between -timedelta(hours=24) and " ++
      "timedelta(hours=24), not " ++ durationLiteral us ++ "."
  | .isoNotText => "fromisoformat: argument must be str"
  | .notIterable kind => "argument of type " ++ Text.quote kind ++ " is not iterable"
  | .missingAttribute owner attr => owner ++ " has no attribute " ++ Text.quote attr
  | .operands op left right =>
    "unsupported operand type(s) for " ++ op ++ ": " ++ Text.quote left ++ " and " ++ Text.quote right
  | .unaryOperand op kind => "bad operand type for unary " ++ op ++ ": " ++ Text.quote kind
  | .sequenceTimes kind => "can" ++ String.singleton Text.apostrophe ++
      "t multiply sequence by non-int of type " ++ Text.quote kind

end Error

/-- A computation that may fail with an `Error`. -/
abbrev Outcome := Except Error

/-- A decimal result as an outcome. -/
def decimalOutcome (r : Decimal.Result) : Outcome Decimal := r.mapError .decimal

/-- A result read back from its option. -/
theorem Outcome.ok_of_toOption {α : Type} {x : Outcome α} {a : α} (h : x.toOption = some a) :
    x = .ok a := by
  cases x <;> simp_all [Except.toOption]

/-- A bind of results succeeds exactly when its first part does and the rest succeeds on
its value. -/
theorem Except.bind_eq_ok {ε α β : Type} {x : Except ε α} {f : α → Except ε β} {b : β} :
    (x >>= f) = .ok b ↔ ∃ a, x = .ok a ∧ f a = .ok b := by
  cases x <;> simp [bind, Except.bind]

end Billing
