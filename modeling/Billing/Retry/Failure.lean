import Billing.Error
import Billing.Text.Blank
import Billing.Text.Case

/-! # Failure categories

A failed charge falls in one of three categories, which decide how it is retried: soon
(network trouble, timeouts), later (insufficient funds, limits), or never (declined,
stolen or invalid cards, and anything not recognised). A gateway's error code decides when
it is known; otherwise its status does. Codes and statuses are compared after trimming
blanks and upper-casing, both in the Unicode sense. -/
namespace Billing

/-- How a failed charge may be retried. -/
inductive FailureCategory where
  | retriable
  | delayedRetry
  | nonRetriable
  deriving DecidableEq, Inhabited

namespace FailureCategory

/-- The name of a category. -/
def name : FailureCategory → String
  | .retriable => "RETRIABLE"
  | .delayedRetry => "DELAYED_RETRY"
  | .nonRetriable => "NON_RETRIABLE"

/-- Categories by name. -/
def table : List (String × FailureCategory) :=
  [.retriable, .delayedRetry, .nonRetriable].map fun c => (c.name, c)

/-- The category with a name; another value is not a member. -/
def ofValue (v : Value) : Outcome FailureCategory :=
  match v with
  | .str s =>
    match table.lookup s with
    | some c => .ok c
    | none => .error (.notAMember v.literal "FailureCategory")
  | _ => .error (.notAMember v.literal "FailureCategory")

/-- Whether a failure of the category may be retried at all. -/
def isRetriable (c : FailureCategory) : Bool := c ≠ .nonRetriable

/-- Categories of gateway error codes. -/
def errorCodes : List (String × FailureCategory) :=
  [("INSUFFICIENT_FUNDS", .delayedRetry), ("DAILY_LIMIT_EXCEEDED", .delayedRetry),
   ("TEMPORARILY_UNAVAILABLE", .delayedRetry), ("CARD_DECLINED", .nonRetriable),
   ("DO_NOT_HONOR", .nonRetriable), ("STOLEN_CARD", .nonRetriable),
   ("LOST_CARD", .nonRetriable), ("INVALID_CARD", .nonRetriable),
   ("INVALID_REQUEST", .nonRetriable), ("FRAUD_SUSPECTED", .nonRetriable),
   ("GATEWAY_TIMEOUT", .retriable), ("NETWORK_ERROR", .retriable), ("TIMEOUT", .retriable),
   ("SERVICE_UNAVAILABLE", .retriable)]

/-- Categories of gateway statuses. -/
def statuses : List (String × FailureCategory) :=
  [("FAILED", .nonRetriable), ("TIMEOUT", .retriable), ("NETWORK_ERROR", .retriable),
   ("SERVICE_UNAVAILABLE", .retriable), ("PROCESSING", .retriable), ("PENDING", .retriable)]

/-- The error code a gateway call that timed out is reported with. -/
def timeoutCode : String := "GATEWAY_TIMEOUT"

/-- Trims and upper-cases a code; absent is empty. -/
def normalize (s : Option String) : String := Text.upper (Text.trim (s.getD ""))

/-- The category of a gateway failure: a known error code wins over the status, and an
unknown status is not retriable. -/
def ofGateway (status code : Option String) : FailureCategory :=
  match errorCodes.lookup (normalize code) with
  | some c => c
  | none => (statuses.lookup (normalize status)).getD .nonRetriable

/-- Whether `needle` occurs in `hay`. -/
def occursIn (needle : List Char) : List Char → Bool
  | [] => needle.isEmpty
  | c :: rest => needle.isPrefixOf (c :: rest) || occursIn needle rest

/-- The category of a free-text failure message, lower-cased: timeouts and network trouble
are retriable, missing funds or balance are retried later, anything else never. -/
def ofMessage (message : Option String) : FailureCategory :=
  let text := (Text.lower (message.getD "")).toList
  let has (w : String) := occursIn w.toList text
  if text.isEmpty then .nonRetriable
  else if has "timeout" || has "network" then .retriable
  else if has "insufficient funds" || has "balance" then .delayedRetry
  else .nonRetriable

theorem ofGateway_known_code (status : Option String) (code : String) (c : FailureCategory)
    (h : errorCodes.lookup (normalize (some code)) = some c) : ofGateway status (some code) = c := by
  simp [ofGateway, h]

end FailureCategory

end Billing
