import Billing.Status.Transition

/-! # Payment statuses

A payment attempt is pending, then processing at the gateway, then succeeded or failed. A
failed attempt may be retried (bounded by the retry policy of its failure category) or
canceled. A succeeded payment is final for the charge but still accepts refunds, partial
or full; a full refund is terminal. -/
namespace Billing

/-- The status of a payment attempt. -/
inductive PaymentStatus where
  | pending
  | processing
  | succeeded
  | failed
  | retrying
  | canceled
  | refunded
  | partiallyRefunded
  deriving DecidableEq, Inhabited

namespace PaymentStatus

/-- The name of a status. -/
def name : PaymentStatus → String
  | .pending => "PENDING"
  | .processing => "PROCESSING"
  | .succeeded => "SUCCEEDED"
  | .failed => "FAILED"
  | .retrying => "RETRYING"
  | .canceled => "CANCELED"
  | .refunded => "REFUNDED"
  | .partiallyRefunded => "PARTIALLY_REFUNDED"

instance : StatusSet PaymentStatus :=
  ⟨name, [.pending, .processing, .succeeded, .failed, .retrying, .canceled, .refunded,
    .partiallyRefunded], "PaymentStatus"⟩

/-- The statuses a payment may move to. -/
def next : PaymentStatus → List PaymentStatus
  | .pending => [.processing, .canceled]
  | .processing => [.succeeded, .failed, .canceled]
  | .failed => [.retrying, .canceled]
  | .retrying => [.processing, .canceled]
  | .succeeded => [.refunded, .partiallyRefunded]
  | .partiallyRefunded => [.refunded]
  | .canceled => []
  | .refunded => []

/-- Statuses that end the charge; a succeeded payment still accepts refunds. -/
def isTerminal : PaymentStatus → Bool
  | .succeeded | .canceled | .refunded => true
  | _ => false

/-- The statuses a refund leads to. -/
def isRefund : PaymentStatus → Bool
  | .refunded | .partiallyRefunded => true
  | _ => false

/-- The guard of retrying: a failure category whose policy still allows a retry. -/
def guardRetrying (ctx : TransitionContext) : TransitionResult :=
  match ctx.failureCategory with
  | none => .reject "Failure category is required for retry"
  | some c =>
    let p := RetryPolicy.ofCategory c
    if p.maxRetries = 0 then .reject "Payment failure is not retriable"
    else if ctx.attemptNumber ≥ p.maxRetries then .reject "Maximum retry attempts exceeded"
    else .accept (some "Payment entered retry state") []

/-- The guard of refunds: a refund amount must be given. -/
def guardRefund (ctx : TransitionContext) : TransitionResult :=
  match ctx.refundAmount with
  | none => .reject "Refund amount is required"
  | some _ => .accept (some "Payment refund processed") []

/-- The payment status graph with its guards. -/
def graph : StatusGraph PaymentStatus where
  next := next
  terminal := isTerminal
  guard := fun target _ ctx => match target with
    | .retrying => some (guardRetrying ctx)
    | .refunded | .partiallyRefunded => some (guardRefund ctx)
    | _ => none

/-- Checks a requested status change; refunds of a succeeded payment go to the refund
guard directly. -/
def validate (source target : PaymentStatus) (ctx : TransitionContext) : TransitionResult :=
  if source = .succeeded ∧ target.isRefund then guardRefund ctx
  else graph.validate source target ctx

end PaymentStatus

end Billing
