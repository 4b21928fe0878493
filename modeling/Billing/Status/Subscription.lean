import Billing.Status.Transition

/-! # Subscription statuses

A subscription is pending until it starts, then trialing or active. Active subscriptions
may be paused, enter a grace period or retries after a failed charge, be canceled, or be
refunded. Grace period, retry and past due are delinquent: only a resolved payment brings
them back to active. Expired and refunded subscriptions are terminal; canceled ones may
still be refunded. -/
namespace Billing

/-- The lifecycle status of a subscription. -/
inductive SubscriptionStatus where
  | pending
  | trialing
  | active
  | paused
  | gracePeriod
  | retry
  | pastDue
  | expired
  | canceled
  | refunded
  deriving DecidableEq, Inhabited

namespace SubscriptionStatus

/-- The name of a status. -/
def name : SubscriptionStatus → String
  | .pending => "PENDING"
  | .trialing => "TRIALING"
  | .active => "ACTIVE"
  | .paused => "PAUSED"
  | .gracePeriod => "GRACE_PERIOD"
  | .retry => "RETRY"
  | .pastDue => "PAST_DUE"
  | .expired => "EXPIRED"
  | .canceled => "CANCELED"
  | .refunded => "REFUNDED"

instance : StatusSet SubscriptionStatus :=
  ⟨name, [.pending, .trialing, .active, .paused, .gracePeriod, .retry, .pastDue, .expired,
    .canceled, .refunded], "SubscriptionStatus"⟩

/-- The statuses a subscription may move to. -/
def next : SubscriptionStatus → List SubscriptionStatus
  | .pending => [.trialing, .active, .retry, .expired, .canceled]
  | .trialing => [.active, .expired, .canceled]
  | .active => [.paused, .gracePeriod, .retry, .canceled, .refunded]
  | .paused => [.active, .canceled, .expired]
  | .gracePeriod => [.active, .retry, .pastDue, .expired, .canceled]
  | .retry => [.active, .gracePeriod, .pastDue, .expired, .canceled]
  | .pastDue => [.active, .retry, .expired, .canceled]
  | .canceled => [.refunded]
  | .expired => []
  | .refunded => []

/-- Statuses nothing leaves. -/
def isTerminal : SubscriptionStatus → Bool
  | .expired | .refunded => true
  | _ => false

/-- Statuses left behind by a failed collection, which a payment can resolve. -/
def isDelinquent : SubscriptionStatus → Bool
  | .gracePeriod | .retry | .pastDue => true
  | _ => false

/-- Statuses in which the customer keeps service. -/
def isActive : SubscriptionStatus → Bool
  | .trialing | .active | .gracePeriod => true
  | _ => false

/-- The guard of activation: a first payment must have succeeded, a delinquent one must be
resolved. -/
def guardActive (source : SubscriptionStatus) (ctx : TransitionContext) : TransitionResult :=
  if source = .pending ∧ !ctx.paymentSuccessful then
    .reject "Payment must be successful to activate subscription"
  else if source.isDelinquent ∧ !ctx.paymentResolved then
    .reject "Payment issue must be resolved to reactivate subscription"
  else .accept (some "Subscription activated") []

/-- The guard of the grace period: only after a failed payment, from active or retry. -/
def guardGrace (source : SubscriptionStatus) (ctx : TransitionContext) : TransitionResult :=
  if source ≠ .active ∧ source ≠ .retry then
    .reject "Grace period can only be entered from ACTIVE or RETRY state"
  else if !ctx.paymentFailed then .reject "Grace period requires payment failure"
  else .accept (some "Subscription entered grace period") []

/-- The guard of retries: the retry policy must allow one, the failure must be retriable,
and retries must be left. -/
def guardRetry (ctx : TransitionContext) : TransitionResult :=
  match ctx.retryDecision with
  | some d =>
    if !d.shouldRetry then
      let why := d.reason.name
      .reject (if why.isEmpty then "Retry not allowed by retry policy" else why)
    else rest (some d)
  | none => rest none
where
  /-- The checks after the policy's decision. -/
  rest (d : Option RetryDecision) : TransitionResult :=
    if !ctx.isRetriable then .reject "Payment failure is not retriable"
    else if ctx.currentRetries ≥ ctx.maxRetries then .reject "Maximum retry attempts exceeded"
    else
      let extra : Fields := match d with
        | some d => [("next_retry_at", match d.nextAt with
            | some t => .str t.text
            | none => .null), ("retry_strategy", .str d.strategy.name)]
        | none => []
      .accept (some "Subscription entered retry state") extra

/-- The guard of cancellation: not from a terminal status, and with a reason. -/
def guardCanceled (source : SubscriptionStatus) (ctx : TransitionContext) : TransitionResult :=
  if source.isTerminal then .reject "Cannot cancel subscription from terminal state"
  else if (Text.trim (ctx.reason.getD "")).isEmpty then .reject "Cancellation reason is required"
  else .accept (some "Subscription canceled") []

/-- The guard of refunds: only canceled subscriptions, once the refund is approved. -/
def guardRefunded (source : SubscriptionStatus) (ctx : TransitionContext) : TransitionResult :=
  if source ≠ .canceled then .reject "Refund can only be processed for canceled subscriptions"
  else if !ctx.refundApproved then .reject "Refund must be approved before processing"
  else .accept (some "Subscription refunded") []

/-- The subscription status graph with its guards. -/
def graph : StatusGraph SubscriptionStatus where
  next := next
  terminal := isTerminal
  guard := fun target source ctx => match target with
    | .active => some (guardActive source ctx)
    | .gracePeriod => some (guardGrace source ctx)
    | .retry => some (guardRetry ctx)
    | .canceled => some (guardCanceled source ctx)
    | .refunded => some (guardRefunded source ctx)
    | _ => none

/-- Checks a requested status change. -/
def validate (source target : SubscriptionStatus) (ctx : TransitionContext) : TransitionResult :=
  graph.validate source target ctx

/-- The statuses a subscription may move to, by name. -/
def nextNames (s : SubscriptionStatus) : List String :=
  ((next s).map name).mergeSort (fun a b => decide (a ≤ b))

theorem validate_expired (target : SubscriptionStatus) (ctx : TransitionContext) :
    (validate .expired target ctx).valid = false :=
  StatusGraph.validate_terminal graph .expired target ctx rfl

end SubscriptionStatus

end Billing
