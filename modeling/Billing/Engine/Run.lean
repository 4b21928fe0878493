import Billing.Engine.World
import Billing.Subscription.Lifecycle

/-! # Billing runs

One billing attempt for one subscription: reload it, skip it unless it is billable and due,
finish a renewal whose payment was settled but not recorded, expire it once its grace is
used up, check its payment method, price the charge, resume the failed payment of a
scheduled retry or open a new one, and submit it to the gateway. A success renews the
subscription for its next period; a failure is classified, and the retry policy either
schedules a retry or moves the subscription into delinquency. Payment failures are data;
only faults of the collaborators are errors. The payment is saved before the
subscription, so a subscription never points at an unsaved payment. -/
namespace Billing

/-- How a billing run ended. -/
inductive RunOutcome where
  | succeeded
  | retryScheduled
  | pastDue
  | expired
  | rejected
  | skipped
  deriving DecidableEq, Inhabited

/-- The name of an outcome. -/
def RunOutcome.name : RunOutcome → String
  | .succeeded => "SUCCEEDED"
  | .retryScheduled => "RETRY_SCHEDULED"
  | .pastDue => "PAST_DUE"
  | .expired => "EXPIRED"
  | .rejected => "REJECTED"
  | .skipped => "SKIPPED"

/-- Why a run did not bill. -/
inductive SkipReason where
  | notBillable
  | notDue
  | retryNotDue
  | noPaymentMethod
  deriving DecidableEq

/-- The name of a skip reason. -/
def SkipReason.name : SkipReason → String
  | .notBillable => "not_billable"
  | .notDue => "not_due"
  | .retryNotDue => "retry_not_due"
  | .noPaymentMethod => "no_payment_method"

/-- The outcome of one billing run. -/
structure RunResult where
  subscriptionId : String
  outcome : RunOutcome
  subscription : Subscription
  payment : Option PaymentAttempt
  category : Option FailureCategory
  decision : Option RetryDecision
  message : Option String
  deriving Inhabited

/-- The record form of a run's outcome. -/
def RunResult.toValue (r : RunResult) : Value :=
  .dict [("subscription_id", .str r.subscriptionId), ("outcome", .str r.outcome.name),
    ("subscription", r.subscription.toValue),
    ("payment", match r.payment with
      | some p => p.toValue
      | none => .null),
    ("failure_category", match r.category with
      | some c => .str c.name
      | none => .null),
    ("retry_decision", match r.decision with
      | some d => d.toValue
      | none => .null),
    ("message", Subscription.textValue r.message)]

/-- Where a run stands before the gateway: finished, or holding the payment to submit. -/
inductive RunStage where
  | finished (r : RunResult)
  | submitting (s : Subscription) (p : PaymentAttempt)

/-- How the engine is set up: the grace window in days, the gateway timeout and the batch
concurrency as the caller gave them, the retry jitter, and the optional collaborators. -/
structure Engine where
  graceDays : Value
  gatewayTimeout : Value
  concurrency : Value
  jitter : Option RetryJitter
  methodCheck : Option MethodCheck
  discount : Option Discount

namespace Engine

/-- The engine a caller sets up over its settings. A grace window left out (`None`) is the
settings' one; a gateway timeout or a concurrency left out, or given as anything that counts
as false, is the settings' one; and an engine given no jitter of its own takes the
settings' jitter when they enable one. -/
def ofSettings (settings : Settings) (graceDays gatewayTimeout concurrency : Value)
    (jitter : Option RetryJitter) (methodCheck : Option MethodCheck) (discount : Option Discount) :
    Outcome Engine := do
  let grace := match graceDays with
    | .null => Value.int settings.gracePeriodDays
    | v => v
  let timeout := if gatewayTimeout.isFalsy then Value.float settings.gatewayTimeout else gatewayTimeout
  let concurrency := if concurrency.isFalsy then Value.int settings.batchConcurrency else concurrency
  let jitter ← match jitter with
    | some j => pure (some j)
    | none =>
      if settings.jitter.enabled then
        some <$> RetryJitter.make (.int settings.jitter.seed) (.float settings.jitter.ratio)
      else pure none
  pure ⟨grace, timeout, concurrency, jitter, methodCheck, discount⟩

/-- Statuses in which a run may collect money. -/
def isBillable : SubscriptionStatus → Bool
  | .active | .retry | .gracePeriod | .pastDue => true
  | _ => false

/-- Why the subscription is not billed now, if it is not. -/
def skipReason (s : Subscription) (now : DateTime) : Outcome (Option SkipReason) := do
  if !isBillable s.status then pure (some .notBillable)
  else if s.status = .active ∧ !s.isDue now then pure (some .notDue)
  else if s.status = .retry then
    if ← s.isRetryDue now then pure none else pure (some .retryNotDue)
  else pure none

/-- A status change of a subscription inside a run. -/
def move (s : Subscription) (target : SubscriptionStatus) (ctx : TransitionContext) : Step Subscription := do
  pure (← World.lift (s.transition target ctx)).1

/-- A status change of a payment inside a run. -/
def movePayment (p : PaymentAttempt) (target : PaymentStatus) (ctx : TransitionContext)
    (details : Option FailureDetails) (changes : PaymentChanges) : Step PaymentAttempt := do
  pure (← World.lift (p.transition target ctx details changes)).1

/-- A context of the engine itself, with a reason, at `now`. -/
def because (reason : String) (now : DateTime) : TransitionContext :=
  TransitionContext.basic (some reason) "system" now

/-- Whether a payment settled the subscription's current cycle: it succeeded, and it was
made for this subscription in this cycle. -/
def settles (s : Subscription) (p : PaymentAttempt) : Bool :=
  p.status = .succeeded && p.subscriptionId = s.id && p.cycleNumber = s.period.cycleNumber

/-- The first of the given payment identifiers whose payment already settled this cycle. -/
def findSettled (s : Subscription) : List String → Step (Option PaymentAttempt)
  | [] => pure none
  | id :: rest => do
    match ← World.loadPayment id with
    | some p => if settles s p then pure (some p) else findSettled s rest
    | none => findSettled s rest

/-- Where a payment settled but never recorded may be kept: the last payment, then the
payment of the current attempt. -/
def settlementKeys (s : Subscription) : List String :=
  ((s.lastPayment.filter (!·.isEmpty)).toList ++ [s.paymentId]).eraseDups

/-- A payment already settled for the current cycle whose renewal was never saved. -/
def settledPayment (s : Subscription) : Step (Option PaymentAttempt) :=
  findSettled s (settlementKeys s)

/-- The subscription renewed by a settled payment: back to active if it was delinquent,
bookkeeping cleared, and moved on to its next period. -/
def renewed (s : Subscription) (settled : PaymentAttempt) (now : DateTime) : Step Subscription := do
  let updated ← if s.status.isDelinquent then
      move s .active { because "payment_resolved" now with
        paymentResolved := true, metadata := [("payment_id", .str settled.id)] }
    else pure s
  let next ← World.lift (s.cycle.nextPeriod s.period)
  pure { updated with
    retry := s.retry.reset
    graceEnd := none
    period := next
    lastPayment := some settled.id }

/-- Whether the subscription has a payment method the check accepts. -/
def methodAvailable (e : Engine) (s : Subscription) : Step Bool := do
  match s.paymentMethod with
  | none => pure false
  | some ref =>
    if ref.isEmpty then pure false
    else match e.methodCheck with
      | none => pure true
      | some (.available refs) => pure (refs.contains ref)
      | some (.raises m) =>
        throw (.billing (.collaboratorUnavailable ("Payment method validator failed: " ++ m)
          "payment_method_validator" (some s.id)))

/-- The amount to charge: the subscription's amount after discounts, never below zero and
never in another currency. -/
def resolveAmount (e : Engine) (s : Subscription) : Step Money := do
  let amount := s.amount
  let failed (m : String) : Error :=
    .billing (.collaboratorUnavailable ("Discount resolver failed: " ++ m) "discount_resolver" (some s.id))
  match e.discount with
  | none => pure amount
  | some d =>
    let built (args : Value) : Step Money :=
      match Money.ofArguments args with
      | .ok m => pure m
      | .error text => throw (failed text)
    let adjusted ← match d with
      | .subtract args =>
        match amount.sub (← built args) with
        | .ok r => pure r
        | .error err => throw (failed err.message)
      | .fixed args => built args
      | .raises m => throw (failed m)
    if adjusted.currency ≠ amount.currency then
      throw (.billing (.currencyMismatch amount.currency adjusted.currency))
    let zero ← World.lift (Money.zero (.str amount.currency))
    World.lift (adjusted.max zero)

/-- The failed payment of a scheduled retry, if it may be retried now. -/
def resumablePayment (s : Subscription) : Step (Option PaymentAttempt) := do
  if s.status ≠ .retry then pure none
  else match s.lastPayment with
    | none => pure none
    | some id =>
      if id.isEmpty then pure none
      else match ← World.loadPayment id with
        | none => throw (.billing (.paymentNotFound ("Payment " ++ id ++ " not found") (some id)))
        | some p =>
          match p.failure with
          | none => pure none
          | some d =>
            if p.status ≠ .failed ∨ p.cycleNumber ≠ s.period.cycleNumber then pure none
            else
              let ctx := { TransitionContext.basic none "system" (DateTime.ofDate s.period.startDate) with
                failureCategory := some d.category, attemptNumber := s.retry.attempt - 1 }
              pure (if (PaymentStatus.validate .failed .retrying ctx).valid then some p else none)

/-- The payment to submit: the failed payment of a scheduled retry moved back to processing
with one more submission, or a new, checked payment for the current attempt. -/
def preparePayment (s : Subscription) (amount : Money) (now : DateTime) : Step PaymentAttempt := do
  match ← resumablePayment s with
  | some prev =>
    let retrying ← movePayment prev .retrying { because "retry_scheduled" now with
      failureCategory := prev.failure.map (·.category), attemptNumber := s.retry.attempt - 1 }
      none PaymentChanges.none
    movePayment retrying .processing (because "submitted" now) none
      ⟨some (← World.lift (PaymentAttempt.nextSubmission retrying.submissions)), none, none⟩
  | none =>
    let p ← World.lift (PaymentAttempt.opened s.paymentId s.id amount s.period.cycleNumber now)
    movePayment p .processing (because "submitted" now) none ⟨some (.int 1), none, none⟩

/-- Everything before the gateway call. -/
def begin (e : Engine) (id : String) (now : DateTime) : Step RunStage := do
  let s ← World.loadSubscription id
  match ← World.lift (skipReason s now) with
  | some r => pure (.finished ⟨id, .skipped, s, none, none, none, some r.name⟩)
  | none =>
    match ← settledPayment s with
    | some p =>
      let updated ← renewed s p now
      World.saveSubscription updated
      pure (.finished ⟨id, .succeeded, updated, some p, none, none, none⟩)
    | none =>
      if (← World.lift (s.isGraceElapsed now)) && s.retry.graceExhausted then
        let expired ← move s .expired (because "grace_exhausted" now)
        World.saveSubscription expired
        pure (.finished ⟨id, .expired, expired, none, none, none, some "grace_exhausted"⟩)
      else if !(← e.methodAvailable s) then
        pure (.finished ⟨id, .rejected, s, none, none, none, some SkipReason.noPaymentMethod.name⟩)
      else
        let amount ← e.resolveAmount s
        pure (.submitting s (← preparePayment s amount now))

/-- Retry scheduled: the subscription moves to retry and counts one more retry, in new
bookkeeping that is checked as it is built. -/
def scheduleRetry (s : Subscription) (d : RetryDecision) (now : DateTime) : Step Subscription := do
  let r := s.retry
  let updated ← move s .retry { because "retry_scheduled" now with
    isRetriable := true, currentRetries := r.attempt, maxRetries := d.maxRetries,
    retryDecision := some d, metadata := [("attempt_number", .int (r.attempt + 1))] }
  let retry ← World.lift (RetryState.build (r.attempt + 1) d.maxRetries d.nextAt (some d.category)
    r.graceExtensions r.maxGraceExtensions)
  pure { updated with retry := retry }

/-- No retry left: an active subscription enters its grace period first, and its new
bookkeeping is built and checked; then it expires if its grace is used up, and otherwise is
past due until a new grace window ends, with one more grace window counted in a copy that
is not checked again. -/
def enterDelinquency (e : Engine) (s : Subscription) (d : RetryDecision) (now : DateTime) :
    Step Subscription := do
  let r := s.retry
  let updated ← if s.status = .active then
      move s .gracePeriod { because "payment_failed" now with paymentFailed := true }
    else pure s
  let exhausted ← World.lift (RetryState.build r.attempt (max d.maxRetries r.attempt) none
    (some d.category) r.graceExtensions r.maxGraceExtensions)
  if r.graceExhausted then
    let updated ← move updated .expired { because "grace_exhausted" now with
      metadata := [("failure_reason", .str d.reason.name)] }
    pure { updated with retry := exhausted }
  else
    let graceEnd ← World.lift (now.addDayCount e.graceDays)
    let updated ← move updated .pastDue { because d.reason.name now with
      metadata := [("grace_period_end_date", .str graceEnd.text)] }
    pure { updated with
      graceEnd := some graceEnd
      retry := { exhausted with graceExtensions := r.graceExtensions + 1 } }

/-- Saves the payment, then the subscription. -/
def persist (s : Subscription) (p : PaymentAttempt) : Step Unit := do
  World.savePayment p
  World.saveSubscription s

/-- What a declined charge is recorded with: the category its codes classify as, whether
that category is retried, and what the gateway reported. -/
def declineDetails (r : GatewayResult) (now : DateTime) : FailureDetails :=
  let category := FailureCategory.ofGateway r.statusCode r.errorCode
  ⟨category, category.isRetriable, r.errorCode, r.errorMessage, r.statusCode, now⟩

/-- A declined charge: the payment fails with its classified details, and the retry
policy decides between a retry and delinquency. -/
def handleFailure (e : Engine) (s : Subscription) (p : PaymentAttempt) (r : GatewayResult)
    (now : DateTime) : Step RunResult := do
  let details := declineDetails r now
  let category := details.category
  let failed ← movePayment p .failed (because "payment_failed" now) (some details)
    ⟨none, some (Subscription.textValue r.providerRef), none⟩
  let d ← World.lift (evaluateRetry category s.retry.attempt now e.jitter)
  let (updated, outcome) ← if d.shouldRetry then do
      pure (← scheduleRetry s d now, RunOutcome.retryScheduled)
    else do
      let u ← e.enterDelinquency s d now
      pure (u, if u.status = .expired then RunOutcome.expired else .pastDue)
  let updated := { updated with lastPayment := some failed.id }
  persist updated failed
  pure ⟨s.id, outcome, updated, some failed, some category, some d, some d.reason.name⟩

/-- The gateway is unavailable: it failed instead of answering. -/
def unavailable (s : Subscription) (message : String) : Error :=
  .billing (.gatewayUnavailable ("Payment gateway unavailable: " ++ message) (some s.id))

/-- What a reply of the gateway says: its result, the failure that a timeout stands for,
or, when the gateway failed or its record does not read as a result, that it is
unavailable. -/
def gatewayResult (e : Engine) (s : Subscription) : GatewayReply → Outcome GatewayResult
  | .raises m => .error (unavailable s m)
  | .timeout =>
    .ok ⟨false, none, some "TIMEOUT", some FailureCategory.timeoutCode,
      some ("Gateway did not answer within " ++ e.gatewayTimeout.text ++ "s")⟩
  | .record fields =>
    match GatewayResult.ofRecord fields with
    | .ok r => .ok r
    | .error text => .error (unavailable s text)
  | .answer r => .ok r

/-- Everything after the gateway call. -/
def finish (e : Engine) (s : Subscription) (p : PaymentAttempt) (reply : GatewayReply)
    (now : DateTime) : Step RunResult := do
  let r ← World.lift (e.gatewayResult s reply)
  if r.success then
    let settled ← movePayment p .succeeded (because "payment_succeeded" now) none
      ⟨none, some (Subscription.textValue r.providerRef), none⟩
    let updated ← renewed s settled now
    persist updated settled
    pure ⟨s.id, .succeeded, updated, some settled, none, none, none⟩
  else e.handleFailure s p r now

/-- Whether the gateway timeout has already passed when the call would be made (it is at
most zero), or why the timeout cannot be used: it is not a number, or an integer too large
for a double. -/
def timeoutPassed (e : Engine) : Except Error Bool :=
  match e.gatewayTimeout with
  | .int n =>
    if n ≤ 0 then .ok true
    else if Numeral.fitsDouble n then .ok false
    else .error .intTooLargeForFloat
  | .float x => .ok (x ≤ 0)
  | .bool b => .ok (!b)
  | other => .error (.unordered "<=" other.kindName "int")

/-- One billing run with nothing else in progress: everything before the gateway, the call
(cancelled before the gateway sees it when the timeout has already passed, which then
answers as a timeout), and everything after it. -/
def run (e : Engine) (id : String) (now : DateTime) : Step RunResult := do
  match ← e.begin id now with
  | .finished r => pure r
  | .submitting s p =>
    match e.timeoutPassed with
    | .error err => throw (unavailable s err.message)
    | .ok passed =>
      let reply ← if passed then pure .timeout
        else World.submit p.amount (s.paymentMethod.getD "") p.idempotencyKey
      e.finish s p reply now

/-- The number of batch slots: `none` for no limit, which a number of slots that is not
whole gives, since taking slots one by one never leaves it at zero. A negative number is
refused, and so is a value that is not a number. -/
def slots (e : Engine) : Except Error (Option Nat) :=
  match e.concurrency with
  | .int n => if n < 0 then .error .negativeSlots else .ok (some n.toNat)
  | .bool b => .ok (some (if b then 1 else 0))
  | .float x =>
    if x < 0 then .error .negativeSlots
    else
      match Float.truncInt? x with
      | some n => if Float.compareInt x n = .eq then .ok (some n.toNat) else .ok none
      | none => .ok none
  | other => .error (.unordered "<" other.kindName "int")

end Engine

end Billing
