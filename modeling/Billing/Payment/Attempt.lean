import Billing.Status.Payment
import Billing.Subscription.Snapshot

/-! # Payment attempts

A payment attempt charges one billing period of one subscription. It carries its status,
the number of gateway submissions so far (which keys idempotent resubmission), the reason
for its last failure while it is failed or retrying, its refunds, and its status history.
Refunds never exceed what was paid: the payment becomes fully refunded exactly when the
refunds add up to its amount. -/
namespace Billing

/-- Why a payment attempt failed. -/
structure FailureDetails where
  category : FailureCategory
  retriable : Bool
  errorCode : Option String
  errorMessage : Option String
  statusCode : Option String
  failedAt : DateTime
  deriving Inhabited

namespace FailureDetails

/-- Details from a record: the time is a required ISO time, read first; category and
retriability are required. -/
def ofRecord (r : Value) : Outcome FailureDetails := do
  let t ← (← Field.need r "failed_at").isoDateTime
  let opt (k : String) : Checked (Option String) := Checked.field k (Field.optStr (Field.entry r k .null))
  (do
    let (c, ir, ec, em, sc) ←
      Checked.both (Checked.field "category" (Field.required r "category" >>= Field.oneOf FailureCategory.table))
        (Checked.both (Checked.field "is_retriable" (Field.required r "is_retriable" >>= Field.bool))
          (Checked.both (opt "error_code") (Checked.both (opt "error_message") (opt "status_code"))))
    pure (⟨c, ir, ec, em, sc, t⟩ : FailureDetails)).run

/-- The record form of the details. -/
def toValue (d : FailureDetails) : Value :=
  .dict [("category", .str d.category.name), ("is_retriable", .bool d.retriable),
    ("error_code", Subscription.textValue d.errorCode),
    ("error_message", Subscription.textValue d.errorMessage),
    ("status_code", Subscription.textValue d.statusCode), ("failed_at", .str d.failedAt.text)]

end FailureDetails

/-- One refund of a payment. -/
structure RefundRecord where
  id : String
  amount : Money
  refundedAt : DateTime
  reason : Option String
  deriving Inhabited

namespace RefundRecord

/-- A refund from a record: the amount and the time are required, read first in that
order. -/
def ofRecord (r : Value) : Outcome RefundRecord := do
  let amount ← Money.ofRecord (← Field.need r "amount")
  let t ← (← Field.need r "refunded_at").isoDateTime
  (do
    let (i, why) ← Checked.both (Checked.field "refund_id" (Field.required r "refund_id" >>= Field.str))
      (Checked.field "reason" (Field.optStr (Field.entry r "reason" .null)))
    pure (⟨i, amount, t, why⟩ : RefundRecord)).run

/-- The record form of a refund. -/
def toValue (f : RefundRecord) : Value :=
  .dict [("refund_id", .str f.id), ("amount", f.amount.toValue),
    ("refunded_at", .str f.refundedAt.text), ("reason", Subscription.textValue f.reason)]

end RefundRecord

/-- A charge for one billing period of one subscription. -/
structure PaymentAttempt where
  id : String
  subscriptionId : String
  amount : Money
  status : PaymentStatus
  cycleNumber : Int
  submissions : Value
  providerRef : Value
  failure : Option FailureDetails
  refunds : List RefundRecord
  history : List (StatusChange PaymentStatus)
  createdAt : DateTime
  deriving Inhabited

/-- Changes made together with a status change. The submission count and provider
reference are stored as given: they are checked when a payment is read from its record,
not when they change along with a status. -/
structure PaymentChanges where
  submissions : Option Value
  providerRef : Option Value
  refunds : Option (List RefundRecord)

namespace PaymentChanges

/-- No change. -/
def none : PaymentChanges := ⟨Option.none, Option.none, Option.none⟩

end PaymentChanges

namespace PaymentAttempt

/-- Failure details belong only to failed or retrying payments. -/
def holdsFailure (s : PaymentStatus) : Bool := s = .failed || s = .retrying

/-- A payment from its record form: the amount, failure details, refunds, history and
creation time are read first, each on its own; then the plain fields and the rule on
failure details. -/
def ofRecord (r : Value) : Outcome PaymentAttempt := do
  let amount ← Money.ofRecord (← Field.need r "amount")
  let failure ← match r.get? "failure_details" with
    | none | some .null => pure none
    | some v => some <$> FailureDetails.ofRecord v
  let refunds ← (← Subscription.itemsOf (Field.entry r "refunds" (.list []))).mapM RefundRecord.ofRecord
  let history ← (← Subscription.itemsOf (Field.entry r "status_history" (.list []))).mapM
    StatusChange.ofRecord
  let t ← (← Field.need r "created_at").isoDateTime
  (do
    let (pid, sid, st, cn, sc, pr) ←
      Checked.both (Checked.field "payment_id" (Field.required r "payment_id" >>= Field.str))
      (Checked.both (Checked.field "subscription_id" (Field.required r "subscription_id" >>= Field.str))
      (Checked.both (Checked.field "status"
          (Field.oneOf (StatusSet.table PaymentStatus) (Field.entry r "status" (.str "PENDING"))))
      (Checked.both (Checked.field "cycle_number" (Field.int (Field.entry r "cycle_number" (.int 1)) >>= Field.atLeast 1))
      (Checked.both (Checked.field "submission_count"
          (Field.int (Field.entry r "submission_count" (.int 0)) >>= Field.atLeast 0))
        (Checked.field "provider_ref" (Field.optStr (Field.entry r "provider_ref" .null)))))))
    Checked.rule (failure.isNone || holdsFailure st)
      "failure_details is only allowed on FAILED or RETRYING payments"
      (⟨pid, sid, amount, st, cn, .int sc, Subscription.textValue pr, failure, refunds, history, t⟩ :
        PaymentAttempt)).run

/-- A new payment as its constructor builds it: pending, with no submission, provider
reference, failure, refund or history yet, and its cycle number checked as a record's is. -/
def opened (id subscriptionId : String) (amount : Money) (cycle : Int) (createdAt : DateTime) :
    Outcome PaymentAttempt :=
  (do
    let n ← Checked.field "cycle_number" (Field.int (.int cycle) >>= Field.atLeast 1)
    pure ⟨id, subscriptionId, amount, .pending, n, .int 0, .null, none, [], [], createdAt⟩ :
      Checked PaymentAttempt).run

/-- A new payment is built exactly for a cycle number of at least 1. -/
theorem opened_eq_ok {id subscriptionId : String} {amount : Money} {cycle : Int}
    {createdAt : DateTime} {p : PaymentAttempt} :
    opened id subscriptionId amount cycle createdAt = .ok p ↔
      p = ⟨id, subscriptionId, amount, .pending, cycle, .int 0, .null, none, [], [], createdAt⟩ ∧
        1 ≤ cycle := by
  unfold opened
  simp only [Checked.run_eq_ok, Except.bind_eq_ok, Checked.atLeast_eq_ok]
  constructor
  · rintro ⟨n, ⟨hn, rfl⟩, hp⟩
    cases hp
    exact ⟨rfl, hn⟩
  · rintro ⟨rfl, hn⟩
    exact ⟨cycle, ⟨hn, rfl⟩, rfl⟩

/-- The record form of a payment. -/
def toValue (p : PaymentAttempt) : Value :=
  .dict [("payment_id", .str p.id), ("subscription_id", .str p.subscriptionId),
    ("amount", p.amount.toValue), ("status", .str p.status.name), ("cycle_number", .int p.cycleNumber),
    ("submission_count", p.submissions), ("provider_ref", p.providerRef),
    ("failure_details", match p.failure with
      | some d => d.toValue
      | none => .null),
    ("refunds", .list (p.refunds.map RefundRecord.toValue)),
    ("status_history", .list (p.history.map StatusChange.toValue)),
    ("created_at", .str p.createdAt.text)]

/-- The sum of the refunds, in the payment's currency. -/
def totalRefunded (p : PaymentAttempt) : Outcome Money :=
  Money.sum (p.refunds.map (·.amount)) (some (.str p.amount.currency))

/-- What may still be refunded. -/
def refundable (p : PaymentAttempt) : Outcome Money := do p.amount.sub (← p.totalRefunded)

/-- One more submission: the count plus one. A count that is not a number, which only an
unchecked change can store, cannot be increased. -/
def nextSubmission (v : Value) : Outcome Value :=
  match v with
  | .int n => .ok (.int (n + 1))
  | .bool b => .ok (.int ((if b then 1 else 0) + 1))
  | .float x => .ok (.float (x + 1))
  | .str _ => .error (.arguments "can only concatenate str (not \"int\") to str")
  | .list _ => .error (.arguments "can only concatenate list (not \"int\") to list")
  | other => .error (.operands "+" other.kindName "int")

/-- The key of the current gateway submission: the payment's identifier and the text of its
submission count. -/
def idempotencyKey (p : PaymentAttempt) : String := p.id ++ ":" ++ p.submissions.text

/-- Checks a refund against the payment: same currency, positive, within what may still be
refunded; the payment becomes fully refunded exactly when the refunds reach its amount.
Returns the refunded total and the status it requires, or why the refund is refused. -/
def refundTarget (p : PaymentAttempt) (amount : Money) : Outcome (Except String (Money × PaymentStatus)) := do
  if amount.currency ≠ p.amount.currency then
    pure (.error "Refund currency must match the payment currency")
  else if amount.amount ≤ 0 then pure (.error "Refund amount must be positive")
  else
    let left ← p.refundable
    if (← amount.compareTo left) = .gt then
      pure (.error ("Refund of " ++ amount.text ++ " exceeds refundable amount " ++ left.text))
    else
      let total ← (← p.totalRefunded).add amount
      pure (.ok (total, if total = p.amount then .refunded else .partiallyRefunded))

/-- The verdict on a refund status change for the refund in the context. -/
def checkRefund (p : PaymentAttempt) (target : PaymentStatus) (ctx : TransitionContext) :
    Outcome TransitionResult := do
  match ctx.refundAmount with
  | none => pure (.reject "Refund amount is required")
  | some amount =>
    match ← p.refundTarget amount with
    | .error why => pure (.reject why)
    | .ok (total, expected) =>
      if target ≠ expected then
        pure (.reject ("Refunded total " ++ total.text ++ " of " ++ p.amount.text ++ " requires " ++
          expected.name))
      else pure (.accept (some "Payment refund processed") [])

/-- Performs a checked status change. Refund targets must agree with the refunded total. A
refused change is a payment state error; a no-op leaves the payment as it is. Otherwise the
changes are made, failure details are kept (or replaced) only for failed and retrying
payments, and one history entry is appended. -/
def transition (p : PaymentAttempt) (target : PaymentStatus) (ctx : TransitionContext)
    (details : Option FailureDetails) (changes : PaymentChanges) :
    Outcome (PaymentAttempt × TransitionResult) := do
  let r := PaymentStatus.validate p.status target ctx
  let r ← if r.valid && !r.noop && target.isRefund then p.checkRefund target ctx else pure r
  if !r.valid then
    .error (.billing (.paymentState (r.message.getD "Invalid payment transition") p.status.name target.name))
  else if r.noop then pure (p, r)
  else
    let kept := if holdsFailure target then (details <|> p.failure) else none
    let change : StatusChange PaymentStatus :=
      ⟨p.status, target, ctx.time, Subscription.firstText [ctx.reason, r.message] (Text.lower target.name),
        ctx.actor, ctx.metadata⟩
    let q : PaymentAttempt := { p with
      submissions := changes.submissions.getD p.submissions
      providerRef := changes.providerRef.getD p.providerRef
      refunds := changes.refunds.getD p.refunds }
    pure ({ q with status := target, failure := kept, history := p.history ++ [change] }, r)

/-- Refunds part or all of a settled payment. The payment becomes refunded once the refunds
reach its amount and partially refunded before; a further partial refund keeps the status
and only records the refund. -/
def recordRefund (p : PaymentAttempt) (amount : Money) (at_ : DateTime) (reason : Option String)
    (actor : String) (refundId : String) : Outcome (PaymentAttempt × TransitionResult) := do
  match ← p.refundTarget amount with
  | .error why => .error (.billing (.refund why (some p.id)))
  | .ok (total, target) =>
    let entry : RefundRecord := ⟨refundId, amount, at_, reason⟩
    let ctx : TransitionContext :=
      { TransitionContext.basic (some (Subscription.firstText [reason] ("refund " ++ refundId))) actor at_ with
        refundAmount := some amount
        metadata := [("refund_id", .str refundId), ("refunded_total", .int total.amount)] }
    if target = p.status then pure ({ p with refunds := p.refunds ++ [entry] }, .unchanged)
    else p.transition target ctx none ⟨none, none, some (p.refunds ++ [entry])⟩

end PaymentAttempt

end Billing
