import Billing.Cycle.Period
import Billing.Status.Subscription

/-! # Subscription snapshots

A subscription's whole state: who pays what on which cycle, its status and current period,
its retry and grace bookkeeping, the dates of its trial, grace window and cancellation, and
its status history. Snapshots are values: every operation returns a new one, and an
applied transition appends exactly one history entry. -/
namespace Billing

/-- Retry and grace bookkeeping: retries made and allowed, when the next one is due, the
category of the last failure, and grace windows used and allowed. -/
structure RetryState where
  attempt : Int
  maxRetries : Int
  nextAt : Option DateTime
  lastFailure : Option FailureCategory
  graceExtensions : Int
  maxGraceExtensions : Int
  deriving Inhabited

/-- A category is read back from its name. -/
theorem FailureCategory.oneOf_name (c : FailureCategory) :
    Field.oneOf FailureCategory.table (.str c.name) = .ok c := by
  cases c <;> rfl

namespace RetryState

/-- Checks the counters (none negative) and that no more retries were made than
allowed. -/
def check (attempt maxRetries : Value) (next : Option DateTime) (last grace maxGrace : Value) :
    Checked RetryState := do
  let count (k : String) (v : Value) : Checked Int := Checked.field k (Field.int v >>= Field.atLeast 0)
  let (a, m, l, g, mg) ←
    Checked.both (count "attempt_number" attempt)
      (Checked.both (count "max_retries" maxRetries)
        (Checked.both (Checked.field "last_failure_category" (match last with
            | .null => .ok none
            | v => (Field.oneOf FailureCategory.table v).map some))
          (Checked.both (count "grace_period_extensions" grace)
            (count "max_grace_extensions" maxGrace))))
  Checked.rule (decide (a ≤ m)) "attempt_number cannot exceed max_retries" ⟨a, m, next, l, g, mg⟩

/-- Bookkeeping from a record; every entry is optional. The time of the next retry is read
as ISO text before the rest is checked. -/
def ofRecord (r : Value) : Outcome RetryState := do
  let next ← (Field.entry r "next_retry_at" .null).isoDateTime?
  (check (Field.entry r "attempt_number" (.int 0)) (Field.entry r "max_retries" (.int 0)) next
    (Field.entry r "last_failure_category" .null) (Field.entry r "grace_period_extensions" (.int 0))
    (Field.entry r "max_grace_extensions" (.int 1))).run

/-- Bookkeeping as its constructor builds it from counters, a time and a category: checked
as a record is, so a negative counter, or more retries made than allowed, is refused with
the fields it names. -/
def build (attempt maxRetries : Int) (next : Option DateTime) (last : Option FailureCategory)
    (grace maxGrace : Int) : Outcome RetryState :=
  (check (.int attempt) (.int maxRetries) next ((last.map fun c => Value.str c.name).getD .null)
    (.int grace) (.int maxGrace)).run

/-- The checks accept exactly counters that are not negative, with no more retries made
than allowed, and keep them as given. -/
theorem build_eq_ok {attempt maxRetries grace maxGrace : Int} {next : Option DateTime}
    {last : Option FailureCategory} {r : RetryState} :
    build attempt maxRetries next last grace maxGrace = .ok r ↔
      r = ⟨attempt, maxRetries, next, last, grace, maxGrace⟩ ∧ 0 ≤ attempt ∧ attempt ≤ maxRetries ∧
        0 ≤ grace ∧ 0 ≤ maxGrace := by
  -- the last failure's category is read back from its name
  have hlast : Checked.field "last_failure_category"
      (match (last.map fun c => Value.str c.name).getD .null with
        | .null => .ok none
        | v => (Field.oneOf FailureCategory.table v).map some) = .ok last := by
    cases last with
    | none => rfl
    | some c =>
      show Checked.field _ ((Field.oneOf FailureCategory.table (.str c.name)).map some) = _
      rw [FailureCategory.oneOf_name]
      rfl
  unfold build check
  simp only [Checked.run_eq_ok, Except.bind_eq_ok, Prod.exists, Checked.both_eq_ok,
    Checked.atLeast_eq_ok, Checked.rule_eq_ok, decide_eq_true_eq, hlast]
  constructor
  · rintro ⟨a, m, l, g, mg, ⟨⟨ha, rfl⟩, ⟨-, rfl⟩, hl, ⟨hg, rfl⟩, ⟨hmg, rfl⟩⟩, hle, rfl⟩
    cases hl
    exact ⟨rfl, ha, hle, hg, hmg⟩
  · rintro ⟨rfl, ha, hle, hg, hmg⟩
    exact ⟨attempt, maxRetries, last, grace, maxGrace,
      ⟨⟨ha, rfl⟩, ⟨Int.le_trans ha hle, rfl⟩, rfl, ⟨hg, rfl⟩, ⟨hmg, rfl⟩⟩, hle, rfl⟩

/-- Fresh bookkeeping allowing `maxGrace` grace windows. -/
def fresh (maxGrace : Int) : Outcome RetryState :=
  if maxGrace < 0 then .error (Error.issue ["max_grace_extensions"] .greaterThanEqual)
  else .ok ⟨0, 0, none, none, 0, maxGrace⟩

/-- Whether every allowed retry was made. -/
def retriesExhausted (r : RetryState) : Bool := decide (r.attempt ≥ r.maxRetries)

/-- Whether every allowed grace window was used. -/
def graceExhausted (r : RetryState) : Bool := decide (r.graceExtensions ≥ r.maxGraceExtensions)

/-- Counters cleared after a successful collection; the grace allowance stays. -/
def reset (r : RetryState) : RetryState := ⟨0, 0, none, none, 0, r.maxGraceExtensions⟩

/-- An optional time as a value. -/
def timeValue : Option DateTime → Value
  | some t => .str t.text
  | none => .null

/-- The record form of the bookkeeping. -/
def toValue (r : RetryState) : Value :=
  .dict [("attempt_number", .int r.attempt), ("max_retries", .int r.maxRetries),
    ("next_retry_at", timeValue r.nextAt),
    ("last_failure_category", match r.lastFailure with
      | some c => .str c.name
      | none => .null),
    ("grace_period_extensions", .int r.graceExtensions),
    ("max_grace_extensions", .int r.maxGraceExtensions)]

end RetryState

/-- The lifecycle state of one subscription. -/
structure Subscription where
  id : String
  customer : String
  plan : Option String
  paymentMethod : Option String
  amount : Money
  cycle : Cycle
  status : SubscriptionStatus
  period : Period
  retry : RetryState
  trialEnd : Option DateTime
  graceEnd : Option DateTime
  lastPayment : Option String
  canceledAt : Option DateTime
  cancelReason : Option String
  history : List (StatusChange SubscriptionStatus)
  metadata : Fields
  deriving Inhabited

namespace Subscription

/-- An optional text value. -/
def textValue : Option String → Value
  | some s => .str s
  | none => .null

/-- The record form of a subscription. -/
def toValue (s : Subscription) : Value :=
  .dict [("subscription_id", .str s.id), ("customer_id", .str s.customer),
    ("plan_name", textValue s.plan), ("payment_method_ref", textValue s.paymentMethod),
    ("amount", s.amount.toValue), ("billing_cycle", s.cycle.toValue),
    ("status", .str s.status.name), ("current_period", s.period.toValue),
    ("retry_state", s.retry.toValue), ("trial_end_date", RetryState.timeValue s.trialEnd),
    ("grace_period_end_date", RetryState.timeValue s.graceEnd),
    ("last_payment_id", textValue s.lastPayment),
    ("canceled_at", RetryState.timeValue s.canceledAt), ("cancel_reason", textValue s.cancelReason),
    ("status_history", .list (s.history.map StatusChange.toValue)), ("metadata", .dict s.metadata)]

/-- A list field. -/
def itemsOf (v : Value) : Outcome (List Value) :=
  match v with
  | .list xs => .ok xs
  | _ => .error (Error.issue [] .listType)

/-- A subscription from its record form. The amount, cycle and period are required and
read first, then the bookkeeping, the history and the ISO times, each on its own; then the
plain fields are checked together. -/
def ofRecord (r : Value) : Outcome Subscription := do
  let amount ← Money.ofRecord (← Field.need r "amount")
  let cycle ← Cycle.ofSpec (← Field.need r "billing_cycle")
  let period ← Period.ofRecord (← Field.need r "current_period")
  let retry ← match r.get? "retry_state" with
    | some v => RetryState.ofRecord v
    | none => RetryState.fresh 1
  let history ← (← itemsOf (Field.entry r "status_history" (.list []))).mapM StatusChange.ofRecord
  let trialEnd ← (Field.entry r "trial_end_date" .null).isoDateTime?
  let graceEnd ← (Field.entry r "grace_period_end_date" .null).isoDateTime?
  let canceledAt ← (Field.entry r "canceled_at" .null).isoDateTime?
  let opt (k : String) : Checked (Option String) := Checked.field k (Field.optStr (Field.entry r k .null))
  let (sid, cid, plan, pm, st, lp, cr, md) ← (Checked.both
      (Checked.field "subscription_id" (Field.required r "subscription_id" >>= Field.str))
      (Checked.both (Checked.field "customer_id" (Field.required r "customer_id" >>= Field.str))
      (Checked.both (opt "plan_name") (Checked.both (opt "payment_method_ref")
      (Checked.both (Checked.field "status"
          (Field.oneOf (StatusSet.table SubscriptionStatus) (Field.entry r "status" (.str "PENDING"))))
      (Checked.both (opt "last_payment_id") (Checked.both (opt "cancel_reason")
        (Checked.field "metadata" (StatusChange.fieldsOf (Field.entry r "metadata" (.dict []))))))))))).run
  pure ⟨sid, cid, plan, pm, amount, cycle, st, period, retry, trialEnd, graceEnd, lp, canceledAt, cr,
    history, md⟩

/-- Due for a billing run: active, with its period over. -/
def isDue (s : Subscription) (now : DateTime) : Bool :=
  s.status = .active && s.period.isExpired now.date

/-- Due for a retry: in retry, with the next retry time reached. -/
def isRetryDue (s : Subscription) (now : DateTime) : Outcome Bool :=
  if s.status ≠ .retry then pure false
  else match s.retry.nextAt with
    | some t => t.le now
    | none => pure false

/-- Past its grace window: in grace or past due, with the window's end reached. -/
def isGraceElapsed (s : Subscription) (now : DateTime) : Outcome Bool :=
  if s.status ≠ .gracePeriod ∧ s.status ≠ .pastDue then pure false
  else match s.graceEnd with
    | some t => t.le now
    | none => pure false

/-- In a trial that has not ended. -/
def isInTrial (s : Subscription) (now : DateTime) : Outcome Bool :=
  if s.status ≠ .trialing then pure false
  else match s.trialEnd with
    | some t => now.lt t
    | none => pure false

/-- The first text that is given and not empty, else `fallback`. -/
def firstText (xs : List (Option String)) (fallback : String) : String :=
  match xs.filterMap (fun x => x.filter (fun s => !s.isEmpty)) with
  | s :: _ => s
  | [] => fallback

/-- Performs a checked status change: a refused one is a subscription state error, a
no-op leaves the subscription as it is, and any other appends one history entry whose
reason is the context's, else the verdict's message, else the target's name. -/
def transition (s : Subscription) (target : SubscriptionStatus) (ctx : TransitionContext) :
    Outcome (Subscription × TransitionResult) :=
  let r := SubscriptionStatus.validate s.status target ctx
  if !r.valid then
    .error (.billing (.subscriptionState (r.message.getD "Invalid subscription transition")
      s.status.name target.name))
  else if r.noop then .ok (s, r)
  else
    let change : StatusChange SubscriptionStatus :=
      ⟨s.status, target, ctx.time, firstText [ctx.reason, r.message] (Text.lower target.name),
        ctx.actor, ctx.metadata⟩
    .ok ({ s with status := target, history := s.history ++ [change] }, r)

theorem transition_history (s s' : Subscription) (target : SubscriptionStatus)
    (ctx : TransitionContext) (r : TransitionResult) (h : s.transition target ctx = .ok (s', r))
    (hn : r.noop = false) : s'.history.length = s.history.length + 1 := by
  unfold transition at h
  dsimp only at h
  split at h
  · cases h
  · split at h
    · cases h
      simp_all
    · cases h
      simp

end Subscription

end Billing
