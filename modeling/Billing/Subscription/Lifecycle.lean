import Billing.Hash.Uuid
import Billing.Settings
import Billing.Subscription.Snapshot

/-! # Subscription lifecycle commands

What a caller does to a subscription outside billing runs: create it pending, start it
(into a trial or straight to active once the first payment succeeded), end its trial,
pause and resume it, cancel it with a reason, and refund a canceled one. Each command takes
a snapshot and returns a new one; a plan change is priced over the rest of the current
period. -/
namespace Billing

namespace Subscription

/-- A pending subscription whose first period starts on `start`. -/
def create (settings : Settings) (id customer : Value) (amount : Money) (cycle : Cycle)
    (start : Date) (paymentMethod plan : Option String) (metadata : Fields) : Outcome Subscription := do
  let period ← cycle.period start 1
  let retry ← RetryState.fresh settings.maxGraceExtensions
  let (sid, cid) ← (Checked.both (Checked.field "subscription_id" (Field.str id))
    (Checked.field "customer_id" (Field.str customer))).run
  pure ⟨sid, cid, plan, paymentMethod, amount, cycle, .pending, period, retry, none, none, none,
    none, none, [], metadata⟩

/-- The context of a command at time `now`, from its facts as given: reason, actor and
flags are checked as the entries of a context record. -/
def commandContext (now : DateTime) (facts : Fields) : Outcome TransitionContext :=
  TransitionContext.ofRecord (.dict facts) now

/-- Starts a pending subscription: with trial days it trials and its first paid period
begins when the trial ends; otherwise it becomes active, which needs the first payment to
have succeeded. -/
def start (s : Subscription) (now : DateTime) (trialDays : Int) (paid actor : Value) :
    Outcome Subscription := do
  if trialDays < 0 then .error .negativeTrial
  else if trialDays ≠ 0 then
    let trialEnd ← now.addDays trialDays
    let ctx ← commandContext now [("reason", .str "trial_started"), ("actor", actor)]
    let (t, _) ← s.transition .trialing ctx
    pure { t with trialEnd := some trialEnd, period := ← s.cycle.period trialEnd.date 1 }
  else
    let ctx ← commandContext now
      [("reason", .str "payment_succeeded"), ("actor", actor), ("payment_successful", paid)]
    pure (← s.transition .active ctx).1

/-- Ends a trial: active from now on when the first charge succeeded (any value that does
not count as false), expired otherwise. -/
def endTrial (s : Subscription) (now : DateTime) (paid actor : Value) : Outcome Subscription := do
  if s.status ≠ .trialing then
    .error (.billing (.subscriptionState "Only trialing subscriptions can end a trial" s.status.name "ACTIVE"))
  else if !paid.isFalsy then
    let ctx ← commandContext now
      [("reason", .str "trial_ended"), ("actor", actor), ("payment_successful", .bool true)]
    let (t, _) ← s.transition .active ctx
    pure { t with period := ← s.cycle.period now.date 1, trialEnd := some now }
  else
    let ctx ← commandContext now [("reason", .str "trial_ended_unpaid"), ("actor", actor)]
    pure (← s.transition .expired ctx).1

/-- Pauses a subscription. -/
def pause (s : Subscription) (now : DateTime) (reason actor : Value) : Outcome Subscription := do
  pure (← s.transition .paused (← commandContext now [("reason", reason), ("actor", actor)])).1

/-- Resumes a paused subscription; a lapsed period is due on the next run. -/
def resume (s : Subscription) (now : DateTime) (reason actor : Value) : Outcome Subscription := do
  if s.status ≠ .paused then
    .error (.billing (.subscriptionState "Only paused subscriptions can be resumed" s.status.name "ACTIVE"))
  else pure (← s.transition .active (← commandContext now [("reason", reason), ("actor", actor)])).1

/-- Cancels a subscription with a reason; a pending retry is dropped. -/
def cancel (s : Subscription) (now : DateTime) (reason actor : Value) : Outcome Subscription := do
  let ctx ← commandContext now [("reason", reason), ("actor", actor)]
  let (t, r) ← s.transition .canceled ctx
  if r.noop then pure t
  else
    let retry := { s.retry with nextAt := none }
    pure { t with canceledAt := some now, cancelReason := ctx.reason, retry := retry }

/-- Marks a canceled subscription refunded once the refund is approved. -/
def refund (s : Subscription) (now : DateTime) (approved reason actor : Value) :
    Outcome Subscription := do
  let ctx ← commandContext now [("reason", reason), ("actor", actor), ("refund_approved", approved)]
  pure (← s.transition .refunded ctx).1

/-- A lifecycle command as a caller gives it. An argument left out is `none` and takes the
command's default: no trial days, a first payment that did not succeed, the actor
`system`, and the reasons `paused`, `resumed` and `refund_approved`. Ending a trial and
cancelling have no default for what they are given. -/
inductive Command where
  | start (trialDays : Option Int) (paid actor : Option Value)
  | endTrial (paid : Value) (actor : Option Value)
  | pause (reason actor : Option Value)
  | resume (reason actor : Option Value)
  | cancel (reason : Value) (actor : Option Value)
  | refund (approved : Value) (reason actor : Option Value)

/-- Performs a command on a subscription at time `now`, its defaults filled in. -/
def Command.perform (c : Command) (s : Subscription) (now : DateTime) : Outcome Subscription :=
  let actor (a : Option Value) : Value := a.getD (.str "system")
  match c with
  | .start trialDays paid a => s.start now (trialDays.getD 0) (paid.getD (.bool false)) (actor a)
  | .endTrial paid a => s.endTrial now paid (actor a)
  | .pause reason a => s.pause now (reason.getD (.str "paused")) (actor a)
  | .resume reason a => s.resume now (reason.getD (.str "resumed")) (actor a)
  | .cancel reason a => s.cancel now reason (actor a)
  | .refund approved reason a => s.refund now approved (reason.getD (.str "refund_approved")) (actor a)

/-- The price of a plan change over the rest of the current period: a credit for the old
plan, a charge for the new one, and what the customer owes (positive) or is owed. -/
structure PlanChange where
  credit : Money
  charge : Money
  net : Money

/-- Prices a plan change on a day with a proration method. -/
def planChange (s : Subscription) (newAmount : Money) (day : Date) (method : ProrationMethod) :
    Outcome PlanChange := do
  let credit ← s.cycle.prorateRemaining s.period day s.amount method
  let charge ← s.cycle.prorateRemaining s.period day newAmount method
  pure ⟨credit, charge, ← charge.sub credit⟩

/-- Whether a billing run should pick the subscription up: due, due for a retry, or past
its grace window. -/
def isCandidate (s : Subscription) (now : DateTime) : Outcome Bool := do
  if s.isDue now then pure true
  else if ← s.isRetryDue now then pure true
  else s.isGraceElapsed now

/-- The stable identifier of the payment for the subscription's current billing attempt:
the same period, retry and grace window always give the same payment. -/
def paymentId (s : Subscription) : String :=
  Uuid.v5 Uuid.urlNamespace ("recurring-billing:" ++ s.id ++ ":" ++ toString s.period.cycleNumber ++ ":" ++
    toString s.retry.attempt ++ ":" ++ toString s.retry.graceExtensions)

/-- Sorts by key with a stable insertion sort. -/
def sortBy {α : Type} (key : α → Date × String) : List α → List α
  | [] => []
  | x :: xs => insert x (sortBy key xs)
where
  /-- Inserts before the first element with a larger key. -/
  insert (x : α) : List α → List α
    | [] => [x]
    | y :: ys =>
      let (dx, ix) := key x
      let (dy, iy) := key y
      if dx < dy ∨ (dx = dy ∧ ix ≤ iy) then x :: y :: ys else y :: insert x ys

/-- The subscriptions to bill on this pass, oldest period end first, then by id. -/
def selectCandidates (subs : List Subscription) (now : DateTime) : Outcome (List Subscription) := do
  let picked ← subs.filterM fun s => s.isCandidate now
  pure (sortBy (fun s => (s.period.endDate, s.id)) picked)

/-- The identifiers of the subscriptions to bill on this pass, in billing order. -/
def candidateIds (subs : List Subscription) (now : DateTime) : Outcome (List String) := do
  pure ((← selectCandidates subs now).map (·.id))

end Subscription

end Billing
