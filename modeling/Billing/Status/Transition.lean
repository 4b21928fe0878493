import Billing.Money.Basic
import Billing.Retry.Policy


/-! # Guarded status transitions

Subscriptions and payments move between statuses along a fixed graph. A request to move
is checked in two phases: the edge must exist, then the guard of the target status must
pass on the facts of the request (its context). A terminal status refuses everything; a
request for the current status is a no-op. Checking never changes anything; an applied
transition appends exactly one entry to the entity's status history. -/
namespace Billing

/-- A closed set of statuses with their names. -/
class StatusSet (σ : Type) where
  /-- The name of a status. -/
  name : σ → String
  /-- Every status. -/
  all : List σ
  /-- The name of the set. -/
  setName : String

/-- Statuses by name. -/
def StatusSet.table (σ : Type) [StatusSet σ] : List (String × σ) :=
  (StatusSet.all : List σ).map fun s => (StatusSet.name s, s)

/-- The status with a name; another value is not a member. -/
def StatusSet.ofValue (σ : Type) [StatusSet σ] (v : Value) : Outcome σ :=
  match v with
  | .str s =>
    match (StatusSet.table σ).lookup s with
    | some x => .ok x
    | none => .error (.notAMember v.literal (StatusSet.setName σ))
  | _ => .error (.notAMember v.literal (StatusSet.setName σ))

/-- The facts a guard may inspect. Flags are false and counters 0 unless given, so a guard
never passes on a missing signal. -/
structure TransitionContext where
  reason : Option String
  actor : String
  time : DateTime
  paymentSuccessful : Bool
  paymentResolved : Bool
  paymentFailed : Bool
  isRetriable : Bool
  currentRetries : Int
  maxRetries : Int
  retryDecision : Option RetryDecision
  refundApproved : Bool
  failureCategory : Option FailureCategory
  attemptNumber : Int
  refundAmount : Option Money
  metadata : Fields
  deriving Inhabited

namespace TransitionContext

/-- A context with only a reason, an actor and a time. -/
def basic (reason : Option String) (actor : String) (time : DateTime) : TransitionContext :=
  ⟨reason, actor, time, false, false, false, false, 0, 0, none, false, none, 0, none, []⟩

end TransitionContext

/-- The verdict on a transition request. -/
structure TransitionResult where
  valid : Bool
  message : Option String
  noop : Bool
  metadata : Fields
  deriving Inhabited

namespace TransitionResult

/-- An allowed transition. -/
def accept (message : Option String) (metadata : Fields) : TransitionResult :=
  ⟨true, message, false, metadata⟩

/-- A refused transition and why. -/
def reject (message : String) : TransitionResult := ⟨false, some message, false, []⟩

/-- A request for the current status. -/
def unchanged : TransitionResult := ⟨true, some "No state change required", true, []⟩

/-- The record form of a verdict. -/
def toValue (r : TransitionResult) : Value :=
  .dict [("is_valid", .bool r.valid),
    ("message", match r.message with
      | some m => .str m
      | none => .null),
    ("is_noop", .bool r.noop), ("metadata", .dict r.metadata)]

end TransitionResult

/-- A status graph: the statuses each one may move to, the terminal ones, and the guard of
each target status (given the source and the context), if it has one. -/
structure StatusGraph (σ : Type) where
  next : σ → List σ
  terminal : σ → Bool
  guard : σ → σ → TransitionContext → Option TransitionResult

namespace StatusGraph

variable {σ : Type} [DecidableEq σ] [StatusSet σ]

/-- Two-phase validation: a terminal source refuses, the same status is a no-op, a missing
edge refuses, and otherwise the target's guard decides (no guard allows). -/
def validate (g : StatusGraph σ) (source target : σ) (ctx : TransitionContext) : TransitionResult :=
  if g.terminal source then .reject (StatusSet.name source ++ " is a terminal state")
  else if source = target then .unchanged
  else if target ∉ g.next source then
    .reject ("Invalid transition from " ++ StatusSet.name source ++ " to " ++ StatusSet.name target)
  else (g.guard target source ctx).getD (.accept none [])

/-- Whether the edge exists, guards aside. -/
def canMove (g : StatusGraph σ) (source target : σ) : Bool := decide (target ∈ g.next source)

theorem validate_terminal (g : StatusGraph σ) (source target : σ) (ctx : TransitionContext)
    (h : g.terminal source = true) : (g.validate source target ctx).valid = false := by
  simp [validate, h, TransitionResult.reject]

end StatusGraph

/-- One recorded status change. -/
structure StatusChange (σ : Type) where
  source : σ
  target : σ
  changedAt : DateTime
  reason : String
  actor : String
  metadata : Fields

namespace StatusChange

variable {σ : Type} [StatusSet σ]

/-- The record form of a change. -/
def toValue (c : StatusChange σ) : Value :=
  .dict [("from_status", .str (StatusSet.name c.source)), ("to_status", .str (StatusSet.name c.target)),
    ("changed_at", .str c.changedAt.text), ("reason", .str c.reason), ("actor", .str c.actor),
    ("metadata", .dict c.metadata)]

/-- A record field that must be a record. -/
def fieldsOf (v : Value) : Except IssueKind Fields :=
  match v with
  | .dict fs => .ok fs
  | _ => .error .dictType

/-- A change from a record: the time is a required ISO time, read first; statuses and
reason are required, the actor is `system` and the metadata empty by default. -/
def ofRecord (r : Value) : Outcome (StatusChange σ) := do
  let t ← (← Field.need r "changed_at").isoDateTime
  (do
    let (a, b, why, who, m) ←
      Checked.both (Checked.field "from_status" (Field.required r "from_status" >>= Field.oneOf (StatusSet.table σ)))
        (Checked.both (Checked.field "to_status" (Field.required r "to_status" >>= Field.oneOf (StatusSet.table σ)))
          (Checked.both (Checked.field "reason" (Field.required r "reason" >>= Field.str))
            (Checked.both (Checked.field "actor" (Field.str (Field.entry r "actor" (.str "system"))))
              (Checked.field "metadata" (fieldsOf (Field.entry r "metadata" (.dict [])))))))
    pure ⟨a, b, t, why, who, m⟩ : Checked (StatusChange σ)).run

end StatusChange

namespace RetryDecision

/-- A decision from a record; every field but the time of the next retry is required.
That time is read as ISO text before the rest is checked. -/
def ofRecord (r : Value) : Outcome RetryDecision := do
  let t ← (Field.entry r "next_retry_at" .null).isoDateTime?
  let need (k : String) : Except IssueKind Value := Field.required r k
  (do
    let (s, c, a, n, st, why) ←
      Checked.both (Checked.field "should_retry" (need "should_retry" >>= Field.bool))
        (Checked.both (Checked.field "category" (need "category" >>= Field.oneOf FailureCategory.table))
          (Checked.both (Checked.field "attempt_number" (need "attempt_number" >>= Field.int >>= Field.atLeast 0))
            (Checked.both (Checked.field "max_retries" (need "max_retries" >>= Field.int >>= Field.atLeast 0))
              (Checked.both (Checked.field "strategy" (need "strategy" >>= Field.oneOf RetryStrategy.table))
                (Checked.field "reason" (need "reason" >>= Field.str))))))
    let reason := match why with
      | "retry_scheduled" => RetryReason.scheduled
      | "retries_exhausted" => .exhausted
      | "failure_not_retriable" => .notRetriable
      | other => .other other
    pure ⟨s, c, a, n, t, st, reason⟩ : Checked RetryDecision).run

end RetryDecision

namespace TransitionContext

/-- A context from a record; absent facts take their defaults and an absent time is
`time`. The time, the retry decision and the refund amount are read first, in that order,
each on its own; then the other facts are checked together. -/
def ofRecord (r : Value) (time : DateTime) : Outcome TransitionContext := do
  let when ← match r.get? "at" with
    | some v => v.isoDateTime
    | none => pure time
  let decision ← match r.get? "retry_decision" with
    | none | some .null => pure none
    | some v => some <$> RetryDecision.ofRecord v
  let refund ← match r.get? "refund_amount" with
    | none | some .null => pure none
    | some v => some <$> Money.ofRecord v
  let flag (k : String) : Checked Bool := Checked.field k (Field.bool (Field.entry r k (.bool false)))
  let count (k : String) : Checked Int := Checked.field k (Field.int (Field.entry r k (.int 0)))
  let category : Checked (Option FailureCategory) := match r.get? "failure_category" with
    | none | some .null => .ok none
    | some v => Checked.field "failure_category" ((Field.oneOf FailureCategory.table v).map some)
  (do
    let (why, who, ps, pr, pf, ir, cr, mr, ra, fc, an, md) ←
      Checked.both (Checked.field "reason" (Field.optStr (Field.entry r "reason" .null)))
      (Checked.both (Checked.field "actor" (Field.str (Field.entry r "actor" (.str "system"))))
      (Checked.both (flag "payment_successful") (Checked.both (flag "payment_resolved")
      (Checked.both (flag "payment_failed") (Checked.both (flag "is_retriable")
      (Checked.both (count "current_retries") (Checked.both (count "max_retries")
      (Checked.both (flag "refund_approved")
      (Checked.both category (Checked.both (count "attempt_number")
        (Checked.field "metadata" (StatusChange.fieldsOf (Field.entry r "metadata" (.dict []))))))))))))))
    pure ⟨why, who, when, ps, pr, pf, ir, cr, mr, decision, ra, fc, an, refund, md⟩ :
    Checked TransitionContext).run

end TransitionContext

end Billing
