import Billing.Proofs.Calendar.Ordinal
import Billing.Proofs.Engine.ErrorKinds

/-! # Refusals

A refusal is the error of a request that a checker turns down: a status change the state
machines do not allow, or a record whose fields fail their checks. `Outcome.NoRefusal` and
`Step.NoRefusal` say that a computation fails, if it fails, with an error of another kind:
they are `Outcome.Avoids` and `Step.Avoids` for the test `Error.isRefusal`, closed under
`bind`, so they are proved of a function by following its code, one call after another.

The arithmetic of a billing run fails only by overflowing, by leaving the calendar or on a
value of the wrong kind (`Error.isChecked` is false of all of these), never with a refusal:
so do the date and time shifts, the retry delays and their jitter, and the comparisons that
decide whether a run bills. The one
refusal of the retry policy, a decision for a negative number of retries, is ruled out by
counting the retries from zero (`evaluateRetry_noRefusal`). -/
namespace Billing

/-- A refused status change, or a record whose fields were refused. -/
def Error.isRefusal : Error → Bool
  | .billing b => b.kind == .subscriptionState || b.kind == .paymentState
  | .invalid _ => true
  | _ => false

/-- The refusals are exactly the errors named as subscription state, payment state and
validation errors. -/
theorem Error.isRefusal_iff (err : Error) :
    err.isRefusal = true ↔
      err.className ∈ ["SubscriptionStateError", "PaymentStateError", "ValidationError"] := by
  cases err with
  | billing b => cases hk : b.kind <;> simp [isRefusal, className, ErrorKind.className, hk]
  | decimal s => cases s <;> simp [isRefusal, className]
  | _ => simp [isRefusal, className]

theorem Error.isChecked_of_isRefusal (err : Error) (h : err.isRefusal = true) : err.isChecked = true := by
  cases err <;> first | rfl | cases h

/-- An outcome that is no refusal: a value, or an error of another kind. -/
def Outcome.NoRefusal {α : Type} (o : Outcome α) : Prop := ∀ err, o = .error err → err.isRefusal = false

namespace Outcome.NoRefusal

variable {α β : Type}

theorem ok (a : α) : Outcome.NoRefusal (.ok a : Outcome α) := Outcome.Avoids.ok a

theorem pure (a : α) : Outcome.NoRefusal (pure a : Outcome α) := ok a

theorem error {err : Error} (h : err.isRefusal = false) : Outcome.NoRefusal (.error err : Outcome α) :=
  Outcome.Avoids.error h

theorem throw {err : Error} (h : err.isRefusal = false) : Outcome.NoRefusal (throw err : Outcome α) :=
  error h

theorem bind {o : Outcome α} {f : α → Outcome β} (ho : Outcome.NoRefusal o)
    (hf : ∀ a, o = .ok a → Outcome.NoRefusal (f a)) : Outcome.NoRefusal (o >>= f) :=
  Outcome.Avoids.bind ho hf

theorem map {o : Outcome α} {f : α → β} (ho : Outcome.NoRefusal o) : Outcome.NoRefusal (f <$> o) := by
  intro err h
  cases hx : o with
  | error e =>
    rw [hx] at h
    cases h
    exact ho _ hx
  | ok a =>
    rw [hx] at h
    cases h

/-- What fails only with errors of arithmetic fails with no refusal. -/
theorem of_unchecked {o : Outcome α} (h : Outcome.Avoids Error.isChecked o) : Outcome.NoRefusal o :=
  h.mono Error.isChecked_of_isRefusal

theorem of_calendar {o : Outcome α} (h : ∀ err, o = .error err → err.isCalendar = true) :
    Outcome.NoRefusal o := of_unchecked (Outcome.Avoids.of_calendar h)

end Outcome.NoRefusal

/-- A step that, from the world `w`, fails with no refusal. -/
def Step.NoRefusal {α : Type} (x : Step α) (w : World) : Prop :=
  ∀ err w', x.run w = .error err w' → err.isRefusal = false

namespace Step.NoRefusal

variable {α β : Type} {w : World}

theorem pure (a : α) : Step.NoRefusal (pure a) w := Step.Avoids.pure a

theorem throw {err : Error} (h : err.isRefusal = false) : Step.NoRefusal (throw err : Step α) w :=
  Step.Avoids.throw h

theorem lift {o : Outcome α} (h : Outcome.NoRefusal o) : Step.NoRefusal (World.lift o) w :=
  Step.Avoids.lift h

theorem bind {x : Step α} {f : α → Step β} (hx : Step.NoRefusal x w)
    (hf : ∀ a w', x.run w = .ok a w' → Step.NoRefusal (f a) w') : Step.NoRefusal (x >>= f) w :=
  Step.Avoids.bind hx hf

theorem loadSubscription (id : String) : Step.NoRefusal (World.loadSubscription id) w := by
  intro err w' h
  rw [World.loadSubscription_run] at h
  split at h <;> cases h <;> rfl

theorem loadPayment (id : String) : Step.NoRefusal (World.loadPayment id) w := by
  intro err w' h
  rw [World.loadPayment_run] at h
  split at h
  · cases h
    rfl
  · cases h

theorem saveSubscription (s : Subscription) : Step.NoRefusal (World.saveSubscription s) w :=
  Step.Avoids.saveSubscription s fun _ _ => rfl

theorem savePayment (p : PaymentAttempt) : Step.NoRefusal (World.savePayment p) w :=
  Step.Avoids.savePayment p fun _ _ => rfl

theorem submit (amount : Money) (method key : String) : Step.NoRefusal (World.submit amount method key) w := by
  intro err w' h
  rw [World.submit_run] at h
  cases h

end Step.NoRefusal

section Arithmetic

open Outcome

variable (t : DateTime)

theorem DateTime.addFloatMinutes_noRefusal (x : Float) : NoRefusal (t.addFloatMinutes x) :=
  NoRefusal.of_unchecked (DateTime.addFloatMinutes_unchecked t x)

theorem DateTime.addDayCount_noRefusal (days : Value) : NoRefusal (t.addDayCount days) :=
  NoRefusal.of_unchecked (DateTime.addDayCount_unchecked t days)

theorem RetryPolicy.delay_noRefusal (p : RetryPolicy) (attempt : Int) : NoRefusal (p.delay attempt) :=
  NoRefusal.of_unchecked (RetryPolicy.delay_unchecked p attempt)

theorem RetryPolicy.nextAt_noRefusal (p : RetryPolicy) (attempt : Int) (now : DateTime) :
    NoRefusal (p.nextAt attempt now) :=
  NoRefusal.of_unchecked (RetryPolicy.nextAt_unchecked p attempt now)

theorem RetryJitter.apply_noRefusal (j : RetryJitter) (delay attempt : Value) :
    NoRefusal (j.apply delay attempt) :=
  NoRefusal.of_unchecked (RetryJitter.apply_unchecked j delay attempt)

theorem RetryPolicy.maxRetries_nonneg (c : FailureCategory) : 0 ≤ (RetryPolicy.ofCategory c).maxRetries := by
  cases c <;> decide

theorem RetryDecision.make_noRefusal {should : Bool} {c : FailureCategory} {attempt maxRetries : Int}
    {next : Option DateTime} {s : RetryStrategy} {r : RetryReason} (h : 0 ≤ attempt) (hm : 0 ≤ maxRetries) :
    NoRefusal (RetryDecision.make should c attempt maxRetries next s r) := by
  unfold RetryDecision.make
  rw [if_neg (by omega), if_neg (by omega)]
  exact NoRefusal.ok _

/-- The retry policy never refuses its own decision once the retries made are counted from
zero. -/
theorem evaluateRetry_noRefusal (c : FailureCategory) {attempt : Int} (now : DateTime)
    (j : Option RetryJitter) (h : 0 ≤ attempt) : NoRefusal (evaluateRetry c attempt now j) := by
  have hmake := RetryPolicy.maxRetries_nonneg c
  unfold evaluateRetry
  dsimp only
  refine NoRefusal.bind (RetryPolicy.nextAt_noRefusal _ _ _) fun found _ => ?_
  cases found with
  | none => exact RetryDecision.make_noRefusal h hmake
  | some next =>
    -- a jitter spreads the policy's delay before the decision is made
    cases j with
    | none => exact NoRefusal.bind (NoRefusal.pure _) fun _ _ => RetryDecision.make_noRefusal h hmake
    | some j =>
      exact NoRefusal.bind (RetryPolicy.delay_noRefusal _ _) fun _ _ =>
        NoRefusal.bind (RetryJitter.apply_noRefusal _ _ _) fun _ _ =>
          NoRefusal.bind (DateTime.addFloatMinutes_noRefusal _ _) fun _ _ =>
            RetryDecision.make_noRefusal h hmake

end Arithmetic

section Checks

open Outcome

theorem DateTime.le_noRefusal (a b : DateTime) : NoRefusal (a.le b) := by
  unfold DateTime.le DateTime.compareTo
  split
  · exact NoRefusal.map (NoRefusal.ok _)
  · exact NoRefusal.map (NoRefusal.ok _)
  · exact NoRefusal.map (NoRefusal.error rfl)

theorem Subscription.isRetryDue_noRefusal (s : Subscription) (now : DateTime) :
    NoRefusal (s.isRetryDue now) := by
  unfold Subscription.isRetryDue
  repeat' split
  all_goals first | exact NoRefusal.pure _ | exact DateTime.le_noRefusal _ _

theorem Subscription.isGraceElapsed_noRefusal (s : Subscription) (now : DateTime) :
    NoRefusal (s.isGraceElapsed now) := by
  unfold Subscription.isGraceElapsed
  repeat' split
  all_goals first | exact NoRefusal.pure _ | exact DateTime.le_noRefusal _ _

theorem Engine.skipReason_noRefusal (s : Subscription) (now : DateTime) :
    NoRefusal (Engine.skipReason s now) := by
  unfold Engine.skipReason
  repeat' split
  all_goals first
    | exact NoRefusal.pure _
    | exact NoRefusal.bind (Subscription.isRetryDue_noRefusal _ _) fun _ _ => by
        split <;> exact NoRefusal.pure _

end Checks

theorem Money.max_noRefusal (a b : Money) : Outcome.NoRefusal (a.max b) := by
  unfold Money.max Money.compareTo Money.sameCurrency
  split
  · exact Outcome.NoRefusal.bind (Outcome.NoRefusal.ok _) fun _ _ =>
      Outcome.NoRefusal.bind (Outcome.NoRefusal.pure _) fun _ _ => Outcome.NoRefusal.pure _
  · exact Outcome.NoRefusal.bind (Outcome.NoRefusal.bind (Outcome.NoRefusal.error rfl) fun _ _ =>
      Outcome.NoRefusal.pure _) fun _ _ => Outcome.NoRefusal.pure _

end Billing
