import Billing.Proofs.Engine.ErrorKinds
import Billing.Proofs.Engine.History
import Billing.Proofs.Engine.Outcomes
import Billing.Proofs.Calendar.Periods

/-! # Failed runs

A run that fails leaves the repository as it found it (`failed_run_keeps_repository`). Before
the gateway it writes nothing unless it returns, and after the gateway it saves the payment
first and then the subscription: so the one partial write is the run's payment, kept when
the subscription's save fails after it.

Some failures belong to the part of a run before the gateway only: a subscription or a
payment that is not stored, a collaborator that failed, and a discount in another currency
(`Error.beforeCharge`). Everything after the call, the reading of the gateway's answer, the
status changes, the renewal, the retry decision, the grace window and the saves, fails with
errors of other kinds (`finish_avoids`), so a run that fails with one of these has called no
one. -/
namespace Billing

/-- The errors of the part of a run before the gateway: a subscription or a payment that is
not stored, a failed collaborator, and an amount in another currency. -/
def Error.beforeCharge : Error → Bool
  | .billing b => b.kind == .subscriptionNotFound || b.kind == .paymentNotFound ||
      b.kind == .collaboratorUnavailable || b.kind == .currencyMismatch
  | _ => false

/-- They are exactly the errors named as a missing subscription or payment, an unavailable
collaborator and a currency mismatch. -/
theorem Error.beforeCharge_iff (err : Error) :
    err.beforeCharge = true ↔
      err.className ∈ ["SubscriptionNotFoundError", "PaymentNotFoundError",
        "CollaboratorUnavailableError", "CurrencyMismatchError"] := by
  cases err with
  | billing b => cases hk : b.kind <;> simp [beforeCharge, className, ErrorKind.className, hk]
  | decimal s => cases s <;> simp [beforeCharge, className]
  | _ => simp [beforeCharge, className]

theorem Error.isChecked_of_beforeCharge (err : Error) (h : err.beforeCharge = true) :
    err.isChecked = true := by
  cases err <;> first | rfl | cases h

section Leaves

open Outcome

/-- Arithmetic fails with no error of the part before the gateway. -/
theorem Outcome.Avoids.beforeCharge {α : Type} {o : Outcome α} (h : Avoids Error.isChecked o) :
    Avoids Error.beforeCharge o :=
  h.mono Error.isChecked_of_beforeCharge

theorem RetryDecision.make_avoids (should : Bool) (c : FailureCategory) (attempt maxRetries : Int)
    (next : Option DateTime) (s : RetryStrategy) (r : RetryReason) :
    Avoids Error.beforeCharge (RetryDecision.make should c attempt maxRetries next s r) := by
  unfold RetryDecision.make
  split
  · exact Avoids.error rfl
  · split
    · exact Avoids.error rfl
    · exact Avoids.ok _

theorem evaluateRetry_avoids (c : FailureCategory) (attempt : Int) (now : DateTime)
    (j : Option RetryJitter) : Avoids Error.beforeCharge (evaluateRetry c attempt now j) := by
  unfold evaluateRetry
  dsimp only
  refine Avoids.bind (RetryPolicy.nextAt_unchecked _ _ _).beforeCharge fun found _ => ?_
  have hmake := RetryDecision.make_avoids
  cases found with
  | none => exact hmake _ _ _ _ _ _ _
  | some next =>
    -- a jitter spreads the policy's delay before the decision is made
    cases j with
    | none => exact Avoids.bind (Avoids.pure _) fun _ _ => hmake _ _ _ _ _ _ _
    | some j =>
      exact Avoids.bind (RetryPolicy.delay_unchecked _ _).beforeCharge fun _ _ =>
        Avoids.bind (RetryJitter.apply_unchecked _ _ _).beforeCharge fun _ _ =>
          Avoids.bind (DateTime.addFloatMinutes_unchecked _ _).beforeCharge fun _ _ =>
            hmake _ _ _ _ _ _ _

theorem Period.make_avoids (start stop : Date) (n : Int) :
    Avoids Error.beforeCharge (Period.make start stop n) := by
  unfold Period.make
  split
  · exact Avoids.error rfl
  · split
    · exact Avoids.error rfl
    · exact Avoids.ok _

theorem Cycle.nextPeriod_avoids (c : Cycle) (p : Period) :
    Avoids Error.beforeCharge (c.nextPeriod p) := by
  have hnext : ∀ d, Avoids Error.beforeCharge (c.nextDate d) := fun d =>
    (Avoids.of_calendar fun _ => Cycle.nextDate_error).beforeCharge
  unfold Cycle.nextPeriod Cycle.period
  exact Avoids.bind (hnext _) fun _ _ => Avoids.bind (hnext _) fun _ _ =>
    Avoids.bind (Avoids.of_calendar fun _ => Date.addDays_error).beforeCharge fun _ _ =>
      Period.make_avoids _ _ _

theorem Subscription.transition_avoids (s : Subscription) (target : SubscriptionStatus)
    (ctx : TransitionContext) : Avoids Error.beforeCharge (s.transition target ctx) := by
  unfold Subscription.transition
  dsimp only
  split
  · exact Avoids.error rfl
  · split <;> exact Avoids.ok _

/-- A payment's status change other than a refund fails only when the payment machine
refuses it. -/
theorem PaymentAttempt.transition_avoids (p : PaymentAttempt) {target : PaymentStatus}
    (ht : target.isRefund = false) (ctx : TransitionContext) (details : Option FailureDetails)
    (changes : PaymentChanges) : Avoids Error.beforeCharge (p.transition target ctx details changes) := by
  unfold PaymentAttempt.transition
  simp only [ht, Bool.and_false, Bool.false_eq_true, if_false]
  refine Avoids.bind (Avoids.pure _) fun r _ => ?_
  split
  · exact Avoids.error rfl
  · split <;> exact Avoids.pure _

theorem Engine.gatewayResult_avoids (e : Engine) (s : Subscription) (reply : GatewayReply) :
    Avoids Error.beforeCharge (e.gatewayResult s reply) := by
  unfold Engine.gatewayResult
  repeat' split
  all_goals first | exact Avoids.ok _ | exact Avoids.error rfl

end Leaves

namespace Engine

open Step

variable {w : World}

theorem persist_avoids (s : Subscription) (p : PaymentAttempt) :
    Step.Avoids Error.beforeCharge (persist s p) w :=
  Avoids.bind (Avoids.savePayment p fun _ _ => rfl) fun _ _ _ =>
    Avoids.saveSubscription s fun _ _ => rfl

theorem move_avoids (s : Subscription) (t : SubscriptionStatus) (ctx : TransitionContext) :
    Step.Avoids Error.beforeCharge (move s t ctx) w :=
  Avoids.bind (Avoids.lift (Subscription.transition_avoids s t ctx)) fun _ _ _ => Avoids.pure _

theorem movePayment_avoids (p : PaymentAttempt) {t : PaymentStatus} (ht : t.isRefund = false)
    (ctx : TransitionContext) (details : Option FailureDetails) (changes : PaymentChanges) :
    Step.Avoids Error.beforeCharge (movePayment p t ctx details changes) w :=
  Avoids.bind (Avoids.lift (PaymentAttempt.transition_avoids p ht ctx details changes)) fun _ _ _ =>
    Avoids.pure _

theorem renewed_avoids (s : Subscription) (p : PaymentAttempt) (now : DateTime) :
    Step.Avoids Error.beforeCharge (renewed s p now) w := by
  unfold renewed
  dsimp only
  -- a delinquent subscription moves back to active, then its next period is worked out
  repeat' first
    | exact move_avoids _ _ _
    | exact Avoids.pure _
    | exact Avoids.lift (Cycle.nextPeriod_avoids _ _)
    | refine Avoids.bind ?_ fun _ _ _ => ?_
    | split

theorem scheduleRetry_avoids (s : Subscription) (d : RetryDecision) (now : DateTime) :
    Step.Avoids Error.beforeCharge (scheduleRetry s d now) w :=
  Avoids.bind (move_avoids _ _ _) fun _ _ _ =>
    Avoids.bind (Avoids.lift (Outcome.Avoids.checked (fun _ => rfl) _)) fun _ _ _ => Avoids.pure _

theorem enterDelinquency_avoids (e : Engine) (s : Subscription) (d : RetryDecision) (now : DateTime) :
    Step.Avoids Error.beforeCharge (e.enterDelinquency s d now) w := by
  unfold enterDelinquency
  dsimp only
  -- status changes, the end of a new grace window, and the record they build
  repeat' first
    | exact move_avoids _ _ _
    | exact Avoids.pure _
    | exact Avoids.lift (DateTime.addDayCount_unchecked _ _).beforeCharge
    | exact Avoids.lift (Outcome.Avoids.checked (fun _ => rfl) _)
    | refine Avoids.bind ?_ fun _ _ _ => ?_
    | split

theorem handleFailure_avoids (e : Engine) (s : Subscription) (p : PaymentAttempt) (r : GatewayResult)
    (now : DateTime) : Step.Avoids Error.beforeCharge (e.handleFailure s p r now) w := by
  unfold handleFailure
  dsimp only
  refine Avoids.bind (movePayment_avoids _ rfl _ _ _) fun f _ _ => ?_
  refine Avoids.bind (Avoids.lift (evaluateRetry_avoids _ _ _ _)) fun d _ _ => ?_
  -- whichever the policy decides, the payment and then the subscription are saved
  have hsave : ∀ (u : Subscription) (o : RunOutcome) w', Step.Avoids Error.beforeCharge (do
      persist { u with lastPayment := some f.id } f
      pure (⟨s.id, o, { u with lastPayment := some f.id }, some f,
        some (declineDetails r now).category, some d, some d.reason.name⟩ : RunResult)) w' :=
    fun _ _ _ => Avoids.bind (persist_avoids _ _) fun _ _ _ => Avoids.pure _
  split
  · exact Avoids.bind (scheduleRetry_avoids s d now) fun u _ _ => hsave u _ _
  · exact Avoids.bind (enterDelinquency_avoids e s d now) fun u _ _ => hsave u _ _

/-- Everything a run does after the gateway fails, if it fails, with an error that the part
before it alone raises. -/
theorem finish_avoids (e : Engine) (s : Subscription) (p : PaymentAttempt) (reply : GatewayReply)
    (now : DateTime) : Step.Avoids Error.beforeCharge (e.finish s p reply now) w := by
  unfold finish
  refine Avoids.bind (Avoids.lift (gatewayResult_avoids e s reply)) fun r _ _ => ?_
  split
  · exact Avoids.bind (movePayment_avoids _ rfl _ _ _) fun q _ _ =>
      Avoids.bind (renewed_avoids s q now) fun u _ _ =>
        Avoids.bind (persist_avoids u q) fun _ _ _ => Avoids.pure _
  · exact handleFailure_avoids e s p r now

section Runs

variable {e : Engine} {id : String} {now : DateTime} {w w' : World} {err : Error}

/-- After the gateway a failed run has written at most the payment it decided on: nothing,
or, when the subscription's save fails, that payment, succeeded or failed. -/
theorem Finished.error_payments {s : Subscription} {p : PaymentAttempt} {reply : GatewayReply}
    (hf : Finished e s p reply now w (.error err w')) :
    w'.payments = w.payments ∨ ∃ q m, q.id = p.id ∧ (q.status = .succeeded ∨ q.status = .failed) ∧
      w.faults.subscriptionSave = some m ∧
      err = .billing (.persistence ("Failed to save subscription: " ++ m) (some s.id)) ∧
      w'.payments = upsert p.id q w.payments := by
  cases hf with
  | failed err => exact .inl rfl
  | halfSaved u q r m hd hpay hsub =>
    obtain ⟨hid, -, -, huid, -, hst⟩ := hd.written
    have hstatus : q.status = .succeeded ∨ q.status = .failed := by
      rcases hst with ⟨h, -⟩ | ⟨h, -⟩
      exacts [.inl h, .inr h]
    exact .inr ⟨q, m, hid, hstatus, hsub, by rw [huid], by simp [hid]⟩

/-- A failed run leaves the stored subscriptions and payments as it found them, with one
exception: when the subscription's save fails after the run's payment was saved, that
payment, now succeeded or failed, is the one thing written. A run that fails on a missing
subscription or payment, a failed collaborator or an amount in another currency has called
no one. -/
theorem failed_run_keeps_repository (e : Engine) (id : String) (now : DateTime)
    (h : (e.run id now).run w = .error err w') :
    w'.subscriptions = w.subscriptions ∧
      (w'.payments = w.payments ∨
        ∃ s p q m, Begun e id now w (.ok (.submitting s p) w) ∧ q.id = p.id ∧
          (q.status = .succeeded ∨ q.status = .failed) ∧ w.faults.subscriptionSave = some m ∧
          err = .billing (.persistence ("Failed to save subscription: " ++ m) (some s.id)) ∧
          w'.payments = upsert p.id q w.payments) ∧
      (err.beforeCharge = true → w'.calls = w.calls) := by
  have hpaths := run_paths e id now w
  rw [h] at hpaths
  refine ⟨run_error_subscriptions h, ?_, fun hbefore => ?_⟩
  · cases hpaths with
    | failed err => exact .inl rfl
    | cancelled s p res hb ht hf =>
      rcases hf.error_payments with hp | ⟨q, m, hid, hst, hsub, herr, hp⟩
      · exact .inl hp
      · exact .inr ⟨s, p, q, m, hb, hid, hst, hsub, herr, hp⟩
    | called s p res hb ht hf hres =>
      -- the call itself touches neither the repository nor its faults
      rcases hf.error_payments with hp | ⟨q, m, hid, hst, hsub, herr, hp⟩
      · exact .inl (by simpa using hp)
      · exact .inr ⟨s, p, q, m, hb, hid, hst, by simpa using hsub, herr, by simpa using hp⟩
  · cases hpaths with
    | failed err => rfl
    | cancelled s p res hb ht hf => exact hf.calls
    | called s p res hb ht hf hres =>
      -- a run that called the gateway failed after it, where no such error is raised
      rw [finish_avoids e s p _ now err w' hres] at hbefore
      cases hbefore

end Runs

/-- The repository holding the subscription due on the first of March, whose store refuses
every save of a subscription. -/
def saveRefusedWorld : World :=
  ⟨[("sub_1", declinedSubscription)], [], ⟨some "disk full", none, none, none⟩, [], 0, [], []⟩

/-- There the charge goes through but the renewal cannot be saved: the run fails, and what
it leaves is what a failed run may leave. -/
theorem refused_save_leaves_payment :
    ∃ err w', (retryEngine.run "sub_1" marchFirst).run saveRefusedWorld = .error err w' ∧
      w'.subscriptions = saveRefusedWorld.subscriptions ∧
      (w'.payments = saveRefusedWorld.payments ∨
        ∃ s p q m, Begun retryEngine "sub_1" marchFirst saveRefusedWorld
            (.ok (.submitting s p) saveRefusedWorld) ∧ q.id = p.id ∧
          (q.status = .succeeded ∨ q.status = .failed) ∧
          saveRefusedWorld.faults.subscriptionSave = some m ∧
          err = .billing (.persistence ("Failed to save subscription: " ++ m) (some s.id)) ∧
          w'.payments = upsert p.id q saveRefusedWorld.payments) ∧
      (err.beforeCharge = true → w'.calls = saveRefusedWorld.calls) := by
  have hfails : (match (retryEngine.run "sub_1" marchFirst).run saveRefusedWorld with
      | .error _ _ => true
      | .ok _ _ => false) = true := by decide +kernel
  split at hfails
  · rename_i err w' h
    exact ⟨err, w', h, failed_run_keeps_repository _ _ _ h⟩
  · cases hfails

end Engine

end Billing
