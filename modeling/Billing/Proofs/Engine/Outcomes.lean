import Billing.Proofs.Retry.Schedule
import Billing.Proofs.Engine.Paths

/-! # A charged run ends in the state its outcome names

A run that reaches the gateway and returns answers after what the gateway said. An approved
charge renews the subscription: active, with its retry bookkeeping cleared, no grace window,
the cycle's next period, and the succeeded payment as its last. A declined charge (a timeout
counts as a retriable decline) goes to the retry policy: a retry it schedules leaves the
subscription in retry, one attempt further, due strictly later than now (the policy's
delay later without a jitter), within the policy's limit and in the same period; with no
retry left the subscription expires once its grace is used up, and is otherwise past due
with a grace window from now and one more grace extension counted.

Each outcome is a structure of its facts (`RunResult.Renewed`, `RunResult.RetryScheduled`,
`RunResult.Expired`, `RunResult.PastDue`), read off the inversion of the part of a run after
the gateway (`Decided`), one lemma per way it can decide. -/
namespace Billing

variable {s u : Subscription}

/-- A status change reaches its target and keeps the period. -/
theorem Subscription.transition_status {target : SubscriptionStatus} {ctx : TransitionContext}
    {r : TransitionResult} (h : s.transition target ctx = .ok (u, r)) :
    u.status = target ∧ u.period = s.period := by
  rw [Subscription.transition_ok h]
  exact ⟨rfl, rfl⟩

/-- A billable status that is not delinquent is active. -/
theorem active_of_billable {st : SubscriptionStatus} (hb : Engine.isBillable st = true)
    (hd : st.isDelinquent = false) : st = .active := by
  cases st <;> simp_all [Engine.isBillable, SubscriptionStatus.isDelinquent]

namespace RunResult

/-- An approved charge: the subscription is renewed one period on, active, with its retry
bookkeeping cleared, no grace window, and the succeeded payment as its last. -/
structure Renewed (s : Subscription) (r : RunResult) : Prop where
  outcome : r.outcome = .succeeded
  status : r.subscription.status = .active
  retry : r.subscription.retry = s.retry.reset
  graceEnd : r.subscription.graceEnd = none
  period : s.cycle.nextPeriod s.period = .ok r.subscription.period
  payment : ∃ q, r.payment = some q ∧ q.status = .succeeded ∧ r.subscription.lastPayment = some q.id

/-- A declined charge the policy retries: the subscription is in retry, one attempt further,
within the limit of the policy of category `c`, in the same period, and due strictly after
`now` (the policy's delay later when there is no jitter); its last payment is the failed one. -/
structure RetryScheduled (s : Subscription) (now : DateTime) (c : FailureCategory)
    (jitter : Option RetryJitter) (r : RunResult) : Prop where
  outcome : r.outcome = .retryScheduled
  status : r.subscription.status = .retry
  attempt : r.subscription.retry.attempt = s.retry.attempt + 1
  maxRetries : r.subscription.retry.maxRetries = (RetryPolicy.ofCategory c).maxRetries
  period : r.subscription.period = s.period
  due : ∃ t, r.subscription.retry.nextAt = some t ∧ now.lt t = .ok true ∧
    (jitter = none → ∃ m, (RetryPolicy.ofCategory c).delay (s.retry.attempt + 1) = .ok m ∧
      now.addMinutes m = .ok t)
  payment : ∃ f, r.payment = some f ∧ f.status = .failed ∧ r.subscription.lastPayment = some f.id

/-- A declined charge with no retry left and the grace used up: the subscription expires. -/
structure Expired (s : Subscription) (r : RunResult) : Prop where
  outcome : r.outcome = .expired
  status : r.subscription.status = .expired
  noRetry : r.subscription.retry.nextAt = none
  graceExtensions : r.subscription.retry.graceExtensions = s.retry.graceExtensions
  payment : ∃ f, r.payment = some f ∧ f.status = .failed ∧ r.subscription.lastPayment = some f.id

/-- A declined charge with no retry left and grace to spare: the subscription is past due
with a grace window of the engine's grace days from `now`, one more extension counted. -/
structure PastDue (e : Engine) (s : Subscription) (now : DateTime) (r : RunResult) : Prop where
  outcome : r.outcome = .pastDue
  status : r.subscription.status = .pastDue
  noRetry : r.subscription.retry.nextAt = none
  graceEnd : ∃ g, now.addDayCount e.graceDays = .ok g ∧ r.subscription.graceEnd = some g
  graceExtensions : r.subscription.retry.graceExtensions = s.retry.graceExtensions + 1
  payment : ∃ f, r.payment = some f ∧ f.status = .failed ∧ r.subscription.lastPayment = some f.id

/-- What a run that charged `s` answers, after the gateway's result `gr`: a renewal on
approval; on a decline, the retry policy's decision on the category of the decline, then a
retry, an expiry or a past-due subscription. -/
def ChargedAs (e : Engine) (s : Subscription) (now : DateTime) (gr : GatewayResult) (r : RunResult) : Prop :=
  (gr.success = true → Renewed s r) ∧
  (gr.success = false → ∃ d,
    evaluateRetry (FailureCategory.ofGateway gr.statusCode gr.errorCode) s.retry.attempt now e.jitter = .ok d ∧
    (d.shouldRetry = true →
      RetryScheduled s now (FailureCategory.ofGateway gr.statusCode gr.errorCode) e.jitter r) ∧
    (d.shouldRetry = false → s.retry.graceExhausted = true → Expired s r) ∧
    (d.shouldRetry = false → s.retry.graceExhausted = false → PastDue e s now r))

end RunResult

namespace Engine

variable {e : Engine} {now : DateTime} {w w' : World} {p : PaymentAttempt}

/-- A decline is classified by its status and error code. -/
theorem declineDetails_category (gr : GatewayResult) (now : DateTime) :
    (declineDetails gr now).category = FailureCategory.ofGateway gr.statusCode gr.errorCode := by
  dsimp only [declineDetails]

/-- A payment moved to a status is in that status. -/
theorem movePayment_status {q : PaymentAttempt} {target : PaymentStatus} {ctx : TransitionContext}
    {details : Option FailureDetails} {changes : PaymentChanges}
    (h : (movePayment p target ctx details changes).run w = .ok q w') : q.status = target := by
  obtain ⟨-, r, htr⟩ := movePayment_ok h
  exact (PaymentAttempt.transition_ok htr).1

/-- An approved charge renews a billable subscription. -/
theorem renewed_result {q : PaymentAttempt} (hbill : isBillable s.status = true)
    (hq : q.status = .succeeded) (hu : (renewed s q now).run w = .ok u w') :
    RunResult.Renewed s ⟨s.id, .succeeded, u, some q, none, none, none⟩ := by
  obtain ⟨hnext, t, ht, hu'⟩ := renewed_ok hu
  -- a delinquent subscription becomes active, an active one stays so
  have hactive : t.status = .active := by
    rcases ht with ⟨-, ctx, r, htr⟩ | ⟨hdel, rfl⟩
    · exact (Subscription.transition_status htr).1
    · exact active_of_billable hbill hdel
  have hfields : u.status = t.status ∧ u.retry = s.retry.reset ∧ u.graceEnd = none ∧
      u.lastPayment = some q.id := by
    rw [hu']
    exact ⟨rfl, rfl, rfl, rfl⟩
  obtain ⟨hstatus, hretry, hgrace, hlast⟩ := hfields
  exact ⟨rfl, hstatus.trans hactive, hretry, hgrace, hnext, ⟨q, rfl, hq, hlast⟩⟩

/-- A declined charge the policy retries schedules the retry. -/
theorem retried_result {c : FailureCategory} {d : RetryDecision} {f : PaymentAttempt}
    (hf : f.status = .failed)
    (hd : evaluateRetry c s.retry.attempt now e.jitter = .ok d) (hretry : d.shouldRetry = true)
    (hu : (scheduleRetry s d now).run w = .ok u w') :
    RunResult.RetryScheduled s now c e.jitter
      ⟨s.id, .retryScheduled, { u with lastPayment := some f.id }, some f, some c, some d,
        some d.reason.name⟩ := by
  obtain ⟨ctx, t, r, htr, rfl⟩ := scheduleRetry_ok hu
  obtain ⟨hstatus, hperiod⟩ := Subscription.transition_status htr
  obtain ⟨-, hmax, hdue, -⟩ := evaluateRetry_spec hd
  exact ⟨rfl, hstatus, rfl, hmax, hperiod, hdue hretry, ⟨f, rfl, hf, rfl⟩⟩

/-- A declined charge with no retry left expires a subscription whose grace is used up, and
makes any other past due. -/
theorem delinquent_result {c : FailureCategory} {d : RetryDecision} {f : PaymentAttempt}
    (hf : f.status = .failed) (hu : (e.enterDelinquency s d now).run w = .ok u w') :
    let r : RunResult := ⟨s.id, if u.status = .expired then .expired else .pastDue,
      { u with lastPayment := some f.id }, some f, some c, some d, some d.reason.name⟩
    (s.retry.graceExhausted = true → RunResult.Expired s r) ∧
      (s.retry.graceExhausted = false → RunResult.PastDue e s now r) := by
  obtain ⟨t, -, hrest⟩ := enterDelinquency_ok hu
  -- whether the grace is used up decides between the two moves
  refine ⟨fun hx => ?_, fun hx => ?_⟩
  · rcases hrest with ⟨-, ctx, t', r, htr, rfl⟩ | ⟨hx', -⟩
    · have hstatus := (Subscription.transition_status htr).1
      exact ⟨by simp [hstatus], hstatus, rfl, rfl, ⟨f, rfl, hf, rfl⟩⟩
    · rw [hx] at hx'
      cases hx'
  · rcases hrest with ⟨hx', -⟩ | ⟨-, g, ctx, t', r, hg, htr, rfl⟩
    · rw [hx] at hx'
      cases hx'
    · have hstatus := (Subscription.transition_status htr).1
      exact ⟨by simp [hstatus], hstatus, rfl, ⟨g, hg, rfl⟩, rfl, ⟨f, rfl, hf, rfl⟩⟩

/-- What the part of a run after the gateway decides for a billable subscription is what
the gateway's result names. -/
theorem Decided.chargedAs {reply : GatewayReply} {q : PaymentAttempt} {r : RunResult}
    (hd : Decided e s p reply now w u q r) (hbill : isBillable s.status = true) :
    ∃ gr, e.gatewayResult s reply = .ok gr ∧ r.ChargedAs e s now gr := by
  cases hd with
  | paid gr q u hr hok hq hu =>
    refine ⟨gr, hr, fun _ => renewed_result hbill (movePayment_status hq) hu, fun h => ?_⟩
    rw [hok] at h
    cases h
  | retried gr f d u hr hok hf hdec hretry hu =>
    simp only [declineDetails_category] at hdec ⊢
    refine ⟨gr, hr, fun h => ?_, fun _ => ⟨d, hdec, fun _ => ?_, fun h => ?_, fun h => ?_⟩⟩
    · rw [hok] at h
      cases h
    · exact retried_result (movePayment_status hf) hdec hretry hu
    · rw [hretry] at h
      cases h
    · rw [hretry] at h
      cases h
  | delinquent gr f d u hr hok hf hdec hretry hu =>
    simp only [declineDetails_category] at hdec ⊢
    have hres := delinquent_result (c := FailureCategory.ofGateway gr.statusCode gr.errorCode)
      (movePayment_status hf) hu
    refine ⟨gr, hr, fun h => ?_, fun _ => ⟨d, hdec, fun h => ?_, fun _ => hres.1, fun _ => hres.2⟩⟩
    · rw [hok] at h
      cases h
    · rw [hretry] at h
      cases h

/-- After the gateway, a run that returns answers what the gateway's result names. -/
theorem finish_chargedAs {reply : GatewayReply} {r : RunResult} (hbill : isBillable s.status = true)
    (h : (e.finish s p reply now).run w = .ok r w') :
    ∃ gr, e.gatewayResult s reply = .ok gr ∧ r.ChargedAs e s now gr := by
  have hf := finish_paths e now w s p reply
  rw [h] at hf
  cases hf with
  | saved u q r hd hpay hsub => exact hd.chargedAs hbill

/-- A run that reaches the gateway and returns: its subscription was billable, and the rest
of the run is the part after the gateway on the reply, a timeout when the call is cancelled
and the scripted reply otherwise. -/
theorem run_of_submitting {id : String} {w₁ : World} {r : RunResult}
    (hb : (e.begin id now).run w = .ok (.submitting s p) w₁) (h : (e.run id now).run w = .ok r w') :
    isBillable s.status = true ∧ ∃ reply w₂, (reply = .timeout ∨ reply = w.nextReply) ∧
      (e.finish s p reply now).run w₂ = .ok r w' := by
  have hbegun := begin_paths e id now w
  rw [hb] at hbegun
  have hw := Begun.submitting_world e id now w hbegun
  subst hw
  refine ⟨(Begun.billable hbegun).2, ?_⟩
  unfold Engine.run at h
  simp only [EStateM.run_bind, hb] at h
  cases ht : e.timeoutPassed with
  | error err =>
    simp only [ht] at h
    cases h
  | ok passed =>
    cases passed with
    | true =>
      simp only [ht, ↓reduceIte, EStateM.run_bind, EStateM.run_pure] at h
      exact ⟨.timeout, w₁, .inl rfl, h⟩
    | false =>
      simp only [ht, Bool.false_eq_true, ↓reduceIte, EStateM.run_bind, World.submit_run] at h
      exact ⟨_, _, .inr rfl, h⟩

end Engine

/-- A charged run ends in the state its outcome names. A timeout is a retriable decline.
Every run that reaches the gateway and returns charged a subscription in a billable status
(active, in retry, in its grace period or past due), and answers what the gateway's reply
names: a renewal one period on when the charge is approved; when it is declined, a retry
due strictly later (the policy's delay later without a jitter) while the policy allows one,
and otherwise an expiry when the grace is used up or a past-due subscription with a new
grace window. -/
theorem charged_runs_end_as_named :
    (∀ (e : Engine) (s : Subscription) (gr : GatewayResult), e.gatewayResult s .timeout = .ok gr →
      FailureCategory.ofGateway gr.statusCode gr.errorCode = .retriable) ∧
    ∀ (e : Engine) (id : String) (now : DateTime) (w w₁ w' : World) (s : Subscription)
      (p : PaymentAttempt) (r : RunResult),
      (e.begin id now).run w = .ok (.submitting s p) w₁ → (e.run id now).run w = .ok r w' →
      Engine.isBillable s.status = true ∧ ∃ reply gr, (reply = .timeout ∨ reply = w.nextReply) ∧
        e.gatewayResult s reply = .ok gr ∧ r.ChargedAs e s now gr := by
  refine ⟨fun e s gr h => ?_, fun e id now w w₁ w' s p r hb h => ?_⟩
  · simp only [Engine.gatewayResult, Except.ok.injEq] at h
    subst h
    show FailureCategory.ofGateway (some "TIMEOUT") (some FailureCategory.timeoutCode) = .retriable
    decide +kernel
  · obtain ⟨hbill, reply, w₂, hreply, hfinish⟩ := Engine.run_of_submitting hb h
    obtain ⟨gr, hgr, hcharged⟩ := Engine.finish_chargedAs hbill hfinish
    exact ⟨hbill, reply, gr, hreply, hgr, hcharged⟩

/-- Whether a step run from a world returns a value that `test` accepts. -/
def Step.returnsWith {α : Type} (test : α → Bool) (x : Step α) (w : World) : Bool :=
  match x.run w with
  | .ok a _ => test a
  | .error _ _ => false

theorem Step.ok_of_returnsWith {α : Type} {test : α → Bool} {x : Step α} {w : World}
    (h : x.returnsWith test w = true) : ∃ a w', x.run w = .ok a w' ∧ test a = true := by
  unfold Step.returnsWith at h
  split at h
  · exact ⟨_, _, ‹_›, h⟩
  · cases h

/-- Whether the first stage of a run hands a charge to the gateway. -/
def RunStage.isSubmitting : RunStage → Bool
  | .submitting _ _ => true
  | .finished _ => false

/-- A monthly subscription of 1000 TWD, active, whose February period is over. -/
def declinedSubscription : Subscription :=
  { (default : Subscription) with
    id := "sub_1"
    customer := "cust_1"
    paymentMethod := some "pm_card"
    amount := ⟨1000, "TWD"⟩
    cycle := ⟨.monthly, none, none⟩
    status := .active
    period := ⟨⟨2024, 2, 1⟩, ⟨2024, 2, 29⟩, 1⟩ }

/-- The repository holding that subscription, with a gateway that declines the first charge
for insufficient funds. -/
def declinedWorld : World :=
  ⟨[("sub_1", declinedSubscription)], [], ⟨none, none, none, none⟩,
    [.answer ⟨false, none, some "FAILED", some "INSUFFICIENT_FUNDS", some "Insufficient funds"⟩], 0, [], []⟩

/-- An engine with three grace days, a thirty-second gateway timeout and no jitter. -/
def retryEngine : Engine := ⟨.int 3, .int 30, .int 1, none, none, none⟩

/-- The first of March 2024, at nine in the morning, in UTC. -/
def marchFirst : DateTime := ⟨⟨2024, 3, 1⟩, 9, 0, 0, 0, some 0⟩

/-- Charging that subscription on the first of March reaches the gateway and returns, and
the answer is what the decline names. -/
theorem declined_charge_retried :
    ∃ s p w₁ r w', (retryEngine.begin "sub_1" marchFirst).run declinedWorld = .ok (.submitting s p) w₁ ∧
      (retryEngine.run "sub_1" marchFirst).run declinedWorld = .ok r w' ∧
      Engine.isBillable s.status = true ∧ ∃ reply gr, (reply = .timeout ∨ reply = declinedWorld.nextReply) ∧
        retryEngine.gatewayResult s reply = .ok gr ∧ r.ChargedAs retryEngine s marchFirst gr := by
  have hsubmits : (retryEngine.begin "sub_1" marchFirst).returnsWith RunStage.isSubmitting
      declinedWorld = true := by decide +kernel
  have hreturns : (retryEngine.run "sub_1" marchFirst).returnsWith (fun _ => true) declinedWorld = true := by
    decide +kernel
  obtain ⟨stage, w₁, hb, hstage⟩ := Step.ok_of_returnsWith hsubmits
  obtain ⟨r, w', hr, -⟩ := Step.ok_of_returnsWith hreturns
  cases stage with
  | finished _ => cases hstage
  | submitting s p => exact ⟨s, p, w₁, r, w', hb, hr, charged_runs_end_as_named.2 _ _ _ _ _ _ _ _ _ hb hr⟩

/-- The declined subscription is alone in its repository and allows no grace extension:
charged on the first of March, its run returns having called the gateway at most six times
for the cycle. -/
theorem dunning_ends_alone :
    ∃ r w, (retryEngine.run "sub_1" marchFirst).run declinedWorld = .ok r w ∧
      (w.calls.length : Int) ≤ declinedWorld.calls.length + 6 + 0 := by
  have hreturns : (retryEngine.run "sub_1" marchFirst).returnsWith (fun _ => true) declinedWorld = true := by
    decide +kernel
  obtain ⟨r, w, hr, -⟩ := Step.ok_of_returnsWith hreturns
  refine ⟨r, w, hr, ?_⟩
  exact (@Engine.dunning_ends retryEngine "sub_1" declinedWorld declinedSubscription 0 rfl rfl
    le_rfl rfl).2.1 declinedWorld w .refl (fun s hs => by cases hs; rfl) ⟨marchFirst, r, hr⟩

end Billing
