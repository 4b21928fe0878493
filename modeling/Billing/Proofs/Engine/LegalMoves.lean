import Billing.Proofs.Engine.Refusals
import Billing.Proofs.Engine.Validity

/-! # A run asks only for legal moves

Every status change a billing run requests is one its state machine allows at that point:
a delinquent subscription returns to active only with its payment resolved, an active one
enters its grace period only after a failed payment, a retry is requested only while the
retry policy allows one and the count of retries is under its limit, and delinquency ends
in past due or expired. The payment moves are the ones of a charge: pending or retrying
to processing, processing to succeeded or failed, and a failed payment back to retrying
only when the resume check has asked the machine first. Together with the arithmetic of
`Refusals` and the validity of `Validity`, a run of a valid subscription never fails with
a refusal (`run_requests_only_legal_moves`). -/
namespace Billing

/-- A status change the subscription machine allows succeeds. -/
theorem Subscription.transition_of_valid {s : Subscription} {t : SubscriptionStatus} {ctx : TransitionContext}
    (h : (SubscriptionStatus.validate s.status t ctx).valid = true) :
    ∃ u r, s.transition t ctx = .ok (u, r) := by
  unfold Subscription.transition
  simp only [h, Bool.not_true, Bool.false_eq_true, if_false]
  split <;> exact ⟨_, _, rfl⟩

/-- A status change the payment machine allows, other than a refund, succeeds. -/
theorem PaymentAttempt.transition_of_valid {p : PaymentAttempt} {t : PaymentStatus} {ctx : TransitionContext}
    (details : Option FailureDetails) (changes : PaymentChanges)
    (h : (PaymentStatus.validate p.status t ctx).valid = true) (ht : t.isRefund = false) :
    ∃ q r, p.transition t ctx details changes = .ok (q, r) := by
  unfold PaymentAttempt.transition
  simp only [h, ht, Bool.and_false, Bool.false_eq_true, if_false, bind, Except.bind, pure, Except.pure,
    Bool.not_true]
  split <;> exact ⟨_, _, rfl⟩

namespace SubscriptionStatus

variable {source : SubscriptionStatus} {ctx : TransitionContext}

/-- The edges a billing run takes: back to active once a payment resolves a delinquency, into
the grace period after a failed payment, into retry while the policy allows one, and from a
delinquency to past due or expired. -/
theorem validate_active_of_delinquent (hd : source.isDelinquent = true) (hr : ctx.paymentResolved = true) :
    (validate source .active ctx).valid = true := by
  cases source <;> cases hd <;>
    simp [validate, StatusGraph.validate, graph, next, isTerminal, guardActive, isDelinquent, hr,
      TransitionResult.accept]

theorem validate_gracePeriod_of_failed (hf : ctx.paymentFailed = true) : (validate .active .gracePeriod ctx).valid = true := by
  simp [validate, StatusGraph.validate, graph, next, isTerminal, guardGrace, hf, TransitionResult.accept]

theorem validate_retry_of_billable (hb : Engine.isBillable source = true) {d : RetryDecision}
    (hd : ctx.retryDecision = some d) (hs : d.shouldRetry = true) (hr : ctx.isRetriable = true)
    (hlt : ctx.currentRetries < ctx.maxRetries) : (validate source .retry ctx).valid = true := by
  have hguard : (guardRetry ctx).valid = true := by
    simp [guardRetry, guardRetry.rest, hd, hs, hr, Int.not_le.mpr hlt, TransitionResult.accept]
  cases source <;> cases hb <;>
    simp [validate, StatusGraph.validate, graph, next, isTerminal, hguard, TransitionResult.unchanged]

theorem validate_expired_of_delinquent (hd : source.isDelinquent = true) : (validate source .expired ctx).valid = true := by
  cases source <;> cases hd <;>
    simp [validate, StatusGraph.validate, graph, next, isTerminal, TransitionResult.accept]

theorem validate_pastDue_of_delinquent (hd : source.isDelinquent = true) : (validate source .pastDue ctx).valid = true := by
  cases source <;> cases hd <;>
    simp [validate, StatusGraph.validate, graph, next, isTerminal, TransitionResult.accept,
      TransitionResult.unchanged]

end SubscriptionStatus

namespace Engine

variable {w : World}

theorem move_noRefusal {s : Subscription} {t : SubscriptionStatus} {ctx : TransitionContext}
    (h : (SubscriptionStatus.validate s.status t ctx).valid = true) : Step.NoRefusal (move s t ctx) w := by
  obtain ⟨u, r, hu⟩ := Subscription.transition_of_valid h
  intro err w' he
  rw [move_run, hu] at he
  cases he

theorem movePayment_noRefusal {p : PaymentAttempt} {t : PaymentStatus} {ctx : TransitionContext}
    {details : Option FailureDetails} {changes : PaymentChanges}
    (h : (PaymentStatus.validate p.status t ctx).valid = true) (ht : t.isRefund = false) :
    Step.NoRefusal (movePayment p t ctx details changes) w := by
  obtain ⟨q, r, hq⟩ := PaymentAttempt.transition_of_valid details changes h ht
  intro err w' he
  rw [movePayment_run, hq] at he
  cases he

/-- A status change made under a condition, then the rest of the step on the subscription it
left: no refusal when the change is allowed whenever it is made, and the rest refuses
nothing from either subscription. -/
theorem moveIf_noRefusal {β : Type} {c : Prop} [Decidable c] {s : Subscription} {target : SubscriptionStatus}
    {ctx : TransitionContext} {f : Subscription → Step β}
    (hmove : c → (SubscriptionStatus.validate s.status target ctx).valid = true)
    (hf : ∀ t w', ((c ∧ ∃ r, s.transition target ctx = .ok (t, r)) ∨ (¬c ∧ t = s)) → Step.NoRefusal (f t) w') :
    Step.NoRefusal (if c then move s target ctx >>= f else (pure s : Step Subscription) >>= f) w := by
  split
  · rename_i hc
    refine Step.NoRefusal.bind (move_noRefusal (hmove hc)) fun t w' ht => ?_
    exact hf t w' (.inl ⟨hc, (move_ok ht).2⟩)
  · rename_i hc
    exact Step.NoRefusal.bind (Step.NoRefusal.pure s) fun t w' ht => by
      cases ht
      exact hf s _ (.inr ⟨hc, rfl⟩)

open Step.NoRefusal in
theorem findSettled_noRefusal (s : Subscription) (ids : List String) :
    Step.NoRefusal (findSettled s ids) w := by
  induction ids generalizing w with
  | nil => exact pure _
  | cons id rest ih =>
    unfold findSettled
    refine bind (loadPayment id) fun found w' _ => ?_
    cases found with
    | none => exact ih
    | some p =>
      dsimp only
      split
      · exact pure _
      · exact ih

/-- A renewal moves a delinquent subscription back to active, with its payment resolved;
the next period fails only by leaving the calendar. -/
theorem renewed_noRefusal {s : Subscription} (p : PaymentAttempt) (now : DateTime) (hc : s.cycle.Valid)
    (hp : s.period.Valid) : Step.NoRefusal (renewed s p now) w := by
  have hnext : Outcome.NoRefusal (s.cycle.nextPeriod s.period) :=
    Outcome.NoRefusal.of_calendar fun _ h => Cycle.nextPeriod_error hc hp h
  unfold renewed
  dsimp only
  exact moveIf_noRefusal (fun hd => SubscriptionStatus.validate_active_of_delinquent hd rfl)
    fun _ _ _ => Step.NoRefusal.bind (Step.NoRefusal.lift hnext) fun _ _ _ => Step.NoRefusal.pure _

theorem methodAvailable_noRefusal (e : Engine) (s : Subscription) :
    Step.NoRefusal (e.methodAvailable s) w := by
  unfold methodAvailable
  repeat' split
  all_goals first | exact Step.NoRefusal.pure _ | exact Step.NoRefusal.throw rfl

theorem resolveAmount_noRefusal (e : Engine) {s : Subscription} (hm : s.amount.Valid) :
    Step.NoRefusal (e.resolveAmount s) w := by
  have hzero : Outcome.NoRefusal (Money.zero (.str s.amount.currency)) := by
    rw [Money.zero_of_valid hm]
    exact Outcome.NoRefusal.ok _
  unfold resolveAmount
  dsimp only
  repeat' first
    | split
    | with_reducible exact Step.NoRefusal.lift hzero
    | with_reducible exact Step.NoRefusal.lift (Money.max_noRefusal _ _)
    | with_reducible refine Step.NoRefusal.bind ?_ fun _ _ _ => ?_
    | with_reducible exact Step.NoRefusal.pure _
    | (with_reducible refine Step.NoRefusal.throw ?_); rfl

theorem resumablePayment_noRefusal (s : Subscription) : Step.NoRefusal (resumablePayment s) w := by
  unfold resumablePayment
  repeat' first
    | split
    | exact Step.NoRefusal.pure _
    | (refine Step.NoRefusal.throw ?_); rfl
    | refine Step.NoRefusal.bind (Step.NoRefusal.loadPayment _) fun _ _ _ => ?_

theorem nextSubmission_noRefusal (v : Value) : Outcome.NoRefusal (PaymentAttempt.nextSubmission v) := by
  unfold PaymentAttempt.nextSubmission
  split
  all_goals first | exact Outcome.NoRefusal.ok _ | exact Outcome.NoRefusal.error rfl

/-- Bookkeeping built from valid counters passes its checks. -/
theorem RetryState.build_noRefusal {attempt maxRetries grace maxGrace : Int} (next : Option DateTime)
    (last : Option FailureCategory)
    (h : (⟨attempt, maxRetries, next, last, grace, maxGrace⟩ : RetryState).Valid) :
    Outcome.NoRefusal (RetryState.build attempt maxRetries next last grace maxGrace) := by
  rw [RetryState.build_eq_ok.mpr ⟨rfl, h.attempt_nonneg, h.attempt_le, h.grace_nonneg, h.maxGrace_nonneg⟩]
  exact Outcome.NoRefusal.ok _

/-- Preparing the payment asks only for moves the payment machine allows: a new payment,
which passes its checks for the cycle of a valid period, from pending to processing, and
the failed payment of a scheduled retry back through retrying, which the resume check has
already asked about. -/
theorem preparePayment_noRefusal {s : Subscription} (amount : Money) (now : DateTime)
    (hc : 1 ≤ s.period.cycleNumber) : Step.NoRefusal (preparePayment s amount now) w := by
  unfold preparePayment
  refine Step.NoRefusal.bind (resumablePayment_noRefusal s) fun found w' hfound => ?_
  cases found with
  | some prev =>
    obtain ⟨-, ⟨-, -, -, -, hfailed, -⟩, hcheck⟩ := resumablePayment_some hfound
    refine Step.NoRefusal.bind (movePayment_noRefusal (by rw [hfailed]; exact hcheck _ rfl rfl) rfl)
      fun retrying w2 hretrying => ?_
    obtain ⟨-, _, hr⟩ := movePayment_ok hretrying
    have hst := (PaymentAttempt.transition_ok hr).1
    exact Step.NoRefusal.bind (Step.NoRefusal.lift (nextSubmission_noRefusal _)) fun _ _ _ =>
      movePayment_noRefusal (by rw [hst]; rfl) rfl
  | none =>
    have hopened : PaymentAttempt.opened s.paymentId s.id amount s.period.cycleNumber now =
        .ok ⟨s.paymentId, s.id, amount, .pending, s.period.cycleNumber, .int 0, .null, none, [], [], now⟩ :=
      PaymentAttempt.opened_eq_ok.mpr ⟨rfl, hc⟩
    dsimp only
    refine Step.NoRefusal.bind (Step.NoRefusal.lift ?_) fun p w2 hp => ?_
    · rw [hopened]
      exact Outcome.NoRefusal.ok _
    · obtain ⟨-, hp⟩ := lift_ok hp
      rw [hopened] at hp
      -- substitute the record rather than unify it: its identifier is a digest
      obtain rfl := Except.ok.inj hp
      exact movePayment_noRefusal rfl rfl

theorem loadSubscription_ok {id : String} {s : Subscription} {w' : World}
    (h : (World.loadSubscription id).run w = .ok s w') :
    w' = w ∧ w.subscriptions.lookup id = some s := by
  rw [World.loadSubscription_run] at h
  split at h
  · cases h
  · cases h
    exact ⟨rfl, ‹_›⟩
  · cases h

theorem isGraceElapsed_delinquent {s : Subscription} {now : DateTime} (h : s.isGraceElapsed now = .ok true) :
    s.status.isDelinquent = true := by
  unfold Subscription.isGraceElapsed at h
  split at h
  · cases h
  · rename_i hs
    cases hst : s.status <;> simp_all [SubscriptionStatus.isDelinquent]

/-- Before the gateway a run asks only for the moves it is allowed: a delinquent subscription
renewed by a settled payment returns to active, and one whose grace is over expires. -/
theorem begin_noRefusal (e : Engine) (id : String) (now : DateTime)
    (hv : ∀ s, w.subscriptions.lookup id = some s → s.Valid) : Step.NoRefusal (e.begin id now) w := by
  unfold begin
  refine Step.NoRefusal.bind (Step.NoRefusal.loadSubscription id) fun s w1 hs => ?_
  obtain ⟨rfl, hlookup⟩ := loadSubscription_ok hs
  have hsv := hv s hlookup
  refine Step.NoRefusal.bind (Step.NoRefusal.lift (skipReason_noRefusal s now)) fun reason w2 hreason => ?_
  obtain ⟨rfl, -⟩ := lift_ok hreason
  cases reason with
  | some r => exact Step.NoRefusal.pure _
  | none =>
  refine Step.NoRefusal.bind (findSettled_noRefusal s _) fun found w3 hfound => ?_
  obtain rfl := (Reads.settledPayment s).ok_world hfound
  cases found with
  | some p =>
    exact Step.NoRefusal.bind (renewed_noRefusal p now hsv.cycle hsv.period) fun u _ _ =>
      Step.NoRefusal.bind (Step.NoRefusal.saveSubscription u) fun _ _ _ => Step.NoRefusal.pure _
  | none =>
  refine Step.NoRefusal.bind (Step.NoRefusal.lift (Subscription.isGraceElapsed_noRefusal s now))
    fun elapsed w4 helapsed => ?_
  obtain ⟨rfl, hgrace⟩ := lift_ok helapsed
  split
  · -- the grace window is over: the subscription is delinquent, and may expire
    rename_i hx
    have hel : elapsed = true := by simpa using (Bool.and_eq_true _ _).mp hx |>.1
    subst hel
    exact Step.NoRefusal.bind
      (move_noRefusal (SubscriptionStatus.validate_expired_of_delinquent (isGraceElapsed_delinquent hgrace)))
      fun u _ _ => Step.NoRefusal.bind (Step.NoRefusal.saveSubscription u) fun _ _ _ => Step.NoRefusal.pure _
  · refine Step.NoRefusal.bind (methodAvailable_noRefusal e s) fun available w5 _ => ?_
    split
    · exact Step.NoRefusal.pure _
    · exact Step.NoRefusal.bind (resolveAmount_noRefusal e hsv.amount) fun amount _ _ =>
        Step.NoRefusal.bind (preparePayment_noRefusal amount now hsv.period.numbered) fun _ _ _ =>
          Step.NoRefusal.pure _

theorem gatewayResult_noRefusal (e : Engine) (s : Subscription) (reply : GatewayReply) :
    Outcome.NoRefusal (e.gatewayResult s reply) := by
  unfold gatewayResult
  repeat' split
  all_goals first | exact Outcome.NoRefusal.ok _ | exact Outcome.NoRefusal.error rfl

theorem persist_noRefusal (s : Subscription) (p : PaymentAttempt) : Step.NoRefusal (persist s p) w :=
  Step.NoRefusal.bind (Step.NoRefusal.savePayment p) fun _ _ _ => Step.NoRefusal.saveSubscription s

/-- A retry is asked for only while the policy allows one, and a billable subscription may
always move to retry then; the count of retries, one more, stays within the limit. -/
theorem scheduleRetry_noRefusal {s : Subscription} {d : RetryDecision} (now : DateTime)
    (hv : s.retry.Valid) (hb : isBillable s.status = true) (hs : d.shouldRetry = true)
    (hlt : s.retry.attempt < d.maxRetries) : Step.NoRefusal (scheduleRetry s d now) w :=
  Step.NoRefusal.bind (move_noRefusal (SubscriptionStatus.validate_retry_of_billable hb rfl hs rfl hlt))
    fun _ _ _ => Step.NoRefusal.bind (Step.NoRefusal.lift (RetryState.build_noRefusal _ _
      ⟨Int.le_trans hv.attempt_nonneg (Int.le_add_one (Int.le_refl _)), hlt, hv.grace_nonneg,
        hv.maxGrace_nonneg⟩)) fun _ _ _ => Step.NoRefusal.pure _

/-- Delinquency asks only for the edges out of a failed collection: active to the grace
period, and from there (or from retry or past due) to expired or past due. -/
theorem enterDelinquency_noRefusal (e : Engine) {s : Subscription} (d : RetryDecision) (now : DateTime)
    (hv : s.retry.Valid) (hb : isBillable s.status = true) : Step.NoRefusal (e.enterDelinquency s d now) w := by
  unfold enterDelinquency
  dsimp only
  refine moveIf_noRefusal (fun hact => hact ▸ SubscriptionStatus.validate_gracePeriod_of_failed rfl)
    fun t w' ht => ?_
  -- whichever way it went, the grace decision starts from a delinquent status
  have hdel : t.status.isDelinquent = true := by
    rcases ht with ⟨-, r, htr⟩ | ⟨hact, hts⟩
    · rw [Subscription.transition_ok htr]
      rfl
    · rw [hts]
      cases hst : s.status <;> simp_all [isBillable, SubscriptionStatus.isDelinquent]
  -- the bookkeeping keeps the count of retries, under a limit no lower than it
  refine Step.NoRefusal.bind (Step.NoRefusal.lift (RetryState.build_noRefusal _ _
    ⟨hv.attempt_nonneg, Int.le_max_right _ _, hv.grace_nonneg, hv.maxGrace_nonneg⟩)) fun _ _ _ => ?_
  split
  · exact Step.NoRefusal.bind (move_noRefusal (SubscriptionStatus.validate_expired_of_delinquent hdel))
      fun _ _ _ => Step.NoRefusal.pure _
  · exact Step.NoRefusal.bind (Step.NoRefusal.lift (DateTime.addDayCount_noRefusal _ _)) fun _ _ _ =>
      Step.NoRefusal.bind (move_noRefusal (SubscriptionStatus.validate_pastDue_of_delinquent hdel))
        fun _ _ _ => Step.NoRefusal.pure _

/-- A declined charge asks for a failed payment, then for a retry or a delinquency, as the
policy decides: a retry only while one is left. -/
theorem handleFailure_noRefusal (e : Engine) {s : Subscription} {p : PaymentAttempt} (r : GatewayResult)
    (now : DateTime) (hs : s.Valid) (hb : isBillable s.status = true) (hp : p.status = .processing) :
    Step.NoRefusal (e.handleFailure s p r now) w := by
  unfold handleFailure
  dsimp only
  refine Step.NoRefusal.bind (movePayment_noRefusal (by rw [hp]; rfl) rfl) fun f w1 _ => ?_
  refine Step.NoRefusal.bind (Step.NoRefusal.lift
    (evaluateRetry_noRefusal _ _ _ hs.retry.attempt_nonneg)) fun d w2 hd => ?_
  obtain ⟨-, hd⟩ := lift_ok hd
  -- whichever the policy decides, the payment and then the subscription are saved
  have hsave : ∀ (u : Subscription) (o : RunOutcome) w', Step.NoRefusal (do
      persist { u with lastPayment := some f.id } f
      pure (⟨s.id, o, { u with lastPayment := some f.id }, some f,
        some (declineDetails r now).category, some d, some d.reason.name⟩ : RunResult)) w' :=
    fun _ _ _ => Step.NoRefusal.bind (persist_noRefusal _ _) fun _ _ _ => Step.NoRefusal.pure _
  split
  · rename_i hretry
    exact Step.NoRefusal.bind (scheduleRetry_noRefusal now hs.retry hb hretry ((evaluateRetry_ok hd).2 hretry))
      fun u _ _ => hsave u _ _
  · exact Step.NoRefusal.bind (enterDelinquency_noRefusal e d now hs.retry hb) fun u _ _ => hsave u _ _

theorem finish_noRefusal (e : Engine) {s : Subscription} {p : PaymentAttempt} (reply : GatewayReply)
    (now : DateTime) (hs : s.Valid) (hb : isBillable s.status = true) (hp : p.status = .processing) :
    Step.NoRefusal (e.finish s p reply now) w := by
  unfold finish
  refine Step.NoRefusal.bind (Step.NoRefusal.lift (gatewayResult_noRefusal e s reply)) fun r _ _ => ?_
  split
  · exact Step.NoRefusal.bind (movePayment_noRefusal (by rw [hp]; rfl) rfl) fun q _ _ =>
      Step.NoRefusal.bind (renewed_noRefusal q now hs.cycle hs.period) fun u _ _ =>
        Step.NoRefusal.bind (persist_noRefusal u q) fun _ _ _ => Step.NoRefusal.pure _
  · exact handleFailure_noRefusal e r now hs hb hp

theorem run_noRefusal (e : Engine) (id : String) (now : DateTime)
    (hv : ∀ s, w.subscriptions.lookup id = some s → s.Valid) : Step.NoRefusal (e.run id now) w := by
  unfold run
  refine Step.NoRefusal.bind (begin_noRefusal e id now hv) fun stage w' hstage => ?_
  cases stage with
  | finished r => exact Step.NoRefusal.pure _
  | submitting s p =>
    -- the payment to submit is in processing, for the stored subscription, which is billable
    have hb := begin_paths e id now w
    rw [hstage] at hb
    obtain ⟨hs, hbill⟩ := Begun.billable hb
    have hproc := hb.processing
    dsimp only
    split
    · exact Step.NoRefusal.throw rfl
    · -- the reply is a timeout, or the gateway's answer to one call
      have hfin : ∀ reply w'', Step.NoRefusal (e.finish s p reply now) w'' :=
        fun reply _ => finish_noRefusal e reply now (hv s hs) hbill hproc
      split
      · exact Step.NoRefusal.bind (Step.NoRefusal.pure _) fun _ _ _ => hfin _ _
      · exact Step.NoRefusal.bind (Step.NoRefusal.submit _ _ _) fun _ _ _ => hfin _ _

/-- A billing run of a valid subscription asks only for the transitions the state machines
allow and builds only records their checks accept: whatever payments the repository holds,
whatever the time and the gateway's answers, it never fails with a subscription state
error, a payment state error or a validation error; it answers with a valid subscription,
whose retries stay within their limit; and every subscription it saves is valid. -/
theorem run_requests_only_legal_moves (e : Engine) (id : String) (now : DateTime) {w : World}
    (hv : ∀ s, w.subscriptions.lookup id = some s → s.Valid) :
    (∀ err w', (e.run id now).run w = .error err w' →
      err.className ∉ ["SubscriptionStateError", "PaymentStateError", "ValidationError"]) ∧
    (∀ r w', (e.run id now).run w = .ok r w' → r.subscription.Valid) ∧
    KeepsValid w (worldOf ((e.run id now).run w)) := by
  have hpaths := run_paths e id now w
  refine ⟨fun err w' h hmem => ?_, ?_⟩
  · have hno := run_noRefusal e id now hv err w' h
    rw [← Error.isRefusal_iff, hno] at hmem
    cases hmem
  · generalize (e.run id now).run w = res at hpaths ⊢
    cases hpaths with
    | failed err => exact ⟨fun _ _ h => (by cases h), .of_subscriptions rfl⟩
    | stopped r w' hb =>
      obtain ⟨hr, hk⟩ := hb.keepsValid hv
      exact ⟨fun _ _ h => by cases h; exact hr, hk⟩
    | cancelled s p res hb ht hf =>
      exact hf.keepsValid (hv s (Begun.billable hb).1)
    | called s p res hb ht hf hres =>
      obtain ⟨hr, hk⟩ := hf.keepsValid (hv s (Begun.billable hb).1)
      exact ⟨hr, fun k u hu => by simpa using hk k u hu⟩

/-- A monthly subscription anchored on the 31st, in the third cycle, whose second retry
fell due at eight on the first of February. -/
def retryingSubscription : Subscription :=
  { (default : Subscription) with
    id := "sub_1"
    customer := "cust_1"
    paymentMethod := some "pm_card"
    amount := ⟨2000, "USD"⟩
    cycle := ⟨.monthly, none, some 31⟩
    status := .retry
    period := ⟨⟨2024, 1, 31⟩, ⟨2024, 2, 28⟩, 3⟩
    retry := ⟨1, 3, some ⟨⟨2024, 2, 1⟩, 8, 0, 0, 0, some 0⟩, some .delayedRetry, 0, 1⟩
    lastPayment := some "pay_1" }

/-- The charge of its third cycle, declined once for insufficient funds. -/
def declinedCharge : PaymentAttempt :=
  ⟨"pay_1", "sub_1", ⟨2000, "USD"⟩, .failed, 3, .int 1, .null,
    some ⟨.delayedRetry, true, some "INSUFFICIENT_FUNDS", some "Insufficient funds", some "FAILED",
      ⟨⟨2024, 1, 31⟩, 9, 0, 0, 0, some 0⟩⟩,
    [], [], ⟨⟨2024, 1, 31⟩, 9, 0, 0, 0, some 0⟩⟩

/-- The repository holding that subscription and its declined charge, whose gateway times
out. -/
def retryingWorld : World :=
  ⟨[("sub_1", retryingSubscription)], [("pay_1", declinedCharge)], ⟨none, none, none, none⟩,
    [.timeout], 0, [], []⟩

/-- The retrying subscription is valid, so its run at nine on the first of February asks
only for legal moves. The run does charge: it resumes the declined charge through retrying
to processing, the gateway times out, the charge fails again, and the subscription stays in
retry with its second retry of five counted. -/
theorem retrying_requests_only_legal_moves :
    (∀ s, retryingWorld.subscriptions.lookup "sub_1" = some s → s.Valid) ∧
    (∀ err w', ((⟨.int 3, .int 30, .int 1, none, none, none⟩ : Engine).run "sub_1"
        ⟨⟨2024, 2, 1⟩, 9, 0, 0, 0, some 0⟩).run retryingWorld = .error err w' →
      err.className ∉ ["SubscriptionStateError", "PaymentStateError", "ValidationError"]) ∧
    (∀ r w', ((⟨.int 3, .int 30, .int 1, none, none, none⟩ : Engine).run "sub_1"
        ⟨⟨2024, 2, 1⟩, 9, 0, 0, 0, some 0⟩).run retryingWorld = .ok r w' → r.subscription.Valid) ∧
    KeepsValid retryingWorld (worldOf (((⟨.int 3, .int 30, .int 1, none, none, none⟩ : Engine).run
      "sub_1" ⟨⟨2024, 2, 1⟩, 9, 0, 0, 0, some 0⟩).run retryingWorld)) ∧
    (worldOf (((⟨.int 3, .int 30, .int 1, none, none, none⟩ : Engine).run "sub_1"
      ⟨⟨2024, 2, 1⟩, 9, 0, 0, 0, some 0⟩).run retryingWorld)).calls.length = 1 ∧
    ((worldOf (((⟨.int 3, .int 30, .int 1, none, none, none⟩ : Engine).run "sub_1"
      ⟨⟨2024, 2, 1⟩, 9, 0, 0, 0, some 0⟩).run retryingWorld)).payments.lookup "pay_1").map
        (fun p => (p.status, p.history.map fun c => (c.source, c.target))) =
      some (.failed, [(.failed, .retrying), (.retrying, .processing), (.processing, .failed)]) ∧
    ((worldOf (((⟨.int 3, .int 30, .int 1, none, none, none⟩ : Engine).run "sub_1"
      ⟨⟨2024, 2, 1⟩, 9, 0, 0, 0, some 0⟩).run retryingWorld)).subscriptions.lookup "sub_1").map
        (fun s => (s.status, s.retry.attempt, s.retry.maxRetries)) = some (.retry, 2, 5) := by
  -- the currency check reads the case tables, which the kernel evaluates
  have hamount : retryingSubscription.amount.Valid := by
    have hl : "USD".length = 3 := by decide
    have hu : Text.upper "USD" = "USD" := by decide +kernel
    have hk : Currency.isKnown "USD" = true := by decide +kernel
    simp [retryingSubscription, Money.Valid, Money.currencyOf, hl, hu, hk]
  have hv : ∀ s, retryingWorld.subscriptions.lookup "sub_1" = some s → s.Valid := by
    intro s hs
    cases hs
    refine ⟨hamount, ⟨?_, ?_, rfl, ?_⟩, ⟨by decide, by decide, by decide, by decide⟩,
      ⟨by decide, by decide, by decide, by decide⟩⟩
    · intro n hn
      cases hn
    · intro a ha
      cases ha
      decide
    · decide
  obtain ⟨hrefusal, hresult, hkeeps⟩ := run_requests_only_legal_moves _ "sub_1" _ hv
  -- what the run did, evaluated by the kernel
  exact ⟨hv, hrefusal, hresult, hkeeps, by decide +kernel, by decide +kernel, by decide +kernel⟩

end Engine

end Billing
