import Billing.Proofs.Engine.Paths

/-! # What the steps of a run return

A status change touches only the status and the history, and always lands on its target:
a guard never answers with a no-op, so only a request for the current status is one. The
search for a settled payment returns the first settling payment among the keys it looks
at, or none when no key holds one. A prepared payment is either the new payment of the
current attempt or the failed payment of the scheduled retry, moved to processing; a
renewal moves the subscription to the next period and points it at the payment that paid
for it; retries and delinquency keep the subscription's period. -/
namespace Billing

namespace SubscriptionStatus

variable (source : SubscriptionStatus) (ctx : TransitionContext)

theorem guardActive_noop : (guardActive source ctx).noop = false := by
  unfold guardActive
  split
  · rfl
  · split <;> rfl

theorem guardGrace_noop : (guardGrace source ctx).noop = false := by
  unfold guardGrace
  split
  · rfl
  · split <;> rfl

theorem guardRetry_noop : (guardRetry ctx).noop = false := by
  unfold guardRetry guardRetry.rest
  split
  · split
    · rfl
    · split
      · rfl
      · split <;> rfl
  · split
    · rfl
    · split <;> rfl

theorem guardCanceled_noop : (guardCanceled source ctx).noop = false := by
  unfold guardCanceled
  split
  · rfl
  · split <;> rfl

theorem guardRefunded_noop : (guardRefunded source ctx).noop = false := by
  unfold guardRefunded
  split
  · rfl
  · split <;> rfl

/-- Only a request for the current status is a no-op. -/
theorem validate_noop {target : SubscriptionStatus} (h : (validate source target ctx).noop = true) :
    source = target := by
  unfold validate StatusGraph.validate at h
  split at h
  · cases h
  · split at h
    · assumption
    · split at h
      · cases h
      · -- the target's guard decides, and a guard accepts or refuses, never a no-op
        cases target <;>
          simp [graph, TransitionResult.accept, guardActive_noop, guardGrace_noop, guardRetry_noop,
            guardCanceled_noop, guardRefunded_noop] at h

end SubscriptionStatus

namespace PaymentStatus

variable (source : PaymentStatus) (ctx : TransitionContext)

theorem guardRetrying_noop : (guardRetrying ctx).noop = false := by
  unfold guardRetrying
  split
  · rfl
  · dsimp only
    split
    · rfl
    · split <;> rfl

theorem guardRefund_noop : (guardRefund ctx).noop = false := by
  unfold guardRefund
  split <;> rfl

/-- Only a request for the current status is a no-op. -/
theorem validate_noop {target : PaymentStatus} (h : (validate source target ctx).noop = true) :
    source = target := by
  unfold validate at h
  split at h
  · simp [guardRefund_noop] at h
  · unfold StatusGraph.validate at h
    split at h
    · cases h
    · split at h
      · assumption
      · split at h
        · cases h
        · cases target <;>
            simp [graph, TransitionResult.accept, guardRetrying_noop, guardRefund_noop] at h

/-- Whether a failed payment may be retried depends only on its failure category and on the
retries already made. -/
theorem validate_retrying_congr (ctx' : TransitionContext)
    (hc : ctx.failureCategory = ctx'.failureCategory) (ha : ctx.attemptNumber = ctx'.attemptNumber) :
    validate .failed .retrying ctx = validate .failed .retrying ctx' := by
  simp [validate, StatusGraph.validate, graph, guardRetrying, hc, ha]

end PaymentStatus

/-- A status change of a subscription lands on its target and changes nothing but the
status and the history. -/
theorem Subscription.transition_ok {s u : Subscription} {target : SubscriptionStatus}
    {ctx : TransitionContext} {r : TransitionResult} (h : s.transition target ctx = .ok (u, r)) :
    u = { s with status := target, history := u.history } := by
  unfold Subscription.transition at h
  dsimp only at h
  split at h
  · cases h
  · split at h
    · rename_i hnoop
      cases h
      have hsame := SubscriptionStatus.validate_noop _ _ hnoop
      subst hsame
      rfl
    · cases h
      rfl

/-- A delinquent subscription whose payment is resolved may always return to active. -/
theorem Subscription.transition_resolved (s : Subscription) (ctx : TransitionContext)
    (hd : s.status.isDelinquent = true) (hr : ctx.paymentResolved = true) :
    ∃ t r, s.transition .active ctx = .ok (t, r) := by
  have hvalid : (SubscriptionStatus.validate s.status .active ctx).valid = true := by
    cases h : s.status <;> rw [h] at hd <;> cases hd <;>
      simp [SubscriptionStatus.validate, StatusGraph.validate, SubscriptionStatus.graph,
        SubscriptionStatus.next, SubscriptionStatus.isTerminal, SubscriptionStatus.guardActive,
        SubscriptionStatus.isDelinquent, hr, TransitionResult.accept]
  unfold Subscription.transition
  simp only [hvalid, Bool.not_true, Bool.false_eq_true, if_false]
  split <;> exact ⟨_, _, rfl⟩

theorem PaymentAttempt.checkRefund_noop {p : PaymentAttempt} {target : PaymentStatus}
    {ctx : TransitionContext} {r : TransitionResult} (h : p.checkRefund target ctx = .ok r) :
    r.noop = false := by
  unfold PaymentAttempt.checkRefund at h
  simp only [bind, Except.bind, pure, Except.pure] at h
  split at h
  · cases h
    rfl
  · split at h
    · cases h
    · rename_i verdict _
      split at h
      · cases h
        rfl
      · split at h <;> cases h <;> rfl

/-- How a checked status change of a payment succeeds: it asks for the current status and
changes nothing, or validation allows a real change (a refund target also passing the refund
check) and the payment lands on its target with the updates made, failure details kept (or
replaced) only for failed and retrying payments, and one entry appended to its history. -/
theorem PaymentAttempt.transition_spec {p q : PaymentAttempt} {target : PaymentStatus}
    {ctx : TransitionContext} {details : Option FailureDetails} {changes : PaymentChanges}
    {r : TransitionResult} (h : p.transition target ctx details changes = .ok (q, r)) :
    (q = p ∧ target = p.status) ∨
      ((PaymentStatus.validate p.status target ctx).valid = true ∧
        (PaymentStatus.validate p.status target ctx).noop = false ∧
        (target.isRefund = true → ∃ r', p.checkRefund target ctx = .ok r' ∧ r'.valid = true) ∧
        ∃ change : StatusChange PaymentStatus, change.source = p.status ∧ change.target = target ∧
          q = { p with
          submissions := changes.submissions.getD p.submissions
          providerRef := changes.providerRef.getD p.providerRef
          refunds := changes.refunds.getD p.refunds
          status := target
          failure := if PaymentAttempt.holdsFailure target then (details <|> p.failure) else none
          history := p.history ++ [change] }) := by
  unfold PaymentAttempt.transition at h
  simp only [bind, Except.bind, pure, Except.pure] at h
  split at h
  · -- a refund target passed validation and is decided by the refund check, which never
    -- answers with a no-op
    rename_i hcond
    simp only [Bool.and_eq_true, Bool.not_eq_eq_eq_not, Bool.not_true] at hcond
    split at h
    · cases h
    · rename_i _ _ hverdict
      split at h
      · cases h
      · rename_i hvalid
        split at h
        · rename_i hn
          simp [PaymentAttempt.checkRefund_noop hverdict] at hn
        · cases h
          exact .inr ⟨hcond.1.1, hcond.1.2, fun _ => ⟨_, hverdict, by simpa using hvalid⟩, _, rfl, rfl, rfl⟩
  · rename_i hcond
    split at h
    · cases h
    · rename_i hvalid
      split at h
      · rename_i hnoop
        cases h
        exact .inl ⟨rfl, (PaymentStatus.validate_noop _ _ hnoop).symm⟩
      · rename_i hnoop
        cases h
        refine .inr ⟨by simpa using hvalid, by simpa using hnoop, fun hr => ?_, _, rfl, rfl, rfl⟩
        -- a real change to a refund target would have gone through the refund check
        exfalso
        simp only [Bool.not_eq_eq_eq_not, Bool.not_true] at hvalid hnoop
        simp [hvalid, hnoop, hr] at hcond

/-- A status change of a payment lands on its target and keeps what identifies the charge:
its identifier, its subscription, its amount, its cycle and when it was made. -/
theorem PaymentAttempt.transition_ok {p q : PaymentAttempt} {target : PaymentStatus}
    {ctx : TransitionContext} {details : Option FailureDetails} {changes : PaymentChanges}
    {r : TransitionResult} (h : p.transition target ctx details changes = .ok (q, r)) :
    q.status = target ∧ q.id = p.id ∧ q.subscriptionId = p.subscriptionId ∧ q.amount = p.amount ∧
      q.cycleNumber = p.cycleNumber ∧ q.createdAt = p.createdAt := by
  rcases PaymentAttempt.transition_spec h with ⟨rfl, rfl⟩ | ⟨-, -, -, change, -, -, rfl⟩
  · exact ⟨rfl, rfl, rfl, rfl, rfl, rfl⟩
  · exact ⟨rfl, rfl, rfl, rfl, rfl, rfl⟩

/-- A payment in processing may always be marked succeeded. -/
theorem PaymentAttempt.transition_succeeded (p : PaymentAttempt) (ctx : TransitionContext)
    (changes : PaymentChanges) (hp : p.status = .processing) :
    ∃ q r, p.transition .succeeded ctx none changes = .ok (q, r) := by
  unfold PaymentAttempt.transition
  simp [hp, PaymentStatus.validate, StatusGraph.validate, PaymentStatus.graph, PaymentStatus.next,
    PaymentStatus.isTerminal, PaymentStatus.isRefund, TransitionResult.accept]
  exact ⟨_, _, rfl⟩

theorem Period.make_cycleNumber {start stop : Date} {n : Int} {p : Period}
    (h : Period.make start stop n = .ok p) : p.cycleNumber = n := by
  unfold Period.make at h
  split at h
  · cases h
  · split at h
    · cases h
    · cases h
      rfl

theorem Cycle.period_cycleNumber {c : Cycle} {start : Date} {n : Int} {p : Period}
    (h : c.period start n = .ok p) : p.cycleNumber = n := by
  simp only [Cycle.period, bind, Except.bind] at h
  split at h
  · cases h
  · split at h
    · cases h
    · exact Period.make_cycleNumber h

/-- The period after `p` is numbered one higher. -/
theorem Cycle.nextPeriod_cycleNumber {c : Cycle} {p q : Period} (h : c.nextPeriod p = .ok q) :
    q.cycleNumber = p.cycleNumber + 1 := by
  simp only [Cycle.nextPeriod, bind, Except.bind] at h
  split at h
  · cases h
  · exact Cycle.period_cycleNumber h

namespace Engine

variable {w w' : World}

theorem move_run (s : Subscription) (target : SubscriptionStatus) (ctx : TransitionContext) :
    (move s target ctx).run w = match s.transition target ctx with
      | .ok (u, _) => .ok u w
      | .error err => .error err w := by
  simp only [move, EStateM.run_bind, World.lift_run]
  cases s.transition target ctx <;> rfl

theorem move_ok {s u : Subscription} {target : SubscriptionStatus} {ctx : TransitionContext}
    (h : (move s target ctx).run w = .ok u w') : w' = w ∧ ∃ r, s.transition target ctx = .ok (u, r) := by
  rw [move_run] at h
  split at h
  · rename_i u' r ht
    cases h
    exact ⟨rfl, r, ht⟩
  · cases h

theorem movePayment_run (p : PaymentAttempt) (target : PaymentStatus) (ctx : TransitionContext)
    (details : Option FailureDetails) (changes : PaymentChanges) :
    (movePayment p target ctx details changes).run w = match p.transition target ctx details changes with
      | .ok (q, _) => .ok q w
      | .error err => .error err w := by
  simp only [movePayment, EStateM.run_bind, World.lift_run]
  cases p.transition target ctx details changes <;> rfl

theorem movePayment_ok {p q : PaymentAttempt} {target : PaymentStatus} {ctx : TransitionContext}
    {details : Option FailureDetails} {changes : PaymentChanges}
    (h : (movePayment p target ctx details changes).run w = .ok q w') :
    w' = w ∧ ∃ r, p.transition target ctx details changes = .ok (q, r) := by
  rw [movePayment_run] at h
  split at h
  · rename_i q' r ht
    cases h
    exact ⟨rfl, r, ht⟩
  · cases h

@[simp] theorem settles_eq_true {s : Subscription} {p : PaymentAttempt} :
    settles s p = true ↔
      p.status = .succeeded ∧ p.subscriptionId = s.id ∧ p.cycleNumber = s.period.cycleNumber := by
  simp [settles, and_assoc]

/-- Whether a payment settles a subscription depends only on its identifier and cycle. -/
theorem settles_congr {s u : Subscription} (hid : u.id = s.id)
    (hcyc : u.period.cycleNumber = s.period.cycleNumber) : settles u = settles s := by
  funext p
  simp [settles, hid, hcyc]

/-- The keys a run looks at for a settled payment: the last payment, if it names one, and
the payment of the current attempt. -/
theorem mem_settlementKeys {s : Subscription} {k : String} :
    k ∈ settlementKeys s ↔ (s.lastPayment = some k ∧ k.isEmpty = false) ∨ k = s.paymentId := by
  cases h : s.lastPayment <;> simp [settlementKeys, List.mem_eraseDups, h]

theorem findSettled_some {s : Subscription} {p : PaymentAttempt} (ids : List String)
    (h : (findSettled s ids).run w = .ok (some p) w') :
    ∃ k ∈ ids, w.payments.lookup k = some p ∧ settles s p = true := by
  induction ids with
  | nil => cases h
  | cons k rest ih =>
    simp only [findSettled, EStateM.run_bind, World.loadPayment_run] at h
    cases hf : w.faults.paymentLoad with
    | some m => simp [hf] at h
    | none =>
      simp only [hf] at h
      cases hl : w.payments.lookup k with
      | none =>
        obtain ⟨k', hk', found⟩ := ih (by simpa [hl] using h)
        exact ⟨k', List.mem_cons_of_mem _ hk', found⟩
      | some q =>
        simp only [hl] at h
        split at h
        · rename_i hq
          cases h
          exact ⟨k, List.mem_cons_self, hl, hq⟩
        · obtain ⟨k', hk', found⟩ := ih h
          exact ⟨k', List.mem_cons_of_mem _ hk', found⟩

theorem findSettled_none {s : Subscription} (ids : List String)
    (h : (findSettled s ids).run w = .ok none w') :
    ∀ k ∈ ids, ∀ q, w.payments.lookup k = some q → settles s q = false := by
  induction ids with
  | nil => simp
  | cons k rest ih =>
    simp only [findSettled, EStateM.run_bind, World.loadPayment_run] at h
    cases hf : w.faults.paymentLoad with
    | some m => simp [hf] at h
    | none =>
      simp only [hf] at h
      intro k' hk' q hq
      cases hl : w.payments.lookup k with
      | none =>
        have hrest := ih (by simpa [hl] using h)
        rcases List.mem_cons.mp hk' with rfl | hk'
        · simp [hl] at hq
        · exact hrest k' hk' q hq
      | some q' =>
        simp only [hl] at h
        split at h
        · cases h
        · rename_i hnot
          rcases List.mem_cons.mp hk' with rfl | hk'
          · rw [hl] at hq
            cases hq
            exact Bool.eq_false_iff.mpr hnot
          · exact ih h k' hk' q hq

/-- With payments loading, the search returns the first payment among the keys that
settles the cycle. -/
theorem findSettled_run (s : Subscription) (h : w.faults.paymentLoad = none) (ids : List String) :
    (findSettled s ids).run w = .ok ((ids.filterMap fun k => w.payments.lookup k).find? (settles s)) w := by
  induction ids with
  | nil => rfl
  | cons k ks ih =>
    simp only [findSettled, EStateM.run_bind, World.loadPayment_run, h]
    cases hk : w.payments.lookup k with
    | none => simpa [hk] using ih
    | some p => by_cases hp : settles s p = true <;> simp [hk, hp, ih]

/-- A resumable payment is the failed payment of this cycle that the subscription's last
payment names, only a subscription in retry has one, and its failure may be retried after
the retries the subscription made. -/
theorem resumablePayment_some {s : Subscription} {prev : PaymentAttempt}
    (h : (resumablePayment s).run w = .ok (some prev) w') :
    s.status = .retry ∧ (∃ k, s.lastPayment = some k ∧ k.isEmpty = false ∧
      w.payments.lookup k = some prev ∧ prev.status = .failed ∧
      prev.cycleNumber = s.period.cycleNumber) ∧
    ∀ ctx : TransitionContext, ctx.failureCategory = prev.failure.map (·.category) →
      ctx.attemptNumber = s.retry.attempt - 1 →
      (PaymentStatus.validate .failed .retrying ctx).valid = true := by
  unfold resumablePayment at h
  split at h
  · cases h
  · rename_i hretry
    split at h
    · cases h
    · rename_i k hk
      split at h
      · cases h
      · rename_i hne
        simp only [EStateM.run_bind, World.loadPayment_run] at h
        cases hf : w.faults.paymentLoad with
        | some m => simp [hf] at h
        | none =>
          simp only [hf] at h
          cases hl : w.payments.lookup k with
          | none => simp [hl] at h
          | some p =>
            simp only [hl] at h
            split at h
            · cases h
            · rename_i d hd
              split at h
              · cases h
              · rename_i hcur
                simp only [not_or, Decidable.not_not] at hcur
                simp only [EStateM.run_pure] at h
                split at h
                · rename_i hvalid
                  cases h
                  refine ⟨by simpa using hretry, ⟨k, hk, by simpa using hne, hl, hcur.1, hcur.2⟩, ?_⟩
                  intro ctx hc ha
                  rw [PaymentStatus.validate_retrying_congr ctx
                    { TransitionContext.basic none "system" (DateTime.ofDate s.period.startDate) with
                      failureCategory := some d.category
                      attemptNumber := s.retry.attempt - 1 } (by rw [hc, hd]; rfl) ha]
                  exact hvalid
                · cases h

theorem lift_ok {α : Type} {o : Outcome α} {a : α} (h : (World.lift o).run w = .ok a w') :
    w' = w ∧ o = .ok a := by
  rw [World.lift_run] at h
  split at h
  · cases h
    exact ⟨rfl, rfl⟩
  · cases h

/-- A step that goes on from a computed outcome returns only through the outcome's value, in
the world it started from. -/
theorem lift_bind_ok {α β : Type} {o : Outcome α} {f : α → Step β} {b : β}
    (h : (World.lift o >>= f).run w = .ok b w') : ∃ a, o = .ok a ∧ (f a).run w = .ok b w' := by
  obtain ⟨a, ha, hrest⟩ := (Reads.lift o).bind_ok h
  exact ⟨a, (lift_ok ha).2, hrest⟩

/-- A new payment passes its constructor's checks only as the pending record of a cycle
numbered at least 1, so a step that opens one goes on with that record. -/
theorem opened_bind_ok {β : Type} {id subscriptionId : String} {amount : Money} {cycle : Int}
    {createdAt : DateTime} {f : PaymentAttempt → Step β} {b : β}
    (h : (World.lift (PaymentAttempt.opened id subscriptionId amount cycle createdAt) >>= f).run w =
      .ok b w') :
    1 ≤ cycle ∧
      (f ⟨id, subscriptionId, amount, .pending, cycle, .int 0, .null, none, [], [], createdAt⟩).run w =
        .ok b w' := by
  obtain ⟨p, hopened, hrest⟩ := lift_bind_ok h
  obtain ⟨rfl, hc⟩ := PaymentAttempt.opened_eq_ok.mp hopened
  exact ⟨hc, hrest⟩

/-- New bookkeeping passes its checks only with valid counters, kept as given, so a step
that builds it goes on with that record. -/
theorem build_bind_ok {β : Type} {attempt maxRetries grace maxGrace : Int} {next : Option DateTime}
    {last : Option FailureCategory} {f : RetryState → Step β} {b : β}
    (h : (World.lift (RetryState.build attempt maxRetries next last grace maxGrace) >>= f).run w =
      .ok b w') :
    (0 ≤ attempt ∧ attempt ≤ maxRetries ∧ 0 ≤ grace ∧ 0 ≤ maxGrace) ∧
      (f ⟨attempt, maxRetries, next, last, grace, maxGrace⟩).run w = .ok b w' := by
  obtain ⟨r, hbuild, hrest⟩ := lift_bind_ok h
  obtain ⟨rfl, hvalid⟩ := RetryState.build_eq_ok.mp hbuild
  exact ⟨hvalid, hrest⟩

/-- The payment a run submits is in processing, and it is either the new payment of the
current attempt or the failed payment of the scheduled retry. -/
theorem preparePayment_ok {s : Subscription} {amount : Money} {now : DateTime} {p : PaymentAttempt}
    (h : (preparePayment s amount now).run w = .ok p w') :
    p.status = .processing ∧
      ((p.id = s.paymentId ∧ p.subscriptionId = s.id ∧ p.cycleNumber = s.period.cycleNumber) ∨
        ∃ k prev, s.status = .retry ∧ s.lastPayment = some k ∧ k.isEmpty = false ∧
          w.payments.lookup k = some prev ∧ prev.status = .failed ∧
          prev.cycleNumber = s.period.cycleNumber ∧ p.id = prev.id ∧
          p.subscriptionId = prev.subscriptionId ∧ p.cycleNumber = prev.cycleNumber) := by
  unfold preparePayment at h
  simp only [EStateM.run_bind] at h
  split at h
  · rename_i found w1 hfound
    have hw1 := (Reads.resumablePayment s).ok_world hfound
    subst w1
    cases found with
    | some prev =>
      obtain ⟨hretry, ⟨k, hk, hne, hl, hfailed, hcycle⟩, -⟩ := resumablePayment_some hfound
      simp only [EStateM.run_bind] at h
      split at h
      · rename_i retrying w2 hretrying
        obtain ⟨rfl, _, hr⟩ := movePayment_ok hretrying
        obtain ⟨-, hid, hsub, -, hcyc, -⟩ := PaymentAttempt.transition_ok hr
        split at h
        · rename_i n w3 hn
          have hw3 := (Reads.lift _).ok_world hn
          subst w3
          obtain ⟨-, _, hp⟩ := movePayment_ok h
          obtain ⟨hst, hid', hsub', -, hcyc', -⟩ := PaymentAttempt.transition_ok hp
          refine ⟨hst, .inr ⟨k, prev, hretry, hk, hne, hl, hfailed, hcycle, ?_, ?_, ?_⟩⟩
          · rw [hid', hid]
          · rw [hsub', hsub]
          · rw [hcyc', hcyc]
        · cases h
      · cases h
    | none =>
      -- a new payment, built by its constructor's checks, then moved to processing
      dsimp only at h
      obtain ⟨-, _, hp⟩ := movePayment_ok (opened_bind_ok h).2
      obtain ⟨hst, hid, hsub, -, hcyc, -⟩ := PaymentAttempt.transition_ok hp
      exact ⟨hst, .inl ⟨hid, hsub, hcyc⟩⟩
  · cases h

/-- The payment a run submits is in processing. -/
theorem Begun.processing {e : Engine} {id : String} {now : DateTime} {s : Subscription}
    {p : PaymentAttempt} (hb : Begun e id now w (.ok (.submitting s p) w')) : p.status = .processing := by
  cases hb with
  | submitting _ _ amount elapsed hload hs hskip hp hgrace hx hm ha hprep =>
    exact (preparePayment_ok hprep).1

/-- How a renewal and a delinquency begin: a status change made under a condition, then
the rest of the step on the subscription it left. -/
theorem moveIf_ok {β : Type} {c : Prop} [Decidable c] {s : Subscription} {target : SubscriptionStatus}
    {ctx : TransitionContext} {f : Subscription → Step β} {b : β}
    (h : (if c then move s target ctx >>= f else (pure s : Step Subscription) >>= f).run w = .ok b w') :
    ∃ t, ((c ∧ ∃ r, s.transition target ctx = .ok (t, r)) ∨ (¬c ∧ t = s)) ∧ (f t).run w = .ok b w' := by
  split at h
  · rename_i hc
    obtain ⟨t, ht, hrest⟩ := (Reads.move _ _ _).bind_ok h
    obtain ⟨-, r, htr⟩ := move_ok ht
    exact ⟨t, .inl ⟨hc, r, htr⟩, hrest⟩
  · rename_i hc
    obtain ⟨t, ht, hrest⟩ := (Reads.pure s).bind_ok h
    cases ht
    exact ⟨s, .inr ⟨hc, rfl⟩, hrest⟩

/-- A renewal moves the subscription to its next period, clears its retry and grace
bookkeeping and points it at the payment that renewed it; a delinquent subscription is
first moved back to active. -/
theorem renewed_ok {s u : Subscription} {q : PaymentAttempt} {now : DateTime}
    (h : (renewed s q now).run w = .ok u w') :
    s.cycle.nextPeriod s.period = .ok u.period ∧
      ∃ t, ((s.status.isDelinquent = true ∧ ∃ ctx r, s.transition .active ctx = .ok (t, r)) ∨
          (s.status.isDelinquent = false ∧ t = s)) ∧
        u = { t with retry := s.retry.reset, graceEnd := none, period := u.period, lastPayment := some q.id } := by
  unfold renewed at h
  obtain ⟨t, hcases, hrest⟩ := moveIf_ok h
  obtain ⟨next, hnext, hpure⟩ := lift_bind_ok hrest
  cases hpure
  refine ⟨hnext, t, ?_, rfl⟩
  rcases hcases with ⟨hdel, r, htr⟩ | ⟨hdel, rfl⟩
  · exact .inl ⟨hdel, _, r, htr⟩
  · exact .inr ⟨by simpa using hdel, rfl⟩

/-- A scheduled retry moves the subscription to retry and counts one more attempt, under
the policy's limit and time. -/
theorem scheduleRetry_ok {s u : Subscription} {d : RetryDecision} {now : DateTime}
    (h : (scheduleRetry s d now).run w = .ok u w') :
    ∃ ctx t r, s.transition .retry ctx = .ok (t, r) ∧
      u = { t with retry := ⟨s.retry.attempt + 1, d.maxRetries, d.nextAt, some d.category,
        s.retry.graceExtensions, s.retry.maxGraceExtensions⟩ } := by
  unfold scheduleRetry at h
  obtain ⟨t, ht, hrest⟩ := (Reads.move _ _ _).bind_ok h
  obtain ⟨-, r, htr⟩ := move_ok ht
  -- the new bookkeeping passed its checks, so it is the one the counters give
  obtain ⟨-, hpure⟩ := build_bind_ok hrest
  cases hpure
  exact ⟨_, t, r, htr, rfl⟩

/-- Delinquency: an active subscription enters its grace period first; then it expires if
its grace is used up, and otherwise is past due with one more grace window. Either way the
retry count stays, under a limit no lower than it. -/
theorem enterDelinquency_ok {e : Engine} {s u : Subscription} {d : RetryDecision} {now : DateTime}
    (h : (e.enterDelinquency s d now).run w = .ok u w') :
    ∃ t, ((s.status = .active ∧ ∃ ctx r, s.transition .gracePeriod ctx = .ok (t, r)) ∨
        (s.status ≠ .active ∧ t = s)) ∧
      ((s.retry.graceExhausted = true ∧ ∃ ctx t' r, t.transition .expired ctx = .ok (t', r) ∧
          u = { t' with retry := ⟨s.retry.attempt, max d.maxRetries s.retry.attempt, none,
            some d.category, s.retry.graceExtensions, s.retry.maxGraceExtensions⟩ }) ∨
        (s.retry.graceExhausted = false ∧ ∃ g ctx t' r, now.addDayCount e.graceDays = .ok g ∧
          t.transition .pastDue ctx = .ok (t', r) ∧
          u = { t' with graceEnd := some g, retry := ⟨s.retry.attempt, max d.maxRetries s.retry.attempt,
            none, some d.category, s.retry.graceExtensions + 1, s.retry.maxGraceExtensions⟩ })) := by
  unfold enterDelinquency at h
  obtain ⟨t, hcases, hrest⟩ := moveIf_ok h
  refine ⟨t, ?_, ?_⟩
  · rcases hcases with ⟨hact, r, htr⟩ | ⟨hact, rfl⟩
    · exact .inl ⟨hact, _, r, htr⟩
    · exact .inr ⟨hact, rfl⟩
  · -- the bookkeeping is built and checked; then the grace: used up, or one more window
    dsimp only at hrest
    obtain ⟨-, hrest⟩ := build_bind_ok hrest
    split at hrest
    · rename_i hx
      obtain ⟨t', ht', hpure⟩ := (Reads.move _ _ _).bind_ok hrest
      obtain ⟨-, r, htr⟩ := move_ok ht'
      cases hpure
      exact .inl ⟨hx, _, t', r, htr, rfl⟩
    · rename_i hx
      obtain ⟨g, hg, hrest⟩ := lift_bind_ok hrest
      obtain ⟨t', ht', hpure⟩ := (Reads.move _ _ _).bind_ok hrest
      obtain ⟨-, r, htr⟩ := move_ok ht'
      cases hpure
      exact .inr ⟨by simpa using hx, g, _, t', r, hg, htr, rfl⟩

/-- A status change keeps the subscription's identifier and period. -/
theorem transition_id_period {s u : Subscription} {target : SubscriptionStatus}
    {ctx : TransitionContext} {r : TransitionResult} (h : s.transition target ctx = .ok (u, r)) :
    u.id = s.id ∧ u.period = s.period := by
  rw [Subscription.transition_ok h]
  exact ⟨rfl, rfl⟩

/-- Delinquency keeps the subscription's identifier, cycle and period, and its grace
allowance. -/
theorem enterDelinquency_keeps {e : Engine} {s u : Subscription} {d : RetryDecision} {now : DateTime}
    (h : (e.enterDelinquency s d now).run w = .ok u w') :
    u.id = s.id ∧ u.cycle = s.cycle ∧ u.period = s.period ∧
      u.retry.maxGraceExtensions = s.retry.maxGraceExtensions := by
  obtain ⟨t, ht, hrest⟩ := enterDelinquency_ok h
  -- an active subscription enters its grace period first; a status change keeps the rest
  have hts : t.id = s.id ∧ t.cycle = s.cycle ∧ t.period = s.period := by
    rcases ht with ⟨-, ctx, r, htr⟩ | ⟨-, rfl⟩
    · rw [Subscription.transition_ok htr]
      exact ⟨rfl, rfl, rfl⟩
    · exact ⟨rfl, rfl, rfl⟩
  rcases hrest with ⟨-, ctx, t', r, htr, rfl⟩ | ⟨-, g, ctx, t', r, -, htr, rfl⟩
  all_goals
    rw [Subscription.transition_ok htr]
    exact ⟨hts.1, hts.2.1, hts.2.2, rfl⟩

/-- A renewal succeeds whenever the next period is within the calendar. -/
theorem renewed_run (s : Subscription) (p : PaymentAttempt) (now : DateTime) {n : Period}
    (hn : s.cycle.nextPeriod s.period = .ok n) :
    ∃ u, (renewed s p now).run w = .ok u w ∧ u.id = s.id ∧ u.period = n ∧
      u.lastPayment = some p.id := by
  unfold renewed
  by_cases hd : s.status.isDelinquent = true
  · obtain ⟨t, r, ht⟩ := s.transition_resolved { because "payment_resolved" now with
      paymentResolved := true, metadata := [("payment_id", .str p.id)] } hd rfl
    refine ⟨{ t with retry := s.retry.reset, graceEnd := none, period := n, lastPayment := some p.id }, ?_,
      (transition_id_period ht).1, rfl, rfl⟩
    simp only [hd, if_true, EStateM.run_bind, move_run, ht, World.lift_run, hn]
    rfl
  · refine ⟨{ s with retry := s.retry.reset, graceEnd := none, period := n, lastPayment := some p.id }, ?_,
      rfl, rfl, rfl⟩
    simp only [hd, Bool.false_eq_true, if_false, EStateM.run_bind, EStateM.run_pure, World.lift_run, hn]

/-- What a run writes after the gateway: the payment it submitted, now succeeded or failed,
and the subscription under the same identifier, pointed at that payment: renewed to its
next period after a success, still in its period after a decline. -/
theorem Decided.written {e : Engine} {s u : Subscription} {p q : PaymentAttempt}
    {reply : GatewayReply} {now : DateTime} {r : RunResult} (hd : Decided e s p reply now w u q r) :
    q.id = p.id ∧ q.subscriptionId = p.subscriptionId ∧ q.cycleNumber = p.cycleNumber ∧
      u.id = s.id ∧ u.lastPayment = some q.id ∧
      ((q.status = .succeeded ∧ s.cycle.nextPeriod s.period = .ok u.period) ∨
        (q.status = .failed ∧ u.period = s.period)) := by
  cases hd with
  | paid gr q u hr hok hq hu =>
    obtain ⟨-, _, hq⟩ := movePayment_ok hq
    obtain ⟨hst, hid, hsub, -, hcyc, -⟩ := PaymentAttempt.transition_ok hq
    obtain ⟨hnext, t, ht, hueq⟩ := renewed_ok hu
    have htid : t.id = s.id := by
      rcases ht with ⟨-, _, _, htr⟩ | ⟨-, rfl⟩
      · exact (transition_id_period htr).1
      · rfl
    have huid : u.id = t.id := by rw [hueq]
    have hulast : u.lastPayment = some q.id := by rw [hueq]
    exact ⟨hid, hsub, hcyc, huid.trans htid, hulast, .inl ⟨hst, hnext⟩⟩
  | retried gr f d u hr hok hf hd hretry hu =>
    obtain ⟨-, _, hf⟩ := movePayment_ok hf
    obtain ⟨hst, hid, hsub, -, hcyc, -⟩ := PaymentAttempt.transition_ok hf
    obtain ⟨_, t, _, htr, rfl⟩ := scheduleRetry_ok hu
    obtain ⟨htid, htper⟩ := transition_id_period htr
    exact ⟨hid, hsub, hcyc, htid, rfl, .inr ⟨hst, htper⟩⟩
  | delinquent gr f d u hr hok hf hd hretry hu =>
    obtain ⟨-, _, hf⟩ := movePayment_ok hf
    obtain ⟨hst, hid, hsub, -, hcyc, -⟩ := PaymentAttempt.transition_ok hf
    obtain ⟨huid, -, huper, -⟩ := enterDelinquency_keeps hu
    exact ⟨hid, hsub, hcyc, huid, rfl, .inr ⟨hst, huper⟩⟩

section Runs

variable {e : Engine} {id : String} {now : DateTime} {s : Subscription}

/-- A run that finds its subscription not to be billed now writes nothing and calls no one. -/
theorem run_skipped (hload : w.faults.subscriptionLoad = none) (hs : w.subscriptions.lookup id = some s)
    {r : SkipReason} (hskip : skipReason s now = .ok (some r)) :
    (e.run id now).run w = .ok ⟨id, .skipped, s, none, none, none, some r.name⟩ w := by
  simp only [Engine.run, begin, EStateM.run_bind, World.loadSubscription_run, hload, hs, World.lift_run, hskip]
  rfl

/-- A run whose skip check fails writes nothing and calls no one. -/
theorem run_skipFailed (hload : w.faults.subscriptionLoad = none) (hs : w.subscriptions.lookup id = some s)
    {err : Error} (hskip : skipReason s now = .error err) : (e.run id now).run w = .error err w := by
  simp only [Engine.run, begin, EStateM.run_bind, World.loadSubscription_run, hload, hs, World.lift_run, hskip]

/-- A run that finds a settled payment renews the subscription from it and saves it, without
calling the gateway. -/
theorem run_settled (hload : w.faults.subscriptionLoad = none) (hs : w.subscriptions.lookup id = some s)
    (hskip : skipReason s now = .ok none) {p : PaymentAttempt} {u : Subscription}
    (hp : (settledPayment s).run w = .ok (some p) w) (hu : (renewed s p now).run w = .ok u w) :
    (e.run id now).run w = match w.faults.subscriptionSave with
      | none => .ok ⟨id, .succeeded, u, some p, none, none, none⟩ (w.storeSubscription u)
      | some m => .error (.billing (.persistence ("Failed to save subscription: " ++ m) (some u.id))) w := by
  simp only [Engine.run, begin, EStateM.run_bind, World.loadSubscription_run, hload, hs, World.lift_run, hskip,
    hp, hu, World.saveSubscription_run]
  cases w.faults.subscriptionSave <;> rfl

end Runs

end Engine

end Billing
