import Billing.Proofs.Retry.Schedule

/-! # The retry gates agree

One retry budget is written down three times. The retry policy allows another retry while
its strategy is not `none` and fewer retries were made than its limit (`canRetry`). The
payment machine lets a failed payment go back to retrying while the policy of the failure's
category has a limit that is not zero and not yet reached (`guardRetrying`). The
subscription machine lets a subscription enter retry when the policy's decision schedules
one, the failure is retriable, and fewer retries were made than the decision's limit
(`guardRetry`).

For every failure category and every number of retries made, the three give one answer
(`retry_gates_agree`): the decision `evaluateRetry` makes schedules a retry exactly when
the policy allows one; the payment guard passes exactly then; and so does the subscription
guard, from every status with an edge into retry, on the context a scheduled retry builds.
A decision that schedules a retry carries its time and one that does not carries none; a
refusal says the failure is not retriable for the non-retriable category and that retries
are exhausted for the others. The decision is always made, unless the retry it would
schedule falls beyond the end of the calendar. -/
namespace Billing

namespace RetryPolicy

/-- The policies allow a retry exactly while their limit is not zero and not yet reached: the
strategy `none` goes with the limit zero. -/
theorem canRetry_eq (c : FailureCategory) (n : Int) :
    (ofCategory c).canRetry n =
      decide ((ofCategory c).maxRetries ≠ 0 ∧ n < (ofCategory c).maxRetries) := by
  cases c <;> simp [canRetry, ofCategory, maxRetries, RetryConfig.ofCategory,
    RetryConfig.retriable, RetryConfig.delayed, RetryConfig.never] <;> rfl

/-- The policy has no next retry time exactly when it allows no retry: a retry it allows
gets its time or fails. -/
theorem nextAt_none_iff {p : RetryPolicy} {n : Int} {now : DateTime} :
    p.nextAt n now = .ok none ↔ p.canRetry n = false := by
  unfold nextAt
  cases p.canRetry n with
  | false => simp [pure, Except.pure]
  | true =>
    simp only [Bool.not_true, Bool.false_eq_true, if_false, Bool.true_eq_false, iff_false]
    intro h
    obtain ⟨m, -, h⟩ := Except.bind_eq_ok.mp h
    obtain ⟨t, -, h⟩ := Except.bind_eq_ok.mp h
    cases h

end RetryPolicy

namespace PaymentStatus

/-- A failed payment may go back to retrying exactly when the policy of its failure's
category allows a retry after the attempts the context counts. -/
theorem validate_retrying_valid {c : FailureCategory} {ctx : TransitionContext}
    (hc : ctx.failureCategory = some c) :
    (validate .failed .retrying ctx).valid =
      (RetryPolicy.ofCategory c).canRetry ctx.attemptNumber := by
  have hguard : (guardRetrying ctx).valid =
      decide ((RetryPolicy.ofCategory c).maxRetries ≠ 0 ∧
        ctx.attemptNumber < (RetryPolicy.ofCategory c).maxRetries) := by
    unfold guardRetrying
    simp only [hc]
    split
    · simp_all [TransitionResult.reject]
    · split <;> simp_all [TransitionResult.reject, TransitionResult.accept]
  rw [RetryPolicy.canRetry_eq, ← hguard]
  simp [validate, StatusGraph.validate, graph, next, isTerminal, isRefund]

end PaymentStatus

namespace SubscriptionStatus

/-- Given a decision and a retriable failure, entering retry from a status with an edge into
it is allowed exactly when the decision schedules a retry and retries are left. -/
theorem validate_retry_valid {source : SubscriptionStatus} {ctx : TransitionContext}
    {d : RetryDecision} (hedge : .retry ∈ source.next) (hr : ctx.isRetriable = true)
    (hd : ctx.retryDecision = some d) :
    (validate source .retry ctx).valid =
      (d.shouldRetry && decide (ctx.currentRetries < ctx.maxRetries)) := by
  have hguard : (guardRetry ctx).valid =
      (d.shouldRetry && decide (ctx.currentRetries < ctx.maxRetries)) := by
    unfold guardRetry guardRetry.rest
    cases hs : d.shouldRetry
    · simp [hd, hs, TransitionResult.reject]
    · by_cases hlt : ctx.currentRetries < ctx.maxRetries
      · simp [hd, hs, hr, hlt, Int.not_le.mpr hlt, TransitionResult.accept]
      · simp [hd, hs, hr, hlt, Int.not_lt.mp hlt, TransitionResult.reject]
  cases source <;> simp [next] at hedge <;>
    simp [validate, StatusGraph.validate, graph, next, isTerminal, hguard]

end SubscriptionStatus

/-- The policy's decision on a failure without jitter, read off: it schedules a retry
exactly when the policy gives a next retry time, and carries that time, the category, the
retries made, the policy's limit and strategy, and its reason. -/
theorem evaluateRetry_unjittered {c : FailureCategory} {n : Int} {now : DateTime}
    {d : RetryDecision} (h : evaluateRetry c n now none = .ok d) :
    ∃ next, (RetryPolicy.ofCategory c).nextAt n now = .ok next ∧
      d = ⟨next.isSome, c, n, (RetryPolicy.ofCategory c).maxRetries, next,
        (RetryPolicy.ofCategory c).config.strategy,
        if next.isSome then .scheduled
        else if (RetryPolicy.ofCategory c).config.strategy = .none then .notRetriable
        else .exhausted⟩ := by
  unfold evaluateRetry at h
  obtain ⟨next, hnext, hdecide⟩ := Except.bind_eq_ok.mp h
  refine ⟨next, hnext, ?_⟩
  cases next with
  | none => exact (RetryDecision.make_spec hdecide).1
  | some t =>
    simp only [pure, Except.pure, bind, Except.bind] at hdecide
    exact (RetryDecision.make_spec hdecide).1

/-- A decision without jitter fails to be made only when the policy allows a retry and the
time of that retry, the policy's delay after now, lies beyond the calendar. -/
theorem evaluateRetry_error {c : FailureCategory} {n : Int} {now : DateTime} {err : Error}
    (hn : 0 ≤ n) (h : evaluateRetry c n now none = .error err) :
    (RetryPolicy.ofCategory c).canRetry n = true ∧
      ∃ m, (RetryPolicy.ofCategory c).delay (n + 1) = .ok m ∧ now.addMinutes m = .error err := by
  have hmax : 0 ≤ (RetryPolicy.ofCategory c).maxRetries := by
    cases c <;> decide
  unfold evaluateRetry at h
  dsimp only at h
  cases hnext : (RetryPolicy.ofCategory c).nextAt n now with
  | ok next =>
    -- once the time is known the decision is made, the counts being at least zero
    rw [hnext] at h
    cases next <;>
      simp [bind, Except.bind, pure, Except.pure, RetryDecision.make, Int.not_lt.mpr hn,
        Int.not_lt.mpr hmax] at h
  | error e =>
    rw [hnext] at h
    cases h
    cases hc : (RetryPolicy.ofCategory c).canRetry n with
    | false =>
      rw [RetryPolicy.nextAt_none_iff.mpr hc] at hnext
      cases hnext
    | true =>
      obtain ⟨m, hm, -⟩ := RetryPolicy.delay_pos hn hc
      refine ⟨rfl, m, hm, ?_⟩
      simp only [RetryPolicy.nextAt, hc, hm, Bool.not_true, Bool.false_eq_true, if_false, bind,
        Except.bind] at hnext
      cases ht : now.addMinutes m with
      | ok t => simp [ht, pure, Except.pure] at hnext
      | error e' => simpa [ht] using hnext

/-- The three gates agree on a decision `d` about a failure of category `c` after `n`
retries: the decision schedules a retry exactly when the policy allows one, the payment
guard and the subscription guard (from every status with an edge into retry, on the context
a scheduled retry builds) pass exactly then, a scheduled retry has a time and a refused one
none, and a refusal gives the reason its category calls for. -/
structure RetryGatesAgree (c : FailureCategory) (n : Int) (d : RetryDecision) : Prop where
  policy : d.shouldRetry = (RetryPolicy.ofCategory c).canRetry n
  payment : ∀ ctx : TransitionContext, ctx.failureCategory = some c → ctx.attemptNumber = n →
    (PaymentStatus.validate .failed .retrying ctx).valid = d.shouldRetry
  subscription : ∀ (source : SubscriptionStatus) (ctx : TransitionContext),
    .retry ∈ source.next → ctx.isRetriable = true → ctx.currentRetries = n →
    ctx.maxRetries = d.maxRetries → ctx.retryDecision = some d →
    (SubscriptionStatus.validate source .retry ctx).valid = d.shouldRetry
  scheduled : d.nextAt.isSome = d.shouldRetry
  reason : d.shouldRetry = false →
    d.reason = if c = .nonRetriable then .notRetriable else .exhausted

/-- Every decision the policy makes without jitter is one on which the gates agree. -/
theorem evaluateRetry_gates {c : FailureCategory} {n : Int} {now : DateTime} {d : RetryDecision}
    (h : evaluateRetry c n now none = .ok d) : RetryGatesAgree c n d := by
  obtain ⟨next, hnext, rfl⟩ := evaluateRetry_unjittered h
  -- the policy gives a time exactly when it allows a retry
  have hsome : next.isSome = (RetryPolicy.ofCategory c).canRetry n := by
    cases next with
    | none => exact (RetryPolicy.nextAt_none_iff.mp hnext).symm
    | some t =>
      cases hc : (RetryPolicy.ofCategory c).canRetry n with
      | false =>
        rw [RetryPolicy.nextAt_none_iff.mpr hc] at hnext
        cases hnext
      | true => rfl
  refine ⟨hsome, ?_, ?_, rfl, ?_⟩
  · intro ctx hc ha
    rw [PaymentStatus.validate_retrying_valid hc, ha, hsome]
  · intro source ctx hedge hr hcur hmax hd
    rw [SubscriptionStatus.validate_retry_valid hedge hr hd, hcur, hmax]
    cases next with
    | none => rfl
    | some t =>
      -- a scheduled retry leaves the count under the policy's limit
      have hlt := RetryPolicy.lt_of_nextAt hnext
      simp [hlt]
  · intro hno
    simp only [Option.isSome] at hno
    cases next with
    | some t => cases hno
    | none => cases c <;> rfl

/-- The retry policy, the payment machine and the subscription machine agree on whether a
failure of any category after any number `n ≥ 0` of retries gets another one, and the
decision says so consistently; the decision is made whenever the retry it would schedule
falls within the calendar. -/
theorem retry_gates_agree (c : FailureCategory) (n : Int) (now : DateTime) (hn : 0 ≤ n) :
    (∃ d, evaluateRetry c n now none = .ok d ∧ RetryGatesAgree c n d) ∨
      ((RetryPolicy.ofCategory c).canRetry n = true ∧ ∃ m err,
        (RetryPolicy.ofCategory c).delay (n + 1) = .ok m ∧ now.addMinutes m = .error err) := by
  cases h : evaluateRetry c n now none with
  | ok d => exact .inl ⟨d, rfl, evaluateRetry_gates h⟩
  | error err =>
    obtain ⟨hc, m, hm, hadd⟩ := evaluateRetry_error hn h
    exact .inr ⟨hc, m, err, hm, hadd⟩

/-- A retriable failure after two retries, on the first of March 2024: the gates agree. -/
theorem retry_gates_agree_after_two :
    0 ≤ (2 : Int) ∧
      ((∃ d, evaluateRetry .retriable 2 ⟨⟨2024, 3, 1⟩, 9, 0, 0, 0, some 0⟩ none = .ok d ∧
          RetryGatesAgree .retriable 2 d) ∨
        ((RetryPolicy.ofCategory .retriable).canRetry 2 = true ∧ ∃ m err,
          (RetryPolicy.ofCategory .retriable).delay (2 + 1) = .ok m ∧
            DateTime.addMinutes ⟨⟨2024, 3, 1⟩, 9, 0, 0, 0, some 0⟩ m = .error err)) :=
  ⟨by decide, retry_gates_agree .retriable 2 _ (by decide)⟩

end Billing
