import Billing.Proofs.Engine.History
import Billing.Proofs.Engine.Outcomes

/-! # When a run charges

A run calls the gateway at most once, and only for a stored subscription that passes every
check before the charge (`Chargeable`): billable, due (its period over when active, its
retry time reached when retrying), not at the end of a grace window with no extension left,
with a payment method the method check accepts, and with no payment stored under its last
payment or its current payment's identifier that already settled the cycle.

A run that returns without a call has skipped or rejected the subscription and written
nothing, or renewed it from a settled payment or expired it and written only the
subscription; or else its gateway timeout had already passed, and the cancelled call is
recorded as a timed-out charge, the payment and the subscription both written
(`charges_only_when_due`). A canceled subscription is never charged again, whatever
runs, commands and faults follow. -/
namespace Billing

namespace Engine

/-- What a run checks of the stored subscription `s` before it charges it at `now`. -/
structure Chargeable (e : Engine) (w : World) (s : Subscription) (now : DateTime) : Prop where
  billable : isBillable s.status = true
  due : s.status = .active → s.period.isExpired now.date = true
  retryDue : s.status = .retry → ∃ t, s.retry.nextAt = some t ∧ t.le now = .ok true
  graceLeft : ∃ elapsed, s.isGraceElapsed now = .ok elapsed ∧ (elapsed && s.retry.graceExhausted) = false
  method : ∃ ref, s.paymentMethod = some ref ∧ ref.isEmpty = false ∧
    ∀ check, e.methodCheck = some check → ∃ refs, check = .available refs ∧ ref ∈ refs
  unsettled : ∀ k q, ((s.lastPayment = some k ∧ k.isEmpty = false) ∨ k = s.paymentId) →
    w.payments.lookup k = some q → settles s q = false

variable {e : Engine} {id : String} {now : DateTime} {w w' : World} {s : Subscription}

/-- A subscription the skip check lets through is billable, due when active, and due for
its retry when retrying. -/
theorem skipReason_none_spec (h : skipReason s now = .ok none) :
    isBillable s.status = true ∧ (s.status = .active → s.period.isExpired now.date = true) ∧
      (s.status = .retry → ∃ t, s.retry.nextAt = some t ∧ t.le now = .ok true) := by
  have hb := skipReason_billable h
  unfold skipReason at h
  simp only [hb, Bool.not_true, Bool.false_eq_true, if_false] at h
  refine ⟨hb, fun hact => ?_, fun hret => ?_⟩
  · cases hexp : s.period.isExpired now.date with
    | true => rfl
    | false => simp [hact, Subscription.isDue, hexp, pure, Except.pure] at h
  · simp only [hret, if_true, Subscription.isRetryDue, ne_eq, not_true_eq_false, if_false] at h
    cases hnext : s.retry.nextAt with
    | none => simp [hnext, pure, Except.pure, bind, Except.bind] at h
    | some t =>
      refine ⟨t, rfl, ?_⟩
      cases hle : t.le now with
      | error err => simp [hnext, hle, bind, Except.bind] at h
      | ok due =>
        cases due
        · simp [hnext, hle, bind, Except.bind, pure, Except.pure] at h
        · rfl

/-- A method check that lets the run through found a payment method, not empty, that the
check, if there is one, knows to be usable. -/
theorem methodAvailable_true (h : (e.methodAvailable s).run w = .ok true w') :
    ∃ ref, s.paymentMethod = some ref ∧ ref.isEmpty = false ∧
      ∀ check, e.methodCheck = some check → ∃ refs, check = .available refs ∧ ref ∈ refs := by
  unfold methodAvailable at h
  split at h
  · cases h
  · rename_i ref hm
    split at h
    · cases h
    · rename_i hne
      refine ⟨ref, hm, by simpa using hne, fun check hc => ?_⟩
      split at h
      · rename_i hnone
        rw [hnone] at hc
        cases hc
      · rename_i refs hrefs
        rw [hrefs] at hc
        cases hc
        have hin : ref ∈ refs ∧ w = w' := by simpa using h
        exact ⟨refs, rfl, hin.1⟩
      · cases h

/-- The subscription a run takes to the gateway is the stored one, and passed every check. -/
theorem Begun.chargeable {p : PaymentAttempt} (hb : Begun e id now w (.ok (.submitting s p) w')) :
    w.subscriptions.lookup id = some s ∧ Chargeable e w s now := by
  cases hb with
  | submitting _ _ amount elapsed hload hs hskip hp hgrace hx hm ha hprep =>
    obtain ⟨hbill, hdue, hretry⟩ := skipReason_none_spec hskip
    have hunsettled := findSettled_none _ hp
    refine ⟨hs, hbill, hdue, hretry, ⟨elapsed, hgrace, hx⟩, methodAvailable_true hm, ?_⟩
    intro k q hk hq
    exact hunsettled k (mem_settlementKeys.mpr hk) q hq

/-- What a run stores after the gateway is the subscription it answers with. -/
theorem Decided.subscription {p q : PaymentAttempt} {reply : GatewayReply} {u : Subscription}
    {r : RunResult} (hd : Decided e s p reply now w u q r) : r.subscription = u := by
  cases hd <;> rfl

/-- A run calls the gateway at most once, and only for a chargeable stored subscription
whose gateway timeout has not passed yet. -/
theorem run_calls_chargeable :
    (worldOf ((e.run id now).run w)).calls = w.calls ∨
      ∃ s c, w.subscriptions.lookup id = some s ∧ Chargeable e w s now ∧
        e.timeoutPassed = .ok false ∧ (worldOf ((e.run id now).run w)).calls = w.calls ++ [c] := by
  have hpaths := run_paths e id now w
  generalize (e.run id now).run w = res at hpaths ⊢
  cases hpaths with
  | failed err => exact .inl rfl
  | stopped r w' hb => exact .inl hb.calls
  | cancelled s p res hb ht hf => exact .inl hf.calls
  | called s p res hb ht hf hres =>
    obtain ⟨hs, hc⟩ := hb.chargeable
    exact .inr ⟨s, _, hs, hc, ht, hf.calls⟩

/-- A run that returns without calling the gateway skipped or rejected the subscription and
wrote nothing, or renewed it from a settled payment or expired it and wrote only the
subscription; or its timeout had already passed, and it wrote the payment of a cancelled
charge and the subscription. -/
theorem run_returns_without_call {r : RunResult} (h : (e.run id now).run w = .ok r w')
    (hcalls : w'.calls = w.calls) :
    ((r.outcome = .skipped ∨ r.outcome = .rejected) ∧ w' = w) ∨
      ((r.outcome = .succeeded ∨ r.outcome = .expired) ∧ w' = w.storeSubscription r.subscription) ∨
      (e.timeoutPassed = .ok true ∧ ∃ s q, w.subscriptions.lookup id = some s ∧
        Chargeable e w s now ∧ w' = (w.storePayment q).storeSubscription r.subscription) := by
  have hpaths := run_paths e id now w
  rw [h] at hpaths
  cases hpaths with
  | stopped r w' hb =>
    cases hb with
    | skipped => exact .inl ⟨.inl rfl, rfl⟩
    | settled => exact .inr (.inl ⟨.inl rfl, rfl⟩)
    | expired => exact .inr (.inl ⟨.inr rfl, rfl⟩)
    | rejected => exact .inl ⟨.inr rfl, rfl⟩
  | cancelled s p res hb ht hf =>
    obtain ⟨hs, hc⟩ := hb.chargeable
    cases hf with
    | saved u q r hd hpay hsub => exact .inr (.inr ⟨ht, s, q, hs, hc, by rw [hd.subscription]⟩)
  | called s p res hb ht hf hres =>
    -- the call is recorded, so the calls cannot be those of before
    have hlen := congrArg List.length (hf.calls.symm.trans hcalls)
    simp at hlen

/-- A run of a subscription that is not stored, or not billable, is skipped or fails: either
way nothing is written and no one is called. -/
theorem run_not_billable (hb : ∀ s, w.subscriptions.lookup id = some s → isBillable s.status = false) :
    worldOf ((e.run id now).run w) = w := by
  have hpaths := run_paths e id now w
  generalize (e.run id now).run w = res at hpaths ⊢
  -- every branch past the skip check needs a billable subscription
  have hnone : ∀ s', w.subscriptions.lookup id = some s' → skipReason s' now ≠ .ok none := by
    intro s' hs' h
    have hf := hb s' hs'
    rw [skipReason_billable h] at hf
    cases hf
  cases hpaths with
  | failed err => rfl
  | stopped r w' hb =>
    cases hb with
    | skipped => rfl
    | settled s' u p hload hs' hskip' => exact absurd hskip' (hnone s' hs')
    | expired s' u hload hs' hskip' => exact absurd hskip' (hnone s' hs')
    | rejected => rfl
  | cancelled s' p res hb => cases hb with
    | submitting _ _ amount elapsed hload hs' hskip' => exact absurd hskip' (hnone _ hs')
  | called s' p res hb => cases hb with
    | submitting _ _ amount elapsed hload hs' hskip' => exact absurd hskip' (hnone _ hs')

/-- The stored subscription `id`, if there is one, is canceled or refunded. -/
def CanceledAt (id : String) (w : World) : Prop :=
  ∀ s, w.subscriptions.lookup id = some s → s.status = .canceled ∨ s.status = .refunded

/-- The subscription graph leads from canceled only to refunded, and out of refunded
nowhere. -/
theorem walk_from_canceled {a b : SubscriptionStatus} {cs : List (StatusChange SubscriptionStatus)}
    (hw : StatusChange.Walk SubscriptionStatus.graph.Edge a cs b)
    (ha : a = .canceled ∨ a = .refunded) : b = .canceled ∨ b = .refunded := by
  induction hw with
  | nil a => exact ha
  | cons hsource hstep rest ih =>
    obtain ⟨hterm, -, hmem⟩ := hstep
    rcases ha with rfl | rfl
    · simp only [SubscriptionStatus.graph, SubscriptionStatus.next, List.mem_singleton] at hmem
      exact ih (.inr hmem)
    · cases hterm

theorem CanceledAt.step (hw : CanceledAt id w) (h : Operated e id w w') : CanceledAt id w' := by
  cases h with
  | run now w =>
    -- a canceled or refunded subscription is not billable, so its run leaves the world
    unfold CanceledAt
    rw [run_not_billable fun s hs => by rcases hw s hs with h | h <;> rw [h] <;> rfl]
    exact hw
  | command w hs hc =>
    intro u hu
    simp only [lookup_upsert, if_true, Option.some.injEq] at hu
    subst hu
    obtain ⟨⟨new, -, hwalk⟩, -⟩ := hc.changesOnce.extends
    exact walk_from_canceled hwalk (hw _ hs)
  | faults f w => exact hw

theorem CanceledAt.reach (hw : CanceledAt id w) (h : Relation.ReflTransGen (Operated e id) w w') :
    CanceledAt id w' := by
  induction h with
  | refl => exact hw
  | tail _ hstep ih => exact ih.step hstep

/-- A cancellation leaves the subscription canceled. -/
theorem cancel_status {u : Subscription} {t : DateTime} {reason actor : Value}
    (h : s.cancel t reason actor = .ok u) : u.status = .canceled := by
  obtain ⟨ctx, t', r, htr, hu⟩ := Subscription.cancel_spec h
  have ht' := Subscription.transition_ok htr
  rcases hu with rfl | rfl
  · rw [ht']
  · rw [ht']

/-- Charges happen only when due. A run calls the gateway at most once, and only when the
stored subscription passes every check before the charge and the gateway timeout has not
passed. A run that returns without a call skipped or rejected the subscription and wrote
nothing, renewed it from a settled payment or expired it and wrote only the subscription,
or, its timeout having passed, recorded the cancelled charge of a chargeable subscription in
the payment and the subscription. Once a caller cancels the subscription, no later run,
after any commands and faults, calls the gateway. -/
theorem charges_only_when_due (e : Engine) (id : String) (now : DateTime) (w : World) :
    ((worldOf ((e.run id now).run w)).calls = w.calls ∨
      ∃ s c, w.subscriptions.lookup id = some s ∧ Chargeable e w s now ∧
        e.timeoutPassed = .ok false ∧ (worldOf ((e.run id now).run w)).calls = w.calls ++ [c]) ∧
    (∀ r w', (e.run id now).run w = .ok r w' → w'.calls = w.calls →
      ((r.outcome = .skipped ∨ r.outcome = .rejected) ∧ w' = w) ∨
      ((r.outcome = .succeeded ∨ r.outcome = .expired) ∧ w' = w.storeSubscription r.subscription) ∨
      (e.timeoutPassed = .ok true ∧ ∃ s q, w.subscriptions.lookup id = some s ∧
        Chargeable e w s now ∧ w' = (w.storePayment q).storeSubscription r.subscription)) ∧
    (∀ (s u : Subscription) t reason actor w', w.subscriptions.lookup id = some s →
      s.cancel t reason actor = .ok u →
      Relation.ReflTransGen (Operated e id) { w with subscriptions := upsert id u w.subscriptions } w' →
      ∀ later, (worldOf ((e.run id later).run w')).calls = w'.calls) := by
  refine ⟨run_calls_chargeable, fun r w' h hcalls => run_returns_without_call h hcalls, ?_⟩
  intro s u t reason actor w' hs hcancel hreach later
  -- the canceled subscription stays canceled or refunded, so it is never billable again
  have hstart : CanceledAt id { w with subscriptions := upsert id u w.subscriptions } := by
    intro v hv
    simp only [lookup_upsert, if_true, Option.some.injEq] at hv
    subst hv
    exact .inl (cancel_status hcancel)
  have hcanceled := hstart.reach hreach
  rw [run_not_billable fun v hv => by rcases hcanceled v hv with h | h <;> rw [h] <;> rfl]

/-- The subscription due on the first of March is charged then: so it passed every check. -/
theorem due_subscription_chargeable :
    Chargeable retryEngine declinedWorld declinedSubscription marchFirst := by
  have hcalls :
      (worldOf ((retryEngine.run "sub_1" marchFirst).run declinedWorld)).calls.length = 1 := by
    decide +kernel
  rcases (charges_only_when_due retryEngine "sub_1" marchFirst declinedWorld).1 with
    h | ⟨s, c, hs, hc, -, -⟩
  · rw [h] at hcalls
    simp [declinedWorld] at hcalls
  · have hd : s = declinedSubscription := by simpa [declinedWorld] using hs.symm
    rw [← hd]
    exact hc

end Engine

end Billing
