import Billing.Proofs.Engine.Dunning
import Billing.Proofs.Calendar.Periods

/-! # Valid subscriptions

A subscription is valid when the parts a billing run computes with pass their checks: its
amount, its cycle, its period and its retry bookkeeping. A run keeps them so: a status
change touches none of them, a renewal moves to the next period of a valid cycle and
clears the bookkeeping, a retry is counted only within the policy's limit and a grace
window only within the subscription's. So whatever path a run takes (`Begun`,
`Finished`), the subscription it answers with is valid, and so is every subscription it
saves (`KeepsValid`). -/
namespace Billing

/-- Bookkeeping as its checks accept it: no counter negative, and no more retries made than
allowed. -/
structure RetryState.Valid (r : RetryState) : Prop where
  attempt_nonneg : 0 ≤ r.attempt
  attempt_le : r.attempt ≤ r.maxRetries
  grace_nonneg : 0 ≤ r.graceExtensions
  maxGrace_nonneg : 0 ≤ r.maxGraceExtensions

/-- An amount whose currency code is one the amount checks accept as it stands. -/
def Money.Valid (m : Money) : Prop := Money.currencyOf (.str m.currency) = .ok m.currency

/-- A subscription whose amount, cycle, period and bookkeeping pass their checks: the parts
of a subscription a billing run computes with. -/
structure Subscription.Valid (s : Subscription) : Prop where
  amount : s.amount.Valid
  cycle : s.cycle.Valid
  period : s.period.Valid
  retry : s.retry.Valid

/-- A valid amount has a zero of its own currency. -/
theorem Money.zero_of_valid {m : Money} (h : m.Valid) : Money.zero (.str m.currency) = .ok ⟨0, m.currency⟩ := by
  unfold Money.Valid at h
  simp [Money.zero, Money.ofValues, Money.amountOf, Money.build, h, bind, Except.bind]

theorem RetryState.reset_valid {r : RetryState} (h : 0 ≤ r.maxGraceExtensions) : r.reset.Valid :=
  ⟨Int.le_refl 0, Int.le_refl 0, Int.le_refl 0, h⟩

namespace Subscription.Valid

variable {s u : Subscription}

/-- A subscription with the amount and cycle of a valid one, a valid period and valid
bookkeeping is valid. -/
theorem of_parts (hs : s.Valid) (ha : u.amount = s.amount) (hc : u.cycle = s.cycle)
    (hp : u.period.Valid) (hr : u.retry.Valid) : u.Valid :=
  ⟨ha ▸ hs.amount, hc ▸ hs.cycle, hp, hr⟩

/-- A status change keeps a subscription valid. -/
theorem transition {target : SubscriptionStatus} {ctx : TransitionContext} {r : TransitionResult}
    (hs : s.Valid) (h : s.transition target ctx = .ok (u, r)) : u.Valid := by
  rw [Subscription.transition_ok h]
  exact ⟨hs.amount, hs.cycle, hs.period, hs.retry⟩

end Subscription.Valid

namespace Engine

variable {w : World}

section Saved

variable {s u : Subscription} {now : DateTime}

/-- A renewal keeps the subscription valid: its next period is valid and its bookkeeping
cleared. -/
theorem renewed_valid {q : PaymentAttempt} {w' : World} (hs : s.Valid) (h : (renewed s q now).run w = .ok u w') :
    u.Valid := by
  obtain ⟨hnext, t, ht, hu⟩ := renewed_ok h
  have hparts : t.amount = s.amount ∧ t.cycle = s.cycle := by
    rcases ht with ⟨-, ctx, r, htr⟩ | ⟨-, rfl⟩
    · rw [Subscription.transition_ok htr]
      exact ⟨rfl, rfl⟩
    · exact ⟨rfl, rfl⟩
  have hperiod := (Cycle.nextPeriod_ok hs.cycle hs.period hnext).1
  rw [hu]
  exact hs.of_parts hparts.1 hparts.2 hperiod (RetryState.reset_valid hs.retry.maxGrace_nonneg)

/-- A scheduled retry counts one more retry, still within the limit the policy allowed. -/
theorem scheduleRetry_valid {d : RetryDecision} {w' : World} (hs : s.Valid) (hlt : s.retry.attempt < d.maxRetries)
    (h : (scheduleRetry s d now).run w = .ok u w') : u.Valid := by
  obtain ⟨ctx, t, r, htr, rfl⟩ := scheduleRetry_ok h
  have ht := hs.transition htr
  obtain ⟨h0, -, hg, hmg⟩ := hs.retry
  exact ⟨ht.amount, ht.cycle, ht.period, ⟨by dsimp only; omega, by dsimp only; omega, hg, hmg⟩⟩

/-- Delinquency keeps the retry count under a limit raised to it if need be, and counts at
most one more grace window. -/
theorem enterDelinquency_valid (e : Engine) {d : RetryDecision} {w' : World} (hs : s.Valid)
    (h : (e.enterDelinquency s d now).run w = .ok u w') : u.Valid := by
  obtain ⟨t, ht, hrest⟩ := enterDelinquency_ok h
  have htv : t.Valid := by
    rcases ht with ⟨-, ctx, r, htr⟩ | ⟨-, rfl⟩
    · exact hs.transition htr
    · exact hs
  obtain ⟨h0, -, hg, hmg⟩ := hs.retry
  rcases hrest with ⟨-, ctx, t', r, htr, rfl⟩ | ⟨-, g, ctx, t', r, -, htr, rfl⟩
  · have h' := htv.transition htr
    exact ⟨h'.amount, h'.cycle, h'.period, ⟨h0, by dsimp only; omega, hg, hmg⟩⟩
  · have h' := htv.transition htr
    exact ⟨h'.amount, h'.cycle, h'.period, ⟨h0, by dsimp only; omega, by dsimp only; omega, hmg⟩⟩

end Saved

/-- What a run decides to save is valid, and it is the subscription the run answers with. -/
theorem Decided.valid {e : Engine} {s u : Subscription} {p q : PaymentAttempt} {reply : GatewayReply}
    {now : DateTime} {r : RunResult} (hs : s.Valid) (hd : Decided e s p reply now w u q r) :
    u.Valid ∧ r.subscription = u := by
  cases hd with
  | paid r q u hr hok hq hu => exact ⟨renewed_valid hs hu, rfl⟩
  | retried r f d u hr hok hf hdec hretry hu =>
    have hv := scheduleRetry_valid hs ((evaluateRetry_ok hdec).2 hretry) hu
    exact ⟨⟨hv.amount, hv.cycle, hv.period, hv.retry⟩, rfl⟩
  | delinquent r f d u hr hok hf hdec hretry hu =>
    have hv := enterDelinquency_valid e hs hu
    exact ⟨⟨hv.amount, hv.cycle, hv.period, hv.retry⟩, rfl⟩

/-- Every subscription stored in `w'` was stored in `w`, or is valid. -/
def KeepsValid (w w' : World) : Prop :=
  ∀ k u, w'.subscriptions.lookup k = some u → w.subscriptions.lookup k = some u ∨ u.Valid

namespace KeepsValid

variable {w' : World}

theorem of_subscriptions (h : w'.subscriptions = w.subscriptions) : KeepsValid w w' :=
  fun _ _ hk => .inl (h ▸ hk)

theorem storeSubscription {u : Subscription} (h : KeepsValid w w') (hu : u.Valid) :
    KeepsValid w (w'.storeSubscription u) := by
  intro k x hk
  rw [World.storeSubscription_subscriptions, lookup_upsert] at hk
  split at hk
  · cases hk
    exact .inr hu
  · exact h k x hk

end KeepsValid

/-- A run that ends before the gateway answers with a valid subscription, and saves only a
valid one. -/
theorem Begun.keepsValid {e : Engine} {id : String} {now : DateTime} {r : RunResult} {w' : World}
    (hv : ∀ s, w.subscriptions.lookup id = some s → s.Valid) (hb : Begun e id now w (.ok (.finished r) w')) :
    r.subscription.Valid ∧ KeepsValid w w' := by
  cases hb with
  | skipped s reason hload hs hskip => exact ⟨hv s hs, .of_subscriptions rfl⟩
  | settled s u p hload hs hskip hp hu hsave =>
    have hu := renewed_valid (hv s hs) hu
    exact ⟨hu, (KeepsValid.of_subscriptions rfl).storeSubscription hu⟩
  | expired s u hload hs hskip hp hgrace hx hu hsave =>
    obtain ⟨-, r, htr⟩ := move_ok hu
    have hu := (hv s hs).transition htr
    exact ⟨hu, (KeepsValid.of_subscriptions rfl).storeSubscription hu⟩
  | rejected s elapsed hload hs hskip hp hgrace hx hm => exact ⟨hv s hs, .of_subscriptions rfl⟩

/-- After the gateway a run answers with a valid subscription and saves only a valid one;
the payment it saves changes no subscription. -/
theorem Finished.keepsValid {e : Engine} {s : Subscription} {p : PaymentAttempt} {reply : GatewayReply}
    {now : DateTime} {res : EStateM.Result Error World RunResult} (hs : s.Valid)
    (hf : Finished e s p reply now w res) :
    (∀ r w', res = .ok r w' → r.subscription.Valid) ∧ KeepsValid w (worldOf res) := by
  cases hf with
  | failed err => exact ⟨fun _ _ h => (by cases h), .of_subscriptions rfl⟩
  | halfSaved u q r m hd hpay hsub => exact ⟨fun _ _ h => (by cases h), .of_subscriptions rfl⟩
  | saved u q r hd hpay hsub =>
    obtain ⟨hu, hr⟩ := hd.valid hs
    refine ⟨fun r' w' h => ?_, (KeepsValid.of_subscriptions rfl).storeSubscription hu⟩
    cases h
    exact hr ▸ hu

end Engine

end Billing
