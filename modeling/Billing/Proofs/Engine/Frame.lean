import Billing.Proofs.Status.History
import Billing.Proofs.Engine.Outcomes

/-! # What each operation writes

Every operation copies its snapshot with some fields replaced. For each kind of operation
this module names the snapshot with the fields it may write blanked out
(`Subscription.outsideStatus`, `outsideRun`, `outsideTrial`, `outsideCancel` and
`PaymentAttempt.outsideAttempt`); two snapshots with the same blanked form differ at most
there. A status change writes only the status and its history. A billing run, whatever its
outcome, writes besides them only the retry bookkeeping, the grace end, the period and the
last payment, and a scheduled retry keeps the period and the grace end. A cancellation
writes the cancellation and, of the retry bookkeeping, only the next retry time; starting and
ending a trial write the trial end and the period, and only with a trial or a paid end. A
payment resumed by a run keeps what identifies the charge: its identifier, subscription,
amount, cycle, creation time and refunds (`operations_write_only_their_fields`). -/

namespace Billing

namespace Subscription

/-- The subscription with its status and status history blanked out. -/
def outsideStatus (s : Subscription) : Subscription :=
  { s with status := .pending, history := [] }

/-- The subscription with what a billing run may write blanked out: its status and history,
retry bookkeeping, grace end, period and last payment. -/
def outsideRun (s : Subscription) : Subscription :=
  { s.outsideStatus with retry := default, graceEnd := none, period := default, lastPayment := none }

/-- The subscription with what starting or ending a trial may write blanked out: its status
and history, trial end and period. -/
def outsideTrial (s : Subscription) : Subscription :=
  { s.outsideStatus with trialEnd := none, period := default }

/-- The subscription with what a cancellation may write blanked out: its status and
history, when and why it was canceled, and the time of its next retry. -/
def outsideCancel (s : Subscription) : Subscription :=
  { s.outsideStatus with
    canceledAt := none
    cancelReason := none
    retry := { s.retry with nextAt := none } }

variable {s t u : Subscription}

theorem outsideRun_of_outsideStatus (h : u.outsideStatus = s.outsideStatus) :
    u.outsideRun = s.outsideRun := by
  unfold outsideRun
  rw [h]

theorem outsideTrial_of_outsideStatus (h : u.outsideStatus = s.outsideStatus) :
    u.outsideTrial = s.outsideTrial := by
  unfold outsideTrial
  rw [h]

theorem outsideCancel_of_outsideStatus (h : u.outsideStatus = s.outsideStatus) :
    u.outsideCancel = s.outsideCancel := by
  have hretry : u.retry = s.retry := (congrArg Subscription.retry h :)
  unfold outsideCancel
  rw [h, hretry]

/-- A status change writes only the status and its history. -/
theorem transition_outsideStatus {target : SubscriptionStatus} {ctx : TransitionContext}
    {r : TransitionResult} (h : s.transition target ctx = .ok (u, r)) :
    u.outsideStatus = s.outsideStatus := by
  rw [transition_ok h]
  rfl

section Commands

variable {now : DateTime} {reason actor paid : Value}

theorem pause_outsideStatus (h : s.pause now reason actor = .ok u) :
    u.outsideStatus = s.outsideStatus := by
  obtain ⟨ctx, r, htr⟩ := pause_spec h
  exact transition_outsideStatus htr

theorem resume_outsideStatus (h : s.resume now reason actor = .ok u) :
    u.outsideStatus = s.outsideStatus := by
  obtain ⟨ctx, r, htr⟩ := resume_spec h
  exact transition_outsideStatus htr

theorem refund_outsideStatus {approved : Value} (h : s.refund now approved reason actor = .ok u) :
    u.outsideStatus = s.outsideStatus := by
  obtain ⟨ctx, r, htr⟩ := refund_spec h
  exact transition_outsideStatus htr

/-- A cancellation writes, besides the status, only when and why, and drops the next retry
time while keeping the rest of the retry bookkeeping. -/
theorem cancel_outsideCancel (h : s.cancel now reason actor = .ok u) :
    u.outsideCancel = s.outsideCancel := by
  obtain ⟨ctx, t, r, htr, rfl | rfl⟩ := cancel_spec h
  · exact outsideCancel_of_outsideStatus (transition_outsideStatus htr)
  · -- the recorded cancellation is blanked out, and the retry kept is the subscription's own
    rw [transition_ok htr]
    rfl

/-- A start writes the trial end and the period only with a trial. -/
theorem start_outsideTrial {days : Int} (h : s.start now days paid actor = .ok u) :
    u.outsideTrial = s.outsideTrial ∧ (days = 0 → u.outsideStatus = s.outsideStatus) := by
  unfold start at h
  split at h
  · cases h
  · split at h
    · rename_i hdays
      simp only [Except.bind_eq_ok] at h
      obtain ⟨trialEnd, -, ctx, -, ⟨t, r⟩, htr, period, -, hu⟩ := h
      cases hu
      exact ⟨(outsideTrial_of_outsideStatus (transition_outsideStatus htr) :), fun h0 => absurd h0 hdays⟩
    · simp only [Except.bind_eq_ok] at h
      obtain ⟨ctx, -, ⟨t, r⟩, htr, hu⟩ := h
      cases hu
      have hst := transition_outsideStatus htr
      exact ⟨outsideTrial_of_outsideStatus hst, fun _ => hst⟩

/-- The end of a trial writes the period and the trial end only when it was paid. -/
theorem endTrial_outsideTrial (h : s.endTrial now paid actor = .ok u) :
    u.outsideTrial = s.outsideTrial ∧ (paid.isFalsy = true → u.outsideStatus = s.outsideStatus) := by
  unfold endTrial at h
  split at h
  · cases h
  · split at h
    · rename_i hpaid
      simp only [Except.bind_eq_ok] at h
      obtain ⟨ctx, -, ⟨t, r⟩, htr, period, -, hu⟩ := h
      cases hu
      refine ⟨(outsideTrial_of_outsideStatus (transition_outsideStatus htr) :), fun hfalsy => ?_⟩
      simp [hfalsy] at hpaid
    · simp only [Except.bind_eq_ok] at h
      obtain ⟨ctx, -, ⟨t, r⟩, htr, hu⟩ := h
      cases hu
      have hst := transition_outsideStatus htr
      exact ⟨outsideTrial_of_outsideStatus hst, fun _ => hst⟩

end Commands

end Subscription

namespace PaymentAttempt

/-- The payment with what its status changes may write blanked out: its status and history,
failure details, submission count and provider reference. What is left identifies the
charge: its identifier, subscription, amount, cycle, creation time and refunds. -/
def outsideAttempt (p : PaymentAttempt) : PaymentAttempt :=
  { p with
    status := .pending
    submissions := .null
    providerRef := .null
    failure := none
    history := [] }

/-- A status change of a payment that records no refunds keeps what identifies the charge. -/
theorem transition_outsideAttempt {p q : PaymentAttempt} {target : PaymentStatus}
    {ctx : TransitionContext} {details : Option FailureDetails} {changes : PaymentChanges}
    {r : TransitionResult} (hrefunds : changes.refunds = none)
    (h : p.transition target ctx details changes = .ok (q, r)) :
    q.outsideAttempt = p.outsideAttempt := by
  rcases transition_spec h with ⟨rfl, -⟩ | ⟨-, -, -, change, -, -, rfl⟩
  · rfl
  · simp [outsideAttempt, hrefunds]

end PaymentAttempt

namespace Engine

open Subscription PaymentAttempt

variable {w w' : World}

/-- A status change inside a run writes only the status and its history. -/
theorem move_outsideStatus {s u : Subscription} {target : SubscriptionStatus}
    {ctx : TransitionContext} (h : (move s target ctx).run w = .ok u w') :
    u.outsideStatus = s.outsideStatus := by
  obtain ⟨-, r, htr⟩ := move_ok h
  exact transition_outsideStatus htr

/-- A renewal writes only what a run may write. -/
theorem renewed_outsideRun {s u : Subscription} {q : PaymentAttempt} {now : DateTime}
    (h : (renewed s q now).run w = .ok u w') : u.outsideRun = s.outsideRun := by
  obtain ⟨-, t, ht, hu⟩ := renewed_ok h
  rw [hu]
  show t.outsideRun = s.outsideRun
  rcases ht with ⟨-, ctx, r, htr⟩ | ⟨-, rfl⟩
  · exact outsideRun_of_outsideStatus (transition_outsideStatus htr)
  · rfl

/-- A scheduled retry writes only what a run may write, and keeps the period and the grace
end. -/
theorem scheduleRetry_outsideRun {s u : Subscription} {d : RetryDecision} {now : DateTime}
    (h : (scheduleRetry s d now).run w = .ok u w') :
    u.outsideRun = s.outsideRun ∧ u.period = s.period ∧ u.graceEnd = s.graceEnd := by
  obtain ⟨ctx, t, r, htr, rfl⟩ := scheduleRetry_ok h
  have hst := transition_outsideStatus htr
  exact ⟨(outsideRun_of_outsideStatus hst :), (congrArg Subscription.period hst :),
    (congrArg Subscription.graceEnd hst :)⟩

/-- Delinquency writes only what a run may write. -/
theorem enterDelinquency_outsideRun {e : Engine} {s u : Subscription} {d : RetryDecision}
    {now : DateTime} (h : (e.enterDelinquency s d now).run w = .ok u w') :
    u.outsideRun = s.outsideRun := by
  obtain ⟨t, ht, hrest⟩ := enterDelinquency_ok h
  -- an active subscription enters its grace period first
  have hts : t.outsideRun = s.outsideRun := by
    rcases ht with ⟨-, ctx, r, htr⟩ | ⟨-, rfl⟩
    · exact outsideRun_of_outsideStatus (transition_outsideStatus htr)
    · rfl
  rcases hrest with ⟨-, ctx, t', r, htr, rfl⟩ | ⟨-, g, ctx, t', r, -, htr, rfl⟩
  all_goals exact ((outsideRun_of_outsideStatus (transition_outsideStatus htr)).trans hts :)

/-- What a run writes after the gateway: of the subscription, only what a run may write,
with the period and the grace end kept by a scheduled retry; of the payment it submitted,
nothing that identifies the charge. -/
theorem Decided.outsideRun {e : Engine} {s u : Subscription} {p q : PaymentAttempt}
    {reply : GatewayReply} {now : DateTime} {r : RunResult} (hd : Decided e s p reply now w u q r) :
    r.subscription = u ∧ r.payment = some q ∧ u.outsideRun = s.outsideRun ∧
      (r.outcome = .retryScheduled → u.period = s.period ∧ u.graceEnd = s.graceEnd) ∧
      q.outsideAttempt = p.outsideAttempt := by
  cases hd with
  | paid gr q u hr hok hq hu =>
    obtain ⟨-, _, hq⟩ := movePayment_ok hq
    exact ⟨rfl, rfl, renewed_outsideRun hu, (by intro h; cases h), transition_outsideAttempt rfl hq⟩
  | retried gr f d u hr hok hf hd hretry hu =>
    obtain ⟨-, _, hf⟩ := movePayment_ok hf
    obtain ⟨hrun, hper, hgrace⟩ := scheduleRetry_outsideRun hu
    exact ⟨rfl, rfl, hrun, fun _ => ⟨hper, hgrace⟩, transition_outsideAttempt rfl hf⟩
  | delinquent gr f d u hr hok hf hd hretry hu =>
    obtain ⟨-, _, hf⟩ := movePayment_ok hf
    refine ⟨rfl, rfl, (enterDelinquency_outsideRun hu :), fun h => ?_, transition_outsideAttempt rfl hf⟩
    -- a delinquent run ends expired or past due
    dsimp only at h
    split at h <;> cases h

/-- A run that returns after the gateway has decided what it returns. -/
theorem Finished.ok_decided {e : Engine} {s : Subscription} {p : PaymentAttempt}
    {reply : GatewayReply} {now : DateTime} {r : RunResult} (hf : Finished e s p reply now w (.ok r w')) :
    ∃ u q, Decided e s p reply now w u q r := by
  cases hf with
  | saved u q r hd hpay hsub => exact ⟨u, q, hd⟩

/-- A run that ends before the gateway writes, of the subscription it loaded, only what a run
may write, and schedules no retry. -/
theorem Begun.finished_outsideRun {e : Engine} {id : String} {now : DateTime} {r : RunResult}
    (hb : Begun e id now w (.ok (.finished r) w')) :
    ∃ s, w.subscriptions.lookup id = some s ∧ r.subscription.outsideRun = s.outsideRun ∧
      r.outcome ≠ .retryScheduled := by
  cases hb with
  | skipped s reason hload hs hskip => exact ⟨s, hs, rfl, by simp⟩
  | settled s u p hload hs hskip hp hu hsave => exact ⟨s, hs, renewed_outsideRun hu, by simp⟩
  | expired s u hload hs hskip hp hgrace hx hu hsave =>
    exact ⟨s, hs, outsideRun_of_outsideStatus (move_outsideStatus hu), by simp⟩
  | rejected s elapsed hload hs hskip hp hgrace hx hm => exact ⟨s, hs, rfl, by simp⟩

/-- A run that reaches the gateway submits for the subscription stored under its key. -/
theorem Begun.submitting_lookup {e : Engine} {id : String} {now : DateTime} {s : Subscription}
    {p : PaymentAttempt} (hb : Begun e id now w (.ok (.submitting s p) w')) :
    w.subscriptions.lookup id = some s := by
  cases hb with
  | submitting _ _ amount elapsed hload hs => exact hs

/-- A billing run that returns, whatever its outcome, writes of the subscription it loaded
only the status and history, retry bookkeeping, grace end, period and last payment; a
scheduled retry keeps the period and the grace end too. -/
theorem run_outsideRun {e : Engine} {id : String} {now : DateTime} {r : RunResult}
    (hrun : (e.run id now).run w = .ok r w') :
    ∃ s, w.subscriptions.lookup id = some s ∧ r.subscription.outsideRun = s.outsideRun ∧
      (r.outcome = .retryScheduled →
        r.subscription.period = s.period ∧ r.subscription.graceEnd = s.graceEnd) := by
  have hran := run_paths e id now w
  rw [hrun] at hran
  cases hran with
  | stopped r w' hb =>
    obtain ⟨s, hs, hframe, hout⟩ := hb.finished_outsideRun
    exact ⟨s, hs, hframe, fun h => absurd h hout⟩
  | cancelled s p res hb ht hf =>
    obtain ⟨u, q, hd⟩ := hf.ok_decided
    obtain ⟨rfl, -, hframe, hretry, -⟩ := hd.outsideRun
    exact ⟨s, hb.submitting_lookup, hframe, hretry⟩
  | called s p res hb ht hf hres =>
    obtain ⟨u, q, hd⟩ := hf.ok_decided
    obtain ⟨rfl, -, hframe, hretry, -⟩ := hd.outsideRun
    exact ⟨s, hb.submitting_lookup, hframe, hretry⟩

/-- A payment resumed by a run is the stored failed payment moved back to processing with one
more submission: what identifies the charge is kept. -/
theorem preparePayment_resumed {s : Subscription} {amount : Money} {now : DateTime}
    {prev p : PaymentAttempt} (hres : (resumablePayment s).run w = .ok (some prev) w)
    (h : (preparePayment s amount now).run w = .ok p w') : p.outsideAttempt = prev.outsideAttempt := by
  unfold preparePayment at h
  simp only [EStateM.run_bind, hres] at h
  split at h
  · rename_i retrying w₁ hretrying
    obtain ⟨rfl, _, hr⟩ := movePayment_ok hretrying
    split at h
    · rename_i n w₂ hn
      have hw₂ := (Reads.lift _).ok_world hn
      subst w₂
      obtain ⟨-, _, hp⟩ := movePayment_ok h
      exact (transition_outsideAttempt rfl hp).trans (transition_outsideAttempt rfl hr)
    · cases h
  · cases h

/-- After the gateway a run returns the payment it submitted, keeping what identifies the
charge. -/
theorem finish_outsideAttempt {e : Engine} {s : Subscription} {p : PaymentAttempt}
    {reply : GatewayReply} {now : DateTime} {r : RunResult}
    (h : (e.finish s p reply now).run w = .ok r w') :
    ∃ q, r.payment = some q ∧ q.outsideAttempt = p.outsideAttempt := by
  have hf := finish_paths e now w s p reply
  rw [h] at hf
  obtain ⟨u, q, hd⟩ := hf.ok_decided
  obtain ⟨-, hq, -, -, hframe⟩ := hd.outsideRun
  exact ⟨q, hq, hframe⟩

end Engine

open Subscription Engine

/-- Every operation writes only its own fields. A billing run, whatever its outcome, writes
of the subscription it loaded only the status and history, retry bookkeeping, grace end,
period and last payment, and a scheduled retry keeps the period and the grace end. A
cancellation writes only the status and history, when and why, and the next retry time;
pausing, resuming and refunding only the status and history; starting and ending a trial
also the trial end and the period, and these only with a trial or a paid end. A payment
resumed by a run keeps its identifier, subscription, amount, cycle, creation time and refunds
up to the payment the run returns. -/
theorem operations_write_only_their_fields :
    (∀ (e : Engine) (id : String) (now : DateTime) (w w' : World) (r : RunResult),
      (e.run id now).run w = .ok r w' → ∃ s, w.subscriptions.lookup id = some s ∧
        r.subscription.outsideRun = s.outsideRun ∧
        (r.outcome = .retryScheduled →
          r.subscription.period = s.period ∧ r.subscription.graceEnd = s.graceEnd)) ∧
    (∀ (s u : Subscription) (now : DateTime) (reason actor : Value),
      s.cancel now reason actor = .ok u → u.outsideCancel = s.outsideCancel) ∧
    (∀ (s u : Subscription) (now : DateTime) (reason actor : Value),
      s.pause now reason actor = .ok u ∨ s.resume now reason actor = .ok u →
        u.outsideStatus = s.outsideStatus) ∧
    (∀ (s u : Subscription) (now : DateTime) (approved reason actor : Value),
      s.refund now approved reason actor = .ok u → u.outsideStatus = s.outsideStatus) ∧
    (∀ (s u : Subscription) (now : DateTime) (days : Int) (paid actor : Value),
      s.start now days paid actor = .ok u →
        u.outsideTrial = s.outsideTrial ∧ (days = 0 → u.outsideStatus = s.outsideStatus)) ∧
    (∀ (s u : Subscription) (now : DateTime) (paid actor : Value),
      s.endTrial now paid actor = .ok u →
        u.outsideTrial = s.outsideTrial ∧ (paid.isFalsy = true → u.outsideStatus = s.outsideStatus)) ∧
    (∀ (e : Engine) (s : Subscription) (amount : Money) (now : DateTime) (w w₁ : World)
        (prev p : PaymentAttempt),
      (resumablePayment s).run w = .ok (some prev) w →
      (preparePayment s amount now).run w = .ok p w₁ →
        p.outsideAttempt = prev.outsideAttempt ∧
        ∀ (reply : GatewayReply) (w₂ w₃ : World) (r : RunResult),
          (e.finish s p reply now).run w₂ = .ok r w₃ →
            ∃ q, r.payment = some q ∧ q.outsideAttempt = prev.outsideAttempt) := by
  refine ⟨fun e id now w w' r h => run_outsideRun h, fun s u now reason actor h => cancel_outsideCancel h,
    fun s u now reason actor h => ?_, fun s u now approved reason actor h => refund_outsideStatus h,
    fun s u now days paid actor h => start_outsideTrial h,
    fun s u now paid actor h => endTrial_outsideTrial h, fun e s amount now w w₁ prev p hres hprep => ?_⟩
  · rcases h with h | h
    · exact pause_outsideStatus h
    · exact resume_outsideStatus h
  · -- the resumed payment keeps the charge, and so does the payment the run returns after it
    have hp := preparePayment_resumed hres hprep
    refine ⟨hp, fun reply w₂ w₃ r hfin => ?_⟩
    obtain ⟨q, hq, hframe⟩ := finish_outsideAttempt hfin
    exact ⟨q, hq, hframe.trans hp⟩

/-- The declined charge of `declinedWorld` schedules a retry: the subscription its run
returns keeps everything outside what a run writes, its period and its grace end too.
Pausing the declined subscription on the same day changes its status and history and
nothing else. -/
theorem paused_subscription_keeps_fields :
    ∃ r w' u, (retryEngine.run "sub_1" marchFirst).run declinedWorld = .ok r w' ∧
      r.outcome = .retryScheduled ∧ r.subscription.outsideRun = declinedSubscription.outsideRun ∧
      r.subscription.period = declinedSubscription.period ∧
      r.subscription.graceEnd = declinedSubscription.graceEnd ∧
      declinedSubscription.pause marchFirst (.str "vacation") (.str "customer") = .ok u ∧
      u.status = .paused ∧ u.outsideStatus = declinedSubscription.outsideStatus := by
  have hframe := operations_write_only_their_fields
  have hreturns : (retryEngine.run "sub_1" marchFirst).returnsWith
      (fun r => r.outcome == .retryScheduled) declinedWorld = true := by decide +kernel
  obtain ⟨r, w', hr, hout⟩ := Step.ok_of_returnsWith hreturns
  have hretry : r.outcome = .retryScheduled := beq_iff_eq.mp hout
  -- the run read the declined subscription, the only one its repository holds
  obtain ⟨s, hs, hrun, hkeep⟩ := hframe.1 _ _ _ _ _ _ hr
  cases hs
  obtain ⟨u, hu⟩ : ∃ u, declinedSubscription.pause marchFirst (.str "vacation") (.str "customer") =
      .ok u := ⟨_, rfl⟩
  obtain ⟨ctx, t, htr⟩ := Subscription.pause_spec hu
  exact ⟨r, w', u, hr, hretry, hrun, (hkeep hretry).1, (hkeep hretry).2, hu,
    (Subscription.transition_status htr).1, hframe.2.2.1 _ _ _ _ _ (.inl hu)⟩

end Billing
