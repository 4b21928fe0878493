import Billing.Proofs.Payment.Validity
import Billing.Proofs.Status.History

/-! # Snapshots stay valid

Every operation of the package copies a snapshot with some fields replaced, and none of
these copies runs the checks of its record. Each operation keeps the snapshots valid all
the same, for the reason proper to it: the lifecycle commands of a subscription move its
period only to a period of a valid cycle from a date of the calendar and touch its
bookkeeping only to drop a pending retry; a billing run builds a new payment from a valid
subscription and a price in its currency, resumes only a stored payment, and updates
payments only in the ways `PaymentChanges.Valid` allows. So a repository of valid
snapshots stays one under every run (`run_valid`). -/
namespace Billing

section Recheck

/-! The validity of the parts of a snapshot is what their checks accept: re-checking a part
gives it back unchanged exactly when it is valid. -/

theorem Money.ofValues_self_iff (m : Money) :
    Money.ofValues (.int m.amount) (.str m.currency) = .ok m ↔ m.Valid := by
  obtain ⟨n, cur⟩ := m
  unfold Money.Valid
  cases hc : Money.currencyOf (.str cur) with
  | ok c => simp [Money.ofValues, Money.amountOf, Money.build, hc, bind, Except.bind, eq_comm]
  | error k => simp [Money.ofValues, Money.amountOf, Money.build, hc, bind, Except.bind]

/-- Bookkeeping passes its checks unchanged exactly when no counter is negative and no more
retries were made than allowed. -/
theorem RetryState.check_self_iff (r : RetryState) :
    (RetryState.check (.int r.attempt) (.int r.maxRetries) r.nextAt
      ((r.lastFailure.map fun c => Value.str c.name).getD .null) (.int r.graceExtensions)
      (.int r.maxGraceExtensions)).run = .ok r ↔ r.Valid := by
  obtain ⟨a, m, next, last, g, mg⟩ := r
  -- checking a record's own fields is building it from them
  show RetryState.build a m next last g mg = .ok ⟨a, m, next, last, g, mg⟩ ↔ _
  rw [RetryState.build_eq_ok]
  constructor
  · rintro ⟨-, ha, hle, hg, hmg⟩
    exact ⟨ha, hle, hg, hmg⟩
  · intro hv
    exact ⟨rfl, hv.attempt_nonneg, hv.attempt_le, hv.grace_nonneg, hv.maxGrace_nonneg⟩

/-- A period passes its checks unchanged exactly when it does not end before it starts and
its cycle number is at least 1. -/
theorem Period.check_self_iff (p : Period) :
    (Period.check p.startDate p.endDate (.int p.cycleNumber)).run = .ok p ↔
      p.startDate ≤ p.endDate ∧ 1 ≤ p.cycleNumber := by
  unfold Period.check
  simp only [Checked.run_eq_ok, Except.bind_eq_ok, Checked.atLeast_eq_ok, Checked.rule_eq_ok,
    decide_eq_true_eq]
  constructor
  · rintro ⟨n, ⟨hn, rfl⟩, hle, -⟩
    exact ⟨hle, hn⟩
  · rintro ⟨hle, hn⟩
    exact ⟨p.cycleNumber, ⟨hn, rfl⟩, hle, rfl⟩

end Recheck

/-- A time some days later, when it is within the calendar, is on a date of the calendar. -/
theorem DateTime.addDays_date_valid {t t' : DateTime} {n : Int} (h : t.addDays n = .ok t') :
    t'.date.isValid = true := by
  simp only [DateTime.addDays, DateTime.addMicros, bind, Except.bind] at h
  split at h
  · cases h
  · split at h
    · cases h
    · rename_i hrange
      cases h
      exact (Date.ofOrdinal_spec (by simp only [not_or] at hrange; omega)
        (by simp only [not_or] at hrange; omega)).2

theorem RetryState.fresh_valid {g : Int} {r : RetryState} (h : RetryState.fresh g = .ok r) : r.Valid := by
  unfold RetryState.fresh at h
  split at h
  · cases h
  · rename_i hg
    cases h
    exact ⟨Int.le_refl 0, Int.le_refl 0, Int.le_refl 0, by dsimp only; omega⟩

namespace Subscription

variable {s u : Subscription} {now : DateTime} {reason actor paid : Value}

/-- A subscription created from a valid amount and cycle, starting on a date of the
calendar, is valid. -/
theorem create_valid {settings : Settings} {id customer : Value} {amount : Money} {cycle : Cycle}
    {start : Date} {paymentMethod plan : Option String} {metadata : Fields} (ha : amount.Valid)
    (hc : cycle.Valid) (hstart : start.isValid = true)
    (h : create settings id customer amount cycle start paymentMethod plan metadata = .ok s) :
    s.Valid := by
  unfold create at h
  simp only [Except.bind_eq_ok] at h
  obtain ⟨period, hp, retry, hr, ids, -, hs⟩ := h
  cases hs
  exact ⟨ha, hc, (Cycle.period_ok hstart hp).1, RetryState.fresh_valid hr⟩

/-- A start keeps a subscription valid: a trial moves its first period to the end of the
trial, a date of the calendar. -/
theorem start_valid {days : Int} (hs : s.Valid) (h : s.start now days paid actor = .ok u) : u.Valid := by
  rcases start_spec h with ⟨ctx, r, htr⟩ | ⟨trialEnd, ctx, t, r, period, hend, htr, hp, rfl⟩
  · exact hs.transition htr
  · have ht := hs.transition htr
    exact ht.of_parts rfl rfl (Cycle.period_ok (DateTime.addDays_date_valid hend) hp).1 ht.retry

/-- The end of a trial, at a time on a date of the calendar, keeps a subscription valid: a
paid trial starts its first period that day. -/
theorem endTrial_valid (hs : s.Valid) (hnow : now.date.isValid = true)
    (h : s.endTrial now paid actor = .ok u) : u.Valid := by
  rcases endTrial_spec h with ⟨ctx, r, htr⟩ | ⟨ctx, t, r, period, htr, hp, rfl⟩
  · exact hs.transition htr
  · have ht := hs.transition htr
    exact ht.of_parts rfl rfl (Cycle.period_ok hnow hp).1 ht.retry

theorem pause_valid (hs : s.Valid) (h : s.pause now reason actor = .ok u) : u.Valid := by
  obtain ⟨ctx, r, htr⟩ := pause_spec h
  exact hs.transition htr

theorem resume_valid (hs : s.Valid) (h : s.resume now reason actor = .ok u) : u.Valid := by
  obtain ⟨ctx, r, htr⟩ := resume_spec h
  exact hs.transition htr

/-- A cancellation keeps a subscription valid: dropping a pending retry leaves its counters
as they were. -/
theorem cancel_valid (hs : s.Valid) (h : s.cancel now reason actor = .ok u) : u.Valid := by
  obtain ⟨ctx, t, r, htr, hu⟩ := cancel_spec h
  have ht := hs.transition htr
  rcases hu with rfl | rfl
  · exact ht
  · obtain ⟨h0, hle, hg, hmg⟩ := hs.retry
    exact ht.of_parts rfl rfl ht.period ⟨h0, hle, hg, hmg⟩

theorem refund_valid {approved : Value} (hs : s.Valid) (h : s.refund now approved reason actor = .ok u) :
    u.Valid := by
  obtain ⟨ctx, r, htr⟩ := refund_spec h
  exact hs.transition htr

end Subscription

/-- Saving a payment that has a property keeps every payment held having it. -/
theorem World.storePayment_all {P : PaymentAttempt → Prop} {w : World} {q : PaymentAttempt}
    (hw : ∀ k p, w.payments.lookup k = some p → P p) (hq : P q) :
    ∀ k p, (w.storePayment q).payments.lookup k = some p → P p := by
  intro k p hp
  rw [World.storePayment_payments, lookup_upsert] at hp
  split at hp
  · cases hp
    exact hq
  · exact hw k p hp

/-- Every subscription and every payment the repository holds is valid. -/
structure World.Valid (w : World) : Prop where
  subscriptions : ∀ k s, w.subscriptions.lookup k = some s → s.Valid
  payments : ∀ k p, w.payments.lookup k = some p → p.Valid

namespace World.Valid

variable {w : World}

theorem storeSubscription (hw : w.Valid) {u : Subscription} (hu : u.Valid) :
    (w.storeSubscription u).Valid := by
  refine ⟨fun k s hs => ?_, hw.payments⟩
  rw [World.storeSubscription_subscriptions, lookup_upsert] at hs
  split at hs
  · cases hs
    exact hu
  · exact hw.subscriptions k s hs

theorem storePayment (hw : w.Valid) {q : PaymentAttempt} (hq : q.Valid) : (w.storePayment q).Valid :=
  ⟨hw.subscriptions, World.storePayment_all hw.payments hq⟩

theorem afterCall (hw : w.Valid) (c : GatewayCall) : (w.afterCall c).Valid :=
  ⟨hw.subscriptions, hw.payments⟩

/-- A step that saves only valid subscriptions and no payment keeps the repository valid. -/
theorem of_keepsValid (hw : w.Valid) {w' : World} (hk : Engine.KeepsValid w w')
    (hp : w'.payments = w.payments) : w'.Valid := by
  refine ⟨fun k s hs => ?_, fun k p hl => hw.payments k p (hp ▸ hl)⟩
  rcases hk k s hs with hs | hs
  · exact hw.subscriptions k s hs
  · exact hs

end World.Valid

/-- The larger of two amounts is one of them. -/
theorem Money.max_cases {a b m : Money} (h : a.max b = .ok m) : m = a ∨ m = b := by
  unfold Money.max at h
  simp only [bind, Except.bind, pure, Except.pure] at h
  split at h
  · cases h
  · cases h
    split
    · exact .inl rfl
    · exact .inr rfl

namespace Engine

variable {e : Engine} {id : String} {now : DateTime} {w w' : World}

theorem movePayment_valid {p q : PaymentAttempt} {target : PaymentStatus} {ctx : TransitionContext}
    {details : Option FailureDetails} {changes : PaymentChanges} (hp : p.Valid) (hc : changes.Valid)
    (h : (movePayment p target ctx details changes).run w = .ok q w') : q.Valid := by
  obtain ⟨-, r, htr⟩ := movePayment_ok h
  exact hp.transition hc htr

/-- The price of a charge is in the subscription's currency, so it is valid. -/
theorem resolveAmount_valid (e : Engine) {s : Subscription} {m : Money} (hs : s.amount.Valid)
    (h : (e.resolveAmount s).run w = .ok m w') : m.Valid := by
  -- whatever the resolver answers, the price is that answer in the subscription's currency,
  -- or zero in that currency
  have tail : ∀ (adjusted : Money) (w₀ : World),
      (do
        if adjusted.currency ≠ s.amount.currency then
          throw (Error.billing (BillingError.currencyMismatch s.amount.currency adjusted.currency))
        let zero ← World.lift (Money.zero (.str s.amount.currency))
        World.lift (adjusted.max zero) : Step Money).run w₀ = .ok m w' → m.Valid := by
    intro adjusted w₀ ht
    by_cases hcur : adjusted.currency = s.amount.currency
    · simp only [hcur, ne_eq, not_true_eq_false, if_false, EStateM.run_bind, World.lift_run,
        Money.zero_of_valid hs] at ht
      split at ht
      · rename_i larger hmax
        cases ht
        rcases Money.max_cases hmax with rfl | rfl
        · exact hs.of_currency hcur
        · exact hs
      · cases ht
    · simp [hcur] at ht
  unfold resolveAmount at h
  dsimp only at h
  split at h
  · cases h
    exact hs
  · rename_i d _
    cases d with
    | subtract args =>
      simp only [EStateM.run_bind] at h
      split at h
      · split at h
        · exact tail _ _ h
        · cases h
      · cases h
    | fixed args =>
      simp only [EStateM.run_bind] at h
      split at h
      · exact tail _ _ h
      · cases h
    | raises msg => cases h

/-- The payment a run submits is valid: a new payment of a valid subscription at a valid
price, or a stored payment resumed with one more submission. -/
theorem preparePayment_valid {s : Subscription} {amount : Money} {p : PaymentAttempt}
    (hw : ∀ k q, w.payments.lookup k = some q → q.Valid) (hs : s.Valid) (ha : amount.Valid)
    (h : (preparePayment s amount now).run w = .ok p w') : p.Valid := by
  unfold preparePayment at h
  simp only [EStateM.run_bind] at h
  split at h
  · rename_i found w1 hfound
    have hw1 := (Reads.resumablePayment s).ok_world hfound
    subst w1
    cases found with
    | some prev =>
      obtain ⟨-, ⟨k, -, -, hl, -, -⟩, -⟩ := resumablePayment_some hfound
      simp only [EStateM.run_bind] at h
      split at h
      · rename_i retrying w2 hretrying
        have hretry := movePayment_valid (hw k prev hl) PaymentChanges.none_valid hretrying
        obtain ⟨rfl, -⟩ := movePayment_ok hretrying
        split at h
        · rename_i count w3 hcount
          obtain ⟨rfl, hcount⟩ := lift_ok hcount
          -- the stored count is a whole number, so one more submission is counted
          obtain ⟨n, hn, hsub⟩ := hretry.counted
          rw [hsub] at hcount
          cases hcount
          exact movePayment_valid hretry (PaymentChanges.counted_valid (by omega)) h
        · cases h
      · cases h
    | none =>
      have hnew : PaymentAttempt.Valid
          ⟨s.paymentId, s.id, amount, .pending, s.period.cycleNumber, .int 0, .null, none, [], [], now⟩ :=
        ⟨ha, hs.period.numbered, ⟨0, Int.le_refl 0, rfl⟩, ⟨none, rfl⟩, rfl, fun _ hf => nomatch hf⟩
      dsimp only at h
      exact movePayment_valid hnew (PaymentChanges.counted_valid (by omega)) (opened_bind_ok h).2
  · cases h

/-- A run that ends before the gateway answers, if with a payment at all, with a stored one,
and saves no payment. -/
theorem Begun.payment_stored {r : RunResult} (hb : Begun e id now w (.ok (.finished r) w')) :
    w'.payments = w.payments ∧ ∀ p, r.payment = some p → ∃ k, w.payments.lookup k = some p := by
  cases hb with
  | skipped s reason hload hs hskip => exact ⟨rfl, fun _ h => nomatch h⟩
  | settled s u p hload hs hskip hp hu hsave =>
    obtain ⟨k, -, hl, -⟩ := findSettled_some _ hp
    refine ⟨rfl, fun q hq => ?_⟩
    cases hq
    exact ⟨k, hl⟩
  | expired s u hload hs hskip hp hgrace hx hu hsave => exact ⟨rfl, fun _ h => nomatch h⟩
  | rejected s elapsed hload hs hskip hp hgrace hx hm => exact ⟨rfl, fun _ h => nomatch h⟩

theorem Begun.finished_valid {r : RunResult} (hw : w.Valid) (hb : Begun e id now w (.ok (.finished r) w')) :
    w'.Valid ∧ r.subscription.Valid ∧ ∀ p, r.payment = some p → p.Valid := by
  obtain ⟨hr, hk⟩ := hb.keepsValid (hw.subscriptions id)
  obtain ⟨hpay, hstored⟩ := hb.payment_stored
  refine ⟨hw.of_keepsValid hk hpay, hr, fun p hp => ?_⟩
  obtain ⟨k, hk⟩ := hstored p hp
  exact hw.payments k p hk

theorem Begun.submitting_valid {s : Subscription} {p : PaymentAttempt} (hw : w.Valid)
    (hb : Begun e id now w (.ok (.submitting s p) w')) : s.Valid ∧ p.Valid := by
  cases hb with
  | submitting _ _ amount elapsed hload hs hskip hp hgrace hx hm ha hprep =>
    have hsv := hw.subscriptions id s hs
    exact ⟨hsv, preparePayment_valid hw.payments hsv (resolveAmount_valid e hsv.amount ha) hprep⟩

/-- The payment a run decides on is the submitted one, moved to succeeded or failed along
with the provider's reference, and it is the payment the run answers with. -/
theorem Decided.payment_transition {s u : Subscription} {p q : PaymentAttempt}
    {reply : GatewayReply} {r : RunResult} (hd : Decided e s p reply now w u q r) :
    ∃ target ctx details ref r', (target = .succeeded ∨ target = .failed) ∧
      p.transition target ctx details ⟨none, some (Subscription.textValue ref), none⟩ = .ok (q, r') ∧
      r.payment = some q := by
  cases hd with
  | paid r q u hr hok hq hu =>
    obtain ⟨-, r', htr⟩ := movePayment_ok hq
    exact ⟨_, _, _, _, r', .inl rfl, htr, rfl⟩
  | retried r f d u hr hok hf hdec hretry hu =>
    obtain ⟨-, r', htr⟩ := movePayment_ok hf
    exact ⟨_, _, _, _, r', .inr rfl, htr, rfl⟩
  | delinquent r f d u hr hok hf hdec hretry hu =>
    obtain ⟨-, r', htr⟩ := movePayment_ok hf
    exact ⟨_, _, _, _, r', .inr rfl, htr, rfl⟩

/-- The payment a run decides to save is valid, and it is the payment the run answers with. -/
theorem Decided.payment_valid {s u : Subscription} {p q : PaymentAttempt} {reply : GatewayReply}
    {r : RunResult} (hp : p.Valid) (hd : Decided e s p reply now w u q r) :
    q.Valid ∧ r.payment = some q := by
  obtain ⟨target, ctx, details, ref, r', -, htr, hq⟩ := hd.payment_transition
  exact ⟨hp.transition (PaymentChanges.reference_valid ref) htr, hq⟩

theorem Finished.valid {s : Subscription} {p : PaymentAttempt} {reply : GatewayReply}
    {res : EStateM.Result Error World RunResult} (hw : w.Valid) (hs : s.Valid) (hp : p.Valid)
    (hf : Finished e s p reply now w res) :
    (worldOf res).Valid ∧
      ∀ r w', res = .ok r w' → r.subscription.Valid ∧ ∀ q, r.payment = some q → q.Valid := by
  cases hf with
  | failed err => exact ⟨hw, fun _ _ h => nomatch h⟩
  | halfSaved u q r m hd hpay hsub =>
    exact ⟨hw.storePayment (hd.payment_valid hp).1, fun _ _ h => nomatch h⟩
  | saved u q r hd hpay hsub =>
    obtain ⟨hu, hru⟩ := hd.valid hs
    obtain ⟨hq, hrq⟩ := hd.payment_valid hp
    refine ⟨(hw.storePayment hq).storeSubscription hu, fun r' w' h => ?_⟩
    cases h
    refine ⟨hru ▸ hu, fun q' hq' => ?_⟩
    rw [hrq] at hq'
    cases hq'
    exact hq

/-- A billing run keeps a repository of valid snapshots valid, whether it returns or fails,
and answers with a valid subscription and, if any, a valid payment. -/
theorem run_valid (e : Engine) (id : String) (now : DateTime) (hw : w.Valid) :
    (worldOf ((e.run id now).run w)).Valid ∧
      ∀ r w', (e.run id now).run w = .ok r w' →
        r.subscription.Valid ∧ ∀ p, r.payment = some p → p.Valid := by
  have hpaths := run_paths e id now w
  generalize (e.run id now).run w = res at hpaths ⊢
  cases hpaths with
  | failed err => exact ⟨hw, fun _ _ h => nomatch h⟩
  | stopped r w' hb =>
    obtain ⟨hw', hr⟩ := hb.finished_valid hw
    exact ⟨hw', fun _ _ h => by cases h; exact hr⟩
  | cancelled s p res hb ht hf =>
    obtain ⟨hs, hp⟩ := hb.submitting_valid hw
    exact hf.valid hw hs hp
  | called s p res hb ht hf hres =>
    obtain ⟨hs, hp⟩ := hb.submitting_valid hw
    exact hf.valid (hw.afterCall _) hs hp

end Engine

/-- Every operation of the package keeps its snapshots valid, although none of them checks
what it builds. Payments: a checked status change, with failure details and with updates of
the kinds the package makes, and a recorded refund. Subscriptions: a checked status change,
creation from a valid amount and cycle on a date of the calendar, a start, the end of a
trial at a time on a date of the calendar, a pause, a resumption, a cancellation and a
refund. Billing runs: from a repository of valid snapshots, whatever the time, the
collaborators and the gateway's answers, the repository the run leaves is valid whether it
returns or fails, and it answers with a valid subscription and, if any, a valid payment. -/
theorem snapshots_stay_valid :
    (∀ (p q : PaymentAttempt) (target : PaymentStatus) (ctx : TransitionContext)
        (details : Option FailureDetails) (changes : PaymentChanges) (r : TransitionResult),
      p.Valid → changes.Valid → p.transition target ctx details changes = .ok (q, r) → q.Valid) ∧
    (∀ (p q : PaymentAttempt) (amount : Money) (at_ : DateTime) (reason : Option String)
        (actor refundId : String) (r : TransitionResult),
      p.Valid → p.recordRefund amount at_ reason actor refundId = .ok (q, r) → q.Valid) ∧
    (∀ (s u : Subscription) (target : SubscriptionStatus) (ctx : TransitionContext)
        (r : TransitionResult),
      s.Valid → s.transition target ctx = .ok (u, r) → u.Valid) ∧
    (∀ (settings : Settings) (id customer : Value) (amount : Money) (cycle : Cycle) (start : Date)
        (paymentMethod plan : Option String) (metadata : Fields) (s : Subscription),
      amount.Valid → cycle.Valid → start.isValid = true →
      Subscription.create settings id customer amount cycle start paymentMethod plan metadata = .ok s →
      s.Valid) ∧
    (∀ (s u : Subscription) (now : DateTime) (trialDays : Int) (paid actor : Value),
      s.Valid → s.start now trialDays paid actor = .ok u → u.Valid) ∧
    (∀ (s u : Subscription) (now : DateTime) (paid actor : Value),
      s.Valid → now.date.isValid = true → s.endTrial now paid actor = .ok u → u.Valid) ∧
    (∀ (s u : Subscription) (now : DateTime) (reason actor : Value),
      s.Valid → (s.pause now reason actor = .ok u ∨ s.resume now reason actor = .ok u ∨
        s.cancel now reason actor = .ok u) → u.Valid) ∧
    (∀ (s u : Subscription) (now : DateTime) (approved reason actor : Value),
      s.Valid → s.refund now approved reason actor = .ok u → u.Valid) ∧
    (∀ (e : Engine) (id : String) (now : DateTime) (w : World), w.Valid →
      (worldOf ((e.run id now).run w)).Valid ∧
        ∀ r w', (e.run id now).run w = .ok r w' →
          r.subscription.Valid ∧ ∀ p, r.payment = some p → p.Valid) := by
  refine ⟨fun p q target ctx details changes r hp hc h => hp.transition hc h,
    fun p q amount at_ reason actor refundId r hp h => hp.recordRefund h,
    fun s u target ctx r hs h => hs.transition h,
    fun settings id customer amount cycle start paymentMethod plan metadata s ha hc hstart h =>
      Subscription.create_valid ha hc hstart h,
    fun s u now trialDays paid actor hs h => Subscription.start_valid hs h,
    fun s u now paid actor hs hnow h => Subscription.endTrial_valid hs hnow h,
    fun s u now reason actor hs h => ?_,
    fun s u now approved reason actor hs h => Subscription.refund_valid hs h,
    fun e id now w hw => Engine.run_valid e id now hw⟩
  rcases h with h | h | h
  · exact Subscription.pause_valid hs h
  · exact Subscription.resume_valid hs h
  · exact Subscription.cancel_valid hs h

/-- A monthly subscription of 20 USD in its first cycle, waiting for its first retry on
1 February 2024. -/
def retryDueSubscription : Subscription :=
  { (default : Subscription) with
    id := "sub_1"
    customer := "cust_1"
    paymentMethod := some "pm_card"
    amount := ⟨2000, "USD"⟩
    cycle := ⟨.monthly, none, none⟩
    status := .retry
    period := ⟨⟨2024, 1, 1⟩, ⟨2024, 1, 31⟩, 1⟩
    retry := ⟨1, 3, some ⟨⟨2024, 2, 1⟩, 9, 0, 0, 0, some 0⟩, some .retriable, 0, 1⟩
    lastPayment := some "pay_1" }

/-- Its first charge, declined once. -/
def declinedCharge : PaymentAttempt :=
  ⟨"pay_1", "sub_1", ⟨2000, "USD"⟩, .failed, 1, .int 1, .null,
    some ⟨.retriable, true, some "card_declined", none, some "402", ⟨⟨2024, 1, 31⟩, 9, 0, 0, 0, some 0⟩⟩,
    [], [], ⟨⟨2024, 1, 31⟩, 9, 0, 0, 0, some 0⟩⟩

/-- The repository holding both, with no collaborator failing and a gateway that times out. -/
def retryDueWorld : World :=
  ⟨[("sub_1", retryDueSubscription)], [("pay_1", declinedCharge)], ⟨none, none, none, none⟩,
    [.timeout], 0, [], []⟩

/-- The repository is valid, so the retry run on 1 February keeps it valid. -/
theorem retry_run_stays_valid :
    retryDueWorld.Valid ∧
      (worldOf (((⟨.int 3, .int 30, .int 1, none, none, none⟩ : Engine).run "sub_1"
        ⟨⟨2024, 2, 1⟩, 9, 0, 0, 0, some 0⟩).run retryDueWorld)).Valid ∧
      ∀ r w', ((⟨.int 3, .int 30, .int 1, none, none, none⟩ : Engine).run "sub_1"
          ⟨⟨2024, 2, 1⟩, 9, 0, 0, 0, some 0⟩).run retryDueWorld = .ok r w' →
        r.subscription.Valid ∧ ∀ p, r.payment = some p → p.Valid := by
  -- the currency check reads the case tables, which the kernel evaluates
  have hamount : (⟨2000, "USD"⟩ : Money).Valid := by
    unfold Money.Valid
    decide +kernel
  have hw : retryDueWorld.Valid := by
    refine ⟨fun k s hs => ?_, fun k p hp => ?_⟩
    · unfold retryDueWorld List.lookup at hs
      split at hs
      · cases hs
        refine ⟨hamount, ⟨(fun n hn => nomatch hn), (fun a ha => nomatch ha), rfl, by decide⟩,
          ⟨by decide, by decide, by decide, by decide⟩, ⟨by decide, by decide, by decide, by decide⟩⟩
      · cases hs
    · unfold retryDueWorld List.lookup at hp
      split at hp
      · cases hp
        exact ⟨hamount, by decide, ⟨1, by decide, rfl⟩, ⟨none, rfl⟩, rfl, fun _ hf => nomatch hf⟩
      · cases hp
  exact ⟨hw, snapshots_stay_valid.2.2.2.2.2.2.2.2 _ _ _ _ hw⟩

end Billing
