import Billing.Proofs.Engine.Validity
import Billing.Proofs.Status.History

/-! # Refund accounting

A payment records each refund it takes, and its status says how much of it was refunded: a
refund moves a settled payment to partially refunded, and to refunded once the refunds make
up its amount. Refunds are checked against those recorded, so they never add up to more than
was paid, and a payment holds refunds only in a refund status (`Accounted`). A status change
to a refund status checks the refund amount in its context the same way but records nothing,
so a payment can be refunded while its refunds fall short of its amount
(`refunded_without_refunds`); where only recorded refunds move a payment to a refund status,
its status and its refunds agree both ways (`Reconciled`).

Main statement: `refunds_agree_with_status`, over any calls made one after another on a new
payment. -/

namespace Billing

namespace Money

theorem foldlM_add {c : String} (xs : List Money) (hc : ∀ m ∈ xs, m.currency = c) (n : Int) :
    xs.foldlM Money.add ⟨n, c⟩ = .ok ⟨n + (xs.map (·.amount)).sum, c⟩ := by
  induction xs generalizing n with
  | nil => simp [pure, Except.pure]
  | cons m xs ih =>
    have hm : m.currency = c := hc m List.mem_cons_self
    have hadd : Money.add ⟨n, c⟩ m = .ok ⟨n + m.amount, c⟩ := by
      simp [Money.add, Money.sameCurrency, hm, Money.withAmount, bind, Except.bind, pure, Except.pure]
    rw [List.foldlM_cons, hadd]
    have := ih (fun x hx => hc x (List.mem_cons_of_mem m hx)) (n + m.amount)
    simp only [bind, Except.bind, this, List.map_cons, List.sum_cons, Int.add_assoc]

/-- Amounts of one valid currency add up, in that currency, to the sum of their minor
units. -/
theorem sum_in {c : String} (hv : currencyOf (.str c) = .ok c) (xs : List Money)
    (hc : ∀ m ∈ xs, m.currency = c) :
    Money.sum xs (some (.str c)) = .ok ⟨(xs.map (·.amount)).sum, c⟩ := by
  have hzero : Money.zero (.str c) = .ok ⟨0, c⟩ := Money.zero_of_valid (m := ⟨0, c⟩) hv
  cases xs with
  | nil => simpa [Money.sum] using hzero
  | cons m xs =>
    -- a valid code has three letters, so it is no empty text to fall back from
    have hlen : c.length = 3 := by
      simp only [currencyOf] at hv
      by_contra hne
      rw [if_pos hne] at hv
      cases hv
    have hne : (Value.str c).isFalsy = false := by
      simp [Value.isFalsy]
      intro h
      simp [h] at hlen
    simp only [Money.sum, hne, Bool.false_eq_true, if_false, bind, Except.bind, hzero]
    rw [foldlM_add _ hc 0, Int.zero_add]

end Money

/-- Out of a refund status, the only step is the full refund. -/
theorem PaymentStatus.Step.isRefund {a b : PaymentStatus} (h : PaymentStatus.Step a b)
    (ha : a.isRefund = true) : b.isRefund = true := by
  obtain ⟨-, hmem⟩ := h.mem_next
  cases a <;> simp_all [PaymentStatus.isRefund, PaymentStatus.next]

namespace PaymentAttempt

/-- The minor units that the recorded refunds add up to. -/
def refunded (p : PaymentAttempt) : Int := (p.refunds.map fun f => f.amount.amount).sum

variable {p q : PaymentAttempt} {target : PaymentStatus} {ctx : TransitionContext}
  {details : Option FailureDetails} {changes : PaymentChanges} {r : TransitionResult}

/-- A checked status change either asks for the current status and changes nothing, or takes
a step of the payment graph to its target with the changes made; a refund target then also
passed the refund check. -/
theorem transition_cases (h : p.transition target ctx details changes = .ok (q, r)) :
    (q = p ∧ target = p.status) ∨
      (PaymentStatus.Step p.status target ∧ q.status = target ∧ q.amount = p.amount ∧
        q.refunds = changes.refunds.getD p.refunds ∧
        (target.isRefund = true → ∃ r', p.checkRefund target ctx = .ok r' ∧ r'.valid = true)) := by
  rcases transition_spec h with hsame | ⟨hvalid, hnoop, hrefund, change, -, -, rfl⟩
  · exact .inl hsame
  · exact .inr ⟨PaymentStatus.step_of_validate hvalid hnoop, rfl, rfl, rfl, hrefund⟩

section Checked

/-! The refund checks of a payment whose refunds are all in its own currency, a valid one:
they compute with the recorded refunds and never fail themselves. -/

variable (hv : p.amount.Valid) (hc : ∀ f ∈ p.refunds, f.amount.currency = p.amount.currency)
include hv hc

theorem totalRefunded_eq : p.totalRefunded = .ok ⟨p.refunded, p.amount.currency⟩ := by
  have hall : ∀ m ∈ p.refunds.map (·.amount), m.currency = p.amount.currency := by
    intro m hm
    obtain ⟨f, hf, rfl⟩ := List.mem_map.mp hm
    exact hc f hf
  rw [totalRefunded, Money.sum_in hv _ hall, List.map_map]
  rfl

theorem refundable_eq : p.refundable = .ok ⟨p.amount.amount - p.refunded, p.amount.currency⟩ := by
  simp [refundable, totalRefunded_eq hv hc, Money.sub, Money.sameCurrency, Money.withAmount, bind,
    Except.bind, pure, Except.pure]

/-- The refund check answers, and accepts only a positive refund in the payment's currency
within what is left to refund, asking for the full refund exactly when it makes up the rest
of the amount. -/
theorem refundTarget_accepts (x : Money) :
    ∃ v, p.refundTarget x = .ok v ∧ ∀ total target, v = .ok (total, target) →
      x.currency = p.amount.currency ∧ 0 < x.amount ∧ p.refunded + x.amount ≤ p.amount.amount ∧
      total = ⟨p.refunded + x.amount, p.amount.currency⟩ ∧
      target = if p.refunded + x.amount = p.amount.amount then .refunded else .partiallyRefunded := by
  unfold refundTarget
  by_cases hcur : x.currency = p.amount.currency
  · by_cases hpos : x.amount ≤ 0
    · simp [hcur, hpos, pure, Except.pure]
    · have hcmp : x.compareTo ⟨p.amount.amount - p.refunded, p.amount.currency⟩ =
          .ok (compare x.amount (p.amount.amount - p.refunded)) := by
        simp [Money.compareTo, Money.sameCurrency, hcur, bind, Except.bind, pure, Except.pure]
      have hadd : Money.add ⟨p.refunded, p.amount.currency⟩ x =
          .ok ⟨p.refunded + x.amount, p.amount.currency⟩ := by
        simp [Money.add, Money.sameCurrency, hcur, Money.withAmount, bind, Except.bind, pure,
          Except.pure]
      rw [if_neg (not_not_intro hcur), if_neg hpos]
      simp only [refundable_eq hv hc, bind, Except.bind, hcmp, totalRefunded_eq hv hc, hadd, pure,
        Except.pure]
      split
      · refine ⟨_, rfl, fun total target h => ?_⟩
        cases h
      · rename_i hgt
        refine ⟨_, rfl, fun total target h => ?_⟩
        cases h
        have hle : x.amount ≤ p.amount.amount - p.refunded := by
          rw [compare_gt_iff_gt] at hgt
          omega
        refine ⟨hcur, by omega, by omega, rfl, ?_⟩
        by_cases heq : p.refunded + x.amount = p.amount.amount
        · simp [heq]
        · have hne : (⟨p.refunded + x.amount, p.amount.currency⟩ : Money) ≠ p.amount := by
            intro h
            rw [← h] at heq
            exact heq rfl
          simp [hne, heq]
  · simp [hcur, pure, Except.pure]

theorem checkRefund_accepts (target : PaymentStatus) (ctx : TransitionContext) :
    ∃ r, p.checkRefund target ctx = .ok r ∧ (r.valid = true →
      ∃ x total, ctx.refundAmount = some x ∧ p.refundTarget x = .ok (.ok (total, target))) := by
  unfold checkRefund
  cases hx : ctx.refundAmount with
  | none => exact ⟨_, rfl, fun h => by cases h⟩
  | some x =>
    obtain ⟨v, hv', -⟩ := refundTarget_accepts hv hc x
    simp only [bind, Except.bind, hv', pure, Except.pure]
    split
    · exact ⟨_, rfl, fun h => by cases h⟩
    · rename_i _ total expected
      split
      · exact ⟨_, rfl, fun h => by cases h⟩
      · rename_i hne
        refine ⟨_, rfl, fun _ => ⟨x, total, rfl, ?_⟩⟩
        rw [hv', not_not.mp hne]

/-- A refund that went through was positive, in the payment's currency and within what was
left to refund; it is recorded, and the payment is in the refund status its new total calls
for. -/
theorem recordRefund_ok {x : Money} {at_ : DateTime} {reason : Option String}
    {actor refundId : String} (h : p.recordRefund x at_ reason actor refundId = .ok (q, r)) :
    x.currency = p.amount.currency ∧ 0 < x.amount ∧ p.refunded + x.amount ≤ p.amount.amount ∧
      q.amount = p.amount ∧ q.refunds = p.refunds ++ [⟨refundId, x, at_, reason⟩] ∧
      q.status = if p.refunded + x.amount = p.amount.amount then .refunded else .partiallyRefunded := by
  obtain ⟨v, hv', hfacts⟩ := refundTarget_accepts hv hc x
  unfold recordRefund at h
  simp only [bind, Except.bind, hv'] at h
  split at h
  · cases h
  · rename_i _ total target
    obtain ⟨hcur, hpos, hle, -, htarget⟩ := hfacts total target rfl
    refine ⟨hcur, hpos, hle, ?_⟩
    split at h
    · -- the payment is already in that status: the refund is only recorded
      rename_i hsame
      cases h
      exact ⟨rfl, rfl, hsame.symm.trans htarget⟩
    · rename_i hne
      rcases transition_cases h with ⟨-, hsame⟩ | ⟨-, hst, hamt, hrefunds, -⟩
      · exact absurd hsame hne
      · exact ⟨hamt, hrefunds, hst.trans htarget⟩

/-- A status change is refused only as a payment state error: the refund check itself never
fails. -/
theorem transition_refused {err : Error} (h : p.transition target ctx details changes = .error err) :
    ∃ e, err = .billing e ∧ e.kind = .paymentState := by
  unfold transition at h
  simp only [bind, Except.bind, pure, Except.pure] at h
  split at h
  · obtain ⟨r', hr', -⟩ := checkRefund_accepts hv hc target ctx
    split at h
    · rename_i _ e he
      rw [hr'] at he
      cases he
    · split at h
      · cases h
        exact ⟨_, rfl, rfl⟩
      · split at h <;> cases h
  · split at h
    · cases h
      exact ⟨_, rfl, rfl⟩
    · split at h <;> cases h

/-- A refund is refused only as a refund error or, when the status change it makes is
refused, as a payment state error. -/
theorem recordRefund_refused {x : Money} {at_ : DateTime} {reason : Option String}
    {actor refundId : String} {err : Error}
    (h : p.recordRefund x at_ reason actor refundId = .error err) :
    ∃ e, err = .billing e ∧ (e.kind = .paymentState ∨ e.kind = .refund) := by
  obtain ⟨v, hv', -⟩ := refundTarget_accepts hv hc x
  unfold recordRefund at h
  simp only [bind, Except.bind, hv'] at h
  split at h
  · cases h
    exact ⟨_, rfl, .inr rfl⟩
  · split at h
    · cases h
    · obtain ⟨e, rfl, he⟩ := transition_refused hv hc h
      exact ⟨e, rfl, .inl he⟩

end Checked

end PaymentAttempt

/-- A call a caller makes on a payment: a checked status change with any context, failure
details and new submission count and provider reference, or a refund. -/
inductive PaymentCall where
  | transition (target : PaymentStatus) (ctx : TransitionContext) (details : Option FailureDetails)
      (submissions providerRef : Option Value)
  | refund (amount : Money) (at_ : DateTime) (reason : Option String) (actor refundId : String)

namespace PaymentCall

/-- What the call answers on a payment. -/
def apply : PaymentCall → PaymentAttempt → Outcome (PaymentAttempt × TransitionResult)
  | .transition target ctx details submissions providerRef, p =>
    p.transition target ctx details ⟨submissions, providerRef, none⟩
  | .refund amount at_ reason actor refundId, p => p.recordRefund amount at_ reason actor refundId

/-- Whether the call is a status change to a refund status: it checks the refund amount of
its context against the recorded refunds, but records no refund. -/
def direct : PaymentCall → Bool
  | .transition target .. => target.isRefund
  | .refund .. => false

/-- The payment a call leaves: its result, or the payment as it was when the call is
refused. -/
def next (c : PaymentCall) (p : PaymentAttempt) : PaymentAttempt :=
  match c.apply p with
  | .ok (q, _) => q
  | .error _ => p

/-- The payment that calls made one after another leave. -/
def replay (p : PaymentAttempt) (calls : List PaymentCall) : PaymentAttempt :=
  calls.foldl (fun p c => c.next p) p

@[simp] theorem replay_nil (p : PaymentAttempt) : replay p [] = p := rfl

@[simp] theorem replay_cons (p : PaymentAttempt) (c : PaymentCall) (calls : List PaymentCall) :
    replay p (c :: calls) = replay (c.next p) calls := rfl

end PaymentCall

namespace PaymentAttempt

/-- What the refunds of a payment amount to: each in the payment's currency, which is a valid
one, and positive; within the amount once there is one; held only in a refund status; and
short of the amount while the payment is partially refunded. -/
structure Accounted (p : PaymentAttempt) : Prop where
  valid : p.amount.Valid
  currency : ∀ f ∈ p.refunds, f.amount.currency = p.amount.currency
  positive : ∀ f ∈ p.refunds, 0 < f.amount.amount
  within : p.refunds = [] ∨ p.refunded ≤ p.amount.amount
  refund_status : p.refunds ≠ [] → p.status.isRefund = true
  partial_short : p.status = .partiallyRefunded → p.refunded < p.amount.amount

/-- The accounts of a payment that only recorded refunds ever moved to a refund status: on
top of `Accounted`, a refund status holds refunds, and a refunded payment's refunds make up
its amount. -/
structure Reconciled (p : PaymentAttempt) : Prop extends p.Accounted where
  recorded : p.status.isRefund = true → p.refunds ≠ []
  full : p.status = .refunded → p.refunded = p.amount.amount

/-- A payment as it is opened: pending, with nothing refunded, in a valid currency. -/
structure Fresh (p : PaymentAttempt) : Prop where
  pending : p.status = .pending
  no_refunds : p.refunds = []
  valid : p.amount.Valid

variable {p q : PaymentAttempt} {target : PaymentStatus} {ctx : TransitionContext}
  {details : Option FailureDetails} {r : TransitionResult}

theorem Fresh.reconciled (h : p.Fresh) : p.Reconciled where
  valid := h.valid
  currency := by simp [h.no_refunds]
  positive := by simp [h.no_refunds]
  within := .inl h.no_refunds
  refund_status := fun hne => absurd h.no_refunds hne
  partial_short := fun hs => by rw [h.pending] at hs; cases hs
  recorded := fun hs => by rw [h.pending] at hs; cases hs
  full := fun hs => by rw [h.pending] at hs; cases hs

namespace Accounted

/-- A refund status passed the refund check only for a positive refund within the amount,
and it is the full refund exactly when the refund makes up the rest of the amount. -/
theorem refund_checked (ha : p.Accounted) {r' : TransitionResult}
    (hcheck : p.checkRefund target ctx = .ok r') (hvalid : r'.valid = true) :
    ∃ x : Money, 0 < x.amount ∧ p.refunded + x.amount ≤ p.amount.amount ∧
      target = if p.refunded + x.amount = p.amount.amount then .refunded else .partiallyRefunded := by
  obtain ⟨r'', hr'', hrefund⟩ := checkRefund_accepts ha.valid ha.currency target ctx
  rw [hr''] at hcheck
  cases hcheck
  obtain ⟨x, total, -, hx⟩ := hrefund hvalid
  obtain ⟨v, hv, hfacts⟩ := refundTarget_accepts ha.valid ha.currency x
  rw [hv] at hx
  cases hx
  obtain ⟨-, hpos, hle, -, htarget⟩ := hfacts total target rfl
  exact ⟨x, hpos, hle, htarget⟩

/-- A checked status change that changes no refunds keeps the accounts: a refund status it
moves to passed the refund check against the recorded refunds. -/
theorem transition (ha : p.Accounted) {submissions providerRef : Option Value}
    (h : p.transition target ctx details ⟨submissions, providerRef, none⟩ = .ok (q, r)) :
    q.Accounted := by
  rcases transition_cases h with ⟨rfl, -⟩ | ⟨hstep, hst, hamt, hrefunds, hcheck⟩
  · exact ha
  · have hrefunds : q.refunds = p.refunds := hrefunds
    have hsum : q.refunded = p.refunded := by simp only [refunded, hrefunds]
    refine ⟨hamt ▸ ha.valid, ?_, ?_, ?_, fun hq => ?_, fun hq => ?_⟩
    · rw [hrefunds, hamt]
      exact ha.currency
    · rw [hrefunds]
      exact ha.positive
    · rw [hrefunds, hsum, hamt]
      exact ha.within
    · -- refunds were held before, so the payment was in a refund status, which only moves on to one
      rw [hst]
      exact hstep.isRefund (ha.refund_status (hrefunds ▸ hq))
    · rw [hst] at hq
      subst hq
      obtain ⟨r', hr', hvalid⟩ := hcheck rfl
      obtain ⟨x, hpos, hle, htarget⟩ := ha.refund_checked hr' hvalid
      rw [hsum, hamt]
      split at htarget
      · cases htarget
      · omega

/-- A recorded refund keeps the accounts. -/
theorem recordRefund (ha : p.Accounted) {x : Money} {at_ : DateTime} {reason : Option String}
    {actor refundId : String} (h : p.recordRefund x at_ reason actor refundId = .ok (q, r)) :
    q.Accounted := by
  obtain ⟨hcur, hpos, hle, hamt, hrefunds, hst⟩ := recordRefund_ok ha.valid ha.currency h
  have hsum : q.refunded = p.refunded + x.amount := by simp [refunded, hrefunds]
  refine ⟨hamt ▸ ha.valid, fun f hf => ?_, fun f hf => ?_, .inr (by rw [hsum, hamt]; exact hle),
    fun _ => by rw [hst]; split <;> rfl, fun hq => ?_⟩
  · rw [hrefunds, List.mem_append, List.mem_singleton] at hf
    rcases hf with hf | rfl
    · rw [hamt]
      exact ha.currency f hf
    · rw [hamt]
      exact hcur
  · rw [hrefunds, List.mem_append, List.mem_singleton] at hf
    rcases hf with hf | rfl
    · exact ha.positive f hf
    · exact hpos
  · rw [hst] at hq
    rw [hsum, hamt]
    split at hq
    · cases hq
    · omega

theorem call (ha : p.Accounted) {c : PaymentCall} (h : c.apply p = .ok (q, r)) : q.Accounted := by
  cases c with
  | transition target ctx details submissions providerRef => exact ha.transition h
  | refund x at_ reason actor refundId => exact ha.recordRefund h

/-- A call keeps the accounts, whether it succeeds or is refused. -/
theorem next (ha : p.Accounted) (c : PaymentCall) : (c.next p).Accounted := by
  unfold PaymentCall.next
  split
  · exact ha.call ‹_›
  · exact ha

theorem replay (ha : p.Accounted) (calls : List PaymentCall) : (PaymentCall.replay p calls).Accounted := by
  induction calls generalizing p with
  | nil => exact ha
  | cons c calls ih => exact ih (ha.next c)

/-- Every call on an accounted payment succeeds, or is refused as a payment state error or a
refund error. -/
theorem answers (ha : p.Accounted) (c : PaymentCall) :
    (∃ q r, c.apply p = .ok (q, r)) ∨
      ∃ e, c.apply p = .error (.billing e) ∧ (e.kind = .paymentState ∨ e.kind = .refund) := by
  cases h : c.apply p with
  | ok v => exact .inl ⟨v.1, v.2, rfl⟩
  | error err =>
    refine .inr ?_
    cases c with
    | transition target ctx details submissions providerRef =>
      obtain ⟨e, rfl, he⟩ := transition_refused ha.valid ha.currency h
      exact ⟨e, rfl, .inl he⟩
    | refund x at_ reason actor refundId =>
      obtain ⟨e, rfl, he⟩ := recordRefund_refused ha.valid ha.currency h
      exact ⟨e, rfl, he⟩

theorem refunded_pos (ha : p.Accounted) (hne : p.refunds ≠ []) : 0 < p.refunded :=
  List.sum_pos _ (fun n hn => by
    obtain ⟨f, hf, rfl⟩ := List.mem_map.mp hn
    exact ha.positive f hf) (by simpa using hne)

end Accounted

namespace Reconciled

/-- A checked status change to a status that is not a refund status keeps the accounts
reconciled: a payment holding refunds is in a refund status, which moves on to no other. -/
theorem transition (hp : p.Reconciled) {submissions providerRef : Option Value}
    (hr : target.isRefund = false)
    (h : p.transition target ctx details ⟨submissions, providerRef, none⟩ = .ok (q, r)) :
    q.Reconciled := by
  have hq := hp.toAccounted.transition h
  rcases transition_cases h with ⟨rfl, -⟩ | ⟨-, hst, -, -, -⟩
  · exact hp
  · have hst' : q.status.isRefund = false := hst ▸ hr
    refine ⟨hq, fun h' => absurd h' (by simp [hst']), fun h' => ?_⟩
    rw [h'] at hst'
    cases hst'

/-- A recorded refund keeps the accounts reconciled. -/
theorem recordRefund (hp : p.Reconciled) {x : Money} {at_ : DateTime} {reason : Option String}
    {actor refundId : String} (h : p.recordRefund x at_ reason actor refundId = .ok (q, r)) :
    q.Reconciled := by
  obtain ⟨-, -, -, hamt, hrefunds, hst⟩ := recordRefund_ok hp.valid hp.currency h
  refine ⟨hp.toAccounted.recordRefund h, fun _ => by simp [hrefunds], fun hq => ?_⟩
  rw [hst] at hq
  split at hq
  · rename_i hfull
    simp only [refunded, hrefunds, hamt, List.map_append, List.sum_append, List.map_cons,
      List.map_nil, List.sum_cons, List.sum_nil, Int.add_zero]
    exact hfull
  · cases hq

/-- A call other than a status change to a refund status keeps the accounts reconciled. -/
theorem next (hp : p.Reconciled) {c : PaymentCall} (hd : c.direct = false) : (c.next p).Reconciled := by
  unfold PaymentCall.next
  split
  · rename_i q r hc
    cases c with
    | transition target ctx details submissions providerRef => exact hp.transition hd hc
    | refund x at_ reason actor refundId => exact hp.recordRefund hc
  · exact hp

theorem replay (hp : p.Reconciled) {calls : List PaymentCall} (hd : ∀ c ∈ calls, c.direct = false) :
    (PaymentCall.replay p calls).Reconciled := by
  induction calls generalizing p with
  | nil => exact hp
  | cons c calls ih =>
    exact ih (hp.next (hd c List.mem_cons_self)) (fun c' hc' => hd c' (List.mem_cons_of_mem c hc'))

end Reconciled

/-- Refund accounting over any calls made one after another on a new payment, a refused call
leaving the payment as it was. The recorded refunds total nothing, or a positive amount
within the payment's amount; they are held only in a refund status; a partially refunded
payment is short of its amount; and every call either succeeds or is refused as a payment
state error or a refund error. Where no call was a status change to a refund status, a
refund status holds refunds, a refunded payment's refunds make up its amount, and a
partially refunded one's are positive. -/
theorem refunds_agree_with_status {p₀ : PaymentAttempt} (h₀ : p₀.Fresh) (calls : List PaymentCall) :
    let p := PaymentCall.replay p₀ calls
    (∃ total, p.totalRefunded = .ok total ∧ total.currency = p.amount.currency ∧
      ((p.refunds = [] ∧ total.amount = 0) ∨ (0 < total.amount ∧ total.amount ≤ p.amount.amount)) ∧
      (p.refunds ≠ [] → p.status.isRefund = true) ∧
      (p.status = .partiallyRefunded → total.amount < p.amount.amount) ∧
      ((∀ c ∈ calls, c.direct = false) →
        (p.status.isRefund = true → p.refunds ≠ []) ∧ (p.status = .refunded → total = p.amount) ∧
        (p.status = .partiallyRefunded → 0 < total.amount))) ∧
    ∀ c : PaymentCall, (∃ q r, c.apply p = .ok (q, r)) ∨
      ∃ e, c.apply p = .error (.billing e) ∧ (e.kind = .paymentState ∨ e.kind = .refund) := by
  intro p
  have ha : p.Accounted := h₀.reconciled.toAccounted.replay calls
  refine ⟨⟨⟨_, _⟩, totalRefunded_eq ha.valid ha.currency, rfl, ?_,
    ha.refund_status, ha.partial_short, fun hd => ?_⟩, ha.answers⟩
  · by_cases hne : p.refunds = []
    · exact .inl ⟨hne, by simp [refunded, hne]⟩
    · exact .inr ⟨ha.refunded_pos hne, ha.within.resolve_left hne⟩
  · have hr : p.Reconciled := h₀.reconciled.replay hd
    refine ⟨hr.recorded, fun hs => ?_, fun hs => ha.refunded_pos (hr.recorded (by rw [hs]; rfl))⟩
    rw [hr.full hs]

/-- A new payment of 1000 TWD, opened on 2024-03-01 at 09:00 UTC. -/
def openedCharge : PaymentAttempt :=
  ⟨"pay_1", "sub_1", ⟨1000, "TWD"⟩, .pending, 1, .int 0, .null, none, [], [],
    ⟨⟨2024, 3, 1⟩, 9, 0, 0, 0, some 0⟩⟩

theorem openedCharge_fresh : openedCharge.Fresh :=
  ⟨rfl, rfl, by unfold Money.Valid; decide +kernel⟩

/-- The calls that process a payment, settle it and then refund 300 of it. -/
def partRefundCalls : List PaymentCall :=
  let ctx := TransitionContext.basic none "system" ⟨⟨2024, 3, 1⟩, 9, 0, 0, 0, some 0⟩
  [.transition .processing ctx none none none, .transition .succeeded ctx none none none,
    .refund ⟨300, "TWD"⟩ ⟨⟨2024, 3, 2⟩, 9, 0, 0, 0, some 0⟩ none "system" "r_1"]

/-- The new payment processed, settled and refunded 300 of. -/
theorem part_refund_accounted :
    openedCharge.Fresh ∧
      let p := PaymentCall.replay openedCharge partRefundCalls
      (∃ total, p.totalRefunded = .ok total ∧ total.currency = p.amount.currency ∧
        ((p.refunds = [] ∧ total.amount = 0) ∨ (0 < total.amount ∧ total.amount ≤ p.amount.amount)) ∧
        (p.refunds ≠ [] → p.status.isRefund = true) ∧
        (p.status = .partiallyRefunded → total.amount < p.amount.amount) ∧
        ((∀ c ∈ partRefundCalls, c.direct = false) →
          (p.status.isRefund = true → p.refunds ≠ []) ∧ (p.status = .refunded → total = p.amount) ∧
          (p.status = .partiallyRefunded → 0 < total.amount))) ∧
      ∀ c : PaymentCall, (∃ q r, c.apply p = .ok (q, r)) ∨
        ∃ e, c.apply p = .error (.billing e) ∧ (e.kind = .paymentState ∨ e.kind = .refund) :=
  ⟨openedCharge_fresh, refunds_agree_with_status openedCharge_fresh partRefundCalls⟩

/-- A refund status reached by a status change records no refund: the new payment is
processed, settles, and is marked refunded with a refund amount of 1000 in the context,
after which it is refunded while its refunds total nothing. -/
theorem refunded_without_refunds :
    ∃ (p₀ : PaymentAttempt) (calls : List PaymentCall), p₀.Fresh ∧
      (PaymentCall.replay p₀ calls).status = .refunded ∧
      (PaymentCall.replay p₀ calls).amount = ⟨1000, "TWD"⟩ ∧
      (PaymentCall.replay p₀ calls).totalRefunded = .ok ⟨0, "TWD"⟩ := by
  let ctx := TransitionContext.basic none "system" ⟨⟨2024, 3, 1⟩, 9, 0, 0, 0, some 0⟩
  let calls : List PaymentCall := [.transition .processing ctx none none none,
    .transition .succeeded ctx none none none,
    .transition .refunded { ctx with refundAmount := some ⟨1000, "TWD"⟩ } none none none]
  have hempty : (PaymentCall.replay openedCharge calls).refunds = [] :=
    List.isEmpty_iff.mp (by decide +kernel)
  have hamt : (PaymentCall.replay openedCharge calls).amount = ⟨1000, "TWD"⟩ := by decide +kernel
  refine ⟨openedCharge, calls, openedCharge_fresh, by decide +kernel, hamt, ?_⟩
  rw [totalRefunded_eq (by rw [hamt]; exact openedCharge_fresh.valid) (by simp [hempty]), hamt]
  simp [refunded, hempty]

end PaymentAttempt

end Billing
