import Billing.Proofs.Engine.Validity

/-! # Valid payments

A payment is valid when its record passes the checks of a payment: an amount in a known
currency, a cycle number of at least 1, a submission count that is a whole number not below
zero, a provider reference that is text or nothing, failure details only while it is failed
or retrying, and refunds in known currencies. A status change copies the payment with its
updates and runs none of these checks, so a payment stays valid only because each update is
of a kind the checks accept (`PaymentChanges.Valid`) and the change itself keeps failure
details for failed and retrying payments alone (`Valid.transition`). A refund records an
amount in the payment's own currency (`Valid.recordRefund`). -/
namespace Billing

/-- An amount in the currency of a valid amount is valid: the check reads only the code. -/
theorem Money.Valid.of_currency {m m' : Money} (h : m.Valid) (hc : m'.currency = m.currency) :
    m'.Valid := by
  unfold Money.Valid at h ⊢
  rw [hc]
  exact h

/-- A payment as the checks of its record accept it. -/
structure PaymentAttempt.Valid (p : PaymentAttempt) : Prop where
  amount : p.amount.Valid
  numbered : 1 ≤ p.cycleNumber
  counted : ∃ n, 0 ≤ n ∧ p.submissions = .int n
  referenced : ∃ ref, p.providerRef = Subscription.textValue ref
  failure : (p.failure.isNone || PaymentAttempt.holdsFailure p.status) = true
  refunds : ∀ f ∈ p.refunds, f.amount.Valid

/-- Updates made along with a status change, of the kinds the checks of a payment accept: a
submission count that is a whole number not below zero, a provider reference that is text
or nothing, and refunds in known currencies. -/
structure PaymentChanges.Valid (c : PaymentChanges) : Prop where
  counted : ∀ v, c.submissions = some v → ∃ n, 0 ≤ n ∧ v = .int n
  referenced : ∀ v, c.providerRef = some v → ∃ ref, v = Subscription.textValue ref
  refunds : ∀ fs, c.refunds = some fs → ∀ f ∈ fs, f.amount.Valid

theorem PaymentChanges.none_valid : PaymentChanges.none.Valid where
  counted _ h := nomatch h
  referenced _ h := nomatch h
  refunds _ h := nomatch h

/-- A submission count not below zero, and nothing else, is a valid update. -/
theorem PaymentChanges.counted_valid {n : Int} (hn : 0 ≤ n) :
    (⟨some (.int n), Option.none, Option.none⟩ : PaymentChanges).Valid where
  counted _ h := ⟨n, hn, (Option.some.inj h).symm⟩
  referenced _ h := nomatch h
  refunds _ h := nomatch h

/-- A provider reference given as text or nothing, and nothing else, is a valid update. -/
theorem PaymentChanges.reference_valid (ref : Option String) :
    (⟨Option.none, some (Subscription.textValue ref), Option.none⟩ : PaymentChanges).Valid where
  counted _ h := nomatch h
  referenced _ h := ⟨ref, (Option.some.inj h).symm⟩
  refunds _ h := nomatch h

/-- Refunds in known currencies, and nothing else, are a valid update. -/
theorem PaymentChanges.refunds_valid {fs : List RefundRecord} (h : ∀ f ∈ fs, f.amount.Valid) :
    (⟨Option.none, Option.none, some fs⟩ : PaymentChanges).Valid where
  counted _ h := nomatch h
  referenced _ h := nomatch h
  refunds _ hfs := Option.some.inj hfs ▸ h

namespace PaymentAttempt

variable {p q : PaymentAttempt} {target : PaymentStatus} {ctx : TransitionContext}
  {details : Option FailureDetails} {changes : PaymentChanges} {r : TransitionResult}

/-- A status change with updates of valid kinds keeps a payment valid. -/
theorem Valid.transition (hp : p.Valid) (hc : changes.Valid)
    (h : p.transition target ctx details changes = .ok (q, r)) : q.Valid := by
  rcases transition_spec h with ⟨rfl, -⟩ | ⟨-, -, -, change, -, -, rfl⟩
  · exact hp
  refine ⟨hp.amount, hp.numbered, ?_, ?_, ?_, ?_⟩
  · cases hs : changes.submissions with
    | none => exact hp.counted
    | some v => simpa using hc.counted v hs
  · cases hr : changes.providerRef with
    | none => exact hp.referenced
    | some v =>
      obtain ⟨ref, rfl⟩ := hc.referenced v hr
      exact ⟨ref, rfl⟩
  · -- details are kept exactly when the target may hold them
    cases ht : holdsFailure target <;> simp
  · intro f hf
    cases hfs : changes.refunds with
    | none => exact hp.refunds f (by simpa [hfs] using hf)
    | some fs => exact hc.refunds fs hfs f (by simpa [hfs] using hf)

/-- A refund the checks let through is in the payment's currency. -/
theorem refundTarget_currency {x : Money} {v : Money × PaymentStatus}
    (h : p.refundTarget x = .ok (.ok v)) : x.currency = p.amount.currency := by
  unfold refundTarget at h
  by_contra hne
  simp [hne, pure, Except.pure] at h

/-- A refund in the payment's currency is recorded, either on its own when the payment is
already in the status the new total calls for, or with a checked status change. -/
theorem recordRefund_shape {x : Money} {at_ : DateTime} {reason : Option String}
    {actor refundId : String} (h : p.recordRefund x at_ reason actor refundId = .ok (q, r)) :
    x.currency = p.amount.currency ∧
      (q = { p with refunds := p.refunds ++ [⟨refundId, x, at_, reason⟩] } ∨
        ∃ target ctx, p.transition target ctx none
          ⟨none, none, some (p.refunds ++ [⟨refundId, x, at_, reason⟩])⟩ = .ok (q, r)) := by
  unfold recordRefund at h
  simp only [bind, Except.bind] at h
  split at h
  · cases h
  · rename_i hres
    split at h
    · cases h
    · refine ⟨refundTarget_currency hres, ?_⟩
      split at h
      · cases h
        exact .inl rfl
      · exact .inr ⟨_, _, h⟩

/-- A recorded refund keeps a payment valid. -/
theorem Valid.recordRefund (hp : p.Valid) {x : Money} {at_ : DateTime} {reason : Option String}
    {actor refundId : String} (h : p.recordRefund x at_ reason actor refundId = .ok (q, r)) :
    q.Valid := by
  obtain ⟨hcur, hq⟩ := recordRefund_shape h
  have hrefunds : ∀ f ∈ p.refunds ++ [⟨refundId, x, at_, reason⟩], f.amount.Valid := by
    intro f hf
    rcases List.mem_append.mp hf with hf | hf
    · exact hp.refunds f hf
    · rw [List.mem_singleton.mp hf]
      exact hp.amount.of_currency hcur
  rcases hq with rfl | ⟨target, ctx, htr⟩
  · exact ⟨hp.amount, hp.numbered, hp.counted, hp.referenced, hp.failure, hrefunds⟩
  · exact hp.transition (PaymentChanges.refunds_valid hrefunds) htr

end PaymentAttempt

end Billing
