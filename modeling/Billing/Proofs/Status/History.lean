import Billing.Proofs.Engine.Values

/-! # Status histories

Every status change of a subscription or a payment is recorded in its history, and the
history is a walk of the status graph (`StatusChange.Walk`): each entry leaves the status
the entry before it reached, along an edge of the graph, out of a status that is not
terminal, to another status. A checked status change appends exactly one such entry, or
nothing when it asks for the current status (`Subscription.transition_extends`). The
payment machine differs in one place: a succeeded payment is terminal for its charge, yet
still takes its refund edges (`PaymentStatus.Step`).

The commands of a caller on a subscription each make one checked status change and touch
the status and the history no other way (`Subscription.Changed.changesOnce`), so they
extend the history in the same way, and a terminal subscription refuses all of them. A
canceled payment refuses every change. A refunded one refuses every status change, but a
refund that keeps its status is recorded without the status check, so a refunded payment
still takes refunds (`PaymentAttempt.Changed.final`). -/
namespace Billing

namespace StatusChange

variable {σ : Type} (step : σ → σ → Prop)

/-- A status history that follows `step` from the status `a` to the status `b`: each change
leaves the status the change before it reached. -/
inductive Walk : σ → List (StatusChange σ) → σ → Prop
  | nil (a : σ) : Walk a [] a
  | cons {a b : σ} {c : StatusChange σ} {cs : List (StatusChange σ)} (hsource : c.source = a)
      (hstep : step a c.target) (rest : Walk c.target cs b) : Walk a (c :: cs) b

/-- The history `h'` ending at `b` continues the history `h` ending at `a` along `step`:
it appends to `h` a walk from `a` to `b`, empty when the status stayed. -/
def Continues (a : σ) (h : List (StatusChange σ)) (b : σ) (h' : List (StatusChange σ)) : Prop :=
  ∃ new, h' = h ++ new ∧ Walk step a new b

variable {step}

theorem Walk.append {a b d : σ} {cs ds : List (StatusChange σ)} (h₁ : Walk step a cs b)
    (h₂ : Walk step b ds d) : Walk step a (cs ++ ds) d := by
  induction h₁ with
  | nil a => exact h₂
  | cons hsource hstep rest ih => exact .cons hsource hstep (ih h₂)

theorem Walk.single {a : σ} {c : StatusChange σ} (hsource : c.source = a) (hstep : step a c.target) :
    Walk step a [c] c.target :=
  .cons hsource hstep (.nil _)

theorem Continues.refl (a : σ) (h : List (StatusChange σ)) : Continues step a h a h :=
  ⟨[], by simp, .nil a⟩

theorem Continues.trans {a b d : σ} {h h' h'' : List (StatusChange σ)} (h₁ : Continues step a h b h')
    (h₂ : Continues step b h' d h'') : Continues step a h d h'' := by
  obtain ⟨n₁, hh₁, hw₁⟩ := h₁
  obtain ⟨n₂, hh₂, hw₂⟩ := h₂
  exact ⟨n₁ ++ n₂, by rw [hh₂, hh₁, List.append_assoc], hw₁.append hw₂⟩

/-- A walk continued is a walk from the same start. -/
theorem Continues.walk {a₀ a b : σ} {h h' : List (StatusChange σ)} (hw : Walk step a₀ h a)
    (hc : Continues step a h b h') : Walk step a₀ h' b := by
  obtain ⟨new, rfl, hnew⟩ := hc
  exact hw.append hnew

end StatusChange

namespace StatusGraph

variable {σ : Type} [DecidableEq σ] [StatusSet σ] (g : StatusGraph σ)

/-- An edge of the graph out of a status that is not terminal, to another status. -/
def Edge (a b : σ) : Prop := g.terminal a = false ∧ a ≠ b ∧ b ∈ g.next a

variable {g}

/-- A change that validation allows, and that does not ask for the current status, follows
an edge of the graph. -/
theorem edge_of_validate {a b : σ} {ctx : TransitionContext} (hv : (g.validate a b ctx).valid = true)
    (hn : (g.validate a b ctx).noop = false) : g.Edge a b := by
  by_cases ht : g.terminal a = true
  · simp [validate, ht, TransitionResult.reject] at hv
  by_cases hab : a = b
  · subst hab
    simp [validate, ht, TransitionResult.unchanged] at hn
  by_cases hmem : b ∈ g.next a
  · exact ⟨by simpa using ht, hab, hmem⟩
  · simp [validate, ht, hab, hmem, TransitionResult.reject] at hv

end StatusGraph

namespace Subscription

/-- The history of `u` continues the history of `s`: it appends a walk of the status graph
from the status of `s` to the status of `u`, which is empty when the status stayed. -/
def Extends (s u : Subscription) : Prop :=
  StatusChange.Continues SubscriptionStatus.graph.Edge s.status s.history u.status u.history

variable {s t u : Subscription}

theorem Extends.refl (s : Subscription) : s.Extends s := StatusChange.Continues.refl _ _

theorem Extends.trans (h₁ : s.Extends t) (h₂ : t.Extends u) : s.Extends u :=
  StatusChange.Continues.trans h₁ h₂

/-- Only the status and the history matter to a continuation. -/
theorem Extends.congr {u' : Subscription} (h : s.Extends u) (hs : u'.status = u.status)
    (hh : u'.history = u.history) : s.Extends u' := by
  obtain ⟨new, hnew, hw⟩ := h
  exact ⟨new, hh ▸ hnew, hs ▸ hw⟩

/-- A checked status change appends one step along an edge of the graph, or nothing when
it asks for the current status. -/
theorem transition_extends {target : SubscriptionStatus} {ctx : TransitionContext}
    {r : TransitionResult} (h : s.transition target ctx = .ok (u, r)) : s.Extends u := by
  unfold transition at h
  dsimp only at h
  split at h
  · cases h
  · rename_i hvalid
    split at h
    · cases h
      exact .refl s
    · rename_i hnoop
      cases h
      exact ⟨_, rfl, .single rfl (StatusGraph.edge_of_validate
        (by simpa [SubscriptionStatus.validate] using hvalid)
        (by simpa [SubscriptionStatus.validate] using hnoop))⟩

/-- A terminal subscription refuses every status change. -/
theorem transition_terminal (target : SubscriptionStatus) (ctx : TransitionContext)
    (ht : s.status.isTerminal = true) : ∃ err, s.transition target ctx = .error err := by
  have hv : (SubscriptionStatus.validate s.status target ctx).valid = false :=
    StatusGraph.validate_terminal _ _ _ _ ht
  unfold transition
  simp only [hv, Bool.not_false, if_true]
  exact ⟨_, rfl⟩

/-- What a command of a caller can do to a subscription: one checked status change, with the
status and the history of its result kept. -/
def ChangesOnce (s u : Subscription) : Prop :=
  ∃ target ctx t r, s.transition target ctx = .ok (t, r) ∧ u.status = t.status ∧
    u.history = t.history ∧ u.id = t.id

section Commands

variable {now : DateTime} {reason actor paid : Value}

/-- A start without a trial activates the subscription; one with a trial moves it to
trialing and starts its first period on the day the trial ends. -/
theorem start_spec {days : Int} (h : s.start now days paid actor = .ok u) :
    (∃ ctx r, s.transition .active ctx = .ok (u, r)) ∨
      ∃ trialEnd ctx t r period, now.addDays days = .ok trialEnd ∧
        s.transition .trialing ctx = .ok (t, r) ∧ s.cycle.period trialEnd.date 1 = .ok period ∧
        u = { t with trialEnd := some trialEnd, period := period } := by
  unfold start at h
  split at h
  · cases h
  · split at h
    · simp only [Except.bind_eq_ok] at h
      obtain ⟨trialEnd, hend, ctx, -, ⟨t, r⟩, htr, period, hp, hu⟩ := h
      cases hu
      exact .inr ⟨trialEnd, ctx, t, r, period, hend, htr, hp, rfl⟩
    · simp only [Except.bind_eq_ok] at h
      obtain ⟨ctx, -, ⟨t, r⟩, htr, hu⟩ := h
      cases hu
      exact .inl ⟨ctx, r, htr⟩

/-- The end of a paid trial activates the subscription and starts its first period today;
the end of an unpaid one expires it. -/
theorem endTrial_spec (h : s.endTrial now paid actor = .ok u) :
    (∃ ctx r, s.transition .expired ctx = .ok (u, r)) ∨
      ∃ ctx t r period, s.transition .active ctx = .ok (t, r) ∧
        s.cycle.period now.date 1 = .ok period ∧
        u = { t with period := period, trialEnd := some now } := by
  unfold endTrial at h
  split at h
  · cases h
  · split at h
    · simp only [Except.bind_eq_ok] at h
      obtain ⟨ctx, -, ⟨t, r⟩, htr, period, hp, hu⟩ := h
      cases hu
      exact .inr ⟨ctx, t, r, period, htr, hp, rfl⟩
    · simp only [Except.bind_eq_ok] at h
      obtain ⟨ctx, -, ⟨t, r⟩, htr, hu⟩ := h
      cases hu
      exact .inl ⟨ctx, r, htr⟩

theorem pause_spec (h : s.pause now reason actor = .ok u) :
    ∃ ctx r, s.transition .paused ctx = .ok (u, r) := by
  unfold pause at h
  simp only [Except.bind_eq_ok] at h
  obtain ⟨ctx, -, ⟨t, r⟩, htr, hu⟩ := h
  cases hu
  exact ⟨ctx, r, htr⟩

theorem resume_spec (h : s.resume now reason actor = .ok u) :
    ∃ ctx r, s.transition .active ctx = .ok (u, r) := by
  unfold resume at h
  split at h
  · cases h
  · simp only [Except.bind_eq_ok] at h
    obtain ⟨ctx, -, ⟨t, r⟩, htr, hu⟩ := h
    cases hu
    exact ⟨ctx, r, htr⟩

/-- A cancellation that changes the status also records when and why, and drops a pending
retry. -/
theorem cancel_spec (h : s.cancel now reason actor = .ok u) :
    ∃ ctx t r, s.transition .canceled ctx = .ok (t, r) ∧
      (u = t ∨ u = { t with canceledAt := some now, cancelReason := ctx.reason,
                            retry := { s.retry with nextAt := none } }) := by
  unfold cancel at h
  simp only [Except.bind_eq_ok] at h
  obtain ⟨ctx, -, ⟨t, r⟩, htr, hu⟩ := h
  split at hu
  · cases hu
    exact ⟨ctx, t, r, htr, .inl rfl⟩
  · cases hu
    exact ⟨ctx, t, r, htr, .inr rfl⟩

theorem refund_spec {approved : Value} (h : s.refund now approved reason actor = .ok u) :
    ∃ ctx r, s.transition .refunded ctx = .ok (u, r) := by
  unfold refund at h
  simp only [Except.bind_eq_ok] at h
  obtain ⟨ctx, -, ⟨t, r⟩, htr, hu⟩ := h
  cases hu
  exact ⟨ctx, r, htr⟩

end Commands

theorem start_changesOnce {now : DateTime} {days : Int} {paid actor : Value}
    (h : s.start now days paid actor = .ok u) : s.ChangesOnce u := by
  rcases start_spec h with ⟨ctx, r, htr⟩ | ⟨-, ctx, t, r, -, -, htr, -, rfl⟩
  · exact ⟨_, ctx, u, r, htr, rfl, rfl, rfl⟩
  · exact ⟨_, ctx, t, r, htr, rfl, rfl, rfl⟩

theorem endTrial_changesOnce {now : DateTime} {paid actor : Value}
    (h : s.endTrial now paid actor = .ok u) : s.ChangesOnce u := by
  rcases endTrial_spec h with ⟨ctx, r, htr⟩ | ⟨ctx, t, r, -, htr, -, rfl⟩
  · exact ⟨_, ctx, u, r, htr, rfl, rfl, rfl⟩
  · exact ⟨_, ctx, t, r, htr, rfl, rfl, rfl⟩

theorem pause_changesOnce {now : DateTime} {reason actor : Value}
    (h : s.pause now reason actor = .ok u) : s.ChangesOnce u := by
  obtain ⟨ctx, r, htr⟩ := pause_spec h
  exact ⟨_, ctx, u, r, htr, rfl, rfl, rfl⟩

theorem resume_changesOnce {now : DateTime} {reason actor : Value}
    (h : s.resume now reason actor = .ok u) : s.ChangesOnce u := by
  obtain ⟨ctx, r, htr⟩ := resume_spec h
  exact ⟨_, ctx, u, r, htr, rfl, rfl, rfl⟩

theorem cancel_changesOnce {now : DateTime} {reason actor : Value}
    (h : s.cancel now reason actor = .ok u) : s.ChangesOnce u := by
  obtain ⟨ctx, t, r, htr, hu⟩ := cancel_spec h
  -- dropping a pending retry leaves status and history as they are
  rcases hu with rfl | rfl <;> exact ⟨_, ctx, _, r, htr, rfl, rfl, rfl⟩

theorem refund_changesOnce {now : DateTime} {approved reason actor : Value}
    (h : s.refund now approved reason actor = .ok u) : s.ChangesOnce u := by
  obtain ⟨ctx, r, htr⟩ := refund_spec h
  exact ⟨_, ctx, u, r, htr, rfl, rfl, rfl⟩

/-- A command of a caller that succeeded on a subscription, with what it made of it: a checked
status change, a start, the end of a trial, a pause, a resumption, a cancellation or a
refund, each with any arguments. -/
inductive Changed (s : Subscription) : Subscription → Prop
  | transition (target : SubscriptionStatus) (ctx : TransitionContext) (r : TransitionResult)
      {u : Subscription} (h : s.transition target ctx = .ok (u, r)) : Changed s u
  | start (now : DateTime) (trialDays : Int) (paid actor : Value) {u : Subscription}
      (h : s.start now trialDays paid actor = .ok u) : Changed s u
  | endTrial (now : DateTime) (paid actor : Value) {u : Subscription}
      (h : s.endTrial now paid actor = .ok u) : Changed s u
  | pause (now : DateTime) (reason actor : Value) {u : Subscription}
      (h : s.pause now reason actor = .ok u) : Changed s u
  | resume (now : DateTime) (reason actor : Value) {u : Subscription}
      (h : s.resume now reason actor = .ok u) : Changed s u
  | cancel (now : DateTime) (reason actor : Value) {u : Subscription}
      (h : s.cancel now reason actor = .ok u) : Changed s u
  | refund (now : DateTime) (approved reason actor : Value) {u : Subscription}
      (h : s.refund now approved reason actor = .ok u) : Changed s u

theorem Changed.changesOnce (h : s.Changed u) : s.ChangesOnce u := by
  cases h with
  | transition target ctx r h => exact ⟨target, ctx, u, r, h, rfl, rfl, rfl⟩
  | start _ _ _ _ h => exact start_changesOnce h
  | endTrial _ _ _ h => exact endTrial_changesOnce h
  | pause _ _ _ h => exact pause_changesOnce h
  | resume _ _ _ h => exact resume_changesOnce h
  | cancel _ _ _ h => exact cancel_changesOnce h
  | refund _ _ _ _ h => exact refund_changesOnce h

/-- A command keeps the identifier and continues the history. -/
theorem ChangesOnce.extends (h : s.ChangesOnce u) : s.Extends u ∧ u.id = s.id := by
  obtain ⟨target, ctx, t, r, htr, hst, hh, hid⟩ := h
  exact ⟨(transition_extends htr).congr hst hh, hid.trans (Engine.transition_id_period htr).1⟩

/-- A terminal subscription refuses every command. -/
theorem ChangesOnce.not_terminal (h : s.ChangesOnce u) : s.status.isTerminal = false := by
  obtain ⟨target, ctx, t, r, htr, -⟩ := h
  cases ht : s.status.isTerminal
  · rfl
  · obtain ⟨err, herr⟩ := transition_terminal target ctx ht
    rw [herr] at htr
    cases htr

end Subscription

namespace PaymentStatus

/-- A step of a payment's history: an edge of the graph out of a status that is not
terminal, or a refund of a succeeded payment, which is terminal for its charge but still
takes its refund edges. -/
def Step (a b : PaymentStatus) : Prop := graph.Edge a b ∨ (a = .succeeded ∧ b.isRefund = true)

/-- Every step follows an edge of the graph to another status. -/
theorem Step.mem_next {a b : PaymentStatus} (h : Step a b) : a ≠ b ∧ b ∈ next a := by
  rcases h with ⟨-, hne, hmem⟩ | ⟨rfl, hb⟩
  · exact ⟨hne, hmem⟩
  · cases b <;> simp_all [isRefund, next]

/-- A change that validation allows, and that does not ask for the current status, is a
step. -/
theorem step_of_validate {a b : PaymentStatus} {ctx : TransitionContext}
    (hv : (validate a b ctx).valid = true) (hn : (validate a b ctx).noop = false) : Step a b := by
  unfold validate at hv hn
  by_cases hr : a = .succeeded ∧ b.isRefund = true
  · exact .inr hr
  · rw [if_neg hr] at hv hn
    exact .inl (StatusGraph.edge_of_validate hv hn)

/-- Canceled and refunded payments refuse every change that validation is asked for. -/
theorem validate_final {a b : PaymentStatus} (ctx : TransitionContext)
    (ha : a = .canceled ∨ a = .refunded) : (validate a b ctx).valid = false := by
  rcases ha with rfl | rfl <;>
    simp [validate, StatusGraph.validate, graph, isTerminal, TransitionResult.reject]

end PaymentStatus

namespace PaymentAttempt

/-- The history of `q` continues the history of `p` along the steps of the payment graph. -/
def Extends (p q : PaymentAttempt) : Prop :=
  StatusChange.Continues PaymentStatus.Step p.status p.history q.status q.history

variable {p q : PaymentAttempt} {target : PaymentStatus} {ctx : TransitionContext}
  {details : Option FailureDetails} {changes : PaymentChanges} {r : TransitionResult}

theorem Extends.refl (p : PaymentAttempt) : p.Extends p := StatusChange.Continues.refl _ _

/-- A checked status change appends one step, or nothing when it asks for the current
status. -/
theorem transition_extends (h : p.transition target ctx details changes = .ok (q, r)) :
    p.Extends q := by
  rcases transition_spec h with ⟨rfl, -⟩ | ⟨hvalid, hnoop, -, change, hsource, htarget, rfl⟩
  · exact .refl _
  · subst htarget
    exact ⟨_, rfl, .single hsource (PaymentStatus.step_of_validate hvalid hnoop)⟩

/-- A canceled or refunded payment refuses every status change. -/
theorem transition_final (target : PaymentStatus) (ctx : TransitionContext)
    (details : Option FailureDetails) (changes : PaymentChanges)
    (hp : p.status = .canceled ∨ p.status = .refunded) :
    ∃ err, p.transition target ctx details changes = .error err := by
  have hv := PaymentStatus.validate_final (b := target) ctx hp
  unfold transition
  simp [hv, bind, Except.bind, pure, Except.pure]

theorem refundTarget_isRefund {amount total : Money}
    (h : p.refundTarget amount = .ok (.ok (total, target))) : target.isRefund = true := by
  unfold refundTarget at h
  simp only [bind, Except.bind, pure, Except.pure] at h
  repeat' split at h
  all_goals cases h <;> rfl

/-- A refund either keeps a status that is already its refund status and only records the
refund, or makes a checked status change. -/
theorem recordRefund_cases {amount : Money} {at_ : DateTime} {reason : Option String}
    {actor refundId : String} (h : p.recordRefund amount at_ reason actor refundId = .ok (q, r)) :
    (p.status.isRefund = true ∧ ∃ entry, q = { p with refunds := p.refunds ++ [entry] }) ∨
      ∃ target ctx changes, p.transition target ctx none changes = .ok (q, r) := by
  unfold recordRefund at h
  simp only [bind, Except.bind] at h
  split at h
  · cases h
  · rename_i hres
    split at h
    · cases h
    · split at h
      · rename_i hsame
        cases h
        exact .inl ⟨hsame ▸ refundTarget_isRefund hres, _, rfl⟩
      · exact .inr ⟨_, _, _, h⟩

/-- A change of a payment that succeeded, with what it made of the payment: a checked
status change or a refund, each with any arguments. -/
inductive Changed (p : PaymentAttempt) : PaymentAttempt → Prop
  | transition (target : PaymentStatus) (ctx : TransitionContext) (details : Option FailureDetails)
      (changes : PaymentChanges) (r : TransitionResult) {q : PaymentAttempt}
      (h : p.transition target ctx details changes = .ok (q, r)) : Changed p q
  | refund (amount : Money) (at_ : DateTime) (reason : Option String) (actor refundId : String)
      (r : TransitionResult) {q : PaymentAttempt}
      (h : p.recordRefund amount at_ reason actor refundId = .ok (q, r)) : Changed p q

theorem Changed.extends (h : p.Changed q) : p.Extends q := by
  cases h with
  | transition target ctx details changes r h => exact transition_extends h
  | refund amount at_ reason actor refundId r h =>
    rcases recordRefund_cases h with ⟨-, entry, rfl⟩ | ⟨target, ctx, changes, htr⟩
    · exact .refl p
    · exact transition_extends htr

/-- Nothing changes a canceled payment. A refunded payment is not absorbing: the one change
it takes is a refund that keeps its status, which skips the status check and appends the
refund, leaving the status and the history as they were. -/
theorem Changed.final (h : p.Changed q) (hp : p.status = .canceled ∨ p.status = .refunded) :
    p.status = .refunded ∧ ∃ entry, q = { p with refunds := p.refunds ++ [entry] } := by
  -- a checked status change out of either status is refused
  have hrefused : ∀ target ctx details changes r,
      p.transition target ctx details changes ≠ .ok (q, r) := by
    intro target ctx details changes r htr
    obtain ⟨err, herr⟩ := transition_final target ctx details changes hp
    rw [herr] at htr
    cases htr
  cases h with
  | transition target ctx details changes r h => exact absurd h (hrefused _ _ _ _ _)
  | refund amount at_ reason actor refundId r h =>
    rcases recordRefund_cases h with ⟨hrefund, hq⟩ | ⟨target, ctx, changes, htr⟩
    · refine ⟨?_, hq⟩
      rcases hp with hp | hp <;> rw [hp] at hrefund ⊢
      · cases hrefund
    · exact absurd htr (hrefused _ _ _ _ _)

end PaymentAttempt

end Billing
