import Billing.Proofs.Engine.Dunning
import Billing.Proofs.Status.History
import Mathlib.Logic.Relation

/-! # Histories under runs and commands

A billing run changes a subscription only through checked status changes and record
updates that leave the status and the history alone, and it saves, if anything, what it
decided from the snapshot it loaded: a continuation of that snapshot's history
(`run_continued`). The commands of a caller do the same (`Subscription.Changed`). So under
any sequence of runs, commands and changes of failing collaborators, the stored history of
a subscription walks the status graph from its first status (`HistoryFrom.reach`). A run
that fails writes no subscription, and a terminal subscription is never billed.

Payments follow their own graph under status changes and refunds, with two differences:
a succeeded payment is terminal for its charge, yet still takes its refund edges; and a
refund that keeps the payment's status is recorded without asking the graph, so a refunded
payment, final for the graph, still records refunds while they stay within its amount
(`refunded_charge_refunded_again`). -/

namespace Billing

namespace Engine

variable {w : World}

theorem renewed_extends {s u : Subscription} {q : PaymentAttempt} {now : DateTime} {w' : World}
    (h : (renewed s q now).run w = .ok u w') : s.Extends u ∧ u.id = s.id := by
  obtain ⟨-, t, ht, hu⟩ := renewed_ok h
  rw [hu]
  rcases ht with ⟨-, ctx, r, htr⟩ | ⟨-, rfl⟩
  · exact ⟨(Subscription.transition_extends htr).congr rfl rfl, (transition_id_period htr).1⟩
  · exact ⟨(Subscription.Extends.refl t).congr rfl rfl, rfl⟩

theorem scheduleRetry_extends {s u : Subscription} {d : RetryDecision} {now : DateTime} {w' : World}
    (h : (scheduleRetry s d now).run w = .ok u w') : s.Extends u ∧ u.id = s.id := by
  obtain ⟨ctx, t, r, htr, rfl⟩ := scheduleRetry_ok h
  exact ⟨(Subscription.transition_extends htr).congr rfl rfl, (transition_id_period htr).1⟩

theorem enterDelinquency_extends (e : Engine) {s u : Subscription} {d : RetryDecision} {now : DateTime}
    {w' : World} (h : (e.enterDelinquency s d now).run w = .ok u w') : s.Extends u ∧ u.id = s.id := by
  obtain ⟨t, ht, hrest⟩ := enterDelinquency_ok h
  -- first into the grace period, if the subscription was active
  have hst : s.Extends t ∧ t.id = s.id := by
    rcases ht with ⟨-, ctx, r, htr⟩ | ⟨-, hts⟩
    · exact ⟨Subscription.transition_extends htr, (transition_id_period htr).1⟩
    · rw [hts]
      exact ⟨.refl s, rfl⟩
  -- then to expired or past due
  rcases hrest with ⟨-, ctx, t', r, htr, rfl⟩ | ⟨-, g, ctx, t', r, -, htr, rfl⟩
  all_goals exact ⟨hst.1.trans ((Subscription.transition_extends htr).congr rfl rfl),
    (transition_id_period htr).1.trans hst.2⟩

/-- What a run decides to save continues the history of the subscription it loaded. -/
theorem Decided.extends {e : Engine} {s u : Subscription} {p q : PaymentAttempt} {reply : GatewayReply}
    {now : DateTime} {r : RunResult} (hd : Decided e s p reply now w u q r) :
    s.Extends u ∧ u.id = s.id := by
  cases hd with
  | paid r q u hr hok hq hu => exact renewed_extends hu
  | retried r f d u hr hok hf hdec hretry hu =>
    obtain ⟨hx, hid⟩ := scheduleRetry_extends hu
    exact ⟨hx.congr rfl rfl, hid⟩
  | delinquent r f d u hr hok hf hdec hretry hu =>
    obtain ⟨hx, hid⟩ := enterDelinquency_extends e hu
    exact ⟨hx.congr rfl rfl, hid⟩

end Engine

/-- The subscription stored under `id` in `w'` continues the one stored under `id` in
`w`, and is kept under its own identifier. -/
def Continued (id : String) (w w' : World) : Prop :=
  ∀ u, w'.subscriptions.lookup id = some u →
    u.id = id ∧ ∃ s, w.subscriptions.lookup id = some s ∧ s.Extends u

namespace Continued

variable {id : String} {w w' : World}

/-- A step that writes no subscription. -/
theorem of_subscriptions (hk : ∀ s, w.subscriptions.lookup id = some s → s.id = id)
    (h : w'.subscriptions = w.subscriptions) : Continued id w w' := by
  intro u hu
  rw [h] at hu
  exact ⟨hk u hu, u, hu, .refl u⟩

/-- A step that saves a continuation of the stored subscription. -/
theorem store {s u : Subscription} (hw : w'.subscriptions = upsert id u w.subscriptions)
    (hs : w.subscriptions.lookup id = some s) (hk : s.id = id) (hu : s.Extends u)
    (hid : u.id = s.id) : Continued id w w' := by
  intro x hx
  rw [hw, lookup_upsert_self] at hx
  cases hx
  exact ⟨hid.trans hk, s, hs, hu⟩

end Continued

namespace Engine

variable {e : Engine} {id : String} {now : DateTime} {w : World}

/-- Saving a subscription under its own identifier. -/
theorem storeSubscription_eq {u : Subscription} (h : u.id = id) :
    (w.storeSubscription u).subscriptions = upsert id u w.subscriptions := by
  rw [World.storeSubscription_subscriptions, h]

/-- A run that ends before the gateway saves, if anything, a continuation of the stored
subscription. -/
theorem Begun.continued {r : RunResult} {w' : World}
    (hk : ∀ s, w.subscriptions.lookup id = some s → s.id = id)
    (hb : Begun e id now w (.ok (.finished r) w')) : Continued id w w' := by
  cases hb with
  | skipped s reason hload hs hskip => exact .of_subscriptions hk rfl
  | settled s u p hload hs hskip hp hu hsave =>
    obtain ⟨hx, hid⟩ := renewed_extends hu
    exact .store (storeSubscription_eq (hid.trans (hk s hs))) hs (hk s hs) hx hid
  | expired s u hload hs hskip hp hgrace hx hu hsave =>
    obtain ⟨-, r, htr⟩ := move_ok hu
    have hid := (transition_id_period htr).1
    exact .store (storeSubscription_eq (hid.trans (hk s hs))) hs (hk s hs)
      (Subscription.transition_extends htr) hid
  | rejected s elapsed hload hs hskip hp hgrace hx hm => exact .of_subscriptions hk rfl

/-- After the gateway a run saves, if anything, what it decided: a continuation of the
subscription it loaded. -/
theorem Finished.continued {s : Subscription} {p : PaymentAttempt} {reply : GatewayReply}
    {w₀ : World} {res : EStateM.Result Error World RunResult}
    (hs : w₀.subscriptions.lookup id = some s) (hk : ∀ s, w₀.subscriptions.lookup id = some s → s.id = id)
    (hw : w.subscriptions = w₀.subscriptions) (hf : Finished e s p reply now w res) :
    Continued id w₀ (worldOf res) := by
  cases hf with
  | failed err => exact .of_subscriptions hk hw
  | halfSaved u q r m hd hpay hsub => exact .of_subscriptions hk (by simpa using hw)
  | saved u q r hd hpay hsub =>
    obtain ⟨hx, hid⟩ := hd.extends
    refine .store ?_ hs (hk s hs) hx hid
    simp only [worldOf, storeSubscription_eq (hid.trans (hk s hs)), World.storePayment_subscriptions, hw]

/-- A run saves, if anything, a continuation of the stored subscription. -/
theorem run_continued (hk : ∀ s, w.subscriptions.lookup id = some s → s.id = id) :
    Continued id w (worldOf ((e.run id now).run w)) := by
  have hpaths := run_paths e id now w
  generalize (e.run id now).run w = res at hpaths ⊢
  cases hpaths with
  | failed err => exact .of_subscriptions hk rfl
  | stopped r w' hb => exact hb.continued hk
  | cancelled s p res hb ht hf => exact hf.continued (Begun.billable hb).1 hk rfl
  | called s p res hb ht hf hres => exact hf.continued (Begun.billable hb).1 hk (by simp)

/-- A run that fails leaves the stored subscriptions as they were. -/
theorem run_error_subscriptions {err : Error} {w' : World} (h : (e.run id now).run w = .error err w') :
    w'.subscriptions = w.subscriptions := by
  have hpaths := run_paths e id now w
  rw [h] at hpaths
  -- a failure after the gateway may have saved the payment, never the subscription
  have hfin : ∀ {s p reply w₁ res}, w₁.subscriptions = w.subscriptions →
      Finished e s p reply now w₁ res → res = .error err w' → w'.subscriptions = w.subscriptions := by
    intro s p reply w₁ res hw hf hres
    cases hf with
    | failed err => cases hres; exact hw
    | halfSaved u q r m hd hpay hsub => cases hres; simpa using hw
    | saved u q r hd hpay hsub => cases hres
  cases hpaths with
  | failed err => rfl
  | cancelled s p res hb ht hf => exact hfin rfl hf rfl
  | called s p res hb ht hf hres => exact hfin (by simp) hf rfl

/-- A subscription in a status that is not billable is never billed: its run is skipped and
writes nothing, or it fails, writing nothing either. -/
theorem run_skipped_of_not_billable {s : Subscription} (hs : w.subscriptions.lookup id = some s)
    (hb : isBillable s.status = false) :
    (e.run id now).run w = .ok ⟨id, .skipped, s, none, none, none, some "not_billable"⟩ w ∨
      ∃ err, (e.run id now).run w = .error err w := by
  have hskip : skipReason s now = .ok (some .notBillable) := by
    simp [skipReason, hb, pure, Except.pure]
  have hpaths := run_paths e id now w
  generalize (e.run id now).run w = res at hpaths ⊢
  -- every branch past the skip check needs a billable subscription
  have hnone : ∀ s', w.subscriptions.lookup id = some s' → skipReason s' now ≠ .ok none := by
    intro s' hs' h
    rw [hs] at hs'
    cases hs'
    rw [hskip] at h
    cases h
  cases hpaths with
  | failed err => exact .inr ⟨err, rfl⟩
  | stopped r w' hb =>
    cases hb with
    | skipped s' reason hload hs' hskip' =>
      rw [hs] at hs'
      cases hs'
      rw [hskip] at hskip'
      cases hskip'
      exact .inl rfl
    | settled s' u p hload hs' hskip' => exact absurd hskip' (hnone s' hs')
    | expired s' u hload hs' hskip' => exact absurd hskip' (hnone s' hs')
    | rejected s' elapsed hload hs' hskip' => exact absurd hskip' (hnone s' hs')
  | cancelled s' p res hb => cases hb with
    | submitting _ _ amount elapsed hload hs' hskip' => exact absurd hskip' (hnone _ hs')
  | called s' p res hb => cases hb with
    | submitting _ _ amount elapsed hload hs' hskip' => exact absurd hskip' (hnone _ hs')

/-- A subscription that is expired or refunded is never billed. -/
theorem run_terminal {s : Subscription} (hs : w.subscriptions.lookup id = some s)
    (ht : s.status.isTerminal = true) :
    (e.run id now).run w = .ok ⟨id, .skipped, s, none, none, none, some "not_billable"⟩ w ∨
      ∃ err, (e.run id now).run w = .error err w :=
  run_skipped_of_not_billable hs (by cases hst : s.status <;> simp_all [SubscriptionStatus.isTerminal, isBillable])

/-- One operation on the subscription `id` of a repository: a billing run at any time, a
command of a caller that succeeded on the stored snapshot (a failed one leaves the
repository as it was), or a change of which collaborators fail. -/
inductive Operated (e : Engine) (id : String) : World → World → Prop
  | run (now : DateTime) (w : World) : Operated e id w (worldOf ((e.run id now).run w))
  | command (w : World) {s u : Subscription} (hs : w.subscriptions.lookup id = some s)
      (hc : s.Changed u) : Operated e id w { w with subscriptions := upsert id u w.subscriptions }
  | faults (f : Faults) (w : World) : Operated e id w { w with faults := f }

/-- Every operation stores, if anything, a continuation of the stored subscription. -/
theorem Operated.continued {w' : World} (h : Operated e id w w')
    (hk : ∀ s, w.subscriptions.lookup id = some s → s.id = id) : Continued id w w' := by
  cases h with
  | run now w => exact run_continued hk
  | command w hs hc =>
    obtain ⟨hx, hid⟩ := hc.changesOnce.extends
    exact .store rfl hs (hk _ hs) hx hid
  | faults f w => exact .of_subscriptions hk rfl

/-- The subscription `id` of `w` is kept under its own identifier, and its history walks the
subscription graph from the status `a`. -/
def HistoryFrom (id : String) (a : SubscriptionStatus) (w : World) : Prop :=
  ∀ s, w.subscriptions.lookup id = some s →
    s.id = id ∧ StatusChange.Walk SubscriptionStatus.graph.Edge a s.history s.status

theorem HistoryFrom.step {a : SubscriptionStatus} {w' : World} (hw : HistoryFrom id a w)
    (h : Operated e id w w') : HistoryFrom id a w' := by
  have hc := h.continued fun s hs => (hw s hs).1
  intro u hu
  obtain ⟨hid, s, hs, hx⟩ := hc u hu
  exact ⟨hid, hx.walk (hw s hs).2⟩

theorem HistoryFrom.reach {a : SubscriptionStatus} {w' : World} (hw : HistoryFrom id a w)
    (h : Relation.ReflTransGen (Operated e id) w w') : HistoryFrom id a w' := by
  induction h with
  | refl => exact hw
  | tail _ hstep ih => exact ih.step hstep

end Engine

/-- From an empty history, whatever changes a payment goes through, its history walks the
payment graph. -/
theorem PaymentAttempt.walk_of_reach {p₀ p : PaymentAttempt} (h₀ : p₀.history = [])
    (h : Relation.ReflTransGen PaymentAttempt.Changed p₀ p) :
    StatusChange.Walk PaymentStatus.Step p₀.status p.history p.status := by
  induction h with
  | refl => exact h₀ ▸ .nil _
  | tail _ hstep ih => exact hstep.extends.walk ih

/-- Status histories are paths of the status graphs, and terminal statuses absorb. Take a
repository whose subscription `id` is stored under its own identifier with an empty
history, and any sequence of billing runs, commands of a caller and changes of failing
collaborators. The stored history then walks the subscription graph from the first status
to the current one; each operation keeps the status and the history, or appends to the
history a walk from the status before it; a failed run writes no subscription; and an
expired or refunded subscription refuses every command, while its runs are skipped with
nothing written, or fail writing nothing. A payment's history, under status changes and
refunds from an empty one, walks the payment graph, whose steps leave a terminal status only
for the refunds of a succeeded payment. A canceled payment takes no change. A refunded one
keeps its status and history, but is not absorbing: a refund skips the status check when it
keeps the status, so the refunded payment still records it. -/
theorem status_histories_are_paths (e : Engine) (id : String) {w₀ : World} {s₀ : Subscription}
    (hs₀ : w₀.subscriptions.lookup id = some s₀) (hid : s₀.id = id) (hh : s₀.history = []) :
    (∀ w, Relation.ReflTransGen (Engine.Operated e id) w₀ w →
      (∀ s, w.subscriptions.lookup id = some s →
        StatusChange.Walk SubscriptionStatus.graph.Edge s₀.status s.history s.status) ∧
      (∀ w', Engine.Operated e id w w' → ∀ u, w'.subscriptions.lookup id = some u →
        ∃ s, w.subscriptions.lookup id = some s ∧ s.Extends u) ∧
      (∀ now err w', (e.run id now).run w = .error err w' → w'.subscriptions = w.subscriptions) ∧
      ∀ s, w.subscriptions.lookup id = some s → s.status.isTerminal = true →
        (∀ u, ¬ s.Changed u) ∧
        ∀ now, (e.run id now).run w = .ok ⟨id, .skipped, s, none, none, none, some "not_billable"⟩ w ∨
          ∃ err, (e.run id now).run w = .error err w) ∧
    ∀ p₀ p, p₀.history = [] → Relation.ReflTransGen PaymentAttempt.Changed p₀ p →
      StatusChange.Walk PaymentStatus.Step p₀.status p.history p.status ∧
      ∀ q, p.Changed q → p.Extends q ∧
        (p.status = .canceled ∨ p.status = .refunded →
          p.status = .refunded ∧ ∃ entry, q = { p with refunds := p.refunds ++ [entry] }) := by
  have h₀ : Engine.HistoryFrom id s₀.status w₀ := by
    intro s hs
    rw [hs₀] at hs
    cases hs
    exact ⟨hid, hh ▸ .nil _⟩
  refine ⟨fun w hw => ?_, fun p₀ p hp₀ hp => ⟨PaymentAttempt.walk_of_reach hp₀ hp,
    fun q hq => ⟨hq.extends, hq.final⟩⟩⟩
  have hinv := h₀.reach hw
  have hk : ∀ s, w.subscriptions.lookup id = some s → s.id = id := fun s hs => (hinv s hs).1
  refine ⟨fun s hs => (hinv s hs).2, fun w' hop u hu => ?_, fun _ _ _ h => Engine.run_error_subscriptions h,
    fun s hs ht => ⟨fun u hu => ?_, fun _ => Engine.run_terminal hs ht⟩⟩
  · obtain ⟨-, s, hs, hx⟩ := hop.continued hk u hu
    exact ⟨s, hs, hx⟩
  · have hnot := hu.changesOnce.not_terminal
    rw [ht] at hnot
    cases hnot

/-- A pending subscription with an empty history, alone in its repository, started at once
with its first charge paid: the history it is stored with is a walk from pending. -/
theorem status_histories_alone :
    ∃ u, (default : Subscription).start ⟨⟨2024, 3, 1⟩, 9, 0, 0, 0, some 0⟩ 0 (.bool true)
        (.str "customer") = .ok u ∧
      StatusChange.Walk SubscriptionStatus.graph.Edge (default : Subscription).status u.history u.status := by
  refine ⟨_, rfl, ?_⟩
  have hstep : Engine.Operated ⟨.int 3, .int 30, .int 1, none, none, none⟩ ""
      ⟨[("", default)], [], ⟨none, none, none, none⟩, [], 0, [], []⟩ _ :=
    .command _ rfl (.start ⟨⟨2024, 3, 1⟩, 9, 0, 0, 0, some 0⟩ 0 (.bool true) (.str "customer") rfl)
  exact ((status_histories_are_paths _ "" rfl rfl rfl).1 _ (.single hstep)).1 _ (lookup_upsert_self _ _ _)

/-- A payment of 1000 TWD that went through. -/
def settledCharge : PaymentAttempt :=
  ⟨"pay_1", "sub_1", ⟨1000, "TWD"⟩, .succeeded, 1, .int 0, .null, none, [], [],
    ⟨⟨2024, 3, 1⟩, 9, 0, 0, 0, some 0⟩⟩

/-- A succeeded payment refunded in part, then marked refunded by a status change that
records no refund, is refunded with its refunds short of its amount. The payment part of
the statement fails on it twice over: the first refund's history entry leaves the succeeded
status, terminal for its charge; and a further refund is still recorded on the refunded
payment, final for the graph, because a refund that keeps the status skips the status
check. -/
theorem refunded_charge_refunded_again :
    ∃ q₁ r₁ q₂ r₂ q₃ r₃,
      settledCharge.recordRefund ⟨400, "TWD"⟩ ⟨⟨2024, 3, 2⟩, 9, 0, 0, 0, some 0⟩ none "system" "r_1" =
        .ok (q₁, r₁) ∧
      ¬ StatusChange.Walk PaymentStatus.graph.Edge settledCharge.status q₁.history q₁.status ∧
      q₁.transition .refunded
        { TransitionContext.basic none "system" ⟨⟨2024, 3, 3⟩, 9, 0, 0, 0, some 0⟩ with
          refundAmount := some ⟨600, "TWD"⟩ } none PaymentChanges.none = .ok (q₂, r₂) ∧
      q₂.status = .refunded ∧
      q₂.recordRefund ⟨600, "TWD"⟩ ⟨⟨2024, 3, 4⟩, 9, 0, 0, 0, some 0⟩ none "system" "r_2" =
        .ok (q₃, r₃) ∧
      q₃.status = .refunded ∧ q₃.refunds.length = 2 := by
  refine ⟨_, _, _, _, _, _, rfl, ?_, rfl, rfl, rfl, rfl, rfl⟩
  intro hw
  cases hw with
  | cons _ hstep _ => exact absurd hstep.1 (by decide)

end Billing
