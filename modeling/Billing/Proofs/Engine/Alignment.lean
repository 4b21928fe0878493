import Billing.Proofs.Calendar.Tiling
import Billing.Proofs.Engine.History

/-! # Periods stay laid out by their cycle

A subscription is created with the period its cycle lays out from the start date. After
that its period changes in only three ways: a start with a trial and the end of a paid trial
lay out a fresh period from a date, and a renewal moves to the cycle's next period. Every
other step, a status change or a record update, keeps the period and the cycle. So whatever
runs, commands and changes of failing collaborators a subscription goes through, its period
ends the day before the cycle's next billing date after its start (`AlignedAt.reach`), and
every billing run answers with such a subscription. -/
namespace Billing

variable {s u : Subscription}

/-- A status change keeps the period laid out. -/
theorem Subscription.transition_aligned {target : SubscriptionStatus} {ctx : TransitionContext}
    {r : TransitionResult} (h : s.transition target ctx = .ok (u, r)) (hs : s.period.Aligned s.cycle) :
    u.period.Aligned u.cycle := by
  rw [Subscription.transition_ok h]
  exact hs

/-- A command of a caller keeps the period laid out: a trial or the end of a paid one lays
out a fresh period, and every other command keeps the period. -/
theorem Subscription.Changed.aligned (h : s.Changed u) (hs : s.period.Aligned s.cycle) :
    u.period.Aligned u.cycle := by
  cases h with
  | transition target ctx r h => exact Subscription.transition_aligned h hs
  | start now days paid actor h =>
    rcases Subscription.start_spec h with ⟨ctx, r, htr⟩ | ⟨trialEnd, ctx, t, r, period, -, htr, hp, rfl⟩
    · exact Subscription.transition_aligned htr hs
    · rw [Subscription.transition_ok htr]
      exact (Cycle.period_spec hp).1
  | endTrial now paid actor h =>
    rcases Subscription.endTrial_spec h with ⟨ctx, r, htr⟩ | ⟨ctx, t, r, period, htr, hp, rfl⟩
    · exact Subscription.transition_aligned htr hs
    · rw [Subscription.transition_ok htr]
      exact (Cycle.period_spec hp).1
  | pause now reason actor h =>
    obtain ⟨ctx, r, htr⟩ := Subscription.pause_spec h
    exact Subscription.transition_aligned htr hs
  | resume now reason actor h =>
    obtain ⟨ctx, r, htr⟩ := Subscription.resume_spec h
    exact Subscription.transition_aligned htr hs
  | cancel now reason actor h =>
    -- a cancellation at once also records when and why; the period stays
    obtain ⟨ctx, t, r, htr, hu⟩ := Subscription.cancel_spec h
    have ht := Subscription.transition_aligned htr hs
    rcases hu with rfl | rfl
    · exact ht
    · exact ht
  | refund now approved reason actor h =>
    obtain ⟨ctx, r, htr⟩ := Subscription.refund_spec h
    exact Subscription.transition_aligned htr hs

/-- A created subscription's period is the one its cycle lays out from the start date. -/
theorem Subscription.create_aligned {settings : Settings} {id customer : Value} {amount : Money}
    {cycle : Cycle} {start : Date} {paymentMethod plan : Option String} {metadata : Fields}
    (h : Subscription.create settings id customer amount cycle start paymentMethod plan metadata = .ok s) :
    s.period.Aligned s.cycle := by
  unfold Subscription.create at h
  simp only [Except.bind_eq_ok] at h
  obtain ⟨period, hp, retry, -, ids, -, hs⟩ := h
  cases hs
  exact (Cycle.period_spec hp).1

namespace Engine

variable {e : Engine} {id : String} {now : DateTime} {w w' : World}

/-- A renewal lays out the cycle's next period. -/
theorem renewed_aligned {q : PaymentAttempt} (h : (renewed s q now).run w = .ok u w') :
    u.period.Aligned u.cycle := by
  obtain ⟨hnext, t, ht, hu⟩ := renewed_ok h
  have hcycle : u.cycle = s.cycle := by
    rw [hu]
    rcases ht with ⟨-, ctx, r, htr⟩ | ⟨-, rfl⟩
    · rw [Subscription.transition_ok htr]
    · rfl
  rw [hcycle]
  exact (Cycle.nextPeriod_spec hnext).1

/-- What a run decides after the gateway is laid out, and it is what the run answers with. -/
theorem Decided.aligned {p q : PaymentAttempt} {reply : GatewayReply} {r : RunResult}
    (hd : Decided e s p reply now w u q r) (hs : s.period.Aligned s.cycle) :
    u.period.Aligned u.cycle ∧ r.subscription = u := by
  cases hd with
  | paid gr q u hr hok hq hu => exact ⟨renewed_aligned hu, rfl⟩
  | retried gr f d u hr hok hf hdec hretry hu =>
    obtain ⟨ctx, t, r, htr, rfl⟩ := scheduleRetry_ok hu
    exact ⟨Subscription.transition_aligned (u := t) htr hs, rfl⟩
  | delinquent gr f d u hr hok hf hdec hretry hu =>
    obtain ⟨-, hcycle, hperiod, -⟩ := enterDelinquency_keeps hu
    refine ⟨?_, rfl⟩
    show u.period.Aligned u.cycle
    rw [hcycle, hperiod]
    exact hs

/-- The subscription stored under `id` is laid out by its cycle. -/
def AlignedAt (id : String) (w : World) : Prop :=
  ∀ s, w.subscriptions.lookup id = some s → s.period.Aligned s.cycle

namespace AlignedAt

/-- A step that writes no subscription. -/
theorem of_subscriptions (hw : AlignedAt id w) (h : w'.subscriptions = w.subscriptions) :
    AlignedAt id w' := by
  intro s hs
  rw [h] at hs
  exact hw s hs

/-- Saving a laid-out subscription, under whatever identifier. -/
theorem store (hw : AlignedAt id w) (hu : u.period.Aligned u.cycle) :
    AlignedAt id (w.storeSubscription u) := by
  intro s hs
  rw [World.storeSubscription_subscriptions, lookup_upsert] at hs
  split at hs
  · cases hs
    exact hu
  · exact hw s hs

end AlignedAt

/-- A run that ends before the gateway saves, and answers with, laid-out subscriptions. -/
theorem Begun.aligned {r : RunResult} (hw : AlignedAt id w)
    (hb : Begun e id now w (.ok (.finished r) w')) :
    AlignedAt id w' ∧ r.subscription.period.Aligned r.subscription.cycle := by
  cases hb with
  | skipped s reason hload hs hskip => exact ⟨hw, hw s hs⟩
  | settled s u p hload hs hskip hp hu hsave =>
    have hu' := renewed_aligned hu
    exact ⟨hw.store hu', hu'⟩
  | expired s u hload hs hskip hp hgrace hx hu hsave =>
    obtain ⟨-, r, htr⟩ := move_ok hu
    have hu' := Subscription.transition_aligned htr (hw s hs)
    exact ⟨hw.store hu', hu'⟩
  | rejected s elapsed hload hs hskip hp hgrace hx hm => exact ⟨hw, hw s hs⟩

/-- After the gateway a run saves, and answers with, what it decided. -/
theorem Finished.aligned {p : PaymentAttempt} {reply : GatewayReply}
    {res : EStateM.Result Error World RunResult} (hw : AlignedAt id w)
    (hs : s.period.Aligned s.cycle) (hf : Finished e s p reply now w res) :
    AlignedAt id (worldOf res) ∧
      ∀ r w', res = .ok r w' → r.subscription.period.Aligned r.subscription.cycle := by
  cases hf with
  | failed err => exact ⟨hw, fun _ _ h => nomatch h⟩
  | halfSaved u q r m hd hpay hsub =>
    exact ⟨hw.of_subscriptions (World.storePayment_subscriptions _ _), fun _ _ h => nomatch h⟩
  | saved u q r hd hpay hsub =>
    obtain ⟨hu, hr⟩ := hd.aligned hs
    refine ⟨(hw.of_subscriptions (World.storePayment_subscriptions _ _)).store hu, ?_⟩
    rintro r' w' ⟨⟩
    rw [hr]
    exact hu

/-- A billing run keeps the stored subscription laid out, whether it returns or fails, and
answers with a laid-out subscription. -/
theorem run_aligned (hw : AlignedAt id w) :
    AlignedAt id (worldOf ((e.run id now).run w)) ∧
      ∀ r w', (e.run id now).run w = .ok r w' → r.subscription.period.Aligned r.subscription.cycle := by
  have hpaths := run_paths e id now w
  generalize (e.run id now).run w = res at hpaths ⊢
  cases hpaths with
  | failed err => exact ⟨hw, fun _ _ h => nomatch h⟩
  | stopped r w' hb =>
    obtain ⟨hw', hr⟩ := hb.aligned hw
    exact ⟨hw', fun _ _ h => by cases h; exact hr⟩
  | cancelled s p res hb ht hf => exact hf.aligned hw (hw s (Begun.billable hb).1)
  | called s p res hb ht hf hres =>
    exact hf.aligned (hw.of_subscriptions (World.afterCall_subscriptions _ _)) (hw s (Begun.billable hb).1)

/-- Every operation keeps the stored subscription laid out by its cycle. -/
theorem AlignedAt.step (hw : AlignedAt id w) (h : Operated e id w w') : AlignedAt id w' := by
  cases h with
  | run now w => exact (run_aligned hw).1
  | command w hs hc =>
    intro x hx
    rw [lookup_upsert_self] at hx
    cases hx
    exact hc.aligned (hw _ hs)
  | faults f w => exact hw.of_subscriptions rfl

theorem AlignedAt.reach (hw : AlignedAt id w) (h : Relation.ReflTransGen (Operated e id) w w') :
    AlignedAt id w' := by
  induction h with
  | refl => exact hw
  | tail _ hstep ih => exact ih.step hstep

end Engine

/-- Billing periods tile the calendar and anchored cycles do not drift. The chain of periods
of a valid cycle from a date of the calendar starts with the period from that date; each
period ends no earlier than it starts, and each one after the first starts the day after the
one before ends and is numbered one higher. The chain fails only by leaving the calendar.
An anchored cycle's next billing date lies its cadence's months later, on the anchor day or
the last day of a shorter month, and fails only beyond the year 9999; so the periods of its
chain start on those days, month after month. A subscription created and then run and
commanded in any order, while its collaborators start and stop failing, keeps its period
ending the day before its cycle's next billing date after the period starts, and so does
every subscription a run answers with. -/
theorem periods_tile_the_calendar :
    (∀ (c : Cycle) (start : Date) (count : Int) (ps : List Period), c.Valid → start.isValid = true →
      c.chain start count = .ok ps →
        (∃ p, c.period start 1 = .ok p ∧ ps.head? = some p) ∧
        (∀ q ∈ ps, q.startDate ≤ q.endDate) ∧
        ∀ i (hi : i + 1 < ps.length), ps[i].endDate.addDays 1 = .ok ps[i + 1].startDate ∧
          ps[i + 1].cycleNumber = ps[i].cycleNumber + 1) ∧
    (∀ (c : Cycle) (start : Date) (count : Int) (err : Error), c.Valid → start.isValid = true →
      c.chain start count = .error err → err.isCalendar = true) ∧
    (∀ (c : Cycle) (A : Int) (d d' : Date), c.Valid → c.anchorDay = some A → d.isValid = true →
      c.nextDate d = .ok d' →
        d'.monthIndex = d.monthIndex + c.cadence.months ∧
          (d'.day : Int) = min A (Date.daysInMonth d'.year d'.month)) ∧
    (∀ (c : Cycle) (A : Int) (d : Date) (err : Error), c.Valid → c.anchorDay = some A →
      d.isValid = true → c.nextDate d = .error err →
        9999 < (d.monthIndex - 1 + c.cadence.months) / 12) ∧
    (∀ (c : Cycle) (A : Int) (start : Date) (count : Int) (ps : List Period), c.Valid →
      c.anchorDay = some A → start.isValid = true → c.chain start count = .ok ps →
      ∀ i (hi : i < ps.length), ps[i].startDate.monthIndex = start.monthIndex + i * c.cadence.months ∧
        (1 ≤ i → (ps[i].startDate.day : Int) =
          min A (Date.daysInMonth ps[i].startDate.year ps[i].startDate.month))) ∧
    ∀ (e : Engine) (settings : Settings) (id customer : Value) (amount : Money) (cycle : Cycle)
      (start : Date) (paymentMethod plan : Option String) (metadata : Fields) (s₀ : Subscription)
      (w₀ w : World),
      Subscription.create settings id customer amount cycle start paymentMethod plan metadata = .ok s₀ →
      w₀.subscriptions.lookup s₀.id = some s₀ → Relation.ReflTransGen (Engine.Operated e s₀.id) w₀ w →
      (∀ s, w.subscriptions.lookup s₀.id = some s → s.period.Aligned s.cycle) ∧
      ∀ now r w', (e.run s₀.id now).run w = .ok r w' → r.subscription.period.Aligned r.subscription.cycle := by
  refine ⟨?tiles, fun c start count err hc hs h => Cycle.chain_error hc hs h, ?next, ?nextError,
    fun c A start count ps hc hA hs h => Cycle.chain_anchored hc hA hs h, ?reach⟩
  case tiles =>
    intro c start count ps hc hs h
    obtain ⟨hhead, hall, hnext⟩ := Cycle.chain_tiles hc hs h
    have hconsecutive := fun i (hi : i + 1 < ps.length) => hnext i (Nat.lt_of_succ_lt hi) hi
    refine ⟨hhead, fun q hq => (hall q hq).1.ordered, fun i hi => ⟨(hconsecutive i hi).2, ?_⟩⟩
    exact (Cycle.nextPeriod_spec (hconsecutive i hi).1).2.2
  case next =>
    intro c A d d' hc hA hd h
    exact Cycle.nextDate_anchored (hc.isAnchored hA) hA (hc.anchor_mem A hA).1 (Date.one_le_month hd) h
  case nextError =>
    intro c A d err hc hA hd h
    exact Cycle.nextDate_anchored_error (hc.isAnchored hA) hd h
  case reach =>
    intro e settings id customer amount cycle start paymentMethod plan metadata s₀ w₀ w hcreate hs₀ hw
    -- the created subscription is laid out, and every operation keeps it so
    have h₀ : Engine.AlignedAt s₀.id w₀ := by
      intro s hs
      rw [hs₀] at hs
      cases hs
      exact Subscription.create_aligned hcreate
    have hinv := h₀.reach hw
    exact ⟨hinv, fun now => (Engine.run_aligned hinv).2⟩

/-- A monthly cycle anchored on the 31st, from the last day of January 2024: the period
after February starts on the 31st again. -/
theorem month_ends_tile :
    (⟨.monthly, none, some 31⟩ : Cycle).chain ⟨2024, 1, 31⟩ 3 =
        .ok [⟨⟨2024, 1, 31⟩, ⟨2024, 2, 28⟩, 1⟩, ⟨⟨2024, 2, 29⟩, ⟨2024, 3, 30⟩, 2⟩,
          ⟨⟨2024, 3, 31⟩, ⟨2024, 4, 29⟩, 3⟩] ∧
      (⟨2024, 2, 28⟩ : Date).addDays 1 = .ok ⟨2024, 2, 29⟩ ∧
      ((⟨2024, 3, 31⟩ : Date).day : Int) = min 31 (Date.daysInMonth 2024 3) := by
  have hc : (⟨.monthly, none, some 31⟩ : Cycle).Valid := ⟨by simp, by simp, rfl, by simp⟩
  have hchain : (⟨.monthly, none, some 31⟩ : Cycle).chain ⟨2024, 1, 31⟩ 3 =
      .ok [⟨⟨2024, 1, 31⟩, ⟨2024, 2, 28⟩, 1⟩, ⟨⟨2024, 2, 29⟩, ⟨2024, 3, 30⟩, 2⟩,
        ⟨⟨2024, 3, 31⟩, ⟨2024, 4, 29⟩, 3⟩] := rfl
  have hs : (⟨2024, 1, 31⟩ : Date).isValid = true := by decide
  exact ⟨hchain, ((periods_tile_the_calendar.1 _ _ _ _ hc hs hchain).2.2 0 (by decide)).1,
    (((periods_tile_the_calendar.2.2.2.2.1 _ 31 _ _ _ hc rfl hs hchain) 2 (by decide)).2 (by decide))⟩

end Billing
