import Billing.Proofs.Engine.Outcomes
import Billing.Proofs.Engine.Validity
import Billing.Proofs.Engine.History

/-! # Polling at a fixed time comes to rest

A poller selects the candidates among the stored subscriptions and runs each of them, then
does it again, always at the same time `now`. Suppose every run returns normally and none is
refused for want of a payment method. Then the passes come to rest. After as many passes as
the repository's `pollBudget` no candidate is left, and a pass changes nothing. A
subscription that is not a candidate is never run, so it stays as it is.

The budget adds up what each picked subscription may still cost (`Subscription.pollCost`).
A run of a picked subscription either takes it out of the candidates or lowers its cost
(`Subscription.Polled`):
- a renewal moves the period start on by at least a day towards `now`'s date, and clears
  the grace extensions used;
- a scheduled retry is always due strictly after `now`;
- an expiry ends the subscription;
- a subscription left past due has one grace extension fewer to spare.

A run writes only its own subscription (`Engine.run_polled`). So a pass that picks
something lowers the budget by at least the number of subscriptions it picked
(`Pass.polled`).

The candidate check compares stored retry and grace times with `now`. With one time without
an offset and the other with one, it fails. So the first repository must be one whose
candidates the poller can select (`naive_retry_time_stops_polling` shows one where it
cannot). From then on it keeps succeeding, because every time a run stores is taken from
`now` (`World.Pollable`). -/
namespace Billing

section Keys

-- the repository as a map from identifiers, held as a list of pairs

variable {α : Type} {k : String} {v a : α} {l : List (String × α)}

theorem mem_of_lookup (h : l.lookup k = some v) : (k, v) ∈ l := by
  obtain ⟨l₁, l₂, rfl, -⟩ := List.lookup_eq_some_iff.mp h
  simp

theorem lookup_of_mem (hnd : (l.map Prod.fst).Nodup) (h : (k, v) ∈ l) : l.lookup k = some v := by
  induction l with
  | nil => cases h
  | cons kv l ih =>
    obtain ⟨j, x⟩ := kv
    simp only [List.map_cons, List.nodup_cons] at hnd
    rcases List.mem_cons.mp h with heq | hmem
    · simp only [Prod.mk.injEq] at heq
      obtain ⟨rfl, rfl⟩ := heq
      simp
    · have hj : k ≠ j := by
        rintro rfl
        exact hnd.1 (List.mem_map.mpr ⟨(k, v), hmem, rfl⟩)
      have hb : (k == j) = false := by simpa using hj
      simp only [List.lookup_cons, hb]
      exact ih hnd.2 hmem

theorem keys_upsert (h : l.lookup k = some a) : (upsert k v l).map Prod.fst = l.map Prod.fst := by
  induction l with
  | nil => cases h
  | cons kv l ih =>
    obtain ⟨j, x⟩ := kv
    by_cases hj : j = k
    · subst hj
      simp [upsert]
    · have hb : (k == j) = false := beq_eq_false_iff_ne.mpr fun h => hj h.symm
      simp only [List.lookup_cons, hb] at h
      simp [upsert, hj, ih h]

theorem mem_upsert {x : String × α} (h : x ∈ upsert k v l) : x = (k, v) ∨ x ∈ l := by
  induction l with
  | nil => simpa [upsert] using h
  | cons kv l ih =>
    obtain ⟨j, y⟩ := kv
    by_cases hj : j = k
    · simp only [upsert, hj, if_true, List.mem_cons] at h ⊢
      rcases h with h | h
      · exact .inl h
      · exact .inr (.inr h)
    · simp only [upsert, hj, if_false, List.mem_cons] at h ⊢
      rcases h with h | h
      · exact .inr (.inl h)
      · exact (ih h).imp id .inr

theorem sum_upsert (f : α → Nat) (h : l.lookup k = some a) :
    ((upsert k v l).map fun kv => f kv.2).sum + f a = (l.map fun kv => f kv.2).sum + f v := by
  induction l with
  | nil => cases h
  | cons kv l ih =>
    obtain ⟨j, x⟩ := kv
    by_cases hj : j = k
    · subst hj
      simp only [List.lookup_cons, beq_self_eq_true, Option.some.injEq] at h
      subst h
      simp [upsert]
      omega
    · have hb : (k == j) = false := beq_eq_false_iff_ne.mpr fun h => hj h.symm
      simp only [List.lookup_cons, hb] at h
      have := ih h
      simp [upsert, hj]
      omega

end Keys

section Select

variable {β : Type} {f : β → Outcome Bool} {g : β → Bool}

theorem filterAuxM_ok {l : List β} (hf : ∀ x ∈ l, f x = .ok (g x)) (acc : List β) :
    List.filterAuxM f l acc = .ok ((l.filter g).reverse ++ acc) := by
  induction l generalizing acc with
  | nil => rfl
  | cons x t ih =>
    rw [List.filterAuxM, hf x List.mem_cons_self]
    simp only [bind, Except.bind]
    rw [ih (fun y hy => hf y (List.mem_cons_of_mem x hy))]
    cases hg : g x <;> simp [hg]

theorem judged_of_filterAuxM {l acc r : List β} (h : List.filterAuxM f l acc = .ok r) :
    ∀ x ∈ l, ∃ b, f x = .ok b := by
  induction l generalizing acc with
  | nil => simp
  | cons x t ih =>
    rw [List.filterAuxM] at h
    obtain ⟨b, hb, hrest⟩ := Except.bind_eq_ok.mp h
    intro y hy
    rcases List.mem_cons.mp hy with rfl | hy
    · exact ⟨b, hb⟩
    · exact ih hrest y hy

/-- A filter whose test returns on every element keeps the elements it passes. -/
theorem filterM_ok {l : List β} (hf : ∀ x ∈ l, f x = .ok (g x)) : l.filterM f = .ok (l.filter g) := by
  unfold List.filterM
  rw [filterAuxM_ok hf]
  simp [pure, Except.pure, bind, Except.bind]

/-- A filter that returns found a value of its test on every element. -/
theorem judged_of_filterM {l r : List β} (h : l.filterM f = .ok r) : ∀ x ∈ l, ∃ b, f x = .ok b := by
  unfold List.filterM at h
  obtain ⟨r', h', -⟩ := Except.bind_eq_ok.mp h
  exact judged_of_filterAuxM h'

theorem sortBy_insert_perm (key : β → Date × String) (x : β) (l : List β) :
    (Subscription.sortBy.insert key x l).Perm (x :: l) := by
  induction l with
  | nil => rfl
  | cons y ys ih =>
    simp only [Subscription.sortBy.insert]
    split
    · rfl
    · exact (ih.cons y).trans (List.Perm.swap x y ys)

/-- Sorting keeps the elements. -/
theorem sortBy_perm (key : β → Date × String) (l : List β) : (Subscription.sortBy key l).Perm l := by
  induction l with
  | nil => rfl
  | cons x xs ih => exact (sortBy_insert_perm key x _).trans (ih.cons x)

end Select

namespace DateTime

variable {a b t g : DateTime}

/-- A time strictly after `a` does not come before it. -/
theorem le_false_of_lt (h : a.lt b = .ok true) : b.le a = .ok false := by
  unfold lt le compareTo at *
  cases ha : a.offset <;> cases hb : b.offset <;> simp only [ha, hb, Except.map] at h ⊢
  · simp only [Except.ok.injEq, decide_eq_true_eq, compare_lt_iff_lt] at h
    simp [compare_gt_iff_gt, h]
  · cases h
  · cases h
  · simp only [Except.ok.injEq, decide_eq_true_eq, compare_lt_iff_lt] at h
    simp [compare_gt_iff_gt, h]

/-- Two times with the same offset, or both without one, can be compared. -/
theorem le_ok_of_offset (h : a.offset = b.offset) : ∃ c, a.le b = .ok c := by
  unfold le compareTo
  rw [h]
  cases b.offset <;> exact ⟨_, rfl⟩

/-- Shifting a time keeps its offset. -/
theorem addDays_offset {n : Int} (h : t.addDays n = .ok g) : g.offset = t.offset := by
  obtain ⟨d, -, hd⟩ := Except.bind_eq_ok.mp h
  exact (addMicros_spec hd).2

theorem addDayCount_offset {n : Value} (h : t.addDayCount n = .ok g) : g.offset = t.offset := by
  unfold addDayCount at h
  split at h
  · exact addDays_offset h
  · exact addDays_offset h
  · obtain ⟨x, -, h⟩ := Except.bind_eq_ok.mp h
    obtain ⟨d, -, hd⟩ := Except.bind_eq_ok.mp h
    exact (addMicros_spec hd).2
  · cases h

end DateTime

namespace Subscription

variable {s u : Subscription} {now t : DateTime}

theorem isCandidate_of_active (h : s.status = .active) :
    s.isCandidate now = .ok (s.period.isExpired now.date) := by
  unfold isCandidate isDue isRetryDue isGraceElapsed
  simp only [h, decide_true, Bool.true_and, ne_eq, reduceCtorEq, not_false_eq_true, true_and,
    if_true]
  cases s.period.isExpired now.date <;> rfl

theorem isCandidate_of_retry (h : s.status = .retry) (ht : s.retry.nextAt = some t) :
    s.isCandidate now = t.le now := by
  unfold isCandidate isDue isRetryDue isGraceElapsed
  simp only [h, ht]
  cases t.le now with
  | error err => rfl
  | ok b => cases b <;> rfl

theorem isCandidate_of_pastDue (h : s.status = .pastDue) (ht : s.graceEnd = some t) :
    s.isCandidate now = t.le now := by
  unfold isCandidate isDue isRetryDue isGraceElapsed
  simp [h, ht]

theorem isCandidate_of_expired (h : s.status = .expired) : s.isCandidate now = .ok false := by
  unfold isCandidate isDue isRetryDue isGraceElapsed
  simp [h]
  rfl

theorem skipReason_of_isCandidate (h : s.isCandidate now = .ok true) :
    Engine.skipReason s now = .ok none := by
  unfold isCandidate isDue isRetryDue isGraceElapsed at h
  unfold Engine.skipReason isDue isRetryDue
  cases hs : s.status <;> simp [hs, Engine.isBillable, pure, Except.pure, bind, Except.bind] at h ⊢
  · exact h
  · -- a retry is picked only once its time has come
    cases hn : s.retry.nextAt with
    | none => simp [hn] at h
    | some t =>
      cases hle : t.le now with
      | error err => simp [hn, hle] at h
      | ok b => cases b <;> simp [hn, hle] at h ⊢

/-- Whether the candidate check picks the subscription at `now`; a check that fails picks
nothing. -/
def isPicked (s : Subscription) (now : DateTime) : Bool :=
  match s.isCandidate now with
  | .ok b => b
  | .error _ => false

theorem isCandidate_of_isPicked (h : s.isPicked now = true) : s.isCandidate now = .ok true := by
  unfold isPicked at h
  split at h
  · rename_i hc
    rw [hc, h]
  · cases h

theorem isCandidate_eq_isPicked {b : Bool} (h : s.isCandidate now = .ok b) :
    s.isCandidate now = .ok (s.isPicked now) := by
  simp [isPicked, h]

/-- The runs a subscription may still take at `now`: for each day its period starts before
`now`'s date a block of one more than its grace allowance, since a renewal moves the start
on by a day at least and clears the grace extensions used; then the grace extensions it has
left. -/
def runsLeft (s : Subscription) (now : DateTime) : Nat :=
  (now.date.toOrdinal - s.period.startDate.toOrdinal).toNat * (s.retry.maxGraceExtensions.toNat + 1) +
    (s.retry.maxGraceExtensions - s.retry.graceExtensions).toNat

/-- What a subscription weighs on polling at `now`: one run more than it has left while the
candidate check picks it, and nothing otherwise. -/
def pollCost (s : Subscription) (now : DateTime) : Nat :=
  if s.isPicked now then s.runsLeft now + 1 else 0

/-- What a run of a picked subscription `s` must leave for polling to end: a subscription
`u` that the candidate check can judge at `now`, and that weighs less on polling. -/
structure Polled (now : DateTime) (s u : Subscription) : Prop where
  judged : ∃ b, u.isCandidate now = .ok b
  cost_lt : u.pollCost now < s.pollCost now

/-- A run leaves a picked subscription polled when the check judges what it leaves: not
picked, or picked with fewer runs left. -/
theorem Polled.of_runsLeft {b : Bool} (hs : s.isPicked now = true) (hu : u.isCandidate now = .ok b)
    (hlt : b = true → u.runsLeft now < s.runsLeft now) : s.Polled now u := by
  refine ⟨⟨b, hu⟩, ?_⟩
  have hb : u.isPicked now = b := by simp [isPicked, hu]
  unfold pollCost
  rw [hs, hb]
  cases b with
  | false => simp
  | true =>
    have := hlt rfl
    simp only [if_true]
    omega

/-- A picked subscription renewed into its cycle's next period, active and with its grace
extensions cleared, is polled: if it is still due, its period starts at least a day later
and still before `now`'s date, a block of runs fewer. -/
theorem Polled.of_renewed (hs : s.Valid) (hpick : s.isPicked now = true) (hstatus : u.status = .active)
    (hretry : u.retry = s.retry.reset) (hnext : s.cycle.nextPeriod s.period = .ok u.period) :
    s.Polled now u := by
  refine .of_runsLeft hpick (isCandidate_of_active hstatus) fun hdue => ?_
  obtain ⟨hq, hlater⟩ := Cycle.nextPeriod_ok hs.cycle hs.period hnext
  have hend : u.period.endDate < now.date := by simpa [Period.isExpired] using hdue
  -- dates compare by their ordinals
  have hend : u.period.endDate.toOrdinal < now.date.toOrdinal := hend
  have hord : u.period.startDate.toOrdinal ≤ u.period.endDate.toOrdinal := hq.ordered
  have hlater : s.period.startDate.toOrdinal < u.period.startDate.toOrdinal := hlater
  have hdays : (now.date.toOrdinal - u.period.startDate.toOrdinal).toNat + 1 ≤
      (now.date.toOrdinal - s.period.startDate.toOrdinal).toNat := by omega
  have hblock := Nat.mul_le_mul_right (s.retry.maxGraceExtensions.toNat + 1) hdays
  rw [Nat.add_mul, Nat.one_mul] at hblock
  unfold runsLeft
  rw [hretry]
  simp only [RetryState.reset, sub_zero]
  omega

/-- A picked subscription left in retry, due strictly after `now`, is no longer picked. -/
theorem Polled.of_retried (hpick : s.isPicked now = true) (hstatus : u.status = .retry)
    (hdue : ∃ t, u.retry.nextAt = some t ∧ now.lt t = .ok true) : s.Polled now u := by
  obtain ⟨t, ht, hlt⟩ := hdue
  exact .of_runsLeft hpick ((isCandidate_of_retry hstatus ht).trans (DateTime.le_false_of_lt hlt))
    (fun h => nomatch h)

/-- A picked subscription that expires is no longer picked. -/
theorem Polled.of_expired (hpick : s.isPicked now = true) (hstatus : u.status = .expired) :
    s.Polled now u :=
  .of_runsLeft hpick (isCandidate_of_expired hstatus) (fun h => nomatch h)

/-- A picked subscription left past due in the same period, with a grace window counted
from `now` and one more of its grace extensions used, is polled. -/
theorem Polled.of_pastDue {days : Value} (hpick : s.isPicked now = true) (hstatus : u.status = .pastDue)
    (hgrace : ∃ g, now.addDayCount days = .ok g ∧ u.graceEnd = some g) (hperiod : u.period = s.period)
    (hmax : u.retry.maxGraceExtensions = s.retry.maxGraceExtensions)
    (hext : u.retry.graceExtensions = s.retry.graceExtensions + 1)
    (hx : s.retry.graceExhausted = false) : s.Polled now u := by
  obtain ⟨g, hg, hend⟩ := hgrace
  -- the window's end carries `now`'s offset, so the check can compare it with `now`
  obtain ⟨b, hb⟩ := DateTime.le_ok_of_offset (DateTime.addDayCount_offset hg)
  refine .of_runsLeft hpick ((isCandidate_of_pastDue hstatus hend).trans hb) fun _ => ?_
  simp only [RetryState.graceExhausted, decide_eq_false_iff_not, not_le] at hx
  unfold runsLeft
  rw [hperiod, hmax, hext]
  omega

end Subscription

namespace Engine

open Subscription

variable {e : Engine} {id : String} {now : DateTime} {w w' : World} {s u : Subscription}
  {p : PaymentAttempt} {r : RunResult}

/-- Whatever a run decides after the gateway for a picked subscription leaves it polled. -/
theorem Decided.polled {reply : GatewayReply} {q : PaymentAttempt} (hd : Decided e s p reply now w u q r)
    (hs : s.Valid) (hbill : isBillable s.status = true) (hpick : s.isPicked now = true) :
    s.Polled now u := by
  cases hd with
  | paid gr q u hr hok hq hu =>
    have hren := renewed_result hbill (movePayment_status hq) hu
    exact .of_renewed hs hpick hren.status hren.retry hren.period
  | retried gr f d u hr hok hf hdec hretry hu =>
    have hres := retried_result (movePayment_status hf) hdec hretry hu
    obtain ⟨t, ht, hlt, -⟩ := hres.due
    exact .of_retried hpick hres.status ⟨t, ht, hlt⟩
  | delinquent gr f d u hr hok hf hdec hretry hu =>
    have hres := delinquent_result (c := (declineDetails gr now).category) (movePayment_status hf) hu
    obtain ⟨-, -, hper, hmax⟩ := enterDelinquency_keeps hu
    -- with its grace used up it expires, otherwise it is past due with one extension more
    cases hx : s.retry.graceExhausted with
    | true => exact .of_expired hpick (hres.1 hx).status
    | false =>
      have hpd := hres.2 hx
      exact .of_pastDue hpick hpd.status hpd.graceEnd hper hmax hpd.graceExtensions hx

/-- After the gateway, a run of a picked subscription that returns saves it polled, valid and
under its own identifier. -/
theorem Finished.polled {reply : GatewayReply} {w₁ : World} (hf : Finished e s p reply now w₁ (.ok r w'))
    (hw : w₁.subscriptions = w.subscriptions) (hid : s.id = id) (hs : s.Valid)
    (hbill : isBillable s.status = true) (hpick : s.isPicked now = true) :
    ∃ u, w'.subscriptions = upsert id u w.subscriptions ∧ u.id = id ∧ u.Valid ∧ s.Polled now u := by
  cases hf with
  | saved u q r hd hpay hsub =>
    obtain ⟨-, -, -, huid, -⟩ := hd.written
    have huid : u.id = id := huid.trans hid
    refine ⟨u, ?_, huid, (hd.valid hs).1, hd.polled hs hbill hpick⟩
    simp only [storeSubscription_eq huid, World.storePayment_subscriptions, hw]

/-- Before the gateway, a run of a picked subscription that is not rejected renews it from a
payment that settled earlier or expires it, and saves it polled, valid and under its own
identifier: a picked subscription is never skipped. -/
theorem Begun.polled (hb : Begun e id now w (.ok (.finished r) w'))
    (hsub : w.subscriptions.lookup id = some s) (hid : s.id = id) (hs : s.Valid)
    (hpick : s.isPicked now = true) (hr : r.outcome ≠ .rejected) :
    ∃ u, w'.subscriptions = upsert id u w.subscriptions ∧ u.id = id ∧ u.Valid ∧ s.Polled now u := by
  cases hb with
  | skipped s₁ reason hload hs₁ hskip =>
    rw [hsub] at hs₁
    cases hs₁
    rw [skipReason_of_isCandidate (isCandidate_of_isPicked hpick)] at hskip
    cases hskip
  | settled s₁ u q hload hs₁ hskip hq hu hsave =>
    rw [hsub] at hs₁
    cases hs₁
    -- the payment found settled this cycle, so it succeeded
    obtain ⟨-, -, -, hsettles⟩ := findSettled_some _ hq
    have hqs : q.status = .succeeded := (settles_eq_true.mp hsettles).1
    have hren := renewed_result (skipReason_billable hskip) hqs hu
    have huid : u.id = id := (renewed_extends hu).2.trans hid
    exact ⟨u, storeSubscription_eq huid, huid, renewed_valid hs hu,
      .of_renewed hs hpick hren.status hren.retry hren.period⟩
  | expired s₁ u hload hs₁ hskip hq hgrace hx hu hsave =>
    rw [hsub] at hs₁
    cases hs₁
    obtain ⟨-, r, htr⟩ := move_ok hu
    have huid : u.id = id := (transition_id_period htr).1.trans hid
    exact ⟨u, storeSubscription_eq huid, huid, hs.transition htr,
      .of_expired hpick (Subscription.transition_status htr).1⟩
  | rejected => exact absurd rfl hr

/-- A run of a picked subscription that returns and is not rejected saves it polled, valid
and under its own identifier, and writes no other subscription. -/
theorem run_polled (hsub : w.subscriptions.lookup id = some s) (hid : s.id = id) (hs : s.Valid)
    (hpick : s.isPicked now = true) (hrun : (e.run id now).run w = .ok r w')
    (hr : r.outcome ≠ .rejected) :
    ∃ u, w'.subscriptions = upsert id u w.subscriptions ∧ u.id = id ∧ u.Valid ∧ s.Polled now u := by
  have hran := run_paths e id now w
  rw [hrun] at hran
  cases hran with
  | stopped r w' hb => exact hb.polled hsub hid hs hpick hr
  | cancelled s₁ q res hb ht hf =>
    obtain ⟨hs₁, hbill⟩ := hb.billable
    rw [hsub] at hs₁
    cases hs₁
    exact hf.polled rfl hid hs hbill hpick
  | called s₁ q res hb ht hf hres =>
    obtain ⟨hs₁, hbill⟩ := hb.billable
    rw [hsub] at hs₁
    cases hs₁
    exact hf.polled (by simp) hid hs hbill hpick

end Engine

namespace World

open Subscription

/-- A repository a poller can work on at `now`: a map from identifiers, each holding a valid
subscription of that identifier that the candidate check can judge at `now`. -/
structure Pollable (now : DateTime) (w : World) : Prop where
  nodup : (w.subscriptions.map Prod.fst).Nodup
  own : ∀ k s, (k, s) ∈ w.subscriptions → s.id = k
  valid : ∀ k s, (k, s) ∈ w.subscriptions → s.Valid
  judged : ∀ k s, (k, s) ∈ w.subscriptions → ∃ b, s.isCandidate now = .ok b

/-- What the stored subscriptions weigh on polling at `now`. -/
def pollBudget (w : World) (now : DateTime) : Nat :=
  (w.subscriptions.map fun kv => kv.2.pollCost now).sum

/-- The identifiers of the stored subscriptions that the candidate check picks at `now`. -/
def picked (w : World) (now : DateTime) : List String :=
  (w.subscriptions.filter fun kv => kv.2.isPicked now).map Prod.fst

variable {now : DateTime} {w w' : World} {id k : String} {s u : Subscription}

theorem pollBudget_store (hs : w.subscriptions.lookup id = some s)
    (hw : w'.subscriptions = upsert id u w.subscriptions) :
    w'.pollBudget now + s.pollCost now = w.pollBudget now + u.pollCost now := by
  unfold pollBudget
  rw [hw]
  exact sum_upsert (fun x => x.pollCost now) hs

/-- Each picked subscription weighs at least one run. -/
theorem length_picked_le (w : World) : (w.picked now).length ≤ w.pollBudget now := by
  unfold picked pollBudget
  induction w.subscriptions with
  | nil => simp
  | cons kv l ih =>
    have hcost : kv.2.isPicked now = true → 1 ≤ kv.2.pollCost now := fun h => by simp [pollCost, h]
    rw [List.filter_cons, List.map_cons, List.sum_cons]
    split
    · rename_i h
      have := hcost h
      simp only [List.map_cons, List.length_cons]
      omega
    · omega

namespace Pollable

variable (hp : w.Pollable now)
include hp

/-- Saving a valid subscription, which the check can judge, under its own identifier and
in place of a stored one keeps the repository pollable. -/
theorem store (hs : w.subscriptions.lookup id = some s)
    (hw : w'.subscriptions = upsert id u w.subscriptions) (huid : u.id = id) (hu : u.Valid)
    (hj : ∃ b, u.isCandidate now = .ok b) : w'.Pollable now := by
  -- every entry is the saved one or an old one
  have hmem : ∀ k x, (k, x) ∈ w'.subscriptions → (k = id ∧ x = u) ∨ (k, x) ∈ w.subscriptions := by
    intro k x hx
    rw [hw] at hx
    rcases mem_upsert hx with heq | hx
    · simp only [Prod.mk.injEq] at heq
      exact .inl heq
    · exact .inr hx
  refine ⟨?_, fun k x hx => ?_, fun k x hx => ?_, fun k x hx => ?_⟩
  · rw [hw, keys_upsert hs]
    exact hp.nodup
  all_goals rcases hmem k x hx with ⟨rfl, rfl⟩ | hx
  · exact huid
  · exact hp.own k x hx
  · exact hu
  · exact hp.valid k x hx
  · exact hj
  · exact hp.judged k x hx

theorem lookup_iff : w.subscriptions.lookup k = some s ↔ (k, s) ∈ w.subscriptions :=
  ⟨mem_of_lookup, lookup_of_mem hp.nodup⟩

/-- The check judges every stored subscription, so the poller's selection returns the
picked identifiers, in some order. -/
theorem candidateIds : ∃ ids, Subscription.candidateIds (w.subscriptions.map Prod.snd) now = .ok ids ∧
    ids.Perm (w.picked now) := by
  have hf : ∀ x ∈ w.subscriptions.map Prod.snd, x.isCandidate now = .ok (x.isPicked now) := by
    intro x hx
    obtain ⟨⟨k, x'⟩, hmem, rfl⟩ := List.mem_map.mp hx
    obtain ⟨b, hb⟩ := hp.judged k x' hmem
    exact isCandidate_eq_isPicked hb
  refine ⟨_, by simp only [Subscription.candidateIds, selectCandidates, filterM_ok hf]; rfl, ?_⟩
  refine ((sortBy_perm _ _).map Subscription.id).trans (List.Perm.of_eq ?_)
  -- a stored subscription's identifier is its key
  rw [List.filter_map, List.map_map, picked]
  exact List.map_congr_left fun kv hkv => hp.own kv.1 kv.2 (List.mem_of_mem_filter hkv)

theorem picked_nodup : (w.picked now).Nodup :=
  (List.filter_sublist.map Prod.fst).nodup hp.nodup

theorem lookup_of_picked (hk : k ∈ w.picked now) :
    ∃ s, w.subscriptions.lookup k = some s ∧ s.isPicked now = true := by
  obtain ⟨⟨k', s⟩, hmem, rfl⟩ := List.mem_map.mp hk
  obtain ⟨hmem, hpick⟩ := List.mem_filter.mp hmem
  exact ⟨s, (hp.lookup_iff).mpr hmem, hpick⟩

theorem not_picked (hs : w.subscriptions.lookup k = some s) (hc : s.isPicked now = false) :
    k ∉ w.picked now := by
  intro hk
  obtain ⟨s', hs', hpick⟩ := hp.lookup_of_picked hk
  rw [hs] at hs'
  cases hs'
  rw [hc] at hpick
  cases hpick

end Pollable

end World

/-- The runs of one polling pass at `now`, one for each identifier in turn, each returning
normally and none refused for want of a payment method. -/
inductive RunsEach (e : Engine) (now : DateTime) : List String → World → World → Prop
  | nil (w : World) : RunsEach e now [] w w
  | cons {id : String} {ids : List String} {w w₁ w' : World} (r : RunResult)
      (hrun : (e.run id now).run w = .ok r w₁) (hr : r.outcome ≠ .rejected)
      (rest : RunsEach e now ids w₁ w') : RunsEach e now (id :: ids) w w'

/-- One polling pass at `now`: the candidates are selected from the stored subscriptions,
then each of them is run. -/
def Pass (e : Engine) (now : DateTime) (w w' : World) : Prop :=
  ∃ ids, Subscription.candidateIds (w.subscriptions.map Prod.snd) now = .ok ids ∧ RunsEach e now ids w w'

/-- `n` polling passes at `now`, one after another. -/
inductive Polls (e : Engine) (now : DateTime) : Nat → World → World → Prop
  | refl (w : World) : Polls e now 0 w w
  | tail {n : Nat} {w w₁ w' : World} (h : Polls e now n w w₁) (hpass : Pass e now w₁ w') :
      Polls e now (n + 1) w w'

section Passes

open Subscription

variable {e : Engine} {now : DateTime} {w w' : World}

/-- Runs of picked subscriptions, each stored under its own identifier, keep the repository
pollable, lower its budget by at least one each, and write no other subscription. -/
theorem RunsEach.polled {ids : List String} (h : RunsEach e now ids w w') (hp : w.Pollable now)
    (hnd : ids.Nodup)
    (hpicked : ∀ id ∈ ids, ∃ s, w.subscriptions.lookup id = some s ∧ s.isPicked now = true) :
    w'.Pollable now ∧ w'.pollBudget now + ids.length ≤ w.pollBudget now ∧
      ∀ k, k ∉ ids → w'.subscriptions.lookup k = w.subscriptions.lookup k := by
  induction h with
  | nil w => exact ⟨hp, by simp, fun _ _ => rfl⟩
  | @cons id ids w w₁ w' r hrun hr rest ih =>
    obtain ⟨s, hs, hpick⟩ := hpicked id List.mem_cons_self
    have hmem := mem_of_lookup hs
    obtain ⟨u, hw₁, huid, hu, hpol⟩ :=
      Engine.run_polled hs (hp.own _ _ hmem) (hp.valid _ _ hmem) hpick hrun hr
    have hbudget : w₁.pollBudget now + s.pollCost now = w.pollBudget now + u.pollCost now :=
      World.pollBudget_store hs hw₁
    have hcost := hpol.cost_lt
    -- the run wrote only its own subscription, so the later ones are still picked
    have hframe : ∀ k, k ≠ id → w₁.subscriptions.lookup k = w.subscriptions.lookup k := by
      intro k hk
      rw [hw₁, lookup_upsert_of_ne _ _ _ _ hk]
    obtain ⟨hid, hnd'⟩ := List.nodup_cons.mp hnd
    obtain ⟨hp', hb', hfr'⟩ := ih (hp.store hs hw₁ huid hu hpol.judged) hnd' fun k hk => by
      obtain ⟨s', hs', hpk⟩ := hpicked k (List.mem_cons_of_mem _ hk)
      have hne : k ≠ id := fun h => hid (h ▸ hk)
      exact ⟨s', (hframe k hne).trans hs', hpk⟩
    refine ⟨hp', by simp only [List.length_cons]; omega, fun k hk => ?_⟩
    rw [List.mem_cons, not_or] at hk
    rw [hfr' k hk.2, hframe k hk.1]

/-- A pass runs exactly the picked subscriptions: it keeps the repository pollable, lowers
its budget by at least their number, and leaves every other subscription as it was. -/
theorem Pass.polled (h : Pass e now w w') (hp : w.Pollable now) :
    w'.Pollable now ∧ ∃ ids, Subscription.candidateIds (w.subscriptions.map Prod.snd) now = .ok ids ∧
      ids.Perm (w.picked now) ∧ w'.pollBudget now + ids.length ≤ w.pollBudget now ∧
      ∀ k, k ∉ w.picked now → w'.subscriptions.lookup k = w.subscriptions.lookup k := by
  obtain ⟨ids, hids, hruns⟩ := h
  obtain ⟨ids', hids', hperm⟩ := hp.candidateIds
  rw [hids] at hids'
  cases hids'
  obtain ⟨hp', hb, hfr⟩ := hruns.polled hp (hperm.nodup_iff.mpr hp.picked_nodup)
    fun id hid => hp.lookup_of_picked (hperm.mem_iff.mp hid)
  exact ⟨hp', ids, hids, hperm, hb, fun k hk => hfr k fun h => hk (hperm.mem_iff.mp h)⟩

/-- A pass that selects nothing changes nothing. -/
theorem Pass.eq_of_nil (h : Pass e now w w')
    (hnil : Subscription.candidateIds (w.subscriptions.map Prod.snd) now = .ok []) : w' = w := by
  obtain ⟨ids, hids, hruns⟩ := h
  rw [hnil] at hids
  cases hids
  cases hruns
  rfl

/-- Along passes the repository stays pollable, and until nothing is picked any more each
pass has lowered the budget by at least one. -/
theorem Polls.polled {n : Nat} (h : Polls e now n w w') (hp : w.Pollable now) :
    w'.Pollable now ∧ (w'.picked now = [] ∨ w'.pollBudget now + n ≤ w.pollBudget now) := by
  induction h with
  | refl => exact ⟨hp, .inr (by simp)⟩
  | @tail n w w₁ w' h hpass ih =>
    obtain ⟨hp₁, hrest⟩ := ih hp
    obtain ⟨hp', ids, hids, hperm, hb, -⟩ := hpass.polled hp₁
    refine ⟨hp', ?_⟩
    cases ids with
    | nil =>
      -- the pass ran nothing, and nothing was picked
      rw [hpass.eq_of_nil hids]
      exact .inl hperm.symm.eq_nil
    | cons id ids =>
      rcases hrest with hnil | hle
      · rw [hnil] at hperm
        exact absurd hperm.eq_nil (List.cons_ne_nil _ _)
      · simp only [List.length_cons] at hb
        exact .inr (by omega)

/-- Along passes, a subscription the check does not pick stays stored as it is. -/
theorem Polls.keeps {n : Nat} {k : String} {s : Subscription} (h : Polls e now n w w')
    (hp : w.Pollable now) (hs : w.subscriptions.lookup k = some s) (hc : s.isPicked now = false) :
    w'.subscriptions.lookup k = some s := by
  induction h with
  | refl => exact hs
  | @tail n w w₁ w' h hpass ih =>
    have hs₁ := ih hp hs
    have hp₁ := (h.polled hp).1
    obtain ⟨-, ids, -, -, -, hfr⟩ := hpass.polled hp₁
    rw [hfr k (hp₁.not_picked hs₁ hc), hs₁]

end Passes

/-- A repository whose first selection of candidates returns is pollable, once it holds
valid subscriptions, each stored once under its own identifier. -/
theorem World.Pollable.of_candidateIds {now : DateTime} {w : World}
    (hkeys : (w.subscriptions.map Prod.fst).Nodup) (hown : ∀ k s, (k, s) ∈ w.subscriptions → s.id = k)
    (hvalid : ∀ k s, (k, s) ∈ w.subscriptions → s.Valid)
    (hsel : ∃ ids, Subscription.candidateIds (w.subscriptions.map Prod.snd) now = .ok ids) :
    w.Pollable now := by
  obtain ⟨ids, hids⟩ := hsel
  unfold Subscription.candidateIds Subscription.selectCandidates at hids
  obtain ⟨picked, hpicked, -⟩ := Except.bind_eq_ok.mp hids
  obtain ⟨l, hl, -⟩ := Except.bind_eq_ok.mp hpicked
  have hj := judged_of_filterM hl
  exact ⟨hkeys, hown, hvalid, fun k s hmem => hj s (List.mem_map.mpr ⟨(k, s), hmem, rfl⟩)⟩

/-- Polling at a fixed time comes to rest. Take a repository of valid subscriptions, each
stored once under its own identifier, whose candidates the poller can select at `now` (the
selection compares stored retry and grace times with `now`). Poll it at `now` pass after
pass, whatever the gateway answers, every run returning normally and none refused for want
of a payment method. Then every pass can select its candidates; after as many passes as the
repository's budget there are none left, and a pass changes nothing; and a subscription
that is not a candidate stays stored as it is through every later pass, so it never becomes
one again. -/
theorem polling_comes_to_rest (e : Engine) (now : DateTime) {w₀ : World}
    (hkeys : (w₀.subscriptions.map Prod.fst).Nodup) (hown : ∀ k s, (k, s) ∈ w₀.subscriptions → s.id = k)
    (hvalid : ∀ k s, (k, s) ∈ w₀.subscriptions → s.Valid)
    (hsel : ∃ ids, Subscription.candidateIds (w₀.subscriptions.map Prod.snd) now = .ok ids) :
    (∀ n w, Polls e now n w₀ w →
      ∃ ids, Subscription.candidateIds (w.subscriptions.map Prod.snd) now = .ok ids) ∧
    (∀ n w, Polls e now n w₀ w → w₀.pollBudget now ≤ n →
      Subscription.candidateIds (w.subscriptions.map Prod.snd) now = .ok [] ∧
        ∀ w', Pass e now w w' → w' = w) ∧
    (∀ n m w w' k s, Polls e now n w₀ w → Polls e now m w w' → w.subscriptions.lookup k = some s →
      s.isCandidate now = .ok false → w'.subscriptions.lookup k = some s) := by
  have hp₀ : w₀.Pollable now := .of_candidateIds hkeys hown hvalid hsel
  refine ⟨fun n w h => ?_, fun n w h hn => ?_, fun n m w w' k s h h' hs hc => ?_⟩
  · obtain ⟨ids, hids, -⟩ := (h.polled hp₀).1.candidateIds
    exact ⟨ids, hids⟩
  · obtain ⟨hp, hrest⟩ := h.polled hp₀
    -- while something is picked the budget is at least one, so it cannot have dropped `n` times
    have hnil : w.picked now = [] := by
      rcases hrest with hnil | hle
      · exact hnil
      · by_contra hne
        have hlen : (w.picked now).length ≤ w.pollBudget now := World.length_picked_le w
        have hpos := List.length_pos_of_ne_nil hne
        omega
    obtain ⟨ids, hids, hperm⟩ := hp.candidateIds
    rw [hnil, List.perm_nil] at hperm
    rw [hperm] at hids
    exact ⟨hids, fun w' hpass => hpass.eq_of_nil hids⟩
  · exact h'.keeps (h.polled hp₀).1 hs (by simp [Subscription.isPicked, hc])

/-- A monthly subscription of 1000 TWD, active, whose January period ended a month ago. -/
def overdueSubscription : Subscription :=
  { (default : Subscription) with
    id := "sub_1"
    customer := "cust_1"
    paymentMethod := some "pm_card"
    amount := ⟨1000, "TWD"⟩
    cycle := ⟨.monthly, none, none⟩
    status := .active
    period := ⟨⟨2024, 1, 1⟩, ⟨2024, 1, 31⟩, 1⟩ }

/-- A monthly subscription of 1000 TWD, past due, whose grace window ended on 29 February,
with one grace extension allowed and none used. -/
def lapsedSubscription : Subscription :=
  { (default : Subscription) with
    id := "sub_2"
    customer := "cust_2"
    paymentMethod := some "pm_card"
    amount := ⟨1000, "TWD"⟩
    cycle := ⟨.monthly, none, none⟩
    status := .pastDue
    period := ⟨⟨2024, 2, 1⟩, ⟨2024, 2, 29⟩, 1⟩
    retry := ⟨0, 0, none, none, 0, 1⟩
    graceEnd := some ⟨⟨2024, 2, 29⟩, 9, 0, 0, 0, some 0⟩ }

/-- The repository holding both. -/
def overdueWorld : World :=
  ⟨[("sub_1", overdueSubscription), ("sub_2", lapsedSubscription)], [], ⟨none, none, none, none⟩,
    [], 0, [], []⟩

/-- Polled on the first of March, the two subscriptions weigh 121 runs, and after 121 passes
nothing is left to bill. -/
theorem overdue_repository_comes_to_rest :
    overdueWorld.pollBudget marchFirst = 121 ∧
      ∀ n w, Polls retryEngine marchFirst n overdueWorld w → 121 ≤ n →
        Subscription.candidateIds (w.subscriptions.map Prod.snd) marchFirst = .ok [] := by
  have hbudget : overdueWorld.pollBudget marchFirst = 121 := by decide +kernel
  have htwd : (⟨1000, "TWD"⟩ : Money).Valid := by
    unfold Money.Valid
    decide +kernel
  have hcycle : (⟨.monthly, none, none⟩ : Cycle).Valid :=
    ⟨(fun n hn => nomatch hn), (fun a ha => nomatch ha), rfl, by decide⟩
  have hvalid : ∀ k s, (k, s) ∈ overdueWorld.subscriptions → s.Valid := by
    intro k s hmem
    simp only [overdueWorld, List.mem_cons, Prod.mk.injEq, List.not_mem_nil, or_false] at hmem
    rcases hmem with ⟨-, rfl⟩ | ⟨-, rfl⟩
    · exact ⟨htwd, hcycle, ⟨by decide, by decide, by decide, by decide⟩,
        ⟨by decide, by decide, by decide, by decide⟩⟩
    · exact ⟨htwd, hcycle, ⟨by decide, by decide, by decide, by decide⟩,
        ⟨by decide, by decide, by decide, by decide⟩⟩
  have hown : ∀ k s, (k, s) ∈ overdueWorld.subscriptions → s.id = k := by
    intro k s hmem
    simp only [overdueWorld, List.mem_cons, Prod.mk.injEq, List.not_mem_nil, or_false] at hmem
    rcases hmem with ⟨rfl, rfl⟩ | ⟨rfl, rfl⟩ <;> rfl
  have hsel : Subscription.candidateIds (overdueWorld.subscriptions.map Prod.snd) marchFirst =
      .ok ["sub_1", "sub_2"] := Outcome.ok_of_toOption (by decide +kernel)
  have hrest := (polling_comes_to_rest retryEngine marchFirst (by decide) hown hvalid ⟨_, hsel⟩).2.1
  exact ⟨hbudget, fun n w h hn => (hrest n w h (hbudget ▸ hn)).1⟩

/-- A subscription in retry whose next retry time, five past nine on the first of March, has
no offset. -/
def naiveRetrySubscription : Subscription :=
  { overdueSubscription with
    status := .retry
    period := ⟨⟨2024, 2, 1⟩, ⟨2024, 2, 29⟩, 1⟩
    retry := ⟨1, 5, some ⟨⟨2024, 3, 1⟩, 9, 5, 0, 0, none⟩, some .retriable, 0, 1⟩ }

/-- Polled at ten on the first of March in UTC, the candidate check cannot compare the two
times, so the poller's very first selection fails and no pass can run. -/
theorem naive_retry_time_stops_polling :
    Subscription.candidateIds [naiveRetrySubscription] ⟨⟨2024, 3, 1⟩, 10, 0, 0, 0, some 0⟩ =
      .error .naiveAwareComparison := by
  rfl


end Billing
