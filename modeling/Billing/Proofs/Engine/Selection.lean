import Billing.Proofs.Engine.Polling
import Billing.Proofs.Engine.Charges
import Billing.Proofs.Calendar.Tiling
import Mathlib.Data.String.Basic

/-! # The scheduler and the runs agree on what is billable

The scheduler picks a subscription when it is due (active, its period over), due for a
retry (in retry, its retry time reached) or past its grace window (in grace or past due,
the window's end reached). A run skips a subscription whose status is not billable (active,
retry, grace or past due), an active one that is not due, and one in retry whose retry is
not due. The two checks are written apart and agree (`scheduler_agrees_with_runs`): a
subscription the scheduler picks is never skipped; for an active subscription or one in
retry the converse holds too; and a subscription in any other status is neither picked nor
billed, its run being skipped with nothing written.

The selection keeps exactly the picked subscriptions of its input, each as often as it
occurs there (`selectCandidates_spec`), ordered by the end of their period and then by
identifier (`sortBy_sorted`). It succeeds exactly when the candidate check succeeds on every
subscription of the input. The order is total on dates of the calendar, where equal
ordinals are equal dates (`Date.toOrdinal_inj`). -/
namespace Billing

namespace Subscription

/-- The scheduler's order on keys: the earlier end date first, and on one end date the
smaller identifier. -/
def keyBefore (p q : Date × String) : Prop :=
  p.1 < q.1 ∨ (p.1 = q.1 ∧ p.2 ≤ q.2)

/-- The scheduler's order on subscriptions: by the end of the period, then by identifier. -/
def billedBefore (a b : Subscription) : Prop :=
  keyBefore (a.period.endDate, a.id) (b.period.endDate, b.id)

theorem keyBefore_trans {p q r : Date × String} (hpq : keyBefore p q) (hqr : keyBefore q r) :
    keyBefore p r := by
  obtain ⟨d₁, i₁⟩ := p
  obtain ⟨d₂, i₂⟩ := q
  obtain ⟨d₃, i₃⟩ := r
  simp only [keyBefore] at hpq hqr ⊢
  rcases hpq with hd | ⟨rfl, hi⟩ <;> rcases hqr with hd' | ⟨rfl, hi'⟩
  · exact .inl (show d₁.toOrdinal < d₃.toOrdinal from Int.lt_trans hd hd')
  · exact .inl hd
  · exact .inl hd'
  · exact .inr ⟨rfl, le_trans hi hi'⟩

/-- On dates of the calendar, two keys are always in order one way or the other. -/
theorem keyBefore_total {p q : Date × String} (hp : p.1.isValid = true) (hq : q.1.isValid = true) :
    keyBefore p q ∨ keyBefore q p := by
  obtain ⟨d₁, i₁⟩ := p
  obtain ⟨d₂, i₂⟩ := q
  simp only [keyBefore] at hp hq ⊢
  rcases Int.lt_trichotomy d₁.toOrdinal d₂.toOrdinal with hlt | heq | hgt
  · exact .inl (.inl hlt)
  · -- one ordinal names one date of the calendar
    obtain rfl := Date.toOrdinal_inj hp hq heq
    rcases le_total i₁ i₂ with hi | hi
    · exact .inl (.inr ⟨rfl, hi⟩)
    · exact .inr (.inr ⟨rfl, hi⟩)
  · exact .inr (.inl hgt)

section Sorting

variable {β : Type} (key : β → Date × String)

/-- Inserting into a list in the scheduler's order keeps it in order. -/
theorem sortBy_insert_sorted (x : β) (l : List β) (hx : (key x).1.isValid = true)
    (hl : ∀ y ∈ l, (key y).1.isValid = true)
    (hs : l.Pairwise fun a b => keyBefore (key a) (key b)) :
    (sortBy.insert key x l).Pairwise fun a b => keyBefore (key a) (key b) := by
  induction l with
  | nil => simp [sortBy.insert]
  | cons y ys ih =>
    rw [List.pairwise_cons] at hs
    rcases hkx : key x with ⟨dx, ix⟩
    rcases hky : key y with ⟨dy, iy⟩
    simp only [sortBy.insert, hkx, hky]
    split
    · -- `x` goes first: it comes before `y`, so before everything after `y`
      rename_i hxy
      have hfirst : keyBefore (key x) (key y) := by
        rw [hkx, hky]
        exact hxy
      refine List.pairwise_cons.mpr ⟨fun z hz => ?_, List.pairwise_cons.mpr hs⟩
      rcases List.mem_cons.mp hz with rfl | hz
      · exact hfirst
      · exact keyBefore_trans hfirst (hs.1 z hz)
    · -- `y` stays first: `x` is not before it, so it is after it
      rename_i hxy
      have hafter : keyBefore (key y) (key x) := by
        refine (keyBefore_total hx (hl y List.mem_cons_self)).resolve_left ?_
        rw [hkx, hky]
        exact hxy
      refine List.pairwise_cons.mpr
        ⟨fun z hz => ?_, ih (fun z hz => hl z (List.mem_cons_of_mem y hz)) hs.2⟩
      rcases List.mem_cons.mp ((sortBy_insert_perm key x ys).mem_iff.mp hz) with rfl | hz
      · exact hafter
      · exact hs.1 z hz

/-- Sorting puts a list whose keys are dates of the calendar in the scheduler's order. -/
theorem sortBy_sorted (l : List β) (hl : ∀ y ∈ l, (key y).1.isValid = true) :
    (sortBy key l).Pairwise fun a b => keyBefore (key a) (key b) := by
  induction l with
  | nil => exact .nil
  | cons x xs ih =>
    have hxs : ∀ y ∈ xs, (key y).1.isValid = true := fun y hy => hl y (List.mem_cons_of_mem x hy)
    exact sortBy_insert_sorted key x _ (hl x List.mem_cons_self)
      (fun y hy => hxs y ((sortBy_perm key xs).mem_iff.mp hy)) (ih hxs)

end Sorting

variable {s : Subscription} {subs r : List Subscription} {now : DateTime}

/-- When the candidate check succeeds on every subscription, the selection is the picked
ones, sorted. -/
theorem selectCandidates_eq (h : ∀ s ∈ subs, ∃ b, s.isCandidate now = .ok b) :
    selectCandidates subs now =
      .ok (sortBy (fun s => (s.period.endDate, s.id)) (subs.filter (·.isPicked now))) := by
  unfold selectCandidates
  rw [filterM_ok fun s hs => isCandidate_eq_isPicked (h s hs).choose_spec]
  rfl

/-- The selection succeeds exactly when the candidate check succeeds on every
subscription. -/
theorem selectCandidates_ok_iff :
    (∃ r, selectCandidates subs now = .ok r) ↔ ∀ s ∈ subs, ∃ b, s.isCandidate now = .ok b := by
  constructor
  · rintro ⟨r, h⟩
    unfold selectCandidates at h
    obtain ⟨picked, hpicked, -⟩ := Except.bind_eq_ok.mp h
    exact judged_of_filterM hpicked
  · intro h
    exact ⟨_, selectCandidates_eq h⟩

/-- The selection is the picked subscriptions of the input, each as often as it occurs
there, in the scheduler's order. -/
theorem selectCandidates_spec (hv : ∀ s ∈ subs, s.period.endDate.isValid = true)
    (h : selectCandidates subs now = .ok r) :
    r.Perm (subs.filter (·.isPicked now)) ∧ r.Pairwise billedBefore := by
  rw [selectCandidates_eq (selectCandidates_ok_iff.mp ⟨r, h⟩)] at h
  cases h
  refine ⟨sortBy_perm _ _, sortBy_sorted _ _ fun s hs => hv s (List.mem_filter.mp hs).1⟩

/-- An active subscription, or one in retry, that a run does not skip is a candidate. -/
theorem isCandidate_of_skipReason (hs : s.status = .active ∨ s.status = .retry)
    (h : Engine.skipReason s now = .ok none) : s.isCandidate now = .ok true := by
  obtain ⟨-, hdue, hretry⟩ := Engine.skipReason_none_spec h
  rcases hs with hs | hs
  · rw [isCandidate_of_active hs, hdue hs]
  · obtain ⟨t, ht, hle⟩ := hretry hs
    rw [isCandidate_of_retry hs ht, hle]

/-- A subscription whose status is not billable is no candidate, and a run skips it as not
billable. -/
theorem isCandidate_not_billable (hb : Engine.isBillable s.status = false) :
    s.isCandidate now = .ok false ∧ Engine.skipReason s now = .ok (some .notBillable) := by
  refine ⟨?_, by simp [Engine.skipReason, hb, pure, Except.pure]⟩
  unfold isCandidate isDue isRetryDue isGraceElapsed
  cases hs : s.status <;> simp_all [Engine.isBillable] <;> rfl

end Subscription

namespace Engine

variable {e : Engine} {id : String} {now : DateTime} {w w' : World} {s u : Subscription}
  {p q : PaymentAttempt} {reply : GatewayReply} {r : RunResult}

/-- After the gateway, a run renews, schedules a retry, or makes the subscription past due
or expired: it never answers that it skipped. -/
theorem Decided.not_skipped (hd : Decided e s p reply now w u q r) : r.outcome ≠ .skipped := by
  cases hd with
  | paid => nofun
  | retried => nofun
  | delinquent => dsimp only; split <;> nofun

/-- The run of a stored subscription that the scheduler picks never answers that it
skipped: it fails, or it bills, renews, expires or is rejected. -/
theorem run_not_skipped (hs : w.subscriptions.lookup id = some s)
    (hc : s.isCandidate now = .ok true) (h : (e.run id now).run w = .ok r w') :
    r.outcome ≠ .skipped := by
  have hpaths := run_paths e id now w
  rw [h] at hpaths
  cases hpaths with
  | stopped r w' hb =>
    cases hb with
    | skipped s' reason hload hs' hskip =>
      -- the skip check lets a candidate through
      rw [hs] at hs'
      cases hs'
      rw [Subscription.skipReason_of_isCandidate hc] at hskip
      cases hskip
    | settled => nofun
    | expired => nofun
    | rejected => nofun
  | cancelled s p res hb ht hf =>
    cases hf with
    | saved u q r hd hpay hsub => exact hd.not_skipped
  | called s p res hb ht hf hres =>
    cases hf with
    | saved u q r hd hpay hsub => exact hd.not_skipped

end Engine

open Subscription in
/-- The scheduler and the runs agree on what is billable: a picked subscription is never
skipped, and its run never answers that it skipped; an active one or one in retry that is
not skipped is picked; one in any other status than the four billable ones is not picked,
and its run is skipped as not billable with nothing written (or fails, writing nothing). The selection succeeds exactly when the
candidate check does on every input, and then it is the picked subscriptions of the input,
each as often as it occurs there, ordered by period end and then by identifier. -/
theorem scheduler_agrees_with_runs (subs : List Subscription) (now : DateTime)
    (hv : ∀ s ∈ subs, s.period.endDate.isValid = true) :
    (∀ s : Subscription, s.isCandidate now = .ok true → Engine.skipReason s now = .ok none ∧
      ∀ (e : Engine) (id : String) (w w' : World) (r : RunResult),
        w.subscriptions.lookup id = some s → (e.run id now).run w = .ok r w' →
        r.outcome ≠ .skipped) ∧
    (∀ s : Subscription, s.status = .active ∨ s.status = .retry →
      Engine.skipReason s now = .ok none → s.isCandidate now = .ok true) ∧
    (∀ s : Subscription, Engine.isBillable s.status = false →
      s.isCandidate now = .ok false ∧ Engine.skipReason s now = .ok (some .notBillable) ∧
      ∀ (e : Engine) (id : String) (w : World), w.subscriptions.lookup id = some s →
        (e.run id now).run w = .ok ⟨id, .skipped, s, none, none, none, some "not_billable"⟩ w ∨
          ∃ err, (e.run id now).run w = .error err w) ∧
    ((∃ r, selectCandidates subs now = .ok r) ↔ ∀ s ∈ subs, ∃ b, s.isCandidate now = .ok b) ∧
    (∀ r, selectCandidates subs now = .ok r →
      r.Perm (subs.filter (·.isPicked now)) ∧ r.Pairwise billedBefore) :=
  ⟨fun _ h => ⟨skipReason_of_isCandidate h, fun _ _ _ _ _ hs hr => Engine.run_not_skipped hs h hr⟩,
    fun _ hs h => isCandidate_of_skipReason hs h,
    fun _ hb => ⟨(isCandidate_not_billable hb).1, (isCandidate_not_billable hb).2,
      fun _ _ _ hs => Engine.run_skipped_of_not_billable hs hb⟩,
    selectCandidates_ok_iff, fun _ h => selectCandidates_spec hv h⟩

/-- Three subscriptions whose periods end on the last day of February 2024: two active ones,
the larger identifier first, and a paused one between them. -/
def februaryRenewals : List Subscription :=
  [{ (default : Subscription) with
      id := "sub_2", status := .active, period := ⟨⟨2024, 2, 1⟩, ⟨2024, 2, 29⟩, 1⟩ },
    { (default : Subscription) with
      id := "sub_3", status := .paused, period := ⟨⟨2024, 2, 1⟩, ⟨2024, 2, 29⟩, 1⟩ },
    { (default : Subscription) with
      id := "sub_1", status := .active, period := ⟨⟨2024, 2, 1⟩, ⟨2024, 2, 29⟩, 1⟩ }]

open Subscription in
/-- The end dates of the February renewals are dates of the calendar, so the scheduler and
the runs agree on them on the first of March: the scheduler picks the two active
subscriptions, both due, the smaller identifier first, and leaves the paused one. -/
theorem scheduler_agrees_on_february :
    (∀ s ∈ februaryRenewals, s.period.endDate.isValid = true) ∧
    candidateIds februaryRenewals marchFirst = .ok ["sub_1", "sub_2"] ∧
    (∀ s : Subscription, s.isCandidate marchFirst = .ok true →
      Engine.skipReason s marchFirst = .ok none ∧
      ∀ (e : Engine) (id : String) (w w' : World) (r : RunResult),
        w.subscriptions.lookup id = some s → (e.run id marchFirst).run w = .ok r w' →
        r.outcome ≠ .skipped) ∧
    (∀ s : Subscription, s.status = .active ∨ s.status = .retry →
      Engine.skipReason s marchFirst = .ok none → s.isCandidate marchFirst = .ok true) ∧
    (∀ s : Subscription, Engine.isBillable s.status = false →
      s.isCandidate marchFirst = .ok false ∧
      Engine.skipReason s marchFirst = .ok (some .notBillable) ∧
      ∀ (e : Engine) (id : String) (w : World), w.subscriptions.lookup id = some s →
        (e.run id marchFirst).run w =
            .ok ⟨id, .skipped, s, none, none, none, some "not_billable"⟩ w ∨
          ∃ err, (e.run id marchFirst).run w = .error err w) ∧
    ((∃ r, selectCandidates februaryRenewals marchFirst = .ok r) ↔
      ∀ s ∈ februaryRenewals, ∃ b, s.isCandidate marchFirst = .ok b) ∧
    (∀ r, selectCandidates februaryRenewals marchFirst = .ok r →
      r.Perm (februaryRenewals.filter (·.isPicked marchFirst)) ∧ r.Pairwise billedBefore) := by
  have hv : ∀ s ∈ februaryRenewals, s.period.endDate.isValid = true := by decide
  have hids : candidateIds februaryRenewals marchFirst = .ok ["sub_1", "sub_2"] :=
    Outcome.ok_of_toOption (by decide +kernel)
  exact ⟨hv, hids, scheduler_agrees_with_runs februaryRenewals marchFirst hv⟩

end Billing
