import Billing.Proofs.Engine.Values
import Mathlib.Logic.Relation

/-! # Dunning ends

A declined charge either schedules a retry, which counts one more attempt, or makes the
subscription delinquent, which uses one more grace extension or, with none left, expires
it. No retry policy allows more than five retries, and a subscription allows its own number
`g` of grace extensions. So a cycle that starts from a fresh retry state sees at most
`6 + g` charges: the `weight` of the retry state starts at `6 + g`, and every charge that
leaves the subscription in that cycle, and not expired, lowers it by one. -/
namespace Billing

namespace RetryPolicy

theorem maxRetries_le_five (c : FailureCategory) : (ofCategory c).maxRetries ≤ 5 := by
  cases c <;> decide

/-- A retry is scheduled only while fewer retries were made than the policy allows. -/
theorem lt_of_nextAt {p : RetryPolicy} {attempt : Int} {now t : DateTime}
    (h : p.nextAt attempt now = .ok (some t)) : attempt < p.maxRetries := by
  unfold nextAt at h
  cases hc : p.canRetry attempt with
  | false =>
    rw [hc] at h
    cases h
  | true =>
    simp only [canRetry, Bool.and_eq_true, decide_eq_true_eq] at hc
    exact hc.2

end RetryPolicy

/-- A decision, with the values it was made from. -/
theorem RetryDecision.make_spec {should : Bool} {c : FailureCategory} {attempt maxRetries : Int}
    {next : Option DateTime} {strategy : RetryStrategy} {reason : RetryReason} {d : RetryDecision}
    (h : RetryDecision.make should c attempt maxRetries next strategy reason = .ok d) :
    d = ⟨should, c, attempt, maxRetries, next, strategy, reason⟩ ∧ 0 ≤ attempt := by
  unfold RetryDecision.make at h
  split at h
  · cases h
  · split at h
    · cases h
    · cases h
      exact ⟨rfl, by omega⟩

theorem RetryDecision.make_ok {should : Bool} {c : FailureCategory} {attempt maxRetries : Int}
    {next : Option DateTime} {strategy : RetryStrategy} {reason : RetryReason} {d : RetryDecision}
    (h : RetryDecision.make should c attempt maxRetries next strategy reason = .ok d) :
    d.shouldRetry = should ∧ d.maxRetries = maxRetries := by
  obtain ⟨rfl, -⟩ := RetryDecision.make_spec h
  exact ⟨rfl, rfl⟩

/-- The policy's decision allows at most five retries, and a retry only while fewer were
made. -/
theorem evaluateRetry_ok {c : FailureCategory} {attempt : Int} {now : DateTime}
    {jitter : Option RetryJitter} {d : RetryDecision}
    (h : evaluateRetry c attempt now jitter = .ok d) :
    d.maxRetries ≤ 5 ∧ (d.shouldRetry = true → attempt < d.maxRetries) := by
  have hle := RetryPolicy.maxRetries_le_five c
  unfold evaluateRetry at h
  dsimp only at h
  cases hn : (RetryPolicy.ofCategory c).nextAt attempt now with
  | error err =>
    rw [hn] at h
    cases h
  | ok next =>
    rw [hn] at h
    simp only [bind, Except.bind] at h
    cases next with
    | none =>
      obtain ⟨hshould, hmax⟩ := RetryDecision.make_ok h
      rw [hmax, hshould]
      exact ⟨hle, fun h => by cases h⟩
    | some t =>
      have hlt := RetryPolicy.lt_of_nextAt hn
      -- the jittered time may fail to compute, but a decision keeps the policy's limit
      have hmax : d.maxRetries = (RetryPolicy.ofCategory c).maxRetries := by
        cases jitter with
        | none => exact (RetryDecision.make_ok h).2
        | some j =>
          dsimp only at h
          repeat' split at h
          all_goals first | cases h | exact (RetryDecision.make_ok h).2
      rw [hmax]
      exact ⟨hle, fun _ => hlt⟩

namespace RetryState

/-- The bounds the retry bookkeeping keeps: no more retries made than allowed, at most five
allowed, and no more grace extensions used than allowed. -/
structure Bounded (r : RetryState) : Prop where
  attempt_le : r.attempt ≤ r.maxRetries
  maxRetries_le : r.maxRetries ≤ 5
  grace_le : r.graceExtensions ≤ r.maxGraceExtensions

/-- The charges a cycle may still see from this state: one for each retry left under the
largest policy, one for each grace extension left, and the one that ends the cycle. -/
def weight (r : RetryState) : Int :=
  (5 - r.attempt) + (r.maxGraceExtensions - r.graceExtensions) + 1

theorem Bounded.one_le_weight {r : RetryState} (h : r.Bounded) : 1 ≤ r.weight := by
  have h₁ := h.attempt_le
  have h₂ := h.maxRetries_le
  have h₃ := h.grace_le
  unfold weight
  omega

theorem reset_bounded {r : RetryState} (h : 0 ≤ r.maxGraceExtensions) : r.reset.Bounded :=
  ⟨Int.le_refl _, by simp [reset], h⟩

end RetryState

/-- The charges the subscription may still see in cycle `c`: none once it is past `c` or
expired. -/
def Subscription.chargesLeft (s : Subscription) (c : Int) : Int :=
  if s.period.cycleNumber = c ∧ s.status ≠ .expired then s.retry.weight else 0

theorem Subscription.chargesLeft_nonneg {s : Subscription} (h : s.retry.Bounded) (c : Int) :
    0 ≤ s.chargesLeft c := by
  unfold chargesLeft
  have := h.one_le_weight
  split <;> omega

namespace Engine

variable {e : Engine} {id : String} {now : DateTime} {w w' : World}

/-- What a decided charge does to the subscription's retry state: the bounds and the grace
allowance are kept, the cycle stays or moves on, and the charges left in the cycle drop by
at least one. -/
theorem Decided.dunning {s u : Subscription} {p q : PaymentAttempt} {reply : GatewayReply}
    {r : RunResult} (hd : Decided e s p reply now w u q r) (hb : s.retry.Bounded)
    (hg : 0 ≤ s.retry.maxGraceExtensions) (hbill : isBillable s.status = true) :
    u.retry.Bounded ∧ u.retry.maxGraceExtensions = s.retry.maxGraceExtensions ∧
      s.period.cycleNumber ≤ u.period.cycleNumber ∧
      u.chargesLeft s.period.cycleNumber + 1 ≤ s.chargesLeft s.period.cycleNumber := by
  -- the subscription charged is billable, so not expired: all its charges are left
  have hleft : s.chargesLeft s.period.cycleNumber = s.retry.weight := by
    have hne : s.status ≠ .expired := by
      intro h
      rw [h] at hbill
      cases hbill
    simp [Subscription.chargesLeft, hne]
  have hb₁ := hb.attempt_le
  have hb₂ := hb.maxRetries_le
  have hb₃ := hb.grace_le
  rw [hleft]
  cases hd with
  | paid r q u hr hok hq hu =>
    obtain ⟨hnext, t, -, hueq⟩ := renewed_ok hu
    have hcyc := Cycle.nextPeriod_cycleNumber hnext
    have hretry : u.retry = s.retry.reset := by rw [hueq]
    have hnone : u.chargesLeft s.period.cycleNumber = 0 := by
      have hne : u.period.cycleNumber ≠ s.period.cycleNumber := by omega
      simp [Subscription.chargesLeft, hne]
    have hw := hb.one_le_weight
    rw [hretry, hnone]
    exact ⟨RetryState.reset_bounded hg, rfl, by omega, by omega⟩
  | retried r f d u hr hok hf hdec hretry hu =>
    obtain ⟨hmax, hlt⟩ := evaluateRetry_ok hdec
    have hlt := hlt hretry
    obtain ⟨ctx, t, r', htr, hueq⟩ := scheduleRetry_ok hu
    have hteq := Subscription.transition_ok htr
    have hstatus : u.status = .retry := by rw [hueq, hteq]
    have hperiod : u.period = s.period := by rw [hueq, hteq]
    have hstate : u.retry = ⟨s.retry.attempt + 1, d.maxRetries, d.nextAt, some d.category,
        s.retry.graceExtensions, s.retry.maxGraceExtensions⟩ := by rw [hueq]
    refine ⟨⟨?_, ?_, ?_⟩, ?_, ?_, ?_⟩ <;>
      simp only [Subscription.chargesLeft, RetryState.weight, hstatus, hperiod, hstate, ne_eq,
        reduceCtorEq, not_false_eq_true, and_self, if_true] <;>
      omega
  | delinquent r f d u hr hok hf hdec hretry hu =>
    obtain ⟨hmax, -⟩ := evaluateRetry_ok hdec
    obtain ⟨t, -, hrest⟩ := enterDelinquency_ok hu
    obtain ⟨-, -, hperiod, -⟩ := enterDelinquency_keeps hu
    rcases hrest with ⟨-, ctx, t', r', htr', hueq⟩ | ⟨hx, g', ctx, t', r', -, htr', hueq⟩
    · have ht'eq := Subscription.transition_ok htr'
      have hstatus : u.status = .expired := by rw [hueq, ht'eq]
      have hstate : u.retry = ⟨s.retry.attempt, max d.maxRetries s.retry.attempt, none,
          some d.category, s.retry.graceExtensions, s.retry.maxGraceExtensions⟩ := by rw [hueq]
      have hw := hb.one_le_weight
      refine ⟨⟨?_, ?_, ?_⟩, ?_, ?_, ?_⟩ <;>
        simp only [Subscription.chargesLeft, hstatus, hperiod, hstate, ne_eq, not_true_eq_false,
          and_false, if_false] <;>
        omega
    · have ht'eq := Subscription.transition_ok htr'
      simp only [RetryState.graceExhausted, decide_eq_false_iff_not] at hx
      have hstatus : u.status = .pastDue := by rw [hueq, ht'eq]
      have hstate : u.retry = ⟨s.retry.attempt, max d.maxRetries s.retry.attempt, none,
          some d.category, s.retry.graceExtensions + 1, s.retry.maxGraceExtensions⟩ := by rw [hueq]
      refine ⟨⟨?_, ?_, ?_⟩, ?_, ?_, ?_⟩ <;>
        simp only [Subscription.chargesLeft, RetryState.weight, hstatus, hperiod, hstate, ne_eq,
          reduceCtorEq, not_false_eq_true, and_self, if_true] <;>
        omega

/-- A subscription that passes the skip check is billable. -/
theorem skipReason_billable {s : Subscription} (h : skipReason s now = .ok none) :
    isBillable s.status = true := by
  unfold skipReason at h
  cases hb : isBillable s.status with
  | true => rfl
  | false =>
    simp only [hb, Bool.not_false, if_true] at h
    cases h

/-- The subscription a run submits a charge for is the stored one, and billable. -/
theorem Begun.billable {s : Subscription} {p : PaymentAttempt}
    (hb : Begun e id now w (.ok (.submitting s p) w')) :
    w.subscriptions.lookup id = some s ∧ isBillable s.status = true := by
  cases hb with
  | submitting _ _ amount elapsed hload hs hskip => exact ⟨hs, skipReason_billable hskip⟩

/-- How a run that returns may leave the stored subscription `id`, compared with `s` before
it: under its own identifier, within the retry bounds, with the same grace allowance, in
the same cycle or a later one, and with every gateway call made paid for by a charge left in
the cycle of `s`. -/
def Dunned (id : String) (s : Subscription) (w w' : World) : Prop :=
  ∃ s', w'.subscriptions.lookup id = some s' ∧ s'.id = id ∧ s'.retry.Bounded ∧
    s'.retry.maxGraceExtensions = s.retry.maxGraceExtensions ∧
    s.period.cycleNumber ≤ s'.period.cycleNumber ∧
    (w'.calls.length : Int) + s'.chargesLeft s.period.cycleNumber ≤
      w.calls.length + s.chargesLeft s.period.cycleNumber

theorem Dunned.refl {s : Subscription} (hs : w.subscriptions.lookup id = some s) (hid : s.id = id)
    (hb : s.retry.Bounded) : Dunned id s w w :=
  ⟨s, hs, hid, hb, rfl, Int.le_refl _, Int.le_refl _⟩

/-- A run that returns before the gateway makes no call, and what it saves is renewed into
the next cycle or expired. -/
theorem Begun.dunned {s : Subscription} {r : RunResult}
    (hb : Begun e id now w (.ok (.finished r) w')) (hs : w.subscriptions.lookup id = some s)
    (hid : s.id = id) (hbd : s.retry.Bounded) (hg : 0 ≤ s.retry.maxGraceExtensions) :
    Dunned id s w w' := by
  have hleft := Subscription.chargesLeft_nonneg hbd s.period.cycleNumber
  cases hb with
  | skipped s₁ reason hload hs₁ hskip =>
    exact .refl hs hid hbd
  | settled s₁ u p hload hs₁ hskip hp hu hsave =>
    rw [hs] at hs₁
    cases hs₁
    obtain ⟨hnext, t, ht, hueq⟩ := renewed_ok hu
    have htid : t.id = s.id := by
      rcases ht with ⟨-, _, _, htr⟩ | ⟨-, rfl⟩
      · exact (transition_id_period htr).1
      · rfl
    have huid : u.id = id := by rw [hueq]; exact htid.trans hid
    have hcyc := Cycle.nextPeriod_cycleNumber hnext
    have hretry : u.retry = s.retry.reset := by rw [hueq]
    -- renewed into the next cycle, no charge of this cycle is left
    have hnone : u.chargesLeft s.period.cycleNumber = 0 := by
      have hne : u.period.cycleNumber ≠ s.period.cycleNumber := by omega
      simp [Subscription.chargesLeft, hne]
    refine ⟨u, by simp [← huid], huid, ?_, ?_, by omega, ?_⟩
    · rw [hretry]
      exact RetryState.reset_bounded hg
    · rw [hretry]
      rfl
    · rw [hnone, World.storeSubscription_calls]
      omega
  | expired s₁ u hload hs₁ hskip hp hgrace hx hu hsave =>
    rw [hs] at hs₁
    cases hs₁
    obtain ⟨-, r, htr⟩ := move_ok hu
    have hueq := Subscription.transition_ok htr
    have huid : u.id = id := by rw [hueq]; exact hid
    have hretry : u.retry = s.retry := by rw [hueq]
    have hnone : u.chargesLeft s.period.cycleNumber = 0 := by
      have hst : u.status = .expired := by rw [hueq]
      simp [Subscription.chargesLeft, hst]
    refine ⟨u, by simp [← huid], huid, hretry ▸ hbd, by rw [hretry], ?_, ?_⟩
    · exact Int.le_of_eq (by rw [hueq])
    · rw [hnone, World.storeSubscription_calls]
      omega
  | rejected => exact .refl hs hid hbd

/-- A run that returns after the gateway makes at most one call and saves the payment and
the subscription as decided, which leaves one charge fewer in the cycle. -/
theorem Finished.dunned {s : Subscription} {p : PaymentAttempt} {reply : GatewayReply}
    {r : RunResult} {w₁ : World} (hf : Finished e s p reply now w₁ (.ok r w'))
    (hcalls : w₁.calls.length ≤ w.calls.length + 1) (hid : s.id = id) (hbd : s.retry.Bounded) (hg : 0 ≤ s.retry.maxGraceExtensions)
    (hbill : isBillable s.status = true) : Dunned id s w w' := by
  cases hf with
  | saved u q r hd hpay hsave =>
    obtain ⟨-, -, -, huid, -, -⟩ := hd.written
    obtain ⟨hb', hmg, hcyc, hleft⟩ := hd.dunning hbd hg hbill
    have huid : u.id = id := huid.trans hid
    refine ⟨u, by simp [← huid], huid, hb', hmg, hcyc, ?_⟩
    simp only [World.storeSubscription_calls, World.storePayment_calls]
    omega

/-- A run that returns is a dunning step. -/
theorem returns_dunned {s : Subscription} {r : RunResult}
    (hs : w.subscriptions.lookup id = some s) (hid : s.id = id) (hbd : s.retry.Bounded)
    (hg : 0 ≤ s.retry.maxGraceExtensions) (hrun : (e.run id now).run w = .ok r w') :
    Dunned id s w w' := by
  have hran := run_paths e id now w
  rw [hrun] at hran
  cases hran with
  | stopped r w' hb => exact hb.dunned hs hid hbd hg
  | cancelled s₁ p res hb ht hf =>
    obtain ⟨hs₁, hbill⟩ := hb.billable
    rw [hs] at hs₁
    cases hs₁
    exact hf.dunned (by omega) hid hbd hg hbill
  | called s₁ p res hb ht hf hres =>
    obtain ⟨hs₁, hbill⟩ := hb.billable
    rw [hs] at hs₁
    cases hs₁
    exact hf.dunned (by simp) hid hbd hg hbill

/-- One run of the subscription `id`, at any time and with any reply of the gateway, that
returns. -/
def Returns (e : Engine) (id : String) (w w' : World) : Prop :=
  ∃ now r, (e.run id now).run w = .ok r w'

/-- What holds along runs that return, for a subscription that began cycle `c` with a retry
state allowing `g` grace extensions, `n₀` calls having been made before: it stays within
the retry bounds with that allowance, at cycle `c` or later, and while at cycle `c` the
calls made since and the charges left add up to at most `6 + g`. -/
def DunningBudget (id : String) (g c : Int) (n₀ : Nat) (w : World) : Prop :=
  ∃ s, w.subscriptions.lookup id = some s ∧ s.id = id ∧ s.retry.Bounded ∧
    s.retry.maxGraceExtensions = g ∧ c ≤ s.period.cycleNumber ∧
    (s.period.cycleNumber = c → (w.calls.length : Int) + s.chargesLeft c ≤ n₀ + 6 + g)

section Budget

variable {g c : Int} {n₀ : Nat}

/-- A fresh retry state leaves `6 + g` charges to its cycle. -/
theorem DunningBudget.fresh {s₀ : Subscription} (hs₀ : w.subscriptions.lookup id = some s₀)
    (hid : s₀.id = id) (hg : 0 ≤ g) (hfresh : s₀.retry = ⟨0, 0, none, none, 0, g⟩) :
    DunningBudget id g s₀.period.cycleNumber w.calls.length w := by
  refine ⟨s₀, hs₀, hid, ?_, by rw [hfresh], Int.le_refl _, fun _ => ?_⟩
  · rw [hfresh]
    exact ⟨Int.le_refl _, by simp, hg⟩
  · unfold Subscription.chargesLeft
    split
    · simp only [RetryState.weight, hfresh]
      omega
    · omega

theorem DunningBudget.step (hg : 0 ≤ g) (h : DunningBudget id g c n₀ w)
    (hr : Returns e id w w') : DunningBudget id g c n₀ w' := by
  obtain ⟨s, hs, hid, hbd, hmg, hc, hspent⟩ := h
  obtain ⟨now, r, hrun⟩ := hr
  obtain ⟨s', hs', hid', hbd', hmg', hcyc, hcalls⟩ :=
    returns_dunned hs hid hbd (by rw [hmg]; exact hg) hrun
  refine ⟨s', hs', hid', hbd', hmg'.trans hmg, Int.le_trans hc hcyc, fun hc' => ?_⟩
  -- back at cycle `c` after the run means the run started there
  have hsc : s.period.cycleNumber = c := by omega
  have hbefore := hspent hsc
  rw [hsc] at hcalls
  omega

theorem DunningBudget.reach (hg : 0 ≤ g) (h : DunningBudget id g c n₀ w)
    (hr : Relation.ReflTransGen (Returns e id) w w') : DunningBudget id g c n₀ w' := by
  induction hr with
  | refl => exact h
  | tail _ hstep ih => exact ih.step hg hstep

/-- A run that starts at cycle `c` ends with at most `6 + g` calls made since the cycle
began. -/
theorem DunningBudget.calls_le (hg : 0 ≤ g) (h : DunningBudget id g c n₀ w)
    (hc : ∀ s, w.subscriptions.lookup id = some s → s.period.cycleNumber = c)
    (hr : Returns e id w w') : (w'.calls.length : Int) ≤ n₀ + 6 + g := by
  obtain ⟨s, hs, hid, hbd, hmg, -, hspent⟩ := h
  obtain ⟨now, r, hrun⟩ := hr
  obtain ⟨s', -, -, hbd', -, -, hcalls⟩ := returns_dunned hs hid hbd (by rw [hmg]; exact hg) hrun
  have hsc := hc s hs
  have hbefore := hspent hsc
  have hleft := Subscription.chargesLeft_nonneg hbd' s.period.cycleNumber
  rw [hsc] at hcalls hleft
  omega

end Budget

/-- Dunning ends after a bounded number of charges. Take a subscription stored under its own
identifier at the start of a cycle with a fresh retry state allowing `g ≥ 0` grace
extensions, and run it any number of times, at any times and with any replies of the
gateway, each run returning. The subscription never goes back to an earlier cycle; each run
that starts while it is still in that cycle ends with at most `6 + g` gateway calls made
since the cycle began, so the cycle sees at most `6 + g` charges before it renews or
expires; and throughout, the retries made stay within the allowed number, which is at most
five, and the grace extensions within their allowance. -/
theorem dunning_ends (e : Engine) (id : String) {w₀ : World} {s₀ : Subscription} {g : Int}
    (hs₀ : w₀.subscriptions.lookup id = some s₀) (hid : s₀.id = id) (hg : 0 ≤ g)
    (hfresh : s₀.retry = ⟨0, 0, none, none, 0, g⟩) :
    (∀ w, Relation.ReflTransGen (Returns e id) w₀ w → ∀ s, w.subscriptions.lookup id = some s →
      s₀.period.cycleNumber ≤ s.period.cycleNumber) ∧
    (∀ w₁ w₂, Relation.ReflTransGen (Returns e id) w₀ w₁ →
      (∀ s, w₁.subscriptions.lookup id = some s → s.period.cycleNumber = s₀.period.cycleNumber) →
      Returns e id w₁ w₂ → (w₂.calls.length : Int) ≤ w₀.calls.length + 6 + g) ∧
    (∀ w, Relation.ReflTransGen (Returns e id) w₀ w → ∀ s, w.subscriptions.lookup id = some s →
      s.retry.attempt ≤ s.retry.maxRetries ∧ s.retry.maxRetries ≤ 5 ∧
        s.retry.graceExtensions ≤ s.retry.maxGraceExtensions) := by
  have hb₀ := DunningBudget.fresh hs₀ hid hg hfresh
  refine ⟨?_, ?_, ?_⟩
  · intro w hr s hs
    obtain ⟨s', hs', -, -, -, hc, -⟩ := hb₀.reach hg hr
    rw [hs] at hs'
    cases hs'
    exact hc
  · intro w₁ w₂ hr hc hstep
    exact (hb₀.reach hg hr).calls_le hg hc hstep
  · intro w hr s hs
    obtain ⟨s', hs', -, hbd, -⟩ := hb₀.reach hg hr
    rw [hs] at hs'
    cases hs'
    exact ⟨hbd.attempt_le, hbd.maxRetries_le, hbd.grace_le⟩

end Engine

end Billing
