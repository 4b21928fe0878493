import Mathlib.Data.List.Sort
import Billing.Proofs.Retry.Schedule
import Billing.Proofs.Retry.Doubling
import Billing.Proofs.Engine.Snapshots

/-! # Retry delays are capped and sorted

A schedule whose delays are whole-number arithmetic (linear, fixed, or never retrying) and
that its validator accepts has, from the first retry on, delays that are computed without an
error, lie between 0 and the cap, and never shrink (`RetryPolicy.steady_of_whole`).

The retriable schedule computes its delays in doubles: five minutes doubled `n - 1` times and
held to an hour, so 5, 10, 20, 40 and then 60 minutes up to retry 1024
(`RetryPolicy.retriable_steady`). The cap is applied to the double, after the power: from retry
1025 on the power `2^(n - 1)` is `2^1024` or more, which no double holds, and the delay fails
with an overflow although the cap would give an hour (`RetryPolicy.retriable_delay_of_ge`).

Delays that are steady over a policy's retries make its schedule sorted
(`RetryPolicy.schedule_sorted`), and make the next retry due no earlier than now, unless the
shift leaves the calendar (`RetryPolicy.nextAt_not_before`). `RetryPolicy.WellTimed` gathers
these facts; they hold of the three built-in policies and of every validated whole-number one. -/
namespace Billing

namespace RetryConfig

/-- What the validator of a schedule accepts: no negative count or delay, a positive
multiplier, and a cap not below the base delay. -/
structure Valid (cfg : RetryConfig) : Prop where
  maxRetries_nonneg : 0 ≤ cfg.maxRetries
  baseDelay_nonneg : 0 ≤ cfg.baseDelay
  base_le_cap : ∀ c, cfg.maxDelay = some c → cfg.baseDelay ≤ c
  multiplier_pos : 0 < cfg.multiplier

section Validator

theorem field_atLeast_ok {k : String} {x : Except IssueKind Int} {lo n : Int}
    (h : Checked.field k (x >>= Field.atLeast lo) = .ok n) : lo ≤ n := by
  cases x with
  | error e => cases h
  | ok v =>
    simp only [Checked.field, bind, Except.bind, Field.atLeast] at h
    split_ifs at h with hv
    · cases h
      exact hv
    · cases h

theorem field_positive_ok {x : Value} {m : Float}
    (h : Checked.field "multiplier" (do
      let m ← Field.float x
      if m > 0 then pure m else .error .greaterThan) = .ok m) : 0 < m := by
  cases hx : Field.float x with
  | error e =>
    rw [hx] at h
    cases h
  | ok v =>
    simp only [Checked.field, hx, bind, Except.bind] at h
    split_ifs at h with hv
    · cases h
      exact hv
    · cases h

/-- A schedule its checks accept is valid. -/
theorem check_valid {s n b c m : Value} {cfg : RetryConfig} (h : check s n b c m = .ok cfg) :
    cfg.Valid := by
  unfold check at h
  simp only [Except.bind_eq_ok, Prod.exists, Checked.both_eq_ok, Checked.rule_eq_ok] at h
  obtain ⟨s', n', b', c', m', ⟨-, hn, hb, -, hm⟩, hok, rfl⟩ := h
  refine ⟨field_atLeast_ok hn, field_atLeast_ok hb, ?_, ?_⟩
  · rintro c rfl
    simpa using hok
  · exact field_positive_ok hm

/-- A schedule read from a record is valid. -/
theorem ofRecord_valid {r : Value} {cfg : RetryConfig} (h : ofRecord r = .ok cfg) : cfg.Valid := by
  unfold ofRecord at h
  dsimp only at h
  split at h
  · exact check_valid (Checked.run_eq_ok.mp h)
  · cases h

end Validator

theorem delayed_valid : delayed.Valid :=
  ⟨by decide, by decide, (fun _ h => by cases h; decide), by decide⟩

theorem never_valid : never.Valid :=
  ⟨by decide, by decide, (fun _ h => by cases h), by decide⟩

/-- A delay held to the schedule's cap, when it has one. -/
def capped (cfg : RetryConfig) (d : Int) : Int :=
  match cfg.maxDelay with
  | some c => if c < d then c else d
  | none => d

/-- A delay within the schedule's cap, when it has one. -/
def WithinCap (cfg : RetryConfig) (d : Int) : Prop :=
  ∀ c, cfg.maxDelay = some c → d ≤ c

variable {cfg : RetryConfig}

theorem capped_mono {d d' : Int} (h : d ≤ d') : cfg.capped d ≤ cfg.capped d' := by
  unfold capped
  split
  · split_ifs <;> omega
  · exact h

theorem capped_within (d : Int) : cfg.WithinCap (cfg.capped d) := by
  intro c hc
  simp only [capped, hc]
  split_ifs <;> omega

theorem capped_nonneg (hv : cfg.Valid) {d : Int} (hd : 0 ≤ d) : 0 ≤ cfg.capped d := by
  unfold capped
  split
  · rename_i c hc
    have := hv.base_le_cap c hc
    have := hv.baseDelay_nonneg
    split_ifs <;> omega
  · exact hd

/-- The delay before retry `n` of a linear, fixed or never-retrying schedule before its cap:
the base `n` times, the base, or nothing. -/
def wholeDelay (cfg : RetryConfig) (n : Int) : Int :=
  match cfg.strategy with
  | .linear => cfg.baseDelay * n
  | .fixedInterval => cfg.baseDelay
  | .none | .exponentialBackoff => 0

theorem wholeDelay_nonneg (hv : cfg.Valid) {n : Int} (hn : 0 ≤ n) : 0 ≤ cfg.wholeDelay n := by
  unfold wholeDelay
  split
  · exact Int.mul_nonneg hv.baseDelay_nonneg hn
  · exact hv.baseDelay_nonneg
  · exact le_refl 0
  · exact le_refl 0

theorem wholeDelay_mono (hv : cfg.Valid) {n m : Int} (hnm : n ≤ m) :
    cfg.wholeDelay n ≤ cfg.wholeDelay m := by
  unfold wholeDelay
  split
  · exact Int.mul_le_mul_of_nonneg_left hnm hv.baseDelay_nonneg
  all_goals exact le_refl _

end RetryConfig

/-- A span of days too long to be a duration overflows. -/
theorem Date.checkSpan_overflow {n : Int} {err : Error} (h : Date.checkSpan n = .error err) :
    err.className = "OverflowError" := by
  unfold Date.checkSpan at h
  split at h
  · cases h
    rfl
  · split at h
    · cases h
      rfl
    · cases h

namespace DateTime

variable {t t' : DateTime} {d m : Int}

/-- A time shifted forward or not at all compares as no earlier, with or without an offset. -/
theorem le_of_addMicros (h : t.addMicros d = .ok t') (hd : 0 ≤ d) : t.le t' = .ok true := by
  obtain ⟨hlocal, hoff⟩ := addMicros_spec h
  unfold le compareTo utcMicros
  rw [hoff, hlocal]
  cases t.offset with
  | none =>
    have hle : t.localMicros ≤ t.localMicros + d := by omega
    simp [compare_gt_iff_gt, not_lt.mpr hle, Except.map]
  | some o =>
    have hle : t.localMicros - o ≤ t.localMicros + d - o := by omega
    simp [compare_gt_iff_gt, not_lt.mpr hle, Except.map]

/-- A time a non-negative number of whole minutes later compares as no earlier. -/
theorem le_of_addMinutes (h : t.addMinutes m = .ok t') (hm : 0 ≤ m) : t.le t' = .ok true := by
  simp only [addMinutes, Except.bind_eq_ok] at h
  obtain ⟨us, hus, hadd⟩ := h
  rw [checkDuration_ok hus] at hadd
  exact le_of_addMicros hadd (by omega)

theorem checkDuration_error {us : Int} {err : Error} (h : checkDuration us = .error err) :
    err.className = "OverflowError" := by
  simp only [checkDuration, bind, Except.bind] at h
  cases hs : Date.checkSpan (us / microsPerDay) with
  | error e =>
    rw [hs] at h
    cases h
    exact Date.checkSpan_overflow hs
  | ok u =>
    rw [hs] at h
    cases h

theorem addMicros_error {err : Error} (h : t.addMicros d = .error err) :
    err = .dateOutOfRange := by
  unfold addMicros at h
  dsimp only at h
  split at h
  · cases h
    rfl
  · cases h

/-- A shift by whole minutes fails only by overflowing: a duration of too many days, or a time
past the ends of the calendar. -/
theorem addMinutes_error {err : Error} (h : t.addMinutes m = .error err) :
    err.className = "OverflowError" := by
  simp only [addMinutes, bind, Except.bind] at h
  cases hd : checkDuration (m * 60000000) with
  | error e =>
    rw [hd] at h
    cases h
    exact checkDuration_error hd
  | ok us =>
    rw [hd] at h
    rw [addMicros_error h]
    rfl

end DateTime

/-- A traversal whose every step succeeds returns the list of the steps' results. -/
theorem mapM_ok_of_forall {α β : Type} {f : α → Outcome β} {g : α → β} :
    ∀ {xs : List α}, (∀ x ∈ xs, f x = .ok (g x)) → xs.mapM f = .ok (xs.map g)
  | [], _ => rfl
  | x :: xs, h => by
    have hx := h x List.mem_cons_self
    have hxs := mapM_ok_of_forall fun y hy => h y (List.mem_cons_of_mem x hy)
    simp only [List.mapM_cons, hx, hxs, List.map_cons]
    rfl

namespace RetryPolicy

variable {p : RetryPolicy}

/-- On the retry numbers in `s`, the delays of `p` are computed without an error, lie between
0 and the cap, and never shrink as the retry number grows. -/
def SteadyOn (p : RetryPolicy) (s : Set Int) : Prop :=
  ∃ f : Int → Int, MonotoneOn f s ∧
    ∀ n ∈ s, p.delay n = .ok (f n) ∧ 0 ≤ f n ∧ p.config.WithinCap (f n)

theorem SteadyOn.mono {s t : Set Int} (h : p.SteadyOn s) (hts : t ⊆ s) : p.SteadyOn t := by
  obtain ⟨f, hmono, hf⟩ := h
  exact ⟨f, hmono.mono hts, fun n hn => hf n (hts hn)⟩

section Whole

/-- The delay of a linear, fixed or never-retrying schedule is whole-number arithmetic,
capped. -/
theorem delay_of_whole (p : RetryPolicy) (n : Int) (hs : p.config.strategy ≠ .exponentialBackoff) :
    p.delay n = .ok (p.config.capped (p.config.wholeDelay n)) := by
  unfold delay RetryConfig.wholeDelay
  dsimp only
  cases hstr : p.config.strategy with
  | exponentialBackoff => exact absurd hstr hs
  | linear => rfl
  | fixedInterval => rfl
  | none => rfl

theorem steady_of_whole (hv : p.config.Valid) (hs : p.config.strategy ≠ .exponentialBackoff) :
    p.SteadyOn (Set.Ici 1) := by
  refine ⟨fun n => p.config.capped (p.config.wholeDelay n), ?_, ?_⟩
  · intro n _ m _ hnm
    exact RetryConfig.capped_mono (RetryConfig.wholeDelay_mono hv hnm)
  · intro n hn
    have hn0 : 0 ≤ n := le_trans zero_le_one hn
    exact ⟨delay_of_whole p n hs, RetryConfig.capped_nonneg hv (RetryConfig.wholeDelay_nonneg hv hn0),
      RetryConfig.capped_within _⟩

end Whole

section Retriable

/-- The retriable delay before retry 1025 overflows, where the cap would give an hour. -/
theorem retriable_delay_overflows :
    (ofCategory .retriable).delay 1025 = .error .floatOverflow := by
  have hfit : Numeral.fitsDouble (((1025 : Int) - 1).toNat : Int) = true := by decide +kernel
  rw [retriable_delay_of_ge (by decide), if_pos hfit]

/-- The retriable schedule is steady up to retry 1024: 5, 10, 20, 40, then 60 minutes. -/
theorem retriable_steady : (ofCategory .retriable).SteadyOn (Set.Icc 1 1024) := by
  refine ⟨fun n => min (5 * 2 ^ (n - 1).toNat) 60, ?_, ?_⟩
  · intro n _ m _ hnm
    have hexp : (n - 1).toNat ≤ (m - 1).toNat := by omega
    have hpow : (2 : Int) ^ (n - 1).toNat ≤ 2 ^ (m - 1).toNat := pow_le_pow_right₀ (by norm_num) hexp
    exact min_le_min_right 60 (by omega)
  · rintro n ⟨h1, h2⟩
    refine ⟨retriable_delay_of_le h1 h2, le_min (by positivity) (by norm_num), ?_⟩
    intro c hc
    cases hc
    exact min_le_right _ _

end Retriable

section Consequences

/-- A policy whose delays are steady over its retries has a sorted schedule. -/
theorem schedule_sorted (h : p.SteadyOn (Set.Icc 1 p.maxRetries)) :
    ∃ ds, p.schedule = .ok ds ∧ ds.SortedLE := by
  obtain ⟨f, hmono, hf⟩ := h
  -- retry `i + 1` of the schedule is among the policy's retries
  have hin : ∀ i ∈ List.range p.maxRetries.toNat, ((i : Int) + 1) ∈ Set.Icc 1 p.maxRetries := by
    intro i hi
    have := List.mem_range.mp hi
    exact ⟨by omega, by omega⟩
  refine ⟨(List.range p.maxRetries.toNat).map fun (i : Nat) => f ((i : Int) + 1), ?_, ?_⟩
  · exact mapM_ok_of_forall fun i hi => (hf _ (hin i hi)).1
  · rw [List.sortedLE_iff_pairwise, List.pairwise_map]
    refine List.Pairwise.imp_of_mem ?_ List.pairwise_le_range
    intro i j hi hj hij
    exact hmono (hin i hi) (hin j hj) (by omega)

theorem canRetry_lt {n : Int} (h : p.canRetry n = true) : n < p.maxRetries := by
  simp only [canRetry, Bool.and_eq_true, decide_eq_true_eq] at h
  exact h.2

/-- With steady delays the next retry is none, or due no earlier than now; the shift by the
delay fails only by overflowing, when it leaves the calendar. -/
theorem nextAt_not_before (h : p.SteadyOn (Set.Icc 1 p.maxRetries)) {n : Int} (hn : 0 ≤ n)
    (now : DateTime) :
    p.nextAt n now = .ok none ∨ (∃ t, p.nextAt n now = .ok (some t) ∧ now.le t = .ok true) ∨
      ∃ err, p.nextAt n now = .error err ∧ err.className = "OverflowError" := by
  obtain ⟨f, -, hf⟩ := h
  unfold nextAt
  cases hc : p.canRetry n with
  | false => exact .inl rfl
  | true =>
    obtain ⟨hd, hpos, -⟩ := hf (n + 1) ⟨by omega, by have := canRetry_lt hc; omega⟩
    simp only [hd, Bool.not_true, Bool.false_eq_true, if_false, bind, Except.bind]
    cases ht : now.addMinutes (f (n + 1)) with
    | ok t => exact .inr (.inl ⟨t, rfl, DateTime.le_of_addMinutes ht hpos⟩)
    | error err => exact .inr (.inr ⟨err, rfl, DateTime.addMinutes_error ht⟩)

end Consequences

/-- The policies the guarantees on delays are about: the three built-in ones, and every policy
whose schedule a record validates and that is linear, fixed or never retries. -/
def Covered (p : RetryPolicy) : Prop :=
  (∃ c, p = ofCategory c) ∨
    ∃ r, RetryConfig.ofRecord r = .ok p.config ∧ p.config.strategy ≠ .exponentialBackoff

/-- What a policy's delays, schedule and retry times guarantee, as far as doubles allow. -/
structure WellTimed (p : RetryPolicy) : Prop where
  /-- Whole-number delays are steady from the first retry on. -/
  whole : p.config.strategy ≠ .exponentialBackoff → p.SteadyOn (Set.Ici 1)
  /-- Every delay up to retry 1024 is steady. -/
  first : p.SteadyOn (Set.Icc 1 1024)
  /-- Beyond them, an exponential delay overflows. -/
  overflow : p.config.strategy = .exponentialBackoff →
    ∀ n, 1025 ≤ n → ∃ err, p.delay n = .error err ∧ err.className = "OverflowError"
  /-- The schedule is computed and sorted. -/
  sorted : ∃ ds, p.schedule = .ok ds ∧ ds.SortedLE
  /-- The next retry is none or no earlier than now, unless it overflows past the calendar. -/
  notBefore : ∀ n now, 0 ≤ n →
    p.nextAt n now = .ok none ∨ (∃ t, p.nextAt n now = .ok (some t) ∧ now.le t = .ok true) ∨
      ∃ err, p.nextAt n now = .error err ∧ err.className = "OverflowError"

theorem wellTimed_of_whole (hv : p.config.Valid) (hs : p.config.strategy ≠ .exponentialBackoff) :
    p.WellTimed := by
  have hsteady := steady_of_whole hv hs
  have hretries : p.SteadyOn (Set.Icc 1 p.maxRetries) := hsteady.mono Set.Icc_subset_Ici_self
  exact ⟨fun _ => hsteady, hsteady.mono Set.Icc_subset_Ici_self, fun he => absurd he hs,
    schedule_sorted hretries, fun _ now hn => nextAt_not_before hretries hn now⟩

theorem retriable_wellTimed : (ofCategory .retriable).WellTimed := by
  have hretries : (ofCategory .retriable).SteadyOn (Set.Icc 1 (ofCategory .retriable).maxRetries) :=
    retriable_steady.mono (Set.Icc_subset_Icc_right (by decide))
  refine ⟨fun hs => absurd rfl hs, retriable_steady, fun _ n hn => ?_, schedule_sorted hretries,
    fun _ now hn => nextAt_not_before hretries hn now⟩
  refine ⟨_, retriable_delay_of_ge hn, ?_⟩
  split <;> rfl

/-- Every built-in policy, and every validated linear, fixed or never-retrying one, has delays
that are computed, capped and non-decreasing (for the retriable policy up to retry 1024, after
which its doubled delay overflows), a sorted schedule, and next retry times no earlier than now
unless they leave the calendar. -/
theorem retry_policies_well_timed (p : RetryPolicy) (hp : p.Covered) : p.WellTimed := by
  rcases hp with ⟨c, rfl⟩ | ⟨r, hr, hs⟩
  · cases c with
    | retriable => exact retriable_wellTimed
    | delayedRetry => exact wellTimed_of_whole RetryConfig.delayed_valid (by decide)
    | nonRetriable => exact wellTimed_of_whole RetryConfig.never_valid (by decide)
  · exact wellTimed_of_whole (RetryConfig.ofRecord_valid hr) hs

theorem retriable_policy_well_timed :
    (ofCategory .retriable).Covered ∧ (ofCategory .retriable).WellTimed :=
  ⟨.inl ⟨_, rfl⟩, retry_policies_well_timed _ (.inl ⟨_, rfl⟩)⟩

end RetryPolicy

end Billing
