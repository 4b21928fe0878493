import Billing.Proofs.Engine.Dunning
import Billing.Proofs.Calendar.Ordinal
import Billing.Proofs.Status.History
import Billing.Proofs.Retry.Doubling

/-! # Retries are scheduled later

A scheduled retry is due strictly after the failure that scheduled it. Without a jitter the
retry is due the policy's delay later, and every delay a policy reaches while it still allows
a retry is positive: 5, 10, 20, 40 and 60 minutes for retriable failures, an hour for delayed
ones (`RetryPolicy.delay_pos`). With a jitter the delay is a double of at least one minute
(`RetryJitter.apply_cases`), and a double of at least one unit makes a duration of at least
one unit (`Float.unitsToMicros_ge`). A positive shift within the calendar moves the face of
the clock by exactly the shift and keeps the offset, so the shifted time compares as later
(`DateTime.lt_of_addMicros`). Together: `evaluateRetry_spec`. -/
namespace Billing

namespace DateTime

variable {t t' : DateTime} {d : Int}

/-- A shift within the calendar moves the face of the clock by exactly the shift and keeps
the offset. -/
theorem addMicros_spec (h : t.addMicros d = .ok t') :
    t'.localMicros = t.localMicros + d ∧ t'.offset = t.offset := by
  unfold addMicros at h
  dsimp only at h
  split at h
  · cases h
  · rename_i hrange
    cases h
    refine ⟨?_, rfl⟩
    generalize t.localMicros + d = M at hrange ⊢
    simp only [microsPerDay] at hrange
    -- the day number lies in the calendar, so its date is read back exactly
    have hord := (Date.ofOrdinal_spec (o := M / 86400000000 + 1) (by omega) (by omega)).1
    simp only [ofLocalMicros, localMicros, microsPerDay, hord]
    omega

/-- A duration is checked and kept as it is. -/
theorem checkDuration_ok {us d : Int} (h : checkDuration us = .ok d) : d = us := by
  simp only [checkDuration, bind, Except.bind] at h
  split at h
  · cases h
  · cases h
    rfl

/-- A time shifted forward compares as later, with or without an offset. -/
theorem lt_of_addMicros (h : t.addMicros d = .ok t') (hd : 0 < d) : t.lt t' = .ok true := by
  obtain ⟨hlocal, hoff⟩ := addMicros_spec h
  unfold lt compareTo utcMicros
  rw [hoff, hlocal]
  cases t.offset with
  | none => simp [compare_lt_iff_lt.mpr (show t.localMicros < t.localMicros + d by omega), Except.map]
  | some o =>
    have hlt : t.localMicros - o < t.localMicros + d - o := by omega
    simp [compare_lt_iff_lt.mpr hlt, Except.map]

/-- A time a positive number of whole minutes later compares as later. -/
theorem lt_of_addMinutes {m : Int} (h : t.addMinutes m = .ok t') (hm : 0 < m) :
    t.lt t' = .ok true := by
  simp only [addMinutes, Except.bind_eq_ok] at h
  obtain ⟨us, hus, hadd⟩ := h
  rw [checkDuration_ok hus] at hadd
  exact lt_of_addMicros hadd (by omega)

end DateTime

/-- The microseconds in at least one unit of a positive length are at least that length. -/
theorem unitsMicros_ge {m : Nat} {e : Int} (perUnit : Nat) (h : 2 ^ (-e).toNat ≤ m * 2 ^ e.toNat) :
    perUnit ≤ unitsMicros m e perUnit := by
  unfold unitsMicros
  simp only [Nat.pow_eq]
  split
  · rename_i he
    have hone : 1 ≤ m * 2 ^ e.toNat := by
      rw [show (-e).toNat = 0 by omega, Nat.pow_zero] at h
      exact h
    exact Nat.le_mul_of_pos_left perUnit hone
  · rename_i he
    -- the whole units alone make at least one unit
    have hwhole : 1 ≤ m / 2 ^ (-e).toNat := by
      rw [show e.toNat = 0 by omega, Nat.pow_zero, Nat.mul_one] at h
      exact (Nat.le_div_iff_mul_le (Nat.two_pow_pos _)).mpr (by simpa using h)
    have hunits : perUnit ≤ m / 2 ^ (-e).toNat * perUnit := Nat.le_mul_of_pos_left perUnit hwhole
    -- the rounded fraction only adds to them
    generalize roundToDouble (m % 2 ^ (-e).toNat * perUnit) e = qs
    obtain ⟨q, s⟩ := qs
    dsimp only
    generalize q * 2 ^ s.toNat / 2 ^ (-s).toNat = extra
    generalize q * 2 ^ s.toNat % 2 ^ (-s).toNat = rest
    split_ifs <;> omega

/-- A double above 1, compared exactly: a positive finite double above 1, or plus infinity. -/
theorem Float.parts_of_compareInt_one {x : Float} (h : Float.compareInt x 1 = .gt) :
    (∃ m e b, Float.parts x = .finite false m e b ∧ 2 ^ (-e).toNat < m * 2 ^ e.toNat) ∨
      Float.parts x = .infinity false := by
  unfold Float.compareInt at h
  split at h
  · rename_i neg m e b hparts
    simp only [Nat.pow_eq, one_mul, compare_gt_iff_gt] at h
    cases neg with
    | true =>
      -- a negative double compares below 1
      simp only [if_true] at h
      have h1 : (0 : Int) < 2 ^ (-e).toNat := by positivity
      have h2 : 0 ≤ (m : Int) * 2 ^ e.toNat := by positivity
      push_cast at h
      linarith
    | false =>
      simp only [Bool.false_eq_true, if_false] at h
      exact .inl ⟨m, e, b, hparts, by exact_mod_cast h⟩
  · rename_i neg hparts
    cases neg with
    | true => cases h
    | false => exact .inr hparts
  · cases h

/-- One, as a double: the significand `2^52` at the exponent `-52`. -/
theorem Float.parts_one : Float.parts 1.0 = .finite false (2 ^ 52) (-52) true := by
  have hbits : (1.0 : Float).toBits = 0x3FF0000000000000 := by decide +kernel
  simp only [Float.parts, hbits]
  rfl

/-- A double of at least one unit, compared exactly, is a duration of at least one unit. -/
theorem Float.unitsToMicros_ge {x : Float} {perUnit : Nat} {us : Int}
    (hx : x = 1.0 ∨ Float.compareInt x 1 = .gt) (h : Float.unitsToMicros x perUnit = .ok us) :
    (perUnit : Int) ≤ us := by
  have hfinite : ∃ m e b, Float.parts x = .finite false m e b ∧ 2 ^ (-e).toNat ≤ m * 2 ^ e.toNat := by
    rcases hx with rfl | hx
    · exact ⟨2 ^ 52, -52, true, Float.parts_one, by decide⟩
    · rcases Float.parts_of_compareInt_one hx with ⟨m, e, b, hparts, hgt⟩ | hinf
      · exact ⟨m, e, b, hparts, hgt.le⟩
      · simp [Float.unitsToMicros, hinf] at h
  obtain ⟨m, e, b, hparts, hge⟩ := hfinite
  simp only [Float.unitsToMicros, hparts, Bool.false_eq_true, if_false, Except.ok.injEq] at h
  rw [← h]
  exact_mod_cast unitsMicros_ge perUnit hge

namespace DateTime

/-- A time at least one minute later, the minutes given as a double, compares as later. -/
theorem lt_of_addFloatMinutes {t t' : DateTime} {x : Float} (hx : x = 1.0 ∨ Float.compareInt x 1 = .gt)
    (h : t.addFloatMinutes x = .ok t') : t.lt t' = .ok true := by
  simp only [addFloatMinutes, Except.bind_eq_ok] at h
  obtain ⟨us, hus, d, hd, hadd⟩ := h
  rw [checkDuration_ok hd] at hadd
  have hge := Float.unitsToMicros_ge hx hus
  exact lt_of_addMicros hadd (by omega)

end DateTime

/-- A jittered delay that is not zero is one minute, or a double above one minute. -/
theorem RetryJitter.apply_cases {j : RetryJitter} {d : Int} {attempt : Value} {y : Float}
    (hd : d ≠ 0) (h : j.apply (.int d) attempt = .ok y) : y = 1.0 ∨ Float.compareInt y 1 = .gt := by
  unfold RetryJitter.apply at h
  have hfalsy : (Value.int d).isFalsy = false := by simpa [Value.isFalsy] using hd
  generalize RetryJitter.spreadOf (.int d) j.ratio = sp at h
  generalize Twister.ofText _ = g at h
  cases sp with
  | error e => cases h
  | ok spread =>
    simp only [bind, Except.bind, hfalsy, Bool.false_eq_true, if_false] at h
    -- every way through ends by clamping a double at one minute; the closing steps stay
    -- reducible, since unfolding a double's range check evaluates a power of two
    repeat' split at h
    all_goals cases h
    all_goals first | (with_reducible exact .inl rfl) | (with_reducible exact .inr ‹_›)

namespace RetryPolicy

/-- While a policy allows another retry, the delay before it is positive: the retriable
schedule runs 5, 10, 20, 40, 60 minutes, the delayed one waits an hour each time. -/
theorem delay_pos {c : FailureCategory} {a : Int} (ha : 0 ≤ a) (hc : (ofCategory c).canRetry a = true) :
    ∃ m, (ofCategory c).delay (a + 1) = .ok m ∧ 0 < m := by
  cases c with
  | retriable =>
    have ha5 : a < 5 := by
      simp only [canRetry, Bool.and_eq_true, decide_eq_true_eq] at hc
      exact hc.2
    -- five retries, each delay five minutes doubled and held to the hour
    refine ⟨_, retriable_delay_of_le (by omega) (by omega), ?_⟩
    exact lt_min (by positivity) (by norm_num)
  | delayedRetry => exact ⟨60, rfl, by decide⟩
  | nonRetriable => simp [canRetry_never] at hc

end RetryPolicy

/-- The policy's decision on a failure of category `c` after `a` retries: it keeps the
category and the policy's limit, and a retry it schedules is due strictly later than now,
the policy's delay later when there is no jitter. -/
theorem evaluateRetry_spec {c : FailureCategory} {a : Int} {now : DateTime} {jitter : Option RetryJitter}
    {d : RetryDecision} (h : evaluateRetry c a now jitter = .ok d) :
    d.category = c ∧ d.maxRetries = (RetryPolicy.ofCategory c).maxRetries ∧
      (d.shouldRetry = true → ∃ t, d.nextAt = some t ∧ now.lt t = .ok true ∧
        (jitter = none → ∃ m, (RetryPolicy.ofCategory c).delay (a + 1) = .ok m ∧ now.addMinutes m = .ok t)) ∧
      (d.shouldRetry = false → d.nextAt = none) := by
  unfold evaluateRetry at h
  simp only [Except.bind_eq_ok] at h
  obtain ⟨next, hnext, hdecide⟩ := h
  cases next with
  | none =>
    obtain ⟨rfl, -⟩ := RetryDecision.make_spec hdecide
    exact ⟨rfl, rfl, (fun h => by cases h), fun _ => rfl⟩
  | some t₀ =>
    -- a retry is allowed: the policy's delay gives the time without jitter
    have hallowed : (RetryPolicy.ofCategory c).canRetry a = true := by
      unfold RetryPolicy.nextAt at hnext
      cases hc : (RetryPolicy.ofCategory c).canRetry a
      · simp only [hc, Bool.not_false, if_true] at hnext
        cases hnext
      · rfl
    have hdelay : ∃ m, (RetryPolicy.ofCategory c).delay (a + 1) = .ok m ∧ now.addMinutes m = .ok t₀ := by
      unfold RetryPolicy.nextAt at hnext
      simp only [hallowed, Bool.not_true, Bool.false_eq_true, if_false, Except.bind_eq_ok] at hnext
      obtain ⟨m, hm, t, ht, hpure⟩ := hnext
      cases hpure
      exact ⟨m, hm, ht⟩
    obtain ⟨m, hm, hadd⟩ := hdelay
    -- the decision's time: the policy's own, or the jittered one
    have htime : ∃ t, RetryDecision.make true c a (RetryPolicy.ofCategory c).maxRetries (some t)
        (RetryPolicy.ofCategory c).config.strategy .scheduled = .ok d ∧
        (jitter = none → t = t₀) ∧ (0 < m → now.lt t = .ok true) := by
      cases jitter with
      | none =>
        simp only [bind, Except.bind, pure, Except.pure] at hdecide
        exact ⟨t₀, hdecide, fun _ => rfl, fun hpos => DateTime.lt_of_addMinutes hadd hpos⟩
      | some j =>
        simp only [hm, Except.bind_eq_ok] at hdecide
        obtain ⟨_, ⟨⟩, y, hy, t, ht, hmake⟩ := hdecide
        refine ⟨t, hmake, (fun h => by cases h), fun hpos => ?_⟩
        exact DateTime.lt_of_addFloatMinutes (RetryJitter.apply_cases (by omega) hy) ht
    obtain ⟨t, hmake, hnone, hlater⟩ := htime
    obtain ⟨rfl, ha⟩ := RetryDecision.make_spec hmake
    obtain ⟨m', hm', hpos⟩ := RetryPolicy.delay_pos ha hallowed
    rw [hm] at hm'
    cases hm'
    refine ⟨rfl, rfl, fun _ => ⟨t, rfl, hlater hpos, fun hj => ⟨m, hm, ?_⟩⟩, (fun h => by cases h)⟩
    rw [hnone hj]
    exact hadd

end Billing
