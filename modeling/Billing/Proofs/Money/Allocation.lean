import Billing.Money.Defaults
import Billing.Proofs.Decimal.Rounding
import Mathlib.Data.List.Forall2

/-! # Allocation

Splitting an amount by weights hands out every minor unit: one share per weight, all in the
amount's currency, adding up to the amount exactly (`allocation_conserves_amount`). Every
share but the last is rounded on its own and the last takes what is left, and that design
decides how fair the shares are (`leading_shares_rounded`): a leading share is its
proportion, as the 28-digit context computes it, rounded half up, so within one half of it
and never negative for an amount that is not; the last share absorbs the rounding of the
others and may fall below zero (`split_leaves_negative_remainder`). -/
namespace Billing

namespace Money

/-- The total of decimal weights, summed in the 28-digit context. -/
def weightTotal (ws : List Decimal) : Outcome Decimal :=
  ws.foldlM (fun acc w => decimalOutcome (Decimal.add moneyContext acc w)) 0

/-- The proportion of an amount for the weight `w` out of `total`, before it is rounded to
minor units: the amount times the weight, over the total, each in the 28-digit context. -/
def proportion (m : Money) (total w : Decimal) : Outcome Decimal := do
  let p ← decimalOutcome (Decimal.mul moneyContext (Decimal.ofInt m.amount) w)
  decimalOutcome (Decimal.div moneyContext p total)

/-- The shares of `m` in `k` parts hand out exactly `m`: `k` of them, all in its currency,
adding up to its amount. -/
structure Conserves (m : Money) (k : Nat) (shares : List Money) : Prop where
  count : shares.length = k
  currency : ∀ x ∈ shares, x.currency = m.currency
  total : (shares.map (·.amount)).sum = m.amount

theorem leadingShares_ok {m : Money} {total : Decimal} {ws : List Decimal} {xs : List Int}
    (h : m.leadingShares total ws = .ok xs) :
    List.Forall₂ (fun w s => ∃ q, m.proportion total w = .ok q ∧ roundMinor q = .ok s) ws xs := by
  induction ws generalizing xs with
  | nil =>
    cases h
    exact .nil
  | cons w ws ih =>
    simp only [leadingShares, bind, Except.bind] at h
    -- the product, the quotient, its rounding, then the shares of the other weights
    cases hp : decimalOutcome (Decimal.mul moneyContext (Decimal.ofInt m.amount) w) with
    | error e => simp [hp] at h
    | ok p =>
    cases hq : decimalOutcome (Decimal.div moneyContext p total) with
    | error e => simp [hp, hq] at h
    | ok q =>
    cases hs : roundMinor q with
    | error e => simp [hp, hq, hs] at h
    | ok s =>
    cases hr : m.leadingShares total ws with
    | error e => simp [hp, hq, hs, hr] at h
    | ok rest =>
    simp only [hp, hq, hs, hr, pure, Except.pure, Except.ok.injEq] at h
    subst h
    exact .cons ⟨q, by simp [proportion, bind, Except.bind, hp, hq], hs⟩ (ih hr)

theorem anyNegative_false {ws : List Decimal} (h : anyNegative ws = .ok false) :
    ∀ w ∈ ws, Decimal.lt w 0 = .ok false := by
  induction ws with
  | nil => simp
  | cons w ws ih =>
    simp only [anyNegative, bind, Except.bind] at h
    cases hw : Decimal.lt w 0 with
    | error e => simp [hw] at h
    | ok b =>
      cases b with
      | true => simp [hw, pure, Except.pure] at h
      | false =>
        simp only [hw, Bool.false_eq_true, if_false] at h
        intro v hv
        rcases List.mem_cons.mp hv with rfl | hv
        · exact hw
        · exact ih h v hv

/-- An allocation by decimal weights goes through only for a non-empty list of weights of
which none is negative and whose total is positive; it then rounds the leading weights'
shares and gives the last share what they leave of the amount. -/
theorem allocateDecimal_ok {m : Money} {ws : List Decimal} {shares : List Money}
    (h : m.allocateDecimal ws = .ok shares) :
    ws ≠ [] ∧ anyNegative ws = .ok false ∧ ∃ t, weightTotal ws = .ok t ∧ Decimal.le t 0 = .ok false ∧
      ∃ xs, m.leadingShares t ws.dropLast = .ok xs ∧
        shares = (xs ++ [m.amount - xs.sum]).map m.withAmount := by
  unfold allocateDecimal at h
  split at h
  · cases h
  rename_i hne
  simp only [bind, Except.bind] at h
  -- the sign check, the total, its positivity, then the leading shares
  cases hn : anyNegative ws with
  | error e => simp [hn, Except.mapError] at h
  | ok neg =>
  cases neg with
  | true => simp [hn, Except.mapError] at h
  | false =>
  cases ht : weightTotal ws with
  | error e => simp [weightTotal] at ht; simp [hn, Except.mapError, ht] at h
  | ok t =>
  simp only [weightTotal] at ht
  cases hl : Decimal.le t 0 with
  | error e => simp [hn, Except.mapError, ht, hl] at h
  | ok pos =>
  cases pos with
  | true => simp [hn, Except.mapError, ht, hl] at h
  | false =>
  cases hx : m.leadingShares t ws.dropLast with
  | error e => simp [hn, Except.mapError, ht, hl, hx] at h
  | ok xs =>
  simp only [hn, Except.mapError, ht, hl, hx, Bool.false_eq_true, if_false, pure,
    Except.pure, Except.ok.injEq] at h
  refine ⟨fun h0 => hne (by simp [h0]), rfl, t, rfl, hl, xs, hx, ?_⟩
  rw [← h, List.sum_eq_foldr]

theorem mapM_ok_length {α β : Type} {f : α → Outcome β} {xs : List α} {ys : List β}
    (h : xs.mapM f = .ok ys) : ys.length = xs.length := by
  induction xs generalizing ys with
  | nil =>
    cases h
    rfl
  | cons x xs ih =>
    simp only [List.mapM_cons, bind, Except.bind] at h
    cases hx : f x with
    | error e => simp [hx] at h
    | ok y =>
    cases hr : xs.mapM f with
    | error e => simp [hx, hr] at h
    | ok rest =>
    simp only [hx, hr, pure, Except.pure, Except.ok.injEq] at h
    subst h
    simp [ih hr]

theorem allocateDecimal_conserves {m : Money} {ws : List Decimal} {shares : List Money}
    (h : m.allocateDecimal ws = .ok shares) : m.Conserves ws.length shares := by
  obtain ⟨hne, -, t, -, -, xs, hx, rfl⟩ := allocateDecimal_ok h
  have hlen : xs.length = ws.length - 1 := by
    simpa using (leadingShares_ok hx).length_eq.symm
  have hpos : 0 < ws.length := List.length_pos_iff.mpr hne
  refine ⟨?_, ?_, ?_⟩
  · simp only [List.length_map, List.length_append, List.length_singleton, hlen]
    omega
  · simp only [List.mem_map, List.mem_append, List.mem_singleton, withAmount]
    rintro x ⟨a, -, rfl⟩
    rfl
  · simp [withAmount, Function.comp_def]

theorem allocate_ok {m : Money} {ratios : List Value} {shares : List Money}
    (h : m.allocate ratios = .ok shares) :
    ∃ ws, ratios.mapM Value.toDecimal = .ok ws ∧ m.allocateDecimal ws = .ok shares := by
  unfold allocate at h
  split at h
  · cases h
  cases hw : ratios.mapM Value.toDecimal with
  | error e => simp [hw, bind, Except.bind] at h
  | ok ws => exact ⟨ws, rfl, by simpa [hw, bind, Except.bind] using h⟩

theorem split_ok {m : Money} {n : Int} {shares : List Money} (h : m.split n = .ok shares) :
    0 < n ∧ m.allocateDecimal (List.replicate n.toNat 1) = .ok shares := by
  unfold split at h
  split at h
  · cases h
  · exact ⟨by omega, h⟩

theorem allocatePercent_ok {m : Money} {ps : List Value} {shares : List Money}
    (h : m.allocatePercent ps = .ok shares) :
    ∃ ws, ps.mapM Value.toDecimal = .ok ws ∧ m.allocateDecimal ws = .ok shares := by
  unfold allocatePercent at h
  simp only [bind, Except.bind] at h
  cases hw : ps.mapM Value.toDecimal with
  | error e => simp [hw] at h
  | ok ws =>
  refine ⟨ws, rfl, ?_⟩
  simp only [hw] at h
  -- past the range and sum checks the allocation is the one by the percentages themselves
  repeat' split at h
  all_goals first | exact h | cases h

/-- Every way of dividing an amount hands it out whole: one share per ratio, part or
percentage, each in the amount's currency, the shares adding up to the amount. -/
theorem allocation_conserves_amount (m : Money) :
    (∀ ratios shares, m.allocate ratios = .ok shares → m.Conserves ratios.length shares) ∧
    (∀ n shares, m.split n = .ok shares → m.Conserves n.toNat shares) ∧
    (∀ ps shares, m.allocatePercent ps = .ok shares → m.Conserves ps.length shares) := by
  refine ⟨fun ratios shares h => ?_, fun n shares h => ?_, fun ps shares h => ?_⟩
  · obtain ⟨ws, hws, hd⟩ := allocate_ok h
    simpa [mapM_ok_length hws] using allocateDecimal_conserves hd
  · simpa using allocateDecimal_conserves (split_ok h).2
  · obtain ⟨ws, hws, hd⟩ := allocatePercent_ok h
    simpa [mapM_ok_length hws] using allocateDecimal_conserves hd

/-- A hundred cents in thirds: two shares of 33 and the remaining 34 on the last. -/
theorem hundred_in_thirds :
    (⟨100, "USD"⟩ : Money).allocate [.int 1, .int 1, .int 1] =
        .ok [⟨33, "USD"⟩, ⟨33, "USD"⟩, ⟨34, "USD"⟩] ∧
      (⟨100, "USD"⟩ : Money).Conserves 3 [⟨33, "USD"⟩, ⟨33, "USD"⟩, ⟨34, "USD"⟩] := by
  have h : (⟨100, "USD"⟩ : Money).allocate [.int 1, .int 1, .int 1] =
      .ok [⟨33, "USD"⟩, ⟨33, "USD"⟩, ⟨34, "USD"⟩] :=
    Outcome.ok_of_toOption (by decide +kernel)
  exact ⟨h, (allocation_conserves_amount _).1 _ _ h⟩

/-! ## How the shares are rounded -/

@[simp] theorem decimalOutcome_eq_ok {r : Decimal.Result} {d : Decimal} :
    decimalOutcome r = .ok d ↔ r = .ok d := by
  cases r <;> simp [decimalOutcome, Except.mapError]

/-- A total that is not at most zero is a positive number or positive infinity. -/
theorem total_pos {t : Decimal} (h : Decimal.le t 0 = .ok false) :
    0 < t.toRat ∨ t = .infinity false := by
  rcases Decimal.pos_of_le_zero h with ⟨c, e, rfl, hc⟩ | rfl
  · left
    simp only [Decimal.toRat, Bool.false_eq_true, if_false]
    exact mul_pos (by exact_mod_cast Nat.pos_of_ne_zero hc) (zpow_pos (by norm_num) e)
  · exact .inr rfl

/-- The proportion of an amount that is not negative, for a weight that is not negative out
of a positive total, is not negative. -/
theorem proportion_notNeg {m : Money} {t w q : Decimal} (h : m.proportion t w = .ok q)
    (hm : 0 ≤ m.amount) (hw : w.NotNeg) (ht : Decimal.le t 0 = .ok false) : q.NotNeg := by
  simp only [proportion, bind, Except.bind] at h
  cases hp : decimalOutcome (Decimal.mul moneyContext (Decimal.ofInt m.amount) w) with
  | error e => simp [hp] at h
  | ok p =>
  simp only [hp] at h
  rw [decimalOutcome_eq_ok] at h hp
  exact Decimal.div_notNeg h (Decimal.mul_notNeg hp (Decimal.ofInt_notNeg hm) hw) ht

/-- How an allocation by the weights `ws` rounds. The weights are not negative and their
total, summed in the 28-digit context, is positive; each share but the last is its weight's
proportion of the amount rounded to minor units, so within one half of it, and not negative
when the amount is not; the last share is what the others leave of the amount. -/
structure RoundsShares (m : Money) (ws : List Decimal) (shares : List Money) : Prop where
  weights : ∀ w ∈ ws, w.NotNeg
  leading : ∃ t, weightTotal ws = .ok t ∧ (0 < t.toRat ∨ t = .infinity false) ∧
    List.Forall₂ (fun w x => ∃ q, m.proportion t w = .ok q ∧ q.isFinite = true ∧
      |(x.amount : ℚ) - q.toRat| ≤ 1 / 2 ∧ (0 ≤ m.amount → 0 ≤ x.amount))
      ws.dropLast shares.dropLast
  last : shares.getLast?.map (·.amount) = some (m.amount - (shares.dropLast.map (·.amount)).sum)

theorem allocateDecimal_rounds {m : Money} {ws : List Decimal} {shares : List Money}
    (h : m.allocateDecimal ws = .ok shares) : m.RoundsShares ws shares := by
  obtain ⟨-, hneg, t, ht, hle, xs, hx, rfl⟩ := allocateDecimal_ok h
  have hws : ∀ w ∈ ws, w.NotNeg := fun w hw => Decimal.notNeg_of_lt_zero (anyNegative_false hneg w hw)
  have hdrop : ((xs ++ [m.amount - xs.sum]).map m.withAmount).dropLast = xs.map m.withAmount := by
    simp
  refine ⟨hws, ⟨t, ht, total_pos hle, ?_⟩, ?_⟩
  · rw [hdrop, List.forall₂_map_right_iff]
    -- the weights of the leading shares are among all the weights
    have hlead := (List.forall₂_and_left _ _).mpr
      ⟨fun w hw => hws w (List.dropLast_subset ws hw), leadingShares_ok hx⟩
    refine hlead.imp fun w s ⟨hw, q, hq, hs⟩ => ?_
    obtain ⟨hfin, hnear⟩ := roundMinor_near hs
    exact ⟨q, hq, hfin, hnear, fun hm => roundMinor_nonneg hs (proportion_notNeg hq hm hw hle)⟩
  · rw [hdrop]
    simp [withAmount, Function.comp_def]

/-- Every way of dividing an amount rounds its shares the same way: the leading shares are
their proportions rounded to minor units, within one half of them and not negative for an
amount that is not, and the last share is the remainder. -/
theorem leading_shares_rounded (m : Money) :
    (∀ ratios shares, m.allocate ratios = .ok shares →
      ∃ ws, ratios.mapM Value.toDecimal = .ok ws ∧ m.RoundsShares ws shares) ∧
    (∀ n shares, m.split n = .ok shares → m.RoundsShares (List.replicate n.toNat 1) shares) ∧
    (∀ ps shares, m.allocatePercent ps = .ok shares →
      ∃ ws, ps.mapM Value.toDecimal = .ok ws ∧ m.RoundsShares ws shares) := by
  refine ⟨fun ratios shares h => ?_, fun n shares h => ?_, fun ps shares h => ?_⟩
  · obtain ⟨ws, hws, hd⟩ := allocate_ok h
    exact ⟨ws, hws, allocateDecimal_rounds hd⟩
  · exact allocateDecimal_rounds (split_ok h).2
  · obtain ⟨ws, hws, hd⟩ := allocatePercent_ok h
    exact ⟨ws, hws, allocateDecimal_rounds hd⟩

/-- A thousand by the weights 70, 20 and 10 gives 700, 200 and the remaining 100. -/
theorem thousand_by_weights :
    (⟨1000, "USD"⟩ : Money).allocate [.int 70, .int 20, .int 10] =
        .ok [⟨700, "USD"⟩, ⟨200, "USD"⟩, ⟨100, "USD"⟩] ∧
      ∃ ws, [Value.int 70, .int 20, .int 10].mapM Value.toDecimal = .ok ws ∧
        (⟨1000, "USD"⟩ : Money).RoundsShares ws [⟨700, "USD"⟩, ⟨200, "USD"⟩, ⟨100, "USD"⟩] := by
  have h : (⟨1000, "USD"⟩ : Money).allocate [.int 70, .int 20, .int 10] =
      .ok [⟨700, "USD"⟩, ⟨200, "USD"⟩, ⟨100, "USD"⟩] :=
    Outcome.ok_of_toOption (by decide +kernel)
  exact ⟨h, (leading_shares_rounded _).1 _ _ h⟩

/-- The remainder is not a fair share. Two units in four parts round each leading quarter
of a half up to one, and the last share is what is left: minus one. And in the 28-digit
context a tiny weight vanishes from the total, so the leading share of an amount of 28
digits is its whole, 1.4 units above its exact proportion. -/
theorem split_leaves_negative_remainder :
    (⟨2, "TWD"⟩ : Money).split 4 = .ok [⟨1, "TWD"⟩, ⟨1, "TWD"⟩, ⟨1, "TWD"⟩, ⟨-1, "TWD"⟩] ∧
      (⟨9999999999999999999999999990, "USD"⟩ : Money).allocate [.int 1, .str "1.4E-28"] =
        .ok [⟨9999999999999999999999999990, "USD"⟩, ⟨0, "USD"⟩] ∧
      1 < (9999999999999999999999999990 : ℚ) - 9999999999999999999999999990 / (1 + 14 / 10 ^ 29) :=
  ⟨Outcome.ok_of_toOption (by decide +kernel), Outcome.ok_of_toOption (by decide +kernel),
    by norm_num⟩

end Money

end Billing
