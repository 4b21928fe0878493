import Billing.Proofs.Decimal.Rounding
import Mathlib.Data.Int.Log
import Mathlib.Data.Rat.Floor
import Mathlib.Tactic.Ring
import Mathlib.Tactic.FieldSimp
import Mathlib.Tactic.Positivity
import Mathlib.Algebra.Order.Field.Power

/-! # Nearest integers and significant digits

The rules the decimal context rounds by, stated on rational numbers. `Rounding.nearest`
takes a number to the nearest integer, a tie going to the even neighbour or up.
`Context.roundMag` keeps a context's number of significant digits of a number that is not
negative: it rounds to the nearest multiple of the unit of the last digit kept,
`Context.quantum`, which the number's leading digit fixes, but never below the least
exponent of a subnormal result. `Context.round` does the same to the magnitude of any
number and keeps its sign, and `roundAway` rounds any number to an integer, a tie away
from zero.

Each lands within half a unit of the last digit it keeps (`abs_nearest_sub_le`,
`abs_roundMag_sub_le`, `abs_roundAway_sub_le`). All of them are monotone (`nearest_mono`,
`roundMag_mono`, `round_mono`, `roundAway_mono`): a larger number never rounds to a smaller
one, even where it keeps its digits at a coarser unit. They leave alone what they could
keep: integers, and numbers of few enough digits (`nearest_intCast`, `roundMag_of_digits`).
Two numbers in one cell of five units of a place below the last kept digit round alike
(`roundMag_eq_of_cell`): digits that far down matter only through being nonzero. -/
namespace Billing

namespace Decimal

namespace Rounding

/-- Where a tie above the integer `q` goes: up, or to the even one of `q` and `q + 1`. -/
def tie : Rounding → ℤ → ℤ
  | .halfUp, q => q + 1
  | .halfEven, q => if q % 2 = 0 then q else q + 1

/-- The integer nearest to a number, a tie going as the mode says. -/
def nearest (mode : Rounding) (x : ℚ) : ℤ :=
  if x - ⌊x⌋ < 1 / 2 then ⌊x⌋
  else if 1 / 2 < x - ⌊x⌋ then ⌊x⌋ + 1
  else mode.tie ⌊x⌋

variable (mode : Rounding) {x y : ℚ} {n : ℤ}

theorem le_tie (q : ℤ) : q ≤ mode.tie q := by
  cases mode <;> simp only [tie] <;> (try split) <;> omega

theorem tie_le (q : ℤ) : mode.tie q ≤ q + 1 := by
  cases mode <;> simp only [tie] <;> (try split) <;> omega

/-- The nearest integer of `q + t`, for an integer `q` and a fraction `t` in `[0, 1)`: `t`
against one half decides. -/
theorem nearest_add_frac {q : ℤ} {t : ℚ} (h₀ : 0 ≤ t) (h₁ : t < 1) :
    mode.nearest (q + t) = if t < 1 / 2 then q else if 1 / 2 < t then q + 1 else mode.tie q := by
  have hfloor : ⌊(q : ℚ) + t⌋ = q := Int.floor_eq_iff.mpr ⟨by linarith, by linarith⟩
  simp only [nearest, hfloor, add_sub_cancel_left]

theorem floor_le_nearest (x : ℚ) : ⌊x⌋ ≤ mode.nearest x := by
  have := mode.le_tie ⌊x⌋
  unfold nearest
  split
  · exact le_rfl
  · split <;> omega

theorem nearest_le_floor_add_one (x : ℚ) : mode.nearest x ≤ ⌊x⌋ + 1 := by
  have := mode.tie_le ⌊x⌋
  unfold nearest
  split
  · omega
  · split <;> omega

/-- A number less than half above an integer rounds down to it. -/
theorem nearest_of_lt_half (h₁ : (n : ℚ) ≤ x) (h₂ : x < n + 1 / 2) : mode.nearest x = n := by
  have hx : x = n + (x - n) := by ring
  rw [hx, mode.nearest_add_frac (by linarith) (by linarith), if_pos (by linarith)]

/-- A number more than half above an integer, and below the next, rounds up. -/
theorem nearest_of_half_lt (h₁ : (n : ℚ) + 1 / 2 < x) (h₂ : x < n + 1) :
    mode.nearest x = n + 1 := by
  have hx : x = n + (x - n) := by ring
  rw [hx, mode.nearest_add_frac (by linarith) (by linarith), if_neg (by linarith),
    if_pos (by linarith)]

@[simp] theorem nearest_intCast (n : ℤ) : mode.nearest n = n :=
  mode.nearest_of_lt_half le_rfl (by linarith)

@[simp] theorem nearest_natCast (n : ℕ) : mode.nearest n = n := by
  exact_mod_cast mode.nearest_intCast n

@[simp] theorem nearest_zero : mode.nearest 0 = 0 := by
  exact_mod_cast mode.nearest_intCast 0

/-- Rounding to the nearest integer is monotone. -/
theorem nearest_mono (h : x ≤ y) : mode.nearest x ≤ mode.nearest y := by
  have hx := mode.nearest_le_floor_add_one x
  have hy := mode.floor_le_nearest y
  rcases lt_or_eq_of_le (Int.floor_mono h) with hlt | heq
  · omega
  · -- one floor: the fractional parts decide, and they are in the numbers' order
    have htie := mode.le_tie ⌊x⌋
    have htie' := mode.tie_le ⌊x⌋
    unfold nearest
    rw [← heq]
    split_ifs <;> first | omega | (exfalso; linarith)

/-- Below an integer, the nearest integer is at most it. -/
theorem nearest_le_of_le (h : x ≤ n) : mode.nearest x ≤ n := by
  simpa using mode.nearest_mono h

/-- Above an integer, the nearest integer is at least it. -/
theorem le_nearest_of_le (h : (n : ℚ) ≤ x) : n ≤ mode.nearest x := by
  simpa using mode.nearest_mono h

theorem nearest_nonneg (hx : 0 ≤ x) : 0 ≤ mode.nearest x :=
  mode.le_nearest_of_le (by simpa using hx)

/-- Two numbers strictly within one half-unit interval `(a/2, (a+1)/2)` round alike: no
tie and no integer lies between them. -/
theorem nearest_eq_of_within {a : ℤ} (hx₁ : (a : ℚ) / 2 < x) (hx₂ : x < (a + 1) / 2)
    (hy₁ : (a : ℚ) / 2 < y) (hy₂ : y < (a + 1) / 2) : mode.nearest x = mode.nearest y := by
  obtain ⟨b, rfl | rfl⟩ := Int.even_or_odd' a
  · -- the lower half of `(b, b + 1)`: both round down
    push_cast at hx₁ hx₂ hy₁ hy₂
    rw [mode.nearest_of_lt_half (n := b) (by linarith) (by linarith),
      mode.nearest_of_lt_half (n := b) (by linarith) (by linarith)]
  · -- the upper half: both round up
    push_cast at hx₁ hx₂ hy₁ hy₂
    rw [mode.nearest_of_half_lt (n := b) (by linarith) (by linarith),
      mode.nearest_of_half_lt (n := b) (by linarith) (by linarith)]

/-- The nearest integer is at most half away. -/
theorem abs_nearest_sub_le (x : ℚ) : |(mode.nearest x : ℚ) - x| ≤ 1 / 2 := by
  have h₀ := Int.floor_le x
  have h₁ := Int.lt_floor_add_one x
  -- a tie goes to one of the two neighbours, each half away
  have htie : mode.tie ⌊x⌋ = ⌊x⌋ ∨ mode.tie ⌊x⌋ = ⌊x⌋ + 1 := by
    have := mode.le_tie ⌊x⌋
    have := mode.tie_le ⌊x⌋
    omega
  unfold nearest
  split_ifs
  · rw [abs_le]; constructor <;> linarith
  · push_cast; rw [abs_le]; constructor <;> linarith
  · rcases htie with h | h <;> rw [h] <;> push_cast <;> rw [abs_le] <;> constructor <;> linarith

end Rounding

/-- Rounding at the `k`-th place of a coefficient is rounding its quotient by `10^k` to the
nearest integer. -/
theorem roundOff_eq (mode : Rounding) (c k : Nat) :
    (roundOff mode c k : ℤ) = mode.nearest ((c : ℚ) / 10 ^ k) := by
  unfold roundOff
  split
  · subst ‹k = 0›
    simp
  · rename_i hk
    have hP : (0 : ℚ) < 10 ^ k := by positivity
    -- `10^k` is twice the half-unit `H` that the remainder is compared with
    have hhalf : 10 ^ k = 2 * (5 * 10 ^ (k - 1)) := by
      obtain ⟨j, rfl⟩ : ∃ j, k = j + 1 := ⟨k - 1, by omega⟩
      simp only [Nat.add_sub_cancel, Nat.pow_succ]
      omega
    split
    · -- fewer digits than places: the quotient is below one half
      have hlt : c < 5 * 10 ^ (k - 1) :=
        lt_of_lt_of_le (lt_pow_numDigits c)
          (le_trans (Nat.pow_le_pow_right (by omega) (by omega)) (Nat.le_mul_of_pos_left _ (by omega)))
      have hq : (c : ℚ) / 10 ^ k < 1 / 2 := by
        rw [div_lt_iff₀ hP]
        have hc : (c : ℚ) < (5 * 10 ^ (k - 1) : ℕ) := by exact_mod_cast hlt
        have hP' : ((10 ^ k : ℕ) : ℚ) = 2 * (5 * 10 ^ (k - 1) : ℕ) := by exact_mod_cast hhalf
        push_cast at hc hP'
        linarith
      symm
      simpa using Rounding.nearest_of_lt_half mode (n := 0) (by positivity) (by simpa using hq)
    · have hdiv := Nat.div_add_mod c (10 ^ k)
      have hmod := Nat.mod_lt c (show 0 < 10 ^ k by positivity)
      simp only [Nat.pow_eq]
      generalize c / 10 ^ k = q at hdiv ⊢
      generalize c % 10 ^ k = r at hdiv hmod ⊢
      generalize 5 * 10 ^ (k - 1) = H at hhalf ⊢
      -- the quotient is `q` and the fraction `r / 10^k`, which `r` against `H` places
      have hx : (c : ℚ) / 10 ^ k = ((q : ℤ) : ℚ) + r / 10 ^ k := by
        rw [← hdiv]
        push_cast
        field_simp
      have hPH : (10 : ℚ) ^ k = 2 * H := by exact_mod_cast hhalf
      have hr : (r : ℚ) < 10 ^ k := by exact_mod_cast hmod
      have hlt : (r : ℚ) / 10 ^ k < 1 / 2 ↔ r < H := by
        rw [div_lt_iff₀ hP, hPH]
        constructor
        · intro h; exact_mod_cast (show (r : ℚ) < H by linarith)
        · intro h; have : (r : ℚ) < H := by exact_mod_cast h
          linarith
      have hgt : 1 / 2 < (r : ℚ) / 10 ^ k ↔ H < r := by
        rw [lt_div_iff₀ hP, hPH]
        constructor
        · intro h; exact_mod_cast (show (H : ℚ) < r by linarith)
        · intro h; have : (H : ℚ) < r := by exact_mod_cast h
          linarith
      rw [hx, mode.nearest_add_frac (by positivity) ((div_lt_one hP).mpr hr)]
      simp only [hlt, hgt]
      cases mode <;> simp only [Rounding.tie] <;> split_ifs <;> push_cast <;> omega

section Powers

variable {x y : ℚ}

/-- A number between two consecutive powers of ten has the lower one's exponent as its
logarithm. -/
theorem log_eq_of_bounds {k : ℤ} (hlo : (10 : ℚ) ^ k ≤ x) (hhi : x < 10 ^ (k + 1)) :
    Int.log 10 x = k := by
  have hx : 0 < x := lt_of_lt_of_le (zpow_pos (by norm_num) k) hlo
  have h₁ : k ≤ Int.log 10 x :=
    (Int.zpow_le_iff_le_log (b := 10) (by norm_num) hx).mp (by simpa using hlo)
  have h₂ : Int.log 10 x < k + 1 :=
    (Int.lt_zpow_iff_log_lt (b := 10) (by norm_num) hx).mp (by simpa using hhi)
  omega

/-- No power of ten lies strictly inside a cell `(5j · 10^u, 5(j+1) · 10^u)` with `j ≥ 1`:
the powers above `10^u` are multiples of the cell's width, the others lie below it. -/
theorem pow_not_mem_cell {j : ℕ} {u : ℤ} (hj : 0 < j) (t : ℤ) :
    ¬ (5 * j * (10 : ℚ) ^ u < 10 ^ t ∧ (10 : ℚ) ^ t < 5 * (j + 1) * 10 ^ u) := by
  rintro ⟨h₁, h₂⟩
  have hU : (0 : ℚ) < 10 ^ u := zpow_pos (by norm_num) u
  rcases le_or_gt t u with htu | hut
  · have hle : (10 : ℚ) ^ t ≤ 10 ^ u := zpow_le_zpow_right₀ (by norm_num) htu
    have hj' : (1 : ℚ) ≤ j := by exact_mod_cast hj
    have : (10 : ℚ) ^ u ≤ 5 * j * 10 ^ u := by nlinarith
    linarith
  · -- `10^t = 5 · (2 · 10^s) · 10^u`: the cell would hold a whole multiple of its width
    obtain ⟨s, rfl⟩ : ∃ s : ℕ, t = u + 1 + s := ⟨(t - u - 1).toNat, by omega⟩
    have hpow : (10 : ℚ) ^ (u + 1 + s) = 5 * ((2 * 10 ^ s : ℕ) : ℚ) * 10 ^ u := by
      rw [zpow_add₀ (by norm_num), zpow_add₀ (by norm_num), zpow_natCast]
      push_cast
      ring
    rw [hpow] at h₁ h₂
    have hlo : (j : ℚ) < (2 * 10 ^ s : ℕ) := by
      have := lt_of_mul_lt_mul_right h₁ hU.le
      linarith
    have hhi : ((2 * 10 ^ s : ℕ) : ℚ) < j + 1 := by
      have := lt_of_mul_lt_mul_right h₂ hU.le
      linarith
    have hlo' : j < 2 * 10 ^ s := by exact_mod_cast hlo
    have hhi' : 2 * 10 ^ s < j + 1 := by exact_mod_cast hhi
    omega

/-- Two numbers in one such cell have one logarithm. -/
theorem log_eq_of_cell {j : ℕ} {u : ℤ} (hj : 0 < j)
    (hx : 5 * j * 10 ^ u < x ∧ x < 5 * (j + 1) * 10 ^ u)
    (hy : 5 * j * 10 ^ u < y ∧ y < 5 * (j + 1) * 10 ^ u) : Int.log 10 y = Int.log 10 x := by
  have hpos : 0 < x :=
    lt_of_le_of_lt (mul_nonneg (by positivity) (zpow_pos (by norm_num) u).le) hx.1
  have hlo : (10 : ℚ) ^ Int.log 10 x ≤ x := by
    simpa using Int.zpow_log_le_self (b := 10) (by norm_num) hpos
  have hhi : x < (10 : ℚ) ^ (Int.log 10 x + 1) := by
    simpa using Int.lt_zpow_succ_log_self (b := 10) (by norm_num) x
  -- a power of ten between the two would lie inside the cell
  apply log_eq_of_bounds
  · by_contra h
    exact pow_not_mem_cell (u := u) hj (Int.log 10 x)
      ⟨by linarith [hy.1, not_le.mp h], by linarith [hx.2]⟩
  · by_contra h
    exact pow_not_mem_cell (u := u) hj (Int.log 10 x + 1)
      ⟨by linarith [hx.1], by linarith [hy.2, not_lt.mp h]⟩

end Powers

namespace Context

/-- The exponent of the last digit that a context keeps of a number that is not negative:
`precision` digits from the leading one, but no lower than the least exponent of a
subnormal result. -/
def quantum (ctx : Context) (x : ℚ) : ℤ :=
  max (Int.log 10 x + 1 - ctx.precision) ctx.etiny

/-- A number that is not negative rounded to the context: the nearest multiple of the unit
of its last kept digit, a tie going as the context's rounding says. -/
def roundMag (ctx : Context) (x : ℚ) : ℚ :=
  ctx.rounding.nearest (x / 10 ^ ctx.quantum x) * 10 ^ ctx.quantum x

/-- Any number rounded to the context: its magnitude rounded, its sign kept. -/
def round (ctx : Context) (x : ℚ) : ℚ :=
  if x < 0 then -ctx.roundMag (-x) else ctx.roundMag x

variable {ctx : Context} {x y : ℚ}

theorem etiny_le_quantum (x : ℚ) : ctx.etiny ≤ ctx.quantum x := le_max_right _ _

/-- A number is below ten to the power of its quantum and the precision. -/
theorem lt_pow_quantum (x : ℚ) : x < 10 ^ (ctx.quantum x + ctx.precision) := by
  have hlog : x < (10 : ℚ) ^ (Int.log 10 x + 1) := by
    simpa using Int.lt_zpow_succ_log_self (b := 10) (by norm_num) x
  calc x < 10 ^ (Int.log 10 x + 1) := hlog
    _ ≤ 10 ^ (ctx.quantum x + ctx.precision) :=
      zpow_le_zpow_right₀ (by norm_num) (by have := le_max_left (Int.log 10 x + 1 - ctx.precision) ctx.etiny; unfold quantum; omega)

/-- Above the subnormal range a number keeps all of the precision's digits: it is at least
ten to the power of its quantum and the precision less one. -/
theorem pow_quantum_le (hx : 0 < x) (hq : ctx.etiny < ctx.quantum x) :
    (10 : ℚ) ^ (ctx.quantum x + ctx.precision - 1) ≤ x := by
  have hlog : (10 : ℚ) ^ Int.log 10 x ≤ x := by
    simpa using Int.zpow_log_le_self (b := 10) (by norm_num) hx
  have hq' : ctx.quantum x = Int.log 10 x + 1 - ctx.precision := by
    unfold quantum at hq ⊢; omega
  rw [hq']
  calc (10 : ℚ) ^ (Int.log 10 x + 1 - ctx.precision + ctx.precision - 1)
      = 10 ^ Int.log 10 x := by congr 1; ring
    _ ≤ x := hlog

/-- A number with the precision's digits above the place `u` has its quantum above `u`. -/
theorem lt_quantum_of_le {u : ℤ} (hx : (10 : ℚ) ^ (u + ctx.precision) ≤ x) : u < ctx.quantum x := by
  have hlog := (Int.zpow_le_iff_le_log (b := 10) (by norm_num)
    (lt_of_lt_of_le (zpow_pos (by norm_num) _) hx)).mp (by simpa using hx)
  have := le_max_left (Int.log 10 x + 1 - ctx.precision) ctx.etiny
  unfold quantum
  omega

theorem quantum_mono (hx : 0 < x) (h : x ≤ y) : ctx.quantum x ≤ ctx.quantum y := by
  have := Int.log_mono_right (b := 10) hx h
  unfold quantum
  omega

@[simp] theorem roundMag_zero : ctx.roundMag 0 = 0 := by
  simp [roundMag]

theorem roundMag_nonneg (hx : 0 ≤ x) : 0 ≤ ctx.roundMag x := by
  have hP : (0 : ℚ) < 10 ^ ctx.quantum x := zpow_pos (by norm_num) _
  have := ctx.rounding.nearest_nonneg (div_nonneg hx hP.le)
  unfold roundMag
  positivity

/-- The rounded number has at most the precision's digits above its quantum. -/
theorem roundMag_le_pow (x : ℚ) : ctx.roundMag x ≤ 10 ^ (ctx.quantum x + ctx.precision) := by
  have hP : (0 : ℚ) < 10 ^ ctx.quantum x := zpow_pos (by norm_num) _
  have hlt : x / 10 ^ ctx.quantum x < ((10 ^ ctx.precision : ℤ) : ℚ) := by
    rw [div_lt_iff₀ hP]
    have : x < 10 ^ (ctx.quantum x + ctx.precision) := lt_pow_quantum x
    rw [zpow_add₀ (by norm_num), zpow_natCast] at this
    push_cast
    linarith
  have hn := ctx.rounding.nearest_le_of_le hlt.le
  have hn' : (ctx.rounding.nearest (x / 10 ^ ctx.quantum x) : ℚ) ≤ 10 ^ ctx.precision := by
    exact_mod_cast hn
  rw [roundMag, zpow_add₀ (by norm_num), zpow_natCast, mul_comm ((10 : ℚ) ^ ctx.quantum x)]
  exact mul_le_mul_of_nonneg_right hn' hP.le

/-- The rounded number is a nearest multiple of the quantum: it is at most half a unit of
the last kept digit away. -/
theorem abs_roundMag_sub_le (x : ℚ) : |ctx.roundMag x - x| ≤ 10 ^ ctx.quantum x / 2 := by
  have hP : (0 : ℚ) < 10 ^ ctx.quantum x := zpow_pos (by norm_num) _
  have hnear := ctx.rounding.abs_nearest_sub_le (x / 10 ^ ctx.quantum x)
  have he : ctx.roundMag x - x = ((ctx.rounding.nearest (x / 10 ^ ctx.quantum x) : ℚ) -
      x / 10 ^ ctx.quantum x) * 10 ^ ctx.quantum x := by
    unfold roundMag
    field_simp
  rw [he, abs_mul, abs_of_pos hP]
  calc _ ≤ 1 / 2 * 10 ^ ctx.quantum x := mul_le_mul_of_nonneg_right hnear hP.le
    _ = 10 ^ ctx.quantum x / 2 := by ring

/-- Above the subnormal range the rounded number keeps a leading digit at the precision's
place. -/
theorem pow_le_roundMag (hp : 0 < ctx.precision) (hx : 0 < x) (hq : ctx.etiny < ctx.quantum x) :
    (10 : ℚ) ^ (ctx.quantum x + ctx.precision - 1) ≤ ctx.roundMag x := by
  have hP : (0 : ℚ) < 10 ^ ctx.quantum x := zpow_pos (by norm_num) _
  have hsplit : (10 : ℚ) ^ (ctx.quantum x + ctx.precision - 1) =
      ((10 ^ (ctx.precision - 1) : ℤ) : ℚ) * 10 ^ ctx.quantum x := by
    push_cast
    rw [mul_comm, ← zpow_natCast, ← zpow_add₀ (by norm_num)]
    congr 1
    omega
  have hle : ((10 ^ (ctx.precision - 1) : ℤ) : ℚ) ≤ x / 10 ^ ctx.quantum x := by
    rw [le_div_iff₀ hP, ← hsplit]
    exact pow_quantum_le hx hq
  have hn : ((10 ^ (ctx.precision - 1) : ℤ) : ℚ) ≤ ctx.rounding.nearest (x / 10 ^ ctx.quantum x) := by
    exact_mod_cast ctx.rounding.le_nearest_of_le hle
  rw [hsplit, roundMag]
  exact mul_le_mul_of_nonneg_right hn hP.le

/-- Rounding a number that is not negative to the context is monotone. Where the larger
number has the coarser quantum, the smaller one rounds to at most a power of ten that the
larger one's leading digit reaches. -/
theorem roundMag_mono (hp : 0 < ctx.precision) (hx : 0 ≤ x) (h : x ≤ y) :
    ctx.roundMag x ≤ ctx.roundMag y := by
  rcases hx.eq_or_lt with rfl | hx
  · simpa using (roundMag_nonneg h : 0 ≤ ctx.roundMag y)
  have hy : 0 < y := lt_of_lt_of_le hx h
  rcases (quantum_mono hx h : ctx.quantum x ≤ ctx.quantum y).eq_or_lt with heq | hlt
  · -- one quantum: the nearest integers of the scaled numbers are in order
    have hP : (0 : ℚ) < 10 ^ ctx.quantum x := zpow_pos (by norm_num) _
    have hn := ctx.rounding.nearest_mono (div_le_div_of_nonneg_right h hP.le)
    have hn' : (ctx.rounding.nearest (x / 10 ^ ctx.quantum x) : ℚ) ≤
        ctx.rounding.nearest (y / 10 ^ ctx.quantum x) := by exact_mod_cast hn
    unfold roundMag
    rw [← heq]
    exact mul_le_mul_of_nonneg_right hn' hP.le
  · -- a coarser quantum for `y`: `x` rounds below the power of ten that `y` keeps
    have hqy : ctx.etiny < ctx.quantum y := lt_of_le_of_lt (etiny_le_quantum x) hlt
    calc ctx.roundMag x ≤ 10 ^ (ctx.quantum x + ctx.precision) := roundMag_le_pow x
      _ ≤ 10 ^ (ctx.quantum y + ctx.precision - 1) :=
        zpow_le_zpow_right₀ (by norm_num) (by omega)
      _ ≤ ctx.roundMag y := pow_le_roundMag hp hy hqy

/-- A number whose quotient by its quantum is an integer is kept as it is. -/
theorem roundMag_of_intCast {m : ℤ} (h : x / 10 ^ ctx.quantum x = m) : ctx.roundMag x = x := by
  have hP : (0 : ℚ) < 10 ^ ctx.quantum x := zpow_pos (by norm_num) _
  rw [roundMag, h, Rounding.nearest_intCast, ← h, div_mul_cancel₀ _ hP.ne']

/-- A multiple `n · 10^e` with fewer digits than the precision and an exponent in the
context's range is kept as it is. -/
theorem roundMag_of_digits {n : ℕ} {e : ℤ} (hn : n < 10 ^ ctx.precision) (he : ctx.etiny ≤ e) :
    ctx.roundMag (n * 10 ^ e) = n * 10 ^ e := by
  rcases Nat.eq_zero_or_pos n with rfl | hpos
  · simp
  have hx : (0 : ℚ) < n * 10 ^ e := mul_pos (by exact_mod_cast hpos) (zpow_pos (by norm_num) e)
  -- the quantum is at most `e`: the number is below `10 ^ (precision + e)`
  have hlt : (n : ℚ) * 10 ^ e < 10 ^ ((ctx.precision : ℤ) + e) := by
    rw [zpow_add₀ (by norm_num), zpow_natCast]
    have : (n : ℚ) < 10 ^ ctx.precision := by exact_mod_cast hn
    exact mul_lt_mul_of_pos_right this (zpow_pos (by norm_num) e)
  have hlog := (Int.lt_zpow_iff_log_lt (b := 10) (by norm_num) hx).mp (by simpa using hlt)
  have hq : ctx.quantum (n * 10 ^ e) ≤ e := by unfold quantum; omega
  apply roundMag_of_intCast (m := n * 10 ^ (e - ctx.quantum (n * 10 ^ e)).toNat)
  rw [mul_div_assoc, ← zpow_sub₀ (by norm_num)]
  push_cast
  rw [← zpow_natCast, Int.toNat_of_nonneg (by omega)]

/-- Two numbers in one cell `(5j · 10^u, 5(j+1) · 10^u)`, `j ≥ 1`, round alike when their
quantum lies above `u`: they share the quantum, and the cell lies within one half of its
unit, where neither a tie nor a multiple of the unit separates them. This is what lets an
operation replace digits far below the quantum by a single nonzero one. -/
theorem roundMag_eq_of_cell {j : ℕ} {u : ℤ} (hj : 0 < j)
    (hx : 5 * j * 10 ^ u < x ∧ x < 5 * (j + 1) * 10 ^ u)
    (hy : 5 * j * 10 ^ u < y ∧ y < 5 * (j + 1) * 10 ^ u) (hq : u < ctx.quantum x) :
    ctx.roundMag y = ctx.roundMag x := by
  have hquant : ctx.quantum y = ctx.quantum x := by
    unfold quantum
    rw [log_eq_of_cell hj hx hy]
  -- the unit is `2 · 10^m` cell widths, and the cell lies in the `a`-th half unit
  obtain ⟨m, hm⟩ : ∃ m : ℕ, ctx.quantum x = u + 1 + m := ⟨(ctx.quantum x - u - 1).toNat, by omega⟩
  have hU : (0 : ℚ) < 5 * 10 ^ u := mul_pos (by norm_num) (zpow_pos (by norm_num) u)
  have hscale : (10 : ℚ) ^ ctx.quantum x = 2 * 10 ^ m * (5 * 10 ^ u) := by
    rw [hm, zpow_add₀ (by norm_num), zpow_add₀ (by norm_num), zpow_natCast]
    ring
  have hP : (0 : ℚ) < 10 ^ ctx.quantum x := zpow_pos (by norm_num) _
  have ha₁ : ((j / 10 ^ m : ℕ) : ℚ) * 10 ^ m ≤ j := by
    exact_mod_cast Nat.div_mul_le_self j (10 ^ m)
  have ha₂ : (j + 1 : ℚ) ≤ ((j / 10 ^ m : ℕ) + 1) * 10 ^ m := by
    have := Nat.lt_mul_div_succ j (show 0 < 10 ^ m by positivity)
    have : j + 1 ≤ (j / 10 ^ m + 1) * 10 ^ m := by rw [Nat.mul_comm]; omega
    exact_mod_cast this
  have hwithin : ∀ z : ℚ, 5 * j * 10 ^ u < z ∧ z < 5 * (j + 1) * 10 ^ u →
      ((j / 10 ^ m : ℕ) : ℤ) / (2 : ℚ) < z / 10 ^ ctx.quantum x ∧
        z / 10 ^ ctx.quantum x < (((j / 10 ^ m : ℕ) : ℤ) + 1) / 2 := by
    intro z hz
    push_cast
    rw [lt_div_iff₀ hP, div_lt_iff₀ hP, hscale]
    constructor
    · calc ((j / 10 ^ m : ℕ) : ℚ) / 2 * (2 * 10 ^ m * (5 * 10 ^ u))
          = ((j / 10 ^ m : ℕ) : ℚ) * 10 ^ m * (5 * 10 ^ u) := by ring
        _ ≤ j * (5 * 10 ^ u) := mul_le_mul_of_nonneg_right ha₁ hU.le
        _ < z := by linarith [hz.1]
    · calc z < (j + 1) * (5 * 10 ^ u) := by linarith [hz.2]
        _ ≤ (((j / 10 ^ m : ℕ) : ℚ) + 1) * 10 ^ m * (5 * 10 ^ u) :=
          mul_le_mul_of_nonneg_right ha₂ hU.le
        _ = (((j / 10 ^ m : ℕ) : ℚ) + 1) / 2 * (2 * 10 ^ m * (5 * 10 ^ u)) := by ring
  unfold roundMag
  rw [hquant, ctx.rounding.nearest_eq_of_within (hwithin y hy).1 (hwithin y hy).2
    (hwithin x hx).1 (hwithin x hx).2]

/-- Rounding to the context is monotone. -/
theorem round_mono (hp : 0 < ctx.precision) (h : x ≤ y) : ctx.round x ≤ ctx.round y := by
  unfold round
  split_ifs with hx hy hy
  · exact neg_le_neg (roundMag_mono hp (by linarith) (by linarith))
  · have hx' : 0 ≤ ctx.roundMag (-x) := roundMag_nonneg (by linarith)
    have hy' : 0 ≤ ctx.roundMag y := roundMag_nonneg (not_lt.mp hy)
    linarith
  · linarith
  · exact roundMag_mono hp (not_lt.mp hx) h

theorem round_nonneg (hx : 0 ≤ x) : 0 ≤ ctx.round x := by
  rw [round, if_neg (not_lt.mpr hx)]
  exact roundMag_nonneg hx

/-- An integer with fewer digits than the precision is kept, in a context whose subnormal
range reaches the units. -/
theorem round_intCast {n : ℤ} (hn : n.natAbs < 10 ^ ctx.precision) (he : ctx.etiny ≤ 0) :
    ctx.round n = n := by
  have hkeep := roundMag_of_digits hn he
  simp only [zpow_zero, mul_one, Nat.cast_natAbs, Int.cast_abs] at hkeep
  unfold round
  split_ifs with h
  · rw [show -(n : ℚ) = |(n : ℚ)| by rw [abs_of_neg h], hkeep, abs_of_neg h, neg_neg]
  · rw [← abs_of_nonneg (not_lt.mp h), hkeep]

end Context

/-- A number rounded to an integer, a tie away from zero. -/
def roundAway (x : ℚ) : ℤ :=
  if x < 0 then -Rounding.halfUp.nearest (-x) else Rounding.halfUp.nearest x

/-- Rounding to an integer away from zero is monotone. -/
theorem roundAway_mono {x y : ℚ} (h : x ≤ y) : roundAway x ≤ roundAway y := by
  unfold roundAway
  split_ifs with hx hy hy
  · exact neg_le_neg (Rounding.halfUp.nearest_mono (by linarith))
  · have := Rounding.halfUp.nearest_nonneg (show 0 ≤ -x by linarith)
    have := Rounding.halfUp.nearest_nonneg (not_lt.mp hy)
    omega
  · linarith
  · exact Rounding.halfUp.nearest_mono h

/-- Rounding away from zero lands at most half away. -/
theorem abs_roundAway_sub_le (x : ℚ) : |(roundAway x : ℚ) - x| ≤ 1 / 2 := by
  unfold roundAway
  split_ifs
  · -- a negative number: its magnitude is rounded and the sign put back
    have hnear := Rounding.halfUp.abs_nearest_sub_le (-x)
    rw [← abs_neg]
    push_cast
    convert hnear using 2
    ring
  · exact Rounding.halfUp.abs_nearest_sub_le x

theorem roundAway_nonneg {x : ℚ} (hx : 0 ≤ x) : 0 ≤ roundAway x := by
  rw [roundAway, if_neg (not_lt.mpr hx)]
  exact Rounding.halfUp.nearest_nonneg hx

@[simp] theorem roundAway_intCast (n : ℤ) : roundAway n = n := by
  unfold roundAway
  split_ifs
  · rw [← Int.cast_neg, Rounding.nearest_intCast, neg_neg]
  · exact Rounding.nearest_intCast _ n

end Decimal

end Billing
