import Mathlib
import Billing.Retry.Policy

/-! # Doubling a double exactly

A `Float` is a word of the IEEE binary64 format, and its arithmetic is that of `Float.Model`:
a word is unpacked into a sign, a significand and an exponent, the operation is carried out on
these and rounded, and the result is packed again. On the words `Float.ofExact` builds, none of
these steps loses anything: a normal double unpacks into the significand and exponent it was
built from (`Float.ofExact_toModel`), and multiplying it by a power of two only adds the
exponents, the rounding shifting out zeros alone, until the product passes the largest double
and packs into infinity (`Float.ofExact_mul_pow_two`). The parts such a double shows to the
exact comparisons and truncations of the retry delays are read off in `Float.parts_ofExact`. -/
namespace Billing

namespace Binary64

open Float.Model Float.Model.UnpackedFloat

@[simp] theorem exponentBias_binary64 : Format.binary64.exponentBias = 1023 := rfl

@[simp] theorem mantissaBits_binary64 : Format.binary64.mantissaBits = 53 := rfl

theorem toNat_one_append {w : Nat} (v : BitVec w) : (1#1 ++ v).toNat = 2 ^ w + v.toNat := by
  rw [BitVec.toNat_append, ← Nat.shiftLeft_add_eq_or_of_lt v.isLt]
  simp [Nat.shiftLeft_eq]

theorem toNat_unpackMantissa (x : BitVec Format.binary64.numBits) :
    (unpackMantissa x).toNat = x.toNat % 2 ^ 52 := by
  simp only [unpackMantissa, BitVec.toNat_cast, BitVec.extractLsb_toNat, Nat.shiftRight_zero]

theorem toNat_unpackExponent (x : BitVec Format.binary64.numBits) :
    (unpackExponent x).toNat = x.toNat / 2 ^ 52 % 2 ^ 11 := by
  simp only [unpackExponent, BitVec.toNat_cast, BitVec.extractLsb_toNat, Nat.shiftRight_eq_div_pow]

theorem toNat_unpackSign (x : BitVec Format.binary64.numBits) :
    (unpackSign x).toNat = x.toNat / 2 ^ 63 % 2 := by
  simp only [unpackSign, BitVec.toNat_cast, BitVec.extractLsb_toNat, Nat.shiftRight_eq_div_pow]

theorem finite_congr {s : Sign} {m m' : Nat} {e e' : Int} {h : 0 < m} {h' : 0 < m'} (hm : m = m')
    (he : e = e') : UnpackedFloat.finite s m e h = .finite s m' e' h' := by
  subst hm he
  rfl

/-- A significand below `2^53`, moved up to 53 bits. -/
theorem normalize_bounds {m : Nat} (hm : 0 < m) (hm' : m < 2 ^ 53) :
    2 ^ 52 ≤ m * 2 ^ (52 - m.log2) ∧ m * 2 ^ (52 - m.log2) < 2 ^ 53 := by
  have hlow : 2 ^ m.log2 ≤ m := Nat.log2_self_le (by omega)
  have hhigh : m < 2 ^ (m.log2 + 1) := Nat.lt_log2_self
  have hl : m.log2 < 53 := (Nat.log2_lt (by omega)).mpr hm'
  have h52 : 2 ^ 52 = 2 ^ m.log2 * 2 ^ (52 - m.log2) := by
    rw [← Nat.pow_add]
    congr 1
    omega
  have h53 : 2 ^ 53 = 2 ^ (m.log2 + 1) * 2 ^ (52 - m.log2) := by
    rw [← Nat.pow_add]
    congr 1
    omega
  constructor
  · rw [h52]
    exact Nat.mul_le_mul_right _ hlow
  · rw [h53]
    exact Nat.mul_lt_mul_of_pos_right hhigh (Nat.two_pow_pos _)

/-- The word of a positive normal double with biased exponent `E` and fraction `M` unpacks into
the significand `2^52 + M` at the exponent `E - 1075`. -/
theorem unpack_normal {b : BitVec Format.binary64.numBits} {E M : Nat}
    (hb : b.toNat = E * 2 ^ 52 + M) (hE0 : 0 < E) (hE : E < 2047) (hM : M < 2 ^ 52) :
    unpack .binary64 b =
      .finite .positive (2 ^ 52 + M) ((E : Int) - 1075) (Nat.add_pos_left (Nat.two_pow_pos 52) M) := by
  have hmant : (unpackMantissa b).toNat = M := by
    rw [toNat_unpackMantissa, hb]
    omega
  have hexp : (unpackExponent b).toNat = E := by
    rw [toNat_unpackExponent, hb]
    omega
  have hsign : Sign.ofBitVec (unpackSign b) = .positive := by
    have h0 : (unpackSign b).toNat = 0 := by
      rw [toNat_unpackSign, hb]
      omega
    rw [Sign.ofBitVec, if_pos (BitVec.eq_of_toNat_eq h0)]
  -- neither all ones (infinities and NaN) nor all zeros (subnormals) in the exponent field
  have hne1 : unpackExponent b ≠ -1#11 := by
    intro h
    rw [h] at hexp
    simp at hexp
    omega
  have hne0 : unpackExponent b ≠ 0#11 := by
    intro h
    rw [h] at hexp
    simp at hexp
    omega
  rw [UnpackedFloat.unpack]
  simp only [hne1, hne0, if_false, hsign, toNat_one_append, hmant, hexp]
  congr 1

theorem log2_of_normal {m : Nat} (hm : 2 ^ 52 ≤ m) (hm' : m < 2 ^ 53) : m.log2 = 52 :=
  (Nat.log2_eq_iff (by omega)).mpr ⟨hm, hm'⟩

/-- A positive normal value packs into its biased exponent and its fraction. -/
theorem pack_normal {m : Nat} {e : Int} (hm : 2 ^ 52 ≤ m) (hm' : m < 2 ^ 53) (he : -1074 ≤ e)
    (he' : e ≤ 971) (h : 0 < m) :
    (pack .binary64 (.finite .positive m e h)).toNat = (e + 1075).toNat * 2 ^ 52 + (m - 2 ^ 52) := by
  have hbias : (e + ((1023 : Nat) : Int) + ((52 : Nat) : Int)).toNat = (e + 1075).toNat := by omega
  simp only [UnpackedFloat.pack, exponentBias_binary64, mantissaBits_binary64, log2_of_normal hm hm',
    hbias]
  rw [if_neg (by omega), if_true]
  simp only [packComponents, Sign.toBitVec, BitVec.toNat_append, BitVec.toNat_ofNat]
  have hE : (e + 1075).toNat % 2 ^ 11 = (e + 1075).toNat := Nat.mod_eq_of_lt (by omega)
  rw [Nat.zero_mod, Nat.zero_shiftLeft, Nat.zero_or, hE,
    ← Nat.shiftLeft_add_eq_or_of_lt (Nat.mod_lt _ (Nat.two_pow_pos 52)), Nat.shiftLeft_eq]
  omega

/-- A positive value whose exponent is past the largest double packs into infinity. -/
theorem pack_overflow {m : Nat} {e : Int} {h : 0 < m} (he : 971 < e) :
    pack .binary64 (.finite .positive m e h) = packedInfinity .binary64 .positive := by
  simp only [UnpackedFloat.pack, exponentBias_binary64]
  exact if_pos (by omega)

/-- Repacking a normal value and unpacking it gives it back. -/
theorem unpack_pack_normal {m : Nat} {e : Int} (hm : 2 ^ 52 ≤ m) (hm' : m < 2 ^ 53) (he : -1074 ≤ e)
    (he' : e ≤ 971) (h : 0 < m) :
    (Float.Model.pack (.finite .positive m e h)).unpack = .finite .positive m e h := by
  have hbits := pack_normal hm hm' he he' h
  show unpack .binary64 (pack .binary64 (.finite .positive m e h)) = _
  rw [unpack_normal hbits (by omega) (by omega) (by omega)]
  exact finite_congr (by omega) (by omega)

/-- Shifting out `n` zero bits is exact. -/
theorem shiftRight_exact (m n : Nat) :
    (⟨m * 2 ^ n, false, false⟩ : ExtendedMantissa) >>> n = ⟨m, false, false⟩ := by
  show Nat.repeat ExtendedMantissa.shiftRightOne n ⟨m * 2 ^ n, false, false⟩ = ⟨m, false, false⟩
  -- each step halves an even significand and shifts out a zero
  induction n generalizing m with
  | zero => simp [Nat.repeat]
  | succ n ih =>
    rw [Nat.repeat, show m * 2 ^ (n + 1) = (2 * m) * 2 ^ n by
      rw [Nat.pow_succ, Nat.mul_comm (2 ^ n) 2, ← Nat.mul_assoc, Nat.mul_comm m 2], ih]
    simp [ExtendedMantissa.shiftRightOne]

/-- The exponent the format wants for a normal significand with `n` zero bits appended. -/
theorem targetExponent_normal {m : Nat} (n : Nat) {e : Int} (hm : 2 ^ 52 ≤ m) (hm' : m < 2 ^ 53)
    (he : -1074 ≤ e) :
    Format.binary64.targetExponent (totalExponent (m * 2 ^ n) (e - n)) = e := by
  have hlog : (m * 2 ^ n).log2 = 52 + n := by
    refine (Nat.log2_eq_iff (Nat.mul_ne_zero (by omega) (Nat.pos_iff_ne_zero.mp (Nat.two_pow_pos n)))).mpr ⟨?_, ?_⟩
    · rw [Nat.pow_add]
      exact Nat.mul_le_mul_right _ hm
    · rw [show 52 + n + 1 = 53 + n by omega, Nat.pow_add]
      exact Nat.mul_lt_mul_of_pos_right hm' (Nat.two_pow_pos n)
  simp only [Format.targetExponent, totalExponent, hlog, mantissaBits_binary64, Format.minExponent]
  omega

/-- A normal significand with `n` zero bits appended rounds back to itself, exactly. -/
theorem roundWithAccuracy_exact (s : Sign) {m n : Nat} {e : Int} (hm : 2 ^ 52 ≤ m) (hm' : m < 2 ^ 53)
    (he : -1074 ≤ e) (h : 0 < m) :
    roundWithAccuracy .binary64 s (m * 2 ^ n) (e - n) .exact = .finite s m e h := by
  have hfirst := shiftRight_exact m n
  have hlast := shiftRight_exact m 0
  have htarget := targetExponent_normal 0 hm hm' he
  simp only [Nat.pow_zero, Nat.mul_one, Int.natCast_zero, Int.sub_zero] at hlast htarget
  -- the first shift drops the `n` zeros, rounding keeps the significand, the second shift is empty
  simp only [roundWithAccuracy, shiftToTargetExponent, shiftToExponent,
    targetExponent_normal n hm hm' he, Int.sub_sub_self, Int.toNat_natCast, Int.sub_add_cancel,
    ExtendedMantissa.ofMantissaAndAccuracy, hfirst, ExtendedMantissa.roundedMantissa,
    ExtendedMantissa.accuracy, Accuracy.roundToNearestEven, htarget, Int.sub_self, Int.toNat_zero, hlast]
  rw [dif_neg (Nat.pos_iff_ne_zero.mp h)]
  simp

theorem Model.pack_congr {u v : UnpackedFloat} (h : pack .binary64 u = pack .binary64 v) :
    Float.Model.pack u = Float.Model.pack v := by
  simp only [Float.Model.pack, h]

end Binary64

open Float.Model Float.Model.UnpackedFloat Binary64

theorem Float.ext_toModel {x y : Float} (h : x.toModel = y.toModel) : x = y := by
  cases x
  cases y
  cases h
  rfl

/-- Integers up to `2^53` fit a double. -/
theorem Numeral.fitsDouble_of_le {n : Int} (h : n.natAbs ≤ 2 ^ 53) : Numeral.fitsDouble n = true := by
  have hbig : 2 ^ 53 < Nat.pow 2 1024 - Nat.pow 2 970 := by decide +kernel
  simp only [Numeral.fitsDouble, decide_eq_true_eq]
  omega

/-- The double `m · 2^e` of a significand below `2^53`, in the normal range, is the significand
moved up to 53 bits at the exponent moved down as far. -/
theorem Float.ofExact_toModel {m : Nat} {e : Int} (hm : 0 < m) (hm' : m < 2 ^ 53)
    (he : -1022 ≤ e + m.log2) (he' : e + m.log2 ≤ 1023) :
    (Float.ofExact false m e).toModel =
      Float.Model.pack (.finite .positive (m * 2 ^ (52 - m.log2)) (e - (52 - m.log2 : Nat))
        (Nat.mul_pos hm (Nat.two_pow_pos _))) := by
  obtain ⟨hlo, hhi⟩ := normalize_bounds hm hm'
  have hl : m.log2 < 53 := (Nat.log2_lt (by omega)).mpr hm'
  have hbits : (UInt64.ofNat ((e - (52 - m.log2 : Nat) + 1075).toNat * 2 ^ 52 +
      (m * 2 ^ (52 - m.log2) - 2 ^ 52))).toBitVec.toNat =
      (e - (52 - m.log2 : Nat) + 1075).toNat * 2 ^ 52 + (m * 2 ^ (52 - m.log2) - 2 ^ 52) := by
    rw [UInt64.toBitVec_ofNat', BitVec.toNat_ofNat]
    exact Nat.mod_eq_of_lt (by omega)
  have hu := unpack_normal hbits (by omega) (by omega) (by omega)
  simp only [Float.ofExact, Bool.false_eq_true, if_false, Nat.pos_iff_ne_zero.mp hm, if_pos he, Nat.pow_eq,
    Nat.zero_add, Float.ofBits, Float.Model.ofBits]
  rw [hu]
  exact congrArg Float.Model.pack (finite_congr (by omega) (by omega))

/-- A power of two in the normal range is the significand `2^52` at the exponent `k - 52`. -/
theorem Float.ofExact_one_toModel {k : Int} (hk : -1022 ≤ k) (hk' : k ≤ 1023) :
    (Float.ofExact false 1 k).toModel =
      Float.Model.pack (.finite .positive (2 ^ 52) (k - 52) (Nat.two_pow_pos 52)) := by
  have h1 : Nat.log2 1 = 0 := by decide
  rw [Float.ofExact_toModel (by decide : 0 < 1) (by decide) (by rw [h1]; omega) (by rw [h1]; omega)]
  exact congrArg Float.Model.pack (finite_congr (by simp [h1]) (by simp [h1]))

theorem Float.infinity_toModel :
    (Float.infinity false).toModel = Float.Model.pack (.infinity .positive) := by
  decide

/-- Multiplying by an exact power of two only moves the exponent: the product is exact while it
stays below `2^1024`, and infinite from there. -/
theorem Float.ofExact_mul_pow_two {m : Nat} {e k : Int} (hm : 0 < m) (hm' : m < 2 ^ 53)
    (he : -1022 ≤ e + m.log2) (he' : e + m.log2 ≤ 1023) (hk : -1022 ≤ k) (hk' : k ≤ 1023)
    (hek : -1022 ≤ e + m.log2 + k) :
    Float.ofExact false m e * Float.ofExact false 1 k =
      if e + m.log2 + k ≤ 1023 then Float.ofExact false m (e + k) else Float.infinity false := by
  obtain ⟨hlo, hhi⟩ := normalize_bounds hm hm'
  have hl : m.log2 < 53 := (Nat.log2_lt (by omega)).mpr hm'
  -- the product of the significands has 52 zero bits that rounding shifts out
  have hprod : (Float.ofExact false m e * Float.ofExact false 1 k).toModel =
      Float.Model.pack (.finite .positive (m * 2 ^ (52 - m.log2)) (e - (52 - m.log2 : Nat) + k)
        (Nat.mul_pos hm (Nat.two_pow_pos _))) := by
    show Float.Model.pack (UnpackedFloat.mul .binary64 (Float.ofExact false m e).toModel.unpack
      (Float.ofExact false 1 k).toModel.unpack) = _
    rw [Float.ofExact_toModel hm hm' he he', Float.ofExact_one_toModel hk hk',
      unpack_pack_normal hlo hhi (by omega) (by omega),
      unpack_pack_normal (by decide) (by decide) (by omega) (by omega)]
    show Float.Model.pack (roundWithAccuracy .binary64 .positive (m * 2 ^ (52 - m.log2) * 2 ^ 52)
      (e - (52 - m.log2 : Nat) + (k - 52)) .exact) = _
    rw [show e - (52 - m.log2 : Nat) + (k - 52) = e - (52 - m.log2 : Nat) + k - (52 : Nat) by omega,
      roundWithAccuracy_exact _ hlo hhi (by omega)]
  split
  · apply Float.ext_toModel
    rw [hprod, Float.ofExact_toModel hm hm' (by omega) (by omega)]
    exact congrArg Float.Model.pack (finite_congr rfl (by omega))
  · apply Float.ext_toModel
    rw [hprod, Float.infinity_toModel]
    exact Model.pack_congr ((pack_overflow (by omega)).trans rfl)

/-- A power of two in the normal range is no infinity. -/
theorem Float.isInf_ofExact_one {k : Int} (hk : -1022 ≤ k) (hk' : k ≤ 1023) :
    (Float.ofExact false 1 k).isInf = false := by
  show (Float.ofExact false 1 k).toModel.unpack.isInf = false
  rw [Float.ofExact_one_toModel hk hk', unpack_pack_normal (by decide) (by decide) (by omega) (by omega)]
  rfl

/-- The parts of `m · 2^e` in the normal range: the significand moved up to 53 bits, at the
exponent moved down as far. -/
theorem Float.parts_ofExact {m : Nat} {e : Int} (hm : 0 < m) (hm' : m < 2 ^ 53)
    (he : -1022 ≤ e + m.log2) (he' : e + m.log2 ≤ 1023) :
    ∃ b, Float.parts (Float.ofExact false m e) =
      .finite false (m * 2 ^ (52 - m.log2)) (e - (52 - m.log2 : Nat)) b := by
  obtain ⟨hlo, hhi⟩ := normalize_bounds hm hm'
  have hl : m.log2 < 53 := (Nat.log2_lt (by omega)).mpr hm'
  have hbits : (Float.ofExact false m e).toBits.toNat =
      (e - (52 - m.log2 : Nat) + 1075).toNat * 2 ^ 52 + (m * 2 ^ (52 - m.log2) - 2 ^ 52) := by
    show (Float.ofExact false m e).toModel.toBits.toBitVec.toNat = _
    rw [Float.ofExact_toModel hm hm' he he']
    exact pack_normal hlo hhi (by omega) (by omega) (Nat.mul_pos hm (Nat.two_pow_pos _))
  have hexp : (Float.ofExact false m e).toBits.toNat / 2 ^ 52 % 2 ^ 11 =
      (e - (52 - m.log2 : Nat) + 1075).toNat := by
    rw [hbits]
    omega
  have hfrac : (Float.ofExact false m e).toBits.toNat % 2 ^ 52 = m * 2 ^ (52 - m.log2) - 2 ^ 52 := by
    rw [hbits]
    omega
  have hsign : (Float.ofExact false m e).toBits.toNat / 2 ^ 63 % 2 = 0 := by
    rw [hbits]
    omega
  simp only [Float.parts, Nat.pow_eq, hexp, hfrac, hsign]
  rw [if_neg (by omega), if_neg (by omega)]
  refine ⟨decide (m * 2 ^ (52 - m.log2) - 2 ^ 52 = 0 ∧ (e - (52 - m.log2 : Nat) + 1075).toNat > 1), ?_⟩
  rw [FloatParts.finite.injEq]
  exact ⟨by decide, by omega, by omega, rfl⟩

theorem Float.compareInt_of_parts {x : Float} {m : Nat} {e : Int} {b : Bool} (n : Int)
    (h : Float.parts x = .finite false m e b) :
    Float.compareInt x n = compare ((m : Int) * 2 ^ e.toNat) (n * 2 ^ (-e).toNat) := by
  unfold Float.compareInt
  rw [h]
  simp [Nat.pow_eq]

theorem Float.truncInt_of_parts {x : Float} {m : Nat} {e : Int} {b : Bool}
    (h : Float.parts x = .finite false m e b) :
    Float.truncInt? x = some ((if e ≥ 0 then m * 2 ^ e.toNat else m / 2 ^ (-e).toNat : Nat) : Int) := by
  unfold Float.truncInt?
  rw [h]
  simp [Nat.pow_eq]

theorem Float.parts_infinity : Float.parts (Float.infinity false) = .infinity false := by
  have hbits : (Float.infinity false).toBits = 0x7FF0000000000000 := by
    unfold Float.infinity
    decide +kernel
  simp only [Float.parts, hbits]
  rfl

theorem Float.compareInt_infinity (n : Int) : Float.compareInt (Float.infinity false) n = .gt := by
  simp only [Float.compareInt, Float.parts_infinity]
  rfl

/-- Two, as a double: the significand `2^52` at the exponent `-51`. -/
theorem Float.parts_two : Float.parts 2.0 = .finite false (2 ^ 52) (-51) true := by
  have hbits : (2.0 : Float).toBits = 0x4000000000000000 := by decide +kernel
  simp only [Float.parts, hbits]
  rfl

/-- Powers of two are exact below `2^1024`, and infinite from there. -/
theorem Float.exactPow_two (k : Nat) :
    Float.exactPow? 2.0 k = some (if k < 1024 then Float.ofExact false 1 k else Float.infinity false) := by
  have hlow : (2 ^ 52 : Nat) - (2 ^ 52 &&& (2 ^ 52 - 1)) = 2 ^ 52 := by decide
  have hlog : Nat.log2 1 = 0 := by decide
  have hexp : (-51 + ((52 : Nat) : Int)) * (k : Int) = k := by omega
  -- the significand of two is a power of two: its odd part is 1, and only the exponent grows
  simp only [Float.exactPow?, Float.parts_two, hlow, Nat.div_self (Nat.two_pow_pos 52), Nat.log2_two_pow,
    Nat.pow_eq, Nat.one_pow, hlog, hexp, Int.natCast_zero, Int.add_zero, Bool.false_and]
  simp only [show (2 ^ 52 : Nat) ≠ 0 by decide, ne_eq, not_true_eq_false, false_and, if_false,
    show (1 : Nat) < 2 ^ 53 by decide, show -1074 ≤ (k : Int) by omega, true_and]
  by_cases hk : k < 1024
  · rw [if_pos (by omega), if_pos hk]
  · rw [if_neg (by omega), if_pos (by omega), if_neg hk]

/-- Five, as a double. -/
theorem Float.ofInt_five : Float.ofInt 5 = Float.ofExact false 5 0 := by decide +kernel

theorem Float.one_eq_ofExact : (1.0 : Float) = Float.ofExact false 1 0 := by decide +kernel

namespace RetryPolicy

/-! ## The retriable backoff

Five minutes doubled `n - 1` times: exactly `5 * 2^(n - 1)` up to retry 1022, so the cap of an
hour applies from retry 5 on (`retriable_delay_of_le`), and an overflow from retry 1025 on, where
the power itself is no double (`retriable_delay_of_ge`). -/

/-- The retriable backoff before the cap: five times two to the `k`, in doubles, for every `k`
below 1024. -/
theorem backoff_five_two {k : Nat} (hk : k ≤ 1023) :
    backoff 5 2.0 k = .ok (Float.ofExact false 5 0 * Float.ofExact false 1 k) := by
  have hfit : Numeral.fitsDouble (k : Int) = true := Numeral.fitsDouble_of_le (by omega)
  have hfive : Numeral.fitsDouble 5 = true := Numeral.fitsDouble_of_le (by decide)
  unfold backoff
  by_cases h0 : k = 0
  · subst h0
    simp only [Numeral.toDouble, hfit, hfive, if_true, Float.ofInt_five, Float.one_eq_ofExact]
    rfl
  · have htwo : (2.0 : Float).isInf = false := by decide +kernel
    have hone : ((2.0 : Float) == 1.0) = false := by decide +kernel
    simp only [Numeral.toDouble, hfit, hfive, if_true, h0, if_false, htwo, hone, Bool.false_eq_true,
      Float.exactPow_two, if_pos (show k < 1024 by omega), Option.getD_some,
      Float.isInf_ofExact_one (show -1022 ≤ (k : Int) by omega) (show (k : Int) ≤ 1023 by omega),
      Float.ofInt_five]
    rfl

/-- Five times `2^k`, in doubles: exact up to `k = 1021`, infinite beyond. -/
theorem five_mul_pow_two {k : Nat} (hk : k ≤ 1023) :
    Float.ofExact false 5 0 * Float.ofExact false 1 k =
      if k ≤ 1021 then Float.ofExact false 5 k else Float.infinity false := by
  have hlog : Nat.log2 5 = 2 := by decide
  rw [Float.ofExact_mul_pow_two (show 0 < 5 by decide) (by decide) (by rw [hlog]; omega)
    (by rw [hlog]; omega) (by omega) (by omega) (by rw [hlog]; omega), hlog]
  simp only [zero_add]
  by_cases hfit : k ≤ 1021
  · rw [if_pos (by omega), if_pos hfit]
  · rw [if_neg (by omega), if_neg hfit]

/-- Five times `2^k` is the significand `5 * 2^50` at the exponent `k - 50`. -/
theorem parts_five_pow {k : Nat} (hk : k ≤ 1021) :
    ∃ b, Float.parts (Float.ofExact false 5 k) = .finite false (5 * 2 ^ 50) ((k : Int) - 50) b := by
  have hlog : Nat.log2 5 = 2 := by decide
  obtain ⟨b, hb⟩ := Float.parts_ofExact (show 0 < 5 by decide) (by decide)
    (show -1022 ≤ (k : Int) + (Nat.log2 5 : Nat) by rw [hlog]; omega) (by rw [hlog]; omega)
  rw [hlog] at hb
  exact ⟨b, hb⟩

theorem five_pow_split {k : Nat} (hk : k ≤ 50) : 5 * 2 ^ 50 = 5 * 2 ^ k * 2 ^ (50 - k) := by
  rw [Nat.mul_assoc, ← Nat.pow_add]
  congr 2
  omega

/-- From `k = 4` on, `5 * 2^k` passes 60. -/
theorem five_pow_gt {k : Nat} (h4 : 4 ≤ k) : 60 * 2 ^ (50 - k) < 5 * 2 ^ 50 * 2 ^ (k - 50) := by
  rcases Nat.lt_or_ge 50 k with hk | hk
  · rw [show 50 - k = 0 by omega, Nat.pow_zero, Nat.mul_one]
    calc 60 < 5 * 2 ^ 50 := by norm_num
      _ ≤ 5 * 2 ^ 50 * 2 ^ (k - 50) := Nat.le_mul_of_pos_right _ (Nat.two_pow_pos _)
  · have h16 : 2 ^ 4 ≤ 2 ^ k := Nat.pow_le_pow_right (by norm_num) h4
    rw [five_pow_split hk, show k - 50 = 0 by omega, Nat.pow_zero, Nat.mul_one]
    exact Nat.mul_lt_mul_of_pos_right (by omega) (Nat.two_pow_pos _)

/-- Up to `k = 3`, `5 * 2^k` stays below 60. -/
theorem five_pow_lt {k : Nat} (hk : k ≤ 3) : 5 * 2 ^ 50 * 2 ^ (k - 50) < 60 * 2 ^ (50 - k) := by
  have h8 : 2 ^ k ≤ 2 ^ 3 := Nat.pow_le_pow_right (by norm_num) hk
  rw [five_pow_split (show k ≤ 50 by omega), show k - 50 = 0 by omega, Nat.pow_zero, Nat.mul_one]
  exact Nat.mul_lt_mul_of_pos_right (by omega) (Nat.two_pow_pos _)

/-- From the fifth retry on, the doubled delay compares above the hour cap. -/
theorem compareInt_five_pow {k : Nat} (h4 : 4 ≤ k) (hk : k ≤ 1023) :
    Float.compareInt (Float.ofExact false 5 0 * Float.ofExact false 1 k) 60 = .gt := by
  rw [five_mul_pow_two hk]
  split
  · rename_i hfit
    obtain ⟨b, hb⟩ := parts_five_pow hfit
    rw [Float.compareInt_of_parts 60 hb, compare_gt_iff_gt,
      show ((k : Int) - 50).toNat = k - 50 by omega, show (-((k : Int) - 50)).toNat = 50 - k by omega]
    exact_mod_cast five_pow_gt h4
  · rw [Float.compareInt_infinity]

/-- Up to the fourth retry, the doubled delay stays below the hour cap and truncates exactly. -/
theorem truncate_five_pow {k : Nat} (hk : k ≤ 3) :
    Float.compareInt (Float.ofExact false 5 0 * Float.ofExact false 1 k) 60 = .lt ∧
      delay.truncate (Float.ofExact false 5 0 * Float.ofExact false 1 k) = .ok (5 * 2 ^ k) := by
  rw [five_mul_pow_two (by omega), if_pos (by omega)]
  obtain ⟨b, hb⟩ := parts_five_pow (show k ≤ 1021 by omega)
  constructor
  · rw [Float.compareInt_of_parts 60 hb, compare_lt_iff_lt,
      show ((k : Int) - 50).toNat = k - 50 by omega, show (-((k : Int) - 50)).toNat = 50 - k by omega]
    exact_mod_cast five_pow_lt hk
  · rw [delay.truncate, Float.truncInt_of_parts hb, if_neg (by omega),
      show (-((k : Int) - 50)).toNat = 50 - k by omega, five_pow_split (show k ≤ 50 by omega),
      Nat.mul_div_cancel _ (Nat.two_pow_pos _)]
    push_cast
    rfl

theorem retriable_delay_of_le {n : Int} (h1 : 1 ≤ n) (h2 : n ≤ 1024) :
    (ofCategory .retriable).delay n = .ok (min (5 * 2 ^ (n - 1).toNat) 60) := by
  have hk : (n - 1).toNat ≤ 1023 := by omega
  simp only [delay, ofCategory, RetryConfig.ofCategory, RetryConfig.retriable, backoff_five_two hk,
    bind, Except.bind]
  rcases Int.lt_or_le n 5 with hsmall | hlarge
  · -- the first four delays, 5 to 40 minutes, stay below the cap
    have hk3 : (n - 1).toNat ≤ 3 := by omega
    have hbelow : (5 * 2 ^ (n - 1).toNat : Int) ≤ 60 := by
      have : (2 : Int) ^ (n - 1).toNat ≤ 2 ^ 3 := pow_le_pow_right₀ (by norm_num) hk3
      omega
    obtain ⟨hlt, htrunc⟩ := truncate_five_pow hk3
    rw [hlt, if_neg (by decide), htrunc, min_eq_left hbelow]
  · -- from the fifth on, the cap
    have hk4 : 4 ≤ (n - 1).toNat := by omega
    have hcap : (60 : Int) ≤ 5 * 2 ^ (n - 1).toNat := by
      have : (2 : Int) ^ 4 ≤ 2 ^ (n - 1).toNat := pow_le_pow_right₀ (by norm_num) hk4
      omega
    rw [compareInt_five_pow hk4 hk, if_pos rfl, min_eq_right hcap]
    rfl

/-- Doubling a base `k` times from `k = 1024` on fails: the power overflows, or before it the
exponent itself is beyond the doubles. -/
theorem backoff_two_of_le (base : Int) {k : Nat} (hk : 1024 ≤ k) :
    backoff base 2.0 k =
      .error (if Numeral.fitsDouble k then .floatOverflow else .intTooLargeForFloat) := by
  unfold backoff
  by_cases hfit : Numeral.fitsDouble k
  · have hinf : (Float.infinity false).isInf = true := by decide +kernel
    have htwo : (2.0 : Float).isInf = false := by decide +kernel
    have hone : ((2.0 : Float) == 1.0) = false := by decide +kernel
    simp only [Numeral.toDouble, hfit, if_true, Float.exactPow_two, if_neg (show ¬ k < 1024 by omega),
      Option.getD_some, hinf, htwo, hone, show k ≠ 0 by omega, if_false, Bool.false_eq_true]
    rfl
  · simp only [Numeral.toDouble, hfit]
    rfl

/-- From retry 1025 on, the retriable delay fails with an overflow before its cap applies. -/
theorem retriable_delay_of_ge {n : Int} (hn : 1025 ≤ n) :
    (ofCategory .retriable).delay n =
      .error (if Numeral.fitsDouble (n - 1).toNat then .floatOverflow else .intTooLargeForFloat) := by
  have hb := backoff_two_of_le 5 (show 1024 ≤ (n - 1).toNat by omega)
  simp only [delay, ofCategory, RetryConfig.ofCategory, RetryConfig.retriable, hb]
  rfl

end RetryPolicy

end Billing
