import Billing.Money.Basic
import Mathlib

/-! # The text form of an amount

An amount is written as its minor units followed by its currency code (`-1050EUR`), and
reading that text gives the amount back (`text_reads_back`) for every amount in a currency
the checks accept whose minor units have at most 4300 digits, the most a numeral may have
to be read. The currency check accepts exactly the codes of the table, each as it stands
(`Money.currencyOf_str_known`, `Money.known_of_currencyOf`): every code there is three
capital letters, which upper-casing leaves alone and no reader of digits takes for one. -/
namespace Billing

namespace Text

/-- A capital letter of the Latin alphabet, by its code point. -/
theorem capital_toNat {x : Char} (hx : 'A' ≤ x ∧ x ≤ 'Z') : 65 ≤ x.toNat ∧ x.toNat ≤ 90 := by
  obtain ⟨h₁, h₂⟩ := hx
  simp only [Char.le_def, UInt32.le_iff_toNat_le] at h₁ h₂
  exact ⟨h₁, h₂⟩

/-- Upper-casing leaves a capital letter of the Latin alphabet as it is: no run and no
longer form of the table starts below the lower-case letters. -/
theorem caseForm_upper_capital {x : Char} (hx : 'A' ≤ x ∧ x ≤ 'Z') :
    caseForm upperRuns upperWide x = [x] := by
  have hn := capital_toNat hx
  have hwide : ∀ w ∈ upperWide, 90 < w.1 := by decide +kernel
  have hruns : ∀ r ∈ upperRuns, 90 < r.start := by decide +kernel
  have hw : upperWide.find? (·.1 == x.toNat) = none :=
    List.find?_eq_none.2 fun w hw => by
      have := hwide w hw
      simp only [beq_iff_eq]
      omega
  have hr : upperRuns.find? (·.covers x.toNat) = none :=
    List.find?_eq_none.2 fun r hr => by
      have := hruns r hr
      simp only [CaseRun.covers, Bool.and_eq_true, decide_eq_true_eq, beq_iff_eq, not_and]
      omega
  simp only [caseForm, hw, hr]

/-- Text of capital letters is its own upper case. -/
theorem upper_of_capitals {s : String} (h : ∀ x ∈ s.toList, 'A' ≤ x ∧ x ≤ 'Z') : upper s = s := by
  have hmap : ∀ l : List Char, (∀ x ∈ l, 'A' ≤ x ∧ x ≤ 'Z') →
      l.flatMap (caseForm upperRuns upperWide) = l := by
    intro l hl
    induction l with
    | nil => rfl
    | cons x l ih =>
      rw [List.flatMap_cons, caseForm_upper_capital (hl x (by simp)),
        ih fun y hy => hl y (by simp [hy]), List.singleton_append]
  rw [upper, hmap _ h, String.ofList_toList]

/-- An ASCII digit has its face value in the digit table: its run is the first. -/
theorem digitValue?_ascii {c : Char} (h : c.isDigit = true) : digitValue? c = some (c.toNat - 48) := by
  have hc : 48 ≤ c.toNat ∧ c.toNat ≤ 57 := by
    simp only [Char.isDigit, Bool.and_eq_true, decide_eq_true_eq, UInt32.le_iff_toNat_le] at h
    exact h
  have hzeros : digitZeros = 0x30 :: digitZeros.tail := rfl
  rw [digitValue?, hzeros, List.find?_cons_of_pos (by simp only [decide_eq_true_eq]; omega)]
  rfl

/-- No capital letter is a digit of any script. -/
theorem isDigit_capital {x : Char} (hx : 'A' ≤ x ∧ x ≤ 'Z') : isDigit x = false := by
  have hn := capital_toNat hx
  have hzeros : ∀ z ∈ digitZeros, z = 0x30 ∨ 0x660 ≤ z := by decide +kernel
  have hnone : digitZeros.find? (fun z => decide (z ≤ x.toNat ∧ x.toNat < z + 10)) = none :=
    List.find?_eq_none.2 fun z hz => by
      have := hzeros z hz
      simp only [decide_eq_true_eq, not_and, Nat.not_lt]
      omega
  simp only [isDigit, digitValue?, hnone, Option.map_none, Option.isSome_none]

/-- Reading the decimal numeral of a number gives the number back. -/
theorem digitsValue?_toDigits (n : Nat) : digitsValue? (Nat.toDigits 10 n) = some n := by
  -- the reader's fold agrees with the numeral's value on ASCII digits, from any start
  have hfold : ∀ (cs : List Char) (k : Nat), (∀ c ∈ cs, c.isDigit = true) →
      cs.foldl (fun acc c => acc.bind fun v => (digitValue? c).map (10 * v + ·)) (some k) =
        some (Nat.ofDigitChars 10 cs k) := by
    intro cs
    induction cs with
    | nil => intro k _; rfl
    | cons c cs ih =>
      intro k h
      rw [List.foldl_cons, Option.bind_some, digitValue?_ascii (h c (by simp)), Option.map_some,
        ih _ fun d hd => h d (by simp [hd]), Nat.ofDigitChars_cons]
      rfl
  have hdigits : ∀ c ∈ Nat.toDigits 10 n, c.isDigit = true :=
    fun c hc => Nat.isDigit_of_mem_toDigits (by decide) (by decide) hc
  rw [digitsValue?, if_neg (by simp), hfold _ 0 hdigits, Nat.ofDigitChars_ten_toDigits]

/-- The digits of a decimal numeral are digits of the table. -/
theorem isDigit_of_mem_toDigits {c : Char} {n : Nat} (h : c ∈ Nat.toDigits 10 n) : isDigit c = true := by
  simp [isDigit, digitValue?_ascii (Nat.isDigit_of_mem_toDigits (by decide) (by decide) h)]

end Text

namespace Currency

/-- Every code of the table is three capital letters. -/
theorem codes_capitals : ∀ c ∈ codes, c.toList.length = 3 ∧ ∀ x ∈ c.toList, 'A' ≤ x ∧ x ≤ 'Z' := by
  -- checked as one truth value over the table, which the kernel evaluates
  have hall : codes.all (fun c => c.toList.length == 3 && c.toList.all Char.isUpper) = true := by
    decide +kernel
  intro c hc
  have hcheck := List.all_eq_true.1 hall c hc
  simp only [Bool.and_eq_true, beq_iff_eq, List.all_eq_true] at hcheck
  refine ⟨hcheck.1, fun x hx => ?_⟩
  have hu := hcheck.2 x hx
  simp only [Char.isUpper, decide_eq_true_eq] at hu
  exact ⟨hu.1, hu.2⟩

/-- A known code is three capital letters. -/
theorem capitals_of_known {c : String} (h : isKnown c = true) :
    c.toList.length = 3 ∧ ∀ x ∈ c.toList, 'A' ≤ x ∧ x ≤ 'Z' :=
  codes_capitals c (List.contains_iff_mem.1 h)

end Currency

namespace Money

/-- The currency check accepts a known code as it stands. -/
theorem currencyOf_str_known {c : String} (h : Currency.isKnown c = true) :
    currencyOf (.str c) = .ok c := by
  obtain ⟨hlen, hcaps⟩ := Currency.capitals_of_known h
  have hlen' : c.length = 3 := by rw [← String.length_toList, hlen]
  simp only [currencyOf, hlen', ne_eq, not_true_eq_false, if_false, Text.upper_of_capitals hcaps, h,
    if_true]

/-- Whatever the currency check accepts is a known code. -/
theorem known_of_currencyOf {v : Value} {c : String} (h : currencyOf v = .ok c) :
    Currency.isKnown c = true := by
  unfold currencyOf at h
  split at h
  · split at h
    · cases h
    · dsimp only at h
      split at h
      · cases h
        assumption
      · cases h
  · cases h

/-- The text of an integer: a minus sign for a negative one, then the decimal numeral of its
magnitude. -/
theorem toList_repr_int (n : Int) :
    n.repr.toList = (if n < 0 then ['-'] else []) ++ Nat.toDigits 10 n.natAbs := by
  cases n with
  | ofNat m => simp [Int.repr]
  | negSucc m => simp [Int.repr, Int.negSucc_lt_zero]

/-- Reading the text of minor units and a code of three capital letters gives both back. -/
theorem parseText?_text (n : Int) {code : String}
    (hcode : code.toList.length = 3 ∧ ∀ x ∈ code.toList, 'A' ≤ x ∧ x ≤ 'Z') :
    parseText? (toString n ++ code) = some (n, code) := by
  obtain ⟨x, y, z, hxyz⟩ := List.length_eq_three.1 hcode.1
  have hx := hcode.2 x (by simp [hxyz])
  have hy := hcode.2 y (by simp [hxyz])
  have hz := hcode.2 z (by simp [hxyz])
  have hdigits : ∀ c ∈ Nat.toDigits 10 n.natAbs, Text.isDigit c = true :=
    fun _ hc => Text.isDigit_of_mem_toDigits hc
  -- the numeral stops at the first letter of the code, which ends the text
  have hx' : Text.isDigit x = false := Text.isDigit_capital hx
  have htake : (Nat.toDigits 10 n.natAbs ++ [x, y, z]).takeWhile Text.isDigit =
      Nat.toDigits 10 n.natAbs := by
    rw [List.takeWhile_append_of_pos hdigits, List.takeWhile_cons_of_neg (by simp [hx']),
      List.append_nil]
  have hdrop : (Nat.toDigits 10 n.natAbs ++ [x, y, z]).dropWhile Text.isDigit = [x, y, z] := by
    rw [List.dropWhile_append_of_pos hdigits, List.dropWhile_cons_of_neg (by simp [hx'])]
  have hend : z ≠ '\n' := fun h => by
    have := Text.capital_toNat hz
    rw [h] at this
    simp at this
  have hcodeEq : String.singleton x ++ (String.singleton y).push z = code :=
    String.toList_inj.1 (by simp [hxyz])
  by_cases hn : n < 0
  · simp [parseText?, toList_repr_int, hxyz, hend, hn, htake, hdrop, Text.digitsValue?_toDigits, hx, hy,
      hz, hcodeEq]
    rw [abs_of_neg hn, neg_neg]
  · -- a numeral starts with a digit, never with a minus sign
    obtain ⟨d, ds, hds⟩ := List.exists_cons_of_ne_nil (Nat.toDigits_ne_nil (b := 10) (n := n.natAbs))
    have hd : d ≠ '-' := by
      have hdig := Nat.isDigit_of_mem_toDigits (b := 10) (n := n.natAbs) (by decide) (by decide)
        (by rw [hds]; exact List.mem_cons_self)
      rintro rfl
      exact absurd hdig (by decide)
    have hval : Text.digitsValue? (d :: ds) = some n.natAbs := hds ▸ Text.digitsValue?_toDigits _
    rw [hds, List.cons_append] at htake hdrop
    simp [parseText?, toList_repr_int, hxyz, hend, hn, hds, hd, htake, hdrop, hval, hx, hy, hz,
      hcodeEq]
    omega

/-- The text of an amount has as many digits as the numeral of its minor units. -/
theorem count_digits_text {m : Money} (hc : Currency.isKnown m.currency = true) :
    (m.text.toList.filter Text.isDigit).length = (Nat.toDigits 10 m.amount.natAbs).length := by
  have hcaps := (Currency.capitals_of_known hc).2
  have hcode : m.currency.toList.filter Text.isDigit = [] :=
    List.filter_eq_nil_iff.2 fun x hx => by simp [Text.isDigit_capital (hcaps x hx)]
  have hminus : Text.isDigit '-' = false := by decide +kernel
  simp only [text, String.toList_append, Int.toString_eq_repr, toList_repr_int, List.filter_append,
    List.filter_eq_self.2 fun _ hx => Text.isDigit_of_mem_toDigits hx, hcode]
  split <;> simp [hminus]

/-- Reading the text of an amount gives the amount back, for every amount in a known
currency whose minor units have at most 4300 digits. -/
theorem text_reads_back (m : Money) (hc : Currency.isKnown m.currency = true)
    (hn : m.amount.natAbs < 10 ^ 4300) : ofString m.text = .ok m := by
  have hlen : (Nat.toDigits 10 m.amount.natAbs).length ≤ 4300 :=
    (Nat.length_toDigits_le_iff (by decide) (by decide)).2 hn
  rw [ofString, text, parseText?_text _ (Currency.capitals_of_known hc)]
  dsimp only
  rw [← text, count_digits_text hc, if_neg (by omega)]
  simp [ofValues, amountOf, build, currencyOf_str_known hc, bind, Except.bind]

/-- A refund of ten euros fifty, written `-1050EUR`, reads back. -/
theorem refund_text_reads_back :
    Currency.isKnown "EUR" = true ∧ (-1050 : Int).natAbs < 10 ^ 4300 ∧
      ofString (text ⟨-1050, "EUR"⟩) = .ok ⟨-1050, "EUR"⟩ := by
  have hsmall : (-1050 : Int).natAbs < 10 ^ 4300 :=
    calc (-1050 : Int).natAbs < 10 ^ 4 := by decide
      _ ≤ 10 ^ 4300 := Nat.pow_le_pow_right (by decide) (by decide)
  exact ⟨by decide +kernel, hsmall, text_reads_back ⟨-1050, "EUR"⟩ (by decide +kernel) hsmall⟩

end Money

end Billing
