import Billing.Money.Basic
import Billing.Locale.Conventions

/-! # Formatting amounts for a locale

An amount is shown in major units with exactly its currency's minor digits, in the
locale's currency pattern: the number's digits grouped as the pattern groups them (by
thousands, or by thousands and then hundreds for `#,##,##0.00`), the locale's separators,
and the currency's symbol in the locale where the pattern has `¤`. A pattern without a
negative form shows a negative amount with `-` before the positive form.

Main statement: `groupDigits_short`, a number no longer than its first group is left
ungrouped. -/
namespace Billing

/-- A currency pattern read into its parts: the text around the number for positive and
negative amounts, the sizes of the digit groups, and the least number of whole digits. -/
structure CurrencyPattern where
  positivePrefix : String
  positiveSuffix : String
  negativePrefix : String
  negativeSuffix : String
  /-- The size of the last group of whole digits (1000 when the pattern does not group). -/
  primary : Nat
  /-- The size of the groups before the last one. -/
  secondary : Nat
  minWhole : Nat

namespace CurrencyPattern

/-- Characters that belong to a number in a pattern. -/
def isNumberChar (c : Char) : Bool := c.isDigit || "@#.,E+".contains c

/-- Characters that end the text before a number. -/
def startsNumber (c : Char) : Bool := c.isDigit || "@#.,".contains c

/-- The text before a number: characters that cannot start a number, and quoted runs. -/
def prefixPart (cs : List Char) : List Char × List Char :=
  go cs.length cs
where
  /-- Reads the text before a number within a bound on its length. -/
  go : Nat → List Char → List Char × List Char
    | 0, cs => ([], cs)
    | _, [] => ([], [])
    | fuel + 1, c :: rest =>
      if c = Text.apostrophe ∧ rest.contains Text.apostrophe then
        let quoted := rest.takeWhile (· ≠ Text.apostrophe)
        let (more, tail) := go fuel ((rest.dropWhile (· ≠ Text.apostrophe)).drop 1)
        (c :: quoted ++ Text.apostrophe :: more, tail)
      else if startsNumber c then ([], c :: rest)
      else
        let (more, tail) := go fuel rest
        (c :: more, tail)

/-- A sub-pattern split into the text before the number, the number and the text after. -/
def split (cs : List Char) : String × List Char × String :=
  let (pre, rest) := prefixPart cs
  (String.ofList pre, rest.takeWhile isNumberChar, String.ofList (rest.dropWhile isNumberChar))

/-- The sizes of the digit groups of a whole-number pattern such as `#,##,##0`: the last
group and the one before it; 1000 for both when there is no separator. -/
def grouping (whole : List Char) : Nat × Nat :=
  let rev := whole.reverse
  match rev.idxOf? ',' with
  | none => (1000, 1000)
  | some g1 =>
    match (rev.drop (g1 + 1)).idxOf? ',' with
    | none => (g1, g1)
    | some g2 => (g1, g2)

/-- Reads a pattern `positive[;negative]`. -/
def parse (s : String) : CurrencyPattern :=
  let (pos, neg) := match s.splitOn ";" with
    | p :: n :: rest => (p, some (";".intercalate (n :: rest)))
    | p :: [] => (p, none)
    | [] => ("", none)
  let (pre, number, suf) := split pos.toList
  let (npre, nsuf) := match neg with
    | some n => let (a, _, b) := split n.toList; (a, b)
    | none => ("-" ++ pre, suf)
  let number := number.takeWhile (· ≠ 'E')
  let whole := if number.contains '.' then (number.reverse.dropWhile (· ≠ '.')).drop 1 |>.reverse else number
  let (g1, g2) := grouping whole
  let minWhole := ((whole.filter (· ≠ ',')).takeWhile (fun c => c = '0' ∨ c = '@' ∨ c = '#')).countP
    (fun c => c = '0' ∨ c = '@')
  ⟨pre, suf, npre, nsuf, g1, g2, minWhole⟩

end CurrencyPattern

/-- Text with its quoted runs opened: a run between two apostrophes stands for itself, and
two apostrophes in a row for one apostrophe. An apostrophe with no partner stays. -/
def unquote (cs : List Char) : List Char :=
  go cs.length cs
where
  /-- Opens quoted runs within a bound on the length of the text. -/
  go : Nat → List Char → List Char
    | 0, cs => cs
    | _, [] => []
    | fuel + 1, c :: rest =>
      if c = Text.apostrophe ∧ rest.contains Text.apostrophe then
        let quoted := rest.takeWhile (· ≠ Text.apostrophe)
        let tail := go fuel ((rest.dropWhile (· ≠ Text.apostrophe)).drop 1)
        (if quoted.isEmpty then [Text.apostrophe] else quoted) ++ tail
      else c :: go fuel rest

/-- Groups whole digits from the right: the last group of `primary` digits, the ones before
of `secondary` digits, joined by `sep`. -/
def groupDigits (sep : String) (primary secondary : Nat) (ds : List Char) : String :=
  go ds primary "" ds.length
where
  /-- Splits off groups of `size` digits while more digits than that remain. -/
  go (value : List Char) (size : Nat) (acc : String) : Nat → String
    | 0 => String.ofList value ++ acc
    | fuel + 1 =>
      if 0 < size ∧ size < value.length then
        go (value.take (value.length - size)) secondary
          (sep ++ String.ofList (value.drop (value.length - size)) ++ acc) fuel
      else String.ofList value ++ acc

theorem groupDigits_short (sep : String) (primary secondary : Nat) (ds : List Char)
    (h : ds.length ≤ primary) : groupDigits sep primary secondary ds = String.ofList ds := by
  unfold groupDigits
  cases hl : ds.length with
  | zero =>
    simp [groupDigits.go]
  | succ n =>
    simp only [groupDigits.go]
    rw [if_neg (by omega)]
    simp

example : groupDigits "," 3 2 "1234567".toList = "12,34,567" := by decide +kernel

namespace Money

/-- The amount written in a locale (a name with data): its major units rounded to the
currency's digits (more than 28 digits is an invalid operation), laid out by the locale's
currency pattern, with its quoted text opened. -/
def format (m : Money) (locale : String) : Outcome String := do
  let value ← m.major
  let p := Currency.precision m.currency
  let negative := m.amount < 0
  let mag ← decimalOutcome (Decimal.abs moneyContext value)
  let r ← decimalOutcome (Decimal.quantize moneyContext .halfEven mag (-(p : Int)))
  let coeff := match r with
    | .finite _ c _ => c
    | _ => 0
  let pattern := CurrencyPattern.parse (Locale.currencyPattern locale)
  let ds := Nat.toDigits 10 coeff
  let ds := List.replicate (p + 1 - ds.length) '0' ++ ds
  let whole := ds.take (ds.length - p)
  let whole := List.replicate (pattern.minWhole - whole.length) '0' ++ whole
  let frac := ds.drop (ds.length - p)
  let number := groupDigits (Locale.groupSymbol locale) pattern.primary pattern.secondary whole ++
    (if p = 0 then "" else Locale.decimalSymbol locale ++ String.ofList frac)
  let shown := if negative then pattern.negativePrefix ++ number ++ pattern.negativeSuffix
    else pattern.positivePrefix ++ number ++ pattern.positiveSuffix
  pure (String.ofList (unquote (shown.replace "¤" (Locale.currencySymbol locale m.currency)).toList))

end Money

end Billing
