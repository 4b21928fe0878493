/-! # Decimal digits of every script

The characters of the Unicode category Nd (decimal digit, Unicode 14.0). Each such
character sits in a run of ten consecutive code points whose first one is zero, so the
table lists where each run starts. Readers of numbers accept all of them, with the value
of their place in the run. Other characters also stand for one digit (superscript two,
circled one); they are told apart from the rest but not read as numbers. -/
namespace Billing.Text

/-- First code points of the runs of ten decimal digits. -/
def digitZeros : List Nat :=
  [0x30, 0x660, 0x6F0, 0x7C0, 0x966, 0x9E6, 0xA66, 0xAE6, 0xB66, 0xBE6, 0xC66, 0xCE6,
   0xD66, 0xDE6, 0xE50, 0xED0, 0xF20, 0x1040, 0x1090, 0x17E0, 0x1810, 0x1946, 0x19D0,
   0x1A80, 0x1A90, 0x1B50, 0x1BB0, 0x1C40, 0x1C50, 0xA620, 0xA8D0, 0xA900, 0xA9D0, 0xA9F0,
   0xAA50, 0xABF0, 0xFF10, 0x104A0, 0x10D30, 0x11066, 0x110F0, 0x11136, 0x111D0, 0x112F0,
   0x11450, 0x114D0, 0x11650, 0x116C0, 0x11730, 0x118E0, 0x11950, 0x11C50, 0x11D50,
   0x11DA0, 0x16A60, 0x16AC0, 0x16B50, 0x1D7CE, 0x1D7D8, 0x1D7E2, 0x1D7EC, 0x1D7F6,
   0x1E140, 0x1E2F0, 0x1E950, 0x1FBF0]

/-- The value of a decimal digit of any script, or `none` for another character. -/
def digitValue? (c : Char) : Option Nat :=
  let n := c.toNat
  (digitZeros.find? fun z => z ≤ n ∧ n < z + 10).map (n - ·)

/-- Whether a character is a decimal digit of some script. -/
def isDigit (c : Char) : Bool := (digitValue? c).isSome

/-- The characters other than decimal digits that stand for a single digit: superscripts,
subscripts, circled and parenthesized digits and the like, as runs of first and last code
points. -/
def digitSignRuns : List Nat :=
  [0xB2, 0xB3, 0xB9, 0xB9, 0x1369, 0x1371, 0x19DA, 0x19DA, 0x2070, 0x2070, 0x2074, 0x2079,
   0x2080, 0x2089, 0x2460, 0x2468, 0x2474, 0x247C, 0x2488, 0x2490, 0x24EA, 0x24EA, 0x24F5, 0x24FD,
   0x24FF, 0x24FF, 0x2776, 0x277E, 0x2780, 0x2788, 0x278A, 0x2792, 0x10A40, 0x10A43, 0x10E60, 0x10E68,
   0x11052, 0x1105A, 0x1F100, 0x1F10A]

/-- Whether a code point lies in one of the runs given as first and last code points. -/
def inRuns (n : Nat) : List Nat → Bool
  | lo :: hi :: rest => (lo ≤ n && n ≤ hi) || inRuns n rest
  | _ => false

@[simp] theorem inRuns_pair (n lo hi : Nat) (rest : List Nat) :
    inRuns n (lo :: hi :: rest) = ((lo ≤ n && n ≤ hi) || inRuns n rest) := rfl

/-- Whether a character stands for a single digit: a decimal digit of some script, or one of
the other digit characters. -/
def isDigitSign (c : Char) : Bool := isDigit c || inRuns c.toNat digitSignRuns

/-- The number written by a nonempty run of decimal digits of any scripts. -/
def digitsValue? (cs : List Char) : Option Nat :=
  if cs.isEmpty then none
  else cs.foldl (fun acc c => acc.bind fun v => (digitValue? c).map (10 * v + ·)) (some 0)

end Billing.Text
