/-! # Blank characters

Two classes of blank characters. White space is the Unicode White_Space property: the ASCII
controls tab to carriage return, space, next line, no-break space, the Unicode space
separators, and the line and paragraph separators. Blanks, the class used when text is
trimmed by the text layer, add the information separators U+001C to U+001F. -/
namespace Billing.Text

/-- Whether a character has the Unicode White_Space property. -/
def isWhiteSpace (c : Char) : Bool :=
  let n := c.toNat
  (0x09 ≤ n ∧ n ≤ 0x0D) || n == 0x20 || n == 0x85 || n == 0xA0 ||
  n == 0x1680 || (0x2000 ≤ n ∧ n ≤ 0x200A) || n == 0x2028 || n == 0x2029 ||
  n == 0x202F || n == 0x205F || n == 0x3000

/-- Whether a character is blank: white space or an information separator. -/
def isBlank (c : Char) : Bool :=
  let n := c.toNat
  (0x09 ≤ n ∧ n ≤ 0x0D) || (0x1C ≤ n ∧ n ≤ 0x20) || n == 0x85 || n == 0xA0 ||
  n == 0x1680 || (0x2000 ≤ n ∧ n ≤ 0x200A) || n == 0x2028 || n == 0x2029 ||
  n == 0x202F || n == 0x205F || n == 0x3000

/-- Text without its leading and trailing white space. -/
def trimWhiteSpace (s : String) : String :=
  String.ofList ((s.toList.dropWhile isWhiteSpace).reverse.dropWhile isWhiteSpace).reverse

theorem isBlank_of_isWhiteSpace (c : Char) (h : isWhiteSpace c) : isBlank c := by
  simp only [isWhiteSpace, isBlank, Bool.or_eq_true, decide_eq_true_eq, beq_iff_eq] at h ⊢
  omega

/-- Text without its leading and trailing blanks. -/
def trim (s : String) : String :=
  String.ofList ((s.toList.dropWhile isBlank).reverse.dropWhile isBlank).reverse

theorem isBlank_of_isWhitespace (c : Char) (h : c.isWhitespace) : isBlank c := by
  simp only [Char.isWhitespace, Bool.or_eq_true, decide_eq_true_eq] at h
  have : c.toNat = c.val.toNat := rfl
  simp only [isBlank, Bool.or_eq_true, decide_eq_true_eq, beq_iff_eq]
  rcases h with ((h | h) | h) | h <;> subst h <;> decide

end Billing.Text
