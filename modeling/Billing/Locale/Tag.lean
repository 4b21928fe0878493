import Billing.Text.Case
import Billing.Text.Letter

/-! # Locale identifiers

A locale identifier names a language and, after underscores, optionally a script (four
letters), a territory (two letters or three digits) and a variant (four characters starting
with a digit, or five or more starting with a letter); a modifier may follow an `@`, and an
encoding after a point (`en_US.UTF-8`) is ignored. The parts are normalized as they are
read: the language in lower case, the script in title case, the territory and the variant
in upper case. -/
namespace Billing.Locale

/-- A locale identifier split into its parts. -/
structure Tag where
  language : String
  territory : Option String := none
  script : Option String := none
  variant : Option String := none
  modifier : Option String := none
  deriving DecidableEq, Inhabited

/-- Text of letters only, and at least one. -/
def allLetters (s : String) : Bool := !s.isEmpty && s.all Text.isLetter

/-- Text of digits only, of any script, and at least one. -/
def allDigits (s : String) : Bool := !s.isEmpty && s.all Text.isDigitSign

/-- Text with its first character in upper case and the rest in lower case. -/
def titleCase (s : String) : String :=
  match s.toList with
  | [] => ""
  | c :: rest => Text.upper c.toString ++ Text.lower (String.ofList rest)

/-- Whether a part can be a variant: four characters starting with a digit, or five or more
starting with a letter. -/
def isVariant (s : String) : Bool :=
  match s.toList with
  | c :: _ => (s.length = 4 && Text.isDigitSign c) || (s.length ≥ 5 && Text.isLetter c)
  | [] => false

namespace Tag

/-- The parts after the language: an optional script, an optional territory and an
optional variant, in that order, and nothing else. -/
def ofParts (language : String) (modifier : Option String) (parts : List String) : Option Tag :=
  let (script, parts) := match parts with
    | p :: rest => if p.length = 4 && allLetters p then (some (titleCase p), rest) else (none, parts)
    | [] => (none, [])
  let (territory, parts) := match parts with
    | p :: rest =>
      if p.length = 2 && allLetters p then (some (Text.upper p), rest)
      else if p.length = 3 && allDigits p then (some p, rest)
      else (none, parts)
    | [] => (none, [])
  match parts with
  | [] => some ⟨language, territory, script, none, modifier⟩
  | [v] => if isVariant v then some ⟨language, territory, script, some (Text.upper v), modifier⟩ else none
  | _ => none

/-- Reads an identifier; `none` when it is empty, its language is not all letters, or parts
are left over. -/
def parse? (s : String) : Option Tag :=
  let (ident, modifier) := match s.splitOn "@" with
    | first :: rest => (first, "@".intercalate rest)
    | [] => ("", "")
  let ident := (ident.splitOn ".").headD ""
  let modifier := if modifier.isEmpty then none else some modifier
  match ident.splitOn "_" with
  | lang :: parts =>
    let language := Text.lower lang
    if allLetters language then ofParts language modifier parts else none
  | [] => none

/-- The identifier of the parts: language, script, territory and variant joined by
underscores, then `@` and the modifier if there is one. -/
def name (t : Tag) : String :=
  let parts := [some t.language, t.script, t.territory, t.variant].filterMap id
  let base := "_".intercalate (parts.filter (!·.isEmpty))
  match t.modifier with
  | some m => if m.isEmpty then base else base ++ "@" ++ m
  | none => base

/-- The identifier without its modifier. -/
def baseName (t : Tag) : String := (⟨t.language, t.territory, t.script, t.variant, none⟩ : Tag).name

/-- The language and territory alone. -/
def reduced (t : Tag) : Tag := ⟨t.language, t.territory, none, none, none⟩

end Tag

end Billing.Locale
