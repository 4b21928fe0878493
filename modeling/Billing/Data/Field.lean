import Billing.Calendar.Iso
import Billing.Data.Numeral
import Billing.Decimal.Text
import Billing.Error

/-! # Typed fields of records

Records from callers are free-form values; each field is read into its type, leniently:
an integer field takes integers, truth values, whole doubles and integer text, a double
field takes numbers, truth values and double text, and a text field takes only text. A
refused field is an `Issue` naming the field; the refusals of all fields of a record are
gathered before the record's own rules run. Dates and times are not fields of this kind:
records read them as ISO 8601 text first, and a refusal there ends the reading at once. -/
namespace Billing

/-- A value read from a record, or the refusals of its fields. -/
abbrev Checked (α : Type) := Except (List Issue) α

namespace Checked

/-- Both results, or the refusals of both, the first's first. -/
def both {α β : Type} (a : Checked α) (b : Checked β) : Checked (α × β) :=
  match a, b with
  | .ok x, .ok y => .ok (x, y)
  | .error e, .ok _ => .error e
  | .ok _, .error e => .error e
  | .error e, .error e' => .error (e ++ e')

/-- A field's result, its refusal placed under the field's name. -/
def field {α : Type} (name : String) (r : Except IssueKind α) : Checked α :=
  r.mapError fun k => [⟨[name], k⟩]

/-- A nested record's result, its refusals placed under the field's name. -/
def under {α : Type} (name : String) (r : Checked α) : Checked α :=
  r.mapError fun is => is.map (Issue.under name)

/-- A rule of the whole record. -/
def rule {α : Type} (ok : Bool) (reason : String) (a : α) : Checked α :=
  if ok then .ok a else .error [⟨[], .rule reason⟩]

/-- The outcome of a check: refusals become an `invalid` error. -/
def run {α : Type} (r : Checked α) : Outcome α := r.mapError .invalid

theorem both_eq_ok {α β : Type} {a : Checked α} {b : Checked β} {x : α} {y : β} :
    both a b = .ok (x, y) ↔ a = .ok x ∧ b = .ok y := by
  cases a <;> cases b <;> simp [both]

theorem run_eq_ok {α : Type} {c : Checked α} {x : α} : c.run = .ok x ↔ c = .ok x := by
  cases c with
  | error issues => exact ⟨(fun h => nomatch h), (fun h => nomatch h)⟩
  | ok a => exact ⟨fun h => by cases h; rfl, fun h => by cases h; rfl⟩

theorem rule_eq_ok {α : Type} {ok : Bool} {reason : String} {a b : α} :
    rule ok reason a = .ok b ↔ ok = true ∧ a = b := by
  cases ok <;> simp [rule]

end Checked

namespace Field

/-- An integer field: integers, truth values, doubles that stand for integers, and integer
text. -/
def int : Value → Except IssueKind Int
  | .int n => .ok n
  | .bool b => .ok (if b then 1 else 0)
  | .float x => Numeral.ofDouble x
  | .str s => Numeral.int s
  | _ => .error .intType

/-- An integer field that may be null. -/
def optInt : Value → Except IssueKind (Option Int)
  | .null => .ok none
  | v => (int v).map some

/-- A double field: doubles, integers, truth values and double text. -/
def float : Value → Except IssueKind Float
  | .float x => .ok x
  | .int n => if Numeral.fitsDouble n then .ok (Float.ofInt n) else .error .floatType
  | .bool b => .ok (if b then 1.0 else 0.0)
  | .str s => Numeral.double s
  | _ => .error .floatType

/-- A text field. -/
def str : Value → Except IssueKind String
  | .str s => .ok s
  | _ => .error .stringType

/-- A text field that may be null. -/
def optStr : Value → Except IssueKind (Option String)
  | .null => .ok none
  | v => (str v).map some

/-- A truth-value field: truth values, 0 and 1, and the usual words. -/
def bool : Value → Except IssueKind Bool
  | .bool b => .ok b
  | .int 0 => .ok false
  | .int 1 => .ok true
  | .int _ => .error .boolParsing
  | .float x => if x == 0 then .ok false else if x == 1 then .ok true else .error .boolParsing
  | .str s =>
    let t := Text.lower s
    if ["0", "off", "f", "false", "n", "no"].contains t then .ok false
    else if ["1", "on", "t", "true", "y", "yes"].contains t then .ok true
    else .error .boolParsing
  | _ => .error .boolType

/-- At least `lo`. -/
def atLeast (lo : Int) (n : Int) : Except IssueKind Int :=
  if n ≥ lo then .ok n else .error .greaterThanEqual

/-- At most `hi`. -/
def atMost (hi : Int) (n : Int) : Except IssueKind Int :=
  if n ≤ hi then .ok n else .error .lessThanEqual

/-- One of a closed set of names. -/
def oneOf {α : Type} (table : List (String × α)) : Value → Except IssueKind α
  | .str s =>
    match table.lookup s with
    | some a => .ok a
    | none => .error .enum
  | _ => .error .enum

/-- A record's entry, or the field's default when it is absent. -/
def entry (record : Value) (name : String) (fallback : Value) : Value :=
  (record.get? name).getD fallback

/-- An entry that a record must have: absent is a missing key. -/
def need (record : Value) (name : String) : Outcome Value :=
  match record.get? name with
  | some v => .ok v
  | none => .error (.missingKey name)

/-- A required entry: absent is `missing`. -/
def required (record : Value) (name : String) : Except IssueKind Value :=
  match record.get? name with
  | some v => .ok v
  | none => .error .missing

end Field

/-- An integer field checked against a lower bound passes, unchanged, exactly when it is not
below the bound. -/
theorem Checked.atLeast_eq_ok (k : String) (lo n m : Int) :
    Checked.field k (Field.int (.int n) >>= Field.atLeast lo) = .ok m ↔ lo ≤ n ∧ m = n := by
  show Checked.field k (Field.atLeast lo n) = .ok m ↔ _
  unfold Field.atLeast
  by_cases hn : lo ≤ n
  · rw [if_pos hn]
    exact ⟨fun h => by cases h; exact ⟨hn, rfl⟩, fun ⟨_, h⟩ => h ▸ rfl⟩
  · rw [if_neg hn]
    exact ⟨(fun h => nomatch h), fun ⟨h, _⟩ => absurd h hn⟩

end Billing
