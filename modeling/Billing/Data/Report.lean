import Billing.Data.Field

/-! # Validation reports

A record refused while a collaborator builds it is reported as text, one block per refused
field after a first line `N validation error(s) for Model`: the field's location, then the
reason with the kind of refusal, the input as a literal and the input's kind, then a line
pointing to the documentation of that kind. An input literal longer than 50 bytes is cut
to its first 25 and last 24 bytes around `...`. -/
namespace Billing

/-- The reason of a refusal as a report states it. -/
def IssueKind.reason : IssueKind → String
  | .greaterThanEqual => "Input should be greater than or equal to the lower bound"
  | .greaterThan => "Input should be greater than the lower bound"
  | .lessThan => "Input should be less than the upper bound"
  | .lessThanEqual => "Input should be less than or equal to the upper bound"
  | .enum => "Input should be one of the allowed values"
  | .missing => "Field required"
  | .intParsing => "Input should be a valid integer, unable to parse string as an integer"
  | .intParsingSize => "Unable to parse input string as an integer, exceeded maximum size"
  | .intFromFloat => "Input should be a valid integer, got a number with a fractional part"
  | .finiteNumber => "Input should be a finite number"
  | .intType => "Input should be a valid integer"
  | .floatParsing => "Input should be a valid number, unable to parse string as a number"
  | .floatType => "Input should be a valid number"
  | .stringType => "Input should be a valid string"
  | .boolParsing => "Input should be a valid boolean, unable to interpret input"
  | .boolType => "Input should be a valid boolean"
  | .dateParsing => "Input should be a valid date"
  | .dateType => "Input should be a valid date"
  | .dateFromDatetimeInexact => "Datetimes provided to dates should have zero time"
  | .datetimeParsing => "Input should be a valid datetime"
  | .datetimeType => "Input should be a valid datetime"
  | .dictType => "Input should be a valid dictionary"
  | .listType => "Input should be a valid list"
  | .modelType => "Input should be a valid dictionary or instance of the model"
  | .rule reason => "Value error, " ++ reason

/-- The documented name of a kind of refusal. -/
def IssueKind.docName : IssueKind → String
  | .rule _ => "value_error"
  | k => k.code

namespace Report

/-- The first `n` bytes of text, cut back to a character boundary. -/
def headBytes (cs : List Char) (n : Nat) : List Char :=
  match cs with
  | [] => []
  | c :: rest => if c.utf8Size ≤ n then c :: headBytes rest (n - c.utf8Size) else []

/-- A literal of at most 50 bytes: a longer one is cut to its first 25 and last 24 bytes. -/
def clip (s : String) : String :=
  if s.utf8ByteSize ≤ 50 then s
  else
    let cs := s.toList
    String.ofList (headBytes cs 25) ++ "..." ++ String.ofList (headBytes cs.reverse 24).reverse

/-- The block of one refused field, with the input it refused. -/
def block (issue : Issue) (input : Value) : String :=
  (if issue.loc.isEmpty then "" else ".".intercalate issue.loc ++ "\n") ++
    "  " ++ issue.kind.reason ++ " [type=" ++ issue.kind.docName ++ ", input_value=" ++
    clip input.literal ++ ", input_type=" ++ input.kindName ++ "]\n" ++
    "    For further information visit https://errors.pydantic.dev/2.14/v/" ++ issue.kind.docName

/-- Both results, or the refusals of both with their inputs, the first's first. -/
def both {α β : Type} (a : Except (List (Issue × Value)) α) (b : Except (List (Issue × Value)) β) :
    Except (List (Issue × Value)) (α × β) :=
  match a, b with
  | .ok x, .ok y => .ok (x, y)
  | .error e, .ok _ => .error e
  | .ok _, .error e => .error e
  | .error e, .error e' => .error (e ++ e')

/-- The report of a refused record of a model: each issue with the input it refused. -/
def text (model : String) (issues : List (Issue × Value)) : String :=
  let n := issues.length
  toString n ++ " validation error" ++ (if n = 1 then "" else "s") ++ " for " ++ model ++ "\n" ++
    "\n".intercalate (issues.map fun (i, v) => block i v)

end Report

end Billing
