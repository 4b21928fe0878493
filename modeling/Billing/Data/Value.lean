import Billing.Decimal.Shortest
import Billing.Text.Printable

/-! # Free-form values

Metadata, error contexts and the raw arguments that callers hand to the engine are
free-form values: nothing, a truth value, an integer, a double, text, a list, or a record of
named values in the order they were given. A value's literal is how messages show it. -/
namespace Billing

/-- A free-form value. -/
inductive Value where
  | null
  | bool (b : Bool)
  | int (n : Int)
  | float (x : Float)
  | str (s : String)
  | list (xs : List Value)
  | dict (fields : List (String × Value))
  deriving Inhabited

/-- Named values in the order they were given. -/
abbrev Fields := List (String × Value)

namespace Value

mutual
/-- The literal form of a value in messages: `None`, `True`, numbers as written, quoted
text, `[a, b]` and `{'k': v}`. -/
def literal : Value → String
  | .null => "None"
  | .bool b => if b then "True" else "False"
  | .int n => toString n
  | .float x => Float.text x
  | .str s => Text.quote s
  | .list xs => "[" ++ ", ".intercalate (literalList xs) ++ "]"
  | .dict fs => "\x7b" ++ ", ".intercalate (literalFields fs) ++ "\x7d"

/-- The literals of a list's items. -/
def literalList : List Value → List String
  | [] => []
  | x :: xs => literal x :: literalList xs

/-- The literals of a record's entries, `'key': value`. -/
def literalFields : List (String × Value) → List String
  | [] => []
  | (k, v) :: fs => (Text.quote k ++ ": " ++ literal v) :: literalFields fs
end

/-- The text of a value where text is expected: text as it is, anything else as its literal. -/
def text : Value → String
  | .str s => s
  | v => v.literal

/-- Whether a value counts as false: nothing, false, zero, empty text, list or record. -/
def isFalsy : Value → Bool
  | .null => true
  | .bool b => !b
  | .int n => n == 0
  | .float x => x == 0
  | .str s => s.isEmpty
  | .list xs => xs.isEmpty
  | .dict fs => fs.isEmpty

/-- The name of a value's kind as messages show it. -/
def kindName : Value → String
  | .null => "NoneType"
  | .bool _ => "bool"
  | .int _ => "int"
  | .float _ => "float"
  | .str _ => "str"
  | .list _ => "list"
  | .dict _ => "dict"

/-- The value of a key in a record, if it has one. -/
def get? (v : Value) (key : String) : Option Value :=
  match v with
  | .dict fs => fs.lookup key
  | _ => none

end Value

end Billing
