import Billing.Error

/-! # Domain errors from argument lists

Each family of domain errors is built from positional arguments, as a caller raising it
would pass them: a message first, then the family's own details. An error raised this way
keeps every argument as the value given, so a number passed as the message stays a number
in the error's record; only the messages the family composes itself are text. Optional
arguments that are left out take their defaults, and those that count as false (null,
empty, zero) fall back where the family says so. A list of the wrong length is refused the
way a constructor call with the wrong number of arguments is. -/
namespace Billing

/-- A domain error raised from arguments: its family and its attributes as values. -/
structure RaisedError where
  kind : ErrorKind
  message : Value
  code : Value
  status : Value
  context : Value
  hint : Value

namespace RaisedError

/-- The error as a record: code, message, status, context and hint. -/
def toFields (e : RaisedError) : Fields :=
  [("error_code", e.code), ("message", e.message), ("status_code", e.status),
   ("context", e.context), ("recovery_hint", e.hint)]

/-- The error's text: the text of its message. -/
def text (e : RaisedError) : String := e.message.text

end RaisedError

namespace BillingError

/-- The parameter names of a family's constructor and how many of them are required. -/
def parameters : ErrorKind → List String × Nat
  | .billing => (["message", "error_code", "status_code", "context", "recovery_hint"], 1)
  | .money | .subscription | .payment => (["message", "context", "recovery_hint"], 1)
  | .currencyMismatch => (["left_currency", "right_currency"], 2)
  | .billingCycle => (["message", "context"], 1)
  | .subscriptionNotFound => (["message", "subscription_id"], 1)
  | .subscriptionState | .paymentState => (["message", "current_state", "requested_state"], 3)
  | .paymentNotFound | .refund => (["message", "payment_id"], 1)
  | .infrastructure => (["message", "error_code", "context"], 1)
  | .gatewayUnavailable => (["message", "subscription_id"], 1)
  | .persistence => (["message", "entity_id"], 1)
  | .collaboratorUnavailable => (["message", "collaborator", "subscription_id"], 2)

/-- Quoted names joined as a sentence: `'a'`, `'a' and 'b'`, `'a', 'b', and 'c'`. -/
def nameList (names : List String) : String :=
  let qs := names.map Text.quote
  match qs with
  | [] => ""
  | [a] => a
  | [a, b] => a ++ " and " ++ b
  | _ => ", ".intercalate qs.dropLast ++ ", and " ++ qs.getLastD ""

/-- Why `given` arguments do not fit a family's constructor, if they do not. -/
def arityProblem (kind : ErrorKind) (given : Nat) : Option String :=
  let (names, required) := parameters kind
  let callee := kind.className ++ ".__init__()"
  if given > names.length then
    let takes := if required = names.length then s!"takes {names.length + 1} positional arguments"
      else s!"takes from {required + 1} to {names.length + 1} positional arguments"
    some s!"{callee} {takes} but {given + 1} were given"
  else if given < required then
    let missing := (names.take required).drop given
    let plural := if missing.length = 1 then "argument" else "arguments"
    some s!"{callee} missing {missing.length} required positional {plural}: {nameList missing}"
  else none

/-- A value, or `fallback` when it counts as false. -/
def orElse (v fallback : Value) : Value := if v.isFalsy then fallback else v

/-- A context of one named entry when the value counts as true, and an empty one otherwise. -/
def entryIfGiven (name : String) (v : Value) : Value :=
  if v.isFalsy then .dict [] else .dict [(name, v)]

/-- A domain error of a family from positional arguments. -/
def ofArguments (kind : ErrorKind) (args : List Value) : Outcome RaisedError :=
  match arityProblem kind args.length with
  | some problem => .error (.arguments problem)
  | none =>
    let arg (i : Nat) (fallback : Value) : Value := args.getD i fallback
    let msg := arg 0 .null
    let str (s : String) : Value := .str s
    let retry := str retryHint
    .ok <| match kind with
    | .billing =>
      ⟨.billing, msg, orElse (arg 1 .null) (str "BILLING_ERROR"), arg 2 (.int 400),
        orElse (arg 3 .null) (.dict []), arg 4 .null⟩
    | .money => ⟨.money, msg, str "MONEY_ERROR", .int 400, orElse (arg 1 .null) (.dict []), arg 2 .null⟩
    | .subscription =>
      ⟨.subscription, msg, str "SUBSCRIPTION_ERROR", .int 400, orElse (arg 1 .null) (.dict []),
        arg 2 .null⟩
    | .payment => ⟨.payment, msg, str "PAYMENT_ERROR", .int 402, orElse (arg 1 .null) (.dict []), arg 2 .null⟩
    | .currencyMismatch =>
      let l := arg 0 .null
      let r := arg 1 .null
      ⟨.currencyMismatch, str s!"Currency mismatch: {l.text} != {r.text}", str "CURRENCY_MISMATCH",
        .int 400, .dict [("left_currency", l), ("right_currency", r)],
        str "Convert one amount explicitly before combining them"⟩
    | .billingCycle =>
      ⟨.billingCycle, msg, str "BILLING_CYCLE_ERROR", .int 400, orElse (arg 1 .null) (.dict []),
        str "Check cadence, interval days and anchor day"⟩
    | .subscriptionNotFound =>
      ⟨.subscriptionNotFound, msg, str "SUBSCRIPTION_NOT_FOUND", .int 404,
        entryIfGiven "subscription_id" (arg 1 .null), str "Verify the subscription ID and ensure it exists"⟩
    | .subscriptionState =>
      let cur := arg 1 .null
      let req := arg 2 .null
      ⟨.subscriptionState, msg, str "INVALID_SUBSCRIPTION_STATE", .int 400,
        .dict [("current_state", cur), ("requested_state", req)],
        str s!"Cannot transition from {cur.text} to {req.text}. Check subscription status first."⟩
    | .paymentNotFound =>
      ⟨.paymentNotFound, msg, str "PAYMENT_NOT_FOUND", .int 404, entryIfGiven "payment_id" (arg 1 .null),
        .null⟩
    | .paymentState =>
      let cur := arg 1 .null
      let req := arg 2 .null
      ⟨.paymentState, msg, str "INVALID_PAYMENT_STATE", .int 400,
        .dict [("current_state", cur), ("requested_state", req)],
        str s!"Cannot move payment from {cur.text} to {req.text}"⟩
    | .refund =>
      ⟨.refund, msg, str "REFUND_ERROR", .int 400, entryIfGiven "payment_id" (arg 1 .null),
        str "Refund at most the amount not yet refunded, in the payment currency"⟩
    | .infrastructure =>
      ⟨.infrastructure, msg, orElse (arg 1 (str "INFRASTRUCTURE_ERROR")) (str "BILLING_ERROR"), .int 503,
        orElse (arg 2 .null) (.dict []), retry⟩
    | .gatewayUnavailable =>
      ⟨.gatewayUnavailable, msg, str "GATEWAY_UNAVAILABLE", .int 503,
        entryIfGiven "subscription_id" (arg 1 .null), retry⟩
    | .persistence =>
      ⟨.persistence, msg, str "PERSISTENCE_ERROR", .int 503, entryIfGiven "entity_id" (arg 1 .null), retry⟩
    | .collaboratorUnavailable =>
      let sid := arg 2 .null
      ⟨.collaboratorUnavailable, msg, str "COLLABORATOR_UNAVAILABLE", .int 503,
        .dict (("collaborator", arg 1 .null) :: (if sid.isFalsy then [] else [("subscription_id", sid)])),
        retry⟩

end BillingError

/-- What a name looked up in the module of domain errors stands for: a family of errors,
the type marker for any value (which cannot be instantiated), or a plain attribute of the
module that is not callable, known by the name of its type. -/
inductive ErrorMember where
  | family (k : ErrorKind)
  | anyType
  | attribute (typeName : String)

namespace ErrorMember

/-- The module's own name, as its messages show it. -/
def moduleName : String := "recurring_billing.exceptions"

/-- The member of the module with a name, if there is one: the families, the imported type
marker, and the attributes every module has. -/
def lookup? (name : String) : Option ErrorMember :=
  match ErrorKind.ofClassName? name with
  | some k => some (.family k)
  | none =>
    match name with
    | "Any" => some .anyType
    | "__name__" | "__doc__" | "__file__" | "__cached__" | "__package__" => some (.attribute "str")
    | "__builtins__" | "__dict__" | "__annotations__" => some (.attribute "dict")
    | "__loader__" => some (.attribute "SourceFileLoader")
    | "__spec__" => some (.attribute "ModuleSpec")
    | _ => none

/-- How a callable member is named when its arguments are refused. -/
def callName : ErrorMember → String
  | .family k => moduleName ++ "." ++ k.className ++ "()"
  | .anyType => "typing.Any()"
  | .attribute t => t

/-- The positional arguments spread from a value: the items of a list, the keys of a
record, the characters of text; other values cannot be spread. -/
def spread (m : ErrorMember) (args : Value) : Outcome (List Value) :=
  match args with
  | .list xs => .ok xs
  | .dict fs => .ok (fs.map fun (k, _) => .str k)
  | .str s => .ok (s.toList.map fun c => .str c.toString)
  | other => .error (.arguments (m.callName ++ " argument after * must be an iterable, not " ++
      other.kindName))

/-- Calls a member of the module with arguments spread from a value. -/
def call (m : ErrorMember) (args : Value) : Outcome RaisedError := do
  let xs ← m.spread args
  match m with
  | .family k => BillingError.ofArguments k xs
  | .anyType => .error (.arguments "Any cannot be instantiated")
  | .attribute t => .error (.arguments (Text.quote t ++ " object is not callable"))

/-- Looks a name up in the module and calls it with arguments spread from a value. -/
def raise (name : String) (args : Value) : Outcome (ErrorKind × RaisedError) :=
  match lookup? name with
  | none => .error (.missingAttribute ("module " ++ Text.quote moduleName) name)
  | some m => do
    let e ← m.call args
    pure (e.kind, e)

end ErrorMember

end Billing
