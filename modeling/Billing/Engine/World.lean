import Billing.Data.Report
import Billing.Payment.Attempt

/-! # The world of a billing run

Billing runs talk to collaborators outside the engine: a payment gateway, an optional
payment-method check, an optional discount resolver, and a repository of subscriptions and
payments. Here they are data: the gateway answers from a script (and approves once the
script is used up), the repository is a pair of keyed lists whose reads and writes may be
made to fail, and every gateway call and successful write is recorded in order. A run is a
computation over this world that keeps the world it reached when it fails. -/
namespace Billing

/-- What a payment gateway reports for one submission. -/
structure GatewayResult where
  success : Bool
  providerRef : Option String
  statusCode : Option String
  errorCode : Option String
  errorMessage : Option String
  deriving Inhabited

/-- How the gateway responds to one call: with a result, with a scripted result record
that it still has to build, by failing, or by timing out. -/
inductive GatewayReply where
  | answer (r : GatewayResult)
  | record (fields : Value)
  | raises (message : String)
  | timeout
  deriving Inhabited

/-- The result a gateway builds from a record: `success` is a required truth value, the
others are optional text. A refusal is the text of its validation report. -/
def GatewayResult.ofRecord (r : Value) : Except String GatewayResult :=
  let opt (name : String) : Except (List (Issue × Value)) (Option String) :=
    let v := Field.entry r name .null
    (Field.optStr v).mapError fun k => [(⟨[name], k⟩, v)]
  let success : Except (List (Issue × Value)) Bool :=
    match r.get? "success" with
    | some v => (Field.bool v).mapError fun k => [(⟨["success"], k⟩, v)]
    | none => .error [(⟨["success"], .missing⟩, r)]
  let fields := Report.both success (Report.both (opt "provider_ref")
    (Report.both (opt "status_code") (Report.both (opt "error_code") (opt "error_message"))))
  match fields with
  | .ok (ok, ref, status, code, message) => .ok ⟨ok, ref, status, code, message⟩
  | .error issues => .error (Report.text "GatewayResult" issues)

/-- The payment-method check: the methods it knows to be usable, or a failure. -/
inductive MethodCheck where
  | available (refs : List String)
  | raises (message : String)

/-- The discount resolver: an amount taken off, a fixed amount to charge, or a failure. The
amounts are the keyword arguments the resolver builds them from when it is asked. -/
inductive Discount where
  | subtract (args : Value)
  | fixed (args : Value)
  | raises (message : String)

/-- An amount built from keyword arguments (`amount` 0 and `currency` TWD when absent), as
a collaborator builds it; a refusal is the text of its validation report, and arguments
that are not a record are no keyword arguments at all. -/
def Money.ofArguments (args : Value) : Except String Money :=
  match args with
  | .dict _ =>
    let amount := Field.entry args "amount" (.int 0)
    let currency := Field.entry args "currency" (.str "TWD")
    match Money.ofValues amount currency with
    | .ok m => .ok m
    | .error (.invalid issues) =>
      .error (Report.text "Money" (issues.map fun i =>
        (i, if i.loc = ["currency"] then currency else amount)))
    | .error e => .error e.message
  | other => .error ("recurring_billing.money.Money() argument after ** must be a mapping, not " ++
      other.kindName)

/-- One call made to the gateway. -/
structure GatewayCall where
  amount : Money
  paymentMethod : String
  idempotencyKey : String
  deriving Inhabited

/-- Repository operations made to fail, with the message of the failure. -/
structure Faults where
  subscriptionSave : Option String
  subscriptionLoad : Option String
  paymentSave : Option String
  paymentLoad : Option String
  deriving Inhabited

/-- Which repository operation a fault concerns. -/
inductive FaultSite where
  | subscriptionSave
  | paymentSave
  | subscriptionLoad
  | paymentLoad

/-- The faults with one site set (or cleared with `none`). -/
def Faults.set (f : Faults) (site : FaultSite) (message : Option String) : Faults :=
  match site with
  | .subscriptionSave => { f with subscriptionSave := message }
  | .paymentSave => { f with paymentSave := message }
  | .subscriptionLoad => { f with subscriptionLoad := message }
  | .paymentLoad => { f with paymentLoad := message }

/-- The repository, the gateway's script and what was recorded. -/
structure World where
  subscriptions : List (String × Subscription)
  payments : List (String × PaymentAttempt)
  faults : Faults
  script : List GatewayReply
  callCount : Nat
  calls : List GatewayCall
  writes : List (String × String)
  deriving Inhabited

/-- A computation over the world that may fail, keeping the world it reached. -/
abbrev Step := EStateM Error World

/-- Replaces the entry of a key, or appends it. -/
def upsert {α : Type} (k : String) (v : α) : List (String × α) → List (String × α)
  | [] => [(k, v)]
  | (k', v') :: rest => if k' = k then (k, v) :: rest else (k', v') :: upsert k v rest

namespace World

/-- Lifts an outcome into a step. -/
def lift {α : Type} (r : Outcome α) : Step α :=
  match r with
  | .ok a => pure a
  | .error e => throw e

/-- Loads a subscription; a missing one is an error. -/
def loadSubscription (id : String) : Step Subscription := do
  let w ← get
  match w.faults.subscriptionLoad with
  | some m => throw (.billing (.persistence ("Failed to load subscription: " ++ m) (some id)))
  | none =>
    match w.subscriptions.lookup id with
    | some s => pure s
    | none => throw (.billing (.subscriptionNotFound ("Subscription " ++ id ++ " not found") (some id)))

/-- Loads a payment, if there is one. -/
def loadPayment (id : String) : Step (Option PaymentAttempt) := do
  let w ← get
  match w.faults.paymentLoad with
  | some m => throw (.billing (.persistence ("Failed to load payment: " ++ m) (some id)))
  | none => pure (w.payments.lookup id)

/-- Saves a subscription and records the write. -/
def saveSubscription (s : Subscription) : Step Unit := do
  let w ← get
  match w.faults.subscriptionSave with
  | some m => throw (.billing (.persistence ("Failed to save subscription: " ++ m) (some s.id)))
  | none =>
    let subs := upsert s.id s w.subscriptions
    set { w with subscriptions := subs, writes := w.writes ++ [("subscription", s.id)] }

/-- Saves a payment and records the write. -/
def savePayment (p : PaymentAttempt) : Step Unit := do
  let w ← get
  match w.faults.paymentSave with
  | some m => throw (.billing (.persistence ("Failed to save payment: " ++ m) (some p.id)))
  | none =>
    set { w with payments := upsert p.id p w.payments, writes := w.writes ++ [("payment", p.id)] }

/-- Calls the gateway: the next scripted reply, or an approval with reference `ch_<n>` once
the script is used up, where `n` counts the calls so far. The call is recorded. -/
def submit (amount : Money) (method key : String) : Step GatewayReply := do
  let w ← get
  let n := w.callCount + 1
  let approval : GatewayResult := ⟨true, some ("ch_" ++ toString n), some "SUCCEEDED", none, none⟩
  let (reply, rest) := match w.script with
    | r :: rest => (r, rest)
    | [] => (GatewayReply.answer approval, [])
  let call : GatewayCall := ⟨amount, method, key⟩
  set { w with callCount := n, script := rest, calls := w.calls ++ [call] }
  pure reply

end World

end Billing
