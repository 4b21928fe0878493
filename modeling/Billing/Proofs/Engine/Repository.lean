import Billing.Engine.Run

/-! # What a run does to its world

The collaborator calls of a billing run, stated once: a load reads the repository and
changes nothing, a save replaces the entry of its key (or appends one) and records the
write, and a gateway call takes the next scripted reply and records the call. A fault makes
a load or a save fail and leaves the world as it was. Every other part of a run only reads
the world (`Reads`), so what a whole run may do to its world is decided by these few calls. -/
namespace Billing

/-- The world a step ends in, whether it returned or failed. -/
def worldOf {α : Type} : EStateM.Result Error World α → World
  | .ok _ w => w
  | .error _ w => w

@[simp] theorem worldOf_ok {α : Type} (a : α) (w : World) : worldOf (.ok a w) = w := rfl

@[simp] theorem worldOf_error {α : Type} (err : Error) (w : World) :
    worldOf (.error err w : EStateM.Result Error World α) = w := rfl

/-- A failure leaves the world as it was, whatever the type of the step. -/
@[simp] theorem step_run_throw {α : Type} (err : Error) (w : World) :
    (throw err : Step α).run w = .error err w := rfl

section Upsert

variable {α : Type} (k k' : String) (v v' : α) (l : List (String × α))

theorem lookup_upsert : (upsert k v l).lookup k' = if k' = k then some v else l.lookup k' := by
  induction l with
  | nil => by_cases h : k' = k <;> simp [upsert, h]
  | cons kv l ih =>
    obtain ⟨j, x⟩ := kv
    by_cases h : k' = j
    · subst h
      by_cases hj : k' = k <;> simp [upsert, hj]
    · have hb : (k' == j) = false := by simpa using h
      by_cases hj : j = k
      · subst hj
        simp [upsert, List.lookup_cons, hb, h]
      · simp [upsert, List.lookup_cons, hb, hj, ih]

@[simp] theorem lookup_upsert_self : (upsert k v l).lookup k = some v := by
  simp [lookup_upsert]

theorem lookup_upsert_of_ne (h : k' ≠ k) : (upsert k v l).lookup k' = l.lookup k' := by
  simp [lookup_upsert, h]

@[simp] theorem upsert_upsert : upsert k v (upsert k v' l) = upsert k v l := by
  induction l with
  | nil => simp [upsert]
  | cons kv l ih =>
    obtain ⟨j, x⟩ := kv
    by_cases h : j = k <;> simp [upsert, h, ih]

end Upsert

namespace World

/-- The world after a subscription is saved. -/
def storeSubscription (w : World) (s : Subscription) : World :=
  { w with subscriptions := upsert s.id s w.subscriptions, writes := w.writes ++ [("subscription", s.id)] }

/-- The world after a payment is saved. -/
def storePayment (w : World) (p : PaymentAttempt) : World :=
  { w with payments := upsert p.id p w.payments, writes := w.writes ++ [("payment", p.id)] }

/-- The reply to the next gateway call: the next scripted one, or an approval with the
reference of the call once the script is used up. -/
def nextReply (w : World) : GatewayReply :=
  match w.script with
  | r :: _ => r
  | [] => .answer ⟨true, some ("ch_" ++ toString (w.callCount + 1)), some "SUCCEEDED", none, none⟩

/-- The world after a gateway call: one more call recorded, one scripted reply used. -/
def afterCall (w : World) (c : GatewayCall) : World :=
  { w with callCount := w.callCount + 1, script := w.script.tail, calls := w.calls ++ [c] }

section Fields

variable (w : World) (s : Subscription) (p : PaymentAttempt) (c : GatewayCall)

@[simp] theorem storeSubscription_subscriptions :
    (w.storeSubscription s).subscriptions = upsert s.id s w.subscriptions := rfl
@[simp] theorem storeSubscription_payments : (w.storeSubscription s).payments = w.payments := rfl
@[simp] theorem storeSubscription_faults : (w.storeSubscription s).faults = w.faults := rfl
@[simp] theorem storeSubscription_calls : (w.storeSubscription s).calls = w.calls := rfl
@[simp] theorem storePayment_subscriptions : (w.storePayment p).subscriptions = w.subscriptions := rfl
@[simp] theorem storePayment_payments : (w.storePayment p).payments = upsert p.id p w.payments := rfl
@[simp] theorem storePayment_faults : (w.storePayment p).faults = w.faults := rfl
@[simp] theorem storePayment_calls : (w.storePayment p).calls = w.calls := rfl
@[simp] theorem afterCall_subscriptions : (w.afterCall c).subscriptions = w.subscriptions := rfl
@[simp] theorem afterCall_payments : (w.afterCall c).payments = w.payments := rfl
@[simp] theorem afterCall_faults : (w.afterCall c).faults = w.faults := rfl
@[simp] theorem afterCall_calls : (w.afterCall c).calls = w.calls ++ [c] := rfl

end Fields

section Calls

variable (w : World)

theorem loadSubscription_run (id : String) :
    (loadSubscription id).run w = match w.faults.subscriptionLoad, w.subscriptions.lookup id with
      | some m, _ => .error (.billing (.persistence ("Failed to load subscription: " ++ m) (some id))) w
      | none, some s => .ok s w
      | none, none =>
        .error (.billing (.subscriptionNotFound ("Subscription " ++ id ++ " not found") (some id))) w := by
  cases h : w.faults.subscriptionLoad <;> cases hs : w.subscriptions.lookup id <;>
    simp only [loadSubscription, EStateM.run_bind, EStateM.run_get, h, hs] <;> rfl

theorem loadPayment_run (id : String) :
    (loadPayment id).run w = match w.faults.paymentLoad with
      | some m => .error (.billing (.persistence ("Failed to load payment: " ++ m) (some id))) w
      | none => .ok (w.payments.lookup id) w := by
  cases h : w.faults.paymentLoad <;> simp only [loadPayment, EStateM.run_bind, EStateM.run_get, h] <;> rfl

theorem saveSubscription_run (s : Subscription) :
    (saveSubscription s).run w = match w.faults.subscriptionSave with
      | some m => .error (.billing (.persistence ("Failed to save subscription: " ++ m) (some s.id))) w
      | none => .ok () (w.storeSubscription s) := by
  cases h : w.faults.subscriptionSave <;> simp only [saveSubscription, EStateM.run_bind, EStateM.run_get, h] <;> rfl

theorem savePayment_run (p : PaymentAttempt) :
    (savePayment p).run w = match w.faults.paymentSave with
      | some m => .error (.billing (.persistence ("Failed to save payment: " ++ m) (some p.id))) w
      | none => .ok () (w.storePayment p) := by
  cases h : w.faults.paymentSave <;> simp only [savePayment, EStateM.run_bind, EStateM.run_get, h] <;> rfl

theorem submit_run (amount : Money) (method key : String) :
    (submit amount method key).run w = .ok w.nextReply (w.afterCall ⟨amount, method, key⟩) := by
  cases h : w.script <;>
    simp only [submit, nextReply, afterCall, EStateM.run_bind, EStateM.run_get, h] <;> rfl

theorem lift_run {α : Type} (o : Outcome α) :
    (lift o).run w = match o with
      | .ok a => .ok a w
      | .error err => .error err w := by
  cases o <;> rfl

end Calls

end World

/-- A step that may look at the world but leaves it as it was, whether it returns or
fails. -/
def Reads {α : Type} (x : Step α) : Prop := ∀ w, worldOf (x.run w) = w

namespace Reads

variable {α β : Type}

theorem ok_world {x : Step α} (hx : Reads x) {w w' : World} {a : α} (h : x.run w = .ok a w') :
    w' = w := by
  simpa [h] using hx w

theorem error_world {x : Step α} (hx : Reads x) {w w' : World} {err : Error}
    (h : x.run w = .error err w') : w' = w := by
  simpa [h] using hx w

theorem pure (a : α) : Reads (pure a : Step α) := fun _ => rfl

theorem throw (err : Error) : Reads (throw err : Step α) := fun _ => rfl

theorem lift (o : Outcome α) : Reads (World.lift o) := by
  intro w
  cases o <;> rfl

theorem bind {x : Step α} {f : α → Step β} (hx : Reads x) (hf : ∀ a, Reads (f a)) :
    Reads (x >>= f) := by
  intro w
  simp only [EStateM.run_bind]
  cases h : x.run w with
  | ok a w' => rw [hx.ok_world h]; exact hf a w
  | error err w' => simpa using hx.error_world h

/-- A bind whose first step only reads returns through that step's value, in the world it
started from. -/
theorem bind_ok {x : Step α} {f : α → Step β} (hx : Reads x) {w w' : World} {b : β}
    (h : (x >>= f).run w = .ok b w') : ∃ a, x.run w = .ok a w ∧ (f a).run w = .ok b w' := by
  simp only [EStateM.run_bind] at h
  split at h
  · rename_i a w1 hxa
    have hw := hx.ok_world hxa
    subst w1
    exact ⟨a, hxa, h⟩
  · cases h

theorem loadSubscription (id : String) : Reads (World.loadSubscription id) := by
  intro w
  rw [World.loadSubscription_run]
  split <;> rfl

theorem loadPayment (id : String) : Reads (World.loadPayment id) := by
  intro w
  rw [World.loadPayment_run]
  split <;> rfl

end Reads

end Billing
