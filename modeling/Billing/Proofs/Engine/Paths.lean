import Billing.Proofs.Engine.Repository

/-! # The paths of a billing run

Everything a run does between its collaborator calls only reads the world: status changes,
the search for a settled payment, the renewal, the method check, the pricing and the
preparation of the payment. So a run can only end in a few ways, and `Begun` and
`Finished` list them for the part before the gateway and the part after it, each with
the facts its branch checked. `begin_paths` and `finish_paths` prove that every run ends
in one of them; the invariants of the later modules are case analyses over these two
lists, never over the code again. -/
namespace Billing

open Engine

section Helpers

variable {α : Type}

theorem Reads.move (s : Subscription) (t : SubscriptionStatus) (ctx : TransitionContext) :
    Reads (Engine.move s t ctx) :=
  Reads.bind (Reads.lift _) fun _ => Reads.pure _

theorem Reads.movePayment (p : PaymentAttempt) (t : PaymentStatus) (ctx : TransitionContext)
    (details : Option FailureDetails) (changes : PaymentChanges) :
    Reads (Engine.movePayment p t ctx details changes) :=
  Reads.bind (Reads.lift _) fun _ => Reads.pure _

theorem Reads.findSettled (s : Subscription) (ids : List String) :
    Reads (Engine.findSettled s ids) := by
  induction ids with
  | nil => exact Reads.pure _
  | cons id rest ih =>
    unfold Engine.findSettled
    refine Reads.bind (Reads.loadPayment id) fun found => ?_
    cases found with
    | none => exact ih
    | some p =>
      dsimp only
      split
      · exact Reads.pure _
      · exact ih

theorem Reads.settledPayment (s : Subscription) : Reads (Engine.settledPayment s) :=
  Reads.findSettled s _

theorem Reads.renewed (s : Subscription) (p : PaymentAttempt) (now : DateTime) :
    Reads (Engine.renewed s p now) := by
  unfold Engine.renewed
  dsimp only
  split
  · exact Reads.bind (Reads.move _ _ _) fun _ => Reads.bind (Reads.lift _) fun _ => Reads.pure _
  · exact Reads.bind (Reads.pure _) fun _ => Reads.bind (Reads.lift _) fun _ => Reads.pure _

theorem Reads.methodAvailable (e : Engine) (s : Subscription) : Reads (e.methodAvailable s) := by
  unfold Engine.methodAvailable
  split
  · exact Reads.pure _
  · split
    · exact Reads.pure _
    · split
      · exact Reads.pure _
      · exact Reads.pure _
      · exact Reads.throw _

theorem Reads.resolveAmount (e : Engine) (s : Subscription) : Reads (e.resolveAmount s) := by
  unfold Engine.resolveAmount
  dsimp only
  -- every branch is a check, a built amount or a failure: none touches the world
  repeat' first
    | exact Reads.pure _
    | exact Reads.throw _
    | exact Reads.lift _
    | refine Reads.bind ?_ fun _ => ?_
    | split

theorem Reads.resumablePayment (s : Subscription) : Reads (Engine.resumablePayment s) := by
  unfold Engine.resumablePayment
  repeat' first
    | exact Reads.pure _
    | exact Reads.throw _
    | exact Reads.loadPayment _
    | refine Reads.bind ?_ fun _ => ?_
    | split

theorem Reads.preparePayment (s : Subscription) (amount : Money) (now : DateTime) :
    Reads (Engine.preparePayment s amount now) := by
  unfold Engine.preparePayment
  refine Reads.bind (Reads.resumablePayment s) fun prev => ?_
  cases prev with
  | some prev =>
    exact Reads.bind (Reads.movePayment _ _ _ _ _) fun _ =>
      Reads.bind (Reads.lift _) fun _ => Reads.movePayment _ _ _ _ _
  | none => exact Reads.bind (Reads.lift _) fun _ => Reads.movePayment _ _ _ _ _

theorem Reads.scheduleRetry (s : Subscription) (d : RetryDecision) (now : DateTime) :
    Reads (Engine.scheduleRetry s d now) :=
  Reads.bind (Reads.move _ _ _) fun _ => Reads.bind (Reads.lift _) fun _ => Reads.pure _

theorem Reads.enterDelinquency (e : Engine) (s : Subscription) (d : RetryDecision) (now : DateTime) :
    Reads (e.enterDelinquency s d now) := by
  unfold Engine.enterDelinquency
  dsimp only
  repeat' first
    | exact Reads.pure _
    | exact Reads.lift _
    | exact Reads.move _ _ _
    | refine Reads.bind ?_ fun _ => ?_
    | split

end Helpers

namespace Engine

/-- How the part of a run before the gateway can end, from the world `w`, with what each
branch checked on the way. Only a renewal from a settled payment and an expiry write
anything: the subscription, once. -/
inductive Begun (e : Engine) (id : String) (now : DateTime) (w : World) :
    EStateM.Result Error World RunStage → Prop
  /-- It fails, with nothing written. -/
  | failed (err : Error) : Begun e id now w (.error err w)
  /-- The subscription is not billed now. -/
  | skipped (s : Subscription) (reason : SkipReason) (hload : w.faults.subscriptionLoad = none)
      (hs : w.subscriptions.lookup id = some s) (hskip : skipReason s now = .ok (some reason)) :
      Begun e id now w (.ok (.finished ⟨id, .skipped, s, none, none, none, some reason.name⟩) w)
  /-- A payment that settled earlier renews the subscription, which is saved. -/
  | settled (s u : Subscription) (p : PaymentAttempt) (hload : w.faults.subscriptionLoad = none)
      (hs : w.subscriptions.lookup id = some s) (hskip : skipReason s now = .ok none)
      (hp : (settledPayment s).run w = .ok (some p) w) (hu : (renewed s p now).run w = .ok u w)
      (hsave : w.faults.subscriptionSave = none) :
      Begun e id now w
        (.ok (.finished ⟨id, .succeeded, u, some p, none, none, none⟩) (w.storeSubscription u))
  /-- Its grace used up, the subscription expires, and is saved. -/
  | expired (s u : Subscription) (hload : w.faults.subscriptionLoad = none)
      (hs : w.subscriptions.lookup id = some s) (hskip : skipReason s now = .ok none)
      (hp : (settledPayment s).run w = .ok none w) (hgrace : s.isGraceElapsed now = .ok true)
      (hx : s.retry.graceExhausted = true)
      (hu : (move s .expired (because "grace_exhausted" now)).run w = .ok u w)
      (hsave : w.faults.subscriptionSave = none) :
      Begun e id now w
        (.ok (.finished ⟨id, .expired, u, none, none, none, some "grace_exhausted"⟩) (w.storeSubscription u))
  /-- Without a usable payment method, the run is rejected. -/
  | rejected (s : Subscription) (elapsed : Bool) (hload : w.faults.subscriptionLoad = none)
      (hs : w.subscriptions.lookup id = some s) (hskip : skipReason s now = .ok none)
      (hp : (settledPayment s).run w = .ok none w) (hgrace : s.isGraceElapsed now = .ok elapsed)
      (hx : (elapsed && s.retry.graceExhausted) = false) (hm : (e.methodAvailable s).run w = .ok false w) :
      Begun e id now w
        (.ok (.finished ⟨id, .rejected, s, none, none, none, some SkipReason.noPaymentMethod.name⟩) w)
  /-- The run holds the payment to submit, priced and prepared. -/
  | submitting (s : Subscription) (p : PaymentAttempt) (amount : Money) (elapsed : Bool)
      (hload : w.faults.subscriptionLoad = none)
      (hs : w.subscriptions.lookup id = some s) (hskip : skipReason s now = .ok none)
      (hp : (settledPayment s).run w = .ok none w) (hgrace : s.isGraceElapsed now = .ok elapsed)
      (hx : (elapsed && s.retry.graceExhausted) = false) (hm : (e.methodAvailable s).run w = .ok true w)
      (ha : (e.resolveAmount s).run w = .ok amount w)
      (hprep : (preparePayment s amount now).run w = .ok p w) :
      Begun e id now w (.ok (.submitting s p) w)

variable (e : Engine) (id : String) (now : DateTime) (w : World)

theorem begin_paths : Begun e id now w ((e.begin id now).run w) := by
  unfold Engine.begin
  simp only [EStateM.run_bind, World.loadSubscription_run]
  cases hload : w.faults.subscriptionLoad with
  | some m => exact .failed _
  | none =>
  cases hs : w.subscriptions.lookup id with
  | none => exact .failed _
  | some s =>
  dsimp only
  rw [World.lift_run]
  cases hskip : skipReason s now with
  | error err => exact .failed _
  | ok reason =>
  cases reason with
  | some r => exact .skipped s r hload hs hskip
  | none =>
  dsimp only
  simp only [EStateM.run_bind]
  cases hp : (settledPayment s).run w with
  | error err w' =>
    have hw := (Reads.settledPayment s).error_world hp
    subst w'
    exact .failed _
  | ok found w' =>
  have hw := (Reads.settledPayment s).ok_world hp
  subst w'
  cases found with
  | some p =>
    dsimp only
    simp only [EStateM.run_bind]
    cases hu : (renewed s p now).run w with
    | error err w' =>
      have hw := (Reads.renewed s p now).error_world hu
      subst w'
      exact .failed _
    | ok u w' =>
      have hw := (Reads.renewed s p now).ok_world hu
      subst w'
      dsimp only
      rw [World.saveSubscription_run]
      cases hsave : w.faults.subscriptionSave with
      | some m => exact .failed _
      | none => exact .settled s u p hload hs hskip hp hu hsave
  | none =>
  dsimp only
  simp only [EStateM.run_bind, World.lift_run]
  cases hgrace : s.isGraceElapsed now with
  | error err => exact .failed _
  | ok elapsed =>
  dsimp only
  split
  · -- the grace window is over and no extension is left: the subscription expires
    rename_i hx
    simp only [EStateM.run_bind]
    cases hu : (move s .expired (because "grace_exhausted" now)).run w with
    | error err w' =>
      have hw := (Reads.move s .expired _).error_world hu
      subst w'
      exact .failed _
    | ok u w' =>
      have hw := (Reads.move s .expired _).ok_world hu
      subst w'
      dsimp only
      rw [World.saveSubscription_run]
      have hg : elapsed = true ∧ s.retry.graceExhausted = true := by simpa using hx
      obtain ⟨rfl, hx⟩ := hg
      cases hsave : w.faults.subscriptionSave with
      | some m => exact .failed _
      | none => exact .expired s u hload hs hskip hp hgrace hx hu hsave
  · rename_i hx
    simp only [EStateM.run_bind]
    cases hm : (e.methodAvailable s).run w with
    | error err w' =>
      have hw := (Reads.methodAvailable e s).error_world hm
      subst w'
      exact .failed _
    | ok available w' =>
    have hw := (Reads.methodAvailable e s).ok_world hm
    subst w'
    have hx : (elapsed && s.retry.graceExhausted) = false := by simpa using hx
    cases available with
    | false => exact .rejected s elapsed hload hs hskip hp hgrace hx hm
    | true =>
    simp only [Bool.not_true, Bool.false_eq_true, if_false, EStateM.run_bind]
    cases ha : (e.resolveAmount s).run w with
    | error err w' =>
      have hw := (Reads.resolveAmount e s).error_world ha
      subst w'
      exact .failed _
    | ok amount w' =>
    have hw := (Reads.resolveAmount e s).ok_world ha
    subst w'
    dsimp only
    cases hprep : (preparePayment s amount now).run w with
    | error err w' =>
      have hw := (Reads.preparePayment s amount now).error_world hprep
      subst w'
      exact .failed _
    | ok p w' =>
      have hw := (Reads.preparePayment s amount now).ok_world hprep
      subst w'
      exact .submitting s p amount elapsed hload hs hskip hp hgrace hx hm ha hprep

/-- What the part of a run after the gateway settles on before it writes anything: the
subscription and the payment it will save, and its answer. -/
inductive Decided (e : Engine) (s : Subscription) (p : PaymentAttempt) (reply : GatewayReply)
    (now : DateTime) (w : World) : Subscription → PaymentAttempt → RunResult → Prop
  /-- The charge went through: the payment succeeded and renews the subscription. -/
  | paid (r : GatewayResult) (q : PaymentAttempt) (u : Subscription)
      (hr : e.gatewayResult s reply = .ok r) (hok : r.success = true)
      (hq : (movePayment p .succeeded (because "payment_succeeded" now) none
        ⟨none, some (Subscription.textValue r.providerRef), none⟩).run w = .ok q w)
      (hu : (renewed s q now).run w = .ok u w) :
      Decided e s p reply now w u q ⟨s.id, .succeeded, u, some q, none, none, none⟩
  /-- The charge was declined, and the policy schedules a retry. -/
  | retried (r : GatewayResult) (f : PaymentAttempt) (d : RetryDecision) (u : Subscription)
      (hr : e.gatewayResult s reply = .ok r) (hok : r.success = false)
      (hf : (movePayment p .failed (because "payment_failed" now) (some (declineDetails r now))
        ⟨none, some (Subscription.textValue r.providerRef), none⟩).run w = .ok f w)
      (hd : evaluateRetry (declineDetails r now).category s.retry.attempt now e.jitter = .ok d)
      (hretry : d.shouldRetry = true) (hu : (scheduleRetry s d now).run w = .ok u w) :
      Decided e s p reply now w { u with lastPayment := some f.id } f
        ⟨s.id, .retryScheduled, { u with lastPayment := some f.id }, some f,
          some (declineDetails r now).category, some d, some d.reason.name⟩
  /-- The charge was declined with no retry left: the subscription becomes delinquent. -/
  | delinquent (r : GatewayResult) (f : PaymentAttempt) (d : RetryDecision) (u : Subscription)
      (hr : e.gatewayResult s reply = .ok r) (hok : r.success = false)
      (hf : (movePayment p .failed (because "payment_failed" now) (some (declineDetails r now))
        ⟨none, some (Subscription.textValue r.providerRef), none⟩).run w = .ok f w)
      (hd : evaluateRetry (declineDetails r now).category s.retry.attempt now e.jitter = .ok d)
      (hretry : d.shouldRetry = false) (hu : (e.enterDelinquency s d now).run w = .ok u w) :
      Decided e s p reply now w { u with lastPayment := some f.id } f
        ⟨s.id, if u.status = .expired then .expired else .pastDue, { u with lastPayment := some f.id },
          some f, some (declineDetails r now).category, some d, some d.reason.name⟩

/-- How the part of a run after the gateway can end, from the world `w` the call left: it
fails with nothing written (a failed payment save included), or it writes the payment and
then fails to save the subscription, or it writes both. -/
inductive Finished (e : Engine) (s : Subscription) (p : PaymentAttempt) (reply : GatewayReply)
    (now : DateTime) (w : World) : EStateM.Result Error World RunResult → Prop
  /-- It fails, with nothing written. -/
  | failed (err : Error) : Finished e s p reply now w (.error err w)
  /-- The payment is saved, and the subscription's save fails. -/
  | halfSaved (u : Subscription) (q : PaymentAttempt) (r : RunResult) (m : String)
      (hd : Decided e s p reply now w u q r) (hpay : w.faults.paymentSave = none)
      (hsub : w.faults.subscriptionSave = some m) :
      Finished e s p reply now w
        (.error (.billing (.persistence ("Failed to save subscription: " ++ m) (some u.id))) (w.storePayment q))
  /-- The payment and then the subscription are saved. -/
  | saved (u : Subscription) (q : PaymentAttempt) (r : RunResult)
      (hd : Decided e s p reply now w u q r) (hpay : w.faults.paymentSave = none)
      (hsub : w.faults.subscriptionSave = none) :
      Finished e s p reply now w (.ok r ((w.storePayment q).storeSubscription u))

/-- Writing what was decided: the payment first, then the subscription. -/
theorem persist_finished (s : Subscription) (p : PaymentAttempt) (reply : GatewayReply)
    (u : Subscription) (q : PaymentAttempt) (r : RunResult) (hd : Decided e s p reply now w u q r) :
    Finished e s p reply now w ((persist u q >>= fun _ => pure r).run w) := by
  simp only [persist, EStateM.run_bind, World.savePayment_run]
  cases hpay : w.faults.paymentSave with
  | some m => exact .failed _
  | none =>
    dsimp only
    rw [World.saveSubscription_run, World.storePayment_faults]
    cases hsub : w.faults.subscriptionSave with
    | some m => exact .halfSaved u q r m hd hpay hsub
    | none => exact .saved u q r hd hpay hsub

/-- After the gateway, a run records no further call. -/
theorem Finished.calls {s : Subscription} {p : PaymentAttempt} {reply : GatewayReply}
    {res : EStateM.Result Error World RunResult} (h : Finished e s p reply now w res) :
    (worldOf res).calls = w.calls := by
  cases h <;> rfl

theorem finish_paths (s : Subscription) (p : PaymentAttempt) (reply : GatewayReply) :
    Finished e s p reply now w ((e.finish s p reply now).run w) := by
  unfold Engine.finish
  simp only [EStateM.run_bind, World.lift_run]
  cases hr : e.gatewayResult s reply with
  | error err => exact .failed _
  | ok r =>
  dsimp only
  cases hok : r.success with
  | true =>
    simp only [↓reduceIte, EStateM.run_bind, EStateM.run_pure]
    split
    · rename_i q w' hq
      have hw := (Reads.movePayment _ _ _ _ _).ok_world hq
      subst w'
      split
      · rename_i u w' hu
        have hw := (Reads.renewed s q now).ok_world hu
        subst w'
        have hfin := persist_finished e now w s p reply u q _ (.paid r q u hr hok hq hu)
        simp only [EStateM.run_bind, EStateM.run_pure] at hfin
        exact hfin
      · rename_i err w' hu
        have hw := (Reads.renewed s q now).error_world hu
        subst w'
        exact .failed _
    · rename_i err w' hq
      have hw := (Reads.movePayment _ _ _ _ _).error_world hq
      subst w'
      exact .failed _
  | false =>
    simp only [Bool.false_eq_true, ↓reduceIte, handleFailure, EStateM.run_bind, World.lift_run]
    split
    · rename_i f w' hf
      have hw := (Reads.movePayment _ _ _ _ _).ok_world hf
      subst w'
      cases hd : evaluateRetry (declineDetails r now).category s.retry.attempt now e.jitter with
      | error err => exact .failed _
      | ok d =>
      dsimp only
      cases hretry : d.shouldRetry with
      | true =>
        simp only [↓reduceIte, EStateM.run_bind, EStateM.run_pure]
        split
        · rename_i u w' hu
          have hw := (Reads.scheduleRetry s d now).ok_world hu
          subst w'
          have hfin := persist_finished e now w s p reply _ f _ (.retried r f d u hr hok hf hd hretry hu)
          simp only [EStateM.run_bind, EStateM.run_pure] at hfin
          exact hfin
        · rename_i err w' hu
          have hw := (Reads.scheduleRetry s d now).error_world hu
          subst w'
          exact .failed _
      | false =>
        simp only [Bool.false_eq_true, ↓reduceIte, EStateM.run_bind, EStateM.run_pure]
        split
        · rename_i u w' hu
          have hw := (Reads.enterDelinquency e s d now).ok_world hu
          subst w'
          have hfin := persist_finished e now w s p reply _ f _
            (.delinquent r f d u hr hok hf hd hretry hu)
          simp only [EStateM.run_bind, EStateM.run_pure] at hfin
          exact hfin
        · rename_i err w' hu
          have hw := (Reads.enterDelinquency e s d now).error_world hu
          subst w'
          exact .failed _
    · rename_i err w' hf
      have hw := (Reads.movePayment _ _ _ _ _).error_world hf
      subst w'
      exact .failed _

/-- A run that reaches the gateway has written nothing before it. -/
theorem Begun.submitting_world {s : Subscription} {p : PaymentAttempt} {w' : World}
    (h : Begun e id now w (.ok (.submitting s p) w')) : w' = w := by
  cases h
  rfl

/-- Before the gateway, a run records no call. -/
theorem Begun.calls {x : RunStage} {w' : World} (h : Begun e id now w (.ok x w')) :
    w'.calls = w.calls := by
  cases h <;> rfl

/-- How a whole run can end from the world `w`: before the gateway, as `begin` left it; or
after it, as `finish` left the world the call reached. The call is cancelled, and answers as
a timeout, when the timeout has already passed; a timeout that cannot be used fails the run
with nothing written. -/
inductive Ran (e : Engine) (id : String) (now : DateTime) (w : World) :
    EStateM.Result Error World RunResult → Prop
  /-- It fails with nothing written. -/
  | failed (err : Error) : Ran e id now w (.error err w)
  /-- It ends before the gateway. -/
  | stopped (r : RunResult) (w' : World) (hb : Begun e id now w (.ok (.finished r) w')) :
      Ran e id now w (.ok r w')
  /-- The call is cancelled, and the run finishes on its timeout. -/
  | cancelled (s : Subscription) (p : PaymentAttempt) (res : EStateM.Result Error World RunResult)
      (hb : Begun e id now w (.ok (.submitting s p) w)) (ht : e.timeoutPassed = .ok true)
      (hf : Finished e s p .timeout now w res) : Ran e id now w res
  /-- The gateway is called once, and the run finishes on its reply. -/
  | called (s : Subscription) (p : PaymentAttempt) (res : EStateM.Result Error World RunResult)
      (hb : Begun e id now w (.ok (.submitting s p) w)) (ht : e.timeoutPassed = .ok false)
      (hf : Finished e s p w.nextReply now
        (w.afterCall ⟨p.amount, s.paymentMethod.getD "", p.idempotencyKey⟩) res)
      (hres : (e.finish s p w.nextReply now).run
        (w.afterCall ⟨p.amount, s.paymentMethod.getD "", p.idempotencyKey⟩) = res) :
      Ran e id now w res

theorem run_paths : Ran e id now w ((e.run id now).run w) := by
  unfold Engine.run
  simp only [EStateM.run_bind]
  have hb := begin_paths e id now w
  split
  · rename_i stage w' hstage
    rw [hstage] at hb
    cases stage with
    | finished r => exact .stopped r w' hb
    | submitting s p =>
      have hw := Begun.submitting_world e id now w hb
      subst w'
      dsimp only
      cases ht : e.timeoutPassed with
      | error err => exact .failed _
      | ok passed =>
        cases passed with
        | true =>
          simp only [↓reduceIte, EStateM.run_bind, EStateM.run_pure]
          exact .cancelled s p _ hb ht (finish_paths e now w s p .timeout)
        | false =>
          simp only [Bool.false_eq_true, ↓reduceIte, EStateM.run_bind, World.submit_run]
          exact .called s p _ hb ht (finish_paths e now _ s p _) rfl
  · rename_i err w' hstage
    rw [hstage] at hb
    cases hb
    exact .failed err

end Engine

end Billing
