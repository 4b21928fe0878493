import Billing.Proofs.Engine.Settlement
import Billing.Proofs.Engine.Snapshots

/-! # What a submission count counts

A payment's submission count goes up by one each time a run takes the payment to the
gateway: a new payment enters processing with a count of one, a resumed one with one more
than it had. The count is therefore the number of times the payment's history entered
processing (`PaymentAttempt.Counted`), and every run keeps that true of every payment the
repository holds (`Engine.run_counted`).

It is not the number of calls the gateway received under the payment's id. A run makes at
most one call, keyed by the payment's id and its new count (`Engine.run_calls`); but when
the gateway timeout has already passed, the call is cancelled before the gateway sees it and
the run goes on as after a timeout, with the submission counted all the same
(`Engine.run_calls_of_timeoutPassed`). -/
namespace Billing

namespace PaymentAttempt

/-- How many times the payment's history entered processing. -/
def processingEntries (p : PaymentAttempt) : Nat :=
  p.history.countP fun c => c.target == .processing

/-- The submission count is the number of times the payment entered processing. -/
def Counted (p : PaymentAttempt) : Prop :=
  p.submissions = .int p.processingEntries

variable {p q : PaymentAttempt} {target : PaymentStatus} {ctx : TransitionContext}
  {details : Option FailureDetails} {changes : PaymentChanges} {r : TransitionResult}

/-- A status change keeps a payment counted when the count it sets is the number of entries
into processing it leaves: one more for a change into processing, as many otherwise. -/
theorem Counted.transition (hp : p.Counted)
    (hc : changes.submissions.getD p.submissions =
      .int (p.processingEntries + if target = .processing then 1 else 0))
    (h : p.transition target ctx details changes = .ok (q, r)) : q.Counted := by
  rcases transition_spec h with ⟨rfl, -⟩ | ⟨-, -, -, change, -, htarget, rfl⟩
  · exact hp
  · -- the history gains the one change, and it goes into `target`
    unfold Counted processingEntries
    rw [hc, List.countP_append]
    by_cases ht : target = .processing <;> simp [ht, htarget, processingEntries]

/-- A change into another status that sets no count keeps a payment counted. -/
theorem Counted.transition_keep (hp : p.Counted) (hs : changes.submissions = none)
    (ht : target ≠ .processing) (h : p.transition target ctx details changes = .ok (q, r)) :
    q.Counted :=
  hp.transition (by simpa [Counted, hs, ht] using hp) h

/-- Entering processing with one more submission keeps a payment counted. -/
theorem Counted.submit (hp : p.Counted)
    (hs : changes.submissions = some (.int (p.processingEntries + 1)))
    (h : p.transition .processing ctx details changes = .ok (q, r)) : q.Counted :=
  hp.transition (by simp [hs]) h

end PaymentAttempt

/-- Every payment the repository holds is counted. -/
def World.Counted (w : World) : Prop :=
  ∀ k p, w.payments.lookup k = some p → p.Counted

theorem World.Counted.of_payments {w w' : World} (hw : w.Counted) (h : w'.payments = w.payments) :
    w'.Counted := by
  intro k p hp
  rw [h] at hp
  exact hw k p hp

namespace Engine

variable {e : Engine} {id : String} {now : DateTime} {w w' : World}

/-- The payment a run submits is counted: a new payment enters processing with its first
submission, a stored one is resumed through retrying with one more. -/
theorem preparePayment_counted {s : Subscription} {amount : Money} {p : PaymentAttempt}
    (hw : w.Counted) (h : (preparePayment s amount now).run w = .ok p w') : p.Counted := by
  unfold preparePayment at h
  simp only [EStateM.run_bind] at h
  split at h
  · rename_i found w1 hfound
    have hw1 := (Reads.resumablePayment s).ok_world hfound
    subst w1
    cases found with
    | some prev =>
      obtain ⟨-, ⟨k, -, -, hl, -, -⟩, -⟩ := resumablePayment_some hfound
      simp only [EStateM.run_bind] at h
      split at h
      · rename_i retrying w2 hretrying
        obtain ⟨rfl, r, htr⟩ := movePayment_ok hretrying
        have hretry : retrying.Counted := (hw k prev hl).transition_keep rfl (by decide) htr
        split at h
        · rename_i count w3 hcount
          obtain ⟨rfl, hcount⟩ := lift_ok hcount
          -- the count is the entries so far, a whole number, and it goes up by one
          rw [hretry] at hcount
          cases hcount
          obtain ⟨-, r', hsubmit⟩ := movePayment_ok h
          exact hretry.submit rfl hsubmit
        · cases h
      · cases h
    | none =>
      dsimp only at h
      obtain ⟨-, r, hsubmit⟩ := movePayment_ok (opened_bind_ok h).2
      -- a new payment has no submission and no history yet
      exact PaymentAttempt.Counted.submit (by rfl) (by rfl) hsubmit
  · cases h

/-- A run that reaches the gateway submits a counted payment. -/
theorem Begun.submitted_counted {s : Subscription} {p : PaymentAttempt} (hw : w.Counted)
    (hb : Begun e id now w (.ok (.submitting s p) w')) : p.Counted := by
  cases hb with
  | submitting _ _ amount elapsed hload hs hskip hp hgrace hx hm ha hprep =>
    exact preparePayment_counted hw hprep

/-- The payment a run decides on keeps the count of the payment it submitted. -/
theorem Decided.payment_counted {s u : Subscription} {p q : PaymentAttempt} {reply : GatewayReply}
    {r : RunResult} (hp : p.Counted) (hd : Decided e s p reply now w u q r) : q.Counted := by
  obtain ⟨target, ctx, details, ref, r', htarget, htr, -⟩ := hd.payment_transition
  have hne : target ≠ .processing := by
    rcases htarget with rfl | rfl <;> decide
  exact hp.transition_keep rfl hne htr

theorem Finished.counted {s : Subscription} {p : PaymentAttempt} {reply : GatewayReply}
    {res : EStateM.Result Error World RunResult} (hw : w.Counted) (hp : p.Counted)
    (hf : Finished e s p reply now w res) : (worldOf res).Counted := by
  cases hf with
  | failed err => exact hw
  | halfSaved u q r m hd hpay hsub => exact World.storePayment_all hw (hd.payment_counted hp)
  | saved u q r hd hpay hsub =>
    have hstored : (w.storePayment q).Counted := World.storePayment_all hw (hd.payment_counted hp)
    exact hstored.of_payments (World.storeSubscription_payments ..)

/-- A billing run keeps every payment the repository holds counted, whether it returns or
fails. -/
theorem run_counted (e : Engine) (id : String) (now : DateTime) (hw : w.Counted) :
    (worldOf ((e.run id now).run w)).Counted := by
  have hpaths := run_paths e id now w
  generalize (e.run id now).run w = res at hpaths ⊢
  cases hpaths with
  | failed err => exact hw
  | stopped r w' hb => exact hw.of_payments hb.payment_stored.1
  | cancelled s p res hb ht hf => exact hf.counted hw (hb.submitted_counted hw)
  | called s p res hb ht hf hres =>
    exact hf.counted (hw.of_payments (World.afterCall_payments ..)) (hb.submitted_counted hw)

/-- A run calls the gateway at most once, and then with the key of the payment it submits:
its id and its count, which is the payment's number of entries into processing. -/
theorem run_calls (e : Engine) (id : String) (now : DateTime) (hw : w.Counted) :
    (worldOf ((e.run id now).run w)).calls = w.calls ∨
      ∃ (p : PaymentAttempt) (c : GatewayCall), p.Counted ∧ c.idempotencyKey = p.idempotencyKey ∧
        (worldOf ((e.run id now).run w)).calls = w.calls ++ [c] := by
  have hpaths := run_paths e id now w
  generalize (e.run id now).run w = res at hpaths ⊢
  cases hpaths with
  | failed err => exact .inl rfl
  | stopped r w' hb => exact .inl hb.calls
  | cancelled s p res hb ht hf => exact .inl hf.calls
  | called s p res hb ht hf hres =>
    exact .inr ⟨p, _, hb.submitted_counted hw, rfl, hf.calls⟩

/-- A run whose gateway timeout has already passed calls no one: the call is cancelled
before the gateway sees it. -/
theorem run_calls_of_timeoutPassed (h : e.timeoutPassed = .ok true) :
    (worldOf ((e.run id now).run w)).calls = w.calls := by
  have hpaths := run_paths e id now w
  generalize (e.run id now).run w = res at hpaths ⊢
  cases hpaths with
  | failed err => rfl
  | stopped r w' hb => exact hb.calls
  | cancelled s p res hb ht hf => exact hf.calls
  | called s p res hb ht hf hres =>
    rw [h] at ht
    cases ht

theorem Moves.counted (hm : Moves e id w w') (hw : w.Counted) : w'.Counted := by
  cases hm with
  | run now w => exact run_counted e id now hw
  | saveFault m w => exact hw.of_payments rfl

theorem Moves.reach_counted (h : Relation.ReflTransGen (Moves e id) w w') (hw : w.Counted) :
    w'.Counted := by
  induction h with
  | refl => exact hw
  | tail _ hm ih => exact hm.counted ih

end Engine

/-- A payment's submission count counts the runs that took it to the gateway, not the calls
the gateway received. Along any sequence of runs of a subscription and changes of the
store's failures, from a repository whose payments are counted (one that holds none, say),
every payment held has as its count the number of times its history entered processing;
the next run calls the gateway at most once, under the key of a payment so counted; and a
run whose gateway timeout has already passed calls no one, while the payment it submitted
has entered processing once more. -/
theorem submissions_count_entries_into_processing (e : Engine) (id : String) {w₀ w : World}
    (h₀ : w₀.Counted) (h : Relation.ReflTransGen (Engine.Moves e id) w₀ w) :
    w.Counted ∧
      ∀ now, ((worldOf ((e.run id now).run w)).calls = w.calls ∨
          ∃ (p : PaymentAttempt) (c : GatewayCall), p.Counted ∧
            c.idempotencyKey = p.idempotencyKey ∧
            (worldOf ((e.run id now).run w)).calls = w.calls ++ [c]) ∧
        (e.timeoutPassed = .ok true → (worldOf ((e.run id now).run w)).calls = w.calls) := by
  have hw : w.Counted := Engine.Moves.reach_counted h h₀
  exact ⟨hw, fun now => ⟨Engine.run_calls e id now hw, Engine.run_calls_of_timeoutPassed⟩⟩

/-- An engine whose gateway timeout has already passed, with no collaborators. -/
def expiredTimeoutEngine : Engine := ⟨.int 3, .int (-1), .int 1, none, none, none⟩

/-- A repository holding no payment. -/
def paymentFreeWorld : World := ⟨[], [], ⟨none, none, none, none⟩, [], 0, [], []⟩

theorem submissions_counted_without_calls :
    paymentFreeWorld.Counted ∧
      ∀ now, ((worldOf ((expiredTimeoutEngine.run "sub_1" now).run paymentFreeWorld)).calls = [] ∨
          ∃ (p : PaymentAttempt) (c : GatewayCall), p.Counted ∧
            c.idempotencyKey = p.idempotencyKey ∧
            (worldOf ((expiredTimeoutEngine.run "sub_1" now).run paymentFreeWorld)).calls = [] ++ [c]) ∧
        (expiredTimeoutEngine.timeoutPassed = .ok true →
          (worldOf ((expiredTimeoutEngine.run "sub_1" now).run paymentFreeWorld)).calls = []) := by
  have h₀ : paymentFreeWorld.Counted := fun k p h => nomatch h
  exact ⟨h₀, (submissions_count_entries_into_processing expiredTimeoutEngine "sub_1" h₀ .refl).2⟩

end Billing
