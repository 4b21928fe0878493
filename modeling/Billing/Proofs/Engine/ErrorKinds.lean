import Billing.Proofs.Calendar.Ordinal
import Billing.Proofs.Engine.Repository

/-! # Which errors a computation fails with

`Outcome.Avoids bad o` says that `o`, if it fails, fails with none of the errors that `bad`
picks out, and `Step.Avoids` says the same of a step run from a world. Both are closed under
`bind`, so they are proved of a function by following its code one call after another, and
a weaker test of errors follows from a stronger one (`mono`).

The arithmetic of a billing run, its date and time shifts and its retry delays with their
jitter, fails only by overflowing, by leaving the calendar or on a value of the wrong kind:
never with an error of the domain or of a record's checks (`Error.isChecked`). -/
namespace Billing

/-- An error of the domain or of a record's checks, as opposed to one of arithmetic, of the
calendar or of a value of the wrong kind. -/
def Error.isChecked : Error → Bool
  | .billing _ | .invalid _ => true
  | _ => false

theorem Error.isChecked_of_isCalendar {err : Error} (h : err.isCalendar = true) :
    err.isChecked = false := by
  cases err <;> first | rfl | cases h

/-- An outcome that fails, if it fails, with none of the errors `bad` picks out. -/
def Outcome.Avoids {α : Type} (bad : Error → Bool) (o : Outcome α) : Prop :=
  ∀ err, o = .error err → bad err = false

namespace Outcome.Avoids

variable {α β : Type} {bad : Error → Bool}

theorem ok (a : α) : Outcome.Avoids bad (.ok a : Outcome α) := fun _ h => by cases h

theorem pure (a : α) : Outcome.Avoids bad (pure a : Outcome α) := ok a

theorem error {err : Error} (h : bad err = false) : Outcome.Avoids bad (.error err : Outcome α) :=
  fun _ he => by cases he; exact h

theorem throw {err : Error} (h : bad err = false) : Outcome.Avoids bad (throw err : Outcome α) :=
  error h

theorem bind {o : Outcome α} {f : α → Outcome β} (ho : Outcome.Avoids bad o)
    (hf : ∀ a, o = .ok a → Outcome.Avoids bad (f a)) : Outcome.Avoids bad (o >>= f) := by
  intro err h
  cases hx : o with
  | error e =>
    rw [hx] at h
    cases h
    exact ho _ hx
  | ok a =>
    rw [hx] at h
    exact hf a hx err h

/-- What fails only with errors outside a wider test fails only with errors outside a narrower
one. -/
theorem mono {bad' : Error → Bool} {o : Outcome α} (ho : Outcome.Avoids bad o)
    (hle : ∀ err, bad' err = true → bad err = true) : Outcome.Avoids bad' o := by
  intro err he
  cases hb : bad' err with
  | false => rfl
  | true => simpa [ho err he] using hle err hb

theorem of_calendar {o : Outcome α} (h : ∀ err, o = .error err → err.isCalendar = true) :
    Outcome.Avoids Error.isChecked o := fun err he => Error.isChecked_of_isCalendar (h err he)

/-- A record's checks fail only with the refusal of its fields. -/
theorem checked (hbad : ∀ issues, bad (.invalid issues) = false) (c : Checked α) :
    Outcome.Avoids bad c.run := by
  intro err he
  cases c with
  | ok a => cases he
  | error issues =>
    cases he
    exact hbad issues

end Outcome.Avoids

/-- A step that, from the world `w`, fails with none of the errors `bad` picks out. -/
def Step.Avoids {α : Type} (bad : Error → Bool) (x : Step α) (w : World) : Prop :=
  ∀ err w', x.run w = .error err w' → bad err = false

namespace Step.Avoids

variable {α β : Type} {bad : Error → Bool} {w : World}

theorem pure (a : α) : Step.Avoids bad (pure a) w := fun _ _ h => by cases h

theorem throw {err : Error} (h : bad err = false) : Step.Avoids bad (throw err : Step α) w :=
  fun _ _ he => by cases he; exact h

theorem lift {o : Outcome α} (h : Outcome.Avoids bad o) : Step.Avoids bad (World.lift o) w := by
  intro err w' he
  rw [World.lift_run] at he
  cases ho : o with
  | ok a => rw [ho] at he; cases he
  | error e => rw [ho] at he; cases he; exact h _ ho

theorem bind {x : Step α} {f : α → Step β} (hx : Step.Avoids bad x w)
    (hf : ∀ a w', x.run w = .ok a w' → Step.Avoids bad (f a) w') : Step.Avoids bad (x >>= f) w := by
  intro err w'' h
  simp only [EStateM.run_bind] at h
  cases hxr : x.run w with
  | ok a w' =>
    rw [hxr] at h
    exact hf a w' hxr err w'' h
  | error e w' =>
    rw [hxr] at h
    cases h
    exact hx _ _ hxr

/-- A save fails only when the store refuses it. -/
theorem saveSubscription (s : Subscription)
    (h : ∀ msg id, bad (.billing (.persistence msg id)) = false) :
    Step.Avoids bad (World.saveSubscription s) w := by
  intro err w' he
  rw [World.saveSubscription_run] at he
  split at he
  · cases he
    exact h _ _
  · cases he

theorem savePayment (p : PaymentAttempt)
    (h : ∀ msg id, bad (.billing (.persistence msg id)) = false) :
    Step.Avoids bad (World.savePayment p) w := by
  intro err w' he
  rw [World.savePayment_run] at he
  split at he
  · cases he
    exact h _ _
  · cases he

end Step.Avoids

section Arithmetic

open Outcome

variable (t : DateTime)

theorem DateTime.addMicros_unchecked (d : Int) : Avoids Error.isChecked (t.addMicros d) := by
  unfold DateTime.addMicros
  dsimp only
  split
  · exact Avoids.error rfl
  · exact Avoids.ok _

theorem DateTime.checkDuration_unchecked (us : Int) :
    Avoids Error.isChecked (DateTime.checkDuration us) :=
  Avoids.bind (Avoids.of_calendar fun _ => Date.checkSpan_error) fun _ _ => Avoids.ok _

theorem Float.unitsToMicros_unchecked (x : Float) (per : Nat) :
    Avoids Error.isChecked (Float.unitsToMicros x per) := by
  unfold Float.unitsToMicros
  repeat' split
  all_goals first | exact Avoids.ok _ | exact Avoids.error rfl

/-- Every shift of a time is a span of microseconds checked as a duration, then added. -/
theorem DateTime.shift_unchecked (us : Int) :
    Avoids Error.isChecked (DateTime.checkDuration us >>= fun d => t.addMicros d) :=
  Avoids.bind (DateTime.checkDuration_unchecked _) fun _ _ => DateTime.addMicros_unchecked t _

theorem DateTime.addMinutes_unchecked (m : Int) : Avoids Error.isChecked (t.addMinutes m) :=
  DateTime.shift_unchecked t _

theorem DateTime.addFloatMinutes_unchecked (x : Float) :
    Avoids Error.isChecked (t.addFloatMinutes x) :=
  Avoids.bind (Float.unitsToMicros_unchecked _ _) fun _ _ => DateTime.shift_unchecked t _

theorem DateTime.addDayCount_unchecked (days : Value) : Avoids Error.isChecked (t.addDayCount days) := by
  unfold DateTime.addDayCount
  split
  · exact DateTime.shift_unchecked t _
  · exact DateTime.shift_unchecked t _
  · exact Avoids.bind (Float.unitsToMicros_unchecked _ _) fun _ _ => DateTime.shift_unchecked t _
  · exact Avoids.error rfl

theorem Numeral.toDouble_unchecked (n : Int) : Avoids Error.isChecked (Numeral.toDouble n) := by
  unfold Numeral.toDouble
  split
  · exact Avoids.ok _
  · exact Avoids.error rfl

/- The delays are followed through their code by one pattern: split a branch, use a call
already proved, or take a bind apart. The matching stays reducible, since unfolding the
range check of a double would evaluate a power of two with hundreds of digits. -/

theorem RetryPolicy.backoff_unchecked (base : Int) (m : Float) (n : Nat) :
    Avoids Error.isChecked (RetryPolicy.backoff base m n) := by
  unfold RetryPolicy.backoff
  dsimp only
  repeat' first
    | split
    | with_reducible exact Numeral.toDouble_unchecked _
    | with_reducible refine Avoids.bind ?_ fun _ _ => ?_
    | with_reducible exact Avoids.pure _
    | with_reducible exact Avoids.ok _
    | (with_reducible refine Avoids.error ?_); rfl

theorem RetryPolicy.delay_unchecked (p : RetryPolicy) (attempt : Int) :
    Avoids Error.isChecked (p.delay attempt) := by
  unfold RetryPolicy.delay RetryPolicy.delay.truncate
  dsimp only
  repeat' first
    | split
    | with_reducible exact RetryPolicy.backoff_unchecked _ _ _
    | with_reducible refine Avoids.bind ?_ fun _ _ => ?_
    | with_reducible exact Avoids.pure _
    | with_reducible exact Avoids.ok _
    | (with_reducible refine Avoids.error ?_); rfl

theorem RetryPolicy.nextAt_unchecked (p : RetryPolicy) (attempt : Int) (now : DateTime) :
    Avoids Error.isChecked (p.nextAt attempt now) := by
  unfold RetryPolicy.nextAt
  split
  · exact Avoids.pure _
  · exact Avoids.bind (RetryPolicy.delay_unchecked _ _) fun _ _ =>
      Avoids.bind (DateTime.addMinutes_unchecked _ _) fun _ _ => Avoids.pure _

theorem RetryJitter.wholeDouble_unchecked (n : Int) :
    Avoids Error.isChecked (RetryJitter.wholeDouble n) := by
  unfold RetryJitter.wholeDouble
  split
  · exact Avoids.ok _
  · exact Avoids.error rfl

theorem RetryJitter.apply_unchecked (j : RetryJitter) (delay attempt : Value) :
    Avoids Error.isChecked (j.apply delay attempt) := by
  unfold RetryJitter.apply RetryJitter.spreadOf RetryJitter.offset
  dsimp only
  repeat' first
    | split
    | with_reducible exact RetryJitter.wholeDouble_unchecked _
    | with_reducible refine Avoids.bind ?_ fun _ _ => ?_
    | with_reducible exact Avoids.pure _
    | with_reducible exact Avoids.ok _
    | (with_reducible refine Avoids.throw ?_); rfl

end Arithmetic

end Billing
