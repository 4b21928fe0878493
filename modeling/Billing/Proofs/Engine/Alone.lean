import Billing.Proofs.Engine.Repository
import Billing.Engine.Session

/-! # A run with nothing else in progress

A session bills one subscription by taking its lock, running up to the gateway, waiting
through three callbacks (the call, the release of its waiter, its resumption) and running
the rest. When no callback is waiting and the lock is free, nothing can come in between,
and the command is exactly `Engine.run` on the session's world: `runOne_alone`. The session
it leaves is again idle, so commands given one after another are runs one after another. -/
namespace Billing

namespace Session

variable (ss : Session)

theorem tryLock_free (id : String) (w : Waiter) (h : ss.lockOf id = Lock.free) :
    ss.tryLock id w = (ss.setLock id ⟨true, []⟩, true) := by
  simp [tryLock, h, Lock.free]

theorem advance_finished (w : Waiter) (r : RunTask) (w1 : World) (res : RunResult)
    (h : (ss.engine.begin r.id r.now).run ss.world = .ok (.finished res) w1) :
    ss.advance w r = ({ ss with world := w1 }, some (.ok res)) := by
  simp [advance, onWorld, h]

theorem advance_error (w : Waiter) (r : RunTask) (w1 : World) (err : Error)
    (h : (ss.engine.begin r.id r.now).run ss.world = .error err w1) :
    ss.advance w r = ({ ss with world := w1 }, some (.error err)) := by
  simp [advance, onWorld, h]

theorem advance_unavailable (w : Waiter) (r : RunTask) (w1 : World) (s : Subscription)
    (p : PaymentAttempt) (err : Error)
    (h : (ss.engine.begin r.id r.now).run ss.world = .ok (.submitting s p) w1)
    (ht : ss.engine.timeoutPassed = .error err) :
    ss.advance w r = ({ ss with world := w1 }, some (.error (Engine.unavailable s err.message))) := by
  simp only [advance, onWorld, h]
  simp [ht]

theorem advance_gateway (w : Waiter) (r : RunTask) (w1 : World) (s : Subscription)
    (p : PaymentAttempt) (passed : Bool)
    (h : (ss.engine.begin r.id r.now).run ss.world = .ok (.submitting s p) w1)
    (ht : ss.engine.timeoutPassed = .ok passed) :
    ss.advance w r =
      ((({ ss with world := w1 }).setRun w { r with phase := .gateway s p passed none }).schedule (.call w),
        none) := by
  simp only [advance, onWorld, h]
  simp [ht]

/-- The three callbacks of a gateway call, run in turn by the loop: the call is made (or,
cancelled, answers as a timeout), the caller is released, and it finishes its run and gives
the lock back. -/
theorem drain_gateway (r : RunTask) (s : Subscription) (p : PaymentAttempt) (passed : Bool)
    (fuel : Nat) (hfuel : 3 ≤ fuel) (hready : ss.ready = [.call .command])
    (hcmd : ss.command = .run { r with phase := .gateway s p passed none })
    (hlock : ss.lockOf r.id = ⟨true, []⟩) :
    ss.drain fuel =
      let reply : Step GatewayReply := if passed then pure .timeout
        else World.submit p.amount (s.paymentMethod.getD "") p.idempotencyKey
      let done (w : World) : Session :=
        { ss with world := w, ready := [], locks := upsert r.id Lock.free ss.locks, command := .nothing }
      match (do ss.engine.finish s p (← reply) r.now).run ss.world with
      | .ok res w => (done w, .ok (.run res))
      | .error err w => (done w, .error err) := by
  simp only [lockOf, Lock.free] at hlock
  obtain ⟨fuel, rfl⟩ : ∃ k, fuel = k + 3 := ⟨fuel - 3, by omega⟩
  cases passed with
  | true =>
    simp only [drain, hready, handle, runOf, hcmd, setRun, schedule, conclude]
    simp only [onWorld, ite_true, EStateM.run_bind, EStateM.run_pure]
    cases hf : (ss.engine.finish s p GatewayReply.timeout r.now).run ss.world with
    | ok res w => simp [hf, unlock, lockOf, hlock, setLock, Lock.free, Except.map]
    | error err w => simp [hf, unlock, lockOf, hlock, setLock, Lock.free, Except.map]
  | false =>
    obtain ⟨reply, w2, hs⟩ : ∃ reply w2,
        (World.submit p.amount (s.paymentMethod.getD "") p.idempotencyKey).run ss.world = .ok reply w2 :=
      ⟨_, _, World.submit_run _ _ _ _⟩
    simp only [drain, hready, handle, runOf, hcmd, setRun, schedule, conclude]
    simp only [onWorld, EStateM.run_bind, Bool.false_eq_true, ite_false, hs]
    cases hf : (ss.engine.finish s p reply r.now).run w2 with
    | ok res w => simp [hf, unlock, lockOf, hlock, setLock, Lock.free, Except.map]
    | error err w => simp [hf, unlock, lockOf, hlock, setLock, Lock.free, Except.map]

/-- With no callback waiting and the subscription's lock free, billing it as the command is
one `Engine.run` on the session's world; the session is left idle, with the lock free. -/
theorem runOne_alone (id : String) (now : DateTime) (hready : ss.ready = [])
    (hlock : ss.lockOf id = Lock.free) :
    ss.runOne id now =
      let done (w : World) : Session :=
        { ss with world := w, locks := upsert id Lock.free ss.locks, command := .nothing }
      match (ss.engine.run id now).run ss.world with
      | .ok r w => (done w, .ok r)
      | .error err w => (done w, .error err) := by
  have hfree : ({ ss with command := .run ⟨id, now, .lock⟩ } : Session).lockOf id = Lock.free := hlock
  let taken := ({ ss with command := .run ⟨id, now, .lock⟩ } : Session).setLock id ⟨true, []⟩
  unfold runOne lockAndAdvance
  dsimp only
  rw [tryLock_free _ id .command hfree]
  dsimp only
  cases hb : (ss.engine.begin id now).run ss.world with
  | ok stage w1 =>
    cases stage with
    | finished res =>
      rw [advance_finished taken .command ⟨id, now, .lock⟩ w1 res hb]
      simp [taken, conclude, unlock, lockOf, setLock, Engine.run, hb, Lock.free, Except.map]
    | submitting s p =>
      cases ht : ss.engine.timeoutPassed with
      | error err =>
        rw [advance_unavailable taken .command ⟨id, now, .lock⟩ w1 s p err hb ht]
        simp [taken, conclude, unlock, lockOf, setLock, Engine.run, hb, ht, Lock.free, Except.map]
      | ok passed =>
        rw [advance_gateway taken .command ⟨id, now, .lock⟩ w1 s p passed hb ht]
        dsimp only [conclude]
        rw [drain_gateway _ ⟨id, now, .lock⟩ s p passed]
        · -- the gateway's reply is the same in both; only what `finish` makes of it is open
          cases passed with
          | true =>
            cases hf : (ss.engine.finish s p .timeout now).run w1 <;>
              simp [taken, schedule, setRun, setLock, Engine.run, hb, ht, hf, hready]
          | false =>
            cases hf : (ss.engine.finish s p w1.nextReply now).run
                (w1.afterCall ⟨p.amount, s.paymentMethod.getD "", p.idempotencyKey⟩) <;>
              simp [taken, schedule, setRun, setLock, Engine.run, hb, ht, hf, hready, World.submit_run]
        · simp only [patience]
          omega
        · simp [taken, schedule, setRun, setLock, hready]
        · rfl
        · simp [taken, schedule, setRun, setLock, lockOf]
  | error err w1 =>
    rw [advance_error taken .command ⟨id, now, .lock⟩ w1 err hb]
    simp [taken, conclude, unlock, lockOf, setLock, Engine.run, hb, Lock.free, Except.map]

end Session

end Billing
