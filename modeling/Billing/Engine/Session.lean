import Billing.Engine.Run

/-! # Billing sessions

A session carries out commands one after another against one repository and one gateway,
inside a single cooperative event loop. Billing one subscription proceeds until it calls
the gateway and then waits; a batch starts one task per subscription and waits until all
of them have ended, or until one has ended with a fault that is not a domain error. While
a command waits, the loop runs its ready callbacks in the order they became ready. Tasks
left over by a batch that failed keep their place in the loop, and go on whenever a later
command waits.

Each subscription has a lock that one run holds at a time, handed to its waiters in turn.
A batch has a number of slots (its concurrency) that its tasks take in turn, and a slot
given back goes to the first task waiting for one. A gateway call takes three callbacks:
the call itself, the release of the caller's waiter, and the resumption of the caller.
When the gateway timeout has already passed, the call is cancelled before the gateway sees
it, and the caller goes on as after a timeout. -/
namespace Billing

/-- Who waits in the loop: the command in progress, or a batch task. -/
inductive Waiter where
  | command
  | task (t : Nat)
  deriving DecidableEq

/-- A callback ready to run. -/
inductive Ready where
  /-- A batch task takes its first step. -/
  | start (t : Nat)
  /-- The gateway call of a waiter's run is made (or cancelled). -/
  | call (w : Waiter)
  /-- The waiter of a gateway call is released. -/
  | release (w : Waiter)
  /-- A waiter goes on after what it waited for. -/
  | resume (w : Waiter)
  /-- A batch learns that one of its tasks ended. -/
  | gathered (b t : Nat)

/-- The lock of one subscription: whether a run holds it, and the waiters in turn, each
with whether it has already been woken. -/
structure Lock where
  held : Bool
  waiters : List (Waiter × Bool)

/-- Where a run stands. -/
inductive Phase where
  /-- Waiting for a slot of its batch. -/
  | slot
  /-- Waiting for its subscription's lock. -/
  | lock
  /-- Waiting for the gateway, with the payment submitted, whether the call is cancelled,
  and the reply once the call is made. -/
  | gateway (s : Subscription) (p : PaymentAttempt) (cancelled : Bool) (reply : Option GatewayReply)
  /-- Ended. -/
  | ended

/-- A run of one subscription at one time. -/
structure RunTask where
  id : String
  now : DateTime
  phase : Phase

/-- A task of a batch: its batch, its run, and the fault that ended it, if any. -/
structure BatchTask where
  batch : Nat
  run : RunTask
  fault : Option Error

/-- A batch: its free slots (`none` without a limit), the tasks waiting for a slot, each
with whether it has been woken, its tasks, how many have ended, whether its outcome is
settled, the fault that settled it, and what its runs produced. -/
structure Batch where
  slots : Option Nat
  slotWaiters : List (Nat × Bool)
  tasks : List Nat
  ended : Nat
  settled : Bool
  failure : Option Error
  results : List RunResult
  errors : List (String × BillingError)

/-- What the command in progress waits for. -/
inductive Awaiting where
  | nothing
  | run (r : RunTask)
  | batch (b : Nat)

/-- What a command that waits produces: a run's outcome, or a batch's runs and the domain
errors of the runs that failed. -/
inductive Finished where
  | run (r : RunResult)
  | batch (results : List RunResult) (errors : List (String × BillingError))

/-- The loop: the engine, the world, the ready callbacks, the batch tasks and batches so
far, the subscription locks, and what the command in progress waits for. -/
structure Session where
  engine : Engine
  world : World
  ready : List Ready
  tasks : List BatchTask
  batches : List Batch
  locks : List (String × Lock)
  command : Awaiting

/-- A fresh lock. -/
def Lock.free : Lock := ⟨false, []⟩

namespace Session

/-- A session over a world, with nothing in progress. -/
def start (e : Engine) (w : World) : Session := ⟨e, w, [], [], [], [], .nothing⟩

/-- Puts a callback at the end of the ready ones. -/
def schedule (h : Ready) (ss : Session) : Session := { ss with ready := ss.ready ++ [h] }

/-- The lock of a subscription. -/
def lockOf (ss : Session) (id : String) : Lock := (ss.locks.lookup id).getD Lock.free

/-- Replaces the lock of a subscription. -/
def setLock (ss : Session) (id : String) (l : Lock) : Session :=
  { ss with locks := upsert id l ss.locks }

/-- Takes a subscription's lock for a waiter if it is free and nobody waits for it;
otherwise the waiter joins the end of the line. Whether the lock was taken. -/
def tryLock (ss : Session) (id : String) (w : Waiter) : Session × Bool :=
  let l := ss.lockOf id
  if !l.held && l.waiters.isEmpty then (ss.setLock id ⟨true, []⟩, true)
  else (ss.setLock id ⟨l.held, l.waiters ++ [(w, false)]⟩, false)

/-- Gives back a subscription's lock; the first waiter, unless already woken, is woken. -/
def unlock (ss : Session) (id : String) : Session :=
  let l := ss.lockOf id
  match l.waiters with
  | (w, false) :: rest => (ss.setLock id ⟨false, (w, true) :: rest⟩).schedule (.resume w)
  | ws => ss.setLock id ⟨false, ws⟩

/-- A woken waiter takes the lock it waited for. -/
def takeLock (ss : Session) (id : String) (w : Waiter) : Session :=
  let l := ss.lockOf id
  ss.setLock id ⟨true, l.waiters.filter (·.1 != w)⟩

/-- The batch with an index. -/
def batchAt (ss : Session) (b : Nat) : Option Batch := ss.batches[b]?

/-- Replaces a batch. -/
def setBatch (ss : Session) (b : Nat) (x : Batch) : Session :=
  { ss with batches := ss.batches.set b x }

/-- Wakes the first task waiting for a slot of a batch that has not been woken, taking a
slot for it. Whether one was woken. -/
def wakeSlotWaiter (ss : Session) (b : Nat) : Session × Bool :=
  match ss.batchAt b with
  | none => (ss, false)
  | some x =>
    match x.slotWaiters.find? (!·.2) with
    | none => (ss, false)
    | some (t, _) =>
      let waiters := x.slotWaiters.map fun (u, woken) => if u = t then (u, true) else (u, woken)
      let ss := ss.setBatch b { x with slots := x.slots.map (· - 1), slotWaiters := waiters }
      (ss.schedule (.resume (.task t)), true)

/-- Takes a slot of a batch for a task if one is free and nobody waits for one; otherwise
the task joins the end of the line. Whether the slot was taken. -/
def trySlot (ss : Session) (b t : Nat) : Session × Bool :=
  match ss.batchAt b with
  | none => (ss, true)
  | some x =>
    if x.slots ≠ some 0 ∧ x.slotWaiters.isEmpty then
      (ss.setBatch b { x with slots := x.slots.map (· - 1) }, true)
    else (ss.setBatch b { x with slotWaiters := x.slotWaiters ++ [(t, false)] }, false)

/-- A woken task leaves the line for slots; if a slot is still free, the next waiter not yet
woken gets it. -/
def slotTaken (ss : Session) (b t : Nat) : Session :=
  match ss.batchAt b with
  | none => ss
  | some x =>
    let ss := ss.setBatch b { x with slotWaiters := x.slotWaiters.filter (·.1 != t) }
    match x.slots with
    | some (_ + 1) => (ss.wakeSlotWaiter b).1
    | _ => ss

/-- Gives back a slot of a batch; the first waiter not yet woken gets it. -/
def freeSlot (ss : Session) (b : Nat) : Session :=
  match ss.batchAt b with
  | none => ss
  | some x => (ss.setBatch b { x with slots := x.slots.map (· + 1) }).wakeSlotWaiter b |>.1

/-- The run of a waiter. -/
def runOf (ss : Session) (w : Waiter) : Option RunTask :=
  match w with
  | .command =>
    match ss.command with
    | .run r => some r
    | _ => none
  | .task t => (ss.tasks[t]?).map (·.run)

/-- Replaces the run of a waiter. -/
def setRun (ss : Session) (w : Waiter) (r : RunTask) : Session :=
  match w with
  | .command => { ss with command := .run r }
  | .task t =>
    match ss.tasks[t]? with
    | some x => { ss with tasks := ss.tasks.set t { x with run := r } }
    | none => ss

/-- Carries out a step on the session's world. -/
def onWorld {α : Type} (ss : Session) (s : Step α) : Session × Except Error α :=
  match s.run ss.world with
  | .ok a w => ({ ss with world := w }, .ok a)
  | .error err w => ({ ss with world := w }, .error err)

/-- A task's run ended: the lock is given back, the outcome kept by its batch (a fault that
is not a domain error ends the task itself), the slot given back, and the batch told. -/
def taskEnded (ss : Session) (t : Nat) (outcome : Except Error RunResult) : Session :=
  match ss.tasks[t]? with
  | none => ss
  | some x =>
    let ss := ss.unlock x.run.id
    let ss := { ss with tasks := ss.tasks.set t { x with run := { x.run with phase := .ended } } }
    let ss := match ss.batchAt x.batch, outcome with
      | some bx, .ok r => ss.setBatch x.batch { bx with results := bx.results ++ [r] }
      | some bx, .error (.billing e) => ss.setBatch x.batch { bx with errors := bx.errors ++ [(x.run.id, e)] }
      | _, .error other =>
        let ended : BatchTask := { x with run := { x.run with phase := .ended }, fault := some other }
        { ss with tasks := ss.tasks.set t ended }
      | none, _ => ss
    (ss.freeSlot x.batch).schedule (.gathered x.batch t)

/-- A run holding its lock goes up to the gateway: it ends there, or waits for its call. -/
def advance (ss : Session) (w : Waiter) (r : RunTask) : Session × Option (Except Error RunResult) :=
  match ss.onWorld (ss.engine.begin r.id r.now) with
  | (ss, .ok (.finished res)) => (ss, some (.ok res))
  | (ss, .error err) => (ss, some (.error err))
  | (ss, .ok (.submitting s p)) =>
    match ss.engine.timeoutPassed with
    | .error err => (ss, some (.error (Engine.unavailable s err.message)))
    | .ok passed => ((ss.setRun w { r with phase := .gateway s p passed none }).schedule (.call w), none)

/-- The outcome of a waiter's run, once it ended: a task's is kept by its batch; the
command's is its answer. -/
def conclude (ss : Session) (w : Waiter) (r : RunTask) (outcome : Option (Except Error RunResult)) :
    Session × Option (Except Error Finished) :=
  match outcome with
  | none => (ss, none)
  | some o =>
    match w with
    | .task t => (ss.taskEnded t o, none)
    | .command =>
      let ss := { (ss.unlock r.id) with command := .nothing }
      (ss, some (o.map Finished.run))

/-- A run that may take its lock: it takes it and goes on, or waits in line for it. -/
def lockAndAdvance (ss : Session) (w : Waiter) (r : RunTask) : Session × Option (Except Error Finished) :=
  match ss.tryLock r.id w with
  | (ss, true) =>
    let (ss, outcome) := ss.advance w r
    ss.conclude w r outcome
  | (ss, false) => (ss.setRun w { r with phase := .lock }, none)

/-- Runs one ready callback; the command's outcome when it ends there. -/
def handle (ss : Session) (h : Ready) : Session × Option (Except Error Finished) :=
  match h with
  | .start t =>
    match ss.tasks[t]? with
    | none => (ss, none)
    | some x =>
      match ss.trySlot x.batch t with
      | (ss, true) => ss.lockAndAdvance (.task t) x.run
      | (ss, false) => (ss.setRun (.task t) { x.run with phase := .slot }, none)
  | .call w =>
    match ss.runOf w with
    | some r =>
      match r.phase with
      | .gateway s p cancelled none =>
        if cancelled then ((ss.setRun w { r with phase := .gateway s p true (some .timeout) }).schedule (.release w), none)
        else
          match ss.onWorld (World.submit p.amount (s.paymentMethod.getD "") p.idempotencyKey) with
          | (ss, .ok reply) =>
            ((ss.setRun w { r with phase := .gateway s p false (some reply) }).schedule (.release w), none)
          | (ss, .error err) => ss.conclude w r (some (.error err))
      | _ => (ss, none)
    | none => (ss, none)
  | .release w => (ss.schedule (.resume w), none)
  | .resume w =>
    match w, ss.command with
    | .command, .batch b =>
      match ss.batchAt b with
      | some x =>
        let ss := { ss with command := .nothing }
        match x.failure with
        | some err => (ss, some (.error err))
        | none => (ss, some (.ok (.batch x.results x.errors)))
      | none => ({ ss with command := .nothing }, some (.ok (.batch [] [])))
    | _, _ =>
      match ss.runOf w with
      | none => (ss, none)
      | some r =>
        match r.phase with
        | .slot =>
          match w with
          | .task t =>
            match ss.tasks[t]? with
            | some x => (ss.slotTaken x.batch t).lockAndAdvance w r
            | none => (ss, none)
          | .command => (ss, none)
        | .lock =>
          let ss := ss.takeLock r.id w
          let (ss, outcome) := ss.advance w r
          ss.conclude w r outcome
        | .gateway s p _ (some reply) =>
          let (ss, outcome) := ss.onWorld (ss.engine.finish s p reply r.now)
          ss.conclude w r (some outcome)
        | _ => (ss, none)
  | .gathered b t =>
    match ss.batchAt b with
    | none => (ss, none)
    | some x =>
      let x := { x with ended := x.ended + 1 }
      if x.settled then (ss.setBatch b x, none)
      else
        match (ss.tasks[t]?).bind (·.fault) with
        | some err => ((ss.setBatch b { x with settled := true, failure := some err }).schedule (.resume .command), none)
        | none =>
          if x.ended = x.tasks.length then
            ((ss.setBatch b { x with settled := true }).schedule (.resume .command), none)
          else (ss.setBatch b x, none)

/-- Runs ready callbacks in order until the command in progress ends (within a bound on
their number). -/
def drain (ss : Session) : Nat → Session × Except Error Finished
  | 0 => (ss, .error (.unsupported "the session stalled"))
  | fuel + 1 =>
    match ss.ready with
    | [] => (ss, .error (.unsupported "the session stalled"))
    | h :: rest =>
      match { ss with ready := rest }.handle h with
      | (ss, some outcome) => (ss, outcome)
      | (ss, none) => ss.drain fuel

/-- A bound on the callbacks a command may wait through: a few for every task and for the
command itself, and those already ready. -/
def patience (ss : Session) (extra : Nat) : Nat := 8 * (ss.tasks.length + extra + 2) + ss.ready.length

/-- Bills one subscription as the command: its lock is taken (after any left-over task that
holds it), and the run goes on until it ends. -/
def runOne (ss : Session) (id : String) (now : DateTime) : Session × Except Error RunResult :=
  let r : RunTask := ⟨id, now, .lock⟩
  let ss := { ss with command := .run r }
  let (ss, done) := ss.lockAndAdvance .command r
  let (ss, outcome) := match done with
    | some o => (ss, o)
    | none => ss.drain (ss.patience 1)
  match outcome with
  | .ok (.run res) => (ss, .ok res)
  | .ok (.batch _ _) => (ss, .error (.unsupported "a run ended as a batch"))
  | .error err => (ss, .error err)

/-- Bills many subscriptions as the command, each identifier once, in the order first
given: one task each, which the command waits for. The number of slots is checked first. -/
def runBatch (ss : Session) (ids : List String) (now : DateTime) :
    Session × Except Error (List RunResult × List (String × BillingError)) :=
  match ss.engine.slots with
  | .error err => (ss, .error err)
  | .ok slots =>
    let ids := ids.eraseDups
    if ids.isEmpty then (ss, .ok ([], []))
    else
      let b := ss.batches.length
      let first := ss.tasks.length
      let tasks := ids.map fun id => (⟨b, ⟨id, now, .slot⟩, none⟩ : BatchTask)
      let numbers := (List.range ids.length).map (first + ·)
      let ss := { ss with
        tasks := ss.tasks ++ tasks
        batches := ss.batches ++ [(⟨slots, [], numbers, 0, false, none, [], []⟩ : Batch)]
        ready := ss.ready ++ numbers.map Ready.start
        command := .batch b }
      match ss.drain (ss.patience 0) with
      | (ss, .ok (.batch rs es)) => (ss, .ok (rs, es))
      | (ss, .ok (.run _)) => (ss, .error (.unsupported "a batch ended as a run"))
      | (ss, .error err) => (ss, .error err)

/-- Carries out a command that does not wait, on the world. -/
def atOnce {α : Type} (ss : Session) (s : Step α) : Session × Except Error α := ss.onWorld s

end Session

end Billing
