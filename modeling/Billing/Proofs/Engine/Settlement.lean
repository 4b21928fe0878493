import Billing.Proofs.Engine.Failures
import Mathlib.Logic.Relation

/-! # A cycle is charged once

Runs of one subscription may be cut short between the payment's save and the
subscription's: the subscription store may fail its saves on any run. The payment of a
charge is saved first, so the repository then holds a succeeded payment that the
subscription does not know yet; the next run finds it among the keys it looks at (the last
payment and the payment of the current attempt), renews the subscription from it, and does
not charge again. `Ledger` is what the repository keeps true about the subscription's
payments between runs; every run and every change of the store's failures preserves it.

This holds as long as the subscription's last payment never names a payment of another
subscription (the search for a settled payment checks the owner, the resumption of a
failed payment does not), and only for charges whose renewal can be computed: a run whose
next period lies beyond the calendar fails before it writes anything, after the gateway
took the charge. -/
namespace Billing

namespace Engine

/-- One thing that can happen between runs of a subscription: a run, which may fail, or the
subscription store starting or stopping to fail its saves. -/
inductive Moves (e : Engine) (id : String) : World → World → Prop
  | run (now : DateTime) (w : World) : Moves e id w (worldOf ((e.run id now).run w))
  | saveFault (m : Option String) (w : World) :
      Moves e id w { w with faults := w.faults.set .subscriptionSave m }

/-- Payments of the subscription `id`, kept under their own identifiers. -/
def OwnKeys (id : String) (w : World) (s : Subscription) : Prop :=
  ∀ k p, w.payments.lookup k = some p → p.subscriptionId = id →
    p.id = k ∧ p.cycleNumber ≤ s.period.cycleNumber

/-- A payment that settles the stored subscription's cycle is where a run looks for one. -/
def SettledInView (w : World) (s : Subscription) : Prop :=
  ∀ k p, w.payments.lookup k = some p → settles s p = true → k ∈ settlementKeys s

/-- The subscription's last payment, if it names one, is one of its own. -/
def OwnLast (id : String) (w : World) (s : Subscription) : Prop :=
  ∀ k p, s.lastPayment = some k → w.payments.lookup k = some p → p.subscriptionId = id

/-- At most one succeeded payment of the subscription `id` per cycle. -/
def OneSettledPerCycle (id : String) (w : World) : Prop :=
  ∀ k k' p p', w.payments.lookup k = some p → w.payments.lookup k' = some p' →
    p.status = .succeeded → p'.status = .succeeded → p.subscriptionId = id → p'.subscriptionId = id →
    p.cycleNumber = p'.cycleNumber → k = k'

/-- The repository holds a succeeded payment of the subscription `id` for cycle `c`. -/
def Charged (id : String) (c : Int) (w : World) : Prop :=
  ∃ k p, w.payments.lookup k = some p ∧ p.status = .succeeded ∧ p.subscriptionId = id ∧
    p.cycleNumber = c

/-- The run of `id` at `now` from `w` submits a charge, and the gateway approves it. -/
def Approved (e : Engine) (id : String) (now : DateTime) (w : World) : Prop :=
  (worldOf ((e.run id now).run w)).calls.length = w.calls.length + 1 ∧
    ∃ s r, w.subscriptions.lookup id = some s ∧ e.gatewayResult s w.nextReply = .ok r ∧
      r.success = true

/-- Only the subscription store's saves may fail: loads and the payment store's saves
always succeed. -/
def OnlySubscriptionSavesFail (f : Faults) : Prop :=
  f.subscriptionLoad = none ∧ f.paymentSave = none ∧ f.paymentLoad = none

theorem OnlySubscriptionSavesFail.set {f : Faults} (h : OnlySubscriptionSavesFail f)
    (m : Option String) : OnlySubscriptionSavesFail (f.set .subscriptionSave m) := h

/-- A payment settling the subscription's cycle is held only if the next period is within
the calendar: the run that wrote it had renewed the subscription first. -/
def Renewable (w : World) (s : Subscription) : Prop :=
  ∀ k p, w.payments.lookup k = some p → settles s p = true →
    ∃ n, s.cycle.nextPeriod s.period = .ok n

/-- What the repository keeps true about the subscription `id` and its payments between
runs, once the subscription has reached cycle `c`. -/
structure Ledger (id : String) (c : Int) (w : World) : Prop where
  /-- Only the subscription store's saves fail. -/
  faults : OnlySubscriptionSavesFail w.faults
  /-- The subscription is stored, under its own identifier. -/
  stored : ∃ s, w.subscriptions.lookup id = some s ∧ s.id = id
  /-- It has reached cycle `c`. -/
  reached : ∀ s, w.subscriptions.lookup id = some s → c ≤ s.period.cycleNumber
  /-- Its payments are kept under their own identifiers, for cycles it has reached. -/
  own : ∀ s, w.subscriptions.lookup id = some s → OwnKeys id w s
  /-- A payment settling its current cycle is where a run looks for one. -/
  inView : ∀ s, w.subscriptions.lookup id = some s → SettledInView w s
  /-- Its last payment is one of its own. -/
  last : ∀ s, w.subscriptions.lookup id = some s → OwnLast id w s
  /-- A payment settling its current cycle can be applied. -/
  renewable : ∀ s, w.subscriptions.lookup id = some s → Renewable w s
  /-- Never two succeeded payments for one cycle. -/
  unique : OneSettledPerCycle id w

variable {e : Engine} {id : String} {c : Int} {w w' : World}

theorem Ledger.stored_id (hl : Ledger id c w) {s : Subscription}
    (hs : w.subscriptions.lookup id = some s) : s.id = id := by
  obtain ⟨s', hs', hid⟩ := hl.stored
  rw [hs] at hs'
  cases hs'
  exact hid

/-- The ledger counts from any cycle the subscription has reached. -/
theorem Ledger.rebase (hl : Ledger id c w) {c' : Int}
    (h : ∀ s, w.subscriptions.lookup id = some s → c' ≤ s.period.cycleNumber) : Ledger id c' w :=
  { hl with reached := h }

/-- The ledger counting from the stored subscription's own cycle. -/
theorem Ledger.here (hl : Ledger id c w) {s : Subscription}
    (hs : w.subscriptions.lookup id = some s) : Ledger id s.period.cycleNumber w :=
  hl.rebase fun s' hs' => by
    rw [hs] at hs'
    cases hs'
    exact Int.le_refl _

/-- Only the subscriptions, the payments and the store's failures matter. -/
theorem Ledger.of_same (hl : Ledger id c w) (hsub : w'.subscriptions = w.subscriptions)
    (hpay : w'.payments = w.payments) (hfault : OnlySubscriptionSavesFail w'.faults) :
    Ledger id c w' := by
  have hreached := hl.reached
  have hown := hl.own
  have hview := hl.inView
  have hlast := hl.last
  have hren := hl.renewable
  have huniq := hl.unique
  simp only [OwnKeys, SettledInView, OwnLast, Renewable, OneSettledPerCycle] at hown hview hlast hren huniq
  refine ⟨hfault, by rw [hsub]; exact hl.stored, ?_, ?_, ?_, ?_, ?_, ?_⟩ <;>
    simp only [OwnKeys, SettledInView, OwnLast, Renewable, OneSettledPerCycle, hsub, hpay] <;>
    assumption

/-- A search that finds no settled payment means none is held: any would be under one of
the keys searched. -/
theorem Ledger.none_settles (hl : Ledger id c w) {s : Subscription}
    (hs : w.subscriptions.lookup id = some s) (hp : (settledPayment s).run w = .ok none w) :
    ∀ k q, w.payments.lookup k = some q → settles s q = false := by
  have hnone := findSettled_none _ hp
  intro k q hq
  cases hset : settles s q with
  | false => rfl
  | true =>
    have hnot := hnone k (hl.inView s hs k q hq hset) q hq
    rw [hset] at hnot
    cases hnot

/-- Saving the subscription keeps the ledger when it stays in its cycle or moves on, no
payment settles it as saved, and its last payment is one of its own. -/
theorem Ledger.storeSubscription (hl : Ledger id c w) {s u : Subscription}
    (hs : w.subscriptions.lookup id = some s) (hid : u.id = id)
    (hcyc : s.period.cycleNumber ≤ u.period.cycleNumber)
    (hnone : ∀ k p, w.payments.lookup k = some p → settles u p = false)
    (hlast : OwnLast id w u) : Ledger id c (w.storeSubscription u) := by
  have hlook : (w.storeSubscription u).subscriptions.lookup id = some u := by
    simp [← hid]
  have hstored : ∀ s', (w.storeSubscription u).subscriptions.lookup id = some s' → s' = u := by
    intro s' hs'
    rw [hlook] at hs'
    exact (Option.some.inj hs').symm
  -- no payment settles the saved subscription, so what is asked of settling payments holds
  have hnever : ∀ k p, w.payments.lookup k = some p → settles u p = true → False := by
    intro k p hp hset
    rw [hnone k p hp] at hset
    cases hset
  refine ⟨hl.faults, ⟨u, hlook, hid⟩, ?_, ?_, ?_, ?_, ?_, hl.unique⟩
  · intro s' hs'
    rw [hstored s' hs']
    exact Int.le_trans (hl.reached s hs) hcyc
  · intro s' hs' k p hp hsub
    rw [hstored s' hs']
    obtain ⟨hkey, hle⟩ := hl.own s hs k p hp hsub
    exact ⟨hkey, Int.le_trans hle hcyc⟩
  · intro s' hs' k p hp hset
    rw [hstored s' hs'] at hset
    exact (hnever k p hp hset).elim
  · intro s' hs'
    rw [hstored s' hs']
    exact hlast
  · intro s' hs' k p hp hset
    rw [hstored s' hs'] at hset
    exact (hnever k p hp hset).elim

/-- Saving a payment of the stored subscription's current cycle, under one of the keys a
run looks at, keeps the ledger as long as no payment of that cycle had settled. -/
theorem Ledger.storePayment (hl : Ledger id c w) {s : Subscription} {q : PaymentAttempt}
    (hs : w.subscriptions.lookup id = some s) (hsub : q.subscriptionId = id)
    (hcyc : q.cycleNumber = s.period.cycleNumber) (hkey : q.id ∈ settlementKeys s)
    (hfresh : ∀ k p, w.payments.lookup k = some p → settles s p = false)
    (hren : q.status = .succeeded → ∃ n, s.cycle.nextPeriod s.period = .ok n) :
    Ledger id c (w.storePayment q) := by
  have hsid := hl.stored_id hs
  -- a payment of this subscription and cycle that succeeded would settle it
  have hsettles : ∀ p : PaymentAttempt, p.status = .succeeded → p.subscriptionId = id →
      p.cycleNumber = s.period.cycleNumber → settles s p = true := by
    intro p hst hps hpc
    simp [settles, hst, hps, hpc, hsid]
  have hlook : ∀ k, (w.storePayment q).payments.lookup k =
      if k = q.id then some q else w.payments.lookup k := by
    intro k
    simp [lookup_upsert]
  refine ⟨hl.faults, hl.stored, hl.reached, ?_, ?_, ?_, ?_, ?_⟩
  · intro s' hs' k p hp hps
    simp only [World.storePayment_subscriptions] at hs'
    rw [hs] at hs'
    cases hs'
    rw [hlook] at hp
    split at hp
    · rename_i hk
      cases hp
      exact ⟨hk.symm, Int.le_of_eq hcyc⟩
    · exact hl.own s hs k p hp hps
  · intro s' hs' k p hp hset
    simp only [World.storePayment_subscriptions] at hs'
    rw [hs] at hs'
    cases hs'
    rw [hlook] at hp
    split at hp
    · rename_i hk
      rw [hk]
      exact hkey
    · exact hl.inView s hs k p hp hset
  · intro s' hs' k p hk hp
    simp only [World.storePayment_subscriptions] at hs'
    rw [hs] at hs'
    cases hs'
    rw [hlook] at hp
    split at hp
    · cases hp
      exact hsub
    · exact hl.last s hs k p hk hp
  · intro s' hs' k p hp hset
    simp only [World.storePayment_subscriptions] at hs'
    rw [hs] at hs'
    cases hs'
    rw [hlook] at hp
    split at hp
    · cases hp
      exact hren (settles_eq_true.mp hset).1
    · exact hl.renewable s hs k p hp hset
  · intro k k' p p' hp hp' hst hst' hps hps' hpc
    rw [hlook] at hp hp'
    split at hp <;> split at hp'
    · rename_i hk hk'
      rw [hk, hk']
    · -- an older succeeded payment of the same cycle would have settled the subscription
      cases hp
      have hfalse := hfresh k' p' hp'
      rw [hsettles p' hst' hps' (hpc.symm.trans hcyc)] at hfalse
      cases hfalse
    · cases hp'
      have hfalse := hfresh k p hp
      rw [hsettles p hst hps (hpc.trans hcyc)] at hfalse
      cases hfalse
    · exact hl.unique k k' p p' hp hp' hst hst' hps hps' hpc

variable {now : DateTime}

/-- A run that reaches the gateway found no settled payment for the current cycle, so none
is held at all, and it submits a payment of the subscription's current cycle under one of
the keys a later run looks at. -/
theorem Ledger.submitting (hl : Ledger id c w) {s : Subscription} {p : PaymentAttempt}
    (hb : Begun e id now w (.ok (.submitting s p) w)) :
    w.subscriptions.lookup id = some s ∧ (∀ k q, w.payments.lookup k = some q → settles s q = false) ∧
      p.id ∈ settlementKeys s ∧ p.subscriptionId = id ∧ p.cycleNumber = s.period.cycleNumber := by
  cases hb with
  | submitting _ _ amount elapsed hload hs hskip hp hgrace hx hm ha hprep =>
  have hsid := hl.stored_id hs
  refine ⟨hs, hl.none_settles hs hp, ?_⟩
  obtain ⟨-, ⟨hid, hsub, hcyc⟩ | ⟨k, prev, -, hk, hne, hprev, -, hpcyc, hid, hsub, hcyc⟩⟩ :=
    preparePayment_ok hprep
  · exact ⟨hid ▸ mem_settlementKeys.mpr (.inr rfl), hsub.trans hsid, hcyc⟩
  · -- the resumed payment is the subscription's own, kept under its identifier
    have hprevsub := hl.last s hs k prev hk hprev
    obtain ⟨hkey, -⟩ := hl.own s hs k prev hprev hprevsub
    refine ⟨?_, hsub.trans hprevsub, hcyc.trans hpcyc⟩
    rw [hid, hkey]
    exact mem_settlementKeys.mpr (.inl ⟨hk, hne⟩)

/-- The part of a run before the gateway keeps the ledger: a renewal from a settled payment
moves the subscription on and points it at that payment, an expiry changes only its
status. -/
theorem Ledger.stopped (hl : Ledger id c w) {r : RunResult}
    (hb : Begun e id now w (.ok (.finished r) w')) : Ledger id c w' := by
  cases hb with
  | skipped => exact hl
  | settled s u p hload hs hskip hp hu hsave =>
    have hsid := hl.stored_id hs
    obtain ⟨k, -, hpk, hset⟩ := findSettled_some _ hp
    obtain ⟨-, hpsub, -⟩ := settles_eq_true.mp hset
    obtain ⟨hkey, -⟩ := hl.own s hs k p hpk (hpsub.trans hsid)
    obtain ⟨hnext, t, ht, hueq⟩ := renewed_ok hu
    have htid : t.id = s.id := by
      rcases ht with ⟨-, _, _, htr⟩ | ⟨-, rfl⟩
      · exact (transition_id_period htr).1
      · rfl
    have huid : u.id = id := by rw [hueq]; exact htid.trans hsid
    have hucyc := Cycle.nextPeriod_cycleNumber hnext
    refine hl.storeSubscription hs huid (by omega) ?_ ?_
    · -- nothing settles the next cycle yet: every payment is for a cycle already reached
      intro k' p' hp'
      refine Bool.eq_false_iff.mpr fun hset' => ?_
      obtain ⟨-, hsub', hcyc'⟩ := settles_eq_true.mp hset'
      obtain ⟨-, hle⟩ := hl.own s hs k' p' hp' (hsub'.trans huid)
      omega
    · intro k' p' hk' hp'
      have hlast : u.lastPayment = some p.id := by rw [hueq]
      rw [hlast, Option.some.injEq] at hk'
      rw [← hk', hkey, hpk] at hp'
      cases hp'
      exact hpsub.trans hsid
  | expired s u hload hs hskip hp hgrace hx hu hsave =>
    have hsid := hl.stored_id hs
    obtain ⟨-, r, htr⟩ := move_ok hu
    have hueq := Subscription.transition_ok htr
    have hset : settles u = settles s := settles_congr (by rw [hueq]) (by rw [hueq])
    refine hl.storeSubscription hs (by rw [hueq]; exact hsid) (Int.le_of_eq (by rw [hueq])) ?_ ?_
    · intro k q hq
      rw [hset]
      exact hl.none_settles hs hp k q hq
    · intro k q hk hq
      rw [hueq] at hk
      exact hl.last s hs k q hk hq
  | rejected => exact hl

/-- A decision that settles the payment was made with the next period within the
calendar. -/
theorem Decided.renewable {s u : Subscription} {p q : PaymentAttempt} {reply : GatewayReply}
    {r : RunResult} (hd : Decided e s p reply now w u q r) :
    q.status = .succeeded → ∃ n, s.cycle.nextPeriod s.period = .ok n := by
  intro hst
  obtain ⟨-, -, -, -, -, hout⟩ := hd.written
  rcases hout with ⟨-, hnext⟩ | ⟨hfailed, -⟩
  · exact ⟨_, hnext⟩
  · rw [hst] at hfailed
    cases hfailed

/-- The part of a run after the gateway keeps the ledger: it writes the submitted payment,
then the subscription pointed at it. -/
theorem Ledger.finished (hl : Ledger id c w) {s : Subscription} {p : PaymentAttempt}
    {reply : GatewayReply} {res : EStateM.Result Error World RunResult}
    (hs : w.subscriptions.lookup id = some s)
    (hfresh : ∀ k q, w.payments.lookup k = some q → settles s q = false)
    (hkey : p.id ∈ settlementKeys s) (hsub : p.subscriptionId = id)
    (hcyc : p.cycleNumber = s.period.cycleNumber) (hf : Finished e s p reply now w res) :
    Ledger id c (worldOf res) := by
  have hsid := hl.stored_id hs
  cases hf with
  | failed err => exact hl
  | halfSaved u q r m hd hpay hsave =>
    obtain ⟨hqid, hqsub, hqcyc, -, -, -⟩ := hd.written
    exact hl.storePayment hs (hqsub.trans hsub) (hqcyc.trans hcyc) (hqid ▸ hkey) hfresh hd.renewable
  | saved u q r hd hpay hsave =>
    obtain ⟨hqid, hqsub, hqcyc, huid, hulast, hout⟩ := hd.written
    have hl2 := hl.storePayment hs (hqsub.trans hsub) (hqcyc.trans hcyc) (hqid ▸ hkey) hfresh hd.renewable
    have hs2 : (w.storePayment q).subscriptions.lookup id = some s := by simpa using hs
    refine hl2.storeSubscription hs2 (huid.trans hsid) ?_ ?_ ?_
    · rcases hout with ⟨-, hnext⟩ | ⟨-, hper⟩
      · have hnc := Cycle.nextPeriod_cycleNumber hnext
        omega
      · exact Int.le_of_eq (by rw [hper])
    · -- nothing settles the subscription as written: after a success it is in the next
      -- cycle, and after a decline the payment written failed
      intro k p' hp'
      refine Bool.eq_false_iff.mpr fun hset' => ?_
      rcases hout with ⟨-, hnext⟩ | ⟨hfailed, hper⟩
      · obtain ⟨-, hsub', hcyc'⟩ := settles_eq_true.mp hset'
        have hnc := Cycle.nextPeriod_cycleNumber hnext
        obtain ⟨-, hle⟩ := hl2.own s hs2 k p' hp' (hsub'.trans (huid.trans hsid))
        omega
      · rw [settles_congr huid (by rw [hper])] at hset'
        rw [World.storePayment_payments, lookup_upsert] at hp'
        split at hp'
        · cases hp'
          obtain ⟨hst, -, -⟩ := settles_eq_true.mp hset'
          rw [hfailed] at hst
          cases hst
        · rw [hfresh k p' hp'] at hset'
          cases hset'
    · intro k p' hk hp'
      rw [hulast, Option.some.injEq] at hk
      subst hk
      simp only [World.storePayment_payments, lookup_upsert_self, Option.some.injEq] at hp'
      subst hp'
      exact hqsub.trans hsub

/-- Every run keeps the ledger. -/
theorem Ledger.run (hl : Ledger id c w) (e : Engine) (now : DateTime) :
    Ledger id c (worldOf ((e.run id now).run w)) := by
  have hran := run_paths e id now w
  generalize (e.run id now).run w = res at hran ⊢
  cases hran with
  | failed err => exact hl
  | stopped r w' hb => exact hl.stopped hb
  | cancelled s p res hb ht hf =>
    obtain ⟨hs, hfresh, hkey, hsub, hcyc⟩ := hl.submitting hb
    exact hl.finished hs hfresh hkey hsub hcyc hf
  | called s p res hb ht hf _ =>
    obtain ⟨hs, hfresh, hkey, hsub, hcyc⟩ := hl.submitting hb
    -- the call itself touches neither the subscriptions nor the payments
    have hl1 : Ledger id c (w.afterCall ⟨p.amount, s.paymentMethod.getD "", p.idempotencyKey⟩) :=
      hl.of_same (by simp) (by simp) (by simpa using hl.faults)
    exact hl1.finished (by simpa using hs) (by simpa using hfresh) hkey hsub hcyc hf

theorem Ledger.move (hl : Ledger id c w) (hm : Moves e id w w') : Ledger id c w' := by
  cases hm with
  | run now w => exact hl.run e now
  | saveFault m w => exact hl.of_same rfl rfl (hl.faults.set m)

/-- The ledger holds along every sequence of runs and changes of the store's failures. -/
theorem Ledger.reach (hl : Ledger id c w) (h : Relation.ReflTransGen (Moves e id) w w') :
    Ledger id c w' := by
  induction h with
  | refl => exact hl
  | tail _ hm ih => exact ih.move hm

/-- A repository in which only the subscription store's saves fail, holding no payment of
the subscription, whose last payment names none, keeps the ledger from the subscription's
current cycle. -/
theorem Ledger.initial {s : Subscription} (hfaults : OnlySubscriptionSavesFail w.faults)
    (hs : w.subscriptions.lookup id = some s) (hid : s.id = id)
    (hnone : ∀ k p, w.payments.lookup k = some p → p.subscriptionId ≠ id)
    (hlast : ∀ k, s.lastPayment = some k → w.payments.lookup k = none) :
    Ledger id s.period.cycleNumber w := by
  -- a payment settling the subscription would be one of its own
  have hnever : ∀ k p, w.payments.lookup k = some p → settles s p = true → False := by
    intro k p hp hset
    obtain ⟨-, hsub, -⟩ := settles_eq_true.mp hset
    exact hnone k p hp (hsub.trans hid)
  refine ⟨hfaults, ⟨s, hs, hid⟩, ?_, ?_, ?_, ?_, ?_, ?_⟩
  · intro s' hs'
    rw [hs] at hs'
    cases hs'
    exact Int.le_refl _
  · intro s' _ k p hp hsub
    exact absurd hsub (hnone k p hp)
  · intro s' hs' k p hp hset
    rw [hs] at hs'
    cases hs'
    exact (hnever k p hp hset).elim
  · intro s' hs' k p hk hp
    rw [hs] at hs'
    cases hs'
    rw [hlast k hk] at hp
    cases hp
  · intro s' hs' k p hp hset
    rw [hs] at hs'
    cases hs'
    exact (hnever k p hp hset).elim
  · intro k k' p p' hp _ _ _ hsub
    exact absurd hsub (hnone k p hp)

/-- The search for a settled payment finds the one held: it is under one of the keys
searched, and no other payment settles the cycle. -/
theorem Ledger.settledPayment_run (hl : Ledger id c w) {s : Subscription} {k : String}
    {p : PaymentAttempt} (hs : w.subscriptions.lookup id = some s)
    (hp : w.payments.lookup k = some p) (hset : settles s p = true) :
    (settledPayment s).run w = .ok (some p) w := by
  rw [settledPayment, findSettled_run s hl.faults.2.2]
  have hmem : p ∈ (settlementKeys s).filterMap fun k => w.payments.lookup k :=
    List.mem_filterMap.mpr ⟨k, hl.inView s hs k p hp hset, hp⟩
  cases hfind : ((settlementKeys s).filterMap fun k => w.payments.lookup k).find? (settles s) with
  | none =>
    have hnot := List.find?_eq_none.mp hfind p hmem
    rw [hset] at hnot
    cases hnot rfl
  | some p' =>
    obtain ⟨k', -, hp'⟩ := List.mem_filterMap.mp (List.mem_of_find?_eq_some hfind)
    have hsid := hl.stored_id hs
    obtain ⟨hst, hsub, hcyc⟩ := settles_eq_true.mp hset
    obtain ⟨hst', hsub', hcyc'⟩ := settles_eq_true.mp (List.find?_some hfind)
    have hkk := hl.unique k k' p p' hp hp' hst hst' (hsub.trans hsid) (hsub'.trans hsid)
      (hcyc.trans hcyc'.symm)
    subst hkk
    rw [hp] at hp'
    cases hp'
    rfl

/-- While a settled payment of the current cycle is held, a run that passes its skip check
applies it: it renews the subscription one period on, points it at the payment and saves
it, and when the subscription store fails it fails with nothing written. -/
theorem Ledger.held_run (hl : Ledger id c w) {s : Subscription} {k : String} {p : PaymentAttempt}
    (hs : w.subscriptions.lookup id = some s) (hp : w.payments.lookup k = some p)
    (hset : settles s p = true) (hskip : skipReason s now = .ok none) :
    ∃ u, s.cycle.nextPeriod s.period = .ok u.period ∧ u.id = id ∧ u.lastPayment = some p.id ∧
      (e.run id now).run w = match w.faults.subscriptionSave with
        | none => .ok ⟨id, .succeeded, u, some p, none, none, none⟩ (w.storeSubscription u)
        | some m =>
          .error (.billing (.persistence ("Failed to save subscription: " ++ m) (some u.id))) w := by
  obtain ⟨n, hn⟩ := hl.renewable s hs k p hp hset
  obtain ⟨u, hu, huid, hup, hulast⟩ := renewed_run (w := w) s p now hn
  refine ⟨u, by rw [hup]; exact hn, huid.trans (hl.stored_id hs), hulast, ?_⟩
  exact run_settled hl.faults.1 hs hskip (hl.settledPayment_run hs hp hset) hu

/-- While a settled payment of the current cycle is held, a run calls no one, and it either
leaves the repository as it was or moves the subscription on to the next cycle. -/
theorem Ledger.held_step (hl : Ledger id c w) (e : Engine) (now : DateTime) {s : Subscription}
    {k : String} {p : PaymentAttempt}
    (hs : w.subscriptions.lookup id = some s) (hp : w.payments.lookup k = some p)
    (hset : settles s p = true) :
    (worldOf ((e.run id now).run w)).calls = w.calls ∧
      (worldOf ((e.run id now).run w) = w ∨ ∃ u, worldOf ((e.run id now).run w) = w.storeSubscription u ∧
        u.id = id ∧ u.period.cycleNumber = s.period.cycleNumber + 1) := by
  cases hskip : skipReason s now with
  | error err =>
    rw [run_skipFailed hl.faults.1 hs hskip]
    exact ⟨rfl, .inl rfl⟩
  | ok reason =>
    cases reason with
    | some r =>
      rw [run_skipped hl.faults.1 hs hskip]
      exact ⟨rfl, .inl rfl⟩
    | none =>
      obtain ⟨u, hn, huid, -, hrun⟩ := hl.held_run (e := e) hs hp hset hskip
      rw [hrun]
      have hcyc := Cycle.nextPeriod_cycleNumber hn
      cases w.faults.subscriptionSave with
      | none => exact ⟨rfl, .inr ⟨u, rfl, huid, hcyc⟩⟩
      | some m => exact ⟨rfl, .inl rfl⟩

/-- With the payment store working, writing a decision holds its payment afterwards,
whether or not the subscription's save fails. -/
theorem persist_holds (hpay : w.faults.paymentSave = none) (u : Subscription) (q : PaymentAttempt)
    (r : RunResult) : (worldOf ((persist u q >>= fun _ => pure r).run w)).payments.lookup q.id = some q := by
  simp only [persist, EStateM.run_bind, World.savePayment_run, hpay, World.saveSubscription_run,
    World.storePayment_faults]
  cases w.faults.subscriptionSave <;> simp

/-- An approved charge is decided without failing when the next period is within the
calendar: the payment succeeds, the subscription is renewed, and both are written. -/
theorem finish_approved (now : DateTime) {s : Subscription} {p : PaymentAttempt}
    {reply : GatewayReply} {r : GatewayResult} (hr : e.gatewayResult s reply = .ok r) (hsucc : r.success = true)
    (hproc : p.status = .processing) {n : Period} (hn : s.cycle.nextPeriod s.period = .ok n)
    (w : World) :
    ∃ q u, q.status = .succeeded ∧ q.id = p.id ∧ q.subscriptionId = p.subscriptionId ∧
      q.cycleNumber = p.cycleNumber ∧ (e.finish s p reply now).run w =
        (persist u q >>= fun _ => pure ⟨s.id, .succeeded, u, some q, none, none, none⟩).run w := by
  obtain ⟨q, t, hq⟩ := p.transition_succeeded (because "payment_succeeded" now)
    ⟨none, some (Subscription.textValue r.providerRef), none⟩ hproc
  obtain ⟨hqst, hqid, hqsub, -, hqcyc, -⟩ := PaymentAttempt.transition_ok hq
  obtain ⟨u, hu, -⟩ := renewed_run (w := w) s q now hn
  refine ⟨q, u, hqst, hqid, hqsub, hqcyc, ?_⟩
  simp only [Engine.finish, EStateM.run_bind, World.lift_run, hr, hsucc, if_true, movePayment_run, hq, hu]

/-- An approved charge is recorded: once the gateway approves a charge for the current
cycle, a succeeded payment of that cycle is held, provided the next period is within the
calendar. -/
theorem Ledger.approved (hl : Ledger id c w) (ha : Approved e id now w) {s : Subscription}
    (hs : w.subscriptions.lookup id = some s) {n : Period}
    (hn : s.cycle.nextPeriod s.period = .ok n) :
    Charged id s.period.cycleNumber (worldOf ((e.run id now).run w)) := by
  obtain ⟨hcalls, s', r, hs', hr, hsucc⟩ := ha
  rw [hs] at hs'
  cases hs'
  have hran := run_paths e id now w
  generalize (e.run id now).run w = res at hran hcalls ⊢
  cases hran with
  | failed err => simp at hcalls
  | stopped r' w' hb =>
    rw [worldOf_ok, hb.calls] at hcalls
    omega
  | cancelled s1 p res hb ht hf =>
    rw [hf.calls] at hcalls
    omega
  | called s1 p res hb ht hf hres =>
    -- the charge submitted is the payment of this cycle, and the approval settles it
    obtain ⟨hs1, -, -, hsub, hcyc⟩ := hl.submitting hb
    rw [hs] at hs1
    cases hs1
    obtain ⟨q, u, hqst, -, hqsub, hqcyc, hfin⟩ := finish_approved now hr hsucc
      hb.processing hn (w.afterCall ⟨p.amount, s.paymentMethod.getD "", p.idempotencyKey⟩)
    subst hres
    rw [hfin]
    exact ⟨q.id, q, persist_holds (by simpa using hl.faults.2.1) u q _, hqst, hqsub.trans hsub,
      hqcyc.trans hcyc⟩

/-- A succeeded payment of the stored subscription's cycle settles it. -/
theorem Ledger.charged_settles (hl : Ledger id c w) {s : Subscription}
    (hs : w.subscriptions.lookup id = some s) (hch : Charged id s.period.cycleNumber w) :
    ∃ k p, w.payments.lookup k = some p ∧ settles s p = true := by
  obtain ⟨k, p, hp, hst, hsub, hpc⟩ := hch
  exact ⟨k, p, hp, settles_eq_true.mpr ⟨hst, hsub.trans (hl.stored_id hs).symm, hpc⟩⟩

/-- Once a succeeded payment of cycle `c` is held, it stays held for as long as the
subscription is still at cycle `c`. -/
theorem Ledger.charged_move (hl : Ledger id c w)
    (hch : ∀ s, w.subscriptions.lookup id = some s → s.period.cycleNumber = c → Charged id c w)
    (hm : Moves e id w w') :
    ∀ s, w'.subscriptions.lookup id = some s → s.period.cycleNumber = c → Charged id c w' := by
  cases hm with
  | saveFault m w => exact hch
  | run now w =>
    obtain ⟨s, hs, -⟩ := hl.stored
    by_cases hc : s.period.cycleNumber = c
    · obtain ⟨k, p, hp, hset⟩ := hl.charged_settles hs (hc ▸ hch s hs hc)
      rcases (hl.held_step e now hs hp hset).2 with heq | ⟨u, heq, huid, hucyc⟩
      · rw [heq]
        exact hch
      · -- the subscription moved on to the next cycle
        intro s' hs' hc'
        rw [heq, World.storeSubscription_subscriptions, ← huid, lookup_upsert_self] at hs'
        cases hs'
        omega
    · -- the subscription is past `c` already, and runs never take it back
      intro s' hs' hc'
      have hle := ((hl.here hs).run e now).reached s' hs'
      have hge := hl.reached s hs
      omega

theorem Ledger.charged_reach (hl : Ledger id c w)
    (hch : ∀ s, w.subscriptions.lookup id = some s → s.period.cycleNumber = c → Charged id c w)
    (h : Relation.ReflTransGen (Moves e id) w w') :
    ∀ s, w'.subscriptions.lookup id = some s → s.period.cycleNumber = c → Charged id c w' := by
  induction h with
  | refl => exact hch
  | tail hr hm ih => exact (hl.reach hr).charged_move ih hm

/-- A cycle is charged at most once. Start from a repository in which only the subscription
store's saves fail, holding no payment of the subscription `id`, whose stored subscription's
last payment names none; then run it at any times, with any replies of the gateway, while
the subscription store starts and stops failing. No two succeeded payments of the
subscription ever share a cycle. Once the gateway approves a charge for cycle `c` whose next
period is within the calendar, no later run calls the gateway while the subscription is
still at cycle `c`. And a run that passes its skip check while a succeeded payment of the
current cycle is held applies that payment without calling the gateway: it renews the
subscription exactly one period on and saves it, or fails with nothing written when the
subscription store fails. -/
theorem charged_once (e : Engine) (id : String) {w₀ : World} {s₀ : Subscription}
    (hfaults : OnlySubscriptionSavesFail w₀.faults) (hs₀ : w₀.subscriptions.lookup id = some s₀)
    (hid : s₀.id = id) (hnone : ∀ k p, w₀.payments.lookup k = some p → p.subscriptionId ≠ id)
    (hlast : ∀ k, s₀.lastPayment = some k → w₀.payments.lookup k = none) :
    (∀ w, Relation.ReflTransGen (Moves e id) w₀ w → OneSettledPerCycle id w) ∧
    (∀ w now s n, Relation.ReflTransGen (Moves e id) w₀ w → w.subscriptions.lookup id = some s →
      s.cycle.nextPeriod s.period = .ok n → Approved e id now w →
      ∀ w', Relation.ReflTransGen (Moves e id) (worldOf ((e.run id now).run w)) w' →
      ∀ s', w'.subscriptions.lookup id = some s' → s'.period.cycleNumber = s.period.cycleNumber →
      ∀ now', (worldOf ((e.run id now').run w')).calls = w'.calls) ∧
    (∀ w s k p now, Relation.ReflTransGen (Moves e id) w₀ w → w.subscriptions.lookup id = some s →
      w.payments.lookup k = some p → settles s p = true → skipReason s now = .ok none →
      ∃ u, s.cycle.nextPeriod s.period = .ok u.period ∧ u.lastPayment = some p.id ∧
        (e.run id now).run w = match w.faults.subscriptionSave with
          | none => .ok ⟨id, .succeeded, u, some p, none, none, none⟩ (w.storeSubscription u)
          | some m =>
            .error (.billing (.persistence ("Failed to save subscription: " ++ m) (some u.id))) w) := by
  have hl₀ := Ledger.initial hfaults hs₀ hid hnone hlast
  refine ⟨fun w hr => (hl₀.reach hr).unique, ?_, ?_⟩
  · intro w now s n hr hs hn ha w' hr' s' hs' hc' now'
    -- from the approval on, the ledger counts from cycle `c` and the charge stays held
    have hl := (hl₀.reach hr).here hs
    have hl₁ := hl.run e now
    have hch := hl.approved ha hs hn
    have hch' := hl₁.charged_reach (fun _ _ _ => hch) hr' s' hs' hc'
    obtain ⟨k, p, hp, hset⟩ := (hl₁.reach hr').charged_settles hs' (hc' ▸ hch')
    exact ((hl₁.reach hr').held_step e now' hs' hp hset).1
  · intro w s k p now hr hs hp hset hskip
    obtain ⟨u, hn, -, hulast, hrun⟩ := (hl₀.reach hr).held_run (e := e) hs hp hset hskip
    exact ⟨u, hn, hulast, hrun⟩

/-- The subscription of `saveRefusedWorld` is charged on the first of March 2024: the gateway
approves, the payment is saved, and the renewal is not, so the run fails holding the payment.
From there no run calls the gateway again; while the store still fails, the next run fails
with a persistence error and writes nothing, and once it recovers the next run renews the
subscription one period on from the held payment. -/
theorem charged_once_alone :
    Approved retryEngine "sub_1" marchFirst saveRefusedWorld ∧
      ∃ err w₁, (retryEngine.run "sub_1" marchFirst).run saveRefusedWorld = .error err w₁ ∧
        OneSettledPerCycle "sub_1" w₁ ∧
        (∀ now, (worldOf ((retryEngine.run "sub_1" now).run w₁)).calls = w₁.calls) ∧
        ∃ k p, w₁.payments.lookup k = some p ∧ p.status = .succeeded ∧ p.cycleNumber = 1 ∧
          (∃ err', (retryEngine.run "sub_1" marchFirst).run w₁ = .error err' w₁ ∧
            err'.className = "PersistenceError") ∧
          ∃ u, u.period = ⟨⟨2024, 3, 1⟩, ⟨2024, 3, 31⟩, 2⟩ ∧ u.lastPayment = some p.id ∧
            (retryEngine.run "sub_1" marchFirst).run
                { w₁ with faults := w₁.faults.set .subscriptionSave none } =
              .ok ⟨"sub_1", .succeeded, u, some p, none, none, none⟩
                ({ w₁ with faults := w₁.faults.set .subscriptionSave none }.storeSubscription u) := by
  have hc := @charged_once retryEngine "sub_1" saveRefusedWorld declinedSubscription ⟨rfl, rfl, rfl⟩
    rfl rfl (fun _ _ h => by cases h) (fun _ _ => rfl)
  have hl₀ : Ledger "sub_1" 1 saveRefusedWorld :=
    Ledger.initial (w := saveRefusedWorld) (s := declinedSubscription) ⟨rfl, rfl, rfl⟩ rfl rfl
      (fun _ _ h => by cases h) (fun _ _ => rfl)
  have ha : Approved retryEngine "sub_1" marchFirst saveRefusedWorld :=
    ⟨by decide +kernel, declinedSubscription, _, rfl, rfl, rfl⟩
  have hn : declinedSubscription.cycle.nextPeriod declinedSubscription.period =
      .ok ⟨⟨2024, 3, 1⟩, ⟨2024, 3, 31⟩, 2⟩ := Outcome.ok_of_toOption (by decide +kernel)
  have hfault : (worldOf ((retryEngine.run "sub_1" marchFirst).run saveRefusedWorld)).faults.subscriptionSave =
      some "disk full" := by decide +kernel
  obtain ⟨err, w₁, hrun, hsubs, -, -⟩ := refused_save_leaves_payment
  rw [hrun, worldOf_error] at hfault
  have hm : Moves retryEngine "sub_1" saveRefusedWorld w₁ := by
    have h : Moves retryEngine "sub_1" saveRefusedWorld
        (worldOf ((retryEngine.run "sub_1" marchFirst).run saveRefusedWorld)) := .run marchFirst _
    rwa [hrun, worldOf_error] at h
  have hs₁ : w₁.subscriptions.lookup "sub_1" = some declinedSubscription := by
    rw [hsubs]
    rfl
  -- the approved charge is held by the failed run, and it settles the unchanged subscription
  have hch := hl₀.approved ha rfl hn
  rw [hrun, worldOf_error] at hch
  obtain ⟨k, p, hp, hst, hsub, hpc⟩ := hch
  have hset : settles declinedSubscription p = true := settles_eq_true.mpr ⟨hst, hsub, hpc⟩
  have hskip : skipReason declinedSubscription marchFirst = .ok none :=
    Outcome.ok_of_toOption (by decide +kernel)
  have hcalls : ∀ now, (worldOf ((retryEngine.run "sub_1" now).run w₁)).calls = w₁.calls :=
    hc.2.1 saveRefusedWorld marchFirst declinedSubscription _ .refl rfl hn ha w₁
      (by rw [hrun]; exact .refl) declinedSubscription hs₁ rfl
  obtain ⟨u, -, -, hrun₁⟩ := hc.2.2 w₁ declinedSubscription k p marchFirst (.single hm) hs₁ hp hset hskip
  obtain ⟨u', hu', hlast', hrun₂⟩ := hc.2.2 _ declinedSubscription k p marchFirst
    ((Relation.ReflTransGen.single hm).tail (.saveFault none w₁)) hs₁ hp hset hskip
  rw [hfault] at hrun₁
  rw [hn] at hu'
  refine ⟨ha, err, w₁, hrun, hc.1 w₁ (.single hm), hcalls, k, p, hp, hst, hpc, ⟨_, hrun₁, rfl⟩, u',
    (Except.ok.inj hu').symm, hlast', hrun₂⟩

/-- A subscription in its grace period whose current period ends on the last day of the
calendar. -/
def lastPeriodSubscription : Subscription :=
  { (default : Subscription) with
    id := "sub_1"
    customer := "cust_1"
    paymentMethod := some "pm_card"
    amount := ⟨1000, "TWD"⟩
    cycle := ⟨.monthly, none, none⟩
    status := .gracePeriod
    period := ⟨⟨9999, 12, 1⟩, ⟨9999, 12, 31⟩, 1⟩ }

/-- The repository holding only that subscription, with nothing failing. -/
def lastPeriodWorld : World :=
  ⟨[("sub_1", lastPeriodSubscription)], [], ⟨none, none, none, none⟩, [], 0, [], []⟩

/-- The last day of the calendar, at nine. -/
def lastDay : DateTime := ⟨⟨9999, 12, 31⟩, 9, 0, 0, 0, some 0⟩

/-- Without its calendar condition the second part fails: the gateway approves the charge,
the renewal has no next period, so the run fails before writing the payment, and the next
run at the same cycle charges again. -/
theorem charged_twice_past_calendar :
    OnlySubscriptionSavesFail lastPeriodWorld.faults ∧ lastPeriodWorld.payments = [] ∧
      Approved retryEngine "sub_1" lastDay lastPeriodWorld ∧
      ((worldOf ((retryEngine.run "sub_1" lastDay).run lastPeriodWorld)).subscriptions.lookup
        "sub_1").map (·.period.cycleNumber) = some 1 ∧
      (worldOf ((retryEngine.run "sub_1" lastDay).run
        (worldOf ((retryEngine.run "sub_1" lastDay).run lastPeriodWorld)))).calls.length = 2 := by
  refine ⟨⟨rfl, rfl, rfl⟩, rfl, ⟨by decide +kernel, lastPeriodSubscription, _, rfl, rfl, rfl⟩, ?_, ?_⟩
  · decide +kernel
  · decide +kernel

end Engine

end Billing
