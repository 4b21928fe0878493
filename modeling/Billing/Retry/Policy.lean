import Billing.Data.Field
import Billing.Decimal.Shortest
import Billing.Retry.Failure
import Billing.Retry.Twister

/-! # Retry policies

A failure category has a bounded retry schedule: retriable failures back off exponentially
from 5 minutes up to an hour, five times; delayed ones wait an hour, three times; the rest
are not retried. A schedule's delay for retry `n` (counted from 1) is the base times `n`
(linear), the base times the multiplier to the power `n - 1` (exponential, in double
arithmetic and then truncated), or the base (fixed), capped by the maximum delay. On top
of a delay, a seeded jitter may spread retries by up to a ratio of the delay either way;
the same seed and retry number always give the same spread. -/
namespace Billing

/-- How retry delays grow with the retry number. -/
inductive RetryStrategy where
  | none
  | fixedInterval
  | linear
  | exponentialBackoff
  deriving DecidableEq, Inhabited

namespace RetryStrategy

/-- The name of a strategy. -/
def name : RetryStrategy → String
  | .none => "NONE"
  | .fixedInterval => "FIXED_INTERVAL"
  | .linear => "LINEAR"
  | .exponentialBackoff => "EXPONENTIAL_BACKOFF"

/-- Strategies by name. -/
def table : List (String × RetryStrategy) :=
  [.none, .fixedInterval, .linear, .exponentialBackoff].map fun s => (s.name, s)

end RetryStrategy

/-- The shape of a retry schedule. -/
structure RetryConfig where
  strategy : RetryStrategy
  maxRetries : Int
  baseDelay : Int
  maxDelay : Option Int
  multiplier : Float
  deriving Inhabited

namespace RetryConfig

/-- Checks a schedule's fields (counts and delays at least 0, a positive multiplier) and
that the cap is not below the base delay. -/
def check (strategy maxRetries base cap multiplier : Value) : Checked RetryConfig := do
  let (s, (n, (b, (c, m)))) ← Checked.both (Checked.field "strategy" (Field.oneOf RetryStrategy.table strategy))
    (Checked.both (Checked.field "max_retries" (Field.int maxRetries >>= Field.atLeast 0))
      (Checked.both (Checked.field "base_delay_minutes" (Field.int base >>= Field.atLeast 0))
        (Checked.both (Checked.field "max_delay_minutes" (do
            match ← Field.optInt cap with
            | some c => some <$> Field.atLeast 0 c
            | none => pure none))
          (Checked.field "multiplier" (do
            let m ← Field.float multiplier
            if m > 0 then pure m else .error .greaterThan)))))
  let ok := match c with
    | some c => decide (b ≤ c)
    | none => true
  Checked.rule ok "max_delay_minutes cannot be less than base_delay_minutes" ⟨s, n, b, c, m⟩

/-- A schedule from a record; `strategy`, `max_retries` and `base_delay_minutes` are
required, the cap is absent and the multiplier 2 by default. -/
def ofRecord (r : Value) : Outcome RetryConfig :=
  let need (k : String) : Except IssueKind Value := Field.required r k
  let fields := Checked.both (Checked.field "strategy" (need "strategy"))
    (Checked.both (Checked.field "max_retries" (need "max_retries"))
      (Checked.field "base_delay_minutes" (need "base_delay_minutes")))
  match fields with
  | .ok (s, n, b) =>
    (check s n b (Field.entry r "max_delay_minutes" .null) (Field.entry r "multiplier" (.float 2.0))).run
  | .error missing =>
    -- the other fields are still checked, their refusals listed with the missing ones
    let others := check ((r.get? "strategy").getD (.str "NONE")) ((r.get? "max_retries").getD (.int 0))
      ((r.get? "base_delay_minutes").getD (.int 0)) (Field.entry r "max_delay_minutes" .null)
      (Field.entry r "multiplier" (.float 2.0))
    let extra := match others with
      | .ok _ => []
      | .error is => is.filter fun i => !missing.any fun m => m.loc = i.loc
    .error (.invalid (sortIssues (missing ++ extra)))
where
  /-- Field refusals in the order of the fields. -/
  sortIssues (is : List Issue) : List Issue :=
    let order := ["strategy", "max_retries", "base_delay_minutes", "max_delay_minutes", "multiplier"]
    order.flatMap fun k => is.filter fun i => i.loc = [k]

/-- Retriable failures: exponential from 5 minutes, doubling, at most an hour, 5 retries. -/
def retriable : RetryConfig := ⟨.exponentialBackoff, 5, 5, some 60, 2.0⟩

/-- Failures retried later: every hour, 3 retries. -/
def delayed : RetryConfig := ⟨.fixedInterval, 3, 60, some 1440, 2.0⟩

/-- Failures never retried. -/
def never : RetryConfig := ⟨.none, 0, 0, none, 2.0⟩

/-- The schedule of a category. -/
def ofCategory : FailureCategory → RetryConfig
  | .retriable => retriable
  | .delayedRetry => delayed
  | .nonRetriable => never

end RetryConfig

/-- The double `±m · 2^e`, for a value that a double holds exactly: a significand below
`2^53`, an exponent from `-1074`, and a value below `2^1024`. -/
def Float.ofExact (neg : Bool) (m : Nat) (e : Int) : Float :=
  let sign := if neg then Nat.pow 2 63 else 0
  let bits :=
    if m = 0 then sign
    else if -1022 ≤ e + m.log2 then
      -- a normal double: the significand is moved up to 53 bits, its top bit left implicit
      let shift := 52 - m.log2
      sign + (e - shift + 1075).toNat * Nat.pow 2 52 + (m * Nat.pow 2 shift - Nat.pow 2 52)
    else sign + m * Nat.pow 2 (e + 1074).toNat
  Float.ofBits (UInt64.ofNat bits)

/-- The infinity of a sign, as a double. -/
def Float.infinity (neg : Bool) : Float :=
  Float.ofBits (if neg then 0xFFF0000000000000 else 0x7FF0000000000000)

/-- The power `x ^ n` when a double holds it exactly, and an infinity when the exact power is
`2^1024` or more. Only the odd part of the significand is raised, its powers of two go to the
exponent; an odd part of 3 or more passes `2^53` from the 34th power on. A library power whose
error is below one unit in the last place returns exactly this value: a power from `2^1024` on
lies a unit or more beyond the largest double. -/
def Float.exactPow? (x : Float) (n : Nat) : Option Float :=
  match Float.parts x with
  | .finite neg m e _ =>
    if m = 0 then none
    else
      let low := m - (m &&& (m - 1))
      let odd := m / low
      if odd ≠ 1 ∧ 33 < n then none
      else
        let p := Nat.pow odd n
        let k := (e + low.log2) * n
        let neg := neg && n % 2 == 1
        if p < Nat.pow 2 53 ∧ -1074 ≤ k ∧ k + p.log2 < 1024 then some (Float.ofExact neg p k)
        else if 1024 ≤ k + p.log2 then some (Float.infinity neg)
        else none
  | _ => none

/-- A retry schedule bound to a failure category. -/
structure RetryPolicy where
  category : FailureCategory
  config : RetryConfig
  deriving Inhabited

namespace RetryPolicy

/-- The policy of a category. -/
def ofCategory (c : FailureCategory) : RetryPolicy := ⟨c, RetryConfig.ofCategory c⟩

/-- The number of retries the policy allows. -/
def maxRetries (p : RetryPolicy) : Int := p.config.maxRetries

/-- Whether another retry may follow `attempt` retries already made. -/
def canRetry (p : RetryPolicy) (attempt : Int) : Bool :=
  p.config.strategy ≠ .none && decide (attempt < p.config.maxRetries)

/-- The exponential delay: the base times the multiplier to the power `n`, in doubles. The
exponent and then the base must fit a double. The power is 1 for `n = 0` or a multiplier of
1, and infinite for an infinite multiplier; otherwise a finite power that overflows is an
error. -/
def backoff (base : Int) (multiplier : Float) (n : Nat) : Outcome Float := do
  let w ← Numeral.toDouble n
  let power ←
    if n = 0 then pure 1.0
    else if multiplier.isInf then pure multiplier
    else if multiplier == 1.0 then pure 1.0
    else
      let p := (Float.exactPow? multiplier n).getD (Float.pow multiplier w)
      if p.isInf then .error .floatOverflow else pure p
  pure ((← Numeral.toDouble base) * power)

/-- The delay in minutes before retry number `attempt` (from 1), capped and truncated. -/
def delay (p : RetryPolicy) (attempt : Int) : Outcome Int := do
  let cfg := p.config
  let capInt (d : Int) : Int := match cfg.maxDelay with
    | some c => if c < d then c else d
    | none => d
  match cfg.strategy with
  | .linear => pure (capInt (cfg.baseDelay * attempt))
  | .fixedInterval => pure (capInt cfg.baseDelay)
  | .none => pure (capInt 0)
  | .exponentialBackoff =>
    let x ← backoff cfg.baseDelay cfg.multiplier (attempt - 1).toNat
    match cfg.maxDelay with
    | some c => if Float.compareInt x c = .gt then pure c else truncate x
    | none => truncate x
where
  /-- The integer part of a double delay. -/
  truncate (x : Float) : Outcome Int :=
    match Float.truncInt? x with
    | some n => .ok n
    | none => .error (if x.isNaN then .floatNanToInteger else .floatInfinityToInteger)

/-- When the next retry after `attempt` retries is due, or `none` once retries are over. -/
def nextAt (p : RetryPolicy) (attempt : Int) (now : DateTime) : Outcome (Option DateTime) := do
  if !p.canRetry attempt then pure none
  else pure (some (← now.addMinutes (← p.delay (attempt + 1))))

/-- The delays of all retries the policy allows. -/
def schedule (p : RetryPolicy) : Outcome (List Int) :=
  (List.range p.maxRetries.toNat).mapM fun (i : Nat) => p.delay ((i : Int) + 1)

/-- The sum of the schedule. -/
def totalDelay (p : RetryPolicy) : Outcome Int := do
  pure ((← p.schedule).foldr (· + ·) 0)

theorem canRetry_never (attempt : Int) : (ofCategory .nonRetriable).canRetry attempt = false := rfl

end RetryPolicy

/-- A seeded spread of retry delays by up to `ratio` of the delay either way. The seed and
the ratio are kept as they were given: the seed only as text for the generator, the ratio
as a number from 0 up to, not including, 1, whose kind (whole or double) decides the kind of
the spread. -/
structure RetryJitter where
  seed : Value
  ratio : Value

namespace RetryJitter

/-- Whether a ratio lies from 0 up to, not including, 1; a ratio that is no number does not
compare with 0. -/
def checkRatio : Value → Outcome Bool
  | .bool b => .ok !b
  | .int n => .ok (n = 0)
  | .float x => .ok (0 ≤ x ∧ x < 1)
  | other => .error (.unordered "<=" "int" other.kindName)

/-- A jitter with a ratio from 0 up to, not including, 1. -/
def make (seed ratio : Value) : Outcome RetryJitter := do
  if ← checkRatio ratio then pure ⟨seed, ratio⟩ else throw .jitterRatio

/-- The spread of a delay: a whole number, a double, or an empty run of text or items when a
run is repeated a whole zero times. -/
inductive Spread where
  | whole (n : Int)
  | double (x : Float)
  | emptyRun (kind : String)

/-- A whole number as a double, refused beyond the range of doubles. -/
def wholeDouble (n : Int) : Outcome Float :=
  if Numeral.fitsDouble n then .ok (Float.ofInt n) else .error .intTooLargeForFloat

/-- A delay as a number, for the delays that are numbers. -/
def number? : Value → Option (Int ⊕ Float)
  | .bool b => some (.inl (if b then 1 else 0))
  | .int n => some (.inl n)
  | .float x => some (.inr x)
  | _ => none

/-- The delay times the ratio: whole when both are whole, a double when either is one, a run
repeated when the delay is text or a list and the ratio whole, and refused otherwise. -/
def spreadOf (delay ratio : Value) : Outcome Spread := do
  match number? delay, number? ratio with
  | some (.inl d), some (.inl r) => pure (.whole (d * r))
  | some (.inl d), some (.inr r) => pure (.double ((← wholeDouble d) * r))
  | some (.inr d), some (.inl r) => pure (.double (d * (← wholeDouble r)))
  | some (.inr d), some (.inr r) => pure (.double (d * r))
  | none, some (.inl _) =>
    match delay with
    | .str _ | .list _ => pure (.emptyRun delay.kindName)
    | _ => throw (.operands "*" delay.kindName ratio.kindName)
  | none, _ =>
    match delay with
    | .str _ | .list _ => throw (.sequenceTimes ratio.kindName)
    | _ => throw (.operands "*" delay.kindName ratio.kindName)
  | some _, none => throw (.operands "*" delay.kindName ratio.kindName)

/-- A uniform draw between minus and plus the spread. -/
def offset (g : Twister) : Spread → Outcome Float
  | .whole n => do
    let lo ← wholeDouble (-n)
    let width ← wholeDouble (2 * n)
    pure (lo + width * g.unit.1)
  | .double x => pure (g.uniform (-x) x).1
  | .emptyRun kind => throw (.unaryOperand "-" kind)

/-- The delay moved by a uniform offset within the spread, drawn from a generator seeded by
`seed:attempt`; never below one minute, and no delay stays none. -/
def apply (j : RetryJitter) (delay attempt : Value) : Outcome Float := do
  let g := Twister.ofText (j.seed.text ++ ":" ++ attempt.text)
  let spread ← spreadOf delay j.ratio
  if delay.isFalsy then pure 0.0
  else
    let off ← offset g spread
    let x ← match number? delay with
      | some (.inl d) => do pure ((← wholeDouble d) + off)
      | some (.inr d) => pure (d + off)
      | none => throw (.operands "+" delay.kindName "float")
    pure (if Float.compareInt x 1 = .gt then x else 1.0)

end RetryJitter

/-- Why a retry was or was not scheduled. -/
inductive RetryReason where
  | scheduled
  | exhausted
  | notRetriable
  /-- A reason given by a caller. -/
  | other (text : String)
  deriving DecidableEq, Inhabited

/-- The name of a reason. -/
def RetryReason.name : RetryReason → String
  | .scheduled => "retry_scheduled"
  | .exhausted => "retries_exhausted"
  | .notRetriable => "failure_not_retriable"
  | .other text => text

/-- The outcome of consulting the policy for one failure. -/
structure RetryDecision where
  shouldRetry : Bool
  category : FailureCategory
  attempt : Int
  maxRetries : Int
  nextAt : Option DateTime
  strategy : RetryStrategy
  reason : RetryReason
  deriving Inhabited

namespace RetryDecision

/-- A decision, refused when the number of retries made is negative. -/
def make (should : Bool) (c : FailureCategory) (attempt maxRetries : Int) (next : Option DateTime)
    (s : RetryStrategy) (r : RetryReason) : Outcome RetryDecision :=
  if attempt < 0 then .error (Error.issue ["attempt_number"] .greaterThanEqual)
  else if maxRetries < 0 then .error (Error.issue ["max_retries"] .greaterThanEqual)
  else .ok ⟨should, c, attempt, maxRetries, next, s, r⟩

/-- The record form of a decision. -/
def toValue (d : RetryDecision) : Value :=
  .dict [("should_retry", .bool d.shouldRetry), ("category", .str d.category.name),
    ("attempt_number", .int d.attempt), ("max_retries", .int d.maxRetries),
    ("next_retry_at", match d.nextAt with
      | some t => .str t.text
      | none => .null),
    ("strategy", .str d.strategy.name), ("reason", .str d.reason.name)]

end RetryDecision

/-- Whether a failure after `attempt` retries gets another one, and when: the policy's
delay, spread by the jitter when there is one. -/
def evaluateRetry (c : FailureCategory) (attempt : Int) (now : DateTime) (jitter : Option RetryJitter) :
    Outcome RetryDecision := do
  let p := RetryPolicy.ofCategory c
  match ← p.nextAt attempt now with
  | none =>
    let reason := if p.config.strategy = .none then RetryReason.notRetriable else .exhausted
    RetryDecision.make false c attempt p.maxRetries none p.config.strategy reason
  | some next =>
    let next ← match jitter with
      | some j => do
        let d ← p.delay (attempt + 1)
        now.addFloatMinutes (← j.apply (.int d) (.int (attempt + 1)))
      | none => pure next
    RetryDecision.make true c attempt p.maxRetries (some next) p.config.strategy .scheduled

end Billing
