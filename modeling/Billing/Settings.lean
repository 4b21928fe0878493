import Billing.Cycle.Basic

/-! # Engine settings

The settings of the billing engine, each with its default: currency and locale for new
amounts, the grace period after a failed charge and how many grace windows a subscription
gets, the gateway timeout, the batch concurrency, the proration method, the retry jitter,
and logging. Entries are named in any letter case, and unknown entries are ignored; every
entry is checked and all refusals are reported together. The ratio of the jitter is checked
against its upper bound first, so a NaN ratio is refused as not below 1. -/
namespace Billing

/-- Randomised spreading of retry times. -/
structure JitterSettings where
  enabled : Bool
  seed : Int
  ratio : Float
  deriving Inhabited

/-- Log levels. -/
inductive LogLevel where
  | debug
  | info
  | warning
  | error
  | critical
  deriving DecidableEq, Inhabited

/-- The name of a log level. -/
def LogLevel.name : LogLevel → String
  | .debug => "DEBUG"
  | .info => "INFO"
  | .warning => "WARNING"
  | .error => "ERROR"
  | .critical => "CRITICAL"

/-- Log levels by name. -/
def LogLevel.table : List (String × LogLevel) :=
  [.debug, .info, .warning, .error, .critical].map fun l => (l.name, l)

/-- The engine's settings. -/
structure Settings where
  defaultCurrency : String
  defaultLocale : String
  gracePeriodDays : Int
  maxGraceExtensions : Int
  gatewayTimeout : Float
  batchConcurrency : Int
  prorationMethod : ProrationMethod
  jitter : JitterSettings
  logLevel : LogLevel
  logFormat : String
  deriving Inhabited

namespace Settings

/-- The default settings. -/
def defaults : Settings :=
  ⟨"TWD", "zh_TW", 3, 1, 30.0, 10, .cadenceAverage, ⟨false, 0, 0.25⟩, .info, "json"⟩

/-- The refusals of a checked value. -/
def issuesOf {α : Type} : Checked α → List Issue
  | .ok _ => []
  | .error is => is

/-- A double of at least `lo`. -/
def floatAtLeast (lo : Float) (x : Float) : Except IssueKind Float :=
  if x ≥ lo then .ok x else .error .greaterThanEqual

/-- Checks the jitter settings: a ratio from 0 up to, not including, 1. -/
def checkJitter (v : Value) : Checked JitterSettings :=
  match v with
  | .dict _ =>
    let e := Checked.field "enabled" (Field.bool (Field.entry v "enabled" (.bool false)))
    let s := Checked.field "seed" (Field.int (Field.entry v "seed" (.int 0)))
    let r := Checked.field "ratio" (do
      let x ← Field.float (Field.entry v "ratio" (.float 0.25))
      if !(x < 1) then .error .lessThan
      else floatAtLeast 0 x)
    match e, s, r with
    | .ok e, .ok s, .ok r => .ok ⟨e, s, r⟩
    | _, _, _ => .error (issuesOf e ++ issuesOf s ++ issuesOf r)
  | _ => .error [⟨[], .modelType⟩]

/-- The entry of a setting, named in any letter case: the first entry whose name in lower
case is the setting's name. -/
def lookup? (record : Value) (name : String) : Option Value :=
  match record with
  | .dict fs => (fs.find? (fun e => Text.lower e.1 = name)).map (·.2)
  | _ => none

/-- Settings from a record of entries, named in any letter case; absent entries keep their
defaults. -/
def ofFields (v : Value) : Outcome Settings :=
  let d := defaults
  let get (k : String) (x : Value) := (lookup? v k).getD x
  let cur := Checked.field "default_currency" ((Field.str (get "default_currency" (.str d.defaultCurrency))).map Text.upper)
  let loc := Checked.field "default_locale" (Field.str (get "default_locale" (.str d.defaultLocale)))
  let grace := Checked.field "grace_period_days"
    (Field.int (get "grace_period_days" (.int d.gracePeriodDays)) >>= Field.atLeast 0)
  let ext := Checked.field "max_grace_extensions"
    (Field.int (get "max_grace_extensions" (.int d.maxGraceExtensions)) >>= Field.atLeast 0)
  let timeout := Checked.field "gateway_timeout_seconds" (do
    let x ← Field.float (get "gateway_timeout_seconds" (.float d.gatewayTimeout))
    if x > 0 then pure x else .error .greaterThan)
  let batch := Checked.field "batch_concurrency"
    (Field.int (get "batch_concurrency" (.int d.batchConcurrency)) >>= Field.atLeast 1)
  let method := Checked.field "proration_method"
    (Field.oneOf ProrationMethod.table (get "proration_method" (.str d.prorationMethod.name)))
  let jitter := Checked.under "retry_jitter"
    (match lookup? v "retry_jitter" with
     | some j => checkJitter j
     | none => .ok d.jitter)
  let level := Checked.field "log_level" (Field.oneOf LogLevel.table (get "log_level" (.str "INFO")))
  let format := Checked.field "log_format" (do
    let s ← Field.str (get "log_format" (.str d.logFormat))
    let s := Text.lower s
    if s = "json" ∨ s = "console" then pure s
    else .error (.rule ("log_format must be " ++ Text.quote "json" ++ " or " ++ Text.quote "console")))
  match cur, loc, grace, ext, timeout, batch, method, jitter, level, format with
  | .ok a, .ok b, .ok c, .ok e, .ok f, .ok g, .ok h, .ok i, .ok j, .ok k => .ok ⟨a, b, c, e, f, g, h, i, j, k⟩
  | _, _, _, _, _, _, _, _, _, _ =>
    .error (.invalid (issuesOf cur ++ issuesOf loc ++ issuesOf grace ++ issuesOf ext ++
      issuesOf timeout ++ issuesOf batch ++ issuesOf method ++ issuesOf jitter ++
      issuesOf level ++ issuesOf format))

/-- The record form of settings. -/
def toValue (s : Settings) : Value :=
  .dict [("default_currency", .str s.defaultCurrency), ("default_locale", .str s.defaultLocale),
    ("grace_period_days", .int s.gracePeriodDays), ("max_grace_extensions", .int s.maxGraceExtensions),
    ("gateway_timeout_seconds", .float s.gatewayTimeout), ("batch_concurrency", .int s.batchConcurrency),
    ("proration_method", .str s.prorationMethod.name),
    ("retry_jitter", .dict [("enabled", .bool s.jitter.enabled), ("seed", .int s.jitter.seed),
      ("ratio", .float s.jitter.ratio)]),
    ("log_level", .str s.logLevel.name), ("log_format", .str s.logFormat)]

end Settings

end Billing
