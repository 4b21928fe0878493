import Billing.Calendar.Date
import Billing.Calendar.DateTime
import Billing.Calendar.Iso
import Billing.Cycle.Basic
import Billing.Cycle.Period
import Billing.Data.Field
import Billing.Data.Numeral
import Billing.Data.Report
import Billing.Data.Value
import Billing.Decimal.Basic
import Billing.Decimal.Shortest
import Billing.Decimal.Text
import Billing.Engine.Run
import Billing.Engine.Session
import Billing.Engine.World
import Billing.Error
import Billing.ErrorArguments
import Billing.Hash.Sha1
import Billing.Hash.Sha512
import Billing.Hash.Uuid
import Billing.Locale.Catalog
import Billing.Locale.Conventions
import Billing.Locale.Tag
import Billing.Money.Basic
import Billing.Money.Currency
import Billing.Money.Defaults
import Billing.Money.Format
import Billing.Payment.Attempt
import Billing.Proofs.Engine.Alone
import Billing.Proofs.Engine.Paths
import Billing.Proofs.Engine.Repository
import Billing.Retry.Failure
import Billing.Retry.Policy
import Billing.Retry.Twister
import Billing.Settings
import Billing.Status.Payment
import Billing.Status.Subscription
import Billing.Status.Transition
import Billing.Subscription.Lifecycle
import Billing.Subscription.Snapshot
import Billing.Text.Blank
import Billing.Text.Case
import Billing.Text.Digit
import Billing.Text.Letter
import Billing.Text.Printable
import Billing.Proofs.Engine.Values
import Billing.Proofs.Engine.Settlement
import Billing.Proofs.Engine.Dunning
import Billing.Proofs.Calendar.Ordinal
import Billing.Proofs.Calendar.Periods
import Billing.Proofs.Engine.Refusals
import Billing.Proofs.Engine.Validity
import Billing.Proofs.Engine.LegalMoves
import Billing.Proofs.Status.History
import Billing.Proofs.Engine.History
import Billing.Proofs.Payment.Refunds
import Billing.Proofs.Payment.Validity
import Billing.Proofs.Engine.Snapshots
import Billing.Proofs.Engine.Submissions
import Billing.Proofs.Calendar.Tiling
import Billing.Proofs.Engine.Alignment
import Billing.Proofs.Retry.Schedule
import Billing.Proofs.Engine.Outcomes
import Billing.Proofs.Engine.Polling
import Billing.Proofs.Decimal.Rounding
import Billing.Proofs.Money.Allocation
import Billing.Proofs.Engine.ErrorKinds
import Billing.Proofs.Engine.Failures
import Billing.Proofs.Engine.Charges
import Billing.Proofs.Retry.Gates
import Billing.Proofs.Engine.Selection
import Billing.Proofs.Decimal.Nearest
import Billing.Proofs.Decimal.Correctness
import Billing.Proofs.Decimal.Sum
import Billing.Proofs.Money.Arithmetic
import Billing.Proofs.Calendar.Proration
import Billing.Proofs.Money.TextForm
import Billing.Proofs.Money.MajorUnits
import Billing.Proofs.Decimal.Order
import Billing.Proofs.Money.Breakdown
import Billing.Proofs.Engine.Frame
import Billing.Proofs.Retry.Doubling
import Billing.Proofs.Retry.Delays
