import CardPayments.Attempt
import CardPayments.Bag
import CardPayments.Binary64
import CardPayments.Checked
import CardPayments.DatabaseUrl
import CardPayments.Decimal.Basic
import CardPayments.Decimal.Rounding
import CardPayments.Decimal.Text
import CardPayments.Engine.Form
import CardPayments.Engine.Transaction
import CardPayments.Engine.UnitOfWork
import CardPayments.Engine.World
import CardPayments.ErrorCode
import CardPayments.Fault
import CardPayments.Gateway.Call
import CardPayments.Gateway.Response
import CardPayments.HostedPage
import CardPayments.Info
import CardPayments.Json.Printer
import CardPayments.Json.Reader
import CardPayments.Json.Token
import CardPayments.MinorUnit
import CardPayments.Moment
import CardPayments.Moment.Iso
import CardPayments.Notification.Intake
import CardPayments.Notification.Item
import CardPayments.Payment.Data
import CardPayments.Payment.Fields
import CardPayments.Payment.Mapping
import CardPayments.Proofs.Acceptance
import CardPayments.Proofs.Affirmed
import CardPayments.Proofs.Bag
import CardPayments.Proofs.Engine.AppendOnly
import CardPayments.Proofs.Engine.AtMostOnce
import CardPayments.Proofs.Engine.Blame
import CardPayments.Proofs.Engine.Call
import CardPayments.Proofs.Engine.Course
import CardPayments.Proofs.Engine.Effect
import CardPayments.Proofs.Engine.ErrorClass
import CardPayments.Proofs.Engine.FollowUp
import CardPayments.Proofs.Engine.Growth
import CardPayments.Proofs.Engine.HostedForm
import CardPayments.Proofs.Engine.Interference
import CardPayments.Proofs.Engine.Laws
import CardPayments.Proofs.Engine.Lockstep
import CardPayments.Proofs.Engine.Operation
import CardPayments.Proofs.Engine.Precedence
import CardPayments.Proofs.Engine.Progress
import CardPayments.Proofs.Engine.Query
import CardPayments.Proofs.Engine.Reentry
import CardPayments.Proofs.Engine.Resumption
import CardPayments.Proofs.Engine.Run
import CardPayments.Proofs.ErrorCode
import CardPayments.Proofs.Kept
import CardPayments.Proofs.Merge
import CardPayments.Proofs.Notification.Delivery
import CardPayments.Proofs.Notification.HostedPage
import CardPayments.Proofs.Notification.Item
import CardPayments.Proofs.Notification.Redelivery
import CardPayments.Proofs.Notification.Steering
import CardPayments.Proofs.Nulls
import CardPayments.Proofs.Precedence
import CardPayments.Proofs.Readable
import CardPayments.Proofs.Record
import CardPayments.Proofs.Redaction
import CardPayments.Proofs.Replay
import CardPayments.Proofs.Separation
import CardPayments.Proofs.Settings.Country
import CardPayments.Proofs.Settings.Origin
import CardPayments.Proofs.Store
import CardPayments.Proofs.Text.Letter
import CardPayments.Property
import CardPayments.Provider
import CardPayments.Record
import CardPayments.Redaction
import CardPayments.Routing
import CardPayments.Sandbox.Gateway
import CardPayments.Settings.Application
import CardPayments.Settings.Environment
import CardPayments.Settings.Gateway
import CardPayments.Status
import CardPayments.Store
import CardPayments.Store.Session
import CardPayments.Text.Blank
import CardPayments.Text.Case
import CardPayments.Text.Digit
import CardPayments.Text.Letter
import CardPayments.Text.Numeral
import CardPayments.Text.Percent
import CardPayments.Text.Printable
import CardPayments.Text.Quoted
import CardPayments.Text.Range
import CardPayments.Value
import CardPayments.Proofs.Decimal.Rounding
import CardPayments.Proofs.MinorUnit
import CardPayments.Proofs.Json.Document
import CardPayments.Proofs.Json.Scanning
import CardPayments.Proofs.Json.Reading
import CardPayments.Proofs.Json.Numeral
import CardPayments.Proofs.Checked
import CardPayments.Proofs.Notification.Extras
import CardPayments.Proofs.Notification.Amount
import CardPayments.Proofs.Notification.Batch
import CardPayments.Proofs.Json.Spelling
import CardPayments.Proofs.Notification.Report
import CardPayments.Proofs.Notification.RoundTrip
import CardPayments.Proofs.FormFields
import CardPayments.Proofs.MergeSequence
import CardPayments.Proofs.Engine.SplitForm
