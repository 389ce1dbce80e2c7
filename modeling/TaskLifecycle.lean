import TaskLifecycle.Config.Basic
import TaskLifecycle.Config.Form
import TaskLifecycle.Config.Layers
import TaskLifecycle.Fault
import TaskLifecycle.Host.Basic
import TaskLifecycle.Host.Ipv4
import TaskLifecycle.Host.Ipv6
import TaskLifecycle.Host.Name
import TaskLifecycle.Host.Punycode
import TaskLifecycle.Identifier
import TaskLifecycle.Input
import TaskLifecycle.Json.Basic
import TaskLifecycle.Json.Clean
import TaskLifecycle.Json.Form
import TaskLifecycle.Json.Limits
import TaskLifecycle.Json.Printer
import TaskLifecycle.Json.Reader
import TaskLifecycle.Log.Basic
import TaskLifecycle.Log.Events
import TaskLifecycle.Log.Filter
import TaskLifecycle.Log.Pattern.Basic
import TaskLifecycle.Log.Pattern.Reader
import TaskLifecycle.Moment.Basic
import TaskLifecycle.Moment.Text
import TaskLifecycle.Number.Double
import TaskLifecycle.Number.Extended
import TaskLifecycle.Number.Shortest
import TaskLifecycle.Proofs.History
import TaskLifecycle.Proofs.Rules
import TaskLifecycle.Proofs.Run
import TaskLifecycle.Query.Filter
import TaskLifecycle.Query.Form
import TaskLifecycle.Query.Listing
import TaskLifecycle.Setting
import TaskLifecycle.Sql
import TaskLifecycle.Status
import TaskLifecycle.Store
import TaskLifecycle.Task.Basic
import TaskLifecycle.Task.Change
import TaskLifecycle.Task.Draft
import TaskLifecycle.Task.Form
import TaskLifecycle.Text.Blank
import TaskLifecycle.Text.Decimal
import TaskLifecycle.Toml.Document
import TaskLifecycle.Toml.Scalar
import TaskLifecycle.Toml.Text
import TaskLifecycle.Transition
import TaskLifecycle.Unicode.Composition
import TaskLifecycle.Unicode.Direction
import TaskLifecycle.Unicode.Hidden
import TaskLifecycle.Unicode.HostMapping
import TaskLifecycle.Unicode.Joining
import TaskLifecycle.Unicode.Letter
import TaskLifecycle.Unicode.Mark
import TaskLifecycle.Unicode.Runs
import TaskLifecycle.Url.Basic
import TaskLifecycle.Url.Path
import TaskLifecycle.Url.Percent
import TaskLifecycle.Proofs.Timeline
import TaskLifecycle.Proofs.Reason
import TaskLifecycle.Proofs.Extract
import TaskLifecycle.Proofs.Decimal
import TaskLifecycle.Proofs.Identifier
import TaskLifecycle.Worker
import TaskLifecycle.Proofs.Naming
import TaskLifecycle.Proofs.Freshness
import TaskLifecycle.Proofs.Race
import TaskLifecycle.Proofs.Course
import TaskLifecycle.Proofs.Bytes
import TaskLifecycle.Proofs.Pages
import TaskLifecycle.Proofs.Isolation
import TaskLifecycle.Proofs.Goal
import TaskLifecycle.Proofs.Replay
import TaskLifecycle.Proofs.Clean
import TaskLifecycle.Proofs.Address
import TaskLifecycle.Proofs.Texts
import TaskLifecycle.Proofs.Sql.Token
import TaskLifecycle.Proofs.Sql.Template
import TaskLifecycle.Proofs.Sql.Meaning
import TaskLifecycle.Proofs.Sql.Agreement
import TaskLifecycle.Proofs.Json.Size
import TaskLifecycle.Proofs.Json.Limits
import TaskLifecycle.Proofs.Admission
import TaskLifecycle.Proofs.Browsing
import TaskLifecycle.Proofs.Prospect
import TaskLifecycle.Database
import TaskLifecycle.Proofs.Requests
import TaskLifecycle.Proofs.Frame
import TaskLifecycle.Proofs.Interleaving
import TaskLifecycle.Proofs.Sql.Placeholders
import TaskLifecycle.Proofs.Moment
import TaskLifecycle.Proofs.Json.Form
import TaskLifecycle.Proofs.Forms
import TaskLifecycle.Proofs.Json.Normal
import TaskLifecycle.Proofs.Preparing
import TaskLifecycle.Proofs.Json.Walk
import TaskLifecycle.Proofs.Acceptance
import TaskLifecycle.Proofs.Toml.Distinct
import TaskLifecycle.Proofs.Setting
import TaskLifecycle.Proofs.Config.Leaves
import TaskLifecycle.Proofs.Config.Layers
import TaskLifecycle.Proofs.Json.Image
import TaskLifecycle.Proofs.Json.Reading
import TaskLifecycle.Proofs.Succession
import TaskLifecycle.Proofs.Repetition
import TaskLifecycle.Proofs.Identifier.Fields
import TaskLifecycle.Proofs.Identifier.Reading
import TaskLifecycle.Proofs.Lookup
import TaskLifecycle.Proofs.Number
import TaskLifecycle.Proofs.Toml.Numeral
import TaskLifecycle.Proofs.Toml.Refusal
import TaskLifecycle.Proofs.Toml.Line
import TaskLifecycle.Proofs.Config.Limits
