import TrafficTrace.Assoc
import TrafficTrace.Backend
import TrafficTrace.Backend.Script
import TrafficTrace.Collector.Batch
import TrafficTrace.Collector.BatchPolicy
import TrafficTrace.Collector.Chain
import TrafficTrace.Collector.Channel
import TrafficTrace.Collector.Counts
import TrafficTrace.Collector.Error
import TrafficTrace.Collector.Feed
import TrafficTrace.CommandLine.Basic
import TrafficTrace.CommandLine.Reader
import TrafficTrace.CommandLine.Usage
import TrafficTrace.Config.File
import TrafficTrace.Config.Layers
import TrafficTrace.Config.Loading
import TrafficTrace.Config.Settings
import TrafficTrace.Credentials
import TrafficTrace.Daemon.Basic
import TrafficTrace.Daemon.Config
import TrafficTrace.Daemon.LongPoll
import TrafficTrace.Daemon.PollState
import TrafficTrace.Daemon.Script
import TrafficTrace.Daemon.Session
import TrafficTrace.Digest.Sha256
import TrafficTrace.Document.Node
import TrafficTrace.Document.Plain
import TrafficTrace.Document.Record
import TrafficTrace.Event
import TrafficTrace.Exclusion
import TrafficTrace.Fault
import TrafficTrace.FileTree
import TrafficTrace.Identifier
import TrafficTrace.Json.Basic
import TrafficTrace.Json.Numeral
import TrafficTrace.Json.Printer
import TrafficTrace.Json.Reader
import TrafficTrace.Keyed
import TrafficTrace.Logging
import TrafficTrace.Main
import TrafficTrace.Metrics.Basic
import TrafficTrace.Metrics.Histogram
import TrafficTrace.Metrics.Report
import TrafficTrace.Number.Binary64
import TrafficTrace.Number.Shortest
import TrafficTrace.Pattern.Bracket
import TrafficTrace.Pattern.ByteRange
import TrafficTrace.Pattern.Category
import TrafficTrace.Pattern.Class
import TrafficTrace.Pattern.Escape
import TrafficTrace.Pattern.Expr
import TrafficTrace.Pattern.Fault
import TrafficTrace.Pattern.Matching
import TrafficTrace.Pattern.Parser
import TrafficTrace.Pattern.Property
import TrafficTrace.Pattern.Script
import TrafficTrace.Pattern.Segment
import TrafficTrace.Pattern.Size
import TrafficTrace.Pattern.Trait
import TrafficTrace.Program.Arguments
import TrafficTrace.Program.Basic
import TrafficTrace.Program.EventLines
import TrafficTrace.Program.Needs
import TrafficTrace.Program.Report
import TrafficTrace.Program.Run
import TrafficTrace.Program.Upload
import TrafficTrace.Proofs.Backend.CallLog
import TrafficTrace.Proofs.Collector.Conjunction
import TrafficTrace.Proofs.Collector.Content
import TrafficTrace.Proofs.Collector.Finality
import TrafficTrace.Proofs.Collector.Ledger
import TrafficTrace.Proofs.Collector.Requests
import TrafficTrace.Proofs.Collector.Schedule
import TrafficTrace.Proofs.Collector.Storage
import TrafficTrace.Proofs.Collector.Tally
import TrafficTrace.Proofs.Collector.Timing
import TrafficTrace.Proofs.Collector.Waiting
import TrafficTrace.Proofs.Config.Concealment
import TrafficTrace.Proofs.Config.Files
import TrafficTrace.Proofs.Config.Layering
import TrafficTrace.Proofs.Daemon.Convergence
import TrafficTrace.Proofs.Daemon.Evidence
import TrafficTrace.Proofs.Daemon.FailureRuns
import TrafficTrace.Proofs.Daemon.Replay
import TrafficTrace.Proofs.Daemon.Roster
import TrafficTrace.Proofs.Daemon.Shutdown
import TrafficTrace.Proofs.Daemon.Timings
import TrafficTrace.Proofs.Daemon.Transition
import TrafficTrace.Proofs.Document.Stability
import TrafficTrace.Proofs.Host.Bracketed
import TrafficTrace.Proofs.Host.Spelling
import TrafficTrace.Proofs.Host.Tracker
import TrafficTrace.Proofs.Json.Integers
import TrafficTrace.Proofs.Json.Reading
import TrafficTrace.Proofs.Json.RoundTrip
import TrafficTrace.Proofs.Json.Strings
import TrafficTrace.Proofs.Json.Unambiguous
import TrafficTrace.Proofs.Metrics.Averages
import TrafficTrace.Proofs.Metrics.Histogram
import TrafficTrace.Proofs.Number.Digits
import TrafficTrace.Proofs.Program.EventLines
import TrafficTrace.Proofs.Program.Lookup
import TrafficTrace.Proofs.Program.Upload
import TrafficTrace.Proofs.Resolve.CacheHistory
import TrafficTrace.Proofs.Resolve.Eviction
import TrafficTrace.Proofs.Resolve.History
import TrafficTrace.Proofs.Sync.Accounting
import TrafficTrace.Proofs.Sync.Creation
import TrafficTrace.Proofs.Sync.Decision
import TrafficTrace.Proofs.Sync.Overlay
import TrafficTrace.Proofs.Sync.Pipeline
import TrafficTrace.Proofs.Sync.Refusal
import TrafficTrace.Proofs.Sync.Streaming
import TrafficTrace.Proofs.Sync.Target
import TrafficTrace.Proofs.Sync.Uploader
import TrafficTrace.Proofs.Text.Casing
import TrafficTrace.Proofs.Text.Hexadecimal
import TrafficTrace.Proofs.Time.Reading
import TrafficTrace.Proofs.Time.Written
import TrafficTrace.Proofs.Transport.Backoff
import TrafficTrace.Proofs.Transport.Bookkeeping
import TrafficTrace.Proofs.Transport.Resubmission
import TrafficTrace.Proofs.Transport.Retrying
import TrafficTrace.Proofs.Transport.Targets
import TrafficTrace.Proofs.Url.Form
import TrafficTrace.Proofs.Url.Joining
import TrafficTrace.Proofs.Wire.Identifiers
import TrafficTrace.Proofs.Wire.Stability
import TrafficTrace.Proofs.Wire.TagFilters
import TrafficTrace.Resolve.Cache
import TrafficTrace.Resolve.Error
import TrafficTrace.Resolve.Resolver
import TrafficTrace.Retry
import TrafficTrace.Sync.Error
import TrafficTrace.Sync.TraceName
import TrafficTrace.Sync.Upload
import TrafficTrace.Tag
import TrafficTrace.Text.Age
import TrafficTrace.Text.Alphabetic
import TrafficTrace.Text.Blank
import TrafficTrace.Text.Category
import TrafficTrace.Text.CharSet
import TrafficTrace.Text.CombiningClass
import TrafficTrace.Text.Composition
import TrafficTrace.Text.Decomposition
import TrafficTrace.Text.Direction
import TrafficTrace.Text.Fold
import TrafficTrace.Text.Hex
import TrafficTrace.Text.Joining
import TrafficTrace.Text.Letter
import TrafficTrace.Text.Lowercase
import TrafficTrace.Text.Quoted
import TrafficTrace.Text.RunTable
import TrafficTrace.Text.Utf8
import TrafficTrace.Time.Duration
import TrafficTrace.Time.Timestamp
import TrafficTrace.Tracker
import TrafficTrace.Transport.Address
import TrafficTrace.Transport.Basic
import TrafficTrace.Transport.Calls
import TrafficTrace.Transport.Client
import TrafficTrace.Transport.Error
import TrafficTrace.Transport.Failure
import TrafficTrace.Transport.Network
import TrafficTrace.Transport.Request
import TrafficTrace.Transport.Settings
import TrafficTrace.Url.Basic
import TrafficTrace.Url.DomainName
import TrafficTrace.Url.Host
import TrafficTrace.Url.Percent
import TrafficTrace.Url.Punycode
import TrafficTrace.Url.Reader
import TrafficTrace.Uuid
import TrafficTrace.Wire.Catalog
import TrafficTrace.Wire.Service
import TrafficTrace.Wire.Spec
import TrafficTrace.Wire.Trace
import TrafficTrace.Yaml.Reader
import TrafficTrace.Yaml.Scalar
import TrafficTrace.Yaml.Spot
import TrafficTrace.Yaml.Tag
import TrafficTrace.Yaml.Token
import TrafficTrace.Yaml.Tree
