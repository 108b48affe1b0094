import ChangeGate.Ci.Address
import ChangeGate.Ci.Build
import ChangeGate.Ci.Listing
import ChangeGate.Ci.Stale
import ChangeGate.CommandLine.Arguments
import ChangeGate.CommandLine.Directive
import ChangeGate.CommandLine.Filter
import ChangeGate.CommandLine.LogLine
import ChangeGate.CommandLine.Options
import ChangeGate.CommandLine.Run
import ChangeGate.Failure
import ChangeGate.Http.Client
import ChangeGate.Http.Framing
import ChangeGate.Http.Message
import ChangeGate.Json.Decode
import ChangeGate.Json.Layout
import ChangeGate.Json.Number
import ChangeGate.Json.Printer
import ChangeGate.Json.Reader
import ChangeGate.Json.Value
import ChangeGate.Main
import ChangeGate.Memory.Ci
import ChangeGate.Memory.Files
import ChangeGate.Memory.LogFile
import ChangeGate.Memory.Machine
import ChangeGate.Memory.Review
import ChangeGate.Memory.Session
import ChangeGate.Memory.Wire
import ChangeGate.Memory.World
import ChangeGate.Number.Binary64
import ChangeGate.Number.Power
import ChangeGate.Number.Shortest
import ChangeGate.Proofs.Memory.Observation
import ChangeGate.Proofs.Memory.Review
import ChangeGate.Proofs.Memory.Rounds
import ChangeGate.Proofs.Review.Fresh
import ChangeGate.Proofs.Review.Grouping
import ChangeGate.Proofs.Review.Parts
import ChangeGate.Proofs.Review.Partition
import ChangeGate.Proofs.Review.Patchsets
import ChangeGate.Proofs.Review.Ref
import ChangeGate.Proofs.Round.Clearing
import ChangeGate.Proofs.Round.Course
import ChangeGate.Proofs.Round.Gate
import ChangeGate.Proofs.Round.Handling
import ChangeGate.Proofs.Round.Handover
import ChangeGate.Proofs.Round.Log
import ChangeGate.Proofs.Round.Simulation
import ChangeGate.Proofs.SeenLog
import ChangeGate.Proofs.Service.Journal
import ChangeGate.Proofs.Text.Blank
import ChangeGate.Proofs.Text.Numeral
import ChangeGate.Review.Address
import ChangeGate.Review.Change
import ChangeGate.Review.Fresh
import ChangeGate.Review.Grouping
import ChangeGate.Review.Landing
import ChangeGate.Review.Listing
import ChangeGate.Review.Marker
import ChangeGate.Review.Patchsets
import ChangeGate.Review.Ref
import ChangeGate.Round.Clearing
import ChangeGate.Round.Document
import ChangeGate.Round.Event
import ChangeGate.Round.Gate
import ChangeGate.Round.Report
import ChangeGate.Round.Run
import ChangeGate.Round.Verdict
import ChangeGate.SeenLog
import ChangeGate.Service.Interface
import ChangeGate.Service.Remote
import ChangeGate.Settings.Basic
import ChangeGate.Settings.File
import ChangeGate.Settings.HomePath
import ChangeGate.Settings.Tests
import ChangeGate.Settings.Trust
import ChangeGate.Settings.Validity
import ChangeGate.Text.Alphanumeric
import ChangeGate.Text.AsciiSet
import ChangeGate.Text.Base64
import ChangeGate.Text.Blank
import ChangeGate.Text.CodeTable
import ChangeGate.Text.Composition
import ChangeGate.Text.Digit
import ChangeGate.Text.Direction
import ChangeGate.Text.Hex
import ChangeGate.Text.Joining
import ChangeGate.Text.Lossy
import ChangeGate.Text.Mark
import ChangeGate.Text.Numeral
import ChangeGate.Text.Pattern.Basic
import ChangeGate.Text.Pattern.Class
import ChangeGate.Text.Pattern.Escape
import ChangeGate.Text.Pattern.Parser
import ChangeGate.Text.Printable
import ChangeGate.Text.Quoted
import ChangeGate.Text.Search
import ChangeGate.Text.Uuid
import ChangeGate.Toml.Document
import ChangeGate.Toml.Reader
import ChangeGate.Toml.Scalar
import ChangeGate.Toml.Scanner
import ChangeGate.Toml.Value
import ChangeGate.Url.Basic
import ChangeGate.Url.Domain
import ChangeGate.Url.Form
import ChangeGate.Url.Host
import ChangeGate.Url.Ipv4
import ChangeGate.Url.Ipv6
import ChangeGate.Url.Label
import ChangeGate.Url.Mapping
import ChangeGate.Url.Parser
import ChangeGate.Url.Percent
import ChangeGate.Url.Punycode
import ChangeGate.Version
import ChangeGate.Proofs.Review.Reordering
import ChangeGate.Proofs.Review.Topics
import ChangeGate.Proofs.Round.Cancelling
import ChangeGate.Proofs.Round.Independence
import ChangeGate.Proofs.Round.Landing
import ChangeGate.Proofs.Round.Reordering
import ChangeGate.Proofs.Ci.Refs
import ChangeGate.Proofs.Memory.Rebuilds
import ChangeGate.Proofs.Ci.Stale
import ChangeGate.Proofs.Round.Siblings
import ChangeGate.Proofs.Json.Record
import ChangeGate.Proofs.Ci.Listing
import ChangeGate.Proofs.Memory.Store
import ChangeGate.Proofs.Review.Due
import ChangeGate.Proofs.Round.Submitting
import ChangeGate.Proofs.Service.Notes
import ChangeGate.Proofs.Round.Trace
import ChangeGate.Proofs.Round.Messages
import ChangeGate.Proofs.Memory.Entries
import ChangeGate.Proofs.Memory.Accounts
import ChangeGate.Proofs.Memory.Exchanges
import ChangeGate.Proofs.Memory.Requests
import ChangeGate.Proofs.Memory.Traffic
import ChangeGate.Proofs.Memory.Ordering
import ChangeGate.Proofs.Memory.Cancels
import ChangeGate.Proofs.Service.Identity
import ChangeGate.Proofs.Memory.Records
import ChangeGate.Proofs.Memory.RedRounds
import ChangeGate.Proofs.Memory.ReviewCalls
import ChangeGate.Proofs.Url.Form
import ChangeGate.Proofs.Url.Resource
import ChangeGate.Proofs.Memory.ManualLink
import ChangeGate.Proofs.CommandLine.Flags
import ChangeGate.Proofs.CommandLine.Layers
import ChangeGate.Proofs.Memory.Program
import ChangeGate.Proofs.Ci.Staleness
import ChangeGate.Proofs.SeenLog.Loading
import ChangeGate.Proofs.Round.Cleared
import ChangeGate.Proofs.Round.Confinement
import ChangeGate.Proofs.Review.RefGrammar
import ChangeGate.Proofs.Settings.Tests
import ChangeGate.Proofs.Settings.Trust
import ChangeGate.Proofs.Text.Search
import ChangeGate.Proofs.Text.Digit
import ChangeGate.Proofs.Text.LetterCase
import ChangeGate.Proofs.Review.LandingLine
import ChangeGate.Proofs.Review.PartGrammar
import ChangeGate.Proofs.Review.OptOut
import ChangeGate.Proofs.Review.GroupSize
import ChangeGate.Proofs.Text.Replacing
import ChangeGate.Proofs.Settings.HomePath
import ChangeGate.Proofs.Review.Rejections
import ChangeGate.Proofs.Json.MemberOrder
import ChangeGate.Proofs.Service.ListingOrder
