import Switchboard.About
import Switchboard.Command
import Switchboard.Config.Basic
import Switchboard.Config.Reading
import Switchboard.Config.Writing
import Switchboard.Datum
import Switchboard.Decimal.Binary64
import Switchboard.Decimal.Shortest
import Switchboard.Delivery
import Switchboard.Domains
import Switchboard.Fault
import Switchboard.Files.Path
import Switchboard.Files.Tree
import Switchboard.Gateway
import Switchboard.Level.Basic
import Switchboard.Level.Datum
import Switchboard.Level.Name
import Switchboard.Library
import Switchboard.Main
import Switchboard.Opening
import Switchboard.Proofs.Acceptance
import Switchboard.Proofs.Announcements
import Switchboard.Proofs.Arguments
import Switchboard.Proofs.Capture
import Switchboard.Proofs.Data
import Switchboard.Proofs.Descent
import Switchboard.Proofs.Documents
import Switchboard.Proofs.Effects
import Switchboard.Proofs.Encoding
import Switchboard.Proofs.Exits
import Switchboard.Proofs.Filtering
import Switchboard.Proofs.FirstAttempt
import Switchboard.Proofs.Independence
import Switchboard.Proofs.Levels
import Switchboard.Proofs.Lines
import Switchboard.Proofs.Loading
import Switchboard.Proofs.Logging
import Switchboard.Proofs.Names
import Switchboard.Proofs.Quoting
import Switchboard.Proofs.Registry
import Switchboard.Proofs.Remainders
import Switchboard.Proofs.Replacement
import Switchboard.Proofs.Restriction
import Switchboard.Proofs.RoundTrip
import Switchboard.Proofs.Routing
import Switchboard.Proofs.Runs
import Switchboard.Proofs.Separation
import Switchboard.Proofs.SlotHistory
import Switchboard.Proofs.Standing
import Switchboard.Proofs.Tags
import Switchboard.Proofs.Trace
import Switchboard.Record
import Switchboard.Slots
import Switchboard.Step
import Switchboard.Text.Blank
import Switchboard.Text.Invisible
import Switchboard.Text.Quoted
import Switchboard.Text.Utf8
import Switchboard.Toml.Blanks
import Switchboard.Toml.Document
import Switchboard.Toml.Excerpt
import Switchboard.Toml.Item
import Switchboard.Toml.Key
import Switchboard.Toml.Moment
import Switchboard.Toml.Number
import Switchboard.Toml.Quotation
import Switchboard.Toml.Scalar
import Switchboard.Toml.Table
import Switchboard.Toml.Value
import Switchboard.Toml.Writer
import Switchboard.World
