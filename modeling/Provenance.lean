import Provenance.Delivery.Memory
import Provenance.Delivery.SharedChannel
import Provenance.Event.Reader
import Provenance.Main
import Provenance.Proofs.Execution.Steady
import Provenance.Proofs.Graph.DepthFirst
import Provenance.Proofs.Listener.Segments
import Provenance.Proofs.Listener.Tracking
import Provenance.Proofs.Itemwise
import Provenance.Proofs.Stepwise
import Provenance.Proofs.Plan.Dependence
import Provenance.Proofs.Plan.Underway
import Provenance.Proofs.Plan.Verdict
import Provenance.Proofs.Plan.Depiction
import Provenance.Proofs.Plan.Agreement
import Provenance.Proofs.Plan.Course
import Provenance.Proofs.Execution.Contributions
import Provenance.Proofs.Text.Decimal
import Provenance.Proofs.Json.Literal
import Provenance.Proofs.Json.Token
import Provenance.Proofs.Json.Data
import Provenance.Proofs.Json.Reader
import Provenance.Proofs.Facet.Reader
import Provenance.Proofs.Dictionary
import Provenance.Proofs.RunId
import Provenance.Proofs.Time.Date
import Provenance.Proofs.Time.Timestamp
import Provenance.Proofs.Event.Reader
import Provenance.Proofs.Text.Characters
import Provenance.Proofs.Text.Blank
import Provenance.Proofs.Text.Offsets
import Provenance.Proofs.Location.RoundTrip
import Provenance.Proofs.Location.Scheme
import Provenance.Proofs.Location.Cuts
import Provenance.Proofs.Location.Letters
import Provenance.Proofs.Location.Grammar
import Provenance.Proofs.Location.Qualification
import Provenance.Proofs.Dataset.Registry
import Provenance.Proofs.Dataset.Identity
import Provenance.Proofs.Dataset.Registrations
import Provenance.Proofs.Json.Meaning
import Provenance.Proofs.Event.NormalForm
import Provenance.Proofs.Json.OneLine
import Provenance.Proofs.Delivery.Turns
import Provenance.Proofs.Delivery.Conservation
import Provenance.Proofs.Delivery.Lines
import Provenance.Proofs.Plan.Loading
import Provenance.Proofs.Settings.Sources
import Provenance.Proofs.CommandLine.Replay
import Provenance.Proofs.CommandLine.Listing
import Provenance.Proofs.Configuration.DirectoryList
import Provenance.Proofs.Configuration.History
import Provenance.Proofs.Execution.Loads
import Provenance.Proofs.Execution.Warnings
import Provenance.Proofs.Execution.Entries
import Provenance.Proofs.Execution.Accounting
import Provenance.Proofs.Text.CodePoints
import Provenance.Proofs.JobName.Words
import Provenance.Proofs.JobName.Segments
import Provenance.Proofs.Text.Case
import Provenance.Proofs.Execution.Times
import Provenance.Proofs.Facet.Names
import Provenance.Proofs.JobName.Stability
