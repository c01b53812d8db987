import NameRouting.Command.Argument
import NameRouting.Command.Invocation
import NameRouting.Command.Machine
import NameRouting.Command.Task
import NameRouting.Config.Flatten
import NameRouting.Config.Load
import NameRouting.Decimal.Binary
import NameRouting.Decimal.Shortest
import NameRouting.Endpoint.Basic
import NameRouting.Endpoint.Configured
import NameRouting.Enumeration
import NameRouting.Fault
import NameRouting.Files
import NameRouting.Interpreter
import NameRouting.Log.Record
import NameRouting.Log.Setup
import NameRouting.Log.Timer
import NameRouting.Main
import NameRouting.Name.Basic
import NameRouting.Name.Compose
import NameRouting.Name.Index
import NameRouting.Name.Parse
import NameRouting.Name.Position
import NameRouting.Name.Scheme
import NameRouting.Plugin.Operation
import NameRouting.Plugin.Request
import NameRouting.Plugin.Service
import NameRouting.Program
import NameRouting.Property
import NameRouting.Reader.Document
import NameRouting.Reader.Json
import NameRouting.Reader.Yaml.Layout
import NameRouting.Reader.Yaml.Node
import NameRouting.Reader.Yaml.Scalar
import NameRouting.Reader.Yaml.Token
import NameRouting.Reader.Yaml.Typing
import NameRouting.Routing.Local
import NameRouting.Routing.Router
import NameRouting.Routing.Selection
import NameRouting.Routing.Session
import NameRouting.Scripted.Listing
import NameRouting.Scripted.Stage
import NameRouting.Table
import NameRouting.Template
import NameRouting.Text.Alphanumeric
import NameRouting.Text.Blank
import NameRouting.Text.CodeSet
import NameRouting.Text.Digit
import NameRouting.Text.Lowercase
import NameRouting.Text.Pieces
import NameRouting.Text.Printable
import NameRouting.Text.Quoted
import NameRouting.Uri.Address
import NameRouting.Uri.Parts
import NameRouting.UrlContext.Place
import NameRouting.UrlContext.Registry
import NameRouting.Value
import NameRouting.Proofs.Name.RoundTrip
import NameRouting.Proofs.Name.Grammar
import NameRouting.Proofs.Name.Composition
import NameRouting.Proofs.Program.Yields
import NameRouting.Proofs.Routing.Turn
import NameRouting.Proofs.Routing.Party
import NameRouting.Proofs.Routing.ProviderLifecycle
import NameRouting.Proofs.Name.Split
import NameRouting.Proofs.Routing.Forwarding
import NameRouting.Proofs.Routing.Priority
import NameRouting.Proofs.Text.Separators
import NameRouting.Proofs.Template.Meaning
import NameRouting.Proofs.Template.Escaping
import NameRouting.Proofs.Text.Lowercase
import NameRouting.Proofs.Text.Trimming
import NameRouting.Proofs.Log.Outcome
import NameRouting.Proofs.Uri.Authority
import NameRouting.Proofs.Endpoint.Reading
import NameRouting.Proofs.Endpoint.Connection
import NameRouting.Proofs.Endpoint.Padding
import NameRouting.Proofs.Enumeration.Closing
import NameRouting.Proofs.Enumeration.Delivery
import NameRouting.Proofs.Routing.Consent
import NameRouting.Proofs.Routing.Scopes
import NameRouting.Proofs.Routing.Rejection
import NameRouting.Proofs.Endpoint.Listed
import NameRouting.Proofs.Text.SmallLetters
import NameRouting.Proofs.Uri.Division
import NameRouting.Proofs.Uri.Reference
import NameRouting.Proofs.Uri.Address
import NameRouting.Proofs.Uri.Host
import NameRouting.Proofs.Uri.Site
import NameRouting.Proofs.Endpoint.Acceptance
import NameRouting.Proofs.Endpoint.Decomposition
import NameRouting.Proofs.Uri.Masking
import NameRouting.Proofs.Uri.MaskedSite
import NameRouting.Proofs.Endpoint.Masking
import NameRouting.Proofs.Name.Residual
import NameRouting.Proofs.Plugin.Loading
import NameRouting.Proofs.Endpoint.Derivation
import NameRouting.Proofs.Endpoint.Port
import NameRouting.Proofs.Table.Update
import NameRouting.Proofs.Template.Composition
import NameRouting.Proofs.Config.Leaves
import NameRouting.Proofs.Config.Selection
import NameRouting.Proofs.UrlContext.Search
import NameRouting.Proofs.Command.Environment
import NameRouting.Proofs.Command.Task
import NameRouting.Proofs.Command.Report
import NameRouting.Proofs.Name.Position
