import SocketInventory.Main
import SocketInventory.Web.Service
import SocketInventory.Proofs.Query.Parser
import SocketInventory.Proofs.Query.Scanner
import SocketInventory.Proofs.Query.Acceptance
import SocketInventory.Proofs.Query.Printing
import SocketInventory.Proofs.Query.Meaning
import SocketInventory.Proofs.Query.Nesting
import SocketInventory.Proofs.Query.Narrowing
import SocketInventory.Proofs.Selection
import SocketInventory.Proofs.Source.Line
import SocketInventory.Proofs.Source.Owners
import SocketInventory.Proofs.Source.Attribution
import SocketInventory.Proofs.Address.Text
import SocketInventory.Proofs.Session
import SocketInventory.Proofs.Source.Printing
import SocketInventory.Proofs.Source.Octets
import SocketInventory.Proofs.Source.Rows
import SocketInventory.Proofs.Source.Reading
import SocketInventory.Proofs.Source.Connections
import SocketInventory.Proofs.Inventory.Building
import SocketInventory.Proofs.Inventory.Rendering
import SocketInventory.Proofs.Inventory.Agreement
import SocketInventory.Proofs.Source.Soundness
import SocketInventory.Proofs.Inventory.WellFormed
import SocketInventory.Proofs.Inventory.Enumerators
import SocketInventory.Proofs.Json.Lexemes
import SocketInventory.Proofs.Json.RoundTrip
import SocketInventory.Proofs.Json.Records
import SocketInventory.Proofs.Text.Percent
import SocketInventory.Proofs.Web.Target
import SocketInventory.Proofs.Quiet
import SocketInventory.Proofs.Surfaces
import SocketInventory.Proofs.Combination
import SocketInventory.Proofs.Source.Settled
import SocketInventory.Proofs.Failures
import SocketInventory.Proofs.Query.Comparison
import SocketInventory.Proofs.Text.Pattern
import SocketInventory.Proofs.Text.Integer
import SocketInventory.Proofs.CommandLine.Options
import SocketInventory.Proofs.Web.Route
import SocketInventory.Proofs.Effects
import SocketInventory.Proofs.CommandLine.Effects
import SocketInventory.Proofs.Web.Effects
import SocketInventory.Proofs.Presets
import SocketInventory.Proofs.Validation
import SocketInventory.Proofs.Text.LetterCase
import SocketInventory.Proofs.Text.Sigma
import SocketInventory.Proofs.Query.Evaluation
import SocketInventory.Proofs.Query.LetterCase
import SocketInventory.Proofs.Query.Wildcard
import SocketInventory.Proofs.Query.BareWord
import SocketInventory.Proofs.Address.Grammar
import SocketInventory.Proofs.Source.Ends
import SocketInventory.Proofs.Source.Documented
import SocketInventory.Proofs.Source.Repeats
import SocketInventory.Proofs.Inventory.Expansion
import SocketInventory.Proofs.Text.Utf8
import SocketInventory.Proofs.Files
import SocketInventory.Proofs.Loading
import SocketInventory.Proofs.Query.Fieldless
import SocketInventory.Proofs.Display
import SocketInventory.Proofs.Render.Ends
import SocketInventory.Proofs.Render.Table
import SocketInventory.Proofs.Query.Passes
import SocketInventory.Proofs.Source.Hosts
