import Backoffice.Main
import Backoffice.Proofs.Desk.Changes
import Backoffice.Proofs.Program.Effect
import Backoffice.Proofs.Settings.Placeholder
import Backoffice.Proofs.Calendar.Text
import Backoffice.Proofs.Value.Day
import Backoffice.Proofs.Json.Strings
import Backoffice.Proofs.Json.Numbers
import Backoffice.Proofs.Json.Reading
import Backoffice.Proofs.Json.Values
import Backoffice.Proofs.Desk.Coerce
import Backoffice.Proofs.Json.Skip
import Backoffice.Proofs.Json.Shape
import Backoffice.Proofs.Catalogue.WireError
import Backoffice.Proofs.Catalogue.Codes
import Backoffice.Proofs.Identifier.SnakeCase
import Backoffice.Proofs.Text.Trimming
import Backoffice.Proofs.Route.Segments
import Backoffice.Proofs.Upload.Verdict
import Backoffice.Proofs.Upload.Laxity
import Backoffice.Proofs.Settings.Extensions
import Backoffice.Proofs.Settings.Proper
import Backoffice.Proofs.Upload.Configured
import Backoffice.Proofs.Calendar.Order
import Backoffice.Proofs.Value.Order
import Backoffice.Proofs.Json.Tokens
import Backoffice.Proofs.Desk.Fallback
import Backoffice.Proofs.Value.Integer
import Backoffice.Proofs.Calendar.Instant
import Backoffice.Proofs.Value.Instant
import Backoffice.Proofs.Decimal.Binary64
import Backoffice.Proofs.Decimal.Fixed
import Backoffice.Proofs.Value.Float
import Backoffice.Proofs.Value.Reports
import Backoffice.Proofs.Environment.Steps
import Backoffice.Proofs.CommandLine.Arguments
import Backoffice.Proofs.Program.Sizes
