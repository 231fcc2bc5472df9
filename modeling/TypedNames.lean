import TypedNames.Main
import TypedNames.Proofs.Format.Tokens
import TypedNames.Template.Draft
import TypedNames.Template.Split
import TypedNames.Proofs.Binary64.Decimal
import TypedNames.Proofs.Format.ReadBack
import TypedNames.Proofs.Pattern.Greedy
import TypedNames.Proofs.Template.Conversion
import TypedNames.Proofs.Template.Preferred
import TypedNames.Proofs.Template.Overlap
import TypedNames.Proofs.Template.RoundTrip
import TypedNames.Proofs.Template.Separator
import TypedNames.Proofs.Template.Collision
import TypedNames.Proofs.Template.Readable
import TypedNames.Proofs.Binary64.Nearest
import TypedNames.Proofs.Format.Reading
import TypedNames.Proofs.Template.Unambiguous
import TypedNames.Proofs.Template.Rewriting
import TypedNames.Proofs.Template.Overflow
import TypedNames.Proofs.Template.Construction
import TypedNames.Proofs.Binary64.Products
import TypedNames.Proofs.Binary64.Shortest
import TypedNames.Proofs.Json.NumberRange
import TypedNames.Proofs.Json.Quoting
import TypedNames.Proofs.Json.Tokens
import TypedNames.Proofs.Record.Insertion
import TypedNames.Proofs.Json.Members
import TypedNames.Proofs.Json.RecordRoundTrip
import TypedNames.Proofs.Record.Building
import TypedNames.Proofs.Schema.DocumentRoundTrip
import TypedNames.Proofs.Text.Lines
import TypedNames.Proofs.Cli.Arguments
import TypedNames.Proofs.Cli.Decoding
import TypedNames.Proofs.Cli.Encoding
import TypedNames.Proofs.Binary64.Exact
import TypedNames.Proofs.Format.FixedPoint
import TypedNames.Proofs.Binary64.Drift
import TypedNames.Proofs.Format.Rereading
import TypedNames.Proofs.Template.Validation
import TypedNames.Proofs.Format.Grammar
import TypedNames.Proofs.Format.Integers
import TypedNames.Proofs.Template.Unreadable
import TypedNames.Proofs.Format.Padding
import TypedNames.Proofs.Format.Canonical
import TypedNames.Proofs.Binary64.Integers
import TypedNames.Proofs.Format.WholeNumbers
import TypedNames.Proofs.Binary64.Errors
import TypedNames.Proofs.Json.WrittenNumbers
import TypedNames.Proofs.Json.FloatRoundTrip
