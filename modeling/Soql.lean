import Soql.Calendar.Date
import Soql.Calendar.DateTime
import Soql.Calendar.Pattern
import Soql.Display.Fault
import Soql.Display.Fill
import Soql.Display.Part
import Soql.Display.Template
import Soql.Display.View
import Soql.Error
import Soql.Kind
import Soql.Number.Binary64
import Soql.Number.Decimal
import Soql.Number.Numeral
import Soql.Number.Pattern
import Soql.Number.Pattern.Binary
import Soql.Number.Pattern.Decimal
import Soql.Number.Pattern.Integer
import Soql.Number.Pattern.Layout
import Soql.Number.Pattern.Text
import Soql.Number.Positional
import Soql.Number.Rounding
import Soql.Number.Shortest
import Soql.Number.Word
import Soql.Query.Compile
import Soql.Query.Literal
import Soql.Query.Operand
import Soql.Query.Quote
import Soql.Request.Build
import Soql.Request.Field
import Soql.Request.Settings
import Soql.Session.Basic
import Soql.Session.Equality
import Soql.Template.Merge
import Soql.Template.Piece
import Soql.Template.Segment
import Soql.Text.Blank
import Soql.Text.Digit
import Soql.Text.Encoding
import Soql.Text.Printable
import Soql.Text.Quoted
import Soql.Text.Symbol
import Soql.Url.Host
import Soql.Url.Percent
import Soql.Url.Reference
import Soql.Value
import Soql.Proofs.Outcome
import Soql.Proofs.Template.Numeral
import Soql.Proofs.Template.Token
import Soql.Proofs.Template.Scan
import Soql.Proofs.Template.Parse
import Soql.Proofs.Template.Overlong
import Soql.Proofs.Template.Tidy
import Soql.Proofs.Template.Renumber
import Soql.Proofs.Number.Alphabet
import Soql.Proofs.Number.Digits
import Soql.Proofs.Number.Layout
import Soql.Proofs.Number.Range
import Soql.Proofs.Number.Reading
import Soql.Proofs.Number.Formatting
import Soql.Proofs.Query.Plan
import Soql.Proofs.Query.Parts
import Soql.Proofs.Query.Merge
import Soql.Proofs.Query.Capture
import Soql.Proofs.Query.Combination
import Soql.Proofs.Query.Escapable
import Soql.Proofs.Query.Failure
import Soql.Proofs.Query.Alphabet
import Soql.Proofs.Calendar.Pattern
import Soql.Proofs.Query.Breakout
import Soql.Proofs.Query.Region
import Soql.Proofs.Query.Congruence
import Soql.Proofs.Query.Blanks
import Soql.Proofs.Query.Isolation
import Soql.Proofs.Display.Fill
import Soql.Proofs.Display.Agreement
import Soql.Proofs.Query.Inlining
import Soql.Proofs.Template.RoundTrip
import Soql.Proofs.Url.Origin
import Soql.Proofs.Request.Origin
import Soql.Proofs.Url.Path
import Soql.Proofs.Request.Version
import Soql.Proofs.Query.Normalization
import Soql.Proofs.Template.Grammar
import Soql.Proofs.Query.Enclosed
import Soql.Proofs.Query.Items
import Soql.Proofs.Query.Specifier
import Soql.Proofs.Display.Merge
import Soql.Proofs.Request.Query
import Soql.Proofs.Request.Outcome
import Soql.Proofs.Request.Extension
import Soql.Proofs.Number.FixedPoint
import Soql.Proofs.Calendar.RoundTrip
