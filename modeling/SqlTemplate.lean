import SqlTemplate.Text.Basic
import SqlTemplate.Text.Alphanumeric
import SqlTemplate.Text.Blank
import SqlTemplate.Text.Quoted
import SqlTemplate.Text.Utf8
import SqlTemplate.Binary64.Integer
import SqlTemplate.Decimal.Notation
import SqlTemplate.Value.Equality
import SqlTemplate.Value.Coercion
import SqlTemplate.Dialect
import SqlTemplate.Template.Build
import SqlTemplate.Template.Outline
import SqlTemplate.Session
import SqlTemplate.Formats
import SqlTemplate.Value.Conversion
import SqlTemplate.Main
import SqlTemplate.Proofs.Template.Fault
import SqlTemplate.Proofs.Template.Failure
import SqlTemplate.Proofs.Template.FaultOrder
import SqlTemplate.Proofs.Template.Agreement
import SqlTemplate.Proofs.Template.Braces
import SqlTemplate.Proofs.Template.Pieces
import SqlTemplate.Proofs.Template.Rendering
import SqlTemplate.Proofs.Decimal.Characters
import SqlTemplate.Proofs.Quoting.Fragment
import SqlTemplate.Proofs.Template.PieceOrigin
import SqlTemplate.Proofs.Quoting.Structure
import SqlTemplate.Proofs.Template.Concatenation
import SqlTemplate.Proofs.Binary64.Finite
import SqlTemplate.Proofs.Template.Shape
import SqlTemplate.Proofs.Template.Suppression
import SqlTemplate.Proofs.Quoting.Literal
import SqlTemplate.Proofs.Decimal.Shortest
import SqlTemplate.Proofs.Comment.Lexer
import SqlTemplate.Proofs.Comment.Fragment
import SqlTemplate.Proofs.Comment.Structure
import SqlTemplate.Proofs.Json.Bounded
import SqlTemplate.Proofs.Json.Number
import SqlTemplate.Proofs.Json.Reader
import SqlTemplate.Proofs.Template.Plain
import SqlTemplate.Proofs.Json.Arguments
import SqlTemplate.Proofs.ConfigFile
import SqlTemplate.Proofs.CommandLine.Sources
import SqlTemplate.Proofs.CommandLine.Render
import SqlTemplate.Proofs.Value.Leaves
import SqlTemplate.Proofs.Template.Acceptance
import SqlTemplate.Proofs.Template.Tokens
import SqlTemplate.Proofs.Session.Reports
import SqlTemplate.Proofs.Quoting.Elements
import SqlTemplate.Proofs.Decimal.Numerals
import SqlTemplate.Proofs.Binary64.Nearest
import SqlTemplate.Proofs.Binary64.Decimal
import SqlTemplate.Proofs.Decimal.Value
import SqlTemplate.Proofs.Decimal.Prefix
import SqlTemplate.Proofs.Decimal.Written
import SqlTemplate.Proofs.Decimal.ReadBack
import SqlTemplate.Proofs.Template.Numbers
import SqlTemplate.Proofs.Quoting.Entries
import SqlTemplate.Proofs.Binary64.Integer
import SqlTemplate.Proofs.Template.Outline
import SqlTemplate.Proofs.CommandLine.Options
import SqlTemplate.Proofs.CommandLine.Requests
import SqlTemplate.Proofs.Value.Equality
import SqlTemplate.Proofs.CommandLine.Documents
import SqlTemplate.Proofs.CommandLine.SkipToken
import SqlTemplate.Proofs.Text.Boundary
import SqlTemplate.Proofs.Session.Shown
