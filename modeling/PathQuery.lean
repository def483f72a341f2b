import PathQuery.Main
import PathQuery.Proofs.Entries
import PathQuery.Proofs.Path.Opposites
import PathQuery.Proofs.Path.Grammar
import PathQuery.Proofs.Path.Fields
import PathQuery.Proofs.Path.Groups
import PathQuery.Proofs.Path.Segments
import PathQuery.Proofs.Path.Printing
import PathQuery.Proofs.Path.Joining
import PathQuery.Proofs.Double.Fractions
import PathQuery.Proofs.Double.Nearest
import PathQuery.Proofs.Double.Numerals
import PathQuery.Proofs.Json.Numbers
import PathQuery.Proofs.Json.Tokens
import PathQuery.Proofs.Double.Scaling
import PathQuery.Proofs.Json.Rereading
import PathQuery.Proofs.Json.RoundTrip
import PathQuery.Proofs.Json.Unambiguous
import PathQuery.Proofs.Value.Rereading
import PathQuery.Proofs.Value.Serialization
import PathQuery.Proofs.Query.Literals
import PathQuery.Proofs.Path.Composition
import PathQuery.Proofs.Path.Failures
import PathQuery.Proofs.Path.Searches
import PathQuery.Proofs.Value.Indexing
import PathQuery.Proofs.Text.Lexicographic
import PathQuery.Proofs.Text.CodeUnits
import PathQuery.Proofs.Value.Comparison
import PathQuery.Proofs.Value.Order
import PathQuery.Proofs.Command.Session
import PathQuery.Proofs.Query.Addresses
import PathQuery.Proofs.Value.Zeros
import PathQuery.Proofs.Query.Reloading
import PathQuery.Proofs.Query.Equality
import PathQuery.Proofs.Text.Blanks
import PathQuery.Proofs.Text.Lowercase
import PathQuery.Proofs.Command.Arguments
import PathQuery.Proofs.Command.Words
import PathQuery.Proofs.Command.Lines
import PathQuery.Proofs.CommandLine.Outcome
import PathQuery.Proofs.Double.Radix
import PathQuery.Proofs.Double.ReadBack
import PathQuery.Proofs.Double.WholeNumbers
import PathQuery.Proofs.Value.NumberTexts
import PathQuery.Proofs.Value.Nesting
import PathQuery.Proofs.Path.Projections
import PathQuery.Proofs.Value.Elements
import PathQuery.Proofs.Value.Membership
import PathQuery.Proofs.Double.DecimalTexts
