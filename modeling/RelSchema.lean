import RelSchema.Main
import RelSchema.Suggestion.Apply
import RelSchema.Unlisted
import RelSchema.Proofs.Names
import RelSchema.Proofs.Blanks
import RelSchema.Proofs.Quotes
import RelSchema.Proofs.Reading.Columns
import RelSchema.Proofs.Reading.Outcome
import RelSchema.Proofs.Editing
import RelSchema.Proofs.Framing.Level
import RelSchema.Proofs.Framing.Pieces
import RelSchema.Proofs.Framing.Readers
import RelSchema.Proofs.Framing.TypeName
import RelSchema.Proofs.Framing.Lines
import RelSchema.Proofs.Framing.Script
import RelSchema.Proofs.RoundTrip.Header
import RelSchema.Proofs.RoundTrip.Types
import RelSchema.Proofs.RoundTrip.TypeText
import RelSchema.Proofs.RoundTrip.Rules
import RelSchema.Proofs.RoundTrip.Items
import RelSchema.Proofs.RoundTrip.Schema
import RelSchema.Proofs.Reading.Success
import RelSchema.Proofs.Json.Strings
import RelSchema.Proofs.Json.Numbers
import RelSchema.Proofs.Json.RoundTrip
import RelSchema.Proofs.Document
import RelSchema.Proofs.Suggestion.Linking
import RelSchema.Proofs.Suggestion.Naming
import RelSchema.Proofs.Suggestion.Structure
import RelSchema.Proofs.Layout.Distance
import RelSchema.Proofs.Layout.Groups
import RelSchema.Proofs.Suggestion.Edges
import RelSchema.Proofs.Suggestion.Validity
import RelSchema.Proofs.Reading.Declared
import RelSchema.Proofs.RoundTrip.Declarations
import RelSchema.Proofs.RoundTrip.Values
import RelSchema.Proofs.Comparison.Mirror
import RelSchema.Proofs.Comparison.Agreement
import RelSchema.Proofs.Layout.Hierarchy
import RelSchema.Proofs.Framing.Steps
import RelSchema.Proofs.Framing.Joined
import RelSchema.Proofs.Framing.Comments
import RelSchema.Proofs.Framing.Uncut
import RelSchema.Proofs.Framing.NormalForm
import RelSchema.Proofs.Reading.Order
import RelSchema.Proofs.Orm.Attributes
import RelSchema.Proofs.Orm.AttributeNames
import RelSchema.Proofs.Orm.Relationships
import RelSchema.Proofs.Orm.ModelNames
import RelSchema.Proofs.Orm.RelationFields
import RelSchema.Proofs.Orm.Fields
import RelSchema.Proofs.Orm.AsciiNames
import RelSchema.Proofs.Orm.Classes
import RelSchema.Proofs.Markup
import RelSchema.Proofs.Display
import RelSchema.Proofs.Review.MissingKeys
import RelSchema.Proofs.Drawio.Cells
import RelSchema.Proofs.Occurrences
import RelSchema.Proofs.Figures
import RelSchema.Proofs.Drawio.Values
import RelSchema.Proofs.Orm.SnakeCase
import RelSchema.Proofs.Orm.Declarations
import RelSchema.Proofs.Cli.Files
import RelSchema.Proofs.RoundTrip.TableNames
import RelSchema.Proofs.Suggestion.Idempotence
import RelSchema.Proofs.Suggestion.TableOrder
import RelSchema.Proofs.Suggestion.JoinTables
import RelSchema.Proofs.Reading.ForeignKeys
import RelSchema.Proofs.Reading.Headers
import RelSchema.Proofs.Reading.ItemOrder
import RelSchema.Proofs.Suggestion.Frame
import RelSchema.Proofs.Orm.Defaults
import RelSchema.Proofs.Layout.Boxes
import RelSchema.Proofs.Validation.Refusals
import RelSchema.Proofs.Validation.Arguments
import RelSchema.Proofs.RoundTrip.Unambiguous
import RelSchema.Proofs.Conventions
import RelSchema.Proofs.Document.Problems
