import Accrete.Bag
import Accrete.Command
import Accrete.CommandLine
import Accrete.CommandLine.Grammar
import Accrete.CommandLine.Help
import Accrete.Consent
import Accrete.CreationOrder
import Accrete.Database
import Accrete.Database.Cell
import Accrete.Database.Definition
import Accrete.Database.Definition.Reader
import Accrete.Database.Definition.Statement
import Accrete.Database.Expression
import Accrete.Database.Expression.Evaluation
import Accrete.Database.Expression.Reader
import Accrete.Database.Insertion
import Accrete.Database.Location
import Accrete.Database.Name
import Accrete.Database.Reader
import Accrete.Database.Refusal
import Accrete.Database.ReportedType
import Accrete.Database.Table
import Accrete.Database.Token
import Accrete.Database.Url
import Accrete.Database.Url.Fault
import Accrete.Dialect
import Accrete.Dialect.ColumnType
import Accrete.Dialect.Identifier
import Accrete.Dialect.Reserved
import Accrete.Difference
import Accrete.Draft
import Accrete.Error
import Accrete.Event
import Accrete.Fault
import Accrete.Field
import Accrete.Field.Declared
import Accrete.Field.Defined
import Accrete.Field.Kind
import Accrete.FileTree
import Accrete.Ini.Error
import Accrete.Ini.File
import Accrete.Ini.Line
import Accrete.Ini.Reference
import Accrete.Logged
import Accrete.Main
import Accrete.Migration
import Accrete.Number
import Accrete.Number.Binary64
import Accrete.Number.Shortest
import Accrete.Operation
import Accrete.Path
import Accrete.Plan
import Accrete.Proofs.Assembly.LogicalKeys
import Accrete.Proofs.Assembly.Loose
import Accrete.Proofs.Assembly.Overlaying
import Accrete.Proofs.Assembly.Refolding
import Accrete.Proofs.CreationOrder.Dependencies
import Accrete.Proofs.Migrating.NameClashes
import Accrete.Proofs.Migrating.Racing
import Accrete.Proofs.Migrating.Resuming
import Accrete.Proofs.Planning.AddedReferences
import Accrete.Proofs.Planning.ColumnAgreement
import Accrete.Proofs.Planning.Comparison
import Accrete.Proofs.Planning.Compiling
import Accrete.Proofs.Planning.Fidelity
import Accrete.Proofs.Planning.Idempotence
import Accrete.Proofs.Planning.Independence
import Accrete.Proofs.Planning.IndexNames
import Accrete.Proofs.Planning.Indexing
import Accrete.Proofs.Planning.ReferencedTypes
import Accrete.Proofs.Planning.References
import Accrete.Proofs.Planning.ReservedColumns
import Accrete.Proofs.Running.FailStop
import Accrete.Proofs.Writing.Actions
import Accrete.Proofs.Writing.Decoding
import Accrete.Proofs.Writing.Effects
import Accrete.Proofs.Writing.LookingAhead
import Accrete.Runner
import Accrete.Runner.Recorder
import Accrete.Schema
import Accrete.Schema.Assembly
import Accrete.SchemaModule
import Accrete.Settings
import Accrete.Statement
import Accrete.Statement.Error
import Accrete.Statement.Known
import Accrete.Statement.Sql
import Accrete.Text.Blank
import Accrete.Text.Case
import Accrete.Text.Case.Table
import Accrete.Text.Digit
import Accrete.Text.Part
import Accrete.Text.Numeral
import Accrete.Text.Percent
import Accrete.Text.Printable
import Accrete.Text.Quoted
import Accrete.Text.Ranges
import Accrete.Text.Utf8
import Accrete.Text.Word
import Accrete.Value.Key
import Accrete.Value.Misuse
import Accrete.Value.Order
import Accrete.Value.Shown
import Accrete.Proofs.Assembly.Columns
import Accrete.Proofs.Assembly.TypedFields
import Accrete.Proofs.Text.Lowering
import Accrete.Proofs.FileTree
import Accrete.Proofs.Ini.Filling
import Accrete.Proofs.Ini.Stating
import Accrete.Proofs.Settings
import Accrete.Proofs.Stopping
import Accrete.Proofs.Settings.Discovery
import Accrete.Proofs.Settings.Loading
import Accrete.Proofs.Command
