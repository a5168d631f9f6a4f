import ProtocolHeaders.Version
import ProtocolHeaders.Text.Quoted
import ProtocolHeaders.Text.Uppercase
import ProtocolHeaders.Text.Letter
import ProtocolHeaders.Text.Segment
import ProtocolHeaders.Name.Set
import ProtocolHeaders.Name.Table
import ProtocolHeaders.Model.Node
import ProtocolHeaders.Decimal.Shortest
import ProtocolHeaders.Json.Number
import ProtocolHeaders.Json.Reader
import ProtocolHeaders.Json.Writer
import ProtocolHeaders.Model.Format
import ProtocolHeaders.Version.Format
import ProtocolHeaders.Legacy.Format
import ProtocolHeaders.Sha256
import ProtocolHeaders.Text.HexDigit
import ProtocolHeaders.Name.First
import ProtocolHeaders.Cleanup.Report
import ProtocolHeaders.Validation.Finding
import ProtocolHeaders.Log.Event
import ProtocolHeaders.Cleanup.Rules
import ProtocolHeaders.Cleanup.Basic
import ProtocolHeaders.Inheritance
import ProtocolHeaders.Validation.Basic
import ProtocolHeaders.Phase
import ProtocolHeaders.Order.Resolver
import ProtocolHeaders.Header.Options
import ProtocolHeaders.Header.Source
import ProtocolHeaders.Header.DocComment
import ProtocolHeaders.Header.Literal
import ProtocolHeaders.Header.Union
import ProtocolHeaders.Header.Field
import ProtocolHeaders.Header.Declarations
import ProtocolHeaders.Header.Bindings
import ProtocolHeaders.Header.Messages
import ProtocolHeaders.Header.Artifact
import ProtocolHeaders.Toml.Value
import ProtocolHeaders.Toml.Scan
import ProtocolHeaders.Toml.Moment
import ProtocolHeaders.Toml.Number
import ProtocolHeaders.Toml.Document
import ProtocolHeaders.Toml.Reader
import ProtocolHeaders.Toml.Writer
import ProtocolHeaders.Settings.Format
import ProtocolHeaders.File.Path
import ProtocolHeaders.File.Fault
import ProtocolHeaders.File.Access
import ProtocolHeaders.File.System
import ProtocolHeaders.Generation.Context
import ProtocolHeaders.Generation.Basic
import ProtocolHeaders.Log.Filter
import ProtocolHeaders.Command.Arguments
import ProtocolHeaders.Settings.File
import ProtocolHeaders.Command.Program
import ProtocolHeaders.Header.Declaration
import ProtocolHeaders.Main
import ProtocolHeaders.Model.RoundTrip
import ProtocolHeaders.Log.Pattern
import ProtocolHeaders.Log.FieldValue
import ProtocolHeaders.Decimal.Figures
import ProtocolHeaders.Proofs.Order.Existence
import ProtocolHeaders.Proofs.Cleanup.Survivors
import ProtocolHeaders.Proofs.Header.DeclarationTexts
import ProtocolHeaders.Proofs.Header.Placement
import ProtocolHeaders.Proofs.Inheritance.Ancestors
import ProtocolHeaders.Proofs.Header.Members
import ProtocolHeaders.Proofs.Json.Nesting
import ProtocolHeaders.Proofs.Json.Layout
import ProtocolHeaders.Proofs.Json.Reading
import ProtocolHeaders.Proofs.Json.RoundTrip
import ProtocolHeaders.Proofs.Model.File
import ProtocolHeaders.Proofs.Cleanup.Clean
import ProtocolHeaders.Proofs.Order.Diagnosis
import ProtocolHeaders.Proofs.Phase.Sequence
import ProtocolHeaders.Proofs.Cleanup.Changes
import ProtocolHeaders.Proofs.Header.Emission
import ProtocolHeaders.Proofs.Generation.DeclarationOrder
import ProtocolHeaders.Proofs.Inheritance.Paths
import ProtocolHeaders.Proofs.Inheritance.Branches
import ProtocolHeaders.Proofs.Inheritance.Reach
import ProtocolHeaders.Proofs.Inheritance.Composition
import ProtocolHeaders.Proofs.Validation.Soundness
import ProtocolHeaders.Proofs.Cleanup.EnumerationNames
import ProtocolHeaders.Proofs.Text.Capitals
import ProtocolHeaders.Proofs.Cleanup.Repetition
import ProtocolHeaders.Proofs.Validation.Exactness
import ProtocolHeaders.Proofs.Header.DeclaredNames
import ProtocolHeaders.Proofs.Generation.Strictness
import ProtocolHeaders.Proofs.Header.SelfReference
import ProtocolHeaders.Proofs.File.Writing
import ProtocolHeaders.Proofs.File.Directories
import ProtocolHeaders.Proofs.File.PlainNames
import ProtocolHeaders.Proofs.Header.Tidy
import ProtocolHeaders.Proofs.Generation.Artifacts
import ProtocolHeaders.Proofs.Generation.LastWrite
import ProtocolHeaders.Proofs.Generation.Isolation
import ProtocolHeaders.Proofs.Generation.Stopping
import ProtocolHeaders.Proofs.Header.MessageNames
import ProtocolHeaders.Proofs.Header.Coverage
import ProtocolHeaders.Proofs.Toml.Strings
import ProtocolHeaders.Proofs.Toml.Keys
import ProtocolHeaders.Proofs.Toml.Values
import ProtocolHeaders.Proofs.Toml.Lines
import ProtocolHeaders.Proofs.Toml.Documents
import ProtocolHeaders.Proofs.Toml.Tables
import ProtocolHeaders.Proofs.Settings.RoundTrip
import ProtocolHeaders.Proofs.Order.Levels
import ProtocolHeaders.Proofs.Union.Keys
import ProtocolHeaders.Proofs.Union.FinalForm
import ProtocolHeaders.Proofs.Union.Reordering
import ProtocolHeaders.Proofs.Validation.BlankTypes
import ProtocolHeaders.Proofs.Text.Numerals
import ProtocolHeaders.Proofs.Version.Tags
import ProtocolHeaders.Proofs.Version.Faithfulness
import ProtocolHeaders.Proofs.Header.Literals
import ProtocolHeaders.Proofs.Phase.Diagnostics
import ProtocolHeaders.Proofs.Text.Trimming
import ProtocolHeaders.Proofs.Text.Lines
import ProtocolHeaders.Proofs.Header.DocComments
import ProtocolHeaders.Proofs.Legacy.Comments
import ProtocolHeaders.Proofs.Header.WireTexts
import ProtocolHeaders.Proofs.Command.Settings
import ProtocolHeaders.Proofs.Header.Collisions
import ProtocolHeaders.Proofs.Model.Markers
import ProtocolHeaders.Proofs.Order.Calls
import ProtocolHeaders.Proofs.Order.Preordering
import ProtocolHeaders.Proofs.Header.TidyLines
