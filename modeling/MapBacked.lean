import MapBacked.Attempt
import MapBacked.ClassTemplate
import MapBacked.Config
import MapBacked.Decimal.Double
import MapBacked.Decimal.Literal
import MapBacked.Decimal.Shortest
import MapBacked.Descriptor
import MapBacked.Event
import MapBacked.Exchange.Fault
import MapBacked.Exchange.Markers
import MapBacked.Exchange.Methods
import MapBacked.Exchange.Record
import MapBacked.Exchange.Types
import MapBacked.Exchange.ValueTypes
import MapBacked.Extension
import MapBacked.FileSystem
import MapBacked.FileSystem.Tree
import MapBacked.Gate
import MapBacked.Generation
import MapBacked.Json.Basic
import MapBacked.Json.Reader
import MapBacked.Json.Writer
import MapBacked.MapUsage
import MapBacked.Marker
import MapBacked.Method.Contract
import MapBacked.Method.Signature
import MapBacked.NameMap
import MapBacked.Path
import MapBacked.Proofs.ClassText.Entries
import MapBacked.Proofs.ClassText.EntryLine
import MapBacked.Proofs.ClassText.Lines
import MapBacked.Proofs.ClassText.Rendered
import MapBacked.Proofs.ClassText.Tree
import MapBacked.Proofs.Config.Loading
import MapBacked.Proofs.Exchange.AttributeValues
import MapBacked.Proofs.Exchange.RoundTrip
import MapBacked.Proofs.Exchange.Spelling
import MapBacked.Proofs.Extension.Growth
import MapBacked.Proofs.Extension.Layers
import MapBacked.Proofs.Extension.Start
import MapBacked.Proofs.Failure
import MapBacked.Proofs.Gate.Above
import MapBacked.Proofs.Gate.Assignability
import MapBacked.Proofs.Gate.DepthFirst
import MapBacked.Proofs.Gate.Erasure
import MapBacked.Proofs.Gate.Family
import MapBacked.Proofs.Gate.Locality
import MapBacked.Proofs.Gate.Lookups
import MapBacked.Proofs.Gate.Renaming
import MapBacked.Proofs.Gate.Rounds
import MapBacked.Proofs.Gate.Supertypes
import MapBacked.Proofs.Gate.Unknown
import MapBacked.Proofs.Gate.Walk
import MapBacked.Proofs.Generation.Agreement
import MapBacked.Proofs.Generation.Dependence
import MapBacked.Proofs.Generation.Log
import MapBacked.Proofs.Generation.Outcome
import MapBacked.Proofs.Java.Literal
import MapBacked.Proofs.Java.Reading
import MapBacked.Proofs.NameMap
import MapBacked.Proofs.Order
import MapBacked.Proofs.Path
import MapBacked.Proofs.Property.Configured
import MapBacked.Proofs.Property.Decisions
import MapBacked.Proofs.Property.Overrides
import MapBacked.Proofs.Property.Precedence
import MapBacked.Proofs.Property.Roles
import MapBacked.Proofs.Property.SimpleNames
import MapBacked.Proofs.SortedSet
import MapBacked.Proofs.Template.Running
import MapBacked.Proofs.Text.Bytes
import MapBacked.Proofs.Text.Lines
import MapBacked.Proofs.Text.Trimming
import MapBacked.Proofs.Types.Names
import MapBacked.Proofs.Types.Reading
import MapBacked.Proofs.Types.Substitution
import MapBacked.Proofs.Types.Table
import MapBacked.Property.Resolution
import MapBacked.Property.Rule
import MapBacked.Property.Table
import MapBacked.Renderer
import MapBacked.SortedSet
import MapBacked.Template.Argument
import MapBacked.Template.Arithmetic
import MapBacked.Template.Call
import MapBacked.Template.Comparison
import MapBacked.Template.Engine
import MapBacked.Template.Error
import MapBacked.Template.Filter
import MapBacked.Template.Grammar
import MapBacked.Template.Grammar.Expression
import MapBacked.Template.Operator
import MapBacked.Template.Piece
import MapBacked.Template.Rendering
import MapBacked.Template.Slice
import MapBacked.Template.Token
import MapBacked.Template.Tree
import MapBacked.Template.Value
import MapBacked.Text.Case
import MapBacked.Text.Cased
import MapBacked.Text.Digits
import MapBacked.Text.List
import MapBacked.Text.Literal
import MapBacked.Text.Range
import MapBacked.Text.Space
import MapBacked.Text.Visible
import MapBacked.Toml.Basic
import MapBacked.Toml.Reader
import MapBacked.Toml.Scalar
import MapBacked.Types.Decl
import MapBacked.Types.MapFamily
import MapBacked.Types.Ref
import MapBacked.Types.Table
import MapBacked.ValueType
