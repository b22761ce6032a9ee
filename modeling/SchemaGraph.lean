import SchemaGraph.Binary64
import SchemaGraph.Command.Arguments
import SchemaGraph.Command.Folder
import SchemaGraph.Command.Run
import SchemaGraph.Config
import SchemaGraph.Diagnostic.Finding
import SchemaGraph.Diagnostic.Log
import SchemaGraph.Document.Conversion
import SchemaGraph.Document.Load
import SchemaGraph.Document.Normal
import SchemaGraph.Document.Operations
import SchemaGraph.Document.SchemaReading
import SchemaGraph.Document.Shape
import SchemaGraph.Document.Structure
import SchemaGraph.Document.Traversal
import SchemaGraph.Graph.Cycle
import SchemaGraph.Graph.Flattening
import SchemaGraph.Graph.Resolution
import SchemaGraph.Graph.Sealed
import SchemaGraph.Json.Equality
import SchemaGraph.Json.Printer
import SchemaGraph.Json.Reader
import SchemaGraph.Json.Value
import SchemaGraph.Keyed
import SchemaGraph.Main
import SchemaGraph.Metadata.Catalog
import SchemaGraph.Metadata.Encoding
import SchemaGraph.Metadata.Record
import SchemaGraph.Naming.Distinct
import SchemaGraph.Naming.Identifier
import SchemaGraph.Naming.Reserved
import SchemaGraph.Naming.Words
import SchemaGraph.Operation.Basic
import SchemaGraph.Proofs.AliasLoop
import SchemaGraph.Proofs.Command.Agreement
import SchemaGraph.Proofs.Cycle.BackEdges
import SchemaGraph.Proofs.Cycle.Constructible
import SchemaGraph.Proofs.Cycle.Marking
import SchemaGraph.Proofs.Cycle.PathWalk
import SchemaGraph.Proofs.Cycle.Reachability
import SchemaGraph.Proofs.Document.Assembly
import SchemaGraph.Proofs.Document.BodyParameters
import SchemaGraph.Proofs.Document.ClosedObjects
import SchemaGraph.Proofs.Document.Conversion
import SchemaGraph.Proofs.Document.Discriminators
import SchemaGraph.Proofs.Document.Equivariance
import SchemaGraph.Proofs.Document.Fields
import SchemaGraph.Proofs.Document.FlaggedParameters
import SchemaGraph.Proofs.Document.FormParameters
import SchemaGraph.Proofs.Document.Loading
import SchemaGraph.Proofs.Document.Mappings
import SchemaGraph.Proofs.Document.Names
import SchemaGraph.Proofs.Document.Nullability
import SchemaGraph.Proofs.Document.Operations
import SchemaGraph.Proofs.Document.OwnKeywords
import SchemaGraph.Proofs.Document.ParameterChains
import SchemaGraph.Proofs.Document.Parameters
import SchemaGraph.Proofs.Document.Passes
import SchemaGraph.Proofs.Document.Places
import SchemaGraph.Proofs.Document.PropertyNullability
import SchemaGraph.Proofs.Document.Reading
import SchemaGraph.Proofs.Document.Redirection
import SchemaGraph.Proofs.Document.Renaming
import SchemaGraph.Proofs.Document.ReusableParts
import SchemaGraph.Proofs.Document.Sections
import SchemaGraph.Proofs.Document.Shape
import SchemaGraph.Proofs.Document.Texts
import SchemaGraph.Proofs.Flattening.Dependency
import SchemaGraph.Proofs.Flattening.Errors
import SchemaGraph.Proofs.Flattening.LastMember
import SchemaGraph.Proofs.Flattening.MergedObject
import SchemaGraph.Proofs.Flattening.Merging
import SchemaGraph.Proofs.Flattening.Order
import SchemaGraph.Proofs.Flattening.Outcome
import SchemaGraph.Proofs.Flattening.Redefinition
import SchemaGraph.Proofs.Flattening.Run
import SchemaGraph.Proofs.Flattening.Stage
import SchemaGraph.Proofs.ForeignReferences
import SchemaGraph.Proofs.Links.Alternatives
import SchemaGraph.Proofs.Links.Attachments
import SchemaGraph.Proofs.Links.Claims
import SchemaGraph.Proofs.Links.Parents
import SchemaGraph.Proofs.Links.Payloads
import SchemaGraph.Proofs.Links.RecordTypes
import SchemaGraph.Proofs.Links.Records
import SchemaGraph.Proofs.Links.StandIns
import SchemaGraph.Proofs.Links.SumTypes
import SchemaGraph.Proofs.Links.Types
import SchemaGraph.Proofs.Links.Untagged
import SchemaGraph.Proofs.Naming.Boundaries
import SchemaGraph.Proofs.Naming.Collisions
import SchemaGraph.Proofs.Naming.Forms
import SchemaGraph.Proofs.Naming.Packages
import SchemaGraph.Proofs.Naming.Repetitions
import SchemaGraph.Proofs.Naming.ReservedWords
import SchemaGraph.Proofs.Naming.SnakeCase
import SchemaGraph.Proofs.Naming.WellFormed
import SchemaGraph.Proofs.Naming.Words
import SchemaGraph.Proofs.Paths
import SchemaGraph.Proofs.Pointers
import SchemaGraph.Proofs.Reports
import SchemaGraph.Proofs.Resolution
import SchemaGraph.Proofs.ResolutionOutcome
import SchemaGraph.Proofs.Session.Attachments
import SchemaGraph.Proofs.Session.Calls
import SchemaGraph.Proofs.Session.FormBodies
import SchemaGraph.Proofs.Session.FormFields
import SchemaGraph.Proofs.Session.IdentifierForms
import SchemaGraph.Proofs.Session.Identifiers
import SchemaGraph.Proofs.Session.Imports
import SchemaGraph.Proofs.Session.Links
import SchemaGraph.Proofs.Session.NormalForm
import SchemaGraph.Proofs.Session.Strictness
import SchemaGraph.Proofs.Text.Ascii
import SchemaGraph.Proofs.Text.PercentEncoding
import SchemaGraph.Proofs.Text.Splitting
import SchemaGraph.Proofs.Yaml.Keys
import SchemaGraph.Reference.Location
import SchemaGraph.Reference.Pointer
import SchemaGraph.Schema.Basic
import SchemaGraph.Schema.Table
import SchemaGraph.Session
import SchemaGraph.Text.Case
import SchemaGraph.Text.Class
import SchemaGraph.Text.Composition
import SchemaGraph.Text.Composition.Table
import SchemaGraph.Text.Digits
import SchemaGraph.Text.Marks
import SchemaGraph.Text.Octets
import SchemaGraph.Text.Punycode
import SchemaGraph.Text.Quoted
import SchemaGraph.Text.Ranges
import SchemaGraph.Typing.Mapping
import SchemaGraph.Typing.TypeRef
import SchemaGraph.Url.Basic
import SchemaGraph.Url.Domain
import SchemaGraph.Url.Domain.Direction
import SchemaGraph.Url.Domain.Joining
import SchemaGraph.Url.Domain.Mapping
import SchemaGraph.Url.Host
import SchemaGraph.Yaml.BlockScalar
import SchemaGraph.Yaml.Cursor
import SchemaGraph.Yaml.Gap
import SchemaGraph.Yaml.Lexer
import SchemaGraph.Yaml.Node
import SchemaGraph.Yaml.PlainScalar
import SchemaGraph.Yaml.Printer
import SchemaGraph.Yaml.Properties
import SchemaGraph.Yaml.QuotedScalar
import SchemaGraph.Yaml.Scalar
import SchemaGraph.Yaml.Token
import SchemaGraph.Yaml.Value
