import SchemaGraph.Document.Conversion
import SchemaGraph.Document.Normal
import SchemaGraph.Document.Operations
import SchemaGraph.Yaml.Value

/-!
# Loading a document

`Document.load` reads the text of a document, YAML or JSON, into the table of its named schemas and
its operations. A text that cannot be read, and a document whose version is not known, are the only
failures; every other fault is entered in the log.
-/

namespace SchemaGraph.Document

/-- Why a document cannot be loaded. -/
inductive LoadError where
  /-- The text is no YAML value. -/
  | unreadable
  /-- The value is no mapping. -/
  | notMapping
  /-- A part of the document does not have its structure. -/
  | malformed
  /-- The version that the document declares is not 3. -/
  | openapiVersion (version : String)
  /-- The version that a document of the older format declares is not 2.0. -/
  | swaggerVersion (version : String)
  /-- No version is declared. -/
  | noVersion
  deriving DecidableEq, Repr

/-- The explanation shown to a reader. -/
def LoadError.message : LoadError → String
  | .unreadable => "Failed to parse document: malformed text"
  | .notMapping => "Document root must be a mapping"
  | .malformed => "Failed to read document structure: unexpected structure"
  | .openapiVersion version => "Unsupported OpenAPI version '" ++ version ++ "'"
  | .swaggerVersion version => "Unsupported Swagger version '" ++ version ++ "'"
  | .noVersion => "Document declares neither 'openapi' nor 'swagger'"

/-- A document that has been loaded. -/
structure Loaded where
  table : Table
  operations : List Operation
  /-- The address that the document gives itself. -/
  address : Option String
  title : Option String
  log : Log

/-- Why the version of a document is not known, if it is not. The newer format counts when both
are declared. -/
def versionFault? (root : Root) : Option LoadError :=
  match root.openapi, root.swagger with
  | some version, _ =>
      if "3.".toList.isPrefixOf version.toList then none else some (.openapiVersion version)
  | none, some version =>
      if version = "2.0" || "2.0.".toList.isPrefixOf version.toList then none
      else some (.swaggerVersion version)
  | none, none => some .noVersion

/-- The schemas and operations of a document in its structure. -/
def ofRoot (root : Root) : Loaded :=
  let table := convertTable root.address root.schemas
  let operations := root.operations
  { table := table.value
    operations := operations.value
    address := root.address
    title := root.title
    log := (Log.empty.record table.reports).record operations.reports }

/-- Load a document from its value. -/
def ofValue (value : Json) : Except LoadError Loaded :=
  match value with
  | .object _ =>
      match (normalize value).object?.bind Root.read? with
      | none => .error .malformed
      | some root =>
          match versionFault? root with
          | some fault => .error fault
          | none => .ok (ofRoot root)
  | _ => .error .notMapping

/-- Load a document from its text. -/
def load (text : String) : Except LoadError Loaded :=
  match Yaml.parse? text with
  | some value => ofValue value
  | none => .error .unreadable

end SchemaGraph.Document
