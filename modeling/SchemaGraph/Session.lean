import SchemaGraph.Config
import SchemaGraph.Document.Load
import SchemaGraph.Graph.Cycle
import SchemaGraph.Graph.Flattening
import SchemaGraph.Metadata.Catalog
import SchemaGraph.Metadata.Encoding

/-!
# Sessions

A `Session` is a document whose compositions are flattened, whose cycles are marked and whose sum
types are discovered, in this order. Records are made from it on demand; what is reported on the way
is entered in its log.
-/

namespace SchemaGraph

/-- A document that is ready for records to be made from it. -/
structure Session where
  config : Config
  title : Option String
  /-- The operations of the document. -/
  operationList : List Operation
  catalog : Catalog
  /-- The names of the schemas that were `allOf` compositions, in the order of their flattening. -/
  flattened : List String
  /-- The properties that close a cycle. -/
  backEdges : List PropertyEdge
  log : Log

/-- The schemas, operations and types of a document for a code generator. -/
structure TypeGraph where
  package : String
  title : Option String
  models : List ModelRecord
  operations : List OperationRecord
  sealed : Registry
  backEdges : List PropertyEdge
  flattened : List String
  log : Log

/-- A type graph as JSON. -/
def TypeGraph.toJson (graph : TypeGraph) : Json :=
  .object [("packageName", .string graph.package), ("title", .textOrNull graph.title),
    ("models", .ofList ModelRecord.toJson graph.models),
    ("operations", .ofList OperationRecord.toJson graph.operations),
    ("sealed", graph.sealed.toJson),
    ("backEdges", .ofList PropertyEdge.toJson graph.backEdges),
    ("flattened", .ofTexts graph.flattened), ("diagnostics", graph.log.toJson)]

/-- A run failed because of the given number of errors. -/
structure StrictError where
  errors : Nat
  deriving DecidableEq, Repr

/-- The explanation shown to a reader. -/
def StrictError.message (error : StrictError) : String :=
  "strict mode: " ++ toString error.errors ++ " error diagnostic(s) recorded"

namespace Session

/-- Prepare a table, with a log that may hold entries already. -/
def prepare (config : Config) (title : Option String) (operations : List Operation)
    (table : Table) (log : Log) : Session :=
  let flattening := table.flatten
  let backEdges := flattening.value.table.backEdges
  let marked := flattening.value.table.markEdges backEdges
  let discovery := marked.discover config.namer
  { config := config
    title := title
    operationList := operations
    catalog := ⟨marked, config.namer, discovery.value⟩
    flattened := flattening.value.flattened
    backEdges := backEdges
    log := (log.record flattening.reports).record discovery.reports }

/-- Prepare a table without operations. -/
def ofTable (config : Config) (table : Table) : Session :=
  prepare config none [] table .empty

/-- Prepare a document. -/
def ofDocument (config : Config) (document : Document.Loaded) : Session :=
  prepare config document.title document.operations document.table document.log

/-- Load a document from its text and prepare it. -/
def load (config : Config) (text : String) : Except Document.LoadError Session :=
  (Document.load text).map (ofDocument config)

/-- The value of a computation, and the session with its reports in the log. -/
def entering {α : Type} (session : Session) (result : Reported α) : α × Session :=
  (result.value, { session with log := session.log.record result.reports })

/-- Make the record of the schema with a name, if there is one. -/
def model? (session : Session) (name : String) : Option ModelRecord × Session :=
  session.entering (session.catalog.model? name)

/-- Make the records of all schemas in table order. -/
def models (session : Session) : List ModelRecord × Session :=
  session.entering session.catalog.models

/-- Make the records of all operations in document order. -/
def operations (session : Session) : List OperationRecord × Session :=
  session.entering (session.catalog.operations session.operationList)

/-- Make all records. -/
def graph (session : Session) : TypeGraph × Session :=
  let (models, session) := session.models
  let (operations, session) := session.operations
  ({ package := session.config.package
     title := session.title
     models := models
     operations := operations
     sealed := session.catalog.discovery.registry
     backEdges := session.backEdges
     flattened := session.flattened
     log := session.log }, session)

/-- Fail when the options ask for it and the log holds errors. -/
def ensureClean (session : Session) : Except StrictError Unit :=
  if session.config.strict && session.log.hasErrors then .error ⟨session.log.errorCount⟩
  else .ok ()

end Session

end SchemaGraph
