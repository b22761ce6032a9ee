import SchemaGraph.Document.SchemaReading

/-!
# The structure of a document

The parts of a document around its schemas: components, path items, operations, parameters and
request bodies. Schemas stay values, so that a fault in one of them does not spread. Every reader
answers `none` when a part does not have its structure. A part is given by the names of its fields,
or as a list of their values in a fixed order.
-/

namespace SchemaGraph.Document

/-- A field of a part: its name, and whether a list of values may end before it. -/
structure FieldRule where
  name : String
  mayEndBefore : Bool

/-- The fields of a part that is given as a list of values. -/
def listedFields : List FieldRule → List Json → Option (Keyed Json)
  | [], [] => some []
  | [], _ :: _ => none
  | rule :: rules, [] => if rule.mayEndBefore then listedFields rules [] else none
  | rule :: rules, value :: rest =>
      (listedFields rules rest).map fun fields => (rule.name, value) :: fields

/-- The fields of a part. -/
def fieldsOf? (rules : List FieldRule) : Json → Option (Keyed Json)
  | .object fields => some fields
  | .array items => listedFields rules items
  | _ => none

/-- A text that has to be there. -/
def text? (fields : Keyed Json) (key : String) : Option String :=
  (Keyed.get? fields key).bind Json.string?

/-- A text that may be missing or `null`. -/
def optionalText? (fields : Keyed Json) (key : String) : Option (Option String) :=
  match Keyed.get? fields key with
  | none | some .null => some none
  | some (.string value) => some (some value)
  | some _ => none

/-- A text that may be missing, but not `null`. -/
def textOrEmpty? (fields : Keyed Json) (key : String) : Option String :=
  match Keyed.get? fields key with
  | none => some ""
  | some value => value.string?

/-- A Boolean that is false when it is missing. -/
def flag? (fields : Keyed Json) (key : String) : Option Bool :=
  match Keyed.get? fields key with
  | none => some false
  | some value => value.bool?

/-- A value that may be missing or `null`. -/
def optionalValue (fields : Keyed Json) (key : String) : Option Json :=
  (Keyed.get? fields key).filter fun value => !value.isNull

/-- A part that may be missing or `null`. -/
def optionalPart? {α : Type} (read : Json → Option α) (fields : Keyed Json) (key : String) :
    Option (Option α) :=
  match optionalValue fields key with
  | none => some none
  | some value => (read value).map some

/-- A list of parts that is empty when it is missing. -/
def parts? {α : Type} (read : Json → Option α) (fields : Keyed Json) (key : String) :
    Option (List α) :=
  match Keyed.get? fields key with
  | none => some []
  | some value => value.array?.bind fun items => allPresent (items.map read)

/-- Parts by name, none when the field is missing. -/
def namedParts? {α : Type} (read : Json → Option α) (fields : Keyed Json) (key : String) :
    Option (Keyed α) :=
  match Keyed.get? fields key with
  | none => some []
  | some value => value.object?.bind fun entries =>
      allPresent (entries.map fun (name, part) => (read part).map fun found => (name, found))

/-- A part of a document, or a reference to one. -/
inductive OrReference (part : Type) where
  | reference (reference : String)
  | value (value : part)

/-- The reference that a value writes, by name or as a list. -/
def referenceText? (value : Json) : Option String := do
  let fields ← fieldsOf? [⟨"$ref", false⟩, ⟨"description", true⟩, ⟨"summary", true⟩] value
  let reference ← text? fields "$ref"
  if allowAll fields isText ["description", "summary"] then some reference else none

/-- Read a part of a document or a reference to one. -/
def orReference? {part : Type} (read : Json → Option part) (value : Json) :
    Option (OrReference part) :=
  match referenceText? value with
  | some reference => some (.reference reference)
  | none => (read value).map .value

/-- A parameter. Its type is given by a schema, or in place by type, format and items. -/
structure ParameterObject where
  name : String
  location : String
  required : Bool
  description : Option String
  schema : Option Json
  type : Option String
  format : Option String
  items : Option Json

/-- Read a parameter. -/
def ParameterObject.read? (value : Json) : Option ParameterObject := do
  let fields ← fieldsOf?
    [⟨"name", false⟩, ⟨"in", false⟩, ⟨"required", true⟩, ⟨"description", false⟩,
     ⟨"schema", false⟩, ⟨"type", false⟩, ⟨"format", false⟩, ⟨"items", false⟩] value
  let name ← text? fields "name"
  let location ← text? fields "in"
  let required ← flag? fields "required"
  let description ← optionalText? fields "description"
  let type ← optionalText? fields "type"
  let format ← optionalText? fields "format"
  pure ⟨name, location, required, description, optionalValue fields "schema", type, format,
    optionalValue fields "items"⟩

/-- A request body: the schema of each media type that it may have. -/
structure BodyObject where
  description : Option String
  content : Keyed (Option Json)
  required : Bool

/-- Read the schema of a media type. -/
def readMediaType? (value : Json) : Option (Option Json) := do
  let fields ← fieldsOf? [⟨"schema", false⟩] value
  pure (optionalValue fields "schema")

/-- Read a request body. -/
def BodyObject.read? (value : Json) : Option BodyObject := do
  let fields ← fieldsOf?
    [⟨"description", false⟩, ⟨"content", true⟩, ⟨"required", true⟩] value
  let description ← optionalText? fields "description"
  let content ← namedParts? readMediaType? fields "content"
  let required ← flag? fields "required"
  pure ⟨description, content, required⟩

/-- An operation of a path item. -/
structure OperationObject where
  operationId : Option String
  parameters : List (OrReference ParameterObject)
  requestBody : Option (OrReference BodyObject)
  consumes : List String

/-- Read an operation. -/
def OperationObject.read? (value : Json) : Option OperationObject := do
  let fields ← fieldsOf?
    [⟨"operationId", false⟩, ⟨"parameters", true⟩, ⟨"requestBody", false⟩, ⟨"consumes", true⟩]
    value
  let operationId ← optionalText? fields "operationId"
  let parameters ← parts? (orReference? ParameterObject.read?) fields "parameters"
  let requestBody ← optionalPart? (orReference? BodyObject.read?) fields "requestBody"
  let consumes ← parts? Json.string? fields "consumes"
  pure ⟨operationId, parameters, requestBody, consumes⟩

/-- The methods of a path item in the order in which its operations are listed: the field that holds
the operation, and the name of the method. -/
def methods : List (String × String) :=
  [("get", "GET"), ("put", "PUT"), ("post", "POST"), ("delete", "DELETE"),
   ("options", "OPTIONS"), ("head", "HEAD"), ("patch", "PATCH"), ("trace", "TRACE")]

/-- A path item: the parameters of all its operations, and each method with its operation. -/
structure PathItem where
  parameters : List (OrReference ParameterObject)
  operations : List (String × OperationObject)

/-- Read the operation of one method, if there is one. -/
def readMethod? (fields : Keyed Json) (field method : String) :
    Option (Option (String × OperationObject)) :=
  (optionalPart? OperationObject.read? fields field).map fun found =>
    found.map fun operation => (method, operation)

/-- Read a path item. -/
def PathItem.read? (value : Json) : Option PathItem := do
  let fields ← fieldsOf?
    (⟨"parameters", true⟩ :: methods.map fun (field, _) => ⟨field, false⟩) value
  let parameters ← parts? (orReference? ParameterObject.read?) fields "parameters"
  let operations ← allPresent (methods.map fun (field, method) => readMethod? fields field method)
  pure ⟨parameters, operations.filterMap id⟩

/-- The reusable parts of a document. -/
structure Components where
  schemas : Keyed Json
  parameters : Keyed (OrReference ParameterObject)
  requestBodies : Keyed (OrReference BodyObject)

/-- No reusable parts. -/
def Components.empty : Components := ⟨[], [], []⟩

/-- Read the reusable parts of a document. -/
def Components.read? (value : Json) : Option Components := do
  let fields ← fieldsOf?
    [⟨"schemas", true⟩, ⟨"parameters", true⟩, ⟨"requestBodies", true⟩] value
  let schemas ← namedParts? some fields "schemas"
  let parameters ← namedParts? (orReference? ParameterObject.read?) fields "parameters"
  let requestBodies ← namedParts? (orReference? BodyObject.read?) fields "requestBodies"
  pure ⟨schemas, parameters, requestBodies⟩

/-- Read the title of a document from its information part. -/
def readTitle? (value : Json) : Option String := do
  let fields ← fieldsOf? [⟨"title", true⟩, ⟨"version", true⟩] value
  let title ← textOrEmpty? fields "title"
  let _ ← textOrEmpty? fields "version"
  pure title

/-- A document in its structure. The definitions and parameters at the root, and the media types
that operations consume, come from the older version of the format. -/
structure Root where
  openapi : Option String
  swagger : Option String
  address : Option String
  title : Option String
  components : Components
  definitions : Keyed Json
  parameters : Keyed ParameterObject
  consumes : List String
  paths : Keyed Json

/-- Read a document from its fields. -/
def Root.read? (fields : Keyed Json) : Option Root := do
  let openapi ← optionalText? fields "openapi"
  let swagger ← optionalText? fields "swagger"
  let address ← optionalText? fields "$self"
  let title ← optionalPart? readTitle? fields "info"
  let components ← optionalPart? Components.read? fields "components"
  let definitions ← namedParts? some fields "definitions"
  let parameters ← namedParts? ParameterObject.read? fields "parameters"
  let consumes ← parts? Json.string? fields "consumes"
  let paths ← namedParts? some fields "paths"
  pure ⟨openapi, swagger, address, title.filter fun text => !text.isEmpty,
    components.getD .empty, definitions, parameters, consumes, paths⟩

/-- The named schemas of a document. The older place counts only when the newer one is empty. -/
def Root.schemas (root : Root) : Keyed Json :=
  if root.components.schemas.isEmpty then root.definitions else root.components.schemas

end SchemaGraph.Document
