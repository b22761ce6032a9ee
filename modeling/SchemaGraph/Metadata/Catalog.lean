import SchemaGraph.Json.Printer
import SchemaGraph.Metadata.Record
import SchemaGraph.Typing.Mapping

/-!
# From schemas and operations to records

A `Catalog` is what records are made from: a table whose compositions are flattened and whose cycles
are marked, the sum types discovered in it, and a namer. Making a record only reads the catalog, so
records can be asked for in any order.
-/

namespace SchemaGraph

/-- What the records of a document are made from. -/
structure Catalog where
  table : Table
  namer : Namer
  discovery : Discovery

/-- Run a step on every item, in order. -/
def Reported.forAll {α β : Type} (step : α → Reported β) : List α → Reported (List β)
  | [] => pure []
  | item :: rest => do
      let first ← step item
      let more ← Reported.forAll step rest
      pure (first :: more)

@[simp]
theorem Reported.value_forAll {α β : Type} (step : α → Reported β) (items : List α) :
    (Reported.forAll step items).value = items.map fun item => (step item).value := by
  induction items with
  | nil => rfl
  | cons item rest ih => simp [Reported.forAll, ih]

@[simp]
theorem Reported.reports_forAll {α β : Type} (step : α → Reported β) (items : List α) :
    (Reported.forAll step items).reports = items.flatMap fun item => (step item).reports := by
  induction items with
  | nil => rfl
  | cons item rest ih => simp [Reported.forAll, ih]

/-- The text of an enum literal: a string as it is, every other value as JSON. -/
def Json.literalText : Json → String
  | .string value => value
  | value => value.compact

/-- The description of the schema at the place where it is used. -/
def SchemaUse.description (use : SchemaUse) : Option String :=
  (Use.schema? use).bind fun schema => schema.docs.description

namespace Catalog

/-- The types of the schemas in the catalog. -/
def mapper (catalog : Catalog) : TypeMapper :=
  ⟨catalog.table, catalog.namer⟩

/-- The import of the class of a named schema. -/
def classHint (catalog : Catalog) (schemaName : String) : ImportHint :=
  .model (catalog.namer.className schemaName) (catalog.namer.fileName schemaName)

/-- The records of the literals of an enum. A `null` literal only says that the value may be null,
so it has no record. -/
def enumRecords (catalog : Catalog) (leaf : Scalar) : List EnumRecord :=
  let texts := (leaf.literals.filter fun value => !value.isNull).map Json.literalText
  let identifiers := Naming.distinct (texts.map catalog.namer.enumIdentifier)
  (texts.zip identifiers).map fun (text, identifier) => ⟨identifier, text, leaf.kind = .string⟩

/-- The identifiers of properties or parameters with the given names. -/
def identifiers (catalog : Catalog) (names : List String) : List String :=
  Naming.distinct (names.map catalog.namer.propertyIdentifier)

/-- The properties of an object with their identifiers. -/
def identified (catalog : Catalog) (object : ObjectShape) :
    List ((String × SchemaUse) × String) :=
  object.properties.zip (catalog.identifiers (Keyed.keys object.properties))

/-- The records of the properties of an object named `owner`. -/
def propertyRecords (catalog : Catalog) (owner : String) (object : ObjectShape) :
    Reported (List PropertyRecord) :=
  Reported.forAll (fun ((name, use), identifier) => do
    let type ← catalog.mapper.typeOf .plain (some owner) use
    pure ⟨name, identifier, type, object.required.contains name, object.nullable.contains name,
      SchemaUse.description use, type.imports⟩) (catalog.identified object)

/-- The imports for the parent of a schema. -/
def parentHints (catalog : Catalog) (schemaName : String) : List ImportHint :=
  ((catalog.discovery.registry.parent? schemaName).map catalog.classHint).toList

/-- The imports for the named alternatives of a sum type that are in the table. -/
def alternativeHints (catalog : Catalog) (sumType : SumType) : List ImportHint :=
  sumType.alternatives.filterMap fun listed =>
    match listed.alternative with
    | .reference schemaName _ =>
        if catalog.table.contains schemaName then some (catalog.classHint schemaName) else none
    | _ => none

/-- The imports of a model: its parent, the alternatives of its sum type, the types of its
properties and the type it stands for, without repetition and without the model itself. -/
def modelImports (catalog : Catalog) (schemaName className : String) (sumType : Option SumType)
    (properties : List PropertyRecord) (valueType : Option TypeRef) : List ImportHint :=
  let needed := catalog.parentHints schemaName
    ++ sumType.elim [] catalog.alternativeHints
    ++ properties.flatMap PropertyRecord.imports
    ++ valueType.elim [] TypeRef.imports
  (ImportHint.merge [] needed).filter fun hint => !hint.isClass className

/-- The literals, the sum type, the properties and the value type of a schema. -/
structure Content where
  literals : Option (List EnumRecord)
  sumType : Option SumType
  properties : List PropertyRecord
  valueType : Option TypeRef

/-- The content of a schema that stands for a type. -/
def valueContent (catalog : Catalog) (name : String) (schema : Schema) : Reported Content := do
  let type ← catalog.mapper.schemaType .plain (some name) schema
  pure ⟨none, none, [], some type⟩

/-- What the record of a named schema holds besides names, documentation and imports. -/
def content (catalog : Catalog) (name : String) (schema : Schema) : Reported Content :=
  match schema with
  | .object shape => do
      let properties ← catalog.propertyRecords name shape
      pure ⟨none, none, properties, none⟩
  | .composition _ => pure ⟨none, Keyed.get? catalog.discovery.sumTypes name, [], none⟩
  | .scalar leaf =>
      if leaf.isEnum then pure ⟨some (catalog.enumRecords leaf), none, [], none⟩
      else catalog.valueContent name schema
  | _ => catalog.valueContent name schema

/-- The record of a named schema. -/
def modelRecord (catalog : Catalog) (name : String) (schema : Schema) : Reported ModelRecord := do
  let className := catalog.namer.className name
  let content ← catalog.content name schema
  pure {
    schemaName := name
    className := className
    fileName := catalog.namer.fileName name
    docs := schema.docs
    literals := content.literals
    sumType := content.sumType
    parentClass := (catalog.discovery.registry.parent? name).map catalog.namer.className
    properties := content.properties
    valueType := content.valueType
    imports := catalog.modelImports name className content.sumType content.properties
      content.valueType }

/-- The record of the schema with a name, if the table has one. -/
def model? (catalog : Catalog) (name : String) : Reported (Option ModelRecord) :=
  match catalog.table.get? name with
  | some schema => do
      let record ← catalog.modelRecord name schema
      pure (some record)
  | none => pure none

/-- The records of all schemas in table order. -/
def models (catalog : Catalog) : Reported (List ModelRecord) :=
  Reported.forAll (fun (name, schema) => catalog.modelRecord name schema) catalog.table.entries

/-- The object that a body's schema is or leads to. -/
def bodyObject? (catalog : Catalog) (subject : String) (use : SchemaUse) :
    Reported (Option ObjectShape) := do
  let target ← catalog.table.target (some subject) use
  match target.schema with
  | .object shape => pure (some shape)
  | .alias reference => do
      let resolved ← catalog.table.resolve (some subject) reference
      match resolved.schema with
      | .object shape => pure (some shape)
      | _ => pure none
  | _ => pure none

/-- The records of the fields of a body. -/
def bodyFields (catalog : Catalog) (subject : String) (payload : Payload) (use : SchemaUse) :
    Reported (List FieldRecord) := do
  match ← catalog.bodyObject? subject use with
  | none => pure []
  | some object =>
      Reported.forAll (fun ((name, use), identifier) => do
        let type ← catalog.mapper.typeOf payload (some subject) use
        pure ⟨name, identifier, none, type, object.required.contains name,
          object.nullable.contains name, SchemaUse.description use, type.imports⟩)
        (catalog.identified object)

/-- The record of a request body. -/
def bodyRecord (catalog : Catalog) (subject : String) (body : RequestBody) :
    Reported BodyRecord := do
  let type ← catalog.mapper.typeOf .plain (some subject) body.schema
  let fields ← match body.format with
    | .multipart => catalog.bodyFields subject .multipart body.schema
    | .form => catalog.bodyFields subject .plain body.schema
    | .json | .other => pure []
  pure ⟨body.contentType, body.format, type, body.required, body.description, fields⟩

/-- The records of parameters. -/
def parameterRecords (catalog : Catalog) (subject : String) (parameters : List Parameter) :
    Reported (List FieldRecord) :=
  Reported.forAll (fun (parameter, identifier) => do
    let type ← catalog.mapper.typeOf .plain (some subject) parameter.schema
    pure ⟨parameter.name, identifier, some parameter.location, type, parameter.required,
      parameter.nullable, parameter.description, type.imports⟩)
    (parameters.zip (catalog.identifiers (parameters.map Parameter.name)))

/-- The imports of an operation: the types of its parameters, of its body and of the body's
fields. -/
def operationImports (parameters : List FieldRecord) (body : Option BodyRecord) :
    List ImportHint :=
  let bodyHints (record : BodyRecord) : List ImportHint :=
    record.type.imports ++ record.fields.flatMap FieldRecord.imports
  ImportHint.merge [] (parameters.flatMap FieldRecord.imports ++ body.elim [] bodyHints)

/-- The record of an operation. -/
def operationRecord (catalog : Catalog) (operation : Operation) : Reported OperationRecord := do
  let subject := operation.operationId
  let parameters ← catalog.parameterRecords subject operation.parameters
  let body ← match operation.body with
    | some body => do
        let record ← catalog.bodyRecord subject body
        pure (some record)
    | none => pure none
  pure ⟨subject, operation.method, operation.path, parameters, body,
    operationImports parameters body⟩

/-- The records of operations in order. -/
def operations (catalog : Catalog) (operations : List Operation) :
    Reported (List OperationRecord) :=
  Reported.forAll catalog.operationRecord operations

end Catalog

end SchemaGraph
