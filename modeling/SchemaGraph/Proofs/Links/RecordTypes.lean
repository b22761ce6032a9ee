import SchemaGraph.Metadata.Catalog

/-!
# Types in records

Every type in a record is the type of a schema where it is used, and comes with its own imports
(`Catalog.Typed`). The payload is that of the place: a field of a body has the payload of the body's
format, and all other types are plain (`typed_content`, `operationTyped_operationRecord`).
-/

namespace SchemaGraph

/-- Merging imports loses and adds none. -/
theorem ImportHint.mem_merge {hints more : List ImportHint} {hint : ImportHint} :
    hint ∈ merge hints more ↔ hint ∈ hints ∨ hint ∈ more := by
  induction more generalizing hints with
  | nil => simp [merge]
  | cons first rest ih =>
      have hadd : hint ∈ add hints first ↔ hint ∈ hints ∨ hint = first := mem_append_missing
      rw [List.mem_cons, ← or_assoc, ← hadd]
      exact ih

/-- What a part that may be missing gives comes from that part. -/
theorem mem_elim_iff {α β : Type} {part : Option α} {items : α → List β} {item : β} :
    item ∈ part.elim [] items ↔ ∃ value ∈ part, item ∈ items value := by
  cases part <;> simp

/-- The types in a model's record. -/
def ModelRecord.types (record : ModelRecord) : List TypeRef :=
  record.properties.map PropertyRecord.type ++ record.valueType.toList

/-- The imports of a model and of its properties. -/
def ModelRecord.hints (record : ModelRecord) : List ImportHint :=
  record.imports ++ record.properties.flatMap PropertyRecord.imports

/-- The types of a body and of its fields. -/
def BodyRecord.types (record : BodyRecord) : List TypeRef :=
  record.type :: record.fields.map FieldRecord.type

/-- The types in an operation's record. -/
def OperationRecord.types (record : OperationRecord) : List TypeRef :=
  record.parameters.map FieldRecord.type ++ record.body.elim [] BodyRecord.types

/-- The imports of an operation, of its parameters and of the fields of its body. -/
def OperationRecord.hints (record : OperationRecord) : List ImportHint :=
  record.imports ++ record.parameters.flatMap FieldRecord.imports ++
    record.body.elim [] fun body => body.fields.flatMap FieldRecord.imports

/-- The payload of the fields of a body. -/
def BodyFormat.payload : BodyFormat → Payload
  | .multipart => .multipart
  | .json | .form | .other => .plain

namespace Catalog

variable {catalog : Catalog} {subject : String}

/-- The type of a schema where it is used, with its imports. -/
def Typed (catalog : Catalog) (payload : Payload) (type : TypeRef) (imports : List ImportHint) :
    Prop :=
  (∃ subject use, type = (catalog.mapper.typeOf payload subject use).value) ∧
    imports = type.imports

theorem typed_typeOf (catalog : Catalog) (payload : Payload) (subject : Option String)
    (use : SchemaUse) :
    catalog.Typed payload (catalog.mapper.typeOf payload subject use).value
      (catalog.mapper.typeOf payload subject use).value.imports :=
  ⟨⟨subject, use, rfl⟩, rfl⟩

/-- The types in the content of a model's record are plain. -/
structure Content.Typed (catalog : Catalog) (content : Content) : Prop where
  properties : ∀ property ∈ content.properties,
    catalog.Typed .plain property.type property.imports
  valueType : ∀ type ∈ content.valueType, catalog.Typed .plain type type.imports

theorem typed_valueContent {name : String} {schema : Schema} :
    (catalog.valueContent name schema).value.Typed catalog where
  properties := nofun
  valueType := by
    rintro _ ⟨⟩
    -- A schema that stands for a type is mapped as if it were used in place.
    have htype : catalog.mapper.typeOf .plain (some name) (.inline schema) =
        catalog.mapper.schemaType .plain (some name) schema := by rw [TypeMapper.typeOf]
    exact htype ▸ catalog.typed_typeOf .plain (some name) (.inline schema)

theorem typed_propertyRecords {owner : String} {object : ObjectShape} {property : PropertyRecord}
    (hproperty : property ∈ (catalog.propertyRecords owner object).value) :
    catalog.Typed .plain property.type property.imports := by
  simp only [propertyRecords, Reported.value_forAll, List.mem_map] at hproperty
  obtain ⟨⟨⟨_, use⟩, _⟩, _, rfl⟩ := hproperty
  exact catalog.typed_typeOf .plain (some owner) use

/-- Whatever the schema of a model is, the types in its record are plain. -/
theorem typed_content (catalog : Catalog) (name : String) (schema : Schema) :
    (catalog.content name schema).value.Typed catalog := by
  unfold content
  split
  · exact ⟨fun _ => typed_propertyRecords, nofun⟩
  · exact ⟨nofun, nofun⟩
  · split
    · exact ⟨nofun, nofun⟩
    · exact typed_valueContent
  · exact typed_valueContent

theorem typed_parameterRecords {parameters : List Parameter} {field : FieldRecord}
    (hfield : field ∈ (catalog.parameterRecords subject parameters).value) :
    catalog.Typed .plain field.type field.imports := by
  simp only [parameterRecords, Reported.value_forAll, List.mem_map] at hfield
  obtain ⟨⟨parameter, _⟩, _, rfl⟩ := hfield
  exact catalog.typed_typeOf .plain (some subject) parameter.schema

theorem typed_bodyFields {payload : Payload} {use : SchemaUse} {field : FieldRecord}
    (hfield : field ∈ (catalog.bodyFields subject payload use).value) :
    catalog.Typed payload field.type field.imports := by
  rw [bodyFields, Reported.value_bind] at hfield
  split at hfield
  · cases hfield
  · simp only [Reported.value_forAll, List.mem_map] at hfield
    obtain ⟨⟨⟨_, use⟩, _⟩, _, rfl⟩ := hfield
    exact catalog.typed_typeOf payload (some subject) use

/-- The type of a body is plain, and the types of its fields have the payload of its format. -/
structure BodyTyped (catalog : Catalog) (record : BodyRecord) : Prop where
  type : catalog.Typed .plain record.type record.type.imports
  fields : ∀ field ∈ record.fields,
    catalog.Typed record.format.payload field.type field.imports

theorem bodyTyped_bodyRecord {body : RequestBody} :
    catalog.BodyTyped (catalog.bodyRecord subject body).value := by
  have htype := catalog.typed_typeOf .plain (some subject) body.schema
  simp only [bodyRecord, Reported.value_bind]
  cases body.format with
  | multipart => exact ⟨htype, fun _ => typed_bodyFields⟩
  | form => exact ⟨htype, fun _ => typed_bodyFields⟩
  | json => exact ⟨htype, nofun⟩
  | other => exact ⟨htype, nofun⟩

/-- The imports for the parent of a schema are for its class. -/
theorem mem_parentHints {name : String} {hint : ImportHint} :
    hint ∈ catalog.parentHints name ↔
      ∃ parent, catalog.discovery.registry.parent? name = some parent ∧
        catalog.classHint parent = hint := by
  rw [parentHints, Option.mem_toList, Option.map_eq_some_iff]

/-- The imports for the alternatives of a sum type are for the classes of schemas of the table. -/
theorem mem_names_of_mem_alternativeHints {sumType : SumType} {hint : ImportHint}
    (hhint : hint ∈ catalog.alternativeHints sumType) :
    ∃ schemaName ∈ catalog.table.names, catalog.classHint schemaName = hint := by
  obtain ⟨listed, _, hhint⟩ := List.mem_filterMap.1 hhint
  split at hhint
  · next schemaName _ _ =>
      obtain ⟨hcontains, hhint⟩ := Option.ite_none_right_eq_some.1 hhint
      exact ⟨schemaName, (catalog.table.get?_isSome_iff _).1 hcontains, Option.some.inj hhint⟩
  · cases hhint

/-- The imports of a model are those of its parent, of the alternatives of its sum type and of the
types in it, but not that of its own class. -/
theorem mem_modelImports_iff {name className : String} {content : Content} {hint : ImportHint} :
    hint ∈ catalog.modelImports name className content.sumType content.properties
        content.valueType ↔
      (hint ∈ catalog.parentHints name ∨
        (∃ sumType ∈ content.sumType, hint ∈ catalog.alternativeHints sumType) ∨
        (∃ property ∈ content.properties, hint ∈ property.imports) ∨
        ∃ type ∈ content.valueType, hint ∈ type.imports) ∧
      hint.isClass className = false := by
  simp only [modelImports, List.mem_filter, ImportHint.mem_merge, List.not_mem_nil, false_or,
    List.mem_append, List.mem_flatMap, mem_elim_iff, or_assoc, Bool.not_eq_true']

/-- The imports of a model are those of its parent, of the alternatives of its sum type and of the
types in it. -/
theorem mem_of_mem_modelImports {name className : String} {content : Content} {hint : ImportHint}
    (hhint : hint ∈ catalog.modelImports name className content.sumType content.properties
      content.valueType) :
    hint ∈ catalog.parentHints name ∨
      (∃ sumType ∈ content.sumType, hint ∈ catalog.alternativeHints sumType) ∨
      (∃ property ∈ content.properties, hint ∈ property.imports) ∨
      ∃ type ∈ content.valueType, hint ∈ type.imports :=
  (mem_modelImports_iff.1 hhint).1

/-- The types in an operation's record have the payloads of their places, and its imports are those
of its parameters, of its body and of the body's fields. -/
structure OperationTyped (catalog : Catalog) (record : OperationRecord) : Prop where
  parameters : ∀ parameter ∈ record.parameters,
    catalog.Typed .plain parameter.type parameter.imports
  body : ∀ body ∈ record.body, catalog.BodyTyped body
  imports : ∀ hint, hint ∈ record.imports ↔
    (∃ parameter ∈ record.parameters, hint ∈ parameter.imports) ∨
    ∃ body ∈ record.body, hint ∈ body.type.imports ∨ ∃ field ∈ body.fields, hint ∈ field.imports

/-- The record of an operation, with the records of its parameters and of its body. -/
theorem value_operationRecord (catalog : Catalog) (operation : Operation) :
    (catalog.operationRecord operation).value =
      let parameters := (catalog.parameterRecords operation.operationId operation.parameters).value
      let body := operation.body.map fun body =>
        (catalog.bodyRecord operation.operationId body).value
      ⟨operation.operationId, operation.method, operation.path, parameters, body,
        operationImports parameters body⟩ := by
  unfold operationRecord
  cases operation.body <;> rfl

theorem operationTyped_operationRecord (catalog : Catalog) (operation : Operation) :
    catalog.OperationTyped (catalog.operationRecord operation).value := by
  rw [value_operationRecord]
  refine ⟨fun _ => typed_parameterRecords, ?body, ?imports⟩
  case body =>
    intro record hrecord
    obtain ⟨body, _, rfl⟩ := Option.map_eq_some_iff.1 hrecord
    exact bodyTyped_bodyRecord
  case imports =>
    intro hint
    simp only [operationImports, ImportHint.mem_merge, List.not_mem_nil, false_or, List.mem_append,
      List.mem_flatMap, mem_elim_iff]

end Catalog

end SchemaGraph
