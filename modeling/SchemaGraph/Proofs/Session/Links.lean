import SchemaGraph.Proofs.Links.Records
import SchemaGraph.Proofs.Session.Calls

/-!
# Links among the records of a session

Records refer to one another by the names of schemas, classes and files: in types and imports, in
the alternatives and the tag of a sum type, and in the parent of a model.
`Session.linksSound_performAll` says that these are names of schemas of the session's table, with
the class and the file that the schema's own record has. All names come from one namer, so that it
is enough to see that each of them starts from the name of a schema.
-/

namespace SchemaGraph.Session

/-- The types in the records of a session. -/
def types (session : Session) : List TypeRef :=
  session.models.1.flatMap ModelRecord.types ++ session.operations.1.flatMap OperationRecord.types

/-- The imports in the records of a session. -/
def hints (session : Session) : List ImportHint :=
  session.models.1.flatMap ModelRecord.hints ++ session.operations.1.flatMap OperationRecord.hints

/-- The record of the named schema has this class and this file. -/
def HasRecord (session : Session) (schemaName className fileName : String) : Prop :=
  ∃ record ∈ session.models.1,
    record.schemaName = schemaName ∧ record.className = className ∧ record.fileName = fileName

/-- An alternative is the schema that a reference leads to, with its class, or the stand-in for a
schema that cannot be found. -/
def Names (session : Session) (reference : String) (alternative : String × String) : Prop :=
  match session.catalog.table.resolve? reference with
  | .ok resolved => alternative.1 = resolved.name ∧
      ∃ fileName, session.HasRecord alternative.1 alternative.2 fileName
  | .error _ => alternative.1 = Resolved.unknownName

/-- The links among the records of a session are sound. -/
structure LinksSound (session : Session) : Prop where
  /-- There is one record for each schema. -/
  names : session.models.1.map ModelRecord.schemaName = session.catalog.table.names
  /-- A class within a type belongs to a schema that is used through a class. -/
  types : ∀ type ∈ session.types, ∀ schemaName className fileName,
    TypeRef.Within (.model schemaName className fileName) type →
      session.HasRecord schemaName className fileName ∧
      ∃ schema, session.catalog.table.get? schemaName = some schema ∧ schema.hasClass
  /-- The class that a hint imports belongs to a schema. -/
  hints : ∀ className fileName, .model className fileName ∈ session.hints →
    ∃ schemaName, session.HasRecord schemaName className fileName
  /-- The named alternatives of a sum type are, in order, what the references among the members of
  its composition lead to. -/
  alternatives : ∀ record ∈ session.models.1, ∀ sumType, record.sumType = some sumType →
    ∃ parts, session.catalog.table.get? record.schemaName = some (.composition parts) ∧
      List.Forall₂ session.Names (parts.members.filterMap SchemaUse.target?) sumType.references
  /-- A tag selects schemas. -/
  tags : ∀ record ∈ session.models.1, ∀ sumType, record.sumType = some sumType →
    ∀ tag, sumType.tag = some tag → ∀ target ∈ tag.mappings,
      ∃ fileName, session.HasRecord target.schemaName target.className fileName
  /-- The parent of a model is a sum type with the model as an alternative. -/
  parents : ∀ record ∈ session.models.1, ∀ className, record.parentClass = some className →
    ∃ parent ∈ session.models.1, parent.className = className ∧
      session.catalog.discovery.registry.parent? record.schemaName = some parent.schemaName ∧
      ∃ sumType, parent.sumType = some sumType ∧
        (record.schemaName, record.className) ∈ sumType.references

variable {session : Session}

/-- The records of models are those of the entries of the table. -/
theorem mem_models_iff {record : ModelRecord} :
    record ∈ session.models.1 ↔ ∃ name schema, session.catalog.table.get? name = some schema ∧
      (session.catalog.modelRecord name schema).value = record := by
  simp only [models, entering, Catalog.models, Reported.value_forAll, List.mem_map, Prod.exists,
    Table.get?_eq_some_iff]

/-- The records of operations are those of the operations of the document. -/
theorem mem_operations_iff {record : OperationRecord} :
    record ∈ session.operations.1 ↔ ∃ operation ∈ session.operationList,
      (session.catalog.operationRecord operation).value = record := by
  simp only [operations, entering, Catalog.operations, Reported.value_forAll, List.mem_map]

/-- A schema of the table has a record with the names that the namer gives. -/
theorem hasRecord_of_mem_names {name : String} (h : name ∈ session.catalog.table.names) :
    session.HasRecord name (session.catalog.namer.className name)
      (session.catalog.namer.fileName name) := by
  obtain ⟨schema, hget⟩ := Option.isSome_iff_exists.1 ((Table.get?_isSome_iff _ _).2 h)
  exact ⟨_, mem_models_iff.2 ⟨name, schema, hget, rfl⟩, rfl, rfl, rfl⟩

/-- The class and the file of a linked hint are those of a record. -/
theorem exists_hasRecord_of_hintLinked {className fileName : String}
    (h : session.catalog.HintLinked (.model className fileName)) :
    ∃ schemaName, session.HasRecord schemaName className fileName := by
  obtain ⟨schemaName, hmem, rfl, rfl⟩ := h _ _ rfl
  exact ⟨schemaName, hasRecord_of_mem_names hmem⟩

/-- The types of a session are those of its models and of its operations. -/
theorem linked_types {type : TypeRef} (h : type ∈ session.types) :
    session.catalog.mapper.Linked type := by
  rcases List.mem_append.1 h with hmodel | hoperation
  · obtain ⟨record, hrecord, htype⟩ := List.mem_flatMap.1 hmodel
    obtain ⟨name, schema, _, rfl⟩ := mem_models_iff.1 hrecord
    exact Catalog.linked_modelRecord htype
  · obtain ⟨record, hrecord, htype⟩ := List.mem_flatMap.1 hoperation
    obtain ⟨operation, _, rfl⟩ := mem_operations_iff.1 hrecord
    exact Catalog.linked_operationRecord htype

/-- The imports of a session are those of its models and of its operations. -/
theorem hintLinked_hints
    (hsound : session.catalog.discovery.Sound session.catalog.table session.catalog.namer)
    {hint : ImportHint} (h : hint ∈ session.hints) : session.catalog.HintLinked hint := by
  rcases List.mem_append.1 h with hmodel | hoperation
  · obtain ⟨record, hrecord, hhint⟩ := List.mem_flatMap.1 hmodel
    obtain ⟨name, schema, _, rfl⟩ := mem_models_iff.1 hrecord
    exact Catalog.hintLinked_modelRecord hsound hhint
  · obtain ⟨record, hrecord, hhint⟩ := List.mem_flatMap.1 hoperation
    obtain ⟨operation, _, rfl⟩ := mem_operations_iff.1 hrecord
    exact Catalog.hintLinked_operationRecord hhint

/-- The sum type in a record is the one discovered in the composition of its name. -/
theorem describes_of_mem_models
    (hsound : session.catalog.discovery.Sound session.catalog.table session.catalog.namer)
    {record : ModelRecord} (hrecord : record ∈ session.models.1) {sumType : SumType}
    (hsumType : record.sumType = some sumType) :
    ∃ parts, session.catalog.table.get? record.schemaName = some (.composition parts) ∧
      sumType.Describes session.catalog.table session.catalog.namer parts := by
  obtain ⟨name, schema, _, rfl⟩ := mem_models_iff.1 hrecord
  exact hsound.sumTypes ((Catalog.linked_content _ name schema).sumType sumType hsumType)

/-- The schemas that the members of a composition refer to are named by its alternatives. -/
theorem names_references {parts : Composition} {sumType : SumType}
    (h : sumType.Describes session.catalog.table session.catalog.namer parts) :
    List.Forall₂ session.Names (parts.members.filterMap SchemaUse.target?) sumType.references := by
  rw [h.references]
  unfold SchemaUse.named?
  rw [← List.map_filterMap, List.forall₂_map_right_iff, List.forall₂_same]
  intro reference _
  unfold Names
  cases hresolve : session.catalog.table.resolve? reference with
  | ok resolved =>
      have hget := (Table.resolve?_eq_ok_iff.1 hresolve).get?
      exact ⟨rfl, _, hasRecord_of_mem_names (Table.mem_names_of_get? hget)⟩
  | error failure => rfl

/-- The links of a session are sound when what has been discovered is. -/
theorem linksSound_of_sound
    (hsound : session.catalog.discovery.Sound session.catalog.table session.catalog.namer) :
    session.LinksSound where
  names := by
    simp only [models, entering, Catalog.models, Reported.value_forAll, List.map_map]
    rfl
  types type htype schemaName className fileName hwithin := by
    obtain ⟨rfl, rfl, schema, hget, hclass⟩ := linked_types htype _ _ _ hwithin
    exact ⟨hasRecord_of_mem_names (Table.mem_names_of_get? hget), schema, hget, hclass⟩
  hints className fileName hhint := exists_hasRecord_of_hintLinked (hintLinked_hints hsound hhint)
  alternatives record hrecord sumType hsumType := by
    obtain ⟨parts, hget, hdescribes⟩ := describes_of_mem_models hsound hrecord hsumType
    exact ⟨parts, hget, names_references hdescribes⟩
  tags record hrecord sumType hsumType tag htag target htarget := by
    obtain ⟨parts, _, hdescribes⟩ := describes_of_mem_models hsound hrecord hsumType
    obtain ⟨hmem, hclass⟩ := hdescribes.tag tag htag target htarget
    exact ⟨_, hclass ▸ hasRecord_of_mem_names hmem⟩
  parents record hrecord className hparent := by
    obtain ⟨name, schema, _, rfl⟩ := mem_models_iff.1 hrecord
    obtain ⟨parent, hregistered, rfl⟩ := Option.map_eq_some_iff.1 hparent
    obtain ⟨sumType, hsumType, hlisted⟩ := hsound.parents hregistered
    obtain ⟨parts, hget, hdescribes⟩ := hsound.sumTypes hsumType
    -- The record of the parent is made from its composition, and shows what was discovered in it.
    exact ⟨_, mem_models_iff.2 ⟨parent, _, hget, rfl⟩, rfl, hregistered, sumType, hsumType,
      hdescribes.mem_references hlisted⟩

/-- Whatever is prepared and whatever calls have been answered, the links among the records of a
session are sound. -/
theorem linksSound_performAll (config : Config) (title : Option String)
    (operations : List Operation) (table : Table) (log : Log) (calls : List Call) :
    ((prepare config title operations table log).performAll calls).2.LinksSound := by
  apply linksSound_of_sound
  rw [performAll_session]
  exact Table.sound_discover _ _

/-- Shapes, one of which is missing, and a drawing of them by another name. -/
def canvas : Table :=
  ⟨[("circle", .object ObjectShape.empty),
    ("Shape", .composition ⟨.oneOf, [.named "#/components/schemas/circle",
      .named "#/components/schemas/Square"], some ⟨"kind", [⟨"round", "circle"⟩]⟩, Docs.none⟩),
    ("Form", .alias "#/components/schemas/Shape"),
    ("Drawing", .object ⟨[("forms", .inline (.array (.inline (.map
      (.named "#/components/schemas/Form")))))], [], [], Docs.none⟩)], by decide⟩

example :
    let session := ofTable .default canvas
    session.types.map TypeRef.text = ["Shape", "list<map<Shape>>"] ∧
    session.models.1.map ModelRecord.parentClass = [some "Shape", none, none, none] ∧
    session.models.1.filterMap (fun record => record.sumType.map SumType.references) =
      [[("circle", "Circle"), ("UnknownSchema", "UnknownSchema")]] := by
  decide +kernel

end SchemaGraph.Session
