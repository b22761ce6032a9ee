import SchemaGraph.Proofs.Links.StandIns
import SchemaGraph.Proofs.Session.Attachments

/-!
# Imports of records

The imports of a record are gathered from several places, each of them once, and a model has none
for its own class. What a record needs is said by `ModelRecord.Needs` and `OperationRecord.Needs` in
terms of its types and of the other records of the session. Read `Session.imports_exact` first: the
imports of everything that a prepared session answers are what is needed there, no less and no more.
-/

namespace SchemaGraph

/-- Merging imports repeats none. -/
theorem ImportHint.nodup_merge {hints more : List ImportHint} (h : hints.Nodup) :
    (merge hints more).Nodup := by
  induction more generalizing hints with
  | nil => exact h
  | cons first rest ih => exact ih (nodup_append_missing h)

/-- An import is not for the class of a name when it differs from all imports of such a class. -/
theorem ImportHint.isClass_eq_false_iff {hint : ImportHint} {className : String} :
    hint.isClass className = false ↔ ∀ fileName, hint ≠ .model className fileName := by
  cases hint <;> simp [isClass]

/-- A type needs what is imported for the classes, file attachments and buffers that stand in it,
under any number of lists and maps. -/
def TypeRef.Needs (type : TypeRef) (hint : ImportHint) : Prop :=
  ∃ part, part.hint? = some hint ∧ Within part type

/-- The import of the class of a model. -/
def ModelRecord.classHint (record : ModelRecord) : ImportHint :=
  .model record.className record.fileName

/-- A model of a session needs the class of its parent, the classes of the alternatives of its sum
type that are models of the session, and what its types need. -/
inductive ModelRecord.Needs (session : Session) (record : ModelRecord) : ImportHint → Prop where
  | parent {other : ModelRecord} (hother : other ∈ session.models.1)
      (hparent : session.catalog.discovery.registry.parent? record.schemaName =
        some other.schemaName) :
      Needs session record other.classHint
  | alternative {other : ModelRecord} {sumType : SumType} {className : String}
      (hother : other ∈ session.models.1) (hsumType : record.sumType = some sumType)
      (hlisted : (other.schemaName, className) ∈ sumType.references) :
      Needs session record other.classHint
  | type {type : TypeRef} {hint : ImportHint} (htype : type ∈ record.types)
      (hneeds : type.Needs hint) :
      Needs session record hint

/-- An operation needs what the types of its parameters, of its body and of the fields of its body
need. -/
def OperationRecord.Needs (record : OperationRecord) (hint : ImportHint) : Prop :=
  ∃ type ∈ record.types, type.Needs hint

/-- The records of an answer import exactly what they need, and nothing twice. The class of a model
is not imported by the model itself. -/
structure Answer.ImportsExact (session : Session) (answer : Answer) : Prop where
  models : ∀ record ∈ answer.modelRecords, record.imports.Nodup ∧ ∀ hint,
    hint ∈ record.imports ↔
      record.Needs session hint ∧ ∀ fileName, hint ≠ .model record.className fileName
  operations : ∀ record ∈ answer.operationRecords, record.imports.Nodup ∧ ∀ hint,
    hint ∈ record.imports ↔ record.Needs hint

namespace Catalog

variable {catalog : Catalog} {hint : ImportHint}

/-- The imports for the alternatives of a sum type are the classes of those in the table. -/
theorem mem_alternativeHints_iff {sumType : SumType} :
    hint ∈ catalog.alternativeHints sumType ↔
      ∃ schemaName className, (schemaName, className) ∈ sumType.references ∧
        schemaName ∈ catalog.table.names ∧ catalog.classHint schemaName = hint := by
  rw [alternativeHints_eq_map]
  simp only [List.mem_map, List.mem_filter, Prod.exists, Table.contains, Keyed.has,
    Keyed.get?_isSome_iff, and_assoc]
  rfl

/-- What comes with a type in a record is what the type needs. -/
theorem Typed.mem_imports_iff {payload : Payload} {type : TypeRef} {imports : List ImportHint}
    (h : catalog.Typed payload type imports) : hint ∈ imports ↔ type.Needs hint := by
  rw [h.2]
  exact TypeRef.mem_imports_iff_within

/-- What the properties and the value type of a model import is what their types need. -/
theorem Content.Typed.mem_imports_iff {content : Content} (h : content.Typed catalog) :
    ((∃ property ∈ content.properties, hint ∈ property.imports) ∨
        ∃ type ∈ content.valueType, hint ∈ type.imports) ↔
      ∃ type ∈ content.properties.map PropertyRecord.type ++ content.valueType.toList,
        type.Needs hint := by
  constructor
  · rintro (⟨property, hmem, hhint⟩ | ⟨type, hmem, hhint⟩)
    · have hneeds := (h.properties property hmem).mem_imports_iff.1 hhint
      exact ⟨property.type, List.mem_append_left _ (List.mem_map_of_mem hmem), hneeds⟩
    · have hneeds := (h.valueType type hmem).mem_imports_iff.1 hhint
      exact ⟨type, List.mem_append_right _ (Option.mem_toList.2 hmem), hneeds⟩
  · rintro ⟨type, htype, hneeds⟩
    rcases List.mem_append.1 htype with hproperty | hvalue
    · obtain ⟨property, hmem, rfl⟩ := List.mem_map.1 hproperty
      exact .inl ⟨property, hmem, (h.properties property hmem).mem_imports_iff.2 hneeds⟩
    · have hmem := Option.mem_toList.1 hvalue
      exact .inr ⟨type, hmem, (h.valueType type hmem).mem_imports_iff.2 hneeds⟩

/-- What a body and its fields import is what their types need. -/
theorem BodyTyped.mem_imports_iff {record : BodyRecord} (h : catalog.BodyTyped record) :
    (hint ∈ record.type.imports ∨ ∃ field ∈ record.fields, hint ∈ field.imports) ↔
      ∃ type ∈ record.types, type.Needs hint := by
  constructor
  · rintro (hhint | ⟨field, hmem, hhint⟩)
    · exact ⟨record.type, List.mem_cons_self, h.type.mem_imports_iff.1 hhint⟩
    · have hneeds := (h.fields field hmem).mem_imports_iff.1 hhint
      exact ⟨field.type, List.mem_cons_of_mem _ (List.mem_map_of_mem hmem), hneeds⟩
  · rintro ⟨type, htype, hneeds⟩
    rcases List.mem_cons.1 htype with rfl | hfield
    · exact .inl (h.type.mem_imports_iff.2 hneeds)
    · obtain ⟨field, hmem, rfl⟩ := List.mem_map.1 hfield
      exact .inr ⟨field, hmem, (h.fields field hmem).mem_imports_iff.2 hneeds⟩

/-- The imports of an operation are what its types need. -/
theorem OperationTyped.mem_imports_iff {record : OperationRecord}
    (h : catalog.OperationTyped record) : hint ∈ record.imports ↔ record.Needs hint := by
  rw [h.imports]
  constructor
  · rintro (⟨parameter, hmem, hhint⟩ | ⟨body, hbody, hhint⟩)
    · have hneeds := (h.parameters parameter hmem).mem_imports_iff.1 hhint
      exact ⟨parameter.type, List.mem_append_left _ (List.mem_map_of_mem hmem), hneeds⟩
    · obtain ⟨type, htype, hneeds⟩ := (h.body body hbody).mem_imports_iff.1 hhint
      exact ⟨type, List.mem_append_right _ (mem_elim_iff.2 ⟨body, hbody, htype⟩), hneeds⟩
  · rintro ⟨type, htype, hneeds⟩
    rcases List.mem_append.1 htype with hparameter | hpart
    · obtain ⟨parameter, hmem, rfl⟩ := List.mem_map.1 hparameter
      exact .inl ⟨parameter, hmem, (h.parameters parameter hmem).mem_imports_iff.2 hneeds⟩
    · obtain ⟨body, hbody, htype⟩ := mem_elim_iff.1 hpart
      exact .inr ⟨body, hbody, (h.body body hbody).mem_imports_iff.2 ⟨type, htype, hneeds⟩⟩

/-- An operation imports nothing twice. -/
theorem nodup_imports_operationRecord (catalog : Catalog) (operation : Operation) :
    (catalog.operationRecord operation).value.imports.Nodup := by
  rw [value_operationRecord]
  exact ImportHint.nodup_merge List.nodup_nil

/-- A model imports nothing twice. -/
theorem nodup_imports_modelRecord (catalog : Catalog) (name : String) (schema : Schema) :
    (catalog.modelRecord name schema).value.imports.Nodup :=
  (ImportHint.nodup_merge List.nodup_nil).filter _

end Catalog

namespace Session

variable {session : Session} {hint : ImportHint}

/-- The class of a named schema is imported for the model of this name. -/
theorem exists_classHint_iff {schemaName : String} :
    (∃ other ∈ session.models.1, other.schemaName = schemaName ∧ other.classHint = hint) ↔
      schemaName ∈ session.catalog.table.names ∧
        session.catalog.classHint schemaName = hint := by
  constructor
  · rintro ⟨other, hother, rfl, rfl⟩
    obtain ⟨name, schema, hget, rfl⟩ := mem_models_iff.1 hother
    exact ⟨Table.mem_names_of_get? hget, rfl⟩
  · rintro ⟨hmem, rfl⟩
    obtain ⟨schema, hget⟩ := Option.isSome_iff_exists.1 ((Table.get?_isSome_iff _ _).2 hmem)
    exact ⟨_, mem_models_iff.2 ⟨schemaName, schema, hget, rfl⟩, rfl, rfl⟩

/-- A model imports what it needs, but not its own class. -/
theorem mem_imports_modelRecord_iff
    (hsound : session.catalog.discovery.Sound session.catalog.table session.catalog.namer)
    (name : String) (schema : Schema) :
    hint ∈ (session.catalog.modelRecord name schema).value.imports ↔
      (session.catalog.modelRecord name schema).value.Needs session hint ∧
        ∀ fileName, hint ≠ .model (session.catalog.namer.className name) fileName := by
  have htyped := session.catalog.typed_content name schema
  refine Catalog.mem_modelImports_iff.trans (and_congr ?needs ImportHint.isClass_eq_false_iff)
  rw [htyped.mem_imports_iff]
  constructor
  · rintro (hparent | ⟨sumType, hsumType, halternative⟩ | ⟨type, htype, hneeds⟩)
    · obtain ⟨parent, hregistered, hhint⟩ := Catalog.mem_parentHints.1 hparent
      obtain ⟨_, hdiscovered, _⟩ := hsound.parents hregistered
      obtain ⟨_, hget, _⟩ := hsound.sumTypes hdiscovered
      obtain ⟨other, hother, rfl, rfl⟩ :=
        exists_classHint_iff.2 ⟨Table.mem_names_of_get? hget, hhint⟩
      exact .parent hother hregistered
    · obtain ⟨schemaName, className, hlisted, hmem, hhint⟩ :=
        Catalog.mem_alternativeHints_iff.1 halternative
      obtain ⟨other, hother, rfl, rfl⟩ := exists_classHint_iff.2 ⟨hmem, hhint⟩
      exact .alternative hother hsumType hlisted
    · exact .type htype hneeds
  · intro hneeds
    cases hneeds with
    | @parent other hother hregistered =>
        obtain ⟨_, hhint⟩ := exists_classHint_iff.1 ⟨other, hother, rfl, rfl⟩
        exact .inl (Catalog.mem_parentHints.2 ⟨_, hregistered, hhint⟩)
    | @alternative other sumType className hother hsumType hlisted =>
        obtain ⟨hmem, hhint⟩ := exists_classHint_iff.1 ⟨other, hother, rfl, rfl⟩
        refine .inr (.inl ⟨sumType, hsumType, ?_⟩)
        exact Catalog.mem_alternativeHints_iff.2 ⟨_, className, hlisted, hmem, hhint⟩
    | type htype hneeds => exact .inr (.inr ⟨_, htype, hneeds⟩)

/-- The answer to a call imports what is needed, whatever the log holds. -/
theorem importsExact_perform
    (hsound : session.catalog.discovery.Sound session.catalog.table session.catalog.namer)
    (log : Log) (call : Call) :
    (({ session with log := log } : Session).perform call).1.ImportsExact session := by
  refine ⟨fun record h => ?models, fun record h => ?operations⟩
  case models =>
    obtain ⟨name, schema, rfl⟩ := exists_modelRecord_of_mem h
    exact ⟨session.catalog.nodup_imports_modelRecord name schema,
      fun hint => mem_imports_modelRecord_iff hsound name schema⟩
  case operations =>
    obtain ⟨operation, rfl⟩ := exists_operationRecord_of_mem h
    have htyped := session.catalog.operationTyped_operationRecord operation
    exact ⟨session.catalog.nodup_imports_operationRecord operation,
      fun hint => htyped.mem_imports_iff⟩

/-- Whatever is prepared and whatever is asked of it, in whatever order and however often, the
records that are answered import exactly what they need, each import once. A model needs the class
of its parent, the classes of the alternatives of its sum type that are in the table, and what
stands in its types at any depth, its own class apart; an operation needs what stands in the types
of its parameters, of its body and of the fields of its body. -/
theorem imports_exact (config : Config) (title : Option String) (operations : List Operation)
    (table : Table) (log : Log) (calls : List Call) :
    ∀ answer ∈ ((prepare config title operations table log).performAll calls).1,
      answer.ImportsExact (prepare config title operations table log) := by
  intro answer hanswer
  obtain ⟨call, _, later, rfl⟩ := exists_call_of_mem_answers hanswer
  exact importsExact_perform (Table.sound_discover _ _) later call

/-- Vessels, one kind of which is missing, and a crew. A ship has a photo, escorts and sailors. -/
def harbour : Table :=
  ⟨[("Ship", .object ⟨[("photo", .inline (.scalar ⟨.string, some "binary", [], Docs.none⟩)),
      ("escorts", .inline (.array (.named "#/components/schemas/Ship"))),
      ("crew", .inline (.map (.inline (.array (.named "#/components/schemas/Sailor"))))),
      ("captain", .named "#/components/schemas/Sailor")], [], [], Docs.none⟩),
    ("Sailor", .object ⟨[("berth", .named "#/components/schemas/Vessel")], [], [], Docs.none⟩),
    ("Boat", .object ObjectShape.empty),
    ("Vessel", .composition ⟨.oneOf, [.named "#/components/schemas/Ship",
      .named "#/components/schemas/Raft", .named "#/components/schemas/Boat"], none,
      Docs.none⟩)], by decide⟩

/-- Send a ship in a multipart body, next to a vessel. -/
def mooring : Operation :=
  ⟨"moor", "POST", "/vessels", [⟨"near", .query, true, none,
      .named "#/components/schemas/Vessel", false⟩],
    some ⟨"multipart/form-data", .named "#/components/schemas/Ship", true, none⟩⟩

/-- A ship imports its parent, a buffer for its photo and once the sailors, but not itself. The
missing raft is not imported. The photo in the multipart body is a file. -/
theorem harbour_imports :
    let session := prepare .default none [mooring] harbour .empty
    let answers := (session.performAll [.models, .operations]).1
    let ship := ImportHint.model "Ship" "ship"
    let sailor := ImportHint.model "Sailor" "sailor"
    let boat := ImportHint.model "Boat" "boat"
    let vessel := ImportHint.model "Vessel" "vessel"
    (answers.flatMap Answer.modelRecords).map ModelRecord.imports =
      [[vessel, .byteBuffer, sailor], [vessel], [vessel], [ship, boat]] ∧
    (answers.flatMap Answer.operationRecords).map OperationRecord.imports =
      [[vessel, ship, .fileAttachment, sailor]] ∧
    ∀ answer ∈ answers, answer.ImportsExact session := by
  intro session answers ship sailor boat vessel
  exact ⟨by decide +kernel, by decide +kernel,
    imports_exact .default none [mooring] harbour .empty [.models, .operations]⟩

end Session

end SchemaGraph
