import SchemaGraph.Proofs.Links.RecordTypes
import SchemaGraph.Proofs.Links.Types

/-!
# File attachments in records

Bytes are a file attachment where the payload is multipart, and no plain type holds one
(`TypeMapper.not_holdsFile_typeOf`). As only the fields of a multipart body have this payload, the
record of a model has no file attachment at all (`Catalog.fileFree_modelRecord`), and that of an
operation has those of these fields (`Catalog.filesConfined_operationRecord`).
-/

namespace SchemaGraph

namespace TypeRef

/-- The type is a file attachment, or holds one as an item or a value. -/
def HoldsFile (type : TypeRef) : Prop :=
  Within .fileAttachment type

/-- A type imports file attachments when it holds one. -/
theorem file_mem_imports_iff {type : TypeRef} :
    .fileAttachment ∈ type.imports ↔ type.HoldsFile := by
  rw [mem_imports_iff_within]
  constructor
  · rintro ⟨part, hhint, hwithin⟩
    cases part <;> cases hhint
    exact hwithin
  · intro hwithin
    exact ⟨_, rfl, hwithin⟩

instance (type : TypeRef) : Decidable type.HoldsFile :=
  decidable_of_iff _ file_mem_imports_iff

end TypeRef

/-- No type of the model holds a file attachment, and nothing in its record imports one. -/
structure ModelRecord.FileFree (record : ModelRecord) : Prop where
  properties : ∀ property ∈ record.properties,
    ¬ property.type.HoldsFile ∧ .fileAttachment ∉ property.imports
  valueType : ∀ type ∈ record.valueType, ¬ type.HoldsFile
  imports : .fileAttachment ∉ record.imports

/-- The file attachments of the operation are in fields of a multipart body. It imports them when
there are some, and so does each field that holds one. -/
structure OperationRecord.FilesConfined (record : OperationRecord) : Prop where
  parameters : ∀ parameter ∈ record.parameters,
    ¬ parameter.type.HoldsFile ∧ .fileAttachment ∉ parameter.imports
  body : ∀ body ∈ record.body, ¬ body.type.HoldsFile
  otherFields : ∀ body ∈ record.body, body.format ≠ .multipart → ∀ field ∈ body.fields,
    ¬ field.type.HoldsFile ∧ .fileAttachment ∉ field.imports
  fields : ∀ body ∈ record.body, ∀ field ∈ body.fields,
    .fileAttachment ∈ field.imports ↔ field.type.HoldsFile
  imports : .fileAttachment ∈ record.imports ↔
    ∃ body ∈ record.body, body.format = .multipart ∧ ∃ field ∈ body.fields, field.type.HoldsFile

namespace TypeMapper

variable {mapper : TypeMapper}

/-- A plain scalar is no file. -/
theorem not_holdsFile_scalarType {leaf : Scalar} : ¬ (scalarType .plain leaf).HoldsFile := by
  unfold scalarType
  split <;> nofun

/-- The plain type of an entry is no file. -/
theorem not_holdsFile_resolvedType {resolved : Resolved} :
    ¬ (mapper.resolvedType .plain resolved).HoldsFile := by
  unfold resolvedType
  split
  · nofun
  · nofun
  · split
    · nofun
    · exact not_holdsFile_scalarType
  · nofun

/-- No plain type holds a file, however deep the schema is. -/
theorem not_holdsFile_typeOf (mapper : TypeMapper) (subject : Option String) (use : SchemaUse) :
    ¬ (mapper.typeOf .plain subject use).value.HoldsFile := by
  -- The values of a map are plain in every payload, so the induction goes over all payloads.
  refine (mapper.schemaType_cases subject (fun payload type => payload = .plain → ¬ type.HoldsFile)
    ?scalar ?reference ?list ?map ?any ?unknown).2 .plain use rfl
  case scalar =>
    rintro _ leaf rfl
    exact not_holdsFile_scalarType
  case reference =>
    rintro _ reference rfl
    rw [referenceType, Reported.value_bind]
    exact not_holdsFile_resolvedType
  case list => exact fun _ _ h hplain hwithin => h hplain (hwithin.of_list (by simp))
  case map => exact fun _ _ h _ hwithin => h rfl (hwithin.of_map (by simp))
  case any =>
    intro _ _ hwithin
    cases hwithin
  case unknown =>
    intro _ _ hwithin
    cases hwithin

end TypeMapper

namespace Catalog

variable {catalog : Catalog} {type : TypeRef} {imports : List ImportHint}

/-- A type in a record imports file attachments when it holds one. -/
theorem Typed.file_mem_iff {payload : Payload} (h : catalog.Typed payload type imports) :
    .fileAttachment ∈ imports ↔ type.HoldsFile := by
  rw [h.2, TypeRef.file_mem_imports_iff]

/-- A plain type in a record has nothing to do with files. -/
theorem Typed.fileFree (h : catalog.Typed .plain type imports) :
    ¬ type.HoldsFile ∧ .fileAttachment ∉ imports := by
  have hfree : ¬ type.HoldsFile := by
    obtain ⟨⟨subject, use, rfl⟩, _⟩ := h
    exact catalog.mapper.not_holdsFile_typeOf subject use
  exact ⟨hfree, fun hmem => hfree (h.file_mem_iff.1 hmem)⟩

/-- The record of a model has nothing to do with files. -/
theorem fileFree_modelRecord (catalog : Catalog) (name : String) (schema : Schema) :
    (catalog.modelRecord name schema).value.FileFree := by
  have htyped := catalog.typed_content name schema
  refine ⟨fun property hmem => (htyped.properties property hmem).fileFree,
    fun type hmem => (htyped.valueType type hmem).fileFree.1, ?imports⟩
  case imports =>
    intro himport
    rcases mem_of_mem_modelImports himport with
      hparent | ⟨sumType, _, halternative⟩ | ⟨property, hmem, hproperty⟩ | ⟨type, hmem, hvalue⟩
    · obtain ⟨_, _, ⟨⟩⟩ := mem_parentHints.1 hparent
    · obtain ⟨_, _, ⟨⟩⟩ := mem_names_of_mem_alternativeHints halternative
    · exact (htyped.properties property hmem).fileFree.2 hproperty
    · exact (htyped.valueType type hmem).fileFree.2 hvalue

/-- Only multipart bodies have fields that hold files. -/
theorem BodyTyped.fields_fileFree {body : BodyRecord} (h : catalog.BodyTyped body)
    (hformat : body.format ≠ .multipart) {field : FieldRecord} (hfield : field ∈ body.fields) :
    ¬ field.type.HoldsFile ∧ .fileAttachment ∉ field.imports := by
  have hplain : body.format.payload = .plain := by
    cases hcases : body.format with
    | multipart => exact absurd hcases hformat
    | json | form | other => rfl
  exact (hplain ▸ h.fields field hfield).fileFree

/-- The files in the record of an operation are in fields of a multipart body. -/
theorem filesConfined_operationRecord (catalog : Catalog) (operation : Operation) :
    (catalog.operationRecord operation).value.FilesConfined := by
  have htyped := catalog.operationTyped_operationRecord operation
  refine ⟨fun parameter hmem => (htyped.parameters parameter hmem).fileFree,
    fun body hbody => (htyped.body body hbody).type.fileFree.1,
    fun body hbody hformat _ => (htyped.body body hbody).fields_fileFree hformat,
    fun body hbody field hfield => ((htyped.body body hbody).fields field hfield).file_mem_iff,
    ?imports⟩
  case imports =>
    rw [htyped.imports]
    constructor
    · rintro (⟨parameter, hmem, hfile⟩ | ⟨body, hbody, hfile | ⟨field, hfield, hfile⟩⟩)
      · exact absurd hfile (htyped.parameters parameter hmem).fileFree.2
      · exact absurd hfile (htyped.body body hbody).type.fileFree.2
      · have hbodyTyped := htyped.body body hbody
        have hholds := (hbodyTyped.fields field hfield).file_mem_iff.1 hfile
        refine ⟨body, hbody, ?_, field, hfield, hholds⟩
        -- In a body of another format the field would be plain.
        by_contra hformat
        exact (hbodyTyped.fields_fileFree hformat hfield).2 hfile
    · rintro ⟨body, hbody, _, field, hfield, hholds⟩
      have hfile := ((htyped.body body hbody).fields field hfield).file_mem_iff.2 hholds
      exact .inr ⟨body, hbody, .inr ⟨field, hfield, hfile⟩⟩

end Catalog

end SchemaGraph
