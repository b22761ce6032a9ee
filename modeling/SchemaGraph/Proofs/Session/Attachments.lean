import SchemaGraph.Proofs.Links.Attachments
import SchemaGraph.Proofs.Session.Links

/-!
# File attachments in the answers of a session

The same schema may be a file in a multipart body and bytes in another place, and a session makes
records of both in any order. `Session.files_confined` says that what it answers holds file
attachments in the fields of multipart bodies only, whatever was asked before.
-/

namespace SchemaGraph

/-- The records of models in an answer. -/
def Answer.modelRecords : Answer → List ModelRecord
  | .model record => record.toList
  | .models records => records
  | .operations _ => []
  | .graph whole => whole.models

/-- The records of operations in an answer. -/
def Answer.operationRecords : Answer → List OperationRecord
  | .model _ | .models _ => []
  | .operations records => records
  | .graph whole => whole.operations

/-- The file attachments of an answer are those of fields of multipart bodies. -/
structure Answer.FilesConfined (answer : Answer) : Prop where
  models : ∀ record ∈ answer.modelRecords, record.FileFree
  operations : ∀ record ∈ answer.operationRecords, record.FilesConfined

namespace Session

variable {session : Session}

/-- A model that is answered is the record of a schema. -/
theorem exists_modelRecord_of_mem {call : Call} {record : ModelRecord}
    (h : record ∈ (session.perform call).1.modelRecords) :
    ∃ name schema, (session.catalog.modelRecord name schema).value = record := by
  have hmodels : record ∈ session.models.1 →
      ∃ name schema, (session.catalog.modelRecord name schema).value = record := by
    intro hmem
    obtain ⟨name, schema, _, heq⟩ := mem_models_iff.1 hmem
    exact ⟨name, schema, heq⟩
  cases call with
  | model name =>
      have hmem := Option.mem_toList.1 h
      unfold model? entering Catalog.model? at hmem
      split at hmem
      · cases hmem
        exact ⟨name, _, rfl⟩
      · cases hmem
  | models => exact hmodels h
  | operations => cases h
  | graph => exact hmodels h

/-- An operation that is answered is the record of an operation. -/
theorem exists_operationRecord_of_mem {call : Call} {record : OperationRecord}
    (h : record ∈ (session.perform call).1.operationRecords) :
    ∃ operation, (session.catalog.operationRecord operation).value = record := by
  cases call with
  | model name => cases h
  | models => cases h
  | operations =>
      obtain ⟨operation, _, heq⟩ := mem_operations_iff.1 h
      exact ⟨operation, heq⟩
  -- The operations of a graph are made after its models, which change the log alone.
  | graph =>
      have hmem : record ∈ session.models.2.operations.1 := h
      obtain ⟨operation, _, heq⟩ := mem_operations_iff.1 hmem
      exact ⟨operation, heq⟩

/-- The answer to a call confines its file attachments. -/
theorem filesConfined_perform (session : Session) (call : Call) :
    (session.perform call).1.FilesConfined := by
  refine ⟨fun record h => ?models, fun record h => ?operations⟩
  case models =>
    obtain ⟨name, schema, rfl⟩ := exists_modelRecord_of_mem h
    exact Catalog.fileFree_modelRecord _ name schema
  case operations =>
    obtain ⟨operation, rfl⟩ := exists_operationRecord_of_mem h
    exact Catalog.filesConfined_operationRecord _ operation

/-- Whatever is asked of a session, in whatever order and however often, its answers hold and import
file attachments in the fields of multipart bodies only, and in the imports of their operations. -/
theorem files_confined (session : Session) (calls : List Call) :
    ∀ answer ∈ (session.performAll calls).1, answer.FilesConfined := by
  induction calls generalizing session with
  | nil => nofun
  | cons call rest ih =>
      intro answer hanswer
      rcases List.mem_cons.1 hanswer with rfl | hlater
      · exact session.filesConfined_perform call
      · exact ih (session.perform call).2 answer hlater

/-- A photo, and an album with a cover, pages and extra photos under names of their own. -/
def gallery : Table :=
  ⟨[("Photo", .scalar ⟨.string, some "binary", [], Docs.none⟩),
    ("Album", .object ⟨[("cover", .named "#/components/schemas/Photo"),
      ("pages", .inline (.array (.named "#/components/schemas/Photo"))),
      ("extras", .inline (.map (.named "#/components/schemas/Photo")))], [], [], Docs.none⟩)],
    by decide⟩

/-- Send an album in a body of the given media type. -/
def sending (contentType : String) : Operation :=
  ⟨"send", "POST", "/albums", [],
    some ⟨contentType, .named "#/components/schemas/Album", true, none⟩⟩

/-- The photos of an album are files in a multipart body, except the extra ones. They are bytes in
a form and in the model, which is asked for between the operations. -/
theorem gallery_files :
    let session := prepare .default none
      [sending "multipart/form-data", sending "application/x-www-form-urlencoded"] gallery .empty
    let answers := (session.performAll [.operations, .models, .operations]).1
    let fields (record : OperationRecord) : List String :=
      record.body.elim [] fun body => body.fields.map fun field => field.type.text
    answers.map (fun answer => answer.operationRecords.map fields) =
      [[["file", "list<file>", "map<bytes>"], ["bytes", "list<bytes>", "map<bytes>"]], [],
        [["file", "list<file>", "map<bytes>"], ["bytes", "list<bytes>", "map<bytes>"]]] ∧
    (answers.flatMap Answer.modelRecords).map (fun record => record.types.map TypeRef.text) =
      [["bytes"], ["bytes", "list<bytes>", "map<bytes>"]] ∧
    ∀ answer ∈ answers, answer.FilesConfined := by
  intro session answers fields
  exact ⟨by decide +kernel, by decide +kernel, session.files_confined _⟩

end Session

end SchemaGraph
