import SchemaGraph.Proofs.Session.Identifiers

/-!
# The fields of a form

The type of a body and the list of its fields are worked out apart. `Session.marks_operations`
compares them: when the type of a form is the class of an object, its fields are the properties of
that object, unless the schema of the body is an `allOf` in place. The type of such a schema is that
of its single member, but the fields are only looked for in objects and behind references.
-/

namespace SchemaGraph

/-- The name of a field, whether it has to be present and whether it may be null. -/
def FieldRecord.marks (field : FieldRecord) : String × Bool × Bool :=
  (field.name, field.required, field.nullable)

/-- The names of the properties of an object, in order, and how the object marks them. -/
def ObjectOf.marks (object : ObjectShape) : List (String × Bool × Bool) :=
  object.properties.map fun (name, _) =>
    (name, object.required.contains name, object.nullable.contains name)

/-- Whether the fields of bodies in a format are listed. -/
def BodyFormat.listsFields : BodyFormat → Bool
  | .form | .multipart => true
  | .json | .other => false

/-- Whether an `allOf` stands in place. -/
def SchemaUse.isAllOf (use : SchemaUse) : Bool :=
  (Use.schema? use).any Schema.isAllOf

namespace TypeMapper

variable {mapper : TypeMapper} {payload : Payload} {subject : Option String}
  {name className fileName : String}

/-- A scalar has no class by itself. -/
theorem scalarType_ne_model {leaf : Scalar} :
    scalarType payload leaf ≠ .model name className fileName := by
  unfold scalarType
  split
  · cases payload <;> nofun
  · nofun

/-- The class that a reference gives is the one of the entry it leads to. -/
theorem exists_leadsTo_of_referenceType {reference : String}
    (h : (mapper.referenceType payload subject reference).value = .model name className fileName) :
    ∃ schema, mapper.table.LeadsTo reference name schema := by
  rw [referenceType, Reported.value_bind, Table.value_resolve] at h
  cases hresolve : mapper.table.resolve? reference with
  | error failure =>
      rw [hresolve] at h
      cases h
  | ok resolved =>
      have hleads := Table.resolve?_eq_ok_iff.1 hresolve
      rw [hresolve] at h
      have hmodel : mapper.resolvedType payload resolved = .model name className fileName := h
      suffices hname : resolved.name = name by exact ⟨_, hname ▸ hleads⟩
      unfold resolvedType at hmodel
      split at hmodel
      · cases hmodel
      · cases hmodel
      · split at hmodel
        · cases hmodel
          rfl
        · exact absurd hmodel scalarType_ne_model
      · cases hmodel
        rfl

end TypeMapper

namespace Catalog

variable {catalog : Catalog} {subject name className fileName : String} {use : SchemaUse}
  {object : ObjectShape}

/-- The fields of a body have the names and marks of the object that was found for it. -/
theorem marks_bodyFields (catalog : Catalog) (subject : String) (payload : Payload)
    (use : SchemaUse) :
    (catalog.bodyFields subject payload use).value.map FieldRecord.marks =
      (catalog.bodyObject? subject use).value.elim [] ObjectOf.marks := by
  rw [bodyFields, Reported.value_bind]
  cases (catalog.bodyObject? subject use).value with
  | none => rfl
  | some object =>
      dsimp only [Option.elim]
      rw [Reported.value_forAll, List.map_map, ObjectOf.marks]
      conv_rhs => rw [← catalog.map_fst_identified object, List.map_map]
      rfl

/-- The object behind a reference is found when its class is the type of the reference. -/
theorem value_resolve_of_referenceType {payload : Payload} {reference : String}
    (htype : (catalog.mapper.referenceType payload (some subject) reference).value =
      .model name className fileName)
    (hget : catalog.table.get? name = some (.object object)) :
    (catalog.table.resolve (some subject) reference).value = ⟨name, .object object⟩ := by
  obtain ⟨schema, hleads⟩ := TypeMapper.exists_leadsTo_of_referenceType htype
  obtain rfl : schema = .object object := Option.some.inj (hleads.get?.symm.trans hget)
  have hresolve : catalog.table.resolve? reference = .ok ⟨name, .object object⟩ :=
    hleads.resolve?_eq
  rw [Table.value_resolve, hresolve]
  rfl

/-- The object that a class stands for is found, except in an `allOf` in place. -/
theorem value_bodyObject?_of_model {payload : Payload}
    (htype : (catalog.mapper.typeOf payload (some subject) use).value =
      .model name className fileName)
    (hget : catalog.table.get? name = some (.object object)) :
    (catalog.bodyObject? subject use).value =
      if SchemaUse.isAllOf use then none else some object := by
  cases use with
  | named reference =>
      rw [TypeMapper.typeOf] at htype
      simp [bodyObject?, Table.target, Target.schema, SchemaUse.isAllOf, Use.schema?,
        value_resolve_of_referenceType htype hget]
  | inline schema =>
      rw [TypeMapper.typeOf] at htype
      cases schema with
      | «alias» reference =>
          rw [TypeMapper.schemaType] at htype
          simp [bodyObject?, Table.target, Target.schema, SchemaUse.isAllOf, Use.schema?,
            Schema.isAllOf, value_resolve_of_referenceType htype hget]
      | composition parts =>
          -- The type of a sum type in place is `any`.
          have hallOf : parts.kind = .allOf := by
            by_contra hkind
            rw [TypeMapper.schemaType] at htype
            · cases htype
            · rintro member discriminator docs rfl
              exact hkind rfl
          simp [bodyObject?, Table.target, Target.schema, SchemaUse.isAllOf, Use.schema?,
            Schema.isAllOf, CompositionOf.isSum, hallOf]
      | scalar leaf =>
          rw [TypeMapper.schemaType] at htype
          exact absurd htype TypeMapper.scalarType_ne_model
      | array | map | object | any | unknown =>
          rw [TypeMapper.schemaType] at htype
          cases htype

/-- The type of a body is the plain type of its schema. -/
theorem type_bodyRecord (catalog : Catalog) (subject : String) (body : RequestBody) :
    (catalog.bodyRecord subject body).value.type =
      (catalog.mapper.typeOf .plain (some subject) body.schema).value := by
  unfold bodyRecord
  cases body.format <;> rfl

/-- The record of a body has the format of the body. -/
theorem format_bodyRecord (catalog : Catalog) (subject : String) (body : RequestBody) :
    (catalog.bodyRecord subject body).value.format = body.format := by
  unfold bodyRecord
  cases body.format <;> rfl

/-- The fields of a form are those of its schema, in the payload that the format makes of them. -/
theorem fields_bodyRecord {body : RequestBody} (hformat : body.format.listsFields) :
    (catalog.bodyRecord subject body).value.fields =
      (catalog.bodyFields subject body.format.payload body.schema).value := by
  unfold bodyRecord
  cases hcases : body.format with
  | multipart | form => rfl
  | json | other =>
      rw [hcases] at hformat
      cases hformat

/-- The fields of a form are those of the object that is found for it. -/
theorem marks_bodyRecord {body : RequestBody} (hformat : body.format.listsFields) :
    (catalog.bodyRecord subject body).value.fields.map FieldRecord.marks =
      (catalog.bodyObject? subject body.schema).value.elim [] ObjectOf.marks := by
  rw [fields_bodyRecord hformat]
  exact catalog.marks_bodyFields subject body.format.payload body.schema

end Catalog

namespace Session

/-- When a form has the class of an object as its type, then its fields are the properties of that
object, each once and in order, with their names and marks. The exception is an `allOf` in place,
which has the type of its single member, but no fields. -/
theorem marks_operations (session : Session) :
    List.Forall₂ (fun operation record => ∀ request ∈ operation.body, request.format.listsFields →
      ∃ body ∈ record.body, ∀ name className fileName object,
        body.type = .model name className fileName →
        session.catalog.table.get? name = some (.object object) →
        body.fields.map FieldRecord.marks =
          if SchemaUse.isAllOf request.schema then [] else object.marks)
      session.operationList session.operations.1 := by
  have hrecords : session.operations.1 =
      session.operationList.map fun operation =>
        (session.catalog.operationRecord operation).value := by
    rw [operations, entering, Catalog.operations, Reported.value_forAll]
  rw [hrecords, List.forall₂_map_right_iff, List.forall₂_same]
  intro operation _ request hrequest hformat
  rw [Catalog.value_operationRecord]
  refine ⟨_, Option.mem_map_of_mem _ hrequest, ?_⟩
  intro name className fileName object htype hget
  rw [Catalog.type_bodyRecord] at htype
  rw [Catalog.marks_bodyRecord hformat, Catalog.value_bodyObject?_of_model htype hget]
  split <;> rfl

/-- An upload of a photo with its name, which has to be there, and a caption that may be null. -/
def darkroom : Table :=
  ⟨[("Upload", .object ⟨[("photo", .inline (.scalar ⟨.string, some "binary", [], Docs.none⟩)),
      ("name", .inline (.scalar (.bare .string))), ("caption", .inline (.scalar (.bare .string)))],
      ["name"], ["caption"], Docs.none⟩),
    ("Photo", .alias "#/components/schemas/Upload")], by decide⟩

/-- Send a body of a schema as multipart. -/
def posting (schema : SchemaUse) : Operation :=
  ⟨"post", "POST", "/photos", [], some ⟨"multipart/form-data", schema, true, none⟩⟩

/-- An upload has three fields when it is named directly, through an alias in the table, or through
one in place. The same upload in an `allOf` in place has none, although its type is the same. -/
theorem darkroom_marks :
    let schemas : List SchemaUse := [.named "#/components/schemas/Upload",
      .named "#/components/schemas/Photo", .inline (.alias "#/components/schemas/Photo"),
      .inline (.composition ⟨.allOf, [.named "#/components/schemas/Photo"], none, Docs.none⟩)]
    let session := prepare .default none (schemas.map posting) darkroom .empty
    let upload := TypeRef.model "Upload" "Upload" "upload"
    let fields := [("photo", false, false), ("name", true, false), ("caption", false, true)]
    schemas.map SchemaUse.isAllOf = [false, false, false, true] ∧
    (∀ record ∈ session.operations.1, record.body.map BodyRecord.type = some upload) ∧
    List.Forall₂ (fun schema record => ∃ body ∈ record.body, body.fields.map FieldRecord.marks =
      if SchemaUse.isAllOf schema then [] else fields) schemas session.operations.1 := by
  intro schemas session upload fields
  have htypes : ∀ record ∈ session.operations.1,
      record.body.map BodyRecord.type = some upload := by decide +kernel
  have hformat : (BodyFormat.ofMediaType "multipart/form-data").listsFields := by decide +kernel
  refine ⟨rfl, htypes, ?_⟩
  have hmarks := List.forall₂_map_left_iff.1 session.marks_operations
  refine ((List.forall₂_and_left _ _).2 ⟨htypes, hmarks.flip⟩).flip.imp ?_
  rintro schema record ⟨htype, hrecord⟩
  obtain ⟨body, hbody, hbodyMarks⟩ := hrecord _ rfl hformat
  refine ⟨body, hbody, hbodyMarks "Upload" "Upload" "upload" _ ?_ rfl⟩
  rw [Option.mem_def.1 hbody] at htype
  exact Option.some.inj htype

end Session

end SchemaGraph
