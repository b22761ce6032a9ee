import SchemaGraph.Proofs.Document.Conversion

/-!
# Properties that admit null

An object schema records which of its properties admit `null`. What a property admits is read off
the schema in its place, so a property given as a reference is never recorded, whatever the schema
behind the reference admits (`nullable_reference_property`). With that schema written in its place
the property is recorded exactly when the schema admits `null`, and nothing else changes.
-/

namespace SchemaGraph.Document

open Keyed (AgreeOff)

variable {address : Option String} {fields properties : Keyed Json} {name : String} {schema : Json}

/-- The fields of an object schema with another schema for one of its properties. -/
def withProperty (fields properties : Keyed Json) (name : String) (schema : Json) : Keyed Json :=
  Keyed.put fields "properties" (.object (Keyed.put properties name schema))

/-- The schema is a reference, and this is its text. -/
def IsReference (fields : Keyed Json) (reference : String) : Prop :=
  Keyed.get? fields "$ref" = some (.string reference) ∧
    allowAll fields isText ["description", "summary"]

/-- A reference is read as a use of what it names. That this may admit `null` is not known here. -/
theorem IsReference.readingOf?_eq {reference : String} (h : IsReference fields reference) :
    readingOf? address (.object fields) =
      some ⟨.named (Reference.localize address reference), false, false⟩ := by
  have hkept {key : String} (hkey : key ∉ schemaKeys ++ schemaListKeys ++ schemaMapKeys) :
      Keyed.get? (mapSchemaFields shapeStep fields) key = Keyed.get? fields key := by
    simp only [List.mem_append, not_or] at hkey
    have hself : mapField shapeStep key = id := by
      funext value
      simp [mapField, hkey]
    rw [get?_mapSchemaFields, hself, Option.map_id_fun, id]
  have href : Keyed.get? (mapSchemaFields shapeStep fields) "$ref" = some (.string reference) :=
    (hkept (by decide)).trans h.1
  have htexts : allowAll (mapSchemaFields shapeStep fields) isText ["description", "summary"] := by
    have htexts := h.2
    simp only [allowAll, List.all_cons, List.all_nil, allows] at htexts ⊢
    rwa [hkept (by decide), hkept (by decide)]
  have hhas : Keyed.has (mapSchemaFields shapeStep fields) "$ref" := by
    rw [Keyed.has, href]
    rfl
  have hread : readReference? address (mapSchemaFields shapeStep fields) =
      some ⟨.named (Reference.localize address reference), false, false⟩ := by
    simp [readReference?, href, htexts, Json.string?]
  rw [readingOf?, shape_object, shapeFields, if_pos hhas]
  simp only [readings, fieldsReadings, hread, Option.orElse_eq_orElse, Option.orElse_eq_or,
    Option.some_or]

/-- A property given as a reference is never recorded as one that admits `null`. With any schema in
its place, be it the one that the reference names, the object is still one, the property is recorded
exactly when this schema admits `null`, and what is recorded of the other properties is the same. -/
theorem nullable_reference_property {schemas : Keyed Json} (hschemas : Keyed.Distinct schemas)
    {owner reference : String} {place : Keyed Json} {object : ObjectShape}
    (howner : Keyed.get? schemas owner = some (.object fields)) (hplain : IsPlain fields)
    (hproperties : Keyed.get? fields "properties" = some (.object properties))
    (hdistinct : Keyed.Distinct properties)
    (hobject : (convertTable address schemas).value.get? owner = some (.object object))
    (hplace : Keyed.get? properties name = some (.object place))
    (hreference : IsReference place reference)
    (hread : (convert address none schema).reports = []) :
    name ∉ object.nullable ∧
      ∃ replaced : ObjectShape,
        (convertTable address (Keyed.put schemas owner
          (.object (withProperty fields properties name schema)))).value.get? owner =
            some (.object replaced) ∧
        (name ∈ replaced.nullable ↔ (convert address none schema).value.nullable) ∧
        ∀ other, other ≠ name → (other ∈ replaced.nullable ↔ other ∈ object.nullable) := by
  rw [get?_convertTable hschemas, howner, Option.map_some, Option.some.injEq] at hobject
  obtain ⟨reading, hreading, huse⟩ := exists_readingOf?_of_use (use_of_entryOf hobject)
  obtain ⟨inner, hinner⟩ := exists_readingOf?_of_reports hread
  obtain ⟨found, docs, hfound, rfl, hother⟩ := hplain.exists_objectOf hproperties hreading huse
  have hput := namedReadings?_put hfound name hinner
  let replaced := withProperty fields properties name schema
  have hagree : AgreeOff ["properties"] fields replaced :=
    (Keyed.agreeOff_put List.mem_cons_self fields _).symm
  have hrequired : Keyed.get? replaced "required" = Keyed.get? fields "required" :=
    (hagree "required" (by decide)).symm
  have hreplaced := hother
    { agree := hagree.mono (by simp)
      properties_eq := hproperties
      replaced_eq := (Keyed.get?_put fields "properties" _ "properties").trans (if_pos rfl)
      nonempty := fun hnil => absurd hnil (Keyed.put_ne_nil properties name schema)
      list_eq := by rw [allows, allows, hrequired]
      nonrequired := by rw [requiredNames, hrequired]; exact id } hput
  have hmem := mem_nullable_objectOf hput (hdistinct.put name schema) (requiredNames replaced) docs
  refine ⟨?_, objectOf (Keyed.put found name inner) (requiredNames replaced) docs, ?_, ?_, ?_⟩
  · rw [mem_nullable_objectOf hfound hdistinct, hplace, Option.bind_some, hreference.readingOf?_eq]
    rintro ⟨_, ⟨⟩, ⟨⟩⟩
  · rw [get?_convertTable (hschemas.put _ _), Keyed.get?_put, if_pos rfl, Option.map_some,
      convert_eq_of_readingOf? hreplaced]
    rfl
  · rw [hmem, Keyed.get?_put, if_pos rfl, Option.bind_some, hinner, convert_eq_of_readingOf? hinner]
    simp
  · intro other hother
    rw [hmem, Keyed.get?_put, if_neg hother, mem_nullable_objectOf hfound hdistinct]

/-- A nickname that may be `null`. -/
def nickSchema : Json := .object [("type", .array [.string "string", .string "null"])]

/-- The fields of a user with a nickname, which is given by name. -/
def userFields : Keyed Json :=
  [("type", .string "object"),
   ("properties", .object [("nick", .object [("$ref", .string "#/components/schemas/Nick")])])]

/-- Nicknames, and users that have one. -/
def userSchemas : Keyed Json := [("Nick", nickSchema), ("User", .object userFields)]

/-- The nickname of a user is not recorded as nullable while it is given by name, but it is once its
schema stands in place of the reference. -/
theorem user_nullable_reference_property :
    ∃ (properties place : Keyed Json) (object : ObjectShape),
      (Keyed.Distinct userSchemas ∧ Keyed.get? userSchemas "User" = some (.object userFields) ∧
        IsPlain userFields ∧ Keyed.get? userFields "properties" = some (.object properties) ∧
        Keyed.Distinct properties ∧
        (convertTable none userSchemas).value.get? "User" = some (.object object) ∧
        Keyed.get? properties "nick" = some (.object place) ∧
        IsReference place "#/components/schemas/Nick" ∧
        (convert none none nickSchema).reports = []) ∧
      "nick" ∉ object.nullable ∧
      ∃ replaced : ObjectShape,
        (convertTable none (Keyed.put userSchemas "User"
          (.object (withProperty userFields properties "nick" nickSchema)))).value.get? "User" =
            some (.object replaced) ∧
        "nick" ∈ replaced.nullable := by
  let place : Keyed Json := [("$ref", .string "#/components/schemas/Nick")]
  have hdistinct : Keyed.Distinct userSchemas := by decide
  have hplain : IsPlain userFields := ⟨rfl, fun kind => by cases kind <;> rfl⟩
  have hobject : (convertTable none userSchemas).value.get? "User" =
      some (.object ⟨[("nick", .named "#/components/schemas/Nick")], [], [], Docs.none⟩) := rfl
  have hplace : Keyed.get? [("nick", Json.object place)] "nick" = some (.object place) := rfl
  have hreference : IsReference place "#/components/schemas/Nick" := ⟨rfl, rfl⟩
  have hread : (convert none none nickSchema).reports = [] := rfl
  obtain ⟨hunrecorded, replaced, hreplaced, hrecorded, _⟩ :=
    nullable_reference_property hdistinct rfl hplain rfl (by decide) hobject hplace hreference hread
  exact ⟨_, place, _, ⟨hdistinct, rfl, hplain, rfl, by decide, hobject, hplace, hreference, hread⟩,
    hunrecorded, replaced, hreplaced, hrecorded.2 rfl⟩

end SchemaGraph.Document
