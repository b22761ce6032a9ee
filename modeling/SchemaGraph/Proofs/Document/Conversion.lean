import SchemaGraph.Proofs.Document.Shape
import SchemaGraph.Proofs.Reports

/-!
# What schemas are converted to

A schema is converted to what it is read as once it is in shape. The table of named schemas holds
under each name the conversion of its schema (`entries_convertTable`). The properties of a schema
that is neither a reference nor a composition are read one by one (`IsPlain.reading_object`), and
those that admit `null` are the ones whose schemas do (`mem_nullable_objectOf`).
-/

namespace SchemaGraph.Document

open Keyed (AgreeOff)

variable {address subject : Option String} {fields : Keyed Json}

/-- A schema that is read without a report is converted to what it is read as. -/
theorem convert_eq_of_readingOf? {schema : Json} {reading : Reading}
    (h : readingOf? address schema = some reading) :
    convert address subject schema = pure ⟨reading.use, reading.nullable⟩ := by
  rw [readingOf?] at h
  rw [convert, h]

/-- Only what is read is converted without a report. -/
theorem exists_readingOf?_of_reports {schema : Json}
    (h : (convert address subject schema).reports = []) :
    ∃ reading, readingOf? address schema = some reading := by
  cases hread : readingOf? address schema with
  | some reading => exact ⟨reading, rfl⟩
  | none =>
      rw [readingOf?] at hread
      rw [convert, hread] at h
      cases h

/-- What is converted to an object is read as this object. -/
theorem exists_readingOf?_of_use {schema : Json} {object : ObjectShape}
    (h : (convert address none schema).value.use = .inline (.object object)) :
    ∃ reading, readingOf? address schema = some reading ∧
      reading.use = .inline (.object object) := by
  cases hread : readingOf? address schema with
  | some reading =>
      rw [convert_eq_of_readingOf? hread] at h
      exact ⟨reading, rfl, h⟩
  | none =>
      rw [readingOf?] at hread
      rw [convert, hread] at h
      cases h

/-- Only an object in place makes an entry that is an object. -/
theorem use_of_entryOf {use : SchemaUse} {object : ObjectShape}
    (h : entryOf use = .object object) : use = .inline (.object object) := by
  cases use with
  | named reference => cases h
  | inline schema => exact congrArg Use.inline h

/-- What a schema is converted to does not depend on where it stands. -/
theorem value_convert (address subject : Option String) (schema : Json) :
    (convert address subject schema).value = (convert address none schema).value := by
  unfold convert
  split <;> rfl

section Table

variable {schemas : Keyed Json} {table : Table}

/-- Converting named schemas one after the other appends their entries to the table. -/
theorem entries_convertEntries (hschemas : Keyed.Distinct schemas)
    (hnew : ∀ name ∈ Keyed.keys schemas, name ∉ table.names) :
    (convertEntries address schemas table).value.entries =
      table.entries ++ Keyed.mapValues schemas fun schema =>
        entryOf (convert address none schema).value.use := by
  induction schemas generalizing table with
  | nil => exact (List.append_nil _).symm
  | cons entry rest ih =>
      obtain ⟨name, schema⟩ := entry
      obtain ⟨hname, hrest⟩ := List.nodup_cons.1 hschemas
      have hfirst : name ∉ Keyed.keys table.entries := hnew name List.mem_cons_self
      have hentries (added : Schema) :
          (table.insert name added).entries = table.entries ++ [(name, added)] :=
        Keyed.put_of_notMem hfirst added
      rw [convertEntries, Reported.value_bind, ih hrest, hentries, value_convert,
        List.append_assoc]
      · rfl
      · intro other hother hmem
        rw [Table.names, hentries, Keyed.keys, List.map_append, List.mem_append] at hmem
        rcases hmem with hmem | hmem
        · exact hnew other (List.mem_cons_of_mem _ hother) hmem
        · obtain rfl : other = name := by simpa using hmem
          exact hname hother

/-- The table holds under each name the conversion of its schema. -/
theorem entries_convertTable (hschemas : Keyed.Distinct schemas) :
    (convertTable address schemas).value.entries =
      Keyed.mapValues schemas fun schema => entryOf (convert address none schema).value.use :=
  entries_convertEntries hschemas fun _ _ hmem => nomatch hmem

theorem get?_convertTable (hschemas : Keyed.Distinct schemas) (name : String) :
    (convertTable address schemas).value.get? name =
      (Keyed.get? schemas name).map fun schema =>
        entryOf (convert address none schema).value.use := by
  rw [Table.get?, entries_convertTable hschemas]
  exact Keyed.get?_map schemas (fun _ schema => entryOf (convert address none schema).value.use)
    name

end Table

/-- The schema is neither a reference nor a composition. -/
def IsPlain (fields : Keyed Json) : Prop :=
  Keyed.get? fields "$ref" = none ∧ ∀ kind : CompositionKind, Keyed.get? fields kind.keyword = none

/-- Properties and what is required do not make a schema a reference or a composition. -/
theorem IsPlain.of_agreeOff {other : Keyed Json} (h : IsPlain fields)
    (hagree : AgreeOff ["properties", "required"] fields other) : IsPlain other := by
  refine ⟨?_, fun kind => ?_⟩
  · rw [← hagree "$ref" (by decide), h.1]
  · rw [← hagree kind.keyword (by cases kind <;> decide), h.2]

/-- The fields of a plain schema in shape. -/
def shapedFields (fields : Keyed Json) : Keyed Json :=
  let mapped := mapSchemaFields shapeStep fields
  putIfMissing mapped "type" (impliedType mapped)

theorem IsPlain.shape_eq (h : IsPlain fields) :
    shape (.object fields) = .object (shapedFields fields) := by
  have hmapped {key : String} (hkey : Keyed.get? fields key = none) :
      Keyed.has (mapSchemaFields shapeStep fields) key = false := by
    rw [Keyed.has, get?_mapSchemaFields, hkey]
    rfl
  have hkeyword : compositionKeys.find? (Keyed.has (mapSchemaFields shapeStep fields)) = none := by
    have hkinds (kind : CompositionKind) := hmapped (h.2 kind)
    simp only [compositionKeys, List.find?_cons, List.find?_nil]
    rw [show Keyed.has _ "allOf" = false from hkinds .allOf,
      show Keyed.has _ "oneOf" = false from hkinds .oneOf,
      show Keyed.has _ "anyOf" = false from hkinds .anyOf]
  rw [shape_object, shapeFields, if_neg (by rw [hmapped h.1]; decide), hkeyword]
  rfl

theorem get?_shapedFields {key : String} (hkey : key ≠ "type") :
    Keyed.get? (shapedFields fields) key =
      (Keyed.get? fields key).map (mapField shapeStep key) := by
  simp only [shapedFields, putIfMissing]
  split
  · exact get?_mapSchemaFields shapeStep fields key
  · rw [Keyed.get?_put, if_neg hkey, get?_mapSchemaFields]

theorem distinct_shapedFields (h : Keyed.Distinct fields) :
    Keyed.Distinct (shapedFields fields) := by
  simp only [shapedFields, putIfMissing]
  split
  · exact distinct_mapSchemaFields shapeStep h
  · exact (distinct_mapSchemaFields shapeStep h).put _ _

/-- A plain schema stays plain when it is brought into shape. -/
theorem IsPlain.shaped (h : IsPlain fields) : IsPlain (shapedFields fields) := by
  refine ⟨?_, fun kind => ?_⟩
  · rw [get?_shapedFields (by decide), h.1, Option.map_none]
  · rw [get?_shapedFields (by cases kind <;> decide), h.2, Option.map_none]

/-- The readings of named schemas, if all of them can be read. -/
def namedReadings? (address : Option String) (schemas : Keyed Json) : Option (Keyed Reading) :=
  allPresent (schemas.map fun entry =>
    (readingOf? address entry.2).map fun reading => (entry.1, reading))

section NamedReadings

variable {schemas : Keyed Json} {found : Keyed Reading} {name : String}

theorem namedReadings?_cons_eq_some_iff {schema : Json} :
    namedReadings? address ((name, schema) :: schemas) = some found ↔
      ∃ reading more, readingOf? address schema = some reading ∧
        namedReadings? address schemas = some more ∧ found = (name, reading) :: more := by
  rw [namedReadings?, List.map_cons]
  cases readingOf? address schema with
  | none => simp [allPresent]
  | some reading =>
      simp only [Option.map_some, allPresent, Option.map_eq_some_iff, Option.some.injEq]
      constructor
      · rintro ⟨more, hmore, rfl⟩
        exact ⟨reading, more, rfl, hmore, rfl⟩
      · rintro ⟨_, more, rfl, hmore, rfl⟩
        exact ⟨more, hmore, rfl⟩

/-- Under each name stands the reading of its schema. -/
theorem get?_namedReadings? (h : namedReadings? address schemas = some found) (name : String) :
    Keyed.get? found name = (Keyed.get? schemas name).bind (readingOf? address) := by
  induction schemas generalizing found with
  | nil =>
      cases h
      rfl
  | cons entry rest ih =>
      obtain ⟨first, schema⟩ := entry
      obtain ⟨reading, more, hreading, hmore, rfl⟩ := namedReadings?_cons_eq_some_iff.1 h
      by_cases hname : first = name
      · simp [Keyed.get?, hname, hreading]
      · simp [Keyed.get?, hname, ih hmore]

theorem keys_namedReadings? (h : namedReadings? address schemas = some found) :
    Keyed.keys found = Keyed.keys schemas := by
  induction schemas generalizing found with
  | nil =>
      cases h
      rfl
  | cons entry rest ih =>
      obtain ⟨first, schema⟩ := entry
      obtain ⟨reading, more, _, hmore, rfl⟩ := namedReadings?_cons_eq_some_iff.1 h
      exact congrArg (first :: ·) (ih hmore)

theorem distinct_namedReadings? (h : namedReadings? address schemas = some found)
    (hschemas : Keyed.Distinct schemas) : Keyed.Distinct found := by
  rw [Keyed.Distinct, keys_namedReadings? h]
  exact hschemas

/-- Schemas are read alike under other names. -/
theorem namedReadings?_renameKeys (h : namedReadings? address schemas = some found)
    (rename : String → String) :
    namedReadings? address (Keyed.renameKeys rename schemas) =
      some (Keyed.renameKeys rename found) := by
  induction schemas generalizing found with
  | nil =>
      cases h
      rfl
  | cons entry rest ih =>
      obtain ⟨first, schema⟩ := entry
      obtain ⟨reading, more, hreading, hmore, rfl⟩ := namedReadings?_cons_eq_some_iff.1 h
      exact namedReadings?_cons_eq_some_iff.2 ⟨reading, _, hreading, ih hmore, rfl⟩

/-- Another schema under one of the names changes the reading of this name. -/
theorem namedReadings?_put {schema : Json} {reading : Reading}
    (h : namedReadings? address schemas = some found) (name : String)
    (hschema : readingOf? address schema = some reading) :
    namedReadings? address (Keyed.put schemas name schema) =
      some (Keyed.put found name reading) := by
  induction schemas generalizing found with
  | nil =>
      cases h
      exact namedReadings?_cons_eq_some_iff.2 ⟨reading, [], hschema, rfl, rfl⟩
  | cons entry rest ih =>
      obtain ⟨first, old⟩ := entry
      obtain ⟨before, more, hbefore, hmore, rfl⟩ := namedReadings?_cons_eq_some_iff.1 h
      simp only [Keyed.put]
      split
      · exact namedReadings?_cons_eq_some_iff.2 ⟨reading, more, hschema, hmore, rfl⟩
      · exact namedReadings?_cons_eq_some_iff.2 ⟨before, _, hbefore, ih hmore, rfl⟩

/-- The object schema with properties that are read so. -/
def objectOf (found : Keyed Reading) (required : List String) (docs : Docs) : ObjectShape where
  properties := Keyed.mapValues found Reading.use
  required := NameSet.addAll [] required
  nullable := (found.filter fun entry => entry.2.nullable).map Prod.fst
  docs := docs

/-- The properties of an object that admit `null` are those whose schemas do. -/
theorem mem_nullable_objectOf (h : namedReadings? address schemas = some found)
    (hschemas : Keyed.Distinct schemas) (required : List String) (docs : Docs) (name : String) :
    name ∈ (objectOf found required docs).nullable ↔
      ∃ reading, (Keyed.get? schemas name).bind (readingOf? address) = some reading ∧
        reading.nullable := by
  have hfound := distinct_namedReadings? h hschemas
  rw [← get?_namedReadings? h]
  constructor
  · intro hmem
    obtain ⟨⟨_, reading⟩, hentry, rfl⟩ := List.mem_map.1 hmem
    obtain ⟨hentry, hnullable⟩ := List.mem_filter.1 hentry
    exact ⟨reading, hfound.get?_eq_some_iff.2 hentry, hnullable⟩
  · rintro ⟨reading, hreading, hnullable⟩
    exact List.mem_map.2
      ⟨(name, reading), List.mem_filter.2 ⟨Keyed.mem_of_get? hreading, hnullable⟩, rfl⟩

end NamedReadings

theorem mapNamedSchemas_eq (step : Bool → Json → Json) (schemas : Keyed Json) :
    mapNamedSchemas step schemas =
      schemas.map fun entry => (entry.1, mapSchema step true entry.2) := by
  induction schemas with
  | nil => rfl
  | cons entry rest ih => rw [mapNamedSchemas, ih, List.map_cons]

/-- The properties of a schema in shape are read one by one. -/
theorem propertiesOf?_shapedFields {properties : Keyed Json}
    (h : Keyed.get? fields "properties" = some (.object properties)) :
    propertiesOf? (shapedFields fields) (readingsOfFields address (shapedFields fields)) =
      (namedReadings? address properties).bind fun found =>
        (additionalOf? (shapedFields fields) (readingsOfFields address (shapedFields fields))).map
          fun additional => (found, additional) := by
  have hmapped : mapField shapeStep "properties" (.object properties) =
      .object (properties.map fun entry => (entry.1, shape entry.2)) :=
    congrArg Json.object (mapNamedSchemas_eq shapeStep properties)
  have hread : readField? (readingsOfFields address (shapedFields fields)) Readings.asNamedUses
      "properties" = (namedReadings? address properties).map some := by
    rw [readField?, get?_readingsOfFields, get?_shapedFields (by decide), h, Option.map_some,
      hmapped, Option.map_some]
    simp only [readings, fieldsReadings, readingsOfFields_eq, List.map_map, Function.comp_def,
      namedReadings?, readingOf?]
  rw [propertiesOf?, hread]
  cases namedReadings? address properties with
  | none => rfl
  | some found =>
      cases additionalOf? (shapedFields fields) (readingsOfFields address (shapedFields fields)) <;>
        rfl

/-- The names that an object schema requires. -/
def requiredNames (fields : Keyed Json) : List String :=
  (Keyed.get? fields "required").elim [] namesIn

/-- A schema with properties counts as an object. -/
theorem structuredSchema_cons (fields : Keyed Json) (typed : Bool) (entry : String × Reading)
    (rest : Keyed Reading) (additional : Additional) :
    structuredSchema fields typed (entry :: rest) additional =
      .object (objectShape fields (entry :: rest)) := by
  simp [structuredSchema]

/-- Without properties and additional ones, the type or the names that it requires make a schema an
object. -/
theorem structuredSchema_absent (fields : Keyed Json) (typed : Bool) :
    structuredSchema fields typed [] .absent =
      if !typed && (requiredNames fields).isEmpty then untypedSchema fields
      else .object (objectShape fields []) := by
  cases typed <;> rfl

/-- A schema counts as an object by its properties, or without additional ones by its type or the
names that it requires. -/
theorem structuredSchema_eq_object_iff {typed : Bool} {found : Keyed Reading}
    {additional : Additional} {object : ObjectShape} :
    structuredSchema fields typed found additional = .object object ↔
      object = objectShape fields found ∧
        (found ≠ [] ∨ additional = .absent ∧ (typed ∨ requiredNames fields ≠ [])) := by
  have huntyped : untypedSchema fields ≠ .object object := by
    unfold untypedSchema
    split <;> simp [scalarOf]
  cases found with
  | cons entry rest =>
      rw [structuredSchema_cons, Schema.object.injEq, eq_comm]
      simp
  | nil =>
      cases additional with
      | typed use => simp [structuredSchema]
      | free => simp [structuredSchema]
      | absent =>
          rw [structuredSchema_absent]
          split
          · simp_all
          · rw [Schema.object.injEq, eq_comm]
            simp_all [or_iff_not_imp_left]

/-- A schema that counts as an object still does with other properties and other required names,
unless there are none of them any more. -/
theorem schemaOfType_of_object {type : Option TypeWord} {found new : Keyed Reading}
    {additional : Additional} {object : ObjectShape} {other : Keyed Json}
    (h : schemaOfType fields type found additional = .object object) (hnew : new = [] → found = [])
    (hrequired : requiredNames other = [] → requiredNames fields = []) :
    object = objectShape fields found ∧
      schemaOfType other type new additional = .object (objectShape other new) := by
  have hstructured {typed : Bool}
      (h : structuredSchema fields typed found additional = .object object) :
      object = objectShape fields found ∧
        structuredSchema other typed new additional = .object (objectShape other new) := by
    rw [structuredSchema_eq_object_iff] at h ⊢
    exact ⟨h.1, rfl, h.2.imp (mt hnew) (And.imp_right (Or.imp_right (mt hrequired)))⟩
  cases type with
  | none => exact hstructured h
  | some word =>
      cases word with
      | object => exact hstructured h
      | string | integer | number | boolean | array | null => cases h

section Objects

variable {properties : Keyed Json} {reading : Reading} {object : ObjectShape}

/-- A plain schema that is read as an object, taken apart. -/
theorem IsPlain.exists_object (hplain : IsPlain fields)
    (hproperties : Keyed.get? fields "properties" = some (.object properties))
    (hread : readingOf? address (.object fields) = some reading)
    (huse : reading.use = .inline (.object object)) :
    let shaped := shapedFields fields
    ∃ type found additional, typeOf? shaped = some type ∧
      itemsOf? shaped (readingsOfFields address shaped) = none ∧
      namedReadings? address properties = some found ∧
      additionalOf? shaped (readingsOfFields address shaped) = some additional ∧
      schemaOfType shaped type.effective? found additional = .object object ∧
      reading.nullable = type.admitsNull ∧ reading.isNull = decide (type = .one .null) := by
  intro shaped
  rw [readingOf?, hplain.shape_eq, asUse_plain hplain.shaped.1 hplain.shaped.2, readArray?_eq,
    readObject?_eq, propertiesOf?_shapedFields hproperties] at hread
  cases htype : typeOf? (shapedFields fields) with
  | none =>
      rw [htype] at hread
      cases hread
  | some type =>
      rw [htype, Option.bind_some, Option.bind_some] at hread
      cases hitems : itemsOf? (shapedFields fields)
        (readingsOfFields address (shapedFields fields)) with
      | some items =>
          rw [hitems] at hread
          cases hread
          cases huse
      | none =>
          rw [hitems, Option.map_none, Option.orElse_eq_orElse, Option.orElse_eq_or,
            Option.none_or] at hread
          obtain ⟨_, hpair, rfl⟩ := Option.map_eq_some_iff.1 hread
          obtain ⟨found, hfound, hpair⟩ := Option.bind_eq_some_iff.1 hpair
          obtain ⟨additional, hadditional, rfl⟩ := Option.map_eq_some_iff.1 hpair
          exact ⟨type, found, additional, rfl, rfl, hfound, hadditional, Use.inline.inj huse,
            rfl, rfl⟩

/-- Properties imply the type of an object, so their schemas and what is required do not matter for
the other fields in shape. -/
theorem agreeOff_shapedFields {other : Keyed Json}
    (h : AgreeOff ["properties", "required"] fields other) (hfields : Keyed.has fields "properties")
    (hother : Keyed.has other "properties") :
    AgreeOff ["properties", "required"] (shapedFields fields) (shapedFields other) := by
  have hmapped := agreeOff_mapSchemaFields shapeStep h
  have himplied {fields : Keyed Json} (h : Keyed.has fields "properties") :
      impliedType (mapSchemaFields shapeStep fields) = .string "object" := by
    have hhas : Keyed.has (mapSchemaFields shapeStep fields) "properties" := by
      rw [Keyed.has, get?_mapSchemaFields, Option.isSome_map]
      exact h
    rw [impliedType, if_pos (List.any_eq_true.2 ⟨"properties", by decide, hhas⟩)]
  simp only [shapedFields, putIfMissing, himplied hfields, himplied hother,
    hmapped.has_eq (show "type" ∉ ["properties", "required"] by decide)]
  split
  · exact hmapped
  · exact (hmapped.cons "type").put _

/-- What is required is not changed when a schema is brought into shape. -/
theorem get?_required_shapedFields (fields : Keyed Json) :
    Keyed.get? (shapedFields fields) "required" = Keyed.get? fields "required" := by
  rw [get?_shapedFields (by decide)]
  exact Option.map_id'

/-- Fields that differ in their properties and required names at most, but not in whether there are
some. -/
structure OtherProperties (fields properties other replaced : Keyed Json) : Prop where
  agree : AgreeOff ["properties", "required"] fields other
  properties_eq : Keyed.get? fields "properties" = some (.object properties)
  replaced_eq : Keyed.get? other "properties" = some (.object replaced)
  nonempty : replaced = [] → properties = []
  list_eq : allows fields isTextList "required" = allows other isTextList "required"
  nonrequired : requiredNames other = [] → requiredNames fields = []

/-- An object schema stays one with other schemas for its properties and other names that it
requires. The other fields are read as before. -/
theorem IsPlain.exists_objectOf (hplain : IsPlain fields)
    (hproperties : Keyed.get? fields "properties" = some (.object properties))
    (hread : readingOf? address (.object fields) = some reading)
    (huse : reading.use = .inline (.object object)) :
    ∃ found docs, namedReadings? address properties = some found ∧
      object = objectOf found (requiredNames fields) docs ∧
      ∀ {other replaced : Keyed Json} {new : Keyed Reading},
        OtherProperties fields properties other replaced →
        namedReadings? address replaced = some new →
        readingOf? address (.object other) = some
          { reading with use := .inline (.object (objectOf new (requiredNames other) docs)) } := by
  obtain ⟨type, found, additional, htype, hitems, hfound, hadditional, hschema, hnullable, hnull⟩ :=
    hplain.exists_object hproperties hread huse
  have hnames (fields : Keyed Json) :
      requiredNames (shapedFields fields) = requiredNames fields := by
    rw [requiredNames, get?_required_shapedFields, requiredNames]
  have hobjectOf (fields : Keyed Json) (found : Keyed Reading) :
      objectShape (shapedFields fields) found =
        objectOf found (requiredNames fields) (docsOf (shapedFields fields)) := by
    rw [← hnames]
    rfl
  refine ⟨found, docsOf (shapedFields fields), hfound, ?_, fun {other replaced new} h hnew => ?_⟩
  · rw [← hobjectOf]
    exact (schemaOfType_of_object hschema id id).1
  have hother : IsPlain other := hplain.of_agreeOff h.agree
  have hshaped := agreeOff_shapedFields h.agree (by rw [Keyed.has, hproperties]; rfl)
    (by rw [Keyed.has, h.replaced_eq]; rfl)
  have hitemsAside := hshaped.mono (show _ ⊆ itemsAside by decide)
  have hadditionalAside := hshaped.mono (show _ ⊆ additionalAside by decide)
  have htype' : typeOf? (shapedFields other) = some type := by
    rw [typeOf?, ← hshaped "type" (by decide)]
    exact htype
  have hlist : allows (shapedFields fields) isTextList "required" =
      allows (shapedFields other) isTextList "required" := by
    rw [allows, allows, get?_required_shapedFields, get?_required_shapedFields]
    exact h.list_eq
  have hempty : new = [] → found = [] := by
    intro hnil
    have hreplaced : replaced = [] :=
      List.map_eq_nil_iff.1 ((keys_namedReadings? hnew).symm.trans (by rw [hnil]; rfl))
    have hkeys := keys_namedReadings? hfound
    rw [h.nonempty hreplaced] at hkeys
    exact List.map_eq_nil_iff.1 hkeys
  have hrequired : requiredNames (shapedFields other) = [] →
      requiredNames (shapedFields fields) = [] := by
    rw [hnames, hnames]
    exact h.nonrequired
  have hdocs : docsOf (shapedFields other) = docsOf (shapedFields fields) := by
    rw [docsOf, docsOf, hshaped "title" (by decide), hshaped "description" (by decide)]
  have hobject := (schemaOfType_of_object hschema hempty hrequired).2
  rw [hobjectOf, hdocs] at hobject
  rw [readingOf?, hother.shape_eq, asUse_plain hother.shaped.1 hother.shaped.2, readArray?_eq,
    readObject?_eq, htype', Option.bind_some, Option.bind_some,
    ← itemsOf?_congr hitemsAside (agreeOff_readingsOfFields address hitemsAside), hitems,
    propertiesOf?_shapedFields h.replaced_eq, hnew,
    ← additionalOf?_congr hadditionalAside (agreeOff_readingsOfFields address hadditionalAside)
      hlist, hadditional]
  simp only [Option.bind_some, Option.map_none, Option.map_some, hobject, hnullable, hnull,
    Option.orElse_eq_orElse, Option.orElse_eq_or, Option.none_or]

end Objects

end SchemaGraph.Document
