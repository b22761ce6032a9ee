import SchemaGraph.Document.Conversion
import SchemaGraph.Proofs.Document.Fields

/-!
# What a schema is read from

The reading of a schema depends on its fields only through look-ups of the keywords
(`asUse_congr`). The type keyword has two effects of its own: it says whether `null` is admitted,
and its first other type says which schema is meant (`asUse_retyped`). A choice of schemas is read
from the readings of its members (`asUse_choice`).
-/

namespace SchemaGraph.Document

open Keyed (AgreeOff)

/-- The keys of flags for nullability. No reader looks at them. -/
def flagKeys : List String := ["nullable", "x-nullable"]

variable {address : Option String} {fields other : Keyed Json}
  {parts otherParts : Keyed Readings}

/-- A list of parts is complete when each of them is there. -/
theorem isSome_allPresent {α : Type} (items : List (Option α)) :
    (allPresent items).isSome = items.all Option.isSome := by
  induction items with
  | nil => rfl
  | cons item rest ih => cases item <;> simp [allPresent, ih]

/-- A list of parts is not complete when one of them is missing. -/
theorem allPresent_eq_none {α : Type} {items : List (Option α)} (h : none ∈ items) :
    allPresent items = none := by
  have hmissing : items.all Option.isSome = false := List.all_eq_false.2 ⟨none, h, by simp⟩
  rwa [← isSome_allPresent, Option.isSome_eq_false_iff, Option.isNone_iff_eq_none] at hmissing

/-- The type of a schema, if the type keyword is there and in order. -/
def typeOf? (fields : Keyed Json) : Option TypeSpec :=
  (Keyed.get? fields "type").bind TypeSpec.ofJson?

/-- The items of a list schema, whatever its type keyword says. -/
def itemsOf? (fields : Keyed Json) (parts : Keyed Readings) : Option SchemaUse := do
  let value ← Keyed.get? fields "items"
  let items ←
    if value.bool? = some false then some (Use.inline Schema.any)
    else (readField? parts Readings.asUse "items").bind fun found => found.map Reading.use
  let _ ← readField? parts Readings.asSchemas "prefixItems"
  let inOrder :=
    allowAll fields isTextOrNull ["title", "description"] &&
      allows fields isFlagOrNull "deprecated" && allows fields isList "examples" &&
      allowAll fields isSizeOrNull ["minItems", "maxItems"] &&
      allows fields isFlag "uniqueItems" && allows fields isXml "xml" &&
      allowAll fields isText ["contentEncoding", "contentMediaType"]
  if inOrder then some items else none

/-- The additional properties of an object schema whose keywords other than type and properties are
in order. -/
def additionalOf? (fields : Keyed Json) (parts : Keyed Readings) : Option Additional := do
  let additional ← readAdditional? fields parts
  let _ ← readFieldUnless? fields parts Json.isNull Readings.asSchema "propertyNames"
  if objectInOrder fields then some additional else none

/-- The properties of an object schema, whatever its type keyword says. -/
def propertiesOf? (fields : Keyed Json) (parts : Keyed Readings) :
    Option (Keyed Reading × Additional) := do
  let properties ← readField? parts Readings.asNamedUses "properties"
  let additional ← additionalOf? fields parts
  some (properties.getD [], additional)

/-- A list schema is read from its type and its items. -/
theorem readArray?_eq (fields : Keyed Json) (parts : Keyed Readings) :
    readArray? fields parts = (typeOf? fields).bind fun type =>
      (itemsOf? fields parts).map fun items => .inPlace (.array items) type.admitsNull := by
  simp only [readArray?, itemsOf?, typeOf?, bind, Option.map_bind, Function.comp_def,
    apply_ite (Option.map _), Option.map_some, Option.map_none]

/-- An object schema is read from its type and its properties. -/
theorem readObject?_eq (fields : Keyed Json) (parts : Keyed Readings) :
    readObject? fields parts = (typeOf? fields).bind fun type =>
      (propertiesOf? fields parts).map fun (properties, additional) =>
        ⟨.inline (schemaOfType fields type.effective? properties additional), type.admitsNull,
          type = .one .null⟩ := by
  cases horder : objectInOrder fields <;>
    simp only [readObject?, propertiesOf?, additionalOf?, typeOf?, horder, bind, Option.map_bind,
      Option.bind_assoc, Function.comp_def, Bool.false_eq_true, if_true, if_false,
      Option.bind_some, Option.bind_none, Option.map_some, Option.map_none]

/-- The discriminator of a composition, if it is missing or can be read. -/
def discriminatorOf? (address : Option String) (fields : Keyed Json) :
    Option (Option Discriminator) :=
  match Keyed.get? fields "discriminator" with
  | some value => readDiscriminator? address value
  | none => some none

/-- Whether the other keywords of a composition are in order. -/
def compositionInOrder (kind : CompositionKind) (fields : Keyed Json) : Bool :=
  allowAll fields isTextOrNull ("description" :: if kind = .anyOf then [] else ["title"]) &&
    allows fields isList "examples" && typeInOrder fields

/-- The title and description of a composition in shape. -/
def compositionDocs (kind : CompositionKind) (fields : Keyed Json) : Docs :=
  ⟨(Keyed.get? fields (if kind = .anyOf then anyOfTitleKey else "title")).bind Json.string?,
    (docsOf fields).description⟩

/-- A composition is read from its members, its discriminator and its other keywords. -/
theorem readComposition?_eq (kind : CompositionKind) (fields : Keyed Json)
    (parts : Keyed Readings) :
    readComposition? address kind fields parts =
      ((readField? parts Readings.asUses kind.keyword).bind id).bind fun members =>
        (discriminatorOf? address fields).bind fun discriminator =>
          if compositionInOrder kind fields then
            some (compositionReading kind members (if kind = .allOf then none else discriminator)
              (compositionDocs kind fields))
          else none := by
  simp only [readComposition?, discriminatorOf?, bind]
  cases Keyed.get? fields "discriminator" <;> rfl

/-- The readings of the values are found under the keys of the values. -/
theorem readingsOfFields_eq (address : Option String) (fields : Keyed Json) :
    readingsOfFields address fields =
      fields.map fun entry => (entry.1, readings address entry.2) := by
  induction fields with
  | nil => rfl
  | cons entry rest ih =>
      obtain ⟨key, value⟩ := entry
      rw [readingsOfFields, ih, List.map_cons]

theorem readingsOfItems_eq (address : Option String) (items : List Json) :
    readingsOfItems address items = items.map (readings address) := by
  induction items with
  | nil => rfl
  | cons value rest ih => rw [readingsOfItems, ih, List.map_cons]

theorem get?_readingsOfFields (address : Option String) (fields : Keyed Json) (key : String) :
    Keyed.get? (readingsOfFields address fields) key =
      (Keyed.get? fields key).map (readings address) := by
  rw [readingsOfFields_eq]
  exact Keyed.get?_map fields (fun _ => readings address) key

/-- Fields that agree off some keys have readings that agree off these. -/
theorem agreeOff_readingsOfFields (address : Option String) {aside : List String}
    (h : AgreeOff aside fields other) :
    AgreeOff aside (readingsOfFields address fields) (readingsOfFields address other) := by
  rw [readingsOfFields_eq, readingsOfFields_eq]
  exact h.map fun _ => readings address

/-- The keys that the items of a list schema do not depend on. -/
def itemsAside : List String :=
  "properties" :: "required" :: "additionalProperties" :: "type" :: flagKeys

/-- The keys that the additional properties of an object schema do not depend on, apart from what is
required. -/
def additionalAside : List String := "properties" :: "required" :: "items" :: "type" :: flagKeys

/-- The keys that the properties of an object schema do not depend on. -/
def propertiesAside : List String := "items" :: "type" :: flagKeys

/-- The keys that a schema does not depend on once its properties are read. -/
def schemaAside : List String := "items" :: "additionalProperties" :: "type" :: flagKeys

theorem itemsOf?_congr (h : AgreeOff itemsAside fields other)
    (hparts : AgreeOff itemsAside parts otherParts) :
    itemsOf? fields parts = itemsOf? other otherParts := by
  simp only [AgreeOff, itemsAside, flagKeys, List.mem_cons, not_or, and_imp] at h hparts
  simp [itemsOf?, readField?, allowAll, allows, h, hparts]

theorem additionalOf?_congr (h : AgreeOff additionalAside fields other)
    (hparts : AgreeOff additionalAside parts otherParts)
    (hrequired : allows fields isTextList "required" = allows other isTextList "required") :
    additionalOf? fields parts = additionalOf? other otherParts := by
  simp only [AgreeOff, additionalAside, flagKeys, List.mem_cons, not_or, and_imp] at h hparts
  simp only [allows] at hrequired
  simp [additionalOf?, readField?, readFieldUnless?, readAdditional?, objectInOrder, allowAll,
    allows, h, hparts, hrequired]

theorem schemaOfType_congr (h : AgreeOff schemaAside fields other) (type : Option TypeWord)
    (properties : Keyed Reading) (additional : Additional) :
    schemaOfType fields type properties additional =
      schemaOfType other type properties additional := by
  simp only [AgreeOff, schemaAside, flagKeys, List.mem_cons, not_or, and_imp] at h
  simp [schemaOfType, structuredSchema, untypedSchema, objectShape, scalarOf, literalsOf, docsOf, h]

theorem propertiesOf?_congr (h : AgreeOff propertiesAside fields other)
    (hparts : AgreeOff propertiesAside parts otherParts) :
    propertiesOf? fields parts = propertiesOf? other otherParts := by
  have haside : propertiesAside ⊆ additionalAside := by decide
  have hrequired : allows fields isTextList "required" = allows other isTextList "required" := by
    rw [allows, allows, h "required" (by decide)]
  simp only [propertiesOf?, readField?, hparts "properties" (by decide),
    additionalOf?_congr (h.mono haside) (hparts.mono haside) hrequired]

theorem readComposition?_congr (h : AgreeOff flagKeys fields other)
    (hparts : AgreeOff flagKeys parts otherParts) (kind : CompositionKind) :
    readComposition? address kind fields parts =
      readComposition? address kind other otherParts := by
  simp only [AgreeOff, flagKeys, List.mem_cons, not_or, and_imp] at h hparts
  cases kind <;>
    simp [readComposition?, readField?, typeInOrder, allowAll, allows, docsOf, anyOfTitleKey,
      CompositionKind.keyword, h, hparts]

/-- The reading of a schema depends on its keywords only. -/
theorem readSchema?_congr (h : AgreeOff flagKeys fields other)
    (hparts : AgreeOff flagKeys parts otherParts) :
    readSchema? address fields parts = readSchema? address other otherParts := by
  have htype : typeOf? fields = typeOf? other := by rw [typeOf?, typeOf?, h "type" (by decide)]
  have harray : readArray? fields parts = readArray? other otherParts := by
    have haside : flagKeys ⊆ itemsAside := by decide
    rw [readArray?_eq, readArray?_eq, htype,
      itemsOf?_congr (h.mono haside) (hparts.mono haside)]
  have hobject : readObject? fields parts = readObject? other otherParts := by
    have haside : flagKeys ⊆ propertiesAside := by decide
    simp only [readObject?_eq, htype, propertiesOf?_congr (h.mono haside) (hparts.mono haside),
      schemaOfType_congr (h.mono (show flagKeys ⊆ schemaAside by decide))]
  simp only [readSchema?, harray, hobject, readComposition?_congr h hparts]

/-- What stands at a place for a schema is read from its keywords only. -/
theorem asUse_congr (h : AgreeOff flagKeys fields other) :
    (readings address (.object fields)).asUse = (readings address (.object other)).asUse := by
  have hreference : readReference? address fields = readReference? address other := by
    simp only [AgreeOff, flagKeys, List.mem_cons, not_or, and_imp] at h
    simp [readReference?, allowAll, allows, h]
  simp only [readings, fieldsReadings, hreference,
    readSchema?_congr h (agreeOff_readingsOfFields address h)]

/-- Without its keyword there is no composition. -/
theorem readComposition?_of_missing {kind : CompositionKind}
    (h : Keyed.get? fields kind.keyword = none) :
    readComposition? address kind fields (readingsOfFields address fields) = none := by
  simp [readComposition?, readField?, get?_readingsOfFields, h]

/-- A schema that is neither a reference nor a composition is a list or an object. -/
theorem asUse_plain (hreference : Keyed.get? fields "$ref" = none)
    (hkinds : ∀ kind : CompositionKind, Keyed.get? fields kind.keyword = none) :
    (readings address (.object fields)).asUse =
      (readArray? fields (readingsOfFields address fields) <|>
        readObject? fields (readingsOfFields address fields)) := by
  simp [readings, fieldsReadings, readReference?, hreference, readSchema?,
    readComposition?_of_missing (hkinds _)]

/-- A schema that is neither a reference nor a composition is not read without a type. -/
theorem exists_typeOf?_of_asUse (hreference : Keyed.get? fields "$ref" = none)
    (hkinds : ∀ kind : CompositionKind, Keyed.get? fields kind.keyword = none) {reading : Reading}
    (hread : (readings address (.object fields)).asUse = some reading) :
    ∃ type, typeOf? fields = some type := by
  rw [asUse_plain hreference hkinds, readArray?_eq, readObject?_eq] at hread
  cases htype : typeOf? fields with
  | some type => exact ⟨type, rfl⟩
  | none =>
      rw [htype] at hread
      cases hread

/-- A schema that is neither a reference nor a composition, with a change to its type keyword that
keeps its first type other than `null`, still reads as the same schema. -/
theorem asUse_retyped {type otherType : TypeSpec} (h : AgreeOff ("type" :: flagKeys) fields other)
    (hreference : Keyed.get? fields "$ref" = none)
    (hkinds : ∀ kind : CompositionKind, Keyed.get? fields kind.keyword = none)
    (htype : typeOf? fields = some type) (hother : typeOf? other = some otherType)
    (heffective : otherType.effective? = type.effective?) {reading : Reading}
    (hread : (readings address (.object fields)).asUse = some reading) :
    ∃ isNull, (readings address (.object other)).asUse =
      some ⟨reading.use, otherType.admitsNull, isNull⟩ := by
  have hreference' : Keyed.get? other "$ref" = none := by rw [← h "$ref" (by decide), hreference]
  have hkinds' (kind : CompositionKind) : Keyed.get? other kind.keyword = none := by
    rw [← h kind.keyword (by cases kind <;> decide), hkinds]
  have haside : "type" :: flagKeys ⊆ itemsAside := by decide
  have haside' : "type" :: flagKeys ⊆ propertiesAside := by decide
  have haside'' : "type" :: flagKeys ⊆ schemaAside := by decide
  have hparts := agreeOff_readingsOfFields address h
  rw [asUse_plain hreference hkinds, readArray?_eq, readObject?_eq, htype] at hread
  rw [asUse_plain hreference' hkinds', readArray?_eq, readObject?_eq, hother,
    ← itemsOf?_congr (h.mono haside) (hparts.mono haside),
    ← propertiesOf?_congr (h.mono haside') (hparts.mono haside')]
  simp only [Option.bind_some, ← schemaOfType_congr (h.mono haside''), heffective] at hread ⊢
  cases hitems : itemsOf? fields (readingsOfFields address fields) with
  | some items =>
      simp only [hitems, Option.map_some] at hread ⊢
      cases hread
      exact ⟨false, rfl⟩
  | none =>
      simp only [hitems, Option.map_none] at hread ⊢
      cases hproperties : propertiesOf? fields (readingsOfFields address fields) with
      | some found =>
          simp only [hproperties, Option.map_some] at hread ⊢
          cases hread
          exact ⟨_, rfl⟩
      | none =>
          simp only [hproperties] at hread
          cases hread

/-- A composition admits more than `null`. -/
theorem isNull_compositionReading (kind : CompositionKind) (members : List Reading)
    (discriminator : Option Discriminator) (docs : Docs) :
    (compositionReading kind members discriminator docs).isNull = false := by
  unfold compositionReading
  split <;> rfl

theorem isNull_of_readComposition? {kind : CompositionKind} {reading : Reading}
    (h : readComposition? address kind fields parts = some reading) : reading.isNull = false := by
  simp only [readComposition?, bind, Option.bind_eq_some_iff] at h
  obtain ⟨members, _, h⟩ := h
  split at h <;>
    simp only [Option.bind_eq_some_iff, Option.ite_none_right_eq_some, Option.some.injEq] at h <;>
    obtain ⟨_, _, _, rfl⟩ := h <;>
    exact isNull_compositionReading _ _ _ _

theorem isNull_of_readReference? {reading : Reading}
    (h : readReference? address fields = some reading) : reading.isNull = false := by
  simp only [readReference?, bind, Option.bind_eq_some_iff, Option.ite_none_right_eq_some,
    Option.some.injEq] at h
  obtain ⟨_, _, _, rfl⟩ := h
  rfl

/-- Only a schema whose type is the word for it is just `null`. -/
theorem typeOf?_of_isNull {reading : Reading}
    (hread : (readings address (.object fields)).asUse = some reading) (hnull : reading.isNull) :
    typeOf? fields = some (.one .null) := by
  have himpossible {holds : Prop} (h : reading.isNull = false) : holds := by
    rw [h] at hnull
    cases hnull
  simp only [readings, fieldsReadings, readSchema?, Option.orElse_eq_orElse, Option.orElse_eq_or,
    Option.or_eq_some_iff] at hread
  rcases hread with hreference | ⟨-, harray | ⟨-, hobject | ⟨-, hone | ⟨-, hall | ⟨-, hany⟩⟩⟩⟩⟩
  · exact himpossible (isNull_of_readReference? hreference)
  · rw [readArray?_eq, Option.bind_eq_some_iff] at harray
    obtain ⟨type, _, harray⟩ := harray
    obtain ⟨items, _, rfl⟩ := Option.map_eq_some_iff.1 harray
    exact himpossible rfl
  · rw [readObject?_eq, Option.bind_eq_some_iff] at hobject
    obtain ⟨type, htype, hobject⟩ := hobject
    obtain ⟨found, _, rfl⟩ := Option.map_eq_some_iff.1 hobject
    rw [htype, of_decide_eq_true hnull]
  · exact himpossible (isNull_of_readComposition? hone)
  · exact himpossible (isNull_of_readComposition? hall)
  · exact himpossible (isNull_of_readComposition? hany)

/-- The schema that admits `null` only. -/
def nullSchema : Json := .object [("type", .string "null")]

/-- A choice of schemas, with nothing beside its keyword. -/
def choice (kind : CompositionKind) (members : List Json) : Json :=
  .object [(kind.keyword, .array members)]

/-- A choice is read from the readings of its members. -/
theorem asUse_choice (address : Option String) (kind : CompositionKind) (members : List Json) :
    (readings address (choice kind members)).asUse =
      (allPresent (members.map fun member => (readings address member).asUse)).map
        fun found => compositionReading kind found none Docs.none := by
  have huses : (readings address (.array members)).asUses =
      allPresent (members.map fun member => (readings address member).asUse) := by
    simp only [readings, itemsReadings, readingsOfItems_eq, List.map_map, Function.comp_def]
  cases hfound : allPresent (members.map fun member => (readings address member).asUse) <;>
    rw [hfound] at huses <;> cases kind <;>
      simp [choice, readings.eq_1, fieldsReadings, readReference?, readSchema?, readArray?,
        readObject?, readComposition?, readField?, typeInOrder, allowAll, allows, docsOf,
        anyOfTitleKey, CompositionKind.keyword, Keyed.get?, readingsOfFields, huses, Docs.none]

/-- How the schema that admits `null` only is read. -/
theorem asUse_nullSchema : (readings address nullSchema).asUse = some ⟨.inline .any, true, true⟩ :=
  rfl

/-- A choice between a schema and `null`, in either order, is that schema and admits `null`. -/
theorem compositionReading_orNull {kind : CompositionKind} (hkind : kind ≠ .allOf)
    {reading : Reading} (hnull : reading.isNull = false) {members : List Reading}
    (hmembers : members = [reading, ⟨.inline .any, true, true⟩] ∨
      members = [⟨.inline .any, true, true⟩, reading]) :
    compositionReading kind members none Docs.none = ⟨reading.use, true, false⟩ := by
  rcases hmembers with rfl | rfl <;> cases kind <;>
    simp_all [compositionReading, compositionParts]

/-- A schema or `null` is read from the reading of the schema. -/
theorem asUse_orNull_eq (address : Option String) (schema : Json) :
    (readings address (orNull schema)).asUse = (readings address schema).asUse.map fun reading =>
      compositionReading .anyOf [reading, ⟨.inline .any, true, true⟩] none Docs.none := by
  refine (asUse_choice address .anyOf [schema, nullSchema]).trans ?_
  cases hread : (readings address schema).asUse <;> simp [hread, asUse_nullSchema, allPresent]

/-- A schema or `null` is read as the schema is, and admits `null`. -/
theorem asUse_orNull {schema : Json} {reading : Reading}
    (hread : (readings address schema).asUse = some reading) (hnull : reading.isNull = false) :
    (readings address (orNull schema)).asUse = some ⟨reading.use, true, false⟩ := by
  have hkind : CompositionKind.anyOf ≠ .allOf := by decide
  rw [asUse_orNull_eq, hread, Option.map_some, compositionReading_orNull hkind hnull (.inl rfl)]

end SchemaGraph.Document
