import SchemaGraph.Proofs.Document.ClosedObjects
import SchemaGraph.Proofs.Document.Places
import SchemaGraph.Proofs.Flattening.LastMember

/-!
# The keywords beside an `allOf`

The properties, required names and patterns that stand beside an `allOf` are its own. They count as
one more member behind the others (`IsAllOf.readingOf?_ownMoved`), so they have the last word when
the members are merged. Read `IsAllOf.own_keywords_last` first. The fields of a schema and its
properties are taken to have distinct keys, as all objects have that are read.
-/

namespace SchemaGraph.Document

open Keyed (AgreeOff)

variable {address subject : Option String} {fields other : Keyed Json} {members : List Json}
  {reading : Reading}

/-- The keywords beside an `allOf` that are its own. -/
def ownKeys : List String :=
  ["properties", "required", "patternProperties"]

/-- The own keywords of a schema. -/
def ownKeywords (fields : Keyed Json) : Keyed Json :=
  fields.filter fun entry => ownKeys.contains entry.1

/-- An object schema with the own keywords of a schema. -/
def ownMember (fields : Keyed Json) : Keyed Json :=
  ("type", .string "object") :: ownKeywords fields

/-- The own keywords moved into a last member of the `allOf`. Where there are none, nothing is
moved. -/
def ownMoved (fields : Keyed Json) : Keyed Json :=
  if (ownKeywords fields).isEmpty then fields
  else
    Keyed.modify (fields.filter fun entry => !ownKeys.contains entry.1) "allOf"
      (addMember (.object (ownMember fields)))

/-- A schema with a list of members under `allOf`, and without a reference, another composition and
additional properties. -/
structure IsAllOf (fields : Keyed Json) (members : List Json) : Prop where
  composed : IsComposed .allOf fields
  members_eq : Keyed.get? fields "allOf" = some (.array members)
  closed : Keyed.get? fields "additionalProperties" = none

/-- The object has the definitions that a schema gives its own properties, and requires the names
that the schema requires itself. -/
structure KeepsOwn (address : Option String) (fields : Keyed Json) (object : ObjectShape) :
    Prop where
  properties : ∀ property schema, Keyed.get? (namedProperties fields) property = some schema →
    ∃ definition, convert address none schema = pure definition ∧
      Keyed.get? object.properties property = some definition.use ∧
      (property ∈ object.nullable ↔ definition.nullable)
  required : ∀ name ∈ requiredNames fields, name ∈ object.required

section OwnMember

theorem get?_ownKeywords (fields : Keyed Json) (key : String) :
    Keyed.get? (ownKeywords fields) key =
      if key ∈ ownKeys then Keyed.get? fields key else none := by
  rw [ownKeywords, Keyed.get?_filter]
  simp only [List.contains_iff_mem]

theorem get?_ownMember {key : String} (hkey : key ≠ "type") :
    Keyed.get? (ownMember fields) key =
      if key ∈ ownKeys then Keyed.get? fields key else none := by
  rw [ownMember, Keyed.get?, if_neg hkey.symm, get?_ownKeywords]

/-- The own keywords make an object schema. -/
theorem isObject_ownMember (fields : Keyed Json) : IsObject (ownMember fields) where
  plain := by
    refine ⟨?_, fun kind => ?_⟩
    · rw [get?_ownMember (by decide), if_neg (by decide)]
    · rw [get?_ownMember (by cases kind <;> decide), if_neg (by cases kind <;> decide)]
  type_eq := rfl

/-- An object schema with the own keywords is read as an object with these properties. -/
theorem reading_ownMember (hread : readingOf? address (.object (ownMember fields)) = some reading) :
    ∃ found docs, namedReadings? address (namedProperties fields) = some found ∧
      reading = .inPlace (.object (objectOf found (requiredNames fields) docs)) false := by
  have hnamed : namedProperties (ownMember fields) = namedProperties fields := by
    rw [namedProperties, get?_ownMember (by decide), if_pos (by decide), namedProperties]
  have hrequired : requiredNames (ownMember fields) = requiredNames fields := by
    rw [requiredNames, get?_ownMember (by decide), if_pos (by decide), requiredNames]
  have hshaped {key : String} (hkey : key ≠ "type") (hnone : key ∉ ownKeys) :
      Keyed.get? (shapedFields (ownMember fields)) key = none := by
    rw [get?_shapedFields hkey, get?_ownMember hkey, if_neg hnone, Option.map_none]
  obtain ⟨items, hitems, -⟩ | ⟨found, additional, -, hproperties, rfl⟩ :=
    (isObject_ownMember fields).reading_cases hread
  · rw [itemsOf?, hshaped (by decide) (by decide)] at hitems
    cases hitems
  · obtain ⟨hfound, hadditional⟩ := propertiesOf?_eq_some hproperties
    rw [eq_absent_of_additionalOf? (hshaped (by decide) (by decide)) hadditional]
    refine ⟨found, docsOf (shapedFields (ownMember fields)), hnamed ▸ hfound, ?_⟩
    have hschema : structuredSchema (shapedFields (ownMember fields)) true found .absent =
        .object (objectShape (shapedFields (ownMember fields)) found) := by
      cases found with
      | nil => rw [structuredSchema_absent, Bool.not_true, Bool.false_and, if_neg (by decide)]
      | cons entry rest => exact structuredSchema_cons _ _ entry rest .absent
    rw [hschema, objectShape_shapedFields, hrequired]
    rfl

end OwnMember

section Shape

/-- The members that an `allOf` gets in shape: one with the object keywords, if there are some. -/
def takenMembers (fields : Keyed Json) : List Json :=
  let taken := (takeFields objectKeys (Keyed.swapOut fields "type")).1
  if taken.isEmpty then [] else [.object (taken ++ [("type", .string "object")])]

/-- In shape the object keywords come behind the members of an `allOf`. -/
theorem get?_allOf_composedFields (hfields : Keyed.Distinct fields)
    (hmembers : Keyed.get? fields "allOf" = some (.array members)) :
    Keyed.get? (composedFields "allOf" fields) "allOf" =
      some (.array (members ++ takenMembers fields)) := by
  have hleft : Keyed.get? (takeFields objectKeys (Keyed.swapOut fields "type")).2 "allOf" =
      some (.array members) := by
    rw [get?_takeFields objectKeys (hfields.swapOut _) (by decide), hfields.get?_swapOut,
      if_neg (by decide), hmembers]
  simp only [composedFields, if_true, moveOwnKeywords, takenMembers]
  split
  · rw [hleft, List.append_nil]
  · rw [Keyed.get?_modify, if_pos rfl, hleft]
    rfl

/-- In shape the object keywords do not stand beside an `allOf` any more. -/
theorem get?_objectKeys_composedFields (hfields : Keyed.Distinct fields) {key : String}
    (hkey : key ∈ objectKeys) : Keyed.get? (composedFields "allOf" fields) key = none := by
  have hleft := get?_takeFields_of_mem objectKeys (hfields.swapOut "type") hkey
  have hne : key ≠ "allOf" := by
    rintro rfl
    exact absurd hkey (by decide)
  simp only [composedFields, if_true, moveOwnKeywords]
  split
  · exact hleft
  · rw [Keyed.get?_modify, if_neg hne, hleft]

/-- The fields of an `allOf` in shape, without its type. -/
def shapedAllOf (fields : Keyed Json) : Keyed Json :=
  composedFields "allOf" (mapSchemaFields shapeStep fields)

end Shape

namespace IsAllOf

variable (h : IsAllOf fields members)
include h

/-- What is taken out of an `allOf` in shape is its own keywords. -/
theorem get?_taken (hfields : Keyed.Distinct fields) (key : String) :
    Keyed.get? (takeFields objectKeys
        (Keyed.swapOut (mapSchemaFields shapeStep fields) "type")).1 key =
      (Keyed.get? (ownKeywords fields) key).map (mapField shapeStep key) := by
  have hmapped := distinct_mapSchemaFields shapeStep hfields
  rw [get?_takeFields_taken _ (hmapped.swapOut _), hmapped.get?_swapOut, get?_mapSchemaFields,
    get?_ownKeywords]
  by_cases hown : key ∈ ownKeys
  · have hobject : key ∈ objectKeys := (show ownKeys ⊆ objectKeys by decide) hown
    have htype : key ≠ "type" := by
      rintro rfl
      exact absurd hown (by decide)
    rw [if_pos hobject, if_neg htype, if_pos hown]
  · rw [if_neg hown]
    split
    · -- The one object keyword that is not an own one is that of additional properties.
      next hobject =>
        obtain rfl : key = "additionalProperties" := by
          simp only [objectKeys, ownKeys, List.mem_cons, List.not_mem_nil, or_false, not_or]
            at hobject hown
          tauto
        rw [if_neg (by decide), h.closed, Option.map_none]
    · rfl

/-- The members of an `allOf` in shape. -/
theorem get?_allOf_shaped (hfields : Keyed.Distinct fields) :
    Keyed.get? (shapedAllOf fields) "allOf" =
      some (.array (members.map shape ++ takenMembers (mapSchemaFields shapeStep fields))) := by
  refine get?_allOf_composedFields (distinct_mapSchemaFields shapeStep hfields) ?_
  rw [get?_mapSchemaFields, h.members_eq]
  exact congrArg (some ∘ Json.array) (mapSchemas_eq shapeStep members)

/-- The member that an `allOf` gets in shape is read as an object schema with the own keywords. -/
theorem asUse_takenMembers (hfields : Keyed.Distinct fields) :
    (takenMembers (mapSchemaFields shapeStep fields)).map
        (fun member => (readings address member).asUse) =
      if (ownKeywords fields).isEmpty then []
      else [readingOf? address (.object (ownMember fields))] := by
  have htaken := h.get?_taken hfields
  rw [takenMembers]
  generalize (takeFields objectKeys
    (Keyed.swapOut (mapSchemaFields shapeStep fields) "type")).1 = taken at htaken ⊢
  have hisEmpty : taken.isEmpty = (ownKeywords fields).isEmpty := by
    rw [Bool.eq_iff_iff, Keyed.isEmpty_iff, Keyed.isEmpty_iff]
    simp only [htaken, Option.map_eq_none_iff]
  simp only [hisEmpty]
  split
  · rfl
  · -- The type stands last in one member and first in the other, which look-ups do not tell.
    have hobject := isObject_ownMember fields
    rw [List.map_cons, List.map_nil, readingOf?, hobject.plain.shape_eq, List.cons.injEq]
    refine ⟨asUse_congr fun key _ => ?_, rfl⟩
    rw [Keyed.get?_append, htaken, get?_ownKeywords]
    by_cases htype : key = "type"
    · rw [htype, hobject.get?_type_shapedFields]
      rfl
    · rw [get?_shapedFields htype, get?_ownMember htype, Keyed.get?, if_neg (Ne.symm htype)]
      exact Option.or_none

/-- An `allOf` in shape is read from its members. -/
theorem asUse_shaped (hfields : Keyed.Distinct fields) :
    (readings address (.object (shapedAllOf fields))).asUse =
      readComposition? address .allOf (shapedAllOf fields)
        (readingsOfFields address (shapedAllOf fields)) :=
  h.composed.mapped.asUse_composedFields (distinct_mapSchemaFields shapeStep hfields)

/-- An `allOf` in shape, as a choice when its type admits `null`. -/
theorem shape_eq : shape (.object fields) =
    if admitsNull (Keyed.get? (mapSchemaFields shapeStep fields) "type") then
      orNull (.object (shapedAllOf fields))
    else .object (shapedAllOf fields) :=
  h.composed.shape_eq (by rw [Keyed.has, CompositionKind.keyword, h.members_eq]; rfl)

/-- What an `allOf` is read as is used like what its fields in shape are read as. A choice that its
type makes of it stands for just its schema. -/
theorem exists_reading_shaped (hfields : Keyed.Distinct fields)
    (hread : readingOf? address (.object fields) = some reading) :
    ∃ inner, readComposition? address .allOf (shapedAllOf fields)
      (readingsOfFields address (shapedAllOf fields)) = some inner ∧ reading.use = inner.use := by
  rw [readingOf?, h.shape_eq] at hread
  split at hread
  · rw [asUse_orNull_eq, Option.map_eq_some_iff, h.asUse_shaped hfields] at hread
    obtain ⟨inner, hinner, rfl⟩ := hread
    refine ⟨inner, hinner, ?_⟩
    rw [compositionReading_orNull (by decide) (isNull_of_readComposition? hinner) (.inl rfl)]
  · exact ⟨reading, (h.asUse_shaped hfields).symm.trans hread, rfl⟩

end IsAllOf

/-- A composition is read alike from other members that are read alike. -/
theorem readComposition?_of_sameReadings {kind : CompositionKind} {changed : List Json}
    (hagree : AgreeOff [kind.keyword] fields other)
    (hmembers : Keyed.get? fields kind.keyword = some (.array members))
    (hchanged : Keyed.get? other kind.keyword = some (.array changed))
    (hsame : (changed.map fun member => (readings address member).asUse) =
      members.map fun member => (readings address member).asUse) :
    readComposition? address kind other (readingsOfFields address other) =
      readComposition? address kind fields (readingsOfFields address fields) := by
  have hid (reading : Reading) : reading.mapInline id = reading := by
    obtain ⟨use, nullable, isNull⟩ := reading
    cases use <;> rfl
  cases hfound : allPresent (members.map fun member => (readings address member).asUse) with
  | none =>
      rw [readComposition?_of_unread hmembers hfound,
        readComposition?_of_unread hchanged (hsame ▸ hfound)]
  | some found =>
      rw [readComposition?_other hagree hmembers hchanged hfound (hsame ▸ hfound)
        fun _ _ => (hid _).symm, show Reading.mapInline id = id from funext hid, Option.map_id]
      rfl

/-- A composition that can be read is read from its members. -/
theorem exists_of_readComposition? {kind : CompositionKind}
    (hmembers : Keyed.get? fields kind.keyword = some (.array members))
    (hread : readComposition? address kind fields (readingsOfFields address fields) =
      some reading) :
    ∃ found discriminator docs,
      allPresent (members.map fun member => (readings address member).asUse) = some found ∧
        reading = compositionReading kind found discriminator docs := by
  rw [readComposition?_eq, readField?_members hmembers] at hread
  simp only [Option.bind_eq_some_iff, Option.map_eq_some_iff, Option.ite_none_right_eq_some,
    Option.some.injEq, id] at hread
  obtain ⟨found, ⟨_, ⟨_, hfound, rfl⟩, hsome⟩, _, -, -, rfl⟩ := hread
  cases hsome
  exact ⟨found, _, _, hfound, rfl⟩

section Moved

theorem get?_ownMoved (hown : (ownKeywords fields).isEmpty = false) (key : String) :
    Keyed.get? (ownMoved fields) key =
      if key ∈ ownKeys then none
      else if key = "allOf" then
        (Keyed.get? fields key).map (addMember (.object (ownMember fields)))
      else Keyed.get? fields key := by
  rw [ownMoved, hown, if_neg (by decide), Keyed.get?_modify,
    Keyed.get?_filter fun name => !ownKeys.contains name]
  by_cases hkey : key ∈ ownKeys
  · simp [hkey]
  · simp [hkey]

/-- No own keywords are left where they were. -/
theorem isEmpty_ownKeywords_ownMoved (hown : (ownKeywords fields).isEmpty = false) :
    (ownKeywords (ownMoved fields)).isEmpty := by
  rw [Keyed.isEmpty_iff]
  intro key
  rw [get?_ownKeywords, get?_ownMoved hown]
  split <;> rfl

theorem distinct_ownMoved (hfields : Keyed.Distinct fields) : Keyed.Distinct (ownMoved fields) := by
  rw [ownMoved]
  split
  · exact hfields
  · have hkept : Keyed.Distinct (fields.filter fun entry => !ownKeys.contains entry.1) :=
      hfields.sublist (List.filter_sublist.map Prod.fst)
    exact hkept.modify _ _

/-- The `allOf` has one more member after its own keywords are moved. -/
theorem IsAllOf.ownMoved (h : IsAllOf fields members)
    (hown : (ownKeywords fields).isEmpty = false) :
    IsAllOf (ownMoved fields) (members ++ [.object (ownMember fields)]) where
  composed := by
    refine ⟨?_, fun kind hkind => ?_⟩
    · rw [get?_ownMoved hown, if_neg (by decide), if_neg (by decide), h.composed.noReference]
    · rw [get?_ownMoved hown, if_neg (by cases kind <;> decide),
        if_neg (by revert hkind; cases kind <;> decide), h.composed.noOther kind hkind]
  members_eq := by
    rw [get?_ownMoved hown, if_neg (by decide), if_pos rfl, h.members_eq]
    rfl
  closed := by rw [get?_ownMoved hown, if_neg (by decide), if_neg (by decide), h.closed]

/-- Moving the own keywords of an `allOf` changes its members in shape only. -/
theorem agreeOff_ownMoved (hown : (ownKeywords fields).isEmpty = false)
    (hfields : Keyed.Distinct fields) :
    AgreeOff ["allOf"] (shapedAllOf fields) (shapedAllOf (ownMoved fields)) := by
  have hmapped := distinct_mapSchemaFields shapeStep hfields
  have hmapped' := distinct_mapSchemaFields shapeStep (distinct_ownMoved hfields)
  intro key hkey
  by_cases hobject : key ∈ objectKeys
  · exact (get?_objectKeys_composedFields hmapped hobject).trans
      (get?_objectKeys_composedFields hmapped' hobject).symm
  · have hall : key ≠ "allOf" := by simpa using hkey
    have hleft : key ∉ "allOf" :: objectKeys := List.not_mem_cons_of_ne_of_not_mem hall hobject
    have hkept : key ∉ ownKeys := fun hmem => hobject ((show ownKeys ⊆ objectKeys by decide) hmem)
    simp only [shapedAllOf, composedFields, if_true]
    rw [get?_moveOwnKeywords (hmapped.swapOut _) hleft,
      get?_moveOwnKeywords (hmapped'.swapOut _) hleft, hmapped.get?_swapOut,
      hmapped'.get?_swapOut, get?_mapSchemaFields, get?_mapSchemaFields, get?_ownMoved hown,
      if_neg hkept, if_neg hall]

/-- An `allOf` is read alike after its own keywords are moved into a last member. -/
theorem IsAllOf.readingOf?_ownMoved (h : IsAllOf fields members)
    (hfields : Keyed.Distinct fields) (address : Option String) :
    readingOf? address (.object (Document.ownMoved fields)) =
      readingOf? address (.object fields) := by
  cases hown : (ownKeywords fields).isEmpty with
  | true => rw [Document.ownMoved, if_pos hown]
  | false =>
      have hmoved := h.ownMoved hown
      have hdistinct := distinct_ownMoved hfields
      have hnone := isEmpty_ownKeywords_ownMoved hown
      have htype : Keyed.get? (mapSchemaFields shapeStep (Document.ownMoved fields)) "type" =
          Keyed.get? (mapSchemaFields shapeStep fields) "type" := by
        rw [get?_mapSchemaFields, get?_mapSchemaFields, get?_ownMoved hown, if_neg (by decide),
          if_neg (by decide)]
      have hcomposed : (readings address (.object (shapedAllOf (Document.ownMoved fields)))).asUse =
          (readings address (.object (shapedAllOf fields))).asUse := by
        refine (hmoved.asUse_shaped hdistinct).trans (Eq.trans ?_ (h.asUse_shaped hfields).symm)
        refine readComposition?_of_sameReadings (agreeOff_ownMoved hown hfields)
          (h.get?_allOf_shaped hfields) (hmoved.get?_allOf_shaped hdistinct) ?_
        simp only [List.map_append, h.asUse_takenMembers hfields,
          hmoved.asUse_takenMembers hdistinct, hown, hnone, if_true]
        simp [readingOf?]
      rw [readingOf?, readingOf?, h.shape_eq, hmoved.shape_eq, htype]
      split
      · rw [asUse_orNull_eq, asUse_orNull_eq]
        exact congrArg _ hcomposed
      · exact hcomposed

end Moved

/-- An `allOf` that can be read is a composition. Its last member is an object with its own
keywords, if there are some. -/
theorem IsAllOf.exists_composition (h : IsAllOf fields members) (hfields : Keyed.Distinct fields)
    (hproperties : Keyed.Distinct (namedProperties fields))
    (hread : readingOf? address (.object fields) = some reading) :
    ∃ parts : Composition, reading.use = .inline (.composition parts) ∧ parts.isSum = false ∧
      ((ownKeywords fields).isEmpty = false → ∃ found docs,
        namedReadings? address (namedProperties fields) = some found ∧
          parts.EndsWith (objectOf found (requiredNames fields) docs)) := by
  obtain ⟨inner, hinner, huse⟩ := h.exists_reading_shaped hfields hread
  obtain ⟨found, discriminator, docs, hfound, rfl⟩ :=
    exists_of_readComposition? (h.get?_allOf_shaped hfields) hinner
  rw [List.map_append, allPresent_append, h.asUse_takenMembers hfields] at hfound
  obtain ⟨first, -, hfound⟩ := Option.bind_eq_some_iff.1 hfound
  obtain ⟨last, hlast, rfl⟩ := Option.map_eq_some_iff.1 hfound
  refine ⟨_, huse, rfl, fun hown => ?_⟩
  rw [hown, if_neg (by decide)] at hlast
  cases hmember : readingOf? address (.object (ownMember fields)) with
  | none =>
      rw [hmember] at hlast
      cases hlast
  | some member =>
      rw [hmember] at hlast
      cases hlast
      obtain ⟨named, docs, hnamed, rfl⟩ := reading_ownMember hmember
      refine ⟨named, docs, hnamed, (distinct_namedReadings? hnamed hproperties).mapValues _,
        (first.filter fun member => !member.isNull).map Reading.use, ?_⟩
      simp [Reading.inPlace]

/-- An object that agrees with the one that the own keywords of a schema make keeps these. -/
theorem keepsOwn_of_agreesWith {object : ObjectShape} {found : Keyed Reading} {docs : Docs}
    (hproperties : Keyed.Distinct (namedProperties fields))
    (hfound : namedReadings? address (namedProperties fields) = some found)
    (hagrees : object.AgreesWith (objectOf found (requiredNames fields) docs)) :
    KeepsOwn address fields object where
  properties property schema hschema := by
    have hread := get?_namedReadings? hfound property
    rw [hschema, Option.bind_some] at hread
    have hkey : property ∈ Keyed.keys found := by
      rw [keys_namedReadings? hfound]
      exact List.mem_map_of_mem (Keyed.mem_of_get? hschema)
    obtain ⟨reading, hreading⟩ := Option.isSome_iff_exists.1 ((Keyed.get?_isSome_iff _ _).2 hkey)
    refine ⟨⟨reading.use, reading.nullable⟩, convert_eq_of_readingOf? (hread ▸ hreading), ?_, ?_⟩
    · refine hagrees.uses property reading.use ?_
      exact (Keyed.get?_mapValues found Reading.use property).trans (by rw [hreading]; rfl)
    · have hkeys :
          property ∈ Keyed.keys (objectOf found (requiredNames fields) docs).properties := by
        rw [objectOf, Keyed.keys_mapValues]
        exact hkey
      rw [hagrees.nullable property hkeys, mem_nullable_objectOf hfound hproperties, hschema,
        Option.bind_some, ← hread, hreading]
      simp
  required name hname := hagrees.required name (NameSet.mem_addAll.2 (.inr hname))

/-- The own keywords of an `allOf`, whatever its type is. Moving them into a last member does not
change what the schema is converted to. In the table of named schemas, after flattening, a schema
that is read without a report has for each of its own properties the definition that it gives there
itself, also where a member defines the property too, and it requires all names that it requires
itself. -/
theorem IsAllOf.own_keywords_last (h : IsAllOf fields members) (hfields : Keyed.Distinct fields)
    (hproperties : Keyed.Distinct (namedProperties fields)) :
    (∀ address subject, convert address subject (.object (Document.ownMoved fields)) =
      convert address subject (.object fields)) ∧
    ∀ address schemas name, Keyed.Distinct schemas →
      Keyed.get? schemas name = some (.object fields) →
      (convert address (some name) (.object fields)).reports = [] →
      ∃ object : ObjectShape,
        (convertTable address schemas).value.flatten.value.table.get? name =
          some (.object object) ∧ KeepsOwn address fields object := by
  refine ⟨fun address subject => ?_, fun address schemas name hschemas hschema hread => ?_⟩
  · have hsame := h.readingOf?_ownMoved hfields address
    rw [readingOf?, readingOf?] at hsame
    rw [convert, convert, hsame]
  · obtain ⟨reading, hreading⟩ := exists_readingOf?_of_reports hread
    obtain ⟨parts, huse, hsum, hends⟩ := h.exists_composition hfields hproperties hreading
    have hallOf : (convertTable address schemas).value.AllOf name parts := by
      refine ⟨?_, hsum⟩
      rw [get?_convertTable hschemas, hschema, Option.map_some, convert_eq_of_readingOf? hreading,
        Reported.value_pure, huse]
      rfl
    cases hown : (ownKeywords fields).isEmpty with
    | false =>
        obtain ⟨found, docs, hfound, hends⟩ := hends hown
        obtain ⟨object, hget, hagrees⟩ := Table.flatten_agreesWith hallOf hends
        exact ⟨object, hget, keepsOwn_of_agreesWith hproperties hfound hagrees⟩
    | true =>
        -- There is nothing of its own to keep, but the entry still becomes an object.
        obtain ⟨_, object, _, hget, _⟩ :=
          (Table.flatten_stage _).done name (Table.mem_flattened.2 ⟨parts, hallOf⟩)
        refine ⟨object, hget, ?_⟩
        have hnone {key : String} (hkey : key ∈ ownKeys) : Keyed.get? fields key = none := by
          rw [← Keyed.isEmpty_iff.1 hown key, get?_ownKeywords, if_pos hkey]
        constructor
        · intro property schema hproperty
          rw [namedProperties, hnone (by decide)] at hproperty
          cases hproperty
        · intro name hname
          rw [requiredNames, hnone (by decide)] at hname
          cases hname

/-- A puppy, which may be null, is a dog whose age is a number. -/
def puppy : Keyed Json :=
  [("type", .array [.string "object", .string "null"]),
    ("allOf", .array [.object [("$ref", .string "#/components/schemas/dog")]]),
    ("properties", .object [("age", .object [("type", .string "integer")])]),
    ("required", .array [.string "age"])]

/-- The schemas of dogs, whose age is a text, and puppies. -/
def dogs : Keyed Json :=
  [("dog", .object [("type", .string "object"),
      ("properties", .object [("age", .object [("type", .string "string")])])]),
    ("puppy", .object puppy)]

/-- The age of a puppy is a number, although that of a dog is a text, and it is required. -/
theorem puppy_own_keywords_last :
    let reference := Json.object [("$ref", .string "#/components/schemas/dog")]
    IsAllOf puppy [reference] ∧ Keyed.Distinct puppy ∧ Keyed.Distinct (namedProperties puppy) ∧
    Keyed.Distinct dogs ∧ (convert none (some "puppy") (.object puppy)).reports = [] ∧
    convert none none (.object (ownMoved puppy)) = convert none none (.object puppy) ∧
    ∃ object : ObjectShape,
      (convertTable none dogs).value.flatten.value.table.get? "puppy" = some (.object object) ∧
      Keyed.get? object.properties "age" =
        some (.inline (.scalar ⟨.integer, none, [], Docs.none⟩)) ∧
      "age" ∉ object.nullable ∧ "age" ∈ object.required := by
  intro reference
  have hallOf : IsAllOf puppy [reference] := by
    refine ⟨⟨rfl, fun kind hkind => ?_⟩, rfl, rfl⟩
    cases kind with
    | allOf => exact absurd rfl hkind
    | oneOf | anyOf => rfl
  have hfields : Keyed.Distinct puppy := by decide
  have hproperties : Keyed.Distinct (namedProperties puppy) := by decide
  have hdogs : Keyed.Distinct dogs := by decide
  have hread : (convert none (some "puppy") (.object puppy)).reports = [] := rfl
  obtain ⟨hmoved, hflattened⟩ := hallOf.own_keywords_last hfields hproperties
  obtain ⟨object, hget, hkeeps⟩ := hflattened none dogs "puppy" hdogs rfl hread
  obtain ⟨definition, hconvert, huse, hnullable⟩ := hkeeps.properties "age" _ rfl
  obtain rfl : ⟨.inline (.scalar ⟨.integer, none, [], Docs.none⟩), false⟩ = definition :=
    congrArg Reported.value hconvert
  exact ⟨hallOf, hfields, hproperties, hdogs, hread, hmoved none none, object, hget, huse,
    fun hmem => absurd (hnullable.1 hmem) (by decide), hkeeps.required "age" List.mem_cons_self⟩

end SchemaGraph.Document
