import SchemaGraph.Proofs.Document.Conversion

/-!
# Closed objects

An object schema is closed when no other names than those of its properties are allowed. Read
`convert_closed` first: closing a schema that names properties changes nothing, and neither does it
change a list. A schema that names none is another matter. What is said about other names is then
all there is to it, whether they are allowed or not, so the closed object is converted to a map with
values of any type, and the names that it requires are lost.

`IsObject.readingOf?_eq` is what such schemas are read as. The readings of the keywords that are not
changed come from the lemmas that say which keywords a reading depends on.
-/

namespace SchemaGraph.Document

open Keyed (AgreeOff)

variable {address subject : Option String} {fields other : Keyed Json}
  {parts otherParts : Keyed Readings} {additional : Additional} {reading : Reading}

/-- The schema is neither a reference nor a composition, and its type is that of objects. -/
structure IsObject (fields : Keyed Json) : Prop where
  plain : IsPlain fields
  type_eq : Keyed.get? fields "type" = some (.string "object")

/-- The properties that a schema names. -/
def namedProperties (fields : Keyed Json) : Keyed Json :=
  ((Keyed.get? fields "properties").bind Json.object?).getD []

/-- Properties that are read are read one by one, also when there are none. -/
theorem propertiesOf?_eq_some {found : Keyed Reading}
    (h : propertiesOf? (shapedFields fields) (readingsOfFields address (shapedFields fields)) =
      some (found, additional)) :
    namedReadings? address (namedProperties fields) = some found ∧
      additionalOf? (shapedFields fields) (readingsOfFields address (shapedFields fields)) =
        some additional := by
  cases hproperties : Keyed.get? fields "properties" with
  | none =>
      have hnone : readField? (readingsOfFields address (shapedFields fields)) Readings.asNamedUses
          "properties" = some none := by
        rw [readField?, get?_readingsOfFields, get?_shapedFields (by decide), hproperties]
        rfl
      simp only [propertiesOf?, hnone, bind, Option.bind_some, Option.bind_eq_some_iff,
        Option.some.injEq, Prod.mk.injEq] at h
      obtain ⟨_, hadditional, rfl, rfl⟩ := h
      exact ⟨by rw [namedProperties, hproperties]; rfl, hadditional⟩
  | some value =>
      cases value with
      | object properties =>
          rw [propertiesOf?_shapedFields hproperties] at h
          simp only [Option.bind_eq_some_iff, Option.map_eq_some_iff, Prod.mk.injEq] at h
          obtain ⟨_, hfound, _, hadditional, rfl, rfl⟩ := h
          exact ⟨by rw [namedProperties, hproperties]; exact hfound, hadditional⟩
      | null | bool | number | string | array =>
          have hunread : readField? (readingsOfFields address (shapedFields fields))
              Readings.asNamedUses "properties" = none := by
            rw [readField?, get?_readingsOfFields, get?_shapedFields (by decide), hproperties]
            rfl
          rw [propertiesOf?, hunread] at h
          cases h

/-- An object schema with properties that are read so, once it is in shape. -/
theorem objectShape_shapedFields (fields : Keyed Json) (found : Keyed Reading) :
    objectShape (shapedFields fields) found =
      objectOf found (requiredNames fields) (docsOf (shapedFields fields)) := by
  have hnames : requiredNames (shapedFields fields) = requiredNames fields := by
    rw [requiredNames, get?_required_shapedFields, requiredNames]
  rw [← hnames]
  rfl

namespace IsObject

/-- The type of an object schema stays when it is brought into shape. -/
theorem get?_type_shapedFields (h : IsObject fields) :
    Keyed.get? (shapedFields fields) "type" = some (.string "object") := by
  have hmapped : Keyed.get? (mapSchemaFields shapeStep fields) "type" =
      some (.string "object") := by
    rw [get?_mapSchemaFields, h.type_eq]
    rfl
  have hhas : Keyed.has (mapSchemaFields shapeStep fields) "type" := by
    rw [Keyed.has, hmapped]
    rfl
  simp only [shapedFields, putIfMissing, if_pos hhas, hmapped]

/-- An object schema is read as a list when it has items, and by its properties otherwise. -/
theorem readingOf?_eq (h : IsObject fields) :
    let shaped := shapedFields fields
    readingOf? address (.object fields) =
      ((itemsOf? shaped (readingsOfFields address shaped)).map fun items =>
        .inPlace (.array items) false).or
      ((propertiesOf? shaped (readingsOfFields address shaped)).map fun (properties, additional) =>
        ⟨.inline (structuredSchema shaped true properties additional), false, false⟩) := by
  intro shaped
  have htype : typeOf? (shapedFields fields) = some (.one .object) := by
    rw [typeOf?, h.get?_type_shapedFields]
    rfl
  rw [readingOf?, h.plain.shape_eq, asUse_plain h.plain.shaped.1 h.plain.shaped.2, readArray?_eq,
    readObject?_eq, htype, Option.orElse_eq_orElse, Option.orElse_eq_or]
  rfl

/-- An object schema is read as a list or from its properties. -/
theorem reading_cases (h : IsObject fields)
    (hread : readingOf? address (.object fields) = some reading) :
    let shaped := shapedFields fields
    (∃ items, itemsOf? shaped (readingsOfFields address shaped) = some items ∧
      reading = .inPlace (.array items) false) ∨
    ∃ found additional, itemsOf? shaped (readingsOfFields address shaped) = none ∧
      propertiesOf? shaped (readingsOfFields address shaped) = some (found, additional) ∧
      reading = ⟨.inline (structuredSchema shaped true found additional), false, false⟩ := by
  intro shaped
  rw [h.readingOf?_eq, Option.or_eq_some_iff] at hread
  rcases hread with hlist | ⟨hnone, hobject⟩
  · obtain ⟨items, hitems, rfl⟩ := Option.map_eq_some_iff.1 hlist
    exact .inl ⟨items, hitems, rfl⟩
  · obtain ⟨⟨found, additional⟩, hproperties, rfl⟩ := Option.map_eq_some_iff.1 hobject
    exact .inr ⟨found, additional, Option.map_eq_none_iff.1 hnone, hproperties, rfl⟩

end IsObject

/-- The use is a list in place. -/
def IsList (use : SchemaUse) : Prop :=
  ∃ items, use = .inline (.array items)

/-- The schema with no other names allowed than those of its properties. -/
def closedFields (fields : Keyed Json) : Keyed Json :=
  Keyed.put fields "additionalProperties" (.bool false)

/-- Closing a schema changes nothing else. -/
theorem agreeOff_closedFields (fields : Keyed Json) :
    AgreeOff ["additionalProperties"] fields (closedFields fields) :=
  (Keyed.agreeOff_put List.mem_cons_self fields _).symm

/-- A closed object schema is an object schema. -/
theorem IsObject.closed (h : IsObject fields) : IsObject (closedFields fields) where
  plain := by
    refine ⟨?_, fun kind => ?_⟩
    · rw [← agreeOff_closedFields fields "$ref" (by decide), h.plain.1]
    · rw [← agreeOff_closedFields fields kind.keyword (by cases kind <;> decide), h.plain.2]
  type_eq := by rw [← agreeOff_closedFields fields "type" (by decide), h.type_eq]

/-- Closing an object schema changes nothing else in its shape either. -/
theorem IsObject.agreeOff_shapedFields_closed (h : IsObject fields) :
    AgreeOff ["additionalProperties"] (shapedFields fields)
      (shapedFields (closedFields fields)) := by
  intro key hkey
  by_cases htype : key = "type"
  · rw [htype, h.get?_type_shapedFields, h.closed.get?_type_shapedFields]
  · rw [get?_shapedFields htype, get?_shapedFields htype, agreeOff_closedFields fields key hkey]

/-- With a Boolean in their place, additional properties are read as ones of any type. -/
theorem additionalOf?_of_bool {flag : Bool} (h : AgreeOff ["additionalProperties"] fields other)
    (hparts : AgreeOff ["additionalProperties"] parts otherParts)
    (hflag : Keyed.get? other "additionalProperties" = some (.bool flag))
    (hread : additionalOf? fields parts = some additional) :
    additionalOf? other otherParts = some .free := by
  have hfree : readAdditional? other otherParts = some .free := by rw [readAdditional?, hflag]
  simp only [AgreeOff, List.mem_singleton] at h hparts
  have hnames : readFieldUnless? other otherParts Json.isNull Readings.asSchema "propertyNames" =
      readFieldUnless? fields parts Json.isNull Readings.asSchema "propertyNames" := by
    simp [readFieldUnless?, readField?, h, hparts]
  have horder : objectInOrder other = objectInOrder fields := by
    simp [objectInOrder, allowAll, allows, h]
  simp only [additionalOf?, bind, Option.bind_eq_some_iff, Option.ite_none_right_eq_some] at hread
  obtain ⟨_, -, _, hread, hinOrder, -⟩ := hread
  simp only [additionalOf?, hfree, hnames, hread, horder, hinOrder, bind, Option.bind_some, if_true]

/-- Closing an object schema with items changes nothing. -/
theorem IsObject.readingOf?_closed_of_items (h : IsObject fields) {items : SchemaUse}
    (hitems : itemsOf? (shapedFields fields) (readingsOfFields address (shapedFields fields)) =
      some items) :
    readingOf? address (.object (closedFields fields)) = some (.inPlace (.array items) false) := by
  have hshaped := h.agreeOff_shapedFields_closed.mono (show _ ⊆ itemsAside by decide)
  rw [h.closed.readingOf?_eq,
    ← itemsOf?_congr hshaped (agreeOff_readingsOfFields address hshaped), hitems]
  rfl

/-- A closed object schema without items is read from the same properties. -/
theorem IsObject.readingOf?_closed_of_properties (h : IsObject fields) {found : Keyed Reading}
    (hitems : itemsOf? (shapedFields fields) (readingsOfFields address (shapedFields fields)) =
      none)
    (hproperties : propertiesOf? (shapedFields fields)
      (readingsOfFields address (shapedFields fields)) = some (found, additional)) :
    readingOf? address (.object (closedFields fields)) =
      some ⟨.inline (structuredSchema (shapedFields fields) true found .free), false, false⟩ := by
  have hshaped := h.agreeOff_shapedFields_closed
  have hparts := agreeOff_readingsOfFields address hshaped
  have haside := hshaped.mono (show _ ⊆ itemsAside by decide)
  have hclosed : Keyed.get? (shapedFields (closedFields fields)) "additionalProperties" =
      some (.bool false) := by
    rw [get?_shapedFields (by decide), closedFields, Keyed.get?_put, if_pos rfl]
    rfl
  have hproperties' : propertiesOf? (shapedFields (closedFields fields))
      (readingsOfFields address (shapedFields (closedFields fields))) = some (found, .free) := by
    have hread : readField? (readingsOfFields address (shapedFields (closedFields fields)))
        Readings.asNamedUses "properties" =
          readField? (readingsOfFields address (shapedFields fields)) Readings.asNamedUses
            "properties" := by
      rw [readField?, readField?, hparts "properties" (by decide)]
    simp only [propertiesOf?, bind, Option.bind_eq_some_iff, Option.some.injEq,
      Prod.mk.injEq] at hproperties
    obtain ⟨properties, hfound, _, hadditional, rfl, -⟩ := hproperties
    rw [propertiesOf?, hread, hfound, additionalOf?_of_bool hshaped hparts hclosed hadditional]
    rfl
  have hschema : structuredSchema (shapedFields (closedFields fields)) true found .free =
      structuredSchema (shapedFields fields) true found .free :=
    (schemaOfType_congr (hshaped.mono (show _ ⊆ schemaAside by decide)) (some .object) found
      .free).symm
  rw [h.closed.readingOf?_eq,
    ← itemsOf?_congr haside (agreeOff_readingsOfFields address haside), hitems, hproperties']
  simp only [Option.map_none, Option.none_or, Option.map_some, hschema]

/-- What a schema is converted to is an object with the names of its properties, in their order, and
with the names that it requires. -/
def KeepsNames (fields : Keyed Json) (result : Reported Converted) : Prop :=
  ∃ object, result = pure ⟨.inline (.object object), false⟩ ∧
    Keyed.keys object.properties = Keyed.keys (namedProperties fields) ∧
    object.required = NameSet.addAll [] (requiredNames fields)

/-- An object that is read from the properties of a schema keeps the names. -/
theorem keepsNames_objectShape {found : Keyed Reading}
    (hfound : namedReadings? address (namedProperties fields) = some found) :
    KeepsNames fields
      (pure ⟨.inline (.object (objectShape (shapedFields fields) found)), false⟩) := by
  refine ⟨_, rfl, ?_, ?_⟩
  · rw [objectShape_shapedFields, ← keys_namedReadings? hfound]
    exact List.map_map
  · rw [objectShape_shapedFields]
    rfl

/-- Nothing is read about other names where nothing is said about them. -/
theorem eq_absent_of_additionalOf? (hnone : Keyed.get? fields "additionalProperties" = none)
    (h : additionalOf? fields parts = some additional) : additional = .absent := by
  simp only [additionalOf?, readAdditional?, hnone, bind, Option.bind_some,
    Option.bind_eq_some_iff, Option.ite_none_right_eq_some, Option.some.injEq] at h
  obtain ⟨_, -, -, rfl⟩ := h
  rfl

/-- A schema of type object that is read without a report, before and after it is closed. A list
stays as it is, and so does an object that names properties. One that names none becomes a map with
values of any type, also when it was an object before. -/
theorem convert_closed (h : IsObject fields)
    (hread : (convert address subject (.object fields)).reports = []) :
    let before := convert address subject (.object fields)
    let after := convert address subject (.object (closedFields fields))
    (IsList before.value.use → after = before) ∧
    (¬ IsList before.value.use → namedProperties fields ≠ [] →
      after = before ∧ KeepsNames fields before) ∧
    (¬ IsList before.value.use → namedProperties fields = [] →
      after = pure ⟨.inline (.map (.inline .any)), false⟩ ∧
      (Keyed.get? fields "additionalProperties" = none → KeepsNames fields before)) := by
  intro before after
  obtain ⟨reading, hreading⟩ := exists_readingOf?_of_reports hread
  have hbefore : before = pure ⟨reading.use, reading.nullable⟩ := convert_eq_of_readingOf? hreading
  obtain ⟨items, hitems, rfl⟩ | ⟨found, additional, hitems, hproperties, rfl⟩ :=
    h.reading_cases hreading
  · have hafter : after = before :=
      (convert_eq_of_readingOf? (h.readingOf?_closed_of_items hitems)).trans hbefore.symm
    have hlist : IsList before.value.use := by
      rw [hbefore]
      exact ⟨items, rfl⟩
    exact ⟨fun _ => hafter, fun hnot => absurd hlist hnot, fun hnot => absurd hlist hnot⟩
  · have hafter : after = _ :=
      convert_eq_of_readingOf? (h.readingOf?_closed_of_properties hitems hproperties)
    obtain ⟨hfound, hadditional⟩ := propertiesOf?_eq_some hproperties
    refine ⟨?list, fun _ hnamed => ?object, fun _ hnone => ?map⟩
    case list =>
      rintro ⟨items, hlist⟩
      rw [hbefore, Reported.value_pure] at hlist
      cases found <;> cases additional <;> cases hlist
    case object =>
      obtain ⟨entry, rest, rfl⟩ : ∃ entry rest, found = entry :: rest := by
        refine List.exists_cons_of_ne_nil fun hnil => hnamed ?_
        have hkeys := keys_namedReadings? hfound
        rw [hnil] at hkeys
        exact List.map_eq_nil_iff.1 hkeys.symm
      rw [structuredSchema_cons] at hbefore hafter
      exact ⟨hafter.trans hbefore.symm, hbefore ▸ keepsNames_objectShape hfound⟩
    case map =>
      -- Without properties the reading of the other names is all that is left.
      obtain rfl : found = [] := by
        rw [hnone] at hfound
        exact (Option.some.inj hfound).symm
      refine ⟨hafter, fun hmissing => ?_⟩
      have hmissing' : Keyed.get? (shapedFields fields) "additionalProperties" = none := by
        rw [get?_shapedFields (by decide), hmissing, Option.map_none]
      rw [eq_absent_of_additionalOf? hmissing' hadditional] at hbefore
      exact hbefore ▸ keepsNames_objectShape hfound

/-- A ticket, which has to have a number, with some properties. -/
def ticket (properties : Keyed Json) : Keyed Json :=
  [("type", .string "object"), ("required", .array [.string "number"]),
    ("properties", .object properties)]

/-- A closed ticket stays an object when the number is one of its properties. When it names no
properties, it is an object only as long as it is open. -/
theorem ticket_convert_closed :
    let numbered := ticket [("number", .object [("type", .string "integer")])]
    IsObject numbered ∧ IsObject (ticket []) ∧
    (convert none none (.object numbered)).reports = [] ∧
    (convert none none (.object (ticket []))).reports = [] ∧
    convert none none (.object (closedFields numbered)) = convert none none (.object numbered) ∧
    KeepsNames numbered (convert none none (.object numbered)) ∧
    convert none none (.object (closedFields (ticket []))) =
      pure ⟨.inline (.map (.inline .any)), false⟩ ∧
    KeepsNames (ticket []) (convert none none (.object (ticket []))) := by
  intro numbered
  have hnumbered : IsObject numbered := ⟨⟨rfl, fun kind => by cases kind <;> rfl⟩, rfl⟩
  have hbare : IsObject (ticket []) := ⟨⟨rfl, fun kind => by cases kind <;> rfl⟩, rfl⟩
  have hread : (convert none none (.object numbered)).reports = [] := rfl
  have hread' : (convert none none (.object (ticket []))).reports = [] := rfl
  have hlist : ¬ IsList (convert none none (.object numbered)).value.use := nofun
  have hlist' : ¬ IsList (convert none none (.object (ticket []))).value.use := nofun
  obtain ⟨-, hkept, -⟩ := convert_closed hnumbered hread
  obtain ⟨-, -, hlost⟩ := convert_closed hbare hread'
  obtain ⟨hsame, hnames⟩ := hkept hlist (by decide)
  obtain ⟨hmap, hnames'⟩ := hlost hlist' rfl
  exact ⟨hnumbered, hbare, hread, hread', hsame, hnames, hmap, hnames' rfl⟩

end SchemaGraph.Document
