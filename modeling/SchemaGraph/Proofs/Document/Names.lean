import SchemaGraph.Proofs.Document.Conversion
import SchemaGraph.Proofs.Document.Mappings

/-!
# Names of properties

The passes that bring a document into normal form take the name of a property for a keyword when it
is one that they look for. Every other name plays no role. An object schema in normal form has the
normal forms of its properties, one by one (`HoldsProperties.get?_normalFields`), so its properties
may be given other names, and one of them may be changed, without a change to the rest of what is
read (`HoldsProperties.normalReading?_of_agreeOff`). By induction on the path to it this holds of an
object schema inside another one (`RenamesAt.normalReading?_eq`).
-/

namespace SchemaGraph.Document

open Keyed (AgreeOff)

variable {address : Option String} {fields properties schemas : Keyed Json}

/-- The normal form of a schema under a name that is no keyword. -/
def normalizeSchema (schema : Json) : Json :=
  settle (normalizeBooleans schema)

/-- What a schema under a name that is no keyword is read as. -/
def normalReading? (address : Option String) (schema : Json) : Option Reading :=
  readingOf? address (normalizeSchema schema)

/-- What a schema under a name that is no keyword is converted to. -/
def converted (address : Option String) (schema : Json) : Converted :=
  (convert address none (normalizeSchema schema)).value

/-- Schemas under names that are no keywords for the passes. None is a text. -/
def OrdinaryNames (schemas : Keyed Json) : Prop :=
  ∀ entry ∈ schemas, entry.1 ∉ dataKeys ∧ entry.1 ∉ payloadKeys ∧ entry.2.string? = none

instance (schemas : Keyed Json) : Decidable (OrdinaryNames schemas) :=
  inferInstanceAs (Decidable (∀ entry ∈ schemas,
    entry.1 ∉ dataKeys ∧ entry.1 ∉ payloadKeys ∧ entry.2.string? = none))

/-- Without its Booleans a schema is no Boolean, and a text only if it was one. -/
theorem kind_normalizeBooleans (schema : Json) :
    (normalizeBooleans schema).string? = schema.string? ∧
      (normalizeBooleans schema).bool? = none := by
  cases schema with
  | bool flag => cases flag <;> exact ⟨rfl, rfl⟩
  | null | number | string | array | object => exact ⟨rfl, rfl⟩

theorem OrdinaryNames.structured (h : OrdinaryNames schemas) :
    NamesStructured (Keyed.mapValues schemas normalizeBooleans) := by
  intro entry hentry
  obtain ⟨⟨name, schema⟩, hmem, rfl⟩ := List.mem_map.1 hentry
  obtain ⟨hdata, hpayload, htext⟩ := h _ hmem
  obtain ⟨hstring, hbool⟩ := kind_normalizeBooleans schema
  exact ⟨hdata, hpayload, hstring.trans htext, hbool⟩

/-- A map of schemas under ordinary names is normalized schema by schema. -/
theorem OrdinaryNames.settle_eq (h : OrdinaryNames schemas) :
    settle (.object (Keyed.mapValues schemas normalizeBooleans)) =
      .object (Keyed.mapValues schemas normalizeSchema) := by
  rw [h.structured.settle_eq]
  refine congrArg Json.object ?_
  simp only [Keyed.mapValues, List.map_map]
  rfl

/-- Ordinary names stay ordinary when a schema is changed, unless it becomes a text. -/
theorem OrdinaryNames.modify (h : OrdinaryNames schemas) (name : String) {change : Json → Json}
    (hchange : ∀ schema, schema.string? = none → (change schema).string? = none) :
    OrdinaryNames (Keyed.modify schemas name change) := by
  intro entry hentry
  obtain ⟨⟨first, schema⟩, hmem, rfl⟩ := List.mem_map.1 hentry
  obtain ⟨hdata, hpayload, htext⟩ := h _ hmem
  by_cases hname : first = name
  · simpa [hname] using ⟨hname ▸ hdata, hname ▸ hpayload, hchange schema htext⟩
  · simpa [hname] using ⟨hdata, hpayload, htext⟩

/-- The fields of a schema in normal form. -/
def normalFields (fields : Keyed Json) : Keyed Json :=
  settledFields (mapSchemaFields replaceBoolean fields)

/-- Whether a flag puts a schema into a choice. -/
def isFlagged (fields : Keyed Json) : Bool :=
  becomesChoice (visitedFields (mapSchemaFields replaceBoolean fields))

theorem normalizeSchema_object (fields : Keyed Json) :
    normalizeSchema (.object fields) =
      if isFlagged fields then orNull (.object (normalFields fields))
      else .object (normalFields fields) :=
  settle_object (mapSchemaFields replaceBoolean fields)

theorem shape_orNull (schema : Json) : shape (orNull schema) = orNull (shape schema) :=
  shape_choice .anyOf [schema, nullSchema]

/-- A choice between a schema and `null` is read from the reading of the schema. -/
theorem readingOf?_orNull (address : Option String) (schema : Json) :
    readingOf? address (orNull schema) = (readingOf? address schema).map fun reading =>
      compositionReading .anyOf [reading, ⟨.inline .any, true, true⟩] none Docs.none := by
  rw [readingOf?, shape_orNull, asUse_orNull_eq, readingOf?]

/-- The texts of a list are settled already. -/
theorem texts_settle (value : Json) :
    isTextList (settle value) = isTextList value ∧ namesIn (settle value) = namesIn value := by
  cases value with
  | array items =>
      have htext : isText ∘ settle = isText := funext fun value => by
        rw [Function.comp_apply, isText, isText, string?_settle]
      rw [settle_array]
      simp [isTextList, namesIn, Json.array?, List.all_map, htext, List.filterMap_map,
        string?_settle]
  | object fields =>
      rw [settle_object]
      split <;> exact ⟨rfl, rfl⟩
  | null | bool | number | string => exact ⟨rfl, rfl⟩

theorem distinct_normalFields (hfields : Keyed.Distinct fields) :
    Keyed.Distinct (normalFields fields) :=
  (keepsFields_settledFields (distinct_mapSchemaFields replaceBoolean hfields)).distinct

/-- A field that no pass touches is settled on its own. -/
theorem get?_normalFields (hfields : Keyed.Distinct fields) {key : String} (hkey : key ∉ passKeys) :
    Keyed.get? (normalFields fields) key =
      ((Keyed.get? fields key).map (mapField replaceBoolean key)).map settle := by
  have hkeeps := keepsFields_settledFields (distinct_mapSchemaFields replaceBoolean hfields)
  rw [normalFields, hkeeps.agree key hkey, Keyed.get?_mapValues, get?_mapSchemaFields]

/-- A plain schema stays plain in normal form. -/
theorem IsPlain.normal (h : IsPlain fields) (hfields : Keyed.Distinct fields) :
    IsPlain (normalFields fields) := by
  refine ⟨?_, fun kind => ?_⟩
  · rw [get?_normalFields hfields (by decide), h.1]
    rfl
  · rw [get?_normalFields hfields (by cases kind <;> decide), h.2]
    rfl

/-- The names that a schema requires are the same in normal form. -/
theorem required_normalFields (hfields : Keyed.Distinct fields) :
    allows (normalFields fields) isTextList "required" = allows fields isTextList "required" ∧
      requiredNames (normalFields fields) = requiredNames fields := by
  have hrequired : Keyed.get? (normalFields fields) "required" =
      (Keyed.get? fields "required").map settle := by
    rw [get?_normalFields hfields (by decide)]
    exact congrArg _ Option.map_id'
  rw [allows, allows, requiredNames, requiredNames, hrequired]
  cases Keyed.get? fields "required" with
  | none => exact ⟨rfl, rfl⟩
  | some value => exact texts_settle value

/-- Schemas in normal form that agree off keys which no pass looks for. -/
theorem agreeOff_normalFields {aside : List String} {other : Keyed Json}
    (haside : ∀ key ∈ settleKeys, key ∉ aside) (hfields : Keyed.Distinct fields)
    (hother : Keyed.Distinct other) (h : AgreeOff aside fields other) :
    isFlagged fields = isFlagged other ∧
      AgreeOff aside (normalFields fields) (normalFields other) := by
  have halike : AlikeOff aside (mapSchemaFields replaceBoolean fields)
      (mapSchemaFields replaceBoolean other) :=
    ⟨distinct_mapSchemaFields replaceBoolean hfields,
      distinct_mapSchemaFields replaceBoolean hother, agreeOff_mapSchemaFields replaceBoolean h⟩
  exact (halike.settledFields haside).imp id AlikeOff.agree

/-- A choice between a schema and `null` that is read as an object is read as the schema is, and
admits `null`. -/
theorem exists_readingOf?_of_orNull {schema : Json} {reading : Reading} {object : ObjectShape}
    (hread : readingOf? address (orNull schema) = some reading)
    (huse : reading.use = .inline (.object object)) :
    ∃ inner, readingOf? address schema = some inner ∧ inner.isNull = false ∧
      reading = ⟨inner.use, true, false⟩ := by
  rw [readingOf?_orNull] at hread
  obtain ⟨inner, hinner, rfl⟩ := Option.map_eq_some_iff.1 hread
  cases hnull : inner.isNull with
  | false => exact ⟨inner, hinner, hnull, compositionReading_orNull (by decide) hnull (.inl rfl)⟩
  | true =>
      -- Nothing is left of a choice between `null` and `null`, and that is no object.
      simp [compositionReading, compositionParts, hnull, Reading.inPlace] at huse

/-- An object schema that holds these properties, under ordinary names. -/
structure HoldsProperties (fields properties : Keyed Json) : Prop where
  plain : IsPlain fields
  distinct : Keyed.Distinct fields
  properties_eq : Keyed.get? fields "properties" = some (.object properties)
  ordinary : OrdinaryNames properties

namespace HoldsProperties

/-- In normal form an object schema has the normal forms of its properties. -/
theorem get?_normalFields_properties (h : HoldsProperties fields properties) :
    Keyed.get? (normalFields fields) "properties" =
      some (.object (Keyed.mapValues properties normalizeSchema)) := by
  have hmapped : mapField replaceBoolean "properties" (.object properties) =
      .object (Keyed.mapValues properties normalizeBooleans) :=
    congrArg Json.object (mapNamedSchemas_eq replaceBoolean properties)
  rw [get?_normalFields h.distinct (by decide), h.properties_eq, Option.map_some, hmapped,
    Option.map_some, h.ordinary.settle_eq]

/-- Properties and what is required may be replaced, as long as the names stay ordinary. -/
theorem of_otherProperties {other replaced : Keyed Json} (h : HoldsProperties fields properties)
    (hother : OtherProperties fields properties other replaced) (hdistinct : Keyed.Distinct other)
    (hnames : OrdinaryNames replaced) : HoldsProperties other replaced :=
  ⟨h.plain.of_agreeOff hother.agree, hdistinct, hother.replaced_eq, hnames⟩

/-- Fields that differ in their properties and required names at most do so in normal form. -/
theorem otherProperties_normalFields {other replaced : Keyed Json}
    (h : HoldsProperties fields properties) (h' : HoldsProperties other replaced)
    (hother : OtherProperties fields properties other replaced) :
    isFlagged fields = isFlagged other ∧
      OtherProperties (normalFields fields) (Keyed.mapValues properties normalizeSchema)
        (normalFields other) (Keyed.mapValues replaced normalizeSchema) := by
  obtain ⟨hflagged, hnormal⟩ :=
    agreeOff_normalFields (by decide) h.distinct h'.distinct hother.agree
  obtain ⟨hlist, hrequired⟩ := required_normalFields h.distinct
  obtain ⟨hlist', hrequired'⟩ := required_normalFields h'.distinct
  refine ⟨hflagged, hnormal, h.get?_normalFields_properties, h'.get?_normalFields_properties,
    fun hnil => ?_, ?_, ?_⟩
  · rw [hother.nonempty (List.map_eq_nil_iff.1 hnil)]
    rfl
  · rw [hlist, hlist', hother.list_eq]
  · rw [hrequired, hrequired']
    exact hother.nonrequired

/-- An object schema stays one with other schemas for its properties and other names that it
requires. The other fields are read as before. -/
theorem exists_objectOf {reading : Reading} {object : ObjectShape}
    (h : HoldsProperties fields properties)
    (hread : normalReading? address (.object fields) = some reading)
    (huse : reading.use = .inline (.object object)) :
    ∃ found docs, namedReadings? address (Keyed.mapValues properties normalizeSchema) = some found ∧
      object = objectOf found (requiredNames fields) docs ∧
      ∀ {other replaced : Keyed Json} {new : Keyed Reading},
        OtherProperties fields properties other replaced → Keyed.Distinct other →
        OrdinaryNames replaced →
        namedReadings? address (Keyed.mapValues replaced normalizeSchema) = some new →
        normalReading? address (.object other) = some
          { reading with use := .inline (.object (objectOf new (requiredNames other) docs)) } := by
  have hrequired := (required_normalFields h.distinct).2
  have hnormal {inner : Reading}
      (hinner : readingOf? address (.object (normalFields fields)) = some inner)
      (huse : inner.use = .inline (.object object)) :=
    (h.plain.normal h.distinct).exists_objectOf h.get?_normalFields_properties hinner huse
  simp only [normalReading?, normalizeSchema_object] at hread ⊢
  cases hchoice : isFlagged fields with
  | false =>
      simp only [hchoice, Bool.false_eq_true, if_false] at hread
      obtain ⟨found, docs, hfound, hobject, hothers⟩ := hnormal hread huse
      refine ⟨found, docs, hfound, hrequired ▸ hobject, fun hother hdistinct hnames hnew => ?_⟩
      have h' := h.of_otherProperties hother hdistinct hnames
      obtain ⟨hflagged, hsettled⟩ := h.otherProperties_normalFields h' hother
      rw [← hflagged, hchoice, if_neg Bool.false_ne_true, hothers hsettled hnew,
        (required_normalFields h'.distinct).2]
  | true =>
      simp only [hchoice, if_true] at hread
      obtain ⟨inner, hinner, hnull, rfl⟩ := exists_readingOf?_of_orNull hread huse
      obtain ⟨found, docs, hfound, hobject, hothers⟩ := hnormal hinner huse
      refine ⟨found, docs, hfound, hrequired ▸ hobject, fun hother hdistinct hnames hnew => ?_⟩
      have h' := h.of_otherProperties hother hdistinct hnames
      obtain ⟨hflagged, hsettled⟩ := h.otherProperties_normalFields h' hother
      have hkind : CompositionKind.anyOf ≠ .allOf := by decide
      have hread' := hothers hsettled hnew
      rw [(required_normalFields h'.distinct).2] at hread'
      rw [← hflagged, hchoice, if_pos rfl]
      exact readingOf?_choice hkind hread' hnull (.inl rfl)

end HoldsProperties

end SchemaGraph.Document
