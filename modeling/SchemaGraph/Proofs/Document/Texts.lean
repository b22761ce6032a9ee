import SchemaGraph.Document.Shape
import SchemaGraph.Proofs.Document.Names

/-!
# Other texts in a document

The texts of a value may be changed throughout, as when all references to a schema are written with
another name. As long as no keyword is touched (`KeepsKeywords`), each pass over a document and
bringing a schema into shape do the same before and after such a change
(`KeepsKeywords.normalizeSchema_mapTexts`, `KeepsKeywords.shape_mapTexts`).
-/

namespace SchemaGraph

namespace Json

mutual

/-- A value with all its texts changed. The names of fields are no texts. -/
def mapTexts (change : String → String) : Json → Json
  | .string text => .string (change text)
  | .array items => .array (mapTextsItems change items)
  | .object fields => .object (mapTextsFields change fields)
  | value => value

/-- `mapTexts` on every item. -/
def mapTextsItems (change : String → String) : List Json → List Json
  | [] => []
  | value :: rest => mapTexts change value :: mapTextsItems change rest

/-- `mapTexts` on the value of every field. -/
def mapTextsFields (change : String → String) : List (String × Json) → List (String × Json)
  | [] => []
  | (key, value) :: rest => (key, mapTexts change value) :: mapTextsFields change rest

end

variable {change : String → String}

@[simp] theorem mapTexts_string (text : String) :
    mapTexts change (.string text) = .string (change text) := rfl

@[simp] theorem mapTexts_array (items : List Json) :
    mapTexts change (.array items) = .array (items.map (mapTexts change)) := by
  have hitems : mapTextsItems change items = items.map (mapTexts change) := by
    induction items with
    | nil => rfl
    | cons item rest ih => rw [mapTextsItems, ih, List.map_cons]
  rw [mapTexts, hitems]

@[simp] theorem mapTexts_object (fields : Keyed Json) :
    mapTexts change (.object fields) = .object (Keyed.mapValues fields (mapTexts change)) := by
  have hfields : mapTextsFields change fields = Keyed.mapValues fields (mapTexts change) := by
    induction fields with
    | nil => rfl
    | cons entry rest ih =>
        obtain ⟨key, value⟩ := entry
        rw [mapTextsFields, ih]
        rfl
  rw [mapTexts, hfields]

/-- Induction over a value through its items and the values of its fields. -/
theorem induction {holds : Json → Prop} (null : holds .null) (bool : ∀ flag, holds (.bool flag))
    (number : ∀ number, holds (.number number)) (string : ∀ text, holds (.string text))
    (array : ∀ items, (∀ item ∈ items, holds item) → holds (.array items))
    (object : ∀ fields : Keyed Json, (∀ entry ∈ fields, holds entry.2) → holds (.object fields))
    (value : Json) : holds value :=
  @Json.rec holds (fun items => ∀ item ∈ items, holds item)
    (fun fields => ∀ entry ∈ fields, holds entry.2) (fun entry => holds entry.2) null bool number
    string array object (fun _ hmem => absurd hmem List.not_mem_nil)
    (fun _ _ hfirst hrest => List.forall_mem_cons.2 ⟨hfirst, hrest⟩)
    (fun _ hmem => absurd hmem List.not_mem_nil)
    (fun _ _ hfirst hrest => List.forall_mem_cons.2 ⟨hfirst, hrest⟩) (fun _ _ hvalue => hvalue)
    value

/-- Changing texts keeps every value of its kind, and the text of a text is the changed one. -/
theorem string?_mapTexts (value : Json) :
    (mapTexts change value).string? = value.string?.map change := by
  cases value <;> rfl

@[simp] theorem bool?_mapTexts (value : Json) : (mapTexts change value).bool? = value.bool? := by
  cases value <;> rfl

@[simp] theorem array?_mapTexts (value : Json) :
    (mapTexts change value).array? = value.array?.map (List.map (mapTexts change)) := by
  cases value with
  | array items => simp [array?]
  | null | bool | number | string | object => rfl

@[simp] theorem object?_mapTexts (value : Json) : (mapTexts change value).object? =
    value.object?.map fun fields => Keyed.mapValues fields (mapTexts change) := by
  cases value with
  | object fields => simp [object?]
  | null | bool | number | string | array => rfl

@[simp] theorem isNull_mapTexts (value : Json) : (mapTexts change value).isNull = value.isNull := by
  cases value <;> rfl

end Json

namespace Document

variable {address : Option String} {change : String → String}

/-- The words that are looked for among texts, and the formats that need not be texts. -/
def keywords : List String :=
  ["object", "string", "integer", "number", "boolean", "array", "null", "base64"] ++ knownFormats

/-- A change of texts that touches no keyword and makes none, and that fits with localizing
references. -/
structure KeepsKeywords (address : Option String) (change : String → String) : Prop where
  fixes : ∀ word ∈ keywords, change word = word
  avoids : ∀ text, change text ∈ keywords → text ∈ keywords
  media : ∀ text, isBinaryMediaType (change text) = isBinaryMediaType text
  localize : ∀ text,
    Reference.localize address (change text) = change (Reference.localize address text)

/-- A step that does the same before and after a change of texts gives such a pass. -/
theorem mapObjects_mapTexts {step : Keyed Json → Json}
    (hstep : ∀ fields, step (Keyed.mapValues fields (Json.mapTexts change)) =
      Json.mapTexts change (step fields)) (value : Json) :
    mapObjects step (Json.mapTexts change value) =
      Json.mapTexts change (mapObjects step value) := by
  induction value using Json.induction with
  | null | bool | number | string => rfl
  | array items ih =>
      simp only [Json.mapTexts_array, mapObjects, mapObjectsItems_eq, List.map_map]
      exact congrArg Json.array (List.map_congr_left ih)
  | object fields ih =>
      have hfields : mapObjectsFields step (Keyed.mapValues fields (Json.mapTexts change)) =
          Keyed.mapValues (mapObjectsFields step fields) (Json.mapTexts change) := by
        simp only [mapObjectsFields_eq, Keyed.mapValues, List.map_map]
        refine List.map_congr_left fun entry hentry => ?_
        simp only [Function.comp_apply, ih entry hentry]
        split <;> rfl
      rw [Json.mapTexts_object, mapObjects, hfields, hstep, mapObjects]

theorem mapNamedSchemas_mapTexts {step : Bool → Json → Json} {schemas : Keyed Json}
    (h : ∀ entry ∈ schemas, mapSchema step true (Json.mapTexts change entry.2) =
      Json.mapTexts change (mapSchema step true entry.2)) :
    mapNamedSchemas step (Keyed.mapValues schemas (Json.mapTexts change)) =
      Keyed.mapValues (mapNamedSchemas step schemas) (Json.mapTexts change) := by
  simp only [mapNamedSchemas_eq, Keyed.mapValues, List.map_map]
  exact List.map_congr_left fun entry hentry => congrArg (Prod.mk entry.1) (h entry hentry)

/-- A step that does the same before and after a change of texts does so on all subschemas, be they
single ones, in a list or under names. -/
theorem mapSchema_mapTexts {step : Bool → Json → Json}
    (hstep : ∀ place value, step place (Json.mapTexts change value) =
      Json.mapTexts change (step place value)) (value : Json) :
    (∀ place, mapSchema step place (Json.mapTexts change value) =
      Json.mapTexts change (mapSchema step place value)) ∧
    mapSchemaList step (Json.mapTexts change value) =
      Json.mapTexts change (mapSchemaList step value) ∧
    mapSchemaMap step (Json.mapTexts change value) =
      Json.mapTexts change (mapSchemaMap step value) := by
  induction value using Json.induction with
  | null | bool | number | string => exact ⟨fun place => hstep place _, rfl, rfl⟩
  | array items ih =>
      have hitems (items : List Json) :
          mapSchemas step items = items.map (mapSchema step true) := by
        induction items with
        | nil => rfl
        | cons item rest ih => rw [mapSchemas, ih, List.map_cons]
      refine ⟨fun place => hstep place _, ?_, rfl⟩
      simp only [Json.mapTexts_array, mapSchemaList, hitems, List.map_map]
      exact congrArg Json.array (List.map_congr_left fun item hitem => (ih item hitem).1 true)
  | object fields ih =>
      have hfields : mapSchemaFields step (Keyed.mapValues fields (Json.mapTexts change)) =
          Keyed.mapValues (mapSchemaFields step fields) (Json.mapTexts change) := by
        simp only [mapSchemaFields_eq, Keyed.mapValues, List.map_map]
        refine List.map_congr_left fun entry hentry => ?_
        obtain ⟨hschema, hlist, hmap⟩ := ih entry hentry
        simp only [Function.comp_apply, mapField, hschema, hlist, hmap]
        split_ifs <;> rfl
      refine ⟨fun place => ?_, rfl, ?_⟩
      · rw [Json.mapTexts_object, mapSchema, hfields, mapSchema, ← Json.mapTexts_object, hstep]
      · rw [Json.mapTexts_object, mapSchemaMap,
          mapNamedSchemas_mapTexts fun entry hentry => (ih entry hentry).1 true, mapSchemaMap,
          Json.mapTexts_object]

theorem replaceBoolean_mapTexts (place : Bool) (value : Json) :
    replaceBoolean place (Json.mapTexts change value) =
      Json.mapTexts change (replaceBoolean place value) := by
  cases place <;> cases value with
  | bool flag => cases flag <;> rfl
  | null | number | string | array | object => rfl

theorem normalizeBooleans_mapTexts (value : Json) :
    normalizeBooleans (Json.mapTexts change value) =
      Json.mapTexts change (normalizeBooleans value) :=
  (mapSchema_mapTexts replaceBoolean_mapTexts value).1 true

theorem normalizePayloads_mapTexts (value : Json) :
    normalizePayloads (Json.mapTexts change value) =
      Json.mapTexts change (normalizePayloads value) := by
  induction value using Json.induction with
  | null | bool | number | string => rfl
  | array items ih =>
      simp only [Json.mapTexts_array, normalizePayloads, normalizePayloadItems_eq, List.map_map]
      exact congrArg Json.array (List.map_congr_left ih)
  | object fields ih =>
      simp only [Json.mapTexts_object, normalizePayloads, normalizePayloadFields_eq,
        Keyed.mapValues, List.map_map]
      refine congrArg Json.object (List.map_congr_left fun entry hentry => ?_)
      simp only [Function.comp_apply, ih entry hentry, normalizeBooleans_mapTexts]
      split <;> rfl

/-- Ordinary names stay so when texts are changed. -/
theorem OrdinaryNames.mapTexts {schemas : Keyed Json} (h : OrdinaryNames schemas) :
    OrdinaryNames (Keyed.mapValues schemas (Json.mapTexts change)) := by
  intro entry hentry
  obtain ⟨⟨name, schema⟩, hmem, rfl⟩ := List.mem_map.1 hentry
  obtain ⟨hdata, hpayload, htext⟩ := h _ hmem
  exact ⟨hdata, hpayload, (Json.string?_mapTexts schema).trans (by rw [htext]; rfl)⟩

/-- What a field holds as a Boolean does not depend on texts. -/
theorem bool?_mapValues (fields : Keyed Json) (key : String) :
    (Keyed.get? (Keyed.mapValues fields (Json.mapTexts change)) key).bind Json.bool? =
      (Keyed.get? fields key).bind Json.bool? := by
  rw [Keyed.get?_mapValues]
  cases Keyed.get? fields key <;> simp

/-- What a field holds as a text is the changed text. -/
theorem text_mapValues (fields : Keyed Json) (key : String) :
    (Keyed.get? (Keyed.mapValues fields (Json.mapTexts change)) key).bind Json.string? =
      ((Keyed.get? fields key).bind Json.string?).map change := by
  rw [Keyed.get?_mapValues]
  cases Keyed.get? fields key with
  | none => rfl
  | some value => exact Json.string?_mapTexts value

/-- What a field holds as a list is the list of changed items. -/
theorem list_mapValues (fields : Keyed Json) (key : String) :
    (Keyed.get? (Keyed.mapValues fields (Json.mapTexts change)) key).bind Json.array? =
      ((Keyed.get? fields key).bind Json.array?).map (List.map (Json.mapTexts change)) := by
  rw [Keyed.get?_mapValues]
  cases Keyed.get? fields key with
  | none => rfl
  | some value => exact Json.array?_mapTexts value

theorem takeFlag_mapValues (fields : Keyed Json) (key : String) :
    takeFlag (Keyed.mapValues fields (Json.mapTexts change)) key =
      ((takeFlag fields key).1,
        Keyed.mapValues (takeFlag fields key).2 (Json.mapTexts change)) := by
  unfold takeFlag
  rw [bool?_mapValues]
  split
  · rw [Keyed.mapValues_swapOut]
  · rfl

theorem putIfMissing_mapValues (fields : Keyed Json) (key : String) (value : Json) :
    putIfMissing (Keyed.mapValues fields (Json.mapTexts change)) key (Json.mapTexts change value) =
      Keyed.mapValues (putIfMissing fields key value) (Json.mapTexts change) := by
  unfold putIfMissing
  rw [Keyed.has_mapValues]
  split
  · rfl
  · rw [Keyed.mapValues_put]

theorem typeOfValue?_mapTexts (value : Json) :
    typeOfValue? (Json.mapTexts change value) = typeOfValue? value := by
  cases value with
  | number number => cases number <;> rfl
  | array items => rw [Json.mapTexts_array]; rfl
  | object fields => rw [Json.mapTexts_object]; rfl
  | null | bool | string => rfl

namespace KeepsKeywords

variable (h : KeepsKeywords address change) {word : String}

include h

/-- A changed text is a keyword exactly when the text is. -/
theorem eq_iff (hword : word ∈ keywords) {text : String} : change text = word ↔ text = word := by
  constructor
  · intro heq
    have hmem : text ∈ keywords := h.avoids text (heq ▸ hword)
    rw [← heq, h.fixes text hmem]
  · rintro rfl
    exact h.fixes text hword

theorem string?_eq_iff (hword : word ∈ keywords) (value : Json) :
    (Json.mapTexts change value).string? = some word ↔ value.string? = some word := by
  rw [Json.string?_mapTexts]
  cases value.string? with
  | none => simp
  | some text => simp [h.eq_iff hword]

theorem any_string?_map (hword : word ∈ keywords) (types : List Json) :
    (types.map (Json.mapTexts change)).any (fun type => type.string? = some word) =
      types.any fun type => type.string? = some word := by
  simp only [List.any_map, Function.comp_def, h.string?_eq_iff hword]

theorem orNull_mapTexts (schema : Json) :
    orNull (Json.mapTexts change schema) = Json.mapTexts change (orNull schema) := by
  simp [orNull, Keyed.mapValues, h.fixes "null" (by decide)]

theorem typeOrNull?_mapTexts (type : Json) :
    typeOrNull? (Json.mapTexts change type) = (typeOrNull? type).map (Json.mapTexts change) := by
  have hnull : "null" ∈ keywords := by decide
  cases type with
  | array types =>
      rw [Json.mapTexts_array, typeOrNull?, typeOrNull?, h.any_string?_map hnull]
      split <;> simp [h.fixes "null" hnull]
  | string type =>
      rw [Json.mapTexts_string, typeOrNull?, typeOrNull?, if_congr (h.eq_iff hnull) rfl rfl]
      split <;> simp [h.fixes "null" hnull]
  | object fields => rw [Json.mapTexts_object]; rfl
  | null | bool | number => rfl

theorem settleNullable_mapValues (fields : Keyed Json) :
    settleNullable (Keyed.mapValues fields (Json.mapTexts change)) =
      Json.mapTexts change (settleNullable fields) := by
  have hrest : withoutFlags (Keyed.mapValues fields (Json.mapTexts change)) =
      Keyed.mapValues (withoutFlags fields) (Json.mapTexts change) := by
    simp only [withoutFlags, takeFlag_mapValues]
  have hset : flagSet (Keyed.mapValues fields (Json.mapTexts change)) = flagSet fields := by
    simp only [flagSet, takeFlag_mapValues]
  have hwidened : widenedType? (Keyed.mapValues fields (Json.mapTexts change)) =
      (widenedType? fields).map (Json.mapTexts change) := by
    rw [widenedType?, widenedType?, hrest, Keyed.get?_mapValues]
    cases Keyed.get? (withoutFlags fields) "type" with
    | none => rfl
    | some type => exact h.typeOrNull?_mapTexts type
  rw [settleNullable_eq, settleNullable_eq, becomesChoice, becomesChoice, nullableFields,
    nullableFields, hset, hwidened, hrest]
  cases flagSet fields with
  | false => simp
  | true =>
      cases widenedType? fields with
      | none => simp [← Json.mapTexts_object, h.orNull_mapTexts]
      | some type => simp [Keyed.mapValues_put]

/-- The types of values are keywords. -/
theorem mapTexts_typeOfValue? {value : Json} {type : String}
    (htype : typeOfValue? value = some type) :
    Json.mapTexts change (.string type) = .string type := by
  refine congrArg Json.string (h.fixes type ?_)
  unfold typeOfValue? at htype
  split at htype <;> cases htype <;> decide

theorem settleConst_mapValues (fields : Keyed Json) :
    settleConst (Keyed.mapValues fields (Json.mapTexts change)) =
      Json.mapTexts change (settleConst fields) := by
  unfold settleConst
  rw [Keyed.get?_mapValues]
  cases Keyed.get? fields "const" with
  | none => simp
  | some value =>
      have hliteral : Json.mapTexts change (.array [value]) = .array [Json.mapTexts change value] :=
        Json.mapTexts_array [value]
      simp only [Option.map_some, typeOfValue?_mapTexts, ← Keyed.mapValues_swapOut, ← hliteral,
        Json.mapTexts_object]
      cases htype : typeOfValue? value with
      | none => rw [putIfMissing_mapValues]
      | some type =>
          rw [← putIfMissing_mapValues, ← putIfMissing_mapValues, h.mapTexts_typeOfValue? htype]

theorem spellsBinary_mapValues (fields : Keyed Json) :
    spellsBinary (Keyed.mapValues fields (Json.mapTexts change)) = spellsBinary fields := by
  have hstring : "string" ∈ keywords := by decide
  have hbase64 : "base64" ∈ keywords := by decide
  simp only [spellsBinary]
  rw [text_mapValues, text_mapValues, Keyed.get?_mapValues, Keyed.has_mapValues]
  congr 1
  · congr 1
    cases Keyed.get? fields "type" with
    | none => rfl
    | some type =>
        cases type with
        | string type => simp [h.eq_iff hstring]
        | array types => simp [h.any_string?_map hstring]
        | object fields => simp
        | null | bool | number => rfl
  · cases (Keyed.get? fields "contentEncoding").bind Json.string? with
    | some encoding => simp [h.eq_iff hbase64]
    | none => simp only [Option.map_none, Option.any_map, h.media]

theorem settleBinary_mapValues (fields : Keyed Json) :
    settleBinary (Keyed.mapValues fields (Json.mapTexts change)) =
      Json.mapTexts change (settleBinary fields) := by
  unfold settleBinary
  rw [h.spellsBinary_mapValues]
  have hbinary : Json.mapTexts change (.string "binary") = .string "binary" :=
    congrArg Json.string (h.fixes "binary" (by decide))
  have hstring : Json.mapTexts change (.string "string") = .string "string" :=
    congrArg Json.string (h.fixes "string" (by decide))
  split
  · rw [Json.mapTexts_object, ← putIfMissing_mapValues, Keyed.mapValues_put, hbinary, hstring]
  · rw [Json.mapTexts_object]

/-- All passes do the same before and after a change of texts that keeps keywords. -/
theorem settle_mapTexts (value : Json) :
    settle (Json.mapTexts change value) = Json.mapTexts change (settle value) := by
  rw [settle, normalizePayloads_mapTexts, normalizeNullable,
    mapObjects_mapTexts h.settleNullable_mapValues, ← normalizeNullable, normalizeConst,
    mapObjects_mapTexts h.settleConst_mapValues, ← normalizeConst, normalizeBinary,
    mapObjects_mapTexts h.settleBinary_mapValues, ← normalizeBinary, settle]

theorem normalizeSchema_mapTexts (schema : Json) :
    normalizeSchema (Json.mapTexts change schema) =
      Json.mapTexts change (normalizeSchema schema) := by
  rw [normalizeSchema, normalizeBooleans_mapTexts, h.settle_mapTexts, normalizeSchema]

theorem admitsNull_mapTexts (type : Option Json) :
    admitsNull (type.map (Json.mapTexts change)) = admitsNull type := by
  have hnull : "null" ∈ keywords := by decide
  cases type with
  | none => rfl
  | some type =>
      cases type with
      | string type => simp [admitsNull, h.eq_iff hnull]
      | array types => simp [admitsNull, h.any_string?_map hnull]
      | object fields => simp [admitsNull]
      | null | bool | number => rfl

omit h in
theorem takeFields_mapValues (keys : List String) (fields : Keyed Json) :
    takeFields keys (Keyed.mapValues fields (Json.mapTexts change)) =
      (Keyed.mapValues (takeFields keys fields).1 (Json.mapTexts change),
        Keyed.mapValues (takeFields keys fields).2 (Json.mapTexts change)) := by
  induction keys generalizing fields with
  | nil => rfl
  | cons key rest ih =>
      simp only [takeFields, Keyed.get?_mapValues]
      cases Keyed.get? fields key with
      | none => exact ih fields
      | some value =>
          simp only [Option.map_some, ← Keyed.mapValues_swapOut, ih]
          rfl

theorem moveOwnKeywords_mapValues (fields : Keyed Json) :
    moveOwnKeywords (Keyed.mapValues fields (Json.mapTexts change)) =
      Keyed.mapValues (moveOwnKeywords fields) (Json.mapTexts change) := by
  have hobject : change "object" = "object" := h.fixes "object" (by decide)
  have hadd (own : Keyed Json) (value : Json) :
      Json.mapTexts change (addMember (.object (own ++ [("type", .string "object")])) value) =
        addMember
          (.object (Keyed.mapValues own (Json.mapTexts change) ++ [("type", .string "object")]))
          (Json.mapTexts change value) := by
    cases value with
    | array members => simp [addMember, Keyed.mapValues, hobject]
    | object fields => simp [addMember]
    | null | bool | number | string => rfl
  unfold moveOwnKeywords
  rw [takeFields_mapValues]
  generalize takeFields objectKeys fields = parts
  obtain ⟨own, rest⟩ := parts
  have hempty : (Keyed.mapValues own (Json.mapTexts change)).isEmpty = own.isEmpty := by
    simp [Keyed.mapValues]
  dsimp only
  rw [hempty]
  split
  · rfl
  · rw [Keyed.mapValues_modify (hadd own)]

omit h in
theorem keepTitle_mapValues (fields : Keyed Json) :
    keepTitle (Keyed.mapValues fields (Json.mapTexts change)) =
      Keyed.mapValues (keepTitle fields) (Json.mapTexts change) := by
  unfold keepTitle
  rw [Keyed.get?_mapValues]
  cases Keyed.get? fields "title" with
  | none => rfl
  | some title => simp only [Option.map_some, Keyed.mapValues_put, Keyed.mapValues_swapOut]

theorem shapeComposition_mapValues (keyword : String) (fields : Keyed Json) :
    shapeComposition keyword (Keyed.mapValues fields (Json.mapTexts change)) =
      Json.mapTexts change (shapeComposition keyword fields) := by
  have hcomposed : composedFields keyword (Keyed.mapValues fields (Json.mapTexts change)) =
      Keyed.mapValues (composedFields keyword fields) (Json.mapTexts change) := by
    simp only [composedFields, ← Keyed.mapValues_swapOut, h.moveOwnKeywords_mapValues,
      keepTitle_mapValues]
    split_ifs <;> rfl
  rw [shapeComposition_eq, shapeComposition_eq, hcomposed, Keyed.get?_mapValues,
    h.admitsNull_mapTexts, ← Json.mapTexts_object]
  split
  · rw [h.orNull_mapTexts]
  · rfl

omit h in
theorem typeOfLiterals?_map (literals : List Json) :
    typeOfLiterals? (literals.map (Json.mapTexts change)) = typeOfLiterals? literals := by
  simp only [typeOfLiterals?, List.find?_map, Function.comp_def, Json.isNull_mapTexts]
  cases literals.find? fun value => !value.isNull with
  | none => rfl
  | some value =>
      cases value with
      | array items => simp
      | object fields => simp
      | null | bool | number | string => exact typeOfValue?_mapTexts _

theorem impliedType_mapValues (fields : Keyed Json) :
    impliedType (Keyed.mapValues fields (Json.mapTexts change)) =
      Json.mapTexts change (impliedType fields) := by
  have hhas : Keyed.has (Keyed.mapValues fields (Json.mapTexts change)) = Keyed.has fields :=
    funext fun key => Keyed.has_mapValues fields _ key
  have hliterals : ((Keyed.get? (Keyed.mapValues fields (Json.mapTexts change)) "enum").bind
      Json.array?).bind typeOfLiterals? =
        ((Keyed.get? fields "enum").bind Json.array?).bind typeOfLiterals? := by
    rw [list_mapValues]
    cases (Keyed.get? fields "enum").bind Json.array? with
    | none => rfl
    | some literals => exact typeOfLiterals?_map literals
  unfold impliedType
  rw [hhas, hliterals]
  split_ifs
  · exact (congrArg Json.string (h.fixes "object" (by decide))).symm
  · exact (congrArg Json.string (h.fixes "array" (by decide))).symm
  · cases htype : ((Keyed.get? fields "enum").bind Json.array?).bind typeOfLiterals? with
    | none => rfl
    | some type =>
        obtain ⟨literals, _, hliteral⟩ := Option.bind_eq_some_iff.1 htype
        unfold typeOfLiterals? at hliteral
        split at hliteral
        · cases hliteral
        · cases hliteral
        · cases hliteral
        · exact (h.mapTexts_typeOfValue? hliteral).symm

theorem shapeStep_mapTexts (place : Bool) (value : Json) :
    shapeStep place (Json.mapTexts change value) =
      Json.mapTexts change (shapeStep place value) := by
  cases value with
  | object fields =>
      have hhas : Keyed.has (Keyed.mapValues fields (Json.mapTexts change)) = Keyed.has fields :=
        funext fun key => Keyed.has_mapValues fields _ key
      rw [Json.mapTexts_object, shapeStep, shapeStep, shapeFields, shapeFields, hhas]
      split
      · rw [Json.mapTexts_object]
      · split
        · exact h.shapeComposition_mapValues _ fields
        · rw [Json.mapTexts_object, h.impliedType_mapValues, putIfMissing_mapValues]
  | null | bool | number | string | array => rfl

/-- Bringing a schema into shape does the same before and after a change of texts that keeps
keywords. -/
theorem shape_mapTexts (schema : Json) :
    shape (Json.mapTexts change schema) = Json.mapTexts change (shape schema) :=
  (mapSchema_mapTexts h.shapeStep_mapTexts schema).1 true

end KeepsKeywords

end Document

end SchemaGraph
