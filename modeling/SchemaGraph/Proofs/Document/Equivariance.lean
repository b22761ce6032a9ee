import SchemaGraph.Proofs.Document.Texts

/-!
# Reading a document with other texts

A schema whose texts are changed is read as the schema with the same change made to what was read,
as long as no keyword is touched (`KeepsKeywords.converted_mapTexts`). This holds of all references
at once: those by name, those given as a list, and the targets of a discriminator.
-/

namespace SchemaGraph

/-- A title and a description with other texts. -/
def Docs.mapTexts (change : String → String) (docs : Docs) : Docs :=
  ⟨docs.title.map change, docs.description.map change⟩

/-- A scalar schema with other texts. -/
def Scalar.mapTexts (change : String → String) (leaf : Scalar) : Scalar :=
  ⟨leaf.kind, leaf.format.map change, leaf.literals.map (Json.mapTexts change),
    leaf.docs.mapTexts change⟩

/-- A discriminator with other texts. The wire values are names of fields. -/
def Discriminator.mapTexts (change : String → String) (discriminator : Discriminator) :
    Discriminator :=
  ⟨change discriminator.propertyName,
    discriminator.mapping.map fun entry => ⟨entry.wireValue, change entry.target⟩⟩

mutual

/-- A schema with other texts. The names of properties are no texts, but what is required is a list
of them. -/
def Schema.mapTexts (change : String → String) : Schema → Schema
  | .scalar leaf => .scalar (leaf.mapTexts change)
  | .array items => .array (SchemaUse.mapTexts change items)
  | .map values => .map (SchemaUse.mapTexts change values)
  | .object ⟨properties, required, nullable, docs⟩ =>
      .object ⟨mapTextsProperties change properties, NameSet.addAll [] (required.map change),
        nullable, docs.mapTexts change⟩
  | .alias reference => .alias (change reference)
  | .composition ⟨kind, members, discriminator, docs⟩ =>
      .composition ⟨kind, mapTextsMembers change members,
        discriminator.map (Discriminator.mapTexts change), docs.mapTexts change⟩
  | .any => .any
  | .unknown => .unknown

/-- The use of a schema with other texts. -/
def SchemaUse.mapTexts (change : String → String) : SchemaUse → SchemaUse
  | .named reference => .named (change reference)
  | .inline schema => .inline (schema.mapTexts change)

/-- Properties with other texts. -/
def mapTextsProperties (change : String → String) :
    List (String × SchemaUse) → List (String × SchemaUse)
  | [] => []
  | (name, use) :: rest => (name, SchemaUse.mapTexts change use) :: mapTextsProperties change rest

/-- Members of a composition with other texts. -/
def mapTextsMembers (change : String → String) : List SchemaUse → List SchemaUse
  | [] => []
  | use :: rest => SchemaUse.mapTexts change use :: mapTextsMembers change rest

end

variable {change : String → String}

theorem mapTextsProperties_eq (properties : Keyed SchemaUse) :
    mapTextsProperties change properties =
      Keyed.mapValues properties (SchemaUse.mapTexts change) := by
  induction properties with
  | nil => rfl
  | cons entry rest ih =>
      obtain ⟨name, use⟩ := entry
      rw [mapTextsProperties, ih]
      rfl

theorem mapTextsMembers_eq (members : List SchemaUse) :
    mapTextsMembers change members = members.map (SchemaUse.mapTexts change) := by
  induction members with
  | nil => rfl
  | cons use rest ih => rw [mapTextsMembers, ih, List.map_cons]

namespace Document

variable {address : Option String}

/-- What was read, with other texts. -/
def Reading.mapTexts (change : String → String) (reading : Reading) : Reading :=
  { reading with use := SchemaUse.mapTexts change reading.use }

/-- The ways in which a value can be read, with other texts. -/
def Readings.mapTexts (change : String → String) (readings : Readings) : Readings where
  asUse := readings.asUse.map (Reading.mapTexts change)
  asSchema := readings.asSchema.map (Reading.mapTexts change)
  asUses := readings.asUses.map (List.map (Reading.mapTexts change))
  asSchemas := readings.asSchemas.map (List.map (Reading.mapTexts change))
  asNamedUses :=
    readings.asNamedUses.map fun found => Keyed.mapValues found (Reading.mapTexts change)

/-- The type of additional properties, with other texts. -/
def Additional.mapTexts (change : String → String) : Additional → Additional
  | .typed use => .typed (SchemaUse.mapTexts change use)
  | .free => .free
  | .absent => .absent

/-- Changing texts keeps the values of this kind, and makes none. -/
def KeepsKind (change : String → String) (kind : Json → Bool) : Prop :=
  ∀ value, kind (Json.mapTexts change value) = kind value

theorem keepsKind_isText : KeepsKind change isText := fun value => by cases value <;> rfl

theorem keepsKind_isTextOrNull : KeepsKind change isTextOrNull :=
  fun value => by cases value <;> rfl

theorem keepsKind_isFlag : KeepsKind change isFlag := fun value => by cases value <;> rfl

theorem keepsKind_isFlagOrNull : KeepsKind change isFlagOrNull :=
  fun value => by cases value <;> rfl

theorem keepsKind_isList : KeepsKind change isList := fun value => by cases value <;> rfl

theorem keepsKind_isListOrNull : KeepsKind change isListOrNull :=
  fun value => by cases value <;> rfl

theorem keepsKind_isNumberOrNull : KeepsKind change isNumberOrNull :=
  fun value => by cases value <;> rfl

theorem keepsKind_isSizeOrNull : KeepsKind change isSizeOrNull :=
  fun value => by cases value <;> rfl

theorem keepsKind_isTextList : KeepsKind change isTextList := by
  intro value
  rw [isTextList, isTextList, Json.array?_mapTexts]
  cases value.array? with
  | none => rfl
  | some items => simp [List.all_map, Function.comp_def, keepsKind_isText _]

section Allows

variable {kind : Json → Bool} (hkind : KeepsKind change kind)

include hkind

theorem allows_mapValues (fields : Keyed Json) (key : String) :
    allows (Keyed.mapValues fields (Json.mapTexts change)) kind key = allows fields kind key := by
  rw [allows, allows, Keyed.get?_mapValues]
  cases Keyed.get? fields key with
  | none => rfl
  | some value => exact hkind value

theorem allowAll_mapValues (fields : Keyed Json) (keys : List String) :
    allowAll (Keyed.mapValues fields (Json.mapTexts change)) kind keys =
      allowAll fields kind keys := by
  have hallows : allows (Keyed.mapValues fields (Json.mapTexts change)) kind = allows fields kind :=
    funext fun key => allows_mapValues hkind fields key
  rw [allowAll, allowAll, hallows]

end Allows

theorem keepsKind_isXml : KeepsKind change isXml := by
  intro value
  cases value with
  | object fields =>
      rw [Json.mapTexts_object, isXml, isXml, allowAll_mapValues keepsKind_isTextOrNull,
        allowAll_mapValues keepsKind_isFlagOrNull]
  | array items =>
      rw [Json.mapTexts_array]
      rcases items with _ | ⟨name, _ | ⟨space, _ | ⟨short, flags⟩⟩⟩
      · rfl
      · rfl
      · rfl
      · simp [isXml, List.all_map, Function.comp_def, keepsKind_isTextOrNull _,
          keepsKind_isFlagOrNull _]
  | null | bool | number | string => rfl

theorem docsOf_mapValues (fields : Keyed Json) :
    docsOf (Keyed.mapValues fields (Json.mapTexts change)) = (docsOf fields).mapTexts change := by
  rw [docsOf, docsOf, text_mapValues, text_mapValues]
  rfl

theorem literalsOf_mapValues (fields : Keyed Json) :
    literalsOf (Keyed.mapValues fields (Json.mapTexts change)) =
      (literalsOf fields).map (Json.mapTexts change) := by
  rw [literalsOf, literalsOf, list_mapValues]
  cases (Keyed.get? fields "enum").bind Json.array? <;> rfl

theorem requiredNames_mapValues (fields : Keyed Json) :
    requiredNames (Keyed.mapValues fields (Json.mapTexts change)) =
      (requiredNames fields).map change := by
  rw [requiredNames, requiredNames, Keyed.get?_mapValues]
  cases Keyed.get? fields "required" with
  | none => rfl
  | some value =>
      simp only [Option.map_some, Option.elim_some, namesIn, Json.array?_mapTexts]
      cases value.array? with
      | none => rfl
      | some items =>
          simp [List.filterMap_map, List.map_filterMap, Json.string?_mapTexts]

theorem asUse_mapTexts (readings : Readings) : (Readings.mapTexts change readings).asUse =
    readings.asUse.map (Reading.mapTexts change) := rfl

theorem asSchema_mapTexts (readings : Readings) : (Readings.mapTexts change readings).asSchema =
    readings.asSchema.map (Reading.mapTexts change) := rfl

theorem asUses_mapTexts (readings : Readings) : (Readings.mapTexts change readings).asUses =
    readings.asUses.map (List.map (Reading.mapTexts change)) := rfl

theorem asNamedUses_mapTexts (readings : Readings) :
    (Readings.mapTexts change readings).asNamedUses =
      readings.asNamedUses.map fun found => Keyed.mapValues found (Reading.mapTexts change) := rfl

theorem asSchemas_mapTexts (readings : Readings) : (Readings.mapTexts change readings).asSchemas =
    readings.asSchemas.map (List.map (Reading.mapTexts change)) := rfl

/-- A list is complete whatever its items are mapped to. -/
theorem allPresent_map_map {α β γ : Type} (items : List α) (read : α → Option β) (image : β → γ) :
    allPresent (items.map fun item => (read item).map image) =
      (allPresent (items.map read)).map (List.map image) := by
  induction items with
  | nil => rfl
  | cons item rest ih =>
      simp only [List.map_cons]
      cases read item with
      | none => rfl
      | some found =>
          simp only [Option.map_some, allPresent, ih]
          cases allPresent (rest.map read) <;> rfl

/-- Whatever is read of a value in some way is read of a field. -/
theorem readField?_mapValues {α : Type} {facet : Facet α} {image : α → α}
    (hfacet : ∀ readings, facet (Readings.mapTexts change readings) = (facet readings).map image)
    (parts : Keyed Readings) (key : String) :
    readField? (Keyed.mapValues parts (Readings.mapTexts change)) facet key =
      (readField? parts facet key).map (Option.map image) := by
  rw [readField?, readField?, Keyed.get?_mapValues]
  cases Keyed.get? parts key with
  | none => rfl
  | some readings =>
      simp only [Option.map_some, hfacet]
      cases facet readings <;> rfl

theorem scalarKindOfLiteral?_mapTexts (value : Json) :
    scalarKindOfLiteral? (Json.mapTexts change value) = scalarKindOfLiteral? value := by
  cases value with
  | number number => cases number <;> rfl
  | array items => rw [Json.mapTexts_array]; rfl
  | object fields => rw [Json.mapTexts_object]; rfl
  | null | bool | string => rfl

/-- A word that is written as the only name of an object is no text. -/
theorem wordOf?_mapTexts_object (fields : Keyed Json) :
    wordOf? (Json.mapTexts change (.object fields)) = wordOf? (.object fields) := by
  rw [Json.mapTexts_object]
  rcases fields with _ | ⟨⟨word, value⟩, _ | ⟨entry, rest⟩⟩
  · rfl
  · cases value with
    | array items => simp [Keyed.mapValues, wordOf?]
    | object fields => simp [Keyed.mapValues, wordOf?]
    | null | bool | number | string => rfl
  · simp [Keyed.mapValues, wordOf?]

/-- The words for types are keywords. -/
theorem TypeWord.parse?_of_notMem (text : String) (h : text ∉ keywords) :
    TypeWord.parse? text = none := by
  unfold TypeWord.parse?
  split <;> first | rfl | exact absurd (by decide) h

namespace KeepsKeywords

variable (h : KeepsKeywords address change)

include h

/-- Looking a keyword up gives the same for a changed text. -/
theorem lookup_eq {α : Type} {lookup : String → Option α}
    (hlookup : ∀ text, text ∉ keywords → lookup text = none) (text : String) :
    lookup (change text) = lookup text := by
  by_cases htext : text ∈ keywords
  · rw [h.fixes text htext]
  · rw [hlookup text htext, hlookup (change text) (mt (h.avoids text) htext)]

theorem typeWord?_mapTexts (value : Json) :
    (wordOf? (Json.mapTexts change value)).bind TypeWord.parse? =
      (wordOf? value).bind TypeWord.parse? := by
  cases value with
  | string word =>
      have hword : TypeWord.parse? (change word) = TypeWord.parse? word :=
        h.lookup_eq TypeWord.parse?_of_notMem word
      exact hword
  | object fields => rw [wordOf?_mapTexts_object]
  | array items => rw [Json.mapTexts_array]; rfl
  | null | bool | number => rfl

theorem ofJson?_mapTexts (value : Json) :
    TypeSpec.ofJson? (Json.mapTexts change value) = TypeSpec.ofJson? value := by
  cases value with
  | array words =>
      have hwords : (words.map (Json.mapTexts change)).mapM (fun word =>
          (wordOf? word).bind TypeWord.parse?) =
            words.mapM fun word => (wordOf? word).bind TypeWord.parse? := by
        rw [List.mapM_map]
        exact congrArg (words.mapM ·) (funext h.typeWord?_mapTexts)
      rw [Json.mapTexts_array, TypeSpec.ofJson?, hwords, TypeSpec.ofJson?]
  | string word => exact congrArg (Option.map TypeSpec.one) (h.typeWord?_mapTexts (.string word))
  | object fields =>
      have hword := h.typeWord?_mapTexts (.object fields)
      rw [Json.mapTexts_object] at hword ⊢
      exact congrArg (Option.map TypeSpec.one) hword
  | null | bool | number => rfl

theorem formatOf?_mapTexts (value : Json) :
    formatOf? (Json.mapTexts change value) = (formatOf? value).map change := by
  cases value with
  | object fields =>
      have hobject (fields : Keyed Json) : formatOf? (.object fields) =
          (wordOf? (.object fields)).filter knownFormats.contains := rfl
      have hword : wordOf? (Json.mapTexts change (.object fields)) = wordOf? (.object fields) :=
        wordOf?_mapTexts_object fields
      rw [Json.mapTexts_object] at hword ⊢
      rw [hobject, hobject, hword]
      cases wordOf? (.object fields) with
      | none => rfl
      | some word =>
          by_cases hknown : word ∈ knownFormats
          · simp [Option.filter, hknown, h.fixes word (List.mem_append_right _ hknown)]
          · simp [Option.filter, hknown]
  | array items => rw [Json.mapTexts_array]; rfl
  | null | bool | number | string => rfl

theorem typeOf?_mapValues (fields : Keyed Json) :
    typeOf? (Keyed.mapValues fields (Json.mapTexts change)) = typeOf? fields := by
  rw [typeOf?, typeOf?, Keyed.get?_mapValues]
  cases Keyed.get? fields "type" with
  | none => rfl
  | some type => exact h.ofJson?_mapTexts type

theorem scalarOf_mapValues (fields : Keyed Json) (kind : ScalarKind) :
    scalarOf (Keyed.mapValues fields (Json.mapTexts change)) kind =
      Schema.mapTexts change (scalarOf fields kind) := by
  have hformat :
      (Keyed.get? (Keyed.mapValues fields (Json.mapTexts change)) "format").bind formatOf? =
        ((Keyed.get? fields "format").bind formatOf?).map change := by
    rw [Keyed.get?_mapValues]
    cases Keyed.get? fields "format" with
    | none => rfl
    | some format => exact h.formatOf?_mapTexts format
  rw [scalarOf, hformat, literalsOf_mapValues, docsOf_mapValues]
  rfl

theorem untypedSchema_mapValues (fields : Keyed Json) :
    untypedSchema (Keyed.mapValues fields (Json.mapTexts change)) =
      Schema.mapTexts change (untypedSchema fields) := by
  have hkind : (literalsOf (Keyed.mapValues fields (Json.mapTexts change))).findSome?
      scalarKindOfLiteral? = (literalsOf fields).findSome? scalarKindOfLiteral? := by
    rw [literalsOf_mapValues, List.findSome?_map]
    exact congrArg (List.findSome? · _) (funext scalarKindOfLiteral?_mapTexts)
  unfold untypedSchema
  rw [hkind]
  cases (literalsOf fields).findSome? scalarKindOfLiteral? with
  | none => rfl
  | some kind => exact h.scalarOf_mapValues fields kind

omit h in
theorem objectShape_mapValues (fields : Keyed Json) (found : Keyed Reading) :
    Schema.object (objectShape (Keyed.mapValues fields (Json.mapTexts change))
        (Keyed.mapValues found (Reading.mapTexts change))) =
      Schema.mapTexts change (.object (objectShape fields found)) := by
  have hrequired : NameSet.addAll [] ((NameSet.addAll [] (requiredNames fields)).map change) =
      NameSet.addAll [] ((requiredNames fields).map change) := NameSet.addAll_map change
  have hobject (fields : Keyed Json) (found : Keyed Reading) : objectShape fields found =
      objectOf found (requiredNames fields) (docsOf fields) := rfl
  rw [hobject, hobject, requiredNames_mapValues, docsOf_mapValues, objectOf, objectOf,
    Schema.mapTexts, mapTextsProperties_eq, hrequired]
  simp only [Keyed.mapValues, List.map_map, List.filter_map]
  rfl

theorem structuredSchema_mapValues (fields : Keyed Json) (typed : Bool) (found : Keyed Reading)
    (additional : Additional) :
    structuredSchema (Keyed.mapValues fields (Json.mapTexts change)) typed
        (Keyed.mapValues found (Reading.mapTexts change)) (additional.mapTexts change) =
      Schema.mapTexts change (structuredSchema fields typed found additional) := by
  have hrequired : (requiredNames (Keyed.mapValues fields (Json.mapTexts change))).isEmpty =
      (requiredNames fields).isEmpty := by
    rw [requiredNames_mapValues]
    simp
  cases found with
  | cons entry rest =>
      rw [structuredSchema_cons, ← objectShape_mapValues]
      exact structuredSchema_cons _ _ _ _ _
  | nil =>
      cases additional with
      | typed use => rfl
      | free => rfl
      | absent =>
          have habsent :=
            structuredSchema_absent (Keyed.mapValues fields (Json.mapTexts change)) typed
          rw [hrequired, h.untypedSchema_mapValues] at habsent
          refine habsent.trans ?_
          rw [structuredSchema_absent]
          split
          · rfl
          · exact objectShape_mapValues fields []

theorem schemaOfType_mapValues (fields : Keyed Json) (type : Option TypeWord)
    (found : Keyed Reading) (additional : Additional) :
    schemaOfType (Keyed.mapValues fields (Json.mapTexts change)) type
        (Keyed.mapValues found (Reading.mapTexts change)) (additional.mapTexts change) =
      Schema.mapTexts change (schemaOfType fields type found additional) := by
  cases type with
  | none => exact h.structuredSchema_mapValues fields false found additional
  | some word =>
      cases word with
      | object => exact h.structuredSchema_mapValues fields true found additional
      | string | integer | number | boolean => exact h.scalarOf_mapValues fields _
      | array | null => rfl

end KeepsKeywords

namespace KeepsKeywords

section Parts

variable (h : KeepsKeywords address change) (fields : Keyed Json) (parts : Keyed Readings)

theorem itemsOf?_mapValues :
    itemsOf? (Keyed.mapValues fields (Json.mapTexts change))
        (Keyed.mapValues parts (Readings.mapTexts change)) =
      (itemsOf? fields parts).map (SchemaUse.mapTexts change) := by
  simp only [itemsOf?, Keyed.get?_mapValues, readField?_mapValues asUse_mapTexts,
    readField?_mapValues asSchemas_mapTexts, allowAll_mapValues keepsKind_isTextOrNull,
    allows_mapValues keepsKind_isFlagOrNull, allows_mapValues keepsKind_isList,
    allowAll_mapValues keepsKind_isSizeOrNull, allows_mapValues keepsKind_isFlag,
    allows_mapValues keepsKind_isXml, allowAll_mapValues keepsKind_isText, bind]
  cases Keyed.get? fields "items" with
  | none => rfl
  | some value =>
      by_cases hflag : value.bool? = some false <;>
        rcases readField? parts Readings.asUse "items" with _ | _ | reading <;>
        cases readField? parts Readings.asSchemas "prefixItems" <;>
        simp only [Option.map_some, Option.map_none, Option.bind_some, Option.bind_none,
          Json.bool?_mapTexts, hflag, if_true, if_false, apply_ite (Option.map _)] <;> rfl

theorem readAdditional?_mapValues :
    readAdditional? (Keyed.mapValues fields (Json.mapTexts change))
        (Keyed.mapValues parts (Readings.mapTexts change)) =
      (readAdditional? fields parts).map (Additional.mapTexts change) := by
  have htyped : (readField? (Keyed.mapValues parts (Readings.mapTexts change)) Readings.asUse
      "additionalProperties").bind (fun found => found.map fun reading =>
        Additional.typed reading.use) =
      ((readField? parts Readings.asUse "additionalProperties").bind fun found =>
        found.map fun reading => Additional.typed reading.use).map
          (Additional.mapTexts change) := by
    rw [readField?_mapValues asUse_mapTexts]
    rcases readField? parts Readings.asUse "additionalProperties" with _ | _ | reading <;> rfl
  unfold readAdditional?
  rw [Keyed.get?_mapValues]
  cases Keyed.get? fields "additionalProperties" with
  | none => rfl
  | some value =>
      cases value with
      | null | bool => rfl
      | array items => simpa using htyped
      | object fields => simpa using htyped
      | number | string => exact htyped

include h

theorem objectInOrder_mapValues :
    objectInOrder (Keyed.mapValues fields (Json.mapTexts change)) = objectInOrder fields := by
  have hformat : KeepsKind change fun value => value.isNull || (formatOf? value).isSome := by
    intro value
    simp only [Json.isNull_mapTexts, h.formatOf?_mapTexts, Option.isSome_map]
  simp only [objectInOrder, allowAll_mapValues keepsKind_isTextOrNull, allows_mapValues hformat,
    allows_mapValues keepsKind_isListOrNull, allows_mapValues keepsKind_isTextList,
    allowAll_mapValues keepsKind_isFlagOrNull, allows_mapValues keepsKind_isList,
    allows_mapValues keepsKind_isXml, allowAll_mapValues keepsKind_isNumberOrNull,
    allowAll_mapValues keepsKind_isSizeOrNull, allowAll_mapValues keepsKind_isText]

theorem additionalOf?_mapValues :
    additionalOf? (Keyed.mapValues fields (Json.mapTexts change))
        (Keyed.mapValues parts (Readings.mapTexts change)) =
      (additionalOf? fields parts).map (Additional.mapTexts change) := by
  have hnames : readFieldUnless? (Keyed.mapValues fields (Json.mapTexts change))
      (Keyed.mapValues parts (Readings.mapTexts change)) Json.isNull Readings.asSchema
        "propertyNames" =
      (readFieldUnless? fields parts Json.isNull Readings.asSchema "propertyNames").map
        (Option.map (Reading.mapTexts change)) := by
    simp only [readFieldUnless?, Keyed.get?_mapValues, Option.any_map, Json.isNull_mapTexts,
      readField?_mapValues asSchema_mapTexts, apply_ite (Option.map _)]
    rfl
  simp only [additionalOf?, readAdditional?_mapValues, hnames, h.objectInOrder_mapValues, bind]
  cases readAdditional? fields parts <;>
    cases readFieldUnless? fields parts Json.isNull Readings.asSchema "propertyNames" <;>
    simp only [Option.map_some, Option.map_none, Option.bind_some, Option.bind_none,
      apply_ite (Option.map _)]

theorem readArray?_mapValues :
    readArray? (Keyed.mapValues fields (Json.mapTexts change))
        (Keyed.mapValues parts (Readings.mapTexts change)) =
      (readArray? fields parts).map (Reading.mapTexts change) := by
  rw [readArray?_eq, readArray?_eq, h.typeOf?_mapValues, itemsOf?_mapValues]
  cases typeOf? fields with
  | none => rfl
  | some type => cases itemsOf? fields parts <;> rfl

theorem readObject?_mapValues :
    readObject? (Keyed.mapValues fields (Json.mapTexts change))
        (Keyed.mapValues parts (Readings.mapTexts change)) =
      (readObject? fields parts).map (Reading.mapTexts change) := by
  rw [readObject?_eq, readObject?_eq, h.typeOf?_mapValues, propertiesOf?, propertiesOf?,
    h.additionalOf?_mapValues, readField?_mapValues asNamedUses_mapTexts]
  cases typeOf? fields with
  | none => rfl
  | some type =>
      cases additionalOf? fields parts with
      | none => rcases readField? parts Readings.asNamedUses "properties" with _ | _ | found <;> rfl
      | some additional =>
          rcases readField? parts Readings.asNamedUses "properties" with _ | _ | found
          · rfl
          · simpa [Reading.mapTexts, SchemaUse.mapTexts, Keyed.mapValues] using
              h.schemaOfType_mapValues fields type.effective? [] additional
          · simpa [Reading.mapTexts, SchemaUse.mapTexts] using
              h.schemaOfType_mapValues fields type.effective? found additional

omit h in
/-- Leaving out the members that are just `null` does not depend on texts. -/
theorem compositionReading_mapTexts (kind : CompositionKind) (members : List Reading)
    (discriminator : Option Discriminator) (docs : Docs) :
    compositionReading kind (members.map (Reading.mapTexts change))
        (discriminator.map (Discriminator.mapTexts change)) (docs.mapTexts change) =
      Reading.mapTexts change (compositionReading kind members discriminator docs) := by
  have hparts : compositionParts kind (members.map (Reading.mapTexts change)) =
      ((compositionParts kind members).1.map (SchemaUse.mapTexts change),
        (compositionParts kind members).2) := by
    simp only [compositionParts, List.filter_map, List.map_map, List.any_map]
    rfl
  unfold compositionReading
  rw [hparts]
  generalize compositionParts kind members = parts
  obtain ⟨uses, nullable⟩ := parts
  have hcomposition (kind : CompositionKind) : Reading.mapTexts change
      (.inPlace (.composition ⟨kind, uses, discriminator, docs⟩) nullable) =
        .inPlace (.composition ⟨kind, uses.map (SchemaUse.mapTexts change),
          discriminator.map (Discriminator.mapTexts change), docs.mapTexts change⟩) nullable := by
    rw [Reading.mapTexts, Reading.inPlace, SchemaUse.mapTexts, Schema.mapTexts, mapTextsMembers_eq]
    rfl
  cases kind with
  | allOf => exact (hcomposition .allOf).symm
  | oneOf | anyOf =>
      rcases uses with _ | ⟨single, _ | ⟨next, rest⟩⟩
      · exact (hcomposition _).symm
      · cases nullable with
        | false => exact (hcomposition _).symm
        | true => rfl
      · exact (hcomposition _).symm

theorem readDiscriminator?_mapTexts (value : Json) :
    readDiscriminator? address (Json.mapTexts change value) =
      (readDiscriminator? address value).map (Option.map (Discriminator.mapTexts change)) := by
  -- The wire values by which a mapping is sorted are no texts.
  have hsorted (mapping : List (String × String)) :
      (mapping.map fun entry => (entry.1, change entry.2)).mergeSort (fun left right =>
        textBefore left.1 right.1) =
          (mapping.mergeSort fun left right => textBefore left.1 right.1).map fun entry =>
            (entry.1, change entry.2) := by
    refine (List.map_mergeSort ?_).symm
    exact fun _ _ _ _ => rfl
  have htargets (entries : Keyed Json) :
      allPresent ((Keyed.mapValues entries (Json.mapTexts change)).map fun entry =>
        entry.2.string?.map fun text => (entry.1, text)) =
      (allPresent (entries.map fun entry => entry.2.string?.map fun text => (entry.1, text))).map
        (List.map fun entry => (entry.1, change entry.2)) := by
    rw [← allPresent_map_map, Keyed.mapValues, List.map_map]
    refine congrArg allPresent (List.map_congr_left fun entry _ => ?_)
    simp only [Function.comp_apply, Json.string?_mapTexts, Option.map_map]
    rfl
  cases value with
  | object fields =>
      simp only [Json.mapTexts_object, readDiscriminator?, bind]
      rw [text_mapValues, Keyed.get?_mapValues]
      cases (Keyed.get? fields "propertyName").bind Json.string? with
      | none => rfl
      | some name =>
          cases Keyed.get? fields "mapping" with
          | none => simp [Discriminator.mapTexts, List.mergeSort_nil]
          | some value =>
              simp only [Option.map_some, Option.bind_some, Json.object?_mapTexts]
              cases value.object? with
              | none => rfl
              | some entries =>
                  simp only [Option.map_some, Option.bind_some, htargets]
                  cases allPresent (entries.map fun entry =>
                    entry.2.string?.map fun text => (entry.1, text)) with
                  | none => rfl
                  | some mapping =>
                      simp only [Option.map_some, Option.bind_some, hsorted, List.map_map, pure,
                        Discriminator.mapTexts, Function.comp_def, h.localize]
  | array items => rw [Json.mapTexts_array]; rfl
  | null | bool | number | string => rfl

theorem readComposition?_mapValues (kind : CompositionKind) :
    readComposition? address kind (Keyed.mapValues fields (Json.mapTexts change))
        (Keyed.mapValues parts (Readings.mapTexts change)) =
      (readComposition? address kind fields parts).map (Reading.mapTexts change) := by
  have htype : KeepsKind change fun value => (TypeSpec.ofJson? value).isSome := by
    intro value
    simp only [h.ofJson?_mapTexts]
  have hinOrder : compositionInOrder kind (Keyed.mapValues fields (Json.mapTexts change)) =
      compositionInOrder kind fields := by
    simp only [compositionInOrder, allowAll_mapValues keepsKind_isTextOrNull,
      allows_mapValues keepsKind_isList, typeInOrder, allows_mapValues htype]
  have hdocs : compositionDocs kind (Keyed.mapValues fields (Json.mapTexts change)) =
      (compositionDocs kind fields).mapTexts change := by
    rw [compositionDocs, text_mapValues, docsOf_mapValues]
    rfl
  have hdiscriminator : discriminatorOf? address (Keyed.mapValues fields (Json.mapTexts change)) =
      (discriminatorOf? address fields).map (Option.map (Discriminator.mapTexts change)) := by
    rw [discriminatorOf?, discriminatorOf?, Keyed.get?_mapValues]
    cases Keyed.get? fields "discriminator" with
    | none => rfl
    | some value => exact h.readDiscriminator?_mapTexts value
  have hkept (discriminator : Option Discriminator) :
      (if kind = .allOf then none else discriminator.map (Discriminator.mapTexts change)) =
        (if kind = .allOf then none else discriminator).map (Discriminator.mapTexts change) := by
    split <;> rfl
  rw [readComposition?_eq, readComposition?_eq, readField?_mapValues asUses_mapTexts, hinOrder,
    hdocs, hdiscriminator]
  rcases readField? parts Readings.asUses kind.keyword with _ | _ | members
  · rfl
  · rfl
  · cases discriminatorOf? address fields with
    | none => rfl
    | some discriminator =>
        simp only [Option.map_some, Option.bind_some, id, hkept, compositionReading_mapTexts]
        split <;> rfl

theorem readReference?_mapValues :
    readReference? address (Keyed.mapValues fields (Json.mapTexts change)) =
      (readReference? address fields).map (Reading.mapTexts change) := by
  simp only [readReference?, text_mapValues, allowAll_mapValues keepsKind_isText, bind]
  cases (Keyed.get? fields "$ref").bind Json.string? with
  | none => rfl
  | some reference =>
      simp only [Option.map_some, Option.bind_some, h.localize, apply_ite (Option.map _)]
      rfl

theorem readListedReference?_map (items : List Json) :
    readListedReference? address (items.map (Json.mapTexts change)) =
      (readListedReference? address items).map (Reading.mapTexts change) := by
  cases items with
  | nil => rfl
  | cons first rest =>
      cases first with
      | string reference =>
          have htexts : (rest.map (Json.mapTexts change)).all isText = rest.all isText := by
            simp only [List.all_map, Function.comp_def, keepsKind_isText _]
          simp only [List.map_cons, Json.mapTexts_string, readListedReference?, htexts,
            List.length_map, h.localize, apply_ite (Option.map _)]
          rfl
      | array items => simp [readListedReference?]
      | object fields => simp [readListedReference?]
      | null | bool | number => rfl

theorem readSchema?_mapValues :
    readSchema? address (Keyed.mapValues fields (Json.mapTexts change))
        (Keyed.mapValues parts (Readings.mapTexts change)) =
      (readSchema? address fields parts).map (Reading.mapTexts change) := by
  simp only [readSchema?, h.readArray?_mapValues, h.readObject?_mapValues,
    h.readComposition?_mapValues, Option.orElse_eq_orElse, Option.orElse_eq_or, Option.map_or]

end Parts

variable (h : KeepsKeywords address change)

include h

/-- Everything that a value can be read as is read with the changed texts. -/
theorem readings_mapTexts (value : Json) :
    readings address (Json.mapTexts change value) =
      Readings.mapTexts change (readings address value) := by
  induction value using Json.induction with
  | null | bool | number | string => rfl
  | array items ih =>
      have hitems : readingsOfItems address (items.map (Json.mapTexts change)) =
          (readingsOfItems address items).map (Readings.mapTexts change) := by
        simp only [readingsOfItems_eq, List.map_map]
        exact List.map_congr_left ih
      have hparts (facet : Facet Reading) (hfacet : ∀ readings,
          facet (Readings.mapTexts change readings) =
            (facet readings).map (Reading.mapTexts change)) :
          allPresent (((readingsOfItems address items).map (Readings.mapTexts change)).map facet) =
            (allPresent ((readingsOfItems address items).map facet)).map
              (List.map (Reading.mapTexts change)) := by
        rw [← allPresent_map_map, List.map_map]
        exact congrArg allPresent (List.map_congr_left fun readings _ => hfacet readings)
      rw [Json.mapTexts_array, readings, readings, hitems, itemsReadings, itemsReadings,
        h.readListedReference?_map, hparts _ asUse_mapTexts, hparts _ asSchema_mapTexts]
      rfl
  | object fields ih =>
      have hfields : readingsOfFields address (Keyed.mapValues fields (Json.mapTexts change)) =
          Keyed.mapValues (readingsOfFields address fields) (Readings.mapTexts change) := by
        simp only [readingsOfFields_eq, Keyed.mapValues, List.map_map]
        exact List.map_congr_left fun entry hentry => congrArg (Prod.mk entry.1) (ih entry hentry)
      have hnamed (parts : Keyed Readings) :
          allPresent ((Keyed.mapValues parts (Readings.mapTexts change)).map fun entry =>
            entry.2.asUse.map fun reading => (entry.1, reading)) =
          (allPresent (parts.map fun entry => entry.2.asUse.map fun reading =>
            (entry.1, reading))).map fun found =>
              Keyed.mapValues found (Reading.mapTexts change) := by
        refine Eq.trans ?_ (allPresent_map_map parts _ _)
        rw [Keyed.mapValues, List.map_map]
        refine congrArg allPresent (List.map_congr_left fun entry _ => ?_)
        simp only [Function.comp_apply, asUse_mapTexts, Option.map_map]
        rfl
      rw [Json.mapTexts_object, readings, readings, hfields, fieldsReadings, fieldsReadings,
        h.readSchema?_mapValues, h.readReference?_mapValues, hnamed]
      simp only [Readings.mapTexts, Option.orElse_eq_orElse, Option.orElse_eq_or, Option.map_or]
      rfl

/-- A schema with changed texts is converted to what the schema is, with the texts changed. -/
theorem converted_mapTexts (schema : Json) :
    converted address (Json.mapTexts change schema) =
      ⟨SchemaUse.mapTexts change (converted address schema).use,
        (converted address schema).nullable⟩ := by
  rw [converted, converted, convert, convert, h.normalizeSchema_mapTexts, h.shape_mapTexts,
    h.readings_mapTexts, asUse_mapTexts]
  cases (readings address (shape (normalizeSchema schema))).asUse <;> rfl

end KeepsKeywords

end Document

end SchemaGraph
