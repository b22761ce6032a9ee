import SchemaGraph.Proofs.Document.Names

/-!
# Subschemas in their places

A subschema stands in a schema as a property, as the items of a list, as the schema of additional
properties or as a member of a composition. When it is changed so that it is read as before, up to a
change to the schema it is read as, the schema around it is read as before, up to this change in the
place that the subschema has there.
-/

namespace SchemaGraph

/-- A change to a schema in place. References stay as they are. -/
def Use.mapInline {definition : Type} (change : definition → definition) :
    Use definition → Use definition
  | .named reference => .named reference
  | .inline schema => .inline (change schema)

namespace Document

open Keyed (AgreeOff)

variable {address : Option String} {fields other : Keyed Json} {key : String} {value new : Json}

/-- The reading with a change to the schema that is used in place. -/
def Reading.mapInline (change : Schema → Schema) (reading : Reading) : Reading :=
  { reading with use := reading.use.mapInline change }

/-- A place for a subschema inside a schema. -/
inductive Place where
  | property (name : String)
  | items
  /-- The schema of additional properties, which the values of a map have. -/
  | values
  | member (kind : CompositionKind) (index : Nat)

/-- Change the item of a list with the given index. -/
def changeItem (index : Nat) (change : Json → Json) : Json → Json
  | .array items => .array (items.modify index change)
  | value => value

/-- Change the subschema in a place. -/
def Place.changeFields (change : Json → Json) (fields : Keyed Json) : Place → Keyed Json
  | .property name =>
      Keyed.modify fields "properties" (onObject fun properties =>
        Keyed.modify properties name change)
  | .items => Keyed.modify fields "items" change
  | .values => Keyed.modify fields "additionalProperties" change
  | .member kind index => Keyed.modify fields kind.keyword (changeItem index change)

/-- Change the schema in a place, if it is used in place there. -/
def Place.changeSchema (change : Schema → Schema) : Place → Schema → Schema
  | .property name, .object object =>
      .object { object with
        properties := Keyed.modify object.properties name (Use.mapInline change) }
  | .items, .array element => .array (element.mapInline change)
  | .values, .map element => .map (element.mapInline change)
  | .member kind index, .composition parts =>
      if parts.kind = kind then
        .composition { parts with members := parts.members.modify index (Use.mapInline change) }
      else .composition parts
  | _, schema => schema

/-- A choice without members, which is what a choice between `null` and `null` is read as. -/
def emptyChoice : Schema := .composition ⟨.anyOf, [], none, Docs.none⟩

/-- A change that leaves schemas without parts as they are. -/
structure KeepsEmpty (change : Schema → Schema) : Prop where
  any_eq : change .any = .any
  emptyChoice_eq : change emptyChoice = emptyChoice

theorem KeepsEmpty.changeSchema {change : Schema → Schema} (place : Place) :
    KeepsEmpty (place.changeSchema change) := by
  constructor
  · cases place <;> rfl
  · cases place with
    | property | items | values => rfl
    | member kind index => cases kind <;> simp [Place.changeSchema, emptyChoice]

/-- Change the schema at the end of a path of places. -/
def changeAlong (path : List Place) (change : Schema → Schema) : Schema → Schema :=
  path.foldr (fun place change => place.changeSchema change) change

theorem changeAlong_append (first second : List Place) (change : Schema → Schema) :
    changeAlong (first ++ second) change = changeAlong first (changeAlong second change) :=
  List.foldr_append

theorem KeepsEmpty.changeAlong {change : Schema → Schema} (h : KeepsEmpty change)
    (path : List Place) :
    KeepsEmpty (changeAlong path change) := by
  cases path with
  | nil => exact h
  | cons place path => exact .changeSchema place

/-- Fields that have another value under one key. -/
structure OtherValue (key : String) (fields other : Keyed Json) (value new : Json) : Prop where
  left : Keyed.Distinct fields
  right : Keyed.Distinct other
  agree : AgreeOff [key] fields other
  value_eq : Keyed.get? fields key = some value
  new_eq : Keyed.get? other key = some new

namespace OtherValue

theorem has_eq (h : OtherValue key fields other value new) (name : String) :
    Keyed.has fields name = Keyed.has other name := by
  by_cases hname : name = key
  · rw [hname, Keyed.has, Keyed.has, h.value_eq, h.new_eq]
    rfl
  · exact h.agree.has_eq (by simpa using hname)

/-- Fields with another value have another one in normal form. -/
theorem normalFields (h : OtherValue key fields other value new) (hkey : key ∉ passKeys)
    (hsettle : key ∉ settleKeys) :
    isFlagged fields = isFlagged other ∧
      OtherValue key (normalFields fields) (normalFields other)
        (settle (mapField replaceBoolean key value))
        (settle (mapField replaceBoolean key new)) := by
  have haside : ∀ name ∈ settleKeys, name ∉ [key] := by
    intro name hname hmem
    exact hsettle (List.mem_singleton.1 hmem ▸ hname)
  obtain ⟨hflagged, hagree⟩ := agreeOff_normalFields haside h.left h.right h.agree
  refine ⟨hflagged, distinct_normalFields h.left, distinct_normalFields h.right, hagree, ?_, ?_⟩
  · rw [get?_normalFields h.left hkey, h.value_eq]
    rfl
  · rw [get?_normalFields h.right hkey, h.new_eq]
    rfl

end OtherValue

theorem OtherValue.mapped (h : OtherValue key fields other value new)
    (step : Bool → Json → Json) :
    OtherValue key (mapSchemaFields step fields) (mapSchemaFields step other)
      (mapField step key value) (mapField step key new) := by
  refine ⟨distinct_mapSchemaFields _ h.left, distinct_mapSchemaFields _ h.right,
    agreeOff_mapSchemaFields _ h.agree, ?_, ?_⟩
  · rw [get?_mapSchemaFields, h.value_eq]
    rfl
  · rw [get?_mapSchemaFields, h.new_eq]
    rfl

/-- Fields with another value have another one in shape. -/
theorem OtherValue.shapedFields (h : OtherValue key fields other value new) (htype : key ≠ "type")
    (henum : key ≠ "enum") :
    OtherValue key (shapedFields fields) (shapedFields other) (mapField shapeStep key value)
      (mapField shapeStep key new) := by
  have hmapped := h.mapped shapeStep
  have himplied : impliedType (mapSchemaFields shapeStep fields) =
      impliedType (mapSchemaFields shapeStep other) := by
    have hhas : Keyed.has (mapSchemaFields shapeStep fields) =
        Keyed.has (mapSchemaFields shapeStep other) := funext hmapped.has_eq
    rw [impliedType, impliedType, hhas, hmapped.agree "enum" (by simpa using henum.symm)]
  have hagree : AgreeOff [key] (Document.shapedFields fields) (Document.shapedFields other) := by
    simp only [Document.shapedFields, putIfMissing, himplied, hmapped.has_eq "type"]
    split
    · exact hmapped.agree
    · exact (hmapped.agree.cons "type").put _
  refine ⟨distinct_shapedFields h.left, distinct_shapedFields h.right, hagree, ?_, ?_⟩
  · rw [get?_shapedFields htype, h.value_eq]
    rfl
  · rw [get?_shapedFields htype, h.new_eq]
    rfl


/-- A choice between a schema and `null` is read as before, up to a change to its schema. -/
theorem asUse_orNull_other {change : Schema → Schema} (hchange : KeepsEmpty change)
    (h : (readings address new).asUse =
      (readings address value).asUse.map (Reading.mapInline change)) :
    (readings address (orNull new)).asUse =
      (readings address (orNull value)).asUse.map (Reading.mapInline change) := by
  rw [asUse_orNull_eq, asUse_orNull_eq, h]
  cases (readings address value).asUse with
  | none => rfl
  | some reading =>
      simp only [Option.map_some, Option.some.injEq]
      cases hnull : reading.isNull with
      | false =>
          have hchanged : (reading.mapInline change).isNull = false := hnull
          rw [compositionReading_orNull (by decide) hnull (.inl rfl),
            compositionReading_orNull (by decide) hchanged (.inl rfl)]
          rfl
      | true =>
          -- Nothing is left of the choice on either side.
          have hchanged : (reading.mapInline change).isNull = true := hnull
          have hempty {member : Reading} (h : member.isNull = true) :
              compositionReading .anyOf [member, ⟨.inline .any, true, true⟩] none Docs.none =
                .inPlace emptyChoice true := by
            simp [compositionReading, compositionParts, h, emptyChoice]
          rw [hempty hnull, hempty hchanged, Reading.mapInline, Reading.inPlace, Use.mapInline,
            hchange.emptyChoice_eq]

section Plain

variable {change : Schema → Schema} {reading : Reading}

/-- Only objects and lists can be read. -/
theorem kind_of_asUse (h : (readings address value).asUse = some reading) :
    value.bool? = none ∧ value.isNull = false := by
  cases value with
  | object | array => exact ⟨rfl, rfl⟩
  | null | bool | number | string => cases h

/-- Other items of a list that are read as before, up to a change to their schema. -/
theorem itemsOf?_other (h : OtherValue "items" fields other value new)
    (hread : (readings address value).asUse = some reading)
    (hnew : (readings address new).asUse = some (reading.mapInline change)) :
    itemsOf? other (readingsOfFields address other) =
      (itemsOf? fields (readingsOfFields address fields)).map (Use.mapInline change) := by
  have hagree := h.agree
  simp only [AgreeOff, List.mem_singleton] at hagree
  have hflag (value : Json) {reading : Reading}
      (h : (readings address value).asUse = some reading) : value.bool? ≠ some false := by
    rw [(kind_of_asUse h).1]
    simp
  simp only [itemsOf?, h.value_eq, h.new_eq, readField?, get?_readingsOfFields, Option.map_some,
    hread, hnew, hflag _ hread, hflag _ hnew, if_false, bind, Option.bind_some, Option.map_bind,
    Function.comp_def, apply_ite (Option.map _), Option.map_none]
  simp [allowAll, allows, hagree, Reading.mapInline]

/-- The schema of additional properties with a change to it in place. -/
def Additional.mapInline (change : Schema → Schema) : Additional → Additional
  | .typed use => .typed (use.mapInline change)
  | .free => .free
  | .absent => .absent

/-- Another schema for additional properties that is read as before, up to a change to it. -/
theorem additionalOf?_other (h : OtherValue "additionalProperties" fields other value new)
    (hread : (readings address value).asUse = some reading)
    (hnew : (readings address new).asUse = some (reading.mapInline change)) :
    additionalOf? other (readingsOfFields address other) =
      (additionalOf? fields (readingsOfFields address fields)).map
        (Additional.mapInline change) := by
  have hagree := h.agree
  simp only [AgreeOff, List.mem_singleton] at hagree
  have htyped {fields : Keyed Json} {value : Json} {reading : Reading}
      (h : Keyed.get? fields "additionalProperties" = some value)
      (hread : (readings address value).asUse = some reading) :
      readAdditional? fields (readingsOfFields address fields) = some (.typed reading.use) := by
    cases value with
    | object | array =>
        simp [readAdditional?, readField?, get?_readingsOfFields, h, hread]
    | null | bool | number | string => cases hread
  simp only [additionalOf?, htyped h.value_eq hread, htyped h.new_eq hnew, bind, Option.bind_some]
  simp [readFieldUnless?, readField?, get?_readingsOfFields, objectInOrder, allowAll, allows,
    hagree, Function.comp_def, apply_ite (Option.map _), Additional.mapInline, Reading.mapInline]

/-- An object schema stands for a list only of items that are not said to be of a type. -/
theorem changeSchema_items_schemaOfType (hany : change .any = .any) (type : Option TypeWord)
    (found : Keyed Reading) (additional : Additional) :
    Place.items.changeSchema change (schemaOfType fields type found additional) =
      schemaOfType fields type found additional := by
  have hstructured (typed : Bool) :
      Place.items.changeSchema change (structuredSchema fields typed found additional) =
        structuredSchema fields typed found additional := by
    unfold structuredSchema untypedSchema
    split
    · rfl
    · rfl
    · split
      · split <;> rfl
      · rfl
  cases type with
  | none => exact hstructured false
  | some word =>
      cases word with
      | object => exact hstructured true
      | array => simp only [schemaOfType, Place.changeSchema, Use.mapInline, hany]
      | string | integer | number | boolean | null => rfl

/-- An object schema stands for a map of the values that its additional properties have. -/
theorem changeSchema_values_schemaOfType (hany : change .any = .any) (type : Option TypeWord)
    (found : Keyed Reading) (additional : Additional) :
    schemaOfType fields type found (additional.mapInline change) =
      Place.values.changeSchema change (schemaOfType fields type found additional) := by
  have huntyped :
      Place.values.changeSchema change (untypedSchema fields) = untypedSchema fields := by
    unfold untypedSchema
    split <;> rfl
  have hstructured (typed : Bool) :
      structuredSchema fields typed found (additional.mapInline change) =
        Place.values.changeSchema change (structuredSchema fields typed found additional) := by
    cases found with
    | cons entry rest =>
        rw [structuredSchema_cons, structuredSchema_cons]
        rfl
    | nil =>
        cases additional with
        | typed use => rfl
        | free =>
            simp [structuredSchema, Additional.mapInline, Place.changeSchema, Use.mapInline, hany]
        | absent =>
            rw [Additional.mapInline, structuredSchema_absent]
            split
            · exact huntyped.symm
            · rfl
  cases type with
  | none => exact hstructured false
  | some word =>
      cases word with
      | object => exact hstructured true
      | string | integer | number | boolean | array | null => rfl

theorem OtherValue.isPlain (h : OtherValue key fields other value new) (hplain : IsPlain fields)
    (hreference : key ≠ "$ref") (hkinds : ∀ kind : CompositionKind, key ≠ kind.keyword) :
    IsPlain other := by
  refine ⟨?_, fun kind => ?_⟩
  · rw [← h.agree "$ref" (by simpa using hreference.symm), hplain.1]
  · rw [← h.agree kind.keyword (by simpa using (hkinds kind).symm), hplain.2]

/-- Other items of a list that are read as before, up to a change to their schema, change the list
by this change in its items. -/
theorem IsPlain.readingOf?_items (hplain : IsPlain fields)
    (h : OtherValue "items" fields other value new)
    (hread : readingOf? address value = some reading)
    (hnew : readingOf? address new = some (reading.mapInline change)) (hany : change .any = .any) :
    readingOf? address (.object other) =
      (readingOf? address (.object fields)).map
        (Reading.mapInline (Place.items.changeSchema change)) := by
  have hother := h.isPlain hplain (by decide) (by intro kind; cases kind <;> decide)
  have hshaped := h.shapedFields (by decide) (by decide)
  have haside := hshaped.agree.mono (show _ ⊆ propertiesAside by decide)
  have htype : typeOf? (shapedFields other) = typeOf? (shapedFields fields) := by
    rw [typeOf?, typeOf?, hshaped.agree "type" (by decide)]
  rw [readingOf?, readingOf?, hplain.shape_eq, hother.shape_eq,
    asUse_plain hplain.shaped.1 hplain.shaped.2, asUse_plain hother.shaped.1 hother.shaped.2,
    readArray?_eq, readArray?_eq, readObject?_eq, readObject?_eq, htype,
    itemsOf?_other hshaped hread hnew,
    ← propertiesOf?_congr haside (agreeOff_readingsOfFields address haside)]
  simp only [← schemaOfType_congr (hshaped.agree.mono (show _ ⊆ schemaAside by decide))]
  cases typeOf? (shapedFields fields) with
  | none => rfl
  | some type =>
      cases itemsOf? (shapedFields fields) (readingsOfFields address (shapedFields fields)) with
      | some use => rfl
      | none =>
          cases propertiesOf? (shapedFields fields)
            (readingsOfFields address (shapedFields fields)) with
          | none => rfl
          | some found =>
              simp [Reading.mapInline, Use.mapInline, changeSchema_items_schemaOfType hany]

/-- Another schema for additional properties that is read as before, up to a change to it, changes a
map by this change in its values. -/
theorem IsPlain.readingOf?_values (hplain : IsPlain fields)
    (h : OtherValue "additionalProperties" fields other value new)
    (hread : readingOf? address value = some reading)
    (hnew : readingOf? address new = some (reading.mapInline change)) (hany : change .any = .any) :
    readingOf? address (.object other) =
      (readingOf? address (.object fields)).map
        (Reading.mapInline (Place.values.changeSchema change)) := by
  have hother := h.isPlain hplain (by decide) (by intro kind; cases kind <;> decide)
  have hshaped := h.shapedFields (by decide) (by decide)
  have hfield : mapField shapeStep "additionalProperties" value = shape value := by
    cases value <;> rfl
  have hfield' : mapField shapeStep "additionalProperties" new = shape new := by
    cases new <;> rfl
  rw [hfield, hfield'] at hshaped
  have haside := hshaped.agree.mono (show _ ⊆ itemsAside by decide)
  have htype : typeOf? (shapedFields other) = typeOf? (shapedFields fields) := by
    rw [typeOf?, typeOf?, hshaped.agree "type" (by decide)]
  have hproperties : readField? (readingsOfFields address (shapedFields other)) Readings.asNamedUses
      "properties" = readField? (readingsOfFields address (shapedFields fields))
        Readings.asNamedUses "properties" := by
    rw [readField?, readField?, get?_readingsOfFields, get?_readingsOfFields,
      hshaped.agree "properties" (by decide)]
  rw [readingOf?, readingOf?, hplain.shape_eq, hother.shape_eq,
    asUse_plain hplain.shaped.1 hplain.shaped.2, asUse_plain hother.shaped.1 hother.shaped.2,
    readArray?_eq, readArray?_eq, readObject?_eq, readObject?_eq, htype,
    ← itemsOf?_congr haside (agreeOff_readingsOfFields address haside),
    propertiesOf?, propertiesOf?, hproperties, additionalOf?_other hshaped hread hnew]
  simp only [← schemaOfType_congr (hshaped.agree.mono (show _ ⊆ schemaAside by decide))]
  cases typeOf? (shapedFields fields) with
  | none => rfl
  | some type =>
      cases itemsOf? (shapedFields fields) (readingsOfFields address (shapedFields fields)) with
      | some use => rfl
      | none =>
          cases readField? (readingsOfFields address (shapedFields fields)) Readings.asNamedUses
            "properties" with
          | none => rfl
          | some found =>
              cases additionalOf? (shapedFields fields)
                (readingsOfFields address (shapedFields fields)) with
              | none => rfl
              | some additional =>
                  simp [Reading.mapInline, Use.mapInline, changeSchema_values_schemaOfType hany]

end Plain

/-- A list of items is there when those of its parts are. -/
theorem allPresent_append {α : Type} (first second : List (Option α)) :
    allPresent (first ++ second) =
      (allPresent first).bind fun found => (allPresent second).map (found ++ ·) := by
  induction first with
  | nil => simp [allPresent]
  | cons item rest ih =>
      cases item with
      | none => rfl
      | some value =>
          rw [List.cons_append, allPresent, ih, allPresent]
          cases allPresent rest <;> simp [Function.comp_def]

/-- Whether a composition of these members is just the one that is not `null`. -/
def unwraps (kind : CompositionKind) (members : List Reading) : Bool :=
  match kind, compositionParts kind members with
  | .allOf, _ => false
  | _, ([_], true) => true
  | _, _ => false

/-- The place that a member of a composition has in the schema that the composition is read as. -/
def memberPlaces (kind : CompositionKind) (before : List Reading) (reading : Reading)
    (after : List Reading) : List Place :=
  if unwraps kind (before ++ reading :: after) then []
  else [.member kind (before.filter fun member => !member.isNull).length]

section Composed

variable {change : Schema → Schema} {reading : Reading} {kind : CompositionKind}

theorem modify_length_append {α : Type} (before : List α) (item : α) (after : List α) (f : α → α) :
    (before ++ item :: after).modify before.length f = before ++ f item :: after := by
  induction before with
  | nil => rfl
  | cons first rest ih => simp [ih]

/-- A member that is read as before, up to a change to its schema, changes the composition by this
change in the place that the member has there. -/
theorem compositionReading_other (kind : CompositionKind) (before after : List Reading)
    (hnull : reading.isNull = false) (discriminator : Option Discriminator) (docs : Docs) :
    compositionReading kind (before ++ reading.mapInline change :: after) discriminator docs =
      (compositionReading kind (before ++ reading :: after) discriminator docs).mapInline
        (changeAlong (memberPlaces kind before reading after) change) := by
  have hnullable : (compositionParts kind (before ++ reading.mapInline change :: after)).2 =
      (compositionParts kind (before ++ reading :: after)).2 := by
    simp [compositionParts, hnull, Reading.mapInline]
  have hparts {member : Reading} (hnull : member.isNull = false) :
      compositionParts kind (before ++ member :: after) =
        ((before.filter fun member => !member.isNull).map Reading.use ++ member.use ::
          (after.filter fun member => !member.isNull).map Reading.use,
          (compositionParts kind (before ++ member :: after)).2) := by
    simp [compositionParts, hnull]
  have hlength : (before.filter fun member => !member.isNull).length =
      ((before.filter fun member => !member.isNull).map Reading.use).length :=
    List.length_map _ |>.symm
  have hchanged : (reading.mapInline change).isNull = false := hnull
  unfold compositionReading memberPlaces unwraps
  rw [hparts hchanged, hparts hnull, hnullable, hlength]
  generalize (before.filter fun member => !member.isNull).map Reading.use = first
  generalize (after.filter fun member => !member.isNull).map Reading.use = last
  generalize (compositionParts kind (before ++ reading :: after)).2 = nullable
  have hcomposition (kind : CompositionKind) (discriminator : Option Discriminator) :
      Reading.inPlace (.composition
          ⟨kind, first ++ (reading.mapInline change).use :: last, discriminator, docs⟩) nullable =
        (Reading.inPlace (.composition ⟨kind, first ++ reading.use :: last, discriminator, docs⟩)
          nullable).mapInline (changeAlong [.member kind first.length] change) := by
    simp [Reading.mapInline, Reading.inPlace, Use.mapInline, changeAlong, Place.changeSchema,
      modify_length_append]
  cases kind with
  | allOf => exact hcomposition .allOf discriminator
  | oneOf | anyOf =>
      rcases first with _ | ⟨one, first⟩
      · rcases last with _ | ⟨next, last⟩
        · cases nullable with
          | true => rfl
          | false => exact hcomposition _ discriminator
        · exact hcomposition _ discriminator
      · rcases first with _ | ⟨two, first⟩
        · exact hcomposition _ discriminator
        · exact hcomposition _ discriminator

/-- A schema that is a composition of this kind and nothing else. -/
structure IsComposed (kind : CompositionKind) (fields : Keyed Json) : Prop where
  noReference : Keyed.get? fields "$ref" = none
  noOther : ∀ other : CompositionKind, other ≠ kind → Keyed.get? fields other.keyword = none

/-- Other members of a composition are other members of it in shape, beside the one that an `allOf`
takes its own keywords into. -/
theorem composedFields_other {members changed : List Json}
    (h : OtherValue kind.keyword fields other (.array members) (.array changed)) :
    ∃ own, (kind ≠ .allOf → own = []) ∧
      AgreeOff [kind.keyword] (composedFields kind.keyword fields)
        (composedFields kind.keyword other) ∧
      Keyed.get? (composedFields kind.keyword fields) kind.keyword =
        some (.array (members ++ own)) ∧
      Keyed.get? (composedFields kind.keyword other) kind.keyword =
        some (.array (changed ++ own)) := by
  have hagree := composedFields_congr (h.agree.cons "type") h.left h.right
    (by cases kind <;> decide) kind.keyword
  have huntyped {fields : Keyed Json} (hfields : Keyed.Distinct fields) :
      Keyed.get? (Keyed.swapOut fields "type") kind.keyword = Keyed.get? fields kind.keyword := by
    rw [hfields.get?_swapOut, if_neg (by cases kind <;> decide)]
  cases kind with
  | oneOf =>
      refine ⟨[], fun _ => rfl, hagree, ?_, ?_⟩
      · rw [List.append_nil]
        exact (huntyped h.left).trans h.value_eq
      · rw [List.append_nil]
        exact (huntyped h.right).trans h.new_eq
  | anyOf =>
      have hkept {fields : Keyed Json} (hfields : Keyed.Distinct fields) :
          Keyed.get? (composedFields "anyOf" fields) "anyOf" = Keyed.get? fields "anyOf" :=
        (get?_keepTitle (hfields.swapOut _) (by decide)).trans (huntyped hfields)
      refine ⟨[], fun _ => rfl, hagree, ?_, ?_⟩
      · rw [List.append_nil]
        exact (hkept h.left).trans h.value_eq
      · rw [List.append_nil]
        exact (hkept h.right).trans h.new_eq
  | allOf =>
      have hswapped := (h.agree.cons "type").swapOut h.left h.right
      obtain ⟨htaken, -⟩ := takeFields_congr objectKeys hswapped (h.left.swapOut "type")
        (h.right.swapOut "type") (by decide)
      have hleft {fields : Keyed Json} (hfields : Keyed.Distinct fields) :
          Keyed.get? (takeFields objectKeys (Keyed.swapOut fields "type")).2 "allOf" =
            Keyed.get? fields "allOf" :=
        (get?_takeFields objectKeys (hfields.swapOut _) (by decide)).trans (huntyped hfields)
      have hmembers := (hleft h.left).trans h.value_eq
      have hchanged := (hleft h.right).trans h.new_eq
      cases hown : (takeFields objectKeys (Keyed.swapOut fields "type")).1.isEmpty with
      | true =>
          refine ⟨[], fun _ => rfl, hagree, ?_, ?_⟩
          · simpa [composedFields, moveOwnKeywords, CompositionKind.keyword, hown] using hmembers
          · simpa [composedFields, moveOwnKeywords, CompositionKind.keyword, ← htaken, hown] using
              hchanged
      | false =>
          refine ⟨[.object ((takeFields objectKeys (Keyed.swapOut fields "type")).1 ++
            [("type", .string "object")])], fun h => absurd rfl h, hagree, ?_, ?_⟩
          · simp [composedFields, moveOwnKeywords, CompositionKind.keyword, hown,
              Keyed.get?_modify, hmembers, addMember]
          · simp [composedFields, moveOwnKeywords, CompositionKind.keyword, ← htaken, hown,
              Keyed.get?_modify, hchanged, addMember]

/-- In shape a composition is read from its members. -/
theorem IsComposed.asUse_composedFields (h : IsComposed kind fields)
    (hfields : Keyed.Distinct fields) :
    (readings address (.object (composedFields kind.keyword fields))).asUse =
      readComposition? address kind (composedFields kind.keyword fields)
        (readingsOfFields address (composedFields kind.keyword fields)) := by
  have hreference : Keyed.get? (composedFields kind.keyword fields) "$ref" = none := by
    rw [get?_composedFields kind hfields (by cases kind <;> decide), h.noReference]
  have hother (other : CompositionKind) (hne : other ≠ kind) :
      readComposition? address other (composedFields kind.keyword fields)
        (readingsOfFields address (composedFields kind.keyword fields)) = none := by
    refine readComposition?_of_missing ?_
    rw [get?_composedFields kind hfields (by revert hne; cases other <;> cases kind <;> decide),
      h.noOther other hne]
  have harray : readArray? (composedFields kind.keyword fields)
      (readingsOfFields address (composedFields kind.keyword fields)) = none := by
    rw [readArray?_eq, typeOf?_composedFields hfields, Option.bind_none]
  have hobject : readObject? (composedFields kind.keyword fields)
      (readingsOfFields address (composedFields kind.keyword fields)) = none := by
    rw [readObject?_eq, typeOf?_composedFields hfields, Option.bind_none]
  simp only [readings, fieldsReadings, readReference?, hreference, readSchema?, harray, hobject]
  cases kind with
  | oneOf => simp [hother .allOf (by decide), hother .anyOf (by decide)]
  | allOf => simp [hother .oneOf (by decide), hother .anyOf (by decide)]
  | anyOf => simp [hother .oneOf (by decide), hother .allOf (by decide)]

theorem readField?_members {members : List Json}
    (h : Keyed.get? fields kind.keyword = some (.array members)) :
    readField? (readingsOfFields address fields) Readings.asUses kind.keyword =
      (allPresent (members.map fun member => (readings address member).asUse)).map some := by
  rw [readField?, get?_readingsOfFields, h, Option.map_some]
  simp only [readings, itemsReadings, readingsOfItems_eq, List.map_map, Function.comp_def]

/-- A composition cannot be read when one of its members cannot. -/
theorem readComposition?_of_unread {members : List Json}
    (h : Keyed.get? fields kind.keyword = some (.array members))
    (hunread : allPresent (members.map fun member => (readings address member).asUse) = none) :
    readComposition? address kind fields (readingsOfFields address fields) = none := by
  rw [readComposition?_eq, readField?_members h, hunread]
  rfl

/-- Other members of a composition change what it is read as like they change the composition. -/
theorem readComposition?_other {members changed : List Json} {found new : List Reading}
    {change : Schema → Schema} (hagree : AgreeOff [kind.keyword] fields other)
    (hmembers : Keyed.get? fields kind.keyword = some (.array members))
    (hchanged : Keyed.get? other kind.keyword = some (.array changed))
    (hfound : allPresent (members.map fun member => (readings address member).asUse) = some found)
    (hnew : allPresent (changed.map fun member => (readings address member).asUse) = some new)
    (hcomposition : ∀ discriminator docs, compositionReading kind new discriminator docs =
      (compositionReading kind found discriminator docs).mapInline change) :
    readComposition? address kind other (readingsOfFields address other) =
      (readComposition? address kind fields (readingsOfFields address fields)).map
        (Reading.mapInline change) := by
  have hdiscriminator : discriminatorOf? address other = discriminatorOf? address fields := by
    rw [discriminatorOf?, discriminatorOf?, hagree "discriminator" (by cases kind <;> decide)]
  have hkept {key : String} (hkey : key ∉ compositionKeys) :
      Keyed.get? fields key = Keyed.get? other key :=
    hagree key fun hmem => hkey (by
      rw [List.mem_singleton.1 hmem]
      cases kind <;> decide)
  have hinOrder : compositionInOrder kind other = compositionInOrder kind fields := by
    simp only [compositionInOrder, typeInOrder, allowAll, allows, List.all_cons,
      hkept (show "description" ∉ compositionKeys by decide),
      hkept (show "examples" ∉ compositionKeys by decide),
      hkept (show "type" ∉ compositionKeys by decide)]
    cases kind <;> simp [allows, hkept (show "title" ∉ compositionKeys by decide)]
  have hdocs : compositionDocs kind other = compositionDocs kind fields := by
    simp only [compositionDocs, docsOf, hkept (show "description" ∉ compositionKeys by decide)]
    cases kind <;> simp [hkept (show "title" ∉ compositionKeys by decide),
      hkept (show anyOfTitleKey ∉ compositionKeys by decide)]
  rw [readComposition?_eq, readComposition?_eq, readField?_members hmembers,
    readField?_members hchanged, hfound, hnew, hdiscriminator, hinOrder, hdocs]
  simp only [Option.map_some, Option.bind_some, id, hcomposition]
  cases discriminatorOf? address fields with
  | none => rfl
  | some discriminator => simp [apply_ite (Option.map _)]

theorem IsComposed.mapped {step : Bool → Json → Json} (h : IsComposed kind fields) :
    IsComposed kind (mapSchemaFields step fields) := by
  refine ⟨?_, fun other hne => ?_⟩
  · rw [get?_mapSchemaFields, h.noReference, Option.map_none]
  · rw [get?_mapSchemaFields, h.noOther other hne, Option.map_none]

/-- In shape a composition is read from its members, unless its type makes it a choice. -/
theorem IsComposed.shape_eq (h : IsComposed kind fields)
    (hmembers : Keyed.has fields kind.keyword) :
    shape (.object fields) =
      shapeComposition kind.keyword (mapSchemaFields shapeStep fields) := by
  have hhas (key : String) :
      Keyed.has (mapSchemaFields shapeStep fields) key = Keyed.has fields key := by
    rw [Keyed.has, get?_mapSchemaFields, Option.isSome_map, Keyed.has]
  have hreference : Keyed.has fields "$ref" = false := by rw [Keyed.has, h.noReference]; rfl
  have hother (other : CompositionKind) (hne : other ≠ kind) :
      Keyed.has fields other.keyword = false := by
    rw [Keyed.has, h.noOther other hne]
    rfl
  have hkeyword : compositionKeys.find? (Keyed.has (mapSchemaFields shapeStep fields)) =
      some kind.keyword := by
    cases kind with
    | allOf => simp [compositionKeys, hhas, show Keyed.has fields "allOf" from hmembers,
        CompositionKind.keyword]
    | oneOf => simp [compositionKeys, hhas, show Keyed.has fields "oneOf" from hmembers,
        show Keyed.has fields "allOf" = false from hother .allOf (by decide),
        CompositionKind.keyword]
    | anyOf => simp [compositionKeys, hhas, show Keyed.has fields "anyOf" from hmembers,
        show Keyed.has fields "allOf" = false from hother .allOf (by decide),
        show Keyed.has fields "oneOf" = false from hother .oneOf (by decide),
        CompositionKind.keyword]
  rw [shape_object, shapeFields, hhas, hreference, hkeyword]
  rfl

/-- A member of a composition that is read as before, up to a change to its schema, changes the
composition by this change in the place that the member has there. -/
theorem IsComposed.readingOf?_member {before after : List Json}
    {foundBefore foundAfter : List Reading}
    (hcomposed : IsComposed kind fields) (hcomposed' : IsComposed kind other)
    (h : OtherValue kind.keyword fields other (.array (before ++ value :: after))
      (.array (before ++ new :: after)))
    (hbefore : allPresent (before.map (readingOf? address)) = some foundBefore)
    (hread : readingOf? address value = some reading)
    (hafter : allPresent (after.map (readingOf? address)) = some foundAfter)
    (hnull : reading.isNull = false)
    (hnew : readingOf? address new = some (reading.mapInline change))
    (hchange : KeepsEmpty change) :
    readingOf? address (.object other) =
      (readingOf? address (.object fields)).map (Reading.mapInline
        (changeAlong (memberPlaces kind foundBefore reading foundAfter) change)) := by
  have hshaped (members : List Json) : mapField shapeStep kind.keyword (.array members) =
      .array (members.map shape) := by
    have hmapped : mapSchemaList shapeStep (.array members) = .array (members.map shape) :=
      congrArg Json.array (mapSchemas_eq shapeStep members)
    cases kind <;> exact hmapped
  have hmapped := h.mapped shapeStep
  rw [hshaped, hshaped] at hmapped
  obtain ⟨own, hown, hagree, hmembers, hchanged⟩ := composedFields_other hmapped
  have hhas : Keyed.has fields kind.keyword := by rw [Keyed.has, h.value_eq]; rfl
  have hhas' : Keyed.has other kind.keyword := by rw [Keyed.has, h.new_eq]; rfl
  have hcomposedFields :
      (readings address (.object (composedFields kind.keyword
          (mapSchemaFields shapeStep other)))).asUse =
        (readings address (.object (composedFields kind.keyword
          (mapSchemaFields shapeStep fields)))).asUse.map (Reading.mapInline
            (changeAlong (memberPlaces kind foundBefore reading foundAfter) change)) := by
    rw [hcomposed.mapped.asUse_composedFields hmapped.left,
      hcomposed'.mapped.asUse_composedFields hmapped.right]
    have hpresent {value : Json} {reading : Reading}
        (hread : readingOf? address value = some reading) :
        allPresent (((before ++ value :: after).map shape ++ own).map fun member =>
          (readings address member).asUse) =
            (allPresent (own.map fun member => (readings address member).asUse)).map
              fun more => foundBefore ++ reading :: (foundAfter ++ more) := by
      have hshape (members : List Json) : (members.map shape).map
          (fun member => (readings address member).asUse) = members.map (readingOf? address) :=
        List.map_map
      rw [List.map_append, hshape, List.map_append, List.map_cons, hread, List.append_assoc,
        allPresent_append, hbefore, List.cons_append, allPresent, allPresent_append, hafter]
      simp [Function.comp_def]
    cases hmore : allPresent (own.map fun member => (readings address member).asUse) with
    | none =>
        rw [readComposition?_of_unread hmembers (by rw [hpresent hread, hmore]; rfl),
          readComposition?_of_unread hchanged (by rw [hpresent hnew, hmore]; rfl)]
        rfl
    | some more =>
        have hplaces : memberPlaces kind foundBefore reading (foundAfter ++ more) =
            memberPlaces kind foundBefore reading foundAfter := by
          cases kind with
          | allOf => rfl
          | oneOf | anyOf =>
              rw [hown (by decide)] at hmore
              cases hmore
              rw [List.append_nil]
        refine readComposition?_other hagree hmembers hchanged (by rw [hpresent hread, hmore]; rfl)
          (by rw [hpresent hnew, hmore]; rfl) fun discriminator docs => ?_
        rw [compositionReading_other kind foundBefore (foundAfter ++ more) hnull, hplaces]
  rw [readingOf?, readingOf?, hcomposed.shape_eq hhas, hcomposed'.shape_eq hhas',
    shapeComposition_eq, shapeComposition_eq, hmapped.agree "type" (by cases kind <;> decide)]
  split
  · exact asUse_orNull_other (hchange.changeAlong _) hcomposedFields
  · exact hcomposedFields

end Composed

section Normal

variable {change : Schema → Schema} {reading : Reading} {kind : CompositionKind}

theorem IsComposed.normal (h : IsComposed kind fields) (hfields : Keyed.Distinct fields) :
    IsComposed kind (normalFields fields) := by
  refine ⟨?_, fun other hne => ?_⟩
  · rw [get?_normalFields hfields (by decide), h.noReference]
    rfl
  · rw [get?_normalFields hfields (by cases other <;> decide), h.noOther other hne]
    rfl

theorem OtherValue.isComposed (h : OtherValue kind.keyword fields other value new)
    (hcomposed : IsComposed kind fields) : IsComposed kind other := by
  refine ⟨?_, fun different hne => ?_⟩
  · rw [← h.agree "$ref" (by cases kind <;> decide), hcomposed.noReference]
  · rw [← h.agree different.keyword (by revert hne; cases different <;> cases kind <;> decide),
      hcomposed.noOther different hne]

/-- A change to what a schema is read as is one to what it is read as with its flags. -/
theorem normalReading?_other (hchange : KeepsEmpty change)
    (hflagged : isFlagged fields = isFlagged other)
    (h : readingOf? address (.object (normalFields other)) =
      (readingOf? address (.object (normalFields fields))).map (Reading.mapInline change)) :
    normalReading? address (.object other) =
      (normalReading? address (.object fields)).map (Reading.mapInline change) := by
  rw [normalReading?, normalReading?, normalizeSchema_object, normalizeSchema_object, ← hflagged]
  split
  · rw [readingOf?, readingOf?, shape_orNull, shape_orNull]
    exact asUse_orNull_other hchange h
  · exact h

/-- Other items of a list schema. -/
theorem IsPlain.normalReading?_items (hplain : IsPlain fields)
    (h : OtherValue "items" fields other value new)
    (hread : normalReading? address value = some reading)
    (hnew : normalReading? address new = some (reading.mapInline change))
    (hchange : KeepsEmpty change) :
    normalReading? address (.object other) =
      (normalReading? address (.object fields)).map
        (Reading.mapInline (Place.items.changeSchema change)) := by
  obtain ⟨hflagged, hnormal⟩ := h.normalFields (by decide) (by decide)
  exact normalReading?_other (.changeSchema _) hflagged
    ((hplain.normal h.left).readingOf?_items hnormal hread hnew hchange.any_eq)

/-- Another schema for the additional properties of a schema. -/
theorem IsPlain.normalReading?_values (hplain : IsPlain fields)
    (h : OtherValue "additionalProperties" fields other value new)
    (hbool : value.bool? = none) (hbool' : new.bool? = none)
    (hread : normalReading? address value = some reading)
    (hnew : normalReading? address new = some (reading.mapInline change))
    (hchange : KeepsEmpty change) :
    normalReading? address (.object other) =
      (normalReading? address (.object fields)).map
        (Reading.mapInline (Place.values.changeSchema change)) := by
  have hnormalized {value : Json} (h : value.bool? = none) :
      settle (mapField replaceBoolean "additionalProperties" value) = normalizeSchema value := by
    cases value with
    | bool flag => cases h
    | null | number | string | array | object => rfl
  obtain ⟨hflagged, hnormal⟩ := h.normalFields (by decide) (by decide)
  rw [hnormalized hbool, hnormalized hbool'] at hnormal
  exact normalReading?_other (.changeSchema _) hflagged
    ((hplain.normal h.left).readingOf?_values hnormal hread hnew hchange.any_eq)

/-- Another member of a composition. -/
theorem IsComposed.normalReading?_member {before after : List Json}
    {foundBefore foundAfter : List Reading} (hcomposed : IsComposed kind fields)
    (h : OtherValue kind.keyword fields other (.array (before ++ value :: after))
      (.array (before ++ new :: after)))
    (hbefore : allPresent (before.map (normalReading? address)) = some foundBefore)
    (hread : normalReading? address value = some reading)
    (hafter : allPresent (after.map (normalReading? address)) = some foundAfter)
    (hnull : reading.isNull = false)
    (hnew : normalReading? address new = some (reading.mapInline change))
    (hchange : KeepsEmpty change) :
    normalReading? address (.object other) =
      (normalReading? address (.object fields)).map (Reading.mapInline
        (changeAlong (memberPlaces kind foundBefore reading foundAfter) change)) := by
  have hnormalized (members : List Json) :
      settle (mapField replaceBoolean kind.keyword (.array members)) =
        .array (members.map normalizeSchema) := by
    have hmapped : settle (mapSchemaList replaceBoolean (.array members)) =
        .array (members.map normalizeSchema) := by
      rw [mapSchemaList, mapSchemas_eq, settle_array, List.map_map]
      rfl
    cases kind <;> exact hmapped
  obtain ⟨hflagged, hnormal⟩ := h.normalFields (by cases kind <;> decide) (by cases kind <;> decide)
  rw [hnormalized, hnormalized] at hnormal
  have hnormal' : OtherValue kind.keyword (normalFields fields) (normalFields other)
      (.array (before.map normalizeSchema ++ normalizeSchema value :: after.map normalizeSchema))
      (.array
        (before.map normalizeSchema ++ normalizeSchema new :: after.map normalizeSchema)) := by
    simpa using hnormal
  have hreadings (members : List Json) :
      (members.map normalizeSchema).map (readingOf? address) =
        members.map (normalReading? address) :=
    List.map_map
  exact normalReading?_other (hchange.changeAlong _) hflagged
    ((hcomposed.normal h.left).readingOf?_member ((h.isComposed hcomposed).normal h.right) hnormal'
      (by rw [hreadings, hbefore]) hread (by rw [hreadings, hafter]) hnull hnew hchange)

end Normal

end Document
end SchemaGraph
