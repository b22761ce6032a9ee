import SchemaGraph.Proofs.Document.Conversion
import SchemaGraph.Proofs.Links.Untagged

/-!
# Reading discriminators

A discriminator has to name a property. Read `convert_discriminator` first: when the name is blank,
the discriminator is left out without a report, and the rest of the composition is the same as
without it. A name that is missing is another matter. A composition is only read with a
discriminator that is in order, so without the name the whole composition is lost.
-/

namespace SchemaGraph

/-- The reading without a discriminator that names no property. -/
def Document.Reading.untagged (reading : Document.Reading) : Document.Reading :=
  { reading with use := SchemaUse.untagged reading.use }

/-- The conversion without a discriminator that names no property. -/
def Document.Converted.untagged (converted : Document.Converted) : Document.Converted :=
  { converted with use := SchemaUse.untagged converted.use }

namespace Document

open Keyed (AgreeOff)
open SumType (tagName)

variable {address subject : Option String} {fields other tag : Keyed Json}
  {parts otherParts : Keyed Readings} {discriminator : Discriminator}

/-- Whether a value is an object of texts. -/
def isTextMap (value : Json) : Bool :=
  value.object?.any fun entries => entries.all fun entry => isText entry.2

/-- Whether a discriminator can be read: a text names its property, and texts stand in its mapping,
if there is one. -/
def tagInOrder (tag : Keyed Json) : Bool :=
  (Keyed.get? tag "propertyName").any isText && allows tag isTextMap "mapping"

/-- The discriminator names no property: the name is missing, is no text or is blank. -/
def NamesNothing (tag : Keyed Json) : Prop :=
  ∀ name, Keyed.get? tag "propertyName" = some (.string name) → Text.trim name.toList = []

/-- The texts of the mapping of a discriminator, if they are in order. -/
def mappingTexts? (tag : Keyed Json) : Option (List (String × String)) :=
  match Keyed.get? tag "mapping" with
  | none => some []
  | some value => value.object?.bind fun entries =>
      allPresent (entries.map fun (wire, target) => target.string?.map fun text => (wire, text))

theorem isSome_mappingTexts? (tag : Keyed Json) :
    (mappingTexts? tag).isSome = allows tag isTextMap "mapping" := by
  unfold mappingTexts? allows isTextMap
  cases Keyed.get? tag "mapping" with
  | none => rfl
  | some value =>
      cases value with
      | object entries =>
          simp only [Json.object?, Option.bind_some, isSome_allPresent, List.all_map,
            Function.comp_def, Option.isSome_map]
          rfl
      | _ => rfl

/-- A discriminator is read from the name of its property and from its mapping. -/
theorem readDiscriminator?_eq (tag : Keyed Json) :
    readDiscriminator? address (.object tag) =
      ((Keyed.get? tag "propertyName").bind Json.string?).bind fun name =>
        (mappingTexts? tag).map fun mapping =>
          let sorted := mapping.mergeSort fun left right => textBefore left.1 right.1
          some ⟨name, sorted.map fun (wire, target) =>
            ⟨wire, Reference.localize address target⟩⟩ := by
  simp only [readDiscriminator?, mappingTexts?, bind, pure]
  cases Keyed.get? tag "mapping" <;> simp [Option.map_eq_bind, Option.bind_assoc]

/-- A discriminator is read when it is in order, with the name of its property. -/
theorem exists_readDiscriminator? (address : Option String) (htag : tagInOrder tag) :
    ∃ discriminator, readDiscriminator? address (.object tag) = some (some discriminator) ∧
      Keyed.get? tag "propertyName" = some (.string discriminator.propertyName) := by
  obtain ⟨hname, hmapping⟩ := Bool.and_eq_true_iff.1 htag
  obtain ⟨mapping, hfound⟩ := Option.isSome_iff_exists.1 ((isSome_mappingTexts? tag).trans hmapping)
  obtain ⟨value, hvalue, htext⟩ := (Option.any_eq_true _ _).1 hname
  cases value with
  | string name =>
      rw [readDiscriminator?_eq, hvalue, hfound]
      exact ⟨_, rfl, rfl⟩
  | _ => cases htext

/-- A discriminator that is not in order is not read. -/
theorem readDiscriminator?_eq_none (htag : ¬ tagInOrder tag) :
    readDiscriminator? address (.object tag) = none := by
  rw [readDiscriminator?_eq]
  cases hname : (Keyed.get? tag "propertyName").bind Json.string? with
  | none => rfl
  | some name =>
      obtain ⟨value, hvalue, htext⟩ := Option.bind_eq_some_iff.1 hname
      have hmapping : ¬ allows tag isTextMap "mapping" := by
        intro hmapping
        refine htag (Bool.and_eq_true_iff.2 ⟨?_, hmapping⟩)
        rw [hvalue, Option.any_some, isText, htext]
        rfl
      rw [← isSome_mappingTexts?, Option.not_isSome_iff_eq_none] at hmapping
      rw [hmapping]
      rfl

/-- A discriminator that names no property makes no other difference to a composition. -/
theorem untagged_compositionReading (kind : CompositionKind) (members : List Reading) (docs : Docs)
    (hname : tagName discriminator = []) :
    (compositionReading kind members (some discriminator) docs).untagged =
      (compositionReading kind members none docs).untagged := by
  have hinPlace (kind : CompositionKind) (uses : List SchemaUse) (nullable : Bool) :
      (Reading.inPlace (.composition ⟨kind, uses, some discriminator, docs⟩) nullable).untagged =
        (Reading.inPlace (.composition ⟨kind, uses, none, docs⟩) nullable).untagged := by
    simp only [Reading.untagged, Reading.inPlace, SchemaUse.untagged, Schema.untagged,
      CompositionOf.untagged_unnamed hname]
    rfl
  unfold compositionReading
  split
  · exact hinPlace _ _ _
  · rfl
  · exact hinPlace _ _ _

/-- The keys that another discriminator is found under. -/
def tagAside : List String := ["discriminator"]

section Untagged

variable (hread : discriminatorOf? address fields = some (some discriminator))
  (hname : tagName discriminator = []) (hmissing : Keyed.get? other "discriminator" = none)

include hread hname hmissing

/-- A composition is read alike with a discriminator that names no property and without it. -/
theorem readComposition?_untagged (h : AgreeOff tagAside fields other)
    (hparts : AgreeOff tagAside parts otherParts) (kind : CompositionKind) :
    (readComposition? address kind fields parts).map Reading.untagged =
      (readComposition? address kind other otherParts).map Reading.untagged := by
  have hmembers : readField? parts Readings.asUses kind.keyword =
      readField? otherParts Readings.asUses kind.keyword := by
    rw [readField?, readField?, hparts kind.keyword (by cases kind <;> decide)]
  have hother : discriminatorOf? address other = some none := by rw [discriminatorOf?, hmissing]
  simp only [AgreeOff, tagAside, List.mem_cons, List.not_mem_nil, or_false] at h
  have horder : compositionInOrder kind fields = compositionInOrder kind other := by
    cases kind <;> simp [compositionInOrder, typeInOrder, allowAll, allows, h]
  have hdocs : compositionDocs kind fields = compositionDocs kind other := by
    cases kind <;> simp [compositionDocs, docsOf, anyOfTitleKey, h]
  rw [readComposition?_eq, readComposition?_eq, hmembers, hread, hother, horder, hdocs]
  cases (readField? otherParts Readings.asUses kind.keyword).bind id with
  | none => rfl
  | some members =>
      simp only [Option.bind_some, apply_ite (Option.map _), Option.map_some, Option.map_none]
      by_cases hkind : kind = .allOf
      · simp only [if_pos hkind]
      · simp only [if_neg hkind, untagged_compositionReading kind members _ hname]

/-- A schema is read alike with a discriminator that names no property and without it. -/
theorem asUse_untagged (h : AgreeOff tagAside fields other) :
    (readings address (.object fields)).asUse.map Reading.untagged =
      (readings address (.object other)).asUse.map Reading.untagged := by
  have hparts := agreeOff_readingsOfFields address h
  have hcomposition := readComposition?_untagged hread hname hmissing h hparts
  simp only [AgreeOff, tagAside, List.mem_cons, List.not_mem_nil, or_false] at h hparts
  have hreference : readReference? address fields = readReference? address other := by
    simp [readReference?, allowAll, allows, h]
  have harray : readArray? fields (readingsOfFields address fields) =
      readArray? other (readingsOfFields address other) := by
    simp [readArray?, readField?, allowAll, allows, h, hparts]
  have hobject : readObject? fields (readingsOfFields address fields) =
      readObject? other (readingsOfFields address other) := by
    simp [readObject?, readField?, readFieldUnless?, readAdditional?, objectInOrder, allowAll,
      allows, schemaOfType, structuredSchema, untypedSchema, objectShape, scalarOf, literalsOf,
      docsOf, h, hparts]
  simp only [readings, fieldsReadings, readSchema?, hreference, harray, hobject,
    Option.orElse_eq_orElse, Option.orElse_eq_or, Option.map_or, hcomposition]

omit hread hname hmissing in
/-- A choice between a schema and `null` only hands the schema on. -/
theorem asUse_orNull_untagged {schema second : Json}
    (h : (readings address schema).asUse.map Reading.untagged =
      (readings address second).asUse.map Reading.untagged) :
    (readings address (orNull schema)).asUse.map Reading.untagged =
      (readings address (orNull second)).asUse.map Reading.untagged := by
  let choice (reading : Reading) : Reading :=
    compositionReading .anyOf [reading, ⟨.inline .any, true, true⟩] none Docs.none
  have hchoice (reading : Reading) :
      (choice reading).untagged = (choice reading.untagged).untagged := by
    obtain ⟨use, nullable, isNull⟩ := reading
    cases isNull <;> simp [choice, compositionReading, compositionParts, Reading.untagged]
  have hmap (found : Option Reading) : (found.map choice).map Reading.untagged =
      (found.map Reading.untagged).map fun reading => (choice reading).untagged := by
    rw [Option.map_map, Option.map_map]
    exact congrArg (Option.map · found) (funext hchoice)
  rw [asUse_orNull_eq, asUse_orNull_eq]
  exact (hmap _).trans ((congrArg _ h).trans (hmap _).symm)

end Untagged

theorem discriminatorOf?_congr
    (h : Keyed.get? fields "discriminator" = Keyed.get? other "discriminator") :
    discriminatorOf? address fields = discriminatorOf? address other := by
  rw [discriminatorOf?, discriminatorOf?, h]

/-- The keys with values that are not changed when a schema is brought into shape. -/
def untouchedKeys : List String := ["$ref", "discriminator"]

/-- Bringing subschemas into shape leaves a reference and a discriminator as they are. -/
theorem get?_untouched_mapped (fields : Keyed Json) {key : String} (hkey : key ∈ untouchedKeys) :
    Keyed.get? (mapSchemaFields shapeStep fields) key = Keyed.get? fields key := by
  have hsame (value : Json) : mapField shapeStep key value = value := by
    simp only [untouchedKeys, List.mem_cons, List.not_mem_nil, or_false] at hkey
    obtain rfl | rfl := hkey <;> rfl
  rw [get?_mapSchemaFields, funext hsame, Option.map_id']

/-- Bringing a composition into shape leaves a reference and a discriminator as they are. -/
theorem get?_untouched_composed (hfields : Keyed.Distinct fields) {keyword key : String}
    (hkeyword : keyword ∈ compositionKeys) (hkey : key ∈ untouchedKeys) :
    Keyed.get? (composedFields keyword fields) key = Keyed.get? fields key := by
  have hkind : ∃ kind : CompositionKind, kind.keyword = keyword := by
    simp only [compositionKeys, List.mem_cons, List.not_mem_nil, or_false] at hkeyword
    obtain rfl | rfl | rfl := hkeyword
    · exact ⟨.allOf, rfl⟩
    · exact ⟨.oneOf, rfl⟩
    · exact ⟨.anyOf, rfl⟩
  obtain ⟨kind, rfl⟩ := hkind
  refine get?_composedFields kind hfields ?_
  simp only [untouchedKeys, List.mem_cons, List.not_mem_nil, or_false] at hkey
  obtain rfl | rfl := hkey <;> cases kind <;> decide

/-- A schema that is not yet in shape is read alike with a discriminator that names no property and
without it. -/
theorem readingOf?_untagged (hread : discriminatorOf? address fields = some (some discriminator))
    (hname : tagName discriminator = []) (hmissing : Keyed.get? other "discriminator" = none)
    (h : AgreeOff tagAside fields other) (hfields : Keyed.Distinct fields)
    (hother : Keyed.Distinct other) :
    (readingOf? address (.object fields)).map Reading.untagged =
      (readingOf? address (.object other)).map Reading.untagged := by
  have hmapped := agreeOff_mapSchemaFields shapeStep h
  have hfields := distinct_mapSchemaFields shapeStep hfields
  have hother := distinct_mapSchemaFields shapeStep hother
  have hread := (discriminatorOf?_congr (get?_untouched_mapped fields (by decide))).trans hread
  have hmissing := (get?_untouched_mapped other (by decide)).trans hmissing
  simp only [readingOf?, shape_object]
  generalize mapSchemaFields shapeStep fields = fields at *
  generalize mapSchemaFields shapeStep other = other at *
  have hkeywords : compositionKeys.find? (Keyed.has fields) =
      compositionKeys.find? (Keyed.has other) := by
    simp [compositionKeys, List.find?_cons, hmapped.has_eq, tagAside]
  simp only [shapeFields, hmapped.has_eq (show "$ref" ∉ tagAside by decide), hkeywords]
  split
  · exact asUse_untagged hread hname hmissing hmapped
  · split
    · next keyword hkeyword =>
        have hmem := List.mem_of_find?_eq_some hkeyword
        have hcomposed := composedFields_congr (hmapped.cons _) hfields hother (by decide) keyword
        have hschema := asUse_untagged
          ((discriminatorOf?_congr (get?_untouched_composed hfields hmem (by decide))).trans hread)
          hname ((get?_untouched_composed hother hmem (by decide)).trans hmissing) hcomposed
        rw [shapeComposition_eq, shapeComposition_eq, hmapped "type" (by decide)]
        split
        · exact asUse_orNull_untagged hschema
        · exact hschema
    · have himplied : impliedType fields = impliedType other := by
        simp only [AgreeOff, tagAside, List.mem_cons, List.not_mem_nil, or_false] at hmapped
        simp [impliedType, objectKeys, Keyed.has, hmapped]
      have hput (fields : Keyed Json) (type : Json) :
          Keyed.get? (Keyed.put fields "type" type) "discriminator" =
            Keyed.get? fields "discriminator" := by rw [Keyed.get?_put, if_neg (by decide)]
      rw [putIfMissing, putIfMissing, hmapped.has_eq (show "type" ∉ tagAside by decide), himplied]
      split
      · exact asUse_untagged hread hname hmissing hmapped
      · exact asUse_untagged ((discriminatorOf?_congr (hput ..)).trans hread) hname
          ((hput ..).trans hmissing) ((hmapped.cons _).put _)

/-- A composition whose discriminator cannot be read is not read. -/
theorem readSchema?_of_unread (hread : discriminatorOf? address fields = none)
    (htype : typeOf? fields = none) : readSchema? address fields parts = none := by
  have hcomposition (kind : CompositionKind) :
      readComposition? address kind fields parts = none := by
    simp [readComposition?_eq, hread]
  simp [readSchema?, readArray?_eq, readObject?_eq, htype, hcomposition]

/-- A `oneOf` whose discriminator cannot be read is lost. -/
theorem readingOf?_of_unread (hread : discriminatorOf? address fields = none)
    (hfields : Keyed.Distinct fields) (hreference : Keyed.get? fields "$ref" = none)
    (hmembers : Keyed.has fields "oneOf") : readingOf? address (.object fields) = none := by
  have hfields := distinct_mapSchemaFields shapeStep hfields
  have hread := (discriminatorOf?_congr (get?_untouched_mapped fields (by decide))).trans hread
  have hreference := (get?_untouched_mapped fields (by decide)).trans hreference
  have hmembers : Keyed.has (mapSchemaFields shapeStep fields) "oneOf" := by
    rw [Keyed.has, get?_mapSchemaFields, Option.isSome_map]
    exact hmembers
  rw [readingOf?, shape_object]
  generalize mapSchemaFields shapeStep fields = fields at *
  have hplain : Keyed.has fields "$ref" = false := by rw [Keyed.has, hreference, Option.isSome_none]
  rw [shapeFields, hplain]
  cases hkeyword : compositionKeys.find? (Keyed.has fields) with
  | none => exact absurd hmembers (List.find?_eq_none.1 hkeyword "oneOf" (by decide))
  | some keyword =>
      have hmem := List.mem_of_find?_eq_some hkeyword
      have hunread : (readings address (.object (composedFields keyword fields))).asUse = none := by
        have hread := (discriminatorOf?_congr
          (get?_untouched_composed hfields hmem (by decide))).trans hread
        have hreference := (get?_untouched_composed hfields hmem (by decide)).trans hreference
        simp [readings, fieldsReadings, readReference?, hreference,
          readSchema?_of_unread hread (typeOf?_composedFields hfields keyword)]
      simp only [Bool.false_eq_true, if_false, shapeComposition_eq]
      split
      · rw [asUse_orNull_eq, hunread, Option.map_none]
      · exact hunread

/-- A schema that is read alike is converted alike. -/
theorem untagged_convert {schema second : Json}
    (h : (readingOf? address schema).map Reading.untagged =
      (readingOf? address second).map Reading.untagged) :
    Converted.untagged <$> convert address subject schema =
      Converted.untagged <$> convert address subject second := by
  have hconvert (schema : Json) : Converted.untagged <$> convert address subject schema =
      ((readingOf? address schema).map Reading.untagged).elim
        ⟨⟨.inline .any, false⟩, [⟨subject, .unreadableSchema⟩]⟩
        fun reading => pure ⟨reading.use, reading.nullable⟩ := by
    unfold convert readingOf?
    cases (readings address (shape schema)).asUse <;> rfl
  rw [hconvert, hconvert, h]

/-- A conversion with a discriminator comes to the same as the one without it: it is the same up to
discriminators that name no property, and so are the documentation and the sum types of every table
that it is put into. -/
structure ComesTo (tagged plain : Reported Converted) : Prop where
  converted : Converted.untagged <$> tagged = Converted.untagged <$> plain
  docs : (entryOf tagged.value.use).docs = (entryOf plain.value.use).docs
  discovered : ∀ (table : Table) (namer : Namer) (name : String),
    (table.insert name (entryOf tagged.value.use)).discover namer =
      (table.insert name (entryOf plain.value.use)).discover namer
  tag : ∀ parts, entryOf plain.value.use = .composition parts → parts.isSum →
    parts.discriminator = none → ∀ (table : Table) (namer : Namer) (name : String),
      ∃ sumType, sumType.tag = none ∧ Keyed.get? ((table.insert name
        (entryOf tagged.value.use)).discover namer).value.sumTypes name = some sumType

theorem untagged_entryOf (use : SchemaUse) :
    (entryOf use).untagged = entryOf (SchemaUse.untagged use) := by
  cases use <;> rfl

/-- A discriminator that names no property makes no other difference. -/
theorem comesTo_of_untagged {tagged plain : Reported Converted}
    (h : Converted.untagged <$> tagged = Converted.untagged <$> plain) : ComesTo tagged plain := by
  have hentry : (entryOf tagged.value.use).untagged = (entryOf plain.value.use).untagged := by
    have huse : SchemaUse.untagged tagged.value.use = SchemaUse.untagged plain.value.use :=
      congrArg (fun result => result.value.use) h
    rw [untagged_entryOf, untagged_entryOf, huse]
  have hdiscovered (table : Table) (namer : Namer) (name : String) :
      (table.insert name (entryOf tagged.value.use)).discover namer =
        (table.insert name (entryOf plain.value.use)).discover namer := by
    rw [← Table.discover_untagged, Table.untagged_insert, hentry, ← Table.untagged_insert,
      Table.discover_untagged]
  refine ⟨h, ?docs, hdiscovered, ?tag⟩
  case docs => rw [← Schema.docs_untagged, hentry, Schema.docs_untagged]
  case tag =>
    intro parts hparts hsum hnone table namer name
    have hget : (table.insert name (entryOf plain.value.use)).get? name =
        some (.composition parts) := by rw [Table.get?_insert, if_pos rfl, hparts]
    rw [hdiscovered, Table.get?_discover _ namer hget hsum .empty]
    exact ⟨_, SumType.value_tagOf_other (.inr hnone), rfl⟩

/-- A `oneOf` with a discriminator that names no property. When the discriminator is in order, it is
left out without a report, and the schema comes to what it is without it. Otherwise the whole schema
is lost. -/
theorem convert_discriminator (hfields : Keyed.Distinct fields)
    (hmembers : Keyed.has fields "oneOf")
    (htag : Keyed.get? fields "discriminator" = some (.object tag)) (hname : NamesNothing tag) :
    if tagInOrder tag then
      ComesTo (convert address subject (.object fields))
        (convert address subject (.object (Keyed.drop fields "discriminator")))
    else Keyed.get? fields "$ref" = none →
      convert address subject (.object fields) =
        ⟨⟨.inline .any, false⟩, [⟨subject, .unreadableSchema⟩]⟩ := by
  have hobject : discriminatorOf? address fields = readDiscriminator? address (.object tag) := by
    rw [discriminatorOf?, htag]
  split
  · next horder =>
      obtain ⟨discriminator, hread, hproperty⟩ := exists_readDiscriminator? address horder
      have hdrop := Keyed.get?_drop fields "discriminator"
      have hagree : AgreeOff tagAside fields (Keyed.drop fields "discriminator") := by
        intro key hkey
        rw [hdrop, if_neg (by simpa [tagAside] using hkey)]
      refine comesTo_of_untagged (untagged_convert ?_)
      exact readingOf?_untagged (hobject.trans hread) (hname _ hproperty)
        ((hdrop _).trans (if_pos rfl)) hagree hfields (hfields.drop _)
  · next horder =>
      intro hreference
      have hread := hobject.trans (readDiscriminator?_eq_none horder)
      have hlost := readingOf?_of_unread hread hfields hreference hmembers
      rw [readingOf?] at hlost
      rw [convert, hlost]
      rfl

/-- A pet, which is a cat, with a discriminator. -/
def taggedPet (tag : Keyed Json) : Keyed Json :=
  [("oneOf", .array [.object [("$ref", .string "#/components/schemas/Cat")]]),
    ("discriminator", .object tag)]

/-- A pet is read without a report when it has no discriminator. It comes to the same with a blank
name, and is lost when the name is missing. -/
theorem pet_convert_discriminator :
    let plain := convert none (some "Pet") (.object (Keyed.drop (taggedPet []) "discriminator"))
    plain.reports = [] ∧ (entryOf plain.value.use).isSumType ∧
    ComesTo (convert none (some "Pet") (.object (taggedPet [("propertyName", .string " ")])))
      plain ∧
    convert none (some "Pet") (.object (taggedPet [])) =
      ⟨⟨.inline .any, false⟩, [⟨some "Pet", .unreadableSchema⟩]⟩ := by
  intro plain
  refine ⟨rfl, rfl, ?blank, ?missing⟩
  case blank =>
    have hname : NamesNothing [("propertyName", .string " ")] := by
      rintro name ⟨⟩
      decide
    exact convert_discriminator (by decide) (by decide) rfl hname
  case missing =>
    have hname : NamesNothing [] := nofun
    exact convert_discriminator (by decide) (by decide) rfl hname rfl

end Document

end SchemaGraph
