import SchemaGraph.Proofs.Document.Conversion
import SchemaGraph.Proofs.Document.Passes

/-!
# Spellings of nullable schemas

A document may say in four ways that `null` is admitted beside what a schema admits: by either flag,
or by a choice between the schema and `null` in either order. All of them are converted to the same
schema, and `null` is admitted (`convert_nullable_spellings`). Each takes a way of its own. A flag
becomes a part of the type when there is one and a choice otherwise; a composition loses its type
again and becomes a choice; and a choice between one schema and `null` is read as that schema.
-/

namespace SchemaGraph.Document

open Keyed (AgreeOff)

variable {address subject : Option String} {fields : Keyed Json}

mutual

/-- Whether no object outside instance data holds a flag for nullability. -/
def flagFree : Json → Bool
  | .array items => flagFreeItems items
  | .object fields => !holdsFlag fields && flagFreeFields fields
  | _ => true

/-- `flagFree` for every item. -/
def flagFreeItems : List Json → Bool
  | [] => true
  | value :: rest => flagFree value && flagFreeItems rest

/-- `flagFree` for every field's value, except for instance data. -/
def flagFreeFields : List (String × Json) → Bool
  | [] => true
  | (key, value) :: rest => (dataKeys.contains key || flagFree value) && flagFreeFields rest

end

mutual

/-- Without flags a value is in normal form already. -/
theorem normalizeNullable_eq_self (value : Json) (h : flagFree value) :
    normalizeNullable value = value := by
  cases value with
  | array items => exact congrArg Json.array (mapObjectsItems_eq_self items h)
  | object fields =>
      simp only [flagFree, Bool.and_eq_true, Bool.not_eq_true'] at h
      rw [normalizeNullable, mapObjects, mapObjectsFields_eq_self fields h.2,
        settleNullable_of_not_holdsFlag h.1]
  | null | bool | number | string => rfl

theorem mapObjectsItems_eq_self (items : List Json) (h : flagFreeItems items) :
    mapObjectsItems settleNullable items = items := by
  cases items with
  | nil => rfl
  | cons value rest =>
      simp only [flagFreeItems, Bool.and_eq_true] at h
      have hvalue := normalizeNullable_eq_self value h.1
      rw [normalizeNullable] at hvalue
      rw [mapObjectsItems, hvalue, mapObjectsItems_eq_self rest h.2]

theorem mapObjectsFields_eq_self (fields : List (String × Json)) (h : flagFreeFields fields) :
    mapObjectsFields settleNullable fields = fields := by
  cases fields with
  | nil => rfl
  | cons entry rest =>
      obtain ⟨key, value⟩ := entry
      simp only [flagFreeFields, Bool.and_eq_true, Bool.or_eq_true] at h
      rw [mapObjectsFields, mapObjectsFields_eq_self rest h.2]
      split
      · rfl
      · next hkey =>
          have hvalue := normalizeNullable_eq_self value (h.1.resolve_left hkey)
          rw [normalizeNullable] at hvalue
          rw [hvalue]

end

/-- What a list maps to, all of it being there, holds the images of its items. -/
theorem exists_mem_of_mapM {α β : Type} {f : α → Option β} {items : List α} {images : List β}
    (h : items.mapM f = some images) {item : α} (hitem : item ∈ items) :
    ∃ image ∈ images, f item = some image := by
  induction items generalizing images with
  | nil => simp at hitem
  | cons first rest ih =>
      simp only [List.mapM_cons, bind, Option.bind_eq_some_iff, pure, Option.some.injEq] at h
      obtain ⟨image, hfirst, others, hrest, rfl⟩ := h
      rcases List.mem_cons.1 hitem with rfl | hmem
      · exact ⟨image, List.mem_cons_self, hfirst⟩
      · obtain ⟨found, hfound, hitem⟩ := ih hrest hmem
        exact ⟨found, List.mem_cons_of_mem _ hfound, hitem⟩

/-- Widening a type by `null` keeps its first other type. -/
theorem typeOrNull?_spec {value widened : Json} (h : typeOrNull? value = some widened)
    (hword : wordOf? value ≠ some "null") {type : TypeSpec}
    (htype : TypeSpec.ofJson? value = some type) :
    ∃ widenedType, TypeSpec.ofJson? widened = some widenedType ∧
      widenedType.effective? = type.effective? ∧ widenedType.admitsNull := by
  unfold typeOrNull? at h
  split at h
  · next types =>
      obtain ⟨words, hwords, rfl⟩ := Option.map_eq_some_iff.1 htype
      split at h
      · next hnull =>
          cases h
          obtain ⟨item, hitem, htext⟩ := List.any_eq_true.1 hnull
          have hitem' : item = .string "null" := by
            cases item <;> simp_all [Json.string?]
          obtain ⟨word, hmem, hparse⟩ := exists_mem_of_mapM hwords hitem
          rw [hitem'] at hparse
          cases hparse
          exact ⟨.several words, htype, rfl, List.contains_iff_mem.2 hmem⟩
      · cases h
        refine ⟨.several (words ++ [.null]), ?_, ?_, ?_⟩
        · simp only [TypeSpec.ofJson?, List.mapM_append, hwords]
          rfl
        · simp [TypeSpec.effective?]
        · simp [TypeSpec.admitsNull]
  · next text =>
      have htext : text ≠ "null" := fun heq => hword (congrArg some heq)
      obtain ⟨word, hparse, rfl⟩ := Option.map_eq_some_iff.1 htype
      change TypeWord.parse? text = some word at hparse
      rw [if_neg htext] at h
      cases h
      refine ⟨.several [word, .null], ?_, ?_, ?_⟩
      · have hnull : TypeWord.parse? "null" = some .null := rfl
        simp [TypeSpec.ofJson?, wordOf?, hparse, hnull]
      · cases word <;> rfl
      · simp [TypeSpec.admitsNull]
  · cases h

/-- A widened type admits `null` also beside a composition. -/
theorem admitsNull_typeOrNull? {value widened : Json} (h : typeOrNull? value = some widened) :
    admitsNull (some widened) := by
  unfold typeOrNull? at h
  split at h
  · split at h
    · next hnull =>
        cases h
        exact hnull
    · cases h
      simp [admitsNull, Json.string?]
  · split at h <;> cases h <;> simp_all [admitsNull, Json.string?]
  · cases h

/-- Widening the type of a schema keeps what it is read as, and `null` is admitted. -/
theorem readingOf?_widened {value widened : Json} {other : Keyed Json} {reading : Reading}
    (h : AgreeOff ("type" :: flagKeys) fields other) (hfields : Keyed.Distinct fields)
    (hother : Keyed.Distinct other) (hreference : Keyed.get? fields "$ref" = none)
    (hvalue : Keyed.get? fields "type" = some value) (hword : wordOf? value ≠ some "null")
    (hwidened : typeOrNull? value = some widened) (htype : Keyed.get? other "type" = some widened)
    (hread : readingOf? address (.object fields) = some reading) :
    ∃ isNull, readingOf? address (.object other) = some ⟨reading.use, true, isNull⟩ := by
  have hmapped := agreeOff_mapSchemaFields shapeStep h
  have hfields := distinct_mapSchemaFields shapeStep hfields
  have hother := distinct_mapSchemaFields shapeStep hother
  have hreference : Keyed.get? (mapSchemaFields shapeStep fields) "$ref" = none := by
    rw [get?_mapSchemaFields, hreference, Option.map_none]
  have hvalue : Keyed.get? (mapSchemaFields shapeStep fields) "type" = some value := by
    rw [get?_mapSchemaFields, hvalue]
    rfl
  have htype : Keyed.get? (mapSchemaFields shapeStep other) "type" = some widened := by
    rw [get?_mapSchemaFields, htype]
    rfl
  simp only [readingOf?, shape_object] at hread ⊢
  generalize mapSchemaFields shapeStep fields = fields at *
  generalize mapSchemaFields shapeStep other = other at *
  have hplain : Keyed.has fields "$ref" = false := by rw [Keyed.has, hreference]; rfl
  have hplain' : Keyed.has other "$ref" = false := by
    rw [← hmapped.has_eq (show "$ref" ∉ "type" :: flagKeys by decide), hplain]
  simp only [shapeFields, hplain, hplain', Bool.false_eq_true, if_false,
    find?_compositionKeys_congr hmapped] at hread ⊢
  split at hread
  · next keyword _ =>
      have hcomposed := composedFields_congr hmapped hfields hother (by decide) keyword
      have hnull {inner : Reading}
          (h : (readings address (.object (composedFields keyword fields))).asUse = some inner) :
          inner.isNull = false := by
        rw [Bool.eq_false_iff]
        intro hinner
        cases (typeOf?_composedFields hfields keyword).symm.trans (typeOf?_of_isNull h hinner)
      have hkind : CompositionKind.anyOf ≠ .allOf := by decide
      rw [shapeComposition_eq, htype, if_pos (admitsNull_typeOrNull? hwidened)]
      rw [shapeComposition_eq] at hread
      split at hread
      · rw [asUse_orNull_eq] at hread
        obtain ⟨inner, hinner, rfl⟩ := Option.map_eq_some_iff.1 hread
        have hinner' := (asUse_congr hcomposed).symm.trans hinner
        rw [compositionReading_orNull hkind (hnull hinner) (.inl rfl),
          asUse_orNull hinner' (hnull hinner)]
        exact ⟨false, rfl⟩
      · have hread' := (asUse_congr hcomposed).symm.trans hread
        rw [asUse_orNull hread' (hnull hread)]
        exact ⟨false, rfl⟩
  · next hnone =>
      have hkinds :=
        get?_keyword_of_find?_eq_none ((find?_compositionKeys_congr hmapped).trans hnone)
      have htyped : Keyed.has fields "type" := by rw [Keyed.has, hvalue]; rfl
      have htyped' : Keyed.has other "type" := by rw [Keyed.has, htype]; rfl
      rw [putIfMissing, if_pos htyped] at hread
      rw [putIfMissing, if_pos htyped']
      obtain ⟨type, htypeOf⟩ := exists_typeOf?_of_asUse hreference hkinds hread
      have hspec : TypeSpec.ofJson? value = some type := by
        rwa [typeOf?, hvalue, Option.bind_some] at htypeOf
      obtain ⟨widenedType, hwidenedType, heffective, hadmits⟩ :=
        typeOrNull?_spec hwidened hword hspec
      have htypeOf' : typeOf? other = some widenedType := by
        rw [typeOf?, htype, Option.bind_some, hwidenedType]
      obtain ⟨isNull, hretyped⟩ :=
        asUse_retyped hmapped hreference hkinds htypeOf htypeOf' heffective hread
      exact ⟨isNull, hadmits ▸ hretyped⟩

/-- A flag that is added is taken, and the other fields are left. -/
theorem takeFlag_put (fields : Keyed Json) (key : String) :
    takeFlag (Keyed.put fields key (.bool true)) key = (true, Keyed.swapOut fields key) := by
  simp only [takeFlag, Keyed.get?_put, if_true, Option.bind_some, Json.bool?, Keyed.swapOut_put]

theorem takeFlag_of_missing {key : String} (h : (Keyed.get? fields key).bind Json.bool? = none) :
    takeFlag fields key = (false, fields) := by
  rw [takeFlag, h]

/-- What becomes of a flag that is added to a schema without one. -/
theorem settleNullable_put_flag {flag : String} (hflag : flag ∈ flagKeys)
    (hfields : Keyed.Distinct fields) (hfree : holdsFlag fields = false) :
    settleNullable (Keyed.put fields flag (.bool true)) =
      match (Keyed.get? fields "type").bind typeOrNull? with
      | some type => .object (Keyed.put (Keyed.swapOut fields flag) "type" type)
      | none => orNull (.object (Keyed.swapOut fields flag)) := by
  simp only [holdsFlag, flagKeys, List.any_cons, List.any_nil, Bool.or_false, Bool.or_eq_false_iff,
    Option.isSome_eq_false_iff, Option.isNone_iff_eq_none] at hfree
  obtain ⟨hplain, hextended⟩ := hfree
  have hkept {key other : String} (hne : key ≠ other) :
      Keyed.get? (Keyed.swapOut fields other) key = Keyed.get? fields key := by
    rw [hfields.get?_swapOut, if_neg hne]
  have htype : Keyed.get? (Keyed.swapOut fields flag) "type" = Keyed.get? fields "type" :=
    hkept (by rintro rfl; revert hflag; decide)
  simp only [flagKeys, List.mem_cons, List.not_mem_nil, or_false] at hflag
  rcases hflag with rfl | rfl
  · have hleft : takeFlag (Keyed.swapOut fields "nullable") "x-nullable" =
        (false, Keyed.swapOut fields "nullable") :=
      takeFlag_of_missing (by rw [hkept (by decide), hextended])
    cases hwidened : (Keyed.get? fields "type").bind typeOrNull? <;>
      simp only [settleNullable, takeFlag_put, hleft, Bool.true_or, if_true, htype, hwidened]
  · have hfirst : takeFlag (Keyed.put fields "x-nullable" (.bool true)) "nullable" =
        (false, Keyed.put fields "x-nullable" (.bool true)) :=
      takeFlag_of_missing (by rw [Keyed.get?_put, if_neg (by decide), hplain])
    cases hwidened : (Keyed.get? fields "type").bind typeOrNull? <;>
      simp only [settleNullable, hfirst, takeFlag_put, Bool.false_or, if_true, htype, hwidened]

/-- A schema with a flag, once the flag is settled, is read as the schema is, and admits `null`. -/
theorem readingOf?_settleNullable {flag : String} (hflag : flag ∈ flagKeys) {reading : Reading}
    (hfields : Keyed.Distinct fields) (hfree : holdsFlag fields = false)
    (htype : typeWord? fields ≠ some "null")
    (hreference : ¬ (Keyed.has fields "$ref" ∧ Keyed.has fields "type"))
    (hread : readingOf? address (.object fields) = some reading) :
    ∃ isNull, readingOf? address (settleNullable (Keyed.put fields flag (.bool true))) =
      some ⟨reading.use, true, isNull⟩ := by
  have hagree : AgreeOff flagKeys (Keyed.swapOut fields flag) fields :=
    hfields.agreeOff_swapOut hflag
  rw [settleNullable_put_flag hflag hfields hfree]
  split
  · next widened hwidened =>
      obtain ⟨value, hvalue, hwidened⟩ := Option.bind_eq_some_iff.1 hwidened
      have hplain : Keyed.get? fields "$ref" = none := by
        have htyped : Keyed.has fields "type" := by rw [Keyed.has, hvalue]; rfl
        rw [← Option.not_isSome_iff_eq_none]
        exact fun href => hreference ⟨href, htyped⟩
      have hword : wordOf? value ≠ some "null" := by
        rwa [typeWord?, hvalue, Option.bind_some] at htype
      refine readingOf?_widened ?_ hfields ((hfields.swapOut flag).put _ _) hplain hvalue hword
        hwidened ?_ hread
      · intro key hkey
        rw [Keyed.agreeOff_put List.mem_cons_self _ _ key hkey, (hagree.cons _) key hkey]
      · rw [Keyed.get?_put, if_pos rfl]
  · have hrest : readingOf? address (.object (Keyed.swapOut fields flag)) = some reading :=
      (readingOf?_congr hagree (hfields.swapOut flag) hfields).trans hread
    have hkind : CompositionKind.anyOf ≠ .allOf := by decide
    have hnull := isNull_of_readingOf? hfields hread htype
    exact ⟨false, readingOf?_choice hkind hrest hnull (.inl rfl)⟩

/-- Adding a value without flags to fields without flags keeps their values so. -/
theorem flagFreeFields_put {key : String} {value : Json} (hfields : flagFreeFields fields)
    (hvalue : flagFree value) : flagFreeFields (Keyed.put fields key value) := by
  induction fields with
  | nil => simp [Keyed.put, flagFreeFields, hvalue]
  | cons entry rest ih =>
      obtain ⟨name, old⟩ := entry
      simp only [flagFreeFields, Bool.and_eq_true] at hfields
      rw [Keyed.put]
      split
      · simp [flagFreeFields, hvalue, hfields.2]
      · rw [flagFreeFields, hfields.1, ih hfields.2]
        rfl

/-- Normalizing a schema without flags to which one is added settles this flag. -/
theorem normalizeNullable_put_flag (hfree : flagFree (.object fields)) (flag : String) :
    normalizeNullable (.object (Keyed.put fields flag (.bool true))) =
      settleNullable (Keyed.put fields flag (.bool true)) := by
  simp only [flagFree, Bool.and_eq_true] at hfree
  rw [normalizeNullable, mapObjects, mapObjectsFields_eq_self _ (flagFreeFields_put hfree.2 rfl)]

/-- The choices between a schema and `null`. -/
def nullableChoices (schema : Json) : List Json :=
  [choice .anyOf [schema, nullSchema], choice .oneOf [nullSchema, schema]]

/-- The spellings of a schema that admits `null` beside what the given one admits: with either flag,
and as a choice in either order. -/
def nullableSpellings (fields : Keyed Json) : List Json :=
  .object (Keyed.put fields "nullable" (.bool true)) ::
    .object (Keyed.put fields "x-nullable" (.bool true)) :: nullableChoices (.object fields)

/-- A choice between a schema without flags and `null` is in normal form already. -/
theorem normalizeNullable_of_mem_choices {schema spelling : Json} (hfree : flagFree schema)
    (h : spelling ∈ nullableChoices schema) : normalizeNullable spelling = spelling := by
  have hnull : flagFree nullSchema = true := rfl
  simp only [nullableChoices, List.mem_cons, List.not_mem_nil, or_false] at h
  rcases h with rfl | rfl <;>
    refine normalizeNullable_eq_self _ ?_ <;>
    simp [choice, CompositionKind.keyword, flagFree, flagFreeFields, flagFreeItems, holdsFlag,
      flagKeys, Keyed.get?, hfree, hnull]

/-- Every spelling of "this schema or `null`" is converted to the schema itself, and `null` is
admitted; the choices are so as they stand. The schema is one that can be read, does not hold a flag
yet, is not `null` already, and does not hold a type beside a reference, where the reference alone
counts. -/
theorem convert_nullable_spellings (address subject : Option String) (fields : Keyed Json)
    (hfields : Keyed.Distinct fields) (hfree : flagFree (.object fields))
    (hread : (convert address subject (.object fields)).reports = [])
    (htype : typeWord? fields ≠ some "null")
    (hreference : ¬ (Keyed.has fields "$ref" ∧ Keyed.has fields "type")) :
    (∀ spelling ∈ nullableSpellings fields,
      convert address subject (normalizeNullable spelling) =
        pure ⟨(convert address subject (.object fields)).value.use, true⟩) ∧
    ∀ spelling ∈ nullableChoices (.object fields), normalizeNullable spelling = spelling := by
  obtain ⟨reading, hreading⟩ := exists_readingOf?_of_reports hread
  have hnull := isNull_of_readingOf? hfields hreading htype
  have hholds : holdsFlag fields = false := by
    simp only [flagFree, Bool.and_eq_true, Bool.not_eq_true'] at hfree
    exact hfree.1
  have hflag {flag : String} (hflag : flag ∈ flagKeys) :
      ∃ isNull, readingOf? address
          (normalizeNullable (.object (Keyed.put fields flag (.bool true)))) =
        some ⟨reading.use, true, isNull⟩ := by
    rw [normalizeNullable_put_flag hfree]
    exact readingOf?_settleNullable hflag hfields hholds htype hreference hreading
  have hchoice {spelling : Json} (h : spelling ∈ nullableChoices (.object fields)) :
      readingOf? address spelling = some ⟨reading.use, true, false⟩ := by
    have hanyOf : CompositionKind.anyOf ≠ .allOf := by decide
    have honeOf : CompositionKind.oneOf ≠ .allOf := by decide
    simp only [nullableChoices, List.mem_cons, List.not_mem_nil, or_false] at h
    rcases h with rfl | rfl
    · exact readingOf?_choice hanyOf hreading hnull (.inl rfl)
    · exact readingOf?_choice honeOf hreading hnull (.inr rfl)
  refine ⟨fun spelling hspelling => ?_, fun spelling => normalizeNullable_of_mem_choices hfree⟩
  rw [convert_eq_of_readingOf? hreading, Reported.value_pure]
  suffices h : ∃ isNull, readingOf? address (normalizeNullable spelling) =
      some ⟨reading.use, true, isNull⟩ by
    obtain ⟨_, h⟩ := h
    exact convert_eq_of_readingOf? h
  rcases List.mem_cons.1 hspelling with rfl | hspelling
  · exact hflag (by decide)
  rcases List.mem_cons.1 hspelling with rfl | hspelling
  · exact hflag (by decide)
  · rw [normalizeNullable_of_mem_choices hfree hspelling]
    exact ⟨false, hchoice hspelling⟩

/-- A composition with a type beside it and a nested list of types. -/
def leashFields : Keyed Json :=
  [("type", .string "object"),
   ("allOf", .array [.object [("$ref", .string "#/components/schemas/Strap")]]),
   ("properties", .object
     [("colour", .object [("type", .array [.string "string", .string "null"])])])]

/-- A leash has no flags, and its type is not the word for `null`. All spellings that admit `null`
beside it come to the leash itself, marked as nullable. -/
theorem leash_nullable_spellings :
    (Keyed.Distinct leashFields ∧ flagFree (.object leashFields) ∧
      (convert none none (.object leashFields)).reports = [] ∧
      typeWord? leashFields ≠ some "null" ∧
      ¬ (Keyed.has leashFields "$ref" ∧ Keyed.has leashFields "type")) ∧
    (∀ spelling ∈ nullableSpellings leashFields,
      convert none none (normalizeNullable spelling) =
        pure ⟨(convert none none (.object leashFields)).value.use, true⟩) ∧
    ∀ spelling ∈ nullableChoices (.object leashFields), normalizeNullable spelling = spelling := by
  have hdistinct : Keyed.Distinct leashFields := by decide
  have hfree : flagFree (.object leashFields) := by decide
  have hread : (convert none none (.object leashFields)).reports = [] := by decide
  have htype : typeWord? leashFields ≠ some "null" := by decide
  have hreference : ¬ (Keyed.has leashFields "$ref" ∧ Keyed.has leashFields "type") := by decide
  exact ⟨⟨hdistinct, hfree, hread, htype, hreference⟩,
    convert_nullable_spellings none none leashFields hdistinct hfree hread htype hreference⟩

/-- The word for `null` may also be the name of an object. A schema whose type is written so is no
alternative either, so nothing is left of a choice between it and `null`. -/
theorem nullWord_choice_ne :
    let fields : Keyed Json := [("type", .object [("null", .null)])]
    Keyed.Distinct fields ∧ flagFree (.object fields) ∧
      (convert none none (.object fields)).reports = [] ∧
      Keyed.get? fields "$ref" = none ∧
      (Keyed.get? fields "type").bind Json.string? ≠ some "null" ∧
      (convert none none (choice .anyOf [.object fields, nullSchema])).value.use ≠
        (convert none none (.object fields)).value.use := by
  refine ⟨by decide, by decide, by decide, rfl, by decide, ?_⟩
  intro h
  cases h

end SchemaGraph.Document
