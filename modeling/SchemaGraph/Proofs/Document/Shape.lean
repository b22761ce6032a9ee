import SchemaGraph.Proofs.Document.Reading

/-!
# Schemas brought into shape

Bringing a schema into shape looks its keywords up, moves them and takes them out, so fields that
agree off the flags still do afterwards (`asUse_shape_congr`). It never makes a schema just `null`
(`isNull_of_shape`).
-/

namespace SchemaGraph.Document

open Keyed (AgreeOff)

variable {address : Option String} {fields other : Keyed Json} {aside : List String}

/-- Apply a step to what a field of a schema holds. -/
def mapField (step : Bool → Json → Json) (key : String) (value : Json) : Json :=
  if schemaKeys.contains key then mapSchema step (key = "items" || key = "not") value
  else if schemaListKeys.contains key then mapSchemaList step value
  else if schemaMapKeys.contains key then mapSchemaMap step value
  else value

theorem mapSchemas_eq (step : Bool → Json → Json) (schemas : List Json) :
    mapSchemas step schemas = schemas.map (mapSchema step true) := by
  induction schemas with
  | nil => rfl
  | cons schema rest ih => rw [mapSchemas, ih, List.map_cons]

theorem mapSchemaFields_eq (step : Bool → Json → Json) (fields : Keyed Json) :
    mapSchemaFields step fields =
      fields.map fun entry => (entry.1, mapField step entry.1 entry.2) := by
  induction fields with
  | nil => rfl
  | cons entry rest ih =>
      obtain ⟨key, value⟩ := entry
      rw [mapSchemaFields, ih]
      rfl

theorem get?_mapSchemaFields (step : Bool → Json → Json) (fields : Keyed Json) (key : String) :
    Keyed.get? (mapSchemaFields step fields) key =
      (Keyed.get? fields key).map (mapField step key) := by
  rw [mapSchemaFields_eq]
  exact Keyed.get?_map fields (mapField step) key

theorem agreeOff_mapSchemaFields (step : Bool → Json → Json) (h : AgreeOff aside fields other) :
    AgreeOff aside (mapSchemaFields step fields) (mapSchemaFields step other) := by
  rw [mapSchemaFields_eq, mapSchemaFields_eq]
  exact h.map (mapField step)

theorem distinct_mapSchemaFields (step : Bool → Json → Json) (h : Keyed.Distinct fields) :
    Keyed.Distinct (mapSchemaFields step fields) := by
  have hkeys : Keyed.keys (mapSchemaFields step fields) = Keyed.keys fields := by
    rw [mapSchemaFields_eq, Keyed.keys, List.map_map]
    rfl
  rw [Keyed.Distinct, hkeys]
  exact h

/-- What is taken out of fields goes by look-ups, and so does what is left. -/
theorem takeFields_congr (keys : List String) (h : AgreeOff aside fields other)
    (hfields : Keyed.Distinct fields) (hother : Keyed.Distinct other)
    (hkeys : ∀ key ∈ keys, key ∉ aside) :
    (takeFields keys fields).1 = (takeFields keys other).1 ∧
      AgreeOff aside (takeFields keys fields).2 (takeFields keys other).2 := by
  induction keys generalizing fields other with
  | nil => exact ⟨rfl, h⟩
  | cons key rest ih =>
      have hrest : ∀ key ∈ rest, key ∉ aside := fun name hname =>
        hkeys name (List.mem_cons_of_mem _ hname)
      have hkey := h key (hkeys key List.mem_cons_self)
      cases hfound : Keyed.get? other key with
      | none =>
          simp only [takeFields, hkey, hfound]
          exact ih h hfields hother hrest
      | some value =>
          have hagree := (h.cons key).swapOut hfields hother
          obtain ⟨htaken, hleft⟩ := ih hagree (hfields.swapOut key) (hother.swapOut key) hrest
          simp only [takeFields, hkey, hfound]
          exact ⟨congrArg ((key, value) :: ·) htaken, hleft⟩

/-- Taking fields out leaves the others. -/
theorem get?_takeFields (keys : List String) (hfields : Keyed.Distinct fields) {name : String}
    (hname : name ∉ keys) :
    Keyed.get? (takeFields keys fields).2 name = Keyed.get? fields name := by
  induction keys generalizing fields with
  | nil => rfl
  | cons key rest ih =>
      obtain ⟨hne, hrest⟩ := List.ne_and_not_mem_of_not_mem_cons hname
      simp only [takeFields]
      split
      · exact (ih (hfields.swapOut key) hrest).trans (by rw [hfields.get?_swapOut, if_neg hne])
      · exact ih hfields hrest

/-- What is taken out is what stood under the given keys. -/
theorem get?_takeFields_taken (keys : List String) (hfields : Keyed.Distinct fields)
    (name : String) :
    Keyed.get? (takeFields keys fields).1 name =
      if name ∈ keys then Keyed.get? fields name else none := by
  induction keys generalizing fields with
  | nil => rfl
  | cons key rest ih =>
      cases hfound : Keyed.get? fields key with
      | some value =>
          simp only [takeFields, hfound, Keyed.get?, ih (hfields.swapOut key), hfields.get?_swapOut]
          by_cases hname : key = name
          · simp [hname, ← hfound]
          · simp [hname, Ne.symm hname]
      | none =>
          simp only [takeFields, hfound, ih hfields]
          by_cases hname : name = key
          · simp [hname, hfound]
          · simp [hname]

/-- Nothing is left of the fields that are taken out. -/
theorem get?_takeFields_of_mem (keys : List String) (hfields : Keyed.Distinct fields)
    {name : String} (hname : name ∈ keys) : Keyed.get? (takeFields keys fields).2 name = none := by
  induction keys generalizing fields with
  | nil => cases hname
  | cons key rest ih =>
      by_cases hrest : name ∈ rest
      · simp only [takeFields]
        split
        · exact ih (hfields.swapOut key) hrest
        · exact ih hfields hrest
      · obtain rfl : name = key := (List.mem_cons.1 hname).resolve_right hrest
        cases hfound : Keyed.get? fields name with
        | some value =>
            simp only [takeFields, hfound]
            rw [get?_takeFields rest (hfields.swapOut name) hrest, hfields.get?_swapOut, if_pos rfl]
        | none =>
            simp only [takeFields, hfound]
            rw [get?_takeFields rest hfields hrest, hfound]

theorem moveOwnKeywords_congr (h : AgreeOff aside fields other)
    (hfields : Keyed.Distinct fields) (hother : Keyed.Distinct other)
    (haside : ∀ key ∈ objectKeys, key ∉ aside) :
    AgreeOff aside (moveOwnKeywords fields) (moveOwnKeywords other) := by
  obtain ⟨htaken, hleft⟩ := takeFields_congr objectKeys h hfields hother haside
  simp only [moveOwnKeywords, htaken]
  split
  · exact hleft
  · exact hleft.modify _ _

/-- Moving the object keywords changes these and the members of an `allOf` only. -/
theorem get?_moveOwnKeywords (hfields : Keyed.Distinct fields) {name : String}
    (hname : name ∉ "allOf" :: objectKeys) :
    Keyed.get? (moveOwnKeywords fields) name = Keyed.get? fields name := by
  obtain ⟨hall, hobject⟩ := List.ne_and_not_mem_of_not_mem_cons hname
  have hleft := get?_takeFields objectKeys hfields hobject
  simp only [moveOwnKeywords]
  split
  · exact hleft
  · rw [Keyed.get?_modify, if_neg hall, hleft]

theorem keepTitle_congr (h : AgreeOff aside fields other)
    (hfields : Keyed.Distinct fields) (hother : Keyed.Distinct other) (haside : "title" ∉ aside) :
    AgreeOff aside (keepTitle fields) (keepTitle other) := by
  simp only [keepTitle, h "title" haside]
  split
  · exact (((h.cons _).swapOut hfields hother).cons _).put _
  · exact h

/-- Keeping the title of an `anyOf` changes the keys for it only. -/
theorem get?_keepTitle (hfields : Keyed.Distinct fields) {name : String}
    (hname : name ∉ ["title", anyOfTitleKey]) :
    Keyed.get? (keepTitle fields) name = Keyed.get? fields name := by
  simp only [List.mem_cons, List.not_mem_nil, or_false, not_or] at hname
  unfold keepTitle
  split
  · rw [Keyed.get?_put, if_neg hname.2, hfields.get?_swapOut, if_neg hname.1]
  · rfl

/-- The fields of a composition without its type. -/
def composedFields (keyword : String) (fields : Keyed Json) : Keyed Json :=
  let untyped := Keyed.swapOut fields "type"
  if keyword = "allOf" then moveOwnKeywords untyped
  else if keyword = "anyOf" then keepTitle untyped
  else untyped

theorem shapeComposition_eq (keyword : String) (fields : Keyed Json) :
    shapeComposition keyword fields =
      if admitsNull (Keyed.get? fields "type") then orNull (.object (composedFields keyword fields))
      else .object (composedFields keyword fields) := rfl

/-- The type of a composition does not matter for its other fields. -/
theorem composedFields_congr (h : AgreeOff ("type" :: aside) fields other)
    (hfields : Keyed.Distinct fields) (hother : Keyed.Distinct other)
    (haside : ∀ key ∈ "title" :: objectKeys, key ∉ aside) (keyword : String) :
    AgreeOff aside (composedFields keyword fields) (composedFields keyword other) := by
  have huntyped := h.swapOut hfields hother
  unfold composedFields
  split_ifs
  · exact moveOwnKeywords_congr huntyped (hfields.swapOut _) (hother.swapOut _) fun key hkey =>
      haside key (List.mem_cons_of_mem _ hkey)
  · exact keepTitle_congr huntyped (hfields.swapOut _) (hother.swapOut _)
      (haside "title" List.mem_cons_self)
  · exact huntyped

/-- The other keywords of a composition in shape. -/
theorem get?_composedFields (kind : CompositionKind) (hfields : Keyed.Distinct fields)
    {name : String}
    (hname : name ∉ "type" :: "title" :: anyOfTitleKey :: kind.keyword :: objectKeys) :
    Keyed.get? (composedFields kind.keyword fields) name = Keyed.get? fields name := by
  simp only [List.mem_cons, not_or] at hname
  obtain ⟨htype, htitle, hkept, hkeyword, hobject⟩ := hname
  have huntyped : Keyed.get? (Keyed.swapOut fields "type") name = Keyed.get? fields name := by
    rw [hfields.get?_swapOut, if_neg htype]
  cases kind with
  | allOf =>
      exact (get?_moveOwnKeywords (hfields.swapOut _) (by simp_all [CompositionKind.keyword])).trans
        huntyped
  | anyOf => exact (get?_keepTitle (hfields.swapOut _) (by simp [htitle, hkept])).trans huntyped
  | oneOf => exact huntyped

/-- A composition in shape has no type. -/
theorem typeOf?_composedFields (hfields : Keyed.Distinct fields) (keyword : String) :
    typeOf? (composedFields keyword fields) = none := by
  have hnone : Keyed.get? (Keyed.swapOut fields "type") "type" = none := by
    rw [hfields.get?_swapOut, if_pos rfl]
  have htype : Keyed.get? (composedFields keyword fields) "type" = none := by
    unfold composedFields
    split_ifs
    · rw [get?_moveOwnKeywords (hfields.swapOut _) (by decide), hnone]
    · rw [get?_keepTitle (hfields.swapOut _) (by decide), hnone]
    · exact hnone
  rw [typeOf?, htype, Option.bind_none]

/-- The composition keyword that counts is found by look-ups. -/
theorem find?_compositionKeys_congr (h : AgreeOff ("type" :: flagKeys) fields other) :
    compositionKeys.find? (Keyed.has fields) = compositionKeys.find? (Keyed.has other) := by
  simp only [AgreeOff, flagKeys, List.mem_cons, not_or, and_imp] at h
  simp [compositionKeys, List.find?_cons, Keyed.has, h]

/-- When no composition keyword counts, there is none. -/
theorem get?_keyword_of_find?_eq_none (h : compositionKeys.find? (Keyed.has fields) = none)
    (kind : CompositionKind) : Keyed.get? fields kind.keyword = none := by
  have hkeyword := List.find?_eq_none.1 h kind.keyword (by cases kind <;> decide)
  simpa [Keyed.has] using hkeyword

theorem impliedType_congr (h : AgreeOff flagKeys fields other) :
    impliedType fields = impliedType other := by
  simp only [AgreeOff, flagKeys, List.mem_cons, not_or, and_imp] at h
  simp [impliedType, objectKeys, Keyed.has, h]

theorem shape_object (fields : Keyed Json) :
    shape (.object fields) = shapeFields (mapSchemaFields shapeStep fields) := rfl

/-- Bringing a choice into shape brings its members into shape. -/
theorem shape_choice (kind : CompositionKind) (members : List Json) :
    shape (choice kind members) = choice kind (members.map shape) := by
  have hmembers : mapSchemas shapeStep members = members.map shape :=
    mapSchemas_eq shapeStep members
  cases kind <;>
    simp [choice, shape_object, mapSchemaFields, mapSchemaList, schemaKeys, schemaListKeys,
      CompositionKind.keyword, hmembers, shapeFields, compositionKeys, Keyed.has, Keyed.get?,
      shapeComposition, Keyed.swapOut, moveOwnKeywords, takeFields, objectKeys,
      keepTitle, admitsNull]

/-- The schema that a value is read as once it is in shape. -/
def readingOf? (address : Option String) (schema : Json) : Option Reading :=
  (readings address (shape schema)).asUse

/-- A choice between a schema and `null` is read as the schema is, and admits `null`. -/
theorem readingOf?_choice {kind : CompositionKind} (hkind : kind ≠ .allOf) {schema : Json}
    {reading : Reading} (hread : readingOf? address schema = some reading)
    (hnull : reading.isNull = false) {members : List Json}
    (hmembers : members = [schema, nullSchema] ∨ members = [nullSchema, schema]) :
    readingOf? address (choice kind members) = some ⟨reading.use, true, false⟩ := by
  have hshape : shape nullSchema = nullSchema := rfl
  rw [readingOf?] at hread
  rw [readingOf?, shape_choice, asUse_choice]
  rcases hmembers with rfl | rfl
  · simp only [List.map_cons, List.map_nil, hshape, hread, asUse_nullSchema, allPresent,
      Option.map_some]
    rw [compositionReading_orNull hkind hnull (.inl rfl)]
  · simp only [List.map_cons, List.map_nil, hshape, hread, asUse_nullSchema, allPresent,
      Option.map_some]
    rw [compositionReading_orNull hkind hnull (.inr rfl)]

/-- The reading of a schema depends on its keywords only, also when it is not yet in shape. -/
theorem readingOf?_congr (h : AgreeOff flagKeys fields other) (hfields : Keyed.Distinct fields)
    (hother : Keyed.Distinct other) :
    readingOf? address (.object fields) = readingOf? address (.object other) := by
  have hmapped := agreeOff_mapSchemaFields shapeStep h
  have hfields := distinct_mapSchemaFields shapeStep hfields
  have hother := distinct_mapSchemaFields shapeStep hother
  simp only [readingOf?, shape_object]
  generalize mapSchemaFields shapeStep fields = fields at *
  generalize mapSchemaFields shapeStep other = other at *
  simp only [shapeFields, hmapped.has_eq (show "$ref" ∉ flagKeys by decide),
    find?_compositionKeys_congr (hmapped.cons _)]
  split
  · exact asUse_congr hmapped
  · split
    · next keyword hkeyword =>
        have hcomposed := composedFields_congr (hmapped.cons _) hfields hother (by decide) keyword
        rw [shapeComposition_eq, shapeComposition_eq, hmapped "type" (by decide)]
        split
        · rw [asUse_orNull_eq, asUse_orNull_eq, asUse_congr hcomposed]
        · exact asUse_congr hcomposed
    · rw [putIfMissing, putIfMissing, hmapped.has_eq (show "type" ∉ flagKeys by decide),
        impliedType_congr hmapped]
      split
      · exact asUse_congr hmapped
      · exact asUse_congr ((hmapped.cons _).put _)

/-- The word that the type keyword of a schema writes. -/
def typeWord? (fields : Keyed Json) : Option String :=
  (Keyed.get? fields "type").bind wordOf?

theorem TypeWord.parse?_eq_null_iff {word : String} :
    TypeWord.parse? word = some .null ↔ word = "null" := by
  constructor
  · intro h
    unfold TypeWord.parse? at h
    split at h <;> first | rfl | cases h
  · rintro rfl
    rfl

/-- A type keyword that says just `null` writes the word for it. -/
theorem wordOf?_of_ofJson? {value : Json} (h : TypeSpec.ofJson? value = some (.one .null)) :
    wordOf? value = some "null" := by
  unfold TypeSpec.ofJson? at h
  split at h
  · simp at h
  · cases h
  · rw [Option.map_eq_some_iff] at h
    obtain ⟨word, hword, hnull⟩ := h
    cases hnull
    obtain ⟨text, htext, hparse⟩ := Option.bind_eq_some_iff.1 hword
    rw [htext, TypeWord.parse?_eq_null_iff.1 hparse]

/-- No value but `null` is of a type named so. -/
theorem typeOfValue?_ne_null (value : Json) : typeOfValue? value ≠ some "null" := by
  unfold typeOfValue?
  split <;> decide

/-- The type that the keywords of a schema imply is never just `null`. -/
theorem ofJson?_impliedType (fields : Keyed Json) :
    TypeSpec.ofJson? (impliedType fields) ≠ some (.one .null) := by
  intro h
  have hword := wordOf?_of_ofJson? h
  unfold impliedType at hword
  split_ifs at hword
  · exact absurd hword (by decide)
  · exact absurd hword (by decide)
  · cases hliteral : ((Keyed.get? fields "enum").bind Json.array?).bind typeOfLiterals? with
    | none =>
        rw [hliteral] at hword
        cases hword
    | some type =>
        rw [hliteral] at hword
        cases hword
        obtain ⟨literals, _, htype⟩ := Option.bind_eq_some_iff.1 hliteral
        unfold typeOfLiterals? at htype
        split at htype <;> first | cases htype | exact typeOfValue?_ne_null _ htype

/-- Only a schema whose type is the word for it is just `null`, also when it is not yet in shape. -/
theorem isNull_of_readingOf? {reading : Reading} (hfields : Keyed.Distinct fields)
    (hread : readingOf? address (.object fields) = some reading)
    (htype : typeWord? fields ≠ some "null") : reading.isNull = false := by
  rw [Bool.eq_false_iff]
  intro hnull
  have hmapped := distinct_mapSchemaFields shapeStep hfields
  have hsame : Keyed.get? (mapSchemaFields shapeStep fields) "type" = Keyed.get? fields "type" := by
    rw [get?_mapSchemaFields]
    exact Option.map_id'
  have hfound : typeOf? (mapSchemaFields shapeStep fields) ≠ some (.one .null) := by
    intro h
    rw [typeOf?, hsame] at h
    obtain ⟨value, hvalue, hspec⟩ := Option.bind_eq_some_iff.1 h
    exact htype (by rw [typeWord?, hvalue, Option.bind_some, wordOf?_of_ofJson? hspec])
  rw [readingOf?, shape_object, shapeFields] at hread
  split at hread
  · exact hfound (typeOf?_of_isNull hread hnull)
  · split at hread
    · next keyword _ =>
        rw [shapeComposition_eq] at hread
        split at hread
        · cases typeOf?_of_isNull hread hnull
        · cases (typeOf?_composedFields hmapped keyword).symm.trans (typeOf?_of_isNull hread hnull)
    · rw [putIfMissing] at hread
      split at hread
      · exact hfound (typeOf?_of_isNull hread hnull)
      · have himplied := typeOf?_of_isNull hread hnull
        rw [typeOf?, Keyed.get?_put, if_pos rfl, Option.bind_some] at himplied
        exact ofJson?_impliedType _ himplied

end SchemaGraph.Document
