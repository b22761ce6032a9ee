import SchemaGraph.Proofs.Document.Places

/-!
# Other names for properties

The properties of an object schema may be given other names that are no keywords for the passes.
The schema is then read as before, up to these names, and so is every schema that holds it at the
end of a path of places (`RenamesAt.normalReading?_eq`).
-/

namespace SchemaGraph

namespace Document

variable {address : Option String} {fields properties schemas : Keyed Json}

/-- A change to a text; other values stay as they are. -/
def onText (change : String → String) : Json → Json
  | .string text => .string (change text)
  | value => value

/-- The texts of a list under other names. -/
def renameTexts (rename : String → String) : Json → Json
  | .array items => .array (items.map (onText rename))
  | value => value

/-- The fields of an object schema with other names for its properties, also where it requires
them. -/
def renameProperties (rename : String → String) (fields : Keyed Json) : Keyed Json :=
  Keyed.modify (Keyed.modify fields "properties" (onObject (Keyed.renameKeys rename))) "required"
    (renameTexts rename)

/-- The object schema with other names for its properties. -/
def renameObject (rename : String → String) (object : ObjectShape) : ObjectShape where
  properties := Keyed.renameKeys rename object.properties
  required := NameSet.addAll [] (object.required.map rename)
  nullable := object.nullable.map rename
  docs := object.docs

/-- A schema with other names for the properties of the object schema at the end of a path. -/
def renameAt (rename : String → String) (path : List Place) : Json → Json :=
  path.foldr (fun place change => onObject fun fields => place.changeFields change fields)
    (onObject (renameProperties rename))

/-- Change an object schema; other schemas stay as they are. -/
def onObjectShape (change : ObjectShape → ObjectShape) : Schema → Schema
  | .object object => .object (change object)
  | schema => schema

/-- A schema of the table with other names for the properties of the object at the end of a path. -/
def renameSchema (rename : String → String) (path : List Place) : Schema → Schema :=
  changeAlong path (onObjectShape (renameObject rename))

section Renaming

variable {rename : String → String}

theorem texts_renameTexts (rename : String → String) (value : Json) :
    isTextList (renameTexts rename value) = isTextList value ∧
      namesIn (renameTexts rename value) = (namesIn value).map rename := by
  cases value with
  | array items =>
      have htext : isText ∘ onText rename = isText := funext fun value => by cases value <;> rfl
      have hname (value : Json) : (onText rename value).string? = value.string?.map rename := by
        cases value <;> rfl
      simp [renameTexts, isTextList, namesIn, Json.array?, List.all_map, htext,
        List.filterMap_map, List.map_filterMap, hname]
  | null | bool | number | string | object => exact ⟨rfl, rfl⟩

/-- The names of an object are renamed with the properties that they are read from. -/
theorem renameObject_objectOf (rename : String → String) (found : Keyed Reading)
    (required : List String) (docs : Docs) :
    renameObject rename (objectOf found required docs) =
      objectOf (Keyed.renameKeys rename found) (required.map rename) docs := by
  have hrequired : NameSet.addAll [] ((NameSet.addAll [] required).map rename) =
      NameSet.addAll [] (required.map rename) := NameSet.addAll_map rename
  simp only [renameObject, objectOf, hrequired, Keyed.renameKeys, Keyed.mapValues, List.map_map,
    List.filter_map]
  rfl

/-- Other names for the properties of an object schema. -/
theorem otherProperties_renameProperties (h : HoldsProperties fields properties)
    (rename : String → String) :
    OtherProperties fields properties (renameProperties rename fields)
      (Keyed.renameKeys rename properties) ∧
    requiredNames (renameProperties rename fields) = (requiredNames fields).map rename := by
  have hrequired : Keyed.get? (renameProperties rename fields) "required" =
      (Keyed.get? fields "required").map (renameTexts rename) := by
    rw [renameProperties, Keyed.get?_modify, if_pos rfl, Keyed.get?_modify, if_neg (by decide)]
  have htexts : allows (renameProperties rename fields) isTextList "required" =
        allows fields isTextList "required" ∧
      requiredNames (renameProperties rename fields) = (requiredNames fields).map rename := by
    rw [allows, allows, requiredNames, requiredNames, hrequired]
    cases Keyed.get? fields "required" with
    | none => exact ⟨rfl, rfl⟩
    | some value => exact texts_renameTexts rename value
  refine ⟨⟨?_, h.properties_eq, ?_, fun hnil => List.map_eq_nil_iff.1 hnil, htexts.1.symm, ?_⟩,
    htexts.2⟩
  · exact ((Keyed.agreeOff_modify (by decide) _ _).trans
      (Keyed.agreeOff_modify (by decide) _ _)).symm
  · rw [renameProperties, Keyed.get?_modify, if_neg (by decide), Keyed.get?_modify, if_pos rfl,
      h.properties_eq]
    rfl
  · rw [htexts.2]
    exact List.map_eq_nil_iff.1

/-- Another schema for a property of an object schema. -/
theorem otherProperties_modify (h : HoldsProperties fields properties) (name : String)
    (change : Json → Json) :
    OtherProperties fields properties
      (Keyed.modify fields "properties" (onObject fun properties =>
        Keyed.modify properties name change))
      (Keyed.modify properties name change) := by
  have hrequired : Keyed.get? (Keyed.modify fields "properties" (onObject fun properties =>
      Keyed.modify properties name change)) "required" = Keyed.get? fields "required" := by
    rw [Keyed.get?_modify, if_neg (by decide)]
  refine ⟨(Keyed.agreeOff_modify (by decide) _ _).symm, h.properties_eq, ?_,
    fun hnil => List.map_eq_nil_iff.1 hnil, ?_, ?_⟩
  · rw [Keyed.get?_modify, if_pos rfl, h.properties_eq]
    rfl
  · rw [allows, allows, hrequired]
  · rw [requiredNames, hrequired]
    exact id

/-- Another schema under one of the names changes its reading. -/
theorem namedReadings?_modify {found : Keyed Reading} {name : String} {change : Json → Json}
    {step : Reading → Reading}
    (h : namedReadings? address (Keyed.mapValues schemas normalizeSchema) = some found)
    (hchange : ∀ schema reading, (name, schema) ∈ schemas →
      normalReading? address schema = some reading →
        normalReading? address (change schema) = some (step reading)) :
    namedReadings? address (Keyed.mapValues (Keyed.modify schemas name change) normalizeSchema) =
      some (Keyed.modify found name step) := by
  induction schemas generalizing found with
  | nil =>
      cases h
      rfl
  | cons entry rest ih =>
      obtain ⟨first, schema⟩ := entry
      obtain ⟨reading, more, hreading, hmore, rfl⟩ := namedReadings?_cons_eq_some_iff.1 h
      have hrest := ih hmore fun schema reading hmem =>
        hchange schema reading (List.mem_cons_of_mem _ hmem)
      by_cases hname : first = name
      · subst hname
        have hfirst := hchange schema reading List.mem_cons_self hreading
        simp only [Keyed.modify, List.map_cons, if_true]
        exact namedReadings?_cons_eq_some_iff.2 ⟨_, _, hfirst, hrest, rfl⟩
      · simp only [Keyed.modify, List.map_cons, hname, if_false]
        exact namedReadings?_cons_eq_some_iff.2 ⟨_, _, hreading, hrest, rfl⟩

/-- A change to what a property is read as, but not to whether it admits `null`, changes an object
in this property only. -/
theorem objectOf_modify (found : Keyed Reading) (required : List String) (docs : Docs)
    (name : String) (change : SchemaUse → SchemaUse) :
    objectOf (Keyed.modify found name fun reading => { reading with use := change reading.use })
        required docs =
      { objectOf found required docs with
        properties := Keyed.modify (objectOf found required docs).properties name change } := by
  let changed (entry : String × Reading) : String × Reading :=
    if entry.1 = name then (entry.1, { entry.2 with use := change entry.2.use }) else entry
  have hmodify : (Keyed.modify found name fun reading =>
      { reading with use := change reading.use }) = found.map changed := rfl
  have hname : Prod.fst ∘ changed = Prod.fst := funext fun entry => by
    simp only [Function.comp_apply, changed]
    split <;> rfl
  have hflag : (fun entry : String × Reading => entry.2.nullable) ∘ changed =
      fun entry => entry.2.nullable := funext fun entry => by
    simp only [Function.comp_apply, changed]
    split <;> rfl
  have hproperties : Keyed.mapValues (found.map changed) Reading.use =
      Keyed.modify (Keyed.mapValues found Reading.use) name change := by
    simp only [Keyed.mapValues, Keyed.modify, List.map_map]
    refine List.map_congr_left fun entry _ => ?_
    simp only [Function.comp_apply, changed]
    split <;> rfl
  simp only [objectOf, hmodify, hproperties, List.filter_map, List.map_map, hname, hflag]

theorem keepsEmpty_renameSchema (path : List Place) : KeepsEmpty (renameSchema rename path) :=
  KeepsEmpty.changeAlong ⟨rfl, rfl⟩ path

/-- At the end of a path there is an object schema, and the schemas on the way to it can be read.
The names of properties on the path are ordinary, and so are those of the last schema, also after
they are changed. The second path leads to what the last schema is converted to. -/
inductive RenamesAt (address : Option String) (rename : String → String) :
    List Place → List Place → Json → Prop
  | own {fields properties : Keyed Json} {object : ObjectShape}
      (h : HoldsProperties fields properties)
      (huse : (converted address (.object fields)).use = .inline (.object object))
      (hrenamed : OrdinaryNames (Keyed.renameKeys rename properties)) :
      RenamesAt address rename [] [] (.object fields)
  | property {fields properties : Keyed Json} {object : ObjectShape} {name : String}
      {path target : List Place} (h : HoldsProperties fields properties)
      (huse : (converted address (.object fields)).use = .inline (.object object))
      (hinside : ∀ schema, (name, schema) ∈ properties →
        RenamesAt address rename path target schema) :
      RenamesAt address rename (.property name :: path) (.property name :: target) (.object fields)
  | items {fields : Keyed Json} {schema : Json} {path target : List Place} (hplain : IsPlain fields)
      (hdistinct : Keyed.Distinct fields)
      (hread : (normalReading? address (.object fields)).isSome)
      (hitems : Keyed.get? fields "items" = some schema)
      (hinside : RenamesAt address rename path target schema) :
      RenamesAt address rename (.items :: path) (.items :: target) (.object fields)
  | values {fields : Keyed Json} {schema : Json} {path target : List Place}
      (hplain : IsPlain fields)
      (hdistinct : Keyed.Distinct fields)
      (hread : (normalReading? address (.object fields)).isSome)
      (hvalues : Keyed.get? fields "additionalProperties" = some schema)
      (hinside : RenamesAt address rename path target schema) :
      RenamesAt address rename (.values :: path) (.values :: target) (.object fields)
  | member {kind : CompositionKind} {fields : Keyed Json} {before after : List Json}
      {foundBefore foundAfter : List Reading} {schema : Json} {reading : Reading}
      {path target : List Place} (hcomposed : IsComposed kind fields)
      (hdistinct : Keyed.Distinct fields)
      (hread : (normalReading? address (.object fields)).isSome)
      (hmembers : Keyed.get? fields kind.keyword = some (.array (before ++ schema :: after)))
      (hbefore : allPresent (before.map (normalReading? address)) = some foundBefore)
      (hmember : normalReading? address schema = some reading) (hnull : reading.isNull = false)
      (hafter : allPresent (after.map (normalReading? address)) = some foundAfter)
      (hinside : RenamesAt address rename path target schema) :
      RenamesAt address rename (.member kind before.length :: path)
        (memberPlaces kind foundBefore reading foundAfter ++ target) (.object fields)

/-- Renaming does not turn anything into a text or a Boolean. -/
theorem string?_renameAt (path : List Place) {schema : Json} (h : schema.string? = none) :
    (renameAt rename path schema).string? = none := by
  cases path <;> cases schema <;> first | rfl | exact h

theorem RenamesAt.bool?_eq {path target : List Place} {schema : Json}
    (h : RenamesAt address rename path target schema) :
    schema.bool? = none ∧ (renameAt rename path schema).bool? = none := by
  cases h <;> exact ⟨rfl, rfl⟩

/-- Changing the value of a key. -/
theorem otherValue_modify {key : String} {value : Json} (hdistinct : Keyed.Distinct fields)
    (hvalue : Keyed.get? fields key = some value) (change : Json → Json) :
    OtherValue key fields (Keyed.modify fields key change) value (change value) :=
  ⟨hdistinct, hdistinct.modify key change, (Keyed.agreeOff_modify List.mem_cons_self _ _).symm,
    hvalue, by rw [Keyed.get?_modify, if_pos rfl, hvalue]; rfl⟩

/-- A schema with other names for the properties of an object schema inside it is read as before, up
to these names. -/
theorem RenamesAt.normalReading?_eq {path target : List Place} {schema : Json}
    (h : RenamesAt address rename path target schema) :
    ∃ reading, normalReading? address schema = some reading ∧
      normalReading? address (renameAt rename path schema) =
        some (reading.mapInline (renameSchema rename target)) := by
  induction h with
  | @own fields properties object h huse hrenamed =>
      obtain ⟨reading, hread, huse⟩ := exists_readingOf?_of_use huse
      obtain ⟨found, docs, hfound, hobject, hothers⟩ := h.exists_objectOf hread huse
      obtain ⟨hother, hrequired⟩ := otherProperties_renameProperties h rename
      refine ⟨reading, hread, ?_⟩
      have hdistinct := (h.distinct.modify "properties" (onObject (Keyed.renameKeys rename))).modify
        "required" (renameTexts rename)
      have hnew : namedReadings? address
          (Keyed.mapValues (Keyed.renameKeys rename properties) normalizeSchema) =
            some (Keyed.renameKeys rename found) := by
        rw [Keyed.mapValues_renameKeys]
        exact namedReadings?_renameKeys hfound rename
      have hrenamed := hothers hother hdistinct hrenamed hnew
      rw [hrequired, ← renameObject_objectOf, ← hobject] at hrenamed
      refine hrenamed.trans ?_
      rw [Reading.mapInline, huse]
      rfl
  | @property fields properties object name path target h huse hinside ih =>
      obtain ⟨reading, hread, huse⟩ := exists_readingOf?_of_use huse
      obtain ⟨found, docs, hfound, hobject, hothers⟩ := h.exists_objectOf hread huse
      have hother := otherProperties_modify h name (renameAt rename path)
      have hrequired : requiredNames (Keyed.modify fields "properties" (onObject fun properties =>
          Keyed.modify properties name (renameAt rename path))) = requiredNames fields := by
        rw [requiredNames, Keyed.get?_modify, if_neg (by decide), requiredNames]
      have hnew := namedReadings?_modify hfound fun schema reading hmem hreading => by
        obtain ⟨inner, hinner, hrenamed⟩ := ih schema hmem
        cases hinner.symm.trans hreading
        exact hrenamed
      refine ⟨reading, hread, ?_⟩
      have hnames : OrdinaryNames (Keyed.modify properties name (renameAt rename path)) :=
        h.ordinary.modify name fun _ => string?_renameAt path
      have hrenamed := hothers hother (h.distinct.modify _ _) hnames hnew
      have hobjectOf :
          objectOf (Keyed.modify found name (Reading.mapInline (renameSchema rename target)))
            (requiredNames fields) docs = { object with
              properties := Keyed.modify object.properties name
                (Use.mapInline (renameSchema rename target)) } :=
        hobject ▸ objectOf_modify found (requiredNames fields) docs name _
      rw [hrequired, hobjectOf] at hrenamed
      refine hrenamed.trans ?_
      rw [Reading.mapInline, huse]
      rfl
  | @items fields schema path target hplain hdistinct hread hitems hinside ih =>
      obtain ⟨inner, hinner, hrenamed⟩ := ih
      obtain ⟨reading, hread⟩ := Option.isSome_iff_exists.1 hread
      have hother := otherValue_modify hdistinct hitems (renameAt rename path)
      refine ⟨reading, hread, ?_⟩
      have hchanged :=
        hplain.normalReading?_items hother hinner hrenamed (keepsEmpty_renameSchema target)
      exact hchanged.trans (by rw [hread]; rfl)
  | @values fields schema path target hplain hdistinct hread hvalues hinside ih =>
      obtain ⟨inner, hinner, hrenamed⟩ := ih
      obtain ⟨reading, hread⟩ := Option.isSome_iff_exists.1 hread
      have hother := otherValue_modify hdistinct hvalues (renameAt rename path)
      obtain ⟨hbool, hbool'⟩ := hinside.bool?_eq
      refine ⟨reading, hread, ?_⟩
      exact (hplain.normalReading?_values hother hbool hbool' hinner hrenamed
        (keepsEmpty_renameSchema target)).trans (by rw [hread]; rfl)
  | @member kind fields before after foundBefore foundAfter schema found path target hcomposed
      hdistinct hread hmembers hbefore hmember hnull hafter hinside ih =>
      obtain ⟨inner, hinner, hrenamed⟩ := ih
      cases hinner.symm.trans hmember
      obtain ⟨reading, hread⟩ := Option.isSome_iff_exists.1 hread
      have hother := otherValue_modify hdistinct hmembers
        (changeItem before.length (renameAt rename path))
      rw [changeItem, modify_length_append] at hother
      refine ⟨reading, hread, ?_⟩
      refine (hcomposed.normalReading?_member hother hbefore hmember hafter hnull hrenamed
        (keepsEmpty_renameSchema target)).trans ?_
      rw [hread, renameSchema, renameSchema, changeAlong_append]
      rfl

/-- The entry of a schema with other names for the properties of an object schema inside it is what
it was, up to these names. -/
theorem RenamesAt.entryOf_converted {path target : List Place} {schema : Json}
    (h : RenamesAt address rename path target schema) :
    entryOf (converted address (renameAt rename path schema)).use =
      renameSchema rename target (entryOf (converted address schema).use) := by
  have hentry (use : SchemaUse) : entryOf (use.mapInline (renameSchema rename target)) =
      renameSchema rename target (entryOf use) := by
    cases use with
    | named reference =>
        rcases target with _ | ⟨_ | _ | _ | _, target⟩ <;> rfl
    | inline schema => rfl
  obtain ⟨reading, hread, hrenamed⟩ := h.normalReading?_eq
  rw [converted, convert_eq_of_readingOf? hrenamed, converted, convert_eq_of_readingOf? hread]
  exact hentry reading.use

end Renaming

end Document
end SchemaGraph
