import SchemaGraph.Document.Load
import SchemaGraph.Proofs.Document.Equivariance
import SchemaGraph.Proofs.Document.Redirection
import SchemaGraph.Proofs.Document.Renaming

/-!
# The schemas of a loaded document

The table of a document holds under each ordinary name what its schema is converted to, and a
document that is loaded still is with other schemas (`SchemaPlace.ofValue_withSchemas`). So names of
schemas and of properties play no role but that of names: another one changes the table by this name
only (`ofValue_renamed`).
-/

namespace SchemaGraph.Document

open Keyed (AgreeOff)

variable {document components schemas other : Keyed Json}

/-- The document holds its schemas among these components. -/
structure HoldsComponents (document components schemas : Keyed Json) : Prop where
  documentDistinct : Keyed.Distinct document
  componentsDistinct : Keyed.Distinct components
  schemasDistinct : Keyed.Distinct schemas
  components_eq : Keyed.get? document "components" = some (.object components)
  schemas_eq : Keyed.get? components "schemas" = some (.object schemas)
  /-- Components with a flag for nullability would become a choice. -/
  noFlag : holdsFlag components = false

/-- The document holds its schemas as definitions, the place for them in the older format. -/
structure HoldsDefinitions (document schemas : Keyed Json) : Prop where
  documentDistinct : Keyed.Distinct document
  schemasDistinct : Keyed.Distinct schemas
  definitions_eq : Keyed.get? document "definitions" = some (.object schemas)
  noComponents : Keyed.get? document "components" = none

/-- Where a document holds its schemas. -/
inductive SchemaPlace where
  | components (components : Keyed Json)
  | definitions

/-- The document holds the schemas in this place. -/
def SchemaPlace.Holds : SchemaPlace → Keyed Json → Keyed Json → Prop
  | .components components, document, schemas => HoldsComponents document components schemas
  | .definitions, document, schemas => HoldsDefinitions document schemas

/-- The components with other schemas. -/
def componentsWith (components schemas : Keyed Json) : Keyed Json :=
  Keyed.put components "schemas" (.object schemas)

/-- The document with other schemas in this place. -/
def SchemaPlace.withSchemas : SchemaPlace → Keyed Json → Keyed Json → Keyed Json
  | .components components, document, schemas =>
      Keyed.put document "components" (.object (componentsWith components schemas))
  | .definitions, document, schemas => Keyed.put document "definitions" (.object schemas)

/-- The components with schemas that are free of Booleans. -/
def plainComponents (components : Keyed Json) : Keyed Json :=
  Keyed.modify components "schemas" normalizeNamedBooleans

/-- The document with schemas that are free of Booleans. -/
def plainDocument (document : Keyed Json) : Keyed Json :=
  Keyed.modify (Keyed.modify document "components" (onObject plainComponents)) "definitions"
    normalizeNamedBooleans

/-- The fields of a document in normal form. -/
def normalDocument (document : Keyed Json) : Keyed Json :=
  settledFields (plainDocument document)

/-- A document is loaded when it is not put into a choice and can be read, of a known version. -/
theorem ofValue_eq_ok_iff {loaded : Loaded} :
    ofValue (.object document) = .ok loaded ↔
      becomesChoice (visitedFields (plainDocument document)) = false ∧
        ∃ root, Root.read? (normalDocument document) = some root ∧ versionFault? root = none ∧
          loaded = ofRoot root := by
  have hnormal : normalize (.object document) = settle (.object (plainDocument document)) := rfl
  rw [ofValue, hnormal, settle_object]
  cases becomesChoice (visitedFields (plainDocument document)) with
  | true =>
      -- A choice declares no version.
      simp only [if_true, Bool.true_eq_false, false_and, iff_false]
      intro h
      cases h
  | false =>
      simp only [Bool.false_eq_true, if_false, true_and, Json.object?, Option.bind_some,
        normalDocument]
      cases Root.read? (settledFields (plainDocument document)) with
      | none => simp
      | some root => cases hversion : versionFault? root <;> simp [hversion, eq_comm]

section Normal

variable {key : String}

theorem distinct_plainDocument (h : Keyed.Distinct document) :
    Keyed.Distinct (plainDocument document) :=
  (h.modify _ _).modify _ _

/-- A part of a document that no pass touches is settled on its own. -/
theorem get?_normalDocument (h : Keyed.Distinct document) (hkey : key ∉ passKeys) :
    Keyed.get? (normalDocument document) key =
      (Keyed.get? (plainDocument document) key).map settle := by
  have hkeeps := keepsFields_settledFields (distinct_plainDocument h)
  exact (hkeeps.agree key hkey).trans (Keyed.get?_mapValues _ _ _)

/-- Another value under a key that no pass looks for leaves the other parts of a document in normal
form as they are. -/
theorem alikeOff_put (h : Keyed.Distinct document) (hkey : key ∉ settleKeys) (value : Json) :
    becomesChoice (visitedFields (plainDocument document)) =
        becomesChoice (visitedFields (plainDocument (Keyed.put document key value))) ∧
      AgreeOff [key] (normalDocument document) (normalDocument (Keyed.put document key value)) := by
  have hagree : AgreeOff [key] document (Keyed.put document key value) :=
    (Keyed.agreeOff_put List.mem_cons_self document value).symm
  have halike :
      AlikeOff [key] (plainDocument document) (plainDocument (Keyed.put document key value)) :=
    ⟨distinct_plainDocument h, distinct_plainDocument (h.put key value),
      (hagree.modify _ _).modify _ _⟩
  have haside : ∀ name ∈ settleKeys, name ∉ [key] := by
    intro name hname hmem
    exact hkey (List.mem_singleton.1 hmem ▸ hname)
  exact (halike.settledFields haside).imp id AlikeOff.agree

/-- A map of schemas that is free of Booleans is settled schema by schema. -/
theorem settle_normalizeNamedBooleans (hnames : OrdinaryNames schemas) :
    settle (normalizeNamedBooleans (.object schemas)) =
      .object (Keyed.mapValues schemas normalizeSchema) :=
  hnames.settle_eq

end Normal

namespace HoldsComponents

/-- The components of a document in normal form are in normal form. Without a flag they stay an
object. -/
theorem get?_normalDocument (h : HoldsComponents document components schemas) :
    Keyed.get? (normalDocument document) "components" =
      some (.object (settledFields (plainComponents components))) := by
  have hcomponents : Keyed.get? (plainDocument document) "components" =
      some (.object (plainComponents components)) := by
    rw [plainDocument, Keyed.get?_modify, if_neg (by decide), Keyed.get?_modify, if_pos rfl,
      h.components_eq]
    rfl
  have hflag : holdsFlag (plainComponents components) = false := by
    have hagree : AgreeOff ["schemas"] (plainComponents components) components :=
      Keyed.agreeOff_modify (by decide) _ _
    rw [holdsFlag_congr hagree (by decide)]
    exact h.noFlag
  rw [Document.get?_normalDocument h.documentDistinct (by decide), hcomponents, Option.map_some,
    settle_object, becomesChoice_visitedFields hflag, if_neg Bool.false_ne_true]

/-- The schemas of a document in normal form are in normal form, one by one. -/
theorem get?_normalComponents (h : HoldsComponents document components schemas)
    (hnames : OrdinaryNames schemas) :
    Keyed.get? (settledFields (plainComponents components)) "schemas" =
      some (.object (Keyed.mapValues schemas normalizeSchema)) := by
  have hkeeps := keepsFields_settledFields
    (h.componentsDistinct.modify "schemas" normalizeNamedBooleans)
  refine (hkeeps.agree "schemas" (by decide)).trans ?_
  rw [Keyed.get?_mapValues, Keyed.get?_modify, if_pos rfl, h.schemas_eq, Option.map_some,
    Option.map_some, settle_normalizeNamedBooleans hnames]

/-- Components hold the schemas that are put into them. -/
theorem withSchemas (h : HoldsComponents document components schemas)
    (hother : Keyed.Distinct other) :
    HoldsComponents (Keyed.put document "components" (.object (componentsWith components other)))
      (componentsWith components other) other where
  documentDistinct := h.documentDistinct.put _ _
  componentsDistinct := h.componentsDistinct.put _ _
  schemasDistinct := hother
  components_eq := (Keyed.get?_put _ _ _ _).trans (if_pos rfl)
  schemas_eq := (Keyed.get?_put _ _ _ _).trans (if_pos rfl)
  noFlag := by
    have hagree : AgreeOff ["schemas"] (componentsWith components other) components :=
      Keyed.agreeOff_put (by decide) _ _
    rw [holdsFlag_congr hagree (by decide)]
    exact h.noFlag

/-- Other schemas do not matter for the other components. -/
theorem agreeOff_withSchemas (h : HoldsComponents document components schemas)
    (other : Keyed Json) :
    AgreeOff ["schemas"] (settledFields (plainComponents components))
      (settledFields (plainComponents (componentsWith components other))) := by
  have hagree : AgreeOff ["schemas"] components (componentsWith components other) :=
    (Keyed.agreeOff_put List.mem_cons_self _ _).symm
  have halike : AlikeOff ["schemas"] (plainComponents components)
      (plainComponents (componentsWith components other)) :=
    ⟨h.componentsDistinct.modify _ _, (h.componentsDistinct.put _ _).modify _ _, hagree.modify _ _⟩
  exact (halike.settledFields (by decide)).2.agree

end HoldsComponents

namespace HoldsDefinitions

/-- The definitions of a document in normal form are in normal form, one by one. -/
theorem get?_normalDocument (h : HoldsDefinitions document schemas)
    (hnames : OrdinaryNames schemas) :
    Keyed.get? (normalDocument document) "definitions" =
      some (.object (Keyed.mapValues schemas normalizeSchema)) := by
  rw [Document.get?_normalDocument h.documentDistinct (by decide), plainDocument, Keyed.get?_modify,
    if_pos rfl, Keyed.get?_modify, if_neg (by decide), h.definitions_eq, Option.map_some,
    Option.map_some, settle_normalizeNamedBooleans hnames]

/-- A document without components has none in normal form. -/
theorem get?_normalDocument_components (h : HoldsDefinitions document schemas) :
    Keyed.get? (normalDocument document) "components" = none := by
  rw [Document.get?_normalDocument h.documentDistinct (by decide), plainDocument, Keyed.get?_modify,
    if_neg (by decide), Keyed.get?_modify, if_pos rfl, h.noComponents]
  rfl

/-- A document holds the definitions that are put into it. -/
theorem withSchemas (h : HoldsDefinitions document schemas) (hother : Keyed.Distinct other) :
    HoldsDefinitions (Keyed.put document "definitions" (.object other)) other where
  documentDistinct := h.documentDistinct.put _ _
  schemasDistinct := hother
  definitions_eq := (Keyed.get?_put _ _ _ _).trans (if_pos rfl)
  noComponents := (Keyed.get?_put _ _ _ _).trans h.noComponents

end HoldsDefinitions

section Reading

variable {fields otherFields : Keyed Json} {root : Root}

theorem allPresent_map_some {α : Type} (items : List α) :
    allPresent (items.map some) = some items := by
  induction items with
  | nil => rfl
  | cons item rest ih => simp [allPresent, ih]

/-- Schemas are read as they are written. -/
theorem namedParts?_some {key : String} (h : Keyed.get? fields key = some (.object schemas)) :
    namedParts? some fields key = some schemas := by
  simp only [namedParts?, h, Json.object?, Option.bind_some, Option.map_some]
  exact allPresent_map_some schemas

theorem optionalPart?_of_get? {key : String} {value : Keyed Json}
    (h : Keyed.get? fields key = some (.object value)) {α : Type} (read : Json → Option α) :
    optionalPart? read fields key = (read (.object value)).map some := by
  simp only [optionalPart?, optionalValue, h, Option.filter, Json.isNull, Bool.not_false, if_true]

/-- Components hold their schemas as they are written, beside parts that do not depend on them. -/
theorem Components.read?_of_agreeOff {found : Components}
    (hread : Components.read? (.object fields) = some found)
    (hagree : AgreeOff ["schemas"] fields otherFields)
    (hschemas : Keyed.get? fields "schemas" = some (.object schemas))
    (hother : Keyed.get? otherFields "schemas" = some (.object other)) :
    found.schemas = schemas ∧
      Components.read? (.object otherFields) = some { found with schemas := other } := by
  simp only [Components.read?, fieldsOf?, bind, Option.bind_some, namedParts?_some hschemas,
    namedParts?_some hother, Option.bind_eq_some_iff, pure, Option.some.injEq] at hread ⊢
  obtain ⟨parameters, hparameters, requestBodies, hrequestBodies, rfl⟩ := hread
  refine ⟨rfl, parameters, ?_, requestBodies, ?_, rfl⟩
  · rw [← hparameters, namedParts?, namedParts?, hagree "parameters" (by decide)]
  · rw [← hrequestBodies, namedParts?, namedParts?, hagree "requestBodies" (by decide)]

/-- The components and definitions of a document are read from the fields under their keys, and the
other parts do not depend on them. -/
theorem Root.exists_parts_of_read? (hread : Root.read? fields = some root) :
    ∃ found, optionalPart? Components.read? fields "components" = some found ∧
      root.components = found.getD .empty ∧
      namedParts? some fields "definitions" = some root.definitions ∧
      ∀ {otherFields : Keyed Json} {otherFound : Option Components} {definitions : Keyed Json},
        AgreeOff ["components", "definitions"] fields otherFields →
        optionalPart? Components.read? otherFields "components" = some otherFound →
        namedParts? some otherFields "definitions" = some definitions →
        Root.read? otherFields = some
          { root with components := otherFound.getD .empty, definitions := definitions } := by
  simp only [Root.read?, bind, Option.bind_eq_some_iff, pure, Option.some.injEq] at hread
  obtain ⟨openapi, hopenapi, swagger, hswagger, address, haddress, title, htitle, found, hfound,
    definitions, hdefinitions, parameters, hparameters, consumes, hconsumes, paths, hpaths, rfl⟩ :=
    hread
  refine ⟨found, hfound, rfl, hdefinitions, fun {otherFields _ _} hagree hotherFound hother => ?_⟩
  -- The other parts are read from the fields under their keys.
  have hkey {key : String} (hne : key ∉ ["components", "definitions"]) :
      optionalText? otherFields key = optionalText? fields key ∧
        optionalPart? readTitle? otherFields key = optionalPart? readTitle? fields key ∧
        namedParts? some otherFields key = namedParts? some fields key ∧
        namedParts? ParameterObject.read? otherFields key =
          namedParts? ParameterObject.read? fields key ∧
        parts? Json.string? otherFields key = parts? Json.string? fields key := by
    simp only [optionalText?, optionalPart?, optionalValue, namedParts?, parts?, hagree key hne,
      and_self]
  simp only [Root.read?, hotherFound, hother, hkey (show "openapi" ∉ _ by decide),
    hkey (show "swagger" ∉ _ by decide), hkey (show "$self" ∉ _ by decide),
    hkey (show "info" ∉ _ by decide), hkey (show "parameters" ∉ _ by decide),
    hkey (show "consumes" ∉ _ by decide), hkey (show "paths" ∉ _ by decide), hopenapi, hswagger,
    haddress, htitle, hparameters, hconsumes, hpaths, bind, Option.bind_some, pure]

end Reading

/-- What named schemas become as entries of a table, each by itself. -/
def entriesOf (address : Option String) (schemas : Keyed Json) : Keyed Schema :=
  Keyed.mapValues schemas fun schema => entryOf (converted address schema).use

theorem entries_ofRoot {root : Root} (hdistinct : Keyed.Distinct schemas)
    (hschemas : root.schemas = Keyed.mapValues schemas normalizeSchema) :
    (ofRoot root).table.entries = entriesOf root.address schemas := by
  have htable : (ofRoot root).table =
      (convertTable root.address (Keyed.mapValues schemas normalizeSchema)).value := by
    rw [← hschemas]
    rfl
  rw [htable, entries_convertTable (hdistinct.mapValues normalizeSchema)]
  simp only [entriesOf, Keyed.mapValues, List.map_map]
  rfl

/-- The schemas of the components count when there are some. -/
theorem Root.schemas_eq {root : Root}
    (hschemas : root.components.schemas = Keyed.mapValues schemas normalizeSchema)
    (hne : schemas ≠ []) : root.schemas = Keyed.mapValues schemas normalizeSchema := by
  have hempty : root.components.schemas.isEmpty = false := by
    rw [hschemas]
    simpa [Keyed.mapValues] using hne
  rw [Root.schemas, hempty, hschemas]
  rfl

/-- The entries of schemas with changed texts are the entries with these texts changed. -/
theorem entriesOf_mapTexts {address : Option String} {change : String → String}
    (h : KeepsKeywords address change) (schemas : Keyed Json) :
    entriesOf address (Keyed.mapValues schemas (Json.mapTexts change)) =
      Keyed.mapValues (entriesOf address schemas) (Schema.mapTexts change) := by
  have hentry (use : SchemaUse) : entryOf (SchemaUse.mapTexts change use) =
      Schema.mapTexts change (entryOf use) := by
    cases use <;> rfl
  simp only [entriesOf, Keyed.mapValues, List.map_map]
  refine List.map_congr_left fun entry _ => ?_
  simp only [Function.comp_apply, h.converted_mapTexts, hentry]

/-- The entry of a schema changes with the names of its properties, and no other entry does. -/
theorem entriesOf_renameAt {address : Option String} {rename : String → String} {owner : String}
    {path target : List Place} (hdistinct : Keyed.Distinct schemas)
    (hpath : ∀ schema, Keyed.get? schemas owner = some schema →
      RenamesAt address rename path target schema) :
    entriesOf address (Keyed.modify schemas owner (renameAt rename path)) =
      Keyed.modify (entriesOf address schemas) owner (renameSchema rename target) := by
  simp only [entriesOf, Keyed.mapValues, Keyed.modify, List.map_map]
  refine List.map_congr_left fun entry hentry => ?_
  obtain ⟨name, schema⟩ := entry
  by_cases hname : name = owner
  · subst hname
    have hrenames := hpath schema (hdistinct.get?_eq_some_iff.2 hentry)
    simp [hrenames.entryOf_converted]
  · simp [hname]

section Loading

variable {loaded : Loaded}

/-- The table of a document holds under each ordinary name what the schema among the components is
converted to, and it does so with other schemas in the document. -/
theorem HoldsComponents.ofValue_withSchemas (h : HoldsComponents document components schemas)
    (hload : ofValue (.object document) = .ok loaded) (hnames : OrdinaryNames schemas)
    (hne : schemas ≠ []) (hdistinct : Keyed.Distinct other) (hother : OrdinaryNames other)
    (hne' : other ≠ []) :
    loaded.table.entries = entriesOf loaded.address schemas ∧
      ∃ changed, ofValue (.object (Keyed.put document "components"
          (.object (componentsWith components other)))) = .ok changed ∧
        changed.table.entries = entriesOf loaded.address other := by
  have h' := h.withSchemas hdistinct
  obtain ⟨hobject, root, hread, hversion, rfl⟩ := ofValue_eq_ok_iff.1 hload
  obtain ⟨hchoice, hagree⟩ := alikeOff_put h.documentDistinct (show "components" ∉ _ by decide)
    (.object (componentsWith components other))
  obtain ⟨parts, hparts, hcomponents, hdefinitions, hothers⟩ := Root.exists_parts_of_read? hread
  rw [optionalPart?_of_get? h.get?_normalDocument] at hparts
  obtain ⟨found, hfound, rfl⟩ := Option.map_eq_some_iff.1 hparts
  obtain ⟨hschemas, hchanged⟩ := Components.read?_of_agreeOff hfound (h.agreeOff_withSchemas other)
    (h.get?_normalComponents hnames) (h'.get?_normalComponents hother)
  have hread' := hothers (hagree.mono (by simp))
    (by rw [optionalPart?_of_get? h'.get?_normalDocument, hchanged, Option.map_some])
    (by rw [namedParts?, ← hagree "definitions" (by decide)]; exact hdefinitions)
  exact ⟨entries_ofRoot h.schemasDistinct (Root.schemas_eq (hcomponents ▸ hschemas) hne), _,
    ofValue_eq_ok_iff.2 ⟨hchoice ▸ hobject, _, hread', hversion, rfl⟩,
    entries_ofRoot hdistinct (Root.schemas_eq rfl hne')⟩

/-- The table of a document in the older format holds under each ordinary name what the definition
is converted to, and it does so with other definitions in the document. -/
theorem HoldsDefinitions.ofValue_withSchemas (h : HoldsDefinitions document schemas)
    (hload : ofValue (.object document) = .ok loaded) (hnames : OrdinaryNames schemas)
    (hdistinct : Keyed.Distinct other) (hother : OrdinaryNames other) :
    loaded.table.entries = entriesOf loaded.address schemas ∧
      ∃ changed,
        ofValue (.object (Keyed.put document "definitions" (.object other))) = .ok changed ∧
        changed.table.entries = entriesOf loaded.address other := by
  have h' := h.withSchemas hdistinct
  obtain ⟨hobject, root, hread, hversion, rfl⟩ := ofValue_eq_ok_iff.1 hload
  obtain ⟨hchoice, hagree⟩ := alikeOff_put h.documentDistinct (show "definitions" ∉ _ by decide)
    (.object other)
  obtain ⟨parts, hparts, hcomponents, hdefinitions, hothers⟩ := Root.exists_parts_of_read? hread
  have hmissing {fields : Keyed Json} (h : Keyed.get? fields "components" = none) :
      optionalPart? Components.read? fields "components" = some none := by
    rw [optionalPart?, optionalValue, h]
    rfl
  rw [hmissing h.get?_normalDocument_components] at hparts
  cases hparts
  rw [namedParts?_some (h.get?_normalDocument hnames)] at hdefinitions
  have hread' := hothers (hagree.mono (by simp)) (hmissing h'.get?_normalDocument_components)
    (namedParts?_some (h'.get?_normalDocument hother))
  have hschemas : root.schemas = Keyed.mapValues schemas normalizeSchema := by
    rw [Root.schemas, hcomponents, Option.some.inj hdefinitions]
    rfl
  exact ⟨entries_ofRoot h.schemasDistinct hschemas, _,
    ofValue_eq_ok_iff.2 ⟨hchoice ▸ hobject, _, hread', hversion, rfl⟩,
    entries_ofRoot hdistinct rfl⟩

variable {place : SchemaPlace} (h : place.Holds document schemas)
  (hload : ofValue (.object document) = .ok loaded) (hnames : OrdinaryNames schemas)
  (hne : schemas ≠ [])

include h hload hnames hne

/-- The table of a document holds under each ordinary name what the schema is converted to, and it
does so with other schemas in the document. -/
theorem SchemaPlace.ofValue_withSchemas (hdistinct : Keyed.Distinct other)
    (hother : OrdinaryNames other) (hne' : other ≠ []) :
    loaded.table.entries = entriesOf loaded.address schemas ∧
      ∃ changed, ofValue (.object (place.withSchemas document other)) = .ok changed ∧
        changed.table.entries = entriesOf loaded.address other := by
  cases place with
  | components components =>
      exact HoldsComponents.ofValue_withSchemas h hload hnames hne hdistinct hother hne'
  | definitions => exact HoldsDefinitions.ofValue_withSchemas h hload hnames hdistinct hother

omit hload hnames hne in
theorem SchemaPlace.Holds.distinct : Keyed.Distinct schemas := by
  cases place with
  | components components => exact HoldsComponents.schemasDistinct h
  | definitions => exact HoldsDefinitions.schemasDistinct h

/-- Names of schemas and properties that are no keywords for the passes play no role but that of
names. Other names for schemas change the table by these names only, together with the references
that are written with them. Other names for the properties of an object schema, which may be a named
one or stand inside one at the end of a path, change the entry of the named schema by these names
only. -/
theorem ofValue_renamed (rename : String → String) :
    (∀ change, KeepsKeywords loaded.address change →
      OrdinaryNames (Keyed.renameKeys rename schemas) →
      Keyed.Distinct (Keyed.renameKeys rename schemas) →
      ∃ renamed, ofValue (.object (place.withSchemas document (Keyed.renameKeys rename
          (Keyed.mapValues schemas (Json.mapTexts change))))) = .ok renamed ∧
        renamed.table.entries = Keyed.renameKeys rename
          (Keyed.mapValues loaded.table.entries (Schema.mapTexts change))) ∧
    ∀ owner path target, (∀ schema, Keyed.get? schemas owner = some schema →
        RenamesAt loaded.address rename path target schema) →
      ∃ renamed, ofValue (.object (place.withSchemas document
          (Keyed.modify schemas owner (renameAt rename path)))) = .ok renamed ∧
        renamed.table.entries =
          Keyed.modify loaded.table.entries owner (renameSchema rename target) := by
  refine ⟨fun change hchange hordinary hdistinct => ?_, fun owner path target hpath => ?_⟩
  · have hne' : Keyed.renameKeys rename (Keyed.mapValues schemas (Json.mapTexts change)) ≠ [] := by
      simpa [Keyed.renameKeys, Keyed.mapValues] using hne
    rw [← Keyed.mapValues_renameKeys] at hne' ⊢
    obtain ⟨hentries, renamed, hrenamed, hrenamedEntries⟩ :=
      SchemaPlace.ofValue_withSchemas h hload hnames hne (hdistinct.mapValues _)
        hordinary.mapTexts hne'
    refine ⟨renamed, hrenamed, ?_⟩
    rw [hrenamedEntries, hentries, entriesOf_mapTexts hchange, entriesOf,
      Keyed.mapValues_renameKeys, ← entriesOf, Keyed.mapValues_renameKeys]
  · have hne' : Keyed.modify schemas owner (renameAt rename path) ≠ [] := by
      simpa [Keyed.modify] using hne
    obtain ⟨hentries, renamed, hrenamed, hrenamedEntries⟩ :=
      SchemaPlace.ofValue_withSchemas h hload hnames hne (h.distinct.modify owner _)
        (hnames.modify owner fun _ => string?_renameAt path) hne'
    refine ⟨renamed, hrenamed, ?_⟩
    rw [hrenamedEntries, hentries, entriesOf_renameAt h.distinct hpath]

end Loading

/-- The fields of a tag, an object schema with one property that it requires. -/
def tagFields : Keyed Json :=
  [("type", .string "object"), ("required", .array [.string "label"]),
   ("properties", .object [("label", .object [("type", .string "string")])])]

/-- The fields of a list of tags. -/
def tagsFields : Keyed Json :=
  [("type", .string "array"), ("items", .object tagFields)]

/-- The fields of a pet, an object schema with tags and another pet. -/
def petFields : Keyed Json :=
  [("properties", .object [("tags", .object tagsFields),
    ("mother", .object [("$ref", .string "#/components/schemas/Pet")])])]

/-- A document with the schema of pets. -/
def petDocument : Keyed Json :=
  [("openapi", .string "3.0.0"),
   ("components", .object [("schemas", .object [("Pet", .object petFields)])])]

/-- The label of a tag may have another name. -/
theorem pet_renamesAt : RenamesAt none ("other-" ++ ·) [.property "tags", .items]
    [.property "tags", .items] (.object petFields) := by
  have htag : HoldsProperties tagFields [("label", .object [("type", .string "string")])] :=
    ⟨⟨rfl, fun kind => by cases kind <;> rfl⟩, by decide, rfl, by decide⟩
  have hpet : HoldsProperties petFields [("tags", .object tagsFields),
      ("mother", .object [("$ref", .string "#/components/schemas/Pet")])] :=
    ⟨⟨rfl, fun kind => by cases kind <;> rfl⟩, by decide, rfl, by decide⟩
  refine .property hpet rfl fun schema hschema => ?_
  obtain rfl : schema = .object tagsFields := by simpa using hschema
  have htags : IsPlain tagsFields := ⟨rfl, fun kind => by cases kind <;> rfl⟩
  exact .items htags (by decide) rfl rfl (.own htag rfl (by decide))

/-- References to pets as references to what they are called now. -/
def redirectPet : String → String :=
  redirect none "#/components/schemas/Pet" "#/components/schemas/other-Pet"

/-- Redirecting references to pets touches no keyword, and it fits with localizing references. -/
theorem keepsKeywords_redirectPet : KeepsKeywords none redirectPet := by
  refine keepsKeywords_redirect (by decide) (by decide) fun reference hreference => ?_
  obtain rfl : reference = "#/components/schemas/Pet" := hreference
  exact isBinaryMediaType_of_head? (by decide)

/-- A document with one schema, which names itself. It is still loaded when this schema has another
name, or the labels of its tags have, and the table it is loaded to has the same names changed. -/
theorem petDocument_renamed :
    ∃ (loaded : Loaded) (place : SchemaPlace) (schemas : Keyed Json),
      (place.Holds petDocument schemas ∧ ofValue (.object petDocument) = .ok loaded ∧
        OrdinaryNames schemas ∧ schemas ≠ []) ∧
      (∃ renamed, ofValue (.object (place.withSchemas petDocument
          [("other-Pet", Json.mapTexts redirectPet (.object petFields))])) = .ok renamed ∧
        renamed.table.entries = Keyed.renameKeys ("other-" ++ ·)
          (Keyed.mapValues loaded.table.entries (Schema.mapTexts redirectPet))) ∧
      ∃ renamed, ofValue (.object (place.withSchemas petDocument [("Pet",
          renameAt ("other-" ++ ·) [.property "tags", .items] (.object petFields))])) =
            .ok renamed ∧
        renamed.table.entries = Keyed.modify loaded.table.entries "Pet"
          (renameSchema ("other-" ++ ·) [.property "tags", .items]) := by
  let schemas : Keyed Json := [("Pet", .object petFields)]
  let place := SchemaPlace.components [("schemas", .object schemas)]
  have hholds : place.Holds petDocument schemas := show HoldsComponents _ _ _ from
    ⟨by decide, by decide, by decide, rfl, rfl, by decide⟩
  have hload : ∃ loaded : Loaded,
      ofValue (.object petDocument) = .ok loaded ∧ loaded.address = none := ⟨_, rfl, rfl⟩
  obtain ⟨loaded, hload, haddress⟩ := hload
  have hnames : OrdinaryNames schemas := by decide
  obtain ⟨hschemas, hproperties⟩ :=
    ofValue_renamed hholds hload hnames (List.cons_ne_nil _ _) ("other-" ++ ·)
  rw [haddress] at hschemas hproperties
  refine ⟨loaded, place, schemas, ⟨hholds, hload, hnames, List.cons_ne_nil _ _⟩,
    hschemas redirectPet keepsKeywords_redirectPet (by decide) (by decide),
    hproperties "Pet" _ _ fun schema hschema => ?_⟩
  cases hschema
  exact pet_renamesAt

end SchemaGraph.Document
