import SchemaGraph.Proofs.Document.Loading
import SchemaGraph.Proofs.Document.Operations
import SchemaGraph.Proofs.Yaml.Keys

/-!
# The sections of a document

Schemas and path items stand in sections, mappings from names to values of any form. The rest of a
document, its frame, is read in one step, and what it is read as does not depend on what stands in
the sections (`read?_eq_filledFrom`).
-/

namespace SchemaGraph.Document

variable {document components : Keyed Json} {key : String}

/-- The entries of the section under a key, none when there is no mapping. -/
def sectionOf (fields : Keyed Json) (key : String) : Keyed Json :=
  ((Keyed.get? fields key).bind Json.object?).getD []

/-- The components of a document. -/
def componentsOf (document : Keyed Json) : Keyed Json :=
  sectionOf document "components"

/-- The named schemas of a document. The older place counts only when the newer one is empty. -/
def schemasOf (document : Keyed Json) : Keyed Json :=
  let named := sectionOf (componentsOf document) "schemas"
  if named.isEmpty then sectionOf document "definitions" else named

/-- A section is missing or a mapping without keywords. -/
def IsSection : Option Json → Prop
  | none => True
  | some (.object entries) => IsInert entries
  | some _ => False

instance : (value : Option Json) → Decidable (IsSection value)
  | none => inferInstanceAs (Decidable True)
  | some (.object entries) => inferInstanceAs (Decidable (IsInert entries))
  | some .null | some (.bool _) | some (.number _) | some (.string _) | some (.array _) =>
      inferInstanceAs (Decidable False)

/-- No flag for nullability puts the mapping into a choice. -/
def StaysMapping (fields : Keyed Json) : Prop :=
  becomesChoice (visitedFields fields) = false

instance (fields : Keyed Json) : Decidable (StaysMapping fields) :=
  inferInstanceAs (Decidable (_ = false))

/-- Whether a mapping stays one does not depend on a field that no pass looks for. -/
theorem StaysMapping.modify {fields : Keyed Json} (h : StaysMapping fields)
    (hdistinct : Keyed.Distinct fields) (hkey : key ∉ settleKeys) (change : Json → Json) :
    StaysMapping (Keyed.modify fields key change) := by
  have halike : AlikeOff [key] fields (Keyed.modify fields key change) :=
    ⟨hdistinct, hdistinct.modify key change, (Keyed.agreeOff_modify (by simp) fields change).symm⟩
  have haside : ∀ name ∈ settleKeys, name ∉ [key] := by
    intro name hname hmem
    obtain rfl := List.mem_singleton.1 hmem
    exact hkey hname
  exact (halike.settledFields haside).1.symm.trans h

/-- A mapping that stays one is settled field by field. -/
theorem StaysMapping.settle_eq {fields : Keyed Json} (h : StaysMapping fields) :
    settle (.object fields) = .object (settledFields fields) := by
  have hchoice : becomesChoice (visitedFields fields) = false := h
  rw [settle_object, hchoice, if_neg Bool.false_ne_true]

/-- The components are missing, or a mapping that stays one and whose schemas are a section. -/
def AreComponents : Option Json → Prop
  | none | some .null => True
  | some (.object components) =>
      StaysMapping components ∧
        IsSection ((Keyed.get? components "schemas").map normalizeNamedBooleans)
  | some _ => False

instance : (value : Option Json) → Decidable (AreComponents value)
  | none | some .null => inferInstanceAs (Decidable True)
  | some (.object components) =>
      inferInstanceAs (Decidable (StaysMapping components ∧
        IsSection ((Keyed.get? components "schemas").map normalizeNamedBooleans)))
  | some (.bool _) | some (.number _) | some (.string _) | some (.array _) =>
      inferInstanceAs (Decidable False)

/-- The schemas and the path items of a document stand in sections. -/
structure HasSections (document : Keyed Json) : Prop where
  components : AreComponents (Keyed.get? document "components")
  definitions : IsSection ((Keyed.get? document "definitions").map normalizeNamedBooleans)
  paths : IsSection (Keyed.get? document "paths")

instance (document : Keyed Json) : Decidable (HasSections document) :=
  decidable_of_iff (AreComponents (Keyed.get? document "components") ∧
      IsSection ((Keyed.get? document "definitions").map normalizeNamedBooleans) ∧
      IsSection (Keyed.get? document "paths"))
    ⟨fun ⟨hcomponents, hdefinitions, hpaths⟩ => ⟨hcomponents, hdefinitions, hpaths⟩,
      fun h => ⟨h.components, h.definitions, h.paths⟩⟩

/-- A section without its entries. -/
def emptied : Json → Json :=
  onObject fun _ => []

/-- The components without their schemas. -/
def bareComponents (components : Keyed Json) : Keyed Json :=
  Keyed.modify components "schemas" emptied

/-- The document without its schemas and path items. -/
def bareOf (document : Keyed Json) : Keyed Json :=
  Keyed.modify (Keyed.modify (Keyed.modify document "components" (onObject bareComponents))
    "definitions" emptied) "paths" emptied

/-- The parts of a document around its schemas and path items, each in normal form. They are read in
one step. -/
def frame? (document : Keyed Json) : Option Root :=
  Root.read? (Keyed.mapValues (bareOf document) settle)

/-- The normal form of named schemas. -/
def settleSchemas (schemas : Keyed Json) : Keyed Json :=
  mapNamed (Keyed.mapValues schemas normalizeBooleans) settleEntry

/-- A document with other schemas and path items. -/
def Root.withSections (root : Root) (schemas definitions paths : Keyed Json) : Root :=
  { root with
    components := { root.components with schemas := schemas }
    definitions := definitions
    paths := paths }

/-- The frame of a document with its schemas and path items in normal form. -/
def Root.filledFrom (frame : Root) (document : Keyed Json) : Root :=
  frame.withSections (settleSchemas (sectionOf (componentsOf document) "schemas"))
    (settleSchemas (sectionOf document "definitions"))
    (mapNamed (sectionOf document "paths") settleEntry)

/-- Schemas and path items are not among the parts that operations share. -/
theorem Root.sameShared_filledFrom (frame : Root) (document : Keyed Json) :
    (frame.filledFrom document).SameShared frame :=
  ⟨rfl, rfl, rfl, rfl, rfl⟩

section Sections

/-- The entries of a section are read as they are in normal form. -/
theorem namedParts?_settle_section {fields : Keyed Json}
    (hvalue : Keyed.get? fields key = (Keyed.get? document key).map settle)
    (h : IsSection (Keyed.get? document key)) :
    namedParts? some fields key = some (mapNamed (sectionOf document key) settleEntry) := by
  unfold sectionOf
  cases hfound : Keyed.get? document key with
  | none =>
      rw [hfound] at hvalue
      rw [namedParts?, hvalue]
      rfl
  | some value =>
      rw [hfound] at hvalue h
      cases value with
      | object entries =>
          have hinert : IsInert entries := h
          rw [Option.map_some, hinert.settle_eq] at hvalue
          exact namedParts?_some hvalue
      | null | bool | number | string | array => exact h.elim

/-- The fields under which the frame of a document stands. -/
def frameKeys : List String :=
  ["openapi", "swagger", "$self", "info", "parameters", "consumes"]

/-- Documents that agree in their frames, with components that differ in their schemas, are read as
documents that differ in their sections. -/
theorem Root.read?_eq_withSections {fields other schemas definitions paths : Keyed Json}
    (hframe : ∀ key ∈ frameKeys, Keyed.get? fields key = Keyed.get? other key)
    (hcomponents : (optionalPart? Components.read? fields "components").map (·.getD .empty) =
      (optionalPart? Components.read? other "components").map fun found =>
        { found.getD .empty with schemas := schemas })
    (hdefinitions : namedParts? some fields "definitions" = some definitions)
    (hpaths : namedParts? some fields "paths" = some paths)
    (hotherDefinitions : namedParts? some other "definitions" = some [])
    (hotherPaths : namedParts? some other "paths" = some []) :
    Root.read? fields = (Root.read? other).map fun root =>
      root.withSections schemas definitions paths := by
  have hkey {key : String} (hmem : key ∈ frameKeys) :
      optionalText? fields key = optionalText? other key ∧
        optionalPart? readTitle? fields key = optionalPart? readTitle? other key ∧
        namedParts? ParameterObject.read? fields key = namedParts? ParameterObject.read? other key ∧
        parts? Json.string? fields key = parts? Json.string? other key := by
    simp only [optionalText?, optionalPart?, optionalValue, namedParts?, parts?, hframe key hmem,
      and_self]
  simp only [Root.read?, hdefinitions, hpaths, hotherDefinitions, hotherPaths,
    hkey (show "openapi" ∈ _ by decide), hkey (show "swagger" ∈ _ by decide),
    hkey (show "$self" ∈ _ by decide), hkey (show "info" ∈ _ by decide),
    hkey (show "parameters" ∈ _ by decide), hkey (show "consumes" ∈ _ by decide),
    bind, Option.bind_some, Option.map_bind, Function.comp_def]
  refine congrArg (Option.bind _) (funext fun openapi => ?_)
  refine congrArg (Option.bind _) (funext fun swagger => ?_)
  refine congrArg (Option.bind _) (funext fun address => ?_)
  refine congrArg (Option.bind _) (funext fun title => ?_)
  cases hfields : optionalPart? Components.read? fields "components" with
  | none =>
      cases hother : optionalPart? Components.read? other "components" with
      | none => rfl
      | some found => simp [hfields, hother] at hcomponents
  | some found =>
      cases hother : optionalPart? Components.read? other "components" with
      | none => simp [hfields, hother] at hcomponents
      | some otherFound =>
          rw [hfields, hother] at hcomponents
          have heq : found.getD .empty = { otherFound.getD .empty with schemas := schemas } :=
            Option.some.inj hcomponents
          simp only [Option.bind_some, heq]
          rfl

/-- A field that no pass touches is settled on its own. -/
theorem get?_settledFields {fields : Keyed Json} (h : Keyed.Distinct fields)
    (hkey : key ∉ passKeys) :
    Keyed.get? (settledFields fields) key = (Keyed.get? fields key).map settle :=
  ((keepsFields_settledFields h).agree key hkey).trans (Keyed.get?_mapValues _ _ _)

/-- A section is a mapping when it is there, and so it was before Booleans were replaced. -/
theorem IsSection.exists_object {found : Option Json}
    (h : IsSection found ∨ IsSection (found.map normalizeNamedBooleans)) {value : Json}
    (hvalue : found = some value) : ∃ entries, value = .object entries := by
  subst hvalue
  cases value with
  | object entries => exact ⟨entries, rfl⟩
  | null | bool | number | string | array => exact (h.elim id id).elim

/-- Nothing is read from a section without its entries. -/
theorem namedParts?_settle_emptied {fields : Keyed Json}
    (hvalue : Keyed.get? fields key = ((Keyed.get? document key).map emptied).map settle)
    (h : IsSection (Keyed.get? document key) ∨
      IsSection ((Keyed.get? document key).map normalizeNamedBooleans)) :
    namedParts? some fields key = some [] := by
  cases hfound : Keyed.get? document key with
  | none =>
      rw [hfound] at hvalue
      rw [namedParts?, hvalue]
      rfl
  | some value =>
      obtain ⟨entries, rfl⟩ := IsSection.exists_object h hfound
      rw [hfound] at hvalue
      exact namedParts?_some hvalue

/-- Booleans are replaced in the entries of a section. -/
theorem sectionOf_normalizeNamedBooleans {fields : Keyed Json}
    (hvalue : Keyed.get? fields key = (Keyed.get? document key).map normalizeNamedBooleans) :
    sectionOf fields key = Keyed.mapValues (sectionOf document key) normalizeBooleans := by
  rw [sectionOf, sectionOf, hvalue]
  cases Keyed.get? document key with
  | none => rfl
  | some value => cases value <;> rfl

/-- Components that agree but for their schemas are read as components that differ in these. -/
theorem Components.read?_eq_withSchemas {fields other schemas : Keyed Json}
    (hparameters : Keyed.get? fields "parameters" = Keyed.get? other "parameters")
    (hbodies : Keyed.get? fields "requestBodies" = Keyed.get? other "requestBodies")
    (hschemas : namedParts? some fields "schemas" = some schemas)
    (hother : namedParts? some other "schemas" = some []) :
    Components.read? (.object fields) = (Components.read? (.object other)).map fun found =>
      { found with schemas := schemas } := by
  have hparameters' : namedParts? (orReference? ParameterObject.read?) fields "parameters" =
      namedParts? (orReference? ParameterObject.read?) other "parameters" := by
    rw [namedParts?, namedParts?, hparameters]
  have hbodies' : namedParts? (orReference? BodyObject.read?) fields "requestBodies" =
      namedParts? (orReference? BodyObject.read?) other "requestBodies" := by
    rw [namedParts?, namedParts?, hbodies]
  simp only [Components.read?, fieldsOf?, bind, Option.bind_some, hschemas, hother, hparameters',
    hbodies', Option.map_bind, Function.comp_def]
  rfl

/-- Without their schemas, components hold the other parts as before. -/
theorem read?_components (hdistinct : Keyed.Distinct components)
    (hsection : IsSection ((Keyed.get? components "schemas").map normalizeNamedBooleans)) :
    Components.read? (.object (settledFields (plainComponents components))) =
      (Components.read? (.object (settledFields (bareComponents components)))).map fun found =>
        { found with schemas := settleSchemas (sectionOf components "schemas") } := by
  have hplain : Keyed.get? (plainComponents components) "schemas" =
      (Keyed.get? components "schemas").map normalizeNamedBooleans := by
    rw [plainComponents, Keyed.get?_modify, if_pos rfl]
  have hbare : Keyed.get? (bareComponents components) "schemas" =
      (Keyed.get? components "schemas").map emptied := by
    rw [bareComponents, Keyed.get?_modify, if_pos rfl]
  have hplainDistinct : Keyed.Distinct (plainComponents components) := hdistinct.modify _ _
  have hbareDistinct : Keyed.Distinct (bareComponents components) := hdistinct.modify _ _
  have hother {key : String} (hkey : key ∉ passKeys) (hne : key ≠ "schemas") :
      Keyed.get? (settledFields (plainComponents components)) key =
        Keyed.get? (settledFields (bareComponents components)) key := by
    rw [get?_settledFields hplainDistinct hkey, get?_settledFields hbareDistinct hkey,
      plainComponents, bareComponents, Keyed.get?_modify, Keyed.get?_modify, if_neg hne, if_neg hne]
  refine Components.read?_eq_withSchemas (hother (by decide) (by decide))
    (hother (by decide) (by decide)) ?schemas ?bare
  case schemas =>
    rw [settleSchemas, ← sectionOf_normalizeNamedBooleans hplain]
    exact namedParts?_settle_section (get?_settledFields hplainDistinct (by decide))
      (hplain ▸ hsection)
  case bare =>
    refine namedParts?_settle_emptied ?_ (.inr hsection)
    rw [get?_settledFields hbareDistinct (by decide), hbare]

/-- The components of a document are read with their schemas, and they hold the other parts as they
do without them. -/
theorem read?_documentComponents (hdistinct : Json.KeysDistinct (.object document))
    (h : AreComponents (Keyed.get? document "components")) :
    (optionalPart? Components.read? (normalDocument document) "components").map (·.getD .empty) =
      (optionalPart? Components.read? (Keyed.mapValues (bareOf document) settle) "components").map
        fun found => { found.getD .empty with
          schemas := settleSchemas (sectionOf (componentsOf document) "schemas") } := by
  have hnormal : Keyed.get? (normalDocument document) "components" =
      ((Keyed.get? document "components").map (onObject plainComponents)).map settle := by
    rw [get?_normalDocument hdistinct.distinct (by decide), plainDocument, Keyed.get?_modify,
      if_neg (by decide), Keyed.get?_modify, if_pos rfl]
  have hbare : Keyed.get? (Keyed.mapValues (bareOf document) settle) "components" =
      ((Keyed.get? document "components").map (onObject bareComponents)).map settle := by
    rw [Keyed.get?_mapValues, bareOf, Keyed.get?_modify, if_neg (by decide), Keyed.get?_modify,
      if_neg (by decide), Keyed.get?_modify, if_pos rfl]
  cases hfound : Keyed.get? document "components" with
  | none =>
      have hempty : componentsOf document = [] := by rw [componentsOf, sectionOf, hfound]; rfl
      rw [hfound] at hnormal hbare
      simp only [optionalPart?, optionalValue, hnormal, hbare, hempty]
      rfl
  | some value =>
      rw [hfound] at hnormal hbare h
      cases value with
      | null =>
          have hempty : componentsOf document = [] := by rw [componentsOf, sectionOf, hfound]; rfl
          simp only [optionalPart?, optionalValue, hnormal, hbare, hempty]
          rfl
      | object components =>
          obtain ⟨hstays, hsection⟩ := h
          have hcomponents := (hdistinct.of_get? hfound).distinct
          have hobject : componentsOf document = components := by
            rw [componentsOf, sectionOf, hfound]
            rfl
          have hsettle {change : Json → Json} :
              settle (.object (Keyed.modify components "schemas" change)) =
                .object (settledFields (Keyed.modify components "schemas" change)) :=
            (hstays.modify hcomponents (by decide) change).settle_eq
          have hread := read?_components hcomponents hsection
          rw [optionalPart?_of_get? (hnormal.trans (congrArg some hsettle)),
            optionalPart?_of_get? (hbare.trans (congrArg some hsettle)), hobject]
          simp only [Option.map_map]
          exact (congrArg (Option.map _) hread).trans (by rw [Option.map_map]; rfl)
      | bool | number | string | array => exact h.elim

/-- A document in normal form is read as its frame, with its schemas and path items filled in. -/
theorem read?_eq_filledFrom (hdistinct : Json.KeysDistinct (.object document))
    (h : HasSections document) :
    Root.read? (normalDocument document) =
      (frame? document).map fun frame => frame.filledFrom document := by
  have hplain {key : String} (hne : key ∉ ["components", "definitions"]) :
      Keyed.get? (plainDocument document) key = Keyed.get? document key := by
    simp only [List.mem_cons, List.not_mem_nil, or_false, not_or] at hne
    rw [plainDocument, Keyed.get?_modify, if_neg hne.2, Keyed.get?_modify, if_neg hne.1]
  have hnormal {key : String} (hkey : key ∉ passKeys) :
      Keyed.get? (normalDocument document) key =
        (Keyed.get? (plainDocument document) key).map settle :=
    get?_normalDocument hdistinct.distinct hkey
  have hplainDefinitions : Keyed.get? (plainDocument document) "definitions" =
      (Keyed.get? document "definitions").map normalizeNamedBooleans := by
    rw [plainDocument, Keyed.get?_modify, if_pos rfl, Keyed.get?_modify, if_neg (by decide)]
  refine Root.read?_eq_withSections (fun key hkey => ?frame)
    (read?_documentComponents hdistinct h.components)
    ?definitions ?paths ?bareDefinitions ?barePaths
  case frame =>
    have hkeys : ∀ key ∈ frameKeys, key ∉ passKeys ∧ key ∉ ["components", "definitions"] ∧
        key ≠ "components" ∧ key ≠ "definitions" ∧ key ≠ "paths" := by decide
    obtain ⟨hpass, hsections, hcomponents, hdefinitions, hpaths⟩ := hkeys key hkey
    rw [hnormal hpass, hplain hsections, Keyed.get?_mapValues, bareOf, Keyed.get?_modify,
      if_neg hpaths, Keyed.get?_modify, if_neg hdefinitions, Keyed.get?_modify, if_neg hcomponents]
  case definitions =>
    rw [settleSchemas, ← sectionOf_normalizeNamedBooleans hplainDefinitions]
    exact namedParts?_settle_section (hnormal (by decide)) (hplainDefinitions ▸ h.definitions)
  case paths =>
    have hpaths : sectionOf document "paths" = sectionOf (plainDocument document) "paths" := by
      rw [sectionOf, sectionOf, hplain (by decide)]
    have hsection : IsSection (Keyed.get? (plainDocument document) "paths") := by
      rw [hplain (by decide)]
      exact h.paths
    rw [hpaths]
    exact namedParts?_settle_section (hnormal (by decide)) hsection
  case bareDefinitions =>
    refine namedParts?_settle_emptied ?_ (.inr h.definitions)
    rw [Keyed.get?_mapValues, bareOf, Keyed.get?_modify, if_neg (by decide), Keyed.get?_modify,
      if_pos rfl, Keyed.get?_modify, if_neg (by decide)]
  case barePaths =>
    refine namedParts?_settle_emptied ?_ (.inl h.paths)
    rw [Keyed.get?_mapValues, bareOf, Keyed.get?_modify, if_pos rfl, Keyed.get?_modify,
      if_neg (by decide), Keyed.get?_modify, if_neg (by decide)]

end Sections

end SchemaGraph.Document
