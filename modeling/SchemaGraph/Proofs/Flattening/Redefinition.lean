import Mathlib.Data.List.Infix
import SchemaGraph.Proofs.Flattening.Dependency
import SchemaGraph.Proofs.Flattening.Merging

/-!
# Properties that are defined again

The members of an `allOf` may define a property more than once. All definitions, in the order of the
members and of the properties within a member, decide what the merged object is
(`ObjectOf.IsMergeOf`): a property stands where it is first defined, and is what its last definition
says. `Flattening.flattenEntry_redefinitions` says this of an entry whose members are objects, and
that a conflict is reported for each two successive definitions of a property that differ in type.
-/

namespace SchemaGraph

/-- A definition of a property, and whether it says that the property may be null. -/
structure PropertyDefinition where
  property : String
  use : SchemaUse
  nullable : Bool

/-- The definitions of one property among others. -/
def definitionsOf (definitions : List PropertyDefinition) (property : String) :
    List PropertyDefinition :=
  definitions.filter fun definition => definition.property = property

/-- A property is defined as one type, and by the next definition of it as another. -/
def Redefines (definitions : List PropertyDefinition) (property before after : String) : Prop :=
  ∃ first second, [first, second] <:+: definitionsOf definitions property ∧
    useSignature first.use = before ∧ useSignature second.use = after ∧ before ≠ after

/-- The report says that a property of `parent` is defined again with another type. -/
def Report.OfRedefinition (parent : String) (definitions : List PropertyDefinition)
    (report : Report) : Prop :=
  ∃ property before after, Redefines definitions property before after ∧
    report = ⟨some parent, .propertyConflict property before after⟩

/-- A further name is kept when it is new. -/
theorem eraseDups_concat {names : List String} {name : String} :
    (names ++ [name]).eraseDups =
      if name ∈ names then names.eraseDups else names.eraseDups ++ [name] := by
  rw [List.eraseDups_append]
  by_cases hmem : name ∈ names
  · have hnone : [name].removeAll names = [] := by simp [List.removeAll, hmem]
    simp [hnone, hmem]
  · have hkept : [name].removeAll names = [name] := by simp [List.removeAll, hmem]
    simp [hkept, hmem, List.eraseDups_cons]

section

variable {definitions : List PropertyDefinition} {definition : PropertyDefinition}
  {property : String}

/-- A further definition counts for its own property. -/
theorem definitionsOf_concat :
    definitionsOf (definitions ++ [definition]) property =
      if definition.property = property then definitionsOf definitions property ++ [definition]
      else definitionsOf definitions property := by
  unfold definitionsOf
  rw [List.filter_append]
  by_cases hproperty : definition.property = property
  · simp [hproperty]
  · simp [hproperty]

/-- Two items follow each other in a longer list when they did so before, or when the second one is
the new item and the first one was the last. -/
theorem pair_infix_concat_iff {α : Type} {items : List α} {item first second : α} :
    [first, second] <:+: items ++ [item] ↔
      [first, second] <:+: items ∨ (items.getLast? = some first ∧ second = item) := by
  rw [List.infix_concat_iff, List.suffix_concat_iff, or_comm]
  refine or_congr_right ?_
  constructor
  · rintro (hnil | ⟨lead, hlead, hsuffix⟩)
    · cases hnil
    · have hsplit : [first] ++ [second] = lead ++ [item] := hlead
      obtain ⟨rfl, heq⟩ := List.append_inj' hsplit rfl
      obtain ⟨before, rfl⟩ := hsuffix
      exact ⟨List.getLast?_concat, List.head_eq_of_cons_eq heq⟩
  · rintro ⟨hlast, rfl⟩
    obtain ⟨before, rfl⟩ := List.getLast?_eq_some_iff.1 hlast
    exact .inr ⟨[first], rfl, before, rfl⟩

/-- A further definition redefines its property when it differs in type from the last one. -/
theorem redefines_concat_iff {before after : String} :
    Redefines (definitions ++ [definition]) property before after ↔
      Redefines definitions property before after ∨
      (definition.property = property ∧
        ∃ last, (definitionsOf definitions property).getLast? = some last ∧
          useSignature last.use = before ∧ useSignature definition.use = after ∧
          before ≠ after) := by
  unfold Redefines
  rw [definitionsOf_concat]
  by_cases hproperty : definition.property = property
  · simp only [hproperty, if_true, pair_infix_concat_iff, true_and]
    constructor
    · rintro ⟨first, second, hpair | ⟨hlast, rfl⟩, hdiffer⟩
      · exact .inl ⟨first, second, hpair, hdiffer⟩
      · exact .inr ⟨first, hlast, hdiffer⟩
    · rintro (⟨first, second, hpair, hdiffer⟩ | ⟨last, hlast, hdiffer⟩)
      · exact ⟨first, second, .inl hpair, hdiffer⟩
      · exact ⟨last, definition, .inr ⟨hlast, rfl⟩, hdiffer⟩
  · simp [hproperty]

end

namespace ObjectOf

/-- The definition that an entry among the properties of an object makes. -/
def definition (object : ObjectShape) (entry : String × SchemaUse) : PropertyDefinition :=
  ⟨entry.1, entry.2, object.nullable.contains entry.1⟩

/-- The definitions that an object makes, in the order of its properties. -/
def definitions (object : ObjectShape) : List PropertyDefinition :=
  object.properties.map object.definition

/-- The object is what these objects, merged in their order, give. -/
structure IsMergeOf (object : ObjectShape) (sources : List ObjectShape) : Prop where
  /-- The properties stand in the order of their first definitions. -/
  names : Keyed.keys object.properties =
    ((sources.flatMap definitions).map PropertyDefinition.property).eraseDups
  /-- A property has the schema of its last definition. -/
  uses : ∀ property, Keyed.get? object.properties property =
    (definitionsOf (sources.flatMap definitions) property).getLast?.map PropertyDefinition.use
  /-- A property may be null when its last definition says so. -/
  nullable : ∀ property, property ∈ object.nullable ↔
    ∃ last, (definitionsOf (sources.flatMap definitions) property).getLast? = some last ∧
      last.nullable
  /-- A name is required when one of the objects requires it, be it a property or not. -/
  required : ∀ name, name ∈ object.required ↔ ∃ source ∈ sources, name ∈ source.required

/-- What the object and the reports are once these definitions have been taken in. -/
structure Tracks (parent : String) (definitions : List PropertyDefinition) (object : ObjectShape)
    (reports : List Report) : Prop where
  names : Keyed.keys object.properties =
    (definitions.map PropertyDefinition.property).eraseDups
  uses : ∀ property, Keyed.get? object.properties property =
    (definitionsOf definitions property).getLast?.map PropertyDefinition.use
  nullable : ∀ property, property ∈ object.nullable ↔
    ∃ last, (definitionsOf definitions property).getLast? = some last ∧ last.nullable
  /-- Taking a name out of the list takes it out of the set. -/
  nodup : object.nullable.Nodup
  reports : ∀ report, report ∈ reports ↔ report.OfRedefinition parent definitions

variable {parent : String} {object source : ObjectShape} {reports : List Report}
  {definitions : List PropertyDefinition}

/-- Nothing has been defined at the beginning. -/
theorem tracks_nil (parent : String) (docs : Docs) : Tracks parent [] ⟨[], [], [], docs⟩ [] where
  names := rfl
  uses _ := rfl
  nullable property := by simp [definitionsOf]
  nodup := List.nodup_nil
  reports report := by
    refine ⟨nofun, ?_⟩
    rintro ⟨_, _, _, ⟨first, second, hpair, _⟩, _⟩
    cases List.infix_nil.1 hpair

/-- A definition is reported when it differs in type from the last one of its property. -/
theorem Tracks.mem_reports_mergeProperty (h : Tracks parent definitions object reports)
    (definition : PropertyDefinition) (required : Bool) (report : Report) :
    report ∈ (object.mergeProperty parent definition.property definition.use required
        definition.nullable).reports ↔
      ∃ last, (definitionsOf definitions definition.property).getLast? = some last ∧
        useSignature last.use ≠ useSignature definition.use ∧
        report = ⟨some parent, .propertyConflict definition.property (useSignature last.use)
          (useSignature definition.use)⟩ := by
  unfold mergeProperty
  rw [h.uses]
  cases (definitionsOf definitions definition.property).getLast? with
  | none => simp
  | some last =>
      by_cases hsame : useSignature last.use = useSignature definition.use
      · simp [hsame]
      · simp [hsame]

/-- Taking in one more definition keeps track of the definitions. -/
theorem Tracks.mergeProperty (h : Tracks parent definitions object reports)
    (definition : PropertyDefinition) (required : Bool) :
    Tracks parent (definitions ++ [definition])
      (object.mergeProperty parent definition.property definition.use required
        definition.nullable).value
      (reports ++ (object.mergeProperty parent definition.property definition.use required
        definition.nullable).reports) where
  names := by
    rw [value_mergeProperty, withProperty, Keyed.keys_put, h.names, List.map_append, List.map_cons,
      List.map_nil, eraseDups_concat]
    simp only [List.mem_eraseDups]
  uses property := by
    rw [value_mergeProperty, withProperty, Keyed.get?_put, h.uses, definitionsOf_concat]
    by_cases hproperty : definition.property = property
    · simp [hproperty]
    · simp [hproperty, Ne.symm hproperty]
  nullable property := by
    rw [value_mergeProperty, withProperty, definitionsOf_concat]
    by_cases hproperty : definition.property = property
    · subst hproperty
      cases hnullable : definition.nullable with
      | true => simp [NameSet.mem_add, hnullable]
      | false => simp [h.nodup.mem_erase_iff, hnullable]
    · cases definition.nullable with
      | true => simp [NameSet.mem_add, hproperty, Ne.symm hproperty, h.nullable]
      | false => simp [h.nodup.mem_erase_iff, hproperty, Ne.symm hproperty, h.nullable]
  nodup := by
    rw [value_mergeProperty, withProperty]
    cases definition.nullable with
    | true => exact NameSet.nodup_add h.nodup
    | false => exact h.nodup.erase _
  reports report := by
    rw [List.mem_append, h.reports, h.mem_reports_mergeProperty]
    constructor
    · rintro (⟨property, before, after, hredefines, rfl⟩ | ⟨last, hlast, hdiffer, rfl⟩)
      · exact ⟨_, _, _, redefines_concat_iff.2 (.inl hredefines), rfl⟩
      · exact ⟨_, _, _, redefines_concat_iff.2 (.inr ⟨rfl, last, hlast, rfl, rfl, hdiffer⟩), rfl⟩
    · rintro ⟨property, before, after, hredefines, rfl⟩
      rcases redefines_concat_iff.1 hredefines with hold | ⟨rfl, last, hlast, rfl, rfl, hdiffer⟩
      · exact .inl ⟨_, _, _, hold, rfl⟩
      · exact .inr ⟨last, hlast, hdiffer, rfl⟩

/-- Taking in properties of an object keeps track of the definitions. -/
theorem Tracks.mergeProperties (h : Tracks parent definitions object reports)
    (source : ObjectShape) (properties : List (String × SchemaUse)) :
    Tracks parent (definitions ++ properties.map source.definition)
      (mergeProperties parent source object properties).value
      (reports ++ (mergeProperties parent source object properties).reports) := by
  induction properties generalizing definitions object reports with
  | nil => simpa [ObjectOf.mergeProperties] using h
  | cons entry rest ih =>
      have hstep := h.mergeProperty (source.definition entry) (source.required.contains entry.1)
      have hrest := ih hstep
      simp only [List.append_assoc] at hrest
      exact hrest

/-- Taking in an object keeps track of the definitions. -/
theorem Tracks.merge (h : Tracks parent definitions object reports) (source : ObjectShape) :
    Tracks parent (definitions ++ source.definitions) (object.merge parent source).value
      (reports ++ (object.merge parent source).reports) := by
  have hmerged := h.mergeProperties source source.properties
  -- What an object requires plays no part in the definitions.
  refine ⟨hmerged.names, hmerged.uses, hmerged.nullable, hmerged.nodup, ?_⟩
  rw [ObjectOf.merge, Reported.reports_bind, Reported.reports_pure, List.append_nil]
  exact hmerged.reports

/-- Properties add to what is required only what their object requires. -/
theorem mem_required_withProperties {properties : List (String × SchemaUse)} {name : String} :
    name ∈ (withProperties source object properties).required ↔
      name ∈ object.required ∨ (name ∈ source.required ∧ name ∈ properties.map Prod.fst) := by
  induction properties generalizing object with
  | nil => simp [withProperties]
  | cons entry rest ih =>
      have hstep : name ∈ (object.withProperty entry.1 entry.2 (source.required.contains entry.1)
          (source.nullable.contains entry.1)).required ↔
            name ∈ object.required ∨ (name ∈ source.required ∧ name = entry.1) := by
        by_cases hrequired : entry.1 ∈ source.required
        · simp only [withProperty, List.contains_iff_mem, hrequired, if_true, NameSet.mem_add]
          refine or_congr_right ⟨fun heq => ⟨heq ▸ hrequired, heq⟩, And.right⟩
        · simp only [withProperty, List.contains_iff_mem, hrequired, if_false, iff_self_or]
          rintro ⟨hname, rfl⟩
          exact absurd hname hrequired
      rw [withProperties, List.foldl_cons]
      refine ih.trans ?_
      rw [hstep, List.map_cons, List.mem_cons, and_or_left, or_assoc]

/-- A merged object adds what it requires. -/
theorem mem_required_merge {name : String} :
    name ∈ (object.merge parent source).value.required ↔
      name ∈ object.required ∨ name ∈ source.required := by
  rw [value_merge, mergedWith]
  simp only [NameSet.mem_addAll, mem_required_withProperties]
  refine ⟨?_, fun h => h.imp_left Or.inl⟩
  rintro ((hobject | ⟨hsource, _⟩) | hsource)
  · exact .inl hobject
  · exact .inr hsource
  · exact .inr hsource

end ObjectOf

/-- The member is an object, in place or behind a reference. -/
inductive Table.GivesObject (table : Table) : SchemaUse → ObjectShape → Prop where
  | inline (source : ObjectShape) : GivesObject table (.inline (.object source)) source
  | named {reference name : String} {source : ObjectShape}
      (h : table.LeadsTo reference name (.object source)) :
      GivesObject table (.named reference) source

namespace Flattening

variable {idle chain : List String} {parent : String} {position : Nat} {object : ObjectShape}
  {state : Flattening}

/-- A member that is an object is merged, and nothing else happens. -/
theorem mergeMember_of_givesObject {member : SchemaUse} {source : ObjectShape}
    (h : state.table.GivesObject member source) :
    mergeMember idle chain parent position member (object, state) =
      (fun merged => (merged, state)) <$> object.merge parent source := by
  cases h with
  | inline =>
      rw [mergeMember]
      rfl
  | named hleads =>
      rw [mergeMember, Table.resolve, hleads.resolve?_eq]
      simp [Resolved.isUnknown, Schema.isUnknown, Schema.isAllOf, ObjectOf.mergeNamed,
        hleads.get?]

/-- Merging members that are objects keeps track of the definitions, adds what the objects require,
and leaves the table alone. -/
theorem mergeMembers_of_givesObject (idle chain : List String) (position : Nat)
    {members : List SchemaUse} {sources : List ObjectShape}
    (hmembers : List.Forall₂ state.table.GivesObject members sources)
    {definitions : List PropertyDefinition} {reports : List Report}
    (h : ObjectOf.Tracks parent definitions object reports) :
    ∃ merged : ObjectShape,
      (mergeMembers idle chain parent position members (object, state)).value = (merged, state) ∧
      ObjectOf.Tracks parent (definitions ++ sources.flatMap ObjectOf.definitions) merged
        (reports ++ (mergeMembers idle chain parent position members (object, state)).reports) ∧
      ∀ name, name ∈ merged.required ↔
        name ∈ object.required ∨ ∃ source ∈ sources, name ∈ source.required := by
  induction hmembers generalizing position object definitions reports with
  | nil => exact ⟨object, by rw [mergeMembers]; rfl, by simpa [mergeMembers] using h, by simp⟩
  | @cons member source members sources hmember _ ih =>
      obtain ⟨merged, hvalue, htracks, hrequired⟩ := ih (position + 1) (h.merge source)
      refine ⟨merged, ?_, ?_, fun name => ?_⟩
      · rw [mergeMembers, mergeMember_of_givesObject hmember]
        exact hvalue
      · rw [mergeMembers, mergeMember_of_givesObject hmember]
        simpa using htracks
      · rw [hrequired, ObjectOf.mem_required_merge, or_assoc]
        simp

/-- An `allOf` entry whose members are objects is replaced by the object that these give when merged
in their order. A conflict of a property is entered in an empty log exactly when two successive
definitions of the property differ in type, and nothing else is. -/
theorem flattenEntry_redefinitions (idle chain : List String) (state : Flattening) {name : String}
    {parts : Composition} {sources : List ObjectShape} (hidle : name ∈ idle)
    (hallOf : state.table.AllOf name parts)
    (hmembers : List.Forall₂ state.table.GivesObject parts.members sources) :
    ∃ merged : ObjectShape,
      (flattenEntry idle chain name state).value =
        ⟨state.table.insert name (.object merged), state.flattened ++ [name]⟩ ∧
      merged.IsMergeOf sources ∧
      ∀ diagnostic,
        diagnostic ∈ (Log.empty.record (flattenEntry idle chain name state).reports).entries ↔
          ∃ property before after,
            Redefines (sources.flatMap ObjectOf.definitions) property before after ∧
            diagnostic = Report.diagnostic
              ⟨some name, .propertyConflict property before after⟩ := by
  obtain ⟨hget, hsum⟩ := hallOf
  obtain ⟨merged, hvalue, htracks, hrequired⟩ :=
    mergeMembers_of_givesObject (idle.erase name) (chain ++ [name]) 1 hmembers
      (ObjectOf.tracks_nil name parts.docs)
  have hentry : flattenEntry idle chain name state =
      (fun progress : ObjectShape × Flattening =>
        (⟨progress.2.table.insert name (.object progress.1), progress.2.flattened ++ [name]⟩ :
          Flattening)) <$>
        mergeMembers (idle.erase name) (chain ++ [name]) name 1 parts.members
          (⟨[], [], [], parts.docs⟩, state) := by
    rw [flattenEntry, dif_pos hidle, hget]
    simp [hsum]
  refine ⟨merged, ?_, ⟨htracks.names, htracks.uses, htracks.nullable, ?_⟩, fun diagnostic => ?_⟩
  · rw [hentry, Reported.value_map, hvalue]
  · simpa using hrequired
  · rw [hentry, Reported.reports_map, Log.mem_record]
    simp only [Log.empty, List.not_mem_nil, false_or]
    constructor
    · rintro ⟨report, hreport, rfl⟩
      obtain ⟨property, before, after, hredefines, rfl⟩ := (htracks.reports report).1 hreport
      exact ⟨property, before, after, hredefines, rfl⟩
    · rintro ⟨property, before, after, hredefines, rfl⟩
      exact ⟨_, (htracks.reports _).2 ⟨property, before, after, hredefines, rfl⟩, rfl⟩

/-- A scalar where it is used. -/
def scalarUse (kind : ScalarKind) : SchemaUse := .inline (.scalar (.bare kind))

/-- A pet, whose age may be null. -/
def pet : ObjectShape :=
  ⟨[("name", scalarUse .string), ("age", scalarUse .integer)], ["name"], ["age"], Docs.none⟩

/-- What a cat adds to a pet: another age, claws, and a tail that is required but not described. -/
def feline : ObjectShape :=
  ⟨[("age", scalarUse .number), ("claws", .inline .any)], ["tail"], [], Docs.none⟩

/-- The age of a cat as a text. -/
def aged : ObjectShape := ⟨[("age", scalarUse .string)], [], ["age"], Docs.none⟩

/-- The members of a cat, one of them behind an alias. -/
def catParts : Composition :=
  ⟨.allOf, [.named "Creature", .inline (.object feline), .inline (.object aged)], none, Docs.none⟩

/-- A table with a pet, another name of it, and a cat. -/
def cattery : Table :=
  ⟨[("Pet", .object pet), ("Creature", .alias "#/components/schemas/Pet"),
    ("Cat", .composition catParts)], by decide⟩

/-- The age of a cat stands where the age of a pet does, is the text that is defined last and may be
null again. The change from an integer to a number is reported. -/
theorem cattery_redefinitions :
    ("Cat" ∈ cattery.names ∧ cattery.AllOf "Cat" catParts ∧
      List.Forall₂ cattery.GivesObject catParts.members [pet, feline, aged]) ∧
    ∃ merged : ObjectShape,
      (flattenEntry cattery.names [] "Cat" ⟨cattery, []⟩).value =
        ⟨cattery.insert "Cat" (.object merged), ["Cat"]⟩ ∧
      Keyed.keys merged.properties = ["name", "age", "claws"] ∧
      Keyed.get? merged.properties "age" = some (scalarUse .string) ∧
      "age" ∈ merged.nullable ∧ "tail" ∈ merged.required ∧
      let log := Log.empty.record (flattenEntry cattery.names [] "Cat" ⟨cattery, []⟩).reports
      Report.diagnostic ⟨some "Cat", .propertyConflict "age" "integer" "number"⟩ ∈ log.entries := by
  have hnames : "Cat" ∈ cattery.names := by decide
  have hallOf : cattery.AllOf "Cat" catParts := ⟨rfl, rfl⟩
  have hleads : cattery.LeadsTo "Creature" "Pet" (.object pet) :=
    ⟨"Creature", by decide, .single ⟨_, rfl, by decide⟩, rfl, nofun⟩
  have hmembers : List.Forall₂ cattery.GivesObject catParts.members [pet, feline, aged] :=
    .cons (.named hleads) (.cons (.inline feline) (.cons (.inline aged) .nil))
  obtain ⟨merged, hvalue, hmerge, hlog⟩ :=
    flattenEntry_redefinitions cattery.names [] ⟨cattery, []⟩ hnames hallOf hmembers
  refine ⟨⟨hnames, hallOf, hmembers⟩, merged, hvalue, ?names, ?uses, ?nullable, ?required,
    (hlog _).2 ⟨"age", "integer", "number", ?redefined, rfl⟩⟩
  case names =>
    rw [hmerge.names]
    decide
  case uses =>
    rw [hmerge.uses]
    rfl
  case nullable => exact (hmerge.nullable "age").2 ⟨_, rfl, rfl⟩
  case required =>
    exact (hmerge.required "tail").2 ⟨feline, by simp, List.mem_singleton_self _⟩
  case redefined =>
    exact ⟨_, _, ⟨[], [aged.definition ("age", scalarUse .string)], rfl⟩, rfl, rfl, by decide⟩

end Flattening

end SchemaGraph
