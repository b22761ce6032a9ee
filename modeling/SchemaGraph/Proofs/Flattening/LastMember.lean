import SchemaGraph.Proofs.Flattening.Outcome

/-!
# The last member of a composition

The members of an `allOf` are merged in their order, so an object that is the last of them decides
what its properties are, whatever the members before it say. `ObjectOf.agreesWith_mergedWith` says
this of one merge, and `Run.agreesWith` of every run of the flattening, also when dependencies go
round. Read `Table.flatten_agreesWith` first.
-/

namespace SchemaGraph

namespace ObjectOf

/-- The object has all properties of `source` with the schemas that they have there, lets the same
of them be null, and requires what `source` requires. -/
structure AgreesWith (object source : ObjectShape) : Prop where
  uses : ∀ property use, Keyed.get? source.properties property = some use →
    Keyed.get? object.properties property = some use
  nullable : ∀ property ∈ Keyed.keys source.properties,
    (property ∈ object.nullable ↔ property ∈ source.nullable)
  required : ∀ name ∈ source.required, name ∈ object.required

variable {object source : ObjectShape} {property : String} {use : SchemaUse}
  {properties : List (String × SchemaUse)}

/-- Taking in a definition repeats no name among the properties that may be null. -/
theorem nodup_nullable_withProperty (h : object.nullable.Nodup) (required nullable : Bool) :
    (object.withProperty property use required nullable).nullable.Nodup := by
  cases nullable with
  | true => exact NameSet.nodup_add h
  | false => exact h.erase property

theorem nodup_nullable_withProperties (h : object.nullable.Nodup) :
    (withProperties source object properties).nullable.Nodup := by
  induction properties generalizing object with
  | nil => exact h
  | cons entry rest ih => exact ih (nodup_nullable_withProperty h _ _)

theorem nodup_nullable_mergedWith (h : object.nullable.Nodup) :
    (object.mergedWith source).nullable.Nodup :=
  nodup_nullable_withProperties h

theorem nodup_nullable_mergeInline {parent : String} {position : Nat} {member : Schema}
    (h : object.nullable.Nodup) :
    (object.mergeInline parent position member).value.nullable.Nodup := by
  rw [value_mergeInline, mergedInline.eq_def]
  split
  · exact nodup_nullable_mergedWith h
  · exact h

theorem nodup_nullable_mergeNamed {parent reference name : String} {position : Nat}
    {member : Option Schema} (h : object.nullable.Nodup) :
    (object.mergeNamed parent position reference name member).value.nullable.Nodup := by
  cases member with
  | none => exact h
  | some member =>
      rw [value_mergeNamed, mergedNamed.eq_def]
      split
      · exact nodup_nullable_mergedWith h
      · split
        · exact nodup_nullable_withProperty h _ _
        · exact h
      · exact h

/-- Taking in properties leaves those of other names. -/
theorem withProperties_of_notMem (source object : ObjectShape)
    (h : property ∉ Keyed.keys properties) :
    Keyed.get? (withProperties source object properties).properties property =
        Keyed.get? object.properties property ∧
      (property ∈ (withProperties source object properties).nullable ↔
        property ∈ object.nullable) := by
  induction properties generalizing object with
  | nil => exact ⟨rfl, .rfl⟩
  | cons entry rest ih =>
      obtain ⟨hne, hrest⟩ := List.ne_and_not_mem_of_not_mem_cons h
      obtain ⟨huse, hnullable⟩ := ih (object.withProperty entry.1 entry.2
        (source.required.contains entry.1) (source.nullable.contains entry.1)) hrest
      refine ⟨huse.trans ?_, hnullable.trans ?_⟩
      · rw [withProperty, Keyed.get?_put, if_neg hne]
      · cases hmember : source.nullable.contains entry.1 with
        | true => simp [withProperty, NameSet.mem_add, hne]
        | false => simp [withProperty, List.mem_erase_of_ne hne]

/-- A property that is taken in has the schema and the mark of its object. -/
theorem withProperties_of_get? (hdistinct : Keyed.Distinct properties)
    (hobject : object.nullable.Nodup)
    (h : Keyed.get? properties property = some use) :
    Keyed.get? (withProperties source object properties).properties property = some use ∧
      (property ∈ (withProperties source object properties).nullable ↔
        property ∈ source.nullable) := by
  induction properties generalizing object with
  | nil => cases h
  | cons entry rest ih =>
      obtain ⟨name, definition⟩ := entry
      obtain ⟨hnew, hrest⟩ := List.nodup_cons.1 hdistinct
      by_cases hname : name = property
      · -- The rest does not define the property again, so it stays as it is taken in here.
        subst hname
        simp only [Keyed.get?, if_true, Option.some.injEq] at h
        subst h
        obtain ⟨huse, hnullable⟩ := withProperties_of_notMem source
          (object.withProperty name definition (source.required.contains name)
            (source.nullable.contains name)) hnew
        refine ⟨huse.trans ?_, hnullable.trans ?_⟩
        · rw [withProperty, Keyed.get?_put, if_pos rfl]
        · by_cases hmember : name ∈ source.nullable
          · simp [withProperty, hmember, NameSet.mem_add]
          · simp [withProperty, hmember, hobject.mem_erase_iff]
      · rw [Keyed.get?, if_neg hname] at h
        exact ih hrest (nodup_nullable_withProperty hobject _ _) h

/-- What is merged last decides. -/
theorem agreesWith_mergedWith (hsource : Keyed.Distinct source.properties)
    (hobject : object.nullable.Nodup) : (object.mergedWith source).AgreesWith source where
  uses _ _ hget := (withProperties_of_get? hsource hobject hget).1
  nullable property hproperty := by
    obtain ⟨use, hget⟩ :=
      Option.isSome_iff_exists.1 ((Keyed.get?_isSome_iff source.properties property).2 hproperty)
    exact (withProperties_of_get? hsource hobject hget).2
  required _ hname := NameSet.mem_addAll.2 (.inr hname)

end ObjectOf

/-- The last member of a composition is an object in place. -/
def CompositionOf.EndsWith (parts : Composition) (source : ObjectShape) : Prop :=
  Keyed.Distinct source.properties ∧ ∃ before, parts.members = before ++ [.inline (.object source)]

namespace Flattening

/-- A flattened entry agrees with the object in place that is its last member, if there is one. -/
def LastDecides (table : Table) (state : Flattening) : Prop :=
  ∀ name ∈ state.flattened, ∀ parts source, table.AllOf name parts → parts.EndsWith source →
    ∃ object : ObjectShape, state.table.get? name = some (.object object) ∧
      object.AgreesWith source

/-- A task that merges members gives an object that agrees with the last of them, if that is an
object in place. -/
def Task.Ends (after : ObjectShape) : Task → Prop
  | .member _ _ use => ∀ source, Keyed.Distinct source.properties →
      use = .inline (.object source) → after.AgreesWith source
  | .members _ _ uses => ∀ source before, Keyed.Distinct source.properties →
      uses = before ++ [.inline (.object source)] → after.AgreesWith source
  | _ => True

/-- Every run has flattened entries agree with their last members. -/
theorem Run.agreesWith {table : Table} {idle chain : List String} {task : Task}
    {before after : Progress} {reports : List Report} (h : Run idle chain task before after reports)
    (hidle : idle.Nodup) (hstage : Stage table before.2) (hnodup : before.1.nullable.Nodup)
    (hlast : LastDecides table before.2) :
    LastDecides table after.2 ∧ after.1.nullable.Nodup ∧ task.Ends after.1 := by
  induction h with
  | skipped | entriesNil => exact ⟨hlast, hnodup, trivial⟩
  | membersNil =>
      refine ⟨hlast, hnodup, fun source before _ hmembers => ?_⟩
      cases before <;> cases hmembers
  | unresolved | cycle => exact ⟨hlast, hnodup, nofun⟩
  | named => exact ⟨hlast, ObjectOf.nodup_nullable_mergeNamed hnodup, nofun⟩
  | base _ _ _ _ ih =>
      obtain ⟨hlast, _⟩ := ih hidle hstage hnodup hlast
      exact ⟨hlast, ObjectOf.nodup_nullable_mergeNamed hnodup, nofun⟩
  | inline =>
      refine ⟨hlast, ObjectOf.nodup_nullable_mergeInline hnodup, fun source hsource hmember => ?_⟩
      cases hmember
      rw [ObjectOf.value_mergeInline]
      exact ObjectOf.agreesWith_mergedWith hsource hnodup
  | @membersCons idle chain parent position member rest before between after _ _ hmember hrest
      ihmember ihrest =>
      obtain ⟨hbetween, _⟩ := hmember.stage hidle hstage
      obtain ⟨hlast, hnodup, hends⟩ := ihmember hidle hstage hnodup hlast
      obtain ⟨hlast, hnodup', hendsRest⟩ := ihrest hidle hbetween hnodup hlast
      refine ⟨hlast, hnodup', fun source first hsource hmembers => ?_⟩
      -- The last member is this one when it is the only one, and the last of the rest otherwise.
      cases first with
      | cons _ others => exact hendsRest source others hsource (List.cons_inj_right _ |>.1 (by
          rw [List.cons_append] at hmembers
          exact (List.cons.inj hmembers).1 ▸ hmembers))
      | nil =>
          obtain ⟨hfirst, rfl⟩ := List.cons.inj hmembers
          cases hrest
          exact hends source hsource hfirst
  | entriesCons hentry _ ihentry ihrest =>
      obtain ⟨hbetween, _⟩ := hentry.stage hidle hstage
      obtain ⟨hlast, hnodup, _⟩ := ihentry hidle hstage hnodup hlast
      obtain ⟨hlast, hnodup, _⟩ := ihrest hidle hbetween hnodup hlast
      exact ⟨hlast, hnodup, trivial⟩
  | @entry idle chain name parts before after reports _ hallOf _ ih =>
      -- The entry gets the object of its members, and the other entries stay as they are.
      obtain ⟨_, hallOf⟩ := hstage.allOf_iff.1 hallOf
      obtain ⟨hlast, _, hends⟩ := ih (hidle.erase name) hstage List.nodup_nil hlast
      refine ⟨?_, hnodup, trivial⟩
      rintro other hother otherParts source hparts hendsWith
      by_cases heq : other = name
      · subst heq
        cases hallOf.unique hparts
        obtain ⟨hsource, first, hmembers⟩ := hendsWith
        exact ⟨after.1, by simp [finish, Table.get?_insert], hends source first hsource hmembers⟩
      · have hold : other ∈ after.2.flattened := by simpa [finish, heq] using hother
        obtain ⟨object, hget, hagrees⟩ := hlast other hold otherParts source hparts hendsWith
        exact ⟨object, by simp [finish, Table.get?_insert, heq, hget], hagrees⟩

end Flattening

open Flattening in
/-- The object that takes the place of an `allOf` entry agrees with the object in place that is the
last of its members. -/
theorem Table.flatten_agreesWith {table : Table} {name : String} {parts : Composition}
    {source : ObjectShape} (hallOf : table.AllOf name parts) (hends : parts.EndsWith source) :
    ∃ object : ObjectShape, table.flatten.value.table.get? name = some (.object object) ∧
      object.AgreesWith source := by
  have hlast : LastDecides table table.flatten.value :=
    ((flatten_run table .empty).agreesWith table.distinct (Stage.start table) List.nodup_nil
      nofun).1
  exact hlast name (mem_flattened.2 ⟨parts, hallOf⟩) parts source hallOf hends

end SchemaGraph
