import SchemaGraph.Proofs.Document.Fields
import SchemaGraph.Proofs.Links.StandIns

/-!
# Discriminators without a name

A discriminator whose property has no name gives no tag, so a sum type with it is the same as one
without. `Schema.untagged` leaves such discriminators out, and `Table.discover_untagged` says that
this makes no difference to what is discovered in a table, nor to what is reported on the way.
-/

namespace SchemaGraph

open SumType (tagName)

/-- The composition without a discriminator that names no property. -/
def CompositionOf.untagged (parts : Composition) : Composition :=
  { parts with discriminator :=
      parts.discriminator.filter fun discriminator => !(tagName discriminator).isEmpty }

/-- The schema without a discriminator that names no property. -/
def Schema.untagged : Schema → Schema
  | .composition parts => .composition parts.untagged
  | schema => schema

/-- The schema where it is used, without a discriminator that names no property. -/
def SchemaUse.untagged : SchemaUse → SchemaUse
  | .named reference => .named reference
  | .inline schema => .inline schema.untagged

/-- The entries of a table without discriminators that name no property. -/
def Table.untagged (table : Table) : Table :=
  ⟨Keyed.mapValues table.entries Schema.untagged, Keyed.Distinct.mapValues table.distinct _⟩

/-- The resolved entry without a discriminator that names no property. -/
def Resolved.untagged (resolved : Resolved) : Resolved :=
  ⟨resolved.name, resolved.schema.untagged⟩

@[simp]
theorem Schema.docs_untagged (schema : Schema) : schema.untagged.docs = schema.docs := by
  cases schema <;> rfl

@[simp]
theorem Resolved.name_untagged (resolved : Resolved) : resolved.untagged.name = resolved.name :=
  rfl

@[simp]
theorem Resolved.isUnknown_untagged (resolved : Resolved) :
    resolved.untagged.isUnknown = resolved.isUnknown := by
  obtain ⟨name, schema⟩ := resolved
  cases schema <;> rfl

namespace CompositionOf

variable {kind : CompositionKind} {members : List SchemaUse} {discriminator : Discriminator}
  {docs : Docs}

/-- A discriminator that names no property is left out. -/
theorem untagged_unnamed (hname : tagName discriminator = []) :
    untagged ⟨kind, members, some discriminator, docs⟩ = ⟨kind, members, none, docs⟩ := by
  simp [untagged, hname]

/-- Every other discriminator is kept. -/
theorem untagged_named (hname : tagName discriminator ≠ []) :
    untagged ⟨kind, members, some discriminator, docs⟩ =
      ⟨kind, members, some discriminator, docs⟩ := by
  simp [untagged, hname]

end CompositionOf

/-- There is nothing more to leave out. -/
@[simp]
theorem SchemaUse.untagged_untagged (use : SchemaUse) :
    SchemaUse.untagged (SchemaUse.untagged use) = SchemaUse.untagged use := by
  cases use with
  | named reference => rfl
  | inline schema =>
      cases schema with
      | composition parts =>
          simp [untagged, Schema.untagged, CompositionOf.untagged, Option.filter_filter]
      | _ => rfl

namespace Table

variable {table : Table}

theorem names_untagged (table : Table) : table.untagged.names = table.names :=
  List.map_map

theorem get?_untagged (table : Table) (name : String) :
    table.untagged.get? name = (table.get? name).map Schema.untagged :=
  Keyed.get?_mapValues table.entries Schema.untagged name

theorem contains_untagged (table : Table) (name : String) :
    table.untagged.contains name = table.contains name :=
  Keyed.has_mapValues table.entries Schema.untagged name

theorem untagged_insert (table : Table) (name : String) (schema : Schema) :
    (table.insert name schema).untagged = table.untagged.insert name schema.untagged := by
  simp only [untagged, insert, Keyed.mapValues_put]

/-- Following aliases looks at aliases only. -/
theorem followFrom_untagged (reference : String) (unseen : List String) (name : String) :
    table.untagged.followFrom reference unseen name =
      (table.followFrom reference unseen name).map Resolved.untagged := by
  fun_induction followFrom table reference unseen name with
  | case1 unseen name hget =>
      rw [followFrom, get?_untagged, hget]
      rfl
  | case2 unseen name hmem next target htarget hget ih =>
      rw [followFrom, get?_untagged, hget]
      simpa [hmem, Schema.untagged, htarget] using ih
  | case3 unseen name hmem next htarget hget =>
      rw [followFrom, get?_untagged, hget]
      simp [hmem, Schema.untagged, htarget, Except.map]
  | case4 unseen name schema hget hmem hdefinition =>
      rw [followFrom, get?_untagged, hget]
      cases schema with
      | «alias» next => exact absurd rfl (hdefinition next)
      | _ => simp [hmem, Schema.untagged, Resolved.untagged, Except.map]
  | case5 unseen name schema hget hmem =>
      rw [followFrom, get?_untagged, hget]
      simp [hmem, Except.map]

theorem resolve?_untagged (table : Table) (reference : String) :
    table.untagged.resolve? reference = (table.resolve? reference).map Resolved.untagged := by
  unfold resolve?
  rw [names_untagged]
  cases Reference.schemaName? reference with
  | some name => exact followFrom_untagged reference table.names name
  | none => rfl

theorem resolve_untagged (table : Table) (subject : Option String) (reference : String) :
    table.untagged.resolve subject reference =
      Resolved.untagged <$> table.resolve subject reference := by
  unfold resolve
  rw [resolve?_untagged]
  cases table.resolve? reference <;> rfl

end Table

namespace SumType

variable {table : Table} {namer : Namer} {parent : String} {kind : CompositionKind}

theorem classify_untagged (position : Nat) (member : SchemaUse) (registry : Registry) :
    classify table.untagged namer parent kind position member registry =
      classify table namer parent kind position member registry := by
  unfold classify
  cases SchemaUse.target? member with
  | some reference =>
      simp only [Table.resolve_untagged, bind_map_left, Resolved.isUnknown_untagged,
        Resolved.name_untagged]
  | none => rfl

theorem classifyAll_untagged (position : Nat) (members : List SchemaUse) (registry : Registry) :
    classifyAll table.untagged namer parent kind position members registry =
      classifyAll table namer parent kind position members registry := by
  induction members generalizing position registry with
  | nil => rfl
  | cons member rest ih => simp only [classifyAll, classify_untagged, ih]

theorem mappedTargets_untagged (entries : List MappingEntry) :
    mappedTargets table.untagged namer parent entries =
      mappedTargets table namer parent entries := by
  induction entries with
  | nil => rfl
  | cons entry rest ih =>
      simp only [mappedTargets, Table.resolve?_untagged, ih]
      cases table.resolve? entry.target <;> rfl

/-- A discriminator that names no property gives no tag. -/
theorem tagOf_untagged (parts : Composition) (alternatives : List Alternative) :
    tagOf table.untagged namer parent parts.untagged alternatives =
      tagOf table namer parent parts alternatives := by
  obtain ⟨kind, members, discriminator, docs⟩ := parts
  cases discriminator with
  | none => cases kind <;> rfl
  | some discriminator =>
      by_cases hname : tagName discriminator = []
      · rw [CompositionOf.untagged_unnamed hname]
        cases kind <;> simp_all [tagOf, tagName]
      · rw [CompositionOf.untagged_named hname]
        simp only [tagOf, mappedTargets_untagged, implicitTargets, Table.contains_untagged]

/-- The same sum type is built with the same reports. -/
theorem build_untagged (parts : Composition) (registry : Registry) :
    build table.untagged namer parent parts.untagged registry =
      build table namer parent parts registry := by
  unfold build
  simp only [tagOf_untagged]
  exact congrArg (· >>= _) (classifyAll_untagged 1 parts.members registry)

end SumType

namespace Discovery

variable {table : Table} {namer : Namer}

theorem withEntry_untagged (name : String) (schema : Schema) (discovery : Discovery) :
    withEntry table.untagged namer name schema.untagged discovery =
      withEntry table namer name schema discovery := by
  cases schema with
  | composition parts =>
      have hsum : parts.untagged.isSum = parts.isSum := rfl
      simp only [withEntry, Schema.untagged, hsum, SumType.build_untagged]
  | _ => rfl

theorem ofEntries_untagged (entries : List (String × Schema)) (discovery : Discovery) :
    ofEntries table.untagged namer (Keyed.mapValues entries Schema.untagged) discovery =
      ofEntries table namer entries discovery := by
  induction entries generalizing discovery with
  | nil => rfl
  | cons entry rest ih =>
      obtain ⟨name, schema⟩ := entry
      have hrest : ofEntries table.untagged namer (Keyed.mapValues rest Schema.untagged) =
          ofEntries table namer rest := funext ih
      rw [ofEntries_cons, ← hrest, ← withEntry_untagged]
      exact ofEntries_cons

end Discovery

/-- The same is discovered in a table when discriminators that name no property are left out. -/
theorem Table.discover_untagged (table : Table) (namer : Namer) :
    table.untagged.discover namer = table.discover namer :=
  Discovery.ofEntries_untagged table.entries .empty

end SchemaGraph
