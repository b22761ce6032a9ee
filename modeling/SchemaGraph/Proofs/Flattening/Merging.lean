import SchemaGraph.Graph.Flattening
import SchemaGraph.Proofs.Reports

/-!
# What merging gives

Merging reports conflicts on the way, but the merged object does not depend on the reports:
`ObjectOf.withProperty` takes in one definition of a property and `ObjectOf.mergedWith` a whole
object. A merge reports warnings only, and none of them is about a cycle.
-/

namespace SchemaGraph

/-- The report says that a member closes a cycle of `allOf` schemas. -/
def Report.OfCycle (report : Report) : Prop :=
  report.finding.kind = .allOfCycle

namespace Reported

variable {α : Type}

/-- No report of the computation says that a member closes a cycle. -/
def CycleFree (result : Reported α) : Prop :=
  ∀ report ∈ result.reports, ¬ report.OfCycle

/-- Warnings are not about cycles. -/
theorem Every.cycleFree {result : Reported α} (h : result.Every Report.IsWarning) :
    result.CycleFree := by
  intro report hreport hcycle
  cases (h report hreport).symm.trans (Finding.severity_eq_error_iff.2 (.inl hcycle))

end Reported

namespace ObjectOf

/-- The object with one definition of a property taken in. It replaces an earlier one in its place
and decides alone whether the property may be null. -/
def withProperty (object : ObjectShape) (property : String) (use : SchemaUse)
    (required nullable : Bool) : ObjectShape :=
  ⟨Keyed.put object.properties property use,
    if required then NameSet.add object.required property else object.required,
    if nullable then NameSet.add object.nullable property else object.nullable.erase property,
    object.docs⟩

/-- The object with properties of `source` taken in, one after the other. -/
def withProperties (source object : ObjectShape) (properties : List (String × SchemaUse)) :
    ObjectShape :=
  properties.foldl (fun object entry => object.withProperty entry.1 entry.2
    (source.required.contains entry.1) (source.nullable.contains entry.1)) object

/-- The object with all of `source` taken in but its title and description. -/
def mergedWith (object source : ObjectShape) : ObjectShape :=
  let merged := withProperties source object source.properties
  ⟨merged.properties, NameSet.addAll merged.required source.required, merged.nullable, merged.docs⟩

/-- The object with an inline member taken in: an object is merged, anything else gives nothing. -/
def mergedInline (object : ObjectShape) : Schema → ObjectShape
  | .object source => object.mergedWith source
  | _ => object

/-- The object with the entry `name` taken in, which a member names by `reference`: an object is
merged, a sum type becomes a required property that may not be null, anything else gives nothing. -/
def mergedNamed (object : ObjectShape) (reference name : String) : Schema → ObjectShape
  | .object source => object.mergedWith source
  | .composition parts =>
      if parts.isSum then
        object.withProperty (Naming.camelCase name) (.named reference) true false
      else object
  | _ => object

variable {parent : String} {object source : ObjectShape}

theorem value_mergeProperty {property : String} {use : SchemaUse} {required nullable : Bool} :
    (object.mergeProperty parent property use required nullable).value =
      object.withProperty property use required nullable := by
  unfold mergeProperty
  cases Keyed.get? object.properties property with
  | none => rfl
  | some existing =>
      by_cases hsame : useSignature existing = useSignature use
      · simp [hsame, withProperty]
      · simp [hsame, withProperty]

theorem value_mergeProperties {properties : List (String × SchemaUse)} :
    (mergeProperties parent source object properties).value =
      withProperties source object properties := by
  induction properties generalizing object with
  | nil => rfl
  | cons entry rest ih => simp [mergeProperties, ih, value_mergeProperty, withProperties]

theorem value_merge : (object.merge parent source).value = object.mergedWith source := by
  simp [merge, mergedWith, value_mergeProperties]

theorem value_mergeInline {position : Nat} {member : Schema} :
    (object.mergeInline parent position member).value = object.mergedInline member := by
  cases member with
  | object source => exact value_merge
  | _ => rfl

theorem value_mergeNamed {position : Nat} {reference name : String} {member : Schema} :
    (object.mergeNamed parent position reference name (some member)).value =
      object.mergedNamed reference name member := by
  cases member with
  | object source => exact value_merge
  | composition parts =>
      cases hsum : parts.isSum with
      | true => simp [mergeNamed, mergedNamed, Schema.isSumType, hsum, value_mergeProperty]
      | false => simp [mergeNamed, mergedNamed, Schema.isSumType, hsum]
  | _ => rfl

/-- A conflict of two definitions is a warning. -/
theorem warns_mergeProperty {property : String} {use : SchemaUse} {required nullable : Bool} :
    (object.mergeProperty parent property use required nullable).Every Report.IsWarning := by
  unfold mergeProperty
  cases Keyed.get? object.properties property with
  | none => exact .pure _
  | some existing =>
      by_cases hsame : useSignature existing = useSignature use
      · simpa [hsame] using Reported.Every.pure _
      · simp only [ne_eq, hsame, not_false_eq_true, if_true]
        exact .bind (.note rfl) (.pure _)

theorem warns_mergeProperties {properties : List (String × SchemaUse)} :
    (mergeProperties parent source object properties).Every Report.IsWarning := by
  induction properties generalizing object with
  | nil => exact .pure _
  | cons entry rest ih => exact .bind warns_mergeProperty ih

theorem warns_merge : (object.merge parent source).Every Report.IsWarning :=
  .bind warns_mergeProperties (.pure _)

/-- Merging an inline member gives no errors. -/
theorem warns_mergeInline {position : Nat} {member : Schema} :
    (object.mergeInline parent position member).Every Report.IsWarning := by
  unfold mergeInline
  split
  · exact warns_merge
  · exact .pure _
  · exact .bind (.note rfl) (.pure _)

/-- Merging a named member gives no errors. -/
theorem warns_mergeNamed {position : Nat} {reference name : String} {member : Option Schema} :
    (object.mergeNamed parent position reference name member).Every Report.IsWarning := by
  unfold mergeNamed
  split
  · exact .pure _
  · exact warns_merge
  · exact .pure _
  · split
    · exact warns_mergeProperty
    · exact .bind (.note rfl) (.pure _)

/-- Taking properties in keeps the title and the description. -/
theorem docs_withProperties {properties : List (String × SchemaUse)} :
    (withProperties source object properties).docs = object.docs := by
  induction properties generalizing object with
  | nil => rfl
  | cons entry rest ih => exact ih

/-- Merging keeps the title and the description. -/
theorem docs_mergedWith : (object.mergedWith source).docs = object.docs :=
  docs_withProperties

/-- Merging an inline member keeps the title and the description. -/
theorem docs_mergeInline {position : Nat} {member : Schema} :
    (object.mergeInline parent position member).value.docs = object.docs := by
  unfold mergeInline
  split
  · rw [value_merge, docs_mergedWith]
  · rfl
  · rfl

/-- Merging a named member keeps the title and the description. -/
theorem docs_mergeNamed {position : Nat} {reference name : String} {member : Option Schema} :
    (object.mergeNamed parent position reference name member).value.docs = object.docs := by
  unfold mergeNamed
  split
  · rfl
  · rw [value_merge, docs_mergedWith]
  · rfl
  · split
    · rw [value_mergeProperty, withProperty]
    · rfl

end ObjectOf

/-- Resolution does not report that a member closes a cycle. -/
theorem Table.cycleFree_resolve {table : Table} {subject : Option String} {reference : String} :
    (table.resolve subject reference).CycleFree := by
  unfold Table.resolve
  cases table.resolve? reference with
  | ok resolved => exact Reported.Every.pure _
  | error failure =>
      refine Reported.Every.bind (.note ?_) (.pure _)
      cases failure <;> nofun

end SchemaGraph
